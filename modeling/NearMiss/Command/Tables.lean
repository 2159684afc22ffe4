import NearMiss.Console.Table
import NearMiss.Diagnostic

/-!
# Tables of the commands

What the commands show in tables: near misses, the parts of a method, and the interface methods of
one shape.
-/

namespace NearMiss.Command

open Console

/-- A diagnostic and the name of the file it is about. -/
abbrev Row := String × Diagnostic

/-- The names of the interfaces behind a suggestion. -/
def sourceNames (suggestion : Suggestion) : String :=
  ", ".intercalate (suggestion.sources.map Source.qualifiedName)

/-- The table of near misses. Lines and columns count from one. -/
def diagnosticsTable (rows : List Row) : Table where
  headers := ["Location", "Method", "Rename To", "Interfaces"]
  rows := rows.map fun (file, d) =>
    [s!"{file}:{d.line + 1}:{d.start + 1}", d.methodName, d.suggestion.targetName,
      sourceNames d.suggestion]

/-- The text of a mark that is set or not. -/
def yes (mark : Bool) : String :=
  if mark then "yes" else ""

/-- The row of a parameter or result. -/
def paramRow (slot : String) (p : Param) : List String :=
  let name := p.name.getD ""
  [slot, if name = "" then "[dim]-[/dim]" else name, p.type, yes p.isPointer, yes p.isVariadic]

/-- The table of the parameters and results of a method. -/
def paramsTable (m : Method) : Table where
  title := some (if m.name = "" then "(unnamed)" else m.name)
  headers := ["Slot", "Name", "Type", "Pointer", "Variadic"]
  rows := m.params.map (paramRow "param") ++ m.returns.map (paramRow "return")

/-- The table of interface methods. -/
def bucketTable (entries : List InterfaceMethod) : Table where
  headers := ["Package", "Interface", "Method", "Signature"]
  rows := entries.map fun entry => [entry.package, entry.interface, entry.name, entry.signature]

end NearMiss.Command
