import NearMiss.Index

/-!
# Suggestions

A method that has the shape of a known interface method under another name is a near miss. For each
name that the interfaces of its shape use there is one suggestion, with the interfaces that use it.
If one of them already has the method's own name, the method conforms and nothing is suggested.
-/

namespace NearMiss

/-- An interface that stands behind a suggestion. -/
structure Source where
  /-- The path of its package. -/
  package : String
  /-- Its name. -/
  interface : String
  deriving DecidableEq, Repr, Inhabited

/-- The package and the interface, joined by a dot. -/
def Source.qualifiedName (s : Source) : String :=
  s.package ++ "." ++ s.interface

/-- The interface of a corpus entry. -/
def InterfaceMethod.source (entry : InterfaceMethod) : Source :=
  ⟨entry.package, entry.interface⟩

/-- A proposed name and the interfaces that ask for it. -/
structure Suggestion where
  /-- The name that the method should have. -/
  targetName : String
  /-- The interfaces, each once. -/
  sources : List Source
  deriving DecidableEq, Repr, Inhabited

namespace Suggestion

/-- The suggestions that a bucket of interface methods makes, one for each name in it. -/
def ofBucket (bucket : List InterfaceMethod) : List Suggestion :=
  (Grouping.ofList (fun entry => entry.name) bucket).groups.map fun (name, entries) =>
    ⟨name, distinct (entries.map InterfaceMethod.source)⟩

/-- The suggestions for a method: none if no entry has its shape or one of them has its name. -/
def forMethod (index : Index) (m : Method) : List Suggestion :=
  match index.lookup? m with
  | none => []
  | some bucket => if bucket.any (·.name == m.name) then [] else ofBucket bucket

/-- The interfaces of a message: one alone, or all of them with the last set off by a word. A
message without interfaces cannot be written. -/
def phrase? : List String → Option String
  | [] => none
  | [name] => some (name ++ " interface")
  | name :: names =>
    let all := name :: names
    some (", ".intercalate all.dropLast ++ " and " ++ all.getLastD "" ++ " interfaces")

/-- What the user is told. -/
def message? (s : Suggestion) : Option String :=
  (phrase? (s.sources.map Source.qualifiedName)).map fun interfaces =>
    s!"This almost conforms to the {interfaces}, " ++
      s!"but the method name should be '{s.targetName}'"

end Suggestion

end NearMiss
