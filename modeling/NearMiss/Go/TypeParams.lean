import NearMiss.Go.Statement

/-!
# Type parameters

Square brackets behind a declared name hold type parameters or the length of an array. They hold
type parameters if their text can be read so, and if it is not better read as a length: a name and
its constraint, such as `N *M`, may as well be a product.
-/

namespace NearMiss.Go

/-- What a type tells about other readings of its text. -/
structure TypeShape where
  /-- Whether the text could be an operand. -/
  isOperand : Bool
  /-- Whether the text could go on with an expression that ends before it. -/
  isSequel : Bool
  /-- How much the text looks like a type rather than part of an expression. -/
  leaning : Int
  deriving DecidableEq, Repr

namespace TypeShape

/-- A type that is a plain name, which might rather be a value. -/
def name : TypeShape := ⟨true, false, -1⟩

/-- A name of another package. -/
def qualified : TypeShape := ⟨true, false, 0⟩

/-- A type that no expression looks like. -/
def plain : TypeShape := ⟨false, false, 0⟩

/-- A pointer, which looks like a product, or a type in parens, which looks like a call. -/
def applied (inner : TypeShape) : TypeShape := ⟨inner.isOperand, inner.isOperand, inner.leaning⟩

/-- An array, which looks like an indexing. -/
def array (element : TypeShape) : TypeShape := ⟨false, element.isSequel, element.leaning⟩

/-- How types that follow each other lean together. -/
def leaningOf (shapes : List TypeShape) : Int :=
  shapes.foldr (fun shape rest => shape.leaning + rest) 0

/-- A type with arguments. With a single argument that could be an operand it looks like an
indexing. -/
def generic (base : TypeShape) (arguments : List (List TypeShape)) : TypeShape :=
  let more :=
    match arguments with
    | [argument] =>
      if argument.all (·.isOperand) then leaningOf argument else -base.leaning
    | _ => -base.leaning
  ⟨true, false, 3 + more⟩

end TypeShape

/-! ## Reading types

A stretch is read without its trivia. Nesting is bounded by `fuel`. -/

/-- The inside of an opening bracket that comes next, and what stands behind it. -/
def bracketed? (mark : Char) (stretch : List Lexeme) : Option (List Lexeme × List Lexeme) :=
  match stretch with
  | x :: rest => if x.isMark mark then some (enclosed rest) else none
  | [] => none

/-- What stands behind the arrow that comes next. -/
def afterArrow? (stretch : List Lexeme) : Option (List Lexeme) :=
  match stretch with
  | x :: y :: rest => if x.isMark '<' && y.isMark '-' then some rest else none
  | _ => none

/-- The items of a list between commas; a comma may stand behind the last one. -/
def itemsUpTo {α : Type} (item? : List Lexeme → Option (α × List Lexeme)) :
    Nat → List Lexeme → Option (List α)
  | 0, _ => none
  | fuel + 1, stretch =>
    match item? stretch with
    | none => none
    | some (item, []) => some [item]
    | some (item, comma :: rest) =>
      if comma.isMark ',' then
        if rest.isEmpty then some [item] else (itemsUpTo item? fuel rest).map (item :: ·)
      else none

/-- The types of a union whose first type was read by the given reader, and what stands behind. -/
def unionUpTo (type? : List Lexeme → Option (TypeShape × List Lexeme)) :
    Nat → List Lexeme → Option (List TypeShape × List Lexeme)
  | 0, _ => none
  | fuel + 1, stretch =>
    match type? stretch with
    | none => none
    | some (shape, []) => some ([shape], [])
    | some (shape, bar :: rest) =>
      if bar.isMark '|' then
        (unionUpTo type? fuel rest).map fun (shapes, rest) => (shape :: shapes, rest)
      else some ([shape], bar :: rest)

/-- A named type with its arguments, where types inside are read by the given reader. -/
def named (type? : List Lexeme → Option (TypeShape × List Lexeme)) (base : TypeShape)
    (rest : List Lexeme) : TypeShape × List Lexeme :=
  match bracketed? '[' rest with
  | none => (base, rest)
  | some (inside, behind) =>
    match itemsUpTo (unionUpTo type? inside.length) inside.length inside with
    | none => (base, rest)
    | some arguments => (.generic base arguments, behind)

/-- The type at the front of a stretch, and what stands behind it. -/
def typeUpTo : Nat → List Lexeme → Option (TypeShape × List Lexeme)
  | 0, _ => none
  | _, [] => none
  | fuel + 1, x :: rest =>
    let type? := typeUpTo fuel
    let asPlain (found : Option (TypeShape × List Lexeme)) :=
      found.map fun (_, rest) => (TypeShape.plain, rest)
    if x.isMark '*' then
      (type? rest).map fun (inner, rest) => (.applied inner, rest)
    else if x.isMark '~' then asPlain (type? rest)
    else if x.isMark '(' then
      let (inside, behind) := enclosed rest
      match type? inside with
      | some (inner, []) => some (.applied inner, behind)
      | _ => none
    else if x.isMark '[' then
      let (inside, behind) := enclosed rest
      if inside.isEmpty then asPlain (type? behind)
      else (type? behind).map fun (element, rest) => (.array element, rest)
    else if x.isWord "interface" || x.isWord "struct" then
      (bracketed? '{' rest).map fun (_, rest) => (.plain, rest)
    else if x.isWord "map" then
      (bracketed? '[' rest).bind fun (_, rest) => asPlain (type? rest)
    else if x.isWord "chan" then asPlain (type? ((afterArrow? rest).getD rest))
    else if x.isMark '<' then
      match afterArrow? (x :: rest) with
      | some (word :: rest) => if word.isWord "chan" then asPlain (type? rest) else none
      | _ => none
    else if x.isWord "func" then
      (bracketed? '(' rest).map fun (_, rest) =>
        match bracketed? '(' rest with
        | some (_, rest) => (.plain, rest)
        | none => ((asPlain (type? rest)).getD (.plain, rest))
    else if x.isName then
      match rest with
      | point :: member :: behind =>
        if point.isMark '.' && member.isName then some (named type? .qualified behind)
        else some (named type? .name rest)
      | _ => some (named type? .name rest)
    else none

/-! ## Reading type parameters -/

/-- Type parameters with a common constraint: how many names there are, and the types of the
constraint. -/
structure TypeParams where
  /-- How many names share the constraint. -/
  names : Nat
  /-- The types of the constraint. -/
  constraint : List TypeShape
  deriving DecidableEq, Repr

/-- The names at the front of a stretch, which commas separate: how many there are, and what stands
behind them. -/
def namesUpTo : Nat → List Lexeme → Option (Nat × List Lexeme)
  | 0, _ => none
  | _, [] => none
  | fuel + 1, x :: rest =>
    if x.isName then
      match rest with
      | comma :: later =>
        if comma.isMark ',' then (namesUpTo fuel later).map fun (n, rest) => (n + 1, rest)
        else some (1, rest)
      | [] => some (1, [])
    else none

/-- Names and their constraint at the front of a stretch, and what stands behind them. -/
def typeParams? (stretch : List Lexeme) : Option (TypeParams × List Lexeme) :=
  (namesUpTo stretch.length stretch).bind fun (names, rest) =>
    (unionUpTo (typeUpTo rest.length) rest.length rest).map fun (constraint, rest) =>
      (⟨names, constraint⟩, rest)

/-- Whether a constraint makes an expression together with the one name before it, and looks more
like that than like a constraint. -/
def looksLikeLength (constraint : List TypeShape) : Bool :=
  match constraint with
  | [] => false
  | first :: others =>
    first.isSequel && others.all (·.isOperand) && TypeShape.leaningOf constraint < 0

/-- Whether the inside of square brackets behind a declared name lists type parameters. A comma
never stands in a length. -/
def listsTypeParams (inside : List Lexeme) : Bool :=
  let inside := inside.filter (!·.isTrivia)
  match itemsUpTo typeParams? inside.length inside with
  | none => false
  | some [⟨1, constraint⟩] =>
    inside.getLast?.any (·.isMark ',') || !looksLikeLength constraint
  | some _ => true

end NearMiss.Go
