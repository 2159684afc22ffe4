import NearMiss.Json.Decimal

/-!
# JSON values

The fields of an object keep the order in which their names first came.
-/

namespace NearMiss

/-- A JSON value. Whole numbers are kept apart from numbers with a fraction or an exponent. -/
inductive Json where
  /-- `null`. -/
  | null
  /-- `true` or `false`. -/
  | bool (value : Bool)
  /-- A whole number. -/
  | int (value : Int)
  /-- A number with a fraction or an exponent. -/
  | decimal (value : Decimal)
  /-- The number that is none. -/
  | nan
  /-- An infinite number. -/
  | infinity (negative : Bool)
  /-- A string. -/
  | str (value : String)
  /-- An array. -/
  | arr (items : List Json)
  /-- An object. -/
  | obj (fields : List (String × Json))
  deriving Repr, Inhabited

namespace Json

/-- Gives a field its value; a field that is already there keeps its place. -/
def setField (key : String) (value : Json) : List (String × Json) → List (String × Json)
  | [] => [(key, value)]
  | (k, v) :: later =>
    if k = key then (k, value) :: later else (k, v) :: setField key value later

end Json

end NearMiss
