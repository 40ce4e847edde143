import Mathlib.Data.List.Basic

/-!
# JSON trees

Trees as a C library with linked items sees them: an object is the list of its
members in order, member names may repeat, and a lookup by name returns the
first member whose name agrees up to the case of ASCII letters.

A number is a decimal `mantissa * 10 ^ exponent`, the value a JSON numeral has.
-/

/-- A JSON tree. -/
inductive Json where
  | null
  | bool (value : Bool)
  | number (mantissa exponent : Int)
  | string (value : String)
  | array (items : List Json)
  | object (members : List (String × Json))

namespace Json

/-- The text with its ASCII capitals made small. -/
def foldCase (name : String) : List Char :=
  name.toList.map Char.toLower

/-- The value of the first member whose name agrees with `name` up to case;
`none` for a missing member and for a tree that is no object. -/
def getObjectItem (tree : Json) (name : String) : Option Json :=
  match tree with
  | .object members =>
      (members.find? fun item => foldCase item.1 == foldCase name).map Prod.snd
  | _ => none

/-- The text of a string node; `none` for every other node. -/
def getStringValue : Json → Option String
  | .string value => some value
  | _ => none

/-- The child nodes in order: the items of an array, the member values of an
object. -/
def children : Json → List Json
  | .array items => items
  | .object members => members.map Prod.snd
  | _ => []

/-- An integer as a number node. -/
def ofInt (value : Int) : Json := .number value 0

@[simp]
theorem getStringValue_string (value : String) :
    (Json.string value).getStringValue = some value := rfl

theorem getStringValue_eq_some_iff {tree : Json} {value : String} :
    tree.getStringValue = some value ↔ tree = .string value := by
  cases tree <;> simp [getStringValue]

/-- A lookup that meets the name in the first member stops there. -/
theorem getObjectItem_cons_same
    {name other : String} (value : Json) (rest : List (String × Json))
    (same : foldCase other = foldCase name) :
    (Json.object ((other, value) :: rest)).getObjectItem name = some value := by
  simp [getObjectItem, List.find?, same]

/-- A first member of another name is skipped. -/
theorem getObjectItem_cons_different
    {name other : String} (value : Json) (rest : List (String × Json))
    (different : foldCase other ≠ foldCase name) :
    (Json.object ((other, value) :: rest)).getObjectItem name =
      (Json.object rest).getObjectItem name := by
  simp [getObjectItem, List.find?, beq_eq_false_iff_ne.mpr different]

@[simp]
theorem getObjectItem_nil (name : String) :
    (Json.object []).getObjectItem name = none := rfl

end Json
