import FeatureAudit.Decimal.Shortest

/-!
JSON values. Objects keep the order of their fields; a field is found by its name.
-/
namespace FeatureAudit.Json

open FeatureAudit.Decimal

/-- A JSON value. Integers are exact; other numbers are binary floating point. -/
inductive Value where
  | null
  | bool (b : Bool)
  | int (n : Int)
  | float (x : Binary64)
  | str (s : String)
  | arr (items : List Value)
  | obj (fields : List (String × Value))
  deriving Inhabited

namespace Value

/-- The field of a list of fields with the given name. -/
def lookup? (fields : List (String × Value)) (name : String) : Option Value :=
  (fields.find? fun f => f.1 == name).map Prod.snd

/-- A field of an object. -/
def field? (v : Value) (name : String) : Option Value :=
  match v with
  | .obj fields => lookup? fields name
  | _ => none

/-- The text of a string value. -/
def str? : Value → Option String
  | .str s => some s
  | _ => none

/-- The items of an array. -/
def items? : Value → Option (List Value)
  | .arr items => some items
  | _ => none

/-- The integer of an integral number. -/
def int? : Value → Option Int
  | .int n => some n
  | _ => none

/-- Whether a value counts as present: not null, false, zero or empty. -/
def isPresent : Value → Bool
  | .null => false
  | .bool b => b
  | .int n => n != 0
  | .float x => !x.isZero
  | .str s => !s.isEmpty
  | .arr items => !items.isEmpty
  | .obj fields => !fields.isEmpty

mutual

/-- Whether all numbers in a value are finite. -/
def isFinite : Value → Bool
  | .float .nan => false
  | .float (.infinite _) => false
  | .arr items => areFinite items
  | .obj fields => fieldsAreFinite fields
  | _ => true

/-- Whether all numbers in some values are finite. -/
def areFinite : List Value → Bool
  | [] => true
  | v :: rest => v.isFinite && areFinite rest

/-- Whether all numbers in some fields are finite. -/
def fieldsAreFinite : List (String × Value) → Bool
  | [] => true
  | (_, v) :: rest => v.isFinite && fieldsAreFinite rest

end

/-- The values of a list, as an array of strings. -/
def ofStrings (xs : List String) : Value := .arr (xs.map .str)

/-- A text or null. -/
def ofText? : Option String → Value
  | some s => .str s
  | none => .null

end Value

/-- Set a field: the last value wins, in the place where the name first stood. -/
def setField {α : Type} (fields : List (String × α)) (name : String) (v : α) :
    List (String × α) :=
  match fields with
  | [] => [(name, v)]
  | f :: rest => if f.1 == name then (name, v) :: rest else f :: setField rest name v

end FeatureAudit.Json
