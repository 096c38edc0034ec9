import FeatureAudit.Json.Value
import FeatureAudit.Tier

/-!
Reading typed values out of JSON values, with every fault in them.

* `FieldFault` is a fault and its place.
* `Checked` is a value or its faults. Parts read side by side give all their faults, in order.
* `checkText`, `checkTier`, `checkFlag` and `checkList` read one kind of value each.
-/
namespace FeatureAudit

open FeatureAudit.Json FeatureAudit.Decimal

/-- A step into a value: to a field or to an item. -/
inductive Step where
  | field (name : String)
  | item (index : Nat)
  deriving DecidableEq, Repr

/-- What is wrong with a value. -/
inductive FaultKind where
  | missing
  | noTier
  | noText
  | noList
  | noFormat
  | noFlag
  | unclearFlag
  | noObject
  | badJson
  deriving DecidableEq, Repr

/-- The code of a fault. -/
def FaultKind.code : FaultKind → String
  | .missing => "missing"
  | .noTier => "enum"
  | .noText => "string_type"
  | .noList => "list_type"
  | .noFormat => "literal_error"
  | .noFlag => "bool_type"
  | .unclearFlag => "bool_parsing"
  | .noObject => "model_attributes_type"
  | .badJson => "json_invalid"

/-- The wording of a fault. -/
def FaultKind.message : FaultKind → String
  | .missing => "Field required"
  | .noTier => "Input should be 'widely-available', 'newly-available' or 'limited'"
  | .noText => "Input should be a valid string"
  | .noList => "Input should be a valid list"
  | .noFormat => "Input should be 'console' or 'json'"
  | .noFlag => "Input should be a valid boolean"
  | .unclearFlag => "Input should be a valid boolean, unable to interpret input"
  | .noObject => "Input should be a valid dictionary or object to extract fields from"
  | .badJson => "JSON decode error"

/-- A fault, the steps that lead to it, and whether all numbers in what is faulty are finite. -/
structure FieldFault where
  place : List Step
  kind : FaultKind
  isFinite : Bool
  deriving DecidableEq, Repr

/-- Faults as they are seen from one step further outside. -/
def inside (step : Step) (faults : List FieldFault) : List FieldFault :=
  faults.map fun f => { f with place := step :: f.place }

/-- A value, or the faults of what it was to be read from. -/
inductive Checked (α : Type) where
  | good (value : α)
  | faulty (faults : List FieldFault)
  deriving Repr

namespace Checked

variable {α β : Type}

/-- The faults of a reading; none if it is good. -/
def faults : Checked α → List FieldFault
  | .good _ => []
  | .faulty fs => fs

/-- Change the value that was read. -/
def map (f : α → β) : Checked α → Checked β
  | .good a => .good (f a)
  | .faulty fs => .faulty fs

/-- Apply what was read first to what was read next; the faults of both are kept. -/
def seq (f : Checked (α → β)) (a : Unit → Checked α) : Checked β :=
  match f, a () with
  | .good f, .good a => .good (f a)
  | .good _, .faulty fs => .faulty fs
  | .faulty fs, a => .faulty (fs ++ a.faults)

instance : Functor Checked where
  map := Checked.map

instance : Applicative Checked where
  pure := .good
  seq := Checked.seq

/-- One fault at the value itself. -/
def fail (kind : FaultKind) (faulty : Value) : Checked α := .faulty [⟨[], kind, faulty.isFinite⟩]

/-- The same reading, one step further inside. -/
def within (step : Step) : Checked α → Checked α
  | .good a => .good a
  | .faulty fs => .faulty (inside step fs)

end Checked

/-- A text. -/
def checkText : Value → Checked String
  | .str s => .good s
  | v => .fail .noText v

/-- A tier, by its name. -/
def checkTier (v : Value) : Checked Tier :=
  match v.str?.bind Tier.ofName? with
  | some t => .good t
  | none => .fail .noTier v

/-- The words for yes. -/
def yesWords : List String := ["1", "t", "y", "on", "yes", "true"]

/-- The words for no. -/
def noWords : List String := ["0", "f", "n", "no", "off", "false"]

/-- A flag from a word, in either case. -/
def flagOfWord (s : String) : Checked Bool :=
  let word := s.map Char.toLower
  if yesWords.contains word then .good true
  else if noWords.contains word then .good false
  else .fail .unclearFlag (.str s)

/-- Two to the power of 63, the bound of integers of 64 bits. -/
def wordBound : Int := 9223372036854775808

/-- A flag from an integer. Those that need no more than 64 bits can be told to be neither yes nor
no. -/
def flagOfInt (least n : Int) : Checked Bool :=
  if n = 0 then .good false
  else if n = 1 then .good true
  else if least ≤ n ∧ n < wordBound then .fail .unclearFlag (.int n)
  else .fail .noFlag (.int n)

/-- A flag: a truth value, the numbers 0 and 1, or a word for yes or no. -/
def checkFlag : Value → Checked Bool
  | .bool b => .good b
  | .int n => flagOfInt (-wordBound) n
  | .float x =>
    match x.toInt? with
    | some n => flagOfInt (-wordBound + 1) n
    | none => .fail .noFlag (.float x)
  | .str s => flagOfWord s
  | v => .fail .noFlag v

/-- A value or nothing, where null is nothing. -/
def checkOptional {α : Type} (check : Value → Checked α) : Value → Checked (Option α)
  | .null => .good none
  | v => some <$> check v

/-- Items that are read one by one, from an index on. -/
def checkItems {α : Type} (check : Value → Checked α) : Nat → List Value → Checked (List α)
  | _, [] => .good []
  | i, v :: rest => List.cons <$> (check v).within (.item i) <*> checkItems check (i + 1) rest

/-- A list. -/
def checkList {α : Type} (check : Value → Checked α) : Value → Checked (List α)
  | .arr items => checkItems check 0 items
  | v => .fail .noList v

/-- A field that must be there. Where it is not, what is faulty is the whole object. -/
def checkField {α : Type} (fields : List (String × Value)) (name : String)
    (check : Value → Checked α) : Checked α :=
  match Value.lookup? fields name with
  | some v => (check v).within (.field name)
  | none => Checked.within (.field name) (.fail .missing (.obj fields))

/-- A field that may be left out. -/
def checkFieldOr {α : Type} (fallback : α) (fields : List (String × Value)) (name : String)
    (check : Value → Checked α) : Checked α :=
  match Value.lookup? fields name with
  | some v => (check v).within (.field name)
  | none => .good fallback

end FeatureAudit
