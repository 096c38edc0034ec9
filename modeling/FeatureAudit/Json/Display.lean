import FeatureAudit.Json.Value
import FeatureAudit.Text.Quoted

/-!
JSON values as readable text: the words `None`, `True` and `False`, numbers, quoted strings, and
lists and mappings in brackets.
-/
namespace FeatureAudit.Json

open FeatureAudit.Text

mutual

/-- A value as it stands inside a list or a mapping: a string is quoted. -/
def Value.literal : Value → String
  | .null => "None"
  | .bool true => "True"
  | .bool false => "False"
  | .int n => if n < 0 then "-" ++ toString n.natAbs else toString n.natAbs
  | .float x => x.text
  | .str s => quoted s
  | .arr items => "[" ++ ", ".intercalate (literals items) ++ "]"
  | .obj fields => "\x7b" ++ ", ".intercalate (fieldLiterals fields) ++ "\x7d"

/-- The literals of a list. -/
def literals : List Value → List String
  | [] => []
  | v :: rest => v.literal :: literals rest

/-- The literals of fields, each with its quoted name. -/
def fieldLiterals : List (String × Value) → List String
  | [] => []
  | (name, v) :: rest => (quoted name ++ ": " ++ v.literal) :: fieldLiterals rest

end

/-- A value as text of its own: a string is itself. -/
def Value.display : Value → String
  | .str s => s
  | v => v.literal

end FeatureAudit.Json
