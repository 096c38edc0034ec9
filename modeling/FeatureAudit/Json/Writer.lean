import FeatureAudit.Json.Value
import FeatureAudit.Text.CodeUnit
import FeatureAudit.Text.Hex

/-!
Writing JSON text in ASCII: everything else is escaped in code units of 16 bits.

* `indented` puts every item and field on a line of its own, two spaces deeper than what holds it.
* `compact` writes one line.
-/
namespace FeatureAudit.Json

open FeatureAudit.Decimal FeatureAudit.Text

/-- A code unit of 16 bits as an escape. -/
def unitEscape (n : Nat) : List Char := '\\' :: 'u' :: hexPadded 4 n

/-- One character inside a string. -/
def escapeChar (c : Char) : List Char :=
  if c == '"' then ['\\', '"']
  else if c == '\\' then ['\\', '\\']
  else if c == '\n' then ['\\', 'n']
  else if c == '\r' then ['\\', 'r']
  else if c == '\t' then ['\\', 't']
  else if c == '\x08' then ['\\', 'b']
  else if c == '\x0c' then ['\\', 'f']
  else if 0x20 ≤ c.toNat && c.toNat ≤ 0x7E then [c]
  else (unitsOf c).flatMap unitEscape

/-- A string in double quotes. -/
def stringText (s : String) : List Char := '"' :: s.toList.flatMap escapeChar ++ ['"']

/-- An integer in decimal. -/
def intText (n : Int) : List Char :=
  if n < 0 then '-' :: Nat.toDigits 10 n.natAbs else Nat.toDigits 10 n.natAbs

/-- A number that is no integer. -/
def floatText : Binary64 → List Char
  | .nan => "NaN".toList
  | .infinite false => "Infinity".toList
  | .infinite true => "-Infinity".toList
  | x => x.text.toList

/-- A line break and the indentation of a level. -/
def newLine (level : Nat) : List Char := '\n' :: List.replicate (2 * level) ' '

mutual

/-- A value on lines of its own, `level` levels deep. -/
def indentedAt (level : Nat) : Value → List Char
  | .null => "null".toList
  | .bool true => "true".toList
  | .bool false => "false".toList
  | .int n => intText n
  | .float x => floatText x
  | .str s => stringText s
  | .arr [] => "[]".toList
  | .arr (v :: rest) =>
    '[' :: newLine (level + 1) ++ indentedAt (level + 1) v ++ itemsAt (level + 1) rest ++
      newLine level ++ [']']
  | .obj [] => ['{', '}']
  | .obj ((name, v) :: rest) =>
    '{' :: newLine (level + 1) ++ stringText name ++ ':' :: ' ' :: indentedAt (level + 1) v ++
      fieldsAt (level + 1) rest ++ newLine level ++ ['}']

/-- The items after the first. -/
def itemsAt (level : Nat) : List Value → List Char
  | [] => []
  | v :: rest => ',' :: newLine level ++ indentedAt level v ++ itemsAt level rest

/-- The fields after the first. -/
def fieldsAt (level : Nat) : List (String × Value) → List Char
  | [] => []
  | (name, v) :: rest =>
    ',' :: newLine level ++ stringText name ++ ':' :: ' ' :: indentedAt level v ++
      fieldsAt level rest

end

/-- A value with every item and field on a line of its own. -/
def Value.indented (v : Value) : String := String.ofList (indentedAt 0 v)

mutual

/-- A value on one line. -/
def compactChars : Value → List Char
  | .null => "null".toList
  | .bool true => "true".toList
  | .bool false => "false".toList
  | .int n => intText n
  | .float x => floatText x
  | .str s => stringText s
  | .arr [] => "[]".toList
  | .arr (v :: rest) => '[' :: compactChars v ++ compactItems rest ++ [']']
  | .obj [] => ['{', '}']
  | .obj ((name, v) :: rest) =>
    '{' :: stringText name ++ ':' :: compactChars v ++ compactFields rest ++ ['}']

/-- The items after the first. -/
def compactItems : List Value → List Char
  | [] => []
  | v :: rest => ',' :: compactChars v ++ compactItems rest

/-- The fields after the first. -/
def compactFields : List (String × Value) → List Char
  | [] => []
  | (name, v) :: rest =>
    ',' :: stringText name ++ ':' :: compactChars v ++ compactFields rest

end

/-- A value on one line. -/
def Value.compact (v : Value) : String := String.ofList (compactChars v)

end FeatureAudit.Json
