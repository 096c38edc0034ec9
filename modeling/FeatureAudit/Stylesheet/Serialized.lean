import FeatureAudit.Stylesheet.Lexeme
import FeatureAudit.Text.Quoted

/-!
Writing components as text that reads back as the same components.

* Names, strings and addresses are escaped where they have to be.
* Between two components that would run together an empty comment is written
  (`needsComment`).
-/
namespace FeatureAudit.Stylesheet

/-! ### Escapes -/

/-- A code point as an escape: hexadecimal digits and a space. -/
def hexEscape (c : Char) : List Char :=
  '\\' :: (Nat.toDigits 16 c.toNat).map Char.toUpper ++ [' ']

/-- A line break of any kind. -/
def isLineBreak (c : Char) : Bool := c == '\n' || c == '\r' || c == '\x0c'

/-- A character after the start of a name. -/
def nameChar (c : Char) : List Char :=
  if isNameChar c then [c] else if isLineBreak c then hexEscape c else ['\\', c]

/-- The first letter of an identifier. -/
def nameStart (c : Char) : List Char :=
  if isNameStart c then [c]
  else if isLineBreak c || c.isDigit then hexEscape c
  else ['\\', c]

/-- A name that need not be an identifier. -/
def nameText (cs : List Char) : List Char := cs.flatMap nameChar

/-- An identifier. -/
def identText : List Char → List Char
  | [] => []
  | ['-'] => ['\\', '-']
  | '-' :: '-' :: rest => '-' :: '-' :: nameText rest
  | '-' :: c :: rest => '-' :: nameStart c ++ nameText rest
  | c :: rest => nameStart c ++ nameText rest

/-- A character inside a string. -/
def stringChar (c : Char) : List Char :=
  if c == '"' || c == '\\' then ['\\', c] else if isLineBreak c then hexEscape c else [c]

/-- A character inside a bare address. -/
def urlChar (c : Char) : List Char :=
  if "'\"\\ ()".toList.contains c then ['\\', c]
  else if c == '\t' || isLineBreak c then hexEscape c
  else [c]

/-- A number in uppercase hexadecimal digits. -/
def upperHex (n : Nat) : List Char := (Nat.toDigits 16 n).map Char.toUpper

/-- The unit of a dimension. One that would read as an exponent has its first letter escaped. -/
def unitText (unit : List Char) : List Char :=
  match unit with
  | [] => []
  | c :: rest =>
    if (c == 'e' || c == 'E') && (rest.isEmpty || rest.head? == some '-') then
      "\\65 ".toList ++ nameText rest
    else identText unit

/-- What stands in the text for a fault. -/
def faultText : Fault → List Char
  | .badString => "\"[bad string]\n".toList
  | .badUrl => "url([bad url])".toList
  | .unmatched closer => [closer]
  | _ => []

/-- A leaf as text. -/
def leafText : Leaf → List Char
  | .whitespace text => text.toList
  | .comment text => "/*".toList ++ text.toList ++ "*/".toList
  | .literal text => text.toList
  | .ident name => identText name.toList
  | .atKeyword name => '@' :: identText name.toList
  | .hash name true => '#' :: identText name.toList
  | .hash name false => '#' :: nameText name.toList
  | .string value closed =>
    '"' :: value.toList.flatMap stringChar ++ (if closed then ['"'] else [])
  | .url value closed =>
    "url(".toList ++ value.toList.flatMap urlChar ++ (if closed then [')'] else [])
  | .unicodeRange first last =>
    'U' :: '+' :: upperHex first ++ (if last = first then [] else '-' :: upperHex last)
  | .number text => text.toList
  | .percentage text => text.toList ++ ['%']
  | .dimension text unit => text.toList ++ unitText unit.toList
  | .error fault => faultText fault

/-! ### Neighbours -/

/-- The kinds of components that matter for their neighbours. -/
inductive Kind where
  | ident | atKeyword | hash | dimension | number | percentage | function | url | unicodeRange
  | round | literal (text : String) | whitespace (text : String) | other
  deriving DecidableEq, Repr

/-- The kind of a component. -/
def Component.kind : Component → Kind
  | .leaf _ (.ident _) => .ident
  | .leaf _ (.atKeyword _) => .atKeyword
  | .leaf _ (.hash ..) => .hash
  | .leaf _ (.dimension ..) => .dimension
  | .leaf _ (.number _) => .number
  | .leaf _ (.percentage _) => .percentage
  | .leaf _ (.url ..) => .url
  | .leaf _ (.unicodeRange ..) => .unicodeRange
  | .leaf _ (.literal text) => .literal text
  | .leaf _ (.whitespace text) => .whitespace text
  | .nest _ (.function _) _ => .function
  | .nest _ (.block .round) _ => .round
  | _ => .other

/-- Pairs of kinds that would run together: each row lists what must not follow directly. -/
def runTogether : List (List Kind × List Kind) :=
  [([.ident, .atKeyword, .hash, .dimension, .literal "#", .literal "-", .number],
     [.ident, .function, .url, .number, .percentage, .dimension, .unicodeRange]),
   ([.ident, .atKeyword, .hash, .dimension], [.literal "-", .literal "-->"]),
   ([.literal "#", .literal "-", .number, .literal "@"], [.ident, .function, .url]),
   ([.unicodeRange, .literal ".", .literal "+"], [.number, .percentage, .dimension]),
   ([.literal "@"], [.ident, .function, .url, .unicodeRange, .literal "-"]),
   ([.unicodeRange], [.ident, .function, .literal "?"]),
   ([.literal "$", .literal "*", .literal "^", .literal "~", .literal "|"], [.literal "="]),
   ([.ident], [.round]),
   ([.literal "|"], [.literal "|"]),
   ([.literal "/"], [.literal "*"])]

/-- Whether two neighbours need a comment between them. -/
def needsComment (left right : Kind) : Bool :=
  runTogether.any fun row => row.1.contains left && row.2.contains right

/-- Whether a kind is whitespace that starts with a line break. -/
def Kind.startsLine : Kind → Bool
  | .whitespace text => text.toList.head? == some '\n'
  | _ => false

/-- What is written between two neighbours. A lone backslash must be followed by a line break. -/
def between (left : Option Kind) (right : Kind) : List Char :=
  match left with
  | none => []
  | some l =>
    if needsComment l right then "/**/".toList
    else if l = .literal "\\" && !right.startsLine then ['\n']
    else []

/-- Whether the text ended inside the last string of the arguments, those of a last function
included. -/
def endsInString (args : List Component) : Bool :=
  match _h : args.getLast? with
  | some (.leaf _ (.error .endInString)) => true
  | some (.nest _ (.function _) inner) => endsInString inner
  | _ => false
termination_by Component.weightOfAll args
decreasing_by
  obtain ⟨front, rfl⟩ := List.getLast?_eq_some_iff.1 _h
  simp [Component.weightOfAll_append, Component.weightOfAll, Component.weight]
  omega

mutual

/-- A component as text. -/
def Component.text : Component → List Char
  | .leaf _ leaf => leafText leaf
  | .nest _ (.function name) args =>
    identText name.toList ++ '(' :: textAfter none args ++ (if endsInString args then [] else [')'])
  | .nest _ (.block b) content => b.opener :: textAfter none content ++ [b.closer]

/-- Components as text after a component of some kind. -/
def textAfter : Option Kind → List Component → List Char
  | _, [] => []
  | left, c :: rest => between left c.kind ++ c.text ++ textAfter (some c.kind) rest

end

/-- Components as text. -/
def serialized (cs : List Component) : List Char := textAfter none cs

end FeatureAudit.Stylesheet
