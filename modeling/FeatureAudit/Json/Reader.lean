import FeatureAudit.Json.Value
import FeatureAudit.Room
import FeatureAudit.Text.CodeUnit
import FeatureAudit.Text.Hex
import FeatureAudit.Text.Integer

/-!
Reading JSON text. Numbers may also be `NaN`, `Infinity` and `-Infinity`; of two fields of one name
the last wins, in the place of the first.

* `Fault` is what can be wrong with a text, and `ReadError` adds the place.
* `read` reads a whole text.

Every step returns what is left of the text, and `fuel`, which starts at the length of the text,
bounds the number of steps.
-/
namespace FeatureAudit.Json

open FeatureAudit.Decimal FeatureAudit.Text

/-- What is wrong at some place of a text. -/
inductive Fault where
  | expectingValue
  | expectingPropertyName
  | expectingColon
  | expectingComma
  | unterminatedString
  | controlCharacter
  | badEscape
  | badUnicodeEscape
  | extraData
  | byteOrderMark
  deriving DecidableEq, Repr

/-- The wording of a fault. -/
def Fault.message : Fault → String
  | .expectingValue => "Expecting value"
  | .expectingPropertyName => "Expecting property name enclosed in double quotes"
  | .expectingColon => "Expecting ':' delimiter"
  | .expectingComma => "Expecting ',' delimiter"
  | .unterminatedString => "Unterminated string starting at"
  | .controlCharacter => "Invalid control character at"
  | .badEscape => "Invalid \\escape"
  | .badUnicodeEscape => "Invalid \\uXXXX escape"
  | .extraData => "Extra data"
  | .byteOrderMark => "Unexpected UTF-8 BOM (decode using utf-8-sig)"

/-- Why a step of the reader stops: a fault with the number of characters left there, an integer
of too many digits, or values nested too deeply. -/
inductive Stop where
  | fault (fault : Fault) (left : Nat)
  | integerTooLong (digits : Nat)
  | nestedTooDeep
  deriving DecidableEq, Repr

/-- Why a text cannot be read. -/
inductive ReadError where
  | malformed (fault : Fault) (line column offset : Nat)
  | integerTooLong (digits : Nat)
  | nestedTooDeep
  deriving DecidableEq, Repr

/-- The wording of an error, with the place of a fault. -/
def ReadError.message : ReadError → String
  | .malformed fault line column offset =>
    s!"{fault.message}: line {line} column {column} (char {offset})"
  | .integerTooLong digits => integerLimitMessage digits
  | .nestedTooDeep => "maximum recursion depth exceeded while decoding a JSON document"

/-- The four characters that may surround a value. -/
def isSpace (c : Char) : Bool := c == ' ' || c == '\t' || c == '\n' || c == '\r'

/-- The text from the first character that is no space. -/
def skipSpace (cs : List Char) : List Char := cs.dropWhile isSpace

/-- Stop with a fault at the text that is left. -/
def failAt {α : Type} (fault : Fault) (left : List Char) : Except Stop α :=
  .error (.fault fault left.length)

/-- The number that four hexadecimal digits write. -/
def hex4? : List Char → Option (Nat × List Char)
  | a :: b :: c :: d :: rest =>
    match hexValue? a, hexValue? b, hexValue? c, hexValue? d with
    | some a, some b, some c, some d => some (((a * 16 + b) * 16 + c) * 16 + d, rest)
    | _, _, _, _ => none
  | _ => none

/-- The second half of a pair of escapes, if the text goes on with one. -/
def lowHalf? (cs : List Char) : Except Stop (Option (Nat × List Char)) :=
  match cs with
  | '\\' :: 'u' :: rest =>
    if (rest.drop 4).isEmpty then .ok none
    else
      match hex4? rest with
      | some (n, rest') =>
        .ok (if isLowHalf n then some (n, rest') else none)
      | none => failAt .badUnicodeEscape ('u' :: rest)
  | _ => .ok none

/-- The character that `\u` and four digits write, with the second escape of a pair; `cs` is the
text after the `u`. -/
def unicodeEscape (cs : List Char) : Except Stop (Char × List Char) :=
  -- After the digits there has to be at least the closing quote.
  if (cs.drop 4).isEmpty then failAt .badUnicodeEscape ('u' :: cs)
  else
    match hex4? cs with
    | none => failAt .badUnicodeEscape ('u' :: cs)
    | some (n, rest) =>
      if isHighHalf n then
        match lowHalf? rest with
        | .error e => .error e
        | .ok (some (low, rest')) => .ok (pairChar n low, rest')
        | .ok none => .ok (unitChar n, rest)
      else .ok (unitChar n, rest)

/-- The character that an escape other than `\u` writes. -/
def simpleEscape? (c : Char) : Option Char :=
  match c with
  | '"' => some '"'
  | '\\' => some '\\'
  | '/' => some '/'
  | 'b' => some '\x08'
  | 'f' => some '\x0c'
  | 'n' => some '\n'
  | 'r' => some '\r'
  | 't' => some '\t'
  | _ => none

/-- Read a string up to its closing quote. `done` holds the characters so far, the last first, and
`start` is the text from the opening quote on. -/
def readString (start : List Char) : Nat → List Char → List Char → Except Stop (String × List Char)
  | 0, _, _ => failAt .unterminatedString start
  | fuel + 1, done, cs =>
    match cs with
    | [] => failAt .unterminatedString start
    | '"' :: rest => .ok (String.ofList done.reverse, rest)
    | '\\' :: [] => failAt .unterminatedString start
    | '\\' :: 'u' :: rest =>
      match unicodeEscape rest with
      | .error e => .error e
      | .ok (c, rest') => readString start fuel (c :: done) rest'
    | '\\' :: e :: rest =>
      match simpleEscape? e with
      | some c => readString start fuel (c :: done) rest
      | none => failAt .badEscape cs
    | c :: rest =>
      if c.toNat < 0x20 then failAt .controlCharacter cs
      else readString start fuel (c :: done) rest

/-- The longest run of digits at the front of a text. -/
def digitRun (cs : List Char) : List Char × List Char := cs.span Char.isDigit

/-- The number that decimal digits write. -/
def natOf (digits : List Char) : Nat :=
  digits.foldl (fun n c => 10 * n + (c.toNat - 48)) 0

/-- The fraction at the front of a text: a point and digits. -/
def readFraction (cs : List Char) : List Char × List Char :=
  match cs with
  | '.' :: c :: rest =>
    if c.isDigit then
      let (more, rest') := digitRun rest
      (c :: more, rest')
    else ([], cs)
  | _ => ([], cs)

/-- The exponent at the front of a text: a letter, a sign and digits. -/
def readExponent? (cs : List Char) : Option (Int × List Char) :=
  match cs with
  | e :: rest =>
    if e == 'e' || e == 'E' then
      let (negative, rest') : Bool × List Char :=
        match rest with
        | '-' :: r => (true, r)
        | '+' :: r => (false, r)
        | r => (false, r)
      let (digits, rest'') := digitRun rest'
      if digits.isEmpty then none
      else some (if negative then -(natOf digits : Int) else natOf digits, rest'')
    else none
  | [] => none

/-- Read a number; `cs` starts with it. -/
def readNumber (cs : List Char) : Except Stop (Value × List Char) :=
  let (negative, unsigned) : Bool × List Char :=
    match cs with
    | '-' :: rest => (true, rest)
    | _ => (false, cs)
  let (whole, rest) : List Char × List Char :=
    match unsigned with
    | '0' :: rest => (['0'], rest)
    | _ => digitRun unsigned
  if whole.isEmpty then failAt .expectingValue cs
  else
    let (fraction, rest) := readFraction rest
    let (exponent, rest) :=
      match readExponent? rest with
      | some (e, rest') => (some e, rest')
      | none => (none, rest)
    if fraction.isEmpty && exponent.isNone then
      if whole.length > integerDigitLimit then .error (.integerTooLong whole.length)
      else
        let n := natOf whole
        .ok (.int (if negative then -(n : Int) else n), rest)
    else
      let scale : Int := exponent.getD 0 - fraction.length
      .ok (.float (ofDecimal negative (natOf (whole ++ fraction)) scale), rest)

/-- Values that are written as a word. -/
def wordValues : List (List Char × Value) :=
  [("null".toList, .null), ("true".toList, .bool true), ("false".toList, .bool false),
   ("NaN".toList, .float .nan), ("Infinity".toList, .float (.infinite false)),
   ("-Infinity".toList, .float (.infinite true))]

/-- The value of the word at the front of a text. -/
def readWord? (cs : List Char) : Option (Value × List Char) :=
  wordValues.findSome? fun (word, v) =>
    if word.isPrefixOf cs then some (v, cs.drop word.length) else none

mutual

/-- Read the value at the front of a text; `depth` more levels may be opened. -/
def readValue : Nat → Nat → List Char → Except Stop (Value × List Char)
  | 0, _, _ => .error .nestedTooDeep
  | fuel + 1, depth, cs =>
    match cs with
    | '"' :: rest =>
      match readString cs fuel [] rest with
      | .error e => .error e
      | .ok (s, rest') => .ok (.str s, rest')
    | '{' :: rest =>
      match depth with
      | 0 => .error .nestedTooDeep
      | depth + 1 =>
        match skipSpace rest with
        | '}' :: rest' => .ok (.obj [], rest')
        | rest' => readFields fuel depth [] rest'
    | '[' :: rest =>
      match depth with
      | 0 => .error .nestedTooDeep
      | depth + 1 =>
        match skipSpace rest with
        | ']' :: rest' => .ok (.arr [], rest')
        | rest' => readItems fuel depth [] rest'
    | _ =>
      match readWord? cs with
      | some result => .ok result
      | none => readNumber cs

/-- Read the items of an array; `done` holds those so far, the last first. -/
def readItems : Nat → Nat → List Value → List Char → Except Stop (Value × List Char)
  | 0, _, _, _ => .error .nestedTooDeep
  | fuel + 1, depth, done, cs =>
    match readValue fuel depth cs with
    | .error e => .error e
    | .ok (v, rest) =>
      match skipSpace rest with
      | ']' :: rest' => .ok (.arr (v :: done).reverse, rest')
      | ',' :: rest' => readItems fuel depth (v :: done) (skipSpace rest')
      | rest' => failAt .expectingComma rest'

/-- Read the fields of an object after those of `done`. -/
def readFields : Nat → Nat → List (String × Value) → List Char → Except Stop (Value × List Char)
  | 0, _, _, _ => .error .nestedTooDeep
  | fuel + 1, depth, done, cs =>
    match cs with
    | '"' :: rest =>
      match readString cs fuel [] rest with
      | .error e => .error e
      | .ok (name, rest) =>
        match skipSpace rest with
        | ':' :: rest =>
          match readValue fuel depth (skipSpace rest) with
          | .error e => .error e
          | .ok (v, rest) =>
            let done := setField done name v
            match skipSpace rest with
            | '}' :: rest => .ok (.obj done, rest)
            | ',' :: rest => readFields fuel depth done (skipSpace rest)
            | rest => failAt .expectingComma rest
        | rest => failAt .expectingColon rest
    | _ => failAt .expectingPropertyName cs

end

/-- The place of a fault: the line and the column count from one, the offset from zero. -/
def placeOf (fault : Fault) (text : List Char) (left : Nat) : ReadError :=
  let before := text.take (text.length - left)
  let line := (before.filter (· == '\n')).length + 1
  let column := (before.reverse.takeWhile (· != '\n')).length + 1
  .malformed fault line column before.length

/-- Read a whole text, within the room that there is. -/
def readChars (room : Room) (text : List Char) : Except ReadError Value :=
  let place : Stop → ReadError
    | .fault fault left => placeOf fault text left
    | .integerTooLong digits => .integerTooLong digits
    | .nestedTooDeep => .nestedTooDeep
  match readValue (2 * text.length + 2) room.values (skipSpace text) with
  | .error stop => .error (place stop)
  | .ok (v, rest) =>
    match skipSpace rest with
    | [] => .ok v
    | rest' => .error (placeOf .extraData text rest'.length)

/-- Read a whole text that must not start with a byte-order mark. -/
def read (room : Room) (text : List Char) : Except ReadError Value :=
  match text with
  | c :: _ => if c.toNat = 0xFEFF then .error (.malformed .byteOrderMark 1 1 0) else readChars room text
  | [] => readChars room text

end FeatureAudit.Json
