import FeatureAudit.Stylesheet.Component
import FeatureAudit.Text.Hex
import FeatureAudit.Text.Integer

/-!
Reading a stylesheet into component values.

* `Lexeme.next` reads the lexemes at the front of a text: leaves, openings and closings of
  functions and blocks. Comments give none. `lexemes` reads a whole text.
* `nested` arranges lexemes into components. A closing that matches no opening is a fault where it
  stands, and the end of the text closes what is open.
* `longInteger?` finds the first integer that is too long to be read.
-/
namespace FeatureAudit.Stylesheet

open FeatureAudit.Text

/-- A piece of a text: a leaf, or an opening or a closing of a function or block. -/
inductive Lexeme where
  | leaf (leaf : Leaf)
  | opening (nest : Nest)
  | closing (closer : Char)
  deriving DecidableEq, Repr

/-- Line ends become line feeds, and the null character is replaced. -/
def normalised : List Char → List Char
  | [] => []
  | '\r' :: '\n' :: rest => '\n' :: normalised rest
  | c :: rest =>
    (if c = '\r' ∨ c = '\x0c' then '\n' else if c.toNat = 0 then Char.ofNat 0xFFFD else c) ::
      normalised rest

/-! ### Characters -/

/-- The three characters that are whitespace. -/
def isSpace (c : Char) : Bool := c == ' ' || c == '\n' || c == '\t'

/-- A character that may start a name. -/
def isNameStart (c : Char) : Bool := c.isAlpha || c == '_' || c.toNat > 0x7F

/-- A character that may stand in a name. -/
def isNameChar (c : Char) : Bool := isNameStart c || c.isDigit || c == '-'

/-! ### Escapes and names -/

/-- Whether the text starts with a backslash that escapes what follows. -/
def startsEscape : List Char → Bool
  | '\\' :: '\n' :: _ => false
  | '\\' :: _ => true
  | _ => false

/-- The text after one character of whitespace, if it starts with one. -/
def dropSpace : List Char → List Char
  | [] => []
  | c :: rest => if isSpace c then rest else c :: rest

theorem dropSpace_length_le (cs : List Char) : (dropSpace cs).length ≤ cs.length := by
  cases cs with
  | nil => simp [dropSpace]
  | cons c rest => by_cases h : isSpace c <;> simp [dropSpace, h]

/-- The character of a code point; zero and numbers that are no code point are replaced. -/
def codePoint (n : Nat) : Char :=
  if n ≠ 0 ∧ n.isValidChar then Char.ofNat n else Char.ofNat 0xFFFD

/-- The character that an escape stands for; the text is what follows the backslash. -/
def escaped : List Char → Char × List Char
  | [] => (Char.ofNat 0xFFFD, [])
  | c :: rest =>
    if isHexDigit c then
      let more := (rest.take 5).takeWhile isHexDigit
      (codePoint (hexNumber (c :: more)), dropSpace (rest.drop more.length))
    else (c, rest)

theorem escaped_length_le (cs : List Char) : (escaped cs).2.length ≤ cs.length := by
  cases cs with
  | nil => simp [escaped]
  | cons c rest =>
    by_cases hc : isHexDigit c
    · have h := dropSpace_length_le (rest.drop ((rest.take 5).takeWhile isHexDigit).length)
      simp only [List.length_drop] at h
      simp only [escaped, hc, if_true, List.length_cons]
      omega
    · simp [escaped, hc]

/-- Whether the text starts with an identifier. -/
def startsIdent (cs : List Char) : Bool :=
  match cs with
  | '-' :: rest =>
    (match rest with
      | c :: _ => isNameStart c || c == '-'
      | [] => false) || startsEscape rest
  | c :: _ => isNameStart c || startsEscape cs
  | [] => false

/-- The name at the front of a text, with its escapes resolved. -/
def name (cs : List Char) : List Char × List Char :=
  match cs with
  | [] => ([], [])
  | c :: rest =>
    if isNameChar c then
      let (more, rest') := name rest
      (c :: more, rest')
    else if startsEscape cs then
      let e := escaped rest
      let (more, rest') := name e.2
      (e.1 :: more, rest')
    else ([], cs)
termination_by cs.length
decreasing_by
  · simp
  · have := escaped_length_le rest
    simp only [List.length_cons]
    omega

/-! ### Strings and addresses -/

/-- The rest of a string up to its quote: the value if the string is good, whether it was closed,
and what follows. `fuel` is at least the length of the text. -/
def stringRest (quote : Char) : Nat → List Char → List Char → Option (String × Bool) × List Char
  | 0, done, cs => (some (String.ofList done.reverse, false), cs)
  | fuel + 1, done, cs =>
    match cs with
    | [] => (some (String.ofList done.reverse, false), [])
    | c :: rest =>
      if c = quote then (some (String.ofList done.reverse, true), rest)
      else if c = '\\' then
        match rest with
        | [] => (some (String.ofList done.reverse, false), [])
        | '\n' :: rest' => stringRest quote fuel done rest'
        | _ =>
          let e := escaped rest
          stringRest quote fuel (e.1 :: done) e.2
      else if c = '\n' then (none, cs)
      else stringRest quote fuel (c :: done) rest

/-- The lexemes of a string; the text is what follows the opening quote. -/
def stringLexemes (quote : Char) (cs : List Char) : List Lexeme × List Char :=
  match stringRest quote (cs.length + 1) [] cs with
  | (some (value, true), rest) => ([.leaf (.string value true)], rest)
  | (some (value, false), rest) =>
    ([.leaf (.string value false), .leaf (.error .endInString)], rest)
  | (none, rest) => ([.leaf (.error .badString)], rest)

/-- What follows a bad address: the text after the next closing bracket that is not escaped. -/
def afterBadUrl : List Char → List Char
  | [] => []
  | '\\' :: ')' :: rest => afterBadUrl rest
  | ')' :: rest => rest
  | _ :: rest => afterBadUrl rest

/-- A character that must not stand bare in an address. -/
def spoilsUrl (c : Char) : Bool :=
  c == '"' || c == '\'' || c == '(' || c.toNat ≤ 8 || c.toNat == 0xB ||
    (0xE ≤ c.toNat && c.toNat ≤ 0x1F) || c.toNat == 0x7F

/-- The rest of a bare address: the value if it is good, whether it was closed, and what follows.
`fuel` is at least the length of the text. -/
def urlRest : Nat → List Char → List Char → Option (String × Bool) × List Char
  | 0, done, cs => (some (String.ofList done.reverse, false), cs)
  | fuel + 1, done, cs =>
    match cs with
    | [] => (some (String.ofList done.reverse, false), [])
    | c :: rest =>
      if c = ')' then (some (String.ofList done.reverse, true), rest)
      else if isSpace c then
        match rest.dropWhile isSpace with
        | [] => (some (String.ofList done.reverse, false), [])
        | ')' :: rest' => (some (String.ofList done.reverse, true), rest')
        | rest' => (none, afterBadUrl rest')
      else if startsEscape cs then
        let e := escaped rest
        urlRest fuel (e.1 :: done) e.2
      else if spoilsUrl c then (none, afterBadUrl rest)
      else urlRest fuel (c :: done) rest

/-- The lexemes of a bare address; the text is what follows the opening bracket. -/
def urlLexemes (cs : List Char) : List Lexeme × List Char :=
  let cs := cs.dropWhile isSpace
  match urlRest (cs.length + 1) [] cs with
  | (some (value, true), rest) => ([.leaf (.url value true)], rest)
  | (some (value, false), rest) => ([.leaf (.url value false), .leaf (.error .endInUrl)], rest)
  | (none, rest) => ([.leaf (.error .badUrl)], rest)

/-! ### Numbers and ranges -/

/-- The exponent at the front of a text: its letter, sign and digits. -/
def exponentText (cs : List Char) : List Char :=
  match cs with
  | e :: rest =>
    if e = 'e' ∨ e = 'E' then
      let sign := rest.takeWhile fun c => c == '+' || c == '-'
      if sign.length ≤ 1 then
        let digits := (rest.drop sign.length).takeWhile Char.isDigit
        if digits.isEmpty then [] else e :: sign ++ digits
      else []
    else []
  | [] => []

/-- The number at the front of a text, or nothing. -/
def numberText (cs : List Char) : List Char :=
  let (sign, unsigned) : List Char × List Char :=
    match cs with
    | '+' :: rest => (['+'], rest)
    | '-' :: rest => (['-'], rest)
    | _ => ([], cs)
  let whole := unsigned.takeWhile Char.isDigit
  let fraction : List Char :=
    match unsigned.drop whole.length with
    | '.' :: rest =>
      let digits := rest.takeWhile Char.isDigit
      if digits.isEmpty then [] else '.' :: digits
    | _ => []
  let mantissa := whole ++ fraction
  if mantissa.isEmpty then []
  else sign ++ mantissa ++ exponentText (unsigned.drop mantissa.length)

/-- The number of digits of a number's text, where it is an integer of more digits than can be
read. -/
def tooManyDigits? (number : String) : Option Nat :=
  let digits := number.toList.dropWhile fun c => c == '+' || c == '-'
  if digits.all Char.isDigit && integerDigitLimit < digits.length then some digits.length else none

/-- Whether the text, which starts with a letter u, starts with a range of characters. -/
def startsUnicodeRange : List Char → Bool
  | u :: '+' :: c :: _ => (u == 'u' || u == 'U') && (isHexDigit c || c == '?')
  | _ => false

/-- The range of characters at the front of a text; the text is what follows the plus sign. -/
def unicodeRange (cs : List Char) : Leaf × List Char :=
  let digits := (cs.take 6).takeWhile isHexDigit
  let rest := cs.drop digits.length
  let marks := (rest.take (6 - digits.length)).takeWhile (· == '?')
  let rest := rest.drop marks.length
  if marks.isEmpty then
    let first := hexNumber digits
    match rest with
    | '-' :: c :: _ =>
      if isHexDigit c then
        let last := ((rest.drop 1).take 6).takeWhile isHexDigit
        (.unicodeRange first (hexNumber last), rest.drop (1 + last.length))
      else (.unicodeRange first first, rest)
    | _ => (.unicodeRange first first, rest)
  else
    (.unicodeRange (hexNumber (digits ++ marks.map fun _ => '0'))
      (hexNumber (digits ++ marks.map fun _ => 'F')), rest)

/-! ### Lexemes -/

/-- The text after a comment; the text given is what follows the comment's start. -/
def afterComment : List Char → List Char
  | [] => []
  | '*' :: '/' :: rest => rest
  | _ :: rest => afterComment rest

/-- A literal of one character. -/
def oneLiteral (c : Char) : Lexeme := .leaf (.literal (String.ofList [c]))

/-- The lexemes of an identifier or a function name at the front of a text. -/
def nameLexemes (cs : List Char) : List Lexeme × List Char :=
  let (chars, rest) := name cs
  let text := String.ofList chars
  match rest with
  | '(' :: rest' =>
    let quoted :=
      match rest'.dropWhile isSpace with
      | c :: _ => c == '"' || c == '\''
      | [] => false
    if asciiLower text == "url" && !quoted then urlLexemes rest'
    else ([.opening (.function text)], rest')
  | _ => ([.leaf (.ident text)], rest)

/-- The lexemes of a number at the front of a text, with its unit. -/
def numberLexemes (number cs : List Char) : List Lexeme × List Char :=
  let text := String.ofList number
  let rest := cs.drop number.length
  if startsIdent rest then
    let (unit, rest') := name rest
    ([.leaf (.dimension text (String.ofList unit))], rest')
  else
    match rest with
    | '%' :: rest' => ([.leaf (.percentage text)], rest')
    | _ => ([.leaf (.number text)], rest)

/-- The lexemes of a mark at the front of a text: brackets, quotes, comments and literals. -/
def markLexemes (c : Char) (rest : List Char) : List Lexeme × List Char :=
  match c, rest with
  | '@', _ =>
    if startsIdent rest then
      let (chars, rest') := name rest
      ([.leaf (.atKeyword (String.ofList chars))], rest')
    else ([oneLiteral c], rest)
  | '#', _ =>
    let named := (match rest with
      | d :: _ => isNameChar d
      | [] => false) || startsEscape rest
    if named then
      let (chars, rest') := name rest
      ([.leaf (.hash (String.ofList chars) (startsIdent rest))], rest')
    else ([oneLiteral c], rest)
  | '{', _ => ([.opening (.block .curly)], rest)
  | '[', _ => ([.opening (.block .square)], rest)
  | '(', _ => ([.opening (.block .round)], rest)
  | '}', _ => ([.closing c], rest)
  | ']', _ => ([.closing c], rest)
  | ')', _ => ([.closing c], rest)
  | '"', _ => stringLexemes c rest
  | '\'', _ => stringLexemes c rest
  | '/', '*' :: rest' => ([], afterComment rest')
  | '<', '!' :: '-' :: '-' :: rest' => ([.leaf (.literal "<!--")], rest')
  | '|', '|' :: rest' => ([.leaf (.literal "||")], rest')
  | _, '=' :: rest' =>
    if "~|^$*".toList.contains c then ([.leaf (.literal (String.ofList [c, '=']))], rest')
    else ([oneLiteral c], rest)
  | _, _ => ([oneLiteral c], rest)

/-- The lexemes at the front of a text, which starts with `c`. -/
def Lexeme.next (c : Char) (rest : List Char) : List Lexeme × List Char :=
  let cs := c :: rest
  if isSpace c then
    let more := rest.takeWhile isSpace
    ([.leaf (.whitespace (String.ofList (c :: more)))], rest.drop more.length)
  else if startsUnicodeRange cs then
    let (range, rest') := unicodeRange (rest.drop 1)
    ([.leaf range], rest')
  else if ['-', '-', '>'].isPrefixOf cs then ([.leaf (.literal "-->")], rest.drop 2)
  else if startsIdent cs then nameLexemes cs
  else
    match numberText cs with
    | [] => markLexemes c rest
    | number => numberLexemes number cs

/-- The lexemes of a text of a known length from a place on. Each step reads at least one character,
so `fuel` is at least that length. -/
def lexemesFrom : Nat → Position → Nat → List Char → List (Position × Lexeme)
  | 0, _, _, _ => []
  | _ + 1, _, _, [] => []
  | fuel + 1, pos, length, c :: rest =>
    let (found, rest') := Lexeme.next c rest
    let length' := rest'.length
    let used := (c :: rest).take (length - length')
    found.map (fun l => (pos, l)) ++ lexemesFrom fuel (pos.after used) length' rest'

/-! ### Nesting -/

/-- A function or block that is still open, with the components before it, the last first. -/
structure Frame where
  pos : Position
  nest : Nest
  before : List Component

/-- Put a component at the end of what the innermost open block holds. -/
def closeFrame (frame : Frame) (content : List Component) : List Component :=
  .nest frame.pos frame.nest content.reverse :: frame.before

/-- Arrange lexemes into components. `frames` are the open functions and blocks, the innermost
first, and `done` what the innermost holds so far, the last first. -/
def nestedFrom (frames : List Frame) (done : List Component) :
    List (Position × Lexeme) → List Component
  | [] => (frames.foldl (fun content frame => closeFrame frame content) done).reverse
  | (pos, .leaf l) :: rest => nestedFrom frames (.leaf pos l :: done) rest
  | (pos, .opening nest) :: rest => nestedFrom (⟨pos, nest, done⟩ :: frames) [] rest
  | (pos, .closing closer) :: rest =>
    match frames with
    | frame :: outer =>
      if frame.nest.closer = closer then nestedFrom outer (closeFrame frame done) rest
      else nestedFrom frames (.leaf pos (.error (.unmatched closer)) :: done) rest
    | [] => nestedFrom frames (.leaf pos (.error (.unmatched closer)) :: done) rest

/-- Arrange lexemes into components. -/
def nested (lexemes : List (Position × Lexeme)) : List Component := nestedFrom [] [] lexemes

/-- The lexemes of a text, each with its place. -/
def lexemes (text : String) : List (Position × Lexeme) :=
  let chars := normalised text.toList
  lexemesFrom chars.length ⟨1, 1⟩ chars.length chars

/-! ### Limits -/

/-- The number of digits of an integer, where that is more than can be read. -/
def Lexeme.longInteger? : Lexeme → Option Nat
  | .leaf (.number text) => tooManyDigits? text
  | .leaf (.percentage text) => tooManyDigits? text
  | .leaf (.dimension text _) => tooManyDigits? text
  | _ => none

/-- The number of digits of the first integer that has too many. -/
def longInteger? (lexemes : List (Position × Lexeme)) : Option Nat :=
  lexemes.findSome? fun l => l.2.longInteger?

end FeatureAudit.Stylesheet
