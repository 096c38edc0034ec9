import FeatureAudit.Text.Blank
import FeatureAudit.Text.Run
import FeatureAudit.Text.Word
import FeatureAudit.Text.Digit

/-!
Patterns of characters inside a line.

* A `Pattern` is a row of pieces, each of which reads characters or looks at its neighbourhood.
* `matchesHere` tells whether a pattern fits at a place, `occurs` whether it fits anywhere.

A place in a line is the characters before it, the nearest first, and the characters after it.
-/
namespace FeatureAudit.Script

open FeatureAudit.Text

/-- One piece of a pattern. -/
inductive Piece where
  /-- A character of a class. -/
  | one (accepts : Char → Bool)
  /-- Any number of characters of a class. -/
  | many (accepts : Char → Bool)
  /-- One of several texts. -/
  | anyOf (texts : List (List Char))
  /-- An end of a word. -/
  | boundary
  /-- The text just before the place is not this one. -/
  | notAfter (text : List Char)
  /-- The character just before the place is not of this class. -/
  | notAfterOne (accepts : Char → Bool)
  /-- The character just after the place is not of this class. -/
  | notBefore (accepts : Char → Bool)

/-- A row of pieces. -/
abbrev Pattern := List Piece

/-- Whether the first character, if there is one, is in a class. -/
def headIs (accepts : Char → Bool) : List Char → Bool
  | c :: _ => accepts c
  | [] => false

/-- Whether a word ends or starts between what is before and what is after. -/
def atBoundary (before after : List Char) : Bool := headIs isWord before != headIs isWord after

/-- Read any number of characters of a class and go on with `next`. -/
def manyThen (accepts : Char → Bool) (next : List Char → List Char → Bool) :
    List Char → List Char → Bool
  | before, [] => next before []
  | before, c :: after =>
    next before (c :: after) || (accepts c && manyThen accepts next (c :: before) after)

/-- Whether a pattern fits at a place. -/
def matchesHere : Pattern → List Char → List Char → Bool
  | [], _, _ => true
  | .one accepts :: rest, before, after =>
    match after with
    | c :: after' => accepts c && matchesHere rest (c :: before) after'
    | [] => false
  | .many accepts :: rest, before, after => manyThen accepts (matchesHere rest) before after
  | .anyOf texts :: rest, before, after =>
    texts.any fun text =>
      match text.isPrefixOf? after with
      | some after' => matchesHere rest (text.reverse ++ before) after'
      | none => false
  | .boundary :: rest, before, after => atBoundary before after && matchesHere rest before after
  | .notAfter text :: rest, before, after =>
    !text.reverse.isPrefixOf before && matchesHere rest before after
  | .notAfterOne accepts :: rest, before, after =>
    !headIs accepts before && matchesHere rest before after
  | .notBefore accepts :: rest, before, after =>
    !headIs accepts after && matchesHere rest before after

/-- Whether a pattern fits at a place or further on. -/
def occursFrom (pattern : Pattern) : List Char → List Char → Bool
  | before, [] => matchesHere pattern before []
  | before, c :: after =>
    matchesHere pattern before (c :: after) || occursFrom pattern (c :: before) after

/-- Whether a pattern fits anywhere in a line. -/
def occurs (pattern : Pattern) (line : List Char) : Bool := occursFrom pattern [] line

/-! ### Common pieces -/

/-- Patterns in a row. -/
def inRow (patterns : List Pattern) : Pattern := patterns.flatten

/-- A given text. -/
def exactly (text : String) : Pattern := text.toList.map fun c => .one (· == c)

/-- Blanks, perhaps none. -/
def blanks : Pattern := [.many isBlank]

/-- At least one blank. -/
def someBlanks : Pattern := [.one isBlank, .many isBlank]

/-- An opening bracket, perhaps after blanks. -/
def call : Pattern := blanks ++ exactly "("

/-- A text that starts where a word starts. -/
def wordFrom (text : String) : Pattern := .boundary :: exactly text

/-- A text that is a whole word, or several. -/
def wholeWord (text : String) : Pattern := wordFrom text ++ [.boundary]

/-- The call of a function of a name. -/
def callOf (name : String) : Pattern := wordFrom name ++ call

/-- The creation of an object, up to its class. -/
def newObject (className : String) : Pattern := wordFrom "new" ++ someBlanks ++ exactly className

/-- The creation of an object of just this class. -/
def newExactly (className : String) : Pattern := newObject className ++ [.boundary]

/-- The creation of an object, its arguments included. -/
def newCall (className : String) : Pattern := newObject className ++ call

end FeatureAudit.Script
