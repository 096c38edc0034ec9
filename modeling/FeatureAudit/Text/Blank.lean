/-!
Blank characters and the text between them.

* `strip` removes blanks at both ends.
* `words` are the maximal runs without blanks.
* `abridge` joins the words by single spaces and cuts what is longer than a limit.
-/
namespace FeatureAudit.Text

/-- Whitespace of every kind: the ASCII controls of that use, the four information separators, the
next-line control and the space and line separators of Unicode. -/
def isBlank (c : Char) : Bool :=
  let n := c.toNat
  (9 ≤ n && n ≤ 13) || (28 ≤ n && n ≤ 32) || n == 0x85 || n == 0xA0 || n == 0x1680 ||
    (0x2000 ≤ n && n ≤ 0x200A) || n == 0x2028 || n == 0x2029 || n == 0x202F || n == 0x205F ||
    n == 0x3000

/-- The characters from the first that is not blank on. -/
def stripLeft (cs : List Char) : List Char := cs.dropWhile isBlank

/-- The characters without the blanks at both ends. -/
def stripChars (cs : List Char) : List Char := (stripLeft (stripLeft cs).reverse).reverse

/-- A text without the blanks at both ends. -/
def strip (s : String) : String := String.ofList (stripChars s.toList)

/-- The maximal runs without blanks, given the run that is open, its last character first. -/
def wordsAfter (run : List Char) : List Char → List (List Char)
  | [] => if run.isEmpty then [] else [run.reverse]
  | c :: rest =>
    if isBlank c then
      if run.isEmpty then wordsAfter [] rest else run.reverse :: wordsAfter [] rest
    else wordsAfter (c :: run) rest

/-- The maximal runs without blanks. -/
def words (cs : List Char) : List (List Char) := wordsAfter [] cs

/-- The words of a text joined by single spaces. -/
def spaced (cs : List Char) : List Char := [' '].intercalate (words cs)

/-- How many characters a bound leaves of `length`: a negative bound counts from the end. -/
def keptLength (length : Nat) (bound : Int) : Nat :=
  if bound < 0 then (length + bound).toNat else bound.toNat

/-- The words joined by single spaces, cut at `limit` characters and marked by dots if longer. -/
def abridgeChars (limit : Int) (cs : List Char) : List Char :=
  let text := spaced cs
  if (text.length : Int) > limit then
    text.take (keptLength text.length limit) ++ ['.', '.', '.']
  else text

/-- The words of a text joined by single spaces, cut at `limit` characters and marked by dots if
longer. -/
def abridge (limit : Int) (s : String) : String := String.ofList (abridgeChars limit s.toList)

end FeatureAudit.Text
