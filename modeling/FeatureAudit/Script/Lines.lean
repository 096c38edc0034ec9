import FeatureAudit.Script.Rules
import FeatureAudit.Usage

/-!
Features in scripts, line by line. Blank lines and lines that start as a comment are passed over;
of every other line each rule whose pattern occurs gives its token.
-/
namespace FeatureAudit.Script

open FeatureAudit.Text

/-- Whether a line starts as a comment. -/
def isComment (line : List Char) : Bool :=
  match stripChars line with
  | '/' :: '/' :: _ => true
  | '/' :: '*' :: _ => true
  | '*' :: _ => true
  | _ => false

/-- Whether a line is looked at. -/
def isCode (line : List Char) : Bool := !(stripChars line).isEmpty && !isComment line

/-- The tokens of a line, in the order of the table. -/
def lineTokens (line : List Char) : List String :=
  (rules.filter fun rule => occurs rule.pattern line).map Rule.token

/-- The site of a line with a number. -/
def lineSite (number : Nat) (line : List Char) : Site :=
  { scope := .scriptLine number, line := number, column := 0
    context := String.ofList (stripChars line)
    tokens := if isCode line then lineTokens line else [] }

/-- The sites of lines numbered from a number on. -/
def sitesFrom (number : Nat) : List (List Char) → List Site
  | [] => []
  | line :: rest => lineSite number line :: sitesFrom (number + 1) rest

/-- The sites of a script, one for each line. A line feed ends each line but the last. -/
def sites (text : String) : List Site := sitesFrom 1 (text.toList.splitOn '\n')

/-- The uses in a script. -/
def extract (r : Registry) (target : Tier) (file text : String) : Extraction :=
  ⟨((sites text).foldl (Tally.addAll r target file) .empty).usages, []⟩

end FeatureAudit.Script
