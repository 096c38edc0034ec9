import FeatureAudit.Text.LowerCase

/-!
Paths of files: a root and the names from it on. Empty names and single dots mean nothing and are
left out; two dots are kept.
-/
namespace FeatureAudit

/-- A path. The root is empty for a relative path, and one or two slashes for an absolute one. -/
structure Path where
  root : String
  parts : List String
  deriving DecidableEq, Repr, Inhabited

namespace Path

/-- The root with which a text starts. Exactly two slashes are a root of their own. -/
def rootOf : List Char → String
  | '/' :: '/' :: '/' :: _ => "/"
  | '/' :: '/' :: _ => "//"
  | '/' :: _ => "/"
  | _ => ""

/-- The path that a text writes. -/
def ofString (s : String) : Path :=
  { root := rootOf s.toList
    parts := ((s.toList.splitOn '/').map String.ofList).filter fun p => !(p == "" || p == ".") }

/-- A path as text. -/
def toString (p : Path) : String :=
  let text := p.root ++ "/".intercalate p.parts
  if text.isEmpty then "." else text

/-- Whether a path starts at a root. -/
def isAbsolute (p : Path) : Bool := p.root != ""

/-- A path that starts where another ends, unless it is absolute. -/
def join (base p : Path) : Path := if p.isAbsolute then p else ⟨base.root, base.parts ++ p.parts⟩

/-- The last name of a path. -/
def name (p : Path) : String := p.parts.getLast?.getD ""

/-- The part of a name from its last dot on, unless that is its first or last character. -/
def suffixOf (name : String) : String :=
  let reversed := name.toList.reverse
  let tail := reversed.takeWhile (· != '.')
  let stem := (reversed.drop tail.length).drop 1
  if tail.isEmpty || stem.isEmpty then ""
  else String.ofList ('.' :: tail.reverse)

/-- The suffix of the last name. -/
def suffix (p : Path) : String := suffixOf p.name

/-- The names of a path with the root as the first of them. -/
def allParts (p : Path) : List String := if p.isAbsolute then p.root :: p.parts else p.parts

/-- Lists of names in code-point order, name by name. -/
def partsLe : List String → List String → Bool
  | [], _ => true
  | _ :: _, [] => false
  | a :: as, b :: bs => if a == b then partsLe as bs else decide (a ≤ b)

/-- Paths in order, name by name. -/
def le (p q : Path) : Bool := partsLe p.allParts q.allParts

end Path

/-- The kinds of sources that are looked at. -/
inductive FileKind where
  | stylesheet
  | script
  deriving DecidableEq, Repr

/-- The suffixes of stylesheets. -/
def stylesheetSuffixes : List String := [".css", ".scss", ".sass", ".less"]

/-- The suffixes of scripts. -/
def scriptSuffixes : List String := [".js", ".jsx", ".ts", ".tsx"]

/-- The kind of source that a suffix stands for, in either case. -/
def FileKind.ofSuffix? (suffix : String) : Option FileKind :=
  let s := Text.lower suffix
  if stylesheetSuffixes.contains s then some .stylesheet
  else if scriptSuffixes.contains s then some .script
  else none

/-- The kind of source that a path names. -/
def Path.kind? (p : Path) : Option FileKind := FileKind.ofSuffix? p.suffix

/-- The kind of source that a file name stands for. -/
def fileKind? (file : String) : Option FileKind := (Path.ofString file).kind?

end FeatureAudit
