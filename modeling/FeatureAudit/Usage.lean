import FeatureAudit.Registry
import FeatureAudit.Hints
import FeatureAudit.Text.Blank
import FeatureAudit.Text.Integer

/-!
Uses of features in sources.

* A `Site` is a place of a source with the tokens that may name features there, and its `Scope` is
  what a feature counts once for.
* `Site.usage?` is the use that a token makes of a feature, by the answer of the registry.
* A `Tally` holds the uses found so far in a source and what has been counted; `Tally.add` takes in
  a token and `Tally.addAll` the tokens of a site.
* A `Notice` is something that went wrong with one source and is told beside the result.
-/
namespace FeatureAudit

open FeatureAudit.Text

/-- One use of a feature in a file. -/
structure Usage where
  token : String
  featureId : String
  file : String
  line : Int
  column : Int
  context : String
  tier : Option Tier
  browsers : List (String × String)
  severity : Severity
  suggestion : Option String
  polyfill : Option String
  alternative : Option String
  deriving DecidableEq, Repr, Inhabited

/-- A use with its browsers in code-point order: two uses that differ only in that order are the
same use. -/
def Usage.canonical (u : Usage) : Usage :=
  { u with browsers := u.browsers.mergeSort fun a b => textLe a.1 b.1 }

/-- What a feature counts once for: an entry of a stylesheet, known by its kind and its place, or a
line of a script. -/
inductive Scope where
  | declaration (line column : Nat)
  | selector (line column : Nat)
  | atRule (line column : Nat)
  | scriptLine (number : Nat)
  deriving DecidableEq, Repr, Inhabited

/-- A place of a source: what features count once for there, where it is, the text around it, and
the tokens found there, in order. -/
structure Site where
  scope : Scope
  line : Nat
  column : Nat
  context : String
  tokens : List String
  deriving DecidableEq, Repr, Inhabited

/-- The longest context that is shown in full. -/
def contextLimit : Nat := 100

/-- The use that a token makes of a feature, if the registry knows one and its tier. -/
def Site.usage? (r : Registry) (target : Tier) (file : String) (s : Site) (token : String) :
    Option Usage :=
  let c := r.check token target
  match c.featureId, c.tier with
  | some id, some tier =>
    some
      { token, featureId := id, file, line := s.line, column := s.column
        context := abridge contextLimit s.context
        tier := some tier, browsers := c.browsers
        severity := Severity.of (some tier) c.acceptable
        suggestion := c.suggestion
        polyfill := polyfillFor id, alternative := alternativeFor id }
  | _, _ => none

/-- The uses found so far in a source, and the features that have been counted, each with the scope
it was counted for. -/
structure Tally where
  usages : List Usage
  seen : List (Scope × String)

namespace Tally

/-- Nothing has been found yet. -/
def empty : Tally := ⟨[], []⟩

/-- Take in a token of a site. A token that names no feature is passed over, and so is one whose
feature has been counted for the scope of the site. -/
def add (r : Registry) (target : Tier) (file : String) (s : Site) (t : Tally) (token : String) :
    Tally :=
  match s.usage? r target file token with
  | none => t
  | some u =>
    if t.seen.contains (s.scope, u.featureId) then t
    else ⟨t.usages ++ [u], (s.scope, u.featureId) :: t.seen⟩

/-- Take in the tokens of a site, in their order. -/
def addAll (r : Registry) (target : Tier) (file : String) (t : Tally) (s : Site) : Tally :=
  s.tokens.foldl (add r target file s) t

end Tally

/-- A limit beyond which a source cannot be looked into. -/
inductive Excess where
  | nesting
  | integerDigits (digits : Nat)
  deriving DecidableEq, Repr

/-- The wording of what is too much. -/
def Excess.message : Excess → String
  | .nesting => "RecursionError"
  | .integerDigits digits => "ValueError: " ++ integerLimitMessage digits

/-- What may go wrong with one source or one request without ending the run. -/
inductive Notice where
  | stylesheetSkipped (file : String) (line : Nat) (reason : String)
  | tooMuch (file : String) (excess : Excess)
  | unreadable (file reason : String)
  | adviceFailed (reason : String)
  deriving DecidableEq, Repr

/-- The wording of a notice. -/
def Notice.message : Notice → String
  | .stylesheetSkipped file line reason =>
    s!"Failed to parse CSS in {file} (line {line}: {reason}); skipping file"
  | .tooMuch file excess => s!"Could not analyze {file}: {excess.message}"
  | .unreadable file reason => s!"Could not read {file}: {reason}"
  | .adviceFailed reason => s!"AI fix suggestion request failed: {reason}"

/-- The uses found in one source and the notices about it. -/
structure Extraction where
  usages : List Usage
  notices : List Notice
  deriving Inhabited

end FeatureAudit
