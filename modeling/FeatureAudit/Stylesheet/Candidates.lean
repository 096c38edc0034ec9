import FeatureAudit.Stylesheet.Node
import FeatureAudit.Stylesheet.Serialized
import FeatureAudit.Usage

/-!
The tokens of a stylesheet that may name features, and the faults that are noticed on the way.

* `flattened` lists the components at every depth, and `faultsIn` the faults among them.
* `scanSelector` finds the names in a selector.
* `Node.walk` goes through an entry and its body, an entry before what it holds; a `Walk` is what
  has been gathered on the way, the uses and the faults.
-/
namespace FeatureAudit.Stylesheet

open FeatureAudit.Text Component

/-- Keywords that name a feature by themselves. -/
def keywords : List String :=
  ["initial", "inherit", "unset", "revert", "revert-layer",
   "fit-content", "max-content", "min-content", "stretch",
   "start", "end", "flex-start", "flex-end",
   "space-between", "space-around", "space-evenly",
   "flex", "inline-flex", "grid", "inline-grid", "subgrid",
   "sticky", "contents"]

/-- Units that name a feature. -/
def units : List String := ["vh", "vw", "vmin", "vmax", "ch", "rem", "fr"]

/-- Properties of a device or a user that a media query may ask for. -/
def mediaFeatures : List String :=
  ["prefers-color-scheme", "prefers-reduced-motion", "prefers-contrast",
   "hover", "pointer", "any-hover", "any-pointer",
   "display-mode", "orientation", "aspect-ratio"]

/-- Functions that are mere notation. -/
def plainFunctions : List String := ["url", "local", "format", "tech", "attr"]

/-- The token for a combinator that pierces shadow boundaries. -/
def deepCombinator : String := "deep-combinator"

/-! ### Components at every depth -/

mutual

/-- A component and what it holds, each before its content, without whitespace, comments and
faults. -/
def flatten : Component → List Component
  | .leaf pos l =>
    match l with
    | .whitespace _ => []
    | .comment _ => []
    | .error _ => []
    | _ => [.leaf pos l]
  | .nest pos n content => .nest pos n content :: flattened content

/-- The components at every depth of a list, without whitespace, comments and faults. -/
def flattened : List Component → List Component
  | [] => []
  | c :: rest => flatten c ++ flattened rest

end

mutual

/-- The faults in a component, at every depth. -/
def faultsOf : Component → List (Position × Fault)
  | .leaf pos l =>
    match l with
    | .error fault => [(pos, fault)]
    | _ => []
  | .nest _ _ content => faultsIn content

/-- The faults at every depth of a list. -/
def faultsIn : List Component → List (Position × Fault)
  | [] => []
  | c :: rest => faultsOf c ++ faultsIn rest

end

/-! ### Selectors -/

/-- The names found in a selector and the faults met on the way. -/
structure SelectorScan where
  names : List String
  faults : List (Position × Fault)

/-- What a scan finds, followed by what another finds. -/
def SelectorScan.append (a b : SelectorScan) : SelectorScan :=
  ⟨a.names ++ b.names, a.faults ++ b.faults⟩

/-- The name of the first attribute in square brackets. -/
def attributeName? (content : List Component) : Option String :=
  content.findSome? fun c => c.ident?.map fun name => "[" ++ asciiLower name ++ "]"

/-- A single `/`, as in `/deep/`. -/
def isSlash (c : Component) : Bool := c.isLiteral "/"

/-- A single `>`. -/
def isChild (c : Component) : Bool := c.isLiteral ">"

/-- Whether a combinator of three components that pierces shadow boundaries starts here. -/
def isDeep (first : Component) (rest : List Component) : Bool :=
  match rest with
  | second :: third :: _ =>
    (isChild first && isChild second && isChild third) ||
      (isSlash first && second.ident?.any (fun name => asciiLower name == "deep") &&
        isSlash third)
  | _ => false

/-- What follows the second colon of a pseudo-element, if there is one. -/
def afterColon : List Component → List Component
  | [] => []
  | c :: rest => if c.isLiteral ":" then rest else c :: rest

theorem afterColon_weight_le (cs : List Component) : weightOfAll (afterColon cs) ≤ weightOfAll cs := by
  cases cs with
  | nil => simp [afterColon]
  | cons c rest => by_cases h : c.isLiteral ":" <;> simp [afterColon, h, weightOfAll]

theorem weightOfAll_drop_le (n : Nat) (cs : List Component) :
    weightOfAll (cs.drop n) ≤ weightOfAll cs := by
  have h := weightOfAll_append (cs.take n) (cs.drop n)
  rw [List.take_append_drop] at h
  omega

/-- The names in a selector whose whitespace has been left out: pseudo-classes and pseudo-elements,
attributes, and combinators that pierce shadow boundaries, those in arguments included. -/
def scanSelector (cs : List Component) : SelectorScan :=
  match cs with
  | [] => ⟨[], []⟩
  | c :: rest =>
    match c with
    | .leaf pos (.error fault) => SelectorScan.append ⟨[], [(pos, fault)]⟩ (scanSelector rest)
    | .nest _ (.function _) args =>
      SelectorScan.append (scanSelector (significant args)) (scanSelector rest)
    | .nest _ (.block .square) content =>
      SelectorScan.append ⟨(attributeName? content).toList, []⟩ (scanSelector rest)
    | _ =>
      if c.isLiteral ":" then
        match _h : afterColon rest with
        | .leaf _ (.ident name) :: rest' =>
          SelectorScan.append ⟨[asciiLower name], []⟩ (scanSelector rest')
        | .nest _ (.function name) args :: rest' =>
          SelectorScan.append ⟨[asciiLower name], []⟩
            (SelectorScan.append (scanSelector (significant args)) (scanSelector rest'))
        | _ => scanSelector rest
      else if isDeep c rest then
        SelectorScan.append ⟨[deepCombinator], []⟩ (scanSelector (rest.drop 2))
      else scanSelector rest
termination_by weightOfAll cs
decreasing_by
  · exact weightOfAll_lt_cons _ _
  · have := weightOfAll_filter_le (fun c => !c.isWhitespace) args
    simp only [significant, weightOfAll, weight]
    omega
  · exact weightOfAll_lt_cons _ _
  · exact weightOfAll_lt_cons _ _
  · refine Nat.lt_of_le_of_lt ?_ (weightOfAll_lt_cons _ rest)
    have h := afterColon_weight_le rest
    rw [_h] at h
    exact Nat.le_of_lt (Nat.lt_of_lt_of_le (weightOfAll_lt_cons _ _) h)
  · refine Nat.lt_of_le_of_lt ?_ (weightOfAll_lt_cons _ rest)
    have h := afterColon_weight_le rest
    have := weightOfAll_filter_le (fun c => !c.isWhitespace) args
    rw [_h] at h
    simp only [significant, weightOfAll, weight] at h ⊢
    omega
  · refine Nat.lt_of_le_of_lt ?_ (weightOfAll_lt_cons _ rest)
    have h := afterColon_weight_le rest
    rw [_h] at h
    exact Nat.le_of_lt (Nat.lt_of_lt_of_le (weightOfAll_lt_cons _ _) h)
  · exact weightOfAll_lt_cons _ _
  · exact Nat.lt_of_le_of_lt (weightOfAll_drop_le 2 rest) (weightOfAll_lt_cons _ rest)
  · exact weightOfAll_lt_cons _ _

/-! ### Entries -/

/-- The token of a component in a declaration's value, if it may name a feature. -/
def valueToken? : Component → Option String
  | .nest _ (.function name) _ =>
    if plainFunctions.contains (asciiLower name) then none else some (asciiLower name)
  | .leaf _ (.ident name) =>
    if keywords.contains (asciiLower name) then some (asciiLower name) else none
  | .leaf _ (.dimension _ unit) =>
    if units.contains (asciiLower unit) then some (asciiLower unit ++ "-unit") else none
  | _ => none

/-- The tokens of a property's name: one for every custom property, else the name and, if it
carries a vendor's mark, the name without it. -/
def propertyTokens (name : String) : List String :=
  if ['-', '-'].isPrefixOf name.toList then ["--"]
  else
    let lowered := asciiLower name
    let plain := unmarked lowered
    if plain == lowered then [lowered] else [lowered, plain]

/-- A name without the mark of a range query, `min-` or `max-`. -/
def withoutRange (name : String) : String :=
  let cs := name.toList
  if "min-".toList.isPrefixOf cs || "max-".toList.isPrefixOf cs then String.ofList (cs.drop 4)
  else name

/-- The media feature that a component asks for. -/
def mediaToken? (c : Component) : Option String :=
  match c.ident? with
  | some name =>
    let feature := withoutRange (asciiLower name)
    if mediaFeatures.contains feature then some feature else none
  | none => none

/-- The property that a condition in round brackets asks for. -/
def conditionProperty? : Component → Option String
  | .nest _ (.block .round) content =>
    match significant content with
    | .leaf _ (.ident name) :: colon :: _ =>
      if colon.isLiteral ":" then some (asciiLower name) else none
    | _ => none
  | _ => none

/-- The tokens of an at-rule after its own name. -/
def preludeTokens (keyword : String) (prelude : List Component) : List String :=
  match keyword with
  | "media" => (flattened prelude).filterMap mediaToken?
  | "supports" => (flattened prelude).filterMap conditionProperty?
  | "container" => ["container-queries"]
  | "layer" => ["cascade-layers"]
  | _ => []

/-- Whether the prelude of an at-rule is looked into, so that its faults are noticed. -/
def readsPrelude (keyword : String) : Bool := keyword == "media" || keyword == "supports"

/-- Components as text, without blanks at the ends. -/
def shown (cs : List Component) : String := String.ofList (stripChars (serialized cs))

/-- The site of a declaration. -/
def declarationSite (pos : Position) (name : String) (value : List Component) (important : Bool) :
    Site :=
  { scope := .declaration pos.line pos.column, line := pos.line, column := pos.column
    context := name ++ ": " ++ shown value ++ (if important then " !important" else "")
    tokens := propertyTokens name ++ (flattened value).filterMap valueToken? }

/-- The site of a selector. -/
def selectorSite (pos : Position) (prelude : List Component) : Site :=
  { scope := .selector pos.line pos.column, line := pos.line, column := pos.column
    context := shown prelude
    tokens := (scanSelector (significant prelude)).names }

/-- The site of an at-rule. -/
def atRuleSite (pos : Position) (keyword : String) (prelude : List Component) : Site :=
  { scope := .atRule pos.line pos.column, line := pos.line, column := pos.column
    context := strip ("@" ++ keyword ++ " " ++ shown prelude)
    tokens := ("@" ++ asciiLower keyword) :: preludeTokens (asciiLower keyword) prelude }

/-! ### The walk -/

/-- What a walk through the entries of a stylesheet has gathered: the uses, and the faults that it
has met, in order. -/
structure Walk where
  tally : Tally
  faults : List (Position × Fault)

namespace Walk

/-- A walk that has not started. -/
def start : Walk := ⟨.empty, []⟩

/-- Note some faults. -/
def note (w : Walk) (faults : List (Position × Fault)) : Walk :=
  { w with faults := w.faults ++ faults }

/-- Take in the tokens of a site. -/
def visit (r : Registry) (target : Tier) (file : String) (w : Walk) (s : Site) : Walk :=
  { w with tally := w.tally.addAll r target file s }

end Walk

mutual

/-- Walk through an entry and then its body. -/
def Node.walk (r : Registry) (target : Tier) (file : String) : Node → Walk → Walk
  | .declaration pos name value important, w =>
    (w.note (faultsIn value)).visit r target file (declarationSite pos name value important)
  | .rule pos prelude body, w =>
    walkAll r target file body
      ((w.note (scanSelector (significant prelude)).faults).visit r target file
        (selectorSite pos prelude))
  | .atRule pos keyword prelude body, w =>
    walkAll r target file body
      ((w.note (if readsPrelude (asciiLower keyword) then faultsIn prelude else [])).visit r target
        file (atRuleSite pos keyword prelude))
  | .error pos fault, w => w.note [(pos, fault)]

/-- Walk through some entries, one after the other. -/
def walkAll (r : Registry) (target : Tier) (file : String) : List Node → Walk → Walk
  | [], w => w
  | n :: rest, w => walkAll r target file rest (n.walk r target file w)

end

/-! ### Extraction -/

/-- The uses in the entries of a stylesheet. A fault that is noticed anywhere leaves no use. -/
def extractNodes (r : Registry) (target : Tier) (file : String) (nodes : List Node) :
    Extraction :=
  let w := walkAll r target file nodes .start
  match w.faults with
  | [] => ⟨w.tally.usages, []⟩
  | (pos, fault) :: _ => ⟨[], [.stylesheetSkipped file pos.line fault.message]⟩

/-- The uses in a stylesheet. One with an integer of too many digits is not read at all, and one
that is nested too deeply for the calls that can be open cannot be looked into. -/
def extract (room : Nat) (r : Registry) (target : Tier) (file text : String) :
    Except Excess Extraction :=
  let found := lexemes text
  match longInteger? found with
  | some digits => .error (.integerDigits digits)
  | none =>
    let nodes := sheet found
    if Node.depthOfAll nodes > room then .error .nesting
    else .ok (extractNodes r target file nodes)

end FeatureAudit.Stylesheet
