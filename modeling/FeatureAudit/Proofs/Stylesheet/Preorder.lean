import FeatureAudit.Proofs.Tally
import FeatureAudit.Stylesheet.Candidates

/-!
# Components and entries in pre-order

Everything that stands in a stylesheet, at any depth, each before what it holds. The traversals that
look for tokens and faults are filters of these lists.

* **`Component.preorder`**, **`Node.preorder`** — a component with its content, an entry with its
  body.
* **`flattened_eq_filter`**, **`faultsIn_eq_filterMap`** — the flattened components and the faults
  among them are parts of the pre-order.
* **`walkAll_eq_foldl`** — the walk takes in the entries in pre-order, one by one.
* **`walkAll_faults`**, **`walkAll_usages`** — so it meets the faults of each entry, and finds the
  uses at the site of each.
-/
namespace FeatureAudit.Stylesheet

open FeatureAudit.Text

/-! ## Components -/

mutual

/-- A component, and everything in it. -/
def Component.preorder : Component → List Component
  | .leaf pos l => [.leaf pos l]
  | .nest pos n content => .nest pos n content :: Component.preorderOf content

/-- The components of a list, each with everything in it. -/
def Component.preorderOf : List Component → List Component
  | [] => []
  | c :: rest => c.preorder ++ Component.preorderOf rest

end

/-- The fault that a component marks, with its place. -/
def Component.fault? : Component → Option (Position × Fault)
  | .leaf pos (.error fault) => some (pos, fault)
  | _ => none

/-- A component that is neither whitespace nor a comment nor the mark of a fault. -/
def Component.isToken : Component → Bool
  | .leaf _ (.whitespace _) => false
  | .leaf _ (.comment _) => false
  | .leaf _ (.error _) => false
  | _ => true

mutual

/-- What a component shows as tokens is what its pre-order has of them: itself, if it is one, and then those that it
holds. -/
theorem flatten_eq_filter (c : Component) : flatten c = c.preorder.filter Component.isToken := by
  cases c with
  | leaf pos l => cases l <;> rfl
  | nest pos n content =>
    rw [flatten, Component.preorder, flattened_eq_filter content, List.filter_cons_of_pos rfl]

/-- Flattening lists the components of every depth, without whitespace, comments and faults. -/
theorem flattened_eq_filter (cs : List Component) :
    flattened cs = (Component.preorderOf cs).filter Component.isToken := by
  cases cs with
  | nil => rfl
  | cons c rest =>
    rw [flattened, Component.preorderOf, flatten_eq_filter c, flattened_eq_filter rest,
      List.filter_append]

end

mutual

/-- The faults of a component are those of its pre-order; a component that holds others is no fault itself. -/
theorem faultsOf_eq_filterMap (c : Component) :
    faultsOf c = c.preorder.filterMap Component.fault? := by
  cases c with
  | leaf pos l => cases l <;> rfl
  | nest pos n content =>
    rw [faultsOf, Component.preorder, faultsIn_eq_filterMap content,
      List.filterMap_cons_none rfl]

/-- The faults in a list are those that its components of every depth mark. -/
theorem faultsIn_eq_filterMap (cs : List Component) :
    faultsIn cs = (Component.preorderOf cs).filterMap Component.fault? := by
  cases cs with
  | nil => rfl
  | cons c rest =>
    rw [faultsIn, Component.preorderOf, faultsOf_eq_filterMap c, faultsIn_eq_filterMap rest,
      List.filterMap_append]

end

/-! ## Entries -/

mutual

/-- An entry, and everything in its body. -/
def Node.preorder : Node → List Node
  | .declaration pos name value important => [.declaration pos name value important]
  | .rule pos prelude body => .rule pos prelude body :: Node.preorderOf body
  | .atRule pos keyword prelude body => .atRule pos keyword prelude body :: Node.preorderOf body
  | .error pos fault => [.error pos fault]

/-- The entries of a list, each with everything in its body. -/
def Node.preorderOf : List Node → List Node
  | [] => []
  | n :: rest => n.preorder ++ Node.preorderOf rest

end

/-- The site of an entry; a fault has none. -/
def Node.site? : Node → Option Site
  | .declaration pos name value important => some (declarationSite pos name value important)
  | .rule pos prelude _ => some (selectorSite pos prelude)
  | .atRule pos keyword prelude _ => some (atRuleSite pos keyword prelude)
  | .error _ _ => none

/-- The faults that are met at an entry itself. -/
def Node.metFaults : Node → List (Position × Fault)
  | .declaration _ _ value _ => faultsIn value
  | .rule _ prelude _ => (scanSelector (significant prelude)).faults
  | .atRule _ keyword prelude _ =>
    if readsPrelude (asciiLower keyword) then faultsIn prelude else []
  | .error pos fault => [(pos, fault)]

variable {r : Registry} {target : Tier} {file : String}

/-- Take in an entry without its body. -/
def Walk.enter (r : Registry) (target : Tier) (file : String) (w : Walk) (n : Node) : Walk :=
  match n.site? with
  | some s => (w.note n.metFaults).visit r target file s
  | none => w.note n.metFaults

mutual

/-- To walk over an entry is to enter the entries of its pre-order one after another, so the recursion into bodies may
be read as one run over a list. -/
theorem Node.walk_eq_foldl (n : Node) (w : Walk) :
    n.walk r target file w = n.preorder.foldl (Walk.enter r target file) w := by
  cases n with
  | declaration pos name value important => rw [Node.walk, Node.preorder]; rfl
  | rule pos prelude body => rw [Node.walk, Node.preorder, walkAll_eq_foldl body]; rfl
  | atRule pos keyword prelude body => rw [Node.walk, Node.preorder, walkAll_eq_foldl body]; rfl
  | error pos fault => rw [Node.walk, Node.preorder]; rfl

/-- The walk takes in the entries one by one, each before its body. -/
theorem walkAll_eq_foldl (nodes : List Node) (w : Walk) :
    walkAll r target file nodes w = (Node.preorderOf nodes).foldl (Walk.enter r target file) w := by
  cases nodes with
  | nil => rfl
  | cons n rest =>
    rw [walkAll, Node.preorderOf, Node.walk_eq_foldl n, walkAll_eq_foldl rest, List.foldl_append]

end

/-! ## What a walk gathers -/

/-- To enter an entry adds its own faults behind those that were met before, and leaves these as they are. -/
theorem Walk.enter_faults (w : Walk) (n : Node) :
    (w.enter r target file n).faults = w.faults ++ n.metFaults := by
  cases n <;> rfl

/-- The faults of a walk are those met at its entries. -/
theorem faults_foldl_enter (nodes : List Node) (w : Walk) :
    (nodes.foldl (Walk.enter r target file) w).faults =
      w.faults ++ nodes.flatMap Node.metFaults := by
  induction nodes generalizing w with
  | nil => simp
  | cons n rest ih =>
    rw [List.foldl_cons, ih, Walk.enter_faults, List.flatMap_cons, List.append_assoc]

/-- The tally of a walk is that of the sites of its entries. -/
theorem tally_foldl_enter (nodes : List Node) (w : Walk) :
    (nodes.foldl (Walk.enter r target file) w).tally =
      (nodes.filterMap Node.site?).foldl (Tally.addAll r target file) w.tally := by
  induction nodes generalizing w with
  | nil => rfl
  | cons n rest ih =>
    rw [List.foldl_cons, ih]
    cases hs : n.site? with
    | none =>
      rw [List.filterMap_cons_none hs, Walk.enter, hs]
      rfl
    | some s =>
      rw [List.filterMap_cons_some hs, List.foldl_cons, Walk.enter, hs]
      rfl

/-- The sites of a sheet in pre-order. -/
def sitesOf (nodes : List Node) : List Site := (Node.preorderOf nodes).filterMap Node.site?

/-- The faults that are met in a sheet, in order. -/
def metFaultsOf (nodes : List Node) : List (Position × Fault) :=
  (Node.preorderOf nodes).flatMap Node.metFaults

/-- A walk over a forest meets the faults of its entries, in pre-order. -/
theorem walkAll_faults (nodes : List Node) :
    (walkAll r target file nodes .start).faults = metFaultsOf nodes := by
  rw [walkAll_eq_foldl, faults_foldl_enter]
  rfl

/-- As long as no two sites of a sheet share a scope, each counts by itself. -/
theorem walkAll_usages {nodes : List Node} (h : ((sitesOf nodes).map Site.scope).Nodup) :
    (walkAll r target file nodes .start).tally.usages =
      (sitesOf nodes).flatMap (Site.usages r target file) := by
  rw [walkAll_eq_foldl, tally_foldl_enter, ← sitesOf,
    Tally.usages_foldl_addAll (sitesOf nodes) _ h fun s _ p hp => absurd hp List.not_mem_nil]
  rfl

end FeatureAudit.Stylesheet
