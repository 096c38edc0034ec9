import Mathlib.Data.List.Flatten
import FeatureAudit.Proofs.Stylesheet.LexemePlaces
import FeatureAudit.Proofs.Stylesheet.Preorder
import FeatureAudit.Stylesheet.Node

/-!
# Where the entries of a stylesheet stand

Arranging lexemes into components and components into entries leaves the order of the text as it is.
So the entries of a sheet, in pre-order, start one after the other, and no two of them share a place.

* **`nested_stamps`** — components in pre-order are lexemes in their order, closings left out.
* **`itemFrom_stamps`** — an entry, its block and what follows it are parts of what it is read from.
* **`sheet_places`** — the entries of a sheet stand one after the other.
-/
namespace FeatureAudit.Stylesheet

open FeatureAudit.Text

/-! ## Components -/

/-- The component is the mark of an end. -/
def Component.isEndMark : Component → Bool
  | .leaf _ l => l.isEndMark
  | .nest _ _ _ => false

/-- The stamp of a component. -/
def Component.stamp (c : Component) : Stamp := ⟨c.pos, c.isEndMark⟩

/-- The stamps of components and of what is in them, in pre-order. -/
def stampsOf (cs : List Component) : List Stamp := (Component.preorderOf cs).map Component.stamp

theorem stampsOf_cons (c : Component) (cs : List Component) :
    stampsOf (c :: cs) = stampsOf [c] ++ stampsOf cs := by
  simp [stampsOf, Component.preorderOf]

/-- Two lists in a row have the stamps of the one and then those of the other. -/
theorem stampsOf_append (cs ds : List Component) :
    stampsOf (cs ++ ds) = stampsOf cs ++ stampsOf ds := by
  induction cs with
  | nil => rfl
  | cons c rest ih =>
    rw [List.cons_append, stampsOf_cons, ih, stampsOf_cons c rest, List.append_assoc]

/-- A component that holds others has its own stamp first, which marks no end, and then those of what it holds. -/
theorem stampsOf_nest (pos : Position) (n : Nest) (content : List Component) :
    stampsOf [.nest pos n content] = ⟨pos, false⟩ :: stampsOf content := by
  simp [stampsOf, Component.preorderOf, Component.preorder, Component.stamp, Component.pos,
    Component.isEndMark]

/-- Components that are open, closed where they are. -/
def closeAll (frames : List Frame) (done : List Component) : List Component :=
  (frames.foldl (fun content frame => closeFrame frame content) done).reverse

/-- What is put into the innermost open component comes last. -/
theorem stampsOf_closeAll_cons (frames : List Frame) (c : Component) (done : List Component) :
    stampsOf (closeAll frames (c :: done)) = stampsOf (closeAll frames done) ++ stampsOf [c] := by
  induction frames generalizing c done with
  | nil => rw [closeAll, List.foldl_nil, List.reverse_cons, stampsOf_append]; rfl
  | cons frame outer ih =>
    have hclose : ∀ content, closeAll (frame :: outer) content =
        closeAll outer (.nest frame.pos frame.nest content.reverse :: frame.before) :=
      fun _ => rfl
    rw [hclose, ih, hclose, ih, stampsOf_nest, stampsOf_nest, List.reverse_cons, stampsOf_append,
      List.append_assoc, List.cons_append]

/-- The components that are built from lexemes have the stamps of these, in order, with those of the closing ones left
out. The statement is about the open components closed where they stand, so that a lexeme that opens or closes one
changes nothing in what was read before it. -/
theorem nestedFrom_stamps (frames : List Frame) (done : List Component)
    (ls : List (Position × Lexeme)) :
    (stampsOf (nestedFrom frames done ls)).Sublist
      (stampsOf (closeAll frames done) ++ ls.map lexemeStamp) := by
  fun_induction nestedFrom frames done ls with
  | case1 frames done => simp [closeAll]
  | case2 frames done pos l rest ih =>
    rw [stampsOf_closeAll_cons, List.append_assoc] at ih
    exact ih
  -- to open a component is to put an empty one there
  | case3 frames done pos nest rest ih =>
    have hopen : closeAll (⟨pos, nest, done⟩ :: frames) [] =
        closeAll frames (.nest pos nest [] :: done) := rfl
    rw [hopen, stampsOf_closeAll_cons, List.append_assoc] at ih
    exact ih
  -- to close it leaves everything where it is
  | case4 done pos rest frame outer ih =>
    exact ih.trans ((List.sublist_cons_self _ _).append_left _)
  -- a closing that matches nothing is a fault where it stands
  | case5 done pos closer rest frame outer heq ih =>
    rw [stampsOf_closeAll_cons, List.append_assoc] at ih
    exact ih
  | case6 done pos closer rest ih =>
    rw [stampsOf_closeAll_cons, List.append_assoc] at ih
    exact ih

/-- Components in pre-order are the lexemes, those that close something left out. -/
theorem nested_stamps (ls : List (Position × Lexeme)) :
    (stampsOf (nested ls)).Sublist (ls.map lexemeStamp) :=
  nestedFrom_stamps [] [] ls

/-! ## Entries -/

/-- The stamp of an entry that is not a fault. -/
def Item.stamp? : Item → Option Stamp
  | .declaration pos _ _ _ => some ⟨pos, false⟩
  | .rule pos _ _ => some ⟨pos, false⟩
  | .atRule pos _ _ _ => some ⟨pos, false⟩
  | .error _ _ => none

/-- Components start one after the other, and nothing comes after the mark of an end. -/
def InOrder (cs : List Component) : Prop := (stampsOf cs).Pairwise Stamp.Precedes

/-- The stamp of a component is one of the stamps of the list that has nothing but it. -/
theorem stamp_sublist (c : Component) : [c.stamp].Sublist (stampsOf [c]) := by
  cases c with
  | leaf pos l => exact List.Sublist.refl _
  | nest pos n content =>
    rw [stampsOf_nest]
    exact (List.nil_sublist _).cons_cons _

/-- A component of a list has its stamp among those of the list. -/
theorem stamp_mem {c : Component} {cs : List Component} (h : c ∈ cs) : c.stamp ∈ stampsOf cs := by
  obtain ⟨before, after, rfl⟩ := List.append_of_mem h
  rw [stampsOf_append, stampsOf_cons]
  exact List.mem_append_right _
    (List.mem_append_left _ ((stamp_sublist c).subset (List.mem_singleton_self _)))

/-- What is before something else is not the mark of an end. -/
theorem InOrder.isEndMark_eq_false {first next : Component} {cs : List Component}
    (h : InOrder (first :: cs)) (hnext : next ∈ cs) : first.isEndMark = false := by
  rw [InOrder, stampsOf_cons, List.pairwise_append] at h
  exact (h.2.2 _ (stamp_mem (List.mem_singleton_self first)) _ (stamp_mem hnext)).1

/-- What an entry is read from: its own start, its block, and what follows it. -/
def partStamps (read : Item × List Component) : List Stamp :=
  read.1.stamp?.toList ++ stampsOf read.1.content ++ stampsOf read.2

/-- Components start with the first of them. -/
theorem start_sublist {first : Component} (h : first.isEndMark = false) {stamps : List Stamp}
    {cs : List Component} (hrest : stamps.Sublist (stampsOf cs)) :
    ((⟨first.pos, false⟩ : Stamp) :: stamps).Sublist (stampsOf (first :: cs)) := by
  have hstamp : (⟨first.pos, false⟩ : Stamp) = first.stamp := by rw [Component.stamp, h]
  rw [stampsOf_cons, hstamp]
  exact (stamp_sublist first).append hrest

/-- What stops an entry may hold its block, and what follows comes after that. -/
theorem stop_sublist {stops : Component → Bool} {cs : List Component} {stop : Component}
    {stamps : List Stamp} {rest : List Component} (hstamps : stamps.Sublist (stampsOf [stop]))
    (hstop : (upTo stops cs).2 = stop :: rest) :
    (stamps ++ stampsOf rest).Sublist (stampsOf cs) := by
  have hcs : (upTo stops cs).1 ++ (upTo stops cs).2 = cs := List.takeWhile_append_dropWhile
  rw [← hcs, hstop, stampsOf_append, stampsOf_cons stop]
  exact (hstamps.append_right _).trans (List.sublist_append_right _ _)

/-- What a component holds has its stamps among those of the component. -/
theorem content_sublist (pos : Position) (n : Nest) (content : List Component) :
    (stampsOf content).Sublist (stampsOf [.nest pos n content]) := by
  rw [stampsOf_nest]
  exact List.sublist_cons_self _ _

/-- An at-rule takes its place from its keyword and its block from behind it, and what it leaves to be read comes
later still. -/
theorem atRuleItem_stamps (pos : Position) (keyword : String) (cs : List Component) :
    (partStamps (atRuleItem pos keyword cs)).Sublist
      (stampsOf (.leaf pos (.atKeyword keyword) :: cs)) := by
  have hstart : Component.isEndMark (.leaf pos (.atKeyword keyword)) = false := rfl
  unfold atRuleItem
  dsimp only
  split
  · -- a block ends the at-rule, and has its own place
    rename_i heq
    exact start_sublist hstart (stop_sublist (content_sublist _ _ _) heq)
  · -- a semicolon ends it, and leaves nothing
    rename_i heq
    exact start_sublist hstart (stop_sublist (List.nil_sublist _) heq)
  · exact start_sublist hstart (List.nil_sublist _)

/-- A rule takes its place from the first component of its selector, and its block, where it has one, stands behind
that. -/
theorem ruleItem_stamps {first : Component} {cs : List Component} (inBlock : Bool)
    (h : InOrder (first :: cs)) :
    (partStamps (ruleItem inBlock first cs)).Sublist (stampsOf (first :: cs)) := by
  unfold ruleItem
  split
  · rw [stampsOf_cons, stampsOf_nest]
    exact List.Sublist.refl _
  · dsimp only
    split
    · -- the block of the rule comes after its first component
      rename_i pos n content rest heq
      have hblock : Component.nest pos n content ∈ cs :=
        (List.dropWhile_sublist _).subset (heq ▸ List.mem_cons_self)
      exact start_sublist (h.isEndMark_eq_false hblock)
        (stop_sublist (content_sublist _ _ _) heq)
    · rename_i heq
      rw [stampsOf_cons]
      exact (stop_sublist (List.nil_sublist _) heq).trans (List.sublist_append_right _ _)
    · exact List.nil_sublist _

/-- A declaration takes its place from its name, and the name marks no end. -/
theorem declarationItem?_stamp? {first : Component} {cs : List Component} {item : Item}
    (h : declarationItem? first cs = some item) :
    item.stamp? = some ⟨first.pos, false⟩ ∧ first.isEndMark = false := by
  unfold declarationItem? declarationOf at h
  repeat' split at h
  all_goals simp only [reduceCtorEq, Option.some.injEq] at h
  all_goals
    subst h
    exact ⟨rfl, rfl⟩

/-- In a block an entry is a declaration, or a rule where it cannot be read as one; in both cases it takes its place
from its first component. -/
theorem blockItem_stamps {first : Component} {cs : List Component} (h : InOrder (first :: cs)) :
    (partStamps (blockItem first cs)).Sublist (stampsOf (first :: cs)) := by
  unfold blockItem
  dsimp only
  split
  · -- the entry is a declaration
    rename_i item heq
    obtain ⟨hstamp, hfirst⟩ := declarationItem?_stamp? heq
    rw [partStamps, hstamp, declarationItem?_content heq]
    refine start_sublist hfirst ?_
    -- a declaration has no block, so only what follows it is left
    split
    · exact List.Sublist.refl _
    · split
      · exact List.nil_sublist _
      · rename_i stop rest heq'
        have hrest := stop_sublist (List.nil_sublist (stampsOf [stop])) heq'
        split
        · exact hrest
        · exact hrest
  · exact ruleItem_stamps true h

/-- The parts that an entry is read from stand in the order of the whole. -/
theorem itemFrom_stamps {first : Component} {cs : List Component} (inBlock : Bool)
    (h : InOrder (first :: cs)) :
    (partStamps (itemFrom inBlock first cs)).Sublist (stampsOf (first :: cs)) := by
  unfold itemFrom
  split
  · exact atRuleItem_stamps _ _ cs
  · split
    · exact blockItem_stamps h
    · exact ruleItem_stamps false h

/-- Entries are read one behind another, so their stamps, with those of what they hold, are in the order of the
components that they were read from. -/
theorem items_stamps {inBlock : Bool} {cs : List Component} (h : InOrder cs) :
    ((items inBlock cs).flatMap fun item => item.stamp?.toList ++ stampsOf item.content).Sublist
      (stampsOf cs) := by
  fun_induction items inBlock cs with
  | case1 => exact List.Sublist.refl _
  | case2 c rest _ ih =>
    -- what may stand between entries has a place, and makes no entry
    rw [InOrder, stampsOf_cons, List.pairwise_append] at h
    rw [stampsOf_cons]
    exact (ih h.2.1).trans (List.sublist_append_right _ _)
  | case3 c rest _ ih =>
    -- an entry takes its parts from the front, and the others are read from what it leaves
    have hparts := itemFrom_stamps inBlock h
    have hrest : InOrder (itemFrom inBlock c rest).2 :=
      h.sublist ((List.sublist_append_right _ _).trans hparts)
    rw [List.flatMap_cons]
    exact ((ih hrest).append_left _).trans hparts

/-! ## Sheets -/

/-- The place of an entry that is not a fault. -/
def Node.place? : Node → Option Position
  | .declaration pos _ _ _ => some pos
  | .rule pos _ _ => some pos
  | .atRule pos _ _ _ => some pos
  | .error _ _ => none

/-- The stamp of an entry that is not a fault. -/
def Node.stamp? (n : Node) : Option Stamp := n.place?.map fun pos => ⟨pos, false⟩

/-- An entry whose block is read. -/
def Item.node : Item → Node
  | .declaration pos name value important => .declaration pos name value important
  | .rule pos prelude content => .rule pos prelude (nodesOf true content)
  | .atRule pos keyword prelude content => .atRule pos keyword prelude (nodesOf true content)
  | .error pos fault => .error pos fault

/-- The nodes of a list of components are made of its entries one by one. -/
theorem nodesOf_eq_map (inBlock : Bool) (cs : List Component) :
    nodesOf inBlock cs = (items inBlock cs).map Item.node := by
  rw [nodesOf]
  refine Eq.trans (List.map_congr_left ?_) List.attach_map_val
  rintro ⟨item, hitem⟩ -
  cases item <;> rfl

/-- The pre-order of nodes that are made of entries goes entry by entry. -/
theorem preorderOf_map_node (items : List Item) :
    Node.preorderOf (items.map Item.node) = items.flatMap fun item => item.node.preorder := by
  induction items with
  | nil => rfl
  | cons item rest ih => rw [List.map_cons, Node.preorderOf, ih, List.flatMap_cons]

/-- The block of an entry is in order, as what the entry is read from. -/
theorem InOrder.content {inBlock : Bool} {cs : List Component} {item : Item} (h : InOrder cs)
    (hitem : item ∈ items inBlock cs) : InOrder item.content := by
  have hmem := List.sublist_flatten_of_mem (List.mem_map_of_mem hitem
    (f := fun item : Item => item.stamp?.toList ++ stampsOf item.content))
  exact h.sublist
    (((List.sublist_append_right _ _).trans hmem).trans (items_stamps h))

/-- The entries of a block, in pre-order, start where components start, in their order. The
induction is on what is read, since the block of an entry is smaller than that. -/
theorem nodesOf_stamps (inBlock : Bool) {cs : List Component} (h : InOrder cs) :
    ((Node.preorderOf (nodesOf inBlock cs)).filterMap Node.stamp?).Sublist (stampsOf cs) := by
  rw [nodesOf_eq_map, preorderOf_map_node, List.filterMap_flatMap]
  refine List.Sublist.trans (List.Sublist.flatMap_right _ fun item hitem => ?_) (items_stamps h)
  have hcontent := h.content hitem
  have hsmaller := content_weight_lt hitem
  have ih := nodesOf_stamps true hcontent
  cases item with
  | declaration pos name value important => exact List.sublist_append_left _ _
  | rule pos prelude content => exact ih.cons_cons _
  | atRule pos keyword prelude content => exact ih.cons_cons _
  | error pos fault => exact List.nil_sublist _
termination_by Component.weightOfAll cs

/-- **The entries of a sheet stand one after the other**: in pre-order each starts at a later place than those before
it, at whatever depth. -/
theorem sheet_places (text : String) :
    ((Node.preorderOf (sheet (lexemes text))).filterMap Node.place?).Pairwise Position.Before := by
  have h : InOrder (nested (lexemes text)) := (lexemes_follow text).sublist (nested_stamps _)
  have hstamps := List.pairwise_filterMap.1 (h.sublist (nodesOf_stamps false h))
  refine List.pairwise_filterMap.2 (hstamps.imp fun hprecedes p hp q hq => ?_)
  have hm := congrArg (Option.map fun pos => (⟨pos, false⟩ : Stamp)) hp
  have hn := congrArg (Option.map fun pos => (⟨pos, false⟩ : Stamp)) hq
  rcases (hprecedes _ hm _ hn).2 with hbefore | ⟨-, hmark⟩
  · exact hbefore
  -- no entry is the mark of an end
  · exact absurd hmark Bool.false_ne_true

end FeatureAudit.Stylesheet
