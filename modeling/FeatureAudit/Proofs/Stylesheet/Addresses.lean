import Mathlib.Data.List.Forall2
import FeatureAudit.Proofs.Stylesheet.Preorder

/-!
# Addresses of components

Components stand at addresses: the place of a component in the list, and if it is inside another one, the address of
that and then its place there. In the order of their addresses each comes before what it holds, and what it holds before
what follows. So what is told of the components of a list, at whatever depth, is told in one order, and it makes one list.

* **`StandsAt`** — the component at an address.
* **`Visits`** — what is told of the components at all addresses, in order.
* **`placedFrom`** — the components with their addresses, in pre-order.
* **`visits_iff_filterMap`** — what is told of the components one by one is told in pre-order, and nothing else is.
-/
namespace FeatureAudit.Stylesheet

/-! ## Addresses -/

/-- What a component holds. -/
def Component.content : Component → List Component
  | .leaf _ _ => []
  | .nest _ _ content => content

/-- The component stands at the address in the list: in the list itself, or in what another component holds. -/
inductive StandsAt : List Component → List Nat → Component → Prop where
  | here {cs : List Component} {i : Nat} {c : Component} (h : cs[i]? = some c) : StandsAt cs [i] c
  | inside {cs : List Component} {i : Nat} {outer c : Component} {a : List Nat} (h : cs[i]? = some outer)
      (hc : StandsAt outer.content a c) : StandsAt cs (i :: a) c

/-- The list has what is told of the components at all addresses: once for each of them that something is told of, and
in the order of their addresses. -/
def Visits {β : Type} (tells : Component → β → Prop) (cs : List Component) (told : List β) : Prop :=
  ∃ addresses : List (List Nat), addresses.Pairwise (· < ·) ∧
    (∀ a, a ∈ addresses ↔ ∃ c b, StandsAt cs a c ∧ tells c b) ∧
    List.Forall₂ (fun a b => ∃ c, StandsAt cs a c ∧ tells c b) addresses told

/-- In a list without components nothing stands anywhere: the base of the inductions over what stands in a list. -/
theorem not_standsAt_nil {a : List Nat} {d : Component} : ¬ StandsAt [] a d := by
  rintro (h | ⟨h, -⟩)
  · exact absurd h (by simp)
  · exact absurd h (by simp)

/-- An address is never empty, since it starts with a place in the list itself. So no component stands at the address
of the list that it is in. -/
theorem StandsAt.exists_cons {cs : List Component} {a : List Nat} {d : Component} (h : StandsAt cs a d) :
    ∃ j b, a = j :: b := by
  cases h with
  | here _ => exact ⟨_, [], rfl⟩
  | inside _ _ => exact ⟨_, _, rfl⟩

/-- At an address that starts with the first place stands the first component of the list, if the address ends there,
and otherwise a component that the first one holds, at the rest of the address. It is the case of an induction over a
list that goes down into a component. -/
theorem standsAt_cons_zero {c d : Component} {rest : List Component} {a : List Nat} :
    StandsAt (c :: rest) (0 :: a) d ↔ (a = [] ∧ d = c) ∨ StandsAt c.content a d := by
  constructor
  · rintro (h | ⟨h, hd⟩)
    · exact .inl ⟨rfl, (Option.some.inj h).symm⟩
    · obtain rfl := Option.some.inj h
      exact .inr hd
  · rintro (⟨rfl, rfl⟩ | hd)
    · exact .here rfl
    · exact .inside rfl hd

/-- A component in front moves all others one place on, and changes nothing else in their addresses. It is the case of
an induction over a list that goes on behind a component. -/
theorem standsAt_cons_succ {c d : Component} {rest : List Component} {j : Nat} {a : List Nat} :
    StandsAt (c :: rest) ((j + 1) :: a) d ↔ StandsAt rest (j :: a) d := by
  constructor
  · rintro (h | ⟨h, hd⟩)
    · exact .here h
    · exact .inside h hd
  · rintro (h | ⟨h, hd⟩)
    · exact .here h
    · exact .inside h hd

theorem StandsAt.unique {cs : List Component} {a : List Nat} {c d : Component} (hc : StandsAt cs a c)
    (hd : StandsAt cs a d) : c = d := by
  induction hc with
  | here h =>
    -- the address has one place, so the other component stands in the list itself too
    rcases hd with hd | ⟨-, hinside⟩
    · exact Option.some.inj (h.symm.trans hd)
    · obtain ⟨j, b, hb⟩ := hinside.exists_cons
      exact absurd hb (by simp)
  | inside h hc ih =>
    -- the address has more places, so both stand in the component at the first of them
    rcases hd with hd | ⟨hd, hinside⟩
    · obtain ⟨j, b, hb⟩ := hc.exists_cons
      exact absurd hb (by simp)
    · obtain rfl := Option.some.inj (h.symm.trans hd)
      exact ih hinside

/-! ## The pre-order with addresses -/

/-- What a component holds weighs less than the component. So a function on lists of components may call itself on
what the first one holds, and the kind of component needs not be looked at for that. -/
theorem Component.weightOfAll_content_lt (c : Component) : weightOfAll c.content < c.weight := by
  cases c with
  | leaf pos l => exact Nat.zero_lt_one
  | nest pos n content => exact Nat.lt_succ_self _

/-- The components that stand from a place on, each with everything in it, with addresses. -/
def placedFrom (i : Nat) (cs : List Component) : List (List Nat × Component) :=
  match cs with
  | [] => []
  | c :: rest => ([i], c) :: ((placedFrom 0 c.content).map fun p => (i :: p.1, p.2)) ++ placedFrom (i + 1) rest
termination_by Component.weightOfAll cs
decreasing_by
  · have := c.weightOfAll_content_lt
    simp only [Component.weightOfAll]
    omega
  · exact Component.weightOfAll_lt_cons c rest

/-- The pre-order of a list is told by `Component.content` alone, for a component that holds others and for one that
has nothing in it: the first component, what it holds, and the others. -/
theorem preorderOf_cons (c : Component) (rest : List Component) :
    Component.preorderOf (c :: rest) = c :: Component.preorderOf c.content ++ Component.preorderOf rest := by
  cases c with
  | leaf pos l => rfl
  | nest pos n content => rfl

theorem map_snd_placedFrom (i : Nat) (cs : List Component) :
    (placedFrom i cs).map Prod.snd = Component.preorderOf cs := by
  fun_induction placedFrom i cs with
  | case1 => rfl
  | case2 i c rest ihContent ihRest =>
    rw [preorderOf_cons, List.cons_append, List.map_cons, List.map_append, List.map_map, ihRest, ← ihContent]
    rfl

/-- All addresses are there, and at each the component that stands at it. -/
theorem mem_placedFrom_iff {i : Nat} {cs : List Component} {p : List Nat × Component} :
    p ∈ placedFrom i cs ↔ ∃ j a, p.1 = (i + j) :: a ∧ StandsAt cs (j :: a) p.2 := by
  fun_induction placedFrom i cs generalizing p with
  | case1 => simp [not_standsAt_nil]
  | case2 i c rest ihContent ihRest =>
    rw [List.cons_append, List.mem_cons, List.mem_append, List.mem_map]
    constructor
    · -- the first component, one that it holds, or one behind it
      rintro (rfl | ⟨q, hq, rfl⟩ | hp)
      · exact ⟨0, [], rfl, .here rfl⟩
      · obtain ⟨j, a, ha, hstands⟩ := ihContent.1 hq
        rw [Nat.zero_add] at ha
        exact ⟨0, j :: a, by rw [ha]; rfl, .inside rfl hstands⟩
      · obtain ⟨j, a, ha, hstands⟩ := ihRest.1 hp
        exact ⟨j + 1, a, by rw [ha, Nat.add_right_comm]; rfl, standsAt_cons_succ.2 hstands⟩
    · -- an address at the first place, or at a later one
      rintro ⟨_ | j, a, ha, hstands⟩
      · rcases standsAt_cons_zero.1 hstands with ⟨rfl, hc⟩ | hinside
        · exact .inl (Prod.ext ha hc)
        · obtain ⟨j, b, rfl⟩ := hinside.exists_cons
          exact .inr (.inl ⟨(j :: b, p.2), ihContent.2 ⟨j, b, by rw [Nat.zero_add], hinside⟩, Prod.ext ha.symm rfl⟩)
      · exact .inr (.inr (ihRest.2 ⟨j, a, by rw [ha, Nat.add_right_comm]; rfl, standsAt_cons_succ.1 hstands⟩))

/-- From the first place on, the list with addresses has each component of the forest with its own address and nothing
else, so it is a list of what `StandsAt` says. -/
theorem mem_placedFrom_zero_iff {cs : List Component} {p : List Nat × Component} :
    p ∈ placedFrom 0 cs ↔ StandsAt cs p.1 p.2 := by
  rw [mem_placedFrom_iff]
  constructor
  · rintro ⟨j, a, ha, hstands⟩
    rw [ha, Nat.zero_add]
    exact hstands
  · intro hstands
    obtain ⟨j, a, ha⟩ := hstands.exists_cons
    exact ⟨j, a, by rw [ha, Nat.zero_add], ha ▸ hstands⟩

/-- The addresses ascend: what a component holds comes after it, and before what follows it. -/
theorem placedFrom_pairwise (i : Nat) (cs : List Component) :
    (placedFrom i cs).Pairwise fun p q => p.1 < q.1 := by
  fun_induction placedFrom i cs with
  | case1 => exact .nil
  | case2 i c rest ihContent ihRest =>
    -- whatever stands in the first component has a smaller address than what stands behind it
    have hlater : ∀ q ∈ placedFrom (i + 1) rest, ∀ a, i :: a < q.1 := by
      intro q hq a
      obtain ⟨j, b, hb, -⟩ := mem_placedFrom_iff.1 hq
      rw [hb, List.cons_lt_cons_iff]
      exact .inl (by omega)
    rw [List.cons_append, List.pairwise_cons, List.pairwise_append, List.pairwise_map]
    refine ⟨fun q hq => ?_, ihContent.imp fun h => List.cons_lt_cons_iff.2 (.inr ⟨rfl, h⟩), ihRest,
      fun p hp q hq => ?_⟩
    · rcases List.mem_append.1 hq with hq | hq
      · obtain ⟨p, hp, rfl⟩ := List.mem_map.1 hq
        obtain ⟨j, b, hb, -⟩ := mem_placedFrom_iff.1 hp
        rw [hb, List.cons_lt_cons_iff]
        exact .inr ⟨rfl, List.nil_lt_cons _ _⟩
      · exact hlater q hq []
    · obtain ⟨p', -, rfl⟩ := List.mem_map.1 hp
      exact hlater q hq p'.1

/-! ## What is told in pre-order -/

section

variable {β : Type} {f : Component → Option β} {tells : Component → β → Prop}

/-- What is told of some components that stand at addresses, next to the addresses of those that it is told of. -/
theorem forall₂_filterMap_of_standsAt (h : ∀ c b, f c = some b ↔ tells c b) {cs : List Component}
    {placed : List (List Nat × Component)} (hplaced : ∀ p ∈ placed, StandsAt cs p.1 p.2) :
    List.Forall₂ (fun a b => ∃ c, StandsAt cs a c ∧ tells c b)
      (placed.filterMap fun p => (f p.2).map fun _ => p.1) ((placed.map Prod.snd).filterMap f) := by
  induction placed with
  | nil => exact .nil
  | cons p placed ih =>
    obtain ⟨hp, hplaced⟩ := List.forall_mem_cons.1 hplaced
    rw [List.map_cons]
    cases hf : f p.2 with
    | none =>
      -- nothing is told of the component, and its address is left out
      rw [List.filterMap_cons_none (by rw [hf]; rfl), List.filterMap_cons_none hf]
      exact ih hplaced
    | some b =>
      rw [List.filterMap_cons_some (b := p.1) (by rw [hf]; rfl), List.filterMap_cons_some hf]
      exact .cons ⟨p.2, hp, (h _ _).1 hf⟩ (ih hplaced)

/-- What is told of the components in pre-order is told of each once, in the order of their addresses. -/
theorem visits_filterMap (h : ∀ c b, f c = some b ↔ tells c b) (cs : List Component) :
    Visits tells cs ((Component.preorderOf cs).filterMap f) := by
  -- the addresses are those of the components that something is told of, taken in pre-order
  refine ⟨(placedFrom 0 cs).filterMap fun p => (f p.2).map fun _ => p.1, ?_, fun a => ?_, ?_⟩
  · refine List.pairwise_filterMap.2 ((placedFrom_pairwise 0 cs).imp fun {p q} hlt a ha b hb => ?_)
    obtain ⟨-, -, rfl⟩ := Option.map_eq_some_iff.1 ha
    obtain ⟨-, -, rfl⟩ := Option.map_eq_some_iff.1 hb
    exact hlt
  · rw [List.mem_filterMap]
    constructor
    · rintro ⟨p, hp, ha⟩
      obtain ⟨b, hb, rfl⟩ := Option.map_eq_some_iff.1 ha
      exact ⟨p.2, b, mem_placedFrom_zero_iff.1 hp, (h _ _).1 hb⟩
    · rintro ⟨c, b, hc, hb⟩
      exact ⟨(a, c), mem_placedFrom_zero_iff.2 hc, by rw [(h _ _).2 hb]; rfl⟩
  · rw [← map_snd_placedFrom 0 cs]
    exact forall₂_filterMap_of_standsAt h fun p => mem_placedFrom_zero_iff.1

/-- Two lists of what is told are one, if one thing is told of each component: the addresses are the same, being in
order, and one component stands at each. -/
theorem Visits.unique (h : ∀ c b b', tells c b → tells c b' → b = b') {cs : List Component} {told told' : List β}
    (hv : Visits tells cs told) (hv' : Visits tells cs told') : told = told' := by
  obtain ⟨addresses, hsorted, hall, htold⟩ := hv
  obtain ⟨addresses', hsorted', hall', htold'⟩ := hv'
  have hnodup {as : List (List Nat)} (has : as.Pairwise (· < ·)) : as.Nodup :=
    has.imp fun {a b} (hlt : a < b) (heq : a = b) => List.lt_irrefl b (heq ▸ hlt)
  have hsame : addresses.Perm addresses' :=
    (List.perm_ext_iff_of_nodup (hnodup hsorted) (hnodup hsorted')).2 fun a => (hall a).trans (hall' a).symm
  obtain rfl : addresses = addresses' :=
    hsame.eq_of_pairwise (fun a b _ _ hab hba => absurd hba (List.lt_asymm hab)) hsorted hsorted'
  refine List.right_unique_forall₂' (fun a b b' hb hb' => ?_) htold htold'
  obtain ⟨c, hc, hcb⟩ := hb
  obtain ⟨c', hc', hcb'⟩ := hb'
  obtain rfl := hc.unique hc'
  exact h c b b' hcb hcb'

/-- What is told of the components at all addresses is what is told of them in pre-order, and nothing else. -/
theorem visits_iff_filterMap (h : ∀ c b, f c = some b ↔ tells c b) {cs : List Component} {told : List β} :
    Visits tells cs told ↔ told = (Component.preorderOf cs).filterMap f := by
  have hone : ∀ c b b', tells c b → tells c b' → b = b' := fun c b b' hb hb' =>
    Option.some.inj (((h c b).2 hb).symm.trans ((h c b').2 hb'))
  constructor
  · exact fun hv => hv.unique hone (visits_filterMap h cs)
  · rintro rfl
    exact visits_filterMap h cs

end

end FeatureAudit.Stylesheet
