import FeatureAudit.Distinct
import Mathlib.Data.List.Nodup

/-!
# First-wins selection by places

`keepFirst` is defined by recursion; what it keeps is said here by places of the list.

* **`FirstAt`** — an element stands at a place and no earlier element has its key.
* **`find?_keepFirst_eq_some_iff`** — a search among the kept elements finds the one at the least
  place.
* **`mem_keepFirst_iff`**, **`keepFirst_pairwise`** — what is kept, and that no key is kept twice.
* **`find?_key_eq_some_iff`** — where no key occurs twice, a search for one finds what has it.
* **`keepFirst_append`** — selection from two lists together.
* **`findSome?_distinct`** — a search does not tell a list from its distinct elements.
* **`FirstFrom`** — an element of a list gives a value, and no earlier element gives one of its key.
* **`mem_keepFirst_filterMap_iff`**, **`keepFirst_filterMap_pairwise`** — what is kept of the values
  that a list gives, and that it is kept in the order of the list.
-/
namespace FeatureAudit

variable {α κ : Type} [BEq κ] [LawfulBEq κ] {key : α → κ}

/-- The element stands at the place, and no element before it has its key. -/
def FirstAt (key : α → κ) (xs : List α) (i : Nat) (a : α) : Prop :=
  xs[i]? = some a ∧ ∀ j b, j < i → xs[j]? = some b → key b ≠ key a

omit [BEq κ] [LawfulBEq κ] in
/-- What is first at the head of a list is the head. Nothing stands before it, so whatever the key is, no other
element has a claim to it. -/
theorem firstAt_zero {x a : α} {xs : List α} : FirstAt key (x :: xs) 0 a ↔ a = x := by
  constructor
  · rintro ⟨h, -⟩
    simpa [eq_comm] using h
  · rintro rfl
    exact ⟨by simp, fun j b hj => absurd hj (Nat.not_lt_zero j)⟩

omit [BEq κ] [LawfulBEq κ] in
/-- What is first further back is first in the rest of the list, as long as the head does not have its key. This is
the step of each induction below. -/
theorem firstAt_succ {x a : α} {xs : List α} {i : Nat} :
    FirstAt key (x :: xs) (i + 1) a ↔ key x ≠ key a ∧ FirstAt key xs i a := by
  constructor
  · rintro ⟨hget, hfirst⟩
    refine ⟨hfirst 0 x (by omega) (by simp), by simpa using hget, ?_⟩
    intro j b hj hb
    exact hfirst (j + 1) b (by omega) (by simpa using hb)
  · rintro ⟨hne, hget, hfirst⟩
    refine ⟨by simpa using hget, ?_⟩
    intro j b hj hb
    cases j with
    | zero =>
      -- the head stands before every other place
      have hxb : x = b := by simpa using hb
      exact hxb ▸ hne
    | succ j => exact hfirst j b (by omega) (by simpa using hb)

omit [BEq κ] [LawfulBEq κ] in
theorem FirstAt.place_unique {xs : List α} {i j : Nat} {a b : α} (ha : FirstAt key xs i a)
    (hb : FirstAt key xs j b) (h : key a = key b) : i = j := by
  rcases Nat.lt_trichotomy i j with hij | hij | hij
  · exact absurd h (hb.2 i a hij ha.1)
  · exact hij
  · exact absurd h.symm (ha.2 j b hij hb.1)

/-- A search among the kept elements finds the one at the least place. The induction is on the
list; the predicate is general because the tail is searched with the first key left out. -/
theorem find?_keepFirst_eq_some_iff {p : α → Bool} {xs : List α} {a : α} :
    (keepFirst key xs).find? p = some a ↔
      p a = true ∧
        ∃ i, FirstAt key xs i a ∧ ∀ j b, j < i → FirstAt key xs j b → p b = false := by
  induction xs generalizing p with
  | nil => simp [keepFirst, FirstAt]
  | cons x rest ih =>
    cases hx : p x with
    | true =>
      rw [keepFirst, List.find?_cons_of_pos hx, Option.some.injEq]
      constructor
      · rintro rfl
        exact ⟨hx, 0, firstAt_zero.2 rfl, fun j b hj => absurd hj (Nat.not_lt_zero j)⟩
      · rintro ⟨-, i, hi, hleast⟩
        cases i with
        | zero => exact (firstAt_zero.1 hi).symm
        | succ i =>
          have := hleast 0 x (by omega) (firstAt_zero.2 rfl)
          simp [hx] at this
    | false =>
      rw [keepFirst, List.find?_cons_of_neg (by simp [hx]), List.find?_filter, ih]
      -- the tail's places are one less, and its first elements are those without the first key
      constructor
      · rintro ⟨hpa, i, hi, hleast⟩
        have hpa : key a ≠ key x ∧ p a = true := by simpa using hpa
        refine ⟨hpa.2, i + 1, firstAt_succ.2 ⟨Ne.symm hpa.1, hi⟩, ?_⟩
        intro j b hj hb
        cases j with
        | zero => rw [firstAt_zero.1 hb, hx]
        | succ j =>
          obtain ⟨hne, hb⟩ := firstAt_succ.1 hb
          have := hleast j b (by omega) hb
          simpa [Ne.symm hne] using this
      · rintro ⟨hpa, i, hi, hleast⟩
        cases i with
        | zero =>
          rw [firstAt_zero.1 hi, hx] at hpa
          exact absurd hpa (by simp)
        | succ i =>
          obtain ⟨hne, hi⟩ := firstAt_succ.1 hi
          refine ⟨by simp [hpa, Ne.symm hne], i, hi, ?_⟩
          intro j b hj hb
          by_cases hxb : key x = key b
          · simp [hxb]
          · simp [hleast (j + 1) b (by omega) (firstAt_succ.2 ⟨hxb, hb⟩)]

/-- What is kept of a list is the elements that are the first of their keys, and nothing else. The cases of the
induction are those of `FirstAt`: the head, or a place in the rest. -/
theorem mem_keepFirst_iff {xs : List α} {a : α} :
    a ∈ keepFirst key xs ↔ ∃ i, FirstAt key xs i a := by
  induction xs with
  | nil => simp [keepFirst, FirstAt]
  | cons x rest ih =>
    simp only [keepFirst, List.mem_cons, List.mem_filter, ih, Bool.not_eq_true',
      beq_eq_false_iff_ne]
    constructor
    · -- the head is always kept, the rest only if it has other keys
      rintro (rfl | ⟨⟨i, hi⟩, hne⟩)
      · exact ⟨0, firstAt_zero.2 rfl⟩
      · exact ⟨i + 1, firstAt_succ.2 ⟨Ne.symm hne, hi⟩⟩
    · rintro ⟨i, hi⟩
      cases i with
      | zero => exact Or.inl (firstAt_zero.1 hi)
      | succ i =>
        obtain ⟨hne, hi⟩ := firstAt_succ.1 hi
        exact Or.inr ⟨⟨i, hi⟩, Ne.symm hne⟩

/-- Every element has its key kept, by itself or by the first element before it with this key. -/
theorem exists_firstAt (key : α → κ) {xs : List α} {a : α} (h : a ∈ xs) :
    ∃ i b, FirstAt key xs i b ∧ key b = key a := by
  have hsome : ((keepFirst key xs).find? fun b => key b == key a).isSome = true := by
    rw [find?_keepFirst key (key a), List.find?_isSome]
    exact ⟨a, h, by simp⟩
  obtain ⟨b, hb⟩ := Option.isSome_iff_exists.1 hsome
  obtain ⟨hkey, i, hi, -⟩ := find?_keepFirst_eq_some_iff.1 hb
  exact ⟨i, b, hi, by simpa using hkey⟩

/-- An element is listed once exactly if it is listed at all: the element itself is the key, so whatever was dropped
is equal to what was kept. -/
theorem mem_distinct_iff {xs : List κ} {a : κ} : a ∈ distinct xs ↔ a ∈ xs := by
  constructor
  · exact mem_of_mem_keepFirst
  · intro h
    obtain ⟨i, b, hi, rfl⟩ := exists_firstAt (fun b => b) h
    exact mem_keepFirst_iff.2 ⟨i, hi⟩

/-- No key is kept twice, so what is kept can be looked up by its key. -/
theorem keepFirst_pairwise (xs : List α) :
    (keepFirst key xs).Pairwise fun a b => key a ≠ key b := by
  induction xs with
  | nil => exact List.Pairwise.nil
  | cons x rest ih =>
    refine List.Pairwise.cons ?_ (ih.filter _)
    intro b hb
    have hne : (!(key b == key x)) = true := (List.mem_filter.1 hb).2
    simp only [Bool.not_eq_true', beq_eq_false_iff_ne] at hne
    exact Ne.symm hne

theorem keepFirst_of_nodup {xs : List α} (h : (xs.map key).Nodup) : keepFirst key xs = xs := by
  induction xs with
  | nil => rfl
  | cons x rest ih =>
    obtain ⟨hx, hrest⟩ := List.nodup_cons.1 h
    rw [keepFirst, ih hrest, List.filter_eq_self.2]
    intro b hb
    have hne : key b ≠ key x := fun heq => hx (heq ▸ List.mem_map_of_mem hb)
    simpa using hne

/-- Where no key occurs twice, a search for a key finds the one element that has it. -/
theorem find?_key_eq_some_iff {xs : List α} (h : (xs.map key).Nodup) {k : κ} {a : α} :
    xs.find? (fun b => key b == k) = some a ↔ a ∈ xs ∧ key a = k := by
  constructor
  · intro ha
    exact ⟨List.mem_of_find?_eq_some ha, by simpa using List.find?_some ha⟩
  · rintro ⟨ha, rfl⟩
    obtain ⟨b, hb⟩ : ∃ b, xs.find? (fun b => key b == key a) = some b := by
      rw [← Option.isSome_iff_exists, List.find?_isSome]
      exact ⟨a, ha, by simp⟩
    have hkey : key b = key a := by simpa using List.find?_some hb
    -- no two elements have one key, so what is found is `a`
    rw [hb, List.inj_on_of_nodup_map h (List.mem_of_find?_eq_some hb) ha hkey]

omit [LawfulBEq κ] in
/-- The head of a list is kept, and of the rest whatever is not equal to it. Inductions over a list go by this
equation and never open `keepFirst`. -/
theorem distinct_cons (x : κ) (xs : List κ) :
    distinct (x :: xs) = x :: (distinct xs).filter fun b => !(b == x) := rfl

/-- What is left once each element is kept at its first place is listed without repetition, which is how this list is
counted and how it is compared with others. -/
theorem nodup_distinct (xs : List κ) : (distinct xs).Nodup := keepFirst_pairwise xs

/-- Of two lists together the first is selected from on its own, and of the second what has another key. -/
theorem keepFirst_append (xs ys : List α) :
    keepFirst key (xs ++ ys) =
      keepFirst key xs ++ (keepFirst key ys).filter fun b => !(xs.map key).contains (key b) := by
  induction xs with
  | nil => simp [keepFirst]
  | cons x rest ih =>
    rw [List.cons_append, keepFirst, ih, keepFirst, List.filter_append, List.filter_filter,
      List.cons_append]
    congr 2
    apply List.filter_congr
    intro b _
    rw [List.map_cons, List.contains_cons, Bool.not_or]

/-- No key is lost by keeping the first element of each, and none is added. So where only keys are asked for, the
whole list and what is kept of it answer alike. -/
theorem mem_map_keepFirst_iff {xs : List α} {k : κ} :
    k ∈ (keepFirst key xs).map key ↔ k ∈ xs.map key := by
  constructor
  · intro h
    exact ((keepFirst_sublist key xs).map key).subset h
  · intro h
    obtain ⟨a, ha, rfl⟩ := List.mem_map.1 h
    obtain ⟨i, b, hb, hkey⟩ := exists_firstAt key ha
    exact List.mem_map.2 ⟨b, mem_keepFirst_iff.2 ⟨i, hb⟩, hkey⟩

theorem distinct_concat (xs : List κ) (a : κ) :
    distinct (xs ++ [a]) = if a ∈ xs then distinct xs else distinct xs ++ [a] := by
  rw [distinct, keepFirst_append, List.map_id']
  by_cases ha : a ∈ xs <;> simp [keepFirst, distinct, ha]

omit [BEq κ] [LawfulBEq κ] in
/-- Elements that give nothing may be left out of a search. -/
theorem findSome?_filter_of_none {β : Type} {g : κ → Option β} {p : κ → Bool}
    (h : ∀ a, p a = false → g a = none) (xs : List κ) : (xs.filter p).findSome? g = xs.findSome? g := by
  induction xs with
  | nil => rfl
  | cons x rest ih =>
    cases hx : p x with
    | true => rw [List.filter_cons_of_pos hx, List.findSome?_cons, List.findSome?_cons, ih]
    | false => rw [List.filter_cons_of_neg (by simp [hx]), List.findSome?_cons, h x hx, ih]

/-- Two different elements that come first are kept first. -/
theorem exists_distinct_cons_cons {a b : κ} (h : b ≠ a) (xs : List κ) :
    ∃ more, distinct (a :: b :: xs) = a :: b :: more := by
  have hapart : (!(b == a)) = true := by simpa using h
  rw [distinct_cons, distinct_cons, List.filter_cons, if_pos hapart]
  exact ⟨_, rfl⟩

/-- A search finds nothing in a second occurrence that it has not found in the first. -/
theorem findSome?_distinct {β : Type} (g : κ → Option β) (xs : List κ) :
    (distinct xs).findSome? g = xs.findSome? g := by
  induction xs with
  | nil => rfl
  | cons x rest ih =>
    rw [distinct_cons, List.findSome?_cons, List.findSome?_cons]
    cases hx : g x with
    | some b => rfl
    | none =>
      -- the head gives nothing, and neither does what is dropped for being equal to it
      have hnone : ∀ b, (!(b == x)) = false → g b = none := by
        intro b hb
        have hbx : b = x := by simpa using hb
        rw [hbx, hx]
      exact (findSome?_filter_of_none hnone _).trans ih

omit [LawfulBEq κ] in
/-- Selection commutes with a change of the elements, by the keys that they have after it. -/
theorem keepFirst_map {β : Type} (f : β → α) (xs : List β) :
    keepFirst key (xs.map f) = (keepFirst (fun b => key (f b)) xs).map f := by
  induction xs with
  | nil => rfl
  | cons x rest ih =>
    rw [List.map_cons, keepFirst, ih, keepFirst, List.map_cons, List.filter_map]
    rfl

/-! ## What a list gives

The places are those of the list itself, whether or not its elements give a value. -/

section

variable {β : Type} {g : β → Option α}

/-- The element at the place gives the value, and no element before it gives one with its key. -/
structure FirstFrom (g : β → Option α) (key : α → κ) (xs : List β) (i : Nat) (a : α) : Prop where
  given : ∃ b, xs[i]? = some b ∧ g b = some a
  first : ∀ j b c, j < i → xs[j]? = some b → g b = some c → key c ≠ key a

omit [BEq κ] [LawfulBEq κ] in
/-- The first element to be given at the head of a list is whatever the head gives: there is nothing before the head
that could have given its key. -/
theorem firstFrom_zero {x : β} {a : α} {xs : List β} :
    FirstFrom g key (x :: xs) 0 a ↔ g x = some a := by
  constructor
  · rintro ⟨⟨b, hb, hgiven⟩, -⟩
    have hxb : x = b := by simpa using hb
    exact hxb ▸ hgiven
  · intro hgiven
    exact ⟨⟨x, by simp, hgiven⟩, fun j b c hj => absurd hj (Nat.not_lt_zero j)⟩

omit [BEq κ] [LawfulBEq κ] in
/-- What is first given further back comes from the rest of the list, and the head must not give anything of the same
key. A head that gives nothing at all is no obstacle. -/
theorem firstFrom_succ {x : β} {a : α} {xs : List β} {i : Nat} :
    FirstFrom g key (x :: xs) (i + 1) a ↔
      (∀ c, g x = some c → key c ≠ key a) ∧ FirstFrom g key xs i a := by
  constructor
  · rintro ⟨⟨b, hb, hgiven⟩, hfirst⟩
    refine ⟨fun c hc => hfirst 0 x c (by omega) (by simp) hc, ⟨b, by simpa using hb, hgiven⟩, ?_⟩
    intro j b' c hj hb' hc
    exact hfirst (j + 1) b' c (by omega) (by simpa using hb') hc
  · rintro ⟨hhead, ⟨b, hb, hgiven⟩, hfirst⟩
    refine ⟨⟨b, by simpa using hb, hgiven⟩, ?_⟩
    intro j b' c hj hb' hc
    cases j with
    | zero =>
      -- the head is the one place that the rest does not speak of
      have hxb : x = b' := by simpa using hb'
      exact hhead c (hxb ▸ hc)
    | succ j => exact hfirst j b' c (by omega) (by simpa using hb') hc

/-- The values kept are those that are given first, each at the place of what gives it. -/
theorem mem_keepFirst_filterMap_iff {xs : List β} {a : α} :
    a ∈ keepFirst key (xs.filterMap g) ↔ ∃ i, FirstFrom g key xs i a := by
  induction xs with
  | nil =>
    constructor
    · intro h
      exact absurd h List.not_mem_nil
    · rintro ⟨i, ⟨b, hb, -⟩, -⟩
      exact absurd hb (by simp)
  | cons x rest ih =>
    -- a place is the first one, or one of the rest whose key the first has not
    have hplaces : (∃ i, FirstFrom g key (x :: rest) i a) ↔
        g x = some a ∨
          (∀ c, g x = some c → key c ≠ key a) ∧ a ∈ keepFirst key (rest.filterMap g) := by
      rw [ih]
      constructor
      · rintro ⟨i, hi⟩
        cases i with
        | zero => exact Or.inl (firstFrom_zero.1 hi)
        | succ i => exact Or.inr ⟨(firstFrom_succ.1 hi).1, i, (firstFrom_succ.1 hi).2⟩
      · rintro (hgiven | ⟨hhead, i, hi⟩)
        · exact ⟨0, firstFrom_zero.2 hgiven⟩
        · exact ⟨i + 1, firstFrom_succ.2 ⟨hhead, hi⟩⟩
    rw [hplaces]
    cases hx : g x with
    | none =>
      rw [List.filterMap_cons_none hx]
      simp
    | some c =>
      rw [List.filterMap_cons_some hx, keepFirst, List.mem_cons, List.mem_filter]
      simp only [Bool.not_eq_true', beq_eq_false_iff_ne, Option.some.injEq, forall_eq']
      constructor
      · rintro (rfl | ⟨hmem, hne⟩)
        · exact Or.inl rfl
        · exact Or.inr ⟨Ne.symm hne, hmem⟩
      · rintro (rfl | ⟨hne, hmem⟩)
        · exact Or.inl rfl
        · exact Or.inr ⟨hmem, Ne.symm hne⟩

/-- The values kept stand in the order of what gives them. -/
theorem keepFirst_filterMap_pairwise (xs : List β) :
    (keepFirst key (xs.filterMap g)).Pairwise fun a b =>
      ∃ i j, i < j ∧ FirstFrom g key xs i a ∧ FirstFrom g key xs j b := by
  induction xs with
  | nil => exact List.Pairwise.nil
  | cons x rest ih =>
    cases hx : g x with
    | none =>
      rw [List.filterMap_cons_none hx]
      have hhead : ∀ (a c : α), g x = some c → key c ≠ key a := by simp [hx]
      refine ih.imp fun ⟨i, j, hij, hi, hj⟩ => ?_
      exact ⟨i + 1, j + 1, by omega, firstFrom_succ.2 ⟨hhead _, hi⟩,
        firstFrom_succ.2 ⟨hhead _, hj⟩⟩
    | some c =>
      rw [List.filterMap_cons_some hx, keepFirst]
      -- a value that is left has another key than the first, so its place is one further on
      have hnext : ∀ {b i}, b ∈ (keepFirst key (rest.filterMap g)).filter
          (fun b => !(key b == key c)) → FirstFrom g key rest i b →
          FirstFrom g key (x :: rest) (i + 1) b := by
        intro b i hb hi
        have hne : key b ≠ key c := by simpa using (List.mem_filter.1 hb).2
        refine firstFrom_succ.2 ⟨fun d hd => ?_, hi⟩
        rw [← Option.some.inj (hx.symm.trans hd)]
        exact Ne.symm hne
      refine List.Pairwise.cons (fun b hb => ?_) ?_
      · obtain ⟨i, hi⟩ := mem_keepFirst_filterMap_iff.1 (List.mem_filter.1 hb).1
        exact ⟨0, i + 1, by omega, firstFrom_zero.2 hx, hnext hb hi⟩
      · refine (ih.filter _).imp_of_mem fun ha hb ⟨i, j, hij, hi, hj⟩ => ?_
        exact ⟨i + 1, j + 1, by omega, hnext ha hi, hnext hb hj⟩

end

end FeatureAudit
