/-!
# Sorting keeps ties as they were

A stable sort leaves elements as they are where they are in order among themselves. So of two elements that
tie, the one that came first still comes first, and whatever held of every earlier and later element of the list
holds of the ties of the sorted list.

* **`filter_mergeSort`** — a part of the list that is in order stays as it is.
* **`pairwise_mergeSort_ties`** — sorted, and ties in the order of the list.
-/
namespace FeatureAudit

variable {α : Type} {le : α → α → Bool} {xs : List α}

/-- Sorting keeps a part of a list as it is where it is in order among itself. -/
theorem filter_mergeSort (htrans : ∀ a b c, le a b = true → le b c = true → le a c = true)
    (htotal : ∀ a b, (le a b || le b a) = true) {p : α → Bool}
    (h : (xs.filter p).Pairwise fun a b => le a b = true) : (xs.mergeSort le).filter p = xs.filter p := by
  have hkept : (xs.filter p).Sublist (xs.mergeSort le) :=
    List.sublist_mergeSort htrans htotal h List.filter_sublist
  have hsub : (xs.filter p).Sublist ((xs.mergeSort le).filter p) := by
    have hfiltered := hkept.filter p
    rwa [List.filter_filter, funext fun a => Bool.and_self (p a)] at hfiltered
  have hperm : (xs.mergeSort le).Perm xs := List.mergeSort_perm xs le
  exact (hsub.eq_of_length (hperm.filter p).length_eq.symm).symm

/-- A sorted list is in order, and of two elements that tie the first came before the second. -/
theorem pairwise_mergeSort_ties (htrans : ∀ a b c, le a b = true → le b c = true → le a c = true)
    (htotal : ∀ a b, (le a b || le b a) = true) {R : α → α → Prop} (h : xs.Pairwise R) :
    (xs.mergeSort le).Pairwise fun a b => le a b = true ∧ (le b a = true → R a b) := by
  apply List.pairwise_iff_forall_sublist.2
  intro a b hab
  have hle : le a b = true :=
    List.pairwise_iff_forall_sublist.1 (List.pairwise_mergeSort htrans htotal xs) hab
  refine ⟨hle, fun hge => List.pairwise_iff_forall_sublist.1 h ?_⟩
  -- what ties with the first element is in order as it is
  have hrefl : le a a = true := htrans a b a hle hge
  have hties : (xs.mergeSort le).filter (fun c => le a c && le c a) =
      xs.filter fun c => le a c && le c a := by
    apply filter_mergeSort htrans htotal
    apply List.pairwise_of_forall_mem_list
    intro c hc d hd
    have hca : le a c = true ∧ le c a = true := by simpa using (List.mem_filter.1 hc).2
    have had : le a d = true ∧ le d a = true := by simpa using (List.mem_filter.1 hd).2
    exact htrans c a d hca.2 had.1
  have hpair : [a, b].filter (fun c => le a c && le c a) = [a, b] := by simp [hrefl, hle, hge]
  rw [← hpair]
  apply (hab.filter _).trans
  rw [hties]
  exact List.filter_sublist

end FeatureAudit
