/-!
First-wins selection: of several elements with one key the first is kept, in its place.
-/
namespace FeatureAudit

variable {α κ : Type} [BEq κ]

/-- The elements whose key no earlier element has. -/
def keepFirst (key : α → κ) : List α → List α
  | [] => []
  | a :: rest => a :: (keepFirst key rest).filter fun b => !(key b == key a)

/-- The distinct elements, in order of first occurrence. -/
def distinct {α : Type} [BEq α] (xs : List α) : List α := keepFirst (fun a => a) xs

theorem keepFirst_sublist (key : α → κ) (xs : List α) : List.Sublist (keepFirst key xs) xs := by
  induction xs with
  | nil => exact List.Sublist.refl _
  | cons a rest ih =>
    exact (List.Sublist.trans (List.filter_sublist) ih).cons_cons a

theorem mem_of_mem_keepFirst {key : α → κ} {xs : List α} {a : α} (h : a ∈ keepFirst key xs) :
    a ∈ xs :=
  (keepFirst_sublist key xs).subset h

/-- The first element with a key survives the selection. -/
theorem find?_keepFirst [LawfulBEq κ] (key : α → κ) (k : κ) (xs : List α) :
    (keepFirst key xs).find? (fun a => key a == k) = xs.find? (fun a => key a == k) := by
  induction xs with
  | nil => rfl
  | cons a rest ih =>
    by_cases h : key a = k
    · simp [keepFirst, h]
    · have hk : (key a == k) = false := by simpa using h
      rw [keepFirst, List.find?_cons_of_neg (by simp [hk]), List.find?_cons_of_neg (by simp [hk]),
        List.find?_filter, ← ih]
      congr 1
      funext b
      by_cases hb : key b = k
      · have hba : ¬ k = key a := fun e => h e.symm
        simp [hb, hba]
      · simp [hb]

end FeatureAudit
