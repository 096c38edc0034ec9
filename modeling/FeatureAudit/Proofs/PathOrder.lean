import Mathlib.Data.List.Lex
import Mathlib.Data.String.Basic
import FeatureAudit.Path
import FeatureAudit.Proofs.Text.Pieces

/-!
# The order of paths

Paths are ordered name by name, with the root as the first of the names. A name that is written has no
slash, so it is no root, and different paths have different names.

* **`Path.IsWritten`** — some text writes the path.
* **`Path.IsWritten.allParts_inj`** — such a path is known by its names.
* **`Path.le_iff`** — paths are sorted by their names, in the order of lists.
* **`Path.le_trans`**, **`Path.le_total`**, **`Path.IsWritten.le_antisymm`** — on such paths the order is
  linear.
-/
namespace FeatureAudit.Path

/-! ## Written paths -/

/-- Some text writes the path. -/
def IsWritten (p : Path) : Prop := ∃ s, Path.ofString s = p

/-- The names in a written path are what stands between its slashes, so none of them has a slash. This sets them apart
from the root, which is nothing but slashes. -/
theorem IsWritten.slash_not_mem {p : Path} (h : p.IsWritten) {part : String} (hpart : part ∈ p.parts) :
    '/' ∉ part.toList := by
  obtain ⟨s, rfl⟩ := h
  obtain ⟨hname, -⟩ := List.mem_filter.1 hpart
  obtain ⟨piece, hpiece, rfl⟩ := List.mem_map.1 hname
  rw [String.toList_ofList]
  exact Text.not_mem_of_mem_splitOn hpiece

/-- The root of a text is empty or begins with a slash: one, or two if there are exactly two. No other root can be
written. -/
theorem slash_mem_rootOf (cs : List Char) : rootOf cs = "" ∨ '/' ∈ (rootOf cs).toList := by
  unfold rootOf
  split
  · exact Or.inr (by decide)
  · exact Or.inr (by decide)
  · exact Or.inr (by decide)
  · exact Or.inl rfl

/-- An absolute path has a root in which there is a slash; a path without one is relative to wherever it is used. -/
theorem IsWritten.slash_mem_root {p : Path} (h : p.IsWritten) (habsolute : p.isAbsolute = true) :
    '/' ∈ p.root.toList := by
  obtain ⟨s, rfl⟩ := h
  rcases slash_mem_rootOf s.toList with hroot | hroot
  · exact absurd hroot (by simpa [isAbsolute, ofString] using habsolute)
  · exact hroot

/-- A relative path has no name that could be a root. -/
theorem IsWritten.root_not_mem {p q : Path} (hp : p.IsWritten) (hq : q.IsWritten)
    (habsolute : p.isAbsolute = true) : p.root ∉ q.parts :=
  fun hmem => hq.slash_not_mem hmem (hp.slash_mem_root habsolute)

/-- A path is its root and its parts, so paths that have both in common are the same path. -/
theorem eq_of_root_of_parts {p q : Path} (hroot : p.root = q.root) (hparts : p.parts = q.parts) :
    p = q := by
  cases p
  cases q
  cases hroot
  cases hparts
  rfl

/-- A written path is known by its names: two written paths with the same names are one path. -/
theorem IsWritten.allParts_inj {p q : Path} (hp : p.IsWritten) (hq : q.IsWritten)
    (h : p.allParts = q.allParts) : p = q := by
  unfold allParts at h
  split at h
  · rename_i hpabsolute
    split at h
    · obtain ⟨hroot, hparts⟩ := List.cons.inj h
      exact eq_of_root_of_parts hroot hparts
    · -- the root of the one would be a name in the other
      exact absurd (h ▸ List.mem_cons_self) (hp.root_not_mem hq hpabsolute)
  · rename_i hprelative
    split at h
    · rename_i hqabsolute
      exact absurd (h ▸ List.mem_cons_self) (hq.root_not_mem hp hqabsolute)
    · rename_i hqrelative
      have hproot : p.root = "" := by simpa [isAbsolute] using hprelative
      have hqroot : q.root = "" := by simpa [isAbsolute] using hqrelative
      exact eq_of_root_of_parts (hproot.trans hqroot.symm) h

/-! ## The order -/

/-- Lists of names are in order if their heads are, or if the heads are equal and the rests are in order: the comparison
of equal heads as texts is left to the rests. -/
theorem partsLe_cons_iff {a b : String} {as bs : List String} :
    partsLe (a :: as) (b :: bs) = true ↔ a < b ∨ a = b ∧ partsLe as bs = true := by
  by_cases hab : a = b
  · simp [partsLe, hab]
  · have hlt : a ≤ b ↔ a < b :=
      ⟨fun hle => String.not_le.1 fun hge => hab (String.le_antisymm hle hge),
        fun hlt => String.not_lt.1 fun hge => String.lt_asymm hlt hge⟩
    simp [partsLe, hab, hlt]

/-- The order of lists of names is the lexicographic one, equal lists included, so it has the laws of that. -/
theorem partsLe_iff {as bs : List String} : partsLe as bs = true ↔ as ≤ bs := by
  rw [le_iff_lt_or_eq]
  induction as generalizing bs with
  | nil => cases bs <;> simp [partsLe]
  | cons a as ih =>
    cases bs with
    | nil => simp [partsLe]
    | cons b bs => rw [partsLe_cons_iff, List.cons_lt_cons_iff, List.cons.injEq, ih, and_or_left, or_assoc]

/-- Paths are sorted by their parts, the root among them. -/
theorem le_iff {p q : Path} : le p q = true ↔ p.allParts ≤ q.allParts := partsLe_iff

/-- The order of paths is transitive, as that of their parts is. -/
theorem le_trans {p q r : Path} (hpq : le p q = true) (hqr : le q r = true) : le p r = true :=
  le_iff.2 ((le_iff.1 hpq).trans (le_iff.1 hqr))

/-- Of two paths one is never after the other, so there is a way to sort any of them. -/
theorem le_total (p q : Path) : le p q = true ∨ le q p = true := by
  rw [le_iff, le_iff]
  exact LinearOrder.le_total p.allParts q.allParts

/-- Written paths that are each before the other are equal. It is here that the paths must be written: only then do
the parts tell the path, root included. -/
theorem IsWritten.le_antisymm {p q : Path} (hp : p.IsWritten) (hq : q.IsWritten)
    (hpq : le p q = true) (hqp : le q p = true) : p = q :=
  hp.allParts_inj hq ((le_iff.1 hpq).antisymm (le_iff.1 hqp))

end FeatureAudit.Path
