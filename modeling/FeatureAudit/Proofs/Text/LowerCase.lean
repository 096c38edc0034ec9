import FeatureAudit.Text.LowerCase

/-!
# Lowercase text is lowercase

Lowering a text twice is lowering it once. The table of runs is looked through in one closed check:
no run leads into another (`CaseRun.IsFinal`), so a lowered letter is in no run.

* **`Settled`** — a code point that lowering leaves alone.
* **`settled_of_mem_lowerChars`** — lowering writes settled characters only.
* **`lowerChars_lowerChars`** — lowering is idempotent.
-/
namespace FeatureAudit.Text

/-! ## Runs -/

/-- The least lowercase code point of a run. -/
def CaseRun.firstLower (r : CaseRun) : Nat := Int.toNat (r.first + r.delta)

/-- The greatest lowercase code point of a run. -/
def CaseRun.lastLower (r : CaseRun) : Nat := Int.toNat (r.last + r.delta)

/-- The lowercase code points of the run are no members of the other: they lie before it or after
it, or both go by steps of two and never meet. -/
def CaseRun.misses (r other : CaseRun) : Bool :=
  r.lastLower.blt other.first || other.last.blt r.firstLower ||
    (other.step == 2 && (r.step == 2 || r.first == r.last) &&
      (r.firstLower + other.first) % 2 == 1)

/-- The lowercase code points of the run are characters, they are neither capitals of ASCII nor the
dotted capital I, and they are members of no run. -/
def CaseRun.isFinal (r : CaseRun) : Bool :=
  0 ≤ r.first + r.delta && 90 < r.firstLower &&
    (r.lastLower < 0x130 || 0x130 < r.firstLower) &&
    (r.lastLower < 0xD800 || 0xE000 ≤ r.firstLower && r.lastLower < 0x110000) &&
    caseRuns.all r.misses

/-- No run of capitals is lowered into another run. This is checked over the whole table. -/
theorem caseRuns_isFinal : caseRuns.all CaseRun.isFinal = true := by
  decide +kernel

/-- A run lowers the numbers between its ends that are at its step, all by the same distance. -/
theorem CaseRun.lower?_eq_some_iff {r : CaseRun} {n m : Nat} :
    r.lower? n = some m ↔
      (r.first ≤ n ∧ n ≤ r.last ∧ (n - r.first) % r.step = 0) ∧ m = Int.toNat (n + r.delta) := by
  simp only [CaseRun.lower?]
  split
  · rename_i h
    simp only [Bool.and_eq_true, decide_eq_true_eq, beq_iff_eq] at h
    simp [h, eq_comm]
  · rename_i h
    simp only [Bool.and_eq_true, decide_eq_true_eq, beq_iff_eq] at h
    simp only [reduceCtorEq, false_iff]
    rintro ⟨⟨h₁, h₂, h₃⟩, -⟩
    exact h ⟨⟨h₁, h₂⟩, h₃⟩

/-- A run does not go on from where another that misses it has ended. -/
theorem CaseRun.lower?_eq_none_of_misses {r other : CaseRun} {n m : Nat}
    (hstart : 0 ≤ r.first + r.delta) (hmiss : r.misses other = true)
    (hlower : r.lower? n = some m) : other.lower? m = none := by
  obtain ⟨⟨hfirst, hlast, hstep⟩, rfl⟩ := CaseRun.lower?_eq_some_iff.1 hlower
  rw [Option.eq_none_iff_forall_ne_some]
  intro k hk
  obtain ⟨⟨hfirst', hlast', hstep'⟩, -⟩ := CaseRun.lower?_eq_some_iff.1 hk
  simp only [CaseRun.misses, CaseRun.firstLower, CaseRun.lastLower, Bool.or_eq_true,
    Bool.and_eq_true, Nat.blt_eq, beq_iff_eq] at hmiss
  rcases hmiss with (hbefore | hafter) | ⟨⟨htwo, hsteps⟩, hodd⟩
  · omega
  · omega
  · -- both sides go by twos: the parities of the two starts keep them apart
    rw [htwo] at hstep'
    rcases hsteps with htwo' | hsingle
    · rw [htwo'] at hstep
      omega
    · omega

/-! ## Characters -/

/-- A code point that lowering leaves alone. -/
structure Settled (n : Nat) : Prop where
  notCapital : ¬ (65 ≤ n ∧ n ≤ 90)
  notDotted : n ≠ 0x130
  notSigma : n ≠ 0x3A3
  inNoRun : 128 ≤ n → ∀ r ∈ caseRuns, r.lower? n = none

/-- Lowering in ASCII moves the capital letters and nothing else. -/
theorem toNat_toLower (c : Char) :
    c.toLower.toNat = if 65 ≤ c.toNat ∧ c.toNat ≤ 90 then c.toNat + 32 else c.toNat := by
  have hrange : (c.val ≥ 'A'.val ∧ c.val ≤ 'Z'.val) ↔ 65 ≤ c.toNat ∧ c.toNat ≤ 90 := by
    rw [ge_iff_le, UInt32.le_iff_toNat_le, UInt32.le_iff_toNat_le]
    exact Iff.rfl
  unfold Char.toLower
  split
  · rename_i h
    have hc := hrange.1 h
    rw [if_pos hc]
    change (c.val + ('a'.val - 'A'.val)).toNat = c.toNat + 32
    have hadd : ('a'.val - 'A'.val).toNat = 32 := by decide
    have hval : c.val.toNat = c.toNat := rfl
    rw [UInt32.toNat_add, hadd, hval]
    omega
  · rename_i h
    rw [if_neg fun hc => h (hrange.2 hc)]

theorem lowerChar_of_settled {c : Char} (h : Settled c.toNat) : lowerChar c = c := by
  rw [lowerChar]
  split
  · rw [← Char.toNat_inj, toNat_toLower, if_neg h.notCapital]
  · rename_i hlarge
    have hnone : caseRuns.findSome? (fun r => r.lower? c.toNat) = none := by
      rw [List.findSome?_eq_none_iff]
      exact h.inNoRun (by omega)
    rw [hnone]

/-- The lowercase form of a character is settled; the two characters that are treated apart have
other forms. -/
theorem settled_lowerChar {c : Char} (hdotted : c.toNat ≠ 0x130) (hsigma : c.toNat ≠ 0x3A3) :
    Settled (lowerChar c).toNat := by
  rw [lowerChar]
  split
  · rename_i hascii
    rw [toNat_toLower]
    split <;> constructor <;> omega
  · rename_i hlarge
    cases hfind : caseRuns.findSome? (fun r => r.lower? c.toNat) with
    | none =>
      rw [List.findSome?_eq_none_iff] at hfind
      change Settled c.toNat
      exact ⟨by omega, hdotted, hsigma, fun _ => hfind⟩
    | some m =>
      obtain ⟨before, r, after, hruns, hlower, -⟩ := List.findSome?_eq_some_iff.1 hfind
      have hmem : r ∈ caseRuns := by rw [hruns]; simp
      have hfinal := List.all_eq_true.1 caseRuns_isFinal r hmem
      simp only [CaseRun.isFinal, Bool.and_eq_true, Bool.or_eq_true, decide_eq_true_eq,
        List.all_eq_true] at hfinal
      obtain ⟨⟨⟨⟨hstart, hcapital⟩, hdot⟩, hvalid⟩, hmisses⟩ := hfinal
      obtain ⟨⟨hfirst, hlast, -⟩, hm⟩ := CaseRun.lower?_eq_some_iff.1 hlower
      have hbounds : r.firstLower ≤ m ∧ m ≤ r.lastLower := by
        simp only [CaseRun.firstLower, CaseRun.lastLower]
        omega
      have hnone : ∀ other ∈ caseRuns, other.lower? m = none := fun other hother =>
        CaseRun.lower?_eq_none_of_misses hstart (hmisses other hother) hlower
      have htoNat : (Char.ofNat m).toNat = m := by
        have hvalid : m.isValidChar := by
          simp only [Nat.isValidChar]
          omega
        rw [Char.ofNat, dif_pos hvalid]
        rfl
      change Settled (Char.ofNat m).toNat
      rw [htoNat]
      refine ⟨by omega, by omega, ?_, fun _ => hnone⟩
      -- the capital sigma is a member of a run
      rintro rfl
      have hmember : (caseRuns.all fun r => (r.lower? 0x3A3).isNone) = false := by decide +kernel
      refine absurd (List.all_eq_true.2 fun r hr => ?_) (Bool.eq_false_iff.1 hmember)
      rw [hnone r hr]
      rfl

/-! ## Texts -/

/-- Every character of a lowered text is settled: neither a capital nor one of the letters with forms of their own. So
to lower it again changes nothing. -/
theorem settled_of_mem_lowerAfter {before cs : List Char} {c : Char}
    (h : c ∈ lowerAfter before cs) : Settled c.toNat := by
  induction cs generalizing before with
  | nil => simp [lowerAfter] at h
  | cons d rest ih =>
    rw [lowerAfter] at h
    rcases List.mem_append.1 h with hform | hrest
    · -- the forms of the two special letters are closed characters
      have hspecial : ∀ n ∈ [0x69, 0x307, 0x3C2, 0x3C3], Settled n := by
        intro n hn
        refine ⟨?_, ?_, ?_, fun _ => ?_⟩
        all_goals
          revert n
          decide +kernel
      split at hform
      · simp only [List.mem_cons, List.not_mem_nil, or_false] at hform
        rcases hform with rfl | rfl
        · exact hspecial 0x69 (by simp)
        · exact hspecial 0x307 (by simp)
      · rename_i hdotted
        split at hform
        · split at hform
          · rw [List.mem_singleton.1 hform]
            exact hspecial 0x3C2 (by simp)
          · rw [List.mem_singleton.1 hform]
            exact hspecial 0x3C3 (by simp)
        · rename_i hsigma
          rw [List.mem_singleton.1 hform]
          exact settled_lowerChar hdotted hsigma
    · exact ih hrest

theorem settled_of_mem_lowerChars {cs : List Char} {c : Char} (h : c ∈ lowerChars cs) :
    Settled c.toNat :=
  settled_of_mem_lowerAfter h

/-- A text of settled characters is lowered to itself, whatever stands before it. -/
theorem lowerAfter_of_settled {before cs : List Char} (h : ∀ c ∈ cs, Settled c.toNat) :
    lowerAfter before cs = cs := by
  induction cs generalizing before with
  | nil => rfl
  | cons c rest ih =>
    have hc := h c (by simp)
    rw [lowerAfter, if_neg hc.notDotted, if_neg hc.notSigma, lowerChar_of_settled hc,
      ih fun d hd => h d (by simp [hd])]
    rfl

/-- Lowering is idempotent, since what it writes is settled: no character of it has another small letter. -/
theorem lowerChars_lowerChars (cs : List Char) : lowerChars (lowerChars cs) = lowerChars cs :=
  lowerAfter_of_settled fun _ hc => settled_of_mem_lowerChars hc

end FeatureAudit.Text
