import Mathlib.Data.List.TakeWhile
import FeatureAudit.Text.Blank

/-!
# Blanks in abridged and stripped texts

An abridged text is made of words, so the only blanks left in it are the single spaces between them,
and it is longer than its limit by no more than the dots. A stripped text is what stands between the blanks
at its ends.

* **`not_isBlank_of_mem_words`** — there are no blanks inside words.
* **`eq_space_of_mem_abridgeChars`** — a blank of an abridged text is a space.
* **`length_abridge_le`** — an abridged text is at most three characters longer than its limit.
* **`stripChars_eq_nil_iff`** — nothing is left of a text exactly if all of it is blank.
* **`stripChars_append_of_blank`**, **`stripChars_append_blanks`** — blanks at the start are not left, nor are blanks
  at the end.
* **`isStripped_stripChars`**, **`exists_eq_append_stripChars`** — what is left has no blank at either end, and only
  blanks around it are gone.
* **`prefix_stripChars`** — what stands before the first blank is left.
* **`mem_blankChars_of_isBlank`** — the blanks, one by one.
-/
namespace FeatureAudit.Text

/-- The characters that end a line in one or another convention. -/
def isLineBreak (c : Char) : Bool :=
  let n := c.toNat
  (10 ≤ n && n ≤ 13) || (28 ≤ n && n ≤ 30) || n == 0x85 || n == 0x2028 || n == 0x2029

theorem isBlank_of_isLineBreak {c : Char} (h : isLineBreak c = true) : isBlank c = true := by
  simp only [isLineBreak, isBlank, Bool.or_eq_true, Bool.and_eq_true, decide_eq_true_eq,
    beq_iff_eq] at h ⊢
  omega

/-! ## Words -/

/-- A word is closed at a blank and takes in nothing but what is not blank. The induction is on the
text, for every open run without blanks. -/
theorem not_isBlank_of_mem_wordsAfter {run cs : List Char} (hrun : ∀ c ∈ run, isBlank c = false) :
    ∀ w ∈ wordsAfter run cs, ∀ c ∈ w, isBlank c = false := by
  have hclosed : ∀ c ∈ run.reverse, isBlank c = false := by
    intro c hc
    exact hrun c (List.mem_reverse.1 hc)
  induction cs generalizing run with
  | nil =>
    intro w hw
    rw [wordsAfter] at hw
    split at hw
    · exact absurd hw List.not_mem_nil
    · rw [List.mem_singleton.1 hw]
      exact hclosed
  | cons a rest ih =>
    intro w hw
    rw [wordsAfter] at hw
    have hnil : ∀ w ∈ wordsAfter [] rest, ∀ c ∈ w, isBlank c = false := by
      apply ih <;> simp
    split at hw
    · -- a blank closes the run, if one is open
      split at hw
      · exact hnil w hw
      · rcases List.mem_cons.1 hw with rfl | hw
        · exact hclosed
        · exact hnil w hw
    · rename_i ha
      have hrun' : ∀ c ∈ a :: run, isBlank c = false := by
        intro c hc
        rcases List.mem_cons.1 hc with rfl | hc
        · exact Bool.eq_false_iff.2 ha
        · exact hrun c hc
      refine ih hrun' (fun c hc => ?_) w hw
      exact hrun' c (List.mem_reverse.1 hc)

theorem not_isBlank_of_mem_words {cs w : List Char} {c : Char} (hw : w ∈ words cs) (hc : c ∈ w) :
    isBlank c = false :=
  not_isBlank_of_mem_wordsAfter (fun _ hc => absurd hc List.not_mem_nil) w hw c hc

/-! ## Abridged texts -/

/-- What stands in a joined text is the separator or part of one of the pieces. -/
theorem mem_intercalate {sep : List Char} {pieces : List (List Char)} {c : Char}
    (h : c ∈ sep.intercalate pieces) : c ∈ sep ∨ ∃ w ∈ pieces, c ∈ w := by
  induction pieces with
  | nil => exact absurd h List.not_mem_nil
  | cons w rest ih =>
    cases rest with
    | nil =>
      rw [List.intercalate_singleton] at h
      exact Or.inr ⟨w, List.mem_singleton_self w, h⟩
    | cons w' rest =>
      rw [List.intercalate_cons_cons, List.append_assoc] at h
      rcases List.mem_append.1 h with hw | h
      · exact Or.inr ⟨w, List.mem_cons_self, hw⟩
      rcases List.mem_append.1 h with hsep | h
      · exact Or.inl hsep
      rcases ih h with hsep | ⟨v, hv, hc⟩
      · exact Or.inl hsep
      · exact Or.inr ⟨v, List.mem_cons_of_mem w hv, hc⟩

/-- The only blanks that are left in a spaced text are spaces. -/
theorem eq_space_of_mem_spaced {cs : List Char} {c : Char} (h : c ∈ spaced cs)
    (hblank : isBlank c = true) : c = ' ' := by
  rcases mem_intercalate h with hsep | ⟨w, hw, hc⟩
  · exact List.mem_singleton.1 hsep
  · have hword := not_isBlank_of_mem_words hw hc
    rw [hword] at hblank
    exact absurd hblank (by decide)

/-- The blanks of an abridged text are spaces: the rest of it is words, or the dots after a cut. -/
theorem eq_space_of_mem_abridgeChars {limit : Int} {cs : List Char} {c : Char}
    (h : c ∈ abridgeChars limit cs) (hblank : isBlank c = true) : c = ' ' := by
  simp only [abridgeChars] at h
  split at h
  · rcases List.mem_append.1 h with hkept | hdots
    · exact eq_space_of_mem_spaced (List.mem_of_mem_take hkept) hblank
    · have hdot : c = '.' := by simpa using hdots
      rw [hdot] at hblank
      exact absurd hblank (by decide)
  · exact eq_space_of_mem_spaced h hblank

/-- With a limit that is not negative, a text is cut right there. -/
theorem abridgeChars_natCast (limit : Nat) (cs : List Char) :
    abridgeChars limit cs =
      if (spaced cs).length ≤ limit then spaced cs
      else (spaced cs).take limit ++ ['.', '.', '.'] := by
  simp only [abridgeChars]
  split
  · rename_i hlong
    have hkept : keptLength (spaced cs).length limit = limit := by
      rw [keptLength, if_neg (by omega), Int.toNat_natCast]
    rw [hkept, if_neg (by omega)]
  · rename_i hshort
    rw [if_pos (by omega)]

/-- What is abridged is no longer than the limit and the three dots. -/
theorem length_abridgeChars_le (limit : Nat) (cs : List Char) :
    (abridgeChars limit cs).length ≤ limit + 3 := by
  rw [abridgeChars_natCast]
  split
  · omega
  · rw [List.length_append, List.length_take]
    show min limit (spaced cs).length + 3 ≤ limit + 3
    omega

/-- An abridged text is no longer than the limit and the three dots. -/
theorem length_abridge_le (limit : Nat) (s : String) :
    (abridge limit s).length ≤ limit + 3 := by
  rw [abridge, String.length_ofList]
  exact length_abridgeChars_le limit s.toList

/-- An abridged text stands on one line. -/
theorem not_isLineBreak_of_mem_abridge {limit : Int} {s : String} {c : Char}
    (h : c ∈ (abridge limit s).toList) : isLineBreak c = false := by
  rw [abridge, String.toList_ofList] at h
  refine Bool.eq_false_iff.2 fun hbreak => ?_
  have hspace : c = ' ' := eq_space_of_mem_abridgeChars h (isBlank_of_isLineBreak hbreak)
  rw [hspace] at hbreak
  exact absurd hbreak (by decide)

/-! ## Stripped texts -/

/-- Nothing is left behind the blanks in front of a text exactly if it is blank. -/
theorem stripLeft_eq_nil_iff {cs : List Char} :
    stripLeft cs = [] ↔ ∀ c ∈ cs, isBlank c = true :=
  List.dropWhile_eq_nil_iff

/-- Nothing is left of a text without the blanks around it exactly if it is blank. -/
theorem stripChars_eq_nil_iff {cs : List Char} :
    stripChars cs = [] ↔ ∀ c ∈ cs, isBlank c = true := by
  rw [stripChars, List.reverse_eq_nil_iff, stripLeft_eq_nil_iff]
  constructor
  · intro h
    -- the first character that is left is not blank
    refine stripLeft_eq_nil_iff.1 (Decidable.byContradiction fun hne => ?_)
    have hhead : isBlank ((stripLeft cs).head hne) = false :=
      List.head_dropWhile_not isBlank hne
    rw [h _ (List.mem_reverse.2 (List.head_mem hne))] at hhead
    exact absurd hhead (by decide)
  · intro h c hc
    rw [stripLeft_eq_nil_iff.2 h] at hc
    exact absurd hc List.not_mem_nil

/-- A blank at the end makes no difference to a stripped text. -/
theorem stripChars_concat_blank (cs : List Char) {c : Char} (h : isBlank c = true) :
    stripChars (cs ++ [c]) = stripChars cs := by
  by_cases hblank : stripLeft cs = []
  · -- nothing is left of either
    have hall : ∀ d ∈ cs ++ [c], isBlank d = true := by
      intro d hd
      rcases List.mem_append.1 hd with hd | hd
      · exact stripLeft_eq_nil_iff.1 hblank d hd
      · rw [List.mem_singleton.1 hd, h]
    rw [stripChars_eq_nil_iff.2 hall, stripChars_eq_nil_iff.2 (stripLeft_eq_nil_iff.1 hblank)]
  · have hleft : stripLeft (cs ++ [c]) = stripLeft cs ++ [c] := by
      have happend : stripLeft (cs ++ [c]) =
          if (stripLeft cs).isEmpty then stripLeft [c] else stripLeft cs ++ [c] :=
        List.dropWhile_append
      rw [happend, if_neg (by simpa using hblank)]
    have hright : stripLeft (c :: (stripLeft cs).reverse) = stripLeft (stripLeft cs).reverse :=
      List.dropWhile_cons_of_pos h
    rw [stripChars, hleft, List.reverse_append, List.reverse_singleton, List.singleton_append, hright,
      stripChars]

/-- Blanks at the start make no difference to a stripped text. -/
theorem stripChars_append_of_blank {blanks : List Char} (h : ∀ c ∈ blanks, isBlank c = true)
    (cs : List Char) : stripChars (blanks ++ cs) = stripChars cs := by
  have hleft : stripLeft (blanks ++ cs) = stripLeft cs := List.dropWhile_append_of_pos h
  rw [stripChars, hleft, stripChars]

/-- Blanks at the end make no difference to a stripped text. -/
theorem stripChars_append_blanks (cs : List Char) {blanks : List Char} (h : ∀ c ∈ blanks, isBlank c = true) :
    stripChars (cs ++ blanks) = stripChars cs := by
  induction blanks generalizing cs with
  | nil => rw [List.append_nil]
  | cons c blanks ih =>
    rw [List.append_cons, ih (cs ++ [c]) fun d hd => h d (List.mem_cons_of_mem c hd),
      stripChars_concat_blank cs (h c List.mem_cons_self)]

/-- There is no blank at either end. -/
structure IsStripped (cs : List Char) : Prop where
  head : ∀ c ∈ cs.head?, isBlank c = false
  last : ∀ c ∈ cs.getLast?, isBlank c = false

/-- A text that does not begin with a blank has none to be taken off its front. -/
theorem stripLeft_of_head? {cs : List Char} (h : ∀ c ∈ cs.head?, isBlank c = false) : stripLeft cs = cs := by
  cases cs with
  | nil => rfl
  | cons c cs => exact List.dropWhile_cons_of_neg (by simp [h c rfl])

/-- A stripped text stays as it is when it is stripped again. -/
theorem IsStripped.stripChars_eq {cs : List Char} (h : IsStripped cs) : stripChars cs = cs := by
  have hlast : ∀ c ∈ cs.reverse.head?, isBlank c = false := by
    rw [List.head?_reverse]
    exact h.last
  rw [stripChars, stripLeft_of_head? h.head, stripLeft_of_head? hlast, List.reverse_reverse]

/-- What is left behind the blanks in front of a text does not begin with a blank. -/
theorem not_isBlank_of_mem_head?_stripLeft {cs : List Char} {c : Char} (h : c ∈ (stripLeft cs).head?) :
    isBlank c = false := by
  have hhead := List.head?_dropWhile_not isBlank cs
  rw [stripLeft] at h
  rw [Option.mem_def.1 h] at hhead
  simpa using hhead

/-- Of what is left behind the blanks in front, stripping only takes blanks off the end. -/
theorem exists_stripLeft_eq_append (cs : List Char) :
    ∃ blanks, (∀ c ∈ blanks, isBlank c = true) ∧ stripLeft cs = stripChars cs ++ blanks := by
  have hparts : (stripLeft cs).reverse.takeWhile isBlank ++ stripLeft (stripLeft cs).reverse =
      (stripLeft cs).reverse := List.takeWhile_append_dropWhile
  refine ⟨((stripLeft cs).reverse.takeWhile isBlank).reverse, fun c hc => ?_, ?_⟩
  · exact List.mem_takeWhile_imp (List.mem_reverse.1 hc)
  · rw [stripChars, ← List.reverse_append, hparts, List.reverse_reverse]

/-- A text is what is left of it with blanks around. -/
theorem exists_eq_append_stripChars (cs : List Char) :
    ∃ before after, (∀ c ∈ before, isBlank c = true) ∧ (∀ c ∈ after, isBlank c = true) ∧
      cs = before ++ stripChars cs ++ after := by
  obtain ⟨after, hafter, hleft⟩ := exists_stripLeft_eq_append cs
  refine ⟨cs.takeWhile isBlank, after, fun c hc => List.mem_takeWhile_imp hc, hafter, ?_⟩
  rw [List.append_assoc, ← hleft, stripLeft, List.takeWhile_append_dropWhile]

/-- What is left of a text without the blanks around it neither begins nor ends with a blank. -/
theorem isStripped_stripChars (cs : List Char) : IsStripped (stripChars cs) where
  head := by
    intro c hc
    obtain ⟨after, -, hleft⟩ := exists_stripLeft_eq_append cs
    have hfirst : c ∈ (stripLeft cs).head? := by
      rw [hleft, List.head?_append, Option.mem_def.1 hc]
      rfl
    exact not_isBlank_of_mem_head?_stripLeft hfirst
  last := by
    intro c hc
    rw [stripChars, List.getLast?_reverse] at hc
    exact not_isBlank_of_mem_head?_stripLeft hc

/-- A text without blanks has none to be taken off its front. -/
theorem stripLeft_of_ink {cs : List Char} (h : ∀ c ∈ cs, isBlank c = false) : stripLeft cs = cs :=
  stripLeft_of_head? fun c hc => h c (List.mem_of_mem_head? hc)

/-- What ends without blanks keeps that end. -/
theorem stripLeft_append_of_ink {ending : List Char} (h : ∀ c ∈ ending, isBlank c = false) (cs : List Char) :
    stripLeft (cs ++ ending) = stripLeft cs ++ ending := by
  have happend : stripLeft (cs ++ ending) =
      if (stripLeft cs).isEmpty then stripLeft ending else stripLeft cs ++ ending :=
    List.dropWhile_append
  rw [happend]
  split
  · rename_i hnone
    rw [List.isEmpty_iff.1 hnone, stripLeft_of_ink h, List.nil_append]
  · rfl

/-- What stands before the first blank of a text is left where it is. -/
theorem prefix_stripChars {start : List Char} (h : ∀ c ∈ start, isBlank c = false) (rest : List Char) :
    start <+: stripChars (start ++ rest) := by
  cases start with
  | nil => exact List.nil_prefix
  | cons c start =>
    have hleft : stripLeft (c :: start ++ rest) = c :: start ++ rest :=
      List.dropWhile_cons_of_neg (by simp [h c List.mem_cons_self])
    have hreverse : ∀ d ∈ (c :: start).reverse, isBlank d = false := fun d hd => h d (List.mem_reverse.1 hd)
    rw [stripChars, hleft, List.reverse_append, stripLeft_append_of_ink hreverse, List.reverse_append,
      List.reverse_reverse]
    exact List.prefix_append _ _

/-! ## All blanks -/

/-- Every blank there is. -/
def blankChars : List Char :=
  [9, 10, 11, 12, 13, 28, 29, 30, 31, 32, 0x85, 0xA0, 0x1680, 0x2000, 0x2001, 0x2002, 0x2003, 0x2004, 0x2005,
    0x2006, 0x2007, 0x2008, 0x2009, 0x200A, 0x2028, 0x2029, 0x202F, 0x205F, 0x3000].map Char.ofNat

/-- Every blank is in the list of blanks, so that a property of all of them can be checked one by one. -/
theorem mem_blankChars_of_isBlank {c : Char} (h : isBlank c = true) : c ∈ blankChars := by
  rw [← Char.ofNat_toNat c, blankChars]
  refine List.mem_map_of_mem ?_
  simp only [isBlank, Bool.or_eq_true, Bool.and_eq_true, decide_eq_true_eq, beq_iff_eq] at h
  simp only [List.mem_cons, List.not_mem_nil, or_false]
  omega

end FeatureAudit.Text
