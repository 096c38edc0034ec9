import FeatureAudit.Proofs.Text.Blank

/-!
# The normal form of a text

A text is abridged to its words with single spaces between them, and if that is too long, to the start of it with dots
behind. A cut may leave part of a word or the space after one. Either way the dots end the last word of what is shown,
so this is again words with single spaces between them, and abridging it once more changes nothing.

* **`wordsOf`** — the words of a text: what stands between its blanks.
* **`words_append_blank`**, **`words_of_isInk`** — words end at every blank, and nowhere else.
* **`words_intercalate`** — what is made of words with single spaces between them has these words.
* **`take_intercalate_append_dots`** — the start of such a text with dots behind is such a text.
* **`abridged_is_normal_form`** — what is shown of a text.
-/
namespace FeatureAudit.Text

/-! ## Words between blanks -/

/-- The words of a text: the pieces between its blanks, without the empty ones. -/
def wordsOf (s : String) : List String :=
  ((s.toList.splitOnP isBlank).filter fun w => !w.isEmpty).map String.ofList

/-- Some characters, none of them blank. -/
def IsInk (w : List Char) : Prop := w ≠ [] ∧ ∀ c ∈ w, isBlank c = false

/-- The words of a text, behind a run that is already open, are the pieces between its blanks without the empty ones.
The induction is on the text. -/
theorem wordsAfter_eq_filter (run cs : List Char) :
    wordsAfter run cs = (cs.splitOnPPrepend isBlank run).filter fun w => !w.isEmpty := by
  induction cs generalizing run with
  | nil => cases run <;> simp [wordsAfter]
  | cons c rest ih =>
    rw [wordsAfter]
    split
    · rename_i hc
      rw [List.splitOnPPrepend_cons_pos hc, ih]
      cases run <;> simp
    · rename_i hc
      rw [List.splitOnPPrepend_cons_neg (Bool.eq_false_iff.2 hc), ih]

/-- The words of a text are the pieces between its blanks without the empty ones. -/
theorem words_eq_filter (cs : List Char) :
    words cs = (cs.splitOnP isBlank).filter fun w => !w.isEmpty :=
  wordsAfter_eq_filter [] cs

theorem toList_map_wordsOf (s : String) : (wordsOf s).map String.toList = words s.toList := by
  rw [wordsOf, ← words_eq_filter, List.map_map]
  exact List.map_id'' (fun w => String.toList_ofList) _

theorem words_append_blank {c : Char} (h : isBlank c = true) (xs ys : List Char) :
    words (xs ++ c :: ys) = words xs ++ words ys := by
  rw [words_eq_filter, words_eq_filter, words_eq_filter, List.splitOnP_append_cons xs ys h,
    List.filter_append]

theorem words_of_isInk {w : List Char} (h : IsInk w) : words w = [w] := by
  rw [words_eq_filter, List.splitOnP_eq_singleton h.2]
  simp [h.1]

/-- A word is never empty, and no blank is in it. -/
theorem isInk_of_mem_words {cs w : List Char} (h : w ∈ words cs) : IsInk w := by
  refine ⟨?_, fun c hc => not_isBlank_of_mem_words h hc⟩
  rw [words_eq_filter] at h
  simpa using (List.mem_filter.1 h).2

/-! ## Words with single spaces between them -/

/-- Two words and more are the first one, a space, and the others. -/
theorem intercalate_space_cons_cons (w w' : List Char) (rest : List (List Char)) :
    [' '].intercalate (w :: w' :: rest) = w ++ ' ' :: [' '].intercalate (w' :: rest) := by
  rw [List.intercalate_cons_cons, List.append_assoc]
  rfl

/-- Words that are joined by spaces are told apart again. The induction takes the first word off, with the space
behind it. -/
theorem words_intercalate {ws : List (List Char)} (h : ∀ w ∈ ws, IsInk w) :
    words ([' '].intercalate ws) = ws := by
  induction ws with
  | nil => rfl
  | cons w rest ih =>
    have hw : words w = [w] := words_of_isInk (h w List.mem_cons_self)
    have hrest := ih fun v hv => h v (List.mem_cons_of_mem w hv)
    cases rest with
    | nil => rw [List.intercalate_singleton, hw]
    | cons w' rest =>
      rw [intercalate_space_cons_cons, words_append_blank (by decide), hw, hrest]
      rfl

/-- A text in which words are parted by single spaces is spaced already. -/
theorem spaced_intercalate {ws : List (List Char)} (h : ∀ w ∈ ws, IsInk w) :
    spaced ([' '].intercalate ws) = [' '].intercalate ws := by
  rw [spaced, words_intercalate h]

theorem flatMap_space_append (front : List (List Char)) (w : List Char) :
    (front.flatMap fun v => v ++ [' ']) ++ w = [' '].intercalate (front ++ [w]) := by
  induction front with
  | nil => rw [List.flatMap_nil, List.nil_append, List.nil_append, List.intercalate_singleton]
  | cons v front ih =>
    have hne : front ++ [w] ≠ [] := List.append_ne_nil_of_right_ne_nil _ (by simp)
    rw [List.flatMap_cons, List.append_assoc, ih, List.cons_append, List.intercalate_cons_of_ne_nil hne]

/-- What is cut from words with single spaces between them: words with a space behind each, and then what is left of
the word in which the cut falls. The induction is on the words, for cuts at every place. -/
theorem exists_take_intercalate {ws : List (List Char)} (h : ∀ w ∈ ws, IsInk w) (n : Nat) :
    ∃ (front : List (List Char)) (part : List Char), (∀ w ∈ front, IsInk w) ∧ (∀ c ∈ part, isBlank c = false) ∧
      ([' '].intercalate ws).take n = (front.flatMap fun v => v ++ [' ']) ++ part := by
  induction ws generalizing n with
  | nil => exact ⟨[], [], by simp, by simp, by simp⟩
  | cons w rest ih =>
    have hw : IsInk w := h w List.mem_cons_self
    have hpart : ∀ c ∈ w.take n, isBlank c = false := fun c hc => hw.2 c (List.mem_of_mem_take hc)
    cases rest with
    | nil => exact ⟨[], w.take n, by simp, hpart, by simp⟩
    | cons w' rest =>
      rw [intercalate_space_cons_cons]
      rcases Nat.lt_or_ge w.length n with hn | hn
      · obtain ⟨m, rfl⟩ := Nat.exists_eq_add_of_lt hn
        obtain ⟨front, part, hfront, hpart, htake⟩ := ih (fun v hv => h v (List.mem_cons_of_mem w hv)) m
        refine ⟨w :: front, part, ?_, hpart, ?_⟩
        · simpa using ⟨hw, hfront⟩
        · rw [Nat.add_assoc, List.take_length_add_append, List.take_succ_cons, htake, List.flatMap_cons]
          simp
      · -- the cut falls into the first word or right behind it
        exact ⟨[], w.take n, by simp, hpart, by rw [List.take_append_of_le_length hn]; rfl⟩

/-- The dots behind a cut end a last word, one that was cut or one of their own. -/
theorem take_intercalate_append_dots {ws : List (List Char)} (h : ∀ w ∈ ws, IsInk w) (n : Nat) :
    ∃ ws', (∀ w ∈ ws', IsInk w) ∧
      ([' '].intercalate ws).take n ++ ['.', '.', '.'] = [' '].intercalate ws' := by
  obtain ⟨front, part, hfront, hpart, htake⟩ := exists_take_intercalate h n
  refine ⟨front ++ [part ++ ['.', '.', '.']], fun w hw => ?_, ?_⟩
  · rcases List.mem_append.1 hw with hw | hw
    · exact hfront w hw
    obtain rfl := List.mem_singleton.1 hw
    refine ⟨by simp, fun c hc => ?_⟩
    rcases List.mem_append.1 hc with hc | hc
    · exact hpart c hc
    · obtain rfl : c = '.' := by simpa using hc
      decide
  · rw [htake, List.append_assoc, flatMap_space_append]

/-! ## Single spaces -/

/-- The blanks of a text are single spaces, each between two characters that are not blank. -/
def SinglySpaced (cs : List Char) : Prop :=
  ∀ before c after, cs = before ++ c :: after → isBlank c = true →
    c = ' ' ∧ (∃ front d, before = front ++ [d] ∧ isBlank d = false) ∧
      ∃ d back, after = d :: back ∧ isBlank d = false

theorem IsInk.eq_cons {w : List Char} (h : IsInk w) : ∃ d back, w = d :: back ∧ isBlank d = false := by
  obtain ⟨d, back, rfl⟩ := List.exists_cons_of_ne_nil h.1
  exact ⟨d, back, rfl, h.2 d List.mem_cons_self⟩

theorem IsInk.eq_concat {w : List Char} (h : IsInk w) : ∃ front d, w = front ++ [d] ∧ isBlank d = false := by
  refine ⟨w.dropLast, w.getLast h.1, (List.dropLast_concat_getLast h.1).symm, ?_⟩
  exact h.2 _ (List.getLast_mem h.1)

/-- Words that are joined begin with ink. -/
theorem intercalate_eq_cons {w : List Char} (h : IsInk w) (rest : List (List Char)) :
    ∃ d back, [' '].intercalate (w :: rest) = d :: back ∧ isBlank d = false := by
  obtain ⟨d, back, rfl, hd⟩ := h.eq_cons
  cases rest with
  | nil => exact ⟨d, back, List.intercalate_singleton, hd⟩
  | cons w' rest => exact ⟨d, _, intercalate_space_cons_cons _ _ _, hd⟩

/-- The spaces between words are single. The induction is on the words: a blank stands behind the first, or in what
comes after that. -/
theorem singlySpaced_intercalate {ws : List (List Char)} (h : ∀ w ∈ ws, IsInk w) :
    SinglySpaced ([' '].intercalate ws) := by
  induction ws with
  | nil => exact fun before c after heq _ => absurd heq (by simp)
  | cons w rest ih =>
    have hw : IsInk w := h w List.mem_cons_self
    have hrest : ∀ v ∈ rest, IsInk v := fun v hv => h v (List.mem_cons_of_mem w hv)
    intro before c after heq hc
    -- the blank stands behind the first word
    have hink : c ∉ w := fun hmem => absurd (hw.2 c hmem) (by simp [hc])
    cases rest with
    | nil =>
      rw [List.intercalate_singleton] at heq
      exact absurd (by simp [heq]) hink
    | cons w' rest =>
      rw [intercalate_space_cons_cons] at heq
      obtain ⟨mid, rfl, hmid⟩ : ∃ mid, before = w ++ mid ∧
          ' ' :: [' '].intercalate (w' :: rest) = mid ++ c :: after := by
        rcases List.append_eq_append_iff.1 heq with hbehind | ⟨mid, rfl, hmid⟩
        · exact hbehind
        · cases mid with
          | nil => exact ⟨[], by simp, hmid.symm⟩
          | cons d mid =>
            obtain ⟨rfl, -⟩ := List.cons.inj hmid
            exact absurd (by simp) hink
      cases mid with
      | nil =>
        obtain ⟨rfl, rfl⟩ := List.cons.inj hmid
        rw [List.append_nil]
        exact ⟨rfl, hw.eq_concat, intercalate_eq_cons (hrest w' List.mem_cons_self) rest⟩
      | cons d mid =>
        obtain ⟨rfl, hlater⟩ := List.cons.inj hmid
        obtain ⟨hspace, ⟨front, d, rfl, hd⟩, hafter⟩ := ih hrest mid c after hlater hc
        exact ⟨hspace, ⟨w ++ ' ' :: front, d, by simp, hd⟩, hafter⟩

/-! ## Abridged texts -/

/-- What is shown of a text is made of words with single spaces between them, be it cut or not. -/
theorem exists_abridgeChars_eq_intercalate (limit : Nat) (cs : List Char) :
    ∃ ws, (∀ w ∈ ws, IsInk w) ∧ abridgeChars limit cs = [' '].intercalate ws := by
  have hwords : ∀ w ∈ words cs, IsInk w := fun w => isInk_of_mem_words
  rw [abridgeChars_natCast]
  split
  · exact ⟨words cs, hwords, rfl⟩
  · exact take_intercalate_append_dots hwords limit

/-- To abridge a text again changes nothing: it is spaced already, and if it is still too long it is cut where it was
cut before. -/
theorem abridgeChars_abridgeChars (limit : Nat) (cs : List Char) :
    abridgeChars limit (abridgeChars limit cs) = abridgeChars limit cs := by
  have hspaced : spaced (abridgeChars limit cs) = abridgeChars limit cs := by
    obtain ⟨ws, hws, heq⟩ := exists_abridgeChars_eq_intercalate limit cs
    rw [heq, spaced_intercalate hws]
  rw [abridgeChars_natCast limit (abridgeChars limit cs), hspaced]
  split
  · rfl
  · -- what is too long still was cut, and is cut at the same place
    rename_i hlong
    rw [abridgeChars_natCast] at hlong ⊢
    split at hlong
    · contradiction
    · rename_i hcut
      have hlength : ((spaced cs).take limit).length = limit := by
        rw [List.length_take]
        omega
      rw [if_neg hcut, List.take_left' hlength]

/-- The words of a text, joined by single spaces. -/
def spacedText (s : String) : String := " ".intercalate (wordsOf s)

theorem toList_spacedText (s : String) : (spacedText s).toList = spaced s.toList := by
  rw [spacedText, String.toList_intercalate, toList_map_wordsOf]
  rfl

/-- A text is abridged to its spaced form if that is short enough, and else to the beginning of it with three dots
behind. -/
theorem abridge_eq_ite (limit : Nat) (s : String) :
    abridge limit s =
      if (spacedText s).length ≤ limit then spacedText s
      else String.ofList ((spacedText s).toList.take limit) ++ "..." := by
  have hlength : (spaced s.toList).length = (spacedText s).length := by
    rw [← toList_spacedText, String.length_toList]
  apply String.toList_injective
  rw [abridge, String.toList_ofList, abridgeChars_natCast, hlength, ← toList_spacedText]
  split
  · rfl
  · rw [String.toList_append, String.toList_ofList]
    rfl

/-- **What is shown of a text is a normal form of bounded length.** It is the words joined by single spaces, or where
that is too long the start of it with dots behind. So it is longer than the limit by no more than the dots, its blanks
are single spaces, it stands for itself, and it is told by the words alone. -/
theorem abridged_is_normal_form (limit : Nat) (s : String) :
    abridge limit s =
        (if (spacedText s).length ≤ limit then spacedText s
          else String.ofList ((spacedText s).toList.take limit) ++ "...") ∧
      (abridge limit s).length ≤ limit + 3 ∧
      SinglySpaced (abridge limit s).toList ∧
      abridge limit (abridge limit s) = abridge limit s ∧
      ∀ t, wordsOf t = wordsOf s → abridge limit t = abridge limit s := by
  refine ⟨abridge_eq_ite limit s, length_abridge_le limit s, ?_, ?_, fun t ht => ?_⟩
  · obtain ⟨ws, hws, heq⟩ := exists_abridgeChars_eq_intercalate limit s.toList
    rw [abridge, String.toList_ofList, heq]
    exact singlySpaced_intercalate hws
  · rw [abridge, abridge, String.toList_ofList, abridgeChars_abridgeChars]
  · have hspaced : spacedText t = spacedText s := by rw [spacedText, ht, spacedText]
    rw [abridge_eq_ite, hspaced, ← abridge_eq_ite]

/-- Two texts with the same words and different blanks between them are abridged to one text. It is cut behind a
space, and the space stays. -/
theorem abridged_is_normal_form_of_cut_space :
    wordsOf "\tdisplay:  grid " = wordsOf "display: grid" ∧
      abridge 9 "\tdisplay:  grid " = abridge 9 "display: grid" ∧
      abridge 9 "display: grid" = "display: ..." := by
  have hwords : wordsOf "\tdisplay:  grid " = wordsOf "display: grid" := by decide +kernel
  obtain ⟨hshown, -, -, -, hsame⟩ := abridged_is_normal_form 9 "display: grid"
  refine ⟨hwords, hsame _ hwords, hshown.trans (by decide +kernel)⟩

end FeatureAudit.Text
