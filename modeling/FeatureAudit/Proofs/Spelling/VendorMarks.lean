import Mathlib.Data.List.Forall2
import FeatureAudit.Proofs.Text.LowerCase
import FeatureAudit.Spelling

/-!
# Vendors' marks before names

The spellings of a token are those of the name without the vendor's mark before it, so a mark changes none of them. A mark
counts in any case: it is a hyphen, the letters of a vendor, each in some case, and a hyphen. In ASCII text these are the
characters that become a hyphen, the vendor and a hyphen once they are lowered; a few characters outside ASCII are letters
of vendors as well.

* **`InAnyCase`**, **`IsMark`** — letters in some case, and marks that are written with them.
* **`dropMark?_eq_some_iff`**, **`IsMark.unique`** — what stands after a mark, and that there is one at most.
* **`unmarkedChars_eq_iff`** — what is left of a name.
* **`IsVendorMark`**, **`IsUnmarked`** — marks in ASCII, and names without one.
* **`unmarkedChars_append`**, **`variations_append`** — a mark is left out, and changes no spelling.
-/
namespace FeatureAudit

open FeatureAudit.Text

variable {mark name cs rest : List Char}

/-! ## Letters in any case

Most letters of a vendor's name have one character for each case. Three of them have more, which lie outside ASCII, so a
mark may be written with these as well. -/

/-- The character is the letter in some case. -/
inductive InAnyCase : Char → Char → Prop where
  | ascii {letter c : Char} (h : c.toLower = letter) : InAnyCase letter c
  | dottedI : InAnyCase 'i' '\u0130'
  | dotlessI : InAnyCase 'i' '\u0131'
  | kelvin : InAnyCase 'k' '\u212A'
  | longS : InAnyCase 's' '\u017F'

theorem toLower_eq_hyphen_iff {c : Char} : c.toLower = '-' ↔ c = '-' := by
  rw [← Char.toNat_inj, ← Char.toNat_inj, toNat_toLower, show ('-' : Char).toNat = 45 from rfl]
  split <;> omega

/-- The comparison of a scan with a letter of a vendor goes by these cases. -/
theorem sameLetter_iff {letter c : Char} : sameLetter letter c = true ↔ InAnyCase letter c := by
  constructor
  · intro h
    simp only [sameLetter, Bool.or_eq_true, Bool.and_eq_true, beq_iff_eq] at h
    rcases h with ((h | ⟨rfl, h | h⟩) | ⟨rfl, h⟩) | ⟨rfl, h⟩
    · exact .ascii h
    · -- four characters outside ASCII are a letter in another case
      obtain rfl : c = '\u0130' := Char.toNat_inj.1 h
      exact .dottedI
    · obtain rfl : c = '\u0131' := Char.toNat_inj.1 h
      exact .dotlessI
    · obtain rfl : c = '\u212A' := Char.toNat_inj.1 h
      exact .kelvin
    · obtain rfl : c = '\u017F' := Char.toNat_inj.1 h
      exact .longS
  · intro h
    cases h with
    | ascii h => simp [sameLetter, h]
    | dottedI => decide
    | dotlessI => decide
    | kelvin => decide
    | longS => decide

theorem inAnyCase_hyphen_iff {c : Char} : InAnyCase '-' c ↔ c = '-' := by
  constructor
  · intro h
    cases h with
    | ascii h => exact toLower_eq_hyphen_iff.1 h
  · rintro rfl
    exact .ascii rfl

/-- A character of ASCII is in some case of a letter exactly if it is lowered to the letter. -/
theorem inAnyCase_iff_of_ascii {letter c : Char} (h : c.toNat < 128) : InAnyCase letter c ↔ c.toLower = letter := by
  constructor
  · intro hcase
    cases hcase with
    | ascii hlower => exact hlower
    | _ => exact absurd h (by decide)
  · exact .ascii

/-- No character is two letters of ASCII. What lies outside it is not changed by lowering, so none of the last four cases
has a character in common with the first. -/
theorem InAnyCase.unique {letter letter' c : Char} (hascii : letter.toNat < 128) (hascii' : letter'.toNat < 128)
    (h : InAnyCase letter c) (h' : InAnyCase letter' c) : letter = letter' := by
  have houtside : ∀ d ∈ ['\u0130', '\u0131', '\u212A', '\u017F'], d.toLower = d ∧ 128 ≤ d.toNat := by
    simp only [List.forall_mem_cons, List.not_mem_nil, false_implies, implies_true, and_true]
    decide
  -- none of the four is lowered into ASCII
  have hno {letter : Char} (hascii : letter.toNat < 128) :
      ∀ d ∈ ['\u0130', '\u0131', '\u212A', '\u017F'], ¬ d.toLower = letter := by
    rintro d hd rfl
    obtain ⟨hlower, hlarge⟩ := houtside d hd
    rw [hlower] at hascii
    omega
  cases h with
  | ascii h =>
    cases h' with
    | ascii h' => exact h.symm.trans h'
    | _ => exact absurd h (hno hascii _ (by decide))
  | _ =>
    cases h' with
    | ascii h' => exact absurd h' (hno hascii' _ (by decide))
    | _ => rfl

/-! ## Marks in any case -/

/-- The characters are a vendor's mark: a hyphen, the letters of a vendor in any case, and a hyphen. -/
def IsMark (mark : List Char) : Prop :=
  ∃ vendor ∈ vendors, List.Forall₂ InAnyCase ('-' :: (vendor ++ ['-'])) mark

/-- What matches two lists one after the other can be parted into what matches each. -/
theorem exists_of_forall₂_append {α β : Type} {R : α → β → Prop} {as as' : List α} {bs : List β}
    (h : List.Forall₂ R (as ++ as') bs) :
    ∃ xs ys, List.Forall₂ R as xs ∧ List.Forall₂ R as' ys ∧ bs = xs ++ ys := by
  induction as generalizing bs with
  | nil => exact ⟨[], bs, .nil, h, rfl⟩
  | cons a as ih =>
    obtain ⟨b, bs, hb, hbs, rfl⟩ := List.forall₂_cons_left_iff.1 h
    obtain ⟨xs, ys, hxs, hys, rfl⟩ := ih hbs
    exact ⟨b :: xs, ys, .cons hb hxs, hys, rfl⟩

/-- What stands after a word is found by taking one character of the text for each of its letters. -/
theorem dropWord?_eq_some_iff {word : List Char} :
    dropWord? word cs = some rest ↔ ∃ front, List.Forall₂ InAnyCase word front ∧ cs = front ++ rest := by
  induction word generalizing cs with
  | nil => simp [dropWord?]
  | cons letter word ih =>
    cases cs with
    | nil => simp [dropWord?, List.forall₂_cons_left_iff]
    | cons c cs =>
      rw [dropWord?]
      split
      · rename_i hc
        -- the first letter fits, so the rest of the word is up to the induction
        rw [ih]
        constructor
        · rintro ⟨front, hfront, rfl⟩
          exact ⟨c :: front, .cons (sameLetter_iff.1 hc) hfront, rfl⟩
        · rintro ⟨front, hfront, hcs⟩
          obtain ⟨d, more, -, hmore, rfl⟩ := List.forall₂_cons_left_iff.1 hfront
          exact ⟨more, hmore, (List.cons.inj hcs).2⟩
      · rename_i hc
        refine ⟨fun hnone => absurd hnone (by simp), ?_⟩
        rintro ⟨front, hfront, hcs⟩
        obtain ⟨d, more, hd, -, rfl⟩ := List.forall₂_cons_left_iff.1 hfront
        obtain ⟨rfl, -⟩ := List.cons.inj hcs
        exact absurd (sameLetter_iff.2 hd) hc

/-- What stands after a mark is found by dropping it: its hyphens one by one, and the vendor between them as a word. -/
theorem dropMark?_eq_some_iff {vendor : List Char} :
    dropMark? vendor cs = some rest ↔
      ∃ mark, List.Forall₂ InAnyCase ('-' :: (vendor ++ ['-'])) mark ∧ cs = mark ++ rest := by
  unfold dropMark?
  constructor
  · intro h
    split at h
    · split at h
      · rename_i found hfound
        obtain rfl := Option.some.inj h
        obtain ⟨front, hfront, rfl⟩ := dropWord?_eq_some_iff.1 hfound
        have hhyphen : InAnyCase '-' '-' := .ascii rfl
        exact ⟨'-' :: (front ++ ['-']), .cons hhyphen (List.rel_append hfront (.cons hhyphen .nil)), by simp⟩
      · exact absurd h (by simp)
    · exact absurd h (by simp)
  · rintro ⟨mark, hmark, rfl⟩
    -- the mark is taken apart into its two hyphens and the vendor between them
    obtain ⟨c, more, hc, hmore, rfl⟩ := List.forall₂_cons_left_iff.1 hmark
    obtain ⟨front, hyphen, hfront, hhyphen, rfl⟩ := exists_of_forall₂_append hmore
    obtain ⟨d, _, hd, hnil, rfl⟩ := List.forall₂_cons_left_iff.1 hhyphen
    obtain rfl := List.forall₂_nil_left_iff.1 hnil
    obtain rfl := inAnyCase_hyphen_iff.1 hc
    obtain rfl := inAnyCase_hyphen_iff.1 hd
    have hfound : dropWord? vendor (front ++ '-' :: rest) = some ('-' :: rest) :=
      dropWord?_eq_some_iff.2 ⟨front, hfront, rfl⟩
    simp [hfound]

/-- No mark goes on as the mark of another vendor. -/
theorem eq_of_mark_prefix_mark : ∀ vendor ∈ vendors, ∀ other ∈ vendors,
    '-' :: (vendor ++ ['-']) <+: '-' :: (other ++ ['-']) → vendor = other := by
  decide

theorem ascii_of_mem_vendors : ∀ vendor ∈ vendors, ∀ c ∈ '-' :: (vendor ++ ['-']), c.toNat < 128 := by
  simp [vendors, or_imp, forall_and]

/-- Texts tell words of ASCII: if what one word is written as begins what another is written as, the one begins the
other. -/
theorem prefix_of_forall₂_inAnyCase {word word' cs' : List Char} (h : List.Forall₂ InAnyCase word cs)
    (h' : List.Forall₂ InAnyCase word' cs') (hcs : cs <+: cs') (hascii : ∀ c ∈ word, c.toNat < 128)
    (hascii' : ∀ c ∈ word', c.toNat < 128) : word <+: word' := by
  induction h generalizing word' cs' with
  | nil => exact List.nil_prefix
  | @cons letter c word cs hc _ ih =>
    cases h' with
    | nil => exact absurd hcs (by simp)
    | @cons letter' c' word' cs' hc' hrest =>
      obtain ⟨rfl, hbegins⟩ := List.cons_prefix_cons.1 hcs
      obtain ⟨hletter, hword⟩ := List.forall_mem_cons.1 hascii
      obtain ⟨hletter', hword'⟩ := List.forall_mem_cons.1 hascii'
      exact List.cons_prefix_cons.2 ⟨hc.unique hletter hletter' hc', ih hrest hbegins hword hword'⟩

/-- Of the marks before a text there is one at most. -/
theorem IsMark.unique {mark' rest' : List Char} (h : IsMark mark) (h' : IsMark mark')
    (heq : mark ++ rest = mark' ++ rest') : mark = mark' := by
  obtain ⟨vendor, hvendor, hmark⟩ := h
  obtain ⟨vendor', hvendor', hmark'⟩ := h'
  have hascii := ascii_of_mem_vendors vendor hvendor
  have hascii' := ascii_of_mem_vendors vendor' hvendor'
  have hsame : vendor = vendor' := by
    -- both marks begin one text, so one of them begins the other
    rcases List.prefix_or_prefix_of_prefix (List.prefix_append mark rest)
        (heq ▸ List.prefix_append mark' rest') with hfirst | hsecond
    · exact eq_of_mark_prefix_mark vendor hvendor vendor' hvendor'
        (prefix_of_forall₂_inAnyCase hmark hmark' hfirst hascii hascii')
    · exact (eq_of_mark_prefix_mark vendor' hvendor' vendor hvendor
        (prefix_of_forall₂_inAnyCase hmark' hmark hsecond hascii' hascii)).symm
  have hlength : mark.length = mark'.length := by rw [← hmark.length_eq, ← hmark'.length_eq, hsame]
  exact (List.append_inj heq hlength).1

/-! ## What is left of a name -/

/-- A name behind a mark is what is left once the mark is taken off. No name begins with two different marks, so the
one that is found is this one. -/
theorem unmarkedChars_of_isMark (h : IsMark mark) : unmarkedChars (mark ++ name) = name := by
  obtain ⟨vendor, hvendor, hmark⟩ := h
  have hdrop : dropMark? vendor (mark ++ name) = some name := dropMark?_eq_some_iff.2 ⟨mark, hmark, rfl⟩
  obtain ⟨found, hfound⟩ : ∃ found, vendors.findSome? (dropMark? · (mark ++ name)) = some found := by
    rw [← Option.isSome_iff_exists, List.findSome?_isSome_iff]
    exact ⟨vendor, hvendor, by rw [hdrop]; rfl⟩
  -- whichever vendor is found first, its mark is this one
  obtain ⟨before, other, after, hvendors, hother, -⟩ := List.findSome?_eq_some_iff.1 hfound
  obtain ⟨mark', hmark', heq⟩ := dropMark?_eq_some_iff.1 hother
  have hmem : other ∈ vendors := by rw [hvendors]; simp
  obtain rfl : mark = mark' := IsMark.unique ⟨vendor, hvendor, hmark⟩ ⟨other, hmem, hmark'⟩ heq
  rw [unmarkedChars, hfound, Option.getD_some]
  exact ((List.append_right_inj mark).1 heq).symm

theorem unmarkedChars_of_no_mark (h : ∀ mark, IsMark mark → ¬ mark <+: name) : unmarkedChars name = name := by
  have hnone : vendors.findSome? (dropMark? · name) = none := by
    rw [List.findSome?_eq_none_iff]
    intro vendor hvendor
    rw [Option.eq_none_iff_forall_ne_some]
    intro rest hdrop
    obtain ⟨mark, hmark, hname⟩ := dropMark?_eq_some_iff.1 hdrop
    exact h mark ⟨vendor, hvendor, hmark⟩ ⟨rest, hname.symm⟩
  rw [unmarkedChars, hnone, Option.getD_none]

/-- What is left of a name is what stands after a mark, or all of it if no mark stands before it. -/
theorem unmarkedChars_eq_iff :
    unmarkedChars name = rest ↔
      (∃ mark, IsMark mark ∧ name = mark ++ rest) ∨ (∀ mark, IsMark mark → ¬ mark <+: name) ∧ rest = name := by
  constructor
  · rintro rfl
    by_cases h : ∃ mark, IsMark mark ∧ mark <+: name
    · obtain ⟨mark, hmark, rest, rfl⟩ := h
      exact .inl ⟨mark, hmark, by rw [unmarkedChars_of_isMark hmark]⟩
    · have hnone : ∀ mark, IsMark mark → ¬ mark <+: name := fun mark hmark hprefix => h ⟨mark, hmark, hprefix⟩
      exact .inr ⟨hnone, unmarkedChars_of_no_mark hnone⟩
  · rintro (⟨mark, hmark, rfl⟩ | ⟨hnone, rfl⟩)
    · exact unmarkedChars_of_isMark hmark
    · exact unmarkedChars_of_no_mark hnone

/-! ## Marks in ASCII -/

/-- The characters are a vendor's mark in any case: a hyphen, a vendor and a hyphen. -/
def IsVendorMark (mark : List Char) : Prop :=
  ∃ vendor ∈ vendors, mark.map Char.toLower = '-' :: (vendor ++ ['-'])

instance (mark : List Char) : Decidable (IsVendorMark mark) :=
  inferInstanceAs (Decidable (∃ vendor ∈ vendors, mark.map Char.toLower = '-' :: (vendor ++ ['-'])))

/-- No vendor's mark stands before the name. -/
def IsUnmarked (name : List Char) : Prop := ∀ mark, IsVendorMark mark → ¬ mark <+: name

/-- Only ASCII is lowered to ASCII, letter by letter. -/
theorem ascii_of_map_toLower {cs : List Char} (h : ∀ c ∈ cs.map Char.toLower, c.toNat < 128) :
    ∀ c ∈ cs, c.toNat < 128 := by
  intro c hc
  have hlower := h c.toLower (List.mem_map_of_mem hc)
  rw [toNat_toLower] at hlower
  split at hlower <;> omega

/-- In ASCII text the letters of a word are told by lowering them alone. -/
theorem forall₂_inAnyCase_iff_of_ascii {word : List Char} (h : ∀ c ∈ cs, c.toNat < 128) :
    List.Forall₂ InAnyCase word cs ↔ cs.map Char.toLower = word := by
  rw [← List.forall₂_eq_eq_eq, List.forall₂_map_left_iff]
  constructor
  · intro hword
    have hboth := (List.forall₂_and_left _ _).2 ⟨h, hword.flip⟩
    exact hboth.imp fun c letter hc => (inAnyCase_iff_of_ascii hc.1).1 hc.2
  · exact fun hword => (hword.imp fun c letter hc => InAnyCase.ascii hc).flip

theorem IsVendorMark.eq_cons (h : IsVendorMark mark) : ∃ after, mark = '-' :: after := by
  obtain ⟨vendor, -, hmark⟩ := h
  obtain ⟨c, after, rfl, hc, -⟩ := List.map_eq_cons_iff.1 hmark
  exact ⟨after, by rw [toLower_eq_hyphen_iff.1 hc]⟩

/-- A name that does not begin with a hyphen has no mark. -/
theorem isUnmarked_of_ne_hyphen {c : Char} (h : c ≠ '-') (after : List Char) : IsUnmarked (c :: after) := by
  intro mark hmark hstarts
  obtain ⟨_, rfl⟩ := hmark.eq_cons
  exact h (List.cons_prefix_cons.1 hstarts).1.symm

/-- A vendor's mark is written in ASCII, in capitals or small letters. -/
theorem IsVendorMark.ascii (h : IsVendorMark mark) : ∀ c ∈ mark, c.toNat < 128 := by
  obtain ⟨vendor, hvendor, hmark⟩ := h
  exact ascii_of_map_toLower (hmark ▸ ascii_of_mem_vendors vendor hvendor)

/-- In ASCII text the marks of vendors are those that are told by lowering them. -/
theorem isMark_iff_of_ascii (h : ∀ c ∈ mark, c.toNat < 128) : IsMark mark ↔ IsVendorMark mark := by
  simp only [IsMark, IsVendorMark, forall₂_inAnyCase_iff_of_ascii h]

/-- A name in ASCII without a vendor's mark is left as it is. -/
theorem unmarkedChars_of_isUnmarked (hascii : ∀ c ∈ name, c.toNat < 128) (h : IsUnmarked name) :
    unmarkedChars name = name := by
  refine unmarkedChars_of_no_mark fun mark hmark hstarts => ?_
  have hmarkAscii : ∀ c ∈ mark, c.toNat < 128 := fun c hc => hascii c (hstarts.subset hc)
  exact h mark ((isMark_iff_of_ascii hmarkAscii).1 hmark) hstarts

/-- A name behind a vendor's mark is what is left once the mark is taken off, whatever the name is. -/
theorem unmarkedChars_append (hmark : IsVendorMark mark) : unmarkedChars (mark ++ name) = name :=
  unmarkedChars_of_isMark ((isMark_iff_of_ascii hmark.ascii).2 hmark)

/-- A mark before a name without one changes none of its spellings. -/
theorem variations_append {mark name : String} (hmark : IsVendorMark mark.toList)
    (hascii : ∀ c ∈ name.toList, c.toNat < 128) (hname : IsUnmarked name.toList) :
    variations (mark ++ name) = variations name := by
  rw [variations, variations, String.toList_append, unmarkedChars_append hmark,
    unmarkedChars_of_isUnmarked hascii hname]

end FeatureAudit
