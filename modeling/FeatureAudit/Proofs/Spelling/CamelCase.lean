import FeatureAudit.Proofs.FirstWins
import FeatureAudit.Proofs.Spelling.VendorMarks
import Mathlib.Data.List.Chain

/-!
# Words of a name

The first spelling of a name is the name itself, and the second has its words in lowercase with hyphens between them.
For a name of one word that is the name in lowercase, and for a name in camel case it is the same name in kebab case.

* **`WordBreak`**, **`IsSingleWord`**, **`hyphenated_append`** — where a word ends, and what is written there.
* **`CompoundName`**, **`CompoundName.lowerChars_hyphenated_camel`** — a name of several words in its two cases.
* **`IsPlainName`**, **`findSome?_variations`** — a name that is spelled as it stands, and a search through its
  spellings.
* **`CompoundName.variations_camel`** — the spellings of a name in camel case.
-/
namespace FeatureAudit

open FeatureAudit.Text

/-! ## Small letters and capitals -/

theorem isLower_iff {c : Char} : c.isLower = true ↔ 97 ≤ c.toNat ∧ c.toNat ≤ 122 := by
  unfold Char.isLower
  rw [Bool.and_eq_true, decide_eq_true_eq, decide_eq_true_eq, ge_iff_le, UInt32.le_iff_toNat_le,
    UInt32.le_iff_toNat_le]
  exact Iff.rfl

theorem isUpper_iff {c : Char} : c.isUpper = true ↔ 65 ≤ c.toNat ∧ c.toNat ≤ 90 := by
  unfold Char.isUpper
  rw [decide_eq_true_eq, ge_iff_le, UInt32.le_iff_toNat_le, UInt32.le_iff_toNat_le]
  exact Iff.rfl

theorem toNat_toUpper_of_isLower {c : Char} (h : c.isLower = true) : c.toUpper.toNat = c.toNat - 32 := by
  have hc := isLower_iff.1 h
  have hrange : 'a'.val ≤ c.val ∧ c.val ≤ 'z'.val := by
    rw [UInt32.le_iff_toNat_le, UInt32.le_iff_toNat_le]
    exact hc
  unfold Char.toUpper
  rw [dif_pos hrange]
  change (c.val + ('A'.val - 'a'.val)).toNat = c.toNat - 32
  have hadd : ('A'.val - 'a'.val).toNat = 2 ^ 32 - 32 := by decide
  have hval : c.val.toNat = c.toNat := rfl
  rw [UInt32.toNat_add, hadd, hval]
  omega

theorem isUpper_toUpper {c : Char} (h : c.isLower = true) : c.toUpper.isUpper = true := by
  have hc := isLower_iff.1 h
  rw [isUpper_iff, toNat_toUpper_of_isLower h]
  omega

/-- The capital of a small letter goes back to the letter, so names that differ in capitals alone are one in small
letters. -/
theorem toLower_toUpper {c : Char} (h : c.isLower = true) : c.toUpper.toLower = c := by
  have hc := isLower_iff.1 h
  rw [← Char.toNat_inj, toNat_toLower, toNat_toUpper_of_isLower h]
  split <;> omega

/-- A small letter or a digit. -/
def IsSmall (c : Char) : Prop := c.isLower = true ∨ c.isDigit = true

instance (c : Char) : Decidable (IsSmall c) :=
  inferInstanceAs (Decidable (c.isLower = true ∨ c.isDigit = true))

theorem IsSmall.range {c : Char} (h : IsSmall c) : 97 ≤ c.toNat ∧ c.toNat ≤ 122 ∨ 48 ≤ c.toNat ∧ c.toNat ≤ 57 := by
  rcases h with h | h
  · exact Or.inl (isLower_iff.1 h)
  · exact Or.inr (Char.isDigit_iff_toNat.1 h)

theorem IsSmall.not_isUpper {c : Char} (h : IsSmall c) : ¬ c.isUpper = true := by
  intro hupper
  have hc := isUpper_iff.1 hupper
  have hrange := h.range
  omega

theorem IsSmall.toLower_eq {c : Char} (h : IsSmall c) : c.toLower = c := by
  have hrange := h.range
  rw [← Char.toNat_inj, toNat_toLower, if_neg (by omega)]

/-- A text of small letters and digits is its own in small letters. -/
theorem map_toLower_of_isSmall {cs : List Char} (h : ∀ c ∈ cs, IsSmall c) : cs.map Char.toLower = cs :=
  (List.map_congr_left fun c hc => (h c hc).toLower_eq).trans (List.map_id cs)

theorem IsSmall.ascii {c : Char} (h : IsSmall c) : c.toNat < 128 := by
  have hrange := h.range
  omega

theorem IsSmall.ne_hyphen {c : Char} (h : IsSmall c) : c ≠ '-' := by
  rintro rfl
  exact absurd h (by decide)

variable {name : List Char}

/-! ## Words of a name -/

/-- A word of a name ends at the first character and the next one starts at the second: a capital follows a small letter
or a digit. -/
def WordBreak (a b : Char) : Prop := IsSmall a ∧ b.isUpper = true

instance (a b : Char) : Decidable (WordBreak a b) :=
  inferInstanceAs (Decidable (IsSmall a ∧ b.isUpper = true))

/-- No word ends inside the name. -/
def IsSingleWord (name : List Char) : Prop := name.IsChain fun a b => ¬ WordBreak a b

instance (name : List Char) : Decidable (IsSingleWord name) :=
  inferInstanceAs (Decidable (name.IsChain fun a b => ¬ WordBreak a b))

/-- The test for the place of a hyphen: a small letter or a digit, and then a capital. -/
theorem wordBreak_iff {a b : Char} : (endsWord a && b.isUpper) = true ↔ WordBreak a b := by
  simp [endsWord, WordBreak, IsSmall]

/-- Where one word ends and a capital follows, a hyphen is put between. -/
theorem hyphenated_cons_cons_of_wordBreak {a b : Char} (h : WordBreak a b) (rest : List Char) :
    hyphenated (a :: b :: rest) = a :: '-' :: hyphenated (b :: rest) := by
  rw [hyphenated, if_pos (wordBreak_iff.2 h)]

theorem hyphenated_cons_cons_of_not_wordBreak {a b : Char} (h : ¬ WordBreak a b) (rest : List Char) :
    hyphenated (a :: b :: rest) = a :: hyphenated (b :: rest) := by
  rw [hyphenated, if_neg fun hbreak => h (wordBreak_iff.1 hbreak)]

/-- A name without a place for a hyphen stays as it is. -/
theorem hyphenated_of_isSingleWord (h : IsSingleWord name) : hyphenated name = name := by
  induction name with
  | nil => rfl
  | cons a rest ih =>
    cases rest with
    | nil => rfl
    | cons b rest =>
      obtain ⟨hbreak, hrest⟩ := List.isChain_cons_cons.1 h
      rw [hyphenated_cons_cons_of_not_wordBreak hbreak, ih hrest]

/-- Between a single word and the next one a hyphen is written. The induction is on the single word. -/
theorem hyphenated_append {word : List Char} {a b : Char} (hword : IsSingleWord (word ++ [a]))
    (hbreak : WordBreak a b) (rest : List Char) :
    hyphenated (word ++ a :: b :: rest) = word ++ a :: '-' :: hyphenated (b :: rest) := by
  induction word with
  | nil => exact hyphenated_cons_cons_of_wordBreak hbreak rest
  | cons c word ih =>
    -- the second character decides whether a word ends at the first, and no word ends inside
    cases word with
    | nil =>
      obtain ⟨hinside, -⟩ := List.isChain_cons_cons.1 hword
      rw [List.cons_append, List.nil_append, hyphenated_cons_cons_of_not_wordBreak hinside,
        hyphenated_cons_cons_of_wordBreak hbreak]
      rfl
    | cons d word =>
      obtain ⟨hinside, hrest⟩ := List.isChain_cons_cons.1 hword
      rw [List.cons_append, List.cons_append, hyphenated_cons_cons_of_not_wordBreak hinside,
        ← List.cons_append, ih hrest]
      rfl

/-- A text whose characters after the first are small is a single word. -/
theorem isSingleWord_of_isSmall (c : Char) {small : List Char} (h : ∀ d ∈ small, IsSmall d) :
    IsSingleWord (c :: small) := by
  induction small generalizing c with
  | nil => exact List.IsChain.singleton c
  | cons d small ih =>
    obtain ⟨hd, hsmall⟩ := List.forall_mem_cons.1 h
    exact List.isChain_cons_cons.2 ⟨fun hbreak => hd.not_isUpper hbreak.2, ih d hsmall⟩

/-! ## Names of several words -/

/-- A small letter and then small letters or digits. -/
def IsWord (cs : List Char) : Prop :=
  ∃ c rest, cs = c :: rest ∧ c.isLower = true ∧ ∀ d ∈ rest, IsSmall d

/-- A word with a capital for its first letter. -/
def capitalized : List Char → List Char
  | [] => []
  | c :: rest => c.toUpper :: rest

/-- A name of two words or more. A word that stands between two others has two characters or more. -/
structure CompoundName where
  first : List Char
  inner : List (List Char)
  last : List Char
  isWord_first : IsWord first
  isWord_inner : ∀ word ∈ inner, IsWord word
  isWord_last : IsWord last
  two_le_length : ∀ word ∈ inner, 2 ≤ word.length

variable {word : List Char}

theorem IsWord.isSmall (h : IsWord word) : ∀ c ∈ word, IsSmall c := by
  obtain ⟨c, rest, rfl, hc, hrest⟩ := h
  exact List.forall_mem_cons.2 ⟨Or.inl hc, hrest⟩

theorem IsWord.ne_nil (h : IsWord word) : word ≠ [] := by
  obtain ⟨c, rest, rfl, -⟩ := h
  exact List.cons_ne_nil c rest

theorem IsWord.map_toLower (h : IsWord word) : word.map Char.toLower = word :=
  map_toLower_of_isSmall h.isSmall

/-- A word that is written with a capital is the word again in small letters. -/
theorem IsWord.map_toLower_capitalized (h : IsWord word) : (capitalized word).map Char.toLower = word := by
  obtain ⟨c, rest, rfl, hc, hrest⟩ := h
  rw [capitalized, List.map_cons, toLower_toUpper hc, map_toLower_of_isSmall hrest]

/-- A word has no hyphen in it, so the hyphens of a name stand between words only. -/
theorem IsWord.hyphen_not_mem (h : IsWord word) : '-' ∉ word :=
  fun hmem => (h.isSmall _ hmem).ne_hyphen rfl

theorem IsWord.hyphen_not_mem_capitalized (h : IsWord word) : '-' ∉ capitalized word := by
  intro hmem
  refine h.hyphen_not_mem ?_
  rw [← h.map_toLower_capitalized]
  exact List.mem_map_of_mem hmem

theorem IsWord.isSingleWord (h : IsWord word) : IsSingleWord word := by
  obtain ⟨c, rest, rfl, -, hrest⟩ := h
  exact isSingleWord_of_isSmall c hrest

/-- After a single word that ends in a small character, each capitalized word gets its hyphen. The induction is on the
words in between: the one that is read becomes the single word before the others. -/
theorem hyphenated_append_capitalized {front : List Char} {a : Char} (hfront : IsSingleWord (front ++ [a]))
    (ha : IsSmall a) {inner : List (List Char)} (hinner : ∀ word ∈ inner, IsWord word)
    (hlength : ∀ word ∈ inner, 2 ≤ word.length) {last : List Char} (hlast : IsWord last) :
    hyphenated (front ++ a :: (inner ++ [last]).flatMap capitalized) =
      front ++ a :: (inner ++ [last]).flatMap fun word => '-' :: capitalized word := by
  induction inner generalizing front a with
  | nil =>
    obtain ⟨c, rest, rfl, hc, hrest⟩ := hlast
    have hsingle := hyphenated_of_isSingleWord (isSingleWord_of_isSmall c.toUpper hrest)
    simp only [List.nil_append, List.flatMap_singleton, capitalized]
    rw [hyphenated_append hfront ⟨ha, isUpper_toUpper hc⟩, hsingle]
  | cons word inner ih =>
    obtain ⟨⟨c, rest, rfl, hc, hrest⟩, hwords⟩ := List.forall_mem_cons.1 hinner
    obtain ⟨htwo, hlengths⟩ := List.forall_mem_cons.1 hlength
    -- the word has a character after its capital, so it ends in a small one
    have hne : rest ≠ [] := by
      rintro rfl
      exact absurd htwo (by simp)
    obtain ⟨middle, b, rfl⟩ : ∃ middle b, rest = middle ++ [b] :=
      ⟨_, _, (List.dropLast_concat_getLast hne).symm⟩
    have hb : IsSmall b := hrest b (by simp)
    have hsingle : IsSingleWord (c.toUpper :: middle ++ [b]) := isSingleWord_of_isSmall c.toUpper hrest
    have hothers := ih hsingle hb hwords hlengths
    simp only [List.cons_append, List.flatMap_cons, capitalized, List.append_assoc, List.nil_append] at hothers ⊢
    rw [hyphenated_append hfront ⟨ha, isUpper_toUpper hc⟩, hothers]

/-- Words with hyphens between them are the first word, and then each of the others with its hyphen in front. -/
theorem intercalate_hyphen (first : List Char) (words : List (List Char)) :
    ['-'].intercalate (first :: words) = first ++ words.flatMap fun word => '-' :: word := by
  induction words generalizing first with
  | nil => simp
  | cons word words ih => rw [List.intercalate_cons_cons, ih, List.flatMap_cons, List.append_assoc]; rfl

namespace CompoundName

/-- The words after the first. -/
def later (n : CompoundName) : List (List Char) := n.inner ++ [n.last]

/-- The name in kebab case: its words with hyphens between them. -/
def kebab (n : CompoundName) : String := String.ofList (['-'].intercalate (n.first :: n.later))

/-- The name in camel case: its words one after the other, capitalized from the second on. -/
def camel (n : CompoundName) : String := String.ofList (n.first ++ n.later.flatMap capitalized)

variable (n : CompoundName)

/-- The words of a compound name behind the first, with the last of them, are words. -/
theorem isWord_later : ∀ word ∈ n.later, IsWord word := by
  intro word hword
  rcases List.mem_append.1 hword with hinner | hlast
  · exact n.isWord_inner word hinner
  · exact List.mem_singleton.1 hlast ▸ n.isWord_last

/-- A compound name as it is written in stylesheets: words with hyphens. -/
theorem toList_kebab : n.kebab.toList = n.first ++ n.later.flatMap fun word => '-' :: word := by
  rw [kebab, String.toList_ofList, intercalate_hyphen]

/-- A compound name as it is written in scripts: the words behind the first have capitals. -/
theorem toList_camel : n.camel.toList = n.first ++ n.later.flatMap capitalized := by
  rw [camel, String.toList_ofList]

/-- A compound name with hyphens has characters of ASCII only, for which small letters need no tables. -/
theorem ascii_kebab : ∀ c ∈ n.kebab.toList, c.toNat < 128 := by
  rw [toList_kebab]
  intro c hc
  rcases List.mem_append.1 hc with hfirst | hlater
  · exact (n.isWord_first.isSmall c hfirst).ascii
  · obtain ⟨word, hword, hmem⟩ := List.mem_flatMap.1 hlater
    rcases List.mem_cons.1 hmem with rfl | hmem
    · decide
    · exact ((n.isWord_later word hword).isSmall c hmem).ascii

theorem ascii_camel : ∀ c ∈ n.camel.toList, c.toNat < 128 := by
  rw [toList_camel]
  intro c hc
  rcases List.mem_append.1 hc with hfirst | hlater
  · exact (n.isWord_first.isSmall c hfirst).ascii
  · obtain ⟨word, hword, hmem⟩ := List.mem_flatMap.1 hlater
    have hisWord := n.isWord_later word hword
    refine ascii_of_map_toLower (fun d hd => ?_) c hmem
    rw [hisWord.map_toLower_capitalized] at hd
    exact (hisWord.isSmall d hd).ascii

/-- The words of a name in camel case, with hyphens between them, are the name in kebab case. -/
theorem lowerChars_hyphenated_camel : lowerChars (hyphenated n.camel.toList) = n.kebab.toList := by
  -- the first word ends in a small character, after which the others are read
  obtain ⟨front, a, hfirst⟩ : ∃ front a, n.first = front ++ [a] :=
    ⟨_, _, (List.dropLast_concat_getLast n.isWord_first.ne_nil).symm⟩
  have ha : IsSmall a := n.isWord_first.isSmall a (by simp [hfirst])
  have hhyphens : hyphenated n.camel.toList = n.first ++ n.later.flatMap fun word => '-' :: capitalized word := by
    have happend := hyphenated_append_capitalized (hfirst ▸ n.isWord_first.isSingleWord) ha n.isWord_inner
      n.two_le_length n.isWord_last
    rw [toList_camel, hfirst, List.append_assoc, List.append_assoc]
    exact happend
  -- lowering undoes the capitals and leaves the hyphens
  have hlower : (n.first ++ n.later.flatMap fun word => '-' :: capitalized word).map Char.toLower =
      n.kebab.toList := by
    rw [toList_kebab, List.map_append, n.isWord_first.map_toLower, List.map_flatMap]
    congr 1
    refine List.flatMap_congr fun word hword => ?_
    rw [List.map_cons, (n.isWord_later word hword).map_toLower_capitalized]
    rfl
  rw [hhyphens, lowerChars_ascii _ (ascii_of_map_toLower (hlower ▸ n.ascii_kebab)), hlower]

/-- A compound name has two words or more, so there is a hyphen in it. -/
theorem hyphen_mem_kebab : '-' ∈ n.kebab.toList := by
  rw [toList_kebab, later]
  simp

theorem hyphen_not_mem_camel : '-' ∉ n.camel.toList := by
  rw [toList_camel, List.mem_append, List.mem_flatMap]
  rintro (hfirst | ⟨word, hword, hmem⟩)
  · exact n.isWord_first.hyphen_not_mem hfirst
  · exact (n.isWord_later word hword).hyphen_not_mem_capitalized hmem

/-- The two spellings of a compound name differ, so a registry that knows the one has to find the other. -/
theorem camel_ne_kebab : n.camel ≠ n.kebab :=
  fun heq => n.hyphen_not_mem_camel (heq ▸ n.hyphen_mem_kebab)

/-- A compound name in camel case is not empty: it begins with its first word. -/
theorem camel_ne_empty : n.camel ≠ "" := by
  obtain ⟨c, rest, hfirst, -⟩ := n.isWord_first
  rw [Ne, ← String.toList_inj, toList_camel, hfirst]
  exact List.cons_ne_nil c _

/-- A compound name with hyphens is not empty: there is a hyphen in it. -/
theorem kebab_ne_empty : n.kebab ≠ "" := by
  intro hempty
  have hmem := n.hyphen_mem_kebab
  rw [hempty] at hmem
  exact absurd hmem (by decide)

/-- A compound name in camel case has no vendor's mark, since it begins with a small letter and marks begin with a
hyphen. -/
theorem isUnmarked_camel : IsUnmarked n.camel.toList := by
  obtain ⟨c, rest, hfirst, hc, -⟩ := n.isWord_first
  rw [toList_camel, hfirst]
  exact isUnmarked_of_ne_hyphen (IsSmall.ne_hyphen (Or.inl hc)) _

end CompoundName

/-! ## Spellings -/

/-- A name that is spelled as it stands: ASCII text of one word that is not empty and has no vendor's mark. -/
structure IsPlainName (name : String) : Prop where
  ne_empty : name ≠ ""
  ascii : ∀ c ∈ name.toList, c.toNat < 128
  unmarked : IsUnmarked name.toList
  singleWord : IsSingleWord name.toList

/-- A search through the spellings of a plain name is one through the name itself, the name in lowercase, and that as a
stylesheet feature and as a property: that some of these may be equal makes no difference. -/
theorem findSome?_variations {β : Type} {name : String} (h : IsPlainName name) {g : String → Option β}
    (hempty : g "" = none) :
    (variations name).findSome? g =
      [name, lower name, "css-" ++ lower name, propertyMark ++ lower name].findSome? g := by
  have hkept : ∀ v : String, (!v.isEmpty) = false → g v = none := by
    intro v hv
    have hv : v = "" := by simpa using hv
    rw [hv, hempty]
  rw [variations, unmarkedChars_of_isUnmarked h.ascii h.unmarked, hyphenated_of_isSingleWord h.singleWord,
    String.ofList_toList]
  exact (findSome?_distinct g _).trans (findSome?_filter_of_none hkept _)

/-- A name in camel case is tried as it stands first, and in kebab case next. -/
theorem CompoundName.variations_camel (n : CompoundName) :
    ∃ more, variations n.camel = n.camel :: n.kebab :: more := by
  have hkebab : String.ofList (lowerChars (hyphenated n.camel.toList)) = n.kebab := by
    rw [n.lowerChars_hyphenated_camel, String.ofList_toList]
  have hcamel : n.camel.isEmpty = false := by simpa using n.camel_ne_empty
  have hne : n.kebab.isEmpty = false := by simpa using n.kebab_ne_empty
  rw [variations, unmarkedChars_of_isUnmarked n.ascii_camel n.isUnmarked_camel]
  simp only [hkebab, String.ofList_toList, List.filter_cons, hcamel, hne, Bool.not_false, if_true]
  exact exists_distinct_cons_cons n.camel_ne_kebab.symm _

end FeatureAudit
