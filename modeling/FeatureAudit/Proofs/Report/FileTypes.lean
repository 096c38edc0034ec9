import Mathlib.Data.List.TakeWhile
import FeatureAudit.Report.Statistics

/-!
# The types of files

A report sorts files by what follows the last dot of their names, and an audit tells by the suffix, dot and all, which
sources it looks into. Either takes the lowercase form, the one without the dot and the other with it. A dot before a
text makes no difference to its lowercase form, so both go by the same types.

* **`HasExtension`** — what follows the last dot of a name.
* **`IsFileType`**, **`fileType_eq_iff`** — the type of a file.
* **`lowerChars_dot_cons`** — a dot before a text that is lowered.
* **`isSome_fileKind?_iff`** — the sources that are looked into are those of eight types.
-/
namespace FeatureAudit

open Report Text

/-! ## Extensions -/

/-- The extension follows the last dot of the name, which is neither its first nor its last character. -/
structure HasExtension (name : String) (extension : List Char) : Prop where
  ne_nil : extension ≠ []
  last_dot : '.' ∉ extension
  stem : ∃ stem, stem ≠ [] ∧ name.toList = stem ++ '.' :: extension

variable {name file : String} {extension : List Char}

/-- What is read up to a dot is the text before it, if this has no dot of its own. -/
theorem takeWhile_append_dot {front back : List Char} (h : '.' ∉ front) :
    (front ++ '.' :: back).takeWhile (· != '.') = front := by
  rw [List.takeWhile_append_of_pos, List.takeWhile_cons_of_neg (by simp), List.append_nil]
  intro c hc
  have hne : c ≠ '.' := fun heq => h (heq ▸ hc)
  simpa using hne

/-- The suffix goes from the last dot on, unless nothing stands before the dot or nothing after it. -/
theorem suffixOf_eq_ite {stem : List Char} (hname : name.toList = stem ++ '.' :: extension)
    (hdot : '.' ∉ extension) :
    Path.suffixOf name =
      if extension = [] ∨ stem = [] then "" else String.ofList ('.' :: extension) := by
  -- the suffix is read from the end of the name
  have hreversed : name.toList.reverse = extension.reverse ++ '.' :: stem.reverse := by
    rw [hname]
    simp
  have htail : name.toList.reverse.takeWhile (· != '.') = extension.reverse := by
    rw [hreversed]
    exact takeWhile_append_dot (by simpa using hdot)
  have hrest : (name.toList.reverse.drop extension.reverse.length).drop 1 = stem.reverse := by
    rw [hreversed, List.drop_left]
    rfl
  rw [Path.suffixOf, htail, hrest, List.reverse_reverse]
  simp

/-- The suffix of a name with an extension is the extension with its dot. -/
theorem suffixOf_of_hasExtension (h : HasExtension name extension) :
    Path.suffixOf name = String.ofList ('.' :: extension) := by
  obtain ⟨hne, hdot, stem, hstem, hname⟩ := h
  rw [suffixOf_eq_ite hname hdot, if_neg (by simpa using ⟨hne, hstem⟩)]

/-- A name has an extension, or it has no suffix. -/
theorem hasExtension_or_suffixOf (name : String) :
    (∃ extension, HasExtension name extension) ∨ Path.suffixOf name = "" := by
  by_cases hmem : '.' ∈ name.toList.reverse
  · -- read from its end, the name has its last dot first
    obtain ⟨tail, back, hreversed, htail⟩ := List.eq_append_cons_of_mem hmem
    have hname : name.toList = back.reverse ++ '.' :: tail.reverse := by
      rw [← List.reverse_reverse name.toList, hreversed]
      simp
    have hdot : '.' ∉ tail.reverse := by simpa using htail
    by_cases hempty : tail.reverse = [] ∨ back.reverse = []
    · right
      rw [suffixOf_eq_ite hname hdot, if_pos hempty]
    · obtain ⟨hext, hstem⟩ := not_or.1 hempty
      exact Or.inl ⟨tail.reverse, hext, hdot, back.reverse, hstem, hname⟩
  · right
    have hall : name.toList.reverse.takeWhile (· != '.') = name.toList.reverse := by
      apply List.takeWhile_eq_self_iff.2
      intro c hc
      have hne : c ≠ '.' := fun heq => hmem (heq ▸ hc)
      simpa using hne
    rw [Path.suffixOf, hall, List.drop_length]
    simp

/-! ## Types -/

/-- Only an empty text is lowered to an empty one: every character has a form in small letters. -/
theorem lowerChars_eq_nil_iff {cs : List Char} : lowerChars cs = [] ↔ cs = [] := by
  cases cs with
  | nil => simp [lowerChars, lowerAfter]
  | cons c rest =>
    simp only [lowerChars, lowerAfter, List.append_eq_nil_iff, reduceCtorEq, iff_false, not_and]
    intro hform
    split at hform
    · exact absurd hform (by simp)
    · split at hform
      · split at hform <;> exact absurd hform (by simp)
      · exact absurd hform (by simp)

/-- The type of a file is its extension in lowercase, and unknown where there is none. -/
def IsFileType (file type : String) : Prop :=
  (∃ extension, HasExtension (Path.ofString file).name extension ∧
      type = lower (String.ofList extension)) ∨
    (∀ extension, ¬ HasExtension (Path.ofString file).name extension) ∧ type = "unknown"

/-- The type of a file with an extension is the extension in small letters. -/
theorem fileType_of_hasExtension (h : HasExtension (Path.ofString file).name extension) :
    fileType file = lower (String.ofList extension) := by
  have hsuffix : (Path.ofString file).suffix.toList.drop 1 = extension := by
    rw [Path.suffix, suffixOf_of_hasExtension h, String.toList_ofList]
    rfl
  have hlower : lower (String.ofList extension) ≠ "" := by
    intro hempty
    have hchars : lowerChars extension = [] := by
      simpa [lower] using congrArg String.toList hempty
    exact h.ne_nil (lowerChars_eq_nil_iff.1 hchars)
  rw [fileType, hsuffix, if_neg (by simpa using hlower)]

/-- A file without a suffix has no type that is known. -/
theorem fileType_of_suffix_empty (h : (Path.ofString file).suffix = "") : fileType file = "unknown" := by
  rw [fileType, h]
  rfl

/-- A name without a suffix has no extension, a trailing dot included. -/
theorem not_hasExtension_of_suffix_empty (h : Path.suffixOf name = "") (extension : List Char) :
    ¬ HasExtension name extension := by
  intro hextension
  rw [suffixOf_of_hasExtension hextension] at h
  exact absurd (congrArg String.toList h) (by simp)

/-- The type of a file is what its extension says, and that it is unknown exactly if there is no extension. -/
theorem fileType_eq_iff {type : String} : fileType file = type ↔ IsFileType file type := by
  constructor
  · rintro rfl
    rcases hasExtension_or_suffixOf (Path.ofString file).name with ⟨extension, h⟩ | hnone
    · exact Or.inl ⟨extension, h, fileType_of_hasExtension h⟩
    · exact Or.inr ⟨not_hasExtension_of_suffix_empty hnone, fileType_of_suffix_empty hnone⟩
  · rintro (⟨extension, h, rfl⟩ | ⟨hno, rfl⟩)
    · exact fileType_of_hasExtension h
    · rcases hasExtension_or_suffixOf (Path.ofString file).name with ⟨extension, h⟩ | hnone
      · exact absurd h (hno extension)
      · exact fileType_of_suffix_empty hnone

instance (file type : String) : Decidable (IsFileType file type) := decidable_of_iff _ fileType_eq_iff

/-! ## Sources -/

/-- Whether a capital sigma ends a word does not depend on a dot far before it: a dot is passed over. -/
theorem meetsCased_concat_dot (cs : List Char) : meetsCased (cs ++ ['.']) = meetsCased cs := by
  have hdot : (['.'] : List Char).dropWhile (inRanges caseIgnorableRanges) = [] := by decide +kernel
  unfold meetsCased
  rw [List.dropWhile_append, hdot]
  cases cs.dropWhile (inRanges caseIgnorableRanges) <;> rfl

/-- A dot far before a text does not change how it is lowered. The induction is on the text; what came before it only
matters for one letter. -/
theorem lowerAfter_concat_dot (before cs : List Char) :
    lowerAfter (before ++ ['.']) cs = lowerAfter before cs := by
  induction cs generalizing before with
  | nil => rfl
  | cons c rest ih =>
    have hrest : lowerAfter (c :: (before ++ ['.'])) rest = lowerAfter (c :: before) rest := ih (c :: before)
    rw [lowerAfter, lowerAfter, meetsCased_concat_dot, hrest]

/-- A dot before a text makes no difference to its lowercase form. -/
theorem lowerChars_dot_cons (cs : List Char) : lowerChars ('.' :: cs) = '.' :: lowerChars cs := by
  have hdot : lowerAfter [] ('.' :: cs) = '.' :: lowerAfter ['.'] cs := by
    rw [lowerAfter]
    rfl
  rw [lowerChars, hdot, show (['.'] : List Char) = [] ++ ['.'] from rfl, lowerAfter_concat_dot]
  rfl

/-- The types of the sources that are looked into. -/
def sourceTypes : List String := ["css", "scss", "sass", "less", "js", "jsx", "ts", "tsx"]

/-- The suffixes of stylesheets and of scripts are those of the types of sources, with a dot before each. -/
theorem suffixes_eq : stylesheetSuffixes ++ scriptSuffixes = sourceTypes.map ("." ++ ·) := by decide

/-- A suffix is that of a source exactly if it is one of theirs in small letters. -/
theorem isSome_ofSuffix?_iff {suffix : String} :
    (FileKind.ofSuffix? suffix).isSome = true ↔ lower suffix ∈ sourceTypes.map ("." ++ ·) := by
  rw [← suffixes_eq, List.mem_append, FileKind.ofSuffix?, ← List.contains_iff_mem, ← List.contains_iff_mem]
  cases stylesheetSuffixes.contains (lower suffix) <;> cases scriptSuffixes.contains (lower suffix) <;> simp

/-- The sources that are looked into are those of the types of sources. -/
theorem isSome_fileKind?_iff : (fileKind? file).isSome = true ↔ fileType file ∈ sourceTypes := by
  rw [fileKind?, Path.kind?, isSome_ofSuffix?_iff]
  rcases hasExtension_or_suffixOf (Path.ofString file).name with ⟨extension, h⟩ | hnone
  · have hsuffix : lower (Path.ofString file).suffix = "." ++ lower (String.ofList extension) := by
      rw [Path.suffix, suffixOf_of_hasExtension h, lower, String.toList_ofList, lowerChars_dot_cons,
        ← String.toList_inj]
      simp [lower]
    rw [hsuffix, fileType_of_hasExtension h]
    simp
  · -- a name without an extension is of type `unknown`, which is no type of a source
    have hempty : (Path.ofString file).suffix = "" := hnone
    rw [hempty, fileType_of_suffix_empty hempty]
    decide +kernel

end FeatureAudit
