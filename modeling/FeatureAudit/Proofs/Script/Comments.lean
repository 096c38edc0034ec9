import FeatureAudit.Proofs.Script.Concatenation

/-!
# Code after a comment

A line that starts with the mark of a comment is passed over. Whether the comment ends before the line does is not
asked, so the code that follows a closed comment goes unseen.

* **`withLine`** — a text with another line at a place.
* **`usesOutside_lineUses_set`** — what stands in a line makes no difference outside it.
* **`code_after_comment_unseen`** — code that follows a closed comment, and the same code without the comment.
* **`banner_hides_call`** — a call that nothing but the comment before it hides.
-/
namespace FeatureAudit.Script

open FeatureAudit.Text

variable {r : Registry} {target : Tier} {file text : String} {i : Nat} {line code : List Char}

/-! ## One line for another -/

/-- The text with another line at a place. -/
def withLine (text : String) (i : Nat) (line : List Char) : String :=
  String.ofList (['\n'].intercalate ((text.toList.splitOn '\n').set i line))

/-- The lines of a text in which one was replaced are its lines with that one replaced. -/
theorem splitOn_withLine (h : '\n' ∉ line) (text : String) (i : Nat) :
    (withLine text i line).toList.splitOn '\n' = (text.toList.splitOn '\n').set i line := by
  rw [withLine, String.toList_ofList]
  refine List.splitOn_intercalate '\n' (fun other hother => ?_) ?_
  · rcases List.mem_or_eq_of_mem_set hother with hold | rfl
    · exact not_mem_of_mem_splitOn hold
    · exact h
  · rw [Ne, List.set_eq_nil_iff]
    exact List.splitOn_ne_nil '\n' text.toList

/-- The uses in a line are those before it, those at it and those after it. -/
theorem lineUses_set {ls : List (List Char)} (hi : i < ls.length) (line : List Char) :
    lineUses r target file 0 (ls.set i line) =
      lineUses r target file 0 (ls.take i) ++ (lineSite (i + 1) line).usages r target file ++
        lineUses r target file (i + 1) (ls.drop (i + 1)) := by
  have hlength : (ls.take i).length = i := List.length_take_of_le (Nat.le_of_lt hi)
  have hone : lineUses r target file i [line] = (lineSite (i + 1) line).usages r target file :=
    List.flatMap_singleton _ _
  rw [List.set_eq_take_append_cons_drop, if_pos hi, ← List.singleton_append, ← List.append_assoc,
    lineUses_append, lineUses_append, List.length_append, hlength, List.length_singleton, Nat.zero_add,
    Nat.zero_add, hone]

/-- The number of a line is the line of its uses. -/
theorem line_of_mem_usages_lineSite {number : Nat} {u : Usage}
    (h : u ∈ (lineSite number line).usages r target file) : u.line = number :=
  (Site.place_of_mem_usages h).1

/-- A use in some lines has the number of one of them. -/
theorem line_of_mem_lineUses {above : Nat} {ls : List (List Char)} {u : Usage}
    (h : u ∈ lineUses r target file above ls) : above < u.line ∧ u.line ≤ above + ls.length := by
  obtain ⟨⟨other, j⟩, hline, hu⟩ := List.mem_flatMap.1 h
  obtain ⟨habove, hbelow, -⟩ := List.mem_zipIdx hline
  have hnumber : u.line = (j + 1 : Nat) := line_of_mem_usages_lineSite hu
  omega

/-- The uses that are not in the line with a number. -/
def usesOutside (usages : List Usage) (number : Nat) : List Usage := usages.filter fun u => u.line ≠ number

/-- The uses outside a line are taken from both parts of a list. -/
theorem usesOutside_append (us vs : List Usage) (number : Nat) :
    usesOutside (us ++ vs) number = usesOutside us number ++ usesOutside vs number :=
  List.filter_append us vs

/-- If no use is in a line, then all of them are outside of it. -/
theorem usesOutside_of_ne {us : List Usage} {number : Nat} (h : ∀ u ∈ us, u.line ≠ number) :
    usesOutside us number = us :=
  List.filter_eq_self.2 fun u hu => decide_eq_true (h u hu)

/-- Outside a line the uses are the same, whatever stands in it. -/
theorem usesOutside_lineUses_set {ls : List (List Char)} (hi : i < ls.length) (line : List Char) :
    usesOutside (lineUses r target file 0 (ls.set i line)) (i + 1) =
      lineUses r target file 0 (ls.take i) ++ lineUses r target file (i + 1) (ls.drop (i + 1)) := by
  -- uses on the lines before have smaller numbers, and those behind have greater ones
  have hbefore : ∀ u ∈ lineUses r target file 0 (ls.take i), u.line ≠ (i + 1 : Nat) := by
    intro u hu
    have hline := line_of_mem_lineUses hu
    rw [List.length_take] at hline
    omega
  have hat : usesOutside ((lineSite (i + 1) line).usages r target file) (i + 1) = [] := by
    refine List.filter_eq_nil_iff.2 fun u hu => ?_
    simpa using line_of_mem_usages_lineSite hu
  have hafter : ∀ u ∈ lineUses r target file (i + 1) (ls.drop (i + 1)), u.line ≠ (i + 1 : Nat) := by
    intro u hu
    have hline := line_of_mem_lineUses hu
    omega
  rw [lineUses_set hi, usesOutside_append, usesOutside_append, usesOutside_of_ne hbefore, hat,
    usesOutside_of_ne hafter, List.append_nil]

/-! ## Comments -/

/-- Nothing is found in a line that starts as a comment. -/
theorem usages_lineSite_of_startsComment (h : StartsComment line) (number : Nat) :
    (lineSite number line).usages r target file = [] := by
  have hcode : isCode line = false := by
    rw [Bool.eq_false_iff, Ne, isCode_iff]
    exact fun hcode => hcode.2 h
  rw [Site.usages, lineSite, hcode]
  rfl

/-- A line that starts as a comment hides what another line in its place would show, and nothing else. -/
theorem extract_of_startsComment (hline : (text.toList.splitOn '\n')[i]? = some line) (h : StartsComment line)
    (hcode : '\n' ∉ code) :
    (extract r target file text).usages =
      usesOutside (extract r target file (withLine text i code)).usages (i + 1) := by
  obtain ⟨hi, hget⟩ := List.getElem?_eq_some_iff.1 hline
  have hsame : (text.toList.splitOn '\n').set i line = text.toList.splitOn '\n' := by
    rw [← hget, List.set_getElem_self]
  rw [extract_eq_lineUses, extract_eq_lineUses, splitOn_withLine hcode, usesOutside_lineUses_set hi]
  calc
    lineUses r target file 0 (text.toList.splitOn '\n')
    _ = lineUses r target file 0 ((text.toList.splitOn '\n').set i line) := by rw [hsame]
    _ = _ := by rw [lineUses_set hi, usages_lineSite_of_startsComment h, List.append_nil]

/-- **Code after a comment is not seen.** Where a line is a closed comment and code after it, the script shows what it
would show with the code alone in that line, but for the uses in that line. Of these there would be one for every
feature that a rule finds in the code, if the code has something that is no blank and does not itself start as a
comment. -/
theorem code_after_comment_unseen (r : Registry) (target : Tier) (file : String) {text : String} {i : Nat}
    {comment code : List Char}
    (hline : (text.toList.splitOn '\n')[i]? = some ("/*".toList ++ comment ++ "*/".toList ++ code)) :
    (extract r target file text).usages =
        usesOutside (extract r target file (withLine text i code)).usages (i + 1) ∧
      ((∃ c ∈ code, isBlank c = false) → ¬ StartsComment code →
        ∀ rule ∈ rules, occurs rule.pattern code = true → ∀ f, r.lookup rule.token = some f →
          ∃ u, usesAt (extract r target file (withLine text i code)).usages (i + 1) f.id = [u]) := by
  have hnewline : '\n' ∉ "/*".toList ++ comment ++ "*/".toList ++ code :=
    not_mem_of_mem_splitOn (List.mem_of_getElem? hline)
  have hcode : '\n' ∉ code := fun hmem => hnewline (List.mem_append_right _ hmem)
  -- what is compared is the script with the whole line, and the one with the code alone in its place
  constructor
  · rw [List.append_assoc, List.append_assoc] at hline
    exact extract_of_startsComment hline (startsComment_append (by decide) _) hcode
  · intro hink hnotComment rule hrule hoccurs f hf
    have hi : i < (text.toList.splitOn '\n').length := (List.getElem?_eq_some_iff.1 hline).1
    have halone : ((withLine text i code).toList.splitOn '\n')[i]? = some code := by
      rw [splitOn_withLine hcode, List.getElem?_set_self hi]
    exact exists_usesAt_of_finds halone hrule ⟨hink, hnotComment, hoccurs, f, hf, rfl⟩ target file

/-- A feature that a call names. -/
def callFeature : Feature := ⟨"fetch", "Fetch", .widelyAvailable, [], [], []⟩

/-- A call after a comment, and one without. -/
def bannerScript : String := "/* banner */ fetch(x)\nfetch(y)"

theorem code_after_comment_unseen_of_banner :
    (bannerScript.toList.splitOn '\n')[0]? =
        some ("/*".toList ++ " banner ".toList ++ "*/".toList ++ " fetch(x)".toList) ∧
      (extract (.ofFeatures [callFeature]) .limited "a.js" bannerScript).usages =
        usesOutside (extract (.ofFeatures [callFeature]) .limited "a.js"
          (withLine bannerScript 0 " fetch(x)".toList)).usages 1 ∧
      ∃ u, usesAt (extract (.ofFeatures [callFeature]) .limited "a.js"
        (withLine bannerScript 0 " fetch(x)".toList)).usages 1 "fetch" = [u] := by
  have hline : (bannerScript.toList.splitOn '\n')[0]? =
      some ("/*".toList ++ " banner ".toList ++ "*/".toList ++ " fetch(x)".toList) := by
    decide
  obtain ⟨hunseen, hseen⟩ := code_after_comment_unseen (.ofFeatures [callFeature]) .limited "a.js" hline
  have hcode : isCode " fetch(x)".toList = true := by decide
  obtain ⟨hink, hnotComment⟩ := isCode_iff.1 hcode
  have hrule : (⟨callOf "fetch", "fetch"⟩ : Rule) ∈ rules := List.mem_of_getElem? (i := 9) rfl
  have hoccurs : occurs (callOf "fetch") " fetch(x)".toList = true := by decide +kernel
  have hfound : (Registry.ofFeatures [callFeature]).lookup "fetch" = some callFeature := by decide +kernel
  exact ⟨hline, hunseen, hseen hink hnotComment _ hrule hoccurs callFeature hfound⟩

/-- The comment is closed, what follows it is code in which a rule finds a feature, and nothing is found in that line:
all that the script shows is the call in the next. -/
theorem banner_hides_call :
    (bannerScript.toList.splitOn '\n')[0]? =
        some ("/*".toList ++ " banner ".toList ++ "*/".toList ++ " fetch(x)".toList) ∧
      ¬ "*/".toList <:+: " banner ".toList ∧
      (∃ c ∈ " fetch(x)".toList, isBlank c = false) ∧ ¬ StartsComment " fetch(x)".toList ∧
      (∃ rule ∈ rules, occurs rule.pattern " fetch(x)".toList = true ∧
        (Registry.ofFeatures [callFeature]).lookup rule.token = some callFeature) ∧
      (extract (.ofFeatures [callFeature]) .limited "a.js" bannerScript).usages.map
        (fun u => (u.line, u.featureId)) = [(2, "fetch")] := by
  have hcode : isCode " fetch(x)".toList = true := by decide
  obtain ⟨hink, hnotComment⟩ := isCode_iff.1 hcode
  have hrule : (⟨callOf "fetch", "fetch"⟩ : Rule) ∈ rules := List.mem_of_getElem? (i := 9) rfl
  have hclosed : ¬ "*/".toList <:+: " banner ".toList := by decide +kernel
  have hoccurs : occurs (callOf "fetch") " fetch(x)".toList = true := by decide +kernel
  have hfound : (Registry.ofFeatures [callFeature]).lookup "fetch" = some callFeature := by decide +kernel
  exact ⟨by decide, hclosed, hink, hnotComment, ⟨_, hrule, hoccurs, hfound⟩, by decide +kernel⟩

end FeatureAudit.Script
