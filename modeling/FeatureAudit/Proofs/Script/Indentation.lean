import FeatureAudit.Proofs.Script.LineUses

/-!
# Scripts indented anew

Blanks before a line change nothing that is found in it. No pattern can start inside them, since the first thing that
each of them reads is no blank; and where a pattern looks back from the start of the line, a blank is to it as good as
nothing: it is not part of a word, and of no text or class that a pattern refuses to stand after.

* **`startsWithInk`**, **`looksPastBlanks`** — the patterns of which this is so, told by their pieces.
* **`not_matchesHere_blank`**, **`matchesHere_append_blanks`** — what a blank after a place and blanks before it mean to
  them.
* **`occurs_indent`** — where such a pattern occurs.
* **`indented`**, **`extract_indented`** — a text with blanks before its lines, and what is found in it.
-/
namespace FeatureAudit.Script

open FeatureAudit.Text

variable {pattern : Pattern} {accepts : Char → Bool} {blanks : List Char}

/-! ## Patterns and blanks -/

/-- No blank is in the class. -/
def rejectsBlanks (accepts : Char → Bool) : Bool := blankChars.all fun c => !accepts c

/-- The first thing that the pattern reads is no blank. -/
def startsWithInk : Pattern → Bool
  | [] => false
  | .one accepts :: _ => rejectsBlanks accepts
  | .many accepts :: rest => rejectsBlanks accepts && startsWithInk rest
  | .anyOf texts :: _ => texts.all fun text => !text.isEmpty && rejectsBlanks fun c => text.head? == some c
  | .boundary :: rest => startsWithInk rest
  | .notAfter _ :: rest => startsWithInk rest
  | .notAfterOne _ :: rest => startsWithInk rest
  | .notBefore _ :: rest => startsWithInk rest

/-- Where the pattern looks back, it looks for no blank. -/
def looksPastBlanks (pattern : Pattern) : Bool :=
  pattern.all fun
    | .notAfter text => rejectsBlanks text.contains
    | .notAfterOne accepts => rejectsBlanks accepts
    | _ => true

/-- What rejects all blanks in the list rejects every blank. -/
theorem rejects_of_isBlank (h : rejectsBlanks accepts = true) {c : Char} (hc : isBlank c = true) :
    accepts c = false := by
  have hrejects := List.all_eq_true.1 h c (mem_blankChars_of_isBlank hc)
  simpa using hrejects

/-- A pattern that starts with ink does not fit where a blank comes next. -/
theorem not_matchesHere_blank (h : startsWithInk pattern = true) {c : Char} (hc : isBlank c = true)
    (before after : List Char) : matchesHere pattern before (c :: after) = false := by
  induction pattern generalizing before with
  | nil => exact absurd h (by simp [startsWithInk])
  | cons piece rest ih =>
    cases piece with
    | one accepts => rw [matchesHere, rejects_of_isBlank h hc, Bool.false_and]
    | many accepts =>
      -- a run of characters may be empty, so what comes behind it must not start with a blank either
      obtain ⟨hrejects, hrest⟩ := (Bool.and_eq_true _ _).mp h
      rw [matchesHere, manyThen, rejects_of_isBlank hrejects hc, ih hrest, Bool.false_and, Bool.or_false]
    | anyOf texts =>
      rw [matchesHere, List.any_eq_false]
      intro text htext
      obtain ⟨hne, hrejects⟩ := (Bool.and_eq_true _ _).mp (List.all_eq_true.1 h text htext)
      cases text with
      | nil => exact absurd hne (by simp)
      | cons d text =>
        have hdc : d ≠ c := by simpa using rejects_of_isBlank hrejects hc
        simp [List.isPrefixOf?, hdc]
    -- the other pieces take no character, so the rest of the pattern has to take the blank
    | boundary => rw [matchesHere, ih h, Bool.and_false]
    | notAfter text => rw [matchesHere, ih h, Bool.and_false]
    | notAfterOne accepts => rw [matchesHere, ih h, Bool.and_false]
    | notBefore accepts => rw [matchesHere, ih h, Bool.and_false]

/-! ## Blanks before a place -/

/-- A look at the character before a place is not misled by blanks far before it, if it rejects blanks. Only at the
start of a line could it see them. -/
theorem headIs_append_blanks (h : ∀ c ∈ blanks, accepts c = false) (before : List Char) :
    headIs accepts (before ++ blanks) = headIs accepts before := by
  cases before with
  | cons c before => rfl
  | nil =>
    cases blanks with
    | nil => rfl
    | cons c blanks => exact h c List.mem_cons_self

/-- A text without blanks cannot reach into the blanks. -/
theorem isPrefixOf_append_blanks {text : List Char} (h : ∀ c ∈ blanks, c ∉ text) (before : List Char) :
    text.isPrefixOf (before ++ blanks) = text.isPrefixOf before := by
  rw [Bool.eq_iff_iff, List.isPrefixOf_iff_prefix, List.isPrefixOf_iff_prefix]
  refine ⟨fun hprefix => ?_, fun hprefix => hprefix.trans (List.prefix_append before blanks)⟩
  rcases List.prefix_or_prefix_of_prefix hprefix (List.prefix_append before blanks) with hwithin | ⟨inside, rfl⟩
  · exact hwithin
  · cases inside with
    | nil => simp
    | cons c inside =>
      -- what the text has left would start with a blank
      have hinside : c :: inside <+: blanks := (List.prefix_append_right_inj before).1 hprefix
      exact absurd (by simp) (h c (hinside.subset List.mem_cons_self))

/-- A run of characters is read alike with blanks far before it, if what follows the run is. -/
theorem manyThen_append_blanks {next : List Char → List Char → Bool}
    (hnext : ∀ before after, next (before ++ blanks) after = next before after) (before after : List Char) :
    manyThen accepts next (before ++ blanks) after = manyThen accepts next before after := by
  induction after generalizing before with
  | nil => rw [manyThen, manyThen, hnext]
  | cons c after ih => rw [manyThen, manyThen, hnext, ← List.cons_append, ih]

/-- Blanks before all that a pattern sees make no difference to it. The induction is on the pattern, for every place:
what has been read stands between the place and the blanks. -/
theorem matchesHere_append_blanks (h : looksPastBlanks pattern = true)
    (hblanks : ∀ c ∈ blanks, isBlank c = true) (before after : List Char) :
    matchesHere pattern (before ++ blanks) after = matchesHere pattern before after := by
  induction pattern generalizing before after with
  | nil => rfl
  | cons piece rest ih =>
    obtain ⟨hpiece, hrest⟩ := (Bool.and_eq_true _ _).mp h
    have ih := ih hrest
    cases piece with
    | one accepts =>
      cases after with
      | nil => rfl
      | cons c after =>
        rw [matchesHere, matchesHere, ← List.cons_append, ih]
    -- what a run reads is put before the rest, in front of the blanks
    | many accepts => exact manyThen_append_blanks ih before after
    | anyOf texts =>
      rw [matchesHere, matchesHere]
      congr 1
      funext text
      cases text.isPrefixOf? after with
      | none => rfl
      | some after' =>
        have hread := ih (text.reverse ++ before) after'
        rwa [List.append_assoc] at hread
    | boundary =>
      have hword : ∀ c ∈ blanks, isWord c = false := by
        have hrejects : rejectsBlanks isWord = true := by decide +kernel
        exact fun c hc => rejects_of_isBlank hrejects (hblanks c hc)
      rw [matchesHere, matchesHere, ih, atBoundary, atBoundary, headIs_append_blanks hword]
    | notAfter text =>
      have hink : ∀ c ∈ blanks, c ∉ text.reverse := by
        intro c hc hmem
        have habsent : text.contains c = false := rejects_of_isBlank hpiece (hblanks c hc)
        simp_all
      rw [matchesHere, matchesHere, ih, isPrefixOf_append_blanks hink]
    | notAfterOne accepts =>
      have hrejects : ∀ c ∈ blanks, accepts c = false :=
        fun c hc => rejects_of_isBlank hpiece (hblanks c hc)
      rw [matchesHere, matchesHere, ih, headIs_append_blanks hrejects]
    | notBefore accepts => rw [matchesHere, matchesHere, ih]

/-! ## Lines -/

/-- Where a pattern that starts with ink occurs, it occurs after the blanks. -/
theorem occursFrom_blanks (h : startsWithInk pattern = true) (hblanks : ∀ c ∈ blanks, isBlank c = true)
    (before after : List Char) :
    occursFrom pattern before (blanks ++ after) = occursFrom pattern (blanks.reverse ++ before) after := by
  induction blanks generalizing before with
  | nil => rfl
  | cons c blanks ih =>
    obtain ⟨hc, hblanks⟩ := List.forall_mem_cons.1 hblanks
    rw [List.cons_append, occursFrom, not_matchesHere_blank h hc, Bool.false_or, ih hblanks,
      List.reverse_cons, List.append_assoc, List.singleton_append]

/-- A pattern that looks past blanks occurs behind a place whether or not there are blanks far before it. -/
theorem occursFrom_append_blanks (h : looksPastBlanks pattern = true)
    (hblanks : ∀ c ∈ blanks, isBlank c = true) (before after : List Char) :
    occursFrom pattern (before ++ blanks) after = occursFrom pattern before after := by
  induction after generalizing before with
  | nil => rw [occursFrom, occursFrom, matchesHere_append_blanks h hblanks]
  | cons c after ih =>
    rw [occursFrom, occursFrom, matchesHere_append_blanks h hblanks, ← List.cons_append, ih]

/-- Blanks before a line make no difference to where such a pattern occurs. -/
theorem occurs_indent (hink : startsWithInk pattern = true) (hpast : looksPastBlanks pattern = true)
    (hblanks : ∀ c ∈ blanks, isBlank c = true) (line : List Char) :
    occurs pattern (blanks ++ line) = occurs pattern line := by
  have hreverse : ∀ c ∈ blanks.reverse, isBlank c = true :=
    fun c hc => hblanks c (List.mem_reverse.1 hc)
  rw [occurs, occursFrom_blanks hink hblanks, List.append_nil]
  exact occursFrom_append_blanks hpast hreverse [] line

/-- Of all rules there is none to which blanks before a line make a difference. -/
theorem rules_ignore_indent {rule : Rule} (h : rule ∈ rules) :
    startsWithInk rule.pattern = true ∧ looksPastBlanks rule.pattern = true := by
  have hall : (rules.all fun rule => startsWithInk rule.pattern && looksPastBlanks rule.pattern) = true := by
    decide
  exact (Bool.and_eq_true _ _).mp (List.all_eq_true.1 hall rule h)

/-- An indented line has the same site: the same tokens, and the same text once it is stripped. -/
theorem lineSite_indent (hblanks : ∀ c ∈ blanks, isBlank c = true) (number : Nat) (line : List Char) :
    lineSite number (blanks ++ line) = lineSite number line := by
  have hstrip : stripChars (blanks ++ line) = stripChars line := stripChars_append_of_blank hblanks line
  have hcode : isCode (blanks ++ line) = isCode line := by
    rw [isCode, isCode, isComment, isComment, hstrip]
  have htokens : lineTokens (blanks ++ line) = lineTokens line := by
    rw [lineTokens, lineTokens]
    congr 1
    refine List.filter_congr fun rule hrule => ?_
    obtain ⟨hink, hpast⟩ := rules_ignore_indent hrule
    exact occurs_indent hink hpast hblanks line
  rw [lineSite, lineSite, hstrip, hcode, htokens]

/-! ## Scripts -/

/-- The lines with something put before each, by their places. -/
def indentedLines (indents : Nat → String) (ls : List (List Char)) : List (List Char) :=
  ls.mapIdx fun i line => (indents i).toList ++ line

/-- The text with something put before each of its lines, by their places. -/
def indented (indents : Nat → String) (text : String) : String :=
  String.ofList (['\n'].intercalate (indentedLines indents (text.toList.splitOn '\n')))

/-- As long as no line feed is put before a line, there are no other lines. -/
theorem splitOn_indented {indents : Nat → String} (h : ∀ i, '\n' ∉ (indents i).toList) (text : String) :
    (indented indents text).toList.splitOn '\n' = indentedLines indents (text.toList.splitOn '\n') := by
  rw [indented, String.toList_ofList]
  refine List.splitOn_intercalate '\n' (fun line hline => ?_) ?_
  · obtain ⟨i, hi, rfl⟩ := List.mem_mapIdx.1 hline
    rw [List.mem_append]
    rintro (hindent | hrest)
    · exact h i hindent
    · exact not_mem_of_mem_splitOn (List.getElem_mem hi) hrest
  · rw [indentedLines, Ne, List.mapIdx_eq_nil_iff]
    exact List.splitOn_ne_nil '\n' text.toList

/-- The sites of a script are those of its lines, numbered from one on. -/
theorem sites_eq_mapIdx (text : String) :
    sites text = (text.toList.splitOn '\n').mapIdx fun i line => lineSite (i + 1) line := by
  rw [sites, sitesFrom_eq, List.mapIdx_eq_zipIdx_map]

/-- **Scripts indented anew**: whatever blanks are put before the lines of a script, other than line feeds, the same is
found in it. -/
theorem extract_indented {indents : Nat → String}
    (h : ∀ i, ∀ c ∈ (indents i).toList, isBlank c = true ∧ c ≠ '\n') (r : Registry) (target : Tier)
    (file text : String) :
    extract r target file (indented indents text) = extract r target file text := by
  have hnewline : ∀ i, '\n' ∉ (indents i).toList := fun i hmem => (h i _ hmem).2 rfl
  have hline (i : Nat) (line : List Char) :
      lineSite (i + 1) ((indents i).toList ++ line) = lineSite (i + 1) line :=
    lineSite_indent (fun c hc => (h i c hc).1) (i + 1) line
  have hsites : sites (indented indents text) = sites text := by
    rw [sites_eq_mapIdx, splitOn_indented hnewline, indentedLines, List.mapIdx_mapIdx, sites_eq_mapIdx]
    congr 1
    funext i line
    exact hline i line
  rw [extract, extract, hsites]

/-- Blanks of several kinds, others before each line. -/
def strangeIndents : Nat → String
  | 0 => "\u2003\t"
  | 1 => "\r\x1c"
  | _ => ""

/-- Features that are found by what stands at the start of a line. -/
def lineStartFeatures : List Feature :=
  [⟨"es6-class", "Classes", .widelyAvailable, [], [], []⟩, ⟨"array-map", "map", .newlyAvailable, [], [], []⟩]

/-- A script in which patterns look back from the start of both lines. -/
def lookingBack : String := "class A \x7b\n.map(f)"

theorem extract_indented_of_strangeIndents :
    (∀ i, ∀ c ∈ (strangeIndents i).toList, isBlank c = true ∧ c ≠ '\n') ∧
      extract (.ofFeatures lineStartFeatures) .widelyAvailable "a.js" (indented strangeIndents lookingBack) =
        extract (.ofFeatures lineStartFeatures) .widelyAvailable "a.js" lookingBack ∧
      (extract (.ofFeatures lineStartFeatures) .widelyAvailable "a.js" lookingBack).usages.map
        (fun u => (u.line, u.featureId)) = [(1, "es6-class"), (2, "array-map")] := by
  have hall : ∀ i, ((strangeIndents i).toList.all fun c => isBlank c && c != '\n') = true := by
    intro i
    match i with
    | 0 => decide
    | 1 => decide
    | _ + 2 => rfl
  have hblank : ∀ i, ∀ c ∈ (strangeIndents i).toList, isBlank c = true ∧ c ≠ '\n' := by
    intro i c hc
    simpa using List.all_eq_true.1 (hall i) c hc
  exact ⟨hblank, extract_indented hblank _ _ _ _, by decide +kernel⟩

end FeatureAudit.Script
