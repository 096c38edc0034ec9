import FeatureAudit.Proofs.Script.LineUses
import FeatureAudit.Text.Utf8

/-!
# Scripts with carriage returns

A script is read from a file with every line end made a line feed. Without that, a line can keep the carriage
return before its line feed. A carriage return is a blank, and of all patterns only the one for `await` can end
in a blank, so nothing else notices it at the end of a line. Anywhere else it parts a line in two.

* **`ignoresReturn`**, **`occursFrom_concat_return`** — the patterns to which a carriage return at the end of a line
  makes no difference.
* **`mem_rules_cases`** — these are all but one.
* **`splitOn_universalNewlines`** — the lines of a script are those of its file without the carriage returns.
* **`EndsLinesPlainly`**, **`extract_universalNewlines`** — scripts in which the same is found.
-/
namespace FeatureAudit.Script

open FeatureAudit.Text

variable {pattern : Pattern} {accepts : Char → Bool}

/-! ## Patterns at the end of a line -/

/-- The pattern fits nowhere at the end of a line. -/
def needsMore : Pattern → Bool
  | [] => false
  | .one _ :: _ => true
  | .many _ :: rest => needsMore rest
  | .anyOf texts :: _ => texts.all fun text => !text.isEmpty
  | .boundary :: rest => needsMore rest
  | .notAfter _ :: rest => needsMore rest
  | .notAfterOne _ :: rest => needsMore rest
  | .notBefore _ :: rest => needsMore rest

/-- A carriage return at the end of a line makes no difference to the pattern: it does not accept one, or it
needs more after it. -/
def ignoresReturn : Pattern → Bool
  | [] => true
  | .one accepts :: rest => (!accepts '\r' || needsMore rest) && ignoresReturn rest
  | .many accepts :: rest => (!accepts '\r' || needsMore rest) && ignoresReturn rest
  | .anyOf texts :: rest => (texts.all fun text => !text.contains '\r') && ignoresReturn rest
  | .boundary :: rest => ignoresReturn rest
  | .notAfter _ :: rest => ignoresReturn rest
  | .notAfterOne _ :: rest => ignoresReturn rest
  | .notBefore accepts :: rest => !accepts '\r' && ignoresReturn rest

/-- A pattern that needs more does not match at the end of a line. The cases are the pieces, of which only those that
read something count. -/
theorem matchesHere_nil_of_needsMore (h : needsMore pattern = true) (before : List Char) :
    matchesHere pattern before [] = false := by
  induction pattern generalizing before with
  | nil => exact absurd h (by simp [needsMore])
  | cons piece rest ih =>
    cases piece with
    | one accepts => rfl
    | many accepts => exact ih h before
    | anyOf texts =>
      rw [matchesHere, List.any_eq_false]
      intro text htext
      have hne : text ≠ [] := by simpa using List.all_eq_true.1 h text htext
      cases text with
      | nil => exact absurd rfl hne
      | cons c text => simp [List.isPrefixOf?]
    -- pieces that take no character leave the end of the text to the rest of the pattern
    | boundary => rw [matchesHere, ih h, Bool.and_false]
    | notAfter text => rw [matchesHere, ih h, Bool.and_false]
    | notAfterOne accepts => rw [matchesHere, ih h, Bool.and_false]
    | notBefore accepts => rw [matchesHere, ih h, Bool.and_false]

/-- A look at the next character is not changed by a return at the end, if it rejects returns. -/
theorem headIs_concat_return (h : accepts '\r' = false) (after : List Char) :
    headIs accepts (after ++ ['\r']) = headIs accepts after := by
  cases after with
  | nil => exact h
  | cons c after => rfl

/-- A run of characters is read alike with a return at the end, if what follows the run is and does not match where
nothing is left. A run that takes the return in has nothing behind it. -/
theorem manyThen_concat_return {next : List Char → List Char → Bool}
    (hnext : ∀ before after, next before (after ++ ['\r']) = next before after)
    (hend : accepts '\r' = true → ∀ before, next before [] = false) (before after : List Char) :
    manyThen accepts next before (after ++ ['\r']) = manyThen accepts next before after := by
  induction after generalizing before with
  | nil =>
    have hreturn : next before ['\r'] = next before [] := hnext before []
    rw [List.nil_append, manyThen, manyThen, manyThen, hreturn]
    cases haccepts : accepts '\r' with
    | false => simp
    | true => simp [hend haccepts]
  | cons c after ih =>
    have hhere : next before (c :: (after ++ ['\r'])) = next before (c :: after) :=
      hnext before (c :: after)
    rw [List.cons_append, manyThen, manyThen, hhere, ih]

/-- A text without returns is in front of a line whether or not the line ends with one. -/
theorem isPrefixOf?_concat_return {text : List Char} (h : '\r' ∉ text) (after : List Char) :
    text.isPrefixOf? (after ++ ['\r']) = (text.isPrefixOf? after).map (· ++ ['\r']) := by
  induction text generalizing after with
  | nil => rfl
  | cons c text ih =>
    have hc : c ≠ '\r' := fun heq => h (heq ▸ List.mem_cons_self)
    have htext : '\r' ∉ text := fun hmem => h (List.mem_cons_of_mem c hmem)
    cases after with
    | nil => simp [List.isPrefixOf?, hc]
    | cons d after =>
      rw [List.cons_append, List.isPrefixOf?, List.isPrefixOf?, ih htext]
      split <;> rfl

/-- A carriage return at the end of a line makes no difference at any place before it. The induction is on the
pattern, one case for each kind of piece. -/
theorem matchesHere_concat_return (h : ignoresReturn pattern = true) (before after : List Char) :
    matchesHere pattern before (after ++ ['\r']) = matchesHere pattern before after := by
  induction pattern generalizing before after with
  | nil => rfl
  | cons piece rest ih =>
    cases piece with
    | one accepts =>
      obtain ⟨hreturn, hrest⟩ := (Bool.and_eq_true _ _).mp h
      cases after with
      | nil =>
        -- there is nothing but the carriage return to read
        show (accepts '\r' && matchesHere rest ('\r' :: before) []) = false
        rcases (Bool.or_eq_true _ _).mp hreturn with hreturn | hmore
        · simp_all
        · rw [matchesHere_nil_of_needsMore hmore, Bool.and_false]
      | cons c after =>
        show (accepts c && matchesHere rest (c :: before) (after ++ ['\r'])) = _
        rw [ih hrest]
        rfl
    | many accepts =>
      obtain ⟨hreturn, hrest⟩ := (Bool.and_eq_true _ _).mp h
      refine manyThen_concat_return (ih hrest) (fun haccepts before => ?_) before after
      rcases (Bool.or_eq_true _ _).mp hreturn with hreturn | hmore
      · simp_all
      · exact matchesHere_nil_of_needsMore hmore before
    | anyOf texts =>
      obtain ⟨htexts, hrest⟩ := (Bool.and_eq_true _ _).mp h
      rw [matchesHere, matchesHere, Bool.eq_iff_iff, List.any_eq_true, List.any_eq_true]
      refine exists_congr fun text => and_congr_right fun htext => ?_
      have hno : '\r' ∉ text := by simpa using List.all_eq_true.1 htexts text htext
      rw [isPrefixOf?_concat_return hno]
      cases text.isPrefixOf? after with
      | none => rfl
      | some after' => simp [ih hrest]
    | boundary =>
      have hword : atBoundary before (after ++ ['\r']) = atBoundary before after := by
        rw [atBoundary, atBoundary, headIs_concat_return (by decide)]
      rw [matchesHere, matchesHere, ih h, hword]
    | notAfter text => rw [matchesHere, matchesHere, ih h]
    | notAfterOne accepts => rw [matchesHere, matchesHere, ih h]
    | notBefore accepts =>
      obtain ⟨hreturn, hrest⟩ := (Bool.and_eq_true _ _).mp h
      rw [matchesHere, matchesHere, ih hrest, headIs_concat_return (by simpa using hreturn)]

/-- A carriage return at the end of a line makes no difference to where such a pattern occurs. -/
theorem occursFrom_concat_return (hmore : needsMore pattern = true)
    (hignores : ignoresReturn pattern = true) (before after : List Char) :
    occursFrom pattern before (after ++ ['\r']) = occursFrom pattern before after := by
  induction after generalizing before with
  | nil =>
    have hreturn : matchesHere pattern before ['\r'] = matchesHere pattern before [] :=
      matchesHere_concat_return hignores before []
    rw [List.nil_append, occursFrom, occursFrom, occursFrom, hreturn,
      matchesHere_nil_of_needsMore hmore ('\r' :: before), Bool.or_false]
  | cons c after ih =>
    have hhere : matchesHere pattern before (c :: (after ++ ['\r'])) =
        matchesHere pattern before (c :: after) :=
      matchesHere_concat_return hignores before (c :: after)
    rw [List.cons_append, occursFrom, occursFrom, hhere, ih]

/-! ## The pattern that ends in a blank -/

/-- The characters of a text, one after the other, match exactly where the text stands. -/
theorem matchesHere_texts_iff {text : List Char} {rest : Pattern} {before after : List Char} :
    matchesHere ((text.map fun c => .one (· == c)) ++ rest) before after = true ↔
      ∃ after', after = text ++ after' ∧ matchesHere rest (text.reverse ++ before) after' = true := by
  induction text generalizing before after with
  | nil => simp
  | cons c text ih =>
    cases after with
    | nil => simp [matchesHere]
    | cons d after =>
      rw [List.map_cons, List.cons_append, matchesHere, Bool.and_eq_true, ih]
      constructor
      · rintro ⟨hd, after', rfl, hrest⟩
        obtain rfl := beq_iff_eq.1 hd
        exact ⟨after', rfl, by simpa using hrest⟩
      · rintro ⟨after', heq, hrest⟩
        obtain ⟨rfl, rfl⟩ := List.cons.inj heq
        exact ⟨by simp, after', rfl, by simpa using hrest⟩

/-- Any number of characters of a class, and what comes after them. -/
theorem manyThen_iff {accepts : Char → Bool} {next : List Char → List Char → Bool} {before after : List Char} :
    manyThen accepts next before after = true ↔
      ∃ read rest, after = read ++ rest ∧ (∀ c ∈ read, accepts c = true) ∧
        next (read.reverse ++ before) rest = true := by
  induction after generalizing before with
  | nil =>
    rw [manyThen]
    constructor
    · intro h
      exact ⟨[], [], rfl, by simp, h⟩
    · rintro ⟨read, rest, heq, -, h⟩
      obtain ⟨rfl, rfl⟩ := List.nil_eq_append_iff.1 heq
      exact h
  | cons c after ih =>
    rw [manyThen, Bool.or_eq_true, Bool.and_eq_true, ih]
    constructor
    · -- the run stops before `c`, or it takes `c` and goes on
      rintro (h | ⟨hc, read, rest, rfl, hread, h⟩)
      · exact ⟨[], c :: after, rfl, by simp, h⟩
      · exact ⟨c :: read, rest, rfl, List.forall_mem_cons.2 ⟨hc, hread⟩, by simpa using h⟩
    · rintro ⟨read, rest, heq, hread, h⟩
      cases read with
      | nil =>
        obtain rfl := heq
        exact Or.inl h
      | cons d read =>
        obtain ⟨rfl, rfl⟩ := List.cons.inj heq
        obtain ⟨hc, hread⟩ := List.forall_mem_cons.1 hread
        exact Or.inr ⟨hc, read, rest, rfl, hread, by simpa using h⟩

/-- A run with nothing behind it always matches: it may be empty. -/
theorem manyThen_nil_pattern (before after : List Char) :
    manyThen accepts (matchesHere []) before after = true :=
  manyThen_iff.2 ⟨[], after, rfl, by simp, by rw [matchesHere]⟩

/-- The rule for `await`, which ends in a blank. -/
def awaitRule : Rule := ⟨inRow [wordFrom "await", someBlanks], "async-await"⟩

/-- The rule for awaited values matches where no word goes on before the place and the keyword stands there with a
blank behind it. -/
theorem matchesHere_await_iff {before after : List Char} :
    matchesHere awaitRule.pattern before after = true ↔
      headIs isWord before = false ∧
        ∃ c rest, after = "await".toList ++ c :: rest ∧ isBlank c = true := by
  have hpattern : awaitRule.pattern =
      .boundary :: (("await".toList.map fun c => .one (· == c)) ++ someBlanks) := rfl
  rw [hpattern, matchesHere, Bool.and_eq_true, matchesHere_texts_iff]
  have hblanks (before after : List Char) : matchesHere someBlanks before after = true ↔
      ∃ c rest, after = c :: rest ∧ isBlank c = true := by
    cases after with
    | nil => simp [someBlanks, matchesHere]
    | cons c after =>
      rw [someBlanks, matchesHere, matchesHere, manyThen_nil_pattern]
      simp
  -- the word starts with a letter, so nothing of a word is before it
  have hstart (after' : List Char) :
      atBoundary before ("await".toList ++ after') = true ↔ headIs isWord before = false := by
    have ha : headIs isWord ("await".toList ++ after') = true := by
      show isWord 'a' = true
      decide
    rw [atBoundary, ha]
    simp
  constructor
  · rintro ⟨hboundary, after', rfl, hrest⟩
    obtain ⟨c, rest, rfl, hc⟩ := (hblanks _ _).1 hrest
    exact ⟨(hstart _).1 hboundary, c, rest, rfl, hc⟩
  · rintro ⟨hbefore, c, rest, rfl, hc⟩
    exact ⟨(hstart _).2 hbefore, c :: rest, rfl, (hblanks _ _).2 ⟨c, rest, rfl, hc⟩⟩

/-- A pattern occurs behind a place exactly if it matches after some characters were skipped. -/
theorem occursFrom_iff {before after : List Char} :
    occursFrom pattern before after = true ↔
      ∃ skipped rest, after = skipped ++ rest ∧
        matchesHere pattern (skipped.reverse ++ before) rest = true := by
  induction after generalizing before with
  | nil =>
    rw [occursFrom]
    constructor
    · intro h
      exact ⟨[], [], rfl, h⟩
    · rintro ⟨skipped, rest, heq, h⟩
      obtain ⟨rfl, rfl⟩ := List.nil_eq_append_iff.1 heq
      exact h
  | cons c after ih =>
    rw [occursFrom, Bool.or_eq_true, ih]
    constructor
    · -- the pattern matches here, or `c` is skipped
      rintro (h | ⟨skipped, rest, rfl, h⟩)
      · exact ⟨[], c :: after, rfl, h⟩
      · exact ⟨c :: skipped, rest, rfl, by simpa using h⟩
    · rintro ⟨skipped, rest, heq, h⟩
      cases skipped with
      | nil =>
        obtain rfl := heq
        exact Or.inl h
      | cons d skipped =>
        obtain ⟨rfl, rfl⟩ := List.cons.inj heq
        exact Or.inr ⟨skipped, rest, rfl, by simpa using h⟩

/-- The line ends in the word `await` and a carriage return. -/
def EndsInAwait (line : List Char) : Prop :=
  ∃ start, line = start ++ "await".toList ++ ['\r'] ∧ headIs isWord start.reverse = false

/-- A line that ends in the keyword and a return ends in these characters. -/
theorem EndsInAwait.isSuffix {line : List Char} (h : EndsInAwait line) :
    "await\r".toList <:+ line := by
  obtain ⟨start, rfl, -⟩ := h
  exact ⟨start, by simp⟩

/-- The rule for awaited values is the one that a return at the end can make fire, and it does so only behind the
keyword itself. -/
theorem occurs_await_concat_return {line : List Char} (h : ¬ EndsInAwait (line ++ ['\r'])) :
    occurs awaitRule.pattern (line ++ ['\r']) = occurs awaitRule.pattern line := by
  rw [Bool.eq_iff_iff, occurs, occurs, occursFrom_iff, occursFrom_iff]
  simp only [List.append_nil, matchesHere_await_iff]
  constructor
  · rintro ⟨skipped, rest, heq, hword, c, tail, rfl, hc⟩
    rcases List.eq_nil_or_concat tail with rfl | ⟨tail, last, rfl⟩
    · -- the blank after the word is the carriage return
      rw [← List.append_assoc] at heq
      obtain ⟨rfl, hlast⟩ := List.append_inj' heq rfl
      exact absurd ⟨skipped, rfl, hword⟩ h
    · rw [List.concat_eq_append, ← List.cons_append, ← List.append_assoc, ← List.append_assoc] at heq
      obtain ⟨rfl, -⟩ := List.append_inj' heq rfl
      exact ⟨skipped, "await".toList ++ c :: tail, by simp, hword, c, tail, rfl, hc⟩
  · rintro ⟨skipped, rest, rfl, hword, c, tail, rfl, hc⟩
    exact ⟨skipped, "await".toList ++ c :: (tail ++ ['\r']), by simp, hword, c, tail ++ ['\r'], rfl, hc⟩

/-! ## The table -/

/-- The rules are listed with the one for awaited values taken out of its place. -/
theorem rules_eq_append :
    rules = languageRules.take 4 ++ awaitRule :: (languageRules.drop 5 ++ apiRules ++ methodRules) :=
  rfl

/-- To every rule but one a carriage return at the end of a line makes no difference. -/
theorem mem_rules_cases {rule : Rule} (h : rule ∈ rules) :
    rule = awaitRule ∨ needsMore rule.pattern = true ∧ ignoresReturn rule.pattern = true := by
  have hothers : ((languageRules.take 4 ++ (languageRules.drop 5 ++ apiRules ++ methodRules)).all
      fun rule => needsMore rule.pattern && ignoresReturn rule.pattern) = true := by
    decide +kernel
  rw [rules_eq_append, List.mem_append, List.mem_cons] at h
  have hcases : rule = awaitRule ∨
      rule ∈ languageRules.take 4 ++ (languageRules.drop 5 ++ apiRules ++ methodRules) := by
    rcases h with h | h | h
    · exact Or.inr (List.mem_append_left _ h)
    · exact Or.inl h
    · exact Or.inr (List.mem_append_right _ h)
  rcases hcases with hawait | hother
  · exact Or.inl hawait
  · exact Or.inr ((Bool.and_eq_true _ _).mp (List.all_eq_true.1 hothers rule hother))

/-- A line gives the same tokens with a return at its end unless it ends in the keyword. -/
theorem lineTokens_concat_return {line : List Char} (h : ¬ EndsInAwait (line ++ ['\r'])) :
    lineTokens (line ++ ['\r']) = lineTokens line := by
  rw [lineTokens, lineTokens]
  congr 1
  refine List.filter_congr fun rule hrule => ?_
  rcases mem_rules_cases hrule with rfl | ⟨hmore, hignores⟩
  · exact occurs_await_concat_return h
  · exact occursFrom_concat_return hmore hignores [] line

/-! ## Lines -/

/-- A line without the carriage return that it ends in. -/
def withoutReturn (line : List Char) : List Char :=
  if line.getLast? = some '\r' then line.dropLast else line

/-- A line has the same site without the return at its end, unless it ends in the keyword. -/
theorem lineSite_withoutReturn {line : List Char} (h : ¬ EndsInAwait line) (number : Nat) :
    lineSite number (withoutReturn line) = lineSite number line := by
  rw [withoutReturn]
  split
  · rename_i hlast
    obtain ⟨line, rfl⟩ := List.getLast?_eq_some_iff.1 hlast
    have hstrip : stripChars (line ++ ['\r']) = stripChars line :=
      stripChars_concat_blank line (by decide)
    have hcode : isCode (line ++ ['\r']) = isCode line := by
      rw [isCode, isCode, isComment, isComment, hstrip]
    rw [List.dropLast_concat, lineSite, lineSite, hstrip, hcode, lineTokens_concat_return h]
  · rfl

/-- Lines that lose the return at their ends make the same sites, if none of them ends in `await`: a return is the
blank that this word has to be followed by, and no other rule asks for one. -/
theorem sitesFrom_withoutReturn {ls : List (List Char)} (h : ∀ line ∈ ls, ¬ EndsInAwait line)
    (number : Nat) : sitesFrom number (ls.map withoutReturn) = sitesFrom number ls := by
  induction ls generalizing number with
  | nil => rfl
  | cons line rest ih =>
    obtain ⟨hline, hrest⟩ := List.forall_mem_cons.1 h
    rw [List.map_cons, sitesFrom, sitesFrom, lineSite_withoutReturn hline, ih hrest]

/-- Every carriage return of a text comes before a line feed. -/
def ReturnsEndLines (cs : List Char) : Prop :=
  ∀ i < cs.length, cs[i]? = some '\r' → cs[i + 1]? = some '\n'

/-- If returns stand before line feeds only, they do so behind the first character too. -/
theorem ReturnsEndLines.tail {c : Char} {cs : List Char} (h : ReturnsEndLines (c :: cs)) :
    ReturnsEndLines cs := by
  intro i hi hreturn
  have hwithin : i + 1 < (c :: cs).length := by
    rw [List.length_cons]
    omega
  have hnext : (c :: cs)[i + 1 + 1]? = some '\n' := h (i + 1) hwithin hreturn
  exact hnext

/-- A return in front is followed by a line feed. -/
theorem ReturnsEndLines.head {cs : List Char} (h : ReturnsEndLines ('\r' :: cs)) :
    ∃ rest, cs = '\n' :: rest := by
  have hnext : cs[0]? = some '\n' := h 0 (Nat.zero_lt_succ _) rfl
  cases cs with
  | nil => exact absurd hnext (by simp)
  | cons c rest =>
    obtain rfl := Option.some.inj hnext
    exact ⟨rest, rfl⟩

/-- A character in front that is no return stays, whatever is taken off at the end of the line. -/
theorem withoutReturn_cons {c : Char} (hc : c ≠ '\r') (line : List Char) :
    withoutReturn (c :: line) = c :: withoutReturn line := by
  cases line with
  | nil => simp [withoutReturn, hc]
  | cons d line =>
    rw [withoutReturn, withoutReturn, List.getLast?_cons_cons]
    split <;> rfl

/-- The lines of a script are those of its file without the carriage returns. The induction is on the text, as
line ends are read. -/
theorem splitOn_universalNewlines {cs : List Char} (h : ReturnsEndLines cs) :
    (universalNewlines cs).splitOn '\n' = (cs.splitOn '\n').map withoutReturn := by
  induction cs using universalNewlines.induct with
  | case1 => rfl
  | case2 rest ih =>
    have hrest : (universalNewlines rest).splitOn '\n' = (rest.splitOn '\n').map withoutReturn := ih h.tail.tail
    have hreturn : ('\r' :: '\n' :: rest).splitOn '\n' = ['\r'] :: rest.splitOn '\n' :=
      splitOn_cons_of_ne (by decide) (splitOn_cons_self '\n' rest)
    rw [universalNewlines, splitOn_cons_self, hrest, hreturn]
    rfl
  | case3 c rest hpair ih =>
    have hrest : (universalNewlines rest).splitOn '\n' = (rest.splitOn '\n').map withoutReturn := ih h.tail
    have hc : c ≠ '\r' := by
      rintro rfl
      -- a line feed would follow, which is the case before
      obtain ⟨rest', rfl⟩ := h.head
      exact hpair rest' rfl rfl
    rw [universalNewlines.eq_3 c rest hpair, if_neg hc]
    by_cases hnewline : c = '\n'
    · rw [hnewline, splitOn_cons_self, splitOn_cons_self, hrest]
      rfl
    · obtain ⟨line, more, hlines⟩ := List.exists_cons_of_ne_nil (List.splitOn_ne_nil '\n' rest)
      rw [hlines, List.map_cons] at hrest
      rw [splitOn_cons_of_ne hnewline hrest, splitOn_cons_of_ne hnewline hlines, List.map_cons,
        withoutReturn_cons hc]

/-! ## Scripts -/

/-- A script ends its lines plainly: every carriage return comes before a line feed, and no line ends in the
word `await` and a carriage return. -/
structure EndsLinesPlainly (text : String) : Prop where
  returns : ReturnsEndLines text.toList
  awaits : ∀ line ∈ text.toList.splitOn '\n', ¬ EndsInAwait line

/-- A text without returns ends its lines plainly, so it is read from a file as it is given. -/
theorem endsLinesPlainly_of_no_return {text : String} (h : '\r' ∉ text.toList) :
    EndsLinesPlainly text := by
  constructor
  · intro i _ hreturn
    exact absurd (List.mem_of_getElem? hreturn) h
  · rintro line hline ⟨start, rfl, -⟩
    exact h (mem_of_mem_splitOn hline (by simp))

/-- In a script that ends its lines plainly the same is found as in its file. -/
theorem extract_universalNewlines {text : String} (h : EndsLinesPlainly text) (r : Registry)
    (target : Tier) (file : String) :
    extract r target file (String.ofList (universalNewlines text.toList)) =
      extract r target file text := by
  have hsites : sites (String.ofList (universalNewlines text.toList)) = sites text := by
    rw [sites, sites, String.toList_ofList, splitOn_universalNewlines h.returns,
      sitesFrom_withoutReturn h.awaits]
  rw [extract, extract, hsites]

end FeatureAudit.Script
