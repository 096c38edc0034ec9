import FeatureAudit.Proofs.Script.LineEnds

/-!
# Method calls and their receivers

The rules for methods of arrays and strings look for a dot, a name and an opening bracket, with blanks before the
bracket, and refuse to stand after the text `Object`. What they look at is the characters before the dot and not the
receiver that these end: a call is missed for every receiver whose name ends in that text.

* **`IsIdentifier`**, **`callLine`** — receivers, and lines that start with the call of a method.
* **`Rule.DetectsMethod`**, **`Rule.DetectsMethod.pattern_eq`** — the rules for methods of arrays and strings.
* **`matchesHere_methodCall_iff`** — where the pattern of such a rule fits.
* **`occurs_methodCall_callLine_iff`** — whether it occurs in a line that starts with a call.
* **`method_call_seen_iff`** — which receivers the rules see.
* **`lookalike_receiver_missed`** — a receiver other than `Object` that they do not see.
-/
namespace FeatureAudit.Script

open FeatureAudit.Text

/-! ## Calls -/

/-- A name that a receiver may have: letters, digits, underscores and dollar signs, of which the first is no digit. -/
def IsIdentifier (cs : List Char) : Prop :=
  ∃ c rest, cs = c :: rest ∧ isIdentifierStart c = true ∧
    ∀ d ∈ rest, isIdentifierStart d = true ∨ d.isDigit = true

/-- A test that runs tells of a text that it is an identifier: its first character may start one, and the others may
go on in one. -/
theorem isIdentifier_of_all {c : Char} {rest : List Char} (hc : isIdentifierStart c = true)
    (hrest : (rest.all fun d => isIdentifierStart d || d.isDigit) = true) : IsIdentifier (c :: rest) :=
  ⟨c, rest, rfl, hc, by simpa using hrest⟩

/-- A line that starts with the call of a method: its receiver, the name after a dot, blanks, and what comes after
the opening bracket. -/
def callLine (receiver : List Char) (method : String) (blanks tail : List Char) : List Char :=
  receiver ++ '.' :: (method.toList ++ (blanks ++ '(' :: tail))

/-- The rule of the table for a method of arrays, or for a method of strings. -/
structure Rule.DetectsMethod (rule : Rule) (method : String) : Prop where
  mem : rule ∈ rules
  token : method ∈ arrayMethods ∧ rule.token = "array-" ++ method ∨
    method ∈ stringMethods ∧ rule.token = "string-" ++ method

/-- For every method of an array or a string that is looked for there is a rule that detects it. -/
theorem exists_detectsMethod {method : String} (h : method ∈ arrayMethods ∨ method ∈ stringMethods) :
    ∃ rule : Rule, rule.DetectsMethod method := by
  rcases h with harray | hstring
  · refine ⟨⟨methodCall method, "array-" ++ method⟩, ?_, Or.inl ⟨harray, rfl⟩⟩
    exact List.mem_append_right _ (List.mem_append_left _
      (List.mem_append_left _ (List.mem_map_of_mem harray)))
  · refine ⟨⟨methodCall method, "string-" ++ method⟩, ?_, Or.inr ⟨hstring, rfl⟩⟩
    exact List.mem_append_right _ (List.mem_append_left _
      (List.mem_append_right _ (List.mem_map_of_mem hstring)))

/-- No other rule has a token of that kind. -/
theorem mem_methodRules_of_prefix {rule : Rule} (h : rule ∈ rules) {kind : String}
    (hkind : kind = "array-" ∨ kind = "string-") (hstarts : kind.toList <+: rule.token.toList) :
    rule ∈ methodRules := by
  have hothers : ((languageRules ++ apiRules).all fun rule =>
      !"array-".toList.isPrefixOf rule.token.toList && !"string-".toList.isPrefixOf rule.token.toList) = true := by
    decide
  rcases List.mem_append.1 h with hother | hmethod
  · have htoken := List.all_eq_true.1 hothers rule hother
    rw [Bool.and_eq_true, Bool.not_eq_true', Bool.not_eq_true'] at htoken
    rcases hkind with rfl | rfl
    · exact absurd (List.isPrefixOf_iff_prefix.2 hstarts) (Bool.eq_false_iff.1 htoken.1)
    · exact absurd (List.isPrefixOf_iff_prefix.2 hstarts) (Bool.eq_false_iff.1 htoken.2)
  · exact hmethod

/-- The rule for a method looks for a call of that method. -/
theorem Rule.DetectsMethod.pattern_eq {rule : Rule} {method : String} (h : rule.DetectsMethod method) :
    rule.pattern = methodCall method := by
  obtain ⟨hmem, htoken⟩ := h
  have hstarts (kind : String) : kind.toList <+: (kind ++ method).toList := by
    rw [String.toList_append]
    exact List.prefix_append _ _
  have hrule : rule ∈ methodRules := by
    rcases htoken with ⟨-, htoken⟩ | ⟨-, htoken⟩
    · exact mem_methodRules_of_prefix hmem (Or.inl rfl) (htoken ▸ hstarts "array-")
    · exact mem_methodRules_of_prefix hmem (Or.inr rfl) (htoken ▸ hstarts "string-")
  -- kinds of tokens start with different letters, and after the same kind there is the same name
  have hapart {kind kind' m : String} {c d : Char} (hc : kind.toList.head? = some c)
      (hd : kind'.toList.head? = some d) (hne : c ≠ d) : kind ++ m ≠ kind' ++ method := by
    intro heq
    have hhead := congrArg (fun token => token.toList.head?) heq
    simp only [String.toList_append, List.head?_append, hc, hd, Option.some_or, Option.some.injEq] at hhead
    exact hne hhead
  simp only [methodRules, List.mem_append, List.mem_map] at hrule
  rcases hrule with (⟨m, -, rfl⟩ | ⟨m, -, rfl⟩) | ⟨m, -, rfl⟩
  · rcases htoken with ⟨-, htoken⟩ | ⟨-, htoken⟩
    · rw [(String.append_right_inj "array-").1 htoken]
    · exact absurd htoken (hapart rfl rfl (by decide))
  · rcases htoken with ⟨-, htoken⟩ | ⟨-, htoken⟩
    · exact absurd htoken (hapart rfl rfl (by decide))
    · rw [(String.append_right_inj "string-").1 htoken]
  · rcases htoken with ⟨-, htoken⟩ | ⟨-, htoken⟩
    · exact absurd htoken (hapart rfl rfl (by decide))
    · exact absurd htoken (hapart rfl rfl (by decide))

/-! ## Where the pattern of a method fits -/

variable {method called : String} {receiver blanks tail : List Char}

/-- The pattern of a method fits where the call of that method starts with its dot, unless the text `Object` is just
before the dot. -/
theorem matchesHere_methodCall_iff {before after : List Char} :
    matchesHere (methodCall method) before after = true ↔
      ¬ "Object".toList.reverse <+: before ∧
        ∃ blanks tail, (∀ c ∈ blanks, isBlank c = true) ∧ after = callLine [] method blanks tail := by
  have hpattern : methodCall method =
      .notAfter "Object".toList :: (("." ++ method).toList.map (fun c => .one (· == c)) ++ call) := by
    rw [String.toList_append]
    rfl
  -- behind the name come blanks, any number of them, and the bracket
  have hcall (before after : List Char) : matchesHere call before after = true ↔
      ∃ blanks tail, (∀ c ∈ blanks, isBlank c = true) ∧ after = blanks ++ '(' :: tail := by
    have hbracket (before after : List Char) : matchesHere (exactly "(") before after = true ↔
        ∃ tail, after = '(' :: tail := by
      cases after with
      | nil => simp [exactly, matchesHere]
      | cons c after => simp [exactly, matchesHere]
    show manyThen isBlank (matchesHere (exactly "(")) before after = true ↔ _
    rw [manyThen_iff]
    constructor
    · rintro ⟨blanks, rest, rfl, hblanks, hrest⟩
      obtain ⟨tail, rfl⟩ := (hbracket _ _).1 hrest
      exact ⟨blanks, tail, hblanks, rfl⟩
    · rintro ⟨blanks, tail, hblanks, rfl⟩
      exact ⟨blanks, '(' :: tail, rfl, hblanks, (hbracket _ _).2 ⟨tail, rfl⟩⟩
  rw [hpattern, matchesHere, Bool.and_eq_true, Bool.not_eq_true', Bool.eq_false_iff, Ne,
    List.isPrefixOf_iff_prefix, matchesHere_texts_iff]
  refine and_congr_right fun _ => ?_
  constructor
  · rintro ⟨after', rfl, hrest⟩
    obtain ⟨blanks, tail, hblanks, rfl⟩ := (hcall _ _).1 hrest
    exact ⟨blanks, tail, hblanks, by rw [String.toList_append]; rfl⟩
  · rintro ⟨blanks, tail, hblanks, rfl⟩
    exact ⟨blanks ++ '(' :: tail, by rw [String.toList_append]; rfl, (hcall _ _).2 ⟨blanks, tail, hblanks, rfl⟩⟩

theorem matchesHere_methodCall_of_ne_dot {c : Char} (h : c ≠ '.') (before after : List Char) :
    matchesHere (methodCall method) before (c :: after) = false := by
  rw [Bool.eq_false_iff, Ne, matchesHere_methodCall_iff]
  rintro ⟨-, blanks, tail, -, heq⟩
  exact h (List.cons.inj heq).1

/-- A call of a method is sought from dot to dot: characters before the first dot start no match, and are only
remembered as what stands before. -/
theorem occursFrom_methodCall_skip {skipped : List Char} (h : '.' ∉ skipped) (before after : List Char) :
    occursFrom (methodCall method) before (skipped ++ after) =
      occursFrom (methodCall method) (skipped.reverse ++ before) after := by
  induction skipped generalizing before with
  | nil => rfl
  | cons c skipped ih =>
    have hc : c ≠ '.' := fun heq => h (heq ▸ List.mem_cons_self)
    have hskipped : '.' ∉ skipped := fun hmem => h (List.mem_cons_of_mem c hmem)
    rw [List.cons_append, occursFrom, matchesHere_methodCall_of_ne_dot hc, Bool.false_or, ih hskipped,
      List.reverse_cons, List.append_assoc, List.singleton_append]

/-- A text without brackets cannot reach over one. -/
theorem prefix_append_bracket_iff {text : List Char} (h : '(' ∉ text) (before outside : List Char) :
    text <+: before ++ '(' :: outside ↔ text <+: before := by
  refine ⟨fun hstarts => ?_, fun hstarts => hstarts.trans (List.prefix_append _ _)⟩
  rcases List.prefix_or_prefix_of_prefix hstarts (List.prefix_append before _) with hwithin | ⟨inside, rfl⟩
  · exact hwithin
  · cases inside with
    | nil => simp
    | cons c inside =>
      -- what is left of the text would start with the bracket
      obtain ⟨rest, hrest⟩ := (List.prefix_append_right_inj before).1 hstarts
      obtain ⟨rfl, -⟩ := List.cons.inj hrest
      exact absurd (by simp) h

/-- After an opening bracket calls are found as at the start of a line. -/
theorem occursFrom_methodCall_bracket (before outside after : List Char) :
    occursFrom (methodCall method) (before ++ '(' :: outside) after =
      occursFrom (methodCall method) before after := by
  have hhere (before after : List Char) : matchesHere (methodCall method) (before ++ '(' :: outside) after =
      matchesHere (methodCall method) before after := by
    rw [Bool.eq_iff_iff, matchesHere_methodCall_iff, matchesHere_methodCall_iff,
      prefix_append_bracket_iff (by decide)]
  induction after generalizing before with
  | nil => rw [occursFrom, occursFrom, hhere]
  | cons c after ih => rw [occursFrom, occursFrom, hhere, ← List.cons_append, ih]

/-! ## Calls at the start of a line -/

/-- An identifier has no dot in it, so the dot behind a receiver is the first one of the line. -/
theorem dot_not_mem_of_isIdentifier (h : IsIdentifier receiver) : '.' ∉ receiver := by
  obtain ⟨c, rest, rfl, hc, hrest⟩ := h
  intro hmem
  rcases List.mem_cons.1 hmem with rfl | hmem
  · exact absurd hc (by decide)
  · exact absurd (hrest '.' hmem) (by decide)

theorem isAlpha_of_mem_methods (h : called ∈ arrayMethods ∨ called ∈ stringMethods) :
    ∀ c ∈ called.toList, c.isAlpha = true := by
  have hall : ((arrayMethods ++ stringMethods).all fun m => m.toList.all Char.isAlpha) = true := by
    decide
  exact List.all_eq_true.1 (List.all_eq_true.1 hall called (List.mem_append.2 h))

/-- The name that is called is what stands before the first character that is no letter. -/
theorem takeWhile_isAlpha_call (hmethod : ∀ c ∈ method.toList, c.isAlpha = true)
    (hblanks : ∀ c ∈ blanks, isBlank c = true) :
    (method.toList ++ (blanks ++ '(' :: tail)).takeWhile Char.isAlpha = method.toList := by
  have hend : (blanks ++ '(' :: tail).takeWhile Char.isAlpha = [] := by
    cases blanks with
    | nil => rfl
    | cons c blanks =>
      have hletters : (blankChars.all fun c => !c.isAlpha) = true := by decide
      have hc := List.all_eq_true.1 hletters c (mem_blankChars_of_isBlank (hblanks c List.mem_cons_self))
      rw [List.cons_append, List.takeWhile_cons_of_neg (by simpa using hc)]
  rw [List.takeWhile_append_of_pos hmethod, hend, List.append_nil]

/-- In a line that starts with a call, the pattern of a method occurs if that method is called, and not with the text
`Object` before the dot, or else after the opening bracket. -/
theorem occurs_methodCall_callLine_iff (hreceiver : '.' ∉ receiver)
    (hmethod : ∀ c ∈ method.toList, c.isAlpha = true) (hcalled : ∀ c ∈ called.toList, c.isAlpha = true)
    (hblanks : ∀ c ∈ blanks, isBlank c = true) :
    occurs (methodCall method) (callLine receiver called blanks tail) = true ↔
      (method = called ∧ ¬ "Object".toList <:+ receiver) ∨ occurs (methodCall method) tail = true := by
  -- after the dot there is no other before the bracket
  have hskip : '.' ∉ called.toList ++ (blanks ++ ['(']) := by
    simp only [List.mem_append, List.mem_singleton, not_or]
    exact ⟨fun hdot => absurd (hcalled '.' hdot) (by decide), fun hdot => absurd (hblanks '.' hdot) (by decide),
      by decide⟩
  have hline : callLine receiver called blanks tail =
      receiver ++ '.' :: ((called.toList ++ (blanks ++ ['('])) ++ tail) := by
    simp [callLine]
  have hhere : matchesHere (methodCall method) (receiver.reverse ++ [])
      ('.' :: ((called.toList ++ (blanks ++ ['('])) ++ tail)) = true ↔
        method = called ∧ ¬ "Object".toList <:+ receiver := by
    rw [matchesHere_methodCall_iff, List.append_nil, List.reverse_prefix, and_comm]
    refine and_congr_left fun _ => ?_
    constructor
    · rintro ⟨blanks', tail', hblanks', heq⟩
      have hafter := (List.cons.inj heq).2
      rw [List.append_assoc, List.append_assoc] at hafter
      have hname := congrArg (List.takeWhile Char.isAlpha) hafter
      rw [List.singleton_append, takeWhile_isAlpha_call hcalled hblanks,
        takeWhile_isAlpha_call hmethod hblanks'] at hname
      exact (String.toList_injective hname).symm
    · rintro rfl
      exact ⟨blanks, tail, hblanks, by simp [callLine]⟩
  have hreverse : (called.toList ++ (blanks ++ ['('])).reverse = '(' :: (called.toList ++ blanks).reverse := by
    simp
  rw [hline, occurs, occursFrom_methodCall_skip hreceiver, occursFrom, Bool.or_eq_true, hhere,
    occursFrom_methodCall_skip hskip, hreverse]
  have hbracket : occursFrom (methodCall method)
      ('(' :: (called.toList ++ blanks).reverse ++ '.' :: (receiver.reverse ++ [])) tail =
        occurs (methodCall method) tail :=
    occursFrom_methodCall_bracket [] _ tail
  rw [hbracket]

theorem occurs_methodCall_of_no_dot (h : '.' ∉ tail) : occurs (methodCall method) tail = false := by
  have hend (before : List Char) : occursFrom (methodCall method) before [] = false := by
    rw [occursFrom, Bool.eq_false_iff, Ne, matchesHere_methodCall_iff]
    rintro ⟨-, blanks, tail, -, heq⟩
    exact absurd heq (List.cons_ne_nil _ _).symm
  rw [occurs, ← List.append_nil tail, occursFrom_methodCall_skip h, hend]

/-- **Which receivers the rules for methods see.** Each method of arrays or strings has a rule of its own, and in a line
that starts with its call the rule finds it there exactly if the name of the receiver does not end in `Object`. If it
does, and nothing after the bracket has a dot, no rule for a method finds anything in the line. -/
theorem method_call_seen_iff (hreceiver : IsIdentifier receiver) (hblanks : ∀ c ∈ blanks, isBlank c = true)
    (hmethod : method ∈ arrayMethods ∨ method ∈ stringMethods) (tail : List Char) :
    (∃ rule : Rule, rule.DetectsMethod method) ∧
      (∀ rule : Rule, rule.DetectsMethod method →
        (occurs rule.pattern (callLine receiver method blanks tail) = true ↔
          ¬ "Object".toList <:+ receiver ∨ occurs rule.pattern tail = true)) ∧
      ("Object".toList <:+ receiver → '.' ∉ tail → ∀ (rule : Rule) (other : String), rule.DetectsMethod other →
        occurs rule.pattern (callLine receiver method blanks tail) = false) := by
  have hdot : '.' ∉ receiver := dot_not_mem_of_isIdentifier hreceiver
  have hletters : ∀ c ∈ method.toList, c.isAlpha = true := isAlpha_of_mem_methods hmethod
  refine ⟨exists_detectsMethod hmethod, fun rule hrule => ?_, fun hobject htail rule other hrule => ?_⟩
  · -- the call itself is seen unless the receiver ends in the word, and any call may be seen further on
    rw [hrule.pattern_eq, occurs_methodCall_callLine_iff hdot hletters hletters hblanks]
    simp
  · have hother : ∀ c ∈ other.toList, c.isAlpha = true :=
      isAlpha_of_mem_methods (hrule.token.imp And.left And.left)
    rw [hrule.pattern_eq, Bool.eq_false_iff, Ne, occurs_methodCall_callLine_iff hdot hother hletters hblanks]
    rintro (⟨-, hseen⟩ | hlater)
    · exact hseen hobject
    · rw [occurs_methodCall_of_no_dot htail] at hlater
      exact absurd hlater (by decide)

/-- A call by a receiver with a dollar sign, which is seen, and one by `Object` itself, which is not. -/
theorem method_call_seen_iff_of_list_and_object :
    (IsIdentifier "list$2".toList ∧ IsIdentifier "Object".toList ∧ (∀ c ∈ "\t".toList, isBlank c = true)) ∧
      (∃ rule : Rule, rule.DetectsMethod "includes" ∧
        occurs rule.pattern (callLine "list$2".toList "includes" "\t".toList "x)".toList) = true) ∧
      ∀ (rule : Rule) (other : String), rule.DetectsMethod other →
        occurs rule.pattern (callLine "Object".toList "includes" "\t".toList "x)".toList) = false := by
  have hlist : IsIdentifier "list$2".toList := isIdentifier_of_all (by decide) (by decide)
  have hobject : IsIdentifier "Object".toList := isIdentifier_of_all (by decide) (by decide)
  have hblanks : ∀ c ∈ "\t".toList, isBlank c = true := List.all_eq_true.1 (by decide)
  have hmethod : "includes" ∈ arrayMethods ∨ "includes" ∈ stringMethods := by decide
  obtain ⟨⟨rule, hrule⟩, hseen, -⟩ := method_call_seen_iff hlist hblanks hmethod "x)".toList
  -- the same call on a receiver that ends in the word
  obtain ⟨-, -, hunseen⟩ := method_call_seen_iff hobject hblanks hmethod "x)".toList
  refine ⟨⟨hlist, hobject, hblanks⟩, ⟨rule, hrule, (hseen rule hrule).2 (Or.inl ?_)⟩, hunseen ?_ ?_⟩
  · rw [← List.isSuffixOf_iff_suffix]
    decide
  · exact List.suffix_refl _
  · decide

/-- A receiver that merely ends in the text `Object`: no rule sees its call. -/
theorem lookalike_receiver_missed :
    IsIdentifier "myObject".toList ∧ "myObject" ≠ "Object" ∧ "find" ∈ arrayMethods ∧
      String.ofList (callLine "myObject".toList "find" [] "x)".toList) = "myObject.find(x)" ∧
      ∀ rule : Rule, rule.DetectsMethod "find" →
        occurs rule.pattern (callLine "myObject".toList "find" [] "x)".toList) = false := by
  have hmyObject : IsIdentifier "myObject".toList := isIdentifier_of_all (by decide) (by decide)
  have hfind : "find" ∈ arrayMethods := by decide
  refine ⟨hmyObject, by decide, hfind, by decide, fun rule hrule => ?_⟩
  rw [hrule.pattern_eq]
  decide

end FeatureAudit.Script
