import FeatureAudit.Proofs.Json.Reading

/-!
# JSON text is unambiguous

A text writes at most one value, whatever its integers are and however its fields are named: its first character tells
the kind of the value, and each part of it tells where it ends. So whoever reads the text by the grammar reads that
value.

* **`Value.kind`**, **`Writes.kind_eq`** — the first character of a text tells the kind of its value.
* **`WritesString.unique`**, **`intText_unique`** — which string and which integer a text starts with, and where it ends.
* **`Writes.unique`** — so for every value.
* **`IsTextOf.unique`** — a text writes at most one value.
-/
namespace FeatureAudit.Json

open FeatureAudit.Text

/-! ## Kinds of values -/

/-- The kinds of values that start differently. -/
inductive Kind where
  | null
  | bool (b : Bool)
  | number
  | str
  | arr
  | obj
  deriving DecidableEq

/-- The kind of a value. -/
def Value.kind : Value → Kind
  | .null => .null
  | .bool b => .bool b
  | .int _ => .number
  | .float _ => .number
  | .str _ => .str
  | .arr _ => .arr
  | .obj _ => .obj

/-- The kind of the values whose texts start with a character. -/
def kindOf (c : Char) : Kind :=
  if c = 'n' then .null
  else if c = 't' then .bool true
  else if c = 'f' then .bool false
  else if c = '"' then .str
  else if c = '[' then .arr
  else if c = '{' then .obj
  else .number

/-- A value that begins with a digit is a number: no other kind of value begins with one. -/
theorem kindOf_of_isDigit {c : Char} (h : c.isDigit = true) : kindOf c = .number := by
  have hother : ∀ mark ∈ ['n', 't', 'f', '"', '[', '{'], c ≠ mark := by
    rintro mark hmark rfl
    have hall : ∀ mark ∈ ['n', 't', 'f', '"', '[', '{'], mark.isDigit = false := by simp
    exact absurd h (by rw [hall _ hmark]; decide)
  simp only [List.forall_mem_cons] at hother
  obtain ⟨hn, ht, hf, hquote, hbracket, hbrace, -⟩ := hother
  simp [kindOf, hn, ht, hf, hquote, hbracket, hbrace]

/-- The text of a value starts as its kind does. -/
theorem Writes.kindOf {v : Value} {text : List Char} (h : Writes v text) :
    ∃ c rest, text = c :: rest ∧ kindOf c = v.kind := by
  cases h with
  | int n =>
    rw [intText]
    split
    · exact ⟨_, _, rfl, rfl⟩
    · obtain ⟨c, rest, hdigits, hc⟩ := toDigits_eq_cons n.natAbs
      exact ⟨c, rest, hdigits, kindOf_of_isDigit hc⟩
  | str h =>
    cases h with
    | quoted h => exact ⟨_, _, rfl, rfl⟩
  | _ => exact ⟨_, _, rfl, rfl⟩

theorem Writes.kind_eq {v v' : Value} {text text' rest rest' : List Char} (h : Writes v text)
    (h' : Writes v' text') (heq : text ++ rest = text' ++ rest') : v.kind = v'.kind := by
  obtain ⟨c, tail, rfl, hc⟩ := h.kindOf
  obtain ⟨c', tail', rfl, hc'⟩ := h'.kindOf
  rw [← hc, ← hc', (List.cons.inj heq).1]

/-! ## Parts of a text -/

/-- Texts that begin with gaps and then with marks are equal only if the marks are and what is behind them. How long
the gaps are makes no difference, since both are skipped alike. -/
theorem gap_unique {gap gap' rest rest' : List Char} {c c' : Char} (hgap : IsGap gap) (hgap' : IsGap gap')
    (hc : isSpace c = false) (hc' : isSpace c' = false) (heq : gap ++ c :: rest = gap' ++ c' :: rest') :
    c = c' ∧ rest = rest' := by
  have hskipped := congrArg skipSpace heq
  rw [skipSpace_append hgap hc, skipSpace_append hgap' hc'] at hskipped
  exact List.cons.inj hskipped

/-- After gaps, values start one text. -/
theorem Writes.after_gaps {v v' : Value} {text text' gap gap' rest rest' : List Char} (h : Writes v text)
    (h' : Writes v' text') (hgap : IsGap gap) (hgap' : IsGap gap')
    (heq : gap ++ (text ++ rest) = gap' ++ (text' ++ rest')) : text ++ rest = text' ++ rest' := by
  rw [← skipSpace_writes h hgap, heq, skipSpace_writes h' hgap']

/-- If two fields behind gaps begin equal texts, then the texts are equal from the fields on. -/
theorem WritesField.after_gaps {f f' : String × Value} {text text' gap gap' rest rest' : List Char}
    (h : WritesField f text) (h' : WritesField f' text') (hgap : IsGap gap) (hgap' : IsGap gap')
    (heq : gap ++ (text ++ rest) = gap' ++ (text' ++ rest')) : text ++ rest = text' ++ rest' := by
  rw [← skipSpace_writesField h hgap, heq, skipSpace_writesField h' hgap']

theorem Writes.not_after_gap {v : Value} {text gap gap' rest rest' : List Char} (h : Writes v text)
    (hgap : IsGap gap) (hgap' : IsGap gap') : gap ++ ']' :: rest ≠ gap' ++ (text ++ rest') := by
  obtain ⟨c, tail, rfl, hc⟩ := h.eq_cons
  intro heq
  obtain ⟨rfl, -⟩ := gap_unique hgap hgap' (by decide) (isSpace_eq_false_of_startsValue hc) heq
  exact absurd hc (by decide)

theorem WritesField.not_after_gap {f : String × Value} {text gap gap' rest rest' : List Char}
    (h : WritesField f text) (hgap : IsGap gap) (hgap' : IsGap gap') :
    gap ++ '}' :: rest ≠ gap' ++ (text ++ rest') := by
  obtain ⟨tail, rfl⟩ := h.eq_cons
  intro heq
  exact absurd (gap_unique hgap hgap' (by decide) (by decide) heq).1 (by decide)

/-- A string ends at its closing quote: the reader, which is one function, finds it there. -/
theorem WritesString.unique {s s' : String} {title title' rest rest' : List Char} (h : WritesString s title)
    (h' : WritesString s' title') (heq : title ++ rest = title' ++ rest') : s = s' ∧ rest = rest' := by
  obtain ⟨text, rfl, hread⟩ := readString_of_writes h
  obtain ⟨text', rfl, hread'⟩ := readString_of_writes h'
  have htail : text ++ rest = text' ++ rest' := (List.cons.inj heq).2
  have hfirst := hread [] (text.length + text'.length + 2) rest (by simp only [List.length_cons]; omega)
  have hsecond := hread' [] (text.length + text'.length + 2) rest' (by simp only [List.length_cons]; omega)
  rw [htail, hsecond] at hfirst
  obtain ⟨hs, hrest⟩ := Prod.mk.inj (Except.ok.inj hfirst)
  exact ⟨hs.symm, hrest.symm⟩

/-- Two numbers that begin equal texts are equal, provided that what is behind them ends a number; else the digits of
one could go on where the other ends. -/
theorem toDigits_unique {n n' : Nat} {rest rest' : List Char} (hrest : EndsNumber rest)
    (hrest' : EndsNumber rest') (heq : Nat.toDigits 10 n ++ rest = Nat.toDigits 10 n' ++ rest') :
    n = n' ∧ rest = rest' := by
  have hrun := digitRun_append (fun c => isDigit_of_mem_toDigits (n := n) (c := c)) hrest
  have hrun' := digitRun_append (fun c => isDigit_of_mem_toDigits (n := n') (c := c)) hrest'
  rw [heq, hrun'] at hrun
  obtain ⟨hdigits, hends⟩ := Prod.mk.inj hrun
  refine ⟨?_, hends.symm⟩
  rw [← natOf_toDigits n, ← hdigits, natOf_toDigits]

/-- An integer ends where its digits do. -/
theorem intText_unique {n n' : Int} {rest rest' : List Char} (hrest : EndsNumber rest)
    (hrest' : EndsNumber rest') (heq : intText n ++ rest = intText n' ++ rest') : n = n' ∧ rest = rest' := by
  have hsign (n : Int) (rest : List Char) :
      withoutSign (intText n ++ rest) = (decide (n < 0), Nat.toDigits 10 n.natAbs ++ rest) := by
    rw [intText]
    split
    · rename_i hnegative
      simp [withoutSign, hnegative]
    · rename_i hnonneg
      rw [withoutSign_toDigits]
      simp [hnonneg]
  -- the sign and the digits are told apart first, and are then equal one by one
  have hparts := hsign n rest
  rw [heq, hsign n' rest'] at hparts
  obtain ⟨hnegative, hdigits⟩ := Prod.mk.inj hparts
  obtain ⟨habs, hends⟩ := toDigits_unique hrest' hrest hdigits
  have hiff : n' < 0 ↔ n < 0 := by simpa using hnegative
  exact ⟨by omega, hends.symm⟩

/-! ## Values -/

mutual

/-- Two texts that start one text write the same value and end at the same place. The recursion is on how the first
text writes its value, as in the parts of a text below. -/
theorem Writes.unique {v : Value} {text : List Char} : Writes v text →
    ∀ {v' : Value} {text' rest rest' : List Char}, Writes v' text' → text ++ rest = text' ++ rest' →
      EndsNumber rest → EndsNumber rest' → v = v' ∧ rest = rest'
  | .nullWord, v', text', rest, rest', h', heq, _, _ => by
    have hkind := Writes.nullWord.kind_eq h' heq
    cases h' with
    | nullWord => exact ⟨rfl, List.append_cancel_left heq⟩
    | _ => exact absurd hkind (by simp [Value.kind])
  | .trueWord, v', text', rest, rest', h', heq, _, _ => by
    have hkind := Writes.trueWord.kind_eq h' heq
    cases h' with
    | trueWord => exact ⟨rfl, List.append_cancel_left heq⟩
    | _ => exact absurd hkind (by simp [Value.kind])
  | .falseWord, v', text', rest, rest', h', heq, _, _ => by
    have hkind := Writes.falseWord.kind_eq h' heq
    cases h' with
    | falseWord => exact ⟨rfl, List.append_cancel_left heq⟩
    | _ => exact absurd hkind (by simp [Value.kind])
  | .int n, v', text', rest, rest', h', heq, hrest, hrest' => by
    have hkind := (Writes.int n).kind_eq h' heq
    cases h' with
    | int n' =>
      obtain ⟨rfl, hends⟩ := intText_unique hrest hrest' heq
      exact ⟨rfl, hends⟩
    | _ => exact absurd hkind (by simp [Value.kind])
  | .str h, v', text', rest, rest', h', heq, _, _ => by
    have hkind := (Writes.str h).kind_eq h' heq
    cases h' with
    | str h' =>
      obtain ⟨rfl, hends⟩ := h.unique h' heq
      exact ⟨rfl, hends⟩
    | _ => exact absurd hkind (by simp [Value.kind])
  | @Writes.emptyArr gap hgap, v', text', rest, rest', h', heq, _, _ => by
    have hkind := (Writes.emptyArr hgap).kind_eq h' heq
    cases h' with
    | emptyArr hgap' =>
      simp only [List.cons_append, List.append_assoc, List.nil_append, List.cons.injEq, true_and] at heq
      exact ⟨rfl, (gap_unique hgap hgap' (by decide) (by decide) heq).2⟩
    | arr hgap' hv' _ =>
      -- behind the gap stands a bracket in one text and a value in the other
      simp only [List.cons_append, List.append_assoc, List.nil_append, List.cons.injEq, true_and] at heq
      exact absurd heq (hv'.not_after_gap hgap hgap')
    | _ => exact absurd hkind (by simp [Value.kind])
  | @Writes.arr v vs gap text more hgap hv hvs, v', text', rest, rest', h', heq, _, _ => by
    have hkind := (Writes.arr hgap hv hvs).kind_eq h' heq
    cases h' with
    | emptyArr hgap' =>
      simp only [List.cons_append, List.append_assoc, List.nil_append, List.cons.injEq, true_and] at heq
      exact absurd heq.symm (hv.not_after_gap hgap' hgap)
    | arr hgap' hv' hvs' =>
      simp only [List.cons_append, List.append_assoc, List.cons.injEq, true_and] at heq
      -- the first value ends where the items behind it begin, in both texts
      obtain ⟨rfl, hmore⟩ := hv.unique hv' (hv.after_gaps hv' hgap hgap' heq) (hvs.endsNumber rest)
        (hvs'.endsNumber rest')
      obtain ⟨rfl, hends⟩ := hvs.unique hvs' hmore
      exact ⟨rfl, hends⟩
    | _ => exact absurd hkind (by simp [Value.kind])
  | @Writes.emptyObj gap hgap, v', text', rest, rest', h', heq, _, _ => by
    have hkind := (Writes.emptyObj hgap).kind_eq h' heq
    cases h' with
    | emptyObj hgap' =>
      simp only [List.cons_append, List.append_assoc, List.nil_append, List.cons.injEq, true_and] at heq
      exact ⟨rfl, (gap_unique hgap hgap' (by decide) (by decide) heq).2⟩
    | obj hgap' hf' _ =>
      simp only [List.cons_append, List.append_assoc, List.nil_append, List.cons.injEq, true_and] at heq
      exact absurd heq (hf'.not_after_gap hgap hgap')
    | _ => exact absurd hkind (by simp [Value.kind])
  | @Writes.obj f fs gap text more hgap hf hfs, v', text', rest, rest', h', heq, _, _ => by
    have hkind := (Writes.obj hgap hf hfs).kind_eq h' heq
    cases h' with
    | emptyObj hgap' =>
      simp only [List.cons_append, List.append_assoc, List.nil_append, List.cons.injEq, true_and] at heq
      exact absurd heq.symm (hf.not_after_gap hgap' hgap)
    | obj hgap' hf' hfs' =>
      simp only [List.cons_append, List.append_assoc, List.cons.injEq, true_and] at heq
      -- as for the items of a list, field by field
      obtain ⟨rfl, hmore⟩ := hf.unique hf' (hf.after_gaps hf' hgap hgap' heq) (hfs.endsNumber rest)
        (hfs'.endsNumber rest')
      obtain ⟨rfl, hends⟩ := hfs.unique hfs' hmore
      exact ⟨rfl, hends⟩
    | _ => exact absurd hkind (by simp [Value.kind])

/-- The items behind the first one can be told from the text, and so can the place where they end. A comma and a
bracket are told apart by the mark behind the gap. -/
theorem WritesItems.unique {vs : List Value} {more : List Char} : WritesItems vs more →
    ∀ {vs' : List Value} {more' rest rest' : List Char}, WritesItems vs' more' →
      more ++ rest = more' ++ rest' → vs = vs' ∧ rest = rest'
  | @WritesItems.nil gap hgap, vs', more', rest, rest', h', heq => by
    cases h' with
    | nil hgap' =>
      -- both lists are closed here
      simp only [List.append_assoc, List.cons_append, List.nil_append] at heq
      exact ⟨rfl, (gap_unique hgap hgap' (by decide) (by decide) heq).2⟩
    | cons hgap' _ _ _ =>
      simp only [List.append_assoc, List.cons_append, List.nil_append] at heq
      exact absurd (gap_unique hgap hgap' (by decide) (by decide) heq).1 (by decide)
  | @WritesItems.cons v vs gap gap₁ text more hgap hgap₁ hv hvs, vs', more', rest, rest', h', heq => by
    cases h' with
    | nil hgap' =>
      simp only [List.append_assoc, List.cons_append, List.nil_append] at heq
      exact absurd (gap_unique hgap hgap' (by decide) (by decide) heq).1 (by decide)
    | cons hgap' hgap₁' hv' hvs' =>
      simp only [List.append_assoc, List.cons_append] at heq
      have hitem := (gap_unique hgap hgap' (by decide) (by decide) heq).2
      obtain ⟨rfl, hmore⟩ := hv.unique hv' (hv.after_gaps hv' hgap₁ hgap₁' hitem) (hvs.endsNumber rest)
        (hvs'.endsNumber rest')
      obtain ⟨rfl, hends⟩ := hvs.unique hvs' hmore
      exact ⟨rfl, hends⟩

/-- The name and the value of a field can be told from its text, and so can the place where it ends. The colon parts
the two, whatever gaps there are around it. -/
theorem WritesField.unique {f : String × Value} {text : List Char} : WritesField f text →
    ∀ {f' : String × Value} {text' rest rest' : List Char}, WritesField f' text' →
      text ++ rest = text' ++ rest' → EndsNumber rest → EndsNumber rest' → f = f' ∧ rest = rest'
  | @WritesField.field name v title gap gap₁ text hname hgap hgap₁ hv, f', text', rest, rest', h', heq, hrest,
      hrest' => by
    cases h' with
    | field hname' hgap' hgap₁' hv' =>
      simp only [List.append_assoc, List.cons_append] at heq
      -- the names end where their quotation marks close them, then comes the colon, and then the values
      obtain ⟨rfl, hcolon⟩ := hname.unique hname' heq
      have hvalue := (gap_unique hgap hgap' (by decide) (by decide) hcolon).2
      obtain ⟨rfl, hends⟩ := hv.unique hv' (hv.after_gaps hv' hgap₁ hgap₁' hvalue) hrest hrest'
      exact ⟨rfl, hends⟩

/-- The fields behind the first one can be told from the text, and so can the place where they end. The induction goes
along with that of the values in them. -/
theorem WritesFields.unique {fs : List (String × Value)} {more : List Char} : WritesFields fs more →
    ∀ {fs' : List (String × Value)} {more' rest rest' : List Char}, WritesFields fs' more' →
      more ++ rest = more' ++ rest' → fs = fs' ∧ rest = rest'
  | @WritesFields.nil gap hgap, fs', more', rest, rest', h', heq => by
    cases h' with
    | nil hgap' =>
      -- both objects end here
      simp only [List.append_assoc, List.cons_append, List.nil_append] at heq
      exact ⟨rfl, (gap_unique hgap hgap' (by decide) (by decide) heq).2⟩
    | cons hgap' _ _ _ =>
      -- one ends where the other goes on, but a brace is no comma
      simp only [List.append_assoc, List.cons_append, List.nil_append] at heq
      exact absurd (gap_unique hgap hgap' (by decide) (by decide) heq).1 (by decide)
  | @WritesFields.cons f fs gap gap₁ text more hgap hgap₁ hf hfs, fs', more', rest, rest', h', heq => by
    cases h' with
    | nil hgap' =>
      simp only [List.append_assoc, List.cons_append, List.nil_append] at heq
      exact absurd (gap_unique hgap hgap' (by decide) (by decide) heq).1 (by decide)
    | cons hgap' hgap₁' hf' hfs' =>
      simp only [List.append_assoc, List.cons_append] at heq
      have hitem := (gap_unique hgap hgap' (by decide) (by decide) heq).2
      obtain ⟨rfl, hmore⟩ := hf.unique hf' (hf.after_gaps hf' hgap₁ hgap₁' hitem) (hfs.endsNumber rest)
        (hfs'.endsNumber rest')
      obtain ⟨rfl, hends⟩ := hfs.unique hfs' hmore
      exact ⟨rfl, hends⟩

end

/-- A text writes at most one value, so what a reader makes of it is settled by the grammar. -/
theorem IsTextOf.unique {v v' : Value} {text : List Char} (h : IsTextOf v text) (h' : IsTextOf v' text) :
    v = v' := by
  cases h with
  | @text gap end_ text hgap hend hv =>
    generalize heq : gap ++ text ++ end_ = whole at h'
    cases h' with
    | @text gap' end_' text' hgap' hend' hv' =>
      simp only [List.append_assoc] at heq
      exact (hv.unique hv' (hv.after_gaps hv' hgap hgap' heq) (endsNumber_of_isGap hend)
        (endsNumber_of_isGap hend')).1

end FeatureAudit.Json
