import Mathlib.Data.List.Forall2
import FeatureAudit.Json.Reader
import FeatureAudit.Json.Writer
import FeatureAudit.Proofs.Text.Utf8

/-!
# The grammar of JSON text

What it is for a text to write a value, said without reader and writer. Gaps may stand between the parts of
a text, and a character of a string may stand for itself, be escaped by a letter, or be escaped in code
units. Numbers that are no integers have no text here.

* **`WritesChar`**, **`WritesString`** — the texts of a character inside a string, and of a string.
* **`Writes`** — the texts of a value.
* **`IsTextOf`** — the texts of a value with gaps around them.
* **`Writes.startsValue`** — how the text of a value starts.
* **`IsTextOf.universalNewlines`** — the line ends of a text may be changed.
-/
namespace FeatureAudit.Json

open FeatureAudit.Text

/-! ## Strings -/

/-- A gap between the parts of a text. -/
def IsGap (gap : List Char) : Prop := ∀ c ∈ gap, isSpace c = true

instance (gap : List Char) : Decidable (IsGap gap) :=
  List.decidableBAll _ gap

/-- Four hexadecimal digits write a code unit. -/
def WritesUnit (n : Nat) (digits : List Char) : Prop :=
  digits.length = 4 ∧ (∀ d ∈ digits, isHexDigit d = true) ∧ hexNumber digits = n

/-- The letters that escape a character, each with the character. -/
def escapeLetters : List (Char × Char) :=
  [('"', '"'), ('\\', '\\'), ('/', '/'), ('b', '\x08'), ('f', '\x0c'), ('n', '\n'), ('r', '\r'),
   ('t', '\t')]

/-- The texts of a character inside a string. -/
inductive WritesChar (c : Char) : List Char → Prop where
  | plain (hquote : c ≠ '"') (hbackslash : c ≠ '\\') (hcontrol : 0x20 ≤ c.toNat) : WritesChar c [c]
  | letter {letter : Char} (h : (letter, c) ∈ escapeLetters) : WritesChar c ['\\', letter]
  | units {pieces : List (List Char)} (h : List.Forall₂ WritesUnit (unitsOf c) pieces) :
      WritesChar c (pieces.flatMap fun digits => '\\' :: 'u' :: digits)

/-- The texts of some characters inside a string. -/
inductive WritesChars : List Char → List Char → Prop where
  | nil : WritesChars [] []
  | cons {c : Char} {piece cs text : List Char} (hc : WritesChar c piece) (hcs : WritesChars cs text) :
      WritesChars (c :: cs) (piece ++ text)

/-- The texts of a string. -/
inductive WritesString (s : String) : List Char → Prop where
  | quoted {text : List Char} (h : WritesChars s.toList text) : WritesString s ('"' :: text ++ ['"'])

/-! ## Values -/

mutual

/-- The texts of a value. -/
inductive Writes : Value → List Char → Prop where
  | nullWord : Writes .null "null".toList
  | trueWord : Writes (.bool true) "true".toList
  | falseWord : Writes (.bool false) "false".toList
  | int (n : Int) : Writes (.int n) (intText n)
  | str {s : String} {text : List Char} (h : WritesString s text) : Writes (.str s) text
  | emptyArr {gap : List Char} (hgap : IsGap gap) : Writes (.arr []) ('[' :: gap ++ [']'])
  | arr {v : Value} {rest : List Value} {gap text more : List Char} (hgap : IsGap gap)
      (hv : Writes v text) (hrest : WritesItems rest more) :
      Writes (.arr (v :: rest)) ('[' :: gap ++ text ++ more)
  | emptyObj {gap : List Char} (hgap : IsGap gap) : Writes (.obj []) ('{' :: gap ++ ['}'])
  | obj {f : String × Value} {rest : List (String × Value)} {gap text more : List Char}
      (hgap : IsGap gap) (hf : WritesField f text) (hrest : WritesFields rest more) :
      Writes (.obj (f :: rest)) ('{' :: gap ++ text ++ more)

/-- The texts of the items after one, up to the bracket. -/
inductive WritesItems : List Value → List Char → Prop where
  | nil {gap : List Char} (hgap : IsGap gap) : WritesItems [] (gap ++ [']'])
  | cons {v : Value} {rest : List Value} {gap gap' text more : List Char} (hgap : IsGap gap)
      (hgap' : IsGap gap') (hv : Writes v text) (hrest : WritesItems rest more) :
      WritesItems (v :: rest) (gap ++ ',' :: gap' ++ text ++ more)

/-- The texts of a field. -/
inductive WritesField : String × Value → List Char → Prop where
  | field {name : String} {v : Value} {title gap gap' text : List Char} (hname : WritesString name title)
      (hgap : IsGap gap) (hgap' : IsGap gap') (hv : Writes v text) :
      WritesField (name, v) (title ++ gap ++ ':' :: gap' ++ text)

/-- The texts of the fields after one, up to the brace. -/
inductive WritesFields : List (String × Value) → List Char → Prop where
  | nil {gap : List Char} (hgap : IsGap gap) : WritesFields [] (gap ++ ['}'])
  | cons {f : String × Value} {rest : List (String × Value)} {gap gap' text more : List Char}
      (hgap : IsGap gap) (hgap' : IsGap gap') (hf : WritesField f text)
      (hrest : WritesFields rest more) :
      WritesFields (f :: rest) (gap ++ ',' :: gap' ++ text ++ more)

end

/-- The texts of a value with gaps around them. -/
inductive IsTextOf (v : Value) : List Char → Prop where
  | text {gap gap' text : List Char} (hgap : IsGap gap) (hgap' : IsGap gap') (h : Writes v text) :
      IsTextOf v (gap ++ text ++ gap')

/-- White space behind white space is white space, so two gaps in a row are read as one. -/
theorem isGap_append {gap gap' : List Char} (h : IsGap gap) (h' : IsGap gap') : IsGap (gap ++ gap') :=
  fun c hc => (List.mem_append.1 hc).elim (h c) (h' c)

/-- A gap may follow the text of a value. -/
theorem IsTextOf.append_gap {v : Value} {text gap : List Char} (h : IsTextOf v text) (hgap : IsGap gap) :
    IsTextOf v (text ++ gap) := by
  cases h with
  | text hbefore hafter h =>
    rw [List.append_assoc _ _ gap]
    exact .text hbefore (isGap_append hafter hgap) h

/-! ## How texts start -/

/-- The characters with which the text of a value starts. -/
def startsValue (c : Char) : Bool := c.isDigit || ['"', '[', '{', '-', 'n', 't', 'f'].contains c

/-- No value begins with white space. This is what ends the gap in front of a value, for whoever reads it and for
whoever compares two texts. -/
theorem isSpace_eq_false_of_startsValue {c : Char} (h : startsValue c = true) : isSpace c = false := by
  rw [Bool.eq_false_iff]
  intro hspace
  simp only [isSpace, Bool.or_eq_true, beq_iff_eq] at hspace
  rcases hspace with ((rfl | rfl) | rfl) | rfl <;> exact absurd h (by decide)

/-- The digits of a number are digits: they are written to base ten, where no letters are needed. -/
theorem isDigit_of_mem_toDigits {n : Nat} {c : Char} (h : c ∈ Nat.toDigits 10 n) : c.isDigit = true :=
  Nat.isDigit_of_mem_toDigits (by decide) (by decide) h

/-- A number has a first digit; even nothing at all is written with one. -/
theorem toDigits_eq_cons (n : Nat) :
    ∃ c rest, Nat.toDigits 10 n = c :: rest ∧ c.isDigit = true := by
  cases hdigits : Nat.toDigits 10 n with
  | nil => exact absurd hdigits Nat.toDigits_ne_nil
  | cons c rest => exact ⟨c, rest, rfl, isDigit_of_mem_toDigits (hdigits ▸ List.mem_cons_self)⟩

/-- A whole number begins with a digit or with a minus sign, and either of them can begin a value. -/
theorem intText_eq_cons (n : Int) : ∃ c rest, intText n = c :: rest ∧ startsValue c = true := by
  rw [intText]
  split
  · exact ⟨_, _, rfl, by decide⟩
  · obtain ⟨c, rest, hdigits, hc⟩ := toDigits_eq_cons n.natAbs
    exact ⟨c, rest, hdigits, by rw [startsValue, hc, Bool.true_or]⟩

/-- A value is written with at least one character, and the first one is none that could belong to the gap before it.
The cases are the kinds of values. -/
theorem Writes.eq_cons {v : Value} {text : List Char} (h : Writes v text) :
    ∃ c rest, text = c :: rest ∧ startsValue c = true := by
  cases h with
  | int n => exact intText_eq_cons n
  | str h =>
    cases h with
    | quoted h => exact ⟨_, _, rfl, by decide⟩
  | _ => exact ⟨_, _, rfl, by decide⟩

/-- The first character of a field is the quotation mark that opens its name. -/
theorem WritesField.eq_cons {f : String × Value} {text : List Char} (h : WritesField f text) :
    ∃ rest, text = '"' :: rest := by
  cases h with
  | field hname _ _ _ =>
    cases hname with
    | quoted _ => exact ⟨_, rfl⟩

/-- A gap is passed over up to a character that is no space. -/
theorem skipSpace_append {gap : List Char} (hgap : IsGap gap) {c : Char} (hc : isSpace c = false)
    (rest : List Char) : skipSpace (gap ++ c :: rest) = c :: rest := by
  rw [skipSpace, List.dropWhile_append_of_pos hgap, List.dropWhile_cons_of_neg (by simp [hc])]

/-! ## Line ends

Carriage returns stand in gaps alone, so when line ends are read as line feeds a text still writes what it
wrote. -/

/-- White space stays white space when line ends are made one: a return is put away or becomes a line feed. The cases
are those of `universalNewlines`. -/
theorem isGap_universalNewlines {gap : List Char} (h : IsGap gap) : IsGap (universalNewlines gap) := by
  induction gap using universalNewlines.induct with
  | case1 => exact h
  | case2 rest ih =>
    obtain ⟨-, hrest⟩ := List.forall_mem_cons.1 h
    exact List.forall_mem_cons.2 ⟨by decide, ih (List.forall_mem_cons.1 hrest).2⟩
  | case3 c rest hpair ih =>
    obtain ⟨hc, hrest⟩ := List.forall_mem_cons.1 h
    rw [universalNewlines.eq_3 c rest hpair]
    refine List.forall_mem_cons.2 ⟨?_, ih hrest⟩
    split
    · decide
    · exact hc

/-- Whatever code units are written as, all the characters in it are hexadecimal digits. -/
theorem isHexDigit_of_writesUnits {units : List Nat} {pieces : List (List Char)}
    (h : List.Forall₂ WritesUnit units pieces) :
    ∀ digits ∈ pieces, ∀ d ∈ digits, isHexDigit d = true := by
  induction h with
  | nil => exact fun _ hmem => absurd hmem List.not_mem_nil
  | cons hunit _ ih => exact List.forall_mem_cons.2 ⟨hunit.2.1, ih⟩

/-- No return occurs in a character as it is written, since a control character cannot stand for itself. So texts with
other line ends have the same strings in them. -/
theorem WritesChar.no_return {c : Char} {piece : List Char} (h : WritesChar c piece) : '\r' ∉ piece := by
  cases h with
  | plain _ _ hcontrol =>
    -- a return is a control character
    rw [List.mem_singleton]
    rintro rfl
    exact absurd hcontrol (by decide)
  | @letter letter hletter =>
    -- the letter for a return is a letter, not the return
    have hall : ∀ e ∈ escapeLetters, '\r' ∉ ['\\', e.1] := by decide
    exact hall _ hletter
  | @units pieces hunits =>
    intro hmem
    obtain ⟨digits, hdigits, hreturn⟩ := List.mem_flatMap.1 hmem
    simp only [List.mem_cons, Char.reduceEq, false_or] at hreturn
    exact absurd (isHexDigit_of_writesUnits hunits digits hdigits _ hreturn) (by decide)

/-- No return occurs in a run of characters as it is written, by induction on the characters. -/
theorem WritesChars.no_return {cs text : List Char} (h : WritesChars cs text) : '\r' ∉ text := by
  induction h with
  | nil => exact List.not_mem_nil
  | cons hc _ ih => exact fun hmem => (List.mem_append.1 hmem).elim hc.no_return ih

/-- No return occurs in a string as it is written; the quotation marks are none either. -/
theorem WritesString.no_return {s : String} {text : List Char} (h : WritesString s text) :
    '\r' ∉ text := by
  cases h with
  | quoted h => simpa using h.no_return

/-- No return occurs in a whole number: there are only digits in it, and perhaps a sign. -/
theorem no_return_intText (n : Int) : '\r' ∉ intText n := by
  have hdigits : '\r' ∉ Nat.toDigits 10 n.natAbs := fun hmem =>
    absurd (isDigit_of_mem_toDigits hmem) (by decide)
  rw [intText]
  split
  · simpa using hdigits
  · exact hdigits

/-- A part of a text, with its line ends read as line feeds, is a part of the same kind, and what follows it
is read apart. -/
def IsRenewed (kind : List Char → Prop) (text : List Char) : Prop :=
  ∃ text', kind text' ∧
    ∀ rest, universalNewlines (text ++ rest) = text' ++ universalNewlines rest

/-- Text without a return is the same after its line ends are made one, whatever it is a text of. -/
theorem isRenewed_of_no_return {kind : List Char → Prop} {text : List Char} (h : kind text)
    (hreturn : '\r' ∉ text) : IsRenewed kind text :=
  ⟨text, h, universalNewlines_append_of_no_return hreturn⟩

/-- A gap is read apart from what follows it, which starts with no line feed. -/
theorem universalNewlines_gap (gap : List Char) {c : Char} (hc : isSpace c = false) (rest : List Char) :
    universalNewlines (gap ++ c :: rest) = universalNewlines gap ++ universalNewlines (c :: rest) := by
  refine universalNewlines_append fun heq => ?_
  obtain rfl := Option.some.inj heq
  exact absurd hc (by decide)

/-- A character that is no return is left alone, and the line ends behind it are made one apart from it. -/
theorem universalNewlines_mark {c : Char} (hc : c ≠ '\r') (rest : List Char) :
    universalNewlines (c :: rest) = c :: universalNewlines rest := by
  rw [universalNewlines.eq_3 c rest fun _ heq => absurd heq hc, if_neg hc]

/-- Line ends are made one in a gap and behind the mark that ends it, each by itself. A return could only be torn from
its line feed at the end of a gap, and there stands a mark. -/
theorem universalNewlines_gap_mark (gap : List Char) {c : Char} (hc : isSpace c = false)
    (rest : List Char) :
    universalNewlines (gap ++ c :: rest) = universalNewlines gap ++ c :: universalNewlines rest := by
  have hreturn : c ≠ '\r' := by
    rintro rfl
    exact absurd hc (by decide)
  rw [universalNewlines_gap gap hc, universalNewlines_mark hreturn]

/-- Line ends are made one in the gap before a value and from the value on, each by itself, since no value begins with
white space. -/
theorem Writes.universalNewlines_gap {v : Value} {text : List Char} (h : Writes v text)
    (gap rest : List Char) :
    universalNewlines (gap ++ (text ++ rest)) =
      universalNewlines gap ++ universalNewlines (text ++ rest) := by
  obtain ⟨c, tail, rfl, hc⟩ := h.eq_cons
  exact Json.universalNewlines_gap gap (isSpace_eq_false_of_startsValue hc) _

/-- Line ends are made one in the gap before a field and from the field on, each by itself, since a field begins with
a quotation mark. -/
theorem WritesField.universalNewlines_gap {f : String × Value} {text : List Char}
    (h : WritesField f text) (gap rest : List Char) :
    universalNewlines (gap ++ (text ++ rest)) =
      universalNewlines gap ++ universalNewlines (text ++ rest) := by
  obtain ⟨tail, rfl⟩ := h.eq_cons
  exact Json.universalNewlines_gap gap (by decide) _

mutual

/-- The recursion is on how the text writes the value, as in the parts of a text below. -/
theorem Writes.isRenewed {v : Value} {text : List Char} : Writes v text → IsRenewed (Writes v) text
  | .nullWord => isRenewed_of_no_return .nullWord (by decide)
  | .trueWord => isRenewed_of_no_return .trueWord (by decide)
  | .falseWord => isRenewed_of_no_return .falseWord (by decide)
  | .int n => isRenewed_of_no_return (.int n) (no_return_intText n)
  | .str h => isRenewed_of_no_return (.str h) h.no_return
  -- the gap between the brackets is the one part that can change
  | @Writes.emptyArr gap hgap => by
    refine ⟨_, .emptyArr (isGap_universalNewlines hgap), fun rest => ?_⟩
    simp only [List.cons_append, List.append_assoc, List.nil_append]
    rw [universalNewlines_mark (by decide), universalNewlines_gap_mark gap (by decide)]
  -- the gap, the first value and what is behind it are renewed one after the other
  | @Writes.arr v vs gap text more hgap hv hrest => by
    obtain ⟨text', htext', hafter⟩ := hv.isRenewed
    obtain ⟨more', hmore', hend⟩ := hrest.isRenewed
    refine ⟨_, .arr (isGap_universalNewlines hgap) htext' hmore', fun rest => ?_⟩
    simp only [List.cons_append, List.append_assoc]
    rw [universalNewlines_mark (by decide), hv.universalNewlines_gap, hafter, hend]
  | @Writes.emptyObj gap hgap => by
    refine ⟨_, .emptyObj (isGap_universalNewlines hgap), fun rest => ?_⟩
    simp only [List.cons_append, List.append_assoc, List.nil_append]
    rw [universalNewlines_mark (by decide), universalNewlines_gap_mark gap (by decide)]
  | @Writes.obj f fs gap text more hgap hf hrest => by
    obtain ⟨text', htext', hafter⟩ := hf.isRenewed
    obtain ⟨more', hmore', hend⟩ := hrest.isRenewed
    refine ⟨_, .obj (isGap_universalNewlines hgap) htext' hmore', fun rest => ?_⟩
    simp only [List.cons_append, List.append_assoc]
    rw [universalNewlines_mark (by decide), hf.universalNewlines_gap, hafter, hend]

/-- The items behind the first one are renewed up to the bracket that closes them. The cases are whether there is
another item. -/
theorem WritesItems.isRenewed {vs : List Value} {text : List Char} :
    WritesItems vs text → IsRenewed (WritesItems vs) text
  | @WritesItems.nil gap hgap => by
    refine ⟨_, .nil (isGap_universalNewlines hgap), fun rest => ?_⟩
    simp only [List.cons_append, List.append_assoc, List.nil_append]
    rw [universalNewlines_gap_mark gap (by decide)]
  | @WritesItems.cons v vs gap gap' text more hgap hgap' hv hrest => by
    obtain ⟨text', htext', hafter⟩ := hv.isRenewed
    obtain ⟨more', hmore', hend⟩ := hrest.isRenewed
    refine ⟨_, .cons (isGap_universalNewlines hgap) (isGap_universalNewlines hgap') htext' hmore',
      fun rest => ?_⟩
    simp only [List.cons_append, List.append_assoc]
    rw [universalNewlines_gap_mark gap (by decide), hv.universalNewlines_gap, hafter, hend]

/-- A field is renewed by renewing the gaps around its colon and its value; its name has no line ends in it. -/
theorem WritesField.isRenewed {f : String × Value} {text : List Char} :
    WritesField f text → IsRenewed (WritesField f) text
  | @WritesField.field name v title gap gap' text hname hgap hgap' hv => by
    obtain ⟨text', htext', hafter⟩ := hv.isRenewed
    refine ⟨_, .field hname (isGap_universalNewlines hgap) (isGap_universalNewlines hgap') htext',
      fun rest => ?_⟩
    simp only [List.cons_append, List.append_assoc]
    rw [universalNewlines_append_of_no_return hname.no_return,
      universalNewlines_gap_mark gap (by decide), hv.universalNewlines_gap, hafter]

/-- The fields behind the first one are renewed up to the brace that closes them, as items are up to their bracket. -/
theorem WritesFields.isRenewed {fs : List (String × Value)} {text : List Char} :
    WritesFields fs text → IsRenewed (WritesFields fs) text
  | @WritesFields.nil gap hgap => by
    refine ⟨_, .nil (isGap_universalNewlines hgap), fun rest => ?_⟩
    simp only [List.cons_append, List.append_assoc, List.nil_append]
    rw [universalNewlines_gap_mark gap (by decide)]
  | @WritesFields.cons f fs gap gap' text more hgap hgap' hf hrest => by
    obtain ⟨text', htext', hafter⟩ := hf.isRenewed
    obtain ⟨more', hmore', hend⟩ := hrest.isRenewed
    refine ⟨_, .cons (isGap_universalNewlines hgap) (isGap_universalNewlines hgap') htext' hmore',
      fun rest => ?_⟩
    simp only [List.cons_append, List.append_assoc]
    rw [universalNewlines_gap_mark gap (by decide), hf.universalNewlines_gap, hafter, hend]

end

/-- A text still writes its value when its line ends are read as line feeds. -/
theorem IsTextOf.universalNewlines {v : Value} {text : List Char} (h : IsTextOf v text) :
    IsTextOf v (universalNewlines text) := by
  cases h with
  | @text gap gap' text hgap hgap' hv =>
    obtain ⟨text', htext', hafter⟩ := hv.isRenewed
    rw [List.append_assoc, hv.universalNewlines_gap, hafter, ← List.append_assoc]
    exact .text (isGap_universalNewlines hgap) (isGap_universalNewlines hgap') htext'

end FeatureAudit.Json
