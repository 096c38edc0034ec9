import FeatureAudit.Proofs.Json.Reading

/-!
# Writing JSON text

The writer's text of a value is one of the texts of the value, when every number in the value is an integer.
So the reader reads back what the writer wrote, and it does not matter how the text is encoded: all of it is ASCII.

* **`writesUnit_hexPadded`** — a code unit is written in four digits.
* **`writesString_stringText`** — a string is written with what needs it escaped.
* **`Value.IsWhole`** — values in which every number is an integer.
* **`writes_indentedAt`** — the lines of a value write it.
* **`Value.isTextOf_indented`**, **`read_indented`** — so does the whole text, and it is read back.
* **`Value.IsWhole.isAscii_indented`** — the text is ASCII.
-/
namespace FeatureAudit.Json

open FeatureAudit.Text

/-! ## Hexadecimal digits -/

/-- The sixteen digits that are written are read back as their values. -/
theorem hexValue?_digitChar : ∀ d < 16, hexValue? d.digitChar = some d := by decide

/-- One more digit at the end makes a number sixteen times as large and adds the value of the digit. -/
theorem hexNumber_concat (digits : List Char) (d : Char) :
    hexNumber (digits ++ [d]) = 16 * hexNumber digits + (hexValue? d).getD 0 := by
  rw [hexNumber, List.foldl_append]
  rfl

/-- The hexadecimal digits of a number are read as the number. The induction is on what is left of it without its last
digit. -/
theorem hexNumber_toDigits (n : Nat) : hexNumber (Nat.toDigits 16 n) = n := by
  induction n using Nat.strongRecOn with
  | ind n ih =>
    rw [Nat.toDigits_eq_if (by decide)]
    split
    · rename_i hn
      rw [hexNumber, List.foldl_cons, List.foldl_nil, hexValue?_digitChar n hn]
      exact Nat.zero_add n
    · rw [hexNumber_concat, ih (n / 16) (by omega), hexValue?_digitChar _ (Nat.mod_lt n (by decide))]
      exact Nat.div_add_mod n 16

/-- The digits to base sixteen are hexadecimal digits, the last one and, by induction, those before it. -/
theorem isHexDigit_of_mem_toDigits {n : Nat} {c : Char} (h : c ∈ Nat.toDigits 16 n) :
    isHexDigit c = true := by
  have hdigit : ∀ d < 16, isHexDigit d.digitChar = true := by decide
  induction n using Nat.strongRecOn with
  | ind n ih =>
    rw [Nat.toDigits_eq_if (by decide)] at h
    split at h
    · rename_i hn
      rw [List.mem_singleton.1 h]
      exact hdigit n hn
    · rcases List.mem_append.1 h with hfront | hlast
      · exact ih (n / 16) (by omega) hfront
      · rw [List.mem_singleton.1 hlast]
        exact hdigit _ (Nat.mod_lt n (by decide))

/-- Zeros in front do not change a number, so that it can be brought to a width. -/
theorem hexNumber_replicate_append (k : Nat) (digits : List Char) :
    hexNumber (List.replicate k '0' ++ digits) = hexNumber digits := by
  induction k with
  | zero => rfl
  | succ k ih => exact ih

theorem writesUnit_hexPadded {n : Nat} (hn : n < 0x10000) : WritesUnit n (hexPadded 4 n) := by
  have hlength : (Nat.toDigits 16 n).length ≤ 4 := (Nat.length_toDigits_le_iff (by decide) (by decide)).2 hn
  -- four digits, each of them hexadecimal, that write the unit
  refine ⟨?_, ?_, ?_⟩
  · rw [hexPadded, List.length_append, List.length_replicate]
    omega
  · intro d hd
    rcases List.mem_append.1 hd with hzero | hdigit
    · rw [List.eq_of_mem_replicate hzero]
      decide
    · exact isHexDigit_of_mem_toDigits hdigit
  · rw [hexPadded, hexNumber_replicate_append, hexNumber_toDigits]

/-- A code unit fits into four hexadecimal digits, whether it is the only one of its character or one of a pair. -/
theorem lt_of_mem_unitsOf {c : Char} {n : Nat} (h : n ∈ unitsOf c) : n < 0x10000 := by
  have hvalid : c.toNat.isValidChar := c.valid
  have hc : c.toNat < 0x110000 := by rcases hvalid with hvalid | hvalid <;> omega
  simp only [unitsOf] at h
  split at h
  · rename_i hsmall
    rwa [List.mem_singleton.1 h]
  · rcases List.mem_pair.1 h with h | h <;> omega

/-! ## Strings -/

theorem writesUnits {units : List Nat} (h : ∀ n ∈ units, n < 0x10000) :
    List.Forall₂ WritesUnit units (units.map (hexPadded 4)) := by
  induction units with
  | nil => exact .nil
  | cons n units ih =>
    obtain ⟨hn, hunits⟩ := List.forall_mem_cons.1 h
    exact .cons (writesUnit_hexPadded hn) (ih hunits)

/-- One more kind of escape: a character that has a letter is written with it, and any other one as it would be
without this escape. Escapes are tried one after the other in this way. -/
theorem writesChar_ite {c e letter : Char} {other : List Char} (hletter : (letter, e) ∈ escapeLetters)
    (hother : c ≠ e → WritesChar c other) :
    WritesChar c (if c == e then ['\\', letter] else other) := by
  by_cases hc : c = e
  · rw [if_pos (by simpa using hc), hc]
    exact .letter hletter
  · rw [if_neg (by simpa using hc)]
    exact hother hc

/-- A character is written by a letter, as itself or in code units. -/
theorem writesChar_escapeChar (c : Char) : WritesChar c (escapeChar c) := by
  unfold escapeChar
  refine writesChar_ite (by decide) fun hquote => ?_
  refine writesChar_ite (by decide) fun hbackslash => ?_
  refine writesChar_ite (by decide) fun _ => writesChar_ite (by decide) fun _ => ?_
  refine writesChar_ite (by decide) fun _ => writesChar_ite (by decide) fun _ => ?_
  refine writesChar_ite (by decide) fun _ => ?_
  -- plain characters stand for themselves, and the others are written by their code units
  split
  · rename_i hplain
    exact .plain hquote hbackslash (of_decide_eq_true (Bool.and_eq_true_iff.1 hplain).1)
  · have hunits := WritesChar.units (writesUnits fun _ => lt_of_mem_unitsOf (c := c))
    rwa [List.flatMap_map] at hunits

/-- Characters are written one after the other, each of them escaped by itself. -/
theorem writesChars_flatMap (cs : List Char) : WritesChars cs (cs.flatMap escapeChar) := by
  induction cs with
  | nil => exact .nil
  | cons c cs ih => exact .cons (writesChar_escapeChar c) ih

/-- A string is written with what needs it escaped. -/
theorem writesString_stringText (s : String) : WritesString s (stringText s) :=
  .quoted (writesChars_flatMap s.toList)

/-! ## Values -/

/-- A line feed with the spaces of a level behind it is a gap. -/
theorem isGap_newLine (level : Nat) : IsGap (newLine level) := by
  refine List.forall_mem_cons.2 ⟨by decide, fun c hc => ?_⟩
  rw [List.eq_of_mem_replicate hc]
  decide

/-- There need not be any white space between two parts of a text. -/
theorem isGap_nil : IsGap [] := by decide

theorem isGap_space : IsGap [' '] := by decide

mutual

/-- There is no number in the value that is no integer. -/
def Value.IsWhole : Value → Prop
  | .null => True
  | .bool _ => True
  | .int _ => True
  | .float _ => False
  | .str _ => True
  | .arr vs => areWhole vs
  | .obj fs => fieldsAreWhole fs

def Value.areWhole : List Value → Prop
  | [] => True
  | v :: vs => v.IsWhole ∧ Value.areWhole vs

def Value.fieldsAreWhole : List (String × Value) → Prop
  | [] => True
  | (_, v) :: fs => v.IsWhole ∧ Value.fieldsAreWhole fs

end

/-- Items that are made from elements are whole exactly if each of them is. -/
@[simp] theorem Value.areWhole_map {α : Type} {g : α → Value} {xs : List α} :
    Value.areWhole (xs.map g) ↔ ∀ x ∈ xs, (g x).IsWhole := by
  induction xs with
  | nil => simp [Value.areWhole]
  | cons x xs ih => rw [List.map_cons, Value.areWhole, ih, List.forall_mem_cons]

/-- Fields that are made from elements are whole exactly if each of their values is. -/
@[simp] theorem Value.fieldsAreWhole_map {α : Type} {g : α → String × Value} {xs : List α} :
    Value.fieldsAreWhole (xs.map g) ↔ ∀ x ∈ xs, (g x).2.IsWhole := by
  induction xs with
  | nil => simp [Value.fieldsAreWhole]
  | cons x xs ih => rw [List.map_cons, Value.fieldsAreWhole, ih, List.forall_mem_cons]

mutual

/-- A plain value is whole: it has no fractions in it, and besides no name occurs twice in an object. -/
theorem Value.IsPlain.isWhole : ∀ {v : Value}, v.IsPlain → v.IsWhole
  | .null, _ => trivial
  | .bool _, _ => trivial
  | .int _, _ => trivial
  | .str _, _ => trivial
  | .arr _, h => Value.areWhole_of_arePlain h
  | .obj _, h => Value.fieldsAreWhole_of_fieldsArePlain h.2

theorem Value.areWhole_of_arePlain : ∀ {vs : List Value}, Value.arePlain vs → Value.areWhole vs
  | [], _ => trivial
  | _ :: _, h => ⟨h.1.isWhole, Value.areWhole_of_arePlain h.2⟩

theorem Value.fieldsAreWhole_of_fieldsArePlain :
    ∀ {fs : List (String × Value)}, Value.fieldsArePlain fs → Value.fieldsAreWhole fs
  | [], _ => trivial
  | _ :: _, h => ⟨h.1.isWhole, Value.fieldsAreWhole_of_fieldsArePlain h.2⟩

end

mutual

/-- The lines of a value write it. The recursion is on the value, as in its items and fields below. -/
theorem writes_indentedAt : ∀ (v : Value) (level : Nat), v.IsWhole → Writes v (indentedAt level v)
  | .null, _, _ => .nullWord
  | .bool true, _, _ => .trueWord
  | .bool false, _, _ => .falseWord
  | .int n, _, _ => .int n
  | .str s, _, _ => .str (writesString_stringText s)
  | .arr [], _, _ => .emptyArr isGap_nil
  -- the first item follows the bracket, the others and the closing bracket follow the first item
  | .arr (v :: vs), level, h => by
    have hitems := writesItems_itemsAt vs (level + 1) h.2 (isGap_newLine level)
    have harr := Writes.arr (isGap_newLine (level + 1)) (writes_indentedAt v (level + 1) h.1) hitems
    simpa only [indentedAt, List.append_assoc, List.cons_append] using harr
  | .obj [], _, _ => .emptyObj isGap_nil
  | .obj ((name, v) :: fs), level, h => by
    have hfields := writesFields_fieldsAt fs (level + 1) h.2 (isGap_newLine level)
    have hv := writes_indentedAt v (level + 1) h.1
    have hfield := WritesField.field (writesString_stringText name) isGap_nil isGap_space hv
    have hobj := Writes.obj (isGap_newLine (level + 1)) hfield hfields
    simpa only [indentedAt, List.append_assoc, List.cons_append, List.nil_append] using hobj

/-- The lines of the items after the first write them. -/
theorem writesItems_itemsAt : ∀ (vs : List Value) (level : Nat), Value.areWhole vs →
    ∀ {gap : List Char}, IsGap gap → WritesItems vs (itemsAt level vs ++ (gap ++ [']']))
  | [], _, _, _, hgap => .nil hgap
  | v :: vs, level, h, gap, hgap => by
    have hitems := writesItems_itemsAt vs level h.2 hgap
    have hcons := WritesItems.cons isGap_nil (isGap_newLine level) (writes_indentedAt v level h.1) hitems
    simpa only [itemsAt, List.append_assoc, List.cons_append, List.nil_append] using hcons

/-- The lines of the fields after the first write them. -/
theorem writesFields_fieldsAt : ∀ (fs : List (String × Value)) (level : Nat), Value.fieldsAreWhole fs →
    ∀ {gap : List Char}, IsGap gap → WritesFields fs (fieldsAt level fs ++ (gap ++ ['}']))
  | [], _, _, _, hgap => .nil hgap
  | (name, v) :: fs, level, h, gap, hgap => by
    have hfields := writesFields_fieldsAt fs level h.2 hgap
    have hv := writes_indentedAt v level h.1
    have hfield := WritesField.field (writesString_stringText name) isGap_nil isGap_space hv
    have hcons := WritesFields.cons isGap_nil (isGap_newLine level) hfield hfields
    simpa only [fieldsAt, List.append_assoc, List.cons_append, List.nil_append] using hcons

end

/-- The text of a value on lines of its own is a text of the value. -/
theorem Value.IsWhole.isTextOf_indented {v : Value} (h : v.IsWhole) : IsTextOf v v.indented.toList := by
  have htext := IsTextOf.text isGap_nil isGap_nil (writes_indentedAt v 0 h)
  rwa [List.nil_append, List.append_nil, ← String.toList_ofList (l := indentedAt 0 v)] at htext

/-- The indented text of a plain value is a text of it; that no name occurs twice matters only to those who read it.
-/
theorem Value.isTextOf_indented {v : Value} (h : v.IsPlain) : IsTextOf v v.indented.toList :=
  h.isWhole.isTextOf_indented

/-- The reader reads back what the writer wrote, if the value is plain and is not nested deeper than there is room. -/
theorem read_indented {room : Room} {v : Value} (h : v.IsPlain) (hdepth : v.depth ≤ room.values) :
    read room v.indented.toList = .ok v :=
  read_of_isTextOf (Value.isTextOf_indented h) h hdepth

/-! ## ASCII -/

/-- All characters of a text are ASCII. -/
def IsAscii (text : List Char) : Prop := ∀ c ∈ text, c.toNat < 128

instance (text : List Char) : Decidable (IsAscii text) :=
  List.decidableBAll _ text

/-- A text is ASCII if its first character is and the rest is. -/
theorem isAscii_cons {c : Char} {text : List Char} : IsAscii (c :: text) ↔ c.toNat < 128 ∧ IsAscii text :=
  List.forall_mem_cons

theorem isAscii_append {text text' : List Char} :
    IsAscii (text ++ text') ↔ IsAscii text ∧ IsAscii text' :=
  List.forall_mem_append

theorem isAscii_nil : IsAscii [] := by decide

/-- Digits are ASCII up to base sixteen, decimal and hexadecimal ones alike. -/
theorem isAscii_toDigits (base : Nat) (hbase : 1 < base) (hlimit : base ≤ 16) (n : Nat) :
    IsAscii (Nat.toDigits base n) := by
  have hdigit : ∀ d < 16, d.digitChar.toNat < 128 := by decide
  induction n using Nat.strongRecOn with
  | ind n ih =>
    rw [Nat.toDigits_eq_if hbase]
    split
    · exact isAscii_cons.2 ⟨hdigit n (by omega), isAscii_nil⟩
    · have hless : n / base < n := Nat.div_lt_self (by omega) hbase
      have hlast : n % base < base := Nat.mod_lt n (by omega)
      exact isAscii_append.2 ⟨ih _ hless, isAscii_cons.2 ⟨hdigit _ (by omega), isAscii_nil⟩⟩

theorem isAscii_replicate {c : Char} (h : c.toNat < 128) (n : Nat) : IsAscii (List.replicate n c) := by
  intro d hd
  rwa [List.eq_of_mem_replicate hd]

/-- The escape of a code unit is ASCII: a backslash, a letter and four digits. -/
theorem isAscii_unitEscape (n : Nat) : IsAscii (unitEscape n) := by
  have hdigits : IsAscii (hexPadded 4 n) :=
    isAscii_append.2 ⟨isAscii_replicate (by decide) _, isAscii_toDigits 16 (by decide) (by decide) n⟩
  exact isAscii_cons.2 ⟨by decide, isAscii_cons.2 ⟨by decide, hdigits⟩⟩

/-- A character that is not ASCII is written in code units. -/
theorem isAscii_escapeChar (c : Char) : IsAscii (escapeChar c) := by
  have hletter {letter : Char} {other : List Char} {b : Bool} (hl : letter.toNat < 128) (ho : IsAscii other) :
      IsAscii (if b then ['\\', letter] else other) := by
    cases b with
    | false => exact ho
    | true => exact isAscii_cons.2 ⟨by decide, isAscii_cons.2 ⟨hl, isAscii_nil⟩⟩
  unfold escapeChar
  -- seven characters have a letter of their own; the others are plain ASCII or are written by number
  refine hletter (by decide) (hletter (by decide) (hletter (by decide) (hletter (by decide) ?_)))
  refine hletter (by decide) (hletter (by decide) (hletter (by decide) ?_))
  split
  · rename_i hplain
    have hc : c.toNat ≤ 0x7E := of_decide_eq_true (Bool.and_eq_true_iff.1 hplain).2
    exact isAscii_cons.2 ⟨by omega, isAscii_nil⟩
  · intro d hd
    obtain ⟨n, -, hd⟩ := List.mem_flatMap.1 hd
    exact isAscii_unitEscape n d hd

/-- A string is ASCII as it is written, whatever characters are in it: those outside ASCII are all written as escapes.
-/
theorem isAscii_stringText (s : String) : IsAscii (stringText s) := by
  have hchars : IsAscii (s.toList.flatMap escapeChar) := by
    intro d hd
    obtain ⟨c, -, hd⟩ := List.mem_flatMap.1 hd
    exact isAscii_escapeChar c d hd
  exact isAscii_append.2 ⟨isAscii_cons.2 ⟨by decide, hchars⟩, isAscii_cons.2 ⟨by decide, isAscii_nil⟩⟩

theorem isAscii_intText (n : Int) : IsAscii (intText n) := by
  have hdigits := isAscii_toDigits 10 (by decide) (by decide) n.natAbs
  rw [intText]
  split
  · exact isAscii_cons.2 ⟨by decide, hdigits⟩
  · exact hdigits

theorem isAscii_newLine (level : Nat) : IsAscii (newLine level) :=
  isAscii_cons.2 ⟨by decide, isAscii_replicate (by decide) _⟩

mutual

/-- The lines of a value are ASCII. The recursion is on the value, as in its items and fields below. -/
theorem isAscii_indentedAt : ∀ (v : Value) (level : Nat), v.IsWhole → IsAscii (indentedAt level v)
  | .null, _, _ => (by decide : IsAscii "null".toList)
  | .bool true, _, _ => (by decide : IsAscii "true".toList)
  | .bool false, _, _ => (by decide : IsAscii "false".toList)
  | .int n, _, _ => isAscii_intText n
  | .str s, _, _ => isAscii_stringText s
  | .arr [], _, _ => (by decide : IsAscii "[]".toList)
  | .arr (v :: vs), level, h => by
    have hv := isAscii_indentedAt v (level + 1) h.1
    have hvs := isAscii_itemsAt vs (level + 1) h.2
    simp only [indentedAt, isAscii_append, isAscii_cons, isAscii_newLine, hv, hvs, isAscii_nil, and_true]
    decide
  | .obj [], _, _ => (by decide : IsAscii ['{', '}'])
  | .obj ((name, v) :: fs), level, h => by
    have hv := isAscii_indentedAt v (level + 1) h.1
    have hfs := isAscii_fieldsAt fs (level + 1) h.2
    simp only [indentedAt, isAscii_append, isAscii_cons, isAscii_newLine, isAscii_stringText, hv, hfs,
      isAscii_nil, and_true]
    decide

/-- The items behind the first one are ASCII as they are written, up to the bracket. -/
theorem isAscii_itemsAt : ∀ (vs : List Value) (level : Nat), Value.areWhole vs → IsAscii (itemsAt level vs)
  | [], _, _ => isAscii_nil
  | v :: vs, level, h => by
    have hv := isAscii_indentedAt v level h.1
    have hvs := isAscii_itemsAt vs level h.2
    simp only [itemsAt, isAscii_append, isAscii_cons, isAscii_newLine, hv, hvs, and_true]
    decide

/-- The fields behind the first one are ASCII as they are written, names and values alike, up to the brace. -/
theorem isAscii_fieldsAt : ∀ (fs : List (String × Value)) (level : Nat), Value.fieldsAreWhole fs →
    IsAscii (fieldsAt level fs)
  | [], _, _ => isAscii_nil
  | (name, v) :: fs, level, h => by
    have hv := isAscii_indentedAt v level h.1
    have hfs := isAscii_fieldsAt fs level h.2
    simp only [fieldsAt, isAscii_append, isAscii_cons, isAscii_newLine, isAscii_stringText, hv, hfs, and_true]
    decide

end

/-- The text of a value on lines of its own is ASCII. -/
theorem Value.IsWhole.isAscii_indented {v : Value} (h : v.IsWhole) : IsAscii v.indented.toList := by
  rw [Value.indented, String.toList_ofList]
  exact isAscii_indentedAt v 0 h

end FeatureAudit.Json
