import Mathlib.Data.List.TakeDrop
import Mathlib.Data.List.TakeWhile
import FeatureAudit.Proofs.Json.Grammar

/-!
# Reading JSON text

The reader takes the text of a value off the front of what is left and gives the value. Its fuel, which
starts above the length of the text, never runs out on the way; what can go wrong is that values are nested
too deeply, that an integer is too long, and that a later field of an object has the name of an earlier one.

* **`readString_of_writes`** — a string is read up to its closing quote.
* **`readNumber_intText`** — an integer is read up to what cannot belong to it.
* **`Value.IsPlain`**, **`Value.depth`** — values that come back from their texts, and how deep they are.
* **`Writes.readValue`** — the text of a value is taken off the front of what is left.
* **`read_of_isTextOf`** — a text of a value is read as the value.
-/
namespace FeatureAudit.Json

open FeatureAudit.Text

/-! ## Characters -/

/-- No character is half of a pair: the numbers between the two blocks of characters are left out by what a character
is. -/
theorem isHighHalf_toNat (c : Char) : isHighHalf c.toNat = false := by
  have h : c.toNat.isValidChar := c.valid
  simp only [isHighHalf, Bool.and_eq_false_iff, decide_eq_false_iff_not]
  rcases h with h | h <;> omega

/-- A character has one unit, its number, or two. -/
theorem unitsOf_cases (c : Char) :
    unitsOf c = [c.toNat] ∨ ∃ high low, unitsOf c = [high, low] := by
  by_cases h : c.toNat < 0x10000
  · exact Or.inl (by simp [unitsOf, h])
  · exact Or.inr ⟨_, _, by simp only [unitsOf, h, if_false]; rfl⟩

/-- Two units of a character are the halves of its pair. -/
theorem pair_of_unitsOf {c : Char} {high low : Nat} (h : unitsOf c = [high, low]) :
    isHighHalf high = true ∧ isLowHalf low = true ∧ pairChar high low = c := by
  have hread : ofUnits [high, low] = [c] := by
    have hback := ofUnits_unitsOf c []
    rwa [h, List.append_nil] at hback
  rw [ofUnits] at hread
  split at hread
  · rename_i hhalves
    obtain ⟨hhigh, hlow⟩ := Bool.and_eq_true_iff.1 hhalves
    exact ⟨hhigh, hlow, (List.cons.inj hread).1⟩
  · -- units that are no pair are two characters
    exact absurd hread (by simp [ofUnits])

/-- The four digits of a code unit are read as its number, and what stands behind them is left. Each digit has a value
because it is a hexadecimal digit. -/
theorem hex4?_append {n : Nat} {digits : List Char} (h : WritesUnit n digits) (rest : List Char) :
    hex4? (digits ++ rest) = some (n, rest) := by
  obtain ⟨hlength, hhex, hn⟩ := h
  match digits, hlength with
  | [a, b, c, d], _ =>
    obtain ⟨x, hx⟩ := Option.isSome_iff_exists.1 (hhex a (by simp))
    obtain ⟨y, hy⟩ := Option.isSome_iff_exists.1 (hhex b (by simp))
    obtain ⟨z, hz⟩ := Option.isSome_iff_exists.1 (hhex c (by simp))
    obtain ⟨w, hw⟩ := Option.isSome_iff_exists.1 (hhex d (by simp))
    have hvalue : ((x * 16 + y) * 16 + z) * 16 + w = n := by
      rw [← hn]
      simp only [hexNumber, List.foldl_cons, List.foldl_nil, hx, hy, hz, hw, Option.getD_some]
      omega
    simp only [List.cons_append, List.nil_append, hex4?, hx, hy, hz, hw, hvalue]

/-- Behind the four digits of a code unit the text goes on with what followed them. -/
theorem drop_four_append {n : Nat} {digits : List Char} (h : WritesUnit n digits) (rest : List Char) :
    (digits ++ rest).drop 4 = rest := by
  rw [← h.1, List.drop_left]

/-- A character of one code unit is read back from the four digits of its escape. Something must follow, as a string
is open until its quotation mark. -/
theorem unicodeEscape_unit {c : Char} {digits rest : List Char} (h : WritesUnit c.toNat digits)
    (hrest : rest ≠ []) : unicodeEscape (digits ++ rest) = .ok (c, rest) := by
  rw [unicodeEscape, drop_four_append h, if_neg (by simpa using hrest), hex4?_append h]
  dsimp only
  rw [isHighHalf_toNat, unitChar_toNat]
  rfl

/-- A character of two code units is read back from a pair of escapes: the first unit is a high half, so the second is
looked for behind it and put together with it. -/
theorem unicodeEscape_pair {c : Char} {high low : Nat} {digits digits' rest : List Char}
    (hc : unitsOf c = [high, low]) (h : WritesUnit high digits) (h' : WritesUnit low digits')
    (hrest : rest ≠ []) :
    unicodeEscape (digits ++ '\\' :: 'u' :: (digits' ++ rest)) = .ok (c, rest) := by
  obtain ⟨hhigh, hlow, rfl⟩ := pair_of_unitsOf hc
  rw [unicodeEscape, drop_four_append h, if_neg (by simp), hex4?_append h]
  dsimp only
  -- the high half sends the reader on to the low one
  rw [hhigh, if_pos rfl, lowHalf?, drop_four_append h', if_neg (by simpa using hrest),
    hex4?_append h']
  dsimp only
  rw [hlow]
  rfl

/-! ## Strings -/

/-- Each of the letters behind a backslash gives its character, and none of them is the letter of the longer escapes.
-/
theorem simpleEscape?_of_mem {letter c : Char} (h : (letter, c) ∈ escapeLetters) :
    simpleEscape? letter = some c ∧ letter ≠ 'u' := by
  have hall : ∀ e ∈ escapeLetters, simpleEscape? e.1 = some e.2 ∧ e.1 ≠ 'u' := by decide
  exact hall _ h

/-- The text of a character is taken off the front of a string in one step. -/
theorem readString_append {c : Char} {piece tail : List Char} (h : WritesChar c piece)
    (htail : tail ≠ []) (start : List Char) (fuel : Nat) (done : List Char) :
    readString start (fuel + 1) done (piece ++ tail) = readString start fuel (c :: done) tail := by
  cases h with
  | plain hquote hbackslash hcontrol =>
    rw [List.singleton_append, readString.eq_7 start done fuel c tail hquote
      (fun heq => absurd heq hbackslash) (fun _ heq => absurd heq hbackslash)
      (fun _ _ heq => absurd heq hbackslash), if_neg (Nat.not_lt.2 hcontrol)]
  | letter hletter =>
    obtain ⟨hescape, hu⟩ := simpleEscape?_of_mem hletter
    show readString start (fuel + 1) done ('\\' :: _ :: tail) = _
    rw [readString.eq_6 start done fuel _ tail hu, hescape]
  | @units pieces hunits =>
    -- a character of two units is two escapes, which are read in one step
    rcases unitsOf_cases c with hone | ⟨high, low, htwo⟩
    · rw [hone] at hunits
      obtain ⟨digits, _, hdigits, hnone, rfl⟩ := List.forall₂_cons_left_iff.1 hunits
      obtain rfl := List.forall₂_nil_left_iff.1 hnone
      rw [List.flatMap_singleton, List.cons_append, List.cons_append,
        readString.eq_5, unicodeEscape_unit hdigits htail]
    · rw [htwo] at hunits
      obtain ⟨digits, _, hdigits, hmore, rfl⟩ := List.forall₂_cons_left_iff.1 hunits
      obtain ⟨digits', _, hdigits', hnone, rfl⟩ := List.forall₂_cons_left_iff.1 hmore
      obtain rfl := List.forall₂_nil_left_iff.1 hnone
      simp only [List.flatMap_cons, List.flatMap_nil, List.append_nil, List.cons_append,
        List.append_assoc]
      rw [readString.eq_5, unicodeEscape_pair htwo hdigits hdigits' htail]

/-- A character is written with at least one character. So what a string is written with bounds the steps that are
needed to read it. -/
theorem WritesChar.length_pos {c : Char} {piece : List Char} (h : WritesChar c piece) :
    0 < piece.length := by
  cases h with
  | plain => exact Nat.zero_lt_one
  | letter => exact Nat.zero_lt_two
  | units hunits =>
    rcases unitsOf_cases c with hone | ⟨high, low, htwo⟩
    · rw [hone] at hunits
      obtain ⟨digits, _, -, -, rfl⟩ := List.forall₂_cons_left_iff.1 hunits
      simp
    · rw [htwo] at hunits
      obtain ⟨digits, _, -, -, rfl⟩ := List.forall₂_cons_left_iff.1 hunits
      simp

/-- A run of characters is read back up to the quotation mark that ends it, behind those that were read before. The
induction is on the characters; each takes one step, so the length of the text is fuel enough. -/
theorem readString_of_writesChars {cs text : List Char} (h : WritesChars cs text) (start : List Char)
    {fuel : Nat} (hfuel : text.length < fuel) (done rest : List Char) :
    readString start fuel done (text ++ '"' :: rest) = .ok (String.ofList (done.reverse ++ cs), rest) := by
  induction h generalizing fuel done with
  | nil =>
    obtain ⟨fuel, rfl⟩ := Nat.exists_eq_succ_of_ne_zero (Nat.ne_zero_of_lt hfuel)
    rw [List.nil_append, readString.eq_3, List.append_nil]
  | @cons c piece cs text hc _ ih =>
    obtain ⟨fuel, rfl⟩ := Nat.exists_eq_succ_of_ne_zero (Nat.ne_zero_of_lt hfuel)
    -- the piece just read took at least one character off
    have hless : text.length < fuel := by
      have hpiece := hc.length_pos
      rw [List.length_append] at hfuel
      omega
    rw [List.append_assoc, readString_append hc (by simp), ih hless]
    simp

/-- A string is read up to its closing quote. The first quote is read before. -/
theorem readString_of_writes {s : String} {title : List Char} (h : WritesString s title) :
    ∃ text, title = '"' :: text ∧ ∀ start fuel rest, title.length ≤ fuel + 1 →
      readString start fuel [] (text ++ rest) = .ok (s, rest) := by
  cases h with
  | @quoted text h =>
    refine ⟨text ++ ['"'], rfl, fun start fuel rest hfuel => ?_⟩
    have hless : text.length < fuel := by
      simp only [List.cons_append, List.length_cons, List.length_append, List.length_nil] at hfuel
      omega
    rw [List.append_assoc, List.singleton_append, readString_of_writesChars h start hless]
    simp

/-! ## Integers -/

/-- No number goes on with the text. -/
def EndsNumber (rest : List Char) : Prop :=
  ∀ c ∈ rest.head?, c.isDigit = false ∧ c ≠ '.' ∧ c ≠ 'e' ∧ c ≠ 'E'

theorem natOf_toDigits (n : Nat) : natOf (Nat.toDigits 10 n) = n := by
  have hfold : Nat.ofDigitChars 10 (Nat.toDigits 10 n) 0 = natOf (Nat.toDigits 10 n) :=
    Nat.ofDigitChars_eq_foldl
  rw [← hfold, Nat.ofDigitChars_ten_toDigits]

/-- A run of digits is read to its end if what is behind it ends a number, for then it begins with no digit. -/
theorem digitRun_append {digits rest : List Char} (hdigits : ∀ c ∈ digits, c.isDigit = true)
    (hrest : EndsNumber rest) : digitRun (digits ++ rest) = (digits, rest) := by
  have hnone : rest.takeWhile Char.isDigit = [] ∧ rest.dropWhile Char.isDigit = rest := by
    cases rest with
    | nil => exact ⟨rfl, rfl⟩
    | cons c rest =>
      have hc : ¬ c.isDigit = true := by simp [(hrest c rfl).1]
      exact ⟨List.takeWhile_cons_of_neg hc, List.dropWhile_cons_of_neg hc⟩
  rw [digitRun, List.span_eq_takeWhile_dropWhile, List.takeWhile_append_of_pos hdigits,
    List.dropWhile_append_of_pos hdigits, hnone.1, hnone.2, List.append_nil]

theorem eq_zero_of_toDigits {n : Nat} {rest : List Char} (h : Nat.toDigits 10 n = '0' :: rest) :
    n = 0 := by
  induction n using Nat.strongRecOn generalizing rest with
  | ind n ih =>
    rw [Nat.toDigits_eq_if (by decide)] at h
    split at h
    · -- a number of one digit is that digit
      rename_i hn
      have hzero : ∀ m < 10, m.digitChar = '0' → m = 0 := by decide
      exact hzero n hn (List.cons.inj h).1
    · -- the front of a longer number would start with the zero, and be 0 itself, but then the number has one digit
      rename_i hn
      obtain ⟨c, front, hfront, -⟩ := toDigits_eq_cons (n / 10)
      rw [hfront] at h
      obtain ⟨rfl, -⟩ := List.cons.inj h
      have := ih (n / 10) (by omega) hfront
      omega

/-- There is no fraction to be read where a number ends: what is behind it begins with no point. -/
theorem readFraction_of_endsNumber {rest : List Char} (h : EndsNumber rest) :
    readFraction rest = ([], rest) := by
  cases rest with
  | nil => rfl
  | cons c rest =>
    unfold readFraction
    split
    · rename_i heq
      exact absurd (List.cons.inj heq).1 (h c rfl).2.1
    · rfl

/-- There is no exponent to be read where a number ends: what is behind it begins with neither letter of an exponent.
-/
theorem readExponent?_of_endsNumber {rest : List Char} (h : EndsNumber rest) :
    readExponent? rest = none := by
  cases rest with
  | nil => rfl
  | cons c rest =>
    obtain ⟨-, -, he, hE⟩ := h c rfl
    unfold readExponent?
    dsimp only
    rw [if_neg (by simp [he, hE])]

/-- A number without its sign. -/
def withoutSign (cs : List Char) : Bool × List Char :=
  match cs with
  | '-' :: rest => (true, rest)
  | _ => (false, cs)

/-- The whole part of a number, which has a zero in front only when it is zero. -/
def wholePart (unsigned : List Char) : List Char × List Char :=
  match unsigned with
  | '0' :: rest => (['0'], rest)
  | _ => digitRun unsigned

/-- A number of a sign and a whole part. -/
theorem readNumber_of_whole {cs unsigned whole rest : List Char} {negative : Bool}
    (hsign : withoutSign cs = (negative, unsigned)) (hwhole : wholePart unsigned = (whole, rest))
    (hne : whole ≠ []) (hlimit : whole.length ≤ integerDigitLimit) (hrest : EndsNumber rest) :
    readNumber cs =
      .ok (.int (if negative then -(natOf whole : Int) else natOf whole), rest) := by
  unfold readNumber
  -- sign and whole part are what they are said to be
  split
  rename_i hsign'
  obtain ⟨rfl, rfl⟩ := Prod.mk.inj (hsign'.symm.trans hsign)
  split
  rename_i hwhole'
  obtain ⟨rfl, rfl⟩ := Prod.mk.inj (hwhole'.symm.trans hwhole)
  rw [if_neg (by simpa using hne), readFraction_of_endsNumber hrest]
  dsimp only
  rw [readExponent?_of_endsNumber hrest]
  exact if_neg (Nat.not_lt.2 hlimit)

/-- The digits of a number are read as its whole part, up to where the number ends. A zero in front is read by itself,
which is all there is of it. -/
theorem wholePart_toDigits (n : Nat) {rest : List Char} (hrest : EndsNumber rest) :
    wholePart (Nat.toDigits 10 n ++ rest) = (Nat.toDigits 10 n, rest) := by
  unfold wholePart
  split
  · rename_i tail heq
    obtain ⟨c, front, hn, -⟩ := toDigits_eq_cons n
    rw [hn, List.cons_append] at heq
    obtain ⟨rfl, rfl⟩ := List.cons.inj heq
    -- with a zero in front, the number is zero, and its digits end there
    obtain rfl := eq_zero_of_toDigits hn
    obtain ⟨-, rfl⟩ := List.cons.inj hn
    rfl
  · exact digitRun_append (fun _ => isDigit_of_mem_toDigits) hrest

/-- Digits have no sign before them, so that none is taken off and the number counts as positive. -/
theorem withoutSign_toDigits (n : Nat) (rest : List Char) :
    withoutSign (Nat.toDigits 10 n ++ rest) = (false, Nat.toDigits 10 n ++ rest) := by
  unfold withoutSign
  split
  · rename_i tail heq
    obtain ⟨c, front, hn, hc⟩ := toDigits_eq_cons n
    rw [hn, List.cons_append] at heq
    obtain ⟨rfl, -⟩ := List.cons.inj heq
    exact absurd hc (by decide)
  · rfl

/-- An integer by its digits, where nothing after them belongs to the number. -/
theorem readNumber_intText (n : Int) {rest : List Char}
    (hlimit : (Nat.toDigits 10 n.natAbs).length ≤ integerDigitLimit) (hrest : EndsNumber rest) :
    readNumber (intText n ++ rest) = .ok (.int n, rest) := by
  have hwhole := wholePart_toDigits n.natAbs hrest
  rw [intText]
  split
  · -- the sign stands before the digits of the number without it
    rename_i hnegative
    have hsign : withoutSign ('-' :: (Nat.toDigits 10 n.natAbs ++ rest)) =
        (true, Nat.toDigits 10 n.natAbs ++ rest) := rfl
    have hn : -(n.natAbs : Int) = n := by omega
    rw [List.cons_append, readNumber_of_whole hsign hwhole Nat.toDigits_ne_nil hlimit hrest,
      natOf_toDigits, if_pos rfl, hn]
  · rename_i hnonneg
    rw [readNumber_of_whole (withoutSign_toDigits n.natAbs rest) hwhole Nat.toDigits_ne_nil hlimit
      hrest, natOf_toDigits]
    have hn : (n.natAbs : Int) = n := by omega
    simp [hn]

theorem readWord?_intText (n : Int) (rest : List Char) : readWord? (intText n ++ rest) = none := by
  obtain ⟨c, front, hdigits, hc⟩ := toDigits_eq_cons n.natAbs
  have hletters : ∀ letter ∈ ['n', 't', 'f', 'N', 'I', '-'], letter ≠ c := by
    rintro letter hletter rfl
    have hall : ∀ letter ∈ ['n', 't', 'f', 'N', 'I', '-'], letter.isDigit = false := by simp
    exact absurd hc (by rw [hall _ hletter]; decide)
  -- no word starts with a digit, and of those with a sign the next letter is none
  simp only [List.forall_mem_cons] at hletters
  obtain ⟨hn, ht, hf, hN, hI, hminus, -⟩ := hletters
  rw [intText, hdigits]
  split
  · simp [readWord?, wordValues, hI]
  · simp [readWord?, wordValues, hn, ht, hf, hN, hI, hminus]

/-- An integer starts as no string, array and object does. -/
theorem intText_append_eq_cons (n : Int) (rest : List Char) :
    ∃ c tail, intText n ++ rest = c :: tail ∧ c ∉ ['"', '{', '['] := by
  rw [intText]
  split
  · exact ⟨'-', _, rfl, by decide⟩
  · obtain ⟨c, front, hdigits, hc⟩ := toDigits_eq_cons n.natAbs
    refine ⟨c, front ++ rest, by rw [hdigits, List.cons_append], fun hmem => ?_⟩
    have hall : ∀ mark ∈ ['"', '{', '['], mark.isDigit = false := by simp
    exact absurd hc (by rw [hall c hmem]; decide)

/-! ## Values -/

mutual

/-- A value that is read back from its texts: there is no number in it that is no integer, no integer of too
many digits, and no object with two fields of one name. -/
def Value.IsPlain : Value → Prop
  | .null => True
  | .bool _ => True
  | .int n => (Nat.toDigits 10 n.natAbs).length ≤ integerDigitLimit
  | .float _ => False
  | .str _ => True
  | .arr vs => arePlain vs
  | .obj fs => (fs.map Prod.fst).Nodup ∧ fieldsArePlain fs

def Value.arePlain : List Value → Prop
  | [] => True
  | v :: vs => v.IsPlain ∧ Value.arePlain vs

def Value.fieldsArePlain : List (String × Value) → Prop
  | [] => True
  | (_, v) :: fs => v.IsPlain ∧ Value.fieldsArePlain fs

end

mutual

/-- How many brackets and braces are open at the deepest place of a value. -/
def Value.depth : Value → Nat
  | .null => 0
  | .bool _ => 0
  | .int _ => 0
  | .float _ => 0
  | .str _ => 0
  | .arr vs => depthOfItems vs + 1
  | .obj fs => depthOfFields fs + 1

def Value.depthOfItems : List Value → Nat
  | [] => 0
  | v :: vs => max v.depth (Value.depthOfItems vs)

def Value.depthOfFields : List (String × Value) → Nat
  | [] => 0
  | (_, v) :: fs => max v.depth (Value.depthOfFields fs)

end

theorem Value.arePlain_iff {vs : List Value} : Value.arePlain vs ↔ ∀ v ∈ vs, v.IsPlain := by
  induction vs with
  | nil => simp [Value.arePlain]
  | cons v vs ih => rw [Value.arePlain, ih, List.forall_mem_cons]

/-- Fields are plain exactly if each of their values is, whatever their names are. -/
theorem Value.fieldsArePlain_iff {fs : List (String × Value)} :
    Value.fieldsArePlain fs ↔ ∀ f ∈ fs, f.2.IsPlain := by
  induction fs with
  | nil => simp [Value.fieldsArePlain]
  | cons f fs ih => rw [Value.fieldsArePlain, ih, List.forall_mem_cons]

/-- The levels of items are within a bound exactly if those of each item are. -/
theorem Value.depthOfItems_le_iff {vs : List Value} {k : Nat} :
    Value.depthOfItems vs ≤ k ↔ ∀ v ∈ vs, v.depth ≤ k := by
  induction vs with
  | nil => simp [Value.depthOfItems]
  | cons v vs ih => rw [Value.depthOfItems, Nat.max_le, ih, List.forall_mem_cons]

/-- The levels of fields are within a bound exactly if those of each value are. -/
theorem Value.depthOfFields_le_iff {fs : List (String × Value)} {k : Nat} :
    Value.depthOfFields fs ≤ k ↔ ∀ f ∈ fs, f.2.depth ≤ k := by
  induction fs with
  | nil => simp [Value.depthOfFields]
  | cons f fs ih => rw [Value.depthOfFields, Nat.max_le, ih, List.forall_mem_cons]

/-- What the reader does after an item. -/
def afterItem (fuel depth : Nat) (done : List Value) (rest : List Char) : Except Stop (Value × List Char) :=
  match skipSpace rest with
  | ']' :: rest' => .ok (.arr done.reverse, rest')
  | ',' :: rest' => readItems fuel depth done (skipSpace rest')
  | rest' => failAt .expectingComma rest'

/-- What the reader does after a field. -/
def afterField (fuel depth : Nat) (done : List (String × Value)) (rest : List Char) :
    Except Stop (Value × List Char) :=
  match skipSpace rest with
  | '}' :: rest' => .ok (.obj done, rest')
  | ',' :: rest' => readFields fuel depth done (skipSpace rest')
  | rest' => failAt .expectingComma rest'

/-- What the reader does after the name of a field. -/
def afterName (fuel depth : Nat) (done : List (String × Value)) (name : String) (rest : List Char) :
    Except Stop (Value × List Char) :=
  match skipSpace rest with
  | ':' :: rest' =>
    match readValue fuel depth (skipSpace rest') with
    | .error e => .error e
    | .ok (v, rest'') => afterField fuel depth (setField done name v) rest''
  | rest' => failAt .expectingColon rest'

/-- A bracket behind an item closes the list with the items that were read, which are kept in reverse on the way. -/
theorem afterItem_close {gap : List Char} (hgap : IsGap gap) (fuel depth : Nat) (done : List Value)
    (rest : List Char) : afterItem fuel depth done (gap ++ ']' :: rest) = .ok (.arr done.reverse, rest) := by
  rw [afterItem, skipSpace_append hgap (by decide)]
  rfl

/-- A comma behind an item sends the reader on to the next one, with the gap before it skipped. -/
theorem afterItem_comma {gap : List Char} (hgap : IsGap gap) (fuel depth : Nat) (done : List Value)
    (rest : List Char) :
    afterItem fuel depth done (gap ++ ',' :: rest) = readItems fuel depth done (skipSpace rest) := by
  rw [afterItem, skipSpace_append hgap (by decide)]
  rfl

/-- A brace behind a field closes the object with the fields that were read. -/
theorem afterField_close {gap : List Char} (hgap : IsGap gap) (fuel depth : Nat)
    (done : List (String × Value)) (rest : List Char) :
    afterField fuel depth done (gap ++ '}' :: rest) = .ok (.obj done, rest) := by
  rw [afterField, skipSpace_append hgap (by decide)]
  rfl

/-- A comma behind a field sends the reader on to the next one, with the gap before it skipped. -/
theorem afterField_comma {gap : List Char} (hgap : IsGap gap) (fuel depth : Nat)
    (done : List (String × Value)) (rest : List Char) :
    afterField fuel depth done (gap ++ ',' :: rest) = readFields fuel depth done (skipSpace rest) := by
  rw [afterField, skipSpace_append hgap (by decide)]
  rfl

/-- Behind the name of a field stands a colon and then its value; together they are one more field of the object, in
place of an earlier one of that name. -/
theorem afterName_colon {gap : List Char} (hgap : IsGap gap) {fuel depth : Nat} {cs rest : List Char}
    {v : Value} (h : readValue fuel depth (skipSpace cs) = .ok (v, rest)) (done : List (String × Value))
    (name : String) :
    afterName fuel depth done name (gap ++ ':' :: cs) =
      afterField fuel depth (setField done name v) rest := by
  rw [afterName, skipSpace_append hgap (by decide)]
  simp only [h]

/-- A field is read from its quotation mark on: its name first, and then what belongs behind a name. -/
theorem readFields_of_readString {fuel depth : Nat} {cs rest : List Char} {name : String}
    (h : readString ('"' :: cs) fuel [] cs = .ok (name, rest)) (done : List (String × Value)) :
    readFields (fuel + 1) depth done ('"' :: cs) = afterName fuel depth done name rest := by
  rw [readFields, h]
  rfl

/-- An item is read as a value, and then comes what belongs behind an item. -/
theorem readItems_of_readValue {fuel depth : Nat} {cs rest : List Char} {v : Value}
    (h : readValue fuel depth cs = .ok (v, rest)) (done : List Value) :
    readItems (fuel + 1) depth done cs = afterItem fuel depth (v :: done) rest := by
  rw [readItems, h]
  rfl

/-- The gap before a value is skipped, and nothing of the value with it. -/
theorem skipSpace_writes {v : Value} {text : List Char} (h : Writes v text) {gap : List Char}
    (hgap : IsGap gap) (rest : List Char) : skipSpace (gap ++ (text ++ rest)) = text ++ rest := by
  obtain ⟨c, tail, rfl, hc⟩ := h.eq_cons
  exact skipSpace_append hgap (isSpace_eq_false_of_startsValue hc) _

/-- The gap before a field is skipped, and nothing of the field with it. -/
theorem skipSpace_writesField {f : String × Value} {text : List Char} (h : WritesField f text)
    {gap : List Char} (hgap : IsGap gap) (rest : List Char) :
    skipSpace (gap ++ (text ++ rest)) = text ++ rest := by
  obtain ⟨tail, rfl⟩ := h.eq_cons
  exact skipSpace_append hgap (by decide) _

/-- A number does not go on with a gap. -/
theorem endsNumber_of_isGap {gap : List Char} (hgap : IsGap gap) : EndsNumber gap := by
  intro c hc
  have hspace : isSpace c = true := hgap c (List.mem_of_mem_head? hc)
  refine ⟨?_, ?_, ?_, ?_⟩
  · rw [Bool.eq_false_iff]
    intro hdigit
    have hnone := isSpace_eq_false_of_startsValue (c := c) (by rw [startsValue, hdigit]; rfl)
    exact absurd (hspace.symm.trans hnone) (by decide)
  all_goals rintro rfl; exact absurd hspace (by decide)

/-- A number is ended by a gap or by a mark that does not belong to numbers, whichever comes first behind it. -/
theorem endsNumber_gap {gap : List Char} (hgap : IsGap gap) {c : Char}
    (hc : c.isDigit = false ∧ c ≠ '.' ∧ c ≠ 'e' ∧ c ≠ 'E') (rest : List Char) :
    EndsNumber (gap ++ c :: rest) := by
  cases gap with
  | nil =>
    rintro _ ⟨⟩
    exact hc
  | cons space gap =>
    rintro _ ⟨⟩
    exact endsNumber_of_isGap hgap space rfl

/-- The items behind the first one, or the bracket that closes them, end a number that stands before them. -/
theorem WritesItems.endsNumber {vs : List Value} {more : List Char} (h : WritesItems vs more)
    (rest : List Char) : EndsNumber (more ++ rest) := by
  cases h with
  | nil hgap =>
    rw [List.append_assoc]
    exact endsNumber_gap hgap (by decide) _
  | cons hgap _ _ _ =>
    simp only [List.append_assoc, List.cons_append]
    exact endsNumber_gap hgap (by decide) _

/-- The fields behind the first one, or the brace that closes them, end a number that stands before them. -/
theorem WritesFields.endsNumber {fs : List (String × Value)} {more : List Char}
    (h : WritesFields fs more) (rest : List Char) : EndsNumber (more ++ rest) := by
  cases h with
  | nil hgap =>
    rw [List.append_assoc]
    exact endsNumber_gap hgap (by decide) _
  | cons hgap _ _ _ =>
    simp only [List.append_assoc, List.cons_append]
    exact endsNumber_gap hgap (by decide) _

/-- Whatever items follow the first one, there is at least the bracket that closes them, and with it one more step for
the reader. -/
theorem WritesItems.length_pos {vs : List Value} {more : List Char} (h : WritesItems vs more) :
    0 < more.length := by
  cases h <;> simp only [List.length_append, List.length_cons] <;> omega

/-- Whatever fields follow the first one, there is at least the brace that closes them, and with it one more step for
the reader. -/
theorem WritesFields.length_pos {fs : List (String × Value)} {more : List Char}
    (h : WritesFields fs more) : 0 < more.length := by
  cases h <;> simp only [List.length_append, List.length_cons] <;> omega

/-- A field of a new name comes behind all others; only a name that was there before keeps its place. -/
theorem setField_of_not_mem {α : Type} {fields : List (String × α)} {name : String}
    (h : name ∉ fields.map Prod.fst) (v : α) : setField fields name v = fields ++ [(name, v)] := by
  induction fields with
  | nil => rfl
  | cons f rest ih =>
    rw [List.map_cons, List.mem_cons, not_or] at h
    rw [setField, if_neg (by simpa using Ne.symm h.1), ih h.2, List.cons_append]

/-- A value is written with at least one character, so that reading one always takes a step off the text. -/
theorem Writes.length_pos {v : Value} {text : List Char} (h : Writes v text) : 0 < text.length := by
  obtain ⟨c, tail, rfl, -⟩ := h.eq_cons
  exact Nat.succ_pos _

/-- A list with a first item is read by reading its items, once the gap behind the bracket is skipped. No value begins
with a bracket that closes, and so the list is not taken for an empty one. -/
theorem readValue_arr {v : Value} {text : List Char} (h : Writes v text) {gap : List Char}
    (hgap : IsGap gap) (fuel depth : Nat) (rest : List Char) :
    readValue (fuel + 1) (depth + 1) ('[' :: (gap ++ (text ++ rest))) =
      readItems fuel depth [] (text ++ rest) := by
  rw [Json.readValue.eq_6, skipSpace_writes h hgap]
  obtain ⟨c, tail, rfl, hc⟩ := h.eq_cons
  -- a value does not start with the bracket that closes the array
  split
  · rename_i heq
    obtain ⟨rfl, -⟩ := List.cons.inj heq
    exact absurd hc (by decide)
  · rfl

/-- An object with a first field is read by reading its fields, once the gap behind the brace is skipped. The mark of
the field is what tells it from an object without fields. -/
theorem readValue_obj {f : String × Value} {text : List Char} (h : WritesField f text) {gap : List Char}
    (hgap : IsGap gap) (fuel depth : Nat) (rest : List Char) :
    readValue (fuel + 1) (depth + 1) ('{' :: (gap ++ (text ++ rest))) =
      readFields fuel depth [] (text ++ rest) := by
  rw [Json.readValue.eq_4, skipSpace_writesField h hgap]
  obtain ⟨tail, rfl⟩ := h.eq_cons
  rfl

mutual

/-- The text of a value is taken off the front of what is left. The recursion is on how the text writes the
value, as in the parts of a text below: each part takes at least as many characters as it costs fuel. -/
theorem Writes.readValue {v : Value} {text : List Char} :
    Writes v text → ∀ {fuel depth : Nat} {rest : List Char}, v.IsPlain → v.depth ≤ depth →
      text.length < fuel → EndsNumber rest → readValue fuel depth (text ++ rest) = .ok (v, rest)
  | .nullWord, fuel + 1, depth, rest, _, _, _, _ => rfl
  | .trueWord, fuel + 1, depth, rest, _, _, _, _ => rfl
  | .falseWord, fuel + 1, depth, rest, _, _, _, _ => rfl
  | .int n, fuel + 1, depth, rest, hplain, _, _, hrest => by
    -- the words and the other kinds of values start otherwise, so a number is read
    obtain ⟨c, tail, heq, hmarks⟩ := intText_append_eq_cons n rest
    simp only [List.mem_cons, List.not_mem_nil, or_false, not_or] at hmarks
    obtain ⟨hquote, hbrace, hbracket⟩ := hmarks
    have hword := readWord?_intText n rest
    have hnumber := readNumber_intText n hplain hrest
    rw [heq] at hword hnumber ⊢
    rw [Json.readValue.eq_7 depth (c :: tail) fuel (fun _ h => hquote (List.cons.inj h).1)
      (fun _ h => hbrace (List.cons.inj h).1) (fun _ h => hbracket (List.cons.inj h).1), hword]
    exact hnumber
  | .str h, fuel + 1, depth, rest, _, _, hfuel, _ => by
    obtain ⟨text, rfl, hread⟩ := readString_of_writes h
    rw [List.cons_append, Json.readValue.eq_2, hread _ _ _ (Nat.le_of_lt hfuel)]
  | @Writes.emptyArr gap hgap, fuel + 1, depth + 1, rest, _, _, _, _ => by
    simp only [List.cons_append, List.append_assoc, List.nil_append]
    rw [Json.readValue.eq_6, skipSpace_append hgap (by decide)]
    rfl
  | @Writes.arr v vs gap text more hgap hv hvs, fuel + 2, depth + 1, rest, hplain, hdepth, hfuel, _ => by
    have hpos := hvs.length_pos
    simp only [List.length_append, List.length_cons] at hfuel
    obtain ⟨hlevel, hlevels⟩ := Nat.max_le.1 (Nat.le_of_succ_le_succ hdepth)
    simp only [List.cons_append, List.append_assoc]
    rw [readValue_arr hv hgap, readItems_of_readValue
      (hv.readValue hplain.1 hlevel (by omega) (hvs.endsNumber rest)),
      hvs.afterItem hplain.2 hlevels (by omega)]
    rfl
  | @Writes.emptyObj gap hgap, fuel + 1, depth + 1, rest, _, _, _, _ => by
    simp only [List.cons_append, List.append_assoc, List.nil_append]
    rw [Json.readValue.eq_4, skipSpace_append hgap (by decide)]
    rfl
  | @Writes.obj f fs gap text more hgap hf hfs, fuel + 2, depth + 1, rest, hplain, hdepth, hfuel, _ => by
    have hpos := hfs.length_pos
    simp only [List.length_append, List.length_cons] at hfuel
    obtain ⟨hlevel, hlevels⟩ := Nat.max_le.1 (Nat.le_of_succ_le_succ hdepth)
    simp only [List.cons_append, List.append_assoc]
    rw [readValue_obj hf hgap, hf.readFields hplain.2.1 hlevel (by omega) (hfs.endsNumber rest),
      hfs.afterField hplain.2.2 hlevels (by omega) hplain.1]
    rfl

/-- The text of the items after one is taken off the front of what is left. -/
theorem WritesItems.afterItem {vs : List Value} {more : List Char} :
    WritesItems vs more → ∀ {fuel depth : Nat} {done : List Value} {rest : List Char},
      Value.arePlain vs → Value.depthOfItems vs ≤ depth → more.length ≤ fuel →
        afterItem fuel depth done (more ++ rest) = .ok (.arr (done.reverse ++ vs), rest)
  | @WritesItems.nil gap hgap, fuel, depth, done, rest, _, _, _ => by
    simp only [List.append_assoc, List.cons_append, List.nil_append]
    rw [afterItem_close hgap, List.append_nil]
  | @WritesItems.cons v vs gap gap' text more hgap hgap' hv hvs, fuel, depth, done, rest, hplain, hdepth,
      hfuel => by
    have hpos := hvs.length_pos
    have hpos' := hv.length_pos
    simp only [List.length_append, List.length_cons] at hfuel
    obtain ⟨fuel, rfl⟩ := Nat.exists_eq_succ_of_ne_zero (n := fuel) (by omega)
    -- the levels of the items are those of the first and of the others
    obtain ⟨hlevel, hlevels⟩ := Nat.max_le.1 hdepth
    simp only [List.append_assoc, List.cons_append]
    rw [afterItem_comma hgap, skipSpace_writes hv hgap', readItems_of_readValue
      (hv.readValue hplain.1 hlevel (by omega) (hvs.endsNumber rest)),
      hvs.afterItem hplain.2 hlevels (by omega), List.reverse_cons, List.append_assoc]
    rfl

/-- The text of a field is taken off the front of what is left, and the reader goes on after it. -/
theorem WritesField.readFields {f : String × Value} {text : List Char} :
    WritesField f text → ∀ {fuel depth : Nat} {done : List (String × Value)} {rest : List Char},
      f.2.IsPlain → f.2.depth ≤ depth → text.length < fuel → EndsNumber rest →
        readFields (fuel + 1) depth done (text ++ rest) =
          afterField fuel depth (setField done f.1 f.2) rest
  | @WritesField.field name v title gap gap' text hname hgap hgap' hv, fuel, depth, done, rest, hplain,
      hdepth, hfuel, hrest => by
    obtain ⟨title, rfl, hread⟩ := readString_of_writes hname
    simp only [List.length_append, List.length_cons] at hfuel
    have htitle : ('"' :: title).length ≤ fuel + 1 := by
      rw [List.length_cons]
      omega
    have hvalue : Json.readValue fuel depth (skipSpace (gap' ++ (text ++ rest))) = .ok (v, rest) := by
      rw [skipSpace_writes hv hgap', hv.readValue hplain hdepth (by omega) hrest]
    simp only [List.append_assoc, List.cons_append]
    rw [readFields_of_readString (hread _ _ _ htitle), afterName_colon hgap hvalue]

/-- The text of the fields after one is taken off the front of what is left. -/
theorem WritesFields.afterField {fs : List (String × Value)} {more : List Char} :
    WritesFields fs more → ∀ {fuel depth : Nat} {done : List (String × Value)} {rest : List Char},
      Value.fieldsArePlain fs → Value.depthOfFields fs ≤ depth → more.length ≤ fuel →
        ((done ++ fs).map Prod.fst).Nodup →
          afterField fuel depth done (more ++ rest) = .ok (.obj (done ++ fs), rest)
  | @WritesFields.nil gap hgap, fuel, depth, done, rest, _, _, _, _ => by
    simp only [List.append_assoc, List.cons_append, List.nil_append]
    rw [afterField_close hgap, List.append_nil]
  | @WritesFields.cons f fs gap gap' text more hgap hgap' hf hfs, fuel, depth, done, rest, hplain, hdepth,
      hfuel, hnodup => by
    have hpos := hfs.length_pos
    obtain ⟨tail, htail⟩ := hf.eq_cons
    have hpos' : 0 < text.length := by rw [htail]; exact Nat.succ_pos _
    simp only [List.length_append, List.length_cons] at hfuel
    obtain ⟨fuel, rfl⟩ := Nat.exists_eq_succ_of_ne_zero (n := fuel) (by omega)
    obtain ⟨hlevel, hlevels⟩ := Nat.max_le.1 hdepth
    -- no field before has the name, so the field is added behind them
    have hnew : f.1 ∉ done.map Prod.fst := by
      rw [List.map_append, List.map_cons] at hnodup
      intro hmem
      exact (List.nodup_append.1 hnodup).2.2 _ hmem _ List.mem_cons_self rfl
    simp only [List.append_assoc, List.cons_append]
    rw [afterField_comma hgap, skipSpace_writesField hf hgap',
      hf.readFields hplain.1 hlevel (by omega) (hfs.endsNumber rest),
      setField_of_not_mem hnew,
      hfs.afterField hplain.2 hlevels (by omega) (by rwa [List.append_assoc]), List.append_assoc]
    rfl

end

/-! ## Whole texts -/

/-- A text is read as the value that it is a text of, if there is room for the levels of the value. Its length is fuel
enough, and what is left behind it is nothing but white space. -/
theorem readChars_of_isTextOf {room : Room} {v : Value} {text : List Char} (h : IsTextOf v text)
    (hplain : v.IsPlain) (hdepth : v.depth ≤ room.values) : readChars room text = .ok v := by
  cases h with
  | @text gap gap' text hgap hgap' hv =>
    have hstart : skipSpace (gap ++ text ++ gap') = text ++ gap' := by
      rw [List.append_assoc, skipSpace_writes hv hgap]
    -- fuel is given by the length of the whole text
    have hfuel : text.length < 2 * (gap ++ text ++ gap').length + 2 := by
      simp only [List.length_append]
      omega
    have hend : skipSpace gap' = [] := List.dropWhile_eq_nil_iff.2 hgap'
    rw [readChars, hstart, hv.readValue hplain hdepth hfuel (endsNumber_of_isGap hgap')]
    dsimp only
    rw [hend]

/-- The text of a value does not start with a byte-order mark. -/
theorem IsTextOf.eq_cons {v : Value} {text : List Char} (h : IsTextOf v text) :
    ∃ c rest, text = c :: rest ∧ c.toNat ≠ 0xFEFF := by
  cases h with
  | @text gap gap' text hgap _ hv =>
    cases gap with
    | cons c gap =>
      -- white space comes first, and the mark is no white space
      refine ⟨c, _, rfl, fun hmark => ?_⟩
      have hspace : isSpace c = true := hgap c List.mem_cons_self
      obtain rfl : c = '\uFEFF' := Char.ext (UInt32.toNat_inj.1 hmark)
      exact absurd hspace (by decide)
    | nil =>
      -- the value comes first, and none begins with the mark
      obtain ⟨c, tail, rfl, hc⟩ := hv.eq_cons
      refine ⟨c, _, rfl, fun hmark => ?_⟩
      obtain rfl : c = '\uFEFF' := Char.ext (UInt32.toNat_inj.1 hmark)
      exact absurd hc (by decide)

/-- A text of a value is read as the value. -/
theorem read_of_isTextOf {room : Room} {v : Value} {text : List Char} (h : IsTextOf v text)
    (hplain : v.IsPlain) (hdepth : v.depth ≤ room.values) : read room text = .ok v := by
  have hchars := readChars_of_isTextOf h hplain hdepth
  obtain ⟨c, rest, rfl, hmark⟩ := h.eq_cons
  rw [read, if_neg hmark, hchars]

end FeatureAudit.Json
