import FeatureAudit.Text.Utf8

/-!
# Bytes that write a text

Reading UTF-8 and writing it are inverse to each other. The reader goes byte by byte and keeps what it has
read of a character; so the two are compared character by character, through the bytes that spell one.

* **`PartialChar.Completes`**, **`Spells`** — the bytes that complete a character, and those that spell one.
* **`decodeAfter_cons_eq_some_iff`** — the reader takes the bytes that spell a character off the front.
* **`spells_iff`** — the bytes that spell a character are those that write it.
* **`decode?_eq_some_iff`**, **`decode?_eq_none_iff`** — what bytes are read as is the text that they write,
  and bytes that are not read write no text.
* **`decodeLossy_encode`** — nothing is left out of the bytes that write a text.
* **`universalNewlines_append`** — the line ends of two texts are read apart unless one is split between them.
-/
namespace FeatureAudit.Text

/-! ## What the reader takes off the front -/

/-- The bytes complete a character of which some bits have been read, to the character of a number. -/
inductive PartialChar.Completes : PartialChar → List UInt8 → Nat → Prop where
  | last {p : PartialChar} {byte : UInt8} (howed : p.owed ≤ 1)
      (hbounds : p.least ≤ byte.toNat ∧ byte.toNat ≤ p.greatest) :
      Completes p [byte] (0x40 * p.bits + (byte.toNat - 0x80))
  | more {p : PartialChar} {byte : UInt8} {bytes : List UInt8} {n : Nat} (howed : 1 < p.owed)
      (hbounds : p.least ≤ byte.toNat ∧ byte.toNat ≤ p.greatest)
      (hrest : Completes ⟨p.owed - 1, 0x80, 0xBF, 0x40 * p.bits + (byte.toNat - 0x80)⟩ bytes n) :
      Completes p (byte :: bytes) n

/-- The bytes spell the character of a number. -/
inductive Spells : List UInt8 → Nat → Prop where
  | whole {byte : UInt8} (h : byte.toNat < 0x80) : Spells [byte] byte.toNat
  | started {byte : UInt8} {owed least greatest : Nat} {bytes : List UInt8} {n : Nat}
      (hlead : leadByte? byte.toNat = some (owed, least, greatest))
      (h : PartialChar.Completes ⟨owed, least, greatest, byte.toNat % (0x40 >>> owed)⟩ bytes n) :
      Spells (byte :: bytes) n

/-- The next byte of a character that is not complete must be within its bounds; it completes the character or leaves
one byte less to come. -/
theorem decodeAfter_some_cons (p : PartialChar) (byte : UInt8) (bytes : List UInt8) :
    decodeAfter none (some p) (byte :: bytes) =
      if p.least ≤ byte.toNat ∧ byte.toNat ≤ p.greatest then
        if p.owed ≤ 1 then
          (decodeAfter none none bytes).map
            (Char.ofNat (0x40 * p.bits + (byte.toNat - 0x80)) :: ·)
        else
          decodeAfter none
            (some ⟨p.owed - 1, 0x80, 0xBF, 0x40 * p.bits + (byte.toNat - 0x80)⟩) bytes
      else none := by
  rw [decodeAfter]

/-- A byte where no character is open is a character of its own, or it leads one and says how many bytes are still to
come. -/
theorem decodeAfter_none_cons (byte : UInt8) (bytes : List UInt8) :
    decodeAfter none none (byte :: bytes) =
      if byte.toNat < 0x80 then
        (decodeAfter none none bytes).map (Char.ofNat byte.toNat :: ·)
      else
        match leadByte? byte.toNat with
        | some (owed, least, greatest) =>
          decodeAfter none (some ⟨owed, least, greatest, byte.toNat % (0x40 >>> owed)⟩) bytes
        | none => none := by
  rw [decodeAfter]
  unfold startChar
  by_cases h : byte.toNat < 0x80
  · simp only [if_pos h]
  · simp only [if_neg h]
    cases leadByte? byte.toNat <;> rfl

/-- A character that has been begun is completed, and the rest is read on its own. The induction is on the
bytes. -/
theorem decodeAfter_some_eq_some_iff {p : PartialChar} {bytes : List UInt8} {cs : List Char} :
    decodeAfter none (some p) bytes = some cs ↔
      ∃ spelled rest n cs', bytes = spelled ++ rest ∧ p.Completes spelled n ∧
        cs = Char.ofNat n :: cs' ∧ decodeAfter none none rest = some cs' := by
  induction bytes generalizing p with
  | nil =>
    constructor
    · intro h
      exact absurd h (by simp [decodeAfter])
    · rintro ⟨spelled, rest, n, cs', hnil, hcompletes, -, -⟩
      obtain ⟨rfl, -⟩ := List.append_eq_nil_iff.1 hnil.symm
      cases hcompletes
  | cons byte bytes ih =>
    rw [decodeAfter_some_cons]
    constructor
    · intro h
      split at h
      · rename_i hbounds
        split at h
        · -- the last byte that the character owes
          rename_i howed
          obtain ⟨cs', hrest, rfl⟩ := Option.map_eq_some_iff.1 h
          exact ⟨[byte], bytes, _, cs', rfl, .last howed hbounds, rfl, hrest⟩
        · -- it owes more bytes
          rename_i howed
          obtain ⟨spelled, rest, n, cs', rfl, hcompletes, hcs, hrest⟩ := ih.1 h
          exact ⟨byte :: spelled, rest, n, cs', rfl,
            .more (Nat.lt_of_not_le howed) hbounds hcompletes, hcs, hrest⟩
      · exact absurd h (by simp)
    · rintro ⟨spelled, rest, n, cs', hbytes, hcompletes, rfl, hrest⟩
      cases hcompletes with
      | last howed hbounds =>
        obtain ⟨rfl, rfl⟩ := List.cons.inj hbytes
        rw [if_pos hbounds, if_pos howed, hrest]
        rfl
      | more howed hbounds hcompletes =>
        obtain ⟨rfl, rfl⟩ := List.cons.inj hbytes
        rw [if_pos hbounds, if_neg (Nat.not_le.2 howed)]
        exact ih.2 ⟨_, rest, n, cs', rfl, hcompletes, rfl, hrest⟩

/-- The reader takes the bytes that spell a character off the front. -/
theorem decodeAfter_cons_eq_some_iff {byte : UInt8} {bytes : List UInt8} {cs : List Char} :
    decodeAfter none none (byte :: bytes) = some cs ↔
      ∃ spelled rest n cs', byte :: bytes = spelled ++ rest ∧ Spells spelled n ∧
        cs = Char.ofNat n :: cs' ∧ decodeAfter none none rest = some cs' := by
  rw [decodeAfter_none_cons]
  constructor
  · intro h
    split at h
    · rename_i hwhole
      obtain ⟨cs', hrest, rfl⟩ := Option.map_eq_some_iff.1 h
      exact ⟨[byte], bytes, _, cs', rfl, .whole hwhole, rfl, hrest⟩
    · split at h
      · rename_i hlead
        obtain ⟨spelled, rest, n, cs', rfl, hcompletes, hcs, hrest⟩ :=
          decodeAfter_some_eq_some_iff.1 h
        exact ⟨byte :: spelled, rest, n, cs', rfl, .started hlead hcompletes, hcs, hrest⟩
      · exact absurd h (by simp)
  · rintro ⟨spelled, rest, n, cs', hbytes, hspells, rfl, hrest⟩
    cases hspells with
    | whole hwhole =>
      obtain ⟨rfl, rfl⟩ := List.cons.inj hbytes
      rw [if_pos hwhole, hrest]
      rfl
    | started hlead hcompletes =>
      obtain ⟨rfl, rfl⟩ := List.cons.inj hbytes
      have hhigh : ¬ byte.toNat < 0x80 := by
        intro hlow
        unfold leadByte? at hlead
        grind
      rw [if_neg hhigh, hlead]
      exact decodeAfter_some_eq_some_iff.2 ⟨_, rest, n, cs', rfl, hcompletes, rfl, hrest⟩

/-! ## The bytes that write a character -/

/-- A character is encoded in one to four bytes, by how large its number is. -/
theorem utf8EncodeChar_ofNat {n : Nat} (h : n.isValidChar) :
    String.utf8EncodeChar (Char.ofNat n) =
      if n ≤ 0x7F then [UInt8.ofNat n]
      else if n ≤ 0x7FF then [UInt8.ofNat (n / 64 % 32 + 0xC0), UInt8.ofNat (n % 64 + 0x80)]
      else if n ≤ 0xFFFF then
        [UInt8.ofNat (n / 4096 % 16 + 0xE0), UInt8.ofNat (n / 64 % 64 + 0x80),
          UInt8.ofNat (n % 64 + 0x80)]
      else
        [UInt8.ofNat (n / 262144 % 8 + 0xF0), UInt8.ofNat (n / 4096 % 64 + 0x80),
          UInt8.ofNat (n / 64 % 64 + 0x80), UInt8.ofNat (n % 64 + 0x80)] := by
  have hnumber : (Char.ofNat n).val.toNat = n := by
    rw [Char.ofNat, dif_pos h]
    rfl
  unfold String.utf8EncodeChar
  rw [hnumber]

theorem eq_ofNat_of_toNat_eq (byte : UInt8) {k : Nat} (h : byte.toNat = k) : byte = UInt8.ofNat k := by
  rw [← h, UInt8.ofNat_toNat]

/-- A row of the table admits a next byte exactly if it is the row, and the byte is within its bounds. -/
theorem exists_some_eq_some_iff {owed next k l g : Nat} :
    (∃ least greatest, some (k, l, g) = some (owed, least, greatest) ∧
      least ≤ next ∧ next ≤ greatest) ↔ k = owed ∧ l ≤ next ∧ next ≤ g := by
  constructor
  · rintro ⟨least, greatest, hrow, hnext⟩
    obtain ⟨rfl, rfl, rfl⟩ := by simpa using hrow
    exact ⟨rfl, hnext⟩
  · rintro ⟨rfl, hnext⟩
    exact ⟨l, g, rfl, hnext⟩

theorem toNat_ofNat {k : Nat} (h : k < 256) : (UInt8.ofNat k).toNat = k :=
  UInt8.toNat_ofNat_of_lt' h

/-- Which bytes may follow a lead byte: those that make no number that is too small for so many bytes, none
of a surrogate, and none that is too large. -/
theorem leadByte?_admits_iff {b next owed : Nat} :
    (∃ least greatest, leadByte? b = some (owed, least, greatest) ∧ least ≤ next ∧ next ≤ greatest) ↔
      (0x80 ≤ next ∧ next ≤ 0xBF) ∧
        (owed = 1 ∧ 0xC2 ≤ b ∧ b ≤ 0xDF ∨
          owed = 2 ∧ (0xE0 ≤ b ∧ b ≤ 0xEF) ∧ (b = 0xE0 → 0xA0 ≤ next) ∧ (b = 0xED → next ≤ 0x9F) ∨
          owed = 3 ∧ (0xF0 ≤ b ∧ b ≤ 0xF4) ∧ (b = 0xF0 → 0x90 ≤ next) ∧ (b = 0xF4 → next ≤ 0x8F)) := by
  unfold leadByte?
  -- one case for each row of the table, and one for what is no lead byte
  split
  · rw [exists_some_eq_some_iff]; omega
  split
  · rw [exists_some_eq_some_iff]; omega
  split
  · rw [exists_some_eq_some_iff]; omega
  split
  · rw [exists_some_eq_some_iff]; omega
  split
  · rw [exists_some_eq_some_iff]; omega
  split
  · rw [exists_some_eq_some_iff]; omega
  split
  · rw [exists_some_eq_some_iff]; omega
  · have hnone : ¬ ∃ least greatest,
        none = some (owed, least, greatest) ∧ least ≤ next ∧ next ≤ greatest := by
      rintro ⟨_, _, h, -⟩
      exact absurd h (by simp)
    rw [iff_false_left hnone]
    omega

/-- The bytes that spell a character of several bytes, row by row. -/
theorem spells_two {b b₁ : UInt8} (hb : 0xC2 ≤ b.toNat ∧ b.toNat ≤ 0xDF)
    (h₁ : 0x80 ≤ b₁.toNat ∧ b₁.toNat ≤ 0xBF) :
    Spells [b, b₁] (0x40 * (b.toNat % 0x20) + (b₁.toNat - 0x80)) := by
  obtain ⟨least, greatest, hlead, hbounds⟩ := leadByte?_admits_iff.2 ⟨h₁, .inl ⟨rfl, hb⟩⟩
  exact .started hlead (.last (Nat.le_refl 1) hbounds)

/-- Three bytes spell a character, if the second is high enough after the first of them and does not make a surrogate.
-/
theorem spells_three {b b₁ b₂ : UInt8} (hb : 0xE0 ≤ b.toNat ∧ b.toNat ≤ 0xEF)
    (h₁ : 0x80 ≤ b₁.toNat ∧ b₁.toNat ≤ 0xBF) (hsmall : b.toNat = 0xE0 → 0xA0 ≤ b₁.toNat)
    (hsurrogate : b.toNat = 0xED → b₁.toNat ≤ 0x9F) (h₂ : 0x80 ≤ b₂.toNat ∧ b₂.toNat ≤ 0xBF) :
    Spells [b, b₁, b₂]
      (0x40 * (0x40 * (b.toNat % 0x10) + (b₁.toNat - 0x80)) + (b₂.toNat - 0x80)) := by
  obtain ⟨least, greatest, hlead, hbounds⟩ :=
    leadByte?_admits_iff.2 ⟨h₁, .inr (.inl ⟨rfl, hb, hsmall, hsurrogate⟩)⟩
  exact .started hlead (.more (by decide : 1 < 2) hbounds (.last (Nat.le_refl 1) h₂))

/-- Four bytes spell a character, if the second keeps it within the four-byte range after the first of them and the
last one. -/
theorem spells_four {b b₁ b₂ b₃ : UInt8} (hb : 0xF0 ≤ b.toNat ∧ b.toNat ≤ 0xF4)
    (h₁ : 0x80 ≤ b₁.toNat ∧ b₁.toNat ≤ 0xBF) (hsmall : b.toNat = 0xF0 → 0x90 ≤ b₁.toNat)
    (hlarge : b.toNat = 0xF4 → b₁.toNat ≤ 0x8F) (h₂ : 0x80 ≤ b₂.toNat ∧ b₂.toNat ≤ 0xBF)
    (h₃ : 0x80 ≤ b₃.toNat ∧ b₃.toNat ≤ 0xBF) :
    Spells [b, b₁, b₂, b₃]
      (0x40 * (0x40 * (0x40 * (b.toNat % 8) + (b₁.toNat - 0x80)) + (b₂.toNat - 0x80)) +
        (b₃.toNat - 0x80)) := by
  obtain ⟨least, greatest, hlead, hbounds⟩ :=
    leadByte?_admits_iff.2 ⟨h₁, .inr (.inr ⟨rfl, hb, hsmall, hlarge⟩)⟩
  exact .started hlead
    (.more (by decide : 1 < 3) hbounds (.more (by decide : 1 < 2) h₂ (.last (Nat.le_refl 1) h₃)))

/-- No other bytes spell a character than those of the four rows of the table: one byte for ASCII, and two, three or
four with the bounds that leave out overlong forms and surrogates. -/
theorem Spells.row {bytes : List UInt8} {n : Nat} (h : Spells bytes n) :
    (∃ b, bytes = [b] ∧ b.toNat < 0x80 ∧ n = b.toNat) ∨
    (∃ b b₁, bytes = [b, b₁] ∧ (0xC2 ≤ b.toNat ∧ b.toNat ≤ 0xDF) ∧
      (0x80 ≤ b₁.toNat ∧ b₁.toNat ≤ 0xBF) ∧
      n = 0x40 * (b.toNat % 0x20) + (b₁.toNat - 0x80)) ∨
    (∃ b b₁ b₂, bytes = [b, b₁, b₂] ∧ (0xE0 ≤ b.toNat ∧ b.toNat ≤ 0xEF) ∧
      (0x80 ≤ b₁.toNat ∧ b₁.toNat ≤ 0xBF) ∧
      (b.toNat = 0xE0 → 0xA0 ≤ b₁.toNat) ∧ (b.toNat = 0xED → b₁.toNat ≤ 0x9F) ∧
      (0x80 ≤ b₂.toNat ∧ b₂.toNat ≤ 0xBF) ∧
      n = 0x40 * (0x40 * (b.toNat % 0x10) + (b₁.toNat - 0x80)) + (b₂.toNat - 0x80)) ∨
    ∃ b b₁ b₂ b₃, bytes = [b, b₁, b₂, b₃] ∧ (0xF0 ≤ b.toNat ∧ b.toNat ≤ 0xF4) ∧
      (0x80 ≤ b₁.toNat ∧ b₁.toNat ≤ 0xBF) ∧
      (b.toNat = 0xF0 → 0x90 ≤ b₁.toNat) ∧ (b.toNat = 0xF4 → b₁.toNat ≤ 0x8F) ∧
      (0x80 ≤ b₂.toNat ∧ b₂.toNat ≤ 0xBF) ∧ (0x80 ≤ b₃.toNat ∧ b₃.toNat ≤ 0xBF) ∧
      n = 0x40 * (0x40 * (0x40 * (b.toNat % 8) + (b₁.toNat - 0x80)) + (b₂.toNat - 0x80)) +
        (b₃.toNat - 0x80) := by
  cases h with
  -- one byte; from here on the lead byte tells how many follow, and what the first of these may be
  | @whole b hlow => exact .inl ⟨b, rfl, hlow, rfl⟩
  | @started b owed least greatest _ _ hlead hcompletes =>
    refine .inr ?_
    cases hcompletes with
    | @last _ b₁ howed hbounds =>
      obtain ⟨h₁, hrow⟩ := leadByte?_admits_iff.1 ⟨least, greatest, hlead, hbounds⟩
      replace howed : owed ≤ 1 := howed
      obtain ⟨rfl, hb⟩ : owed = 1 ∧ 0xC2 ≤ b.toNat ∧ b.toNat ≤ 0xDF := by omega
      exact .inl ⟨b, b₁, rfl, hb, h₁, rfl⟩
    | @more _ b₁ _ _ howed hbounds hrest =>
      obtain ⟨h₁, hrow⟩ := leadByte?_admits_iff.1 ⟨least, greatest, hlead, hbounds⟩
      replace howed : 1 < owed := howed
      refine .inr ?_
      cases hrest with
      | @last _ b₂ howed' h₂ =>
        replace howed' : owed - 1 ≤ 1 := howed'
        obtain ⟨rfl, hb⟩ : owed = 2 ∧ (0xE0 ≤ b.toNat ∧ b.toNat ≤ 0xEF) ∧
            (b.toNat = 0xE0 → 0xA0 ≤ b₁.toNat) ∧ (b.toNat = 0xED → b₁.toNat ≤ 0x9F) := by omega
        exact .inl ⟨b, b₁, b₂, rfl, hb.1, h₁, hb.2.1, hb.2.2, h₂, rfl⟩
      | @more _ b₂ _ _ howed' h₂ hrest =>
        replace howed' : 1 < owed - 1 := howed'
        obtain ⟨rfl, hb⟩ : owed = 3 ∧ (0xF0 ≤ b.toNat ∧ b.toNat ≤ 0xF4) ∧
            (b.toNat = 0xF0 → 0x90 ≤ b₁.toNat) ∧ (b.toNat = 0xF4 → b₁.toNat ≤ 0x8F) := by omega
        cases hrest with
        | @last _ b₃ _ h₃ =>
          exact .inr ⟨b, b₁, b₂, b₃, rfl, hb.1, h₁, hb.2.1, hb.2.2, h₂, h₃, rfl⟩
        | more howed'' =>
          replace howed'' : 1 < 3 - 1 - 1 := howed''
          omega

/-- The bytes that spell a character are those that write it. -/
theorem spells_iff {bytes : List UInt8} {n : Nat} :
    Spells bytes n ↔ n.isValidChar ∧ bytes = String.utf8EncodeChar (Char.ofNat n) := by
  constructor
  · intro h
    rcases h.row with ⟨b, rfl, hb, hn⟩ | ⟨b, b₁, rfl, hb, h₁, hn⟩ |
      ⟨b, b₁, b₂, rfl, hb, h₁, hsmall, hsurrogate, h₂, hn⟩ |
      ⟨b, b₁, b₂, b₃, rfl, hb, h₁, hsmall, hlarge, h₂, h₃, hn⟩
    · have hvalid : n.isValidChar := .inl (by omega)
      refine ⟨hvalid, ?_⟩
      rw [utf8EncodeChar_ofNat hvalid, if_pos (by omega), hn, UInt8.ofNat_toNat]
    · have hvalid : n.isValidChar := .inl (by omega)
      refine ⟨hvalid, ?_⟩
      rw [utf8EncodeChar_ofNat hvalid, if_neg (by omega), if_pos (by omega),
        ← eq_ofNat_of_toNat_eq b (by omega), ← eq_ofNat_of_toNat_eq b₁ (by omega)]
    · have hvalid : n.isValidChar := by
        -- the second byte keeps the number off the surrogates
        unfold Nat.isValidChar
        omega
      refine ⟨hvalid, ?_⟩
      rw [utf8EncodeChar_ofNat hvalid, if_neg (by omega), if_neg (by omega), if_pos (by omega),
        ← eq_ofNat_of_toNat_eq b (by omega), ← eq_ofNat_of_toNat_eq b₁ (by omega),
        ← eq_ofNat_of_toNat_eq b₂ (by omega)]
    · have hvalid : n.isValidChar := .inr (by omega)
      refine ⟨hvalid, ?_⟩
      rw [utf8EncodeChar_ofNat hvalid, if_neg (by omega), if_neg (by omega), if_neg (by omega),
        ← eq_ofNat_of_toNat_eq b (by omega), ← eq_ofNat_of_toNat_eq b₁ (by omega),
        ← eq_ofNat_of_toNat_eq b₂ (by omega), ← eq_ofNat_of_toNat_eq b₃ (by omega)]
  · rintro ⟨hvalid, rfl⟩
    rw [utf8EncodeChar_ofNat hvalid]
    unfold Nat.isValidChar at hvalid
    split
    · have hb : (UInt8.ofNat n).toNat = n := toNat_ofNat (by omega)
      have hspells : Spells [UInt8.ofNat n] (UInt8.ofNat n).toNat := .whole (by omega)
      rwa [hb] at hspells
    split
    · have hb : (UInt8.ofNat (n / 64 % 32 + 0xC0)).toNat = n / 64 % 32 + 0xC0 :=
        toNat_ofNat (by omega)
      have h₁ : (UInt8.ofNat (n % 64 + 0x80)).toNat = n % 64 + 0x80 := toNat_ofNat (by omega)
      have hspells : Spells [UInt8.ofNat (n / 64 % 32 + 0xC0), UInt8.ofNat (n % 64 + 0x80)] _ :=
        spells_two (by omega) (by omega)
      rw [hb, h₁] at hspells
      have hn : 0x40 * ((n / 64 % 32 + 0xC0) % 0x20) + (n % 64 + 0x80 - 0x80) = n := by omega
      rwa [hn] at hspells
    split
    · have hb : (UInt8.ofNat (n / 4096 % 16 + 0xE0)).toNat = n / 4096 % 16 + 0xE0 :=
        toNat_ofNat (by omega)
      have h₁ : (UInt8.ofNat (n / 64 % 64 + 0x80)).toNat = n / 64 % 64 + 0x80 :=
        toNat_ofNat (by omega)
      have h₂ : (UInt8.ofNat (n % 64 + 0x80)).toNat = n % 64 + 0x80 := toNat_ofNat (by omega)
      have hspells : Spells [UInt8.ofNat (n / 4096 % 16 + 0xE0), UInt8.ofNat (n / 64 % 64 + 0x80),
          UInt8.ofNat (n % 64 + 0x80)] _ :=
        spells_three (by omega) (by omega) (by omega) (by omega) (by omega)
      rw [hb, h₁, h₂] at hspells
      have hn : 0x40 * (0x40 * ((n / 4096 % 16 + 0xE0) % 0x10) + (n / 64 % 64 + 0x80 - 0x80)) +
          (n % 64 + 0x80 - 0x80) = n := by omega
      rwa [hn] at hspells
    · have hb : (UInt8.ofNat (n / 262144 % 8 + 0xF0)).toNat = n / 262144 % 8 + 0xF0 :=
        toNat_ofNat (by omega)
      have h₁ : (UInt8.ofNat (n / 4096 % 64 + 0x80)).toNat = n / 4096 % 64 + 0x80 :=
        toNat_ofNat (by omega)
      have h₂ : (UInt8.ofNat (n / 64 % 64 + 0x80)).toNat = n / 64 % 64 + 0x80 :=
        toNat_ofNat (by omega)
      have h₃ : (UInt8.ofNat (n % 64 + 0x80)).toNat = n % 64 + 0x80 := toNat_ofNat (by omega)
      have hspells : Spells [UInt8.ofNat (n / 262144 % 8 + 0xF0),
          UInt8.ofNat (n / 4096 % 64 + 0x80), UInt8.ofNat (n / 64 % 64 + 0x80),
          UInt8.ofNat (n % 64 + 0x80)] _ :=
        spells_four (by omega) (by omega) (by omega) (by omega) (by omega) (by omega)
      rw [hb, h₁, h₂, h₃] at hspells
      have hn : 0x40 * (0x40 * (0x40 * ((n / 262144 % 8 + 0xF0) % 8) +
          (n / 4096 % 64 + 0x80 - 0x80)) + (n / 64 % 64 + 0x80 - 0x80)) +
            (n % 64 + 0x80 - 0x80) = n := by omega
      rwa [hn] at hspells

/-! ## Whole texts -/

theorem Spells.exists_cons {bytes : List UInt8} {n : Nat} (h : Spells bytes n) :
    ∃ byte rest, bytes = byte :: rest := by
  cases h with
  | whole _ => exact ⟨_, _, rfl⟩
  | started _ _ => exact ⟨_, _, rfl⟩

/-- The bytes that a character is encoded in spell it. -/
theorem spells_utf8EncodeChar (c : Char) : Spells (String.utf8EncodeChar c) c.toNat := by
  refine spells_iff.2 ⟨c.valid, ?_⟩
  rw [Char.ofNat_toNat]

/-- What bytes are read as is the text that they write: the strict decoder takes exactly what an encoder puts out. -/
theorem decode?_eq_some_iff {bytes : List UInt8} {cs : List Char} :
    decode? bytes = some cs ↔ bytes = cs.flatMap String.utf8EncodeChar := by
  unfold decode?
  constructor
  · intro h
    -- each character takes some bytes off the front
    induction hlength : bytes.length using Nat.strongRecOn generalizing bytes cs with
    | ind length ih =>
      cases bytes with
      | nil =>
        obtain rfl : [] = cs := Option.some.inj h
        rfl
      | cons byte bytes =>
        obtain ⟨spelled, rest, n, cs', hbytes, hspells, rfl, hrest⟩ :=
          decodeAfter_cons_eq_some_iff.1 h
        obtain ⟨-, rfl⟩ := spells_iff.1 hspells
        have hshorter : rest.length < length := by
          have hlengths := congrArg List.length hbytes
          obtain ⟨first, others, hcons⟩ := hspells.exists_cons
          rw [List.length_append, hcons, List.length_cons, List.length_cons] at hlengths
          rw [List.length_cons] at hlength
          omega
        rw [List.flatMap_cons, ← ih rest.length hshorter hrest rfl, hbytes]
  · rintro rfl
    induction cs with
    | nil => rfl
    | cons c cs ih =>
      obtain ⟨byte, rest, hcons⟩ := (spells_utf8EncodeChar c).exists_cons
      have hspells : Spells (byte :: rest) c.toNat := hcons ▸ spells_utf8EncodeChar c
      rw [List.flatMap_cons, hcons]
      exact decodeAfter_cons_eq_some_iff.2
        ⟨byte :: rest, _, c.toNat, cs, rfl, hspells, by rw [Char.ofNat_toNat], ih⟩

/-- A text that is encoded is decoded to its characters. -/
theorem decode?_encode (s : String) : decode? (encode s) = some s.toList :=
  decode?_eq_some_iff.2 rfl

/-- What is read at all is read alike however broken characters are marked. The induction is on the bytes. -/
theorem decodeAfter_of_some {pending : Option PartialChar} {bytes : List UInt8} {cs : List Char}
    (mark : List Char) (h : decodeAfter none pending bytes = some cs) :
    decodeAfter (some mark) pending bytes = some cs := by
  induction bytes generalizing pending cs with
  | nil =>
    cases pending with
    | none => exact h
    | some p => exact absurd h (by simp [decodeAfter])
  | cons byte bytes ih =>
    cases pending with
    | none =>
      -- nothing is pending: the byte is a character or starts one, or the strict decoder would have failed
      rw [decodeAfter_none_cons] at h
      rw [decodeAfter]
      unfold startChar
      split at h
      · rename_i hwhole
        rw [if_pos hwhole]
        obtain ⟨cs', hrest, rfl⟩ := Option.map_eq_some_iff.1 h
        dsimp only
        rw [ih hrest]
        rfl
      · rename_i hstarted
        rw [if_neg hstarted]
        cases hlead : leadByte? byte.toNat with
        | none =>
          rw [hlead] at h
          exact absurd h (by simp)
        | some lead =>
          rw [hlead] at h
          exact ih h
    | some p =>
      -- a character is pending: the byte goes on with it, or the strict decoder would have failed
      rw [decodeAfter_some_cons] at h
      rw [decodeAfter]
      split at h
      · rename_i hbounds
        rw [if_pos hbounds]
        split at h
        · rename_i howed
          rw [if_pos howed]
          obtain ⟨cs', hrest, rfl⟩ := Option.map_eq_some_iff.1 h
          rw [ih hrest]
          rfl
        · rename_i howed
          rw [if_neg howed]
          exact ih h
      · exact absurd h (by simp)

/-- Nothing is left out of the bytes that write a text. -/
theorem decodeLossy_encode (s : String) : decodeLossy (encode s) = s.toList := by
  have hread : decodeAfter (some []) none (encode s) = some s.toList :=
    decodeAfter_of_some [] (decode?_encode s)
  rw [decodeLossy, hread]
  rfl

/-- Bytes that are not read as a text write none. -/
theorem decode?_eq_none_iff {bytes : List UInt8} :
    decode? bytes = none ↔ ∀ s : String, encode s ≠ bytes := by
  constructor
  · rintro hnone s rfl
    rw [decode?_encode] at hnone
    exact absurd hnone (by simp)
  · intro h
    cases hcs : decode? bytes with
    | none => rfl
    | some cs =>
      refine absurd ?_ (h (String.ofList cs))
      rw [encode, String.toList_ofList]
      exact (decode?_eq_some_iff.1 hcs).symm

/-! ## Line ends -/

/-- A text that starts with no line feed has no share in the line ends before it. -/
theorem universalNewlines_append {a b : List Char} (h : b.head? ≠ some '\n') :
    universalNewlines (a ++ b) = universalNewlines a ++ universalNewlines b := by
  induction a using universalNewlines.induct with
  | case1 => rfl
  | case2 rest ih =>
    show '\n' :: universalNewlines (rest ++ b) = _
    rw [ih]
    rfl
  | case3 c rest hpair ih =>
    -- the return and the line feed of a pair are not parted, since `b` does not start with a line feed
    have hpair' : ∀ rest', c = '\r' → rest ++ b = '\n' :: rest' → False := by
      rintro rest' rfl heq
      cases rest with
      | nil => exact h (by rw [show b = '\n' :: rest' from heq]; rfl)
      | cons d rest =>
        obtain ⟨rfl, -⟩ := List.cons.inj heq
        exact hpair rest rfl rfl
    rw [List.cons_append, universalNewlines.eq_3 c (rest ++ b) hpair',
      universalNewlines.eq_3 c rest hpair, ih, List.cons_append]

/-- A text without a carriage return stays as it is, whatever follows. -/
theorem universalNewlines_append_of_no_return {a : List Char} (h : '\r' ∉ a) (b : List Char) :
    universalNewlines (a ++ b) = a ++ universalNewlines b := by
  induction a with
  | nil => rfl
  | cons c rest ih =>
    obtain ⟨hc, hrest⟩ := not_or.1 (mt List.mem_cons.2 h)
    rw [List.cons_append, universalNewlines.eq_3 c (rest ++ b) fun _ heq => absurd heq.symm hc,
      if_neg fun heq => hc heq.symm, ih hrest, List.cons_append]

end FeatureAudit.Text
