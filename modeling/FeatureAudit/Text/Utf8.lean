/-!
Reading bytes as text.

* `decode?` reads UTF-8 and refuses bytes that are none.
* `decodeLossy` leaves out what is no UTF-8 and reads the rest.
* `decodeReplacing` marks what is no UTF-8 by the replacement character.
* `universalNewlines` makes every line end one line feed.
* `encode` writes text as bytes.
-/
namespace FeatureAudit.Text

/-- How many bytes follow a lead byte, and the least and the greatest that the first of them may
be. -/
def leadByte? (b : Nat) : Option (Nat × Nat × Nat) :=
  if 0xC2 ≤ b ∧ b ≤ 0xDF then some (1, 0x80, 0xBF)
  else if b = 0xE0 then some (2, 0xA0, 0xBF)
  else if b = 0xED then some (2, 0x80, 0x9F)
  else if 0xE1 ≤ b ∧ b ≤ 0xEF then some (2, 0x80, 0xBF)
  else if b = 0xF0 then some (3, 0x90, 0xBF)
  else if 0xF1 ≤ b ∧ b ≤ 0xF3 then some (3, 0x80, 0xBF)
  else if b = 0xF4 then some (3, 0x80, 0x8F)
  else none

/-- What has been read of a character of several bytes: how many bytes are owed, the bounds of the
next one, and the bits so far. -/
structure PartialChar where
  owed : Nat
  least : Nat
  greatest : Nat
  bits : Nat

/-- Start a character with byte `b`: it is whole, or owes bytes, or cannot start one. -/
def startChar (b : Nat) : Except Unit (Char ⊕ PartialChar) :=
  if b < 0x80 then .ok (.inl (Char.ofNat b))
  else
    match leadByte? b with
    | some (owed, least, greatest) =>
      .ok (.inr ⟨owed, least, greatest, b % (0x40 >>> owed)⟩)
    | none => .error ()

/-- Read bytes as UTF-8, given what has been read of a character. Where the bytes are none,
`mark?` decides: what is to stand for them, or that there is no text. -/
def decodeAfter (mark? : Option (List Char)) :
    Option PartialChar → List UInt8 → Option (List Char)
  | none, [] => some []
  | some _, [] => mark?
  | pending, byte :: rest =>
    let b := byte.toNat
    let fresh : Option (List Char) :=
      match startChar b with
      | .ok (.inl c) => (decodeAfter mark? none rest).map (c :: ·)
      | .ok (.inr p) => decodeAfter mark? (some p) rest
      | .error _ =>
        match mark? with
        | some mark => (decodeAfter mark? none rest).map (mark ++ ·)
        | none => none
    match pending with
    | none => fresh
    | some p =>
      if p.least ≤ b ∧ b ≤ p.greatest then
        let bits := 0x40 * p.bits + (b - 0x80)
        if p.owed ≤ 1 then (decodeAfter mark? none rest).map (Char.ofNat bits :: ·)
        else decodeAfter mark? (some ⟨p.owed - 1, 0x80, 0xBF, bits⟩) rest
      else
        match mark? with
        | some mark => fresh.map (mark ++ ·)
        | none => none

/-- The text that the bytes write in UTF-8. -/
def decode? (bytes : List UInt8) : Option (List Char) := decodeAfter none none bytes

/-- The text that the bytes write in UTF-8, without the bytes that write nothing. -/
def decodeLossy (bytes : List UInt8) : List Char := (decodeAfter (some []) none bytes).getD []

/-- What stands for bytes that write nothing. -/
def replacementMark : Char := Char.ofNat 0xFFFD

/-- The text that the bytes write in UTF-8, with a mark for each character that is broken. -/
def decodeReplacing (bytes : List UInt8) : List Char :=
  (decodeAfter (some [replacementMark]) none bytes).getD []

/-- A carriage return, alone or before a line feed, becomes a line feed. -/
def universalNewlines : List Char → List Char
  | [] => []
  | '\r' :: '\n' :: rest => '\n' :: universalNewlines rest
  | c :: rest => (if c = '\r' then '\n' else c) :: universalNewlines rest

/-- The bytes that write a text in UTF-8. -/
def encode (s : String) : List UInt8 := s.toList.flatMap String.utf8EncodeChar

end FeatureAudit.Text
