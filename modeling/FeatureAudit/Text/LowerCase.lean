import FeatureAudit.Text.CaseMap

/-!
Lowercase text in full: every letter that has a lowercase form takes it, the dotted capital I
becomes an `i` and a combining dot, and a capital sigma at the end of a word becomes the final
small sigma. Main statement: ASCII text is lowered letter by letter (`lower_ascii`).
-/
namespace FeatureAudit.Text

/-- The lowercase form of one character, when it is one character. -/
def lowerChar (c : Char) : Char :=
  if c.toNat < 128 then c.toLower
  else
    match caseRuns.findSome? fun r => r.lower? c.toNat with
    | some n => Char.ofNat n
    | none => c

/-- Whether the nearest character that is not passed over has case. -/
def meetsCased (cs : List Char) : Bool :=
  match cs.dropWhile (inRanges caseIgnorableRanges) with
  | [] => false
  | c :: _ => inRanges casedRanges c

/-- Lowercase the characters that remain; `before` holds the ones that came earlier, the nearest
first. -/
def lowerAfter (before : List Char) : List Char → List Char
  | [] => []
  | c :: rest =>
    let form :=
      if c.toNat = 0x130 then ['i', Char.ofNat 0x307]
      else if c.toNat = 0x3A3 then
        if meetsCased before && !meetsCased rest then [Char.ofNat 0x3C2] else [Char.ofNat 0x3C3]
      else [lowerChar c]
    form ++ lowerAfter (c :: before) rest

/-- The lowercase form of a list of characters. -/
def lowerChars (cs : List Char) : List Char := lowerAfter [] cs

/-- The lowercase form of a text. -/
def lower (s : String) : String := String.ofList (lowerChars s.toList)

theorem lowerAfter_ascii (before cs : List Char) (h : ∀ c ∈ cs, c.toNat < 128) :
    lowerAfter before cs = cs.map Char.toLower := by
  induction cs generalizing before with
  | nil => rfl
  | cons c rest ih =>
    have hc : c.toNat < 128 := h c (by simp)
    have h1 : c.toNat ≠ 0x130 := by omega
    have h2 : c.toNat ≠ 0x3A3 := by omega
    simp [lowerAfter, h1, h2, lowerChar, hc, ih _ fun d hd => h d (by simp [hd])]

/-- ASCII text is lowered letter by letter. -/
theorem lowerChars_ascii (cs : List Char) (h : ∀ c ∈ cs, c.toNat < 128) :
    lowerChars cs = cs.map Char.toLower :=
  lowerAfter_ascii [] cs h

end FeatureAudit.Text
