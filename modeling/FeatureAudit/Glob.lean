import FeatureAudit.Text.Run

/-!
Glob patterns: `*` stands for any text, slashes included, `?` for any character, and brackets for
one character of a set. A pattern matches a whole text.

* `Glob.ofString` reads a pattern.
* `Glob.accepts` matches in time proportional to the pattern times the text, through the table of
  the suffixes that the rest of the pattern accepts.
* `isIgnored` matches a relative path against several patterns.
-/
namespace FeatureAudit

open FeatureAudit.Text

namespace Glob

/-- Members of a bracketed set: one character, or all from one to another. -/
inductive Member where
  | one (c : Char)
  | range (first last : Char)
  deriving DecidableEq, Repr

/-- Whether a character is among the members. -/
def Member.has (c : Char) : Member → Bool
  | .one d => c == d
  | .range first last => first ≤ c && c ≤ last

/-- One piece of a pattern. -/
inductive Piece where
  | one (c : Char)
  | any
  | many
  | set (negated : Bool) (members : List Member)
  deriving DecidableEq, Repr

/-- Whether a piece for one character accepts it. -/
def Piece.admits (c : Char) : Piece → Bool
  | .one d => c == d
  | .any => true
  | .many => false
  | .set negated members => negated != members.any (Member.has c)

/-- The members that a text between brackets lists. A hyphen between two characters makes them the
ends of a range. -/
def members : List Char → List Member
  | [] => []
  | first :: '-' :: last :: rest => .range first last :: members rest
  | c :: rest => .one c :: members rest

/-- Whether a member can hold a character: a range from a later character to an earlier one holds
none. -/
def Member.isInhabited : Member → Bool
  | .one _ => true
  | .range first last => first ≤ last

/-- The set of a text between brackets. An exclamation mark in front negates it, also one that
comes to the front because the ranges before it are empty. -/
def setOf : List Char → Piece
  | '!' :: rest => .set true ((members rest).filter Member.isInhabited)
  | cs =>
    match (members cs).filter Member.isInhabited with
    | .one '!' :: rest => .set true rest
    | .range '!' last :: rest => .set true (.one '-' :: .one last :: rest)
    | kept => .set false kept

/-- The text before the first closing bracket and the text after it. -/
def closing? : List Char → Option (List Char × List Char)
  | [] => none
  | ']' :: rest => some ([], rest)
  | c :: rest => (closing? rest).map fun r => (c :: r.1, r.2)

/-- The text between brackets and the text after them. A closing bracket that comes first is a
member; so is one right after the negating mark. -/
def bracketed? : List Char → Option (List Char × List Char)
  | '!' :: ']' :: rest => (closing? rest).map fun r => ('!' :: ']' :: r.1, r.2)
  | '!' :: rest => (closing? rest).map fun r => ('!' :: r.1, r.2)
  | ']' :: rest => (closing? rest).map fun r => (']' :: r.1, r.2)
  | cs => closing? cs

theorem closing?_length {cs body rest : List Char} (h : closing? cs = some (body, rest)) :
    rest.length < cs.length := by
  induction cs generalizing body with
  | nil => simp [closing?] at h
  | cons c cs ih =>
    unfold closing? at h
    split at h
    · simp at h
    · rename_i heq
      simp only [List.cons.injEq] at heq
      simp only [Option.some.injEq, Prod.mk.injEq] at h
      rw [← h.2, heq.2]
      simp
    · rename_i heq
      simp only [List.cons.injEq] at heq
      obtain ⟨⟨b, r⟩, hr, hb⟩ := Option.map_eq_some_iff.1 h
      simp only [Prod.mk.injEq] at hb
      have hc : closing? cs = some (b, rest) := by rw [heq.2, hr, hb.2]
      have := ih hc
      simp only [List.length_cons]
      omega

theorem bracketed?_length {cs body rest : List Char} (h : bracketed? cs = some (body, rest)) :
    rest.length < cs.length := by
  unfold bracketed? at h
  split at h
  all_goals first
    | exact closing?_length h
    | obtain ⟨⟨b, r⟩, hr, hb⟩ := Option.map_eq_some_iff.1 h
      simp only [Prod.mk.injEq] at hb
      have := closing?_length hr
      rw [hb.2] at this
      simp only [List.length_cons]
      omega

/-- The pieces of a pattern. A bracket that is never closed stands for itself. -/
def pieces : List Char → List Piece
  | [] => []
  | '*' :: rest => .many :: pieces rest
  | '?' :: rest => .any :: pieces rest
  | '[' :: rest =>
    match h : bracketed? rest with
    | some (body, after) =>
      have := bracketed?_length h
      setOf body :: pieces after
    | none => .one '[' :: pieces rest
  | c :: rest => .one c :: pieces rest
  termination_by cs => cs.length

/-- For each suffix of a text, longest first, whether a piece followed by the rest of a pattern
accepts it, given the same for the rest alone. -/
def extend (p : Piece) : List Char → List Bool → List Bool
  | [], accepted => if p = .many then accepted else [false]
  | c :: rest, accepted =>
    let later := extend p rest accepted.tail
    (if p = .many then accepted.headD false || later.headD false
      else p.admits c && accepted.tail.headD false) :: later

/-- For each suffix of a text, longest first, whether it is empty. -/
def emptySuffixes : List Char → List Bool
  | [] => [true]
  | _ :: rest => false :: emptySuffixes rest

/-- For each suffix of a text, longest first, whether the pieces accept it. -/
def acceptedSuffixes : List Piece → List Char → List Bool
  | [], cs => emptySuffixes cs
  | p :: rest, cs => extend p cs (acceptedSuffixes rest cs)

/-- Whether the pieces accept a whole text. -/
def accepts (ps : List Piece) (cs : List Char) : Bool := (acceptedSuffixes ps cs).headD false

/-- Whether a pattern matches a text. -/
def isMatch (pattern text : String) : Bool := accepts (pieces pattern.toList) text.toList

end Glob

/-- Whether one pattern ignores a relative path. Two stars and a slash in front stand for any
directory, and for none. -/
def isIgnoredBy (relative pattern : String) : Bool :=
  Glob.isMatch pattern relative ||
    match List.isPrefixOf? ['*', '*', '/'] pattern.toList with
    | some rest => Glob.isMatch (String.ofList rest) relative
    | none => false

/-- Whether any of the patterns ignores a relative path. -/
def isIgnored (relative : String) (patterns : List String) : Bool :=
  patterns.any (isIgnoredBy relative)

end FeatureAudit
