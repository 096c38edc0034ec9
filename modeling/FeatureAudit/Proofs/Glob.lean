import Mathlib.Data.List.Basic
import FeatureAudit.Glob

/-!
# What glob patterns match

A pattern is matched through a table of the suffixes of the text that the rest of the pattern accepts. What the table
holds is said here by the pattern itself, character by character. A slash is a character like any other to it, so what
stands before the slash of a leading `**/` can be any text.

* **`Glob.Matches`** — the pattern matches the text.
* **`Glob.acceptedSuffixes_cons`** — the table for a text holds the one for the rest of the text.
* **`Glob.accepts_many_iff`**, **`Glob.accepts_cons_of_ne_many`** — what a piece accepts.
* **`Glob.isMatch_iff`** — matching through the table is matching.
* **`isIgnoredBy_iff`** — what one pattern ignores.
* **`leading_stars_match_any_depth`** — two stars and a slash in front, and patterns side by side.
-/
namespace FeatureAudit

open FeatureAudit.Text

namespace Glob

/-! ## Matching -/

/-- The pattern matches the text. A star takes any characters, a question mark any one, closed brackets one of their
set, and every other character takes itself, as does a bracket that is never closed. -/
inductive Matches : List Char → List Char → Prop where
  | nil : Matches [] []
  | many (taken : List Char) {p s : List Char} (h : Matches p s) : Matches ('*' :: p) (taken ++ s)
  | any (c : Char) {p s : List Char} (h : Matches p s) : Matches ('?' :: p) (c :: s)
  | set {body after p s : List Char} {c : Char} (hclosed : bracketed? p = some (body, after))
      (hmember : (setOf body).admits c = true) (h : Matches after s) : Matches ('[' :: p) (c :: s)
  | unclosed {p s : List Char} (hopen : bracketed? p = none) (h : Matches p s) : Matches ('[' :: p) ('[' :: s)
  | one {c : Char} {p s : List Char} (hstar : c ≠ '*') (hquestion : c ≠ '?') (hbracket : c ≠ '[')
      (h : Matches p s) : Matches (c :: p) (c :: s)

/-- Two stars and a slash take any text that ends in a slash. -/
theorem matches_leading_stars_iff {p s : List Char} :
    Matches ('*' :: '*' :: '/' :: p) s ↔ ∃ front rest, s = front ++ '/' :: rest ∧ Matches p rest := by
  constructor
  · -- only a star reads a star, and only the slash itself reads a slash
    rintro (_ | ⟨taken, h⟩ | _ | _ | _ | ⟨hstar, -, -, -⟩)
    · rcases h with (_ | ⟨more, h⟩ | _ | _ | _ | ⟨hstar, -, -, -⟩)
      · rcases h with (_ | _ | _ | _ | _ | ⟨-, -, -, h⟩)
        exact ⟨taken ++ more, _, by rw [List.append_assoc], h⟩
      · exact absurd rfl hstar
    · exact absurd rfl hstar
  · rintro ⟨front, rest, rfl, h⟩
    have hslash : Matches ('/' :: p) ('/' :: rest) := .one (by decide) (by decide) (by decide) h
    exact .many front (.many [] hslash)

/-! ## The table of suffixes -/

variable {p : Piece} {ps : List Piece} {c : Char} {cs : List Char}

/-- A set in brackets is never the piece that stands for any text: it stands for one character. -/
theorem setOf_ne_many (body : List Char) : setOf body ≠ .many := by
  unfold setOf
  split
  · simp
  · split <;> simp

/-- The table for a text holds the one for the rest of the text. -/
theorem acceptedSuffixes_cons (ps : List Piece) (c : Char) (cs : List Char) :
    acceptedSuffixes ps (c :: cs) = accepts ps (c :: cs) :: acceptedSuffixes ps cs := by
  induction ps with
  | nil => rfl
  | cons p ps ih =>
    rw [accepts, acceptedSuffixes, ih]
    rfl

/-- Of an empty text there is one suffix, which is accepted by pieces that accept nothing at all. -/
theorem acceptedSuffixes_nil (ps : List Piece) : acceptedSuffixes ps [] = [accepts ps []] := by
  induction ps with
  | nil => rfl
  | cons p ps ih =>
    rw [accepts, acceptedSuffixes, ih, extend]
    split <;> rfl

/-- Whether a text is accepted is told by the first of its suffixes, the text itself. -/
theorem headD_acceptedSuffixes (ps : List Piece) (cs : List Char) :
    (acceptedSuffixes ps cs).headD false = accepts ps cs := rfl

theorem accepts_nil_iff : accepts [] cs = true ↔ cs = [] := by
  cases cs <;> simp [accepts, acceptedSuffixes, emptySuffixes]

/-- A star takes nothing of a text, or its first character and then more. -/
theorem accepts_many_cons :
    accepts (.many :: ps) (c :: cs) = (accepts ps (c :: cs) || accepts (.many :: ps) cs) := by
  rw [accepts, acceptedSuffixes, acceptedSuffixes_cons]
  rfl

theorem accepts_many_nil : accepts (.many :: ps) [] = accepts ps [] := by
  rw [accepts, acceptedSuffixes, acceptedSuffixes_nil]
  rfl

/-- A piece for many characters accepts any of them. -/
theorem accepts_many_iff :
    accepts (.many :: ps) cs = true ↔ ∃ taken rest, cs = taken ++ rest ∧ accepts ps rest = true := by
  induction cs with
  | nil =>
    rw [accepts_many_nil]
    constructor
    · intro h
      exact ⟨[], [], rfl, h⟩
    · rintro ⟨taken, rest, hnil, haccepts⟩
      obtain ⟨-, rfl⟩ := List.append_eq_nil_iff.1 hnil.symm
      exact haccepts
  | cons c cs ih =>
    rw [accepts_many_cons, Bool.or_eq_true, ih]
    constructor
    · -- the star takes nothing here, or the first character and whatever it takes behind it
      rintro (hhere | ⟨taken, rest, rfl, hlater⟩)
      · exact ⟨[], c :: cs, rfl, hhere⟩
      · exact ⟨c :: taken, rest, rfl, hlater⟩
    · rintro ⟨taken, rest, htext, haccepts⟩
      cases taken with
      | nil => exact .inl (by rw [htext]; exact haccepts)
      | cons d taken =>
        obtain ⟨-, rfl⟩ := List.cons.inj htext
        exact .inr ⟨taken, rest, rfl, haccepts⟩

theorem accepts_cons_of_ne_many (hp : p ≠ .many) :
    accepts (p :: ps) cs = true ↔ ∃ c rest, cs = c :: rest ∧ p.admits c = true ∧ accepts ps rest = true := by
  cases cs with
  | nil => simp [accepts, acceptedSuffixes, extend, hp]
  | cons c cs =>
    -- a piece that is no star extends the table of suffixes by one step
    have hstep : accepts (p :: ps) (c :: cs) = (p.admits c && accepts ps cs) := by
      rw [accepts, acceptedSuffixes, acceptedSuffixes_cons, extend, List.headD_cons, if_neg hp, List.tail_cons,
        headD_acceptedSuffixes]
    rw [hstep, Bool.and_eq_true]
    constructor
    · intro h
      exact ⟨c, cs, rfl, h⟩
    · rintro ⟨d, rest, htext, h⟩
      obtain ⟨rfl, rfl⟩ := List.cons.inj htext
      exact h

/-! ## Matching through the table -/

/-- A bracket that is closed makes a set, and the pattern goes on behind it. -/
theorem pieces_of_closed {rest body after : List Char} (h : bracketed? rest = some (body, after)) :
    pieces ('[' :: rest) = setOf body :: pieces after := by
  rw [pieces]
  split
  · rename_i hother
    rw [h] at hother
    obtain ⟨rfl, rfl⟩ := Prod.mk.inj (Option.some.inj hother)
    rfl
  · rename_i hother
    exact absurd (h.symm.trans hother) (by simp)

theorem pieces_of_open {rest : List Char} (h : bracketed? rest = none) :
    pieces ('[' :: rest) = .one '[' :: pieces rest := by
  rw [pieces]
  split
  · rename_i hother
    exact absurd (h.symm.trans hother) (by simp)
  · rfl

theorem pieces_of_plain (hstar : c ≠ '*') (hquestion : c ≠ '?') (hbracket : c ≠ '[') (rest : List Char) :
    pieces (c :: rest) = .one c :: pieces rest := by
  rw [pieces]
  · exact hstar
  · exact hquestion
  · exact hbracket

/-- A character as a piece accepts itself, and the rest is up to the pieces behind it. -/
theorem accepts_one_iff :
    accepts (.one c :: ps) cs = true ↔ ∃ rest, cs = c :: rest ∧ accepts ps rest = true := by
  rw [accepts_cons_of_ne_many (by simp)]
  constructor
  · rintro ⟨d, rest, rfl, hd, h⟩
    obtain rfl : d = c := by simpa [Piece.admits] using hd
    exact ⟨rest, rfl, h⟩
  · rintro ⟨rest, rfl, h⟩
    exact ⟨c, rest, rfl, by simp [Piece.admits], h⟩

/-- Whatever a pattern matches its pieces accept. The induction goes along the match, one piece for each step. -/
theorem accepts_pieces_of_matches {p s : List Char} (h : Matches p s) : accepts (pieces p) s = true := by
  induction h with
  | nil => rw [pieces, accepts_nil_iff]
  | many taken _ ih =>
    rw [pieces]
    exact accepts_many_iff.2 ⟨taken, _, rfl, ih⟩
  | any c _ ih =>
    rw [pieces]
    exact (accepts_cons_of_ne_many (by simp)).2 ⟨c, _, rfl, rfl, ih⟩
  | set hclosed hmember _ ih =>
    rw [pieces_of_closed hclosed]
    exact (accepts_cons_of_ne_many (setOf_ne_many _)).2 ⟨_, _, rfl, hmember, ih⟩
  | unclosed hopen _ ih =>
    rw [pieces_of_open hopen]
    exact accepts_one_iff.2 ⟨_, rfl, ih⟩
  | one hstar hquestion hbracket _ ih =>
    rw [pieces_of_plain hstar hquestion hbracket]
    exact accepts_one_iff.2 ⟨_, rfl, ih⟩

/-- The induction is on how the pattern is read, one piece at a time. -/
theorem matches_of_accepts_pieces {p s : List Char} (h : accepts (pieces p) s = true) : Matches p s := by
  induction p using pieces.induct generalizing s with
  | case1 =>
    rw [pieces, accepts_nil_iff] at h
    exact h ▸ .nil
  | case2 rest ih =>
    rw [pieces] at h
    obtain ⟨taken, after, rfl, hafter⟩ := accepts_many_iff.1 h
    exact .many taken (ih hafter)
  | case3 rest ih =>
    rw [pieces] at h
    obtain ⟨c, after, rfl, -, hafter⟩ := (accepts_cons_of_ne_many (by simp)).1 h
    exact .any c (ih hafter)
  | case4 rest body after hclosed _ ih =>
    rw [pieces_of_closed hclosed] at h
    obtain ⟨c, later, rfl, hmember, hlater⟩ := (accepts_cons_of_ne_many (setOf_ne_many body)).1 h
    exact .set hclosed hmember (ih hlater)
  | case5 rest hopen ih =>
    rw [pieces_of_open hopen] at h
    obtain ⟨after, rfl, hafter⟩ := accepts_one_iff.1 h
    exact .unclosed hopen (ih hafter)
  | case6 c rest hstar hquestion hbracket ih =>
    rw [pieces_of_plain hstar hquestion hbracket] at h
    obtain ⟨after, rfl, hafter⟩ := accepts_one_iff.1 h
    exact .one hstar hquestion hbracket (ih hafter)

/-- Matching through the table of suffixes is matching as the shell says it: star, question mark, set and plain
character, each by its own rule. -/
theorem isMatch_iff {pattern text : String} :
    isMatch pattern text = true ↔ Matches pattern.toList text.toList :=
  ⟨matches_of_accepts_pieces, accepts_pieces_of_matches⟩

end Glob

/-! ## Ignored paths -/

variable {pattern relative : String} {patterns : List String}

/-- A pattern ignores what it matches, and what it matches without two stars and a slash in front. -/
theorem isIgnoredBy_iff :
    isIgnoredBy relative pattern = true ↔ Glob.Matches pattern.toList relative.toList ∨
      ∃ rest, pattern.toList = '*' :: '*' :: '/' :: rest ∧ Glob.Matches rest relative.toList := by
  rw [isIgnoredBy, Bool.or_eq_true, Glob.isMatch_iff]
  refine or_congr_right ?_
  -- a pattern that starts with two stars is tried once more without them
  cases hfront : ['*', '*', '/'].isPrefixOf? pattern.toList with
  | none =>
    have hno : ∀ rest, pattern.toList ≠ '*' :: '*' :: '/' :: rest := by
      intro rest heq
      have hsome : ['*', '*', '/'].isPrefixOf? pattern.toList = some rest :=
        List.isPrefixOf?_eq_some_iff_append_eq.2 heq.symm
      exact absurd (hfront.symm.trans hsome) (by simp)
    simp [hno]
  | some rest =>
    have hpattern : pattern.toList = '*' :: '*' :: '/' :: rest :=
      (List.isPrefixOf?_eq_some_iff_append_eq.1 hfront).symm
    dsimp only
    rw [Glob.isMatch_iff, String.toList_ofList, hpattern]
    simp

/-- A path is ignored by patterns exactly if one of them ignores it. -/
theorem isIgnored_iff : isIgnored relative patterns = true ↔ ∃ p ∈ patterns, isIgnoredBy relative p = true := by
  rw [isIgnored, List.any_eq_true]

theorem isIgnored_singleton : isIgnored relative [pattern] = isIgnoredBy relative pattern := by
  rw [isIgnored, List.any_cons, List.any_nil, Bool.or_false]

/-- With two stars and a slash in front a pattern ignores what the rest of it matches, at the top or after any slash. -/
theorem isIgnoredBy_leading_stars_iff :
    isIgnoredBy relative ("**/" ++ pattern) = true ↔ Glob.Matches pattern.toList relative.toList ∨
      ∃ directory rest, relative = directory ++ "/" ++ rest ∧ Glob.Matches pattern.toList rest.toList := by
  have hpattern : ("**/" ++ pattern).toList = '*' :: '*' :: '/' :: pattern.toList := by
    rw [String.toList_append]
    rfl
  have hplain : (∃ rest, '*' :: '*' :: '/' :: pattern.toList = '*' :: '*' :: '/' :: rest ∧
      Glob.Matches rest relative.toList) ↔ Glob.Matches pattern.toList relative.toList := by
    simp
  have hdeep : (∃ front rest, relative.toList = front ++ '/' :: rest ∧ Glob.Matches pattern.toList rest) ↔
      ∃ directory rest, relative = directory ++ "/" ++ rest ∧ Glob.Matches pattern.toList rest.toList := by
    constructor
    · rintro ⟨front, rest, htext, h⟩
      refine ⟨String.ofList front, String.ofList rest, ?_, by rwa [String.toList_ofList]⟩
      rw [← String.toList_inj, htext]
      simp
    · rintro ⟨directory, rest, rfl, h⟩
      exact ⟨directory.toList, rest.toList, by simp, h⟩
  rw [isIgnoredBy_iff, hpattern, Glob.matches_leading_stars_iff, hplain, hdeep, or_comm]

/-- **Two stars and a slash in front mean any depth.** The pattern then ignores a path exactly if the rest of the
pattern matches the path, or what follows some slash of the path. Of several patterns each ignores what it ignores on
its own, so neither their order nor their repetition makes a difference. -/
theorem leading_stars_match_any_depth (relative : String) :
    (∀ pattern, isIgnored relative ["**/" ++ pattern] = true ↔
        Glob.Matches pattern.toList relative.toList ∨
          ∃ directory rest, relative = directory ++ "/" ++ rest ∧ Glob.Matches pattern.toList rest.toList) ∧
      (∀ patterns, isIgnored relative patterns = true ↔ ∃ p ∈ patterns, isIgnored relative [p] = true) ∧
      ∀ patterns patterns', (∀ p, p ∈ patterns' ↔ p ∈ patterns) →
        isIgnored relative patterns' = isIgnored relative patterns := by
  have hone (patterns : List String) :
      isIgnored relative patterns = true ↔ ∃ p ∈ patterns, isIgnored relative [p] = true := by
    simp only [isIgnored_iff, isIgnored_singleton]
  refine ⟨fun pattern => ?_, hone, fun patterns patterns' hsame => ?_⟩
  · rw [isIgnored_singleton, isIgnoredBy_leading_stars_iff]
  · rw [Bool.eq_iff_iff, hone, hone]
    simp only [hsame]

/-- A script deep down is ignored, whichever pattern comes first and however often. -/
theorem leading_stars_match_any_depth_of_two :
    isIgnored "lib/util/x.min.js" ["**/" ++ "[!a-m]*.js"] = true ∧
      (∀ p, p ∈ ["dist/*", "**/[!a-m]*.js", "dist/*"] ↔ p ∈ ["**/[!a-m]*.js", "dist/*"]) ∧
      isIgnored "lib/util/x.min.js" ["dist/*", "**/[!a-m]*.js", "dist/*"] =
        isIgnored "lib/util/x.min.js" ["**/[!a-m]*.js", "dist/*"] := by
  obtain ⟨hstars, -, hset⟩ := leading_stars_match_any_depth "lib/util/x.min.js"
  have hliteral : Glob.Matches ['.', 'j', 's'] ['.', 'j', 's'] := by
    refine .one ?_ ?_ ?_ (.one ?_ ?_ ?_ (.one ?_ ?_ ?_ .nil)) <;> decide
  -- the set takes the `x`, and the star what stands before the last dot
  have hname : Glob.Matches "[!a-m]*.js".toList "x.min.js".toList := by
    show Glob.Matches ('[' :: "!a-m]*.js".toList) ('x' :: (".min".toList ++ ['.', 'j', 's']))
    have hclosed : Glob.bracketed? "!a-m]*.js".toList = some ("!a-m".toList, '*' :: ['.', 'j', 's']) := by decide
    exact .set hclosed (by decide) (.many _ hliteral)
  have hsame : ∀ p, p ∈ ["dist/*", "**/[!a-m]*.js", "dist/*"] ↔ p ∈ ["**/[!a-m]*.js", "dist/*"] := by
    intro p
    simp only [List.mem_cons, List.not_mem_nil, or_false]
    constructor
    · rintro (h | h | h)
      · exact .inr h
      · exact .inl h
      · exact .inr h
    · exact .inr
  exact ⟨(hstars "[!a-m]*.js").2 (.inr ⟨"lib/util", "x.min.js", rfl, hname⟩), hsame, hset _ _ hsame⟩

end FeatureAudit
