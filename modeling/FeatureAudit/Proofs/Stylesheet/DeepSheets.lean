import FeatureAudit.Proofs.Stylesheet.Faults
import FeatureAudit.Proofs.Stylesheet.Places

/-!
# Stylesheets of any depth

Nothing in the text of a stylesheet bounds how deeply its rules are nested. So however much room there is, there are
sheets that just fit, and one rule more does not. A row of opening braces will do: the end of the text closes them.

* **`deepSheet`** — a selector with a use, and any number of braces behind it.
* **`sheet_deepSheet`** — its rules, each inside the one before.
* **`depthOfAll_deepSheet`** — it is as deep as it has braces.
* **`extractNodes_deepSheet`** — it has the uses of its selector, however deep it is.
-/
namespace FeatureAudit.Stylesheet

open FeatureAudit.Text Component

/-- A combinator that pierces shadow boundaries, and a number of opening braces. -/
def deepSheet (braces : Nat) : String := String.ofList (">>>".toList ++ List.replicate braces '\x7b')

/-! ## Its lexemes -/

/-- Opening braces one after the other, the first at the given place. -/
def openingsFrom (pos : Position) : Nat → List (Position × Lexeme)
  | 0 => []
  | n + 1 => (pos, .opening (.block .curly)) :: openingsFrom (pos.next '\x7b') n

/-- A range of characters starts with a small or a capital u and with nothing else. -/
theorem startsUnicodeRange_of_ne {c : Char} (hsmall : c ≠ 'u') (hcapital : c ≠ 'U') (rest : List Char) :
    startsUnicodeRange (c :: rest) = false := by
  unfold startsUnicodeRange
  split
  · rename_i heq
    obtain ⟨rfl, -⟩ := List.cons.inj heq
    simp [hsmall, hcapital]
  · rfl

/-- An opening brace is one lexeme wherever it stands: no name, number, escape or range of characters starts with it.
-/
theorem next_brace (rest : List Char) :
    Lexeme.next '\x7b' rest = ([.opening (.block .curly)], rest) := by
  simp [Lexeme.next, startsUnicodeRange_of_ne, isSpace, startsIdent, startsEscape, isNameStart, numberText, markLexemes]

/-- An arrow that no sign of equality follows is one lexeme, so a run of arrows is read one by one. -/
theorem next_arrow (c : Char) (rest : List Char) (hc : c ≠ '=') :
    Lexeme.next '>' (c :: rest) = ([oneLiteral '>'], c :: rest) := by
  simp [Lexeme.next, startsUnicodeRange_of_ne, isSpace, startsIdent, startsEscape, isNameStart, numberText,
    markLexemes, hc]

/-- A lexeme of one character leads to the place after that character. -/
theorem lexemesFrom_of_next {c : Char} {rest : List Char} {l : Lexeme} (h : Lexeme.next c rest = ([l], rest))
    (fuel : Nat) (pos : Position) :
    lexemesFrom (fuel + 1) pos (rest.length + 1) (c :: rest) =
      (pos, l) :: lexemesFrom fuel (pos.next c) rest.length rest := by
  have hused : (c :: rest).take (rest.length + 1 - rest.length) = [c] := by
    rw [Nat.add_sub_cancel_left]
    rfl
  rw [lexemesFrom, h]
  simp only [hused]
  rfl

/-- A run of opening braces is a run of lexemes that open, each one column further on. -/
theorem lexemesFrom_braces (n : Nat) (pos : Position) :
    lexemesFrom n pos n (List.replicate n '\x7b') = openingsFrom pos n := by
  induction n generalizing pos with
  | zero => rfl
  | succ n ih =>
    have hstep := lexemesFrom_of_next (next_brace (List.replicate n '\x7b')) n pos
    rw [List.length_replicate, ih] at hstep
    exact hstep

/-- Opening braces are no line ends and no zero characters, so the reading of lines leaves them as they are. -/
theorem normalised_braces (n : Nat) :
    normalised (List.replicate n '\x7b') = List.replicate n '\x7b' := by
  induction n with
  | zero => rfl
  | succ n ih =>
    rw [List.replicate_succ, normalised.eq_3 _ _ (by simp), ih]
    rfl

theorem lexemes_deepSheet (n : Nat) :
    lexemes (deepSheet (n + 1)) =
      (⟨1, 1⟩, oneLiteral '>') :: (⟨1, 2⟩, oneLiteral '>') :: (⟨1, 3⟩, oneLiteral '>') ::
        openingsFrom ⟨1, 4⟩ (n + 1) := by
  -- the last arrow is followed by a brace, so there is one, and each arrow is followed by no sign of equality
  have hchars : normalised (deepSheet (n + 1)).toList =
      '>' :: '>' :: '>' :: '\x7b' :: List.replicate n '\x7b' := by
    have hbraces := normalised_braces (n + 1)
    rw [List.replicate_succ] at hbraces
    rw [deepSheet, String.toList_ofList, List.replicate_succ]
    show normalised ('>' :: '>' :: '>' :: '\x7b' :: List.replicate n '\x7b') = _
    rw [normalised.eq_3 _ _ (by simp), normalised.eq_3 _ _ (by simp), normalised.eq_3 _ _ (by simp), hbraces]
    rfl
  have hbraces := lexemesFrom_braces (n + 1) ⟨1, 4⟩
  rw [List.replicate_succ] at hbraces
  have hlength : ('\x7b' :: List.replicate n '\x7b').length = n + 1 := by
    rw [List.length_cons, List.length_replicate]
  rw [lexemes, hchars, List.length_cons, lexemesFrom_of_next (next_arrow _ _ (by decide)), List.length_cons,
    lexemesFrom_of_next (next_arrow _ _ (by decide)), List.length_cons,
    lexemesFrom_of_next (next_arrow _ _ (by decide)), hlength]
  exact congrArg (fun ls => _ :: _ :: _ :: ls) hbraces

/-! ## Its components -/

/-- Blocks in braces, each in the one before, the first at the given place. -/
def blocksFrom (pos : Position) : Nat → List Component
  | 0 => []
  | n + 1 => [.nest pos (.block .curly) (blocksFrom (pos.next '\x7b') n)]

/-- The end of the text closes what is open, from the inside to the outside. -/
theorem nestedFrom_openings (n : Nat) (pos : Position) (frames : List Frame) (done : List Component) :
    nestedFrom frames done (openingsFrom pos n) = closeAll frames ((blocksFrom pos n).reverse ++ done) := by
  induction n generalizing pos frames done with
  | zero => rfl
  | succ n ih =>
    rw [openingsFrom, nestedFrom, ih, closeAll, List.foldl_cons, closeFrame, List.append_nil, List.reverse_reverse]
    rfl

/-! ## Its rules -/

/-- Rules without a selector, each in the one before, the first at the given place. -/
def rulesFrom (pos : Position) : Nat → List Node
  | 0 => []
  | n + 1 => [.rule pos [] (rulesFrom (pos.next '\x7b') n)]

/-- Blocks in blocks are rules in rules: a block without a prelude is a rule with an empty selector, and in it stands
the next. -/
theorem nodesOf_blocksFrom (n : Nat) (pos : Position) :
    nodesOf true (blocksFrom pos n) = rulesFrom pos n := by
  induction n generalizing pos with
  | zero => simp [nodesOf_eq_map, blocksFrom, items, rulesFrom]
  | succ n ih =>
    have hitems : items true (blocksFrom pos (n + 1)) = [.rule pos [] (blocksFrom (pos.next '\x7b') n)] := by
      simp [blocksFrom, items, isFiller, isWhitespace, isLiteral, itemFrom, blockItem, declarationItem?, ruleItem]
    rw [nodesOf_eq_map, hitems, rulesFrom, ← ih]
    rfl

/-- The selector of the sheet. -/
def arrows : List Component :=
  [.leaf ⟨1, 1⟩ (.literal ">"), .leaf ⟨1, 2⟩ (.literal ">"), .leaf ⟨1, 3⟩ (.literal ">")]

/-- **The rules of the sheet stand each inside the one before.** The first has the arrows for a selector, and the
others have none. -/
theorem sheet_deepSheet (n : Nat) :
    sheet (lexemes (deepSheet (n + 1))) = [.rule ⟨1, 1⟩ arrows (rulesFrom ⟨1, 5⟩ n)] := by
  have hnested : nested (lexemes (deepSheet (n + 1))) = arrows ++ blocksFrom ⟨1, 4⟩ (n + 1) := by
    rw [lexemes_deepSheet, nested]
    show nestedFrom [] arrows.reverse (openingsFrom ⟨1, 4⟩ (n + 1)) = _
    rw [nestedFrom_openings, closeAll, List.foldl_nil, List.reverse_append, List.reverse_reverse, List.reverse_reverse]
  have hitems : items false (arrows ++ blocksFrom ⟨1, 4⟩ (n + 1)) =
      [.rule ⟨1, 1⟩ arrows (blocksFrom ⟨1, 5⟩ n)] := by
    simp [arrows, blocksFrom, items, isFiller, isWhitespace, isLiteral, itemFrom, isCurly, ruleItem, upTo,
      Component.pos, Position.next]
  rw [sheet, hnested, nodesOf_eq_map, hitems, ← nodesOf_blocksFrom]
  rfl

/-- Every brace opens a rule in the last one, so the forest is as deep as there are braces. Nothing closes them: a
stylesheet that ends inside a block is read as if the block ended there. -/
theorem depthOfAll_rulesFrom (n : Nat) (pos : Position) : Node.depthOfAll (rulesFrom pos n) = n := by
  induction n generalizing pos with
  | zero => rfl
  | succ n ih => simp [rulesFrom, Node.depthOfAll, Node.depth, Component.depthOfAll, ih]

theorem depthOfAll_deepSheet (n : Nat) :
    Node.depthOfAll (sheet (lexemes (deepSheet (n + 1)))) = n + 1 := by
  have harrows : Component.depthOfAll arrows = 0 := rfl
  simp [sheet_deepSheet, Node.depthOfAll, Node.depth, harrows, depthOfAll_rulesFrom]

/-! ## Its uses -/

variable {r : Registry} {target : Tier} {file : String}

/-- A walk gathers nothing in rules without a selector. -/
theorem walkAll_rulesFrom (n : Nat) (pos : Position) (w : Walk) :
    walkAll r target file (rulesFrom pos n) w = w := by
  induction n generalizing pos w with
  | zero => rfl
  | succ n ih =>
    have hscan : scanSelector (significant []) = ⟨[], []⟩ := by simp [significant, scanSelector]
    rw [rulesFrom, walkAll, walkAll, Node.walk, ih, selectorSite, hscan]
    simp [Walk.visit, Walk.note, Tally.addAll]

/-- The uses of the sheet are those of its selector, however deep it is. -/
theorem extractNodes_deepSheet (n : Nat) :
    extractNodes r target file (sheet (lexemes (deepSheet (n + 1)))) =
      extractNodes r target file [.rule ⟨1, 1⟩ arrows []] := by
  rw [sheet_deepSheet, extractNodes, extractNodes]
  simp only [walkAll, Node.walk, walkAll_rulesFrom]

theorem longInteger?_deepSheet (n : Nat) : longInteger? (lexemes (deepSheet (n + 1))) = none := by
  have hbraces (n : Nat) (pos : Position) : longInteger? (openingsFrom pos n) = none := by
    induction n generalizing pos with
    | zero => rfl
    | succ n ih => exact ih (pos.next '\x7b')
  rw [lexemes_deepSheet]
  exact hbraces (n + 1) ⟨1, 4⟩

end FeatureAudit.Stylesheet
