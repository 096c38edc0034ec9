import FeatureAudit.Stylesheet.Lexeme

/-!
# Where the lexemes of a text stand

Every lexeme starts after the one before it, with one exception: the mark of a string or an address
that the end of the text cuts off stands where the string or address starts. Nothing comes after
such a mark.

* **`Position.Before`** — the order of places.
* **`Reads`** — what one step reads: a lexeme at most, or one that is cut off and its mark.
* **`next_reads`** — every step does.
* **`lexemes_follow`** — so the lexemes of a text follow one another.
-/
namespace FeatureAudit.Stylesheet

open FeatureAudit.Text

/-! ## Places -/

namespace Position

/-- On an earlier line, or on the same line in an earlier column. -/
def Before (p q : Position) : Prop := p.line < q.line ∨ p.line = q.line ∧ p.column < q.column

/-- Places come one before another as dates do: what is before the earlier of two is before the later. -/
theorem Before.trans {p q s : Position} (hpq : p.Before q) (hqs : q.Before s) : p.Before s := by
  unfold Before at *
  omega

/-- No place is before itself, so a list of places that go on has none twice. -/
theorem not_before_self (p : Position) : ¬ p.Before p := by
  unfold Before
  omega

/-- A character leads on to a later place, be it on the same line or on the next one. -/
theorem before_next (p : Position) (c : Char) : p.Before (p.next c) := by
  unfold Before next
  split <;> simp

theorem before_after (p : Position) (c : Char) (cs : List Char) : p.Before (p.after (c :: cs)) := by
  induction cs generalizing p c with
  | nil => exact p.before_next c
  | cons d ds ih => exact (p.before_next c).trans (ih (p.next c) d)

end Position

/-! ## One step -/

/-- The mark that the text ended inside a string or an address. -/
def Leaf.isEndMark : Leaf → Bool
  | .error .endInString => true
  | .error .endInUrl => true
  | _ => false

/-- The lexeme is such a mark. -/
def Lexeme.isEndMark : Lexeme → Bool
  | .leaf l => l.isEndMark
  | _ => false

/-- What a step may read, and what it leaves: one lexeme at most, or one that is cut off by the end
of the text and the mark that says so. -/
inductive Reads : List Lexeme × List Char → Prop where
  | nothing (rest : List Char) : Reads ([], rest)
  | one {l : Lexeme} (rest : List Char) (h : l.isEndMark = false) : Reads ([l], rest)
  | cutOff {l mark : Lexeme} (h : l.isEndMark = false) (hmark : mark.isEndMark = true) :
      Reads ([l, mark], [])

/-! ### Names -/

/-- What is left behind a name is no longer than what the name was read from. -/
theorem name_length_le (cs : List Char) : (name cs).2.length ≤ cs.length := by
  fun_induction name cs with
  | case1 => simp
  | case2 c rest _ more rest' heq ih =>
    rw [heq] at ih
    simp only [List.length_cons] at ih ⊢
    omega
  | case3 c rest _ e more rest' heq hescape ih =>
    have hescaped : e.2.length ≤ rest.length := escaped_length_le rest
    rw [if_pos hescape, List.length_cons]
    show (name e.2).2.length ≤ rest.length + 1
    omega
  | case4 c rest _ hescape => simp [hescape]

/-- Where a name starts, it takes a character or more, so less is left behind it. -/
theorem name_length_lt {cs : List Char} (h : startsIdent cs = true) :
    (name cs).2.length < cs.length := by
  cases cs with
  | nil => simp [startsIdent] at h
  | cons c rest =>
    rw [name]
    split
    · have := name_length_le rest
      simp only [List.length_cons]
      omega
    · rename_i hname
      split
      · have := name_length_le (escaped rest).2
        have := escaped_length_le rest
        simp only [List.length_cons]
        omega
      · -- the start of an identifier is a character of a name or an escape
        rename_i hescape
        exfalso
        simp only [isNameChar, Bool.or_eq_true, beq_iff_eq, not_or] at hname
        unfold startsIdent at h
        split at h
        · rename_i heq
          injection heq with hc
          exact hname.2 hc
        · rename_i heq
          injection heq with hc hrest
          subst hc hrest
          simp [hname.1.1, hescape] at h
        · rename_i heq
          injection heq

/-! ### Strings and addresses -/

/-- What is left behind a string is no longer than what it was read from. A string that is cut off, without a closing
quotation mark, was cut off by the end of the text, so nothing is left. -/
theorem stringRest_reads (quote : Char) (fuel : Nat) (done cs : List Char)
    (hfuel : cs.length < fuel) :
    (stringRest quote fuel done cs).2.length ≤ cs.length ∧
      ∀ value, (stringRest quote fuel done cs).1 = some (value, false) →
        (stringRest quote fuel done cs).2 = [] := by
  induction fuel generalizing done cs with
  | zero => omega
  | succ fuel ih =>
    cases cs with
    | nil => simp [stringRest]
    | cons c rest =>
      simp only [List.length_cons] at hfuel
      unfold stringRest
      dsimp only
      split
      · simp
      · split
        · split
          · simp
          · rename_i rest'
            simp only [List.length_cons] at hfuel ⊢
            obtain ⟨hlength, hopen⟩ := ih done rest' (by omega)
            exact ⟨by omega, hopen⟩
          · -- an escape takes one character or more
            have hescaped := escaped_length_le rest
            obtain ⟨hlength, hopen⟩ :=
              ih ((escaped rest).1 :: done) (escaped rest).2 (by omega)
            exact ⟨by simp only [List.length_cons]; omega, hopen⟩
        · split
          · simp
          · obtain ⟨hlength, hopen⟩ := ih (c :: done) rest (by omega)
            exact ⟨by simp only [List.length_cons]; omega, hopen⟩

/-- A bad address is passed over up to its closing bracket, so what is left is no longer than before. -/
theorem afterBadUrl_length_le (cs : List Char) : (afterBadUrl cs).length ≤ cs.length := by
  fun_induction afterBadUrl cs with
  | case1 => simp
  | case2 rest ih => simp only [List.length_cons]; omega
  | case3 rest => simp
  | case4 c rest _ _ ih => simp only [List.length_cons]; omega

/-- The same for an address without quotation marks: it takes what it reads, and one that is cut off leaves nothing.
The induction is on the fuel, with the characters read so far left free. -/
theorem urlRest_reads (fuel : Nat) (done cs : List Char) (hfuel : cs.length < fuel) :
    (urlRest fuel done cs).2.length ≤ cs.length ∧
      ∀ value, (urlRest fuel done cs).1 = some (value, false) →
        (urlRest fuel done cs).2 = [] := by
  induction fuel generalizing done cs with
  | zero => omega
  | succ fuel ih =>
    cases cs with
    | nil => simp [urlRest]
    | cons c rest =>
      simp only [List.length_cons] at hfuel
      unfold urlRest
      dsimp only
      split
      · simp
      · split
        · -- behind a space only the closing bracket may follow
          have hspace := (rest.dropWhile_sublist isSpace).length_le
          split
          · simp
          · rename_i rest' heq
            rw [heq, List.length_cons] at hspace
            simp only [List.length_cons]
            exact ⟨by omega, by simp⟩
          · have := afterBadUrl_length_le (rest.dropWhile isSpace)
            simp only [List.length_cons]
            exact ⟨by omega, by simp⟩
        · split
          · have hescaped := escaped_length_le rest
            obtain ⟨hlength, hopen⟩ :=
              ih ((escaped rest).1 :: done) (escaped rest).2 (by omega)
            exact ⟨by simp only [List.length_cons]; omega, hopen⟩
          · split
            · have := afterBadUrl_length_le rest
              simp only [List.length_cons]
              exact ⟨by omega, by simp⟩
            · obtain ⟨hlength, hopen⟩ := ih (c :: done) rest (by omega)
              exact ⟨by simp only [List.length_cons]; omega, hopen⟩

/-- A string is one lexeme, or it is cut off and has the mark of the end of the text behind it. -/
theorem stringLexemes_reads (quote : Char) (cs : List Char) :
    Reads (stringLexemes quote cs) ∧ (stringLexemes quote cs).2.length ≤ cs.length := by
  obtain ⟨hlength, hopen⟩ := stringRest_reads quote (cs.length + 1) [] cs (by omega)
  unfold stringLexemes
  split
  · rename_i value rest heq
    rw [heq] at hlength
    exact ⟨.one rest rfl, hlength⟩
  · -- the string is cut off, so there are two lexemes and nothing is left to be read
    rename_i value rest heq
    rw [heq] at hlength hopen
    obtain rfl := hopen value rfl
    exact ⟨.cutOff rfl rfl, hlength⟩
  · rename_i rest heq
    rw [heq] at hlength
    exact ⟨.one rest rfl, hlength⟩

/-- An address without quotation marks is one lexeme, or it is cut off and has the mark of the end of the text behind
it. -/
theorem urlLexemes_reads (cs : List Char) :
    Reads (urlLexemes cs) ∧ (urlLexemes cs).2.length ≤ cs.length := by
  have hspace := (cs.dropWhile_sublist isSpace).length_le
  obtain ⟨hlength, hopen⟩ :=
    urlRest_reads ((cs.dropWhile isSpace).length + 1) [] (cs.dropWhile isSpace) (by omega)
  unfold urlLexemes
  dsimp only
  split
  · rename_i value rest heq
    rw [heq] at hlength
    exact ⟨.one rest rfl, Nat.le_trans hlength hspace⟩
  · rename_i value rest heq
    rw [heq] at hlength hopen
    obtain rfl := hopen value rfl
    exact ⟨.cutOff rfl rfl, Nat.le_trans hlength hspace⟩
  · rename_i rest heq
    rw [heq] at hlength
    exact ⟨.one rest rfl, Nat.le_trans hlength hspace⟩

/-! ### Numbers and ranges -/

/-- A range of characters is one lexeme, in each of its forms: with question marks, with a second bound, or with a
first one alone. -/
theorem unicodeRange_reads (cs : List Char) :
    Reads ([.leaf (unicodeRange cs).1], (unicodeRange cs).2) ∧
      (unicodeRange cs).2.length ≤ cs.length := by
  unfold unicodeRange
  dsimp only
  split
  · split
    · split
      · exact ⟨.one _ rfl, by simp only [List.length_drop]; omega⟩
      · exact ⟨.one _ rfl, by simp only [List.length_drop]; omega⟩
    · exact ⟨.one _ rfl, by simp only [List.length_drop]; omega⟩
  · exact ⟨.one _ rfl, by simp only [List.length_drop]; omega⟩

/-- A number takes at least its own characters, and what may follow it, a unit or a percent sign, belongs to the same
lexeme. -/
theorem numberLexemes_reads {number cs : List Char} (hnumber : number ≠ []) (hcs : cs ≠ []) :
    Reads (numberLexemes number cs) ∧ (numberLexemes number cs).2.length < cs.length := by
  have hlength : (cs.drop number.length).length < cs.length := by
    have := List.length_pos_iff.2 hnumber
    have := List.length_pos_iff.2 hcs
    rw [List.length_drop]
    omega
  unfold numberLexemes
  dsimp only
  split
  · exact ⟨.one _ rfl, Nat.lt_of_le_of_lt (name_length_le _) hlength⟩
  · split
    · rename_i rest' heq
      rw [heq, List.length_cons] at hlength
      exact ⟨.one _ rfl, by dsimp only; omega⟩
    · exact ⟨.one _ rfl, hlength⟩

/-! ### All kinds of lexemes -/

/-- What is left behind a comment is no longer than what it was read from, also where the comment is never closed. -/
theorem afterComment_length_le (cs : List Char) : (afterComment cs).length ≤ cs.length := by
  fun_induction afterComment cs with
  | case1 => simp
  | case2 rest => simp only [List.length_cons]; omega
  | case3 c rest _ ih => simp only [List.length_cons]; omega

/-- What starts with a name is a function, an address or an identifier, and in each case the name itself is taken, so
less is left. -/
theorem nameLexemes_reads {cs : List Char} (h : startsIdent cs = true) :
    Reads (nameLexemes cs) ∧ (nameLexemes cs).2.length < cs.length := by
  have hlength := name_length_lt h
  unfold nameLexemes
  dsimp only
  split
  · rename_i rest' heq
    rw [heq, List.length_cons] at hlength
    refine iteInduction (motive := fun x => Reads x ∧ x.2.length < cs.length) ?_ ?_
    · intro _
      obtain ⟨hreads, hurl⟩ := urlLexemes_reads rest'
      exact ⟨hreads, by omega⟩
    · intro _
      exact ⟨.one _ rfl, by dsimp only; omega⟩
  · exact ⟨.one _ rfl, hlength⟩

/-- What starts with no name and no number is a mark. A name behind a hash or an at sign belongs to it, a bracket
opens or closes, a quotation mark starts a string, and any other character stands for itself; a comment is passed over
and leaves nothing. -/
theorem markLexemes_reads (c : Char) (rest : List Char) :
    Reads (markLexemes c rest) ∧ (markLexemes c rest).2.length ≤ rest.length := by
  unfold markLexemes
  split
  · split
    · exact ⟨.one _ rfl, name_length_le rest⟩
    · exact ⟨.one _ rfl, Nat.le_refl _⟩
  · refine iteInduction (motive := fun x => Reads x ∧ x.2.length ≤ rest.length) ?_ ?_
    · exact fun _ => ⟨.one _ rfl, name_length_le rest⟩
    · exact fun _ => ⟨.one _ rfl, Nat.le_refl _⟩
  · exact ⟨.one _ rfl, Nat.le_refl _⟩
  · exact ⟨.one _ rfl, Nat.le_refl _⟩
  · exact ⟨.one _ rfl, Nat.le_refl _⟩
  · exact ⟨.one _ rfl, Nat.le_refl _⟩
  · exact ⟨.one _ rfl, Nat.le_refl _⟩
  · exact ⟨.one _ rfl, Nat.le_refl _⟩
  · -- either kind of quotation mark
    exact stringLexemes_reads _ rest
  · exact stringLexemes_reads _ rest
  · -- a comment
    rename_i rest'
    have := afterComment_length_le rest'
    exact ⟨.nothing _, by simp only [List.length_cons]; omega⟩
  · exact ⟨.one _ rfl, by simp only [List.length_cons]; omega⟩
  · exact ⟨.one _ rfl, by simp⟩
  · split
    · exact ⟨.one _ rfl, by simp⟩
    · exact ⟨.one _ rfl, Nat.le_refl _⟩
  · exact ⟨.one _ rfl, Nat.le_refl _⟩

/-- Every step reads a character or more, and one lexeme at most or one that is cut off. -/
theorem next_reads (c : Char) (rest : List Char) :
    Reads (Lexeme.next c rest) ∧ (Lexeme.next c rest).2.length ≤ rest.length := by
  unfold Lexeme.next
  dsimp only
  split
  · exact ⟨.one _ rfl, by simp only [List.length_drop]; omega⟩
  · split
    · obtain ⟨hreads, hlength⟩ := unicodeRange_reads (rest.drop 1)
      rw [List.length_drop] at hlength
      exact ⟨hreads, by dsimp only; omega⟩
    · split
      · exact ⟨.one _ rfl, by simp only [List.length_drop]; omega⟩
      · -- names, then numbers, then marks: each reads the character it starts with
        split
        · rename_i h
          obtain ⟨hreads, hlength⟩ := nameLexemes_reads h
          rw [List.length_cons] at hlength
          exact ⟨hreads, by omega⟩
        · split
          · exact markLexemes_reads c rest
          · rename_i hnumber
            obtain ⟨hreads, hlength⟩ := numberLexemes_reads hnumber (List.cons_ne_nil c rest)
            rw [List.length_cons] at hlength
            exact ⟨hreads, by omega⟩

/-! ## A whole text -/

/-- Where something starts, and whether it is the mark of an end. -/
structure Stamp where
  pos : Position
  isEndMark : Bool

/-- Something may come before something else: it is not the mark of an end, and it starts before,
unless the other marks its own end. -/
def Stamp.Precedes (a b : Stamp) : Prop :=
  a.isEndMark = false ∧ (a.pos.Before b.pos ∨ a.pos = b.pos ∧ b.isEndMark = true)

/-- The stamp of a lexeme. -/
def lexemeStamp (l : Position × Lexeme) : Stamp := ⟨l.1, l.2.isEndMark⟩

theorem before_after_used {c : Char} {rest rest' : List Char} (h : rest'.length ≤ rest.length)
    (pos : Position) : pos.Before
      (pos.after ((c :: rest).take ((c :: rest).length - rest'.length))) := by
  have : (c :: rest).length - rest'.length = rest.length - rest'.length + 1 := by
    rw [List.length_cons]
    omega
  rw [this, List.take_succ_cons]
  exact pos.before_after c _

/-- At the end of the text there are no more lexemes, whatever fuel is left. -/
theorem lexemesFrom_nil (fuel : Nat) (pos : Position) (length : Nat) :
    lexemesFrom fuel pos length [] = [] := by
  cases fuel <;> rfl

/-- Lexemes read from a place on start there or later, one after the other. -/
theorem lexemesFrom_follow (fuel : Nat) (pos : Position) (cs : List Char) :
    ((lexemesFrom fuel pos cs.length cs).map lexemeStamp).Pairwise Stamp.Precedes ∧
      ∀ l ∈ lexemesFrom fuel pos cs.length cs, pos = l.1 ∨ pos.Before l.1 := by
  induction fuel generalizing pos cs with
  | zero => simp [lexemesFrom]
  | succ fuel ih =>
    cases cs with
    | nil => simp [lexemesFrom]
    | cons c rest =>
      obtain ⟨hreads, hlength⟩ := next_reads c rest
      rw [lexemesFrom]
      generalize Lexeme.next c rest = read at hreads hlength
      -- what is read next starts after the characters that this step has used
      have hbefore := before_after_used (c := c) hlength pos
      obtain ⟨hpairwise, hlater⟩ := ih (pos.after _) read.2
      have hrest : ∀ l ∈ lexemesFrom fuel _ read.2.length read.2, pos.Before l.1 := fun l hl =>
        (hlater l hl).elim (fun heq => heq ▸ hbefore) hbefore.trans
      cases hreads with
      | nothing rest' => exact ⟨hpairwise, fun l hl => Or.inr (hrest l hl)⟩
      | @one l rest' hl =>
        constructor
        · refine List.pairwise_cons.2 ⟨fun stamp hstamp => ?_, hpairwise⟩
          obtain ⟨l', hl', rfl⟩ := List.mem_map.1 hstamp
          exact ⟨hl, Or.inl (hrest l' hl')⟩
        · intro l' hl'
          rcases List.mem_cons.1 hl' with rfl | hl'
          · exact Or.inl rfl
          · exact Or.inr (hrest l' hl')
      | @cutOff l mark hl hmark =>
        -- nothing is left to read
        dsimp only
        rw [lexemesFrom_nil, List.append_nil]
        constructor
        · refine List.pairwise_cons.2 ⟨fun stamp hstamp => ?_, List.pairwise_singleton _ _⟩
          obtain rfl := List.mem_singleton.1 hstamp
          exact ⟨hl, Or.inr ⟨rfl, hmark⟩⟩
        · intro l' hl'
          obtain ⟨l'', -, rfl⟩ := List.mem_map.1 hl'
          exact Or.inl rfl

/-- **The lexemes of a text follow one another**: each starts after the one before, and nothing comes behind the mark
of the end of the text. -/
theorem lexemes_follow (text : String) :
    ((lexemes text).map lexemeStamp).Pairwise Stamp.Precedes :=
  (lexemesFrom_follow _ _ _).1

end FeatureAudit.Stylesheet
