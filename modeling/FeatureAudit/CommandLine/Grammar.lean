import FeatureAudit.Text.Digit
import FeatureAudit.Text.Integer
import FeatureAudit.Text.Quoted
import FeatureAudit.Text.Run

/-!
Grammars of command lines: options, and at most one operand or a command with words of its own.

* `Grammar.recognise` tells options from plain words. A long option may be cut short as long as
  only one fits; a short one may carry its value, or further short options.
* `Grammar.parse` reads words in order and says what was given, or why it stops.

What no option and no operand takes is left over; the caller decides what that means.
-/
namespace FeatureAudit.CommandLine

open FeatureAudit.Text

/-- How many words an option takes: none, one, or all plain words that follow. -/
inductive Arity where
  | flag
  | one
  | many
  deriving DecidableEq, Repr

/-- What a value may be. -/
inductive ValueKind where
  | text
  | integer
  | choice (names : List String)
  deriving DecidableEq, Repr

/-- What an option does: it is noted, or ends the reading. -/
inductive Effect where
  | note
  | help
  | version
  deriving DecidableEq, Repr

/-- An option with its names, the long one last. -/
structure OptionSpec where
  names : List String
  arity : Arity := .flag
  kind : ValueKind := .text
  effect : Effect := .note
  deriving DecidableEq, Repr

/-- The name by which an option is noted. -/
def OptionSpec.key (o : OptionSpec) : String := o.names.getLast?.getD ""

/-- The name of an option in messages. -/
def OptionSpec.label (o : OptionSpec) : String := "/".intercalate o.names

/-- What plain words are for: nothing, one word that may be left out, one that may not, or a command
with the words after it. -/
inductive Operand where
  | none
  | optional
  | required (name : String)
  | command (names : List String)
  deriving DecidableEq, Repr

/-- The grammar of a program's command line. -/
structure Grammar where
  program : String
  options : List OptionSpec
  operand : Operand

/-- Why reading stops early. -/
inductive Stop where
  | help
  | version
  | misuse (program message : String)
  deriving DecidableEq, Repr

/-- A word that names an option, with the text that stands in the same word: after an equals sign,
or right after a short name. What looks like an option but is none has no specification. -/
structure OptionUse where
  spec? : Option OptionSpec
  name : String
  joined? : Option String
  deriving Repr

/-- The word after which every word is plain. -/
def separatorText : String := "--"

/-- A word of the command line. -/
inductive Word where
  | separator
  | plain (text : String)
  | option (text : String) (use : OptionUse)
  deriving Repr

/-- The word as it was written. -/
def Word.text : Word → String
  | .separator => separatorText
  | .plain text => text
  | .option text _ => text

/-- What has been read: the options noted, in order, the operand, the words after a command, and
the words left over. -/
structure Parsed where
  given : List (String × List String) := []
  operand : Option String := none
  arguments : List String := []
  leftOver : List String := []
  deriving DecidableEq, Repr

/-- Names in quotes, as a message lists them. -/
def quotedList (names : List String) : String := ", ".intercalate (names.map quoted)

/-- The message on a value that is none of some names. -/
def invalidChoice (value : String) (names : List String) : String :=
  s!"invalid choice: {quoted value} (choose from {quotedList names})"

/-- What is wrong with a value, if anything is. -/
def ValueKind.fault? (kind : ValueKind) (value : String) : Option String :=
  match kind with
  | .text => none
  | .integer => if (integer? value).isSome then none else some ("invalid int value: " ++ quoted value)
  | .choice names => if names.contains value then none else some (invalidChoice value names)

/-- The text of a negative number: digits, perhaps with a point before the last of them. -/
def isNegativeNumber : List Char → Bool
  | '-' :: rest =>
    let body := if rest.getLast? = some '\n' then rest.dropLast else rest
    let whole := body.takeWhile isDecimalDigit
    match body.drop whole.length with
    | [] => !whole.isEmpty
    | '.' :: fraction => !fraction.isEmpty && fraction.all isDecimalDigit
    | _ => false
  | _ => false

/-- A word before its first equals sign, and the text after it if there is one. -/
def splitEquals (cs : List Char) : String × Option String :=
  let name := cs.takeWhile (· != '=')
  match cs.drop name.length with
  | _ :: value => (String.ofList name, some (String.ofList value))
  | [] => (String.ofList name, none)

namespace Grammar

/-- Every name of an option, in order. -/
def names (g : Grammar) : List (String × OptionSpec) :=
  g.options.flatMap fun o => o.names.map fun n => (n, o)

/-- The option of a name. -/
def spec? (g : Grammar) (name : String) : Option OptionSpec :=
  (g.names.find? fun n => n.1 == name).map Prod.snd

/-- Stop because the words are no command line of the program. -/
def misuse {α : Type} (g : Grammar) (message : String) : Except Stop α :=
  .error (.misuse g.program message)

/-- Stop because of one option. -/
def misuseOf {α : Type} (g : Grammar) (label message : String) : Except Stop α :=
  g.misuse s!"argument {label}: {message}"

/-- The options that a word may stand for: those whose long name it begins, or the one whose short
name begins it. -/
def candidates (g : Grammar) : List Char → List OptionUse
  | '-' :: '-' :: rest =>
    let (start, joined?) := splitEquals ('-' :: '-' :: rest)
    (g.names.filter fun n => start.toList.isPrefixOf n.1.toList).map fun n =>
      ⟨some n.2, n.1, joined?⟩
  | '-' :: c :: rest =>
    (g.names.filter fun n => n.1 == String.ofList ['-', c]).map fun n =>
      ⟨some n.2, n.1, some (String.ofList rest)⟩
  | _ => []

/-- What a word is. Words without a hyphen in front, a single hyphen, negative numbers and words
with a space are plain, unless they name an option. -/
def recognise (g : Grammar) (word : String) : Except Stop Word :=
  let cs := word.toList
  let (name, joined?) := splitEquals cs
  if cs.head? != some '-' then .ok (.plain word)
  else if let some o := g.spec? word then .ok (.option word ⟨some o, word, none⟩)
  else if cs.length = 1 then .ok (.plain word)
  else if let (some o, some value) := (g.spec? name, joined?) then
    .ok (.option word ⟨some o, name, some value⟩)
  else
    match g.candidates cs with
    | [use] => .ok (.option word use)
    | [] =>
      if isNegativeNumber cs || cs.contains ' ' then .ok (.plain word)
      else .ok (.option word ⟨none, word, none⟩)
    | uses =>
      let names := ", ".intercalate (uses.map OptionUse.name)
      g.misuse s!"ambiguous option: {word} could match {names}"

/-- What each word is. After a separator every word is plain. -/
def classify (g : Grammar) : List String → Except Stop (List Word)
  | [] => .ok []
  | word :: rest =>
    if word == separatorText then .ok (.separator :: rest.map .plain)
    else
      match g.recognise word with
      | .error stop => .error stop
      | .ok w => (classify g rest).map (w :: ·)

/-- Note an option with its values, or do what it is for. A separator among the words is no value:
an option that is joined to one is noted without a value, and nothing is then wrong with it. -/
def note (g : Grammar) (p : Parsed) (o : OptionSpec) (words : List String) :
    Except Stop Parsed :=
  match o.effect with
  | .help => .error .help
  | .version => .error .version
  | .note =>
    let values := words.erase separatorText
    match values.findSome? o.kind.fault? with
    | some fault => g.misuseOf o.label fault
    | none => .ok { p with given := p.given ++ [(o.key, values)] }

/-- Note several options in order. -/
def noteAll (g : Grammar) (p : Parsed) : List (OptionSpec × List String) → Except Stop Parsed
  | [] => .ok p
  | (o, words) :: rest =>
    match g.note p o words with
    | .error stop => .error stop
    | .ok p => noteAll g p rest

/-- What a word with a joined text comes to: options with their words, then perhaps an option that
takes the words after it. -/
structure Cluster where
  complete : List (OptionSpec × List String)
  open? : Option OptionSpec

/-- Read the text joined to an option. An option that takes a word takes the text; the text after
a flag with a short name is further short options. -/
def cluster (g : Grammar) (o : OptionSpec) (isLong : Bool) : List Char → Except Stop Cluster
  | [] =>
    if o.arity = .flag then g.misuseOf o.label ("ignored explicit argument " ++ quoted "")
    else .ok ⟨[(o, [""])], none⟩
  | c :: rest =>
    let text := String.ofList (c :: rest)
    let refusal : Except Stop Cluster :=
      g.misuseOf o.label ("ignored explicit argument " ++ quoted text)
    if o.arity != .flag then .ok ⟨[(o, [text])], none⟩
    else if isLong then refusal
    else
      match g.spec? (String.ofList ['-', c]) with
      | none => refusal
      | some next =>
        let more : Except Stop Cluster :=
          if rest.isEmpty then .ok ⟨[], some next⟩ else cluster g next false rest
        more.map fun k => { k with complete := (o, []) :: k.complete }

/-- The plain words at the front. -/
def plainRun : List Word → List String
  | .plain text :: rest => text :: plainRun rest
  | _ => []

/-- The words that an option takes of those after it. -/
def following (g : Grammar) (o : OptionSpec) (rest : List Word) : Except Stop (List String) :=
  match o.arity, rest with
  | .flag, _ => .ok []
  | .one, .plain text :: _ => .ok [text]
  | .one, _ => g.misuseOf o.label "expected one argument"
  | .many, _ => .ok (plainRun rest)

/-- Read an option; the number is that of the words after it which it takes. -/
def readOption (g : Grammar) (p : Parsed) (text : String) (use : OptionUse) (rest : List Word) :
    Except Stop (Nat × Parsed) :=
  match use.spec? with
  | none => .ok (0, { p with leftOver := p.leftOver ++ [text] })
  | some o =>
    let isLong := use.name.toList.take 2 == ['-', '-']
    let read : Except Stop Cluster :=
      match use.joined? with
      | none => .ok ⟨[], some o⟩
      | some text => g.cluster o isLong text.toList
    match read with
    | .error stop => .error stop
    | .ok k =>
      let last : Except Stop (List (OptionSpec × List String)) :=
        match k.open? with
        | none => .ok []
        | some o => (g.following o rest).map fun words => [(o, words)]
      match last with
      | .error stop => .error stop
      | .ok last =>
        let taken := (last.flatMap Prod.snd).length
        (g.noteAll p (k.complete ++ last)).map fun p => (taken, p)

/-- Read a command: a word of its names, and all words after it. -/
def readCommand (g : Grammar) (names : List String) (p : Parsed) (words : List Word) :
    Except Stop Parsed :=
  match words.map Word.text with
  | [] => .ok p
  | name :: arguments =>
    if names.contains name then .ok { p with operand := some name, arguments }
    else g.misuseOf "command" (invalidChoice name names)

/-- Words are left over. -/
def leaveOver (p : Parsed) (words : List Word) : Parsed :=
  { p with leftOver := p.leftOver ++ words.map Word.text }

/-- The words after a separator at the front, if there is one. -/
def dropSeparator : List Word → List Word
  | .separator :: rest => rest
  | words => words

theorem length_dropSeparator (words : List Word) : (dropSeparator words).length ≤ words.length := by
  unfold dropSeparator
  split <;> simp

/-- The operand at the front of words that start with no option, and the words after it. A
separator next to the operand belongs to it. -/
def takeOperand? : List Word → Option (String × List Word)
  | .plain text :: rest => some (text, dropSeparator rest)
  | .separator :: .plain text :: rest => some (text, rest)
  | _ => none

theorem length_takeOperand? {words rest : List Word} {text : String}
    (h : takeOperand? words = some (text, rest)) : rest.length < words.length := by
  unfold takeOperand? at h
  split at h
  · rename_i after
    simp only [Option.some.injEq, Prod.mk.injEq] at h
    have := length_dropSeparator after
    rw [← h.2]
    simp only [List.length_cons]
    omega
  · simp only [Option.some.injEq, Prod.mk.injEq] at h
    rw [← h.2]
    simp only [List.length_cons]
    omega
  · simp at h

/-- Read words in order. The operand is the first plain word that no option takes. -/
def readWords (g : Grammar) (p : Parsed) : List Word → Except Stop Parsed
  | [] => .ok p
  | .option text use :: rest =>
    match g.readOption p text use rest with
    | .error stop => .error stop
    | .ok (taken, p) => readWords g p (rest.drop taken)
  | word :: rest =>
    match g.operand, p.operand with
    | .command names, none =>
      if (takeOperand? (word :: rest)).isSome then g.readCommand names p (word :: rest)
      else .ok (leaveOver p (word :: rest))
    | .required _, none
    | .optional, none =>
      match h : takeOperand? (word :: rest) with
      | some (text, more) =>
        have := length_takeOperand? h
        readWords g { p with operand := some text } more
      | none => .ok (if g.operand = .optional then p else leaveOver p (word :: rest))
    | _, _ => readWords g (leaveOver p [word]) rest
termination_by words => words.length
decreasing_by
  · simp only [List.length_drop, List.length_cons]
    omega
  · exact this
  · exact this
  · simp

/-- Read a command line. -/
def parse (g : Grammar) (words : List String) : Except Stop Parsed :=
  match g.classify words with
  | .error stop => .error stop
  | .ok words =>
    match g.readWords {} words with
    | .error stop => .error stop
    | .ok p =>
      match g.operand, p.operand with
      | .required name, none =>
        g.misuse s!"the following arguments are required: {name}"
      | _, _ => .ok p

end Grammar

/-- Whether a flag was given. -/
def Parsed.hasFlag (p : Parsed) (key : String) : Bool := p.given.any fun o => o.1 == key

/-- The values that an option was given last. -/
def Parsed.values? (p : Parsed) (key : String) : Option (List String) :=
  (p.given.reverse.find? fun o => o.1 == key).map Prod.snd

/-- What an option of one word was given: it may be left out, have no value where a separator was
joined to it, or have a value. -/
inductive OptionValue where
  | absent
  | blank
  | text (value : String)
  deriving DecidableEq, Repr

/-- The text of a value, if there is one. -/
def OptionValue.text? : OptionValue → Option String
  | .text value => some value
  | _ => none

/-- What an option of one word was given last. -/
def Parsed.value (p : Parsed) (key : String) : OptionValue :=
  match p.values? key with
  | none => .absent
  | some [] => .blank
  | some (value :: _) => .text value

end FeatureAudit.CommandLine
