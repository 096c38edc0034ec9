/-!
Component values: what a stylesheet is made of before rules are told apart. A component is a leaf
or a function or bracketed block that holds components, and each knows the place where it starts.
-/
namespace FeatureAudit.Stylesheet

/-- A place in a text; lines and columns count from one. -/
structure Position where
  line : Nat
  column : Nat
  deriving DecidableEq, Repr, Inhabited

/-- The place after one character. -/
def Position.next (p : Position) (c : Char) : Position :=
  if c = '\n' then ⟨p.line + 1, 1⟩ else ⟨p.line, p.column + 1⟩

/-- The place after some characters. -/
def Position.after (p : Position) (cs : List Char) : Position := cs.foldl Position.next p

/-- What can be wrong in a stylesheet. -/
inductive Fault where
  | badString
  | endInString
  | badUrl
  | endInUrl
  | unmatched (closer : Char)
  | stopBeforeBlock
  | endBeforeBlock
  deriving DecidableEq, Repr

/-- The wording of a fault. -/
def Fault.message : Fault → String
  | .badString => "Bad string token"
  | .endInString => "EOF in string"
  | .badUrl => "bad URL token"
  | .endInUrl => "EOF in URL"
  | .unmatched closer => "Unmatched " ++ closer.toString
  | .stopBeforeBlock => "Stop token reached before \x7b\x7d block for a qualified rule."
  | .endBeforeBlock => "EOF reached before \x7b\x7d block for a qualified rule."

/-- A component without parts. A string or an address is open where the text ended inside it, and
numbers keep their source text. Reading leaves comments out, but components may have them. -/
inductive Leaf where
  | whitespace (text : String)
  | comment (text : String)
  | literal (text : String)
  | ident (name : String)
  | atKeyword (name : String)
  | hash (name : String) (isIdent : Bool)
  | string (value : String) (closed : Bool)
  | url (value : String) (closed : Bool)
  | unicodeRange (first last : Nat)
  | number (text : String)
  | percentage (text : String)
  | dimension (text unit : String)
  | error (fault : Fault)
  deriving DecidableEq, Repr

/-- The three kinds of brackets. -/
inductive Bracket where
  | round
  | square
  | curly
  deriving DecidableEq, Repr

/-- The character that opens a block. -/
def Bracket.opener : Bracket → Char
  | .round => '('
  | .square => '['
  | .curly => '{'

/-- The character that closes a block. -/
def Bracket.closer : Bracket → Char
  | .round => ')'
  | .square => ']'
  | .curly => '}'

/-- What can hold components: a function with its arguments, or a block. -/
inductive Nest where
  | function (name : String)
  | block (bracket : Bracket)
  deriving DecidableEq, Repr

/-- The character that ends a function or a block. -/
def Nest.closer : Nest → Char
  | .function _ => ')'
  | .block b => b.closer

/-- A component value. -/
inductive Component where
  | leaf (pos : Position) (leaf : Leaf)
  | nest (pos : Position) (nest : Nest) (content : List Component)
  deriving Repr

namespace Component

/-- Where a component starts. -/
def pos : Component → Position
  | .leaf p _ => p
  | .nest p _ _ => p

/-- Whitespace or a comment, which separate components and mean nothing else. -/
def isWhitespace : Component → Bool
  | .leaf _ (.whitespace _) => true
  | .leaf _ (.comment _) => true
  | _ => false

/-- A block in curly brackets. -/
def isCurly : Component → Bool
  | .nest _ (.block .curly) _ => true
  | _ => false

/-- A literal of the given text. -/
def isLiteral (text : String) : Component → Bool
  | .leaf _ (.literal t) => t == text
  | _ => false

/-- The name of an identifier. -/
def ident? : Component → Option String
  | .leaf _ (.ident name) => some name
  | _ => none

mutual

/-- How many functions and blocks are nested inside each other. -/
def depth : Component → Nat
  | .leaf _ _ => 0
  | .nest _ _ content => depthOfAll content + 1

/-- The greatest depth in a list of components. -/
def depthOfAll : List Component → Nat
  | [] => 0
  | c :: rest => max c.depth (depthOfAll rest)

end

mutual

/-- The number of components, nested ones included. -/
def weight : Component → Nat
  | .leaf _ _ => 1
  | .nest _ _ content => weightOfAll content + 1

/-- The number of components in a list, nested ones included. -/
def weightOfAll : List Component → Nat
  | [] => 0
  | c :: rest => c.weight + weightOfAll rest

end

theorem weight_pos (c : Component) : 0 < c.weight := by
  cases c <;> simp [weight]

theorem weightOfAll_lt_cons (c : Component) (rest : List Component) :
    weightOfAll rest < weightOfAll (c :: rest) := by
  have := weight_pos c
  simp only [weightOfAll]
  omega

theorem weightOfAll_append (xs ys : List Component) :
    weightOfAll (xs ++ ys) = weightOfAll xs + weightOfAll ys := by
  induction xs with
  | nil => simp [weightOfAll]
  | cons c rest ih => simp [weightOfAll, ih]; omega

theorem weightOfAll_filter_le (p : Component → Bool) (cs : List Component) :
    weightOfAll (cs.filter p) ≤ weightOfAll cs := by
  induction cs with
  | nil => simp [weightOfAll]
  | cons c rest ih =>
    by_cases h : p c <;> simp [h, weightOfAll] <;> omega

end Component

/-- The components that are neither whitespace nor comments. -/
def significant (cs : List Component) : List Component := cs.filter (!·.isWhitespace)

/-- ASCII capitals made small, the only change of case that stylesheets know. -/
def asciiLower (s : String) : String := String.ofList (s.toList.map Char.toLower)

end FeatureAudit.Stylesheet
