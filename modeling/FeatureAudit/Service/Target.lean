import FeatureAudit.Service.Reference

/-!
The target of a request: a path and the parameters of a query, with the server that is asked.

* `percentDecoded` reads escapes of bytes in hexadecimal.
* `Target.ofString` is the target that a text asks for, if it can be asked for. The escapes of its
  path are read twice, once by the one who asks and once by the one who answers. A reference that
  names a server is asked for as it stands; of any other only the path and the query count.
* `Target.parameters` reads the query.
* `Target.trimmed` is the reference to ask for instead of one with slashes at its end, and
  `Target.sentOn` the target that it leads to.
-/
namespace FeatureAudit.Service

open FeatureAudit.Text

/-- The bytes of a text, where a percent sign and two hexadecimal digits are one byte. -/
def percentBytes : List Char → List UInt8
  | [] => []
  | '%' :: a :: b :: rest =>
    match hexValue? a, hexValue? b with
    | some high, some low => UInt8.ofNat (16 * high + low) :: percentBytes rest
    | _, _ => String.utf8EncodeChar '%' ++ percentBytes (a :: b :: rest)
  | c :: rest => String.utf8EncodeChar c ++ percentBytes rest

/-- A text with its escapes read. -/
def percentDecoded (cs : List Char) : List Char := decodeReplacing (percentBytes cs)

/-- A path and a query that is not yet read, with the scheme and the server that are asked, and the
fragment that the one who asks keeps. -/
structure Target where
  origin : List Char
  path : List Char
  query : List Char
  fragment : List Char := []
  deriving DecidableEq, Repr

/-- One more name after those that are kept, the last of which stands first. One dot means nothing,
and two dots take away the name before them; the name before the first slash, which is empty,
stays. -/
def keepName (kept : List (List Char)) (name : List Char) : List (List Char) :=
  if name == ['.'] then kept
  else if name == ['.', '.'] then (if kept == [[]] then kept else kept.drop 1)
  else name :: kept

/-- Names without dots. -/
def withoutDots (names : List (List Char)) : List (List Char) := (names.foldl keepName []).reverse

/-- A path without dots for names. A path that is left empty is the root. -/
def normalPath (path : List Char) : List Char :=
  let names := withoutDots (path.splitOn '/')
  match ['/'].intercalate names with
  | [] => ['/']
  | cs => cs

/-- The longest text that can be asked for, and the longest part of one as it is sent. -/
def askLimit : Nat := 65536

/-- The marks that are escaped wherever they stand in what is sent. -/
def escapedMarks : List Char := " \"#<>".toList

/-- The marks that are escaped in a path. -/
def escapedInPath : List Char := escapedMarks ++ "?\x60\x7b\x7d".toList

/-- The length of a part as it is sent, where some marks and all beyond ASCII are escaped byte by
byte. -/
def sentLength (escaped : List Char) (cs : List Char) : Nat :=
  cs.foldl
    (fun n c => n + if c.toNat < 128 && !escaped.contains c then 1 else 3 * c.utf8Size)
    0

/-- Why a text cannot be asked for as a target: it is no reference, or it names a server that cannot
be sent in ASCII, or by a scheme that is not known, or by one of a protocol of another kind. -/
inductive TargetError where
  | malformed
  | unsendable
  | unknownScheme
  | otherProtocol
  deriving DecidableEq, Repr

/-- The schemes by which a server may be named. -/
def knownSchemes : List String := ["http", "https"]

/-- The schemes of connections that stay open. -/
def connectionSchemes : List String := ["ws", "wss"]

/-- The server that is asked unless another is named. -/
def usualOrigin : List Char := "http://testserver".toList

/-- Whether no control character of ASCII stands in a text. -/
def isPlainText (cs : List Char) : Bool := cs.all fun c => 0x20 ≤ c.toNat && c.toNat != 0x7F

/-- Whether a text can be a reference at all: it is not too long, and control characters are
escaped. -/
def isWritable (cs : List Char) : Bool := decide (cs.length ≤ askLimit) && isPlainText cs

/-- A path as it is answered: without dots for names, and with its escapes read twice. -/
def answeredPath (path : List Char) : List Char :=
  percentDecoded (percentDecoded (normalPath path))

/-- The target of a reference that does not name a server: its path is one from the root on. -/
def Target.ofPath (r : Reference) : Except TargetError Target :=
  let kept := if r.hasOrigin then normalPath r.path else r.path
  let path := '/' :: kept.dropWhile (· == '/')
  if sentLength escapedInPath path ≤ askLimit && sentLength escapedMarks r.query ≤ askLimit then
    .ok { origin := usualOrigin, path := answeredPath path, query := r.query }
  else .error .malformed

/-- The target of a reference that names a server. -/
def Target.ofAbsolute (r : Reference) : Except TargetError Target :=
  let scheme := String.ofList r.scheme
  if !r.origin.all fun c => c.toNat < 128 then .error .unsendable
  else if knownSchemes.contains scheme then
    .ok { origin := r.origin, path := answeredPath r.path, query := r.query, fragment := r.fragment }
  else if connectionSchemes.contains scheme then .error .otherProtocol
  else .error .unknownScheme

/-- The target that a text asks for. -/
def Target.ofString (s : String) : Except TargetError Target :=
  let r := Reference.ofChars s.toList
  if !(isWritable s.toList && r.isSound) then .error .malformed
  else if r.isAbsolute then Target.ofAbsolute r
  else Target.ofPath r

/-- Text of a query: a plus sign stands for a space. -/
def queryText (cs : List Char) : String :=
  String.ofList (percentDecoded (cs.map fun c => if c = '+' then ' ' else c))

/-- A parameter: its name and its value, which may be left out. -/
def parameterOf (cs : List Char) : String × String :=
  let name := cs.takeWhile (· != '=')
  (queryText name, queryText ((cs.drop name.length).drop 1))

/-- The parameters of the query, in order. -/
def Target.parameters (t : Target) : List (String × String) :=
  ((t.query.splitOn '&').filter fun cs => !cs.isEmpty).map parameterOf

/-- The value of a parameter; of several the last. -/
def Target.parameter? (t : Target) (name : String) : Option String :=
  (t.parameters.reverse.find? fun p => p.1 == name).map Prod.snd

/-- A path without slashes at its end. -/
def withoutFinalSlashes (path : List Char) : List Char :=
  (path.reverse.dropWhile (· == '/')).reverse

/-! ### Being sent on -/

/-- The marks that stand for themselves in a path. What a percent sign escapes is read when the path
is asked for again. -/
def plainInPath : List Char := "/-._~%:@!$&'()*+,;=".toList

/-- The marks that stand for themselves in the rest of a reference. -/
def plainInReference : List Char := plainInPath ++ "?[]".toList

/-- Text of a reference, where only letters, digits and some marks stand for themselves. -/
def escapedBut (marks cs : List Char) : List Char :=
  escapedUnless (fun c => c.isAlphanum || marks.contains c) cs

/-- The reference to ask for instead: to the same server, without slashes at the end of the path. -/
def Target.trimmed (t : Target) : String :=
  let query := if t.query.isEmpty then [] else '?' :: t.query
  String.ofList
    (escapedBut plainInReference t.origin ++ escapedBut plainInPath (withoutFinalSlashes t.path) ++
      escapedBut plainInReference query)

/-- Why nobody is sent on: the text to ask for is no reference, or names its server by faulty labels,
or the fragment that is kept holds what no reference may hold. -/
inductive SendError where
  | nowhere
  | faultyName (fault : LabelFault)
  | faultyFragment
  deriving DecidableEq, Repr

/-- The target of a reference that is asked for instead of a target. The fragment is kept, with its
escapes read. -/
def Target.sentOn (t : Target) (reference : String) : Except SendError Target :=
  let fragment := percentDecoded t.fragment
  match Target.ofString reference with
  | .error _ => .error .nowhere
  | .ok next =>
    match nameFault? (Reference.ofChars reference.toList).authority.host with
    | some fault => .error (.faultyName fault)
    | none => if isPlainText fragment then .ok { next with fragment } else .error .faultyFragment

end FeatureAudit.Service
