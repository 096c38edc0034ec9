import FeatureAudit.Service.Host

/-!
References to what a server holds, as they are written.

* `Reference.ofChars` takes a text apart: a scheme before a colon, an authority after two slashes, a
  path, a query after a question mark, and a fragment after a number sign. Every text has these
  parts, and each may be empty.
* `Authority.ofChars` takes an authority apart: a user, a host and a port.
* `Reference.isSound` is the rule that the parts have to keep.
-/
namespace FeatureAudit.Service

open FeatureAudit.Text

/-- An authority: a host, with a user before it and a port after it. -/
structure Authority where
  user : List Char := []
  host : List Char := []
  port : List Char := []
  deriving DecidableEq, Repr

/-- A reference. -/
structure Reference where
  scheme : List Char
  authority : Authority
  path : List Char
  query : List Char
  fragment : List Char
  deriving DecidableEq, Repr

/-! ### Taking texts apart -/

/-- A character of a scheme. The first one has to be a letter. -/
def isSchemeChar (c : Char) : Bool := c.isAlphanum || "+.-".toList.contains c

/-- The scheme before a colon and the text after the colon. The colon may come first: then the scheme
is empty, as it is where there is none. -/
def splitScheme (cs : List Char) : List Char × List Char :=
  let scheme := cs.takeWhile isSchemeChar
  match cs.drop scheme.length with
  | ':' :: rest => if scheme.head?.all Char.isAlpha then (scheme, rest) else ([], cs)
  | _ => ([], cs)

/-- The text after the last occurrence of a character; all of it if there is none. -/
def afterLast (mark : Char) (cs : List Char) : List Char :=
  (cs.reverse.takeWhile (· != mark)).reverse

/-- The host with which a text starts: what stands in square brackets, with them, or else what comes
before a colon. -/
def hostOf (cs : List Char) : List Char :=
  if cs.head? == some '[' && cs.contains ']' then cs.take (cs.length - (afterLast ']' cs).length)
  else cs.takeWhile (· != ':')

/-- Take an authority apart. The last at sign ends the user. -/
def Authority.ofChars (cs : List Char) : Authority :=
  let rest := afterLast '@' cs
  let host := hostOf rest
  let after := rest.drop host.length
  { host, user := (cs.take (cs.length - rest.length)).dropLast
    port := if after.head? == some ':' then after.drop 1 else after }

/-- Whether a character belongs to an authority. -/
def isInAuthority (c : Char) : Bool := !(c == '/' || c == '?' || c == '#')

/-- Whether a character belongs to a path. -/
def isInPath (c : Char) : Bool := !(c == '?' || c == '#')

/-- The authority with which a text starts, and the text after it. -/
def splitAuthority : List Char → Authority × List Char
  | '/' :: '/' :: rest =>
    (.ofChars (rest.takeWhile isInAuthority), rest.dropWhile isInAuthority)
  | cs => ({}, cs)

/-- Take a reference apart. -/
def Reference.ofChars (cs : List Char) : Reference :=
  let (scheme, rest) := splitScheme cs
  let (authority, rest) := splitAuthority rest
  let path := rest.takeWhile isInPath
  let rest := rest.drop path.length
  let query := rest.takeWhile (· != '#')
  { scheme := scheme.map Char.toLower, authority, path, query := query.drop 1
    fragment := (rest.drop query.length).drop 1 }

/-! ### Sound references -/

/-- Whether a port can be one: it is left out, or an integer. -/
def isPort (port : List Char) : Bool := port.isEmpty || (integer? (String.ofList port)).isSome

/-- The ports of schemes. -/
def usualPorts : List (List Char × Int) := [("http".toList, 80), ("https".toList, 443)]

/-- Whether an authority has no part. -/
def Authority.isEmpty (a : Authority) : Bool := a.user.isEmpty && a.host.isEmpty && a.port.isEmpty

namespace Reference

/-- Whether a reference says where its path belongs. -/
def hasOrigin (r : Reference) : Bool := !(r.scheme.isEmpty && r.authority.isEmpty)

/-- Whether a reference names a server. -/
def isAbsolute (r : Reference) : Bool := !(r.scheme.isEmpty || r.authority.host.isEmpty)

/-- Whether a path may stand alone: not if it starts with a colon, which would end a scheme, or with
two slashes, which would start an authority. -/
def mayStandAlone : List Char → Bool
  | ':' :: _ => false
  | '/' :: '/' :: _ => false
  | _ => true

/-- Whether the parts of a reference fit together. -/
def isSound (r : Reference) : Bool :=
  (sentHost? r.authority.host).isSome && isPort r.authority.port &&
    (r.hasOrigin || mayStandAlone r.path)

/-- The scheme and the server that a reference names, as they are sent. The port that a scheme has
anyway is left out. -/
def origin (r : Reference) : List Char :=
  let port :=
    match integer? (String.ofList r.authority.port) with
    | some n => if usualPorts.contains (r.scheme, n) then [] else ':' :: (toString n).toList
    | none => []
  r.scheme ++ "://".toList ++ (sentHost? r.authority.host).getD [] ++ port

end Reference

end FeatureAudit.Service
