import FeatureAudit.Feature
import FeatureAudit.Spelling
import FeatureAudit.Text.Run

/-!
The registry of known features and the resolution of tokens.

* `Registry.claims` lists which key each feature claims, in the order of precedence: identifiers,
  then names, compatibility keys, bare property names and aliases.
* `Registry.ofFeatures` keeps the first claim on each key.
* `Registry.lookup` resolves a token: by the token itself, in lowercase, by its other spellings,
  and last by the shortest key that contains it.
-/
namespace FeatureAudit

open FeatureAudit.Text

/-- The property name in a compatibility key, if it names a property. -/
def bareProperty? (key : String) : Option String :=
  (propertyMark.toList.isPrefixOf? key.toList).map String.ofList

/-- The order in which keys are searched: shorter ones first, and code-point order among equals. -/
def keyLe (a b : String) : Bool :=
  a.length < b.length || (a.length == b.length && textLe a b)

/-- A key prepared for the search by containment: the key and the display name of its feature in
lowercase. -/
structure SearchEntry where
  key : List Char
  name : List Char
  feature : Feature

/-- The known features, the feature of each key, and the keys in order of search. -/
structure Registry where
  features : List Feature
  index : List (String × Feature)
  keys : List String
  search : List SearchEntry

namespace Registry

/-- Every key that a feature claims, in order of precedence. -/
def claims (features : List Feature) : List (String × Feature) :=
  features.map (fun f => (f.id, f)) ++
    features.map (fun f => (lower f.name, f)) ++
    features.flatMap (fun f => f.compatKeys.map fun k => (k, f)) ++
    features.flatMap (fun f => (f.compatKeys.filterMap bareProperty?).map fun k => (k, f)) ++
    features.flatMap (fun f => f.sortedAliases.map fun k => (k, f))

/-- The feature of a key in an index. -/
def find? (index : List (String × Feature)) (key : String) : Option Feature :=
  (index.find? fun e => e.1 == key).map Prod.snd

/-- The registry of a list of features. Of several features with one identifier the first counts,
and of several claims on one key the first. -/
def ofFeatures (all : List Feature) : Registry :=
  let features := keepFirst Feature.id all
  let index := keepFirst Prod.fst ((claims features).filter fun e => !e.1.isEmpty)
  let ordered := index.mergeSort fun a b => keyLe a.1 b.1
  { features, index
    keys := ordered.map Prod.fst
    search := ordered.map fun e => ⟨lowerChars e.1.toList, lowerChars e.2.name.toList, e.2⟩ }

/-- The number of features. -/
def size (r : Registry) : Nat := r.features.length

/-- The feature with an identifier. -/
def get? (r : Registry) (id : String) : Option Feature := r.features.find? fun f => f.id == id

/-- Whether a feature with this identifier is known. -/
def contains (r : Registry) (id : String) : Bool := (r.get? id).isSome

/-- The feature of the first key in search order that contains the text, or whose feature's name
contains it. -/
def searchFor (r : Registry) (text : List Char) : Option Feature :=
  (r.search.find? fun e => occursIn text e.key || occursIn text e.name).map SearchEntry.feature

/-- The feature a token stands for. -/
def lookup (r : Registry) (token : String) : Option Feature :=
  if token.isEmpty then none
  else
    match find? r.index token with
    | some f => some f
    | none =>
      match find? r.index (lower token) with
      | some f => some f
      | none =>
        match (variations token).findSome? (find? r.index) with
        | some f => some f
        | none => r.searchFor (lowerChars token.toList)

/-- What is known about a token for a target. -/
def check (r : Registry) (token : String) (target : Tier) : Check :=
  match r.lookup token with
  | some f => f.check token target
  | none => Check.notFound token

end Registry

end FeatureAudit
