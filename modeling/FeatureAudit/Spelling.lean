import FeatureAudit.Text.LowerCase
import FeatureAudit.Distinct

/-!
Spellings of a name. A token may carry a vendor's mark, as in `-webkit-filter`, or be written in
camel case, as in `gridTemplateColumns`; `variations` are the spellings under which it may be known.
-/
namespace FeatureAudit

open FeatureAudit.Text

/-- The vendors whose mark may stand before a name. -/
def vendors : List (List Char) :=
  ["webkit".toList, "moz".toList, "ms".toList, "o".toList]

/-- Whether a character is a letter of a vendor's name in either case. The letters i, k and s also
have characters outside ASCII that differ from them by case alone. -/
def sameLetter (letter c : Char) : Bool :=
  c.toLower == letter ||
    (letter == 'i' && (c.toNat == 0x130 || c.toNat == 0x131)) ||
    (letter == 'k' && c.toNat == 0x212A) ||
    (letter == 's' && c.toNat == 0x17F)

/-- What follows a word that is written in any case. -/
def dropWord? : List Char → List Char → Option (List Char)
  | [], cs => some cs
  | letter :: word, c :: cs => if sameLetter letter c then dropWord? word cs else none
  | _ :: _, [] => none

/-- What follows one vendor's mark: a hyphen, the vendor and a hyphen. -/
def dropMark? (vendor cs : List Char) : Option (List Char) :=
  match cs with
  | '-' :: rest =>
    match dropWord? vendor rest with
    | some ('-' :: name) => some name
    | _ => none
  | _ => none

/-- A name without the vendor's mark before it. -/
def unmarkedChars (cs : List Char) : List Char := (vendors.findSome? (dropMark? · cs)).getD cs

/-- A name without the vendor's mark before it. -/
def unmarked (name : String) : String := String.ofList (unmarkedChars name.toList)

/-- Whether a word of a camel-case name ends at this letter if a capital follows. -/
def endsWord (c : Char) : Bool := c.isLower || c.isDigit

/-- A camel-case name with a hyphen before each capital that starts a word. -/
def hyphenated : List Char → List Char
  | a :: b :: rest =>
    if endsWord a && b.isUpper then a :: '-' :: hyphenated (b :: rest)
    else a :: hyphenated (b :: rest)
  | cs => cs

/-- The part of a compatibility key that names a property. -/
def propertyMark : String := "css.properties."

/-- The spellings under which a token may be known, in the order they are tried: without the
vendor's mark, in lowercase with hyphens, and that as a stylesheet feature and as a property. -/
def variations (token : String) : List String :=
  let plain := unmarkedChars token.toList
  let kebab := String.ofList (lowerChars (hyphenated plain))
  distinct
    ([String.ofList plain, kebab, "css-" ++ kebab, propertyMark ++ kebab].filter (!·.isEmpty))

end FeatureAudit
