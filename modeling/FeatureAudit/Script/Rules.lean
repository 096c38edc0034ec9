import FeatureAudit.Script.Pattern

/-!
The table of patterns by which features are found in a script. The order of the table decides which
token stands for a feature that several patterns find in one line.
-/
namespace FeatureAudit.Script

open FeatureAudit.Text

/-- A pattern and the token it stands for. -/
structure Rule where
  pattern : Pattern
  token : String

/-- A letter or mark with which an identifier may start. -/
def isIdentifierStart (c : Char) : Bool := c.isAlpha || c == '_' || c == '$'

/-- A character with which the operand of a spread may start. -/
def isSpreadOperand (c : Char) : Bool := isIdentifierStart c || "[\x7b(".toList.contains c

/-- A slash or a star, which make a comment of a neighbouring star. -/
def isCommentMark (c : Char) : Bool := c == '/' || c == '*'

/-- Patterns of the language itself. -/
def languageRules : List Rule := [
  ⟨exactly "=>", "arrow-functions"⟩,
  ⟨inRow [exactly "\x60", [.many (· != '\x60')], exactly "$\x7b"], "template-literals"⟩,
  ⟨inRow [exactly "...", [.one isSpreadOperand]], "spread-syntax"⟩,
  ⟨inRow [wordFrom "async", someBlanks, exactly "function", [.boundary]], "async-functions"⟩,
  ⟨inRow [wordFrom "await", someBlanks], "async-await"⟩,
  ⟨exactly "??", "nullish-coalescing"⟩,
  ⟨inRow [exactly "?.", [.notBefore isDecimalDigit]], "optional-chaining"⟩,
  ⟨inRow [wordFrom "class", someBlanks, [.one isIdentifierStart]], "es6-class"⟩,
  ⟨inRow [[.notAfterOne isCommentMark], exactly "**", [.notBefore isCommentMark]],
    "exponentiation-operator"⟩]

/-- Patterns of objects that a browser offers. -/
def apiRules : List Rule := [
  ⟨callOf "fetch", "fetch"⟩,
  ⟨newCall "Promise", "promises"⟩,
  ⟨wholeWord "navigator.serviceWorker", "serviceworker"⟩,
  ⟨wholeWord "navigator.geolocation", "geolocation"⟩,
  ⟨wholeWord "navigator.share", "web-share"⟩,
  ⟨wholeWord "navigator.clipboard", "clipboard-api"⟩,
  ⟨inRow [[.boundary, .anyOf ["localStorage".toList, "sessionStorage".toList]], exactly "."],
    "webstorage"⟩,
  ⟨newExactly "IntersectionObserver", "intersectionobserver"⟩,
  ⟨newExactly "ResizeObserver", "resizeobserver"⟩,
  ⟨newExactly "MutationObserver", "mutationobserver"⟩,
  ⟨newExactly "AbortController", "abortcontroller"⟩,
  ⟨newCall "Map", "map"⟩,
  ⟨newCall "Set", "set"⟩,
  ⟨newExactly "WeakMap", "weakmap"⟩,
  ⟨newExactly "WeakSet", "weakset"⟩,
  ⟨callOf "Symbol", "symbol"⟩,
  ⟨newExactly "Proxy", "proxy"⟩,
  ⟨callOf "requestAnimationFrame", "requestanimationframe"⟩,
  ⟨newCall "URL", "url"⟩,
  ⟨newExactly "URLSearchParams", "url-api"⟩,
  ⟨newExactly "FormData", "formdata"⟩,
  ⟨newExactly "Blob", "blob"⟩,
  ⟨newExactly "FileReader", "filereader"⟩,
  ⟨newExactly "Worker", "web-workers"⟩,
  ⟨newExactly "WebSocket", "websockets"⟩,
  ⟨newExactly "EventSource", "eventsource"⟩,
  ⟨newExactly "XMLHttpRequest", "xhr"⟩]

/-- Methods of arrays. -/
def arrayMethods : List String :=
  ["find", "findIndex", "includes", "entries", "keys", "values",
   "map", "filter", "reduce", "forEach", "some", "every",
   "flat", "flatMap", "from", "of"]

/-- Methods of strings. -/
def stringMethods : List String :=
  ["startsWith", "endsWith", "includes", "repeat", "padStart", "padEnd",
   "trim", "trimStart", "trimEnd", "replaceAll"]

/-- Functions that belong to `Object`. -/
def objectMethods : List String :=
  ["assign", "keys", "values", "entries", "fromEntries",
   "getOwnPropertyDescriptors", "hasOwn"]

/-- The call of a method of anything but `Object`. -/
def methodCall (method : String) : Pattern :=
  .notAfter "Object".toList :: exactly "." ++ exactly method ++ call

/-- The call of a function that belongs to `Object`. -/
def objectCall (method : String) : Pattern := wordFrom "Object." ++ exactly method ++ call

/-- Patterns of method calls. A name that arrays and strings share stands for both. -/
def methodRules : List Rule :=
  arrayMethods.map (fun m => ⟨methodCall m, "array-" ++ m⟩) ++
    stringMethods.map (fun m => ⟨methodCall m, "string-" ++ m⟩) ++
    objectMethods.map (fun m => ⟨objectCall m, "object-" ++ m⟩)

/-- The whole table, in order. -/
def rules : List Rule := languageRules ++ apiRules ++ methodRules

end FeatureAudit.Script
