/-!
Well-known other names of features. They are claimed after every key of the features themselves, so
none of them hides an identifier, a name or a compatibility key.
-/
namespace FeatureAudit

/-- The other names, by identifier. -/
def wellKnownAliases : List (String × List String) := [
  ("flexbox", ["flex", "flexbox", "css-flexbox", "start", "end", "flex-start", "flex-end",
    "space-between", "space-around"]),
  ("grid", ["css-grid", "grid-template-columns", "fr-unit", "repeat", "minmax"]),
  ("container-queries", ["@container"]),
  ("custom-properties", ["css-variables", "css-custom-properties", "--", "var"]),
  ("cascade-layers", ["@layer"]),
  ("media-queries", ["@media"]),
  ("supports", ["@supports"]),
  ("font-face", ["@font-face"]),
  ("animations-css", ["@keyframes", "keyframes"]),
  ("registered-custom-properties", ["@property"]),
  ("scope", ["@scope"]),
  ("starting-style", ["@starting-style"]),
  ("viewport-units", ["vh-unit", "vw-unit", "vmin-unit", "vmax-unit"]),
  ("font-relative-lengths", ["rem-unit", "ch-unit"]),
  ("min-max-clamp", ["min", "max", "clamp"]),
  ("position-sticky", ["sticky"]),
  ("display-contents", ["contents"]),
  ("fetch", ["fetch-api"]),
  ("promise", ["promises"]),
  ("async-await", ["async", "async-functions"]),
  ("arrow-functions", ["=>"]),
  ("template-literals", ["template-strings"]),
  ("destructuring", ["destructuring-assignment"]),
  ("spread", ["spread-syntax", "spread-operator", "..."]),
  ("optional-chaining", ["?."]),
  ("nullish-coalescing", ["??"]),
  ("class-syntax", ["es6-class"]),
  ("exponentiation", ["exponentiation-operator", "**"]),
  ("service-workers", ["serviceworker"]),
  ("async-clipboard", ["clipboard-api"]),
  ("web-storage", ["webstorage"]),
  ("intersection-observer", ["intersectionobserver"]),
  ("resize-observer", ["resizeobserver"]),
  ("aborting", ["abortcontroller"]),
  ("proxy-reflect", ["proxy"]),
  ("url", ["url-api"]),
  ("server-sent-events", ["eventsource"]),
  ("array-find", ["array-findindex"]),
  ("string-startswith-endswith", ["string-startswith", "string-endswith"]),
  ("string-padstart-padend", ["string-padstart", "string-padend"]),
  ("string-trimstart-trimend", ["string-trimstart", "string-trimend"])]

/-- The other names of the feature with an identifier. -/
def aliasesOf (id : String) : List String :=
  ((wellKnownAliases.find? fun e => e.1 == id).map Prod.snd).getD []

end FeatureAudit
