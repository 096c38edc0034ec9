/-!
Hints for selected features: what makes them work in older browsers, and what to use instead.
-/
namespace FeatureAudit

/-- What is known to help where a feature is missing. -/
structure Hint where
  featureId : String
  polyfill : Option String
  alternative : Option String
  deriving Repr

/-- The features with hints. -/
def hints : List Hint := [
  ⟨"grid", some "CSS Grid polyfill or Flexbox fallback", some "Use Flexbox for simpler layouts"⟩,
  ⟨"custom-properties", some "PostCSS custom properties plugin", none⟩,
  ⟨"flexbox-gap", some "Use margin/padding for older browsers",
    some "Use margin or padding properties"⟩,
  ⟨"object-fit", some "object-fit-images polyfill", none⟩,
  ⟨"position-sticky", some "position: -webkit-sticky; position: sticky;", none⟩,
  ⟨"aspect-ratio", none, some "Use padding-bottom percentage technique"⟩,
  ⟨"min-max-clamp", none, some "Use calc() with min/max functions"⟩,
  ⟨"container-queries", some "container-query-polyfill", some "Use media queries as fallback"⟩,
  ⟨"fetch", some "whatwg-fetch polyfill", some "Use XMLHttpRequest or axios library"⟩,
  ⟨"promise", some "es6-promise polyfill", some "Use callback patterns or async libraries"⟩,
  ⟨"array-includes", some "core-js polyfill", none⟩,
  ⟨"object-assign", some "object-assign polyfill", none⟩,
  ⟨"symbol", some "es6-symbol polyfill", none⟩,
  ⟨"map", some "es6-map polyfill", none⟩,
  ⟨"set", some "es6-set polyfill", none⟩,
  ⟨"intersection-observer", some "intersection-observer polyfill", none⟩,
  ⟨"resize-observer", some "resize-observer-polyfill", none⟩,
  ⟨"arrow-functions", none, some "Use regular function expressions"⟩,
  ⟨"template-literals", none, some "Use string concatenation"⟩,
  ⟨"destructuring", none, some "Use manual assignment"⟩,
  ⟨"optional-chaining", none, some "Use manual null checking"⟩,
  ⟨"nullish-coalescing", none, some "Use || operator with careful null checks"⟩]

/-- Features that are listed although nothing is known to help. -/
def emptyHints : List String :=
  (hints.filter fun h => h.polyfill.isNone && h.alternative.isNone).map Hint.featureId

/-- The hints of a feature. -/
def hintOf? (id : String) : Option Hint := hints.find? fun h => h.featureId == id

/-- What makes a feature work in older browsers. -/
def polyfillFor (id : String) : Option String := (hintOf? id).bind Hint.polyfill

/-- What to use instead of a feature. -/
def alternativeFor (id : String) : Option String := (hintOf? id).bind Hint.alternative

end FeatureAudit
