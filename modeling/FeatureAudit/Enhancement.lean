import FeatureAudit.Usage

/-!
Progressive enhancements: for layout features that are not widely available, a fallback and an
example of how to use the feature where it exists.
-/
namespace FeatureAudit

/-- A fallback, what enhances it, and an example of both. -/
structure Enhancement where
  feature : String
  fallback : String
  enhancement : String
  sample : String
  deriving DecidableEq, Repr

/-- A grid with a flexible box as its fallback. -/
def gridSample : List String :=
  [".grid-container \x7b",
   "  display: flex; /* fallback */",
   "  flex-wrap: wrap;",
   "\x7d",
   "",
   "@supports (display: grid) \x7b",
   "  .grid-container \x7b",
   "    display: grid;",
   "    grid-template-columns: repeat(auto-fit, minmax(300px, 1fr));",
   "    gap: 1rem;",
   "  \x7d",
   "\x7d"]

/-- A container query with a media query as its fallback. -/
def containerSample : List String :=
  ["/* Fallback with media queries */",
   "@media (min-width: 400px) \x7b",
   "  .card \x7b flex-direction: row; \x7d",
   "\x7d",
   "",
   "/* Enhancement with container queries */",
   "@container (min-width: 400px) \x7b",
   "  .card \x7b flex-direction: row; \x7d",
   "\x7d"]

/-- A ratio with padding as its fallback. -/
def ratioSample : List String :=
  [".aspect-box \x7b",
   "  /* Fallback */",
   "  position: relative;",
   "  padding-bottom: 56.25%; /* 16:9 */",
   "\x7d",
   "",
   "/* Enhancement */",
   "@supports (aspect-ratio: 16/9) \x7b",
   "  .aspect-box \x7b",
   "    aspect-ratio: 16/9;",
   "    padding-bottom: 0;",
   "  \x7d",
   "\x7d"]

/-- The enhancements by the token or identifier that asks for them. -/
def enhancementTable : List (String × String × String × List String) :=
  [("grid", "Flexbox or float-based layout", "CSS Grid for complex layouts",
     gridSample),
   ("container-queries", "Media queries", "Container queries for component-based responsive design",
     containerSample),
   ("aspect-ratio", "Padding-bottom technique", "Native aspect-ratio property",
     ratioSample),
   ("css-grid", "Flexbox or float-based layout", "CSS Grid for complex layouts",
     gridSample)]

/-- The enhancement for a token or an identifier. -/
def enhancementFor? (key : String) : Option Enhancement :=
  (enhancementTable.find? fun row => row.1 == key).map fun row =>
    ⟨key, row.2.1, row.2.2.1, "\n".intercalate row.2.2.2⟩

/-- The enhancement that a use asks for: by its token, or else by its feature. -/
def Usage.enhancement? (u : Usage) : Option Enhancement :=
  if u.tier == some .newlyAvailable || u.tier == some .limited then
    (enhancementFor? u.token).or (enhancementFor? u.featureId)
  else none

/-- The enhancements that some uses ask for, each key once. -/
def enhancements (usages : List Usage) : List Enhancement :=
  keepFirst Enhancement.feature (usages.filterMap Usage.enhancement?)

end FeatureAudit
