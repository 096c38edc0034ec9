import FeatureAudit.Feature
import FeatureAudit.Aliases
import FeatureAudit.Registry

/-!
The catalogue of web features that is known without a dataset of one's own, and its registry.
-/
namespace FeatureAudit

/-- A feature of the catalogue, with its well-known other names. -/
def entry (id name : String) (tier : Tier) (browsers : List (String × String))
    (compatKeys : List String) : Feature :=
  { id, name, tier, browsers, compatKeys, aliases := aliasesOf id }

/-- The first versions of a feature that every browser supports. -/
def everywhere (chrome chromeAndroid edge firefox firefoxAndroid safari safariIos : String) :
    List (String × String) :=
  [("chrome", chrome), ("chrome_android", chromeAndroid), ("edge", edge), ("firefox", firefox),
   ("firefox_android", firefoxAndroid), ("safari", safari), ("safari_ios", safariIos)]

/-- Layout, boxes, colours and lengths. -/
def boxFeatures : List Feature := [
  entry "flexbox" "Flexbox" .widelyAvailable
    (everywhere "29" "29" "12" "28" "28" "9" "9")
    ["css.properties.flex", "css.properties.flex-basis", "css.properties.flex-direction",
      "css.properties.flex-flow", "css.properties.flex-grow", "css.properties.flex-shrink",
      "css.properties.flex-wrap", "css.properties.order", "css.properties.align-items",
      "css.properties.align-self", "css.properties.align-content",
      "css.properties.justify-content", "css.properties.display.flex",
      "css.properties.display.inline-flex"],
  entry "flexbox-gap" "Flexbox gap" .widelyAvailable
    (everywhere "84" "84" "84" "63" "63" "14.1" "14.5")
    ["css.properties.gap", "css.properties.row-gap", "css.properties.column-gap"],
  entry "grid" "Grid" .widelyAvailable
    (everywhere "57" "57" "16" "52" "52" "10.1" "10.3")
    ["css.properties.grid", "css.properties.grid-area", "css.properties.grid-column",
      "css.properties.grid-row", "css.properties.grid-template",
      "css.properties.grid-template-areas", "css.properties.grid-template-columns",
      "css.properties.grid-template-rows", "css.properties.grid-auto-flow",
      "css.properties.display.grid", "css.properties.display.inline-grid", "css.types.flex"],
  entry "subgrid" "Subgrid" .newlyAvailable
    (everywhere "117" "117" "117" "71" "79" "16" "16")
    ["css.properties.grid-template-columns.subgrid", "css.properties.grid-template-rows.subgrid"],
  entry "container-queries" "Container queries" .newlyAvailable
    (everywhere "105" "105" "105" "110" "110" "16" "16")
    ["css.at-rules.container", "css.properties.container", "css.properties.container-name",
      "css.properties.container-type"],
  entry "cascade-layers" "Cascade layers" .newlyAvailable
    (everywhere "99" "99" "99" "97" "97" "15.4" "15.4")
    ["css.at-rules.layer"],
  entry "custom-properties" "Custom properties" .widelyAvailable
    (everywhere "49" "49" "15" "31" "31" "9.1" "9.3")
    ["css.properties.custom-property", "css.types.var"],
  entry "registered-custom-properties" "@property" .newlyAvailable
    (everywhere "85" "85" "85" "128" "128" "16.4" "16.4")
    ["css.at-rules.property"],
  entry "display" "Display" .widelyAvailable
    (everywhere "1" "18" "12" "1" "4" "1" "1")
    ["css.properties.display", "css.properties.display.block", "css.properties.display.inline",
      "css.properties.display.none"],
  entry "display-contents" "display: contents" .newlyAvailable
    (everywhere "65" "65" "79" "37" "37" "17" "17")
    ["css.properties.display.contents"],
  entry "color" "Color" .widelyAvailable
    (everywhere "1" "18" "12" "1" "4" "1" "1")
    ["css.properties.color", "css.types.color.rgb", "css.types.color.hsl"],
  entry "color-mix" "color-mix()" .newlyAvailable
    (everywhere "111" "111" "111" "113" "113" "16.2" "16.2")
    ["css.types.color.color-mix"],
  entry "backgrounds" "Backgrounds" .widelyAvailable
    (everywhere "1" "18" "12" "1" "4" "1" "1")
    ["css.properties.background", "css.properties.background-color",
      "css.properties.background-image", "css.properties.background-position",
      "css.properties.background-repeat", "css.properties.background-size"],
  entry "gradients" "Gradients" .widelyAvailable
    (everywhere "26" "26" "12" "16" "16" "7" "7")
    ["css.types.image.gradient.linear-gradient", "css.types.image.gradient.radial-gradient",
      "css.types.image.gradient.repeating-linear-gradient"],
  entry "margin" "Margin" .widelyAvailable
    (everywhere "1" "18" "12" "1" "4" "1" "1")
    ["css.properties.margin", "css.properties.margin-top", "css.properties.margin-right",
      "css.properties.margin-bottom", "css.properties.margin-left"],
  entry "padding" "Padding" .widelyAvailable
    (everywhere "1" "18" "12" "1" "4" "1" "1")
    ["css.properties.padding", "css.properties.padding-top", "css.properties.padding-right",
      "css.properties.padding-bottom", "css.properties.padding-left"],
  entry "border" "Border" .widelyAvailable
    (everywhere "1" "18" "12" "1" "4" "1" "1")
    ["css.properties.border", "css.properties.border-color", "css.properties.border-style",
      "css.properties.border-width", "css.properties.border-top", "css.properties.border-bottom"],
  entry "border-radius" "Border radius" .widelyAvailable
    (everywhere "4" "18" "12" "4" "4" "5" "4.2")
    ["css.properties.border-radius"],
  entry "box-shadow" "Box shadow" .widelyAvailable
    (everywhere "10" "18" "12" "4" "4" "5.1" "5")
    ["css.properties.box-shadow"],
  entry "box-sizing" "Box sizing" .widelyAvailable
    (everywhere "10" "18" "12" "29" "29" "5.1" "6")
    ["css.properties.box-sizing"],
  entry "width-height" "Width and height" .widelyAvailable
    (everywhere "1" "18" "12" "1" "4" "1" "1")
    ["css.properties.width", "css.properties.height", "css.properties.min-width",
      "css.properties.min-height", "css.properties.max-width", "css.properties.max-height"],
  entry "intrinsic-size-keywords" "Intrinsic size keywords" .widelyAvailable
    (everywhere "46" "46" "79" "94" "94" "11" "11")
    ["css.properties.width.fit-content", "css.properties.width.max-content",
      "css.properties.width.min-content"],
  entry "position" "Position" .widelyAvailable
    (everywhere "1" "18" "12" "1" "4" "1" "1")
    ["css.properties.position", "css.properties.top", "css.properties.right",
      "css.properties.bottom", "css.properties.left", "css.properties.z-index"],
  entry "position-sticky" "Sticky positioning" .widelyAvailable
    (everywhere "56" "56" "16" "32" "32" "13" "13")
    ["css.properties.position.sticky"],
  entry "float-clear" "Float and clear" .widelyAvailable
    (everywhere "1" "18" "12" "1" "4" "1" "1")
    ["css.properties.float", "css.properties.clear"],
  entry "font" "Font properties" .widelyAvailable
    (everywhere "1" "18" "12" "1" "4" "1" "1")
    ["css.properties.font", "css.properties.font-family", "css.properties.font-size",
      "css.properties.font-style", "css.properties.font-weight", "css.properties.line-height"],
  entry "font-face" "@font-face" .widelyAvailable
    (everywhere "4" "18" "12" "3.5" "4" "3.1" "4.2")
    ["css.at-rules.font-face"],
  entry "font-relative-lengths" "Font-relative length units (rem, ch)" .widelyAvailable
    (everywhere "27" "27" "12" "3.6" "4" "7" "7")
    ["css.types.length.rem", "css.types.length.ch"],
  entry "viewport-units" "Viewport units" .widelyAvailable
    (everywhere "20" "25" "12" "19" "19" "6" "8")
    ["css.types.length.vh", "css.types.length.vw", "css.types.length.vmin",
      "css.types.length.vmax"],
  entry "calc" "calc()" .widelyAvailable
    (everywhere "26" "28" "12" "16" "16" "7" "7")
    ["css.types.calc"],
  entry "min-max-clamp" "min(), max(), and clamp()" .widelyAvailable
    (everywhere "79" "79" "79" "75" "79" "13.1" "13.4")
    ["css.types.min", "css.types.max", "css.types.clamp"],
  entry "aspect-ratio" "aspect-ratio" .widelyAvailable
    (everywhere "88" "88" "88" "89" "89" "15" "15")
    ["css.properties.aspect-ratio", "css.at-rules.media.aspect-ratio"],
  entry "object-fit" "object-fit" .widelyAvailable
    (everywhere "32" "32" "79" "36" "36" "10" "10")
    ["css.properties.object-fit", "css.properties.object-position"],
  entry "transforms2d" "2D transforms" .widelyAvailable
    (everywhere "36" "36" "12" "16" "16" "9" "9")
    ["css.properties.transform", "css.properties.transform-origin",
      "css.types.transform-function.rotate", "css.types.transform-function.scale"],
  entry "transitions" "Transitions" .widelyAvailable
    (everywhere "26" "26" "12" "16" "16" "9" "9")
    ["css.properties.transition", "css.properties.transition-property",
      "css.properties.transition-duration", "css.properties.transition-timing-function",
      "css.properties.transition-delay"],
  entry "animations-css" "Animations (CSS)" .widelyAvailable
    (everywhere "43" "43" "12" "16" "16" "9" "9")
    ["css.properties.animation", "css.properties.animation-name",
      "css.properties.animation-duration", "css.at-rules.keyframes"]]

/-- Effects, scrolling, keywords and conditions of stylesheets. -/
def styleFeatures : List Feature := [
  entry "opacity" "Opacity" .widelyAvailable
    (everywhere "1" "18" "12" "1" "4" "2" "1")
    ["css.properties.opacity"],
  entry "filter" "Filter effects" .widelyAvailable
    (everywhere "53" "53" "12" "35" "35" "9.1" "9.3")
    ["css.properties.filter"],
  entry "backdrop-filter" "Backdrop filter" .limited
    [("chrome", "76"), ("chrome_android", "76"), ("edge", "79"), ("firefox", "103"),
      ("firefox_android", "103")]
    ["css.properties.backdrop-filter"],
  entry "appearance" "appearance" .widelyAvailable
    (everywhere "84" "84" "84" "80" "80" "15.4" "15.4")
    ["css.properties.appearance"],
  entry "user-select" "user-select" .limited
    [("chrome", "54"), ("chrome_android", "54"), ("edge", "79"), ("firefox", "69"),
      ("firefox_android", "79")]
    ["css.properties.user-select"],
  entry "resize" "resize" .limited
    [("chrome", "1"), ("edge", "79"), ("firefox", "4"), ("safari", "3")]
    ["css.properties.resize"],
  entry "cursor" "Cursor" .widelyAvailable
    (everywhere "1" "18" "12" "1" "4" "1.2" "1")
    ["css.properties.cursor"],
  entry "overflow" "Overflow" .widelyAvailable
    (everywhere "1" "18" "12" "1" "4" "1" "1")
    ["css.properties.overflow", "css.properties.overflow-x", "css.properties.overflow-y"],
  entry "generated-content" "Generated content" .widelyAvailable
    (everywhere "1" "18" "12" "1" "4" "1" "1")
    ["css.properties.content"],
  entry "scroll-behavior" "scroll-behavior" .widelyAvailable
    (everywhere "61" "61" "79" "36" "36" "15.4" "15.4")
    ["css.properties.scroll-behavior"],
  entry "scroll-snap" "Scroll snap" .widelyAvailable
    (everywhere "69" "69" "79" "68" "68" "11" "11")
    ["css.properties.scroll-snap-type", "css.properties.scroll-snap-align"],
  entry "global-keywords" "CSS-wide keywords" .widelyAvailable
    (everywhere "41" "41" "13" "27" "27" "9.1" "9.3")
    ["css.types.global_keywords.initial", "css.types.global_keywords.inherit",
      "css.types.global_keywords.unset"],
  entry "revert" "revert" .widelyAvailable
    (everywhere "84" "84" "84" "67" "67" "9.1" "9.3")
    ["css.types.global_keywords.revert"],
  entry "revert-layer" "revert-layer" .newlyAvailable
    (everywhere "99" "99" "99" "97" "97" "16" "16")
    ["css.types.global_keywords.revert-layer"],
  entry "space-evenly" "space-evenly" .widelyAvailable
    (everywhere "60" "60" "79" "52" "52" "11" "11")
    ["css.properties.justify-content.space-evenly"],
  entry "media-queries" "Media queries" .widelyAvailable
    (everywhere "1" "18" "12" "1" "4" "1.3" "1")
    ["css.at-rules.media", "css.at-rules.media.orientation", "css.at-rules.media.width"],
  entry "hover-pointer" "Hover and pointer media queries" .widelyAvailable
    (everywhere "41" "50" "12" "64" "64" "9" "9")
    ["css.at-rules.media.hover", "css.at-rules.media.any-hover", "css.at-rules.media.pointer",
      "css.at-rules.media.any-pointer"],
  entry "prefers-color-scheme" "prefers-color-scheme media query" .widelyAvailable
    (everywhere "76" "76" "79" "67" "67" "12.1" "13")
    ["css.at-rules.media.prefers-color-scheme"],
  entry "prefers-reduced-motion" "prefers-reduced-motion media query" .widelyAvailable
    (everywhere "74" "74" "79" "63" "64" "10.1" "10.3")
    ["css.at-rules.media.prefers-reduced-motion"],
  entry "prefers-contrast" "prefers-contrast media query" .newlyAvailable
    (everywhere "96" "96" "96" "101" "101" "14.1" "14.5")
    ["css.at-rules.media.prefers-contrast"],
  entry "display-mode" "display-mode media query" .limited
    [("chrome", "42"), ("chrome_android", "42"), ("edge", "79"), ("safari", "13"),
      ("safari_ios", "12.2")]
    ["css.at-rules.media.display-mode"],
  entry "supports" "@supports" .widelyAvailable
    (everywhere "28" "28" "12" "22" "22" "9" "9")
    ["css.at-rules.supports"]]

/-- Selectors and the later parts of stylesheets. -/
def selectorFeatures : List Feature := [
  entry "has" ":has()" .newlyAvailable
    (everywhere "105" "105" "105" "121" "121" "15.4" "15.4")
    ["css.selectors.has"],
  entry "is" ":is()" .widelyAvailable
    (everywhere "88" "88" "88" "78" "79" "14" "14")
    ["css.selectors.is"],
  entry "where" ":where()" .widelyAvailable
    (everywhere "88" "88" "88" "78" "79" "14" "14")
    ["css.selectors.where"],
  entry "focus-visible" ":focus-visible" .newlyAvailable
    (everywhere "86" "86" "86" "85" "85" "15.4" "15.4")
    ["css.selectors.focus-visible"],
  entry "focus-within" ":focus-within" .widelyAvailable
    (everywhere "60" "60" "79" "52" "52" "10.1" "10.3")
    ["css.selectors.focus-within"],
  entry "nesting" "Nesting" .newlyAvailable
    (everywhere "120" "120" "120" "117" "117" "17.2" "17.2")
    ["css.selectors.nesting"],
  entry "anchor-positioning" "Anchor positioning" .limited
    [("chrome", "125"), ("chrome_android", "125"), ("edge", "125")]
    ["css.properties.anchor-name", "css.properties.position-anchor", "css.types.anchor"],
  entry "view-transitions" "View transitions" .limited
    [("chrome", "111"), ("chrome_android", "111"), ("edge", "111"), ("safari", "18"),
      ("safari_ios", "18")]
    ["css.properties.view-transition-name", "api.Document.startViewTransition"],
  entry "scroll-driven-animations" "Scroll-driven animations" .limited
    [("chrome", "115"), ("chrome_android", "115"), ("edge", "115")]
    ["css.properties.animation-timeline", "css.properties.scroll-timeline", "css.types.scroll",
      "css.types.view"],
  entry "scope" "@scope" .limited
    [("chrome", "118"), ("chrome_android", "118"), ("edge", "118"), ("safari", "17.4"),
      ("safari_ios", "17.4")]
    ["css.at-rules.scope"],
  entry "starting-style" "@starting-style" .limited
    [("chrome", "117"), ("chrome_android", "117"), ("edge", "117"), ("safari", "17.5"),
      ("safari_ios", "17.5")]
    ["css.at-rules.starting-style"],
  entry "text-wrap-balance" "text-wrap: balance" .newlyAvailable
    (everywhere "114" "114" "114" "121" "121" "17.5" "17.5")
    ["css.properties.text-wrap.balance", "css.properties.text-wrap"]]

/-- Syntax of scripts. -/
def languageFeatures : List Feature := [
  entry "arrow-functions" "Arrow functions" .widelyAvailable
    (everywhere "45" "45" "12" "22" "22" "10" "10")
    ["javascript.functions.arrow_functions"],
  entry "template-literals" "Template literals" .widelyAvailable
    (everywhere "41" "41" "12" "34" "34" "9" "9")
    ["javascript.grammar.template_literals"],
  entry "spread" "Spread syntax" .widelyAvailable
    (everywhere "46" "46" "12" "16" "16" "8" "8")
    ["javascript.operators.spread", "javascript.operators.spread.spread_in_object_literals"],
  entry "destructuring" "Destructuring" .widelyAvailable
    (everywhere "49" "49" "14" "41" "41" "8" "8")
    ["javascript.operators.destructuring"],
  entry "async-await" "Async functions" .widelyAvailable
    (everywhere "55" "55" "15" "52" "52" "10.1" "10.3")
    ["javascript.statements.async_function", "javascript.operators.await"],
  entry "nullish-coalescing" "Nullish coalescing" .widelyAvailable
    (everywhere "80" "80" "80" "72" "79" "13.1" "13.4")
    ["javascript.operators.nullish_coalescing"],
  entry "optional-chaining" "Optional chaining (?.)" .widelyAvailable
    (everywhere "80" "80" "80" "74" "79" "13.1" "13.4")
    ["javascript.operators.optional_chaining"],
  entry "class-syntax" "Classes" .widelyAvailable
    (everywhere "49" "49" "13" "45" "45" "9" "9")
    ["javascript.classes"],
  entry "exponentiation" "Exponentiation operator" .widelyAvailable
    (everywhere "52" "52" "14" "52" "52" "10.1" "10.3")
    ["javascript.operators.exponentiation"]]

/-- Objects that a browser offers to scripts. -/
def platformFeatures : List Feature := [
  entry "promise" "Promise" .widelyAvailable
    (everywhere "32" "32" "12" "29" "29" "8" "8")
    ["javascript.builtins.Promise"],
  entry "fetch" "Fetch" .widelyAvailable
    (everywhere "42" "42" "14" "39" "39" "10.1" "10.3")
    ["api.fetch", "api.Request", "api.Response", "api.Headers"],
  entry "xhr" "XMLHttpRequest" .widelyAvailable
    (everywhere "1" "18" "12" "1" "4" "1.2" "1")
    ["api.XMLHttpRequest"],
  entry "aborting" "AbortController and AbortSignal" .widelyAvailable
    (everywhere "66" "66" "16" "57" "57" "12.1" "12.2")
    ["api.AbortController", "api.AbortSignal"],
  entry "map" "Map" .widelyAvailable
    (everywhere "38" "38" "12" "13" "14" "8" "8")
    ["javascript.builtins.Map"],
  entry "set" "Set" .widelyAvailable
    (everywhere "38" "38" "12" "13" "14" "8" "8")
    ["javascript.builtins.Set"],
  entry "weakmap" "WeakMap" .widelyAvailable
    (everywhere "36" "36" "12" "6" "6" "8" "8")
    ["javascript.builtins.WeakMap"],
  entry "weakset" "WeakSet" .widelyAvailable
    (everywhere "36" "36" "12" "34" "34" "9" "9")
    ["javascript.builtins.WeakSet"],
  entry "symbol" "Symbol" .widelyAvailable
    (everywhere "38" "38" "12" "36" "36" "9" "9")
    ["javascript.builtins.Symbol"],
  entry "proxy-reflect" "Proxy and Reflect" .widelyAvailable
    (everywhere "49" "49" "12" "18" "18" "10" "10")
    ["javascript.builtins.Proxy", "javascript.builtins.Reflect"],
  entry "intersection-observer" "Intersection observer" .widelyAvailable
    (everywhere "58" "58" "16" "55" "55" "12.1" "12.2")
    ["api.IntersectionObserver"],
  entry "resize-observer" "Resize observer" .widelyAvailable
    (everywhere "64" "64" "79" "69" "79" "13.1" "13.4")
    ["api.ResizeObserver"],
  entry "mutationobserver" "Mutation observer" .widelyAvailable
    (everywhere "26" "26" "12" "14" "14" "7" "7")
    ["api.MutationObserver"],
  entry "url" "URL API" .widelyAvailable
    (everywhere "32" "32" "12" "26" "26" "14.1" "14.5")
    ["api.URL", "api.URLSearchParams"],
  entry "formdata" "FormData" .widelyAvailable
    (everywhere "5" "18" "12" "4" "4" "5" "5")
    ["api.FormData"],
  entry "blob" "Blob" .widelyAvailable
    (everywhere "20" "25" "12" "13" "14" "8" "8")
    ["api.Blob"],
  entry "filereader" "FileReader" .widelyAvailable
    (everywhere "7" "18" "12" "3.6" "32" "6" "6")
    ["api.FileReader"],
  entry "web-workers" "Web workers" .widelyAvailable
    (everywhere "2" "18" "12" "3.5" "4" "4" "5")
    ["api.Worker"],
  entry "websockets" "WebSockets" .widelyAvailable
    (everywhere "5" "18" "12" "11" "14" "5" "4.2")
    ["api.WebSocket"],
  entry "server-sent-events" "Server-sent events" .widelyAvailable
    (everywhere "6" "18" "79" "6" "45" "5" "4")
    ["api.EventSource"],
  entry "requestanimationframe" "requestAnimationFrame()" .widelyAvailable
    (everywhere "24" "25" "12" "23" "23" "7" "7")
    ["api.Window.requestAnimationFrame"],
  entry "service-workers" "Service workers" .widelyAvailable
    (everywhere "40" "40" "17" "44" "44" "11.1" "11.3")
    ["api.ServiceWorker", "api.Navigator.serviceWorker"],
  entry "geolocation" "Geolocation" .widelyAvailable
    (everywhere "5" "18" "12" "3.5" "4" "5" "3")
    ["api.Geolocation", "api.Navigator.geolocation"],
  entry "web-share" "Web share" .limited
    [("chrome", "128"), ("chrome_android", "61"), ("edge", "93"), ("firefox_android", "79"),
      ("safari", "12.1"), ("safari_ios", "12.2")]
    ["api.Navigator.share", "api.Navigator.canShare"],
  entry "async-clipboard" "Async clipboard" .newlyAvailable
    (everywhere "66" "66" "79" "127" "127" "13.1" "13.4")
    ["api.Clipboard", "api.Navigator.clipboard"],
  entry "web-storage" "Web storage" .widelyAvailable
    (everywhere "4" "18" "12" "3.5" "4" "4" "3.2")
    ["api.Window.localStorage", "api.Window.sessionStorage", "api.Storage"]]

/-- Methods of arrays, strings and objects. -/
def methodFeatures : List Feature := [
  entry "array-includes" "Array includes()" .widelyAvailable
    (everywhere "47" "47" "14" "43" "43" "9" "9")
    ["javascript.builtins.Array.includes"],
  entry "array-find" "Array find() and findIndex()" .widelyAvailable
    (everywhere "45" "45" "12" "25" "25" "8" "8")
    ["javascript.builtins.Array.find", "javascript.builtins.Array.findIndex"],
  entry "array-flat" "Array flat()" .widelyAvailable
    (everywhere "69" "69" "79" "62" "62" "12" "12")
    ["javascript.builtins.Array.flat"],
  entry "array-flatmap" "Array flatMap()" .widelyAvailable
    (everywhere "69" "69" "79" "62" "62" "12" "12")
    ["javascript.builtins.Array.flatMap"],
  entry "array-from" "Array.from()" .widelyAvailable
    (everywhere "45" "45" "12" "32" "32" "9" "9")
    ["javascript.builtins.Array.from"],
  entry "string-includes" "String includes()" .widelyAvailable
    (everywhere "41" "41" "12" "40" "40" "9" "9")
    ["javascript.builtins.String.includes"],
  entry "string-startswith-endswith" "String startsWith() and endsWith()" .widelyAvailable
    (everywhere "41" "41" "12" "17" "17" "9" "9")
    ["javascript.builtins.String.startsWith", "javascript.builtins.String.endsWith"],
  entry "string-repeat" "String repeat()" .widelyAvailable
    (everywhere "41" "41" "12" "24" "24" "9" "9")
    ["javascript.builtins.String.repeat"],
  entry "string-padstart-padend" "String padStart() and padEnd()" .widelyAvailable
    (everywhere "57" "57" "15" "48" "48" "10" "10")
    ["javascript.builtins.String.padStart", "javascript.builtins.String.padEnd"],
  entry "string-trim" "String trim()" .widelyAvailable
    (everywhere "4" "18" "12" "3.5" "4" "5" "5")
    ["javascript.builtins.String.trim"],
  entry "string-trimstart-trimend" "String trimStart() and trimEnd()" .widelyAvailable
    (everywhere "66" "66" "79" "61" "61" "12" "12")
    ["javascript.builtins.String.trimStart", "javascript.builtins.String.trimEnd"],
  entry "string-replaceall" "String replaceAll()" .widelyAvailable
    (everywhere "85" "85" "85" "77" "79" "13.1" "13.4")
    ["javascript.builtins.String.replaceAll"],
  entry "object-assign" "Object.assign()" .widelyAvailable
    (everywhere "45" "45" "12" "34" "34" "9" "9")
    ["javascript.builtins.Object.assign"],
  entry "object-values" "Object.values()" .widelyAvailable
    (everywhere "54" "54" "14" "47" "47" "10.1" "10.3")
    ["javascript.builtins.Object.values"],
  entry "object-entries" "Object.entries()" .widelyAvailable
    (everywhere "54" "54" "14" "47" "47" "10.1" "10.3")
    ["javascript.builtins.Object.entries"],
  entry "object-fromentries" "Object.fromEntries()" .widelyAvailable
    (everywhere "73" "73" "79" "63" "63" "12.1" "12.2")
    ["javascript.builtins.Object.fromEntries"],
  entry "object-getownpropertydescriptors" "Object.getOwnPropertyDescriptors()" .widelyAvailable
    (everywhere "54" "54" "15" "50" "50" "10" "10")
    ["javascript.builtins.Object.getOwnPropertyDescriptors"],
  entry "object-hasown" "Object.hasOwn()" .newlyAvailable
    (everywhere "93" "93" "93" "92" "92" "15.4" "15.4")
    ["javascript.builtins.Object.hasOwn"]]

/-- Graphics, sound and contacts. -/
def deviceFeatures : List Feature := [
  entry "offscreen-canvas" "OffscreenCanvas" .newlyAvailable
    (everywhere "69" "69" "79" "105" "105" "16.4" "16.4")
    ["api.OffscreenCanvas"],
  entry "web-audio" "Web Audio" .widelyAvailable
    (everywhere "35" "35" "12" "25" "25" "14.1" "14.5")
    ["api.AudioContext"],
  entry "contact-picker" "Contact picker" .limited
    [("chrome_android", "80")]
    ["api.ContactsManager"]]

/-- The features known without a dataset of one's own. -/
def catalogue : List Feature :=
  boxFeatures ++ styleFeatures ++ selectorFeatures ++ languageFeatures ++ platformFeatures ++
    methodFeatures ++ deviceFeatures

/-- The registry of the catalogue. -/
def catalogueRegistry : Registry := Registry.ofFeatures catalogue

end FeatureAudit
