import FeatureAudit.CommandLine.Run
import FeatureAudit.Proofs.Dataset.Origin
import FeatureAudit.Proofs.Report.Lossless
import FeatureAudit.Proofs.Settings.RoundTrip
import FeatureAudit.Service.Respond

/-!
# Three ways to ask about a token

A token can be asked about on the command line, by the path of its feature, and by a body that names it. All three go
through one look-up, with one override of the target at most; so they give one answer, and refuse together.

* **`CommandLine.Asks`**, **`Service.Gets`**, **`Service.Posts`** — the three ways, once words, escapes and bodies have
  been read.
* **`CommandLine.respond_of_asks`**, **`Service.respond_of_gets`**, **`Service.respond_of_posts`** — all lead to the
  look-up.
* **`EffectiveTarget`** — the target that counts.
* **`Workspace.Answers`**, **`Workspace.Refuses`**, **`point_queries_agree`** — the outcomes of the three together.
-/
namespace FeatureAudit

open FeatureAudit.Json FeatureAudit.Text

variable {token : String} {target : Option Tier} {ws : Workspace}

/-! ## The target that counts -/

/-- The target that counts: the one that is given, else that of the environment, else that of the file, else the
usual one. -/
inductive EffectiveTarget (file : List (String × Value)) (env : Environment) : Option Tier → Tier → Prop where
  | given (t : Tier) : EffectiveTarget file env (some t) t
  | environment {t : Tier} (h : env.value "BASELINE_TARGET" = t.name) : EffectiveTarget file env none t
  | file {t : Tier} (hblank : env.value "BASELINE_TARGET" = "")
      (h : lastValue? (Settings.isNamedBy "target") file = some (.str t.name)) : EffectiveTarget file env none t
  | usual (hblank : env.value "BASELINE_TARGET" = "")
      (h : lastValue? (Settings.isNamedBy "target") file = none) :
      EffectiveTarget file env none .widelyAvailable

/-- A name that is read as a tier is the name of that tier, so names and tiers go with each other. -/
theorem Tier.name_of_ofName? {s : String} {t : Tier} (h : Tier.ofName? s = some t) : t.name = s := by
  rw [ofName?] at h
  simpa using List.find?_some h

/-- Only the name of a tier is good as a value for one; neither another spelling nor another kind of value will do. -/
theorem checkTier_eq_good_iff {v : Value} {t : Tier} : checkTier v = .good t ↔ v = .str t.name := by
  constructor
  · intro h
    unfold checkTier at h
    split at h
    · rename_i read hread
      obtain rfl : read = t := by simpa using h
      obtain ⟨name, hname, hread⟩ := Option.bind_eq_some_iff.1 hread
      -- a value that is no text has no name to be read
      cases v with
      | str s =>
        obtain rfl : s = name := Option.some.inj hname
        rw [Tier.name_of_ofName? hread]
      | _ => exact absurd hname (by simp [Value.str?])
    · exact absurd h (by simp [Checked.fail])
  · rintro rfl
    exact Settings.checkTier_name t

/-- The target that is given is the value that overrides those of other sources, and without one nothing overrides
them. -/
theorem overrideValue?_targetOverride (target : Option Tier) :
    Settings.overrideValue? (Service.targetOverride target) "target" = target.map fun t => .str t.name := by
  cases target <;>
    simp [Settings.overrideValue?, Service.targetOverride, lastValue?, Settings.isNamedBy, Settings.isSaid]

/-- Settings that are drawn from their sources have the effective target: the one that is given, else that of the
environment, else that of the file, else the usual one. The cases follow this order. -/
theorem effectiveTarget_of_drawnFrom {file : List (String × Value)} {env : Environment} {s : Settings}
    (h : s.DrawnFrom (Settings.winner? file env (Service.targetOverride target))) :
    EffectiveTarget file env target s.target := by
  have htarget := h.target
  rw [Settings.winner?, overrideValue?_targetOverride] at htarget
  cases target with
  | some t =>
    -- what is given goes over every other source
    rw [Option.map_some, Option.some_or, Settings.Gives, Settings.checkTier_name] at htarget
    have heq : t = s.target := by simpa using htarget
    exact heq ▸ .given t
  | none =>
    rw [Option.map_none, Option.none_or, Settings.environmentValue?, Settings.unlessEmpty] at htarget
    by_cases hblank : env.value "BASELINE_TARGET" = ""
    · -- the environment has none, so that of the file counts if there is one
      rw [if_pos (by simp [hblank]), Option.none_or] at htarget
      cases hfile : lastValue? (Settings.isNamedBy "target") file with
      | none =>
        rw [hfile] at htarget
        rw [show s.target = .widelyAvailable from htarget]
        exact .usual hblank hfile
      | some v =>
        rw [hfile] at htarget
        obtain rfl := checkTier_eq_good_iff.1 htarget
        exact .file hblank hfile
    · rw [if_neg (by simpa using hblank), Option.some_or] at htarget
      have hname := checkTier_eq_good_iff.1 htarget
      exact .environment (Value.str.inj hname)

/-! ## The look-up -/

/-- What is asked of the settings: the target alone is overridden. -/
def targetRequest (target : Option Tier) : SettingsRequest := { overrides := Service.targetOverride target }

/-- A token is looked up with the target of the settings and in the registry of their dataset, once both are there. -/
theorem Workspace.lookUp_of_load_ok {request : SettingsRequest} {settings : Settings} {registry : Registry}
    (hload : Settings.load ws.room ws.files ws.environment request = .ok settings)
    (hregistry : (ws.registry settings.dataset).1 = .ok registry) :
    ws.lookUp token request =
      (.ok (registry.check token settings.target), (ws.registry settings.dataset).2) := by
  rw [lookUp, hload]
  dsimp only
  -- the pair is taken apart, so that the match on its first part goes through
  cases hpair : ws.registry settings.dataset with
  | mk given after =>
    rw [hpair] at hregistry
    obtain rfl : given = .ok registry := hregistry
    rfl

/-- Without settings no token is looked up, and no dataset is loaded for it either. -/
theorem Workspace.lookUp_of_load_error {request : SettingsRequest} {reason : SettingsError}
    (hload : Settings.load ws.room ws.files ws.environment request = .error reason) :
    ws.lookUp token request = (.error (.settings reason), ws) := by
  rw [lookUp, hload]

/-! ## Ways to ask -/

namespace CommandLine

/-- The option that gives a target. -/
def optionOf : Option Tier → OptionValue
  | some t => .text t.name
  | none => .absent

/-- The words ask about the token, and name no file of settings. -/
def Asks (words : List String) (token : String) (target : Option Tier) : Prop :=
  Invocation.ofWords words = .run (.check token "" (optionOf target))

/-- The option for a target on a command line overrides what a request with that target does. -/
theorem overrideOf_optionOf (target : Option Tier) :
    overrideOf "target" (optionOf target) = Service.targetOverride target := by
  cases target <;> rfl

/-- Words that ask for a token are answered by the run of the command that looks it up. -/
theorem respond_of_asks {words : List String} (h : Asks words token target) (timestamp helpText : String) :
    respond ws timestamp helpText words =
      report (Command.run ws timestamp (.check token "" (optionOf target))) := by
  rw [respond, h]

/-- A token that is looked up is answered by its check, printed as an indented text with a line feed behind it. -/
theorem run_check_of_ok {c : Check} {after : Workspace}
    (h : ws.lookUp token (targetRequest target) = (.ok c, after)) (timestamp : String) :
    Command.run ws timestamp (.check token "" (optionOf target)) =
      { printed := .ok { out := c.toValue.indented ++ "\n" }, workspace := after } := by
  have hlookUp : ws.lookUp token { file := "", overrides := Service.targetOverride target } =
      (.ok c, after) := h
  rw [Command.run, overrideOf_optionOf, hlookUp]

/-- A token that cannot be looked up leaves the run of the command with the same failure. -/
theorem run_check_of_error {failure : Failure} {after : Workspace}
    (h : ws.lookUp token (targetRequest target) = (.error failure, after)) (timestamp : String) :
    Command.run ws timestamp (.check token "" (optionOf target)) =
      { printed := .error failure, workspace := after } := by
  have hlookUp : ws.lookUp token { file := "", overrides := Service.targetOverride target } =
      (.error failure, after) := h
  rw [Command.run, overrideOf_optionOf, hlookUp]

end CommandLine

namespace Service

/-- The request gets the feature of the token. -/
structure Gets (r : Request) (token : String) (target : Option Tier) : Prop where
  method : r.method.toUpper = "GET"
  asked : ∃ t, Target.ofString r.target = .ok t ∧ t.path = featurePath.toList ++ token.toList ∧
    queryTarget t = .ok target

/-- The request posts a body that names the token, and that there is room to read. -/
structure Posts (room : Room) (r : Request) (token : String) (target : Option Tier) : Prop where
  method : r.method.toUpper = "POST"
  asked : ∃ t, Target.ofString r.target = .ok t ∧ t.path = "/check".toList
  body : readBody room CheckBody.ofFields r.body = .ok ⟨token, target⟩

/-- A line feed at the end of a token is not taken for one at the end of a path without a token. -/
theorem prefix_withoutFinalLine (front : List Char) {cs : List Char} (h : cs ≠ []) :
    front <+: withoutFinalLine (front ++ cs) := by
  unfold withoutFinalLine
  split
  · rw [List.dropLast_append_of_ne_nil h]
    exact List.prefix_append _ _
  · exact List.prefix_append _ _

/-- A path that goes on behind the one of features with a token is the route of that token, provided that it is not
empty and has no slash in it. Tokens with slashes lead elsewhere. -/
theorem Route.of?_featurePath (htoken : token ≠ "") (hslash : '/' ∉ token.toList) :
    Route.of? (featurePath.toList ++ token.toList) = some (.feature token) := by
  have hne : token.toList ≠ [] := by simpa using htoken
  -- the path is none of those without a token, which do not start like it
  have hfixed : ∀ r ∈ fixedRoutes, ¬ featurePath.toList <+: r.1.toList := by decide
  have hnone : (fixedRoutes.find? fun r =>
      r.1 == String.ofList (withoutFinalLine (featurePath.toList ++ token.toList))) = none := by
    refine List.find?_eq_none.2 fun r hr heq => hfixed r hr ?_
    rw [beq_iff_eq.1 heq, String.toList_ofList]
    exact prefix_withoutFinalLine _ hne
  have hdrop : featurePath.toList.isPrefixOf? (featurePath.toList ++ token.toList) = some token.toList :=
    List.isPrefixOf?_eq_some_iff_append_eq.2 rfl
  have hnamed : (token.toList.isEmpty || token.toList.contains '/') = false := by
    simp [hne, hslash]
  unfold of?
  dsimp only
  rw [hnone, hdrop]
  dsimp only
  rw [hnamed, String.ofList_toList]
  rfl

variable {advisor : Advisor}

/-- A request for a path with a route, by the method of the route, is answered on the route. -/
theorem respond_of_route {r : Request} {t : Target} {route : Route} (ht : Target.ofString r.target = .ok t)
    (hroute : Route.of? t.path = some route) (hmethod : r.method.toUpper = route.method) :
    respond advisor ws r = .ok (route.answer advisor ws t r.body) := by
  have hanswer : answerTarget advisor ws r t = route.answer advisor ws t r.body := by
    rw [answerTarget, hroute]
    dsimp only
    rw [if_pos (by rw [hmethod, beq_self_eq_true])]
  rw [respond, ht, Except.map, hanswer]

/-- A request that gets a token is answered as a check of it, whoever gives advice: this route asks for none. -/
theorem respond_of_gets {r : Request} (h : Gets r token target) (htoken : token ≠ "")
    (hslash : '/' ∉ token.toList) : respond advisor ws r = .ok (answerCheck ws token target) := by
  obtain ⟨t, ht, hpath, hquery⟩ := h.asked
  have hroute : Route.of? t.path = some (.feature token) := by rw [hpath, Route.of?_featurePath htoken hslash]
  rw [respond_of_route ht hroute h.method, Route.answer, hquery]

/-- A request that posts a token is answered as a check of it, if its body can be read within the room there is. -/
theorem respond_of_posts {r : Request} (h : Posts ws.room r token target) :
    respond advisor ws r = .ok (answerCheck ws token target) := by
  obtain ⟨t, ht, hpath⟩ := h.asked
  have hroute : Route.of? t.path = some .check := by
    rw [hpath]
    decide
  rw [respond_of_route ht hroute h.method, Route.answer, h.body]

/-- A check that goes well is replied to with status 200 and the check itself as the value. -/
theorem reply_answerCheck_of_ok {c : Check} {after : Workspace}
    (h : ws.lookUp token (targetRequest target) = (.ok c, after)) :
    (answerCheck ws token target).reply = .json 200 c.toValue := by
  have hlookUp : ws.lookUp token { overrides := targetOverride target } = (.ok c, after) := h
  rw [answerCheck, hlookUp]

/-- A check that fails is replied to by what the failure stands for. -/
theorem reply_answerCheck_of_error {failure : Failure} {after : Workspace}
    (h : ws.lookUp token (targetRequest target) = (.error failure, after)) :
    (answerCheck ws token target).reply = ofFailure failure := by
  have hlookUp : ws.lookUp token { overrides := targetOverride target } = (.error failure, after) := h
  rw [answerCheck, hlookUp]

end Service

/-! ## Answers as text -/

/-- The value of a check is plain if no browser is named twice in it, so that it is read back as it was. -/
theorem Check.isPlain_toValue {c : Check} (h : (c.browsers.map Prod.fst).Nodup) : c.toValue.IsPlain := by
  simp [Check.toValue, Value.IsPlain, Value.fieldsArePlain, isPlain_tierValue, isPlain_ofText?,
    isPlain_textFields h]

/-- The value of a check has two levels at most: its browsers are the only part with a level of their own. -/
theorem Check.depth_toValue_le (c : Check) : c.toValue.depth ≤ 2 := by
  have hbrowsers := depth_textFields_le c.browsers
  simp [Check.toValue, Value.depth, Value.depthOfFields, depth_tierValue, depth_ofText?, hbrowsers]

/-- An answer on lines of its own is read back: it is no deeper than what there is always room to read. -/
theorem Check.read_line {c : Check} (h : (c.browsers.map Prod.fst).Nodup) (room : Room) :
    read room (c.toValue.indented ++ "\n").toList = .ok c.toValue := by
  have hplain := c.isPlain_toValue h
  have hwritten : c.toValue.depth ≤ writtenDepth := c.depth_toValue_le.trans (by decide)
  have hdepth : c.toValue.depth ≤ room.values := hwritten.trans room.enough
  have htext : IsTextOf c.toValue (c.toValue.indented ++ "\n").toList := by
    rw [String.toList_append]
    exact (Value.isTextOf_indented hplain).append_gap (by decide)
  exact read_of_isTextOf htext hplain hdepth

/-! ## The three together -/

namespace Workspace

/-- All who ask about the token, in one of the three ways, are given the answer: it is printed as JSON, or it is the
reply. -/
structure Answers (ws : Workspace) (token : String) (target : Option Tier) (answer : Value) : Prop where
  printed : ∀ words, CommandLine.Asks words token target → ∀ timestamp helpText,
    ∃ out, (CommandLine.respond ws timestamp helpText words).printed = .ok { status := 0, out, err := "" } ∧
      ∀ room, read room out.toList = .ok answer
  got : ∀ r, Service.Gets r token target → ∀ advisor,
    ∃ a, Service.respond advisor ws r = .ok a ∧ a.reply = .json 200 answer
  posted : ∀ r, Service.Posts ws.room r token target → ∀ advisor,
    ∃ a, Service.respond advisor ws r = .ok a ∧ a.reply = .json 200 answer

/-- All who ask about the token, in one of the three ways, are refused, with one message. -/
structure Refuses (ws : Workspace) (token : String) (target : Option Tier) (message : String) : Prop where
  printed : ∀ words, CommandLine.Asks words token target → ∀ timestamp helpText,
    (CommandLine.respond ws timestamp helpText words).printed =
      .ok { status := 1, out := "", err := s!"Error: {message}\n" }
  got : ∀ r, Service.Gets r token target → ∀ advisor,
    ∃ a, Service.respond advisor ws r = .ok a ∧ a.reply = .json 400 (.obj [("detail", .str message)])
  posted : ∀ r, Service.Posts ws.room r token target → ∀ advisor,
    ∃ a, Service.respond advisor ws r = .ok a ∧ a.reply = .json 400 (.obj [("detail", .str message)])

variable {after : Workspace}

/-- If a token is looked up with success, then all three ways to ask for it are answered alike: a command by a line
that reads back as the check, and both requests by the check itself. -/
theorem answers_of_lookUp (htoken : token ≠ "") (hslash : '/' ∉ token.toList) {c : Check}
    (hlookUp : ws.lookUp token (targetRequest target) = (.ok c, after))
    (hbrowsers : (c.browsers.map Prod.fst).Nodup) : ws.Answers token target c.toValue := by
  have hreply := Service.reply_answerCheck_of_ok hlookUp
  refine ⟨fun words hasks timestamp helpText => ?_, fun r hgets advisor => ?_, fun r hposts advisor => ?_⟩
  · refine ⟨c.toValue.indented ++ "\n", ?_, c.read_line hbrowsers⟩
    rw [CommandLine.respond_of_asks hasks, CommandLine.run_check_of_ok hlookUp]
    rfl
  · exact ⟨_, Service.respond_of_gets hgets htoken hslash, hreply⟩
  · exact ⟨_, Service.respond_of_posts hposts, hreply⟩

/-- Errors of the settings that the service tells are told on the command line too. -/
theorem isReported_settings {reason : SettingsError} (h : reason.isReported = true) :
    (Failure.settings reason).isReported = true := by
  cases reason with
  | inaccessible path why => exact absurd h (by simp [SettingsError.isReported])
  | _ => exact h

/-- If the settings stand in the way of a lookup and say so, then all three ways to ask are refused alike, with the
same message. -/
theorem refuses_of_lookUp (htoken : token ≠ "") (hslash : '/' ∉ token.toList) {reason : SettingsError}
    (hlookUp : ws.lookUp token (targetRequest target) = (.error (.settings reason), after))
    (hreported : reason.isReported = true) : ws.Refuses token target reason.message := by
  have hreply := Service.reply_answerCheck_of_error hlookUp
  rw [Service.ofFailure, if_pos hreported] at hreply
  refine ⟨fun words hasks timestamp helpText => ?_, fun r hgets advisor => ?_, fun r hposts advisor => ?_⟩
  · rw [CommandLine.respond_of_asks hasks, CommandLine.run_check_of_error hlookUp, CommandLine.report]
    dsimp only
    rw [if_pos (isReported_settings hreported)]
    rfl
  · exact ⟨_, Service.respond_of_gets hgets htoken hslash, hreply⟩
  · exact ⟨_, Service.respond_of_posts hposts, hreply⟩

end Workspace

/-- **The three ways to ask agree**, in every workspace, whatever has happened to it. Where there are settings and a
dataset, all three answer with what the registry of that dataset knows about the token for the target that counts.
Where the settings are at fault, all three refuse. -/
theorem point_queries_agree (files : Files) (environment : Environment) (homes : Homes) (room : Room)
    (events : List Event) {ws : Workspace}
    (hws : ws = (Workspace.opened files environment homes room).afterAll events) {token : String} (htoken : token ≠ "")
    (hslash : '/' ∉ token.toList) (target : Option Tier) :
    (∀ settings registry,
        Settings.load ws.room ws.files ws.environment (targetRequest target) = .ok settings →
        (ws.registry settings.dataset).1 = .ok registry →
          ws.Answers token target (registry.check token settings.target).toValue ∧
          ∃ file, (targetRequest target).Reads ws.room ws.files file ∧
            settings.DrawnFrom (Settings.winner? file ws.environment (Service.targetOverride target)) ∧
            EffectiveTarget file ws.environment target settings.target) ∧
      ∀ reason,
        Settings.load ws.room ws.files ws.environment (targetRequest target) = .error reason →
        reason.isReported = true → ws.Refuses token target reason.message := by
  constructor
  · intro settings registry hload hregistry
    have hkeeps : ws.KeepsRead := by
      rw [hws]
      exact Workspace.keepsRead_afterAll (Workspace.keepsRead_opened files environment homes room) events
    have honce : registry.NamesBrowsersOnce := Workspace.namesBrowsersOnce_of_registry hkeeps hregistry
    have hlookUp : ws.lookUp token (targetRequest target) =
        (.ok (registry.check token settings.target), (ws.registry settings.dataset).2) :=
      Workspace.lookUp_of_load_ok hload hregistry
    refine ⟨Workspace.answers_of_lookUp htoken hslash hlookUp (honce.nodup_check token settings.target), ?_⟩
    -- the settings are drawn from the sources, and the target with them
    obtain ⟨file, hreads⟩ := SettingsRequest.exists_reads_of_load hload
    rw [hreads.load_eq] at hload
    have hdrawn := Settings.ofSources_eq_ok_iff.1 hload
    exact ⟨file, hreads, hdrawn, effectiveTarget_of_drawnFrom hdrawn⟩
  · intro reason hload hreported
    exact Workspace.refuses_of_lookUp htoken hslash (Workspace.lookUp_of_load_error hload) hreported

/-- A dataset with one feature, and a file of settings that asks for the dataset and for a target. -/
def spacedFiles : Files :=
  ⟨[(["baseline-checker.config.json"], .file (encode "\x7b\"target\": \"limited\", \"dataset\": \"d.json\"\x7d")),
    (["d.json"], .file (encode "\x7b\"a b\": \x7b\"status\": \x7b\"baseline\": \"low\"\x7d\x7d\x7d"))], []⟩

/-- A request for a feature whose identifier has a space, escaped twice in the path. -/
def spacedGet : Service.Request := { method := "get", target := "/features/a%2520b", body := [] }

/-- A body that names the token, with an escape for the space. -/
def spacedPost : Service.Request :=
  { method := "POST", target := "/check", body := encode "\x7b\"token\": \"a\\u0020b\"\x7d" }

/-- The request with a space in its path, as it comes over the wire, gets the token that has a space in it. -/
theorem spacedGet_gets : Service.Gets spacedGet "a b" none where
  method := by decide +kernel
  asked := ⟨{ origin := Service.usualOrigin, path := "/features/a b".toList, query := [] },
    by decide +kernel, by decide, by decide +kernel⟩

/-- The request with a space in its body posts the token that has a space in it. -/
theorem spacedPost_posts : Service.Posts .usual spacedPost "a b" none where
  method := by decide +kernel
  asked := ⟨{ origin := Service.usualOrigin, path := "/check".toList, query := [] }, by decide +kernel, rfl⟩
  body := by decide +kernel

/-- A workspace in which the dataset was read before. -/
def spacedWorkspace (environment : Environment) : Workspace :=
  (Workspace.opened spacedFiles environment {} .usual).afterAll [.load (some "d.json")]

/-- The target of the environment goes over that of the file, and makes all three refuse where it is none. -/
theorem point_queries_agree_on_spaces :
    CommandLine.Asks ["check", "a b"] "a b" none ∧ Service.Gets spacedGet "a b" none ∧
      Service.Posts .usual spacedPost "a b" none ∧
      (spacedWorkspace [("BASELINE_TARGET", "newly-available")]).Answers "a b" none
        (Check.toValue ⟨"a b", some "a b", some .newlyAvailable, [], true, none⟩) ∧
      (spacedWorkspace [("BASELINE_TARGET", "new")]).Refuses "a b" none
        "Invalid configuration: 1 validation error for BaselineConfig" := by
  have hasks : CommandLine.Invocation.ofWords ["check", "a b"] = .run (.check "a b" "" .absent) := by
    decide +kernel
  have hne : "a b" ≠ "" := by decide
  have hslash : '/' ∉ "a b".toList := by decide
  refine ⟨hasks, spacedGet_gets, spacedPost_posts, ?_, ?_⟩
  · -- the environment names a tier: the three ways answer alike
    have hload : Settings.load (spacedWorkspace [("BASELINE_TARGET", "newly-available")]).room
        (spacedWorkspace [("BASELINE_TARGET", "newly-available")]).files
        (spacedWorkspace [("BASELINE_TARGET", "newly-available")]).environment (targetRequest none) =
          .ok { target := .newlyAvailable, dataset := some "d.json" } := by
      decide +kernel
    have hcheck : ((spacedWorkspace [("BASELINE_TARGET", "newly-available")]).registry
        (some "d.json")).1.toOption.map (fun r => r.check "a b" .newlyAvailable) =
          some ⟨"a b", some "a b", some .newlyAvailable, [], true, none⟩ := by
      decide +kernel
    obtain ⟨registry, hregistry, hanswer⟩ := Option.map_eq_some_iff.1 hcheck
    obtain ⟨hanswers, -⟩ := (point_queries_agree spacedFiles _ {} .usual _ rfl hne hslash none).1 _ registry hload
      (Workspace.toOption_eq_some_iff.1 hregistry)
    rwa [hanswer] at hanswers
  · -- it names none: they refuse alike
    have hload : Settings.load (spacedWorkspace [("BASELINE_TARGET", "new")]).room
        (spacedWorkspace [("BASELINE_TARGET", "new")]).files
        (spacedWorkspace [("BASELINE_TARGET", "new")]).environment (targetRequest none) =
          .error (.invalid [⟨[.field "target"], .noTier, true⟩]) := by
      decide +kernel
    exact (point_queries_agree spacedFiles _ {} .usual _ rfl hne hslash none).2 _ hload rfl

end FeatureAudit
