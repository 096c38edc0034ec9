import FeatureAudit.Report.Data
import FeatureAudit.Server
import FeatureAudit.Service.Body
import FeatureAudit.Service.Target
import FeatureAudit.Service.WelcomePage
import FeatureAudit.Session

/-!
Requests and their replies.

* `Route.of?` finds the route of a path.
* `answerCheck` and `answerAnalyze` answer queries and audits; what is wrong with a request is
  found before any file is looked into, and a model is asked for advice after that.
* `respond` answers one request, and `visit` follows where it is sent on.
-/
namespace FeatureAudit.Service

open FeatureAudit.Json FeatureAudit.Text

/-- A request: its method, its target as it is asked for, and its body. -/
structure Request where
  method : String
  target : String
  body : List UInt8

/-- A reply: a JSON value or a text with a status, or the reference to ask for instead. -/
inductive Reply where
  | json (status : Nat) (v : Value)
  | text (status : Nat) (text : String)
  | sentOn (reference : String)
  deriving Inhabited

/-- The status of a reply. -/
def Reply.status : Reply → Nat
  | .json status _ => status
  | .text status _ => status
  | .sentOn _ => 307

/-- A reply, the notices on the way, and the workspace. -/
structure Answer where
  reply : Reply
  notices : List Notice := []
  workspace : Workspace
  deriving Inhabited

/-- The routes of the service. -/
inductive Route where
  | welcome
  | health
  | feature (token : String)
  | check
  | analyze
  deriving DecidableEq, Repr

/-- The method of a route. -/
def Route.method : Route → String
  | .welcome | .health | .feature _ => "GET"
  | .check | .analyze => "POST"

/-- The paths of routes without a token. -/
def fixedRoutes : List (String × Route) :=
  [("/", .welcome), ("/health", .health), ("/check", .check), ("/analyze", .analyze)]

/-- What comes before the token in the path of a feature. -/
def featurePath : String := "/features/"

/-- A path without a line feed at its end. -/
def withoutFinalLine (path : List Char) : List Char :=
  if path.getLast? = some '\n' then path.dropLast else path

/-- The route of a path. One line feed at the end of a path without a token means nothing. -/
def Route.of? (path : List Char) : Option Route :=
  let fixed := String.ofList (withoutFinalLine path)
  match fixedRoutes.find? fun r => r.1 == fixed with
  | some r => some r.2
  | none =>
    match featurePath.toList.isPrefixOf? path with
    | some token =>
      if token.isEmpty || token.contains '/' then none else some (.feature (String.ofList token))
    | none => none

/-- A reply that only says what is wrong. -/
def detail (status : Nat) (message : String) : Reply :=
  .json status (.obj [("detail", .str message)])

/-- The reply where the program itself fails. -/
def internalError : Reply := .text 500 "Internal Server Error"

/-- A step to a fault, as JSON. -/
def stepValue : Step → Value
  | .field name => .str name
  | .item index => .int index

/-- A fault as JSON. -/
def faultValue (f : FieldFault) : Value :=
  .obj
    [("loc", .arr (f.place.map stepValue)), ("type", .str f.kind.code),
     ("msg", .str f.kind.message)]

/-- The reply to a request with faults. What is faulty goes into the reply's record, which cannot
hold a number that is not finite. -/
def refuse (faults : List FieldFault) : Reply :=
  if faults.all FieldFault.isFinite then
    .json 422 (.obj [("detail", .arr (faults.map faultValue))])
  else internalError

/-- The reply to a failure: only errors of the settings are told. -/
def ofFailure : Failure → Reply
  | .settings reason => if reason.isReported then detail 400 reason.message else internalError
  | _ => internalError

/-- The reply to a body that holds no value. -/
def ofBodyError : BodyError → Reply
  | .faulty faults => refuse faults
  | .unreadable => detail 400 "There was an error parsing the body"

/-- The override of the target, if one is asked for. -/
def targetOverride : Option Tier → List (String × Value)
  | some t => [("target", .str t.name)]
  | none => []

/-- Answer a query about a token. -/
def answerCheck (ws : Workspace) (token : String) (target : Option Tier) : Answer :=
  match ws.lookUp token { overrides := targetOverride target } with
  | (.ok answer, ws) => { reply := .json 200 answer.toValue, workspace := ws }
  | (.error failure, ws) => { reply := ofFailure failure, workspace := ws }

/-- The target in a query, or the fault in it. -/
def queryTarget (t : Target) : Except (List FieldFault) (Option Tier) :=
  match t.parameter? "target" with
  | none => .ok none
  | some name =>
    match ((checkTier (.str name)).within (.field "target")).within (.field "query") with
    | .good tier => .ok (some tier)
    | .faulty faults => .error faults

/-- What an audit is of. -/
inductive Subject where
  | code (name text : String)
  | files (paths : List Path)
  | folder (path : Path)
  deriving DecidableEq, Repr

/-- A path that must be absolute and lead somewhere; `noun` names it in the reply. -/
def requirePath (fs : Files) (noun raw : String) : Except Reply Path :=
  let path := Path.ofString raw
  if !path.isAbsolute then .error (detail 400 s!"{noun} must be absolute")
  else
    match fs.has path with
    | .error _ => .error internalError
    | .ok false => .error (detail 404 s!"Path not found: {raw}")
    | .ok true => .ok path

/-- Paths that must all be absolute and lead somewhere. -/
def requirePaths (fs : Files) (noun : String) : List String → Except Reply (List Path)
  | [] => .ok []
  | raw :: rest =>
    match requirePath fs noun raw with
    | .error reply => .error reply
    | .ok path => (requirePaths fs noun rest).map (path :: ·)

/-- The subject of an audit. Code goes before files, and files before a folder; an empty list and
an empty folder are as good as none, empty code is not. -/
def AnalyzeBody.subject (fs : Files) (b : AnalyzeBody) : Except Reply Subject :=
  let paths := b.filePaths.getD []
  let folder := b.folderPath.getD ""
  match b.code with
  | some text =>
    let name := b.filename.getD ""
    if name.isEmpty then .error (detail 400 "filename is required with code")
    else if (fileKind? name).isNone then
      .error (detail 400 s!"Unsupported file type: {name}")
    else .ok (.code name text)
  | none =>
    if !paths.isEmpty then (requirePaths fs "file_paths entries" paths).map .files
    else if !folder.isEmpty then
      match requirePath fs "folder_path" folder with
      | .error reply => .error reply
      | .ok path =>
        match fs.hasDirectory path with
        | .error _ => .error internalError
        | .ok false => .error (detail 400 s!"Not a directory: {folder}")
        | .ok true => .ok (.folder path)
    else .error (detail 400 "Provide either (code + filename), file_paths, or folder_path.")

/-- The audit of a subject. -/
def Subject.findings (a : Audit) (fs : Files) :
    Subject → Except AccessError Findings × List Notice
  | .code name text =>
    let (findings, notices) := a.ofSources [(name, text)]
    (.ok findings, notices)
  | .files paths => a.ofPaths fs paths 1
  | .folder path => a.ofProject fs path 1

/-- The overrides that a body asks for. -/
def AnalyzeBody.overrides (b : AnalyzeBody) : List (String × Value) :=
  targetOverride b.target ++
    (match b.exceptions with
      | some exceptions => [("exceptions", .ofStrings exceptions)]
      | none => []) ++
    if b.generateFixes then [("generate_fixes", .bool true)] else []

/-- Findings and the advice on them, as JSON. -/
def findingsValue (f : Findings) (advice : Option String) : Value :=
  .obj (f.toFields ++ [("ai_fix_suggestions", .ofText? advice)])

/-- The advice that the service gives on findings, if the settings ask for it. -/
def adviceOn (advisor : Advisor) (ws : Workspace) (settings : Settings) (b : AnalyzeBody) (f : Findings) :
    Option String × List Notice :=
  if settings.generateFixes then
    (ServerSetup.ofEnvironment ws.environment).advice advisor f settings.target.name (b.code.getD "")
  else (none, [])

/-- Answer a request for an audit. The settings are looked at first, then the subject, and advice is asked for last. -/
def answerAnalyze (advisor : Advisor) (ws : Workspace) (b : AnalyzeBody) : Answer :=
  match Settings.load ws.room ws.files ws.environment { overrides := b.overrides } with
  | .error reason => { reply := ofFailure (.settings reason), workspace := ws }
  | .ok settings =>
    match b.subject ws.files with
    | .error reply => { reply, workspace := ws }
    | .ok subject =>
      match ws.audit settings none with
      | (.error reason, ws) => { reply := ofFailure (.dataset reason), workspace := ws }
      | (.ok audit, ws) =>
        let (found, notices) := subject.findings audit ws.files
        match found with
        | .error _ => { reply := internalError, notices, workspace := ws }
        | .ok findings =>
          let (advice, more) := adviceOn advisor ws settings b findings
          { reply := .json 200 (findingsValue findings advice), notices := notices ++ more, workspace := ws }

/-- Answer a request on a route by its method. -/
def Route.answer (advisor : Advisor) (ws : Workspace) (t : Target) (body : List UInt8) : Route → Answer
  | .welcome => { reply := .text 200 welcomePage, workspace := ws }
  | .health => { reply := .json 200 (.obj [("status", .str "ok")]), workspace := ws }
  | .feature token =>
    match queryTarget t with
    | .error faults => { reply := refuse faults, workspace := ws }
    | .ok target => answerCheck ws token target
  | .check =>
    match readBody ws.room CheckBody.ofFields body with
    | .error e => { reply := ofBodyError e, workspace := ws }
    | .ok b => answerCheck ws b.token b.target
  | .analyze =>
    match readBody ws.room AnalyzeBody.ofFields body with
    | .error e => { reply := ofBodyError e, workspace := ws }
    | .ok b => answerAnalyze advisor ws b

/-- Whether a path would have a route without the slashes at its end. -/
def hasTrimmedRoute (path : List Char) : Bool :=
  path != ['/'] && path.getLast? == some '/' && (Route.of? (withoutFinalSlashes path)).isSome

/-- Answer a request for a target. -/
def answerTarget (advisor : Advisor) (ws : Workspace) (r : Request) (t : Target) : Answer :=
  match Route.of? t.path with
  | some route =>
    if route.method == r.method.toUpper then route.answer advisor ws t r.body
    else { reply := detail 405 "Method Not Allowed", workspace := ws }
  | none =>
    if hasTrimmedRoute t.path then { reply := .sentOn t.trimmed, workspace := ws }
    else { reply := detail 404 "Not Found", workspace := ws }

/-- Answer one request, if it can be asked. -/
def respond (advisor : Advisor) (ws : Workspace) (r : Request) : Except TargetError Answer :=
  (Target.ofString r.target).map (answerTarget advisor ws r)

/-- How often a visitor lets itself be sent on. -/
def visitLimit : Nat := 20

/-- Why a visit ends without a reply: nothing can be asked for, or the visitor is sent on to where
nobody can go, or too often. -/
inductive VisitError where
  | target (reason : TargetError)
  | sentOn (reason : SendError)
  | endless
  deriving DecidableEq, Repr

/-- Ask for a target, following where one is sent on at most some number of times. -/
def follow (advisor : Advisor) (limit : Nat) (ws : Workspace) (r : Request) (t : Target) : Except VisitError Answer :=
  let answer := answerTarget advisor ws r t
  match answer.reply with
  | .sentOn reference =>
    match t.sentOn reference, limit with
    | .error reason, _ => .error (.sentOn reason)
    | .ok _, 0 => .error .endless
    | .ok next, limit + 1 => follow advisor limit answer.workspace r next
  | _ => .ok answer

/-- A reply without its content. -/
def Reply.withoutContent (reply : Reply) : Reply := .text reply.status ""

/-- Answer a request and follow where it is sent on. Content is not sent to those who only ask for
the head of a reply. -/
def visit (advisor : Advisor) (ws : Workspace) (r : Request) : Except VisitError Answer :=
  match Target.ofString r.target with
  | .error reason => .error (.target reason)
  | .ok target =>
    (follow advisor visitLimit ws r target).map fun a =>
      if r.method.toUpper == "HEAD" then { a with reply := a.reply.withoutContent } else a

end FeatureAudit.Service
