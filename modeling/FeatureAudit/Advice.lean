import FeatureAudit.Findings
import FeatureAudit.Settings.Sources

/-!
Advice on failing uses from a language model: what it is asked, and what is made of its reply.
-/
namespace FeatureAudit

open FeatureAudit.Text

/-- The most uses that one question names. -/
def adviceUsageLimit : Nat := 50

/-- The most characters of source code that one question quotes. -/
def adviceCodeLimit : Nat := 8000

/-- The most tokens that a reply may have. -/
def adviceTokenLimit : Nat := 2048

/-- A question to a model. -/
structure AdviceRequest where
  model : String
  content : String
  maxTokens : Nat
  deriving DecidableEq, Repr

/-- What comes back: a failure, no choice, or a choice that may hold nothing. -/
inductive AdviceReply where
  | failed (reason : String)
  | noChoice
  | choice (content : Option String)
  deriving DecidableEq, Repr

/-- A model to ask: its reply to every question. -/
abbrev Advisor := AdviceRequest → AdviceReply

/-- The model that is asked unless another is set. -/
def defaultModel : String := "deepseek-ai/DeepSeek-V3.1"

/-- The lines on one use. -/
def usageSummaryLines (u : Usage) : List String :=
  [s!"- {u.file}:{u.line} [{u.severity.name}] {u.token} ({u.featureId}, {Tier.nameOrUnknown u.tier})",
   "  Code: " ++ u.context] ++
    match u.alternative with
    | some alternative =>
      if alternative.isEmpty then [] else ["  Known alternative: " ++ alternative]
    | none => []

/-- The summary of some uses. -/
def usagesSummary (usages : List Usage) : String :=
  if usages.isEmpty then "No failing web features found."
  else "\n".intercalate (usages.flatMap usageSummaryLines)

/-- The part of a question that quotes the source code, if there is any. -/
def quotedCode (code : String) : String :=
  if code.isEmpty then ""
  else
    let fence := String.ofList (List.replicate 3 '\x60')
    s!"Source code:\n{fence}\n{String.ofList (code.toList.take adviceCodeLimit)}\n{fence}\n\n"

/-- The question about some uses that fall short of a target. -/
def adviceQuestion (usages : List Usage) (target code : String) : String :=
  "You are a web platform compatibility expert. A static checker compared the " ++
    s!"features below against the Baseline target '{target}' and found they fall short.\n\n" ++
    s!"Usages:\n{usagesSummary (usages.take adviceUsageLimit)}\n\n" ++
    quotedCode code ++
    "For each feature, suggest a fallback or progressive enhancement (for example " ++
    "@supports guards, feature detection, or a polyfill) that keeps the page working " ++
    "in browsers outside the target. Be concise. Use short code examples and bullet points. " ++
    "Do not rewrite the whole file."

/-- The question about some findings, unless nothing fails. -/
def Findings.adviceRequest? (f : Findings) (model target code : String) : Option AdviceRequest :=
  if f.failing.isEmpty then none
  else
    some { model, content := adviceQuestion f.failing target code, maxTokens := adviceTokenLimit }

/-- The advice in a reply, and the notice of a failure. -/
def AdviceReply.advice : AdviceReply → Option String × List Notice
  | .failed reason => (none, [.adviceFailed reason])
  | .noChoice => (none, [])
  | .choice none => (none, [])
  | .choice (some content) => (if content.isEmpty then none else some (strip content), [])

end FeatureAudit
