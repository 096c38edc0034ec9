import Mathlib.Logic.Basic
import Mathlib.Tactic.ByContra
import FeatureAudit.Service.Respond

/-!
# Advice on failing uses

A model is asked for advice once, about all the uses that fail, and only where the settings ask for it and a key is there.
Its reply is not up to the service: it is a parameter, and what is said here holds for every reply to every question. A
reply can fail or say nothing; then there is no advice, and the answer goes out without it.

* **`IsAskedFor`** — a model is asked about some findings.
* **`adviceQuestionOn`** — what it is asked.
* **`Advises`** — the advice that comes with some findings, by the reply, and what is told about it.
* **`adviceOn_eq_iff`** — the service gives that advice.
-/
namespace FeatureAudit.Service

open FeatureAudit.Text

/-- A model is asked about the findings: the settings ask for it, there is a key for the model, and something fails. -/
structure IsAskedFor (env : Environment) (settings : Settings) (f : Findings) : Prop where
  fixes : settings.generateFixes = true
  key : env.value "TOGETHER_API_KEY" ≠ ""
  failing : f.violations ≠ [] ∨ f.warnings ≠ []

/-- What a model is asked about findings: for a fallback for each use that fails, for the target of the settings, with the
code that was sent, if code was. -/
def adviceQuestionOn (env : Environment) (settings : Settings) (code : Option String) (f : Findings) : AdviceRequest :=
  { model := env.valueOr "TOGETHER_MODEL" defaultModel
    content := adviceQuestion (f.violations ++ f.warnings) settings.target.name (code.getD "")
    maxTokens := adviceTokenLimit }

/-- The advice that comes with findings, and the notices about it. A reply with a text is advice, without the blanks around
it; a failure is noted, and a reply without a text is passed over. -/
inductive Advises (advisor : Advisor) (env : Environment) (settings : Settings) (code : Option String) (f : Findings) :
    Option String → List Notice → Prop where
  | unasked (h : ¬ IsAskedFor env settings f) : Advises advisor env settings code f none []
  | given {text : String} (h : IsAskedFor env settings f) (hne : text ≠ "")
      (hreply : advisor (adviceQuestionOn env settings code f) = .choice (some text)) :
      Advises advisor env settings code f (some (strip text)) []
  | silent (h : IsAskedFor env settings f)
      (hreply : advisor (adviceQuestionOn env settings code f) ∈
        [.noChoice, .choice none, .choice (some "")]) : Advises advisor env settings code f none []
  | failed {reason : String} (h : IsAskedFor env settings f)
      (hreply : advisor (adviceQuestionOn env settings code f) = .failed reason) :
      Advises advisor env settings code f none [.adviceFailed reason]

variable {advisor : Advisor} {ws : Workspace} {settings : Settings} {b : AnalyzeBody} {f : Findings}
  {advice : Option String} {notices : List Notice}

/-- Where a model is asked, its reply is the advice. -/
theorem adviceOn_of_isAskedFor (h : IsAskedFor ws.environment settings f) :
    adviceOn advisor ws settings b f = (advisor (adviceQuestionOn ws.environment settings b.code f)).advice := by
  obtain ⟨hfixes, hkey, hfailing⟩ := h
  have hmodel : (ServerSetup.ofEnvironment ws.environment).hasModel = true := by
    simpa [ServerSetup.hasModel, ServerSetup.ofEnvironment] using hkey
  have hsome : ¬ f.failing.isEmpty = true := by
    rw [List.isEmpty_iff, Findings.failing, List.append_eq_nil_iff, not_and_or]
    exact hfailing
  rw [adviceOn, if_pos hfixes, ServerSetup.advice, if_pos hmodel, Findings.adviceRequest?, if_neg hsome]
  rfl

/-- Otherwise there is none, and nothing to tell about it. -/
theorem adviceOn_of_not_isAskedFor (h : ¬ IsAskedFor ws.environment settings f) :
    adviceOn advisor ws settings b f = (none, []) := by
  rw [adviceOn]
  split
  · rename_i hfixes
    rw [ServerSetup.advice, Findings.adviceRequest?]
    split
    · rename_i question hquestion
      -- a question is only there with a key and with something that fails
      refine absurd ⟨hfixes, ?_, ?_⟩ h
      · rintro hkey
        simp [ServerSetup.hasModel, ServerSetup.ofEnvironment, hkey] at hquestion
      · by_contra hnone
        obtain ⟨hviolations, hwarnings⟩ := not_or.1 hnone
        simp [Findings.failing, not_not.1 hviolations, not_not.1 hwarnings] at hquestion
    · rfl
  · rfl

/-- **The service gives the advice that there is**: exactly that of the reply, and only where a model is asked. -/
theorem adviceOn_eq_iff :
    adviceOn advisor ws settings b f = (advice, notices) ↔
      Advises advisor ws.environment settings b.code f advice notices := by
  constructor
  · intro h
    by_cases hasked : IsAskedFor ws.environment settings f
    · rw [adviceOn_of_isAskedFor hasked] at h
      -- the service is asked, and its reply decides: it failed, it has no choice, or it has one with or without a
      -- text
      cases hreply : advisor (adviceQuestionOn ws.environment settings b.code f) with
      | failed reason =>
        rw [hreply] at h
        obtain ⟨rfl, rfl⟩ := Prod.mk.inj h
        exact .failed hasked hreply
      | noChoice =>
        rw [hreply] at h
        obtain ⟨rfl, rfl⟩ := Prod.mk.inj h
        exact .silent hasked (by simp [hreply])
      | choice content =>
        rw [hreply] at h
        cases content with
        | none =>
          obtain ⟨rfl, rfl⟩ := Prod.mk.inj h
          exact .silent hasked (by simp [hreply])
        | some text =>
          -- an empty text is no advice
          by_cases hempty : text = ""
          · subst hempty
            obtain ⟨rfl, rfl⟩ := Prod.mk.inj h
            exact .silent hasked (by simp [hreply])
          · rw [AdviceReply.advice, if_neg (by simpa using hempty)] at h
            obtain ⟨rfl, rfl⟩ := Prod.mk.inj h
            exact .given hasked hempty hreply
    · rw [adviceOn_of_not_isAskedFor hasked] at h
      obtain ⟨rfl, rfl⟩ := Prod.mk.inj h
      exact .unasked hasked
  · intro h
    cases h with
    | unasked hasked => exact adviceOn_of_not_isAskedFor hasked
    | given hasked hne hreply =>
      rw [adviceOn_of_isAskedFor hasked, hreply, AdviceReply.advice, if_neg (by simpa using hne)]
    | silent hasked hreply =>
      rw [adviceOn_of_isAskedFor hasked]
      simp only [List.mem_cons, List.not_mem_nil, or_false] at hreply
      rcases hreply with hreply | hreply | hreply <;> rw [hreply] <;> rfl
    | failed hasked hreply =>
      rw [adviceOn_of_isAskedFor hasked, hreply]
      rfl

end FeatureAudit.Service
