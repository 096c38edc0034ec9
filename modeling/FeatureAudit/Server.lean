import FeatureAudit.Advice
import FeatureAudit.Text.Integer

/-!
How the service is set up by the environment, and what it says when it starts.
-/
namespace FeatureAudit

open FeatureAudit.Text

/-- A variable without the blanks around it, or what stands for it where it is not set. -/
def Environment.valueOr (env : Environment) (name fallback : String) : String :=
  strip (((env.find? fun v => v.1 == name).map Prod.snd).getD fallback)

/-- Where the service listens, and how it reaches a model. -/
structure ServerSetup where
  host : String
  port : Int
  key : String
  model : String
  deriving DecidableEq, Repr

/-- The address on which the service listens unless another is set. -/
def defaultHost : String := "0.0.0.0"

/-- The port on which the service listens unless another is set. -/
def defaultPort : Int := 8000

/-- The setup that the environment asks for. What is no number is no port. -/
def ServerSetup.ofEnvironment (env : Environment) : ServerSetup :=
  { host := env.valueOr "HOST" defaultHost
    port := (((env.find? fun v => v.1 == "PORT").map Prod.snd).bind integer?).getD defaultPort
    key := env.value "TOGETHER_API_KEY"
    model := env.valueOr "TOGETHER_MODEL" defaultModel }

/-- Whether a model can be asked. -/
def ServerSetup.hasModel (s : ServerSetup) : Bool := !s.key.isEmpty

/-- The advice on findings, and the notice of a failure. Nobody is asked without a key, nor where nothing fails. -/
def ServerSetup.advice (s : ServerSetup) (advisor : Advisor) (f : Findings) (target code : String) :
    Option String × List Notice :=
  match if s.hasModel then f.adviceRequest? s.model target code else none with
  | some question => (advisor question).advice
  | none => (none, [])

/-- The file of secrets that is looked for when the service starts. -/
def secretsPath : Path := Path.ofString ".env"

/-- The lines on what is missing for advice. -/
def startupWarnings (fs : Files) (s : ServerSetup) : List String :=
  if !(fs.find secretsPath).isOk then
    ["⚠️  WARNING: .env file not found. AI fix suggestions will be disabled.",
     "   Create .env and set TOGETHER_API_KEY to enable them."]
  else if s.hasModel then []
  else ["⚠️  WARNING: TOGETHER_API_KEY not set in .env. AI fix suggestions will be disabled."]

/-- What the service says when it starts, given the number of features that it knows. -/
def startupText (fs : Files) (s : ServerSetup) (features : Nat) : String :=
  String.join ((startupWarnings fs s ++ [s!"Loaded {features} web features"]).map (· ++ "\n"))

end FeatureAudit
