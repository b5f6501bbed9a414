import Decouple.Assistant.Provider
import Decouple.Failure
import Decouple.FilePath
import Decouple.Number.Reading
import Decouple.Settings

/-!
# Settings from the environment

The one place where environment variables are looked at.
-/

namespace Decouple

/-- Environment variables with their values. -/
abbrev Environment := List (Text × Text)

namespace Environment

/-- The variables that count. -/
def variableNames : List Text := ["LIBERATOR_AI_PROVIDER", "LIBERATOR_AI_API_KEY",
  "LIBERATOR_AI_MODEL", "LIBERATOR_AI_BASE_URL", "LIBERATOR_AI_DELAY", "LIBERATOR_GITHUB_TOKEN",
  "GITHUB_TOKEN", "LIBERATOR_GITHUB_API", "LIBERATOR_DATA_DIR"]

/-- The value of a variable; an empty one counts as unset. -/
def filled? (env : Environment) (name : Text) : Option Text :=
  (env.lookup name).filter (!·.isEmpty)

/-- The value of a variable, or a value to use when it is unset. -/
def getD (env : Environment) (name default : Text) : Text := (env.lookup name).getD default

/-- The failure that an unknown service is. -/
def unknownProvider (provider : Text) : Failure where
  kind := .configuration
  message := "Unsupported AI provider " ++ provider.quoted ++ "; expected one of " ++
    Text.join ", " (Provider.all.map Provider.name)

/-- A waiting time; what is no number leaves the one that was there. -/
def delay (value : Option Text) (default : Delay) : Delay :=
  match value.bind Reading.real? with
  | some x => .real x
  | none => default

/-- The settings that the environment asks for. -/
def settings (env : Environment) : Except Failure Settings :=
  let base : Settings := {}
  let provider := Text.lowerCase (env.getD "LIBERATOR_AI_PROVIDER" base.assistant.provider).trim
  if (Provider.ofName? provider).isNone then .error (unknownProvider provider)
  else .ok { base with
    assistant := { base.assistant with
      provider := provider
      apiKey := env.filled? "LIBERATOR_AI_API_KEY"
      model := env.filled? "LIBERATOR_AI_MODEL"
      baseUrl := env.filled? "LIBERATOR_AI_BASE_URL"
      callDelay := delay (env.lookup ("LIBERATOR_AI_DELAY" : Text)) base.assistant.callDelay }
    retrieval := { base.retrieval with
      token := (env.filled? "LIBERATOR_GITHUB_TOKEN").or (env.filled? "GITHUB_TOKEN")
      apiBase := env.getD "LIBERATOR_GITHUB_API" base.retrieval.apiBase }
    dataFolder := FilePath.normal (env.getD "LIBERATOR_DATA_DIR" base.dataFolder) }

end Environment

end Decouple
