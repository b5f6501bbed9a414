import Decouple.Text.CodePoint

/-!
# Providers

The services that can transform text, with the model and the address that are used when none are
given.
-/

namespace Decouple

/-- A service that can transform text. -/
inductive Provider where
  | openai
  | anthropic
  | ollama
  deriving DecidableEq

namespace Provider

/-- All providers. -/
def all : List Provider := [openai, anthropic, ollama]

/-- The name of a provider. -/
def name : Provider → Text
  | openai => "openai"
  | anthropic => "anthropic"
  | ollama => "ollama"

/-- The provider with a name. -/
def ofName? (name : Text) : Option Provider := all.find? fun p => p.name = name

/-- The model that is asked when none is given. -/
def model : Provider → Text
  | openai => "gpt-4o-mini"
  | anthropic => "claude-3-5-sonnet-latest"
  | ollama => "llama3"

/-- The address that is asked when none is given. -/
def base : Provider → Text
  | openai => "https://api.openai.com/v1"
  | anthropic => "https://api.anthropic.com"
  | ollama => "http://localhost:11434"

end Provider

end Decouple
