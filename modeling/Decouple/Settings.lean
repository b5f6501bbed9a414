import Decouple.Json.Value
import Decouple.Platform

/-!
# Settings

Signature lists, weights and limits are data: every stage of a run is given a `Settings` value and
reads nothing else.
-/

namespace Decouple

/-- A waiting time in seconds, whole or real as it was written. -/
inductive Delay where
  | whole (n : Int)
  | real (x : Binary64)
  deriving DecidableEq

namespace Delay

/-- So many times a waiting time. -/
def times (n : Nat) : Delay → Delay
  | whole k => whole (n * k)
  | real x => real (Binary64.mul (Binary64.ofInt n) x)

/-- A waiting time as it is shown. -/
def shown : Delay → Text
  | whole k => Text.ofInt k
  | real x => DecimalLayout.shown.render x

end Delay

/-- What an issue of each severity and a removed file take off the score. -/
structure Weights where
  critical : Int := 15
  warning : Int := 5
  info : Int := 1
  removedFile : Int := 10

/-- How the text-transform service is reached. -/
structure AssistantSettings where
  provider : Text := "openai"
  apiKey : Option Text := none
  model : Option Text := none
  baseUrl : Option Text := none
  maxTokens : Int := 8192
  /-- The time between two calls. -/
  callDelay : Delay := .real (Binary64.ofDecimal false 1 (-1))

/-- Whether the service can be called: a local server needs an address, any other a key. -/
def AssistantSettings.enabled (a : AssistantSettings) : Bool :=
  if a.provider = ("ollama" : Text) then a.baseUrl.any (!·.isEmpty)
  else a.apiKey.any (!·.isEmpty)

/-- How a repository is fetched and which of its files are wanted. -/
structure RetrievalSettings where
  apiBase : Text := "https://api.github.com"
  token : Option Text := none
  batchSize : Int := 5
  maxAttempts : Int := 3
  baseDelay : Delay := .real (Binary64.ofDecimal false 5 (-1))
  extensions : List Text := [".ts", ".tsx", ".js", ".jsx", ".mjs", ".cjs", ".vue", ".svelte",
    ".json", ".css", ".scss", ".html", ".htm", ".md", ".toml", ".yml", ".yaml", ".conf", ".txt",
    ".svg", ".py"]
  filenames : List Text := ["Dockerfile", ".env.example", ".gitignore"]
  excludedFolders : List Text := ["node_modules", "dist", "build", ".next", "coverage", ".git",
    "__pycache__", ".cache"]
  excludedFiles : List Text := ["package-lock.json", "bun.lockb"]

/-- The settings of a run. -/
structure Settings where
  platforms : List Platform := Platforms.known
  weights : Weights := {}
  /-- Platform modules that have a standard replacement, with the replacement. -/
  importRewrites : List (Text × Text) := [
    ("@lovable/hooks/use-mobile", "@/lib/compat/use-mobile"),
    ("@lovable/hooks/use-toast", "@/lib/compat/use-toast"),
    ("@lovable/hooks/use-sidebar", "@/lib/compat/use-sidebar"),
    ("@gptengineer/hooks/use-mobile", "@/lib/compat/use-mobile"),
    ("@gptengineer/hooks/use-toast", "@/lib/compat/use-toast"),
    ("@lovable/ui/use-toast", "@/lib/compat/use-toast")]
  staticExtensions : List Text := ["js", "css", "png", "jpg", "jpeg", "gif", "ico", "svg", "webp",
    "woff", "woff2"]
  maxRecommendations : Int := 5
  /-- The folder of generated replacement modules. -/
  compatFolder : Text := "src/lib/compat"
  assistant : AssistantSettings := {}
  retrieval : RetrievalSettings := {}
  /-- What the text-transform service is told to do. -/
  instruction : Text :=
    "You are a senior front-end engineer. Remove all proprietary-platform coupling " ++
    "from the file below: platform SDK imports, tagging plugins, telemetry calls and " ++
    "data attributes. Replace platform hooks with standard React and the project's " ++
    "own modules. Preserve behavior and structure. Return code only, without " ++
    "explanation or markdown fences."
  /-- The folder of archives and history. -/
  dataFolder : Text := ".liberator"

namespace Settings

/-- The platform of a package. -/
def packageOwner? (s : Settings) (name : Text) : Option Platform :=
  Platforms.packageOwner? s.platforms name

/-- The platform of an import specifier. -/
def specifierOwner? (s : Settings) (specifier : Text) : Option Platform :=
  Platforms.specifierOwner? s.platforms specifier

/-- The platform of a host. -/
def hostOwner? (s : Settings) (host : Text) : Option Platform :=
  Platforms.hostOwner? s.platforms host

/-- The platform of a markup attribute. -/
def attributeOwner? (s : Settings) (name : Text) : Option Platform :=
  Platforms.attributeOwner? s.platforms name

/-- The platform of a path. -/
def pathOwner? (s : Settings) (path : Text) : Option Platform :=
  Platforms.pathOwner? s.platforms path

/-- The platform of a build plugin. -/
def pluginOwner? (s : Settings) (plugin : Text) : Option Platform :=
  Platforms.pluginOwner? s.platforms plugin

/-- What replaces a platform module, if anything does. -/
def rewriteOf? (s : Settings) (specifier : Text) : Option Text := s.importRewrites.lookup specifier

end Settings

end Decouple
