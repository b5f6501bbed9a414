import Decouple.Text.Blank
import Decouple.Text.Case
import Decouple.Text.Parts

/-!
# Platforms

A platform is known by its signature: packages, import specifiers, hosts, files, comment keywords,
build plugins and markup attributes.  The `owns…` functions say what belongs to a platform; the
`…Owner?` functions find the first of several platforms that something belongs to.
-/

namespace Decouple

/-- What code of one platform is known by. -/
structure Platform where
  name : Text
  /-- Package names; one that ends in a slash stands for all names that start with it. -/
  packages : List Text := []
  /-- What the specifiers of its modules start with. -/
  importStarts : List Text := []
  /-- Hosts that serve its files. -/
  cdnHosts : List Text := []
  /-- Names of files and folders that are the platform's own. -/
  files : List Text := []
  /-- Words of its comment markers and of its tags. -/
  keywords : List Text := []
  /-- Modules of its build plugins. -/
  pluginModules : List Text := []
  /-- Markup attributes; one that ends in a hyphen stands for all names that start with it. -/
  dataAttributes : List Text := []
  deriving DecidableEq

namespace Platform

/-- Whether a package is the platform's. -/
def ownsPackage (p : Platform) (name : Text) : Bool :=
  p.packages.any fun package =>
    if Text.endsWith package "/" then Text.startsWith name package else name = package

/-- Whether an import specifier is the platform's. -/
def ownsSpecifier (p : Platform) (specifier : Text) : Bool :=
  p.importStarts.any fun head =>
    specifier = Text.trimEndOf (CodePoint.is '/') head || Text.startsWith specifier head

/-- Whether a host is the platform's, or below one of its hosts. -/
def ownsHost (p : Platform) (host : Text) : Bool :=
  let host := Text.lowerCase host
  p.cdnHosts.any fun cdn => host = cdn || Text.endsWith host ("." ++ cdn)

/-- Whether a markup attribute is the platform's. -/
def ownsAttribute (p : Platform) (name : Text) : Bool :=
  let name := Text.lowerCase name
  p.dataAttributes.any fun known =>
    if Text.endsWith known "-" then Text.startsWith name known else name = known

/-- Whether a component of a path is the name of one of the platform's files. -/
def ownsPath (p : Platform) (path : Text) : Bool :=
  (Text.splitOn '/' path).any fun part => p.files.contains part

/-- Whether a module is one of the platform's build plugins. -/
def ownsPlugin (p : Platform) (plugin : Text) : Bool := p.pluginModules.contains plugin

end Platform

namespace Platforms

/-- The platform of a package. -/
def packageOwner? (ps : List Platform) (name : Text) : Option Platform :=
  ps.find? (·.ownsPackage name)

/-- The platform of an import specifier. -/
def specifierOwner? (ps : List Platform) (specifier : Text) : Option Platform :=
  ps.find? (·.ownsSpecifier specifier)

/-- The platform of a host. -/
def hostOwner? (ps : List Platform) (host : Text) : Option Platform := ps.find? (·.ownsHost host)

/-- The platform of a markup attribute. -/
def attributeOwner? (ps : List Platform) (name : Text) : Option Platform :=
  ps.find? (·.ownsAttribute name)

/-- The platform of a path. -/
def pathOwner? (ps : List Platform) (path : Text) : Option Platform := ps.find? (·.ownsPath path)

/-- The platform of a build plugin. -/
def pluginOwner? (ps : List Platform) (plugin : Text) : Option Platform :=
  ps.find? (·.ownsPlugin plugin)

/-! ## The known platforms -/

/-- The platforms that projects are checked for unless told otherwise. -/
def known : List Platform := [
  { name := "Lovable"
    packages := ["lovable-tagger", "@lovable/", "@gptengineer/", "gpt-engineer",
      "lovable-analytics", "gpt-engineer-tracker"]
    importStarts := ["@lovable/", "@gptengineer/", "lovable-tagger", "lovable-core"]
    cdnHosts := ["lovable.app", "lovable.dev", "gptengineer.app", "cdn.gpteng.co"]
    files := [".lovable", ".lovablerc", "lovable.config.ts", "lovable.config.js",
      "lovable.config.json", ".lovable.json", "lovable-lock.json", ".gptengineer",
      ".gptengineer.json", ".gpteng", "gptengineer.config.json"]
    keywords := ["lovable", "lov", "gptengineer", "gpteng"]
    pluginModules := ["lovable-tagger"]
    dataAttributes := ["data-lov-", "data-lovable-", "data-gpteng-"] },
  { name := "Bolt"
    packages := ["bolt-core", "@bolt/"]
    importStarts := ["@bolt/"]
    cdnHosts := ["bolt.new"]
    files := [".bolt", ".bolt.json", "bolt.config.json"]
    keywords := ["bolt"] },
  { name := "v0"
    packages := ["@v0/", "v0-tagger", "v0-sdk"]
    importStarts := ["@v0/", "v0-runtime"]
    cdnHosts := ["v0.dev"]
    files := [".v0", ".v0.json", "v0.config.json", "v0-manifest.json"]
    keywords := ["v0"]
    pluginModules := ["v0-tagger"] },
  { name := "Cursor"
    packages := ["@cursor/", "cursor-runtime"]
    importStarts := ["@cursor/", "cursor-sdk"]
    files := [".cursorrc", "cursor.config.json", ".cursor.json"]
    keywords := ["cursor"] },
  { name := "Replit"
    packages := ["@replit/", "replit-sdk", "replit", "replit-object-storage", "replit-ai"]
    importStarts := ["@replit/", "replit-runtime"]
    cdnHosts := ["replit.com", "repl.co"]
    files := [".replit", "replit.nix", ".replit.json"]
    keywords := ["replit"] }]

end Platforms

end Decouple
