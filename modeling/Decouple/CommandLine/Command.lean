import Decouple.Text.Parts

/-!
# Commands

What the command line can be asked to do: analyze a project, liberate it, list the runs of an owner
and forget one of them; and how the arguments say so.
-/

namespace Decouple

/-!
## Arguments

The arguments of a command are options and plain arguments in any order.  An option is spelled in
full after two dashes, or by one letter after a dash; letters of options without a value may stand
together.  A value follows as the next argument, or after `=`, or right after the letter.  Two
dashes alone end the options.  Of several values for one option the last counts.
-/

/-- An option of a command. -/
structure OptionForm where
  name : Text
  letter : Option CodePoint := none
  hasValue : Bool := true

/-- Arguments that were read. -/
structure Arguments where
  /-- The options with their values, the last one first. -/
  options : List (Text × Text) := []
  plain : List Text := []

namespace Arguments

/-- The value of an option. -/
def value? (a : Arguments) (name : Text) : Option Text := a.options.lookup name

/-- Whether an option is given. -/
def has (a : Arguments) (name : Text) : Bool := (a.value? name).isSome

/-- Add an option. -/
def addOption (a : Arguments) (name value : Text) : Arguments :=
  { a with options := (name, value) :: a.options }

/-- Add a plain argument. -/
def addPlain (a : Arguments) (argument : Text) : Arguments :=
  { a with plain := a.plain ++ [argument] }

/-- What reading an argument comes to: the arguments so far, and the option whose value is next. -/
structure Step where
  read : Arguments
  waiting : Option Text := none

/-- Read an option spelled in full. -/
def readLong (forms : List OptionForm) (a : Arguments) (text : Text) : Option Step := do
  let (name, value) := Text.cut '=' text
  let form ← forms.find? fun f => f.name = name
  match form.hasValue, value with
  | true, some v => some ⟨a.addOption name v, none⟩
  | true, none => some ⟨a, some name⟩
  | false, none => some ⟨a.addOption name [], none⟩
  | false, some _ => none

/-- Read options that are letters. -/
def readLetters (forms : List OptionForm) (a : Arguments) : Text → Option Step
  | [] => some ⟨a, none⟩
  | c :: rest => do
    let form ← forms.find? fun f => f.letter = some c
    if !form.hasValue then readLetters forms (a.addOption form.name []) rest
    else if rest.isEmpty then some ⟨a, some form.name⟩
    else some ⟨a.addOption form.name rest, none⟩

/-- Whether an argument is an option. -/
def isOption (text : Text) : Bool := Text.startsWith text "-" && 1 < text.length

/-- Read an option. -/
def readOption (forms : List OptionForm) (a : Arguments) (text : Text) : Option Step :=
  match Text.dropStart? "--" text with
  | some long => readLong forms a long
  | none => readLetters forms a (text.drop 1)

/-- Read arguments, the first of which may be the value of an option; nothing when one is
unknown or a value is missing.  Without `mixed`, options end at the first plain argument. -/
def readFrom (forms : List OptionForm) (mixed : Bool) (s : Step) : List Text → Option Arguments
  | [] => if s.waiting.isSome then none else some s.read
  | text :: rest =>
    match s.waiting with
    | some name => readFrom forms mixed ⟨s.read.addOption name text, none⟩ rest
    | none =>
      if text = ("--" : Text) then some { s.read with plain := s.read.plain ++ rest }
      else if isOption text then do
        let next ← readOption forms s.read text
        readFrom forms mixed next rest
      else if mixed then readFrom forms mixed ⟨s.read.addPlain text, none⟩ rest
      else some { s.read with plain := text :: rest }

/-- Read the arguments of a command. -/
def read (forms : List OptionForm) (arguments : List Text) : Option Arguments :=
  readFrom forms true ⟨{}, none⟩ arguments

/-- Read the options before a command. -/
def readLeading (forms : List OptionForm) (arguments : List Text) : Option Arguments :=
  readFrom forms false ⟨{}, none⟩ arguments

end Arguments

/-! ## What can be asked -/

/-- How to liberate a project. -/
structure LiberateOptions where
  source : Text
  reference : Option Text := none
  projectName : Option Text := none
  /-- Where to write the archive. -/
  output : Option Text := none
  useAssistant : Bool := true
  /-- Whether to go on without a question. -/
  confirmed : Bool := false
  owner : Text := "local"
  deriving DecidableEq

/-- A command. -/
inductive Command where
  | analyze (source : Text) (reference : Option Text) (json : Bool)
  | liberate (o : LiberateOptions)
  | history (owner : Text)
  | forget (run owner : Text)
  deriving DecidableEq

namespace Command

/-- The options before a command. -/
def leading : List OptionForm := [⟨"verbose", some 'v', false⟩]

/-- Read the arguments of `analyze`. -/
def readAnalyze (arguments : List Text) : Option Command := do
  let a ← Arguments.read [⟨"ref", none, true⟩, ⟨"format", none, true⟩] arguments
  match a.plain with
  | [source] => some (.analyze source (a.value? "ref") (a.value? "format" = some "json"))
  | _ => none

/-- Read the arguments of `liberate`. -/
def readLiberate (arguments : List Text) : Option Command := do
  let a ← Arguments.read [⟨"ref", none, true⟩, ⟨"name", none, true⟩, ⟨"out", some 'o', true⟩,
    ⟨"no-ai", none, false⟩, ⟨"yes", some 'y', false⟩, ⟨"owner", none, true⟩] arguments
  match a.plain with
  | [source] => some (.liberate {
      source
      reference := a.value? "ref"
      projectName := a.value? "name"
      output := a.value? "out"
      useAssistant := !a.has "no-ai"
      confirmed := a.has "yes"
      owner := (a.value? "owner").getD "local" })
  | _ => none

/-- Read the arguments of `history`. -/
def readHistory (arguments : List Text) : Option Command := do
  let a ← Arguments.read [⟨"owner", none, true⟩] arguments
  if a.plain.isEmpty then some (.history ((a.value? "owner").getD "local")) else none

/-- Read the arguments of `forget`. -/
def readForget (arguments : List Text) : Option Command := do
  let a ← Arguments.read [⟨"owner", none, true⟩] arguments
  match a.plain with
  | [run] => some (.forget run ((a.value? "owner").getD "local"))
  | _ => none

/-- The commands with their names. -/
def readers : List (Text × (List Text → Option Command)) := [
  ("analyze", readAnalyze), ("liberate", readLiberate), ("history", readHistory),
  ("forget", readForget)]

/-- Read a command; nothing when the arguments make none. -/
def read (arguments : List Text) : Option Command := do
  let a ← Arguments.readLeading leading arguments
  match a.plain with
  | [] => none
  | name :: rest => do
    let reader ← readers.lookup name
    reader rest

end Command

end Decouple
