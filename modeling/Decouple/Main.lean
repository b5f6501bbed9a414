import Decouple.Assistant.Answer
import Decouple.CommandLine.Basic
import Std.Time.DateTime.Timestamp

/-!
# The program

Reads what a command needs from the disk, carries the command out and writes what it has changed.
Repositories and the text-transform service are out of reach: there is no connection.
-/

namespace Decouple

namespace Program

/-- The place of a path, names that lead back worked out. -/
def placeOf (home : List Text) (path : Text) : List Text :=
  let start := if Text.startsWith path "/" then [] else home
  let step (place : List Text) (name : Text) : List Text :=
    if name = ".." then place.dropLast else place ++ [name]
  (FilePath.components path).foldl step start

/-- The path of a place. -/
def pathOf (place : List Text) : String := "/" ++ (Text.join "/" place).toString

/-- Whether there is a folder at a place. -/
def isFolder (place : List Text) : IO Bool := do
  let here ← IO.currentDir
  (here / pathOf place).isDir

/-- Whether there is anything at a place. -/
def isThere (place : List Text) : IO Bool := do
  let here ← IO.currentDir
  (here / pathOf place).pathExists

/-- Add to a disk what is at a place. -/
def look (d : Disk) (place : List Text) : IO Disk := do
  if place.isEmpty || !(← isThere place) then return d
  if ← isFolder place then
    if d.isFolder place then return d
    return { d with folders := d.folders ++ [place] }
  let bytes ← IO.FS.readBinFile (pathOf place)
  return { d with files := Disk.putFile place bytes.toList d.files }

/-- Add to a disk what is on the way to a path. -/
def lookAlong (d : Disk) (path : Text) : IO Disk := do
  let mut d := d
  for place in Disk.waysTo (placeOf d.home path) do
    d ← look d place
  return d

/-- The paths that a command needs. -/
def pathsOf : Command → List Text
  | .analyze source _ _ => ((Source.named source).path?).toList
  | .liberate o => ((Source.named o.source).path?).toList ++ o.output.toList
  | .history _ => []
  | .forget _ _ => []

/-- The disk as a command finds it. -/
def readDisk (settings : Settings) (command : Command) : IO Disk := do
  let home := FilePath.components (Text.ofString (← IO.currentDir).toString)
  let mut d : Disk := { home }
  let k := Desk.ofSettings settings
  for path in Text.join "/" home :: k.archives :: k.ledger :: pathsOf command do
    d ← lookAlong d path
  for place in Disk.waysTo home do
    d ← look d place
  return d

/-- Write what is new on a disk. -/
def writeDisk (before after : Disk) : IO Unit := do
  for place in after.folders do
    if !before.isFolder place then IO.FS.createDirAll (pathOf place)
  for (place, bytes) in after.files do
    if before.file? place ≠ some bytes then
      IO.FS.writeBinFile (pathOf place) (ByteArray.mk bytes.toArray)

/-- The variables that are set. -/
def readEnvironment : IO Environment := do
  let mut env : Environment := []
  for name in Environment.variableNames do
    if let some value ← IO.getEnv name.toString then
      env := env ++ [(name, Text.ofString value)]
  return env

/-- A number that no one else has. -/
def fresh : IO Nat := do
  let bytes ← IO.getRandomBytes 15
  return bytes.toList.foldl (fun n b => n * 256 + b.toNat) 0

/-- The session that a command starts in. -/
def start (disk : Disk) : IO Session := do
  let now := (← Std.Time.Timestamp.now).toSecondsSinceUnixEpoch.val.toNat
  let first ← fresh
  return {
    disk
    clock := fun _ => Moment.ofSeconds now
    identity := fun earlier => Archives.reference (first + earlier) }

/-- Without a connection. -/
def noConnection : Reply := .failed "no connection"

/-- What a command finds around it. -/
def surroundings (environment : Environment) : Surroundings where
  environment := environment
  host := fun _ _ => noConnection
  assistant := fun s =>
    if s.assistant.enabled then
      (Service.ofSettings? s.assistant).map fun v => v.assistant fun _ _ => noConnection
    else none

/-- Carry a command out, asking on the console as long as a question is open; `shown` counts what
is on the console. -/
partial def converse (around : Surroundings) (s : Session) (arguments : List Text) (shown : Nat) :
    IO Performance := do
  let p := CommandLine.run around s arguments
  let console ← IO.getStdout
  let news := p.printed.drop shown
  if p.unanswered then
    console.putStr (Text.toString news.dropLast)
    console.flush
    let line ← (← IO.getStdin).getLine
    if line.isEmpty then
      console.putStr "\n"
      return p
    let typed := Text.ofString line
    converse { around with input := around.input ++ typed } s arguments
      (p.printed.length - 1 + typed.length)
  else
    console.putStr (Text.toString news)
    console.flush
    return p

/-- End with an exit code. -/
def exitCode : Ending → IO UInt32
  | .exit code => return UInt32.ofNat code
  | .breakdown b => do
    (← IO.getStderr).putStrLn b.message.toString
    return 1

end Program

end Decouple

open Decouple in
/-- Carry out the command that the arguments make. -/
def main (arguments : List String) : IO UInt32 := do
  let arguments := arguments.map Text.ofString
  let around := Program.surroundings (← Program.readEnvironment)
  let disk ←
    match Command.read arguments, Environment.settings around.environment with
    | some command, .ok settings => Program.readDisk settings command
    | _, _ => pure Disk.empty
  let session ← Program.start disk
  let p ← Program.converse around session arguments 0
  Program.writeDisk disk p.session.disk
  Program.exitCode p.ending
