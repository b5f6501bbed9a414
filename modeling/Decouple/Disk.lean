import Decouple.FilePath
import Decouple.Text.Quoted
import Decouple.Text.Utf8

/-!
# Files on disk

A disk is what a run finds and leaves: folders, and files with their bytes.  A path that starts
with a slash is taken from the root, any other from the working folder.  An operation on a path
fails when a folder on the way is missing or is a file, when the path is of the wrong kind, and
when the path or a name in it is too long.
-/

namespace Decouple

/-- Folders and files; each is known by the names on the way to it. -/
structure Disk where
  /-- The working folder. -/
  home : List Text := []
  folders : List (List Text) := []
  files : List (List Text × Bytes) := []

/-- What is wrong with a path. -/
inductive DiskFault where
  | missing
  | exists
  | notAFolder
  | isAFolder
  | tooLong
  deriving DecidableEq

/-- An operation on a path that failed. -/
structure DiskError where
  fault : DiskFault
  path : Text
  deriving DecidableEq

namespace DiskFault

/-- The number of a fault. -/
def number : DiskFault → Nat
  | missing => 2
  | .exists => 17
  | notAFolder => 20
  | isAFolder => 21
  | tooLong => 36

/-- A fault in words. -/
def message : DiskFault → Text
  | missing => "No such file or directory"
  | .exists => "File exists"
  | notAFolder => "Not a directory"
  | isAFolder => "Is a directory"
  | tooLong => "File name too long"

end DiskFault

/-- An error in words. -/
def DiskError.message (e : DiskError) : Text :=
  "[Errno " ++ Text.ofNat e.fault.number ++ "] " ++ e.fault.message ++ ": " ++ e.path.quoted

namespace Disk

/-- The disk with nothing on it. -/
def empty : Disk := {}

/-- Whether a place is a folder; the root is one. -/
def isFolder (d : Disk) (place : List Text) : Bool := place.isEmpty || d.folders.contains place

/-- The bytes of the file at a place. -/
def file? (d : Disk) (place : List Text) : Option Bytes := d.files.lookup place

/-- Put a file at a place among others. -/
def putFile (place : List Text) (bytes : Bytes) :
    List (List Text × Bytes) → List (List Text × Bytes)
  | [] => [(place, bytes)]
  | f :: rest => if f.1 = place then (place, bytes) :: rest else f :: putFile place bytes rest

theorem lookup_cons_file (place other : List Text) (bytes : Bytes)
    (files : List (List Text × Bytes)) :
    ((place, bytes) :: files).lookup other =
      if other = place then some bytes else files.lookup other := by
  rw [List.lookup_cons]
  by_cases h : other = place
  · simp [h]
  · rw [beq_eq_false_iff_ne.2 h, if_neg h]

/-- The file that was put is found; at another place nothing has changed. -/
theorem lookup_putFile (place other : List Text) (bytes : Bytes)
    (files : List (List Text × Bytes)) :
    (putFile place bytes files).lookup other =
      if other = place then some bytes else files.lookup other := by
  induction files with
  | nil => rw [putFile, lookup_cons_file]
  | cons f rest ih =>
    obtain ⟨p, b⟩ := f
    rw [putFile]
    split
    · next h =>
      subst h
      simp only [lookup_cons_file]
      split <;> rfl
    · next h =>
      simp only [lookup_cons_file, ih]
      split
      · next ho => rw [if_neg fun e => h (ho.symm.trans e)]
      · rfl

/-- The place that names lead to, from a folder on. -/
def follow (d : Disk) (place : List Text) : List Text → Except DiskFault (List Text)
  | [] => .ok place
  | name :: rest =>
    if name = ".." then follow d place.dropLast rest
    else if FilePath.isTooLongName name then .error .tooLong
    else if rest.isEmpty || d.isFolder (place ++ [name]) then follow d (place ++ [name]) rest
    else if (d.file? (place ++ [name])).isSome then .error .notAFolder
    else .error .missing

/-- Where a path starts. -/
def start (d : Disk) (path : Text) : List Text :=
  if Text.startsWith path "/" then [] else d.home

/-- The place of a path. -/
def locate (d : Disk) (path : Text) : Except DiskFault (List Text) :=
  if FilePath.isTooLong path then .error .tooLong
  else d.follow (d.start path) (FilePath.components path)

/-- An error of a path. -/
def fail {α : Type} (path : Text) (fault : DiskFault) : Except DiskError α :=
  .error ⟨fault, FilePath.normal path⟩

/-- Read a file. -/
def read (d : Disk) (path : Text) : Except DiskError Bytes :=
  match d.locate path with
  | .error fault => fail path fault
  | .ok place =>
    if d.isFolder place then fail path .isAFolder
    else
      match d.file? place with
      | some bytes => .ok bytes
      | none => fail path .missing

/-- Whether a path is a file. -/
def isFile (d : Disk) (path : Text) : Bool := (d.read path).isOk

/-- Whether there is a file or a folder under a path. -/
def exists? (d : Disk) (path : Text) : Bool :=
  match d.locate path with
  | .error _ => false
  | .ok place => d.isFolder place || (d.file? place).isSome

/-- Write a file. -/
def write (d : Disk) (path : Text) (bytes : Bytes) : Except DiskError Disk :=
  match d.locate path with
  | .error fault => fail path fault
  | .ok place =>
    if d.isFolder place then fail path .isAFolder
    else .ok { d with files := putFile place bytes d.files }

/-- Write at the end of a file. -/
def append (d : Disk) (path : Text) (bytes : Bytes) : Except DiskError Disk :=
  match d.locate path with
  | .error fault => fail path fault
  | .ok place =>
    if d.isFolder place then fail path .isAFolder
    else .ok { d with files := putFile place ((d.file? place).getD [] ++ bytes) d.files }

/-- Give a file the path of another one, which it replaces. -/
def rename (d : Disk) (path target : Text) : Except DiskError Disk := do
  let bytes ← d.read path
  let d ← d.write target bytes
  match d.locate path with
  | .error fault => fail path fault
  | .ok place => .ok { d with files := d.files.filter fun f => f.1 ≠ place }

/-- The folders on the way to a place, itself included. -/
def waysTo (place : List Text) : List (List Text) :=
  (List.range place.length).map fun i => place.take (i + 1)

/-- Make the folders that names lead through, from a folder on, as far as they are missing. -/
def makeFrom (d : Disk) (place : List Text) : List Text → Except DiskFault Disk
  | [] => .ok d
  | name :: rest =>
    if name = ".." then makeFrom d place.dropLast rest
    else if FilePath.isTooLongName name then .error .tooLong
    else if d.isFolder (place ++ [name]) then makeFrom d (place ++ [name]) rest
    else if (d.file? (place ++ [name])).isSome then
      .error (if rest.isEmpty then .exists else .notAFolder)
    else makeFrom { d with folders := d.folders ++ [place ++ [name]] } (place ++ [name]) rest

/-- Make a folder and those on the way to it, as far as they are missing. -/
def makeFolders (d : Disk) (path : Text) : Except DiskError Disk :=
  if FilePath.isTooLong path then fail path .tooLong
  else
    match d.makeFrom (d.start path) (FilePath.components path) with
    | .ok d => .ok d
    | .error fault => fail path fault

/-- The names of the files in a folder, in order. -/
def filesIn (d : Disk) (path : Text) : List Text :=
  let place := d.start path ++ FilePath.components path
  Text.sort ((d.files.filter fun f => f.1.dropLast = place && !f.1.isEmpty).map
    fun f => f.1.getLastD [])

end Disk

end Decouple
