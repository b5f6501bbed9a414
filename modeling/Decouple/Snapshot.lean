import Decouple.Text.Utf8

/-!
# Snapshots

A snapshot is a set of project files in the order of their arrival, each path once.  Putting a
file under a path that is there replaces the file and keeps its place.  The order of arrival
carries no meaning: what looks at a snapshot looks at `sorted`.
-/

namespace Decouple

/-- The content of a file: text, or bytes that are no text. -/
inductive Content where
  | text (t : Text)
  | bytes (b : Bytes)
  deriving DecidableEq

namespace Content

/-- Whether the content is text. -/
def isText : Content → Bool
  | text _ => true
  | bytes _ => false

/-- The text; empty for bytes. -/
def asText : Content → Text
  | text t => t
  | bytes _ => []

/-- Bytes as text, if they are UTF-8. -/
def ofBytes (b : Bytes) : Content :=
  match Utf8.decode? b with
  | some t => text t
  | none => bytes b

end Content

/-- A project file; its path is relative, with slashes. -/
structure File where
  path : Text
  content : Content
  deriving DecidableEq

namespace File

/-- Files in the order of their paths. -/
def sort (files : List File) : List File := Sorting.sort (fun a b => Text.le a.path b.path) files

/-- Put a file among others: in the place of the one with its path, or last. -/
def put (file : File) : List File → List File
  | [] => [file]
  | f :: rest => if f.path = file.path then file :: rest else f :: put file rest

theorem paths_put (file : File) (files : List File) :
    (put file files).map path =
      if file.path ∈ files.map path then files.map path else files.map path ++ [file.path] := by
  induction files with
  | nil => simp [put]
  | cons f rest ih =>
    by_cases h : f.path = file.path
    · simp [put, h]
    · have h' : ¬file.path = f.path := fun e => h e.symm
      simp only [put, h, if_false, List.map_cons, ih, List.mem_cons, h', false_or]
      split <;> simp

theorem nodup_put (file : File) {files : List File} (h : (files.map path).Nodup) :
    ((put file files).map path).Nodup := by
  rw [paths_put]
  split
  · exact h
  · next hn =>
    rw [List.nodup_append]
    refine ⟨h, by simp, ?_⟩
    intro a ha b hb e
    simp only [List.mem_singleton] at hb
    exact hn (hb ▸ e ▸ ha)

theorem find?_put (file : File) (files : List File) (path : Text) :
    (put file files).find? (fun f => f.path = path) =
      if file.path = path then some file else files.find? fun f => f.path = path := by
  induction files with
  | nil => by_cases h : file.path = path <;> simp [put, h]
  | cons f rest ih =>
    by_cases h : f.path = file.path
    · by_cases hp : file.path = path <;> simp [put, h, hp]
    · rw [put, if_neg h, List.find?_cons, List.find?_cons, ih]
      by_cases hp : f.path = path
      · have : ¬file.path = path := fun e => h (hp.trans e.symm)
        simp [hp, this]
      · simp [hp]

end File

/-- Files in the order of their arrival, each path once. -/
structure Snapshot where
  files : List File
  nodup : (files.map File.path).Nodup

namespace Snapshot

/-- No files. -/
def empty : Snapshot := ⟨[], by simp⟩

instance : Inhabited Snapshot := ⟨empty⟩

/-- Put a file: in the place of the one with its path, or last. -/
def put (s : Snapshot) (file : File) : Snapshot := ⟨file.put s.files, File.nodup_put file s.nodup⟩

/-- Put several files, one after the other. -/
def putAll (s : Snapshot) (files : List File) : Snapshot := files.foldl put s

/-- The snapshot of some files; of files with one path the last counts, at the first's place. -/
def ofFiles (files : List File) : Snapshot := empty.putAll files

/-- The files that `p` picks. -/
def filter (p : File → Bool) (s : Snapshot) : Snapshot :=
  ⟨s.files.filter p, s.nodup.sublist (List.filter_sublist.map File.path)⟩

/-- The files under other paths than these. -/
def without (s : Snapshot) (paths : List Text) : Snapshot :=
  s.filter fun f => !paths.contains f.path

/-- The file under a path. -/
def get? (s : Snapshot) (path : Text) : Option File := s.files.find? fun f => f.path = path

/-- Whether there is a file under a path. -/
def contains (s : Snapshot) (path : Text) : Bool := (s.get? path).isSome

/-- The number of files. -/
def size (s : Snapshot) : Nat := s.files.length

/-- The paths in the order of arrival. -/
def paths (s : Snapshot) : List Text := s.files.map File.path

/-- The files in the order of their paths. -/
def sorted (s : Snapshot) : List File := File.sort s.files

/-- The paths in order. -/
def sortedPaths (s : Snapshot) : List Text := s.sorted.map File.path

/-- Whether two snapshots hold the same files. -/
def sameFiles (s t : Snapshot) : Bool := s.sorted == t.sorted

/-- The file that was put is found; under another path nothing has changed. -/
theorem get?_put (s : Snapshot) (file : File) (path : Text) :
    (s.put file).get? path = if file.path = path then some file else s.get? path :=
  File.find?_put file s.files path

theorem get?_empty (path : Text) : empty.get? path = none := rfl

end Snapshot

end Decouple
