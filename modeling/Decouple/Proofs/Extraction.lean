import Decouple.Proofs.Places
import Decouple.Proofs.Snapshots
import Decouple.Proofs.Traversal

/-!
# Files of extracted projects

Each file of an extracted project comes from the last member that is placed under its path, and its
content is what the bytes of that member are read as (`lastUnder?_of_read`).  `IsFile` is what every
such file is like: a path that an extraction may give, without null code points, and a content of
which bytes are no text.
-/

namespace Decouple

namespace Content

/-- Whether a content is what its bytes are read as: bytes are no text. -/
def IsRead : Content → Prop
  | text _ => True
  | bytes b => Utf8.decode? b = none

theorem isRead_ofBytes (b : Bytes) : IsRead (ofBytes b) := by
  unfold ofBytes
  split
  · trivial
  · assumption

end Content

namespace Extraction

variable {s : Settings} {snapshot : Snapshot} {archive b : Bytes} {path : Text} {f : File}
  {e : Zip.Entry} {entries : List Zip.Entry} {α : Type}

/-- A file as extractions make them. -/
structure IsFile (s : Settings) (f : File) : Prop where
  path : IsPath s f.path
  null : ∀ c ∈ f.path, c.val ≠ 0
  content : f.content.IsRead

/-- The last of the members that are placed under a path. -/
def lastUnder? (path : Text) (placed : List (Text × α)) : Option α :=
  (placed.reverse.find? fun m => m.1 = path).map Prod.snd

/-! ## Reading an archive -/

theorem readFile_eq_ok : readFile archive path e = .ok f ↔
    ∃ b, Zip.content archive e = .ok b ∧ ⟨path, Content.ofBytes b⟩ = f := Step.map_eq_ok

/-- The members of an archive beside their names. -/
def named (entries : List Zip.Entry) : List (Text × Zip.Entry) := entries.map fun e => (e.name, e)

/-- An archive is read member by member. -/
theorem read_eq_ok (h : read s archive = .ok snapshot) :
    ∃ entries files, Zip.directory archive = .ok entries ∧
      List.Forall₂ (fun m f => readFile archive m.1 m.2 = .ok f) (placed s (named entries)) files ∧
      Snapshot.ofFiles files = snapshot := by
  obtain ⟨entries, hentries, h⟩ := Step.bind_eq_ok.1 h
  obtain ⟨files, hfiles, h⟩ := Step.bind_eq_ok.1 h
  exact ⟨entries, files, hentries, Step.mapM_eq_ok.1 hfiles, Except.ok.inj h⟩

theorem retrieve_of_read (h : read s archive = .ok snapshot) (label : Text) :
    retrieve s archive label = .ok { snapshot, label } := by
  unfold retrieve
  simp only [h]

/-- A file of an extracted project is what the last member under its path is read as. -/
theorem lastUnder?_of_read (h : read s archive = .ok snapshot) :
    ∃ entries, Zip.directory archive = .ok entries ∧ ∀ f ∈ snapshot.files,
      ∃ e b, lastUnder? f.path (placed s (named entries)) = some e ∧
        Zip.content archive e = .ok b ∧ f.content = Content.ofBytes b := by
  obtain ⟨entries, files, hentries, hfiles, rfl⟩ := read_eq_ok h
  refine ⟨entries, hentries, fun f hf => ?_⟩
  have hfind : (files.reverse.find? fun g => g.path = f.path) = some f := by
    rw [← Snapshot.get?_ofFiles]
    exact Snapshot.get?_of_mem hf
  obtain ⟨m, hm, hread⟩ := Related.exists_find? (List.forall₂_reverse_iff.2 hfiles)
    (p := fun m => m.1 = f.path) (fun m g hg => by
      obtain ⟨b, -, rfl⟩ := readFile_eq_ok.1 hg
      rfl) hfind
  obtain ⟨b, hb, he⟩ := readFile_eq_ok.1 hread
  refine ⟨m.2, b, ?_, hb, ?_⟩
  · rw [lastUnder?, hm]
    rfl
  · rw [← he]

theorem mem_of_lastUnder? {placed : List (Text × α)} {a : α} (h : lastUnder? path placed = some a) :
    (path, a) ∈ placed := by
  obtain ⟨m, hm, rfl⟩ := Option.map_eq_some_iff.1 h
  have hpath : m.1 = path := by simpa using List.find?_some hm
  rw [← hpath]
  exact List.mem_reverse.1 (List.mem_of_find?_eq_some hm)

/-- The name of an entry is cut at its first null code point. -/
theorem null_not_mem_name {c : CodePoint} (h : c ∈ e.name) : c.val ≠ 0 := by
  have hall := List.all_eq_true.1 (List.all_takeWhile (p := fun c : CodePoint => c.val ≠ 0)) c h
  simpa using hall

/-- Every file of an extracted project is as extractions make them. -/
theorem isFile_of_read (h : read s archive = .ok snapshot) (hf : f ∈ snapshot.files) :
    IsFile s f := by
  obtain ⟨entries, -, hall⟩ := lastUnder?_of_read h
  obtain ⟨e, b, hlast, -, hcontent⟩ := hall f hf
  obtain ⟨hpath, name, hname, hmem⟩ := isPath_of_mem_placed (mem_of_lastUnder? hlast)
  refine ⟨hpath, fun c hc => ?_, ?_⟩
  · by_cases hslash : c = '/'
    · rw [hslash]
      decide
    · obtain ⟨part, hpart, hin⟩ := Text.exists_mem_splitOn hc hslash
      obtain ⟨e', -, he'⟩ := List.mem_map.1 hname
      cases he'
      exact null_not_mem_name (hmem part hpart c hin)
  · rw [hcontent]
    exact Content.isRead_ofBytes b

end Extraction

end Decouple
