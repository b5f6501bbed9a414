import Decouple.Proofs.Delivery

/-!
# Archives stay in their folder

An archive is unpacked by its names, so a name must not lead out of the folder of the project: after
the folder come components that are neither empty nor `.` nor `..` (`Encloses`).  The files that a
run makes have such names (`isPath_of_generated`), and so have the files of an extracted project,
whose paths an extraction checks.

The paths of a repository are those that the hosting service lists.  What is asked of them looks
at the folders that are excluded and at the last component only, so a listed path may lead upwards,
and its file is packed under it.  So the names of an archive stay in its folder exactly if the
retrieved paths that no platform owns lead downwards (`Run.members_enclosed_iff`).  Those of an
archive always do; those of a repository may not (`Run.not_forall_members_enclosed`).
-/

namespace Decouple

open Extraction (IsPath)

namespace Packaging

variable {s : Settings} {name path : Text}

/-- Whether a path leads downwards only: no component is empty, `.` or `..`. -/
def Descends (path : Text) : Prop :=
  ∀ c ∈ Text.splitOn '/' path, c ≠ [] ∧ c ≠ "." ∧ c ≠ ".."

instance (path : Text) : Decidable (Descends path) :=
  inferInstanceAs (Decidable (∀ c ∈ Text.splitOn '/' path, c ≠ [] ∧ c ≠ "." ∧ c ≠ ".."))

/-- Whether a name stays in a folder. -/
def Encloses (folder name : Text) : Prop := ∃ path, name = folder ++ "/" ++ path ∧ Descends path

theorem encloses_inside {folder : Text} : Encloses folder (folder ++ "/" ++ path) ↔ Descends path :=
  ⟨fun ⟨_, hname, hpath⟩ => List.append_cancel_left hname ▸ hpath, fun h => ⟨path, rfl, h⟩⟩

/-- The paths that an extraction may give lead downwards, and are whole names. -/
theorem descends_of_isPath (h : IsPath s path) (hnull : ∀ c ∈ path, c.val ≠ 0) :
    Descends (Zip.cutName path) := by
  rw [cutName_eq_self hnull]
  intro c hc
  have hcomponent := h.components c hc
  exact ⟨hcomponent.ne_nil, hcomponent.ne_dot, hcomponent.ne_dots⟩

/-- The member of a file stays in the folder exactly if the path of the file, as far as it is
written, leads downwards. -/
theorem encloses_member {f : File} {m : Zip.Member}
    (h : member (ProjectName.folder name) f = .ok m) :
    Encloses (ProjectName.folder name) m.name ↔ Descends (Zip.cutName f.path) := by
  rw [(member_eq_ok h).2.1, cutName_inside (isFolderName_folder name).2, encloses_inside]

end Packaging

namespace Run

open Packaging (Descends Encloses)

variable {k : Desk} {s : Session} {source : Source} {o : RunOptions} {result : RunResult}
  {r : Retrieved} {a : Analysis} {c : Cleaning} {ms : List Zip.Member} {archive : Bytes}

/-- Whether the retrieved files that stay have paths that lead downwards, as far as the names of
members are written. -/
def RetrievesInside (s : Settings) (r : Retrieved) : Prop :=
  ∀ p ∈ r.snapshot.paths, s.removesPath p = false → Descends (Zip.cutName p)

/-- What a run packs stays in its folder exactly if what it retrieved and keeps does. -/
theorem Stages.enclosed_iff (hs : Stages k s source o result r a c ms) (hk : k.settings = {}) :
    (∀ m ∈ ms, Encloses (ProjectName.folder result.projectName) m.name) ↔
      RetrievesInside k.settings r := by
  obtain ⟨report, hpacked⟩ := hs.exists_members
  have hmembers := Packaging.members_eq_ok.1 hpacked
  constructor
  · intro h p hp hstays
    obtain ⟨f, hf, rfl⟩ := List.mem_map.1 hp
    obtain ⟨g, hg, hpath⟩ := List.mem_map.1 (hs.get?_files hf hstays report).1
    obtain ⟨m, hm, hgm⟩ := Related.exists_right hmembers (Snapshot.mem_sorted.2 hg)
    rw [← hpath]
    exact (Packaging.encloses_member hgm).1 (h m hm)
  · intro h m hm
    obtain ⟨f, hf, hfm⟩ := Related.exists_left hmembers hm
    rw [Packaging.encloses_member hfm]
    rcases hs.mem_files (Snapshot.mem_sorted.1 hf) with
      ⟨g, hg, hstays, hpath, -⟩ | ⟨-, hgenerated⟩
    · rw [hpath]
      exact h g.path (List.mem_map_of_mem hg) hstays
    · rw [hk] at hgenerated
      obtain ⟨hpath, hnull⟩ := isPath_of_generated hgenerated
      exact Packaging.descends_of_isPath hpath hnull

/-- What is read from an archive leads downwards. -/
theorem retrievesInside_of_read {settings : Settings}
    (h : Extraction.read settings archive = .ok r.snapshot) : RetrievesInside settings r := by
  intro p hp _
  obtain ⟨f, hf, rfl⟩ := List.mem_map.1 hp
  have hfile := Extraction.isFile_of_read h hf
  exact Packaging.descends_of_isPath hfile.path hfile.null

/-- Whatever the source, the names of the archive that a run stores stay in its folder exactly if
the retrieved paths that no platform owns lead downwards; and if the source is an archive, they
do. -/
theorem members_enclosed_iff (hk : k.settings = {})
    (hrun : (perform k s source o).result = .ok result) :
    ∃ r a c ms, Stages k s source o result r a c ms ∧
      ((∀ m ∈ ms, Encloses (ProjectName.folder result.projectName) m.name) ↔
        RetrievesInside k.settings r) ∧
      ((source.archive? s.disk).isSome = true → RetrievesInside k.settings r) := by
  obtain ⟨r, a, c, ms, hs⟩ := exists_stages hrun
  refine ⟨r, a, c, ms, hs, hs.enclosed_iff hk, fun hsome => ?_⟩
  obtain ⟨archive, ha⟩ := Option.isSome_iff_exists.1 hsome
  exact retrievesInside_of_read (Retrieval.read_of_ofSource ha hs.retrieved)

theorem oneFile_enclosed : ∃ result ms,
    (perform plainDesk {} (.bytes oneFile) {}).result = .ok result ∧
      packed? plainDesk {} (.bytes oneFile) {} = some ms ∧
        ∀ m ∈ ms, Encloses (ProjectName.folder result.projectName) m.name := by
  obtain ⟨result, hrun⟩ := exists_run_oneFile
  obtain ⟨r, a, c, ms, hs, henclosed, harchive⟩ := members_enclosed_iff rfl hrun
  exact ⟨result, ms, hrun, hs.packed?_eq, henclosed.2 (harchive rfl)⟩

/-- A path that leads out of the project. -/
def strayPath : Text := "../contents/b.ts"

/-- A hosting service that lists one file under this path, and gives it. -/
def strayHost : Host := fun _ address =>
  if address = "https://api.github.com/repos/acme/site/git/trees/main?recursive=1" then
    .answered 200 (Utf8.encodeAll
      ("\x7b\"tree\": [\x7b\"type\": \"blob\", \"path\": \"" ++ strayPath ++ "\"\x7d]\x7d"))
  else .answered 200 (Utf8.encodeAll "\x7b\"encoding\": \"base64\", \"content\": \"aGk=\"\x7d")

/-- A desk with this service. -/
def strayDesk : Desk := { plainDesk with host := strayHost }

/-- Not every archive stays in its folder: a listed path may lead out of the project. -/
theorem not_forall_members_enclosed :
    ¬∀ (k : Desk) (s : Session) (source : Source) (o : RunOptions) (result : RunResult),
      k.settings = {} → (perform k s source o).result = .ok result →
        ∃ r a c ms, Stages k s source o result r a c ms ∧
          ∀ m ∈ ms, Encloses (ProjectName.folder result.projectName) m.name := by
  intro h
  have hok : (perform strayDesk {} (.named "acme/site") {}).result.isOk = true := by
    decide +kernel
  obtain ⟨result, hrun⟩ := Step.exists_of_isOk hok
  obtain ⟨r, a, c, ms, hs, henclosed⟩ := h _ _ _ _ result rfl hrun
  have hread : ((Retrieval.ofSource strayDesk {} (.named "acme/site") none).result.toOption.map
      fun r => r.snapshot.paths) = some [strayPath] := by decide +kernel
  have hpaths : r.snapshot.paths = [strayPath] := by
    rw [hs.retrieved] at hread
    exact Option.some.inj hread
  have hmem : strayPath ∈ r.snapshot.paths := hpaths ▸ List.mem_singleton_self _
  have hdescends := (hs.enclosed_iff rfl).1 henclosed strayPath hmem (by decide +kernel)
  revert hdescends
  decide +kernel

end Run

end Decouple
