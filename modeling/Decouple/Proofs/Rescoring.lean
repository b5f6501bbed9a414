import Decouple.Proofs.Analyses
import Decouple.Proofs.Delivery

/-!
# The score of a stored archive

What a run stores can be analyzed again.  The archive is read back as the packed files
(`Run.Stages.read_stored`): its folder is the one that an extraction takes off, no path that a run
packs is excluded, and no content changes on the way.  The packed files are those that were scored,
but for the artifacts.  Files under the artifacts' paths show nothing to an analysis, whoever made
them, so the analysis is that of the scored files, and the recorded score is its score.
-/

namespace Decouple

namespace Run

variable {k : Desk} {s : Session} {source : Source} {o : RunOptions} {result : RunResult}
  {r : Retrieved} {a : Analysis} {c : Cleaning} {ms : List Zip.Member} {archive : Bytes}

/-- A file under an artifact's path shows nothing. -/
theorem isSilent_of_mem_artifactPaths {p : Text} (h : p ∈ Packaging.artifactPaths) :
    Analysis.IsSilent {} p := by
  have hall : ∀ p ∈ Packaging.artifactPaths, Analysis.IsSilent {} p := by decide +kernel
  exact hall p h

/-- The packed files have the analysis of the files before the artifacts came. -/
theorem ofSnapshot_files (project : Snapshot) (report : Text) :
    Analysis.ofSnapshot {} (Packaging.files {} project report) = Analysis.ofSnapshot {} project := by
  refine Analysis.ofSnapshot_eq_of_get? fun p => ?_
  by_cases hp : p ∈ Packaging.artifactPaths
  · exact Or.inl (isSilent_of_mem_artifactPaths hp)
  · exact Or.inr (Packaging.get?_files hp)

/-- A stored archive is read back as the packed files, if it holds its members. -/
theorem Stages.read_stored (hs : Stages k s source o result r a c ms) (hk : k.settings = {})
    (hread : Extraction.read k.settings archive = .ok r.snapshot)
    (hholds : Packaging.Holds (Zip.write ms) ms) :
    ∃ report, Extraction.read {} (Zip.write ms) =
      .ok (Snapshot.ofFiles (Packaging.files {} result.files report).sorted) := by
  obtain ⟨report, hpacked⟩ := hs.exists_members
  have hfiles := hs.isFile hk hread report
  rw [hk] at hpacked hfiles
  obtain ⟨hfolder, hnull⟩ := Packaging.isFolderName_folder result.projectName
  refine ⟨report, ?_⟩
  refine Packaging.read_of_holds hholds ?_ ?_ hfolder hnull (Packaging.members_eq_ok.1 hpacked)
  · have hartifact : Text.ofString "Dockerfile" ∈ (Packaging.files {} result.files report).paths :=
      Packaging.mem_paths_files.2 (Or.inr (List.mem_cons_self ..))
    obtain ⟨f, hf, -⟩ := List.mem_map.1 hartifact
    exact List.ne_nil_of_mem (Snapshot.mem_sorted.2 hf)
  · exact fun f hf => hfiles f (Snapshot.mem_sorted.1 hf)

/-- The stored archive of a run, if it holds its members, can be read, and its analysis is that of
the files that the run scored: the same issues, dependencies and files to remove, and the recorded
score. -/
theorem stored_archive_rescored (hk : k.settings = {})
    (ha : source.archive? s.disk = some archive)
    (hrun : (perform k s source o).result = .ok result) :
    ∃ r a c ms, Stages k s source o result r a c ms ∧
      (Packaging.Holds (Zip.write ms) ms → ∃ stored after,
        Extraction.read k.settings (Zip.write ms) = .ok stored ∧
        Analysis.ofSnapshot k.settings stored = .ok after ∧
        Analysis.ofSnapshot k.settings result.files = .ok after ∧
        after.score = result.scoreAfter) := by
  obtain ⟨r, a, c, ms, hs⟩ := exists_stages hrun
  refine ⟨r, a, c, ms, hs, fun hholds => ?_⟩
  have hread := Retrieval.read_of_ofSource ha hs.retrieved
  obtain ⟨report, hstored⟩ := hs.read_stored hk hread hholds
  obtain ⟨after, hafter, hscore⟩ := hs.scored
  rw [hk] at hafter ⊢
  refine ⟨_, after, hstored, ?_, hafter, hscore.symm⟩
  rw [← hafter, ← ofSnapshot_files result.files report]
  exact Analysis.ofSnapshot_eq_of_get? fun p => Or.inr (Snapshot.get?_ofFiles_sorted _ p)

theorem oneFile_rescored : ∃ result ms stored after,
    (perform plainDesk {} (.bytes oneFile) {}).result = .ok result ∧
      packed? plainDesk {} (.bytes oneFile) {} = some ms ∧
      Extraction.read {} (Zip.write ms) = .ok stored ∧
      Analysis.ofSnapshot {} stored = .ok after ∧ Analysis.ofSnapshot {} result.files = .ok after ∧
      after.score = result.scoreAfter := by
  obtain ⟨result, hrun⟩ := exists_run_oneFile
  have harchive : (Source.bytes oneFile).archive? ({} : Session).disk = some oneFile := rfl
  have hsettings : plainDesk.settings = {} := rfl
  obtain ⟨r, a, c, ms, hs, hrescored⟩ := stored_archive_rescored hsettings harchive hrun
  obtain ⟨-, ms', hpacked, hfits⟩ := perform_oneFile
  have hsame : ms' = ms := Option.some.inj (hpacked.symm.trans hs.packed?_eq)
  obtain ⟨stored, after, hstored⟩ := hrescored (Zip.holds_write (hsame ▸ hfits))
  exact ⟨result, ms, stored, after, hrun, hs.packed?_eq, hstored⟩

end Run

end Decouple
