import Decouple.Proofs.Hooks
import Decouple.Proofs.Packing
import Decouple.Proofs.Runs

/-!
# What of a project is in its archive

A file that stays goes from the archive that a run reads to the archive that it writes.  No stage
changes its path; cleaning keeps its content unless it is marked as changed, replacement modules go
under paths that are free, and artifacts replace files of their own paths only.  So its member has
the bytes that it was read from (`Run.untouched_files_arrive`).

On the way all files stay as extractions make them (`Run.Stages.isFile`), which is what lets the
archive be read again.
-/

namespace Decouple

open Extraction (IsFile IsPath)

namespace Cleaning

variable {s : Settings} {snapshot : Snapshot} {listed : List Text} {assistant : Option Assistant}
  {c : Cleaning}

theorem isRead_of_isText {content : Content} (h : content.isText = true) : content.IsRead := by
  cases content with
  | text t => trivial
  | bytes b => cases h

/-- A treated file is as extractions make it if the file was. -/
theorem isFile_of_treated {f g : File} (hf : IsFile s f) (hpath : g.path = f.path)
    (hkind : g.content.isText = f.content.isText) (hbytes : f.content.isText = false → g = f) :
    IsFile s g := by
  refine ⟨hpath ▸ hf.path, hpath ▸ hf.null, ?_⟩
  cases hk : f.content.isText with
  | true => exact isRead_of_isText (hkind.trans hk)
  | false =>
    rw [hbytes hk]
    exact hf.content

end Cleaning

namespace Packaging

variable {s : Settings} {project : Snapshot} {report p : Text} {name : Text}
  {ms : List Zip.Member} {f : File}

/-! ## Artifacts among the files of a project -/

/-- The paths of the artifacts. -/
def artifactPaths : List Text := ["Dockerfile", "nginx.conf", ".env.example", "LIBERATION_REPORT.md"]

theorem artifact_paths (s : Settings) (project : Snapshot) (report : Text) :
    ((Artifact.all s project report).map fun (path, t) => (⟨path, .text t⟩ : File)).map File.path =
      artifactPaths := rfl

/-- Under other paths than theirs the artifacts change nothing. -/
theorem get?_files (h : p ∉ artifactPaths) : (files s project report).get? p = project.get? p :=
  Snapshot.get?_putAll_of_not_mem (by rwa [artifact_paths])

theorem mem_paths_files : p ∈ (files s project report).paths ↔ p ∈ project.paths ∨ p ∈ artifactPaths := by
  rw [files, Snapshot.mem_paths_putAll, artifact_paths]

theorem mem_files (h : f ∈ (files s project report).files) :
    f ∈ project.files ∨ f.content.isText = true ∧ f.path ∈ artifactPaths := by
  rcases Snapshot.mem_putAll h with h | h
  · exact Or.inl h
  · refine Or.inr ⟨?_, artifact_paths s project report ▸ List.mem_map_of_mem h⟩
    obtain ⟨⟨path, t⟩, -, rfl⟩ := List.mem_map.1 h
    rfl

/-- The archive of a project has one member for each of its files and artifacts. -/
theorem members_eq_ok : members s project name report = .ok ms ↔
    List.Forall₂ (fun f m => member (ProjectName.folder name) f = .ok m)
      (files s project report).sorted ms := Step.mapM_eq_ok

/-- The names of the members are the paths inside the folder of the project. -/
theorem map_name_members (h : members s project name report = .ok ms)
    (hnull : ∀ p ∈ (files s project report).paths, ∀ c ∈ p, c.val ≠ 0) :
    ms.map Zip.Member.name = (files s project report).sorted.map fun f =>
      ProjectName.folder name ++ "/" ++ f.path := by
  obtain ⟨ps, hfst, rfl, hps⟩ := Related.exists_pairs (members_eq_ok.1 h)
  rw [← hfst, List.map_map, List.map_map]
  refine List.map_congr_left fun p hp => ?_
  have hmem : p.1 ∈ (files s project report).sorted := by
    rw [← hfst]
    exact List.mem_map_of_mem hp
  have hpath : p.1.path ∈ (files s project report).paths :=
    List.mem_map_of_mem (Snapshot.mem_sorted.1 hmem)
  exact member_name (isFolderName_folder name).2 (hnull p.1.path hpath) (hps p hp)

theorem nodup_names (h : members s project name report = .ok ms)
    (hnull : ∀ p ∈ (files s project report).paths, ∀ c ∈ p, c.val ≠ 0) :
    (ms.map Zip.Member.name).Nodup := by
  have hinside : Function.Injective fun path : Text => ProjectName.folder name ++ "/" ++ path :=
    fun a b hab => List.append_cancel_left hab
  have hnames := (files s project report).nodup_sortedPaths.map hinside
  rw [List.map_map] at hnames
  rw [map_name_members h hnull]
  exact hnames

theorem null_of_isFile (hfiles : ∀ f ∈ (files s project report).files, IsFile s f) :
    ∀ p ∈ (files s project report).paths, ∀ c ∈ p, c.val ≠ 0 := by
  intro p hp
  obtain ⟨f, hf, rfl⟩ := List.mem_map.1 hp
  exact (hfiles f hf).null

/-- A path of the project names one member of its archive. -/
theorem existsUnique_member (h : members s project name report = .ok ms)
    (hfiles : ∀ f ∈ (files s project report).files, IsFile s f)
    (hp : p ∈ (files s project report).paths) :
    ∃! m, m ∈ ms ∧ m.name = ProjectName.folder name ++ "/" ++ p := by
  obtain ⟨f, hf, rfl⟩ := List.mem_map.1 hp
  have hnull := null_of_isFile hfiles
  have hname : ProjectName.folder name ++ "/" ++ f.path ∈ ms.map Zip.Member.name := by
    rw [map_name_members h hnull]
    exact List.mem_map.2 ⟨f, Snapshot.mem_sorted.2 hf, rfl⟩
  obtain ⟨m, hm, hmname⟩ := List.mem_map.1 hname
  refine ⟨m, ⟨hm, hmname⟩, ?_⟩
  rintro m' ⟨hm', hname'⟩
  exact List.inj_on_of_nodup_map (nodup_names h hnull) hm' hm (hname'.trans hmname.symm)

/-- A member named by the path of a file has the bytes of its content. -/
theorem encodeContent_of_name (h : members s project name report = .ok ms)
    (hfiles : ∀ f ∈ (files s project report).files, IsFile s f) {m : Zip.Member} (hm : m ∈ ms)
    (hname : m.name = ProjectName.folder name ++ "/" ++ p)
    (hget : (files s project report).get? p = some f) :
    encodeContent f.content = .ok m.content := by
  obtain ⟨g, hg, hgm⟩ := Related.exists_left (members_eq_ok.1 h) hm
  have hmem := Snapshot.mem_sorted.1 hg
  have hgname := member_name (isFolderName_folder name).2 (hfiles g hmem).null hgm
  have hpath : g.path = p := List.append_cancel_left (hgname.symm.trans hname)
  have hsame : g = f := by
    rw [← hpath, Snapshot.get?_of_mem hmem] at hget
    exact Option.some.inj hget
  rw [← hsame]
  exact (member_eq_ok hgm).1

end Packaging

namespace Run

variable {k : Desk} {s : Session} {source : Source} {o : RunOptions} {result : RunResult}
  {r : Retrieved} {a : Analysis} {c : Cleaning} {ms : List Zip.Member} {archive : Bytes}
  {f : File}

/-- The paths under which a run may put files of its own. -/
def IsGenerated (s : Settings) (p : Text) : Prop :=
  (∃ h ∈ Hook.catalog, p = Polyfill.modulePath s h) ∨ p = Polyfill.indexPath s ∨
    p ∈ Packaging.artifactPaths

/-- Under the settings that runs have unless told otherwise, these are paths that an extraction
may give. -/
theorem isPath_of_generated {p : Text} (h : IsGenerated {} p) :
    IsPath {} p ∧ ∀ c ∈ p, c.val ≠ 0 := by
  have hmodules : ∀ h ∈ Hook.catalog, IsPath {} (Polyfill.modulePath {} h) ∧
      ∀ c ∈ Polyfill.modulePath {} h, c.val ≠ 0 := by decide +kernel
  have hindex : IsPath {} (Polyfill.indexPath {}) ∧
      ∀ c ∈ Polyfill.indexPath {}, c.val ≠ 0 := by decide +kernel
  have hartifacts : ∀ p ∈ Packaging.artifactPaths, IsPath {} p ∧ ∀ c ∈ p, c.val ≠ 0 := by
    decide +kernel
  rcases h with ⟨h, hh, rfl⟩ | rfl | hp
  · exact hmodules h hh
  · exact hindex
  · exact hartifacts p hp

/-- A file that a run packs is a retrieved file that stays, as its cleaning left it, or a text of
the run's own. -/
theorem Stages.mem_files (hs : Stages k s source o result r a c ms) {report : Text}
    (hf : f ∈ (Packaging.files k.settings result.files report).files) :
    (∃ g ∈ r.snapshot.files, k.settings.removesPath g.path = false ∧ f.path = g.path ∧
        f.content.isText = g.content.isText ∧ (g.content.isText = false → f = g)) ∨
      f.content.isText = true ∧ IsGenerated k.settings f.path := by
  rcases Packaging.mem_files hf with hf | ⟨ht, hp⟩
  · rw [hs.completed] at hf
    rcases Polyfill.mem_complete hf with hf | ⟨ht, hp⟩
    · obtain ⟨g, hg, hsame⟩ := Cleaning.exists_survivor hs.cleaned hf
      obtain ⟨hmem, hstays⟩ := (Cleaning.mem_survivors_of_analysis hs.analyzed).1 hg
      exact .inl ⟨g, hmem, hstays, hsame⟩
    · exact .inr ⟨ht, hp.imp_right .inl⟩
  · exact .inr ⟨ht, .inr (.inr hp)⟩

/-- All files that a run packs are as extractions make them. -/
theorem Stages.isFile (hs : Stages k s source o result r a c ms) (hk : k.settings = {})
    (hread : Extraction.read k.settings archive = .ok r.snapshot) (report : Text) :
    ∀ f ∈ (Packaging.files k.settings result.files report).files, IsFile k.settings f := by
  intro f hf
  rcases hs.mem_files hf with ⟨g, hg, -, hpath, hkind, hbytes⟩ | ⟨ht, hgenerated⟩
  · exact Cleaning.isFile_of_treated (Extraction.isFile_of_read hread hg) hpath hkind hbytes
  · rw [hk] at hgenerated ⊢
    obtain ⟨hpath, hnull⟩ := isPath_of_generated hgenerated
    exact ⟨hpath, hnull, Cleaning.isRead_of_isText ht⟩

/-- A file that stays is packed with what its cleaning has made of it, unless an artifact has its
path. -/
theorem Stages.get?_files (hs : Stages k s source o result r a c ms) (hf : f ∈ r.snapshot.files)
    (hstays : k.settings.removesPath f.path = false) (report : Text) :
    f.path ∈ (Packaging.files k.settings result.files report).paths ∧
      ∃ o ∈ c.outcomes, Cleaning.Treated f o ∧ (f.path ∉ Packaging.artifactPaths →
        (Packaging.files k.settings result.files report).get? f.path = some ⟨f.path, o.content⟩) := by
  have hsurvives := (Cleaning.mem_survivors_of_analysis hs.analyzed).2 ⟨hf, hstays⟩
  obtain ⟨o, ho, htreated, hget⟩ := Cleaning.exists_outcome hs.cleaned hsurvives
  have hcompleted : result.files.get? f.path = some ⟨f.path, o.content⟩ := by
    rw [hs.completed]
    exact Polyfill.get?_complete hget
  refine ⟨?_, o, ho, htreated, fun hp => ?_⟩
  · exact Packaging.mem_paths_files.2 (Or.inl (Snapshot.mem_paths.2 ⟨_, hcompleted⟩))
  · rw [Packaging.get?_files hp, hcompleted]

/-- Whether a path of a project has arrived in its archive: one member is named by it, and if the
cleaning has not changed the file and its path is no artifact's, that member has the bytes of the
last member of the read archive that was placed under the path. -/
structure Arrives (s : Settings) (archive : Bytes) (entries : List Zip.Entry) (c : Cleaning)
    (name : Text) (ms : List Zip.Member) (p : Text) : Prop where
  once : ∃! m, m ∈ ms ∧ m.name = ProjectName.folder name ++ "/" ++ p
  intact : ∀ m ∈ ms, m.name = ProjectName.folder name ++ "/" ++ p →
    p ∉ Packaging.artifactPaths → (∀ o ∈ c.outcomes, o.path = p → o.changed = false) →
      ∃ e, Extraction.lastUnder? p (Extraction.placed s (Extraction.named entries)) = some e ∧
        Zip.content archive e = .ok m.content

/-- Every path of a project that no platform owns arrives in the archive that a run stores. -/
theorem untouched_files_arrive (hk : k.settings = {})
    (ha : source.archive? s.disk = some archive)
    (hrun : (perform k s source o).result = .ok result) :
    ∃ r a c ms entries, Stages k s source o result r a c ms ∧
      Zip.directory archive = .ok entries ∧
      ∀ p ∈ r.snapshot.paths, k.settings.removesPath p = false →
        Arrives k.settings archive entries c result.projectName ms p := by
  obtain ⟨r, a, c, ms, hs⟩ := exists_stages hrun
  have hread := Retrieval.read_of_ofSource ha hs.retrieved
  obtain ⟨entries, hentries, hlast⟩ := Extraction.lastUnder?_of_read hread
  obtain ⟨report, hpacked⟩ := hs.exists_members
  have hfiles := hs.isFile hk hread report
  refine ⟨r, a, c, ms, entries, hs, hentries, ?_⟩
  intro p hp hstays
  obtain ⟨f, hf, rfl⟩ := List.mem_map.1 hp
  obtain ⟨hpath, o, ho, htreated, hget⟩ := hs.get?_files hf hstays report
  refine ⟨Packaging.existsUnique_member hpacked hfiles hpath, ?_⟩
  intro m hm hname hartifact hunchanged
  obtain ⟨e, b, he, hb, hcontent⟩ := hlast f hf
  refine ⟨e, he, ?_⟩
  have hbytes := Packaging.encodeContent_of_name hpacked hfiles hm hname (hget hartifact)
  dsimp only at hbytes
  rw [htreated.unchanged (hunchanged o ho htreated.path), hcontent,
    Packaging.encodeContent_ofBytes] at hbytes
  rw [hb, Except.ok.inj hbytes]

theorem oneFile_arrives : ∃ result c ms entries,
    (perform plainDesk {} (.bytes oneFile) {}).result = .ok result ∧
      Arrives {} oneFile entries c result.projectName ms "a.ts" := by
  obtain ⟨result, hrun⟩ := exists_run_oneFile
  have harchive : (Source.bytes oneFile).archive? ({} : Session).disk = some oneFile := rfl
  have hsettings : plainDesk.settings = {} := rfl
  obtain ⟨r, a, c, ms, entries, hs, -, harrives⟩ :=
    untouched_files_arrive hsettings harchive hrun
  have hread := Retrieval.read_of_ofSource harchive hs.retrieved
  have hpaths : (Extraction.read {} oneFile).toOption.map Snapshot.paths =
      some [Text.ofString "a.ts"] := by decide +kernel
  rw [hsettings] at hread harrives
  rw [hread] at hpaths
  have hmem : Text.ofString "a.ts" ∈ r.snapshot.paths := by
    rw [Option.some.inj hpaths]
    exact List.mem_singleton_self _
  have hstays : Settings.removesPath {} (Text.ofString "a.ts") = false := by decide +kernel
  exact ⟨result, c, ms, entries, hrun, harrives _ hmem hstays⟩

end Run

end Decouple
