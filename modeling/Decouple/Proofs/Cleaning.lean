import Decouple.Cleaning
import Decouple.Proofs.Rewriting.Settled
import Decouple.Proofs.Snapshots

/-!
# What cleaning does to a file

Cleaning treats the surviving files one by one.  `Treated` says what may become of one file: its
path and its kind of content stay, bytes stay as they are, and a file that is not marked as changed
keeps its content.  The rewrite by rule is such a treatment, the service's answer is one on top of
it (`treated_withReply`), and so is each outcome of a cleaning (`run_treats`).

The paths that are removed are the paths of the snapshot that are listed or a platform's own.
-/

namespace Decouple

namespace Cleaning

variable {s : Settings} {snapshot : Snapshot} {listed : List Text} {assistant : Option Assistant}
  {c : Cleaning}

/-! ## One file -/

/-- What may become of a file. -/
structure Treated (f : File) (o : Outcome) : Prop where
  path : o.path = f.path
  kind : o.content.isText = f.content.isText
  bytes : f.content.isText = false → o.content = f.content
  unchanged : o.changed = false → o.content = f.content

/-- The rewrite of a file by rule treats it. -/
theorem treated_rewriteFile {f : File} {o : Outcome} (h : rewriteFile s f = .ok o) :
    Treated f o := by
  unfold rewriteFile at h
  split at h
  · next b hb =>
    rw [← Except.ok.inj h]
    exact ⟨rfl, by rw [hb], fun _ => hb.symm, fun _ => hb.symm⟩
  · next t ht =>
    obtain ⟨r, hr, ho⟩ := Step.map_eq_ok.1 h
    rw [← ho]
    refine ⟨rfl, by rw [ht]; rfl, fun hf => ?_, fun hc => ?_⟩
    · rw [ht] at hf
      cases hf
    · have hn : r.notes = [] := by simpa [Outcome.changed] using hc
      rw [ht, Rewrite.file_content_of_notes hr hn]

/-- An answer of the service on top of a treatment is a treatment. -/
theorem treated_withReply {f : File} {o : Outcome} (h : Treated f o) (hs : isSubmitted o = true)
    (reply : Transformed) : Treated f (withReply o reply) := by
  have htext : o.content.isText = true := by
    simp only [isSubmitted, Bool.and_eq_true] at hs
    exact hs.1
  unfold withReply
  dsimp only
  split
  · exact h
  · refine ⟨h.path, ?_, fun hb => ?_, fun hc => ?_⟩
    · rw [← h.kind, htext]
      rfl
    · rw [← h.kind, htext] at hb
      cases hb
    · simp [Outcome.changed] at hc

/-- Asking the service keeps every outcome a treatment of its file. -/
theorem treated_askFrom (a : Assistant) (total : Nat) {fs : List File} {os : List Outcome}
    (h : List.Forall₂ Treated fs os) (log : AssistantLog) :
    List.Forall₂ Treated fs (askFrom s a total log os).1 := by
  induction h generalizing log with
  | nil => exact .nil
  | @cons f o fs os hfo _ ih =>
    unfold askFrom
    split
    · next hs => exact .cons (treated_withReply hfo hs _) (ih _)
    · exact .cons hfo (ih _)

/-! ## The files that are removed -/

/-- The files that stay, in order. -/
def survivors (s : Settings) (snapshot : Snapshot) (listed : List Text) : List File :=
  (snapshot.without (pathsToRemove s snapshot listed)).sorted

theorem mem_pathsToRemove {p : Text} : p ∈ pathsToRemove s snapshot listed ↔
    p ∈ snapshot.paths ∧ (p ∈ listed ∨ s.removesPath p = true) := by
  rw [pathsToRemove, List.mem_filter, Bool.or_eq_true, List.contains_iff_mem, Snapshot.sortedPaths,
    Snapshot.paths]
  simp only [List.mem_map, Snapshot.mem_sorted]

theorem mem_survivors {f : File} : f ∈ survivors s snapshot listed ↔
    f ∈ snapshot.files ∧ f.path ∉ listed ∧ s.removesPath f.path = false := by
  rw [survivors, Snapshot.mem_sorted, Snapshot.without, Snapshot.filter, List.mem_filter,
    Bool.not_eq_true', ← Bool.not_eq_true, List.contains_iff_mem, mem_pathsToRemove]
  refine and_congr_right fun hf => ?_
  have hp : f.path ∈ snapshot.paths := List.mem_map_of_mem hf
  simp [hp]

/-! ## A whole cleaning -/

/-- A cleaning opens into the rewrite of the files that stay and what the service makes of it. -/
theorem run_eq_ok (h : run s snapshot listed assistant = .ok c) :
    ∃ rewritten, rewriteFiles s (survivors s snapshot listed) = .ok rewritten ∧
      c.outcomes = assistant.elim rewritten fun a => (ask s a rewritten).1 := by
  obtain ⟨rewritten, hr, hc⟩ := Step.map_eq_ok.1 h
  refine ⟨rewritten, hr, ?_⟩
  rw [← hc]
  cases assistant <;> rfl

/-- Each outcome treats the file in its place. -/
theorem run_treats (h : run s snapshot listed assistant = .ok c) :
    List.Forall₂ Treated (survivors s snapshot listed) c.outcomes := by
  obtain ⟨rewritten, hr, hc⟩ := run_eq_ok h
  have hrules : List.Forall₂ Treated (survivors s snapshot listed) rewritten :=
    (Step.mapM_eq_ok.1 hr).imp fun _ _ => treated_rewriteFile
  rw [hc]
  cases assistant with
  | none => exact hrules
  | some a => exact treated_askFrom a _ hrules {}

theorem outcome_paths (h : run s snapshot listed assistant = .ok c) :
    c.outcomes.map Outcome.path = (survivors s snapshot listed).map File.path :=
  Related.map_eq_map (run_treats h) fun _ _ hfo => hfo.path

theorem nodup_outcome_paths (h : run s snapshot listed assistant = .ok c) :
    (c.outcomes.map Outcome.path).Nodup := by
  rw [outcome_paths h]
  exact Snapshot.nodup_sortedPaths _

/-- The cleaned files are those of the outcomes. -/
theorem files_files (h : run s snapshot listed assistant = .ok c) :
    c.files.files = c.outcomes.map fun o => ⟨o.path, o.content⟩ := by
  refine Snapshot.files_ofFiles ?_
  rw [List.map_map]
  exact nodup_outcome_paths h

/-- Each file that stays has an outcome, under its path in the cleaned files. -/
theorem exists_outcome (h : run s snapshot listed assistant = .ok c) {f : File}
    (hf : f ∈ survivors s snapshot listed) :
    ∃ o ∈ c.outcomes, Treated f o ∧ c.files.get? f.path = some ⟨f.path, o.content⟩ := by
  obtain ⟨o, ho, hfo⟩ := Related.exists_right (run_treats h) hf
  refine ⟨o, ho, hfo, Snapshot.get?_eq_some.2 ⟨?_, rfl⟩⟩
  rw [files_files h, ← hfo.path]
  exact List.mem_map_of_mem ho

/-- Each cleaned file treats a file that stays. -/
theorem exists_survivor (h : run s snapshot listed assistant = .ok c) {g : File}
    (hg : g ∈ c.files.files) :
    ∃ f ∈ survivors s snapshot listed, g.path = f.path ∧
      g.content.isText = f.content.isText ∧ (f.content.isText = false → g = f) := by
  rw [files_files h] at hg
  obtain ⟨o, ho, rfl⟩ := List.mem_map.1 hg
  obtain ⟨f, hf, hfo⟩ := Related.exists_left (run_treats h) ho
  refine ⟨f, hf, hfo.path, hfo.kind, fun hb => ?_⟩
  rw [hfo.path, hfo.bytes hb]

end Cleaning

end Decouple
