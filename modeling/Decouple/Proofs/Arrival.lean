import Decouple.Packaging.Archive
import Decouple.Proofs.Analyses

/-!
# The order of arrival

Files arrive in some order, and a snapshot keeps it.  No stage lets it show: the analysis and the
cleaning visit the files in the order of their paths, replacement modules are asked for in the order
of the catalog, and the template of the environment lists its variables in order.  So snapshots that
hold the same files (`Snapshot.Agrees`) come to the same everywhere (`Snapshot.stages_agree`).

What the stages keep apart from the files is equal, not just equal up to order.  Only the completed
project is a snapshot again, with an order of its own; it agrees.
-/

namespace Decouple

namespace Text

variable {as bs : List Text}

theorem nodup_foldl_addNew (ts : List Text) {seen : List Text} (h : seen.Nodup) :
    (ts.foldl addNew seen).Nodup := by
  induction ts generalizing seen with
  | nil => exact h
  | cons t ts ih =>
    refine ih ?_
    rw [addNew]
    split
    · exact h
    · next ht => exact List.nodup_append.2 ⟨h, List.nodup_singleton t, fun u hu v hv e =>
        ht (List.mem_singleton.1 hv ▸ e ▸ hu)⟩

theorem nodup_distinct (ts : List Text) : (distinct ts).Nodup :=
  nodup_foldl_addNew ts List.nodup_nil

/-- The distinct texts of a list are the same in another order of the list, in some order. -/
theorem distinct_perm (h : as.Perm bs) : (distinct as).Perm (distinct bs) := by
  rw [List.perm_ext_iff_of_nodup (nodup_distinct as) (nodup_distinct bs)]
  intro t
  rw [mem_distinct, mem_distinct, h.mem_iff]

/-- Sorting forgets the order of a list. -/
theorem sort_eq_of_perm (h : as.Perm bs) : sort as = sort bs := by
  have hsorted (ts : List Text) : (sort ts).Pairwise fun a b => le a b = true :=
    Sorting.pairwise_sort le_total (fun _ _ _ => le_trans) ts
  have hperm : (sort as).Perm (sort bs) :=
    (Sorting.sort_perm as).trans (h.trans (Sorting.sort_perm bs).symm)
  exact hperm.eq_of_pairwise (fun a b _ _ => le_antisymm) (hsorted as) (hsorted bs)

end Text

namespace Snapshot

/-- Snapshots that hold the same files: under each path both have the same file, or none. -/
def Agrees (a b : Snapshot) : Prop := ∀ p, a.get? p = b.get? p

variable {a b : Snapshot} {s : Settings}

/-- Snapshots agree exactly when one has the files of the other in some order. -/
theorem agrees_iff_perm : Agrees a b ↔ a.files.Perm b.files := by
  have hnodup (c : Snapshot) : c.files.Nodup := List.Nodup.of_map _ c.nodup
  rw [List.perm_ext_iff_of_nodup (hnodup a) (hnodup b)]
  constructor
  · intro h f
    have hiff : a.get? f.path = some f ↔ b.get? f.path = some f := by rw [h]
    simpa only [get?_eq_some, and_true] using hiff
  · intro h p
    rw [Option.ext_iff]
    intro f
    rw [get?_eq_some, get?_eq_some, h]

namespace Agrees

theorem sorted_eq (h : Agrees a b) : a.sorted = b.sorted := sorted_eq_of_get? h

theorem contains_eq (h : Agrees a b) (p : Text) : a.contains p = b.contains p := by
  rw [contains, contains, h]

theorem sortedPaths_eq (h : Agrees a b) : a.sortedPaths = b.sortedPaths := by
  rw [sortedPaths, sortedPaths, h.sorted_eq]

theorem filter (h : Agrees a b) (q : Text → Bool) :
    Agrees (a.filter fun f => q f.path) (b.filter fun f => q f.path) := by
  intro p
  rw [get?_filter, get?_filter, h]

theorem putAll (h : Agrees a b) (fs : List File) : Agrees (a.putAll fs) (b.putAll fs) := by
  intro p
  rw [get?_putAll, get?_putAll, h]

/-! ## One stage after the other -/

theorem analysis_eq (h : Agrees a b) (s : Settings) :
    Analysis.ofSnapshot s a = Analysis.ofSnapshot s b := by
  rw [Analysis.ofSnapshot, Analysis.ofSnapshot, h.sorted_eq]

theorem cleaning_eq (h : Agrees a b) (s : Settings) (listed : List Text)
    (assistant : Option Assistant) :
    Cleaning.run s a listed assistant = Cleaning.run s b listed assistant := by
  have hremoved : Cleaning.pathsToRemove s a listed = Cleaning.pathsToRemove s b listed := by
    rw [Cleaning.pathsToRemove, Cleaning.pathsToRemove, h.sortedPaths_eq]
  have hsurvivors (removed : List Text) : (a.without removed).sorted = (b.without removed).sorted :=
    (h.filter fun p => !removed.contains p).sorted_eq
  rw [Cleaning.run, Cleaning.run, hremoved]
  simp only [hsurvivors]

theorem needed_eq (h : Agrees a b) (s : Settings) : Polyfill.needed s a = Polyfill.needed s b := by
  refine List.filter_congr fun hook _ => ?_
  exact (agrees_iff_perm.1 h).any_eq

theorem missing_eq (h : Agrees a b) (s : Settings) :
    Polyfill.missing s a = Polyfill.missing s b := by
  rw [Polyfill.missing, Polyfill.missing, h.needed_eq]
  simp only [h.contains_eq]

/-- The same replacement modules complete both, to snapshots that agree. -/
theorem complete (h : Agrees a b) (s : Settings) :
    (Polyfill.complete s a).2 = (Polyfill.complete s b).2 ∧
      Agrees (Polyfill.complete s a).1 (Polyfill.complete s b).1 := by
  have hadded (ps : List Polyfill) : Polyfill.added s a ps = Polyfill.added s b ps := by
    rw [Polyfill.added, Polyfill.added, h.contains_eq]
  rw [Polyfill.complete, Polyfill.complete, h.missing_eq]
  split
  · exact ⟨rfl, h⟩
  · rw [hadded]
    exact ⟨rfl, h.putAll _⟩

theorem namesIn_eq (h : Agrees a b) : Artifact.namesIn a = Artifact.namesIn b :=
  Text.sort_eq_of_perm (Text.distinct_perm ((agrees_iff_perm.1 h).flatMap_right _))

theorem artifacts_eq (h : Agrees a b) (s : Settings) (report : Text) :
    Artifact.all s a report = Artifact.all s b report := by
  rw [Artifact.all, Artifact.all, Artifact.environmentTemplate, Artifact.environmentTemplate,
    h.namesIn_eq]

/-- Both are packed into the same members in the same order, or for the same reason not at all. -/
theorem pack_eq (h : Agrees a b) (s : Settings) (name report : Text) :
    Packaging.pack s a name report = Packaging.pack s b name report := by
  have hfiles : Agrees (Packaging.files s a report) (Packaging.files s b report) := by
    rw [Packaging.files, Packaging.files, h.artifacts_eq]
    exact h.putAll _
  rw [Packaging.pack, Packaging.pack, Packaging.members, Packaging.members, hfiles.sorted_eq]

end Agrees

/-! ## All stages -/

/-- The order of arrival shows in no stage: on snapshots that hold the same files, under any
settings, the analysis is the same or fails alike, and so is the cleaning, with its outcomes,
counters, removed paths and removed dependencies in their order; the same replacement modules are
added, and the same members are packed in the same order. -/
theorem stages_agree (h : Agrees a b) (s : Settings) :
    Analysis.ofSnapshot s a = Analysis.ofSnapshot s b ∧
      (∀ listed assistant,
        Cleaning.run s a listed assistant = Cleaning.run s b listed assistant) ∧
      ((Polyfill.complete s a).2 = (Polyfill.complete s b).2 ∧
        Agrees (Polyfill.complete s a).1 (Polyfill.complete s b).1) ∧
      ∀ name report, Packaging.pack s a name report = Packaging.pack s b name report :=
  ⟨h.analysis_eq s, h.cleaning_eq s, h.complete s, h.pack_eq s⟩

/-- Two source files that need a hook each, the later one first. -/
def hookUsers : List File := [
  ⟨"src/b.ts", .text "import \x7b useToast \x7d from '@/lib/compat/use-toast'"⟩,
  ⟨"src/a.ts", .text "import '@lovable/x'\nimport y from '@/lib/compat/use-mobile'"⟩]

theorem hookUsers_agree :
    (ofFiles hookUsers).paths ≠ (ofFiles hookUsers.reverse).paths ∧
      Agrees (ofFiles hookUsers) (ofFiles hookUsers.reverse) ∧
      Analysis.ofSnapshot {} (ofFiles hookUsers) =
        Analysis.ofSnapshot {} (ofFiles hookUsers.reverse) ∧
      (Polyfill.complete {} (ofFiles hookUsers)).2.length = 2 ∧
      (Polyfill.complete {} (ofFiles hookUsers)).2 =
        (Polyfill.complete {} (ofFiles hookUsers.reverse)).2 := by
  have hnodup : (hookUsers.map File.path).Nodup := by decide
  have hagrees : Agrees (ofFiles hookUsers) (ofFiles hookUsers.reverse) := by
    rw [agrees_iff_perm, files_ofFiles hnodup,
      files_ofFiles (by rw [List.map_reverse, List.nodup_reverse]; exact hnodup)]
    exact (List.reverse_perm hookUsers).symm
  obtain ⟨hanalysis, -, ⟨hpolyfills, -⟩, -⟩ := stages_agree hagrees {}
  exact ⟨by decide, hagrees, hanalysis, by decide +kernel, hpolyfills⟩

end Snapshot

end Decouple
