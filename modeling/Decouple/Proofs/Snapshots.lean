import Decouple.Proofs.Sorting
import Decouple.Proofs.Texts
import Decouple.Snapshot
import Mathlib.Data.List.Nodup

/-!
# Snapshots as maps from paths to files

A snapshot is known by what it has under each path: `get?` finds the one file of a path, the last
of several files put under a path wins (`get?_putAll`, `get?_ofFiles`), and snapshots with the same
file under each path are the same list in order (`sorted_eq_of_get?`).
-/

namespace Decouple

namespace File

theorem sort_perm (files : List File) : (sort files).Perm files :=
  Sorting.sort_perm files

@[simp] theorem mem_sort {f : File} {files : List File} : f ∈ sort files ↔ f ∈ files :=
  (sort_perm files).mem_iff

theorem pairwise_sort (files : List File) :
    (sort files).Pairwise fun a b => Text.le a.path b.path = true := by
  have htrans : ∀ a b c : File, Text.le a.path b.path = true → Text.le b.path c.path = true →
      Text.le a.path c.path = true := fun _ _ _ => Text.le_trans
  exact Sorting.pairwise_sort (fun a b => Text.le_total a.path b.path) htrans files

/-- A file under a new path comes last. -/
theorem put_of_not_mem {file : File} {files : List File} (h : file.path ∉ files.map path) :
    put file files = files ++ [file] := by
  induction files with
  | nil => rfl
  | cons f rest ih =>
    rw [List.map_cons, List.mem_cons, not_or] at h
    rw [put, if_neg fun e => h.1 e.symm, ih h.2, List.cons_append]

end File

namespace Snapshot

variable {s t : Snapshot} {f : File} {fs : List File} {p : Text}

/-! ## The file under a path -/

theorem get?_eq_some : s.get? p = some f ↔ f ∈ s.files ∧ f.path = p := by
  constructor
  · intro h
    exact ⟨List.mem_of_find?_eq_some h, by simpa using List.find?_some h⟩
  · rintro ⟨hf, hp⟩
    obtain ⟨g, hg⟩ : ∃ g, s.get? p = some g :=
      Option.isSome_iff_exists.1 (List.find?_isSome.2 ⟨f, hf, by simpa using hp⟩)
    have hmem : g ∈ s.files := List.mem_of_find?_eq_some hg
    have hpath : g.path = p := by simpa using List.find?_some hg
    rw [hg, List.inj_on_of_nodup_map s.nodup hmem hf (hpath.trans hp.symm)]

theorem get?_of_mem (h : f ∈ s.files) : s.get? f.path = some f := get?_eq_some.2 ⟨h, rfl⟩

theorem get?_eq_none : s.get? p = none ↔ p ∉ s.paths := by
  simp [get?, paths, List.find?_eq_none]

theorem mem_paths : p ∈ s.paths ↔ ∃ f, s.get? p = some f := by
  rw [← not_iff_not, ← get?_eq_none, ← Option.isNone_iff_eq_none, Option.isNone_iff_eq_none]
  cases s.get? p <;> simp

theorem contains_iff : s.contains p = true ↔ p ∈ s.paths := by
  rw [mem_paths, contains, Option.isSome_iff_exists]

theorem get?_filter {q : Text → Bool} :
    (s.filter fun f => q f.path).get? p = if q p then s.get? p else none := by
  rw [Option.ext_iff]
  intro f
  by_cases hq : q p
  · rw [if_pos hq, get?_eq_some, get?_eq_some, filter, List.mem_filter, and_assoc]
    exact and_congr_right fun _ => ⟨fun h => h.2, fun h => ⟨by rwa [h], h⟩⟩
  · rw [if_neg hq, get?_eq_some, filter, List.mem_filter]
    constructor
    · rintro ⟨⟨-, hf⟩, rfl⟩
      exact absurd hf hq
    · intro h
      cases h

/-- The last of several files put under a path wins; under other paths nothing changes. -/
theorem get?_putAll (s : Snapshot) (fs : List File) (p : Text) :
    (s.putAll fs).get? p = (fs.reverse.find? fun f => f.path = p).or (s.get? p) := by
  induction fs generalizing s with
  | nil => rfl
  | cons f fs ih =>
    rw [putAll, List.foldl_cons, ← putAll, ih, get?_put, List.reverse_cons, List.find?_append,
      Option.or_assoc]
    by_cases hp : f.path = p <;> simp [hp]

theorem get?_ofFiles (fs : List File) (p : Text) :
    (ofFiles fs).get? p = fs.reverse.find? fun f => f.path = p := by
  rw [ofFiles, get?_putAll, get?_empty, Option.or_none]

theorem mem_paths_putAll : p ∈ (s.putAll fs).paths ↔ p ∈ s.paths ∨ p ∈ fs.map File.path := by
  rw [← not_iff_not, ← get?_eq_none, get?_putAll, Option.or_eq_none_iff, get?_eq_none,
    List.find?_eq_none]
  simp only [List.mem_reverse, decide_eq_true_eq, not_or, List.mem_map, not_exists, not_and]
  exact and_comm

/-- Putting files under other paths changes nothing under a path. -/
theorem get?_putAll_of_not_mem (h : p ∉ fs.map File.path) : (s.putAll fs).get? p = s.get? p := by
  have hnone : (fs.reverse.find? fun f => f.path = p) = none := by
    rw [List.find?_eq_none]
    intro f hf
    simpa using fun e => h (List.mem_map.2 ⟨f, List.mem_reverse.1 hf, e⟩)
  rw [get?_putAll, hnone, Option.none_or]

theorem mem_putAll (h : f ∈ (s.putAll fs).files) : f ∈ s.files ∨ f ∈ fs := by
  have hget := get?_of_mem h
  rw [get?_putAll] at hget
  rcases Option.or_eq_some_iff.1 hget with hfind | ⟨-, hget⟩
  · exact Or.inr (List.mem_reverse.1 (List.mem_of_find?_eq_some hfind))
  · exact Or.inl (get?_eq_some.1 hget).1

/-- A file of a list in which no later file has its path. -/
theorem get?_ofFiles_eq_some : (ofFiles fs).get? p = some f ↔
    f.path = p ∧ ∃ before after, fs = before ++ f :: after ∧ p ∉ after.map File.path := by
  rw [get?_ofFiles, List.find?_eq_some_iff_append]
  simp only [decide_eq_true_eq]
  refine and_congr_right fun _ => ?_
  constructor
  · rintro ⟨as, bs, h, hn⟩
    refine ⟨bs.reverse, as.reverse, ?_, ?_⟩
    · rw [← List.reverse_inj, h]
      simp
    · simpa using hn
  · rintro ⟨before, after, rfl, hn⟩
    refine ⟨after.reverse, before.reverse, by simp, ?_⟩
    simpa using hn

/-! ## The files of a list of files -/

theorem files_putAll (s : Snapshot) (fs : List File)
    (h : (s.paths ++ fs.map File.path).Nodup) : (s.putAll fs).files = s.files ++ fs := by
  induction fs generalizing s with
  | nil => exact (List.append_nil _).symm
  | cons f fs ih =>
    have hf : f.path ∉ s.files.map File.path := fun hmem =>
      List.disjoint_of_nodup_append h hmem (List.mem_cons_self ..)
    have hput : (s.put f).files = s.files ++ [f] := File.put_of_not_mem hf
    rw [putAll, List.foldl_cons, ← putAll, ih, hput, List.append_assoc, List.singleton_append]
    simpa [paths, hput] using h

/-- Files under different paths are the files of their snapshot. -/
theorem files_ofFiles (h : (fs.map File.path).Nodup) : (ofFiles fs).files = fs := by
  rw [ofFiles, files_putAll empty fs (by simpa [paths, empty] using h)]
  rfl

/-- Of files under different paths that are put, each is found under its path. -/
theorem get?_putAll_of_mem (s : Snapshot) (hnodup : (fs.map File.path).Nodup) (hf : f ∈ fs) :
    (s.putAll fs).get? f.path = some f := by
  have hfind : (fs.reverse.find? fun g => g.path = f.path) = some f := by
    rw [← get?_ofFiles]
    exact get?_of_mem (by rwa [files_ofFiles hnodup])
  rw [get?_putAll, hfind, Option.some_or]

/-! ## Files in order -/

@[simp] theorem mem_sorted : f ∈ s.sorted ↔ f ∈ s.files := File.mem_sort

theorem pairwise_sorted (s : Snapshot) :
    s.sorted.Pairwise fun a b => Text.le a.path b.path = true := File.pairwise_sort s.files

theorem nodup_sortedPaths (s : Snapshot) : (s.sorted.map File.path).Nodup :=
  ((File.sort_perm s.files).map File.path).nodup_iff.2 s.nodup

/-- Files in order, each changed under its path, are the snapshot with its files changed. -/
theorem get?_ofFiles_map_sorted (s : Snapshot) {g : File → File} (hg : ∀ f, (g f).path = f.path)
    (p : Text) : (ofFiles (s.sorted.map g)).get? p = (s.get? p).map g := by
  have hpaths : (s.sorted.map g).map File.path = s.sorted.map File.path := by
    rw [List.map_map]
    exact List.map_congr_left fun f _ => hg f
  have hnodup : ((s.sorted.map g).map File.path).Nodup := hpaths ▸ s.nodup_sortedPaths
  rw [Option.ext_iff]
  intro f
  rw [get?_eq_some, files_ofFiles hnodup, List.mem_map, Option.map_eq_some_iff]
  constructor
  · rintro ⟨⟨f', hf', rfl⟩, hp⟩
    exact ⟨f', get?_eq_some.2 ⟨mem_sorted.1 hf', (hg f').symm.trans hp⟩, rfl⟩
  · rintro ⟨f', hf', rfl⟩
    obtain ⟨hmem, hp⟩ := get?_eq_some.1 hf'
    exact ⟨⟨f', mem_sorted.2 hmem, rfl⟩, (hg f').trans hp⟩

/-- Files in order are the snapshot that they come from. -/
theorem get?_ofFiles_sorted (s : Snapshot) (p : Text) : (ofFiles s.sorted).get? p = s.get? p := by
  have hmap := get?_ofFiles_map_sorted s (g := id) (fun _ => rfl) p
  rwa [List.map_id, Option.map_id, id_eq] at hmap

/-- Two ordered lists of files with the same members, each path once, are the same. -/
theorem eq_of_mem_iff {as bs : List File}
    (ha : as.Pairwise fun a b => Text.le a.path b.path = true)
    (hb : bs.Pairwise fun a b => Text.le a.path b.path = true)
    (hna : (as.map File.path).Nodup) (hnb : (bs.map File.path).Nodup)
    (h : ∀ f, f ∈ as ↔ f ∈ bs) : as = bs := by
  have hperm : as.Perm bs := (List.perm_ext_iff_of_nodup (List.Nodup.of_map _ hna)
    (List.Nodup.of_map _ hnb)).2 h
  refine hperm.eq_of_pairwise ?_ ha hb
  intro a b hmem hmem' hab hba
  exact List.inj_on_of_nodup_map hnb ((h a).1 hmem) hmem' (Text.le_antisymm hab hba)

theorem sorted_filter (s : Snapshot) (q : File → Bool) :
    (s.filter q).sorted = s.sorted.filter q := by
  refine eq_of_mem_iff (pairwise_sorted _) (s.pairwise_sorted.filter q) (nodup_sortedPaths _)
    (s.nodup_sortedPaths.sublist (List.filter_sublist.map File.path)) fun f => ?_
  rw [mem_sorted, filter, List.mem_filter, List.mem_filter, mem_sorted]

/-- Snapshots with the same file under each path are the same in order. -/
theorem sorted_eq_of_get? (h : ∀ p, s.get? p = t.get? p) : s.sorted = t.sorted := by
  refine eq_of_mem_iff s.pairwise_sorted t.pairwise_sorted s.nodup_sortedPaths
    t.nodup_sortedPaths fun f => ?_
  rw [mem_sorted, mem_sorted]
  constructor
  · intro hf
    exact (get?_eq_some.1 ((h f.path).symm.trans (get?_of_mem hf))).1
  · intro hf
    exact (get?_eq_some.1 ((h f.path).trans (get?_of_mem hf))).1

end Snapshot

end Decouple
