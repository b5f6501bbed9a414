import Decouple.Polyfill
import Decouple.Proofs.Analyses
import Decouple.Proofs.Cleaning

/-!
# Which hooks a cleaned project has

Replacement modules are added after the cleaning, for the hooks that the *cleaned* source files
still need.  An import that is led to a replacement module goes on mentioning it, so its hook is
there in the end.  An import that is left out takes the name of its hook with it: the cleaned text
no longer says what it needs, and the hook is there only if another file asks for it.

The exact condition reads the cleaned texts (`contains_modulePath_iff`).  A project that loses its
only import of a hook shows that what is imported before the cleaning does not decide.
-/

namespace Decouple

namespace Polyfill

variable {s : Settings} {snapshot files : Snapshot} {h : Hook} {p : Text}

/-! ## Paths of modules -/

theorem modulePath_inj {h h' : Hook} (hp : modulePath s h = modulePath s h') : h.name = h'.name := by
  simpa [modulePath] using hp

/-- Hooks of the catalog have different names, and none is called like the index. -/
theorem eq_of_modulePath_eq {h' : Hook} (hh : h ∈ Hook.catalog) (hh' : h' ∈ Hook.catalog)
    (hp : modulePath s h = modulePath s h') : h = h' := by
  have hnames : (Hook.catalog.map Hook.name).Nodup := by decide
  exact List.inj_on_of_nodup_map hnames hh hh' (modulePath_inj hp)

theorem modulePath_ne_indexPath (hh : h ∈ Hook.catalog) : modulePath s h ≠ indexPath s := by
  intro hp
  have hsplit : ("/index.ts" : Text) = "/" ++ "index.ts" := rfl
  have hname : h.name ++ ".ts" = ("index.ts" : Text) := by
    rw [modulePath, indexPath, hsplit, List.append_assoc, List.append_assoc] at hp
    exact List.append_cancel_left (List.append_cancel_left hp)
  have hall : ∀ h ∈ Hook.catalog, h.name ++ ".ts" ≠ ("index.ts" : Text) := by decide
  exact hall h hh hname

theorem useToast_mem : Hook.useToast ∈ Hook.catalog :=
  List.mem_cons_of_mem _ (List.mem_cons_self ..)

/-! ## Adding the missing modules -/

theorem mem_needed : h ∈ needed s files ↔ h ∈ Hook.catalog ∧
    ∃ f ∈ files.files, mayNeed s f = true ∧ textNeeds s f.content.asText h = true := by
  simp [needed, List.mem_filter, List.any_eq_true]

theorem mem_missing_paths : p ∈ (missing s files).map Polyfill.path ↔
    ∃ h ∈ needed s files, files.contains p = false ∧ modulePath s h = p := by
  simp only [missing, List.map_map, List.mem_map, List.mem_filter, Function.comp_apply, ofHook,
    Bool.not_eq_true']
  constructor
  · rintro ⟨h, ⟨hn, hc⟩, rfl⟩
    exact ⟨h, hn, hc, rfl⟩
  · rintro ⟨h, hn, hc, rfl⟩
    exact ⟨h, ⟨hn, hc⟩, rfl⟩

theorem isText_of_mem_added {ps : List Polyfill} {f : File} (h : f ∈ added s files ps) :
    f.content.isText = true := by
  have hmodules : f ∈ ps.map (fun p => (⟨p.path, .text p.content⟩ : File)) ∨
      f = ⟨indexPath s, .text (index ps)⟩ := by
    unfold added at h
    dsimp only at h
    split at h
    · exact Or.inl h
    · simpa using h
  rcases hmodules with h | rfl
  · obtain ⟨p, -, rfl⟩ := List.mem_map.1 h
    rfl
  · rfl

/-- Only modules and the index are added. -/
theorem mem_added_paths {ps : List Polyfill} : p ∈ (added s files ps).map File.path ↔
    p ∈ ps.map Polyfill.path ∨ files.contains (indexPath s) = false ∧ p = indexPath s := by
  cases hi : files.contains (indexPath s) <;> simp [added, hi]

theorem mem_paths_complete : p ∈ (complete s files).1.paths ↔
    p ∈ files.paths ∨ p ∈ (missing s files).map Polyfill.path ∨
      missing s files ≠ [] ∧ p = indexPath s := by
  unfold complete
  dsimp only
  split
  · next he =>
    rw [List.isEmpty_iff.1 he]
    simp
  · next he =>
    have hne : missing s files ≠ [] := fun h => he (List.isEmpty_iff.2 h)
    rw [Snapshot.mem_paths_putAll, mem_added_paths]
    by_cases hi : p = indexPath s
    · subst hi
      cases hc : files.contains (indexPath s)
      · simp [hne]
      · simp [Snapshot.contains_iff.1 hc]
    · simp [hi]

/-- A file that is there is kept. -/
theorem get?_complete {f : File} (h : files.get? p = some f) :
    (complete s files).1.get? p = some f := by
  have hp : files.contains p = true := by rw [Snapshot.contains, h]; rfl
  unfold complete
  dsimp only
  split
  · exact h
  · rw [Snapshot.get?_putAll_of_not_mem, h]
    rw [mem_added_paths, mem_missing_paths]
    rintro (⟨-, -, hc, -⟩ | ⟨hc, rfl⟩)
    · rw [hp] at hc
      cases hc
    · rw [hp] at hc
      cases hc

/-- What is added is text under the path of a module or of the index. -/
theorem mem_complete {f : File} (h : f ∈ (complete s files).1.files) :
    f ∈ files.files ∨ f.content.isText = true ∧
      ((∃ h ∈ Hook.catalog, f.path = modulePath s h) ∨ f.path = indexPath s) := by
  unfold complete at h
  dsimp only at h
  split at h
  · exact Or.inl h
  · rcases Snapshot.mem_putAll h with h | h
    · exact Or.inl h
    · refine Or.inr ⟨?_, ?_⟩
      · exact isText_of_mem_added h
      · rcases mem_added_paths.1 (List.mem_map_of_mem h) with hp | ⟨-, hp⟩
        · obtain ⟨h, hn, -, hp⟩ := mem_missing_paths.1 hp
          exact Or.inl ⟨h, (mem_needed.1 hn).1, hp.symm⟩
        · exact Or.inr hp

/-- The module of a hook is there in the end if it was there or if a file needs it. -/
theorem contains_complete_iff (hh : h ∈ Hook.catalog) :
    (complete s files).1.contains (modulePath s h) = true ↔
      files.contains (modulePath s h) = true ∨
        ∃ f ∈ files.files, mayNeed s f = true ∧ textNeeds s f.content.asText h = true := by
  rw [Snapshot.contains_iff, mem_paths_complete, ← Snapshot.contains_iff, mem_missing_paths]
  constructor
  · rintro (hc | ⟨h', hn, -, hp⟩ | ⟨-, hp⟩)
    · exact Or.inl hc
    · rw [mem_needed] at hn
      rw [eq_of_modulePath_eq hn.1 hh hp] at hn
      exact Or.inr hn.2
    · exact absurd hp (modulePath_ne_indexPath hh)
  · rintro (hc | hneed)
    · exact Or.inl hc
    · cases hc : files.contains (modulePath s h) with
      | true => exact Or.inl rfl
      | false => exact Or.inr (Or.inl ⟨h, mem_needed.2 ⟨hh, hneed⟩, rfl, rfl⟩)

end Polyfill

namespace Cleaning

variable {s : Settings} {snapshot : Snapshot} {listed : List Text} {c : Cleaning}

/-! ## Source files after the cleaning -/

/-- Text of a source file is rewritten as such. -/
theorem rewriteFile_source {f : File} (ht : f.content.isText = true)
    (hr : FileRole.ofPath f.path = .source) :
    rewriteFile s f = .ok
      { path := f.path
        content := .text (Rewrite.source s f.content.asText).content
        notes := (Rewrite.source s f.content.asText).notes } := by
  obtain ⟨path, content⟩ := f
  cases content with
  | bytes b => cases ht
  | text t =>
    dsimp only at hr
    unfold rewriteFile Rewrite.file
    dsimp only [Content.asText]
    rw [hr]
    rfl

/-- Without a service the outcomes are the rewrites by rule. -/
theorem run_rewrites (h : run s snapshot listed none = .ok c) :
    List.Forall₂ (fun f o => rewriteFile s f = .ok o) (survivors s snapshot listed) c.outcomes := by
  obtain ⟨rewritten, hr, hc⟩ := run_eq_ok h
  rw [hc]
  exact Step.mapM_eq_ok.1 hr

/-- After an analysis the files that stay are those of no platform. -/
theorem mem_survivors_of_analysis {a : Analysis} (ha : Analysis.ofSnapshot s snapshot = .ok a)
    {f : File} : f ∈ survivors s snapshot a.filesToRemove ↔
      f ∈ snapshot.files ∧ s.removesPath f.path = false := by
  rw [mem_survivors, Analysis.mem_filesToRemove ha]
  refine and_congr_right fun hf => ?_
  have hp : f.path ∈ snapshot.paths := List.mem_map_of_mem hf
  cases s.removesPath f.path <;> simp [hp]

end Cleaning

namespace Polyfill

variable {s : Settings} {snapshot files : Snapshot} {h : Hook}

/-- A project cleaned by rule, with replacement modules. -/
def completed? (s : Settings) (snapshot : Snapshot) : Option Snapshot := do
  let a ← (Analysis.ofSnapshot s snapshot).toOption
  let c ← (Cleaning.run s snapshot a.filesToRemove none).toOption
  some (complete s c.files).1

theorem completed?_eq_some (hc : completed? s snapshot = some files) :
    ∃ a c, Analysis.ofSnapshot s snapshot = .ok a ∧
      Cleaning.run s snapshot a.filesToRemove none = .ok c ∧ files = (complete s c.files).1 := by
  obtain ⟨a, ha, hc⟩ := Option.bind_eq_some_iff.1 hc
  obtain ⟨c, hr, hc⟩ := Option.bind_eq_some_iff.1 hc
  exact ⟨a, c, Step.toOption_eq_some.1 ha, Step.toOption_eq_some.1 hr, (Option.some.inj hc).symm⟩

/-- Cleaning decides nothing about whether a file may need hooks. -/
theorem mayNeed_eq {f g : File} (hp : g.path = f.path) (hk : g.content.isText = f.content.isText) :
    mayNeed s g = mayNeed s f := by
  rw [mayNeed, mayNeed, hp, hk]

theorem mayNeed_source {f : File} (hf : mayNeed s f = true) :
    f.content.isText = true ∧ FileRole.ofPath f.path = .source := by
  simp only [mayNeed, Bool.and_eq_true, decide_eq_true_eq] at hf
  exact ⟨hf.1.1, hf.2⟩

/-- A hook's module is in the cleaned project exactly if it was in the project, in no platform's
folder, or if a source file that stays needs the hook after its rewrite. -/
theorem contains_modulePath_iff (hc : completed? s snapshot = some files) (hh : h ∈ Hook.catalog) :
    files.contains (modulePath s h) = true ↔
      (∃ f ∈ snapshot.files, s.removesPath f.path = false ∧ f.path = modulePath s h) ∨
        ∃ f ∈ snapshot.files, s.removesPath f.path = false ∧ mayNeed s f = true ∧
          textNeeds s (Rewrite.source s f.content.asText).content h = true := by
  obtain ⟨a, c, ha, hrun, rfl⟩ := completed?_eq_some hc
  rw [contains_complete_iff hh]
  refine or_congr ?_ ?_
  · rw [Snapshot.contains_iff, Snapshot.paths, Cleaning.files_files hrun, List.map_map]
    have hpaths := Cleaning.outcome_paths hrun
    rw [show (File.path ∘ fun o : Outcome => (⟨o.path, o.content⟩ : File)) = Outcome.path
      from rfl, hpaths, List.mem_map]
    simp only [Cleaning.mem_survivors_of_analysis ha, and_assoc]
  · have hrewrites := Cleaning.run_rewrites hrun
    rw [Cleaning.files_files hrun]
    constructor
    · rintro ⟨g, hg, hmay, hneeds⟩
      obtain ⟨o, ho, rfl⟩ := List.mem_map.1 hg
      obtain ⟨f, hf, hfo⟩ := Related.exists_left hrewrites ho
      have htreated := Cleaning.treated_rewriteFile hfo
      have hmay' : mayNeed s f = true := (mayNeed_eq htreated.path htreated.kind).symm.trans hmay
      obtain ⟨ht, hr⟩ := mayNeed_source hmay'
      rw [Cleaning.rewriteFile_source ht hr] at hfo
      rw [← Except.ok.inj hfo] at hneeds
      obtain ⟨hmem, hstays⟩ := (Cleaning.mem_survivors_of_analysis ha).1 hf
      exact ⟨f, hmem, hstays, hmay', hneeds⟩
    · rintro ⟨f, hmem, hstays, hmay, hneeds⟩
      obtain ⟨o, ho, hfo⟩ := Related.exists_right hrewrites
        ((Cleaning.mem_survivors_of_analysis ha).2 ⟨hmem, hstays⟩)
      have htreated := Cleaning.treated_rewriteFile hfo
      obtain ⟨ht, hr⟩ := mayNeed_source hmay
      refine ⟨⟨o.path, o.content⟩, List.mem_map_of_mem ho, ?_, ?_⟩
      · exact (mayNeed_eq htreated.path htreated.kind).trans hmay
      · rw [Cleaning.rewriteFile_source ht hr] at hfo
        rw [← Except.ok.inj hfo]
        exact hneeds

/-- A project whose source file imports `useToast` from a module that has a replacement. -/
def mappedImport : Snapshot :=
  Snapshot.ofFiles [⟨"src/App.tsx", .text
    "import \x7b useToast \x7d from \"@lovable/hooks/use-toast\";\nuseToast();\n"⟩]

theorem contains_modulePath_mapped : ∃ files, completed? {} mappedImport = some files ∧
    Hook.useToast ∈ Hook.catalog ∧ files.contains "src/lib/compat/use-toast.ts" = true := by
  obtain ⟨files, hc⟩ : ∃ files, completed? {} mappedImport = some files :=
    Option.isSome_iff_exists.1 (by decide +kernel)
  have hneeds : ∃ f ∈ mappedImport.files, Settings.removesPath {} f.path = false ∧
      mayNeed {} f = true ∧
      textNeeds {} (Rewrite.source {} f.content.asText).content Hook.useToast = true := by
    decide +kernel
  exact ⟨files, hc, useToast_mem,
    (contains_modulePath_iff hc useToast_mem).2 (Or.inr hneeds)⟩

/-- Whether a file that stays in the project imports the function of a hook from a platform. -/
def ImportsHook (s : Settings) (f : File) (h : Hook) : Prop :=
  s.removesPath f.path = false ∧ mayNeed s f = true ∧
    (platformNames s f.content.asText).contains h.function = true

instance (s : Settings) (f : File) (h : Hook) : Decidable (ImportsHook s f h) :=
  inferInstanceAs (Decidable (_ ∧ _))

/-- A project whose source file imports `useToast` from a module that has no replacement. -/
def unmappedImport : Snapshot :=
  Snapshot.ofFiles [⟨"a.ts", .text
    "import \x7b useToast \x7d from \"@lovable/ui\";\nuseToast();\n"⟩]

/-- An import before the cleaning does not bring the module of its hook: where the import is left
out, the call stays and the module is missing. -/
theorem not_forall_importsHook_contains : ¬∀ (snapshot files : Snapshot) (f : File) (h : Hook),
    completed? {} snapshot = some files → f ∈ snapshot.files → h ∈ Hook.catalog →
      ImportsHook {} f h → files.contains (modulePath {} h) = true := by
  intro hall
  have hmissing : (completed? {} unmappedImport).map
      (·.contains (modulePath {} Hook.useToast)) = some false := by decide +kernel
  obtain ⟨files, hc, hfalse⟩ := Option.map_eq_some_iff.1 hmissing
  obtain ⟨f, hf, himports⟩ : ∃ f ∈ unmappedImport.files, ImportsHook {} f Hook.useToast := by
    decide +kernel
  have htrue := hall unmappedImport files f Hook.useToast hc hf useToast_mem himports
  rw [hfalse] at htrue
  cases htrue

end Polyfill

end Decouple
