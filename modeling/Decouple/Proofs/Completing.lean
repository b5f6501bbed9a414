import Decouple.Proofs.Scoring

/-!
# Completing files again

Replacement modules are source files themselves, and so is their index: what is generated could ask
for hooks in its turn.  It does not.  Whatever compat folder the settings name, everything generated
lies in it, and the files of this folder are not asked (`needed_complete`).  So the completed files
need the hooks that the files needed before, each of them has its module by then, and completing
them once more generates nothing (`complete_again`).
-/

namespace Decouple

/-- Joined parts with one more separator are the parts with a separator behind each. -/
theorem Text.join_append_sep (sep : Text) {parts : List Text} (hne : parts ≠ []) :
    join sep parts ++ sep = parts.flatMap (· ++ sep) := by
  induction parts with
  | nil => exact absurd rfl hne
  | cons part parts ih =>
    by_cases hparts : parts = []
    · subst hparts
      exact (List.append_nil _).symm
    · rw [join_cons sep part hparts, List.append_assoc, ih hparts, List.flatMap_cons]

namespace Polyfill

variable {s : Settings} {files : Snapshot} {f : File} {h : Hook} {hooks : List Hook}

/-! ## What is generated needs no hooks -/

theorem mayNeed_of_inFolder (hp : Text.startsWith f.path (folder s ++ "/") = true) :
    mayNeed s f = false := by
  simp [mayNeed, hp]

theorem startsWith_modulePath (s : Settings) (h : Hook) :
    Text.startsWith (modulePath s h) (folder s ++ "/") = true := by
  rw [modulePath, List.append_assoc, Text.startsWith, List.isPrefixOf_iff_prefix]
  exact List.prefix_append ..

theorem startsWith_indexPath (s : Settings) :
    Text.startsWith (indexPath s) (folder s ++ "/") = true := by
  have hname : ("/index.ts" : Text) = "/" ++ "index.ts" := rfl
  rw [indexPath, hname, ← List.append_assoc, Text.startsWith, List.isPrefixOf_iff_prefix]
  exact List.prefix_append ..

theorem mayNeed_of_isGenerated (hf : IsGenerated s f) : mayNeed s f = false := by
  rcases hf with ⟨h, -, rfl⟩ | ⟨hooks, -, rfl⟩
  · exact mayNeed_of_inFolder (startsWith_modulePath s h)
  · exact mayNeed_of_inFolder (startsWith_indexPath s)

/-- Completing files changes nothing about the hooks that they need. -/
theorem needed_complete (s : Settings) (files : Snapshot) :
    needed s (complete s files).1 = needed s files := by
  obtain ⟨generated, hfiles, hgenerated⟩ := files_complete s files
  refine List.filter_congr fun h _ => ?_
  have hnone : (generated.any fun f => mayNeed s f && textNeeds s f.content.asText h) = false := by
    rw [List.any_eq_false]
    intro f hf
    simp [mayNeed_of_isGenerated (hgenerated f hf)]
  rw [hfiles, List.any_append, hnone, Bool.or_false]

/-! ## Nothing is missing afterwards -/

/-- Each hook that files need has its module in the completed files. -/
theorem contains_of_needed (hn : h ∈ needed s files) :
    (complete s files).1.contains (modulePath s h) = true := by
  obtain ⟨hcatalog, hneeds⟩ := mem_needed.1 hn
  exact (contains_complete_iff hcatalog).2 (.inr hneeds)

theorem missing_complete (s : Settings) (files : Snapshot) :
    missing s (complete s files).1 = [] := by
  rw [missing, List.map_eq_nil_iff, List.filter_eq_nil_iff]
  intro h hn
  rw [needed_complete] at hn
  simp [contains_of_needed hn]

/-- Completing completed files generates nothing. -/
theorem complete_again (s : Settings) (files : Snapshot) :
    complete s (complete s files).1 = ((complete s files).1, []) := by
  have hnone : (missing s (complete s files).1).isEmpty = true :=
    List.isEmpty_iff.2 (missing_complete s files)
  rw [complete, if_pos hnone]

/-! ## The index -/

/-- The line of the index for the module of a hook, with its line feed. -/
def exportOf (h : Hook) : Text := "export * from './" ++ h.name ++ "';\n"

theorem exportLine_ofHook (hh : h ∈ Hook.catalog) :
    exportLine (ofHook s h) ++ "\n" = exportOf h := by
  have hslash : ∀ h ∈ Hook.catalog, ('/' : CodePoint) ∉ h.name ++ ".ts" := by decide
  have hname : ∀ h ∈ Hook.catalog, Text.dropEnd? ".ts" (h.name ++ ".ts") = some h.name := by
    decide
  have hpath : modulePath s h = folder s ++ ('/' : CodePoint) :: (h.name ++ ".ts") := by
    rw [modulePath, List.append_assoc, List.append_assoc]
    rfl
  have hfile : Text.afterLast '/' (modulePath s h) = h.name ++ ".ts" := by
    rw [hpath, Text.afterLast_append (hslash h hh)]
  have hend : ("';\n" : Text) = "';" ++ "\n" := rfl
  rw [exportLine, ofHook, hfile, hname h hh, Option.getD_some, exportOf, hend, List.append_assoc]

/-- The index has one line for each module, in the order of the modules. -/
theorem index_eq (hne : hooks ≠ []) (hcatalog : ∀ h ∈ hooks, h ∈ Hook.catalog) :
    index (hooks.map (ofHook s)) = hooks.flatMap exportOf := by
  have hlines : (hooks.map (ofHook s)).map exportLine ≠ [] := by simpa using hne
  rw [index, Text.join_append_sep "\n" hlines, List.map_map, List.flatMap_map]
  exact List.flatMap_congr fun h hh => exportLine_ofHook (hcatalog h hh)

/-! ## A completion as a whole -/

/-- The module of a hook as a file. -/
def moduleFile (s : Settings) (h : Hook) : File := ⟨modulePath s h, .text h.content⟩

/-- The index of the modules of some hooks as a file. -/
def indexFile (s : Settings) (hooks : List Hook) : File :=
  ⟨indexPath s, .text (hooks.flatMap exportOf)⟩

/-- What is generated for some hooks: their modules, and an index of these modules if there is a
module and files have no index yet. -/
def generated (s : Settings) (files : Snapshot) (hooks : List Hook) : List File :=
  hooks.map (moduleFile s) ++
    if hooks = [] ∨ indexPath s ∈ files.paths then [] else [indexFile s hooks]

/-- Files that are completed with the modules of some hooks. -/
structure IsCompletion (s : Settings) (files completed : Snapshot) (hooks : List Hook) : Prop where
  /-- The modules come in the order of the catalog. -/
  inOrder : hooks.Sublist Hook.catalog
  /-- They are the modules that the files need and do not have. -/
  mem_iff : ∀ h, h ∈ hooks ↔ h ∈ needed s files ∧ modulePath s h ∉ files.paths
  /-- The files stay, and behind them comes what is generated. -/
  files_eq : completed.files = files.files ++ generated s files hooks
  /-- What was under a path is still there. -/
  keeps : ∀ p f, files.get? p = some f → completed.get? p = some f
  /-- No module is missing that the completed files need. -/
  closed : ∀ h ∈ needed s completed, modulePath s h ∈ completed.paths

/-- The modules and the index that are added are those that are generated. -/
theorem added_eq_generated (hne : hooks ≠ []) (hcatalog : ∀ h ∈ hooks, h ∈ Hook.catalog) :
    added s files (hooks.map (ofHook s)) = generated s files hooks := by
  have hmodules : (hooks.map (ofHook s)).map (fun p => (⟨p.path, .text p.content⟩ : File)) =
      hooks.map (moduleFile s) := by
    rw [List.map_map]
    rfl
  rw [added, generated, hmodules, index_eq hne hcatalog]
  by_cases hindex : indexPath s ∈ files.paths
  · rw [if_pos (Snapshot.contains_iff.2 hindex), if_pos (.inr hindex), List.append_nil]
  · rw [if_neg (mt Snapshot.contains_iff.1 hindex), if_neg (by simp [hne, hindex]), indexFile]

/-- The hooks that files need and have no module of. -/
def missingHooks (s : Settings) (files : Snapshot) : List Hook :=
  (needed s files).filter fun h => !files.contains (modulePath s h)

theorem mem_missingHooks :
    h ∈ missingHooks s files ↔ h ∈ needed s files ∧ modulePath s h ∉ files.paths := by
  rw [missingHooks, List.mem_filter, Bool.not_eq_true', ← Bool.not_eq_true, Snapshot.contains_iff]

theorem missingHooks_sublist (s : Settings) (files : Snapshot) :
    (missingHooks s files).Sublist Hook.catalog :=
  List.filter_sublist.trans List.filter_sublist

theorem complete_snd (s : Settings) (files : Snapshot) :
    (complete s files).2 = (missingHooks s files).map (ofHook s) := by
  have hmissing : missing s files = (missingHooks s files).map (ofHook s) := rfl
  rw [complete, hmissing]
  split
  · next hnone => exact (List.isEmpty_iff.1 hnone).symm
  · rfl

theorem complete_files (s : Settings) (files : Snapshot) :
    (complete s files).1.files = files.files ++ generated s files (missingHooks s files) := by
  have hmissing : missing s files = (missingHooks s files).map (ofHook s) := rfl
  have hcatalog := (missingHooks_sublist s files).subset
  rw [complete, hmissing]
  split
  · next hnone =>
    rw [List.isEmpty_iff, List.map_eq_nil_iff] at hnone
    simp [hnone, generated]
  · next hsome =>
    rw [List.isEmpty_iff, List.map_eq_nil_iff] at hsome
    have hnew : ∀ h ∈ missingHooks s files, files.contains (modulePath s h) = false := by
      intro h hh
      rw [← Bool.not_eq_true, Snapshot.contains_iff]
      exact (mem_missingHooks.1 hh).2
    rw [Snapshot.files_putAll files _ (nodup_added (missingHooks_sublist s files) hnew),
      added_eq_generated hsome fun h hh => hcatalog hh]

/-- Completing files keeps them, adds the modules that they need and do not have, with an index of
these if there is none, leaves no needed module missing, and is done after one time. -/
theorem complete_isCompletion (s : Settings) (files : Snapshot) : ∃ hooks,
    (complete s files).2 = hooks.map (ofHook s) ∧
      IsCompletion s files (complete s files).1 hooks ∧
      complete s (complete s files).1 = ((complete s files).1, []) := by
  refine ⟨missingHooks s files, complete_snd s files, ?_, complete_again s files⟩
  refine
    { inOrder := missingHooks_sublist s files
      mem_iff := fun _ => mem_missingHooks
      files_eq := complete_files s files
      keeps := fun _ _ => get?_complete
      closed := fun h hn => ?_ }
  rw [needed_complete] at hn
  exact Snapshot.contains_iff.1 (contains_of_needed hn)

end Polyfill

end Decouple
