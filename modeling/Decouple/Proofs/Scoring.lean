import Decouple.Proofs.Agreement.Manifests
import Decouple.Proofs.FileByFile
import Decouple.Proofs.Hooks

/-!
# What cleaning does to the score

Cleaning takes each file by itself, and so does the analysis; so what a cleaning does to the score is
the sum of what it does to the cost of each file.  A file that is removed costs nothing any more, nor
does a rewritten manifest, and a file that the rewrite leaves alone costs what it did.  Replacement
modules cost nothing.  There remain the code files that the rewrite changes, and the score is no
worse exactly when these do not eat up what has been gained (`score_not_worse_iff`).

They can: what one step of a rewrite leaves behind no earlier step looks at again.  A comment marker
before an import hides it from the import rules, and is gone afterwards.
-/

namespace Decouple

namespace Cleaning

open Analysis (Readable shownBy)

variable {s : Settings} {snapshot : Snapshot} {listed : List Text} {c : Cleaning} {f : File}

/-! ## The rewrite of each file -/

/-- What the rewrite by rule makes of a file; one that has no rewrite stays as it is. -/
def outcomeOf (s : Settings) (f : File) : Outcome :=
  (rewriteFile s f).toOption.getD { path := f.path, content := f.content }

/-- The file after its rewrite by rule. -/
def cleanedFile (s : Settings) (f : File) : File := ⟨f.path, (outcomeOf s f).content⟩

theorem outcomeOf_eq {o : Outcome} (h : rewriteFile s f = .ok o) : outcomeOf s f = o := by
  rw [outcomeOf, h]
  rfl

/-- A file that its rewrite does not change is the file that it was. -/
theorem cleanedFile_of_unchanged (h : (outcomeOf s f).changed = false) : cleanedFile s f = f := by
  unfold cleanedFile
  cases hr : rewriteFile s f with
  | error e => simp [outcomeOf, hr, Except.toOption]
  | ok o =>
    rw [outcomeOf_eq hr] at h ⊢
    rw [(treated_rewriteFile hr).unchanged h]

/-- A cleaning by rule goes well exactly when each file that stays has a rewrite. -/
theorem run_isOk_iff : (run s snapshot listed none).isOk = true ↔
    ∀ f ∈ survivors s snapshot listed, (rewriteFile s f).isOk = true := by
  rw [← Step.isOk_mapM]
  unfold run survivors rewriteFiles
  dsimp only
  cases (snapshot.without (pathsToRemove s snapshot listed)).sorted.mapM (rewriteFile s) <;> rfl

/-- The files of a cleaning by rule are the files that stay, each after its rewrite. -/
theorem run_files (h : run s snapshot listed none = .ok c) :
    c.files.files = (survivors s snapshot listed).map (cleanedFile s) := by
  rw [files_files h]
  refine Related.map_eq_map (run_rewrites h) fun f o hfo => ?_
  rw [cleanedFile, outcomeOf_eq hfo, (treated_rewriteFile hfo).path]

/-- After an analysis the files that stay are those under no path of a platform. -/
theorem survivors_of_analysis {a : Analysis} (ha : Analysis.ofSnapshot s snapshot = .ok a) :
    survivors s snapshot a.filesToRemove =
      snapshot.sorted.filter fun f => !s.removesPath f.path := by
  unfold survivors Snapshot.without
  rw [Snapshot.sorted_filter]
  refine List.filter_congr fun f hf => ?_
  have hp : f.path ∈ snapshot.paths := List.mem_map_of_mem (Snapshot.mem_sorted.1 hf)
  rw [Bool.not_inj_iff, Bool.eq_iff_iff, List.contains_iff_mem, mem_pathsToRemove,
    Analysis.mem_filesToRemove ha]
  simp [hp]

/-! ## What files cost -/

/-- What a file costs. -/
def costOf (s : Settings) (f : File) : Int := (shownBy s f).cost s.weights

/-- A file can be analysed and costs nothing. -/
def IsFree (s : Settings) (f : File) : Prop :=
  Analysis.validPath f.path = true ∧
    (FileAnalysis.ofFile s f).toOption.map (·.cost s.weights) = some 0

instance (s : Settings) (f : File) : Decidable (IsFree s f) :=
  inferInstanceAs (Decidable (_ ∧ _))

theorem IsFree.costOf_eq (h : IsFree s f) : Readable s f ∧ costOf s f = 0 := by
  obtain ⟨fa, hfa, hcost⟩ := Option.map_eq_some_iff.1 h.2
  have hok := Step.toOption_eq_some.1 hfa
  refine ⟨⟨h.1, by rw [hok]; rfl⟩, ?_⟩
  rw [costOf, shownBy, hfa]
  exact hcost

/-- A rewritten manifest costs nothing. -/
theorem costOf_cleaned_manifest (hstays : s.removesPath f.path = false)
    (hr : (rewriteFile s f).isOk = true) (hchanged : (outcomeOf s f).changed = true)
    (hrole : FileRole.ofPath f.path = .manifest) : costOf s (cleanedFile s f) = 0 := by
  obtain ⟨o, ho⟩ := Step.exists_of_isOk hr
  rw [outcomeOf_eq ho] at hchanged
  have hclean : cleanedFile s f = ⟨f.path, o.content⟩ := by rw [cleanedFile, outcomeOf_eq ho]
  unfold rewriteFile at ho
  split at ho
  · rw [← Except.ok.inj ho] at hchanged
    cases hchanged
  · next t ht =>
    obtain ⟨r, hrewrite, rfl⟩ := Step.map_eq_ok.1 ho
    have hmanifest : Rewrite.manifest s f.path t = .ok r := by
      rwa [Rewrite.file, hrole] at hrewrite
    obtain ⟨fa, hfa, hsignals⟩ := Rewrite.ofManifest_rewritten hmanifest
    have howner : s.pathOwner? f.path = none := by
      simpa [Settings.removesPath] using hstays
    have hfile : FileAnalysis.ofFile s (cleanedFile s f) = .ok fa := by
      rw [hclean, FileAnalysis.ofFile, howner]
      dsimp only
      rw [FileAnalysis.ofText, hrole]
      exact hfa
    rw [costOf, shownBy, hfile]
    simp [Except.toOption, FileAnalysis.cost, hsignals, FileAnalysis.ofManifest_removedFor hfa]

/-- What the files cost that a cleaning removes or changes. -/
def costOfTouched (s : Settings) (fs : List File) : Int :=
  ((fs.filter fun f => s.removesPath f.path || (outcomeOf s f).changed).map (costOf s)).sum

/-- What the code files cost that a cleaning changes, after it. -/
def costOfRewritten (s : Settings) (fs : List File) : Int :=
  ((fs.filter fun f => !s.removesPath f.path && (outcomeOf s f).changed &&
    !decide (FileRole.ofPath f.path = .manifest)).map fun f => costOf s (cleanedFile s f)).sum

/-- What files cost after a cleaning differs from what they cost before by what the touched files
cost and by what the rewritten ones do. -/
theorem sum_costOf_cleaned {fs : List File}
    (hr : ∀ f ∈ fs, s.removesPath f.path = false → (rewriteFile s f).isOk = true) :
    ((fs.filter fun f => !s.removesPath f.path).map fun f => costOf s (cleanedFile s f)).sum +
        costOfTouched s fs =
      (fs.map (costOf s)).sum + costOfRewritten s fs := by
  unfold costOfTouched costOfRewritten
  induction fs with
  | nil => rfl
  | cons f fs ih =>
    rw [List.forall_mem_cons] at hr
    have hrest := ih hr.2
    simp only [List.filter_cons, List.map_cons, List.sum_cons]
    cases hremoved : s.removesPath f.path with
    | true =>
      simp only [Bool.not_true, Bool.true_or, Bool.false_and, Bool.false_eq_true, if_true, if_false,
        List.map_cons, List.sum_cons]
      omega
    | false =>
      cases hchanged : (outcomeOf s f).changed with
      | false =>
        simp only [Bool.not_false, Bool.or_self, Bool.and_false, Bool.false_and,
          Bool.false_eq_true, if_true, if_false, List.map_cons, List.sum_cons,
          cleanedFile_of_unchanged hchanged]
        omega
      | true =>
        by_cases hrole : FileRole.ofPath f.path = .manifest
        · have hfree := costOf_cleaned_manifest hremoved (hr.1 hremoved) hchanged hrole
          simp only [hrole, Bool.not_false, Bool.or_true, Bool.and_self, decide_true, Bool.not_true,
            Bool.and_false, Bool.false_eq_true, if_true, if_false, List.map_cons, List.sum_cons,
            hfree]
          omega
        · simp only [hrole, Bool.not_false, Bool.or_true, Bool.and_self, decide_false, if_true,
            List.map_cons, List.sum_cons]
          omega

end Cleaning

namespace Polyfill

variable {s : Settings} {files : Snapshot}

/-- A file as it is generated: the module of a hook, or the index of some modules. -/
def IsGenerated (s : Settings) (f : File) : Prop :=
  (∃ h ∈ Hook.catalog, f = ⟨modulePath s h, .text h.content⟩) ∨
    ∃ hooks ∈ Hook.catalog.sublists, f = ⟨indexPath s, .text (index (hooks.map (ofHook s)))⟩

/-- The missing modules are those of some hooks of the catalog, in its order. -/
theorem exists_missing_hooks (s : Settings) (files : Snapshot) : ∃ hooks : List Hook,
    hooks.Sublist Hook.catalog ∧ missing s files = hooks.map (ofHook s) ∧
      ∀ h ∈ hooks, files.contains (modulePath s h) = false := by
  refine ⟨(needed s files).filter fun h => !files.contains (modulePath s h), ?_, rfl, ?_⟩
  · exact List.filter_sublist.trans List.filter_sublist
  · intro h hh
    simpa using (List.mem_filter.1 hh).2

theorem nodup_modulePaths {hooks : List Hook} (h : hooks.Sublist Hook.catalog) :
    (hooks.map (modulePath s)).Nodup := by
  have hcatalog : Hook.catalog.Nodup := by decide
  refine List.Nodup.map_on (fun h₁ hh₁ h₂ hh₂ hp => ?_) (hcatalog.sublist h)
  exact eq_of_modulePath_eq (h.subset hh₁) (h.subset hh₂) hp

/-- Modules of hooks and an index are added under paths of their own. -/
theorem nodup_added {hooks : List Hook} (hsub : hooks.Sublist Hook.catalog)
    (hnew : ∀ h ∈ hooks, files.contains (modulePath s h) = false) :
    (files.paths ++ (added s files (hooks.map (ofHook s))).map File.path).Nodup := by
  have hmodules : ((hooks.map (ofHook s)).map fun p => (⟨p.path, .text p.content⟩ : File)).map
      File.path = hooks.map (modulePath s) := by
    rw [List.map_map, List.map_map]
    rfl
  have hadded : ((added s files (hooks.map (ofHook s))).map File.path).Nodup := by
    unfold added
    dsimp only
    split
    · rw [hmodules]
      exact nodup_modulePaths hsub
    · rw [List.map_append, hmodules, List.map_singleton, ← List.concat_eq_append]
      refine (nodup_modulePaths hsub).concat fun hmem => ?_
      obtain ⟨h, hh, hp⟩ := List.mem_map.1 hmem
      exact modulePath_ne_indexPath (hsub.subset hh) hp
  refine List.nodup_append.2 ⟨files.nodup, hadded, fun p hp q hq hpq => ?_⟩
  have hthere : files.contains q = true := Snapshot.contains_iff.2 (hpq ▸ hp)
  rcases mem_added_paths.1 hq with hmodule | ⟨hindex, rfl⟩
  · obtain ⟨_, hpoly, rfl⟩ := List.mem_map.1 hmodule
    obtain ⟨h, hh, rfl⟩ := List.mem_map.1 hpoly
    exact absurd ((hnew h hh).symm.trans hthere) (by decide)
  · exact absurd (hindex.symm.trans hthere) (by decide)

theorem isGenerated_of_mem_added {hooks : List Hook} (hsub : hooks.Sublist Hook.catalog)
    {f : File} (hf : f ∈ added s files (hooks.map (ofHook s))) : IsGenerated s f := by
  have hmodule : ∀ g ∈ (hooks.map (ofHook s)).map fun p => (⟨p.path, .text p.content⟩ : File),
      IsGenerated s g := by
    intro g hg
    obtain ⟨_, hp, rfl⟩ := List.mem_map.1 hg
    obtain ⟨h, hh, rfl⟩ := List.mem_map.1 hp
    exact .inl ⟨h, hsub.subset hh, rfl⟩
  unfold added at hf
  dsimp only at hf
  split at hf
  · exact hmodule f hf
  · rcases List.mem_append.1 hf with hf | hf
    · exact hmodule f hf
    · exact .inr ⟨hooks, List.mem_sublists.2 hsub, List.mem_singleton.1 hf⟩

/-- Replacement modules are put behind the files, which stay as they are. -/
theorem files_complete (s : Settings) (files : Snapshot) : ∃ generated,
    (complete s files).1.files = files.files ++ generated ∧ ∀ f ∈ generated, IsGenerated s f := by
  obtain ⟨hooks, hsub, hmissing, hnew⟩ := exists_missing_hooks s files
  unfold complete
  rw [hmissing]
  dsimp only
  split
  · exact ⟨[], (List.append_nil _).symm, List.forall_mem_nil _⟩
  · exact ⟨_, Snapshot.files_putAll files _ (nodup_added hsub hnew),
      fun f hf => isGenerated_of_mem_added hsub hf⟩

/-- By default the module of a hook can be analysed and costs nothing. -/
theorem isFree_module :
    ∀ h ∈ Hook.catalog, Cleaning.IsFree {} ⟨modulePath {} h, .text h.content⟩ := by
  unfold Hook.catalog
  simp only [List.forall_mem_cons, List.not_mem_nil, IsEmpty.forall_iff, implies_true, and_true]
  refine ⟨?_, ?_, ?_⟩
  -- The evaluation takes lists of characters; to take strings apart is most of its work otherwise.
  all_goals
    simp only [Hook.useMobile, Hook.useToast, Hook.useSidebar, Hook.ofLines, Text.ofString]
    simp only [List.flatMap_cons, List.flatMap_nil]
    repeat rw [String.toList_ofList]
    decide +kernel

/-- By default a generated file can be analysed and costs nothing. -/
theorem costOf_generated {f : File} (h : IsGenerated {} f) :
    Analysis.Readable {} f ∧ Cleaning.costOf {} f = 0 := by
  have hindex : ∀ hooks ∈ Hook.catalog.sublists,
      Cleaning.IsFree {} ⟨indexPath {}, .text (index (hooks.map (ofHook {})))⟩ := by
    decide +kernel
  rcases h with ⟨h, hh, rfl⟩ | ⟨hooks, hhooks, rfl⟩
  · exact (isFree_module h hh).costOf_eq
  · exact (hindex hooks hhooks).costOf_eq

end Polyfill

namespace Cleaning

variable {snapshot files : Snapshot} {a : Analysis}

open Analysis (Readable)
open Polyfill (completed?)

/-- A completed project holds the rewrites of the files that stay, and generated files. -/
theorem files_completed (ha : Analysis.ofSnapshot {} snapshot = .ok a)
    (hc : completed? {} snapshot = some files) : ∃ generated, files.files =
      ((snapshot.sorted.filter fun f => !Settings.removesPath {} f.path).map (cleanedFile {})) ++
        generated ∧ ∀ f ∈ generated, Polyfill.IsGenerated {} f := by
  obtain ⟨a', c, ha', hrun, rfl⟩ := Polyfill.completed?_eq_some hc
  obtain rfl : a = a' := Except.ok.inj (ha.symm.trans ha')
  have hfiles := Polyfill.files_complete {} c.files
  rwa [run_files hrun, survivors_of_analysis ha] at hfiles

/-- A project can be completed exactly when each file that stays has a rewrite. -/
theorem exists_completed_iff (ha : Analysis.ofSnapshot {} snapshot = .ok a) :
    (∃ files, completed? {} snapshot = some files) ↔
      ∀ f ∈ snapshot.sorted, Settings.removesPath {} f.path = false →
        (rewriteFile {} f).isOk = true := by
  have hrun : (run {} snapshot a.filesToRemove none).isOk = true ↔
      ∀ f ∈ snapshot.sorted, Settings.removesPath {} f.path = false →
        (rewriteFile {} f).isOk = true := by
    rw [run_isOk_iff, survivors_of_analysis ha]
    simp only [List.mem_filter, Bool.not_eq_true', and_imp]
  rw [← hrun]
  constructor
  · rintro ⟨files, hc⟩
    obtain ⟨a', c, ha', hok, -⟩ := Polyfill.completed?_eq_some hc
    obtain rfl : a = a' := Except.ok.inj (ha.symm.trans ha')
    rw [hok]
    rfl
  · intro hok
    obtain ⟨c, hc⟩ := Step.exists_of_isOk hok
    refine ⟨(Polyfill.complete {} c.files).1, ?_⟩
    simp only [completed?, ha, hc, Except.toOption, Option.bind_eq_bind, Option.bind_some]

/-- The score after a cleaning, from what the rewrites of the files that stay cost. -/
theorem score_completed {b : Analysis} (ha : Analysis.ofSnapshot {} snapshot = .ok a)
    (hc : completed? {} snapshot = some files) (hb : Analysis.ofSnapshot {} files = .ok b) :
    b.score = max 0 (100 - ((snapshot.sorted.filter fun f =>
      !Settings.removesPath {} f.path).map fun f => costOf {} (cleanedFile {} f)).sum) := by
  obtain ⟨generated, hfiles, hgenerated⟩ := files_completed ha hc
  have hfree : (generated.map (costOf {})).sum = 0 := by
    refine List.sum_eq_zero fun x hx => ?_
    obtain ⟨f, hf, rfl⟩ := List.mem_map.1 hx
    exact (Polyfill.costOf_generated (hgenerated f hf)).2
  have hperm : (files.sorted.map (costOf {})).sum = (files.files.map (costOf {})).sum :=
    ((File.sort_perm files.files).map (costOf {})).sum_eq
  have hscore := Analysis.score_of_ofSnapshot hb
  change b.score = max 0 (100 - (files.sorted.map (costOf {})).sum) at hscore
  rw [hscore, hperm, hfiles, List.map_append, List.sum_append, hfree, add_zero, List.map_map]
  rfl

/-- After a cleaning the project can be analysed and scores no worse, exactly when each file that
stays has a rewrite that can be analysed, and the code files that the cleaning changes cost after it
no more than what is removed and changed cost before, or the score was nothing already. -/
theorem score_not_worse_iff (ha : Analysis.ofSnapshot {} snapshot = .ok a) :
    (∃ files b, completed? {} snapshot = some files ∧ Analysis.ofSnapshot {} files = .ok b ∧
        a.score ≤ b.score) ↔
      (∀ f ∈ snapshot.sorted, Settings.removesPath {} f.path = false →
        (rewriteFile {} f).isOk = true ∧ Readable {} (cleanedFile {} f)) ∧
      (a.score = 0 ∨
        costOfRewritten {} snapshot.sorted ≤ costOfTouched {} snapshot.sorted) := by
  have hbefore := Analysis.score_of_ofSnapshot ha
  change a.score = max 0 (100 - (snapshot.sorted.map (costOf {})).sum) at hbefore
  constructor
  · rintro ⟨files, b, hc, hb, hle⟩
    have hok := (exists_completed_iff ha).1 ⟨files, hc⟩
    obtain ⟨generated, hfiles, -⟩ := files_completed ha hc
    have hreadable := (Analysis.ofSnapshot_eq_ok.1 hb).1
    refine ⟨fun f hf hstays => ⟨hok f hf hstays, hreadable _ ?_⟩, ?_⟩
    · rw [hfiles]
      refine List.mem_append_left _ (List.mem_map_of_mem (List.mem_filter.2 ⟨hf, ?_⟩))
      rw [hstays]
      rfl
    · have hafter := score_completed ha hc hb
      have hsum := sum_costOf_cleaned hok
      omega
  · rintro ⟨hfiles, hcosts⟩
    have hok : ∀ f ∈ snapshot.sorted, Settings.removesPath {} f.path = false →
        (rewriteFile {} f).isOk = true := fun f hf hstays => (hfiles f hf hstays).1
    obtain ⟨files, hc⟩ := (exists_completed_iff ha).2 hok
    obtain ⟨generated, hparts, hgenerated⟩ := files_completed ha hc
    have hreadable : ∀ f ∈ files.files, Readable {} f := by
      intro f hf
      rw [hparts] at hf
      rcases List.mem_append.1 hf with hf | hf
      · obtain ⟨g, hg, rfl⟩ := List.mem_map.1 hf
        obtain ⟨hg, hstays⟩ := List.mem_filter.1 hg
        exact (hfiles g hg (by simpa using hstays)).2
      · exact (Polyfill.costOf_generated (hgenerated f hf)).1
    have hb := Analysis.ofSnapshot_eq_ok.2 ⟨hreadable, rfl⟩
    refine ⟨files, _, hc, hb, ?_⟩
    have hafter := score_completed ha hc hb
    have hsum := sum_costOf_cleaned hok
    omega

/-- A source file that imports a platform's module, and a platform's own file. -/
def loneImport : Snapshot :=
  Snapshot.ofFiles [⟨"a.ts", .text "import \"@lovable/a\";\n"⟩, ⟨".lovable", .text ""⟩]

theorem loneImport_not_worse : ∃ a, Analysis.ofSnapshot {} loneImport = .ok a ∧ a.score = 75 ∧
    ∃ files b, completed? {} loneImport = some files ∧ Analysis.ofSnapshot {} files = .ok b ∧
      a.score ≤ b.score := by
  have hscore : (Analysis.ofSnapshot {} loneImport).toOption.map (·.score) = some 75 := by
    decide +kernel
  obtain ⟨a, ha, hscore⟩ := Option.map_eq_some_iff.1 hscore
  have hok := Step.toOption_eq_some.1 ha
  have hfiles : ∀ f ∈ loneImport.sorted, Settings.removesPath {} f.path = false →
      (rewriteFile {} f).isOk = true ∧ Readable {} (cleanedFile {} f) := by decide +kernel
  have hcosts : costOfRewritten {} loneImport.sorted ≤ costOfTouched {} loneImport.sorted := by
    decide +kernel
  exact ⟨a, hok, hscore, (score_not_worse_iff hok).2 ⟨hfiles, .inr hcosts⟩⟩

/-- A source file with a platform's comment marker before an import of its module. -/
def markedImport : Snapshot :=
  Snapshot.ofFiles [⟨"a.ts", .text "/* @lovable */ import \"@lovable/a\";\n"⟩]

/-- A cleaning may make the score worse: it takes the marker away, behind which the import has not
been looked for. -/
theorem not_forall_score_not_worse : ¬∀ (snapshot files : Snapshot) (a b : Analysis),
    Analysis.ofSnapshot {} snapshot = .ok a → completed? {} snapshot = some files →
      Analysis.ofSnapshot {} files = .ok b → a.score ≤ b.score := by
  intro hall
  have hbefore : (Analysis.ofSnapshot {} markedImport).toOption.map (·.score) = some 99 := by
    decide +kernel
  have hafter : ((completed? {} markedImport).bind fun files =>
      (Analysis.ofSnapshot {} files).toOption).map (·.score) = some 85 := by decide +kernel
  obtain ⟨a, ha, hscore⟩ := Option.map_eq_some_iff.1 hbefore
  obtain ⟨b, hb, hscore'⟩ := Option.map_eq_some_iff.1 hafter
  obtain ⟨files, hc, hb⟩ := Option.bind_eq_some_iff.1 hb
  have hle := hall markedImport files a b (Step.toOption_eq_some.1 ha) hc
    (Step.toOption_eq_some.1 hb)
  omega

end Cleaning

end Decouple
