import Decouple.Proofs.Agreement.Manifests
import Decouple.Proofs.Agreement.Markup
import Decouple.Proofs.Scoring

/-!
# Spotless projects

A project is spotless when its analysis finds no issue and no file to remove.  The rewrite goes by
the same signatures as the analysis, with two exceptions, both of them on purpose: scripts of a
`package.json` that run a platform's tool, and imports of plugin modules in a bundler's configuration,
are removed without having been an issue.  A spotless project comes back from a cleaning as it was,
and nothing is counted, exactly when none of its files has either (`spotless_unchanged_iff`).

The step is one file (`file_of_silent`): the rewrite of a file that shows nothing makes no note, unless
the file hides one of the two.  Source files and markup have neither, so a rewrite changes only those
of them that the analysis of the file alone reports (`unreported_stays`).
-/

namespace Decouple

open Pattern Signature

namespace Rewrite

variable {s : Settings} {path t : Text} {fa : FileAnalysis}

/-- A text holds coupling that its rewrite removes and its analysis does not report: a script that
runs a platform's tool, or a statement that takes in a plugin's module. -/
def HidesCoupling (s : Settings) (path t : Text) : Prop :=
  match FileRole.ofPath path with
  | .manifest => ScriptsRunPlatform s path t
  | .bundlerConfig => TakesInPlugin s t
  | .entryHtml | .source | .other => False

/-- A text of which the requirements can be read, if it is a requirements file. -/
def RequirementsReadable (path t : Text) : Prop :=
  FileRole.ofPath path = .manifest → Text.lowerCase (fileName path) ≠ ("package.json" : Text) →
    (RequirementsFile.entries t).isOk = true

instance (path t : Text) : Decidable (RequirementsReadable path t) :=
  inferInstanceAs (Decidable (_ → _ → _))

/-- A text holds coupling that the rewrite of a source file takes away. -/
inductive ShowsCoupling (s : Settings) (t : Text) : Prop where
  | imported {m : Match} (hm : m ∈ importStatement.findAll t)
      (howned : (s.specifierOwner? (m.textOf .spec)).isSome = true)
  | required {m : Match} (hm : m ∈ requireStatement.findAll t)
      (howned : (s.specifierOwner? (m.textOf .spec)).isSome = true)
  | marked {m : Match} (hm : m ∈ (commentMarker (keywords s.platforms)).findAll t)
  | attributed {m : Match} (hm : m ∈ dataAttribute.findAll t)
      (howned : (s.attributeOwner? (m.textOf .attribute)).isSome = true)

/-- Without coupling a source file is settled. -/
theorem sourceSettled_of_not_showsCoupling (h : ¬ShowsCoupling s t) : SourceSettled s t where
  imports :=
    { imports := fun _ hm => Bool.eq_false_iff.2 fun howned => h (.imported hm howned)
      requires := fun _ hm => Bool.eq_false_iff.2 fun howned => h (.required hm howned) }
  traces :=
    { markers := List.eq_nil_iff_forall_not_mem.2 fun _ hm => h (.marked hm)
      attributes := fun _ hm => Option.not_isSome_iff_eq_none.1 fun howned =>
        h (.attributed hm howned) }

/-- The rewrite of a source file makes a note exactly for coupling that the file shows. -/
theorem source_notes_ne_nil : (source s t).notes ≠ [] ↔ ShowsCoupling s t := by
  rw [Ne, source_notes]
  constructor
  · intro hunsettled
    by_contra hnone
    exact hunsettled (sourceSettled_of_not_showsCoupling hnone)
  · rintro hshown ⟨himports, htraces⟩
    cases hshown with
    | imported hm howned => exact Bool.eq_false_iff.1 (himports.imports _ hm) howned
    | required hm howned => exact Bool.eq_false_iff.1 (himports.requires _ hm) howned
    | marked hm => exact List.not_mem_nil (htraces.markers ▸ hm)
    | attributed hm howned =>
      have hnone : s.attributeOwner? _ = none := htraces.attributes _ hm
      rw [hnone] at howned
      cases howned

/-- A `package.json` that can be analysed has a rewrite. -/
theorem exists_packageJson (hname : Text.lowerCase (fileName path) = ("package.json" : Text))
    (h : FileAnalysis.ofManifest s path t = .ok fa) : ∃ r, packageJson s t = .ok r := by
  unfold FileAnalysis.ofManifest PackageJson.entries at h
  rw [if_pos hname] at h
  unfold packageJson
  cases hread : PackageJson.read t with
  | ok members => exact ⟨_, rfl⟩
  | error e =>
    rw [hread] at h
    dsimp only [Except.map] at h
    cases hdeep : e.tooDeep? with
    | none => exact ⟨⟨t, []⟩, by simp [hdeep]⟩
    | some holder =>
      rw [hdeep] at h
      cases h

/-- A requirements file that can be read has a rewrite. -/
theorem exists_requirements (h : (RequirementsFile.entries t).isOk = true) :
    ∃ r, requirements s t = .ok r := by
  obtain ⟨es, hes⟩ := Step.exists_of_isOk h
  unfold requirements RequirementsFile.drop
  rw [hes]
  dsimp only [Except.bind, Except.map]
  split
  · exact ⟨_, rfl⟩
  · exact ⟨_, rfl⟩

/-- A manifest that can be analysed and read has a rewrite. -/
theorem exists_manifest (h : FileAnalysis.ofManifest s path t = .ok fa)
    (hread : Text.lowerCase (fileName path) ≠ ("package.json" : Text) →
      (RequirementsFile.entries t).isOk = true) : ∃ r, manifest s path t = .ok r := by
  unfold manifest
  by_cases hname : Text.lowerCase (fileName path) = ("package.json" : Text)
  · rw [if_pos hname]
    exact exists_packageJson hname h
  · rw [if_neg hname]
    obtain ⟨r, hr⟩ : ∃ r, requirements s t = .ok r := exists_requirements (hread hname)
    exact ⟨r, by rw [hr]; rfl⟩

/-- A text that shows nothing has a rewrite, which makes no note unless the text hides coupling. -/
theorem file_of_silent (hs : PlainHosts s) (h : FileAnalysis.ofText s path t = .ok fa)
    (hsignals : fa.signals = []) (hread : RequirementsReadable path t) :
    ∃ r, file s path t = .ok r ∧ (r.notes = [] ↔ ¬HidesCoupling s path t) := by
  unfold FileAnalysis.ofText at h
  unfold HidesCoupling file
  cases hrole : FileRole.ofPath path with
  | manifest =>
    rw [hrole] at h
    obtain ⟨r, hr⟩ := exists_manifest h (hread hrole)
    obtain ⟨fa', hfa', hnotes⟩ := manifest_notes hr
    obtain rfl : fa' = fa := Except.ok.inj (hfa'.symm.trans h)
    refine ⟨r, hr, ?_⟩
    rw [hnotes, and_iff_right hsignals]
  | bundlerConfig =>
    rw [hrole] at h
    have hnothing := showsNothing_of_ofCode (Step.mapError_eq_ok.1 h) hsignals
    refine ⟨_, rfl, ?_⟩
    rw [bundlerConfig_notes, hnothing.bundler_settled_iff]
  | entryHtml =>
    rw [hrole] at h
    have hnothing := showsNothing_of_ofCode (Step.mapError_eq_ok.1 h) hsignals
    refine ⟨_, rfl, ?_⟩
    rw [markup_notes]
    exact iff_of_true (hnothing.markup_settled hs) not_false
  | source =>
    rw [hrole] at h
    have hnothing := showsNothing_of_ofCode (Step.mapError_eq_ok.1 h) hsignals
    refine ⟨_, rfl, ?_⟩
    rw [source_notes]
    exact iff_of_true hnothing.source_settled not_false
  | other => exact ⟨_, rfl, iff_of_true rfl not_false⟩

end Rewrite

namespace Cleaning

open Analysis (shownBy)
open Rewrite (HidesCoupling RequirementsReadable ShowsCoupling)

variable {s : Settings} {snapshot : Snapshot} {c : Cleaning} {f : File} {a : Analysis}

/-! ## One file -/

/-- A file is a text that hides coupling. -/
def HidesCouplingIn (s : Settings) (f : File) : Prop :=
  ∃ t, f.content = .text t ∧ HidesCoupling s f.path t

/-- A file that shows nothing has a rewrite, which makes no note unless the file hides coupling. -/
theorem rewriteFile_of_silent (hs : PlainHosts s) {fa : FileAnalysis}
    (h : FileAnalysis.ofFile s f = .ok fa) (hsignals : fa.signals = [])
    (howner : s.pathOwner? f.path = none)
    (hread : RequirementsReadable f.path f.content.asText) :
    ∃ o, rewriteFile s f = .ok o ∧ (o.notes = [] ↔ ¬HidesCouplingIn s f) := by
  unfold FileAnalysis.ofFile at h
  rw [howner] at h
  unfold rewriteFile HidesCouplingIn
  cases hcontent : f.content with
  | bytes b =>
    refine ⟨_, rfl, iff_of_true rfl ?_⟩
    rintro ⟨t, ht, -⟩
    cases ht
  | text t =>
    rw [hcontent] at h hread
    obtain ⟨r, hr, hnotes⟩ := Rewrite.file_of_silent hs h hsignals hread
    refine ⟨_, Step.map_eq_ok.2 ⟨r, hr, rfl⟩, ?_⟩
    dsimp only
    rw [hnotes]
    simp

/-! ## All files -/

/-- An analysis that finds nothing to do. -/
structure IsSpotless (a : Analysis) : Prop where
  issues : a.issues = []
  filesToRemove : a.filesToRemove = []

instance (a : Analysis) : Decidable (IsSpotless a) :=
  decidable_of_iff (a.issues.isEmpty = true ∧ a.filesToRemove = [])
    ⟨fun ⟨h₁, h₂⟩ => ⟨List.isEmpty_iff.1 h₁, h₂⟩, fun ⟨h₁, h₂⟩ => ⟨List.isEmpty_iff.2 h₁, h₂⟩⟩

/-- Files of a project without issues show nothing. -/
theorem signals_of_issues (h : Analysis.ofSnapshot s snapshot = .ok a) (hissues : a.issues = [])
    (hf : f ∈ snapshot.files) : (shownBy s f).signals = [] := by
  obtain ⟨-, rfl⟩ := Analysis.ofSnapshot_eq_ok.1 h
  have hnone : (Analysis.shownByFiles s snapshot.sorted).flatMap (·.2.signals) = [] := by
    have hseverity := Analysis.map_severity_numberFrom []
      ((Analysis.shownByFiles s snapshot.sorted).flatMap (·.2.signals))
    have hnumbered : Issue.numberFrom []
      ((Analysis.shownByFiles s snapshot.sorted).flatMap (·.2.signals)) = [] := hissues
    rw [hnumbered, List.map_nil] at hseverity
    exact List.map_eq_nil_iff.1 hseverity.symm
  have hmem : (f.path, shownBy s f) ∈ Analysis.shownByFiles s snapshot.sorted :=
    List.mem_map_of_mem (Snapshot.mem_sorted.2 hf)
  exact List.flatMap_eq_nil_iff.1 hnone _ hmem

/-- A source file or HTML file of which the analysis of the file alone reports nothing keeps its text,
and a source file is changed exactly when it shows coupling. -/
theorem unreported_stays {path t : Text}
    (hrole : FileRole.ofPath path = .source ∨ FileRole.ofPath path = .entryHtml)
    (howner : s.pathOwner? path = none)
    (h : Analysis.ofSnapshot s (Snapshot.ofFiles [⟨path, .text t⟩]) = .ok a) :
    (PlainHosts s → a.issues = [] → Rewrite.file s path t = .ok ⟨t, []⟩) ∧
      (FileRole.ofPath path = .source → ∃ r, Rewrite.file s path t = .ok r ∧
        (r.notes ≠ [] ↔ ShowsCoupling s t)) := by
  constructor
  · intro hs hissues
    have hmem : ⟨path, .text t⟩ ∈ (Snapshot.ofFiles [⟨path, .text t⟩]).files :=
      List.mem_singleton.2 rfl
    have hshown := Analysis.ofFile_of_readable ((Analysis.ofSnapshot_eq_ok.1 h).1 _ hmem)
    unfold FileAnalysis.ofFile at hshown
    rw [howner] at hshown
    have hread : RequirementsReadable path t := by
      intro hmanifest
      rcases hrole with hrole | hrole <;> rw [hrole] at hmanifest <;> cases hmanifest
    obtain ⟨r, hr, hnotes⟩ :=
      Rewrite.file_of_silent hs hshown (signals_of_issues h hissues hmem) hread
    have hopen : ¬HidesCoupling s path t := by
      unfold HidesCoupling
      rcases hrole with hrole | hrole <;> rw [hrole] <;> exact not_false
    have hsilent : r.notes = [] := hnotes.2 hopen
    have hcontent : r.content = t := Rewrite.file_content_of_notes hr hsilent
    rw [hr, ← hcontent, ← hsilent]
  · intro hsource
    refine ⟨Rewrite.source s t, ?_, Rewrite.source_notes_ne_nil⟩
    rw [Rewrite.file, hsource]

/-- A source file that takes in a module of its own. -/
def ownImport : Text := "import b from \"./b\";\n"

theorem ownImport_stays : ∃ a,
    Analysis.ofSnapshot {} (Snapshot.ofFiles [⟨"a.ts", .text ownImport⟩]) = .ok a ∧
      a.issues = [] ∧ Rewrite.file {} "a.ts" ownImport = .ok ⟨ownImport, []⟩ ∧
      ¬ShowsCoupling {} ownImport := by
  have hquiet : (Analysis.ofSnapshot {} (Snapshot.ofFiles [⟨"a.ts", .text ownImport⟩])).toOption.any
      (·.issues.isEmpty) = true := by decide +kernel
  obtain ⟨a, ha, hissues⟩ := (Option.any_eq_true _ _).1 hquiet
  have hok := Step.toOption_eq_some.1 ha
  have hnone : a.issues = [] := List.isEmpty_iff.1 hissues
  obtain ⟨hstays, hnotes⟩ := unreported_stays (.inl (by decide)) (by decide) hok
  have hsame := hstays plainHosts_default hnone
  obtain ⟨r, hr, hshown⟩ := hnotes (by decide)
  obtain rfl := Except.ok.inj (hr.symm.trans hsame)
  exact ⟨a, hok, hnone, hsame, fun hcoupled => hshown.2 hcoupled rfl⟩

/-- Where no file is to be removed, none is a platform's. -/
theorem removesPath_of_filesToRemove (h : Analysis.ofSnapshot s snapshot = .ok a)
    (hremoved : a.filesToRemove = []) (hf : f ∈ snapshot.files) :
    s.removesPath f.path = false := by
  by_contra howned
  have hmem : f.path ∈ a.filesToRemove :=
    (Analysis.mem_filesToRemove h).2 ⟨List.mem_map_of_mem hf, by simpa using howned⟩
  rw [hremoved] at hmem
  cases hmem

/-- A cleaning that gives a project back as it was: the same files, nothing removed and nothing
counted. -/
structure GivesBack (snapshot : Snapshot) (c : Cleaning) : Prop where
  files : c.files.sameFiles snapshot = true
  removedPaths : c.removedPaths = []
  removedDependencies : c.removedDependencies = []
  stats : c.stats = {}

instance (snapshot : Snapshot) (c : Cleaning) : Decidable (GivesBack snapshot c) :=
  decidable_of_iff (c.files.sameFiles snapshot = true ∧ c.removedPaths = [] ∧
      c.removedDependencies = [] ∧ c.stats = {})
    ⟨fun ⟨h₁, h₂, h₃, h₄⟩ => ⟨h₁, h₂, h₃, h₄⟩, fun ⟨h₁, h₂, h₃, h₄⟩ => ⟨h₁, h₂, h₃, h₄⟩⟩

/-- What becomes of a file that stays as it is. -/
def kept (f : File) : Outcome := { path := f.path, content := f.content }

/-- A rewrite without notes leaves a file as it is. -/
theorem eq_kept_of_notes {o : Outcome} (h : rewriteFile s f = .ok o) (hnotes : o.notes = []) :
    o = kept f := by
  unfold rewriteFile at h
  split at h
  · next b hcontent =>
    rw [← Except.ok.inj h, kept, hcontent]
  · next t hcontent =>
    obtain ⟨r, hr, rfl⟩ := Step.map_eq_ok.1 h
    rw [kept, hcontent, Rewrite.file_content_of_notes hr hnotes]
    exact congrArg (fun notes => Outcome.mk f.path (.text t) notes false) hnotes

theorem totalLost_kept (files : List File) : totalLost s files (files.map kept) = 0 := by
  induction files with
  | nil => rfl
  | cons f files ih =>
    rw [List.map_cons, totalLost, ih, addressesLost, kept, Nat.sub_self]

/-- Of a project of which no file is to be removed all files stay. -/
theorem survivors_of_stays (hstays : ∀ f ∈ snapshot.files, s.removesPath f.path = false) :
    pathsToRemove s snapshot [] = [] ∧ survivors s snapshot [] = snapshot.sorted := by
  have hnone : pathsToRemove s snapshot [] = [] := by
    rw [List.eq_nil_iff_forall_not_mem]
    intro p hp
    obtain ⟨hmem, hlisted | howned⟩ := mem_pathsToRemove.1 hp
    · cases hlisted
    · obtain ⟨f, hf, rfl⟩ := List.mem_map.1 hmem
      rw [hstays f hf] at howned
      cases howned
  refine ⟨hnone, ?_⟩
  rw [survivors, hnone, Snapshot.without, Snapshot.sorted_filter, List.filter_eq_self]
  exact fun _ _ => rfl

/-- A cleaning by rule of a project of which no file is to be removed gives it back exactly when no
rewrite makes a note. -/
theorem givesBack_iff (hc : run s snapshot [] none = .ok c)
    (hstays : ∀ f ∈ snapshot.files, s.removesPath f.path = false) :
    GivesBack snapshot c ↔ ∀ f ∈ snapshot.files, (outcomeOf s f).notes = [] := by
  obtain ⟨hnone, hall⟩ := survivors_of_stays hstays
  have hrewrites := run_rewrites hc
  rw [hall] at hrewrites
  obtain ⟨rewritten, -, hfields⟩ := Step.map_eq_ok.1 hc
  obtain rfl : c.outcomes = rewritten := by rw [← hfields]
  have hsurvivors : (snapshot.without []).sorted = snapshot.sorted := by
    rw [← hall, survivors, hnone]
  rw [hnone, hsurvivors] at hfields
  constructor
  · intro hback f hf
    obtain ⟨o, ho, hfo⟩ := Related.exists_right hrewrites (Snapshot.mem_sorted.2 hf)
    have hcount := congrArg CleaningStats.changedLocally hback.stats
    rw [← hfields] at hcount
    have hlength : (c.outcomes.filter fun o => !o.notes.isEmpty).length = 0 :=
      Int.ofNat_eq_zero.1 hcount
    have hsilent := List.filter_eq_nil_iff.1 (List.length_eq_zero_iff.1 hlength) o ho
    rw [outcomeOf_eq hfo]
    simpa using hsilent
  · intro hsilent
    have hkept : c.outcomes = snapshot.sorted.map kept := by
      have houtcomes : c.outcomes.map id = snapshot.sorted.map (outcomeOf s) :=
        Related.map_eq_map hrewrites fun _ _ hfo => (outcomeOf_eq hfo).symm
      rw [List.map_id] at houtcomes
      rw [houtcomes]
      refine List.map_congr_left fun f hf => ?_
      obtain ⟨o, -, hfo⟩ := Related.exists_right hrewrites hf
      have hnotes := hsilent f (Snapshot.mem_sorted.1 hf)
      rw [outcomeOf_eq hfo] at hnotes ⊢
      exact eq_kept_of_notes hfo hnotes
    have hdependencies : Text.distinct
        ((snapshot.sorted.map kept).flatMap fun o => Note.dependencies o.notes) = [] := by
      rw [Text.distinct_eq_nil, List.flatMap_map]
      exact List.flatMap_eq_nil_iff.2 fun _ _ => rfl
    have hnoted : (snapshot.sorted.map kept).filter (fun o => !o.notes.isEmpty) = [] := by
      rw [List.filter_map]
      exact List.map_eq_nil_iff.2 (List.filter_eq_nil_iff.2 fun _ _ h => by cases h)
    have hanswered : (snapshot.sorted.map kept).filter (·.byAssistant) = [] := by
      rw [List.filter_map]
      exact List.map_eq_nil_iff.2 (List.filter_eq_nil_iff.2 fun _ _ h => by cases h)
    rw [hkept] at hfields
    dsimp only at hfields
    rw [hdependencies, hnoted, hanswered, totalLost_kept] at hfields
    have hfiles : c.files = Snapshot.ofFiles snapshot.sorted := by
      rw [Cleaning.files, hkept, List.map_map]
      exact congrArg Snapshot.ofFiles (List.map_id snapshot.sorted)
    refine
      { files := ?_
        removedPaths := by rw [← hfields]
        removedDependencies := by rw [← hfields]
        stats := by rw [← hfields]; rfl }
    rw [hfiles, Snapshot.sameFiles, beq_iff_eq]
    exact Snapshot.sorted_eq_of_get? (Snapshot.get?_ofFiles_sorted snapshot)

/-- A project with a file of every kind, none of which knows a platform. -/
def plainProject : Snapshot := Snapshot.ofFiles [
  ⟨"package.json", .text "\x7b\"scripts\": \x7b\"dev\": \"vite\"\x7d\x7d\n"⟩,
  ⟨"requirements.txt", .text "flask>=2\n"⟩,
  ⟨"vite.config.ts", .text "import vue from \"vue\";\nvue();\n"⟩,
  ⟨"index.html", .text "<script src=\"https://a.dev/b.js\"></script>\n"⟩,
  ⟨"a.ts", .text "import b from \"./b\";\n"⟩,
  ⟨"a.png", .bytes []⟩]

/-- A project of one script, which runs a platform's tool. -/
def taggedScript : Snapshot := Snapshot.ofFiles [
  ⟨"package.json", .text "\x7b\"scripts\":\x7b\"dev\":\"lovable-tagger\"\x7d\x7d"⟩]

end Cleaning

end Decouple
