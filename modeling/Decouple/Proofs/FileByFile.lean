import Decouple.Proofs.Analyses
import Decouple.Proofs.Numbering
import Mathlib.Algebra.Order.BigOperators.Group.List
import Mathlib.Data.Int.Order.Basic
import Mathlib.Tactic.Ring

/-!
# An analysis is that of its files, one by one

The analysis of a project puts together what its files show in the order of their paths
(`ofSnapshot_eq_ok`).  No file matters to what is said of another: the findings are those of the
files, each analysed as a project of its own, one after the other, identities of issues included
(`analysis_file_by_file`).

The score is 100 less what each file costs, and at least zero (`score_combine`), so with weights
that are not negative a project does not lose by losing files.
-/

namespace Decouple

/-- Weights of which none is negative. -/
structure Weights.NonNegative (w : Weights) : Prop where
  critical : 0 ≤ w.critical
  warning : 0 ≤ w.warning
  info : 0 ≤ w.info
  removedFile : 0 ≤ w.removedFile

namespace FileAnalysis

variable {s : Settings} {f : File} {fa : FileAnalysis} {path t : Text}

/-! ## Signals are about their file -/

theorem path_of_ofEntries {owner? : Text → Option Platform} {es : List ManifestEntry} {g : Signal}
    (hg : g ∈ (ofEntries owner? path t es).signals) : g.path = path := by
  obtain ⟨e, -, he⟩ := List.mem_filterMap.1 hg
  obtain ⟨p, -, rfl⟩ := Option.map_eq_some_iff.1 he
  rfl

theorem path_of_ofManifest (h : ofManifest s path t = .ok fa) {g : Signal} (hg : g ∈ fa.signals) :
    g.path = path := by
  unfold ofManifest at h
  split at h
  · split at h
    · rw [← Except.ok.inj h] at hg
      exact path_of_ofEntries hg
    · next e _ =>
      cases he : e.tooDeep? with
      | none =>
        rw [he] at h
        rw [← Except.ok.inj h] at hg
        cases hg
      | some holder =>
        rw [he] at h
        cases h
  · split at h
    · rw [← Except.ok.inj h] at hg
      exact path_of_ofEntries hg
    · rw [← Except.ok.inj h] at hg
      cases hg

theorem path_of_pluginSignals {g : Signal} (hg : g ∈ pluginSignals s path t) : g.path = path := by
  obtain ⟨⟨specifier, names⟩, -, hg⟩ := List.mem_flatMap.1 hg
  dsimp only at hg
  split at hg
  · cases hg
  · obtain ⟨name, -, hg⟩ := List.mem_flatMap.1 hg
    obtain ⟨m, -, rfl⟩ := List.mem_map.1 hg
    rfl

theorem path_of_tagSignalsOf {pattern : Pattern} {inspected : Text → Text} {g : Signal}
    (hg : g ∈ tagSignalsOf s path t pattern inspected) : g.path = path := by
  obtain ⟨m, -, hm⟩ := List.mem_filterMap.1 hg
  split at hm
  · cases hm
  · obtain ⟨p, -, rfl⟩ := Option.map_eq_some_iff.1 hm
    rfl

theorem path_of_tagSignals {g : Signal} (hg : g ∈ tagSignals s path t) : g.path = path := by
  rcases List.mem_append.1 hg with hg | hg
  · rcases List.mem_append.1 hg with hg | hg
    · exact path_of_tagSignalsOf hg
    · exact path_of_tagSignalsOf hg
  · exact path_of_tagSignalsOf hg

theorem path_of_ofCode {role : FileRole} (h : ofCode s path t role = .ok fa) {g : Signal}
    (hg : g ∈ fa.signals) : g.path = path := by
  have hmap {α : Type} {xs : List α} {signal : α → Signal} (hs : ∀ x, (signal x).path = path)
      (hg : g ∈ xs.map signal) : g.path = path := by
    obtain ⟨x, -, rfl⟩ := List.mem_map.1 hg
    exact hs x
  obtain ⟨markers, -, rfl⟩ := Step.map_eq_ok.1 h
  simp only [List.mem_append] at hg
  rcases hg with ((((hg | hg) | hg) | hg) | hg) | hg
  · exact hmap (fun _ => rfl) hg
  · exact hmap (fun _ => rfl) hg
  · split at hg
    · exact path_of_pluginSignals hg
    · cases hg
  · split at hg
    · exact path_of_tagSignals hg
    · cases hg
  · exact hmap (fun _ => rfl) hg
  · exact hmap (fun _ => rfl) hg

/-- What a file shows is about that file. -/
theorem path_of_ofFile (h : ofFile s f = .ok fa) {g : Signal} (hg : g ∈ fa.signals) :
    g.path = f.path := by
  unfold ofFile at h
  split at h
  · rw [← Except.ok.inj h] at hg
    cases hg
  · split at h
    · rw [← Except.ok.inj h] at hg
      cases hg
    · unfold ofText at h
      split at h
      · exact path_of_ofManifest h hg
      · rw [← Except.ok.inj h] at hg
        cases hg
      · exact path_of_ofCode (Step.mapError_eq_ok.1 h) hg

/-! ## What a file costs -/

/-- What a file takes off the score. -/
def cost (w : Weights) (fa : FileAnalysis) : Int :=
  (fa.signals.map fun g => Analysis.weight w g.rule.severity).sum +
    if fa.removedFor.isSome then w.removedFile else 0

theorem cost_nonneg {w : Weights} (h : Weights.NonNegative w) (fa : FileAnalysis) :
    0 ≤ fa.cost w := by
  have hsignals : 0 ≤ (fa.signals.map fun g => Analysis.weight w g.rule.severity).sum := by
    refine List.sum_nonneg fun x hx => ?_
    obtain ⟨g, -, rfl⟩ := List.mem_map.1 hx
    cases g.rule.severity with
    | info => exact h.info
    | warning => exact h.warning
    | critical => exact h.critical
  have hremoved : 0 ≤ if fa.removedFor.isSome then w.removedFile else 0 := by
    split
    · exact h.removedFile
    · exact le_refl _
  exact add_nonneg hsignals hremoved

end FileAnalysis

namespace Analysis

variable {s : Settings} {snapshot : Snapshot} {a : Analysis} {f : File}

theorem penaltyOf_eq_sum (w : Weights) (issues : List Issue) :
    penaltyOf w issues = (issues.map fun i => weight w i.severity).sum := by
  induction issues with
  | nil => rfl
  | cons i issues ih => rw [penaltyOf, ih, List.map_cons, List.sum_cons]

/-- Numbering leaves severities as they are. -/
theorem map_severity_numberFrom (used : List Text) (signals : List Signal) :
    (Issue.numberFrom used signals).map Issue.severity = signals.map (·.rule.severity) := by
  induction signals generalizing used with
  | nil => rfl
  | cons g signals ih => exact congrArg _ (ih _)

theorem penaltyOf_number (w : Weights) (signals : List Signal) :
    penaltyOf w (Issue.number signals) =
      (signals.map fun g => weight w g.rule.severity).sum := by
  have hseverity := congrArg (List.map (weight w)) (map_severity_numberFrom [] signals)
  rw [List.map_map, List.map_map] at hseverity
  rw [penaltyOf_eq_sum]
  exact congrArg List.sum hseverity

/-- What signals and files to remove take off is what the files cost. -/
theorem penalty_eq_sum_cost (w : Weights) (shown : List (Text × FileAnalysis)) :
    ((shown.flatMap (·.2.signals)).map fun g => weight w g.rule.severity).sum +
        w.removedFile * (shown.filter fun x => x.2.removedFor.isSome).length =
      (shown.map fun x => x.2.cost w).sum := by
  induction shown with
  | nil => simp
  | cons x shown ih =>
    rw [List.map_cons, List.sum_cons, ← ih, List.flatMap_cons, List.map_append, List.sum_append,
      FileAnalysis.cost]
    cases hx : x.2.removedFor.isSome with
    | false =>
      rw [List.filter_cons_of_neg (by simp [hx])]
      simp only [Bool.false_eq_true, if_false]
      ring
    | true =>
      rw [List.filter_cons_of_pos (by simpa using hx), List.length_cons]
      push_cast
      simp only [if_true]
      ring

/-- The score is 100 less what each file costs, and at least zero. -/
theorem score_combine (shown : List (Text × FileAnalysis)) :
    (combine s shown).score = max 0 (100 - (shown.map fun x => x.2.cost s.weights).sum) := by
  rw [← penalty_eq_sum_cost, ← penaltyOf_number]
  rfl

/-! ## Files that can be looked at -/

/-- A file can be looked at: its path may stand in a snapshot, and no detector fails on it. -/
def Readable (s : Settings) (f : File) : Prop :=
  validPath f.path = true ∧ (FileAnalysis.ofFile s f).isOk = true

instance (s : Settings) (f : File) : Decidable (Readable s f) :=
  inferInstanceAs (Decidable (_ ∧ _))

/-- What a file shows; nothing if it cannot be looked at. -/
def shownBy (s : Settings) (f : File) : FileAnalysis :=
  (FileAnalysis.ofFile s f).toOption.getD {}

theorem ofFile_of_readable (h : Readable s f) : FileAnalysis.ofFile s f = .ok (shownBy s f) := by
  obtain ⟨fa, hfa⟩ := Step.exists_of_isOk h.2
  rw [shownBy, hfa]
  rfl

/-- What files show, beside their paths. -/
def shownByFiles (s : Settings) (fs : List File) : List (Text × FileAnalysis) :=
  fs.map fun f => (f.path, shownBy s f)

theorem ofFiles_eq_ok_iff {fs : List File} {shown : List (Text × FileAnalysis)} :
    ofFiles s fs = .ok shown ↔ (∀ f ∈ fs, Readable s f) ∧ shown = shownByFiles s fs := by
  rw [ofFiles_eq_ok]
  constructor
  · intro h
    induction h with
    | nil => exact ⟨List.forall_mem_nil _, rfl⟩
    | @cons f x fs shown hfx _ ih =>
      obtain ⟨hvalid, hpath, hfa⟩ := hfx
      have hreadable : Readable s f := ⟨hvalid, by rw [hfa]; rfl⟩
      have hx : x = (f.path, shownBy s f) :=
        Prod.ext hpath (Except.ok.inj (hfa.symm.trans (ofFile_of_readable hreadable)))
      exact ⟨List.forall_mem_cons.2 ⟨hreadable, ih.1⟩, by rw [hx, ih.2]; rfl⟩
  · rintro ⟨hreadable, rfl⟩
    refine List.forall₂_map_right_iff.2 (List.forall₂_same.2 fun f hf => ?_)
    exact ⟨(hreadable f hf).1, rfl, ofFile_of_readable (hreadable f hf)⟩

/-- A snapshot can be analysed exactly when each of its files can be looked at; its analysis puts
together what they show. -/
theorem ofSnapshot_eq_ok : ofSnapshot s snapshot = .ok a ↔
    (∀ f ∈ snapshot.files, Readable s f) ∧ a = combine s (shownByFiles s snapshot.sorted) := by
  rw [ofSnapshot, Step.map_eq_ok]
  simp only [ofFiles_eq_ok_iff, Snapshot.mem_sorted]
  constructor
  · rintro ⟨shown, ⟨hreadable, rfl⟩, rfl⟩
    exact ⟨hreadable, rfl⟩
  · rintro ⟨hreadable, rfl⟩
    exact ⟨_, ⟨hreadable, rfl⟩, rfl⟩

/-- The score of a snapshot that can be analysed, from what its files cost. -/
theorem score_of_ofSnapshot (h : ofSnapshot s snapshot = .ok a) :
    a.score = max 0 (100 - (snapshot.sorted.map fun f => (shownBy s f).cost s.weights).sum) := by
  rw [(ofSnapshot_eq_ok.1 h).2, score_combine, shownByFiles, List.map_map]
  rfl

/-- The analysis of a file as a project of its own. -/
def ofOneFile (s : Settings) (f : File) : Analysis := combine s (shownByFiles s [f])

theorem ofSnapshot_ofFiles_singleton (h : Readable s f) :
    ofSnapshot s (Snapshot.ofFiles [f]) = .ok (ofOneFile s f) :=
  ofSnapshot_eq_ok.2 ⟨fun _ hg => List.mem_singleton.1 hg ▸ h, rfl⟩

/-! ## File by file -/

/-- An analysis puts together analyses of single files. -/
structure PutTogether (s : Settings) (parts : List Analysis) (a : Analysis) : Prop where
  issues : a.issues = parts.flatMap (·.issues)
  dependencies : a.dependencies = parts.flatMap (·.dependencies)
  filesToRemove : a.filesToRemove = parts.flatMap (·.filesToRemove)
  addresses : a.addresses = Text.distinct (parts.flatMap (·.addresses))
  score : a.score = max 0 (100 - ((a.issues.map fun i => weight s.weights i.severity).sum +
    s.weights.removedFile * a.filesToRemove.length))

theorem putTogether_combine {fs : List File} (hnodup : (fs.map File.path).Nodup)
    (hreadable : ∀ f ∈ fs, Readable s f) :
    PutTogether s (fs.map (ofOneFile s)) (combine s (shownByFiles s fs)) where
  issues := by
    have hpath : ∀ f ∈ fs, ∀ g ∈ (shownBy s f).signals, g.path = f.path := fun f hf g hg =>
      FileAnalysis.path_of_ofFile (ofFile_of_readable (hreadable f hf)) hg
    have hnumber := Issue.number_flatMap hnodup hpath
    simpa [combine, shownByFiles, ofOneFile, List.flatMap_map] using hnumber
  dependencies := by simp [combine, shownByFiles, ofOneFile, List.flatMap_map]
  filesToRemove := by
    simp only [combine, shownByFiles, ofOneFile, List.flatMap_map]
    induction fs with
    | nil => rfl
    | cons f fs ih =>
      rw [List.map_cons, List.nodup_cons] at hnodup
      rw [List.flatMap_cons, ← ih hnodup.2 fun g hg => hreadable g (List.mem_cons_of_mem _ hg),
        ← List.map_append, ← List.filter_append]
      rfl
  addresses := by
    simp only [combine, shownByFiles, ofOneFile, List.flatMap_map, List.map_cons, List.map_nil,
      List.flatMap_cons, List.flatMap_nil, List.append_nil]
    exact (Text.distinct_flatMap_distinct fs fun f => (shownBy s f).addresses).symm
  score := by
    rw [← penaltyOf_eq_sum]
    simp only [combine, scoreOf, List.length_map]

/-- The analysis of a snapshot of readable files is put together from those of its files, each as a
snapshot of its own and in the order of their paths; with weights that are not negative, no set of
files can be left out at a loss. -/
theorem analysis_file_by_file (hpaths : ∀ p ∈ snapshot.paths, validPath p = true)
    (hfiles : ∀ f ∈ snapshot.files, (FileAnalysis.ofFile s f).isOk = true) :
    ∃ a parts, ofSnapshot s snapshot = .ok a ∧
      List.Forall₂ (fun f part => ofSnapshot s (Snapshot.ofFiles [f]) = .ok part)
        snapshot.sorted parts ∧
      PutTogether s parts a ∧
      (Weights.NonNegative s.weights → ∀ paths, ∃ b,
        ofSnapshot s (snapshot.without paths) = .ok b ∧ a.score ≤ b.score) := by
  have hreadable : ∀ f ∈ snapshot.files, Readable s f := fun f hf =>
    ⟨hpaths f.path (List.mem_map_of_mem hf), hfiles f hf⟩
  have hsorted : ∀ f ∈ snapshot.sorted, Readable s f := fun f hf =>
    hreadable f (Snapshot.mem_sorted.1 hf)
  have hwhole := ofSnapshot_eq_ok.2 ⟨hreadable, rfl⟩
  refine ⟨_, snapshot.sorted.map (ofOneFile s), hwhole, ?_,
    putTogether_combine snapshot.nodup_sortedPaths hsorted, fun hweights paths => ?_⟩
  · refine List.forall₂_map_right_iff.2 (List.forall₂_same.2 fun f hf => ?_)
    exact ofSnapshot_ofFiles_singleton (hsorted f hf)
  · have hrest : ∀ f ∈ (snapshot.without paths).files, Readable s f := fun f hf =>
      hreadable f (List.mem_filter.1 hf).1
    have hpart := ofSnapshot_eq_ok.2 ⟨hrest, rfl⟩
    refine ⟨_, hpart, ?_⟩
    rw [score_of_ofSnapshot hwhole, score_of_ofSnapshot hpart, Snapshot.without,
      Snapshot.sorted_filter]
    have hcosts : ∀ x ∈ snapshot.sorted.map fun f => (shownBy s f).cost s.weights, 0 ≤ x := by
      intro x hx
      obtain ⟨f, -, rfl⟩ := List.mem_map.1 hx
      exact FileAnalysis.cost_nonneg hweights _
    have hkept : (snapshot.sorted.filter fun f => !paths.contains f.path).Sublist snapshot.sorted :=
      List.filter_sublist
    have hsum := (hkept.map fun f => (shownBy s f).cost s.weights).sum_le_sum hcosts
    omega

/-- Two files of which an identity of the one is close to an identity of the other, and a platform's
own file. -/
def closeNames : Snapshot := Snapshot.ofFiles [
  ⟨"a.ts:1#2.ts", .text "import '@v0/ui'\n"⟩, ⟨".bolt", .text ""⟩,
  ⟨"a.ts", .text "import '@lovable/ui'; import('@lovable/toast')\n"⟩]

theorem closeNames_file_by_file : ∃ a parts, ofSnapshot {} closeNames = .ok a ∧
    List.Forall₂ (fun f part => ofSnapshot {} (Snapshot.ofFiles [f]) = .ok part)
      closeNames.sorted parts ∧
    PutTogether {} parts a ∧
    a.issues.map Issue.id = ["proprietary-import@a.ts:1", "proprietary-import@a.ts:1#2",
      "proprietary-import@a.ts:1#2.ts:1"] ∧
    ∃ b, ofSnapshot {} (closeNames.without [".bolt"]) = .ok b ∧ a.score ≤ b.score := by
  have hpaths : ∀ p ∈ closeNames.paths, validPath p = true := by decide +kernel
  have hfiles : ∀ f ∈ closeNames.files, (FileAnalysis.ofFile {} f).isOk = true := by
    decide +kernel
  have hweights : Weights.NonNegative ({} : Settings).weights :=
    ⟨by decide, by decide, by decide, by decide⟩
  obtain ⟨a, parts, ha, hparts, htogether, hless⟩ := analysis_file_by_file hpaths hfiles
  have hids : (ofSnapshot {} closeNames).toOption.map (·.issues.map Issue.id) =
      some (["proprietary-import@a.ts:1", "proprietary-import@a.ts:1#2",
        "proprietary-import@a.ts:1#2.ts:1"] : List Text) := by decide +kernel
  rw [ha] at hids
  exact ⟨a, parts, ha, hparts, htogether, Option.some.inj hids, hless hweights _⟩

end Analysis

end Decouple
