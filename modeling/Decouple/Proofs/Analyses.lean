import Decouple.Analysis.Basic
import Decouple.Proofs.Snapshots
import Decouple.Proofs.Traversal

/-!
# What an analysis says of each file

An analysis looks at the files in the order of their paths, each by itself, and stops at the first
file that it cannot look at (`ofFiles_eq_ok`).  The files to remove are those under a path of a
platform.
-/

namespace Decouple

namespace FileAnalysis

variable {s : Settings} {f : File} {fa : FileAnalysis}

theorem ofManifest_removedFor {path t : Text} (h : ofManifest s path t = .ok fa) :
    fa.removedFor = none := by
  unfold ofManifest at h
  split at h
  · split at h
    · rw [← Except.ok.inj h]
      rfl
    · next e _ =>
      cases he : e.tooDeep? with
      | none =>
        rw [he] at h
        rw [← Except.ok.inj h]
      | some holder =>
        rw [he] at h
        cases h
  · split at h
    · rw [← Except.ok.inj h]
      rfl
    · rw [← Except.ok.inj h]

theorem ofCode_removedFor {path t : Text} {role : FileRole} (h : ofCode s path t role = .ok fa) :
    fa.removedFor = none := by
  obtain ⟨markers, -, hfa⟩ := Step.map_eq_ok.1 h
  rw [← hfa]

theorem ofText_removedFor {path t : Text} (h : ofText s path t = .ok fa) :
    fa.removedFor = none := by
  unfold ofText at h
  split at h
  · exact ofManifest_removedFor h
  · rw [← Except.ok.inj h]
  · exact ofCode_removedFor (Step.mapError_eq_ok.1 h)

/-- A file is to be removed for the platform of its path. -/
theorem ofFile_removedFor (h : ofFile s f = .ok fa) : fa.removedFor = s.pathOwner? f.path := by
  unfold ofFile at h
  split at h
  · next p hp => rw [← Except.ok.inj h, hp]
  · next hp =>
    rw [hp]
    split at h
    · rw [← Except.ok.inj h]
    · exact ofText_removedFor h

end FileAnalysis

namespace Analysis

variable {s : Settings} {snapshot : Snapshot} {a : Analysis} {f : File}

/-- What the analysis of one file beside its path is. -/
def Shows (s : Settings) (f : File) (shown : Text × FileAnalysis) : Prop :=
  validPath f.path = true ∧ shown.1 = f.path ∧ FileAnalysis.ofFile s f = .ok shown.2

theorem ofFiles_eq_ok {fs : List File} {shown : List (Text × FileAnalysis)} :
    ofFiles s fs = .ok shown ↔ List.Forall₂ (Shows s) fs shown := by
  induction fs generalizing shown with
  | nil =>
    rw [List.forall₂_nil_left_iff]
    exact ⟨fun h => (Except.ok.inj h).symm, fun h => by rw [h]; rfl⟩
  | cons f fs ih =>
    rw [List.forall₂_cons_left_iff]
    unfold ofFiles
    constructor
    · intro h
      split at h
      · cases h
      · next hv =>
        split at h
        · cases h
        · next fa hfa =>
          obtain ⟨rest, hrest, hshown⟩ := Step.map_eq_ok.1 h
          exact ⟨(f.path, fa), rest, ⟨by simpa using hv, rfl, hfa⟩, ih.1 hrest, hshown.symm⟩
    · rintro ⟨⟨p, fa⟩, rest, ⟨hv, hp, hfa⟩, hrest, rfl⟩
      cases hp
      rw [hv, hfa, ih.2 hrest]
      rfl

/-- The files to remove are those of the snapshot under a platform's path. -/
theorem mem_filesToRemove (h : ofSnapshot s snapshot = .ok a) {p : Text} :
    p ∈ a.filesToRemove ↔ p ∈ snapshot.paths ∧ s.removesPath p = true := by
  obtain ⟨shown, hshown, rfl⟩ := Step.map_eq_ok.1 h
  have hfiles := ofFiles_eq_ok.1 hshown
  simp only [combine, List.mem_map, List.mem_filter]
  constructor
  · rintro ⟨⟨p, fa⟩, ⟨hmem, hremoved⟩, rfl⟩
    obtain ⟨f, hf, -, hp, hfa⟩ := Related.exists_left hfiles hmem
    dsimp only at hp hfa
    subst hp
    refine ⟨List.mem_map_of_mem (Snapshot.mem_sorted.1 hf), ?_⟩
    rwa [Settings.removesPath, ← FileAnalysis.ofFile_removedFor hfa]
  · rintro ⟨hp, hremoved⟩
    obtain ⟨f, hf, rfl⟩ := List.mem_map.1 hp
    obtain ⟨⟨p, fa⟩, hmem, -, hpath, hfa⟩ :=
      Related.exists_right hfiles (Snapshot.mem_sorted.2 hf)
    dsimp only at hpath hfa
    subst hpath
    refine ⟨(f.path, fa), ⟨hmem, ?_⟩, rfl⟩
    rw [FileAnalysis.ofFile_removedFor hfa]
    exact hremoved

/-! ## Files that show nothing -/

theorem flatMap_filter_of_nil {α β : Type} {q : α → Bool} {g : α → List β} {as : List α}
    (h : ∀ a ∈ as, q a = false → g a = []) : (as.filter q).flatMap g = as.flatMap g := by
  induction as with
  | nil => rfl
  | cons a as ih =>
    rw [List.forall_mem_cons] at h
    cases hq : q a with
    | true => rw [List.filter_cons_of_pos hq, List.flatMap_cons, List.flatMap_cons, ih h.2]
    | false =>
      rw [List.filter_cons_of_neg (by simp [hq]), List.flatMap_cons, h.1 hq, List.nil_append, ih h.2]

/-- What shows nothing adds nothing to an analysis. -/
theorem combine_filter {q : Text × FileAnalysis → Bool} {shown : List (Text × FileAnalysis)}
    (h : ∀ x ∈ shown, q x = false → x.2 = {}) :
    combine s (shown.filter q) = combine s shown := by
  have hflat {β : Type} (g : FileAnalysis → List β) (hg : g {} = []) :
      (shown.filter q).flatMap (fun x => g x.2) = shown.flatMap fun x => g x.2 :=
    flatMap_filter_of_nil fun x hx hq => by rw [h x hx hq, hg]
  have hremoved : (shown.filter q).filter (fun x => x.2.removedFor.isSome) =
      shown.filter fun x => x.2.removedFor.isSome := by
    rw [List.filter_filter]
    refine List.filter_congr fun x hx => ?_
    cases hq : q x with
    | true => rw [Bool.and_true]
    | false =>
      rw [h x hx hq]
      rfl
  have howners : (shown.filter q).filterMap (fun x => x.2.removedFor.map (·.name)) =
      shown.filterMap fun x => x.2.removedFor.map (·.name) := by
    rw [List.filterMap_filter]
    refine List.filterMap_congr fun x hx => ?_
    cases hq : q x with
    | true => rfl
    | false =>
      rw [h x hx hq]
      rfl
  unfold combine
  rw [hremoved, howners, hflat (·.signals) rfl, hflat (·.dependencies) rfl, hflat (·.addresses) rfl]

/-- Whether a file shows nothing, whatever its content: no platform's path, and of no role. -/
def IsSilent (s : Settings) (path : Text) : Prop :=
  validPath path = true ∧ s.pathOwner? path = none ∧ FileRole.ofPath path = .other

instance (s : Settings) (path : Text) : Decidable (IsSilent s path) :=
  inferInstanceAs (Decidable (_ ∧ _))

theorem shows_of_isSilent (h : IsSilent s f.path) : Shows s f (f.path, {}) := by
  obtain ⟨hvalid, howner, hrole⟩ := h
  refine ⟨hvalid, rfl, ?_⟩
  rw [FileAnalysis.ofFile, howner]
  cases hc : f.content with
  | bytes b => rfl
  | text t =>
    dsimp only
    rw [FileAnalysis.ofText, hrole]

theorem ofFiles_filter {q : Text → Bool} {fs : List File}
    (h : ∀ f ∈ fs, q f.path = false → IsSilent s f.path) :
    ofFiles s (fs.filter fun f => q f.path) =
      (ofFiles s fs).map fun shown => shown.filter fun x => q x.1 := by
  induction fs with
  | nil => rfl
  | cons f fs ih =>
    rw [List.forall_mem_cons] at h
    cases hq : q f.path with
    | false =>
      obtain ⟨hvalid, -, hshown⟩ := shows_of_isSilent (h.1 hq)
      rw [List.filter_cons_of_neg (by simp [hq]), ih h.2, ofFiles, hvalid, hshown]
      cases ofFiles s fs with
      | error e => rfl
      | ok shown => simp [Except.map, hq]
    | true =>
      rw [List.filter_cons_of_pos (by simp [hq]), ofFiles, ofFiles, ih h.2]
      cases validPath f.path with
      | false => rfl
      | true =>
        cases FileAnalysis.ofFile s f with
        | error e => rfl
        | ok fa =>
          cases ofFiles s fs with
          | error e => rfl
          | ok shown => simp [Except.map, hq]

/-- What shows nothing can be left out before an analysis. -/
theorem ofSnapshot_filter {q : Text → Bool} (h : ∀ p, q p = false → IsSilent s p)
    (snapshot : Snapshot) :
    ofSnapshot s (snapshot.filter fun f => q f.path) = ofSnapshot s snapshot := by
  rw [ofSnapshot, Snapshot.sorted_filter, ofFiles_filter fun f _ hq => h f.path hq, ofSnapshot]
  cases hshown : ofFiles s snapshot.sorted with
  | error e => rfl
  | ok shown =>
    refine congrArg Except.ok (combine_filter fun x hx hq => ?_)
    obtain ⟨f, -, -, hpath, hfa⟩ := Related.exists_left (ofFiles_eq_ok.1 hshown) hx
    rw [hpath] at hq
    obtain ⟨-, -, hnothing⟩ := shows_of_isSilent (h f.path hq)
    exact Except.ok.inj (hfa.symm.trans hnothing)

/-- Snapshots that agree on every path at which a file might show something have one analysis. -/
theorem ofSnapshot_eq_of_get? {t : Snapshot} (h : ∀ p, IsSilent s p ∨ snapshot.get? p = t.get? p) :
    ofSnapshot s snapshot = ofSnapshot s t := by
  have hsilent : ∀ p, (!decide (IsSilent s p)) = false → IsSilent s p := fun p hp => by
    simpa using hp
  rw [← ofSnapshot_filter hsilent snapshot, ← ofSnapshot_filter hsilent t, ofSnapshot, ofSnapshot,
    Snapshot.sorted_eq_of_get?]
  intro p
  have hfilter (u : Snapshot) := u.get?_filter (p := p) (q := fun p => !decide (IsSilent s p))
  rw [hfilter, hfilter]
  rcases h p with hp | hp
  · simp [hp]
  · rw [hp]

end Analysis

end Decouple
