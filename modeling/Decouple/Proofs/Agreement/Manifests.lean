import Decouple.Analysis.File
import Decouple.Proofs.Rewriting.Manifests

/-!
# Manifests, as they are analysed and as they are rewritten

The analysis reports the dependencies of a manifest that a platform owns; the rewrite removes them.
The two read a manifest in different ways, entry by entry and member by member, and they agree: a
manifest that has a rewrite can be analysed, and the rewrite finds nothing exactly when the analysis
reports nothing and no script of a `package.json` runs a platform's tool (`manifest_notes`).  Of
scripts the analysis says nothing.
-/

namespace Decouple

open FileAnalysis (ofEntries ofManifest)

namespace Rewrite

variable {s : Settings} {path t : Text} {r : Rewrite} {members : List (Text × Json)}

/-- Entries show nothing exactly when no platform owns one. -/
theorem ofEntries_signals_eq_nil {owner? : Text → Option Platform} {es : List ManifestEntry} :
    (ofEntries owner? path t es).signals = [] ↔ ∀ e ∈ es, owner? e.name = none := by
  simp [ofEntries, List.filterMap_eq_nil_iff]

/-! ## package.json -/

/-- A section has nothing to remove exactly when no platform owns an entry of it. -/
theorem doomedNames_eq_nil {area : Text} (harea : area ∈ PackageJson.dependencySections) :
    doomedNames s members area = [] ↔
      ∀ deps, members.lookup area = some (.object deps) →
        ∀ m ∈ deps, s.packageOwner? m.1 = none := by
  have hdoomed (m : Text × Json) : doomedIn s area m = (s.packageOwner? m.1).isSome := by
    rw [doomedIn, if_pos (by simpa using harea)]
    rfl
  unfold doomedNames
  split
  · next inner hlookup =>
    rw [hlookup, List.map_eq_nil_iff, List.filter_eq_nil_iff]
    simp only [hdoomed, Bool.not_eq_true, Option.isSome_eq_false_iff, Option.isNone_iff_eq_none,
      Option.some.injEq, Json.object.injEq, forall_eq']
  · next hnone =>
    refine iff_of_true rfl fun deps hdeps => ?_
    exact absurd hdeps (hnone deps)

/-- The sections have nothing to remove exactly when no platform owns an entry. -/
theorem sections_eq_nil_iff :
    PackageJson.dependencySections.flatMap (doomedNames s members) = [] ↔
      ∀ e ∈ PackageJson.entriesOf members, s.packageOwner? e.name = none := by
  rw [List.flatMap_eq_nil_iff]
  constructor
  · intro h e he
    obtain ⟨area, harea, he⟩ := List.mem_flatMap.1 he
    split at he
    · next deps hlookup =>
      obtain ⟨m, hm, rfl⟩ := List.mem_map.1 he
      exact (doomedNames_eq_nil harea).1 (h area harea) deps hlookup m hm
    · cases he
  · intro h area harea
    refine (doomedNames_eq_nil harea).2 fun deps hlookup m hm => ?_
    refine h (PackageJson.entryOf area m) (List.mem_flatMap.2 ⟨area, harea, ?_⟩)
    rw [hlookup]
    exact List.mem_map_of_mem hm

/-- A script of a `package.json` runs a platform's tool. -/
def RunsPlatformTool (s : Settings) (t : Text) : Prop :=
  ∃ members, PackageJson.read t = .ok members ∧ doomedNames s members "scripts" ≠ []

theorem packageNotes_eq_nil : packageNotes s members = [] ↔
    (∀ e ∈ PackageJson.entriesOf members, s.packageOwner? e.name = none) ∧
      doomedNames s members "scripts" = [] := by
  rw [packageNotes, List.append_eq_nil_iff, List.map_eq_nil_iff, List.map_eq_nil_iff,
    Text.distinct_eq_nil, sections_eq_nil_iff]

theorem packageMembers_notes : (packageMembers s t members).notes = packageNotes s members := by
  unfold packageMembers
  dsimp only
  split
  · next h => exact (List.isEmpty_iff.1 h).symm
  · rfl

/-- A `package.json` that has a rewrite can be analysed; there is nothing to rewrite exactly when
the analysis shows nothing and no script runs a platform's tool. -/
theorem packageJson_notes (hname : Text.lowerCase (fileName path) = ("package.json" : Text))
    (h : packageJson s t = .ok r) : ∃ fa, ofManifest s path t = .ok fa ∧
      (r.notes = [] ↔ fa.signals = [] ∧ ¬RunsPlatformTool s t) := by
  unfold ofManifest
  rw [if_pos hname]
  unfold packageJson at h
  unfold PackageJson.entries RunsPlatformTool
  cases hread : PackageJson.read t with
  | error e =>
    rw [hread] at h
    dsimp only at h
    cases he : e.tooDeep? with
    | none =>
      rw [he] at h
      refine ⟨{}, ?_, ?_⟩
      · simp only [Except.map, he, Option.elim_none]
      · rw [← Except.ok.inj h]
        simp
    | some holder =>
      rw [he] at h
      cases h
  | ok members =>
    rw [hread] at h
    rw [← Except.ok.inj h]
    refine ⟨_, rfl, ?_⟩
    rw [packageMembers_notes, packageNotes_eq_nil, ofEntries_signals_eq_nil]
    simp

/-! ## Requirements files -/

/-- A requirements file that has a rewrite can be analysed, and there is nothing to rewrite exactly
when the analysis shows nothing. -/
theorem requirements_notes (hname : ¬Text.lowerCase (fileName path) = ("package.json" : Text))
    (h : requirements s t = .ok r) : ∃ fa, ofManifest s path t = .ok fa ∧
      (r.notes = [] ↔ fa.signals = []) := by
  obtain ⟨es, hes, hr⟩ := Step.bind_eq_ok.1 h
  unfold ofManifest
  rw [if_neg hname, hes]
  refine ⟨_, rfl, ?_⟩
  rw [ofEntries_signals_eq_nil]
  dsimp only at hr
  split at hr
  · next hempty =>
    rw [← Except.ok.inj hr]
    refine iff_of_true rfl fun e he => ?_
    have hfree := List.filter_eq_nil_iff.1 (List.isEmpty_iff.1 hempty) e he
    simpa using hfree
  · next hne =>
    -- An owned entry is among those that are dropped, each of which leaves a note.
    obtain ⟨e, he⟩ := List.exists_mem_of_ne_nil _ fun hnil => hne (List.isEmpty_iff.2 hnil)
    obtain ⟨hmem, howned⟩ := List.mem_filter.1 he
    obtain ⟨⟨kept, removed⟩, hdrop, rfl⟩ := Step.map_eq_ok.1 hr
    refine iff_of_false (fun hnotes => ?_) fun hall => ?_
    · have hremoved : removed = [] := List.map_eq_nil_iff.1 hnotes
      obtain ⟨es', hes', hd⟩ := Step.map_eq_ok.1 hdrop
      obtain rfl : es = es' := Except.ok.inj (hes.symm.trans hes')
      have hwanted : e ∈ RequirementsFile.wanted ((es.filter fun e =>
          (s.packageOwner? (PackageName.normal e.name)).isSome).map (·.name)) es := by
        refine List.mem_filter.2 ⟨hmem, ?_⟩
        rw [List.contains_iff_mem]
        exact List.mem_map_of_mem (List.mem_map_of_mem he)
      dsimp only at hd
      split at hd
      · next hnone =>
        rw [List.isEmpty_iff.1 hnone] at hwanted
        cases hwanted
      · obtain ⟨-, hnames⟩ := Prod.ext_iff.1 hd
        rw [hremoved] at hnames
        rw [List.map_eq_nil_iff.1 hnames] at hwanted
        cases hwanted
    · rw [hall e hmem] at howned
      cases howned

/-! ## Manifests -/

/-- A script of a manifest runs a platform's tool. -/
def ScriptsRunPlatform (s : Settings) (path t : Text) : Prop :=
  Text.lowerCase (fileName path) = ("package.json" : Text) ∧ RunsPlatformTool s t

/-- A manifest that has a rewrite can be analysed; there is nothing to rewrite exactly when the
analysis shows nothing and no script runs a platform's tool. -/
theorem manifest_notes (h : manifest s path t = .ok r) : ∃ fa, ofManifest s path t = .ok fa ∧
    (r.notes = [] ↔ fa.signals = [] ∧ ¬ScriptsRunPlatform s path t) := by
  unfold manifest at h
  unfold ScriptsRunPlatform
  split at h
  · next hname =>
    obtain ⟨fa, hfa, hnotes⟩ := packageJson_notes hname h
    exact ⟨fa, hfa, by simpa [hname] using hnotes⟩
  · next hname =>
    obtain ⟨fa, hfa, hnotes⟩ := requirements_notes hname (Step.mapError_eq_ok.1 h)
    exact ⟨fa, hfa, by simpa [hname] using hnotes⟩

/-- A rewritten manifest can be analysed and shows nothing. -/
theorem ofManifest_rewritten (h : manifest s path t = .ok r) :
    ∃ fa, ofManifest s path r.content = .ok fa ∧ fa.signals = [] := by
  obtain ⟨fa, hfa, hnotes⟩ := manifest_notes (manifest_again h)
  exact ⟨fa, hfa, (hnotes.1 rfl).1⟩

end Rewrite

end Decouple
