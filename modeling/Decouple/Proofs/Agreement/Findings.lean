import Decouple.Proofs.Agreement.Manifests
import Decouple.Proofs.Rewriting.Dropping
import Decouple.Proofs.Rewriting.Pruning

/-!
# Dependencies, as they are found and as they are removed

What a rewrite removes from a manifest are the dependencies that the analysis finds incompatible, and
the analysis of the rewritten manifest finds the others, in their order (`Agreement`).

This holds of each manifest that can be read (`IsReadableManifest`): values of a `package.json` must not
nest too deep, and the markers of a requirements file must have a spelling.  A requirements file
whose markers have none is skipped by the analysis, but fails the rewrite (`not_forall_agrees`).
-/

namespace Decouple

open FileAnalysis (ofEntries ofManifest ofText)
open RequirementsFile (isWanted unnumbered)
open Json (rereadMembers)

namespace Rewrite

variable {s : Settings} {path t : Text} {r : Rewrite} {members : List (Text × Json)}
  {owner? : Text → Option Platform} {es es' : List ManifestEntry} {removed : List Text}

/-! ## What is compared -/

/-- What the analysis finds in a manifest, before (`fa`) and after (`fa'`) its rewrite `r`. -/
structure Agreement (fa fa' : FileAnalysis) (r : Rewrite) : Prop where
  /-- The notes name the dependencies that are found incompatible. -/
  announced : ∀ name, name ∈ Note.dependencies r.notes ↔
    ∃ d ∈ fa.dependencies, d.name = name ∧ d.verdict = .incompatible
  /-- The others are found again, in order. -/
  kept : fa'.dependencies = fa.dependencies.filter fun d => d.verdict ≠ .incompatible
  /-- The rewritten manifest shows nothing. -/
  settled : fa'.signals = []

/-- A manifest has a rewrite, both can be analysed, and the findings agree with the rewrite. -/
def Agrees (s : Settings) (path t : Text) : Prop :=
  ∃ r fa fa', file s path t = .ok r ∧ ofText s path t = .ok fa ∧ ofText s path r.content = .ok fa' ∧
    Agreement fa fa' r

/-- A manifest that can be read, as far as it is one: its values do not nest too deep, and all its
markers have a spelling. -/
def IsReadableManifest (path t : Text) : Prop :=
  if Text.lowerCase (fileName path) = ("package.json" : Text) then
    ∀ e, PackageJson.read t = .error e → e.tooDeep? = none
  else ∀ l ∈ Text.lines t, RequirementsFile.isWritable l.body = true

/-! ## Entries and findings -/

/-- Entries that stay (`es'`) and names that go, where the entries of platforms are removed. -/
structure LosesOwned (owner? : Text → Option Platform) (es es' : List ManifestEntry)
    (removed : List Text) : Prop where
  staying : unnumbered es' = unnumbered (es.filter fun e => (owner? e.name).isNone)
  going : ∀ name, name ∈ removed ↔ ∃ e ∈ es, e.name = name ∧ (owner? e.name).isSome

theorem verdict_eq_incompatible {owner : Option Platform} {e : ManifestEntry} :
    FileAnalysis.verdict owner e = .incompatible ↔ owner.isSome := by
  unfold FileAnalysis.verdict
  split
  · next h => exact iff_of_true rfl h
  · next h =>
    refine iff_of_false ?_ h
    split <;> exact Verdict.noConfusion

/-- The numbers of lines do not count for what is found. -/
theorem dependencies_congr (t' : Text) (h : unnumbered es' = unnumbered es) :
    (ofEntries owner? path t' es').dependencies = (ofEntries owner? path t es).dependencies := by
  have hentries (t : Text) (es : List ManifestEntry) : (ofEntries owner? path t es).dependencies =
      (ofEntries owner? path t (unnumbered es)).dependencies := by
    simp only [ofEntries, unnumbered, List.map_map]
    rfl
  rw [hentries, h, ← hentries]
  rfl

/-- The findings that are not incompatible are those of the entries that no platform owns. -/
theorem dependencies_filter : (ofEntries owner? path t es).dependencies.filter
      (fun d => d.verdict ≠ .incompatible) =
    (ofEntries owner? path t (es.filter fun e => (owner? e.name).isNone)).dependencies := by
  simp only [ofEntries, List.filter_map]
  congr 1
  refine List.filter_congr fun e _ => ?_
  rw [Function.comp_apply, Bool.eq_iff_iff, decide_eq_true_iff, Ne, verdict_eq_incompatible]
  simp

theorem agreement_of_losesOwned (hsettled : (ofEntries owner? path r.content es').signals = [])
    (h : LosesOwned owner? es es' (Note.dependencies r.notes)) :
    Agreement (ofEntries owner? path t es) (ofEntries owner? path r.content es') r where
  announced name := by
    rw [h.going]
    simp [ofEntries, verdict_eq_incompatible]
  kept := by
    rw [dependencies_filter]
    exact dependencies_congr _ h.staying
  settled := hsettled

/-! ## package.json -/

theorem lookup_map_snd (f : Text → Json → Json) (members : List (Text × Json)) (name : Text) :
    (members.map fun m => (m.1, f m.1 m.2)).lookup name = (members.lookup name).map (f name) := by
  induction members with
  | nil => rfl
  | cons m members ih =>
    rw [List.map_cons, List.lookup_cons, List.lookup_cons, ih]
    cases hname : name == m.1 with
    | false => rfl
    | true =>
      rw [eq_of_beq hname]
      rfl

/-- What is found under a name among pruned members that are read again. -/
theorem lookup_pruned (s : Settings) (members : List (Text × Json)) (name : Text) :
    (rereadMembers (members.map (prunedMember s))).lookup name =
      (members.lookup name).map fun j => (prunedMember s (name, j)).2.reread := by
  rw [Json.rereadMembers_eq_map, List.map_map,
    ← lookup_map_snd fun name j => (prunedMember s (name, j)).2.reread]
  congr 1
  refine List.map_congr_left fun m _ => ?_
  rw [Function.comp_apply, prunedMember_fst]

theorem doomedIn_section {area : Text} (harea : area ∈ PackageJson.dependencySections)
    (m : Text × Json) : doomedIn s area m = (s.packageOwner? m.1).isSome := by
  rw [doomedIn_of_mem harea, doomedDependency]

/-- The sections of pruned members declare what no platform owns. -/
theorem entriesOf_pruned (s : Settings) (members : List (Text × Json)) :
    PackageJson.entriesOf (rereadMembers (members.map (prunedMember s))) =
      (PackageJson.entriesOf members).filter fun e => (s.packageOwner? e.name).isNone := by
  rw [PackageJson.entriesOf, PackageJson.entriesOf, List.filter_flatMap]
  refine List.flatMap_congr fun area harea => ?_
  rw [lookup_pruned]
  cases members.lookup area with
  | none => rfl
  | some j =>
    cases j with
    | object deps =>
      simp only [Option.map_some, prunedMember, Json.reread, Json.rereadMembers_eq_map,
        List.map_map, List.filter_map]
      have hfilter : (deps.filter fun m => !doomedIn s area m) =
          deps.filter fun m => (s.packageOwner? m.1).isNone :=
        List.filter_congr fun m _ => by rw [doomedIn_section harea, Option.not_isSome]
      rw [hfilter]
      refine List.map_congr_left fun m _ => ?_
      simp only [Function.comp_apply, PackageJson.entryOf, text?_reread]
    | null => rfl
    | bool b => rfl
    | int k => rfl
    | real x => rfl
    | string u => rfl
    | array items => rfl

/-- What leaves the sections are the names of the entries that a platform owns. -/
theorem sections_doomedNames (s : Settings) (members : List (Text × Json)) :
    PackageJson.dependencySections.flatMap (doomedNames s members) =
      ((PackageJson.entriesOf members).filter fun e => (s.packageOwner? e.name).isSome).map
        (·.name) := by
  rw [PackageJson.entriesOf, List.filter_flatMap, List.map_flatMap]
  refine List.flatMap_congr fun area harea => ?_
  unfold doomedNames
  cases members.lookup area with
  | none => rfl
  | some value =>
    cases value with
    | object deps =>
      dsimp only
      rw [List.filter_map, List.map_map]
      congr 1
      exact List.filter_congr fun m _ => doomedIn_section harea m
    | null => rfl
    | bool b => rfl
    | int k => rfl
    | real x => rfl
    | string u => rfl
    | array items => rfl

theorem dependencies_packageNotes (s : Settings) (members : List (Text × Json)) :
    Note.dependencies (packageNotes s members) =
      Text.distinct (PackageJson.dependencySections.flatMap (doomedNames s members)) := by
  rw [Note.dependencies, packageNotes, List.filterMap_append, List.filterMap_map,
    List.filterMap_map]
  have hscripts : (doomedNames s members "scripts").filterMap
      (Note.dependency? ∘ Note.scriptRemoved) = [] := List.filterMap_eq_nil_iff.2 fun _ _ => rfl
  rw [hscripts, List.append_nil]
  exact List.filterMap_some

/-- A rewritten `package.json` is read again, and its entries are those that no platform owns. -/
theorem entries_packageMembers (hread : PackageJson.read t = .ok members) :
    PackageJson.entries (packageMembers s t members).content =
      .ok ((PackageJson.entriesOf members).filter fun e => (s.packageOwner? e.name).isNone) := by
  by_cases hn : packageNotes s members = []
  · rw [packageMembers_content_of_notes (packageMembers_notes.trans hn), PackageJson.entries, hread]
    have hfree := (packageNotes_eq_nil.1 hn).1
    rw [List.filter_eq_self.2 fun e he => by rw [hfree e he]; rfl]
    rfl
  · obtain ⟨blank, hblank, hcontent, -⟩ := packageMembers_content_of_ne t hn
    have hfits := fits_pruned (s := s) (Json.fits_of_read (read_object hread))
    rw [hcontent, PackageJson.entries, read_written hfits blank hblank, ← entriesOf_pruned]
    rfl

theorem packageJson_losesOwned (s : Settings) (t : Text) (members : List (Text × Json)) :
    LosesOwned s.packageOwner? (PackageJson.entriesOf members)
      ((PackageJson.entriesOf members).filter fun e => (s.packageOwner? e.name).isNone)
      (Note.dependencies (packageMembers s t members).notes) where
  staying := rfl
  going name := by
    rw [packageMembers_notes, dependencies_packageNotes, Text.mem_distinct, sections_doomedNames]
    simp only [List.mem_map, List.mem_filter]
    exact exists_congr fun e => by tauto

/-- The rewrite of a `package.json` removes what the analysis finds incompatible. -/
theorem packageJson_agrees (hname : Text.lowerCase (fileName path) = ("package.json" : Text))
    (hdeep : ∀ e, PackageJson.read t = .error e → e.tooDeep? = none) :
    ∃ r fa fa', packageJson s t = .ok r ∧ ofManifest s path t = .ok fa ∧
      ofManifest s path r.content = .ok fa' ∧ Agreement fa fa' r := by
  simp only [ofManifest, if_pos hname]
  cases hread : PackageJson.read t with
  | error e =>
    have hnone := hdeep e hread
    refine ⟨⟨t, []⟩, {}, {}, ?_, ?_, ?_, ?_⟩
    · simp only [packageJson, hread, hnone, Option.elim_none]
    · simp only [PackageJson.entries, hread, Except.map, hnone, Option.elim_none]
    · simp only [PackageJson.entries, hread, Except.map, hnone, Option.elim_none]
    · exact ⟨by simp [Note.dependencies], rfl, rfl⟩
  | ok members =>
    refine ⟨packageMembers s t members, ofEntries s.packageOwner? path t _,
      ofEntries s.packageOwner? path _ _, ?_, ?_, ?_,
      agreement_of_losesOwned ?_ (packageJson_losesOwned s t members)⟩
    · rw [packageJson, hread]
    · rw [PackageJson.entries, hread]
      rfl
    · rw [entries_packageMembers hread]
    · rw [ofEntries_signals_eq_nil]
      intro e he
      simpa using (List.mem_filter.1 he).2

/-! ## Requirements files -/

/-- The platform of a package, however its name is spelled. -/
def spelledOwner? (s : Settings) (name : Text) : Option Platform :=
  s.packageOwner? (PackageName.normal name)

/-- An entry is among those that are dropped exactly if a platform owns it. -/
theorem isWanted_owned {e : ManifestEntry} (he : e ∈ es) :
    isWanted ((es.filter (isOwned s)).map (·.name)) e = (spelledOwner? s e.name).isSome := by
  rw [isWanted, Bool.eq_iff_iff, List.contains_iff_mem, List.map_map, List.mem_map]
  constructor
  · rintro ⟨k, hk, hsame⟩
    have howned := (List.mem_filter.1 hk).2
    rwa [isOwned, show PackageName.normal k.name = PackageName.normal e.name from hsame] at howned
  · intro howned
    exact ⟨e, List.mem_filter.2 ⟨he, howned⟩, rfl⟩

/-- A requirements file that can be read has a rewrite, which can be read as what no platform owns. -/
theorem requirements_losesOwned (s : Settings) (hes : RequirementsFile.entries t = .ok es) :
    ∃ r es', requirements s t = .ok r ∧ RequirementsFile.entries r.content = .ok es' ∧
      LosesOwned (spelledOwner? s) es es' (Note.dependencies r.notes) := by
  have hr : requirements s t = if (es.filter (isOwned s)).isEmpty then .ok ⟨t, []⟩ else
      (RequirementsFile.drop t ((es.filter (isOwned s)).map (·.name))).map fun dropped =>
        ⟨dropped.1, dropped.2.map .dependencyRemoved⟩ := by
    rw [requirements, hes]
    rfl
  rw [hr]
  by_cases hfree : es.filter (isOwned s) = []
  · have hnone := List.filter_eq_nil_iff.1 hfree
    rw [hfree]
    refine ⟨⟨t, []⟩, es, rfl, hes, ?_, fun name => ?_⟩
    · rw [List.filter_eq_self.2 fun e he => ?_]
      simpa [isOwned, spelledOwner?] using hnone e he
    · refine iff_of_false List.not_mem_nil ?_
      rintro ⟨e, he, -, howned⟩
      exact hnone e he howned
  · obtain ⟨es₁, kept, removed, hes₁, hdrop, hpruning⟩ :=
      RequirementsFile.prunes_of_entries ((es.filter (isOwned s)).map (·.name)) hes
    obtain rfl : es = es₁ := Except.ok.inj (hes.symm.trans hes₁)
    obtain ⟨es', hes', hsame⟩ := hpruning.reread
    rw [if_neg (by simpa using hfree), hdrop]
    refine ⟨⟨kept, removed.map .dependencyRemoved⟩, es', rfl, hes', ?_, fun name => ?_⟩
    · rw [hsame]
      congr 1
      refine List.filter_congr fun e he => ?_
      rw [isWanted_owned he, Option.not_isSome]
    · have hnotes : Note.dependencies (removed.map .dependencyRemoved) = removed := by
        rw [Note.dependencies, List.filterMap_map]
        exact List.filterMap_some
      rw [hnotes, hpruning.announced, List.mem_map]
      refine exists_congr fun e => ?_
      rw [List.mem_filter, and_assoc, and_congr_right_iff]
      intro he
      rw [isWanted_owned he, and_comm]

/-- The rewrite of a requirements file removes what the analysis finds incompatible. -/
theorem requirements_agrees (hname : ¬Text.lowerCase (fileName path) = ("package.json" : Text))
    (hes : RequirementsFile.entries t = .ok es) :
    ∃ r fa fa', requirements s t = .ok r ∧ ofManifest s path t = .ok fa ∧
      ofManifest s path r.content = .ok fa' ∧ Agreement fa fa' r := by
  obtain ⟨r, es', hr, hes', hloses⟩ := requirements_losesOwned s hes
  have hanalysed {t : Text} {es : List ManifestEntry} (h : RequirementsFile.entries t = .ok es) :
      ofManifest s path t = .ok (ofEntries (spelledOwner? s) path t es) := by
    rw [ofManifest, if_neg hname, h]
    rfl
  refine ⟨r, _, _, hr, hanalysed hes, hanalysed hes', agreement_of_losesOwned ?_ hloses⟩
  -- What is shown of a rewritten manifest is known already.
  have hmanifest : manifest s path t = .ok r := by
    rw [manifest, if_neg hname]
    exact Step.mapError_eq_ok.2 hr
  obtain ⟨fa', hfa', hsettled⟩ := ofManifest_rewritten hmanifest
  rw [hanalysed hes'] at hfa'
  rw [Except.ok.inj hfa', hsettled]

/-! ## Manifests -/

/-- A manifest that has a rewrite can be read. -/
theorem isReadableManifest_of_manifest (h : manifest s path t = .ok r) :
    IsReadableManifest path t := by
  unfold manifest at h
  unfold IsReadableManifest
  split at h
  · next hname =>
    rw [if_pos hname]
    intro e hread
    cases he : e.tooDeep? with
    | none => rfl
    | some holder =>
      simp only [packageJson, hread, he, Option.elim_some, reduceCtorEq] at h
  · next hname =>
    rw [if_neg hname, ← RequirementsFile.exists_entries_iff]
    obtain ⟨es, hes, -⟩ := Step.bind_eq_ok.1 (Step.mapError_eq_ok.1 h)
    exact ⟨es, hes⟩

/-- The rewrite of a manifest that can be read removes what the analysis finds incompatible. -/
theorem manifest_agrees (s : Settings) (h : IsReadableManifest path t) :
    ∃ r fa fa', manifest s path t = .ok r ∧ ofManifest s path t = .ok fa ∧
      ofManifest s path r.content = .ok fa' ∧ Agreement fa fa' r := by
  unfold IsReadableManifest at h
  unfold manifest
  split at h
  · next hname =>
    simp only [if_pos hname]
    exact packageJson_agrees hname h
  · next hname =>
    obtain ⟨es, hes⟩ := RequirementsFile.exists_entries_iff.2 h
    obtain ⟨r, fa, fa', hr, hfound⟩ := requirements_agrees (s := s) hname hes
    rw [if_neg hname]
    exact ⟨r, fa, fa', Step.mapError_eq_ok.2 hr, hfound⟩

theorem file_of_manifest (hrole : FileRole.ofPath path = .manifest) (t : Text) :
    file s path t = manifest s path t := by rw [file, hrole]

theorem ofText_of_manifest (hrole : FileRole.ofPath path = .manifest) (t : Text) :
    ofText s path t = ofManifest s path t := by rw [ofText, hrole]

/-- Where requirements are listed. -/
def requirementsPath : Text := "requirements.txt"

/-- A platform's package beside another. -/
def ownedAndFree : Text := "emergentintegrations\nflask\n"

end Rewrite

end Decouple
