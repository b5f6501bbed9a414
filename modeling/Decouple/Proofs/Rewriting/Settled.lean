import Decouple.Proofs.Rewriting.Edits
import Decouple.Proofs.Texts
import Decouple.Proofs.Traversal
import Decouple.Rewrite.Basic

/-!
# Settled files

A file is *settled* when none of the rules of its role finds anything in it: no statement that
takes in a platform's module, no registration of a plugin that such a statement binds, no tag that
names a platform, no comment marker and no data attribute of a platform.  Each condition looks at
the text alone and names the matches of one pattern.

For each role the rewrite makes no note exactly on the settled texts (`source_notes`,
`markup_notes`, `bundlerConfig_notes`), although its later steps work on what the earlier ones have
left: a chain of announced steps without notes has not moved the text.
-/

namespace Decouple

open Pattern Signature

namespace Rewrite

variable {s : Settings} {t : Text}

/-! ## The conditions -/

/-- No comment marker and no data attribute of a platform. -/
structure TraceFree (s : Settings) (t : Text) : Prop where
  markers : (commentMarker (keywords s.platforms)).findAll t = []
  attributes : ∀ m ∈ dataAttribute.findAll t, attributeMatchOwner? s m = none

/-- No statement that takes in a module of which `owned` holds. -/
structure ImportFree (owned : Text → Bool) (t : Text) : Prop where
  imports : ∀ m ∈ importStatement.findAll t, owned (m.textOf .spec) = false
  requires : ∀ m ∈ requireStatement.findAll t, owned (m.textOf .spec) = false

/-- Whether a specifier belongs to a platform. -/
def isPlatformSpecifier (s : Settings) (specifier : Text) : Bool :=
  (s.specifierOwner? specifier).isSome

/-- A source file in which no rule finds anything. -/
structure SourceSettled (s : Settings) (t : Text) : Prop where
  imports : ImportFree (isPlatformSpecifier s) t
  traces : TraceFree s t

/-- A bundler's configuration in which no rule finds anything. -/
structure BundlerSettled (s : Settings) (t : Text) : Prop where
  imports : ImportFree (isPlatformModule s) t
  plugins : ∀ name ∈ pluginNames s t, (registration name).findAll t = []

/-- An HTML file in which no rule finds anything. -/
structure MarkupSettled (s : Settings) (t : Text) : Prop where
  scripts : ∀ m ∈ scriptTag.findAll t, scriptOwner? s m.text = none
  links : ∀ m ∈ linkTag.findAll t, tagOwner? s m.text = none
  metas : ∀ m ∈ metaTag.findAll t, tagOwner? s m.text = none
  traces : TraceFree s t

/-- A file in which no rule of its role finds anything.  Nothing is asked of manifests, which a
rewrite leaves with nothing to remove, and of files of no role, which have no rules. -/
def Settled (s : Settings) (path t : Text) : Prop :=
  match FileRole.ofPath path with
  | .bundlerConfig => BundlerSettled s t
  | .entryHtml => MarkupSettled s t
  | .source => SourceSettled s t
  | .manifest | .other => True

/-! ## The end of a chain -/

@[simp] theorem finish_notes (before : Text) (edited : Text × List Note) :
    (finish before edited).notes = edited.2 := by
  unfold finish
  split
  · next h => exact (List.isEmpty_iff.1 h).symm
  · rfl

/-- Without notes the text before is kept. -/
theorem finish_content_of_notes {before : Text} {edited : Text × List Note} (h : edited.2 = []) :
    (finish before edited).content = before := by
  simp [finish, h]

/-! ## Comment markers and data attributes -/

theorem dropMarkers_notes : (dropMarkers s t).2 = [] ↔
    (commentMarker (keywords s.platforms)).findAll t = [] := by
  rw [← edit_all_notes_eq_nil fun _ => (([] : Text), ())]
  simp only [dropMarkers]
  split
  · next h => simpa using h
  · next h => simpa using h

theorem dropMarkers_announced (s : Settings) : Announced (dropMarkers s) := by
  intro t hn
  apply edit_announced
  rw [edit_all_notes_eq_nil]
  exact dropMarkers_notes.1 hn

theorem dropAttributes_notes : (dropAttributes s t).2 = [] ↔
    ∀ m ∈ dataAttribute.findAll t, attributeMatchOwner? s m = none := by
  simp only [dropAttributes, List.map_eq_nil_iff, Text.distinct_eq_nil, edit_notes_eq_nil,
    Option.map_eq_none_iff]

theorem dropAttributes_announced (s : Settings) : Announced (dropAttributes s) := by
  intro t hn
  exact edit_announced _ _ t (edit_notes_eq_nil.2 fun m hm =>
    Option.map_eq_none_iff.2 (dropAttributes_notes.1 hn m hm))

theorem dropTraces_announced (s : Settings) : Announced (dropTraces s) := fun t hn =>
  (dropAttributes_announced s).andThen_text (dropMarkers_announced s t) hn

theorem dropTraces_nil (s : Settings) : dropTraces s [] = ([], []) := rfl

theorem dropTraces_notes : (dropTraces s t).2 = [] ↔ TraceFree s t := by
  rw [dropTraces, Announced.andThen_notes_eq_nil (dropMarkers_announced s t), dropMarkers_notes,
    dropAttributes_notes]
  exact ⟨fun h => ⟨h.1, h.2⟩, fun h => ⟨h.markers, h.attributes⟩⟩

/-! ## Imports -/

/-- What both import rules have in common: `choose` picks the statements whose specifier `owned`
holds of. -/
def PicksOwned (owned : Text → Bool) (choose : Match → Option (Text × Note)) : Prop :=
  ∀ m, choose m = none ↔ owned (m.textOf .spec) = false

theorem fixImport_picks (s : Settings) : PicksOwned (isPlatformSpecifier s) (fixImport s) := by
  intro m
  simp only [fixImport, isPlatformSpecifier]
  cases hs : s.specifierOwner? (m.textOf .spec) with
  | none => simp
  | some p => cases s.rewriteOf? (m.textOf .spec) <;> simp

theorem dropModule_picks (s : Settings) : PicksOwned (isPlatformModule s) (dropModule s) := by
  intro m
  simp only [dropModule]
  cases isPlatformModule s (m.textOf .spec) <;> simp

variable {owned : Text → Bool} {choose : Match → Option (Text × Note)}

/-- The import rules, one after the other, make no note exactly on texts without such imports. -/
theorem importEdits_notes (h : PicksOwned owned choose) :
    (andThen (importStatement.edit choose t) (requireStatement.edit choose)).2 = [] ↔
      ImportFree owned t := by
  rw [Announced.andThen_notes_eq_nil (edit_announced importStatement choose t),
    edit_notes_eq_nil, edit_notes_eq_nil]
  constructor
  · rintro ⟨hi, hr⟩
    exact ⟨fun m hm => (h m).1 (hi m hm), fun m hm => (h m).1 (hr m hm)⟩
  · rintro ⟨hi, hr⟩
    exact ⟨fun m hm => (h m).2 (hi m hm), fun m hm => (h m).2 (hr m hm)⟩

theorem importEdits_announced (choose : Match → Option (Text × Note)) : Announced fun t =>
    andThen (importStatement.edit choose t) (requireStatement.edit choose) := fun t hn =>
  (edit_announced requireStatement choose).andThen_text (edit_announced importStatement choose t) hn

/-! ## Plugins -/

theorem dropPlugin_notes {name : Text} :
    (dropPlugin name t).2 = [] ↔ (registration name).findAll t = [] := by
  rw [← edit_all_notes_eq_nil fun _ => (([] : Text), ())]
  simp only [dropPlugin]
  split
  · next h => simpa using h
  · next h => simpa using h

theorem dropPlugin_announced (name : Text) : Announced (dropPlugin name) := by
  intro t hn
  apply edit_announced
  rw [edit_all_notes_eq_nil]
  exact dropPlugin_notes.1 hn

/-! ## The rewrites of the roles -/

/-- The rewrite of a source file makes no note exactly on settled texts. -/
theorem source_notes : (source s t).notes = [] ↔ SourceSettled s t := by
  rw [source, finish_notes,
    Announced.andThen_notes_eq_nil (importEdits_announced (fixImport s) t),
    importEdits_notes (fixImport_picks s), dropTraces_notes]
  exact ⟨fun h => ⟨h.1, h.2⟩, fun h => ⟨h.imports, h.traces⟩⟩

/-- The rewrite of a bundler's configuration makes no note exactly on settled texts. -/
theorem bundlerConfig_notes : (bundlerConfig s t).notes = [] ↔ BundlerSettled s t := by
  rw [bundlerConfig, finish_notes,
    (Announced.foldl_andThen dropPlugin_announced (pluginNames s t)
      (importEdits_announced (dropModule s) t)).1,
    importEdits_notes (dropModule_picks s)]
  simp only [dropPlugin_notes]
  exact ⟨fun h => ⟨h.1, h.2⟩, fun h => ⟨h.imports, h.plugins⟩⟩

theorem dropOwned_eq_none {owner? : Text → Option Platform} {note : Text → Note} {m : Match} :
    dropOwned owner? note m = none ↔ owner? m.text = none := by
  simp [dropOwned]

/-- The rewrite of an HTML file makes no note exactly on settled texts. -/
theorem markup_notes : (markup s t).notes = [] ↔ MarkupSettled s t := by
  have hscripts := edit_announced scriptTag (dropOwned (scriptOwner? s) .scriptTagRemoved) t
  have hlinks := (edit_announced linkTag (dropOwned (tagOwner? s) .linkTagRemoved)).andThen_text
    hscripts
  have hmetas := (edit_announced metaTag (dropOwned (tagOwner? s) .metaTagRemoved)).andThen_text
    hlinks
  rw [markup, finish_notes, Announced.andThen_notes_eq_nil hmetas,
    Announced.andThen_notes_eq_nil hlinks, Announced.andThen_notes_eq_nil hscripts,
    dropTraces_notes]
  simp only [edit_notes_eq_nil, dropOwned_eq_none]
  exact ⟨fun ⟨⟨⟨h₁, h₂⟩, h₃⟩, h₄⟩ => ⟨h₁, h₂, h₃, h₄⟩,
    fun h => ⟨⟨⟨h.scripts, h.links⟩, h.metas⟩, h.traces⟩⟩

/-! ## Files without notes -/

theorem packageMembers_content_of_notes {content : Text} {members : List (Text × Json)}
    (h : (packageMembers s content members).notes = []) :
    (packageMembers s content members).content = content := by
  by_cases hne : (packageNotes s members).isEmpty
  · simp [packageMembers, hne]
  · simp only [packageMembers, if_neg hne] at h
    exact absurd (List.isEmpty_iff.2 h) hne

theorem packageJson_content_of_notes {content : Text} {r : Rewrite}
    (h : packageJson s content = .ok r) (hn : r.notes = []) : r.content = content := by
  unfold packageJson at h
  split at h
  · next e _ =>
    cases he : e.tooDeep? with
    | none =>
      rw [he] at h
      rw [← Except.ok.inj h]
    | some holder =>
      rw [he] at h
      cases h
  · have hr := Except.ok.inj h
    rw [← hr] at hn ⊢
    exact packageMembers_content_of_notes hn

/-- Lines leave a requirements file only with the names on them. -/
theorem drop_content_of_removed {content kept : Text} {names removed : List Text}
    (h : RequirementsFile.drop content names = .ok (kept, removed)) (hr : removed = []) :
    kept = content := by
  obtain ⟨es, -, h⟩ := Step.map_eq_ok.1 h
  dsimp only at h
  split at h
  · exact (Prod.ext_iff.1 h).1.symm
  · next hne =>
    have hnames : (RequirementsFile.wanted names es).map (·.name) = [] :=
      (Prod.ext_iff.1 h).2.trans hr
    exact absurd (List.isEmpty_iff.2 (List.map_eq_nil_iff.1 hnames)) hne

theorem requirements_content_of_notes {content : Text} {r : Rewrite}
    (h : requirements s content = .ok r) (hn : r.notes = []) : r.content = content := by
  obtain ⟨es, -, h⟩ := Step.bind_eq_ok.1 h
  dsimp only at h
  split at h
  · rw [← Except.ok.inj h]
  · obtain ⟨⟨kept, removed⟩, hd, hr⟩ := Step.map_eq_ok.1 h
    rw [← hr] at hn ⊢
    exact drop_content_of_removed hd (List.map_eq_nil_iff.1 hn)

/-- A rewrite without notes has left its file as it was, whatever the file's role. -/
theorem file_content_of_notes {path content : Text} {r : Rewrite}
    (h : file s path content = .ok r) (hn : r.notes = []) : r.content = content := by
  unfold file at h
  cases hrole : FileRole.ofPath path with
  | manifest =>
    rw [hrole] at h
    simp only [manifest] at h
    split at h
    · exact packageJson_content_of_notes h hn
    · exact requirements_content_of_notes (Step.mapError_eq_ok.1 h) hn
  | bundlerConfig =>
    rw [hrole] at h
    have hr := Except.ok.inj h
    rw [← hr] at hn ⊢
    exact finish_content_of_notes (by simpa [bundlerConfig] using hn)
  | entryHtml =>
    rw [hrole] at h
    have hr := Except.ok.inj h
    rw [← hr] at hn ⊢
    exact finish_content_of_notes (by simpa [markup] using hn)
  | source =>
    rw [hrole] at h
    have hr := Except.ok.inj h
    rw [← hr] at hn ⊢
    exact finish_content_of_notes (by simpa [source] using hn)
  | other =>
    rw [hrole] at h
    rw [← Except.ok.inj h]

end Rewrite

end Decouple
