import Decouple.Analysis.File
import Decouple.Proofs.Matches
import Decouple.Proofs.Rewriting.Settled
import Decouple.Proofs.Sorting

/-!
# Code, as it is analysed and as it is rewritten

Where the analysis of a source file reports nothing, the rewrite finds nothing (`source_settled`):
the import rules look for statements of which the analysis reports each, and markers and attributes
are looked for by the same patterns.

For a bundler's configuration this holds with one exception.  Both look for the calls of plugins that
imports of platform modules bind, and what the rewrite takes for the registration of a plugin holds a
call of it (`registration_findAll`).  But the analysis reports an import only by its specifier, while
the rewrite removes the imports of plugin modules too, called or not (`bundler_settled_iff`).
-/

namespace Decouple

open Pattern Signature

namespace Signature

variable {s : Settings} {t name : Text}

/-! ## Findings by offset -/

variable {fs kept : List (Nat × Finding)} {f g : Nat × Finding}

theorem exists_of_foldl_firstPerOffset (h : (∃ g ∈ kept, g.1 = f.1) ∨ f ∈ fs) :
    ∃ g ∈ fs.foldl (fun kept f => if kept.any (·.1 = f.1) then kept else kept ++ [f]) kept,
      g.1 = f.1 := by
  induction fs generalizing kept with
  | nil =>
    rcases h with h | h
    · exact h
    · cases h
  | cons e fs ih =>
    rw [List.foldl_cons]
    refine ih ?_
    rcases h with ⟨g, hg, hsame⟩ | h
    · refine .inl ⟨g, ?_, hsame⟩
      split
      · exact hg
      · exact List.mem_append_left _ hg
    · rcases List.mem_cons.1 h with rfl | h
      · split
        · next hany =>
          obtain ⟨g, hg, hsame⟩ := List.any_eq_true.1 hany
          exact .inl ⟨g, hg, of_decide_eq_true hsame⟩
        · exact .inl ⟨f, List.mem_append_right _ (List.mem_singleton_self f), rfl⟩
      · exact .inr h

/-- Of the findings with one offset one is kept. -/
theorem exists_of_firstPerOffset (h : f ∈ fs) : ∃ g ∈ firstPerOffset fs, g.1 = f.1 :=
  exists_of_foldl_firstPerOffset (.inr h)

theorem mem_of_foldl_firstPerOffset
    (h : g ∈ fs.foldl (fun kept f => if kept.any (·.1 = f.1) then kept else kept ++ [f]) kept) :
    g ∈ kept ∨ g ∈ fs := by
  induction fs generalizing kept with
  | nil => exact .inl h
  | cons e fs ih =>
    rw [List.foldl_cons] at h
    rcases ih h with hkept | hmore
    · split at hkept
      · exact .inl hkept
      · rcases List.mem_append.1 hkept with hkept | hnew
        · exact .inl hkept
        · exact .inr (List.mem_singleton.1 hnew ▸ List.mem_cons_self ..)
    · exact .inr (List.mem_cons_of_mem _ hmore)

/-- No other findings are kept. -/
theorem mem_of_firstPerOffset (h : g ∈ firstPerOffset fs) : g ∈ fs :=
  (mem_of_foldl_firstPerOffset h).resolve_left List.not_mem_nil

theorem firstPerOffset_eq_nil (h : firstPerOffset fs = []) : fs = [] := by
  rw [List.eq_nil_iff_forall_not_mem]
  intro f hf
  obtain ⟨g, hg, -⟩ := exists_of_firstPerOffset hf
  rw [h] at hg
  cases hg

/-! ## Findings that are none -/

/-- Without findings no statement takes in a platform's module. -/
theorem specifierOwner?_of_findImports (h : findImports s t = []) {pattern : Pattern}
    (hp : pattern ∈ [importStatement, requireStatement, dynamicImport]) {m : Match}
    (hm : m ∈ pattern.findAll t) : s.specifierOwner? (m.textOf .spec) = none := by
  unfold findImports at h
  dsimp only at h
  have hfound := firstPerOffset_eq_nil (Sorting.sort_eq_nil (List.map_eq_nil_iff.1 h))
  have hnone := List.filterMap_eq_nil_iff.1 (List.flatMap_eq_nil_iff.1 hfound pattern hp) m hm
  exact Option.map_eq_none_iff.1 hnone

theorem findAll_of_findMarkers (h : findMarkers s t = .ok []) :
    (commentMarker (keywords s.platforms)).findAll t = [] := by
  have hnone := Step.mapM_eq_ok.1 h
  exact List.forall₂_nil_right_iff.1 hnone

/-! ## Calls of plugins -/

/-- Code points that make an identifier or access a member. -/
def joinsName (c : CodePoint) : Bool := isIdentifier c || c = '.'

/-- A call is found where its name stands alone with a parenthesis after it. -/
theorem call_matchAt? {p : Place} (hbefore : p.isAfter joinsName = false) {rest : Text}
    (hrest : p.rest = name ++ CodePoint.ofChar '(' :: rest) :
    ∃ m, (call name).matchAt? p = some m ∧ p.offset < m.stop.offset := by
  obtain ⟨q, hq⟩ : ∃ q : Place, p.Takes name q :=
    ⟨⟨name.getLast?.or p.before, CodePoint.ofChar '(' :: rest, p.offset + name.length⟩,
      hrest, rfl, rfl⟩
  have hqrest : q.rest = CodePoint.ofChar '(' :: rest :=
    (List.append_cancel_left (hrest.symm.trans hq.1)).symm
  refine ⟨⟨p, q.after (CodePoint.ofChar '(') rest, []⟩, ?_, ?_⟩
  · have hnotAfter : p.isAfter (fun c => isIdentifier c || c = '.') = false := hbefore
    unfold matchAt? call
    rw [run_sequence_cons, run, if_neg (by simp [hnotAfter]), run_sequence_cons, run_literal hq,
      run_sequence_cons]
    unfold blanks
    rw [run, hqrest, runWhole, if_neg (by decide), if_pos rfl]
    rfl
  · have hoffset := hq.2.1
    dsimp only [Place.after]
    omega

/-- What is taken for the registration of a plugin holds a call of it. -/
theorem exists_call_of_registration {p q : Place} {ps qs : Parts}
    (h : Way (Rewrite.registration name) p ps q qs) :
    ∃ m rest, p.Reaches m ∧ m.isAfter joinsName = false ∧
      m.rest = name ++ CodePoint.ofChar '(' :: rest := by
  obtain ⟨p', ps', q', qs', hp', hcall⟩ : ∃ p' ps' q' qs', p.Reaches p' ∧
      Way (Rewrite.registrationCall name) p' ps' q' qs' := by
    rcases way_alt.1 h with h | h
    · obtain ⟨p₁, ps₁, hstart, h⟩ := way_seq.1 h
      obtain ⟨p₂, ps₂, hindent, h⟩ := way_seq.1 h
      obtain ⟨p₃, ps₃, hcall, -⟩ := way_seq.1 h
      exact ⟨p₂, ps₂, p₃, ps₃, hstart.reaches.trans hindent.reaches, hcall⟩
    · obtain ⟨p₁, ps₁, hindent, hcall⟩ := way_seq.1 h
      exact ⟨p₁, ps₁, q, qs, hindent.reaches, hcall⟩
  obtain ⟨p₁, ps₁, hguard, h⟩ := way_seq.1 hcall
  obtain ⟨p₂, ps₂, hnotAfter, h⟩ := way_seq.1 h
  obtain ⟨p₃, ps₃, hname, h⟩ := way_seq.1 h
  obtain ⟨p₄, ps₄, hopen, -⟩ := way_seq.1 h
  obtain ⟨rfl, htaken⟩ := way_literal hname
  obtain ⟨rfl, hopened⟩ := way_is hopen
  cases hnotAfter with
  | notAfter hbefore =>
    exact ⟨p₁, p₄.rest, hp'.trans hguard.reaches, hbefore, by rw [htaken.1, hopened.1]; rfl⟩

/-- Without a call of a plugin nothing is taken for its registration. -/
theorem registration_findAll (h : (call name).findAll t = []) :
    (Rewrite.registration name).findAll t = [] := by
  rw [List.eq_nil_iff_forall_not_mem]
  intro m hm
  obtain ⟨p, hp, hmatch, -⟩ := exists_place_of_mem_findAll hm
  obtain ⟨-, hway⟩ := way_of_matchAt? hmatch
  obtain ⟨q, rest, hq, hbefore, hrest⟩ := exists_call_of_registration hway
  obtain ⟨m', hm', hadvanced⟩ := call_matchAt? hbefore hrest
  have hle := le_of_findAll_eq_nil h (hp.trans hq) hm'
  omega

end Signature

namespace Rewrite

open FileAnalysis (ofCode pluginSignals)

variable {s : Settings} {path t : Text} {role : FileRole} {fa : FileAnalysis}

/-! ## Files of which the analysis reports nothing -/

/-- What code that shows nothing is free of. -/
structure ShowsNothing (s : Settings) (path t : Text) (role : FileRole) : Prop where
  imports : findImports s t = []
  addresses : findAddresses s t = []
  attributes : findAttributes s t = []
  markers : findMarkers s t = .ok []
  plugins : role = .bundlerConfig → pluginSignals s path t = []
  tags : role = .entryHtml → FileAnalysis.tagSignals s path t = []

theorem showsNothing_of_ofCode (h : ofCode s path t role = .ok fa) (hsignals : fa.signals = []) :
    ShowsNothing s path t role := by
  obtain ⟨markers, hmarkers, rfl⟩ := Step.map_eq_ok.1 h
  simp only [List.append_eq_nil_iff, List.map_eq_nil_iff] at hsignals
  obtain ⟨⟨⟨⟨⟨himports, haddresses⟩, hplugins⟩, htags⟩, hattributes⟩, rfl⟩ := hsignals
  exact
    { imports := himports
      addresses := haddresses
      attributes := hattributes
      markers := hmarkers
      plugins := fun hrole => by rwa [if_pos hrole] at hplugins
      tags := fun hrole => by rwa [if_pos hrole] at htags }

namespace ShowsNothing

variable (h : ShowsNothing s path t role)

include h

theorem importFree : ImportFree (isPlatformSpecifier s) t where
  imports m hm := by
    have hnone := specifierOwner?_of_findImports h.imports (List.mem_cons_self ..) hm
    rw [isPlatformSpecifier, hnone]
    rfl
  requires m hm := by
    have hmem : requireStatement ∈ [importStatement, requireStatement, dynamicImport] :=
      List.mem_cons_of_mem _ (List.mem_cons_self ..)
    have hnone := specifierOwner?_of_findImports h.imports hmem hm
    rw [isPlatformSpecifier, hnone]
    rfl

theorem traceFree : TraceFree s t where
  markers := findAll_of_findMarkers h.markers
  attributes m hm := Option.map_eq_none_iff.1 (List.filterMap_eq_nil_iff.1 h.attributes m hm)

/-- A source file that shows nothing is settled. -/
theorem source_settled : SourceSettled s t := ⟨h.importFree, h.traceFree⟩

end ShowsNothing

/-! ## Bundler configurations -/

/-- A statement takes in a module of a platform's build plugin. -/
def TakesInPlugin (s : Settings) (t : Text) : Prop :=
  ¬ImportFree (fun specifier => (s.pluginOwner? specifier).isSome) t

theorem importFree_or {f g : Text → Bool} : ImportFree (fun sp => f sp || g sp) t ↔
    ImportFree f t ∧ ImportFree g t := by
  constructor
  · rintro ⟨himports, hrequires⟩
    simp only [Bool.or_eq_false_iff] at himports hrequires
    exact ⟨⟨fun m hm => (himports m hm).1, fun m hm => (hrequires m hm).1⟩,
      ⟨fun m hm => (himports m hm).2, fun m hm => (hrequires m hm).2⟩⟩
  · rintro ⟨hf, hg⟩
    exact ⟨fun m hm => Bool.or_eq_false_iff.2 ⟨hf.imports m hm, hg.imports m hm⟩,
      fun m hm => Bool.or_eq_false_iff.2 ⟨hf.requires m hm, hg.requires m hm⟩⟩

/-- The names whose calls the rewrite looks for are names whose calls the analysis reports. -/
theorem call_findAll_of_pluginSignals (h : pluginSignals s path t = []) {name : Text}
    (hname : name ∈ pluginNames s t) : (call name).findAll t = [] := by
  obtain ⟨⟨specifier, names⟩, hbound, hname⟩ := List.mem_flatMap.1 hname
  dsimp only at hname
  split at hname
  · next howned =>
    have hnone := List.flatMap_eq_nil_iff.1 h _ hbound
    dsimp only at hnone
    split at hnone
    · next howner =>
      obtain ⟨hspecifier, hplugin⟩ := Option.or_eq_none_iff.1 howner
      rw [isPlatformModule, hspecifier, hplugin] at howned
      cases howned
    · exact List.map_eq_nil_iff.1 (List.flatMap_eq_nil_iff.1 hnone name hname)
  · cases hname

/-- A bundler's configuration that shows nothing is settled exactly when no statement takes in a
plugin's module. -/
theorem ShowsNothing.bundler_settled_iff (h : ShowsNothing s path t .bundlerConfig) :
    BundlerSettled s t ↔ ¬TakesInPlugin s t := by
  rw [TakesInPlugin, not_not]
  constructor
  · intro hsettled
    exact (importFree_or.1 hsettled.imports).2
  · intro hplugins
    refine ⟨importFree_or.2 ⟨h.importFree, hplugins⟩, fun name hname => ?_⟩
    exact registration_findAll (call_findAll_of_pluginSignals (h.plugins rfl) hname)

end Rewrite

end Decouple
