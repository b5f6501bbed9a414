import Decouple.Proofs.Json.Reading
import Decouple.Proofs.Requirements
import Decouple.Proofs.Rewriting.Settled

/-!
# Rewritten manifests

A rewritten manifest is left alone by a second rewrite, however it was laid out and whatever was
removed from it.  A `package.json` that has been written again is read as its pruned members, but
for the last digits of real numbers, and whether a member is to be removed does not depend on those
(`doomedIn_reread`).  A requirements file declares after a removal what it declared before but for
what was removed (`RequirementsFile.entries_drop`).
-/

namespace Decouple

open Json (Fits reread rereadMembers)

namespace Rewrite

variable {s : Settings} {content : Text} {members : List (Text × Json)} {r : Rewrite}

/-! ## package.json -/

theorem text?_reread (j : Json) : j.reread.text? = j.text? := by cases j <;> rfl

/-- Whether a member is to be removed does not depend on numbers. -/
theorem doomedIn_reread (s : Settings) (name : Text) (m : Text × Json) :
    doomedIn s name (m.1, m.2.reread) = doomedIn s name m := by
  unfold doomedIn
  split
  · rfl
  · split
    · simp only [doomedScript, text?_reread]
    · rfl

theorem fits_prunedMember {levels : Nat} {S : Text → Prop} {m : Text × Json}
    (h : Fits S levels m.2) : Fits S levels (prunedMember s m).2 := by
  obtain ⟨name, j⟩ := m
  cases h with
  | object names texts fits =>
    refine Fits.object ?_ (fun m hm => texts m (List.mem_of_mem_filter hm)) fun m hm =>
      fits m (List.mem_of_mem_filter hm)
    exact names.sublist (List.filter_sublist.map Prod.fst)
  | null => exact Fits.null
  | bool b => exact Fits.bool b
  | int small => exact Fits.int small
  | real rounded => exact Fits.real rounded
  | string text => exact Fits.string text
  | array fits => exact Fits.array fits

theorem prunedMember_fst (s : Settings) (m : Text × Json) : (prunedMember s m).1 = m.1 := by
  unfold prunedMember
  split <;> rfl

/-- Pruned members fit where the members did. -/
theorem fits_pruned {levels : Nat} {S : Text → Prop} (h : Fits S levels (.object members)) :
    Fits S levels (.object (members.map (prunedMember s))) := by
  cases h with
  | object names texts fits =>
    refine Fits.object ?_ ?_ ?_
    · rw [List.map_map]
      simpa only [Function.comp_def, prunedMember_fst] using names
    · intro m hm
      obtain ⟨k, hk, rfl⟩ := List.mem_map.1 hm
      rw [prunedMember_fst]
      exact texts k hk
    · intro m hm
      obtain ⟨k, hk, rfl⟩ := List.mem_map.1 hm
      exact fits_prunedMember (fits k hk)

theorem mem_of_lookup {name : Text} {j : Json} (h : members.lookup name = some j) :
    (name, j) ∈ members := by
  obtain ⟨before, after, rfl, -⟩ := List.lookup_eq_some_iff.1 h
  exact List.mem_append_right _ (List.mem_cons_self ..)

/-- Nothing is left to be removed from pruned members, also after they have been written and read
again. -/
theorem doomedNames_pruned (s : Settings) (members : List (Text × Json)) (name : Text) :
    doomedNames s (rereadMembers (members.map (prunedMember s))) name = [] := by
  unfold doomedNames
  split
  · next inner hlookup =>
    have hmem := mem_of_lookup hlookup
    rw [Json.rereadMembers_eq_map, List.map_map, List.mem_map] at hmem
    obtain ⟨⟨n, j⟩, -, hm⟩ := hmem
    obtain ⟨hname, hvalue⟩ := Prod.ext_iff.1 hm
    simp only [Function.comp_apply, prunedMember_fst] at hname hvalue
    cases j with
    | object inside =>
      obtain rfl : n = name := hname
      simp only [prunedMember, Json.reread, Json.object.injEq, Json.rereadMembers_eq_map] at hvalue
      rw [List.map_eq_nil_iff, List.filter_eq_nil_iff, ← hvalue]
      intro m hm
      obtain ⟨k, hk, rfl⟩ := List.mem_map.1 hm
      rw [doomedIn_reread]
      simpa using (List.mem_filter.1 hk).2
    | null => cases hvalue
    | bool b => cases hvalue
    | int k => cases hvalue
    | real x => cases hvalue
    | string t => cases hvalue
    | array items => cases hvalue
  · rfl

theorem packageNotes_pruned (s : Settings) (members : List (Text × Json)) :
    packageNotes s (rereadMembers (members.map (prunedMember s))) = [] := by
  have hareas : PackageJson.dependencySections.flatMap
      (doomedNames s (rereadMembers (members.map (prunedMember s)))) = [] :=
    List.flatMap_eq_nil_iff.2 fun name _ => doomedNames_pruned s members name
  rw [packageNotes, hareas, doomedNames_pruned]
  rfl

theorem readsTexts_pretty : Json.ReadsTexts .pretty fun _ => True := by
  intro t _ opened offset tail
  exact Json.stringFrom_writeString rfl t tail opened offset []

theorem read_object (h : PackageJson.read content = .ok members) :
    Json.read content = .ok (.object members) := by
  unfold PackageJson.read at h
  split at h
  · cases h
  · next hread => rw [hread, Except.ok.inj h]
  · cases h

/-- The written members of a `package.json`, perhaps with a line feed after them, are read as they
were but for real numbers. -/
theorem read_written (h : Fits (fun _ => True) Json.maxDepth (.object members)) (blank : Text)
    (hblank : Json.AreSpaces blank) :
    PackageJson.read (Json.write .pretty (.object members) ++ blank) =
      .ok (rereadMembers members) := by
  unfold PackageJson.read
  rw [Json.read_write rfl readsTexts_pretty h hblank]
  rfl

/-- A rewritten `package.json` is left alone. -/
theorem packageJson_again (h : packageJson s content = .ok r) :
    packageJson s r.content = .ok ⟨r.content, []⟩ := by
  by_cases hn : r.notes = []
  · have hr : r = ⟨content, []⟩ := by
      rw [← packageJson_content_of_notes h hn, ← hn]
    rw [hr] at h ⊢
    exact h
  · unfold packageJson at h
    split at h
    · next e _ =>
      cases he : e.tooDeep? with
      | none =>
        rw [he] at h
        rw [← Except.ok.inj h] at hn
        exact absurd rfl hn
      | some holder =>
        rw [he] at h
        cases h
    · next members hread =>
      have hfits := fits_pruned (s := s) (Json.fits_of_read (read_object hread))
      have hr := Except.ok.inj h
      have hagain : PackageJson.read r.content =
          .ok (rereadMembers (members.map (prunedMember s))) := by
        rw [← hr] at hn ⊢
        unfold packageMembers at hn ⊢
        dsimp only at hn ⊢
        split at hn
        · exact absurd rfl hn
        · next hnotes =>
          rw [if_neg hnotes]
          dsimp only
          split
          · exact read_written hfits "\n" (by decide)
          · have hplain := read_written hfits [] (by decide)
            rwa [List.append_nil] at hplain
      rw [packageJson, hagain]
      dsimp only
      rw [packageMembers, packageNotes_pruned]
      rfl

/-! ## Requirements files -/

/-- Whether an entry's package is a platform's. -/
def isOwned (s : Settings) (e : ManifestEntry) : Bool :=
  (s.packageOwner? (PackageName.normal e.name)).isSome

open RequirementsFile (isWanted unnumbered) in
/-- A rewritten requirements file is left alone. -/
theorem requirements_again (h : requirements s content = .ok r) :
    requirements s r.content = .ok ⟨r.content, []⟩ := by
  obtain ⟨es, hes, hr⟩ := Step.bind_eq_ok.1 h
  dsimp only at hr
  split at hr
  · rw [← Except.ok.inj hr] at h ⊢
    exact h
  · obtain ⟨⟨kept, removed⟩, hdrop, hr⟩ := Step.map_eq_ok.1 hr
    rw [← hr]
    obtain ⟨es₁, es', hes₁, hes', hsame⟩ := RequirementsFile.entries_drop hdrop
    obtain rfl : es = es₁ := Except.ok.inj (hes.symm.trans hes₁)
    change unnumbered es' = unnumbered
      (es.filter fun e => !isWanted ((es.filter (isOwned s)).map (·.name)) e) at hsame
    set names := (es.filter (isOwned s)).map (·.name) with hnames
    -- An entry of the rewritten file is one of the old file that was not wanted.
    have hfree : es'.filter (isOwned s) = [] := by
      rw [List.filter_eq_nil_iff]
      intro e he howned
      have hmem : e.unnumbered ∈ unnumbered (es.filter fun e => !isWanted names e) := by
        rw [← hsame]
        exact List.mem_map_of_mem he
      obtain ⟨k, hk, hunnumbered⟩ := List.mem_map.1 hmem
      have hname : k.unnumbered.name = e.unnumbered.name := congrArg ManifestEntry.name hunnumbered
      change k.name = e.name at hname
      obtain ⟨hkes, hkept⟩ := List.mem_filter.1 hk
      have hkowned : isOwned s k = true := by rwa [isOwned, hname]
      have hwanted : isWanted names k = true := by
        rw [isWanted, List.contains_iff_mem, hnames]
        exact List.mem_map_of_mem (List.mem_map_of_mem (List.mem_filter.2 ⟨hkes, hkowned⟩))
      rw [hwanted] at hkept
      cases hkept
    refine Step.bind_eq_ok.2 ⟨es', hes', ?_⟩
    have hfree' : (es'.filter fun e =>
        (s.packageOwner? (PackageName.normal e.name)).isSome) = [] := hfree
    dsimp only
    rw [hfree']
    rfl

/-- A rewritten manifest is left alone. -/
theorem manifest_again {path : Text} (h : manifest s path content = .ok r) :
    manifest s path r.content = .ok ⟨r.content, []⟩ := by
  unfold manifest at h ⊢
  split at h
  · next hname =>
    rw [if_pos hname]
    exact packageJson_again h
  · next hname =>
    rw [if_neg hname]
    exact Step.mapError_eq_ok.2 (requirements_again (Step.mapError_eq_ok.1 h))

end Rewrite

end Decouple
