import Decouple.Proofs.Removal.WholeLines
import Decouple.Proofs.Rewriting.BlankRuns

/-!
# What is left up to white space

The *ink* of a text is what it holds besides white space, so texts with the same ink are the same up
to white space.  An edit that only deletes leaves as much ink as its matches do not hold
(`length_ink_edit`), and an edit that picks one match leaves the text before and the text behind it
(`edit_of_only`).  A step *erodes* a text if each note costs ink; then a text that has kept its ink
through a chain of such steps has not been touched (`Erodes.length_le`).
-/

namespace Decouple

namespace Text

variable {t u : Text}

/-- A text without its white space. -/
def ink (t : Text) : Text := t.filter (!·.isBlank)

@[simp] theorem ink_nil : ink [] = [] := rfl

@[simp] theorem ink_append (t u : Text) : ink (t ++ u) = ink t ++ ink u := List.filter_append ..

theorem ink_cons {c : CodePoint} (h : c.isBlank = false) (t : Text) : ink (c :: t) = c :: ink t :=
  List.filter_cons_of_pos (by rw [h]; rfl)

theorem ink_eq_nil : ink t = [] ↔ ∀ c ∈ t, c.isBlank = true := by
  simp [ink, List.filter_eq_nil_iff]

theorem ink_ne_nil {c : CodePoint} (hc : c ∈ t) (hinked : c.isBlank = false) : ink t ≠ [] := by
  intro h
  rw [ink_eq_nil.1 h c hc] at hinked
  cases hinked

end Text

open Text (ink)

namespace Pattern

variable {ν : Type} {pat a : Pattern} {choose : Match → Option (Text × ν)} {t : Text} {m : Match}

/-! ## An edit that picks one match -/

theorem offset_of_segmentsFrom {fuel : Nat} {p : Place} {before behind : List Segment}
    (h : pat.segmentsFrom fuel p = before ++ .found m :: behind) :
    m.offset = p.offset + (before.flatMap Segment.text).length := by
  induction fuel generalizing p before with
  | zero => simp [segmentsFrom] at h
  | succ fuel ih =>
    unfold segmentsFrom at h
    split at h
    · simp at h
    · next c rest hr =>
      -- The match is the first segment, or the search goes on behind that.
      have hkept (h : Segment.kept c :: pat.segmentsFrom fuel (p.after c rest) =
          before ++ .found m :: behind) :
          m.offset = p.offset + (before.flatMap Segment.text).length := by
        cases before with
        | nil => simp at h
        | cons sg before =>
          obtain ⟨rfl, hmore⟩ := List.cons.inj h
          rw [ih hmore, List.flatMap_cons, List.length_append]
          simp only [Place.after, Segment.text, List.length_singleton]
          omega
      split at h
      · next m' hm' =>
        split at h
        · obtain ⟨hstart, hreaches⟩ := reaches_of_matchAt? hm'
          cases before with
          | nil =>
            obtain rfl := Segment.found.inj (List.cons.inj h).1
            rw [Match.offset, hstart]
            rfl
          | cons sg before =>
            obtain ⟨rfl, hmore⟩ := List.cons.inj h
            rw [ih hmore, List.flatMap_cons, List.length_append, hreaches.length_textTo, Segment.text,
              Match.text, hstart, Nat.add_assoc]
        · exact hkept h
      · exact hkept h

/-- An edit that picks just one match leaves the text before it and the text behind it. -/
theorem edit_of_only {r : Text} {note : ν} (hm : m ∈ pat.findAll t)
    (hpick : choose m = some (r, note))
    (hothers : ∀ m' ∈ pat.findAll t, m' ≠ m → choose m' = none) :
    ∃ a b, t = a ++ m.text ++ b ∧ a.length = m.offset ∧
      pat.edit choose t = (a ++ r ++ b, [note]) := by
  obtain ⟨before, behind, hcut⟩ := List.append_of_mem (mem_findAll.1 hm)
  have hsplit : pat.findAll t = before.filterMap Segment.match? ++
      m :: behind.filterMap Segment.match? := by
    simp [findAll, hcut, Segment.match?]
  have hpairwise := pairwise_findAll pat t
  rw [hsplit, List.pairwise_append, List.pairwise_cons] at hpairwise
  obtain ⟨-, ⟨hbehind, -⟩, hbefore⟩ := hpairwise
  have hlong := offset_lt_of_mem_findAll hm
  have hnone : ∀ sg ∈ before ++ behind, ∀ m', sg.match? = some m' → choose m' = none := by
    intro sg hsg m' hm'
    rcases List.mem_append.1 hsg with hsg | hsg
    · have hmem := List.mem_filterMap.2 ⟨sg, hsg, hm'⟩
      refine hothers m' (hsplit ▸ List.mem_append_left _ hmem) ?_
      rintro rfl
      have hle := hbefore m' hmem m' (List.mem_cons_self ..)
      omega
    · have hmem := List.mem_filterMap.2 ⟨sg, hsg, hm'⟩
      refine hothers m' (hsplit ▸ List.mem_append_right _ (List.mem_cons_of_mem _ hmem)) ?_
      rintro rfl
      have hle := hbehind m' hmem
      omega
  have hnoneBefore := fun sg hsg => hnone sg (List.mem_append_left _ hsg)
  have hnoneBehind := fun sg hsg => hnone sg (List.mem_append_right _ hsg)
  refine ⟨before.flatMap Segment.text, behind.flatMap Segment.text, ?_, ?_, ?_⟩
  · have hwhole := text_segments pat t
    rw [hcut, List.flatMap_append, List.flatMap_cons] at hwhole
    rw [← hwhole, List.append_assoc]
    rfl
  · rw [offset_of_segmentsFrom hcut]
    simp [Place.start]
  · rw [edit_eq_edited, hcut, ← List.singleton_append, edited_append, edited_append,
      edited_of_not_chosen hnoneBefore, edited_found_of_some hpick, edited_of_not_chosen hnoneBehind,
      List.append_assoc]
    rfl

/-- An edit that makes one note picks one match. -/
theorem choose_eq_none_of_notes {note : ν} (hnotes : (pat.edit choose t).2 = [note])
    (hm : m ∈ pat.findAll t) (hpick : choose m ≠ none) :
    ∀ m' ∈ pat.findAll t, m' ≠ m → choose m' = none := by
  obtain ⟨r, hr⟩ := Option.ne_none_iff_exists'.1 hpick
  obtain ⟨before, behind, hsplit⟩ := List.append_of_mem hm
  rw [edit_notes, hsplit, List.filterMap_append, List.filterMap_cons, hr, Option.map_some] at hnotes
  have hlength := congrArg List.length hnotes
  simp only [List.length_append, List.length_cons, List.length_nil] at hlength
  have hbefore := List.filterMap_eq_nil_iff.1 (List.length_eq_zero_iff.1
    (show (before.filterMap fun m => (choose m).map Prod.snd).length = 0 by omega))
  have hbehind := List.filterMap_eq_nil_iff.1 (List.length_eq_zero_iff.1
    (show (behind.filterMap fun m => (choose m).map Prod.snd).length = 0 by omega))
  intro m' hm' hne
  rw [hsplit, List.mem_append, List.mem_cons] at hm'
  rcases hm' with hm' | hm' | hm'
  · exact Option.map_eq_none_iff.1 (hbefore m' hm')
  · exact absurd hm' hne
  · exact Option.map_eq_none_iff.1 (hbehind m' hm')

/-! ## Edits that delete -/

/-- An edit puts nothing in the place of what it picks. -/
def Deletes (choose : Match → Option (Text × ν)) : Prop := ∀ m r, choose m = some r → r.1 = []

/-- The ink of a match, if it is picked. -/
def pickedInk (choose : Match → Option (Text × ν)) (m : Match) : Text :=
  if (choose m).isSome then ink m.text else []

/-- A picked match is among those whose ink is counted. -/
theorem length_pickedInk_le {ms : List Match} (hm : m ∈ ms) (hpick : (choose m).isSome = true) :
    (ink m.text).length ≤ (ms.flatMap (pickedInk choose)).length := by
  have hsub := (List.sublist_flatten_of_mem (List.mem_map_of_mem (f := pickedInk choose) hm)).length_le
  rwa [← List.flatMap_def, pickedInk, if_pos hpick] at hsub

theorem length_ink_replaced (hdel : Deletes choose) (sgs : List Segment) :
    (ink (sgs.flatMap (Segment.replaced fun m => ((choose m).map Prod.fst).getD m.text))).length +
        ((sgs.filterMap Segment.match?).flatMap (pickedInk choose)).length =
      (ink (sgs.flatMap Segment.text)).length := by
  induction sgs with
  | nil => rfl
  | cons sg sgs ih =>
    rw [List.flatMap_cons, List.flatMap_cons, Text.ink_append, Text.ink_append, List.length_append,
      List.length_append]
    cases sg with
    | kept c =>
      have hkept : (Segment.kept c :: sgs).filterMap Segment.match? =
          sgs.filterMap Segment.match? := rfl
      rw [hkept]
      simp only [Segment.replaced, Segment.text]
      omega
    | found m =>
      have hfound : (Segment.found m :: sgs).filterMap Segment.match? =
          m :: sgs.filterMap Segment.match? := rfl
      rw [hfound, List.flatMap_cons, List.length_append]
      cases hm : choose m with
      | none =>
        simp only [Segment.replaced, Segment.text, pickedInk, hm, Option.map_none, Option.getD_none,
          Option.isSome_none, Bool.false_eq_true, if_false, List.length_nil]
        omega
      | some r =>
        simp only [Segment.replaced, Segment.text, pickedInk, hm, Option.map_some, Option.getD_some,
          hdel m r hm, Option.isSome_some, if_true, Text.ink_nil, List.length_nil]
        omega

/-- The ink of a text is what an edit that deletes leaves and what it picks. -/
theorem length_ink_edit (hdel : Deletes choose) (pat : Pattern) (t : Text) :
    (ink (pat.edit choose t).1).length + ((pat.findAll t).flatMap (pickedInk choose)).length =
      (ink t).length := by
  have hwhole := length_ink_replaced hdel (pat.segments t)
  rw [text_segments] at hwhole
  exact hwhole

/-- Two matches that an edit deletes cost the ink of both. -/
theorem length_ink_edit_two (hdel : Deletes choose) {m' : Match} (hm : m ∈ pat.findAll t)
    (hm' : m' ∈ pat.findAll t) (hne : m' ≠ m) (hpick : (choose m).isSome = true)
    (hpick' : (choose m').isSome = true) :
    (ink (pat.edit choose t).1).length + (ink m.text).length + (ink m'.text).length ≤
      (ink t).length := by
  have htotal := length_ink_edit hdel pat t
  obtain ⟨before, behind, hsplit⟩ := List.append_of_mem hm
  have hother : m' ∈ before ++ behind := by
    rw [hsplit] at hm'
    simp only [List.mem_append, List.mem_cons] at hm' ⊢
    tauto
  have hcost := length_pickedInk_le hother hpick'
  have hfirst : pickedInk choose m = ink m.text := if_pos hpick
  rw [hsplit, List.flatMap_append, List.flatMap_cons, hfirst] at htotal
  rw [List.flatMap_append] at hcost
  simp only [List.length_append] at htotal hcost
  omega

end Pattern

/-! ## Steps that erode -/

/-- Whatever a step notes has cost ink. -/
def Erodes {ν : Type} (step : Text → Text × List ν) : Prop :=
  ∀ t, (step t).2 ≠ [] → (ink (step t).1).length < (ink t).length

namespace Erodes

variable {ν : Type} {step : Text → Text × List ν} {t : Text}

theorem length_le (h : Erodes step) (hannounced : Announced step) (t : Text) :
    (ink (step t).1).length ≤ (ink t).length := by
  by_cases hn : (step t).2 = []
  · exact Nat.le_of_eq (by rw [hannounced t hn])
  · exact Nat.le_of_lt (h t hn)

/-- A chain of two steps that erode erodes. -/
theorem andThen {first : Text → Text × List ν} (hfirst : Erodes first) (hsame : Announced first)
    (h : Erodes step) (hannounced : Announced step) :
    Erodes fun t => Decouple.andThen (first t) step := by
  intro t hn
  have hle := h.length_le hannounced (first t).1
  by_cases hf : (first t).2 = []
  · have hs : (step (first t).1).2 ≠ [] := by
      intro hs
      exact hn (by simp [Decouple.andThen, hf, hs])
    have hlt := h (first t).1 hs
    rw [hsame t hf] at hlt
    simpa only [Decouple.andThen, hsame t hf] using hlt
  · exact Nat.lt_of_le_of_lt hle (hfirst t hf)

end Erodes

namespace Pattern

variable {ν : Type} {pat a : Pattern} {choose : Match → Option (Text × ν)} {t : Text} {m : Match}

/-- An edit that deletes erodes if its matches hold ink. -/
theorem edit_erodes (hdel : Deletes choose) (hink : ∀ t, ∀ m ∈ pat.findAll t, ink m.text ≠ []) :
    Erodes (pat.edit choose) := by
  intro t hn
  have htotal := length_ink_edit hdel pat t
  rw [ne_eq, edit_notes_eq_nil] at hn
  push Not at hn
  obtain ⟨m, hm, hpick⟩ := hn
  have hcost := length_pickedInk_le hm (Option.isSome_iff_ne_none.2 hpick)
  have hpos := List.length_pos_iff.2 (hink t m hm)
  omega

end Pattern

namespace Rewrite

open Pattern

variable {p q : Place} {ps qs : Parts} {a : Pattern}

/-! ## Runs of blank lines -/

/-- Whether all ways of a pattern take nothing but white space. -/
def TakesBlank (a : Pattern) : Prop :=
  ∀ p ps q qs, Way a p ps q qs → ∃ t, p.Takes t q ∧ ∀ c ∈ t, c.isBlank = true

theorem takesBlank_blankRun : TakesBlank blankRun := by
  have hfeed : TakesOnly CodePoint.isBlank (.one (CodePoint.is '\n')) := takesOnly_is (by decide)
  have hindent : TakesOnly CodePoint.isBlank indent :=
    takesOnly_many fun c hc => CodePoint.isBlank_of_isIndent hc
  have hline := takesOnly_seq hindent hfeed
  exact takesOnly_seq hfeed (takesOnly_seq hline (takesOnly_again hline))

/-- To collapse runs of blank lines changes white space only. -/
@[simp] theorem ink_collapseBlankRuns (t : Text) : ink (collapseBlankRuns t) = ink t := by
  have hsame : ∀ sg ∈ blankRun.segments t,
      ink (Segment.replaced (fun _ => "\n\n") sg) = ink sg.text := by
    intro sg hsg
    cases sg with
    | kept c => rfl
    | found m =>
      obtain ⟨-, -, -, htaken, hway⟩ := exists_append_of_mem_findAll (mem_findAll.2 hsg)
      obtain ⟨u, hu, hall⟩ := takesBlank_blankRun _ _ _ _ hway
      have htext : m.text = u := by rw [← htaken.textTo_eq, hu.textTo_eq]
      rw [Segment.text, htext, Text.ink_eq_nil.2 hall, Segment.replaced, Text.ink_eq_nil]
      decide
  rw [collapseBlankRuns, replace]
  conv_rhs => rw [← text_segments blankRun t]
  generalize blankRun.segments t = sgs at hsame
  induction sgs with
  | nil => rfl
  | cons sg sgs ih =>
    rw [List.flatMap_cons, List.flatMap_cons, Text.ink_append, Text.ink_append,
      hsame sg (List.mem_cons_self ..), ih fun sg hsg => hsame sg (List.mem_cons_of_mem _ hsg)]

/-- Without line feeds there are no blank lines. -/
theorem collapseBlankRuns_of_not_mem (h : CodePoint.ofChar '\n' ∉ t) : collapseBlankRuns t = t := by
  refine collapseBlankRuns_of_not_hasBlankRun ?_
  rintro ⟨_, ⟨bs, rfl, -⟩, hrun⟩
  exact h (hrun.subset (List.mem_cons_self ..))

end Rewrite

end Decouple
