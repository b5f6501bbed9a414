import Decouple.Proofs.Matches

/-!
# Named parts of matches

A pattern can give a part a name only where it has a pattern under that name, so a named part of a
match is a way of one of these (`exists_named_of_part?`).  `named` collects them, and the lemmas
beside it look through sequences and choices, so that what a part may be is read off the pattern.
`names` tells whether every way has a part of that name (`exists_part?_of_names`).
-/

namespace Decouple

namespace Pattern

variable {pat a : Pattern} {as : List Pattern} {p q : Place} {ps qs : Parts} {t : Text}
  {label : Label} {m : Match} {found : Part} {c : CodePoint}

/-! ## Patterns under a name -/

/-- The patterns that a pattern has under a name. -/
def named (label : Label) : Pattern → List Pattern
  | seq a b => named label a ++ named label b
  | alt a b => named label a ++ named label b
  | again a => named label a
  | part l a => if l = label then a :: named label a else named label a
  | followedBy a => named label a
  | _ => []

@[simp] theorem named_sequence (label : Label) (as : List Pattern) :
    (sequence as).named label = as.flatMap (named label) := by
  induction as with
  | nil => rfl
  | cons a as ih =>
    cases as with
    | nil => simp [sequence]
    | cons b as => simp only [sequence, named, ih, List.flatMap_cons]

@[simp] theorem named_choice (label : Label) (as : List Pattern) :
    (choice as).named label = as.flatMap (named label) := by
  induction as with
  | nil => rfl
  | cons a as ih =>
    cases as with
    | nil => simp [choice]
    | cons b as => simp only [choice, named, ih, List.flatMap_cons]

@[simp] theorem named_literal (label : Label) (t : Text) : (literal t).named label = [] := by
  rw [literal, named_sequence, List.flatMap_map]
  exact List.flatMap_eq_nil_iff.2 fun c _ => rfl

@[simp] theorem named_literalAnyCase (label : Label) (t : Text) :
    (literalAnyCase t).named label = [] := by
  rw [literalAnyCase, named_sequence, List.flatMap_map]
  exact List.flatMap_eq_nil_iff.2 fun c _ => rfl

/-! ## Ways through them -/

/-- A part that a way has named is a way of a pattern under that name, ahead of where it starts. -/
theorem Way.exists_named (h : Way pat p ps q qs) (hfound : (label, found) ∈ qs) :
    (label, found) ∈ ps ∨ p.Reaches found.start ∧
      ∃ a ∈ pat.named label, ∃ rs rs', Way a found.start rs found.stop rs' := by
  induction h with
  | empty | one | many | same | lineStart | textEnd | wordEdge | notFollowedBy | notAfter =>
    exact .inl hfound
  | seq ha hb iha ihb =>
    rcases ihb hfound with hms | ⟨hreaches, a, hmem, hway⟩
    · rcases iha hms with hps | ⟨hreaches, a, hmem, hway⟩
      · exact .inl hps
      · exact .inr ⟨hreaches, a, List.mem_append_left _ hmem, hway⟩
    · exact .inr ⟨ha.reaches.trans hreaches, a, List.mem_append_right _ hmem, hway⟩
  | first _ ih =>
    rcases ih hfound with hps | ⟨hreaches, a, hmem, hway⟩
    · exact .inl hps
    · exact .inr ⟨hreaches, a, List.mem_append_left _ hmem, hway⟩
  | second _ ih =>
    rcases ih hfound with hps | ⟨hreaches, a, hmem, hway⟩
    · exact .inl hps
    · exact .inr ⟨hreaches, a, List.mem_append_right _ hmem, hway⟩
  | once _ ih => exact ih hfound
  | more ha _ iha ihmore =>
    rcases ihmore hfound with hms | ⟨hreaches, a, hmem, hway⟩
    · exact iha hms
    · exact .inr ⟨ha.reaches.trans hreaches, a, hmem, hway⟩
  | @part l b p q ps qs hb ih =>
    rcases List.mem_cons.1 hfound with hhead | hqs
    · -- The part that is named here: a way of the pattern under this very name.
      cases hhead
      exact .inr ⟨.refl p, b, by simp [named], ps, qs, hb⟩
    · rcases ih hqs with hps | ⟨hreaches, a, hmem, hway⟩
      · exact .inl hps
      · refine .inr ⟨hreaches, a, ?_, hway⟩
        rw [named]
        split
        · exact List.mem_cons_of_mem _ hmem
        · exact hmem
  | followedBy _ ih => exact ih hfound

/-! ## Parts that every way names -/

/-- Whether every way through a pattern names a part by a label. -/
def names (label : Label) : Pattern → Bool
  | seq a b => names label a || names label b
  | alt a b => names label a && names label b
  | again a => names label a
  | part l a => l = label || names label a
  | followedBy a => names label a
  | _ => false

@[simp] theorem names_sequence (label : Label) (as : List Pattern) :
    (sequence as).names label = as.any (names label) := by
  induction as with
  | nil => rfl
  | cons a as ih =>
    cases as with
    | nil => simp [sequence]
    | cons b as => simp only [sequence, names, ih, List.any_cons]

@[simp] theorem names_choice {as : List Pattern} (label : Label) (hne : as ≠ []) :
    (choice as).names label = as.all (names label) := by
  induction as with
  | nil => exact absurd rfl hne
  | cons a as ih =>
    cases as with
    | nil => simp [choice]
    | cons b as => simp only [choice, names, ih (List.cons_ne_nil b as), List.all_cons]

/-- A way only adds parts. -/
theorem Way.subset (h : Way pat p ps q qs) : ps ⊆ qs := by
  induction h with
  | empty | one | many | same | lineStart | textEnd | wordEdge | notFollowedBy | notAfter =>
    exact List.Subset.refl _
  | seq _ _ iha ihb => exact List.Subset.trans iha ihb
  | first _ ih | second _ ih | once _ ih | followedBy _ ih => exact ih
  | more _ _ ih ihmore => exact List.Subset.trans ih ihmore
  | part _ ih => exact List.Subset.trans ih (List.subset_cons_self _ _)

theorem Way.exists_of_names (h : Way pat p ps q qs) (hnames : pat.names label = true) :
    ∃ found, (label, found) ∈ qs := by
  induction h with
  | empty | one | many | same | lineStart | textEnd | wordEdge | notFollowedBy | notAfter =>
    cases hnames
  | seq _ hb iha ihb =>
    rcases (Bool.or_eq_true _ _).mp hnames with ha' | hb'
    · obtain ⟨found, hfound⟩ := iha ha'
      exact ⟨found, hb.subset hfound⟩
    · exact ihb hb'
  | first _ ih => exact ih ((Bool.and_eq_true _ _).mp hnames).1
  | second _ ih => exact ih ((Bool.and_eq_true _ _).mp hnames).2
  | once _ ih => exact ih hnames
  | more _ hmore ih _ =>
    obtain ⟨found, hfound⟩ := ih hnames
    exact ⟨found, hmore.subset hfound⟩
  | @part l b p q ps qs _ ih =>
    rcases (Bool.or_eq_true _ _).mp hnames with hl | hb
    · exact ⟨⟨p, q⟩, of_decide_eq_true hl ▸ List.mem_cons_self ..⟩
    · obtain ⟨found, hfound⟩ := ih hb
      exact ⟨found, List.mem_cons_of_mem _ hfound⟩
  | followedBy _ ih => exact ih hnames

/-- A way through a pattern that names no part by a label finds none. -/
theorem Way.lookup_of_named (h : Way pat p ps q qs) (hnone : pat.named label = []) :
    qs.lookup label = ps.lookup label := by
  induction h with
  | empty | one | many | same | lineStart | textEnd | wordEdge | notFollowedBy | notAfter => rfl
  | seq _ _ iha ihb =>
    obtain ⟨ha, hb⟩ := List.append_eq_nil_iff.1 hnone
    exact (ihb hb).trans (iha ha)
  | first _ ih => exact ih (List.append_eq_nil_iff.1 hnone).1
  | second _ ih => exact ih (List.append_eq_nil_iff.1 hnone).2
  | once _ ih | followedBy _ ih => exact ih hnone
  | more _ _ ih ihmore => exact (ihmore hnone).trans (ih hnone)
  | @part l b p q ps qs _ ih =>
    rw [named] at hnone
    split at hnone
    · cases hnone
    · next hne =>
      rw [List.lookup_cons, beq_false_of_ne fun heq => hne heq.symm]
      exact ih hnone

/-! ## Parts of matches -/

/-- A named part is what a pattern under that name takes of the searched text. -/
theorem exists_named_of_part? (h : m ∈ pat.findAll t) (hpart : m.part? label = some found) :
    m.textOf label = found.text ∧ ∃ a ∈ pat.named label, ∃ p q ps qs,
      (Place.start t).Reaches p ∧ p.Takes found.text q ∧ Way a p ps q qs := by
  obtain ⟨p, hp, hmatch, -⟩ := exists_place_of_mem_findAll h
  obtain ⟨-, hway⟩ := way_of_matchAt? hmatch
  have hmem : (label, found) ∈ m.parts := by
    obtain ⟨before, after, hparts, -⟩ := List.lookup_eq_some_iff.1 hpart
    rw [hparts]
    exact List.mem_append_right _ (List.mem_cons_self ..)
  refine ⟨by rw [Match.textOf, hpart]; rfl, ?_⟩
  rcases hway.exists_named hmem with hnil | ⟨hreaches, a, ha, ps, qs, hpart⟩
  · cases hnil
  · obtain ⟨taken, htaken⟩ := hpart.reaches
    have htext : found.text = taken := htaken.textTo_eq
    exact ⟨a, ha, found.start, found.stop, ps, qs, hp.trans hreaches, htext ▸ htaken, hpart⟩

/-- Where every way names a part, every match has it. -/
theorem exists_part?_of_names (h : m ∈ pat.findAll t) (hnames : pat.names label = true) :
    ∃ found, m.part? label = some found := by
  obtain ⟨p, -, hmatch, -⟩ := exists_place_of_mem_findAll h
  obtain ⟨found, hfound⟩ := (way_of_matchAt? hmatch).2.exists_of_names hnames
  refine Option.isSome_iff_exists.1 (Option.isSome_iff_ne_none.2 fun hnone => ?_)
  have hother := List.lookup_eq_none_iff.1 hnone (label, found) hfound
  simp at hother

/-- What a named part holds, the searched text holds. -/
theorem mem_of_mem_textOf (h : m ∈ pat.findAll t) (hc : c ∈ m.textOf label) : c ∈ t := by
  cases hpart : m.part? label with
  | none =>
    rw [Match.textOf, hpart] at hc
    cases hc
  | some found =>
    obtain ⟨htext, a, -, p, q, -, -, ⟨before, hstart⟩, htakes, -⟩ := exists_named_of_part? h hpart
    have hwhole : t = before ++ p.rest := hstart.1
    rw [htext] at hc
    rw [hwhole, htakes.1]
    exact List.mem_append_right _ (List.mem_append_left _ hc)

end Pattern

end Decouple
