import Decouple.Proofs.Matches
import Mathlib.Data.Option.Basic

/-!
# Searching on both sides of a separator

A pattern may read members of one class only, each once and in order, and look at nothing else: not
at what comes before, not at the edges of words, not at the end of the text.  A code point outside of
the class is a separator for it.  No match goes across a separator, and none depends on what lies
beyond it, so the matches of a text with a separator in it are those before the separator and then
those behind it (`texts_append`).

The step is `run_beside`: from places of which one has more text behind it, set off by a separator,
such a pattern goes the same ways.
-/

namespace Decouple

namespace Place

variable {tail : Text} {shift : Nat} {p q : Place}

/-- Whether a place has the same text after it as another and then `tail`, `shift` further on. -/
structure Beside (tail : Text) (shift : Nat) (p q : Place) : Prop where
  rest : q.rest = p.rest ++ tail
  offset : q.offset = p.offset + shift

theorem Beside.after (h : Beside tail shift p q) {c : CodePoint} {rest : Text} :
    Beside tail shift (p.after c rest) (q.after c (rest ++ tail)) := by
  refine ⟨rfl, ?_⟩
  have hoffset := h.offset
  dsimp only [Place.after]
  omega

/-- Places beside each other, and the places beside each other that they reach, have the same text
between them. -/
theorem Beside.textTo {p' q' : Place} (h : Beside tail shift p q) (h' : Beside tail shift p' q')
    (hp : p.Reaches p') : q.textTo q' = p.textTo p' := by
  have hoffset := h.offset
  have hoffset' := h'.offset
  have hlength : p'.offset - p.offset ≤ p.rest.length := by
    have hwhole := congrArg List.length hp.textTo_append_rest
    have hlong := hp.length_textTo
    rw [List.length_append] at hwhole
    omega
  have hsame : q'.offset - q.offset = p'.offset - p.offset := by omega
  rw [Place.textTo, hsame, h.rest, List.take_append_of_le_length hlength]
  rfl

end Place

namespace Pattern

variable {f g : CodePoint → Bool} {pat a b : Pattern} {tail : Text} {shift : Nat} {p q : Place}
  {ps qs : Parts}

/-- A pattern that reads members of a class, and as many of them as it can, and looks at nothing
else. -/
inductive Reads (f : CodePoint → Bool) : Pattern → Prop where
  | empty : Reads f .empty
  | one {g : CodePoint → Bool} (h : ∀ c, g c = true → f c = true) : Reads f (.one g)
  | many {g : CodePoint → Bool} {least : Nat} (h : ∀ c, g c = true → f c = true) :
      Reads f (.many g least .greedy)
  | seq {a b : Pattern} (ha : Reads f a) (hb : Reads f b) : Reads f (.seq a b)
  | alt {a b : Pattern} (ha : Reads f a) (hb : Reads f b) : Reads f (.alt a b)

theorem reads_sequence {as : List Pattern} (h : ∀ a ∈ as, Reads f a) : Reads f (sequence as) := by
  induction as with
  | nil => exact .empty
  | cons a as ih =>
    have hrest := ih fun b hb => h b (List.mem_cons_of_mem _ hb)
    cases as with
    | nil => exact h a (List.mem_cons_self ..)
    | cons _ _ => exact .seq (h a (List.mem_cons_self ..)) hrest

theorem reads_literal {t : Text} (h : ∀ c ∈ t, f c = true) : Reads f (literal t) := by
  refine reads_sequence fun a ha => ?_
  obtain ⟨c, hc, rfl⟩ := List.mem_map.1 ha
  refine .one fun d hd => ?_
  have heq : d = c := by simpa [CodePoint.is] using hd
  rw [heq]
  exact h c hc

/-- Whether a text, if there is any, starts with a separator. -/
def IsSetOff (f : CodePoint → Bool) (tail : Text) : Prop := ∀ c ∈ tail.head?, f c = false

theorem isSetOff_nil : IsSetOff f [] := by simp [IsSetOff]

theorem isSetOff_cons {d : CodePoint} {tail : Text} (h : f d = false) : IsSetOff f (d :: tail) := by
  simpa [IsSetOff] using h

/-! ## The same ways on both sides -/

section Ways

variable {α β : Type} {R : α → β → Prop}

/-- Attempts that agree, the second made where the first fails. -/
theorem rel_or {x y : Option α} {x' y' : Option β} :
    Option.Rel R x x' → Option.Rel R y y' → Option.Rel R
      (match x with
        | some r => some r
        | none => y)
      (match x' with
        | some r => some r
        | none => y') := by
  intro hx hy
  cases hx with
  | some h => exact .some h
  | none => exact hy

theorem runGreedy_beside (hg : ∀ c, g c = true → f c = true) (htail : IsSetOff f tail)
    {next : Place → Option α} {next' : Place → Option β}
    (hnext : ∀ m m', Place.Beside tail shift m m' → Option.Rel R (next m) (next' m'))
    {least : Nat} {before before' : Option CodePoint} {rest : Text} {offset : Nat} :
    Option.Rel R (runGreedy g next least before rest offset)
      (runGreedy g next' least before' (rest ++ tail) (offset + shift)) := by
  induction rest generalizing least before before' offset with
  | nil =>
    -- The stretch ends with the text, or at the separator.
    have hend : runGreedy g next' least before' tail (offset + shift) =
        if least = 0 then next' ⟨before', tail, offset + shift⟩ else none := by
      cases tail with
      | nil => cases least <;> rfl
      | cons d tail =>
        have hd : g d = false := by
          by_contra hd
          have hf := hg d (by simpa using hd)
          rw [htail d rfl] at hf
          cases hf
        simp [runGreedy, hd]
    rw [List.nil_append, hend]
    cases least with
    | zero => exact hnext _ _ ⟨rfl, rfl⟩
    | succ least => exact .none
  | cons c rest ih =>
    have hstop : Option.Rel R (if least = 0 then next ⟨before, c :: rest, offset⟩ else none)
        (if least = 0 then next' ⟨before', c :: (rest ++ tail), offset + shift⟩ else none) := by
      by_cases hleast : least = 0
      · rw [if_pos hleast, if_pos hleast]
        exact hnext _ _ ⟨rfl, rfl⟩
      · rw [if_neg hleast, if_neg hleast]
        exact .none
    rw [List.cons_append, runGreedy, runGreedy]
    by_cases hc : g c = true
    · have hmore := @ih (least - 1) (some c) (some c) (offset + 1)
      rw [Nat.add_right_comm] at hmore
      rw [if_pos hc, if_pos hc]
      exact rel_or hmore hstop
    · rw [if_neg hc, if_neg hc]
      exact rel_or .none hstop

/-- From places beside each other a pattern that reads members of a class goes the same ways. -/
theorem run_beside (hpat : Reads f pat) (htail : IsSetOff f tail)
    {next : Place → Parts → Option α} {next' : Place → Parts → Option β}
    (hnext : ∀ m m', Place.Beside tail shift m m' → Option.Rel R (next m ps) (next' m' qs))
    (h : Place.Beside tail shift p q) : Option.Rel R (pat.run p ps next) (pat.run q qs next') := by
  induction hpat generalizing p q next next' with
  | empty => exact hnext p q h
  | @one g hg =>
    have hrest := h.rest
    rw [run, run]
    cases hp : p.rest with
    | nil =>
      rw [hp, List.nil_append] at hrest
      rw [hrest]
      cases tail with
      | nil => exact .none
      | cons d tail =>
        have hd : ¬g d = true := fun hd => by
          have hf := hg d hd
          rw [htail d rfl] at hf
          cases hf
        dsimp only
        rw [if_neg hd]
        exact .none
    | cons c rest =>
      rw [hp, List.cons_append] at hrest
      rw [hrest]
      dsimp only
      by_cases hc : g c = true
      · rw [if_pos hc, if_pos hc]
        exact hnext _ _ h.after
      · rw [if_neg hc, if_neg hc]
        exact .none
  | many hg =>
    rw [run, run, h.rest, h.offset]
    exact runGreedy_beside hg htail hnext
  | seq _ _ iha ihb =>
    rw [run, run]
    exact iha (fun m m' hm => ihb hnext hm) h
  | alt _ _ iha ihb =>
    rw [run, run]
    exact rel_or (iha hnext h) (ihb hnext h)

end Ways

/-! ## The matches on both sides -/

theorem matchAt?_beside (hpat : Reads f pat) (htail : IsSetOff f tail)
    (h : Place.Beside tail shift p q) :
    Option.Rel (fun m m' => Place.Beside tail shift m.stop m'.stop) (pat.matchAt? p)
      (pat.matchAt? q) :=
  run_beside hpat htail (fun _ _ hm => .some hm) h

/-- The texts of the matches after a place. -/
def textsFrom (pat : Pattern) (p : Place) : List Text :=
  ((pat.cut p).filterMap Segment.match?).map Match.text

/-- The texts of the matches of a text. -/
def texts (pat : Pattern) (t : Text) : List Text := (pat.findAll t).map Match.text

theorem textsFrom_nil (hrest : p.rest = []) : pat.textsFrom p = [] := by
  rw [textsFrom, cut_of_nil hrest]
  rfl

/-- A match that takes something is found, and then those after it. -/
theorem textsFrom_of_match {m : Match} (hm : pat.matchAt? p = some m)
    (h : p.offset < m.stop.offset) : pat.textsFrom p = m.text :: pat.textsFrom m.stop := by
  rw [textsFrom, cut_of_match hm h]
  rfl

/-- Where no match takes anything, the search goes on behind the next code point. -/
theorem textsFrom_of_none {c : CodePoint} {rest : Text} (hrest : p.rest = c :: rest)
    (h : ∀ m, pat.matchAt? p = some m → m.stop.offset ≤ p.offset) :
    pat.textsFrom p = pat.textsFrom (p.after c rest) := by
  rw [textsFrom, cut_of_none hrest h]
  rfl

/-- After a place that has more text behind it there are the same matches, and then those of the
text behind it. -/
theorem textsFrom_beside (hpat : Reads f pat) (htail : IsSetOff f tail) {found : List Text}
    (hfound : ∀ q : Place, q.rest = tail → pat.textsFrom q = found)
    (h : Place.Beside tail shift p q) : pat.textsFrom q = pat.textsFrom p ++ found := by
  induction hlength : p.rest.length using Nat.strongRecOn generalizing p q with
  | ind n ih =>
    cases hp : p.rest with
    | nil =>
      have hrest : q.rest = tail := by rw [h.rest, hp, List.nil_append]
      rw [hfound q hrest, textsFrom_nil hp, List.nil_append]
    | cons c rest =>
      have hrest : q.rest = c :: (rest ++ tail) := by rw [h.rest, hp, List.cons_append]
      have hmatches := matchAt?_beside hpat htail h
      by_cases hadvanced : ∃ m, pat.matchAt? p = some m ∧ p.offset < m.stop.offset
      · obtain ⟨m, hm, hlt⟩ := hadvanced
        rw [hm] at hmatches
        generalize hm' : pat.matchAt? q = found' at hmatches
        cases hmatches with
        | @some _ m' hstop =>
          obtain ⟨hstart, hreaches⟩ := reaches_of_matchAt? hm
          have hstart' := (reaches_of_matchAt? hm').1
          have htext : m'.text = m.text := by
            rw [Match.text, Match.text, hstart, hstart', h.textTo hstop hreaches]
          have hlt' : q.offset < m'.stop.offset := by
            rw [h.offset, hstop.offset]
            omega
          have hshort := length_lt_of_match hm hlt
          rw [hlength] at hshort
          rw [textsFrom_of_match hm' hlt', textsFrom_of_match hm hlt, htext,
            ih _ hshort hstop rfl, List.cons_append]
      · have hstays : ∀ m, pat.matchAt? p = some m → m.stop.offset ≤ p.offset := by
          intro m hm
          by_contra hlt
          exact hadvanced ⟨m, hm, by omega⟩
        have hstays' : ∀ m, pat.matchAt? q = some m → m.stop.offset ≤ q.offset := by
          intro m' hm'
          rw [hm'] at hmatches
          generalize hm : pat.matchAt? p = found' at hmatches
          cases hmatches with
          | some hstop =>
            have hle := hstays _ hm
            rw [h.offset, hstop.offset]
            omega
        have hshort : (p.after c rest).rest.length < n := by
          rw [← hlength, hp]
          exact Nat.lt_succ_self _
        rw [textsFrom_of_none hrest hstays', textsFrom_of_none hp hstays, ih _ hshort h.after rfl]

/-- The matches do not depend on where a text stands. -/
theorem textsFrom_eq_texts (hpat : Reads f pat) : pat.textsFrom p = pat.texts p.rest := by
  have h : Place.Beside [] p.offset (Place.start p.rest) p :=
    ⟨(List.append_nil _).symm, (Nat.zero_add _).symm⟩
  have hmatches := textsFrom_beside hpat isSetOff_nil (fun q hq => textsFrom_nil hq) h
  rwa [List.append_nil] at hmatches

/-- At a separator there is no match that takes anything. -/
theorem le_of_separator (hpat : Reads f pat) {d : CodePoint} (hd : f d = false) {rest : Text}
    (hrest : p.rest = d :: rest) {m : Match} (hm : pat.matchAt? p = some m) :
    m.stop.offset ≤ p.offset := by
  -- The pattern goes the same ways where the text ends, and there is nothing to take there.
  have hend : Place.Beside (d :: rest) 0 ⟨none, [], p.offset⟩ p := ⟨hrest, rfl⟩
  have hmatches := matchAt?_beside hpat (isSetOff_cons hd) hend
  rw [hm] at hmatches
  generalize hm₀ : pat.matchAt? ⟨none, [], p.offset⟩ = found at hmatches
  cases hmatches with
  | some hstop =>
    obtain ⟨taken, htaken, hoffset, -⟩ := (reaches_of_matchAt? hm₀).2
    rw [(List.append_eq_nil_iff.1 htaken.symm).1] at hoffset
    have hshift := hstop.offset
    simp only [List.length_nil] at hoffset
    omega

/-- The matches of a text with a separator in it are those before the separator and then those
behind it. -/
theorem texts_append (hpat : Reads f pat) {d : CodePoint} (hd : f d = false) (u v : Text) :
    pat.texts (u ++ d :: v) = pat.texts u ++ pat.texts v := by
  have h : Place.Beside (d :: v) 0 (Place.start u) (Place.start (u ++ d :: v)) := ⟨rfl, rfl⟩
  refine textsFrom_beside hpat (isSetOff_cons hd) (fun q hq => ?_) h
  rw [textsFrom_of_none hq fun m hm => le_of_separator hpat hd hq hm]
  exact textsFrom_eq_texts hpat

end Pattern

end Decouple
