import Decouple.Pattern.Reach
import Mathlib.Data.List.Forall2
import Mathlib.Data.List.Pairwise

/-!
# Where matches are found

A search goes through the text place by place.  Each match that it finds is one at a place of the
text (`exists_place_of_mem_findAll`), and if it finds none then the pattern takes nothing from any
place (`le_of_findAll_eq_nil`).  So whether there is a match at all can be told from any single
place, although the search skips the places inside of matches.  What is found from a place on is a
match there and what is found behind it (`cut_of_match`), or what is found behind one code point
(`cut_of_none`).

The ways of the patterns that others are built of say what these take, or of which class at least
(`TakesOnly`).
-/

namespace Decouple

namespace Pattern

variable {pat a b : Pattern} {as : List Pattern} {p q : Place} {ps qs : Parts} {t : Text}
  {f g : CodePoint → Bool}

/-! ## The cut, step by step -/

/-- A match that takes something stops before less text. -/
theorem length_lt_of_match {m : Match} (hm : pat.matchAt? p = some m)
    (h : p.offset < m.stop.offset) : m.stop.rest.length < p.rest.length := by
  obtain ⟨taken, hrest, hoffset, -⟩ := (reaches_of_matchAt? hm).2
  rw [hrest, List.length_append]
  omega

/-- The cut does not depend on the fuel. -/
theorem segmentsFrom_of_le {fuel fuel' : Nat} (hfuel : p.rest.length ≤ fuel)
    (hfuel' : p.rest.length ≤ fuel') : pat.segmentsFrom fuel p = pat.segmentsFrom fuel' p := by
  induction fuel generalizing p fuel' with
  | zero =>
    have hnil := List.length_eq_zero_iff.1 (Nat.le_zero.1 hfuel)
    cases fuel' with
    | zero => rfl
    | succ fuel' => rw [segmentsFrom, segmentsFrom, hnil]
  | succ fuel ih =>
    cases fuel' with
    | zero =>
      have hnil := List.length_eq_zero_iff.1 (Nat.le_zero.1 hfuel')
      rw [segmentsFrom, segmentsFrom, hnil]
    | succ fuel' =>
      rw [segmentsFrom, segmentsFrom]
      cases hrest : p.rest with
      | nil => rfl
      | cons c rest =>
        rw [hrest, List.length_cons] at hfuel hfuel'
        have hafter : pat.segmentsFrom fuel (p.after c rest) =
            pat.segmentsFrom fuel' (p.after c rest) :=
          ih (Nat.le_of_succ_le_succ hfuel) (Nat.le_of_succ_le_succ hfuel')
        dsimp only
        cases hm : pat.matchAt? p with
        | none => exact congrArg (Segment.kept c :: ·) hafter
        | some m =>
          dsimp only
          by_cases hadvanced : p.offset < m.stop.offset
          · have hshort := length_lt_of_match hm hadvanced
            rw [hrest, List.length_cons] at hshort
            have hstop : pat.segmentsFrom fuel m.stop = pat.segmentsFrom fuel' m.stop :=
              ih (by omega) (by omega)
            rw [if_pos hadvanced, if_pos hadvanced, hstop]
          · rw [if_neg hadvanced, if_neg hadvanced, hafter]

/-- The cut of the text after a place. -/
def cut (pat : Pattern) (p : Place) : List Segment := pat.segmentsFrom p.rest.length p

/-- At the end of a text nothing is cut off. -/
theorem cut_of_nil (hrest : p.rest = []) : pat.cut p = [] := by
  rw [cut, hrest]
  rfl

/-- A match that takes something is cut off, and then what comes after it. -/
theorem cut_of_match {m : Match} (hm : pat.matchAt? p = some m) (h : p.offset < m.stop.offset) :
    pat.cut p = .found m :: pat.cut m.stop := by
  have hshort := length_lt_of_match hm h
  rw [cut, cut]
  cases hrest : p.rest with
  | nil =>
    rw [hrest] at hshort
    cases hshort
  | cons c rest =>
    rw [hrest, List.length_cons] at hshort
    rw [List.length_cons, segmentsFrom, hrest]
    simp only [hm, if_pos h]
    rw [segmentsFrom_of_le (Nat.le_of_lt_succ hshort) (Nat.le_refl _)]

/-- Where no match takes anything, a single code point is cut off. -/
theorem cut_of_none {c : CodePoint} {rest : Text} (hrest : p.rest = c :: rest)
    (h : ∀ m, pat.matchAt? p = some m → m.stop.offset ≤ p.offset) :
    pat.cut p = .kept c :: pat.cut (p.after c rest) := by
  have hafter : (p.after c rest).rest = rest := rfl
  rw [cut, cut, hafter, hrest, List.length_cons, segmentsFrom, hrest]
  dsimp only
  cases hm : pat.matchAt? p with
  | none => rfl
  | some m =>
    dsimp only
    rw [if_neg (Nat.not_lt.2 (h m hm))]

/-- Where no match takes anything, what lies between is cut into single code points. -/
theorem cut_of_takes {u : Text} (hu : p.Takes u q)
    (h : ∀ r c, c ∈ u → r.rest.head? = some c →
      ∀ m, pat.matchAt? r = some m → m.stop.offset ≤ r.offset) :
    pat.cut p = u.map .kept ++ pat.cut q := by
  induction u generalizing p with
  | nil =>
    obtain rfl := hu.eq_of_nil
    rfl
  | cons c u ih =>
    obtain ⟨rest, hrest, hu⟩ := hu.of_cons
    have hhere := h p c (List.mem_cons_self ..) (by rw [hrest, List.head?_cons])
    rw [cut_of_none hrest hhere, ih hu fun r d hd => h r d (List.mem_cons_of_mem _ hd)]
    rfl

/-! ## Matches and places -/

theorem mem_findAll {m : Match} : m ∈ pat.findAll t ↔ Segment.found m ∈ pat.segments t := by
  rw [findAll, List.mem_filterMap]
  constructor
  · rintro ⟨sg, hsg, hm⟩
    cases sg with
    | kept c => cases hm
    | found m' => exact Option.some.inj hm ▸ hsg
  · exact fun h => ⟨_, h, rfl⟩

theorem exists_place_of_mem_segmentsFrom {fuel : Nat} {m : Match}
    (h : Segment.found m ∈ pat.segmentsFrom fuel p) :
    ∃ q, p.Reaches q ∧ pat.matchAt? q = some m ∧ q.offset < m.stop.offset := by
  induction fuel generalizing p with
  | zero => cases h
  | succ fuel ih =>
    have hkept {c : CodePoint} {rest : Text} (hr : p.rest = c :: rest)
        (h : Segment.found m ∈ .kept c :: pat.segmentsFrom fuel (p.after c rest)) :
        ∃ q, p.Reaches q ∧ pat.matchAt? q = some m ∧ q.offset < m.stop.offset := by
      rcases List.mem_cons.1 h with h | h
      · cases h
      · obtain ⟨q, hq, hm⟩ := ih h
        exact ⟨q, (Place.Reaches.after hr).trans hq, hm⟩
    unfold segmentsFrom at h
    split at h
    · cases h
    · next c rest hr =>
      split at h
      · next m' hm' =>
        split at h
        · next hadvanced =>
          rcases List.mem_cons.1 h with h | h
          · cases h
            exact ⟨p, .refl p, hm', hadvanced⟩
          · obtain ⟨q, hq, hm⟩ := ih h
            exact ⟨q, (reaches_of_matchAt? hm').2.trans hq, hm⟩
        · exact hkept hr h
      · exact hkept hr h

/-- A match that is found is one at a place of the text, and takes something. -/
theorem exists_place_of_mem_findAll {m : Match} (h : m ∈ pat.findAll t) :
    ∃ q, (Place.start t).Reaches q ∧ pat.matchAt? q = some m ∧ q.offset < m.stop.offset :=
  exists_place_of_mem_segmentsFrom (mem_findAll.1 h)

/-- A match that is found is a stretch of the text, taken by a way of the pattern. -/
theorem exists_append_of_mem_findAll {m : Match} (h : m ∈ pat.findAll t) :
    ∃ a b, t = a ++ m.text ++ b ∧ m.start.Takes m.text m.stop ∧
      Way pat m.start [] m.stop m.parts := by
  obtain ⟨q, ⟨a, ha⟩, hmatch, -⟩ := exists_place_of_mem_findAll h
  obtain ⟨hstart, hway⟩ := way_of_matchAt? hmatch
  obtain ⟨taken, htaken⟩ := hway.reaches
  have htext : m.text = taken := by rw [Match.text, hstart, htaken.textTo_eq]
  refine ⟨a, m.stop.rest, ?_, ?_, ?_⟩
  · rw [htext, List.append_assoc, ← htaken.1]
    exact ha.1
  · rwa [htext, hstart]
  · rwa [hstart]

/-- A search goes over a place inside of a match, or looks at it. -/
theorem exists_around_of_segmentsFrom {fuel : Nat} (hfuel : p.rest.length ≤ fuel)
    (hq : p.Reaches q) {m : Match} (hm : pat.matchAt? q = some m)
    (hadvanced : q.offset < m.stop.offset) :
    ∃ m', Segment.found m' ∈ pat.segmentsFrom fuel p ∧ m'.offset ≤ q.offset ∧
      q.offset < m'.stop.offset := by
  have hlong : q.rest ≠ [] := by
    intro hnil
    obtain ⟨taken, hrest, hoffset, -⟩ := (reaches_of_matchAt? hm).2
    rw [hnil] at hrest
    rw [(List.append_eq_nil_iff.1 hrest.symm).1, List.length_nil] at hoffset
    omega
  induction fuel generalizing p with
  | zero =>
    obtain ⟨taken, htaken⟩ := hq
    have hnil := htaken.1
    rw [List.length_eq_zero_iff.1 (Nat.le_zero.1 hfuel)] at hnil
    exact absurd (List.append_eq_nil_iff.1 hnil.symm).2 hlong
  | succ fuel ih =>
    unfold segmentsFrom
    split
    · next hr =>
      obtain ⟨taken, htaken⟩ := hq
      exact absurd (List.append_eq_nil_iff.1 (hr.symm.trans htaken.1).symm).2 hlong
    · next c rest hr =>
      have hshort : rest.length ≤ fuel := by
        rw [hr, List.length_cons] at hfuel
        omega
      -- Either the place is the one looked at, or it lies beyond the next code point.
      have hahead (hhere : ∀ m, pat.matchAt? p = some m → m.stop.offset ≤ p.offset) :
          ∃ m', Segment.found m' ∈ .kept c :: pat.segmentsFrom fuel (p.after c rest) ∧
            m'.offset ≤ q.offset ∧ q.offset < m'.stop.offset := by
        obtain ⟨taken, htaken⟩ := hq
        cases taken with
        | nil =>
          obtain rfl := htaken.eq_of_nil
          exact absurd (hhere m hm) (Nat.not_le.2 hadvanced)
        | cons d taken =>
          obtain ⟨rest', hr', htaken⟩ := htaken.of_cons
          obtain ⟨rfl, rfl⟩ := List.cons.inj (hr'.symm.trans hr)
          obtain ⟨m', hm', haround⟩ := ih hshort ⟨taken, htaken⟩
          exact ⟨m', List.mem_cons_of_mem _ hm', haround⟩
      split
      · next m' hm' =>
        obtain ⟨hstart, hreaches⟩ := reaches_of_matchAt? hm'
        split
        · next hgoes =>
          rcases Nat.lt_or_ge q.offset m'.stop.offset with hlt | hge
          · refine ⟨m', List.mem_cons_self .., ?_, hlt⟩
            rw [Match.offset, hstart, hq.length_textTo]
            exact Nat.le_add_right _ _
          · have hshorter : m'.stop.rest.length ≤ fuel := by
              have hlength := congrArg List.length hreaches.textTo_append_rest
              have htaken := hreaches.length_textTo
              rw [List.length_append] at hlength
              omega
            obtain ⟨m'', hm'', haround⟩ := ih hshorter (hreaches.of_le hq hge)
            exact ⟨m'', List.mem_cons_of_mem _ hm'', haround⟩
        · next hstays =>
          refine hahead fun m hm => ?_
          rw [← Option.some.inj (hm'.symm.trans hm)]
          omega
      · next hnone =>
        refine hahead fun m hm => ?_
        rw [hnone] at hm
        cases hm

/-- A place from which the pattern takes something lies inside of a match that is found, or starts
one. -/
theorem exists_around_of_matchAt? (hq : (Place.start t).Reaches q) {m : Match}
    (hm : pat.matchAt? q = some m) (hadvanced : q.offset < m.stop.offset) :
    ∃ m' ∈ pat.findAll t, m'.offset ≤ q.offset ∧ q.offset < m'.stop.offset := by
  obtain ⟨m', hm', haround⟩ := exists_around_of_segmentsFrom (Nat.le_refl _) hq hm hadvanced
  exact ⟨m', mem_findAll.2 hm', haround⟩

/-- Where no match is found, the pattern takes nothing from any place. -/
theorem le_of_findAll_eq_nil (h : pat.findAll t = []) (hq : (Place.start t).Reaches q) {m : Match}
    (hm : pat.matchAt? q = some m) : m.stop.offset ≤ q.offset := by
  by_contra hlt
  obtain ⟨m', hm', -⟩ := exists_around_of_matchAt? hq hm (Nat.lt_of_not_le hlt)
  rw [h] at hm'
  cases hm'

/-! ## Matches one after the other -/

theorem le_offset_of_mem_segmentsFrom {fuel : Nat} {m : Match}
    (h : Segment.found m ∈ pat.segmentsFrom fuel p) : p.offset ≤ m.offset := by
  obtain ⟨q, hq, hm, -⟩ := exists_place_of_mem_segmentsFrom h
  rw [Match.offset, (reaches_of_matchAt? hm).1, hq.length_textTo]
  exact Nat.le_add_right _ _

theorem pairwise_segmentsFrom (pat : Pattern) (fuel : Nat) (p : Place) :
    ((pat.segmentsFrom fuel p).filterMap Segment.match?).Pairwise fun m m' =>
      m.stop.offset ≤ m'.offset := by
  induction fuel generalizing p with
  | zero => exact .nil
  | succ fuel ih =>
    unfold segmentsFrom
    split
    · exact .nil
    · next c rest hr =>
      split
      · next m hm =>
        split
        · refine .cons (fun m' hm' => ?_) (ih m.stop)
          obtain ⟨sg, hsg, hfound⟩ := List.mem_filterMap.1 hm'
          cases sg with
          | kept d => cases hfound
          | found m'' =>
            obtain rfl := Option.some.inj hfound
            exact le_offset_of_mem_segmentsFrom hsg
        · exact ih _
      · exact ih _

/-- Each match stops before the next one starts. -/
theorem pairwise_findAll (pat : Pattern) (t : Text) :
    (pat.findAll t).Pairwise fun m m' => m.stop.offset ≤ m'.offset :=
  pairwise_segmentsFrom pat t.length (Place.start t)

/-- A match that is found takes something. -/
theorem offset_lt_of_mem_findAll {m : Match} (h : m ∈ pat.findAll t) :
    m.offset < m.stop.offset := by
  obtain ⟨q, -, hm, hlt⟩ := exists_place_of_mem_findAll h
  rwa [Match.offset, (reaches_of_matchAt? hm).1]

/-- No two matches share a place. -/
theorem eq_of_mem_findAll {m m' : Match} (h : m ∈ pat.findAll t) (h' : m' ∈ pat.findAll t)
    (hle : m'.offset ≤ m.offset) (hlt : m.offset < m'.stop.offset) : m' = m := by
  let Apart (a b : Match) : Prop := a.stop.offset ≤ b.offset ∨ b.stop.offset ≤ a.offset
  have hsymm : Std.Symm Apart := ⟨fun _ _ => Or.symm⟩
  have hapart : (pat.findAll t).Pairwise Apart := (pairwise_findAll pat t).imp fun h => .inl h
  by_contra hne
  have hlong := offset_lt_of_mem_findAll h
  rcases hapart.forall h' h hne with hbefore | hbehind
  · omega
  · omega

/-- A match that is found is the match at the place where it starts. -/
theorem matchAt?_of_mem_findAll {m : Match} (h : m ∈ pat.findAll t)
    (hp : (Place.start t).Reaches p) (hoffset : m.offset = p.offset) : pat.matchAt? p = some m := by
  obtain ⟨q, hq, hm, -⟩ := exists_place_of_mem_findAll h
  rw [Match.offset, (reaches_of_matchAt? hm).1] at hoffset
  rwa [← hp.eq_of_offset hq hoffset]

/-- A place that no match goes over is looked at. -/
theorem mem_findAll_of_matchAt? (hq : (Place.start t).Reaches q) {m : Match}
    (hm : pat.matchAt? q = some m) (hadvanced : q.offset < m.stop.offset)
    (hover : ∀ m' ∈ pat.findAll t, m'.offset < q.offset → m'.stop.offset ≤ q.offset) :
    m ∈ pat.findAll t := by
  obtain ⟨m', hm', hle, hlt⟩ := exists_around_of_matchAt? hq hm hadvanced
  have hoffset : m'.offset = q.offset := by
    have hcross := hover m' hm'
    omega
  rwa [← Option.some.inj ((matchAt?_of_mem_findAll hm' hq hoffset).symm.trans hm)]

/-- A match at the start of a text is the first that is found. -/
theorem find?_of_matchAt?_start {m : Match} (hm : pat.matchAt? (Place.start t) = some m)
    (hadvanced : 0 < m.stop.offset) : pat.find? t = some m := by
  have hfound : m ∈ pat.findAll t :=
    mem_findAll_of_matchAt? (.refl _) hm hadvanced fun _ _ hlt => absurd hlt (Nat.not_lt_zero _)
  have hordered := pairwise_findAll pat t
  rw [find?]
  cases hall : pat.findAll t with
  | nil =>
    rw [hall] at hfound
    cases hfound
  | cons first more =>
    rw [hall] at hfound hordered
    rcases List.mem_cons.1 hfound with rfl | hmore
    · rfl
    · have hlong := offset_lt_of_mem_findAll (hall ▸ List.mem_cons_self .. : first ∈ pat.findAll t)
      have hle := List.rel_of_pairwise_cons hordered hmore
      rw [Match.offset, (reaches_of_matchAt? hm).1] at hle
      exact absurd (Nat.lt_of_lt_of_le hlong hle) (Nat.not_lt_zero _)

/-- A match that takes all of a text is the only one. -/
theorem findAll_of_whole {m : Match} (hm : pat.matchAt? (Place.start t) = some m) (hne : t ≠ [])
    (hend : m.stop.rest = []) : pat.findAll t = [m] ∧ m.text = t := by
  obtain ⟨hstart, hreaches⟩ := reaches_of_matchAt? hm
  have htext : m.text = t := by
    have hall := hreaches.textTo_append_rest
    rw [hend, List.append_nil] at hall
    rw [Match.text, hstart, hall]
    rfl
  have hadvanced : (Place.start t).offset < m.stop.offset := by
    have hlength := hreaches.length_textTo
    rw [← hstart, ← Match.text, htext, hstart] at hlength
    have hpos := List.length_pos_iff.2 hne
    omega
  have hcut : pat.segments t = [.found m] := by
    have hall : pat.segments t = pat.cut (Place.start t) := rfl
    rw [hall, cut_of_match hm hadvanced, cut_of_nil hend]
  refine ⟨?_, htext⟩
  rw [findAll, hcut]
  rfl

/-! ## Ways of built patterns -/

theorem way_one (h : Way (.one f) p ps q qs) : qs = ps ∧ ∃ c, f c = true ∧ p.Takes [c] q := by
  cases h with
  | one hrest hc => exact ⟨rfl, _, hc, .after hrest⟩

/-- Just one code point is taken. -/
theorem way_is {c : CodePoint} (h : Way (.one (CodePoint.is c)) p ps q qs) :
    qs = ps ∧ p.Takes [c] q := by
  obtain ⟨hparts, d, hd, htaken⟩ := way_one h
  obtain rfl : d = c := by simpa [CodePoint.is] using hd
  exact ⟨hparts, htaken⟩

theorem way_many {least : Nat} {greed : Greed} (h : Way (.many f least greed) p ps q qs) :
    qs = ps ∧ ∃ taken, p.Takes taken q ∧ (∀ c ∈ taken, f c = true) ∧ least ≤ taken.length := by
  cases h with
  | many htaken hall hleast => exact ⟨rfl, _, htaken, hall, hleast⟩

theorem way_seq : Way (.seq a b) p ps q qs ↔ ∃ m ms, Way a p ps m ms ∧ Way b m ms q qs := by
  constructor
  · intro h
    cases h with
    | seq ha hb => exact ⟨_, _, ha, hb⟩
  · rintro ⟨m, ms, ha, hb⟩
    exact .seq ha hb

theorem way_alt : Way (.alt a b) p ps q qs ↔ Way a p ps q qs ∨ Way b p ps q qs := by
  constructor
  · intro h
    cases h with
    | first h => exact .inl h
    | second h => exact .inr h
  · rintro (h | h)
    · exact .first h
    · exact .second h

theorem way_empty : Way .empty p ps q qs ↔ q = p ∧ qs = ps := by
  constructor
  · intro h
    cases h
    exact ⟨rfl, rfl⟩
  · rintro ⟨rfl, rfl⟩
    exact .empty

theorem way_sequence_nil : Way (sequence []) p ps q qs ↔ q = p ∧ qs = ps := way_empty

/-- A choice is one of its patterns. -/
theorem way_choice (h : Way (choice as) p ps q qs) : ∃ a ∈ as, Way a p ps q qs := by
  induction as with
  | nil =>
    obtain ⟨-, c, hc, -⟩ := way_one h
    cases hc
  | cons a as ih =>
    cases as with
    | nil => exact ⟨a, List.mem_cons_self .., h⟩
    | cons b as =>
      rcases way_alt.1 h with h | h
      · exact ⟨a, List.mem_cons_self .., h⟩
      · obtain ⟨c, hc, hway⟩ := ih h
        exact ⟨c, List.mem_cons_of_mem _ hc, hway⟩

/-- A sequence is its first pattern and then the others. -/
theorem way_sequence_cons : Way (sequence (a :: as)) p ps q qs ↔
    ∃ m ms, Way a p ps m ms ∧ Way (sequence as) m ms q qs := by
  cases as with
  | nil =>
    constructor
    · exact fun h => ⟨q, qs, h, .empty⟩
    · rintro ⟨m, ms, h, hrest⟩
      obtain ⟨rfl, rfl⟩ := way_empty.1 hrest
      exact h
  | cons _ _ => exact way_seq

/-- At the end of a sequence is its last pattern. -/
theorem way_sequence_concat (h : Way (sequence (as ++ [a])) p ps q qs) :
    ∃ m ms, p.Reaches m ∧ Way a m ms q qs := by
  induction as generalizing p ps with
  | nil => exact ⟨p, ps, .refl p, h⟩
  | cons b as ih =>
    obtain ⟨m, ms, hb, hrest⟩ := way_sequence_cons.1 h
    obtain ⟨m', ms', hm, ha⟩ := ih hrest
    exact ⟨m', ms', hb.reaches.trans hm, ha⟩

/-- Two sequences, one after the other. -/
theorem way_sequence_append {bs : List Pattern} {p q : Place} {ps qs : Parts} :
    Way (sequence (as ++ bs)) p ps q qs ↔
      ∃ m ms, Way (sequence as) p ps m ms ∧ Way (sequence bs) m ms q qs := by
  induction as generalizing p ps with
  | nil =>
    constructor
    · exact fun h => ⟨p, ps, .empty, h⟩
    · rintro ⟨m, ms, hnil, h⟩
      obtain ⟨rfl, rfl⟩ := way_sequence_nil.1 hnil
      exact h
  | cons a as ih =>
    rw [List.cons_append, way_sequence_cons]
    constructor
    · rintro ⟨m, ms, ha, hrest⟩
      obtain ⟨m', ms', has, hbs⟩ := ih.1 hrest
      exact ⟨m', ms', way_sequence_cons.2 ⟨m, ms, ha, has⟩, hbs⟩
    · rintro ⟨m', ms', has, hbs⟩
      obtain ⟨m, ms, ha, has⟩ := way_sequence_cons.1 has
      exact ⟨m, ms, ha, ih.2 ⟨m', ms', has, hbs⟩⟩

/-- A part is named with the places where it starts and stops. -/
theorem way_part {label : Label} (h : Way (.part label a) p ps q qs) :
    ∃ qs', qs = (label, ⟨p, q⟩) :: qs' ∧ Way a p ps q qs' := by
  cases h with
  | part h => exact ⟨_, rfl, h⟩

/-- A sequence of single code points takes one of each class. -/
theorem way_classes {classes : List (CodePoint → Bool)}
    (h : Way (sequence (classes.map one)) p ps q qs) :
    qs = ps ∧ ∃ taken, p.Takes taken q ∧ List.Forall₂ (fun f c => f c = true) classes taken := by
  induction classes generalizing p ps with
  | nil =>
    obtain ⟨rfl, rfl⟩ := way_sequence_nil.1 h
    exact ⟨rfl, [], .nil q, .nil⟩
  | cons f classes ih =>
    obtain ⟨m, ms, hf, hrest⟩ := way_sequence_cons.1 h
    obtain ⟨rfl, c, hc, htaken⟩ := way_one hf
    obtain ⟨rfl, taken, hmore, hall⟩ := ih hrest
    exact ⟨rfl, c :: taken, htaken.append hmore, .cons hc hall⟩

/-- A text taken in either case. -/
theorem way_literalAnyCase (h : Way (literalAnyCase t) p ps q qs) : qs = ps ∧
    ∃ taken, p.Takes taken q ∧
      List.Forall₂ (fun l c => CodePoint.sameLetter l c = true) t taken := by
  have hclasses : literalAnyCase t = sequence ((t.map CodePoint.sameLetter).map one) := by
    rw [literalAnyCase, List.map_map]
    rfl
  rw [hclasses] at h
  obtain ⟨rfl, taken, htaken, hall⟩ := way_classes h
  exact ⟨rfl, taken, htaken, List.forall₂_map_left_iff.1 hall⟩

/-- Just a text is taken. -/
theorem way_literal (h : Way (literal t) p ps q qs) : qs = ps ∧ p.Takes t q := by
  have hclasses : literal t = sequence ((t.map CodePoint.is).map one) := by
    rw [literal, List.map_map]
    rfl
  rw [hclasses] at h
  obtain ⟨rfl, taken, htaken, hall⟩ := way_classes h
  have heq : t = taken := by
    rw [← List.forall₂_eq_eq_eq]
    refine (List.forall₂_map_left_iff.1 hall).imp fun c d hcd => ?_
    simpa [CodePoint.is, eq_comm] using hcd
  exact ⟨rfl, heq ▸ htaken⟩

/-- What stands at the start of a line is found in a text without line feeds only where it starts. -/
theorem findAll_of_lineStart (hline : CodePoint.ofChar '\n' ∉ t)
    (hstart : (sequence (lineStart :: as)).matchAt? (Place.start t) = none) :
    (sequence (lineStart :: as)).findAll t = [] := by
  rw [List.eq_nil_iff_forall_not_mem]
  intro m hm
  obtain ⟨p, ⟨taken, htaken⟩, hmatch, -⟩ := exists_place_of_mem_findAll hm
  obtain ⟨-, hway⟩ := way_of_matchAt? hmatch
  obtain ⟨q, qs, hfeed, -⟩ := way_sequence_cons.1 hway
  cases hlast : taken.getLast? with
  | none =>
    obtain rfl := List.getLast?_eq_none_iff.1 hlast
    obtain rfl := htaken.eq_of_nil
    rw [hstart] at hmatch
    cases hmatch
  | some c =>
    cases hfeed with
    | lineStart hfeed =>
      have hwhole : t = taken ++ p.rest := htaken.1
      rw [htaken.2.2, hlast, Option.some_or, Option.all_some, CodePoint.is, decide_eq_true_eq] at hfeed
      rw [hwhole] at hline
      exact hline (List.mem_append_left _ (hfeed ▸ List.mem_of_getLast? hlast))

/-! ## Patterns that take members of a class -/

/-- All ways of a pattern take nothing but members of a class. -/
def TakesOnly (f : CodePoint → Bool) (a : Pattern) : Prop :=
  ∀ p ps q qs, Way a p ps q qs → ∃ t, p.Takes t q ∧ ∀ c ∈ t, f c = true

theorem takesOnly_one (h : ∀ c, g c = true → f c = true) : TakesOnly f (.one g) := by
  intro p ps q qs hway
  obtain ⟨-, c, hc, htaken⟩ := way_one hway
  exact ⟨[c], htaken, by simpa using h c hc⟩

theorem takesOnly_is {c : CodePoint} (h : f c = true) : TakesOnly f (.one (CodePoint.is c)) :=
  takesOnly_one fun d hd => by rwa [show d = c by simpa [CodePoint.is] using hd]

theorem takesOnly_many {least : Nat} {greed : Greed} (h : ∀ c, g c = true → f c = true) :
    TakesOnly f (.many g least greed) := by
  intro p ps q qs hway
  obtain ⟨-, t, ht, hall, -⟩ := way_many hway
  exact ⟨t, ht, fun c hc => h c (hall c hc)⟩

theorem takesOnly_literal {t : Text} (h : ∀ c ∈ t, f c = true) : TakesOnly f (literal t) := by
  intro p ps q qs hway
  exact ⟨t, (way_literal hway).2, h⟩

theorem takesOnly_empty : TakesOnly f .empty := by
  intro p ps q qs hway
  obtain ⟨rfl, -⟩ := way_empty.1 hway
  exact ⟨[], .nil q, List.forall_mem_nil _⟩

theorem takesOnly_textEnd : TakesOnly f .textEnd := by
  intro p ps q qs hway
  cases hway
  exact ⟨[], .nil p, List.forall_mem_nil _⟩

theorem takesOnly_seq (ha : TakesOnly f a) (hb : TakesOnly f b) : TakesOnly f (.seq a b) := by
  intro p ps q qs hway
  obtain ⟨m, ms, hm, hq⟩ := way_seq.1 hway
  obtain ⟨t, ht, hall⟩ := ha _ _ _ _ hm
  obtain ⟨u, hu, hall'⟩ := hb _ _ _ _ hq
  exact ⟨t ++ u, ht.append hu, List.forall_mem_append.2 ⟨hall, hall'⟩⟩

theorem takesOnly_alt (ha : TakesOnly f a) (hb : TakesOnly f b) : TakesOnly f (.alt a b) := by
  intro p ps q qs hway
  rcases way_alt.1 hway with h | h
  · exact ha _ _ _ _ h
  · exact hb _ _ _ _ h

theorem takesOnly_again (h : TakesOnly f a) : TakesOnly f (.again a) := by
  intro p ps q qs hway
  generalize hb : Pattern.again a = b at hway
  induction hway with
  | once hway _ =>
    obtain rfl := Pattern.again.inj hb
    exact h _ _ _ _ hway
  | more hway _ _ ih =>
    obtain rfl := Pattern.again.inj hb
    obtain ⟨t, ht, hall⟩ := h _ _ _ _ hway
    obtain ⟨u, hu, hall'⟩ := ih rfl
    exact ⟨t ++ u, ht.append hu, List.forall_mem_append.2 ⟨hall, hall'⟩⟩
  | _ => cases hb

theorem takesOnly_sequence (h : ∀ a ∈ as, TakesOnly f a) : TakesOnly f (sequence as) := by
  induction as with
  | nil => exact takesOnly_empty
  | cons a as ih =>
    intro p ps q qs hway
    obtain ⟨m, ms, ha, hrest⟩ := way_sequence_cons.1 hway
    obtain ⟨t, ht, hall⟩ := h a (List.mem_cons_self ..) _ _ _ _ ha
    obtain ⟨u, hu, hall'⟩ := ih (fun b hb => h b (List.mem_cons_of_mem _ hb)) _ _ _ _ hrest
    exact ⟨t ++ u, ht.append hu, List.forall_mem_append.2 ⟨hall, hall'⟩⟩

theorem takesOnly_optional (h : TakesOnly f a) : TakesOnly f (optional a) :=
  takesOnly_alt h takesOnly_empty

theorem takesOnly_lineBreak (hreturn : f '\r' = true) (hfeed : f '\n' = true) :
    TakesOnly f lineBreak :=
  takesOnly_seq (takesOnly_optional (takesOnly_is hreturn)) (takesOnly_is hfeed)

/-! ## Running built patterns -/

section Running

variable {α : Type} {next : Place → Parts → Option α}

/-- A pattern in a sequence is run, and the rest of the sequence from where it stops. -/
theorem run_sequence_cons : (sequence (a :: as)).run p ps next =
    a.run p ps fun q qs => (sequence as).run q qs next := by
  cases as <;> rfl

/-- A sequence is run, and another from where it stops. -/
theorem run_sequence_append {bs : List Pattern} : (sequence (as ++ bs)).run p ps next =
    (sequence as).run p ps fun q qs => (sequence bs).run q qs next := by
  induction as generalizing p ps with
  | nil => rfl
  | cons a as ih =>
    rw [List.cons_append, run_sequence_cons, run_sequence_cons]
    exact congrArg (a.run p ps) (funext fun q => funext fun qs => ih)

/-- Where the first of two patterns is accepted the second is not tried. -/
theorem run_alt_of_eq_some {r : α} (h : a.run p ps next = some r) :
    (alt a b).run p ps next = some r := by
  rw [run, h]

/-- Where the first of two patterns is not accepted the second is tried. -/
theorem run_alt_of_eq_none (h : a.run p ps next = none) :
    (alt a b).run p ps next = b.run p ps next := by
  rw [run, h]

/-- A member of a class that stands at a place is taken. -/
theorem run_one {c : CodePoint} (h : p.Takes [c] q) (hc : f c = true) :
    (one f).run p ps next = next q ps := by
  obtain ⟨rest, hrest, h⟩ := h.of_cons
  obtain rfl := h.eq_of_nil
  rw [run, hrest]
  exact if_pos hc

theorem run_notAfter (h : p.isAfter f = false) : (notAfter f).run p ps next = next p ps := by
  rw [run, h]
  rfl

/-- A look ahead that succeeds takes nothing. -/
theorem run_followedBy (h : a.run p ps (fun _ parts => some parts) = some qs) :
    (followedBy a).run p ps next = next p qs := by
  rw [run, h]

/-- A text that stands at a place is taken. -/
theorem run_literal (h : p.Takes t q) : (literal t).run p ps next = next q ps := by
  induction t generalizing p with
  | nil =>
    obtain rfl := h.eq_of_nil
    rfl
  | cons c t ih =>
    obtain ⟨rest, hrest, h⟩ := h.of_cons
    have hhere : (literal (c :: t)).run p ps next = (literal t).run (p.after c rest) ps next := by
      rw [literal, List.map_cons, run_sequence_cons, run, hrest]
      simp [CodePoint.is, literal]
    rw [hhere, ih h]

end Running

end Pattern

end Decouple
