import Decouple.Pattern.Scan

/-!
# Ways to match

`Pattern.run` tries the ways to match in order and stops at the first that its continuation accepts.
The relation `Way` says what a way is, without the order: where it starts and stops, what it takes
of the text, and the parts that it names.  What `run` hands on is the end of a way (`run_way`), so
whatever holds of all ways holds of each match.

A way leads ahead: a match is a stretch of the searched text, and the segments of a text, one after
the other, are that text.
-/

namespace Decouple

open CodePoint (is)

namespace Place

/-- Whether a place is reached from another by taking a stretch of its text. -/
def Takes (p : Place) (taken : Text) (q : Place) : Prop :=
  p.rest = taken ++ q.rest ∧ q.offset = p.offset + taken.length ∧
    q.before = taken.getLast?.or p.before

/-- Whether a place is reached from another by taking code points of its text. -/
def Reaches (p q : Place) : Prop := ∃ taken, p.Takes taken q

namespace Takes

variable {p q r : Place} {t u : Text} {c : CodePoint} {rest : Text}

theorem nil (p : Place) : p.Takes [] p := by simp [Takes]

theorem append (h : p.Takes t q) (k : q.Takes u r) : p.Takes (t ++ u) r := by
  obtain ⟨ht, hto, htb⟩ := h
  obtain ⟨hu, huo, hub⟩ := k
  refine ⟨by rw [ht, hu, List.append_assoc], ?_, ?_⟩
  · rw [huo, hto, List.length_append, Nat.add_assoc]
  · rw [hub, htb, List.getLast?_append, Option.or_assoc]

theorem after (h : p.rest = c :: rest) : p.Takes [c] (p.after c rest) := by
  simp [Takes, h, Place.after]

theorem cons (h : p.rest = c :: rest) (k : (p.after c rest).Takes t q) : p.Takes (c :: t) q :=
  (after h).append k

/-- What lies between two places is what has been taken. -/
theorem textTo_eq (h : p.Takes t q) : p.textTo q = t := by
  obtain ⟨ht, hto, -⟩ := h
  have hlength : q.offset - p.offset = t.length := by omega
  rw [textTo, hlength, ht, List.take_left]

/-- A place is known by what has been taken on the way to it. -/
theorem eq_of_nil (h : p.Takes [] q) : q = p := by
  obtain ⟨before, rest, offset⟩ := p
  obtain ⟨before', rest', offset'⟩ := q
  obtain ⟨hrest, hoffset, hbefore⟩ := h
  simp at hrest hoffset hbefore
  rw [hrest, hoffset, hbefore]

theorem of_cons (h : p.Takes (c :: t) q) : ∃ rest, p.rest = c :: rest ∧
    (p.after c rest).Takes t q := by
  obtain ⟨hrest, hoffset, hbefore⟩ := h
  refine ⟨t ++ q.rest, hrest, rfl, ?_, ?_⟩
  · rw [hoffset, List.length_cons]
    dsimp only [Place.after]
    omega
  · rw [hbefore, Place.after]
    cases ht : t.getLast? with
    | none => simp [List.getLast?_eq_none_iff.1 ht]
    | some d => simp [List.getLast?_cons, ht]

end Takes

namespace Reaches

variable {p q r : Place}

theorem refl (p : Place) : p.Reaches p := ⟨[], .nil p⟩

theorem trans (h : p.Reaches q) (k : q.Reaches r) : p.Reaches r := by
  obtain ⟨t, ht⟩ := h
  obtain ⟨u, hu⟩ := k
  exact ⟨t ++ u, ht.append hu⟩

theorem after {c : CodePoint} {rest : Text} (h : p.rest = c :: rest) :
    p.Reaches (p.after c rest) := ⟨[c], .after h⟩

theorem advance (n : Nat) (p : Place) : p.Reaches (p.advance n) := by
  induction n generalizing p with
  | zero => exact refl p
  | succ n ih =>
    unfold Place.advance
    split
    · exact refl p
    · next h => exact (after h).trans (ih _)

/-- What lies between two places and what lies after the second is what lies after the first. -/
theorem textTo_append_rest (h : p.Reaches q) : p.textTo q ++ q.rest = p.rest := by
  obtain ⟨t, ht⟩ := h
  rw [ht.textTo_eq, ht.1]

theorem length_textTo (h : p.Reaches q) : q.offset = p.offset + (p.textTo q).length := by
  obtain ⟨t, ht⟩ := h
  rw [ht.textTo_eq, ht.2.1]

/-- Of two places ahead of a place, the one further on is ahead of the other. -/
theorem of_le (h : p.Reaches q) (h' : p.Reaches r) (hle : q.offset ≤ r.offset) :
    q.Reaches r := by
  obtain ⟨t, ht, hto, htb⟩ := h
  obtain ⟨u, hu, huo, hub⟩ := h'
  obtain ⟨v, rfl⟩ : t <+: u := by
    refine List.prefix_of_prefix_length_le ⟨q.rest, ht.symm⟩ ⟨r.rest, hu.symm⟩ ?_
    omega
  rw [ht, List.append_assoc] at hu
  rw [List.length_append] at huo
  rw [List.getLast?_append, Option.or_assoc, ← htb] at hub
  exact ⟨v, List.append_cancel_left hu, by omega, hub⟩

/-- Of the places ahead of a place each is known by its offset. -/
theorem eq_of_offset (h : p.Reaches q) (h' : p.Reaches r) (hoffset : r.offset = q.offset) : r = q := by
  obtain ⟨taken, htaken⟩ := h.of_le h' (Nat.le_of_eq hoffset.symm)
  have hlength := htaken.2.1
  obtain rfl : taken = [] := List.length_eq_zero_iff.1 (by omega)
  exact htaken.eq_of_nil

end Reaches

end Place

namespace Pattern

variable {α : Type}

/-- A way to match: from a place, with the parts found so far, to a place and the parts found by
then. -/
inductive Way : Pattern → Place → Parts → Place → Parts → Prop where
  | empty {p : Place} {ps : Parts} : Way .empty p ps p ps
  | one {f : CodePoint → Bool} {p : Place} {ps : Parts} {c : CodePoint} {rest : Text}
      (hrest : p.rest = c :: rest) (hc : f c = true) : Way (.one f) p ps (p.after c rest) ps
  | many {f : CodePoint → Bool} {least : Nat} {greed : Greed} {p q : Place} {ps : Parts}
      {taken : Text} (htaken : p.Takes taken q) (hall : ∀ c ∈ taken, f c = true)
      (hleast : least ≤ taken.length) : Way (.many f least greed) p ps q ps
  | seq {a b : Pattern} {p m q : Place} {ps ms qs : Parts} (ha : Way a p ps m ms)
      (hb : Way b m ms q qs) : Way (.seq a b) p ps q qs
  | first {a b : Pattern} {p q : Place} {ps qs : Parts} (h : Way a p ps q qs) :
      Way (.alt a b) p ps q qs
  | second {a b : Pattern} {p q : Place} {ps qs : Parts} (h : Way b p ps q qs) :
      Way (.alt a b) p ps q qs
  | once {a : Pattern} {p q : Place} {ps qs : Parts} (h : Way a p ps q qs) :
      Way (.again a) p ps q qs
  | more {a : Pattern} {p m q : Place} {ps ms qs : Parts} (h : Way a p ps m ms)
      (hmore : Way (.again a) m ms q qs) : Way (.again a) p ps q qs
  | part {label : Label} {a : Pattern} {p q : Place} {ps qs : Parts} (h : Way a p ps q qs) :
      Way (.part label a) p ps q ((label, ⟨p, q⟩) :: qs)
  | same {label : Label} {p : Place} {ps : Parts} {found : Part}
      (hfound : ps.lookup label = some found) (hhead : found.text.isPrefixOf p.rest = true) :
      Way (.same label) p ps (p.advance found.text.length) ps
  | lineStart {p : Place} {ps : Parts} (h : p.before.all (is '\n') = true) :
      Way .lineStart p ps p ps
  | textEnd {p : Place} {ps : Parts} (h : p.rest.isEmpty = true) : Way .textEnd p ps p ps
  | wordEdge {p : Place} {ps : Parts}
      (h : (p.isAfter CodePoint.isWord != p.isBefore CodePoint.isWord) = true) :
      Way .wordEdge p ps p ps
  | followedBy {a : Pattern} {p q : Place} {ps qs : Parts} (h : Way a p ps q qs) :
      Way (.followedBy a) p ps p qs
  | notFollowedBy {a : Pattern} {p : Place} {ps : Parts} : Way (.notFollowedBy a) p ps p ps
  | notAfter {f : CodePoint → Bool} {p : Place} {ps : Parts} (h : p.isAfter f = false) :
      Way (.notAfter f) p ps p ps

/-! ## What is handed on is the end of a way -/

variable {f : CodePoint → Bool} {next : Place → Option α} {least : Nat}
  {before : Option CodePoint} {rest : Text} {offset : Nat} {r : α}

/-- The end of a stretch of members of a class, at least so many of them. -/
def IsStretch (f : CodePoint → Bool) (least : Nat) (p q : Place) : Prop :=
  ∃ taken, p.Takes taken q ∧ (∀ c ∈ taken, f c = true) ∧ least ≤ taken.length

theorem isStretch_refl (p : Place) : IsStretch f 0 p p :=
  ⟨[], .nil p, List.forall_mem_nil _, Nat.le_refl 0⟩

theorem IsStretch.cons {p q : Place} {c : CodePoint} (hrest : p.rest = c :: rest)
    (hc : f c = true) (h : IsStretch f (least - 1) (p.after c rest) q) : IsStretch f least p q := by
  obtain ⟨taken, htaken, hall, hleast⟩ := h
  refine ⟨c :: taken, htaken.cons hrest, List.forall_mem_cons.2 ⟨hc, hall⟩, ?_⟩
  rw [List.length_cons]
  omega

theorem runGreedy_stretch (h : runGreedy f next least before rest offset = some r) :
    ∃ stop, IsStretch f least ⟨before, rest, offset⟩ stop ∧ next stop = some r := by
  induction rest generalizing least before offset with
  | nil => cases least <;> simp [runGreedy] at h; exact ⟨_, isStretch_refl _, h⟩
  | cons c rest ih =>
    rw [runGreedy] at h
    split at h
    · next r' found =>
      cases h
      by_cases hc : f c = true
      · rw [if_pos hc] at found
        obtain ⟨stop, hs, hn⟩ := ih found
        exact ⟨stop, hs.cons rfl hc, hn⟩
      · simp [hc] at found
    · by_cases hl : least = 0
      · rw [if_pos hl] at h
        exact ⟨_, hl ▸ isStretch_refl _, h⟩
      · simp [hl] at h

theorem runLazy_stretch (h : runLazy f next least before rest offset = some r) :
    ∃ stop, IsStretch f least ⟨before, rest, offset⟩ stop ∧ next stop = some r := by
  induction rest generalizing least before offset with
  | nil => cases least <;> simp [runLazy] at h; exact ⟨_, isStretch_refl _, h⟩
  | cons c rest ih =>
    rw [runLazy] at h
    split at h
    · next r' found =>
      by_cases hl : least = 0
      · rw [if_pos hl] at found
        exact ⟨_, hl ▸ isStretch_refl _, found.trans h⟩
      · simp [hl] at found
    · by_cases hc : f c = true
      · rw [if_pos hc] at h
        obtain ⟨stop, hs, hn⟩ := ih h
        exact ⟨stop, hs.cons rfl hc, hn⟩
      · simp [hc] at h

theorem runWhole_stretch (h : runWhole f next least before rest offset = some r) :
    ∃ stop, IsStretch f least ⟨before, rest, offset⟩ stop ∧ next stop = some r := by
  induction rest generalizing least before offset with
  | nil => cases least <;> simp [runWhole] at h; exact ⟨_, isStretch_refl _, h⟩
  | cons c rest ih =>
    rw [runWhole] at h
    split at h
    · next hc =>
      obtain ⟨stop, hs, hn⟩ := ih h
      exact ⟨stop, hs.cons rfl hc, hn⟩
    · by_cases hl : least = 0
      · rw [if_pos hl] at h
        exact ⟨_, hl ▸ isStretch_refl _, h⟩
      · simp [hl] at h

theorem runAgain_way {a : Pattern}
    {round : Place → Parts → (Place → Parts → Option α) → Option α}
    (hround : ∀ {p ps next r}, round p ps next = some r →
      ∃ q qs, Way a p ps q qs ∧ next q qs = some r)
    {next : Place → Parts → Option α} {fuel : Nat} {p : Place} {ps : Parts} {r : α}
    (h : runAgain round next fuel p ps = some r) :
    ∃ q qs, Way (.again a) p ps q qs ∧ next q qs = some r := by
  induction fuel generalizing p ps with
  | zero => simp [runAgain] at h
  | succ fuel ih =>
    rw [runAgain] at h
    obtain ⟨m, ms, hm, h⟩ := hround h
    split at h
    · next r' found =>
      cases h
      obtain ⟨q, qs, hq, hn⟩ := ih found
      exact ⟨q, qs, .more hm hq, hn⟩
    · exact ⟨m, ms, .once hm, h⟩

/-- A pattern hands on only ends of its ways. -/
theorem run_way {pat : Pattern} {p : Place} {ps : Parts} {next : Place → Parts → Option α} {r : α}
    (h : pat.run p ps next = some r) : ∃ q qs, Way pat p ps q qs ∧ next q qs = some r := by
  induction pat generalizing α p ps with
  | empty => exact ⟨p, ps, .empty, h⟩
  | one f =>
    rw [run] at h
    split at h
    · simp at h
    · next c rest hr =>
      by_cases hc : f c = true
      · rw [if_pos hc] at h
        exact ⟨_, _, .one hr hc, h⟩
      · simp [hc] at h
  | many f least greed =>
    obtain ⟨q, ⟨taken, htaken, hall, hleast⟩, hn⟩ : ∃ q, IsStretch f least p q ∧
        next q ps = some r := by
      cases greed with
      | greedy => exact runGreedy_stretch h
      | lazy => exact runLazy_stretch h
      | whole => exact runWhole_stretch h
    exact ⟨q, ps, .many htaken hall hleast, hn⟩
  | seq a b iha ihb =>
    obtain ⟨m, ms, hm, h⟩ := iha h
    obtain ⟨q, qs, hq, hn⟩ := ihb h
    exact ⟨q, qs, .seq hm hq, hn⟩
  | alt a b iha ihb =>
    rw [run] at h
    split at h
    · next r' found =>
      obtain ⟨q, qs, hq, hn⟩ := iha found
      exact ⟨q, qs, .first hq, hn.trans h⟩
    · obtain ⟨q, qs, hq, hn⟩ := ihb h
      exact ⟨q, qs, .second hq, hn⟩
  | again a ih => exact runAgain_way (fun h => ih h) h
  | part label a ih =>
    obtain ⟨q, qs, hq, hn⟩ := ih h
    exact ⟨q, _, .part hq, hn⟩
  | same label =>
    rw [run] at h
    split at h
    · simp at h
    · next found hfound =>
      by_cases hhead : found.text.isPrefixOf p.rest = true
      · rw [if_pos hhead] at h
        exact ⟨_, _, .same hfound hhead, h⟩
      · simp [hhead] at h
  | lineStart =>
    rw [run] at h
    split at h
    · next hstart => exact ⟨p, ps, .lineStart hstart, h⟩
    · simp at h
  | textEnd =>
    rw [run] at h
    split at h
    · next hend => exact ⟨p, ps, .textEnd hend, h⟩
    · simp at h
  | wordEdge =>
    rw [run] at h
    split at h
    · next hedge => exact ⟨p, ps, .wordEdge hedge, h⟩
    · simp at h
  | followedBy a ih =>
    rw [run] at h
    split at h
    · next parts found =>
      obtain ⟨q, qs, hq, hparts⟩ := ih found
      cases hparts
      exact ⟨p, _, .followedBy hq, h⟩
    · simp at h
  | notFollowedBy a ih =>
    rw [run] at h
    split at h
    · simp at h
    · exact ⟨p, ps, .notFollowedBy, h⟩
  | notAfter f =>
    rw [run] at h
    split at h
    · simp at h
    · next hafter => exact ⟨p, ps, .notAfter (by simpa using hafter), h⟩

/-! ## Ways lead ahead -/

theorem Way.reaches {pat : Pattern} {p q : Place} {ps qs : Parts} (h : Way pat p ps q qs) :
    p.Reaches q := by
  induction h with
  | empty => exact .refl _
  | one hrest _ => exact .after hrest
  | many htaken _ _ => exact ⟨_, htaken⟩
  | seq _ _ iha ihb => exact iha.trans ihb
  | first _ ih => exact ih
  | second _ ih => exact ih
  | once _ ih => exact ih
  | more _ _ ih ihmore => exact ih.trans ihmore
  | part _ ih => exact ih
  | same _ _ => exact .advance _ _
  | lineStart _ => exact .refl _
  | textEnd _ => exact .refl _
  | wordEdge _ => exact .refl _
  | followedBy _ _ => exact .refl _
  | notFollowedBy => exact .refl _
  | notAfter _ => exact .refl _

/-- A match is a way from where it was looked for. -/
theorem way_of_matchAt? {pat : Pattern} {p : Place} {m : Match} (h : pat.matchAt? p = some m) :
    m.start = p ∧ Way pat p [] m.stop m.parts := by
  obtain ⟨q, qs, hway, hn⟩ := run_way h
  cases hn
  exact ⟨rfl, hway⟩

/-- A match starts where it was looked for and stops ahead of there. -/
theorem reaches_of_matchAt? {pat : Pattern} {p : Place} {m : Match}
    (h : pat.matchAt? p = some m) : m.start = p ∧ p.Reaches m.stop := by
  obtain ⟨hstart, hway⟩ := way_of_matchAt? h
  exact ⟨hstart, hway.reaches⟩

theorem text_segmentsFrom (pat : Pattern) (fuel : Nat) (place : Place)
    (h : place.rest.length ≤ fuel) :
    (pat.segmentsFrom fuel place).flatMap Segment.text = place.rest := by
  induction fuel generalizing place with
  | zero => simp [segmentsFrom, List.length_eq_zero_iff.mp (Nat.le_zero.mp h)]
  | succ fuel ih =>
    unfold segmentsFrom
    split
    · next hr => simp [hr]
    · next c rest hr =>
      have shorter : rest.length ≤ fuel := by simp [hr] at h; omega
      have kept : (Segment.kept c :: pat.segmentsFrom fuel (place.after c rest)).flatMap
          Segment.text = c :: rest := by
        rw [List.flatMap_cons, ih _ shorter]
        rfl
      split
      · next m hm =>
        obtain ⟨hs, hr'⟩ := reaches_of_matchAt? hm
        split
        · next advanced =>
          have whole := hr'.textTo_append_rest
          have long := hr'.length_textTo
          have count := congrArg List.length whole
          rw [List.length_append] at count
          rw [List.flatMap_cons, ih _ (by omega), Segment.text, Match.text, hs, whole, hr]
        · exact kept.trans hr.symm
      · exact kept.trans hr.symm

/-- The segments of a text are a cut of it. -/
theorem text_segments (pat : Pattern) (t : Text) : (pat.segments t).flatMap Segment.text = t :=
  text_segmentsFrom pat t.length (Place.start t) (Nat.le_refl _)

end Pattern

end Decouple
