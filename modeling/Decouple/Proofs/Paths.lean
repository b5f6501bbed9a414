import Decouple.Proofs.Matches

/-!
# The ways that are tried

`Way` leaves open where a repetition stops that takes all it can.  A *path* does not: such a
repetition stops where the next code point is no member of its class.  For a plain pattern the paths
are just the ways that `run` tries.  What it hands on is the end of a path (`run_path`), and if the
end of some path is accepted then it finds an end that is (`isSome_run`).  So where a pattern matches
can be shown by writing a path down, without following the order of the attempts.

A path looks at what it takes, at the code point before that and at the one behind it.  So it is also
there in any other text that agrees so far (`Path.alike`).
-/

namespace Decouple

open CodePoint (is)

namespace Place

variable {p q q' m : Place} {t u x y : Text} {f : CodePoint → Bool} {shift : Int}
  {asked : (CodePoint → Bool) → Prop}

theorem Takes.unique (h : p.Takes t q) (h' : p.Takes t q') : q' = q := by
  obtain ⟨before, rest, offset⟩ := q
  obtain ⟨before', rest', offset'⟩ := q'
  obtain ⟨hrest, hoffset, hbefore⟩ := h
  obtain ⟨hrest', hoffset', hbefore'⟩ := h'
  obtain rfl : rest' = rest := List.append_cancel_left (hrest'.symm.trans hrest)
  obtain rfl : offset' = offset := hoffset'.trans hoffset.symm
  obtain rfl : before' = before := hbefore'.trans hbefore.symm
  rfl

/-- Where a text stands, the place behind it is reached by taking it. -/
theorem exists_takes (h : p.rest = t ++ u) : ∃ q, p.Takes t q ∧ q.rest = u :=
  ⟨⟨t.getLast?.or p.before, u, p.offset + t.length⟩, ⟨h, rfl, rfl⟩, rfl⟩

/-- Of the places ahead of a place each is known by what is left. -/
theorem Reaches.eq_of_rest (h : p.Reaches q) (h' : p.Reaches q') (hrest : q'.rest = q.rest) :
    q' = q := by
  obtain ⟨t, ht⟩ := h
  obtain ⟨u, hu⟩ := h'
  obtain rfl : u = t := by
    have hsame := hu.1.symm.trans ht.1
    rw [hrest] at hsame
    exact List.append_cancel_right hsame
  exact ht.unique hu

/-- What is left behind all there is of a class. -/
theorem Takes.dropWhile (h : p.Takes t q) (hall : ∀ c ∈ t, f c = true)
    (hend : q.isBefore f = false) : p.rest.dropWhile f = q.rest := by
  rw [h.1, List.dropWhile_append_of_pos hall]
  rw [Place.isBefore] at hend
  cases hrest : q.rest with
  | nil => rfl
  | cons c rest =>
    rw [hrest, List.head?_cons, Option.any_some] at hend
    exact List.dropWhile_cons_of_neg (by simp [hend])

/-- Behind a text all of whose code points are members of a class, or none is. -/
theorem Takes.isAfter_eq {b : Bool} (h : p.Takes t q) (hne : t ≠ []) (hall : ∀ c ∈ t, f c = b) :
    q.isAfter f = b := by
  rw [isAfter, h.2.2, List.getLast?_eq_some_getLast hne, Option.some_or, Option.any_some]
  exact hall _ (List.getLast_mem hne)

/-- What is taken is taken piece by piece. -/
theorem Takes.split (h : p.Takes (t ++ u) q) : ∃ m, p.Takes t m ∧ m.Takes u q := by
  obtain ⟨hrest, hoffset, hbefore⟩ := h
  rw [List.append_assoc] at hrest
  obtain ⟨m, hm, hmore⟩ := exists_takes hrest
  have hmOffset := hm.2.1
  rw [List.length_append] at hoffset
  rw [List.getLast?_append, Option.or_assoc, ← hm.2.2] at hbefore
  exact ⟨m, hm, hmore, by omega, hbefore⟩

theorem takes_advance (h : p.rest = t ++ u) : p.Takes t (p.advance t.length) := by
  induction t generalizing p with
  | nil => exact .nil p
  | cons c t ih =>
    have hp : p.rest = c :: (t ++ u) := h
    have hadvance : p.advance (c :: t).length = (p.after c (t ++ u)).advance t.length := by
      simp only [List.length_cons, advance, hp]
    rw [hadvance]
    exact .cons hp (ih rfl)

/-- A place is at the start of a line unless something else than a line feed stands before it. -/
theorem isLineStart_eq (p : Place) :
    p.before.all (is '\n') = !p.isAfter fun c => !is '\n' c := by
  rw [isAfter]
  cases p.before <;> simp

/-- Places whose texts differ only in how they end, in `x` and in `y`, and which give the same answers
where a pattern asks for the code point before them. -/
structure Alike (asked : (CodePoint → Bool) → Prop) (x y : Text) (shift : Int) (p p' : Place) :
    Prop where
  before : ∀ f, asked f → p'.isAfter f = p.isAfter f
  rest : ∃ u, p.rest = u ++ x ∧ p'.rest = u ++ y
  offset : (p'.offset : Int) = p.offset + shift

/-- The end `x` of the text lies ahead of a place, and to put `y` there does not change the code point
right behind the place. -/
def SeesAlike (x y : Text) (p : Place) : Prop :=
  ∃ u, p.rest = u ++ x ∧ (u ++ y).head? = (u ++ x).head?

theorem SeesAlike.of_reaches (h : SeesAlike x y q) (hreaches : p.Reaches q) : SeesAlike x y p := by
  obtain ⟨taken, hrest, -⟩ := hreaches
  obtain ⟨u, hu, hhead⟩ := h
  refine ⟨taken ++ u, by rw [hrest, hu, List.append_assoc], ?_⟩
  cases taken with
  | nil => exact hhead
  | cons c taken => rfl

/-- Places alike see the same code point behind them. -/
theorem Alike.isBefore {p' : Place} (h : Alike asked x y shift p p') (hsees : SeesAlike x y p) :
    p'.isBefore f = p.isBefore f := by
  obtain ⟨u, hu, hu'⟩ := h.rest
  obtain ⟨v, hv, hhead⟩ := hsees
  obtain rfl : u = v := List.append_cancel_right (hu.symm.trans hv)
  rw [Place.isBefore, Place.isBefore, hu, hu', hhead]

/-- From places alike the same text is taken to places alike. -/
theorem Alike.takes {p' : Place} (h : Alike asked x y shift p p') (ht : p.Takes t q)
    (hsees : SeesAlike x y q) : ∃ q', p'.Takes t q' ∧ Alike asked x y shift q q' := by
  obtain ⟨u, hu, hu'⟩ := h.rest
  obtain ⟨v, hv, -⟩ := hsees
  obtain rfl : u = t ++ v := by
    have hsame : u ++ x = t ++ v ++ x := by rw [← hu, ht.1, hv, List.append_assoc]
    exact List.append_cancel_right hsame
  rw [List.append_assoc] at hu'
  obtain ⟨q', hq', hrest⟩ := exists_takes hu'
  refine ⟨q', hq', fun f hf => ?_, ⟨v, hv, hrest⟩, ?_⟩
  · rw [Place.isAfter, Place.isAfter, hq'.2.2, ht.2.2]
    cases t.getLast? with
    | none => exact h.before f hf
    | some c => rfl
  · have hoffset := h.offset
    have ho := ht.2.1
    have ho' := hq'.2.1
    omega

/-- Places behind the same text are alike, however their texts go on. -/
theorem alike_of_takes {p' : Place} (hp : (start (t ++ (u ++ x))).Takes t p)
    (hp' : (start (t ++ (u ++ y))).Takes t p') : Alike asked x y 0 p p' where
  before f _ := by rw [isAfter, isAfter, hp.2.2, hp'.2.2]; rfl
  rest := ⟨u, (List.append_cancel_left hp.1).symm, (List.append_cancel_left hp'.1).symm⟩
  offset := by
    have ho := hp.2.1
    have ho' := hp'.2.1
    simp only [start] at ho ho'
    omega

end Place

namespace Pattern

variable {α : Type} {pat a b : Pattern} {as : List Pattern} {p q p' : Place} {ps qs ps' : Parts}
  {t x y : Text} {f : CodePoint → Bool} {shift : Int} {asked : (CodePoint → Bool) → Prop}

/-! ## Paths -/

/-- A way whose whole repetitions take all that there is. -/
inductive Path : Pattern → Place → Parts → Place → Parts → Prop where
  | empty {p : Place} {ps : Parts} : Path .empty p ps p ps
  | one {f : CodePoint → Bool} {p : Place} {ps : Parts} {c : CodePoint} {rest : Text}
      (hrest : p.rest = c :: rest) (hc : f c = true) : Path (.one f) p ps (p.after c rest) ps
  | many {f : CodePoint → Bool} {least : Nat} {greed : Greed} {p q : Place} {ps : Parts}
      {taken : Text} (htaken : p.Takes taken q) (hall : ∀ c ∈ taken, f c = true)
      (hleast : least ≤ taken.length) (hwhole : greed = .whole → q.isBefore f = false) :
      Path (.many f least greed) p ps q ps
  | seq {a b : Pattern} {p m q : Place} {ps ms qs : Parts} (ha : Path a p ps m ms)
      (hb : Path b m ms q qs) : Path (.seq a b) p ps q qs
  | first {a b : Pattern} {p q : Place} {ps qs : Parts} (h : Path a p ps q qs) :
      Path (.alt a b) p ps q qs
  | second {a b : Pattern} {p q : Place} {ps qs : Parts} (h : Path b p ps q qs) :
      Path (.alt a b) p ps q qs
  | part {label : Label} {a : Pattern} {p q : Place} {ps qs : Parts} (h : Path a p ps q qs) :
      Path (.part label a) p ps q ((label, ⟨p, q⟩) :: qs)
  | same {label : Label} {p q : Place} {ps : Parts} {found : Part}
      (hfound : ps.lookup label = some found) (htaken : p.Takes found.text q) :
      Path (.same label) p ps q ps
  | lineStart {p : Place} {ps : Parts} (h : p.before.all (is '\n') = true) :
      Path .lineStart p ps p ps
  | textEnd {p : Place} {ps : Parts} (h : p.rest = []) : Path .textEnd p ps p ps
  | wordEdge {p : Place} {ps : Parts}
      (h : (p.isAfter CodePoint.isWord != p.isBefore CodePoint.isWord) = true) :
      Path .wordEdge p ps p ps
  | notAfter {f : CodePoint → Bool} {p : Place} {ps : Parts} (h : p.isAfter f = false) :
      Path (.notAfter f) p ps p ps

/-- A path is a way. -/
theorem Path.way (h : Path pat p ps q qs) : Way pat p ps q qs := by
  induction h with
  | empty => exact .empty
  | one hrest hc => exact .one hrest hc
  | many htaken hall hleast _ => exact .many htaken hall hleast
  | seq _ _ iha ihb => exact .seq iha ihb
  | first _ ih => exact .first ih
  | second _ ih => exact .second ih
  | part _ ih => exact .part ih
  | same hfound htaken =>
    obtain rfl := (Place.takes_advance htaken.1).unique htaken
    exact .same hfound (by simp [htaken.1])
  | lineStart h => exact .lineStart h
  | textEnd h => exact .textEnd (List.isEmpty_iff.2 h)
  | wordEdge h => exact .wordEdge h
  | notAfter h => exact .notAfter h

/-- Patterns without rounds and without a look ahead. -/
def isPlain : Pattern → Bool
  | again _ | followedBy _ | notFollowedBy _ => false
  | seq a b | alt a b => a.isPlain && b.isPlain
  | part _ a => a.isPlain
  | _ => true

theorem isPlain_sequence (h : ∀ a ∈ as, a.isPlain = true) : (sequence as).isPlain = true := by
  induction as with
  | nil => rfl
  | cons a as ih =>
    have hrest := ih fun b hb => h b (List.mem_cons_of_mem _ hb)
    cases as with
    | nil => exact h a (List.mem_cons_self ..)
    | cons _ _ => exact Bool.and_eq_true_iff.2 ⟨h a (List.mem_cons_self ..), hrest⟩

theorem isPlain_choice (h : ∀ a ∈ as, a.isPlain = true) : (choice as).isPlain = true := by
  induction as with
  | nil => rfl
  | cons a as ih =>
    have hrest := ih fun b hb => h b (List.mem_cons_of_mem _ hb)
    cases as with
    | nil => exact h a (List.mem_cons_self ..)
    | cons _ _ => exact Bool.and_eq_true_iff.2 ⟨h a (List.mem_cons_self ..), hrest⟩

theorem isPlain_literalAnyCase (t : Text) : (literalAnyCase t).isPlain = true := by
  refine isPlain_sequence fun a ha => ?_
  obtain ⟨c, -, rfl⟩ := List.mem_map.1 ha
  rfl

/-! ## What is handed on is the end of a path -/

theorem runWhole_stop {next : Place → Option α} {least : Nat} {before : Option CodePoint}
    {rest : Text} {offset : Nat} {r : α}
    (h : runWhole f next least before rest offset = some r) :
    ∃ stop, IsStretch f least ⟨before, rest, offset⟩ stop ∧ stop.isBefore f = false ∧
      next stop = some r := by
  induction rest generalizing least before offset with
  | nil => cases least <;> simp [runWhole] at h; exact ⟨_, isStretch_refl _, rfl, h⟩
  | cons c rest ih =>
    rw [runWhole] at h
    split at h
    · next hc =>
      obtain ⟨stop, hs, hend, hn⟩ := ih h
      exact ⟨stop, hs.cons rfl hc, hend, hn⟩
    · next hc =>
      by_cases hl : least = 0
      · rw [if_pos hl] at h
        exact ⟨_, hl ▸ isStretch_refl _, by simpa [Place.isBefore] using hc, h⟩
      · simp [hl] at h

/-- A plain pattern hands on only ends of its paths. -/
theorem run_path (hplain : pat.isPlain = true) {next : Place → Parts → Option α} {r : α}
    (h : pat.run p ps next = some r) : ∃ q qs, Path pat p ps q qs ∧ next q qs = some r := by
  induction pat generalizing α p ps with
  | empty => exact ⟨p, ps, .empty, h⟩
  | one f =>
    obtain ⟨q, qs, hway, hn⟩ := run_way h
    cases hway with
    | one hrest hc => exact ⟨_, _, .one hrest hc, hn⟩
  | many f least greed =>
    obtain ⟨q, ⟨taken, htaken, hall, hleast⟩, hwhole, hn⟩ : ∃ q, IsStretch f least p q ∧
        (greed = .whole → q.isBefore f = false) ∧ next q ps = some r := by
      cases greed with
      | greedy =>
        obtain ⟨q, hs, hn⟩ := runGreedy_stretch h
        exact ⟨q, hs, by simp, hn⟩
      | lazy =>
        obtain ⟨q, hs, hn⟩ := runLazy_stretch h
        exact ⟨q, hs, by simp, hn⟩
      | whole =>
        obtain ⟨q, hs, hend, hn⟩ := runWhole_stop h
        exact ⟨q, hs, fun _ => hend, hn⟩
    exact ⟨q, ps, .many htaken hall hleast hwhole, hn⟩
  | seq a b iha ihb =>
    obtain ⟨ha, hb⟩ := Bool.and_eq_true_iff.1 hplain
    obtain ⟨m, ms, hm, h⟩ := iha ha h
    obtain ⟨q, qs, hq, hn⟩ := ihb hb h
    exact ⟨q, qs, .seq hm hq, hn⟩
  | alt a b iha ihb =>
    obtain ⟨ha, hb⟩ := Bool.and_eq_true_iff.1 hplain
    rw [run] at h
    split at h
    · next r' found =>
      obtain ⟨q, qs, hq, hn⟩ := iha ha found
      exact ⟨q, qs, .first hq, hn.trans h⟩
    · obtain ⟨q, qs, hq, hn⟩ := ihb hb h
      exact ⟨q, qs, .second hq, hn⟩
  | again a => cases hplain
  | part label a ih =>
    obtain ⟨q, qs, hq, hn⟩ := ih hplain h
    exact ⟨q, _, .part hq, hn⟩
  | same label =>
    obtain ⟨q, qs, hway, hn⟩ := run_way h
    cases hway with
    | same hfound hhead =>
      obtain ⟨u, hu⟩ := List.isPrefixOf_iff_prefix.1 hhead
      exact ⟨_, _, .same hfound (Place.takes_advance hu.symm), hn⟩
  | lineStart =>
    obtain ⟨q, qs, hway, hn⟩ := run_way h
    cases hway with
    | lineStart h => exact ⟨_, _, .lineStart h, hn⟩
  | textEnd =>
    obtain ⟨q, qs, hway, hn⟩ := run_way h
    cases hway with
    | textEnd h => exact ⟨_, _, .textEnd (List.isEmpty_iff.1 h), hn⟩
  | wordEdge =>
    obtain ⟨q, qs, hway, hn⟩ := run_way h
    cases hway with
    | wordEdge h => exact ⟨_, _, .wordEdge h, hn⟩
  | followedBy a => cases hplain
  | notFollowedBy a => cases hplain
  | notAfter f =>
    obtain ⟨q, qs, hway, hn⟩ := run_way h
    cases hway with
    | notAfter h => exact ⟨_, _, .notAfter h, hn⟩

/-- A match of a plain pattern is a path from where it was looked for. -/
theorem path_of_matchAt? (hplain : pat.isPlain = true) {m : Match} (h : pat.matchAt? p = some m) :
    m.start = p ∧ Path pat p [] m.stop m.parts := by
  obtain ⟨q, qs, hpath, hn⟩ := run_path hplain h
  cases hn
  exact ⟨rfl, hpath⟩

/-! ## Where a path ends an end is found -/

variable {next : Place → Option α} {least : Nat} {before : Option CodePoint} {rest : Text}
  {offset : Nat}

theorem isSome_runGreedy (h : Place.Takes ⟨before, rest, offset⟩ t q) (hall : ∀ c ∈ t, f c = true)
    (hleast : least ≤ t.length) (hn : (next q).isSome = true) :
    (runGreedy f next least before rest offset).isSome = true := by
  induction t generalizing least before rest offset with
  | nil =>
    obtain rfl := h.eq_of_nil
    obtain rfl : least = 0 := Nat.le_zero.1 hleast
    cases rest with
    | nil => exact hn
    | cons c rest =>
      rw [runGreedy]
      split
      · rfl
      · exact hn
  | cons c t ih =>
    obtain ⟨rest', hrest, h⟩ := h.of_cons
    obtain rfl : rest = c :: rest' := hrest
    have hmore := @ih (least - 1) _ _ _ h (fun d hd => hall d (List.mem_cons_of_mem _ hd))
      (by rw [List.length_cons] at hleast; omega)
    rw [runGreedy, if_pos (hall c (List.mem_cons_self ..))]
    split
    · rfl
    · next hnone => exact absurd hmore (by simpa using hnone)

theorem isSome_runLazy (h : Place.Takes ⟨before, rest, offset⟩ t q) (hall : ∀ c ∈ t, f c = true)
    (hleast : least ≤ t.length) (hn : (next q).isSome = true) :
    (runLazy f next least before rest offset).isSome = true := by
  induction t generalizing least before rest offset with
  | nil =>
    obtain rfl := h.eq_of_nil
    obtain rfl : least = 0 := Nat.le_zero.1 hleast
    cases rest with
    | nil => exact hn
    | cons c rest =>
      obtain ⟨r, hr⟩ := Option.isSome_iff_exists.1 hn
      rw [runLazy, if_pos rfl, hr]
      rfl
  | cons c t ih =>
    obtain ⟨rest', hrest, h⟩ := h.of_cons
    obtain rfl : rest = c :: rest' := hrest
    rw [runLazy]
    split
    · rfl
    · rw [if_pos (hall c (List.mem_cons_self ..))]
      exact ih h (fun d hd => hall d (List.mem_cons_of_mem _ hd))
        (by rw [List.length_cons] at hleast; omega)

/-- All of a stretch is tried first. -/
theorem runGreedy_eq (h : Place.Takes ⟨before, rest, offset⟩ t q) (hall : ∀ c ∈ t, f c = true)
    (hleast : least ≤ t.length) (hend : q.isBefore f = false) {r : α} (hn : next q = some r) :
    runGreedy f next least before rest offset = some r := by
  induction t generalizing least before rest offset with
  | nil =>
    obtain rfl := h.eq_of_nil
    obtain rfl : least = 0 := Nat.le_zero.1 hleast
    cases rest with
    | nil => exact hn
    | cons c rest =>
      have hc : f c = false := by simpa [Place.isBefore] using hend
      rw [runGreedy, hc]
      exact hn
  | cons c t ih =>
    obtain ⟨rest', hrest, h⟩ := h.of_cons
    obtain rfl : rest = c :: rest' := hrest
    have hmore := @ih (least - 1) _ _ _ h (fun d hd => hall d (List.mem_cons_of_mem _ hd))
      (by rw [List.length_cons] at hleast; omega)
    rw [runGreedy, if_pos (hall c (List.mem_cons_self ..)), hmore]

/-- All of a stretch is taken, and nothing else is tried. -/
theorem runWhole_eq (h : Place.Takes ⟨before, rest, offset⟩ t q) (hall : ∀ c ∈ t, f c = true)
    (hleast : least ≤ t.length) (hend : q.isBefore f = false) :
    runWhole f next least before rest offset = next q := by
  induction t generalizing least before rest offset with
  | nil =>
    obtain rfl := h.eq_of_nil
    obtain rfl : least = 0 := Nat.le_zero.1 hleast
    cases rest with
    | nil => rfl
    | cons c rest =>
      have hc : f c = false := by simpa [Place.isBefore] using hend
      rw [runWhole, hc]
      rfl
  | cons c t ih =>
    obtain ⟨rest', hrest, h⟩ := h.of_cons
    obtain rfl : rest = c :: rest' := hrest
    rw [runWhole, if_pos (hall c (List.mem_cons_self ..))]
    exact ih h (fun d hd => hall d (List.mem_cons_of_mem _ hd))
      (by rw [List.length_cons] at hleast; omega)

theorem run_greedy {next : Place → Parts → Option α} {r : α} (h : p.Takes t q)
    (hall : ∀ c ∈ t, f c = true) (hleast : least ≤ t.length) (hend : q.isBefore f = false)
    (hn : next q ps = some r) : (many f least .greedy).run p ps next = some r :=
  runGreedy_eq h hall hleast hend hn

theorem run_whole {next : Place → Parts → Option α} (h : p.Takes t q)
    (hall : ∀ c ∈ t, f c = true) (hleast : least ≤ t.length) (hend : q.isBefore f = false) :
    (many f least .whole).run p ps next = next q ps :=
  runWhole_eq h hall hleast hend

/-- Where the end of a path is accepted, some end is found. -/
theorem isSome_run {next : Place → Parts → Option α} (h : Path pat p ps q qs)
    (hn : (next q qs).isSome = true) : (pat.run p ps next).isSome = true := by
  induction h generalizing α with
  | empty => exact hn
  | one hrest hc => rw [run, hrest]; simpa [hc] using hn
  | @many f least greed p q ps taken htaken hall hleast hwhole =>
    cases greed with
    | greedy => exact isSome_runGreedy htaken hall hleast hn
    | lazy => exact isSome_runLazy htaken hall hleast hn
    | whole =>
      rw [run, runWhole_eq htaken hall hleast (hwhole rfl)]
      exact hn
  | seq _ _ iha ihb =>
    rw [run]
    exact iha (ihb hn)
  | first _ ih =>
    rw [run]
    split
    · rfl
    · next hnone => exact absurd (ih hn) (by simp [hnone])
  | second _ ih =>
    rw [run]
    split
    · rfl
    · exact ih hn
  | part _ ih =>
    rw [run]
    exact ih hn
  | same hfound htaken =>
    obtain rfl := (Place.takes_advance htaken.1).unique htaken
    rw [run, hfound]
    simpa [htaken.1] using hn
  | lineStart h => rw [run, if_pos h]; exact hn
  | textEnd h => rw [run, h]; exact hn
  | wordEdge h => rw [run, if_pos h]; exact hn
  | notAfter h => rw [run, h]; exact hn

/-- Where no path starts nothing is handed on. -/
theorem run_of_no_path (hplain : pat.isPlain = true) {next : Place → Parts → Option α}
    (hnone : ∀ q qs, ¬Path pat p ps q qs) : pat.run p ps next = none := by
  rw [Option.eq_none_iff_forall_ne_some]
  intro r hr
  obtain ⟨q, qs, hq, -⟩ := run_path hplain hr
  exact hnone q qs hq

/-- Where only one path starts, its end is handed on. -/
theorem run_of_one_path (hplain : pat.isPlain = true) {next : Place → Parts → Option α}
    (h : Path pat p ps q qs) (hone : ∀ r rs, Path pat p ps r rs → r = q ∧ rs = qs) :
    pat.run p ps next = next q qs := by
  refine Option.ext fun r => ⟨fun hr => ?_, fun hr => ?_⟩
  · obtain ⟨q', qs', hq', hn⟩ := run_path hplain hr
    obtain ⟨rfl, rfl⟩ := hone q' qs' hq'
    exact hn
  · have hsome : (pat.run p ps next).isSome = true := isSome_run h (by rw [hr]; rfl)
    obtain ⟨r', hr'⟩ := Option.isSome_iff_exists.1 hsome
    obtain ⟨q', qs', hq', hn⟩ := run_path hplain hr'
    obtain ⟨rfl, rfl⟩ := hone q' qs' hq'
    rw [hr', ← hn, hr]

/-- At the start of a path there is a match. -/
theorem exists_matchAt? (h : Path pat p [] q qs) : ∃ m, pat.matchAt? p = some m := by
  unfold matchAt?
  exact Option.isSome_iff_exists.1 (isSome_run h rfl)

/-! ## Paths of built patterns -/

theorem path_one (h : Path (.one f) p ps q qs) : qs = ps ∧ ∃ c, f c = true ∧ p.Takes [c] q :=
  way_one h.way

theorem path_is {c : CodePoint} (h : Path (.one (is c)) p ps q qs) : qs = ps ∧ p.Takes [c] q :=
  way_is h.way

theorem path_many {greed : Greed} (h : Path (.many f least greed) p ps q qs) :
    qs = ps ∧ ∃ taken, p.Takes taken q ∧ (∀ c ∈ taken, f c = true) ∧ least ≤ taken.length ∧
      (greed = .whole → q.isBefore f = false) := by
  cases h with
  | many htaken hall hleast hwhole => exact ⟨rfl, _, htaken, hall, hleast, hwhole⟩

theorem path_seq : Path (.seq a b) p ps q qs ↔ ∃ m ms, Path a p ps m ms ∧ Path b m ms q qs := by
  constructor
  · intro h
    cases h with
    | seq ha hb => exact ⟨_, _, ha, hb⟩
  · rintro ⟨m, ms, ha, hb⟩
    exact .seq ha hb

theorem path_alt : Path (.alt a b) p ps q qs ↔ Path a p ps q qs ∨ Path b p ps q qs := by
  constructor
  · intro h
    cases h with
    | first h => exact .inl h
    | second h => exact .inr h
  · rintro (h | h)
    · exact .first h
    · exact .second h

theorem path_empty : Path .empty p ps q qs ↔ q = p ∧ qs = ps := by
  constructor
  · intro h
    cases h
    exact ⟨rfl, rfl⟩
  · rintro ⟨rfl, rfl⟩
    exact .empty

/-- A sequence is its first pattern and then the others. -/
theorem path_sequence_cons : Path (sequence (a :: as)) p ps q qs ↔
    ∃ m ms, Path a p ps m ms ∧ Path (sequence as) m ms q qs := by
  cases as with
  | nil =>
    constructor
    · exact fun h => ⟨q, qs, h, .empty⟩
    · rintro ⟨m, ms, h, hrest⟩
      obtain ⟨rfl, rfl⟩ := path_empty.1 hrest
      exact h
  | cons _ _ => exact path_seq

/-- A choice is one of its patterns. -/
theorem path_choice : Path (choice as) p ps q qs ↔ ∃ a ∈ as, Path a p ps q qs := by
  induction as with
  | nil =>
    constructor
    · intro h
      obtain ⟨-, c, hc, -⟩ := path_one h
      cases hc
    · rintro ⟨a, ha, -⟩
      cases ha
  | cons a as ih =>
    cases as with
    | nil => simp [choice]
    | cons b as =>
      have hchoice : choice (a :: b :: as) = alt a (choice (b :: as)) := rfl
      rw [hchoice, path_alt, ih]
      simp only [List.mem_cons, or_and_right, exists_or, exists_eq_left]

/-- Sequences one after the other. -/
theorem path_sequence_append {bs : List Pattern} : Path (sequence (as ++ bs)) p ps q qs ↔
    ∃ m ms, Path (sequence as) p ps m ms ∧ Path (sequence bs) m ms q qs := by
  induction as generalizing p ps with
  | nil =>
    constructor
    · exact fun h => ⟨p, ps, .empty, h⟩
    · rintro ⟨m, ms, h, hrest⟩
      obtain ⟨rfl, rfl⟩ := path_empty.1 h
      exact hrest
  | cons a as ih =>
    rw [List.cons_append, path_sequence_cons]
    constructor
    · rintro ⟨m, ms, ha, hrest⟩
      obtain ⟨m', ms', has, hbs⟩ := ih.1 hrest
      exact ⟨m', ms', path_sequence_cons.2 ⟨m, ms, ha, has⟩, hbs⟩
    · rintro ⟨m', ms', has, hbs⟩
      obtain ⟨m, ms, ha, has⟩ := path_sequence_cons.1 has
      exact ⟨m, ms, ha, ih.2 ⟨m', ms', has, hbs⟩⟩

theorem path_one_of_takes {c : CodePoint} (h : p.Takes [c] q) (hc : f c = true) :
    Path (.one f) p ps q ps := by
  obtain ⟨rest, hrest, htaken⟩ := h.of_cons
  obtain rfl := htaken.eq_of_nil
  exact .one hrest hc

/-- All there is of a class can be taken anywhere. -/
theorem exists_path_whole (f : CodePoint → Bool) (p : Place) (ps : Parts) :
    ∃ q, Path (.many f 0 .whole) p ps q ps := by
  obtain ⟨q, hq, hrest⟩ := Place.exists_takes (List.takeWhile_append_dropWhile (p := f)).symm
  refine ⟨q, .many hq (fun c hc => List.all_eq_true.1 List.all_takeWhile c hc) (Nat.zero_le _) fun _ => ?_⟩
  have hend := List.head?_dropWhile_not f p.rest
  rw [Place.isBefore, hrest]
  split at hend
  · next c hc => rw [hc, Option.any_some, hend]
  · next hnone => rw [hnone, Option.any_none]

/-- A text that stands at a place is taken. -/
theorem path_literal (h : p.Takes t q) : Path (literal t) p ps q ps := by
  induction t generalizing p with
  | nil =>
    obtain rfl := h.eq_of_nil
    exact .empty
  | cons c t ih =>
    obtain ⟨rest, hrest, h⟩ := h.of_cons
    exact path_sequence_cons.2 ⟨_, _, .one hrest (by simp [is]), ih h⟩

/-- A text that stands at a place in either case is taken. -/
theorem path_literalAnyCase {u : Text}
    (hu : List.Forall₂ (fun l c => CodePoint.sameLetter l c = true) u t) (h : p.Takes t q) :
    Path (literalAnyCase u) p ps q ps := by
  induction hu generalizing p with
  | nil =>
    obtain rfl := h.eq_of_nil
    exact .empty
  | cons hc _ ih =>
    obtain ⟨rest, hrest, h⟩ := h.of_cons
    exact path_sequence_cons.2 ⟨_, _, .one hrest hc, ih h⟩

/-! ## Patterns that stop in one place only -/

/-- All paths of a pattern from a place, whatever the parts found before, stop in the same place. -/
def IsSingle (pat : Pattern) : Prop :=
  ∀ ⦃p ps q qs ps' r rs⦄, Path pat p ps q qs → Path pat p ps' r rs → r = q

theorem single_empty : IsSingle .empty := by
  intro p ps q qs ps' r rs h h'
  rw [(path_empty.1 h).1, (path_empty.1 h').1]

theorem single_one (f : CodePoint → Bool) : IsSingle (.one f) := by
  intro p ps q qs ps' r rs h h'
  obtain ⟨-, c, -, hq⟩ := path_one h
  obtain ⟨-, d, -, hr⟩ := path_one h'
  have hsame : d :: r.rest = c :: q.rest := hr.1.symm.trans hq.1
  exact Place.Reaches.eq_of_rest ⟨_, hq⟩ ⟨_, hr⟩ (List.cons.inj hsame).2

theorem single_whole (f : CodePoint → Bool) (least : Nat) : IsSingle (.many f least .whole) := by
  intro p ps q qs ps' r rs h h'
  obtain ⟨-, t, hq, hall, -, hend⟩ := path_many h
  obtain ⟨-, u, hr, hall', -, hend'⟩ := path_many h'
  have hrest := (hr.dropWhile hall' (hend' rfl)).symm.trans (hq.dropWhile hall (hend rfl))
  exact Place.Reaches.eq_of_rest ⟨_, hq⟩ ⟨_, hr⟩ hrest

theorem single_lineStart : IsSingle .lineStart := by
  intro p ps q qs ps' r rs h h'
  cases h
  cases h'
  rfl

theorem single_wordEdge : IsSingle .wordEdge := by
  intro p ps q qs ps' r rs h h'
  cases h
  cases h'
  rfl

theorem single_seq (ha : IsSingle a) (hb : IsSingle b) : IsSingle (.seq a b) := by
  intro p ps q qs ps' r rs h h'
  obtain ⟨m, ms, hm, hq⟩ := path_seq.1 h
  obtain ⟨m', ms', hm', hr⟩ := path_seq.1 h'
  obtain rfl := ha hm hm'
  exact hb hq hr

/-- Members of a class up to a code point that is none. -/
theorem single_until {g : CodePoint → Bool} {least : Nat} {greed : Greed}
    (hdisjoint : ∀ c, g c = true → f c = false) :
    IsSingle (.seq (.many f least greed) (.one g)) := by
  have hwhole {p m q : Place} {ps ms qs : Parts} (h : Path (.many f least greed) p ps m ms)
      (hone : Path (.one g) m ms q qs) : p.rest.dropWhile f = m.rest := by
    obtain ⟨-, t, ht, hall, -⟩ := path_many h
    obtain ⟨-, c, hc, hclose⟩ := path_one hone
    refine ht.dropWhile hall ?_
    rw [Place.isBefore, hclose.1]
    exact hdisjoint c hc
  intro p ps q qs ps' r rs h h'
  obtain ⟨m, ms, hm, hq⟩ := path_seq.1 h
  obtain ⟨m', ms', hm', hr⟩ := path_seq.1 h'
  obtain rfl : m' = m := Place.Reaches.eq_of_rest hm.way.reaches hm'.way.reaches
    ((hwhole hm' hr).symm.trans (hwhole hm hq))
  exact single_one g hq hr

theorem single_sequence (h : ∀ a ∈ as, IsSingle a) : IsSingle (sequence as) := by
  induction as with
  | nil => exact single_empty
  | cons a as ih =>
    have hrest := ih fun b hb => h b (List.mem_cons_of_mem _ hb)
    cases as with
    | nil => exact h a (List.mem_cons_self ..)
    | cons _ _ => exact single_seq (h a (List.mem_cons_self ..)) hrest

theorem single_literalAnyCase (t : Text) : IsSingle (literalAnyCase t) := by
  refine single_sequence fun a ha => ?_
  obtain ⟨c, -, rfl⟩ := List.mem_map.1 ha
  exact single_one _

theorem run_literalAnyCase {u : Text} {next : Place → Parts → Option α}
    (hu : List.Forall₂ (fun l c => CodePoint.sameLetter l c = true) u t) (h : p.Takes t q) :
    (literalAnyCase u).run p ps next = next q ps := by
  have hpath : Path (literalAnyCase u) p ps q ps := path_literalAnyCase hu h
  refine run_of_one_path (isPlain_literalAnyCase u) hpath fun r rs hr => ?_
  exact ⟨single_literalAnyCase u hpath hr, (way_literalAnyCase hr.way).1⟩

/-! ## The same paths in another text -/

/-- The classes of which a pattern asks whether the code point before a place is a member. -/
def looks : Pattern → List (CodePoint → Bool)
  | seq a b | alt a b => a.looks ++ b.looks
  | again a | part _ a | followedBy a | notFollowedBy a => a.looks
  | lineStart => [fun c => !is '\n' c]
  | wordEdge => [CodePoint.isWord]
  | notAfter f => [f]
  | empty | one _ | many _ _ _ | same _ | textEnd => []

theorem exists_of_mem_looks_sequence (h : f ∈ (sequence as).looks) : ∃ a ∈ as, f ∈ a.looks := by
  induction as with
  | nil => cases h
  | cons a as ih =>
    cases as with
    | nil => exact ⟨a, List.mem_cons_self .., h⟩
    | cons _ _ =>
      rcases List.mem_append.1 h with h | h
      · exact ⟨a, List.mem_cons_self .., h⟩
      · obtain ⟨b, hb, hf⟩ := ih h
        exact ⟨b, List.mem_cons_of_mem _ hb, hf⟩

theorem exists_of_mem_looks_choice (h : f ∈ (choice as).looks) : ∃ a ∈ as, f ∈ a.looks := by
  induction as with
  | nil => cases h
  | cons a as ih =>
    cases as with
    | nil => exact ⟨a, List.mem_cons_self .., h⟩
    | cons _ _ =>
      rcases List.mem_append.1 h with h | h
      · exact ⟨a, List.mem_cons_self .., h⟩
      · obtain ⟨b, hb, hf⟩ := ih h
        exact ⟨b, List.mem_cons_of_mem _ hb, hf⟩

theorem looks_literalAnyCase (t : Text) : (literalAnyCase t).looks = [] := by
  rw [List.eq_nil_iff_forall_not_mem]
  intro f hf
  obtain ⟨a, ha, hlook⟩ := exists_of_mem_looks_sequence hf
  obtain ⟨c, -, rfl⟩ := List.mem_map.1 ha
  cases hlook

/-- Parts with the same names and texts. -/
def SameTexts (ps ps' : Parts) : Prop :=
  List.Forall₂ (fun a b => a.1 = b.1 ∧ b.2.text = a.2.text) ps ps'

theorem SameTexts.lookup (h : SameTexts ps ps') {label : Label} {found : Part}
    (hfound : ps.lookup label = some found) :
    ∃ found', ps'.lookup label = some found' ∧ found'.text = found.text := by
  induction h with
  | nil => cases hfound
  | @cons first first' ps ps' hsame _ ih =>
    obtain ⟨l, part⟩ := first
    obtain ⟨l', part'⟩ := first'
    obtain ⟨rfl, htext⟩ := hsame
    rw [List.lookup_cons] at hfound ⊢
    cases hl : label == l with
    | true =>
      rw [hl] at hfound
      exact ⟨part', rfl, by rw [htext, Option.some.inj hfound]⟩
    | false =>
      rw [hl] at hfound
      exact ih hfound

/-- A path is there in any text that agrees with the searched one up to the code point behind it. -/
theorem Path.alike (h : Path pat p ps q qs) (hasked : ∀ f ∈ pat.looks, asked f)
    (hp : Place.Alike asked x y shift p p') (hps : SameTexts ps ps') (hq : q.SeesAlike x y) :
    ∃ q' qs', Path pat p' ps' q' qs' ∧ Place.Alike asked x y shift q q' ∧ SameTexts qs qs' := by
  induction h generalizing p' ps' with
  | empty => exact ⟨p', ps', .empty, hp, hps⟩
  | one hrest hc =>
    obtain ⟨q', hq', halike⟩ := hp.takes (.after hrest) hq
    obtain ⟨rest', hrest', htaken⟩ := hq'.of_cons
    obtain rfl := htaken.eq_of_nil
    exact ⟨_, ps', .one hrest' hc, halike, hps⟩
  | many htaken hall hleast hwhole =>
    obtain ⟨q', hq', halike⟩ := hp.takes htaken hq
    refine ⟨q', ps', .many hq' hall hleast fun hgreed => ?_, halike, hps⟩
    rw [halike.isBefore hq]
    exact hwhole hgreed
  | seq _ hb iha ihb =>
    have haskedFirst := fun f hf => hasked f (List.mem_append_left _ hf)
    have haskedSecond := fun f hf => hasked f (List.mem_append_right _ hf)
    obtain ⟨m', ms', ha', hm, hms⟩ := iha haskedFirst hp hps (hq.of_reaches hb.way.reaches)
    obtain ⟨q', qs', hb', hq', hqs⟩ := ihb haskedSecond hm hms hq
    exact ⟨q', qs', .seq ha' hb', hq', hqs⟩
  | first _ ih =>
    have haskedFirst := fun f hf => hasked f (List.mem_append_left _ hf)
    obtain ⟨q', qs', h', hq', hqs⟩ := ih haskedFirst hp hps hq
    exact ⟨q', qs', .first h', hq', hqs⟩
  | second _ ih =>
    have haskedSecond := fun f hf => hasked f (List.mem_append_right _ hf)
    obtain ⟨q', qs', h', hq', hqs⟩ := ih haskedSecond hp hps hq
    exact ⟨q', qs', .second h', hq', hqs⟩
  | part h ih =>
    obtain ⟨taken, htaken⟩ := h.way.reaches
    obtain ⟨q', qs', h', hq', hqs⟩ := ih hasked hp hps hq
    refine ⟨q', _, .part h', hq', .cons ⟨rfl, ?_⟩ hqs⟩
    obtain ⟨q'', hq'', halike⟩ := hp.takes htaken hq
    have hoffset : q''.offset = q'.offset := by
      have ho := hq'.offset
      have ho' := halike.offset
      omega
    have htext : p'.textTo q' = p'.textTo q'' := by rw [Place.textTo, Place.textTo, hoffset]
    exact htext.trans (hq''.textTo_eq.trans htaken.textTo_eq.symm)
  | same hfound htaken =>
    obtain ⟨found', hfound', htext⟩ := hps.lookup hfound
    obtain ⟨q', hq', halike⟩ := hp.takes htaken hq
    exact ⟨q', ps', .same hfound' (by rwa [htext]), halike, hps⟩
  | lineStart h =>
    refine ⟨p', ps', .lineStart ?_, hp, hps⟩
    have hsame := hp.before _ (hasked _ (List.mem_singleton_self _))
    rw [Place.isLineStart_eq] at h ⊢
    rw [hsame, h]
  | textEnd h =>
    refine ⟨p', ps', .textEnd ?_, hp, hps⟩
    obtain ⟨u, hu, hu'⟩ := hp.rest
    obtain ⟨v, hv, hhead⟩ := hq
    obtain rfl : u = v := List.append_cancel_right (hu.symm.trans hv)
    rw [hu', ← List.head?_eq_none_iff, hhead, ← hu, h]
    rfl
  | wordEdge h =>
    refine ⟨p', ps', .wordEdge ?_, hp, hps⟩
    rwa [hp.isBefore hq, hp.before _ (hasked _ (List.mem_singleton_self _))]
  | notAfter h =>
    exact ⟨p', ps', .notAfter ((hp.before _ (hasked _ (List.mem_singleton_self _))).trans h), hp, hps⟩

end Pattern

end Decouple
