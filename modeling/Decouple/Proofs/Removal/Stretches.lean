import Decouple.Proofs.Removal.Deletion
import Decouple.Signature.Markup

/-!
# Stretches that go on to what closes them

A comment or an element starts in one way and goes on, over anything, to what closes it.  A search
first tries to take the line of such a stretch with it.  When something else follows on that line it
does not fall back on the stretch alone: it goes on over whatever follows to the next closing that
stands at the end of a line (`exists_match_of_closesLine`), and only if there is none it takes the
stretch as it stands (`exists_match_of_not_closesLine`).  So a stretch at the start of a line is found
alone exactly if its line ends behind it or no later closing ends a line
(`StandsAt.foundAlone_iff`).
-/

namespace Decouple

open CodePoint (is isIndent)
open Pattern Signature
open Text (ink)

namespace Text

/-- The text behind the end of the line, if a line ends where a text starts: there are spaces and tabs
at most, and then a line break or nothing. -/
def pastLineEnd? (t : Text) : Option Text :=
  let rest := t.dropWhile isIndent
  if rest.isEmpty then some [] else (dropStart? "\n" rest).or (dropStart? "\r\n" rest)

/-- What stays of a text when what stands before it on its line is taken away: the next lines, if the
line ends where the text starts, and otherwise all of it. -/
def pastLine (t : Text) : Text := t.pastLineEnd?.getD t

theorem pastLine_of_eq_some {t u : Text} (h : t.pastLineEnd? = some u) : t.pastLine = u := by
  rw [pastLine, h, Option.getD_some]

theorem pastLine_of_eq_none {t : Text} (h : t.pastLineEnd? = none) : t.pastLine = t := by
  rw [pastLine, h, Option.getD_none]

theorem append_of_dropStart? {head t u : Text} (h : dropStart? head t = some u) : head ++ u = t := by
  rw [dropStart?] at h
  split at h
  · next hstarts =>
    obtain ⟨rest, rfl⟩ := List.isPrefixOf_iff_prefix.1 hstarts
    rw [← Option.some.inj h, List.drop_left]
  · cases h

end Text

namespace Pattern

variable {p q r : Place} {ps qs : Parts} {t u v : Text}

/-! ## Line ends -/

/-- The end of a line: spaces and tabs, and then a line break or the end of the text. -/
def lineEnd : Pattern := sequence [indent, choice [lineBreak, textEnd]]

/-- Where a line ends, the white space up to the next line is taken. -/
theorem path_lineEnd (h : Path lineEnd p ps q qs) : p.rest.pastLineEnd? = some q.rest ∧
    ∃ e, p.Takes e q ∧ ∀ c ∈ e, c.isBlank = true := by
  obtain ⟨m, ms, hindent, hend⟩ := path_seq.1 h
  obtain ⟨-, i, hi, hall, -, hwhole⟩ := path_many hindent
  rw [Text.pastLineEnd?, hi.dropWhile hall (hwhole rfl)]
  have hblank := fun c hc => CodePoint.isBlank_of_isIndent (hall c hc)
  have hjoined {e : Text} (he : ∀ c ∈ e, c.isBlank = true) : ∀ c ∈ i ++ e, c.isBlank = true :=
    fun c hc => (List.mem_append.1 hc).elim (hblank c) (he c)
  rcases path_alt.1 hend with hbreak | hend
  · obtain ⟨m', ms', hreturn, hfeed⟩ := path_seq.1 hbreak
    obtain ⟨-, hfeed⟩ := path_is hfeed
    rcases path_alt.1 hreturn with hreturn | hreturn
    · obtain ⟨-, hreturn⟩ := path_is hreturn
      have htaken := hreturn.append hfeed
      refine ⟨?_, _, hi.append htaken, hjoined (by decide)⟩
      have hne : CodePoint.ofChar '\n' ≠ CodePoint.ofChar '\r' := by decide
      simp [htaken.1, Text.dropStart?, Text.ofString, hne]
    · obtain ⟨rfl, -⟩ := path_empty.1 hreturn
      refine ⟨?_, _, hi.append hfeed, hjoined (by decide)⟩
      simp [hfeed.1, Text.dropStart?, Text.ofString]
  · obtain ⟨rfl, hnil⟩ : q = m ∧ m.rest = [] := by
      cases hend with
      | textEnd hnil => exact ⟨rfl, hnil⟩
    exact ⟨by simp [hnil], i, hi, hblank⟩

/-- Where a line ends, its end can be taken. -/
theorem exists_path_lineEnd (h : p.rest.pastLineEnd? = some t) (ps : Parts) :
    ∃ q, Path lineEnd p ps q ps := by
  obtain ⟨q, hq⟩ := exists_path_whole isIndent p ps
  obtain ⟨-, i, hi, hall, -, hwhole⟩ := path_many hq
  rw [Text.pastLineEnd?, hi.dropWhile hall (hwhole rfl)] at h
  by_cases hnil : q.rest.isEmpty
  · exact ⟨q, .seq hq (.second (.textEnd (List.isEmpty_iff.1 hnil)))⟩
  · simp only [if_neg hnil] at h
    rcases Option.or_eq_some_iff.1 h with hfeed | ⟨-, hreturn⟩
    · obtain ⟨r, hr, -⟩ := Place.exists_takes (Text.append_of_dropStart? hfeed).symm
      exact ⟨r, .seq hq (.first (.seq (.second .empty) (path_one_of_takes hr (by decide))))⟩
    · obtain ⟨r, hr, -⟩ := Place.exists_takes (Text.append_of_dropStart? hreturn).symm
      obtain ⟨rest, hrest, hfeed⟩ := hr.of_cons
      exact ⟨r, .seq hq (.first (.seq (.first (.one hrest (by decide)))
        (path_one_of_takes hfeed (by decide))))⟩

/-! ## Stretches -/

section Lazy

variable {α : Type} {f : CodePoint → Bool} {next : Place → Option α} {before : Option CodePoint}
  {rest : Text} {offset : Nat} {r : α}

/-- As little is taken as is accepted. -/
theorem runLazy_nearest (h : runLazy f next 0 before rest offset = some r) :
    ∃ t q, Place.Takes ⟨before, rest, offset⟩ t q ∧ next q = some r ∧
      ∀ t' q', Place.Takes ⟨before, rest, offset⟩ t' q' → t'.length < t.length →
        next q' = none := by
  induction rest generalizing before offset with
  | nil => exact ⟨[], _, .nil _, h, fun _ _ _ hlt => absurd hlt (Nat.not_lt_zero _)⟩
  | cons c rest ih =>
    rw [runLazy, if_pos rfl] at h
    split at h
    · next r' found =>
      exact ⟨[], _, .nil _, found.trans h, fun _ _ _ hlt => absurd hlt (Nat.not_lt_zero _)⟩
    · next hnone =>
      by_cases hc : f c = true
      · rw [if_pos hc] at h
        obtain ⟨t, q, hq, hn, hnearest⟩ := ih h
        refine ⟨c :: t, q, .cons rfl hq, hn, fun t' q' hq' hlt => ?_⟩
        cases t' with
        | nil =>
          obtain rfl := hq'.eq_of_nil
          exact hnone
        | cons d t' =>
          obtain ⟨rest', hrest', hq'⟩ := hq'.of_cons
          obtain ⟨rfl, rfl⟩ := List.cons.inj hrest'
          exact hnearest t' q' hq' (Nat.lt_of_succ_lt_succ hlt)
      · simp [hc] at h

end Lazy

/-- Texts that may close a stretch: each of them starts with the same code point and holds it just
there, and none starts another. -/
structure Closings (first : CodePoint) (closes : Text → Prop) : Prop where
  starts : ∀ {c}, closes c → ∃ rest, c = first :: rest ∧ first ∉ rest
  unique : ∀ {c d u v}, closes c → closes d → c ++ u = d ++ v → c = d

variable {a b : Pattern} {closes : Text → Prop} {opening inner closing behind : Text}
  {first : CodePoint} {ms : Parts} {m : Place}

/-- What a pattern takes from a place starts with `opening` and goes on, over anything, to a closing.
It hands on the nearest end that is accepted, together with the parts `ms`. -/
structure TakesStretches (a : Pattern) (closes : Text → Prop) (p : Place) (opening : Text)
    (ms : Parts) : Prop where
  path : ∀ {q qs}, Path a p [] q qs ↔
    qs = ms ∧ ∃ v c, closes c ∧ p.Takes (opening ++ v ++ c) q
  nearest : ∀ {α : Type} {next : Place → Parts → Option α} {r : α}, a.run p [] next = some r →
    ∃ v c q, closes c ∧ p.Takes (opening ++ v ++ c) q ∧ next q ms = some r ∧
      ∀ v' c' q', closes c' → p.Takes (opening ++ v' ++ c') q' → v'.length < v.length →
        next q' ms = none

/-- An opening that can be taken in one way only, anything, and a closing. -/
theorem takesStretches {head closer : List Pattern} (hhead : (sequence head).isPlain = true)
    (hcloser : (sequence closer).isPlain = true) (hopen : Path (sequence head) p [] m ms)
    (hone : ∀ r rs, Path (sequence head) p [] r rs → r = m ∧ rs = ms) (hm : p.Takes opening m)
    (hcloses : ∀ {q ps r rs}, Path (sequence closer) q ps r rs ↔
      rs = ps ∧ ∃ c, closes c ∧ q.Takes c r) :
    TakesStretches (sequence (head ++ many anything 0 .lazy :: closer)) closes p opening ms where
  path {q qs} := by
    rw [path_sequence_append]
    constructor
    · rintro ⟨m', ms', hm', hrest⟩
      obtain ⟨rfl, rfl⟩ := hone _ _ hm'
      obtain ⟨r, rs, hlazy, hclose⟩ := path_sequence_cons.1 hrest
      obtain ⟨rfl, v, hv, -⟩ := path_many hlazy
      obtain ⟨rfl, c, hc, htaken⟩ := hcloses.1 hclose
      exact ⟨rfl, v, c, hc, (hm.append hv).append htaken⟩
    · rintro ⟨rfl, v, c, hc, htaken⟩
      obtain ⟨r, hr, hclose⟩ := htaken.split
      obtain ⟨m', hm', hv⟩ := hr.split
      obtain rfl := hm.unique hm'
      exact ⟨_, _, hopen, path_sequence_cons.2 ⟨r, _,
        .many hv (fun _ _ => rfl) (Nat.zero_le _) nofun, hcloses.2 ⟨rfl, c, hc, hclose⟩⟩⟩
  nearest {α next r} h := by
    rw [run_sequence_append, run_of_one_path hhead hopen hone, run_sequence_cons, run] at h
    obtain ⟨v, q, hv, hn, hnearest⟩ := runLazy_nearest h
    obtain ⟨q', qs', hclose, hstop⟩ := run_path hcloser hn
    obtain ⟨rfl, c, hc, htaken⟩ := hcloses.1 hclose
    refine ⟨v, c, q', hc, (hm.append hv).append htaken, hstop, fun v' c' q'' hc' htaken' hlt => ?_⟩
    obtain ⟨r', hr', hclose'⟩ := htaken'.split
    obtain ⟨m', hm', hv'⟩ := hr'.split
    obtain rfl := hm.unique hm'
    have hnone := hnearest v' r' hv' hlt
    rw [← Option.not_isSome_iff_eq_none] at hnone ⊢
    exact fun hsome => hnone (isSome_run (hcloses.2 ⟨rfl, c', hc', hclose'⟩) hsome)

namespace TakesStretches

/-- A choice takes what its second pattern takes if no path of the first starts. -/
theorem of_second (hplain : b.isPlain = true) (hnone : ∀ q qs, ¬Path b p [] q qs)
    (h : TakesStretches a closes p opening ms) :
    TakesStretches (.alt b a) closes p opening ms where
  path {q qs} := by
    rw [path_alt, or_iff_right (hnone q qs)]
    exact h.path
  nearest hr := by
    rw [run, run_of_no_path hplain hnone] at hr
    exact h.nearest hr

/-- A choice takes what its first pattern takes if no path of the second starts. -/
theorem of_first (hplain : b.isPlain = true) (hnone : ∀ q qs, ¬Path b p [] q qs)
    (h : TakesStretches a closes p opening ms) :
    TakesStretches (.alt a b) closes p opening ms where
  path {q qs} := by
    rw [path_alt, or_iff_left (hnone q qs)]
    exact h.path
  nearest {α next r} hr := by
    rw [run, run_of_no_path hplain hnone] at hr
    refine h.nearest (r := r) ?_
    split at hr
    · next found => rw [found, hr]
    · cases hr

end TakesStretches

/-! ## Stretches and their lines -/

/-- A pattern with the line that it stands on alone. -/
def withLine (a : Pattern) : Pattern :=
  sequence [lineStart, indent, a, indent, choice [lineBreak, textEnd]]

/-- The text of a stretch behind its opening: it goes on over `inner`, which no closing starts in, to
`closing`. -/
structure ClosesFirst (closes : Text → Prop) (inner closing behind : Text) : Prop where
  closed : closes closing
  first : ∀ v c u, closes c → inner ++ closing ++ behind = v ++ c ++ u → inner.length ≤ v.length

/-- A closing is the first one, or it lies behind that. -/
theorem ClosesFirst.cases (h : ClosesFirst closes inner closing behind)
    (hclosings : Closings first closes) {v c u : Text} (hc : closes c)
    (hsame : inner ++ closing ++ behind = v ++ c ++ u) :
    v = inner ∧ c = closing ∧ u = behind ∨
      ∃ b, v = inner ++ closing ++ b ∧ behind = b ++ c ++ u := by
  have hle := h.first v c u hc hsame
  rw [List.append_assoc, List.append_assoc] at hsame
  obtain ⟨w, rfl, hrest⟩ : ∃ w, v = inner ++ w ∧ closing ++ behind = w ++ (c ++ u) := by
    rcases List.append_eq_append_iff.1 hsame with hw | ⟨w, rfl, hrest⟩
    · exact hw
    · rw [List.length_append] at hle
      obtain rfl : w = [] := List.length_eq_zero_iff.1 (by omega)
      exact ⟨[], by simp, by simpa using hrest.symm⟩
  cases w with
  | nil =>
    obtain rfl := hclosings.unique h.closed hc hrest
    exact .inl ⟨by simp, rfl, (List.append_cancel_left hrest).symm⟩
  | cons d w =>
    obtain ⟨rest, hclosing, hrestOf⟩ := hclosings.starts h.closed
    obtain ⟨rest', hc', -⟩ := hclosings.starts hc
    rcases List.append_eq_append_iff.1 hrest with ⟨b, hb, hbehind⟩ | ⟨b, hb, hcu⟩
    · exact .inr ⟨b, by rw [hb, List.append_assoc], by rw [hbehind, List.append_assoc]⟩
    · cases b with
      | nil => exact .inr ⟨[], by simp [hb], by simpa using hcu.symm⟩
      | cons e b =>
        -- The code point that a closing starts with would stand further on in the first one.
        obtain rfl : first = e := by
          rw [hc'] at hcu
          exact (List.cons.inj hcu).1
        rw [hclosing] at hb
        have hmem : first ∈ rest := by
          rw [(List.cons.inj hb).2]
          exact List.mem_append_right _ (List.mem_cons_self ..)
        exact absurd hmem hrestOf

/-- Some closing stands at the end of a line. -/
def ClosesLine (closes : Text → Prop) (t : Text) : Prop :=
  ∃ b c u, closes c ∧ t = b ++ c ++ u ∧ u.pastLineEnd?.isSome = true

section WithLine

variable (ha : TakesStretches a closes p opening ms) (hclosings : Closings first closes)
  (hinner : ClosesFirst closes inner closing behind)
  (hrest : p.rest = opening ++ (inner ++ closing ++ behind)) (hline : p.before.all (is '\n') = true)
  (hindent : p.isBefore isIndent = false)
  (hb : ∀ {α : Type} (next : Place → Parts → Option α), b.run p [] next = a.run p [] next)

/-- Where no indentation stands, none is taken. -/
theorem run_indent {α : Type} (hindent : p.isBefore isIndent = false)
    (next : Place → Parts → Option α) : indent.run p ps next = next p ps :=
  runWhole_eq (.nil p) (fun _ h => nomatch h) (Nat.zero_le _) hindent

include hline hindent in
theorem run_withLine {α : Type} (next : Place → Parts → Option α) :
    (withLine a).run p [] next = a.run p [] fun q qs => lineEnd.run q qs next := by
  rw [withLine, run_sequence_cons, run, if_pos hline]
  exact run_indent hindent fun q qs => (seq a lineEnd).run q qs next

include hrest in
theorem behind_of_takes {v c : Text} (hq : p.Takes (opening ++ v ++ c) q) :
    inner ++ closing ++ behind = v ++ c ++ q.rest := by
  have hsame := hq.1
  rw [hrest, List.append_assoc opening, List.append_assoc opening] at hsame
  exact List.append_cancel_left hsame

include ha hline hindent in
/-- A stretch with its line goes to a closing that stands at the end of the line. -/
theorem takes_of_withLine {m : Match}
    (h : (withLine a).run p [] (fun stop parts => some ⟨p, stop, parts⟩) = some m) :
    ∃ v c q e, closes c ∧ p.Takes (opening ++ v ++ c) q ∧ q.rest.pastLineEnd? = some m.stop.rest ∧
      q.Takes e m.stop ∧ (∀ d ∈ e, d.isBlank = true) ∧
      ∀ v' c' q', closes c' → p.Takes (opening ++ v' ++ c') q' → v'.length < v.length →
        q'.rest.pastLineEnd? = none := by
  rw [run_withLine hline hindent] at h
  obtain ⟨v, c, q, hc, hq, hn, hnearest⟩ := ha.nearest h
  obtain ⟨stop, parts, hpath, hstop⟩ := run_path (by decide) hn
  obtain rfl := Option.some.inj hstop
  obtain ⟨hpast, e, he, hblank⟩ := path_lineEnd hpath
  refine ⟨v, c, q, e, hc, hq, hpast, he, hblank, fun v' c' q' hc' hq' hlt => ?_⟩
  by_contra hends
  obtain ⟨rest, hrest⟩ := Option.ne_none_iff_exists'.1 hends
  obtain ⟨r, hr⟩ := exists_path_lineEnd hrest ms
  have haccepted : (lineEnd.run q' ms fun stop parts => some (Match.mk p stop parts)).isSome = true :=
    isSome_run hr rfl
  rw [hnearest v' c' q' hc' hq' hlt] at haccepted
  cases haccepted

include ha hline hindent in
/-- A stretch takes its line if some closing stands at the end of that. -/
theorem exists_withLine {v c : Text} (hc : closes c) (hq : p.Takes (opening ++ v ++ c) q)
    (hend : q.rest.pastLineEnd?.isSome = true) :
    ∃ m, (withLine a).run p [] (fun stop parts => some (Match.mk p stop parts)) = some m := by
  obtain ⟨rest, hrest⟩ := Option.isSome_iff_exists.1 hend
  obtain ⟨r, hr⟩ := exists_path_lineEnd hrest ms
  rw [← Option.isSome_iff_exists, run_withLine hline hindent]
  exact isSome_run (ha.path.2 ⟨rfl, v, c, hc, hq⟩) (isSome_run hr rfl)

include ha hclosings hinner hrest hline hindent

/-- If the line ends behind a stretch, that is taken up to the next line. -/
theorem exists_match_of_lineEnd {rest : Text} (hend : behind.pastLineEnd? = some rest) :
    ∃ m e, (alt (withLine a) b).matchAt? p = some m ∧
      p.Takes (opening ++ inner ++ closing ++ e) m.stop ∧ (∀ d ∈ e, d.isBlank = true) ∧
      m.stop.rest = rest := by
  obtain ⟨q, hq, rfl⟩ := Place.exists_takes (p := p) (t := opening ++ inner ++ closing) (u := behind)
    (by rw [hrest]; simp)
  obtain ⟨m, hm⟩ := exists_withLine ha hline hindent hinner.closed hq (by rw [hend]; rfl)
  obtain ⟨v, c, q', e, hc, hq', hpast, he, hblank, hnearest⟩ := takes_of_withLine ha hline hindent hm
  -- The nearest closing at the end of a line is the first one, since that is at one.
  obtain ⟨rfl, rfl, -⟩ : v = inner ∧ c = closing ∧ q'.rest = q.rest := by
    rcases hinner.cases hclosings hc (behind_of_takes hrest hq') with hfirst | ⟨b, rfl, -⟩
    · exact hfirst
    · obtain ⟨rest', hclosing, -⟩ := hclosings.starts hinner.closed
      have hnone := hnearest inner closing q hinner.closed hq (by simp [hclosing])
      rw [hend] at hnone
      cases hnone
  obtain rfl := hq.unique hq'
  refine ⟨m, e, by rw [matchAt?, run, hm], hq'.append he, hblank, ?_⟩
  rw [hend] at hpast
  exact (Option.some.inj hpast).symm

/-- If more follows on the line and a later closing stands at the end of a line, the stretch goes on
to a closing like that. -/
theorem exists_match_of_closesLine (hend : behind.pastLineEnd? = none)
    (hlater : ClosesLine closes behind) : ∃ m y, (alt (withLine a) b).matchAt? p = some m ∧
      p.Takes (opening ++ inner ++ closing ++ y) m.stop ∧ first ∈ y := by
  obtain ⟨b', c', u, hc', rfl, hu⟩ := hlater
  obtain ⟨q, hq, rfl⟩ := Place.exists_takes (p := p)
    (t := opening ++ (inner ++ closing ++ b') ++ c') (u := u) (by rw [hrest]; simp)
  obtain ⟨m, hm⟩ := exists_withLine ha hline hindent hc' hq hu
  obtain ⟨v, c, q', e, hc, hq', hpast, he, -⟩ := takes_of_withLine ha hline hindent hm
  rcases hinner.cases hclosings hc (behind_of_takes hrest hq') with ⟨-, -, hsame⟩ | ⟨y, rfl, -⟩
  · rw [hsame, hend] at hpast
    cases hpast
  · obtain ⟨rest, rfl, -⟩ := hclosings.starts hc
    refine ⟨m, y ++ first :: rest ++ e, by rw [matchAt?, run, hm], ?_, by simp⟩
    simpa using hq'.append he

include hb

/-- If more follows on the line and no later closing stands at the end of a line, the stretch is taken
by itself. -/
theorem exists_match_of_not_closesLine (hend : behind.pastLineEnd? = none)
    (hlater : ¬ClosesLine closes behind) : ∃ m, (alt (withLine a) b).matchAt? p = some m ∧
      p.Takes (opening ++ inner ++ closing) m.stop := by
  have hnone : (withLine a).run p [] (fun stop parts => some (Match.mk p stop parts)) = none := by
    rw [Option.eq_none_iff_forall_ne_some]
    intro m hm
    obtain ⟨v, c, q, e, hc, hq, hpast, -⟩ := takes_of_withLine ha hline hindent hm
    rcases hinner.cases hclosings hc (behind_of_takes hrest hq) with ⟨-, -, hsame⟩ | ⟨b', -, hsame⟩
    · rw [hsame, hend] at hpast
      cases hpast
    · exact hlater ⟨b', c, q.rest, hc, hsame, by rw [hpast]; rfl⟩
  obtain ⟨q, hq, rfl⟩ := Place.exists_takes (p := p) (t := opening ++ inner ++ closing) (u := behind)
    (by rw [hrest]; simp)
  have haccepted : (a.run p [] fun stop parts => some (Match.mk p stop parts)).isSome = true :=
    isSome_run (ha.path.2 ⟨rfl, inner, closing, hinner.closed, hq⟩) rfl
  obtain ⟨m, hm⟩ := Option.isSome_iff_exists.1 haccepted
  refine ⟨m, by rw [matchAt?, run, hnone]; exact (hb _).trans hm, ?_⟩
  obtain ⟨v, c, q', hc, hq', hstop, hnearest⟩ := ha.nearest hm
  obtain rfl := Option.some.inj hstop
  rcases hinner.cases hclosings hc (behind_of_takes hrest hq') with ⟨rfl, rfl, -⟩ | ⟨b', rfl, -⟩
  · exact hq'
  · obtain ⟨rest', hclosing, -⟩ := hclosings.starts hinner.closed
    have hnearer := hnearest inner closing q hinner.closed hq (by simp [hclosing])
    cases hnearer

end WithLine

/-! ## Stretches that are found alone -/

/-- A stretch stands at the start of a line, before another text, and a pattern takes it. -/
structure StandsAt (a : Pattern) (closes : Text → Prop) (p : Place) (stretch behind : Text) :
    Prop where
  line : p.before.all (is '\n') = true
  indent : p.isBefore isIndent = false
  rest : p.rest = stretch ++ behind
  taken : ∃ first opening inner closing ms, stretch = opening ++ inner ++ closing ∧
    first.isBlank = false ∧ Closings first closes ∧ TakesStretches a closes p opening ms ∧
      ClosesFirst closes inner closing behind

/-- Behind a stretch its line ends, or no later closing stands at the end of a line. -/
def StopsThere (closes : Text → Prop) (behind : Text) : Prop :=
  behind.pastLineEnd? = none → ¬ClosesLine closes behind

/-- No match that starts in the first text goes on into the second. -/
def KeepsTo (pat : Pattern) (t u : Text) : Prop :=
  ∀ m ∈ pat.findAll (t ++ u), m.offset < t.length → m.stop.offset ≤ t.length

instance (pat : Pattern) (t u : Text) : Decidable (KeepsTo pat t u) :=
  inferInstanceAs (Decidable (∀ m ∈ _, _ → _))

/-- Between two texts a match is found that takes just a stretch, up to white space. -/
def FoundAlone (pat : Pattern) (t stretch u : Text) : Prop :=
  ∃ m ∈ pat.findAll (t ++ (stretch ++ u)), m.offset = t.length ∧ ink m.text = ink stretch

section StandsAt

variable {stretch : Text} (h : StandsAt a closes p stretch behind)
  (hb : ∀ {α : Type} (next : Place → Parts → Option α), b.run p [] next = a.run p [] next)

include h hb

/-- A stretch is taken, and no more than white space with it exactly if it stops there. -/
theorem StandsAt.exists_match : ∃ m y, (alt (withLine a) b).matchAt? p = some m ∧
    p.Takes (stretch ++ y) m.stop ∧ (ink y = [] ↔ StopsThere closes behind) ∧
      (ink y = [] → m.stop.rest = behind.pastLine) := by
  obtain ⟨first, opening, inner, closing, ms, rfl, hinked, hclosings, ha, hinner⟩ := h.taken
  have hrest : p.rest = opening ++ (inner ++ closing ++ behind) := by
    rw [h.rest]
    simp only [List.append_assoc]
  cases hend : behind.pastLineEnd? with
  | some rest =>
    obtain ⟨m, e, hm, htaken, hblank, hstop⟩ :=
      exists_match_of_lineEnd ha hclosings hinner hrest h.line h.indent hend
    refine ⟨m, e, hm, htaken, iff_of_true (Text.ink_eq_nil.2 hblank) fun hnone => ?_, fun _ => ?_⟩
    · rw [hend] at hnone
      cases hnone
    · rw [hstop, Text.pastLine_of_eq_some hend]
  | none =>
    by_cases hlater : ClosesLine closes behind
    · obtain ⟨m, y, hm, htaken, hmem⟩ :=
        exists_match_of_closesLine ha hclosings hinner hrest h.line h.indent hend hlater
      have hne := Text.ink_ne_nil hmem hinked
      exact ⟨m, y, hm, htaken, iff_of_false hne fun hstops => hstops hend hlater,
        fun hnil => absurd hnil hne⟩
    · obtain ⟨m, hm, htaken⟩ :=
        exists_match_of_not_closesLine ha hclosings hinner hrest h.line h.indent hb hend hlater
      refine ⟨m, [], hm, by rwa [List.append_nil], iff_of_true rfl fun _ => hlater, fun _ => ?_⟩
      have hsame := htaken.1
      rw [h.rest] at hsame
      rw [Text.pastLine_of_eq_none hend, List.append_cancel_left hsame]

variable {t : Text} (hp : (Place.start (t ++ (stretch ++ behind))).Takes t p) (hne : stretch ≠ [])

include hp

/-- A stretch that is found alone is taken with the white space up to the next line. -/
theorem StandsAt.exists_of_foundAlone
    (halone : FoundAlone (alt (withLine a) b) t stretch behind) :
    ∃ m ∈ (alt (withLine a) b).findAll (t ++ (stretch ++ behind)), m.offset = t.length ∧
      ∃ e, m.text = stretch ++ e ∧ behind = e ++ behind.pastLine ∧ ink e = [] := by
  obtain ⟨m, hm, hoffset, hink⟩ := halone
  have hpOffset : p.offset = t.length := by
    rw [hp.2.1]
    exact Nat.zero_add _
  have hmatch := matchAt?_of_mem_findAll hm ⟨t, hp⟩ (hoffset.trans hpOffset.symm)
  obtain ⟨m', e, hm', htaken, -, hpast⟩ := h.exists_match hb
  obtain rfl := Option.some.inj (hm'.symm.trans hmatch)
  have htext : m'.text = stretch ++ e := by
    rw [Match.text, (reaches_of_matchAt? hmatch).1, htaken.textTo_eq]
  rw [htext, Text.ink_append, List.append_right_eq_self] at hink
  refine ⟨m', hm, hoffset, e, htext, ?_, hink⟩
  have hrest := htaken.1
  rw [h.rest, List.append_assoc] at hrest
  rw [← hpast hink]
  exact List.append_cancel_left hrest

include hne

/-- A stretch is found alone exactly if nothing before it goes on into it and it stops where it
ends. -/
theorem StandsAt.foundAlone_iff : FoundAlone (alt (withLine a) b) t stretch behind ↔
    KeepsTo (alt (withLine a) b) t (stretch ++ behind) ∧ StopsThere closes behind := by
  have hpOffset : p.offset = t.length := by
    rw [hp.2.1]
    exact Nat.zero_add _
  obtain ⟨m, y, hm, htaken, hstops, -⟩ := h.exists_match hb
  have hstart := (reaches_of_matchAt? hm).1
  have hoffset : m.offset = t.length := by rw [Match.offset, hstart, hpOffset]
  have htext : m.text = stretch ++ y := by rw [Match.text, hstart, htaken.textTo_eq]
  rw [← hstops]
  constructor
  · rintro ⟨m', hm', hoffset', hink⟩
    have hmatch := matchAt?_of_mem_findAll hm' ⟨t, hp⟩ (hoffset'.trans hpOffset.symm)
    obtain rfl := Option.some.inj (hm.symm.trans hmatch)
    refine ⟨fun m' hm'' hlt => ?_, ?_⟩
    · by_contra hover
      obtain rfl := eq_of_mem_findAll hm' hm'' (by omega) (by omega)
      omega
    · rwa [htext, Text.ink_append, List.append_right_eq_self] at hink
  · rintro ⟨hkeeps, hink⟩
    have hadvanced : p.offset < m.stop.offset := by
      have hlength := htaken.2.1
      have hpos := List.length_pos_iff.2 hne
      rw [List.length_append] at hlength
      omega
    refine ⟨m, mem_findAll_of_matchAt? ⟨t, hp⟩ hm hadvanced fun m' hm' hlt => ?_, hoffset, ?_⟩
    · rw [hpOffset] at hlt ⊢
      exact hkeeps m' hm' hlt
    · rw [htext, Text.ink_append, hink, List.append_nil]

end StandsAt

/-- An edit that deletes just a stretch and white space behind it leaves what stands around the
line. -/
theorem edit_of_stretch {ν : Type} {pat : Pattern} {choose : Match → Option (Text × ν)} {m : Match}
    {t stretch e u : Text} {note : ν} (hm : m ∈ pat.findAll (t ++ (stretch ++ u)))
    (hoffset : m.offset = t.length) (htext : m.text = stretch ++ e) (hu : u = e ++ u.pastLine)
    (hpick : choose m = some ([], note))
    (hothers : ∀ m' ∈ pat.findAll (t ++ (stretch ++ u)), m' ≠ m → choose m' = none) :
    pat.edit choose (t ++ (stretch ++ u)) = (t ++ u.pastLine, [note]) := by
  obtain ⟨a, b, hcut, hlength, hedit⟩ := edit_of_only hm hpick hothers
  rw [htext, List.append_assoc, List.append_assoc] at hcut
  obtain ⟨rfl, hmore⟩ := List.append_inj hcut (by rw [hlength, hoffset])
  have hbehind : u = e ++ b := List.append_cancel_left hmore
  obtain rfl : u.pastLine = b := List.append_cancel_left (hu.symm.trans hbehind)
  rw [hedit, List.append_nil]

end Pattern

end Decouple
