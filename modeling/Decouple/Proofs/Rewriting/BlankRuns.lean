import Decouple.Proofs.Paths
import Decouple.Proofs.Rewriting.Edits
import Decouple.Proofs.Texts
import Decouple.Rewrite.Note

/-!
# Runs of blank lines

A line is blank if it holds nothing but spaces and tabs, and a run of blank lines is a line feed
with at least two blank lines behind it.  A match of the pattern of a run takes all blank lines that
there are (`exists_match_of_blankLines`), so what stands behind it starts with none, and what is put
in its place cannot become part of another run there.  Nor can it with what stands before: a line
feed with just blank lines up to the match would have started the match.  Both are said once,
without places, by what collapsing does to a text from its start on (`Collapses`): a line feed that
is kept has at most one blank line behind it, and none follows on a run.

Of the blank lines that a text starts with collapsing leaves two at most
(`Collapses.blankLinesAhead_eq`), and one at most if a line feed stands before them.  So one pass
leaves no run, and a second one changes nothing.  Seen as lines, a text stays but for blank lines
next to each other that become one empty line (`Collapses.squeezes`).
-/

namespace Decouple

open CodePoint (is isIndent ofChar)
open Pattern

namespace Text

variable {c : CodePoint} {t u : Text} {bs : List Text}

/-! ## Blank lines -/

/-- Lines one after the other, with a line feed behind each. -/
def written (bs : List Text) : Text := bs.flatMap (· ++ [ofChar '\n'])

@[simp] theorem written_nil : written [] = [] := rfl

@[simp] theorem written_cons (b : Text) (bs : List Text) :
    written (b :: bs) = b ++ ofChar '\n' :: written bs :=
  List.append_assoc b [ofChar '\n'] (written bs)

/-- There are at least as many code points as lines. -/
theorem length_le_written (bs : List Text) : bs.length ≤ (written bs).length := by
  induction bs with
  | nil => exact Nat.le_refl 0
  | cons b bs ih =>
    rw [written_cons, List.length_append, List.length_cons, List.length_cons]
    omega

/-- Lines of nothing but spaces and tabs. -/
def AreBlank (bs : List Text) : Prop := ∀ b ∈ bs, ∀ c ∈ b, isIndent c = true

theorem areBlank_nil : AreBlank [] := List.forall_mem_nil _

theorem areBlank_cons {b : Text} :
    AreBlank (b :: bs) ↔ (∀ c ∈ b, isIndent c = true) ∧ AreBlank bs := List.forall_mem_cons

theorem isBlank_of_mem_written (h : AreBlank bs) (hc : c ∈ written bs) : c.isBlank = true := by
  obtain ⟨b, hb, hmem⟩ := List.mem_flatMap.1 hc
  rcases List.mem_append.1 hmem with hmem | hmem
  · exact CodePoint.isBlank_of_isIndent (h b hb c hmem)
  · rw [List.mem_singleton.1 hmem]
    decide

/-- The number of blank lines that a text starts with. -/
def blankLinesAhead : Text → Nat
  | [] => 0
  | c :: t =>
    if c = '\n' then blankLinesAhead t + 1 else if isIndent c then blankLinesAhead t else 0

theorem blankLinesAhead_feed (t : Text) :
    blankLinesAhead (ofChar '\n' :: t) = blankLinesAhead t + 1 := if_pos rfl

theorem ne_feed_of_isIndent (h : isIndent c = true) : c ≠ '\n' := by
  rintro rfl
  revert h
  decide

theorem blankLinesAhead_indent (h : isIndent c = true) (t : Text) :
    blankLinesAhead (c :: t) = blankLinesAhead t := by
  rw [blankLinesAhead, if_neg (ne_feed_of_isIndent h), if_pos h]

theorem blankLinesAhead_ink (hfeed : c ≠ '\n') (h : ¬isIndent c = true) (t : Text) :
    blankLinesAhead (c :: t) = 0 := by
  rw [blankLinesAhead, if_neg hfeed, if_neg h]

/-- Spaces and tabs belong to the line that follows. -/
theorem blankLinesAhead_append {b : Text} (h : ∀ c ∈ b, isIndent c = true) (t : Text) :
    blankLinesAhead (b ++ t) = blankLinesAhead t := by
  induction b with
  | nil => rfl
  | cons c b ih =>
    rw [List.forall_mem_cons] at h
    rw [List.cons_append, blankLinesAhead_indent h.1, ih h.2]

/-- The blank lines in front of a text are counted with those that it starts with. -/
theorem blankLinesAhead_written (h : AreBlank bs) (t : Text) :
    blankLinesAhead (written bs ++ t) = bs.length + blankLinesAhead t := by
  induction bs with
  | nil => exact (Nat.zero_add _).symm
  | cons b bs ih =>
    obtain ⟨hb, hbs⟩ := areBlank_cons.1 h
    rw [written_cons, List.append_assoc, List.cons_append, blankLinesAhead_append hb,
      blankLinesAhead_feed, ih hbs, List.length_cons]
    omega

/-- A text is the blank lines that it starts with, and more. -/
theorem exists_written (t : Text) : ∃ bs u, t = written bs ++ u ∧ AreBlank bs ∧
    bs.length = blankLinesAhead t ∧ blankLinesAhead u = 0 := by
  induction t with
  | nil => exact ⟨[], [], rfl, areBlank_nil, rfl, rfl⟩
  | cons c t ih =>
    obtain ⟨bs, u, rfl, hblank, hlength, hnone⟩ := ih
    by_cases hfeed : c = '\n'
    · subst hfeed
      exact ⟨[] :: bs, u, rfl, areBlank_cons.2 ⟨List.forall_mem_nil _, hblank⟩,
        by rw [blankLinesAhead_feed, List.length_cons, hlength], hnone⟩
    · by_cases hindent : isIndent c = true
      · rw [blankLinesAhead_indent hindent]
        cases bs with
        | nil =>
          exact ⟨[], c :: u, rfl, areBlank_nil, hlength, by rwa [blankLinesAhead_indent hindent]⟩
        | cons b bs =>
          obtain ⟨hb, hbs⟩ := areBlank_cons.1 hblank
          exact ⟨(c :: b) :: bs, u, rfl,
            areBlank_cons.2 ⟨List.forall_mem_cons.2 ⟨hindent, hb⟩, hbs⟩, hlength, hnone⟩
      · rw [blankLinesAhead_ink hfeed hindent]
        exact ⟨[], c :: (written bs ++ u), rfl, areBlank_nil, rfl,
          blankLinesAhead_ink hfeed hindent _⟩

/-! ## Runs -/

/-- A line feed with at least two blank lines behind it. -/
def IsBlankRun (r : Text) : Prop :=
  ∃ bs, r = ofChar '\n' :: written bs ∧ AreBlank bs ∧ 2 ≤ bs.length

/-- Whether there is a run of blank lines somewhere in a text. -/
def HasBlankRun (t : Text) : Prop := ∃ r, IsBlankRun r ∧ r <:+: t

theorem not_hasBlankRun_nil : ¬HasBlankRun [] := by
  rintro ⟨_, ⟨bs, rfl, -⟩, hr⟩
  cases List.infix_nil.1 hr

/-- A text starts with a run if its first code point is a line feed and two blank lines follow. -/
theorem exists_blankRun_prefix_iff :
    (∃ r, IsBlankRun r ∧ r <+: c :: t) ↔ c = '\n' ∧ 2 ≤ blankLinesAhead t := by
  constructor
  · rintro ⟨_, ⟨bs, rfl, hblank, htwo⟩, u, hu⟩
    obtain ⟨rfl, hrest⟩ := List.cons.inj hu
    have hsplit : t = written bs ++ u := hrest.symm
    rw [hsplit, blankLinesAhead_written hblank]
    exact ⟨rfl, Nat.le_add_right_of_le htwo⟩
  · rintro ⟨rfl, htwo⟩
    obtain ⟨bs, u, rfl, hblank, hlength, -⟩ := exists_written t
    exact ⟨_, ⟨bs, rfl, hblank, hlength ▸ htwo⟩, u, rfl⟩

theorem hasBlankRun_cons :
    HasBlankRun (c :: t) ↔ c = '\n' ∧ 2 ≤ blankLinesAhead t ∨ HasBlankRun t := by
  rw [← exists_blankRun_prefix_iff]
  simp only [HasBlankRun, List.infix_cons_iff, and_or_left, exists_or]

end Text

open Text (written written_cons AreBlank areBlank_cons blankLinesAhead IsBlankRun HasBlankRun)

namespace Rewrite

variable {p q : Place} {ps qs : Parts} {c : CodePoint} {t u : Text} {bs : List Text} {m : Match}

/-! ## The pattern of a run -/

/-- A blank line with its line feed. -/
def blankLine : Pattern := sequence [indent, one (is '\n')]

theorem blankRun_eq : blankRun = sequence [one (is '\n'), blankLine, again blankLine] := rfl

/-- A way of a blank line takes one. -/
theorem way_blankLine (h : Way blankLine p ps q qs) :
    ∃ b, (∀ c ∈ b, isIndent c = true) ∧ p.Takes (b ++ [ofChar '\n']) q := by
  obtain ⟨_, _, hindent, hfeed⟩ := way_seq.1 h
  obtain ⟨-, b, hb, hall, -⟩ := way_many hindent
  exact ⟨b, hall, hb.append (way_is hfeed).2⟩

/-- Round after round one or more blank lines are taken. -/
theorem way_again_blankLine (h : Way (again blankLine) p ps q qs) :
    ∃ bs, AreBlank bs ∧ 1 ≤ bs.length ∧ p.Takes (written bs) q := by
  generalize ha : again blankLine = a at h
  induction h with
  | once h _ =>
    obtain rfl := Pattern.again.inj ha
    obtain ⟨b, hb, htaken⟩ := way_blankLine h
    exact ⟨[b], areBlank_cons.2 ⟨hb, Text.areBlank_nil⟩, Nat.le_refl 1, by simpa using htaken⟩
  | more h _ _ ih =>
    obtain rfl := Pattern.again.inj ha
    obtain ⟨b, hb, htaken⟩ := way_blankLine h
    obtain ⟨bs, hbs, -, hmore⟩ := ih rfl
    refine ⟨b :: bs, areBlank_cons.2 ⟨hb, hbs⟩, Nat.le_add_left 1 _, ?_⟩
    simpa using htaken.append hmore
  | _ => cases ha

/-- A match takes a run. -/
theorem isBlankRun_of_matchAt? (h : blankRun.matchAt? p = some m) :
    IsBlankRun m.text ∧ p.Takes m.text m.stop := by
  obtain ⟨hstart, hway⟩ := way_of_matchAt? h
  obtain ⟨_, _, hfeed, hlines⟩ := way_seq.1 hway
  obtain ⟨_, _, hline, hmore⟩ := way_seq.1 hlines
  obtain ⟨b, hb, htaken⟩ := way_blankLine hline
  obtain ⟨bs, hbs, hone, hrest⟩ := way_again_blankLine hmore
  have hrun : p.Takes (ofChar '\n' :: written (b :: bs)) m.stop := by
    simpa using (way_is hfeed).2.append (htaken.append hrest)
  have htext : m.text = ofChar '\n' :: written (b :: bs) := by
    rw [Match.text, hstart, hrun.textTo_eq]
  have hblank : AreBlank (b :: bs) := areBlank_cons.2 ⟨hb, hbs⟩
  exact ⟨⟨b :: bs, htext, hblank, Nat.succ_le_succ hone⟩, htext ▸ hrun⟩

/-- A match starts at a line feed with two blank lines behind it. -/
theorem blankLinesAhead_of_matchAt? (h : blankRun.matchAt? p = some m) (hrest : p.rest = c :: t) :
    c = '\n' ∧ 2 ≤ blankLinesAhead t := by
  obtain ⟨hrun, htaken⟩ := isBlankRun_of_matchAt? h
  refine Text.exists_blankRun_prefix_iff.1 ⟨m.text, hrun, m.stop.rest, ?_⟩
  rw [← htaken.1, hrest]

/-! ## All blank lines are taken -/

section Running

variable {α : Type} {next : Place → Parts → Option α} {b : Text}

theorem run_blankLine (hb : ∀ c ∈ b, isIndent c = true) (h : p.Takes (b ++ [ofChar '\n']) q) :
    blankLine.run p ps next = next q ps := by
  obtain ⟨s, hs, hfeed⟩ := h.split
  have hend : s.isBefore isIndent = false := by
    rw [Place.isBefore, hfeed.1]
    rfl
  rw [blankLine, run_sequence_cons, indent, run_whole hs hb (Nat.zero_le _) hend]
  exact run_one hfeed (decide_eq_true rfl)

/-- Where no blank line starts none is taken. -/
theorem run_blankLine_eq_none (h : blankLinesAhead p.rest = 0) :
    blankLine.run p ps next = none := by
  rw [Option.eq_none_iff_forall_ne_some]
  intro r hr
  obtain ⟨q, qs, hway, -⟩ := run_way hr
  obtain ⟨b, hb, htaken⟩ := way_blankLine hway
  have hblank : AreBlank [b] := areBlank_cons.2 ⟨hb, Text.areBlank_nil⟩
  have hrest : p.rest = written [b] ++ q.rest := by simpa using htaken.1
  rw [hrest, Text.blankLinesAhead_written hblank, List.length_singleton] at h
  omega

/-- As many rounds are made as there are blank lines. -/
theorem runAgain_blankLine {fuel : Nat} (hblank : AreBlank bs) (hone : 1 ≤ bs.length)
    (hfuel : bs.length ≤ fuel) (h : p.Takes (written bs) q) (hend : blankLinesAhead q.rest = 0)
    {r : α} (hn : next q ps = some r) :
    runAgain (fun place parts next => blankLine.run place parts next) next fuel p ps = some r := by
  induction bs generalizing p fuel with
  | nil => exact absurd hone (Nat.not_succ_le_zero 0)
  | cons b bs ih =>
    obtain ⟨hb, hbs⟩ := areBlank_cons.1 hblank
    obtain ⟨fuel, rfl⟩ := Nat.exists_eq_add_one.2 (Nat.lt_of_lt_of_le (Nat.succ_pos _) hfuel)
    have hlines : p.Takes (b ++ [ofChar '\n'] ++ written bs) q := by simpa using h
    obtain ⟨s, hs, hmore⟩ := hlines.split
    rw [runAgain, run_blankLine hb hs]
    cases bs with
    | nil =>
      -- No further round is made, since no blank line follows.
      obtain rfl := hmore.eq_of_nil
      have hlast : runAgain (fun place parts next => blankLine.run place parts next) next fuel q
          ps = none := by
        cases fuel with
        | zero => rfl
        | succ fuel => exact run_blankLine_eq_none hend
      rw [hlast]
      exact hn
    | cons b' bs =>
      rw [ih hbs (Nat.le_add_left 1 _) (Nat.le_of_succ_le_succ hfuel) hmore]

end Running

/-- A line feed and all of the blank lines behind it are a match, if there are at least two. -/
theorem exists_match_of_takes (hblank : AreBlank bs) (htwo : 2 ≤ bs.length)
    (h : p.Takes (ofChar '\n' :: written bs) q) (hend : blankLinesAhead q.rest = 0) :
    ∃ m, blankRun.matchAt? p = some m ∧ m.stop = q := by
  obtain ⟨b, bs, rfl⟩ : ∃ b bs', bs = b :: bs' := List.exists_cons_of_length_pos (by omega)
  obtain ⟨hb, hbs⟩ := areBlank_cons.1 hblank
  have hlines : p.Takes ([ofChar '\n'] ++ (b ++ [ofChar '\n'] ++ written bs)) q := by simpa using h
  obtain ⟨s, hs, hlines⟩ := hlines.split
  obtain ⟨s', hs', hmore⟩ := hlines.split
  have hfuel : bs.length ≤ s'.rest.length + 1 := by
    have hlength := Text.length_le_written bs
    rw [hmore.1, List.length_append]
    omega
  refine ⟨⟨p, q, []⟩, ?_, rfl⟩
  rw [matchAt?, blankRun_eq, run_sequence_cons, run_one hs (decide_eq_true rfl), run_sequence_cons,
    run_blankLine hb hs']
  exact runAgain_blankLine hbs (Nat.le_of_succ_le_succ htwo) hfuel hmore hend rfl

/-- Where a run stands there is a match, and it leaves no blank line behind it. -/
theorem exists_match_of_blankLines (hrest : p.rest = ofChar '\n' :: t)
    (htwo : 2 ≤ blankLinesAhead t) : ∃ m bs, blankRun.matchAt? p = some m ∧
      p.offset < m.stop.offset ∧ t = written bs ++ m.stop.rest ∧ AreBlank bs ∧ 2 ≤ bs.length ∧
        blankLinesAhead m.stop.rest = 0 := by
  obtain ⟨bs, u, rfl, hblank, hlength, hend⟩ := Text.exists_written t
  rw [← hlength] at htwo
  have hsplit : p.rest = (ofChar '\n' :: written bs) ++ u := hrest
  obtain ⟨q, hq, rfl⟩ := Place.exists_takes hsplit
  obtain ⟨m, hm, rfl⟩ := exists_match_of_takes hblank htwo hq hend
  refine ⟨m, bs, hm, ?_, rfl, hblank, htwo, hend⟩
  rw [hq.2.1, List.length_cons]
  omega

/-- No match is found in a text exactly if there is no run in it. -/
theorem findAll_blankRun_eq_nil_iff : blankRun.findAll t = [] ↔ ¬HasBlankRun t := by
  constructor
  · rintro hnone ⟨_, ⟨bs, rfl, hblank, htwo⟩, a, b, rfl⟩
    rw [List.append_assoc] at hnone
    obtain ⟨p, hp, hrest⟩ := Place.exists_takes
      (p := Place.start (a ++ ((ofChar '\n' :: written bs) ++ b))) rfl
    have hlines : 2 ≤ blankLinesAhead (written bs ++ b) := by
      rw [Text.blankLinesAhead_written hblank]
      exact Nat.le_add_right_of_le htwo
    obtain ⟨m, -, hm, hlt, -⟩ := exists_match_of_blankLines hrest hlines
    exact absurd hlt (Nat.not_lt.2 (le_of_findAll_eq_nil hnone ⟨a, hp⟩ hm))
  · intro hnone
    rw [List.eq_nil_iff_forall_not_mem]
    intro m hm
    obtain ⟨p, ⟨a, ha⟩, hmatch, -⟩ := exists_place_of_mem_findAll hm
    obtain ⟨hrun, htaken⟩ := isBlankRun_of_matchAt? hmatch
    refine hnone ⟨m.text, hrun, a, m.stop.rest, ?_⟩
    rw [List.append_assoc, ← htaken.1]
    exact ha.1.symm

/-! ## Collapsing from the start of a text on -/

/-- What collapsing makes of a text: a code point is kept where no run starts, and a line feed with
all blank lines behind it becomes two line feeds. -/
inductive Collapses : Text → Text → Prop where
  | nil : Collapses [] []
  | keep {c : CodePoint} {t u : Text} (hfew : c = '\n' → blankLinesAhead t < 2)
      (h : Collapses t u) : Collapses (c :: t) (c :: u)
  | run {bs : List Text} {t u : Text} (hblank : AreBlank bs) (htwo : 2 ≤ bs.length)
      (hend : blankLinesAhead t = 0) (h : Collapses t u) :
      Collapses (ofChar '\n' :: (written bs ++ t)) (ofChar '\n' :: ofChar '\n' :: u)

/-- What is put in the place of the text behind a place. -/
theorem collapses_cut (p : Place) :
    Collapses p.rest ((blankRun.cut p).flatMap (Segment.replaced fun _ => "\n\n")) := by
  induction hn : p.rest.length using Nat.strong_induction_on generalizing p with
  | _ n ih =>
    subst hn
    cases hrest : p.rest with
    | nil =>
      rw [cut_of_nil hrest]
      exact .nil
    | cons c t =>
      by_cases hrun : c = '\n' ∧ 2 ≤ blankLinesAhead t
      · obtain ⟨rfl, hlines⟩ := hrun
        obtain ⟨m, bs, hm, hlt, rfl, hblank, htwo, hend⟩ := exists_match_of_blankLines hrest hlines
        rw [cut_of_match hm hlt, List.flatMap_cons]
        exact .run hblank htwo hend (ih _ (length_lt_of_match hm hlt) m.stop rfl)
      · have hnone : ∀ m, blankRun.matchAt? p = some m → m.stop.offset ≤ p.offset :=
          fun m hm => absurd (blankLinesAhead_of_matchAt? hm hrest) hrun
        have hshort : t.length < p.rest.length := by
          rw [hrest]
          exact Nat.lt_succ_self _
        rw [cut_of_none hrest hnone, List.flatMap_cons]
        exact .keep (fun hfeed => Nat.lt_of_not_le fun htwo => hrun ⟨hfeed, htwo⟩)
          (ih _ hshort (p.after c t) rfl)

theorem collapses_collapseBlankRuns (t : Text) : Collapses t (collapseBlankRuns t) :=
  collapses_cut (Place.start t)

namespace Collapses

/-- Of the blank lines that a text starts with at most two stay. -/
theorem blankLinesAhead_eq (h : Collapses t u) :
    blankLinesAhead u = min 2 (blankLinesAhead t) := by
  induction h with
  | nil => rfl
  | @keep c t u hfew h ih =>
    by_cases hfeed : c = '\n'
    · have hlt := hfew hfeed
      subst hfeed
      rw [Text.blankLinesAhead_feed, Text.blankLinesAhead_feed, ih]
      omega
    · by_cases hindent : isIndent c = true
      · rw [Text.blankLinesAhead_indent hindent, Text.blankLinesAhead_indent hindent, ih]
      · rw [Text.blankLinesAhead_ink hfeed hindent, Text.blankLinesAhead_ink hfeed hindent]
        rfl
  | run hblank htwo hend h ih =>
    rw [hend] at ih
    rw [Text.blankLinesAhead_feed, Text.blankLinesAhead_feed, Text.blankLinesAhead_feed,
      Text.blankLinesAhead_written hblank, hend, ih]
    omega

/-- No run is left. -/
theorem not_hasBlankRun (h : Collapses t u) : ¬HasBlankRun u := by
  induction h with
  | nil => exact Text.not_hasBlankRun_nil
  | keep hfew h ih =>
    rw [Text.hasBlankRun_cons, h.blankLinesAhead_eq, or_iff_left ih]
    rintro ⟨hfeed, htwo⟩
    have hlt := hfew hfeed
    omega
  | run hblank htwo hend h ih =>
    -- Behind the two line feeds no blank line follows.
    have hnone := h.blankLinesAhead_eq
    rw [hend] at hnone
    rw [Text.hasBlankRun_cons, Text.hasBlankRun_cons, or_iff_left ih, Text.blankLinesAhead_feed,
      hnone]
    omega

end Collapses

/-! ## The lines of the collapsed text -/

/-- The lines that hold more than spaces and tabs. -/
def filledLines (ls : List Text) : List Text := ls.filter fun l => !l.all isIndent

theorem filledLines_append (ls ms : List Text) :
    filledLines (ls ++ ms) = filledLines ls ++ filledLines ms := List.filter_append ..

theorem filledLines_cons (l : Text) (ls : List Text) :
    filledLines (l :: ls) = filledLines [l] ++ filledLines ls := filledLines_append [l] ls

/-- Lines of which some stay and, in some places, two or more blank ones become one empty one. -/
inductive Squeezes : List Text → List Text → Prop where
  | nil : Squeezes [] []
  | line {ls ms : List Text} (l : Text) (h : Squeezes ls ms) : Squeezes (l :: ls) (l :: ms)
  | run {bs ls ms : List Text} (hblank : AreBlank bs) (htwo : 2 ≤ bs.length)
      (h : Squeezes ls ms) : Squeezes (bs ++ ls) ([] :: ms)

theorem filledLines_of_areBlank (h : AreBlank bs) : filledLines bs = [] := by
  refine List.filter_eq_nil_iff.2 fun b hb => ?_
  rw [List.all_eq_true.2 (h b hb)]
  decide

/-- The lines that hold something are left as they are. -/
theorem Squeezes.filledLines_eq {ls ms : List Text} (h : Squeezes ls ms) :
    filledLines ms = filledLines ls := by
  induction h with
  | nil => rfl
  | @line ls ms l _ ih => rw [filledLines_cons l ms, filledLines_cons l ls, ih]
  | run hblank _ _ ih =>
    rw [filledLines_append, filledLines_of_areBlank hblank]
    exact ih

theorem splitOn_feed (t : Text) :
    Text.splitOn '\n' (ofChar '\n' :: t) = [] :: Text.splitOn '\n' t :=
  Text.splitOn_append List.not_mem_nil

/-- Blank lines in front of a text are lines of it. -/
theorem splitOn_written (h : AreBlank bs) (t : Text) :
    Text.splitOn '\n' (written bs ++ t) = bs ++ Text.splitOn '\n' t := by
  induction bs with
  | nil => rfl
  | cons b bs ih =>
    obtain ⟨hb, hbs⟩ := areBlank_cons.1 h
    have hfeed : ofChar '\n' ∉ b := fun hmem => Text.ne_feed_of_isIndent (hb _ hmem) rfl
    rw [written_cons, List.append_assoc, List.cons_append, Text.splitOn_append hfeed, ih hbs]
    rfl

/-- The first line stays, whatever is put before it, and the others are squeezed. -/
theorem Collapses.exists_squeezes (h : Collapses t u) : ∃ l ls ms,
    Text.splitOn '\n' t = l :: ls ∧ Text.splitOn '\n' u = l :: ms ∧ Squeezes ls ms := by
  induction h with
  | nil => exact ⟨[], [], [], rfl, rfl, .nil⟩
  | @keep c t u _ _ ih =>
    obtain ⟨l, ls, ms, ht, hu, hsqueezes⟩ := ih
    by_cases hfeed : c = '\n'
    · subst hfeed
      rw [splitOn_feed, splitOn_feed, ht, hu]
      exact ⟨[], _, _, rfl, rfl, .line l hsqueezes⟩
    · have hextend {v : Text} : Text.splitOn '\n' (c :: v) =
          Text.extendPart c (Text.splitOn '\n' v) := if_neg (by simpa using hfeed)
      rw [hextend, hextend, ht, hu]
      exact ⟨c :: l, ls, ms, rfl, rfl, hsqueezes⟩
  | @run bs t u hblank htwo _ _ ih =>
    obtain ⟨l, ls, ms, ht, hu, hsqueezes⟩ := ih
    rw [splitOn_feed, splitOn_feed, splitOn_feed, splitOn_written hblank, ht, hu]
    exact ⟨[], _, _, rfl, rfl, .run hblank htwo (.line l hsqueezes)⟩

theorem Collapses.squeezes (h : Collapses t u) :
    Squeezes (Text.splitOn '\n' t) (Text.splitOn '\n' u) := by
  obtain ⟨l, ls, ms, ht, hu, hsqueezes⟩ := h.exists_squeezes
  rw [ht, hu]
  exact .line l hsqueezes

/-! ## The normal form -/

/-- A text is another with its runs of blank lines collapsed.  The pattern of a run has no match in
it, and no run stands in it; it is the other text exactly if no run stood there, and collapsing
leaves it as it is.  Of the other's lines some blank ones that stand next to each other have become
a single empty one; the rest are the same, and so are all that hold more than spaces and tabs. -/
structure IsNormalForm (t u : Text) : Prop where
  findAll_eq_nil : blankRun.findAll u = []
  not_hasBlankRun : ¬HasBlankRun u
  eq_iff : u = t ↔ ¬HasBlankRun t
  collapse_eq : collapseBlankRuns u = u
  squeezes : Squeezes (Text.splitOn '\n' t) (Text.splitOn '\n' u)
  filledLines_eq : filledLines (Text.splitOn '\n' u) = filledLines (Text.splitOn '\n' t)

theorem collapseBlankRuns_of_not_hasBlankRun (h : ¬HasBlankRun t) : collapseBlankRuns t = t :=
  replace_of_findAll_eq_nil (findAll_blankRun_eq_nil_iff.2 h)

theorem isNormalForm_collapseBlankRuns (t : Text) : IsNormalForm t (collapseBlankRuns t) := by
  have h := collapses_collapseBlankRuns t
  have hnone := h.not_hasBlankRun
  exact {
    findAll_eq_nil := findAll_blankRun_eq_nil_iff.2 hnone
    not_hasBlankRun := hnone
    eq_iff := ⟨fun hsame => hsame ▸ hnone, collapseBlankRuns_of_not_hasBlankRun⟩
    collapse_eq := collapseBlankRuns_of_not_hasBlankRun hnone
    squeezes := h.squeezes
    filledLines_eq := h.squeezes.filledLines_eq }

/-- A rewrite that has made a note leaves the normal form of the edited text. -/
theorem finish_isNormalForm (before t : Text) {notes : List Note} (h : notes ≠ []) :
    IsNormalForm t (finish before (t, notes)).content := by
  have hcontent : (finish before (t, notes)).content = collapseBlankRuns t := by
    rw [finish, if_neg (by simpa using h)]
  rw [hcontent]
  exact isNormalForm_collapseBlankRuns t

/-- Three blank lines before a line that starts with spaces, and two at the end. -/
def spacedOut : Text := "a\n \n\t\n\n  b\n\n\n"

theorem spacedOut_isNormalForm : ([.markersRemoved 1] : List Note) ≠ [] ∧
    (finish "a" (spacedOut, [.markersRemoved 1])).content = "a\n\n  b\n\n" ∧
    IsNormalForm spacedOut (finish "a" (spacedOut, [.markersRemoved 1])).content :=
  ⟨by decide, by decide, finish_isNormalForm "a" spacedOut (by decide)⟩

end Rewrite

end Decouple
