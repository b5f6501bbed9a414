import Decouple.Proofs.Removal.Deletion
import Decouple.Text.Parts

/-!
# What is cut out, and what then stands together

A removal cuts a text into pieces: code points that stay and stretches that go (`Removal.pieces`).
What stood together and is not touched stands together in what is left, and what stands together
there either did so before or stands across a *seam*, the place where a stretch has gone
(`exists_of_left`, `exists_of_text`).

A *joint* is a word with a code point of some kind behind it and nothing but white space between,
such as a name and the parenthesis that opens its arguments.  Whether a text has a joint does not
depend on how much white space there is, so runs of blank lines can be collapsed
(`stands_collapseBlankRuns`).
-/

namespace Decouple

open CodePoint (is isBlank)
open Pattern
open Text (ink)

/-- A piece of a text: a code point that stays, or a stretch that goes. -/
inductive Piece where
  | kept (c : CodePoint)
  | gone (t : Text)
  deriving DecidableEq

namespace Piece

variable {ps qs : List Piece} {a b t u z : Text} {c : CodePoint} {f : CodePoint → Bool}

/-- The text of a piece. -/
def text : Piece → Text
  | kept c => [c]
  | gone t => t

/-- What is left of a piece. -/
def left : Piece → Text
  | kept c => [c]
  | gone _ => []

/-- The text that pieces make. -/
def textOf (ps : List Piece) : Text := ps.flatMap text

/-- What is left of pieces. -/
def leftOf (ps : List Piece) : Text := ps.flatMap left

@[simp] theorem textOf_nil : textOf [] = [] := rfl

@[simp] theorem leftOf_nil : leftOf [] = [] := rfl

@[simp] theorem textOf_kept (c : CodePoint) (ps : List Piece) :
    textOf (kept c :: ps) = c :: textOf ps := rfl

@[simp] theorem leftOf_kept (c : CodePoint) (ps : List Piece) :
    leftOf (kept c :: ps) = c :: leftOf ps := rfl

@[simp] theorem textOf_gone (t : Text) (ps : List Piece) : textOf (gone t :: ps) = t ++ textOf ps :=
  rfl

@[simp] theorem leftOf_gone (t : Text) (ps : List Piece) : leftOf (gone t :: ps) = leftOf ps := rfl

@[simp] theorem textOf_append (ps qs : List Piece) : textOf (ps ++ qs) = textOf ps ++ textOf qs :=
  List.flatMap_append ..

@[simp] theorem leftOf_append (ps qs : List Piece) : leftOf (ps ++ qs) = leftOf ps ++ leftOf qs :=
  List.flatMap_append ..

@[simp] theorem textOf_map_kept (t : Text) : textOf (t.map kept) = t := by
  induction t with
  | nil => rfl
  | cons c t ih => rw [List.map_cons, textOf_kept, ih]

@[simp] theorem leftOf_map_kept (t : Text) : leftOf (t.map kept) = t := by
  induction t with
  | nil => rfl
  | cons c t ih => rw [List.map_cons, leftOf_kept, ih]

/-! ## Seams -/

/-- What is left before and behind each stretch that goes, where `before` is left of earlier pieces. -/
def seamsBehind (before : Text) : List Piece → List (Text × Text)
  | [] => []
  | kept c :: ps => seamsBehind (before ++ [c]) ps
  | gone _ :: ps => (before, leftOf ps) :: seamsBehind before ps

/-- What is left before and behind each stretch that goes. -/
def seams (ps : List Piece) : List (Text × Text) := seamsBehind [] ps

theorem mem_seamsBehind (ps qs : List Piece) (u before : Text) :
    (before ++ leftOf ps, leftOf qs) ∈ seamsBehind before (ps ++ gone u :: qs) := by
  induction ps generalizing before with
  | nil => simp [seamsBehind]
  | cons piece ps ih =>
    cases piece with
    | kept c =>
      have hmem := ih (before ++ [c])
      rwa [List.append_assoc, List.singleton_append] at hmem
    | gone t => exact List.mem_cons_of_mem _ (ih before)

/-- Where a stretch goes there is a seam. -/
theorem mem_seams (ps qs : List Piece) (u : Text) :
    (leftOf ps, leftOf qs) ∈ seams (ps ++ gone u :: qs) := mem_seamsBehind ps qs u []

theorem append_of_mem_seamsBehind {before : Text} (h : (a, b) ∈ seamsBehind before ps) :
    a ++ b = before ++ leftOf ps := by
  induction ps generalizing before with
  | nil => cases h
  | cons piece ps ih =>
    cases piece with
    | kept c => simpa using ih h
    | gone t =>
      rcases List.mem_cons.1 h with h | h
      · cases h
        rfl
      · exact ih h

/-- What is left stands on both sides of each seam. -/
theorem append_of_mem_seams (h : (a, b) ∈ seams ps) : a ++ b = leftOf ps :=
  append_of_mem_seamsBehind h

/-! ## What stands together -/

/-- A text that stands in what is left stood in the whole, or stands across a seam. -/
theorem exists_of_left (h : leftOf ps = a ++ (z ++ b)) :
    (∃ qs rs, ps = qs ++ (z.map kept ++ rs) ∧ leftOf qs = a ∧ leftOf rs = b) ∨
      ∃ qs u rs z₁ z₂, ps = qs ++ gone u :: rs ∧ z = z₁ ++ z₂ ∧ z₁ ≠ [] ∧ z₂ ≠ [] ∧
        leftOf qs = a ++ z₁ ∧ leftOf rs = z₂ ++ b := by
  induction ps generalizing a z with
  | nil =>
    obtain ⟨rfl, hnil⟩ := List.append_eq_nil_iff.1 h.symm
    obtain ⟨rfl, rfl⟩ := List.append_eq_nil_iff.1 hnil
    exact .inl ⟨[], [], rfl, rfl, rfl⟩
  | cons piece ps ih =>
    cases piece with
    | gone t =>
      rcases ih h with ⟨qs, rs, rfl, hq, hr⟩ | ⟨qs, u, rs, z₁, z₂, rfl, hz, hne₁, hne₂, hq, hr⟩
      · exact .inl ⟨gone t :: qs, rs, rfl, hq, hr⟩
      · exact .inr ⟨gone t :: qs, u, rs, z₁, z₂, rfl, hz, hne₁, hne₂, hq, hr⟩
    | kept c =>
      rw [leftOf_kept] at h
      cases a with
      | cons d a =>
        obtain ⟨rfl, hmore⟩ := List.cons.inj h
        rcases ih hmore with ⟨qs, rs, rfl, hq, hr⟩ | ⟨qs, u, rs, z₁, z₂, rfl, hz, hne₁, hne₂, hq, hr⟩
        · exact .inl ⟨kept c :: qs, rs, rfl, by simp [hq], hr⟩
        · exact .inr ⟨kept c :: qs, u, rs, z₁, z₂, rfl, hz, hne₁, hne₂, by simp [hq], hr⟩
      | nil =>
        cases z with
        | nil => exact .inl ⟨[], kept c :: ps, rfl, rfl, h⟩
        | cons d z =>
          obtain ⟨rfl, hmore⟩ := List.cons.inj h
          rcases ih (a := []) hmore with
            ⟨qs, rs, rfl, hq, hr⟩ | ⟨qs, u, rs, z₁, z₂, rfl, rfl, hne₁, hne₂, hq, hr⟩
          · cases qs with
            | nil => exact .inl ⟨[], rs, rfl, rfl, hr⟩
            | cons piece qs =>
              cases piece with
              | kept e => cases hq
              | gone t =>
                -- A stretch goes right behind the first code point.
                rw [leftOf_gone] at hq
                by_cases hz : z = []
                · subst hz
                  exact .inl ⟨[], gone t :: (qs ++ rs), by simp, rfl, by simp [hq, hr]⟩
                · exact .inr ⟨[kept c], t, qs ++ (z.map kept ++ rs), [c], z, by simp, rfl,
                    List.cons_ne_nil _ _, hz, rfl, by simp [hq, hr]⟩
          · exact .inr ⟨kept c :: qs, u, rs, c :: z₁, z₂, rfl, rfl, List.cons_ne_nil _ _, hne₂,
              by simp [hq], hr⟩

/-- A text that stands in the whole is left, or a stretch that goes reaches into it. -/
theorem exists_of_text (hgone : ∀ u, gone u ∈ ps → u ≠ []) (h : textOf ps = a ++ (z ++ b)) :
    (∃ qs rs, ps = qs ++ (z.map kept ++ rs) ∧ textOf qs = a ∧ textOf rs = b) ∨
      ∃ qs u rs, ps = qs ++ gone u :: rs ∧ (textOf qs).length < a.length + z.length ∧
        a.length < (textOf qs).length + u.length := by
  induction ps generalizing a z with
  | nil =>
    obtain ⟨rfl, hnil⟩ := List.append_eq_nil_iff.1 h.symm
    obtain ⟨rfl, rfl⟩ := List.append_eq_nil_iff.1 hnil
    exact .inl ⟨[], [], rfl, rfl, rfl⟩
  | cons piece ps ih =>
    have hgone' : ∀ u, gone u ∈ ps → u ≠ [] := fun u hu => hgone u (List.mem_cons_of_mem _ hu)
    cases piece with
    | gone t =>
      have hlong := List.length_pos_iff.2 (hgone t (List.mem_cons_self ..))
      rw [textOf_gone] at h
      by_cases hle : t.length ≤ a.length
      · obtain ⟨a, rfl⟩ := List.prefix_of_prefix_length_le ⟨_, h⟩ ⟨_, rfl⟩ hle
        rw [List.append_assoc] at h
        rcases ih hgone' (List.append_cancel_left h) with
          ⟨qs, rs, rfl, hq, hr⟩ | ⟨qs, u, rs, rfl, hbefore, hbehind⟩
        · exact .inl ⟨gone t :: qs, rs, rfl, by simp [hq], hr⟩
        · refine .inr ⟨gone t :: qs, u, rs, rfl, ?_, ?_⟩ <;>
            simp only [textOf_gone, List.length_append] <;> omega
      · by_cases hnil : a = [] ∧ z = []
        · obtain ⟨rfl, rfl⟩ := hnil
          exact .inl ⟨[], gone t :: ps, rfl, rfl, h⟩
        · refine .inr ⟨[], t, ps, rfl, ?_, ?_⟩
          · have hpos : a ++ z ≠ [] := fun hnone => hnil (List.append_eq_nil_iff.1 hnone)
            have hlength := List.length_pos_iff.2 hpos
            rwa [List.length_append] at hlength
          · simp only [textOf_nil, List.length_nil]
            omega
    | kept c =>
      rw [textOf_kept] at h
      cases a with
      | cons d a =>
        obtain ⟨rfl, hmore⟩ := List.cons.inj h
        rcases ih hgone' hmore with ⟨qs, rs, rfl, hq, hr⟩ | ⟨qs, u, rs, rfl, hbefore, hbehind⟩
        · exact .inl ⟨kept c :: qs, rs, rfl, by simp [hq], hr⟩
        · refine .inr ⟨kept c :: qs, u, rs, rfl, ?_, ?_⟩ <;>
            simp only [textOf_kept, List.length_cons] <;> omega
      | nil =>
        cases z with
        | nil => exact .inl ⟨[], kept c :: ps, rfl, rfl, h⟩
        | cons d z =>
          obtain ⟨rfl, hmore⟩ := List.cons.inj h
          rcases ih (a := []) hgone' hmore with ⟨qs, rs, rfl, hq, hr⟩ | ⟨qs, u, rs, rfl, hbefore, hbehind⟩
          · cases qs with
            | nil => exact .inl ⟨[], rs, rfl, rfl, hr⟩
            | cons piece qs =>
              cases piece with
              | kept e => cases hq
              | gone t =>
                have hnil := (List.append_eq_nil_iff.1 hq).1
                exact absurd hnil (hgone' t (List.mem_cons_self ..))
          · refine .inr ⟨kept c :: qs, u, rs, rfl, ?_, ?_⟩ <;>
              simp only [textOf_kept, List.length_cons, List.length_nil] at hbefore hbehind ⊢ <;> omega

/-- What is left of the first pieces ends as they did, unless they end at a seam. -/
theorem any_getLast?_left
    (hseam : (leftOf ps, leftOf qs) ∈ seams (ps ++ qs) → (leftOf ps).getLast?.any f = false)
    (h : (textOf ps).getLast?.any f = false) : (leftOf ps).getLast?.any f = false := by
  rcases List.eq_nil_or_concat ps with rfl | ⟨ps, piece, rfl⟩
  · rfl
  · rw [List.concat_eq_append] at hseam h ⊢
    cases piece with
    | kept c => simpa using h
    | gone u =>
      refine hseam ?_
      have hmem := mem_seams ps qs u
      simpa using hmem

/-- Pieces end as what is left of them, where each stretch that goes ends so. -/
theorem any_getLast?_text (hgone : ∀ u, gone u ∈ ps → u ≠ [] ∧ u.getLast?.any f = false)
    (h : (leftOf ps).getLast?.any f = false) : (textOf ps).getLast?.any f = false := by
  rcases List.eq_nil_or_concat ps with rfl | ⟨ps, piece, rfl⟩
  · rfl
  · rw [List.concat_eq_append] at hgone h ⊢
    cases piece with
    | kept c => simpa using h
    | gone u =>
      obtain ⟨hne, hlast⟩ := hgone u (by simp)
      rw [textOf_append, textOf_gone, textOf_nil, List.append_nil, List.getLast?_append,
        List.getLast?_eq_some_getLast hne, Option.some_or, ← List.getLast?_eq_some_getLast hne]
      exact hlast

end Piece

/-! ## Removals -/

/-- The matches of a pattern that are to go. -/
structure Removal where
  pattern : Pattern
  isDoomed : Match → Bool

namespace Removal

open Piece

variable {r : Removal} {rs : List Removal} {t u : Text} {ps qs : List Piece} {m : Match}

/-- The pieces that a stretch of a searched text is cut into. -/
def piecesOf (r : Removal) : Segment → List Piece
  | .kept c => [.kept c]
  | .found m => if r.isDoomed m then [.gone m.text] else m.text.map .kept

/-- The pieces that a removal cuts a text into. -/
def pieces (r : Removal) (t : Text) : List Piece := (r.pattern.segments t).flatMap r.piecesOf

/-- What a removal leaves. -/
def left (r : Removal) (t : Text) : Text := leftOf (r.pieces t)

/-- What removals leave, one after the other. -/
def leftBy (rs : List Removal) (t : Text) : Text := rs.foldl (fun t r => r.left t) t

/-- Whether pieces pass a test for each of some removals, one after the other. -/
def along (test : List Piece → Bool) : List Removal → Text → Bool
  | [], _ => true
  | r :: rs, t => test (r.pieces t) && along test rs (r.left t)

theorem textOf_piecesOf (r : Removal) (sg : Segment) : textOf (r.piecesOf sg) = sg.text := by
  cases sg with
  | kept c => rfl
  | found m =>
    rw [piecesOf]
    split
    · simp [Segment.text]
    · exact textOf_map_kept m.text

theorem textOf_flatMap (r : Removal) (sgs : List Segment) :
    textOf (sgs.flatMap r.piecesOf) = sgs.flatMap Segment.text := by
  rw [textOf, List.flatMap_assoc]
  exact List.flatMap_congr fun sg _ => textOf_piecesOf r sg

/-- The pieces of a text make it up. -/
theorem textOf_pieces (r : Removal) (t : Text) : textOf (r.pieces t) = t := by
  rw [pieces, textOf_flatMap, text_segments]

/-- An edit that deletes is a removal. -/
theorem left_eq_edit {ν : Type} {pat : Pattern} {choose : Match → Option (Text × ν)}
    (hdel : Deletes choose) (t : Text) :
    left ⟨pat, fun m => (choose m).isSome⟩ t = (pat.edit choose t).1 := by
  rw [left, leftOf, pieces, List.flatMap_assoc, edit]
  refine List.flatMap_congr fun sg _ => ?_
  cases sg with
  | kept c => rfl
  | found m =>
    rw [piecesOf, Segment.replaced]
    by_cases hm : (choose m).isSome = true
    · obtain ⟨replacement, hpick⟩ := Option.isSome_iff_exists.1 hm
      rw [if_pos hm, hpick, Option.map_some, Option.getD_some, hdel m replacement hpick]
      rfl
    · rw [if_neg hm, Option.not_isSome_iff_eq_none.1 hm]
      exact leftOf_map_kept m.text

/-- A stretch that goes comes from a doomed match. -/
theorem exists_of_flatMap {sgs : List Segment} (h : sgs.flatMap r.piecesOf = ps ++ gone u :: qs) :
    ∃ before m behind, sgs = before ++ .found m :: behind ∧ r.isDoomed m = true ∧ m.text = u ∧
      before.flatMap r.piecesOf = ps := by
  induction sgs generalizing ps with
  | nil => simp at h
  | cons sg sgs ih =>
    -- It lies in the first segment or in one of the others.
    have hlater {ps' : List Piece} (hps : ps = r.piecesOf sg ++ ps')
        (h : sgs.flatMap r.piecesOf = ps' ++ gone u :: qs) :
        ∃ before m behind, sg :: sgs = before ++ .found m :: behind ∧ r.isDoomed m = true ∧
          m.text = u ∧ before.flatMap r.piecesOf = ps := by
      obtain ⟨before, m, behind, rfl, hm, htext, rfl⟩ := ih h
      exact ⟨sg :: before, m, behind, rfl, hm, htext, by rw [List.flatMap_cons, hps]⟩
    rw [List.flatMap_cons] at h
    rcases List.append_eq_append_iff.1 h with ⟨ps', hps, h⟩ | ⟨qs', hsg, hqs⟩
    · exact hlater hps h
    · cases qs' with
      | nil => exact hlater (by rw [hsg, List.append_nil, List.append_nil]) (List.nil_append _ ▸ hqs.symm)
      | cons piece qs' =>
        obtain ⟨rfl, -⟩ := List.cons.inj hqs
        have hmem : gone u ∈ r.piecesOf sg := hsg ▸ List.mem_append_right _ (List.mem_cons_self ..)
        cases sg with
        | kept c => simp [piecesOf] at hmem
        | found m =>
          by_cases hm : r.isDoomed m = true
          · rw [piecesOf, if_pos hm] at hsg
            cases ps with
            | nil =>
              obtain ⟨hu, -⟩ := List.cons.inj hsg
              exact ⟨[], m, sgs, rfl, hm, Piece.gone.inj hu, rfl⟩
            | cons piece ps => simp at hsg
          · simp [piecesOf, hm] at hmem

theorem exists_takes_of_mem_findAll {pat : Pattern} (hm : m ∈ pat.findAll t) :
    ∃ a, (Place.start t).Takes a m.start := by
  obtain ⟨q, hq, hmatch, -⟩ := exists_place_of_mem_findAll hm
  rwa [← (reaches_of_matchAt? hmatch).1] at hq

/-- A match is found behind the text of the segments before it. -/
theorem takes_of_segments {pat : Pattern} {before behind : List Segment}
    (h : pat.segments t = before ++ .found m :: behind) : m ∈ pat.findAll t ∧
      (Place.start t).Takes (before.flatMap Segment.text) m.start := by
  have hmem : m ∈ pat.findAll t := by
    rw [mem_findAll, h]
    exact List.mem_append_right _ (List.mem_cons_self ..)
  refine ⟨hmem, ?_⟩
  obtain ⟨a, ha⟩ := exists_takes_of_mem_findAll hmem
  have hwhole := text_segments pat t
  rw [h, List.flatMap_append] at hwhole
  have hlength : (before.flatMap Segment.text).length = a.length := by
    have hoffset := offset_of_segmentsFrom h
    have hlong := ha.2.1
    simp only [Match.offset, Place.start] at hoffset hlong
    omega
  rwa [(List.append_inj (hwhole.trans ha.1) hlength).1]

/-- A stretch that goes is a doomed match, found where it stands. -/
theorem exists_of_pieces (h : r.pieces t = ps ++ gone u :: qs) : ∃ m ∈ r.pattern.findAll t,
    r.isDoomed m = true ∧ m.text = u ∧ (Place.start t).Takes (textOf ps) m.start := by
  obtain ⟨before, m, behind, hsgs, hm, htext, rfl⟩ := exists_of_flatMap h
  obtain ⟨hmem, htaken⟩ := takes_of_segments hsgs
  exact ⟨m, hmem, hm, htext, by rwa [textOf_flatMap]⟩

theorem length_text_of_mem {pat : Pattern} (hm : m ∈ pat.findAll t) :
    m.stop.offset = m.offset + m.text.length := by
  obtain ⟨-, -, -, htaken, -⟩ := exists_append_of_mem_findAll hm
  exact htaken.2.1

/-- A match takes something, so a stretch that goes is not empty. -/
theorem ne_nil_of_gone_mem (h : gone u ∈ r.pieces t) : u ≠ [] := by
  obtain ⟨ps, qs, hpieces⟩ := List.append_of_mem h
  obtain ⟨m, hm, -, rfl, -⟩ := exists_of_pieces hpieces
  intro hnil
  have hlong := offset_lt_of_mem_findAll hm
  rw [length_text_of_mem hm, hnil, List.length_nil] at hlong
  omega

/-- Where every match goes, the pattern takes nothing from before a code point that stays. -/
theorem le_of_kept (hall : ∀ m, r.isDoomed m = true) {c : CodePoint} {q : Place}
    (h : r.pieces t = ps ++ kept c :: qs) (hq : (Place.start t).Takes (textOf ps) q)
    (hm : r.pattern.matchAt? q = some m) : m.stop.offset ≤ q.offset := by
  by_contra hlt
  obtain ⟨m', hm', hle, hlt'⟩ := exists_around_of_matchAt? ⟨_, hq⟩ hm (Nat.lt_of_not_le hlt)
  obtain ⟨before, behind, hsgs⟩ := List.append_of_mem (mem_findAll.1 hm')
  have hpieces : r.pieces t =
      before.flatMap r.piecesOf ++ gone m'.text :: behind.flatMap r.piecesOf := by
    rw [pieces, hsgs, List.flatMap_append, List.flatMap_cons, piecesOf, if_pos (hall m'),
      List.singleton_append]
  have hoffset : m'.offset = (textOf (before.flatMap r.piecesOf)).length := by
    rw [textOf_flatMap]
    simpa [Place.start] using offset_of_segmentsFrom hsgs
  have hplace : q.offset = (textOf ps).length := by simpa [Place.start] using hq.2.1
  rw [length_text_of_mem hm'] at hlt'
  -- The code point that stays lies within the stretch of the match.
  rcases List.append_eq_append_iff.1 (h.symm.trans hpieces) with ⟨ps', hps, hqs⟩ | ⟨ps', hps, hqs⟩
  · cases ps' with
    | nil => simp at hqs
    | cons piece ps' =>
      obtain ⟨rfl, -⟩ := List.cons.inj hqs
      have hlength := congrArg (fun ps => (textOf ps).length) hps
      simp only [textOf_append, textOf_kept, List.length_append, List.length_cons] at hlength
      omega
  · cases ps' with
    | nil => simp at hqs
    | cons piece ps' =>
      obtain ⟨rfl, -⟩ := List.cons.inj hqs
      have hlength := congrArg (fun ps => (textOf ps).length) hps
      simp only [textOf_append, textOf_gone, List.length_append] at hlength
      omega

end Removal

/-! ## Joints -/

/-- A word with a code point of some kind behind it, white space between. -/
structure Joint where
  /-- What does not stand right before the word. -/
  notAfter : CodePoint → Bool
  word : Text
  /-- What stands behind the word. -/
  ends : CodePoint → Bool
  word_ne_nil : word ≠ []
  word_ink : ∀ c ∈ word, isBlank c = false
  ends_ink : ∀ c, ends c = true → isBlank c = false
  notAfter_ink : ∀ c, notAfter c = true → isBlank c = false

namespace Joint

variable {j : Joint} {t u z : Text} {c : CodePoint}

/-- The pattern of a joint. -/
def pattern (j : Joint) : Pattern :=
  sequence [.notAfter j.notAfter, literal j.word, blanks, one j.ends]

/-- Whether a text is the joint. -/
def Spells (j : Joint) (z : Text) : Prop :=
  ∃ between c, z = j.word ++ (between ++ [c]) ∧ (∀ d ∈ between, isBlank d = true) ∧ j.ends c = true

/-- Whether the joint stands somewhere in a text. -/
def Stands (j : Joint) (t : Text) : Prop :=
  ∃ a z b, t = a ++ (z ++ b) ∧ j.Spells z ∧ a.getLast?.any j.notAfter = false

theorem Spells.ne_nil (h : j.Spells z) : z ≠ [] := by
  obtain ⟨between, c, rfl, -, -⟩ := h
  simp

/-- A match of the pattern is the joint. -/
theorem spells_of_mem_findAll {m : Match} (hm : m ∈ j.pattern.findAll t) : j.Spells m.text ∧
    m.start.isAfter j.notAfter = false := by
  obtain ⟨-, -, -, htaken, hway⟩ := exists_append_of_mem_findAll hm
  obtain ⟨p₁, ps₁, hafter, h⟩ := way_seq.1 hway
  obtain ⟨p₂, ps₂, hword, h⟩ := way_seq.1 h
  obtain ⟨p₃, ps₃, hblank, hend⟩ := way_seq.1 h
  cases hafter with
  | notAfter hafter =>
    obtain ⟨-, hword⟩ := way_literal hword
    obtain ⟨-, between, hbetween, hall, -⟩ := way_many hblank
    obtain ⟨-, c, hc, hend⟩ := way_one hend
    refine ⟨⟨between, c, ?_, hall, hc⟩, hafter⟩
    rw [← htaken.textTo_eq]
    exact (hword.append (hbetween.append hend)).textTo_eq

/-- Where the joint stands the pattern takes something. -/
theorem exists_matchAt? {p q : Place} (hz : j.Spells z) (hp : p.isAfter j.notAfter = false)
    (htaken : p.Takes z q) : ∃ m, j.pattern.matchAt? p = some m ∧ p.offset < m.stop.offset := by
  obtain ⟨between, c, rfl, hblank, hc⟩ := hz
  obtain ⟨p₁, hword, htaken⟩ := htaken.split
  obtain ⟨p₂, hbetween, hend⟩ := htaken.split
  have hstop : p₂.isBefore isBlank = false := by
    rw [Place.isBefore, hend.1]
    exact j.ends_ink c hc
  have hpath : Path j.pattern p [] q [] :=
    .seq (.notAfter hp) (.seq (path_literal hword) (.seq
      (.many hbetween hblank (Nat.zero_le _) fun _ => hstop) (path_one_of_takes hend hc)))
  obtain ⟨m, hm⟩ := Pattern.exists_matchAt? hpath
  refine ⟨m, hm, ?_⟩
  -- Any match takes the word, which is not empty.
  obtain ⟨p₁', ps₁, hafter, hway⟩ := way_seq.1 (way_of_matchAt? hm).2
  obtain ⟨p₂', ps₂, hword', hrest⟩ := way_seq.1 hway
  cases hafter with
  | notAfter _ =>
    have hlong := (way_literal hword').2.2.1
    have hmore := hrest.reaches.length_textTo
    have hpos := List.length_pos_iff.2 j.word_ne_nil
    omega

/-- A search finds the joint exactly if it stands somewhere. -/
theorem findAll_eq_nil_iff : j.pattern.findAll t = [] ↔ ¬j.Stands t := by
  constructor
  · rintro hnone ⟨a, z, b, rfl, hz, ha⟩
    obtain ⟨p, hp, hrest⟩ := Place.exists_takes (p := Place.start (a ++ (z ++ b))) rfl
    obtain ⟨q, hq, -⟩ := Place.exists_takes hrest
    have hafter : p.isAfter j.notAfter = false := by
      rw [Place.isAfter, hp.2.2]
      simpa [Place.start] using ha
    obtain ⟨m, hm, hlt⟩ := exists_matchAt? hz hafter hq
    exact absurd (le_of_findAll_eq_nil hnone ⟨a, hp⟩ hm) (Nat.not_le.2 hlt)
  · intro hnone
    refine List.eq_nil_iff_forall_not_mem.2 fun m hm => hnone ?_
    obtain ⟨a, ha⟩ := Removal.exists_takes_of_mem_findAll hm
    obtain ⟨-, -, -, htaken, -⟩ := exists_append_of_mem_findAll hm
    obtain ⟨hz, hafter⟩ := spells_of_mem_findAll hm
    refine ⟨a, m.text, m.stop.rest, by rw [← htaken.1]; exact ha.1, hz, ?_⟩
    rw [Place.isAfter, ha.2.2] at hafter
    simpa [Place.start] using hafter

/-! ## Joints at seams -/

/-- The joint stands across the place between two texts. -/
def Crosses (j : Joint) (a b : Text) : Prop :=
  ∃ x z₁ z₂ y, a = x ++ z₁ ∧ b = z₂ ++ y ∧ z₁ ≠ [] ∧ z₂ ≠ [] ∧ j.Spells (z₁ ++ z₂)

/-- Whether a text starts, after white space, with what ends the joint. -/
def endsIn (j : Joint) (t : Text) : Bool := (ink t).head?.any j.ends

/-- Whether the joint stands across the place between two texts: the word before it, or parted by it. -/
def meets (j : Joint) (a b : Text) : Bool :=
  (Text.endsWith (Text.trimEndOf isBlank a) j.word && j.endsIn b) ||
    (List.range (j.word.length - 1)).any fun n =>
      Text.endsWith a (j.word.take (n + 1)) && Text.startsWith b (j.word.drop (n + 1)) &&
        j.endsIn (b.drop (j.word.drop (n + 1)).length)

theorem endsIn_iff : j.endsIn t = true ↔
    ∃ between c rest, t = between ++ c :: rest ∧ (∀ d ∈ between, isBlank d = true) ∧
      j.ends c = true := by
  rw [endsIn, ink, List.head?_filter, Option.any_eq_true]
  constructor
  · rintro ⟨c, hfind, hc⟩
    obtain ⟨-, between, rest, rfl, hblank⟩ := List.find?_eq_some_iff_append.1 hfind
    exact ⟨between, c, rest, rfl, fun d hd => by simpa using hblank d hd, hc⟩
  · rintro ⟨between, c, rest, rfl, hblank, hc⟩
    refine ⟨c, List.find?_eq_some_iff_append.2 ⟨by simp [j.ends_ink c hc], between, rest, rfl, ?_⟩, hc⟩
    exact fun d hd => by simp [hblank d hd]

/-- The word is the end of a text without the white space at its end, whatever the white space. -/
theorem endsWith_trimEndOf {a : Text} : Text.endsWith (Text.trimEndOf isBlank a) j.word = true ↔
    ∃ x between, a = x ++ (j.word ++ between) ∧ ∀ d ∈ between, isBlank d = true := by
  rw [Text.endsWith, List.isSuffixOf_iff_suffix]
  constructor
  · rintro ⟨x, hx⟩
    refine ⟨x, (a.reverse.takeWhile isBlank).reverse, ?_, fun d hd => ?_⟩
    · rw [← List.append_assoc, hx, Text.trimEndOf, ← List.reverse_append,
        List.takeWhile_append_dropWhile, List.reverse_reverse]
    · exact List.all_eq_true.1 List.all_takeWhile d (List.mem_reverse.1 hd)
  · rintro ⟨x, between, rfl, hblank⟩
    obtain ⟨w, c, hword⟩ := (List.eq_nil_or_concat j.word).resolve_left j.word_ne_nil
    rw [List.concat_eq_append] at hword
    have hink := j.word_ink c (by simp [hword])
    refine ⟨x, ?_⟩
    rw [Text.trimEndOf, hword]
    simp only [List.reverse_append, List.append_assoc]
    rw [List.dropWhile_append_of_pos fun d hd => hblank d (List.mem_reverse.1 hd)]
    simp [hink]

theorem meets_iff {a b : Text} : j.meets a b = true ↔ j.Crosses a b := by
  rw [meets, Bool.or_eq_true, Bool.and_eq_true, endsWith_trimEndOf, endsIn_iff, List.any_eq_true]
  simp only [Bool.and_eq_true, endsIn_iff, Text.endsWith, Text.startsWith,
    List.isSuffixOf_iff_suffix, List.isPrefixOf_iff_prefix, List.mem_range]
  constructor
  · rintro (⟨⟨x, before, rfl, hbefore⟩, behind, c, y, rfl, hbehind, hc⟩ |
      ⟨n, hn, ⟨⟨x, rfl⟩, ⟨v, rfl⟩⟩, between, c, y, hv, hblank, hc⟩)
    · refine ⟨x, j.word ++ before, behind ++ [c], y, rfl, by simp, ?_, by simp,
        before ++ behind, c, by simp, ?_, hc⟩
      · exact fun hnil => j.word_ne_nil (List.append_eq_nil_iff.1 hnil).1
      · exact List.forall_mem_append.2 ⟨hbefore, hbehind⟩
    · rw [List.drop_left] at hv
      refine ⟨x, j.word.take (n + 1), j.word.drop (n + 1) ++ (between ++ [c]), y, rfl, by simp [hv],
        ?_, by simp, between, c, ?_, hblank, hc⟩
      · refine List.ne_nil_of_length_pos ?_
        rw [List.length_take]
        omega
      · rw [← List.append_assoc, List.take_append_drop]
  · rintro ⟨x, z₁, z₂, y, rfl, rfl, hne₁, hne₂, between, c, hz, hblank, hc⟩
    rcases List.append_eq_append_iff.1 hz with ⟨w, hw, hz₂⟩ | ⟨before, rfl, hz₂⟩
    · by_cases hnil : w = []
      · -- The seam is right behind the word.
        subst hnil
        refine .inl ⟨⟨x, [], by simpa using hw.symm, List.forall_mem_nil _⟩, between, c, y, ?_,
          hblank, hc⟩
        rw [hz₂]
        simp
      · have hlong₁ := List.length_pos_iff.2 hne₁
        have hlong₂ := List.length_pos_iff.2 hnil
        have hlength : j.word.length = z₁.length + w.length := by rw [hw, List.length_append]
        have hsplit : z₁.length - 1 + 1 = z₁.length := by omega
        refine .inr ⟨z₁.length - 1, by omega, ⟨⟨x, ?_⟩, ⟨between ++ [c] ++ y, ?_⟩⟩,
          between, c, y, ?_, hblank, hc⟩
        · rw [hsplit, hw, List.take_left]
        · rw [hsplit, hw, List.drop_left, hz₂]
          simp
        · rw [hsplit, hw, List.drop_left, hz₂, List.append_assoc, List.drop_left]
          simp
    · -- The seam is in the white space or right before the end.
      obtain ⟨behind, d, rfl⟩ := (List.eq_nil_or_concat z₂).resolve_left hne₂
      rw [List.concat_eq_append, ← List.append_assoc] at hz₂
      obtain ⟨rfl, hd⟩ := List.append_inj' hz₂ rfl
      obtain ⟨rfl, -⟩ := List.cons.inj hd
      rw [List.forall_mem_append] at hblank
      exact .inl ⟨⟨x, before, rfl, hblank.1⟩, behind, c, y, by simp, hblank.2, hc⟩

/-- Whether the joint stands across no seam. -/
def isClear (j : Joint) (ps : List Piece) : Bool :=
  (Piece.seams ps).all fun (a, b) => !j.meets a b

/-- Whether no seam brings the word of the joint behind what does not stand there. -/
def isApart (j : Joint) (ps : List Piece) : Bool :=
  (Piece.seams ps).all fun (a, b) => !(a.getLast?.any j.notAfter && Text.startsWith b j.word)

theorem isClear_iff {ps : List Piece} : j.isClear ps = true ↔
    ∀ a b, (a, b) ∈ Piece.seams ps → j.meets a b = false := by
  simp only [isClear, List.all_eq_true, Prod.forall, Bool.not_eq_true']

theorem isApart_iff {ps : List Piece} : j.isApart ps = true ↔ ∀ a b, (a, b) ∈ Piece.seams ps →
    Text.startsWith b j.word = true → a.getLast?.any j.notAfter = false := by
  simp only [isApart, List.all_eq_true, Prod.forall, Bool.not_eq_true', Bool.and_eq_false_imp]
  refine forall₃_congr fun a b _ => ?_
  cases a.getLast?.any j.notAfter <;> simp

variable {ps qs rs : List Piece}

/-- Where nothing stands across a seam, the joint stands in what is left only where it stood. -/
theorem exists_kept_of_left (hclear : j.isClear ps = true) (h : j.Stands (Piece.leftOf ps)) :
    ∃ qs z rs, ps = qs ++ (z.map .kept ++ rs) ∧ j.Spells z ∧
      (Piece.leftOf qs).getLast?.any j.notAfter = false := by
  obtain ⟨a, z, b, hleft, hz, ha⟩ := h
  rcases Piece.exists_of_left hleft with
    ⟨qs, rs, hps, rfl, -⟩ | ⟨qs, u, rs, z₁, z₂, rfl, rfl, hne₁, hne₂, hq, hr⟩
  · exact ⟨qs, z, rs, hps, hz, ha⟩
  · have hmeets := isClear_iff.1 hclear _ _ (Piece.mem_seams qs rs u)
    have hcrosses : j.Crosses (Piece.leftOf qs) (Piece.leftOf rs) :=
      ⟨a, z₁, z₂, b, hq, hr, hne₁, hne₂, hz⟩
    rw [meets_iff.2 hcrosses] at hmeets
    cases hmeets

/-- A joint that is not touched stands in what is left, if no seam hides it. -/
theorem stands_left_of_kept (hapart : j.isApart (qs ++ (z.map .kept ++ rs)) = true)
    (hz : j.Spells z) (hq : (Piece.textOf qs).getLast?.any j.notAfter = false) :
    j.Stands (Piece.leftOf (qs ++ (z.map .kept ++ rs))) := by
  have hseam (hmem : (Piece.leftOf qs, Piece.leftOf (z.map Piece.kept ++ rs)) ∈
      Piece.seams (qs ++ (z.map Piece.kept ++ rs))) :
      (Piece.leftOf qs).getLast?.any j.notAfter = false := by
    refine isApart_iff.1 hapart _ _ hmem ?_
    obtain ⟨between, c, rfl, -, -⟩ := hz
    rw [Text.startsWith, List.isPrefixOf_iff_prefix]
    exact ⟨between ++ [c] ++ Piece.leftOf rs, by simp⟩
  exact ⟨Piece.leftOf qs, z, Piece.leftOf rs, by simp, hz, Piece.any_getLast?_left hseam hq⟩

/-- What is left holds a joint across a seam, if that may stand behind anything. -/
theorem stands_left_of_meets (hany : ∀ c, j.notAfter c = false) {a b : Text}
    (hmem : (a, b) ∈ Piece.seams ps) (h : j.meets a b = true) : j.Stands (Piece.leftOf ps) := by
  obtain ⟨x, z₁, z₂, y, rfl, rfl, -, -, hz⟩ := meets_iff.1 h
  refine ⟨x, z₁ ++ z₂, y, ?_, hz, ?_⟩
  · rw [← Piece.append_of_mem_seams hmem]
    simp
  · cases x.getLast? with
    | none => rfl
    | some c => exact hany c

/-! ## White space -/

/-- Texts that differ only in the white space where both have some. -/
inductive Reblanked : Text → Text → Prop where
  | nil : Reblanked [] []
  | cons (c : CodePoint) {t u : Text} (h : Reblanked t u) : Reblanked (c :: t) (c :: u)
  | blanks {x y t u : Text} (hx : x ≠ []) (hy : y ≠ []) (hallX : ∀ c ∈ x, isBlank c = true)
      (hallY : ∀ c ∈ y, isBlank c = true) (h : Reblanked t u) : Reblanked (x ++ t) (y ++ u)

namespace Reblanked

theorem symm (h : Reblanked t u) : Reblanked u t := by
  induction h with
  | nil => exact .nil
  | cons c _ ih => exact .cons c ih
  | blanks hx hy hallX hallY _ ih => exact .blanks hy hx hallY hallX ih

theorem eq_nil (h : Reblanked [] u) : u = [] := by
  generalize ht : ([] : Text) = t at h
  cases h with
  | nil => rfl
  | cons c h => cases ht
  | blanks hx hy hallX hallY h => exact absurd (List.append_eq_nil_iff.1 ht.symm).1 hx

theorem all_isBlank (h : Reblanked t u) (ht : ∀ c ∈ t, isBlank c = true) :
    ∀ c ∈ u, isBlank c = true := by
  induction h with
  | nil => exact ht
  | cons c _ ih =>
    rw [List.forall_mem_cons] at ht ⊢
    exact ⟨ht.1, ih ht.2⟩
  | blanks hx hy hallX hallY _ ih =>
    rw [List.forall_mem_append] at ht ⊢
    exact ⟨hallY, ih ht.2⟩

/-- What is no white space stands in both texts, and the texts before and behind it are alike. -/
theorem exists_append {a b : Text} (hc : isBlank c = false) (h : Reblanked (a ++ c :: b) u) :
    ∃ a' b', u = a' ++ c :: b' ∧ Reblanked a a' ∧ Reblanked b b' := by
  generalize ht : a ++ c :: b = t at h
  induction h generalizing a with
  | nil => simp at ht
  | @cons d t u h ih =>
    cases a with
    | nil =>
      obtain ⟨rfl, rfl⟩ := List.cons.inj ht
      exact ⟨[], u, rfl, .nil, h⟩
    | cons e a =>
      obtain ⟨rfl, hmore⟩ := List.cons.inj ht
      obtain ⟨a', b', rfl, ha, hb⟩ := ih hmore
      exact ⟨e :: a', b', rfl, .cons e ha, hb⟩
  | @blanks x y t u hx hy hallX hallY h ih =>
    rcases List.append_eq_append_iff.1 ht with ⟨w, rfl, hw⟩ | ⟨w, rfl, hw⟩
    · cases w with
      | nil =>
        obtain ⟨a', b', rfl, ha, hb⟩ := ih (a := []) hw
        refine ⟨y ++ a', b', by simp, ?_, hb⟩
        simpa using Reblanked.blanks hx hy hallX hallY ha
      | cons d w =>
        obtain ⟨rfl, -⟩ := List.cons.inj hw
        rw [hallX c (by simp)] at hc
        cases hc
    · obtain ⟨a', b', rfl, ha, hb⟩ := ih hw.symm
      exact ⟨y ++ a', b', by simp, .blanks hx hy hallX hallY ha, hb⟩

/-- A word at the start of one text stands at the start of the other. -/
theorem exists_word {w s : Text} (hw : ∀ c ∈ w, isBlank c = false) (h : Reblanked (w ++ s) u) :
    ∃ s', u = w ++ s' ∧ Reblanked s s' := by
  induction w generalizing u with
  | nil => exact ⟨u, rfl, h⟩
  | cons c w ih =>
    rw [List.forall_mem_cons] at hw
    obtain ⟨a', b', rfl, ha, hb⟩ := exists_append (a := []) hw.1 h
    obtain ⟨s', rfl, hs⟩ := ih hw.2 hb
    exact ⟨s', by rw [ha.eq_nil]; rfl, hs⟩

/-- Texts that are alike end alike, as far as white space does not count. -/
theorem any_getLast? {f : CodePoint → Bool} (hf : ∀ c, f c = true → isBlank c = false)
    (h : Reblanked t u) : u.getLast?.any f = t.getLast?.any f := by
  have hblank {x : Text} (hall : ∀ c ∈ x, isBlank c = true) : x.getLast?.any f = false := by
    cases hx : x.getLast? with
    | none => rfl
    | some c =>
      refine Bool.eq_false_iff.2 fun hc => ?_
      have hno := hf c hc
      rw [hall c (List.mem_of_getLast? hx)] at hno
      cases hno
  induction h with
  | nil => rfl
  | @cons c t u h ih =>
    rw [List.getLast?_cons, List.getLast?_cons]
    cases ht : t.getLast? with
    | none =>
      rw [List.getLast?_eq_none_iff.1 ht] at h
      rw [h.eq_nil]
      rfl
    | some d =>
      cases hu : u.getLast? with
      | none =>
        rw [List.getLast?_eq_none_iff.1 hu] at h
        rw [h.symm.eq_nil] at ht
        cases ht
      | some e =>
        rw [ht, hu] at ih
        exact ih
  | @blanks x y t u hx hy hallX hallY h ih =>
    rw [List.getLast?_append, List.getLast?_append]
    cases ht : t.getLast? with
    | none =>
      rw [List.getLast?_eq_none_iff.1 ht] at h
      rw [h.eq_nil]
      simpa using (hblank hallY).trans (hblank hallX).symm
    | some d =>
      cases hu : u.getLast? with
      | none =>
        rw [List.getLast?_eq_none_iff.1 hu] at h
        rw [h.symm.eq_nil] at ht
        cases ht
      | some e =>
        rw [ht, hu] at ih
        exact ih

end Reblanked

/-- Where a joint stands does not depend on how much white space there is. -/
theorem Stands.reblanked (h : j.Stands t) (hu : Reblanked t u) : j.Stands u := by
  obtain ⟨a, z, b, rfl, ⟨between, c, rfl, hblank, hc⟩, ha⟩ := h
  obtain ⟨d, w, hword⟩ := List.exists_cons_of_ne_nil j.word_ne_nil
  have hink := j.word_ink
  rw [hword, List.forall_mem_cons] at hink
  rw [hword, List.cons_append, List.cons_append] at hu
  obtain ⟨a', u', rfl, hbefore, hu⟩ := Reblanked.exists_append hink.1 hu
  rw [List.append_assoc, List.append_assoc] at hu
  obtain ⟨s, rfl, hs⟩ := Reblanked.exists_word hink.2 hu
  obtain ⟨between', b', rfl, hbetween, -⟩ := Reblanked.exists_append (j.ends_ink c hc) hs
  refine ⟨a', j.word ++ (between' ++ [c]), b', by simp [hword],
    ⟨between', c, rfl, hbetween.all_isBlank hblank, hc⟩, ?_⟩
  rwa [hbefore.any_getLast? j.notAfter_ink]

theorem stands_congr (h : Reblanked t u) : j.Stands t ↔ j.Stands u :=
  ⟨fun hj => hj.reblanked h, fun hj => hj.reblanked h.symm⟩

end Joint

namespace Rewrite

open Joint

theorem Collapses.reblanked {t u : Text} (h : Collapses t u) : Reblanked t u := by
  induction h with
  | nil => exact .nil
  | keep _ _ ih => exact .cons _ ih
  | @run bs t u hblank _ _ _ ih =>
    have hwritten : ∀ c ∈ CodePoint.ofChar '\n' :: Text.written bs, isBlank c = true :=
      List.forall_mem_cons.2 ⟨by decide, fun c hc => Text.isBlank_of_mem_written hblank hc⟩
    exact Reblanked.blanks (y := "\n\n") (List.cons_ne_nil _ _) (by decide) hwritten (by decide) ih

/-- To collapse runs of blank lines changes white space where there is some. -/
theorem reblanked_collapseBlankRuns (t : Text) : Reblanked t (collapseBlankRuns t) :=
  (collapses_collapseBlankRuns t).reblanked

/-- To collapse runs of blank lines brings no joint together and takes none apart. -/
theorem stands_collapseBlankRuns {j : Joint} {t : Text} :
    j.Stands (collapseBlankRuns t) ↔ j.Stands t :=
  (stands_congr (reblanked_collapseBlankRuns t)).symm

end Rewrite

end Decouple
