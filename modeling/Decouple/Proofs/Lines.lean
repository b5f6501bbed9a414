import Decouple.Text.Lines
import Mathlib.Data.List.Basic

/-!
# Cutting a text into lines again

A choice of the lines of a text, written one after the other, need not be cut into the same lines
again: a line that ends in a carriage return takes in an empty line that ends in a line feed once
what stood between them is gone.  The bodies that are not empty are the same
(`filledBodies_lines_whole`).
-/

namespace Decouple

open CodePoint (endsLine)

namespace Line

/-- A line as a text is cut into: nothing ends a line inside its body, and what follows the body
ends one line at most. -/
structure IsCut (l : Line) : Prop where
  body : ∀ c ∈ l.body, c.endsLine = false
  ending : l.ending = [] ∨ l.ending = Text.ofString "\r\n" ∨
    ∃ c, c.endsLine = true ∧ l.ending = [c]

/-- The bodies of lines that are not empty. -/
def filledBodies (ls : List Line) : List Text := (ls.map body).filter fun b => !b.isEmpty

@[simp] theorem filledBodies_nil : filledBodies [] = [] := rfl

theorem filledBodies_cons (l : Line) (ls : List Line) :
    filledBodies (l :: ls) = filledBodies [l] ++ filledBodies ls := by
  simp only [filledBodies, List.map_cons, List.map_nil, List.filter_cons, List.filter_nil]
  split <;> rfl

/-- An empty body does not count. -/
theorem filledBodies_cons_empty (ending : Text) (ls : List Line) :
    filledBodies (⟨[], ending⟩ :: ls) = filledBodies ls := rfl

end Line

namespace Text

open Line

variable {c : CodePoint} {l : Line} {ls : List Line} {t : Text}

/-! ## The first line -/

theorem lines_cons_of_endsLine (h : c.endsLine = true) (hr : c ≠ '\r') :
    lines (c :: t) = ⟨[], [c]⟩ :: lines t := by
  cases t with
  | nil => simp [lines, h]
  | cons d rest => simp [lines, h, hr]

theorem lines_cons_of_not_endsLine (h : c.endsLine = false) :
    lines (c :: t) = Line.extend c (lines t) := by
  have hr : c ≠ '\r' := by
    rintro rfl
    revert h
    decide
  cases t with
  | nil => simp [lines, h, Line.extend]
  | cons d rest => simp [lines, h, hr]

/-- A code point that ends a line ends an empty one; what follows has the same filled bodies, cut on
its own or after it. -/
theorem exists_lines_cons (h : c.endsLine = true) :
    ∃ e ls, lines (c :: t) = ⟨[], e⟩ :: ls ∧ filledBodies ls = filledBodies (lines t) := by
  by_cases hr : c = '\r'
  · subst hr
    match t with
    | [] => exact ⟨_, _, rfl, rfl⟩
    | d :: rest =>
      by_cases hd : d = '\n'
      · subst hd
        refine ⟨Text.ofString "\r\n", lines rest, rfl, ?_⟩
        rw [lines_cons_of_endsLine (by decide) (by decide), filledBodies_cons_empty]
      · exact ⟨['\r'], lines (d :: rest), by simp [lines, hd, h], rfl⟩
  · exact ⟨[c], lines t, lines_cons_of_endsLine h hr, rfl⟩

/-- A line with an ending is cut off with its body; what follows has the same filled bodies, cut on
its own or after the line. -/
theorem exists_lines_append (h : l.IsCut) (hne : l.ending ≠ []) (t : Text) :
    ∃ e ls, lines (l.whole ++ t) = ⟨l.body, e⟩ :: ls ∧
      filledBodies ls = filledBodies (lines t) := by
  obtain ⟨body, ending⟩ := l
  induction body with
  | nil =>
    rcases h.ending with he | he | ⟨c, hc, he⟩
    · exact absurd he hne
    · obtain rfl : ending = _ := he
      exact ⟨_, lines t, rfl, rfl⟩
    · obtain rfl : ending = _ := he
      exact exists_lines_cons hc
  | cons c body ih =>
    have hbody := List.forall_mem_cons.1 h.body
    obtain ⟨e, ls, hlines, hfilled⟩ := ih ⟨hbody.2, h.ending⟩ hne
    refine ⟨e, ls, ?_, hfilled⟩
    have hsplit : whole ⟨c :: body, ending⟩ ++ t = c :: (whole ⟨body, ending⟩ ++ t) := rfl
    rw [hsplit, lines_cons_of_not_endsLine hbody.1, hlines, Line.extend]

/-- A text in which nothing ends a line is one line. -/
theorem lines_of_not_endsLine {t : Text} (h : ∀ c ∈ t, c.endsLine = false) (hne : t ≠ []) :
    lines t = [⟨t, []⟩] := by
  induction t with
  | nil => exact absurd rfl hne
  | cons c t ih =>
    rw [List.forall_mem_cons] at h
    rw [lines_cons_of_not_endsLine h.1]
    by_cases ht : t = []
    · subst ht
      rfl
    · rw [ih h.2 ht, Line.extend]

/-! ## All lines -/

theorem isCut_extend (hc : c.endsLine = false) (h : ∀ l ∈ ls, l.IsCut) :
    ∀ l ∈ Line.extend c ls, l.IsCut := by
  cases ls with
  | nil => simpa [Line.extend] using ⟨by simpa using hc, .inl rfl⟩
  | cons l ls =>
    rw [List.forall_mem_cons] at h
    refine List.forall_mem_cons.2 ⟨⟨?_, h.1.ending⟩, h.2⟩
    exact List.forall_mem_cons.2 ⟨hc, h.1.body⟩

theorem isCut_of_mem_lines (t : Text) : ∀ l ∈ lines t, l.IsCut := by
  fun_induction lines t with
  | case1 => simp
  | case2 c h => simpa using ⟨by simp, .inr (.inr ⟨c, h, rfl⟩)⟩
  | case3 c h => simpa using ⟨by simpa using h, .inl rfl⟩
  | case4 c d rest h ih =>
    obtain ⟨rfl, rfl⟩ := h
    exact List.forall_mem_cons.2 ⟨⟨by simp, .inr (.inl rfl)⟩, ih⟩
  | case5 c d rest _ h ih =>
    exact List.forall_mem_cons.2 ⟨⟨by simp, .inr (.inr ⟨c, h, rfl⟩)⟩, ih⟩
  | case6 c d rest _ h ih => exact isCut_extend (by simpa using h) ih

/-- Lines of which only the last may have no ending. -/
def AreEnded (ls : List Line) : Prop := ls.Pairwise fun l _ => l.ending ≠ []

theorem AreEnded.cons_of_ne (hl : l.ending ≠ []) (h : AreEnded ls) : AreEnded (l :: ls) :=
  List.Pairwise.cons (fun _ _ => hl) h

theorem AreEnded.extend (h : AreEnded ls) : AreEnded (Line.extend c ls) := by
  cases ls with
  | nil => exact List.pairwise_singleton ..
  | cons l ls =>
    rw [AreEnded, List.pairwise_cons] at h
    exact List.Pairwise.cons h.1 h.2

theorem areEnded_lines (t : Text) : AreEnded (lines t) := by
  fun_induction lines t with
  | case1 => exact List.Pairwise.nil
  | case2 c h => exact List.pairwise_singleton ..
  | case3 c h => exact List.pairwise_singleton ..
  | case4 c d rest h ih => exact ih.cons_of_ne (by simp)
  | case5 c d rest _ h ih => exact ih.cons_of_ne (by simp)
  | case6 c d rest _ h ih => exact ih.extend

/-- Lines written one after the other are cut into lines with the same filled bodies. -/
theorem filledBodies_lines_whole (hcut : ∀ l ∈ ls, l.IsCut) (hended : AreEnded ls) :
    filledBodies (lines (ls.flatMap whole)) = filledBodies ls := by
  induction ls with
  | nil => rfl
  | cons l ls ih =>
    rw [List.forall_mem_cons] at hcut
    rw [AreEnded, List.pairwise_cons] at hended
    rw [List.flatMap_cons, filledBodies_cons l ls]
    by_cases hne : l.ending = []
    · -- Nothing follows a line without an ending.
      obtain rfl : ls = [] := List.eq_nil_iff_forall_not_mem.2 fun m hm => hended.1 m hm hne
      have hwhole : l.whole = l.body := by rw [whole, hne, List.append_nil]
      rw [List.flatMap_nil, List.append_nil, hwhole, filledBodies_nil, List.append_nil]
      by_cases hbody : l.body = []
      · rw [hbody]
        simp [filledBodies, lines, hbody]
      · rw [lines_of_not_endsLine hcut.1.body hbody]
        rfl
    · obtain ⟨e, ls', hlines, hfilled⟩ := exists_lines_append hcut.1 hne (ls.flatMap whole)
      rw [hlines, filledBodies_cons, hfilled, ih hcut.2 hended.2]
      rfl

/-- So are the lines of a text that a test keeps. -/
theorem filledBodies_lines_filter (keep : Line → Bool) (t : Text) :
    filledBodies (lines (((lines t).filter keep).flatMap whole)) =
      filledBodies ((lines t).filter keep) :=
  filledBodies_lines_whole (fun l hl => isCut_of_mem_lines t l (List.mem_of_mem_filter hl))
    ((areEnded_lines t).sublist List.filter_sublist)

end Text

end Decouple
