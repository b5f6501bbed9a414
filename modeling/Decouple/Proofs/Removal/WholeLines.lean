import Decouple.Proofs.Paths
import Decouple.Proofs.Texts

/-!
# Whole lines

Behind whole lines a line starts, and a pattern that asks for the code point before a place cannot
tell the end of a line from the start of the text unless it asks for line feeds.  So it goes the same
paths behind any whole lines (`alike_behind`).
-/

namespace Decouple

open CodePoint (is)

namespace Text

variable {t u v : Text}

/-- Whether a text is empty or ends with a line feed. -/
def isWholeLines (t : Text) : Bool := t.getLast?.all (is '\n')

/-- The end of whole lines, if it is not empty, ends with a line feed. -/
theorem getLast?_of_isWholeLines (h : (t ++ u).isWholeLines = true) (hu : u ≠ []) :
    u.getLast? = some (CodePoint.ofChar '\n') := by
  rw [isWholeLines, List.getLast?_append, List.getLast?_eq_some_getLast hu, Option.some_or,
    Option.all_some, is, decide_eq_true_eq] at h
  rw [List.getLast?_eq_some_getLast hu, h]

theorem mem_of_isWholeLines (h : (t ++ u).isWholeLines = true) (hu : u ≠ []) :
    CodePoint.ofChar '\n' ∈ u :=
  List.mem_of_getLast? (getLast?_of_isWholeLines h hu)

theorem isWholeLines_append (t : Text) (h : u.getLast? = some (CodePoint.ofChar '\n')) :
    (t ++ u).isWholeLines = true := by
  rw [isWholeLines, List.getLast?_append, h, Option.some_or, Option.all_some, is, decide_eq_true_eq]

/-- The last code point of whole lines is a member of no class without line feeds. -/
theorem any_getLast?_of_isWholeLines {f : CodePoint → Bool} (h : t.isWholeLines = true)
    (hf : f '\n' = false) : t.getLast?.any f = false := by
  rw [isWholeLines] at h
  cases hlast : t.getLast? with
  | none => rfl
  | some c =>
    rw [hlast, Option.all_some, is, decide_eq_true_eq] at h
    rw [Option.any_some, h, hf]

/-- A text is parted in one way where the members of a class end. -/
theorem append_cons_inj {f : CodePoint → Bool} {a b : Text} {c d : CodePoint}
    (hu : ∀ e ∈ u, f e = true) (hv : ∀ e ∈ v, f e = true) (hc : f c = false) (hd : f d = false)
    (h : u ++ c :: a = v ++ d :: b) : u = v ∧ c = d ∧ a = b := by
  obtain ⟨huv, htail⟩ := append_inj_of_head? (a := c :: a) (b := d :: b) hu hv hc hd h
  exact ⟨huv, List.cons.inj htail⟩

end Text

namespace Place

variable {p p' : Place} {t u v w : Text} {asked : (CodePoint → Bool) → Prop}

/-- Behind whole lines a line starts. -/
theorem lineStart_of_takes (ht : t.isWholeLines = true) (hp : (start u).Takes t p) :
    p.before.all (is '\n') = true := by
  have hbefore : p.before = t.getLast? := by
    rw [hp.2.2]
    exact Option.or_none
  rw [hbefore]
  exact ht

/-- Where a line starts the text before is whole lines. -/
theorem isWholeLines_of_takes (hp : (start u).Takes t p) (h : p.before.all (is '\n') = true) :
    t.isWholeLines = true := by
  have hbefore : p.before = t.getLast? := by
    rw [hp.2.2]
    exact Option.or_none
  rwa [hbefore] at h

/-- A place that is not within the first part of a text is behind it. -/
theorem exists_behind (hp : (start (t ++ u)).Takes v p) (hle : t.length ≤ v.length) :
    ∃ w, v = t ++ w ∧ u = w ++ p.rest := by
  have hsame : t ++ u = v ++ p.rest := hp.1
  rcases List.append_eq_append_iff.1 hsame with ⟨w, rfl, hw⟩ | ⟨w, rfl, hw⟩
  · exact ⟨w, rfl, hw⟩
  · rw [List.length_append] at hle
    obtain rfl : w = [] := List.length_eq_zero_iff.1 (by omega)
    exact ⟨[], by simp, by simpa using hw.symm⟩

/-- A place that is not behind the first part of a text is within it. -/
theorem exists_within (hp : (start (t ++ u)).Takes v p) (hle : v.length ≤ t.length) :
    ∃ w, t = v ++ w ∧ p.rest = w ++ u := by
  have hsame : v ++ p.rest = t ++ u := hp.1.symm
  rcases List.append_eq_append_iff.1 hsame with ⟨w, rfl, hw⟩ | ⟨w, rfl, hw⟩
  · exact ⟨w, rfl, hw⟩
  · rw [List.length_append] at hle
    obtain rfl : w = [] := List.length_eq_zero_iff.1 (by omega)
    exact ⟨[], by simp, by simpa using hw.symm⟩

/-- Places that are as far behind two texts are alike for a pattern that asks for nothing which the
texts end with. -/
theorem alike_behind (ht : ∀ f, asked f → t.getLast?.any f = false)
    (hu : ∀ f, asked f → u.getLast?.any f = false) (hp : (start (t ++ (v ++ w))).Takes (t ++ v) p)
    (hp' : (start (u ++ (v ++ w))).Takes (u ++ v) p') :
    Alike asked [] [] (u.length - t.length) p p' := by
  have hrest : p.rest = w := by
    have h := hp.1
    rw [← List.append_assoc] at h
    exact (List.append_cancel_left h).symm
  have hrest' : p'.rest = w := by
    have h := hp'.1
    rw [← List.append_assoc] at h
    exact (List.append_cancel_left h).symm
  refine ⟨fun f hf => ?_, ⟨w, by rw [hrest, List.append_nil], by rw [hrest', List.append_nil]⟩, ?_⟩
  · rw [isAfter, isAfter, hp.2.2, hp'.2.2, List.getLast?_append, List.getLast?_append]
    cases v.getLast? with
    | some c => rfl
    | none =>
      simp only [start, Option.none_or, Option.or_none]
      rw [hu f hf, ht f hf]
  · have ho := hp.2.1
    have ho' := hp'.2.1
    simp only [start, List.length_append] at ho ho'
    omega

theorem seesAlike_nil (p : Place) : p.SeesAlike [] [] := ⟨p.rest, by simp, rfl⟩

end Place

end Decouple
