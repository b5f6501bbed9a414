import Decouple.Proofs.Removal.Plugins

/-!
# Operators that dangle

An operator *dangles* if nothing stands behind it that it could apply to (`danglingOperator`).  What
goes from a bundler's configuration starts with a name and ends with a sign, so where it reaches
into an operator that dangles it holds all of it (`stands_of_isCut`).  So the removals of a rewrite
neither make nor break such an operator but at their seams and within what goes, and a rewrite keeps
a configuration free of them exactly if none stands across a seam (`bundlerConfig_operators`).
-/

namespace Decouple

open CodePoint (is isIn isBlank)
open Pattern Signature
open Piece (textOf leftOf)

namespace Rewrite

variable {s : Settings} {t u : Text} {r : Removal} {rs : List Removal}

/-! ## An operator that a removal reaches into -/

/-- An operator with nothing behind it that it could apply to. -/
def danglingOperator : Joint where
  notAfter := fun _ => false
  word := "&&"
  ends := isIn ",])\x7d"
  word_ne_nil := by decide
  word_ink := by decide
  ends_ink c hc := by
    have hall : ∀ d ∈ (",])\x7d" : Text), isBlank d = false := by decide
    exact hall c (by simpa [isIn] using hc)
  notAfter_ink := by simp

theorem stands_danglingOperator {a z b : Text} (hz : danglingOperator.Spells z) :
    danglingOperator.Stands (a ++ (z ++ b)) := by
  refine ⟨a, z, b, rfl, hz, ?_⟩
  cases a.getLast? <;> rfl

theorem isNotOperator_of_joinsName {d : CodePoint} (h : joinsName d = true) :
    d ≠ '&' ∧ isIn ",])\x7d" d = false := by
  constructor
  · rintro rfl
    revert h
    decide
  · have hall : ∀ c ∈ (",])\x7d" : Text), joinsName c = false := by decide
    refine Bool.eq_false_iff.2 fun hin => ?_
    rw [hall d (by simpa [isIn] using hin)] at h
    cases h

theorem isNotOperator_of_isIn {e : CodePoint} (h : isIn ",;)'\"" e = true) :
    e ≠ '&' ∧ isBlank e = false := by
  have hall : ∀ c ∈ (",;)'\"" : Text), c ≠ '&' ∧ isBlank c = false := by decide
  exact hall e (by simpa [isIn] using h)

/-- What is neither white space nor an ampersand stands nowhere before the end of an operator. -/
theorem not_mem_operator {between : Text} {e : CodePoint} (hblank : ∀ c ∈ between, isBlank c = true)
    (hne : e ≠ '&') (hink : isBlank e = false) : e ∉ ("&&" : Text) ++ between := by
  intro hmem
  rcases List.mem_append.1 hmem with hmem | hmem
  · exact hne (by simpa [Text.ofString] using hmem)
  · rw [hblank e hmem] at hink
    cases hink

/-- A stretch that goes reaches into no dangling operator, unless it holds it. -/
theorem stands_of_isCut {x y a z b : Text} (hcut : IsCut u) (hz : danglingOperator.Spells z)
    (h : x ++ (u ++ y) = a ++ (z ++ b)) (hbefore : x.length < a.length + z.length)
    (hbehind : a.length < x.length + u.length) : danglingOperator.Stands u := by
  obtain ⟨i, d, v, hfirst, hi, hd⟩ := hcut.first
  obtain ⟨w, e, k, hlast, hk, he⟩ := hcut.last
  obtain ⟨between, c, hsplit, hblank, hc⟩ := id hz
  have hspelled : z = "&&" ++ between ++ [c] := by
    rw [hsplit, List.append_assoc]
    rfl
  have hink := danglingOperator.ends_ink c hc
  obtain ⟨hne, hends⟩ := isNotOperator_of_joinsName hd
  obtain ⟨hne', hink'⟩ := isNotOperator_of_isIn he
  -- Its first letter does not stand in the operator, nor does its last sign but at the end.
  have hstart : (x ++ i) ++ d :: (v ++ y) = a ++ (z ++ b) := by simpa [hfirst] using h
  have hstop : (x ++ w) ++ e :: (k ++ y) = a ++ ((("&&" : Text) ++ between) ++ (c :: b)) := by
    simpa [hlast, hspelled] using h
  have hnotWithin : d ∉ z := by
    rw [hspelled, List.mem_append, List.mem_singleton, not_or]
    refine ⟨not_mem_operator hblank hne (isBlank_of_joinsName hd), ?_⟩
    rintro rfl
    rw [show isIn ",])\x7d" d = true from hc] at hends
    cases hends
  have hnotBefore : e ∉ ("&&" : Text) ++ between := not_mem_operator hblank hne' hink'
  -- And its white space at either end holds no end of the operator.
  have hopens : a ++ CodePoint.ofChar '&' :: (CodePoint.ofChar '&' :: (between ++ (c :: b))) =
      (x ++ w ++ [e]) ++ (k ++ y) := by simpa [hlast, hspelled, Text.ofString] using h.symm
  have hcloses : (a ++ (("&&" : Text) ++ between)) ++ c :: b = x ++ (i ++ (d :: v ++ y)) := by
    simpa [hfirst, hspelled] using h.symm
  have hnoStart : CodePoint.ofChar '&' ∉ k := fun hmem => absurd (hk _ hmem) (by decide)
  have hnoEnd : c ∉ i := fun hmem => by
    rw [hi c hmem] at hink
    cases hink
  have hlong : z.length = 2 + between.length + 1 := by
    rw [hspelled, List.length_append, List.length_append]
    rfl
  have hlong₁ : u.length = i.length + 1 + v.length := by
    rw [hfirst, List.length_append, List.length_cons, Nat.add_assoc, Nat.add_comm 1]
  have hlong₂ : u.length = w.length + 1 + k.length := by
    rw [hlast, List.length_append, List.length_cons, Nat.add_assoc, Nat.add_comm 1]
  have hstart := Text.lt_or_le_of_not_mem hstart hnotWithin
  have hstop := Text.lt_or_le_of_not_mem hstop hnotBefore
  have hopens := Text.lt_or_le_of_not_mem hopens hnoStart
  have hcloses := Text.lt_or_le_of_not_mem hcloses hnoEnd
  have hword : List.length ("&&" : Text) = 2 := rfl
  simp only [List.length_append, List.length_singleton, hword] at hstart hstop hopens hcloses
  obtain ⟨u₁, u₂, rfl⟩ := Text.exists_of_reaches_over h (by omega) (by omega)
  exact stands_danglingOperator hz

/-! ## Operators in what is left -/

/-- Whether no stretch that goes holds a dangling operator. -/
def holdsNoOperator (ps : List Piece) : Bool :=
  ps.all fun
    | .kept _ => true
    | .gone u => (danglingOperator.pattern.findAll u).isEmpty

/-- A removal brings no operator to dangle if none dangles across a seam. -/
theorem not_dangles_left (hclear : danglingOperator.isClear (r.pieces t) = true)
    (h : ¬danglingOperator.Stands t) : ¬danglingOperator.Stands (r.left t) := by
  intro hleft
  obtain ⟨qs, z, rs, hps, hz, -⟩ := Joint.exists_kept_of_left hclear hleft
  refine h ?_
  rw [← Removal.textOf_pieces r t, hps, Piece.textOf_append, Piece.textOf_append,
    Piece.textOf_map_kept]
  exact stands_danglingOperator hz

/-- A removal takes away no dangling operator, unless it holds it. -/
theorem dangles_left (hcut : ∀ u, Piece.gone u ∈ r.pieces t → IsCut u)
    (hfree : holdsNoOperator (r.pieces t) = true) (h : danglingOperator.Stands t) :
    danglingOperator.Stands (r.left t) := by
  obtain ⟨a, z, b, ht, hz, -⟩ := h
  have htext := Removal.textOf_pieces r t
  rcases Piece.exists_of_text (fun u hu => Removal.ne_nil_of_gone_mem hu) (htext.trans ht) with
    ⟨qs, rs, hps, -, -⟩ | ⟨qs, u, rs, hps, hbefore, hbehind⟩
  · rw [Removal.left, hps, Piece.leftOf_append, Piece.leftOf_append, Piece.leftOf_map_kept]
    exact stands_danglingOperator hz
  · have hmem : Piece.gone u ∈ r.pieces t := hps ▸ List.mem_append_right _ (List.mem_cons_self ..)
    have hwhole : textOf qs ++ (u ++ textOf rs) = a ++ (z ++ b) := by
      rw [← ht, ← htext, hps, Piece.textOf_append, Piece.textOf_gone]
    have hstands := stands_of_isCut (hcut u hmem) hz hwhole hbefore hbehind
    have hnone := List.all_eq_true.1 hfree _ hmem
    exact absurd hstands (Joint.findAll_eq_nil_iff.1 (List.isEmpty_iff.1 hnone))

theorem isClear_of_not_dangles (h : ¬danglingOperator.Stands (r.left t)) :
    danglingOperator.isClear (r.pieces t) = true := by
  refine Joint.isClear_iff.2 fun a b hmem => Bool.eq_false_iff.2 fun hmeets => h ?_
  exact Joint.stands_left_of_meets (fun _ => rfl) hmem hmeets

/-- Removals bring no operator to dangle if none dangles across a seam of any of them. -/
theorem not_dangles_leftBy (hclear : Removal.along danglingOperator.isClear rs t = true)
    (h : ¬danglingOperator.Stands t) : ¬danglingOperator.Stands (Removal.leftBy rs t) := by
  induction rs generalizing t with
  | nil => exact h
  | cons r rs ih =>
    rw [Removal.along, Bool.and_eq_true] at hclear
    exact ih hclear.2 (not_dangles_left hclear.1 h)

/-- Where removals leave no dangling operator and hold none, none dangled across a seam. -/
theorem along_isClear_of_not_dangles
    (hcut : ∀ r ∈ rs, ∀ t u, Piece.gone u ∈ r.pieces t → IsCut u)
    (hfree : Removal.along holdsNoOperator rs t = true)
    (h : ¬danglingOperator.Stands (Removal.leftBy rs t)) :
    ¬danglingOperator.Stands t ∧ Removal.along danglingOperator.isClear rs t = true := by
  induction rs generalizing t with
  | nil => exact ⟨h, rfl⟩
  | cons r rs ih =>
    rw [Removal.along, Bool.and_eq_true] at hfree
    obtain ⟨hleft, hmore⟩ := ih (fun r hr => hcut r (List.mem_cons_of_mem _ hr)) hfree.2 h
    refine ⟨fun hstands => hleft (dangles_left (hcut r (List.mem_cons_self ..) t) hfree.1 hstands), ?_⟩
    rw [Removal.along, isClear_of_not_dangles hleft, hmore]
    rfl

/-- A rewrite of a bundler's configuration brings no operator to dangle if none dangles across a seam,
and only then, unless what is removed held the operator. -/
theorem bundlerConfig_operators (h : danglingOperator.pattern.findAll t = []) :
    (Removal.along danglingOperator.isClear (bundlerRemovals s t) t = true →
      danglingOperator.pattern.findAll (bundlerConfig s t).content = []) ∧
    (Removal.along holdsNoOperator (bundlerRemovals s t) t = true →
      danglingOperator.pattern.findAll (bundlerConfig s t).content = [] →
      Removal.along danglingOperator.isClear (bundlerRemovals s t) t = true) := by
  rw [Joint.findAll_eq_nil_iff] at h ⊢
  rw [stands_bundlerConfig]
  refine ⟨fun hclear => not_dangles_leftBy hclear h, fun hfree hleft => ?_⟩
  exact (along_isClear_of_not_dangles (fun r hr t u hu => isCut_of_gone hr hu) hfree hleft).2

theorem guardedPlugin_operators : danglingOperator.pattern.findAll guardedPlugin = [] ∧
    danglingOperator.pattern.findAll (bundlerConfig {} guardedPlugin).content = [] := by
  have h : danglingOperator.pattern.findAll guardedPlugin = [] := by
    rw [← List.isEmpty_iff]
    decide +kernel
  exact ⟨h, (bundlerConfig_operators h).1 (by decide +kernel)⟩

/-- A plugin with a condition on what the mode is not. -/
def otherwiseGuarded : Text :=
  "import \x7b componentTagger \x7d from \"lovable-tagger\";\n" ++
    "export default \x7b plugins: [mode !== \"production\" && componentTagger()] \x7d;\n"

/-- A condition that is no equation stays when its plugin goes. -/
theorem not_forall_operators : ¬∀ t, danglingOperator.pattern.findAll t = [] →
    danglingOperator.pattern.findAll (bundlerConfig {} t).content = [] := by
  intro hall
  have h : (danglingOperator.pattern.findAll otherwiseGuarded).isEmpty = true := by decide +kernel
  have hleft := hall otherwiseGuarded (List.isEmpty_iff.1 h)
  rw [← List.isEmpty_iff] at hleft
  revert hleft
  decide +kernel

end Rewrite

end Decouple
