import Decouple.Sorting
import Mathlib.Data.List.Basic

/-!
# Sorted lists

Sorting keeps the members of a list, and leaves them in order when the order is total and
transitive.  Members that may stand in either order stay as they stood (`filter_sort`).
-/

namespace Decouple

namespace Sorting

variable {α : Type} {le : α → α → Bool}

theorem insert_perm (a : α) (as : List α) : (insert le a as).Perm (a :: as) := by
  induction as with
  | nil => exact List.Perm.refl _
  | cons b as ih =>
    rw [insert]
    split
    · exact List.Perm.refl _
    · exact (ih.cons b).trans (List.Perm.swap a b as)

theorem sort_perm (as : List α) : (sort le as).Perm as := by
  induction as with
  | nil => exact List.Perm.refl _
  | cons a as ih => exact (insert_perm a _).trans (ih.cons a)

theorem sort_eq_nil {as : List α} (h : sort le as = []) : as = [] := by
  have hperm : (sort le as).Perm as := sort_perm as
  rw [h] at hperm
  exact List.nil_perm.1 hperm

theorem pairwise_insert (total : ∀ a b, (le a b || le b a) = true)
    (trans : ∀ a b c, le a b = true → le b c = true → le a c = true) {a : α} {as : List α}
    (h : as.Pairwise fun a b => le a b = true) :
    (insert le a as).Pairwise fun a b => le a b = true := by
  induction h with
  | nil => exact List.pairwise_singleton _ a
  | @cons b as hb hrest ih =>
    rw [insert]
    split
    · next hab =>
      refine List.Pairwise.cons ?_ (List.Pairwise.cons hb hrest)
      intro c hc
      rcases List.mem_cons.1 hc with rfl | hc
      · exact hab
      · exact trans a b c hab (hb c hc)
    · next hab =>
      have hba : le b a = true := by simpa [hab] using total a b
      refine List.Pairwise.cons ?_ ih
      intro c hc
      rcases List.mem_cons.1 ((insert_perm a as).mem_iff.1 hc) with rfl | hc
      · exact hba
      · exact hb c hc

theorem pairwise_sort (total : ∀ a b, (le a b || le b a) = true)
    (trans : ∀ a b c, le a b = true → le b c = true → le a c = true) (as : List α) :
    (sort le as).Pairwise fun a b => le a b = true := by
  induction as with
  | nil => exact List.Pairwise.nil
  | cons a as ih => exact pairwise_insert total trans ih

section Stable

variable {p : α → Bool}

theorem filter_insert (h : ∀ a b, p a = true → p b = true → le a b = true) (a : α) (as : List α) :
    (insert le a as).filter p = (a :: as).filter p := by
  induction as with
  | nil => rfl
  | cons b as ih =>
    rw [insert]
    split
    · rfl
    · next hab =>
      rw [List.filter_cons, ih]
      cases ha : p a with
      | false => simp [List.filter_cons, ha]
      | true =>
        have hb : p b = false := Bool.eq_false_iff.2 fun hb => hab (h a b ha hb)
        simp [ha, hb]

/-- Members that may stand in either order keep the one that they have. -/
theorem filter_sort (h : ∀ a b, p a = true → p b = true → le a b = true) (as : List α) :
    (sort le as).filter p = as.filter p := by
  induction as with
  | nil => rfl
  | cons a as ih => rw [sort, filter_insert h, List.filter_cons, List.filter_cons, ih]

end Stable

end Sorting

end Decouple
