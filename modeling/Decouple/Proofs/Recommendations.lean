import Decouple.Analysis.Basic
import Decouple.Proofs.Sorting
import Decouple.Proofs.Texts

/-!
# Recommendations

Issues are ranked: the more severe one first, then the one whose path comes first, then the one on
the line above; issues of which none outranks the other stay as they stand (`IsRanking`).  The
recommendations are the suggestions of the ranked issues, each where it first occurs, cut off at the
number that is wanted (`IsSelection`).

The cut never goes below one.  So the recommendations are that selection exactly if at least one is
wanted, or if there is nothing to suggest (`recommendationsOf_isSelection_iff`).
-/

namespace Decouple

namespace Text

/-- A fold that adds what is not there adds the first occurrences of what is not there. -/
theorem foldl_addNew_eq (ts seen : List Text) :
    ts.foldl addNew seen = seen ++ (ts.filter fun t => t ∉ seen).eraseDups := by
  induction ts generalizing seen with
  | nil => exact (List.append_nil seen).symm
  | cons t ts ih =>
    rw [List.foldl_cons, ih, addNew]
    by_cases ht : t ∈ seen
    · rw [if_pos ht, List.filter_cons_of_neg (by simpa using ht)]
    · have hrest : (ts.filter fun u => u ∉ seen ++ [t]) =
          (ts.filter fun u => u ∉ seen).filter fun u => !u == t := by
        rw [List.filter_filter]
        refine List.filter_congr fun u _ => ?_
        by_cases hu : u = t <;> simp [hu]
      rw [if_neg ht, hrest, List.filter_cons_of_pos (by simpa using ht), List.eraseDups_cons,
        List.append_assoc, List.singleton_append]

/-- The distinct texts of a list are its first occurrences. -/
theorem distinct_eq_eraseDups (ts : List Text) : distinct ts = ts.eraseDups := by
  have hall : (ts.filter fun t => t ∉ ([] : List Text)) = ts :=
    List.filter_eq_self.2 fun t _ => by simp
  rw [distinct_eq_foldl, foldl_addNew_eq, List.nil_append, hall]

end Text

/-! ## The ranking -/

namespace Issue

/-- The line of an issue; zero where none is known. -/
def lineOrZero (i : Issue) : Nat := i.line.getD 0

/-- An issue stands before another in every ranking: it is more severe, or as severe and in a file
that comes first, or in the same file on a line above. -/
def Outranks (a b : Issue) : Prop :=
  b.severity.rank < a.severity.rank ∨ a.severity.rank = b.severity.rank ∧
    (a.path < b.path ∨ a.path = b.path ∧ a.lineOrZero < b.lineOrZero)

/-- Issues of which none outranks the other. -/
def Ties (a b : Issue) : Prop :=
  a.severity = b.severity ∧ a.path = b.path ∧ a.lineOrZero = b.lineOrZero

instance (a b : Issue) : Decidable (a.Ties b) := inferInstanceAs (Decidable (_ ∧ _))

/-- The issues in the order of the ranking, those that tie as they stood. -/
structure IsRanking (issues ranked : List Issue) : Prop where
  perm : ranked.Perm issues
  ordered : ranked.Pairwise fun a b => ¬b.Outranks a
  stable : ∀ i : Issue, (ranked.filter fun j => i.Ties j) = issues.filter fun j => i.Ties j

end Issue

namespace Analysis

open Issue (IsRanking)

variable {a b : Issue} {issues : List Issue} {n : Nat}

/-- An issue may stand before another that does not outrank it. -/
theorem comesBefore_iff : comesBefore a b = true ↔ ¬b.Outranks a := by
  unfold comesBefore Issue.Outranks
  rw [Text.lt_iff_not_le]
  by_cases hrank : a.severity.rank = b.severity.rank
  · rw [if_neg (not_not.2 hrank), hrank]
    by_cases hpath : a.path = b.path
    · have hle : Text.le b.path b.path = true := by simpa using Text.le_total b.path b.path
      rw [if_neg (not_not.2 hpath), hpath, hle, decide_eq_true_eq]
      simp [Issue.lineOrZero]
    · have hother : b.path ≠ a.path := fun e => hpath e.symm
      rw [if_pos hpath]
      simp [hother]
  · rw [if_pos hrank, decide_eq_true_eq]
    have hother : b.severity.rank ≠ a.severity.rank := fun e => hrank e.symm
    simp [hother]

theorem comesBefore_total (a b : Issue) : (comesBefore a b || comesBefore b a) = true := by
  unfold comesBefore
  by_cases hrank : a.severity.rank = b.severity.rank
  · by_cases hpath : a.path = b.path
    · simpa [hrank, hpath] using Nat.le_total (a.line.getD 0) (b.line.getD 0)
    · have hother : b.path ≠ a.path := fun e => hpath e.symm
      simpa [hrank, hpath, hother] using Text.le_total a.path b.path
  · have hother : b.severity.rank ≠ a.severity.rank := fun e => hrank e.symm
    simpa [hrank, hother] using Nat.le_total b.severity.rank a.severity.rank

theorem comesBefore_trans (a b c : Issue) (hab : comesBefore a b = true)
    (hbc : comesBefore b c = true) : comesBefore a c = true := by
  rw [comesBefore_iff] at hab hbc ⊢
  unfold Issue.Outranks at hab hbc ⊢
  rw [Text.lt_iff_not_le] at hab hbc ⊢
  simp only [not_or, not_and, not_not, not_lt] at hab hbc ⊢
  obtain ⟨hrank, hab⟩ := hab
  obtain ⟨hrank', hbc⟩ := hbc
  refine ⟨hrank'.trans hrank, fun hsame => ?_⟩
  -- Of equal rank, the one between them has it too.
  obtain ⟨hle, hline⟩ := hab (by omega)
  obtain ⟨hle', hline'⟩ := hbc (by omega)
  refine ⟨Text.le_trans hle hle', fun hpath => ?_⟩
  have hfirst : b.path = a.path := Text.le_antisymm (hpath ▸ hle') hle
  exact (hline hfirst).trans (hline' (hpath.trans hfirst.symm))

/-- Sorting ranks the issues. -/
theorem isRanking_sort (issues : List Issue) :
    IsRanking issues (Sorting.sort comesBefore issues) where
  perm := Sorting.sort_perm issues
  ordered := (Sorting.pairwise_sort comesBefore_total comesBefore_trans issues).imp
    comesBefore_iff.1
  stable i := by
    refine Sorting.filter_sort (fun a b ha hb => ?_) issues
    obtain ⟨hseverity, hpath, hline⟩ := of_decide_eq_true ha
    obtain ⟨hseverity', hpath', hline'⟩ := of_decide_eq_true hb
    rw [comesBefore_iff, Issue.Outranks, ← hseverity, ← hseverity', ← hpath, ← hpath', ← hline,
      ← hline']
    simp [List.lt_irrefl]

/-! ## The selection -/

/-- What issues suggest, with repetitions; an empty suggestion is none. -/
def suggestionsOf (issues : List Issue) : List Text :=
  (issues.filterMap (·.suggestion)).filter fun t => t ≠ []

/-- The first `n` of the suggestions of ranked issues, each where it first occurs. -/
def IsSelection (n : Nat) (issues : List Issue) (chosen : List Text) : Prop :=
  ∃ ranked, IsRanking issues ranked ∧ chosen = (suggestionsOf ranked).eraseDups.take n

theorem suggestionsOf_eq_nil : suggestionsOf issues = [] ↔
    ∀ i ∈ issues, i.suggestion.getD [] = [] := by
  unfold suggestionsOf
  rw [List.filter_eq_nil_iff]
  simp only [List.mem_filterMap, decide_eq_true_eq, not_not, forall_exists_index, and_imp]
  constructor
  · intro h i hi
    cases hs : i.suggestion with
    | none => rfl
    | some t => exact h t i hi hs
  · intro h t i hi hs
    have hempty := h i hi
    rwa [hs] at hempty

theorem recommendationsOf_eq (n : Nat) (issues : List Issue) : recommendationsOf n issues =
    (suggestionsOf (Sorting.sort comesBefore issues)).eraseDups.take (max 1 n) := by
  have hfilter (ts : List Text) : (ts.filter fun t => !t.isEmpty) = ts.filter fun t => t ≠ [] :=
    List.filter_congr fun t _ => by cases t <;> rfl
  rw [recommendationsOf, Text.distinct_eq_eraseDups, hfilter]
  rfl

theorem suggestionsOf_sort_eq_nil : suggestionsOf (Sorting.sort comesBefore issues) = [] ↔
    ∀ i ∈ issues, i.suggestion.getD [] = [] := by
  rw [suggestionsOf_eq_nil]
  simp only [(Sorting.sort_perm issues).mem_iff]

/-- The recommendations are the first `n` suggestions of the ranked issues, each where it first
occurs, exactly if at least one is wanted or no issue suggests anything. -/
theorem recommendationsOf_isSelection_iff : IsSelection n issues (recommendationsOf n issues) ↔
    0 < n ∨ ∀ i ∈ issues, i.suggestion.getD [] = [] := by
  rw [recommendationsOf_eq, ← suggestionsOf_sort_eq_nil]
  constructor
  · rintro ⟨ranked, -, heq⟩
    by_cases hn : 0 < n
    · exact .inl hn
    · obtain rfl : n = 0 := by omega
      -- Nothing is chosen, but the cut leaves the first suggestion if there is one.
      cases hs : suggestionsOf (Sorting.sort comesBefore issues) with
      | nil => exact .inr rfl
      | cons t ts =>
        rw [hs, List.eraseDups_cons] at heq
        cases heq
  · rintro (hn | hnone)
    · exact ⟨_, isRanking_sort issues, by rw [Nat.max_eq_right hn]⟩
    · refine ⟨_, isRanking_sort issues, ?_⟩
      rw [hnone]
      simp

/-- An issue that suggests something. -/
def suggestingIssue : Issue where
  id := "platform-comment@a.ts:1"
  severity := .info
  path := "a.ts"
  description := "Platform comment marker"
  rule := "platform-comment"
  platform := some "Lovable"
  line := some 1
  suggestion := some "Delete platform comment markers"

/-- Where none is wanted there is a recommendation nevertheless. -/
theorem not_forall_isSelection : ¬∀ (n : Nat) (issues : List Issue),
    IsSelection n issues (recommendationsOf n issues) := by
  intro h
  obtain ⟨ranked, -, heq⟩ := h 0 [suggestingIssue]
  have hone : recommendationsOf (0 : Nat) [suggestingIssue] =
      ["Delete platform comment markers"] := by decide
  rw [List.take_zero, hone] at heq
  cases heq

end Analysis

end Decouple
