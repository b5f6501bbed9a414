import Decouple.Text.Parts
import Mathlib.Data.List.Basic
import Mathlib.Data.List.TakeWhile

/-!
# Texts in order, and lists of texts

Texts are ordered by code point, which is a linear order; `Text.le` is its test.  `Text.distinct`
keeps the members of a list, each once.

Splitting a text and joining parts are inverse to each other when no part holds the separator.  What a
stretch of a text does not hold stands before it or behind it (`lt_or_le_of_not_mem`).
-/

namespace Decouple

namespace CodePoint

instance : Std.IsLinearOrder CodePoint where
  le_refl a := Nat.le_refl a.val
  le_trans _ _ _ := Nat.le_trans
  le_antisymm _ _ h k := ext (Nat.le_antisymm h k)
  le_total a b := Nat.le_total a.val b.val

instance : Std.LawfulOrderLT CodePoint where
  lt_iff _ _ := Nat.lt_iff_le_and_not_ge

end CodePoint

namespace Text

/-! ## The order of texts -/

theorem le_trans {a b c : Text} (h : le a b = true) (k : le b c = true) : le a c = true := by
  simp only [le, decide_eq_true_eq] at *
  exact List.le_trans h k

theorem le_total (a b : Text) : (le a b || le b a) = true := by
  simp only [le, Bool.or_eq_true, decide_eq_true_eq]
  exact List.le_total a b

theorem le_antisymm {a b : Text} (h : le a b = true) (k : le b a = true) : a = b := by
  simp only [le, decide_eq_true_eq] at *
  exact List.le_antisymm h k

theorem lt_iff_not_le {a b : Text} : a < b ↔ ¬le b a = true := by
  rw [le, decide_eq_true_eq, List.not_le]

/-! ## Each text once -/

/-- The texts seen so far with one more, unless it is there. -/
def addNew (seen : List Text) (t : Text) : List Text := if t ∈ seen then seen else seen ++ [t]

theorem distinct_eq_foldl (ts : List Text) : distinct ts = ts.foldl addNew [] := rfl

/-- A fold that adds what is not there keeps what is there and adds the members of its list. -/
theorem mem_foldl_addNew {t : Text} (ts seen : List Text) :
    t ∈ ts.foldl addNew seen ↔ t ∈ seen ∨ t ∈ ts := by
  induction ts generalizing seen with
  | nil => simp
  | cons u ts ih =>
    rw [List.foldl_cons, ih, List.mem_cons, addNew]
    by_cases hu : u ∈ seen
    · rw [if_pos hu]
      constructor
      · rintro (h | h)
        · exact .inl h
        · exact .inr (.inr h)
      · rintro (h | rfl | h)
        · exact .inl h
        · exact .inl hu
        · exact .inr h
    · rw [if_neg hu, List.mem_append, List.mem_singleton, or_assoc]

@[simp] theorem mem_distinct {t : Text} {ts : List Text} : t ∈ distinct ts ↔ t ∈ ts := by
  simp [distinct_eq_foldl, mem_foldl_addNew]

@[simp] theorem distinct_eq_nil {ts : List Text} : distinct ts = [] ↔ ts = [] := by
  simp only [List.eq_nil_iff_forall_not_mem, mem_distinct]

/-- Adding what a fold has gathered is going on with the fold. -/
theorem foldl_addNew_foldl (ts seen acc : List Text) :
    (ts.foldl addNew acc).foldl addNew seen = ts.foldl addNew (acc.foldl addNew seen) := by
  induction ts generalizing acc with
  | nil => rfl
  | cons t ts ih =>
    rw [List.foldl_cons, List.foldl_cons, ih]
    by_cases ht : t ∈ acc
    · rw [addNew, if_pos ht, addNew, if_pos ((mem_foldl_addNew acc seen).2 (.inr ht))]
    · have hconcat : addNew acc t = acc ++ [t] := if_neg ht
      rw [hconcat, List.foldl_append, List.foldl_cons, List.foldl_nil]

/-- Repeats inside the lists do not matter to the lists put together. -/
theorem distinct_flatMap_distinct {α : Type} (xs : List α) (g : α → List Text) :
    distinct (xs.flatMap fun x => distinct (g x)) = distinct (xs.flatMap g) := by
  have hfold (seen : List Text) : (xs.flatMap fun x => distinct (g x)).foldl addNew seen =
      (xs.flatMap g).foldl addNew seen := by
    induction xs generalizing seen with
    | nil => rfl
    | cons x xs ih =>
      rw [List.flatMap_cons, List.flatMap_cons, List.foldl_append, List.foldl_append, ih,
        distinct_eq_foldl, foldl_addNew_foldl, List.foldl_nil]
  exact hfold []

/-! ## Splitting and joining -/

variable {sep : CodePoint} {a b t : Text}

theorem splitOn_of_not_mem (h : sep ∉ a) : splitOn sep a = [a] := by
  induction a with
  | nil => rfl
  | cons c a ih =>
    rw [List.mem_cons, not_or] at h
    have hc : ¬c = sep := fun e => h.1 e.symm
    have hrest := ih h.2
    unfold splitOn at hrest ⊢
    rw [splitWhere, if_neg (by simpa using hc), hrest]
    rfl

/-- The parts before and after a separator. -/
theorem splitOn_append_cons (sep : CodePoint) (a b : Text) :
    splitOn sep (a ++ sep :: b) = splitOn sep a ++ splitOn sep b := by
  unfold splitOn
  induction a with
  | nil => simp [splitWhere]
  | cons c a ih =>
    rw [List.cons_append, splitWhere, splitWhere, ih]
    split
    · rfl
    · cases hs : splitWhere (· = sep) a with
      | nil => exact absurd hs (splitWhere_ne_nil _ _)
      | cons part parts => rfl

/-- The part before the first separator comes first. -/
theorem splitOn_append (h : sep ∉ a) : splitOn sep (a ++ sep :: b) = a :: splitOn sep b := by
  rw [splitOn_append_cons, splitOn_of_not_mem h, List.singleton_append]

/-- A separator at the end leaves an empty part. -/
theorem splitOn_concat (sep : CodePoint) (t : Text) :
    splitOn sep (t ++ [sep]) = splitOn sep t ++ [[]] := splitOn_append_cons sep t []

/-- More parts follow after a separator. -/
theorem join_cons (sep part : Text) {parts : List Text} (hne : parts ≠ []) :
    join sep (part :: parts) = part ++ sep ++ join sep parts := by
  cases parts with
  | nil => exact absurd rfl hne
  | cons _ _ => rfl

/-- What joined parts hold, the separator or a part holds. -/
theorem mem_of_mem_join {sep : Text} {parts : List Text} {c : CodePoint}
    (h : c ∈ join sep parts) : c ∈ sep ∨ ∃ part ∈ parts, c ∈ part := by
  induction parts with
  | nil => cases h
  | cons part parts ih =>
    by_cases hne : parts = []
    · subst hne
      exact .inr ⟨part, List.mem_cons_self .., h⟩
    · rw [join_cons sep part hne, List.mem_append, List.mem_append] at h
      rcases h with (h | h) | h
      · exact .inr ⟨part, List.mem_cons_self .., h⟩
      · exact .inl h
      · rcases ih h with h | ⟨part', hpart', h⟩
        · exact .inl h
        · exact .inr ⟨part', List.mem_cons_of_mem _ hpart', h⟩

/-- What a part holds, the joined parts hold. -/
theorem mem_join_of_mem (sep : Text) {parts : List Text} {part : Text} {c : CodePoint}
    (hpart : part ∈ parts) (hc : c ∈ part) : c ∈ join sep parts := by
  induction parts with
  | nil => cases hpart
  | cons first parts ih =>
    by_cases hne : parts = []
    · subst hne
      rwa [List.mem_singleton.1 hpart] at hc
    · rw [join_cons sep first hne, List.mem_append, List.mem_append]
      rcases List.mem_cons.1 hpart with rfl | hpart
      · exact .inl (.inl hc)
      · exact .inr (ih hpart)

/-- Parts without the separator are read back from what they are joined to. -/
theorem splitOn_join {parts : List Text} (hne : parts ≠ []) (h : ∀ p ∈ parts, sep ∉ p) :
    splitOn sep (join [sep] parts) = parts := by
  induction parts with
  | nil => exact absurd rfl hne
  | cons part parts ih =>
    have hpart : sep ∉ part := h part (List.mem_cons_self ..)
    cases parts with
    | nil => exact splitOn_of_not_mem hpart
    | cons next parts =>
      rw [join, List.append_assoc, List.singleton_append, splitOn_append hpart,
        ih (List.cons_ne_nil _ _) fun p hp => h p (List.mem_cons_of_mem _ hp)]
      rintro ⟨⟩

/-- What a part holds, the text holds. -/
theorem mem_of_mem_splitOn {c : CodePoint} {part : Text} (h : part ∈ splitOn sep t)
    (hc : c ∈ part) : c ∈ t := by
  unfold splitOn at h
  induction t generalizing part with
  | nil => simp_all [splitWhere]
  | cons d t ih =>
    rw [splitWhere] at h
    split at h
    · rcases List.mem_cons.1 h with rfl | h
      · cases hc
      · exact List.mem_cons_of_mem _ (ih h hc)
    · cases hs : splitWhere (· = sep) t with
      | nil => exact absurd hs (splitWhere_ne_nil _ _)
      | cons first parts =>
        rw [hs] at h ih
        rcases List.mem_cons.1 h with rfl | h
        · rcases List.mem_cons.1 hc with rfl | hc
          · exact List.mem_cons_self ..
          · exact List.mem_cons_of_mem _ (ih (List.mem_cons_self ..) hc)
        · exact List.mem_cons_of_mem _ (ih (List.mem_cons_of_mem _ h) hc)

/-- What a text holds beside separators, one of its parts holds. -/
theorem exists_mem_splitOn {c : CodePoint} (hc : c ∈ t) (hne : c ≠ sep) :
    ∃ part ∈ splitOn sep t, c ∈ part := by
  unfold splitOn
  induction t with
  | nil => cases hc
  | cons d t ih =>
    rw [splitWhere]
    rcases List.mem_cons.1 hc with rfl | hc
    · rw [if_neg (by simpa using hne)]
      cases hs : splitWhere (· = sep) t with
      | nil => exact absurd hs (splitWhere_ne_nil _ _)
      | cons first parts => exact ⟨_, List.mem_cons_self .., List.mem_cons_self ..⟩
    · obtain ⟨part, hpart, hmem⟩ := ih hc
      split
      · exact ⟨part, List.mem_cons_of_mem _ hpart, hmem⟩
      · cases hs : splitWhere (· = sep) t with
        | nil => exact absurd hs (splitWhere_ne_nil _ _)
        | cons first parts =>
          rw [hs] at hpart
          rcases List.mem_cons.1 hpart with rfl | hpart
          · exact ⟨_, List.mem_cons_self .., List.mem_cons_of_mem _ hmem⟩
          · exact ⟨part, List.mem_cons_of_mem _ hpart, hmem⟩

theorem nil_mem_splitOn_of_startsWith (h : startsWith t [sep] = true) : [] ∈ splitOn sep t := by
  obtain ⟨rest, rfl⟩ := List.isPrefixOf_iff_prefix.1 h
  rw [List.singleton_append, ← List.nil_append (sep :: rest), splitOn_append List.not_mem_nil]
  exact List.mem_cons_self ..

theorem nil_mem_splitOn_of_endsWith (h : endsWith t [sep] = true) : [] ∈ splitOn sep t := by
  obtain ⟨before, rfl⟩ := List.isSuffixOf_iff_suffix.1 h
  rw [splitOn_concat]
  exact List.mem_append_right _ (List.mem_singleton_self _)

/-! ## What stands before and after a separator -/

theorem ne_of_not_mem (h : sep ∉ t) : ∀ c ∈ t, decide (c ≠ sep) = true := by
  intro c hc
  refine decide_eq_true fun e => ?_
  exact h (e ▸ hc)

theorem takeWhile_append_cons (h : sep ∉ a) : (a ++ sep :: b).takeWhile (· ≠ sep) = a := by
  rw [List.takeWhile_append_of_pos (ne_of_not_mem h), List.takeWhile_cons_of_neg (by simp),
    List.append_nil]

theorem takeWhile_of_not_mem (h : sep ∉ t) : t.takeWhile (· ≠ sep) = t :=
  List.takeWhile_eq_self_iff.2 (ne_of_not_mem h)

theorem beforeFirst_append (h : sep ∉ a) : beforeFirst sep (a ++ sep :: b) = a :=
  takeWhile_append_cons h

theorem beforeFirst_of_not_mem (h : sep ∉ t) : beforeFirst sep t = t := takeWhile_of_not_mem h

theorem cut_append (h : sep ∉ a) : cut sep (a ++ sep :: b) = (a, some b) := by
  unfold cut
  rw [takeWhile_append_cons h, List.dropWhile_append_of_pos (ne_of_not_mem h),
    List.dropWhile_cons_of_neg (by simp)]

theorem cut_of_not_mem (h : sep ∉ t) : cut sep t = (t, none) := by
  unfold cut
  rw [List.dropWhile_eq_nil_iff.2 (ne_of_not_mem h)]

theorem afterFirst_append (h : sep ∉ a) : afterFirst sep (a ++ sep :: b) = b := by
  rw [afterFirst, cut_append h, Option.getD_some]

theorem afterLast_append (h : sep ∉ b) : afterLast sep (a ++ sep :: b) = b := by
  have hrev : (a ++ sep :: b).reverse = b.reverse ++ sep :: a.reverse := by simp
  rw [afterLast, hrev, takeWhile_append_cons (by rwa [List.mem_reverse]), List.reverse_reverse]

theorem afterLast_of_not_mem (h : sep ∉ t) : afterLast sep t = t := by
  rw [afterLast, takeWhile_of_not_mem (by rwa [List.mem_reverse]), List.reverse_reverse]

/-- A text that holds a separator, cut at the last one. -/
theorem exists_append_of_mem_last (h : sep ∈ t) : ∃ a b, t = a ++ sep :: b ∧ sep ∉ b := by
  obtain ⟨a, b, hrev, hb⟩ := List.eq_append_cons_of_mem (List.mem_reverse.2 h)
  refine ⟨b.reverse, a.reverse, ?_, by rwa [List.mem_reverse]⟩
  rw [← List.reverse_reverse t, hrev]
  simp

/-- What stands after some separator stands after the first. -/
theorem mem_afterFirst_append {c : CodePoint} (h : c ∈ b) : c ∈ afterFirst sep (a ++ sep :: b) := by
  by_cases hsep : sep ∈ a
  · obtain ⟨a₁, a₂, rfl, ha⟩ := List.eq_append_cons_of_mem hsep
    rw [List.append_assoc, List.cons_append, afterFirst_append ha]
    simp [h]
  · rwa [afterFirst_append hsep]

/-! ## Where the members of a class end -/

section Class

variable {f : CodePoint → Bool} {a b u v : Text}

/-- The longest beginning of members ends where something else follows. -/
theorem takeWhile_append_of_head (ht : ∀ c ∈ t, f c = true) (hu : u.head?.any f = false) :
    (t ++ u).takeWhile f = t := by
  rw [List.takeWhile_append_of_pos ht]
  cases u with
  | nil => exact List.append_nil t
  | cons c u => rw [List.takeWhile_cons_of_neg (by simpa using hu), List.append_nil]

theorem dropWhile_append_of_head (ht : ∀ c ∈ t, f c = true) (hu : u.head?.any f = false) :
    (t ++ u).dropWhile f = u := by
  rw [List.dropWhile_append_of_pos ht]
  cases u with
  | nil => rfl
  | cons c u => rw [List.dropWhile_cons_of_neg (by simpa using hu)]

/-- A text is parted in one way where the members of a class that begin it end. -/
theorem append_inj_of_head? (hu : ∀ c ∈ u, f c = true) (hv : ∀ c ∈ v, f c = true)
    (ha : a.head?.any f = false) (hb : b.head?.any f = false) (h : u ++ a = v ++ b) :
    u = v ∧ a = b := by
  constructor
  · rw [← takeWhile_append_of_head hu ha, h, takeWhile_append_of_head hv hb]
  · rw [← dropWhile_append_of_head hu ha, h, dropWhile_append_of_head hv hb]

/-- A text is parted in one way where the members of a class that end it begin. -/
theorem append_inj_of_getLast? (hu : ∀ c ∈ u, f c = true) (hv : ∀ c ∈ v, f c = true)
    (ha : a.getLast?.any f = false) (hb : b.getLast?.any f = false) (h : a ++ u = b ++ v) :
    a = b ∧ u = v := by
  have hreverse : u.reverse ++ a.reverse = v.reverse ++ b.reverse := by
    rw [← List.reverse_append, ← List.reverse_append, h]
  obtain ⟨huv, hab⟩ := append_inj_of_head? (f := f) (fun c hc => hu c (List.mem_reverse.1 hc))
    (fun c hc => hv c (List.mem_reverse.1 hc)) (by rwa [List.head?_reverse])
    (by rwa [List.head?_reverse]) hreverse
  exact ⟨List.reverse_injective hab, List.reverse_injective huv⟩

end Class

/-! ## Two stretches of one text -/

/-- What a stretch of a text does not hold stands before the stretch or behind it. -/
theorem lt_or_le_of_not_mem {x y : Text} {c : CodePoint} (h : x ++ c :: y = a ++ (t ++ b))
    (hc : c ∉ t) : x.length < a.length ∨ a.length + t.length ≤ x.length := by
  by_contra hwithin
  have hstands : (a ++ (t ++ b))[x.length]? = some c := by
    rw [← h]
    simp
  rw [List.getElem?_append_right (by omega), List.getElem?_append_left (by omega)] at hstands
  exact hc (List.mem_of_getElem? hstands)

/-- A stretch of a text that reaches over another holds it. -/
theorem exists_of_reaches_over {x y u : Text} (h : x ++ (u ++ y) = a ++ (t ++ b))
    (hle : x.length ≤ a.length) (hle' : a.length + t.length ≤ x.length + u.length) :
    ∃ u₁ u₂, u = u₁ ++ (t ++ u₂) := by
  obtain ⟨u₁, rfl⟩ := List.prefix_of_prefix_length_le ⟨_, rfl⟩ ⟨_, h.symm⟩ hle
  rw [List.append_assoc] at h
  have hrest : u ++ y = u₁ ++ t ++ b := by
    rw [List.append_assoc]
    exact List.append_cancel_left h
  have hlength : (u₁ ++ t).length ≤ u.length := by
    rw [List.length_append] at hle' ⊢
    omega
  obtain ⟨u₂, rfl⟩ := List.prefix_of_prefix_length_le ⟨_, hrest.symm⟩ ⟨_, rfl⟩ hlength
  exact ⟨u₁, u₂, List.append_assoc ..⟩

/-! ## Putting one code point in another's place -/

theorem replaceCodePoint_of_not_mem {old new : CodePoint} (h : old ∉ t) :
    replaceCodePoint old new t = t := by
  have hsame : ∀ c ∈ t, (if c = old then new else c) = c := by
    intro c hc
    rw [if_neg]
    rintro rfl
    exact h hc
  rw [replaceCodePoint, List.map_congr_left hsame, List.map_id']

/-- What a text with one code point replaced holds, it held before or was put there. -/
theorem mem_replaceCodePoint {old new c : CodePoint} (h : c ∈ replaceCodePoint old new t) :
    c = new ∨ c ∈ t ∧ c ≠ old := by
  obtain ⟨d, hd, rfl⟩ := List.mem_map.1 h
  by_cases hold : d = old
  · exact Or.inl (if_pos hold)
  · rw [if_neg hold]
    exact Or.inr ⟨hd, hold⟩

end Text

end Decouple
