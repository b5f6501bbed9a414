import Decouple.Analysis.Basic
import Decouple.Proofs.Number.Numerals
import Decouple.Proofs.Texts
import Decouple.Proofs.Traversal
import Mathlib.Data.List.Nodup
import Mathlib.Data.List.Perm.Subperm

/-!
# Identities of issues

An issue gets the first identity of its base that is not in use: the search stops where it should,
since of more identities than are in use one is free (`freeId_spec`).  An identity says which rule,
file and line its issue is about and which of them it is, whatever the path holds: what stands
before its first `@` is a rule, and what stands after its last `:` are numerals (`eq_of_nthId_eq`).

So the identities in use for other files never matter, and the issues of several files are numbered
as those of each file by itself (`number_flatMap`).  The issues of one rule, file and line get one
number after the other, from the first on (`ids_numberFrom`), and no two issues of an analysis have
one identity (`issues_identified`).
-/

namespace Decouple

namespace Text

variable {sep : CodePoint} {a a' b b' : Text}

/-- A text is cut at its first separator in one way. -/
theorem append_cons_inj_of_first (ha : sep ∉ a) (ha' : sep ∉ a')
    (h : a ++ sep :: b = a' ++ sep :: b') : a = a' ∧ b = b' := by
  have hsplit := congrArg (splitOn sep) h
  rw [splitOn_append ha, splitOn_append ha'] at hsplit
  obtain rfl := (List.cons.inj hsplit).1
  exact ⟨rfl, (List.cons.inj (List.append_cancel_left h)).2⟩

/-- A text is cut at its last separator in one way. -/
theorem append_cons_inj_of_last (hb : sep ∉ b) (hb' : sep ∉ b')
    (h : a ++ sep :: b = a' ++ sep :: b') : a = a' ∧ b = b' := by
  have hrev := congrArg List.reverse h
  simp only [List.reverse_append, List.reverse_cons, List.append_assoc,
    List.singleton_append] at hrev
  obtain ⟨hbb, haa⟩ := append_cons_inj_of_first (by simpa using hb) (by simpa using hb') hrev
  exact ⟨List.reverse_inj.1 haa, List.reverse_inj.1 hbb⟩

theorem ofNat_injective : Function.Injective ofNat := fun m n h => by
  rw [← decimalValue_ofNat m, h, decimalValue_ofNat]

end Text

namespace Issue

variable {base : Text} {used used' : List Text}

/-! ## The identities of one base -/

/-- What follows the base in its `n`-th identity. -/
def numberMark (n : Nat) : Text := if n ≤ 1 then [] else "#" ++ Text.ofNat n

theorem nthId_eq (base : Text) (n : Nat) : nthId base n = base ++ numberMark n := by
  unfold nthId numberMark
  split
  · exact (List.append_nil _).symm
  · exact List.append_assoc ..

theorem numberMark_injective {m n : Nat} (hm : 1 ≤ m) (hn : 1 ≤ n)
    (h : numberMark m = numberMark n) : m = n := by
  unfold numberMark at h
  split at h <;> split at h
  · omega
  · cases h
  · cases h
  · exact Text.ofNat_injective (List.append_cancel_left h)

/-- Of more identities than are in use one is free. -/
theorem exists_free (used : List Text) (base : Text) :
    ∃ k, 1 ≤ k ∧ k ≤ 1 + used.length ∧ nthId base k ∉ used := by
  by_contra hnone
  push Not at hnone
  let candidates := (List.range' 1 (used.length + 1)).map (nthId base)
  have hnodup : candidates.Nodup := by
    refine List.Nodup.map_on (fun m hm n hn h => ?_) List.nodup_range'
    rw [nthId_eq, nthId_eq] at h
    have hm := List.mem_range'_1.1 hm
    have hn := List.mem_range'_1.1 hn
    exact numberMark_injective hm.1 hn.1 (List.append_cancel_left h)
  have hsubset : candidates ⊆ used := fun t ht => by
    obtain ⟨k, hk, rfl⟩ := List.mem_map.1 ht
    have hk := List.mem_range'_1.1 hk
    exact hnone k hk.1 (by omega)
  have hlength := (hnodup.subperm hsubset).length_le
  simp only [candidates, List.length_map, List.length_range'] at hlength
  omega

/-- An identity is the first free one of its base. -/
def IsFirstFree (used : List Text) (base : Text) (n : Nat) (t : Text) : Prop :=
  ∃ k, n ≤ k ∧ t = nthId base k ∧ t ∉ used ∧ ∀ j, n ≤ j → j < k → nthId base j ∈ used

theorem isFirstFree_freeIdFrom {fuel n : Nat}
    (h : ∃ k, n ≤ k ∧ k ≤ n + fuel ∧ nthId base k ∉ used) :
    IsFirstFree used base n (freeIdFrom used base fuel n) := by
  induction fuel generalizing n with
  | zero =>
    obtain ⟨k, hnk, hkn, hk⟩ := h
    obtain rfl : k = n := by omega
    exact ⟨k, Nat.le_refl _, rfl, hk, fun j hj hjk => by omega⟩
  | succ fuel ih =>
    unfold freeIdFrom
    by_cases hn : nthId base n ∈ used
    · rw [if_pos hn]
      obtain ⟨k, hnk, hkn, hk⟩ := h
      have hne : k ≠ n := fun e => hk (e ▸ hn)
      obtain ⟨k, hnk, ht, hfree, hbefore⟩ := ih (n := n + 1) ⟨k, by omega, by omega, hk⟩
      refine ⟨k, by omega, ht, hfree, fun j hj hjk => ?_⟩
      rcases Nat.lt_or_ge n j with hlt | hge
      · exact hbefore j hlt hjk
      · obtain rfl : j = n := by omega
        exact hn
    · rw [if_neg hn]
      exact ⟨n, Nat.le_refl _, rfl, hn, fun j hj hjn => by omega⟩

theorem freeId_spec (used : List Text) (base : Text) :
    IsFirstFree used base 1 (freeId used base) :=
  isFirstFree_freeIdFrom (exists_free used base)

/-- Only the identities of its own base matter to what is free. -/
theorem freeId_congr (h : ∀ n, nthId base n ∈ used ↔ nthId base n ∈ used') :
    freeId used base = freeId used' base := by
  obtain ⟨k, hk, ht, hfree, hbefore⟩ := freeId_spec used base
  obtain ⟨k', hk', ht', hfree', hbefore'⟩ := freeId_spec used' base
  rw [ht] at hfree
  rw [ht'] at hfree'
  rw [ht, ht']
  rcases Nat.lt_trichotomy k k' with hlt | rfl | hgt
  · exact absurd ((h k).2 (hbefore' k hk hlt)) hfree
  · rfl
  · exact absurd ((h k').1 (hbefore k' hk' hgt)) hfree'

/-! ## What an identity says -/

theorem not_mem_of_areDigits {t : Text} {c : CodePoint} (h : Text.AreDigits t)
    (hc : c.isDigit = false) : c ∉ t := fun hmem => by
  have hdigit := h c hmem
  rw [hc] at hdigit
  cases hdigit

theorem colon_not_mem_numberMark (n : Nat) : CodePoint.ofChar ':' ∉ numberMark n := by
  unfold numberMark
  split
  · exact List.not_mem_nil
  · rw [List.mem_append, not_or]
    exact ⟨by decide, not_mem_of_areDigits (Text.areDigits_ofNat n) (by decide)⟩

theorem at_not_mem_name (r : Rule) : CodePoint.ofChar '@' ∉ r.name := by
  cases r <;> decide

/-- A numeral ends before its number mark. -/
theorem ofNat_append_numberMark_inj {l l' m n : Nat}
    (h : Text.ofNat l ++ numberMark m = Text.ofNat l' ++ numberMark n) :
    l = l' ∧ numberMark m = numberMark n := by
  have hmark (k : Nat) : numberMark k = [] ∨
      ∃ rest, numberMark k = CodePoint.ofChar '#' :: rest := by
    unfold numberMark
    split
    · exact .inl rfl
    · exact .inr ⟨_, rfl⟩
  have hnumeral (k j : Nat) : Text.beforeFirst '#' (Text.ofNat k ++ numberMark j) = Text.ofNat k := by
    have hnone : CodePoint.ofChar '#' ∉ Text.ofNat k :=
      not_mem_of_areDigits (Text.areDigits_ofNat k) (by decide)
    rcases hmark j with hj | ⟨rest, hj⟩
    · rw [hj, List.append_nil, Text.beforeFirst_of_not_mem hnone]
    · rw [hj, Text.beforeFirst_append hnone]
  have hline : Text.ofNat l = Text.ofNat l' := by rw [← hnumeral l m, h, hnumeral]
  rw [hline] at h
  exact ⟨Text.ofNat_injective hline, List.append_cancel_left h⟩

/-- An identity says the rule, the file and the line of its signal. -/
theorem eq_of_nthId_eq {a b : Signal} {m n : Nat} (h : nthId a.base m = nthId b.base n) :
    a.rule.name = b.rule.name ∧ a.path = b.path ∧ a.line.getD 0 = b.line.getD 0 ∧
      numberMark m = numberMark n := by
  have hform (s : Signal) (k : Nat) : nthId s.base k =
      (s.rule.name ++ CodePoint.ofChar '@' :: s.path) ++
        CodePoint.ofChar ':' :: (Text.ofNat (s.line.getD 0) ++ numberMark k) := by
    rw [nthId_eq, Signal.base]
    simp only [List.append_assoc]
    rfl
  have hnone (s : Signal) (k : Nat) :
      CodePoint.ofChar ':' ∉ Text.ofNat (s.line.getD 0) ++ numberMark k := by
    rw [List.mem_append, not_or]
    exact ⟨not_mem_of_areDigits (Text.areDigits_ofNat _) (by decide), colon_not_mem_numberMark k⟩
  rw [hform, hform] at h
  obtain ⟨hhead, htail⟩ := Text.append_cons_inj_of_last (hnone a m) (hnone b n) h
  obtain ⟨hrule, hpath⟩ :=
    Text.append_cons_inj_of_first (at_not_mem_name _) (at_not_mem_name _) hhead
  obtain ⟨hline, hmark⟩ := ofNat_append_numberMark_inj htail
  exact ⟨hrule, hpath, hline, hmark⟩

/-! ## Numbering -/

/-- Numbering does not depend on identities in use that no signal could get. -/
theorem numberFrom_congr {signals : List Signal}
    (h : ∀ s ∈ signals, ∀ n, nthId s.base n ∈ used ↔ nthId s.base n ∈ used') :
    numberFrom used signals = numberFrom used' signals := by
  induction signals generalizing used used' with
  | nil => rfl
  | cons s signals ih =>
    rw [List.forall_mem_cons] at h
    have hid := freeId_congr h.1
    unfold numberFrom
    dsimp only
    rw [hid]
    refine congrArg _ (ih fun s' hs' n => ?_)
    rw [List.mem_cons, List.mem_cons, h.2 s' hs' n]

/-- The identities in use after numbering signals. -/
def usedAfter (used : List Text) : List Signal → List Text
  | [] => used
  | s :: rest => usedAfter (freeId used s.base :: used) rest

theorem numberFrom_append (as bs : List Signal) :
    numberFrom used (as ++ bs) = numberFrom used as ++ numberFrom (usedAfter used as) bs := by
  induction as generalizing used with
  | nil => rfl
  | cons a as ih => exact congrArg _ ih

theorem mem_usedAfter {as : List Signal} {t : Text} (h : t ∈ usedAfter used as) :
    t ∈ used ∨ ∃ a ∈ as, ∃ k, t = nthId a.base k := by
  induction as generalizing used with
  | nil => exact .inl h
  | cons a as ih =>
    rcases ih h with hused | ⟨a', ha', k, rfl⟩
    · rcases List.mem_cons.1 hused with rfl | hused
      · obtain ⟨k, -, hk, -⟩ := freeId_spec used a.base
        exact .inr ⟨a, List.mem_cons_self .., k, hk⟩
      · exact .inl hused
    · exact .inr ⟨a', List.mem_cons_of_mem _ ha', k, rfl⟩

/-- Signals of files of which none is a file of other signals are numbered by themselves. -/
theorem number_append {as bs : List Signal} (h : ∀ a ∈ as, ∀ b ∈ bs, a.path ≠ b.path) :
    number (as ++ bs) = number as ++ number bs := by
  unfold number
  rw [numberFrom_append]
  refine congrArg _ (numberFrom_congr fun b hb n => ?_)
  constructor
  · intro hmem
    rcases mem_usedAfter hmem with hnil | ⟨a, ha, k, hk⟩
    · exact hnil
    · exact absurd (eq_of_nthId_eq hk).2.1.symm (h a ha b hb)
  · intro hnil
    cases hnil

/-- The signals of several files are numbered file by file. -/
theorem number_flatMap {α : Type} {xs : List α} {path : α → Text} {signals : α → List Signal}
    (hnodup : (xs.map path).Nodup) (hpath : ∀ x ∈ xs, ∀ s ∈ signals x, s.path = path x) :
    number (xs.flatMap signals) = xs.flatMap fun x => number (signals x) := by
  induction xs with
  | nil => rfl
  | cons x xs ih =>
    rw [List.map_cons, List.nodup_cons] at hnodup
    rw [List.forall_mem_cons] at hpath
    rw [List.flatMap_cons, List.flatMap_cons, number_append, ih hnodup.2 hpath.2]
    intro a ha b hb heq
    obtain ⟨y, hy, hb⟩ := List.mem_flatMap.1 hb
    have hsame : path x = path y :=
      (hpath.1 a ha).symm.trans (heq.trans (hpath.2 y hy b hb))
    exact hnodup.1 (hsame ▸ List.mem_map_of_mem hy)

/-! ## One number after the other -/

/-- The identity of the first issue of a rule, a file and a line. -/
def placeId (rule path : Text) (line : Nat) : Text :=
  rule ++ "@" ++ path ++ ":" ++ Text.ofNat line

/-- Whether an issue is one of a rule, a file and a line, the line zero if there is none. -/
def isAt (rule path : Text) (line : Nat) (i : Issue) : Bool :=
  i.rule = rule && i.path = path && i.line.getD 0 = line

theorem isAt_iff {rule path : Text} {line : Nat} {i : Issue} : isAt rule path line i = true ↔
    i.rule = rule ∧ i.path = path ∧ i.line.getD 0 = line := by
  simp only [isAt, Bool.and_eq_true, decide_eq_true_eq, and_assoc]

/-- Whether an issue is one of the rule, the file and the line of a signal. -/
def isLike (s : Signal) (i : Issue) : Bool := isAt s.rule.name s.path (s.line.getD 0) i

/-- The identities in use that a signal could get are the first ones of its base, as many as there
are issues of its rule, file and line. -/
def Covers (used : List Text) (issues : List Issue) : Prop :=
  ∀ s : Signal, ∀ n, 1 ≤ n → (nthId s.base n ∈ used ↔ n ≤ issues.countP (isLike s))

theorem covers_nil : Covers [] [] := by
  intro s n hn
  rw [List.countP_nil]
  exact iff_of_false List.not_mem_nil (by omega)

/-- The free identity comes next after those of the same rule, file and line. -/
theorem freeId_eq {issues : List Issue} (h : Covers used issues) (s : Signal) :
    freeId used s.base = nthId s.base (issues.countP (isLike s) + 1) := by
  obtain ⟨k, hk, ht, hfree, hbefore⟩ := freeId_spec used s.base
  rw [ht, h s k hk] at hfree
  have hle : k ≤ issues.countP (isLike s) + 1 := by
    by_contra hlt
    have hused := hbefore (issues.countP (isLike s) + 1) (by omega) (by omega)
    rw [h s _ (by omega)] at hused
    omega
  rw [ht]
  congr 1
  omega

theorem isLike_ofSignal {s s' : Signal} {id : Text} : isLike s' (ofSignal id s) = true ↔
    s.rule.name = s'.rule.name ∧ s.path = s'.path ∧ s.line.getD 0 = s'.line.getD 0 :=
  isAt_iff

/-- One more issue has the next identity of its base. -/
theorem Covers.cons {issues : List Issue} (h : Covers used issues) (s : Signal) (id : Text) :
    Covers (nthId s.base (issues.countP (isLike s) + 1) :: used) (ofSignal id s :: issues) := by
  intro s' n hn
  rw [List.mem_cons, h s' n hn, List.countP_cons]
  by_cases hlike : isLike s' (ofSignal id s) = true
  · obtain ⟨hrule, hpath, hline⟩ := isLike_ofSignal.1 hlike
    have hbase : s'.base = s.base := by rw [Signal.base, Signal.base, hrule, hpath, hline]
    have hcount : isLike s' = isLike s := by
      funext i
      rw [isLike, isLike, hrule, hpath, hline]
    rw [if_pos hlike, hbase, hcount, nthId_eq, nthId_eq]
    constructor
    · rintro (hid | hle)
      · exact (numberMark_injective hn (by omega) (List.append_cancel_left hid)).le
      · omega
    · intro hle
      rcases Nat.lt_or_ge (issues.countP (isLike s)) n with hlt | hge
      · obtain rfl : n = issues.countP (isLike s) + 1 := by omega
        exact .inl rfl
      · exact .inr hge
  · rw [if_neg hlike]
    refine or_iff_right fun hid => ?_
    obtain ⟨hrule, hpath, hline, -⟩ := eq_of_nthId_eq hid
    exact absurd (isLike_ofSignal.2 ⟨hrule.symm, hpath.symm, hline.symm⟩) hlike

/-- The issues of one rule, file and line get one number after the other. -/
theorem ids_numberFrom {issues : List Issue} (h : Covers used issues) (signals : List Signal)
    (rule path : Text) (line : Nat) :
    ((numberFrom used signals).filter (isAt rule path line)).map id =
      (List.range' (issues.countP (isAt rule path line) + 1)
        ((numberFrom used signals).countP (isAt rule path line))).map
          (nthId (placeId rule path line)) := by
  induction signals generalizing used issues with
  | nil => rfl
  | cons s signals ih =>
    have hnext := ih (h.cons s (freeId used s.base))
    rw [← freeId_eq h s] at hnext
    rw [numberFrom, List.filter_cons, List.countP_cons]
    rw [List.countP_cons] at hnext
    by_cases hat : isAt rule path line (ofSignal (freeId used s.base) s) = true
    · rw [if_pos hat] at hnext
      rw [if_pos hat, if_pos hat, List.map_cons, hnext, List.range'_succ, List.map_cons]
      obtain ⟨rfl, rfl, rfl⟩ := isAt_iff.1 hat
      exact congrArg (· :: _) (freeId_eq h s)
    · rw [if_neg hat, Nat.add_zero] at hnext
      rw [if_neg hat, if_neg hat, hnext]
      rfl

theorem IsFirstFree.congr {n : Nat} {t : Text} (h : IsFirstFree used base n t)
    (hsame : ∀ t, t ∈ used ↔ t ∈ used') : IsFirstFree used' base n t := by
  obtain ⟨k, hk, ht, hfree, hbefore⟩ := h
  exact ⟨k, hk, ht, mt (hsame t).2 hfree, fun j hj hjk => (hsame _).1 (hbefore j hj hjk)⟩

/-- Each issue got the first identity that those before it left free. -/
theorem isFirstFree_numberFrom {signals : List Signal} {before after : List Issue} {i : Issue}
    (h : numberFrom used signals = before ++ i :: after) :
    IsFirstFree (before.map id ++ used) (placeId i.rule i.path (i.line.getD 0)) 1 i.id := by
  induction signals generalizing used before with
  | nil => simp [numberFrom] at h
  | cons s signals ih =>
    rw [numberFrom] at h
    cases before with
    | nil =>
      obtain ⟨rfl, -⟩ := List.cons.inj h
      exact freeId_spec used s.base
    | cons first before =>
      obtain ⟨rfl, hrest⟩ := List.cons.inj h
      refine (ih hrest).congr fun t => ?_
      simp only [List.mem_append, List.mem_cons, List.map_cons, ofSignal]
      tauto

theorem nodup_numberFrom (used : List Text) (signals : List Signal) :
    ((numberFrom used signals).map id).Nodup ∧ ∀ t ∈ (numberFrom used signals).map id, t ∉ used := by
  induction signals generalizing used with
  | nil => exact ⟨List.nodup_nil, List.forall_mem_nil _⟩
  | cons s signals ih =>
    obtain ⟨hnodup, hfresh⟩ := ih (freeId used s.base :: used)
    obtain ⟨-, -, -, hfree, -⟩ := freeId_spec used s.base
    refine ⟨List.nodup_cons.2 ⟨fun hmem => hfresh _ hmem (List.mem_cons_self ..), hnodup⟩, ?_⟩
    refine List.forall_mem_cons.2 ⟨hfree, fun t ht hused => ?_⟩
    exact hfresh t ht (List.mem_cons_of_mem _ hused)

/-- Issues with identities of their own.  The `k`-th of one rule, file and line has that number, the
first one none, and that is the first identity that the issues before it leave free. -/
structure AreIdentified (issues : List Issue) : Prop where
  nodup : (issues.map id).Nodup
  first_id : ∀ (rule path : Text) (line : Nat) (i : Issue),
    (issues.filter (isAt rule path line))[0]? = some i →
      i.id = rule ++ "@" ++ path ++ ":" ++ Text.ofNat line
  later_id : ∀ (rule path : Text) (line k : Nat) (i : Issue), 1 < k →
    (issues.filter (isAt rule path line))[k - 1]? = some i →
      i.id = rule ++ "@" ++ path ++ ":" ++ Text.ofNat line ++ "#" ++ Text.ofNat k
  isFirstFree : ∀ before i after, issues = before ++ i :: after →
    IsFirstFree (before.map id) (placeId i.rule i.path (i.line.getD 0)) 1 i.id

theorem id_of_getElem? {signals : List Signal} {rule path : Text} {line k : Nat} {i : Issue}
    (h : ((number signals).filter (isAt rule path line))[k]? = some i) :
    i.id = nthId (placeId rule path line) (k + 1) := by
  have hlength := (List.getElem?_eq_some_iff.1 h).1
  rw [← List.countP_eq_length_filter] at hlength
  have hids := congrArg (·[k]?) (ids_numberFrom covers_nil signals rule path line)
  rw [← number, List.getElem?_map, List.getElem?_map, h, List.getElem?_range' hlength] at hids
  rw [Option.some.inj hids, List.countP_nil]
  congr 1
  omega

theorem areIdentified_number (signals : List Signal) : AreIdentified (number signals) where
  nodup := (nodup_numberFrom [] signals).1
  first_id rule path line i h := id_of_getElem? h
  later_id rule path line k i hk h := by
    have hnumber : k - 1 + 1 = k := by omega
    rw [id_of_getElem? h, hnumber, nthId, if_neg (by omega), placeId]
  isFirstFree before i after h := by
    simpa using isFirstFree_numberFrom h

end Issue

namespace Analysis

/-- Whenever an analysis succeeds, its issues have identities of their own, each with the number
that it has among those of its rule, file and line.  The search for a free identity ends, whatever
identities are in use. -/
theorem issues_identified {s : Settings} {snapshot : Snapshot} {a : Analysis}
    (h : ofSnapshot s snapshot = .ok a) :
    Issue.AreIdentified a.issues ∧
      ∀ used base, Issue.IsFirstFree used base 1 (Issue.freeId used base) := by
  obtain ⟨files, -, rfl⟩ := Step.map_eq_ok.1 h
  exact ⟨Issue.areIdentified_number _, Issue.freeId_spec⟩

/-- Two imports on one line of a file, and a file whose name goes on like their identities. -/
def crowdedLine : Snapshot := Snapshot.ofFiles [
  ⟨"a@b:1.ts", .text "import '@lovable/ui'; import('@lovable/toast')\n"⟩,
  ⟨"a@b:1.ts:1#2.ts", .text "import '@v0/ui'\n"⟩]

theorem crowdedLine_identified : ∃ a, ofSnapshot {} crowdedLine = .ok a ∧
    Issue.AreIdentified a.issues ∧
    a.issues.map Issue.id = ["proprietary-import@a@b:1.ts:1", "proprietary-import@a@b:1.ts:1#2",
      "proprietary-import@a@b:1.ts:1#2.ts:1"] := by
  have hids : (ofSnapshot {} crowdedLine).toOption.map (·.issues.map Issue.id) =
      some (["proprietary-import@a@b:1.ts:1", "proprietary-import@a@b:1.ts:1#2",
        "proprietary-import@a@b:1.ts:1#2.ts:1"] : List Text) := by decide +kernel
  cases ha : ofSnapshot {} crowdedLine with
  | error e =>
    rw [ha] at hids
    cases hids
  | ok a =>
    rw [ha] at hids
    exact ⟨a, rfl, (issues_identified ha).1, Option.some.inj hids⟩

end Analysis

end Decouple
