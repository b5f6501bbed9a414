import Decouple.Text.Case
import Mathlib.Data.List.Forall2

/-!
# Letters in lower case

A pattern that disregards case compares code points one for one (`sameLetter`), while a text is put
in lower case as a whole (`lowerCase`).  The two do not agree: a long s spells an s and an i without
a dot spells an i, but both are lower-case letters of their own, and a capital I with a dot becomes
two code points.  These three are all that there is where ASCII letters are spelled
(`lowerCase_eq_of_spells`, `not_mem_strays_of_lowerCase_eq`).
-/

namespace Decouple

namespace CodePoint

variable {c l : CodePoint}

/-- The code points that spell an ASCII letter and have another lower case. -/
def strays : List CodePoint :=
  [⟨0x17F, by decide⟩, ⟨0x131, by decide⟩, ⟨0x130, by decide⟩]

theorem lower_of_isAscii (h : c.isAscii = true) :
    c.lower.isAscii = true ∧ c.lower.lower = c.lower := by
  have hall : ∀ n : Fin 128, (ofNat n).lower.isAscii = true ∧
      (ofNat n).lower.lower = (ofNat n).lower := by decide +kernel
  have hn : c.val < 128 := of_decide_eq_true h
  have hc := hall ⟨c.val, hn⟩
  rwa [ofNat_val] at hc

/-- Beyond ASCII a lower case is found by a run, or there is none. -/
theorem lower_eq_or_mem_lowerRuns (h : ¬c.val < 128) : c.lower = c ∨ ∃ run ∈ lowerRuns,
    run.first ≤ c.val ∧ c.val ≤ run.last ∧ c.lower = ofNat ((c.val : Int) + run.shift).toNat := by
  unfold lower
  rw [if_neg h]
  split
  · next run hrun =>
    have hin := List.find?_some hrun
    simp only [Bool.and_eq_true, decide_eq_true_eq] at hin
    exact .inr ⟨run, List.mem_of_find?_eq_some hrun, hin.1.1, hin.1.2, rfl⟩
  · exact .inl rfl

/-- Beyond ASCII a code point that is not its own lower case has one beyond ASCII, which is neither
the long s nor the i without a dot, but for the capital I with a dot and the sign of the kelvin. -/
theorem lower_beyond (h : ¬c.val < 128) (hdotted : c.val ≠ 0x130) (hkelvin : c.val ≠ 0x212A) :
    c.lower = c ∨ 128 ≤ c.lower.val ∧ c.lower.val ≠ 0x131 ∧ c.lower.val ≠ 0x17F := by
  have hruns : ∀ run ∈ lowerRuns, (run.first = 0x130 ∧ run.last = 0x130) ∨
      (run.first = 0x212A ∧ run.last = 0x212A) ∨
      (128 ≤ run.first + run.shift ∧ run.last + run.shift < 0x110000 ∧
        (run.last + run.shift < 0x131 ∨ 0x131 < run.first + run.shift) ∧
        (run.last + run.shift < 0x17F ∨ 0x17F < run.first + run.shift)) := by decide +kernel
  rcases lower_eq_or_mem_lowerRuns h with hsame | ⟨run, hrun, hfirst, hlast, hlower⟩
  · exact .inl hsame
  · rcases hruns run hrun with hr | hr | ⟨hlow, hhigh, hi, hs⟩
    · omega
    · omega
    · have hval : c.lower.val = ((c.val : Int) + run.shift).toNat := by
        rw [hlower, val_ofNat (by omega)]
      exact .inr (by omega)

/-- No lower case is below the letters but its own. -/
theorem lower_eq_of_le (h : c.lower.val ≤ 64) : c.lower = c := by
  by_cases hascii : c.val < 128
  · have hall : ∀ n : Fin 128, (ofNat n).lower.val ≤ 64 → (ofNat n).lower = ofNat n := by
      decide +kernel
    have hc := hall ⟨c.val, hascii⟩
    rw [ofNat_val] at hc
    exact hc h
  · have hruns : ∀ run ∈ lowerRuns, 64 < run.first + run.shift ∧ run.last + run.shift < 0x110000 := by
      decide +kernel
    rcases lower_eq_or_mem_lowerRuns hascii with hsame | ⟨run, hrun, hfirst, hlast, hlower⟩
    · exact hsame
    · have hrange := hruns run hrun
      rw [hlower, val_ofNat (by omega)] at h
      omega

/-- What is below the letters is spelled in one way, and spells nothing else. -/
theorem eq_of_sameLetter (h : sameLetter l c = true) (hlow : l.val ≤ 64 ∨ c.val ≤ 64) : l = c := by
  have hself {a : CodePoint} (ha : a.val ≤ 64) : a.lower = a := by
    have hall : ∀ n : Fin 65, (ofNat n).lower = ofNat n := by decide +kernel
    have ha' := hall ⟨a.val, Nat.lt_succ_of_le ha⟩
    rwa [ofNat_val] at ha'
  have hspellings : ∀ p ∈ otherSpellings, 64 < p.1 ∧ ∀ n ∈ p.2, 64 < n := by decide +kernel
  simp only [sameLetter, Bool.or_eq_true, beq_iff_eq, Bool.and_eq_true] at h
  rcases h with h | ⟨-, h⟩
  · rcases hlow with hl | hc
    · rw [hself hl] at h
      rw [← h, lower_eq_of_le (by rwa [h])]
    · rw [hself hc] at h
      rw [h, lower_eq_of_le (by rwa [← h])]
  · split at h
    · next spellings hlookup =>
      obtain ⟨before, after, hsplit, -⟩ := List.lookup_eq_some_iff.1 hlookup
      obtain ⟨hbase, hmore⟩ := hspellings (l.lower.val, spellings) (by rw [hsplit]; simp)
      have hlast := hmore _ (List.contains_iff_mem.1 h)
      rcases hlow with hl | hc
      · rw [hself hl] at hbase
        omega
      · rw [hself hc] at hlast
        omega
    · cases h

theorem val_ne_of_not_mem_strays (h : c ∉ strays) :
    c.val ≠ 0x17F ∧ c.val ≠ 0x131 ∧ c.val ≠ 0x130 := by
  refine ⟨fun e => h ?_, fun e => h ?_, fun e => h ?_⟩
  · exact (ext e : c = ⟨0x17F, by decide⟩) ▸ by decide
  · exact (ext e : c = ⟨0x131, by decide⟩) ▸ by decide
  · exact (ext e : c = ⟨0x130, by decide⟩) ▸ by decide

/-- No lower case is a long s or an i without a dot but their own. -/
theorem mem_strays_of_lower (h : c.lower.val = 0x131 ∨ c.lower.val = 0x17F) : c ∈ strays := by
  by_contra hstray
  obtain ⟨hs, hi, hdotted⟩ := val_ne_of_not_mem_strays hstray
  by_cases hascii : c.val < 128
  · have hlower : c.lower.val < 128 :=
      of_decide_eq_true (lower_of_isAscii (decide_eq_true hascii)).1
    omega
  · by_cases hkelvin : c.val = 0x212A
    · have hsign : c = ⟨0x212A, by decide⟩ := ext hkelvin
      rw [hsign] at h
      revert h
      decide +kernel
    · rcases lower_beyond hascii hdotted hkelvin with hsame | hother
      · rw [hsame] at h
        omega
      · omega

/-- What spells an ASCII letter is a stray, or has the lower case of the letter on its own. -/
theorem mem_strays_or_lower_eq (hl : l.isAscii = true) (h : sameLetter l c = true) :
    c ∈ strays ∨ c.lower = l.lower ∧ c.val ≠ 0x130 ∧ c.val ≠ 0x3A3 := by
  by_cases hstray : c ∈ strays
  · exact .inl hstray
  have hbase := (lower_of_isAscii hl).1
  have hlower : c.lower = l.lower := by
    simp only [sameLetter, Bool.or_eq_true, beq_iff_eq, Bool.and_eq_true] at h
    rcases h with h | ⟨-, h⟩
    · exact h
    · have hspellings : ∀ p ∈ otherSpellings, p.1 < 128 → p.2 = [0x131] ∨ p.2 = [0x17F] := by
        decide +kernel
      split at h
      · next spellings hlookup =>
        obtain ⟨before, after, hsplit, -⟩ := List.lookup_eq_some_iff.1 hlookup
        have hmem : (l.lower.val, spellings) ∈ otherSpellings := by
          rw [hsplit]
          exact List.mem_append_right _ (List.mem_cons_self ..)
        have hval := List.contains_iff_mem.1 h
        refine absurd (mem_strays_of_lower ?_) hstray
        rcases hspellings _ hmem (of_decide_eq_true hbase) with hs | hs
        · rw [show spellings = [0x131] from hs] at hval
          exact .inl (List.mem_singleton.1 hval)
        · rw [show spellings = [0x17F] from hs] at hval
          exact .inr (List.mem_singleton.1 hval)
      · cases h
  refine .inr ⟨hlower, (val_ne_of_not_mem_strays hstray).2.2, fun hsigma => ?_⟩
  have hsign : c = ⟨0x3A3, by decide⟩ := ext hsigma
  have hnot : (⟨0x3A3, by decide⟩ : CodePoint).lower.isAscii = false := by decide +kernel
  rw [← hlower, hsign, hnot] at hbase
  cases hbase

end CodePoint

namespace Text

open CodePoint (strays sameLetter)

variable {t word : Text} {c : CodePoint}

/-- What has the lower case of a text, code point by code point, spells it. -/
theorem spells_of_map_lower (h : t.map CodePoint.lower = word.map CodePoint.lower) :
    List.Forall₂ (fun l c => sameLetter l c = true) word t := by
  have heq : List.Forall₂ (· = ·) (word.map CodePoint.lower) (t.map CodePoint.lower) := by
    rw [List.forall₂_eq_eq_eq, h]
  rw [List.forall₂_map_left_iff, List.forall₂_map_right_iff] at heq
  exact heq.imp fun l c hlc => by simp [sameLetter, hlc]

/-- What spells an ASCII text without strays has its lower case, code point by code point. -/
theorem map_lower_of_spells (h : List.Forall₂ (fun l c => sameLetter l c = true) word t)
    (hword : ∀ l ∈ word, l.isAscii = true) (hplain : ∀ c ∈ t, c ∉ strays) :
    t.map CodePoint.lower = word.map CodePoint.lower := by
  induction h with
  | nil => rfl
  | @cons l c word t hlc _ ih =>
    rw [List.forall_mem_cons] at hword hplain
    obtain ⟨hlower, -⟩ := (CodePoint.mem_strays_or_lower_eq hword.1 hlc).resolve_left hplain.1
    rw [List.map_cons, List.map_cons, hlower, ih hword.2 hplain.2]

/-- A text that spells ASCII letters without strays has their lower case. -/
theorem lowerAfter_eq_map (h : List.Forall₂ (fun l c => sameLetter l c = true) word t)
    (hword : ∀ l ∈ word, l.isAscii = true) (hplain : ∀ c ∈ t, c ∉ strays) (before : Text) :
    lowerAfter before t = word.map CodePoint.lower := by
  induction h generalizing before with
  | nil => rfl
  | @cons l c word t hlc _ ih =>
    rw [List.forall_mem_cons] at hword hplain
    obtain ⟨hlower, hdotted, hsigma⟩ :=
      (CodePoint.mem_strays_or_lower_eq hword.1 hlc).resolve_left hplain.1
    rw [lowerAfter, if_neg (by simpa using hdotted), if_neg (by simpa using hsigma), hlower,
      ih hword.2 hplain.2]
    rfl

/-- A stray stays beyond ASCII in lower case. -/
theorem exists_mem_lowerAfter (hc : c ∈ t) (hstray : c ∈ strays) (before : Text) :
    ∃ d ∈ lowerAfter before t, d.isAscii = false := by
  induction t generalizing before with
  | nil => cases hc
  | cons a t ih =>
    rw [lowerAfter]
    rcases List.mem_cons.1 hc with rfl | hc
    · have hhere : ∀ c ∈ strays, ∃ d ∈ (if c.val == 0x130 then
          [CodePoint.ofNat 0x69, CodePoint.ofNat 0x307] else [c.lower]), d.isAscii = false := by
        decide +kernel
      have hsigma : ∀ c ∈ strays, (c.val == 0x3A3) = false := by decide
      obtain ⟨d, hd, hbeyond⟩ := hhere c hstray
      refine ⟨d, List.mem_append_left _ ?_, hbeyond⟩
      rwa [hsigma c hstray]
    · obtain ⟨d, hd, hbeyond⟩ := ih hc (a :: before)
      exact ⟨d, List.mem_append_right _ hd, hbeyond⟩

theorem lowerCase_of_isAscii (h : ∀ c ∈ word, c.isAscii = true) :
    lowerCase word = word.map CodePoint.lower := by
  have hself : List.Forall₂ (fun l c => sameLetter l c = true) word word :=
    List.forall₂_same.2 fun c _ => by simp [sameLetter]
  have hstrays : ∀ c ∈ strays, c.isAscii = false := by decide
  refine lowerAfter_eq_map hself h (fun c hc hstray => ?_) []
  exact Bool.false_ne_true ((hstrays c hstray).symm.trans (h c hc))

/-- What spells the lower case of an ASCII text, without strays, has that lower case. -/
theorem lowerCase_eq_of_spells (hword : ∀ c ∈ word, c.isAscii = true)
    (h : List.Forall₂ (fun l c => sameLetter l c = true) (lowerCase word) t)
    (hplain : ∀ c ∈ t, c ∉ strays) : lowerCase t = lowerCase word := by
  have hlower := lowerCase_of_isAscii hword
  rw [hlower] at h
  have hascii : ∀ l ∈ word.map CodePoint.lower, l.isAscii = true := by
    intro l hl
    obtain ⟨c, hc, rfl⟩ := List.mem_map.1 hl
    exact (CodePoint.lower_of_isAscii (hword c hc)).1
  rw [lowerCase, lowerAfter_eq_map h hascii hplain, List.map_map, hlower]
  exact List.map_congr_left fun c hc => (CodePoint.lower_of_isAscii (hword c hc)).2

/-- What has the lower case of an ASCII text has no strays. -/
theorem not_mem_strays_of_lowerCase_eq (hword : ∀ c ∈ word, c.isAscii = true)
    (h : lowerCase t = lowerCase word) (hc : c ∈ t) : c ∉ strays := by
  intro hstray
  obtain ⟨d, hd, hbeyond⟩ := exists_mem_lowerAfter hc hstray []
  have hmem : d ∈ word.map CodePoint.lower := by
    rw [← lowerCase_of_isAscii hword, ← h]
    exact hd
  obtain ⟨a, ha, rfl⟩ := List.mem_map.1 hmem
  rw [(CodePoint.lower_of_isAscii (hword a ha)).1] at hbeyond
  cases hbeyond

end Text

end Decouple
