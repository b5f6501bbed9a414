import Decouple.Text.Numeral
import Mathlib.Algebra.Group.Nat.Defs
import Mathlib.Data.List.Induction

/-!
# Numerals

`Text.ofNat` writes a number with digits that read as it again (`decimalValue_ofNat`), without a
zero at its start (`exists_ofNat_eq_cons`), and as short as the number is small
(`length_ofNat_le`).  A number below 65536 has four hexadecimal digits (`hex_four`), each of which
reads as what it stands for (`hexValue?_digit`).
-/

namespace Decouple

namespace Text

open CodePoint (isDigit)

/-- A text of digits. -/
def AreDigits (t : Text) : Prop := ∀ c ∈ t, c.isDigit = true

theorem AreDigits.append {t u : Text} (ht : AreDigits t) (hu : AreDigits u) :
    AreDigits (t ++ u) := by
  intro c hc
  rcases List.mem_append.1 hc with hc | hc
  · exact ht c hc
  · exact hu c hc

theorem areDigits_cons {c : CodePoint} {t : Text} :
    AreDigits (c :: t) ↔ c.isDigit = true ∧ AreDigits t := List.forall_mem_cons

theorem areDigits_zeros (n : Nat) : AreDigits (zeros n) := by
  intro c hc
  rw [List.eq_of_mem_replicate hc]
  rfl

/-! ## Digits -/

theorem val_digit {n : Nat} (h : n < 10) : (digit n).val = 48 + n := by
  rw [digit, if_pos h, CodePoint.val_ofNat (by omega)]

theorem isDigit_digit {n : Nat} (h : n < 10) : (digit n).isDigit = true := by
  rw [isDigit, val_digit h]
  simp
  omega

theorem digit_ne_zero {n : Nat} (h : n < 10) (hn : 0 < n) : digit n ≠ '0' := by
  intro hz
  have hv := congrArg CodePoint.val hz
  rw [val_digit h] at hv
  exact absurd hv (by simp [CodePoint.ofChar]; omega)

/-! ## Digits of a number -/

variable {base fuel n k : Nat} {acc : Text}

/-- Digits put before a text read as the number, and then the text is read on from there. -/
theorem foldl_digitsOnto (h : n < 2 ^ fuel) :
    (digitsOnto 10 fuel n acc).foldl (fun n c => n * 10 + (c.val - 48)) 0 =
      acc.foldl (fun n c => n * 10 + (c.val - 48)) n := by
  induction fuel generalizing n acc with
  | zero =>
    obtain rfl : n = 0 := by omega
    rfl
  | succ fuel ih =>
    rw [digitsOnto]
    split
    · next hn => simp [val_digit hn]
    · next hn =>
      have hsmall : n / 10 < 2 ^ fuel := by
        rw [Nat.pow_succ] at h
        omega
      have hdigit := val_digit (Nat.mod_lt n (by decide : 0 < 10))
      rw [ih hsmall, List.foldl_cons, hdigit]
      congr 1
      omega

theorem areDigits_digitsOnto (h : AreDigits acc) : AreDigits (digitsOnto 10 fuel n acc) := by
  induction fuel generalizing n acc with
  | zero => exact h
  | succ fuel ih =>
    rw [digitsOnto]
    split
    · next hn => exact areDigits_cons.2 ⟨isDigit_digit hn, h⟩
    · exact ih (areDigits_cons.2 ⟨isDigit_digit (Nat.mod_lt n (by decide)), h⟩)

/-- The first digit of a positive number is not zero. -/
theorem exists_digitsOnto (hn : 0 < n) (h : n < 2 ^ fuel) :
    ∃ c rest, digitsOnto 10 fuel n acc = c :: rest ∧ c ≠ '0' := by
  induction fuel generalizing n acc with
  | zero => omega
  | succ fuel ih =>
    rw [digitsOnto]
    split
    · next hten => exact ⟨digit n, acc, rfl, digit_ne_zero hten hn⟩
    · next hten =>
      refine ih (by omega) ?_
      rw [Nat.pow_succ] at h
      omega

theorem length_digitsOnto_le (acc : Text) (hk : 0 < k) (h : n < 10 ^ k) :
    (digitsOnto 10 fuel n acc).length ≤ k + acc.length := by
  induction fuel generalizing n acc k with
  | zero => exact Nat.le_add_left ..
  | succ fuel ih =>
    rw [digitsOnto]
    split
    · rw [List.length_cons]
      omega
    · next hten =>
      obtain ⟨k, rfl⟩ : ∃ j, k = j + 1 := ⟨k - 1, by omega⟩
      have hk' : 0 < k := by
        rcases Nat.eq_zero_or_pos k with rfl | hk'
        · omega
        · exact hk'
      have hsmall : n / 10 < 10 ^ k := by
        rw [Nat.pow_succ] at h
        omega
      have := ih (digit (n % 10) :: acc) hk' hsmall
      rw [List.length_cons] at this
      omega

/-! ## Whole numbers -/

theorem decimalValue_ofNat (n : Nat) : decimalValue (ofNat n) = n :=
  foldl_digitsOnto Nat.lt_log2_self

theorem areDigits_ofNat (n : Nat) : AreDigits (ofNat n) :=
  areDigits_digitsOnto fun c hc => by cases hc

/-- A positive number starts with a digit other than zero. -/
theorem exists_ofNat_eq_cons (h : 0 < n) : ∃ c rest, ofNat n = c :: rest ∧ c ≠ '0' :=
  exists_digitsOnto h Nat.lt_log2_self

theorem ofNat_zero : ofNat 0 = zeros 1 := rfl

theorem length_ofNat_le (hk : 0 < k) (h : n < 10 ^ k) : (ofNat n).length ≤ k :=
  length_digitsOnto_le [] hk h

/-- A numeral of so many digits stands for a number that is as small. -/
theorem decimalValue_lt {t : Text} (h : AreDigits t) : decimalValue t < 10 ^ t.length := by
  induction t using List.reverseRecOn with
  | nil => exact Nat.one_pos
  | append_singleton t c ih =>
    have hc : c.isDigit = true := h c (by simp)
    have ht := ih fun d hd => h d (by simp [hd])
    simp only [isDigit, Bool.and_eq_true, decide_eq_true_eq] at hc
    rw [decimalValue] at ht ⊢
    rw [List.foldl_append, List.foldl_cons, List.foldl_nil, List.length_append,
      List.length_singleton, Nat.pow_succ]
    omega

/-! ## Hexadecimal numerals -/

theorem hexValue?_digit (h : n < 16) : (digit n).hexValue? = some n := by
  have hall : ∀ n < 16, (digit n).hexValue? = some n := by decide
  exact hall n h

/-- Enough fuel is enough. -/
theorem digitsOnto_congr {fuel' : Nat} (hbase : 2 ≤ base) (hpos : 0 < fuel) (hpos' : 0 < fuel')
    (h : n < 2 ^ fuel) (h' : n < 2 ^ fuel') :
    digitsOnto base fuel n acc = digitsOnto base fuel' n acc := by
  induction fuel generalizing fuel' n acc with
  | zero => omega
  | succ fuel ih =>
    obtain ⟨fuel', rfl⟩ : ∃ k, fuel' = k + 1 := ⟨fuel' - 1, by omega⟩
    rw [digitsOnto, digitsOnto]
    split
    · rfl
    · next hn =>
      have hfewer {k : Nat} (hk : n < 2 ^ (k + 1)) : 0 < k ∧ n / base < 2 ^ k := by
        rw [Nat.pow_succ] at hk
        refine ⟨?_, ?_⟩
        · rcases Nat.eq_zero_or_pos k with rfl | hk'
          · omega
          · exact hk'
        · rw [Nat.div_lt_iff_lt_mul (by omega)]
          exact Nat.lt_of_lt_of_le hk (Nat.mul_le_mul_left _ hbase)
      exact ih (hfewer h).1 (hfewer h').1 (hfewer h).2 (hfewer h').2

/-- A number of 16 bits has four hexadecimal digits. -/
theorem hex_four (h : n < 0x10000) :
    hex 4 n = [digit (n / 4096), digit (n / 256 % 16), digit (n / 16 % 16), digit (n % 16)] := by
  have hfuel : digitsOnto 16 (n.log2 + 1) n [] = digitsOnto 16 17 n [] :=
    digitsOnto_congr (by decide) (Nat.succ_pos _) (by decide) Nat.lt_log2_self (by omega)
  have hzero : digit 0 = '0' := rfl
  have hpad {k : Nat} (hk : k = 0) : CodePoint.ofChar '0' = digit k := by rw [hk, hzero]
  rw [hex, hfuel, padStart]
  by_cases h₁ : n < 16
  · have : n % 16 = n := Nat.mod_eq_of_lt h₁
    rw [digitsOnto, if_pos h₁, this, ← hpad (k := n / 4096) (by omega),
      ← hpad (k := n / 256 % 16) (by omega), ← hpad (k := n / 16 % 16) (by omega)]
    rfl
  rw [digitsOnto, if_neg h₁]
  by_cases h₂ : n / 16 < 16
  · have : n / 16 % 16 = n / 16 := Nat.mod_eq_of_lt h₂
    rw [digitsOnto, if_pos h₂, this, ← hpad (k := n / 4096) (by omega),
      ← hpad (k := n / 256 % 16) (by omega)]
    rfl
  rw [digitsOnto, if_neg h₂]
  have h₃' : n / 16 / 16 = n / 256 := by omega
  by_cases h₃ : n / 16 / 16 < 16
  · have : n / 256 % 16 = n / 256 := Nat.mod_eq_of_lt (by omega)
    rw [digitsOnto, if_pos h₃, this, h₃', ← hpad (k := n / 4096) (by omega)]
    rfl
  rw [digitsOnto, if_neg h₃]
  have h₄ : n / 16 / 16 / 16 = n / 4096 := by omega
  rw [digitsOnto, if_pos (by omega), h₃', ← h₄, h₃']
  rfl

theorem length_hex_four (h : n < 0x10000) : (hex 4 n).length = 4 := by
  rw [hex_four h]
  rfl

end Text

end Decouple
