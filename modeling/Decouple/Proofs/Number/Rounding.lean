import Decouple.Number.Binary64
import Mathlib.Algebra.Order.Field.Power
import Mathlib.Data.Rat.Cast.Order
import Mathlib.Tactic.FieldSimp
import Mathlib.Tactic.Linarith
import Mathlib.Tactic.NormNum
import Mathlib.Tactic.Positivity
import Mathlib.Tactic.Ring

/-!
# What rounding gives

Rounding a ratio gives a mantissa of 53 bits at most and an exponent between the least and the
greatest one (`ofRatio_isRounded`), and so does reading a decimal.  The proof compares ratios as
rationals: `scaled` and `ratio` are a multiplication by a power of two, whichever side of the ratio
they multiply.
-/

namespace Decouple

namespace Binary64

/-- A number as rounding gives it. -/
def IsRounded : Binary64 → Prop
  | finite _ m e => m < 2 ^ 53 ∧ leastExponent ≤ e ∧ e ≤ greatestExponent
  | _ => True

variable {num den : Nat} {e : Int}

/-! ## Ratios as rationals -/

theorem scaled_snd_pos (hd : 0 < den) (num : Nat) (e : Int) : 0 < (scaled num den e).2 := by
  rw [scaled]
  split
  · exact hd
  · exact Nat.mul_pos hd (Nat.pow_pos (by decide))

/-- The power of two with a whole exponent, as a rational. -/
theorem cast_pow_toNat {b : Nat} {e : Int} (he : 0 ≤ e) :
    ((Nat.pow b e.toNat : Nat) : ℚ) = (b : ℚ) ^ e := by
  obtain ⟨n, rfl⟩ := Int.eq_ofNat_of_zero_le he
  simp

theorem scaled_ratio (num den : Nat) (e : Int) :
    ((scaled num den e).1 : ℚ) / (scaled num den e).2 = num / den * 2 ^ (-e) := by
  rw [scaled]
  split
  · next he =>
    rw [Nat.cast_mul, cast_pow_toNat (by omega), Nat.cast_ofNat]
    ring
  · next he =>
    rw [Nat.cast_mul, cast_pow_toNat (by omega), Nat.cast_ofNat, zpow_neg]
    field_simp

theorem ratio_snd_pos (m : Nat) (e : Int) : 0 < (ratio m e).2 := by
  rw [ratio]
  split
  · exact Nat.pow_pos (by decide)
  · exact Nat.one_pos

theorem ratio_ratio (m : Nat) (e : Int) : ((ratio m e).1 : ℚ) / (ratio m e).2 = m * 2 ^ e := by
  rw [ratio]
  split
  · next he =>
    rw [cast_pow_toNat (by omega), Nat.cast_ofNat, zpow_neg]
    simp
  · next he =>
    rw [Nat.cast_mul, cast_pow_toNat (by omega), Nat.cast_ofNat, Nat.cast_one, div_one]

/-! ## Ratios between powers of two -/

/-- A ratio lies below the power of two that the logarithms of its sides give. -/
theorem ratio_lt_zpow (num : Nat) (hd : 0 < den) :
    (num : ℚ) / den < 2 ^ ((num.log2 : Int) - den.log2 + 1) := by
  have hnum : (num : ℚ) < 2 ^ (num.log2 + 1) := by exact_mod_cast Nat.lt_log2_self
  have hden : (2 : ℚ) ^ den.log2 ≤ den := by exact_mod_cast Nat.log2_self_le hd.ne'
  calc (num : ℚ) / den ≤ num / 2 ^ den.log2 := by gcongr
    _ < 2 ^ (num.log2 + 1) / 2 ^ den.log2 := by gcongr
    _ = 2 ^ ((num.log2 : Int) - den.log2 + 1) := by
        rw [show (num.log2 : Int) - den.log2 + 1 = ((num.log2 + 1 : Nat) : Int) - (den.log2 : Nat)
          by push_cast; ring, zpow_sub₀ (by norm_num), zpow_natCast, zpow_natCast]

/-- A positive ratio lies above half that power's half. -/
theorem zpow_lt_ratio (hn : 0 < num) (hd : 0 < den) :
    (2 : ℚ) ^ ((num.log2 : Int) - den.log2 - 1) < num / den := by
  have hnum : (2 : ℚ) ^ num.log2 ≤ num := by exact_mod_cast Nat.log2_self_le hn.ne'
  have hden : (den : ℚ) < 2 ^ (den.log2 + 1) := by exact_mod_cast Nat.lt_log2_self
  have hpos : (0 : ℚ) < den := by exact_mod_cast hd
  calc (2 : ℚ) ^ ((num.log2 : Int) - den.log2 - 1) = 2 ^ num.log2 / 2 ^ (den.log2 + 1) := by
        rw [show (num.log2 : Int) - den.log2 - 1 = (num.log2 : Nat) - ((den.log2 + 1 : Nat) : Int)
          by push_cast; ring, zpow_sub₀ (by norm_num), zpow_natCast, zpow_natCast]
    _ < 2 ^ num.log2 / den := by gcongr
    _ ≤ num / den := by gcongr

/-! ## Rounding -/

/-- A mantissa has at most 53 bits before it is rounded. -/
theorem scaled_exponentFor_lt (hd : 0 < den) :
    (scaled num den (exponentFor num den)).1 <
      (scaled num den (exponentFor num den)).2 * 2 ^ 53 := by
  set e := exponentFor num den with he
  have hpos : (0 : ℚ) < (scaled num den e).2 := by exact_mod_cast scaled_snd_pos hd num e
  suffices hratio : (num : ℚ) / den * 2 ^ (-e) < 2 ^ 53 by
    rw [← scaled_ratio, div_lt_iff₀ hpos] at hratio
    have hnat : ((scaled num den e).1 : ℚ) < ((scaled num den e).2 * 2 ^ 53 : Nat) := by
      push_cast
      linarith
    exact_mod_cast hnat
  set guess : Int := (num.log2 : Int) - den.log2 - 52 with hguess
  -- It is enough to look at the guess and at the exponent below it.
  suffices hbelow : ∃ k ≤ e, (num : ℚ) / den * 2 ^ (-k) < 2 ^ 53 by
    obtain ⟨k, hk, hlt⟩ := hbelow
    refine lt_of_le_of_lt ?_ hlt
    have hpow : (2 : ℚ) ^ (-e) ≤ 2 ^ (-k) := zpow_le_zpow_right₀ (by norm_num) (by omega)
    gcongr
  have hdef : e = max leastExponent
      (if (scaled num den guess).1 < (scaled num den guess).2 * Nat.pow 2 52 then guess - 1
        else guess) := rfl
  by_cases hsmall : (scaled num den guess).1 < (scaled num den guess).2 * Nat.pow 2 52
  · rw [if_pos hsmall] at hdef
    refine ⟨guess - 1, by omega, ?_⟩
    have hpos' : (0 : ℚ) < (scaled num den guess).2 := by
      exact_mod_cast scaled_snd_pos hd num guess
    have hlt : (num : ℚ) / den * 2 ^ (-guess) < 2 ^ 52 := by
      rw [← scaled_ratio, div_lt_iff₀ hpos']
      have hcast : ((scaled num den guess).1 : ℚ) <
          ((scaled num den guess).2 * Nat.pow 2 52 : Nat) := by exact_mod_cast hsmall
      simp only [Nat.pow_eq, Nat.cast_mul, Nat.cast_pow, Nat.cast_ofNat] at hcast
      linarith
    rw [show -(guess - 1) = -guess + 1 by ring, zpow_add₀ (by norm_num), zpow_one]
    linarith
  · rw [if_neg hsmall] at hdef
    refine ⟨guess, by omega, ?_⟩
    have hlt := ratio_lt_zpow num hd
    rw [show (num.log2 : Int) - den.log2 + 1 = guess + 53 by omega, zpow_add₀ (by norm_num)] at hlt
    have hpow : (0 : ℚ) < 2 ^ guess := by positivity
    rw [zpow_neg, ← div_eq_mul_inv, div_lt_iff₀ hpow]
    calc (num : ℚ) / den < 2 ^ guess * 2 ^ (53 : Int) := hlt
      _ = 2 ^ 53 * 2 ^ guess := by norm_num [mul_comm]

theorem roundQuotient_le {n d k : Nat} (h : n < d * k) : roundQuotient n d ≤ k := by
  have hq : n / d < k := Nat.div_lt_of_lt_mul h
  simp only [roundQuotient]
  split_ifs <;> omega

theorem isRounded_zero (negative : Bool) : (finite negative 0 leastExponent).IsRounded := by
  exact ⟨Nat.pow_pos (by decide), le_refl _, by decide⟩

theorem limited_isRounded (negative : Bool) {m : Nat} {e : Int} (hm : m < 2 ^ 53)
    (he : leastExponent ≤ e) : (limited negative m e).IsRounded := by
  rw [limited]
  split
  · trivial
  · next hgreat => exact ⟨hm, he, by omega⟩

theorem ofRounded_isRounded (negative : Bool) {m : Nat} {e : Int} (hm : m ≤ 2 ^ 53)
    (he : leastExponent ≤ e) : (ofRounded negative m e).IsRounded := by
  rw [ofRounded]
  split
  · exact limited_isRounded negative (Nat.pow_lt_pow_right (by decide) (by decide)) (by omega)
  · next hfull => exact limited_isRounded negative (lt_of_le_of_ne hm hfull) he

/-- Rounding a ratio gives a rounded number. -/
theorem ofRatio_isRounded (negative : Bool) (num : Nat) (hd : 0 < den) :
    (ofRatio negative num den).IsRounded := by
  rw [ofRatio]
  split
  · exact isRounded_zero negative
  · exact ofRounded_isRounded negative (roundQuotient_le (scaled_exponentFor_lt hd))
      (le_max_left _ _)

theorem ofDecimal_isRounded (negative : Bool) (digits : Nat) (exponent : Int) :
    (ofDecimal negative digits exponent).IsRounded := by
  simp only [ofDecimal]
  split_ifs
  · exact isRounded_zero negative
  · trivial
  · exact isRounded_zero negative
  · exact ofRatio_isRounded _ _ (Nat.pow_pos (by decide))
  · exact ofRatio_isRounded _ _ Nat.one_pos

/-! ## Finite numbers -/

variable {m n k : Nat} {f : Int} {x : Binary64}

/-- A ratio that is not too large is rounded to a finite number. -/
theorem exists_ofRatio_eq_finite (negative : Bool) (hd : 0 < den) (hk : k ≤ 970)
    (h : num.log2 ≤ den.log2 + 52 + k) :
    ∃ m e, ofRatio negative num den = finite negative m e ∧ m < 2 ^ 53 ∧ e ≤ k + 1 := by
  have hexponent : exponentFor num den ≤ k := by
    simp only [exponentFor, leastExponent]
    split <;> omega
  have hwithin {e : Int} (m : Nat) (he : e ≤ 971) : limited negative m e = finite negative m e :=
    if_neg (Int.not_lt.2 he)
  have hrounded := ofRatio_isRounded negative num hd
  rw [ofRatio] at hrounded ⊢
  split
  · exact ⟨0, leastExponent, rfl, by decide, by rw [leastExponent]; omega⟩
  · next hnum =>
    rw [if_neg hnum, ofRounded] at hrounded
    rw [ofRounded]
    split
    · exact ⟨_, _, hwithin _ (by omega), by decide, by omega⟩
    · next hfull =>
      rw [if_neg hfull, hwithin _ (by omega)] at hrounded
      exact ⟨_, _, hwithin _ (by omega), hrounded.1, by omega⟩

theorem log2_le_log2 (hn : n ≠ 0) (h : m ≤ n) : m.log2 ≤ n.log2 := by
  by_cases hm : m = 0
  · rw [hm]
    exact Nat.zero_le _
  · exact (Nat.le_log2 hn).2 ((Nat.log2_self_le hm).trans h)

/-- Numbers with small exponents have a finite product. -/
theorem isFinite_mul (s t : Bool) (hm : m < 2 ^ 53) (hn : n < 2 ^ 53) (he : e ≤ 1) (hf : f ≤ 1) :
    (mul (finite s m e) (finite t n f)).isFinite = true := by
  have hproduct : m * n ≤ 2 ^ 106 :=
    calc m * n ≤ 2 ^ 53 * 2 ^ 53 := Nat.mul_le_mul hm.le hn.le
      _ = 2 ^ 106 := by norm_num
  have hsmall {num den : Nat} (hden : 0 < den) (hnum : num ≤ 2 ^ 108) :
      (ofRatio (s != t) num den).isFinite = true := by
    have hlog := log2_le_log2 (by decide) hnum
    rw [Nat.log2_two_pow] at hlog
    obtain ⟨m', e', heq, -⟩ := exists_ofRatio_eq_finite (s != t) hden (by decide : 56 ≤ 970)
      (by omega : num.log2 ≤ den.log2 + 52 + 56)
    rw [heq]
    rfl
  rw [mul]
  split
  · exact hsmall (Nat.pow_pos (by decide)) (by omega)
  · have hpow : Nat.pow 2 (e + f).toNat ≤ 2 ^ 2 := Nat.pow_le_pow_right (by decide) (by omega)
    exact hsmall Nat.one_pos
      (calc m * n * Nat.pow 2 (e + f).toNat ≤ 2 ^ 106 * 2 ^ 2 := Nat.mul_le_mul hproduct hpow
        _ = 2 ^ 108 := by norm_num)

theorem exists_round?_of_isFinite (h : x.isFinite = true) : ∃ n, x.round? = some n := by
  cases x with
  | finite s m e => exact ⟨_, rfl⟩
  | infinite s => cases h
  | nan => cases h

end Binary64

end Decouple
