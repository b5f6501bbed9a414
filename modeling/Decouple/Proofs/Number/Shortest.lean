import Decouple.Number.Shortest
import Decouple.Proofs.Number.Rounding

/-!
# The shortest decimal of a positive number is positive

A neighbour on a grid that lies in the interval of a positive number is positive, since the
interval stays above zero.  The search ends with the nearest neighbour on a grid that is fine beside
the number, whatever the search has found before: the estimate of the decimal magnitude is off by a
few places at most (`zpow_ten_le`), and the last grid is much finer than that.
-/

namespace Decouple

namespace Shortest

open Binary64 (ratio ratio_ratio ratio_snd_pos IsRounded)

variable {negative : Bool} {m : Nat} {e k p : Int} {i : Interval} {fuel digits : Nat}

/-! ## Grids -/

theorem overPower_snd_pos {d : Nat} (hd : 0 < d) (n : Nat) (p : Int) : 0 < (overPower n d p).2 := by
  rw [overPower]
  split
  · exact hd
  · exact Nat.mul_pos hd (Nat.pow_pos (by decide))

theorem overPower_ratio (n d : Nat) (p : Int) :
    ((overPower n d p).1 : ℚ) / (overPower n d p).2 = n / d * 10 ^ (-p) := by
  rw [overPower]
  split
  · next hp =>
    rw [Nat.cast_mul, Binary64.cast_pow_toNat (by omega), Nat.cast_ofNat]
    ring
  · next hp =>
    rw [Nat.cast_mul, Binary64.cast_pow_toNat (by omega), Nat.cast_ofNat, zpow_neg]
    field_simp

/-- The nearer neighbour is positive on a grid whose half is below the number. -/
theorem headD_neighbours_pos (hden : 0 < i.den) (h : (10 : ℚ) ^ p < 2 * (i.num / i.den)) :
    0 < (neighbours i p).headD 0 := by
  have hd := overPower_snd_pos hden i.num p
  have hlarge : (overPower i.num i.den p).2 < 2 * (overPower i.num i.den p).1 := by
    have hdq : (0 : ℚ) < (overPower i.num i.den p).2 := by exact_mod_cast hd
    have hq : (1 : ℚ) < 2 * ((overPower i.num i.den p).1 / (overPower i.num i.den p).2) := by
      rw [overPower_ratio, zpow_neg, ← mul_assoc, ← div_eq_mul_inv,
        one_lt_div (by positivity)]
      exact h
    rw [← mul_div_assoc, one_lt_div hdq] at hq
    exact_mod_cast hq
  simp only [neighbours]
  split
  · next hnear =>
    -- A quotient of zero would leave the whole number as remainder, which is the farther one.
    rw [List.headD_cons, Nat.pos_iff_ne_zero]
    intro hzero
    have hsmall := (Nat.div_eq_zero_iff_lt hd).1 hzero
    rw [Nat.mod_eq_of_lt hsmall] at hnear
    omega
  · exact Nat.succ_pos _

/-! ## The interval of a number -/

theorem interval_den_pos (m : Nat) (e : Int) : 0 < (interval m e).den := by
  have := ratio_snd_pos m e
  simp only [interval]
  omega

theorem interval_ratio (m : Nat) (e : Int) :
    ((interval m e).num : ℚ) / (interval m e).den = m * 2 ^ e := by
  rw [← ratio_ratio]
  simp only [interval, Nat.cast_mul, Nat.cast_ofNat]
  rw [mul_div_mul_left _ _ (by norm_num)]

theorem ratio_fst (m : Nat) (e : Int) : (ratio m e).1 = m * (ratio 1 e).1 := by
  rw [ratio, ratio]
  split
  · exact (Nat.mul_one m).symm
  · rw [Nat.one_mul]

theorem ratio_one_pos (e : Int) : 0 < (ratio 1 e).1 := by
  rw [ratio]
  split
  · exact Nat.one_pos
  · exact Nat.mul_pos Nat.one_pos (Nat.pow_pos (by decide))

/-- The interval of a positive number stays above zero. -/
theorem interval_low_pos (hm : 0 < m) (e : Int) : 0 < (interval m e).low := by
  have hunit := ratio_one_pos e
  have hn : (ratio 1 e).1 ≤ (ratio m e).1 := by
    rw [ratio_fst m]
    exact Nat.le_mul_of_pos_left _ hm
  simp only [interval]
  split_ifs <;> omega

/-- Only positive grid points lie in an interval above zero. -/
theorem pos_of_holds (hlow : 0 < i.low) {f : Nat}
    (h : i.holds (gridPoint f p).1 (gridPoint f p).2 = true) : 0 < f := by
  rw [Nat.pos_iff_ne_zero]
  rintro rfl
  have hzero : (gridPoint 0 p).1 = 0 := by
    rw [gridPoint]
    split
    · rfl
    · exact Nat.zero_mul _
  have hone : 0 < (gridPoint 0 p).2 := by
    rw [gridPoint]
    split
    · exact Nat.pow_pos (by decide)
    · exact Nat.one_pos
  have hpos := Nat.mul_pos hlow hone
  rw [Interval.holds, hzero, Nat.zero_mul] at h
  split at h <;> simp at h
  omega

/-! ## The search -/

/-- The search finds a positive neighbour if the last grid gives one. -/
theorem search_pos (hlow : 0 < i.low)
    (hlast : 0 < (neighbours i (k - (digits + fuel : Nat))).headD 0) :
    0 < (search i k fuel digits).1 := by
  induction fuel generalizing digits with
  | zero => exact hlast
  | succ fuel ih =>
    rw [search]
    dsimp only
    split
    · next f hf =>
      have hholds := List.find?_some hf
      exact pos_of_holds hlow hholds
    · exact ih (by rwa [show digits + 1 + fuel = digits + (fuel + 1) by omega])

theorem magnitudeFrom_le (i : Interval) (fuel : Nat) (k : Int) : magnitudeFrom i fuel k ≤ k + fuel := by
  induction fuel generalizing k with
  | zero => exact le_of_eq (add_zero k).symm
  | succ fuel ih =>
    rw [magnitudeFrom]
    dsimp only
    split
    · omega
    · have := ih (k + 1)
      push_cast
      omega

/-- A power of ten is at most a power of two whose exponent, in decimal places, exceeds its own by
twelve. -/
theorem zpow_ten_le {bits : Int} (hleast : -1100 ≤ bits) (hgreatest : bits ≤ 1100)
    (h : p * 100000 ≤ bits * 30103 - 1200000) : (10 : ℚ) ^ p ≤ 2 ^ bits := by
  rcases le_total 0 p with hp | hp
  · -- Three places take at most ten bits.
    obtain ⟨t, ht⟩ : ∃ t : Nat, p ≤ 3 * (t : Int) ∧ 3 * (t : Int) ≤ p + 2 :=
      ⟨((p + 2) / 3).toNat, by omega, by omega⟩
    calc (10 : ℚ) ^ p ≤ 10 ^ (3 * (t : Int)) := zpow_le_zpow_right₀ (by norm_num) ht.1
      _ = (10 ^ 3 : ℚ) ^ t := by rw [zpow_mul, zpow_natCast]; norm_num
      _ ≤ (2 ^ 10 : ℚ) ^ t := by gcongr; norm_num
      _ = 2 ^ (10 * (t : Int)) := by rw [zpow_mul, zpow_natCast]; norm_num
      _ ≤ 2 ^ bits := zpow_le_zpow_right₀ (by norm_num) (by omega)
  · -- Ten places take at least thirty-three bits.
    obtain ⟨t, ht⟩ : ∃ t : Nat, 10 * (t : Int) ≤ -p ∧ -p ≤ 10 * (t : Int) + 9 :=
      ⟨(-p / 10).toNat, by omega, by omega⟩
    calc (10 : ℚ) ^ p ≤ 10 ^ (-(10 * (t : Int))) := zpow_le_zpow_right₀ (by norm_num) (by omega)
      _ = ((10 ^ 10 : ℚ) ^ t)⁻¹ := by rw [zpow_neg, zpow_mul, zpow_natCast]; norm_num
      _ ≤ ((2 ^ 33 : ℚ) ^ t)⁻¹ := by gcongr; norm_num
      _ = 2 ^ (-(33 * (t : Int))) := by rw [zpow_neg, zpow_mul, zpow_natCast]; norm_num
      _ ≤ 2 ^ bits := zpow_le_zpow_right₀ (by norm_num) (by omega)

/-- The shortest decimal of a positive rounded number is positive. -/
theorem decimal_pos (hm : 0 < m) (h : (Binary64.finite negative m e).IsRounded) :
    0 < (decimal m e).1 := by
  obtain ⟨hmantissa, hleast, hgreatest⟩ := h
  have hden := interval_den_pos m e
  have hratio := interval_ratio m e
  refine search_pos (interval_low_pos hm e) (headD_neighbours_pos hden ?_)
  have hmq : (1 : ℚ) ≤ m := by exact_mod_cast hm
  have hmq' : (m : ℚ) < 2 ^ (53 : Int) := by exact_mod_cast hmantissa
  have hpow : (0 : ℚ) < 2 ^ e := by positivity
  have hnum : 0 < (interval m e).num := by
    have hpos : (0 : ℚ) < (interval m e).num / (interval m e).den := by
      rw [hratio]
      positivity
    rw [div_pos_iff_of_pos_right (by exact_mod_cast hden)] at hpos
    exact_mod_cast hpos
  set bits : Int := ((interval m e).num.log2 : Int) - (interval m e).den.log2 with hbits
  have hbelow := Binary64.zpow_lt_ratio hnum hden
  have habove := Binary64.ratio_lt_zpow (interval m e).num hden
  rw [hratio, ← hbits] at hbelow habove
  have hbits_le : bits - 1 < 53 + e := by
    rw [← zpow_lt_zpow_iff_right₀ (by norm_num : (1 : ℚ) < 2)]
    refine hbelow.trans ?_
    rw [zpow_add₀ (by norm_num)]
    gcongr
  have hle_bits : e < bits + 1 := by
    rw [← zpow_lt_zpow_iff_right₀ (by norm_num : (1 : ℚ) < 2)]
    refine lt_of_le_of_lt ?_ habove
    nlinarith
  simp only [Binary64.leastExponent, Binary64.greatestExponent] at hleast hgreatest
  have hmagnitude := magnitudeFrom_le (interval m e) 8 (Int.fdiv (bits * 30103) 100000 - 2)
  have hlast : magnitude (interval m e) ≤ Int.fdiv (bits * 30103) 100000 - 2 + 8 := hmagnitude
  rw [hratio]
  calc (10 : ℚ) ^ (magnitude (interval m e) - (1 + 17 : Nat)) ≤ 2 ^ bits := by
        refine zpow_ten_le (by omega) (by omega) ?_
        rw [Int.fdiv_eq_ediv_of_nonneg _ (by decide)] at hlast
        push_cast
        omega
    _ = 2 * 2 ^ (bits - 1) := by
        rw [← zpow_one_add₀ (by norm_num), add_sub_cancel]
    _ < 2 * (m * 2 ^ e) := by linarith

end Shortest

end Decouple
