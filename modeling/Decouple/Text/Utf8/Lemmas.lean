import Decouple.Text.Utf8

/-!
# UTF-8 read back

The bytes of a text without surrogates are read as that text.
-/

namespace Decouple

namespace Utf8

theorem ofNat_eq_of_val {c : CodePoint} {n : Nat} (h : n = c.val) : CodePoint.ofNat n = c := by
  subst h
  exact CodePoint.ext (by simp [CodePoint.ofNat, c.val_lt])

theorem toNat_byte {n : Nat} (h : n < 256) : (UInt8.ofNat n).toNat = n := by simp; omega

/-- The shape of a first byte, by its number. -/
theorem leadShape_eq (b : UInt8) :
    leadShape b =
      let n := b.toNat
      if n < 0x80 then some (0, 0x80, 0xBF)
      else if n < 0xC2 then none
      else if n < 0xE0 then some (1, 0x80, 0xBF)
      else if n = 0xE0 then some (2, 0xA0, 0xBF)
      else if n = 0xED then some (2, 0x80, 0x9F)
      else if n < 0xF0 then some (2, 0x80, 0xBF)
      else if n = 0xF0 then some (3, 0x90, 0xBF)
      else if n < 0xF4 then some (3, 0x80, 0xBF)
      else if n = 0xF4 then some (3, 0x80, 0x8F)
      else none := by
  simp only [leadShape, UInt8.lt_iff_toNat_lt, ← UInt8.toNat_inj]
  rfl

/-! ## One byte at a time -/

theorem decodeFrom_first {place more : Nat} {low high b : UInt8} {rest : Bytes}
    (h : leadShape b = some (more + 1, low, high)) :
    decodeFrom place none (b :: rest) =
      decodeFrom (place + 1) (some ⟨more + 1, low, high, leadBits (more + 1) b, b, 1⟩) rest := by
  rw [decodeFrom, h]
  rfl

theorem decodeFrom_more {place : Nat} {p : Pending} {b : UInt8} {rest : Bytes}
    (low : p.low.toNat ≤ b.toNat) (high : b.toNat ≤ p.high.toNat) (owed : 1 < p.owed) :
    decodeFrom place (some p) (b :: rest) =
      decodeFrom (place + 1)
        (some ⟨p.owed - 1, 0x80, 0xBF, p.bits * 64 + b.toNat % 64, p.first, p.seen + 1⟩)
        rest := by
  have : ¬(b < p.low ∨ p.high < b) := by
    simp only [UInt8.lt_iff_toNat_lt]
    omega
  rw [decodeFrom, if_neg this, if_neg (by omega)]

theorem decodeFrom_last {place : Nat} {p : Pending} {b : UInt8} {rest : Bytes} {c : CodePoint}
    (low : p.low.toNat ≤ b.toNat) (high : b.toNat ≤ p.high.toNat) (owed : p.owed ≤ 1)
    (value : p.bits * 64 + b.toNat % 64 = c.val) :
    decodeFrom place (some p) (b :: rest) =
      (decodeFrom (place + 1) none rest).map (c :: ·) := by
  have : ¬(b < p.low ∨ p.high < b) := by
    simp only [UInt8.lt_iff_toNat_lt]
    omega
  rw [decodeFrom, if_neg this, if_pos owed, ofNat_eq_of_val value]

/-! ## One code point at a time -/

variable {place : Nat} {low high b₁ b₂ b₃ b₄ : UInt8} {rest : Bytes} {c : CodePoint}

/-- Whether a byte may come second or later in a code point. -/
def Continues (b : UInt8) : Prop := 0x80 ≤ b.toNat ∧ b.toNat ≤ 0xBF

theorem decodeFrom_one (h : b₁.toNat < 0x80) (value : b₁.toNat = c.val) :
    decodeFrom place none (b₁ :: rest) = (decodeFrom (place + 1) none rest).map (c :: ·) := by
  have shape : leadShape b₁ = some (0, 0x80, 0xBF) := by rw [leadShape_eq]; simp [h]
  rw [decodeFrom, shape]
  simp only
  rw [ofNat_eq_of_val value]

theorem decodeFrom_two (shape : leadShape b₁ = some (1, low, high))
    (second : low.toNat ≤ b₂.toNat ∧ b₂.toNat ≤ high.toNat)
    (value : b₁.toNat % 32 * 64 + b₂.toNat % 64 = c.val) :
    decodeFrom place none (b₁ :: b₂ :: rest) =
      (decodeFrom (place + 2) none rest).map (c :: ·) := by
  rw [decodeFrom_first shape, decodeFrom_last second.1 second.2 (Nat.le_refl _)]
  simpa [leadBits] using value

theorem decodeFrom_three (shape : leadShape b₁ = some (2, low, high))
    (second : low.toNat ≤ b₂.toNat ∧ b₂.toNat ≤ high.toNat) (third : Continues b₃)
    (value : (b₁.toNat % 16 * 64 + b₂.toNat % 64) * 64 + b₃.toNat % 64 = c.val) :
    decodeFrom place none (b₁ :: b₂ :: b₃ :: rest) =
      (decodeFrom (place + 3) none rest).map (c :: ·) := by
  rw [decodeFrom_first shape, decodeFrom_more second.1 second.2 (by simp)]
  exact decodeFrom_last third.1 third.2 (Nat.le_refl _) value

theorem decodeFrom_four (shape : leadShape b₁ = some (3, low, high))
    (second : low.toNat ≤ b₂.toNat ∧ b₂.toNat ≤ high.toNat) (third : Continues b₃)
    (fourth : Continues b₄)
    (value : ((b₁.toNat % 8 * 64 + b₂.toNat % 64) * 64 + b₃.toNat % 64) * 64 + b₄.toNat % 64 =
      c.val) :
    decodeFrom place none (b₁ :: b₂ :: b₃ :: b₄ :: rest) =
      (decodeFrom (place + 4) none rest).map (c :: ·) := by
  rw [decodeFrom_first shape, decodeFrom_more second.1 second.2 (by simp)]
  refine (decodeFrom_more (p := ⟨2, 0x80, 0xBF, _, _, _⟩) third.1 third.2 (by simp)).trans ?_
  exact decodeFrom_last fourth.1 fourth.2 (Nat.le_refl _) value

/-- The bytes of a code point are read as the code point. -/
theorem decodeFrom_encodeCodePoint (place : Nat) {c : CodePoint} (h : c.isSurrogate = false)
    (rest : Bytes) :
    ∃ place', decodeFrom place none (encodeCodePoint c ++ rest) =
      (decodeFrom place' none rest).map (c :: ·) := by
  have bound := c.val_lt
  have scalar : c.val < 0xD800 ∨ 0xDFFF < c.val := by
    simp only [CodePoint.isSurrogate, Bool.and_eq_false_iff, decide_eq_false_iff_not] at h
    omega
  have tail (n : Nat) : Continues (UInt8.ofNat (0x80 + n % 64)) := by
    rw [Continues, toNat_byte (by omega)]
    omega
  unfold encodeCodePoint
  simp only
  split
  · exact ⟨_, decodeFrom_one (by rw [toNat_byte] <;> omega) (toNat_byte (by omega))⟩
  split
  · have n : (UInt8.ofNat (0xC0 + c.val / 64)).toNat = 0xC0 + c.val / 64 :=
      toNat_byte (by omega)
    have shape : leadShape (UInt8.ofNat (0xC0 + c.val / 64)) = some (1, 0x80, 0xBF) := by
      rw [leadShape_eq, n]
      simp only
      rw [if_neg (by omega), if_neg (by omega), if_pos (by omega)]
    exact ⟨_, decodeFrom_two shape (tail c.val) (by rw [n, toNat_byte] <;> omega)⟩
  split
  · have n : (UInt8.ofNat (0xE0 + c.val / 4096)).toNat = 0xE0 + c.val / 4096 :=
      toNat_byte (by omega)
    have m : (UInt8.ofNat (0x80 + c.val / 64 % 64)).toNat = 0x80 + c.val / 64 % 64 :=
      toNat_byte (by omega)
    have value : ((UInt8.ofNat (0xE0 + c.val / 4096)).toNat % 16 * 64 +
        (UInt8.ofNat (0x80 + c.val / 64 % 64)).toNat % 64) * 64 +
        (UInt8.ofNat (0x80 + c.val % 64)).toNat % 64 = c.val := by
      rw [n, m, toNat_byte (by omega)]
      omega
    have shape := leadShape_eq (UInt8.ofNat (0xE0 + c.val / 4096))
    simp only [n] at shape
    rw [if_neg (by omega), if_neg (by omega), if_neg (by omega)] at shape
    split at shape
    · exact ⟨_, decodeFrom_three shape (by rw [m]; simp; omega) (tail c.val) value⟩
    split at shape
    · exact ⟨_, decodeFrom_three shape (by rw [m]; simp; omega) (tail c.val) value⟩
    · rw [if_pos (by omega)] at shape
      exact ⟨_, decodeFrom_three shape (tail (c.val / 64)) (tail c.val) value⟩
  · have n : (UInt8.ofNat (0xF0 + c.val / 262144)).toNat = 0xF0 + c.val / 262144 :=
      toNat_byte (by omega)
    have m : (UInt8.ofNat (0x80 + c.val / 4096 % 64)).toNat = 0x80 + c.val / 4096 % 64 :=
      toNat_byte (by omega)
    have value : (((UInt8.ofNat (0xF0 + c.val / 262144)).toNat % 8 * 64 +
        (UInt8.ofNat (0x80 + c.val / 4096 % 64)).toNat % 64) * 64 +
        (UInt8.ofNat (0x80 + c.val / 64 % 64)).toNat % 64) * 64 +
        (UInt8.ofNat (0x80 + c.val % 64)).toNat % 64 = c.val := by
      rw [n, m, toNat_byte (by omega), toNat_byte (by omega)]
      omega
    have shape := leadShape_eq (UInt8.ofNat (0xF0 + c.val / 262144))
    simp only [n] at shape
    rw [if_neg (by omega), if_neg (by omega), if_neg (by omega), if_neg (by omega),
      if_neg (by omega), if_neg (by omega)] at shape
    split at shape
    · exact ⟨_, decodeFrom_four shape (by rw [m]; simp; omega) (tail (c.val / 64)) (tail c.val)
        value⟩
    split at shape
    · exact ⟨_, decodeFrom_four shape (tail (c.val / 4096)) (tail (c.val / 64)) (tail c.val)
        value⟩
    rw [if_pos (by omega)] at shape
    exact ⟨_, decodeFrom_four shape (by rw [m]; simp; omega) (tail (c.val / 64)) (tail c.val)
      value⟩

theorem decodeFrom_encodeAll (place : Nat) {t : Text} (h : t.all fun c => !c.isSurrogate) :
    decodeFrom place none (encodeAll t) = .ok t := by
  induction t generalizing place with
  | nil => rfl
  | cons c rest ih =>
    rw [List.all_cons, Bool.and_eq_true, Bool.not_eq_true'] at h
    obtain ⟨place', step⟩ := decodeFrom_encodeCodePoint place h.1 (encodeAll rest)
    rw [encodeAll, List.flatMap_cons]
    exact step.trans (by rw [ih place' h.2]; rfl)

/-- What is written of a text without surrogates is read as that text. -/
theorem decode_encodeAll {t : Text} (h : t.all fun c => !c.isSurrogate) :
    decode (encodeAll t) = .ok t :=
  decodeFrom_encodeAll 0 h

end Utf8

end Decouple
