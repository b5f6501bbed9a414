import Decouple.Proofs.Texts
import Decouple.Text.Utf8.Lemmas
import Mathlib.Data.List.TakeWhile

/-!
# UTF-8 written back

Bytes that are read as a text are the bytes that the text is written with: only shortest forms of
scalar values are read.  With `decode_encodeAll` this makes reading and writing inverse to each
other, so bytes go through `Content.ofBytes` unharmed.
-/

namespace Decouple

namespace Text

/-- Whether all code points of a text are scalar values: it holds no surrogate. -/
def IsScalar (t : Text) : Prop := ∀ c ∈ t, c.isSurrogate = false

instance (t : Text) : Decidable (IsScalar t) :=
  inferInstanceAs (Decidable (∀ c ∈ t, c.isSurrogate = false))

theorem isScalar_append {a b : Text} : IsScalar (a ++ b) ↔ IsScalar a ∧ IsScalar b :=
  List.forall_mem_append

/-- The characters of a string are scalar values. -/
theorem isScalar_ofString (str : String) : IsScalar (ofString str) := by
  intro c hc
  obtain ⟨ch, -, rfl⟩ := List.mem_map.1 hc
  have hval : (CodePoint.ofChar ch).val = ch.val.toNat := rfl
  rw [CodePoint.isSurrogate, hval]
  rcases ch.valid with h | ⟨h, -⟩
  · simp only [Bool.and_eq_false_iff, decide_eq_false_iff_not]
    omega
  · simp only [Bool.and_eq_false_iff, decide_eq_false_iff_not]
    omega

/-- Joined parts are scalar values if the parts and the separator are. -/
theorem isScalar_join {sep : Text} (hsep : IsScalar sep) (parts : List Text) :
    IsScalar (join sep parts) ↔ ∀ part ∈ parts, IsScalar part := by
  constructor
  · intro h part hpart c hc
    exact h c (mem_join_of_mem sep hpart hc)
  · intro h c hc
    rcases mem_of_mem_join hc with hc | ⟨part, hpart, hc⟩
    · exact hsep c hc
    · exact h part hpart c hc

end Text

namespace Utf8

variable {place more : Nat} {low high b b₁ b₂ b₃ b₄ : UInt8} {bytes rest : Bytes} {t : Text}

/-! ## First bytes -/

/-- What the shape of a first byte says of it and of the next one. -/
theorem leadShape_cases (h : leadShape b = some (more, low, high)) :
    (more = 0 ∧ b.toNat < 0x80) ∨
    (more = 1 ∧ 0xC2 ≤ b.toNat ∧ b.toNat < 0xE0 ∧ 0x80 ≤ low.toNat ∧ high.toNat ≤ 0xBF) ∨
    (more = 2 ∧ 0xE0 ≤ b.toNat ∧ b.toNat < 0xF0 ∧ 0x80 ≤ low.toNat ∧ high.toNat ≤ 0xBF ∧
      (b.toNat = 0xE0 → 0xA0 ≤ low.toNat) ∧ (b.toNat = 0xED → high.toNat ≤ 0x9F)) ∨
    (more = 3 ∧ 0xF0 ≤ b.toNat ∧ b.toNat ≤ 0xF4 ∧ 0x80 ≤ low.toNat ∧ high.toNat ≤ 0xBF ∧
      (b.toNat = 0xF0 → 0x90 ≤ low.toNat) ∧ (b.toNat = 0xF4 → high.toNat ≤ 0x8F)) := by
  rw [leadShape_eq] at h
  dsimp only at h
  split at h
  · cases h
    exact Or.inl ⟨rfl, ‹_›⟩
  split at h
  · cases h
  split at h
  · cases h
    exact Or.inr (Or.inl ⟨rfl, by omega, by omega, by decide, by decide⟩)
  split at h
  · cases h
    exact Or.inr (Or.inr (Or.inl
      ⟨rfl, by omega, by omega, by decide, by decide, fun _ => by decide, by omega⟩))
  split at h
  · cases h
    exact Or.inr (Or.inr (Or.inl
      ⟨rfl, by omega, by omega, by decide, by decide, by omega, fun _ => by decide⟩))
  split at h
  · cases h
    exact Or.inr (Or.inr (Or.inl
      ⟨rfl, by omega, by omega, by decide, by decide, by omega, by omega⟩))
  split at h
  · cases h
    exact Or.inr (Or.inr (Or.inr
      ⟨rfl, by omega, by omega, by decide, by decide, fun _ => by decide, by omega⟩))
  split at h
  · cases h
    exact Or.inr (Or.inr (Or.inr
      ⟨rfl, by omega, by omega, by decide, by decide, by omega, by omega⟩))
  split at h
  · cases h
    exact Or.inr (Or.inr (Or.inr
      ⟨rfl, by omega, by omega, by decide, by decide, by omega, fun _ => by decide⟩))
  · cases h

/-! ## Bytes that were read -/

/-- What a byte that continues a code point leaves to be read. -/
theorem decodeFrom_pending {p : Pending} (h : decodeFrom place (some p) bytes = .ok t) :
    ∃ b rest, bytes = b :: rest ∧ p.low.toNat ≤ b.toNat ∧ b.toNat ≤ p.high.toNat ∧
      (if p.owed ≤ 1 then
        ∃ t', decodeFrom (place + 1) none rest = .ok t' ∧
          t = CodePoint.ofNat (p.bits * 64 + b.toNat % 64) :: t'
      else
        decodeFrom (place + 1)
          (some ⟨p.owed - 1, 0x80, 0xBF, p.bits * 64 + b.toNat % 64, p.first, p.seen + 1⟩) rest =
            .ok t) := by
  cases bytes with
  | nil => cases h
  | cons b rest =>
    rw [decodeFrom] at h
    split at h
    · cases h
    · next hb =>
      rw [UInt8.lt_iff_toNat_lt, UInt8.lt_iff_toNat_lt] at hb
      refine ⟨b, rest, rfl, by omega, by omega, ?_⟩
      dsimp only at h
      split at h
      · next howed =>
        rw [if_pos howed]
        cases hr : decodeFrom (place + 1) none rest with
        | error e =>
          rw [hr] at h
          cases h
        | ok t' =>
          rw [hr] at h
          exact ⟨t', rfl, (Except.ok.inj h).symm⟩
      · next howed =>
        rw [if_neg howed]
        exact h

/-- A code point that is written with some bytes and can be written. -/
structure Writes (c : CodePoint) (bytes : Bytes) : Prop where
  bytes : encodeCodePoint c = bytes
  scalar : c.isSurrogate = false

theorem ofNat_toNat_eq {n : Nat} (h : n = b.toNat) : UInt8.ofNat n = b := by
  rw [h]
  exact UInt8.ofNat_toNat

theorem isSurrogate_eq_false {c : CodePoint} (h : c.val < 0xD800 ∨ 0xDFFF < c.val) :
    c.isSurrogate = false := by
  simp only [CodePoint.isSurrogate, Bool.and_eq_false_iff, decide_eq_false_iff_not]
  omega

theorem writes_one (h : b₁.toNat < 0x80) : Writes (CodePoint.ofNat b₁.toNat) [b₁] := by
  have hv := CodePoint.val_ofNat (n := b₁.toNat) (by omega)
  refine ⟨?_, isSurrogate_eq_false (by omega)⟩
  rw [encodeCodePoint, hv, if_pos h, ofNat_toNat_eq rfl]

theorem writes_two (h₁ : 0xC2 ≤ b₁.toNat) (h₁' : b₁.toNat < 0xE0) (h₂ : Continues b₂) :
    Writes (CodePoint.ofNat (b₁.toNat % 32 * 64 + b₂.toNat % 64)) [b₁, b₂] := by
  obtain ⟨l₂, u₂⟩ := h₂
  have hv := CodePoint.val_ofNat (n := b₁.toNat % 32 * 64 + b₂.toNat % 64) (by omega)
  refine ⟨?_, isSurrogate_eq_false (by omega)⟩
  rw [encodeCodePoint, hv, if_neg (by omega), if_pos (by omega), ofNat_toNat_eq (b := b₁) (by omega),
    ofNat_toNat_eq (b := b₂) (by omega)]

theorem writes_three (h₁ : 0xE0 ≤ b₁.toNat) (h₁' : b₁.toNat < 0xF0) (h₂ : Continues b₂)
    (h₃ : Continues b₃) (least : b₁.toNat = 0xE0 → 0xA0 ≤ b₂.toNat)
    (scalar : b₁.toNat = 0xED → b₂.toNat ≤ 0x9F) :
    Writes (CodePoint.ofNat ((b₁.toNat % 16 * 64 + b₂.toNat % 64) * 64 + b₃.toNat % 64))
      [b₁, b₂, b₃] := by
  obtain ⟨l₂, u₂⟩ := h₂
  obtain ⟨l₃, u₃⟩ := h₃
  have hv := CodePoint.val_ofNat (n := (b₁.toNat % 16 * 64 + b₂.toNat % 64) * 64 + b₃.toNat % 64) (by omega)
  refine ⟨?_, isSurrogate_eq_false (by omega)⟩
  rw [encodeCodePoint, hv, if_neg (by omega), if_neg (by omega), if_pos (by omega),
    ofNat_toNat_eq (b := b₁) (by omega), ofNat_toNat_eq (b := b₂) (by omega),
    ofNat_toNat_eq (b := b₃) (by omega)]

theorem writes_four (h₁ : 0xF0 ≤ b₁.toNat) (h₁' : b₁.toNat ≤ 0xF4) (h₂ : Continues b₂)
    (h₃ : Continues b₃) (h₄ : Continues b₄) (least : b₁.toNat = 0xF0 → 0x90 ≤ b₂.toNat)
    (greatest : b₁.toNat = 0xF4 → b₂.toNat ≤ 0x8F) :
    Writes (CodePoint.ofNat
      (((b₁.toNat % 8 * 64 + b₂.toNat % 64) * 64 + b₃.toNat % 64) * 64 + b₄.toNat % 64))
      [b₁, b₂, b₃, b₄] := by
  obtain ⟨l₂, u₂⟩ := h₂
  obtain ⟨l₃, u₃⟩ := h₃
  obtain ⟨l₄, u₄⟩ := h₄
  have hv := CodePoint.val_ofNat
    (n := ((b₁.toNat % 8 * 64 + b₂.toNat % 64) * 64 + b₃.toNat % 64) * 64 + b₄.toNat % 64)
    (by omega)
  refine ⟨?_, isSurrogate_eq_false (by omega)⟩
  rw [encodeCodePoint, hv, if_neg (by omega), if_neg (by omega), if_neg (by omega),
    ofNat_toNat_eq (b := b₁) (by omega), ofNat_toNat_eq (b := b₂) (by omega),
    ofNat_toNat_eq (b := b₃) (by omega), ofNat_toNat_eq (b := b₄) (by omega)]

/-! ## The whole text -/

/-- Reading starts with the bytes of the first code point. -/
theorem decodeFrom_cons (h : decodeFrom place none (b :: rest) = .ok t) :
    ∃ c written left place' t', Writes c written ∧ b :: rest = written ++ left ∧
      left.length ≤ rest.length ∧ decodeFrom place' none left = .ok t' ∧ t = c :: t' := by
  cases hs : leadShape b with
  | none =>
    rw [decodeFrom, hs] at h
    cases h
  | some shape =>
    obtain ⟨more, low, high⟩ := shape
    rcases leadShape_cases hs with ⟨rfl, hb⟩ | ⟨rfl, hb, hb', hl, hu⟩ |
      ⟨rfl, hb, hb', hl, hu, least, scalar⟩ | ⟨rfl, hb, hb', hl, hu, least, greatest⟩
    · rw [decodeFrom, hs] at h
      cases hr : decodeFrom (place + 1) none rest with
      | error e =>
        rw [hr] at h
        cases h
      | ok t' =>
        rw [hr] at h
        exact ⟨_, [b], rest, _, t', writes_one hb, rfl, le_rfl, hr, (Except.ok.inj h).symm⟩
    · rw [decodeFrom_first hs] at h
      obtain ⟨b₂, rest₂, rfl, l₂, u₂, h⟩ := decodeFrom_pending h
      obtain ⟨t', hr, rfl⟩ := h
      dsimp only at l₂ u₂
      exact ⟨_, [b, b₂], rest₂, _, t', writes_two hb hb' ⟨by omega, by omega⟩, rfl,
        by simp, hr, rfl⟩
    · rw [decodeFrom_first hs] at h
      obtain ⟨b₂, rest₂, rfl, l₂, u₂, h⟩ := decodeFrom_pending h
      obtain ⟨b₃, rest₃, rfl, l₃, u₃, h⟩ := decodeFrom_pending h
      obtain ⟨t', hr, rfl⟩ := h
      dsimp only at l₂ u₂
      have hw := writes_three hb hb' ⟨by omega, by omega⟩ ⟨l₃, u₃⟩ (fun e => Nat.le_trans (least e) l₂)
        (fun e => Nat.le_trans u₂ (scalar e))
      exact ⟨_, [b, b₂, b₃], rest₃, _, t', hw, rfl, by simp; omega, hr, rfl⟩
    · rw [decodeFrom_first hs] at h
      obtain ⟨b₂, rest₂, rfl, l₂, u₂, h⟩ := decodeFrom_pending h
      obtain ⟨b₃, rest₃, rfl, l₃, u₃, h⟩ := decodeFrom_pending h
      obtain ⟨b₄, rest₄, rfl, l₄, u₄, h⟩ := decodeFrom_pending h
      obtain ⟨t', hr, rfl⟩ := h
      dsimp only at l₂ u₂
      have hw := writes_four hb hb' ⟨by omega, by omega⟩ ⟨l₃, u₃⟩ ⟨l₄, u₄⟩
        (fun e => Nat.le_trans (least e) l₂) (fun e => Nat.le_trans u₂ (greatest e))
      exact ⟨_, [b, b₂, b₃, b₄], rest₄, _, t', hw, rfl, by simp; omega, hr, rfl⟩

/-- What is read is written with the same bytes, and holds no surrogate. -/
theorem encodeAll_of_decodeFrom (h : decodeFrom place none bytes = .ok t) :
    encodeAll t = bytes ∧ t.all (fun c => !c.isSurrogate) = true := by
  induction hn : bytes.length using Nat.strong_induction_on generalizing bytes place t with
  | _ n ih =>
    cases bytes with
    | nil =>
      rw [← Except.ok.inj h]
      exact ⟨rfl, rfl⟩
    | cons b rest =>
      obtain ⟨c, written, left, place', t', hw, hsplit, hlen, hr, rfl⟩ := decodeFrom_cons h
      obtain ⟨hwrite, hscalar⟩ := ih left.length (by simp at hn; omega) hr rfl
      constructor
      · rw [hsplit, encodeAll, List.flatMap_cons, hw.bytes, ← encodeAll, hwrite]
      · rw [List.all_cons, hw.scalar, hscalar]
        rfl

theorem unwritable?_eq_none : unwritable? t = none ↔ t.all (fun c => !c.isSurrogate) = true := by
  rw [List.all_eq_true, ← List.dropWhile_eq_nil_iff, unwritable?]
  cases t.dropWhile fun c => !c.isSurrogate <;> simp

theorem encode_eq_ok : encode t = .ok bytes ↔
    t.all (fun c => !c.isSurrogate) = true ∧ encodeAll t = bytes := by
  rw [← unwritable?_eq_none, encode]
  cases unwritable? t <;> simp

/-- Bytes are read as a text exactly when the text is written as these bytes. -/
theorem decode_eq_ok_iff_encode : decode bytes = .ok t ↔ encode t = .ok bytes := by
  rw [encode_eq_ok]
  constructor
  · intro h
    exact (encodeAll_of_decodeFrom h).symm
  · rintro ⟨hscalar, rfl⟩
    exact decode_encodeAll hscalar

/-- The texts that can be written are those without surrogates. -/
theorem exists_encode_eq_ok : (∃ b, encode t = .ok b) ↔ t.IsScalar := by
  have hall : t.all (fun c => !c.isSurrogate) = true ↔ t.IsScalar := by
    simp [Text.IsScalar, List.all_eq_true]
  constructor
  · rintro ⟨b, hb⟩
    exact hall.1 (encode_eq_ok.1 hb).1
  · intro h
    exact ⟨encodeAll t, encode_eq_ok.2 ⟨hall.2 h, rfl⟩⟩

end Utf8

end Decouple
