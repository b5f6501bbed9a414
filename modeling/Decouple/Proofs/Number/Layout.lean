import Decouple.Proofs.Number.Numerals
import Decouple.Proofs.Number.Shortest

/-!
# The parts of a rendered number

A finite number is rendered as a sign, a whole part, a fraction and an exponent
(`exists_render_eq`), and at least one of the last two is there.  The whole part has no zero before
other digits: it is a single zero, or it starts with the first digit of the shortest decimal, which
is not zero because that decimal is positive.
-/

namespace Decouple

open Text (AreDigits zeros)

/-- The parts of a decimal numeral without its sign. -/
structure Numeral where
  whole : Text
  fraction : Text
  exponent : Text

namespace Numeral

/-- The numeral as it is written. -/
def text (n : Numeral) : Text := n.whole ++ n.fraction ++ n.exponent

/-- A run of digits. -/
structure IsRun (t : Text) : Prop where
  digits : AreDigits t
  ne_nil : t ≠ []

/-- A whole part without a zero before other digits. -/
def IsWhole (t : Text) : Prop :=
  t = zeros 1 ∨ ∃ c rest, t = c :: rest ∧ AreDigits t ∧ c ≠ '0'

/-- A fraction with its point, or nothing. -/
def IsFraction (t : Text) : Prop := t = [] ∨ ∃ run, IsRun run ∧ t = CodePoint.ofChar '.' :: run

/-- An exponent with its letter and its sign, or nothing. -/
def IsExponent (t : Text) : Prop :=
  t = [] ∨ ∃ sign run, IsRun run ∧ (sign = CodePoint.ofChar '+' ∨ sign = CodePoint.ofChar '-') ∧
    t = CodePoint.ofChar 'e' :: sign :: run

/-- A numeral with parts as they should be. -/
structure IsProper (n : Numeral) : Prop where
  whole : IsWhole n.whole
  fraction : IsFraction n.fraction
  exponent : IsExponent n.exponent

/-- A numeral that does not look like an integer. -/
def IsFractional (n : Numeral) : Prop := n.fraction ≠ [] ∨ n.exponent ≠ []

theorem IsWhole.isRun {t : Text} (h : IsWhole t) : IsRun t := by
  rcases h with rfl | ⟨c, rest, rfl, hdigits, -⟩
  · exact ⟨Text.areDigits_zeros 1, by decide⟩
  · exact ⟨hdigits, List.cons_ne_nil c rest⟩

end Numeral

namespace DecimalLayout

open Numeral

variable {digits rest : Text} {c : CodePoint} {point : Int} {layout : DecimalLayout}

/-! ## Digits without the zeros at their end -/

theorem trimDigits_cons (hc : c ≠ '0') (rest : Text) :
    ∃ rest', Text.trimDigits (c :: rest) = c :: rest' ∧ rest' <+: rest := by
  have hkept : (([c] : Text).dropWhile (CodePoint.is '0')) = [c] := by
    rw [List.dropWhile_cons_of_neg]
    simpa [CodePoint.is] using hc
  refine ⟨(rest.reverse.dropWhile (CodePoint.is '0')).reverse, ?_, ?_⟩
  · rw [Text.trimDigits, List.reverse_cons, List.dropWhile_append]
    split
    · next hnil =>
      rw [List.isEmpty_iff] at hnil
      rw [hnil, hkept]
      rfl
    · rw [List.reverse_append]
      rfl
  · rw [← List.reverse_suffix, List.reverse_reverse]
    exact List.dropWhile_suffix _

/-! ## The two layouts -/

/-- Digits of a positive number without the zeros at their end. -/
structure IsMantissa (t : Text) : Prop where
  digits : AreDigits t
  head : ∃ c rest, t = c :: rest ∧ c ≠ '0'

theorem positional_eq (h : IsMantissa digits) (point : Int) :
    ∃ n : Numeral, n.IsProper ∧ n.IsFractional ∧ positional digits point = n.text := by
  obtain ⟨c, rest, rfl, hc⟩ := h.head
  rw [positional]
  split
  · -- The point stands before the digits.
    refine ⟨⟨zeros 1, CodePoint.ofChar '.' :: (zeros (-point).toNat ++ (c :: rest)), []⟩,
      ⟨.inl rfl, .inr ⟨_, ⟨?_, by simp⟩, rfl⟩, .inl rfl⟩, .inl (by simp), ?_⟩
    · exact (Text.areDigits_zeros _).append h.digits
    · simp [Numeral.text]
      rfl
  · next hpoint =>
    -- The point stands after some digits, perhaps after zeros that follow them.
    obtain ⟨k, hk⟩ : ∃ k, point.toNat = k + 1 := ⟨point.toNat - 1, by omega⟩
    set padded := c :: rest ++ zeros (point.toNat - (c :: rest).length) with hpadded
    have hdigits : AreDigits padded := h.digits.append (Text.areDigits_zeros _)
    set tail : Text := (c :: rest).drop point.toNat with htail
    have hwhole : IsWhole (padded.take point.toNat) := by
      refine .inr ⟨c, (rest ++ zeros (point.toNat - (c :: rest).length)).take k, ?_,
        fun d hd => hdigits d (List.mem_of_mem_take hd), hc⟩
      rw [hpadded, hk]
      rfl
    have hfraction : IsRun (if tail.isEmpty then zeros 1 else tail) := by
      split
      · exact ⟨Text.areDigits_zeros 1, by decide⟩
      · next hne =>
        exact ⟨fun d hd => h.digits d (List.mem_of_mem_drop hd), by simpa using hne⟩
    refine ⟨⟨padded.take point.toNat,
        CodePoint.ofChar '.' :: (if tail.isEmpty then zeros 1 else tail), []⟩,
      ⟨hwhole, .inr ⟨_, hfraction, rfl⟩, .inl rfl⟩, .inl (by simp), ?_⟩
    simp only [Numeral.text, List.append_nil, List.append_assoc]
    rfl

theorem isRun_padStart (width n : Nat) : IsRun (Text.padStart width '0' (Text.ofNat n)) := by
  refine ⟨(Text.areDigits_zeros _).append (Text.areDigits_ofNat n), ?_⟩
  have hne : Text.ofNat n ≠ [] := by
    rcases Nat.eq_zero_or_pos n with rfl | hn
    · decide
    · obtain ⟨c, rest, h, -⟩ := Text.exists_ofNat_eq_cons hn
      rw [h]
      exact List.cons_ne_nil c rest
  rw [Text.padStart]
  exact List.append_ne_nil_of_right_ne_nil _ hne

theorem scientific_eq (h : IsMantissa digits) (layout : DecimalLayout) (point : Int) :
    ∃ n : Numeral, n.IsProper ∧ n.IsFractional ∧ layout.scientific digits point = n.text := by
  obtain ⟨c, rest, rfl, hc⟩ := h.head
  obtain ⟨hdigit, hrest⟩ := Text.areDigits_cons.1 h.digits
  set e := point - 1 with he
  set sign : CodePoint := CodePoint.ofChar (if e < 0 then '-' else '+') with hsign
  set run := Text.padStart layout.exponentDigits '0' (Text.ofNat e.natAbs) with hrun
  have hexponent : IsExponent (CodePoint.ofChar 'e' :: sign :: run) := by
    refine .inr ⟨sign, run, isRun_padStart .., ?_, rfl⟩
    rw [hsign]
    split
    · exact .inr rfl
    · exact .inl rfl
  have hwhole : IsWhole [c] := .inr ⟨c, [], rfl, by simpa [AreDigits] using hdigit, hc⟩
  cases rest with
  | nil =>
    refine ⟨⟨[c], [], CodePoint.ofChar 'e' :: sign :: run⟩, ⟨hwhole, .inl rfl, hexponent⟩,
      .inr (by simp), ?_⟩
    rw [scientific, hsign]
    split <;> rfl
  | cons d rest =>
    have hne : d :: rest ≠ [] := List.cons_ne_nil d rest
    refine ⟨⟨[c], CodePoint.ofChar '.' :: (d :: rest), CodePoint.ofChar 'e' :: sign :: run⟩,
      ⟨hwhole, .inr ⟨_, ⟨hrest, hne⟩, rfl⟩, hexponent⟩, .inr (by simp), ?_⟩
    rw [scientific, hsign, Numeral.text]
    · split <;> simp only [List.append_assoc] <;> rfl
    · exact hne

/-! ## Numbers -/

theorem isMantissa_trimDigits {n : Nat} (h : 0 < n) :
    IsMantissa (Text.trimDigits (Text.ofNat n)) := by
  obtain ⟨c, rest, hn, hc⟩ := Text.exists_ofNat_eq_cons h
  obtain ⟨rest', htrim, hstart⟩ := trimDigits_cons hc rest
  have hdigits := Text.areDigits_ofNat n
  rw [hn, Text.areDigits_cons] at hdigits
  rw [hn, htrim]
  refine ⟨Text.areDigits_cons.2 ⟨hdigits.1, ?_⟩, c, rest', rfl, hc⟩
  exact fun d hd => hdigits.2 d (hstart.subset hd)

/-- A finite number is rendered as a proper numeral after its sign, and not like an integer. -/
theorem exists_render_eq (layout : DecimalLayout) {negative : Bool} {m : Nat} {e : Int}
    (h : (Binary64.finite negative m e).IsRounded) :
    ∃ n : Numeral, n.IsProper ∧ n.IsFractional ∧
      layout.render (.finite negative m e) =
        (if negative then Text.ofString "-" else Text.ofString "") ++ n.text := by
  rw [render]
  dsimp only
  split
  · refine ⟨⟨zeros 1, CodePoint.ofChar '.' :: zeros 1, []⟩,
      ⟨.inl rfl, .inr ⟨_, ⟨Text.areDigits_zeros 1, by decide⟩, rfl⟩, .inl rfl⟩,
      .inl (by simp), ?_⟩
    rfl
  · next hm =>
    have hmantissa := isMantissa_trimDigits
      (Shortest.decimal_pos (Nat.pos_of_ne_zero hm) h)
    set point : Int := (Shortest.decimal m e).2 + (Text.ofNat (Shortest.decimal m e).1).length
      with hpoint
    by_cases hlaid : layout.leastPoint ≤ point ∧ point ≤ layout.greatestPoint
    · obtain ⟨n, hproper, hfractional, htext⟩ := positional_eq hmantissa point
      exact ⟨n, hproper, hfractional, by rw [if_pos hlaid, htext]⟩
    · obtain ⟨n, hproper, hfractional, htext⟩ := scientific_eq hmantissa layout point
      exact ⟨n, hproper, hfractional, by rw [if_neg hlaid, htext]⟩

end DecimalLayout

end Decouple
