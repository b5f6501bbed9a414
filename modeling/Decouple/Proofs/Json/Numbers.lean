import Decouple.Proofs.Json.Layout
import Decouple.Proofs.Number.Layout

/-!
# Reading a written number

A proper numeral is read as a number up to its end (`number?_numeral`), unless what follows would go
on with it.  An integer of few enough digits is read as itself (`number?_ofInt`).  A rounded real
number is read as some real number (`exists_number?_render`), for which the digits of the shortest
decimal need not be looked at.
-/

namespace Decouple

namespace Json

open Text (AreDigits)
open Numeral (IsRun IsWhole IsFraction IsExponent)
open CodePoint (isDigit)

variable {ds t tail : Text} {n : Numeral} {negative : Bool}

/-! ## Runs of digits -/

/-- A text that does not go on with digits. -/
def EndsDigits (t : Text) : Prop := ∀ c ∈ t.head?, c.isDigit = false

theorem endsDigits_nil : EndsDigits [] := fun c hc => by cases hc

theorem takeWhile_digits_append (h : AreDigits ds) (ht : EndsDigits t) :
    (ds ++ t).takeWhile isDigit = ds := by
  rw [List.takeWhile_append_of_pos h]
  cases t with
  | nil => rw [List.takeWhile_nil, List.append_nil]
  | cons c t =>
    have hc : c.isDigit = false := ht c rfl
    rw [List.takeWhile_cons, hc]
    simp

theorem dropWhile_digits_append (h : AreDigits ds) (ht : EndsDigits t) :
    (ds ++ t).dropWhile isDigit = t := by
  rw [List.dropWhile_append_of_pos h]
  cases t with
  | nil => rfl
  | cons c t =>
    have hc : c.isDigit = false := ht c rfl
    rw [List.dropWhile_cons, hc]
    simp

theorem Stops.endsDigits (h : Stops t) : EndsDigits t := by
  intro c hc
  have := h c hc
  simp only [continuesNumber, Bool.or_eq_false_iff] at this
  exact this.1.1.1

/-! ## The parts of a number -/

theorem endsDigits_exponent (h : IsExponent t) (htail : EndsDigits tail) :
    EndsDigits (t ++ tail) := by
  rcases h with rfl | ⟨sign, run, -, -, rfl⟩
  · exact htail
  · intro c hc
    obtain rfl := Option.some.inj hc
    rfl

theorem endsDigits_fraction {fraction exponent : Text} (hf : IsFraction fraction)
    (he : IsExponent exponent) (htail : EndsDigits tail) :
    EndsDigits (fraction ++ (exponent ++ tail)) := by
  rcases hf with rfl | ⟨run, -, rfl⟩
  · rw [List.nil_append]
    exact endsDigits_exponent he htail
  · intro c hc
    obtain rfl := Option.some.inj hc
    rfl

/-- The whole part at the start of a text is the one that was put there. -/
theorem wholeOf_append (h : IsWhole ds) (ht : EndsDigits t) : wholeOf (ds ++ t) = ds := by
  rcases h with rfl | ⟨c, rest, rfl, hdigits, hc⟩
  · rfl
  · have hne : (c :: rest ++ t).head? ≠ some '0' := fun h => hc (Option.some.inj h)
    rw [wholeOf, if_neg hne, digitsOf, takeWhile_digits_append hdigits ht]

theorem fractionOf_append {exponent : Text} (h : IsFraction t) (he : IsExponent exponent)
    (htail : Stops tail) : fractionOf (t ++ (exponent ++ tail)) = t := by
  rcases h with rfl | ⟨run, hrun, rfl⟩
  · rw [List.nil_append]
    rcases he with rfl | ⟨sign, run, -, -, rfl⟩
    · cases tail with
      | nil => rfl
      | cons c tail =>
        have hc : c ≠ '.' := by
          rintro rfl
          exact absurd (htail _ rfl) (by decide)
        simp [fractionOf, hc]
    · rfl
  · have hdigits : digitsOf (run ++ (exponent ++ tail)) = run :=
      takeWhile_digits_append hrun.digits (endsDigits_exponent he htail.endsDigits)
    rw [List.cons_append, fractionOf, hdigits, if_pos]
    simpa using hrun.ne_nil

theorem exponentOf_append (h : IsExponent t) (htail : Stops tail) :
    exponentOf (t ++ tail) = t := by
  rcases h with rfl | ⟨sign, run, hrun, hsign, rfl⟩
  · cases tail with
    | nil => rfl
    | cons c tail =>
      have hc : ¬ (c = 'e' ∨ c = 'E') := by
        rintro (rfl | rfl) <;> exact absurd (htail _ rfl) (by decide)
      rw [List.nil_append, exponentOf, if_neg hc]
  · have hdigits : digitsOf (run ++ tail) = run :=
      takeWhile_digits_append hrun.digits htail.endsDigits
    have hkept : ((sign :: (run ++ tail)).take 1).filter
        (fun c : CodePoint => c = '+' || c = '-') = [sign] := by
      rcases hsign with rfl | rfl <;> rfl
    have hne : run.isEmpty = false := by simpa using hrun.ne_nil
    rw [List.cons_append, List.cons_append, exponentOf, if_pos (.inl rfl), hkept]
    change (if (digitsOf (run ++ tail)).isEmpty then []
      else CodePoint.ofChar 'e' :: ([sign] ++ digitsOf (run ++ tail))) = _
    rw [hdigits, hne]
    rfl

/-! ## Numbers -/

/-- A minus sign or nothing. -/
def signText (negative : Bool) : Text := if negative then "-" else ""

theorem sign_append (negative : Bool) (h : IsRun ds) (t : Text) :
    ((signText negative ++ (ds ++ t)).take 1).filter (fun c : CodePoint => c = '-') =
      signText negative := by
  cases negative with
  | true => rfl
  | false =>
    obtain ⟨c, rest, rfl⟩ := List.exists_cons_of_ne_nil h.ne_nil
    have hc : c ≠ '-' := by
      rintro rfl
      exact absurd (h.digits _ (List.mem_cons_self ..)) (by decide)
    simp [signText, Text.ofString, hc]

theorem signText_isEmpty (negative : Bool) : (!(signText negative).isEmpty) = negative := by
  cases negative <;> rfl

/-- What a proper numeral is read as, up to its end. -/
theorem number?_numeral (negative : Bool) (h : n.IsProper) (htail : Stops tail) :
    number? (signText negative ++ (n.text ++ tail)) =
      if n.fraction.isEmpty && n.exponent.isEmpty then
        if Reading.maxDigits < n.whole.length then some (.error (.tooLong n.whole.length))
        else
          some (.ok (int (if negative then -(Text.decimalValue n.whole : Int)
            else Text.decimalValue n.whole), (signText negative ++ n.text).length))
      else
        (Reading.decimal negative n.text).map fun x =>
          .ok (real x, (signText negative ++ n.text).length) := by
  have hends := endsDigits_fraction h.fraction h.exponent htail.endsDigits
  have hsplit : n.text ++ tail = n.whole ++ (n.fraction ++ (n.exponent ++ tail)) := by
    simp only [Numeral.text, List.append_assoc]
  have hsign := sign_append negative h.whole.isRun
    (n.fraction ++ (n.exponent ++ tail))
  have hwhole := wholeOf_append h.whole hends
  have hne : n.whole.isEmpty = false := by simpa using h.whole.isRun.ne_nil
  have hfraction := fractionOf_append h.fraction h.exponent htail
  have hexponent := exponentOf_append h.exponent htail
  have hlength : (signText negative).length + n.whole.length + n.fraction.length +
      n.exponent.length = (signText negative ++ n.text).length := by
    simp only [Numeral.text, List.length_append]
    omega
  rw [hsplit]
  simp only [number?, hsign, List.drop_left, hwhole, hne, hfraction, ← List.drop_drop, hexponent,
    signText_isEmpty, hlength, Bool.false_eq_true, if_false]
  rfl

/-! ## Integers -/

theorem ofInt_eq (k : Int) : Text.ofInt k = signText (k < 0) ++ Text.ofNat k.natAbs := by
  rw [Text.ofInt, signText]
  by_cases hk : k < 0 <;> simp [hk]
  rfl

theorem isWhole_ofNat (n : Nat) : IsWhole (Text.ofNat n) := by
  rcases Nat.eq_zero_or_pos n with rfl | hn
  · exact .inl Text.ofNat_zero
  · obtain ⟨c, rest, h, hc⟩ := Text.exists_ofNat_eq_cons hn
    exact .inr ⟨c, rest, h, Text.areDigits_ofNat n, hc⟩

/-- An integer of few enough digits is read as itself. -/
theorem number?_ofInt {k : Int} (hk : k.natAbs < 10 ^ Reading.maxDigits) (htail : Stops tail) :
    number? (Text.ofInt k ++ tail) = some (.ok (int k, (Text.ofInt k).length)) := by
  have hproper : (⟨Text.ofNat k.natAbs, [], []⟩ : Numeral).IsProper :=
    ⟨isWhole_ofNat _, .inl rfl, .inl rfl⟩
  have htext : (⟨Text.ofNat k.natAbs, [], []⟩ : Numeral).text = Text.ofNat k.natAbs := by
    simp [Numeral.text]
  have hnumber := number?_numeral (decide (k < 0)) hproper htail
  have hlength : ¬ Reading.maxDigits < (Text.ofNat k.natAbs).length :=
    Nat.not_lt.2 (Text.length_ofNat_le (by decide) hk)
  have hvalue : (if decide (k < 0) = true then -((k.natAbs : Nat) : Int) else (k.natAbs : Nat)) =
      k := by
    simp only [decide_eq_true_eq]
    split <;> omega
  rw [htext, ← List.append_assoc, ← ofInt_eq] at hnumber
  rw [hnumber]
  dsimp only
  rw [if_pos (by rfl), if_neg hlength, Text.decimalValue_ofNat, hvalue]

/-! ## Real numbers -/

theorem isSome_exponent {sign : CodePoint} {run : Text} (hrun : IsRun run)
    (hsign : sign = CodePoint.ofChar '+' ∨ sign = CodePoint.ofChar '-') :
    (Reading.exponent (sign :: run)).isSome = true := by
  have hne : run.isEmpty = false := by simpa using hrun.ne_nil
  have hall : run.all isDigit = true := List.all_eq_true.2 hrun.digits
  have hread : ∀ negative, Reading.sign (sign :: run) = (negative, run) →
      (Reading.exponent (sign :: run)).isSome = true := by
    intro negative hs
    simp only [Reading.exponent, hs, hne, hall]
    rfl
  rcases hsign with rfl | rfl
  · exact hread false rfl
  · exact hread true rfl

theorem isSome_exponentPart (h : IsExponent t) : (Reading.exponentPart t).isSome = true := by
  rcases h with rfl | ⟨sign, run, hrun, hsign, rfl⟩
  · rfl
  · rw [Reading.exponentPart, if_pos (.inl rfl)]
    exact isSome_exponent hrun hsign

theorem fraction_append {exponent : Text} (h : IsFraction t) (he : IsExponent exponent) :
    (Reading.fraction (t ++ exponent)).2 = exponent := by
  rcases h with rfl | ⟨run, hrun, rfl⟩
  · rcases he with rfl | ⟨sign, run, -, -, rfl⟩ <;> rfl
  · have hends := endsDigits_exponent he endsDigits_nil
    rw [List.append_nil] at hends
    rw [List.cons_append, Reading.fraction, if_pos rfl]
    exact dropWhile_digits_append hrun.digits hends

/-- A proper numeral is a decimal. -/
theorem isSome_decimal (negative : Bool) (h : n.IsProper) :
    (Reading.decimal negative n.text).isSome = true := by
  have hends := endsDigits_fraction h.fraction h.exponent endsDigits_nil
  rw [List.append_nil] at hends
  have hrun := h.whole.isRun
  have htake : n.text.takeWhile isDigit = n.whole := by
    rw [Numeral.text, List.append_assoc, takeWhile_digits_append hrun.digits hends]
  have hdrop : n.text.dropWhile isDigit = n.fraction ++ n.exponent := by
    rw [Numeral.text, List.append_assoc, dropWhile_digits_append hrun.digits hends]
  have hne : ∀ t, (n.whole ++ t).isEmpty = false := by
    intro t
    simpa using fun hnil => absurd hnil hrun.ne_nil
  simp only [Reading.decimal, htake, hdrop, hne, fraction_append h.fraction h.exponent]
  rw [if_neg Bool.false_ne_true, Option.isSome_map]
  exact isSome_exponentPart h.exponent

/-- Reading a decimal rounds it. -/
theorem decimal_isRounded {y : Binary64} (h : Reading.decimal negative t = some y) :
    y.IsRounded := by
  simp only [Reading.decimal] at h
  split at h
  · cases h
  · obtain ⟨e, -, rfl⟩ := Option.map_eq_some_iff.1 h
    exact Binary64.ofDecimal_isRounded ..

/-- A finite rounded number is written as a proper numeral that is read as some real number. -/
theorem exists_number?_render {m : Nat} {e : Int}
    (h : (Binary64.finite negative m e).IsRounded) :
    ∃ (n : Numeral) (y : Binary64), n.IsProper ∧
      DecimalLayout.json.render (.finite negative m e) = signText negative ++ n.text ∧
      ∀ tail, Stops tail → number? (DecimalLayout.json.render (.finite negative m e) ++ tail) =
        some (.ok (real y, (DecimalLayout.json.render (.finite negative m e)).length)) := by
  obtain ⟨n, hproper, hfractional, htext⟩ := DecimalLayout.exists_render_eq .json h
  obtain ⟨y, hy⟩ := Option.isSome_iff_exists.1 (isSome_decimal negative hproper)
  have hpart : (n.fraction.isEmpty && n.exponent.isEmpty) = false := by
    rcases hfractional with hf | hf <;> simp [hf]
  refine ⟨n, y, hproper, htext, fun tail htail => ?_⟩
  have hnumber := number?_numeral negative hproper htail
  rw [hpart, hy] at hnumber
  rw [htext, List.append_assoc]
  exact hnumber

end Json

end Decouple
