import Decouple.Json.Reader
import Decouple.Json.Writer
import Decouple.Proofs.Number.Numerals

/-!
# Reading a written string

Each code point is written so that reading takes it off again (`stringFrom_writeCodePoint`): on its
own, after a backslash, or as a number escape.  In a style that leaves text as it is, a string is
read as it was (`stringFrom_writeString`).

In a style that escapes all but printable ASCII, a code point beyond 16 bits is written as a high
and a low surrogate, and so are a high and a low surrogate that stand side by side.  Such a string
is read with its pairs of surrogates joined (`stringFrom_joined`); a text without surrogates is read
as it was (`joined_eq_self`).
-/

namespace Decouple

namespace CodePoint

/-- The surrogates that come first in a pair. -/
def isHigh (c : CodePoint) : Bool := 0xD800 ≤ c.val && c.val ≤ 0xDBFF

/-- The surrogates that come second in a pair. -/
def isLow (c : CodePoint) : Bool := 0xDC00 ≤ c.val && c.val ≤ 0xDFFF

/-- The code point that a high and a low surrogate make. -/
def ofPair (high low : Nat) : CodePoint :=
  ofNat (0x10000 + (high - 0xD800) * 1024 + (low - 0xDC00))

theorem isHigh_eq_false {c : CodePoint} (h : c.isSurrogate = false) : c.isHigh = false := by
  simp only [isSurrogate, isHigh, Bool.and_eq_false_iff, decide_eq_false_iff_not] at *
  omega

end CodePoint

namespace Text

/-- A text in which each high surrogate with a low one behind it has become the code point that the
two make. -/
def joined : Text → Text
  | [] => []
  | [c] => [c]
  | c :: d :: rest =>
    if c.isHigh && d.isLow then CodePoint.ofPair c.val d.val :: joined rest
    else c :: joined (d :: rest)

theorem joined_eq_self {t : Text} (h : ∀ c ∈ t, c.isSurrogate = false) : joined t = t := by
  fun_induction joined t with
  | case1 => rfl
  | case2 => rfl
  | case3 c d rest hpair ih =>
    have hc : c.isHigh = false := CodePoint.isHigh_eq_false (h c (List.mem_cons_self ..))
    rw [hc] at hpair
    cases hpair
  | case4 c d rest _ ih => rw [ih fun e he => h e (List.mem_cons_of_mem _ he)]

end Text

namespace Json

variable {style : JsonStyle} {c d : CodePoint} {rest tail sofar : Text} {opened offset n : Nat}

/-- Code points that belong to an escape are passed over. -/
theorem stringFrom_skip (opened : Nat) (escaped rest : Text) (offset : Nat) (sofar : Text) :
    stringFrom opened escaped.length (escaped ++ rest) offset sofar =
      stringFrom opened 0 rest (offset + escaped.length) sofar := by
  induction escaped generalizing offset with
  | nil => rfl
  | cons c escaped ih =>
    rw [List.cons_append, List.length_cons, stringFrom, ih]
    congr 1
    omega

theorem stringFrom_escape (escaped : Text)
    (h : escape opened offset (escaped ++ rest) = .ok (c, escaped.length)) :
    stringFrom opened 0 ('\\' :: (escaped ++ rest)) offset sofar =
      stringFrom opened 0 rest (offset + 1 + escaped.length) (c :: sofar) := by
  rw [stringFrom, if_neg (by decide), if_pos rfl, h]
  exact stringFrom_skip ..

/-- A letter after a backslash. -/
theorem escape_simple {letter : CodePoint} (h : simpleEscape? letter = some c) :
    escape opened offset (letter :: rest) = .ok (c, 1) := by
  have hletter : letter ≠ 'u' := by
    rintro rfl
    cases h
  simp only [escape, if_neg hletter, h]

/-! ## Number escapes -/

/-- The digits of a number are taken off. -/
theorem fourHexDigits?_hex (hn : n < 0x10000) (rest : Text) :
    fourHexDigits? (Text.hex 4 n ++ rest) = some n := by
  have hvalue (k : Nat) : (Text.digit (k % 16)).hexValue? = some (k % 16) :=
    Text.hexValue?_digit (Nat.mod_lt k (by decide))
  have hfirst : (Text.digit (n / 4096)).hexValue? = some (n / 4096) :=
    Text.hexValue?_digit (by omega)
  rw [Text.hex_four hn]
  simp only [List.cons_append, fourHexDigits?, hfirst, hvalue, Option.bind_eq_bind,
    Option.bind_some, Option.some.injEq]
  omega

/-- What follows a number escape and does not go on with it: no number escape, or one that is no low
surrogate. -/
def EndsUnit (rest : Text) : Prop :=
  rest ≠ [] ∧ (Text.startsWith rest "\\u" = true →
    ∃ n, fourHexDigits? (rest.drop 2) = some n ∧ ¬(0xDC00 ≤ n ∧ n ≤ 0xDFFF))

theorem drop_hex (hn : n < 0x10000) (rest : Text) (k : Nat) :
    (Text.hex 4 n ++ rest).drop (4 + k) = rest.drop k := by
  rw [← List.drop_drop, List.drop_left' (Text.length_hex_four hn)]

/-- A number escape stands for its number, unless it is one of a pair. -/
theorem escape_unit (opened offset : Nat) (hn : n < 0x10000) (hrest : rest ≠ [])
    (halone : 0xD800 ≤ n ∧ n ≤ 0xDBFF → EndsUnit rest) :
    escape opened offset ('u' :: (Text.hex 4 n ++ rest)) = .ok (CodePoint.ofNat n, 5) := by
  have hdrop := drop_hex hn rest
  have hne : (rest.drop 0).isEmpty = false := by simpa using hrest
  rw [escape, if_pos rfl, unicodeEscape, hdrop 0, hne, fourHexDigits?_hex hn, if_neg (by decide)]
  dsimp only
  split
  · next hpair =>
    simp only [Bool.and_eq_true, decide_eq_true_eq] at hpair
    obtain ⟨low, hlow, hnot⟩ := (halone hpair.1.1).2 hpair.2
    rw [hdrop 2, hlow]
    dsimp only
    rw [if_neg hnot]
    rfl
  · rfl

/-- The number escapes of a high and a low surrogate stand for one code point. -/
theorem escape_pair (opened offset : Nat) {high low : Nat} (hhigh : 0xD800 ≤ high ∧ high ≤ 0xDBFF)
    (hlow : 0xDC00 ≤ low ∧ low ≤ 0xDFFF) (hrest : rest ≠ []) :
    escape opened offset ('u' :: (Text.hex 4 high ++ (unitEscape low ++ rest))) =
      .ok (CodePoint.ofPair high low, 11) := by
  have hsmall : high < 0x10000 := by omega
  have hdrop := drop_hex hsmall (unitEscape low ++ rest)
  have htwo : (unitEscape low ++ rest).drop 2 = Text.hex 4 low ++ rest := rfl
  have hsix : (unitEscape low ++ rest).drop 6 = rest := by
    have hskip : (unitEscape low ++ rest).drop (2 + 4) = (Text.hex 4 low ++ rest).drop (4 + 0) := by
      rw [← List.drop_drop, htwo]
    rw [hskip, drop_hex (by omega)]
    rfl
  have hmore : ((unitEscape low ++ rest).drop 0).isEmpty = false := rfl
  have hlast : rest.isEmpty = false := by simpa using hrest
  have hstart : Text.startsWith ((unitEscape low ++ rest).drop 0) "\\u" = true := rfl
  rw [escape, if_pos rfl, unicodeEscape, hdrop 0, hmore, if_neg (by decide),
    fourHexDigits?_hex (by omega)]
  dsimp only
  rw [hdrop 6, hsix, hdrop 2, htwo, fourHexDigits?_hex (by omega), hlast, hstart]
  simp only [hhigh.1, hhigh.2, decide_true, Bool.and_true, Bool.not_false, if_true]
  rw [if_pos hlow]
  simp only [Except.map, CodePoint.ofPair]

theorem stringFrom_unitEscape (hn : n < 0x10000) (hrest : rest ≠ [])
    (halone : 0xD800 ≤ n ∧ n ≤ 0xDBFF → EndsUnit rest) (opened offset : Nat) (sofar : Text) :
    ∃ offset', stringFrom opened 0 (unitEscape n ++ rest) offset sofar =
      stringFrom opened 0 rest offset' (CodePoint.ofNat n :: sofar) := by
  have hlength : (CodePoint.ofChar 'u' :: Text.hex 4 n).length = 5 := by
    rw [List.length_cons, Text.length_hex_four hn]
  refine ⟨_, stringFrom_escape (CodePoint.ofChar 'u' :: Text.hex 4 n) ?_⟩
  rw [hlength]
  exact escape_unit opened offset hn hrest halone

theorem stringFrom_pair {high low : Nat} (hhigh : 0xD800 ≤ high ∧ high ≤ 0xDBFF)
    (hlow : 0xDC00 ≤ low ∧ low ≤ 0xDFFF) (hrest : rest ≠ []) (opened offset : Nat)
    (sofar : Text) :
    ∃ offset', stringFrom opened 0 (unitEscape high ++ (unitEscape low ++ rest)) offset sofar =
      stringFrom opened 0 rest offset' (CodePoint.ofPair high low :: sofar) := by
  have hlength : (CodePoint.ofChar 'u' :: (Text.hex 4 high ++ unitEscape low)).length = 11 := by
    have hunit : (unitEscape low).length = 2 + (Text.hex 4 low).length := by
      rw [unitEscape, List.length_append]
      rfl
    rw [List.length_cons, List.length_append, hunit, Text.length_hex_four (by omega),
      Text.length_hex_four (by omega)]
  have hescape : escape opened offset
      ((CodePoint.ofChar 'u' :: (Text.hex 4 high ++ unitEscape low)) ++ rest) =
        .ok (CodePoint.ofPair high low,
          (CodePoint.ofChar 'u' :: (Text.hex 4 high ++ unitEscape low)).length) := by
    rw [hlength, List.cons_append, List.append_assoc]
    exact escape_pair opened offset hhigh hlow hrest
  refine ⟨_, Eq.trans ?_ (stringFrom_escape _ hescape)⟩
  rw [List.cons_append, List.append_assoc]
  rfl

/-! ## Code points -/

/-- The escape of a code point is taken off, unless the code point is a high surrogate. -/
theorem stringFrom_codePointEscape (hc : c.isHigh = false) (hrest : rest ≠ [])
    (opened offset : Nat) (sofar : Text) :
    ∃ offset', stringFrom opened 0 (codePointEscape c ++ rest) offset sofar =
      stringFrom opened 0 rest offset' (c :: sofar) := by
  unfold codePointEscape
  split
  · next hsmall =>
    have hnot : ¬(0xD800 ≤ c.val ∧ c.val ≤ 0xDBFF) := by simpa [CodePoint.isHigh] using hc
    obtain ⟨offset', h⟩ := stringFrom_unitEscape hsmall hrest (fun h => absurd h hnot) opened
      offset sofar
    exact ⟨offset', by rw [h, CodePoint.ofNat_val]⟩
  · next hlarge =>
    have hval := c.val_lt
    have hpair : CodePoint.ofPair (0xD800 + (c.val - 0x10000) / 1024)
        (0xDC00 + (c.val - 0x10000) % 1024) = c := by
      rw [CodePoint.ofPair]
      refine Eq.trans (congrArg CodePoint.ofNat ?_) (CodePoint.ofNat_val c)
      omega
    have hhigh : 0xD800 ≤ 0xD800 + (c.val - 0x10000) / 1024 ∧
        0xD800 + (c.val - 0x10000) / 1024 ≤ 0xDBFF := by omega
    have hlow : 0xDC00 ≤ 0xDC00 + (c.val - 0x10000) % 1024 ∧
        0xDC00 + (c.val - 0x10000) % 1024 ≤ 0xDFFF := by omega
    obtain ⟨offset', h⟩ := stringFrom_pair hhigh hlow hrest opened offset sofar
    exact ⟨offset', by rw [List.append_assoc, h, hpair]⟩

/-- A written code point is taken off, unless it is a high surrogate that is escaped. -/
theorem stringFrom_writeCodePoint (hc : style.escapeNonAscii = false ∨ c.isHigh = false)
    {rest : Text} (hrest : rest ≠ []) (opened offset : Nat) (sofar : Text) :
    ∃ offset', stringFrom opened 0 (writeCodePoint style c ++ rest) offset sofar =
      stringFrom opened 0 rest offset' (c :: sofar) := by
  have hletter : ∀ letter, simpleEscape? letter = some c →
      stringFrom opened 0 ('\\' :: ([letter] ++ rest)) offset sofar =
        stringFrom opened 0 rest (offset + 1 + 1) (c :: sofar) := fun letter h =>
    stringFrom_escape [letter] (escape_simple h)
  have hnumber : ∀ n, c.val = n → c = CodePoint.ofNat n := fun n h => by
    rw [← h, CodePoint.ofNat_val]
  unfold writeCodePoint
  split_ifs with hquote hfeed hreturn htab hback hform hcontrol hescape
  · refine ⟨_, hletter c ?_⟩
    rcases hquote with rfl | rfl <;> rfl
  · exact ⟨_, hletter 'n' (by rw [hfeed]; rfl)⟩
  · exact ⟨_, hletter 'r' (by rw [hreturn]; rfl)⟩
  · exact ⟨_, hletter 't' (by rw [htab]; rfl)⟩
  · exact ⟨_, hletter 'b' (by rw [hnumber 8 hback]; rfl)⟩
  · exact ⟨_, hletter 'f' (by rw [hnumber 12 hform]; rfl)⟩
  · obtain ⟨offset', h⟩ := stringFrom_unitEscape (by omega) hrest (fun h => by omega) opened
      offset sofar (n := c.val)
    exact ⟨offset', by rw [h, CodePoint.ofNat_val]⟩
  · rcases hc with hc | hc
    · rw [hc] at hescape
      cases hescape
    · exact stringFrom_codePointEscape hc hrest opened offset sofar
  · rw [not_or] at hquote
    refine ⟨offset + 1, ?_⟩
    rw [List.singleton_append, stringFrom, if_neg hquote.1, if_neg hquote.2, if_neg hcontrol]

/-! ## Strings -/

/-- A written string is read as it was, after its opening quote. -/
theorem stringFrom_writeString (hstyle : style.escapeNonAscii = false) (t tail : Text)
    (opened offset : Nat) (sofar : Text) :
    ∃ offset', stringFrom opened 0
        (t.flatMap (writeCodePoint style) ++ CodePoint.ofChar '"' :: tail) offset sofar =
      .ok (sofar.reverse ++ t, ⟨tail, offset'⟩) := by
  induction t generalizing offset sofar with
  | nil => exact ⟨offset + 1, by rw [List.append_nil]; rfl⟩
  | cons c t ih =>
    rw [List.flatMap_cons, List.append_assoc]
    have hrest : t.flatMap (writeCodePoint style) ++ CodePoint.ofChar '"' :: tail ≠ [] := by simp
    obtain ⟨offset', hstep⟩ := stringFrom_writeCodePoint (c := c) (.inl hstyle) hrest opened offset
      sofar
    obtain ⟨offset'', hmore⟩ := ih offset' (c :: sofar)
    refine ⟨offset'', ?_⟩
    rw [hstep, hmore, List.reverse_cons, List.append_assoc]
    rfl

/-- In a style that escapes it, a surrogate is written as one unit. -/
theorem writeCodePoint_surrogate (hstyle : style.escapeNonAscii = true)
    (hc : 0xD800 ≤ c.val ∧ c.val ≤ 0xDFFF) : writeCodePoint style c = unitEscape c.val := by
  have hne (d : CodePoint) (hd : d.val < 0xD800) : c ≠ d := by
    rintro rfl
    omega
  unfold writeCodePoint
  rw [if_neg (by
      rw [not_or]
      exact ⟨hne _ (by decide), hne _ (by decide)⟩),
    if_neg (hne _ (by decide)), if_neg (hne _ (by decide)), if_neg (hne _ (by decide)),
    if_neg (by omega), if_neg (by omega), if_neg (by omega), hstyle, codePointEscape]
  rw [if_pos (by simpa using (by omega : 126 < c.val)), if_pos (by omega)]

/-- What is written for a code point does not go on with a number escape before it, unless it is a
low surrogate. -/
theorem endsUnit_writeCodePoint (hd : d.isLow = false) (more : Text) :
    EndsUnit (writeCodePoint style d ++ more) := by
  have hlow : ¬(0xDC00 ≤ d.val ∧ d.val ≤ 0xDFFF) := by simpa [CodePoint.isLow] using hd
  have hunit {n : Nat} (hn : n < 0x10000) (hnot : ¬(0xDC00 ≤ n ∧ n ≤ 0xDFFF)) (more : Text) :
      EndsUnit (unitEscape n ++ more) := by
    refine ⟨List.cons_ne_nil _ _, fun _ => ⟨n, ?_, hnot⟩⟩
    exact fourHexDigits?_hex hn more
  have hother {t : Text} (hne : t ≠ []) (hstart : Text.startsWith t "\\u" = false) :
      EndsUnit t := by
    refine ⟨hne, fun h => ?_⟩
    rw [hstart] at h
    cases h
  unfold writeCodePoint
  split_ifs with hquote hfeed hreturn htab hback hform hcontrol hescape
  · rcases hquote with rfl | rfl <;> exact hother (List.cons_ne_nil _ _) rfl
  · exact hother (List.cons_ne_nil _ _) rfl
  · exact hother (List.cons_ne_nil _ _) rfl
  · exact hother (List.cons_ne_nil _ _) rfl
  · exact hother (List.cons_ne_nil _ _) rfl
  · exact hother (List.cons_ne_nil _ _) rfl
  · exact hunit (by omega) (by omega) more
  · unfold codePointEscape
    split
    · next hsmall => exact hunit hsmall hlow more
    · have hval := d.val_lt
      rw [List.append_assoc]
      exact hunit (by omega) (by omega) _
  · rw [not_or] at hquote
    refine hother (List.cons_ne_nil _ _) ?_
    have hne : (CodePoint.ofChar '\\' == d) = false := by
      rw [beq_eq_false_iff_ne]
      exact fun h => hquote.2 h.symm
    have htext : Text.ofString "\\u" = [CodePoint.ofChar '\\', CodePoint.ofChar 'u'] := rfl
    rw [htext, Text.startsWith, List.singleton_append, List.isPrefixOf_cons_cons, hne,
      Bool.false_and]

/-- In a style that escapes all but ASCII, a written string is read with its pairs of surrogates
joined. -/
theorem stringFrom_joined (hstyle : style.escapeNonAscii = true) (t tail : Text)
    (opened offset : Nat) (sofar : Text) :
    ∃ offset', stringFrom opened 0
        (t.flatMap (writeCodePoint style) ++ CodePoint.ofChar '"' :: tail) offset sofar =
      .ok (sofar.reverse ++ Text.joined t, ⟨tail, offset'⟩) := by
  have hclosing (u : Text) :
      u.flatMap (writeCodePoint style) ++ CodePoint.ofChar '"' :: tail ≠ [] := by simp
  have hescaped {c : CodePoint} {rest : Text} (hrest : rest ≠ [])
      (halone : c.isHigh = true → EndsUnit rest) (offset : Nat) (sofar : Text) :
      ∃ offset', stringFrom opened 0 (writeCodePoint style c ++ rest) offset sofar =
        stringFrom opened 0 rest offset' (c :: sofar) := by
    cases hhigh : c.isHigh with
    | false => exact stringFrom_writeCodePoint (.inr hhigh) hrest opened offset sofar
    | true =>
      have hrange : 0xD800 ≤ c.val ∧ c.val ≤ 0xDBFF := by simpa [CodePoint.isHigh] using hhigh
      rw [writeCodePoint_surrogate hstyle (by omega)]
      obtain ⟨offset', h⟩ := stringFrom_unitEscape (n := c.val) (by omega) hrest
        (fun _ => halone hhigh) opened offset sofar
      exact ⟨offset', by rw [h, CodePoint.ofNat_val]⟩
  fun_induction Text.joined t generalizing offset sofar with
  | case1 => exact ⟨offset + 1, by rw [List.append_nil]; rfl⟩
  | case2 c =>
    have hquote : EndsUnit (CodePoint.ofChar '"' :: tail) := by
      refine ⟨List.cons_ne_nil _ _, fun h => ?_⟩
      cases h
    obtain ⟨offset', h⟩ := hescaped (c := c) (List.cons_ne_nil _ _) (fun _ => hquote) offset sofar
    refine ⟨offset' + 1, ?_⟩
    rw [List.flatMap_cons, List.flatMap_nil, List.append_nil, h]
    simp [stringFrom]
  | case3 c d rest hpair ih =>
    rw [Bool.and_eq_true] at hpair
    have hhigh : 0xD800 ≤ c.val ∧ c.val ≤ 0xDBFF := by simpa [CodePoint.isHigh] using hpair.1
    have hlow : 0xDC00 ≤ d.val ∧ d.val ≤ 0xDFFF := by simpa [CodePoint.isLow] using hpair.2
    rw [List.flatMap_cons, List.flatMap_cons, writeCodePoint_surrogate hstyle (by omega),
      writeCodePoint_surrogate hstyle (by omega), List.append_assoc, List.append_assoc]
    obtain ⟨offset', h⟩ := stringFrom_pair hhigh hlow (hclosing rest) opened offset sofar
    obtain ⟨offset'', hmore⟩ := ih offset' (CodePoint.ofPair c.val d.val :: sofar)
    refine ⟨offset'', ?_⟩
    rw [h, hmore, List.reverse_cons, List.append_assoc]
    rfl
  | case4 c d rest hpair ih =>
    have halone : c.isHigh = true →
        EndsUnit ((d :: rest).flatMap (writeCodePoint style) ++ CodePoint.ofChar '"' :: tail) := by
      intro hhigh
      have hd : d.isLow = false := by simpa [hhigh] using hpair
      rw [List.flatMap_cons, List.append_assoc]
      exact endsUnit_writeCodePoint hd _
    obtain ⟨offset', h⟩ := hescaped (c := c) (hclosing (d :: rest)) halone offset sofar
    obtain ⟨offset'', hmore⟩ := ih offset' (c :: sofar)
    refine ⟨offset'', ?_⟩
    rw [List.flatMap_cons, List.append_assoc, h, hmore, List.reverse_cons, List.append_assoc]
    rfl

end Json

end Decouple
