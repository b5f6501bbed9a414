import Decouple.Proofs.Json.Reading

/-!
# Where the names of members are written

A name that an object holds is written somewhere in the text that was read.  `NameAt` says where
names may stand: behind the brace that opens an object, and behind each comma between its members.
It says so of the text alone.  To pass over the members in between, it needs to know where a string
ends and which brackets belong together (`Over`), but nothing of the values.

A string of a text spells a name if its escapes do (`Spells`).  What the reader takes for a string
spells the text that the reader gives (`spells_of_stringFrom`), and whatever it reads, it goes over
such a stretch (`over_of_valueFrom`).  So each member of an object that is read has a place where
its name is spelled (`exists_nameAt`).
-/

namespace Decouple

open CodePoint (isDigit isIn)

namespace Json

variable {t u rest name sofar : Text} {c : CodePoint} {most levels fuel : Nat} {j : Json}
  {value : Cursor → Read Json} {cur cur' : Cursor} {members : List (Text × Json)}
  {names : List Text}

/-! ## Spelled strings -/

/-- A text that starts with the number escape of a low surrogate, and goes on behind it. -/
def StartsLow (t : Text) : Prop :=
  ∃ digits low more, t = CodePoint.ofChar '\\' :: CodePoint.ofChar 'u' :: (digits ++ more) ∧
    digits.length = 4 ∧ fourHexDigits? digits = some low ∧ (0xDC00 ≤ low ∧ low ≤ 0xDFFF) ∧ more ≠ []

/-- A text spells a name up to a closing quote, which has some rest behind it.  A high and a low
surrogate in number escapes, one behind the other, spell one code point. -/
inductive Spells : Text → Text → Text → Prop where
  | close (rest : Text) : Spells (CodePoint.ofChar '"' :: rest) [] rest
  | plain {c : CodePoint} {t name rest : Text} (hquote : c ≠ '"') (hescape : c ≠ '\\')
      (hprinted : 32 ≤ c.val) (h : Spells t name rest) : Spells (c :: t) (c :: name) rest
  | letter {l c : CodePoint} {t name rest : Text} (hl : simpleEscape? l = some c)
      (h : Spells t name rest) : Spells (CodePoint.ofChar '\\' :: l :: t) (c :: name) rest
  | unit {digits t name rest : Text} {n : Nat} (hlength : digits.length = 4)
      (hn : fourHexDigits? digits = some n)
      (halone : 0xD800 ≤ n ∧ n ≤ 0xDBFF → ¬StartsLow t) (h : Spells t name rest) :
      Spells (CodePoint.ofChar '\\' :: CodePoint.ofChar 'u' :: (digits ++ t))
        (CodePoint.ofNat n :: name) rest
  | pair {digits digits' t name rest : Text} {high low : Nat} (hlength : digits.length = 4)
      (hlength' : digits'.length = 4) (hhigh : fourHexDigits? digits = some high)
      (hlow : fourHexDigits? digits' = some low) (hfirst : 0xD800 ≤ high ∧ high ≤ 0xDBFF)
      (hsecond : 0xDC00 ≤ low ∧ low ≤ 0xDFFF) (h : Spells t name rest) :
      Spells (CodePoint.ofChar '\\' :: CodePoint.ofChar 'u' ::
        (digits ++ CodePoint.ofChar '\\' :: CodePoint.ofChar 'u' :: (digits' ++ t)))
        (CodePoint.ofPair high low :: name) rest

theorem Spells.suffix (h : Spells t name rest) : rest <:+ t := by
  induction h with
  | close rest => exact List.suffix_cons _ _
  | plain _ _ _ _ ih => exact ih.trans (List.suffix_cons _ _)
  | letter _ _ ih => exact ih.trans ((List.suffix_cons _ _).trans (List.suffix_cons _ _))
  | unit _ _ _ _ ih => exact ih.trans (List.suffix_append (_ :: _ :: _) _)
  | @pair digits digits' _ _ _ _ _ _ _ _ _ _ _ _ ih =>
    refine ih.trans ⟨CodePoint.ofChar '\\' :: CodePoint.ofChar 'u' ::
      (digits ++ CodePoint.ofChar '\\' :: CodePoint.ofChar 'u' :: digits'), ?_⟩
    simp

/-- The first code point of a name is spelled by itself or by an escape. -/
theorem Spells.head (h : Spells t name rest) (hname : name = c :: u) :
    ∃ d more, t = d :: more ∧ (d = c ∨ d = '\\') := by
  cases h with
  | close => cases hname
  | plain => exact ⟨_, _, rfl, .inl (List.cons.inj hname).1⟩
  | letter => exact ⟨_, _, rfl, .inr rfl⟩
  | unit => exact ⟨_, _, rfl, .inr rfl⟩
  | pair => exact ⟨_, _, rfl, .inr rfl⟩

/-! ### What the reader takes for a string -/

theorem fourHexDigits?_append {digits : Text} (h : digits.length = 4) (t : Text) :
    fourHexDigits? (digits ++ t) = fourHexDigits? digits := by
  match digits, h with
  | [a, b, c, d], _ => rfl

theorem exists_of_fourHexDigits? {n : Nat} (h : fourHexDigits? t = some n) :
    ∃ digits rest, t = digits ++ rest ∧ digits.length = 4 ∧ fourHexDigits? digits = some n := by
  match t, h with
  | a :: b :: c :: d :: rest, h => exact ⟨[a, b, c, d], rest, rfl, rfl, h⟩

/-- What stands behind a backslash: a letter, the digits of a unit or those of a pair. -/
inductive Escapes (rest : Text) (c : CodePoint) (n : Nat) : Prop where
  | letter {l : CodePoint} {t : Text} (hrest : rest = l :: t) (hl : simpleEscape? l = some c)
      (hn : n = 1)
  | unit {digits t : Text} {k : Nat} (hrest : rest = CodePoint.ofChar 'u' :: (digits ++ t))
      (hlength : digits.length = 4) (hk : fourHexDigits? digits = some k)
      (halone : 0xD800 ≤ k ∧ k ≤ 0xDBFF → ¬StartsLow t) (hc : c = CodePoint.ofNat k) (hn : n = 5)
  | pair {digits digits' t : Text} {high low : Nat}
      (hrest : rest = CodePoint.ofChar 'u' ::
        (digits ++ CodePoint.ofChar '\\' :: CodePoint.ofChar 'u' :: (digits' ++ t)))
      (hlength : digits.length = 4) (hlength' : digits'.length = 4)
      (hhigh : fourHexDigits? digits = some high) (hlow : fourHexDigits? digits' = some low)
      (hfirst : 0xD800 ≤ high ∧ high ≤ 0xDBFF) (hsecond : 0xDC00 ≤ low ∧ low ≤ 0xDFFF)
      (hc : c = CodePoint.ofPair high low) (hn : n = 11)

theorem startsWith_escape {digits : Text} (t : Text) :
    Text.startsWith (CodePoint.ofChar '\\' :: CodePoint.ofChar 'u' :: (digits ++ t)) "\\u" = true :=
  List.isPrefixOf_iff_prefix.2 ⟨digits ++ t, rfl⟩

theorem escapes_of_unicodeEscape {offset n : Nat} (h : unicodeEscape offset t = .ok (c, n)) :
    Escapes (CodePoint.ofChar 'u' :: t) c (n + 1) := by
  rw [unicodeEscape] at h
  split at h
  · cases h
  split at h
  · cases h
  next high hhigh =>
  obtain ⟨digits, u, rfl, hlength, hdigits⟩ := exists_of_fourHexDigits? hhigh
  have hdrop (k : Nat) : (digits ++ u).drop (4 + k) = u.drop k := by
    rw [← List.drop_drop, List.drop_left' hlength]
  have hfour : (digits ++ u).drop 4 = u := hdrop 0
  dsimp only at h
  rw [hfour, hdrop 6, hdrop 2] at h
  split at h
  · next hpair =>
    simp only [Bool.and_eq_true, decide_eq_true_eq] at hpair
    obtain ⟨⟨hfirst, hmore⟩, hstart⟩ := hpair
    obtain ⟨v, rfl⟩ := List.isPrefixOf_iff_prefix.1 hstart
    split at h
    · cases h
    next low hlow =>
    obtain ⟨digits', w, hv, hlength', hdigits'⟩ := exists_of_fourHexDigits? hlow
    obtain rfl : v = digits' ++ w := hv
    split at h
    · next hsecond =>
      obtain ⟨rfl, rfl⟩ := Prod.ext_iff.1 (Except.ok.inj h)
      exact @Escapes.pair _ _ _ digits digits' w high low rfl hlength hlength' hdigits hdigits'
        hfirst hsecond (by rw [CodePoint.ofPair]) rfl
    · next hsecond =>
      obtain ⟨rfl, rfl⟩ := Prod.ext_iff.1 (Except.ok.inj h)
      refine .unit rfl hlength hdigits (fun _ hlow' => ?_) rfl rfl
      obtain ⟨other, low', more, htext, hother, hlow', hrange, -⟩ := hlow'
      have hsame : digits' ++ w = other ++ more := (List.cons.inj (List.cons.inj htext).2).2
      rw [← fourHexDigits?_append hlength' w, hsame, fourHexDigits?_append hother,
        hlow'] at hdigits'
      exact hsecond (Option.some.inj hdigits' ▸ hrange)
  · next hpair =>
    obtain ⟨rfl, rfl⟩ := Prod.ext_iff.1 (Except.ok.inj h)
    refine .unit rfl hlength hdigits (fun hfirst hlow => hpair ?_) rfl rfl
    obtain ⟨other, low, more, rfl, hother, -, -, hmore⟩ := hlow
    have hsix : (CodePoint.ofChar '\\' :: CodePoint.ofChar 'u' :: (other ++ more)).drop 6 = more :=
      List.drop_left' hother
    rw [hsix, startsWith_escape]
    simpa [hfirst.1, hfirst.2] using hmore

theorem escapes_of_escape {opened offset n : Nat} (h : escape opened offset t = .ok (c, n)) :
    Escapes t c n := by
  cases t with
  | nil => cases h
  | cons l t =>
    rw [escape] at h
    split at h
    · next hl =>
      obtain ⟨⟨d, k⟩, hunit, heq⟩ := Step.map_eq_ok.1 h
      cases heq
      exact hl ▸ escapes_of_unicodeEscape hunit
    · split at h
      · next d hd =>
        cases h
        exact .letter rfl hd rfl
      · cases h

/-- What the reader takes for a string spells the text that it gives. -/
theorem spells_of_stringFrom {opened offset : Nat}
    (h : stringFrom opened 0 t offset sofar = .ok (name, cur)) :
    ∃ u, name = sofar.reverse ++ u ∧ Spells t u cur.rest := by
  induction hlength : t.length using Nat.strong_induction_on generalizing t offset sofar with
  | _ length ih =>
    subst hlength
    cases t with
    | nil => cases h
    | cons c t =>
      -- A code point that has been taken off is one of the name.
      have htaken {d : CodePoint} {more : Text} {offset : Nat}
          (hshort : more.length < (c :: t).length)
          (h : stringFrom opened 0 more offset (d :: sofar) = .ok (name, cur))
          (hspells : ∀ u, Spells more u cur.rest → Spells (c :: t) (d :: u) cur.rest) :
          ∃ u, name = sofar.reverse ++ u ∧ Spells (c :: t) u cur.rest := by
        obtain ⟨u, rfl, hu⟩ := ih _ hshort h rfl
        exact ⟨d :: u, by simp, hspells u hu⟩
      rw [stringFrom] at h
      split at h
      · next hquote =>
        cases h
        exact ⟨[], by simp, hquote ▸ .close t⟩
      · next hquote =>
        split at h
        · next hbackslash =>
          subst hbackslash
          split at h
          · next d n hescape =>
            -- What is left behind the escape is shorter.
            have hskip (escaped more : Text) (hrest : t = escaped ++ more)
                (hn : n = escaped.length) :
                ∃ offset, more.length < (CodePoint.ofChar '\\' :: t).length ∧
                  stringFrom opened 0 more offset (d :: sofar) = .ok (name, cur) := by
              subst hrest
              subst hn
              rw [stringFrom_skip] at h
              exact ⟨_, by rw [List.length_cons, List.length_append]; omega, h⟩
            cases escapes_of_escape hescape with
            | @letter l more hrest hl hn =>
              obtain ⟨_, hshort, h⟩ := hskip [l] more hrest hn
              exact htaken hshort h fun u hu => hrest ▸ .letter hl hu
            | @unit digits more k hrest hlength hk halone hc hn =>
              obtain ⟨_, hshort, h⟩ := hskip (CodePoint.ofChar 'u' :: digits) more hrest
                (by rw [hn, List.length_cons, hlength])
              exact htaken hshort h fun u hu => hrest ▸ hc ▸ .unit hlength hk halone hu
            | @pair digits digits' more high low hrest hlength hlength' hhigh hlow hfirst hsecond
                hc hn =>
              obtain ⟨_, hshort, h⟩ := hskip (CodePoint.ofChar 'u' :: (digits ++
                CodePoint.ofChar '\\' :: CodePoint.ofChar 'u' :: digits')) more (by simp [hrest])
                (by simp [hn, hlength, hlength'])
              exact htaken hshort h fun u hu =>
                hrest ▸ hc ▸ .pair hlength hlength' hhigh hlow hfirst hsecond hu
          · cases h
        · next hbackslash =>
          split at h
          · cases h
          · next hprinted =>
            exact htaken (Nat.lt_succ_self _) h fun u hu =>
              .plain hquote hbackslash (Nat.not_lt.1 hprinted) hu

/-! ## What stands in between -/

/-- What opens or closes a string, an array or an object. -/
def isStructural (c : CodePoint) : Bool := isIn "\"[]\x7b\x7d" c

/-- Behind a stretch of a text in which every string, array and object that opens is closed again,
some rest remains. -/
inductive Over : Text → Text → Prop where
  | here (rest : Text) : Over rest rest
  | plain {c : CodePoint} {t rest : Text} (hc : isStructural c = false) (h : Over t rest) :
      Over (c :: t) rest
  | string {t name behind rest : Text} (hs : Spells t name behind) (h : Over behind rest) :
      Over (CodePoint.ofChar '"' :: t) rest
  | array {t behind rest : Text} (hin : Over t (CodePoint.ofChar ']' :: behind))
      (h : Over behind rest) : Over (CodePoint.ofChar '[' :: t) rest
  | object {t behind rest : Text} (hin : Over t (CodePoint.ofChar '\x7d' :: behind))
      (h : Over behind rest) : Over (CodePoint.ofChar '\x7b' :: t) rest

theorem Over.trans (h : Over t u) (h' : Over u rest) : Over t rest := by
  induction h with
  | here => exact h'
  | plain hc _ ih => exact .plain hc (ih h')
  | string hs _ ih => exact .string hs (ih h')
  | array hin _ _ ih => exact .array hin (ih h')
  | object hin _ _ ih => exact .object hin (ih h')

theorem Over.suffix (h : Over t rest) : rest <:+ t := by
  induction h with
  | here rest => exact List.suffix_refl rest
  | plain _ _ ih => exact ih.trans (List.suffix_cons _ _)
  | string hs _ ih => exact ih.trans (hs.suffix.trans (List.suffix_cons _ _))
  | array _ _ ihin ih =>
    exact ih.trans ((List.suffix_cons _ _).trans (ihin.trans (List.suffix_cons _ _)))
  | object _ _ ihin ih =>
    exact ih.trans ((List.suffix_cons _ _).trans (ihin.trans (List.suffix_cons _ _)))

theorem over_append (h : ∀ c ∈ u, isStructural c = false) (rest : Text) :
    Over (u ++ rest) rest := by
  induction u with
  | nil => exact .here rest
  | cons c u ih =>
    rw [List.forall_mem_cons] at h
    exact .plain h.1 (ih h.2)

theorem isStructural_of_isSpace (h : isSpace c = true) : isStructural c = false := by
  simp only [isSpace, Bool.or_eq_true, decide_eq_true_eq] at h
  rcases h with ((rfl | rfl) | rfl) | rfl <;> rfl

theorem AreSpaces.over (h : AreSpaces u) (rest : Text) : Over (u ++ rest) rest :=
  over_append (fun c hc => isStructural_of_isSpace (h c hc)) rest

/-! ### Blanks and signs that are seen -/

theorem exists_skipSpace (cur : Cursor) :
    ∃ gap, AreSpaces gap ∧ cur.rest = gap ++ cur.skipSpace.rest :=
  ⟨cur.rest.takeWhile isSpace, fun _ hc => List.mem_takeWhile_imp hc,
    (List.prefix_iff_eq_append.1 (List.takeWhile_prefix isSpace)).symm⟩

theorem rest_of_sees (h : cur.sees c = true) : cur.rest = c :: (cur.skip 1).rest := by
  have hdrop : (cur.skip 1).rest = cur.rest.drop 1 := rfl
  rw [Cursor.sees, decide_eq_true_eq] at h
  cases hrest : cur.rest with
  | nil =>
    rw [hrest] at h
    cases h
  | cons d t =>
    rw [hrest] at h
    rw [hdrop, hrest, Option.some.inj h, List.drop_one, List.tail_cons]

/-- A sign that is seen behind blanks. -/
theorem exists_of_sees (h : cur.skipSpace.sees c = true) :
    ∃ gap, AreSpaces gap ∧ cur.rest = gap ++ c :: (cur.skipSpace.skip 1).rest := by
  obtain ⟨gap, hgap, hrest⟩ := exists_skipSpace cur
  exact ⟨gap, hgap, rest_of_sees h ▸ hrest⟩

/-! ### What values go over -/

/-- A text that starts another and opens and closes nothing. -/
def StartsPlain (u t : Text) : Prop := u <+: t ∧ ∀ c ∈ u, isStructural c = false

theorem StartsPlain.over (h : StartsPlain u t) : Over t (t.drop u.length) := by
  obtain ⟨rest, rfl⟩ := h.1
  rw [List.drop_left]
  exact over_append h.2 rest

theorem startsPlain_nil (t : Text) : StartsPlain [] t :=
  ⟨List.nil_prefix, fun _ hc => absurd hc List.not_mem_nil⟩

theorem StartsPlain.cons (hc : isStructural c = false) (h : StartsPlain u t) :
    StartsPlain (c :: u) (c :: t) :=
  ⟨List.cons_prefix_cons.2 ⟨rfl, h.1⟩, List.forall_mem_cons.2 ⟨hc, h.2⟩⟩

theorem isStructural_of_isDigit (h : isDigit c = true) : isStructural c = false := by
  have hnone : ∀ d ∈ Text.ofString "\"[]\x7b\x7d", isDigit d = false := by decide
  by_contra hc
  have hmem : c ∈ Text.ofString "\"[]\x7b\x7d" :=
    List.contains_iff_mem.1 (Bool.of_not_eq_false hc)
  exact Bool.false_ne_true ((hnone c hmem).symm.trans h)

theorem startsPlain_digitsOf (t : Text) : StartsPlain (digitsOf t) t :=
  ⟨List.takeWhile_prefix _, fun c hc => isStructural_of_isDigit (areDigits_digitsOf t c hc)⟩

theorem startsPlain_wholeOf (t : Text) : StartsPlain (wholeOf t) t := by
  refine ⟨?_, fun c hc => isStructural_of_isDigit (areDigits_wholeOf t c hc)⟩
  rw [wholeOf]
  split
  · exact List.take_prefix 1 t
  · exact List.takeWhile_prefix _

theorem startsPlain_fractionOf (t : Text) : StartsPlain (fractionOf t) t := by
  cases t with
  | nil => exact startsPlain_nil []
  | cons c t =>
    rw [fractionOf]
    split
    · next hpoint =>
      simp only [Bool.and_eq_true, decide_eq_true_eq] at hpoint
      exact .cons (hpoint.1 ▸ rfl) (startsPlain_digitsOf t)
    · exact startsPlain_nil _

/-- A sign, if one of some stands first. -/
theorem startsPlain_sign {isSign : CodePoint → Bool}
    (h : ∀ c, isSign c = true → isStructural c = false) (t : Text) :
    StartsPlain ((t.take 1).filter isSign) t := by
  cases t with
  | nil => exact startsPlain_nil []
  | cons c t =>
    cases hc : isSign c with
    | false => simpa [hc] using startsPlain_nil (c :: t)
    | true => simpa [hc] using (startsPlain_nil t).cons (h c hc)

theorem StartsPlain.append {v : Text} (h : StartsPlain u t)
    (h' : StartsPlain v (t.drop u.length)) : StartsPlain (u ++ v) t := by
  refine ⟨?_, fun c hc => (List.mem_append.1 hc).elim (h.2 c) (h'.2 c)⟩
  obtain ⟨rest, rfl⟩ := h.1
  rw [List.drop_left] at h'
  exact (List.prefix_append_right_inj u).2 h'.1

theorem startsPlain_exponentOf (t : Text) : StartsPlain (exponentOf t) t := by
  cases t with
  | nil => exact startsPlain_nil []
  | cons e t =>
    have hsign : StartsPlain ((t.take 1).filter fun c : CodePoint => c = '+' || c = '-') t :=
      startsPlain_sign (fun c hc => by
        simp only [Bool.or_eq_true, decide_eq_true_eq] at hc
        rcases hc with rfl | rfl <;> rfl) t
    simp only [exponentOf]
    split
    · next hletter =>
      split
      · exact startsPlain_nil _
      · refine .cons ?_ (hsign.append (startsPlain_digitsOf _))
        rcases hletter with rfl | rfl <;> rfl
    · exact startsPlain_nil _

/-- A number that is read opens and closes nothing. -/
theorem over_of_number? {length : Nat} (h : number? t = some (.ok (j, length))) :
    Over t (t.drop length) := by
  have hsign : StartsPlain ((t.take 1).filter fun c : CodePoint => c = '-') t :=
    startsPlain_sign (fun c hc => by
      rw [of_decide_eq_true hc]
      rfl) t
  -- The parts are named one after the other; each starts what the ones before it leave.
  simp only [number?] at h
  generalize (t.take 1).filter (fun c : CodePoint => c = '-') = sign at h hsign
  generalize hunsigned : t.drop sign.length = unsigned at h
  have hwhole := startsPlain_wholeOf unsigned
  generalize wholeOf unsigned = whole at h hwhole
  have hfraction := hwhole.append (startsPlain_fractionOf _)
  generalize fractionOf (unsigned.drop whole.length) = fraction at h hfraction
  rw [← List.length_append] at h
  have hexponent := hfraction.append (startsPlain_exponentOf _)
  generalize exponentOf (unsigned.drop (whole ++ fraction).length) = exponent at h hexponent
  have hover := (hsign.append (hunsigned ▸ hexponent)).over
  suffices hlength : length = (sign ++ (whole ++ fraction ++ exponent)).length from hlength ▸ hover
  simp only [List.length_append, ← Nat.add_assoc]
  split at h
  · cases h
  · split at h
    · split at h
      · cases h
      · exact (Prod.ext_iff.1 (Except.ok.inj (Option.some.inj h))).2.symm
    · obtain ⟨x, -, hx⟩ := Option.map_eq_some_iff.1 h
      exact (Prod.ext_iff.1 (Except.ok.inj hx)).2.symm

theorem namedValues_plain : ∀ p ∈ namedValues, ∀ c ∈ p.1, isStructural c = false := by decide

theorem over_of_plainFrom (h : plainFrom cur = .ok (j, cur')) : Over cur.rest cur'.rest := by
  unfold plainFrom at h
  split at h
  · cases h
  · next c t hrest =>
    split at h
    · next hquote =>
      obtain ⟨⟨name, after⟩, hname, heq⟩ := Step.map_eq_ok.1 h
      cases heq
      obtain ⟨u, -, hu⟩ := spells_of_stringFrom hname
      rw [hrest, hquote]
      exact .string hu (.here _)
    · split at h
      · next name value hfound =>
        cases h
        have hstart := List.find?_some hfound
        exact StartsPlain.over ⟨List.isPrefixOf_iff_prefix.1 hstart,
          namedValues_plain _ (List.mem_of_find?_eq_some hfound)⟩
      · split at h
        · next hnumber =>
          cases h
          exact over_of_number? hnumber
        · cases h
        · cases h

theorem plainFrom_ne_object : plainFrom cur ≠ .ok (object members, cur') := by
  intro h
  have hfits : Fits (fun _ => True) 0 (object members) := fits_of_plainFrom h
  cases hfits

/-- A step of the reader opens nothing that it does not close. -/
def GoesOver (value : Cursor → Read Json) : Prop :=
  ∀ cur j cur', value cur = .ok (j, cur') → Over cur.rest cur'.rest

theorem over_of_itemsFrom (hvalue : GoesOver value) {sofar : List Json}
    (h : itemsFrom value fuel sofar cur = .ok (j, cur')) :
    Over cur.rest (CodePoint.ofChar ']' :: cur'.rest) := by
  induction fuel generalizing sofar cur with
  | zero => cases h
  | succ fuel ih =>
    rw [itemsFrom] at h
    split at h
    · cases h
    · next item after hitem =>
      refine (hvalue _ _ _ hitem).trans ?_
      dsimp only at h
      split at h
      · next hclose =>
        cases h
        obtain ⟨gap, hgap, hrest⟩ := exists_of_sees hclose
        exact hrest ▸ hgap.over _
      · split at h
        · next hcomma =>
          obtain ⟨gap, hgap, hrest⟩ := exists_of_sees hcomma
          obtain ⟨gap', hgap', hrest'⟩ := exists_skipSpace (after.skipSpace.skip 1)
          rw [hrest, hrest']
          exact (hgap.over _).trans (.plain (by decide) ((hgap'.over _).trans (ih h)))
        · cases h

/-- A member is read: behind its name stand a colon and its value, with blanks around the colon. -/
inductive ReadsMember (value : Cursor → Read Json) (t name : Text) (item : Json) (after : Cursor) :
    Prop where
  | intro {body gap gap' : Text} {start : Cursor} (ht : t = CodePoint.ofChar '"' :: body)
      (hgap : AreSpaces gap) (hgap' : AreSpaces gap')
      (hname : Spells body name (gap ++ CodePoint.ofChar ':' :: (gap' ++ start.rest)))
      (hvalue : value start = .ok (item, after))

/-- What reading members begins with: one of them, which is the last or has a comma behind it. -/
inductive MembersStep (value : Cursor → Read Json) (fuel : Nat) (sofar : List (Text × Json))
    (cur : Cursor) (j : Json) (cur' : Cursor) : Prop where
  | last {name gap : Text} {item : Json} {after : Cursor}
      (hmember : ReadsMember value cur.rest name item after) (hgap : AreSpaces gap)
      (hrest : after.rest = gap ++ CodePoint.ofChar '\x7d' :: cur'.rest)
      (hj : j = object (putMember name item sofar))
  | more {name gap gap' : Text} {item : Json} {after next : Cursor}
      (hmember : ReadsMember value cur.rest name item after) (hgap : AreSpaces gap)
      (hgap' : AreSpaces gap')
      (hrest : after.rest = gap ++ CodePoint.ofChar ',' :: (gap' ++ next.rest))
      (hmore : membersFrom value fuel (putMember name item sofar) next = .ok (j, cur'))

theorem membersStep (h : membersFrom value (fuel + 1) members cur = .ok (j, cur')) :
    MembersStep value fuel members cur j cur' := by
  rw [membersFrom] at h
  split at h
  · cases h
  next hquote =>
  have ht : cur.rest = CodePoint.ofChar '"' :: cur.rest.drop 1 :=
    rest_of_sees (by simpa using hquote)
  split at h
  · cases h
  next name named hname =>
  obtain ⟨_, rfl, hspells⟩ := spells_of_stringFrom hname
  dsimp only at h
  split at h
  · cases h
  next hcolon =>
  obtain ⟨before, hbefore, hnamed⟩ := exists_of_sees (by simpa using hcolon)
  obtain ⟨behind, hbehind, hstart⟩ := exists_skipSpace (named.skipSpace.skip 1)
  split at h
  · cases h
  next item after hitem =>
  have hmember : ReadsMember value cur.rest name item after :=
    .intro ht hbefore hbehind (hstart ▸ hnamed ▸ hspells) hitem
  split at h
  · next hclose =>
    obtain ⟨rfl, rfl⟩ := Prod.ext_iff.1 (Except.ok.inj h)
    obtain ⟨gap, hgap, hrest⟩ := exists_of_sees hclose
    exact .last hmember hgap hrest rfl
  · split at h
    · next hcomma =>
      obtain ⟨gap, hgap, hrest⟩ := exists_of_sees hcomma
      obtain ⟨gap', hgap', hrest'⟩ := exists_skipSpace (after.skipSpace.skip 1)
      exact .more hmember hgap hgap' (hrest' ▸ hrest) h
    · cases h

theorem ReadsMember.over (hvalue : GoesOver value) (h : ReadsMember value t name j cur) :
    Over t cur.rest := by
  obtain ⟨rfl, hgap, hgap', hname, hitem⟩ := h
  exact .string hname ((hgap.over _).trans
    (.plain (by decide) ((hgap'.over _).trans (hvalue _ _ _ hitem))))

theorem over_of_membersFrom (hvalue : GoesOver value)
    (h : membersFrom value fuel members cur = .ok (j, cur')) :
    Over cur.rest (CodePoint.ofChar '\x7d' :: cur'.rest) := by
  induction fuel generalizing members cur with
  | zero => cases h
  | succ fuel ih =>
    cases membersStep h with
    | last hmember hgap hrest hj =>
      exact (hmember.over hvalue).trans (hrest ▸ hgap.over _)
    | more hmember hgap hgap' hrest hmore =>
      refine (hmember.over hvalue).trans ?_
      rw [hrest]
      exact (hgap.over _).trans (.plain (by decide) ((hgap'.over _).trans (ih hmore)))

theorem sees_of_holderAt? {holder : Holder} (h : holderAt? cur = some holder) :
    cur.sees (match holder with
      | .array => '['
      | .object => '\x7b') = true := by
  rw [holderAt?] at h
  split at h
  · next hopen =>
    cases h
    exact hopen
  · split at h
    · next hopen =>
      cases h
      exact hopen
    · cases h

/-- Whatever the reader reads, it opens nothing that it does not close. -/
theorem over_of_valueFrom (h : valueFrom most levels cur = .ok (j, cur')) :
    Over cur.rest cur'.rest := by
  induction levels generalizing cur j cur' with
  | zero =>
    rw [valueFrom] at h
    split at h
    · cases h
    · exact over_of_plainFrom h
  | succ levels ih =>
    obtain ⟨gap, hgap, hinside⟩ := exists_skipSpace (cur.skip 1)
    rw [valueFrom] at h
    split at h
    · next hholder =>
      rw [rest_of_sees (sees_of_holderAt? hholder), hinside]
      refine .array ((hgap.over _).trans ?_) (.here _)
      split at h
      · next hclose =>
        cases h
        exact rest_of_sees hclose ▸ .here _
      · exact over_of_itemsFrom (fun _ _ _ => ih) h
    · next hholder =>
      rw [rest_of_sees (sees_of_holderAt? hholder), hinside]
      refine .object ((hgap.over _).trans ?_) (.here _)
      split at h
      · next hclose =>
        cases h
        exact rest_of_sees hclose ▸ .here _
      · exact over_of_membersFrom (fun _ _ _ => ih) h
    · exact over_of_plainFrom h

/-! ## Places for names -/

/-- A place of a text where the name of a member may stand.  The object is that of the whole text,
or it stands under some names, the innermost first. -/
inductive NameAt (t : Text) : List Text → Text → Prop where
  | root {gap gap' rest : Text} (hgap : AreSpaces gap) (hgap' : AreSpaces gap')
      (ht : t = gap ++ CodePoint.ofChar '\x7b' :: (gap' ++ rest)) : NameAt t [] rest
  | next {names : List Text} {place gap rest : Text} (h : NameAt t names place)
      (hover : Over place (CodePoint.ofChar ',' :: (gap ++ rest))) (hgap : AreSpaces gap) :
      NameAt t names rest
  | inside {names : List Text} {name body gap gap' gap'' rest : Text}
      (h : NameAt t names (CodePoint.ofChar '"' :: body))
      (hname : Spells body name (gap ++ CodePoint.ofChar ':' ::
        (gap' ++ CodePoint.ofChar '\x7b' :: (gap'' ++ rest))))
      (hgap : AreSpaces gap) (hgap' : AreSpaces gap') (hgap'' : AreSpaces gap'') :
      NameAt t (name :: names) rest

/-- What may stand before a name. -/
def precedesName (c : CodePoint) : Bool := isSpace c || c = '\x7b' || c = ','

theorem exists_precedes {gap : Text} (hc : precedesName c = true) (hgap : AreSpaces gap)
    (h : c :: (gap ++ rest) <:+ t) :
    ∃ before d, t = before ++ d :: rest ∧ precedesName d = true := by
  obtain ⟨before, rfl⟩ := h
  rcases List.eq_nil_or_concat gap with rfl | ⟨gap, d, rfl⟩
  · exact ⟨before, c, rfl, hc⟩
  · refine ⟨before ++ c :: gap, d, by simp, ?_⟩
    rw [precedesName, hgap d (by simp)]
    rfl

/-- A place for names comes after a brace that opens, a comma or a blank. -/
theorem NameAt.exists_before (h : NameAt t names rest) :
    ∃ before c, t = before ++ c :: rest ∧ precedesName c = true := by
  induction h with
  | root hgap hgap' ht =>
    exact exists_precedes (c := '\x7b') (by decide) hgap' (ht ▸ List.suffix_append _ _)
  | next _ hover hgap ih =>
    obtain ⟨before, c, ht, -⟩ := ih
    refine exists_precedes (c := ',') (by decide) hgap (hover.suffix.trans ?_)
    exact ⟨before ++ [c], by simp [ht]⟩
  | @inside _ _ _ before' behind _ _ _ hname hgap hgap' hgap'' ih =>
    obtain ⟨before, c, ht, -⟩ := ih
    refine exists_precedes (c := '\x7b') (by decide) hgap'' ?_
    refine List.IsSuffix.trans ?_ (hname.suffix.trans ⟨before ++ [c, '"'], by simp [ht]⟩)
    exact ⟨before' ++ CodePoint.ofChar ':' :: behind, by simp⟩

/-- A member is read at a place for names. -/
def HasPlace (value : Cursor → Read Json) (t : Text) (names : List Text) (m : Text × Json) : Prop :=
  ∃ place after, NameAt t names place ∧ ReadsMember value place m.1 m.2 after

variable {m : Text × Json}

/-- Each member that is read from a place for names on has such a place itself. -/
theorem hasPlace_of_membersFrom {sofar : List (Text × Json)} (hvalue : GoesOver value)
    (hat : NameAt t names cur.rest)
    (h : membersFrom value fuel sofar cur = .ok (object members, cur')) (hm : m ∈ members) :
    m ∈ sofar ∨ HasPlace value t names m := by
  induction fuel generalizing sofar cur with
  | zero => cases h
  | succ fuel ih =>
    -- What is put in is the member at this place or was there before.
    have hput {name : Text} {item : Json} {after : Cursor}
        (hmember : ReadsMember value cur.rest name item after)
        (hm : m ∈ putMember name item sofar) : m ∈ sofar ∨ HasPlace value t names m := by
      rcases mem_putMember hm with rfl | hm
      · exact .inr ⟨_, _, hat, hmember⟩
      · exact .inl hm
    cases membersStep h with
    | last hmember hgap hrest hj =>
      cases hj
      exact hput hmember hm
    | more hmember hgap hgap' hrest hmore =>
      have hover := (hmember.over hvalue).trans (hrest ▸ hgap.over _)
      rcases ih (.next hat hover hgap') hmore with hm | hplace
      · exact hput hmember hm
      · exact .inr hplace

/-- Each member of an object that is read has a place for names. -/
theorem hasPlace_of_valueFrom (h : valueFrom most (levels + 1) cur = .ok (object members, cur'))
    (hat : ∀ gap rest, AreSpaces gap → cur.rest = CodePoint.ofChar '\x7b' :: (gap ++ rest) →
      NameAt t names rest) (hm : m ∈ members) : HasPlace (valueFrom most levels) t names m := by
  obtain ⟨gap, hgap, hinside⟩ := exists_skipSpace (cur.skip 1)
  rw [valueFrom] at h
  split at h
  · split at h
    · cases h
    · obtain ⟨items, hitems, -⟩ := itemsFrom_forall (P := fun _ => True) (fun _ _ _ _ => trivial)
        (fun _ _ => trivial) h
      cases hitems
  · next hholder =>
    have hplace := hat gap _ hgap (hinside ▸ rest_of_sees (sees_of_holderAt? hholder))
    split at h
    · cases h
      cases hm
    · have hover : GoesOver (valueFrom most levels) := fun _ _ _ => over_of_valueFrom
      exact (hasPlace_of_membersFrom hover hplace h hm).resolve_left List.not_mem_nil
  · exact absurd h plainFrom_ne_object

/-- The name of each member of an object under a name of a text is spelled at a place for it. -/
theorem exists_nameAt {area : Text} {deps : List (Text × Json)} {item : Json}
    (h : read t = .ok (object members))
    (harea : (area, object deps) ∈ members) (hname : (name, item) ∈ deps) :
    ∃ body rest, NameAt t [area] (CodePoint.ofChar '"' :: body) ∧ Spells body name rest := by
  rw [read, Step.mapError_eq_ok, readStop] at h
  split at h
  · cases h
  split at h
  · cases h
  next found after hfound =>
  dsimp only at h
  split at h
  · obtain rfl := Except.ok.inj h
    obtain ⟨gap, hgap, hrest⟩ := exists_skipSpace ⟨t, 0⟩
    have hdepth : maxDepth = 988 + 1 + 1 := rfl
    rw [hdepth] at hfound
    obtain ⟨_, _, hplace, rfl, hbefore, hbehind, hspells, hdeps⟩ :=
      hasPlace_of_valueFrom hfound
        (fun gap' rest hgap' ht => .root hgap hgap' (hrest.trans (congrArg _ ht))) harea
    obtain ⟨_, _, hat, rfl, -, -, hbody, -⟩ :=
      hasPlace_of_valueFrom hdeps (fun gap' rest hgap' ht =>
        .inside hplace (ht ▸ hspells) hbefore hbehind hgap') hname
    exact ⟨_, _, hat, hbody⟩
  · cases h

end Json

end Decouple
