import Decouple.Proofs.Json.Values
import Decouple.Proofs.Traversal

/-!
# What reading gives

A value that has been read fits (`fits_of_read`), whatever the text was: an object holds each name
once because a later member takes the place of an earlier one.  So what has been read can be written
and read again (`read_write`).
-/

namespace Decouple

namespace Json

variable {style : JsonStyle} {S : Text → Prop} {levels most fuel : Nat} {j : Json}
  {value : Cursor → Read Json} {cur cur' : Cursor} {P : Json → Prop}

/-! ## Numbers -/

theorem areDigits_digitsOf (t : Text) : Text.AreDigits (digitsOf t) :=
  fun _ hc => List.mem_takeWhile_imp hc

theorem areDigits_wholeOf (t : Text) : Text.AreDigits (wholeOf t) := by
  rw [wholeOf]
  split
  · next hzero =>
    intro c hc
    cases t with
    | nil => cases hc
    | cons d t =>
      rw [List.mem_singleton.1 hc, Option.some.inj hzero]
      rfl
  · exact areDigits_digitsOf t

/-- A number that is read is a small integer or a rounded number. -/
theorem fits_of_number? {t : Text} {length : Nat} (h : number? t = some (.ok (j, length))) :
    Fits S levels j := by
  simp only [number?] at h
  split at h
  · cases h
  · split at h
    · split at h
      · cases h
      · next hshort =>
        obtain ⟨rfl, -⟩ := Prod.ext_iff.1 (Except.ok.inj (Option.some.inj h))
        refine Fits.int ?_
        have hsmall := Text.decimalValue_lt (areDigits_wholeOf (t.drop
          ((t.take 1).filter fun c : CodePoint => c = '-').length))
        have hpow := Nat.pow_le_pow_right (n := 10) (by decide) (Nat.not_lt.1 hshort)
        split <;> simp only [Int.natAbs_neg, Int.natAbs_natCast] <;> exact hsmall.trans_le hpow
    · obtain ⟨x, hx, hj⟩ := Option.map_eq_some_iff.1 h
      obtain ⟨rfl, -⟩ := Prod.ext_iff.1 (Except.ok.inj hj)
      exact Fits.real (decimal_isRounded hx)

/-! ## Values that hold no others -/

theorem fits_of_namedValues : ∀ p ∈ namedValues, Fits S levels p.2 := by
  intro p hp
  simp only [namedValues, List.mem_cons, List.not_mem_nil, or_false] at hp
  rcases hp with rfl | rfl | rfl | rfl | rfl | rfl
  · exact Fits.null
  · exact Fits.bool true
  · exact Fits.bool false
  · exact Fits.real trivial
  · exact Fits.real trivial
  · exact Fits.real trivial

theorem fits_of_plainFrom (h : plainFrom cur = .ok (j, cur')) :
    Fits (fun _ => True) levels j := by
  unfold plainFrom at h
  split at h
  · cases h
  · split at h
    · cases hs : stringFrom cur.offset 0 _ (cur.offset + 1) [] with
      | error e => rw [hs] at h; cases h
      | ok p =>
        rw [hs] at h
        obtain ⟨rfl, -⟩ := Prod.ext_iff.1 (Except.ok.inj h)
        exact Fits.string trivial
    · split at h
      · next name found hfound =>
        obtain ⟨rfl, -⟩ := Prod.ext_iff.1 (Except.ok.inj h)
        exact fits_of_namedValues _ (List.mem_of_find?_eq_some hfound)
      · split at h
        · next found length hnumber =>
          obtain ⟨rfl, -⟩ := Prod.ext_iff.1 (Except.ok.inj h)
          exact fits_of_number? hnumber
        · cases h
        · cases h

/-! ## Arrays and objects -/

/-- What holds of each value that is read holds of the items of an array. -/
theorem itemsFrom_forall (hvalue : ∀ cur j cur', value cur = .ok (j, cur') → P j)
    {sofar : List Json} (hsofar : ∀ j ∈ sofar, P j)
    (h : itemsFrom value fuel sofar cur = .ok (j, cur')) :
    ∃ items, j = array items ∧ ∀ i ∈ items, P i := by
  induction fuel generalizing sofar cur with
  | zero => cases h
  | succ fuel ih =>
    rw [itemsFrom] at h
    split at h
    · cases h
    · next item after hitem =>
      have hmore : ∀ i ∈ item :: sofar, P i :=
        List.forall_mem_cons.2 ⟨hvalue _ _ _ hitem, hsofar⟩
      dsimp only at h
      split at h
      · refine ⟨(item :: sofar).reverse, (Prod.ext_iff.1 (Except.ok.inj h)).1.symm, ?_⟩
        exact fun i hi => hmore i (List.mem_reverse.1 hi)
      · split at h
        · exact ih hmore h
        · cases h

/-- Members of which each name occurs once and `P` holds of each value. -/
structure AreMembers (P : Json → Prop) (members : List (Text × Json)) : Prop where
  names : (members.map Prod.fst).Nodup
  values : ∀ m ∈ members, P m.2

theorem mem_putMember {name : Text} {members : List (Text × Json)} {m : Text × Json}
    (h : m ∈ putMember name j members) : m = (name, j) ∨ m ∈ members := by
  induction members with
  | nil => exact .inl (List.mem_singleton.1 h)
  | cons k members ih =>
    rw [putMember] at h
    split at h
    · next hname =>
      rcases List.mem_cons.1 h with rfl | h
      · exact .inl (by rw [hname])
      · exact .inr (List.mem_cons_of_mem _ h)
    · rcases List.mem_cons.1 h with rfl | h
      · exact .inr (List.mem_cons_self ..)
      · exact (ih h).imp id (List.mem_cons_of_mem _)

theorem putMember_names {name : Text} {members : List (Text × Json)}
    (h : (members.map Prod.fst).Nodup) : ((putMember name j members).map Prod.fst).Nodup := by
  induction members with
  | nil => exact List.nodup_singleton name
  | cons m members ih =>
    rw [List.map_cons, List.nodup_cons] at h
    rw [putMember]
    split
    · exact List.nodup_cons.2 h
    · next hne =>
      refine List.nodup_cons.2 ⟨fun hmem => ?_, ih h.2⟩
      obtain ⟨k, hk, hname⟩ := List.mem_map.1 hmem
      rcases mem_putMember hk with rfl | hk
      · exact hne hname.symm
      · exact h.1 (List.mem_map.2 ⟨k, hk, hname⟩)

theorem AreMembers.putMember {members : List (Text × Json)} (h : AreMembers P members)
    (name : Text) (hj : P j) : AreMembers P (putMember name j members) := by
  refine ⟨putMember_names h.names, fun m hm => ?_⟩
  rcases mem_putMember hm with rfl | hm
  · exact hj
  · exact h.values m hm

/-- What holds of each value that is read holds of the members of an object, and their names
differ. -/
theorem membersFrom_forall (hvalue : ∀ cur j cur', value cur = .ok (j, cur') → P j)
    {sofar : List (Text × Json)} (hsofar : AreMembers P sofar)
    (h : membersFrom value fuel sofar cur = .ok (j, cur')) :
    ∃ members, j = object members ∧ AreMembers P members := by
  induction fuel generalizing sofar cur with
  | zero => cases h
  | succ fuel ih =>
    rw [membersFrom] at h
    split at h
    · cases h
    · split at h
      · cases h
      · next name named hname =>
        dsimp only at h
        split at h
        · cases h
        · split at h
          · cases h
          · next item after hitem =>
            have hmore := hsofar.putMember name (hvalue _ _ _ hitem)
            split at h
            · exact ⟨_, (Prod.ext_iff.1 (Except.ok.inj h)).1.symm, hmore⟩
            · split at h
              · exact ih hmore h
              · cases h

/-! ## Values -/

/-- A value that has been read fits. -/
theorem fits_of_valueFrom (h : valueFrom most levels cur = .ok (j, cur')) :
    Fits (fun _ => True) levels j := by
  induction levels generalizing cur j cur' with
  | zero =>
    rw [valueFrom] at h
    split at h
    · cases h
    · exact fits_of_plainFrom h
  | succ levels ih =>
    rw [valueFrom] at h
    split at h
    · split at h
      · obtain ⟨rfl, -⟩ := Prod.ext_iff.1 (Except.ok.inj h)
        exact Fits.array fun i hi => by cases hi
      · obtain ⟨items, rfl, hitems⟩ := itemsFrom_forall (P := Fits (fun _ => True) levels)
          (fun _ _ _ => ih) (fun i hi => by cases hi) h
        exact Fits.array hitems
    · split at h
      · obtain ⟨rfl, -⟩ := Prod.ext_iff.1 (Except.ok.inj h)
        exact Fits.object List.nodup_nil (fun m hm => by cases hm) fun m hm => by cases hm
      · have hnone : AreMembers (Fits (fun _ => True) levels) [] :=
          ⟨List.nodup_nil, fun m hm => by cases hm⟩
        obtain ⟨members, rfl, hmembers⟩ := membersFrom_forall (fun _ _ _ => ih) hnone h
        exact Fits.object hmembers.names (fun _ _ => trivial) hmembers.values
    · exact fits_of_plainFrom h

theorem fits_of_read {t : Text} (h : read t = .ok j) : Fits (fun _ => True) maxDepth j := by
  rw [read, Step.mapError_eq_ok, readStop] at h
  split at h
  · cases h
  · split at h
    · cases h
    · next found after hfound =>
      dsimp only at h
      split at h
      · rw [← Except.ok.inj h]
        exact fits_of_valueFrom hfound
      · cases h

/-- A text that is taken off as a value is read as it, blanks after it left aside. -/
theorem read_of_takes {t blank : Text} (hstart : StartsToken t) (hblank : AreSpaces blank)
    (h : Takes (valueFrom (t ++ blank).length maxDepth) t j) : read (t ++ blank) = .ok j := by
  have hstops : Stops blank := by
    cases blank with
    | nil => exact stops_nil
    | cons c blank =>
      exact stops_cons (continuesNumber_of_isSpace (hblank c (List.mem_cons_self ..))) blank
  obtain ⟨offset', hvalue⟩ := h blank hstops 0
  have hnone : AreSpaces [] := by decide
  have hskip : Cursor.skipSpace ⟨t ++ blank, 0⟩ = ⟨t ++ blank, 0⟩ :=
    skipSpace_token hnone (hstart.append blank) 0
  have hmark : (t ++ blank).head?.any (fun c => c.val = 0xFEFF) = false := by
    obtain ⟨c, rest, rfl, hc⟩ := hstart
    simp only [opens, Bool.and_eq_true, CodePoint.isAscii, decide_eq_true_eq] at hc
    simp
    omega
  rw [read, Step.mapError_eq_ok, readStop, hmark, if_neg Bool.false_ne_true, hskip, hvalue]
  dsimp only
  rw [skipSpace_all hblank]
  rfl

/-- A written value that fits is read as it is read again, blanks after it left aside. -/
theorem read_write (hsort : style.sortMembers = false) (hS : ReadsTexts style S)
    (h : Fits S maxDepth j) {blank : Text} (hblank : AreSpaces blank) :
    read (write style j ++ blank) = .ok j.reread := by
  have hmost : (writeAt style 0 j).length ≤ (write style j ++ blank).length := by
    rw [List.length_append]
    exact Nat.le_add_right _ _
  exact read_of_takes (startsToken_writeAt h 0) hblank (valueFrom_writeAt hsort hS h 0 hmost)

end Json

end Decouple
