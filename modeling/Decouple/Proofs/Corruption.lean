import Decouple.Proofs.Json.Reading
import Decouple.Proofs.Ledgers
import Decouple.Proofs.Utf8

/-!
# Corrupt ledgers

The file of a ledger may hold any bytes.  Listing and deleting tell what is wrong with them as a
failure of the ledger, but for three things that they let through: bytes that are no UTF-8, and a
first bad line that nests too deep, or that has an infinite number where a record has an integer
(`corruption_contained_iff`).

Deleting writes the records that stay to a draft, which then takes the ledger's place.  `deletion`
follows the disk through these steps, so that it tells what is on the disk when a step fails.  The
step before the draft, writing the records out, never fails: an integer that was read has few enough
digits to be written (`isWritable_of_ofLine`).
-/

namespace Decouple

/-! ## The first member that does not pass -/

section LeadsTo

variable {α : Type} {Passes Ends : α → Prop} {a : α} {as : List α}

/-- Members that pass lead to one that ends. -/
def LeadsTo (Passes Ends : α → Prop) (as : List α) : Prop :=
  ∃ before a behind, as = before ++ a :: behind ∧ (∀ b ∈ before, Passes b) ∧ Ends a

theorem not_leadsTo_nil : LeadsTo Passes Ends [] ↔ False := by
  simp [LeadsTo]

theorem leadsTo_cons :
    LeadsTo Passes Ends (a :: as) ↔ Ends a ∨ Passes a ∧ LeadsTo Passes Ends as := by
  constructor
  · rintro ⟨before, b, behind, heq, hpass, hends⟩
    cases before with
    | nil =>
      obtain ⟨rfl, -⟩ := List.cons.inj heq
      exact .inl hends
    | cons c before =>
      obtain ⟨rfl, rfl⟩ := List.cons.inj heq
      rw [List.forall_mem_cons] at hpass
      exact .inr ⟨hpass.1, before, b, behind, rfl, hpass.2, hends⟩
  · rintro (hends | ⟨hpass, before, b, behind, rfl, hall, hends⟩)
    · exact ⟨[], a, as, rfl, List.forall_mem_nil _, hends⟩
    · exact ⟨a :: before, b, behind, rfl, List.forall_mem_cons.2 ⟨hpass, hall⟩, hends⟩

end LeadsTo

/-! ## Integers that were read -/

namespace Reading

theorem isWritable_of_natAbs_lt {n : Int} (h : n.natAbs < 10 ^ maxDigits) : isWritable n = true :=
  decide_eq_true (Text.length_ofNat_le (by decide) h)

/-- Without underscores a text has its other code points. -/
theorem mem_of_withoutUnderscores {before : Option CodePoint} {t u : Text} {c : CodePoint}
    (h : withoutUnderscores before t = some u) (hc : c ∈ u) : c ∈ t ∧ c ≠ '_' := by
  induction t generalizing before u with
  | nil =>
    rw [withoutUnderscores] at h
    split at h
    · cases h
    · rw [← Option.some.inj h] at hc
      cases hc
  | cons d t ih =>
    rw [withoutUnderscores] at h
    split at h
    · split at h
      · exact (ih h hc).imp_left (List.mem_cons_of_mem _)
      · cases h
    · next hd =>
      split at h
      · cases h
      · obtain ⟨v, hv, rfl⟩ := Option.map_eq_some_iff.1 h
        rcases List.mem_cons.1 hc with rfl | hc
        · exact ⟨List.mem_cons_self .., hd⟩
        · exact (ih hv hc).imp_left (List.mem_cons_of_mem _)

theorem natAbs_integer_lt {t : Text} {n : Int} (h : integer t = .ok n) :
    n.natAbs < 10 ^ maxDigits := by
  simp only [integer] at h
  split at h
  · cases h
  · next digits hdigits =>
    split at h
    · cases h
    · next hshort =>
      split at h
      · cases h
      · have hall : Text.AreDigits digits := by
          intro c hc
          obtain ⟨hmem, hne⟩ := mem_of_withoutUnderscores hdigits hc
          simpa [hne] using List.mem_takeWhile_imp hmem
        have hsmall := (Text.decimalValue_lt hall).trans_le
          (Nat.pow_le_pow_right (n := 10) (by decide) (Nat.not_lt.1 hshort))
        rw [← Except.ok.inj h]
        split
        · rwa [Int.natAbs_neg, Int.natAbs_natCast]
        · rwa [Int.natAbs_natCast]

end Reading

namespace Binary64

/-- The integer part of a number has far fewer digits than are read. -/
theorem natAbs_truncate?_lt {x : Binary64} {n : Int} (hx : x.IsRounded)
    (h : x.truncate? = some n) : n.natAbs < 10 ^ Reading.maxDigits := by
  cases x with
  | infinite => cases h
  | nan => cases h
  | finite s m e =>
    obtain ⟨hm, -, he⟩ := hx
    have hfew : 53 + e.toNat ≤ Reading.maxDigits := by
      rw [greatestExponent] at he
      rw [Reading.maxDigits]
      omega
    have hsmall : (ratio m e).1 / (ratio m e).2 < 10 ^ Reading.maxDigits := by
      have hbound : m * 2 ^ e.toNat < 10 ^ Reading.maxDigits :=
        calc m * 2 ^ e.toNat < 2 ^ 53 * 2 ^ e.toNat :=
              Nat.mul_lt_mul_of_pos_right hm (Nat.two_pow_pos _)
          _ = 2 ^ (53 + e.toNat) := (Nat.pow_add 2 53 _).symm
          _ ≤ 2 ^ Reading.maxDigits := Nat.pow_le_pow_right (by decide) hfew
          _ ≤ 10 ^ Reading.maxDigits := Nat.pow_le_pow_left (by decide) _
      rw [ratio]
      split
      · exact (Nat.div_le_self m _).trans_lt
          ((Nat.le_mul_of_pos_right m (Nat.two_pow_pos _)).trans_lt hbound)
      · rw [Nat.div_one]
        exact hbound
    simp only [truncate?, Option.some.injEq] at h
    rw [← h]
    split
    · rwa [Int.natAbs_neg, Int.natAbs_natCast]
    · rwa [Int.natAbs_natCast]

end Binary64

namespace Record

open Json (Fits)

variable {S : Text → Prop} {levels : Nat} {line name : Text} {j value : Json} {r : Record} {n : Int}
  {members : List (Text × Json)}

theorem integerOf_eq_ok : integerOf j name = .ok n ↔
    ∃ value, j.named name = .ok value ∧ integer value = .ok n := by
  rw [integerOf, Step.bind_eq_ok]
  simp only [Step.mapError_eq_ok]

theorem isWritable_of_integer (hvalue : Fits S levels value) (h : integer value = .ok n) :
    Reading.isWritable n = true := by
  refine Reading.isWritable_of_natAbs_lt ?_
  cases hvalue with
  | null => cases h
  | bool b =>
    have hone : 1 < 10 ^ Reading.maxDigits := Nat.one_lt_pow (by decide) (by decide)
    rw [← Except.ok.inj h]
    cases b
    · exact Nat.zero_lt_one.trans hone
    · exact hone
  | int small => exact Except.ok.inj h ▸ small
  | @real _ x rounded =>
    cases x with
    | nan => cases h
    | infinite => cases h
    | finite s m e => exact Except.ok.inj h ▸ Binary64.natAbs_truncate?_lt rounded rfl
  | string => exact Reading.natAbs_integer_lt (Step.mapError_eq_ok.1 h)
  | array => cases h
  | object => cases h

theorem fits_of_named (hj : Fits S levels j) (h : j.named name = .ok value) :
    ∃ levels, Fits S levels value := by
  cases hj with
  | null | bool | int | real | string | array => cases h
  | @object levels members _ _ fits =>
    rw [Json.named] at h
    split at h
    · next found hfound =>
      obtain ⟨before, behind, rfl, -⟩ := List.lookup_eq_some_iff.1 hfound
      exact ⟨levels, Except.ok.inj h ▸ fits _ (List.mem_append_right _ (List.mem_cons_self ..))⟩
    · cases h

/-- The integers of a record that was read have few enough digits to be written. -/
theorem isWritable_of_ofLine (h : ofLine line = .ok r) : r.isWritable = true := by
  obtain ⟨j, hj, hr⟩ := Step.bind_eq_ok.1 h
  have hfits := Json.fits_of_read (Step.mapError_eq_ok.1 hj)
  have hwritable {name : Text} {n : Int} (hn : integerOf j name = .ok n) :
      Reading.isWritable n = true := by
    obtain ⟨value, hvalue, hn⟩ := integerOf_eq_ok.1 hn
    obtain ⟨levels, hvalue⟩ := fits_of_named hfits hvalue
    exact isWritable_of_integer hvalue hn
  simp only [ofJson, Step.bind_eq_ok] at hr
  obtain ⟨_, -, _, -, _, -, before, hbefore, after, hafter, total, htotal, _, -, _, -, hr⟩ := hr
  rw [← Except.ok.inj hr]
  simp [isWritable, hwritable hbefore, hwritable hafter, hwritable htotal]

/-! ## Lines that are let through -/

/-- The texts that are read before the integers of a record. -/
def leadingTexts : List Text := ["run_id", "owner_id", "project_name"]

/-- The integers of a record. -/
def integers : List Text := ["score_before", "score_after", "files_total"]

/-- Members of an object with an integer under a name, or with what is read as one. -/
def HasInteger (members : List (Text × Json)) (name : Text) : Prop :=
  ∃ value n, members.lookup name = some value ∧ integer value = .ok n

/-- Members of an object with an infinite number under a name. -/
def HasInfinite (members : List (Text × Json)) (name : Text) : Prop :=
  ∃ negative, members.lookup name = some (.real (.infinite negative))

/-- A line with an infinite number for an integer of a record, and nothing wrong before it. -/
def Overflows (line : Text) : Prop :=
  ∃ members, Json.read line = .ok (.object members) ∧
    (∀ name ∈ leadingTexts, ∃ value, members.lookup name = some value) ∧
    LeadsTo (HasInteger members) (HasInfinite members) integers

/-- A line with values that nest too deep for the reader. -/
def NestsTooDeep (line : Text) : Prop := ∃ holder, Json.read line = .error (.tooDeep holder)

theorem integer_eq_infinite :
    integer value = .error .infinite ↔ ∃ negative, value = .real (.infinite negative) := by
  cases value with
  | real x => cases x <;> simp [integer, Binary64.truncate?]
  | string t => simp [integer, Step.mapError_eq_error]
  | null | bool | int | array | object => simp [integer]

theorem named_object_eq_ok :
    (Json.object members).named name = .ok value ↔ members.lookup name = some value := by
  rw [Json.named]
  cases members.lookup name <;> simp

theorem textOf_ne_infinite : textOf j name ≠ .error .infinite := by
  simp [textOf, Step.map_eq_error, Step.mapError_eq_error]

theorem exists_textOf_eq_ok : (∃ t, textOf (.object members) name = .ok t) ↔
    ∃ value, members.lookup name = some value := by
  simp [textOf, Step.map_eq_ok, Step.mapError_eq_ok, named_object_eq_ok]

theorem exists_integerOf_eq_ok :
    (∃ n, integerOf (.object members) name = .ok n) ↔ HasInteger members name := by
  simp only [integerOf_eq_ok, named_object_eq_ok]
  exact exists_comm.trans (by simp [HasInteger])

theorem integerOf_eq_infinite :
    integerOf (.object members) name = .error .infinite ↔ HasInfinite members name := by
  simp only [integerOf, Step.bind_eq_error, Step.mapError_eq_error, Step.mapError_eq_ok,
    named_object_eq_ok, integer_eq_infinite, HasInfinite]
  simp

theorem textOf_of_not_object (h : ∀ members, j ≠ .object members) (name t : Text) :
    textOf j name ≠ .ok t := by
  cases j with
  | object members => exact absurd rfl (h members)
  | null | bool | int | real | string | array =>
    simp [textOf, Json.named, Except.map, Except.mapError]

/-- An object overflows at the first of its integers that is none, if that one is infinite. -/
theorem ofJson_object_eq_infinite : ofJson (.object members) = .error .infinite ↔
    (∀ name ∈ leadingTexts, ∃ value, members.lookup name = some value) ∧
      LeadsTo (HasInteger members) (HasInfinite members) integers := by
  simp only [ofJson, Step.bind_eq_error, textOf_ne_infinite, false_or, reduceCtorEq, and_false,
    exists_false, or_false, exists_and_right, exists_textOf_eq_ok, exists_integerOf_eq_ok,
    integerOf_eq_infinite, leadingTexts, integers, leadsTo_cons, not_leadsTo_nil,
    List.forall_mem_cons, List.not_mem_nil, false_implies, implies_true, true_and, and_assoc]

theorem ofLine_eq_infinite : ofLine line = .error .infinite ↔ Overflows line := by
  simp only [ofLine, Step.bind_eq_error, Step.mapError_eq_error, Step.mapError_eq_ok, reduceCtorEq,
    and_false, exists_false, false_or, Overflows]
  constructor
  · rintro ⟨j, hj, h⟩
    by_cases hobject : ∃ members, j = .object members
    · obtain ⟨members, rfl⟩ := hobject
      exact ⟨members, hj, ofJson_object_eq_infinite.1 h⟩
    · have hnone := textOf_of_not_object (not_exists.1 hobject)
      simp only [ofJson, Step.bind_eq_error, textOf_ne_infinite, hnone, false_and, exists_false,
        or_self] at h
  · rintro ⟨members, hj, h⟩
    exact ⟨_, hj, ofJson_object_eq_infinite.2 h⟩

/-- A value that is no record is JSON all the same. -/
theorem ofJson_ne_json {e : JsonError} : ofJson j ≠ .error (.json e) := by
  have htext (name : Text) : textOf j name ≠ .error (.json e) := by
    simp [textOf, Step.map_eq_error, Step.mapError_eq_error]
  have hinteger (value : Json) : integer value ≠ .error (.json e) := by
    cases value with
    | real x => cases x <;> simp [integer, Binary64.truncate?]
    | string t => simp [integer, Step.mapError_eq_error]
    | null | bool | int | array | object => simp [integer]
  have hintegerOf (name : Text) : integerOf j name ≠ .error (.json e) := by
    simp [integerOf, Step.bind_eq_error, Step.mapError_eq_error, hinteger]
  simp only [ofJson, ne_eq, Step.bind_eq_error, htext, hintegerOf, false_or, reduceCtorEq, and_false,
    exists_false, not_false_eq_true]

theorem ofLine_eq_tooDeep {holder : Json.Holder} :
    ofLine line = .error (.json (.tooDeep holder)) ↔ Json.read line = .error (.tooDeep holder) := by
  simp [ofLine, Step.bind_eq_error, Step.mapError_eq_error, ofJson_ne_json]

end Record

namespace Ledger

variable {α : Type} {d e : Disk} {path run owner t line : Text} {lines : List Text} {bytes : Bytes}
  {number : Nat} {fault : RecordFault} {all : List Record}

/-! ## What is told -/

/-- An error that is a failure of the ledger. -/
def IsTold : LedgerError → Prop
  | .failure f => f.kind = .ledger
  | _ => False

/-- A result, or a failure of the ledger. -/
def IsContained (x : Except LedgerError α) : Prop := ∀ e, x = .error e → IsTold e

theorem isTold_failed (message : Text) : IsTold (failed message) := rfl

theorem isContained_ok (a : α) : IsContained (.ok a) := fun _ h => by cases h

theorem isContained_error {e : LedgerError} : IsContained (.error e : Except LedgerError α) ↔
    IsTold e :=
  ⟨fun h => h e rfl, fun h _ he => Except.error.inj he ▸ h⟩

instance : DecidablePred IsTold := fun e =>
  match e with
  | .failure f => inferInstanceAs (Decidable (f.kind = .ledger))
  | .infinite | .tooDeep _ | .notText _ | .longNumber => .isFalse False.elim

instance (x : Except LedgerError α) : Decidable (IsContained x) :=
  match x with
  | .ok a => .isTrue (isContained_ok a)
  | .error _ => decidable_of_iff _ isContained_error.symm

theorem isContained_map {β : Type} {x : Except LedgerError α} {f : α → β} :
    IsContained (x.map f) ↔ IsContained x := by
  simp only [IsContained, Step.map_eq_error]

/-- A line that a ledger passes over or has a record on. -/
def Passes (line : Text) : Prop := Text.isBlank line = true ∨ ∃ r, Record.ofLine line = .ok r

/-- A line with a fault that is let through. -/
def LetsThrough (line : Text) : Prop :=
  Text.isBlank line = false ∧ (Record.NestsTooDeep line ∨ Record.Overflows line)

/-- Bytes whose faults are told: they are UTF-8, and the first line that holds neither a record nor
white space alone, if there is one, neither nests too deep nor overflows. -/
def TellsFaults (bytes : Bytes) : Prop :=
  ∃ t, Utf8.encode t = .ok bytes ∧
    ¬LeadsTo Passes LetsThrough ((Text.lines t).map Line.body)

/-- The error of a line is told, unless the line is let through. -/
theorem isTold_corrupt (hblank : Text.isBlank line = false)
    (h : Record.ofLine line = .error fault) :
    IsTold (corrupt path number fault) ↔ ¬LetsThrough line := by
  have hdeep : Record.NestsTooDeep line ↔ ∃ holder, fault = .json (.tooDeep holder) := by
    simp only [Record.NestsTooDeep, ← Record.ofLine_eq_tooDeep, h, Except.error.injEq]
  have hinfinite : Record.Overflows line ↔ fault = .infinite := by
    rw [← Record.ofLine_eq_infinite, h, Except.error.injEq]
  rw [LetsThrough, hdeep, hinfinite]
  cases fault with
  | infinite => simp [corrupt, IsTold, hblank]
  | json e => cases e <;> simp [corrupt, IsTold, failed, hblank]
  | access | numeral | notANumber | undefined => simp [corrupt, IsTold, failed]

theorem not_letsThrough_of_ofLine {r : Record} (h : Record.ofLine line = .ok r) :
    ¬LetsThrough line := by
  rintro ⟨-, ⟨holder, hdeep⟩ | hinfinite⟩
  · rw [Record.ofLine_eq_tooDeep.2 hdeep] at h
    cases h
  · rw [Record.ofLine_eq_infinite.2 hinfinite] at h
    cases h

/-- What one line adds to a ledger: nothing, a record, or the error for all of it. -/
theorem readLines_cons : readLines path number (line :: lines) =
    if Text.isBlank line then readLines path (number + 1) lines
    else
      match Record.ofLine line with
      | .error fault => .error (corrupt path number fault)
      | .ok r => (readLines path (number + 1) lines).map (r :: ·) := by
  rw [readLines]
  cases Record.ofLine line with
  | error fault => rfl
  | ok r => cases readLines path (number + 1) lines <;> rfl

theorem isContained_readLines : IsContained (readLines path number lines) ↔
    ¬LeadsTo Passes LetsThrough lines := by
  induction lines generalizing number with
  | nil => exact iff_of_true (isContained_ok []) (not_leadsTo_nil.1 ·)
  | cons line lines ih =>
    rw [readLines_cons, leadsTo_cons]
    cases hblank : Text.isBlank line with
    | true =>
      have hnot : ¬LetsThrough line := fun h => by simp [h.1] at hblank
      simp [ih, hnot, Passes, hblank]
    | false =>
      cases hline : Record.ofLine line with
      | error fault =>
        have hnot : ¬Passes line := by simp [Passes, hblank, hline]
        simp [isContained_error, isTold_corrupt hblank hline, hnot]
      | ok r =>
        have hpass : Passes line := .inr ⟨r, hline⟩
        simp [isContained_map, ih, not_letsThrough_of_ofLine hline, hpass]

theorem isWritable_of_mem_readLines {r : Record} (h : readLines path number lines = .ok all)
    (hr : r ∈ all) : r.isWritable = true := by
  induction lines generalizing number all with
  | nil =>
    cases h
    cases hr
  | cons line lines ih =>
    rw [readLines_cons] at h
    split at h
    · exact ih h hr
    · split at h
      · cases h
      · next first hline =>
        obtain ⟨rest, hrest, rfl⟩ := Step.map_eq_ok.1 h
        rcases List.mem_cons.1 hr with rfl | hr
        · exact Record.isWritable_of_ofLine hline
        · exact ih hrest hr

/-! ## The file of a ledger -/

/-- A file that can be read is there. -/
theorem exists?_of_read (h : d.read path = .ok bytes) : d.exists? path = true := by
  obtain ⟨place, hplace, -, hfile⟩ := Disk.read_eq_ok.1 h
  rw [Disk.exists?, hplace]
  simp [hfile]

theorem isContained_records (h : d.read path = .ok bytes) :
    IsContained (records d path) ↔ TellsFaults bytes := by
  rw [records, exists?_of_read h, h]
  cases hdecode : Utf8.decode bytes with
  | error u =>
    refine iff_of_false (fun htold => htold (.notText u) (by simp [hdecode])) ?_
    rintro ⟨t, ht, -⟩
    rw [Utf8.decode_eq_ok_iff_encode.2 ht] at hdecode
    cases hdecode
  | ok t =>
    have hread : IsContained (readText (FilePath.normal path) t) ↔
        ¬LeadsTo Passes LetsThrough ((Text.lines t).map Line.body) := isContained_readLines
    simp only [Bool.not_true, Bool.false_eq_true, if_false, hdecode, hread, TellsFaults,
      ← Utf8.decode_eq_ok_iff_encode, Except.ok.injEq, exists_eq_left']

theorem isWritable_of_mem_records {r : Record} (h : records d path = .ok all) (hr : r ∈ all) :
    r.isWritable = true := by
  rw [records] at h
  split at h
  · cases h
    cases hr
  · split at h
    · cases h
    · split at h
      · cases h
      · exact isWritable_of_mem_readLines h hr

/-! ## Deleting step by step -/

/-- What is said when a ledger could not be replaced. -/
def cannotRewrite (path : Text) (e : DiskError) : LedgerError :=
  failed ("Cannot rewrite " ++ FilePath.normal path ++ ": " ++ e.message)

/-- Deleting, and the disk that it leaves, also where it breaks off: the records that stay are
written out, then to the draft, and the draft takes the ledger's place. -/
def deletion (d : Disk) (path run owner : Text) : Except LedgerError Bool × Disk :=
  match records d path with
  | .error e => (.error e, d)
  | .ok all =>
    let kept := without run owner all
    if kept.length = all.length then (.ok false, d)
    else if !kept.all Record.isWritable then (.error .longNumber, d)
    else
      match d.write (draft path) (Utf8.encodeAll (writeText kept)) with
      | .error e => (.error (cannotRewrite path e), d)
      | .ok drafted =>
        match drafted.rename (draft path) path with
        | .error e => (.error (cannotRewrite path e), drafted)
        | .ok replaced => (.ok true, replaced)

theorem all_isWritable_without (h : records d path = .ok all) :
    (without run owner all).all Record.isWritable = true :=
  List.all_eq_true.2 fun _ hr => isWritable_of_mem_records h (List.mem_of_mem_filter hr)

/-- Deleting is deleting step by step, its result and the disk at the end. -/
theorem delete_eq_deletion (d : Disk) (path run owner : Text) : delete d path run owner =
    (deletion d path run owner).1.map fun removed => (removed, (deletion d path run owner).2) := by
  rw [delete, deletion]
  cases hall : records d path with
  | error e => rfl
  | ok all =>
    simp only [all_isWritable_without hall, replace]
    by_cases hlength : (without run owner all).length = all.length
    · simp [hlength, bind, Except.bind, Except.map]
    · cases hwrite : d.write (draft path) (Utf8.encodeAll (writeText (without run owner all))) with
      | error e =>
        simp [hlength, hwrite, bind, Except.bind, Except.map, Except.mapError, cannotRewrite]
      | ok drafted =>
        cases hrename : drafted.rename (draft path) path <;>
          simp [hlength, hwrite, hrename, bind, Except.bind, Except.map, Except.mapError,
            cannotRewrite]

/-- Only what is wrong with the file itself may be let through. -/
theorem isContained_deletion :
    IsContained (deletion d path run owner).1 ↔ IsContained (records d path) := by
  rw [deletion]
  cases hall : records d path with
  | error e => simp [isContained_error]
  | ok all =>
    simp only [all_isWritable_without hall, isContained_ok, iff_true]
    split
    · exact isContained_ok _
    · rw [if_neg (by decide)]
      split
      · exact isContained_error.2 (isTold_failed _)
      · split
        · exact isContained_error.2 (isTold_failed _)
        · exact isContained_ok _

/-- A draft takes the place of a ledger that can be read. -/
theorem exists_rename_draft {drafted : Disk} {kept : Bytes} (h : d.read path = .ok bytes)
    (hwrite : d.write (draft path) kept = .ok drafted) :
    ∃ e, drafted.rename (draft path) path = .ok e := by
  obtain ⟨place, hplace, hfolder, -⟩ := Disk.read_eq_ok.1 h
  obtain ⟨other, hother, hfolder', rfl⟩ := Disk.write_eq_ok.1 hwrite
  refine ⟨_, Disk.rename_eq_ok.2 ⟨other, place, kept, ?_, hfolder', ?_, ?_, hfolder, rfl⟩⟩
  · exact (Disk.locate_putAt ..).2 hother
  · rw [Disk.file?_putAt, if_pos rfl]
  · exact (Disk.locate_putAt ..).2 hplace

/-- Where nothing has been deleted, the file of the ledger is as it was. -/
theorem read_deletion (h : d.read path = .ok bytes)
    (hnone : (deletion d path run owner).1 ≠ .ok true) :
    (deletion d path run owner).2.read path = .ok bytes := by
  unfold deletion at hnone ⊢
  cases hall : records d path with
  | error e => exact h
  | ok all =>
    simp only [hall, all_isWritable_without hall] at hnone ⊢
    split at hnone
    · next hlength => rwa [if_pos hlength]
    · next hlength =>
      rw [if_neg hlength]
      cases hwrite : d.write (draft path) (Utf8.encodeAll (writeText (without run owner all))) with
      | error e => exact h
      | ok drafted =>
        obtain ⟨e, hrename⟩ := exists_rename_draft h hwrite
        simp [hwrite, hrename] at hnone

/-- Of a ledger file with any bytes, for any owner and run: listing and deleting give a result or a
failure of the ledger exactly if the faults of the bytes are told, and a deletion that takes nothing
out leaves the bytes as they are. -/
theorem corruption_contained_iff (h : d.read path = .ok bytes) (run owner : Text) :
    (IsContained (list d path owner) ↔ TellsFaults bytes) ∧
    (IsContained (delete d path run owner) ↔ TellsFaults bytes) ∧
    ((deletion d path run owner).1 ≠ .ok true →
      (deletion d path run owner).2.read path = .ok bytes) := by
  refine ⟨?_, ?_, read_deletion h⟩
  · rw [list, isContained_map, isContained_records h]
  · rw [delete_eq_deletion, isContained_map, isContained_deletion, isContained_records h]

/-- A ledger with a blank line, and with a line that lacks most of a record. -/
def brokenLedger : Disk :=
  { files := [(["ledger.jsonl"], Utf8.encodeAll "\n\x7b\"run_id\": 1\x7d\n")] }

theorem brokenLedger_contained :
    IsContained (list brokenLedger "ledger.jsonl" "ada") ∧
    IsContained (delete brokenLedger "ledger.jsonl" "1" "ada") ∧
    (deletion brokenLedger "ledger.jsonl" "1" "ada").2.read "ledger.jsonl" =
      .ok (Utf8.encodeAll "\n\x7b\"run_id\": 1\x7d\n") := by
  have htold : TellsFaults (Utf8.encodeAll "\n\x7b\"run_id\": 1\x7d\n") := by
    have hlines : IsContained (readLines "ledger.jsonl" 1
        ((Text.lines "\n\x7b\"run_id\": 1\x7d\n").map Line.body)) := by decide +kernel
    exact ⟨_, rfl, isContained_readLines.1 hlines⟩
  have hfails : (deletion brokenLedger "ledger.jsonl" "1" "ada").1.isOk = false := by
    decide +kernel
  have hread : brokenLedger.read "ledger.jsonl" =
      .ok (Utf8.encodeAll "\n\x7b\"run_id\": 1\x7d\n") := rfl
  obtain ⟨hlist, hdelete, hkept⟩ := corruption_contained_iff hread "1" "ada"
  refine ⟨hlist.2 htold, hdelete.2 htold, hkept fun hok => ?_⟩
  rw [hok] at hfails
  cases hfails

/-- A ledger with a record whose score is infinite. -/
def endlessLedger : Disk :=
  { files := [(["ledger.jsonl"], Utf8.encodeAll ("\x7b\"run_id\": \"1\", \"owner_id\": \"a\", " ++
    "\"project_name\": \"p\", \"score_before\": Infinity\x7d\n"))] }

/-- Not every fault of a ledger file is told. -/
theorem not_forall_contained : ¬∀ (d : Disk) (path run owner : Text) (bytes : Bytes),
    d.read path = .ok bytes →
      IsContained (list d path owner) ∧ IsContained (delete d path run owner) ∧
      ((deletion d path run owner).1 ≠ .ok true →
        (deletion d path run owner).2.read path = .ok bytes) := by
  intro h
  have hescapes : ¬IsContained (list endlessLedger "ledger.jsonl" "a") := by decide +kernel
  exact hescapes (h endlessLedger "ledger.jsonl" "1" "a" _ rfl).1

end Ledger

end Decouple
