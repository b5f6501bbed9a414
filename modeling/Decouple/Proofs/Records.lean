import Decouple.Ledger.Basic
import Decouple.Proofs.Json.Reading
import Decouple.Proofs.Lines
import Decouple.Text.Utf8.Lemmas

/-!
# Lines of records

A record is written on one line of printable ASCII (`Record.isPlain_body`), so nothing inside it
ends the line (`lines_writeText`), and the line is read as the record with pairs of surrogates
joined in its texts (`Record.ofLine_body`).  The text of a list of records is read as these records, one after the other
(`readText_writeText`).
-/

namespace Decouple

namespace Text

/-- A text in which no high surrogate has a low one behind it. -/
def Unpaired (t : Text) : Prop := t.IsChain fun c d => (c.isHigh && d.isLow) = false

theorem joined_of_unpaired {t : Text} (h : Unpaired t) : joined t = t := by
  fun_induction joined t with
  | case1 => rfl
  | case2 => rfl
  | case3 c d rest hpair ih =>
    rw [Unpaired, List.isChain_cons_cons] at h
    rw [h.1] at hpair
    cases hpair
  | case4 c d rest _ ih =>
    rw [Unpaired, List.isChain_cons_cons] at h
    rw [ih h.2]

/-- A pair of surrogates is none itself. -/
theorem not_surrogate_ofPair {high low : Nat} (hhigh : high ≤ 0xDBFF) (hlow : low ≤ 0xDFFF) :
    (CodePoint.ofPair high low).isHigh = false ∧ (CodePoint.ofPair high low).isLow = false := by
  have hval : (CodePoint.ofPair high low).val =
      0x10000 + (high - 0xD800) * 1024 + (low - 0xDC00) := by
    rw [CodePoint.ofPair, CodePoint.val_ofNat (by omega)]
  simp only [CodePoint.isHigh, CodePoint.isLow, hval, Bool.and_eq_false_iff,
    decide_eq_false_iff_not]
  omega

theorem unpaired_joined (t : Text) : Unpaired (joined t) := by
  fun_induction joined t with
  | case1 => exact List.isChain_nil
  | case2 c => exact List.isChain_singleton c
  | case3 c d rest hpair ih =>
    simp only [CodePoint.isHigh, CodePoint.isLow, Bool.and_eq_true, decide_eq_true_eq] at hpair
    have hhigh := (not_surrogate_ofPair hpair.1.2 hpair.2.2).1
    refine List.isChain_cons.2 ⟨fun e _ => ?_, ih⟩
    rw [hhigh, Bool.false_and]
  | case4 c d rest hpair ih =>
    refine List.isChain_cons.2 ⟨fun e he => ?_, ih⟩
    -- The next code point is the next one of the text, or a pair.
    cases rest with
    | nil =>
      obtain rfl : d = e := by simpa [joined] using he
      simpa using hpair
    | cons f rest =>
      rw [joined] at he
      split at he
      · next hnext =>
        obtain rfl : CodePoint.ofPair d.val f.val = e := by simpa using he
        simp only [CodePoint.isHigh, CodePoint.isLow, Bool.and_eq_true, decide_eq_true_eq] at hnext
        rw [(not_surrogate_ofPair hnext.1.2 hnext.2.2).2, Bool.and_false]
      · obtain rfl : d = e := by simpa using he
        simpa using hpair

@[simp] theorem joined_joined (t : Text) : joined (joined t) = joined t :=
  joined_of_unpaired (unpaired_joined t)

end Text

/-! ## Printable ASCII -/

namespace CodePoint

/-- Printable ASCII. -/
def isPlain (c : CodePoint) : Bool := 32 ≤ c.val && c.val ≤ 126

theorem endsLine_of_isPlain {c : CodePoint} (h : c.isPlain = true) : c.endsLine = false := by
  simp only [isPlain, Bool.and_eq_true, decide_eq_true_eq] at h
  simp only [endsLine, Bool.or_eq_false_iff, Bool.and_eq_false_iff, decide_eq_false_iff_not,
    beq_eq_false_iff_ne]
  omega

theorem isSurrogate_of_isPlain {c : CodePoint} (h : c.isPlain = true) : c.isSurrogate = false := by
  simp only [isPlain, Bool.and_eq_true, decide_eq_true_eq] at h
  simp only [isSurrogate, Bool.and_eq_false_iff, decide_eq_false_iff_not]
  omega

end CodePoint

namespace Text

/-- A text of printable ASCII. -/
def IsPlain (t : Text) : Prop := ∀ c ∈ t, c.isPlain = true

instance (t : Text) : Decidable (IsPlain t) :=
  inferInstanceAs (Decidable (∀ c ∈ t, c.isPlain = true))

variable {t u : Text}

theorem IsPlain.append (ht : IsPlain t) (hu : IsPlain u) : IsPlain (t ++ u) := by
  intro c hc
  rcases List.mem_append.1 hc with hc | hc
  · exact ht c hc
  · exact hu c hc

theorem isPlain_of_areDigits (h : AreDigits t) : IsPlain t := by
  intro c hc
  have hdigit := h c hc
  simp only [CodePoint.isDigit, CodePoint.isPlain, Bool.and_eq_true, decide_eq_true_eq] at *
  omega

theorem isPlain_ofInt (n : Int) : IsPlain (ofInt n) := by
  have hdigits : IsPlain (ofNat n.natAbs) := isPlain_of_areDigits (areDigits_ofNat _)
  have hsign : IsPlain "-" := by decide
  rw [ofInt]
  split
  · exact hsign.append hdigits
  · exact hdigits

theorem isPlain_hex_four {n : Nat} (h : n < 0x10000) : IsPlain (hex 4 n) := by
  have hdigit : ∀ k < 16, (digit k).isPlain = true := by decide
  rw [hex_four h]
  simp only [IsPlain, List.forall_mem_cons, List.not_mem_nil, IsEmpty.forall_iff, implies_true,
    and_true]
  exact ⟨hdigit _ (by omega), hdigit _ (by omega), hdigit _ (by omega), hdigit _ (by omega)⟩

theorem isPlain_join {sep : Text} (hsep : IsPlain sep) {parts : List Text}
    (h : ∀ p ∈ parts, IsPlain p) : IsPlain (join sep parts) := by
  induction parts with
  | nil => exact fun c hc => by cases hc
  | cons p parts ih =>
    rw [List.forall_mem_cons] at h
    cases parts with
    | nil => exact h.1
    | cons q parts =>
      rw [join_cons _ _ (List.cons_ne_nil q parts)]
      exact (h.1.append hsep).append (ih h.2)

/-- A line of printable ASCII ends where a line feed is written behind it. -/
theorem lines_append_lineFeed (ht : IsPlain t) (u : Text) :
    lines (t ++ CodePoint.ofChar '\n' :: u) = ⟨t, ['\n']⟩ :: lines u := by
  induction t with
  | nil => exact lines_cons_of_endsLine (by decide) (by decide)
  | cons c t ih =>
    rw [IsPlain, List.forall_mem_cons] at ht
    rw [List.cons_append, lines_cons_of_not_endsLine (CodePoint.endsLine_of_isPlain ht.1),
      ih ht.2, Line.extend]

end Text

namespace Json

open Text (IsPlain)

variable {style : JsonStyle}

theorem isPlain_writeCodePoint (hstyle : style.escapeNonAscii = true) (c : CodePoint) :
    IsPlain (writeCodePoint style c) := by
  have hunit {n : Nat} (hn : n < 0x10000) : IsPlain (unitEscape n) := by
    have hstart : IsPlain "\\u" := by decide
    exact hstart.append (Text.isPlain_hex_four hn)
  unfold writeCodePoint
  split_ifs with hquote hfeed hreturn htab hback hform hcontrol hescape
  · rcases hquote with rfl | rfl <;> decide
  · decide
  · decide
  · decide
  · decide
  · decide
  · exact hunit (by omega)
  · unfold codePointEscape
    split
    · next hsmall => exact hunit hsmall
    · have hval := c.val_lt
      exact (hunit (by omega)).append (hunit (by omega))
  · intro d hd
    obtain rfl := List.mem_singleton.1 hd
    simp only [hstyle, Bool.true_and, decide_eq_true_eq] at hescape
    simp only [CodePoint.isPlain, Bool.and_eq_true, decide_eq_true_eq]
    omega

theorem isPlain_writeString (hstyle : style.escapeNonAscii = true) (t : Text) :
    IsPlain (writeString style t) := by
  have hquote : IsPlain "\"" := by decide
  refine (hquote.append ?_).append hquote
  intro c hc
  obtain ⟨d, -, hd⟩ := List.mem_flatMap.1 hc
  exact isPlain_writeCodePoint hstyle d c hd

end Json

/-! ## Records -/

namespace Reading

theorem natAbs_lt_of_isWritable {n : Int} (h : isWritable n = true) :
    n.natAbs < 10 ^ maxDigits := by
  rw [isWritable, decide_eq_true_eq] at h
  have hvalue := Text.decimalValue_lt (Text.areDigits_ofNat n.natAbs)
  rw [Text.decimalValue_ofNat] at hvalue
  exact Nat.lt_of_lt_of_le hvalue (Nat.pow_le_pow_right (by decide) h)

end Reading

namespace Record

open Json (MemberItem Item)

/-- A record with the pairs of surrogates joined in its texts. -/
def joined (r : Record) : Record :=
  { r with
    runId := r.runId.joined
    ownerId := r.ownerId.joined
    projectName := r.projectName.joined
    createdAt := r.createdAt.joined
    archiveRef := r.archiveRef.joined }

/-- A member whose value is a text. -/
def textItem (name t : Text) : MemberItem :=
  ⟨name, Json.writeString .line t, .string t.joined⟩

/-- A member whose value is a number. -/
def numberItem (name : Text) (n : Int) : MemberItem := ⟨name, Text.ofInt n, .int n⟩

/-- The members of a record in the order of their names, each as it is written and as it is read. -/
def items (r : Record) : List MemberItem := [
  textItem "archive_ref" r.archiveRef, textItem "created_at" r.createdAt,
  numberItem "files_total" r.filesTotal, textItem "owner_id" r.ownerId,
  textItem "project_name" r.projectName, textItem "run_id" r.runId,
  numberItem "score_after" r.scoreAfter, numberItem "score_before" r.scoreBefore]

/-- The line of a record without what ends it. -/
def body (r : Record) : Text := r.toJson.write .line

theorem toLine_eq (r : Record) : r.toLine = r.body ++ [CodePoint.ofChar '\n'] := rfl

/-- The members of a record in the order of their names. -/
theorem sort_members {α : Type} (run owner project before after files created archive : α) :
    Sorting.sort (fun a b : Text × α => Text.le a.1 b.1) [
        ("run_id", run), ("owner_id", owner), ("project_name", project),
        ("score_before", before), ("score_after", after), ("files_total", files),
        ("created_at", created), ("archive_ref", archive)] =
      ([("archive_ref", archive), ("created_at", created), ("files_total", files),
        ("owner_id", owner), ("project_name", project), ("run_id", run),
        ("score_after", after), ("score_before", before)] : List (Text × α)) := rfl

theorem body_eq (r : Record) : r.body = CodePoint.ofChar '\x7b' ::
    (Text.join ", " (r.items.map (MemberItem.text .line)) ++ [CodePoint.ofChar '\x7d']) := by
  have hline (depth : Nat) : Json.newLine .line depth = [] := rfl
  have hseparator (depth : Nat) : Json.itemSeparator .line depth = ", " := rfl
  rw [body, toJson, members, Json.write, Json.writeAt]
  simp only [Json.writeMembers, Json.writeAt, hline, hseparator, List.append_nil]
  have hsort : JsonStyle.line.sortMembers = true := rfl
  rw [hsort, if_pos rfl, sort_members, List.append_assoc]
  rfl

/-- Every member is taken off with its name as it was. -/
theorem isTaken_of_mem_items {r : Record} (hr : r.isWritable = true) {most levels : Nat}
    {m : MemberItem} (hm : m ∈ r.items) : m.IsTaken .line (Json.valueFrom most levels) := by
  have hname {name : Text} (h : name.joined = name) (opened offset : Nat) (tail : Text) :
      ∃ offset', Json.stringFrom opened 0 (name.flatMap (Json.writeCodePoint .line) ++
        CodePoint.ofChar '"' :: tail) offset [] = .ok (name, ⟨tail, offset'⟩) := by
    obtain ⟨offset', hread⟩ := @Json.stringFrom_joined .line rfl name tail opened offset []
    rw [List.reverse_nil, List.nil_append, h] at hread
    exact ⟨offset', hread⟩
  have htext {name : Text} (h : name.joined = name) (t : Text) :
      (textItem name t).IsTaken .line (Json.valueFrom most levels) := by
    refine ⟨⟨?_, ?_⟩, hname h⟩
    · exact ⟨_, _, rfl, by decide⟩
    · exact Json.writeString_takes fun opened offset tail =>
        Json.stringFrom_joined rfl t tail opened offset []
  have hnumber {name : Text} (h : name.joined = name) {n : Int}
      (hn : Reading.isWritable n = true) :
      (numberItem name n).IsTaken .line (Json.valueFrom most levels) := by
    refine ⟨⟨?_, Json.ofInt_takes (Reading.natAbs_lt_of_isWritable hn)⟩, hname h⟩
    exact (Json.startsNumber_ofInt n).startsToken
  simp only [isWritable, List.all_cons, List.all_nil, Bool.and_true, Bool.and_eq_true] at hr
  simp only [items, List.mem_cons, List.not_mem_nil, or_false] at hm
  rcases hm with rfl | rfl | rfl | rfl | rfl | rfl | rfl | rfl
  · exact htext rfl _
  · exact htext rfl _
  · exact hnumber rfl hr.2.2
  · exact htext rfl _
  · exact htext rfl _
  · exact htext rfl _
  · exact hnumber rfl hr.2.1
  · exact hnumber rfl hr.1

/-- The line of a record is taken off as the object of its members. -/
theorem body_takes {r : Record} (hr : r.isWritable = true) {most levels : Nat}
    (hmost : r.items.length ≤ most) :
    Json.Takes (Json.valueFrom most (levels + 1)) r.body
      (.object (r.items.map MemberItem.member)) := by
  have hgap : Json.AreSpaces " " := by decide
  have hnone : Json.AreSpaces [] := by decide
  have hitems : ∀ m ∈ r.items, m.IsTaken .line (Json.valueFrom most levels) :=
    fun m hm => isTaken_of_mem_items hr hm
  have hne : r.items ≠ [] := List.cons_ne_nil _ _
  have hnames : (([] : List (Text × Json)).map Prod.fst ++ r.items.map MemberItem.name).Nodup := by
    have hdistinct : [("archive_ref" : Text), "created_at", "files_total", "owner_id",
      "project_name", "run_id", "score_after", "score_before"].Nodup := by decide
    exact hdistinct
  intro tail _ offset
  have hbody : r.body ++ tail = CodePoint.ofChar '\x7b' :: ([] ++
      (Text.join ", " (r.items.map (MemberItem.text .line)) ++
        ([] ++ CodePoint.ofChar '\x7d' :: tail))) := by
    rw [body_eq]
    simp
  have hstart : Json.StartsToken (Text.join ", " (r.items.map (MemberItem.text .line)) ++
      ([] ++ CodePoint.ofChar '\x7d' :: tail)) :=
    (Json.startsToken_join (Json.startsToken_memberText _) _).append _
  obtain ⟨offset', hread⟩ := Json.membersFrom_join hgap hnone hne hitems hmost [] hnames tail
    (offset + 1)
  refine ⟨offset', ?_⟩
  rw [hbody, Json.valueFrom_object hnone hstart]
  exact hread

/-- The line of a record is as long as it has members. -/
theorem length_items_le (r : Record) : r.items.length ≤ r.body.length := by
  have hne : ∀ p ∈ r.items.map (MemberItem.text .line), p ≠ [] := by
    intro p hp
    obtain ⟨m, -, rfl⟩ := List.mem_map.1 hp
    exact Json.ne_nil_of_startsToken (Json.startsToken_memberText m)
  have hparts := Json.length_le_length_join ", " hne
  rw [List.length_map] at hparts
  rw [body_eq, List.length_cons, List.length_append]
  omega

/-- The line of a record is read as the record with its pairs of surrogates joined. -/
theorem ofLine_body {r : Record} (hr : r.isWritable = true) : ofLine r.body = .ok r.joined := by
  have hnone : Json.AreSpaces [] := by decide
  have hstart : Json.StartsToken r.body := by
    rw [body_eq]
    exact ⟨_, _, rfl, by decide⟩
  have hmost : r.items.length ≤ (r.body ++ []).length := by
    rw [List.append_nil]
    exact r.length_items_le
  have hread := Json.read_of_takes hstart hnone (body_takes hr hmost)
  rw [List.append_nil] at hread
  rw [ofLine, hread]
  rfl

/-- The line of a record is printable ASCII. -/
theorem isPlain_body (r : Record) : Text.IsPlain r.body := by
  have hmember (name : Text) {value : Text} (hvalue : Text.IsPlain value) (j : Json) :
      Text.IsPlain (MemberItem.text .line ⟨name, ⟨value, j⟩⟩) :=
    ((Json.isPlain_writeString rfl name).append (by decide)).append hvalue
  have hitems : ∀ p ∈ r.items.map (MemberItem.text .line), Text.IsPlain p := by
    simp only [items, textItem, numberItem, List.map_cons, List.map_nil, List.forall_mem_cons,
      List.not_mem_nil, IsEmpty.forall_iff, implies_true, and_true]
    refine ⟨?_, ?_, ?_, ?_, ?_, ?_, ?_, ?_⟩
    · exact hmember _ (Json.isPlain_writeString rfl _) _
    · exact hmember _ (Json.isPlain_writeString rfl _) _
    · exact hmember _ (Text.isPlain_ofInt _) _
    · exact hmember _ (Json.isPlain_writeString rfl _) _
    · exact hmember _ (Json.isPlain_writeString rfl _) _
    · exact hmember _ (Json.isPlain_writeString rfl _) _
    · exact hmember _ (Text.isPlain_ofInt _) _
    · exact hmember _ (Text.isPlain_ofInt _) _
  have hopen : Text.IsPlain "\x7b" := by decide
  have hclose : Text.IsPlain "\x7d" := by decide
  rw [body_eq]
  exact hopen.append ((Text.isPlain_join (by decide) hitems).append hclose)

theorem isBlank_body (r : Record) : Text.isBlank r.body = false := by
  rw [body_eq]
  rfl

@[simp] theorem joined_joined (r : Record) : r.joined.joined = r.joined := by
  simp [joined]

end Record

namespace Ledger

/-- The lines of the text of records are the lines of the records. -/
theorem lines_writeText (rs : List Record) :
    (Text.lines (writeText rs)).map (·.body) = rs.map Record.body := by
  induction rs with
  | nil => rfl
  | cons r rs ih =>
    have htext : writeText (r :: rs) =
        r.body ++ CodePoint.ofChar '\n' :: writeText rs := by
      rw [writeText, List.flatMap_cons, Record.toLine_eq, List.append_assoc]
      rfl
    rw [htext, Text.lines_append_lineFeed r.isPlain_body, List.map_cons, ih, List.map_cons]

/-- The text of records is read as the records with their pairs of surrogates joined. -/
theorem readText_writeText {rs : List Record} (h : ∀ r ∈ rs, r.isWritable = true) (path : Text) :
    readText path (writeText rs) = .ok (rs.map Record.joined) := by
  have hlines (number : Nat) :
      readLines path number (rs.map Record.body) = .ok (rs.map Record.joined) := by
    induction rs generalizing number with
    | nil => rfl
    | cons r rs ih =>
      rw [List.forall_mem_cons] at h
      rw [List.map_cons, readLines, r.isBlank_body, if_neg Bool.false_ne_true,
        Record.ofLine_body h.1, ih h.2]
      rfl
  rw [readText, lines_writeText]
  exact hlines 1

/-- The text of records is ASCII, so that it can be written and read. -/
theorem decode_writeText (rs : List Record) :
    Utf8.decode (Utf8.encodeAll (writeText rs)) = .ok (writeText rs) := by
  have hscalar : ∀ c ∈ writeText rs, c.isSurrogate = false := by
    intro c hc
    obtain ⟨r, -, hc⟩ := List.mem_flatMap.1 hc
    rw [Record.toLine_eq] at hc
    rcases List.mem_append.1 hc with hc | hc
    · exact CodePoint.isSurrogate_of_isPlain (r.isPlain_body c hc)
    · rw [List.mem_singleton.1 hc]
      rfl
  refine Utf8.decode_encodeAll (List.all_eq_true.2 fun c hc => ?_)
  rw [hscalar c hc]
  rfl

end Ledger

end Decouple
