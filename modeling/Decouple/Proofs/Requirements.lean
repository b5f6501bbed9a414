import Decouple.Manifest
import Decouple.Proofs.Lines
import Decouple.Proofs.Traversal

/-!
# Removing lines from a requirements file

What a line declares depends on its body; the number of the line is only noted
(`entry?_number`).  So the entries of a file are, but for their numbers, what the filled bodies of
its lines declare, and a file from which lines have been dropped declares what the other lines
declared (`entries_drop`), although some of those may have become one line.
-/

namespace Decouple

/-- An entry without the number of its line. -/
def ManifestEntry.unnumbered (e : ManifestEntry) : ManifestEntry := { e with line := none }

/-- An entry on a line with a number. -/
def ManifestEntry.onLine (line : Nat) (e : ManifestEntry) : ManifestEntry :=
  { e with line := some line }

namespace RequirementsFile

/-- Entries without the numbers of their lines. -/
def unnumbered (es : List ManifestEntry) : List ManifestEntry := es.map ManifestEntry.unnumbered

variable {names : List Text} {content kept : Text} {removed : List Text} {ls : List Line}
  {es : List ManifestEntry} {n : Nat}

@[simp] theorem unnumbered_append (es es' : List ManifestEntry) :
    unnumbered (es ++ es') = unnumbered es ++ unnumbered es' := List.map_append

/-! ## What a line declares -/

theorem reference?_number (n : Nat) (text : Text) :
    reference? n text = (reference? 0 text).map (ManifestEntry.onLine n) := by
  simp only [reference?, Option.map_map]
  rfl

theorem entryOf_number (n : Nat) (r : Requirement) :
    entryOf n r = (entryOf 0 r).map (ManifestEntry.onLine n) := by
  simp only [entryOf]
  cases markerText r.marker <;> rfl

/-- The number of a line is noted in its entry and nothing else. -/
theorem entry?_number (n : Nat) (text : Text) :
    entry? n text = ( entry? 0 text).map (Option.map (ManifestEntry.onLine n)) := by
  simp only [ entry?]
  split
  · rfl
  · rw [reference?_number n]
    cases reference? 0 (Text.trim text) with
    | some e => rfl
    | none =>
      dsimp only [Option.map_none]
      cases Requirement.ofText? (withoutComment (Text.trim text)) with
      | none => rfl
      | some r =>
        dsimp only
        rw [entryOf_number n]
        cases entryOf 0 r <;> rfl

/-- What a line with some body declares, if all goes well, without its number. -/
def declared? (body : Text) : Option ManifestEntry :=
  match entry? 0 body with
  | .ok found => found.map ManifestEntry.unnumbered
  | .error _ => none

theorem declared?_of_entry? {body : Text} {found : Option ManifestEntry}
    (h : entry? n body = .ok found) : declared? body = found.map ManifestEntry.unnumbered := by
  rw [entry?_number, Step.map_eq_ok] at h
  obtain ⟨found', h, rfl⟩ := h
  rw [declared?, h, Option.map_map]
  rfl

/-- Whether what a line declares goes well. -/
def IsReadable (body : Text) : Prop := ∃ found, entry? 0 body = .ok found

theorem isReadable_iff (n : Nat) (body : Text) :
    IsReadable body ↔ ∃ found, entry? n body = .ok found := by
  rw [IsReadable, entry?_number n]
  constructor
  · rintro ⟨found, h⟩
    exact ⟨_, Step.map_eq_ok.2 ⟨found, h, rfl⟩⟩
  · rintro ⟨_, h⟩
    obtain ⟨found, h, -⟩ := Step.map_eq_ok.1 h
    exact ⟨found, h⟩

theorem entry?_nil (n : Nat) : entry? n [] = .ok none := rfl

theorem isReadable_nil : IsReadable [] := ⟨none, entry?_nil 0⟩

theorem declared?_nil : declared? [] = none := declared?_of_entry? (entry?_nil 0)

/-! ## The entries of lines -/

theorem entriesFrom_cons_eq_ok {l : Line} :
    entriesFrom n (l :: ls) = .ok es ↔ ∃ found rest, entry? n l.body = .ok found ∧
      entriesFrom (n + 1) ls = .ok rest ∧ es = found.toList ++ rest := by
  rw [entriesFrom]
  cases entry? n l.body with
  | error e => simp
  | ok found =>
    simp only [Step.map_eq_ok, Except.ok.injEq]
    constructor
    · rintro ⟨rest, hrest, rfl⟩
      exact ⟨found, rest, rfl, hrest, rfl⟩
    · rintro ⟨_, rest, rfl, hrest, rfl⟩
      exact ⟨rest, hrest, rfl⟩

/-- Lines have entries when each of them can be read. -/
theorem exists_entriesFrom : (∃ es, entriesFrom n ls = .ok es) ↔ ∀ l ∈ ls, IsReadable l.body := by
  induction ls generalizing n with
  | nil => simp [entriesFrom]
  | cons l ls ih =>
    rw [List.forall_mem_cons, ← ih (n := n + 1), isReadable_iff n]
    constructor
    · rintro ⟨es, h⟩
      obtain ⟨found, rest, hl, hrest, -⟩ := entriesFrom_cons_eq_ok.1 h
      exact ⟨⟨found, hl⟩, rest, hrest⟩
    · rintro ⟨⟨found, hl⟩, rest, hrest⟩
      exact ⟨_, entriesFrom_cons_eq_ok.2 ⟨found, rest, hl, hrest, rfl⟩⟩

/-- But for the numbers, the entries of lines are what their bodies declare. -/
theorem unnumbered_entriesFrom (h : entriesFrom n ls = .ok es) :
    unnumbered es = (ls.map Line.body).filterMap declared? := by
  induction ls generalizing n es with
  | nil =>
    rw [← Except.ok.inj h]
    rfl
  | cons l ls ih =>
    obtain ⟨found, rest, hl, hrest, rfl⟩ := entriesFrom_cons_eq_ok.1 h
    rw [unnumbered_append, ih hrest, List.map_cons, List.filterMap_cons, declared?_of_entry? hl]
    cases found <;> rfl

/-- Empty bodies declare nothing. -/
theorem filterMap_declared?_filledBodies (ls : List Line) :
    (Line.filledBodies ls).filterMap declared? = (ls.map Line.body).filterMap declared? := by
  rw [Line.filledBodies, List.filterMap_filter]
  refine List.filterMap_congr fun b _ => ?_
  cases b with
  | nil => rw [declared?_nil]; rfl
  | cons c b => rfl

theorem isReadable_filledBodies :
    (∀ b ∈ Line.filledBodies ls, IsReadable b) ↔ ∀ l ∈ ls, IsReadable l.body := by
  simp only [Line.filledBodies, List.mem_filter, List.mem_map]
  constructor
  · intro h l hl
    by_cases hb : l.body = []
    · rw [hb]
      exact isReadable_nil
    · exact h _ ⟨⟨l, hl, rfl⟩, by simpa using hb⟩
  · rintro h _ ⟨⟨l, hl, rfl⟩, -⟩
    exact h l hl

/-! ## The lines that go -/

/-- Whether an entry's package is among some. -/
def isWanted (names : List Text) (e : ManifestEntry) : Bool :=
  (names.map PackageName.normal).contains (PackageName.normal e.name)

theorem wanted_eq_filter (names : List Text) (es : List ManifestEntry) :
    wanted names es = es.filter (isWanted names) := rfl

/-- Whether a line declares a package that is among some. -/
def declaresWanted (names : List Text) (l : Line) : Bool :=
  (declared? l.body).any (isWanted names)

theorem line_of_mem_entriesFrom (h : entriesFrom n ls = .ok es) {e : ManifestEntry}
    (he : e ∈ es) : ∃ k, n ≤ k ∧ e.line = some k := by
  induction ls generalizing n es with
  | nil =>
    rw [← Except.ok.inj h] at he
    cases he
  | cons l ls ih =>
    obtain ⟨found, rest, hl, hrest, rfl⟩ := entriesFrom_cons_eq_ok.1 h
    rcases List.mem_append.1 he with he | he
    · rw [entry?_number, Step.map_eq_ok] at hl
      obtain ⟨found', -, rfl⟩ := hl
      rw [Option.mem_toList, Option.map_eq_some_iff] at he
      obtain ⟨e', -, rfl⟩ := he
      exact ⟨n, Nat.le_refl n, rfl⟩
    · obtain ⟨k, hk, he⟩ := ih hrest he
      exact ⟨k, by omega, he⟩

theorem linesWithout_congr {doomed doomed' : List Nat} (ls : List Line)
    (h : ∀ k, n ≤ k → (k ∈ doomed ↔ k ∈ doomed')) :
    linesWithout doomed n ls = linesWithout doomed' n ls := by
  induction ls generalizing n with
  | nil => rfl
  | cons l ls ih =>
    have hn : doomed.contains n = doomed'.contains n := by
      rw [Bool.eq_iff_iff, List.contains_iff_mem, List.contains_iff_mem]
      exact h n (Nat.le_refl n)
    rw [linesWithout, linesWithout, hn, ih fun k hk => h k (by omega)]

/-- The lines that go are those that declare a wanted package. -/
theorem linesWithout_wanted (names : List Text) (h : entriesFrom n ls = .ok es) :
    linesWithout ((wanted names es).filterMap (·.line)) n ls =
      (ls.filter fun l => !declaresWanted names l).flatMap Line.whole := by
  induction ls generalizing n es with
  | nil => rfl
  | cons l ls ih =>
    obtain ⟨found, rest, hl, hrest, rfl⟩ := entriesFrom_cons_eq_ok.1 h
    have hlater : n ∉ (wanted names rest).filterMap (·.line) := by
      rw [List.mem_filterMap]
      rintro ⟨e, he, hline⟩
      obtain ⟨k, hk, hek⟩ := line_of_mem_entriesFrom hrest (List.mem_of_mem_filter he)
      rw [hek, Option.some.injEq] at hline
      omega
    have hdeclared := declared?_of_entry? hl
    rw [entry?_number, Step.map_eq_ok] at hl
    obtain ⟨found', -, rfl⟩ := hl
    rw [linesWithout, wanted_eq_filter, List.filter_append, List.filterMap_append,
      List.filter_cons]
    cases found' with
    | none =>
      have hkept : declaresWanted names l = false := by rw [declaresWanted, hdeclared]; rfl
      simp only [Option.map_none, Option.toList_none, List.filter_nil, List.filterMap_nil,
        List.nil_append, ← wanted_eq_filter, List.contains_iff_mem, if_neg hlater, hkept, ih hrest]
      rfl
    | some e =>
      have hfirst : declaresWanted names l = isWanted names e := by
        rw [declaresWanted, hdeclared]
        rfl
      have hwanted : isWanted names (e.onLine n) = isWanted names e := rfl
      simp only [Option.map_some, Option.toList_some, List.filter_cons, List.filter_nil, hfirst,
        hwanted, ← wanted_eq_filter]
      by_cases hw : isWanted names e
      · rw [if_pos hw, hw]
        have hrest' : linesWithout ([e.onLine n].filterMap (·.line) ++
              (wanted names rest).filterMap (·.line)) (n + 1) ls =
            linesWithout ((wanted names rest).filterMap (·.line)) (n + 1) ls := by
          refine linesWithout_congr ls fun k hk => ?_
          simp [ManifestEntry.onLine]
          omega
        rw [hrest', ih hrest]
        simp [ManifestEntry.onLine]
      · rw [if_neg hw]
        simp only [List.filterMap_nil, List.nil_append, List.contains_iff_mem, if_neg hlater, hw,
          ih hrest]
        rfl

theorem filterMap_filter_not_any {α β : Type} (f : α → Option β) (p : β → Bool) (as : List α) :
    (as.filter fun a => !(f a).any p).filterMap f = (as.filterMap f).filter fun b => !p b := by
  induction as with
  | nil => rfl
  | cons a as ih =>
    rw [List.filter_cons, List.filterMap_cons]
    cases hf : f a with
    | none => simpa [hf] using ih
    | some b =>
      cases hp : p b <;> simp [hf, hp, ih]

theorem filter_unnumbered (names : List Text) (es : List ManifestEntry) :
    (unnumbered es).filter (fun e => !isWanted names e) =
      unnumbered (es.filter fun e => !isWanted names e) := List.filter_map ..

/-- A file without the lines of some packages can be read, and its entries are those of the others,
but for the numbers of their lines. -/
theorem entries_linesWithout (names : List Text) (h : entries content = .ok es) :
    ∃ es', entries (linesWithout ((wanted names es).filterMap (·.line)) 1 (Text.lines content)) =
        .ok es' ∧
      unnumbered es' = unnumbered (es.filter fun e => !isWanted names e) := by
  have hkept := linesWithout_wanted names h
  have hfilled := Text.filledBodies_lines_filter (fun l => !declaresWanted names l) content
  have hreadable : ∀ l ∈ Text.lines content, IsReadable l.body := exists_entriesFrom.1 ⟨es, h⟩
  rw [hkept]
  have hagain : ∀ l ∈ Text.lines
      (((Text.lines content).filter fun l => !declaresWanted names l).flatMap Line.whole),
      IsReadable l.body := by
    rw [← isReadable_filledBodies, hfilled, isReadable_filledBodies]
    exact fun l hl => hreadable l (List.mem_of_mem_filter hl)
  obtain ⟨es', h'⟩ := exists_entriesFrom (n := 1).2 hagain
  refine ⟨es', h', ?_⟩
  have hentries : (Text.lines content).filterMap (declared? ∘ Line.body) = unnumbered es := by
    rw [unnumbered_entriesFrom h, List.filterMap_map]
  rw [unnumbered_entriesFrom h', ← filterMap_declared?_filledBodies, hfilled,
    filterMap_declared?_filledBodies, List.filterMap_map]
  calc _ = ((Text.lines content).filterMap (declared? ∘ Line.body)).filter
        fun e => !isWanted names e := filterMap_filter_not_any _ (isWanted names) _
    _ = unnumbered (es.filter fun e => !isWanted names e) := by
        rw [hentries, filter_unnumbered]

/-- What a removal leaves: the entries of the other packages, but for the numbers of their lines. -/
theorem entries_drop (h : drop content names = .ok (kept, removed)) :
    ∃ es es', entries content = .ok es ∧ entries kept = .ok es' ∧
      unnumbered es' = unnumbered (es.filter fun e => !isWanted names e) := by
  obtain ⟨es, hes, h⟩ := Step.map_eq_ok.1 h
  dsimp only at h
  split at h
  · next hnone =>
    rw [List.isEmpty_iff, wanted_eq_filter, List.filter_eq_nil_iff] at hnone
    obtain ⟨rfl, -⟩ := Prod.ext_iff.1 h
    refine ⟨es, es, hes, hes, ?_⟩
    rw [List.filter_eq_self.2 fun e he => by simpa using hnone e he]
  · obtain ⟨es', hes', hsame⟩ := entries_linesWithout names hes
    obtain ⟨rfl, -⟩ := Prod.ext_iff.1 h
    exact ⟨es, es', hes, hes', hsame⟩

end RequirementsFile

end Decouple
