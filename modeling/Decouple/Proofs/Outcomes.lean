import Decouple.Proofs.Runs

/-!
# What a run leaves behind

A run that ends early leaves the disk as it found it (`Run.untouched_of_error`), whatever ended it.
A run with a result has put one archive under a new reference, and the ledger was asked to add one
record, which refers to it (`Run.exists_leaves`).
-/

namespace Decouple

namespace Session

/-- Nothing has been stored or recorded since a session; identifiers may have been given out. -/
structure Untouched (s s' : Session) : Prop where
  disk : s'.disk = s.disk
  identity : s'.identity = s.identity
  identifiers : s.identifiers ≤ s'.identifiers

theorem Untouched.refl (s : Session) : Untouched s s := ⟨rfl, rfl, Nat.le_refl _⟩

end Session

open Session (Untouched)

variable {k : Desk} {s s' : Session} {archive : Bytes} {ref : Text}

namespace Desk

theorem untouched_of_store_error {why : Text} (h : k.store s archive = (.error why, s')) :
    Untouched s s' := by
  unfold store at h
  split at h
  · cases h
    exact Untouched.refl s
  split at h
  · cases h
    exact Untouched.refl s
  · dsimp only at h
    split at h
    · cases h
      exact ⟨rfl, rfl, Nat.le_succ _⟩
    · cases h

/-- An archive is put under a new reference. -/
theorem store_eq_ok (h : k.store s archive = (.ok ref, s')) :
    ref = s.identity s.identifiers ∧ s'.identity = s.identity ∧
      s'.identifiers = s.identifiers + 1 ∧
      Archives.put s.disk k.archives ref archive = .ok s'.disk := by
  unfold store at h
  split at h
  · cases h
  split at h
  · cases h
  · dsimp only at h
    split at h
    · cases h
    · next hput =>
      cases h
      exact ⟨rfl, rfl, rfl, hput⟩

/-- A record is in the ledger, or the disk is as it was. -/
theorem record_cases (k : Desk) (s : Session) (r : Record) :
    k.record s r = (false, s) ∨
      ∃ d, Ledger.insert s.disk k.ledger r = .ok d ∧
        k.record s r = (true, { s with disk := d }) := by
  unfold record
  split
  · exact Or.inl rfl
  · cases hinsert : Ledger.insert s.disk k.ledger r with
    | error e => exact Or.inl rfl
    | ok d => exact Or.inr ⟨d, rfl, rfl⟩

end Desk

namespace Completion

variable {r : Retrieved} {a : Analysis} {o : RunOptions} {name : Text} {c : Cleaned} {e : RunError}

theorem untouched_of_package_error (h : package k s r a name c = (.error e, s')) :
    Untouched s s' := by
  unfold package at h
  dsimp only at h
  split at h
  · cases h
    exact ⟨rfl, rfl, Nat.le_refl _⟩
  split at h
  · cases h
    exact ⟨rfl, rfl, Nat.le_refl _⟩
  split at h
  · cases h
  · next hstore =>
    cases h
    obtain ⟨hdisk, hidentity, hidentifiers⟩ := Desk.untouched_of_store_error hstore
    exact ⟨hdisk, hidentity, hidentifiers⟩

theorem untouched_of_deliver_error (h : (deliver k s r a o name c).result = .error e) :
    Untouched s (deliver k s r a o name c).session := by
  unfold deliver at h ⊢
  split at h
  · next hpackage => exact untouched_of_package_error hpackage
  · cases h

theorem untouched_of_run_error (h : (run k s r a o).result = .error e) :
    Untouched s (run k s r a o).session := by
  unfold run at h ⊢
  dsimp only at h ⊢
  split at h
  · exact Untouched.refl s
  split at h
  · exact Untouched.refl s
  · exact untouched_of_deliver_error h

/-- A run is recorded under a new identifier, or the disk is as it was. -/
theorem record_eq {entry : Option Record}
    (h : record k s o a name c ref = (entry, s')) :
    s'.identity = s.identity ∧ s'.identifiers = s.identifiers + 1 ∧
      (entry = none ∧ s'.disk = s.disk ∨
        ∃ now, entry = some (recordOf o a name c ref (s.identity s.identifiers) now) ∧
          Ledger.insert s.disk k.ledger (recordOf o a name c ref (s.identity s.identifiers) now) =
            .ok s'.disk) := by
  rcases k.record_cases s.identifier.2.now.2
      (recordOf o a name c ref s.identifier.1 s.identifier.2.now.1) with
    hrecord | ⟨d, hinsert, hrecord⟩
  · unfold record at h
    dsimp only [Session.identifier, Session.now] at h hrecord
    rw [hrecord] at h
    cases h
    exact ⟨rfl, rfl, Or.inl ⟨rfl, rfl⟩⟩
  · unfold record at h
    dsimp only [Session.identifier, Session.now] at h hrecord
    rw [hrecord] at h
    cases h
    exact ⟨rfl, rfl, Or.inr ⟨_, rfl, hinsert⟩⟩

end Completion

namespace Run

variable {source : Source} {o : RunOptions} {result : RunResult} {ms : List Zip.Member}

/-- A run that ends early leaves the disk as it found it. -/
theorem untouched_of_error {e : RunError} (h : (perform k s source o).result = .error e) :
    Untouched s (perform k s source o).session := by
  have hsend (requests : List Text) : Untouched s (s.send requests) := ⟨rfl, rfl, Nat.le_refl _⟩
  unfold perform at h ⊢
  dsimp only at h ⊢
  split at h
  · exact hsend _
  split at h
  · exact hsend _
  split at h
  · next hlong =>
    rw [if_pos hlong]
    exact hsend _
  · next hlong =>
    rw [if_neg hlong]
    unfold afterAnalysis at h ⊢
    dsimp only at h ⊢
    split at h
    · next happroved =>
      rw [if_pos happroved]
      obtain ⟨hdisk, hidentity, hidentifiers⟩ := Completion.untouched_of_run_error h
      exact ⟨hdisk, hidentity, hidentifiers⟩
    · next hdeclined =>
      rw [if_neg hdeclined]
      exact hsend _

/-- What a run with a result leaves: its archive is put under a new reference, and its record, which
says what its result says, is in the ledger, unless there is none. -/
structure Leaves (k : Desk) (s : Session) (result : RunResult) (archive : Bytes) (s' : Session) :
    Prop where
  identity : s'.identity = s.identity
  identifiers : s'.identifiers = s.identifiers + 2
  ref : result.archiveRef = s.identity s.identifiers
  disks : ∃ d, Archives.put s.disk k.archives result.archiveRef archive = .ok d ∧
    (result.record = none ∧ s'.disk = d ∨
      ∃ r, result.record = some r ∧ Ledger.insert d k.ledger r = .ok s'.disk)
  scores : ∀ r ∈ result.record,
    r.scoreBefore = result.analysis.score ∧ r.scoreAfter = result.scoreAfter
  filesTotal : ∀ r ∈ result.record, r.filesTotal = result.files.size
  archiveRef : ∀ r ∈ result.record, r.archiveRef = result.archiveRef

theorem exists_leaves (h : (perform k s source o).result = .ok result) :
    ∃ ms, packed? k s source o = some ms ∧
      Leaves k s result (Zip.write ms) (perform k s source o).session := by
  obtain ⟨r, a, c, finished, ms, hs, hanalysis, hfiles, hscore, s', hstore, hrecord⟩ :=
    exists_stages_recorded h
  obtain ⟨href, hidentity, hidentifiers, hput⟩ := Desk.store_eq_ok hstore
  obtain ⟨hidentity', hidentifiers', hrecorded⟩ := Completion.record_eq hrecord
  have hsays : ∀ q ∈ result.record, ∃ run now, q =
      Completion.recordOf (named o source) a result.projectName finished result.archiveRef run
        now := by
    rcases hrecorded with ⟨hnone, -⟩ | ⟨now, hsome, -⟩
    · rw [hnone]
      exact fun q hq => nomatch hq
    · rw [hsome]
      rintro q ⟨⟩
      exact ⟨_, now, rfl⟩
  refine ⟨ms, hs.packed?_eq, hidentity'.trans hidentity, ?_, href, ⟨s'.disk, hput, ?_⟩, ?_, ?_, ?_⟩
  · rw [hidentifiers', hidentifiers]
    rfl
  · rcases hrecorded with ⟨hnone, hdisk⟩ | ⟨now, hsome, hinsert⟩
    · exact Or.inl ⟨hnone, hdisk⟩
    · exact Or.inr ⟨_, hsome, hinsert⟩
  · intro q hq
    obtain ⟨run, now, rfl⟩ := hsays q hq
    rw [hanalysis, hscore]
    exact ⟨rfl, rfl⟩
  · intro q hq
    obtain ⟨run, now, rfl⟩ := hsays q hq
    rw [hfiles]
    rfl
  · intro q hq
    obtain ⟨run, now, rfl⟩ := hsays q hq
    rfl

end Run

end Decouple
