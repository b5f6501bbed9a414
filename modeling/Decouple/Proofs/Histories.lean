import Decouple.Proofs.DataFolders
import Decouple.Proofs.Outcomes

/-!
# Archives and records over any history

Runs and deletions share a data folder.  What is kept in it through a history is attributed to the
runs: an archive is what one of them has put, and a record is that of a run whose archive is still
there (`Kept`, `Attributed`).  Each errand preserves this, so any number of them does
(`history_step`, `history_foldl`).
-/

namespace Decouple

/-- What a run with a result has put. -/
structure Deposit where
  result : RunResult
  archive : Bytes

/-- The reference of what was put. -/
def Deposit.ref (x : Deposit) : Text := x.result.archiveRef

variable {folder ref : Text} {place : List Text} {d e f : Disk} {bytes : Bytes}
  {book : List Record} {s s' : Session} {k : Desk} {source : Source} {o : RunOptions}
  {result : RunResult} {deposits : List Deposit} {x : Deposit}

/-! ## Identifiers -/

/-- The identifiers given out so far are different texts of thirty-two hexadecimal digits. -/
structure Session.HasFreshIdentifiers (s : Session) : Prop where
  length : ∀ i < s.identifiers, (s.identity i).length = 32
  digits : ∀ i < s.identifiers, (s.identity i).all Archives.isDigit = true
  distinct : ∀ i < s.identifiers, ∀ j < s.identifiers, s.identity i = s.identity j → i = j

theorem Session.HasFreshIdentifiers.mono (h : s'.HasFreshIdentifiers)
    (hidentity : s'.identity = s.identity) (hle : s.identifiers ≤ s'.identifiers) :
    s.HasFreshIdentifiers where
  length i hi := hidentity ▸ h.length i (Nat.lt_of_lt_of_le hi hle)
  digits i hi := hidentity ▸ h.digits i (Nat.lt_of_lt_of_le hi hle)
  distinct i hi j hj heq := h.distinct i (Nat.lt_of_lt_of_le hi hle) j (Nat.lt_of_lt_of_le hj hle)
    (by rw [hidentity, heq])

/-- A reference stays as it is when it is recorded and read back. -/
theorem joined_of_digits (h : ref.all Archives.isDigit = true) : ref.joined = ref := by
  refine Text.joined_eq_self fun c hc => ?_
  have hdigit := List.all_eq_true.1 h c hc
  simp only [Archives.isDigit, CodePoint.isDigit, Bool.or_eq_true, Bool.and_eq_true,
    decide_eq_true_eq] at hdigit
  simp only [CodePoint.isSurrogate, Bool.and_eq_false_iff, decide_eq_false_iff_not]
  omega

/-! ## What is kept on the disk -/

/-- The archives on a disk are deposits, and its ledger holds a book. -/
structure Kept (folder : Text) (place : List Text) (d : Disk) (deposits : List Deposit)
    (book : List Record) : Prop where
  has_folder : ∃ e, HasFolder folder place d e
  located : ∀ x ∈ deposits,
    d.locate (Archives.path (archivesIn folder) x.ref) = .ok (archivePlace place x.ref)
  files : ∀ ref bytes, d.file? (archivePlace place ref) = some bytes ↔
    ∃ x ∈ deposits, x.ref = ref ∧ x.archive = bytes
  ledger : LedgerHolds folder place d book

namespace Kept

/-- An archive is got exactly when it was deposited. -/
theorem get?_iff (h : Kept folder place d deposits book)
    (hrefs : ∀ x ∈ deposits, Archives.isReference x.ref = true) :
    Archives.get? d (archivesIn folder) ref = some bytes ↔
      ∃ x ∈ deposits, x.ref = ref ∧ x.archive = bytes := by
  obtain ⟨e, he⟩ := h.has_folder
  rw [Archives.get?]
  split
  · next href =>
    rw [Step.toOption_eq_some, Disk.read_eq_ok]
    constructor
    · rintro ⟨other, hother, -, hfile⟩
      rw [he.locate_archive href hother] at hfile
      exact (h.files ref bytes).1 hfile
    · rintro ⟨x, hx, rfl, rfl⟩
      refine ⟨_, h.located x hx, Bool.eq_false_iff.2 fun hfolder => ?_,
        (h.files _ _).2 ⟨x, hx, rfl, rfl⟩⟩
      have hmade := he.grows.folders _ hfolder
      rw [he.archive_file] at hmade
      cases hmade
  · next href =>
    refine iff_of_false (by simp) ?_
    rintro ⟨x, hx, rfl, -⟩
    exact href (hrefs x hx)

theorem deposit (h : Kept folder place d deposits book)
    (hf : Deposited folder place d f x.ref x.archive) (hnew : ∀ y ∈ deposits, y.ref ≠ x.ref) :
    Kept folder place f (deposits ++ [x]) book := by
  obtain ⟨g, hgrows, rfl⟩ := hf.grown
  refine ⟨⟨_, hf.has_folder⟩, ?_, fun ref bytes => ?_, h.ledger.deposited hf⟩
  · rw [List.forall_mem_append, List.forall_mem_singleton]
    refine ⟨fun y hy => (Disk.locate_putAt ..).2 ?_, hf.located⟩
    exact Disk.locate_mono hgrows.folders hgrows.home (h.located y hy)
  · rw [Disk.file?_putAt, hgrows.file?]
    simp only [List.mem_append, List.mem_singleton, or_and_right, exists_or, exists_eq_left,
      ← h.files ref bytes]
    by_cases href : ref = x.ref
    · subst href
      have hnone : d.file? (archivePlace place x.ref) = none := by
        refine Option.eq_none_iff_forall_ne_some.2 fun b hb => ?_
        obtain ⟨y, hy, heq, -⟩ := (h.files _ _).1 hb
        exact hnew y hy heq
      simp [hnone]
    · have hne : archivePlace place ref ≠ archivePlace place x.ref := fun heq =>
        href (archivePlace_injective heq)
      simp [hne, Ne.symm href]

theorem rewrite {book' : List Record} (h : Kept folder place d deposits book)
    (hf : Rewritten folder place d f) (hholds : Ledger.Holds f (ledgerIn folder) book') :
    Kept folder place f deposits book' where
  has_folder := ⟨f, hf.has_folder⟩
  located x hx := Disk.locate_mono hf.keeps hf.home (h.located x hx)
  files ref bytes := by rw [hf.archives, h.files]
  ledger := ledgerHolds_of_holds hholds hf.located

/-- What a run with a result leaves is kept. -/
theorem run (h : Kept folder place s.disk deposits book) (hk : k.IsIn folder)
    (hleaves : Run.Leaves k s result bytes s')
    (href : Archives.isReference result.archiveRef = true)
    (hnew : ∀ y ∈ deposits, y.ref ≠ result.archiveRef) :
    Kept folder place s'.disk (deposits ++ [⟨result, bytes⟩])
      (book ++ (result.record.map Record.joined).toList) := by
  obtain ⟨e, he⟩ := h.has_folder
  obtain ⟨d, hput, hdisk⟩ := hleaves.disks
  rw [hk.archives] at hput
  have hdeposited := deposited_of_put he href hput
  have hkept := @deposit _ _ _ _ _ _ ⟨result, bytes⟩ h hdeposited hnew
  rcases hdisk with ⟨hnone, hdisk⟩ | ⟨r, hsome, hinsert⟩
  · rw [hnone, hdisk]
    simpa using hkept
  · rw [hk.ledger] at hinsert
    rw [hsome]
    exact hkept.rewrite (rewritten_of_insert hdeposited.has_folder hinsert)
      (Ledger.holds_insert (hkept.ledger.holds hdeposited.has_folder) hinsert)

/-- Deleting keeps the archives. -/
theorem delete {run owner : Text} {removed : Bool} (h : Kept folder place d deposits book)
    (hdelete : Ledger.delete d (ledgerIn folder) run owner = .ok (removed, f)) :
    Kept folder place f deposits (Ledger.without run owner book) := by
  obtain ⟨e, he⟩ := h.has_folder
  rcases rewritten_of_delete he h.ledger hdelete with ⟨rfl, hsame⟩ | hf
  · rw [hsame]
    exact h
  · exact h.rewrite hf (Ledger.holds_delete (h.ledger.holds he) hdelete).1

end Kept

/-! ## Errands -/

/-- What is done with a data folder: a run, or deleting the records of a run of an owner. -/
inductive Errand where
  | run (k : Desk) (source : Source) (o : RunOptions)
  | delete (run owner : Text)

/-- Delete the records of a run of an owner in a session. -/
def Session.deleteRecords (folder : Text) (s : Session) (run owner : Text) : Session :=
  match Ledger.delete s.disk (ledgerIn folder) run owner with
  | .ok (_, disk) => { s with disk }
  | .error _ => s

/-- Deleting records leaves the session as it is but for the disk. -/
theorem Session.deleteRecords_cases (folder : Text) (s : Session) (run owner : Text) :
    s.deleteRecords folder run owner = s ∨
      ∃ removed disk, Ledger.delete s.disk (ledgerIn folder) run owner = .ok (removed, disk) ∧
        s.deleteRecords folder run owner = { s with disk } := by
  unfold deleteRecords
  cases Ledger.delete s.disk (ledgerIn folder) run owner with
  | error e => exact Or.inl rfl
  | ok answer => exact Or.inr ⟨answer.1, answer.2, rfl, rfl⟩

namespace Errand

/-- Whether an errand uses a data folder. -/
def IsIn (folder : Text) : Errand → Prop
  | run k _ _ => k.IsIn folder
  | delete .. => True

/-- The session after an errand, and what has been put so far: a run with a result puts the members
that it packs, under the reference in its result. -/
def step (folder : Text) (h : Session × List Deposit) : Errand → Session × List Deposit
  | run k source o =>
    let ran := Run.perform k h.1 source o
    match ran.result with
    | .ok result =>
      (ran.session, h.2 ++ [⟨result, ((Run.packed? k h.1 source o).map Zip.write).getD []⟩])
    | .error _ => (ran.session, h.2)
  | delete runId owner => (h.1.deleteRecords folder runId owner, h.2)

/-- The session after errands, and what has been put. -/
def after (folder : Text) (s : Session) (qs : List Errand) : Session × List Deposit :=
  qs.foldl (step folder) (s, [])

theorem step_run_ok {h : Session × List Deposit} {ms : List Zip.Member}
    (hrun : (Run.perform k h.1 source o).result = .ok result)
    (hpacked : Run.packed? k h.1 source o = some ms) :
    step folder h (run k source o) =
      ((Run.perform k h.1 source o).session, h.2 ++ [⟨result, Zip.write ms⟩]) := by
  simp only [step, hrun, hpacked, Option.map_some, Option.getD_some]

theorem step_run_error {h : Session × List Deposit} {e : RunError}
    (hrun : (Run.perform k h.1 source o).result = .error e) :
    step folder h (run k source o) = ((Run.perform k h.1 source o).session, h.2) := by
  simp only [step, hrun]

theorem session_step_run (folder : Text) (h : Session × List Deposit) :
    (step folder h (run k source o)).1 = (Run.perform k h.1 source o).session := by
  cases hrun : (Run.perform k h.1 source o).result with
  | ok result =>
    obtain ⟨ms, hpacked, -⟩ := Run.exists_leaves hrun
    rw [step_run_ok hrun hpacked]
  | error e => rw [step_run_error hrun]

theorem step_delete (h : Session × List Deposit) (runId owner : Text) :
    step folder h (delete runId owner) = (h.1.deleteRecords folder runId owner, h.2) := rfl

/-! ## What is attributed to runs -/

/-- What has been put has identifiers of the session as references, and each record in the book is
that of a run. -/
structure Attributed (s : Session) (deposits : List Deposit) (book : List Record) : Prop where
  given : ∀ x ∈ deposits, ∃ i < s.identifiers, s.identity i = x.ref
  refs : (deposits.map Deposit.ref).Nodup
  records : ∀ r ∈ book, ∃ x ∈ deposits, x.result.record.map Record.joined = some r
  archiveRefs : ∀ x ∈ deposits, ∀ r ∈ x.result.record, r.archiveRef = x.ref

/-- A data folder whose archives and records are attributed to what has been put. -/
def History (folder : Text) (place : List Text) (h : Session × List Deposit) : Prop :=
  ∃ book, Kept folder place h.1.disk h.2 book ∧ Attributed h.1 h.2 book

theorem Attributed.isReference (h : Attributed s deposits book) (hfresh : s.HasFreshIdentifiers) :
    ∀ x ∈ deposits, Archives.isReference x.ref = true := by
  intro x hx
  obtain ⟨i, hi, hi'⟩ := h.given x hx
  rw [← hi']
  exact isReference_of_digits (hfresh.length i hi) (hfresh.digits i hi)

/-- An archive is got exactly when it was put. -/
theorem Attributed.get?_iff (h : Attributed s deposits book)
    (hkept : Kept folder place s.disk deposits book) (hfresh : s.HasFreshIdentifiers)
    (ref : Text) (bytes : Bytes) :
    Archives.get? s.disk (archivesIn folder) ref = some bytes ↔
      ∃ x ∈ deposits, x.ref = ref ∧ x.archive = bytes :=
  hkept.get?_iff (h.isReference hfresh)

/-- After one more deposit, its archive is got under its reference, and nothing else changes. -/
theorem Attributed.get?_concat {book' : List Record} (h : Attributed s deposits book)
    (h' : Attributed s' (deposits ++ [x]) book') (hkept : Kept folder place s.disk deposits book)
    (hkept' : Kept folder place s'.disk (deposits ++ [x]) book') (hfresh : s.HasFreshIdentifiers)
    (hfresh' : s'.HasFreshIdentifiers) (hnew : ∀ y ∈ deposits, y.ref ≠ x.ref) (ref : Text) :
    Archives.get? s'.disk (archivesIn folder) ref =
      if ref = x.ref then some x.archive else Archives.get? s.disk (archivesIn folder) ref := by
  refine Option.ext fun bytes => ?_
  rw [h'.get?_iff hkept' hfresh']
  simp only [List.mem_append, List.mem_singleton, or_and_right, exists_or, exists_eq_left]
  split
  · next href =>
    have hnone : ¬∃ y ∈ deposits, y.ref = ref ∧ y.archive = bytes := by
      rintro ⟨y, hy, heq, -⟩
      exact hnew y hy (heq.trans href)
    rw [or_iff_right hnone, Option.some.injEq]
    exact and_iff_right href.symm
  · next href =>
    rw [h.get?_iff hkept hfresh]
    exact or_iff_left fun hlast => href hlast.1.symm

theorem Attributed.mono {book' : List Record} (h : Attributed s deposits book)
    (hidentity : s'.identity = s.identity) (hle : s.identifiers ≤ s'.identifiers)
    (hbook : ∀ r ∈ book', r ∈ book) : Attributed s' deposits book' where
  given x hx := by
    obtain ⟨i, hi, hi'⟩ := h.given x hx
    exact ⟨i, Nat.lt_of_lt_of_le hi hle, hidentity ▸ hi'⟩
  refs := h.refs
  records r hr := h.records r (hbook r hr)
  archiveRefs := h.archiveRefs

/-- The reference of a run is new. -/
theorem Attributed.ref_ne (h : Attributed s deposits book) (hfresh : s'.HasFreshIdentifiers)
    (hleaves : Run.Leaves k s result bytes s') : ∀ y ∈ deposits, y.ref ≠ result.archiveRef := by
  intro y hy heq
  obtain ⟨i, hi, hi'⟩ := h.given y hy
  have hnow : s.identifiers < s'.identifiers := by
    rw [hleaves.identifiers]
    omega
  have hsame : s'.identity i = s'.identity s.identifiers := by
    rw [hleaves.identity, hi', heq, hleaves.ref]
  have := hfresh.distinct i (Nat.lt_trans hi hnow) s.identifiers hnow hsame
  omega

theorem Attributed.run (h : Attributed s deposits book) (hfresh : s'.HasFreshIdentifiers)
    (hleaves : Run.Leaves k s result bytes s') :
    Attributed s' (deposits ++ [⟨result, bytes⟩])
      (book ++ (result.record.map Record.joined).toList) where
  given := by
    rw [List.forall_mem_append, List.forall_mem_singleton, hleaves.identity, hleaves.identifiers]
    refine ⟨fun x hx => ?_, s.identifiers, by omega, hleaves.ref.symm⟩
    obtain ⟨i, hi, hi'⟩ := h.given x hx
    exact ⟨i, by omega, hi'⟩
  refs := by
    rw [List.map_append, List.map_singleton]
    refine List.Nodup.append h.refs (List.nodup_singleton _) ?_
    rw [List.disjoint_singleton]
    intro hmem
    obtain ⟨y, hy, heq⟩ := List.mem_map.1 hmem
    exact h.ref_ne hfresh hleaves y hy heq
  records r hr := by
    rcases List.mem_append.1 hr with hr | hr
    · obtain ⟨x, hx, hrecord⟩ := h.records r hr
      exact ⟨x, List.mem_append_left _ hx, hrecord⟩
    · rw [Option.mem_toList] at hr
      exact ⟨_, List.mem_append_right _ (List.mem_singleton_self _), hr⟩
  archiveRefs := by
    rw [List.forall_mem_append, List.forall_mem_singleton]
    exact ⟨h.archiveRefs, hleaves.archiveRef⟩

/-! ## One errand and any number of them -/

theorem identifiers_step (folder : Text) (h : Session × List Deposit) (q : Errand) :
    (step folder h q).1.identity = h.1.identity ∧
      h.1.identifiers ≤ (step folder h q).1.identifiers := by
  cases q with
  | run k source o =>
    cases hrun : (Run.perform k h.1 source o).result with
    | ok result =>
      obtain ⟨ms, hpacked, hleaves⟩ := Run.exists_leaves hrun
      rw [step_run_ok hrun hpacked]
      exact ⟨hleaves.identity, by rw [hleaves.identifiers]; omega⟩
    | error e =>
      have huntouched := Run.untouched_of_error hrun
      rw [step_run_error hrun]
      exact ⟨huntouched.identity, huntouched.identifiers⟩
  | delete run owner =>
    rw [step_delete]
    rcases h.1.deleteRecords_cases folder run owner with hsame | ⟨removed, disk, -, hsame⟩
    · rw [hsame]
      exact ⟨rfl, Nat.le_refl _⟩
    · rw [hsame]
      exact ⟨rfl, Nat.le_refl _⟩

theorem identifiers_foldl (folder : Text) (h : Session × List Deposit) (qs : List Errand) :
    (qs.foldl (step folder) h).1.identity = h.1.identity ∧
      h.1.identifiers ≤ (qs.foldl (step folder) h).1.identifiers := by
  induction qs generalizing h with
  | nil => exact ⟨rfl, Nat.le_refl _⟩
  | cons q qs ih =>
    obtain ⟨hidentity, hle⟩ := identifiers_step folder h q
    obtain ⟨hidentity', hle'⟩ := ih (step folder h q)
    exact ⟨hidentity'.trans hidentity, Nat.le_trans hle hle'⟩

/-- What one errand keeps. -/
theorem history_step {h : Session × List Deposit} {q : Errand} (hh : History folder place h)
    (hq : q.IsIn folder) (hfresh : (step folder h q).1.HasFreshIdentifiers) :
    History folder place (step folder h q) := by
  obtain ⟨book, hkept, hattributed⟩ := hh
  cases q with
  | run k source o =>
    cases hrun : (Run.perform k h.1 source o).result with
    | ok result =>
      obtain ⟨ms, hpacked, hleaves⟩ := Run.exists_leaves hrun
      rw [step_run_ok hrun hpacked] at hfresh ⊢
      have hbook := hattributed.run hfresh hleaves
      have href := hbook.isReference hfresh _ (List.mem_append_right _ (List.mem_singleton_self _))
      exact ⟨_, hkept.run hq hleaves href (hattributed.ref_ne hfresh hleaves), hbook⟩
    | error e =>
      have huntouched := Run.untouched_of_error hrun
      rw [step_run_error hrun]
      refine ⟨book, ?_, hattributed.mono huntouched.identity huntouched.identifiers fun _ hr => hr⟩
      rw [huntouched.disk]
      exact hkept
  | delete run owner =>
    rw [step_delete]
    rcases h.1.deleteRecords_cases folder run owner with hsame | ⟨removed, disk, hdelete, hsame⟩
    · rw [hsame]
      exact ⟨book, hkept, hattributed⟩
    · rw [hsame]
      exact ⟨_, hkept.delete hdelete, hattributed.mono rfl (Nat.le_refl _) fun r hr =>
        (List.mem_filter.1 hr).1⟩

/-- What any number of errands keep. -/
theorem history_foldl {h : Session × List Deposit} {qs : List Errand} (hh : History folder place h)
    (hqs : ∀ q ∈ qs, q.IsIn folder)
    (hfresh : (qs.foldl (step folder) h).1.HasFreshIdentifiers) :
    History folder place (qs.foldl (step folder) h) := by
  induction qs generalizing h with
  | nil => exact hh
  | cons q qs ih =>
    rw [List.forall_mem_cons] at hqs
    obtain ⟨hidentity, hle⟩ := identifiers_foldl folder (step folder h q) qs
    exact ih (history_step hh hqs.1 (hfresh.mono hidentity hle)) hqs.2 hfresh

/-! ## Consistency -/

/-- A folder that is there, or can be made, and is empty then. -/
def IsEmptyFolder (d : Disk) (folder : Text) : Prop :=
  ∃ e place, d.makeFolders folder = .ok e ∧ e.locate folder = .ok place ∧
    e.isFolder place = true ∧
    ∀ names, names ≠ [] → e.isFolder (place ++ names) = false ∧ e.file? (place ++ names) = none

theorem exists_history (h : IsEmptyFolder s.disk folder) :
    ∃ place, History folder place (s, []) := by
  obtain ⟨e, place, hmade, hlocated, hfolder, hempty⟩ := h
  have hfile (names : List Text) (hne : names ≠ []) : s.disk.file? (place ++ names) = none := by
    rw [← (Disk.grows_of_makeFolders hmade).file?]
    exact (hempty names hne).2
  have hhas : HasFolder folder place s.disk e :=
    ⟨hmade, hlocated, hfolder, (hempty _ (by simp)).1, fun ref => (hempty _ (by simp)).1⟩
  refine ⟨place, [], ⟨⟨e, hhas⟩, by simp, fun ref bytes => ?_, Or.inl ⟨?_, rfl⟩⟩, by simp, by simp,
    by simp, by simp⟩
  · simp [archivePlace, hfile]
  · exact hfile _ (by simp)

/-- What can be got from a data folder, and what is recorded in it, are due to what runs have put:
each archive under the reference of its run, each record beside the archive of its run, which still
has the bytes that the run put. -/
structure IsConsistent (folder : Text) (s : Session) (deposits : List Deposit) : Prop where
  archives : ∀ ref bytes, Archives.get? s.disk (archivesIn folder) ref = some bytes ↔
    ∃ x ∈ deposits, x.ref = ref ∧ x.archive = bytes
  refs : (deposits.map Deposit.ref).Nodup
  records : ∃ book, Ledger.records s.disk (ledgerIn folder) = .ok book ∧
    ∀ r ∈ book, ∃ x ∈ deposits, x.result.record.map Record.joined = some r ∧
      r.archiveRef = x.ref ∧
      Archives.get? s.disk (archivesIn folder) r.archiveRef = some x.archive

/-- A session has the archives and the records of another one. -/
structure SameContents (folder : Text) (s s' : Session) : Prop where
  archives : ∀ ref, Archives.get? s'.disk (archivesIn folder) ref =
    Archives.get? s.disk (archivesIn folder) ref
  records : Ledger.records s'.disk (ledgerIn folder) = Ledger.records s.disk (ledgerIn folder)

/-- A session has one archive more than another one, under the reference in a result, and the record
in the result, if there is one, which says what the result says. -/
structure OneMore (folder : Text) (s s' : Session) (result : RunResult) (archive : Bytes) :
    Prop where
  new : Archives.get? s.disk (archivesIn folder) result.archiveRef = none
  archives : ∀ ref, Archives.get? s'.disk (archivesIn folder) ref =
    if ref = result.archiveRef then some archive
    else Archives.get? s.disk (archivesIn folder) ref
  records : ∃ book, Ledger.records s.disk (ledgerIn folder) = .ok book ∧
    Ledger.records s'.disk (ledgerIn folder) =
      .ok (book ++ (result.record.map Record.joined).toList)
  scores : ∀ r ∈ result.record,
    r.scoreBefore = result.analysis.score ∧ r.scoreAfter = result.scoreAfter
  filesTotal : ∀ r ∈ result.record, r.filesTotal = result.files.size
  archiveRef : ∀ r ∈ result.record, r.archiveRef = result.archiveRef

theorem History.isConsistent {h : Session × List Deposit} (hh : History folder place h)
    (hfresh : h.1.HasFreshIdentifiers) : IsConsistent folder h.1 h.2 := by
  obtain ⟨book, hkept, hattributed⟩ := hh
  obtain ⟨e, he⟩ := hkept.has_folder
  have hget := hattributed.get?_iff hkept hfresh
  refine ⟨hget, hattributed.refs, book, Ledger.records_of_holds (hkept.ledger.holds he),
    fun r hr => ?_⟩
  obtain ⟨x, hx, hrecord⟩ := hattributed.records r hr
  obtain ⟨q, hq, rfl⟩ := Option.map_eq_some_iff.1 hrecord
  have href : q.joined.archiveRef = x.ref := by
    obtain ⟨i, hi, hi'⟩ := hattributed.given x hx
    have hjoined := joined_of_digits (hfresh.digits i hi)
    rw [hi', ← hattributed.archiveRefs x hx q hq] at hjoined
    rw [← hattributed.archiveRefs x hx q hq]
    exact hjoined
  exact ⟨x, hx, hrecord, href, (hget _ _).2 ⟨x, hx, href.symm, rfl⟩⟩

/-- A run that ends early adds nothing. -/
theorem sameContents_of_error {e : RunError} (hrun : (Run.perform k s source o).result = .error e) :
    SameContents folder s (Run.perform k s source o).session := by
  have hdisk := (Run.untouched_of_error hrun).disk
  exact ⟨fun ref => by rw [hdisk], by rw [hdisk]⟩

/-- A run with a result adds one archive and what it has recorded. -/
theorem History.oneMore {h : Session × List Deposit} (hh : History folder place h)
    (hk : k.IsIn folder) (hrun : (Run.perform k h.1 source o).result = .ok result)
    (hfresh : (Run.perform k h.1 source o).session.HasFreshIdentifiers) :
    ∃ ms, Run.packed? k h.1 source o = some ms ∧
      OneMore folder h.1 (Run.perform k h.1 source o).session result (Zip.write ms) := by
  obtain ⟨ms, hpacked, hleaves⟩ := Run.exists_leaves hrun
  obtain ⟨book, hkept, hattributed⟩ := hh
  have hfresh' : h.1.HasFreshIdentifiers :=
    hfresh.mono hleaves.identity (by rw [hleaves.identifiers]; omega)
  have hattributed' := hattributed.run hfresh hleaves
  have hnew := hattributed.ref_ne hfresh hleaves
  have hkept' := hkept.run hk hleaves
    (hattributed'.isReference hfresh _ (List.mem_append_right _ (List.mem_singleton_self _))) hnew
  obtain ⟨e, he⟩ := hkept.has_folder
  obtain ⟨e', he'⟩ := hkept'.has_folder
  refine ⟨ms, hpacked, ?_, fun ref => ?_, ⟨book, Ledger.records_of_holds (hkept.ledger.holds he),
    Ledger.records_of_holds (hkept'.ledger.holds he')⟩, hleaves.scores, hleaves.filesTotal,
    hleaves.archiveRef⟩
  · refine Option.eq_none_iff_forall_ne_some.2 fun bytes hbytes => ?_
    obtain ⟨y, hy, heq, -⟩ := (hattributed.get?_iff hkept hfresh' _ _).1 hbytes
    exact hnew y hy heq
  · exact hattributed.get?_concat hattributed' hkept hkept' hfresh' hfresh hnew ref

/-- Archives and records stay consistent over any errands in a data folder that was empty: a run
that ends early adds nothing, and a run with a result adds one archive and at most one record. -/
theorem consistent_after (h : IsEmptyFolder s.disk folder) (qs : List Errand)
    (hqs : ∀ q ∈ qs, q.IsIn folder) (hfresh : (after folder s qs).1.HasFreshIdentifiers) :
    IsConsistent folder (after folder s qs).1 (after folder s qs).2 ∧
    ∀ earlier k source o, earlier ++ [run k source o] <+: qs →
      (∀ e, (Run.perform k (after folder s earlier).1 source o).result = .error e →
        SameContents folder (after folder s earlier).1
          (Run.perform k (after folder s earlier).1 source o).session) ∧
      ∀ result, (Run.perform k (after folder s earlier).1 source o).result = .ok result →
        ∃ ms, Run.packed? k (after folder s earlier).1 source o = some ms ∧
          OneMore folder (after folder s earlier).1
            (Run.perform k (after folder s earlier).1 source o).session result (Zip.write ms) := by
  obtain ⟨place, hstart⟩ := exists_history h
  refine ⟨History.isConsistent (history_foldl hstart hqs hfresh) hfresh, ?_⟩
  rintro earlier k source o ⟨rest, rfl⟩
  rw [List.forall_mem_append, List.forall_mem_append, List.forall_mem_singleton] at hqs
  have hran : (Run.perform k (after folder s earlier).1 source o).session.HasFreshIdentifiers := by
    have hrest := identifiers_foldl folder (step folder (after folder s earlier) (run k source o))
      rest
    rw [after, List.foldl_append, List.foldl_append] at hfresh
    rw [← session_step_run folder]
    exact hfresh.mono hrest.1 hrest.2
  have hearlier : (after folder s earlier).1.HasFreshIdentifiers := by
    have hlast := identifiers_step folder (after folder s earlier) (run k source o)
    rw [session_step_run] at hlast
    exact hran.mono hlast.1 hlast.2
  have hhistory : History folder place (after folder s earlier) :=
    history_foldl hstart hqs.1.1 hearlier
  exact ⟨fun e hrun => sameContents_of_error hrun,
    fun result hrun => hhistory.oneMore hqs.1.2 hrun hran⟩

/-- One run on a disk without a data folder. -/
theorem oneRun_consistent :
    IsConsistent ".liberator" (after ".liberator" {} [run Run.plainDesk (.bytes Run.oneFile) {}]).1
      (after ".liberator" {} [run Run.plainDesk (.bytes Run.oneFile) {}]).2 ∧
    ∃ result ms, (Run.perform Run.plainDesk {} (.bytes Run.oneFile) {}).result = .ok result ∧
      OneMore ".liberator" {} (Run.perform Run.plainDesk {} (.bytes Run.oneFile) {}).session result
        (Zip.write ms) := by
  obtain ⟨result, hrun⟩ := Run.exists_run_oneFile
  have hempty : IsEmptyFolder ({} : Session).disk ".liberator" := by
    refine ⟨{ folders := [[".liberator"]] }, [".liberator"], rfl, rfl, rfl,
      fun names hne => ⟨?_, rfl⟩⟩
    simp [Disk.isFolder, hne]
  have hin : Run.plainDesk.IsIn ".liberator" := Desk.isIn_ofSettings {}
  have htwo {s : Session} (hidentity : s.identity = ({} : Session).identity)
      (hcount : s.identifiers = 2) : s.HasFreshIdentifiers := by
    constructor
    all_goals
      rw [hidentity, hcount]
      decide
  have hfresh : (after ".liberator" {}
      [run Run.plainDesk (.bytes Run.oneFile) {}]).1.HasFreshIdentifiers := by
    obtain ⟨ms, -, hleaves⟩ := Run.exists_leaves hrun
    have hran := htwo hleaves.identity hleaves.identifiers
    rw [after, List.foldl_cons, List.foldl_nil, session_step_run]
    exact hran
  have hall := consistent_after hempty [run Run.plainDesk (.bytes Run.oneFile) {}]
    (List.forall_mem_singleton.2 hin) hfresh
  have hsteps := hall.2 [] Run.plainDesk (.bytes Run.oneFile) {} (List.prefix_refl _)
  rw [after, List.foldl_nil] at hsteps
  obtain ⟨ms, -, hmore⟩ := hsteps.2 result hrun
  exact ⟨hall.1, result, ms, hrun, hmore⟩

end Errand

end Decouple
