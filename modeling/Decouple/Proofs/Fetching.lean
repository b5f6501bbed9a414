import Decouple.Proofs.Snapshots
import Decouple.Proofs.Traversal
import Decouple.Retrieval.Fetch
import Mathlib.Algebra.Order.Floor.Div

/-!
# What a fetch accounts for

Every file of a listing has its turn, in which it is tried until an attempt succeeds, no attempt is
left, or one comes to a fault that no other attempt can mend.  The turns follow from the listing
and the replies alone: batches cut the listing, and put together again they are the listing
(`flatMap_batchStarts`), so that a loop over batches comes to what the turns come to
(`fetchBatches_eq`).

A fetch then accounts for every file (`Accounts`) and does not depend on the size of its batches,
exactly when no turn breaks off (`fetch_accounts_iff`).  A turn that breaks off ends the whole fetch
(`result_fetchBatches_of_breaks`), although only its file cannot be obtained.
-/

namespace Decouple

/-- The settings with another size of batches. -/
def Settings.withBatchSize (s : Settings) (n : Int) : Settings :=
  { s with retrieval := { s.retrieval with batchSize := n } }

namespace Hosting

/-! ## Attempts -/

/-- Whether an attempt failed, so that another may follow. -/
def Attempt.fails (a : Attempt) : Bool :=
  match a.outcome with
  | .ok none => true
  | _ => false

theorem Attempt.fails_iff {a : Attempt} : a.fails = true ↔ a.outcome = .ok none := by
  unfold fails
  split <;> simp_all

/-- A file's turn: the file, and the requests that are sent before its first attempt. -/
structure Turn where
  file : ListedFile
  earlier : List Text

namespace Turn

variable (host : Host) (s : Settings) (r : Repository)

/-- The requests that are sent before the attempt with `n` others in front of it. -/
def sentBefore (f : ListedFile) : Nat → List Text → List Text
  | 0, earlier => earlier
  | n + 1, earlier => sentBefore f n (earlier ++ (attempt host s r earlier f).requests)

/-- The attempt with `n` others in front of it. -/
def nth (t : Turn) (n : Nat) : Attempt :=
  attempt host s r (sentBefore host s r t.file n t.earlier) t.file

/-- The first `n` attempts fail. -/
def FailsFor (t : Turn) (n : Nat) : Prop := ∀ m < n, (t.nth host s r m).fails = true

/-- Every attempt fails. -/
def Fails (t : Turn) : Prop := t.FailsFor host s r (maxAttempts s)

/-- An attempt succeeds. -/
def Gets (t : Turn) (c : Content) : Prop :=
  ∃ n < maxAttempts s, t.FailsFor host s r n ∧ (t.nth host s r n).outcome = .ok (some c)

/-- An attempt comes to a fault that no other can mend: its address is none, or the reply nests
too deep. -/
def Breaks (t : Turn) (f : RequestFault) : Prop :=
  ∃ n < maxAttempts s, t.FailsFor host s r n ∧ (t.nth host s r n).outcome = .error f ∧
    f.isFinal = true

instance (t : Turn) : Decidable (t.Fails host s r) := by
  unfold Fails FailsFor
  infer_instance

/-- What a turn comes to. -/
def fetch (t : Turn) : FileFetch := fetchFile host s r t.earlier t.file

end Turn

section Attempts

variable {host : Host} {s : Settings} {r : Repository} {f : ListedFile} {reply : Reply}
  {fault : RequestFault} {earlier sent : List Text}

theorem isFinal_of_json? (h : reply.json? = .error fault) : fault.isFinal = true := by
  unfold Reply.json? at h
  split at h
  · split at h
    · split at h <;> cases h
      rfl
    · cases h
  · cases h

theorem isFinal_of_faulty {fault' : RequestFault}
    (h : (Attempt.faulty sent fault').outcome = .error fault) : fault.isFinal = true := by
  unfold Attempt.faulty at h
  split at h
  · next hfinal =>
    cases h
    exact hfinal
  · cases h

theorem isFinal_of_readContent (h : readContent reply = .stop fault) : fault.isFinal = true := by
  unfold readContent at h
  split at h
  · cases h
  · split at h
    · next hjson =>
      cases h
      exact isFinal_of_json? hjson
    · cases h
    · split at h
      · cases h
      · split at h <;> cases h

theorem isFinal_of_attemptBlob
    (h : (attemptBlob host s r earlier sent f).outcome = .error fault) : fault.isFinal = true := by
  unfold attemptBlob at h
  split at h
  · cases h
  · split at h
    · exact isFinal_of_faulty h
    · dsimp only at h
      split at h
      · exact isFinal_of_faulty h
      · next reply _ =>
        cases hjson : reply.json? with
        | error fault' =>
          rw [readBlob, hjson] at h
          cases h
          exact isFinal_of_json? hjson
        | ok j =>
          rw [readBlob, hjson] at h
          cases h

/-- Only a fault that no other attempt can mend ends the attempts. -/
theorem isFinal_of_attempt (h : (attempt host s r earlier f).outcome = .error fault) :
    fault.isFinal = true := by
  unfold attempt at h
  split at h
  · exact isFinal_of_faulty h
  · dsimp only at h
    split at h
    · exact isFinal_of_faulty h
    · split at h
      · cases h
      · exact isFinal_of_attemptBlob h
      · cases h
      · next hstop =>
        cases h
        exact isFinal_of_readContent hstop

end Attempts

namespace Turn

variable {host : Host} {s : Settings} {r : Repository} {t : Turn} {n : Nat}

theorem failsFor_succ (f : ListedFile) (earlier : List Text) :
    FailsFor host s r ⟨f, earlier⟩ (n + 1) ↔ (attempt host s r earlier f).fails = true ∧
      FailsFor host s r ⟨f, earlier ++ (attempt host s r earlier f).requests⟩ n := by
  constructor
  · intro h
    exact ⟨h 0 (Nat.succ_pos n), fun m hm => h (m + 1) (Nat.succ_lt_succ hm)⟩
  · rintro ⟨hfirst, hrest⟩ m hm
    cases m with
    | zero => exact hfirst
    | succ m => exact hrest m (Nat.lt_of_succ_lt_succ hm)

/-- Attempts are made until one does not fail, as long as some are left. -/
theorem attemptsFrom_cases (f : ListedFile) (left number : Nat) (earlier : List Text) :
    (FailsFor host s r ⟨f, earlier⟩ left ∧
        (attemptsFrom host s r f left number earlier).outcome = .ok none) ∨
      ∃ n < left, FailsFor host s r ⟨f, earlier⟩ n ∧
        (nth host s r ⟨f, earlier⟩ n).fails = false ∧
        (attemptsFrom host s r f left number earlier).outcome =
          (nth host s r ⟨f, earlier⟩ n).outcome := by
  induction left generalizing number earlier with
  | zero => exact .inl ⟨fun m hm => absurd hm (Nat.not_lt_zero m), rfl⟩
  | succ left ih =>
    unfold attemptsFrom
    dsimp only
    have hnow : ∀ o, (attempt host s r earlier f).outcome = o → o ≠ .ok none →
        ∃ n < left + 1, FailsFor host s r ⟨f, earlier⟩ n ∧
          (nth host s r ⟨f, earlier⟩ n).fails = false ∧
          o = (nth host s r ⟨f, earlier⟩ n).outcome := by
      intro o ho hne
      refine ⟨0, Nat.succ_pos left, fun m hm => absurd hm (Nat.not_lt_zero m), ?_, ho.symm⟩
      rw [← Bool.not_eq_true, Attempt.fails_iff]
      exact fun hnone => hne (ho.symm.trans hnone)
    split
    · next fault ho => exact .inr (hnow _ ho (by simp))
    · next c ho => exact .inr (hnow _ ho (by simp))
    · next ho =>
      have hfirst : (attempt host s r earlier f).fails = true := Attempt.fails_iff.2 ho
      split
      · next hleft =>
        subst hleft
        exact .inl ⟨(failsFor_succ f earlier).2 ⟨hfirst, fun m hm =>
          absurd hm (Nat.not_lt_zero m)⟩, rfl⟩
      · rcases ih (number + 1) (earlier ++ (attempt host s r earlier f).requests) with
          ⟨hall, hlater⟩ | ⟨n, hn, hall, hlast, hlater⟩
        · exact .inl ⟨(failsFor_succ f earlier).2 ⟨hfirst, hall⟩, hlater⟩
        · exact .inr ⟨n + 1, Nat.succ_lt_succ hn, (failsFor_succ f earlier).2 ⟨hfirst, hall⟩,
            hlast, hlater⟩

/-- The first attempt that does not fail is one and the same. -/
theorem eq_of_failsFor {m n : Nat} (hm : t.FailsFor host s r m) (hn : t.FailsFor host s r n)
    (hm' : (t.nth host s r m).fails = false) (hn' : (t.nth host s r n).fails = false) : m = n := by
  rcases lt_trichotomy m n with hlt | heq | hlt
  · rw [hn m hlt] at hm'
    cases hm'
  · exact heq
  · rw [hm n hlt] at hn'
    cases hn'

theorem fails_iff : t.Fails host s r ↔ (t.fetch host s r).outcome = .ok none := by
  rcases @attemptsFrom_cases host s r t.file (maxAttempts s) 1 t.earlier with
    ⟨hall, ho⟩ | ⟨n, hn, -, hlast, ho⟩
  · exact ⟨fun _ => ho, fun _ => hall⟩
  · constructor
    · intro h
      have hfails : (t.nth host s r n).fails = true := h n hn
      exact absurd (hlast.symm.trans hfails) Bool.false_ne_true
    · intro h
      rw [← Bool.not_eq_true, Attempt.fails_iff] at hlast
      exact absurd (ho.symm.trans h) hlast

/-- A turn comes to anything else by its first attempt that does not fail. -/
theorem outcome_eq_iff {o : Except RequestFault (Option Content)} (hne : o ≠ .ok none) :
    (t.fetch host s r).outcome = o ↔
      ∃ n < maxAttempts s, t.FailsFor host s r n ∧ (t.nth host s r n).outcome = o := by
  have hlast {n : Nat} (ho : (t.nth host s r n).outcome = o) :
      (t.nth host s r n).fails = false := by
    rw [← Bool.not_eq_true, Attempt.fails_iff]
    exact fun hnone => hne (ho.symm.trans hnone)
  rcases @attemptsFrom_cases host s r t.file (maxAttempts s) 1 t.earlier with
    ⟨hall, ho⟩ | ⟨n, hn, hall, hfails, ho⟩
  · constructor
    · intro h
      exact absurd (h.symm.trans ho) hne
    · rintro ⟨m, hm, -, hm'⟩
      have hfails : (t.nth host s r m).fails = true := hall m hm
      exact absurd ((hlast hm').symm.trans hfails) Bool.false_ne_true
  · constructor
    · intro h
      exact ⟨n, hn, hall, ho.symm.trans h⟩
    · rintro ⟨m, -, hall', hm'⟩
      obtain rfl : m = n := eq_of_failsFor hall' hall (hlast hm') hfails
      exact ho.trans hm'

theorem gets_iff {c : Content} : t.Gets host s r c ↔ (t.fetch host s r).outcome = .ok (some c) :=
  (outcome_eq_iff (by simp)).symm

theorem breaks_iff {fault : RequestFault} :
    t.Breaks host s r fault ↔ (t.fetch host s r).outcome = .error fault := by
  rw [outcome_eq_iff (by simp)]
  constructor
  · rintro ⟨n, hn, hall, ho, -⟩
    exact ⟨n, hn, hall, ho⟩
  · rintro ⟨n, hn, hall, ho⟩
    exact ⟨n, hn, hall, ho, isFinal_of_attempt ho⟩

end Turn

/-! ## Turns -/

section Turns

variable (host : Host) (s : Settings) (r : Repository)

/-- The turns of files, one after the other. -/
def turns (earlier : List Text) : List ListedFile → List Turn
  | [] => []
  | f :: rest =>
    ⟨f, earlier⟩ :: turns (earlier ++ (fetchFile host s r earlier f).requests) rest

namespace Turn

/-- The requests of a turn. -/
def requests (t : Turn) : List Text := (t.fetch host s r).requests

/-- The waits of a turn. -/
def sleeps (t : Turn) : List Delay := (t.fetch host s r).sleeps

/-- The file that a turn gets. -/
def got? (t : Turn) : Option File :=
  match (t.fetch host s r).outcome with
  | .ok (some c) => some ⟨t.file.path, c⟩
  | _ => none

/-- The fault that breaks a turn off. -/
def fault? (t : Turn) : Option RequestFault :=
  match (t.fetch host s r).outcome with
  | .error f => some f
  | .ok _ => none

end Turn

end Turns

section Turns

variable {host : Host} {s : Settings} {r : Repository} {t : Turn} {f : File}

theorem Turn.got?_eq_some :
    t.got? host s r = some f ↔ f.path = t.file.path ∧ t.Gets host s r f.content := by
  rw [Turn.gets_iff, Turn.got?]
  obtain ⟨path, content⟩ := f
  split
  · next c ho =>
    rw [ho]
    simp [eq_comm, and_comm]
  · next hno =>
    constructor
    · intro h
      cases h
    · rintro ⟨-, ho⟩
      exact absurd ho (hno content)

theorem Turn.fault?_eq_some {fault : RequestFault} :
    t.fault? host s r = some fault ↔ t.Breaks host s r fault := by
  rw [Turn.breaks_iff, Turn.fault?]
  split
  · next ho => rw [ho, Option.some.injEq, Except.error.injEq]
  · next ho => simp [ho]

variable (earlier : List Text) (files : List ListedFile)

theorem map_file_turns : (turns host s r earlier files).map Turn.file = files := by
  induction files generalizing earlier with
  | nil => rfl
  | cons f rest ih => rw [turns, List.map_cons, ih]

theorem fetchFiles_eq : fetchFiles host s r earlier files =
    (turns host s r earlier files).map (Turn.fetch host s r) := by
  induction files generalizing earlier with
  | nil => rfl
  | cons f rest ih => rw [fetchFiles, turns, List.map_cons, ih, Turn.fetch]

theorem zip_fetchFiles : files.zip (fetchFiles host s r earlier files) =
    (turns host s r earlier files).map fun t => (t.file, t.fetch host s r) := by
  rw [fetchFiles_eq]
  nth_rewrite 1 [← @map_file_turns host s r earlier files]
  rw [List.zip_map']

theorem got_fetchFiles : got files (fetchFiles host s r earlier files) =
    (turns host s r earlier files).filterMap (Turn.got? host s r) := by
  rw [got, zip_fetchFiles, List.filterMap_map]
  rfl

theorem notGot_fetchFiles : notGot files (fetchFiles host s r earlier files) =
    ((turns host s r earlier files).filter (Turn.Fails host s r)).map (·.file.path) := by
  rw [notGot, zip_fetchFiles, List.filterMap_map, ← List.filterMap_eq_filter, List.map_filterMap]
  refine List.filterMap_congr fun t _ => ?_
  simp only [Function.comp_apply]
  split
  · next ho =>
    have hfails : t.Fails host s r := Turn.fails_iff.2 ho
    simp [Option.guard, hfails]
  · next hno =>
    have hfails : ¬t.Fails host s r := fun h => hno (Turn.fails_iff.1 h)
    simp [Option.guard, hfails]

theorem fault?_fetchFiles : fault? (fetchFiles host s r earlier files) =
    (turns host s r earlier files).findSome? (Turn.fault? host s r) := by
  rw [fault?, fetchFiles_eq, List.findSome?_map]
  rfl

theorem turns_append (as bs : List ListedFile) : turns host s r earlier (as ++ bs) =
    turns host s r earlier as ++
      turns host s r
        (earlier ++ (turns host s r earlier as).flatMap (Turn.requests host s r)) bs := by
  induction as generalizing earlier with
  | nil => rw [List.nil_append, turns, List.nil_append, List.flatMap_nil, List.append_nil]
  | cons f as ih =>
    rw [List.cons_append, turns, turns, ih, List.cons_append, List.flatMap_cons, List.append_assoc]
    rfl

end Turns

/-! ## Batches -/

section Batches

variable {host : Host} {s : Settings} {r : Repository}

/-- Batches one after the other are the start of the listing. -/
theorem flatMap_batchAt (size k : Nat) (files : List ListedFile) :
    ((List.range k).map (· * size)).flatMap (batchAt size · files) = files.take (k * size) := by
  induction k with
  | zero => simp
  | succ k ih =>
    rw [List.range_succ, List.map_append, List.flatMap_append, ih, Nat.succ_mul, List.take_add]
    simp [batchAt]

/-- Batches cut a listing so that they are the whole of it. -/
theorem flatMap_batchStarts {size : Nat} (hsize : 0 < size) (files : List ListedFile) :
    (batchStarts size files.length).flatMap (batchAt size · files) = files := by
  rw [batchStarts, flatMap_batchAt, List.take_of_length_le]
  have hceil := le_smul_ceilDiv (b := files.length) hsize
  rwa [Nat.ceilDiv_eq_add_pred_div, smul_eq_mul, mul_comm] at hceil

theorem batchSize_pos (s : Settings) : 0 < batchSize s :=
  Nat.lt_of_lt_of_le Nat.one_pos (le_max_left ..)

/-- What batches come to when no turn breaks off. -/
theorem fetchBatches_eq (files : List ListedFile) (starts : List Nat) (g : Gathered)
    {ts : List Turn}
    (hts : ts = turns host s r g.requests (starts.flatMap (batchAt (batchSize s) · files)))
    (h : ∀ t ∈ ts, t.fault? host s r = none) :
    fetchBatches host s r files g starts =
      { result := .ok {
          snapshot := Snapshot.ofFiles (g.files ++ ts.filterMap (Turn.got? host s r))
          skipped := g.skipped ++ (ts.filter (Turn.Fails host s r)).map (·.file.path)
          batches := g.batches + starts.length
          label := r.label }
        requests := g.requests ++ ts.flatMap (Turn.requests host s r)
        sleeps := g.sleeps ++ ts.flatMap (Turn.sleeps host s r)
        progress := g.progress ++
          starts.map fun start => (min (start + batchSize s) files.length, files.length) } := by
  induction starts generalizing g ts with
  | nil =>
    rw [List.flatMap_nil, turns] at hts
    simp [fetchBatches, hts]
  | cons start starts ih =>
    rw [List.flatMap_cons, turns_append] at hts
    subst hts
    have hbatch : fault? (fetchFiles host s r g.requests (batchAt (batchSize s) start files)) =
        none := by
      rw [fault?_fetchFiles, List.findSome?_eq_none_iff]
      exact fun t ht => h t (List.mem_append_left _ ht)
    have hrequests : (fetchFiles host s r g.requests (batchAt (batchSize s) start files)).flatMap
        FileFetch.requests = (turns host s r g.requests
          (batchAt (batchSize s) start files)).flatMap (Turn.requests host s r) := by
      rw [fetchFiles_eq, List.flatMap_map]
      rfl
    have hsleeps : (fetchFiles host s r g.requests (batchAt (batchSize s) start files)).flatMap
        FileFetch.sleeps = (turns host s r g.requests
          (batchAt (batchSize s) start files)).flatMap (Turn.sleeps host s r) := by
      rw [fetchFiles_eq, List.flatMap_map]
      rfl
    unfold fetchBatches
    dsimp only
    rw [hbatch]
    dsimp only
    rw [ih _ rfl]
    · simp only [Gathered.add, Gathered.asked, got_fetchFiles, notGot_fetchFiles, hrequests,
        hsleeps, List.filterMap_append, List.filter_append, List.map_append, List.flatMap_append,
        List.map_cons, List.length_cons, List.append_assoc, List.singleton_append]
      rw [Nat.add_assoc, Nat.add_comm 1]
    · intro t ht
      rw [Gathered.add, Gathered.asked, hrequests] at ht
      exact h t (List.mem_append_right _ ht)

/-- A turn that breaks off ends the fetch with its fault. -/
theorem result_fetchBatches_of_breaks (files : List ListedFile) (starts : List Nat) (g : Gathered)
    {fault : RequestFault}
    (h : (turns host s r g.requests (starts.flatMap (batchAt (batchSize s) · files))).findSome?
      (Turn.fault? host s r) = some fault) :
    (fetchBatches host s r files g starts).result = .error (.request fault) := by
  induction starts generalizing g with
  | nil => cases h
  | cons start starts ih =>
    rw [List.flatMap_cons, turns_append, List.findSome?_append, ← fault?_fetchFiles] at h
    unfold fetchBatches
    dsimp only
    split
    · next fault' hfault =>
      rw [hfault, Option.some_or, Option.some.injEq] at h
      rw [h]
    · next hfault =>
      rw [hfault, Option.none_or] at h
      refine ih _ ?_
      rw [Gathered.add, Gathered.asked, fetchFiles_eq, List.flatMap_map]
      exact h

end Batches

/-! ## What a fetch accounts for -/

section Accounts

/-- The hosting service lists these files, in its reply to the request `listing`. -/
def Lists (host : Host) (s : Settings) (r : Repository) (listing : Text)
    (files : List ListedFile) : Prop :=
  ∃ a reply, listingAddress s r = .ok a ∧ ask host [] a = .ok reply ∧
    readListing s r reply = .ok files ∧ a.toText = listing

/-- A fetch that comes to a report accounts for every file of the listing. -/
structure Accounts (host : Host) (s : Settings) (r : Repository) (listing : Text)
    (files : List ListedFile) (x : Fetch) (report : Retrieved) : Prop where
  result : x.result = .ok report
  label : report.label = r.label
  /-- Skipped are the files for which every attempt fails, in the order of the listing. -/
  skipped : report.skipped =
    ((turns host s r [listing] files).filter (Turn.Fails host s r)).map (·.file.path)
  /-- The others are there. -/
  paths : ∀ p, p ∈ report.snapshot.paths ↔
    ∃ t ∈ turns host s r [listing] files, t.file.path = p ∧ ¬t.Fails host s r
  /-- Of several files with one path the last that is not skipped counts. -/
  content : ∀ before t after c, turns host s r [listing] files = before ++ t :: after →
    t.Gets host s r c →
    (∀ u ∈ after, u.file.path = t.file.path → u.Fails host s r) →
    report.snapshot.get? t.file.path = some ⟨t.file.path, c⟩
  /-- No batch but the last is short. -/
  batches : report.batches = files.length ⌈/⌉ batchSize s
  progress : x.progress = (List.range' 1 report.batches).map fun k =>
    (min (k * batchSize s) files.length, files.length)
  /-- The files are asked for one by one, in the order of the listing. -/
  requests : x.requests =
    listing :: (turns host s r [listing] files).flatMap (Turn.requests host s r)
  sleeps : x.sleeps = (turns host s r [listing] files).flatMap (Turn.sleeps host s r)

/-- Two fetches come to the same files by the same requests, in whatever batches. -/
def AgreesWith (x y : Fetch) : Prop :=
  x.result.map (fun report => (report.snapshot, report.skipped)) =
      y.result.map (fun report => (report.snapshot, report.skipped)) ∧
    x.requests = y.requests ∧ x.sleeps = y.sleeps

variable {host : Host} {s : Settings} {r : Repository} {listing : Text} {files : List ListedFile}
  {size : Int} {fault : RequestFault}

theorem fetch_of_lists (h : Lists host s r listing files) :
    fetch host s r = fetchListed host s r [listing] files := by
  obtain ⟨a, reply, haddress, hreply, hfiles, rfl⟩ := h
  simp only [fetch, haddress, hreply, hfiles]

/-- A turn that does not break off gets its file unless every attempt fails. -/
theorem Turn.not_fails_iff {t : Turn} (h : t.fault? host s r = none) :
    ¬t.Fails host s r ↔ ∃ f, t.got? host s r = some f := by
  rw [Turn.fails_iff]
  unfold Turn.fault? at h
  unfold Turn.got?
  split at h
  · cases h
  · next o ho =>
    rw [ho]
    cases o <;> simp

/-- The files that some turns get. -/
def gotten (host : Host) (s : Settings) (r : Repository) (ts : List Turn) : Snapshot :=
  Snapshot.ofFiles (ts.filterMap (Turn.got? host s r))

/-- Without turns that break off, the others of a fetch are those that fail. -/
theorem mem_paths_gotten {ts : List Turn} (hts : ∀ t ∈ ts, t.fault? host s r = none) {p : Text} :
    p ∈ (gotten host s r ts).paths ↔ ∃ t ∈ ts, t.file.path = p ∧ ¬t.Fails host s r := by
  have hmem : p ∈ (gotten host s r ts).paths ↔
      ∃ t ∈ ts, ∃ f, t.got? host s r = some f ∧ f.path = p := by
    rw [gotten, Snapshot.ofFiles, Snapshot.mem_paths_putAll]
    simp only [Snapshot.paths, Snapshot.empty, List.map_nil, List.not_mem_nil, false_or,
      List.mem_map, List.mem_filterMap]
    constructor
    · rintro ⟨f, ⟨t, ht, hf⟩, hpath⟩
      exact ⟨t, ht, f, hf, hpath⟩
    · rintro ⟨t, ht, f, hf, hpath⟩
      exact ⟨f, ⟨t, ht, hf⟩, hpath⟩
  rw [hmem]
  refine exists_congr fun t => and_congr_right fun ht => ?_
  rw [Turn.not_fails_iff (hts t ht)]
  constructor
  · rintro ⟨f, hf, rfl⟩
    exact ⟨(Turn.got?_eq_some.1 hf).1.symm, f, hf⟩
  · rintro ⟨rfl, f, hf⟩
    exact ⟨f, hf, (Turn.got?_eq_some.1 hf).1⟩

/-- The last turn of a path that gets its file decides what is under the path. -/
theorem get?_gotten {t : Turn} {before after : List Turn} {c : Content}
    (hgets : t.Gets host s r c)
    (hafter : ∀ u ∈ after, u.file.path = t.file.path → u.Fails host s r) :
    (gotten host s r (before ++ t :: after)).get? t.file.path = some ⟨t.file.path, c⟩ := by
  have hgot : t.got? host s r = some ⟨t.file.path, c⟩ := Turn.got?_eq_some.2 ⟨rfl, hgets⟩
  rw [gotten, Snapshot.get?_ofFiles_eq_some]
  refine ⟨rfl, before.filterMap (Turn.got? host s r), after.filterMap (Turn.got? host s r), ?_, ?_⟩
  · rw [List.filterMap_append, List.filterMap_cons_some hgot]
  · intro hmem
    obtain ⟨f, hf, hpath⟩ := List.mem_map.1 hmem
    obtain ⟨u, hu, hgotu⟩ := List.mem_filterMap.1 hf
    obtain ⟨hfpath, hgetsu⟩ := Turn.got?_eq_some.1 hgotu
    have hfails := hafter u hu (hfpath.symm.trans hpath)
    rw [Turn.fails_iff, Turn.gets_iff.1 hgetsu] at hfails
    cases hfails

theorem batchStarts_eq (size total : Nat) :
    batchStarts size total = (List.range (total ⌈/⌉ size)).map (· * size) := by
  rw [batchStarts, Nat.ceilDiv_eq_add_pred_div]

/-- What a fetch comes to when no turn breaks off. -/
theorem fetch_eq (h : Lists host s r listing files)
    (hturns : ∀ t ∈ turns host s r [listing] files, t.fault? host s r = none) :
    fetch host s r =
      { result := .ok {
          snapshot := gotten host s r (turns host s r [listing] files)
          skipped :=
            ((turns host s r [listing] files).filter (Turn.Fails host s r)).map (·.file.path)
          batches := files.length ⌈/⌉ batchSize s
          label := r.label }
        requests := listing :: (turns host s r [listing] files).flatMap (Turn.requests host s r)
        sleeps := (turns host s r [listing] files).flatMap (Turn.sleeps host s r)
        progress := (List.range' 1 (files.length ⌈/⌉ batchSize s)).map fun k =>
          (min (k * batchSize s) files.length, files.length) } := by
  have hflat : (batchStarts (batchSize s) files.length).flatMap (batchAt (batchSize s) · files) =
      files := flatMap_batchStarts (batchSize_pos s) files
  have hprogress : (batchStarts (batchSize s) files.length).map (fun start =>
      (min (start + batchSize s) files.length, files.length)) =
      (List.range' 1 (files.length ⌈/⌉ batchSize s)).map fun k =>
        (min (k * batchSize s) files.length, files.length) := by
    rw [batchStarts_eq, List.map_map, List.range'_eq_map_range, List.map_map]
    refine List.map_congr_left fun k _ => ?_
    simp only [Function.comp_apply, Nat.add_mul, Nat.one_mul, Nat.add_comm]
  rw [fetch_of_lists h, fetchListed, fetchBatches_eq files _ _ rfl (by rwa [hflat])]
  simp only [hflat, hprogress, List.nil_append, Nat.zero_add]
  rw [batchStarts_eq, List.length_map, List.length_range]
  rfl

/-- Without turns that break off, a fetch accounts for every file. -/
theorem exists_accounts (h : Lists host s r listing files)
    (hturns : ∀ t ∈ turns host s r [listing] files, t.fault? host s r = none) :
    ∃ report, Accounts host s r listing files (fetch host s r) report := by
  rw [fetch_eq h hturns]
  refine ⟨_, rfl, rfl, rfl, fun p => mem_paths_gotten hturns, ?_, rfl, rfl, rfl, rfl⟩
  intro before t after c hsplit hgets hafter
  rw [hsplit]
  exact get?_gotten hgets hafter

/-- A turn that breaks off ends the whole fetch. -/
theorem exists_result_of_breaks (h : Lists host s r listing files) {t : Turn}
    (ht : t ∈ turns host s r [listing] files) (hbreaks : t.Breaks host s r fault) :
    ∃ f, (fetch host s r).result = .error (.request f) := by
  obtain ⟨f, hf⟩ : ∃ f, (turns host s r [listing] files).findSome? (Turn.fault? host s r) =
      some f := by
    rw [← Option.isSome_iff_exists, List.findSome?_isSome_iff]
    exact ⟨t, ht, Option.isSome_iff_exists.2 ⟨fault, Turn.fault?_eq_some.2 hbreaks⟩⟩
  refine ⟨f, ?_⟩
  rw [fetch_of_lists h, fetchListed]
  refine result_fetchBatches_of_breaks files _ _ ?_
  rwa [flatMap_batchStarts (batchSize_pos s)]

/-! ## Other batches -/

theorem lists_withBatchSize : Lists host (s.withBatchSize size) r listing files ↔
    Lists host s r listing files := Iff.rfl

theorem attemptsFrom_withBatchSize (f : ListedFile) (left number : Nat) (earlier : List Text) :
    attemptsFrom host (s.withBatchSize size) r f left number earlier =
      attemptsFrom host s r f left number earlier := by
  induction left generalizing number earlier with
  | zero => rfl
  | succ left ih =>
    have hattempt : attempt host (s.withBatchSize size) r earlier f = attempt host s r earlier f :=
      rfl
    unfold attemptsFrom
    simp only [ih, hattempt]
    rfl

theorem fetchFile_withBatchSize (earlier : List Text) (f : ListedFile) :
    fetchFile host (s.withBatchSize size) r earlier f = fetchFile host s r earlier f :=
  attemptsFrom_withBatchSize f ..

theorem turns_withBatchSize (earlier : List Text) :
    turns host (s.withBatchSize size) r earlier files = turns host s r earlier files := by
  induction files generalizing earlier with
  | nil => rfl
  | cons f rest ih => rw [turns, turns, fetchFile_withBatchSize, ih]

@[simp] theorem Turn.fetch_withBatchSize (t : Turn) :
    t.fetch host (s.withBatchSize size) r = t.fetch host s r := fetchFile_withBatchSize ..

@[simp] theorem Turn.requests_withBatchSize :
    Turn.requests host (s.withBatchSize size) r = Turn.requests host s r := by
  funext t
  rw [Turn.requests, Turn.requests, Turn.fetch_withBatchSize]

@[simp] theorem Turn.sleeps_withBatchSize :
    Turn.sleeps host (s.withBatchSize size) r = Turn.sleeps host s r := by
  funext t
  rw [Turn.sleeps, Turn.sleeps, Turn.fetch_withBatchSize]

@[simp] theorem Turn.got?_withBatchSize :
    Turn.got? host (s.withBatchSize size) r = Turn.got? host s r := by
  funext t
  rw [Turn.got?, Turn.got?, Turn.fetch_withBatchSize]

@[simp] theorem Turn.fault?_withBatchSize :
    Turn.fault? host (s.withBatchSize size) r = Turn.fault? host s r := by
  funext t
  rw [Turn.fault?, Turn.fault?, Turn.fetch_withBatchSize]

@[simp] theorem Turn.fails_withBatchSize (t : Turn) :
    t.Fails host (s.withBatchSize size) r ↔ t.Fails host s r := by
  rw [Turn.fails_iff, Turn.fails_iff, Turn.fetch_withBatchSize]

/-- Without turns that break off, the size of the batches shows in nothing but the batches. -/
theorem agreesWith_withBatchSize (h : Lists host s r listing files)
    (hturns : ∀ t ∈ turns host s r [listing] files, t.fault? host s r = none) (size : Int) :
    AgreesWith (fetch host s r) (fetch host (s.withBatchSize size) r) := by
  have hturns' : ∀ t ∈ turns host (s.withBatchSize size) r [listing] files,
      t.fault? host (s.withBatchSize size) r = none := by
    rw [turns_withBatchSize, Turn.fault?_withBatchSize]
    exact hturns
  rw [fetch_eq h hturns, fetch_eq (lists_withBatchSize.2 h) hturns']
  simp [AgreesWith, Except.map, gotten, turns_withBatchSize]

/-- Whatever the listing, the replies and the settings: a fetch accounts for every file, in
batches of any size with the same files, requests and waits, exactly when no turn breaks off. -/
theorem fetch_accounts_iff (h : Lists host s r listing files) :
    ((∃ report, Accounts host s r listing files (fetch host s r) report) ∧
        ∀ size, AgreesWith (fetch host s r) (fetch host (s.withBatchSize size) r)) ↔
      ∀ t ∈ turns host s r [listing] files, ∀ fault, ¬t.Breaks host s r fault := by
  constructor
  · rintro ⟨⟨report, haccounts⟩, -⟩ t ht fault hbreaks
    obtain ⟨f, hf⟩ := exists_result_of_breaks h ht hbreaks
    rw [haccounts.result] at hf
    cases hf
  · intro hnone
    have hturns : ∀ t ∈ turns host s r [listing] files, t.fault? host s r = none := by
      intro t ht
      rw [Option.eq_none_iff_forall_ne_some]
      exact fun fault hfault => hnone t ht fault (Turn.fault?_eq_some.1 hfault)
    exact ⟨exists_accounts h hturns, agreesWith_withBatchSize h hturns⟩

end Accounts

/-! ## A repository with two files -/

/-- A repository. -/
def site : Repository := ⟨"acme", "site", "main"⟩

/-- The request for its listing. -/
def siteRequest : Text := "https://api.github.com/repos/acme/site/git/trees/main?recursive=1"

/-- Its listing: a file without a hash, and one with the hash that is written `hash`. -/
def siteListing (hash : Text) : Bytes :=
  Utf8.encodeAll
    ("\x7b\"tree\": [\x7b\"path\": \"a.ts\", \"type\": \"blob\"\x7d, " ++
      "\x7b\"path\": \"b.ts\", \"type\": \"blob\", \"sha\": \"" ++ hash ++ "\"\x7d]\x7d")

/-- A hosting service that gives the first file and refuses the second. -/
def siteHost (hash : Text) : Host := fun _ address =>
  if address = siteRequest then .answered 200 (siteListing hash)
  else if address = "https://api.github.com/repos/acme/site/contents/a.ts?ref=main" then
    .answered 200 (Utf8.encodeAll "\x7b\"encoding\": \"base64\", \"content\": \"aGk=\"\x7d")
  else .answered 403 []

/-- Its files. -/
def siteFiles (hash : Text) : List ListedFile := [⟨"a.ts", .null⟩, ⟨"b.ts", .string hash⟩]

theorem siteHost_lists {written hash : Text}
    (h : readListing {} site (.answered 200 (siteListing written)) = .ok (siteFiles hash)) :
    Lists (siteHost written) {} site siteRequest (siteFiles hash) := by
  have haddress : ∃ a, (listingAddress {} site).toOption = some a ∧ a.isAbsolute = true ∧
      a.toText = siteRequest := by
    refine ⟨⟨"https", [], "api.github.com", none, "/repos/acme/site/git/trees/main",
      some "recursive=1", none⟩, ?_⟩
    decide +kernel
  obtain ⟨a, ha, habsolute, htext⟩ := haddress
  refine ⟨a, _, Step.toOption_eq_some.1 ha, ?_, h, htext⟩
  rw [ask, htext, siteHost, if_pos rfl, Reply.takenFrom, if_pos habsolute]

theorem siteHost_accounts :
    Lists (siteHost "b") {} site siteRequest (siteFiles "b") ∧
      (fetch (siteHost "b") {} site).result.toOption.map Retrieved.skipped =
        some [("b.ts" : Text)] ∧
      (∃ report, Accounts (siteHost "b") {} site siteRequest (siteFiles "b")
        (fetch (siteHost "b") {} site) report) ∧
      ∀ size, AgreesWith (fetch (siteHost "b") {} site)
        (fetch (siteHost "b") (Settings.withBatchSize {} size) site) := by
  have hlists : Lists (siteHost "b") {} site siteRequest (siteFiles "b") := siteHost_lists rfl
  have hnone : ((turns (siteHost "b") {} site [siteRequest] (siteFiles "b")).all
      fun t => (t.fault? (siteHost "b") {} site).isNone) = true := by decide +kernel
  have hbreaks : ∀ t ∈ turns (siteHost "b") {} site [siteRequest] (siteFiles "b"), ∀ f,
      ¬t.Breaks (siteHost "b") {} site f := by
    intro t ht f hf
    have hfault := List.all_eq_true.1 hnone t ht
    rw [Turn.fault?_eq_some.2 hf] at hfault
    cases hfault
  have haccounts := (fetch_accounts_iff hlists).2 hbreaks
  exact ⟨hlists, by decide +kernel, haccounts.1, haccounts.2⟩

/-- A hash that makes no address ends the fetch, although the first file was got: not every listing
is accounted for. -/
theorem not_forall_fetch_accounts :
    ¬∀ host s r listing files, Lists host s r listing files →
      ∃ report, Accounts host s r listing files (fetch host s r) report := by
  intro h
  have hlists : Lists (siteHost "b\\u0001") {} site siteRequest
      (siteFiles ("b" ++ [CodePoint.ofNat 1])) := siteHost_lists rfl
  obtain ⟨report, haccounts⟩ := h _ _ _ _ _ hlists
  have hresult : (fetch (siteHost "b\\u0001") {} site).result.toOption.isNone = true := by
    decide +kernel
  rw [haccounts.result] at hresult
  cases hresult

end Hosting

end Decouple
