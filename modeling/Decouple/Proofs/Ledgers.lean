import Decouple.Proofs.Disks
import Decouple.Proofs.Records
import Decouple.Proofs.Sorting

/-!
# Ledgers over any requests

The file of a ledger holds a book of records (`Holds`): there is no file and the book is empty, or
the file is what was written for the book.  Whatever is inserted or deleted, and whether or not
the disk allows it, the file holds the book after it (`holds_step`, `holds_foldl`), and what a
ledger lists is the history of an owner in its book (`lists_after`).
-/

namespace Decouple

namespace Text

/-- What is added to the last part is added to the whole. -/
theorem join_concat_append (sep : Text) (parts : List Text) (a b : Text) :
    join sep (parts ++ [a ++ b]) = join sep (parts ++ [a]) ++ b := by
  induction parts with
  | nil => rfl
  | cons part parts ih =>
    have hne (c : Text) : parts ++ [c] ≠ [] := List.append_ne_nil_of_right_ne_nil _ (by simp)
    rw [List.cons_append, List.cons_append, join_cons _ _ (hne _), join_cons _ _ (hne _), ih,
      List.append_assoc (part ++ sep)]

end Text

namespace Record

/-- The texts of a record. -/
def texts (r : Record) : List Text :=
  [r.runId, r.ownerId, r.projectName, r.createdAt, r.archiveRef]

/-- A record in whose texts every code point is a Unicode scalar value. -/
def IsScalar (r : Record) : Prop := ∀ t ∈ r.texts, ∀ c ∈ t, c.isSurrogate = false

instance (r : Record) : Decidable r.IsScalar :=
  inferInstanceAs (Decidable (∀ t ∈ r.texts, ∀ c ∈ t, c.isSurrogate = false))

theorem joined_of_isScalar {r : Record} (h : r.IsScalar) : r.joined = r := by
  have ht {t : Text} (hmem : t ∈ r.texts) : t.joined = t := Text.joined_eq_self (h t hmem)
  rw [joined, ht (by simp [texts]), ht (by simp [texts]), ht (by simp [texts]),
    ht (by simp [texts]), ht (by simp [texts])]

end Record

namespace Ledger

open FilePath (components IsName rooted)

variable {d e : Disk} {path run owner : Text} {place : List Text} {r : Record}
  {book stored : List Record}

/-! ## The files of a ledger -/

/-- A path whose last component can be the name of a file. -/
def NamesFile (path : Text) : Prop :=
  ∃ (folder : List Text) (name : Text), components path = folder ++ [name] ∧ name ≠ ".."

theorem components_folderOf {folder : List Text} {name : Text}
    (h : components path = folder ++ [name]) : components (folderOf path) = folder := by
  have hfolder : folderOf path = rooted path folder := by
    rw [folderOf, h, List.dropLast_concat]
    rfl
  rw [hfolder]
  refine FilePath.components_rooted path fun c hc => ?_
  exact FilePath.isName_of_mem_components (h.symm ▸ List.mem_append_left _ hc)

theorem startsWith_slash_folderOf (path : Text) :
    Text.startsWith (folderOf path) "/" = Text.startsWith path "/" :=
  FilePath.startsWith_slash_rooted path fun _ hc =>
    FilePath.isName_of_mem_components (List.mem_of_mem_dropLast hc)

theorem startsWith_slash_draft (path : Text) :
    Text.startsWith (draft path) "/" = Text.startsWith path "/" := by
  rw [draft, FilePath.startsWith_slash_append (FilePath.normal_ne_nil path),
    FilePath.startsWith_slash_normal]

theorem components_draft {folder : List Text} {name : Text}
    (h : components path = folder ++ [name]) :
    components (draft path) = folder ++ [name ++ (".tmp" : Text)] := by
  have hnames : ∀ c ∈ folder ++ [name], IsName c := fun c hc =>
    FilePath.isName_of_mem_components (h.symm ▸ hc)
  have hnormal : FilePath.normal path = rooted path (folder ++ [name]) := by
    rcases FilePath.normal_cases path with hn | ⟨-, hnone, -⟩
    · rw [hn, h]
    · rw [hnone] at h
      exact absurd h.symm (by simp)
  have hdraft : draft path = rooted path (folder ++ [name ++ (".tmp" : Text)]) := by
    rw [draft, hnormal, rooted, rooted, Text.join_concat_append, List.append_assoc]
  have hname : IsName (name ++ (".tmp" : Text)) :=
    FilePath.isName_append (hnames name (by simp)).slash (by decide) (by decide)
  rw [hdraft]
  refine FilePath.components_rooted path fun c hc => ?_
  rcases List.mem_append.1 hc with hc | hc
  · exact hnames c (List.mem_append_left _ hc)
  · rw [List.mem_singleton.1 hc]
    exact hname

/-- A ledger and its draft are different files. -/
theorem place_ne_draft {other : List Text} (h : NamesFile path) (hplace : d.locate path = .ok place)
    (hother : d.locate (draft path) = .ok other) : place ≠ other := by
  obtain ⟨folder, name, hcomponents, hup⟩ := h
  rw [Disk.locate_eq_ok, hcomponents] at hplace
  rw [Disk.locate_eq_ok, components_draft hcomponents] at hother
  obtain ⟨f, rfl⟩ := Disk.follow_concat hplace.2 hup
  obtain ⟨g, rfl⟩ := Disk.follow_concat hother.2 (FilePath.append_ne_dots (by decide))
  intro heq
  have hlast : [name] = [name ++ (".tmp" : Text)] := (List.append_inj' heq rfl).2
  have hlength := congrArg List.length (List.cons.inj hlast).1
  rw [List.length_append] at hlength
  exact absurd (Nat.left_eq_add.1 hlength) (by decide)

/-- The file of a ledger is not there, also when the folders on the way to it have been made. -/
structure IsMissing (d : Disk) (path : Text) : Prop where
  names_file : NamesFile path
  missing : d.exists? path = false
  missing_made : ∀ e, d.makeFolders (folderOf path) = .ok e → e.exists? path = false

/-- The file of a ledger was written for records. -/
structure IsWritten (d : Disk) (path : Text) (place : List Text) (stored : List Record) : Prop where
  names_file : NamesFile path
  located : d.locate path = .ok place
  not_folder : d.isFolder place = false
  file : d.file? place = some (Utf8.encodeAll (writeText stored))
  writable : ∀ r ∈ stored, r.isWritable = true
  made : d.makeFolders (folderOf path) = .ok d

/-- The file of a ledger holds a book: there is none and the book is empty, or it was written for
records that are read as the book. -/
def Holds (d : Disk) (path : Text) (book : List Record) : Prop :=
  IsMissing d path ∧ book = [] ∨
    ∃ place stored, IsWritten d path place stored ∧ stored.map Record.joined = book

/-! ## What the operations do -/

theorem insert_eq_ok : insert d path r = .ok e ↔
    r.isWritable = true ∧ ∃ f, d.makeFolders (folderOf path) = .ok f ∧
      f.append path (Utf8.encodeAll r.toLine) = .ok e := by
  rw [insert]
  cases hr : r.isWritable with
  | false => simp
  | true => simp [Step.mapError_eq_ok, Step.bind_eq_ok]

/-- A ledger that holds a book is read as the book. -/
theorem records_of_holds (h : Holds d path book) : records d path = .ok book := by
  rcases h with ⟨hmissing, rfl⟩ | ⟨place, stored, hwritten, rfl⟩
  · rw [records, hmissing.missing]
    rfl
  · have hexists : d.exists? path = true := by
      rw [Disk.exists?, hwritten.located]
      simp [hwritten.file]
    have hread : d.read path = .ok (Utf8.encodeAll (writeText stored)) :=
      Disk.read_eq_ok.2 ⟨place, hwritten.located, hwritten.not_folder, hwritten.file⟩
    rw [records, hexists, hread]
    simp [decode_writeText, readText_writeText hwritten.writable]

/-- A record that could be added stands at the end of the book. -/
theorem holds_insert (h : Holds d path book) (hinsert : insert d path r = .ok e) :
    Holds e path (book ++ [r.joined]) := by
  obtain ⟨hr, f, hmake, happend⟩ := insert_eq_ok.1 hinsert
  obtain ⟨place, hplace, hfolder, rfl⟩ := Disk.append_eq_ok.1 happend
  have hgrows := Disk.grows_of_makeFolders hmake
  have hmade (bytes : Bytes) :
      (f.putAt place bytes).makeFolders (folderOf path) = .ok (f.putAt place bytes) :=
    Disk.makeFolders_again hmake (Disk.keepsFolders_putAt f place bytes) rfl
  have hall (stored : List Record) (hstored : ∀ q ∈ stored, q.isWritable = true) :
      ∀ q ∈ stored ++ [r], q.isWritable = true := by
    rw [List.forall_mem_append, List.forall_mem_singleton]
    exact ⟨hstored, hr⟩
  right
  rcases h with ⟨hmissing, rfl⟩ | ⟨place', stored, hwritten, rfl⟩
  · obtain ⟨-, hnone⟩ := Disk.exists?_eq_false.1 (hmissing.missing_made f hmake) place hplace
    refine ⟨place, [r], ⟨hmissing.names_file, ?_, hfolder, ?_, hall [] (by simp), hmade _⟩, rfl⟩
    · exact (Disk.locate_putAt ..).2 hplace
    · simp [hnone, writeText]
  · have hplace' := Disk.locate_mono hgrows.folders hgrows.home hwritten.located
    obtain rfl : place = place' := by
      rw [hplace] at hplace'
      exact Except.ok.inj hplace'
    have hfile : f.file? place = some (Utf8.encodeAll (writeText stored)) := by
      rw [hgrows.file? place, hwritten.file]
    refine ⟨place, stored ++ [r], ⟨hwritten.names_file, ?_, hfolder, ?_,
      hall stored hwritten.writable, hmade _⟩, by simp⟩
    · exact (Disk.locate_putAt ..).2 hplace
    · simp [hfile, writeText, Utf8.encodeAll]

theorem replace_eq_ok {kept : List Record} : replace d path kept = .ok e ↔
      ∃ place other, d.locate path = .ok place ∧ d.isFolder place = false ∧
        d.locate (draft path) = .ok other ∧ d.isFolder other = false ∧
        e = ((d.putAt other (Utf8.encodeAll (writeText kept))).putAt place
          (Utf8.encodeAll (writeText kept))).removeAt other := by
  rw [replace, Step.mapError_eq_ok, Step.bind_eq_ok]
  constructor
  · rintro ⟨f, hwrite, hrename⟩
    obtain ⟨other, hother, hfolder, rfl⟩ := Disk.write_eq_ok.1 hwrite
    obtain ⟨other', place, bytes, hother', -, hfile, hplace, hfolder', rfl⟩ :=
      Disk.rename_eq_ok.1 hrename
    rw [Disk.locate_putAt] at hother' hplace
    obtain rfl : other = other' := by
      rw [hother] at hother'
      exact Except.ok.inj hother'
    rw [Disk.file?_putAt, if_pos rfl] at hfile
    obtain rfl := Option.some.inj hfile
    exact ⟨place, other, hplace, hfolder', hother, hfolder, rfl⟩
  · rintro ⟨place, other, hplace, hfolder, hother, hfolder', rfl⟩
    refine ⟨_, Disk.write_eq_ok.2 ⟨other, hother, hfolder', rfl⟩, ?_⟩
    refine Disk.rename_eq_ok.2 ⟨other, place, _, ?_, hfolder', ?_, ?_, hfolder, rfl⟩
    · exact (Disk.locate_putAt ..).2 hother
    · rw [Disk.file?_putAt, if_pos rfl]
    · exact (Disk.locate_putAt ..).2 hplace

theorem without_eq_self : without run owner book = book ↔
    ∀ r ∈ book, isRun run owner r = false := by
  simp [without, List.filter_eq_self]

theorem length_without : (without run owner book).length = book.length ↔
    without run owner book = book := by
  constructor
  · exact List.filter_sublist.eq_of_length
  · exact congrArg List.length

theorem delete_eq_ok {removed : Bool} (h : records d path = .ok book) :
    delete d path run owner = .ok (removed, e) ↔
      without run owner book = book ∧ removed = false ∧ e = d ∨
      without run owner book ≠ book ∧ removed = true ∧
        replace d path (without run owner book) = .ok e := by
  rw [delete, h, Step.bind_eq_ok]
  by_cases hsame : without run owner book = book
  · simp only [Except.ok.injEq, exists_eq_left', hsame, if_true, Prod.mk.injEq, true_and, ne_eq,
      not_true_eq_false, false_and, or_false]
    exact and_congr eq_comm eq_comm
  · have hlength := mt length_without.1 hsame
    simp only [Except.ok.injEq, exists_eq_left', hsame, hlength, if_false, Step.bind_eq_ok,
      Prod.mk.injEq, false_and, ne_eq, not_false_eq_true, true_and, false_or]
    constructor
    · rintro ⟨f, hreplace, rfl, rfl⟩
      exact ⟨rfl, hreplace⟩
    · rintro ⟨rfl, hreplace⟩
      exact ⟨e, hreplace, rfl, rfl⟩

/-- Deleting takes the records of a run of an owner out of the book, and tells whether there were
any. -/
theorem holds_delete {removed : Bool} (h : Holds d path book)
    (hdelete : delete d path run owner = .ok (removed, e)) :
    Holds e path (without run owner book) ∧
      (removed = true ↔ ∃ r ∈ book, isRun run owner r = true) := by
  have hnone : without run owner book = book ↔ ¬∃ r ∈ book, isRun run owner r = true := by
    rw [without_eq_self]
    simp
  rcases (delete_eq_ok (records_of_holds h)).1 hdelete with
    ⟨hsame, rfl, rfl⟩ | ⟨hchanged, rfl, hreplace⟩
  · rw [hsame]
    exact ⟨h, iff_of_false Bool.false_ne_true (hnone.1 hsame)⟩
  · refine ⟨?_, iff_of_true rfl (not_not.1 (mt hnone.2 hchanged))⟩
    obtain ⟨place, other, hplace, -, hother, -, rfl⟩ := replace_eq_ok.1 hreplace
    rcases h with ⟨-, rfl⟩ | ⟨place', stored, hwritten, rfl⟩
    · exact absurd rfl hchanged
    obtain rfl : place = place' := by
      have hplace' := hwritten.located
      rw [hplace] at hplace'
      exact Except.ok.inj hplace'
    have hne := place_ne_draft hwritten.names_file hplace hother
    have hkept : ∀ r ∈ without run owner (stored.map Record.joined),
        r.isWritable = true ∧ r.joined = r := by
      intro r hr
      obtain ⟨q, hq, rfl⟩ := List.mem_map.1 (List.mem_filter.1 hr).1
      exact ⟨hwritten.writable q hq, q.joined_joined⟩
    refine Or.inr ⟨place, without run owner (stored.map Record.joined), ⟨hwritten.names_file, ?_,
      hwritten.not_folder, ?_, fun r hr => (hkept r hr).1, ?_⟩, ?_⟩
    · simpa using hplace
    · rw [Disk.file?_removeAt, if_neg hne, Disk.file?_putAt, if_pos rfl]
    · exact Disk.makeFolders_again hwritten.made (fun _ hp => hp) rfl
    · exact (List.map_congr_left fun r hr => (hkept r hr).2).trans (List.map_id _)

/-! ## Requests -/

/-- A request that changes a ledger. -/
inductive Request where
  | insert (record : Record)
  | delete (run owner : Text)

namespace Request

/-- The book after a request that went well. -/
def enter (book : List Record) : Request → List Record
  | insert r => book ++ [r]
  | delete run owner => book.filter fun r => !(r.runId = run && r.ownerId = owner)

/-- Whether the numbers of a request can be written. -/
def isWritable : Request → Bool
  | insert r => r.isWritable
  | delete .. => true

/-- A request whose record has Unicode scalar values only. -/
def IsScalar : Request → Prop
  | insert r => r.IsScalar
  | delete .. => True

instance (q : Request) : Decidable q.IsScalar :=
  match q with
  | insert r => inferInstanceAs (Decidable r.IsScalar)
  | delete .. => inferInstanceAs (Decidable True)

end Request

/-- The answer to a request and the disk after it; one that fails leaves the disk as it is. -/
def perform (path : Text) (d : Disk) : Request → Except LedgerError Bool × Disk
  | .insert r =>
    match insert d path r with
    | .ok e => (.ok true, e)
    | .error f => (.error f, d)
  | .delete run owner =>
    match delete d path run owner with
    | .ok (removed, e) => (.ok removed, e)
    | .error f => (.error f, d)

/-- The disk after a request, and the book of the requests that went well. -/
def step (path : Text) (s : Disk × List Record) (q : Request) : Disk × List Record :=
  match perform path s.1 q with
  | (.ok _, e) => (e, q.enter s.2)
  | (.error _, e) => (e, s.2)

/-- The disk after requests, and the book of those that went well. -/
def after (path : Text) (d : Disk) (qs : List Request) : Disk × List Record :=
  qs.foldl (step path) (d, [])

/-- What one request keeps: the file holds the book. -/
theorem holds_step {s : Disk × List Record} {q : Request} (h : Holds s.1 path s.2)
    (hq : q.IsScalar) : Holds (step path s q).1 path (step path s q).2 := by
  cases q with
  | insert r =>
    cases hinsert : insert s.1 path r with
    | error f =>
      simp only [step, perform, hinsert]
      exact h
    | ok e =>
      have hbook := holds_insert h hinsert
      rw [Record.joined_of_isScalar hq] at hbook
      simp only [step, perform, hinsert]
      exact hbook
  | delete run owner =>
    cases hdelete : delete s.1 path run owner with
    | error f =>
      simp only [step, perform, hdelete]
      exact h
    | ok answer =>
      obtain ⟨removed, e⟩ := answer
      simp only [step, perform, hdelete]
      exact (holds_delete h hdelete).1

/-- What any requests keep. -/
theorem holds_foldl {s : Disk × List Record} {qs : List Request} (h : Holds s.1 path s.2)
    (hqs : ∀ q ∈ qs, q.IsScalar) :
    Holds (qs.foldl (step path) s).1 path (qs.foldl (step path) s).2 := by
  induction qs generalizing s with
  | nil => exact h
  | cons q qs ih =>
    rw [List.forall_mem_cons] at hqs
    exact ih (holds_step h hqs.1) hqs.2

/-! ## Disks that allow it -/

/-- A disk on which the folders of a ledger can be made, with room for its file and for its draft
then. -/
def IsUsable (d : Disk) (path : Text) : Prop :=
  ∃ e, d.makeFolders (folderOf path) = .ok e ∧
    (∃ place, e.locate path = .ok place ∧ e.isFolder place = false) ∧
    ∃ other, e.locate (draft path) = .ok other ∧ e.isFolder other = false

/-- A disk on which everything has been made goes on being usable with other files. -/
theorem isUsable_of_made {f : Disk} (hmake : d.makeFolders (folderOf path) = .ok e)
    (hfolders : ∀ p, f.isFolder p = e.isFolder p) (hhome : f.home = e.home)
    (h : IsUsable d path) : IsUsable f path := by
  obtain ⟨e', hmake', ⟨place, hplace, hfolder⟩, other, hother, hfolder'⟩ := h
  obtain rfl : e = e' := by
    rw [hmake] at hmake'
    exact Except.ok.inj hmake'
  refine ⟨f, ?_, ⟨place, ?_, ?_⟩, other, ?_, ?_⟩
  · exact Disk.makeFolders_again hmake (fun p hp => (hfolders p).trans hp) hhome
  · exact (Disk.locate_congr hfolders hhome).2 hplace
  · exact (hfolders place).trans hfolder
  · exact (Disk.locate_congr hfolders hhome).2 hother
  · exact (hfolders other).trans hfolder'

/-- On a usable disk a request goes well if its numbers can be written. -/
theorem isOk_perform (h : Holds d path book) (husable : IsUsable d path) (q : Request) :
    (perform path d q).1.isOk = q.isWritable := by
  unfold perform
  obtain ⟨e, hmake, ⟨place, hplace, hfolder⟩, other, hother, hfolder'⟩ := husable
  cases q with
  | insert r =>
    cases hr : r.isWritable with
    | false => simp [insert, hr, Request.isWritable, Except.isOk, Except.toBool]
    | true =>
      have hinsert := insert_eq_ok.2
        ⟨hr, e, hmake, Disk.append_eq_ok.2 ⟨place, hplace, hfolder, rfl⟩⟩
      simp [hinsert, hr, Request.isWritable, Except.isOk, Except.toBool]
  | delete run owner =>
    have hdelete : ∃ answer, delete d path run owner = .ok answer := by
      by_cases hsame : without run owner book = book
      · exact ⟨_, (delete_eq_ok (records_of_holds h)).2 (Or.inl ⟨hsame, rfl, rfl⟩)⟩
      · rcases h with ⟨hmissing, rfl⟩ | ⟨place', stored, hwritten, rfl⟩
        · exact absurd rfl hsame
        have hmade := hwritten.made
        rw [hmake] at hmade
        obtain rfl := Except.ok.inj hmade
        exact ⟨_, (delete_eq_ok (records_of_holds (Or.inr ⟨place', stored, hwritten, rfl⟩))).2
          (Or.inr ⟨hsame, rfl, replace_eq_ok.2 ⟨place, other, hplace, hfolder, hother, hfolder',
            rfl⟩⟩)⟩
    obtain ⟨answer, hdelete⟩ := hdelete
    simp [hdelete, Request.isWritable, Except.isOk, Except.toBool]

theorem isUsable_step {s : Disk × List Record} {q : Request} (h : Holds s.1 path s.2)
    (husable : IsUsable s.1 path) : IsUsable (step path s q).1 path := by
  cases q with
  | insert r =>
    cases hinsert : insert s.1 path r with
    | error f =>
      simp only [step, perform, hinsert]
      exact husable
    | ok e =>
      obtain ⟨-, f, hmake, happend⟩ := insert_eq_ok.1 hinsert
      obtain ⟨place, -, -, rfl⟩ := Disk.append_eq_ok.1 happend
      simp only [step, perform, hinsert]
      exact isUsable_of_made hmake (fun _ => rfl) rfl husable
  | delete run owner =>
    cases hdelete : delete s.1 path run owner with
    | error f =>
      simp only [step, perform, hdelete]
      exact husable
    | ok answer =>
      obtain ⟨removed, e⟩ := answer
      simp only [step, perform, hdelete]
      rcases (delete_eq_ok (records_of_holds h)).1 hdelete with
        ⟨-, -, rfl⟩ | ⟨hchanged, -, hreplace⟩
      · exact husable
      · obtain ⟨place, other, -, -, -, -, rfl⟩ := replace_eq_ok.1 hreplace
        rcases h with ⟨-, hnone⟩ | ⟨place', stored, hwritten, -⟩
        · rw [hnone] at hchanged
          exact absurd rfl hchanged
        · exact isUsable_of_made hwritten.made (fun _ => rfl) rfl husable

theorem step_snd (s : Disk × List Record) (q : Request) :
    (step path s q).2 = if (perform path s.1 q).1.isOk then q.enter s.2 else s.2 := by
  rw [step]
  split
  · next hok => rw [hok]; rfl
  · next herror => rw [herror]; rfl

/-- A usable disk stays usable, and its book is that of the requests that can be written. -/
theorem usable_foldl {s : Disk × List Record} {qs : List Request} (h : Holds s.1 path s.2)
    (husable : IsUsable s.1 path) (hqs : ∀ q ∈ qs, q.IsScalar) :
    IsUsable (qs.foldl (step path) s).1 path ∧
      (qs.foldl (step path) s).2 = (qs.filter (·.isWritable)).foldl Request.enter s.2 := by
  induction qs generalizing s with
  | nil => exact ⟨husable, rfl⟩
  | cons q qs ih =>
    rw [List.forall_mem_cons] at hqs
    obtain ⟨husable', hbook⟩ := ih (holds_step h hqs.1) (isUsable_step h husable) hqs.2
    refine ⟨husable', ?_⟩
    rw [List.foldl_cons, hbook, step_snd, isOk_perform h husable, List.filter_cons]
    cases q.isWritable <;> rfl

/-! ## What a ledger lists -/

/-- The records of an owner in a book: the latest first, and those of one moment in the order of
the book. -/
structure IsHistory (book : List Record) (owner : Text) (rs : List Record) : Prop where
  perm : rs.Perm (book.filter fun r => r.ownerId = owner)
  latest_first : rs.Pairwise fun a b => Text.le b.createdAt a.createdAt = true
  in_order : ∀ moment, rs.filter (fun r => r.createdAt = moment) =
    (book.filter fun r => r.ownerId = owner).filter fun r => r.createdAt = moment

theorem isHistory_ofOwner (book : List Record) (owner : Text) :
    IsHistory book owner (ofOwner owner book) where
  perm := Sorting.sort_perm _
  latest_first := Sorting.pairwise_sort (fun a b : Record => Text.le_total b.createdAt a.createdAt)
    (fun _ _ _ hab hbc => Text.le_trans hbc hab) _
  in_order moment := by
    refine Sorting.filter_sort (fun a b ha hb => ?_) _
    rw [decide_eq_true_eq] at ha hb
    have hrefl : Text.le moment moment = true := by simpa using Text.le_total moment moment
    rw [ha, hb, hrefl]

/-- A ledger lists the histories of the owners in a book. -/
def Lists (d : Disk) (path : Text) (book : List Record) : Prop :=
  ∀ owner, ∃ rs, list d path owner = .ok rs ∧ IsHistory book owner rs

theorem list_of_holds (h : Holds d path book) (owner : Text) :
    list d path owner = .ok (ofOwner owner book) := by
  rw [list, records_of_holds h]
  rfl

theorem lists_of_holds (h : Holds d path book) : Lists d path book := fun owner =>
  ⟨_, list_of_holds h owner, isHistory_ofOwner book owner⟩

/-- Deleting for one owner leaves the records of another. -/
theorem ofOwner_without {other : Text} (hother : other ≠ owner) (book : List Record) :
    ofOwner other (without run owner book) = ofOwner other book := by
  rw [ofOwner, ofOwner, without, List.filter_filter]
  congr 1
  refine List.filter_congr fun r _ => ?_
  by_cases hr : r.ownerId = other
  · simp [hr, isRun, hother]
  · simp [hr]

/-- A ledger refines the book of the requests that went well, whatever is requested, starting
without a file: it lists the histories in the book; deleting tells whether the owner has a record
of the run, takes exactly those out, and leaves what it lists for others.  On a usable disk the
requests that go well are those whose numbers can be written. -/
theorem lists_after (h : IsMissing d path) (qs : List Request) (hqs : ∀ q ∈ qs, q.IsScalar) :
    Lists (after path d qs).1 path (after path d qs).2 ∧
    (∀ run owner removed e, delete (after path d qs).1 path run owner = .ok (removed, e) →
      (removed = true ↔ ∃ r ∈ (after path d qs).2, r.runId = run ∧ r.ownerId = owner) ∧
      Lists e path (Request.enter (after path d qs).2 (.delete run owner)) ∧
      ∀ other, other ≠ owner → list e path other = list (after path d qs).1 path other) ∧
    (IsUsable d path →
      (∀ q, (perform path (after path d qs).1 q).1.isOk = q.isWritable) ∧
      (after path d qs).2 = (qs.filter (·.isWritable)).foldl Request.enter []) := by
  have hstart : Holds d path [] := Or.inl ⟨h, rfl⟩
  have hholds : Holds (after path d qs).1 path (after path d qs).2 :=
    @holds_foldl path (d, []) qs hstart hqs
  refine ⟨lists_of_holds hholds, ?_, ?_⟩
  · intro run owner removed e hdelete
    obtain ⟨hkept, hremoved⟩ := holds_delete hholds hdelete
    refine ⟨?_, lists_of_holds hkept, fun other hother => ?_⟩
    · rw [hremoved]
      simp [isRun]
    · rw [list_of_holds hkept, list_of_holds hholds, ofOwner_without hother]
  · intro husable
    obtain ⟨husable', hbook⟩ := @usable_foldl path (d, []) qs hstart husable hqs
    exact ⟨isOk_perform hholds husable', hbook⟩

/-- Two owners on an empty disk, one of whom deletes what is hers. -/
def sharedRequests : List Request := [
  .insert { runId := "1", ownerId := "ada", projectName := "a", scoreBefore := 10, scoreAfter := 90,
            filesTotal := 3, createdAt := "2024", archiveRef := "x" },
  .insert { runId := "1", ownerId := "eve", projectName := "e\u2028", scoreBefore := -1,
            scoreAfter := 0, filesTotal := 0, createdAt := "2025", archiveRef := "y" },
  .delete "1" "ada"]

/-- A missing file in a folder that is missing as well. -/
theorem sharedRequests_lists :
    Lists (after "data/ledger.jsonl" {} sharedRequests).1 "data/ledger.jsonl"
      (after "data/ledger.jsonl" {} sharedRequests).2 ∧
    (after "data/ledger.jsonl" {} sharedRequests).2 =
      [{ runId := "1", ownerId := "eve", projectName := "e\u2028", scoreBefore := -1,
         scoreAfter := 0, filesTotal := 0, createdAt := "2025", archiveRef := "y" }] := by
  have hmissing : IsMissing {} "data/ledger.jsonl" := by
    refine ⟨⟨["data"], "ledger.jsonl", rfl, by decide⟩, rfl, fun e he => ?_⟩
    cases he
    rfl
  have husable : IsUsable {} "data/ledger.jsonl" := ⟨_, rfl, ⟨_, rfl, rfl⟩, _, rfl, rfl⟩
  have hall := lists_after hmissing sharedRequests (by decide)
  exact ⟨hall.1, (hall.2.2 husable).2⟩

end Ledger

end Decouple
