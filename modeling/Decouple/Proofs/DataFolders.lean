import Decouple.Proofs.Ledgers
import Decouple.Run.Session

/-!
# Data folders

The archives are in one folder of a data folder, the ledger is a file beside that folder.  Whatever
leads to the data folder, the paths of archives, of the ledger and of its draft lead to places of
their own inside of it (`HasFolder.locate_eq`), so storing an archive leaves the ledger as it is
(`LedgerHolds.deposited`), and writing the ledger leaves the archives as they are
(`rewritten_of_insert`, `rewritten_of_delete`).
-/

namespace Decouple

open FilePath (components IsName)

/-- The folder of the archives in a data folder. -/
def archivesIn (folder : Text) : Text := FilePath.inside folder "archives"

/-- The file of the ledger in a data folder. -/
def ledgerIn (folder : Text) : Text := FilePath.inside folder "ledger.jsonl"

/-- A desk whose archives and ledger are in a data folder. -/
structure Desk.IsIn (k : Desk) (folder : Text) : Prop where
  archives : k.archives = archivesIn folder
  ledger : k.ledger = ledgerIn folder

theorem Desk.isIn_ofSettings (s : Settings) : (ofSettings s).IsIn s.dataFolder := ⟨rfl, rfl⟩

/-! ## Paths in a data folder -/

section Paths

variable {folder ref : Text}

/-- The name of the file of an archive. -/
def archiveName (ref : Text) : Text := ref ++ ".zip"

theorem archiveName_injective {a b : Text} (h : archiveName a = archiveName b) : a = b :=
  List.append_cancel_right h

/-- A reference is made of digits, but for a line feed at its end. -/
theorem not_mem_of_isReference (h : Archives.isReference ref = true) {c : CodePoint}
    (hdigit : Archives.isDigit c = false) (hfeed : c ≠ '\n') : c ∉ ref := by
  intro hc
  unfold Archives.isReference at h
  dsimp only at h
  rw [Bool.and_eq_true, List.all_eq_true] at h
  unfold Text.dropEnd? at h
  split at h
  · next hend =>
    obtain ⟨t, rfl⟩ := List.isSuffixOf_iff_suffix.1 hend
    have htake : (t ++ ("\n" : Text)).take ((t ++ ("\n" : Text)).length - ("\n" : Text).length) =
        t := by
      rw [List.length_append, Nat.add_sub_cancel, List.take_left]
    rw [Option.getD_some, htake] at h
    rcases List.mem_append.1 hc with hc | hc
    · rw [h.2 c hc] at hdigit
      cases hdigit
    · exact hfeed (List.mem_singleton.1 hc)
  · rw [Option.getD_none] at h
    rw [h.2 c hc] at hdigit
    cases hdigit

theorem isReference_of_digits (hlength : ref.length = 32)
    (hdigits : ref.all Archives.isDigit = true) : Archives.isReference ref = true := by
  have hend : ("\n" : Text).isSuffixOf ref = false := by
    refine Bool.eq_false_iff.2 fun hend => ?_
    obtain ⟨t, rfl⟩ := List.isSuffixOf_iff_suffix.1 hend
    have hfeed := List.all_eq_true.1 hdigits '\n' (List.mem_append_right _ (by decide))
    cases hfeed
  unfold Archives.isReference Text.dropEnd?
  rw [hend, if_neg Bool.false_ne_true, Option.getD_none]
  exact Bool.and_eq_true_iff.2 ⟨decide_eq_true hlength, hdigits⟩

theorem isName_archiveName (h : Archives.isReference ref = true) : IsName (archiveName ref) :=
  FilePath.isName_append (not_mem_of_isReference h (by decide) (by decide)) (by decide) (by decide)

theorem archiveName_ne_dots (ref : Text) : archiveName ref ≠ ".." :=
  FilePath.append_ne_dots (by decide)

theorem isName_archives : IsName "archives" := by decide

theorem isName_ledger : IsName "ledger.jsonl" := by decide

theorem components_archive (folder : Text) (h : Archives.isReference ref = true) :
    components (Archives.path (archivesIn folder) ref) =
      components folder ++ [("archives" : Text), archiveName ref] := by
  have harchive := FilePath.components_inside (archivesIn folder) (isName_archiveName h)
  have hfolder := FilePath.components_inside folder isName_archives
  rw [← archivesIn] at hfolder
  rw [hfolder, List.append_assoc] at harchive
  exact harchive

theorem startsWith_slash_archive (folder : Text) (h : Archives.isReference ref = true) :
    Text.startsWith (Archives.path (archivesIn folder) ref) "/" = Text.startsWith folder "/" :=
  (FilePath.startsWith_slash_inside (archivesIn folder) (isName_archiveName h)).trans
    (FilePath.startsWith_slash_inside folder isName_archives)

theorem components_ledger (folder : Text) :
    components (ledgerIn folder) = components folder ++ [("ledger.jsonl" : Text)] :=
  FilePath.components_inside folder isName_ledger

theorem startsWith_slash_ledger (folder : Text) :
    Text.startsWith (ledgerIn folder) "/" = Text.startsWith folder "/" :=
  FilePath.startsWith_slash_inside folder isName_ledger

end Paths

/-! ## The data folder on a disk -/

section Places

variable (place : List Text)

/-- Where the archives are. -/
def archivesPlace : List Text := place ++ [("archives" : Text)]

/-- Where an archive is. -/
def archivePlace (ref : Text) : List Text := place ++ [("archives" : Text), archiveName ref]

/-- Where the ledger is. -/
def ledgerPlace : List Text := place ++ [("ledger.jsonl" : Text)]

/-- Where the draft of the ledger is. -/
def draftPlace : List Text := place ++ [("ledger.jsonl.tmp" : Text)]

variable {place}

theorem archivePlace_injective {a b : Text} (h : archivePlace place a = archivePlace place b) :
    a = b := by
  have hnames : [("archives" : Text), archiveName a] = [("archives" : Text), archiveName b] :=
    List.append_cancel_left h
  exact archiveName_injective (List.cons.inj (List.cons.inj hnames).2).1

theorem append_ne_append {a b : List Text} (h : a ≠ b) : place ++ a ≠ place ++ b := fun heq =>
  h (List.append_cancel_left heq)

theorem archivePlace_ne_ledgerPlace (ref : Text) : archivePlace place ref ≠ ledgerPlace place :=
  append_ne_append fun heq => absurd (congrArg List.length heq) (by simp)

theorem archivePlace_ne_draftPlace (ref : Text) : archivePlace place ref ≠ draftPlace place :=
  append_ne_append fun heq => absurd (congrArg List.length heq) (by simp)

end Places

/-- The data folder as it is on a disk once it has been made: nothing but files are where archives
and the ledger go. -/
structure HasFolder (folder : Text) (place : List Text) (d e : Disk) : Prop where
  made : d.makeFolders folder = .ok e
  located : e.locate folder = .ok place
  is_folder : e.isFolder place = true
  ledger_file : e.isFolder (ledgerPlace place) = false
  archive_file : ∀ ref, e.isFolder (archivePlace place ref) = false

namespace HasFolder

variable {folder ref path : Text} {place other names : List Text} {d e f : Disk} {bytes : Bytes}

theorem grows (h : HasFolder folder place d e) : Disk.Grows d e :=
  Disk.grows_of_makeFolders h.made

/-- Paths in the data folder lead to places in it. -/
theorem locate_eq (h : HasFolder folder place d e)
    (hcomponents : components path = components folder ++ names)
    (hstart : Text.startsWith path "/" = Text.startsWith folder "/") (hup : (".." : Text) ∉ names)
    (hlocate : d.locate path = .ok other) : other = place ++ names := by
  have hlocate' := Disk.locate_mono h.grows.folders h.grows.home hlocate
  have hfollow := (Disk.locate_eq_ok.1 hlocate').2
  rw [Disk.start_congr rfl hstart, hcomponents,
    Disk.follow_append (Disk.locate_eq_ok.1 h.located).2 h.is_folder] at hfollow
  exact Disk.follow_eq_append hfollow hup

theorem locate_archive (h : HasFolder folder place d e) (href : Archives.isReference ref = true)
    (hlocate : d.locate (Archives.path (archivesIn folder) ref) = .ok other) :
    other = archivePlace place ref := by
  refine h.locate_eq (components_archive folder href) (startsWith_slash_archive folder href) ?_
    hlocate
  simp only [List.mem_cons, List.not_mem_nil, or_false, not_or]
  exact ⟨by decide, (archiveName_ne_dots ref).symm⟩

theorem locate_ledger (h : HasFolder folder place d e)
    (hlocate : d.locate (ledgerIn folder) = .ok other) : other = ledgerPlace place :=
  h.locate_eq (components_ledger folder) (startsWith_slash_ledger folder) (by decide) hlocate

theorem locate_draft (h : HasFolder folder place d e)
    (hlocate : d.locate (Ledger.draft (ledgerIn folder)) = .ok other) :
    other = draftPlace place := by
  refine h.locate_eq (Ledger.components_draft (components_ledger folder)) ?_ (by decide) hlocate
  rw [Ledger.startsWith_slash_draft, startsWith_slash_ledger]

/-- The folder of the ledger is the data folder. -/
theorem eq_of_makeFolders (h : HasFolder folder place d e)
    (hmake : d.makeFolders (Ledger.folderOf (ledgerIn folder)) = .ok f) : f = e := by
  have hmade := (Disk.makeFolders_eq_ok.1 h.made).2
  have hmake := (Disk.makeFolders_eq_ok.1 hmake).2
  rw [Ledger.components_folderOf (components_ledger folder), Disk.start_congr rfl
    ((Ledger.startsWith_slash_folderOf _).trans (startsWith_slash_ledger folder)), hmade] at hmake
  exact (Except.ok.inj hmake).symm

/-- Making the folder of the archives makes no other one. -/
theorem isFolder_of_makeFolders (h : HasFolder folder place d e)
    (hmake : d.makeFolders (archivesIn folder) = .ok f) :
    Disk.Grows e f ∧ ∀ p, f.isFolder p = (e.isFolder p || decide (p = archivesPlace place)) := by
  have hmade := (Disk.makeFolders_eq_ok.1 h.made).2
  have hmake := (Disk.makeFolders_eq_ok.1 hmake).2
  have hlocated := (Disk.locate_eq_ok.1 h.located).2
  rw [Disk.start_congr h.grows.home rfl] at hlocated
  rw [archivesIn, FilePath.components_inside folder isName_archives, Disk.start_congr rfl
    (FilePath.startsWith_slash_inside folder isName_archives),
    Disk.makeFrom_append hmade hlocated] at hmake
  exact ⟨Disk.grows_of_makeFrom hmake, Disk.isFolder_of_makeFrom_singleton hmake (by decide)⟩

/-- The data folder goes on being there while only the folder of the archives is added. -/
theorem of_grown (h : HasFolder folder place d e) (hhome : f.home = e.home)
    (hkeep : Disk.KeepsFolders e f)
    (hnew : ∀ p, f.isFolder p = true → e.isFolder p = true ∨ p = archivesPlace place) :
    HasFolder folder place f f := by
  have hnone {names : List Text} (hne : names ≠ [("archives" : Text)])
      (hnames : e.isFolder (place ++ names) = false) : f.isFolder (place ++ names) = false := by
    refine Bool.eq_false_iff.2 fun hf => ?_
    rcases hnew _ hf with he | hp
    · rw [hnames] at he
      cases he
    · exact append_ne_append hne hp
  refine ⟨Disk.makeFolders_again h.made hkeep hhome, Disk.locate_mono hkeep hhome h.located,
    hkeep place h.is_folder, hnone (by decide) h.ledger_file, fun ref => ?_⟩
  exact hnone (fun heq => absurd (congrArg List.length heq) (by simp)) (h.archive_file ref)

/-- The data folder goes on being there with other files. -/
theorem of_same (h : HasFolder folder place d e) (hhome : f.home = e.home)
    (hfolders : ∀ p, f.isFolder p = e.isFolder p) : HasFolder folder place f f :=
  h.of_grown hhome (fun p hp => (hfolders p).trans hp) fun p hp =>
    Or.inl ((hfolders p).symm.trans hp)

end HasFolder

/-! ## Changes in the data folder -/

section Changes

variable {folder ref : Text} {place : List Text} {d e f : Disk} {bytes : Bytes}
  {book : List Record}

/-- A disk on which an archive has been put and nothing else has changed, but that the folder of
the archives is there. -/
structure Deposited (folder : Text) (place : List Text) (d f : Disk) (ref : Text) (bytes : Bytes) :
    Prop where
  has_folder : HasFolder folder place f f
  grown : ∃ g, Disk.Grows d g ∧ f = g.putAt (archivePlace place ref) bytes
  located : f.locate (Archives.path (archivesIn folder) ref) = .ok (archivePlace place ref)

/-- A disk on which the ledger has been written and the archives are as they were. -/
structure Rewritten (folder : Text) (place : List Text) (d f : Disk) : Prop where
  has_folder : HasFolder folder place f f
  keeps : Disk.KeepsFolders d f
  home : f.home = d.home
  located : f.locate (ledgerIn folder) = .ok (ledgerPlace place)
  archives : ∀ ref, f.file? (archivePlace place ref) = d.file? (archivePlace place ref)

theorem deposited_of_put (h : HasFolder folder place d e) (href : Archives.isReference ref = true)
    (hput : Archives.put d (archivesIn folder) ref bytes = .ok f) :
    Deposited folder place d f ref bytes := by
  obtain ⟨g, hmake, hwrite⟩ := Step.bind_eq_ok.1 hput
  obtain ⟨other, hother, -, rfl⟩ := Disk.write_eq_ok.1 hwrite
  obtain ⟨hgrows, hfolders⟩ := h.isFolder_of_makeFolders hmake
  have hg : HasFolder folder place g g := by
    refine h.of_grown hgrows.home hgrows.folders fun p hp => ?_
    rw [hfolders, Bool.or_eq_true, decide_eq_true_eq] at hp
    exact hp
  obtain rfl := hg.locate_archive href hother
  exact ⟨hg.of_same rfl fun _ => rfl, ⟨g, h.grows.trans hgrows, rfl⟩,
    (Disk.locate_putAt ..).2 hother⟩

theorem rewritten_of_insert {r : Record} (h : HasFolder folder place d e)
    (hinsert : Ledger.insert d (ledgerIn folder) r = .ok f) : Rewritten folder place d f := by
  obtain ⟨-, g, hmake, happend⟩ := Ledger.insert_eq_ok.1 hinsert
  obtain rfl := h.eq_of_makeFolders hmake
  obtain ⟨other, hother, -, rfl⟩ := Disk.append_eq_ok.1 happend
  have hg : HasFolder folder place g g := h.of_same rfl fun _ => rfl
  obtain rfl := hg.locate_ledger hother
  refine ⟨h.of_same rfl fun _ => rfl, h.grows.folders, h.grows.home,
    (Disk.locate_putAt ..).2 hother, fun ref => ?_⟩
  rw [Disk.file?_putAt, if_neg (archivePlace_ne_ledgerPlace ref), h.grows.file?]

/-- The ledger of a data folder holds a book.  It is told by its place, to which its path need not
lead yet when the data folder is still to be made. -/
def LedgerHolds (folder : Text) (place : List Text) (d : Disk) (book : List Record) : Prop :=
  d.file? (ledgerPlace place) = none ∧ book = [] ∨
    ∃ stored, Ledger.IsWritten d (ledgerIn folder) (ledgerPlace place) stored ∧
      stored.map Record.joined = book

theorem namesFile_ledgerIn (folder : Text) : Ledger.NamesFile (ledgerIn folder) :=
  ⟨components folder, "ledger.jsonl", components_ledger folder, by decide⟩

theorem LedgerHolds.holds (h : LedgerHolds folder place d book) (hd : HasFolder folder place d e) :
    Ledger.Holds d (ledgerIn folder) book := by
  rcases h with ⟨hnone, rfl⟩ | ⟨stored, hwritten, rfl⟩
  · refine Or.inl ⟨⟨namesFile_ledgerIn folder, ?_, fun f hf => ?_⟩, rfl⟩
    · refine Disk.exists?_eq_false.2 fun other hother => ?_
      obtain rfl := hd.locate_ledger hother
      refine ⟨Bool.eq_false_iff.2 fun hfolder => ?_, hnone⟩
      have := hd.ledger_file
      rw [hd.grows.folders _ hfolder] at this
      cases this
    · obtain rfl := hd.eq_of_makeFolders hf
      have hf' : HasFolder folder place f f := hd.of_same rfl fun _ => rfl
      refine Disk.exists?_eq_false.2 fun other hother => ?_
      obtain rfl := hf'.locate_ledger hother
      exact ⟨hd.ledger_file, (hd.grows.file? _).trans hnone⟩
  · exact Or.inr ⟨_, stored, hwritten, rfl⟩

/-- Where the ledger can be found, what it holds stands at its place. -/
theorem ledgerHolds_of_holds (h : Ledger.Holds d (ledgerIn folder) book)
    (hlocated : d.locate (ledgerIn folder) = .ok (ledgerPlace place)) :
    LedgerHolds folder place d book := by
  rcases h with ⟨hmissing, rfl⟩ | ⟨other, stored, hwritten, rfl⟩
  · exact Or.inl ⟨(Disk.exists?_eq_false.1 hmissing.missing _ hlocated).2, rfl⟩
  · have hother := hwritten.located
    rw [hlocated] at hother
    obtain rfl := Except.ok.inj hother
    exact Or.inr ⟨stored, hwritten, rfl⟩

/-- A ledger holds its book when an archive is put. -/
theorem LedgerHolds.deposited (h : LedgerHolds folder place d book)
    (hf : Deposited folder place d f ref bytes) : LedgerHolds folder place f book := by
  obtain ⟨g, hgrows, rfl⟩ := hf.grown
  have hfile : (g.putAt (archivePlace place ref) bytes).file? (ledgerPlace place) =
      d.file? (ledgerPlace place) := by
    rw [Disk.file?_putAt, if_neg (archivePlace_ne_ledgerPlace ref).symm, hgrows.file?]
  rcases h with ⟨hnone, rfl⟩ | ⟨stored, hwritten, rfl⟩
  · exact Or.inl ⟨hfile.trans hnone, rfl⟩
  · refine Or.inr ⟨stored, ⟨hwritten.names_file, ?_, hf.has_folder.ledger_file,
      hfile.trans hwritten.file, hwritten.writable, ?_⟩, rfl⟩
    · exact (Disk.locate_putAt ..).2 (Disk.locate_mono hgrows.folders hgrows.home hwritten.located)
    · exact Disk.makeFolders_again hwritten.made hgrows.folders hgrows.home

/-- Deleting records leaves the disk as it is or writes the ledger anew. -/
theorem rewritten_of_delete {run owner : Text} {removed : Bool} (h : HasFolder folder place d e)
    (hholds : LedgerHolds folder place d book)
    (hdelete : Ledger.delete d (ledgerIn folder) run owner = .ok (removed, f)) :
    f = d ∧ Ledger.without run owner book = book ∨ Rewritten folder place d f := by
  rcases (Ledger.delete_eq_ok (Ledger.records_of_holds (hholds.holds h))).1 hdelete with
    ⟨hsame, -, rfl⟩ | ⟨hchanged, -, hreplace⟩
  · exact Or.inl ⟨rfl, hsame⟩
  · obtain ⟨ledger, draft, hledger, -, hdraft, -, rfl⟩ := Ledger.replace_eq_ok.1 hreplace
    rcases hholds with ⟨-, rfl⟩ | ⟨stored, hwritten, -⟩
    · exact absurd rfl hchanged
    obtain rfl := h.eq_of_makeFolders hwritten.made
    obtain rfl := h.locate_ledger hledger
    obtain rfl := h.locate_draft hdraft
    refine Or.inr ⟨h.of_same rfl fun _ => rfl, fun p hp => hp, rfl, ?_, fun ref => ?_⟩
    · simpa using hledger
    · rw [Disk.file?_removeAt, if_neg (archivePlace_ne_draftPlace ref), Disk.file?_putAt,
        if_neg (archivePlace_ne_ledgerPlace ref), Disk.file?_putAt,
        if_neg (archivePlace_ne_draftPlace ref)]

end Changes

end Decouple
