import Decouple.Proofs.ArchivePaths

/-!
# What is left when the shared folder is taken off

A name is asked for a drive before the folder that all names share is taken off.  So behind this
folder a component with a colon may stand, which then comes first: it is what a path starts with
(`HidesDrive`).  Nothing else comes back: no path starts at the root or leads upwards, whatever is
taken off (`safe_iff_not_hidesDrive`).
-/

namespace Decouple.Extraction

variable {s : Settings} {archive : Bytes} {entries : List Zip.Entry} {names : List Text}
  {name path : Text} {cs : List Text} {snapshot : Snapshot}

/-- Whether a path stays where it is put. -/
structure IsSafe (path : Text) : Prop where
  /-- It does not name a drive. -/
  drive : ∀ c ∈ (Text.splitOn '/' path).head?, (':' : CodePoint) ∉ c
  /-- It does not start at the root. -/
  relative : path.head? ≠ some ('/' : CodePoint)
  /-- No component leads upwards. -/
  ne_dots : (".." : Text) ∉ Text.splitOn '/' path

/-- Whether a kept name has a drive behind the folder that all names share. -/
def HidesDrive (s : Settings) (names : List Text) : Prop :=
  SharesFolder names ∧ ∃ name ∈ names, IsInside name ∧ ∃ folder drive rest,
    componentsOf name = folder :: drive :: rest ∧ (':' : CodePoint) ∈ drive ∧
      ¬IsExcluded s (drive :: rest)

/-! ## Paths that can be worked with -/

theorem IsUsable.relative (h : IsUsable s path) : path.head? ≠ some ('/' : CodePoint) := by
  intro hroot
  obtain ⟨rest, rfl⟩ := List.head?_eq_some_iff.1 hroot
  have hstart : Text.startsWith ('/' :: rest) "/" = true :=
    List.isPrefixOf_iff_prefix.2 (List.prefix_append [('/' : CodePoint)] rest)
  exact (h.isComponent (Text.nil_mem_splitOn_of_startsWith hstart)).ne_nil rfl

theorem IsUsable.ne_dots (h : IsUsable s path) : (".." : Text) ∉ Text.splitOn '/' path :=
  fun hdots => (h.isComponent hdots).ne_dots rfl

/-- Of such a path only the drive is open. -/
theorem IsUsable.isSafe_iff (h : IsUsable s path) :
    IsSafe path ↔ ∀ c ∈ (Text.splitOn '/' path).head?, (':' : CodePoint) ∉ c :=
  ⟨IsSafe.drive, fun hdrive => ⟨hdrive, h.relative, h.ne_dots⟩⟩

/-! ## Drives behind the shared folder -/

theorem Extracts.mem_paths_iff (h : Extracts s archive entries snapshot) :
    path ∈ snapshot.paths ↔ ∃ name ∈ entries.map (·.name), ∃ cs,
      IsKept s (entries.map (·.name)) name cs ∧ Text.join "/" cs = path := by
  constructor
  · intro hpath
    obtain ⟨f, hf, rfl⟩ := List.mem_map.1 hpath
    obtain ⟨before, e, after, cs, b, rfl, hkept, -, -, rfl⟩ := (h.mem_iff f).1 hf
    exact ⟨e.name, List.mem_map_of_mem (by simp), cs, hkept, rfl⟩
  · rintro ⟨name, hname, cs, hkept, rfl⟩
    obtain ⟨e, he, rfl⟩ := List.mem_map.1 hname
    exact h.present e he cs hkept

/-- Only behind a shared folder a drive comes first: without one, the first component of a name has
been asked for it. -/
theorem exists_kept_drive_iff : (∃ name ∈ names, ∃ cs, IsKept s names name cs ∧
    ∃ c ∈ cs.head?, (':' : CodePoint) ∈ c) ↔ HidesDrive s names := by
  constructor
  · rintro ⟨name, hmem, cs, hkept, drive, hdrive, hcolon⟩
    obtain ⟨rest, rfl⟩ := List.head?_eq_some_iff.1 hdrive
    have hshares : SharesFolder names := by
      by_contra hshares
      have hwhole := hkept.whole hshares
      exact hkept.inside.drive drive (by rw [hwhole]; rfl) hcolon
    obtain ⟨folder, hcomponents⟩ := hkept.shared hshares
    exact ⟨hshares, name, hmem, hkept.inside, folder, drive, rest, hcomponents, hcolon,
      hkept.kept⟩
  · rintro ⟨hshares, name, hmem, hinside, folder, drive, rest, hcomponents, hcolon, hkept⟩
    have hplaced : IsPlaced names name (drive :: rest) :=
      ⟨hinside, fun _ => ⟨folder, hcomponents⟩, fun h => absurd hshares h⟩
    exact ⟨name, hmem, drive :: rest, ⟨hplaced, hkept⟩, drive, rfl, hcolon⟩

theorem Extracts.safe_iff (h : Extracts s archive entries snapshot) :
    (∀ p ∈ snapshot.paths, IsSafe p) ↔ ¬HidesDrive s (entries.map (·.name)) := by
  rw [← exists_kept_drive_iff]
  have hsplit {name : Text} {cs : List Text} (hname : name ∈ entries.map (·.name))
      (hkept : IsKept s (entries.map (·.name)) name cs) :
      Text.splitOn '/' (Text.join "/" cs) = cs :=
    splitOn_join_place (hkept.ne_nil hname) fun c hc => (hkept.isComponent hc).2
  constructor
  · rintro hsafe ⟨name, hname, cs, hkept, drive, hdrive, hcolon⟩
    have hpath := h.mem_paths_iff.2 ⟨name, hname, cs, hkept, rfl⟩
    refine (hsafe _ hpath).drive drive ?_ hcolon
    rwa [hsplit hname hkept]
  · intro hnone p hp
    rw [(h.usable p hp).isSafe_iff]
    intro drive hdrive hcolon
    obtain ⟨name, hname, cs, hkept, rfl⟩ := h.mem_paths_iff.1 hp
    rw [hsplit hname hkept] at hdrive
    exact hnone ⟨name, hname, cs, hkept, drive, hdrive, hcolon⟩

/-- No path that is extracted starts at the root or leads upwards, and none names a drive either
unless one is hidden behind the shared folder. -/
theorem safe_iff_not_hidesDrive (h : IsReadable s archive entries) (label : Text) :
    ∃ r, retrieve s archive label = .ok r ∧
      (∀ p ∈ r.snapshot.paths,
        p.head? ≠ some ('/' : CodePoint) ∧ (".." : Text) ∉ Text.splitOn '/' p) ∧
      ((∀ p ∈ r.snapshot.paths, IsSafe p) ↔ ¬HidesDrive s (entries.map (·.name))) := by
  obtain ⟨r, hretrieve, hextracts⟩ := retrieve_extracts h label
  exact ⟨r, hretrieve,
    fun p hp => ⟨(hextracts.usable p hp).relative, (hextracts.usable p hp).ne_dots⟩,
    hextracts.safe_iff⟩

/-- A file in a folder, and one on a drive there. -/
def driveInside : List Zip.Member := [⟨"top/b.txt", [0x62]⟩, ⟨"top/c:/x.txt", [0x78]⟩]

theorem exists_unsafe_driveInside : ∃ r,
    retrieve {} (Zip.write driveInside) "upload.zip" = .ok r ∧
      ∃ p ∈ r.snapshot.paths, ¬IsSafe p := by
  have hpaths : (retrieve {} (Zip.write driveInside) "upload.zip").toOption.map
      (·.snapshot.paths) = some [("b.txt" : Text), "c:/x.txt"] := by decide +kernel
  cases hretrieve : retrieve {} (Zip.write driveInside) "upload.zip" with
  | error e =>
    rw [hretrieve] at hpaths
    cases hpaths
  | ok r =>
    rw [hretrieve] at hpaths
    refine ⟨r, rfl, "c:/x.txt", ?_, fun h => h.drive "c:" (by decide +kernel) (by decide)⟩
    have hlist : r.snapshot.paths = [("b.txt" : Text), "c:/x.txt"] := Option.some.inj hpaths
    rw [hlist]
    decide

theorem driveInside_hidden : ∃ entries r, IsReadable {} (Zip.write driveInside) entries ∧
    retrieve {} (Zip.write driveInside) "upload.zip" = .ok r ∧
      (∃ p ∈ r.snapshot.paths, ¬IsSafe p) ∧ HidesDrive {} (entries.map (·.name)) := by
  have hfits : Zip.Fits driveInside := by decide +kernel
  obtain ⟨entries, hreadable⟩ := isReadable_of_holds (s := {}) (Zip.holds_write hfits)
  obtain ⟨r, hretrieve, -, hsafe⟩ := safe_iff_not_hidesDrive hreadable "upload.zip"
  obtain ⟨r', hretrieve', p, hp, hunsafe⟩ := exists_unsafe_driveInside
  obtain rfl : r = r' := Except.ok.inj (hretrieve.symm.trans hretrieve')
  refine ⟨entries, r, hreadable, hretrieve, ⟨p, hp, hunsafe⟩, ?_⟩
  by_contra hnone
  exact hunsafe (hsafe.2 hnone p hp)

/-- Taking off the shared folder brings back paths that would have been dropped. -/
theorem not_forall_extracted_safe : ¬∀ (s : Settings) (archive : Bytes) (label : Text)
    (r : Retrieved), retrieve s archive label = .ok r → ∀ p ∈ r.snapshot.paths, IsSafe p := by
  intro h
  obtain ⟨r, hretrieve, p, hp, hunsafe⟩ := exists_unsafe_driveInside
  exact hunsafe (h _ _ _ r hretrieve p hp)

end Decouple.Extraction
