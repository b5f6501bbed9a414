import Decouple.Analysis.Basic
import Decouple.Proofs.Extraction
import Decouple.Proofs.Zips

/-!
# Which members of an archive become files, and where

A member's name is cut at slashes and backslashes.  If what comes out is a place inside a project,
and the folder that all such names may share is taken off, then the member becomes a file there,
unless the place is excluded (`IsKept`).  `Extracts` says that an extraction does just that: no file
is missing, none is made up, the last of several members at one place counts, and every path is one
that everything after the extraction can work with.

That no path is empty in the end rests on all names at once: the shared folder is only taken off if
every name has something behind it.
-/

namespace Decouple

/-- Splitting at a code point after another one has been put as this one is splitting at both. -/
theorem Text.splitOn_replaceCodePoint (old new : CodePoint) (t : Text) :
    splitOn new (replaceCodePoint old new t) = splitWhere (fun c => c = new || c = old) t := by
  unfold splitOn replaceCodePoint
  induction t with
  | nil => rfl
  | cons c t ih =>
    rw [List.map_cons, splitWhere, splitWhere, ih]
    by_cases hold : c = old
    · simp [hold]
    · by_cases hnew : c = new <;> simp [hold, hnew]

/-- The files of a snapshot that is made of what a list holds: those that no later one replaces. -/
theorem Snapshot.mem_ofFiles_filterMap {α : Type} {g : α → Option File} {xs : List α} {f : File} :
    f ∈ (ofFiles (xs.filterMap g)).files ↔ ∃ before x after, xs = before ++ x :: after ∧
      g x = some f ∧ ∀ y ∈ after, ∀ f', g y = some f' → f'.path ≠ f.path := by
  have hget : f ∈ (ofFiles (xs.filterMap g)).files ↔
      (ofFiles (xs.filterMap g)).get? f.path = some f :=
    ⟨get?_of_mem, fun h => (get?_eq_some.1 h).1⟩
  rw [hget, get?_ofFiles_eq_some]
  simp only [true_and, List.mem_map, not_exists, not_and]
  constructor
  · rintro ⟨fs₁, fs₂, hsplit, hlast⟩
    obtain ⟨xs₁, rest, rfl, -, hrest⟩ := List.filterMap_eq_append_iff.1 hsplit
    obtain ⟨xs₂, x, xs₃, rfl, -, hx, rfl⟩ := List.filterMap_eq_cons_iff.1 hrest
    refine ⟨xs₁ ++ xs₂, x, xs₃, (List.append_assoc ..).symm, hx, fun y hy f' hf' => ?_⟩
    exact hlast f' (List.mem_filterMap.2 ⟨y, hy, hf'⟩)
  · rintro ⟨before, x, after, rfl, hx, hlast⟩
    refine ⟨before.filterMap g, after.filterMap g, ?_, fun f' hf' => ?_⟩
    · rw [List.filterMap_append, List.filterMap_cons_some hx]
    · obtain ⟨y, hy, hf'⟩ := List.mem_filterMap.1 hf'
      exact hlast y hy f' hf'

namespace Extraction

variable {s : Settings} {archive : Bytes} {entries : List Zip.Entry} {names : List Text}
  {name path : Text} {cs p : List Text} {α : Type}

/-! ## Names and places -/

/-- What stands between two components of a name. -/
def isSeparator (c : CodePoint) : Bool := c = '/' || c = '\\'

/-- The components of a name.  Empty ones and dots say nothing. -/
def componentsOf (name : Text) : List Text :=
  (Text.splitWhere isSeparator name).filter fun c => c ≠ [] && c ≠ "."

/-- Whether a name is that of a file inside a project. -/
structure IsInside (name : Text) : Prop where
  /-- It is not the name of a folder. -/
  file : name.getLast? ≠ some ('/' : CodePoint)
  /-- It does not start at the root. -/
  relative : ∀ c ∈ name.head?, isSeparator c = false
  ne_nil : componentsOf name ≠ []
  /-- No component leads upwards. -/
  ne_dots : (".." : Text) ∉ componentsOf name
  /-- It does not name a drive. -/
  drive : ∀ c ∈ (componentsOf name).head?, (':' : CodePoint) ∉ c

/-- Whether the files that are inside all lie in one folder. -/
def SharesFolder (names : List Text) : Prop :=
  ∃ folder, ∀ name ∈ names, IsInside name → ∃ rest, rest ≠ [] ∧ componentsOf name = folder :: rest

/-- Whether a name, among all names of an archive, is that of the file at some components. -/
structure IsPlaced (names : List Text) (name : Text) (cs : List Text) : Prop where
  inside : IsInside name
  /-- A shared folder is taken off. -/
  shared : SharesFolder names → ∃ folder, componentsOf name = folder :: cs
  whole : ¬SharesFolder names → componentsOf name = cs

/-- Whether a file at some components is excluded, by a folder that it is in or by its name. -/
def IsExcluded (s : Settings) (cs : List Text) : Prop :=
  (∃ c ∈ cs.dropLast, c ∈ s.retrieval.excludedFolders ∨ c = "__MACOSX") ∨
    ∃ c ∈ cs.getLast?, c ∈ s.retrieval.excludedFiles

/-- Whether a name is that of a file that is kept. -/
structure IsKept (s : Settings) (names : List Text) (name : Text) (cs : List Text) : Prop extends
    IsPlaced names name cs where
  kept : ¬IsExcluded s cs

theorem parts_eq (name : Text) : parts name = componentsOf name := by
  rw [parts, Text.splitOn_replaceCodePoint]
  rfl

theorem isFolder_iff : isFolder name = true ↔ name.getLast? = some ('/' : CodePoint) := by
  rw [isFolder, Text.endsWith, List.isSuffixOf_iff_suffix, List.getLast?_eq_some_iff]
  exact exists_congr fun _ => eq_comm

theorem isAbsolute_iff : isAbsolute name = true ↔ ∃ c ∈ name.head?, isSeparator c = true := by
  cases name with
  | nil => decide
  | cons c name =>
    have hhead : isAbsolute (c :: name) = ('/' == if c = '\\' then ('/' : CodePoint) else c) :=
      Bool.and_true _
    rw [hhead, beq_iff_eq]
    by_cases hback : c = '\\'
    · simp [isSeparator, hback]
    · simp [isSeparator, hback, eq_comm (a := c)]

theorem areInside_iff : areInside cs = true ↔
    cs ≠ [] ∧ (".." : Text) ∉ cs ∧ ∀ c ∈ cs.head?, (':' : CodePoint) ∉ c := by
  cases cs with
  | nil => simp [areInside]
  | cons c cs => simp [areInside]

/-- A name has a place exactly if it is that of a file inside a project. -/
theorem place?_eq_some_iff : place? name = some p ↔ IsInside name ∧ componentsOf name = p := by
  have hinside : IsInside name ↔ isFolder name = false ∧ isAbsolute name = false ∧
      areInside (componentsOf name) = true := by
    rw [← Bool.not_eq_true, isFolder_iff, ← Bool.not_eq_true, isAbsolute_iff, areInside_iff]
    simp only [not_exists, not_and, Bool.not_eq_true]
    constructor
    · exact fun h => ⟨h.file, h.relative, h.ne_nil, h.ne_dots, h.drive⟩
    · exact fun ⟨file, relative, ne_nil, ne_dots, drive⟩ =>
        ⟨file, relative, ne_nil, ne_dots, drive⟩
  constructor
  · intro h
    obtain ⟨hfolder, habsolute, harea, hparts⟩ := place?_eq_some h
    rw [parts_eq] at harea hparts
    exact ⟨hinside.2 ⟨hfolder, habsolute, harea⟩, hparts⟩
  · rintro ⟨h, rfl⟩
    obtain ⟨hfolder, habsolute, harea⟩ := hinside.1 h
    rw [place?, parts_eq, hfolder, habsolute, harea]
    rfl

/-! ## The shared folder -/

/-- Places share a folder if each is something inside it. -/
theorem shareFolder_iff {places : List (List Text)} (hne : places ≠ []) :
    shareFolder places = true ↔
      ∃ folder, ∀ p ∈ places, ∃ rest, rest ≠ [] ∧ p = folder :: rest := by
  obtain ⟨first, others, rfl⟩ := List.exists_cons_of_ne_nil hne
  constructor
  · intro h
    refine ⟨first.headD [], fun p hp => ?_⟩
    have hall := List.all_eq_true.1 h p hp
    simp only [Bool.and_eq_true, decide_eq_true_eq] at hall
    obtain ⟨hhead, hlong⟩ := hall
    cases p with
    | nil => simp at hlong
    | cons folder rest =>
      refine ⟨rest, fun h => ?_, ?_⟩
      · simp [h] at hlong
      · rw [← hhead, List.headD_cons]
  · rintro ⟨folder, h⟩
    obtain ⟨rest₁, -, hfirst⟩ := h first (List.mem_cons_self ..)
    refine List.all_eq_true.2 fun p hp => ?_
    obtain ⟨rest, hrest, rfl⟩ := h p hp
    simp [hfirst, List.length_pos_iff, hrest]

/-- If there is a file inside, the folder that is taken off is the one that all files share. -/
theorem sharesFolder_iff (hmem : name ∈ names) (hname : IsInside name) :
    shareFolder (names.filterMap place?) = true ↔ SharesFolder names := by
  have hplaces : ∀ p, p ∈ names.filterMap place? ↔
      ∃ name ∈ names, IsInside name ∧ componentsOf name = p := by
    intro p
    simp only [List.mem_filterMap, place?_eq_some_iff]
  rw [shareFolder_iff (List.ne_nil_of_mem ((hplaces _).2 ⟨name, hmem, hname, rfl⟩))]
  refine exists_congr fun folder => ?_
  simp only [hplaces]
  constructor
  · exact fun h name hmem hname => h _ ⟨name, hmem, hname, rfl⟩
  · rintro h _ ⟨name, hmem, hname, rfl⟩
    exact h name hmem hname

/-! ## Members that are kept -/

theorem excludes_iff (hne : cs ≠ []) : excludes s cs = true ↔ IsExcluded s cs := by
  obtain ⟨folders, last, rfl⟩ := (List.eq_nil_or_concat cs).resolve_left hne
  simp [excludes, excludesFolder, IsExcluded, List.any_eq_true]

/-- The components at which a file is kept; `shared` says whether a folder is taken off. -/
def kept? (s : Settings) (shared : Bool) (name : Text) : Option (List Text) :=
  ((place? name).map fun p => if shared then p.tail else p).filter fun p => !excludes s p

theorem withoutShared_eq (members : List (List Text × α)) : withoutShared members =
    members.map fun (p, a) => (if shareFolder (members.map (·.1)) then p.tail else p, a) := by
  unfold withoutShared
  split
  · rfl
  · exact (List.map_id _).symm

/-- What is placed, name by name. -/
theorem placed_eq (s : Settings) (members : List (Text × α)) : placed s members =
    members.filterMap fun m =>
      (kept? s (shareFolder ((members.map Prod.fst).filterMap place?)) m.1).map fun cs =>
        (Text.join "/" cs, m.2) := by
  have hplaced : placed s members = ((withoutShared (members.filterMap fun m =>
      (place? m.1).map fun p => (p, m.2))).filter fun m => !excludes s m.1).map
        fun m => (Text.join "/" m.1, m.2) := rfl
  have hplaces : (members.filterMap fun m => (place? m.1).map fun p => (p, m.2)).map (·.1) =
      (members.map Prod.fst).filterMap place? := by
    rw [List.map_filterMap, List.filterMap_map]
    refine List.filterMap_congr fun m _ => ?_
    simp [Function.comp_def]
  rw [hplaced, withoutShared_eq, hplaces]
  generalize shareFolder ((members.map Prod.fst).filterMap place?) = shared
  rw [List.map_filterMap, List.filter_filterMap, List.map_filterMap]
  refine List.filterMap_congr fun m _ => ?_
  cases hplace : place? m.1 with
  | none => simp [kept?, hplace]
  | some p => cases hkept : excludes s (if shared = true then p.tail else p) <;>
      simp [kept?, hplace, hkept, Option.filter]

theorem isPlaced_iff (hmem : name ∈ names) : IsPlaced names name cs ↔ ∃ p, place? name = some p ∧
    (if shareFolder (names.filterMap place?) then p.tail else p) = cs := by
  constructor
  · intro h
    refine ⟨_, place?_eq_some_iff.2 ⟨h.inside, rfl⟩, ?_⟩
    split
    · next hshare =>
      obtain ⟨folder, hp⟩ := h.shared ((sharesFolder_iff hmem h.inside).1 hshare)
      rw [hp, List.tail_cons]
    · next hshare => exact h.whole (mt (sharesFolder_iff hmem h.inside).2 hshare)
  · rintro ⟨p, hplace, rfl⟩
    obtain ⟨hinside, rfl⟩ := place?_eq_some_iff.1 hplace
    have hiff := sharesFolder_iff hmem hinside
    refine ⟨hinside, fun hshares => ?_, fun hshares => ?_⟩
    · obtain ⟨folder, hall⟩ := id hshares
      obtain ⟨rest, -, hp⟩ := hall name hmem hinside
      rw [if_pos (hiff.2 hshares), hp]
      exact ⟨folder, rfl⟩
    · rw [if_neg (mt hiff.1 hshares)]

/-- Where a folder is taken off, something is left. -/
theorem IsPlaced.ne_nil (h : IsPlaced names name cs) (hmem : name ∈ names) : cs ≠ [] := by
  by_cases hshares : SharesFolder names
  · obtain ⟨folder, hcs⟩ := h.shared hshares
    obtain ⟨folder', hall⟩ := hshares
    obtain ⟨rest, hrest, hp⟩ := hall name hmem h.inside
    rw [hcs, List.cons.injEq] at hp
    rw [hp.2]
    exact hrest
  · rw [← h.whole hshares]
    exact h.inside.ne_nil

/-- A name is kept at the components of a kept file. -/
theorem kept?_eq_some_iff (hmem : name ∈ names) :
    kept? s (shareFolder (names.filterMap place?)) name = some cs ↔ IsKept s names name cs := by
  rw [kept?, Option.filter_eq_some_iff, Option.map_eq_some_iff, ← isPlaced_iff hmem,
    Bool.not_eq_true', ← Bool.not_eq_true]
  constructor
  · rintro ⟨hplaced, hkept⟩
    exact ⟨hplaced, mt (excludes_iff (hplaced.ne_nil hmem)).2 hkept⟩
  · intro h
    exact ⟨h.toIsPlaced, mt (excludes_iff (h.ne_nil hmem)).1 h.kept⟩

/-- The components of a placed file are components of its name. -/
theorem IsPlaced.mem_componentsOf (h : IsPlaced names name cs) {c : Text} (hc : c ∈ cs) :
    c ∈ componentsOf name := by
  by_cases hshares : SharesFolder names
  · obtain ⟨folder, hcs⟩ := h.shared hshares
    rw [hcs]
    exact List.mem_cons_of_mem _ hc
  · rwa [h.whole hshares]

theorem IsPlaced.isComponent (h : IsPlaced names name cs) {c : Text} (hc : c ∈ cs) :
    IsComponent c ∧ ('/' : CodePoint) ∉ c := by
  have hplace := place?_eq_some_iff.2 ⟨h.inside, rfl⟩
  obtain ⟨hcomponent, hslash, -⟩ := (of_place? hplace).2 c (h.mem_componentsOf hc)
  exact ⟨hcomponent, hslash⟩

/-- Files at different components have different paths. -/
theorem IsPlaced.join_inj {other : Text} {ds : List Text} (h : IsPlaced names name cs)
    (hmem : name ∈ names) (h' : IsPlaced names other ds) (hmem' : other ∈ names)
    (hjoin : Text.join "/" cs = Text.join "/" ds) : cs = ds := by
  have hsplit := splitOn_join_place (h.ne_nil hmem) fun c hc => (h.isComponent hc).2
  have hsplit' := splitOn_join_place (h'.ne_nil hmem') fun c hc => (h'.isComponent hc).2
  rw [← hsplit, hjoin, hsplit']

/-! ## Reading an archive -/

/-- Whether an archive can be read: it lists members, and those that are kept have a content. -/
structure IsReadable (s : Settings) (archive : Bytes) (entries : List Zip.Entry) : Prop where
  listed : Zip.directory archive = .ok entries
  contents : ∀ e ∈ entries, ∀ cs, IsKept s (entries.map (·.name)) e.name cs →
    ∃ b, Zip.content archive e = .ok b

/-- Whether a file is that of the last member that is kept where the file is. -/
def IsLast (s : Settings) (archive : Bytes) (entries : List Zip.Entry) (f : File) : Prop :=
  ∃ before e after cs b, entries = before ++ e :: after ∧
    IsKept s (entries.map (·.name)) e.name cs ∧
    (∀ e' ∈ after, ¬IsKept s (entries.map (·.name)) e'.name cs) ∧
    Zip.content archive e = .ok b ∧ f = ⟨Text.join "/" cs, Content.ofBytes b⟩

/-- Whether a path is one that everything after an extraction can work with. -/
def IsUsable (s : Settings) (path : Text) : Prop :=
  ∃ cs, cs ≠ [] ∧ (∀ c ∈ cs, IsComponent c ∧ ('/' : CodePoint) ∉ c) ∧ ¬IsExcluded s cs ∧
    path = Text.join "/" cs

/-- Whether a snapshot is what an extraction is to make of the members of an archive. -/
structure Extracts (s : Settings) (archive : Bytes) (entries : List Zip.Entry)
    (snapshot : Snapshot) : Prop where
  usable : ∀ p ∈ snapshot.paths, IsUsable s p
  /-- No file is missing that is kept. -/
  present : ∀ e ∈ entries, ∀ cs, IsKept s (entries.map (·.name)) e.name cs →
    Text.join "/" cs ∈ snapshot.paths
  /-- The files are those of the last members kept at their places. -/
  mem_iff : ∀ f, f ∈ snapshot.files ↔ IsLast s archive entries f
  /-- No analysis of a project with one of the paths finds fault with it. -/
  accepted : ∀ p ∈ snapshot.paths, ∀ (s' : Settings) (project : Snapshot),
    Analysis.ofSnapshot s' project ≠ .error (.invalidPath p)

/-- The file of a member that is kept; a content that cannot be read is left empty. -/
def fileOf? (s : Settings) (archive : Bytes) (names : List Text) (e : Zip.Entry) : Option File :=
  (kept? s (shareFolder (names.filterMap place?)) e.name).map fun cs =>
    ⟨Text.join "/" cs, Content.ofBytes ((Zip.content archive e).toOption.getD [])⟩

/-- The files of the kept members, in the order of the members. -/
def extracted (s : Settings) (archive : Bytes) (entries : List Zip.Entry) : Snapshot :=
  Snapshot.ofFiles (entries.filterMap (fileOf? s archive (entries.map (·.name))))

theorem placed_named (s : Settings) (entries : List Zip.Entry) : placed s (named entries) =
    entries.filterMap fun e =>
      (kept? s (shareFolder ((entries.map (·.name)).filterMap place?)) e.name).map fun cs =>
        (Text.join "/" cs, e) := by
  have hnames : (named entries).map Prod.fst = entries.map (·.name) := by
    rw [named, List.map_map]
    rfl
  rw [placed_eq, hnames, named, List.filterMap_map]
  rfl

theorem mem_placed_named {e : Zip.Entry} : (path, e) ∈ placed s (named entries) ↔
    e ∈ entries ∧ ∃ cs, IsKept s (entries.map (·.name)) e.name cs ∧ Text.join "/" cs = path := by
  rw [placed_named, List.mem_filterMap]
  constructor
  · rintro ⟨e', he, hkept⟩
    obtain ⟨cs, hcs, hpair⟩ := Option.map_eq_some_iff.1 hkept
    cases hpair
    exact ⟨he, cs, (kept?_eq_some_iff (List.mem_map_of_mem he)).1 hcs, rfl⟩
  · rintro ⟨he, cs, hcs, rfl⟩
    exact ⟨e, he, Option.map_eq_some_iff.2
      ⟨cs, (kept?_eq_some_iff (List.mem_map_of_mem he)).2 hcs, rfl⟩⟩

/-- A readable archive is read as the files of its kept members. -/
theorem read_of_isReadable (h : IsReadable s archive entries) :
    read s archive = .ok (extracted s archive entries) := by
  have hfiles : entries.filterMap (fileOf? s archive (entries.map (·.name))) =
      (placed s (named entries)).map fun m =>
        ⟨m.1, Content.ofBytes ((Zip.content archive m.2).toOption.getD [])⟩ := by
    rw [placed_named, List.map_filterMap]
    refine List.filterMap_congr fun e _ => ?_
    rw [fileOf?, Option.map_map]
    rfl
  have hread : ∀ m ∈ placed s (named entries), readFile archive m.1 m.2 =
      .ok ⟨m.1, Content.ofBytes ((Zip.content archive m.2).toOption.getD [])⟩ := by
    rintro ⟨path, e⟩ hm
    obtain ⟨he, cs, hcs, rfl⟩ := mem_placed_named.1 hm
    obtain ⟨b, hb⟩ := h.contents e he cs hcs
    rw [readFile, hb]
    rfl
  refine Step.bind_eq_ok.2 ⟨entries, h.listed, Step.bind_eq_ok.2 ⟨_, ?_, rfl⟩⟩
  rw [hfiles]
  exact Step.mapM_eq_ok.2 (List.forall₂_map_right_iff.2 (List.forall₂_same.2 hread))

/-- No other archives are read. -/
theorem exists_isReadable {snapshot : Snapshot} (h : read s archive = .ok snapshot) :
    ∃ entries, IsReadable s archive entries := by
  obtain ⟨entries, files, hentries, hfiles, -⟩ := read_eq_ok h
  refine ⟨entries, hentries, fun e he cs hcs => ?_⟩
  obtain ⟨f, -, hread⟩ := Related.exists_right hfiles (mem_placed_named.2 ⟨he, cs, hcs, rfl⟩)
  obtain ⟨b, hb, -⟩ := readFile_eq_ok.1 hread
  exact ⟨b, hb⟩

/-! ## What an extraction makes of an archive -/

theorem fileOf?_eq_some (h : IsReadable s archive entries) {e : Zip.Entry} (he : e ∈ entries)
    {f : File} : fileOf? s archive (entries.map (·.name)) e = some f ↔
      ∃ cs b, IsKept s (entries.map (·.name)) e.name cs ∧ Zip.content archive e = .ok b ∧
        f = ⟨Text.join "/" cs, Content.ofBytes b⟩ := by
  simp only [fileOf?, Option.map_eq_some_iff, kept?_eq_some_iff (List.mem_map_of_mem he)]
  refine exists_congr fun cs => ?_
  constructor
  · rintro ⟨hkept, rfl⟩
    obtain ⟨b, hb⟩ := h.contents e he cs hkept
    exact ⟨b, hkept, hb, by rw [hb]; rfl⟩
  · rintro ⟨b, hkept, hb, rfl⟩
    exact ⟨hkept, by rw [hb]; rfl⟩

/-- The files that are read are those of the last members at their places. -/
theorem mem_files_iff (h : IsReadable s archive entries) (f : File) :
    f ∈ (extracted s archive entries).files ↔ IsLast s archive entries f := by
  rw [extracted, Snapshot.mem_ofFiles_filterMap]
  constructor
  · rintro ⟨before, e, after, rfl, hf, hlast⟩
    have he : e ∈ before ++ e :: after := by simp
    obtain ⟨cs, b, hkept, hb, rfl⟩ := (fileOf?_eq_some h he).1 hf
    refine ⟨before, e, after, cs, b, rfl, hkept, fun e' hafter hkept' => ?_, hb, rfl⟩
    have he' : e' ∈ before ++ e :: after := by simp [hafter]
    obtain ⟨b', hb'⟩ := h.contents e' he' cs hkept'
    exact hlast e' hafter _ ((fileOf?_eq_some h he').2 ⟨cs, b', hkept', hb', rfl⟩) rfl
  · rintro ⟨before, e, after, cs, b, rfl, hkept, hlast, hb, rfl⟩
    have he : e ∈ before ++ e :: after := by simp
    refine ⟨before, e, after, rfl, (fileOf?_eq_some h he).2 ⟨cs, b, hkept, hb, rfl⟩, ?_⟩
    intro e' hafter f' hf' hpath
    have he' : e' ∈ before ++ e :: after := by simp [hafter]
    obtain ⟨cs', b', hkept', -, rfl⟩ := (fileOf?_eq_some h he').1 hf'
    have hsame : cs' = cs := hkept'.join_inj (List.mem_map_of_mem he') hkept.toIsPlaced
      (List.mem_map_of_mem he) hpath
    rw [hsame] at hkept'
    exact hlast e' hafter hkept'

/-- Where a file is kept, the path can be worked with. -/
theorem IsKept.isUsable (h : IsKept s names name cs) (hmem : name ∈ names) :
    IsUsable s (Text.join "/" cs) :=
  ⟨cs, h.ne_nil hmem, fun _ hc => h.isComponent hc, h.kept, rfl⟩

theorem IsUsable.isComponent {c : Text} (h : IsUsable s path) (hc : c ∈ Text.splitOn '/' path) :
    IsComponent c := by
  obtain ⟨cs, hne, hcomponents, -, rfl⟩ := h
  rw [splitOn_join_place hne fun c hc => (hcomponents c hc).2] at hc
  exact (hcomponents c hc).1

/-- A path that can be worked with is not empty and does not start at the root. -/
theorem IsUsable.validPath (h : IsUsable s path) : Analysis.validPath path = true := by
  have hnil : [] ∉ Text.splitOn '/' path := fun hc => (h.isComponent hc).ne_nil rfl
  rw [Analysis.validPath, Bool.and_eq_true, Bool.not_eq_true', List.isEmpty_eq_false_iff,
    Bool.not_eq_true']
  refine ⟨fun hempty => hnil ?_, Bool.eq_false_iff.2 fun hslash => hnil ?_⟩
  · rw [hempty]
    exact List.mem_cons_self ..
  · exact Text.nil_mem_splitOn_of_startsWith hslash

end Extraction

namespace Analysis

variable {s : Settings} {snapshot : Snapshot} {p : Text}

theorem validPath_of_ofFiles {fs : List File} (h : ofFiles s fs = .error (.invalidPath p)) :
    validPath p = false := by
  induction fs with
  | nil => cases h
  | cons f fs ih =>
    rw [ofFiles] at h
    split at h
    · next hpath =>
      cases h
      simpa using hpath
    · split at h
      · cases h
      · cases hrest : ofFiles s fs with
        | error e =>
          rw [hrest] at h
          cases h
          exact ih hrest
        | ok fas =>
          rw [hrest] at h
          cases h

/-- A path that an analysis finds fault with is empty or starts at the root. -/
theorem validPath_of_invalidPath (h : ofSnapshot s snapshot = .error (.invalidPath p)) :
    validPath p = false := by
  rw [ofSnapshot] at h
  cases hfiles : ofFiles s snapshot.sorted with
  | error e =>
    rw [hfiles] at h
    cases h
    exact validPath_of_ofFiles hfiles
  | ok fas =>
    rw [hfiles] at h
    cases h

end Analysis

namespace Extraction

variable {s : Settings} {archive : Bytes} {entries : List Zip.Entry}

theorem extracts_extracted (h : IsReadable s archive entries) :
    Extracts s archive entries (extracted s archive entries) := by
  have husable : ∀ p ∈ (extracted s archive entries).paths, IsUsable s p := by
    intro p hp
    obtain ⟨f, hf, rfl⟩ := List.mem_map.1 hp
    obtain ⟨before, e, after, cs, b, rfl, hkept, -, -, rfl⟩ := (mem_files_iff h f).1 hf
    exact hkept.isUsable (by simp)
  refine
    { usable := husable
      present := fun e he cs hkept => ?_
      mem_iff := mem_files_iff h
      accepted := fun p hp s' project herror => ?_ }
  · obtain ⟨b, hb⟩ := h.contents e he cs hkept
    have hfile := (fileOf?_eq_some h he).2 ⟨cs, b, hkept, hb, rfl⟩
    have hmem := List.mem_map_of_mem (f := File.path) (List.mem_filterMap.2 ⟨e, he, hfile⟩)
    exact Snapshot.mem_paths_putAll.2 (.inr hmem)
  · have hvalid := (husable p hp).validPath
    rw [Analysis.validPath_of_invalidPath herror] at hvalid
    cases hvalid

/-- An archive that can be read is extracted as it is to be. -/
theorem retrieve_extracts (h : IsReadable s archive entries) (label : Text) :
    ∃ r, retrieve s archive label = .ok r ∧ Extracts s archive entries r.snapshot :=
  ⟨_, retrieve_of_read (read_of_isReadable h) label, extracts_extracted h⟩

theorem isReadable_of_holds {ms : List Zip.Member} (h : Packaging.Holds archive ms) :
    ∃ entries, IsReadable s archive entries := by
  obtain ⟨entries, hlisted, hentries⟩ := h
  refine ⟨entries, hlisted, fun e he _ _ => ?_⟩
  obtain ⟨m, -, -, hcontent⟩ := Related.exists_left hentries he
  exact ⟨_, hcontent⟩

/-- A file under two spellings of its name, a file outside, a folder, and excluded files. -/
def spelledTwice : List Zip.Member := [
  ⟨"p\\src//./a.ts", [0x61]⟩, ⟨"../b.ts", [0x62]⟩, ⟨"p/src/", []⟩, ⟨"p/dist/c.js", [0x63]⟩,
  ⟨"p/bun.lockb", [0x64]⟩, ⟨"p/src/a.ts", [0x65]⟩]

theorem spelledTwice_extracted : ∃ entries r, IsReadable {} (Zip.write spelledTwice) entries ∧
    retrieve {} (Zip.write spelledTwice) "upload.zip" = .ok r ∧
      Extracts {} (Zip.write spelledTwice) entries r.snapshot ∧
        r.snapshot.files = [⟨"src/a.ts", .text "e"⟩] := by
  have hfits : Zip.Fits spelledTwice := by decide +kernel
  have hfiles : (retrieve {} (Zip.write spelledTwice) "upload.zip").toOption.map
      (·.snapshot.files) = some [⟨"src/a.ts", .text "e"⟩] := by decide +kernel
  obtain ⟨entries, hreadable⟩ := isReadable_of_holds (s := {}) (Zip.holds_write hfits)
  obtain ⟨r, hretrieve, hextracts⟩ := retrieve_extracts hreadable "upload.zip"
  rw [hretrieve] at hfiles
  exact ⟨entries, r, hreadable, hretrieve, hextracts, Option.some.inj hfiles⟩

end Extraction

end Decouple
