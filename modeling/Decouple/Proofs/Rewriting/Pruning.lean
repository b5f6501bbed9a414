import Decouple.Proofs.Agreement.Manifests

/-!
# What leaves a package.json

A rewritten `package.json` is read as its members without what belongs to a platform: dependencies
in the four sections that declare them, and scripts that run a platform's tool (`Pruned`).  The notes
name just what is missing (`Announces`), and all else is where it was, at every depth.

Numbers that are not whole are written with the fewest digits that give them back, so what they are
read as again is compared on both sides (`Json.reread`).
-/

namespace Decouple

open Json (reread rereadMembers)

namespace Rewrite

variable {s : Settings} {path content : Text} {members inner : List (Text × Json)} {r : Rewrite}

/-! ## Members and what is missing from them -/

/-- What becomes of a member of a `package.json`. -/
inductive PrunedMember (s : Settings) : Text × Json → Text × Json → Prop where
  /-- A section of dependencies loses those that a platform owns. -/
  | dependencies {name : Text} {deps : List (Text × Json)}
      (hname : name ∈ PackageJson.dependencySections) :
      PrunedMember s (name, .object deps)
        (name, .object (deps.filter fun d => (s.packageOwner? d.1).isNone))
  /-- The scripts lose those whose command runs a platform's tool. -/
  | scripts {entries : List (Text × Json)} :
      PrunedMember s ("scripts", .object entries)
        ("scripts", .object (entries.filter fun e => e.2.text?.all fun command =>
          !runsPlatformTool s command))
  /-- All else stays. -/
  | other {name : Text} {value : Json} (h : ∀ entries, value = .object entries →
      name ∉ PackageJson.dependencySections ∧ name ≠ ("scripts" : Text)) :
      PrunedMember s (name, value) (name, value)

/-- The members of a `package.json`, in their order, and what becomes of each. -/
def Pruned (s : Settings) : List (Text × Json) → List (Text × Json) → Prop :=
  List.Forall₂ (PrunedMember s)

/-- Notes on what leaves a `package.json`. -/
structure Announces (s : Settings) (members : List (Text × Json)) (notes : List Note) : Prop where
  dependency : ∀ name, Note.dependencyRemoved name ∈ notes ↔
    ∃ area ∈ PackageJson.dependencySections, ∃ deps, (area, .object deps) ∈ members ∧
      name ∈ deps.map Prod.fst ∧ (s.packageOwner? name).isSome
  script : ∀ key, Note.scriptRemoved key ∈ notes ↔
    ∃ entries, (("scripts" : Text), Json.object entries) ∈ members ∧
      ∃ command, (key, Json.string command) ∈ entries ∧ runsPlatformTool s command
  noOther : ∀ note ∈ notes,
    (∃ name, note = .dependencyRemoved name) ∨ ∃ key, note = .scriptRemoved key

theorem scripts_not_mem_sections : ("scripts" : Text) ∉ PackageJson.dependencySections := by decide

theorem doomedIn_of_mem {name : Text} (h : name ∈ PackageJson.dependencySections) :
    doomedIn s name = doomedDependency s := by
  rw [doomedIn, if_pos (List.contains_iff_mem.2 h)]

theorem doomedIn_scripts : doomedIn s "scripts" = doomedScript s := by
  rw [doomedIn, if_neg (by simpa using scripts_not_mem_sections), if_pos rfl]

theorem doomedIn_other {name : Text} (h : name ∉ PackageJson.dependencySections)
    (hscripts : name ≠ ("scripts" : Text)) : doomedIn s name = fun _ => false := by
  rw [doomedIn, if_neg (by simpa using h), if_neg hscripts]

/-- A member is pruned as it should be. -/
theorem prunedMember_spec (s : Settings) (m : Text × Json) : PrunedMember s m (prunedMember s m) := by
  obtain ⟨name, value⟩ := m
  cases value with
  | object inner =>
    rw [prunedMember]
    by_cases hsections : name ∈ PackageJson.dependencySections
    · have hkept : (inner.filter fun m => !doomedIn s name m) =
          inner.filter fun d => (s.packageOwner? d.1).isNone := by
        refine List.filter_congr fun d _ => ?_
        rw [doomedIn_of_mem hsections, doomedDependency, Option.not_isSome]
      rw [hkept]
      exact .dependencies hsections
    · by_cases hscripts : name = ("scripts" : Text)
      · subst hscripts
        have hkept : (inner.filter fun m => !doomedIn s "scripts" m) =
            inner.filter fun e => e.2.text?.all fun command => !runsPlatformTool s command := by
          refine List.filter_congr fun e _ => ?_
          rw [doomedIn_scripts, doomedScript]
          cases e.2.text? <;> rfl
        rw [hkept]
        exact .scripts
      · rw [doomedIn_other hsections hscripts]
        simp only [Bool.not_false, List.filter_true]
        exact .other fun _ _ => ⟨hsections, hscripts⟩
  | null => exact .other fun _ h => by cases h
  | bool b => exact .other fun _ h => by cases h
  | int k => exact .other fun _ h => by cases h
  | real x => exact .other fun _ h => by cases h
  | string t => exact .other fun _ h => by cases h
  | array items => exact .other fun _ h => by cases h

theorem pruned_spec (s : Settings) (members : List (Text × Json)) :
    Pruned s members (members.map (prunedMember s)) := by
  rw [Pruned, List.forall₂_map_right_iff, List.forall₂_same]
  exact fun m _ => prunedMember_spec s m

/-! ## Notes and what is missing -/

theorem lookup_of_mem (hnames : (members.map Prod.fst).Nodup) {name : Text} {j : Json}
    (h : (name, j) ∈ members) : members.lookup name = some j := by
  obtain ⟨before, after, rfl⟩ := List.append_of_mem h
  rw [List.map_append, List.map_cons] at hnames
  have hbefore : ∀ m ∈ before, ¬(name == m.1) = true := by
    intro m hm heq
    exact (List.nodup_append.1 hnames).2.2 m.1 (List.mem_map_of_mem hm) name
      (List.mem_cons_self ..) (eq_of_beq heq).symm
  exact List.lookup_eq_some_iff.2 ⟨before, after, rfl, fun m hm => by simpa using hbefore m hm⟩

/-- What leaves a member is named by the doomed inside of it. -/
theorem mem_doomedNames (hnames : (members.map Prod.fst).Nodup) {name key : Text} :
    key ∈ doomedNames s members name ↔ ∃ entries, (name, Json.object entries) ∈ members ∧
      ∃ value, (key, value) ∈ entries ∧ doomedIn s name (key, value) = true := by
  unfold doomedNames
  split
  · next entries h =>
    simp only [List.mem_map, List.mem_filter, Prod.exists, exists_and_right, exists_eq_right]
    constructor
    · rintro ⟨value, hmem, hdoomed⟩
      exact ⟨entries, mem_of_lookup h, value, hmem, hdoomed⟩
    · rintro ⟨entries', hentries', value, hmem, hdoomed⟩
      rw [lookup_of_mem hnames hentries'] at h
      cases h
      exact ⟨value, hmem, hdoomed⟩
  · next hnone =>
    refine iff_of_false List.not_mem_nil ?_
    rintro ⟨entries, hentries, -⟩
    exact hnone entries (lookup_of_mem hnames hentries)

/-- The notes name what is missing. -/
theorem announces_packageNotes (hnames : (members.map Prod.fst).Nodup) :
    Announces s members (packageNotes s members) where
  dependency name := by
    simp only [packageNotes, List.mem_append, List.mem_map, Text.mem_distinct, List.mem_flatMap,
      Note.dependencyRemoved.injEq, exists_eq_right, reduceCtorEq, and_false, exists_false, or_false]
    refine exists_congr fun area => and_congr_right fun harea => ?_
    rw [mem_doomedNames hnames, doomedIn_of_mem harea]
    simp only [doomedDependency, Prod.exists, exists_and_right, exists_eq_right]
  script key := by
    simp only [packageNotes, List.mem_append, List.mem_map, Note.scriptRemoved.injEq,
      exists_eq_right, reduceCtorEq, and_false, exists_false, false_or]
    rw [mem_doomedNames hnames, doomedIn_scripts]
    refine exists_congr fun entries => and_congr_right fun _ => ?_
    constructor
    · rintro ⟨value, hmem, hdoomed⟩
      cases value with
      | string command => exact ⟨command, hmem, hdoomed⟩
      | null => cases hdoomed
      | bool b => cases hdoomed
      | int k => cases hdoomed
      | real x => cases hdoomed
      | array items => cases hdoomed
      | object ms => cases hdoomed
    · rintro ⟨command, hmem, hruns⟩
      exact ⟨.string command, hmem, hruns⟩
  noOther note hnote := by
    simp only [packageNotes, List.mem_append, List.mem_map] at hnote
    rcases hnote with ⟨name, -, rfl⟩ | ⟨key, -, rfl⟩
    · exact .inl ⟨name, rfl⟩
    · exact .inr ⟨key, rfl⟩

/-- Nothing leaves members without a note on it. -/
theorem doomedNames_of_notes (h : packageNotes s members = []) (name : Text) :
    doomedNames s members name = [] := by
  obtain ⟨hsections, hscripts⟩ := List.append_eq_nil_iff.1 h
  rw [List.map_eq_nil_iff, Text.distinct_eq_nil] at hsections
  by_cases hname : name ∈ PackageJson.dependencySections
  · exact List.flatMap_eq_nil_iff.1 hsections name hname
  · by_cases hname' : name = ("scripts" : Text)
    · rw [hname']
      exact List.map_eq_nil_iff.1 hscripts
    · unfold doomedNames
      split
      · rw [doomedIn_other hname hname', List.filter_false, List.map_nil]
      · rfl

theorem prunedMember_eq_self {name : Text} {value : Json} :
    prunedMember s (name, value) = (name, value) ↔
      ∀ entries, value = .object entries → ∀ e ∈ entries, doomedIn s name e = false := by
  cases value with
  | object entries =>
    simp only [prunedMember, Prod.mk.injEq, true_and, Json.object.injEq, List.filter_eq_self,
      Bool.not_eq_true', forall_eq']
  | null => simp [prunedMember]
  | bool b => simp [prunedMember]
  | int k => simp [prunedMember]
  | real x => simp [prunedMember]
  | string t => simp [prunedMember]
  | array items => simp [prunedMember]

/-- Members stay as they are exactly when there is nothing to note. -/
theorem map_prunedMember_eq_self (hnames : (members.map Prod.fst).Nodup) :
    members.map (prunedMember s) = members ↔ packageNotes s members = [] := by
  have hpointwise : members.map (prunedMember s) = members ↔
      ∀ m ∈ members, prunedMember s m = m := by
    conv_lhs => rhs; rw [← List.map_id members]
    exact List.map_inj_left
  rw [hpointwise]
  constructor
  · intro h
    have hnone (name : Text) : doomedNames s members name = [] := by
      refine List.eq_nil_iff_forall_not_mem.2 fun key hkey => ?_
      obtain ⟨entries, hentries, value, hmem, hdoomed⟩ := (mem_doomedNames hnames).1 hkey
      rw [prunedMember_eq_self.1 (h _ hentries) entries rfl _ hmem] at hdoomed
      cases hdoomed
    rw [packageNotes, hnone, List.flatMap_eq_nil_iff.2 fun name _ => hnone name]
    rfl
  · rintro h ⟨name, value⟩ hm
    refine prunedMember_eq_self.2 ?_
    rintro entries rfl ⟨key, value⟩ he
    by_contra hdoomed
    have hkey := (mem_doomedNames hnames).2 ⟨entries, hm, value, he, by simpa using hdoomed⟩
    rw [doomedNames_of_notes h] at hkey
    cases hkey

/-! ## The written members -/

/-- Members that are read again as they were stay so without some of their entries. -/
theorem rereadMembers_pruned (h : rereadMembers members = members) :
    rereadMembers (members.map (prunedMember s)) = members.map (prunedMember s) := by
  rw [Json.rereadMembers_eq_map] at h ⊢
  have hmember : ∀ m ∈ members, m.2.reread = m.2 := by
    conv at h => rhs; rw [← List.map_id members]
    exact fun m hm => (Prod.ext_iff.1 (List.map_inj_left.1 h m hm)).2
  rw [List.map_map]
  refine List.map_congr_left fun m hm => ?_
  obtain ⟨name, value⟩ := m
  have hvalue := hmember _ hm
  cases value with
  | object entries =>
    have hentries := Json.object.inj hvalue
    rw [Json.rereadMembers_eq_map] at hentries
    conv at hentries => rhs; rw [← List.map_id entries]
    have hkept : rereadMembers (entries.filter fun m => !doomedIn s name m) =
        entries.filter fun m => !doomedIn s name m := by
      rw [Json.rereadMembers_eq_map]
      refine (List.map_congr_left fun e he => ?_).trans (List.map_id _)
      exact List.map_inj_left.1 hentries e (List.mem_of_mem_filter he)
    simp only [Function.comp_apply, prunedMember, reread, hkept]
  | null => rfl
  | bool b => rfl
  | int k => rfl
  | real x => exact congrArg (Prod.mk name) hvalue
  | string t => rfl
  | array items => exact congrArg (Prod.mk name) hvalue

/-- A written object ends in its closing brace. -/
theorem endsWith_write_object (members : List (Text × Json)) :
    Text.endsWith (Json.write .pretty (.object members)) "\n" = false := by
  have hlast : (Json.write .pretty (.object members)).getLast? = some (CodePoint.ofChar '\x7d') := by
    cases members with
    | nil => rfl
    | cons m members =>
      have hsort : JsonStyle.pretty.sortMembers = false := rfl
      have h := Json.writeAt_object hsort 0 (List.cons_ne_nil m members) []
      rw [List.append_nil] at h
      rw [Json.write, h]
      simp [List.getLast?_cons, List.getLast?_append]
  refine Bool.eq_false_iff.2 fun h => ?_
  obtain ⟨t, ht⟩ := List.isSuffixOf_iff_suffix.1 h
  have hfeed : (t ++ ("\n" : Text)).getLast? = some (CodePoint.ofChar '\n') := List.getLast?_concat
  rw [← ht, hfeed] at hlast
  exact absurd hlast (by decide)

/-- What is written anew ends in a line feed where the old text did. -/
theorem packageMembers_content_of_ne (content : Text) (h : packageNotes s members ≠ []) :
    ∃ blank, Json.AreSpaces blank ∧ (packageMembers s content members).content =
        Json.write .pretty (.object (members.map (prunedMember s))) ++ blank ∧
      Text.endsWith (packageMembers s content members).content "\n" =
        Text.endsWith content "\n" := by
  have hne : ¬(packageNotes s members).isEmpty = true := fun he => h (List.isEmpty_iff.1 he)
  simp only [packageMembers, if_neg hne]
  split
  · next hends =>
    refine ⟨"\n", by decide, rfl, ?_⟩
    rw [hends]
    exact List.isSuffixOf_iff_suffix.2 (List.suffix_append _ _)
  · next hends =>
    refine ⟨[], by decide, (List.append_nil _).symm, ?_⟩
    rw [endsWith_write_object]
    exact (Bool.eq_false_iff.2 hends).symm

/-! ## The rewritten file -/

theorem file_of_packageJson (hname : Text.lowerCase (fileName path) = ("package.json" : Text)) :
    file s path content = packageJson s content := by
  have hrole : FileRole.ofPath path = .manifest := by
    rw [FileRole.ofPath]
    simp [hname]
  rw [file, hrole]
  simp only [manifest, if_pos hname]

/-- A rewritten `package.json` is read as the members of the old one without what the notes name. -/
theorem package_pruned_as_announced
    (hname : Text.lowerCase (fileName path) = ("package.json" : Text))
    (hread : Json.read content = .ok (.object members))
    (hnumbers : (Json.object members).reread = .object members) :
    ∃ r members', file s path content = .ok r ∧
      Json.read r.content = .ok (.object members') ∧ Pruned s members members' ∧
      Announces s members r.notes ∧
      (members' ≠ members → Text.endsWith r.content "\n" = Text.endsWith content "\n") ∧
      (members' = members → r.content = content) ∧
      file s path r.content = .ok ⟨r.content, []⟩ := by
  have hread' : PackageJson.read content = .ok members := by
    rw [PackageJson.read, hread]
  have hfits := Json.fits_of_read hread
  have hnames : (members.map Prod.fst).Nodup := by
    cases hfits with
    | object names texts fits => exact names
  have hfile : file s path content = .ok (packageMembers s content members) := by
    rw [file_of_packageJson hname, packageJson, hread']
  have hsame := map_prunedMember_eq_self (s := s) hnames
  have hnothing (h : packageNotes s members = []) :
      (packageMembers s content members).content = content :=
    packageMembers_content_of_notes (packageMembers_notes.trans h)
  refine ⟨_, members.map (prunedMember s), hfile, ?_, pruned_spec s members, ?_, fun hne => ?_,
    fun h => hnothing (hsame.1 h), ?_⟩
  · by_cases hnotes : packageNotes s members = []
    · rw [hnothing hnotes, hsame.2 hnotes]
      exact hread
    · obtain ⟨blank, hblank, hcontent, -⟩ := packageMembers_content_of_ne content hnotes
      have hwritten := read_written (fits_pruned (s := s) hfits) blank hblank
      rw [hcontent, read_object hwritten, rereadMembers_pruned (Json.object.inj hnumbers)]
  · rw [packageMembers_notes]
    exact announces_packageNotes hnames
  · obtain ⟨-, -, -, hends⟩ := packageMembers_content_of_ne content fun h =>
      hne (hsame.2 h)
    exact hends
  · rw [file_of_packageJson hname] at hfile ⊢
    exact packageJson_again hfile

/-- The members of a `package.json`, with a dependency and a script of a platform. -/
def taggedMembers : List (Text × Json) := [
  ("name", .string "site"), ("version", .real (.finite false 6755399441055744 (-52))),
  ("dependencies", .object [("react", .string "18"), ("lovable-tagger", .string "1")]),
  ("scripts", .object [("tag", .string "npx lovable-tagger"), ("build", .string "vite build")]),
  ("files", .array [.string "a", .object [("b", .null)]])]

/-- Members that are texts fit at every level but the last. -/
theorem fits_texts {levels : Nat} (ms : List (Text × Text))
    (hnames : ((ms.map fun m => (m.1, Json.string m.2)).map Prod.fst).Nodup) :
    Json.Fits (fun _ => True) (levels + 1) (.object (ms.map fun m => (m.1, Json.string m.2))) := by
  refine .object hnames (fun _ _ => trivial) ?_
  rw [List.forall_mem_map]
  exact fun _ _ => .string trivial

theorem fits_taggedMembers : Json.Fits (fun _ => True) Json.maxDepth (.object taggedMembers) := by
  refine .object (by decide) (fun _ _ => trivial) ?_
  simp only [taggedMembers, List.forall_mem_cons, List.not_mem_nil, IsEmpty.forall_iff,
    implies_true, and_true]
  refine ⟨.string trivial, .real ⟨by decide, by decide, by decide⟩,
    fits_texts [("react", "18"), ("lovable-tagger", "1")] (by decide),
    fits_texts [("tag", "npx lovable-tagger"), ("build", "vite build")] (by decide), .array ?_⟩
  simp only [List.forall_mem_cons, List.not_mem_nil, IsEmpty.forall_iff, implies_true, and_true]
  refine ⟨.string trivial, .object (by decide) (fun _ _ => trivial) ?_⟩
  rw [List.forall_mem_singleton]
  exact .null

theorem reread_taggedMembers : (Json.object taggedMembers).reread = .object taggedMembers := by
  have hversion : (Binary64.finite false 6755399441055744 (-52)).reread =
      .finite false 6755399441055744 (-52) := by decide +kernel
  simp only [taggedMembers, reread, rereadMembers, Json.rereadItems, hversion]

/-- The written members, with a line feed after them. -/
def taggedPackage : Text := Json.write .pretty (.object taggedMembers) ++ "\n"

theorem taggedPackage_pruned :
    Json.read taggedPackage = .ok (.object taggedMembers) ∧
      (Json.object taggedMembers).reread = .object taggedMembers ∧
      ∃ r members', file {} "web/package.json" taggedPackage = .ok r ∧
        Json.read r.content = .ok (.object members') ∧ Pruned {} taggedMembers members' ∧
        Announces {} taggedMembers r.notes ∧
        (members' ≠ taggedMembers →
          Text.endsWith r.content "\n" = Text.endsWith taggedPackage "\n") ∧
        (members' = taggedMembers → r.content = taggedPackage) ∧
        file {} "web/package.json" r.content = .ok ⟨r.content, []⟩ := by
  have hread : Json.read taggedPackage = .ok (.object taggedMembers) := by
    rw [taggedPackage, Json.read_write rfl readsTexts_pretty fits_taggedMembers (by decide),
      reread_taggedMembers]
  exact ⟨hread, reread_taggedMembers,
    package_pruned_as_announced (by decide +kernel) hread reread_taggedMembers⟩

end Rewrite

end Decouple
