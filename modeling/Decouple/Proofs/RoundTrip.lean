import Decouple.Proofs.Delivery
import Decouple.Proofs.Parts
import Decouple.Proofs.Zips

/-!
# A packed project comes back

Packing a project and extracting the archive gives the project back, with the artifacts in place of
files of their paths (`packed_comes_back`).  Of a project that an extraction may give, with texts
that can be written, this asks for one thing more: that the artifacts can be written as well.  Two
of them are made of the project or of nothing; the configuration of the server names the static
extensions of the settings, and the report is given from outside.  If one of these holds a
surrogate, there is no archive but a failure of packing.

That the artifact made of the project can be written is a matter of what it is made of: the names
of variables are parts of matches, so they hold nothing that the texts of the project do not.
-/

namespace Decouple

open Extraction (IsPath retrieve_of_read)

/-! ## What artifacts hold -/

namespace Signature

variable {t name part : Text} {c : CodePoint}

/-- What a variable taken from an object holds, its part of the object holds. -/
theorem mem_of_takenName? (h : takenName? part = some name) (hc : c ∈ name) : c ∈ part := by
  unfold takenName? at h
  dsimp only at h
  split at h
  · cases h
    exact (List.takeWhile_prefix _).subset
      (Packaging.mem_of_mem_trimOf (Packaging.mem_of_mem_trimOf hc))
  · cases h

/-- What a variable that a text reads holds, the text holds. -/
theorem mem_of_variableReads (h : name ∈ variableReads t) (hc : c ∈ name) : c ∈ t := by
  rcases List.mem_append.1 h with h | h
  · obtain ⟨pattern, -, h⟩ := List.mem_flatMap.1 h
    obtain ⟨m, hm, rfl⟩ := List.mem_map.1 h
    exact Pattern.mem_of_mem_textOf hm hc
  · obtain ⟨m, hm, h⟩ := List.mem_flatMap.1 h
    obtain ⟨part, hpart, htaken⟩ := List.mem_filterMap.1 h
    exact Pattern.mem_of_mem_textOf hm (Text.mem_of_mem_splitOn hpart (mem_of_takenName? htaken hc))

/-- What a variable that a text declares holds, the text holds. -/
theorem mem_of_declaredVariables (h : name ∈ declaredVariables t) (hc : c ∈ name) : c ∈ t := by
  obtain ⟨m, hm, rfl⟩ := List.mem_map.1 h
  exact Pattern.mem_of_mem_textOf hm hc

end Signature

namespace Artifact

variable {s : Settings} {project : Snapshot} {report name : Text} {f : File} {c : CodePoint}

theorem mem_of_variablesOf (h : name ∈ variablesOf f) (hc : c ∈ name) : c ∈ f.content.asText := by
  unfold variablesOf at h
  split at h
  · cases h
  · next t ht =>
    rw [ht]
    split at h
    · exact Signature.mem_of_declaredVariables h hc
    · exact Signature.mem_of_variableReads h hc

/-- A variable of a project is one of a file of it. -/
theorem exists_mem_variablesOf (h : name ∈ namesIn project) :
    ∃ f ∈ project.files, name ∈ variablesOf f := by
  rw [namesIn, Text.sort] at h
  exact List.mem_flatMap.1 (Text.mem_distinct.1 ((Sorting.sort_perm _).mem_iff.1 h))

theorem isScalar_ofLines (lines : List String) : (ofLines lines).IsScalar := by
  intro c hc
  obtain ⟨line, -, hc⟩ := List.mem_flatMap.1 hc
  exact Text.isScalar_append.2 ⟨Text.isScalar_ofString line, Text.isScalar_ofString "\n"⟩ c hc

/-- The template of a project whose texts can be written can be written. -/
theorem isScalar_environmentTemplate (h : ∀ f ∈ project.files, f.content.asText.IsScalar) :
    (environmentTemplate project).IsScalar := by
  have hlines : ∀ line ∈ (namesIn project).map variableLine, line.IsScalar := by
    intro line hline
    obtain ⟨name, hname, rfl⟩ := List.mem_map.1 hline
    obtain ⟨f, hf, hvariable⟩ := exists_mem_variablesOf hname
    refine Text.isScalar_append.2 ⟨?_, Text.isScalar_ofString _⟩
    exact fun c hc => h f hf c (mem_of_variablesOf hvariable hc)
  refine Text.isScalar_append.2 ⟨isScalar_ofLines _, ?_⟩
  intro c hc
  obtain ⟨name, hname, hc⟩ := List.mem_flatMap.1 hc
  exact hlines _ (List.mem_map_of_mem hname) c hc

/-- The configuration of the server can be written if the static extensions can. -/
theorem isScalar_nginxConf :
    (nginxConf s).IsScalar ↔ ∀ e ∈ s.staticExtensions, e.IsScalar := by
  have hbar : Text.IsScalar "|" := Text.isScalar_ofString _
  simp only [nginxConf, Text.isScalar_append, Text.isScalar_join hbar, serverStart, serverEnd,
    isScalar_ofLines, Text.isScalar_ofString, true_and, and_true]

/-- All artifacts of a project whose texts can be written can be written, if those can that are not
made of the project. -/
theorem isScalar_all (h : ∀ f ∈ project.files, f.content.asText.IsScalar) :
    (∀ a ∈ all s project report, a.2.IsScalar) ↔
      (∀ e ∈ s.staticExtensions, e.IsScalar) ∧ report.IsScalar := by
  have hdocker : dockerfile.IsScalar := isScalar_ofLines _
  simp only [all, List.forall_mem_cons, hdocker, isScalar_environmentTemplate h,
    isScalar_nginxConf, true_and]
  simp

end Artifact

/-! ## The folder of an archive -/

namespace ProjectName

/-- What the folder of an archive is named: letters, digits, dots, underscores and hyphens, at
least one, without a hyphen or a dot at either end. -/
structure IsRoot (root : Text) : Prop where
  ne_nil : root ≠ []
  plain : ∀ c ∈ root, isPlain c = true
  start : ∀ c, root.head? = some c → isEdge c = false
  stop : ∀ c, root.getLast? = some c → isEdge c = false

/-- A trimmed text does not start with what was trimmed. -/
theorem not_of_head?_trimOf {p : CodePoint → Bool} {t : Text} {c : CodePoint}
    (h : (Text.trimOf p t).head? = some c) : p c = false := by
  have hprefix : Text.trimOf p t <+: Text.trimStartOf p t := by
    rw [← List.reverse_suffix]
    exact (List.reverse_reverse _).symm ▸ List.dropWhile_suffix p
  obtain ⟨after, hafter⟩ := hprefix
  obtain ⟨rest, hrest⟩ := List.head?_eq_some_iff.1 h
  have hhead := List.head?_dropWhile_not p t
  rw [Text.trimStartOf] at hafter
  rw [← hafter, hrest] at hhead
  simpa using hhead

theorem isRoot_folder (name : Text) : IsRoot (folder name) := by
  unfold folder
  dsimp only
  split
  · exact ⟨by decide, by decide, by decide, by decide⟩
  · next hne =>
    refine ⟨by simpa using hne, fun c hc => ?_, fun c hc => ?_, fun c hc => ?_⟩
    · exact Packaging.isPlain_of_mem_hyphenated (Packaging.mem_of_mem_trimOf hc)
    · exact not_of_head?_trimOf hc
    · obtain ⟨before, hbefore⟩ := List.getLast?_eq_some_iff.1 hc
      exact Packaging.not_of_trimOf_eq_append hbefore

theorem isScalar_of_isPlain {c : CodePoint} (h : isPlain c = true) : c.isSurrogate = false := by
  have hsmall : c.val < 128 := by
    simp only [isPlain, Bool.or_eq_true, decide_eq_true_eq] at h
    rcases h with ((h | rfl) | rfl) | rfl
    · simp only [CodePoint.isLetterOrDigit, CodePoint.isLetter, CodePoint.isUpper,
        CodePoint.isLower, CodePoint.isDigit, Bool.or_eq_true, Bool.and_eq_true,
        decide_eq_true_eq] at h
      omega
    · decide
    · decide
    · decide
  exact Utf8.isSurrogate_eq_false (.inl (by omega))

end ProjectName

namespace Packaging

variable {s : Settings} {project : Snapshot} {report name p t : Text} {f : File} {b : Bytes}
  {ms : List Zip.Member}

/-! ## What can be packed -/

/-- The contents that can be packed are bytes and the texts that can be written. -/
theorem exists_encodeContent {c : Content} :
    (∃ b, encodeContent c = .ok b) ↔ c.asText.IsScalar := by
  cases c with
  | text t => exact Utf8.exists_encode_eq_ok
  | bytes b => exact iff_of_true ⟨b, rfl⟩ (List.forall_mem_nil _)

theorem isScalar_of_member {folder : Text} {m : Zip.Member} (h : member folder f = .ok m) :
    f.content.asText.IsScalar := exists_encodeContent.1 ⟨_, (member_eq_ok h).1⟩

/-- A file has a member if its path and its text can be written. -/
theorem exists_member (hpath : f.path.IsScalar) (hcontent : f.content.asText.IsScalar) :
    ∃ m, member (ProjectName.folder name) f = .ok m := by
  obtain ⟨b, hb⟩ := exists_encodeContent.2 hcontent
  have hname : (ProjectName.folder name ++ "/" ++ f.path).IsScalar := by
    refine Text.isScalar_append.2 ⟨Text.isScalar_append.2 ⟨fun c hc => ?_, by decide⟩, hpath⟩
    exact ProjectName.isScalar_of_isPlain ((ProjectName.isRoot_folder name).plain c hc)
  obtain ⟨written, hwritten⟩ := Utf8.exists_encode_eq_ok.2
    fun c hc => hname c ((List.takeWhile_prefix _).subset hc)
  exact ⟨_, Step.bind_eq_ok.2 ⟨b, hb, Step.bind_eq_ok.2 ⟨written, hwritten, rfl⟩⟩⟩

theorem pack_eq_ok : pack s project name report = .ok ms ↔ members s project name report = .ok ms :=
  Step.mapError_eq_ok

/-- What cannot be packed is a failure of packing. -/
theorem kind_of_pack {e : Failure} (h : pack s project name report = .error e) :
    e.kind = .packaging := by
  unfold pack at h
  cases hm : members s project name report with
  | ok ms =>
    rw [hm] at h
    cases h
  | error u =>
    rw [hm] at h
    cases h
    rfl

/-! ## Projects with their artifacts -/

/-- Whether a project has paths as extractions give them, without null code points, and paths and
texts that can be written. -/
structure Packable (s : Settings) (project : Snapshot) : Prop where
  path : ∀ p ∈ project.paths, IsPath s p
  null : ∀ p ∈ project.paths, ∀ c ∈ p, c.val ≠ 0
  scalar : ∀ p ∈ project.paths, p.IsScalar
  content : ∀ f ∈ project.files, f.content.asText.IsScalar

instance (s : Settings) (project : Snapshot) : Decidable (Packable s project) :=
  decidable_of_iff ((∀ p ∈ project.paths, IsPath s p) ∧
      (∀ p ∈ project.paths, ∀ c ∈ p, c.val ≠ 0) ∧ (∀ p ∈ project.paths, p.IsScalar) ∧
      ∀ f ∈ project.files, f.content.asText.IsScalar)
    ⟨fun ⟨path, null, scalar, content⟩ => ⟨path, null, scalar, content⟩,
      fun ⟨path, null, scalar, content⟩ => ⟨path, null, scalar, content⟩⟩

/-- Whether the artifacts that are not made of the project can be written. -/
def CanReport (s : Settings) (report : Text) : Prop :=
  (∀ e ∈ s.staticExtensions, e.IsScalar) ∧ report.IsScalar

instance (s : Settings) (report : Text) : Decidable (CanReport s report) :=
  inferInstanceAs (Decidable ((∀ e ∈ s.staticExtensions, e.IsScalar) ∧ report.IsScalar))

/-- An artifact is packed under its path, whatever the project has there. -/
theorem get?_files_artifact {a : Text × Text} (h : a ∈ Artifact.all s project report) :
    (files s project report).get? a.1 = some ⟨a.1, .text a.2⟩ := by
  refine Snapshot.get?_putAll_of_mem project ?_ (List.mem_map.2 ⟨a, h, rfl⟩)
  rw [artifact_paths]
  decide +kernel

/-- An archive is never empty. -/
theorem sorted_files_ne_nil (s : Settings) (project : Snapshot) (report : Text) :
    (files s project report).sorted ≠ [] := by
  have hmem : (Text.ofString "LIBERATION_REPORT.md", report) ∈ Artifact.all s project report :=
    List.mem_of_getLast? rfl
  have hfile := (Snapshot.get?_eq_some.1 (get?_files_artifact hmem)).1
  exact List.ne_nil_of_mem (Snapshot.mem_sorted.2 hfile)

/-- An artifact that is not excluded has a path that an extraction may give. -/
theorem isPath_artifact (hp : p ∈ artifactPaths) (hkept : p ∉ s.retrieval.excludedFiles) :
    IsPath s p := by
  have hsplit : ∀ p ∈ artifactPaths, Text.splitOn '/' p = [p] := by decide +kernel
  have hcomponent : ∀ p ∈ artifactPaths, Extraction.IsComponent p := by decide +kernel
  constructor
  · intro c hc
    rw [hsplit p hp] at hc
    exact List.mem_singleton.1 hc ▸ hcomponent p hp
  · rw [hsplit p hp, Extraction.excludes]
    simpa using hkept

namespace Packable

/-- All paths of a project and its artifacts are as those of the project. -/
theorem path_files (h : Packable s project)
    (hkept : ∀ p ∈ artifactPaths, p ∉ s.retrieval.excludedFiles)
    (hp : p ∈ (files s project report).paths) : IsPath s p ∧ ∀ c ∈ p, c.val ≠ 0 := by
  have hnull : ∀ p ∈ artifactPaths, ∀ c ∈ p, c.val ≠ 0 := by decide +kernel
  rcases mem_paths_files.1 hp with hp | hp
  · exact ⟨h.path p hp, h.null p hp⟩
  · exact ⟨isPath_artifact hp (hkept p hp), hnull p hp⟩

/-- A project can be packed exactly when the artifacts can be written that are not made of it. -/
theorem exists_members (h : Packable s project) (name : Text) :
    (∃ ms, members s project name report = .ok ms) ↔ CanReport s report := by
  rw [CanReport, ← Artifact.isScalar_all h.content]
  constructor
  · rintro ⟨ms, hms⟩ a ha
    have hfile := (Snapshot.get?_eq_some.1 (get?_files_artifact ha)).1
    obtain ⟨m, -, hm⟩ := Related.exists_right (members_eq_ok.1 hms) (Snapshot.mem_sorted.2 hfile)
    exact isScalar_of_member hm
  · intro hartifacts
    have hscalar : ∀ p ∈ artifactPaths, p.IsScalar := by
      simp only [artifactPaths, List.forall_mem_cons, Text.isScalar_ofString, true_and]
      exact List.forall_mem_nil _
    refine Step.exists_of_isOk (Step.isOk_mapM.2 fun f hf => ?_)
    obtain ⟨m, hm⟩ : ∃ m, member (ProjectName.folder name) f = .ok m := by
      rcases Snapshot.mem_putAll (Snapshot.mem_sorted.1 hf) with hf | hf
      · exact exists_member (h.scalar f.path (List.mem_map_of_mem hf)) (h.content f hf)
      · obtain ⟨a, ha, rfl⟩ := List.mem_map.1 hf
        have hpath : a.1 ∈ artifactPaths :=
          artifact_paths s project report ▸ List.mem_map_of_mem (List.mem_map_of_mem ha)
        exact exists_member (hscalar a.1 hpath) (hartifacts a ha)
    rw [hm]
    rfl

end Packable

/-! ## What comes back -/

/-- Whether members lie in one folder, in the order of their paths and each once, and are those of
a project and its artifacts. -/
structure LaidOut (root : Text) (project : Snapshot) (ms : List Zip.Member) : Prop where
  named : ProjectName.IsRoot root
  once : (ms.map Zip.Member.name).Nodup
  inside : ∃ paths : List Text, ms.map Zip.Member.name = paths.map (root ++ "/" ++ ·) ∧
    (paths.Pairwise fun a b => Text.le a b = true) ∧
      ∀ p, p ∈ paths ↔ p ∈ project.paths ∨ p ∈ artifactPaths

/-- Whether a snapshot is a project with its artifacts: they have their texts, and the other files
have the bytes that they had, as a text if they are one. -/
structure ComesBack (s : Settings) (project : Snapshot) (report : Text) (back : Snapshot) :
    Prop where
  paths : ∀ p, p ∈ back.paths ↔ p ∈ project.paths ∨ p ∈ artifactPaths
  artifact : ∀ a ∈ Artifact.all s project report, back.get? a.1 = some ⟨a.1, .text a.2⟩
  file : ∀ f ∈ project.files, f.path ∉ artifactPaths → ∃ b c,
    encodeContent f.content = .ok b ∧ back.get? f.path = some ⟨f.path, c⟩ ∧
      encodeContent c = .ok b ∧ (c.isText = true ↔ ∃ t, Utf8.decode b = .ok t)

theorem laidOut_of_members (h : members s project name report = .ok ms)
    (hnull : ∀ p ∈ (files s project report).paths, ∀ c ∈ p, c.val ≠ 0) :
    LaidOut (ProjectName.folder name) project ms := by
  refine ⟨ProjectName.isRoot_folder name, nodup_names h hnull,
    (files s project report).sortedPaths, ?_, ?_, fun p => ?_⟩
  · rw [map_name_members h hnull, Snapshot.sortedPaths, List.map_map]
    rfl
  · exact List.pairwise_map.2 (Snapshot.pairwise_sorted _)
  · have hpath : p ∈ (files s project report).paths ↔ p ∈ project.paths ∨ p ∈ artifactPaths :=
      mem_paths_files
    rw [← hpath, Snapshot.sortedPaths, Snapshot.paths, List.mem_map, List.mem_map]
    exact exists_congr fun f => and_congr_left fun _ => Snapshot.mem_sorted

/-- Bytes are read as a text if they are one. -/
theorem isText_ofBytes : (Content.ofBytes b).isText = true ↔ ∃ t, Utf8.decode b = .ok t := by
  rw [Content.ofBytes]
  cases hd : Utf8.decode? b with
  | some t => exact iff_of_true rfl ⟨t, Step.toOption_eq_some.1 hd⟩
  | none =>
    refine iff_of_false Bool.false_ne_true ?_
    rintro ⟨t, ht⟩
    rw [Utf8.decode?, ht] at hd
    cases hd

/-- The packed files, each as it is read back, are the project with its artifacts. -/
theorem comesBack_reread (h : Packable s project) : ComesBack s project report
    (Snapshot.ofFiles ((files s project report).sorted.map rereadFile)) := by
  have hget : ∀ p, (Snapshot.ofFiles ((files s project report).sorted.map rereadFile)).get? p =
      ((files s project report).get? p).map rereadFile :=
    Snapshot.get?_ofFiles_map_sorted _ fun _ => rfl
  refine ⟨fun p => ?_, fun a ha => ?_, fun f hf hp => ?_⟩
  · have hpath : p ∈ (files s project report).paths ↔ p ∈ project.paths ∨ p ∈ artifactPaths :=
      mem_paths_files
    rw [← hpath, Snapshot.mem_paths, Snapshot.mem_paths, hget]
    cases (files s project report).get? p <;> simp
  · rw [hget, get?_files_artifact ha]
    rfl
  · obtain ⟨b, hb⟩ := exists_encodeContent.2 (h.content f hf)
    have hback := ofBytes_of_encodeContent hb
    refine ⟨b, Content.ofBytes b, hb, ?_, encodeContent_ofBytes b, isText_ofBytes⟩
    rw [hget, get?_files hp, Snapshot.get?_of_mem hf, hback]
    rfl

/-- A project that an extraction may give and whose texts can be written is packed, if the static
extensions and the report can be written too: its members lie in one folder, in order and each
once, and an archive that holds them is extracted to the project with its artifacts.  Otherwise
packing fails. -/
theorem packed_comes_back (hproject : Packable s project)
    (hkept : ∀ p ∈ artifactPaths, p ∉ s.retrieval.excludedFiles) (name report label : Text) :
    (CanReport s report → ∃ ms, pack s project name report = .ok ms ∧
      LaidOut (ProjectName.folder name) project ms ∧
        ∀ archive, Holds archive ms → ∃ back,
          Extraction.retrieve s archive label = .ok { snapshot := back, label } ∧
            ComesBack s project report back) ∧
    (¬CanReport s report → ∃ e, pack s project name report = .error e ∧ e.kind = .packaging) := by
  have hpaths : ∀ p ∈ (files s project report).paths, IsPath s p ∧ ∀ c ∈ p, c.val ≠ 0 :=
    fun p hp => hproject.path_files hkept hp
  constructor
  · intro hreport
    obtain ⟨ms, hms⟩ := (hproject.exists_members name).2 hreport
    have hlaid := laidOut_of_members hms fun p hp => (hpaths p hp).2
    refine ⟨ms, pack_eq_ok.2 hms, hlaid, fun archive hholds => ?_⟩
    obtain ⟨hfolder, hnull⟩ := isFolderName_folder name
    have hread := read_reread_of_holds (s := s) hholds (sorted_files_ne_nil s project report)
      (fun f hf => hpaths f.path (List.mem_map_of_mem (Snapshot.mem_sorted.1 hf))) hfolder hnull
      (members_eq_ok.1 hms)
    exact ⟨_, retrieve_of_read hread label, comesBack_reread hproject⟩
  · intro hreport
    cases hpack : pack s project name report with
    | ok ms => exact absurd ((hproject.exists_members name).1 ⟨ms, pack_eq_ok.1 hpack⟩) hreport
    | error e => exact ⟨e, rfl, kind_of_pack hpack⟩

/-- A text that reads a variable, bytes that are no text, bytes that are one, and a file under the
path of an artifact. -/
def assortedFiles : Snapshot := Snapshot.ofFiles [
  ⟨"src/a.ts", .text "export const url = process.env.API_URL;\n"⟩,
  ⟨"logo.png", .bytes [0x89, 0x50]⟩, ⟨"docs/notes.md", .bytes [0x68, 0x69]⟩,
  ⟨"Dockerfile", .text "FROM scratch\n"⟩]

theorem assortedFiles_come_back : ∃ ms back,
    pack {} assortedFiles "My project" "All clean." = .ok ms ∧
      LaidOut "My-project" assortedFiles ms ∧
        Extraction.retrieve {} (Zip.write ms) "upload.zip" =
            .ok { snapshot := back, label := "upload.zip" } ∧
          ComesBack {} assortedFiles "All clean." back := by
  have hproject : Packable {} assortedFiles := by decide +kernel
  have hkept : ∀ p ∈ artifactPaths, p ∉ ({} : Settings).retrieval.excludedFiles := by
    decide +kernel
  have hreport : CanReport {} "All clean." := by decide +kernel
  obtain ⟨ms, hms, hlaid, hback⟩ :=
    (packed_comes_back hproject hkept "My project" "All clean." "upload.zip").1 hreport
  have hfits : (pack {} assortedFiles "My project" "All clean.").toOption.all
      (fun ms => decide (Zip.Fits ms)) = true := by decide +kernel
  have hfolder : ProjectName.folder "My project" = Text.ofString "My-project" := by decide +kernel
  rw [hms] at hfits
  obtain ⟨back, hretrieve, hcomes⟩ := hback _ (Zip.holds_write (of_decide_eq_true hfits))
  exact ⟨ms, back, hms, hfolder ▸ hlaid, hretrieve, hcomes⟩

/-- A static extension that is a lone surrogate. -/
def loneSurrogate : Settings := { staticExtensions := [[⟨0xD800, by decide⟩]] }

/-- Not every project that an extraction may give can be packed: the static extensions may be such
that the configuration of the server cannot be written. -/
theorem not_forall_exists_pack : ¬∀ (s : Settings) (project : Snapshot), Packable s project →
    (∀ p ∈ artifactPaths, p ∉ s.retrieval.excludedFiles) → ∀ name report : Text,
      report.IsScalar → ∃ ms, pack s project name report = .ok ms := by
  intro h
  have hproject : Packable loneSurrogate Snapshot.empty := by decide +kernel
  have hkept : ∀ p ∈ artifactPaths, p ∉ loneSurrogate.retrieval.excludedFiles := by decide +kernel
  obtain ⟨ms, hms⟩ := h loneSurrogate Snapshot.empty hproject hkept "p" "" (by decide)
  have hreport : ¬CanReport loneSurrogate "" := by decide
  exact hreport ((hproject.exists_members "p").1 ⟨ms, pack_eq_ok.1 hms⟩)

end Packaging

end Decouple
