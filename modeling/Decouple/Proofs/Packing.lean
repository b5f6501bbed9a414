import Decouple.Packaging.Archive
import Decouple.Proofs.Extraction
import Decouple.Proofs.Utf8
import Decouple.Zip.Member

/-!
# Packing and extracting are inverse to each other

A packed file is a member named by its path inside the folder of the project, with the bytes of its
content.  An extraction takes the folder off again and reads the bytes back, so an archive that
holds the members of some files is read as these files, bytes that are a text as that text
(`read_reread_of_holds`).  If the files are as extractions make them, they come back just as they
were (`read_of_holds`).
-/

namespace Decouple

namespace Packaging

open Extraction (IsFile IsFolderName IsPath)

variable {s : Settings} {c : Content} {b : Bytes} {f : File} {m : Zip.Member} {folder : Text}

/-! ## Contents -/

/-- What bytes are read as is packed as these bytes. -/
theorem encodeContent_ofBytes (b : Bytes) : encodeContent (Content.ofBytes b) = .ok b := by
  unfold Content.ofBytes
  split
  · next t ht => exact Utf8.decode_eq_ok_iff_encode.1 (Step.toOption_eq_some.1 ht)
  · rfl

/-- What a content is read back as: bytes that are a text become that text. -/
def reread : Content → Content
  | .text t => .text t
  | .bytes b => Content.ofBytes b

/-- A file as it is read back. -/
def rereadFile (f : File) : File := ⟨f.path, reread f.content⟩

theorem reread_eq_self (h : c.IsRead) : reread c = c := by
  cases c with
  | text t => rfl
  | bytes b =>
    have hd : Utf8.decode? b = none := h
    rw [reread, Content.ofBytes, hd]

theorem rereadFile_eq_self (h : IsFile s f) : rereadFile f = f := by
  rw [rereadFile, reread_eq_self h.content]

/-- What is packed is read back. -/
theorem ofBytes_of_encodeContent (h : encodeContent c = .ok b) : Content.ofBytes b = reread c := by
  cases c with
  | text t =>
    have hd : Utf8.decode? b = some t :=
      Step.toOption_eq_some.2 (Utf8.decode_eq_ok_iff_encode.2 h)
    rw [Content.ofBytes, hd, reread]
  | bytes b' =>
    cases h
    rfl

/-! ## Names -/

theorem cutName_eq_self {name : Text} (h : ∀ c ∈ name, c.val ≠ 0) : Zip.cutName name = name := by
  rw [Zip.cutName, List.takeWhile_eq_self_iff]
  simpa using h

theorem isPlain_of_mem_hyphenated {name : Text} {c : CodePoint}
    (h : c ∈ ProjectName.hyphenated name) : ProjectName.isPlain c = true := by
  induction name with
  | nil => cases h
  | cons d name ih =>
    rw [ProjectName.hyphenated] at h
    split at h
    · next hd =>
      rcases List.mem_cons.1 h with rfl | h
      · exact hd
      · exact ih h
    split at h
    · exact ih h
    · rcases List.mem_cons.1 h with rfl | h
      · decide
      · exact ih h

/-- A trimmed text does not end in what was trimmed. -/
theorem not_of_trimOf_eq_append {p : CodePoint → Bool} {t a : Text} {c : CodePoint}
    (h : Text.trimOf p t = a ++ [c]) : p c = false := by
  have hrev : (Text.trimStartOf p t).reverse.dropWhile p = c :: a.reverse := by
    rw [← List.reverse_inj, List.reverse_cons, List.reverse_reverse]
    exact h
  have hhead := List.head?_dropWhile_not p (Text.trimStartOf p t).reverse
  rw [hrev] at hhead
  simpa using hhead

theorem mem_of_mem_trimOf {p : CodePoint → Bool} {t : Text} {c : CodePoint}
    (h : c ∈ Text.trimOf p t) : c ∈ t := by
  rw [Text.trimOf, Text.trimEndOf, List.mem_reverse] at h
  exact (List.dropWhile_suffix p).subset (List.mem_reverse.1 ((List.dropWhile_suffix p).subset h))

/-- The folder of a project may be the folder of an archive, and its name can be written. -/
theorem isFolderName_folder (name : Text) :
    IsFolderName (ProjectName.folder name) ∧ ∀ c ∈ ProjectName.folder name, c.val ≠ 0 := by
  unfold ProjectName.folder
  dsimp only
  split
  · exact ⟨⟨by decide, by decide, by decide⟩, by decide⟩
  · next hne =>
    have hplain : ∀ c ∈ Text.trimOf ProjectName.isEdge (ProjectName.hyphenated name),
        ProjectName.isPlain c = true := fun c hc =>
      isPlain_of_mem_hyphenated (mem_of_mem_trimOf hc)
    have hnot : ∀ c : CodePoint, ProjectName.isPlain c = false →
        c ∉ Text.trimOf ProjectName.isEdge (ProjectName.hyphenated name) := by
      intro c hc hmem
      rw [hplain c hmem] at hc
      cases hc
    have hend : ∀ a : Text, Text.trimOf ProjectName.isEdge (ProjectName.hyphenated name) ≠
        a ++ [('.' : CodePoint)] := by
      intro a ha
      have := not_of_trimOf_eq_append ha
      revert this
      decide
    refine ⟨⟨⟨?_, hnot _ (by decide), hend [], hend "."⟩, hnot _ (by decide), hnot _ (by decide)⟩, ?_⟩
    · simpa using hne
    · intro c hc h0
      have hzero : c = ⟨0, by decide⟩ := CodePoint.ext h0
      exact hnot c (by rw [hzero]; decide) hc

/-! ## Members -/

/-- The member of a file has the file's bytes and is named by its path in the folder. -/
theorem member_eq_ok (h : member folder f = .ok m) :
    encodeContent f.content = .ok m.content ∧ m.name = Zip.cutName (folder ++ "/" ++ f.path) ∧
      ∃ b, Utf8.encode m.name = .ok b := by
  obtain ⟨content, hcontent, h⟩ := Step.bind_eq_ok.1 h
  obtain ⟨b, hb, h⟩ := Step.bind_eq_ok.1 h
  rw [← Except.ok.inj h]
  exact ⟨hcontent, rfl, b, hb⟩

/-- The folder stays whole when the name of a member is cut. -/
theorem cutName_inside (hf : ∀ c ∈ folder, c.val ≠ 0) (path : Text) :
    Zip.cutName (folder ++ "/" ++ path) = folder ++ "/" ++ Zip.cutName path := by
  refine List.takeWhile_append_of_pos fun c hc => decide_eq_true ?_
  rcases List.mem_append.1 hc with hc | hc
  · exact hf c hc
  · rw [List.mem_singleton.1 hc]
    decide

/-- A path without null code points is the whole name of its member. -/
theorem member_name (hf : ∀ c ∈ folder, c.val ≠ 0) (hp : ∀ c ∈ f.path, c.val ≠ 0)
    (h : member folder f = .ok m) : m.name = folder ++ "/" ++ f.path := by
  rw [(member_eq_ok h).2.1, cutName_inside hf, cutName_eq_self hp]

/-! ## Reading back what was packed -/

/-- What an archive is taken to keep of its members: their names, their order and their bytes. -/
def Holds (archive : Bytes) (ms : List Zip.Member) : Prop :=
  ∃ entries, Zip.directory archive = .ok entries ∧
    List.Forall₂ (fun (m : Zip.Member) e => e.name = m.name ∧ Zip.content archive e = .ok m.content)
      ms entries

theorem mapM_readFile {archive : Bytes} {ps : List (File × Zip.Entry)}
    (h : ∀ p ∈ ps, Extraction.readFile archive p.1.path p.2 = .ok (rereadFile p.1)) :
    (ps.map fun p => (p.1.path, p.2)).mapM
        (fun (path, e) => Extraction.readFile archive path e) =
      .ok ((ps.map Prod.fst).map rereadFile) := by
  rw [List.map_map]
  exact Step.mapM_eq_ok.2 (Related.of_pairs h)

/-- An archive that holds the members of some files is read as these files, each as it is read
back. -/
theorem read_reread_of_holds {archive : Bytes} {files : List File} {ms : List Zip.Member}
    (hholds : Holds archive ms) (hne : files ≠ [])
    (hpaths : ∀ f ∈ files, IsPath s f.path ∧ ∀ c ∈ f.path, c.val ≠ 0)
    (hfolder : IsFolderName folder) (hnull : ∀ c ∈ folder, c.val ≠ 0)
    (hms : List.Forall₂ (fun f m => member folder f = .ok m) files ms) :
    Extraction.read s archive = .ok (Snapshot.ofFiles (files.map rereadFile)) := by
  obtain ⟨entries, hdirectory, hentries⟩ := hholds
  obtain ⟨ps, rfl, rfl, hps⟩ := Related.exists_pairs (Related.comp hms hentries)
  have hpath : ∀ p ∈ ps, IsPath s p.1.path ∧ ∀ c ∈ p.1.path, c.val ≠ 0 := fun p hp =>
    hpaths p.1 (List.mem_map_of_mem hp)
  have hread : ∀ p ∈ ps, p.2.name = folder ++ "/" ++ p.1.path ∧
      Extraction.readFile archive p.1.path p.2 = .ok (rereadFile p.1) := by
    intro p hp
    obtain ⟨m, hm, hname, hcontent⟩ := hps p hp
    refine ⟨hname.trans (member_name hnull (hpath p hp).2 hm), ?_⟩
    rw [Extraction.readFile, hcontent]
    have hback := ofBytes_of_encodeContent (member_eq_ok hm).1
    exact congrArg (fun c => Except.ok (File.mk p.1.path c)) hback
  have hnames : (ps.map Prod.snd).map (fun e => (e.name, e)) =
      ps.map fun p => (folder ++ "/" ++ p.1.path, p.2) := by
    rw [List.map_map]
    exact List.map_congr_left fun p hp => congrArg (·, p.2) (hread p hp).1
  have hplaced : Extraction.placed s ((ps.map Prod.snd).map fun e => (e.name, e)) =
      ps.map fun p => (p.1.path, p.2) := by
    rw [hnames]
    exact Extraction.placed_inside Prod.snd hfolder (fun h => hne (by rw [h]; rfl))
      fun p hp => (hpath p hp).1
  rw [Extraction.read, hdirectory]
  refine Step.bind_eq_ok.2 ⟨_, rfl, ?_⟩
  rw [hplaced]
  exact Step.bind_eq_ok.2 ⟨_, mapM_readFile fun p hp => (hread p hp).2, rfl⟩

/-- An archive that holds the members of files as extractions make them is read as these files. -/
theorem read_of_holds {archive : Bytes} {files : List File} {ms : List Zip.Member}
    (hholds : Holds archive ms) (hne : files ≠ []) (hfiles : ∀ f ∈ files, IsFile s f)
    (hfolder : IsFolderName folder) (hnull : ∀ c ∈ folder, c.val ≠ 0)
    (hms : List.Forall₂ (fun f m => member folder f = .ok m) files ms) :
    Extraction.read s archive = .ok (Snapshot.ofFiles files) := by
  have hsame : files.map rereadFile = files :=
    (List.map_congr_left fun f hf => rereadFile_eq_self (hfiles f hf)).trans (List.map_id _)
  have hread := read_reread_of_holds (s := s) hholds hne
    (fun f hf => ⟨(hfiles f hf).path, (hfiles f hf).null⟩) hfolder hnull hms
  rwa [hsame] at hread

end Packaging

end Decouple
