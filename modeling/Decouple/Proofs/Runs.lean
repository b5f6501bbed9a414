import Decouple.Proofs.Traversal
import Decouple.Proofs.Zips
import Decouple.Run.Basic

/-!
# The stages of a run

A run that ends with a result has gone through all of its stages.  `Run.Stages` says what each of
them was given and what it made, and `Run.exists_stages` opens a run into them, so nothing that is
proved about runs looks at their definition again.

A source that is an archive is read as such: its bytes are those that it was handed over with, or
those of the file that it names.
-/

namespace Decouple

namespace Source

/-- The bytes of the archive that a source is, on a disk; a repository is none. -/
def archive? (d : Disk) : Source → Option Bytes
  | bytes archive => some archive
  | source => source.path?.bind fun path => (d.read path).toOption

end Source

namespace Retrieval

variable {k : Desk} {s : Session} {source : Source} {reference : Option Text} {r : Retrieved}
  {archive : Bytes} {path name : Text}

theorem read_of_retrieve (h : Extraction.retrieve k.settings archive name = .ok r) :
    Extraction.read k.settings archive = .ok r.snapshot := by
  unfold Extraction.retrieve at h
  split at h
  · next hr =>
    rw [hr, ← Except.ok.inj h]
  · cases h

theorem read_of_ofFile (h : ofFile k.settings s.disk path = .ok r)
    (ha : (s.disk.read path).toOption = some archive) :
    Extraction.read k.settings archive = .ok r.snapshot := by
  unfold ofFile at h
  split at h
  · cases h
  split at h
  · cases h
  rw [Step.toOption_eq_some.1 ha] at h
  exact read_of_retrieve h

/-- What is retrieved from an archive is what the archive is read as. -/
theorem read_of_ofSource (ha : source.archive? s.disk = some archive)
    (h : (ofSource k s source reference).result = .ok r) :
    Extraction.read k.settings archive = .ok r.snapshot := by
  cases source with
  | bytes b =>
    rw [Source.archive?] at ha
    rw [← Option.some.inj ha]
    exact read_of_retrieve h
  | file path => exact read_of_ofFile h ha
  | named text =>
    obtain ⟨path, hpath, hread⟩ := Option.bind_eq_some_iff.1 ha
    unfold ofSource at h
    rw [hpath] at h
    exact read_of_ofFile h hread

end Retrieval

namespace Completion

variable {k : Desk} {s s' : Session} {r : Retrieved} {a : Analysis} {o : RunOptions}
  {name ref : Text} {cleaning : Cleaning} {c : Cleaned} {result : RunResult}

/-! ## One stage after the other -/

theorem finish_eq_ok (h : finish k.settings cleaning = .ok c) :
    c.files = (Polyfill.complete k.settings cleaning.files).1 ∧
      ∃ after, Analysis.ofSnapshot k.settings c.files = .ok after ∧ c.scoreAfter = after.score := by
  unfold finish at h
  dsimp only at h
  split at h
  · cases h
  · next after hafter =>
    rw [← Except.ok.inj h]
    exact ⟨rfl, after, hafter, rfl⟩

theorem package_eq_ok (h : package k s r a name c = (.ok ref, s')) :
    ∃ ms, Packaging.members k.settings c.files name (report r a name c s.now.1).toText = .ok ms ∧
      k.store s.now.2 (Zip.write ms) = (.ok ref, s') := by
  unfold package at h
  dsimp only at h
  split at h
  · cases h
  split at h
  · cases h
  · next ms hms =>
    refine ⟨ms, Step.mapError_eq_ok.1 hms, ?_⟩
    split at h
    · next hstore =>
      cases h
      exact hstore
    · cases h

theorem deliver_eq_ok (h : (deliver k s r a o name c).result = .ok result) :
    (∃ s', package k s r a name c = (.ok result.archiveRef, s') ∧
      record k s' o a name c result.archiveRef =
        (result.record, (deliver k s r a o name c).session)) ∧
      result.analysis = a ∧ result.files = c.files ∧ result.scoreAfter = c.scoreAfter ∧
      result.projectName = name ∧ [⟨100, "Done"⟩] <:+ (deliver k s r a o name c).milestones := by
  unfold deliver at h ⊢
  split at h
  · cases h
  · next ref s' hpackage =>
    rw [← Except.ok.inj h]
    exact ⟨⟨s', hpackage, rfl⟩, rfl, rfl, rfl, rfl, [⟨90, "Packaging"⟩, ⟨95, "Recording run"⟩], rfl⟩

theorem run_eq_ok (h : (run k s r a o).result = .ok result) :
    ∃ cleaning c, Cleaning.run k.settings r.snapshot a.filesToRemove
        (if o.useAssistant then k.assistant else none) = .ok cleaning ∧
      finish k.settings cleaning = .ok c ∧
      (deliver k s r a o (projectName o r.label) c).result = .ok result ∧
      (run k s r a o).session = (deliver k s r a o (projectName o r.label) c).session ∧
      (deliver k s r a o (projectName o r.label) c).milestones <:+ (run k s r a o).milestones := by
  unfold run at h ⊢
  dsimp only at h ⊢
  split at h
  · cases h
  · next cleaning hcleaning =>
    refine ⟨cleaning, ?_⟩
    split at h
    · cases h
    · next c hc => exact ⟨c, hcleaning, hc, h, rfl, List.suffix_append _ _⟩

end Completion

namespace Run

variable {k : Desk} {s : Session} {source : Source} {o : RunOptions} {result : RunResult}
  {r : Retrieved} {a : Analysis} {c : Cleaning} {ms : List Zip.Member}

/-- A run with a result has retrieved and analyzed a project and completed it. -/
theorem perform_eq_ok (h : (perform k s source o).result = .ok result) :
    ∃ r a, (Retrieval.ofSource k s source o.reference).result = .ok r ∧
      Analysis.ofSnapshot k.settings r.snapshot = .ok a ∧
      ∃ ran, Completion.run k (s.send (Retrieval.ofSource k s source o.reference).requests) r a
          (named o source) = ran ∧ ran.result = .ok result ∧
        ran.session = (perform k s source o).session ∧
        ran.milestones <:+ (perform k s source o).milestones := by
  unfold perform at h ⊢
  dsimp only at h ⊢
  split at h
  · cases h
  · next r hr =>
    split at h
    · cases h
    · next a ha =>
      refine ⟨r, a, hr, ha, ?_⟩
      split at h
      · cases h
      · next hwritable =>
        unfold afterAnalysis at h ⊢
        dsimp only at h ⊢
        split at h
        · next happroved =>
          rw [if_neg hwritable, if_pos happroved]
          exact ⟨_, rfl, h, rfl, List.suffix_append _ _⟩
        · cases h

/-- The session of a run after the retrieval. -/
def afterRetrieval (k : Desk) (s : Session) (source : Source) (o : RunOptions) : Session :=
  s.send (Retrieval.ofSource k s source o.reference).requests

/-- What the stages of a run were given and what they made: the retrieved project, its analysis,
its cleaning, and the members of the archive that was stored. -/
structure Stages (k : Desk) (s : Session) (source : Source) (o : RunOptions) (result : RunResult)
    (r : Retrieved) (a : Analysis) (c : Cleaning) (ms : List Zip.Member) : Prop where
  retrieved : (Retrieval.ofSource k s source o.reference).result = .ok r
  analyzed : Analysis.ofSnapshot k.settings r.snapshot = .ok a
  cleaned : Cleaning.run k.settings r.snapshot a.filesToRemove
    (if o.useAssistant then k.assistant else none) = .ok c
  completed : result.files = (Polyfill.complete k.settings c.files).1
  scored : ∃ after, Analysis.ofSnapshot k.settings result.files = .ok after ∧
    result.scoreAfter = after.score
  named : result.projectName = Completion.projectName (named o source) r.label
  packed : ∃ finished, Completion.finish k.settings c = .ok finished ∧
    Packaging.members k.settings result.files result.projectName (Completion.report r a
      result.projectName finished (afterRetrieval k s source o).now.1).toText = .ok ms
  stored : ∃ s', k.store (afterRetrieval k s source o).now.2 (Zip.write ms) =
    (.ok result.archiveRef, s')

/-- How a run was stored and recorded. -/
structure Recorded (k : Desk) (s : Session) (source : Source) (o : RunOptions) (result : RunResult)
    (a : Analysis) (finished : Completion.Cleaned) (ms : List Zip.Member) : Prop where
  analysis : result.analysis = a
  files : result.files = finished.files
  scoreAfter : result.scoreAfter = finished.scoreAfter
  recorded : ∃ s', k.store (afterRetrieval k s source o).now.2 (Zip.write ms) =
      (.ok result.archiveRef, s') ∧
    Completion.record k s' (named o source) a result.projectName finished result.archiveRef =
      (result.record, (perform k s source o).session)

/-- A run with a result has gone through its stages, and was stored and recorded. -/
theorem exists_stages_recorded (h : (perform k s source o).result = .ok result) :
    ∃ r a c finished ms, Stages k s source o result r a c ms ∧
      Recorded k s source o result a finished ms := by
  obtain ⟨r, a, hr, ha, ran, rfl, hrun, hsession, -⟩ := perform_eq_ok h
  obtain ⟨cleaning, c, hcleaning, hfinish, hdeliver, hdelivered, -⟩ := Completion.run_eq_ok hrun
  obtain ⟨⟨s', hpackage, hrecord⟩, hanalysis, hfiles, hscore, hname, -⟩ :=
    Completion.deliver_eq_ok hdeliver
  obtain ⟨ms, hms, hstore⟩ := Completion.package_eq_ok hpackage
  obtain ⟨hcompleted, after, hafter, hafterScore⟩ := Completion.finish_eq_ok hfinish
  rw [← hdelivered, hsession, ← hname] at hrecord
  rw [← hname] at hms
  refine ⟨r, a, cleaning, c, ms, ⟨hr, ha, hcleaning, hfiles.trans hcompleted,
    ⟨after, ?_, hscore.trans hafterScore⟩, hname, ⟨c, hfinish, ?_⟩, s', hstore⟩,
    ⟨hanalysis, hfiles, hscore, s', hstore, hrecord⟩⟩
  · rw [hfiles]
    exact hafter
  · rw [hfiles]
    exact hms

/-- A run with a result has gone through its stages. -/
theorem exists_stages (h : (perform k s source o).result = .ok result) :
    ∃ r a c ms, Stages k s source o result r a c ms := by
  obtain ⟨r, a, c, finished, ms, hs, -⟩ := exists_stages_recorded h
  exact ⟨r, a, c, ms, hs⟩

/-- The last milestone of a run with a result is that it is done. -/
theorem done_suffix_milestones (h : (perform k s source o).result = .ok result) :
    [⟨100, "Done"⟩] <:+ (perform k s source o).milestones := by
  obtain ⟨r, a, -, -, ran, rfl, hrun, -, hran⟩ := perform_eq_ok h
  obtain ⟨-, c, -, -, hdeliver, -, hdelivered⟩ := Completion.run_eq_ok hrun
  obtain ⟨-, -, -, -, -, hdone⟩ := Completion.deliver_eq_ok hdeliver
  exact hdone.trans (hdelivered.trans hran)

/-- What a run packs is packed with some report. -/
theorem Stages.exists_members (hs : Stages k s source o result r a c ms) :
    ∃ report, Packaging.members k.settings result.files result.projectName report = .ok ms := by
  obtain ⟨finished, -, hms⟩ := hs.packed
  exact ⟨_, hms⟩

/-- The members that a run packs, if it comes that far. -/
def packed? (k : Desk) (s : Session) (source : Source) (o : RunOptions) :
    Option (List Zip.Member) := do
  let r ← (Retrieval.ofSource k s source o.reference).result.toOption
  let a ← (Analysis.ofSnapshot k.settings r.snapshot).toOption
  let c ← (Cleaning.run k.settings r.snapshot a.filesToRemove
    (if o.useAssistant then k.assistant else none)).toOption
  let finished ← (Completion.finish k.settings c).toOption
  let name := Completion.projectName (named o source) r.label
  let report := Completion.report r a name finished (afterRetrieval k s source o).now.1
  (Packaging.members k.settings finished.files name report.toText).toOption

theorem Stages.packed?_eq (hs : Stages k s source o result r a c ms) :
    packed? k s source o = some ms := by
  obtain ⟨finished, hfinish, hms⟩ := hs.packed
  have hfiles : result.files = finished.files :=
    hs.completed.trans (Completion.finish_eq_ok hfinish).1.symm
  rw [hfiles, hs.named] at hms
  refine Option.bind_eq_some_iff.2 ⟨r, Step.toOption_eq_some.2 hs.retrieved, ?_⟩
  refine Option.bind_eq_some_iff.2 ⟨a, Step.toOption_eq_some.2 hs.analyzed, ?_⟩
  refine Option.bind_eq_some_iff.2 ⟨c, Step.toOption_eq_some.2 hs.cleaned, ?_⟩
  refine Option.bind_eq_some_iff.2 ⟨finished, Step.toOption_eq_some.2 hfinish, ?_⟩
  exact Step.toOption_eq_some.2 hms

/-! ## A run -/

/-- A desk under the settings that runs have unless told otherwise. -/
def plainDesk : Desk where
  settings := {}
  archives := ".liberator/archives"
  ledger := ".liberator/ledger.jsonl"

/-- The archive of a project with one source file. -/
def oneFile : Bytes := Zip.write [⟨"a.ts", [0x78, 0x0A]⟩]

/-- Its run has a result, and packs an archive that the format has room for. -/
theorem perform_oneFile : (perform plainDesk {} (.bytes oneFile) {}).result.isOk = true ∧
    ∃ ms ∈ packed? plainDesk {} (.bytes oneFile) {}, Zip.Fits ms := by
  decide +kernel

theorem exists_run_oneFile :
    ∃ result, (perform plainDesk {} (.bytes oneFile) {}).result = .ok result :=
  Step.exists_of_isOk perform_oneFile.1

end Run

end Decouple
