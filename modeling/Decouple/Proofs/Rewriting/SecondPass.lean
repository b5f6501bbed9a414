import Decouple.Proofs.Rewriting.Manifests

/-!
# A second pass

A rewritten file is rewritten to itself, without notes, exactly when no rule of its role finds
anything in it (`file_again_iff`).  Manifests and files of no role are always left alone.  A source
file need not be: an import is looked for at the start of a line, so the second of two imports on
one line is found only once the first is gone (`not_forall_file_again`).
-/

namespace Decouple

namespace Rewrite

variable {s : Settings} {path content : Text} {r : Rewrite}

/-- A chain of edits leaves a text alone exactly when it makes no note. -/
theorem finish_eq_self {before : Text} {edited : Text × List Note} :
    finish before edited = ⟨before, []⟩ ↔ (finish before edited).notes = [] := by
  constructor
  · intro h
    rw [h]
  · intro h
    rw [finish_notes] at h
    simp [finish, h]

/-- Settled texts are those that the rewrite of a role leaves alone. -/
theorem file_eq_self_iff (hrole : FileRole.ofPath path ≠ .manifest) (t : Text) :
    file s path t = .ok ⟨t, []⟩ ↔ Settled s path t := by
  unfold file Settled
  cases hr : FileRole.ofPath path with
  | manifest => exact absurd hr hrole
  | bundlerConfig => exact (Except.ok.injEq ..).to_iff.trans (finish_eq_self.trans bundlerConfig_notes)
  | entryHtml => exact (Except.ok.injEq ..).to_iff.trans (finish_eq_self.trans markup_notes)
  | source => exact (Except.ok.injEq ..).to_iff.trans (finish_eq_self.trans source_notes)
  | other => exact iff_of_true rfl trivial

/-- A file that has a rewrite is left alone by a second one exactly when its rewritten text is
settled. -/
theorem file_again_iff (h : file s path content = .ok r) :
    file s path r.content = .ok ⟨r.content, []⟩ ↔ Settled s path r.content := by
  by_cases hrole : FileRole.ofPath path = .manifest
  · refine iff_of_true ?_ ?_
    · simp only [file, hrole] at h ⊢
      exact manifest_again h
    · simp only [Settled, hrole]
  · exact file_eq_self_iff hrole r.content

/-! ## Imports on a line -/

theorem file_of_source (h : FileRole.ofPath path = .source) :
    file s path content = .ok (source s content) := by
  rw [file, h]

/-- The path of a source file. -/
def somePath : Text := "src/a.ts"

theorem somePath_source : FileRole.ofPath somePath = .source := by decide +kernel

/-- A file that the rewrite of source files leaves alone. -/
theorem somePath_clean {t : Text} (h : (source {} t).notes = []) :
    file {} somePath t = .ok ⟨t, []⟩ := by
  rw [file_of_source somePath_source, source, finish_eq_self.2 h]

/-- A platform's import with a line of its own. -/
def importAlone : Text := "import \"@lovable/a\"\n"

theorem importAlone_settled : Settled {} somePath (source {} importAlone).content := by
  have hagain : file {} somePath (source {} importAlone).content =
      .ok ⟨(source {} importAlone).content, []⟩ := by
    have hnotes : (source {} (source {} importAlone).content).notes = [] := by decide +kernel
    rw [file_of_source somePath_source, source, finish_eq_self.2 hnotes]
  exact (file_again_iff (file_of_source somePath_source)).1 hagain

/-- Two imports of a platform on one line. -/
def twoImports : Text := "import \"@lovable/a\"; import \"@lovable/b\"\n"

/-- A second rewrite may go on where the first has stopped. -/
theorem not_forall_file_again : ¬∀ (path content : Text) (r : Rewrite),
    file {} path content = .ok r → file {} path r.content = .ok ⟨r.content, []⟩ := by
  intro hall
  have hagain := hall somePath twoImports _ (file_of_source somePath_source)
  rw [file_of_source somePath_source] at hagain
  have hnotes : (source {} (source {} twoImports).content).notes ≠ [] := by decide +kernel
  exact hnotes (congrArg Rewrite.notes (Except.ok.inj hagain))

end Rewrite

end Decouple
