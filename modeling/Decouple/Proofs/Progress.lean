import Decouple.Proofs.Number.Rounding
import Decouple.Proofs.Runs

/-!
# Progress never goes back

All reports of a run go through one tracker, whoever makes them, and the percentage that is shown
changes by `advance` alone.  So what is shown never falls and stays within its bounds because one
step keeps it there (`advance_bounds`), whatever the reports are: the percentages of the stages, the
shares of the hooks, or anything else.  That a run shows at last that it is done is read off its
milestones, since 100 is the most that can be shown.

A hook may fail and then shows nothing.  The hooks of a run count the members of a list, and such a
hook does not fail unless the list is too long for its length to be written (`hook_eq_step`), so
that a run can take their steps for milestones.
-/

namespace Decouple

namespace Progress

variable {shown percent start stop done total : Int} {label t : Text} {m : Milestone}
  {ms : List Milestone}

/-! ## What is shown -/

/-- Whether percentages never fall and stay between 0 and 100. -/
structure Rises (ms : List Milestone) : Prop where
  never_falls : ms.Pairwise fun m n => m.percent ≤ n.percent
  bounds : ∀ m ∈ ms, 0 ≤ m.percent ∧ m.percent ≤ 100

/-- One step: what is shown does not fall, and goes no further than 100. -/
theorem advance_bounds (h : shown ≤ 100) (percent : Int) :
    shown ≤ advance shown percent ∧ advance shown percent ≤ 100 := by
  rw [advance]
  omega

/-- What is shown after a percentage is not below it, and at most 100. -/
theorem bounds_of_mem_emit (h : shown ≤ 100) (hm : m ∈ emit shown ms) :
    shown ≤ m.percent ∧ m.percent ≤ 100 := by
  induction ms generalizing shown with
  | nil => cases hm
  | cons m' ms ih =>
    obtain ⟨hrises, hbound⟩ := advance_bounds h m'.percent
    rcases List.mem_cons.1 hm with rfl | hm
    · exact ⟨hrises, hbound⟩
    · obtain ⟨hle, hmost⟩ := ih hbound hm
      exact ⟨hrises.trans hle, hmost⟩

theorem pairwise_emit (h : shown ≤ 100) (ms : List Milestone) :
    (emit shown ms).Pairwise fun m n => m.percent ≤ n.percent := by
  induction ms generalizing shown with
  | nil => exact .nil
  | cons m ms ih =>
    have hbound := (advance_bounds h m.percent).2
    exact .cons (fun n hn => (bounds_of_mem_emit hbound hn).1) (ih hbound)

/-- Whatever is reported, what a tracker shows rises. -/
theorem rises_emit (ms : List Milestone) : Rises (emit 0 ms) :=
  ⟨pairwise_emit (by decide) ms, fun _ hm => bounds_of_mem_emit (by decide) hm⟩

/-- A last report of 100 is shown as it is. -/
theorem getLast?_emit (h : shown ≤ 100) (hms : [⟨100, t⟩] <:+ ms) :
    (emit shown ms).getLast? = some ⟨100, t⟩ := by
  obtain ⟨before, rfl⟩ := hms
  induction before generalizing shown with
  | nil =>
    have hfull : advance shown 100 = 100 := by
      rw [advance]
      omega
    rw [List.nil_append, emit, hfull]
    rfl
  | cons m before ih =>
    rw [List.cons_append, emit, List.getLast?_cons, ih (advance_bounds h m.percent).2]
    rfl

/-! ## Uses of a tracker -/

/-- A use that fails leaves what is shown as it is. -/
theorem filterMap_answers (shown : Int) (calls : List Call) :
    (answers shown calls).filterMap Except.toOption =
      emit shown (calls.filterMap fun call => call.milestone.toOption) := by
  induction calls generalizing shown with
  | nil => rfl
  | cons call calls ih =>
    rw [answers]
    cases hcall : call.milestone with
    | error e =>
      have hskip : ((call :: calls).filterMap fun call => call.milestone.toOption) =
          calls.filterMap fun call => call.milestone.toOption :=
        List.filterMap_cons_none (by rw [hcall]; rfl)
      rw [hskip]
      exact ih shown
    | ok m =>
      have htaken : ((call :: calls).filterMap fun call => call.milestone.toOption) =
          m :: calls.filterMap fun call => call.milestone.toOption :=
        List.filterMap_cons_some (by rw [hcall]; rfl)
      rw [htaken]
      exact congrArg (List.cons _) (ih (advance shown m.percent))

/-- However a tracker is used, what it shows rises. -/
theorem rises_shownBy (calls : List Call) : Rises (shownBy calls) := by
  rw [shownBy, filterMap_answers]
  exact rises_emit _

/-! ## Hooks -/

/-- The part of a count that is done is a finite number with a small exponent. -/
theorem exists_part_eq_finite (hdone : 0 ≤ done) (hle : done ≤ total) :
    ∃ negative m e, part done total = .finite negative m e ∧ m < 2 ^ 53 ∧ e ≤ 1 := by
  rw [part]
  split
  · obtain ⟨m, e, hone, hm, he⟩ := Binary64.exists_ofRatio_eq_finite ((1 : Int) < 0)
      Nat.one_pos (Nat.zero_le 970) (by decide : Nat.log2 1 ≤ Nat.log2 1 + 52 + 0)
    exact ⟨_, m, e, hone, hm, he⟩
  · next htotal =>
    have hlog : done.natAbs.log2 ≤ total.natAbs.log2 :=
      Binary64.log2_le_log2 (by omega) (by omega)
    obtain ⟨m, e, hpart, hm, he⟩ := Binary64.exists_ofRatio_eq_finite
      ((done < 0 : Bool) != (total < 0 : Bool)) (by omega : 0 < total.natAbs) (Nat.zero_le 970)
      (by omega : done.natAbs.log2 ≤ total.natAbs.log2 + 52 + 0)
    exact ⟨_, m, e, hpart, hm, he⟩

/-- A hook that counts the members of a list finds its percentage. -/
theorem exists_reach_eq_ok (hdone : 0 ≤ done) (hle : done ≤ total)
    (hway : (stop - start).natAbs ≤ 100) : ∃ n, reach start stop done total = .ok n := by
  obtain ⟨negative, m, e, hpart, hm, he⟩ := exists_part_eq_finite hdone hle
  have hlog : (stop - start).natAbs.log2 ≤ Nat.log2 1 + 52 + 0 :=
    (Binary64.log2_le_log2 (by decide) hway).trans (by decide)
  obtain ⟨n, f, hfinite, hn, hf⟩ := Binary64.exists_ofRatio_eq_finite (stop - start < 0)
    Nat.one_pos (Nat.zero_le 970) hlog
  have hofInt : Binary64.ofInt (stop - start) = .finite (stop - start < 0) n f := hfinite
  obtain ⟨k, hk⟩ := Binary64.exists_round?_of_isFinite
    (Binary64.isFinite_mul (stop - start < 0) negative hn hm hf he)
  refine ⟨start + k, ?_⟩
  simp only [reach, hpart, hofInt, Binary64.isFinite, hk]
  rfl

/-- The hooks of a run report the steps that the run takes for their milestones. -/
theorem hook_eq_step (label : Text) (hdone : 0 ≤ done) (hle : done ≤ total)
    (hway : (stop - start).natAbs ≤ 100)
    (hwritable : (Reading.isWritable done && Reading.isWritable total) = true) :
    hook start stop label done total = .ok (step start stop label done total) := by
  obtain ⟨n, hn⟩ := exists_reach_eq_ok hdone hle hway
  have hshare : share start stop done total = n := by
    rw [share, hn]
    rfl
  refine Step.bind_eq_ok.2 ⟨n, hn, ?_⟩
  rw [if_pos hwritable, step, hshare]

end Progress

namespace Run

/-- What a tracker shows rises, whatever it is told; and so does what a run shows, which ends with
100 and that it is done if the run has a result. -/
theorem progress_rises :
    (∀ calls : List Progress.Call, Progress.Rises (Progress.shownBy calls)) ∧
    ∀ (k : Desk) (s : Session) (source : Source) (o : RunOptions) (result : RunResult),
      (perform k s source o).result = .ok result →
        Progress.Rises (perform k s source o).progress ∧
          (perform k s source o).progress.getLast? = some ⟨100, "Done"⟩ := by
  refine ⟨Progress.rises_shownBy, ?_⟩
  intro k s source o result h
  refine ⟨Progress.rises_emit _, ?_⟩
  exact Progress.getLast?_emit (by decide) (done_suffix_milestones h)

/-- The run on a project with one file shows its milestones up to the last. -/
theorem progress_oneFile_rises : ∃ result,
    (perform plainDesk {} (.bytes oneFile) {}).result = .ok result ∧
      Progress.Rises (perform plainDesk {} (.bytes oneFile) {}).progress ∧
        (perform plainDesk {} (.bytes oneFile) {}).progress.getLast? = some ⟨100, "Done"⟩ := by
  obtain ⟨result, hrun⟩ := exists_run_oneFile
  exact ⟨result, hrun, progress_rises.2 _ _ _ _ result hrun⟩

end Run

end Decouple
