import Decouple.Pattern.Reach
import Mathlib.Data.List.Basic

/-!
# Steps that announce what they do

Every rewrite is a chain of steps, and a step maps a text to a text with notes.  A step is
*announced* when it leaves each text alone on which it makes no note.  An edit is announced,
because the segments of a text are a cut of it, and a chain of announced steps is announced.

So the notes of a chain decide everything: there are none exactly when each step, on the text that
the chain started with, has none.
-/

namespace Decouple

variable {ν : Type}

/-- After an edit without notes only the next one is seen. -/
theorem andThen_of_silent (t : Text) (step : Text → Text × List ν) :
    andThen (t, []) step = step t := rfl

/-- When nothing is left, a step that leaves the empty text alone adds nothing. -/
theorem andThen_of_nil {step : Text → Text × List ν} (h : step [] = ([], [])) (notes : List ν) :
    andThen ([], notes) step = ([], notes) := by
  rw [andThen, h]
  exact congrArg (Prod.mk []) (List.append_nil notes)

/-- A step that makes no note leaves its text as it was. -/
def Announced (step : Text → Text × List ν) : Prop :=
  ∀ t, (step t).2 = [] → (step t).1 = t

namespace Announced

/-- An announced step that makes no note gives its text back. -/
theorem eq_of_notes {step : Text → Text × List ν} {t : Text} (h : Announced step)
    (hn : (step t).2 = []) : step t = (t, []) :=
  Prod.ext (h t hn) hn

/-- A chain of two steps makes no note exactly when neither step does on the first text. -/
theorem andThen_notes_eq_nil {step : Text → Text × List ν} {first : Text × List ν} {t : Text}
    (h : first.2 = [] → first.1 = t) :
    (andThen first step).2 = [] ↔ first.2 = [] ∧ (step t).2 = [] := by
  simp only [andThen, List.append_eq_nil_iff]
  constructor
  · rintro ⟨hf, hs⟩
    exact ⟨hf, by rwa [h hf] at hs⟩
  · rintro ⟨hf, hs⟩
    exact ⟨hf, by rwa [h hf]⟩

/-- A chain of two announced steps is announced. -/
theorem andThen_text {step : Text → Text × List ν} (hs : Announced step)
    {first : Text × List ν} {t : Text} (h : first.2 = [] → first.1 = t)
    (hn : (andThen first step).2 = []) : (andThen first step).1 = t := by
  obtain ⟨hf, hn⟩ := (andThen_notes_eq_nil h).1 hn
  have hfirst : first.1 = t := h hf
  simp only [andThen, hfirst]
  exact hs t hn

/-- A chain of announced steps, one for each member of a list, makes no note exactly when no step
does on the first text; and then it leaves that text as it was. -/
theorem foldl_andThen {α : Type} {step : α → Text → Text × List ν}
    (hs : ∀ a, Announced (step a)) (as : List α) {first : Text × List ν} {t : Text}
    (h : first.2 = [] → first.1 = t) :
    ((as.foldl (fun edited a => andThen edited (step a)) first).2 = [] ↔
        first.2 = [] ∧ ∀ a ∈ as, (step a t).2 = []) ∧
      ((as.foldl (fun edited a => andThen edited (step a)) first).2 = [] →
        (as.foldl (fun edited a => andThen edited (step a)) first).1 = t) := by
  induction as generalizing first with
  | nil => simpa using h
  | cons a as ih =>
    obtain ⟨hnotes, htext⟩ := ih (andThen_text (hs a) h)
    refine ⟨?_, htext⟩
    rw [List.foldl_cons, hnotes, andThen_notes_eq_nil h, List.forall_mem_cons, and_assoc]

end Announced

/-! ## Edits -/

namespace Pattern

variable {pat : Pattern} {choose : Match → Option (Text × ν)} {t : Text} {m : Match}

/-- An edit has a note for each match that it picks. -/
theorem edit_notes (pat : Pattern) (choose : Match → Option (Text × ν)) (t : Text) :
    (pat.edit choose t).2 = (pat.findAll t).filterMap fun m => (choose m).map Prod.snd := rfl

/-- An edit makes no note exactly when it picks no match. -/
theorem edit_notes_eq_nil :
    (pat.edit choose t).2 = [] ↔ ∀ m ∈ pat.findAll t, choose m = none := by
  simp [edit_notes, List.filterMap_eq_nil_iff]

/-- A segment whose match is not picked keeps its text. -/
theorem replaced_of_not_chosen {sg : Segment}
    (h : ∀ m, sg.match? = some m → choose m = none) :
    Segment.replaced (fun m => ((choose m).map Prod.fst).getD m.text) sg = sg.text := by
  cases sg with
  | kept c => rfl
  | found m =>
    have hm : choose m = none := h m rfl
    simp [Segment.replaced, Segment.text, hm]

/-- What an edit makes of the segments of a text. -/
def edited (choose : Match → Option (Text × ν)) (segments : List Segment) : Text × List ν :=
  (segments.flatMap (Segment.replaced fun m => ((choose m).map Prod.fst).getD m.text),
    (segments.filterMap Segment.match?).filterMap fun m => (choose m).map Prod.snd)

theorem edited_append (choose : Match → Option (Text × ν)) (before behind : List Segment) :
    edited choose (before ++ behind) =
      ((edited choose before).1 ++ (edited choose behind).1,
        (edited choose before).2 ++ (edited choose behind).2) := by
  simp only [edited, List.flatMap_append, List.filterMap_append]

theorem edited_kept (choose : Match → Option (Text × ν)) (t : Text) :
    edited choose (t.map .kept) = (t, []) := by
  induction t with
  | nil => rfl
  | cons c t ih => rw [List.map_cons, ← List.singleton_append, edited_append, ih]; rfl

theorem edited_found_of_some {u : Text} {note : ν} (h : choose m = some (u, note)) :
    edited choose [.found m] = (u, [note]) := by
  simp [edited, Segment.replaced, Segment.match?, h]

theorem edited_found_of_none (h : choose m = none) : edited choose [.found m] = (m.text, []) := by
  simp [edited, Segment.replaced, Segment.match?, h]

/-- Segments without a match that is picked keep their text. -/
theorem edited_of_not_chosen {segments : List Segment}
    (h : ∀ sg ∈ segments, ∀ m, sg.match? = some m → choose m = none) :
    edited choose segments = (segments.flatMap Segment.text, []) := by
  refine Prod.ext (List.flatMap_congr fun sg hsg => replaced_of_not_chosen (h sg hsg)) ?_
  refine List.filterMap_eq_nil_iff.2 fun m hm => ?_
  obtain ⟨sg, hsg, hfound⟩ := List.mem_filterMap.1 hm
  rw [h sg hsg m hfound]
  rfl

theorem edit_nil (pat : Pattern) (choose : Match → Option (Text × ν)) :
    pat.edit choose [] = ([], []) := rfl

theorem edit_eq_edited (pat : Pattern) (choose : Match → Option (Text × ν)) (t : Text) :
    pat.edit choose t = edited choose (pat.segments t) := rfl

/-- An edit that picks no match leaves the text as it was. -/
theorem edit_of_not_chosen (h : ∀ m ∈ pat.findAll t, choose m = none) :
    pat.edit choose t = (t, []) := by
  have hnone : ∀ sg ∈ pat.segments t, ∀ m, sg.match? = some m → choose m = none :=
    fun sg hsg m hm => h m (List.mem_filterMap.2 ⟨sg, hsg, hm⟩)
  rw [edit_eq_edited, edited_of_not_chosen hnone, text_segments]

theorem edit_announced (pat : Pattern) (choose : Match → Option (Text × ν)) :
    Announced (pat.edit choose) := by
  intro t hn
  rw [edit_of_not_chosen (edit_notes_eq_nil.1 hn)]

/-- Without a match nothing is replaced. -/
theorem replace_of_findAll_eq_nil {f : Match → Text} (h : pat.findAll t = []) :
    pat.replace f t = t := by
  have hsame : ∀ sg ∈ pat.segments t, Segment.replaced f sg = sg.text := by
    intro sg hsg
    cases sg with
    | kept c => rfl
    | found m =>
      have hm : m ∈ pat.findAll t := List.mem_filterMap.2 ⟨_, hsg, rfl⟩
      rw [h] at hm
      cases hm
  calc pat.replace f t
      = (pat.segments t).flatMap Segment.text := List.flatMap_congr hsame
    _ = t := text_segments pat t

/-- An edit that picks every match makes no note exactly when there is no match. -/
theorem edit_all_notes_eq_nil (replacement : Match → Text × ν) :
    (pat.edit (fun m => some (replacement m)) t).2 = [] ↔ pat.findAll t = [] := by
  rw [edit_notes_eq_nil, List.eq_nil_iff_forall_not_mem]
  simp

end Pattern

end Decouple
