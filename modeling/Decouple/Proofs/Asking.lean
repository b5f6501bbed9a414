import Decouple.Proofs.Cleaning

/-!
# What the text-transform service can reach

A client of the service is not trusted: a call may succeed with any text, fail or raise, and what it
comes to may depend on all calls before it.  The loop that asks it threads one log through the
outcomes, so the reply to the calls for the outcomes before the `i`-th decides what becomes of the
`i`-th (`getElem?_askFrom`), and what happens during the calls is the same whatever they come to
(`events_askFrom`).

From this follows what a cleaning with a client shares with the same cleaning without one
(`client_reaches_source_texts_only`): everything but the texts of source files, and of these only
those for which a text came back that is neither blank nor the one handed over.
-/

namespace Decouple

/-- A call in the log adds its text to those handed over. -/
@[simp] theorem AssistantLog.submitted_afterCall (l : AssistantLog) (delay : Delay) (total : Nat)
    (instruction content : Text) :
    (l.afterCall delay total instruction content).submitted =
      l.submitted ++ [(instruction, content)] := by
  by_cases h : l.submitted.length = 0
  · simp only [afterCall, h, if_pos, List.append_nil]
    simp [submitted, List.filterMap_append]
  · simp only [afterCall, h, if_false]
    simp [submitted, List.filterMap_append, -List.append_assoc]

namespace Cleaning

variable {ε : Type} {s : Settings}

/-! ## What the service is asked, and what happens meanwhile -/

/-- The calls that outcomes lead to: the text of each source file, with the instruction. -/
def callsOf (s : Settings) (os : List Outcome) : List (Text × Text) :=
  (os.filter isSubmitted).map fun o => (s.instruction, o.content.asText)

/-- What happens at the call for an outcome when `made` of `total` calls have been made: a wait
unless it is the first, the call, and a report that one more has been made. -/
def eventsOfCall (s : Settings) (total made : Nat) (o : Outcome) : List AssistantEvent :=
  (if made = 0 then [] else [.slept s.assistant.callDelay]) ++
    [.submitted s.instruction o.content.asText, .progressed (made + 1) total]

/-- What happens at the calls for outcomes when `made` of `total` calls have been made. -/
def eventsOfCalls (s : Settings) (total : Nat) : Nat → List Outcome → List AssistantEvent
  | _, [] => []
  | made, o :: os => eventsOfCall s total made o ++ eventsOfCalls s total (made + 1) os

/-- What the service makes of one outcome after some calls. -/
def answer (s : Settings) (assistant : Assistant) (earlier : List (Text × Text)) (o : Outcome) :
    Outcome :=
  if isSubmitted o then withReply o (assistant earlier s.instruction o.content.asText) else o

theorem events_askFrom (a : Assistant) (total : Nat) (log : AssistantLog) (os : List Outcome) :
    (askFrom s a total log os).2.events =
      log.events ++ eventsOfCalls s total log.submitted.length (os.filter isSubmitted) := by
  induction os generalizing log with
  | nil => exact (List.append_nil _).symm
  | cons o os ih =>
    unfold askFrom
    by_cases ho : isSubmitted o = true
    · -- The call for `o` is one more in the log that the rest starts from.
      rw [if_pos ho, List.filter_cons_of_pos ho, eventsOfCalls]
      dsimp only
      rw [ih, AssistantLog.submitted_afterCall, List.length_append, List.length_singleton]
      simp only [AssistantLog.afterCall, eventsOfCall, List.append_assoc]
    · rw [if_neg ho, List.filter_cons_of_neg ho]
      exact ih log

/-- The `i`-th outcome is decided by the reply to the calls for those before it. -/
theorem getElem?_askFrom (a : Assistant) (total : Nat) (log : AssistantLog) (os : List Outcome)
    (i : Nat) :
    (askFrom s a total log os).1[i]? =
      os[i]?.map (answer s a (log.submitted ++ callsOf s (os.take i))) := by
  induction os generalizing log i with
  | nil => rfl
  | cons o os ih =>
    unfold askFrom
    cases i with
    | zero =>
      have hnone : callsOf s ((o :: os).take 0) = [] := rfl
      rw [hnone, List.append_nil]
      by_cases ho : isSubmitted o = true
      · simp [answer, ho]
      · simp [answer, ho]
    | succ i =>
      rw [List.take_succ_cons]
      by_cases ho : isSubmitted o = true
      · have hcalls : callsOf s (o :: os.take i) =
            (s.instruction, o.content.asText) :: callsOf s (os.take i) := by
          rw [callsOf, List.filter_cons_of_pos ho, List.map_cons, ← callsOf]
        rw [if_pos ho, hcalls]
        dsimp only
        rw [List.getElem?_cons_succ, List.getElem?_cons_succ, ih,
          AssistantLog.submitted_afterCall, List.append_assoc, List.singleton_append]
      · have hcalls : callsOf s (o :: os.take i) = callsOf s (os.take i) := by
          rw [callsOf, List.filter_cons_of_neg ho, ← callsOf]
        rw [if_neg ho, hcalls]
        exact ih log i

theorem length_askFrom (a : Assistant) (total : Nat) (log : AssistantLog) (os : List Outcome) :
    (askFrom s a total log os).1.length = os.length := by
  induction os generalizing log with
  | nil => rfl
  | cons o os ih =>
    unfold askFrom
    split
    · exact congrArg (· + 1) (ih _)
    · exact congrArg (· + 1) (ih _)

/-! ## What a reply does to one outcome -/

/-- A reply puts a text in the place of another: it has succeeded with it, and it is neither blank
nor the other. -/
def Adopts (reply : Except ε Transformed) (current t : Text) : Prop :=
  reply = .ok (.success t) ∧ Text.isBlank t = false ∧ t ≠ current

/-- What a reply may make of an outcome: another content, and that exactly when the outcome is text
of a source file and the reply puts a text in its place; then the content is that text. -/
structure AnsweredBy (reply : Except ε Transformed) (o o' : Outcome) : Prop where
  path : o'.path = o.path
  notes : o'.notes = o.notes
  content_ne : o'.content ≠ o.content ↔
    isSubmitted o = true ∧ ∃ t, Adopts reply o.content.asText t
  content_eq : isSubmitted o = true → ∀ t, Adopts reply o.content.asText t → o'.content = .text t
  byAssistant : o'.byAssistant = true ↔ o'.content ≠ o.content

theorem content_of_isSubmitted {o : Outcome} (h : isSubmitted o = true) :
    o.content = .text o.content.asText := by
  simp only [isSubmitted, Bool.and_eq_true] at h
  cases hc : o.content with
  | text t => rfl
  | bytes b =>
    rw [hc] at h
    cases h.1

theorem withReply_failure (o : Outcome) (message : Text) : withReply o (.failure message) = o := by
  simp [withReply, Transformed.getD]

theorem withReply_of_kept {o : Outcome} {t : Text}
    (h : Text.isBlank t = true ∨ t = o.content.asText) : withReply o (.success t) = o := by
  rcases h with h | h <;> simp [withReply, Transformed.getD, h]

theorem withReply_of_new {o : Outcome} {t : Text} (hblank : Text.isBlank t = false)
    (hne : t ≠ o.content.asText) :
    withReply o (.success t) = { o with content := .text t, byAssistant := true } := by
  simp [withReply, Transformed.getD, hblank, hne]

theorem answeredBy_self {reply : Except ε Transformed} {o : Outcome} (ho : o.byAssistant = false)
    (h : isSubmitted o = true → ∀ t, ¬Adopts reply o.content.asText t) : AnsweredBy reply o o where
  path := rfl
  notes := rfl
  content_ne := ⟨fun hne => absurd rfl hne, fun ⟨hs, t, ht⟩ => absurd ht (h hs t)⟩
  content_eq hs t ht := absurd ht (h hs t)
  byAssistant := by simp [ho]

/-- The answer of a guarded client is what its reply may make of the outcome. -/
theorem answeredBy_answer (describe : ε → Text) (client : Client ε) (earlier : List (Text × Text))
    {o : Outcome} (ho : o.byAssistant = false) :
    AnsweredBy (client earlier s.instruction o.content.asText) o
      (answer s (client.guarded describe) earlier o) := by
  unfold answer Client.guarded
  generalize client earlier s.instruction o.content.asText = reply
  by_cases hs : isSubmitted o = true
  · rw [if_pos hs]
    rcases reply with e | t | message
    · -- A call that raised counts as one that failed.
      dsimp only
      rw [withReply_failure]
      exact answeredBy_self ho fun _ t ht => by cases ht.1
    · dsimp only
      by_cases hkept : Text.isBlank t = true ∨ t = o.content.asText
      · rw [withReply_of_kept hkept]
        refine answeredBy_self ho fun _ u hu => ?_
        obtain ⟨hreply, hblank, hne⟩ := hu
        cases hreply
        rcases hkept with hk | hk
        · rw [hblank] at hk
          cases hk
        · exact hne hk
      · rw [not_or, Bool.not_eq_true] at hkept
        have hne : Content.text t ≠ o.content := by
          rw [content_of_isSubmitted hs]
          exact fun h => hkept.2 (Content.text.inj h)
        rw [withReply_of_new hkept.1 hkept.2]
        exact
          { path := rfl
            notes := rfl
            content_ne := ⟨fun _ => ⟨hs, t, rfl, hkept⟩, fun _ => hne⟩
            content_eq := fun _ u hu => by cases hu.1; rfl
            byAssistant := ⟨fun _ => hne, fun _ => rfl⟩ }
    · dsimp only
      rw [withReply_failure]
      exact answeredBy_self ho fun _ t ht => by cases ht.1
  · rw [if_neg hs]
    exact answeredBy_self ho fun h => absurd h hs

/-! ## A whole cleaning -/

/-- What a cleaning with a client may be beside the same cleaning without one. -/
structure Answered (s : Settings) (client : Client ε) (plain asked : Cleaning) : Prop where
  removedPaths : asked.removedPaths = plain.removedPaths
  removedDependencies : asked.removedDependencies = plain.removedDependencies
  /-- The counters agree but for the files that the service changed. -/
  stats : asked.stats =
    { plain.stats with changedByAssistant := (asked.outcomes.filter (·.byAssistant)).length }
  length : asked.outcomes.length = plain.outcomes.length
  /-- Each outcome is answered by the reply to its text after the calls for the outcomes before. -/
  outcomes : ∀ (i : Nat) (o o' : Outcome), plain.outcomes[i]? = some o →
    asked.outcomes[i]? = some o' →
      AnsweredBy (client (callsOf s (plain.outcomes.take i)) s.instruction o.content.asText) o o'
  /-- The outcomes come in the order of their paths, each path once. -/
  ordered : plain.outcomes.Pairwise fun a b => Text.le a.path b.path = true ∧ a.path ≠ b.path
  /-- Each text of a source file is handed over once, in that order, with a wait before each call
  but the first and a report after each. -/
  events : asked.log.events =
    eventsOfCalls s (plain.outcomes.filter isSubmitted).length 0 (plain.outcomes.filter isSubmitted)

variable {snapshot : Snapshot} {listed : List Text} {plain : Cleaning}

theorem ordered_outcomes {assistant : Option Assistant}
    (h : run s snapshot listed assistant = .ok plain) :
    plain.outcomes.Pairwise fun a b => Text.le a.path b.path = true ∧ a.path ≠ b.path := by
  have hpaths := outcome_paths h
  have hle : ((survivors s snapshot listed).map File.path).Pairwise fun a b => Text.le a b = true :=
    List.pairwise_map.2 (Snapshot.pairwise_sorted _)
  have hne : ((survivors s snapshot listed).map File.path).Pairwise (· ≠ ·) :=
    Snapshot.nodup_sortedPaths _
  rw [← hpaths] at hle hne
  exact List.Pairwise.and (List.pairwise_map.1 hle) (List.pairwise_map.1 hne)

theorem byAssistant_of_rewriteFiles {files : List File} {os : List Outcome}
    (h : rewriteFiles s files = .ok os) {o : Outcome} (ho : o ∈ os) : o.byAssistant = false := by
  obtain ⟨f, -, hf⟩ := Related.exists_left (Step.mapM_eq_ok.1 h) ho
  unfold rewriteFile at hf
  split at hf
  · rw [← Except.ok.inj hf]
  · obtain ⟨r, -, rfl⟩ := Step.map_eq_ok.1 hf
    rfl

/-- A cleaning fails only where the rewrite by rule does. -/
theorem run_eq_error {assistant : Option Assistant} {e : RewriteFault} :
    run s snapshot listed assistant = .error e ↔
      rewriteFiles s (survivors s snapshot listed) = .error e := by
  unfold run survivors
  dsimp only
  cases rewriteFiles s (snapshot.without (pathsToRemove s snapshot listed)).sorted <;>
    simp [Except.map]

/-- A client changes nothing of a cleaning but the texts of source files, whatever its calls come
to, and a cleaning that fails with it fails in the same way without it. -/
theorem client_reaches_source_texts_only (describe : ε → Text) (client : Client ε) (s : Settings)
    (snapshot : Snapshot) (listed : List Text) :
    (∀ e, run s snapshot listed (some (client.guarded describe)) = .error e ↔
        run s snapshot listed none = .error e) ∧
      ∀ plain, run s snapshot listed none = .ok plain →
        ∃ asked, run s snapshot listed (some (client.guarded describe)) = .ok asked ∧
          Answered s client plain asked := by
  refine ⟨fun e => run_eq_error.trans run_eq_error.symm, fun plain h => ?_⟩
  have hordered := ordered_outcomes h
  obtain ⟨rewritten, hr, rfl⟩ := Step.map_eq_ok.1 h
  refine ⟨_, Step.map_eq_ok.2 ⟨rewritten, hr, rfl⟩, ?_⟩
  exact
    { removedPaths := rfl
      removedDependencies := rfl
      stats := rfl
      length := length_askFrom _ _ _ _
      outcomes := fun i o o' ho ho' => by
        -- The `i`-th outcome with the client is its answer to the `i`-th one without.
        have hanswer := (getElem?_askFrom (client.guarded describe) _ {} rewritten i).symm.trans ho'
        rw [ho] at hanswer
        obtain rfl := Option.some.inj hanswer
        exact answeredBy_answer describe client _
          (byAssistant_of_rewriteFiles hr (List.mem_of_getElem? ho))
      ordered := hordered
      events := events_askFrom _ _ {} rewritten }

/-! Of two source files the call for the first raises, and that for the second gives a text. -/

/-- A client whose first call raises and whose later ones give a text. -/
def secondCallAnswers : Client Text := fun earlier _ _ =>
  if earlier.isEmpty then .error "out of reach" else .ok (.success "done\n")

/-- A component and a page. -/
def twoSources : Snapshot :=
  Snapshot.ofFiles [⟨"b.ts", .text "let b = 1\n"⟩, ⟨"a.ts", .text "let a = 1\n"⟩]

theorem twoSources_answered : ∃ plain asked,
    run {} twoSources [] none = .ok plain ∧
      run {} twoSources [] (some (secondCallAnswers.guarded id)) = .ok asked ∧
        Answered {} secondCallAnswers plain asked ∧
          asked.outcomes.map Outcome.content = [.text "let a = 1\n", .text "done\n"] := by
  have hrun : (run {} twoSources [] none).isOk = true := by decide +kernel
  obtain ⟨plain, hplain⟩ := Step.exists_of_isOk hrun
  obtain ⟨asked, hasked, hanswered⟩ :=
    (client_reaches_source_texts_only id secondCallAnswers {} twoSources []).2 plain hplain
  have hcontents : (run {} twoSources [] (some (secondCallAnswers.guarded id))).toOption.map
      (·.outcomes.map Outcome.content) = some [.text "let a = 1\n", .text "done\n"] := by
    decide +kernel
  rw [hasked] at hcontents
  exact ⟨plain, asked, hplain, hasked, hanswered, Option.some.inj hcontents⟩

end Cleaning

end Decouple
