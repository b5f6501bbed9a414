import Decouple.Assistant.Answer
import Decouple.Proofs.Json.Values
import Decouple.Proofs.Records
import Decouple.Proofs.Retries

/-!
# What a text-transform service accepts

Each provider has a place in a reply where the text stands (`Provider.HasText`); a body is read for it
and for nothing else (`answerText_eq_ok`).  A call is to come to a success exactly if the status says
that all went well and the text is there, and to a failure otherwise (`Service.Answers`).

It does so exactly if it can be sent (`Sends`), its reply does not come from nowhere or nest too deep,
and no reply has a text whose status is neither a success nor a refusal (`answers_iff`).  A redirection
with a text is one: it passes for a success (`not_forall_answers`).
-/

namespace Decouple

open Text (IsScalar)

/-! ## Texts in replies -/

namespace Json

variable {j v : Json} {name : Text}

theorem named_eq_ok : j.named name = .ok v ↔ j.get? name = some v := by
  unfold named get?
  split
  · next members =>
    cases hlookup : members.lookup name <;> simp [Json.members, hlookup]
  · simp [Json.members]
  · simp [Json.members]
  · next hobject _ _ =>
    cases j with
    | object members => exact absurd rfl (hobject members)
    | _ => simp [Json.members]

theorem exists_object_of_get? (h : j.get? name = some v) : ∃ members, j = .object members := by
  cases j with
  | object members => exact ⟨members, rfl⟩
  | _ => cases h

/-- A first part that has named parts itself is an item. -/
theorem exists_array_of_first {first : Json} (h : j.first = .ok first)
    (hparts : first.get? name = some v) : ∃ others, j = .array (first :: others) := by
  cases j with
  | array items =>
    cases items with
    | nil => cases h
    | cons item others =>
      cases h
      exact ⟨others, rfl⟩
  | string t =>
    cases t with
    | nil => cases h
    | cons c t =>
      cases h
      cases hparts
  | _ => cases h

end Json

namespace Provider

variable {p : Provider} {j block : Json} {blocks : List Json} {t : Text} {texts : List Text}
  {body : Bytes}

/-- Whether a block of a reply is a text block. -/
def IsTextBlock (block : Json) : Prop := block.get? "type" = some (.string "text")

/-- The texts of the text blocks among some blocks; a text block without a text has an empty one. -/
inductive TextsOf : List Json → List Text → Prop
  | nil : TextsOf [] []
  | text {block : Json} {t : Text} {blocks : List Json} {texts : List Text}
      (htype : IsTextBlock block) (htext : (block.get? "text").getD (.string []) = .string t)
      (h : TextsOf blocks texts) : TextsOf (block :: blocks) (t :: texts)
  | other {block : Json} {blocks : List Json} {texts : List Text} (htype : ¬IsTextBlock block)
      (h : TextsOf blocks texts) : TextsOf (block :: blocks) texts

/-- Whether a value has a text where a provider puts it. -/
inductive HasText : Provider → Json → Text → Prop
  | openai {j choice message : Json} {others : List Json} {t : Text}
      (hchoices : j.get? "choices" = some (.array (choice :: others)))
      (hmessage : choice.get? "message" = some message)
      (hcontent : message.get? "content" = some (.string t)) : HasText openai j t
  | ollama {j message : Json} {t : Text} (hmessage : j.get? "message" = some message)
      (hcontent : message.get? "content" = some (.string t)) : HasText ollama j t
  | anthropic {j : Json} {blocks : List Json} {texts : List Text}
      (hcontent : j.get? "content" = some (.array blocks)) (htexts : TextsOf blocks texts)
      (hne : texts ≠ []) : HasText anthropic j texts.flatten

theorem blockText?_of_isTextBlock (h : IsTextBlock block) :
    blockText? block = some ((block.get? "text").getD (.string [])) := by
  rw [blockText?, h]
  rfl

theorem blockText?_eq_none (h : ¬IsTextBlock block) : blockText? block = none := by
  unfold blockText?
  split
  · next kind hkind =>
    refine if_neg ?_
    rintro rfl
    exact h hkind
  · rfl

theorem textsOf_iff :
    TextsOf blocks texts ↔ blocks.filterMap blockText? = texts.map Json.string := by
  constructor
  · intro h
    induction h with
    | nil => rfl
    | text htype htext _ ih =>
      rw [List.filterMap_cons_some (blockText?_of_isTextBlock htype), htext, ih]
      rfl
    | other htype _ ih => rw [List.filterMap_cons_none (blockText?_eq_none htype), ih]
  · intro h
    induction blocks generalizing texts with
    | nil =>
      obtain rfl := List.map_eq_nil_iff.1 h.symm
      exact .nil
    | cons block blocks ih =>
      by_cases htype : IsTextBlock block
      · rw [List.filterMap_cons_some (blockText?_of_isTextBlock htype)] at h
        obtain ⟨t, rest, rfl, htext, hrest⟩ := List.map_eq_cons_iff.1 h.symm
        exact .text htype htext.symm (ih hrest.symm)
      · rw [List.filterMap_cons_none (blockText?_eq_none htype)] at h
        exact .other htype (ih h)

theorem notText?_eq_none {values : List Json} :
    notText? values = none ↔ ∃ texts : List Text, texts.map Json.string = values := by
  have htext {value : Json} : ¬value.text?.isNone = true ↔ value ∈ Set.range Json.string := by
    cases value <;> simp [Json.text?]
  have hall : notText? values = none ↔
      ∀ value ∈ values.zipIdx.map Prod.fst, ¬value.text?.isNone = true := by
    rw [notText?, Option.map_eq_none_iff, List.find?_eq_none, List.forall_mem_map]
  rw [hall, List.zipIdx_map_fst]
  simp only [htext]
  exact (Set.ext_iff.1 (Set.range_list_map Json.string) values).symm

theorem blocksText_eq_ok : blocksText blocks = .ok j ↔
    ∃ texts, TextsOf blocks texts ∧ texts ≠ [] ∧ j = .string texts.flatten := by
  simp only [textsOf_iff, blocksText]
  generalize blocks.filterMap blockText? = values
  have hflat (texts : List Text) :
      (texts.map Json.string).flatMap (fun j => j.text?.getD []) = texts.flatten := by
    rw [List.flatMap_map, List.flatten_eq_flatMap]
    rfl
  split
  · next hempty =>
    obtain rfl := List.isEmpty_iff.1 hempty
    refine iff_of_false (by simp) ?_
    rintro ⟨texts, htexts, hne, -⟩
    exact hne (List.map_eq_nil_iff.1 htexts.symm)
  · next hempty =>
    split
    · next place value hvalue =>
      refine iff_of_false (by simp) ?_
      rintro ⟨texts, rfl, -⟩
      rw [notText?_eq_none.2 ⟨texts, rfl⟩] at hvalue
      cases hvalue
    · next hnone =>
      obtain ⟨texts, rfl⟩ := notText?_eq_none.1 hnone
      rw [hflat]
      constructor
      · rintro ⟨⟩
        refine ⟨texts, rfl, ?_, rfl⟩
        rintro rfl
        exact hempty rfl
      · rintro ⟨texts', hsame, -, rfl⟩
        rw [List.map_injective_iff.2 (fun _ _ => Json.string.inj) hsame]

theorem textPlace_eq_ok : p.textPlace j = .ok (.string t) ↔ HasText p j t := by
  cases p with
  | openai =>
    simp only [textPlace, Step.mapError_eq_ok, Step.bind_eq_ok, Json.named_eq_ok]
    constructor
    · rintro ⟨choices, hchoices, choice, hchoice, message, hmessage, hcontent⟩
      obtain ⟨others, rfl⟩ := Json.exists_array_of_first hchoice hmessage
      exact .openai hchoices hmessage hcontent
    · rintro (@⟨_, choice, message, others, _, hchoices, hmessage, hcontent⟩)
      exact ⟨_, hchoices, choice, rfl, message, hmessage, hcontent⟩
  | ollama =>
    simp only [textPlace, Step.mapError_eq_ok, Step.bind_eq_ok, Json.named_eq_ok]
    constructor
    · rintro ⟨message, hmessage, hcontent⟩
      exact .ollama hmessage hcontent
    · rintro (_ | ⟨hmessage, hcontent⟩)
      exact ⟨_, hmessage, hcontent⟩
  | anthropic =>
    rw [textPlace]
    split
    · next e he =>
      refine iff_of_false (by simp) ?_
      rintro (_ | _ | ⟨hcontent, -, -⟩)
      rw [Json.named_eq_ok.2 hcontent] at he
      cases he
    · next blocks hblocks =>
      rw [blocksText_eq_ok]
      constructor
      · rintro ⟨texts, htexts, hne, heq⟩
        rw [Json.string.inj heq]
        exact .anthropic (Json.named_eq_ok.1 hblocks) htexts hne
      · rintro (_ | _ | ⟨hcontent, htexts, hne⟩)
        rw [Json.named_eq_ok.1 hblocks] at hcontent
        cases hcontent
        exact ⟨_, htexts, hne, rfl⟩
    · next value harray hvalue =>
      refine iff_of_false (by simp) ?_
      rintro (_ | _ | ⟨hcontent, -, -⟩)
      rw [Json.named_eq_ok.2 hcontent] at hvalue
      cases hvalue
      exact harray _ rfl

theorem HasText.exists_object (h : HasText p j t) : ∃ members, j = .object members := by
  cases h with
  | openai hchoices => exact Json.exists_object_of_get? hchoices
  | ollama hmessage => exact Json.exists_object_of_get? hmessage
  | anthropic hcontent => exact Json.exists_object_of_get? hcontent

/-- The text that is read of a body is that of its JSON value. -/
theorem answerText_eq_ok : p.answerText body = .ok t ↔
    ∃ j, Json.readBytes body = .ok j ∧ HasText p j t := by
  unfold answerText
  split
  · next e hread => simp [hread]
  · next members hread =>
    simp only [hread, Except.ok.injEq, exists_eq_left', ← textPlace_eq_ok]
    split
    · next f hplace => simp [hplace]
    · next u hplace => simp [hplace]
    · next value htext hplace =>
      refine iff_of_false (by simp) fun h => ?_
      rw [hplace] at h
      cases h
      exact htext _ rfl
  · next value hobject hread =>
    refine iff_of_false (by simp) ?_
    rintro ⟨j, hj, htext⟩
    obtain ⟨members, rfl⟩ := htext.exists_object
    rw [hread] at hj
    cases hj
    exact hobject _ rfl

theorem textPlace_ne_json (e : JsonBytesError) : p.textPlace j ≠ .error (.json e) := by
  intro h
  cases p with
  | openai =>
    obtain ⟨_, -, hfault⟩ := Step.mapError_eq_error.1 h
    cases hfault
  | ollama =>
    obtain ⟨_, -, hfault⟩ := Step.mapError_eq_error.1 h
    cases hfault
  | anthropic =>
    rw [textPlace] at h
    split at h
    · cases h
    · simp only [blocksText] at h
      split at h
      · cases h
      · split at h <;> cases h
    · cases h

/-- Faults of the JSON text are those of reading it. -/
theorem answerText_eq_json {e : JsonBytesError} :
    p.answerText body = .error (.json e) ↔ Json.readBytes body = .error e := by
  unfold answerText
  split
  · next e' hread => simp [hread]
  · next members hread =>
    refine iff_of_false ?_ (by simp [hread])
    split
    · next f hplace =>
      intro h
      rw [Except.error.inj h] at hplace
      exact textPlace_ne_json e hplace
    · simp
    · simp
  · next value hobject hread => simp [hread]

end Provider

namespace Reply

variable {reply taken : Reply} {j : Json} {x y : Except JsonBytesError Json}

/-- Whether a reply that is no refusal has a body that is read so. -/
def IsReadAs (reply : Reply) (x : Except JsonBytesError Json) : Prop :=
  ∃ status body, reply = .answered status body ∧ status < 400 ∧ Json.readBytes body = x

/-- Whether a reply is a refusal or no answer at all. -/
def Fails (reply : Reply) : Prop := ∀ status body, reply = .answered status body → 400 ≤ status

theorem IsReadAs.unique (h : reply.IsReadAs x) (h' : reply.IsReadAs y) : x = y := by
  obtain ⟨status, body, rfl, -, rfl⟩ := h
  obtain ⟨_, _, heq, -, rfl⟩ := h'
  cases heq
  rfl

theorem Fails.not_isReadAs (h : reply.Fails) : ¬reply.IsReadAs x := by
  rintro ⟨status, body, hreply, hlt, -⟩
  exact absurd hlt (Nat.not_lt.2 (h status body hreply))

theorem HasJson.isReadAs (h : reply.HasJson j) : reply.IsReadAs (.ok j) := by
  obtain ⟨status, body, rfl, -, hhigh, hread⟩ := h
  exact ⟨status, body, rfl, by omega, hread⟩

theorem takenFrom_eq_ok {a : Address} : reply.takenFrom a = .ok taken ↔
    reply = taken ∧ ∀ status body, reply = .answered status body → a.isAbsolute = true := by
  cases reply with
  | timedOut message => simp [takenFrom]
  | failed message => simp [takenFrom]
  | answered status body =>
    rw [takenFrom]
    split
    · next habsolute => simp [habsolute]
    · next habsolute =>
      exact iff_of_false (by simp) fun h => habsolute (h.2 status body rfl)

end Reply

/-! ## Requests that can be sent -/

theorem Text.isScalar_of_isPlain {t : Text} (h : t.IsPlain) : IsScalar t :=
  fun c hc => CodePoint.isSurrogate_of_isPlain (h c hc)

namespace Json

variable {t : Text} {depth : Nat}

theorem isScalar_writeCodePoint (c : CodePoint) :
    IsScalar (writeCodePoint .compact c) ↔ c.isSurrogate = false := by
  have hascii (h : c.val < 128) : c.isSurrogate = false := by
    simp only [CodePoint.isSurrogate, Bool.and_eq_false_iff, decide_eq_false_iff_not]
    omega
  unfold writeCodePoint
  split_ifs with hquote hfeed hreturn htab hback hform hcontrol hescape
  · rcases hquote with rfl | rfl <;> decide
  · subst hfeed
    decide
  · subst hreturn
    decide
  · subst htab
    decide
  · exact iff_of_true (by decide) (hascii (by omega))
  · exact iff_of_true (by decide) (hascii (by omega))
  · have hstart : Text.IsPlain "\\u" := by decide
    have hescape := hstart.append (Text.isPlain_hex_four (by omega : c.val < 0x10000))
    exact iff_of_true (Text.isScalar_of_isPlain hescape) (hascii (by omega))
  · cases hescape
  · exact List.forall_mem_singleton

theorem isScalar_writeString : IsScalar (writeString .compact t) ↔ IsScalar t := by
  have hquote : IsScalar "\"" := by decide
  have hbody : IsScalar (t.flatMap (writeCodePoint .compact)) ↔ IsScalar t := by
    rw [IsScalar, List.forall_mem_flatMap]
    exact forall₂_congr fun c _ => isScalar_writeCodePoint c
  rw [writeString, Text.isScalar_append, Text.isScalar_append, hbody]
  simp [hquote]

theorem isScalar_writeAt_string :
    IsScalar (writeAt .compact depth (.string t)) ↔ IsScalar t := by
  rw [writeAt, isScalar_writeString]

theorem isScalar_writeAt_int (n : Int) : IsScalar (writeAt .compact depth (.int n)) := by
  rw [writeAt]
  exact Text.isScalar_of_isPlain (Text.isPlain_ofInt n)

theorem isScalar_writeAt_bool (b : Bool) : IsScalar (writeAt .compact depth (.bool b)) := by
  rw [writeAt]
  cases b <;> decide

theorem isScalar_itemSeparator : IsScalar (itemSeparator .compact depth) :=
  Text.isScalar_ofString ","

theorem isScalar_writeAt_array (items : List Json) :
    IsScalar (writeAt .compact depth (.array items)) ↔
      ∀ j ∈ items, IsScalar (writeAt .compact (depth + 1) j) := by
  have hline (n : Nat) : newLine .compact n = [] := rfl
  cases items with
  | nil =>
    rw [writeAt]
    exact iff_of_true (by decide) (List.forall_mem_nil _)
  | cons j items =>
    have hopen : IsScalar "[" := by decide
    have hclose : IsScalar "]" := by decide
    rw [writeAt, writeItems_eq_join, hline, hline, List.append_nil, List.append_nil,
      Text.isScalar_append, Text.isScalar_append, Text.isScalar_join isScalar_itemSeparator,
      List.forall_mem_map, and_iff_right hopen, and_iff_left hclose]

theorem isScalar_writeAt_object (members : List (Text × Json)) :
    IsScalar (writeAt .compact depth (.object members)) ↔
      ∀ m ∈ members, IsScalar m.1 ∧ IsScalar (writeAt .compact (depth + 1) m.2) := by
  have hline (n : Nat) : newLine .compact n = [] := rfl
  cases members with
  | nil =>
    rw [writeAt]
    exact iff_of_true (by decide) (List.forall_mem_nil _)
  | cons m members =>
    have hopen : IsScalar "\x7b" := by decide
    have hclose : IsScalar "\x7d" := by decide
    have hcolon : IsScalar (nameSeparator .compact) := by decide
    have hordered (written : List (Text × Text)) :
        (if JsonStyle.compact.sortMembers = true then
          Sorting.sort (fun a b => Text.le a.1 b.1) written else written) = written := rfl
    rw [writeAt]
    simp only [hordered, writeMembers_map_snd, hline, List.append_nil, Text.isScalar_append,
      Text.isScalar_join isScalar_itemSeparator, List.forall_mem_map, isScalar_writeString,
      and_iff_right hopen, and_iff_left hclose, and_iff_left hcolon]

end Json

theorem RequestFault.notAscii?_eq_none {t : Text} :
    notAscii? t = none ↔ ∀ c ∈ t, c.isAscii = true := by
  rw [← List.dropWhile_eq_nil_iff, notAscii?]
  split
  · next hnil => simp [hnil]
  · next hcons => simp [hcons]

namespace Service

variable {v : Service} {instruction content new : Text} {q : TransformRequest}
  {reply : Reply} {r : Transformed}

/-- Whether a request can be sent to an address: it is the one of the service, and all that is sent
there can be written. -/
structure Sends (v : Service) (instruction content : Text) (a : Address) : Prop where
  address : Address.ofRequest v.address none = .ok a
  headers : ∀ h ∈ v.headers, ∀ c ∈ h.2, c.isAscii = true
  model : IsScalar v.model
  instruction : IsScalar instruction
  content : IsScalar content

theorem isScalar_body : IsScalar ((v.body instruction content).write .compact) ↔
    IsScalar v.model ∧ IsScalar instruction ∧ IsScalar content := by
  rw [body, Json.write]
  cases v.provider <;>
    simp [Json.isScalar_writeAt_object, Json.isScalar_writeAt_array, Json.isScalar_writeAt_string,
      Json.isScalar_writeAt_int, Json.isScalar_writeAt_bool, Text.isScalar_ofString, messages,
      message]

theorem headerFault?_eq_none {headers : List (Text × Text)} :
    headerFault? headers = none ↔ ∀ h ∈ headers, ∀ c ∈ h.2, c.isAscii = true := by
  simp only [headerFault?, List.findSome?_eq_none_iff, Option.map_eq_none_iff,
    RequestFault.notAscii?_eq_none]

/-- A request is made exactly if it can be sent. -/
theorem request_eq_ok : v.request instruction content = .ok q ↔
    ∃ a, v.Sends instruction content a ∧
      q = ⟨a, v.headersFor a, v.body instruction content⟩ := by
  rw [request, Step.bind_eq_ok]
  refine exists_congr fun a => ?_
  constructor
  · rintro ⟨haddress, h⟩
    split at h
    · cases h
    · next hheaders =>
      rw [Step.bind_eq_ok] at h
      obtain ⟨b, hb, hq⟩ := h
      have hscalar := isScalar_body.1 (Utf8.exists_encode_eq_ok.1 ⟨b, Step.mapError_eq_ok.1 hb⟩)
      exact ⟨⟨haddress, headerFault?_eq_none.1 hheaders, hscalar.1, hscalar.2.1, hscalar.2.2⟩,
        (Except.ok.inj hq).symm⟩
  · rintro ⟨h, rfl⟩
    obtain ⟨b, hb⟩ := Utf8.exists_encode_eq_ok.2
      (isScalar_body.2 ⟨h.model, h.instruction, h.content⟩)
    refine ⟨h.address, ?_⟩
    rw [headerFault?_eq_none.2 h.headers]
    exact Step.bind_eq_ok.2 ⟨b, Step.mapError_eq_ok.2 hb, rfl⟩

/-! ## What is accepted -/

/-- Whether a call that gets a reply gives what it is to give: a success exactly if the reply says that
all went well and has a text for the provider, which comes without the fence around it. -/
def Answers (v : Service) (reply : Reply) (instruction content : Text) : Prop :=
  ∃ r, v.call (fun _ => reply) instruction content = .ok r ∧
    ∀ new, r = .success new ↔
      ∃ j t, reply.HasJson j ∧ v.provider.HasText j t ∧ new = Fence.strip t

theorem readBody_eq_success {body : Bytes} : v.readBody body = .ok (.success new) ↔
    ∃ t, v.provider.answerText body = .ok t ∧ new = Fence.strip t := by
  unfold readBody
  split
  · next t ht => simp [ht, eq_comm]
  · next holder h => simp [h]
  · next f _ h => simp [h]

theorem readBody_eq_error {body : Bytes} : (∃ f, v.readBody body = .error f) ↔
    ∃ holder, Json.readBytes body = .error (.json (.tooDeep holder)) := by
  simp only [← Provider.answerText_eq_json (p := v.provider)]
  unfold readBody
  split
  · next t ht => simp [ht]
  · next holder h => simp [h]
  · next f hdeep h =>
    refine iff_of_false (by simp) ?_
    rintro ⟨holder, hholder⟩
    rw [h] at hholder
    exact hdeep holder (Except.error.inj hholder)

theorem read_answered {status : Nat} {body : Bytes} (h : status < 400) :
    v.read (.answered status body) = v.readBody body := by
  rw [read, if_neg (by omega), if_neg (by omega)]

theorem exists_failure_of_fails (h : reply.Fails) :
    ∃ message, v.read reply = .ok (.failure message) := by
  cases reply with
  | timedOut message => exact ⟨_, rfl⟩
  | failed message => exact ⟨_, rfl⟩
  | answered status body =>
    rw [read, if_pos (h status body rfl)]
    split
    · exact ⟨_, rfl⟩
    · exact ⟨_, rfl⟩

/-- A reply fails, or its body is read. -/
theorem fails_or_isReadAs (v : Service) (reply : Reply) : reply.Fails ∨
    ∃ body, v.read reply = v.readBody body ∧ ∀ x, reply.IsReadAs x ↔ Json.readBytes body = x := by
  by_cases h : ∃ status body, reply = .answered status body ∧ status < 400
  · obtain ⟨status, body, rfl, hstatus⟩ := h
    refine .inr ⟨body, read_answered hstatus, fun x => ⟨?_, fun hx => ⟨_, _, rfl, hstatus, hx⟩⟩⟩
    rintro ⟨_, _, heq, -, hx⟩
    cases heq
    exact hx
  · exact .inl fun status body hreply => Nat.le_of_not_lt fun hlt => h ⟨status, body, hreply, hlt⟩

theorem read_eq_success : v.read reply = .ok (.success new) ↔
    ∃ j t, reply.IsReadAs (.ok j) ∧ v.provider.HasText j t ∧ new = Fence.strip t := by
  rcases v.fails_or_isReadAs reply with hfails | ⟨body, hread, hbody⟩
  · obtain ⟨message, hmessage⟩ := exists_failure_of_fails (v := v) hfails
    rw [hmessage]
    refine iff_of_false (by simp) ?_
    rintro ⟨j, t, hj, -⟩
    exact hfails.not_isReadAs hj
  · simp only [hread, readBody_eq_success, Provider.answerText_eq_ok, hbody]
    constructor
    · rintro ⟨t, ⟨j, hj, ht⟩, hnew⟩
      exact ⟨j, t, hj, ht, hnew⟩
    · rintro ⟨j, t, hj, ht, hnew⟩
      exact ⟨t, ⟨j, hj, ht⟩, hnew⟩

theorem read_eq_error : (∃ f, v.read reply = .error f) ↔
    ∃ holder, reply.IsReadAs (.error (.json (.tooDeep holder))) := by
  rcases v.fails_or_isReadAs reply with hfails | ⟨body, hread, hbody⟩
  · obtain ⟨message, hmessage⟩ := exists_failure_of_fails (v := v) hfails
    refine iff_of_false (by simp [hmessage]) ?_
    rintro ⟨holder, hholder⟩
    exact hfails.not_isReadAs hholder
  · simp only [hread, readBody_eq_error, hbody]

theorem call_eq_ok : v.call (fun _ => reply) instruction content = .ok r ↔
    ∃ a, v.Sends instruction content a ∧
      (∀ status body, reply = .answered status body → a.isAbsolute = true) ∧
        v.read reply = .ok r := by
  simp only [call, Step.bind_eq_ok, request_eq_ok, Reply.takenFrom_eq_ok]
  constructor
  · rintro ⟨_, ⟨a, hsends, rfl⟩, _, ⟨rfl, habsolute⟩, hread⟩
    exact ⟨a, hsends, habsolute, hread⟩
  · rintro ⟨a, hsends, habsolute, hread⟩
    exact ⟨_, ⟨a, hsends, rfl⟩, reply, ⟨rfl, habsolute⟩, hread⟩

/-- A success comes from a text in a reply that is no refusal.  A call gives what it is to give exactly
if it can be sent, its reply does not come from nowhere, its body does not nest too deep and, should
it have a text, says that all went well. -/
theorem answers_iff (v : Service) (reply : Reply) (instruction content : Text) :
    (∀ new, v.call (fun _ => reply) instruction content = .ok (.success new) →
      ∃ j t, reply.IsReadAs (.ok j) ∧ v.provider.HasText j t ∧ new = Fence.strip t) ∧
    (v.Answers reply instruction content ↔ ∃ a, v.Sends instruction content a ∧
      (∀ status body, reply = .answered status body → a.isAbsolute = true) ∧
      (∀ holder, ¬reply.IsReadAs (.error (.json (.tooDeep holder)))) ∧
      ∀ j t, reply.IsReadAs (.ok j) → v.provider.HasText j t → reply.HasJson j) := by
  constructor
  · intro new h
    obtain ⟨a, -, -, hread⟩ := call_eq_ok.1 h
    exact read_eq_success.1 hread
  · constructor
    · rintro ⟨r, hcall, hr⟩
      obtain ⟨a, hsends, habsolute, hread⟩ := call_eq_ok.1 hcall
      refine ⟨a, hsends, habsolute, fun holder hdeep => ?_, fun j t hj ht => ?_⟩
      · obtain ⟨f, hf⟩ := read_eq_error.2 ⟨holder, hdeep⟩
        rw [hread] at hf
        cases hf
      · have hsuccess := read_eq_success.2 ⟨j, t, hj, ht, rfl⟩
        obtain ⟨j', t', hj', -⟩ := (hr _).1 (Except.ok.inj (hread.symm.trans hsuccess))
        obtain rfl := Except.ok.inj (hj.unique hj'.isReadAs)
        exact hj'
    · rintro ⟨a, hsends, habsolute, hdeep, hsays⟩
      cases hread : v.read reply with
      | error f =>
        obtain ⟨holder, hholder⟩ := read_eq_error.1 ⟨f, hread⟩
        exact absurd hholder (hdeep holder)
      | ok r =>
        refine ⟨r, call_eq_ok.2 ⟨a, hsends, habsolute, hread⟩, fun new => ?_⟩
        have hsuccess : r = .success new ↔ v.read reply = .ok (.success new) := by
          rw [hread, Except.ok.injEq]
        rw [hsuccess, read_eq_success]
        constructor
        · rintro ⟨j, t, hj, ht, rfl⟩
          exact ⟨j, t, hsays j t hj ht, ht, rfl⟩
        · rintro ⟨j, t, hj, ht, rfl⟩
          exact ⟨j, t, hj.isReadAs, ht, rfl⟩

/-- A redirection with a text where the first provider puts it. -/
def redirection : Reply := .answered 302 (Utf8.encodeAll
  "\x7b\"choices\": [\x7b\"message\": \x7b\"content\": \"x\"\x7d\x7d]\x7d")

/-- Not all calls give what they are to give: a redirection passes for a success. -/
theorem not_forall_answers : ¬∀ (a : AssistantSettings) (v : Service) (reply : Reply)
    (instruction content : Text), ofSettings? a = some v →
      v.Answers reply instruction content := by
  intro h
  obtain ⟨v, hv⟩ : ∃ v, ofSettings? { apiKey := some ("k" : Text) } = some v := ⟨_, rfl⟩
  have hcalled : ((ofSettings? { apiKey := some ("k" : Text) }).bind fun v =>
      (v.call (fun _ => redirection) "i" "c").toOption) = some (.success "x") := by
    decide +kernel
  rw [hv, Option.bind_some, Step.toOption_eq_some] at hcalled
  obtain ⟨r, hr, hanswers⟩ := h _ v redirection "i" "c" hv
  obtain ⟨j, t, ⟨status, body, hreply, -, hhigh, -⟩, -⟩ :=
    (hanswers "x").1 (Except.ok.inj (hr.symm.trans hcalled))
  cases hreply
  omega

end Service

end Decouple
