import Decouple.Proofs.Fetching
import Decouple.Proofs.Utf8

/-!
# How often a file is tried

A file is tried until an attempt yields its content, or no attempt is left; each attempt but the
last is followed by a wait that grows with its number.  An attempt asks for the content first, and
for the blob if there is one and the reply says so.  `Turn.Takes` says this of a turn, with every
request and every wait, and `Attempt.IsExact` of each attempt that is made.

It holds of a turn exactly when no attempt breaks it off (`exists_takes_iff`).  A hash that makes no
address does so, though the turn has attempts left.
-/

namespace Decouple

/-! ## What replies say -/

/-- Whether a JSON value writes a content in base 64. -/
def Json.WritesInline (j : Json) (t : Text) : Prop :=
  j.get? "encoding" = some (.string "base64") ∧ j.get? "content" = some (.string t)

/-- Whether a content is what bytes are: a text if they are UTF-8, and else the bytes. -/
def Content.IsOf (b : Bytes) : Content → Prop
  | .text t => Utf8.encode t = .ok b
  | .bytes b' => b' = b ∧ ∀ t, Utf8.encode t ≠ .ok b

namespace Reply

/-- Whether a reply says that all went well, with a JSON value. -/
def HasJson (reply : Reply) (j : Json) : Prop :=
  ∃ status body, reply = .answered status body ∧ 200 ≤ status ∧ status < 300 ∧
    Json.readBytes body = .ok j

/-- Whether a reply writes some bytes. -/
def Carries (reply : Reply) (b : Bytes) : Prop :=
  ∃ j t, reply.HasJson j ∧ j.WritesInline t ∧ Base64.read? t = some b

/-- Whether the reply for a content says to ask for the blob: it refuses the content, or has a value
without one. -/
def LeadsToBlob (reply : Reply) : Prop :=
  (∃ body, reply = .answered 403 body) ∨ ∃ j, reply.HasJson j ∧ ∀ t, ¬j.WritesInline t

end Reply

theorem Content.isOf_iff {b : Bytes} {c : Content} : c.IsOf b ↔ ofBytes b = c := by
  have hsome : ∀ t, Utf8.decode? b = some t ↔ Utf8.encode t = .ok b := fun t =>
    Step.toOption_eq_some.trans Utf8.decode_eq_ok_iff_encode
  unfold ofBytes
  cases hdecode : Utf8.decode? b with
  | some u =>
    have hu := (hsome u).1 hdecode
    cases c with
    | text t =>
      rw [IsOf, ← hsome t, hdecode]
      simp
    | bytes b' =>
      refine iff_of_false (fun h => h.2 u hu) (by simp)
  | none =>
    have hnone : ∀ t, Utf8.encode t ≠ .ok b := by
      intro t ht
      rw [(hsome t).2 ht] at hdecode
      cases hdecode
    cases c with
    | text t => exact iff_of_false (hnone t) (by simp)
    | bytes b' =>
      rw [IsOf, and_iff_left hnone]
      simp [eq_comm]

namespace Hosting

section Replies

variable {reply : Reply} {j : Json} {t : Text} {c : Content}

theorem inline?_eq_some : inline? j = some t ↔ j.WritesInline t := by
  unfold inline? Json.WritesInline
  split
  · next encoding content hencoding hcontent =>
    rw [hencoding, hcontent]
    simp
  · next hno =>
    refine iff_of_false (by simp) ?_
    rintro ⟨hencoding, hcontent⟩
    exact hno _ _ hencoding hcontent

theorem decoded?_eq_some : decoded? t = some c ↔ ∃ b, Base64.read? t = some b ∧ c.IsOf b := by
  simp only [decoded?, Option.map_eq_some_iff, Content.isOf_iff]

theorem hasJson_answered {status : Nat} {body : Bytes} :
    (Reply.answered status body).HasJson j ↔
      Reply.isSuccess status = true ∧ Json.readBytes body = .ok j := by
  simp only [Reply.HasJson, Reply.answered.injEq, Reply.isSuccess, Bool.and_eq_true,
    decide_eq_true_eq]
  constructor
  · rintro ⟨_, _, ⟨rfl, rfl⟩, hlow, hhigh, hread⟩
    exact ⟨⟨hlow, hhigh⟩, hread⟩
  · rintro ⟨⟨hlow, hhigh⟩, hread⟩
    exact ⟨_, _, ⟨rfl, rfl⟩, hlow, hhigh, hread⟩

theorem hasJson_iff : reply.HasJson j ↔ reply.json? = .ok (some j) := by
  cases reply with
  | timedOut m => simp [Reply.HasJson, Reply.json?]
  | failed m => simp [Reply.HasJson, Reply.json?]
  | answered status body =>
    rw [hasJson_answered, Reply.json?]
    split
    · next hsuccess =>
      rw [and_iff_right hsuccess]
      cases hread : Json.readBytes body with
      | ok j' => simp
      | error e =>
        refine iff_of_false (by simp) ?_
        split <;> simp_all
    · next hsuccess => exact iff_of_false (fun h => hsuccess h.1) (by simp)

theorem carries_iff : (∃ b, reply.Carries b ∧ c.IsOf b) ↔
    ∃ j t, reply.json? = .ok (some j) ∧ inline? j = some t ∧ decoded? t = some c := by
  simp only [Reply.Carries, hasJson_iff, inline?_eq_some, decoded?_eq_some]
  constructor
  · rintro ⟨b, ⟨j, t, hjson, hinline, hread⟩, hc⟩
    exact ⟨j, t, hjson, hinline, b, hread, hc⟩
  · rintro ⟨j, t, hjson, hinline, b, hread, hc⟩
    exact ⟨b, ⟨j, t, hjson, hinline, hread⟩, hc⟩

/-- A reply that does not refuse the content is read for its JSON value. -/
theorem readContent_eq (h : ∀ body, reply ≠ .answered 403 body) : readContent reply =
    match reply.json? with
    | .error f => .stop f
    | .ok none => .fail
    | .ok (some j) =>
      match inline? j with
      | none => .blob
      | some t =>
        match decoded? t with
        | some c => .found c
        | none => .fail := by
  unfold readContent
  split
  · next body => exact absurd rfl (h body)
  · rfl

theorem inline?_eq_none : inline? j = none ↔ ∀ t, ¬j.WritesInline t := by
  simp only [← inline?_eq_some, Option.eq_none_iff_forall_ne_some, ne_eq]

theorem readContent_eq_blob : readContent reply = .blob ↔ reply.LeadsToBlob := by
  by_cases hrefused : ∃ body, reply = .answered 403 body
  · obtain ⟨body, rfl⟩ := hrefused
    exact iff_of_true rfl (.inl ⟨body, rfl⟩)
  · rw [Reply.LeadsToBlob, or_iff_right hrefused, readContent_eq (not_exists.1 hrefused)]
    simp only [hasJson_iff, ← inline?_eq_none]
    split
    · next hjson => simp [hjson]
    · next hjson => simp [hjson]
    · next j hjson =>
      cases hinline : inline? j with
      | none => simp [hjson, hinline]
      | some t => cases hdecoded : decoded? t <;> simp [hjson, hinline, hdecoded]

theorem readContent_eq_found : readContent reply = .found c ↔ ∃ b, reply.Carries b ∧ c.IsOf b := by
  rw [carries_iff]
  by_cases hrefused : ∃ body, reply = .answered 403 body
  · obtain ⟨body, rfl⟩ := hrefused
    have hjson : (Reply.answered 403 body).json? = .ok none := rfl
    simp [readContent, hjson]
  · rw [readContent_eq (not_exists.1 hrefused)]
    split
    · next hjson => simp [hjson]
    · next hjson => simp [hjson]
    · next j hjson =>
      cases hinline : inline? j with
      | none => simp [hjson, hinline]
      | some t => cases hdecoded : decoded? t <;> simp [hjson, hinline, hdecoded]

theorem readBlob_eq_some : readBlob reply = .ok (some c) ↔ ∃ b, reply.Carries b ∧ c.IsOf b := by
  rw [carries_iff, readBlob, Step.map_eq_ok]
  constructor
  · rintro ⟨j?, hjson, hc⟩
    obtain ⟨t, hinline, hdecoded⟩ := Option.bind_eq_some_iff.1 hc
    obtain ⟨j, rfl, hinline⟩ := Option.bind_eq_some_iff.1 hinline
    exact ⟨j, t, hjson, hinline, hdecoded⟩
  · rintro ⟨j, t, hjson, hinline, hdecoded⟩
    exact ⟨some j, hjson, by rw [Option.bind_some, hinline, Option.bind_some, hdecoded]⟩

end Replies

/-! ## One attempt -/

section Attempts

/-- Whether the reply to the request for a file's content says to ask for its blob. -/
def AsksForBlob (host : Host) (earlier : List Text) (f : ListedFile) (content : Address) : Prop :=
  f.sha.isTruthy = true ∧ ∃ reply, ask host earlier content = .ok reply ∧ reply.LeadsToBlob

/-- Whether the replies that an attempt gets carry some bytes: the one for the content, or the one
for the blob if this is asked for. -/
def Brings (host : Host) (s : Settings) (r : Repository) (earlier : List Text) (f : ListedFile)
    (content : Address) (b : Bytes) : Prop :=
  (∃ reply, ask host earlier content = .ok reply ∧ reply.Carries b) ∨
    AsksForBlob host earlier f content ∧ ∃ blob reply, blobAddress s r f.sha = .ok blob ∧
      ask host (earlier ++ [content.toText]) blob = .ok reply ∧ reply.Carries b

/-- Whether an attempt asks for what it is to ask for and comes to what the replies carry.  What has
no address cannot be asked for, and nothing comes of it. -/
structure Attempt.IsExact (host : Host) (s : Settings) (r : Repository) (earlier : List Text)
    (f : ListedFile) (a : Attempt) : Prop where
  nothing : ∀ fault, contentAddress s r f.path = .error fault → a.requests = []
  /-- The content is asked for first, and the blob once, if the reply says so and there is one. -/
  both : ∀ content blob, contentAddress s r f.path = .ok content →
    AsksForBlob host earlier f content → blobAddress s r f.sha = .ok blob →
      a.requests = [content.toText, blob.toText]
  content : ∀ content, contentAddress s r f.path = .ok content →
    ¬(AsksForBlob host earlier f content ∧ ∃ blob, blobAddress s r f.sha = .ok blob) →
      a.requests = [content.toText]
  /-- It ends no other attempts. -/
  ends : ∀ fault, a.outcome ≠ .error fault
  /-- What comes of it is a text if its bytes are UTF-8. -/
  yields : ∀ c, a.outcome = .ok (some c) ↔ ∃ content b, contentAddress s r f.path = .ok content ∧
    Brings host s r earlier f content b ∧ c.IsOf b

variable {host : Host} {s : Settings} {r : Repository} {earlier : List Text} {f : ListedFile}
  {content blob : Address} {reply : Reply} {c : Content}

theorem Attempt.faulty_ne {requests : List Text} {fault : RequestFault} :
    (faulty requests fault).outcome ≠ .ok (some c) := by
  unfold faulty
  split <;> simp [failed]

theorem Attempt.requests_faulty {requests : List Text} {fault : RequestFault} :
    (faulty requests fault).requests = requests := by
  unfold faulty
  split <;> rfl

theorem brings_of_ask (hask : ask host earlier content = .ok reply)
    (hblob : ¬(AsksForBlob host earlier f content ∧ ∃ blob, blobAddress s r f.sha = .ok blob)) :
    (∃ b, Brings host s r earlier f content b ∧ c.IsOf b) ↔ readContent reply = .found c := by
  have hbrings : ∀ b, Brings host s r earlier f content b ↔ reply.Carries b := by
    intro b
    simp only [Brings, hask, Except.ok.injEq, exists_eq_left']
    exact or_iff_left fun ⟨hasks, blob, _, haddress, _⟩ => hblob ⟨hasks, blob, haddress⟩
  simp only [hbrings, readContent_eq_found]

theorem brings_of_asksForBlob (hblob : AsksForBlob host earlier f content)
    (haddress : blobAddress s r f.sha = .ok blob) :
    (∃ b, Brings host s r earlier f content b ∧ c.IsOf b) ↔
      ∃ reply, ask host (earlier ++ [content.toText]) blob = .ok reply ∧
        readBlob reply = .ok (some c) := by
  obtain ⟨-, first, hask, hleads⟩ := id hblob
  have hnone : ∀ b, ¬first.Carries b := by
    intro b hb
    have hfound : readContent first = .found (Content.ofBytes b) :=
      readContent_eq_found.2 ⟨b, hb, Content.isOf_iff.2 rfl⟩
    rw [readContent_eq_blob.2 hleads] at hfound
    cases hfound
  simp only [Brings, hask, haddress, Except.ok.injEq, hblob, true_and, readBlob_eq_some]
  constructor
  · rintro ⟨b, ⟨reply, rfl, hb⟩ | ⟨_, reply, rfl, hreply, hb⟩, hc⟩
    · exact absurd hb (hnone b)
    · exact ⟨reply, hreply, b, hb, hc⟩
  · rintro ⟨reply, hreply, b, hb, hc⟩
    exact ⟨b, .inr ⟨blob, reply, rfl, hreply, hb⟩, hc⟩

/-- An attempt that does not ask for the blob. -/
theorem attempt_of_content (haddress : contentAddress s r f.path = .ok content)
    (hblob : ¬(AsksForBlob host earlier f content ∧ ∃ blob, blobAddress s r f.sha = .ok blob)) :
    (attempt host s r earlier f).requests = [content.toText] ∧
      ∀ c, (attempt host s r earlier f).outcome = .ok (some c) ↔
        ∃ b, Brings host s r earlier f content b ∧ c.IsOf b := by
  cases hask : ask host earlier content with
  | error fault =>
    have hnone : ∀ b, ¬Brings host s r earlier f content b := by
      simp [Brings, AsksForBlob, hask]
    simp only [attempt, haddress, hask]
    exact ⟨Attempt.requests_faulty, fun c => iff_of_false Attempt.faulty_ne (by simp [hnone])⟩
  | ok reply =>
    simp only [attempt, haddress, hask, brings_of_ask hask hblob]
    cases hread : readContent reply with
    | found c => simp
    | fail => simp [Attempt.failed]
    | stop fault => simp
    | blob =>
      cases hsha : f.sha.isTruthy with
      | false => simp [attemptBlob, hsha, Attempt.failed]
      | true =>
        cases hblobAddress : blobAddress s r f.sha with
        | ok blob =>
          exact absurd ⟨⟨hsha, reply, hask, readContent_eq_blob.1 hread⟩, blob, hblobAddress⟩ hblob
        | error fault =>
          simp [attemptBlob, hsha, hblobAddress, Attempt.requests_faulty, Attempt.faulty_ne]

/-- An attempt that asks for the blob. -/
theorem attempt_of_blob (haddress : contentAddress s r f.path = .ok content)
    (hblob : AsksForBlob host earlier f content) (hblobAddress : blobAddress s r f.sha = .ok blob) :
    (attempt host s r earlier f).requests = [content.toText, blob.toText] ∧
      ∀ c, (attempt host s r earlier f).outcome = .ok (some c) ↔
        ∃ b, Brings host s r earlier f content b ∧ c.IsOf b := by
  obtain ⟨hsha, first, hask, hleads⟩ := id hblob
  have hattempt : attempt host s r earlier f = attemptBlob host s r earlier [content.toText] f := by
    simp only [attempt, haddress, hask, readContent_eq_blob.2 hleads]
  simp only [hattempt, brings_of_asksForBlob hblob hblobAddress, attemptBlob, hsha, hblobAddress,
    Bool.not_true, Bool.false_eq_true, if_false]
  cases ask host (earlier ++ [content.toText]) blob with
  | error fault => exact ⟨Attempt.requests_faulty, fun c => by simp [Attempt.faulty_ne]⟩
  | ok reply => simp

/-- An attempt that does not end the others is exact. -/
theorem attempt_isExact
    (hends : ∀ fault, (attempt host s r earlier f).outcome ≠ .error fault) :
    (attempt host s r earlier f).IsExact host s r earlier f := by
  refine
    { nothing := fun fault haddress => ?_
      both := fun content blob haddress hasks hblob => (attempt_of_blob haddress hasks hblob).1
      content := fun content haddress hblob => (attempt_of_content haddress hblob).1
      ends := hends
      yields := fun c => ?_ }
  · simp only [attempt, haddress, Attempt.requests_faulty]
  · cases haddress : contentAddress s r f.path with
    | error fault =>
      simp only [attempt, haddress]
      exact iff_of_false Attempt.faulty_ne (by simp)
    | ok content =>
      simp only [Except.ok.injEq, exists_and_left, exists_eq_left']
      by_cases hblob : AsksForBlob host earlier f content ∧
          ∃ blob, blobAddress s r f.sha = .ok blob
      · obtain ⟨hasks, blob, hblob⟩ := hblob
        exact (attempt_of_blob haddress hasks hblob).2 c
      · exact (attempt_of_content haddress hblob).2 c

end Attempts

/-! ## All attempts -/

namespace Turn

section

variable (host : Host) (s : Settings) (r : Repository)

/-- Whether the attempt with `n` others in front of it is made: all of them have failed. -/
def Makes (t : Turn) (n : Nat) : Prop := n < maxAttempts s ∧ t.FailsFor host s r n

/-- Whether a turn takes `k` attempts, and each of them is exact. -/
structure Takes (t : Turn) (k : Nat) : Prop where
  pos : 1 ≤ k
  le : k ≤ max 1 s.retrieval.maxAttempts.toNat
  /-- The attempts before the last fail. -/
  failed : ∀ n, n + 1 < k → (t.nth host s r n).outcome = .ok none
  /-- The last yields a content, or there is none after it. -/
  last : (∃ c, (t.nth host s r (k - 1)).outcome = .ok (some c)) ∨
    (t.nth host s r (k - 1)).outcome = .ok none ∧ k = max 1 s.retrieval.maxAttempts.toNat
  exact : ∀ n < k, (t.nth host s r n).IsExact host s r
    (sentBefore host s r t.file n t.earlier) t.file
  outcome : (t.fetch host s r).outcome = (t.nth host s r (k - 1)).outcome
  none_iff : (t.fetch host s r).outcome = .ok none ↔
    ∀ n < k, (t.nth host s r n).outcome = .ok none
  requests : t.requests host s r = (List.range k).flatMap fun n => (t.nth host s r n).requests
  /-- Each attempt before the last is followed by a wait. -/
  sleeps : t.sleeps host s r = (List.range' 1 (k - 1)).map fun j => s.retrieval.baseDelay.times j

end

variable {host : Host} {s : Settings} {r : Repository} {t : Turn} {m n k : Nat}

/-- Attempts are made up to the first that does not fail, or to the last. -/
theorem attemptsFrom_eq (f : ListedFile) {left : Nat} (number : Nat) (earlier : List Text)
    (hn : n < left) (hfails : FailsFor host s r ⟨f, earlier⟩ n)
    (hlast : (nth host s r ⟨f, earlier⟩ n).fails = false ∨ n + 1 = left) :
    attemptsFrom host s r f left number earlier =
      ⟨(nth host s r ⟨f, earlier⟩ n).outcome,
        (List.range (n + 1)).flatMap fun m => (nth host s r ⟨f, earlier⟩ m).requests,
        (List.range' number n).map fun j => s.retrieval.baseDelay.times j⟩ := by
  induction left generalizing n number earlier with
  | zero => exact absurd hn (Nat.not_lt_zero n)
  | succ left ih =>
    unfold attemptsFrom
    dsimp only
    cases n with
    | zero =>
      have hrequests : (List.range 1).flatMap (fun m => (nth host s r ⟨f, earlier⟩ m).requests) =
          (attempt host s r earlier f).requests := List.append_nil _
      have hfirst : nth host s r ⟨f, earlier⟩ 0 = attempt host s r earlier f := rfl
      rw [hrequests, hfirst]
      rw [hfirst] at hlast
      split
      · next ho => rw [ho]; rfl
      · next ho => rw [ho]; rfl
      · next ho =>
        have hleft : left = 0 := by
          rcases hlast with hlast | hlast
          · rw [Attempt.fails_iff.2 ho] at hlast
            cases hlast
          · omega
        rw [if_pos hleft, ho]
        rfl
    | succ n =>
      obtain ⟨hfirst, hrest⟩ := (failsFor_succ f earlier).1 hfails
      have hleft : ¬left = 0 := by omega
      rw [Attempt.fails_iff.1 hfirst]
      dsimp only
      rw [if_neg hleft, ih (number + 1) _ (Nat.lt_of_succ_lt_succ hn) hrest
        (hlast.imp id Nat.succ.inj)]
      have hrequests : (List.range (n + 1 + 1)).flatMap
          (fun m => (nth host s r ⟨f, earlier⟩ m).requests) =
            (attempt host s r earlier f).requests ++ (List.range (n + 1)).flatMap fun m =>
              (nth host s r ⟨f, earlier ++ (attempt host s r earlier f).requests⟩ m).requests := by
        rw [List.range_succ_eq_map, List.flatMap_cons, List.flatMap_map]
        rfl
      rw [hrequests, List.range'_succ, List.map_cons]
      rfl

/-- A turn has a last attempt. -/
theorem exists_last (t : Turn) : ∃ n, t.Makes host s r n ∧
    ((t.nth host s r n).fails = false ∨ n + 1 = maxAttempts s) := by
  rcases attemptsFrom_cases t.file (maxAttempts s) 1 t.earlier with
    ⟨hall, -⟩ | ⟨n, hn, hfails, hlast, -⟩
  · have hpos : 0 < maxAttempts s := Nat.lt_of_lt_of_le Nat.one_pos (le_max_left ..)
    refine ⟨maxAttempts s - 1, ⟨by omega, fun m hm => hall m (by omega)⟩, .inr (by omega)⟩
  · exact ⟨n, ⟨hn, hfails⟩, .inl hlast⟩

/-- A turn takes the attempts up to its last if each of them is exact. -/
theorem takes_of_last (hn : t.Makes host s r n)
    (hlast : (t.nth host s r n).fails = false ∨ n + 1 = maxAttempts s)
    (hexact : ∀ m ≤ n, (t.nth host s r m).IsExact host s r
      (sentBefore host s r t.file m t.earlier) t.file) :
    t.Takes host s r (n + 1) := by
  have hfetch : t.fetch host s r = _ := attemptsFrom_eq t.file 1 t.earlier hn.1 hn.2 hlast
  have houtcome : (t.fetch host s r).outcome = (t.nth host s r n).outcome := by rw [hfetch]
  have hfailed : ∀ m, m < n → (t.nth host s r m).outcome = .ok none := fun m hm =>
    Attempt.fails_iff.1 (hn.2 m hm)
  refine
    { pos := Nat.succ_pos n
      le := hn.1
      failed := fun m hm => hfailed m (Nat.lt_of_succ_lt_succ hm)
      last := ?_
      exact := fun m hm => hexact m (Nat.le_of_lt_succ hm)
      outcome := houtcome
      none_iff := ?_
      requests := by rw [requests, hfetch]
      sleeps := by rw [sleeps, hfetch]; rfl }
  · rw [Nat.add_sub_cancel]
    cases ho : (t.nth host s r n).outcome with
    | error fault => exact absurd ho ((hexact n (Nat.le_refl n)).ends fault)
    | ok c =>
      cases c with
      | some c => exact .inl ⟨c, rfl⟩
      | none =>
        refine .inr ⟨rfl, hlast.resolve_left ?_⟩
        rw [Attempt.fails_iff.2 ho]
        simp
  · rw [houtcome]
    constructor
    · intro ho m hm
      rcases Nat.lt_succ_iff_lt_or_eq.1 hm with hm | rfl
      · exact hfailed m hm
      · exact ho
    · exact fun h => h n (Nat.lt_succ_self n)

theorem Makes.of_le (h : t.Makes host s r n) (hm : m ≤ n) : t.Makes host s r m :=
  ⟨Nat.lt_of_le_of_lt hm h.1, fun k hk => h.2 k (Nat.lt_of_lt_of_le hk hm)⟩

/-- A turn takes every attempt that is made. -/
theorem Takes.lt_of_makes (h : t.Takes host s r k) (hm : t.Makes host s r m) : m < k := by
  by_contra hle
  have hpos := h.pos
  have hfails : (t.nth host s r (k - 1)).outcome = .ok none :=
    Attempt.fails_iff.1 (hm.2 (k - 1) (by omega))
  rcases h.last with ⟨c, hc⟩ | ⟨-, hk⟩
  · rw [hfails] at hc
    cases hc
  · have hlt : m < max 1 s.retrieval.maxAttempts.toNat := hm.1
    omega

/-- A turn takes exact attempts up to its last exactly when no attempt ends the others. -/
theorem exists_takes_iff :
    (∃ k, t.Takes host s r k) ↔ ∀ fault, ¬t.Breaks host s r fault := by
  constructor
  · rintro ⟨k, htakes⟩ fault ⟨n, hn, hfails, ho, -⟩
    exact (htakes.exact n (htakes.lt_of_makes ⟨hn, hfails⟩)).ends fault ho
  · intro hbreaks
    obtain ⟨last, hmakes, hlast⟩ := @exists_last host s r t
    refine ⟨last + 1, takes_of_last hmakes hlast fun n hn => ?_⟩
    have hmakes' := hmakes.of_le hn
    refine attempt_isExact fun fault ho => ?_
    exact hbreaks fault ⟨n, hmakes'.1, hmakes'.2, ho, isFinal_of_attempt ho⟩

/-- The turn of the second file of the site, with some hash. -/
def refusedFile (hash : Text) : Turn := ⟨⟨"b.ts", .string hash⟩, [siteRequest]⟩

theorem refusedFile_takes : (∃ k, (refusedFile "b").Takes (siteHost "b") {} site k) ∧
    ((refusedFile "b").requests (siteHost "b") {} site).length = 6 ∧
    ((refusedFile "b").sleeps (siteHost "b") {} site).length = 2 := by
  have hfetch : ((refusedFile "b").fetch (siteHost "b") {} site).outcome.isOk = true := by
    decide +kernel
  refine ⟨exists_takes_iff.2 fun fault hbreaks => ?_, ?_⟩
  · rw [breaks_iff.1 hbreaks] at hfetch
    cases hfetch
  · decide +kernel

/-- A hash that makes no address ends a turn that has attempts left: not every turn is exact. -/
theorem not_forall_exists_takes :
    ¬∀ (host : Host) (s : Settings) (r : Repository) (t : Turn), ∃ k, t.Takes host s r k := by
  intro h
  obtain ⟨k, htakes⟩ := h (siteHost "b\\u0001") {} site (refusedFile ("b" ++ [CodePoint.ofNat 1]))
  have hends := (htakes.exact (k - 1) (Nat.sub_lt htakes.pos Nat.one_pos)).ends
  have hfault : ((refusedFile ("b" ++ [CodePoint.ofNat 1])).fetch (siteHost "b\\u0001") {}
      site).outcome.isOk = false := by decide +kernel
  rw [htakes.outcome] at hfault
  obtain ⟨fault, ho⟩ : ∃ fault, ((refusedFile ("b" ++ [CodePoint.ofNat 1])).nth
      (siteHost "b\\u0001") {} site (k - 1)).outcome = .error fault := by
    revert hfault
    cases ((refusedFile ("b" ++ [CodePoint.ofNat 1])).nth (siteHost "b\\u0001") {} site
      (k - 1)).outcome with
    | error fault => exact fun _ => ⟨fault, rfl⟩
    | ok c =>
      intro h
      cases h
  exact hends fault ho

end Turn

end Hosting

end Decouple
