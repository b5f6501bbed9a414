import Decouple.Assistant.Provider
import Decouple.Cleaning
import Decouple.Http.Address
import Decouple.Http.Reply
import Decouple.Json.Access
import Decouple.Json.Writer
import Decouple.Pattern.Scan
import Decouple.Settings

/-!
# Answers with a transformed text

Each provider puts the text at a place of its own in the reply.  A reply without a text there, a
status that says that something went wrong and a failure on the way all come to a failed call.
-/

namespace Decouple

/-!
## Requests for a transformed text

Each provider has its own address, headers and form of a request.  A request is sent when its
address is one, its headers are ASCII and its body can be encoded.  A name and password in the
address take the place of any other authorization.
-/

/-- A text-transform service that can be asked. -/
structure Service where
  provider : Provider
  model : Text
  base : Text
  apiKey : Text
  maxTokens : Int

/-- A request that a service is sent. -/
structure TransformRequest where
  address : Address
  headers : List (Text × Text)
  body : Json

namespace Service

/-- A text that is given and not empty. -/
def filled (t : Option Text) (default : Text) : Text := (t.filter (!·.isEmpty)).getD default

/-- The service that settings mean, if they name a provider. -/
def ofSettings? (a : AssistantSettings) : Option Service :=
  (Provider.ofName? a.provider).map fun p => {
    provider := p
    model := filled a.model p.model
    base := Text.trimEndOf (· = '/') (filled a.baseUrl p.base)
    apiKey := a.apiKey.getD []
    maxTokens := a.maxTokens }

/-- A message of a role. -/
def message (role content : Text) : Json :=
  .object [("role", .string role), ("content", .string content)]

/-- The messages for providers that take the instruction as one of them. -/
def messages (instruction content : Text) : Json :=
  .array [message "system" instruction, message "user" content]

/-- The address of a request, as it is put together. -/
def address (v : Service) : Text :=
  match v.provider with
  | .openai => v.base ++ "/chat/completions"
  | .anthropic => v.base ++ "/v1/messages"
  | .ollama => v.base ++ "/api/chat"

/-- The headers of a request. -/
def headers (v : Service) : List (Text × Text) :=
  match v.provider with
  | .openai => [("authorization", "Bearer " ++ v.apiKey)]
  | .anthropic => [("x-api-key", v.apiKey), ("anthropic-version", "2023-06-01")]
  | .ollama => []

/-- The body of a request. -/
def body (v : Service) (instruction content : Text) : Json :=
  match v.provider with
  | .openai => .object [
    ("model", .string v.model), ("max_tokens", .int v.maxTokens), ("temperature", .int 0),
    ("messages", messages instruction content)]
  | .anthropic => .object [
    ("model", .string v.model), ("max_tokens", .int v.maxTokens),
    ("system", .string instruction), ("messages", .array [message "user" content])]
  | .ollama => .object [
    ("model", .string v.model), ("messages", messages instruction content),
    ("stream", .bool false)]

/-- The fault of headers that are not ASCII. -/
def headerFault? (headers : List (Text × Text)) : Option RequestFault :=
  headers.findSome? fun (_, value) => (RequestFault.notAscii? value).map .header

/-- The headers of a request to an address. -/
def headersFor (v : Service) (a : Address) : List (Text × Text) :=
  match a.authorization? with
  | some own => ("authorization", own) :: v.headers.filter (·.1 ≠ "authorization")
  | none => v.headers

/-- The request for a transformed text. -/
def request (v : Service) (instruction content : Text) : Except RequestFault TransformRequest := do
  let address ← Address.ofRequest v.address none
  match headerFault? v.headers with
  | some f => .error f
  | none =>
    let body := v.body instruction content
    let _ ← (Utf8.encode (body.write .compact)).mapError .body
    .ok { address, headers := v.headersFor address, body }

end Service

/-! ## Texts in replies -/

/-- Why a reply has no text. -/
inductive AnswerFault where
  | json (e : JsonBytesError)
  | notObject (kind : Text)
  | access (e : AccessError)
  | notAList
  | noBlock
  | notText (place : Nat) (kind : Text)
  | noText

namespace AnswerFault

/-- A fault in words. -/
def message : AnswerFault → Text
  | json e => e.message
  | notObject kind => "expected an object, got " ++ kind
  | access e => e.message
  | notAList => "content is not a list"
  | noBlock => "no text block"
  | notText place kind =>
    "sequence item " ++ Text.ofNat place ++ ": expected str instance, " ++ kind ++ " found"
  | noText => "no text"

end AnswerFault

namespace Provider

/-- The text of a block, if it is a text block. -/
def blockText? (block : Json) : Option Json :=
  match block.get? "type" with
  | some (.string kind) =>
    if kind = "text" then some ((block.get? "text").getD (.string [])) else none
  | _ => none

/-- The first of some values that is no text, with its place. -/
def notText? (values : List Json) : Option (Nat × Json) :=
  (values.zipIdx.find? fun (j, _) => j.text?.isNone).map fun (j, i) => (i, j)

/-- The text of blocks. -/
def blocksText (blocks : List Json) : Except AnswerFault Json :=
  let texts := blocks.filterMap blockText?
  if texts.isEmpty then .error .noBlock
  else
    match notText? texts with
    | some (place, j) => .error (.notText place j.kindName)
    | none => .ok (.string (texts.flatMap fun j => j.text?.getD []))

/-- What stands where a provider puts the text. -/
def textPlace (p : Provider) (body : Json) : Except AnswerFault Json :=
  match p with
  | openai => (do
      let choices ← body.named "choices"
      let choice ← choices.first
      let message ← choice.named "message"
      message.named "content").mapError .access
  | ollama => (do
      let message ← body.named "message"
      message.named "content").mapError .access
  | anthropic =>
    match body.named "content" with
    | .error e => .error (.access e)
    | .ok (.array blocks) => blocksText blocks
    | .ok _ => .error .notAList

/-- The text of a reply's body. -/
def answerText (p : Provider) (body : Bytes) : Except AnswerFault Text :=
  match Json.readBytes body with
  | .error e => .error (.json e)
  | .ok (.object members) =>
    match p.textPlace (.object members) with
    | .error f => .error f
    | .ok (.string t) => .ok t
    | .ok _ => .error .noText
  | .ok j => .error (.notObject j.kindName)

end Provider

/-!
## Code fences

A reply may wrap its text in one fence of three backticks, with a language tag after the opening
ones.  The wrapping is removed; fences inside the text stay.
-/

namespace Fence

open CodePoint (is isIn isWord)
open Pattern

/-- Code points of a language tag. -/
def isTag (c : CodePoint) : Bool := isWord c || isIn ".+-" c

/-- A whole text that is one fence with its content. -/
def fenced : Pattern :=
  sequence [
    blanks, literal "```", any isTag, indent, lineBreak, part .body (many (fun _ => true) 0 .lazy),
    optional (one (is '\r')), optional (one (is '\n')), literal "```", blanks, textEnd]

/-- The text without a fence around it. -/
def strip (t : Text) : Text :=
  match fenced.matchStart? t with
  | some m => m.textOf .body
  | none => t

end Fence

/-! ## Replies -/

namespace Service

/-- What the body of a reply comes to. -/
def readBody (v : Service) (body : Bytes) : Except RequestFault Transformed :=
  match v.provider.answerText body with
  | .ok t => .ok (.success (Fence.strip t))
  | .error (.json (.json (.tooDeep holder))) => .error (.tooDeep holder)
  | .error f => .ok (.failure ("Malformed " ++ v.provider.name ++ " reply: " ++ f.message))

/-- What a reply comes to. -/
def read (v : Service) : Reply → Except RequestFault Transformed
  | .timedOut _ => .ok (.failure ("Timeout calling " ++ v.provider.name))
  | .failed message =>
    .ok (.failure ("Network error calling " ++ v.provider.name ++ ": " ++ message))
  | .answered status body =>
    if status = 429 then .ok (.failure (v.provider.name ++ " rate limit reached"))
    else if 400 ≤ status then
      .ok (.failure (v.provider.name ++ " answered HTTP " ++ Text.ofNat status))
    else v.readBody body

/-- What a call comes to when `server` replies to its request; without a request nothing is
asked. -/
def call (v : Service) (server : TransformRequest → Reply) (instruction content : Text) :
    Except RequestFault Transformed := do
  let request ← v.request instruction content
  let reply ← (server request).takenFrom request.address
  v.read reply

/-- The requests that some calls send. -/
def requests (v : Service) (calls : List (Text × Text)) : List TransformRequest :=
  calls.filterMap fun (instruction, content) => (v.request instruction content).toOption

/-- The client of a service: `server` replies to a request, given those before it. -/
def client (v : Service) (server : List TransformRequest → TransformRequest → Reply) :
    Client RequestFault := fun earlier instruction content =>
  v.call (server (v.requests earlier)) instruction content

/-- The service as a run uses it. -/
def assistant (v : Service) (server : List TransformRequest → TransformRequest → Reply) :
    Assistant := (v.client server).guarded RequestFault.message

end Service

end Decouple
