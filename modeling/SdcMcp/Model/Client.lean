/-
The sending half of `client.rs`: from one wire attempt up to the typed helpers.

`sendPartsOnce` makes one attempt and settles what came of it, `sendParts` repeats
a `GET` that was rate limited, `sendRaw` and `sendWrite` judge the answer, each in
its own order.  A read made by a polling loop races the loop's deadline; `race` is
that deadline, and it can cut off an attempt or the pause before a retry.
-/
import SdcMcp.Lib.Duration
import SdcMcp.Model.Checks
import SdcMcp.Model.Wire

namespace SdcMcp

open Interactive

structure PollSettings where
  initial : Nat
  maximum : Nat
  deadline : Nat
  initial_pos : 0 < initial
  initial_le : initial ≤ maximum
  maximum_le : maximum ≤ deadline

structure SdcClient where
  credential : String
  maxResponseBytes : Nat
  maxPageSize : Nat
  poll : PollSettings

/-! ### Retries -/

def maxRetryAttempts : Nat := 3
def maxRetryDelay : Nat := 30000
def baseRetryDelay : Nat := 500

/-- Seconds in a `Retry-After` header: blanks around it, an optional plus sign, digits. -/
def parseRetryAfter (header : String) : Option Nat :=
  let trimmed := ((header.toList.dropWhile Char.isWhitespace).reverse.dropWhile
    Char.isWhitespace).reverse
  let digits := match trimmed with
    | '+' :: rest => rest
    | rest => rest
  if !digits.isEmpty && digits.all Char.isDigit && Nat.ofDigitChars 10 digits 0 < 2 ^ 64 then
    some (Nat.ofDigitChars 10 digits 0)
  else none

/-- Delay before the next attempt: what the server asked for or a growing one, capped. -/
def retryDelay (retryAfter : Option Nat) (attempt jitterNanos : Nat) : Nat :=
  let base := match retryAfter with
    | some seconds => 1000 * seconds
    | none => baseRetryDelay * 2 ^ attempt
  let capped := min base maxRetryDelay
  capped + jitterNanos % max (capped / 4) 1

/-- `1u32.checked_shl`: a shift by the whole width has no result. -/
def checkedShl (attempt : UInt32) : Option UInt32 :=
  if attempt < 32 then some (1 <<< attempt) else none

open Chrono in
/-- The jitter stays below a quarter of the delay, and there is always some. -/
def jitterBoundMs (capped : Duration) : UInt64 :=
  let quarter := capped.asMillis / 4
  let bound := if quarter < 2 ^ 64 then UInt64.ofNat quarter else 18446744073709551615
  if bound < 1 then 1 else bound

open Chrono in
/-- `retry_delay` in the arithmetic of the source, where a panic is `none`. -/
def retryDelayMachine (retryAfter : Option Duration) (attempt : UInt32) (jitterNanos : UInt64) :
    Option Duration := do
  let base := retryAfter.getD
    ((Duration.fromMillis 500).saturatingMul ((checkedShl attempt).getD 4294967295))
  let capped := base.min (Duration.fromSecs 30)
  let jitterMs ← if jitterBoundMs capped = 0 then none
    else some (jitterNanos % jitterBoundMs capped)
  capped.checkedAdd (Duration.fromMillis jitterMs)

/-! ### One attempt -/

/-- How an interrupted call ends. -/
def interrupted {α : Type} : Interrupt → Outcome SdcError α
  | .cancelled => .err .cancelled
  | .timedOut => .err .timeout
  | .dropped => .dropped

def classifyReqwest (error : ReqwestError) : SdcError :=
  if error.isTimeout then .timeout
  else if error.isBody || error.isDecode then .bodyTransfer
  else if error.isBuilder then .urlConstruction
  else .transport

/-- Reads the chunks that arrived, up to the limit. -/
def readChunks (limit : Nat) (body : List UInt8) :
    List (List UInt8) → BodyEnd → Except Interrupt (Except SdcError (List UInt8))
  | [], .complete => .ok (.ok body)
  | [], .failed error => .ok (.error (classifyReqwest error))
  | [], .interrupted why => .error why
  | chunk :: rest, ending =>
      if limit < body.length + chunk.length then .ok (.error (.responseTooLarge limit))
      else readChunks limit (body ++ chunk) rest ending

/-- The body of an answer, which is not read at all when its declared length is too large. -/
def readBody (limit : Nat) (answer : Answer) : Except Interrupt (Except SdcError (List UInt8)) :=
  if answer.contentLength.any (limit < ·) then .ok (.error (.responseTooLarge limit))
  else readChunks limit [] answer.chunks answer.ending

structure SendOutcome where
  status : Nat
  retryAfter : Option Nat
  body : Except SdcError (List UInt8)

/-- What one exchange comes to. -/
def settleExchange (limit : Nat) : Exchange → Outcome SdcError SendOutcome
  | .unsent why => interrupted why
  | .sendError error => .err (classifyReqwest error)
  | .unanswered why => interrupted why
  | .answered answer =>
      match readBody limit answer with
      | .error why => interrupted why
      | .ok body => .ok ⟨answer.status, answer.retryAfter.bind parseRetryAfter, body⟩

variable [Crates]

/-- The refusals of `send_parts_once` before it sends anything. -/
def checkRequest (client : SdcClient) (request : Request) : Except SdcError Unit :=
  if request.segments.any fun segment => segment ∈ ["", ".", ".."] then .error .urlConstruction
  else if Crates.isHeaderValue client.credential then .ok ()
  else .error .invalidCredentialHeader

def sendPartsOnce (client : SdcClient) (race : Option Nat) (request : Request) :
    Io SendOutcome := do
  Run.lift (checkRequest client request)
  let now ← Run.ask fun _ history => clock history
  let attempt ← Run.ask fun env history => env.exchange history request
  if race.any (· < now + attempt.elapsed) then
    Run.emit (.abandoned request (race.getD 0 - now))
    Run.fail .jobDeadline
  else
    Run.emit (.attempt request attempt)
    Run.settled (settleExchange client.maxResponseBytes attempt.exchange)

/-- How long a sleep of `ms` lasts and how it ends, the deadline of a poll aside. -/
def pauseEnd (ms : Nat) : Pause → Nat × PauseEnd
  | .elapses late => (ms + late, .elapsed)
  | .cancelled after => (min after ms, .cancelled)
  | .dropped after => (min after ms, .dropped)

/-- Sleeps, unless a token fires first; a deadline in `race` that comes first ends the poll. -/
def pause (race : Option Nat) (ms : Nat) : Io Unit := do
  let now ← Run.ask fun _ history => clock history
  let pause ← Run.ask fun env history => env.pause history
  let (elapsed, ending) := pauseEnd ms pause
  if race.any (· < now + elapsed) then
    Run.emit (.paused (race.getD 0 - now) .expired)
    Run.fail .jobDeadline
  else
    Run.emit (.paused elapsed ending)
    match ending with
    | .elapsed => return ()
    | .expired => Run.fail .jobDeadline
    | .cancelled => Run.fail .cancelled
    | .dropped => Run.drop

/-! ### Retrying and judging -/

/-- Attempts from number `attempt` on, with `remaining` more allowed after it. -/
def sendPartsFrom (client : SdcClient) (race : Option Nat) (request : Request) (attempt : Nat) :
    Nat → Io (Nat × Except SdcError (List UInt8))
  | 0 => do
      let outcome ← sendPartsOnce client race request
      return (outcome.status, outcome.body)
  | remaining + 1 => do
      let outcome ← sendPartsOnce client race request
      if request.method = .get ∧ (outcome.status = 429 ∨ outcome.status = 503) then
        let nanos ← Run.ask fun env history => env.jitterNanos history
        pause race (retryDelay outcome.retryAfter attempt nanos)
        sendPartsFrom client race request (attempt + 1) remaining
      else return (outcome.status, outcome.body)

def sendParts (client : SdcClient) (race : Option Nat) (request : Request) :
    Io (Nat × Except SdcError (List UInt8)) :=
  sendPartsFrom client race request 0 maxRetryAttempts

def isSuccess (status : Nat) : Bool := 200 ≤ status && status < 300

def boundText (value : String) : String := Crates.boundedText value 512

def classifyApiError (status : Nat) (body : List UInt8) : SdcError :=
  if status = 429 then .resourceExhausted
  else
    let value := (Crates.readJson body).map Json.dedup
    let code := value.bind (·.get "code") |>.bind Json.asStr
    let message := value.bind fun v => (v.get "message").or (v.get "error")
    .api status ((code.map boundText).getD ("http_" ++ toString status))
      (((message.bind Json.asStr).map boundText).getD "SDC API request failed")

/-- `send_raw`: an unreadable body comes before the status. -/
def judgeRaw : Nat × Except SdcError (List UInt8) → Except SdcError (List UInt8)
  | (_, .error error) => .error error
  | (status, .ok body) =>
      if isSuccess status then .ok body else .error (classifyApiError status body)

/-- `send_write`: a success status comes before an unreadable body. -/
def judgeWrite : Nat × Except SdcError (List UInt8) → Except SdcError Value
  | (status, .error error) =>
      .error (if isSuccess status then .mutationOutcomeUnknown else error)
  | (status, .ok raw) =>
      if isSuccess status then
        if raw.all isAsciiWhitespace then .ok Value.null
        else match Crates.readJson raw with
          | some v => .ok v.toValue
          | none => .error .mutationOutcomeUnknown
      else .error (classifyApiError status raw)

def sendRaw (client : SdcClient) (race : Option Nat) (request : Request) : Io (List UInt8) := do
  let parts ← sendParts client race request
  Run.lift (judgeRaw parts)

def sendWrite (client : SdcClient) (method : Method) (segments : List String)
    (body : Option Value) : Io Value := do
  let parts ← sendParts client none ⟨method, segments, [], body.map Value.tree⟩
  Run.lift (judgeWrite parts)

/-- Reads a success body as a record. -/
def parse {α : Type} (decode : Json → Option α) (raw : List UInt8) : Except SdcError α :=
  match (Crates.readJson raw).bind decode with
  | some a => .ok a
  | none => .error .invalidJson

/-- Any document is a value. -/
def decodeValue (v : Json) : Option Value := some v.toValue

def send {α : Type} (client : SdcClient) (race : Option Nat) (decode : Json → Option α)
    (request : Request) : Io α := do
  let raw ← sendRaw client race request
  Run.lift (parse decode raw)

def get {α : Type} (client : SdcClient) (race : Option Nat) (decode : Json → Option α)
    (segments : List String) (query : List (String × String)) : Io α :=
  send client race decode ⟨.get, segments, query, none⟩

def post {α : Type} (client : SdcClient) (decode : Json → Option α) (segments : List String)
    (body : Json) : Io α :=
  send client none decode ⟨.post, segments, [], some body⟩

def list (client : SdcClient) (segments : List String) (page : ListRequest) : Io Value := do
  let page ← Run.lift ((ListRequest.new page.from_ page.size client.maxPageSize).mapError .list)
  get client none decodeValue segments
    [("from", toString page.from_), ("size", toString page.size)]

end SdcMcp
