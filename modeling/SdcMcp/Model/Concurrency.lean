/-
Calls of `send_parts` that run side by side, `client.rs`.

The client has a semaphore of `max_concurrency` permits.  Each attempt waits for a permit
and holds it until its answer is read, its request fails or is interrupted; the permit is
given back whatever comes of the attempt.  A call that sleeps before another attempt holds
none.

A call is the same loop as `sendParts`, cut where it waits.  Its world is fixed in advance,
as an environment and a history of its own, so the only thing left open is when it moves.
-/
import SdcMcp.Lib.Semaphore
import SdcMcp.Model.Client
import SdcMcp.Model.Config

namespace SdcMcp

open Interactive Semaphore

/-- Where a call of `send_parts` stands: the number of its attempt and how many more there may
be. -/
inductive SendPhase where
  /-- In `acquire`. -/
  | queued (attempt remaining : Nat)
  /-- A permit is held, until the answer is read. -/
  | exchanging (attempt remaining : Nat)
  /-- Before the next attempt, after an answer with this `Retry-After`. -/
  | sleeping (attempt remaining : Nat) (retryAfter : Option Nat)
  | ended (outcome : Outcome SdcError (Nat × Except SdcError (List UInt8)))

structure SendTask where
  env : Env
  history : List Event
  race : Option Nat
  request : Request
  phase : SendPhase
  /-- What the call has done. -/
  log : List Event

namespace SendTask

/-- All that has happened before the next move. -/
def past (task : SendTask) : List Event := task.history ++ task.log

/-- What the attempt at hand comes to. -/
def next (task : SendTask) : Attempt := task.env.exchange task.past task.request

/-- The deadline of a poll comes before the end of the attempt at hand. -/
def expires (task : SendTask) : Bool := task.race.any (· < clock task.past + task.next.elapsed)

/-- The end of an attempt. -/
def settle (limit : Nat) (task : SendTask) (attempt remaining : Nat) : SendTask :=
  if task.expires then
    { task with
      phase := .ended (.err .jobDeadline)
      log := task.log ++ [.abandoned task.request (task.race.getD 0 - clock task.past)] }
  else
    { task with
      phase := match settleExchange limit task.next.exchange with
        | .err error => .ended (.err error)
        | .dropped => .ended .dropped
        | .ok outcome =>
            match remaining with
            | 0 => .ended (.ok (outcome.status, outcome.body))
            | remaining + 1 =>
                if task.request.method = .get ∧ (outcome.status = 429 ∨ outcome.status = 503) then
                  .sleeping attempt remaining outcome.retryAfter
                else .ended (.ok (outcome.status, outcome.body))
      log := task.log ++ [.attempt task.request task.next] }

/-- The end of a sleep. -/
def wake (task : SendTask) (attempt remaining : Nat) (retryAfter : Option Nat) : SendTask :=
  let delay := retryDelay retryAfter attempt (task.env.jitterNanos task.past)
  let (elapsed, ending) := pauseEnd delay (task.env.pause task.past)
  if task.race.any (· < clock task.past + elapsed) then
    { task with
      phase := .ended (.err .jobDeadline)
      log := task.log ++ [.paused (task.race.getD 0 - clock task.past) .expired] }
  else
    { task with
      phase := match ending with
        | .elapsed => .queued (attempt + 1) remaining
        | .expired => .ended (.err .jobDeadline)
        | .cancelled => .ended (.err .cancelled)
        | .dropped => .ended .dropped
      log := task.log ++ [.paused elapsed ending] }

/-- The moves of a call. -/
inductive Moves (limit : Nat) : SendTask → SendTask → Prop
  /-- A permit is there; the request is handed over unless it cannot be built. -/
  | acquire {task : SendTask} {attempt remaining : Nat}
      (hphase : task.phase = .queued attempt remaining)
      (hsent : ∀ why, task.next.exchange ≠ .unsent why) :
      Moves limit task { task with phase := .exchanging attempt remaining }
  /-- The call is interrupted while it waits for a permit. -/
  | leave {task : SendTask} {attempt remaining : Nat}
      (hphase : task.phase = .queued attempt remaining)
      (hleaves : task.expires = true ∨ ∃ why, task.next.exchange = .unsent why) :
      Moves limit task (task.settle limit attempt remaining)
  | finish {task : SendTask} {attempt remaining : Nat}
      (hphase : task.phase = .exchanging attempt remaining) :
      Moves limit task (task.settle limit attempt remaining)
  | wake {task : SendTask} {attempt remaining : Nat} {retryAfter : Option Nat}
      (hphase : task.phase = .sleeping attempt remaining retryAfter) :
      Moves limit task (task.wake attempt remaining retryAfter)

/-- The call holds a permit. -/
def holds (task : SendTask) : Bool :=
  match task.phase with
  | .exchanging .. => true
  | _ => false

def ended (task : SendTask) : Bool :=
  match task.phase with
  | .ended _ => true
  | _ => false

variable [Crates]

/-- The start of a call: a request that is refused is not sent. -/
def start (client : SdcClient) (env : Env) (history : List Event) (race : Option Nat)
    (request : Request) : SendTask where
  env := env
  history := history
  race := race
  request := request
  phase := match checkRequest client request with
    | .error error => .ended (.err error)
    | .ok () => .queued 0 maxRetryAttempts
  log := []

/-- A new call, in any world. -/
def Starts (client : SdcClient) (task : SendTask) : Prop :=
  ∃ env history race request, task = start client env history race request

end SendTask

/-- The calls of a client whose semaphore had so many permits, at any moment. -/
def Underway [Crates] (client : SdcClient) (maxConcurrency : Nat) (pool : Pool SendTask) : Prop :=
  Reachable SendTask.holds (SendTask.Moves client.maxResponseBytes) (SendTask.Starts client)
    maxConcurrency pool

end SdcMcp
