/-
The wire under `client.rs`, as the client sees it.

One attempt at a request goes one of four ways: it ends before the request is
handed to the transport, `send` reports an error, it ends while the answer is
still awaited, or a status line arrives and a body starts to stream.  The body
comes in chunks, and after the last chunk that arrived the stream ends, breaks,
or is cut off by a timeout or a cancellation.

What SDC answers, when a token fires and how long an await takes are the
environment's business.  The environment sees everything that happened so far, so
its answers may change between any two requests.

Time is in milliseconds and passes only inside attempts and pauses; the clock is
the sum of what they took.
-/
import Mathlib.Algebra.GroupWithZero.Nat
import SdcMcp.Lib.Fallible
import SdcMcp.Lib.Run
import SdcMcp.Model.Types

namespace SdcMcp

open Interactive

inductive Method where
  | get
  | post
  | put
  | delete
  deriving DecidableEq

structure Request where
  method : Method
  segments : List String
  query : List (String × String)
  body : Option Json

/-- Everything but a `GET` can change SDC. -/
def Request.mutating (r : Request) : Bool := r.method ≠ .get

/-- Why an await did not finish by itself. -/
inductive Interrupt where
  | cancelled
  | timedOut
  /-- The caller dropped the future. -/
  | dropped
  deriving DecidableEq

/-- The kinds of `reqwest::Error`. -/
inductive ReqwestKind where
  | builder
  | request
  | redirect
  | status
  | body
  | decode
  | upgrade
  deriving DecidableEq

structure ReqwestError where
  kind : ReqwestKind
  /-- A timeout is among the causes. -/
  isTimeout : Bool
  deriving DecidableEq

namespace ReqwestError

def isBuilder (e : ReqwestError) : Bool := e.kind = .builder
def isBody (e : ReqwestError) : Bool := e.kind = .body
def isDecode (e : ReqwestError) : Bool := e.kind = .decode

end ReqwestError

/-- How the stream of a body ended. -/
inductive BodyEnd where
  | complete
  | failed (error : ReqwestError)
  | interrupted (why : Interrupt)

structure Answer where
  status : Nat
  /-- The `Retry-After` header, when it is visible ASCII. -/
  retryAfter : Option String
  contentLength : Option Nat
  chunks : List (List UInt8)
  ending : BodyEnd

inductive Exchange where
  | unsent (why : Interrupt)
  | sendError (error : ReqwestError)
  | unanswered (why : Interrupt)
  | answered (answer : Answer)

/-- The request was handed to the transport; an error of the builder is raised before that. -/
def Exchange.handed : Exchange → Bool
  | .unsent _ => false
  | .sendError error => !error.isBuilder
  | .unanswered _ => true
  | .answered _ => true

structure Attempt where
  elapsed : Nat
  exchange : Exchange

/-- What the environment does to a sleeping client. -/
inductive Pause where
  /-- The timer fires, this late. -/
  | elapses (late : Nat)
  | cancelled (after : Nat)
  | dropped (after : Nat)

inductive PauseEnd where
  | elapsed
  /-- A polling deadline fired first. -/
  | expired
  | cancelled
  | dropped
  deriving DecidableEq

inductive Event where
  | attempt (request : Request) (attempt : Attempt)
  /-- A read still in flight when the polling deadline fired. -/
  | abandoned (request : Request) (elapsed : Nat)
  | paused (elapsed : Nat) (ending : PauseEnd)
  /-- The `refused_before_write` flag of a transaction was stored. -/
  | markRefused (value : Bool)
  | discarded (operationId : String)

namespace Event

def elapsed : Event → Nat
  | .attempt _ a => a.elapsed
  | .abandoned _ ms => ms
  | .paused ms _ => ms
  | .markRefused _ => 0
  | .discarded _ => 0

/-- A mutating request was started. -/
def dispatches : Event → Bool
  | .attempt request _ => request.mutating
  | .abandoned request _ => request.mutating
  | _ => false

/-- A mutating request was handed to the transport. -/
def mutates : Event → Bool
  | .attempt request a => request.mutating && a.exchange.handed
  | .abandoned request _ => request.mutating
  | _ => false

end Event

def clock (history : List Event) : Nat := (history.map Event.elapsed).sum

structure Env where
  exchange : List Event → Request → Attempt
  pause : List Event → Pause
  /-- The sub-second wall clock that retries draw their jitter from. -/
  jitterNanos : List Event → Nat

abbrev Io (α : Type) : Type := Run Env Event SdcError α

end SdcMcp
