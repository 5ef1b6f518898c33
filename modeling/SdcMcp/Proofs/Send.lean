/-
What the sending code does on the wire.

A write makes at most one attempt, so its run is a function of one exchange:
`sendWrite_admitted` says which, and nothing about the sending code has to be opened
again.  A read may try again.  Its run is described by how it ends: everything
before the last event is an answer that asks for a retry, or a pause that ran its
length, and the last event decides the outcome.  `Reading` says so, and polling
runs have the same shape.
-/
import SdcMcp.Model.Calls

namespace SdcMcp

open Interactive

variable [Crates] {α β : Type}

/-! ### One attempt -/

/-- What an exchange comes to once its answer is judged. -/
def verdict (client : SdcClient) (judge : Nat × Except SdcError (List UInt8) → Except SdcError α)
    (x : Exchange) : Outcome SdcError α :=
  (settleExchange client.maxResponseBytes x).andThen fun out => judge (out.status, out.body)

omit [Crates] in
theorem verdict_interrupted {client : SdcClient} {answer : Answer} {why : Interrupt}
    (h : readBody client.maxResponseBytes answer = .error why)
    (judge : Nat × Except SdcError (List UInt8) → Except SdcError α) :
    verdict client judge (.answered answer) = interrupted why := by
  have hx : settleExchange client.maxResponseBytes (.answered answer) = interrupted why := by
    simp only [settleExchange, h]
  unfold verdict
  rw [hx]
  cases why <;> rfl

omit [Crates] in
theorem verdict_answered {client : SdcClient} {answer : Answer}
    {body : Except SdcError (List UInt8)}
    (h : readBody client.maxResponseBytes answer = .ok body)
    (judge : Nat × Except SdcError (List UInt8) → Except SdcError α) :
    verdict client judge (.answered answer) = Outcome.ofExcept (judge (answer.status, body)) := by
  have hx : settleExchange client.maxResponseBytes (.answered answer)
      = .ok ⟨answer.status, answer.retryAfter.bind parseRetryAfter, body⟩ := by
    simp only [settleExchange, h]
  unfold verdict
  rw [hx, Outcome.andThen_ok]

def writeVerdict (client : SdcClient) (x : Exchange) : Outcome SdcError Value :=
  verdict client judgeWrite x

def readVerdict (client : SdcClient) (decode : Json → Option α) (x : Exchange) :
    Outcome SdcError α :=
  verdict client (fun parts => judgeRaw parts >>= parse decode) x

theorem sendPartsOnce_refused {client : SdcClient} {request : Request} {e : SdcError}
    (hcheck : checkRequest client request = .error e) (race : Option Nat) (r : Env)
    (h : List Event) : sendPartsOnce client race request r h = (.err e, []) := by
  unfold sendPartsOnce
  rw [hcheck, Run.lift_error_bind]

/-! ### Judging an answer -/

theorem judgeWrite_accepted_error {status : Nat} (hok : isSuccess status = true) (e : SdcError) :
    judgeWrite (status, .error e) = .error .mutationOutcomeUnknown := by
  show Except.error (if isSuccess status = true then _ else _) = _
  rw [if_pos hok]

theorem judgeWrite_refused_error {status : Nat} (hno : isSuccess status = false) (e : SdcError) :
    judgeWrite (status, .error e) = .error e := by
  show Except.error (if isSuccess status = true then _ else _) = _
  rw [hno, if_neg (by decide)]

theorem judgeWrite_refused {status : Nat} (hno : isSuccess status = false) (raw : List UInt8) :
    judgeWrite (status, .ok raw) = .error (classifyApiError status raw) := by
  show (if isSuccess status = true then _ else _) = _
  rw [hno, if_neg (by decide)]

theorem judgeWrite_blank {status : Nat} {raw : List UInt8} (hok : isSuccess status = true)
    (hblank : raw.all isAsciiWhitespace = true) :
    judgeWrite (status, .ok raw) = .ok Value.null := by
  show (if isSuccess status = true then if raw.all isAsciiWhitespace = true then _ else _
    else _) = _
  rw [if_pos hok, if_pos hblank]

theorem judgeWrite_json {status : Nat} {raw : List UInt8} {v : Json}
    (hok : isSuccess status = true) (hblank : ¬ raw.all isAsciiWhitespace = true)
    (hjson : Crates.readJson raw = some v) : judgeWrite (status, .ok raw) = .ok v.toValue := by
  simp only [judgeWrite, if_pos hok, if_neg hblank, hjson]

theorem judgeWrite_unreadable {status : Nat} {raw : List UInt8} (hok : isSuccess status = true)
    (hblank : ¬ raw.all isAsciiWhitespace = true) (hjson : Crates.readJson raw = none) :
    judgeWrite (status, .ok raw) = .error .mutationOutcomeUnknown := by
  simp only [judgeWrite, if_pos hok, if_neg hblank, hjson]

/-- A success is judged by its body: it is blank or JSON, or the outcome is unknown. -/
theorem judgeWrite_accepted {status : Nat} (hok : isSuccess status = true)
    (body : Except SdcError (List UInt8)) :
    (∃ v raw, judgeWrite (status, body) = .ok v ∧ body = .ok raw ∧
      (raw.all isAsciiWhitespace = true ∨ (Crates.readJson raw).isSome = true)) ∨
    (judgeWrite (status, body) = .error .mutationOutcomeUnknown ∧ ∀ raw, body = .ok raw →
      ¬ (raw.all isAsciiWhitespace = true ∨ (Crates.readJson raw).isSome = true)) := by
  cases body with
  | error e => exact Or.inr ⟨judgeWrite_accepted_error hok e, nofun⟩
  | ok raw =>
      by_cases hblank : raw.all isAsciiWhitespace = true
      · exact Or.inl ⟨_, raw, judgeWrite_blank hok hblank, rfl, Or.inl hblank⟩
      · cases hjson : Crates.readJson raw with
        | some v =>
            exact Or.inl ⟨_, raw, judgeWrite_json hok hblank hjson, rfl,
              Or.inr (by rw [hjson]; rfl)⟩
        | none =>
            refine Or.inr ⟨judgeWrite_unreadable hok hblank hjson, ?_⟩
            rintro _ ⟨⟩ (hall | hsome)
            · exact hblank hall
            · rw [hjson] at hsome
              cases hsome

/-! ### Attempts -/

/-- An admitted attempt is made, unless the deadline of a poll comes first. -/
theorem sendPartsOnce_admitted {client : SdcClient} {request : Request}
    (hcheck : checkRequest client request = .ok ()) (race : Option Nat) (r : Env)
    (h : List Event) :
    sendPartsOnce client race request r h =
      if race.any (· < clock h + (r.exchange h request).elapsed) then
        (.err .jobDeadline, [.abandoned request (race.getD 0 - clock h)])
      else (settleExchange client.maxResponseBytes (r.exchange h request).exchange,
        [.attempt request (r.exchange h request)]) := by
  unfold sendPartsOnce
  rw [hcheck, Run.lift_ok_bind, Run.ask_bind, Run.ask_bind]
  by_cases hrace : race.any (· < clock h + (r.exchange h request).elapsed) = true
  · rw [if_pos hrace, if_pos hrace, Run.emit_bind]
    rfl
  · rw [if_neg hrace, if_neg hrace, Run.emit_bind]
    rfl

/-! ### Writes -/

private theorem sendParts_once {client : SdcClient} {request : Request}
    (hget : request.method ≠ .get) :
    sendParts client none request = do
      let outcome ← sendPartsOnce client none request
      return (outcome.status, outcome.body) := by
  unfold sendParts maxRetryAttempts sendPartsFrom
  simp only [hget, false_and, if_false]

theorem sendParts_refused {client : SdcClient} {request : Request}
    (hget : request.method ≠ .get) {e : SdcError}
    (hcheck : checkRequest client request = .error e) (r : Env) (h : List Event) :
    sendParts client none request r h = (.err e, []) := by
  rw [sendParts_once hget, Run.bind_err (sendPartsOnce_refused hcheck none r h)]

/-- A request that is not a `GET` is sent once. -/
theorem sendParts_admitted {client : SdcClient} {request : Request}
    (hget : request.method ≠ .get) (hcheck : checkRequest client request = .ok ()) (r : Env)
    (h : List Event) :
    sendParts client none request r h =
      ((settleExchange client.maxResponseBytes (r.exchange h request).exchange).andThen
          fun out => .ok (out.status, out.body),
        [.attempt request (r.exchange h request)]) := by
  have honce := sendPartsOnce_admitted hcheck none r h
  rw [Option.any_none, if_neg (by simp)] at honce
  rw [sendParts_once hget]
  cases hx : settleExchange client.maxResponseBytes (r.exchange h request).exchange with
  | ok out =>
      rw [hx] at honce
      rw [Run.bind_ok honce]
      rfl
  | err e =>
      rw [hx] at honce
      rw [Run.bind_err honce]
      rfl
  | dropped =>
      rw [hx] at honce
      rw [Run.bind_dropped honce]
      rfl

omit [Crates] in
theorem andThen_andThen {γ : Type} (o : Outcome SdcError α) (f : α → Except SdcError β)
    (g : β → Except SdcError γ) : (o.andThen f).andThen g = o.andThen fun a => f a >>= g := by
  cases o with
  | ok a =>
      rw [Outcome.andThen_ok, Outcome.andThen_ok]
      cases f a <;> rfl
  | err e => rfl
  | dropped => rfl

theorem sendWrite_refused {client : SdcClient} {method : Method} (hget : method ≠ .get)
    {segments : List String} (body : Option Value) {e : SdcError}
    (hcheck : checkRequest client ⟨method, segments, [], body.map Value.tree⟩ = .error e)
    (r : Env) (h : List Event) :
    sendWrite client method segments body r h = (.err e, []) := by
  unfold sendWrite
  rw [Run.bind_lift, sendParts_refused hget hcheck]
  rfl

/-- **The run of a write.**  It is one attempt and its verdict. -/
theorem sendWrite_admitted {client : SdcClient} {method : Method} (hget : method ≠ .get)
    {segments : List String} (body : Option Value)
    (hcheck : checkRequest client ⟨method, segments, [], body.map Value.tree⟩ = .ok ())
    (r : Env) (h : List Event) :
    sendWrite client method segments body r h =
      (writeVerdict client
          (r.exchange h ⟨method, segments, [], body.map Value.tree⟩).exchange,
        [.attempt ⟨method, segments, [], body.map Value.tree⟩
          (r.exchange h ⟨method, segments, [], body.map Value.tree⟩)]) := by
  unfold sendWrite
  rw [Run.bind_lift, sendParts_admitted hget hcheck]
  simp only [andThen_andThen]
  rfl

/-- The checks between a call and its request. -/
def WriteCall.admits (client : SdcClient) (call : WriteCall) : Except SdcError Unit := do
  call.validate
  checkRequest client call.request

theorem WriteCall.run_refused {client : SdcClient} {call : WriteCall} (hget : call.method ≠ .get)
    {e : SdcError} (hadmits : call.admits client = .error e) (r : Env) (h : List Event) :
    call.run client r h = (.err e, []) := by
  unfold WriteCall.run
  rcases Except.bind_eq_error_iff.mp hadmits with hvalid | ⟨u, hvalid, hcheck⟩
  · rw [hvalid, Run.lift_error_bind]
  · rw [hvalid, Run.lift_ok_bind]
    exact sendWrite_refused hget call.body hcheck r h

theorem WriteCall.run_admitted {client : SdcClient} {call : WriteCall}
    (hget : call.method ≠ .get) (hadmits : call.admits client = .ok ()) (r : Env)
    (h : List Event) :
    call.run client r h =
      (writeVerdict client (r.exchange h call.request).exchange,
        [.attempt call.request (r.exchange h call.request)]) := by
  obtain ⟨u, hvalid, hcheck⟩ := Except.bind_eq_ok_iff.mp hadmits
  unfold WriteCall.run
  rw [hvalid, Run.lift_ok_bind]
  exact sendWrite_admitted hget call.body hcheck r h

/-! ### Reads -/

/-- An answer that makes a read try again. -/
def Retries (client : SdcClient) (x : Exchange) : Prop :=
  ∃ out, settleExchange client.maxResponseBytes x = .ok out ∧
    (out.status = 429 ∨ out.status = 503)

/-- The request that an event starts. -/
def Event.request : Event → Option Request
  | .attempt q _ => some q
  | .abandoned q _ => some q
  | _ => none

/-- An event after which a run goes on. -/
def Passes (passes : Exchange → Prop) (request : Request) : Event → Prop
  | .attempt q a => q = request ∧ passes a.exchange
  | .paused _ .elapsed => True
  | _ => False

/-- How a run of reads ends, by the last thing that happened in it. -/
inductive Ends (verdict : Exchange → Outcome SdcError α) (request : Request) :
    Event → Outcome SdcError α → Prop where
  | answer (a : Attempt) : Ends verdict request (.attempt request a) (verdict a.exchange)
  | abandoned (ms : Nat) : Ends verdict request (.abandoned request ms) (.err .jobDeadline)
  | expired (ms : Nat) : Ends verdict request (.paused ms .expired) (.err .jobDeadline)
  | cancelled (ms : Nat) : Ends verdict request (.paused ms .cancelled) (.err .cancelled)
  | dropped (ms : Nat) : Ends verdict request (.paused ms .dropped) .dropped

/-- A run of reads of one request: events it passes, and one that ends it. -/
def Reading (verdict : Exchange → Outcome SdcError α) (passes : Exchange → Prop)
    (request : Request) (t : List Event) (o : Outcome SdcError α) : Prop :=
  ∃ before last, t = before ++ [last] ∧ (∀ e ∈ before, Passes passes request e) ∧
    Ends verdict request last o

section Reading

variable {v : Exchange → Outcome SdcError α} {passes : Exchange → Prop} {request : Request}
  {t : List Event} {o : Outcome SdcError α}

omit [Crates]

theorem Reading.single {last : Event} (hlast : Ends v request last o) :
    Reading v passes request [last] o :=
  ⟨[], last, rfl, by simp, hlast⟩

theorem Reading.prepend {before : List Event} (hb : ∀ e ∈ before, Passes passes request e)
    (hr : Reading v passes request t o) : Reading v passes request (before ++ t) o := by
  obtain ⟨mid, last, rfl, hmid, hlast⟩ := hr
  refine ⟨before ++ mid, last, by rw [List.append_assoc], ?_, hlast⟩
  intro e he
  rcases List.mem_append.mp he with h1 | h1
  · exact hb e h1
  · exact hmid e h1

theorem Reading.cons {e : Event} (he : Passes passes request e)
    (hr : Reading v passes request t o) : Reading v passes request (e :: t) o :=
  Reading.prepend (fun f hf => by rwa [List.mem_singleton.mp hf]) hr

theorem Passes.imp {passes' : Exchange → Prop} (hp : ∀ x, passes x → passes' x) {e : Event}
    (he : Passes passes request e) : Passes passes' request e := by
  unfold Passes at he ⊢
  split at he
  · exact ⟨he.1, hp _ he.2⟩
  · trivial
  · exact he

theorem Reading.weaken {passes' : Exchange → Prop} (hp : ∀ x, passes x → passes' x)
    (hr : Reading v passes request t o) : Reading v passes' request t o := by
  obtain ⟨before, last, rfl, hb, hlast⟩ := hr
  exact ⟨before, last, rfl, fun e he => (hb e he).imp hp, hlast⟩

theorem Ends.andThen {last : Event} (f : α → Except SdcError β) (h : Ends v request last o) :
    Ends (fun x => (v x).andThen f) request last (o.andThen f) := by
  cases h with
  | answer a =>
      have hanswer : Ends (fun x => (v x).andThen f) request (.attempt request a)
          ((fun x => (v x).andThen f) a.exchange) := Ends.answer a
      exact hanswer
  | abandoned ms => exact Ends.abandoned ms
  | expired ms => exact Ends.expired ms
  | cancelled ms => exact Ends.cancelled ms
  | dropped ms => exact Ends.dropped ms

theorem Reading.andThen (f : α → Except SdcError β) (hr : Reading v passes request t o) :
    Reading (fun x => (v x).andThen f) passes request t (o.andThen f) := by
  obtain ⟨before, last, rfl, hb, hlast⟩ := hr
  exact ⟨before, last, rfl, hb, hlast.andThen f⟩

/-- A run of reads that got a value passed everything before the answer that held it. -/
theorem Reading.passes_ok {a : α} (hr : Reading v passes request t (.ok a)) :
    ∀ e ∈ t, Passes (fun x => passes x ∨ v x = .ok a) request e := by
  obtain ⟨before, last, rfl, hb, hlast⟩ := hr
  intro e he
  rcases List.mem_append.mp he with h1 | h1
  · exact (hb e h1).imp fun _ => Or.inl
  · rw [List.mem_singleton] at h1
    subst h1
    generalize ho : (Outcome.ok a : Outcome SdcError α) = o at hlast
    cases hlast with
    | answer b => exact ⟨rfl, Or.inr rfl⟩
    | abandoned ms => cases ho
    | expired ms => cases ho
    | cancelled ms => cases ho
    | dropped ms => cases ho

/-- A run of reads that got a value was answered with it. -/
theorem Reading.answered {a : α} (hr : Reading v passes request t (.ok a)) :
    ∃ b, .attempt request b ∈ t ∧ v b.exchange = .ok a := by
  obtain ⟨before, last, rfl, -, hlast⟩ := hr
  generalize ho : (Outcome.ok a : Outcome SdcError α) = o at hlast
  cases hlast with
  | answer b => exact ⟨b, by simp, rfl⟩
  | abandoned ms => cases ho
  | expired ms => cases ho
  | cancelled ms => cases ho
  | dropped ms => cases ho

/-- A run of reads starts its request and no other. -/
theorem Reading.requests (hr : Reading v passes request t o) {e : Event} (he : e ∈ t)
    {q : Request} (hq : e.request = some q) : q = request := by
  obtain ⟨before, last, rfl, hbefore, hlast⟩ := hr
  rcases List.mem_append.mp he with hm | hm
  · have hpasses := hbefore e hm
    cases e with
    | attempt q' a =>
        cases hq
        exact hpasses.1
    | paused ms ending => cases hq
    | abandoned q' ms => exact hpasses.elim
    | markRefused b => exact hpasses.elim
    | discarded op => exact hpasses.elim
  · rw [List.mem_singleton] at hm
    subst hm
    cases hlast <;> cases hq <;> rfl

end Reading

/-! ### Pauses -/

/-- How a pause that ended so continues. -/
def pauseOutcome : PauseEnd → Outcome SdcError Unit
  | .elapsed => .ok ()
  | .expired => .err .jobDeadline
  | .cancelled => .err .cancelled
  | .dropped => .dropped

omit [Crates] in
/-- A pause is one event.  One that ran its length ends by the deadline it raced. -/
theorem pause_cases (race : Option Nat) (ms : Nat) (r : Env) (h : List Event) :
    ∃ elapsed ending, pause race ms r h = (pauseOutcome ending, [.paused elapsed ending]) ∧
      (ending = .elapsed → ms ≤ elapsed ∧ ∀ d, race = some d → clock h + elapsed ≤ d) := by
  unfold pause
  rw [Run.ask_bind, Run.ask_bind]
  rcases hp : pauseEnd ms (r.pause h) with ⟨elapsed, ending⟩
  simp only []
  by_cases hrace : race.any (· < clock h + elapsed) = true
  · rw [if_pos hrace, Run.emit_bind]
    exact ⟨_, .expired, rfl, by intro hc; cases hc⟩
  · rw [if_neg hrace, Run.emit_bind]
    refine ⟨elapsed, ending, ?_, ?_⟩
    · cases ending <;> rfl
    · intro he
      refine ⟨?_, ?_⟩
      · subst he
        cases hr : r.pause h with
        | elapses late =>
            rw [hr] at hp
            simp only [pauseEnd, Prod.mk.injEq] at hp
            omega
        | cancelled after =>
            rw [hr] at hp
            simp [pauseEnd] at hp
        | dropped after =>
            rw [hr] at hp
            simp [pauseEnd] at hp
      · intro d hd
        subst hd
        simpa using hrace

omit [Crates] in
/-- A pause ends its run, or it ran its length and what follows decides. -/
theorem pause_bind_cases (v : Exchange → Outcome SdcError α) (request : Request)
    (race : Option Nat) (ms : Nat) (rest : Unit → Io α) (r : Env) (h : List Event) :
    (∃ last o, (pause race ms >>= rest) r h = (o, [last]) ∧ Ends v request last o ∧
      ∀ a, o ≠ .ok a) ∨
    ∃ elapsed, ms ≤ elapsed ∧ (∀ d, race = some d → clock h + elapsed ≤ d) ∧
      (pause race ms >>= rest) r h =
        ((rest () r (h ++ [.paused elapsed .elapsed])).1,
          .paused elapsed .elapsed :: (rest () r (h ++ [.paused elapsed .elapsed])).2) := by
  obtain ⟨elapsed, ending, hpause, htime⟩ := pause_cases race ms r h
  cases ending with
  | elapsed => exact Or.inr ⟨elapsed, (htime rfl).1, (htime rfl).2, Run.bind_ok hpause⟩
  | expired => exact Or.inl ⟨_, _, Run.bind_err hpause, Ends.expired _, nofun⟩
  | cancelled => exact Or.inl ⟨_, _, Run.bind_err hpause, Ends.cancelled _, nofun⟩
  | dropped => exact Or.inl ⟨_, _, Run.bind_dropped hpause, Ends.dropped _, nofun⟩

/-! ### One round of the loop -/

section Rounds

variable {client : SdcClient} {race : Option Nat} {request : Request} {attempt remaining : Nat}
  {r : Env} {h t : List Event}

theorem sendPartsFrom_err {e : SdcError}
    (honce : sendPartsOnce client race request r h = (.err e, t)) :
    sendPartsFrom client race request attempt remaining r h = (.err e, t) := by
  cases remaining <;> exact Run.bind_err honce

theorem sendPartsFrom_dropped (honce : sendPartsOnce client race request r h = (.dropped, t)) :
    sendPartsFrom client race request attempt remaining r h = (.dropped, t) := by
  cases remaining <;> exact Run.bind_dropped honce

theorem sendPartsFrom_last {outcome : SendOutcome}
    (honce : sendPartsOnce client race request r h = (.ok outcome, t)) :
    sendPartsFrom client race request attempt 0 r h
      = (.ok (outcome.status, outcome.body), t) := by
  refine (Run.bind_ok honce).trans ?_
  rw [Run.pure_apply, List.append_nil]

theorem sendPartsFrom_final {outcome : SendOutcome}
    (honce : sendPartsOnce client race request r h = (.ok outcome, t))
    (hfinal : ¬ (request.method = .get ∧ (outcome.status = 429 ∨ outcome.status = 503))) :
    sendPartsFrom client race request attempt (remaining + 1) r h
      = (.ok (outcome.status, outcome.body), t) := by
  refine (Run.bind_ok honce).trans ?_
  rw [if_neg hfinal, Run.pure_apply, List.append_nil]

theorem sendPartsFrom_again {outcome : SendOutcome}
    (honce : sendPartsOnce client race request r h = (.ok outcome, t))
    (hagain : request.method = .get ∧ (outcome.status = 429 ∨ outcome.status = 503)) :
    sendPartsFrom client race request attempt (remaining + 1) r h
      = (((do
          let nanos ← Run.ask fun env history => env.jitterNanos history
          pause race (retryDelay outcome.retryAfter attempt nanos)
          sendPartsFrom client race request (attempt + 1) remaining :
            Io (Nat × Except SdcError (List UInt8))) r (h ++ t)).1,
        t ++ ((do
          let nanos ← Run.ask fun env history => env.jitterNanos history
          pause race (retryDelay outcome.retryAfter attempt nanos)
          sendPartsFrom client race request (attempt + 1) remaining :
            Io (Nat × Except SdcError (List UInt8))) r (h ++ t)).2) := by
  refine (Run.bind_ok honce).trans ?_
  rw [if_pos hagain]

omit [Crates] in
theorem pause_apply (race : Option Nat) (ms : Nat) (r : Env) (h : List Event) : pause race ms r h
    = if race.any (· < clock h + (pauseEnd ms (r.pause h)).1) then
        (.err .jobDeadline, [.paused (race.getD 0 - clock h) .expired])
      else (pauseOutcome (pauseEnd ms (r.pause h)).2,
        [.paused (pauseEnd ms (r.pause h)).1 (pauseEnd ms (r.pause h)).2]) := by
  unfold pause
  rw [Run.ask_bind, Run.ask_bind]
  rcases pauseEnd ms (r.pause h) with ⟨elapsed, ending⟩
  dsimp only
  split
  · rw [Run.emit_bind]
    rfl
  · rw [Run.emit_bind]
    cases ending <;> rfl

end Rounds

/-! ### The retry loop -/

private def parts (out : SendOutcome) : Except SdcError (Nat × Except SdcError (List UInt8)) :=
  .ok (out.status, out.body)

private theorem reading_once {client : SdcClient} {request : Request} {race : Option Nat}
    (hcheck : checkRequest client request = .ok ()) (r : Env) (h : List Event)
    (passes : Exchange → Prop) :
    Reading (settleExchange client.maxResponseBytes) passes request
      (sendPartsOnce client race request r h).2 (sendPartsOnce client race request r h).1 := by
  rw [sendPartsOnce_admitted hcheck]
  split
  · exact Reading.single (Ends.abandoned _)
  · exact Reading.single (Ends.answer _)

private theorem reading_last {client : SdcClient} {request : Request} (race : Option Nat)
    (hcheck : checkRequest client request = .ok ()) (r : Env) (h : List Event)
    (passes : Exchange → Prop) :
    Reading (fun x => (settleExchange client.maxResponseBytes x).andThen parts) passes request
      ((sendPartsOnce client race request >>= fun out => Run.lift (parts out)) r h).2
      ((sendPartsOnce client race request >>= fun out => Run.lift (parts out)) r h).1 := by
  rw [Run.bind_lift]
  exact (reading_once hcheck r h passes).andThen parts

theorem reading_sendPartsFrom {client : SdcClient} {request : Request} (race : Option Nat)
    (hcheck : checkRequest client request = .ok ()) (remaining : Nat) :
    ∀ (attempt : Nat) (r : Env) (h : List Event),
      Reading (fun x => (settleExchange client.maxResponseBytes x).andThen parts)
        (Retries client) request
        (sendPartsFrom client race request attempt remaining r h).2
        (sendPartsFrom client race request attempt remaining r h).1 := by
  induction remaining with
  | zero =>
      intro attempt r h
      exact reading_last race hcheck r h (Retries client)
  | succ remaining ih =>
      intro attempt r h
      have honce := sendPartsOnce_admitted hcheck race r h
      have hlast := reading_last race hcheck r h (Retries client)
      unfold sendPartsFrom
      by_cases hrace : race.any (· < clock h + (r.exchange h request).elapsed) = true
      · rw [if_pos hrace] at honce
        rw [Run.bind_err honce] at hlast ⊢
        exact hlast
      · rw [if_neg hrace] at honce
        cases hx : settleExchange client.maxResponseBytes (r.exchange h request).exchange with
        | err e =>
            rw [hx] at honce
            rw [Run.bind_err honce] at hlast ⊢
            exact hlast
        | dropped =>
            rw [hx] at honce
            rw [Run.bind_dropped honce] at hlast ⊢
            exact hlast
        | ok out =>
            rw [hx] at honce
            rw [Run.bind_ok honce] at hlast ⊢
            by_cases hretry : request.method = .get ∧ (out.status = 429 ∨ out.status = 503)
            · -- The attempt is passed; what follows is the pause and the rest of the loop.
              rw [if_pos hretry, Run.ask_bind]
              refine Reading.cons ⟨rfl, out, hx, hretry.2⟩ ?_
              rcases pause_bind_cases _ request race _ _ r
                (h ++ [.attempt request (r.exchange h request)])
                with ⟨last, o, heq, hend, -⟩ | ⟨elapsed, -, -, heq⟩
              · rw [heq]
                exact Reading.single hend
              · rw [heq]
                exact Reading.cons trivial (ih _ _ _)
            · rw [if_neg hretry]
              exact hlast

/-! ### Typed reads -/

/-- **The run of a read.**  It is refused locally, or it is a run of attempts at its request. -/
theorem get_reading {client : SdcClient} {race : Option Nat} {decode : Json → Option α}
    {segments : List String} {query : List (String × String)}
    (hcheck : checkRequest client ⟨.get, segments, query, none⟩ = .ok ()) (r : Env)
    (h : List Event) :
    Reading (readVerdict client decode) (Retries client) ⟨.get, segments, query, none⟩
      (get client race decode segments query r h).2
      (get client race decode segments query r h).1 := by
  have hparts := reading_sendPartsFrom race hcheck maxRetryAttempts 0 r h
  have hraw := (hparts.andThen judgeRaw).andThen (parse decode)
  unfold get send sendRaw
  rw [Run.bind_lift, Run.bind_lift]
  refine cast ?_ hraw
  congr 1
  funext x
  rw [andThen_andThen, andThen_andThen]
  rfl

/-- An answer that holds a value is final. -/
theorem readVerdict_final {client : SdcClient} {decode : Json → Option α} {x : Exchange} {a : α}
    (h : readVerdict client decode x = .ok a) :
    ∃ out, settleExchange client.maxResponseBytes x = .ok out ∧
      ¬ (out.status = 429 ∨ out.status = 503) ∧
      (judgeRaw (out.status, out.body) >>= parse decode) = .ok a := by
  unfold readVerdict verdict at h
  cases hsettle : settleExchange client.maxResponseBytes x with
  | err e =>
      rw [hsettle] at h
      cases h
  | dropped =>
      rw [hsettle] at h
      cases h
  | ok out =>
      rw [hsettle, Outcome.andThen_ok] at h
      dsimp only at h
      have hjudge : (judgeRaw (out.status, out.body) >>= parse decode) = .ok a := by
        cases hparse : judgeRaw (out.status, out.body) >>= parse decode with
        | error e =>
            rw [hparse] at h
            cases h
        | ok b =>
            rw [hparse] at h
            cases h
            rfl
      refine ⟨out, rfl, ?_, hjudge⟩
      rintro (hstatus | hstatus) <;> rw [hstatus] at hjudge <;> cases hbody : out.body <;>
        rw [hbody] at hjudge <;> cases hjudge

/-- A read whose first answer holds a value takes it, if a deadline it races is not hit. -/
theorem get_first {client : SdcClient} {race : Option Nat} {decode : Json → Option α}
    {segments : List String} {query : List (String × String)} {a : α}
    (hcheck : checkRequest client ⟨.get, segments, query, none⟩ = .ok ()) {r : Env}
    {h : List Event} (hrace : race.any (· < clock h
      + (r.exchange h ⟨.get, segments, query, none⟩).elapsed) = false)
    (hverdict : readVerdict client decode (r.exchange h ⟨.get, segments, query, none⟩).exchange
      = .ok a) :
    get client race decode segments query r h =
      (.ok a, [.attempt ⟨.get, segments, query, none⟩
        (r.exchange h ⟨.get, segments, query, none⟩)]) := by
  obtain ⟨out, hsettle, hfinal, hjudge⟩ := readVerdict_final hverdict
  have honce := sendPartsOnce_admitted hcheck race r h
  rw [hrace, if_neg (by simp), hsettle] at honce
  have hparts : sendParts client race ⟨.get, segments, query, none⟩ r h
      = (.ok (out.status, out.body), _) :=
    sendPartsFrom_final honce fun hagain => hfinal hagain.2
  unfold get send sendRaw
  rw [Run.bind_lift, Run.bind_lift, hparts, andThen_andThen, Outcome.andThen_ok, hjudge]
  rfl

theorem get_refused {client : SdcClient} {race : Option Nat} {decode : Json → Option α}
    {segments : List String} {query : List (String × String)} {e : SdcError}
    (hcheck : checkRequest client ⟨.get, segments, query, none⟩ = .error e) (r : Env)
    (h : List Event) : get client race decode segments query r h = (.err e, []) := by
  have hparts : sendParts client race ⟨.get, segments, query, none⟩ r h = (.err e, []) := by
    unfold sendParts maxRetryAttempts sendPartsFrom
    exact Run.bind_err (sendPartsOnce_refused hcheck race r h)
  unfold get send sendRaw
  rw [Run.bind_lift, Run.bind_lift, hparts]
  rfl

/-- A read starts its request and no other. -/
theorem get_requests {client : SdcClient} {segments : List String} {query : List (String × String)}
    (race : Option Nat) (decode : Json → Option α) :
    (get client race decode segments query).Emits fun e =>
      ∀ q, e.request = some q → q = ⟨.get, segments, query, none⟩ := by
  intro r h e he q hq
  cases hcheck : checkRequest client ⟨.get, segments, query, none⟩ with
  | error e' =>
      rw [get_refused hcheck] at he
      cases he
  | ok u => exact (get_reading hcheck r h).requests he hq

/-- A read that got a value was answered with it, and sent no other request. -/
theorem get_answered {client : SdcClient} {race : Option Nat} {decode : Json → Option α}
    {segments : List String} {query : List (String × String)} {r : Env} {h t : List Event} {a : α}
    (hrun : get client race decode segments query r h = (.ok a, t)) :
    (∃ b, .attempt ⟨.get, segments, query, none⟩ b ∈ t ∧
      readVerdict client decode b.exchange = .ok a) ∧
    ∀ q b, .attempt q b ∈ t → q = ⟨.get, segments, query, none⟩ := by
  cases hcheck : checkRequest client ⟨.get, segments, query, none⟩ with
  | error e =>
      rw [get_refused hcheck] at hrun
      cases hrun
  | ok u =>
      have hreading := (get_reading hcheck r h :
        Reading (readVerdict client decode) (Retries client) _
          (get client race decode segments query r h).2
          (get client race decode segments query r h).1)
      rw [hrun] at hreading
      exact ⟨hreading.answered, fun q b hmem => hreading.requests hmem rfl⟩

/-- The checks of a read before it sends anything. -/
def readAdmits (client : SdcClient) (atoms : List (String × String)) (request : Request) :
    Except SdcError Unit := do
  validateAtoms atoms
  checkRequest client request

theorem readCall_refused {client : SdcClient} {race : Option Nat} {decode : Json → Option α}
    {atoms query : List (String × String)} {segments : List String} {e : SdcError}
    (hadmits : readAdmits client atoms ⟨.get, segments, query, none⟩ = .error e) (r : Env)
    (h : List Event) :
    readCall client race decode atoms segments query r h = (.err e, []) := by
  unfold readCall
  rcases Except.bind_eq_error_iff.mp hadmits with hatoms | ⟨u, hatoms, hcheck⟩
  · rw [hatoms, Run.lift_error_bind]
  · rw [hatoms, Run.lift_ok_bind]
    exact get_refused hcheck r h

theorem readCall_reading {client : SdcClient} {race : Option Nat} {decode : Json → Option α}
    {atoms query : List (String × String)} {segments : List String}
    (hadmits : readAdmits client atoms ⟨.get, segments, query, none⟩ = .ok ()) (r : Env)
    (h : List Event) :
    Reading (readVerdict client decode) (Retries client) ⟨.get, segments, query, none⟩
      (readCall client race decode atoms segments query r h).2
      (readCall client race decode atoms segments query r h).1 := by
  obtain ⟨u, hatoms, hcheck⟩ := Except.bind_eq_ok_iff.mp hadmits
  unfold readCall
  rw [hatoms, Run.lift_ok_bind]
  exact get_reading hcheck r h

theorem readCall_requests {client : SdcClient} {segments : List String} (race : Option Nat)
    (decode : Json → Option α) (atoms query : List (String × String)) :
    (readCall client race decode atoms segments query).Emits fun e =>
      ∀ q, e.request = some q → q = ⟨.get, segments, query, none⟩ :=
  Run.emits_bind Run.emits_lift fun _ => get_requests race decode

theorem readCall_answered {client : SdcClient} {race : Option Nat} {decode : Json → Option α}
    {atoms query : List (String × String)} {segments : List String} {r : Env} {h t : List Event}
    {a : α} (hrun : readCall client race decode atoms segments query r h = (.ok a, t)) :
    ∃ b, .attempt ⟨.get, segments, query, none⟩ b ∈ t ∧
      readVerdict client decode b.exchange = .ok a := by
  obtain ⟨u, -, hget⟩ := Run.lift_bind_eq_ok hrun
  exact (get_answered hget).1

end SdcMcp
