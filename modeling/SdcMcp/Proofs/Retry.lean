/-
How often a request is sent.

`Sending` is the retry loop as the events it leaves: attempts at one request, each but
the last answered with a status that asks for a retry and followed by a pause that ran
its length.  A run that is not refused locally is such a list, and the bounds are read
off it.  The delay before a retry is computed once more in the arithmetic of the source,
where it neither panics nor leaves its range.
-/
import SdcMcp.Proofs.Send

namespace SdcMcp

open Interactive Chrono

/-! ### The delay in machine arithmetic -/

private theorem checkedShl_toNat {attempt : UInt32} (h : attempt.toNat < 32) :
    (checkedShl attempt).getD 4294967295 = 1 <<< attempt ∧
      (1 <<< attempt : UInt32).toNat = 2 ^ attempt.toNat := by
  have hlt : attempt < 32 := UInt32.lt_iff_toNat_lt.mpr h
  have hpow : 2 ^ attempt.toNat < 2 ^ 32 := Nat.pow_lt_pow_right (by decide) h
  refine ⟨?_, ?_⟩
  · unfold checkedShl
    rw [if_pos hlt]
    rfl
  · rw [UInt32.toNat_shiftLeft, Nat.mod_eq_of_lt h, UInt32.toNat_one, Nat.shiftLeft_eq,
      Nat.one_mul, Nat.mod_eq_of_lt hpow]

/-- The growing delay, which saturates far above the cap. -/
private theorem backoff_capped (attempt : UInt32) :
    min ((Duration.fromMillis 500).saturatingMul ((checkedShl attempt).getD 4294967295)).nanos
        30000000000
      = min (500 * 2 ^ attempt.toNat) 30000 * 1000000 := by
  rw [Duration.saturatingMul_nanos, Duration.fromMillis_nanos]
  have hbase : (500 : UInt64).toNat = 500 := rfl
  rw [hbase]
  by_cases h : attempt.toNat < 32
  · obtain ⟨hshift, hpow⟩ := checkedShl_toNat h
    rw [hshift, hpow]
    unfold nanosLimit
    omega
  · -- From attempt 32 on the shift has no result and the delay is far above the cap either way.
    have hnone : checkedShl attempt = none := by
      unfold checkedShl
      rw [if_neg]
      intro hlt
      exact h (UInt32.lt_iff_toNat_lt.mp hlt)
    have hmax : (4294967295 : UInt32).toNat = 4294967295 := rfl
    have hpow : 2 ^ 32 ≤ 2 ^ attempt.toNat := Nat.pow_le_pow_right (by decide) (by omega)
    rw [hnone, Option.getD_none, hmax]
    unfold nanosLimit
    omega

/-- The capped delay, in whole milliseconds. -/
private theorem capped_nanos (retryAfter : Option UInt64) (attempt : UInt32) :
    (((retryAfter.map Duration.fromSecs).getD
        ((Duration.fromMillis 500).saturatingMul ((checkedShl attempt).getD 4294967295))).min
      (Duration.fromSecs 30)).nanos
      = min (match retryAfter.map UInt64.toNat with
          | some seconds => 1000 * seconds
          | none => 500 * 2 ^ attempt.toNat) 30000 * 1000000 := by
  have hcap : (30 : UInt64).toNat = 30 := rfl
  rw [Duration.min_nanos, Duration.fromSecs_nanos, hcap]
  cases retryAfter with
  | none => exact backoff_capped attempt
  | some secs =>
      rw [Option.map_some, Option.getD_some, Duration.fromSecs_nanos, Option.map_some]
      show min (secs.toNat * 1000000000) 30000000000 = min (1000 * secs.toNat) 30000 * 1000000
      omega

/-- A quarter of a capped delay fits 64 bits. -/
private theorem jitterBoundMs_toNat {capped : Duration} {ms : Nat}
    (hcapped : capped.nanos = ms * 1000000) (hms : ms ≤ 30000) :
    (jitterBoundMs capped).toNat = max (ms / 4) 1 := by
  have hmillis : capped.asMillis = ms := by
    unfold Duration.asMillis
    omega
  have hquarter : ms / 4 < 2 ^ 64 := by omega
  have hof : (UInt64.ofNat (ms / 4)).toNat = ms / 4 := UInt64.toNat_ofNat_of_lt hquarter
  have hone : (1 : UInt64).toNat = 1 := rfl
  simp only [jitterBoundMs, hmillis, if_pos hquarter]
  by_cases hlt : UInt64.ofNat (ms / 4) < 1
  · have hnat := UInt64.lt_iff_toNat_lt.mp hlt
    rw [if_pos hlt, hone]
    omega
  · have hnat : ¬ (UInt64.ofNat (ms / 4)).toNat < 1 := fun h => hlt (UInt64.lt_iff_toNat_lt.mpr h)
    rw [if_neg hlt, hof]
    omega

/-- A remainder by a bound that is not zero has a value. -/
private theorem bind_mod {α : Type} {bound : UInt64} (hne : bound ≠ 0) (nanos : UInt64)
    (f : UInt64 → Option α) :
    (do
      let jitterMs ← if bound = 0 then none else some (nanos % bound)
      f jitterMs) = f (nanos % bound) := by
  simp only [if_neg hne]
  rfl

/-- Adding the jitter to a capped delay neither divides by zero nor overflows. -/
private theorem jittered_eq {capped : Duration} {ms : Nat}
    (hcapped : capped.nanos = ms * 1000000) (hms : ms ≤ 30000) (nanos : UInt64) :
    ∃ d, (do
      let jitterMs ← if jitterBoundMs capped = 0 then none else some (nanos % jitterBoundMs capped)
      capped.checkedAdd (Duration.fromMillis jitterMs)) = some d ∧
      d.nanos = (ms + nanos.toNat % max (ms / 4) 1) * 1000000 := by
  have hbound := jitterBoundMs_toNat hcapped hms
  have hne : jitterBoundMs capped ≠ 0 := by
    intro hzero
    rw [hzero] at hbound
    have hnat : (0 : UInt64).toNat = 0 := rfl
    omega
  have hmod : (nanos % jitterBoundMs capped).toNat = nanos.toNat % max (ms / 4) 1 := by
    rw [UInt64.toNat_mod, hbound]
  have hsmall : nanos.toNat % max (ms / 4) 1 < max (ms / 4) 1 := Nat.mod_lt _ (by omega)
  have hfits : capped.nanos + (Duration.fromMillis (nanos % jitterBoundMs capped)).nanos
      < nanosLimit := by
    rw [Duration.fromMillis_nanos, hmod, hcapped]
    unfold nanosLimit
    omega
  obtain ⟨d, hsum, hnanos⟩ := Duration.checkedAdd_of_lt hfits
  refine ⟨d, ?_, ?_⟩
  · rw [bind_mod hne nanos fun jitterMs => capped.checkedAdd (Duration.fromMillis jitterMs)]
    exact hsum
  · rw [hnanos, Duration.fromMillis_nanos, hmod, hcapped, Nat.add_mul]

/-- **The delay before a retry is computed without a panic**: nothing overflows and nothing is
divided by zero, and it is the delay of the model. -/
theorem retryDelayMachine_eq (retryAfter : Option UInt64) (attempt : UInt32) (nanos : UInt64) :
    ∃ d, retryDelayMachine (retryAfter.map Duration.fromSecs) attempt nanos = some d ∧
      d.nanos = retryDelay (retryAfter.map UInt64.toNat) attempt.toNat nanos.toNat * 1000000 :=
  jittered_eq (capped_nanos retryAfter attempt) (Nat.min_le_right _ _) nanos

/-- No delay reaches 37.5 seconds. -/
theorem retryDelay_lt (retryAfter : Option Nat) (attempt nanos : Nat) :
    retryDelay retryAfter attempt nanos < 37500 := by
  have hcapped : ∀ base, min base 30000 + nanos % max (min base 30000 / 4) 1 < 37500 := by
    intro base
    have hmod := Nat.mod_lt nanos (show 0 < max (min base 30000 / 4) 1 by omega)
    omega
  exact hcapped _

/-! ### The loop as its events -/

/-- The attempts among some events, one that the deadline of a poll cut off included. -/
def tries (t : List Event) : Nat :=
  (t.filter fun
    | .attempt _ _ => true
    | .abandoned _ _ => true
    | _ => false).length

@[simp] theorem tries_nil : tries [] = 0 := rfl

@[simp] theorem tries_attempt (q : Request) (a : Attempt) (t : List Event) :
    tries (.attempt q a :: t) = tries t + 1 := rfl

@[simp] theorem tries_abandoned (q : Request) (ms : Nat) (t : List Event) :
    tries (.abandoned q ms :: t) = tries t + 1 := rfl

@[simp] theorem tries_paused (ms : Nat) (ending : PauseEnd) (t : List Event) :
    tries (.paused ms ending :: t) = tries t := rfl

theorem tries_append (t u : List Event) : tries (t ++ u) = tries t + tries u := by
  unfold tries
  rw [List.filter_append, List.length_append]

/-- What the loop hands on of an attempt: the status, and the body or why it was not read. -/
def handed (client : SdcClient) (a : Attempt) :
    Outcome SdcError (Nat × Except SdcError (List UInt8)) :=
  (settleExchange client.maxResponseBytes a.exchange).andThen fun out => .ok (out.status, out.body)

theorem handed_of_settled {client : SdcClient} {a : Attempt} {o : Outcome SdcError SendOutcome}
    (hx : settleExchange client.maxResponseBytes a.exchange = o) :
    handed client a = o.andThen fun out => .ok (out.status, out.body) := by
  unfold handed
  rw [hx]

/-- The poll whose deadline is `race` would be over before the attempt is. -/
def Raced (race : Option Nat) (h : List Event) (a : Attempt) : Prop :=
  race.any (· < clock h + a.elapsed) = true

/-- How long the loop means to pause after attempt `number`. -/
def pauseFor (request : Request) (r : Env) (h : List Event) (out : SendOutcome) (number : Nat) :
    Nat :=
  retryDelay out.retryAfter number (r.jitterNanos (h ++ [.attempt request (r.exchange h request)]))

/-- A run of the loop from attempt `number` on, with so many more attempts allowed after it. -/
inductive Sending (client : SdcClient) (race : Option Nat) (request : Request) (r : Env) :
    Nat → Nat → List Event → List Event →
    Outcome SdcError (Nat × Except SdcError (List UInt8)) → Prop where
  /-- The deadline of a poll cut the attempt off. -/
  | abandoned {number remaining : Nat} {h : List Event}
      (hraced : Raced race h (r.exchange h request)) :
      Sending client race request r number remaining h
        [.abandoned request (race.getD 0 - clock h)] (.err .jobDeadline)
  /-- The attempt asked for no retry, or was the last one allowed. -/
  | last {number remaining : Nat} {h : List Event} (hmade : ¬ Raced race h (r.exchange h request))
      (hlast : request.method = .get → Retries client (r.exchange h request).exchange →
        remaining = 0) :
      Sending client race request r number remaining h [.attempt request (r.exchange h request)]
        (handed client (r.exchange h request))
  /-- The attempt asked for a retry, and the pause before it was cut off. -/
  | cut {number remaining ms : Nat} {h : List Event} {out : SendOutcome} {ending : PauseEnd}
      {o : Outcome SdcError (Nat × Except SdcError (List UInt8))}
      (hmade : ¬ Raced race h (r.exchange h request)) (hget : request.method = .get)
      (hout : settleExchange client.maxResponseBytes (r.exchange h request).exchange = .ok out)
      (hstatus : out.status = 429 ∨ out.status = 503)
      (hpause : pause race (pauseFor request r h out number) r
        (h ++ [.attempt request (r.exchange h request)])
          = (pauseOutcome ending, [.paused ms ending]))
      (hcut : ending ≠ .elapsed) (ho : o = (pauseOutcome ending).bimap id fun _ => (0, .ok [])) :
      Sending client race request r number (remaining + 1) h
        [.attempt request (r.exchange h request), .paused ms ending] o
  /-- The attempt asked for a retry, and after a pause there was one. -/
  | again {number remaining ms : Nat} {h t : List Event} {out : SendOutcome}
      {o : Outcome SdcError (Nat × Except SdcError (List UInt8))}
      (hmade : ¬ Raced race h (r.exchange h request)) (hget : request.method = .get)
      (hout : settleExchange client.maxResponseBytes (r.exchange h request).exchange = .ok out)
      (hstatus : out.status = 429 ∨ out.status = 503)
      (hpause : pause race (pauseFor request r h out number) r
        (h ++ [.attempt request (r.exchange h request)])
          = (.ok (), [.paused ms .elapsed]))
      (hrest : Sending client race request r (number + 1) remaining
        (h ++ [.attempt request (r.exchange h request)] ++ [.paused ms .elapsed]) t o) :
      Sending client race request r number (remaining + 1) h
        (.attempt request (r.exchange h request) :: .paused ms .elapsed :: t) o

/-- An attempt that got no answer asks for no retry. -/
theorem Sending.noAnswer {client : SdcClient} {race : Option Nat} {request : Request} {r : Env}
    {number remaining : Nat} {h : List Event} (hmade : ¬ Raced race h (r.exchange h request))
    (hx : ∀ out, settleExchange client.maxResponseBytes (r.exchange h request).exchange ≠ .ok out) :
    Sending client race request r number remaining h [.attempt request (r.exchange h request)]
      (handed client (r.exchange h request)) := by
  refine .last hmade ?_
  rintro - ⟨out, hout, -⟩
  exact absurd hout (hx out)

section Loop

variable [Crates]

/-- An attempt after which the loop stops. -/
private theorem sendPartsOnce_handed {client : SdcClient} {request : Request} {race : Option Nat}
    {r : Env} {h : List Event}
    (honce : sendPartsOnce client race request r h =
      (settleExchange client.maxResponseBytes (r.exchange h request).exchange,
        [.attempt request (r.exchange h request)])) :
    (do
      let outcome ← sendPartsOnce client race request
      return (outcome.status, outcome.body)) r h
      = (handed client (r.exchange h request), [.attempt request (r.exchange h request)]) := by
  unfold handed
  cases hx : settleExchange client.maxResponseBytes (r.exchange h request).exchange with
  | err e =>
      rw [hx] at honce
      exact Run.bind_err honce
  | dropped =>
      rw [hx] at honce
      exact Run.bind_dropped honce
  | ok out =>
      rw [hx] at honce
      rw [Run.bind_ok honce]
      rfl

/-- **A run of the loop is such a list of events.** -/
theorem sending_sendPartsFrom {client : SdcClient} {request : Request} (race : Option Nat)
    (hcheck : checkRequest client request = .ok ()) (remaining : Nat) :
    ∀ (number : Nat) (r : Env) (h : List Event),
      Sending client race request r number remaining h
        (sendPartsFrom client race request number remaining r h).2
        (sendPartsFrom client race request number remaining r h).1 := by
  induction remaining with
  | zero =>
      intro number r h
      have honce := sendPartsOnce_admitted hcheck race r h
      unfold sendPartsFrom
      by_cases hrace : race.any (· < clock h + (r.exchange h request).elapsed) = true
      · rw [if_pos hrace] at honce
        rw [Run.bind_err honce]
        exact .abandoned hrace
      · rw [if_neg hrace] at honce
        rw [sendPartsOnce_handed honce]
        exact .last hrace fun _ _ => rfl
  | succ remaining ih =>
      intro number r h
      have honce := sendPartsOnce_admitted hcheck race r h
      unfold sendPartsFrom
      by_cases hrace : race.any (· < clock h + (r.exchange h request).elapsed) = true
      · rw [if_pos hrace] at honce
        rw [Run.bind_err honce]
        exact .abandoned hrace
      · rw [if_neg hrace] at honce
        cases hx : settleExchange client.maxResponseBytes (r.exchange h request).exchange with
        | err e =>
            have hhanded : handed client (r.exchange h request) = .err e := handed_of_settled hx
            rw [hx] at honce
            rw [Run.bind_err honce, ← hhanded]
            exact .noAnswer hrace (by simp [hx])
        | dropped =>
            have hhanded : handed client (r.exchange h request) = .dropped := handed_of_settled hx
            rw [hx] at honce
            rw [Run.bind_dropped honce, ← hhanded]
            exact .noAnswer hrace (by simp [hx])
        | ok out =>
            have hhanded : handed client (r.exchange h request) = .ok (out.status, out.body) :=
              handed_of_settled hx
            rw [hx] at honce
            rw [Run.bind_ok honce]
            by_cases hretry : request.method = .get ∧ (out.status = 429 ∨ out.status = 503)
            · rw [if_pos hretry, Run.ask_bind]
              obtain ⟨ms, ending, hpause, -⟩ := pause_cases race (pauseFor request r h out number) r
                (h ++ [.attempt request (r.exchange h request)])
              cases ending with
              | elapsed =>
                  rw [← pauseFor, Run.bind_ok hpause]
                  exact .again hrace hretry.1 hx hretry.2 hpause (ih _ _ _)
              | expired =>
                  rw [← pauseFor, Run.bind_err hpause]
                  exact .cut hrace hretry.1 hx hretry.2 hpause (by simp) rfl
              | cancelled =>
                  rw [← pauseFor, Run.bind_err hpause]
                  exact .cut hrace hretry.1 hx hretry.2 hpause (by simp) rfl
              | dropped =>
                  rw [← pauseFor, Run.bind_dropped hpause]
                  exact .cut hrace hretry.1 hx hretry.2 hpause (by simp) rfl
            · rw [if_neg hretry, Run.pure_apply, ← hhanded]
              refine .last hrace ?_
              rintro hget ⟨out', hout', hstatus⟩
              rw [hx] at hout'
              cases hout'
              exact absurd ⟨hget, hstatus⟩ hretry

end Loop

/-! ### What a run of the loop keeps to -/

section Bounds

variable {client : SdcClient} {race : Option Nat} {request : Request} {r : Env}
  {number remaining : Nat} {h t : List Event}
  {o : Outcome SdcError (Nat × Except SdcError (List UInt8))}

/-- There is an attempt, a write makes one, and a read makes no more than it may. -/
theorem Sending.tries_le (hrun : Sending client race request r number remaining h t o) :
    0 < tries t ∧ tries t ≤ remaining + 1 ∧ (request.method ≠ .get → tries t = 1) := by
  induction hrun with
  | abandoned hraced => simp
  | last hmade hlast => simp
  | cut hmade hget hout hstatus hpause hcut ho => simp
  | again hmade hget hout hstatus hpause hrest ih =>
      rw [tries_attempt, tries_paused]
      exact ⟨by omega, by omega, fun hno => absurd hget hno⟩

/-- The requests of a run are the one that was asked for. -/
theorem Sending.sent (hrun : Sending client race request r number remaining h t o) {q : Request}
    {a : Attempt} (hq : .attempt q a ∈ t) : q = request := by
  induction hrun with
  | abandoned hraced => simp at hq
  | last hmade hlast =>
      rcases List.mem_singleton.mp hq with ⟨⟩
      rfl
  | cut hmade hget hout hstatus hpause hcut ho =>
      rcases List.mem_cons.mp hq with hq | hq
      · cases hq
        rfl
      · simp at hq
  | again hmade hget hout hstatus hpause hrest ih =>
      rcases List.mem_cons.mp hq with hq | hq
      · cases hq
        rfl
      rcases List.mem_cons.mp hq with hq | hq
      · cases hq
      · exact ih hq

/-- From any of its attempts on, a run is a run. -/
theorem Sending.from_attempt (hrun : Sending client race request r number remaining h t o)
    {before after : List Event} {a : Attempt} (hsplit : t = before ++ .attempt request a :: after) :
    ∃ left, left + (number + tries before) = remaining + number ∧
      Sending client race request r (number + tries before) left (h ++ before)
        (.attempt request a :: after) o := by
  induction hrun generalizing before with
  | abandoned hraced =>
      cases before with
      | nil => cases hsplit
      | cons c before => simp at hsplit
  | @last number remaining h hmade hlast =>
      cases before with
      | nil =>
          cases hsplit
          rw [List.append_nil]
          exact ⟨remaining, rfl, .last hmade hlast⟩
      | cons c before => simp at hsplit
  | @cut number remaining ms h out ending o hmade hget hout hstatus hpause hcut ho =>
      rcases before with - | ⟨c, - | ⟨d, before⟩⟩
      · cases hsplit
        rw [List.append_nil]
        exact ⟨remaining + 1, rfl, .cut hmade hget hout hstatus hpause hcut ho⟩
      · simp at hsplit
      · simp at hsplit
  | @again number remaining ms h t out o hmade hget hout hstatus hpause hrest ih =>
      rcases before with - | ⟨c, - | ⟨d, before⟩⟩
      · cases hsplit
        rw [List.append_nil]
        exact ⟨remaining + 1, rfl, .again hmade hget hout hstatus hpause hrest⟩
      · simp at hsplit
      · simp only [List.cons_append, List.cons.injEq] at hsplit
        obtain ⟨rfl, rfl, hsplit⟩ := hsplit
        obtain ⟨left, hleft, hrun⟩ := ih hsplit
        rw [tries_attempt, tries_paused]
        have hnumber : number + (tries before + 1) = number + 1 + tries before := by omega
        rw [hnumber]
        refine ⟨left, by omega, ?_⟩
        rw [List.append_assoc, List.append_assoc] at hrun
        exact hrun

/-- An attempt is what the environment made of it, in time. -/
theorem Sending.told (hrun : Sending client race request r number remaining h t o)
    {before after : List Event} {a : Attempt} (hsplit : t = before ++ .attempt request a :: after) :
    a = r.exchange (h ++ before) request ∧ ¬ Raced race (h ++ before) a := by
  obtain ⟨left, -, hrest⟩ := hrun.from_attempt hsplit
  cases hrest with
  | last hmade hlast => exact ⟨rfl, hmade⟩
  | cut hmade hget hout hstatus hpause hcut ho => exact ⟨rfl, hmade⟩
  | again hmade hget hout hstatus hpause hrest => exact ⟨rfl, hmade⟩

/-- An attempt that is not the last one was a `GET` that was asked to try again. -/
theorem Sending.retried (hrun : Sending client race request r number remaining h t o)
    {before after : List Event} {a : Attempt} (hsplit : t = before ++ .attempt request a :: after)
    (hafter : 0 < tries after) : request.method = .get ∧ Retries client a.exchange := by
  obtain ⟨left, -, hrest⟩ := hrun.from_attempt hsplit
  cases hrest with
  | last hmade hlast => cases hafter
  | cut hmade hget hout hstatus hpause hcut ho => exact ⟨hget, _, hout, hstatus⟩
  | again hmade hget hout hstatus hpause hrest => exact ⟨hget, _, hout, hstatus⟩

/-- A pause between two attempts is the one that was computed for it. -/
theorem Sending.slept (hrun : Sending client race request r number remaining h t o)
    {before after : List Event} {a : Attempt} {ms : Nat} {ending : PauseEnd}
    (hsplit : t = before ++ .attempt request a :: .paused ms ending :: after) :
    ∃ out, settleExchange client.maxResponseBytes a.exchange = .ok out ∧
      pause race (pauseFor request r (h ++ before) out (number + tries before)) r
        (h ++ before ++ [.attempt request a]) = (pauseOutcome ending, [.paused ms ending]) := by
  obtain ⟨left, -, hrest⟩ := hrun.from_attempt hsplit
  cases hrest with
  | cut hmade hget hout hstatus hpause hcut ho => exact ⟨_, hout, hpause⟩
  | again hmade hget hout hstatus hpause hrest => exact ⟨_, hout, hpause⟩

/-- The last event of a run decides it.  It is an attempt that asked for no retry or was the last
one allowed, or one that the deadline of a poll cut off, or a pause that was cut off. -/
theorem Sending.ends (hrun : Sending client race request r number remaining h t o) :
    (∃ before a, t = before ++ [.attempt request a] ∧ o = handed client a ∧
      (request.method = .get → Retries client a.exchange → tries t = remaining + 1)) ∨
    (∃ before a, t = before ++ [.abandoned request a] ∧ o = .err .jobDeadline ∧
      Raced race (h ++ before) (r.exchange (h ++ before) request)) ∨
    ∃ before ms ending, t = before ++ [.paused ms ending] ∧ ending ≠ .elapsed ∧
      o = (pauseOutcome ending).bimap id fun _ => (0, .ok []) := by
  induction hrun with
  | @abandoned number remaining h hraced =>
      refine .inr (.inl ⟨[], _, rfl, rfl, ?_⟩)
      rw [List.append_nil]
      exact hraced
  | last hmade hlast =>
      refine .inl ⟨[], _, rfl, rfl, ?_⟩
      intro hget hretry
      rw [hlast hget hretry]
      rfl
  | cut hmade hget hout hstatus hpause hcut ho => exact .inr (.inr ⟨[_], _, _, rfl, hcut, ho⟩)
  | again hmade hget hout hstatus hpause hrest ih =>
      rcases ih with ⟨before, a, rfl, ho, hcount⟩ | ⟨before, a, rfl, ho, hraced⟩ |
        ⟨before, ms, ending, rfl, hcut, ho⟩
      · refine .inl ⟨_ :: _ :: before, a, rfl, ho, ?_⟩
        intro hget' hretry
        rw [tries_attempt, tries_paused, hcount hget' hretry]
      · refine .inr (.inl ⟨_ :: _ :: before, a, rfl, ho, ?_⟩)
        rw [List.append_assoc, List.append_assoc] at hraced
        exact hraced
      · exact .inr (.inr ⟨_ :: _ :: before, ms, ending, rfl, hcut, ho⟩)

/-- What is handed on is the last attempt, and a `GET` that was asked to try again did. -/
theorem Sending.returned (hrun : Sending client race request r number remaining h t o)
    {parts : Nat × Except SdcError (List UInt8)} (ho : o = .ok parts) :
    ∃ before a out, t = before ++ [.attempt request a] ∧
      settleExchange client.maxResponseBytes a.exchange = .ok out ∧
      parts = (out.status, out.body) ∧
      (request.method = .get → out.status = 429 ∨ out.status = 503 →
        tries t = remaining + 1) := by
  subst ho
  rcases hrun.ends with ⟨before, a, ht, ho, hcount⟩ | ⟨before, a, -, ho, -⟩ |
    ⟨before, ms, ending, -, hcut, ho⟩
  · cases hx : settleExchange client.maxResponseBytes a.exchange with
    | err e =>
        rw [handed_of_settled hx] at ho
        cases ho
    | dropped =>
        rw [handed_of_settled hx] at ho
        cases ho
    | ok out =>
        rw [handed_of_settled hx, Outcome.andThen_ok, Outcome.ofExcept_ok] at ho
        cases ho
        exact ⟨before, a, out, ht, hx, rfl, fun hget hstatus => hcount hget ⟨out, hx, hstatus⟩⟩
  · cases ho
  · cases ending with
    | elapsed => exact absurd rfl hcut
    | expired => cases ho
    | cancelled => cases ho
    | dropped => cases ho

/-- An attempt without an answer ends the run at once, with what became of it. -/
theorem Sending.unanswered (hrun : Sending client race request r number remaining h t o)
    {a : Attempt} (ha : .attempt request a ∈ t)
    (hx : ∀ out, settleExchange client.maxResponseBytes a.exchange ≠ .ok out) :
    t.getLast? = some (.attempt request a) ∧ o = handed client a := by
  obtain ⟨before, after, hsplit⟩ := List.append_of_mem ha
  obtain ⟨left, -, hrest⟩ := hrun.from_attempt hsplit
  cases hrest with
  | last hmade hlast =>
      rw [hsplit, List.getLast?_concat]
      exact ⟨rfl, rfl⟩
  | cut hmade hget hout hstatus hpause hcut ho => exact absurd hout (hx _)
  | again hmade hget hout hstatus hpause hrest => exact absurd hout (hx _)

/-- A pause that was cut off ends the run at once. -/
theorem Sending.interrupted (hrun : Sending client race request r number remaining h t o)
    {ms : Nat} {ending : PauseEnd} (hp : .paused ms ending ∈ t) (hcut : ending ≠ .elapsed) :
    t.getLast? = some (.paused ms ending) ∧
      o = (pauseOutcome ending).bimap id fun _ => (0, .ok []) := by
  induction hrun with
  | abandoned hraced => simp at hp
  | last hmade hlast => simp at hp
  | cut hmade hget hout hstatus hpause hcut' ho =>
      simp only [List.mem_cons, reduceCtorEq, Event.paused.injEq, List.not_mem_nil, or_false,
        false_or] at hp
      obtain ⟨rfl, rfl⟩ := hp
      exact ⟨rfl, ho⟩
  | again hmade hget hout hstatus hpause hrest ih =>
      rcases List.mem_cons.mp hp with hp | hp
      · cases hp
      rcases List.mem_cons.mp hp with hp | hp
      · cases hp
        exact absurd rfl hcut
      · obtain ⟨hlast, ho⟩ := ih hp
        refine ⟨?_, ho⟩
        rw [List.getLast?_cons, List.getLast?_cons, hlast]
        rfl

/-- So does the deadline of a poll. -/
theorem Sending.expired (hrun : Sending client race request r number remaining h t o)
    {q : Request} {ms : Nat} (hq : .abandoned q ms ∈ t) :
    t.getLast? = some (.abandoned q ms) ∧ o = .err .jobDeadline := by
  induction hrun with
  | abandoned hraced =>
      rcases List.mem_singleton.mp hq with ⟨⟩
      exact ⟨rfl, rfl⟩
  | last hmade hlast => simp at hq
  | cut hmade hget hout hstatus hpause hcut ho => simp at hq
  | again hmade hget hout hstatus hpause hrest ih =>
      rcases List.mem_cons.mp hq with hq | hq
      · cases hq
      rcases List.mem_cons.mp hq with hq | hq
      · cases hq
      · obtain ⟨hlast, ho⟩ := ih hq
        refine ⟨?_, ho⟩
        rw [List.getLast?_cons, List.getLast?_cons, hlast]
        rfl

end Bounds

/-- What sending a request keeps to, by the events it left and the way it ended. -/
structure SendKeeps [Crates] (client : SdcClient) (race : Option Nat) (request : Request) (r : Env)
    (h t : List Event) (o : Outcome SdcError (Nat × Except SdcError (List UInt8))) : Prop where
  /-- A request that is refused locally is not sent. -/
  refused : ∀ e, checkRequest client request = .error e → t = [] ∧ o = .err e
  tried : checkRequest client request = .ok () → 0 < tries t
  once : checkRequest client request = .ok () → request.method ≠ .get → tries t = 1
  atMost : tries t ≤ 4
  sent : ∀ q a, .attempt q a ∈ t → q = request
  /-- An attempt is what the environment made of it, in time. -/
  told : ∀ before a after, t = before ++ .attempt request a :: after →
    a = r.exchange (h ++ before) request ∧ ¬ Raced race (h ++ before) a
  retried : ∀ before a after, t = before ++ .attempt request a :: after → 0 < tries after →
    request.method = .get ∧ Retries client a.exchange
  /-- The last event decides the run: an answer that asks for no retry or is the fourth, an attempt
  that the deadline of a poll cut off, or a pause that was cut off. -/
  ends : checkRequest client request = .ok () →
    (∃ before a, t = before ++ [.attempt request a] ∧ o = handed client a ∧
      (request.method = .get → Retries client a.exchange → tries t = 4)) ∨
    (∃ before ms, t = before ++ [.abandoned request ms] ∧ o = .err .jobDeadline ∧
      Raced race (h ++ before) (r.exchange (h ++ before) request)) ∨
    ∃ before ms ending, t = before ++ [.paused ms ending] ∧ ending ≠ .elapsed ∧
      o = (pauseOutcome ending).bimap id fun _ => (0, .ok [])
  returned : ∀ parts, o = .ok parts → ∃ before a out, t = before ++ [.attempt request a] ∧
    settleExchange client.maxResponseBytes a.exchange = .ok out ∧
    parts = (out.status, out.body) ∧
    (request.method = .get → out.status = 429 ∨ out.status = 503 → tries t = 4)
  unanswered : ∀ a, .attempt request a ∈ t →
    (∀ out, settleExchange client.maxResponseBytes a.exchange ≠ .ok out) →
    t.getLast? = some (.attempt request a) ∧ o = handed client a
  interrupted : ∀ ms ending, .paused ms ending ∈ t → ending ≠ .elapsed →
    t.getLast? = some (.paused ms ending) ∧
      o = (pauseOutcome ending).bimap id fun _ => (0, .ok [])
  expired : ∀ q ms, .abandoned q ms ∈ t →
    t.getLast? = some (.abandoned q ms) ∧ o = .err .jobDeadline
  /-- The pause after attempt `n` is meant to be as long as the delay computed for it, and lasts at
  least that long unless it is cut off. -/
  slept : ∀ before a ms ending after,
    t = before ++ .attempt request a :: .paused ms ending :: after →
    ∃ out, settleExchange client.maxResponseBytes a.exchange = .ok out ∧
      pause race (pauseFor request r (h ++ before) out (tries before)) r
        (h ++ before ++ [.attempt request a]) = (pauseOutcome ending, [.paused ms ending]) ∧
      (ending = .elapsed → pauseFor request r (h ++ before) out (tries before) ≤ ms)

/-- A pause that ran its length lasted at least as long as it was meant to. -/
theorem pause_elapsed_le {race : Option Nat} {delay ms : Nat} {r : Env} {h : List Event}
    (hpause : pause race delay r h = (.ok (), [.paused ms .elapsed])) : delay ≤ ms := by
  obtain ⟨elapsed, ending, hrun, htime⟩ := pause_cases race delay r h
  rw [hpause, Prod.mk.injEq, List.cons.injEq, Event.paused.injEq] at hrun
  obtain ⟨-, ⟨rfl, rfl⟩, -⟩ := hrun
  exact (htime rfl).1

theorem Sending.keeps [Crates] {client : SdcClient} {race : Option Nat} {request : Request}
    {r : Env} {h t : List Event} {o : Outcome SdcError (Nat × Except SdcError (List UInt8))}
    (hcheck : checkRequest client request = .ok ())
    (hrun : Sending client race request r 0 maxRetryAttempts h t o) :
    SendKeeps client race request r h t o where
  refused := fun e he => by
    rw [hcheck] at he
    cases he
  tried := fun _ => hrun.tries_le.1
  once := fun _ hno => hrun.tries_le.2.2 hno
  atMost := hrun.tries_le.2.1
  sent := fun _ _ hq => hrun.sent hq
  told := fun _ _ _ hsplit => hrun.told hsplit
  retried := fun _ _ _ hsplit hafter => hrun.retried hsplit hafter
  ends := fun _ => hrun.ends
  returned := fun _ ho => hrun.returned ho
  unanswered := fun _ ha hx => hrun.unanswered ha hx
  interrupted := fun _ _ hp hcut => hrun.interrupted hp hcut
  expired := fun _ _ hq => hrun.expired hq
  slept := fun before a ms ending after hsplit => by
    obtain ⟨out, hout, hpause⟩ := hrun.slept hsplit
    rw [Nat.zero_add] at hpause
    refine ⟨out, hout, hpause, ?_⟩
    rintro rfl
    exact pause_elapsed_le hpause

/-- A request that is not sent keeps to it too. -/
theorem sendKeeps_refused [Crates] {client : SdcClient} {race : Option Nat} {request : Request}
    {r : Env} {h : List Event} {e : SdcError} (hcheck : checkRequest client request = .error e) :
    SendKeeps client race request r h [] (.err e) where
  refused := fun e' he => by
    rw [hcheck] at he
    cases he
    exact ⟨rfl, rfl⟩
  tried := fun hok => by
    rw [hcheck] at hok
    cases hok
  once := fun hok => by
    rw [hcheck] at hok
    cases hok
  atMost := Nat.zero_le 4
  sent := nofun
  told := fun before a after hsplit => by simp at hsplit
  retried := fun before a after hsplit => by simp at hsplit
  ends := fun hok => by
    rw [hcheck] at hok
    cases hok
  returned := nofun
  unanswered := nofun
  interrupted := nofun
  expired := nofun
  slept := fun before a ms ending after hsplit => by simp at hsplit

/-- One request is tried at most four times. -/
theorem sendParts_tries_le [Crates] (client : SdcClient) (race : Option Nat) (request : Request)
    (r : Env) (h : List Event) : tries (sendParts client race request r h).2 ≤ 4 := by
  cases hcheck : checkRequest client request with
  | error e =>
      have hrun : sendParts client race request r h = (.err e, []) :=
        Run.bind_err (sendPartsOnce_refused hcheck race r h)
      rw [hrun]
      exact Nat.zero_le 4
  | ok u => exact (sending_sendPartsFrom race hcheck maxRetryAttempts 0 r h).tries_le.2.1

theorem readCall_tries_le [Crates] {α : Type} (client : SdcClient) (race : Option Nat)
    (decode : Json → Option α) (atoms : List (String × String)) (segments : List String)
    (query : List (String × String)) (r : Env) (h : List Event) :
    tries (readCall client race decode atoms segments query r h).2 ≤ 4 := by
  unfold readCall
  cases hatoms : validateAtoms atoms with
  | error e =>
      rw [Run.lift_error_bind]
      exact Nat.zero_le 4
  | ok u =>
      rw [Run.lift_ok_bind]
      unfold get send sendRaw
      rw [Run.bind_lift, Run.bind_lift]
      exact sendParts_tries_le client race _ r h

/-- **A request is sent at most once unless it is a read that is asked to try again.**  A write
makes exactly one attempt and a read at least one and at most four, each after the first because of
a 429 or a 503; the first other answer is what the run comes to, or the fourth, and anything else
ends the run at once.  The delay before a retry is computed without a panic and stays below 37.5
seconds. -/
theorem sends_bounded [Crates] (client : SdcClient) (race : Option Nat) (request : Request)
    (r : Env) (h : List Event) :
    SendKeeps client race request r h (sendParts client race request r h).2
      (sendParts client race request r h).1 ∧
    ∀ (retryAfter : Option UInt64) (attempt : UInt32) (nanos : UInt64), ∃ d,
      retryDelayMachine (retryAfter.map Duration.fromSecs) attempt nanos = some d ∧
      d.nanos = retryDelay (retryAfter.map UInt64.toNat) attempt.toNat nanos.toNat * 1000000 ∧
      d.nanos < 37500 * 1000000 := by
  constructor
  · cases hcheck : checkRequest client request with
    | error e =>
        have hrun : sendParts client race request r h = (.err e, []) :=
          Run.bind_err (sendPartsOnce_refused hcheck race r h)
        rw [hrun]
        exact sendKeeps_refused hcheck
    | ok u => exact (sending_sendPartsFrom race hcheck maxRetryAttempts 0 r h).keeps hcheck
  · intro retryAfter attempt nanos
    obtain ⟨d, hd, hnanos⟩ := retryDelayMachine_eq retryAfter attempt nanos
    refine ⟨d, hd, hnanos, ?_⟩
    have hlt := retryDelay_lt (retryAfter.map UInt64.toNat) attempt.toNat nanos.toNat
    rw [hnanos]
    exact Nat.mul_lt_mul_of_pos_right hlt (by decide)

end SdcMcp
