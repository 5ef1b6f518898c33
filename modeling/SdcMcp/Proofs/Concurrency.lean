/-
Calls that share the client's semaphore.

Calls wait for each other, so when a call moves depends on all others.  What it comes to
does not: under any schedule a call does what `sendParts` does in its world, and so all
that is said of a request by itself holds of requests that run side by side.

What the semaphore is there for holds too.  No more requests are on the wire than it has
permits, a sleeping call keeps none, and none is lost: as long as a call has not ended some
call can move, all calls end after boundedly many moves, and then every permit is back.
-/
import SdcMcp.Model.Concurrency
import SdcMcp.Proofs.Scripted
import SdcMcp.Proofs.Send

namespace SdcMcp

open Interactive Semaphore

section Calls

variable [Crates]

namespace SendTask

/-! ### What is left of a call -/

/-- The loop of `sendParts` from a phase on. -/
def rest (client : SdcClient) (task : SendTask) :
    Io (Nat × Except SdcError (List UInt8)) :=
  match task.phase with
  | .queued attempt remaining | .exchanging attempt remaining =>
      sendPartsFrom client task.race task.request attempt remaining
  | .sleeping attempt remaining retryAfter => do
      let nanos ← Run.ask fun env history => env.jitterNanos history
      pause task.race (retryDelay retryAfter attempt nanos)
      sendPartsFrom client task.race task.request (attempt + 1) remaining
  | .ended outcome => Run.settled outcome

/-- What a call comes to: what it has done, and then what is left of it. -/
def run (client : SdcClient) (task : SendTask) :
    Outcome SdcError (Nat × Except SdcError (List UInt8)) × List Event :=
  ((task.rest client task.env task.past).1,
    task.log ++ (task.rest client task.env task.past).2)

theorem run_of_rest {client : SdcClient} {task : SendTask}
    {o : Outcome SdcError (Nat × Except SdcError (List UInt8))} {t : List Event}
    (h : task.rest client task.env task.past = (o, t)) : task.run client = (o, task.log ++ t) := by
  unfold run
  rw [h]

theorem run_ended {client : SdcClient} {task : SendTask}
    {outcome : Outcome SdcError (Nat × Except SdcError (List UInt8))}
    (h : task.phase = .ended outcome) : task.run client = (outcome, task.log) := by
  have hrest : task.rest client task.env task.past = (outcome, []) := by
    unfold rest
    rw [h]
    rfl
  rw [run_of_rest hrest, List.append_nil]

omit [Crates] in
/-- The world of a call stays as it is. -/
theorem Moves.same_world {limit : Nat} {task task' : SendTask} (h : Moves limit task task') :
    task'.env = task.env ∧ task'.history = task.history ∧ task'.race = task.race ∧
      task'.request = task.request := by
  have hsettle : ∀ attempt remaining, (task.settle limit attempt remaining).env = task.env ∧
      (task.settle limit attempt remaining).history = task.history ∧
      (task.settle limit attempt remaining).race = task.race ∧
      (task.settle limit attempt remaining).request = task.request := by
    intro attempt remaining
    unfold settle
    split <;> exact ⟨rfl, rfl, rfl, rfl⟩
  cases h with
  | acquire hphase hsent => exact ⟨rfl, rfl, rfl, rfl⟩
  | leave hphase hleaves => exact hsettle _ _
  | finish hphase => exact hsettle _ _
  | wake hphase =>
      unfold SendTask.wake
      dsimp only
      split <;> exact ⟨rfl, rfl, rfl, rfl⟩

/-- An attempt is one round of the loop. -/
theorem settle_run {client : SdcClient} {task : SendTask}
    (hcheck : checkRequest client task.request = .ok ()) {attempt remaining : Nat} :
    (task.settle client.maxResponseBytes attempt remaining).run client
      = ((sendPartsFrom client task.race task.request attempt remaining task.env task.past).1,
        task.log ++
          (sendPartsFrom client task.race task.request attempt remaining task.env
            task.past).2) := by
  have honce : sendPartsOnce client task.race task.request task.env task.past
      = if task.expires then
          (.err .jobDeadline, [.abandoned task.request (task.race.getD 0 - clock task.past)])
        else (settleExchange client.maxResponseBytes task.next.exchange,
          [.attempt task.request task.next]) :=
    sendPartsOnce_admitted hcheck task.race task.env task.past
  unfold settle
  by_cases hexpires : task.expires = true
  · rw [if_pos hexpires] at honce ⊢
    rw [sendPartsFrom_err honce]
    exact run_ended rfl
  · rw [if_neg hexpires] at honce ⊢
    cases hsettle : settleExchange client.maxResponseBytes task.next.exchange with
    | err e =>
        rw [hsettle] at honce
        rw [sendPartsFrom_err honce]
        exact run_ended rfl
    | dropped =>
        rw [hsettle] at honce
        rw [sendPartsFrom_dropped honce]
        exact run_ended rfl
    | ok outcome =>
        rw [hsettle] at honce
        cases remaining with
        | zero =>
            rw [sendPartsFrom_last honce]
            exact run_ended rfl
        | succ remaining =>
            by_cases hagain : task.request.method = .get ∧
                (outcome.status = 429 ∨ outcome.status = 503)
            · rw [sendPartsFrom_again honce hagain]
              unfold run rest past
              simp only [if_pos hagain]
              rw [List.append_assoc, List.append_assoc]
            · rw [sendPartsFrom_final honce hagain]
              exact run_ended (if_neg hagain)

/-- The end of a sleep leads where the loop leads. -/
theorem wake_run {client : SdcClient} {task : SendTask} {attempt remaining : Nat}
    {retryAfter : Option Nat} (hphase : task.phase = .sleeping attempt remaining retryAfter) :
    (task.wake attempt remaining retryAfter).run client = task.run client := by
  have hpause := pause_apply task.race
    (retryDelay retryAfter attempt (task.env.jitterNanos task.past)) task.env task.past
  have hrest : task.rest client task.env task.past
      = (pause task.race (retryDelay retryAfter attempt (task.env.jitterNanos task.past)) >>=
          fun _ => sendPartsFrom client task.race task.request (attempt + 1) remaining)
        task.env task.past := by
    unfold rest
    rw [hphase]
    exact Run.ask_bind _ _ _ _
  unfold SendTask.wake
  rcases hend : pauseEnd (retryDelay retryAfter attempt (task.env.jitterNanos task.past))
    (task.env.pause task.past) with ⟨elapsed, ending⟩
  rw [hend] at hpause
  dsimp only at hpause ⊢
  rw [hend]
  by_cases hexpired : task.race.any (· < clock task.past + elapsed) = true
  · rw [if_pos hexpired] at hpause ⊢
    rw [run_of_rest (hrest.trans (Run.bind_err hpause))]
    exact run_ended rfl
  · rw [if_neg hexpired] at hpause ⊢
    cases ending with
    | expired | cancelled =>
        rw [run_of_rest (hrest.trans (Run.bind_err hpause))]
        exact run_ended rfl
    | dropped =>
        rw [run_of_rest (hrest.trans (Run.bind_dropped hpause))]
        exact run_ended rfl
    | elapsed =>
        rw [run_of_rest (hrest.trans (Run.bind_ok hpause))]
        unfold run rest past
        dsimp only
        rw [List.append_assoc, List.append_assoc]

/-- **What a call comes to does not depend on when it moves.** -/
theorem Moves.run_eq {client : SdcClient} {task task' : SendTask}
    (hcheck : checkRequest client task.request = .ok ())
    (h : Moves client.maxResponseBytes task task') : task'.run client = task.run client := by
  have hround : ∀ attempt remaining, task.phase = .queued attempt remaining ∨
      task.phase = .exchanging attempt remaining →
      (task.settle client.maxResponseBytes attempt remaining).run client = task.run client := by
    intro attempt remaining hphase
    rw [settle_run hcheck]
    unfold run rest
    rcases hphase with hphase | hphase <;> rw [hphase]
  cases h with
  | acquire hphase hsent =>
      unfold run rest
      rw [hphase]
      rfl
  | leave hphase hleaves => exact hround _ _ (.inl hphase)
  | finish hphase => exact hround _ _ (.inr hphase)
  | wake hphase => exact wake_run hphase

/-! ### How a call moves -/

/-- How far a call is from its end. -/
def distance (task : SendTask) : Nat :=
  match task.phase with
  | .sleeping _ remaining _ => 3 * remaining + 3
  | .queued _ remaining => 3 * remaining + 2
  | .exchanging _ remaining => 3 * remaining + 1
  | .ended _ => 0

omit [Crates] in
theorem settle_distance (limit : Nat) (task : SendTask) (attempt remaining : Nat) :
    (task.settle limit attempt remaining).distance < 3 * remaining + 1 := by
  unfold settle
  by_cases hexpires : task.expires = true
  · rw [if_pos hexpires]
    exact Nat.succ_pos _
  · rw [if_neg hexpires]
    unfold distance
    dsimp only
    cases settleExchange limit task.next.exchange with
    | err e => exact Nat.succ_pos _
    | dropped => exact Nat.succ_pos _
    | ok outcome =>
        cases remaining with
        | zero => exact Nat.succ_pos _
        | succ remaining =>
            dsimp only
            split_ifs
            · exact Nat.lt_succ_self _
            · exact Nat.succ_pos _

omit [Crates] in
theorem wake_distance (task : SendTask) (attempt remaining : Nat) (retryAfter : Option Nat) :
    (task.wake attempt remaining retryAfter).distance < 3 * remaining + 3 := by
  unfold SendTask.wake
  rcases hend : pauseEnd (retryDelay retryAfter attempt (task.env.jitterNanos task.past))
    (task.env.pause task.past) with ⟨elapsed, ending⟩
  dsimp only
  rw [hend]
  split_ifs
  · exact Nat.succ_pos _
  · cases ending with
    | elapsed => exact Nat.lt_succ_self _
    | expired | cancelled | dropped => exact Nat.succ_pos _

omit [Crates] in
theorem Moves.distance_lt {limit : Nat} {task task' : SendTask} (h : Moves limit task task') :
    task'.distance < task.distance := by
  cases h with
  | acquire hphase hsent =>
      unfold distance
      rw [hphase]
      exact Nat.lt_succ_self _
  | @leave attempt remaining hphase hleaves =>
      have hlt := task.settle_distance limit attempt remaining
      have hdistance : task.distance = 3 * remaining + 2 := by
        unfold distance
        rw [hphase]
      omega
  | @finish attempt remaining hphase =>
      have hlt := task.settle_distance limit attempt remaining
      have hdistance : task.distance = 3 * remaining + 1 := by
        unfold distance
        rw [hphase]
      omega
  | @wake attempt remaining retryAfter hphase =>
      have hlt := task.wake_distance attempt remaining retryAfter
      have hdistance : task.distance = 3 * remaining + 3 := by
        unfold distance
        rw [hphase]
      omega

omit [Crates] in
/-- A call that has not ended can move, given a permit. -/
theorem Moves.not_ended {limit : Nat} {task task' : SendTask} (h : Moves limit task task') :
    task.ended = false := by
  cases h with
  | acquire hphase _ | leave hphase _ | finish hphase | wake hphase =>
      unfold SendTask.ended
      rw [hphase]

omit [Crates] in
theorem exists_move (limit : Nat) {task : SendTask} (h : task.ended = false) :
    ∃ task', Moves limit task task' := by
  cases hphase : task.phase with
  | queued attempt remaining =>
      by_cases hsent : ∃ why, task.next.exchange = .unsent why
      · exact ⟨_, .leave hphase (.inr hsent)⟩
      · exact ⟨_, .acquire hphase (not_exists.mp hsent)⟩
  | exchanging attempt remaining => exact ⟨_, .finish hphase⟩
  | sleeping attempt remaining retryAfter => exact ⟨_, .wake hphase⟩
  | ended outcome =>
      unfold SendTask.ended at h
      rw [hphase] at h
      cases h

omit [Crates] in
theorem not_ended_of_holds {task : SendTask} (h : task.holds = true) : task.ended = false := by
  unfold holds at h
  unfold SendTask.ended
  cases hphase : task.phase with
  | exchanging attempt remaining => rfl
  | queued attempt remaining | sleeping attempt remaining retryAfter | ended outcome =>
      simp [hphase] at h

omit [Crates] in
/-- A move adds to what a call has done, and what it hands to the transport is handed by the
holder of a permit. -/
theorem Moves.log {limit : Nat} {task task' : SendTask} (h : Moves limit task task') :
    ∃ t, task'.log = task.log ++ t ∧
      ∀ q a, .attempt q a ∈ t → a.exchange.handed = true → task.holds = true := by
  cases h with
  | acquire hphase hsent => exact ⟨[], (List.append_nil _).symm, nofun⟩
  | @leave attempt remaining hphase hleaves =>
      unfold settle
      by_cases hexpires : task.expires = true
      · rw [if_pos hexpires]
        exact ⟨_, rfl, by simp⟩
      · obtain ⟨why, hunsent⟩ := hleaves.resolve_left hexpires
        rw [if_neg hexpires]
        refine ⟨_, rfl, fun q a hmem hhanded => ?_⟩
        cases List.mem_singleton.mp hmem
        rw [hunsent] at hhanded
        cases hhanded
  | @finish attempt remaining hphase =>
      have hholds : task.holds = true := by
        unfold holds
        rw [hphase]
      unfold settle
      split
      · exact ⟨_, rfl, fun _ _ _ _ => hholds⟩
      · exact ⟨_, rfl, fun _ _ _ _ => hholds⟩
  | wake hphase =>
      unfold SendTask.wake
      dsimp only
      split
      · exact ⟨_, rfl, by simp⟩
      · exact ⟨_, rfl, by simp⟩

end SendTask

/-! ### All calls of a client -/

section Clients

open SendTask

variable {client : SdcClient} {maxConcurrency : Nat} {pool : Pool SendTask}

/-- What is invariant of a call: it was admitted unless it has ended, and it comes to what it comes
to by itself. -/
structure SendTask.Sound (client : SdcClient) (task : SendTask) : Prop where
  admitted : task.ended = false → checkRequest client task.request = .ok ()
  same : task.run client = sendParts client task.race task.request task.env task.history

theorem SendTask.Starts.sound {task : SendTask} (h : Starts client task) : task.Sound client := by
  obtain ⟨env, history, race, request, rfl⟩ := h
  cases hcheck : checkRequest client request with
  | ok u =>
      refine ⟨fun _ => hcheck, ?_⟩
      unfold start SendTask.run rest past
      rw [hcheck]
      dsimp only
      rw [List.append_nil, List.nil_append]
      rfl
  | error e =>
      have hphase : (start client env history race request).phase = .ended (.err e) := by
        unfold start
        rw [hcheck]
      refine ⟨fun hrunning => ?_, ?_⟩
      · unfold SendTask.ended at hrunning
        rw [hphase] at hrunning
        cases hrunning
      · rw [run_ended hphase]
        exact (sendPartsFrom_err (sendPartsOnce_refused hcheck race env history)).symm

theorem SendTask.Sound.moves {task task' : SendTask} (h : task.Sound client)
    (hmove : Moves client.maxResponseBytes task task') : task'.Sound client := by
  obtain ⟨henv, hhistory, hrace, hrequest⟩ := hmove.same_world
  have hrunning : task.ended = false := by
    cases hmove with
    | acquire hphase _ | leave hphase _ | finish hphase | wake hphase =>
        unfold SendTask.ended
        rw [hphase]
  have hcheck := h.admitted hrunning
  refine ⟨fun _ => by rw [hrequest]; exact hcheck, ?_⟩
  rw [hmove.run_eq hcheck, h.same, henv, hhistory, hrace, hrequest]

theorem Underway.sound (h : Underway client maxConcurrency pool) :
    ∀ task ∈ pool.tasks, task.Sound client :=
  Reachable.forall (fun _ => Starts.sound) (fun _ _ => Sound.moves) h

/-- A call makes at most eleven moves. -/
theorem Underway.distance_le (h : Underway client maxConcurrency pool) :
    pool.distance SendTask.distance ≤ 11 * pool.tasks.length := by
  have hstarts : ∀ task, Starts client task → task.distance ≤ 11 := by
    rintro task ⟨env, history, race, request, rfl⟩
    unfold start SendTask.distance
    cases checkRequest client request with
    | ok u => exact Nat.le_refl 11
    | error e => exact Nat.zero_le 11
  exact Pool.distance_le
    (Reachable.forall hstarts (fun _ _ hle hmove => (hmove.distance_lt.trans_le hle).le) h)

/-- A call that has ended did all that `sendParts` does in its world. -/
theorem Underway.ended (h : Underway client maxConcurrency pool) {task : SendTask}
    (htask : task ∈ pool.tasks) {outcome : Outcome SdcError (Nat × Except SdcError (List UInt8))}
    (hended : task.phase = .ended outcome) :
    sendParts client task.race task.request task.env task.history = (outcome, task.log) := by
  rw [← (h.sound task htask).same, run_ended hended]

/-- **Calls that share a semaphore do what they do alone.**  At any moment, under any schedule of
any number of calls: permits are neither made nor lost, so no more calls than the maximum hold one;
each call has done a part of what `sendParts` does in its world, and all of it with the same outcome
once it has ended; and no request is handed to the transport but by the holder of a permit. -/
theorem concurrent_calls_alone (h : Underway client maxConcurrency pool) :
    pool.permits + pool.held SendTask.holds = maxConcurrency ∧
    ∀ task ∈ pool.tasks,
      (∃ t, (sendParts client task.race task.request task.env task.history).2 = task.log ++ t) ∧
      (∀ outcome, task.phase = .ended outcome →
        sendParts client task.race task.request task.env task.history = (outcome, task.log)) ∧
      ∀ task', Moves client.maxResponseBytes task task' → ∃ t, task'.log = task.log ++ t ∧
        ∀ q a, .attempt q a ∈ t → a.exchange.handed = true → task.holds = true := by
  refine ⟨h.conserved, fun task htask => ⟨?_, fun _ => h.ended htask, fun _ => Moves.log⟩⟩
  rw [← (h.sound task htask).same]
  exact ⟨_, rfl⟩

omit [Crates] in
/-- The bound that a configuration is checked for. -/
theorem SdcConfig.validate_maxConcurrency [UrlCrate] {config : SdcConfig}
    (h : config.validate = .ok ()) : 1 ≤ config.maxConcurrency ∧ config.maxConcurrency ≤ 1024 := by
  unfold SdcConfig.validate at h
  obtain ⟨-, h⟩ := Except.guard_bind_eq_ok_iff.mp h
  obtain ⟨-, -, h⟩ := Except.bind_eq_ok_iff.mp h
  obtain ⟨-, -, h⟩ := Except.bind_eq_ok_iff.mp h
  obtain ⟨-, -, h⟩ := Except.bind_eq_ok_iff.mp h
  obtain ⟨-, -, h⟩ := Except.bind_eq_ok_iff.mp h
  obtain ⟨hbounds, -⟩ := Except.guard_bind_eq_ok_iff.mp h
  simp only [Bool.or_eq_true, not_or, Bool.not_eq_true', Bool.not_eq_false, Bool.and_eq_true,
    decide_eq_true_eq] at hbounds
  exact hbounds.1.1.1.2

/-- **Every call ends.**  However many calls a configured client runs and however they are
scheduled, no more than 1024 are on the wire, there are at most eleven moves for each call, and when
no call can move any more every call has ended, as `sendParts` does in its world, and all permits
are back. -/
theorem concurrent_calls_end [UrlCrate] [HttpCrate] {config : SdcConfig} {credential : String}
    (hclient : SdcClient.new config credential = .ok client)
    (h : Underway client config.maxConcurrency pool) :
    pool.held SendTask.holds ≤ 1024 ∧
    (∀ run, List.IsChain (Work SendTask.holds (Moves client.maxResponseBytes)) (pool :: run) →
      run.length ≤ 11 * pool.tasks.length) ∧
    ∀ pool',
      Relation.ReflTransGen (Work SendTask.holds (Moves client.maxResponseBytes)) pool pool' →
      (∀ next, ¬ Work SendTask.holds (Moves client.maxResponseBytes) pool' next) →
        pool'.permits = config.maxConcurrency ∧
        ∀ task ∈ pool'.tasks, ∃ outcome, task.phase = .ended outcome ∧
          sendParts client task.race task.request task.env task.history = (outcome, task.log) := by
  obtain ⟨hvalid, -⟩ := SdcClient.new_ok hclient
  obtain ⟨hleast, hmost⟩ := SdcConfig.validate_maxConcurrency hvalid
  refine ⟨?_, ?_, ?_⟩
  · have hconserved := h.conserved
    omega
  · intro run hrun
    have hle : run.length ≤ pool.distance SendTask.distance :=
      length_le_distance (fun _ _ hmove => hmove.distance_lt) hrun
    exact hle.trans h.distance_le
  · intro pool' hwork hstuck
    have h' : Underway client config.maxConcurrency pool' := Reachable.works h hwork
    have hconserved := h'.conserved
    have hpermits : 0 < pool'.permits + pool'.held SendTask.holds := by
      rw [hconserved]
      exact hleast
    have hended : ∀ task ∈ pool'.tasks, task.ended = true := by
      intro task htask
      by_contra hrunning
      rw [Bool.not_eq_true] at hrunning
      obtain ⟨task', hmove⟩ := exists_move client.maxResponseBytes hrunning
      obtain ⟨next, hnext⟩ := exists_work
        (fun p hp => exists_move client.maxResponseBytes (not_ended_of_holds hp)) hpermits htask
        hmove
      exact hstuck next hnext
    constructor
    · have hnone : pool'.held SendTask.holds = 0 := by
        refine List.countP_eq_zero.mpr fun task htask hholds => ?_
        have hrunning := not_ended_of_holds hholds
        rw [hended task htask] at hrunning
        cases hrunning
      omega
    · intro task htask
      have htaskEnded := hended task htask
      unfold SendTask.ended at htaskEnded
      cases hphase : task.phase with
      | ended outcome => exact ⟨outcome, rfl, h'.ended htask hphase⟩
      | queued _ _ | exchanging _ _ | sleeping _ _ _ => simp [hphase] at htaskEnded

end Clients

end Calls

/-! ### Two calls and one permit -/

section TwoCalls

local instance callCrates : Crates := (⟨[], []⟩ : Tables).crates

local instance callUrls : UrlCrate := ⟨fun _ => some serviceUrl⟩

local instance callHttp : HttpCrate := plainHttp

def onePermit : SdcConfig := { defaultConfig 100 with maxConcurrency := 1 }

def devicesRequest : Request := ⟨.get, ["api", "v1", "devices"], [], none⟩

def policiesRequest : Request := ⟨.get, ["api", "v1", "policies", "firewall"], [], none⟩

/-- An SDC that is busy at first. -/
def busyEnv : Env where
  exchange := fun h _ => ⟨0, .replies (if h.isEmpty then 503 else 200) .null⟩
  pause := fun _ => .elapses 0
  jitterNanos := fun _ => 0

/-- A read that has to be tried twice. -/
def devicesCall : SendTask := .start (defaultClient 100) busyEnv [] none devicesRequest

/-- A read that is answered at once. -/
def policiesCall : SendTask :=
  .start (defaultClient 100) (Env.answering fun _ => .replies 200 .null) [] none policiesRequest

def devicesOnWire : SendTask := { devicesCall with phase := .exchanging 0 3 }

def devicesAsleep : SendTask := devicesOnWire.settle 8388608 0 3

def devicesAgain : SendTask := devicesAsleep.wake 0 2 none

def devicesOnWireAgain : SendTask := { devicesAgain with phase := .exchanging 1 2 }

def devicesEnded : SendTask := devicesOnWireAgain.settle 8388608 1 2

def policiesOnWire : SendTask := { policiesCall with phase := .exchanging 0 3 }

def policiesEnded : SendTask := policiesOnWire.settle 8388608 0 3

/-- One call is on the wire and the other waits for its permit. -/
theorem devices_on_wire : Underway (defaultClient 100) 1 ⟨0, [devicesOnWire, policiesCall]⟩ := by
  have hfirst : Underway (defaultClient 100) 1 ⟨1, [devicesCall]⟩ :=
    .single (.start ⟨_, _, _, _, rfl⟩ (by decide))
  have hboth : Underway (defaultClient 100) 1 ⟨1, [devicesCall, policiesCall]⟩ :=
    hfirst.tail (.start ⟨_, _, _, _, rfl⟩ (by decide))
  exact hboth.tail (.work (.acquire [] _ (.acquire rfl nofun) rfl rfl))

/-- The other call has the permit while the first one sleeps, and the first one gets it back. -/
theorem both_work : Relation.ReflTransGen
    (Work SendTask.holds (SendTask.Moves 8388608))
    ⟨0, [devicesOnWire, policiesCall]⟩ ⟨1, [devicesEnded, policiesEnded]⟩ := by
  have hslept : Work SendTask.holds (SendTask.Moves 8388608)
      ⟨0, [devicesOnWire, policiesCall]⟩ ⟨1, [devicesAsleep, policiesCall]⟩ :=
    .release [] _ (.finish rfl) rfl rfl
  have htaken : Work SendTask.holds (SendTask.Moves 8388608)
      ⟨1, [devicesAsleep, policiesCall]⟩ ⟨0, [devicesAsleep, policiesOnWire]⟩ :=
    .acquire [devicesAsleep] [] (.acquire rfl nofun) rfl rfl
  have hwoken : Work SendTask.holds (SendTask.Moves 8388608)
      ⟨0, [devicesAsleep, policiesOnWire]⟩ ⟨0, [devicesAgain, policiesOnWire]⟩ :=
    .carryOn [] _ (.wake rfl) rfl
  have hended : Work SendTask.holds (SendTask.Moves 8388608)
      ⟨0, [devicesAgain, policiesOnWire]⟩ ⟨1, [devicesAgain, policiesEnded]⟩ :=
    .release [devicesAgain] [] (.finish rfl) rfl rfl
  have hretaken : Work SendTask.holds (SendTask.Moves 8388608)
      ⟨1, [devicesAgain, policiesEnded]⟩ ⟨0, [devicesOnWireAgain, policiesEnded]⟩ :=
    .acquire [] _ (.acquire rfl nofun) rfl rfl
  have hlast : Work SendTask.holds (SendTask.Moves 8388608)
      ⟨0, [devicesOnWireAgain, policiesEnded]⟩ ⟨1, [devicesEnded, policiesEnded]⟩ :=
    .release [] _ (.finish rfl) rfl rfl
  exact ((((Relation.ReflTransGen.single hslept).tail htaken).tail hwoken).tail hended).tail
    hretaken |>.tail hlast

/-- Each of two calls that contend for one permit comes to what it comes to alone. -/
theorem devices_answered :
    sendParts (defaultClient 100) none devicesRequest busyEnv []
        = (.ok (200, .ok Json.null.toVec),
          [.attempt devicesRequest ⟨0, .replies 503 .null⟩, .paused 500 .elapsed,
            .attempt devicesRequest ⟨0, .replies 200 .null⟩]) ∧
      sendParts (defaultClient 100) none policiesRequest policiesCall.env []
        = (.ok (200, .ok Json.null.toVec),
          [.attempt policiesRequest ⟨0, .replies 200 .null⟩]) := by
  have hdone : Underway (defaultClient 100) 1 ⟨1, [devicesEnded, policiesEnded]⟩ :=
    Reachable.works devices_on_wire both_work
  obtain ⟨-, halone⟩ := concurrent_calls_alone hdone
  exact ⟨(halone devicesEnded (by simp)).2.1 _ rfl, (halone policiesEnded (by simp)).2.1 _ rfl⟩

/-- The permit is back, and nothing is left to do. -/
theorem devices_end :
    (∃ outcome, devicesEnded.phase = .ended outcome ∧
      sendParts (defaultClient 100) none devicesRequest devicesEnded.env []
        = (outcome, devicesEnded.log)) ∧
    ∃ outcome, policiesEnded.phase = .ended outcome ∧
      sendParts (defaultClient 100) none policiesRequest policiesEnded.env []
        = (outcome, policiesEnded.log) := by
  have hclient : SdcClient.new onePermit "token" = .ok (defaultClient 100) := by rfl
  have hstuck : ∀ next,
      ¬ Work SendTask.holds (SendTask.Moves 8388608) ⟨1, [devicesEnded, policiesEnded]⟩ next := by
    intro next hwork
    obtain ⟨p, hp, q, hmove⟩ := hwork.exists_move
    have hended : p.ended = true := by
      rcases List.mem_cons.mp hp with rfl | hp
      · rfl
      · rw [List.mem_singleton.mp hp]
        rfl
    exact absurd (hmove.not_ended.symm.trans hended) (by decide)
  obtain ⟨-, -, hend⟩ := concurrent_calls_end hclient devices_on_wire
  have hall := (hend ⟨1, [devicesEnded, policiesEnded]⟩ both_work hstuck).2
  exact ⟨hall devicesEnded (by simp), hall policiesEnded (by simp)⟩

end TwoCalls

end SdcMcp
