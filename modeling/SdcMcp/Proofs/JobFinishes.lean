/-
Commits whose job ends in time.

Whether a commit that waits for a job reports it as it was can be told from SDC's answers
alone: if the `POST` is answered with a job, if the job ends before the deadline with some
room for one more wait, and if nothing is cut off, then the commit is reconciled with the
state the job ended in.  The reads that the commit makes need not be looked at.
-/
import SdcMcp.Proofs.DeployOutcome
import SdcMcp.Proofs.LicenseOutcome

namespace SdcMcp

open Interactive

section Jobs

variable [Crates]

/-! ### A job that ends -/

/-- A job that has ended at some time: each read of it is answered with its state, terminal from
then on, and no read or wait takes longer than it has to by more than `lag`. -/
structure Finishes (client : SdcClient) (kind : JobKind) (jobId : String) (r : Env)
    (finish lag : Nat) : Prop where
  admitted : readAdmits client [(kind.idField, jobId)] (kind.statusRequest jobId) = .ok ()
  answered : ∀ h, ∃ s, readVerdict client JobStatus.decode
      (r.exchange h (kind.statusRequest jobId)).exchange = .ok s ∧
    (finish ≤ clock h → s.status.isTerminal = true)
  prompt : ∀ h, (r.exchange h (kind.statusRequest jobId)).elapsed ≤ lag
  rested : ∀ h, ∃ late, r.pause h = .elapses late ∧ late ≤ lag

section Finishes

variable {client : SdcClient} {kind : JobKind} {jobId : String} {r : Env} {finish lag : Nat}

/-- A read of it that starts in time gets its state. -/
theorem Finishes.read (hf : Finishes client kind jobId r finish lag) {d : Nat} {h : List Event}
    (hd : clock h + lag ≤ d) :
    ∃ s, jobStatus client kind (some d) jobId r h = (.ok s,
        [.attempt (kind.statusRequest jobId) (r.exchange h (kind.statusRequest jobId))]) ∧
      (finish ≤ clock h → s.status.isTerminal = true) := by
  obtain ⟨s, hverdict, hterminal⟩ := hf.answered h
  obtain ⟨u, hatoms, hcheck⟩ := Except.bind_eq_ok_iff.mp hf.admitted
  have hprompt := hf.prompt h
  refine ⟨s, ?_, hterminal⟩
  rw [jobStatus_eq]
  unfold readCall
  rw [hatoms, Run.lift_ok_bind]
  refine get_first hcheck ?_ hverdict
  rw [Option.any_some, decide_eq_false_iff_not]
  exact Nat.not_lt.mpr ((Nat.add_le_add_left hprompt _).trans hd)

/-- A wait that starts in time is as long as it has to be. -/
theorem Finishes.rest (hf : Finishes client kind jobId r finish lag) (d ms : Nat)
    (h : List Event) (hd : clock h + ms + lag ≤ d) :
    ∃ elapsed, pause (some d) ms r h = (.ok (), [.paused elapsed .elapsed]) ∧ ms ≤ elapsed ∧
      elapsed ≤ ms + lag := by
  obtain ⟨late, hpause, hlate⟩ := hf.rested h
  refine ⟨ms + late, ?_, Nat.le_add_right _ _, Nat.add_le_add_left hlate _⟩
  have hend : pauseEnd ms (r.pause h) = (ms + late, .elapsed) := by rw [hpause]; rfl
  rw [pause_apply, hend, if_neg]
  · rfl
  · rw [Option.any_some, decide_eq_true_eq]
    show ¬ d < clock h + (ms + late)
    omega

/-- The loop, from any pass whose read is in time: a pass that goes on was before the end, and its
wait leaves room for one more read. -/
theorem Finishes.pollFrom (hf : Finishes client kind jobId r finish lag) {d : Nat}
    (hroom : finish + client.poll.maximum + 3 * lag ≤ d) (fuel : Nat) :
    ∀ (interval : Nat) (h : List Event), client.poll.initial ≤ interval →
      interval ≤ client.poll.maximum → clock h + lag ≤ d →
      d < clock h + fuel * client.poll.initial →
      ∃ s, (pollFrom client (fun race => jobStatus client kind race jobId)
        (fun job => job.status.isTerminal) d interval fuel r h).1 = .ok s := by
  induction fuel with
  | zero => intro interval h _ _ hd hfuel; omega
  | succ fuel ih =>
      intro interval h hi hmax hd hfuel
      obtain ⟨s, hread, hterminal⟩ := hf.read hd
      unfold SdcMcp.pollFrom
      rw [Run.bind_ok hread]
      by_cases hterm : s.status.isTerminal = true
      · rw [if_pos hterm]
        exact ⟨s, rfl⟩
      · rw [if_neg hterm]
        have hopen : clock h < finish := Nat.lt_of_not_le fun hlate => hterm (hterminal hlate)
        have hprompt := hf.prompt h
        have hclock : clock (h ++ [.attempt (kind.statusRequest jobId)
              (r.exchange h (kind.statusRequest jobId))])
            = clock h + (r.exchange h (kind.statusRequest jobId)).elapsed := by
          rw [clock_append]
          rfl
        obtain ⟨elapsed, hpause, hlong, hshort⟩ := hf.rest d interval
          (h ++ [.attempt (kind.statusRequest jobId) (r.exchange h (kind.statusRequest jobId))])
          (by rw [hclock]; omega)
        obtain ⟨hfuel', -⟩ := pass_time hi hfuel hlong (by rw [hclock]; omega)
        rw [Run.bind_ok hpause]
        refine ih _ _ (next_interval client hi) (Nat.min_le_right _ _) ?_ hfuel'
        rw [clock_append, hclock]
        show _ + (elapsed + 0) + lag ≤ d
        omega

/-- A poll of it gets the state it ended in, which SDC answered with. -/
theorem Finishes.pollJob (hf : Finishes client kind jobId r finish lag) {h : List Event}
    {work : Nat} (hwork : finish ≤ clock h + work)
    (hroom : work + client.poll.maximum + 3 * lag ≤ client.poll.deadline) :
    ∃ s t a, pollJob client kind jobId r h = (.ok s, t) ∧
      .attempt (kind.statusRequest jobId) a ∈ t ∧
      readVerdict client JobStatus.decode a.exchange = .ok s ∧ s.status.isTerminal = true := by
  have hrun : ∃ s, (SdcMcp.pollJob client kind jobId r h).1 = .ok s := by
    unfold SdcMcp.pollJob poll
    rw [Run.ask_bind]
    exact hf.pollFrom (by omega) _ _ h (Nat.le_refl _) client.poll.initial_le (by omega)
      (pollFuel_enough client.poll (clock h))
  obtain ⟨s, hs⟩ := hrun
  rcases pollJob_cases client kind jobId r h with ⟨e, -, hrefused⟩ | hpoll
  · rw [hrefused] at hs
    cases hs
  · rw [hs] at hpoll
    obtain ⟨a, hmem, hverdict, hterminal⟩ := hpoll.observed
    exact ⟨s, _, a, Prod.ext hs rfl, hmem, hverdict, hterminal⟩

end Finishes

/-! ### The commits -/

/-- A commit that changes nothing, or that is reconciled with the state in which SDC answered that
its job ended. -/
def Settles (client : SdcClient) (kind : JobKind) (t : List Event)
    (o : Outcome SdcError CommitOutcome) : Prop :=
  Quiet t ∨ ∃ jobId s a details,
    o = .ok (.reconciled s.status.succeeded (some jobId) (some details)) ∧
    .attempt (kind.statusRequest jobId) a ∈ t ∧
    readVerdict client JobStatus.decode a.exchange = .ok s ∧ s.status.isTerminal = true

section Commits

variable {client : SdcClient} {r : Env} {finish lag work : Nat}

/-- What a job is started for comes back with the state it ended in. -/
theorem startAndPoll_finishes {β γ : Type} {kind : JobKind} {start : Io β}
    {name : β → Except SdcError String} {conclude : String → JobStatus → γ} {b : β}
    {jobId : String} {event : Event} {h : List Event} (hstart : start r h = (.ok b, [event]))
    (hname : name b = .ok jobId) (hf : Finishes client kind jobId r finish lag)
    (hwork : finish ≤ clock h + work)
    (hroom : work + client.poll.maximum + 3 * lag ≤ client.poll.deadline) :
    ∃ s t a,
      startAndPoll client kind start name conclude r h = (.ok (conclude jobId s), event :: t) ∧
      .attempt (kind.statusRequest jobId) a ∈ t ∧
      readVerdict client JobStatus.decode a.exchange = .ok s ∧ s.status.isTerminal = true := by
  have hlater : finish ≤ clock (h ++ [event]) + work := by
    rw [clock_append]
    omega
  obtain ⟨s, t, a, hpoll, hmem, hverdict, hterminal⟩ := hf.pollJob hlater hroom
  refine ⟨s, t, a, ?_, hmem, hverdict, hterminal⟩
  unfold startAndPoll
  rw [Run.bind_ok hstart, hname, Run.lift_ok_bind, Run.bind_ok hpoll, Run.pure_apply,
    List.append_nil]
  rfl

/-- **License and certificate commits whose job ends in time.** -/
theorem SdcLicenseTransaction.commit_settles {staged : SdcPreparedLicenseWrite}
    (options : CommitOptions) {h : List Event} (hwork : finish ≤ clock h + work)
    (hroom : work + client.poll.maximum + 3 * lag ≤ client.poll.deadline)
    (hanswered : ∀ h, ∃ v jobId,
      writeVerdict client (r.exchange h (call staged).call.request).exchange = .ok v ∧
      (call staged).jobId v = .ok jobId ∧ Finishes client (call staged).kind jobId r finish lag) :
    Settles client (call staged).kind (commit client staged options r h).2
      (commit client staged options r h).1 := by
  unfold commit
  rcases commitUnchanged_cases "SDC does not support confirmed license/certificate writes" options
    (write client staged) (targetUnchanged_readsOnly client staged) r h
    with ⟨hquiet, -⟩ | ⟨s, -, hquiet, heq⟩
  · exact .inl hquiet
  rw [heq, write_eq]
  cases hadmits : (call staged).call.admits client with
  | error e =>
      have hrun := WriteCall.run_refused (call_method staged) hadmits r (h ++ gateEvents s)
      unfold startAndPoll
      rw [Run.bind_err hrun, List.append_nil]
      exact .inl (quiet_gateEvents hquiet)
  | ok u =>
      obtain ⟨v, jobId, hv, hname, hf⟩ := hanswered (h ++ gateEvents s)
      have hrun := WriteCall.run_admitted (call_method staged) hadmits r (h ++ gateEvents s)
      rw [hv] at hrun
      have hlater : finish ≤ clock (h ++ gateEvents s) + work := by
        rw [clock_append]
        omega
      obtain ⟨status, t, a, hdone, hmem, hverdict, hterminal⟩ :=
        startAndPoll_finishes hrun hname hf hlater hroom
      rw [hdone]
      exact .inr ⟨jobId, status, a, _, rfl, by simp [hmem], hverdict, hterminal⟩

/-- **Deploy commits whose job ends in time.** -/
theorem SdcTransaction.commit_settles {staged : SdcPreparedChange} (options : CommitOptions)
    {h : List Event} (hwork : finish ≤ clock h + work)
    (hroom : work + client.poll.maximum + 3 * lag ≤ client.poll.deadline)
    (hanswered : ∀ request, deployRequest staged = .ok request → ∀ h, ∃ response,
      readVerdict client DeployResponse.decode (r.exchange h
        ⟨.post, ["api", "v1", "policies", "deploy"], [], some request.encode⟩).exchange
          = .ok response ∧ validateAtom "deploy_id" response.deployId = .ok () ∧
      Finishes client .deploy response.deployId r finish lag) :
    Settles client .deploy (commit client staged options r h).2
      (commit client staged options r h).1 := by
  rcases commit_cases client staged options r h with ⟨e, heq⟩ | ⟨request, hrequest, hcheck, heq⟩
  · rw [heq]
    exact .inl quiet_nil
  · obtain ⟨response, hv, hatom, hf⟩ := hanswered request hrequest h
    have hpost := post_admitted DeployResponse.decode hcheck r h
    rw [hv] at hpost
    have hname : deployId response = .ok response.deployId := by
      unfold deployId
      rw [hatom]
      rfl
    obtain ⟨status, t, a, hdone, hmem, hverdict, hterminal⟩ :=
      startAndPoll_finishes hpost hname hf hwork hroom
    rw [heq, deployPrepared_eq, hdone]
    exact .inr ⟨response.deployId, status, a, _, rfl, List.mem_cons_of_mem _ hmem, hverdict,
      hterminal⟩

end Commits

end Jobs

/-! ### A deploy that takes two and a half seconds -/

section TimelyDeploy

def deployStarted : Json := .obj [("deploy_id", .str "dep-1")]

def deployRunning : Json := .obj [("status", .str "IN_PROGRESS")]

def deployDone : Json := .obj [("status", .str "COMPLETED")]

def timelyTables : Tables :=
  { deployTables with documents := [deployStarted, deployRunning, deployDone] }

local instance timelyCrates : Crates := timelyTables.crates

/-- An SDC that answers in ten milliseconds. -/
def timelyEnv : Env where
  exchange := fun h q => ⟨10, .replies 200 <|
    if q.method = .post then deployStarted
    else if clock h < 2500 then deployRunning else deployDone⟩
  pause := fun _ => .elapses 0
  jitterNanos := fun _ => 0

theorem timely_finishes : Finishes minuteClient .deploy "dep-1" timelyEnv 2500 10 where
  admitted := by decide +kernel
  answered := by
    intro h
    by_cases hlate : clock h < 2500
    · refine ⟨⟨.inProgress, [], "", none, none⟩, ?_, fun hdone => absurd hlate (by omega)⟩
      show readVerdict _ _ (.replies 200 (if clock h < 2500 then deployRunning else deployDone)) = _
      rw [if_pos hlate]
      decide +kernel
    · refine ⟨⟨.completed, [], "", none, none⟩, ?_, fun _ => rfl⟩
      show readVerdict _ _ (.replies 200 (if clock h < 2500 then deployRunning else deployDone)) = _
      rw [if_neg hlate]
      decide +kernel
  prompt := fun _ => Nat.le_refl 10
  rested := fun _ => ⟨0, rfl, Nat.zero_le 10⟩

/-- Its commit is reconciled with the state in which it ended. -/
example :
    Settles minuteClient .deploy
      (SdcTransaction.commit minuteClient deployChange ⟨none⟩ timelyEnv []).2
      (SdcTransaction.commit minuteClient deployChange ⟨none⟩ timelyEnv []).1 := by
  have hroom : 2500 + minuteClient.poll.maximum + 3 * 10 ≤ minuteClient.poll.deadline := by
    decide
  exact SdcTransaction.commit_settles ⟨none⟩ (Nat.le_refl 2500) hroom fun request _ h =>
    ⟨⟨"dep-1"⟩, by rfl, rfl, timely_finishes⟩

end TimelyDeploy

end SdcMcp
