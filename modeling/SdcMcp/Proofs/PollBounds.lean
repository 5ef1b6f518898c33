/-
How long a poll can last, and what it can report.

`PollRun` is the loop without its fuel: a derivation is the list of the probes that
were made, each with the wait that followed it.  Every run of `poll` has one, so the
loop of the source ends, and what holds of a poll is an induction over its probes.
The clock is the measure: a wait that runs its length takes at least the initial
interval and ends by the deadline.
-/
import SdcMcp.Model.Config
import SdcMcp.Proofs.Poll
import SdcMcp.Proofs.Retry
import SdcMcp.Proofs.Scripted

namespace SdcMcp

open Interactive Chrono

variable {α : Type}

/-! ### The loop without fuel -/

/-- The sleep after a probe that found the job still open. -/
structure Wait where
  interval : Nat
  /-- What the clock showed when it had run its length; nothing if it was cut off. -/
  completed : Option Nat

structure Probe (α : Type) where
  outcome : Outcome SdcError α
  wait : Option Wait

/-- A run of the loop from one of its passes on, by its probes. -/
inductive PollRun (probe : Option Nat → Io α) (isTerminal : α → Bool) (maximum deadline : Nat)
    (r : Env) : Nat → List Event → List (Probe α) → List Event → Outcome SdcError α → Prop where
  /-- The last probe failed or found the job finished. -/
  | ended {interval : Nat} {h t : List Event} {o : Outcome SdcError α}
      (hprobe : probe (some deadline) r h = (o, t)) (hend : ∀ s, o = .ok s → isTerminal s = true) :
      PollRun probe isTerminal maximum deadline r interval h [⟨o, none⟩] t o
  /-- The wait after the last probe was cut off. -/
  | cut {interval elapsed : Nat} {h t : List Event} {s : α} {ending : PauseEnd}
      (hprobe : probe (some deadline) r h = (.ok s, t)) (hopen : isTerminal s = false)
      (hpause : pause (some deadline) interval r (h ++ t)
        = (pauseOutcome ending, [.paused elapsed ending])) (hcut : ending ≠ .elapsed) :
      PollRun probe isTerminal maximum deadline r interval h [⟨.ok s, some ⟨interval, none⟩⟩]
        (t ++ [.paused elapsed ending])
        ((pauseOutcome ending).andThen fun _ => .error .jobDeadline)
  /-- A wait ran its length and the loop went on. -/
  | again {interval elapsed : Nat} {h t t' : List Event} {s : α} {probes : List (Probe α)}
      {o : Outcome SdcError α} (hprobe : probe (some deadline) r h = (.ok s, t))
      (hopen : isTerminal s = false)
      (hpause : pause (some deadline) interval r (h ++ t) = (.ok (), [.paused elapsed .elapsed]))
      (hlong : interval ≤ elapsed) (hby : clock (h ++ t) + elapsed ≤ deadline)
      (hrest : PollRun probe isTerminal maximum deadline r (min (interval * 2) maximum)
        (h ++ t ++ [.paused elapsed .elapsed]) probes t' o) :
      PollRun probe isTerminal maximum deadline r interval h
        (⟨.ok s, some ⟨interval, some (clock (h ++ t) + elapsed)⟩⟩ :: probes)
        (t ++ .paused elapsed .elapsed :: t') o

/-- **Every poll is such a run.** -/
theorem pollRun_pollFrom (client : SdcClient) (probe : Option Nat → Io α) (isTerminal : α → Bool)
    (d : Nat) (r : Env) (fuel : Nat) :
    ∀ (interval : Nat) (h : List Event), client.poll.initial ≤ interval → clock h ≤ d →
      d < clock h + fuel * client.poll.initial →
      ∃ probes, PollRun probe isTerminal client.poll.maximum d r interval h probes
        (pollFrom client probe isTerminal d interval fuel r h).2
        (pollFrom client probe isTerminal d interval fuel r h).1 := by
  induction fuel with
  | zero => intro interval h _ hd hfuel; omega
  | succ fuel ih =>
      intro interval h hi hd hfuel
      unfold pollFrom
      rcases hrun : probe (some d) r h with ⟨o, t⟩
      cases o with
      | err e =>
          rw [Run.bind_err hrun]
          exact ⟨_, .ended hrun (by simp)⟩
      | dropped =>
          rw [Run.bind_dropped hrun]
          exact ⟨_, .ended hrun (by simp)⟩
      | ok s =>
          rw [Run.bind_ok hrun]
          by_cases hterm : isTerminal s = true
          · rw [if_pos hterm, Run.pure_apply, List.append_nil]
            refine ⟨_, .ended hrun ?_⟩
            intro s' hs
            cases hs
            exact hterm
          · rw [if_neg hterm]
            have hopen : isTerminal s = false := by simpa using hterm
            obtain ⟨elapsed, ending, hpause, htime⟩ := pause_cases (some d) interval r (h ++ t)
            cases ending with
            | expired =>
                rw [Run.bind_err hpause]
                exact ⟨_, .cut hrun hopen hpause (by simp)⟩
            | cancelled =>
                rw [Run.bind_err hpause]
                exact ⟨_, .cut hrun hopen hpause (by simp)⟩
            | dropped =>
                rw [Run.bind_dropped hpause]
                exact ⟨_, .cut hrun hopen hpause (by simp)⟩
            | elapsed =>
                obtain ⟨hlong, hlate⟩ := htime rfl
                obtain ⟨hfuel', hd'⟩ := pass_time hi hfuel hlong (hlate d rfl)
                obtain ⟨probes, hprobes⟩ := ih _ _ (next_interval client hi) hd' hfuel'
                rw [Run.bind_ok hpause]
                exact ⟨_, .again hrun hopen hpause hlong (hlate d rfl) hprobes⟩

theorem pollRun_poll (client : SdcClient) (probe : Option Nat → Io α) (isTerminal : α → Bool)
    (r : Env) (h : List Event) :
    ∃ probes, PollRun probe isTerminal client.poll.maximum (clock h + client.poll.deadline) r
      client.poll.initial h probes (poll client probe isTerminal r h).2
      (poll client probe isTerminal r h).1 := by
  unfold poll
  rw [Run.ask_bind]
  exact pollRun_pollFrom client probe isTerminal _ r _ _ h (Nat.le_refl _) (Nat.le_add_right _ _)
    (pollFuel_enough client.poll (clock h))

/-! ### What holds of the probes of a run -/

section Probes

variable {probe : Option Nat → Io α} {isTerminal : α → Bool}
  {initial maximum deadline interval : Nat} {r : Env} {h t : List Event} {o : Outcome SdcError α}
  {probes : List (Probe α)}

/-- The waits of a run, in order. -/
def waits (probes : List (Probe α)) : List Wait := probes.filterMap Probe.wait

/-- All probes but the last leave the initial interval behind them. -/
theorem PollRun.probes_le
    (hrun : PollRun probe isTerminal maximum deadline r interval h probes t o)
    (hinitial : initial ≤ interval) (hmax : initial ≤ maximum) (hclock : clock h ≤ deadline) :
    clock h + (probes.length - 1) * initial ≤ deadline := by
  induction hrun with
  | ended hprobe hend => simpa using hclock
  | cut hprobe hopen hpause hcut => simpa using hclock
  | @again interval elapsed h t t' s probes o hprobe hopen hpause hlong hby hrest ih =>
      have hnext : clock (h ++ t ++ [.paused elapsed .elapsed]) = clock (h ++ t) + elapsed := by
        rw [clock_append]
        rfl
      have hmono : clock h ≤ clock (h ++ t) := by
        rw [clock_append]
        omega
      have hrec := ih (by omega) (by rw [hnext]; exact hby)
      rw [hnext] at hrec
      rw [List.length_cons, Nat.add_sub_cancel]
      -- The rest of the run has a probe of its own, so one more wait lies before its last one.
      have hone : probes.length * initial ≤ (probes.length - 1) * initial + initial := by
        cases probes with
        | nil => simp
        | cons p rest => simp [Nat.succ_mul]
      omega

/-- A wait that ran its length ended by the deadline. -/
theorem PollRun.completed_le
    (hrun : PollRun probe isTerminal maximum deadline r interval h probes t o) :
    ∀ w ∈ waits probes, ∀ time ∈ w.completed, time ≤ deadline := by
  induction hrun with
  | ended hprobe hend => simp [waits]
  | cut hprobe hopen hpause hcut => simp [waits]
  | again hprobe hopen hpause hlong hby hrest ih =>
      intro w hw
      rcases List.mem_cons.mp hw with rfl | hw
      · simpa using hby
      · exact ih w hw

/-- The first wait has the interval of its pass, and no later wait is shorter. -/
theorem PollRun.waits_ge
    (hrun : PollRun probe isTerminal maximum deadline r interval h probes t o)
    (hmax : interval ≤ maximum) :
    (∀ w ∈ waits probes, interval ≤ w.interval ∧ w.interval ≤ maximum) ∧
      (waits probes).Pairwise fun a b => a.interval ≤ b.interval := by
  induction hrun with
  | ended hprobe hend => simp [waits]
  | cut hprobe hopen hpause hcut => simpa [waits] using hmax
  | @again interval elapsed h t t' s probes o hprobe hopen hpause hlong hby hrest ih =>
      obtain ⟨hrange, hsorted⟩ := ih (Nat.min_le_right _ _)
      have hlater : ∀ w ∈ waits probes, interval ≤ w.interval ∧ w.interval ≤ maximum := by
        intro w hw
        have hw' := hrange w hw
        omega
      refine ⟨?_, List.pairwise_cons.mpr ⟨fun w hw => (hlater w hw).1, hsorted⟩⟩
      intro w hw
      rcases List.mem_cons.mp hw with rfl | hw
      · exact ⟨Nat.le_refl _, hmax⟩
      · exact hlater w hw

/-- A value is a terminal state, and no probe before it showed one. -/
theorem PollRun.first_terminal
    (hrun : PollRun probe isTerminal maximum deadline r interval h probes t o) {s : α}
    (hs : o = .ok s) :
    isTerminal s = true ∧ ∃ before, probes = before ++ [⟨.ok s, none⟩] ∧
      ∀ p ∈ before, ∃ s', p.outcome = .ok s' ∧ isTerminal s' = false := by
  induction hrun with
  | ended hprobe hend =>
      subst hs
      exact ⟨hend s rfl, [], rfl, by simp⟩
  | @cut interval elapsed h t s' ending hprobe hopen hpause hcut =>
      cases ending with
      | elapsed => exact absurd rfl hcut
      | expired => cases hs
      | cancelled => cases hs
      | dropped => cases hs
  | again hprobe hopen hpause hlong hby hrest ih =>
      obtain ⟨hterm, before, rfl, hbefore⟩ := ih hs
      refine ⟨hterm, _ :: before, rfl, ?_⟩
      intro p hp
      rcases List.mem_cons.mp hp with rfl | hp
      · exact ⟨_, rfl, hopen⟩
      · exact hbefore p hp

/-- The requests of a run are those of its probes. -/
theorem PollRun.tries_le
    (hrun : PollRun probe isTerminal maximum deadline r interval h probes t o) {most : Nat}
    (hprobe : ∀ h, tries (probe (some deadline) r h).2 ≤ most) :
    tries t ≤ most * probes.length := by
  induction hrun with
  | @ended interval h t o hrun hend =>
      have hle : tries t ≤ most := by simpa [hrun] using hprobe h
      simpa using hle
  | @cut interval elapsed h t s ending hrun hopen hpause hcut =>
      have hle : tries t ≤ most := by simpa [hrun] using hprobe h
      rw [tries_append, tries_paused, tries_nil]
      simpa using hle
  | @again interval elapsed h t t' s probes o hrun hopen hpause hlong hby hrest ih =>
      have hle : tries t ≤ most := by simpa [hrun] using hprobe h
      rw [tries_append, tries_paused, List.length_cons, Nat.mul_succ]
      omega

end Probes

/-! ### The bounds in machine arithmetic -/

/-- The next interval as the source computes it. -/
def nextInterval (interval maximum : Duration) : Duration :=
  (interval.saturatingMul 2).min maximum

/-- Doubling a wait of 64-bit milliseconds does not reach the longest span, so the interval of
the next pass is the one the model uses. -/
theorem nextInterval_exact (interval maximum : UInt64) :
    ((Duration.fromMillis interval).saturatingMul 2).nanos = 2 * interval.toNat * 1000000 ∧
      (nextInterval (Duration.fromMillis interval) (Duration.fromMillis maximum)).nanos
        = min (interval.toNat * 2) maximum.toNat * 1000000 := by
  have hfits : (Duration.fromMillis interval).nanos * (2 : UInt32).toNat < nanosLimit := by
    have h := interval.toNat_lt
    have htwo : (2 : UInt32).toNat = 2 := rfl
    rw [Duration.fromMillis_nanos, htwo]
    unfold nanosLimit
    omega
  have hdouble := Duration.saturatingMul_exact hfits
  have htwo : (2 : UInt32).toNat = 2 := rfl
  rw [Duration.fromMillis_nanos, htwo] at hdouble
  constructor
  · rw [hdouble]
    omega
  · unfold nextInterval
    rw [Duration.min_nanos, hdouble, Duration.fromMillis_nanos]
    omega

/-- What a poll keeps to under its settings, by its probes and its events. -/
structure PollKeeps (settings : PollSettings) (isTerminal : α → Bool) (start : Nat)
    (probes : List (Probe α)) (t : List Event) (o : Outcome SdcError α) : Prop where
  count : probes.length ≤ settings.deadline / settings.initial + 1
  /-- No probe sends more than a request and its three retries. -/
  tried : tries t ≤ 4 * probes.length
  completed : ∀ w ∈ waits probes, ∀ time ∈ w.completed, time ≤ start + settings.deadline
  sorted : (waits probes).Pairwise fun a b => a.interval ≤ b.interval
  range : ∀ w ∈ waits probes, settings.initial ≤ w.interval ∧ w.interval ≤ settings.maximum
  /-- Every wait is a span of 64-bit milliseconds, and doubling it is exact. -/
  exact : ∀ w ∈ waits probes, ∃ ms : UInt64, ms.toNat = w.interval ∧
    ((Duration.fromMillis ms).saturatingMul 2).nanos = 2 * w.interval * 1000000
  terminal : ∀ s, o = .ok s → isTerminal s = true ∧ ∃ before,
    probes = before ++ [⟨.ok s, none⟩] ∧
      ∀ p ∈ before, ∃ s', p.outcome = .ok s' ∧ isTerminal s' = false

theorem pollKeeps {config : SdcConfig} {settings : PollSettings}
    (hsettings : config.pollSettings = .ok settings) {probe : Option Nat → Io α}
    {isTerminal : α → Bool} {r : Env} {h t : List Event} {o : Outcome SdcError α}
    {probes : List (Probe α)} (hprobe : ∀ race h, tries (probe race r h).2 ≤ 4)
    (hrun : PollRun probe isTerminal settings.maximum (clock h + settings.deadline) r
      settings.initial h probes t o) :
    PollKeeps settings isTerminal (clock h) probes t o := by
  obtain ⟨hrange, hsorted⟩ := hrun.waits_ge settings.initial_le
  have hcount := hrun.probes_le (Nat.le_refl _) settings.initial_le (Nat.le_add_right _ _)
  refine ⟨?_, hrun.tries_le (hprobe _), hrun.completed_le, hsorted, hrange, ?_,
    fun s hs => hrun.first_terminal hs⟩
  · have hdiv : probes.length - 1 ≤ settings.deadline / settings.initial := by
      rw [Nat.le_div_iff_mul_le settings.initial_pos]
      omega
    omega
  · intro w hw
    have hmax : w.interval < 2 ^ 64 := by
      have hw' := (hrange w hw).2
      rw [(SdcConfig.pollSettings_ok hsettings).2.1] at hw'
      have hlt := config.pollMaxMs.toNat_lt
      omega
    have hms : (UInt64.ofNat w.interval).toNat = w.interval := UInt64.toNat_ofNat_of_lt hmax
    refine ⟨UInt64.ofNat w.interval, hms, ?_⟩
    have hdouble := (nextInterval_exact (UInt64.ofNat w.interval) 0).1
    rw [hms] at hdouble
    exact hdouble

/-! ### The two loops -/

theorem DeploymentStatus.isTerminal_unrecognized (value : String) :
    (DeploymentStatus.unrecognized value).isTerminal = false := rfl

theorem DeviceSyncStatus.isTerminal_unrecognized (value : String) :
    (DeviceSyncStatus.unrecognized value).isTerminal = false := rfl

section Loops

variable [Crates]

theorem jobStatus_tries_le (client : SdcClient) (kind : JobKind) (race : Option Nat)
    (jobId : String) (r : Env) (h : List Event) :
    tries (jobStatus client kind race jobId r h).2 ≤ 4 := by
  cases kind <;> exact readCall_tries_le ..

/-- **Polling ends, and reports the first terminal state.**  Both loops make at most one probe
more than the initial interval fits into the deadline, wait within their bounds and not past the
deadline, and succeed only with a state they know to be terminal. -/
theorem poll_bounded {config : SdcConfig} {client : SdcClient}
    (hsettings : config.pollSettings = .ok client.poll) (r : Env) (h : List Event) :
    (∀ kind jobId, ∃ probes,
      PollRun (fun race => jobStatus client kind race jobId) (fun job => job.status.isTerminal)
        client.poll.maximum (clock h + client.poll.deadline) r client.poll.initial h probes
        (pollJob client kind jobId r h).2 (pollJob client kind jobId r h).1 ∧
      PollKeeps client.poll (fun job => job.status.isTerminal) (clock h) probes
        (pollJob client kind jobId r h).2 (pollJob client kind jobId r h).1 ∧
      ∀ job, (pollJob client kind jobId r h).1 = .ok job →
        ∀ value, job.status ≠ .unrecognized value) ∧
    (∀ syncId, ∃ probes,
      PollRun (fun race => syncDevicesStatus client race syncId) (fun job => job.status.isTerminal)
        client.poll.maximum (clock h + client.poll.deadline) r client.poll.initial h probes
        (pollDeviceSync client syncId r h).2 (pollDeviceSync client syncId r h).1 ∧
      PollKeeps client.poll (fun job => job.status.isTerminal) (clock h) probes
        (pollDeviceSync client syncId r h).2 (pollDeviceSync client syncId r h).1 ∧
      ∀ job, (pollDeviceSync client syncId r h).1 = .ok job →
        ∀ value, job.status ≠ .unrecognized value) := by
  constructor
  · intro kind jobId
    obtain ⟨probes, hrun⟩ := pollRun_poll client (fun race => jobStatus client kind race jobId)
      (fun job => job.status.isTerminal) r h
    refine ⟨probes, hrun, pollKeeps hsettings (fun _ _ => jobStatus_tries_le ..) hrun, ?_⟩
    intro job hjob value hvalue
    have hterm := (hrun.first_terminal hjob).1
    rw [hvalue, DeploymentStatus.isTerminal_unrecognized] at hterm
    cases hterm
  · intro syncId
    obtain ⟨probes, hrun⟩ := pollRun_poll client (fun race => syncDevicesStatus client race syncId)
      (fun job => job.status.isTerminal) r h
    refine ⟨probes, hrun, pollKeeps hsettings (fun _ _ => readCall_tries_le ..) hrun, ?_⟩
    intro job hjob value hvalue
    have hterm := (hrun.first_terminal hjob).1
    rw [hvalue, DeviceSyncStatus.isTerminal_unrecognized] at hterm
    cases hterm

end Loops

section Defaults

/-- A deploy that has not ended. -/
def openDeploy : Json := .obj [("status", .str "IN_PROGRESS")]

local instance bareCrates : Crates := (⟨[openDeploy], []⟩ : Tables).crates

/-- An SDC where no deploy ever ends. -/
def openEnv : Env := Env.answering fun _ => .replies 200 openDeploy

/-- Under the default settings it is asked about 43 times, within the 481 that are allowed, until
the deadline ends the poll. -/
theorem default_poll_bounded :
    tries (pollJob (defaultClient 200) .deploy "job-1" openEnv []).2 = 43 ∧
    (pollJob (defaultClient 200) .deploy "job-1" openEnv []).1 = .err .jobDeadline ∧
    ∃ probes : List (Probe JobStatus), probes.length ≤ 481 ∧
      PollKeeps (defaultClient 200).poll (fun job => job.status.isTerminal) 0 probes
        (pollJob (defaultClient 200) .deploy "job-1" openEnv []).2
        (pollJob (defaultClient 200) .deploy "job-1" openEnv []).1 := by
  have hsettings : (defaultConfig 200).pollSettings = .ok (defaultClient 200).poll := by rfl
  obtain ⟨probes, -, hkeeps, -⟩ := (poll_bounded hsettings openEnv []).1 .deploy "job-1"
  exact ⟨by decide +kernel, by decide +kernel, probes, hkeeps.count, hkeeps⟩

end Defaults

end SdcMcp
