/-
Polling ends, and it ends for a reason.

A pass that does not end the loop sleeps its interval, which is at least the
initial one, and the deadline bounds when that sleep may end.  So the clock gains
the initial interval in every pass and stays at or below the deadline, and
`pollFuel` passes are enough: `pollFrom_fuel`.

With the fuel out of the way the run of a poll has the shape of a read: everything
before the last event is passed, an answer that asks for a retry or shows a state
that is not terminal, and the last event decides the outcome.
-/
import SdcMcp.Model.Jobs
import SdcMcp.Proofs.Send

namespace SdcMcp

open Interactive

variable {α : Type}

theorem clock_append (h t : List Event) : clock (h ++ t) = clock h + clock t := by
  unfold clock
  rw [List.map_append, List.sum_append]

/-! ### Enough fuel -/

/-- What a pass that goes on leaves for the next one. -/
theorem pass_time {d initial interval ms fuel : Nat} {h t : List Event}
    (hi : initial ≤ interval) (hfuel : d < clock h + (fuel + 1) * initial)
    (hms : interval ≤ ms) (hd : clock (h ++ t) + ms ≤ d) :
    d < clock (h ++ t ++ [.paused ms .elapsed]) + fuel * initial ∧
      clock (h ++ t ++ [.paused ms .elapsed]) ≤ d := by
  have hclock : clock (h ++ t ++ [.paused ms .elapsed]) = clock (h ++ t) + ms := by
    rw [clock_append]
    rfl
  have hmono : clock h ≤ clock (h ++ t) := by
    rw [clock_append]
    omega
  rw [Nat.succ_mul] at hfuel
  omega

theorem next_interval (client : SdcClient) {interval : Nat}
    (hi : client.poll.initial ≤ interval) :
    client.poll.initial ≤ min (interval * 2) client.poll.maximum := by
  have := client.poll.initial_le
  omega

theorem pollFuel_enough (settings : PollSettings) (now : Nat) :
    now + settings.deadline < now + pollFuel settings * settings.initial := by
  have hdiv := Nat.div_add_mod settings.deadline settings.initial
  have hmod := Nat.mod_lt settings.deadline settings.initial_pos
  have hcomm := Nat.mul_comm settings.initial (settings.deadline / settings.initial)
  unfold pollFuel
  rw [Nat.succ_mul]
  omega

/-- **Fuel is no bound.**  Once the deadline is within reach, more fuel changes nothing. -/
theorem pollFrom_fuel (client : SdcClient) (probe : Option Nat → Io α) (isTerminal : α → Bool)
    (d extra : Nat) (r : Env) (fuel : Nat) :
    ∀ (interval : Nat) (h : List Event), client.poll.initial ≤ interval → clock h ≤ d →
      d < clock h + fuel * client.poll.initial →
      pollFrom client probe isTerminal d interval (fuel + extra) r h
        = pollFrom client probe isTerminal d interval fuel r h := by
  induction fuel with
  | zero => intro interval h _ hd hfuel; omega
  | succ fuel ih =>
      intro interval h hi hd hfuel
      rw [Nat.succ_add]
      unfold pollFrom
      rcases hrun : probe (some d) r h with ⟨o, t⟩
      cases o with
      | err e => rw [Run.bind_err hrun, Run.bind_err hrun]
      | dropped => rw [Run.bind_dropped hrun, Run.bind_dropped hrun]
      | ok s =>
          rw [Run.bind_ok hrun, Run.bind_ok hrun]
          by_cases hterm : isTerminal s = true
          · rw [if_pos hterm, if_pos hterm]
          · rw [if_neg hterm, if_neg hterm]
            obtain ⟨ms, ending, hpause, htime⟩ := pause_cases (some d) interval r (h ++ t)
            cases ending with
            | expired => rw [Run.bind_err hpause, Run.bind_err hpause]
            | cancelled => rw [Run.bind_err hpause, Run.bind_err hpause]
            | dropped => rw [Run.bind_dropped hpause, Run.bind_dropped hpause]
            | elapsed =>
                obtain ⟨hms, hlate⟩ := htime rfl
                obtain ⟨hfuel', hd'⟩ := pass_time hi hfuel hms (hlate d rfl)
                rw [Run.bind_ok hpause, Run.bind_ok hpause,
                  ih _ _ (next_interval client hi) hd' hfuel']

/-- A probe that is refused locally ends the poll at once. -/
theorem poll_refused {client : SdcClient} {probe : Option Nat → Io α} {isTerminal : α → Bool}
    {e : SdcError} (hprobe : ∀ race r h, probe race r h = (.err e, [])) (r : Env)
    (h : List Event) : poll client probe isTerminal r h = (.err e, []) := by
  unfold poll pollFuel
  rw [Run.ask_bind]
  unfold pollFrom
  exact Run.bind_err (hprobe _ r h)

/-! ### The run of a poll -/

variable [Crates]

/-- An exchange a poll goes on after. -/
def PollPasses (client : SdcClient) (decode : Json → Option α) (isTerminal : α → Bool)
    (x : Exchange) : Prop :=
  Retries client x ∨ ∃ s, readVerdict client decode x = .ok s ∧ isTerminal s = false

/-- A poll run: a run of reads that never passes a terminal state and only returns one. -/
structure Polling (client : SdcClient) (decode : Json → Option α) (isTerminal : α → Bool)
    (request : Request) (t : List Event) (o : Outcome SdcError α) : Prop where
  reading : Reading (readVerdict client decode) (PollPasses client decode isTerminal) request t o
  terminal : ∀ s, o = .ok s → isTerminal s = true

section Polling

variable {client : SdcClient} {decode : Json → Option α} {isTerminal : α → Bool}
  {request : Request} {probe : Option Nat → Io α}

/-- The loop, from any pass whose fuel is enough. -/
theorem polling_pollFrom
    (hprobe : ∀ race r h, Reading (readVerdict client decode) (Retries client) request
      (probe race r h).2 (probe race r h).1) (d : Nat) (r : Env) (fuel : Nat) :
    ∀ (interval : Nat) (h : List Event), client.poll.initial ≤ interval → clock h ≤ d →
      d < clock h + fuel * client.poll.initial →
      Polling client decode isTerminal request
        (pollFrom client probe isTerminal d interval fuel r h).2
        (pollFrom client probe isTerminal d interval fuel r h).1 := by
  induction fuel with
  | zero => intro interval h _ hd hfuel; omega
  | succ fuel ih =>
      intro interval h hi hd hfuel
      have hread := hprobe (some d) r h
      unfold pollFrom
      rcases hrun : probe (some d) r h with ⟨o, t⟩
      rw [hrun] at hread
      cases o with
      | err e =>
          rw [Run.bind_err hrun]
          exact ⟨hread.weaken fun _ => Or.inl, by intro s hc; cases hc⟩
      | dropped =>
          rw [Run.bind_dropped hrun]
          exact ⟨hread.weaken fun _ => Or.inl, by intro s hc; cases hc⟩
      | ok s =>
          rw [Run.bind_ok hrun]
          by_cases hterm : isTerminal s = true
          · rw [if_pos hterm, Run.pure_apply, List.append_nil]
            refine ⟨hread.weaken fun _ => Or.inl, ?_⟩
            intro s' hs
            cases hs
            exact hterm
          · rw [if_neg hterm]
            -- The probe ran to its end and showed a state that is not terminal.
            have hpass : ∀ e ∈ t, Passes (PollPasses client decode isTerminal) request e :=
              fun e he => (hread.passes_ok e he).imp fun x =>
                Or.imp id fun hv => ⟨s, hv, by simpa using hterm⟩
            rcases pause_bind_cases (readVerdict client decode) request (some d) interval _ r
              (h ++ t) with ⟨last, o, heq, hend, hnone⟩ | ⟨elapsed, hlong, hlate, heq⟩
            · rw [heq]
              exact ⟨Reading.prepend hpass (Reading.single hend),
                fun s hs => absurd hs (hnone s)⟩
            · obtain ⟨hfuel', hd'⟩ := pass_time hi hfuel hlong (hlate d rfl)
              have hrest := ih _ _ (next_interval client hi) hd' hfuel'
              rw [heq]
              exact ⟨Reading.prepend hpass (Reading.cons trivial hrest.reading), hrest.terminal⟩

/-- **The run of a poll.** -/
theorem polling_poll
    (hprobe : ∀ race r h, Reading (readVerdict client decode) (Retries client) request
      (probe race r h).2 (probe race r h).1) (r : Env) (h : List Event) :
    Polling client decode isTerminal request (poll client probe isTerminal r h).2
      (poll client probe isTerminal r h).1 := by
  unfold poll
  rw [Run.ask_bind]
  exact polling_pollFrom hprobe _ r _ _ h (Nat.le_refl _) (Nat.le_add_right _ _)
    (pollFuel_enough client.poll (clock h))

end Polling

end SdcMcp
