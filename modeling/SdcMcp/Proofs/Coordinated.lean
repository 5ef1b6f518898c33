/-
What a transaction sends once it commits.

The five writes that are staged through a change coordinator share one shape.  A
transaction reads its target when it validates and again when it commits, and only
an unchanged target is written; the write is refused with nothing sent, or is one
attempt followed by reads.  `Gated` is that shape: whatever an application does
with a transaction is derived from it, and each kind is shown to have it once.
-/
import SdcMcp.Model.ChangeManager
import SdcMcp.Proofs.LicenseOutcome
import SdcMcp.Proofs.SyncOutcome

namespace SdcMcp

open Interactive

variable {α β : Type}

/-! ### What a transaction sends -/

/-- The write of a commit: refused with nothing sent, or one attempt followed by reads.  When
the attempt was not handed over, `leavesOpen` says whether the write ended without an error. -/
structure Sends (write : Io CommitOutcome) (request : Except SdcError Request)
    (leavesOpen : Exchange → Bool) : Prop where
  refused : ∀ e, request = .error e → ∀ r h, ∃ e', write r h = (.err e', [])
  mutating : ∀ q, request = .ok q → q.mutating = true
  sent : ∀ q, request = .ok q → ∀ r h, ∃ o after,
    write r h = (o, .attempt q (r.exchange h q) :: after) ∧ Reads after ∧
      ((r.exchange h q).exchange.handed = false →
        ((∀ e, o ≠ .err e) ↔ leavesOpen (r.exchange h q).exchange = true))

/-- A transaction that validates and commits around one read of its target. -/
structure Gated (transaction : Transaction α β) (unchanged : α → Io Bool)
    (request : α → Except SdcError Request) (leavesOpen : Exchange → Bool) : Prop where
  reads : ∀ staged, ReadsOnly (unchanged staged)
  validate_eq : ∀ staged, ∃ report,
    transaction.validate staged = validateUnchanged (unchanged staged) report
  commit_eq : ∀ staged, ∃ unsupported write, Sends write (request staged) leavesOpen ∧
    transaction.commit staged ⟨none⟩ =
      commitUnchanged unsupported ⟨none⟩ (unchanged staged) write

theorem validateUnchanged_cases (unchanged : Io Bool) (report : Bool → β) (r : Env)
    (h : List Event) :
    (validateUnchanged unchanged report r h).2 = (unchanged r h).2 ∧
      ((∃ v, (validateUnchanged unchanged report r h).1 = .ok v) ↔
        (unchanged r h).1 = .ok true) := by
  unfold validateUnchanged
  rcases hrun : unchanged r h with ⟨o, t⟩
  cases o with
  | err e =>
      rw [Run.bind_err hrun]
      exact ⟨rfl, iff_of_false (by rintro ⟨v, hv⟩; cases hv) (by intro hc; cases hc)⟩
  | dropped =>
      rw [Run.bind_dropped hrun]
      exact ⟨rfl, iff_of_false (by rintro ⟨v, hv⟩; cases hv) (by intro hc; cases hc)⟩
  | ok same =>
      rw [Run.bind_ok hrun]
      cases same with
      | true =>
          rw [if_pos rfl, Run.pure_apply, List.append_nil]
          exact ⟨rfl, iff_of_true ⟨_, rfl⟩ rfl⟩
      | false =>
          rw [if_neg (by decide), Run.fail_apply, List.append_nil]
          exact ⟨rfl, iff_of_false (by rintro ⟨v, hv⟩; cases hv) (by intro hc; cases hc)⟩

/-! ### The run of a commit -/

section Commit

variable {transaction : Transaction α β} {unchanged : α → Io Bool}
  {request : α → Except SdcError Request} {leavesOpen : Exchange → Bool}

/-- A commit stops with the flag up, or passes its gate and sends what it has to send. -/
theorem Gated.commit_cases (hg : Gated transaction unchanged request leavesOpen) (staged : α)
    (r : Env) (h : List Event) :
    (∃ s o, transaction.commit staged ⟨none⟩ r h = (o, .markRefused true :: s) ∧ Reads s ∧
      (∀ out, o ≠ .ok out) ∧ (unchanged staged r (h ++ [.markRefused true])).1 ≠ .ok true) ∨
    ∃ s, unchanged staged r (h ++ [.markRefused true]) = (.ok true, s) ∧ Reads s ∧
      ((∃ e e', request staged = .error e ∧
        transaction.commit staged ⟨none⟩ r h = (.err e', gateEvents s)) ∨
      ∃ q o after, request staged = .ok q ∧ q.mutating = true ∧
        transaction.commit staged ⟨none⟩ r h =
          (o, gateEvents s ++ .attempt q (r.exchange (h ++ gateEvents s) q) :: after) ∧
        Reads after ∧
        ((r.exchange (h ++ gateEvents s) q).exchange.handed = false →
          ((∀ e, o ≠ .err e) ↔
            leavesOpen (r.exchange (h ++ gateEvents s) q).exchange = true))) := by
  obtain ⟨unsupported, write, hsends, hcommit⟩ := hg.commit_eq staged
  have hconfirm : (⟨none⟩ : CommitOptions).confirmTimeout.isSome ≠ true := by decide
  have hreads := hg.reads staged r (h ++ [.markRefused true])
  rw [hcommit]
  rcases hrun : unchanged staged r (h ++ [.markRefused true]) with ⟨o, s⟩
  rw [hrun] at hreads
  by_cases hsame : o = .ok true
  · subst hsame
    refine Or.inr ⟨s, hrun, hreads, ?_⟩
    rw [commitUnchanged_writes hconfirm hrun]
    cases hq : request staged with
    | error e =>
        obtain ⟨e', hwrite⟩ := hsends.refused e hq r (h ++ gateEvents s)
        rw [hwrite, List.append_nil]
        exact Or.inl ⟨e, e', rfl, rfl⟩
    | ok q =>
        obtain ⟨o, after, hwrite, hafter, hopen⟩ := hsends.sent q hq r (h ++ gateEvents s)
        rw [hwrite]
        exact Or.inr ⟨q, o, after, rfl, hsends.mutating q hq, rfl, hafter, hopen⟩
  · rw [commitUnchanged_stopped hconfirm hrun hsame]
    refine Or.inl ⟨s, stopped o, rfl, hreads, ?_, by rw [hrun]; exact hsame⟩
    intro out hc
    cases o <;> cases hc

end Commit

/-! ### The five transactions -/

section Kinds

variable [Crates]

/-- Unsent writes of a plain transaction that do not fail: only an error of the builder does. -/
def leavesPlain : Exchange → Bool
  | .unsent _ => true
  | .sendError error => error.isTimeout
  | _ => false

/-- Unsent license and certificate writes that do not fail: the caller has to be gone. -/
def leavesLicense : Exchange → Bool
  | .unsent why => why = .dropped
  | _ => false

/-- Unsent device syncs that do not fail: a cancellation is taken for a sync that was sent. -/
def leavesSync : Exchange → Bool
  | .unsent why => why ≠ .timedOut
  | _ => false

theorem commitWrite_sends {client : SdcClient} {call : Except SdcError WriteCall}
    (hget : ∀ c, call = .ok c → c.method ≠ .get) (details reason : String) :
    Sends (commitWrite client details reason call)
      ((admitted client call).map WriteCall.request) leavesPlain where
  refused := by
    intro e he r h
    cases hcall : admitted client call with
    | ok c =>
        rw [hcall] at he
        cases he
    | error e' => exact ⟨e', commitWrite_refused hget hcall details reason r h⟩
  mutating := by
    intro q hq
    cases hcall : admitted client call with
    | ok c =>
        rw [hcall] at hq
        cases hq
        exact WriteCall.request_mutating (hget c (admitted_ok_iff.mp hcall).1)
    | error e =>
        rw [hcall] at hq
        cases hq
  sent := by
    intro q hq r h
    cases hcall : admitted client call with
    | error e =>
        rw [hcall] at hq
        cases hq
    | ok c =>
        rw [hcall] at hq
        cases hq
        refine ⟨_, [], commitWrite_sent hget hcall details reason r h, reads_nil, ?_⟩
        intro hhanded
        cases hx : (r.exchange h c.request).exchange with
        | unanswered why =>
            rw [hx] at hhanded
            cases hhanded
        | answered answer =>
            rw [hx] at hhanded
            cases hhanded
        | unsent why =>
            refine iff_of_true ?_ rfl
            intro e hc
            cases why <;> cases hc
        | sendError error =>
            rw [settleWrite_sendError]
            show _ ↔ error.isTimeout = true
            by_cases htime : error.isTimeout = true
            · rw [if_pos htime]
              exact iff_of_true (by intro e hc; cases hc) htime
            · rw [if_neg htime]
              exact iff_of_false (fun hall => hall _ rfl) htime

namespace SdcObjectTransaction

/-- The request a commit sends, unless the transaction or the client refuses it. -/
def request (client : SdcClient) (staged : SdcPreparedObjectWrite) : Except SdcError Request :=
  (admitted client (call staged)).map WriteCall.request

theorem gated (client : SdcClient) (digest : String) :
    Gated (sdcObjectTransaction client digest) (targetUnchanged client) (request client)
      leavesPlain where
  reads := targetUnchanged_readsOnly client
  validate_eq := fun _ => ⟨_, rfl⟩
  commit_eq := fun staged => ⟨_, _, commitWrite_sends (call_method staged) _ _, rfl⟩

end SdcObjectTransaction

namespace SdcFirewallTransaction

def request (client : SdcClient) (staged : SdcPreparedFirewallWrite) : Except SdcError Request :=
  (admitted client (call staged)).map WriteCall.request

theorem gated (client : SdcClient) (digest : String) :
    Gated (sdcFirewallTransaction client digest) (targetUnchanged client) (request client)
      leavesPlain where
  reads := targetUnchanged_readsOnly client
  validate_eq := fun _ => ⟨_, rfl⟩
  commit_eq := fun staged => ⟨_, _, commitWrite_sends (call_method staged) _ _, rfl⟩

end SdcFirewallTransaction

namespace SdcNatTransaction

def request (client : SdcClient) (staged : SdcPreparedNatWrite) : Except SdcError Request :=
  (admitted client (call staged)).map WriteCall.request

theorem gated (client : SdcClient) (digest : String) :
    Gated (sdcNatTransaction client digest) (targetUnchanged client) (request client)
      leavesPlain where
  reads := targetUnchanged_readsOnly client
  validate_eq := fun _ => ⟨_, rfl⟩
  commit_eq := fun staged => ⟨_, _, commitWrite_sends (call_method staged) _ _, rfl⟩

end SdcNatTransaction

namespace SdcLicenseTransaction

def request (client : SdcClient) (staged : SdcPreparedLicenseWrite) : Except SdcError Request := do
  (call staged).call.admits client
  return (call staged).call.request

theorem write_sends (client : SdcClient) (staged : SdcPreparedLicenseWrite) :
    Sends (write client staged) (request client staged) leavesLicense where
  refused := by
    intro e he r h
    rcases Except.bind_eq_error_iff.mp he with hadmits | ⟨u, -, hok⟩
    · have hrun := WriteCall.run_refused (call_method staged) hadmits r h
      rw [write_eq]
      exact ⟨e, Run.bind_err hrun⟩
    · cases hok
  mutating := by
    intro q hq
    obtain ⟨u, -, hok⟩ := Except.bind_eq_ok_iff.mp hq
    cases hok
    exact WriteCall.request_mutating (call_method staged)
  sent := by
    intro q hq r h
    obtain ⟨u, hadmits, hok⟩ := Except.bind_eq_ok_iff.mp hq
    cases hok
    have hrun := WriteCall.run_admitted (call_method staged) hadmits r h
    rw [write_eq]
    cases hx : (r.exchange h (call staged).call.request).exchange with
    | unsent why =>
        rw [hx] at hrun
        cases why with
        | dropped =>
            refine ⟨_, [], Run.bind_dropped hrun, reads_nil, fun _ => ?_⟩
            exact iff_of_true (by intro e hc; cases hc) rfl
        | cancelled =>
            refine ⟨_, [], Run.bind_err hrun, reads_nil, fun _ => ?_⟩
            exact iff_of_false (fun hall => hall _ rfl) (by decide)
        | timedOut =>
            refine ⟨_, [], Run.bind_err hrun, reads_nil, fun _ => ?_⟩
            exact iff_of_false (fun hall => hall _ rfl) (by decide)
    | sendError error =>
        rw [hx] at hrun
        refine ⟨_, [], Run.bind_err hrun, reads_nil, fun _ => ?_⟩
        exact iff_of_false (fun hall => hall _ rfl) nofun
    | unanswered why =>
        obtain ⟨after, hafter, hstarted⟩ := startAndPoll_started (call staged).kind _
          (fun _ => false) (fun _ _ => rfl) (fun _ _ => JobCall.jobId_error) hrun
        exact ⟨_, after, Prod.ext rfl hafter, hstarted.reads, by intro hc; cases hc⟩
    | answered answer =>
        obtain ⟨after, hafter, hstarted⟩ := startAndPoll_started (call staged).kind _
          (fun _ => false) (fun _ _ => rfl) (fun _ _ => JobCall.jobId_error) hrun
        exact ⟨_, after, Prod.ext rfl hafter, hstarted.reads, by intro hc; cases hc⟩

theorem gated (client : SdcClient) (digest : String) :
    Gated (sdcLicenseTransaction client digest) (targetUnchanged client) (request client)
      leavesLicense where
  reads := targetUnchanged_readsOnly client
  validate_eq := fun _ => ⟨_, rfl⟩
  commit_eq := fun staged => ⟨_, _, write_sends client staged, rfl⟩

end SdcLicenseTransaction

namespace SdcDeviceSyncTransaction

def request (client : SdcClient) (staged : SdcPreparedDeviceSync) : Except SdcError Request := do
  syncAdmits client staged.deviceUuids
  return syncRequest staged.deviceUuids

theorem write_sends (client : SdcClient) (staged : SdcPreparedDeviceSync) :
    Sends (write client staged) (request client staged) leavesSync where
  refused := by
    intro e he r h
    rcases Except.bind_eq_error_iff.mp he with hadmits | ⟨u, -, hok⟩
    · rw [write_apply, syncDevices_refused hadmits]
      exact ⟨e, rfl⟩
    · cases hok
  mutating := by
    intro q hq
    obtain ⟨u, -, hok⟩ := Except.bind_eq_ok_iff.mp hq
    cases hok
    rfl
  sent := by
    intro q hq r h
    obtain ⟨u, hadmits, hok⟩ := Except.bind_eq_ok_iff.mp hq
    cases hok
    obtain ⟨after, hafter, hreads, hs⟩ := syncDevices_admitted hadmits r h
    rw [write_apply, hafter]
    refine ⟨_, after, rfl, hreads, fun hhanded => ?_⟩
    cases hx : (r.exchange h (syncRequest staged.deviceUuids)).exchange with
    | unanswered why =>
        rw [hx] at hhanded
        cases hhanded
    | answered answer =>
        rw [hx] at hhanded
        cases hhanded
    | sendError error =>
        have hrun := hs.failure (e := classifyReqwest error) (by rw [hx]; rfl)
        have hfrom : DeviceSyncFailure.fromSubmit (classifyReqwest error)
            = .beforeSubmit (classifyReqwest error) := by
          unfold classifyReqwest
          split_ifs
          all_goals rfl
        rw [hrun, hfrom]
        exact iff_of_false (fun hall => hall _ rfl) nofun
    | unsent why =>
        rw [hx] at hs
        cases why with
        | dropped =>
            cases ho : (syncDevices client staged.deviceUuids r h).1 with
            | ok result =>
                rw [ho] at hs
                cases hs
            | err failure =>
                rw [ho] at hs
                cases hs
            | dropped => exact iff_of_true (by intro e hc; cases hc) rfl
        | cancelled =>
            rw [hs.failure rfl]
            exact iff_of_true (by intro e hc; cases hc) rfl
        | timedOut =>
            rw [hs.failure rfl]
            exact iff_of_false (fun hall => hall _ rfl) (by decide)

theorem gated (client : SdcClient) (digest : String) :
    Gated (sdcDeviceSyncTransaction client digest) (targetsUnchanged client) (request client)
      leavesSync where
  reads := targetsUnchanged_readsOnly client
  validate_eq := fun _ => ⟨_, rfl⟩
  commit_eq := fun staged => ⟨_, _, write_sends client staged, rfl⟩

end SdcDeviceSyncTransaction

end Kinds

end SdcMcp
