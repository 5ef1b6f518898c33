/-
What the answer to an application says.

An application answers with the disposition of its commit, or with an error.  The answer
is all that its caller sees, so what it says about SDC has to be what SDC said.  A success
is the one thing that can be wrong with nobody noticing: nothing is left open then, and
nothing is tried again.

Where an application answers at all, its request was started once.  All that it did before
was to read and to mark whether it had refused, and all that it did after was to read; so it
did not give its change set back either.  Where it answers that it succeeded, SDC took the
request, and if the request starts a job then the job of that request was read afterwards
and had ended well.
-/
import SdcMcp.Proofs.Provenance

namespace SdcMcp

open Interactive

variable {α β γ : Type}

/-! ### What comes before a request -/

/-- An event that reads, or that marks whether a transaction refused before its write. -/
def Event.prepares : Event → Bool
  | .markRefused _ => true
  | e => e.isRead

/-- Events of reads and marks only. -/
def Prepares (t : List Event) : Prop := ∀ e ∈ t, e.prepares = true

theorem prepares_nil : Prepares [] := by
  intro e he
  cases he

theorem Prepares.append {s t : List Event} (hs : Prepares s) (ht : Prepares t) :
    Prepares (s ++ t) := by
  intro e he
  rcases List.mem_append.mp he with h | h
  · exact hs e h
  · exact ht e h

theorem prepares_mark (refused : Bool) : Prepares [.markRefused refused] := by
  intro e he
  rw [List.mem_singleton.mp he]
  rfl

theorem Reads.prepares {t : List Event} (ht : Reads t) : Prepares t := by
  intro e he
  have hread : e.isRead = true := ht e he
  cases e with
  | markRefused refused => rfl
  | attempt request a => exact hread
  | abandoned request ms => exact hread
  | paused ms ending => exact hread
  | discarded operationId => exact hread

/-- The gate of a commit marks, reads and marks. -/
theorem Reads.gateEvents_prepares {t : List Event} (ht : Reads t) : Prepares (gateEvents t) :=
  (prepares_mark true).append (ht.prepares.append (prepares_mark false))

/-! ### Success -/

/-- The disposition says that the change was made. -/
def CommitOutcome.succeeded : CommitOutcome → Bool
  | .reconciled succeeded _ _ => succeeded
  | .indeterminate _ => false

section Success

variable [Crates] {client : SdcClient}

/-- A job under an id that was named so was read, and it had completed. -/
def JobCompleted (client : SdcClient) (kind : JobKind) (named : String → Prop)
    (t : List Event) : Prop :=
  ∃ id status a, named id ∧ .attempt (kind.statusRequest id) a ∈ t ∧
    readVerdict client JobStatus.decode a.exchange = .ok status ∧ status.status = .completed

/-- What SDC said when an action had succeeded: its answer to the request, and what it answered to
the reads after that. -/
def StoredAction.Backed (client : SdcClient) (a : Attempt) (after : List Event) :
    StoredAction → Prop
  | .policyDeploy _ => ∃ response,
      readVerdict client DeployResponse.decode a.exchange = .ok response ∧
        JobCompleted client .deploy (· = response.deployId) after
  | .objectWrite _ | .firewallWrite _ | .natWrite _ => Readable client a.exchange
  | .licenseWrite p => ∃ response, writeVerdict client a.exchange = .ok response ∧
      JobCompleted client (SdcLicenseTransaction.call p).kind
        (fun id => (SdcLicenseTransaction.call p).jobId response = .ok id) after
  | .deviceSync _ => ∃ response id job, writeVerdict client a.exchange = .ok response ∧
      syncId response = .ok id ∧ Observed client after id job ∧ job.status = .success ∧
        ∀ entry ∈ job.deviceSyncStatus, entry.status = .success

/-- This request was started once, after reads and marks and before reads, and a success is
backed. -/
def StoredAction.TrueOf (client : SdcClient) (q : Request) (outcome : CommitOutcome)
    (t : List Event) (action : StoredAction) : Prop :=
  ∃ before a after, t = before ++ .attempt q a :: after ∧ Prepares before ∧ Reads after ∧
    (outcome.succeeded = true → action.Backed client a after)

theorem StoredAction.TrueOf.after_prepares {q : Request} {outcome : CommitOutcome}
    {s t : List Event} {action : StoredAction} (hs : Prepares s)
    (ht : action.TrueOf client q outcome t) :
    action.TrueOf client q outcome (s ++ t) := by
  obtain ⟨before, a, after, rfl, hbefore, hafter, hbacked⟩ := ht
  exact ⟨s ++ before, a, after, (List.append_assoc _ _ _).symm, hs.append hbefore, hafter, hbacked⟩

/-! ### Plain writes -/

/-- A write that got a value was accepted, with a body that can be read. -/
theorem readable_of_writeVerdict {x : Exchange} {v : Value}
    (h : writeVerdict client x = .ok v) : Readable client x := by
  cases x with
  | unsent why => cases why <;> cases h
  | sendError error => cases h
  | unanswered why => cases why <;> cases h
  | answered answer =>
      cases hbody : readBody client.maxResponseBytes answer with
      | error why =>
          rw [writeVerdict, verdict_interrupted hbody] at h
          cases why <;> cases h
      | ok body =>
          rw [writeVerdict, verdict_answered hbody] at h
          by_cases hok : isSuccess answer.status = true
          · rcases judgeWrite_accepted hok body with ⟨w, raw, -, rfl, hgood⟩ | ⟨hjudge, -⟩
            · exact ⟨hok, raw, hbody, hgood⟩
            · rw [hjudge] at h
              cases h
          · rw [Bool.not_eq_true] at hok
            cases body with
            | error e =>
                rw [judgeWrite_refused_error hok] at h
                cases h
            | ok raw =>
                rw [judgeWrite_refused hok] at h
                cases h

/-- A write of a plain transaction that has a disposition was one attempt; a success was
accepted. -/
theorem commitWrite_true {call : Except SdcError WriteCall}
    (hget : ∀ c, call = .ok c → c.method ≠ .get) {details reason : String} {r : Env}
    {h t : List Event} {outcome : CommitOutcome}
    (hrun : commitWrite client details reason call r h = (.ok outcome, t)) :
    ∃ q a, (admitted client call).map WriteCall.request = .ok q ∧ t = [.attempt q a] ∧
      (outcome.succeeded = true → Readable client a.exchange) := by
  cases hcall : admitted client call with
  | error e =>
      rw [commitWrite_refused hget hcall] at hrun
      cases hrun
  | ok c =>
      rw [commitWrite_sent hget hcall] at hrun
      obtain ⟨hsettle, rfl⟩ := Prod.mk.inj hrun
      refine ⟨c.request, _, rfl, rfl, fun hsucceeded => ?_⟩
      cases hverdict : writeVerdict client (r.exchange h c.request).exchange with
      | ok v => exact readable_of_writeVerdict hverdict
      | dropped =>
          rw [hverdict] at hsettle
          cases hsettle
      | err e =>
          rw [hverdict] at hsettle
          cases e <;> cases hsettle <;> cases hsucceeded

theorem StoredAction.plain_true (action : StoredAction) {call : Except SdcError WriteCall}
    {details reason : String} (hget : ∀ c, call = .ok c → c.method ≠ .get)
    (hintended : ∀ q, (admitted client call).map WriteCall.request = .ok q →
      action.intended = some q)
    (hbacked : ∀ a after, action.Backed client a after = Readable client a.exchange) {r : Env}
    {h t : List Event} {outcome : CommitOutcome}
    (hrun : commitWrite client details reason call r h = (.ok outcome, t)) :
    ∃ q, action.intended = some q ∧ action.TrueOf client q outcome t := by
  obtain ⟨q, a, hq, rfl, hreadable⟩ := commitWrite_true hget hrun
  refine ⟨q, hintended q hq, [], a, [], rfl, prepares_nil, reads_nil, fun hsucceeded => ?_⟩
  rw [hbacked]
  exact hreadable hsucceeded

/-! ### Jobs -/

/-- A run that started a job and waited for it: what it started, the id it was told and the status
that it read under it. -/
theorem startAndPoll_ok {kind : JobKind} {start : Io β} {name : β → Except SdcError String}
    {finish : String → JobStatus → γ} {r : Env} {h t : List Event} {c : γ}
    (hrun : startAndPoll client kind start name finish r h = (.ok c, t)) :
    ∃ b t1 id status after, start r h = (.ok b, t1) ∧ name b = .ok id ∧ t = t1 ++ after ∧
      Reads after ∧ c = finish id status ∧
      ∃ a, .attempt (kind.statusRequest id) a ∈ after ∧
        readVerdict client JobStatus.decode a.exchange = .ok status := by
  obtain ⟨b, t1, t2, hstart, hrest, rfl⟩ := Run.bind_eq_ok hrun
  obtain ⟨id, hname, hpoll⟩ := Run.lift_bind_eq_ok hrest
  obtain ⟨status, t3, t4, hstatus, hpure, rfl⟩ := Run.bind_eq_ok hpoll
  cases hpure
  have hreads : Reads t3 := by
    rcases pollJob_cases client kind id r (h ++ t1) with ⟨e, -, hrefused⟩ | hpolling
    · rw [hrefused] at hstatus
      cases hstatus
    · rw [hstatus] at hpolling
      exact hpolling.reads rfl
  rw [List.append_nil]
  exact ⟨b, t1, id, status, t3, hstart, hname, rfl, hreads, rfl, pollJob_observed hstatus⟩

namespace SdcLicenseTransaction

/-- A license or certificate write that has a disposition is true of what it did. -/
theorem write_true {staged : SdcPreparedLicenseWrite} {r : Env} {h t : List Event}
    {outcome : CommitOutcome} (hrun : write client staged r h = (.ok outcome, t)) :
    ∃ q, request client staged = .ok q ∧
      (StoredAction.licenseWrite staged).TrueOf client q outcome t := by
  rw [write_eq] at hrun
  obtain ⟨response, t1, id, status, after, hstart, hname, rfl, hreads, rfl, hread⟩ :=
    startAndPoll_ok hrun
  cases hadmits : (call staged).call.admits client with
  | error e =>
      rw [WriteCall.run_refused (call_method staged) hadmits] at hstart
      cases hstart
  | ok u =>
      rw [WriteCall.run_admitted (call_method staged) hadmits] at hstart
      obtain ⟨hverdict, rfl⟩ := Prod.mk.inj hstart
      refine ⟨(call staged).call.request, Except.bind_eq_ok_iff.mpr ⟨(), hadmits, rfl⟩,
        [], _, after, rfl, prepares_nil, hreads, fun hsucceeded => ?_⟩
      obtain ⟨a, hmem, hanswer⟩ := hread
      exact ⟨response, hverdict, id, status, a, hname, hmem, hanswer,
        DeploymentStatus.succeeded_iff.mp hsucceeded⟩

end SdcLicenseTransaction

omit [Crates] in
theorem DeviceSyncStatus.eq_success {status : DeviceSyncStatus} (h : status.succeeded = true) :
    status = .success := by
  cases status with
  | success => rfl
  | failure => cases h
  | unrecognized value => cases h

namespace SdcDeviceSyncTransaction

/-- A device sync that has a disposition is true of what it did. -/
theorem write_true {staged : SdcPreparedDeviceSync} {r : Env} {h t : List Event}
    {outcome : CommitOutcome} (hrun : write client staged r h = (.ok outcome, t)) :
    ∃ q, request client staged = .ok q ∧
      (StoredAction.deviceSync staged).TrueOf client q outcome t := by
  rw [write_apply] at hrun
  obtain ⟨hsettle, hevents⟩ := Prod.mk.inj hrun
  cases hadmits : syncAdmits client staged.deviceUuids with
  | error e =>
      rw [syncDevices_refused hadmits] at hsettle
      cases hsettle
  | ok u =>
      obtain ⟨after, hafter, hreads, hsynced⟩ := syncDevices_admitted hadmits r h
      rw [hafter] at hevents
      refine ⟨syncRequest staged.deviceUuids, Except.bind_eq_ok_iff.mpr ⟨(), hadmits, rfl⟩,
        [], _, after, hevents.symm, prepares_nil, hreads, fun hsucceeded => ?_⟩
      generalize (syncDevices client staged.deviceUuids r h).1 = o at hsettle hsynced
      generalize hverdict : writeVerdict client _ = verdict at hsynced
      cases hsynced with
      | finished response id job after hname hjob =>
          cases hsettle
          have hboth : job.status.succeeded = true ∧ job.failures.isEmpty = true :=
            Bool.and_eq_true_iff.mp hsucceeded
          exact ⟨response, id, job, hverdict, hname, hjob, DeviceSyncStatus.eq_success hboth.1,
            DeviceSyncJob.failures_eq_nil.mp (List.isEmpty_iff.mp hboth.2)⟩
      | failed e =>
          cases hfrom : DeviceSyncFailure.fromSubmit e with
          | beforeSubmit e' =>
              rw [hfrom] at hsettle
              cases hsettle
          | afterSubmit id e' =>
              rw [hfrom] at hsettle
              cases hsettle
              cases hsucceeded
      | gone => cases hsettle
      | nameless response e hname | lost response id e after hname =>
          cases hsettle
          cases hsucceeded
      | left response id after hname => cases hsettle

end SdcDeviceSyncTransaction

namespace SdcTransaction

/-- A deploy that has a disposition is true of what it did. -/
theorem commit_true {staged : SdcPreparedChange} {r : Env} {h t : List Event}
    {outcome : CommitOutcome} (hrun : commit client staged ⟨none⟩ r h = (.ok outcome, t)) :
    ∃ q, (StoredAction.policyDeploy staged).intended = some q ∧
      (StoredAction.policyDeploy staged).TrueOf client q outcome t := by
  cases hrequest : deployRequest staged with
  | error e =>
      unfold commit at hrun
      rw [if_neg (by decide), hrequest, Run.lift_error_bind] at hrun
      cases hrun
  | ok request =>
      have hintended : (StoredAction.policyDeploy staged).intended
          = some ⟨.post, ["api", "v1", "policies", "deploy"], [], some request.encode⟩ := by
        unfold deployRequest at hrequest
        show Option.map _ (DeployRequest.decode staged.request.tree) = _
        cases hdecode : DeployRequest.decode staged.request.tree with
        | none =>
            rw [hdecode] at hrequest
            cases hrequest
        | some request' =>
            rw [hdecode] at hrequest
            cases hrequest
            rfl
      refine ⟨_, hintended, ?_⟩
      rw [commit_decoded client (by decide) hrequest] at hrun
      obtain ⟨hsettle, hevents⟩ := Prod.mk.inj hrun
      cases hcheck : checkRequest client
          ⟨.post, ["api", "v1", "policies", "deploy"], [], some request.encode⟩ with
      | error e =>
          rw [deployPrepared_refused hcheck, settleDeploy_local (checkRequest_error hcheck)]
            at hsettle
          cases hsettle
      | ok u =>
          have hpost := post_admitted DeployResponse.decode hcheck r h
          obtain ⟨a, after, hsent, hafter⟩ := deployPrepared_sent hcheck r h
          rw [hsent] at hevents
          refine ⟨[], a, after, hevents.symm, prepares_nil, hafter, fun hsucceeded => ?_⟩
          cases outcome with
          | indeterminate reason => cases hsucceeded
          | reconciled succeeded jobId details =>
              obtain ⟨⟨id, status⟩, hdeployed, hstatus⟩ := settleDeploy_reconciled hsettle
              obtain ⟨-, rfl⟩ := hstatus id status rfl
              have hrun : deployPrepared client request r h = (.ok (id, status), _) :=
                Prod.ext hdeployed hsent
              obtain ⟨response, t1, t2, hresponse, hrest, hsplit⟩ := Run.bind_eq_ok hrun
              obtain ⟨u', -, hpoll⟩ := Run.lift_bind_eq_ok hrest
              obtain ⟨status', t3, t4, hpolled, hpure, rfl⟩ := Run.bind_eq_ok hpoll
              cases hpure
              rw [hpost] at hresponse
              obtain ⟨hverdict, rfl⟩ := Prod.mk.inj hresponse
              obtain ⟨hattempt, rfl⟩ := List.cons.inj hsplit
              obtain ⟨-, rfl⟩ := Event.attempt.inj hattempt
              obtain ⟨b, hmem, hanswer⟩ := pollJob_observed hpolled
              exact ⟨response, hverdict, response.deployId, status, b, rfl,
                List.mem_append_right _ (List.mem_append_left _ hmem), hanswer,
                DeploymentStatus.succeeded_iff.mp hsucceeded⟩

end SdcTransaction

end Success

/-! ### Applications that answer -/

section Applications

/-- A relayed call that got a value is the call's own. -/
theorem relay_eq_ok {coordinator : Coordinator α} {conduct : List Event → Conduct} {call : Io β}
    {r : Env} {h t : List Event} {b : β}
    (hrun : coordinator.relay conduct call r h = (.ok b, t)) : call r h = (.ok b, t) := by
  by_cases hrefuses : ∃ e, conduct h = .refuses e
  · obtain ⟨e, hc⟩ := hrefuses
    rw [relay_refuses hc] at hrun
    cases hrun
  · obtain ⟨o, hrelay, -, hvalue⟩ := relay_calls coordinator call r
      fun e hc => hrefuses ⟨e, hc⟩
    rw [hrelay] at hrun
    obtain ⟨rfl, rfl⟩ := Prod.mk.inj hrun
    exact Prod.ext (hvalue b rfl) rfl

/-- A failure to release ends in an error. -/
private theorem release_fails {texts : ReleaseTexts} {coordinator : Coordinator α}
    {operationId error : String} {r : Env} {h t : List Event} {b : β}
    (hrun : releaseAndFail texts coordinator operationId error r h = (.ok b, t)) : False := by
  obtain ⟨e, hfail⟩ := releaseAndFail_apply β texts coordinator operationId error r h
  rw [hfail] at hrun
  cases hrun

/-- An application that answers, answers with what its commit came to. -/
theorem applyStaged_ok {texts : ReleaseTexts} {coordinator : Coordinator α}
    {transaction : Transaction α β} {operationId : String} {staged : α} {r : Env}
    {h t : List Event} {result : ApplyResult β}
    (hrun : applyStaged texts coordinator transaction operationId staged r h = (.ok result, t)) :
    ∃ report before after, transaction.validate staged r h = (.ok report, before) ∧
      transaction.commit staged ⟨none⟩ r (h ++ before) = (.ok result.outcome, after) ∧
      t = before ++ after := by
  obtain ⟨plan, t1, t2, hplan, hrest, rfl⟩ := Run.bind_eq_ok hrun
  have hnone : t1 = [] := by
    have hdiff := relay_eq_ok (Run.mapErr_eq_ok hplan)
    cases hdiff
    rfl
  subst hnone
  rw [List.append_nil] at hrest
  obtain ⟨validated, t3, t4, hvalidate, hcommit, rfl⟩ := Run.bind_eq_ok hrest
  cases validated with
  | error e => exact (release_fails hcommit).elim
  | ok report =>
      obtain ⟨committed, t5, t6, houtcome, hend, rfl⟩ := Run.bind_eq_ok hcommit
      cases committed with
      | error e =>
          obtain ⟨refused, t7, t8, -, hfail, -⟩ := Run.bind_eq_ok hend
          cases refused with
          | true => exact (release_fails hfail).elim
          | false => cases hfail
      | ok outcome =>
          cases hend
          refine ⟨report, t3, t5, relay_eq_ok (Run.observe_eq_ok hvalidate),
            relay_eq_ok (Run.observe_eq_ok houtcome), ?_⟩
          rw [List.append_nil, List.nil_append]

variable {transaction : Transaction α β} {unchanged : α → Io Bool}
  {request : α → Except SdcError Request} {leavesOpen : Exchange → Bool}

/-- An application of a write that answers ran its write, after nothing but reads and marks. -/
theorem applyWrite_ok (hg : Gated transaction unchanged request leavesOpen) {unsupported : String}
    {write : α → Io CommitOutcome}
    (hcommit : ∀ p, transaction.commit p ⟨none⟩
      = commitUnchanged unsupported ⟨none⟩ (unchanged p) (write p))
    {texts : ReleaseTexts} {coordinator : Coordinator α} {r : Env} {h t : List Event}
    {result : ApplyResult β}
    (hrun : applyWrite texts coordinator transaction r h = (.ok result, t)) :
    ∃ history operationId actions staged h' before after,
      coordinator.changeSet history = .ok (operationId, actions) ∧
      transaction.stage actions = .ok staged ∧
      write staged r h' = (.ok result.outcome, after) ∧ t = before ++ after ∧ Prepares before := by
  unfold applyWrite at hrun
  rw [Run.emit_bind] at hrun
  obtain ⟨hvalue, rfl⟩ := Prod.mk.inj hrun
  obtain ⟨⟨operationId, staged⟩, t1, t2, happlied, hrest, hevents⟩ :=
    Run.bind_eq_ok (Prod.ext hvalue rfl)
  have happlied := Run.mapErr_eq_ok happlied
  obtain ⟨actions, hset, hstage⟩ := applyChangeSet_ok happlied
  have hnone := applyChangeSet_events coordinator transaction.stage r (h ++ [.markRefused false])
  rw [happlied] at hnone
  have hnone : t1 = [] := hnone
  subst hnone
  obtain ⟨report, before, after, hvalidate, hcommitted, rfl⟩ := applyStaged_ok hrest
  rw [List.append_nil] at hvalidate hcommitted
  have hbefore : Reads before := by
    obtain ⟨report', hvalidate'⟩ := hg.validate_eq staged
    have hreads := (validateUnchanged_cases (unchanged staged) report' r
      (h ++ [.markRefused false])).1
    rw [← hvalidate', hvalidate] at hreads
    have hunchanged := hg.reads staged r (h ++ [.markRefused false])
    rwa [← hreads] at hunchanged
  rw [hcommit] at hcommitted
  rcases commitUnchanged_cases unsupported ⟨none⟩ (write staged) (hg.reads staged) r
    (h ++ [.markRefused false] ++ before) with ⟨-, hnone⟩ | ⟨s, hsame, -, heq⟩
  · rw [hcommitted] at hnone
    exact absurd rfl (hnone _)
  · have hs : Reads s := by
      have hgate := hg.reads staged r (h ++ [.markRefused false] ++ before ++ [.markRefused true])
      rwa [hsame] at hgate
    rw [heq] at hcommitted
    obtain ⟨hvalue, rfl⟩ := Prod.mk.inj hcommitted
    refine ⟨_, operationId, actions, staged, _, .markRefused false :: (before ++ gateEvents s), _,
      hset, hstage, Prod.ext hvalue rfl,
      (congrArg (List.cons (.markRefused false)) hevents).trans ?_,
      (prepares_mark false).append (hbefore.prepares.append hs.gateEvents_prepares)⟩
    rw [List.nil_append, List.cons_append, ← List.append_assoc before]

end Applications

/-! ### Calls that answer -/

section Answers

variable [Crates]

/-- The disposition is true of an action that was handed over and staged under the caller's
digest. -/
def Accounted (handler : SdcHandler) (owner : String) (kind : StoredKind) (args : ApplyArgs)
    (outcome : CommitOutcome) (t : List Event) : Prop :=
  ∃ history operationId action q,
    handler.changes.handedOver owner args history kind = .ok (operationId, [action]) ∧
    action.stage args.expectedPlanDigest = .ok action ∧ action.intended = some q ∧
    action.TrueOf handler.client q outcome t

omit [Crates] in
/-- What a coordinator handed over, where the transaction of a kind staged it. -/
private theorem handed_over {handler : SdcHandler} {owner : String} {kind : StoredKind}
    {args : ApplyArgs} {mk : α → StoredAction} {coordinator : Coordinator α}
    {history : List Event} {operationId : String} {p : α}
    (hset : handler.changes.handedOver owner args history kind
      = (coordinator.changeSet history).map fun set => (set.1, set.2.map mk))
    (hstored : coordinator.changeSet history = .ok (operationId, [p])) :
    handler.changes.handedOver owner args history kind = .ok (operationId, [mk p]) := by
  rw [hset, hstored]
  rfl

/-- An application of a write that answers is accounted for by its write. -/
private theorem applyWrite_accounted {transaction : Transaction α β} {unchanged : α → Io Bool}
    {request : α → Except SdcError Request} {leavesOpen : Exchange → Bool}
    (hg : Gated transaction unchanged request leavesOpen) {unsupported : String}
    {write : α → Io CommitOutcome}
    (hcommit : ∀ p, transaction.commit p ⟨none⟩
      = commitUnchanged unsupported ⟨none⟩ (unchanged p) (write p))
    {wrongCount : String} {validate : α → Except SdcError Unit} {approved : α → Bool}
    (hone : transaction.stage = stageOne wrongCount validate approved)
    {handler : SdcHandler} {owner : String} {kind : StoredKind} {args : ApplyArgs}
    (mk : α → StoredAction) {texts : ReleaseTexts} {coordinator : Coordinator α}
    (hset : ∀ history, handler.changes.handedOver owner args history kind
      = (coordinator.changeSet history).map fun set => (set.1, set.2.map mk))
    (hmk : ∀ p, (mk p).stage args.expectedPlanDigest = (transaction.stage [p]).map mk)
    (htrue : ∀ {p r h t outcome}, write p r h = (.ok outcome, t) →
      ∃ q, (mk p).intended = some q ∧ (mk p).TrueOf handler.client q outcome t)
    {r : Env} {h t : List Event} {result : ApplyResult β}
    (hrun : applyWrite texts coordinator transaction r h = (.ok result, t)) :
    Accounted handler owner kind args result.outcome t := by
  obtain ⟨history, operationId, actions, p, h', before, after, hstored, hstage, hwrite, rfl,
    hbefore⟩ := applyWrite_ok hg hcommit hrun
  have hactions : actions = [p] := by
    rw [hone] at hstage
    exact (stageOne_ok.mp hstage).1
  subst hactions
  obtain ⟨q, hintended, hafter⟩ := htrue hwrite
  refine ⟨history, operationId, mk p, q, handed_over (hset history) hstored, ?_, hintended,
    hafter.after_prepares hbefore⟩
  rw [hmk, hstage]
  rfl

/-- An application of a deploy that answers is accounted for by its deploy. -/
private theorem applyPolicyDeploy_accounted {handler : SdcHandler} {owner : String}
    {args : ApplyArgs} {r : Env} {h t : List Event} {result : ApplyResult ValidationReport}
    (hrun : applyPolicyDeploy handler.client (handler.changes.policyDeploys owner args)
      args.expectedPlanDigest r h = (.ok result, t)) :
    Accounted handler owner .policyDeploy args result.outcome t := by
  obtain ⟨⟨operationId, p⟩, t1, t2, happlied, hrest, rfl⟩ :=
    Run.bind_eq_ok (Run.mapErr_eq_ok hrun)
  obtain ⟨actions, hstored, hstage⟩ := applyChangeSet_ok happlied
  have hnone := applyChangeSet_events (handler.changes.policyDeploys owner args)
    (sdcTransaction handler.client args.expectedPlanDigest).stage r h
  rw [happlied] at hnone
  have hone : actions = [p] ∧ (StoredAction.policyDeploy p).stage args.expectedPlanDigest
      = .ok (.policyDeploy p) := by
    match actions, hstage with
    | [p'], hstage =>
        have hlift : (StoredAction.policyDeploy p').stage args.expectedPlanDigest
            = .ok (.policyDeploy p) := Except.map_eq_ok_iff.mpr ⟨p, hstage, rfl⟩
        obtain ⟨hsame, -, -⟩ := StoredAction.stage_ok_iff.mp hlift
        cases hsame
        exact ⟨rfl, hlift⟩
  obtain ⟨rfl, hlift⟩ := hone
  obtain ⟨preview, t3, t4, hpreview, hvalidated, rfl⟩ := Run.bind_eq_ok hrest
  obtain ⟨validation, t5, t6, hvalidation, hcommitted, rfl⟩ := Run.bind_eq_ok hvalidated
  obtain ⟨outcome, t7, t8, houtcome, hpure, rfl⟩ := Run.bind_eq_ok hcommitted
  cases hpure
  have hpreview := relay_eq_ok hpreview
  cases hpreview
  obtain ⟨-, rfl⟩ := Run.lift_eq_ok (relay_eq_ok hvalidation)
  obtain ⟨q, hintended, htrue⟩ := SdcTransaction.commit_true (relay_eq_ok houtcome)
  refine ⟨h, operationId, .policyDeploy p, q, handed_over rfl hstored, hlift, hintended, ?_⟩
  have hnone : t1 = [] := hnone
  rw [hnone, List.append_nil]
  exact htrue

omit [Crates] in
theorem applyResult_outcome (encodeOutcome : CommitOutcome → Value) (plan : String)
    (encodeReport : β → Value) (result : ApplyResult β) :
    (applyResult encodeOutcome plan encodeReport result).get "outcome"
      = some (encodeOutcome result.outcome) := by
  unfold applyResult
  rw [Value.get_object, Map.get_insert, if_pos rfl]

/-- What a caller is shown of the application of a license write is its disposition. -/
theorem callerView_outcome {encodeOutcome : CommitOutcome → Value}
    {result : ApplyResult LicenseValidationReport} {v : Value}
    (h : result.callerView encodeOutcome = .ok v) :
    v.get "outcome" = some (encodeOutcome result.outcome) := by
  have hwhole : (licenseApplyResult encodeOutcome result).get "outcome"
      = some (encodeOutcome result.outcome) := by
    unfold licenseApplyResult
    rw [Map.get_insert, if_pos rfl]
  unfold ApplyResult.callerView at h
  dsimp only at h
  cases hplan : ((licenseApplyResult encodeOutcome result).get "plan").bind Value.asObject with
  | none =>
      rw [hplan] at h
      cases h
      rw [Value.get_object]
      exact hwhole
  | some plan =>
      rw [hplan] at h
      cases h
      rw [Value.get_object, Map.get_insert, if_neg (by decide)]
      exact hwhole

variable [HandlerCrates]

/-- An application that answers shows a disposition that is true. -/
theorem ToolCall.io_accounted {handler : SdcHandler} {owner : String} {tool : ToolCall}
    {kind : StoredKind} {args : ApplyArgs} (htool : tool.applies = some (kind, args)) {r : Env}
    {h t : List Event} {v : Value} (hrun : tool.io handler owner r h = (.ok v, t)) :
    ∃ outcome, v.get "outcome" = some (HandlerCrates.encodeOutcome outcome) ∧
      Accounted handler owner kind args outcome t := by
  cases tool with
  | applySdcChangeSet args' =>
      cases htool
      obtain ⟨result, t1, t2, happlied, hpure, rfl⟩ := Run.bind_eq_ok hrun
      cases hpure
      rw [List.append_nil]
      exact ⟨result.outcome, applyResult_outcome _ _ _ _, applyPolicyDeploy_accounted happlied⟩
  | applySdcObjectWrite args' =>
      cases htool
      obtain ⟨result, t1, t2, happlied, hpure, rfl⟩ := Run.bind_eq_ok hrun
      cases hpure
      rw [List.append_nil]
      exact ⟨result.outcome, applyResult_outcome _ _ _ _,
        applyWrite_accounted (SdcObjectTransaction.gated _ _) (fun _ => rfl) rfl .objectWrite
          (fun _ => rfl) (fun _ => rfl) (StoredAction.plain_true (.objectWrite _)
            (SdcObjectTransaction.call_method _)
            (fun _ => SdcObjectTransaction.request_intended) fun _ _ => rfl) happlied⟩
  | applySdcNatWrite args' =>
      cases htool
      obtain ⟨result, t1, t2, happlied, hpure, rfl⟩ := Run.bind_eq_ok hrun
      cases hpure
      rw [List.append_nil]
      exact ⟨result.outcome, applyResult_outcome _ _ _ _,
        applyWrite_accounted (SdcNatTransaction.gated _ _) (fun _ => rfl) rfl .natWrite
          (fun _ => rfl) (fun _ => rfl) (StoredAction.plain_true (.natWrite _)
            (SdcNatTransaction.call_method _)
            (fun _ => SdcNatTransaction.request_intended) fun _ _ => rfl) happlied⟩
  | applySdcFirewallWrite args' =>
      cases htool
      obtain ⟨result, t1, t2, happlied, hpure, rfl⟩ := Run.bind_eq_ok hrun
      cases hpure
      rw [List.append_nil]
      exact ⟨result.outcome, applyResult_outcome _ _ _ _,
        applyWrite_accounted (SdcFirewallTransaction.gated _ _) (fun _ => rfl) rfl .firewallWrite
          (fun _ => rfl) (fun _ => rfl) (StoredAction.plain_true (.firewallWrite _)
            (SdcFirewallTransaction.call_method _)
            (fun _ => SdcFirewallTransaction.request_intended) fun _ _ => rfl) happlied⟩
  | applySdcLicenseWrite args' =>
      cases htool
      obtain ⟨result, t1, t2, happlied, hshown, rfl⟩ := Run.bind_eq_ok hrun
      obtain ⟨hview, rfl⟩ := Run.lift_eq_ok hshown
      rw [List.append_nil]
      refine ⟨result.outcome, callerView_outcome hview, applyWrite_accounted
        (SdcLicenseTransaction.gated _ _) (fun _ => rfl) rfl .licenseWrite (fun _ => rfl)
        (fun _ => rfl) (fun hwrite => ?_) happlied⟩
      obtain ⟨q, hrequest, htrue⟩ := SdcLicenseTransaction.write_true hwrite
      exact ⟨q, SdcLicenseTransaction.request_intended hrequest, htrue⟩
  | applySdcDeviceInventorySync args' =>
      cases htool
      obtain ⟨result, t1, t2, happlied, hpure, rfl⟩ := Run.bind_eq_ok hrun
      cases hpure
      rw [List.append_nil]
      refine ⟨result.outcome, applyResult_outcome _ _ _ _, applyWrite_accounted
        (SdcDeviceSyncTransaction.gated _ _) (fun _ => rfl) rfl .deviceSync (fun _ => rfl)
        (fun _ => rfl) (fun hwrite => ?_) happlied⟩
      obtain ⟨q, hrequest, htrue⟩ := SdcDeviceSyncTransaction.write_true hwrite
      exact ⟨q, SdcDeviceSyncTransaction.request_intended hrequest, htrue⟩
  | _ => cases htool

/-- **An answer is never better than what SDC said.**  Where the application of a change set
answers, its answer shows the disposition of one action that was handed over by the coordinator
and staged under its caller's digest; the request of that action was started once, after reads
and marks only and before reads only.  Where the disposition is a success, SDC took that request,
and if the request starts a job then a status of the job that SDC named in its answer was read
afterwards and told of its success, for a device sync that of every device too. -/
theorem answered_application_true (base : SdcHandler) (s : Served) (kind : StoredKind)
    (args : ApplyArgs) (htool : s.call.tool.applies = some (kind, args)) (answer : Value)
    (hanswer : (s.run base).1 = .ok answer) :
    ∃ shown outcome, answer = HandlerCrates.redactSecrets shown ∧
      shown.get "outcome" = some (HandlerCrates.encodeOutcome outcome) ∧
      Accounted (s.handler base) (owner s.call.caller) kind args outcome (s.events base) := by
  have hrun : (s.handler base).handle s.call s.env s.history = (.ok answer, s.events base) :=
    Prod.ext hanswer rfl
  have hplain : s.call.tool.rereads = false := by
    cases hcall : s.call.tool <;> rw [hcall] at htool <;> cases htool <;> rfl
  obtain ⟨shown, hanswer, hio⟩ := (s.handler base).handle_ok hplain hrun
  obtain ⟨outcome, hshown, haccounted⟩ := ToolCall.io_accounted htool hio
  exact ⟨shown, outcome, hanswer, hshown, haccounted⟩

end Answers

/-! ### A host that SDC took -/

section TakenHost

/-- The host can be read back. -/
def takenTables : Tables where
  documents := [nameFirst.tree]
  digests := hostTables.digests

local instance takenCrates : Crates := takenTables.crates

/-- Dispositions are shown by whether they say that the change was made. -/
local instance takenHandlerCrates : HandlerCrates :=
  { scopedCrates with
    encodeOutcome := fun outcome => .string (if outcome.succeeded then "made" else "not known") }

/-- The change set of the host is applied, to an SDC that makes it. -/
def takenHost : Served where
  call := applyHost.call
  changes := hostManager
  env := Env.answering fun _ => .replies 201 nameFirst.tree
  history := []

set_option maxRecDepth 40000 in
theorem takenHost_answer : ∃ answer, (takenHost.run hostHandler).1 = .ok answer ∧
    answer.get "outcome" = some (.string "made") := ⟨_, by rfl, by rfl⟩

/-- Its caller is told that the host was made, and it was. -/
theorem taken_host_made : ∃ q a, .attempt q a ∈ takenHost.events hostHandler ∧
    (hostCreate nameFirst).intended = some q ∧ Readable minuteClient a.exchange := by
  obtain ⟨answer, hanswer, hmade⟩ := takenHost_answer
  obtain ⟨shown, outcome, hsame, hshown, history, operationId, action, q, hset, hstage, hintended,
    before, a, after, hevents, hbefore, hafter, hbacked⟩ :=
    answered_application_true hostHandler takenHost .objectWrite _ rfl answer hanswer
  have hsame : answer = shown := hsame
  rw [hsame, hshown] at hmade
  have hsucceeded : outcome.succeeded = true := by
    by_contra hnot
    have htext : Value.string (if outcome.succeeded then "made" else "not known")
        = Value.string "made" := Option.some.inj hmade
    rw [if_neg hnot] at htext
    exact absurd (congrArg (fun v => v.tree.asStr) htext) (by decide)
  cases hset
  refine ⟨q, a, ?_, hintended, hbacked hsucceeded⟩
  rw [hevents]
  exact List.mem_append_right _ List.mem_cons_self

end TakenHost

end SdcMcp
