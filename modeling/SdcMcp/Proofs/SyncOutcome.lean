/-
What a device-sync commit says about its sync.

`Synced` lists what a run of `sync_devices` can come to once its `POST` was
attempted, by the verdict of the `POST`.  Where the job was named, its id is kept;
that, and that only an observed job is reconciled, holds always.  That a failure
before submission was one holds exactly when the error of the `POST` still tells:
a lost connection or a timeout of a request that went out does not.
-/
import SdcMcp.Model.DeviceSync
import SdcMcp.Proofs.JobOutcome

namespace SdcMcp

open Interactive

section Sync

variable [Crates]

def syncRequest (deviceUuids : List String) : Request :=
  ⟨.post, ["api", "v1", "devices", "sync"], [], some (syncBody deviceUuids).tree⟩

def syncStatusRequest (id : String) : Request :=
  ⟨.get, ["api", "v1", "devices", "sync", id], [], none⟩

/-- A terminal job that a status read of this sync showed. -/
def Observed (client : SdcClient) (t : List Event) (id : String) (job : DeviceSyncJob) : Prop :=
  ∃ a, .attempt (syncStatusRequest id) a ∈ t ∧
    readVerdict client DeviceSyncJob.decode a.exchange = .ok job ∧ job.status.isTerminal = true

/-- What a sync comes to after the verdict of its `POST`. -/
inductive Synced (client : SdcClient) : Outcome SdcError Value → List Event →
    Outcome DeviceSyncFailure (String × DeviceSyncJob) → Prop where
  | failed (e : SdcError) : Synced client (.err e) [] (.err (.fromSubmit e))
  | gone : Synced client .dropped [] .dropped
  | nameless (response : Value) (e : SdcError) (hname : syncId response = .error e) :
      Synced client (.ok response) [] (.err (.afterSubmit none e))
  | finished (response : Value) (id : String) (job : DeviceSyncJob) (after : List Event)
      (hname : syncId response = .ok id) (hjob : Observed client after id job) :
      Synced client (.ok response) after (.ok (id, job))
  | lost (response : Value) (id : String) (source : SdcError) (after : List Event)
      (hname : syncId response = .ok id) :
      Synced client (.ok response) after (.err (.afterSubmit (some id) source))
  | left (response : Value) (id : String) (after : List Event)
      (hname : syncId response = .ok id) : Synced client (.ok response) after .dropped

namespace Synced

variable {client : SdcClient} {v : Outcome SdcError Value} {after : List Event}
  {o : Outcome DeviceSyncFailure (String × DeviceSyncJob)}

theorem beforeSubmit (hs : Synced client v after o) {e : SdcError}
    (ho : o = .err (.beforeSubmit e)) :
    ∃ e', v = .err e' ∧ DeviceSyncFailure.fromSubmit e' = .beforeSubmit e := by
  cases hs with
  | failed e' => exact ⟨e', rfl, Outcome.err.inj ho⟩
  | gone => cases ho
  | nameless response e' hname => cases ho
  | finished response id job after hname hjob => cases ho
  | lost response id source after hname => cases ho
  | left response id after hname => cases ho

theorem observed (hs : Synced client v after o) {id : String} {job : DeviceSyncJob}
    (ho : o = .ok (id, job)) : Observed client after id job := by
  cases hs with
  | finished response id' job' after hname hjob =>
      cases ho
      exact hjob
  | failed e' => cases ho
  | gone => cases ho
  | nameless response e' hname => cases ho
  | lost response id source after hname => cases ho
  | left response id after hname => cases ho

theorem failure (hs : Synced client v after o) {e : SdcError} (hv : v = .err e) :
    o = .err (.fromSubmit e) := by
  cases hs with
  | failed e' =>
      cases hv
      rfl
  | gone => cases hv
  | nameless response e' hname => cases hv
  | finished response id job after hname hjob => cases hv
  | lost response id source after hname => cases hv
  | left response id after hname => cases hv

/-- A job that was named is named in what the sync comes to. -/
theorem named (hs : Synced client v after o) {response : Value} {id : String}
    (hv : v = .ok response) (hid : syncId response = .ok id) :
    o = .dropped ∨ (∃ job, o = .ok (id, job)) ∨
      ∃ source, o = .err (.afterSubmit (some id) source) := by
  cases hs with
  | failed e' => cases hv
  | gone => cases hv
  | nameless response' e' hname =>
      cases hv
      rw [hid] at hname
      cases hname
  | finished response' id' job after hname hjob =>
      cases hv
      rw [hid] at hname
      cases hname
      exact Or.inr (Or.inl ⟨job, rfl⟩)
  | lost response' id' source after hname =>
      cases hv
      rw [hid] at hname
      cases hname
      exact Or.inr (Or.inr ⟨source, rfl⟩)
  | left response' id' after hname => exact Or.inl rfl

end Synced

/-! ### The run of a sync -/

theorem pollDeviceSync_cases (client : SdcClient) (id : String) (r : Env) (h : List Event) :
    (∃ e, LocalRefusal e ∧ pollDeviceSync client id r h = (.err e, [])) ∨
    Polling client DeviceSyncJob.decode (fun job => job.status.isTerminal) (syncStatusRequest id)
      (pollDeviceSync client id r h).2 (pollDeviceSync client id r h).1 :=
  poll_readCall client DeviceSyncJob.decode (fun job => job.status.isTerminal) [("sync_id", id)]
    ["api", "v1", "devices", "sync", id] r h

/-- The wait for a named job. -/
private def awaitSync (client : SdcClient) (id : String) :
    Run Env Event DeviceSyncFailure (String × DeviceSyncJob) := do
  match ← (pollDeviceSync client id).observe with
  | .ok job => return (id, job)
  | .error source => Run.fail (.afterSubmit (some id) source)

private theorem synced_await (client : SdcClient) {response : Value} {id : String}
    (hname : syncId response = .ok id) (r : Env) (h : List Event) :
    Reads (awaitSync client id r h).2 ∧
      Synced client (.ok response) (awaitSync client id r h).2 (awaitSync client id r h).1 := by
  have hpoll := pollDeviceSync_cases client id r h
  rcases hrun : pollDeviceSync client id r h with ⟨o, after⟩
  rw [hrun] at hpoll
  rcases hpoll with ⟨e, -, heq⟩ | hpoll
  · cases heq
    unfold awaitSync
    rw [Run.bind_ok (Run.observe_err hrun)]
    exact ⟨reads_nil, Synced.lost response id e [] hname⟩
  · have hreads := hpoll.reads rfl
    unfold awaitSync
    cases o with
    | ok job =>
        rw [Run.bind_ok (Run.observe_ok hrun)]
        show Reads (after ++ []) ∧ Synced client (.ok response) (after ++ []) (.ok (id, job))
        rw [List.append_nil]
        exact ⟨hreads, Synced.finished response id job after hname hpoll.observed⟩
    | err source =>
        rw [Run.bind_ok (Run.observe_err hrun)]
        show Reads (after ++ []) ∧ Synced client (.ok response) (after ++ [])
          (.err (.afterSubmit (some id) source))
        rw [List.append_nil]
        exact ⟨hreads, Synced.lost response id source after hname⟩
    | dropped =>
        rw [Run.bind_dropped (Run.observe_dropped hrun)]
        exact ⟨hreads, Synced.left response id after hname⟩

omit [Crates] in
theorem LocalRefusal.fromSubmit {e : SdcError} (he : LocalRefusal e) :
    DeviceSyncFailure.fromSubmit e = .beforeSubmit e := by
  unfold DeviceSyncFailure.fromSubmit
  split
  · exact absurd rfl he.2.2.1
  · exact absurd rfl he.1
  · rfl

/-- The checks of a sync before it sends anything. -/
def syncAdmits (client : SdcClient) (deviceUuids : List String) : Except SdcError Unit := do
  validateDevices deviceUuids
  checkRequest client (syncRequest deviceUuids)

theorem syncDevices_refused {client : SdcClient} {deviceUuids : List String} {e : SdcError}
    (hadmits : syncAdmits client deviceUuids = .error e) (r : Env) (h : List Event) :
    syncDevices client deviceUuids r h = (.err (.beforeSubmit e), []) := by
  unfold syncDevices
  rcases Except.bind_eq_error_iff.mp hadmits with hvalid | ⟨u, hvalid, hcheck⟩
  · rw [hvalid]
    exact Run.lift_error_bind _ _ r h
  · rw [hvalid, Except.mapError, Run.lift_ok_bind]
    have hwrite := sendWrite_refused (by exact nofun) (some (syncBody deviceUuids)) hcheck r h
    have herr : ((sendWrite client .post ["api", "v1", "devices", "sync"]
        (some (syncBody deviceUuids))).mapErr DeviceSyncFailure.fromSubmit) r h
        = (.err (.beforeSubmit e), []) := by
      rw [Run.mapErr_apply, hwrite]
      show (Outcome.err (DeviceSyncFailure.fromSubmit e), []) = _
      rw [(checkRequest_error hcheck).fromSubmit]
    exact Run.bind_err herr

/-- **The run of a sync.**  It is one `POST` and what follows its verdict. -/
theorem syncDevices_admitted {client : SdcClient} {deviceUuids : List String}
    (hadmits : syncAdmits client deviceUuids = .ok ()) (r : Env) (h : List Event) :
    ∃ after, (syncDevices client deviceUuids r h).2 =
        .attempt (syncRequest deviceUuids) (r.exchange h (syncRequest deviceUuids)) :: after ∧
      Reads after ∧
      Synced client (writeVerdict client (r.exchange h (syncRequest deviceUuids)).exchange) after
        (syncDevices client deviceUuids r h).1 := by
  obtain ⟨u, hvalid, hcheck⟩ := Except.bind_eq_ok_iff.mp hadmits
  have hwrite := sendWrite_admitted (by exact nofun) (some (syncBody deviceUuids)) hcheck r h
  have hmap := Run.mapErr_apply DeviceSyncFailure.fromSubmit
    (sendWrite client .post ["api", "v1", "devices", "sync"] (some (syncBody deviceUuids))) r h
  rw [hwrite] at hmap
  unfold syncDevices
  rw [hvalid, Except.mapError, Run.lift_ok_bind]
  cases hverdict : writeVerdict client (r.exchange h (syncRequest deviceUuids)).exchange with
  | err e =>
      have hrun := hmap.trans (congrArg (fun o => (Outcome.bimap
        DeviceSyncFailure.fromSubmit id o, _)) hverdict)
      rw [Run.bind_err hrun]
      exact ⟨[], rfl, reads_nil, Synced.failed e⟩
  | dropped =>
      have hrun := hmap.trans (congrArg (fun o => (Outcome.bimap
        DeviceSyncFailure.fromSubmit id o, _)) hverdict)
      rw [Run.bind_dropped hrun]
      exact ⟨[], rfl, reads_nil, Synced.gone⟩
  | ok response =>
      have hrun := hmap.trans (congrArg (fun o => (Outcome.bimap
        DeviceSyncFailure.fromSubmit id o, _)) hverdict)
      rw [Run.bind_ok hrun]
      cases hname : syncId response with
      | error e =>
          rw [id, hname, Except.mapError, Run.lift_error_bind]
          exact ⟨[], rfl, reads_nil, Synced.nameless response e hname⟩
      | ok name =>
          have hawait := synced_await client hname r (h ++
            [.attempt (syncRequest deviceUuids) (r.exchange h (syncRequest deviceUuids))])
          rw [id, hname, Except.mapError, Run.lift_ok_bind]
          exact ⟨_, rfl, hawait⟩

/-- It is refused locally, or it is one `POST` and what follows. -/
theorem syncDevices_cases (client : SdcClient) (deviceUuids : List String) (r : Env)
    (h : List Event) :
    (∃ e, syncDevices client deviceUuids r h = (.err (.beforeSubmit e), [])) ∨
    ∃ a after, (syncDevices client deviceUuids r h).2 =
        .attempt (syncRequest deviceUuids) a :: after ∧ Reads after ∧
      Synced client (writeVerdict client a.exchange) after
        (syncDevices client deviceUuids r h).1 := by
  cases hadmits : syncAdmits client deviceUuids with
  | error e => exact Or.inl ⟨e, syncDevices_refused hadmits r h⟩
  | ok u => exact Or.inr ⟨_, syncDevices_admitted hadmits r h⟩

/-! ### What the `POST` tells -/

/-- The exchanges after which a failure before submission is told from one after it. -/
def SubmitTells (client : SdcClient) : Exchange → Bool
  | .unsent _ => true
  | .sendError error => error.isBuilder
  | .unanswered why => why ≠ .timedOut
  | .answered answer =>
      !isSuccess answer.status ||
        match readBody client.maxResponseBytes answer with
        | .error why => why ≠ .timedOut
        | .ok _ => true

/-- An exchange that is reported as a failure before submission was one. -/
def BeforeSubmitTrue (client : SdcClient) (x : Exchange) : Prop :=
  ∀ e e', writeVerdict client x = .err e → DeviceSyncFailure.fromSubmit e = .beforeSubmit e' →
    x.handed = true → x.refused = true

/-- An interrupted call that is reported as a failure before submission timed out. -/
private theorem interrupted_iff {client : SdcClient} {x : Exchange} (why : Interrupt)
    (hx : writeVerdict client x = interrupted why) (hhanded : x.handed = true)
    (hrefused : x.refused = false) : BeforeSubmitTrue client x ↔ why ≠ .timedOut := by
  cases why with
  | cancelled =>
      refine iff_of_true (fun e e' he hfrom => ?_) (by simp)
      rw [hx] at he
      cases he
      cases hfrom
  | dropped =>
      refine iff_of_true (fun e e' he => ?_) (by simp)
      rw [hx] at he
      cases he
  | timedOut =>
      refine iff_of_false (fun htrue => ?_) (by simp)
      have := htrue .timeout .timeout hx rfl hhanded
      rw [hrefused] at this
      cases this

theorem beforeSubmitTrue_iff (client : SdcClient) (x : Exchange) :
    BeforeSubmitTrue client x ↔ SubmitTells client x = true := by
  cases x with
  | unsent why => exact iff_of_true (fun _ _ _ _ hhanded => by cases hhanded) rfl
  | unanswered why =>
      have hverdict : writeVerdict client (.unanswered why) = interrupted why := by
        cases why <;> rfl
      rw [interrupted_iff why hverdict rfl rfl]
      show _ ↔ decide (why ≠ .timedOut) = true
      rw [decide_eq_true_iff]
  | sendError error =>
      have hfrom : DeviceSyncFailure.fromSubmit (classifyReqwest error)
          = .beforeSubmit (classifyReqwest error) := by
        unfold classifyReqwest
        split_ifs
        all_goals rfl
      show _ ↔ error.isBuilder = true
      constructor
      · intro htrue
        by_contra hbuild
        have := htrue _ _ rfl hfrom (by simpa [Exchange.handed] using hbuild)
        cases this
      · intro hbuild e e' _ _ hhanded
        simp [Exchange.handed, hbuild] at hhanded
  | answered answer =>
      show _ ↔ (!isSuccess answer.status || _) = true
      by_cases hok : isSuccess answer.status = true
      · have hrefused : (Exchange.answered answer).refused = false := by
          simp [Exchange.refused, Exchange.status, hok]
        rw [hok, Bool.not_true, Bool.false_or]
        cases hbody : readBody client.maxResponseBytes answer with
        | error why =>
            rw [interrupted_iff why (verdict_interrupted hbody judgeWrite) rfl hrefused]
            show _ ↔ decide (why ≠ .timedOut) = true
            rw [decide_eq_true_iff]
        | ok body =>
            refine iff_of_true (fun e e' he hfrom => ?_) rfl
            -- A success is never an error other than an unreadable answer.
            have hunknown : e = .mutationOutcomeUnknown := by
              have hverdict : Outcome.ofExcept (judgeWrite (answer.status, body)) = .err e :=
                (verdict_answered hbody judgeWrite).symm.trans he
              rcases judgeWrite_accepted hok body with ⟨v, raw, hjudge, -, -⟩ | ⟨hjudge, -⟩
              · rw [hjudge] at hverdict
                cases hverdict
              · rw [hjudge] at hverdict
                cases hverdict
                rfl
            rw [hunknown] at hfrom
            cases hfrom
      · have hno : isSuccess answer.status = false := by simpa using hok
        rw [hno, Bool.not_false, Bool.true_or]
        refine iff_of_true (fun _ _ _ _ _ => ?_) rfl
        simp [Exchange.refused, Exchange.status, hno]

/-! ### Honest dispositions -/

/-- Every mutating request of a run that is reported as not submitted was not. -/
def SubmitsTold (client : SdcClient) (t : List Event) : Prop :=
  ∀ q a, .attempt q a ∈ t → q.mutating = true → SubmitTells client a.exchange = true

/-- What a sync reports: a failure before submission only if SDC refused the `POST` or never
saw it, a job only if it was seen to end, and always the id that the `POST` was answered with. -/
structure SyncHonest (client : SdcClient) (t : List Event)
    (o : Outcome DeviceSyncFailure (String × DeviceSyncJob)) : Prop where
  failed : ∀ e, o = .err (.beforeSubmit e) → ∀ q a, .attempt q a ∈ t → q.mutating = true →
    a.exchange.handed = true → a.exchange.refused = true
  observed : ∀ id job, o = .ok (id, job) → Observed client t id job
  named : ∀ q a response id, .attempt q a ∈ t → q.mutating = true →
    writeVerdict client a.exchange = .ok response → syncId response = .ok id →
    o = .dropped ∨ (∃ job, o = .ok (id, job)) ∨
      ∃ source, o = .err (.afterSubmit (some id) source)

/-- The disposition of a device-sync commit. -/
structure SyncCommitHonest (client : SdcClient) (t : List Event)
    (o : Outcome SdcError CommitOutcome) : Prop where
  failed : ∀ e, o = .err e → ∀ q a, .attempt q a ∈ t → q.mutating = true →
    a.exchange.handed = true → a.exchange.refused = true
  reconciled : ∀ succeeded jobId details, o = .ok (.reconciled succeeded jobId details) →
    ∃ id job, jobId = some id ∧ Observed client t id job ∧
      (succeeded = true ↔
        job.status = .success ∧ ∀ entry ∈ job.deviceSyncStatus, entry.status = .success)
  named : ∀ q a response id, .attempt q a ∈ t → q.mutating = true →
    writeVerdict client a.exchange = .ok response → syncId response = .ok id →
    o = .dropped ∨ (∃ succeeded details, o = .ok (.reconciled succeeded (some id) details)) ∨
      ∃ reason, o = .ok (.indeterminate reason) ∧ id.toList <:+: reason.toList

/-- A failure before submission is reported truly exactly when the `POST` tells. -/
theorem Synced.failed_iff {client : SdcClient} {x : Exchange} {after : List Event}
    {o : Outcome DeviceSyncFailure (String × DeviceSyncJob)}
    (hs : Synced client (writeVerdict client x) after o) :
    (∀ e, o = .err (.beforeSubmit e) → x.handed = true → x.refused = true) ↔
      SubmitTells client x = true := by
  rw [← beforeSubmitTrue_iff]
  constructor
  · intro hall e e' hv hfrom hhanded
    refine hall e' ?_ hhanded
    rw [hs.failure hv, hfrom]
  · intro htrue e ho hhanded
    obtain ⟨e', hv, hfrom⟩ := hs.beforeSubmit ho
    exact htrue e' e hv hfrom hhanded

section Run

variable {client : SdcClient} {gate after : List Event} {q : Request} {a : Attempt}

omit [Crates] in
private theorem submitsTold_iff (hgate : Quiet gate) (hquiet : Quiet after)
    (hmut : q.mutating = true) :
    SubmitsTold client (gate ++ .attempt q a :: after) ↔ SubmitTells client a.exchange = true := by
  constructor
  · intro hall
    exact hall q a (by simp) hmut
  · intro htells q' a' hm hq'
    rw [hgate.only_attempt hquiet hm hq']
    exact htells

/-- The report of a sync, from its run. -/
private theorem syncHonest_run {o : Outcome DeviceSyncFailure (String × DeviceSyncJob)}
    (hgate : Quiet gate) (hquiet : Quiet after) (hmut : q.mutating = true)
    (hs : Synced client (writeVerdict client a.exchange) after o) :
    SyncHonest client (gate ++ .attempt q a :: after) o ↔
      SubmitsTold client (gate ++ .attempt q a :: after) := by
  rw [submitsTold_iff hgate hquiet hmut, ← hs.failed_iff]
  constructor
  · intro hh e ho hhanded
    exact hh.failed e ho q a (by simp) hmut hhanded
  · intro hfailed
    refine ⟨?_, ?_, ?_⟩
    · intro e ho q' a' hm hq' hhanded
      rw [hgate.only_attempt hquiet hm hq'] at hhanded ⊢
      exact hfailed e ho hhanded
    · intro id job ho
      obtain ⟨b, hm, hv, hterm⟩ := hs.observed ho
      exact ⟨b, by simp [hm], hv, hterm⟩
    · intro q' a' response id hm hq' hverdict hname
      rw [hgate.only_attempt hquiet hm hq'] at hverdict
      exact hs.named hverdict hname

/-- What a commit makes of a sync. -/
def settleSync (staged : SdcPreparedDeviceSync) :
    Outcome DeviceSyncFailure (String × DeviceSyncJob) → Outcome SdcError CommitOutcome
  | .ok result => Outcome.ofExcept (SdcDeviceSyncTransaction.reconcileSync staged (.ok result))
  | .err failure =>
      Outcome.ofExcept (SdcDeviceSyncTransaction.reconcileSync staged (.error failure))
  | .dropped => .dropped

theorem settleSync_failed {staged : SdcPreparedDeviceSync}
    {o : Outcome DeviceSyncFailure (String × DeviceSyncJob)} {e : SdcError} :
    settleSync staged o = .err e ↔ o = .err (.beforeSubmit e) := by
  cases o with
  | ok result => exact iff_of_false (by intro hc; cases hc) (by intro hc; cases hc)
  | dropped => exact iff_of_false (by intro hc; cases hc) (by intro hc; cases hc)
  | err failure =>
      cases failure with
      | beforeSubmit error =>
          constructor
          · intro hc
            cases hc
            rfl
          · intro hc
            cases hc
            rfl
      | afterSubmit syncId source =>
          exact iff_of_false (by intro hc; cases hc) (by intro hc; cases hc)

theorem settleSync_reconciled {staged : SdcPreparedDeviceSync}
    {o : Outcome DeviceSyncFailure (String × DeviceSyncJob)} {succeeded : Bool}
    {jobId details : Option String}
    (ho : settleSync staged o = .ok (.reconciled succeeded jobId details)) :
    ∃ id job, o = .ok (id, job) ∧ jobId = some id ∧
      (succeeded = true ↔
        job.status = .success ∧ ∀ entry ∈ job.deviceSyncStatus, entry.status = .success) := by
  cases o with
  | dropped => cases ho
  | err failure => cases failure <;> cases ho
  | ok result =>
      obtain ⟨id, job⟩ := result
      cases ho
      refine ⟨id, job, rfl, rfl, ?_⟩
      rw [Bool.and_eq_true, List.isEmpty_iff, DeviceSyncJob.failures_eq_nil]
      refine and_congr_left' ?_
      cases job.status <;> simp [DeviceSyncStatus.succeeded]

/-- The reason of a sync that was lost after it was named names it. -/
theorem settleSync_named {staged : SdcPreparedDeviceSync} (id : String) (source : SdcError) :
    ∃ reason, settleSync staged (.err (.afterSubmit (some id) source))
        = .ok (.indeterminate reason) ∧ id.toList <:+: reason.toList := by
  refine ⟨_, rfl, ?_⟩
  let start := "device inventory sync outcome is unknown: " ++
    (source.display ++ "; the sync was accepted as ")
  let rest := " and may still be running — query GET /api/v1/devices/sync/" ++ id
  refine ⟨start.toList, rest.toList, ?_⟩
  rw [← String.toList_append, ← String.toList_append]
  show (start ++ id ++ rest).toList = ("device inventory sync outcome is unknown: " ++
    (source.display ++ "; the sync was accepted as " ++ id
      ++ " and may still be running — query GET /api/v1/devices/sync/" ++ id)).toList
  simp only [start, rest, String.append_assoc]

end Run

/-- **The report of a sync** is honest exactly when its `POST` tells. -/
theorem syncHonest_iff (client : SdcClient) (deviceUuids : List String) (r : Env)
    (h : List Event) :
    SyncHonest client (syncDevices client deviceUuids r h).2
        (syncDevices client deviceUuids r h).1 ↔
      SubmitsTold client (syncDevices client deviceUuids r h).2 := by
  rcases syncDevices_cases client deviceUuids r h with ⟨e, heq⟩ | ⟨a, after, ht, hreads, hs⟩
  · rw [heq]
    refine iff_of_true ⟨?_, ?_, ?_⟩ ?_
    · intro e' _ q a hm
      cases hm
    · intro id job ho
      cases ho
    · intro q a response id hm
      cases hm
    · intro q a hm
      cases hm
  · rw [ht]
    exact syncHonest_run reads_nil.quiet hreads.quiet rfl hs

namespace SdcDeviceSyncTransaction

theorem write_apply (client : SdcClient) (staged : SdcPreparedDeviceSync) (r : Env)
    (h : List Event) :
    write client staged r h =
      (settleSync staged (syncDevices client staged.deviceUuids r h).1,
        (syncDevices client staged.deviceUuids r h).2) := by
  unfold write
  rw [Run.bind_lift, Run.observe_apply]
  cases (syncDevices client staged.deviceUuids r h).1 <;> rfl

end SdcDeviceSyncTransaction

/-- A commit that sent nothing and returned nothing. -/
private theorem syncCommitHonest_quiet {client : SdcClient} {t : List Event}
    {o : Outcome SdcError CommitOutcome} (hquiet : Quiet t) (hnone : ∀ out, o ≠ .ok out) :
    SyncCommitHonest client t o ↔ SubmitsTold client t := by
  refine iff_of_true ⟨?_, ?_, ?_⟩ ?_
  · intro e _ q a hm hq
    exact absurd hq (hquiet.not_mutating hm)
  · intro succeeded jobId details ho
    exact absurd ho (hnone _)
  · intro q a response id hm hq
    exact absurd hq (hquiet.not_mutating hm)
  · intro q a hm hq
    exact absurd hq (hquiet.not_mutating hm)

/-- The disposition of a commit, from the run of its sync. -/
private theorem syncCommitHonest_run {client : SdcClient} {staged : SdcPreparedDeviceSync}
    {gate after : List Event} {q : Request} {a : Attempt}
    {o : Outcome DeviceSyncFailure (String × DeviceSyncJob)}
    (hgate : Quiet gate) (hquiet : Quiet after) (hmut : q.mutating = true)
    (hs : Synced client (writeVerdict client a.exchange) after o) :
    SyncCommitHonest client (gate ++ .attempt q a :: after) (settleSync staged o) ↔
      SubmitsTold client (gate ++ .attempt q a :: after) := by
  rw [submitsTold_iff hgate hquiet hmut, ← hs.failed_iff]
  constructor
  · intro hh e ho hhanded
    exact hh.failed e (settleSync_failed.mpr ho) q a (by simp) hmut hhanded
  · intro hfailed
    refine ⟨?_, ?_, ?_⟩
    · intro e ho q' a' hm hq' hhanded
      rw [hgate.only_attempt hquiet hm hq'] at hhanded ⊢
      exact hfailed e (settleSync_failed.mp ho) hhanded
    · intro succeeded jobId details hout
      obtain ⟨id, job, ho, hid, hsucc⟩ := settleSync_reconciled hout
      obtain ⟨b, hm, hv, hterm⟩ := hs.observed ho
      exact ⟨id, job, hid, ⟨b, by simp [hm], hv, hterm⟩, hsucc⟩
    · intro q' a' response id hm hq' hverdict hname
      rw [hgate.only_attempt hquiet hm hq'] at hverdict
      rcases hs.named hverdict hname with ho | ⟨job, ho⟩ | ⟨source, ho⟩
      · rw [ho]
        exact Or.inl rfl
      · rw [ho]
        exact Or.inr (Or.inl ⟨_, _, rfl⟩)
      · rw [ho]
        exact Or.inr (Or.inr (settleSync_named id source))

theorem syncCommitHonest_iff (client : SdcClient) (staged : SdcPreparedDeviceSync)
    (options : CommitOptions) (r : Env) (h : List Event) :
    SyncCommitHonest client (SdcDeviceSyncTransaction.commit client staged options r h).2
        (SdcDeviceSyncTransaction.commit client staged options r h).1 ↔
      SubmitsTold client (SdcDeviceSyncTransaction.commit client staged options r h).2 := by
  unfold SdcDeviceSyncTransaction.commit
  rcases commitUnchanged_cases "SDC does not support confirmed device syncs" options
    (SdcDeviceSyncTransaction.write client staged)
    (SdcDeviceSyncTransaction.targetsUnchanged_readsOnly client staged) r h
    with ⟨hquiet, hnone⟩ | ⟨s, -, hquiet, heq⟩
  · exact syncCommitHonest_quiet hquiet hnone
  have hgate := quiet_gateEvents hquiet
  rw [heq, SdcDeviceSyncTransaction.write_apply]
  rcases syncDevices_cases client staged.deviceUuids r (h ++ gateEvents s)
    with ⟨e, hrun⟩ | ⟨a, after, ht, hafter, hs⟩
  · rw [hrun, List.append_nil]
    exact syncCommitHonest_quiet hgate (by intro out hc; cases hc)
  · rw [ht]
    exact syncCommitHonest_run hgate hafter.quiet rfl hs

/-- **Device-sync outcomes.**  For every device list and every staged sync, what is reported is
honest exactly when the exchange of the `POST` tells a failure before submission from a later
one. -/
theorem device_sync_honest_iff (client : SdcClient) (options : CommitOptions) (r : Env)
    (h : List Event) :
    (∀ deviceUuids : List String,
      SyncHonest client (syncDevices client deviceUuids r h).2
          (syncDevices client deviceUuids r h).1 ↔
        SubmitsTold client (syncDevices client deviceUuids r h).2) ∧
    (∀ staged : SdcPreparedDeviceSync,
      SyncCommitHonest client (SdcDeviceSyncTransaction.commit client staged options r h).2
          (SdcDeviceSyncTransaction.commit client staged options r h).1 ↔
        SubmitsTold client (SdcDeviceSyncTransaction.commit client staged options r h).2) :=
  ⟨fun deviceUuids => syncHonest_iff client deviceUuids r h,
    fun staged => syncCommitHonest_iff client staged options r h⟩

end Sync

/-! ### A sync whose connection is lost -/

section SyncLost

/-- The device before and after; a sync has yet to reach it. -/
def outOfSync : Json :=
  .obj [("device_sync_status", .str "OUT_OF_SYNC"),
    ("inventory_sync_info", .obj [("overall_sync_status", .str "OUT_OF_SYNC")])]

def syncTables : Tables where
  documents := [outOfSync]
  digests :=
    [((SdcPreparedDeviceSync.planArtifact ["dev-1"]
        ⟨.obj [("dev-1", outOfSync)], by simp [outOfSync]⟩).tree.canonicalize,
      [80, 38, 50, 15, 36, 118, 145, 199, 120, 201, 213, 255, 187, 193, 153, 235, 202, 5, 163,
        55, 154, 126, 204, 215, 11, 127, 16, 147, 215, 48, 151, 76])]

local instance syncCrates : Crates := syncTables.crates

/-- A sync of one device, as it is staged. -/
def oneDeviceSync : SdcPreparedDeviceSync :=
  let before : Value := ⟨.obj [("dev-1", outOfSync)], by simp [outOfSync]⟩
  { operation := "device_sync"
    deviceUuids := ["dev-1"]
    before := before
    planDigest := canonicalDigest (SdcPreparedDeviceSync.planArtifact ["dev-1"] before) }

/-- Its commit, when the device is read and the connection of the `POST` is lost. -/
def lostSync : Outcome SdcError CommitOutcome × List Event :=
  SdcDeviceSyncTransaction.commit minuteClient oneDeviceSync ⟨none⟩
    (Env.answering fun request =>
      if request.mutating then .sendError ⟨.request, false⟩ else .replies 200 outOfSync) []

/-- The `POST` was handed over and not refused, and the commit reports a failure. -/
theorem lost_sync_not_honest :
    SdcDeviceSyncTransaction.stage oneDeviceSync.planDigest [oneDeviceSync] = .ok oneDeviceSync ∧
      lostSync.1 = .err .transport ∧ lostSync.2.any Event.mutates = true ∧
      ¬ SyncCommitHonest minuteClient lostSync.2 lostSync.1 := by
  have hout : lostSync.1 = .err .transport := by rfl
  have hsent : lostSync.2.getLast? =
      some (.attempt (syncRequest ["dev-1"]) ⟨0, .sendError ⟨.request, false⟩⟩) := by rfl
  have hstaged : SdcDeviceSyncTransaction.stage oneDeviceSync.planDigest [oneDeviceSync]
      = .ok oneDeviceSync :=
    stageOne_ok.mpr ⟨rfl, by decide +kernel, by decide +kernel⟩
  refine ⟨hstaged, hout, by rfl, ?_⟩
  intro hh
  have hrefused := hh.failed _ hout _ _ (List.mem_of_getLast? hsent) rfl rfl
  exact absurd hrefused (by decide)

end SyncLost

end SdcMcp
