/-
What is true of every request.

Whatever tool is called, each request goes through one place that checks its path and the
credential, and each list read names the size of its page.  So no segment of a path is
empty or names a directory, no credential is sent that cannot be a header, and nothing is
asked for without a bound, not by the reads that a write makes either.

A write of licenses or certificates looks at the first hundred of what is there, whatever
its caller says; where the configured maximum is lower, that read is refused.
-/
import SdcMcp.Proofs.DeployOutcome
import SdcMcp.Proofs.LicenseOutcome
import SdcMcp.Proofs.ReadTools
import SdcMcp.Proofs.SyncOutcome

namespace SdcMcp

open Interactive

variable {α β ε : Type}

/-! ### The states that plans are made from -/

section States

variable [Crates] {client : SdcClient}

theorem objectState_asksFor (action : ObjectWriteAction) (resource : WritableResource)
    (uuid : Option String) : AsksFor client [] (objectState client action resource uuid) := by
  unfold objectState
  split
  · exact Run.emits_pure
  · exact readCall_asksFor none _ _ _ rfl
  · exact Run.emits_fail
  · exact Run.emits_fail

theorem firewallState_asksFor (action : FirewallWriteOperation) (uuid : Option String) :
    AsksFor client [] (firewallState client action uuid) := by
  unfold firewallState
  split
  · exact Run.emits_pure
  · exact readCall_asksFor none _ _ _ rfl
  · exact Run.emits_fail
  · exact Run.emits_fail

theorem natState_asksFor (action : NatWriteOperation) (policyId ruleId groupId : Option String) :
    AsksFor client [] (natState client action policyId ruleId groupId) := by
  unfold natState
  split
  · exact Run.emits_pure
  · exact Run.emits_pure
  · exact Run.emits_pure
  · exact Run.emits_bind Run.emits_lift fun _ => readCall_asksFor none _ _ _ rfl
  · exact Run.emits_bind Run.emits_lift fun _ => readCall_asksFor none _ _ _ rfl
  · exact Run.emits_bind Run.emits_lift fun _ =>
      Run.emits_bind Run.emits_lift fun _ => readCall_asksFor none _ _ _ rfl
  · exact Run.emits_bind Run.emits_lift fun _ =>
      Run.emits_bind Run.emits_lift fun _ => readCall_asksFor none _ _ _ rfl
  · exact Run.emits_bind Run.emits_lift fun _ =>
      Run.emits_bind Run.emits_lift fun _ => readCall_asksFor none _ _ _ rfl

theorem licenseState_asksFor (action : LicenseWriteOperation) (deviceUuid : String) :
    AsksFor client [100] (licenseState client action deviceUuid) := by
  have hpage : ∀ list : ListRequest → Io Value,
      (∀ page, AsksFor client [page.size] (list page)) →
      AsksFor client [100] (SdcLicenseTransaction.firstPage list) := by
    intro list hlist
    refine Run.emits_lift_bind fun page hpage => ?_
    obtain ⟨rfl, -⟩ := ListRequest.new_ok hpage
    exact hlist _
  unfold licenseState
  split
  · exact hpage _ fun page => listCall_asksFor _ _ page
  · exact hpage _ fun page => listCall_asksFor _ _ page
  · exact hpage _ fun page => listCall_asksFor _ _ page
  · exact Run.emits_bind (hpage _ fun page => listCall_asksFor _ _ page) fun _ =>
      (hpage _ fun page => listCall_asksFor _ _ page).map _

theorem readDevices_asksFor (before : Map) (deviceUuids : List String) :
    AsksFor client [] (readDevices client before deviceUuids) := by
  induction deviceUuids generalizing before with
  | nil => exact Run.emits_pure
  | cons uuid rest ih =>
      exact Run.emits_bind (readCall_asksFor none _ _ _ rfl) fun device => ih _

theorem SdcObjectTransaction.targetUnchanged_asksFor (staged : SdcPreparedObjectWrite) :
    AsksFor client [] (targetUnchanged client staged) := by
  unfold targetUnchanged
  split
  · exact (readCall_asksFor none _ _ _ rfl).map _
  · exact (readCall_asksFor none _ _ _ rfl).map _
  · exact Run.emits_pure

theorem SdcFirewallTransaction.targetUnchanged_asksFor (staged : SdcPreparedFirewallWrite) :
    AsksFor client [] (targetUnchanged client staged) := by
  unfold targetUnchanged
  split
  · exact (readCall_asksFor none _ _ _ rfl).map _
  · exact (readCall_asksFor none _ _ _ rfl).map _
  · exact Run.emits_pure

/-- A NAT write is re-checked against the state it was planned against, if it had one. -/
theorem SdcNatTransaction.targetUnchanged_eq (client : SdcClient) (staged : SdcPreparedNatWrite) :
    targetUnchanged client staged = match staged.action with
      | .createPolicy | .createRule | .createRuleGroup => return true
      | _ => do
          let current ← natState client staged.action staged.policyId staged.ruleId staged.groupId
          return sameDigest staged.before current := by
  unfold targetUnchanged natState
  cases staged.action <;> simp only [bind_assoc]

theorem SdcNatTransaction.targetUnchanged_asksFor (staged : SdcPreparedNatWrite) :
    AsksFor client [] (targetUnchanged client staged) := by
  rw [targetUnchanged_eq]
  split
  · exact Run.emits_pure
  · exact Run.emits_pure
  · exact Run.emits_pure
  · exact (natState_asksFor _ _ _ _).map _

theorem SdcLicenseTransaction.targetUnchanged_asksFor (staged : SdcPreparedLicenseWrite) :
    AsksFor client [100] (targetUnchanged client staged) := by
  unfold targetUnchanged
  rw [current_eq]
  exact (licenseState_asksFor _ _).map _

theorem SdcDeviceSyncTransaction.targetsUnchanged_asksFor (staged : SdcPreparedDeviceSync) :
    AsksFor client [] (targetsUnchanged client staged) := by
  unfold targetsUnchanged
  induction staged.deviceUuids with
  | nil => exact Run.emits_pure
  | cons uuid rest ih =>
      refine Run.emits_bind (readCall_asksFor none _ _ _ rfl) fun current => ?_
      by_cases hmoved : inventoryState current ≠ thenState staged.before uuid
      · rw [if_pos hmoved]
        exact Run.emits_pure
      · rw [if_neg hmoved]
        exact ih

end States

/-! ### Proper requests -/

section Proper

variable [Crates] {client : SdcClient}

/-- The request of this event, if it has one, passes the checks of the client, and it asks for no
page or for one within the configured maximum. -/
def Proper (client : SdcClient) (e : Event) : Prop :=
  ∀ q, e.request = some q → checkRequest client q = .ok () ∧
    (q.pageSizes = [] ∨
      ∃ size, q.pageSizes = [toString size] ∧ 1 ≤ size ∧ size ≤ client.maxPageSize)

theorem AsksFor.proper {sizes : List Nat} {x : Io α} (hx : AsksFor client sizes x) :
    x.Emits (Proper client) := by
  intro r h e he q hq
  obtain ⟨hcheck, hpage⟩ := (hx r h e he).2 q hq
  refine ⟨hcheck, ?_⟩
  rcases hpage with ⟨-, hnone⟩ | ⟨size, -, hsize⟩
  · exact Or.inl hnone
  · exact Or.inr ⟨size, hsize⟩

theorem proper_of_silent {e : Event} (he : e.request = none) : Proper client e := by
  intro q hq
  rw [he] at hq
  cases hq

theorem proper_attempt {q : Request} (hcheck : checkRequest client q = .ok ())
    (hquery : q.query = []) (a : Attempt) : Proper client (.attempt q a) := by
  intro q' hq'
  cases hq'
  refine ⟨hcheck, Or.inl ?_⟩
  unfold Request.pageSizes
  rw [hquery]
  rfl

theorem WriteCall.run_proper {call : WriteCall} (hget : call.method ≠ .get) :
    (call.run client).Emits (Proper client) := by
  intro r h e he
  cases hadmits : call.admits client with
  | error e' =>
      rw [WriteCall.run_refused hget hadmits] at he
      cases he
  | ok u =>
      obtain ⟨u', -, hcheck⟩ := Except.bind_eq_ok_iff.mp hadmits
      rw [WriteCall.run_admitted hget hadmits] at he
      rw [List.mem_singleton.mp he]
      exact proper_attempt hcheck rfl _

theorem post_proper (decode : Json → Option α) (segments : List String) (body : Json) :
    (post client decode segments body).Emits (Proper client) := by
  intro r h e he
  cases hcheck : checkRequest client ⟨.post, segments, [], some body⟩ with
  | error e' =>
      rw [post_refused decode hcheck] at he
      cases he
  | ok u =>
      rw [post_admitted decode hcheck] at he
      rw [List.mem_singleton.mp he]
      exact proper_attempt hcheck rfl _

theorem poll_proper {probe : Option Nat → Io α}
    (hprobe : ∀ race, (probe race).Emits (Proper client))
    (isTerminal : α → Bool) : (poll client probe isTerminal).Emits (Proper client) := by
  have hpause : ∀ (race : Option Nat) ms, (pause race ms).Emits (Proper client) := by
    intro race ms r h e he
    obtain ⟨elapsed, ending, hrun, -⟩ := pause_cases race ms r h
    rw [hrun] at he
    rw [List.mem_singleton.mp he]
    exact proper_of_silent rfl
  have hloop : ∀ fuel deadline interval,
      (pollFrom client probe isTerminal deadline interval fuel).Emits (Proper client) := by
    intro fuel
    induction fuel with
    | zero => exact fun _ _ => Run.emits_fail
    | succ fuel ih =>
        intro deadline interval
        refine Run.emits_bind (hprobe _) fun status => ?_
        by_cases hterminal : isTerminal status = true
        · rw [if_pos hterminal]
          exact Run.emits_pure
        · rw [if_neg hterminal]
          exact Run.emits_bind (hpause _ _) fun _ => ih _ _
  exact Run.emits_bind Run.emits_ask fun now => hloop _ _ _

theorem pollJob_proper (kind : JobKind) (jobId : String) :
    (pollJob client kind jobId).Emits (Proper client) :=
  poll_proper (fun race => by
    rw [jobStatus_eq]
    exact (readCall_asksFor race _ _ _ rfl).proper) _

theorem pollDeviceSync_proper (syncId : String) :
    (pollDeviceSync client syncId).Emits (Proper client) :=
  poll_proper (fun race => (readCall_asksFor race _ _ _ rfl).proper) _

end Proper

/-! ### Applications -/

section Applications

variable [Crates] {client : SdcClient}

theorem relay_proper (coordinator : Coordinator α) (conduct : List Event → Conduct) {call : Io β}
    (hcall : call.Emits (Proper client)) :
    (coordinator.relay conduct call).Emits (Proper client) := by
  refine Run.emits_bind Run.emits_ask fun answer => ?_
  cases answer with
  | refuses error => exact Run.emits_fail
  | relays => exact Run.emits_mapErr hcall
  | breaks error => exact Run.emits_bind (Run.emits_settle hcall) fun _ => Run.emits_fail

theorem applyChangeSet_proper (coordinator : Coordinator α)
    (stage : List α → Except SdcError α) :
    (coordinator.applyChangeSet stage).Emits (Proper client) :=
  Run.emits_bind Run.emits_ask fun _ => Run.emits_bind Run.emits_lift fun _ =>
    Run.emits_bind (relay_proper coordinator _ Run.emits_lift) fun _ => Run.emits_pure

theorem commitUnchanged_proper (unsupported : String) (options : CommitOptions)
    {unchanged : Io Bool} {write : Io CommitOutcome} (hreads : unchanged.Emits (Proper client))
    (hwrite : write.Emits (Proper client)) :
    (commitUnchanged unsupported options unchanged write).Emits (Proper client) := by
  refine Run.emits_bind (Run.emits_emit (proper_of_silent rfl)) fun _ => ?_
  split
  · exact Run.emits_fail
  · refine Run.emits_bind hreads fun same => ?_
    cases same with
    | true =>
        exact Run.emits_bind (Run.emits_emit (proper_of_silent rfl)) fun _ => hwrite
    | false => exact Run.emits_fail

theorem validateUnchanged_proper {unchanged : Io Bool} (report : Bool → β)
    (hreads : unchanged.Emits (Proper client)) :
    (validateUnchanged unchanged report).Emits (Proper client) := by
  refine Run.emits_bind hreads fun same => ?_
  cases same with
  | true => exact Run.emits_pure
  | false => exact Run.emits_fail

theorem commitWrite_proper (details reason : String) {call : Except SdcError WriteCall}
    (hget : ∀ c, call = .ok c → c.method ≠ .get) :
    (commitWrite client details reason call).Emits (Proper client) :=
  Run.emits_lift_bind fun c hc =>
    Run.emits_bind (Run.emits_observe (WriteCall.run_proper (hget c hc))) fun _ => Run.emits_lift

theorem releaseAndFail_proper (texts : ReleaseTexts) (coordinator : Coordinator α)
    (operationId error : String) :
    (releaseAndFail texts coordinator operationId error : Io β).Emits (Proper client) := by
  refine Run.emits_bind (Run.emits_bind (Run.emits_emit (proper_of_silent rfl)) fun _ =>
    Run.emits_bind Run.emits_ask fun answer => ?_) fun _ => Run.emits_fail
  cases answer <;> exact Run.emits_pure

/-- An application sends what its transaction sends. -/
theorem applyWrite_proper (texts : ReleaseTexts) (coordinator : Coordinator α)
    {transaction : Transaction α β}
    (hvalidate : ∀ staged, (transaction.validate staged).Emits (Proper client))
    (hcommit : ∀ staged, (transaction.commit staged ⟨none⟩).Emits (Proper client)) :
    (applyWrite texts coordinator transaction).Emits (Proper client) := by
  refine Run.emits_bind (Run.emits_emit (proper_of_silent rfl)) fun _ => ?_
  refine Run.emits_bind (Run.emits_mapErr (applyChangeSet_proper coordinator _)) fun applied => ?_
  refine Run.emits_bind (Run.emits_mapErr (relay_proper coordinator _ Run.emits_pure)) fun _ => ?_
  refine Run.emits_bind (Run.emits_observe (relay_proper coordinator _ (hvalidate _)))
    fun validated => ?_
  cases validated with
  | error error => exact releaseAndFail_proper _ _ _ _
  | ok validation =>
      refine Run.emits_bind (Run.emits_observe (relay_proper coordinator _ (hcommit _)))
        fun committed => ?_
      cases committed with
      | ok outcome => exact Run.emits_pure
      | error error =>
          refine Run.emits_bind Run.emits_ask fun refused => ?_
          split
          · exact releaseAndFail_proper _ _ _ _
          · exact Run.emits_fail

theorem applyPolicyDeploy_proper (coordinator : Coordinator SdcPreparedChange) (digest : String) :
    (applyPolicyDeploy client coordinator digest).Emits (Proper client) := by
  refine Run.emits_mapErr (Run.emits_bind (applyChangeSet_proper coordinator _) fun applied => ?_)
  refine Run.emits_bind (relay_proper coordinator _ Run.emits_pure) fun _ => ?_
  refine Run.emits_bind (relay_proper coordinator _ Run.emits_lift) fun _ => ?_
  refine Run.emits_bind (relay_proper coordinator _ ?_) fun _ => Run.emits_pure
  refine Run.emits_bind Run.emits_lift fun request =>
    Run.emits_bind (Run.emits_observe ?_) fun _ => Run.emits_lift
  exact Run.emits_bind (post_proper _ _ _) fun response =>
    Run.emits_bind Run.emits_lift fun _ =>
      Run.emits_bind (pollJob_proper _ _) fun _ => Run.emits_pure

theorem SdcLicenseTransaction.write_proper (staged : SdcPreparedLicenseWrite) :
    (write client staged).Emits (Proper client) := by
  refine Run.emits_bind (Run.emits_bind (WriteCall.run_proper (call_method staged)) fun response =>
    Run.emits_bind Run.emits_lift fun jobId => ?_) fun _ => Run.emits_pure
  exact Run.emits_bind (pollJob_proper _ _) fun _ => Run.emits_pure

theorem SdcDeviceSyncTransaction.write_proper (staged : SdcPreparedDeviceSync) :
    (write client staged).Emits (Proper client) := by
  refine Run.emits_bind (Run.emits_observe (Run.emits_bind Run.emits_lift fun _ =>
    Run.emits_bind (Run.emits_mapErr ?_) fun response =>
      Run.emits_bind Run.emits_lift fun syncId =>
        Run.emits_bind (Run.emits_observe (pollDeviceSync_proper syncId)) fun finished => ?_))
    fun _ => Run.emits_lift
  · intro r h e he
    cases hcheck : checkRequest client (syncRequest staged.deviceUuids) with
    | error e' =>
        have hrun := sendWrite_refused (by decide) (some (syncBody staged.deviceUuids)) hcheck r h
        rw [hrun] at he
        cases he
    | ok u =>
        have hrun := sendWrite_admitted (by decide) (some (syncBody staged.deviceUuids)) hcheck r h
        rw [hrun] at he
        rw [List.mem_singleton.mp he]
        exact proper_attempt hcheck rfl _
  · cases finished with
    | ok job => exact Run.emits_pure
    | error source => exact Run.emits_fail

end Applications

/-! ### Preparations -/

section Preparations

variable {P : Event → Prop}

/-- Storing a change set sends nothing to SDC. -/
theorem createChangeSet_emits (sets : ChangeSets) (action : Value) (owner fingerprint : String) :
    (sets.createChangeSet action owner fingerprint).Emits P :=
  Run.emits_bind Run.emits_ask fun _ => Run.emits_lift

theorem waiveIfLabMode_emits (sets : ChangeSets) (changeSet : ChangeSetOutput) (owner : String) :
    (sets.waiveIfLabMode changeSet owner).Emits P := by
  unfold ChangeSets.waiveIfLabMode
  split
  · exact Run.emits_pure
  · exact Run.emits_bind Run.emits_ask fun _ => Run.emits_lift

/-- The end of every preparation: the plan is made, stored and maybe approved. -/
theorem planned_emits {γ : Type} {before : Io α} (hbefore : before.Emits P)
    (make : α → Except SdcError β) (sets : ChangeSets) (action : β → Value) (owner : String)
    (fingerprint : β → String) (result : ChangeSetOutput → β → γ) :
    Run.Emits (do
      let before ← before
      let prepared ← Run.lift (make before)
      let changeSet ← sets.createChangeSet (action prepared) owner (fingerprint prepared)
      let changeSet ← sets.waiveIfLabMode changeSet owner
      return result changeSet prepared) P :=
  Run.emits_bind hbefore fun _ =>
    Run.emits_bind Run.emits_lift fun _ =>
      Run.emits_bind (createChangeSet_emits sets _ owner _) fun _ =>
        Run.emits_bind (waiveIfLabMode_emits sets _ owner) fun _ => Run.emits_pure

variable [Crates] {client : SdcClient}

theorem prepareDeviceSync_proper (sets : ChangeSets) (owner : String)
    (deviceUuids : List String) :
    (prepareDeviceSync client sets owner deviceUuids).Emits (Proper client) :=
  Run.emits_bind Run.emits_lift fun _ =>
    planned_emits (readDevices_asksFor _ _).proper _ sets _ owner _ _

theorem deviceResults_proper (previewId : String) (devices : List DeviceStatusEntry) :
    (deviceResults client previewId devices).Emits (Proper client) := by
  induction devices with
  | nil => exact Run.emits_pure
  | cons device rest ih =>
      exact Run.emits_bind (readCall_asksFor none _ _ _ rfl).proper fun _ =>
        Run.emits_bind ih fun _ => Run.emits_pure

theorem preparePolicyDeploy_proper (policies : List PolicyOperation) :
    (preparePolicyDeploy client policies).Emits (Proper client) := by
  refine Run.emits_bind Run.emits_lift fun _ =>
    Run.emits_bind (post_proper _ _ _) fun response => ?_
  refine Run.emits_bind Run.emits_lift fun _ => Run.emits_bind (pollJob_proper _ _) fun status => ?_
  split
  · exact Run.emits_fail
  · exact Run.emits_bind (deviceResults_proper _ _) fun _ =>
      Run.emits_bind Run.emits_lift fun _ => Run.emits_lift

theorem prepare_proper (sets : ChangeSets) (owner : String) (policies : List PolicyOperation) :
    (prepare client sets owner policies).Emits (Proper client) :=
  Run.emits_bind Run.emits_lift fun _ =>
    Run.emits_bind (preparePolicyDeploy_proper policies) fun _ =>
      Run.emits_bind (createChangeSet_emits sets _ owner _) fun _ =>
        Run.emits_bind (waiveIfLabMode_emits sets _ owner) fun _ => Run.emits_pure

end Preparations

/-! ### Calls -/

section Calls

variable [Crates] [HandlerCrates]

theorem ToolCall.io_proper (handler : SdcHandler) (owner : String) (tool : ToolCall) :
    (tool.io handler owner).Emits (Proper handler.client) := by
  by_cases hwrites : tool.name ∈ WRITE_TOOLS
  swap
  · exact (ToolCall.asksFor handler owner hwrites).proper
  cases tool with
  | prepareSdcPolicyDeploy policies =>
      exact Run.emits_bind (prepare_proper _ _ _) fun _ => Run.emits_pure
  | applySdcChangeSet args =>
      exact Run.emits_bind (applyPolicyDeploy_proper _ _) fun _ => Run.emits_pure
  | applySdcObjectWrite args =>
      refine Run.emits_bind (applyWrite_proper _ _ (fun staged => ?_) fun staged => ?_)
        fun _ => Run.emits_pure
      · exact validateUnchanged_proper _
          (SdcObjectTransaction.targetUnchanged_asksFor staged).proper
      · exact commitUnchanged_proper _ _
          (SdcObjectTransaction.targetUnchanged_asksFor staged).proper
          (commitWrite_proper _ _ (SdcObjectTransaction.call_method staged))
  | applySdcNatWrite args =>
      refine Run.emits_bind (applyWrite_proper _ _ (fun staged => ?_) fun staged => ?_)
        fun _ => Run.emits_pure
      · exact validateUnchanged_proper _
          (SdcNatTransaction.targetUnchanged_asksFor staged).proper
      · exact commitUnchanged_proper _ _
          (SdcNatTransaction.targetUnchanged_asksFor staged).proper
          (commitWrite_proper _ _ (SdcNatTransaction.call_method staged))
  | applySdcFirewallWrite args =>
      refine Run.emits_bind (applyWrite_proper _ _ (fun staged => ?_) fun staged => ?_)
        fun _ => Run.emits_pure
      · exact validateUnchanged_proper _
          (SdcFirewallTransaction.targetUnchanged_asksFor staged).proper
      · exact commitUnchanged_proper _ _
          (SdcFirewallTransaction.targetUnchanged_asksFor staged).proper
          (commitWrite_proper _ _ (SdcFirewallTransaction.call_method staged))
  | applySdcLicenseWrite args =>
      refine Run.emits_bind (applyWrite_proper _ _ (fun staged => ?_) fun staged => ?_)
        fun _ => Run.emits_lift
      · exact validateUnchanged_proper _
          (SdcLicenseTransaction.targetUnchanged_asksFor staged).proper
      · exact commitUnchanged_proper _ _
          (SdcLicenseTransaction.targetUnchanged_asksFor staged).proper
          (SdcLicenseTransaction.write_proper staged)
  | applySdcDeviceInventorySync args =>
      refine Run.emits_bind (applyWrite_proper _ _ (fun staged => ?_) fun staged => ?_)
        fun _ => Run.emits_pure
      · exact validateUnchanged_proper _
          (SdcDeviceSyncTransaction.targetsUnchanged_asksFor staged).proper
      · exact commitUnchanged_proper _ _
          (SdcDeviceSyncTransaction.targetsUnchanged_asksFor staged).proper
          (SdcDeviceSyncTransaction.write_proper staged)
  | prepareSdcObjectWrite action resource uuid body =>
      exact Run.emits_bind (planned_emits (objectState_asksFor _ _ _).proper _ _ _ _ _
        ObjectPrepareResult.mk) fun _ => Run.emits_pure
  | prepareSdcNatWrite action policyId ruleId groupId body =>
      exact Run.emits_bind (planned_emits (natState_asksFor _ _ _ _).proper _ _ _ _ _
        NatPrepareResult.mk) fun _ => Run.emits_pure
  | prepareSdcFirewallWrite action uuid body =>
      exact Run.emits_bind (planned_emits (firewallState_asksFor _ _).proper _ _ _ _ _
        FirewallPrepareResult.mk) fun _ => Run.emits_pure
  | prepareSdcLicenseWrite action deviceUuid body =>
      exact Run.emits_bind (planned_emits (licenseState_asksFor _ _).proper _ _ _ _ _
        LicensePrepareResult.mk) fun _ => Run.emits_lift
  | prepareSdcDeviceInventorySync deviceUuids =>
      exact Run.emits_bind (prepareDeviceSync_proper _ _ _) fun _ => Run.emits_pure
  | approveSdcChangeSet changeSetId expectedDigest =>
      exact Run.emits_bind (Run.emits_bind Run.emits_ask fun _ => Run.emits_lift) fun _ =>
        Run.emits_pure
  | discardSdcOperation operationId expectedFingerprint =>
      exact Run.emits_bind (Run.emits_bind (Run.emits_emit (proper_of_silent rfl)) fun _ =>
        Run.emits_bind Run.emits_ask fun _ => Run.emits_lift) fun _ => Run.emits_pure
  | read tool paging => exact absurd hwrites tool.name_not_write
  | listSdcCaCertificates _ _ | listSdcLocalCertificates _ _
  | listSdcDeviceCaCertificates _ _ _ | listSdcDeviceLocalCertificates _ _ _
  | listSdcLicenses _ _ _ | getSdcLicense _ _ | listUsersAndRoles _ _ _ _ | getSdcChangeSet _
  | getSdcChangeSetDetails _ =>
      simp [ToolCall.name, WRITE_TOOLS] at hwrites

theorem SdcHandler.handle_proper (handler : SdcHandler) (call : Call) :
    (handler.handle call).Emits (Proper handler.client) :=
  Run.emits_bind Run.emits_lift fun _ =>
    Run.emits_bind (Run.emits_mapErr (ToolCall.io_proper handler _ _)) fun _ =>
      Run.emits_bind Run.emits_lift fun _ => Run.emits_pure

end Calls

end SdcMcp
