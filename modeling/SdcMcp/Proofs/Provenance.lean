/-
Where a write comes from.

A preparation reads its target, makes an action of what it read and has the coordinator
store the document of the action.  An application gets such a document back, at another
time and maybe in another process, and sends what it says.  Nothing is carried from the one
to the other but the document and the digest that a caller names.

If the coordinator hands back only what a preparation of the session had stored before
under that change set, then each write of the session but a preview was planned by an
earlier call of the same kind, from what SDC had answered: to a read of the very path that
is written, to reads of the lists or the devices that the write is about, or to a completed
preview.  The write itself follows a second such read, in its own call, that found the same
state.  The creation of an object, a policy or a rule has no state to read and follows no
read, and a deploy is not previewed again.
-/
import SdcMcp.Proofs.CallerViews
import SdcMcp.Proofs.DeployFidelity
import SdcMcp.Proofs.DevicePlans
import SdcMcp.Proofs.LicenseDrift
import SdcMcp.Proofs.Sessions

namespace SdcMcp

open Interactive Interleaving

variable {α β : Type}

/-! ### What a preparation plans -/

section Plans

variable [Crates]

/-- The first half of a preparation: what it checks and reads, and the action it makes of it. -/
def ToolCall.plan (client : SdcClient) : ToolCall → Option (Io StoredAction)
  | .prepareSdcPolicyDeploy policies => some do
      Run.lift (policies.forM fun operation => do
        validateDeployTargets operation.deployTargets
        validateDeployTargets operation.undeployTargets)
      let prepared ← preparePolicyDeploy client policies
      return .policyDeploy prepared
  | .prepareSdcObjectWrite action resource uuid body => some do
      let before ← objectState client action resource uuid
      let prepared ← Run.lift
        (SdcPreparedObjectWrite.new action resource uuid (body.getD Value.null) before)
      return .objectWrite prepared
  | .prepareSdcFirewallWrite action uuid body => some do
      let before ← firewallState client action uuid
      let prepared ← Run.lift
        (SdcPreparedFirewallWrite.new action uuid (body.getD Value.null) before)
      return .firewallWrite prepared
  | .prepareSdcNatWrite action policyId ruleId groupId body => some do
      let before ← natState client action policyId ruleId groupId
      let prepared ← Run.lift
        (SdcPreparedNatWrite.new action policyId ruleId groupId (body.getD Value.null) before)
      return .natWrite prepared
  | .prepareSdcLicenseWrite action deviceUuid body => some do
      let before ← licenseState client action deviceUuid
      let prepared ← Run.lift (SdcPreparedLicenseWrite.new action deviceUuid body before)
      return .licenseWrite prepared
  | .prepareSdcDeviceInventorySync deviceUuids => some do
      let deviceUuids ← Run.lift (SdcPreparedDeviceSync.canonicalDeviceList deviceUuids)
      let before ← readDevices client Map.empty deviceUuids
      let prepared ← Run.lift (SdcPreparedDeviceSync.new deviceUuids (.object before))
      return .deviceSync prepared
  | _ => none

/-- The second half: the coordinator stores the document of the action. -/
def ChangeSets.store (sets : ChangeSets) (owner : String) (action : StoredAction) :
    Io ChangeSetOutput := do
  let changeSet ← sets.createChangeSet action.encode.toValue owner action.digest
  sets.waiveIfLabMode changeSet owner

/-- What a caller is shown of a stored action. -/
def StoredAction.view : StoredAction → Value
  | .licenseWrite p => .object (p.members.insert "before" p.shown)
  | action => action.encode.toValue

/-- The result of a preparation. -/
def planResult (changeSet : ChangeSetOutput) (view : Value) : Value :=
  .object ((Map.empty.insert "change_set" changeSet.encoded).insert "prepared_change" view)

/-- **A preparation plans an action, stores it and shows it.** -/
theorem ToolCall.io_plan [HandlerCrates] (handler : SdcHandler) (owner : String) {tool : ToolCall}
    {plan : Io StoredAction} (h : tool.plan handler.client = some plan) :
    tool.io handler owner = (do
      let action ← plan
      let changeSet ← handler.changes.sets.store owner action
      return planResult changeSet action.view) := by
  unfold ChangeSets.store
  cases tool with
  | prepareSdcPolicyDeploy policies =>
      cases h
      unfold ToolCall.io prepare
      simp only [bind_assoc, pure_bind]
      rfl
  | prepareSdcObjectWrite action resource uuid body =>
      cases h
      unfold ToolCall.io prepareObjectWrite
      simp only [bind_assoc, pure_bind]
      rfl
  | prepareSdcFirewallWrite action uuid body =>
      cases h
      unfold ToolCall.io prepareFirewallWrite
      simp only [bind_assoc, pure_bind]
      rfl
  | prepareSdcNatWrite action policyId ruleId groupId body =>
      cases h
      unfold ToolCall.io prepareNatWrite
      simp only [bind_assoc, pure_bind]
      rfl
  | prepareSdcLicenseWrite action deviceUuid body =>
      cases h
      have hview : ∀ result : LicensePrepareResult, (Run.lift result.callerView : Io Value)
          = pure (planResult result.changeSet
            (StoredAction.licenseWrite result.preparedChange).view) := by
        intro result
        unfold LicensePrepareResult.callerView
        rw [result.preparedChange.callerView_eq]
        rfl
      unfold ToolCall.io prepareLicenseWrite
      simp only [bind_assoc, pure_bind, hview]
      rfl
  | prepareSdcDeviceInventorySync deviceUuids =>
      cases h
      unfold ToolCall.io prepareDeviceSync
      simp only [bind_assoc, pure_bind]
      rfl
  | _ => cases h

/-- A plan is what a constructor makes. -/
theorem ToolCall.plan_constructed {client : SdcClient} {tool : ToolCall} {plan : Io StoredAction}
    (h : tool.plan client = some plan) {r : Env} {history t : List Event} {action : StoredAction}
    (hrun : plan r history = (.ok action, t)) : action.Constructed := by
  cases tool with
  | prepareSdcPolicyDeploy policies =>
      cases h
      obtain ⟨u, -, hrun⟩ := Run.lift_bind_eq_ok hrun
      obtain ⟨p, t1, t2, hprepared, hpure, -⟩ := Run.bind_eq_ok hrun
      cases hpure
      obtain ⟨u, -, hsubmit⟩ := Run.lift_bind_eq_ok hprepared
      obtain ⟨response, t3, t4, -, hnamed, -⟩ := Run.bind_eq_ok hsubmit
      obtain ⟨u', -, hwait⟩ := Run.lift_bind_eq_ok hnamed
      obtain ⟨status, t5, t6, -, hended, -⟩ := Run.bind_eq_ok hwait
      by_cases hfailed : (!status.status.succeeded) = true
      · rw [if_pos hfailed] at hended
        cases hended
      · rw [if_neg hfailed] at hended
        obtain ⟨results, t7, t8, -, hbound, -⟩ := Run.bind_eq_ok hended
        obtain ⟨targets, -, hmade⟩ := Run.lift_bind_eq_ok hbound
        obtain ⟨hnew, -⟩ := Run.lift_eq_ok hmade
        exact ⟨_, _, _, _, Except.mapError_eq_ok_iff.mp hnew⟩
  | prepareSdcObjectWrite action resource uuid body =>
      cases h
      obtain ⟨before, t1, t2, -, hmade, -⟩ := Run.bind_eq_ok hrun
      obtain ⟨p, hnew, hpure⟩ := Run.lift_bind_eq_ok hmade
      cases hpure
      exact ⟨_, _, _, _, _, hnew⟩
  | prepareSdcFirewallWrite action uuid body =>
      cases h
      obtain ⟨before, t1, t2, -, hmade, -⟩ := Run.bind_eq_ok hrun
      obtain ⟨p, hnew, hpure⟩ := Run.lift_bind_eq_ok hmade
      cases hpure
      exact ⟨_, _, _, _, hnew⟩
  | prepareSdcNatWrite action policyId ruleId groupId body =>
      cases h
      obtain ⟨before, t1, t2, -, hmade, -⟩ := Run.bind_eq_ok hrun
      obtain ⟨p, hnew, hpure⟩ := Run.lift_bind_eq_ok hmade
      cases hpure
      exact ⟨_, _, _, _, _, _, hnew⟩
  | prepareSdcLicenseWrite action deviceUuid body =>
      cases h
      obtain ⟨before, t1, t2, -, hmade, -⟩ := Run.bind_eq_ok hrun
      obtain ⟨p, hnew, hpure⟩ := Run.lift_bind_eq_ok hmade
      cases hpure
      exact ⟨_, _, _, _, hnew⟩
  | prepareSdcDeviceInventorySync deviceUuids =>
      cases h
      obtain ⟨sorted, -, hread⟩ := Run.lift_bind_eq_ok hrun
      obtain ⟨before, t1, t2, -, hmade, -⟩ := Run.bind_eq_ok hread
      obtain ⟨p, hnew, hpure⟩ := Run.lift_bind_eq_ok hmade
      cases hpure
      exact ⟨_, _, hnew⟩
  | _ => cases h

/-! ### What a plan was read from -/

/-- The first page of a collection was read and answered so. -/
def PageRead (client : SdcClient) (deviceUuid : String) (t : List Event) (c : Collection)
    (page : Value) : Prop :=
  ∃ a, .attempt (listRequest deviceUuid c 0 100) a ∈ t ∧
    readVerdict client decodeValue a.exchange = .ok page

theorem PageRead.mono {client : SdcClient} {deviceUuid : String} {s t : List Event}
    {c : Collection} {page : Value} (h : PageRead client deviceUuid s c page)
    (hst : ∀ e ∈ s, e ∈ t) : PageRead client deviceUuid t c page := by
  obtain ⟨a, hmem, hverdict⟩ := h
  exact ⟨a, hst _ hmem, hverdict⟩

/-- The pages that a write of a license or a certificate depends on were read, and this is what
they make. -/
def LicenseWriteOperation.ReadAs (client : SdcClient) (deviceUuid : String) (t : List Event)
    (current : Value) : LicenseWriteOperation → Prop
  | .installLicense => PageRead client deviceUuid t .licenses current
  | .installCaCertificate => PageRead client deviceUuid t .caCertificates current
  | .installLocalCertificate => PageRead client deviceUuid t .localCertificates current
  | .deleteCertificate => ∃ caCerts localCerts,
      PageRead client deviceUuid t .caCertificates caCerts ∧
      PageRead client deviceUuid t .localCertificates localCerts ∧
      current = SdcLicenseTransaction.certificates caCerts localCerts

/-- A write was planned against what SDC had answered where its request goes, or, if it creates
something, against nothing. -/
def PlannedAgainst (client : SdcClient) (q : Request) (t : List Event) (creates : Prop)
    (before : Value) : Prop :=
  (creates → before = Value.null) ∧ (¬ creates → Reread client q.segments (· = before) t)

/-- An action says what the caller of its planner asked for, and was made of what was read: where
its request goes, in the lists of its device, of each of its devices, or of a completed preview of
its policies. -/
def StoredAction.PlannedFrom (client : SdcClient) (tool : ToolCall) (q : Request)
    (t : List Event) : StoredAction → Prop
  | .policyDeploy p => ∃ policies status results, tool = .prepareSdcPolicyDeploy policies ∧
      Previewed client policies t p status results ∧ q.body = some (deployBody policies)
  | .objectWrite p => (∃ body, tool = .prepareSdcObjectWrite p.action p.resource p.uuid body ∧
        p.request = body.getD Value.null) ∧
      PlannedAgainst client q t (p.action = .create) p.before
  | .firewallWrite p => (∃ body, tool = .prepareSdcFirewallWrite p.action p.uuid body ∧
        p.request = body.getD Value.null) ∧
      PlannedAgainst client q t (p.action = .createPolicy) p.before
  | .natWrite p =>
      (∃ body, tool = .prepareSdcNatWrite p.action p.policyId p.ruleId p.groupId body ∧
        p.request = body.getD Value.null) ∧
      PlannedAgainst client q t p.creates p.before
  | .licenseWrite p => tool = .prepareSdcLicenseWrite p.action p.deviceUuid p.request ∧
      p.action.ReadAs client p.deviceUuid t p.before
  | .deviceSync p => (∃ deviceUuids, tool = .prepareSdcDeviceInventorySync deviceUuids ∧
        p.deviceUuids.Perm deviceUuids) ∧
      ∀ uuid ∈ p.deviceUuids, ∃ device, p.before.get uuid = some device ∧
        DeviceRead client t uuid device

theorem Previewed.mono {client : SdcClient} {policies : List PolicyOperation} {s t : List Event}
    {p : SdcPreparedChange} {status : JobStatus} {results : List Value}
    (h : Previewed client policies s p status results) (hst : ∀ e ∈ s, e ∈ t) :
    Previewed client policies t p status results where
  submitted := by
    obtain ⟨a, hmem, hverdict⟩ := h.submitted
    exact ⟨a, hst _ hmem, hverdict⟩
  finished := by
    obtain ⟨a, hmem, hverdict⟩ := h.finished
    exact ⟨a, hst _ hmem, hverdict⟩
  completed := h.completed
  answered := h.answered.imp fun device result hresult => by
    obtain ⟨a, hmem, hverdict⟩ := hresult
    exact ⟨a, hst _ hmem, hverdict⟩
  artifact := h.artifact

theorem LicenseWriteOperation.ReadAs.mono {client : SdcClient} {deviceUuid : String}
    {s t : List Event} {current : Value} {action : LicenseWriteOperation}
    (h : action.ReadAs client deviceUuid s current) (hst : ∀ e ∈ s, e ∈ t) :
    action.ReadAs client deviceUuid t current := by
  cases action with
  | installLicense => exact PageRead.mono h hst
  | installCaCertificate => exact PageRead.mono h hst
  | installLocalCertificate => exact PageRead.mono h hst
  | deleteCertificate =>
      obtain ⟨caCerts, localCerts, hca, hlocal, rfl⟩ := h
      exact ⟨caCerts, localCerts, hca.mono hst, hlocal.mono hst, rfl⟩

theorem licenseState_readAs {client : SdcClient} {action : LicenseWriteOperation}
    {deviceUuid : String} {r : Env} {h t : List Event} {current : Value}
    (hrun : licenseState client action deviceUuid r h = (.ok current, t)) :
    action.ReadAs client deviceUuid t current := by
  cases action with
  | installLicense => exact (firstPage_ok (c := .licenses) hrun).1
  | installCaCertificate => exact (firstPage_ok (c := .caCertificates) hrun).1
  | installLocalCertificate => exact (firstPage_ok (c := .localCertificates) hrun).1
  | deleteCertificate =>
      obtain ⟨caCerts, t1, t2, hca, hrest, rfl⟩ := Run.bind_eq_ok hrun
      obtain ⟨localCerts, t3, t4, hlocal, hpure, rfl⟩ := Run.bind_eq_ok hrest
      cases hpure
      have hcaRead := (firstPage_ok (c := .caCertificates) hca).1
      have hlocalRead := (firstPage_ok (c := .localCertificates) hlocal).1
      exact ⟨caCerts, localCerts, PageRead.mono hcaRead fun e he => List.mem_append_left _ he,
        PageRead.mono hlocalRead fun e he =>
          List.mem_append_right _ (List.mem_append_left _ he), rfl⟩

theorem PlannedAgainst.mono {client : SdcClient} {q : Request} {s t : List Event} {creates : Prop}
    {before : Value} (h : PlannedAgainst client q s creates before) (hst : ∀ e ∈ s, e ∈ t) :
    PlannedAgainst client q t creates before :=
  ⟨h.1, fun hno => (h.2 hno).mono hst fun _ => id⟩

theorem StoredAction.PlannedFrom.mono {client : SdcClient} {tool : ToolCall} {q : Request}
    {s t : List Event} {action : StoredAction} (h : action.PlannedFrom client tool q s)
    (hst : ∀ e ∈ s, e ∈ t) : action.PlannedFrom client tool q t := by
  cases action with
  | policyDeploy p =>
      obtain ⟨policies, status, results, htool, hpreviewed, hbody⟩ := h
      exact ⟨policies, status, results, htool, hpreviewed.mono hst, hbody⟩
  | objectWrite p => exact ⟨h.1, h.2.mono hst⟩
  | firewallWrite p => exact ⟨h.1, h.2.mono hst⟩
  | natWrite p => exact ⟨h.1, h.2.mono hst⟩
  | licenseWrite p => exact ⟨h.1, h.2.mono hst⟩
  | deviceSync p =>
      refine ⟨h.1, fun uuid huuid => ?_⟩
      obtain ⟨device, hdevice, a, hmem, hverdict⟩ := h.2 uuid huuid
      exact ⟨device, hdevice, a, hst _ hmem, hverdict⟩

theorem objectState_read {client : SdcClient} {action : ObjectWriteAction}
    {resource : WritableResource} {uuid : Option String} {before : Value} {r : Env}
    {h t : List Event} (hrun : objectState client action resource uuid r h = (.ok before, t))
    (haction : action ≠ .create) : ∃ identifier, uuid = some identifier ∧
      Reread client (resource.collectionSegments ++ [identifier]) (· = before) t := by
  cases action with
  | create => exact absurd rfl haction
  | update | delete =>
      cases uuid with
      | none => cases hrun
      | some identifier => exact ⟨identifier, rfl, readCall_ok hrun⟩

theorem firewallState_read {client : SdcClient} {action : FirewallWriteOperation}
    {uuid : Option String} {before : Value} {r : Env} {h t : List Event}
    (hrun : firewallState client action uuid r h = (.ok before, t))
    (haction : action ≠ .createPolicy) : ∃ identifier, uuid = some identifier ∧
      Reread client ["api", "v1", "policies", "firewall", identifier] (· = before) t := by
  cases action with
  | createPolicy => exact absurd rfl haction
  | updatePolicy | deletePolicy =>
      cases uuid with
      | none => cases hrun
      | some identifier => exact ⟨identifier, rfl, readCall_ok hrun⟩

omit [Crates] in
theorem requiredId_ok {message id : String} {given : Option String}
    (h : SdcNatTransaction.requiredId message given = .ok id) : given = some id := by
  cases given with
  | none => cases h
  | some other =>
      cases h
      rfl

/-- A plan of a NAT write reads where the write goes. -/
theorem natState_read {client : SdcClient} {p : SdcPreparedNatWrite} {q : Request} {before : Value}
    {r : Env} {h t : List Event} (hq : p.intended = some q)
    (hrun : natState client p.action p.policyId p.ruleId p.groupId r h = (.ok before, t))
    (hcreates : ¬ p.creates) : Reread client q.segments (· = before) t := by
  unfold SdcPreparedNatWrite.creates at hcreates
  unfold SdcPreparedNatWrite.intended at hq
  unfold natState at hrun
  cases haction : p.action <;> rw [haction] at hq hrun hcreates
  case createPolicy | createRule | createRuleGroup => simp at hcreates
  case updatePolicy | deletePolicy =>
    obtain ⟨policy, hpolicy, hread⟩ := Run.lift_bind_eq_ok hrun
    rw [requiredId_ok hpolicy] at hq
    cases hq
    exact readCall_ok hread
  all_goals
    obtain ⟨policy, hpolicy, hrest⟩ := Run.lift_bind_eq_ok hrun
    obtain ⟨id, hid, hread⟩ := Run.lift_bind_eq_ok hrest
    rw [requiredId_ok hpolicy, requiredId_ok hid] at hq
    cases hq
    exact readCall_ok hread

/-- What a NAT write that creates something is planned against. -/
theorem natState_creates {client : SdcClient} {p : SdcPreparedNatWrite} {before : Value} {r : Env}
    {h t : List Event}
    (hrun : natState client p.action p.policyId p.ruleId p.groupId r h = (.ok before, t))
    (hcreates : p.creates) : before = Value.null := by
  unfold natState at hrun
  rcases hcreates with haction | haction | haction <;> rw [haction] at hrun <;> cases hrun <;> rfl

/-- **A plan is of what was asked for and of what is there.**  What SDC answered where the request
of a plan goes is what the plan keeps as the state before it. -/
theorem ToolCall.plan_from {client : SdcClient} {tool : ToolCall} {plan : Io StoredAction}
    (h : tool.plan client = some plan) {r : Env} {history t : List Event} {action : StoredAction}
    (hrun : plan r history = (.ok action, t)) {q : Request} (hq : action.intended = some q) :
    action.PlannedFrom client tool q t := by
  cases tool with
  | prepareSdcPolicyDeploy policies =>
      cases h
      obtain ⟨u, -, hrun⟩ := Run.lift_bind_eq_ok hrun
      obtain ⟨p, t1, t2, hprepared, hpure, rfl⟩ := Run.bind_eq_ok hrun
      cases hpure
      rw [List.append_nil]
      obtain ⟨status, results, targets, hpreviewed, -, -, hrequest, -⟩ :=
        preparePolicyDeploy_ok hprepared
      refine ⟨policies, status, results, rfl, hpreviewed, ?_⟩
      obtain ⟨request, hdecode, rfl⟩ := Option.map_eq_some_iff.mp hq
      rw [hrequest, DeployRequest.decode_encode, Option.some.injEq] at hdecode
      rw [← encode_ofPreview, hdecode]
  | prepareSdcObjectWrite action resource uuid body =>
      cases h
      obtain ⟨before, t1, t2, hstate, hmade, rfl⟩ := Run.bind_eq_ok hrun
      obtain ⟨p, hnew, hpure⟩ := Run.lift_bind_eq_ok hmade
      cases hpure
      obtain ⟨u, -, hp⟩ := Except.bind_eq_ok_iff.mp hnew
      cases hp
      rw [List.append_nil]
      refine ⟨⟨body, rfl, rfl⟩, ?_, fun haction => ?_⟩
      · rintro rfl
        cases hstate
        rfl
      · obtain ⟨identifier, rfl, hread⟩ := objectState_read hstate haction
        cases action with
        | create => exact absurd rfl haction
        | update | delete =>
            cases hq
            exact hread
  | prepareSdcFirewallWrite action uuid body =>
      cases h
      obtain ⟨before, t1, t2, hstate, hmade, rfl⟩ := Run.bind_eq_ok hrun
      obtain ⟨p, hnew, hpure⟩ := Run.lift_bind_eq_ok hmade
      cases hpure
      obtain ⟨u, -, hp⟩ := Except.bind_eq_ok_iff.mp hnew
      cases hp
      rw [List.append_nil]
      refine ⟨⟨body, rfl, rfl⟩, ?_, fun haction => ?_⟩
      · rintro rfl
        cases hstate
        rfl
      · obtain ⟨identifier, rfl, hread⟩ := firewallState_read hstate haction
        cases action with
        | createPolicy => exact absurd rfl haction
        | updatePolicy | deletePolicy =>
            cases hq
            exact hread
  | prepareSdcNatWrite action policyId ruleId groupId body =>
      cases h
      obtain ⟨before, t1, t2, hstate, hmade, rfl⟩ := Run.bind_eq_ok hrun
      obtain ⟨p, hnew, hpure⟩ := Run.lift_bind_eq_ok hmade
      cases hpure
      obtain ⟨u, -, hp⟩ := Except.bind_eq_ok_iff.mp hnew
      cases hp
      rw [List.append_nil]
      exact ⟨⟨body, rfl, rfl⟩, natState_creates hstate, natState_read hq hstate⟩
  | prepareSdcLicenseWrite action deviceUuid body =>
      cases h
      obtain ⟨before, t1, t2, hstate, hmade, rfl⟩ := Run.bind_eq_ok hrun
      obtain ⟨p, hnew, hpure⟩ := Run.lift_bind_eq_ok hmade
      cases hpure
      obtain ⟨u, -, hp⟩ := Except.bind_eq_ok_iff.mp hnew
      cases hp
      rw [List.append_nil]
      exact ⟨rfl, licenseState_readAs hstate⟩
  | prepareSdcDeviceInventorySync deviceUuids =>
      cases h
      obtain ⟨sorted, hsorted, hread⟩ := Run.lift_bind_eq_ok hrun
      obtain ⟨before, t1, t2, hreads, hmade, rfl⟩ := Run.bind_eq_ok hread
      obtain ⟨p, hnew, hpure⟩ := Run.lift_bind_eq_ok hmade
      cases hpure
      obtain ⟨again, hagain, hrest⟩ := Except.bind_eq_ok_iff.mp hnew
      rw [SdcPreparedDeviceSync.canonicalDeviceList_idem hsorted, Except.ok.injEq] at hagain
      subst hagain
      obtain ⟨u, -, hp⟩ := Except.bind_eq_ok_iff.mp hrest
      cases hp
      rw [List.append_nil]
      have hsync := SdcPreparedDeviceSync.canonicalDeviceList_isOk_iff.mp ⟨sorted, hsorted⟩
      have hperm := SdcPreparedDeviceSync.canonicalDeviceList_perm hsorted
      have hdistinct : sorted.Nodup := hperm.nodup_iff.mpr hsync.distinct
      refine ⟨⟨deviceUuids, rfl, hperm⟩, fun uuid huuid => ?_⟩
      obtain ⟨device, hdevice, hanswered⟩ := (readDevices_ok hdistinct hreads).1 uuid huuid
      exact ⟨device, (Value.get_object before uuid).trans hdevice, hanswered⟩
  | _ => cases h

end Plans

/-! ### What an application read again -/

section Gates

variable {transaction : Transaction α β} {unchanged : α → Io Bool}
  {request : α → Except SdcError Request} {leavesOpen : Exchange → Bool}

/-- Before an application sends its request, its target was found unchanged. -/
theorem Exits.passed {γ : Type} {coordinator : Coordinator α} {same : Io Bool}
    {call : Except SdcError Request} {operationId : String} {r : Env} {h t : List Event}
    {o : Outcome SdcError γ} (hexits : Exits coordinator same call leavesOpen operationId r h t o)
    {before after : List Event} {e : Event} (hsplit : t = before ++ e :: after)
    (hd : e.dispatches = true) :
    ∃ q a h' s, call = .ok q ∧ e = .attempt q a ∧ same r h' = (.ok true, s) ∧
      ∀ x ∈ gateEvents s, x ∈ before := by
  have hquiet : ¬ Quiet t := by
    intro hq
    rw [hq e (by rw [hsplit]; simp)] at hd
    cases hd
  have hdiscarded : Quiet [.discarded operationId] := .cons rfl quiet_nil
  cases hexits with
  | diffFailed e hdiff => exact absurd quiet_nil hquiet
  | invalid e t hvalid hreads hdiff => exact absurd (hreads.quiet.append hdiscarded) hquiet
  | invalidLeft t hvalid hreads hdiff => exact absurd hreads.quiet hquiet
  | commitRefused e e' t hdiff hvalid hsame hreads hcommit => exact absurd hreads.quiet hquiet
  | stopped e t s hdiff hvalid hsame hreads hcommit hs hmoved =>
      exact absurd ((hreads.quiet.append (.cons rfl hs.quiet)).append hdiscarded) hquiet
  | stoppedLeft t s hdiff hvalid hsame hreads hcommit hs hmoved =>
      exact absurd (hreads.quiet.append (.cons rfl hs.quiet)) hquiet
  | writeRefused e e' t s hdiff hvalid hsame hreads hcommit hs hgate hrequest =>
      exact absurd (hreads.quiet.append (quiet_gateEvents hs.quiet)) hquiet
  | written o q t s later hdiff hvalid hsame hreads hcommit hs hgate hrequest hmut hafter hopen =>
      rw [← List.append_assoc] at hsplit
      obtain ⟨rfl, rfl, -⟩ := Quiet.split (hreads.quiet.append (quiet_gateEvents hs.quiet))
        hafter.quiet hd hsplit
      exact ⟨q, _, _, s, hrequest, rfl, hgate, fun x hx => List.mem_append_right _ hx⟩

theorem applyWrite_passed (hg : Gated transaction unchanged request leavesOpen)
    (texts : ReleaseTexts) (coordinator : Coordinator α) (r : Env) (h : List Event)
    {before after : List Event} {e : Event}
    (hsplit : (applyWrite texts coordinator transaction r h).2 = before ++ e :: after)
    (hd : e.dispatches = true) :
    ∃ operationId actions staged q a h' s,
      coordinator.changeSet (h ++ [.markRefused false]) = .ok (operationId, actions) ∧
      transaction.stage actions = .ok staged ∧ request staged = .ok q ∧ e = .attempt q a ∧
      unchanged staged r h' = (.ok true, s) ∧ ∀ x ∈ gateEvents s, x ∈ before := by
  have hmark : Quiet [.markRefused false] := .cons rfl quiet_nil
  rcases applyWrite_cases texts coordinator transaction r h with
    ⟨-, heq⟩ | ⟨operationId, staged, happlied, heq⟩
  · rw [heq] at hsplit
    have hlast : e ∈ [Event.markRefused false] := by
      rw [hsplit]
      simp
    rw [hmark e hlast] at hd
    cases hd
  · obtain ⟨actions, hstored, hstage⟩ := applyChangeSet_ok happlied
    have hexits := applyStaged_exits hg texts coordinator operationId staged r
      (h ++ [.markRefused false]) (refusedBeforeWrite_mark h false)
    rw [heq] at hsplit
    cases before with
    | nil =>
        cases hsplit
        cases hd
    | cons first before =>
        obtain ⟨-, hrest⟩ := List.cons.inj hsplit
        obtain ⟨q, a, h', s, hrequest, he, hsame, hmem⟩ := hexits.passed hrest hd
        exact ⟨operationId, actions, staged, q, a, h', s, hstored, hstage, hrequest, he, hsame,
          fun x hx => List.mem_cons_of_mem _ (hmem x hx)⟩

end Gates

section Calls

variable [Crates]

/-- The gate of an action: what its plan depends on was read and found unchanged.  A deploy has
none. -/
def StoredAction.GatedBy (client : SdcClient) (q : Request) (t : List Event) :
    StoredAction → Prop
  | .policyDeploy _ => True
  | .objectWrite p => SdcObjectTransaction.Gate client p q t
  | .firewallWrite p => SdcFirewallTransaction.Gate client p q t
  | .natWrite p => SdcNatTransaction.Gate client p q t
  | .licenseWrite p => ∃ current, p.action.ReadAs client p.deviceUuid t current ∧
      Unchanged p.before current
  | .deviceSync p => SdcDeviceSyncTransaction.Gate client p t

theorem StoredAction.GatedBy.mono {client : SdcClient} {q : Request} {s t : List Event}
    {action : StoredAction} (h : action.GatedBy client q s) (hst : ∀ e ∈ s, e ∈ t) :
    action.GatedBy client q t := by
  cases action with
  | policyDeploy p => trivial
  | objectWrite p => exact fun haction => (h haction).mono hst fun _ => id
  | firewallWrite p => exact fun haction => (h haction).mono hst fun _ => id
  | natWrite p => exact fun hcreates => (h hcreates).mono hst fun _ => id
  | licenseWrite p =>
      obtain ⟨current, hread, hsame⟩ := h
      exact ⟨current, hread.mono hst, hsame⟩
  | deviceSync p => exact fun uuid huuid => (h uuid huuid).mono hst fun _ => id

theorem SdcLicenseTransaction.gate_of_unchanged {client : SdcClient}
    {staged : SdcPreparedLicenseWrite} {r : Env} {h t : List Event}
    (hrun : targetUnchanged client staged r h = (.ok true, t)) (q : Request) :
    (StoredAction.licenseWrite staged).GatedBy client q (gateEvents t) := by
  obtain ⟨now, t1, t2, hread, hsame, rfl⟩ := Run.bind_eq_ok hrun
  rw [current_eq] at hread
  have hdigest : sameDigest staged.before now = true := by
    rw [Run.pure_apply, Prod.mk.injEq, Outcome.ok.injEq] at hsame
    exact hsame.1
  have hequal := of_decide_eq_true hdigest
  exact ⟨now, (licenseState_readAs hread).mono fun e he =>
    mem_gateEvents (List.mem_append_left _ he), hequal,
    fun hsha => canonicalDigest_same hsha hequal⟩

/-- A request of an application, as it was handed over, staged and gated. -/
structure GatedSend (client : SdcClient) (changes : ChangeManager) (owner : String)
    (kind : StoredKind) (args : ApplyArgs) (before : List Event) (e : Event)
    (action : StoredAction) (q : Request) : Prop where
  handed : ∃ history operationId,
    changes.handedOver owner args history kind = .ok (operationId, [action])
  staged : action.stage args.expectedPlanDigest = .ok action
  intended : action.intended = some q
  sent : ∃ a, e = .attempt q a
  gated : action.GatedBy client q before

/-- The application of a staged write sends a gated request. -/
private theorem gatedSend_of_write {client : SdcClient} {changes : ChangeManager} {owner : String}
    {kind : StoredKind} {args : ApplyArgs} {coordinator : Coordinator α} {wrongCount : String}
    {validate : α → Except SdcError Unit} {approved : α → Bool} {transaction : Transaction α β}
    {unchanged : α → Io Bool} {request : α → Except SdcError Request}
    {leavesOpen : Exchange → Bool} (toStored : α → StoredAction)
    (hg : Gated transaction unchanged request leavesOpen)
    (hstages : transaction.stage = stageOne wrongCount validate approved)
    (hset : ∀ history, changes.handedOver owner args history kind
      = (coordinator.changeSet history).map fun set => (set.1, set.2.map toStored))
    (hstored : ∀ p, (toStored p).stage args.expectedPlanDigest
      = (stageOne wrongCount validate approved [p]).map toStored)
    (hintended : ∀ p q, request p = .ok q → (toStored p).intended = some q)
    (hgate : ∀ p q r h s, (toStored p).intended = some q → unchanged p r h = (.ok true, s) →
      (toStored p).GatedBy client q (gateEvents s))
    {texts : ReleaseTexts} {r : Env} {h before after : List Event} {e : Event}
    (hsplit : (applyWrite texts coordinator transaction r h).2 = before ++ e :: after)
    (hd : e.dispatches = true) :
    ∃ action q, GatedSend client changes owner kind args before e action q := by
  obtain ⟨operationId, actions, p, q, a, h', s, hhanded, hstage, hrequest, rfl, hsame, hmem⟩ :=
    applyWrite_passed hg texts coordinator r h hsplit hd
  rw [hstages] at hstage
  obtain ⟨rfl, hvalid, happroved⟩ := stageOne_ok.mp hstage
  have hq := hintended p q hrequest
  refine ⟨toStored p, q, ⟨h ++ [.markRefused false], operationId, ?_⟩, ?_, hq, ⟨a, rfl⟩, ?_⟩
  · rw [hset, hhanded]
    rfl
  · rw [hstored, stageOne_ok.mpr ⟨rfl, hvalid, happroved⟩]
    rfl
  · exact (hgate p q r h' s hq hsame).mono hmem

variable [HandlerCrates]

/-- **A call that applies a change set** sends the request of the one action that was handed over
and staged, after it passed its gate. -/
theorem ToolCall.io_gated {handler : SdcHandler} {call : Call} {kind : StoredKind}
    {args : ApplyArgs} (htool : call.tool.applies = some (kind, args)) {r : Env}
    {h before after : List Event} {e : Event}
    (hsplit : (call.tool.io handler (owner call.caller) r h).2 = before ++ e :: after)
    (hd : e.dispatches = true) :
    ∃ action q, GatedSend handler.client handler.changes (owner call.caller) kind args before e
      action q := by
  cases hcall : call.tool <;> rw [hcall] at htool hsplit <;> cases htool
  case applySdcChangeSet =>
    have hone := ToolCall.io_atMostOne handler call r h
    rw [hcall, hsplit] at hone
    obtain ⟨q, a, he, hlicensed⟩ := hone.only e (by simp) hd
    cases hlicensed with
    | preview hpreview =>
        rw [hcall] at hpreview
        cases hpreview
    | @applied _ _ history operationId action q happlies hset hstage hq =>
        rw [hcall] at happlies
        cases happlies
        refine ⟨action, q, ⟨history, operationId, hset⟩, hstage, hq, ⟨a, he⟩, ?_⟩
        obtain ⟨set, -, hmap⟩ := Except.map_eq_ok_iff.mp hset
        have hmem : action ∈ [action] := List.mem_singleton_self action
        rw [← (Prod.mk.inj hmap).2] at hmem
        obtain ⟨p, -, rfl⟩ := List.mem_map.mp hmem
        trivial
  case applySdcObjectWrite =>
    have hevents : (ToolCall.io handler (owner call.caller) (.applySdcObjectWrite args) r h).2
        = (applyObjectWrite handler.client (handler.changes.objectWrites (owner call.caller) args)
          args.expectedPlanDigest r h).2 := congrArg Prod.snd (Run.bind_pure_eq _ _ r h)
    rw [hevents] at hsplit
    exact gatedSend_of_write .objectWrite (SdcObjectTransaction.gated _ _) rfl (fun _ => rfl)
      (fun _ => rfl)
      (fun _ _ => SdcObjectTransaction.request_intended)
      (fun _ _ _ _ _ hq => SdcObjectTransaction.gate_of_unchanged hq) hsplit hd
  case applySdcFirewallWrite =>
    have hevents : (ToolCall.io handler (owner call.caller) (.applySdcFirewallWrite args) r h).2
        = (applyFirewallWrite handler.client (handler.changes.firewallWrites _ args)
          args.expectedPlanDigest r h).2 := congrArg Prod.snd (Run.bind_pure_eq _ _ r h)
    rw [hevents] at hsplit
    exact gatedSend_of_write .firewallWrite (SdcFirewallTransaction.gated _ _) rfl (fun _ => rfl)
      (fun _ => rfl)
      (fun _ _ => SdcFirewallTransaction.request_intended)
      (fun _ _ _ _ _ hq => SdcFirewallTransaction.gate_of_unchanged hq)
      hsplit hd
  case applySdcNatWrite =>
    have hevents : (ToolCall.io handler (owner call.caller) (.applySdcNatWrite args) r h).2
        = (applyNatWrite handler.client (handler.changes.natWrites (owner call.caller) args)
          args.expectedPlanDigest r h).2 := congrArg Prod.snd (Run.bind_pure_eq _ _ r h)
    rw [hevents] at hsplit
    exact gatedSend_of_write .natWrite (SdcNatTransaction.gated _ _) rfl (fun _ => rfl)
      (fun _ => rfl)
      (fun _ _ => SdcNatTransaction.request_intended)
      (fun _ _ _ _ _ hq => SdcNatTransaction.gate_of_unchanged hq) hsplit hd
  case applySdcLicenseWrite =>
    have hevents : (ToolCall.io handler (owner call.caller) (.applySdcLicenseWrite args) r h).2
        = (applyLicenseWrite handler.client (handler.changes.licenseWrites (owner call.caller) args)
          args.expectedPlanDigest r h).2 := congrArg Prod.snd (Run.bind_lift _ _ r h)
    rw [hevents] at hsplit
    exact gatedSend_of_write .licenseWrite (SdcLicenseTransaction.gated _ _) rfl (fun _ => rfl)
      (fun _ => rfl)
      (fun _ _ => SdcLicenseTransaction.request_intended)
      (fun _ q _ _ _ _ hsame => SdcLicenseTransaction.gate_of_unchanged hsame q)
      hsplit hd
  case applySdcDeviceInventorySync =>
    have hevents : (ToolCall.io handler (owner call.caller)
        (.applySdcDeviceInventorySync args) r h).2
        = (applyDeviceSync handler.client (handler.changes.deviceSyncs (owner call.caller) args)
          args.expectedPlanDigest r h).2 := congrArg Prod.snd (Run.bind_pure_eq _ _ r h)
    rw [hevents] at hsplit
    refine gatedSend_of_write .deviceSync (SdcDeviceSyncTransaction.gated _ _) rfl (fun _ => rfl)
      (fun _ => rfl)
      (fun _ _ => SdcDeviceSyncTransaction.request_intended)
      (fun _ _ _ _ _ _ hsame => ?_) hsplit hd
    exact fun uuid huuid => (SdcDeviceSyncTransaction.reread_from hsame uuid huuid).gate

omit [HandlerCrates] in
/-- Only write tools make plans. -/
theorem ToolCall.plan_writes {client : SdcClient} {tool : ToolCall} {plan : Io StoredAction}
    (h : tool.plan client = some plan) : tool.name ∈ WRITE_TOOLS := by
  cases tool <;> cases h <;> simp [ToolCall.name, WRITE_TOOLS]

end Calls

/-! ### Sessions -/

section Sessions

variable [Crates] [HandlerCrates]

/-- A call got through, planned an action and had its document stored under a change set. -/
structure Served.Stores (base : SdcHandler) (s : Served) (changeSetId : String)
    (action : StoredAction) : Prop where
  admitted : authorizeRequest s.call.caller s.call.tool.name s.call.tenant base.tenant = .ok ()
  planned : ∃ plan t output u, s.call.tool.plan base.client = some plan ∧
    plan s.env s.history = (.ok action, t) ∧
    s.changes.sets.createChangeSet action.encode.toValue (owner s.call.caller) action.digest s.env
      (s.history ++ t) = (.ok output, u) ∧ output.changeSetId = changeSetId

/-- What is handed over for a change set is what was read back of a document that an earlier call
had stored under it. -/
def Replays (base : SdcHandler) (session : List Served) : Prop :=
  ∀ earlier s later, session = earlier ++ s :: later →
    ∀ kind args, s.call.tool.applies = some (kind, args) → ∀ history operationId actions,
      s.changes.handedOver (owner s.call.caller) args history kind = .ok (operationId, actions) →
        ∃ p ∈ earlier, ∃ stored, p.Stores base args.changeSetId stored ∧
          [stored.encode.toValue].map (fun document => StoredAction.decode kind document.tree)
            = actions.map some

/-- Where the request of an application comes from: the action was planned and stored by `p`, as
its caller asked and of what `p` had read; and among what came before the request it was found
unchanged, unless it is a deploy or creates something. -/
structure Grounded (base : SdcHandler) (p : Served) (kind : StoredKind) (args : ApplyArgs)
    (before : List Event) (e : Event) (action : StoredAction) (q : Request) : Prop where
  stored : p.Stores base args.changeSetId action
  planner : Authorized (p.handler base) p.call
  made : action.Constructed
  kind : action.kind = kind
  approved : action.digest = args.expectedPlanDigest
  sent : ∃ a, e = .attempt q a
  intended : action.intended = some q
  planned : action.PlannedFrom base.client p.call.tool q (p.events base)
  gated : action.GatedBy base.client q before

theorem Served.Stores.authorized {base : SdcHandler} {s : Served} {changeSetId : String}
    {action : StoredAction} (h : s.Stores base changeSetId action) :
    Authorized (s.handler base) s.call := by
  obtain ⟨plan, t, output, u, hplan, -⟩ := h.planned
  have hwrites := ToolCall.plan_writes hplan
  obtain ⟨hbearer, hscope, htenant⟩ := authorizeRequest_ok h.admitted
  exact ⟨hbearer hwrites, hwrites, hscope, htenant⟩

/-- What a plan read is among what its call did. -/
theorem Served.plan_events {base : SdcHandler} {s : Served} {plan : Io StoredAction}
    (hadmitted : authorizeRequest s.call.caller s.call.tool.name s.call.tenant base.tenant
      = .ok ())
    (hplan : s.call.tool.plan base.client = some plan) :
    ∀ e ∈ (plan s.env s.history).2, e ∈ s.events base := by
  intro e he
  have hio := ToolCall.io_plan (s.handler base) (owner s.call.caller) hplan
  obtain ⟨rest, hrest⟩ := Run.bind_events plan (fun action => do
    let changeSet ← (s.handler base).changes.sets.store (owner s.call.caller) action
    return planResult changeSet action.view) s.env s.history
  rw [← hio] at hrest
  have hevents : s.events base
      = (s.call.tool.io (s.handler base) (owner s.call.caller) s.env s.history).2 :=
    (s.handler base).handle_admitted hadmitted s.env s.history
  rw [hevents, hrest]
  exact List.mem_append_left _ he

/-- An action that was read back of what an earlier call stored is grounded in that call. -/
theorem GatedSend.grounded {base : SdcHandler} {p s : Served} {kind : StoredKind} {args : ApplyArgs}
    {before : List Event} {e : Event} {action stored : StoredAction} {q : Request}
    (h : GatedSend base.client s.changes (owner s.call.caller) kind args before e action q)
    (hstores : p.Stores base args.changeSetId stored)
    (hread : StoredAction.decode kind stored.encode.toValue.tree = some action) :
    Grounded base p kind args before e action q := by
  rw [Json.toValue_tree stored.distinct_encode] at hread
  obtain ⟨hkind, rfl⟩ := StoredAction.decode_encode_iff.mp hread
  obtain ⟨-, -, hdigest⟩ := StoredAction.stage_ok_iff.mp h.staged
  obtain ⟨plan, t, output, u, hplan, hrun, -, -⟩ := hstores.planned
  have hevents := Served.plan_events hstores.admitted hplan
  rw [hrun] at hevents
  exact
    { stored := hstores
      planner := hstores.authorized
      made := ToolCall.plan_constructed hplan hrun
      kind := hkind.symm
      approved := hdigest
      sent := h.sent
      intended := h.intended
      planned := (ToolCall.plan_from hplan hrun h.intended).mono hevents
      gated := h.gated }

/-- **Every change was planned.**  If the coordinator hands over what was stored, then each request
of a session that can change SDC is the preview of a planner, or it was planned by an earlier call:
the bearer of a token that reaches a planner's tool had stored the action, under the change set and
with the digest that its applier names, as that call asked and, unless it creates something, of
what SDC had answered; and unless it creates something or is a deploy, that was read again before
the request and found unchanged. -/
theorem session_writes_planned (base : SdcHandler) (session : List Served)
    (hreplays : Replays base session) (trace : List Event)
    (htrace : SessionTrace base session trace) :
    ∀ e ∈ trace, e.dispatches = true →
      (∃ s ∈ session, ∃ policies a, s.call.tool = .prepareSdcPolicyDeploy policies ∧
        e = .attempt (previewSubmission policies) a) ∨
      ∃ earlier s later kind args, session = earlier ++ s :: later ∧
        s.call.tool.applies = some (kind, args) ∧
        ∃ before after, s.events base = before ++ e :: after ∧
          ∃ p ∈ earlier, ∃ action q, Grounded base p kind args before e action q := by
  intro e he hd
  obtain ⟨s, hs, hmem⟩ := htrace.mem he
  obtain ⟨q, a, rfl, hauthorized, hlicensed⟩ := (s.atMostOne base).only e hmem hd
  cases hlicensed with
  | preview htool => exact .inl ⟨s, hs, _, a, htool, rfl⟩
  | @applied kind args _ _ _ _ htool hset hstage hq =>
      right
      obtain ⟨earlier, later, hsession⟩ := List.append_of_mem hs
      obtain ⟨before, after, hsplit⟩ := List.append_of_mem hmem
      refine ⟨earlier, s, later, kind, args, hsession, htool, before, after, hsplit, ?_⟩
      rcases (s.handler base).handle_events s.call s.env s.history with hnone | ⟨-, hevents⟩
      · have hnil : s.events base = [] := hnone
        rw [hnil] at hmem
        cases hmem
      have hsame : s.events base
          = (s.call.tool.io (s.handler base) (owner s.call.caller) s.env s.history).2 := hevents
      rw [hsame] at hsplit
      obtain ⟨action, q', hsend⟩ : ∃ action q', GatedSend base.client s.changes
          (owner s.call.caller) kind args before (.attempt q a) action q' :=
        ToolCall.io_gated htool hsplit hd
      obtain ⟨history, operationId, hhanded⟩ := hsend.handed
      obtain ⟨p, hp, stored, hstores, hread⟩ :=
        hreplays earlier s later hsession kind args htool history operationId [action] hhanded
      exact ⟨p, hp, action, q', hsend.grounded hstores (by simpa using hread)⟩

end Sessions

section Hosts

local instance plannedCrates : Crates := hostTables.crates

local instance plannedHandlerCrates : HandlerCrates := scopedCrates

set_option maxRecDepth 40000 in
theorem planHost_stores :
    planHost.Stores hostHandler "cs-1" (.objectWrite (hostCreate nameFirst)) where
  admitted := by rfl
  planned := ⟨_, [], ⟨"cs-1", "sha256:0", .null⟩, [], rfl, by rfl, by rfl, rfl⟩

end Hosts

/-! ### A device that stayed as it was -/

section StillDevice

def stillTables : Tables where
  documents := [statusFlag false]
  digests := flagTables.digests

local instance stillCrates : Crates := stillTables.crates

local instance stillHandlerCrates : HandlerCrates := scopedCrates

/-- The device is not in sync, and no change is answered. -/
def stillEnv : Env := Env.answering fun request =>
  if request.mutating then .unanswered .timedOut else .replies 200 (statusFlag false)

/-- What its sync is planned as. -/
def stillSync : SdcPreparedDeviceSync :=
  { flaggedSync with
    planDigest := canonicalDigest
      (SdcPreparedDeviceSync.planArtifact flaggedSync.deviceUuids flaggedSync.before) }

def stillManager : ChangeManager :=
  { hostManager with deviceSyncs := fun _ _ => relayingCoordinator [stillSync] }

def stillHandler : SdcHandler := { hostHandler with changes := stillManager }

def planStill : Served where
  call := ⟨some hostPlanner, "tenant-a", .prepareSdcDeviceInventorySync ["dev-1"]⟩
  changes := stillManager
  env := stillEnv
  history := []

def stillArgs : ApplyArgs := ⟨"cs-1", "sha256:0", stillSync.planDigest⟩

def applyStill : Served where
  call := ⟨some hostPlanner, "tenant-a", .applySdcDeviceInventorySync stillArgs⟩
  changes := stillManager
  env := stillEnv
  history := []

def stillRead : List Event :=
  [.attempt ⟨.get, ["api", "v1", "devices", "dev-1"], [], none⟩
    ⟨0, .replies 200 (statusFlag false)⟩]

set_option maxRecDepth 40000 in
theorem planStill_stores :
    planStill.Stores stillHandler "cs-1" (.deviceSync stillSync) where
  admitted := by rfl
  planned := ⟨_, stillRead, ⟨"cs-1", "sha256:0", .null⟩, [], rfl, by rfl, by rfl, rfl⟩

set_option maxRecDepth 40000 in
theorem planStill_events : planStill.events stillHandler = stillRead := by rfl

def stillSent : Event := .attempt (syncRequest ["dev-1"]) ⟨0, .unanswered .timedOut⟩

def stillTrace : List Event :=
  stillRead ++ .markRefused false :: (stillRead ++ (gateEvents stillRead ++ [stillSent]))

set_option maxRecDepth 40000 in
theorem applyStill_events : applyStill.events stillHandler
    = .markRefused false :: (stillRead ++ (gateEvents stillRead ++ [stillSent])) := by rfl

theorem still_trace : SessionTrace stillHandler [planStill, applyStill] stillTrace := by
  unfold SessionTrace
  rw [List.map_cons, List.map_cons, List.map_nil, planStill_events, applyStill_events]
  exact Interleaves.flatten [stillRead, _]

theorem still_replays : Replays stillHandler [planStill, applyStill] := by
  intro earlier s later hsession kind args htool history operationId actions hhanded
  have hs : s ∈ [planStill, applyStill] := by
    rw [hsession]
    simp
  rcases List.mem_cons.mp hs with rfl | hs
  · cases htool
  rw [List.mem_singleton] at hs
  subst hs
  have hearlier : planStill ∈ earlier := by
    cases earlier with
    | nil => exact absurd hsession (by simp [planStill, applyStill])
    | cons first earlier =>
        obtain ⟨rfl, -⟩ := List.cons.inj hsession
        exact List.mem_cons_self
  cases htool
  cases hhanded
  refine ⟨planStill, hearlier, .deviceSync stillSync, planStill_stores, ?_⟩
  rw [List.map_singleton, Json.toValue_tree (StoredAction.distinct_encode _)]
  exact congrArg ([·]) (StoredAction.decode_encode (.deviceSync stillSync))

/-- The sync that is requested was planned by the call before, and its device was read twice more
and found unchanged. -/
theorem still_sync_planned : ∃ earlier s later kind args,
    [planStill, applyStill] = earlier ++ s :: later ∧ s.call.tool.applies = some (kind, args) ∧
    ∃ before after, s.events stillHandler = before ++ stillSent :: after ∧
      ∃ p ∈ earlier, ∃ action q, Grounded stillHandler p kind args before stillSent action q := by
  have hplanned := session_writes_planned stillHandler [planStill, applyStill] still_replays
    stillTrace still_trace stillSent (by simp [stillTrace]) rfl
  refine hplanned.resolve_left ?_
  rintro ⟨s, hs, policies, a, htool, -⟩
  rcases List.mem_cons.mp hs with rfl | hs
  · cases htool
  · rw [List.mem_singleton] at hs
    subst hs
    cases htool

end StillDevice

end SdcMcp
