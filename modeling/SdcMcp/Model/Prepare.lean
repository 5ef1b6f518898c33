/-
Planning a change, `change.rs`: what is checked and read before a plan is made, and
the change set that records it.

The coordinator stores an action as the tree its serialiser writes.  It is a separate
crate, so what it answers is a parameter here.
-/
import SdcMcp.Lib.Map
import SdcMcp.Model.Deploy
import SdcMcp.Model.DeviceSync
import SdcMcp.Model.FirewallWrite
import SdcMcp.Model.LicenseWrite
import SdcMcp.Model.NatWrite
import SdcMcp.Model.ObjectWrite

namespace SdcMcp

open Interactive

/-! ### Change sets -/

structure ChangeSetOutput where
  changeSetId : String
  digest : String
  /-- The whole record, as it is serialised. -/
  encoded : Value

/-- The coordinator as a planner sees it, for one tenant. -/
structure ChangeSets where
  tenant : String
  labMode : Bool
  /-- Stores the actions of a tenant's change set under its owner and its fingerprint. -/
  create : List Event → String → List Value → String → String → Except String ChangeSetOutput
  /-- Waives the approval of a change set: its id, its tenant, its owner and its digest. -/
  waiveApproval : List Event → String → String → String → String → Except String ChangeSetOutput

namespace ChangeSets

/-- `create_change_set` with one action. -/
def createChangeSet (sets : ChangeSets) (action : Value) (owner fingerprint : String) :
    Io ChangeSetOutput := do
  let created ← Run.ask fun _ history => sets.create history sets.tenant [action] owner fingerprint
  Run.lift (created.mapError .changeControl)

def waiveIfLabMode (sets : ChangeSets) (changeSet : ChangeSetOutput) (owner : String) :
    Io ChangeSetOutput :=
  if !sets.labMode then return changeSet
  else do
    let waived ← Run.ask fun _ history =>
      sets.waiveApproval history changeSet.changeSetId sets.tenant owner changeSet.digest
    Run.lift (waived.mapError .changeControl)

end ChangeSets

variable [Crates]

/-! ### Policy deploys -/

omit [Crates] in
/-- A device group is a target the API documents and does not support. -/
def validateDeployTargets (targets : List Target) : Except SdcError Unit :=
  if targets.any fun target => target.targetType = .deviceGroup then
    .error (.invalidInput ("DEVICE_GROUP is not supported as a deploy target: the pinned SDC API "
      ++ "marks it \"Not supported, future support\". Target devices individually."))
  else .ok ()

structure PrepareResult where
  changeSet : ChangeSetOutput
  preparedChange : SdcPreparedChange

/-- `ChangeManager::prepare`. -/
def prepare (client : SdcClient) (sets : ChangeSets) (owner : String)
    (policies : List PolicyOperation) : Io PrepareResult := do
  Run.lift (policies.forM fun operation => do
    validateDeployTargets operation.deployTargets
    validateDeployTargets operation.undeployTargets)
  let prepared ← preparePolicyDeploy client policies
  let changeSet ← sets.createChangeSet prepared.encode.toValue owner prepared.previewDigest
  let changeSet ← sets.waiveIfLabMode changeSet owner
  return ⟨changeSet, prepared⟩

/-! ### Object, firewall and NAT writes -/

/-- The state of an object that a write of this kind is planned against. -/
def objectState (client : SdcClient) (action : ObjectWriteAction) (resource : WritableResource)
    (uuid : Option String) : Io Value :=
  match action, uuid with
  | .create, _ => return Value.null
  | _, some identifier => getResource client (ResourceKind.fromWritable resource) identifier
  | .update, none | .delete, none =>
      Run.fail (.invalidInput "update and delete require the target object UUID")

structure ObjectPrepareResult where
  changeSet : ChangeSetOutput
  preparedChange : SdcPreparedObjectWrite

def prepareObjectWrite (client : SdcClient) (sets : ChangeSets) (owner : String)
    (action : ObjectWriteAction) (resource : WritableResource) (uuid : Option String)
    (request : Value) : Io ObjectPrepareResult := do
  let before ← objectState client action resource uuid
  let prepared ← Run.lift (SdcPreparedObjectWrite.new action resource uuid request before)
  let changeSet ← sets.createChangeSet prepared.encode.toValue owner prepared.planDigest
  let changeSet ← sets.waiveIfLabMode changeSet owner
  return ⟨changeSet, prepared⟩

def firewallState (client : SdcClient) (action : FirewallWriteOperation)
    (uuid : Option String) : Io Value :=
  match action, uuid with
  | .createPolicy, _ => return Value.null
  | _, some identifier => getFirewallPolicy client identifier
  | .updatePolicy, none | .deletePolicy, none =>
      Run.fail (.invalidInput "update and delete require the target policy UUID")

structure FirewallPrepareResult where
  changeSet : ChangeSetOutput
  preparedChange : SdcPreparedFirewallWrite

def prepareFirewallWrite (client : SdcClient) (sets : ChangeSets) (owner : String)
    (action : FirewallWriteOperation) (uuid : Option String) (request : Value) :
    Io FirewallPrepareResult := do
  let before ← firewallState client action uuid
  let prepared ← Run.lift (SdcPreparedFirewallWrite.new action uuid request before)
  let changeSet ← sets.createChangeSet prepared.encode.toValue owner prepared.planDigest
  let changeSet ← sets.waiveIfLabMode changeSet owner
  return ⟨changeSet, prepared⟩

def natState (client : SdcClient) (action : NatWriteOperation)
    (policyId ruleId groupId : Option String) : Io Value :=
  match action with
  | .createPolicy | .createRule | .createRuleGroup => return Value.null
  | .updatePolicy | .deletePolicy => do
      let policyId ← Run.lift
        (SdcNatTransaction.requiredId "policy_id required for policy operations" policyId)
      getNatPolicy client policyId
  | .updateRule | .deleteRule => do
      let policyId ← Run.lift
        (SdcNatTransaction.requiredId "policy_id required for rule operations" policyId)
      let ruleId ← Run.lift
        (SdcNatTransaction.requiredId "rule_id required for rule operations" ruleId)
      getNatRule client policyId ruleId
  | .updateRuleGroup => do
      let policyId ← Run.lift
        (SdcNatTransaction.requiredId "policy_id required for rule group operations" policyId)
      let groupId ← Run.lift
        (SdcNatTransaction.requiredId "group_id required for rule group operations" groupId)
      getNatRuleGroup client policyId groupId

structure NatPrepareResult where
  changeSet : ChangeSetOutput
  preparedChange : SdcPreparedNatWrite

def prepareNatWrite (client : SdcClient) (sets : ChangeSets) (owner : String)
    (action : NatWriteOperation) (policyId ruleId groupId : Option String) (request : Value) :
    Io NatPrepareResult := do
  let before ← natState client action policyId ruleId groupId
  let prepared ← Run.lift
    (SdcPreparedNatWrite.new action policyId ruleId groupId request before)
  let changeSet ← sets.createChangeSet prepared.encode.toValue owner prepared.planDigest
  let changeSet ← sets.waiveIfLabMode changeSet owner
  return ⟨changeSet, prepared⟩

/-! ### License and certificate writes -/

/-- The state of a device that a write of this kind is planned against. -/
def licenseState (client : SdcClient) (action : LicenseWriteOperation) (deviceUuid : String) :
    Io Value :=
  match action with
  | .installLicense => SdcLicenseTransaction.firstPage (listLicenses client deviceUuid)
  | .installCaCertificate =>
      SdcLicenseTransaction.firstPage (listDeviceCaCertificates client deviceUuid)
  | .installLocalCertificate =>
      SdcLicenseTransaction.firstPage (listDeviceLocalCertificates client deviceUuid)
  | .deleteCertificate => do
      let caCerts ← SdcLicenseTransaction.firstPage (listDeviceCaCertificates client deviceUuid)
      let localCerts ←
        SdcLicenseTransaction.firstPage (listDeviceLocalCertificates client deviceUuid)
      return SdcLicenseTransaction.certificates caCerts localCerts

/-- A write is re-checked against the state it was planned against. -/
theorem SdcLicenseTransaction.current_eq (client : SdcClient) (staged : SdcPreparedLicenseWrite) :
    current client staged = licenseState client staged.action staged.deviceUuid := by
  unfold current licenseState
  cases staged.action <;> rfl

structure LicensePrepareResult where
  changeSet : ChangeSetOutput
  preparedChange : SdcPreparedLicenseWrite

def prepareLicenseWrite (client : SdcClient) (sets : ChangeSets) (owner : String)
    (action : LicenseWriteOperation) (deviceUuid : String) (request : Value) :
    Io LicensePrepareResult := do
  let before ← licenseState client action deviceUuid
  let prepared ← Run.lift (SdcPreparedLicenseWrite.new action deviceUuid request before)
  let changeSet ← sets.createChangeSet prepared.encode.toValue owner prepared.planDigest
  let changeSet ← sets.waiveIfLabMode changeSet owner
  return ⟨changeSet, prepared⟩

/-! ### Device sync -/

/-- Reads devices in order and keeps each under its UUID. -/
def readDevices (client : SdcClient) (before : Map) : List String → Io Map
  | [] => return before
  | uuid :: rest => do
      let device ← getDevice client uuid
      readDevices client (before.insert uuid device) rest

structure DeviceSyncPrepareResult where
  changeSet : ChangeSetOutput
  preparedChange : SdcPreparedDeviceSync

def prepareDeviceSync (client : SdcClient) (sets : ChangeSets) (owner : String)
    (deviceUuids : List String) : Io DeviceSyncPrepareResult := do
  let deviceUuids ← Run.lift (SdcPreparedDeviceSync.canonicalDeviceList deviceUuids)
  let before ← readDevices client Map.empty deviceUuids
  let prepared ← Run.lift (SdcPreparedDeviceSync.new deviceUuids (.object before))
  let changeSet ← sets.createChangeSet prepared.encode.toValue owner prepared.planDigest
  let changeSet ← sets.waiveIfLabMode changeSet owner
  return ⟨changeSet, prepared⟩

end SdcMcp
