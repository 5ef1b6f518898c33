/-
Stored actions.

A change set keeps its action as a JSON document, which is read back by the derived
decoder of its kind when it is applied or shown.  The document comes from a file that
others can write to, so it may be anything the decoder accepts; `StoredAction` is what
one is read back as, and `stage` what its transaction makes of it.
-/
import SdcMcp.Model.Deploy
import SdcMcp.Model.DeviceSync
import SdcMcp.Model.FirewallWrite
import SdcMcp.Model.LicenseWrite
import SdcMcp.Model.NatWrite
import SdcMcp.Model.ObjectWrite

namespace SdcMcp

open Serde

/-! ### Enumerations -/

def ObjectWriteAction.decode : Json → Option ObjectWriteAction :=
  unitVariant fun
    | "create" => some .create
    | "update" => some .update
    | "delete" => some .delete
    | _ => none

def WritableResource.decode : Json → Option WritableResource :=
  unitVariant fun
    | "addresses" => some .addresses
    | "applications" => some .applications
    | "services" => some .services
    | "schedulers" => some .schedulers
    | _ => none

def FirewallWriteOperation.decode : Json → Option FirewallWriteOperation :=
  unitVariant fun
    | "create_policy" => some .createPolicy
    | "update_policy" => some .updatePolicy
    | "delete_policy" => some .deletePolicy
    | _ => none

def NatWriteOperation.decode : Json → Option NatWriteOperation :=
  unitVariant fun
    | "create_policy" => some .createPolicy
    | "update_policy" => some .updatePolicy
    | "delete_policy" => some .deletePolicy
    | "create_rule" => some .createRule
    | "update_rule" => some .updateRule
    | "delete_rule" => some .deleteRule
    | "create_rule_group" => some .createRuleGroup
    | "update_rule_group" => some .updateRuleGroup
    | _ => none

def LicenseWriteOperation.decode : Json → Option LicenseWriteOperation :=
  unitVariant fun
    | "install_license" => some .installLicense
    | "install_ca_certificate" => some .installCaCertificate
    | "install_local_certificate" => some .installLocalCertificate
    | "delete_certificate" => some .deleteCertificate
    | _ => none

@[simp] theorem LicenseWriteOperation.decode_name (action : LicenseWriteOperation) :
    decode (.str action.name) = some action := by
  cases action <;> rfl

/-! ### Envelopes -/

def SdcPreparedObjectWrite.decode (v : Json) : Option SdcPreparedObjectWrite := do
  let f ← fields ["operation", "action", "resource", "uuid", "request", "before", "plan_digest"]
    true v
  let operation ← required Json.asStr f 0
  let action ← required ObjectWriteAction.decode f 1
  let resource ← required WritableResource.decode f 2
  let uuid ← optional Json.asStr f 3
  let request ← required decodeValue f 4
  let before ← required decodeValue f 5
  let planDigest ← required Json.asStr f 6
  return ⟨operation, action, resource, uuid, request, before, planDigest⟩

def SdcPreparedFirewallWrite.decode (v : Json) : Option SdcPreparedFirewallWrite := do
  let f ← fields ["operation", "action", "uuid", "request", "before", "plan_digest"] true v
  let operation ← required Json.asStr f 0
  let action ← required FirewallWriteOperation.decode f 1
  let uuid ← optional Json.asStr f 2
  let request ← required decodeValue f 3
  let before ← required decodeValue f 4
  let planDigest ← required Json.asStr f 5
  return ⟨operation, action, uuid, request, before, planDigest⟩

def SdcPreparedNatWrite.decode (v : Json) : Option SdcPreparedNatWrite := do
  let f ← fields ["operation", "action", "policy_id", "rule_id", "group_id", "request", "before",
    "plan_digest"] true v
  let operation ← required Json.asStr f 0
  let action ← required NatWriteOperation.decode f 1
  let policyId ← optional Json.asStr f 2
  let ruleId ← optional Json.asStr f 3
  let groupId ← optional Json.asStr f 4
  let request ← required decodeValue f 5
  let before ← required decodeValue f 6
  let planDigest ← required Json.asStr f 7
  return ⟨operation, action, policyId, ruleId, groupId, request, before, planDigest⟩

def SdcPreparedLicenseWrite.decode (v : Json) : Option SdcPreparedLicenseWrite := do
  let f ← fields ["operation", "action", "device_uuid", "request", "before", "plan_digest"] true v
  let operation ← required Json.asStr f 0
  let action ← required LicenseWriteOperation.decode f 1
  let deviceUuid ← required Json.asStr f 2
  let request ← required decodeValue f 3
  let before ← required decodeValue f 4
  let planDigest ← required Json.asStr f 5
  return ⟨operation, action, deviceUuid, request, before, planDigest⟩

def SdcPreparedDeviceSync.decode (v : Json) : Option SdcPreparedDeviceSync := do
  let f ← fields ["operation", "device_uuids", "before", "plan_digest"] true v
  let operation ← required Json.asStr f 0
  let deviceUuids ← required (Serde.list Json.asStr) f 1
  let before ← required decodeValue f 2
  let planDigest ← required Json.asStr f 3
  return ⟨operation, deviceUuids, before, planDigest⟩

/-- An envelope that was stored is read back as it was. -/
theorem SdcPreparedLicenseWrite.decode_encode (p : SdcPreparedLicenseWrite) :
    decode p.encode = some p := by
  obtain ⟨operation, action, deviceUuid, request, before, planDigest⟩ := p
  have hrequest := request.toValue_tree
  have hbefore := before.toValue_tree
  have hf : fields ["operation", "action", "device_uuid", "request", "before", "plan_digest"] true
      (SdcPreparedLicenseWrite.encode ⟨operation, action, deviceUuid, request, before, planDigest⟩)
      = some ⟨false, [some (.str operation), some (.str action.name), some (.str deviceUuid),
          some request.tree, some before.tree, some (.str planDigest)]⟩ := rfl
  unfold decode
  rw [hf]
  simp only [Option.bind_eq_bind, Option.bind_some, required, List.getD_cons_zero,
    List.getD_cons_succ, Json.asStr, LicenseWriteOperation.decode_name, decodeValue, hrequest,
    hbefore]
  rfl

theorem SdcPreparedDeviceSync.decode_encode (p : SdcPreparedDeviceSync) :
    decode p.encode = some p := by
  obtain ⟨operation, deviceUuids, before, planDigest⟩ := p
  have hbefore := before.toValue_tree
  have hstr : ∀ s : String, Json.asStr (Json.str s) = some s := fun _ => rfl
  have hlist : Serde.list Json.asStr (.arr (deviceUuids.map Json.str)) = some deviceUuids :=
    list_map hstr deviceUuids
  have hf : fields ["operation", "device_uuids", "before", "plan_digest"] true
      (SdcPreparedDeviceSync.encode ⟨operation, deviceUuids, before, planDigest⟩)
      = some ⟨false, [some (.str operation), some (.arr (deviceUuids.map Json.str)),
          some before.tree, some (.str planDigest)]⟩ := rfl
  unfold decode
  rw [hf]
  simp only [Option.bind_eq_bind, Option.bind_some, required, List.getD_cons_zero,
    List.getD_cons_succ, Json.asStr, decodeValue, hbefore, hlist]
  rfl

/-! ### The six kinds -/

inductive StoredKind where
  | policyDeploy
  | objectWrite
  | firewallWrite
  | natWrite
  | licenseWrite
  | deviceSync
  deriving DecidableEq

inductive StoredAction where
  | policyDeploy (p : SdcPreparedChange)
  | objectWrite (p : SdcPreparedObjectWrite)
  | firewallWrite (p : SdcPreparedFirewallWrite)
  | natWrite (p : SdcPreparedNatWrite)
  | licenseWrite (p : SdcPreparedLicenseWrite)
  | deviceSync (p : SdcPreparedDeviceSync)

namespace StoredAction

def kind : StoredAction → StoredKind
  | .policyDeploy _ => .policyDeploy
  | .objectWrite _ => .objectWrite
  | .firewallWrite _ => .firewallWrite
  | .natWrite _ => .natWrite
  | .licenseWrite _ => .licenseWrite
  | .deviceSync _ => .deviceSync

/-- The digest that an approver is shown. -/
def digest : StoredAction → String
  | .policyDeploy p => p.previewDigest
  | .objectWrite p => p.planDigest
  | .firewallWrite p => p.planDigest
  | .natWrite p => p.planDigest
  | .licenseWrite p => p.planDigest
  | .deviceSync p => p.planDigest

def encode : StoredAction → Json
  | .policyDeploy p => p.encode
  | .objectWrite p => p.encode
  | .firewallWrite p => p.encode
  | .natWrite p => p.encode
  | .licenseWrite p => p.encode
  | .deviceSync p => p.encode

/-- A stored document read back as an action of a kind. -/
def decode : StoredKind → Json → Option StoredAction
  | .policyDeploy, v => (SdcPreparedChange.decode v).map .policyDeploy
  | .objectWrite, v => (SdcPreparedObjectWrite.decode v).map .objectWrite
  | .firewallWrite, v => (SdcPreparedFirewallWrite.decode v).map .firewallWrite
  | .natWrite, v => (SdcPreparedNatWrite.decode v).map .natWrite
  | .licenseWrite, v => (SdcPreparedLicenseWrite.decode v).map .licenseWrite
  | .deviceSync, v => (SdcPreparedDeviceSync.decode v).map .deviceSync

variable [Crates]

/-- `stage` of the kind's transaction on this one action. -/
def stage (expectedDigest : String) : StoredAction → Except SdcError StoredAction
  | .policyDeploy p => (SdcTransaction.stage expectedDigest [p]).map .policyDeploy
  | .objectWrite p => (SdcObjectTransaction.stage expectedDigest [p]).map .objectWrite
  | .firewallWrite p => (SdcFirewallTransaction.stage expectedDigest [p]).map .firewallWrite
  | .natWrite p => (SdcNatTransaction.stage expectedDigest [p]).map .natWrite
  | .licenseWrite p => (SdcLicenseTransaction.stage expectedDigest [p]).map .licenseWrite
  | .deviceSync p => (SdcDeviceSyncTransaction.stage expectedDigest [p]).map .deviceSync

end StoredAction

end SdcMcp
