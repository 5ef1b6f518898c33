/-
The endpoints of `client.rs` that the transactions call.

A read checks its identifiers and sends one `GET`; a write checks its identifiers,
then its body if it has one, and sends one request.  A path is given as its
segments; an identifier is one segment of it.
-/
import SdcMcp.Model.Catalog
import SdcMcp.Model.Client

namespace SdcMcp

open Interactive

variable [Crates]

/-- Checks identifiers in order, each under its field name. -/
def validateAtoms (atoms : List (String × String)) : Except SdcError Unit :=
  atoms.forM fun atom => validateAtom atom.1 atom.2

/-- A read of one item by its identifiers. -/
def readCall {α : Type} (client : SdcClient) (race : Option Nat) (decode : Json → Option α)
    (atoms : List (String × String)) (segments : List String)
    (query : List (String × String)) : Io α := do
  Run.lift (validateAtoms atoms)
  get client race decode segments query

/-- A bounded read of one page of a collection. -/
def listCall (client : SdcClient) (atoms : List (String × String)) (segments : List String)
    (page : ListRequest) : Io Value := do
  Run.lift (validateAtoms atoms)
  list client segments page

/-- One write as it is put to the client: its identifiers, its path and its body. -/
structure WriteCall where
  method : Method
  atoms : List (String × String)
  segments : List String
  body : Option Value

namespace WriteCall

/-- The checks of a write that come before the sending code. -/
def validate (call : WriteCall) : Except SdcError Unit := do
  validateAtoms call.atoms
  match call.body with
  | some body => validateObjectBody body.tree
  | none => return ()

def request (call : WriteCall) : Request :=
  ⟨call.method, call.segments, [], call.body.map Value.tree⟩

def run (client : SdcClient) (call : WriteCall) : Io Value := do
  Run.lift call.validate
  sendWrite client call.method call.segments call.body

end WriteCall

/-! ### Reads -/

def getDevice (client : SdcClient) (deviceUuid : String) : Io Value :=
  readCall client none decodeValue [("device_uuid", deviceUuid)]
    ["api", "v1", "devices", deviceUuid] []

def getFirewallPolicy (client : SdcClient) (policyUuid : String) : Io Value :=
  readCall client none decodeValue [("policy_uuid", policyUuid)]
    ["api", "v1", "policies", "firewall", policyUuid] []

def getNatPolicy (client : SdcClient) (id : String) : Io Value :=
  readCall client none decodeValue [("id", id)] ["api", "v1", "policies", "nat", id] []

def getNatRule (client : SdcClient) (policyId ruleId : String) : Io Value :=
  readCall client none decodeValue [("policy_id", policyId), ("rule_id", ruleId)]
    ["api", "v1", "policies", "nat", policyId, "rules", ruleId] []

def getNatRuleGroup (client : SdcClient) (policyId groupId : String) : Io Value :=
  readCall client none decodeValue [("policy_id", policyId), ("group_id", groupId)]
    ["api", "v1", "policies", "nat", policyId, "rule_groups", groupId] []

def getResource (client : SdcClient) (kind : ResourceKind) (uuid : String) : Io Value :=
  readCall client none decodeValue [("uuid", uuid)] (kind.collectionSegments ++ [uuid]) []

def listDeviceCaCertificates (client : SdcClient) (deviceUuid : String) (page : ListRequest) :
    Io Value :=
  listCall client [("device_uuid", deviceUuid)]
    ["api", "v1", "devices", deviceUuid, "ca_certificates"] page

def listDeviceLocalCertificates (client : SdcClient) (deviceUuid : String) (page : ListRequest) :
    Io Value :=
  listCall client [("device_uuid", deviceUuid)]
    ["api", "v1", "devices", deviceUuid, "local_certificates"] page

def listLicenses (client : SdcClient) (deviceUuid : String) (page : ListRequest) : Io Value :=
  listCall client [("device_uuid", deviceUuid)] ["api", "v1", "devices", deviceUuid, "licenses"]
    page

def previewDeviceResult (client : SdcClient) (previewId deviceId : String) : Io Value :=
  readCall client none decodeValue [("preview_id", previewId), ("device_id", deviceId)]
    ["api", "v1", "policies", "preview", previewId, "devices", deviceId] [("format", "XML")]

/-! ### Status reads

These run inside a polling loop and race its deadline.
-/

def previewStatus (client : SdcClient) (race : Option Nat) (previewId : String) : Io JobStatus :=
  readCall client race JobStatus.decode [("preview_id", previewId)]
    ["api", "v1", "policies", "preview", previewId] []

def deployStatus (client : SdcClient) (race : Option Nat) (deployId : String) : Io JobStatus :=
  readCall client race JobStatus.decode [("deploy_id", deployId)]
    ["api", "v1", "policies", "deploy", deployId] []

def installLicenseStatus (client : SdcClient) (race : Option Nat) (jobId : String) :
    Io JobStatus :=
  readCall client race JobStatus.decode [("job_id", jobId)]
    ["api", "v1", "devices", "install_license", jobId] []

def installCaCertificateStatus (client : SdcClient) (race : Option Nat) (jobId : String) :
    Io JobStatus :=
  readCall client race JobStatus.decode [("job_id", jobId)]
    ["api", "v1", "devices", "install_ca_certificate", jobId] []

def installLocalCertificateStatus (client : SdcClient) (race : Option Nat) (jobId : String) :
    Io JobStatus :=
  readCall client race JobStatus.decode [("job_id", jobId)]
    ["api", "v1", "devices", "install_local_certificate", jobId] []

def deleteCertificateStatus (client : SdcClient) (race : Option Nat) (jobId : String) :
    Io JobStatus :=
  readCall client race JobStatus.decode [("job_id", jobId)]
    ["api", "v1", "devices", "delete_certificate", jobId] []

def syncDevicesStatus (client : SdcClient) (race : Option Nat) (syncId : String) :
    Io DeviceSyncJob :=
  readCall client race DeviceSyncJob.decode [("sync_id", syncId)]
    ["api", "v1", "devices", "sync", syncId] []

/-! ### Object writes -/

def createResource (kind : WritableResource) (body : Value) : WriteCall where
  method := .post
  atoms := []
  segments := kind.collectionSegments
  body := some body

def updateResource (kind : WritableResource) (uuid : String) (body : Value) : WriteCall where
  method := .put
  atoms := [("uuid", uuid)]
  segments := kind.collectionSegments ++ [uuid]
  body := some body

def deleteResource (kind : WritableResource) (uuid : String) : WriteCall where
  method := .delete
  atoms := [("uuid", uuid)]
  segments := kind.collectionSegments ++ [uuid]
  body := none

/-! ### Firewall writes -/

def createFirewallPolicy (body : Value) : WriteCall where
  method := .post
  atoms := []
  segments := ["api", "v1", "policies", "firewall"]
  body := some body

def updateFirewallPolicy (uuid : String) (body : Value) : WriteCall where
  method := .put
  atoms := [("uuid", uuid)]
  segments := ["api", "v1", "policies", "firewall", uuid]
  body := some body

def deleteFirewallPolicy (uuid : String) : WriteCall where
  method := .delete
  atoms := [("uuid", uuid)]
  segments := ["api", "v1", "policies", "firewall", uuid]
  body := none

/-! ### NAT writes -/

def createNatPolicy (body : Value) : WriteCall where
  method := .post
  atoms := []
  segments := ["api", "v1", "policies", "nat"]
  body := some body

def updateNatPolicy (policyId : String) (body : Value) : WriteCall where
  method := .put
  atoms := [("policy_id", policyId)]
  segments := ["api", "v1", "policies", "nat", policyId]
  body := some body

def deleteNatPolicy (policyId : String) : WriteCall where
  method := .delete
  atoms := [("policy_id", policyId)]
  segments := ["api", "v1", "policies", "nat", policyId]
  body := none

def createNatRule (policyId : String) (body : Value) : WriteCall where
  method := .post
  atoms := [("policy_id", policyId)]
  segments := ["api", "v1", "policies", "nat", policyId, "rules"]
  body := some body

def updateNatRule (policyId ruleId : String) (body : Value) : WriteCall where
  method := .put
  atoms := [("policy_id", policyId), ("rule_id", ruleId)]
  segments := ["api", "v1", "policies", "nat", policyId, "rules", ruleId]
  body := some body

def deleteNatRule (policyId ruleId : String) : WriteCall where
  method := .delete
  atoms := [("policy_id", policyId), ("rule_id", ruleId)]
  segments := ["api", "v1", "policies", "nat", policyId, "rules", ruleId]
  body := none

def createNatRuleGroup (policyId : String) (body : Value) : WriteCall where
  method := .post
  atoms := [("policy_id", policyId)]
  segments := ["api", "v1", "policies", "nat", policyId, "rule_groups"]
  body := some body

def updateNatRuleGroup (policyId groupId : String) (body : Value) : WriteCall where
  method := .put
  atoms := [("policy_id", policyId), ("group_id", groupId)]
  segments := ["api", "v1", "policies", "nat", policyId, "rule_groups", groupId]
  body := some body

end SdcMcp
