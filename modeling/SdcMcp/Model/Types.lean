/-
The typed models of `models.rs`, the job vocabulary of `device_sync.rs`, and the
errors of `client.rs`.

Every record that crosses the wire has an `encode`, the tree its derived
serialiser writes, or a `decode`, what its derived deserialiser accepts; records
that are stored and read back have both.
-/
import SdcMcp.Lib.JsonText
import SdcMcp.Lib.Serde

namespace SdcMcp

open Serde

/-- What the linked crates compute. -/
class Crates where
  /-- SHA-256 of a byte string. -/
  sha256 : List UInt8 → List UInt8
  /-- The JSON document in a byte string, members as the text lists them. -/
  readJson : List UInt8 → Option Json
  /-- The text `bounded_text` keeps of a string. -/
  boundedText : String → Nat → String
  /-- A string as `{:?}` prints it. -/
  debugStr : String → String
  /-- A string that can be the value of a header. -/
  isHeaderValue : String → Bool

/-! ### Lists -/

structure ListRequest where
  from_ : Nat
  size : Nat
  deriving DecidableEq

structure ListRequestError where
  maxSize : Nat
  deriving DecidableEq

namespace ListRequest

/-- A page under the configured maximum; `size = 0` would be an unbounded response. -/
def new (from_ size maxSize : Nat) : Except ListRequestError ListRequest :=
  if maxSize = 0 ∨ size = 0 ∨ maxSize < size then .error ⟨maxSize⟩ else .ok ⟨from_, size⟩

end ListRequest

/-! ### Policy preview and deploy -/

inductive PolicyType where
  | firewall
  | nat
  deriving DecidableEq

namespace PolicyType

def name : PolicyType → String
  | .firewall => "FIREWALL"
  | .nat => "NAT"

def ofName : String → Option PolicyType
  | "FIREWALL" => some .firewall
  | "NAT" => some .nat
  | _ => none

def encode (t : PolicyType) : Json := .str t.name

def decode : Json → Option PolicyType := unitVariant ofName

@[simp] theorem decode_encode (t : PolicyType) : decode t.encode = some t := by
  cases t <;> rfl

end PolicyType

inductive TargetType where
  | device
  | deviceGroup
  deriving DecidableEq

def TargetType.encode : TargetType → Json
  | .device => .str "DEVICE"
  | .deviceGroup => .str "DEVICE_GROUP"

structure Target where
  targetId : String
  targetType : TargetType
  deriving DecidableEq

def Target.encode (t : Target) : Json :=
  .obj [("target_id", .str t.targetId), ("target_type", t.targetType.encode)]

structure PolicyOperation where
  policyId : String
  policyType : PolicyType
  deployTargets : List Target
  undeployTargets : List Target
  deriving DecidableEq

def PolicyOperation.encode (p : PolicyOperation) : Json :=
  .obj [("policy_id", .str p.policyId), ("policy_type", p.policyType.encode),
    ("deploy_targets", .arr (p.deployTargets.map Target.encode)),
    ("undeploy_targets", .arr (p.undeployTargets.map Target.encode))]

structure PreviewRequest where
  policies : List PolicyOperation
  deriving DecidableEq

def PreviewRequest.encode (r : PreviewRequest) : Json :=
  .obj [("policies", .arr (r.policies.map PolicyOperation.encode))]

structure PolicyEntry where
  policyId : String
  policyType : PolicyType
  deriving DecidableEq

namespace PolicyEntry

def encode (p : PolicyEntry) : Json :=
  .obj [("policy_id", .str p.policyId), ("policy_type", p.policyType.encode)]

def decode (v : Json) : Option PolicyEntry := do
  let f ← fields ["policy_id", "policy_type"] true v
  let policyId ← required Json.asStr f 0
  let policyType ← required PolicyType.decode f 1
  return ⟨policyId, policyType⟩

@[simp] theorem decode_encode (p : PolicyEntry) : decode p.encode = some p := by
  obtain ⟨policyId, policyType⟩ := p
  cases policyType <;> rfl

end PolicyEntry

structure DeployRequest where
  policies : List PolicyEntry
  deriving DecidableEq

namespace DeployRequest

def encode (r : DeployRequest) : Json :=
  .obj [("policies", .arr (r.policies.map PolicyEntry.encode))]

def decode (v : Json) : Option DeployRequest := do
  let f ← fields ["policies"] true v
  let policies ← required (list PolicyEntry.decode) f 0
  return ⟨policies⟩

/-- The policies of a preview without their targets: SDC deploys current assignments. -/
def ofPreview (preview : PreviewRequest) : DeployRequest :=
  ⟨preview.policies.map fun policy => ⟨policy.policyId, policy.policyType⟩⟩

@[simp] theorem decode_encode (r : DeployRequest) : decode r.encode = some r := by
  have hf : fields ["policies"] true r.encode
      = some ⟨false, [some (.arr (r.policies.map PolicyEntry.encode))]⟩ := rfl
  have hp : required (list PolicyEntry.decode)
      ⟨false, [some (.arr (r.policies.map PolicyEntry.encode))]⟩ 0 = some r.policies :=
    list_map PolicyEntry.decode_encode r.policies
  unfold decode
  rw [hf, Option.bind_eq_bind, Option.bind_some, hp]
  rfl

end DeployRequest

/-! ### Job states -/

/-- Overall preview or deploy state; a state this build does not know is kept as it came. -/
inductive DeploymentStatus where
  | unknown
  | pending
  | inProgress
  | completed
  | partialSuccess
  | failed
  | unrecognized (value : String)
  deriving DecidableEq

namespace DeploymentStatus

def asWire : DeploymentStatus → String
  | .unknown => "DEPLOY_STATUS_UNKNOWN"
  | .pending => "PENDING"
  | .inProgress => "IN_PROGRESS"
  | .completed => "COMPLETED"
  | .partialSuccess => "PARTIAL_SUCCESS"
  | .failed => "FAILED"
  | .unrecognized value => value

def fromWire (value : String) : DeploymentStatus :=
  if value = "DEPLOY_STATUS_UNKNOWN" then .unknown
  else if value = "PENDING" then .pending
  else if value = "IN_PROGRESS" then .inProgress
  else if value = "COMPLETED" then .completed
  else if value = "PARTIAL_SUCCESS" then .partialSuccess
  else if value = "FAILED" then .failed
  else .unrecognized value

def isTerminal : DeploymentStatus → Bool
  | .completed | .partialSuccess | .failed => true
  | _ => false

def succeeded : DeploymentStatus → Bool
  | .completed => true
  | _ => false

/-- The state as `{:?}` prints it. -/
def debug [Crates] : DeploymentStatus → String
  | .unknown => "Unknown"
  | .pending => "Pending"
  | .inProgress => "InProgress"
  | .completed => "Completed"
  | .partialSuccess => "PartialSuccess"
  | .failed => "Failed"
  | .unrecognized value => "Unrecognized(" ++ Crates.debugStr value ++ ")"

def decode (v : Json) : Option DeploymentStatus := v.asStr.map fromWire

theorem succeeded_iff {s : DeploymentStatus} : s.succeeded = true ↔ s = .completed := by
  cases s <;> simp [succeeded]

end DeploymentStatus

inductive DeviceDeploymentStatus where
  | unknown
  | inProgress
  | completed
  | failed
  | pending
  | skipped
  | ignoredFailure
  | unrecognized (value : String)
  deriving DecidableEq

namespace DeviceDeploymentStatus

def asWire : DeviceDeploymentStatus → String
  | .unknown => "DEVICE_STATUS_UNKNOWN"
  | .inProgress => "DEVICE_STATUS_IN_PROGRESS"
  | .completed => "DEVICE_STATUS_COMPLETED"
  | .failed => "DEVICE_STATUS_FAILED"
  | .pending => "DEVICE_STATUS_PENDING"
  | .skipped => "DEVICE_STATUS_SKIPPED"
  | .ignoredFailure => "DEVICE_STATUS_IGNORED_FAILURE"
  | .unrecognized value => value

def fromWire (value : String) : DeviceDeploymentStatus :=
  if value = "DEVICE_STATUS_UNKNOWN" then .unknown
  else if value = "DEVICE_STATUS_IN_PROGRESS" then .inProgress
  else if value = "DEVICE_STATUS_COMPLETED" then .completed
  else if value = "DEVICE_STATUS_FAILED" then .failed
  else if value = "DEVICE_STATUS_PENDING" then .pending
  else if value = "DEVICE_STATUS_SKIPPED" then .skipped
  else if value = "DEVICE_STATUS_IGNORED_FAILURE" then .ignoredFailure
  else .unrecognized value

def decode (v : Json) : Option DeviceDeploymentStatus := v.asStr.map fromWire

end DeviceDeploymentStatus

structure DeviceStatusEntry where
  deviceId : String
  deviceName : String
  status : DeviceDeploymentStatus
  message : String
  deriving DecidableEq

namespace DeviceStatusEntry

def encode (e : DeviceStatusEntry) : Json :=
  .obj [("device_id", .str e.deviceId), ("device_name", .str e.deviceName),
    ("status", .str e.status.asWire), ("message", .str e.message)]

def decode (v : Json) : Option DeviceStatusEntry := do
  let f ← fields ["device_id", "device_name", "status", "message"] false v
  let deviceId ← required Json.asStr f 0
  let deviceName ← defaulted "" Json.asStr f 1
  let status ← required DeviceDeploymentStatus.decode f 2
  let message ← defaulted "" Json.asStr f 3
  return ⟨deviceId, deviceName, status, message⟩

end DeviceStatusEntry

structure JobStatus where
  status : DeploymentStatus
  deviceDeploymentStatus : List DeviceStatusEntry
  message : String
  previewId : Option String
  deployId : Option String
  deriving DecidableEq

namespace JobStatus

def encode (s : JobStatus) : Json :=
  .obj [("status", .str s.status.asWire),
    ("device_deployment_status", .arr (s.deviceDeploymentStatus.map DeviceStatusEntry.encode)),
    ("message", .str s.message), ("preview_id", encodeOption s.previewId),
    ("deploy_id", encodeOption s.deployId)]

def decode (v : Json) : Option JobStatus := do
  let f ← fields ["status", "device_deployment_status", "message", "preview_id", "deploy_id"]
    false v
  let status ← required DeploymentStatus.decode f 0
  let deviceDeploymentStatus ← defaulted [] (list DeviceStatusEntry.decode) f 1
  let message ← defaulted "" Json.asStr f 2
  let previewId ← defaulted none (nullable Json.asStr) f 3
  let deployId ← defaulted none (nullable Json.asStr) f 4
  return ⟨status, deviceDeploymentStatus, message, previewId, deployId⟩

end JobStatus

structure PreviewResponse where
  previewId : String

def PreviewResponse.decode (v : Json) : Option PreviewResponse := do
  let f ← fields ["preview_id"] false v
  let previewId ← required Json.asStr f 0
  return ⟨previewId⟩

structure DeployResponse where
  deployId : String

def DeployResponse.decode (v : Json) : Option DeployResponse := do
  let f ← fields ["deploy_id"] false v
  let deployId ← required Json.asStr f 0
  return ⟨deployId⟩

/-- Which mutation one NAT write performs. -/
inductive NatWriteOperation where
  | createPolicy
  | updatePolicy
  | deletePolicy
  | createRule
  | updateRule
  | deleteRule
  | createRuleGroup
  | updateRuleGroup
  deriving DecidableEq

def NatWriteOperation.name : NatWriteOperation → String
  | .createPolicy => "create_policy"
  | .updatePolicy => "update_policy"
  | .deletePolicy => "delete_policy"
  | .createRule => "create_rule"
  | .updateRule => "update_rule"
  | .deleteRule => "delete_rule"
  | .createRuleGroup => "create_rule_group"
  | .updateRuleGroup => "update_rule_group"

theorem NatWriteOperation.name_inj {a b : NatWriteOperation} (h : a.name = b.name) : a = b := by
  cases a <;> cases b <;> simp_all [NatWriteOperation.name]

/-! ### Device-sync jobs -/

/-- State of a device inventory sync, which does not share the deploy vocabulary. -/
inductive DeviceSyncStatus where
  | success
  | failure
  | unrecognized (value : String)
  deriving DecidableEq

namespace DeviceSyncStatus

def ofString (value : String) : DeviceSyncStatus :=
  if value = "SUCCESS" then .success
  else if value = "FAILURE" then .failure
  else .unrecognized value

def isTerminal : DeviceSyncStatus → Bool
  | .success | .failure => true
  | .unrecognized _ => false

def succeeded : DeviceSyncStatus → Bool
  | .success => true
  | _ => false

def debug [Crates] : DeviceSyncStatus → String
  | .success => "Success"
  | .failure => "Failure"
  | .unrecognized value => "Unrecognized(" ++ Crates.debugStr value ++ ")"

def decode (v : Json) : Option DeviceSyncStatus := v.asStr.map ofString

end DeviceSyncStatus

structure DeviceSyncEntry where
  uuid : String
  name : String
  status : DeviceSyncStatus
  message : String
  deriving DecidableEq

def DeviceSyncEntry.decode (v : Json) : Option DeviceSyncEntry := do
  let f ← fields ["uuid", "name", "status", "message"] false v
  let uuid ← defaulted "" Json.asStr f 0
  let name ← defaulted "" Json.asStr f 1
  let status ← required DeviceSyncStatus.decode f 2
  let message ← defaulted "" Json.asStr f 3
  return ⟨uuid, name, status, message⟩

structure DeviceSyncJob where
  status : DeviceSyncStatus
  deviceSyncStatus : List DeviceSyncEntry
  deriving DecidableEq

namespace DeviceSyncJob

def decode (v : Json) : Option DeviceSyncJob := do
  let f ← fields ["status", "device_sync_status"] false v
  let status ← required DeviceSyncStatus.decode f 0
  let deviceSyncStatus ← defaulted [] (list DeviceSyncEntry.decode) f 1
  return ⟨status, deviceSyncStatus⟩

/-- Devices that did not sync, as `uuid: message` pairs. -/
def failures (job : DeviceSyncJob) : List String :=
  (job.deviceSyncStatus.filter fun entry => !entry.status.succeeded).map fun entry =>
    (if entry.uuid = "" then entry.name else entry.uuid) ++ ": " ++ entry.message

theorem failures_eq_nil {job : DeviceSyncJob} :
    job.failures = [] ↔ ∀ entry ∈ job.deviceSyncStatus, entry.status = .success := by
  unfold failures
  rw [List.map_eq_nil_iff, List.filter_eq_nil_iff]
  refine forall₂_congr fun entry _ => ?_
  cases entry.status <;> simp [DeviceSyncStatus.succeeded]

end DeviceSyncJob

/-! ### Errors -/

/-- Client failures that a modelled function can raise. -/
inductive SdcError where
  | urlConstruction
  | invalidCredentialHeader
  | transport
  | bodyTransfer
  | timeout
  | responseTooLarge (limit : Nat)
  | invalidJson
  | list (error : ListRequestError)
  | api (status : Nat) (code message : String)
  | resourceExhausted
  | invalidIdentifier (field : String)
  | invalidInput (message : String)
  | preparedChange (message : String)
  | serialization
  | cancelled
  | jobDeadline
  | jobFailed (status : DeploymentStatus)
  | changeControl (message : String)
  | mutationOutcomeUnknown
  | targetDrifted
  deriving DecidableEq

/-- The text a caller sees. -/
def SdcError.display [Crates] : SdcError → String
  | .urlConstruction => "failed to construct an SDC request URL"
  | .invalidCredentialHeader => "SDC credential is not a valid HTTP header value"
  | .transport => "SDC request transmission failed"
  | .bodyTransfer => "SDC response body transfer failed"
  | .timeout => "SDC request timed out"
  | .responseTooLarge limit => "SDC response exceeds the " ++ toString limit ++ "-byte limit"
  | .invalidJson => "SDC response is not valid JSON"
  | .list error => "page size must be between 1 and " ++ toString error.maxSize
  | .api status code message =>
      "SDC API error " ++ toString status ++ " (" ++ code ++ "): " ++ message
  | .resourceExhausted =>
      "SDC resource exhausted: request was rate limited or the service response was too large; "
        ++ "retry only after operator review"
  | .invalidIdentifier field => field ++ " must be 1-256 non-whitespace bytes"
  | .invalidInput message => message
  | .preparedChange message => "invalid prepared change: " ++ message
  | .serialization => "failed to serialize SDC request"
  | .cancelled => "SDC operation was cancelled"
  | .jobDeadline => "SDC job outcome is indeterminate because the polling deadline elapsed"
  | .jobFailed status => "SDC job ended with " ++ status.debug
  | .changeControl message => "SDC change control failed: " ++ message
  | .mutationOutcomeUnknown =>
      "SDC accepted the write but its response could not be read; the change may have been applied"
  | .targetDrifted =>
      "object changed since it was prepared; re-prepare to see the current state"

/-- What can be wrong with a prepared deploy. -/
inductive PreparedError where
  | invalidField (field : String) (maximum : Nat)
  | operation
  | targets
  | digest
  | serialization
  | tooLarge
  deriving DecidableEq

def PreparedError.display : PreparedError → String
  | .invalidField field maximum =>
      field ++ " must be 1-" ++ toString maximum ++ " non-whitespace bytes"
  | .operation => "prepared operation must be policy_deploy"
  | .targets => "prepared targets must contain 1-4096 unique canonical entries"
  | .digest => "prepared preview does not match its digest"
  | .serialization => "prepared change could not be serialized"
  | .tooLarge => "prepared change exceeds the 8388608-byte limit"

end SdcMcp
