/-
Policy deploys: preparing one in `client.rs`, and its transaction in `change.rs`.

A deploy is bound to a finished preview.  Its transaction does not read anything
back; what it checks is the stored envelope.
-/
import SdcMcp.Model.Transaction

namespace SdcMcp

open Interactive

variable [Crates]

/-- A failure of the envelope as the client reports it. -/
def preparedError (error : PreparedError) : SdcError := .preparedChange error.display

def targetKind : TargetType → String
  | .device => "device"
  | .deviceGroup => "device_group"

/-- Adjacent duplicates removed. -/
def dedupTargets (targets : List SdcPreparedTarget) : List SdcPreparedTarget :=
  targets.destutter (· ≠ ·)

/-- The set of targets an approver is shown. -/
def preparedTargets (request : PreviewRequest) : Except SdcError (List SdcPreparedTarget) := do
  let targets ← (request.policies.flatMap fun operation =>
      operation.deployTargets ++ operation.undeployTargets).mapM fun target =>
    (SdcPreparedTarget.new (targetKind target.targetType) target.targetId).mapError preparedError
  return dedupTargets (sortTargets targets)

/-- Reads the result of each device of a finished preview, in order. -/
def deviceResults (client : SdcClient) (previewId : String) :
    List DeviceStatusEntry → Io (List Value)
  | [] => return []
  | device :: rest => do
      let result ← previewDeviceResult client previewId device.deviceId
      let results ← deviceResults client previewId rest
      return result :: results

/-- The artifact an approver reviews. -/
def previewArtifact (request : PreviewRequest) (status : JobStatus) (results : List Value) : Json :=
  .obj [("preview_request", request.encode), ("status", status.encode),
    ("device_results", .arr (results.map Value.tree))]

def preparePolicyDeploy (client : SdcClient) (policies : List PolicyOperation) :
    Io SdcPreparedChange := do
  Run.lift (validatePolicyOperations policies)
  let previewRequest : PreviewRequest := ⟨policies⟩
  let response ← post client PreviewResponse.decode ["api", "v1", "policies", "preview"]
    previewRequest.encode
  Run.lift (validateAtom "preview_id" response.previewId)
  let status ← pollJob client .preview response.previewId
  if !status.status.succeeded then Run.fail (.jobFailed status.status)
  else
    let results ← deviceResults client response.previewId status.deviceDeploymentStatus
    let targets ← Run.lift (preparedTargets previewRequest)
    let deployRequest := DeployRequest.ofPreview previewRequest
    Run.lift ((SdcPreparedChange.new targets deployRequest.encode.toValue
      (previewArtifact previewRequest status results).toValue response.previewId).mapError
        preparedError)

structure ValidationReport where
  valid : Bool
  previewJobId : Option String
  status : DeploymentStatus

namespace SdcTransaction

def stage (expectedPreviewDigest : String) :
    List SdcPreparedChange → Except SdcError SdcPreparedChange
  | [prepared] => do
      prepared.validate.mapError preparedError
      if prepared.operation = "policy_deploy" && prepared.previewDigest = expectedPreviewDigest then
        return prepared
      else
        throw (.preparedChange "expected_preview_digest does not match the prepared change")
  | _ => .error (.invalidInput "an SDC transaction requires exactly one prepared change")

/-- What is staged is valid, and bound to the expected digest. -/
theorem stage_ok {expectedPreviewDigest : String} {prepared : SdcPreparedChange}
    (hvalid : prepared.validate = .ok ()) (hdigest : prepared.previewDigest = expectedPreviewDigest)
    (hoperation : prepared.operation = "policy_deploy") :
    stage expectedPreviewDigest [prepared] = .ok prepared := by
  unfold stage
  simp only [hvalid, hoperation, hdigest]
  rfl

/-- The terminal status in the preview artifact. -/
def terminalStatus (staged : SdcPreparedChange) : Except SdcError JobStatus :=
  match staged.preview.get "status" with
  | none => .error (.preparedChange "preview artifact is missing terminal status")
  | some status =>
      match JobStatus.decode status.tree with
      | some status => .ok status
      | none => .error (.preparedChange "preview artifact has invalid terminal status")

def validateReport (staged : SdcPreparedChange) : Except SdcError ValidationReport := do
  let status ← terminalStatus staged
  if !status.status.succeeded then throw (.jobFailed status.status)
  return ⟨true, some staged.previewJobId, status.status⟩

def validate (staged : SdcPreparedChange) : Io ValidationReport :=
  Run.lift (validateReport staged)

/-- The disposition of a deploy. -/
def reconcileDeploy :
    Except SdcError (String × JobStatus) → Except SdcError CommitOutcome
  | .ok (jobId, status) =>
      .ok (.reconciled status.status.succeeded (some jobId)
        (some ("SDC deployment ended with " ++ status.status.debug)))
  | .error .jobDeadline =>
      .ok (.indeterminate
        "SDC deployment was submitted but its terminal outcome was not observed")
  | .error .cancelled =>
      .ok (.indeterminate
        "SDC deployment was submitted but its terminal outcome was not observed")
  | .error error => .error error

/-- The deploy request in the envelope. -/
def deployRequest (staged : SdcPreparedChange) : Except SdcError DeployRequest :=
  match DeployRequest.decode staged.request.tree with
  | some request => .ok request
  | none => .error (.preparedChange "deploy request is invalid")

def commit (client : SdcClient) (staged : SdcPreparedChange) (options : CommitOptions) :
    Io CommitOutcome := do
  if options.confirmTimeout.isSome then
    Run.fail (.invalidInput "SDC does not support confirmed deployment")
  else
    let request ← Run.lift (deployRequest staged)
    let result ← (deployPrepared client request).observe
    Run.lift (reconcileDeploy result)

end SdcTransaction

def sdcTransaction (client : SdcClient) (expectedPreviewDigest : String) :
    Transaction SdcPreparedChange ValidationReport where
  stage := SdcTransaction.stage expectedPreviewDigest
  diff := SdcPreparedChange.preview
  validate := SdcTransaction.validate
  commit := SdcTransaction.commit client

end SdcMcp
