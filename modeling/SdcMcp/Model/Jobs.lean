/-
The job half of `client.rs`: writes that start a job, and the loops that wait for it.

Both polling loops have one shape: probe, stop at a terminal state, otherwise sleep
for an interval that doubles up to a maximum, all of it raced against one deadline.
The loop is written with fuel.  A pass that does not end it sleeps at least the
initial interval and ends by the deadline, so `deadline / initial + 1` passes are
enough; `Proofs/Poll.lean` shows that more fuel changes nothing.
-/
import SdcMcp.Model.Calls

namespace SdcMcp

open Interactive

variable [Crates]

/-! ### Polling -/

/-- Up to `fuel` passes of a polling loop. -/
def pollFrom {α : Type} (client : SdcClient) (probe : Option Nat → Io α) (isTerminal : α → Bool)
    (deadline interval : Nat) : Nat → Io α
  | 0 => Run.fail .jobDeadline
  | fuel + 1 => do
      let status ← probe (some deadline)
      if isTerminal status then return status
      else
        pause (some deadline) interval
        pollFrom client probe isTerminal deadline (min (interval * 2) client.poll.maximum) fuel

def pollFuel (settings : PollSettings) : Nat := settings.deadline / settings.initial + 1

def poll {α : Type} (client : SdcClient) (probe : Option Nat → Io α) (isTerminal : α → Bool) :
    Io α := do
  let now ← Run.ask fun _ history => clock history
  pollFrom client probe isTerminal (now + client.poll.deadline) client.poll.initial
    (pollFuel client.poll)

inductive JobKind where
  | preview
  | deploy
  | installLicense
  | installCaCertificate
  | installLocalCertificate
  | deleteCertificate
  deriving DecidableEq

def jobStatus (client : SdcClient) : JobKind → Option Nat → String → Io JobStatus
  | .preview => previewStatus client
  | .deploy => deployStatus client
  | .installLicense => installLicenseStatus client
  | .installCaCertificate => installCaCertificateStatus client
  | .installLocalCertificate => installLocalCertificateStatus client
  | .deleteCertificate => deleteCertificateStatus client

def pollJob (client : SdcClient) (kind : JobKind) (jobId : String) : Io JobStatus :=
  poll client (fun race => jobStatus client kind race jobId) fun status => status.status.isTerminal

def pollDeviceSync (client : SdcClient) (syncId : String) : Io DeviceSyncJob :=
  poll client (fun race => syncDevicesStatus client race syncId) fun job => job.status.isTerminal

/-! ### License and certificate jobs -/

/-- One write that starts a device job. -/
structure JobCall where
  call : WriteCall
  kind : JobKind
  /-- The text when the answer names no job. -/
  missing : String

/-- The job a write response names. -/
def JobCall.jobId (job : JobCall) (response : Value) : Except SdcError String := do
  let response ← match JobStatus.decode response.tree with
    | some response => .ok response
    | none => .error .serialization
  let jobId ← match response.deployId with
    | some jobId => .ok jobId
    | none => .error (.invalidInput job.missing)
  validateAtom "job_id" jobId
  return jobId

def JobCall.run (client : SdcClient) (job : JobCall) : Io (String × DeploymentStatus) := do
  let response ← job.call.run client
  let jobId ← Run.lift (job.jobId response)
  let status ← pollJob client job.kind jobId
  return (jobId, status.status)

/-- A `POST` of a body to one operation of a device. -/
def deviceCall (deviceUuid operation : String) (body : Value) : WriteCall where
  method := .post
  atoms := [("device_uuid", deviceUuid)]
  segments := ["api", "v1", "devices", deviceUuid, operation]
  body := some body

def installLicense (deviceUuid : String) (body : Value) : JobCall where
  call := deviceCall deviceUuid "install_license" body
  kind := .installLicense
  missing := "install_license response missing job id"

def installCaCertificate (deviceUuid : String) (body : Value) : JobCall where
  call := deviceCall deviceUuid "install_ca_certificate" body
  kind := .installCaCertificate
  missing := "install_ca_certificate response missing job id"

def installLocalCertificate (deviceUuid : String) (body : Value) : JobCall where
  call := deviceCall deviceUuid "install_local_certificate" body
  kind := .installLocalCertificate
  missing := "install_local_certificate response missing job id"

def deleteCertificate (deviceUuid : String) (body : Value) : JobCall where
  call := deviceCall deviceUuid "delete_certificate" body
  kind := .deleteCertificate
  missing := "delete_certificate response missing job id"

/-! ### Device sync -/

/-- A sync that failed, and whether SDC had been asked for it. -/
inductive DeviceSyncFailure where
  | beforeSubmit (error : SdcError)
  | afterSubmit (syncId : Option String) (source : SdcError)

namespace DeviceSyncFailure

def fromSubmit : SdcError → DeviceSyncFailure
  | .mutationOutcomeUnknown => .afterSubmit none .mutationOutcomeUnknown
  | .cancelled => .afterSubmit none .cancelled
  | error => .beforeSubmit error

def display : DeviceSyncFailure → String
  | .beforeSubmit error => error.display
  | .afterSubmit (some syncId) source =>
      source.display ++ "; the sync was accepted as " ++ syncId
        ++ " and may still be running — query GET /api/v1/devices/sync/" ++ syncId
  | .afterSubmit none source =>
      source.display ++ "; the request was dispatched and its acceptance could not be read, "
        ++ "so a sync may be running under an unknown id"

end DeviceSyncFailure

def syncBody (deviceUuids : List String) : Value where
  tree := .obj [("uuids", .arr (deviceUuids.map Json.str))]
  distinct := by simp

/-- The checks of `sync_devices` before it sends anything. -/
def validateDevices (deviceUuids : List String) : Except SdcError Unit :=
  if deviceUuids.isEmpty then
    .error (.invalidInput "device sync requires at least one device UUID")
  else deviceUuids.forM (validateAtom "device_uuid")

/-- The job a sync response names. -/
def syncId (response : Value) : Except SdcError String := do
  let syncId ← match (response.get "sync_id").bind fun v => v.tree.asStr with
    | some syncId => .ok syncId
    | none => .error (.invalidInput "device sync response missing sync_id")
  validateAtom "sync_id" syncId
  return syncId

def syncDevices (client : SdcClient) (deviceUuids : List String) :
    Run Env Event DeviceSyncFailure (String × DeviceSyncJob) := do
  Run.lift ((validateDevices deviceUuids).mapError .beforeSubmit)
  let response ← (sendWrite client .post ["api", "v1", "devices", "sync"]
    (some (syncBody deviceUuids))).mapErr .fromSubmit
  let syncId ← Run.lift ((syncId response).mapError (.afterSubmit none))
  match ← (pollDeviceSync client syncId).observe with
  | .ok job => return (syncId, job)
  | .error source => Run.fail (.afterSubmit (some syncId) source)

/-! ### Deploy -/

def deployPrepared (client : SdcClient) (request : DeployRequest) : Io (String × JobStatus) := do
  let response ← post client DeployResponse.decode ["api", "v1", "policies", "deploy"]
    request.encode
  Run.lift (validateAtom "deploy_id" response.deployId)
  let status ← pollJob client .deploy response.deployId
  return (response.deployId, status)

end SdcMcp
