/-
Applying an approved write, `change.rs`.

The coordinator that keeps the change sets is a separate crate.  Here it is a
parameter: it hands the stored actions of a change set to `stage`, and for each of
`diff`, `validate` and `commit` it either fails without calling the transaction,
relays the answer with an error flattened into a string, or calls the transaction
and fails afterwards, whatever came of the call.

The five `apply` functions of writes differ in their transaction and in two texts.
That of policy deploys has no text: whatever fails, its operation is left as it is.
-/
import SdcMcp.Model.Deploy
import SdcMcp.Model.ObjectWrite
import SdcMcp.Model.FirewallWrite
import SdcMcp.Model.NatWrite
import SdcMcp.Model.LicenseWrite
import SdcMcp.Model.DeviceSync

namespace SdcMcp

open Interactive

/-- What the coordinator makes of one call of a transaction. -/
inductive Conduct where
  | refuses (error : String)
  | relays
  | breaks (error : String)

structure Coordinator (α : Type) where
  /-- An error of a transaction as a string. -/
  flatten : SdcError → String
  /-- The operation of a change set and the actions stored in it. -/
  changeSet : List Event → Except String (String × List α)
  apply : List Event → Conduct
  diff : List Event → Conduct
  validate : List Event → Conduct
  commit : List Event → Conduct
  discard : List Event → Except String Unit

namespace Coordinator

variable {α β : Type}

/-- One call of the transaction through the coordinator. -/
def relay (coordinator : Coordinator α) (conduct : List Event → Conduct) (call : Io β) :
    Run Env Event String β := do
  match ← Run.ask fun _ history => conduct history with
  | .refuses error => Run.fail error
  | .relays => call.mapErr coordinator.flatten
  | .breaks error => do
      let _ ← call.settle
      Run.fail error

/-- Hands the stored actions to `stage` and keeps what it staged. -/
def applyChangeSet (coordinator : Coordinator α) (stage : List α → Except SdcError α) :
    Run Env Event String (String × α) := do
  let stored ← Run.ask fun _ history => coordinator.changeSet history
  let (operationId, actions) ← Run.lift stored
  let staged ← coordinator.relay coordinator.apply (Run.lift (stage actions))
  return (operationId, staged)

end Coordinator

/-- The `refused_before_write` flag of the transaction at work: the last value stored. -/
def refusedBeforeWrite (history : List Event) : Bool :=
  history.foldl (fun flag event =>
    match event with
    | .markRefused value => value
    | _ => flag) false

structure ApplyResult (β : Type) where
  operationId : String
  plan : Value
  validation : β
  outcome : CommitOutcome

/-- What a caller is told about a discarded operation. -/
structure ReleaseTexts where
  released : String
  stuck : String

def releaseUnwritten {α : Type} (texts : ReleaseTexts) (coordinator : Coordinator α)
    (operationId : String) : Io String := do
  Run.emit (.discarded operationId)
  match ← Run.ask fun _ history => coordinator.discard history with
  | .ok () => return texts.released
  | .error error => return texts.stuck ++ error

/-- Reports a failure after releasing the operation. -/
def releaseAndFail {α β : Type} (texts : ReleaseTexts) (coordinator : Coordinator α)
    (operationId error : String) : Io β := do
  let detail ← releaseUnwritten texts coordinator operationId
  Run.fail (.changeControl (error ++ "; " ++ detail))

/-- Diff, validation and commit of a staged operation. -/
def applyStaged {α β : Type} (texts : ReleaseTexts) (coordinator : Coordinator α)
    (transaction : Transaction α β) (operationId : String) (staged : α) : Io (ApplyResult β) := do
  let plan ← (coordinator.relay coordinator.diff (return transaction.diff staged)).mapErr
    .changeControl
  match ← (coordinator.relay coordinator.validate (transaction.validate staged)).observe with
  | .error error => releaseAndFail texts coordinator operationId error
  | .ok validation =>
      match ← (coordinator.relay coordinator.commit (transaction.commit staged ⟨none⟩)).observe with
      | .ok outcome => return ⟨operationId, plan, validation, outcome⟩
      | .error error =>
          -- Only a refusal before anything was sent may be discarded.
          if ← Run.ask fun _ history => refusedBeforeWrite history then
            releaseAndFail texts coordinator operationId error
          else Run.fail (.changeControl error)

def applyWrite {α β : Type} (texts : ReleaseTexts) (coordinator : Coordinator α)
    (transaction : Transaction α β) : Io (ApplyResult β) := do
  -- A new transaction starts with its flag cleared.
  Run.emit (.markRefused false)
  let (operationId, staged) ← (coordinator.applyChangeSet transaction.stage).mapErr .changeControl
  applyStaged texts coordinator transaction operationId staged

/-! ### The five kinds -/

def objectTexts : ReleaseTexts :=
  ⟨"the planned write was discarded",
    "the planned write also could not be discarded and needs manual resolution: "⟩

def firewallTexts : ReleaseTexts :=
  ⟨"the planned firewall write was discarded",
    "the planned firewall write also could not be discarded and needs manual resolution: "⟩

def natTexts : ReleaseTexts :=
  ⟨"the planned NAT write was discarded",
    "the planned NAT write also could not be discarded and needs manual resolution: "⟩

def licenseTexts : ReleaseTexts :=
  ⟨"the planned license write was discarded",
    "the planned license write also could not be discarded and needs manual resolution: "⟩

def deviceSyncTexts : ReleaseTexts :=
  ⟨"the planned device sync was discarded",
    "the planned device sync could not be discarded: "⟩

variable [Crates]

def applyObjectWrite (client : SdcClient) (coordinator : Coordinator SdcPreparedObjectWrite)
    (expectedPlanDigest : String) : Io (ApplyResult ObjectValidationReport) :=
  applyWrite objectTexts coordinator (sdcObjectTransaction client expectedPlanDigest)

def applyFirewallWrite (client : SdcClient) (coordinator : Coordinator SdcPreparedFirewallWrite)
    (expectedPlanDigest : String) : Io (ApplyResult FirewallValidationReport) :=
  applyWrite firewallTexts coordinator (sdcFirewallTransaction client expectedPlanDigest)

def applyNatWrite (client : SdcClient) (coordinator : Coordinator SdcPreparedNatWrite)
    (expectedPlanDigest : String) : Io (ApplyResult NatValidationReport) :=
  applyWrite natTexts coordinator (sdcNatTransaction client expectedPlanDigest)

def applyLicenseWrite (client : SdcClient) (coordinator : Coordinator SdcPreparedLicenseWrite)
    (expectedPlanDigest : String) : Io (ApplyResult LicenseValidationReport) :=
  applyWrite licenseTexts coordinator (sdcLicenseTransaction client expectedPlanDigest)

def applyDeviceSync (client : SdcClient) (coordinator : Coordinator SdcPreparedDeviceSync)
    (expectedPlanDigest : String) : Io (ApplyResult DeviceSyncValidationReport) :=
  applyWrite deviceSyncTexts coordinator (sdcDeviceSyncTransaction client expectedPlanDigest)

/-! ### Policy deploys -/

/-- `ChangeManager::apply`. -/
def applyPolicyDeploy (client : SdcClient) (coordinator : Coordinator SdcPreparedChange)
    (expectedPreviewDigest : String) : Io (ApplyResult ValidationReport) :=
  let transaction := sdcTransaction client expectedPreviewDigest
  let applied : Run Env Event String (ApplyResult ValidationReport) := do
    let (operationId, staged) ← coordinator.applyChangeSet transaction.stage
    let preview ← coordinator.relay coordinator.diff (return transaction.diff staged)
    let validation ← coordinator.relay coordinator.validate (transaction.validate staged)
    let outcome ← coordinator.relay coordinator.commit (transaction.commit staged ⟨none⟩)
    return ⟨operationId, preview, validation, outcome⟩
  applied.mapErr .changeControl

end SdcMcp
