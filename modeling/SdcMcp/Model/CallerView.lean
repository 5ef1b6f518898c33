/-
What a caller is shown of a license or certificate write.

The state a write is planned against is read from the endpoints that the read tools
project, so it is projected on its way out.  What is stored and digested stays raw.  A
state that cannot be projected is withheld and the call does not fail, since the change
set already exists or the write already happened.
-/
import SdcMcp.Model.ChangeManager
import SdcMcp.Model.Prepare
import SdcMcp.Model.Projection
import SdcMcp.Model.Stored

namespace SdcMcp

open Interactive

/-- One half of the state of a delete; a missing half is shown as missing. -/
def projectHalf (project : Value → Except SdcError Value) : Option Value → Except SdcError Value
  | some value => project value
  | none => .ok Value.null

/-- `project_before`: the captured state, projected as the read tools do it. -/
def projectBefore (action : LicenseWriteOperation) (before : Value) : Except SdcError Value :=
  if before.tree.isNull then .ok Value.null
  else
    match action with
    | .installLicense => projectLicenses before
    | .installCaCertificate => projectCaCertificates before
    | .installLocalCertificate => projectLocalCertificates before
    | .deleteCertificate =>
        match before.asObject with
        | none =>
            .error (.preparedChange "certificate delete before-state must be an object")
        | some object => do
            let caCerts ← projectHalf projectCaCertificates (object.get "ca_certificates")
            let localCerts ← projectHalf projectLocalCertificates (object.get "local_certificates")
            return SdcLicenseTransaction.certificates caCerts localCerts

/-- What is shown in place of a state that cannot be projected. -/
def withheld (reason : String) : Value :=
  .object ((Map.empty.insert "withheld"
    (.string "before-state could not be projected onto the read-path allowlist")).insert
      "reason" (.string reason))

variable [Crates]

def projectedOrWithheld (action : LicenseWriteOperation) (before : Value) : Value :=
  match projectBefore action before with
  | .ok projected => projected
  | .error error => withheld error.display

def SdcPreparedLicenseWrite.callerView (p : SdcPreparedLicenseWrite) : Except SdcError Value :=
  let value := p.encode.toValue
  match value.asObject with
  | some object =>
      .ok (.object (object.insert "before" (projectedOrWithheld p.action p.before)))
  | none => .ok value

/-! ### Results -/

def LicensePrepareResult.callerView (result : LicensePrepareResult) : Except SdcError Value := do
  let preparedChange ← result.preparedChange.callerView
  return .object ((Map.empty.insert "change_set" result.changeSet.encoded).insert
    "prepared_change" preparedChange)

omit [Crates] in
def LicenseValidationReport.encode (report : LicenseValidationReport) : Value where
  tree := .obj [("valid", .bool report.valid), ("action", .str report.action.name),
    ("target_unchanged", .bool report.targetUnchanged)]
  distinct := by simp

omit [Crates] in
/-- The result of applying a license write, as it is serialised. -/
def licenseApplyResult (encodeOutcome : CommitOutcome → Value)
    (result : ApplyResult LicenseValidationReport) : Map :=
  (((Map.empty.insert "operation_id" (.string result.operationId)).insert "plan"
    result.plan).insert "validation" result.validation.encode).insert "outcome"
      (encodeOutcome result.outcome)

/-- `LicenseApplyResult::caller_view`; the plan itself names the action that selects the list. -/
def ApplyResult.callerView (encodeOutcome : CommitOutcome → Value)
    (result : ApplyResult LicenseValidationReport) : Except SdcError Value :=
  let action := (result.plan.get "action").bind fun value =>
    LicenseWriteOperation.decode value.tree
  let value := licenseApplyResult encodeOutcome result
  let before := (result.plan.get "before").getD Value.null
  let projected := match action with
    | some action => projectedOrWithheld action before
    | none => withheld "plan does not name a license write action"
  match (value.get "plan").bind Value.asObject with
  | some plan => .ok (.object (value.insert "plan" (.object (plan.insert "before" projected))))
  | none => .ok (.object value)

/-- A stored action as a caller sees it; every kind without an allowlist is shown as it is.
`serdeError` is the text of the decoder's error. -/
def preparedAction (serdeError : Value → String) (action : Value) : Except SdcError Value :=
  match (action.get "operation").bind fun operation => operation.tree.asStr with
  | some operation =>
      if operation = "license_write" then
        match SdcPreparedLicenseWrite.decode action.tree with
        | some prepared => prepared.callerView
        | none =>
            .error (.changeControl
              ("failed to deserialize prepared license write: " ++ serdeError action))
      else .ok action
  | none => .error (.changeControl "staged change does not name an operation")

/-- `ChangeManager::prepared_change` on the actions stored in a change set. -/
def preparedChange (serdeError : Value → String) (record : Except String (List Value)) :
    Except SdcError Value := do
  let actions ← record.mapError .changeControl
  match actions with
  | [] => throw (.changeControl "change set has no actions")
  | action :: _ => preparedAction serdeError action

end SdcMcp
