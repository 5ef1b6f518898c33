/-
The handler of `server.rs`, and the start of the process in `main.rs`.

A call is authorized first, then it is run, and what it answers goes through the scan for
credentials.  The check of a token's scopes and the scan are separate crates and are
parameters here.  What the coordinator answers is a parameter too, one for each kind of
change set and each call of `apply`.

A process that came to serve has calls running side by side, each against a world that the
others change; what one of them does is `SdcHandler.handle` under an environment and a
history of its own.
-/
import SdcMcp.Model.CallerView
import SdcMcp.Model.Config
import SdcMcp.Model.Paging
import SdcMcp.Model.Redact
import SdcMcp.Model.Tools

namespace SdcMcp

open Interactive

/-! ### Authorization -/

/-- What a token may reach. -/
inductive ScopeSet where
  | wildcard
  | allowlist (names : List String)
  deriving DecidableEq

/-- The authenticated bearer of a token. -/
structure CallerCtx where
  tokenName : String
  devices : ScopeSet
  tools : ScopeSet

/-- What the crates around the handler compute. -/
class HandlerCrates where
  /-- `authorize_call`: a caller's scopes against a tool and a target, where some tools are not
  reached by a wildcard. -/
  authorizeCall : Option CallerCtx → String → Option String → List String → Except String Unit
  redactSecrets : Value → Value
  /-- An outcome of a commit, as it is serialised. -/
  encodeOutcome : CommitOutcome → Value
  /-- The text of a decoder's error. -/
  serdeError : Value → String

section Authorization

variable [HandlerCrates]

def authorizeRequest (caller : Option CallerCtx) (tool tenant configuredTenant : String) :
    Except String Unit := do
  if caller.isNone ∧ tool ∈ WRITE_TOOLS then
    throw "SDC write tools require an authenticated bearer token"
  HandlerCrates.authorizeCall caller tool (some tenant) WILDCARD_EXCLUDED_TOOLS
  if tenant ≠ configuredTenant then
    throw "requested tenant is not configured or authorized"

end Authorization

/-- The owner of what a call creates. -/
def owner (caller : Option CallerCtx) : String :=
  (caller.map CallerCtx.tokenName).getD "stdio"

/-! ### Change control -/

/-- The coordinator as the handler sees it: for a planner, for an application of a change set by
an owner, and for the calls that only pass through. -/
structure ChangeManager where
  sets : ChangeSets
  policyDeploys : String → ApplyArgs → Coordinator SdcPreparedChange
  objectWrites : String → ApplyArgs → Coordinator SdcPreparedObjectWrite
  firewallWrites : String → ApplyArgs → Coordinator SdcPreparedFirewallWrite
  natWrites : String → ApplyArgs → Coordinator SdcPreparedNatWrite
  licenseWrites : String → ApplyArgs → Coordinator SdcPreparedLicenseWrite
  deviceSyncs : String → ApplyArgs → Coordinator SdcPreparedDeviceSync
  /-- Approves a change set: its id, its approver and its digest. -/
  approveChangeSet : List Event → String → String → String → Except String ChangeSetOutput
  changeSetStatus : List Event → String → Except String ChangeSetOutput
  /-- The actions stored in a change set. -/
  changeSet : List Event → String → Except String (List Value)
  /-- Discards an operation: its id, its owner and its fingerprint. -/
  discardOperation : List Event → String → String → String → Except String String

namespace ChangeManager

def approve (changes : ChangeManager) (changeSetId approver expectedDigest : String) :
    Io ChangeSetOutput := do
  let approved ← Run.ask fun _ history =>
    changes.approveChangeSet history changeSetId approver expectedDigest
  Run.lift (approved.mapError .changeControl)

def status (changes : ChangeManager) (changeSetId : String) : Io ChangeSetOutput := do
  let status ← Run.ask fun _ history => changes.changeSetStatus history changeSetId
  Run.lift (status.mapError .changeControl)

def discard (changes : ChangeManager) (operationId owner expectedFingerprint : String) :
    Io String := do
  Run.emit (.discarded operationId)
  let discarded ← Run.ask fun _ history =>
    changes.discardOperation history operationId owner expectedFingerprint
  Run.lift (discarded.mapError .changeControl)

end ChangeManager

/-! ### What a call answers -/

inductive ToolError where
  | denied (text : String)
  | sdc (error : SdcError)
  /-- The client's error for a page that cannot be cut. -/
  | page (error : PageError)

def usizeValue (n : Nat) : Value := ⟨Serde.encodeUnsigned n, trivial⟩

def ListPage.encode (page : ListPage) : Value :=
  .object ((((Map.empty.insert "items" (.array page.items)).insert "page_item_count"
    (usizeValue page.pageItemCount)).insert "total_item_count"
      (usizeValue page.totalItemCount)).insert "continuation_token"
        ((page.continuationToken.map Value.string).getD Value.null))

def prepareResult (changeSet : ChangeSetOutput) (preparedChange : Json) : Value :=
  .object ((Map.empty.insert "change_set" changeSet.encoded).insert "prepared_change"
    preparedChange.toValue)

/-- The result of an application; a policy deploy calls its plan a preview. -/
def applyResult {β : Type} (encodeOutcome : CommitOutcome → Value) (plan : String)
    (encodeReport : β → Value) (result : ApplyResult β) : Value :=
  .object ((((Map.empty.insert "operation_id" (.string result.operationId)).insert plan
    result.plan).insert "validation" (encodeReport result.validation)).insert "outcome"
      (encodeOutcome result.outcome))

/-- The report on one target: `valid`, the name of the action and whether the target moved. -/
def encodeReport (valid : Bool) (action : String) (targetUnchanged : Bool) : Value where
  tree := .obj [("valid", .bool valid), ("action", .str action),
    ("target_unchanged", .bool targetUnchanged)]
  distinct := by simp

def ValidationReport.encode (report : ValidationReport) : Value :=
  .object (((Map.empty.insert "valid" ⟨.bool report.valid, trivial⟩).insert "preview_job_id"
    ((report.previewJobId.map Value.string).getD Value.null)).insert "status"
      (.string report.status.asWire))

def DeviceSyncValidationReport.encode (report : DeviceSyncValidationReport) : Value :=
  .object (((Map.empty.insert "valid" ⟨.bool report.valid, trivial⟩).insert "device_count"
    (usizeValue report.deviceCount)).insert "targets_unchanged"
      ⟨.bool report.targetsUnchanged, trivial⟩)

/-! ### Calls -/

/-- The handler of one configured tenant. -/
structure SdcHandler where
  tenant : String
  client : SdcClient
  listPageBudgetBytes : Nat
  changes : ChangeManager

structure Call where
  caller : Option CallerCtx
  tenant : String
  tool : ToolCall

variable [Crates]

/-- What a read tool makes of what it read. -/
def ReadTool.present (listPageBudgetBytes : Nat) (paging : PageArgs) (value : Value) :
    ReadTool → Except ToolError Value
  | .listSdcConfigVersions _ =>
      let fields := if paging.fields.isEmpty then none else some paging.fields
      match pageList value "items" fields paging.continuationToken listPageBudgetBytes with
      | .ok page => .ok page.encode
      | .error error => .error (.page error)
  | .getSdcRmaState _ => .ok (redactRmaState value)
  | _ => .ok value

/-- A read whose result is projected. -/
def projectedCall (read : Io Value) (project : Value → Except SdcError Value) : Io Value := do
  let value ← read
  Run.lift (project value)

/-- `list_users_and_roles` of the client. -/
def listUsersAndRoles (client : SdcClient) (usersPage rolesPage : ListRequest) : Io Value := do
  let users ← listUsers client usersPage
  let roles ← listRoles client rolesPage
  return .object ((Map.empty.insert "users" users).insert "roles" roles)

variable [HandlerCrates]

/-- What a tool does once its caller is authorized. -/
def ToolCall.io (handler : SdcHandler) (owner : String) : ToolCall → Io Value
  | .read tool _ => tool.read handler.client
  | .listSdcCaCertificates from_ size =>
      pageRead handler.client from_ size fun page =>
        projectedCall (listCaCertificates handler.client page) projectCaCertificates
  | .listSdcLocalCertificates from_ size =>
      pageRead handler.client from_ size fun page =>
        projectedCall (listLocalCertificates handler.client page) projectLocalCertificates
  | .listSdcDeviceCaCertificates deviceUuid from_ size =>
      pageRead handler.client from_ size fun page =>
        projectedCall (listDeviceCaCertificates handler.client deviceUuid page)
          projectCaCertificates
  | .listSdcDeviceLocalCertificates deviceUuid from_ size =>
      pageRead handler.client from_ size fun page =>
        projectedCall (listDeviceLocalCertificates handler.client deviceUuid page)
          projectLocalCertificates
  | .listSdcLicenses deviceUuid from_ size =>
      pageRead handler.client from_ size fun page =>
        projectedCall (listLicenses handler.client deviceUuid page) projectLicenses
  | .getSdcLicense deviceUuid licenseUuid =>
      projectedCall (getLicense handler.client deviceUuid licenseUuid) projectLicense
  | .listUsersAndRoles usersFrom usersSize rolesFrom rolesSize =>
      pageRead handler.client usersFrom usersSize fun usersPage =>
        pageRead handler.client rolesFrom rolesSize fun rolesPage =>
          projectedCall (SdcMcp.listUsersAndRoles handler.client usersPage rolesPage)
            projectUsersAndRoles
  | .prepareSdcPolicyDeploy policies => do
      let result ← prepare handler.client handler.changes.sets owner policies
      return prepareResult result.changeSet result.preparedChange.encode
  | .approveSdcChangeSet changeSetId expectedDigest => do
      let changeSet ← handler.changes.approve changeSetId owner expectedDigest
      return changeSet.encoded
  | .applySdcChangeSet args => do
      let result ← applyPolicyDeploy handler.client (handler.changes.policyDeploys owner args)
        args.expectedPlanDigest
      return applyResult HandlerCrates.encodeOutcome "preview" ValidationReport.encode result
  | .prepareSdcObjectWrite action resource uuid body => do
      let result ← prepareObjectWrite handler.client handler.changes.sets owner action resource uuid
        (body.getD Value.null)
      return prepareResult result.changeSet result.preparedChange.encode
  | .applySdcObjectWrite args => do
      let result ← applyObjectWrite handler.client (handler.changes.objectWrites owner args)
        args.expectedPlanDigest
      return applyResult HandlerCrates.encodeOutcome "plan"
        (fun report => encodeReport report.valid report.action.name report.targetUnchanged) result
  | .prepareSdcNatWrite action policyId ruleId groupId body => do
      let result ← prepareNatWrite handler.client handler.changes.sets owner action policyId ruleId
        groupId (body.getD Value.null)
      return prepareResult result.changeSet result.preparedChange.encode
  | .applySdcNatWrite args => do
      let result ← applyNatWrite handler.client (handler.changes.natWrites owner args)
        args.expectedPlanDigest
      return applyResult HandlerCrates.encodeOutcome "plan"
        (fun report => encodeReport report.valid report.action.name report.targetUnchanged) result
  | .prepareSdcFirewallWrite action uuid body => do
      let result ← prepareFirewallWrite handler.client handler.changes.sets owner action uuid
        (body.getD Value.null)
      return prepareResult result.changeSet result.preparedChange.encode
  | .applySdcFirewallWrite args => do
      let result ← applyFirewallWrite handler.client (handler.changes.firewallWrites owner args)
        args.expectedPlanDigest
      return applyResult HandlerCrates.encodeOutcome "plan"
        (fun report => encodeReport report.valid report.action.name report.targetUnchanged) result
  | .prepareSdcLicenseWrite action deviceUuid body => do
      let result ← prepareLicenseWrite handler.client handler.changes.sets owner action deviceUuid
        body
      Run.lift result.callerView
  | .applySdcLicenseWrite args => do
      let result ← applyLicenseWrite handler.client (handler.changes.licenseWrites owner args)
        args.expectedPlanDigest
      Run.lift (result.callerView HandlerCrates.encodeOutcome)
  | .prepareSdcDeviceInventorySync deviceUuids => do
      let result ← prepareDeviceSync handler.client handler.changes.sets owner deviceUuids
      return prepareResult result.changeSet result.preparedChange.encode
  | .applySdcDeviceInventorySync args => do
      let result ← applyDeviceSync handler.client (handler.changes.deviceSyncs owner args)
        args.expectedPlanDigest
      return applyResult HandlerCrates.encodeOutcome "plan" DeviceSyncValidationReport.encode result
  | .getSdcChangeSet changeSetId => do
      let changeSet ← handler.changes.status changeSetId
      return changeSet.encoded
  | .getSdcChangeSetDetails changeSetId => do
      let record ← Run.ask fun _ history => handler.changes.changeSet history changeSetId
      Run.lift (preparedChange HandlerCrates.serdeError record)
  | .discardSdcOperation operationId expectedFingerprint => do
      let text ← handler.changes.discard operationId owner expectedFingerprint
      return Value.string text

omit [Crates] [HandlerCrates] in
/-- What a tool answers of what it has got. -/
def ToolCall.present (handler : SdcHandler) (value : Value) : ToolCall → Except ToolError Value
  | .read tool paging => tool.present handler.listPageBudgetBytes paging value
  | _ => .ok value

/-- One call of one tool. -/
def SdcHandler.handle (handler : SdcHandler) (call : Call) : Run Env Event ToolError Value := do
  Run.lift ((authorizeRequest call.caller call.tool.name call.tenant handler.tenant).mapError
    .denied)
  let value ← (call.tool.io handler (owner call.caller)).mapErr .sdc
  let presented ← Run.lift (call.tool.present handler value)
  return HandlerCrates.redactSecrets presented

/-! ### The process -/

/-- Why a process ends before it serves. -/
inductive StartError where
  | client (error : ClientError)
  | tenantScope (error : SdcError)
  | tenantMismatch
  | load (error : String)

omit [HandlerCrates] in
/-- `SdcClient::verify_tenant`. -/
def verifyTenant (client : SdcClient) (expectedTenantId : String) :
    Run Env Event StartError TenantScope := do
  let scope ← (tenantScope client).mapErr .tenantScope
  if scope.tenantId ≠ expectedTenantId then Run.fail .tenantMismatch
  else return scope

/-- The handler of a configuration. -/
def SdcConfig.handler (config : SdcConfig) (client : SdcClient) (changes : ChangeManager) :
    SdcHandler where
  tenant := config.tenant
  client := client
  listPageBudgetBytes := config.listPageBudgetBytes
  changes := changes

/-- `main`, from a configuration that was read to where it serves.  The change sets are loaded, and
whatever else a process needs, only after the tenant was verified. -/
def startServer [UrlCrate] [HttpCrate] (config : SdcConfig) (credential : String)
    (load : SdcClient → Except String ChangeManager) : Run Env Event StartError SdcHandler := do
  let client ← Run.lift ((SdcClient.new config credential).mapError .client)
  let _ ← verifyTenant client config.expectedTenantId
  let changes ← Run.lift ((load client).mapError .load)
  return config.handler client changes

end SdcMcp
