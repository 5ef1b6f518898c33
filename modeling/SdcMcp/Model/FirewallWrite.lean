/-
Change-controlled writes to firewall policies, `firewall_write.rs`.
-/
import SdcMcp.Model.Transaction

namespace SdcMcp

open Interactive Serde

inductive FirewallWriteOperation where
  | createPolicy
  | updatePolicy
  | deletePolicy
  deriving DecidableEq

namespace FirewallWriteOperation

def name : FirewallWriteOperation → String
  | .createPolicy => "create_policy"
  | .updatePolicy => "update_policy"
  | .deletePolicy => "delete_policy"

def asStr : FirewallWriteOperation → String
  | .createPolicy => "firewall_policy_create"
  | .updatePolicy => "firewall_policy_update"
  | .deletePolicy => "firewall_policy_delete"

theorem name_inj {a b : FirewallWriteOperation} (h : a.name = b.name) : a = b := by
  cases a <;> cases b <;> simp_all [name]

end FirewallWriteOperation

structure SdcPreparedFirewallWrite where
  operation : String
  action : FirewallWriteOperation
  uuid : Option String
  request : Value
  before : Value
  planDigest : String

namespace SdcPreparedFirewallWrite

def planArtifact (action : FirewallWriteOperation) (uuid : Option String)
    (request before : Value) : Value where
  tree := .obj [("action", .str action.name), ("uuid", encodeOption uuid),
    ("before", before.tree), ("after", request.tree)]
  distinct := by simp [request.distinct, before.distinct]

def plan (p : SdcPreparedFirewallWrite) : Value :=
  planArtifact p.action p.uuid p.request p.before

def encode (p : SdcPreparedFirewallWrite) : Json :=
  .obj [("operation", .str p.operation), ("action", .str p.action.name),
    ("uuid", encodeOption p.uuid), ("request", p.request.tree), ("before", p.before.tree),
    ("plan_digest", .str p.planDigest)]

def shapeOk (p : SdcPreparedFirewallWrite) : Bool :=
  match p.action with
  | .createPolicy => !p.uuid.isSome && isPopulatedObject p.request.tree && p.before.tree.isNull
  | .updatePolicy => p.uuid.isSome && isPopulatedObject p.request.tree && p.before.tree.isObject
  | .deletePolicy => p.uuid.isSome && p.request.tree.isNull && p.before.tree.isObject

variable [Crates]

def validate (p : SdcPreparedFirewallWrite) : Except SdcError Unit := do
  if p.operation ≠ "firewall_write" then
    throw (.preparedChange "prepared operation must be firewall_write")
  if !p.shapeOk then
    throw (.preparedChange ("prepared " ++ p.action.asStr ++ " does not match its required shape"))
  if containsRedactionMarker p.request.tree then throw markerError
  if p.uuid.any fun uuid => !isAtom 256 uuid then
    throw (.preparedChange "prepared policy UUID must be 1-256 non-whitespace bytes")
  if canonicalDigest p.plan ≠ p.planDigest then
    throw (.preparedChange "prepared firewall write does not match its digest")
  if maxEnvelopeBytes < p.encode.toVec.length then
    throw (.preparedChange "prepared firewall write exceeds the 2097152-byte limit")

def new (action : FirewallWriteOperation) (uuid : Option String) (request before : Value) :
    Except SdcError SdcPreparedFirewallWrite := do
  let prepared : SdcPreparedFirewallWrite :=
    { operation := "firewall_write"
      action := action
      uuid := uuid
      request := request
      before := before
      planDigest := canonicalDigest (planArtifact action uuid request before) }
  prepared.validate
  return prepared

end SdcPreparedFirewallWrite

structure FirewallValidationReport where
  valid : Bool
  action : FirewallWriteOperation
  targetUnchanged : Bool

namespace SdcFirewallTransaction

variable [Crates]

/-- Re-reads the policy of an update or delete; a create has none. -/
def targetUnchanged (client : SdcClient) (staged : SdcPreparedFirewallWrite) : Io Bool :=
  match staged.action, staged.uuid with
  | .updatePolicy, some uuid | .deletePolicy, some uuid => do
      let current ← getFirewallPolicy client uuid
      return sameDigest staged.before current
  | _, _ => return true

/-- The client call a commit makes. -/
def call (staged : SdcPreparedFirewallWrite) : Except SdcError WriteCall :=
  match staged.action, staged.uuid with
  | .createPolicy, _ => .ok (createFirewallPolicy staged.request)
  | .updatePolicy, some uuid => .ok (updateFirewallPolicy uuid staged.request)
  | .deletePolicy, some uuid => .ok (deleteFirewallPolicy uuid)
  | _, none => .error (.preparedChange "prepared firewall write is missing its target UUID")

def stage (expectedPlanDigest : String) :
    List SdcPreparedFirewallWrite → Except SdcError SdcPreparedFirewallWrite :=
  stageOne "an SDC firewall write requires exactly one prepared change"
    SdcPreparedFirewallWrite.validate
    fun p => p.operation = "firewall_write" && p.planDigest = expectedPlanDigest

def validate (client : SdcClient) (staged : SdcPreparedFirewallWrite) :
    Io FirewallValidationReport :=
  validateUnchanged (targetUnchanged client staged) fun unchanged =>
    ⟨true, staged.action, unchanged⟩

def commit (client : SdcClient) (staged : SdcPreparedFirewallWrite) (options : CommitOptions) :
    Io CommitOutcome :=
  commitUnchanged "SDC does not support confirmed firewall writes" options
    (targetUnchanged client staged)
    (commitWrite client ("SDC " ++ staged.action.asStr ++ " completed")
      "SDC firewall write was submitted but its outcome was not observed" (call staged))

end SdcFirewallTransaction

def sdcFirewallTransaction [Crates] (client : SdcClient) (expectedPlanDigest : String) :
    Transaction SdcPreparedFirewallWrite FirewallValidationReport where
  stage := SdcFirewallTransaction.stage expectedPlanDigest
  diff := SdcPreparedFirewallWrite.plan
  validate := SdcFirewallTransaction.validate client
  commit := SdcFirewallTransaction.commit client

end SdcMcp
