/-
Change-controlled writes to NAT policies, rules and rule groups, `nat_write.rs`.

Unlike its siblings this envelope is not checked for a shape: which ids an action
needs is found out when the target is read and again when the write is made.
-/
import SdcMcp.Model.Transaction

namespace SdcMcp

open Interactive Serde

structure SdcPreparedNatWrite where
  operation : String
  action : NatWriteOperation
  policyId : Option String
  ruleId : Option String
  groupId : Option String
  request : Value
  before : Value
  planDigest : String

namespace SdcPreparedNatWrite

def planArtifact (action : NatWriteOperation) (policyId ruleId groupId : Option String)
    (request before : Value) : Value where
  tree := .obj [("action", .str action.name), ("policy_id", encodeOption policyId),
    ("rule_id", encodeOption ruleId), ("group_id", encodeOption groupId),
    ("before", before.tree), ("after", request.tree)]
  distinct := by simp [request.distinct, before.distinct]

def plan (p : SdcPreparedNatWrite) : Value :=
  planArtifact p.action p.policyId p.ruleId p.groupId p.request p.before

def encode (p : SdcPreparedNatWrite) : Json :=
  .obj [("operation", .str p.operation), ("action", .str p.action.name),
    ("policy_id", encodeOption p.policyId), ("rule_id", encodeOption p.ruleId),
    ("group_id", encodeOption p.groupId), ("request", p.request.tree),
    ("before", p.before.tree), ("plan_digest", .str p.planDigest)]

variable [Crates]

def validate (p : SdcPreparedNatWrite) : Except SdcError Unit := do
  if canonicalDigest p.plan ≠ p.planDigest then
    throw (.preparedChange "prepared NAT write does not match its digest")
  if containsRedactionMarker p.request.tree then throw markerError
  if maxEnvelopeBytes < p.encode.toVec.length then
    throw (.preparedChange "prepared NAT write exceeds the 2097152-byte limit")

def new (action : NatWriteOperation) (policyId ruleId groupId : Option String)
    (request before : Value) : Except SdcError SdcPreparedNatWrite := do
  let prepared : SdcPreparedNatWrite :=
    { operation := "nat_write"
      action := action
      policyId := policyId
      ruleId := ruleId
      groupId := groupId
      request := request
      before := before
      planDigest := canonicalDigest
        (planArtifact action policyId ruleId groupId request before) }
  prepared.validate
  return prepared

end SdcPreparedNatWrite

structure NatValidationReport where
  valid : Bool
  action : NatWriteOperation
  targetUnchanged : Bool

namespace SdcNatTransaction

/-- An id the drift check needs. -/
def requiredId (message : String) : Option String → Except SdcError String
  | some id => .ok id
  | none => .error (.invalidInput message)

/-- An id the write needs. -/
def presentId (message : String) : Option String → Except SdcError String
  | some id => .ok id
  | none => .error (.preparedChange message)

variable [Crates]

/-- Re-reads the policy, rule or rule group that an update or delete is about. -/
def targetUnchanged (client : SdcClient) (staged : SdcPreparedNatWrite) : Io Bool :=
  match staged.action with
  | .createPolicy | .createRule | .createRuleGroup => return true
  | .updatePolicy | .deletePolicy => do
      let policyId ← Run.lift
        (requiredId "policy_id required for policy operations" staged.policyId)
      let current ← getNatPolicy client policyId
      return sameDigest staged.before current
  | .updateRule | .deleteRule => do
      let policyId ← Run.lift
        (requiredId "policy_id required for rule operations" staged.policyId)
      let ruleId ← Run.lift (requiredId "rule_id required for rule operations" staged.ruleId)
      let current ← getNatRule client policyId ruleId
      return sameDigest staged.before current
  | .updateRuleGroup => do
      let policyId ← Run.lift
        (requiredId "policy_id required for rule group operations" staged.policyId)
      let groupId ← Run.lift
        (requiredId "group_id required for rule group operations" staged.groupId)
      let current ← getNatRuleGroup client policyId groupId
      return sameDigest staged.before current

/-- The client call a commit makes. -/
def call (staged : SdcPreparedNatWrite) : Except SdcError WriteCall :=
  let policyId := presentId "prepared NAT write is missing its policy_id" staged.policyId
  let ruleId := presentId "prepared NAT write is missing its rule_id" staged.ruleId
  let groupId := presentId "prepared NAT write is missing its group_id" staged.groupId
  match staged.action with
  | .createPolicy => .ok (createNatPolicy staged.request)
  | .updatePolicy => do return updateNatPolicy (← policyId) staged.request
  | .deletePolicy => do return deleteNatPolicy (← policyId)
  | .createRule => do return createNatRule (← policyId) staged.request
  | .updateRule => do return updateNatRule (← policyId) (← ruleId) staged.request
  | .deleteRule => do return deleteNatRule (← policyId) (← ruleId)
  | .createRuleGroup => do return createNatRuleGroup (← policyId) staged.request
  | .updateRuleGroup => do return updateNatRuleGroup (← policyId) (← groupId) staged.request

/-- The name of the operation in the details of a commit. -/
def callName : NatWriteOperation → String
  | .createPolicy => "create_nat_policy"
  | .updatePolicy => "update_nat_policy"
  | .deletePolicy => "delete_nat_policy"
  | .createRule => "create_nat_rule"
  | .updateRule => "update_nat_rule"
  | .deleteRule => "delete_nat_rule"
  | .createRuleGroup => "create_nat_rule_group"
  | .updateRuleGroup => "update_nat_rule_group"

def stage (expectedPlanDigest : String) :
    List SdcPreparedNatWrite → Except SdcError SdcPreparedNatWrite :=
  stageOne "an SDC NAT write requires exactly one prepared change" SdcPreparedNatWrite.validate
    fun p => p.operation = "nat_write" && p.planDigest = expectedPlanDigest

def validate (client : SdcClient) (staged : SdcPreparedNatWrite) : Io NatValidationReport :=
  validateUnchanged (targetUnchanged client staged) fun unchanged =>
    ⟨true, staged.action, unchanged⟩

def commit (client : SdcClient) (staged : SdcPreparedNatWrite) (options : CommitOptions) :
    Io CommitOutcome :=
  commitUnchanged "SDC does not support confirmed NAT writes" options
    (targetUnchanged client staged)
    (commitWrite client ("SDC " ++ callName staged.action ++ " completed")
      "SDC NAT write was submitted but its outcome was not observed" (call staged))

end SdcNatTransaction

def sdcNatTransaction [Crates] (client : SdcClient) (expectedPlanDigest : String) :
    Transaction SdcPreparedNatWrite NatValidationReport where
  stage := SdcNatTransaction.stage expectedPlanDigest
  diff := SdcPreparedNatWrite.plan
  validate := SdcNatTransaction.validate client
  commit := SdcNatTransaction.commit client

end SdcMcp
