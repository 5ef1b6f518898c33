/-
Change-controlled writes to the object families, `object_write.rs`.
-/
import SdcMcp.Model.Transaction

namespace SdcMcp

open Interactive Serde

inductive ObjectWriteAction where
  | create
  | update
  | delete
  deriving DecidableEq

namespace ObjectWriteAction

/-- The name in a serialized plan or envelope. -/
def name : ObjectWriteAction → String
  | .create => "create"
  | .update => "update"
  | .delete => "delete"

/-- The discriminator in texts. -/
def asStr : ObjectWriteAction → String
  | .create => "object_create"
  | .update => "object_update"
  | .delete => "object_delete"

theorem name_inj {a b : ObjectWriteAction} (h : a.name = b.name) : a = b := by
  cases a <;> cases b <;> simp_all [name]

end ObjectWriteAction

structure SdcPreparedObjectWrite where
  operation : String
  action : ObjectWriteAction
  resource : WritableResource
  uuid : Option String
  request : Value
  before : Value
  planDigest : String

namespace SdcPreparedObjectWrite

def planArtifact (action : ObjectWriteAction) (resource : WritableResource)
    (uuid : Option String) (request before : Value) : Value where
  tree := .obj [("action", .str action.name), ("resource", .str resource.name),
    ("uuid", encodeOption uuid), ("before", before.tree), ("after", request.tree)]
  distinct := by simp [request.distinct, before.distinct]

def plan (p : SdcPreparedObjectWrite) : Value :=
  planArtifact p.action p.resource p.uuid p.request p.before

def encode (p : SdcPreparedObjectWrite) : Json :=
  .obj [("operation", .str p.operation), ("action", .str p.action.name),
    ("resource", .str p.resource.name), ("uuid", encodeOption p.uuid),
    ("request", p.request.tree), ("before", p.before.tree), ("plan_digest", .str p.planDigest)]

def shapeOk (p : SdcPreparedObjectWrite) : Bool :=
  match p.action with
  | .create => !p.uuid.isSome && isPopulatedObject p.request.tree && p.before.tree.isNull
  | .update => p.uuid.isSome && isPopulatedObject p.request.tree && p.before.tree.isObject
  | .delete => p.uuid.isSome && p.request.tree.isNull && p.before.tree.isObject

variable [Crates]

def validate (p : SdcPreparedObjectWrite) : Except SdcError Unit := do
  if p.operation ≠ "object_write" then
    throw (.preparedChange "prepared operation must be object_write")
  if !p.shapeOk then
    throw (.preparedChange ("prepared " ++ p.action.asStr ++ " does not match its required shape"))
  if p.uuid.any fun uuid => !isAtom 256 uuid then
    throw (.preparedChange "prepared object UUID must be 1-256 non-whitespace bytes")
  if canonicalDigest p.plan ≠ p.planDigest then
    throw (.preparedChange "prepared object write does not match its digest")
  if maxEnvelopeBytes < p.encode.toVec.length then
    throw (.preparedChange "prepared object write exceeds the 2097152-byte limit")

def new (action : ObjectWriteAction) (resource : WritableResource) (uuid : Option String)
    (request before : Value) : Except SdcError SdcPreparedObjectWrite := do
  let prepared : SdcPreparedObjectWrite :=
    { operation := "object_write"
      action := action
      resource := resource
      uuid := uuid
      request := request
      before := before
      planDigest := canonicalDigest (planArtifact action resource uuid request before) }
  prepared.validate
  return prepared

end SdcPreparedObjectWrite

structure ObjectValidationReport where
  valid : Bool
  action : ObjectWriteAction
  targetUnchanged : Bool

namespace SdcObjectTransaction

variable [Crates]

/-- Re-reads the target of an update or delete; a create has none. -/
def targetUnchanged (client : SdcClient) (staged : SdcPreparedObjectWrite) : Io Bool :=
  match staged.action, staged.uuid with
  | .update, some uuid | .delete, some uuid => do
      let current ← getResource client (ResourceKind.fromWritable staged.resource) uuid
      return sameDigest staged.before current
  | _, _ => return true

/-- The client call a commit makes. -/
def call (staged : SdcPreparedObjectWrite) : Except SdcError WriteCall :=
  match staged.action, staged.uuid with
  | .create, _ => .ok (createResource staged.resource staged.request)
  | .update, some uuid => .ok (updateResource staged.resource uuid staged.request)
  | .delete, some uuid => .ok (deleteResource staged.resource uuid)
  | _, none => .error (.preparedChange "prepared object write is missing its target UUID")

def stage (expectedPlanDigest : String) :
    List SdcPreparedObjectWrite → Except SdcError SdcPreparedObjectWrite :=
  stageOne "an SDC object write requires exactly one prepared change"
    SdcPreparedObjectWrite.validate
    fun p => p.operation = "object_write" && p.planDigest = expectedPlanDigest

def validate (client : SdcClient) (staged : SdcPreparedObjectWrite) : Io ObjectValidationReport :=
  validateUnchanged (targetUnchanged client staged) fun unchanged =>
    ⟨true, staged.action, unchanged⟩

def commit (client : SdcClient) (staged : SdcPreparedObjectWrite) (options : CommitOptions) :
    Io CommitOutcome :=
  commitUnchanged "SDC does not support confirmed object writes" options
    (targetUnchanged client staged)
    (commitWrite client ("SDC " ++ staged.action.asStr ++ " completed")
      "SDC object write was submitted but its outcome was not observed" (call staged))

end SdcObjectTransaction

def sdcObjectTransaction [Crates] (client : SdcClient) (expectedPlanDigest : String) :
    Transaction SdcPreparedObjectWrite ObjectValidationReport where
  stage := SdcObjectTransaction.stage expectedPlanDigest
  diff := SdcPreparedObjectWrite.plan
  validate := SdcObjectTransaction.validate client
  commit := SdcObjectTransaction.commit client

end SdcMcp
