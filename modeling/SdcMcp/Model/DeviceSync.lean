/-
Change-controlled device inventory sync, `device_sync.rs`.

The plan binds what each device looked like, but the drift check compares only the
two fields a sync moves, and only where they are strings.
-/
import SdcMcp.Model.Transaction

namespace SdcMcp

open Interactive

def maxDevicesPerSync : Nat := 64

structure SdcPreparedDeviceSync where
  operation : String
  deviceUuids : List String
  /-- The observed state of each device, keyed by UUID. -/
  before : Value
  planDigest : String

namespace SdcPreparedDeviceSync

/-- Checks a device list and sorts it. -/
def canonicalDeviceList (deviceUuids : List String) : Except SdcError (List String) := do
  if deviceUuids.isEmpty then
    throw (.preparedChange "device sync requires at least one device")
  if maxDevicesPerSync < deviceUuids.length then
    throw (.preparedChange ("device sync covers " ++ toString deviceUuids.length
      ++ " devices, more than the 64 an approver can be expected to review"))
  if deviceUuids.any fun uuid => !isAtom 256 uuid then
    throw (.preparedChange "device UUIDs must be 1-256 non-whitespace bytes")
  let sorted := deviceUuids.insertionSort (· ≤ ·)
  if (sorted.destutter (· ≠ ·)).length ≠ sorted.length then
    throw (.preparedChange "device sync names the same device more than once")
  return sorted

def planArtifact (deviceUuids : List String) (before : Value) : Value where
  tree := .obj [("action", .str "device_sync"),
    ("direction", .str ("import: reads each device's inventory and updates SDC's model; "
      ++ "no device is written")),
    ("does_not",
      .str "reconcile configuration drift — device_config_state is left untouched"),
    ("device_uuids", .arr (deviceUuids.map Json.str)), ("before", before.tree)]
  distinct := by simp [before.distinct]

def plan (p : SdcPreparedDeviceSync) : Value := planArtifact p.deviceUuids p.before

def encode (p : SdcPreparedDeviceSync) : Json :=
  .obj [("operation", .str p.operation), ("device_uuids", .arr (p.deviceUuids.map Json.str)),
    ("before", p.before.tree), ("plan_digest", .str p.planDigest)]

variable [Crates]

def validate (p : SdcPreparedDeviceSync) : Except SdcError Unit := do
  if p.operation ≠ "device_sync" then
    throw (.preparedChange "prepared operation must be device_sync")
  if p.deviceUuids.isEmpty then
    throw (.preparedChange "prepared device sync names no devices")
  if canonicalDigest p.plan ≠ p.planDigest then
    throw (.preparedChange "prepared device sync does not match its digest")
  if maxEnvelopeBytes < p.encode.toVec.length then
    throw (.preparedChange "prepared device sync exceeds the 2097152-byte limit")

def new (deviceUuids : List String) (before : Value) : Except SdcError SdcPreparedDeviceSync := do
  let deviceUuids ← canonicalDeviceList deviceUuids
  let prepared : SdcPreparedDeviceSync :=
    { operation := "device_sync"
      deviceUuids := deviceUuids
      before := before
      planDigest := canonicalDigest (planArtifact deviceUuids before) }
  prepared.validate
  return prepared

end SdcPreparedDeviceSync

/-- The two fields a sync moves, each where it is a string. -/
def inventoryState (device : Value) : Option String × Option String :=
  ((device.get "device_sync_status").bind fun v => v.tree.asStr,
    ((device.get "inventory_sync_info").bind fun info => info.get "overall_sync_status").bind
      fun v => v.tree.asStr)

structure DeviceSyncValidationReport where
  valid : Bool
  deviceCount : Nat
  targetsUnchanged : Bool

namespace SdcDeviceSyncTransaction

variable [Crates]

/-- The state of a device that the plan was made from. -/
def thenState (before : Value) (uuid : String) : Option String × Option String :=
  ((before.get uuid).map inventoryState).getD (none, none)

/-- Re-reads devices in order, up to the first that moved. -/
def targetsUnchangedFrom (client : SdcClient) (before : Value) : List String → Io Bool
  | [] => return true
  | uuid :: rest => do
      let current ← getDevice client uuid
      if inventoryState current ≠ thenState before uuid then return false
      else targetsUnchangedFrom client before rest

def targetsUnchanged (client : SdcClient) (staged : SdcPreparedDeviceSync) : Io Bool :=
  targetsUnchangedFrom client staged.before staged.deviceUuids

def stage (expectedPlanDigest : String) :
    List SdcPreparedDeviceSync → Except SdcError SdcPreparedDeviceSync :=
  stageOne "an SDC device sync requires exactly one prepared change"
    SdcPreparedDeviceSync.validate fun p => p.planDigest = expectedPlanDigest

def validate (client : SdcClient) (staged : SdcPreparedDeviceSync) :
    Io DeviceSyncValidationReport :=
  validateUnchanged (targetsUnchanged client staged) fun unchanged =>
    ⟨true, staged.deviceUuids.length, unchanged⟩

/-- What a finished sync says about its devices. -/
def details (staged : SdcPreparedDeviceSync) (job : DeviceSyncJob) : String :=
  if job.failures.isEmpty then
    "SDC synced inventory for " ++ toString staged.deviceUuids.length
      ++ " device(s) with status " ++ job.status.debug
  else
    "SDC inventory sync finished " ++ job.status.debug ++ "; " ++ toString job.failures.length
      ++ " device(s) failed: " ++ String.intercalate "; " job.failures

/-- The disposition of a sync. -/
def reconcileSync (staged : SdcPreparedDeviceSync) :
    Except DeviceSyncFailure (String × DeviceSyncJob) → Except SdcError CommitOutcome
  | .ok (syncId, job) =>
      .ok (.reconciled (job.status.succeeded && job.failures.isEmpty) (some syncId)
        (some (details staged job)))
  | .error (.beforeSubmit error) => .error error
  | .error failure =>
      .ok (.indeterminate ("device inventory sync outcome is unknown: " ++ failure.display))

def write (client : SdcClient) (staged : SdcPreparedDeviceSync) : Io CommitOutcome := do
  let result ← (syncDevices client staged.deviceUuids).observe
  Run.lift (reconcileSync staged result)

def commit (client : SdcClient) (staged : SdcPreparedDeviceSync) (options : CommitOptions) :
    Io CommitOutcome :=
  commitUnchanged "SDC does not support confirmed device syncs" options
    (targetsUnchanged client staged) (write client staged)

end SdcDeviceSyncTransaction

def sdcDeviceSyncTransaction [Crates] (client : SdcClient) (expectedPlanDigest : String) :
    Transaction SdcPreparedDeviceSync DeviceSyncValidationReport where
  stage := SdcDeviceSyncTransaction.stage expectedPlanDigest
  diff := SdcPreparedDeviceSync.plan
  validate := SdcDeviceSyncTransaction.validate client
  commit := SdcDeviceSyncTransaction.commit client

end SdcMcp
