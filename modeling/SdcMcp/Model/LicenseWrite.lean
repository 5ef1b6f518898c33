/-
Change-controlled license and certificate jobs of a device, `license_write.rs`.
-/
import SdcMcp.Model.Transaction

namespace SdcMcp

open Interactive Serde

inductive LicenseWriteOperation where
  | installLicense
  | installCaCertificate
  | installLocalCertificate
  | deleteCertificate
  deriving DecidableEq

namespace LicenseWriteOperation

def name : LicenseWriteOperation → String
  | .installLicense => "install_license"
  | .installCaCertificate => "install_ca_certificate"
  | .installLocalCertificate => "install_local_certificate"
  | .deleteCertificate => "delete_certificate"

def asStr : LicenseWriteOperation → String
  | .installLicense => "license_install"
  | .installCaCertificate => "ca_certificate_install"
  | .installLocalCertificate => "local_certificate_install"
  | .deleteCertificate => "certificate_delete"

theorem name_inj {a b : LicenseWriteOperation} (h : a.name = b.name) : a = b := by
  cases a <;> cases b <;> simp_all [name]

end LicenseWriteOperation

structure SdcPreparedLicenseWrite where
  operation : String
  action : LicenseWriteOperation
  deviceUuid : String
  request : Value
  before : Value
  planDigest : String

namespace SdcPreparedLicenseWrite

def planArtifact (action : LicenseWriteOperation) (deviceUuid : String)
    (request before : Value) : Value where
  tree := .obj [("action", .str action.name), ("device_uuid", .str deviceUuid),
    ("before", before.tree), ("after", request.tree)]
  distinct := by simp [request.distinct, before.distinct]

def plan (p : SdcPreparedLicenseWrite) : Value :=
  planArtifact p.action p.deviceUuid p.request p.before

def encode (p : SdcPreparedLicenseWrite) : Json :=
  .obj [("operation", .str p.operation), ("action", .str p.action.name),
    ("device_uuid", .str p.deviceUuid), ("request", p.request.tree), ("before", p.before.tree),
    ("plan_digest", .str p.planDigest)]

variable [Crates]

def validate (p : SdcPreparedLicenseWrite) : Except SdcError Unit := do
  if p.operation ≠ "license_write" then
    throw (.preparedChange "prepared operation must be license_write")
  if !isAtom 256 p.deviceUuid then
    throw (.preparedChange "prepared device UUID must be 1-256 non-whitespace bytes")
  if !isPopulatedObject p.request.tree then
    throw (.preparedChange ("prepared " ++ p.action.asStr ++ " requires a populated request body"))
  if containsRedactionMarker p.request.tree then throw markerError
  if canonicalDigest p.plan ≠ p.planDigest then
    throw (.preparedChange "prepared license write does not match its digest")
  if maxEnvelopeBytes < p.encode.toVec.length then
    throw (.preparedChange "prepared license write exceeds the 2097152-byte limit")

def new (action : LicenseWriteOperation) (deviceUuid : String) (request before : Value) :
    Except SdcError SdcPreparedLicenseWrite := do
  let prepared : SdcPreparedLicenseWrite :=
    { operation := "license_write"
      action := action
      deviceUuid := deviceUuid
      request := request
      before := before
      planDigest := canonicalDigest (planArtifact action deviceUuid request before) }
  prepared.validate
  return prepared

end SdcPreparedLicenseWrite

structure LicenseValidationReport where
  valid : Bool
  action : LicenseWriteOperation
  targetUnchanged : Bool

namespace SdcLicenseTransaction

/-- Both certificate collections of a device, under fixed keys. -/
def certificates (caCerts localCerts : Value) : Value where
  tree := .obj [("ca_certificates", caCerts.tree), ("local_certificates", localCerts.tree)]
  distinct := by simp [caCerts.distinct, localCerts.distinct]

variable [Crates]

/-- The first page of a collection of the device. -/
def firstPage (list : ListRequest → Io Value) : Io Value := do
  let page ← Run.lift ((ListRequest.new 0 100 100).mapError .list)
  list page

/-- Reads the collections that the action depends on. -/
def current (client : SdcClient) (staged : SdcPreparedLicenseWrite) : Io Value :=
  match staged.action with
  | .installLicense => firstPage (listLicenses client staged.deviceUuid)
  | .installCaCertificate => firstPage (listDeviceCaCertificates client staged.deviceUuid)
  | .installLocalCertificate => firstPage (listDeviceLocalCertificates client staged.deviceUuid)
  | .deleteCertificate => do
      let caCerts ← firstPage (listDeviceCaCertificates client staged.deviceUuid)
      let localCerts ← firstPage (listDeviceLocalCertificates client staged.deviceUuid)
      return certificates caCerts localCerts

def targetUnchanged (client : SdcClient) (staged : SdcPreparedLicenseWrite) : Io Bool := do
  let current ← current client staged
  return sameDigest staged.before current

/-- The client call a commit makes. -/
def call (staged : SdcPreparedLicenseWrite) : JobCall :=
  match staged.action with
  | .installLicense => installLicense staged.deviceUuid staged.request
  | .installCaCertificate => installCaCertificate staged.deviceUuid staged.request
  | .installLocalCertificate => installLocalCertificate staged.deviceUuid staged.request
  | .deleteCertificate => deleteCertificate staged.deviceUuid staged.request

def stage (expectedPlanDigest : String) :
    List SdcPreparedLicenseWrite → Except SdcError SdcPreparedLicenseWrite :=
  stageOne "an SDC license write requires exactly one prepared change"
    SdcPreparedLicenseWrite.validate
    fun p => p.operation = "license_write" && p.planDigest = expectedPlanDigest

def validate (client : SdcClient) (staged : SdcPreparedLicenseWrite) :
    Io LicenseValidationReport :=
  validateUnchanged (targetUnchanged client staged) fun unchanged =>
    ⟨true, staged.action, unchanged⟩

/-- Starts the job and waits for it; every error of either is returned as it is. -/
def write (client : SdcClient) (staged : SdcPreparedLicenseWrite) : Io CommitOutcome := do
  let (jobId, status) ← (call staged).run client
  return .reconciled status.succeeded (some jobId)
    (some ("SDC " ++ staged.action.asStr ++ " completed with status " ++ status.debug))

def commit (client : SdcClient) (staged : SdcPreparedLicenseWrite) (options : CommitOptions) :
    Io CommitOutcome :=
  commitUnchanged "SDC does not support confirmed license/certificate writes" options
    (targetUnchanged client staged) (write client staged)

end SdcLicenseTransaction

def sdcLicenseTransaction [Crates] (client : SdcClient) (expectedPlanDigest : String) :
    Transaction SdcPreparedLicenseWrite LicenseValidationReport where
  stage := SdcLicenseTransaction.stage expectedPlanDigest
  diff := SdcPreparedLicenseWrite.plan
  validate := SdcLicenseTransaction.validate client
  commit := SdcLicenseTransaction.commit client

end SdcMcp
