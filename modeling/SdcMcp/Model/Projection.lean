/-
Field allowlists of certificate, license, user and role reads, `projection.rs`.

A collection keeps its envelope, and each of its items keeps the members that are on
a list.  What is not of the expected shape is refused and not passed through.  The
warnings that name dropped members are not modelled; of those that name preserved
members of an envelope, the names are.
-/
import SdcMcp.Lib.Map
import SdcMcp.Model.Types

namespace SdcMcp

def caCertificateFields : List String :=
  ["uuid", "name", "device_uuid", "common_name", "distinguished_name", "organization_name",
    "locality_name", "state_or_province_name", "public_key_algorithm", "key_size",
    "serial_number", "expiry_date", "signature_algorithm", "finger_print_content",
    "issuer_common_name", "issuer_organization_name", "issuer_locality_name",
    "issuer_state_or_province_name"]

def localCertificateFields : List String :=
  ["uuid", "name", "device_uuid", "distinguished_name", "public_key_algorithm", "serial_number",
    "validity_not_before", "validity_not_after", "key_size", "signature_algorithm",
    "finger_print_content", "auto_re_enrollment_status", "auto_re_enrollment_trigger_time",
    "email", "subject_alternate_domain_name", "ipv4_address", "ipv6_address"]

def licenseFields : List String :=
  ["uuid", "name", "version", "state", "validity_type", "start_date", "end_date"]

def envelopeFields : List String := ["items", "count"]

def userFields : List String := ["user_id", "email", "name", "status", "last_login", "role"]

def userRoleRefFields : List String := ["role_name"]

def roleFields : List String := ["UUID", "name", "capabilities", "predefined"]

def userEnvelopeFields : List String := ["users", "user_count"]

def roleEnvelopeFields : List String := ["roles", "role_count"]

/-- Keeps the members of an object that are on the list. -/
def retainOnly (object : Map) (allowed : List String) : Map :=
  object.retain fun key => key ∈ allowed

/-- One item of a collection; an item that is not an object is refused. -/
def projectItem (allowed : List String) (item : Value) : Except SdcError Value :=
  match item.asObject with
  | some object => .ok (.object (retainOnly object allowed))
  | none => .error .invalidJson

/-- Projects each item under a key; an object without the key is an empty tenant's. -/
def projectCollection (value : Value) (itemsKey : String) (allowed : List String) :
    Except SdcError Value :=
  match value.asObject with
  | none => .error .invalidJson
  | some envelope =>
      match envelope.get itemsKey with
      | none => .ok (.object envelope)
      | some items =>
          match items.asArray with
          | none => .error .invalidJson
          | some items => do
              let projected ← items.mapM (projectItem allowed)
              return .object ((envelope.remove itemsKey).insert itemsKey (.array projected))

/-- The names that are reported as preserved. -/
def unknownEnvelope (envelope : Map) (envelopeFields : List String) : List String :=
  envelope.keys.filter fun key => key ∉ envelopeFields

def projectCaCertificates (value : Value) : Except SdcError Value :=
  projectCollection value "items" caCertificateFields

def projectLocalCertificates (value : Value) : Except SdcError Value :=
  projectCollection value "items" localCertificateFields

def projectLicenses (value : Value) : Except SdcError Value :=
  projectCollection value "items" licenseFields

def projectLicense (value : Value) : Except SdcError Value := projectItem licenseFields value

/-! ### Users and roles -/

def projectRoleRefs (value : Value) : Except SdcError Value :=
  match value.asArray with
  | none => .error .invalidJson
  | some refs => do
      let projected ← refs.mapM (projectItem userRoleRefFields)
      return .array projected

/-- Takes the role references out of one user and puts them back projected. -/
def projectUserRoles (item : Value) : Except SdcError Value :=
  match item.asObject with
  | none => .error .invalidJson
  | some object =>
      match object.get "role" with
      | none => .ok (.object object)
      | some roleRefs => do
          let projected ← projectRoleRefs roleRefs
          return .object ((object.remove "role").insert "role" projected)

def projectUsers (value : Value) : Except SdcError Value := do
  let projected ← projectCollection value "users" userFields
  match projected.asObject with
  | none => throw .invalidJson
  | some envelope =>
      match (envelope.get "users").bind Value.asArray with
      | none => return .object envelope
      | some items => do
          let items ← items.mapM projectUserRoles
          return .object (envelope.insert "users" (.array items))

def projectRoles (value : Value) : Except SdcError Value :=
  projectCollection value "roles" roleFields

def projectUsersAndRoles (value : Value) : Except SdcError Value :=
  match value.asObject with
  | none => .error .invalidJson
  | some outer => do
      let users ← match outer.get "users" with
        | some users => projectUsers users
        | none => throw .invalidJson
      let roles ← match (outer.remove "users").get "roles" with
        | some roles => projectRoles roles
        | none => throw .invalidJson
      return .object ((Map.empty.insert "users" users).insert "roles" roles)

end SdcMcp
