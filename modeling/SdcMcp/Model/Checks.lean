/-
The local checks of `client.rs`, `redact.rs` and `prepared.rs`.

Identifiers are checked as byte strings, bodies as JSON trees.  The envelopes
repeat the identifier check with their own texts; `isAtom` is the check itself.
-/
import SdcMcp.Model.Types

namespace SdcMcp

def isAsciiControl (byte : UInt8) : Bool := byte < 32 || byte = 127

def isAsciiWhitespace (byte : UInt8) : Bool := byte ∈ [9, 10, 12, 13, 32]

/-- 1 to `maximum` bytes, none of them a control or a white space. -/
def isAtom (maximum : Nat) (value : String) : Bool :=
  !value.isEmpty && value.utf8ByteSize ≤ maximum &&
    !(Json.utf8 value).any fun byte => isAsciiControl byte || isAsciiWhitespace byte

/-- `validate_atom` of the client. -/
def validateAtom (field value : String) : Except SdcError Unit :=
  if isAtom 256 value then .ok () else .error (.invalidIdentifier field)

/-! ### The redaction marker -/

def redacted : String := "[REDACTED]"

/-- `sub` occurs in a text. -/
def hasInfix (sub : List Char) : List Char → Bool
  | [] => sub.isEmpty
  | c :: cs => sub.isPrefixOf (c :: cs) || hasInfix sub cs

mutual

/-- The marker occurs in a string of the tree; keys are not looked at. -/
def containsRedactionMarker : Json → Bool
  | .str text => hasInfix redacted.toList text.toList
  | .obj members => anyMemberRedacted members
  | .arr items => anyItemRedacted items
  | _ => false

def anyItemRedacted : List Json → Bool
  | [] => false
  | v :: rest => containsRedactionMarker v || anyItemRedacted rest

def anyMemberRedacted : List (String × Json) → Bool
  | [] => false
  | (_, v) :: rest => containsRedactionMarker v || anyMemberRedacted rest

end

/-! ### Request bodies -/

def maxWriteBodyBytes : Nat := 1024 * 1024

/-- An object with at least one member. -/
def isPopulatedObject : Json → Bool
  | .obj members => !members.isEmpty
  | _ => false

def markerError : SdcError :=
  .invalidInput "write body contains a redaction marker; re-read the field value out-of-band"

def validateObjectBody (body : Json) : Except SdcError Unit :=
  match body with
  | .obj fields =>
      if fields.isEmpty then .error (.invalidInput "object write body must not be empty")
      else if maxWriteBodyBytes < body.toVec.length then
        .error (.invalidInput "object write body exceeds the 1048576-byte limit")
      else if containsRedactionMarker body then .error markerError
      else .ok ()
  | _ => .error (.invalidInput "object write body must be a JSON object")

def validatePolicyOperations (policies : List PolicyOperation) : Except SdcError Unit :=
  if policies.isEmpty || 256 < policies.length then
    .error (.invalidInput "policies must contain 1-256 entries")
  else policies.forM fun policy => do
    validateAtom "policy_id" policy.policyId
    if policy.deployTargets.isEmpty && policy.undeployTargets.isEmpty then
      throw (.invalidInput "each policy needs at least one deploy or undeploy target")

end SdcMcp
