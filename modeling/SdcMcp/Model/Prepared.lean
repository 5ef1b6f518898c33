/-
The policy deploy envelope of `prepared.rs` and the digest all envelopes share.

A digest is taken of the canonical text of a value, so it does not depend on the
order of object members.  Targets are kept in the derived order of the record:
by kind, then by identifier, both as byte strings.
-/
import SdcMcp.Lib.Hex
import SdcMcp.Model.Checks
import Mathlib.Data.List.Sort
import Mathlib.Data.Prod.Lex

namespace SdcMcp

open Serde

variable [Crates]

def canonicalDigest (value : Value) : String :=
  "sha256:" ++ Hex.encode (Crates.sha256 value.tree.canonicalize.toVec)

def maxTargets : Nat := 4096
def maxArtifactBytes : Nat := 8 * 1024 * 1024

omit [Crates] in
/-- `validate_atom` of the envelope. -/
def validatePreparedAtom (field value : String) (maximum : Nat) : Except PreparedError Unit :=
  if isAtom maximum value then .ok () else .error (.invalidField field maximum)

/-! ### Targets -/

structure SdcPreparedTarget where
  kind : String
  identifier : String
  deriving DecidableEq

namespace SdcPreparedTarget

def validate (target : SdcPreparedTarget) : Except PreparedError Unit := do
  validatePreparedAtom "target kind" target.kind 64
  validatePreparedAtom "target identifier" target.identifier 256

def new (kind identifier : String) : Except PreparedError SdcPreparedTarget := do
  let target : SdcPreparedTarget := ⟨kind, identifier⟩
  target.validate
  return target

/-- The fields in comparison order. -/
def key (target : SdcPreparedTarget) : Lex (String × String) :=
  toLex (target.kind, target.identifier)

def le (a b : SdcPreparedTarget) : Prop := a.key ≤ b.key

instance : DecidableRel le := fun a b => inferInstanceAs (Decidable (a.key ≤ b.key))

def encode (target : SdcPreparedTarget) : Json :=
  .obj [("kind", .str target.kind), ("identifier", .str target.identifier)]

def decode (v : Json) : Option SdcPreparedTarget := do
  let f ← fields ["kind", "identifier"] true v
  let kind ← required Json.asStr f 0
  let identifier ← required Json.asStr f 1
  return ⟨kind, identifier⟩

end SdcPreparedTarget

/-- `sort` on targets. -/
def sortTargets (targets : List SdcPreparedTarget) : List SdcPreparedTarget :=
  targets.insertionSort SdcPreparedTarget.le

/-! ### The envelope -/

structure SdcPreparedChange where
  operation : String
  targets : List SdcPreparedTarget
  request : Value
  preview : Value
  previewDigest : String
  previewJobId : String

namespace SdcPreparedChange

def encode (p : SdcPreparedChange) : Json :=
  .obj [("operation", .str p.operation),
    ("targets", .arr (p.targets.map SdcPreparedTarget.encode)), ("request", p.request.tree),
    ("preview", p.preview.tree), ("preview_digest", .str p.previewDigest),
    ("preview_job_id", .str p.previewJobId)]

def decode (v : Json) : Option SdcPreparedChange := do
  let f ← fields ["operation", "targets", "request", "preview", "preview_digest",
    "preview_job_id"] true v
  let operation ← required Json.asStr f 0
  let targets ← required (list SdcPreparedTarget.decode) f 1
  let request ← required (fun v => some v.toValue) f 2
  let preview ← required (fun v => some v.toValue) f 3
  let previewDigest ← required Json.asStr f 4
  let previewJobId ← required Json.asStr f 5
  return ⟨operation, targets, request, preview, previewDigest, previewJobId⟩

/-- Each target is valid and above the one before it. -/
def validateTargets (previous : Option SdcPreparedTarget) :
    List SdcPreparedTarget → Except PreparedError Unit
  | [] => .ok ()
  | target :: rest => do
      target.validate
      if previous.any fun value => target.key ≤ value.key then throw .targets
      validateTargets (some target) rest

def validate (p : SdcPreparedChange) : Except PreparedError Unit := do
  if p.operation ≠ "policy_deploy" then throw .operation
  if p.targets.isEmpty || maxTargets < p.targets.length then throw .targets
  validateTargets none p.targets
  validatePreparedAtom "preview job ID" p.previewJobId 256
  if canonicalDigest p.preview ≠ p.previewDigest then throw .digest
  if maxArtifactBytes < p.encode.toVec.length then throw .tooLarge

def new (targets : List SdcPreparedTarget) (request preview : Value) (previewJobId : String) :
    Except PreparedError SdcPreparedChange := do
  let prepared : SdcPreparedChange :=
    { operation := "policy_deploy"
      targets := sortTargets targets
      request := request
      preview := preview
      previewDigest := canonicalDigest preview
      previewJobId := previewJobId }
  prepared.validate
  return prepared

end SdcPreparedChange

end SdcMcp
