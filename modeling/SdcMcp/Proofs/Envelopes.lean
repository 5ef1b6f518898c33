/-
What a valid envelope is, kind by kind.

`validate` of an envelope is a sequence of guards that report the first violation.
Here each is read as the conjunction of what it guards, which is what the later
proofs use; the fields that a shape fixes follow from it.
-/
import SdcMcp.Model.DeviceSync
import SdcMcp.Model.FirewallWrite
import SdcMcp.Model.LicenseWrite
import SdcMcp.Model.NatWrite
import SdcMcp.Model.ObjectWrite

namespace SdcMcp

/-- A check of an optional identifier. -/
private theorem not_any_not_iff {ids : Option String} {check : String → Bool} :
    (ids.any fun id => !check id) = false ↔ ∀ id ∈ ids, check id = true := by
  cases ids <;> simp

section Valid

variable [Crates]

theorem SdcPreparedObjectWrite.validate_ok_iff {p : SdcPreparedObjectWrite} :
    p.validate = .ok () ↔ p.operation = "object_write" ∧ p.shapeOk = true ∧
      (∀ uuid ∈ p.uuid, isAtom 256 uuid = true) ∧ canonicalDigest p.plan = p.planDigest ∧
      p.encode.toVec.length ≤ maxEnvelopeBytes := by
  unfold validate
  simp only [Except.guard_bind_eq_ok_iff, Except.guard_eq_ok_iff, not_any_not_iff, not_not,
    not_lt, Bool.not_eq_true', Bool.not_eq_false, Bool.not_eq_true]

theorem SdcPreparedFirewallWrite.validate_ok_iff {p : SdcPreparedFirewallWrite} :
    p.validate = .ok () ↔ p.operation = "firewall_write" ∧ p.shapeOk = true ∧
      containsRedactionMarker p.request.tree = false ∧
      (∀ uuid ∈ p.uuid, isAtom 256 uuid = true) ∧ canonicalDigest p.plan = p.planDigest ∧
      p.encode.toVec.length ≤ maxEnvelopeBytes := by
  unfold validate
  simp only [Except.guard_bind_eq_ok_iff, Except.guard_eq_ok_iff, not_any_not_iff, not_not,
    not_lt, Bool.not_eq_true', Bool.not_eq_false, Bool.not_eq_true]

theorem SdcPreparedNatWrite.validate_ok_iff {p : SdcPreparedNatWrite} :
    p.validate = .ok () ↔ canonicalDigest p.plan = p.planDigest ∧
      containsRedactionMarker p.request.tree = false ∧
      p.encode.toVec.length ≤ maxEnvelopeBytes := by
  unfold validate
  simp only [Except.guard_bind_eq_ok_iff, Except.guard_eq_ok_iff, not_not, not_lt,
    Bool.not_eq_true]

theorem SdcPreparedLicenseWrite.validate_ok_iff {p : SdcPreparedLicenseWrite} :
    p.validate = .ok () ↔ p.operation = "license_write" ∧ isAtom 256 p.deviceUuid = true ∧
      isPopulatedObject p.request.tree = true ∧ containsRedactionMarker p.request.tree = false ∧
      canonicalDigest p.plan = p.planDigest ∧ p.encode.toVec.length ≤ maxEnvelopeBytes := by
  unfold validate
  simp only [Except.guard_bind_eq_ok_iff, Except.guard_eq_ok_iff, not_not, not_lt,
    Bool.not_eq_true', Bool.not_eq_false, Bool.not_eq_true]

theorem SdcPreparedDeviceSync.validate_ok_iff {p : SdcPreparedDeviceSync} :
    p.validate = .ok () ↔ p.operation = "device_sync" ∧ p.deviceUuids ≠ [] ∧
      canonicalDigest p.plan = p.planDigest ∧ p.encode.toVec.length ≤ maxEnvelopeBytes := by
  unfold validate
  simp only [Except.guard_bind_eq_ok_iff, Except.guard_eq_ok_iff, not_not, not_lt,
    List.isEmpty_iff, ne_eq]

omit [Crates] in
theorem validatePreparedAtom_ok_iff {field value : String} {maximum : Nat} :
    validatePreparedAtom field value maximum = .ok () ↔ isAtom maximum value = true := by
  unfold validatePreparedAtom
  by_cases hatom : isAtom maximum value = true
  · rw [if_pos hatom]
    exact iff_of_true rfl hatom
  · rw [if_neg hatom]
    exact iff_of_false nofun hatom

theorem SdcPreparedChange.validate_ok_iff {p : SdcPreparedChange} :
    p.validate = .ok () ↔ p.operation = "policy_deploy" ∧
      (p.targets ≠ [] ∧ p.targets.length ≤ maxTargets) ∧
      validateTargets none p.targets = .ok () ∧ isAtom 256 p.previewJobId = true ∧
      canonicalDigest p.preview = p.previewDigest ∧ p.encode.toVec.length ≤ maxArtifactBytes := by
  unfold validate
  simp only [Except.guard_bind_eq_ok_iff, Except.guard_eq_ok_iff, Except.check_bind_eq_ok_iff,
    validatePreparedAtom_ok_iff, not_not, not_lt, Bool.or_eq_true, not_or, List.isEmpty_iff,
    decide_eq_true_eq, ne_eq]

end Valid

end SdcMcp
