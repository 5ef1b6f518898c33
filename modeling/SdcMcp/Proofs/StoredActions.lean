/-
What a stored action is read back as.

A planner stores the document of its action, and the transaction that applies it later is
chosen by the caller, who names a change set and a digest.  The document does not say of
which kind it is; what keeps a deploy from being applied as a NAT write is that the kinds
have different members and that their decoders know no others.  A document of an action is
read back by the decoder of its own kind only, as the action it was.
-/
import SdcMcp.Proofs.Plans
import SdcMcp.Proofs.Restage

namespace SdcMcp

open Serde

/-! ### Records that are read back -/

@[simp] theorem ObjectWriteAction.decode_name (action : ObjectWriteAction) :
    decode (.str action.name) = some action := by
  cases action <;> rfl

@[simp] theorem WritableResource.decode_name (resource : WritableResource) :
    decode (.str resource.name) = some resource := by
  cases resource <;> rfl

@[simp] theorem FirewallWriteOperation.decode_name (action : FirewallWriteOperation) :
    decode (.str action.name) = some action := by
  cases action <;> rfl

@[simp] theorem NatWriteOperation.decode_name (action : NatWriteOperation) :
    decode (.str action.name) = some action := by
  cases action <;> rfl

theorem SdcPreparedObjectWrite.decode_encode (p : SdcPreparedObjectWrite) :
    decode p.encode = some p := by
  have hf : fields ["operation", "action", "resource", "uuid", "request", "before",
      "plan_digest"] true p.encode =
      some ⟨false, [some (.str p.operation), some (.str p.action.name),
        some (.str p.resource.name), some (encodeOption p.uuid), some p.request.tree,
        some p.before.tree, some (.str p.planDigest)]⟩ := rfl
  unfold decode
  rw [hf]
  simp [required, Serde.optional, decodeValue, Value.toValue_tree, Json.asStr]

theorem SdcPreparedFirewallWrite.decode_encode (p : SdcPreparedFirewallWrite) :
    decode p.encode = some p := by
  have hf : fields ["operation", "action", "uuid", "request", "before", "plan_digest"] true
      p.encode =
      some ⟨false, [some (.str p.operation), some (.str p.action.name),
        some (encodeOption p.uuid), some p.request.tree, some p.before.tree,
        some (.str p.planDigest)]⟩ := rfl
  unfold decode
  rw [hf]
  simp [required, Serde.optional, decodeValue, Value.toValue_tree, Json.asStr]

theorem SdcPreparedNatWrite.decode_encode (p : SdcPreparedNatWrite) :
    decode p.encode = some p := by
  have hf : fields ["operation", "action", "policy_id", "rule_id", "group_id", "request",
      "before", "plan_digest"] true p.encode =
      some ⟨false, [some (.str p.operation), some (.str p.action.name),
        some (encodeOption p.policyId), some (encodeOption p.ruleId),
        some (encodeOption p.groupId), some p.request.tree, some p.before.tree,
        some (.str p.planDigest)]⟩ := rfl
  unfold decode
  rw [hf]
  simp [required, Serde.optional, decodeValue, Value.toValue_tree, Json.asStr]

namespace StoredAction

theorem decode_encode (a : StoredAction) : decode a.kind a.encode = some a := by
  cases a with
  | policyDeploy p => exact congrArg (Option.map _) p.decode_encode
  | objectWrite p => exact congrArg (Option.map _) p.decode_encode
  | firewallWrite p => exact congrArg (Option.map _) p.decode_encode
  | natWrite p => exact congrArg (Option.map _) p.decode_encode
  | licenseWrite p => exact congrArg (Option.map _) p.decode_encode
  | deviceSync p => exact congrArg (Option.map _) p.decode_encode

/-- The document of an action names each member once. -/
theorem distinct_encode (a : StoredAction) : a.encode.Distinct := by
  cases a with
  | policyDeploy p =>
      have htarget : ∀ target : SdcPreparedTarget, target.encode.Distinct := fun _ => by
        simp [SdcPreparedTarget.encode]
      simp [encode, SdcPreparedChange.encode, htarget, Value.distinct]
  | objectWrite p => simp [encode, SdcPreparedObjectWrite.encode, Value.distinct]
  | firewallWrite p => simp [encode, SdcPreparedFirewallWrite.encode, Value.distinct]
  | natWrite p => simp [encode, SdcPreparedNatWrite.encode, Value.distinct]
  | licenseWrite p => simp [encode, SdcPreparedLicenseWrite.encode, Value.distinct]
  | deviceSync p => simp [encode, SdcPreparedDeviceSync.encode, Value.distinct]

end StoredAction

/-! ### The kinds told apart -/

/-- The members of a stored document, in order. -/
def StoredKind.members : StoredKind → List String
  | .policyDeploy =>
      ["operation", "targets", "request", "preview", "preview_digest", "preview_job_id"]
  | .objectWrite =>
      ["operation", "action", "resource", "uuid", "request", "before", "plan_digest"]
  | .firewallWrite => ["operation", "action", "uuid", "request", "before", "plan_digest"]
  | .natWrite =>
      ["operation", "action", "policy_id", "rule_id", "group_id", "request", "before",
        "plan_digest"]
  | .licenseWrite => ["operation", "action", "device_uuid", "request", "before", "plan_digest"]
  | .deviceSync => ["operation", "device_uuids", "before", "plan_digest"]

namespace StoredAction

theorem encode_members (a : StoredAction) :
    ∃ members, a.encode = .obj members ∧ members.map Prod.fst = a.kind.members := by
  cases a <;> exact ⟨_, rfl, rfl⟩

/-- A decoder reads no document with a member that it does not know. -/
theorem decode_unknown {k : StoredKind} {v : Json} (h : fields k.members true v = none) :
    decode k v = none := by
  cases k <;> exact congrArg (Option.map _) (congrArg (Option.bind · _) h)

/-- A firewall write has all members of an object write but the resource. -/
theorem decode_firewall_as_object (p : SdcPreparedFirewallWrite) :
    decode .objectWrite (encode (.firewallWrite p)) = none := by
  have hf : fields ["operation", "action", "resource", "uuid", "request", "before",
      "plan_digest"] true p.encode =
      some ⟨false, [some (.str p.operation), some (.str p.action.name), none,
        some (encodeOption p.uuid), some p.request.tree, some p.before.tree,
        some (.str p.planDigest)]⟩ := rfl
  show (SdcPreparedObjectWrite.decode p.encode).map _ = none
  unfold SdcPreparedObjectWrite.decode
  rw [hf]
  cases h : ObjectWriteAction.decode (.str p.action.name) <;> simp [required, Json.asStr, h]

/-- **A document is read back by the decoder of its own kind, as what it was.** -/
theorem decode_encode_iff {k : StoredKind} {a b : StoredAction} :
    decode k a.encode = some b ↔ k = a.kind ∧ b = a := by
  constructor
  · intro h
    by_cases hk : k = a.kind
    · rw [hk, decode_encode, Option.some.injEq] at h
      exact ⟨hk, h.symm⟩
    · have hnone : decode k a.encode = none := by
        obtain ⟨members, hencode, hkeys⟩ := a.encode_members
        by_cases hsub : ∀ key ∈ a.kind.members, key ∈ k.members
        · -- The one kind whose members are among another's.
          have hpair : k = .objectWrite ∧ a.kind = .firewallWrite := by
            revert hk hsub
            generalize a.kind = j
            revert j
            cases k <;> intro j <;> cases j <;> decide
          obtain ⟨rfl, hkind⟩ := hpair
          cases a with
          | firewallWrite p => exact decode_firewall_as_object p
          | _ => cases hkind
        · push Not at hsub
          obtain ⟨key, hkey, hunknown⟩ := hsub
          rw [hencode]
          exact decode_unknown (fields_unknown (by rw [hkeys]; exact hkey) hunknown)
      rw [hnone] at h
      cases h
  · rintro ⟨rfl, rfl⟩
    exact b.decode_encode

/-! ### Staged under its digest -/

variable [Crates]

private theorem deployStage_ok_iff {p q : SdcPreparedChange} {digest : String} :
    SdcTransaction.stage digest [p] = .ok q ↔
      q = p ∧ p.validate = .ok () ∧ p.previewDigest = digest := by
  constructor
  · intro h
    obtain ⟨u, hvalid, hrest⟩ := Except.bind_eq_ok_iff.mp h
    by_cases happroved : (decide (p.operation = "policy_deploy")
        && decide (p.previewDigest = digest)) = true
    · rw [if_pos happroved] at hrest
      cases hrest
      rw [Bool.and_eq_true, decide_eq_true_eq, decide_eq_true_eq] at happroved
      exact ⟨rfl, Except.mapError_eq_ok_iff.mp hvalid, happroved.2⟩
    · rw [if_neg happroved] at hrest
      cases hrest
  · rintro ⟨rfl, hvalid, hdigest⟩
    obtain ⟨hoperation, -⟩ := SdcPreparedChange.validate_ok_iff.mp hvalid
    exact SdcTransaction.stage_ok hvalid hdigest hoperation

omit [Crates] in
/-- Staging the one action of a change set, where only valid actions name their operation. -/
private theorem stageOne_one_iff {α : Type} {wrongCount : String}
    {validate : α → Except SdcError Unit} {approved : α → Bool} {p q : α} {fits : Prop}
    (hfits : validate p = .ok () → (approved p = true ↔ fits)) :
    stageOne wrongCount validate approved [p] = .ok q ↔
      q = p ∧ validate p = .ok () ∧ fits := by
  rw [stageOne_ok]
  constructor
  · rintro ⟨hone, hvalid, happroved⟩
    cases hone
    exact ⟨rfl, hvalid, (hfits hvalid).mp happroved⟩
  · rintro ⟨rfl, hvalid, hdigest⟩
    exact ⟨rfl, hvalid, (hfits hvalid).mpr hdigest⟩

/-- An action stages if it is valid, under its own digest, as itself. -/
theorem stage_ok_iff {a b : StoredAction} {digest : String} :
    a.stage digest = .ok b ↔ b = a ∧ a.Valid ∧ a.digest = digest := by
  have hlift : ∀ {α : Type} {mk : α → StoredAction} {x : Except SdcError α} {p : α} {P : Prop}
      (_ : ∀ q, x = .ok q ↔ q = p ∧ P), x.map mk = .ok b ↔ b = mk p ∧ P := by
    intro α mk x p P hx
    rw [Except.map_eq_ok_iff]
    constructor
    · rintro ⟨q, hq, rfl⟩
      obtain ⟨rfl, hP⟩ := (hx q).mp hq
      exact ⟨rfl, hP⟩
    · rintro ⟨rfl, hP⟩
      exact ⟨p, (hx p).mpr ⟨rfl, hP⟩, rfl⟩
  cases a with
  | policyDeploy p => exact hlift fun q => deployStage_ok_iff
  | objectWrite p =>
      refine hlift fun q => stageOne_one_iff fun hvalid => ?_
      obtain ⟨hoperation, -⟩ := SdcPreparedObjectWrite.validate_ok_iff.mp hvalid
      simp [hoperation, StoredAction.digest]
  | firewallWrite p =>
      refine hlift fun q => stageOne_one_iff fun hvalid => ?_
      obtain ⟨hoperation, -⟩ := SdcPreparedFirewallWrite.validate_ok_iff.mp hvalid
      simp [hoperation, StoredAction.digest]
  | natWrite p =>
      refine hlift fun q => (stageOne_one_iff fun _ => ?_).trans
        (and_congr_right fun _ => and_assoc.symm)
      simp [StoredAction.digest]
  | licenseWrite p =>
      refine hlift fun q => stageOne_one_iff fun hvalid => ?_
      obtain ⟨hoperation, -⟩ := SdcPreparedLicenseWrite.validate_ok_iff.mp hvalid
      simp [hoperation, StoredAction.digest]
  | deviceSync p => exact hlift fun q => stageOne_one_iff fun _ => decide_eq_true_iff

/-- What a constructor makes is valid. -/
theorem Constructed.valid {a : StoredAction} (h : a.Constructed) : a.Valid := by
  cases a with
  | policyDeploy p =>
      obtain ⟨targets, request, preview, previewJobId, hnew⟩ := h
      obtain ⟨u, hvalid, hp⟩ := Except.bind_eq_ok_iff.mp hnew
      cases hp
      exact hvalid
  | objectWrite p =>
      obtain ⟨action, resource, uuid, request, before, hnew⟩ := h
      obtain ⟨u, hvalid, hp⟩ := Except.bind_eq_ok_iff.mp hnew
      cases hp
      exact hvalid
  | firewallWrite p =>
      obtain ⟨action, uuid, request, before, hnew⟩ := h
      obtain ⟨u, hvalid, hp⟩ := Except.bind_eq_ok_iff.mp hnew
      cases hp
      exact hvalid
  | natWrite p =>
      obtain ⟨action, policyId, ruleId, groupId, request, before, hnew⟩ := h
      obtain ⟨u, hvalid, hp⟩ := Except.bind_eq_ok_iff.mp hnew
      cases hp
      exact ⟨hvalid, rfl⟩
  | licenseWrite p =>
      obtain ⟨action, deviceUuid, request, before, hnew⟩ := h
      obtain ⟨u, hvalid, hp⟩ := Except.bind_eq_ok_iff.mp hnew
      cases hp
      exact hvalid
  | deviceSync p =>
      obtain ⟨deviceUuids, before, hnew⟩ := h
      obtain ⟨sorted, -, hrest⟩ := Except.bind_eq_ok_iff.mp hnew
      obtain ⟨u, hvalid, hp⟩ := Except.bind_eq_ok_iff.mp hrest
      cases hp
      exact hvalid

/-- **A planned action is applied as what it is.**  Of the document that a planner stores, the
decoder and the transaction of a kind make something exactly when the kind is the planner's and
the digest is the one that was approved, and then they make the planned action. -/
theorem planned_staged_iff {a : StoredAction} (ha : a.Constructed) (k : StoredKind)
    (digest : String) (b : StoredAction) :
    (decode k a.encode.toValue.tree).map (stage digest) = some (.ok b) ↔
      k = a.kind ∧ digest = a.digest ∧ b = a := by
  rw [Json.toValue_tree a.distinct_encode, Option.map_eq_some_iff]
  constructor
  · rintro ⟨c, hc, hstage⟩
    obtain ⟨rfl, rfl⟩ := decode_encode_iff.mp hc
    obtain ⟨rfl, -, rfl⟩ := stage_ok_iff.mp hstage
    exact ⟨rfl, rfl, rfl⟩
  · rintro ⟨rfl, rfl, rfl⟩
    exact ⟨b, b.decode_encode, stage_ok_iff.mpr ⟨rfl, ha.valid, rfl⟩⟩

end StoredAction

section Hosts

local instance storedHostCrates : Crates := hostTables.crates

def hostAction : StoredAction := .objectWrite (hostCreate nameFirst)

/-- A new host is applied as what it is, and not as a firewall policy. -/
theorem host_staged :
    (StoredAction.decode .objectWrite hostAction.encode.toValue.tree).map
        (StoredAction.stage hostAction.digest) = some (.ok hostAction) ∧
    (StoredAction.decode .firewallWrite hostAction.encode.toValue.tree).map
        (StoredAction.stage hostAction.digest) ≠ some (.ok hostAction) := by
  have hvalid : (hostCreate nameFirst).validate = .ok () := by decide +kernel
  have hmade : hostAction.Constructed :=
    ⟨.create, .addresses, none, nameFirst, Value.null,
      Except.bind_eq_ok_iff.mpr ⟨(), hvalid, rfl⟩⟩
  constructor
  · exact (StoredAction.planned_staged_iff hmade .objectWrite _ _).mpr ⟨rfl, rfl, rfl⟩
  · intro h
    obtain ⟨hkind, -⟩ := (StoredAction.planned_staged_iff hmade .firewallWrite _ _).mp h
    cases hkind

end Hosts

end SdcMcp
