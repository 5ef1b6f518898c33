/-
What a plan digest commits to.

An approver approves a digest.  Under it, the transactions of all five kinds accept
at most one action: the digest determines the canonical text of a plan, the text
determines the plan up to member order, and a plan shows every field of its
envelope.  The plans of two kinds never have the same members, so a digest that was
approved for one kind is worth nothing to another.

SHA-256 is assumed to be free of collisions; that the text determines the value is
proved with the JSON library.
-/
import SdcMcp.Proofs.Envelopes
import SdcMcp.Proofs.Scripted

namespace SdcMcp

open Serde

/-! ### Digests -/

section Digests

variable [Crates]

/-- **A digest names a document**, up to the order of members. -/
theorem canonicalDigest_same (hsha : Function.Injective Crates.sha256) {a b : Value}
    (h : canonicalDigest a = canonicalDigest b) : a.Same b := by
  unfold canonicalDigest at h
  have hhex : Hex.encode (Crates.sha256 a.tree.canonicalize.toVec)
      = Hex.encode (Crates.sha256 b.tree.canonicalize.toVec) := by
    have htext := congrArg String.toList h
    rw [String.toList_append, String.toList_append] at htext
    exact String.toList_injective (List.append_cancel_left htext)
  have htext := hsha (Hex.encode_injective hhex)
  exact (Json.canonicalize_eq_iff a.distinct b.distinct).mp (Json.toVec_injective htext)

/-- **Canonical forms and digests tell documents apart, and nothing else.**  Two values have one
canonical form exactly when they are the same document, and a canonical form is its own.  The same
document has one digest, and without collisions of SHA-256 no other document has it. -/
theorem canonical_exact :
    (∀ a b : Value, a.canonicalize = b.canonicalize ↔ a.Same b) ∧
    (∀ v : Value, v.canonicalize.canonicalize = v.canonicalize) ∧
    (∀ a b : Value, a.Same b → canonicalDigest a = canonicalDigest b) ∧
    (Function.Injective Crates.sha256 →
      ∀ a b : Value, canonicalDigest a = canonicalDigest b → a.Same b) := by
  refine ⟨fun a b => Value.canonicalize_eq_iff, Value.canonicalize_canonicalize,
    fun a b hsame => ?_, fun hsha a b => canonicalDigest_same hsha⟩
  unfold canonicalDigest
  rw [(Json.canonicalize_eq_iff a.distinct b.distinct).mpr hsame]

end Digests

/-- A port range without an end. -/
def openRange : Value := ⟨.obj [("from", .str "80"), ("to", .null)], by simp⟩

/-- The same range, with its members the other way round. -/
def turnedRange : Value := ⟨.obj [("to", .null), ("from", .str "80")], by simp⟩

/-- A range that does not say where it ends. -/
def endlessRange : Value := ⟨.obj [("from", .str "80")], by simp⟩

/-- The order of the members makes no other digest, and a missing member does. -/
theorem ranges_told_apart : ∃ _ : Crates, canonicalDigest openRange = canonicalDigest turnedRange ∧
    canonicalDigest openRange ≠ canonicalDigest endlessRange := by
  refine ⟨Tables.crates ⟨[], []⟩, ?_⟩
  obtain ⟨-, -, hsame, hdigest⟩ := @canonical_exact (Tables.crates ⟨[], []⟩)
  constructor
  · refine hsame openRange turnedRange ⟨List.Perm.swap _ _ _, ?_⟩
    have hfrom : ("from", Json.str "80") ∈ [("to", .null), ("from", .str "80")] := by simp
    have hto : ("to", Json.null) ∈ [("to", .null), ("from", .str "80")] := by simp
    exact ⟨⟨_, hfrom, rfl⟩, ⟨_, hto, trivial⟩, trivial⟩
  · intro h
    have hsha := @Tables.sha256_injective ⟨[], []⟩ (by simp) (by simp)
    exact absurd (hdigest hsha openRange endlessRange h).1.length_eq (by decide)

/-- A list of strings is the same document as another only if it is the same list. -/
theorem strings_same {xs ys : List String}
    (h : (Json.arr (xs.map Json.str)).Same (.arr (ys.map Json.str))) : xs = ys := by
  have hitems : Json.SameItems (xs.map Json.str) (ys.map Json.str) := h
  clear h
  induction xs generalizing ys with
  | nil =>
      cases ys with
      | nil => rfl
      | cons y ys => cases hitems
  | cons x xs ih =>
      cases ys with
      | nil => cases hitems
      | cons y ys =>
          obtain ⟨hxy, hrest⟩ := hitems
          rw [show x = y from hxy, ih hrest]

/-! ### What a plan shows -/

theorem SdcPreparedObjectWrite.plan_same (p : SdcPreparedObjectWrite)
    {q : SdcPreparedObjectWrite} (h : p.plan.Same q.plan) :
    p.action = q.action ∧ p.resource = q.resource ∧ p.uuid = q.uuid ∧
      p.before.Same q.before ∧ p.request.Same q.request := by
  obtain ⟨-, hmembers⟩ := h
  simp [Json.SameMembers] at hmembers
  obtain ⟨haction, hresource, huuid, hbefore, hrequest⟩ := hmembers
  exact ⟨ObjectWriteAction.name_inj haction, WritableResource.name_inj hresource,
    encodeOption_inj huuid, hbefore, hrequest⟩

theorem SdcPreparedFirewallWrite.plan_same (p : SdcPreparedFirewallWrite)
    {q : SdcPreparedFirewallWrite} (h : p.plan.Same q.plan) :
    p.action = q.action ∧ p.uuid = q.uuid ∧ p.before.Same q.before ∧
      p.request.Same q.request := by
  obtain ⟨-, hmembers⟩ := h
  simp [Json.SameMembers] at hmembers
  obtain ⟨haction, huuid, hbefore, hrequest⟩ := hmembers
  exact ⟨FirewallWriteOperation.name_inj haction, encodeOption_inj huuid, hbefore, hrequest⟩

theorem SdcPreparedNatWrite.plan_same (p : SdcPreparedNatWrite) {q : SdcPreparedNatWrite}
    (h : p.plan.Same q.plan) :
    p.action = q.action ∧ p.policyId = q.policyId ∧ p.ruleId = q.ruleId ∧
      p.groupId = q.groupId ∧ p.before.Same q.before ∧ p.request.Same q.request := by
  obtain ⟨-, hmembers⟩ := h
  simp [Json.SameMembers] at hmembers
  obtain ⟨haction, hpolicy, hrule, hgroup, hbefore, hrequest⟩ := hmembers
  exact ⟨NatWriteOperation.name_inj haction, encodeOption_inj hpolicy, encodeOption_inj hrule,
    encodeOption_inj hgroup, hbefore, hrequest⟩

theorem SdcPreparedLicenseWrite.plan_same (p : SdcPreparedLicenseWrite)
    {q : SdcPreparedLicenseWrite} (h : p.plan.Same q.plan) :
    p.action = q.action ∧ p.deviceUuid = q.deviceUuid ∧ p.before.Same q.before ∧
      p.request.Same q.request := by
  obtain ⟨-, hmembers⟩ := h
  simp [Json.SameMembers] at hmembers
  obtain ⟨haction, hdevice, hbefore, hrequest⟩ := hmembers
  exact ⟨LicenseWriteOperation.name_inj haction, hdevice, hbefore, hrequest⟩

theorem SdcPreparedDeviceSync.plan_same (p : SdcPreparedDeviceSync) {q : SdcPreparedDeviceSync}
    (h : p.plan.Same q.plan) : p.deviceUuids = q.deviceUuids ∧ p.before.Same q.before := by
  obtain ⟨-, hmembers⟩ := h
  simp [Json.SameMembers] at hmembers
  obtain ⟨-, -, -, hdevices, hbefore⟩ := hmembers
  exact ⟨strings_same hdevices, hbefore⟩

/-! ### The five kinds -/

inductive PlanKind where
  | object
  | firewall
  | nat
  | license
  | deviceSync

namespace PlanKind

/-- The operation that an action of this kind names. -/
def operation : PlanKind → String
  | .object => "object_write"
  | .firewall => "firewall_write"
  | .nat => "nat_write"
  | .license => "license_write"
  | .deviceSync => "device_sync"

/-- The members of a plan. -/
def keys : PlanKind → List String
  | .object => ["action", "resource", "uuid", "before", "after"]
  | .firewall => ["action", "uuid", "before", "after"]
  | .nat => ["action", "policy_id", "rule_id", "group_id", "before", "after"]
  | .license => ["action", "device_uuid", "before", "after"]
  | .deviceSync => ["action", "direction", "does_not", "device_uuids", "before"]

/-- The members of a plan tell its kind. -/
theorem keys_perm_inj {a b : PlanKind} (h : a.keys.Perm b.keys) : a = b := by
  cases a <;> cases b <;> first | rfl | exact absurd h (by decide)

end PlanKind

/-- A stored action that is approved by a plan digest. -/
inductive PlannedAction where
  | object (p : SdcPreparedObjectWrite)
  | firewall (p : SdcPreparedFirewallWrite)
  | nat (p : SdcPreparedNatWrite)
  | license (p : SdcPreparedLicenseWrite)
  | deviceSync (p : SdcPreparedDeviceSync)

namespace PlannedAction

def kind : PlannedAction → PlanKind
  | .object _ => .object
  | .firewall _ => .firewall
  | .nat _ => .nat
  | .license _ => .license
  | .deviceSync _ => .deviceSync

def plan : PlannedAction → Value
  | .object p => p.plan
  | .firewall p => p.plan
  | .nat p => p.plan
  | .license p => p.plan
  | .deviceSync p => p.plan

/-- The same kind and the same fields, with documents compared up to member order. -/
def Agree : PlannedAction → PlannedAction → Prop
  | .object p, .object q => p.operation = q.operation ∧ p.action = q.action ∧
      p.resource = q.resource ∧ p.uuid = q.uuid ∧ p.request.Same q.request ∧
      p.before.Same q.before ∧ p.planDigest = q.planDigest
  | .firewall p, .firewall q => p.operation = q.operation ∧ p.action = q.action ∧
      p.uuid = q.uuid ∧ p.request.Same q.request ∧ p.before.Same q.before ∧
      p.planDigest = q.planDigest
  | .nat p, .nat q => p.operation = q.operation ∧ p.action = q.action ∧
      p.policyId = q.policyId ∧ p.ruleId = q.ruleId ∧ p.groupId = q.groupId ∧
      p.request.Same q.request ∧ p.before.Same q.before ∧ p.planDigest = q.planDigest
  | .license p, .license q => p.operation = q.operation ∧ p.action = q.action ∧
      p.deviceUuid = q.deviceUuid ∧ p.request.Same q.request ∧ p.before.Same q.before ∧
      p.planDigest = q.planDigest
  | .deviceSync p, .deviceSync q => p.operation = q.operation ∧ p.deviceUuids = q.deviceUuids ∧
      p.before.Same q.before ∧ p.planDigest = q.planDigest
  | _, _ => False

variable [Crates]

/-- The transaction of its own kind admits the action under a digest. -/
def Staged (digest : String) : PlannedAction → Prop
  | .object p => ∃ actions, SdcObjectTransaction.stage digest actions = .ok p
  | .firewall p => ∃ actions, SdcFirewallTransaction.stage digest actions = .ok p
  | .nat p => ∃ actions, SdcNatTransaction.stage digest actions = .ok p
  | .license p => ∃ actions, SdcLicenseTransaction.stage digest actions = .ok p
  | .deviceSync p => ∃ actions, SdcDeviceSyncTransaction.stage digest actions = .ok p

def operation : PlannedAction → String
  | .object p => p.operation
  | .firewall p => p.operation
  | .nat p => p.operation
  | .license p => p.operation
  | .deviceSync p => p.operation

def planDigest : PlannedAction → String
  | .object p => p.planDigest
  | .firewall p => p.planDigest
  | .nat p => p.planDigest
  | .license p => p.planDigest
  | .deviceSync p => p.planDigest

/-- What staging checks in every kind. -/
theorem Staged.checked {digest : String} {a : PlannedAction} (h : a.Staged digest) :
    a.operation = a.kind.operation ∧ a.planDigest = digest ∧ canonicalDigest a.plan = digest := by
  cases a with
  | object p =>
      obtain ⟨actions, h⟩ := h
      obtain ⟨-, hvalid, happroved⟩ := stageOne_ok.mp h
      obtain ⟨hoperation, -, -, hdigest, -⟩ := SdcPreparedObjectWrite.validate_ok_iff.mp hvalid
      simp only [Bool.and_eq_true, decide_eq_true_eq] at happroved
      exact ⟨hoperation, happroved.2, hdigest.trans happroved.2⟩
  | firewall p =>
      obtain ⟨actions, h⟩ := h
      obtain ⟨-, hvalid, happroved⟩ := stageOne_ok.mp h
      obtain ⟨hoperation, -, -, -, hdigest, -⟩ :=
        SdcPreparedFirewallWrite.validate_ok_iff.mp hvalid
      simp only [Bool.and_eq_true, decide_eq_true_eq] at happroved
      exact ⟨hoperation, happroved.2, hdigest.trans happroved.2⟩
  | nat p =>
      obtain ⟨actions, h⟩ := h
      obtain ⟨-, hvalid, happroved⟩ := stageOne_ok.mp h
      obtain ⟨hdigest, -, -⟩ := SdcPreparedNatWrite.validate_ok_iff.mp hvalid
      simp only [Bool.and_eq_true, decide_eq_true_eq] at happroved
      exact ⟨happroved.1, happroved.2, hdigest.trans happroved.2⟩
  | license p =>
      obtain ⟨actions, h⟩ := h
      obtain ⟨-, hvalid, happroved⟩ := stageOne_ok.mp h
      obtain ⟨hoperation, -, -, -, hdigest, -⟩ :=
        SdcPreparedLicenseWrite.validate_ok_iff.mp hvalid
      simp only [Bool.and_eq_true, decide_eq_true_eq] at happroved
      exact ⟨hoperation, happroved.2, hdigest.trans happroved.2⟩
  | deviceSync p =>
      obtain ⟨actions, h⟩ := h
      obtain ⟨-, hvalid, happroved⟩ := stageOne_ok.mp h
      obtain ⟨hoperation, -, hdigest, -⟩ := SdcPreparedDeviceSync.validate_ok_iff.mp hvalid
      have happroved := of_decide_eq_true happroved
      exact ⟨hoperation, happroved, hdigest.trans happroved⟩

omit [Crates]

/-- The same plan is a plan of the same kind. -/
theorem kind_of_plan_same {a b : PlannedAction} (h : a.plan.Same b.plan) : a.kind = b.kind := by
  refine PlanKind.keys_perm_inj ?_
  cases a <;> cases b <;> exact h.1

/-- Two actions with the same plan are of one kind and agree in every field the plan shows. -/
theorem agree_of_plan_same {a b : PlannedAction} (h : a.plan.Same b.plan)
    (hoperation : a.operation = b.operation) (hdigest : a.planDigest = b.planDigest) :
    a.Agree b := by
  have hkind := kind_of_plan_same h
  cases a <;> cases b
  case object.object p q =>
    obtain ⟨haction, hresource, huuid, hbefore, hrequest⟩ := p.plan_same h
    exact ⟨hoperation, haction, hresource, huuid, hrequest, hbefore, hdigest⟩
  case firewall.firewall p q =>
    obtain ⟨haction, huuid, hbefore, hrequest⟩ := p.plan_same h
    exact ⟨hoperation, haction, huuid, hrequest, hbefore, hdigest⟩
  case nat.nat p q =>
    obtain ⟨haction, hpolicy, hrule, hgroup, hbefore, hrequest⟩ := p.plan_same h
    exact ⟨hoperation, haction, hpolicy, hrule, hgroup, hrequest, hbefore, hdigest⟩
  case license.license p q =>
    obtain ⟨haction, hdevice, hbefore, hrequest⟩ := p.plan_same h
    exact ⟨hoperation, haction, hdevice, hrequest, hbefore, hdigest⟩
  case deviceSync.deviceSync p q =>
    obtain ⟨hdevices, hbefore⟩ := p.plan_same h
    exact ⟨hoperation, hdevices, hbefore, hdigest⟩
  all_goals cases hkind

variable [Crates]

/-- **One digest, one action.**  Of everything that could be stored, the transactions of the
five kinds accept under a digest only actions of one kind that agree in every field. -/
theorem staged_agree (hsha : Function.Injective Crates.sha256) (digest : String)
    (a b : PlannedAction) (ha : a.Staged digest) (hb : b.Staged digest) : a.Agree b := by
  obtain ⟨hoperationA, hdigestA, hplanA⟩ := ha.checked
  obtain ⟨hoperationB, hdigestB, hplanB⟩ := hb.checked
  have hplan : a.plan.Same b.plan := canonicalDigest_same hsha (hplanA.trans hplanB.symm)
  have hkind := kind_of_plan_same hplan
  have hoperation : a.operation = b.operation := by rw [hoperationA, hoperationB, hkind]
  exact agree_of_plan_same hplan hoperation (hdigestA.trans hdigestB.symm)

end PlannedAction

/-! ### Two spellings of one action -/

section Spellings

def hostTables : Tables where
  documents := []
  digests :=
    [(.obj [("action", .str "create"),
        ("after", .obj [("name", .str "web"), ("type", .str "HOST")]), ("before", .null),
        ("resource", .str "addresses"), ("uuid", .null)],
      [133, 26, 18, 204, 59, 45, 173, 115, 58, 114, 192, 110, 249, 118, 205, 19, 3, 185, 246,
        234, 217, 47, 110, 231, 215, 135, 34, 114, 230, 200, 248, 67])]

local instance hostCrates : Crates := hostTables.crates

def hostCreate (request : Value) : SdcPreparedObjectWrite where
  operation := "object_write"
  action := .create
  resource := .addresses
  uuid := none
  request := request
  before := Value.null
  planDigest := canonicalDigest
    (SdcPreparedObjectWrite.planArtifact .create .addresses none request Value.null)

def nameFirst : Value := ⟨.obj [("name", .str "web"), ("type", .str "HOST")], by simp⟩

def typeFirst : Value := ⟨.obj [("type", .str "HOST"), ("name", .str "web")], by simp⟩

/-- The two are staged under one digest, and they are the same action. -/
theorem spellings_agree :
    (PlannedAction.object (hostCreate nameFirst)).Agree (.object (hostCreate typeFirst)) := by
  have hsha : Function.Injective (Crates.sha256 : List UInt8 → List UInt8) :=
    Tables.sha256_injective (by decide) (by simp [hostTables])
  exact PlannedAction.staged_agree hsha (hostCreate nameFirst).planDigest _ _
    ⟨_, stageOne_ok.mpr ⟨rfl, by decide +kernel, by decide +kernel⟩⟩
    ⟨_, stageOne_ok.mpr ⟨rfl, by decide +kernel, by decide +kernel⟩⟩

end Spellings

end SdcMcp
