/-
What restaging a stored action admits.

An envelope is checked twice, by its constructor and again when its stored document is
staged.  For five kinds the two checks agree: an envelope that stages is what its
constructor makes of its own fields.  The constructor of a device sync also checks and
sorts the list of devices, and the revalidation does not look at that list.
-/
import SdcMcp.Model.Stored
import SdcMcp.Proofs.DeployFidelity
import SdcMcp.Proofs.Envelopes
import SdcMcp.Proofs.Scripted

namespace SdcMcp

/-! ### Device lists -/

/-- A list of devices as the constructor leaves it. -/
structure CanonicalDevices (deviceUuids : List String) : Prop where
  size : deviceUuids.length ≤ maxDevicesPerSync
  atoms : ∀ uuid ∈ deviceUuids, isAtom 256 uuid = true
  sorted : deviceUuids.Pairwise (· < ·)

private theorem isChain_lt {l : List String} (hle : l.IsChain (· ≤ ·))
    (hne : l.IsChain (· ≠ ·)) : l.IsChain (· < ·) := by
  induction l with
  | nil => exact .nil
  | cons a rest ih =>
      cases rest with
      | nil => exact .singleton a
      | cons b rest =>
          obtain ⟨hab, hle⟩ := List.isChain_cons_cons.mp hle
          obtain ⟨hab', hne⟩ := List.isChain_cons_cons.mp hne
          exact .cons_cons (lt_of_le_of_ne hab hab') (ih hle hne)

/-- A sorted list without equal neighbours is strictly sorted. -/
private theorem destutter_length_iff {l : List String} (hsorted : l.Pairwise (· ≤ ·)) :
    (l.destutter (· ≠ ·)).length = l.length ↔ l.Pairwise (· < ·) := by
  constructor
  · intro hlength
    have hself : l.destutter (· ≠ ·) = l :=
      (l.destutter_sublist (· ≠ ·)).eq_of_length hlength
    have hchain := (l.destutter_eq_self_iff (· ≠ ·)).mp hself
    exact List.isChain_iff_pairwise.mp (isChain_lt hsorted.isChain hchain)
  · intro hlt
    have hchain : l.IsChain (· ≠ ·) := (hlt.imp fun h => ne_of_lt h).isChain
    rw [l.destutter_of_isChain (· ≠ ·) hchain]

/-- The constructor sorts its list and refuses what is not canonical then. -/
theorem SdcPreparedDeviceSync.canonicalDeviceList_ok_iff {deviceUuids sorted : List String} :
    canonicalDeviceList deviceUuids = .ok sorted ↔
      sorted = deviceUuids.insertionSort (· ≤ ·) ∧ sorted ≠ [] ∧ CanonicalDevices sorted := by
  have hperm := deviceUuids.perm_insertionSort (· ≤ ·)
  have hpairs := deviceUuids.pairwise_insertionSort (· ≤ ·)
  unfold canonicalDeviceList
  simp only [Except.guard_bind_eq_ok_iff, not_not, destutter_length_iff hpairs]
  constructor
  · rintro ⟨hne, hsize, hatoms, hdistinct, hsorted⟩
    cases hsorted
    refine ⟨rfl, ?_, ?_, ?_, hdistinct⟩
    · intro hnil
      rw [hnil] at hperm
      exact hne (List.isEmpty_iff.mpr hperm.nil_eq.symm)
    · rw [hperm.length_eq]
      omega
    · intro uuid huuid
      have hmem := hperm.mem_iff.mp huuid
      by_contra hbad
      exact hatoms (List.any_eq_true.mpr ⟨uuid, hmem, by simpa using hbad⟩)
  · rintro ⟨rfl, hne, hsize, hatoms, hdistinct⟩
    rw [hperm.length_eq] at hsize
    refine ⟨?_, by omega, ?_, hdistinct, rfl⟩
    · intro hempty
      rw [List.isEmpty_iff.mp hempty] at hne
      exact hne rfl
    · intro hany
      obtain ⟨uuid, hmem, hbad⟩ := List.any_eq_true.mp hany
      rw [hatoms uuid (hperm.mem_iff.mpr hmem)] at hbad
      cases hbad

/-! ### Envelopes that a constructor makes -/

namespace StoredAction

variable [Crates]

/-- Some arguments of the constructor of its kind make it. -/
def Constructed : StoredAction → Prop
  | .policyDeploy p => ∃ targets request preview previewJobId,
      SdcPreparedChange.new targets request preview previewJobId = .ok p
  | .objectWrite p => ∃ action resource uuid request before,
      SdcPreparedObjectWrite.new action resource uuid request before = .ok p
  | .firewallWrite p => ∃ action uuid request before,
      SdcPreparedFirewallWrite.new action uuid request before = .ok p
  | .natWrite p => ∃ action policyId ruleId groupId request before,
      SdcPreparedNatWrite.new action policyId ruleId groupId request before = .ok p
  | .licenseWrite p => ∃ action deviceUuid request before,
      SdcPreparedLicenseWrite.new action deviceUuid request before = .ok p
  | .deviceSync p => ∃ deviceUuids before, SdcPreparedDeviceSync.new deviceUuids before = .ok p

/-- The lists of an envelope as its constructor bounds and orders them. -/
def ListsFit : StoredAction → Prop
  | .policyDeploy p => 1 ≤ p.targets.length ∧ p.targets.length ≤ 4096 ∧
      (∀ target ∈ p.targets, target.validate = .ok ()) ∧
      p.targets.Pairwise fun a b => a.key < b.key
  | .deviceSync p => 1 ≤ p.deviceUuids.length ∧ p.deviceUuids.length ≤ 64 ∧
      (∀ uuid ∈ p.deviceUuids, isAtom 256 uuid = true) ∧ p.deviceUuids.Pairwise (· < ·)
  | _ => True

/-- The one thing that staging does not check again. -/
def DevicesCanonical : StoredAction → Prop
  | .deviceSync p => CanonicalDevices p.deviceUuids
  | _ => True

/-- The revalidation of an envelope when it is staged. -/
def Valid : StoredAction → Prop
  | .policyDeploy p => p.validate = .ok ()
  | .objectWrite p => p.validate = .ok ()
  | .firewallWrite p => p.validate = .ok ()
  | .natWrite p => p.validate = .ok () ∧ p.operation = "nat_write"
  | .licenseWrite p => p.validate = .ok ()
  | .deviceSync p => p.validate = .ok ()

private theorem deployStage_ok {p q : SdcPreparedChange} {expectedDigest : String}
    (h : SdcTransaction.stage expectedDigest [p] = .ok q) : p = q ∧ p.validate = .ok () := by
  obtain ⟨u, hvalid, hrest⟩ := Except.bind_eq_ok_iff.mp h
  by_cases happroved : (decide (p.operation = "policy_deploy")
      && decide (p.previewDigest = expectedDigest)) = true
  · rw [if_pos happroved] at hrest
    cases hrest
    exact ⟨rfl, Except.mapError_eq_ok_iff.mp hvalid⟩
  · rw [if_neg happroved] at hrest
    cases hrest

/-- What stages is the action itself, and it is valid. -/
theorem stage_ok {action staged : StoredAction} {expectedDigest : String}
    (h : action.stage expectedDigest = .ok staged) : staged = action ∧ action.Valid := by
  cases action with
  | policyDeploy p =>
      obtain ⟨q, hq, rfl⟩ := Except.map_eq_ok_iff.mp h
      obtain ⟨rfl, hvalid⟩ := deployStage_ok hq
      exact ⟨rfl, hvalid⟩
  | objectWrite p =>
      obtain ⟨q, hq, rfl⟩ := Except.map_eq_ok_iff.mp h
      obtain ⟨hone, hvalid, -⟩ := stageOne_ok.mp hq
      cases hone
      exact ⟨rfl, hvalid⟩
  | firewallWrite p =>
      obtain ⟨q, hq, rfl⟩ := Except.map_eq_ok_iff.mp h
      obtain ⟨hone, hvalid, -⟩ := stageOne_ok.mp hq
      cases hone
      exact ⟨rfl, hvalid⟩
  | natWrite p =>
      obtain ⟨q, hq, rfl⟩ := Except.map_eq_ok_iff.mp h
      obtain ⟨hone, hvalid, happroved⟩ := stageOne_ok.mp hq
      cases hone
      rw [Bool.and_eq_true, decide_eq_true_eq] at happroved
      exact ⟨rfl, hvalid, happroved.1⟩
  | licenseWrite p =>
      obtain ⟨q, hq, rfl⟩ := Except.map_eq_ok_iff.mp h
      obtain ⟨hone, hvalid, -⟩ := stageOne_ok.mp hq
      cases hone
      exact ⟨rfl, hvalid⟩
  | deviceSync p =>
      obtain ⟨q, hq, rfl⟩ := Except.map_eq_ok_iff.mp h
      obtain ⟨hone, hvalid, -⟩ := stageOne_ok.mp hq
      cases hone
      exact ⟨rfl, hvalid⟩

/-! ### One constructor at a time -/

omit [Crates] in
private theorem validateTargets_valid {targets : List SdcPreparedTarget}
    {previous : Option SdcPreparedTarget}
    (h : SdcPreparedChange.validateTargets previous targets = .ok ()) :
    ∀ target ∈ targets, target.validate = .ok () := by
  induction targets generalizing previous with
  | nil => simp
  | cons target rest ih =>
      obtain ⟨u, hvalid, h⟩ := Except.bind_eq_ok_iff.mp h
      exact List.forall_mem_cons.mpr ⟨hvalid, ih (Except.guard_bind_eq_ok_iff.mp h).2⟩

private theorem deploy_targets_fit {p : SdcPreparedChange} (hvalid : p.validate = .ok ()) :
    (StoredAction.policyDeploy p).ListsFit := by
  obtain ⟨-, ⟨hne, hsize⟩, htargets, -⟩ := SdcPreparedChange.validate_ok_iff.mp hvalid
  exact ⟨List.length_pos_iff.mpr hne, hsize, validateTargets_valid htargets,
    (SdcPreparedChange.validateTargets_sorted htargets).2⟩

private theorem deploy_constructed {p : SdcPreparedChange} (hvalid : p.validate = .ok ()) :
    (StoredAction.policyDeploy p).Constructed := by
  obtain ⟨hoperation, -, htargets, -, hdigest, -⟩ := SdcPreparedChange.validate_ok_iff.mp hvalid
  have hpairs := (SdcPreparedChange.validateTargets_sorted htargets).2
  have hsorted : sortTargets p.targets = p.targets :=
    (hpairs.imp fun h => le_of_lt h).insertionSort_eq
  obtain ⟨operation, targets, request, preview, previewDigest, previewJobId⟩ := p
  cases hoperation
  have hplan : canonicalDigest preview = previewDigest := hdigest
  have hlist : sortTargets targets = targets := hsorted
  subst hplan
  refine ⟨targets, request, preview, previewJobId, ?_⟩
  unfold SdcPreparedChange.new
  rw [hlist]
  exact Except.bind_eq_ok_iff.mpr ⟨(), hvalid, rfl⟩

private theorem object_constructed {p : SdcPreparedObjectWrite} (hvalid : p.validate = .ok ()) :
    (StoredAction.objectWrite p).Constructed := by
  obtain ⟨hoperation, -, -, hdigest, -⟩ := SdcPreparedObjectWrite.validate_ok_iff.mp hvalid
  obtain ⟨operation, action, resource, uuid, request, before, planDigest⟩ := p
  cases hoperation
  have hplan : canonicalDigest
      (SdcPreparedObjectWrite.planArtifact action resource uuid request before)
      = planDigest := hdigest
  subst hplan
  exact ⟨action, resource, uuid, request, before, Except.bind_eq_ok_iff.mpr ⟨(), hvalid, rfl⟩⟩

private theorem firewall_constructed {p : SdcPreparedFirewallWrite} (hvalid : p.validate = .ok ()) :
    (StoredAction.firewallWrite p).Constructed := by
  obtain ⟨hoperation, -, -, -, hdigest, -⟩ := SdcPreparedFirewallWrite.validate_ok_iff.mp hvalid
  obtain ⟨operation, action, uuid, request, before, planDigest⟩ := p
  cases hoperation
  have hplan : canonicalDigest (SdcPreparedFirewallWrite.planArtifact action uuid request before)
      = planDigest := hdigest
  subst hplan
  exact ⟨action, uuid, request, before, Except.bind_eq_ok_iff.mpr ⟨(), hvalid, rfl⟩⟩

private theorem nat_constructed {p : SdcPreparedNatWrite} (hvalid : p.validate = .ok ())
    (hoperation : p.operation = "nat_write") : (StoredAction.natWrite p).Constructed := by
  obtain ⟨hdigest, -⟩ := SdcPreparedNatWrite.validate_ok_iff.mp hvalid
  obtain ⟨operation, action, policyId, ruleId, groupId, request, before, planDigest⟩ := p
  cases hoperation
  have hplan : canonicalDigest
      (SdcPreparedNatWrite.planArtifact action policyId ruleId groupId request before)
      = planDigest := hdigest
  subst hplan
  exact ⟨action, policyId, ruleId, groupId, request, before,
    Except.bind_eq_ok_iff.mpr ⟨(), hvalid, rfl⟩⟩

private theorem license_constructed {p : SdcPreparedLicenseWrite} (hvalid : p.validate = .ok ()) :
    (StoredAction.licenseWrite p).Constructed := by
  obtain ⟨hoperation, -, -, -, hdigest, -⟩ := SdcPreparedLicenseWrite.validate_ok_iff.mp hvalid
  obtain ⟨operation, action, deviceUuid, request, before, planDigest⟩ := p
  cases hoperation
  have hplan : canonicalDigest
      (SdcPreparedLicenseWrite.planArtifact action deviceUuid request before)
      = planDigest := hdigest
  subst hplan
  exact ⟨action, deviceUuid, request, before, Except.bind_eq_ok_iff.mpr ⟨(), hvalid, rfl⟩⟩

/-- A device sync is what its constructor makes when its list is what the constructor's is. -/
private theorem sync_constructed_iff {p : SdcPreparedDeviceSync} (hvalid : p.validate = .ok ()) :
    (StoredAction.deviceSync p).Constructed ↔ CanonicalDevices p.deviceUuids := by
  constructor
  · rintro ⟨deviceUuids, before, hnew⟩
    obtain ⟨sorted, hsorted, hrest⟩ := Except.bind_eq_ok_iff.mp hnew
    obtain ⟨u, -, hp⟩ := Except.bind_eq_ok_iff.mp hrest
    cases hp
    exact (SdcPreparedDeviceSync.canonicalDeviceList_ok_iff.mp hsorted).2.2
  · intro hcanonical
    obtain ⟨hoperation, hne, hdigest, -⟩ := SdcPreparedDeviceSync.validate_ok_iff.mp hvalid
    obtain ⟨operation, deviceUuids, before, planDigest⟩ := p
    cases hoperation
    have hplan : canonicalDigest (SdcPreparedDeviceSync.planArtifact deviceUuids before)
        = planDigest := hdigest
    subst hplan
    have hsorted : deviceUuids.insertionSort (· ≤ ·) = deviceUuids :=
      (hcanonical.sorted.imp fun h => le_of_lt h).insertionSort_eq
    have hlist : SdcPreparedDeviceSync.canonicalDeviceList deviceUuids = .ok deviceUuids :=
      SdcPreparedDeviceSync.canonicalDeviceList_ok_iff.mpr ⟨hsorted.symm, hne, hcanonical⟩
    exact ⟨deviceUuids, before, Except.bind_eq_ok_iff.mpr
      ⟨deviceUuids, hlist, Except.bind_eq_ok_iff.mpr ⟨(), hvalid, rfl⟩⟩⟩

/-- **Restaging admits what a constructor can build, but for the list of a device sync.**  A
stored action of any kind that stages comes from its constructor, with its lists within bounds
and in order, exactly when it is not a device sync or the devices it names are at most 64 valid
identifiers in strict order. -/
theorem restaged_constructed_iff {kind : StoredKind} {document : Json} {expectedDigest : String}
    {staged : StoredAction}
    (hstaged : (decode kind document).map (stage expectedDigest) = some (.ok staged)) :
    staged.Constructed ∧ staged.ListsFit ↔ staged.DevicesCanonical := by
  obtain ⟨action, -, hstage⟩ := Option.map_eq_some_iff.mp hstaged
  obtain ⟨rfl, hvalid⟩ := stage_ok hstage
  cases staged with
  | policyDeploy p =>
      exact iff_of_true ⟨deploy_constructed hvalid, deploy_targets_fit hvalid⟩ trivial
  | objectWrite p => exact iff_of_true ⟨object_constructed hvalid, trivial⟩ trivial
  | firewallWrite p => exact iff_of_true ⟨firewall_constructed hvalid, trivial⟩ trivial
  | natWrite p => exact iff_of_true ⟨nat_constructed hvalid.1 hvalid.2, trivial⟩ trivial
  | licenseWrite p => exact iff_of_true ⟨license_constructed hvalid, trivial⟩ trivial
  | deviceSync p =>
      have hiff := sync_constructed_iff hvalid
      refine ⟨fun h => hiff.mp h.1, fun h => ⟨hiff.mpr h, ?_⟩⟩
      obtain ⟨-, hne, -⟩ := SdcPreparedDeviceSync.validate_ok_iff.mp hvalid
      exact ⟨List.length_pos_iff.mpr hne, h.size, h.atoms, h.sorted⟩

end StoredAction

section Syncs

/-- The plan of a sync of some devices of which nothing was observed, in key order. -/
def emptySyncPlan (deviceUuids : List String) : Json :=
  .obj [("action", .str "device_sync"), ("before", .obj []),
    ("device_uuids", .arr (deviceUuids.map Json.str)),
    ("direction", .str ("import: reads each device's inventory and updates SDC's model; "
      ++ "no device is written")),
    ("does_not",
      .str "reconcile configuration drift — device_config_state is left untouched")]

def restageTables : Tables where
  documents := []
  digests :=
    [(emptySyncPlan ["device-1", "device-2"],
      [44, 18, 156, 210, 132, 119, 98, 232, 216, 84, 101, 174, 190, 249, 162, 16, 135, 137,
       146, 204, 34, 50, 176, 48, 251, 156, 194, 14, 250, 27, 151, 79]),
    (emptySyncPlan ["device-1", "device-1"],
      [243, 149, 127, 18, 254, 72, 152, 129, 233, 115, 82, 119, 54, 11, 205, 31, 109, 148,
       214, 146, 71, 179, 217, 181, 94, 91, 146, 140, 47, 201, 226, 220])]

local instance restageCrates : Crates := restageTables.crates

private theorem distinct_no_members : (Json.obj []).Distinct := by
  refine Json.distinct_obj.mpr ⟨List.nodup_nil, fun m hm => ?_⟩
  exact absurd hm List.not_mem_nil

/-- A sync of some devices as a stored document may have it. -/
def storedSync (deviceUuids : List String) : SdcPreparedDeviceSync :=
  let before : Value := ⟨.obj [], distinct_no_members⟩
  { operation := "device_sync"
    deviceUuids := deviceUuids
    before := before
    planDigest := canonicalDigest (SdcPreparedDeviceSync.planArtifact deviceUuids before) }

/-- A stored sync that is valid stages. -/
private theorem storedSync_stages {deviceUuids : List String}
    (hvalid : (storedSync deviceUuids).validate = .ok ()) :
    (StoredAction.decode .deviceSync (storedSync deviceUuids).encode).map
        (StoredAction.stage (storedSync deviceUuids).planDigest)
      = some (.ok (.deviceSync (storedSync deviceUuids))) := by
  have hstage : SdcDeviceSyncTransaction.stage (storedSync deviceUuids).planDigest
      [storedSync deviceUuids] = .ok (storedSync deviceUuids) :=
    stageOne_ok.mpr ⟨rfl, hvalid, decide_eq_true rfl⟩
  show ((SdcPreparedDeviceSync.decode _).map _).map _ = _
  rw [SdcPreparedDeviceSync.decode_encode, Option.map_some, Option.map_some]
  show some (Except.map _ _) = _
  rw [hstage]
  rfl

/-- Two devices in order restage as their constructor made them. -/
theorem ordered_sync_constructed : (StoredAction.deviceSync
    (storedSync ["device-1", "device-2"])).Constructed := by
  have hvalid : (storedSync ["device-1", "device-2"]).validate = .ok () := by decide +kernel
  refine ((StoredAction.restaged_constructed_iff (storedSync_stages hvalid)).mpr
    ⟨by decide, by decide +kernel, by decide +kernel⟩).1

/-- One device that is named twice restages, and no constructor call makes that sync. -/
theorem repeated_sync_restages :
    (StoredAction.decode .deviceSync (storedSync ["device-1", "device-1"]).encode).map
        (StoredAction.stage (storedSync ["device-1", "device-1"]).planDigest)
      = some (.ok (.deviceSync (storedSync ["device-1", "device-1"]))) ∧
    ¬ (StoredAction.deviceSync (storedSync ["device-1", "device-1"])).Constructed := by
  have hvalid : (storedSync ["device-1", "device-1"]).validate = .ok () := by decide +kernel
  refine ⟨storedSync_stages hvalid, ?_⟩
  rintro ⟨deviceUuids, before, hnew⟩
  obtain ⟨sorted, hsorted, hrest⟩ := Except.bind_eq_ok_iff.mp hnew
  obtain ⟨u, -, hp⟩ := Except.bind_eq_ok_iff.mp hrest
  cases hp
  have hpairs := (SdcPreparedDeviceSync.canonicalDeviceList_ok_iff.mp hsorted).2.2.sorted
  exact absurd hpairs (by decide +kernel)

end Syncs

end SdcMcp
