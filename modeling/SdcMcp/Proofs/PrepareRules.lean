/-
When a preview job is spent on a request that is refused anyway.

The rules for a list of policies are checked at two times.  Some come before the preview
is submitted, and a request that breaks one of them costs nothing.  The others, on the
identifiers and the number of the targets, are the envelope's own checks, and the
envelope is made when the preview has finished and every device has been read.
-/
import SdcMcp.Model.Prepare
import SdcMcp.Proofs.DeployFidelity
import SdcMcp.Proofs.Retry

namespace SdcMcp

open Interactive

/-! ### The rules -/

/-- The targets of all operations, with repetitions. -/
def policyTargets (policies : List PolicyOperation) : List Target :=
  policies.flatMap fun operation => operation.deployTargets ++ operation.undeployTargets

/-- The rules that are checked before the preview. -/
structure EarlyRulesKept (policies : List PolicyOperation) : Prop where
  devices : ∀ target ∈ policyTargets policies, target.targetType ≠ .deviceGroup
  count : policies ≠ [] ∧ policies.length ≤ 256
  ids : ∀ operation ∈ policies, isAtom 256 operation.policyId = true
  targeted : ∀ operation ∈ policies, operation.deployTargets ≠ [] ∨ operation.undeployTargets ≠ []

/-- The rules that are checked when the envelope is made. -/
structure LateRulesKept (policies : List PolicyOperation) : Prop where
  ids : ∀ target ∈ policyTargets policies, isAtom 256 target.targetId = true
  count : 1 ≤ (policyTargets policies).dedup.length ∧ (policyTargets policies).dedup.length ≤ 4096

/-- The refusals of `prepare` before it calls the client, and the client's before it sends. -/
def checkPolicies (policies : List PolicyOperation) : Except SdcError Unit := do
  policies.forM fun operation => do
    validateDeployTargets operation.deployTargets
    validateDeployTargets operation.undeployTargets
  validatePolicyOperations policies

private theorem validateDeployTargets_ok_iff {targets : List Target} :
    validateDeployTargets targets = .ok () ↔
      ∀ target ∈ targets, target.targetType ≠ .deviceGroup := by
  unfold validateDeployTargets
  rw [Except.ite_error_eq_ok_iff, and_iff_left rfl, List.any_eq_true]
  constructor
  · intro h target htarget hgroup
    exact h ⟨target, htarget, decide_eq_true hgroup⟩
  · rintro h ⟨target, htarget, hgroup⟩
    exact h target htarget (of_decide_eq_true hgroup)

private theorem validatePolicyOperations_ok_iff {policies : List PolicyOperation} :
    validatePolicyOperations policies = .ok () ↔ (policies ≠ [] ∧ policies.length ≤ 256) ∧
      ∀ operation ∈ policies, isAtom 256 operation.policyId = true ∧
        (operation.deployTargets ≠ [] ∨ operation.undeployTargets ≠ []) := by
  unfold validatePolicyOperations
  rw [Except.ite_error_eq_ok_iff, Except.forM_eq_ok_iff]
  simp only [Except.check_bind_eq_ok_iff, Except.guard_eq_ok_iff, validateAtom_ok_iff,
    Bool.or_eq_true, Bool.and_eq_true, not_or, not_and_or, List.isEmpty_iff, decide_eq_true_eq,
    not_lt, ne_eq]

/-- The early checks are the early rules. -/
theorem checkPolicies_ok_iff {policies : List PolicyOperation} :
    checkPolicies policies = .ok () ↔ EarlyRulesKept policies := by
  unfold checkPolicies
  rw [Except.check_bind_eq_ok_iff, Except.forM_eq_ok_iff, validatePolicyOperations_ok_iff]
  simp only [Except.check_bind_eq_ok_iff, validateDeployTargets_ok_iff]
  constructor
  · rintro ⟨hdevices, hcount, hpolicies⟩
    refine ⟨?_, hcount, fun p hp => (hpolicies p hp).1, fun p hp => (hpolicies p hp).2⟩
    intro target htarget
    obtain ⟨operation, hoperation, htarget⟩ := List.mem_flatMap.mp htarget
    rcases List.mem_append.mp htarget with hd | hu
    · exact (hdevices operation hoperation).1 target hd
    · exact (hdevices operation hoperation).2 target hu
  · rintro ⟨hdevices, hcount, hids, htargeted⟩
    refine ⟨fun operation hoperation => ⟨?_, ?_⟩, hcount, fun p hp => ⟨hids p hp, htargeted p hp⟩⟩
    · intro target htarget
      exact hdevices target (List.mem_flatMap.mpr
        ⟨operation, hoperation, List.mem_append_left _ htarget⟩)
    · intro target htarget
      exact hdevices target (List.mem_flatMap.mpr
        ⟨operation, hoperation, List.mem_append_right _ htarget⟩)

/-! ### The late rules -/

private def preparedTarget (target : Target) : SdcPreparedTarget :=
  ⟨targetKind target.targetType, target.targetId⟩

private theorem preparedTarget_injective : Function.Injective preparedTarget := by
  intro a b hab
  obtain ⟨idA, typeA⟩ := a
  obtain ⟨idB, typeB⟩ := b
  obtain ⟨hkind, hid⟩ := SdcPreparedTarget.mk.inj hab
  have hkind' : targetKind typeA = targetKind typeB := hkind
  have htype : typeA = typeB := by
    cases typeA <;> cases typeB <;> simp [targetKind] at hkind' ⊢
  exact congrArg₂ Target.mk hid htype

/-- The envelope lists each target of the request once. -/
private theorem targets_perm {policies : List PolicyOperation} {targets : List SdcPreparedTarget}
    (hmade : preparedTargets ⟨policies⟩ = .ok targets)
    (hsorted : (sortTargets targets).Pairwise fun a b => a.key < b.key) :
    (sortTargets targets).Perm ((policyTargets policies).dedup.map preparedTarget) := by
  have hnodup : (sortTargets targets).Nodup := hsorted.imp fun hlt heq => by
    rw [heq] at hlt
    exact lt_irrefl _ hlt
  rw [List.perm_ext_iff_of_nodup hnodup
    ((List.nodup_dedup _).map preparedTarget_injective)]
  intro x
  rw [mem_sortTargets, mem_preparedTargets hmade, List.mem_map]
  constructor
  · rintro ⟨operation, hoperation, target, htarget, rfl⟩
    exact ⟨target, List.mem_dedup.mpr (List.mem_flatMap.mpr ⟨operation, hoperation, htarget⟩), rfl⟩
  · rintro ⟨target, htarget, rfl⟩
    obtain ⟨operation, hoperation, htarget⟩ := List.mem_flatMap.mp (List.mem_dedup.mp htarget)
    exact ⟨operation, hoperation, target, htarget, rfl⟩

private theorem validateTargets_atoms {targets : List SdcPreparedTarget}
    {previous : Option SdcPreparedTarget}
    (h : SdcPreparedChange.validateTargets previous targets = .ok ()) :
    ∀ target ∈ targets, isAtom 256 target.identifier = true := by
  induction targets generalizing previous with
  | nil => simp
  | cons target rest ih =>
      obtain ⟨u, hvalid, h⟩ := Except.bind_eq_ok_iff.mp h
      obtain ⟨u', -, hid⟩ := Except.bind_eq_ok_iff.mp hvalid
      exact List.forall_mem_cons.mpr ⟨validatePreparedAtom_ok_iff.mp hid,
        ih (Except.guard_bind_eq_ok_iff.mp h).2⟩

section Runs

variable [Crates] {client : SdcClient} {sets : ChangeSets} {owner : String}
  {policies : List PolicyOperation} {r : Env} {h t : List Event}

/-- An envelope that was prepared keeps the rules it is checked for. -/
theorem preparePolicyDeploy_late {p : SdcPreparedChange}
    (hrun : preparePolicyDeploy client policies r h = (.ok p, t)) : LateRulesKept policies := by
  obtain ⟨status, results, targets, -, hmade, htargets, -, hvalid⟩ := preparePolicyDeploy_ok hrun
  obtain ⟨-, ⟨hne, hsize⟩, hchecked, -⟩ := SdcPreparedChange.validate_ok_iff.mp hvalid
  rw [htargets] at hne hsize hchecked
  have hperm := targets_perm hmade (SdcPreparedChange.validateTargets_sorted hchecked).2
  have hlength := hperm.length_eq
  rw [List.length_map] at hlength
  refine ⟨?_, ?_⟩
  · intro target htarget
    refine validateTargets_atoms hchecked (preparedTarget target) (hperm.mem_iff.mpr ?_)
    exact List.mem_map_of_mem (List.mem_dedup.mpr htarget)
  · rw [← hlength]
    exact ⟨List.length_pos_iff.mpr hne, hsize⟩

/-! ### The run of a preparation -/

/-- A request that breaks an early rule is refused and nothing is sent. -/
theorem prepare_early (client : SdcClient) (sets : ChangeSets) (owner : String) (r : Env)
    (h : List Event) (hbroken : ¬ EarlyRulesKept policies) :
    ∃ e, prepare client sets owner policies r h = (.err e, []) := by
  cases hcheck : checkPolicies policies with
  | ok u => exact absurd (checkPolicies_ok_iff.mp hcheck) hbroken
  | error e =>
      refine ⟨e, ?_⟩
      unfold prepare
      rcases Except.bind_eq_error_iff.mp hcheck with hgroups | ⟨u, hgroups, hpolicies⟩
      · rw [hgroups, Run.lift_error_bind]
      · rw [hgroups, Run.lift_ok_bind]
        refine Run.bind_err ?_
        unfold preparePolicyDeploy
        rw [hpolicies, Run.lift_error_bind]

/-- The request that submits a preview. -/
def previewSubmission (policies : List PolicyOperation) : Request :=
  ⟨.post, ["api", "v1", "policies", "preview"], [], some (PreviewRequest.mk policies).encode⟩

/-- A request that keeps the early rules goes on with the preview. -/
private theorem prepare_submits (client : SdcClient) (sets : ChangeSets) (owner : String) (r : Env)
    (h : List Event) (hkept : EarlyRulesKept policies) :
    ∃ rest : PreviewResponse → Io PrepareResult, prepare client sets owner policies r h =
      (post client PreviewResponse.decode ["api", "v1", "policies", "preview"]
        (PreviewRequest.mk policies).encode >>= rest) r h := by
  obtain ⟨u, hgroups, hpolicies⟩ := Except.bind_eq_ok_iff.mp (checkPolicies_ok_iff.mpr hkept)
  unfold prepare preparePolicyDeploy
  rw [hgroups, Run.lift_ok_bind, hpolicies, bind_assoc, Run.lift_ok_bind, bind_assoc]
  exact ⟨_, rfl⟩

/-- With a credential that can be sent, a preview is submitted. -/
theorem prepare_sent (sets : ChangeSets) (owner : String) (r : Env) (h : List Event)
    (hkept : EarlyRulesKept policies)
    (hcredential : Crates.isHeaderValue client.credential = true) :
    ∃ a t, (prepare client sets owner policies r h).2
      = .attempt (previewSubmission policies) a :: t := by
  obtain ⟨rest, hrun⟩ := prepare_submits client sets owner r h hkept
  have hcheck : checkRequest client (previewSubmission policies) = .ok () :=
    (checkRequest_ok_iff hcredential).mpr (by simp [previewSubmission])
  have hpost := post_admitted PreviewResponse.decode hcheck r h
  obtain ⟨t, ht⟩ := Run.bind_events (post client PreviewResponse.decode
    ["api", "v1", "policies", "preview"] (PreviewRequest.mk policies).encode) rest r h
  rw [hrun, ht, hpost]
  exact ⟨_, t, rfl⟩

/-- With a credential that cannot be sent, nothing is. -/
theorem prepare_unsendable (sets : ChangeSets) (owner : String) (r : Env) (h : List Event)
    (hkept : EarlyRulesKept policies)
    (hcredential : Crates.isHeaderValue client.credential = false) :
    prepare client sets owner policies r h = (.err .invalidCredentialHeader, []) := by
  obtain ⟨rest, hrun⟩ := prepare_submits client sets owner r h hkept
  have hcheck : checkRequest client (previewSubmission policies)
      = .error .invalidCredentialHeader := by
    unfold checkRequest
    rw [if_neg (by simp [previewSubmission]), hcredential]
    rfl
  rw [hrun]
  exact Run.bind_err (post_refused PreviewResponse.decode hcheck r h)

/-- A preparation that succeeds was of a request that keeps all rules. -/
theorem prepare_kept {client : SdcClient} {sets : ChangeSets} {owner : String} {r : Env}
    {h t : List Event} {result : PrepareResult}
    (hrun : prepare client sets owner policies r h = (.ok result, t)) :
    EarlyRulesKept policies ∧ LateRulesKept policies := by
  refine ⟨?_, ?_⟩
  · by_contra hbroken
    obtain ⟨e, he⟩ := prepare_early client sets owner r h hbroken
    rw [he] at hrun
    cases hrun
  · obtain ⟨u, -, hprepare⟩ := Run.lift_bind_eq_ok hrun
    obtain ⟨p, t1, t2, hp, -, -⟩ := Run.bind_eq_ok hprepare
    exact preparePolicyDeploy_late hp

/-- **A preview is spent on a request that is refused locally exactly when the request keeps the
early rules and breaks a late one.**  A request that breaks a rule is never prepared; that it is
refused before anything is sent takes a broken early rule, or a credential no request can carry. -/
theorem prepare_unsent_iff (client : SdcClient) (policies : List PolicyOperation) :
    ((¬ (EarlyRulesKept policies ∧ LateRulesKept policies) → ∀ sets owner r h,
        (∃ e, (prepare client sets owner policies r h).1 = .err e) ∧
          tries (prepare client sets owner policies r h).2 = 0) ↔
      ¬ EarlyRulesKept policies ∨ LateRulesKept policies ∨
        Crates.isHeaderValue client.credential = false) ∧
    ∀ sets owner r h result, (prepare client sets owner policies r h).1 = .ok result →
      EarlyRulesKept policies ∧ LateRulesKept policies := by
  have hearly : ¬ EarlyRulesKept policies → ∀ sets owner r h,
      (∃ e, (prepare client sets owner policies r h).1 = .err e) ∧
        tries (prepare client sets owner policies r h).2 = 0 := by
    intro hbroken sets owner r h
    obtain ⟨e, he⟩ := prepare_early client sets owner r h hbroken
    rw [he]
    exact ⟨⟨e, rfl⟩, rfl⟩
  refine ⟨⟨?_, ?_⟩, ?_⟩
  · intro hunsent
    by_contra hnone
    simp only [not_or, not_not, Bool.not_eq_false] at hnone
    obtain ⟨hkept, hlate, hcredential⟩ := hnone
    obtain ⟨-, htries⟩ := hunsent (fun hboth => hlate hboth.2)
      ⟨"", false, fun _ _ _ _ _ => .error "", fun _ _ _ _ _ => .error ""⟩ ""
      (Env.answering fun _ => .unanswered .timedOut) []
    obtain ⟨a, t, ht⟩ := @prepare_sent _ client _ _ "" _ [] hkept hcredential
    rw [ht, tries_attempt] at htries
    exact absurd htries (Nat.succ_ne_zero _)
  · rintro hcase hbroken sets owner r h
    by_cases hkept : EarlyRulesKept policies
    · rcases hcase with hnot | hlate | hcredential
      · exact absurd hkept hnot
      · exact absurd ⟨hkept, hlate⟩ hbroken
      · rw [prepare_unsendable sets owner r h hkept hcredential]
        exact ⟨⟨_, rfl⟩, rfl⟩
    · exact hearly hkept sets owner r h
  · intro sets owner r h result hresult
    exact prepare_kept (Prod.ext hresult rfl)

end Runs

/-! ### A target that is not an identifier -/

section BlankTarget

/-- One policy for one device, whose identifier has a blank in it. -/
def blankTarget : List PolicyOperation := [⟨"pol-1", .firewall, [⟨"dev 1", .device⟩], []⟩]

def previewTables : Tables where
  documents := [previewAccepted, previewedStatus.encode, previewedResult.tree]
  digests := deployTables.digests

local instance blankCrates : Crates := previewTables.crates

/-- An SDC whose preview is finished at once. -/
def previewEnv : Env :=
  Env.answering fun request =>
    if request.mutating then .replies 200 previewAccepted
    else if request.query.isEmpty then .replies 200 previewedStatus.encode
    else .replies 200 previewedResult.tree

/-- The run of its preparation, with an SDC whose preview is finished at once. -/
def blankPreparation : Outcome SdcError PrepareResult × List Event :=
  prepare minuteClient ⟨"tenant", true, fun _ _ _ _ _ => .error "", fun _ _ _ _ _ => .error ""⟩
    "planner" blankTarget previewEnv []

set_option maxRecDepth 20000 in
theorem blank_target_previewed :
    ¬ LateRulesKept blankTarget ∧ (∃ text, blankPreparation.1 = .err (.preparedChange text)) ∧
      tries blankPreparation.2 = 3 := by
  refine ⟨?_, ⟨_, by rfl⟩, by rfl⟩
  intro hkept
  exact absurd (hkept.ids ⟨"dev 1", .device⟩ (by simp [policyTargets, blankTarget])) (by decide)

end BlankTarget

end SdcMcp
