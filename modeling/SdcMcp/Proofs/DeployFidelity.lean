/-
From a preview to its deploy.

A deploy is prepared by one run and committed by another, and what passes between them is a
stored document.  Nothing may be lost, added or reordered on the way: the policies
go from the operations into the preview request and from there into the deploy
request, the targets are sorted and deduplicated, and the whole envelope is written
out and read back.
-/
import Mathlib.Data.List.Destutter
import SdcMcp.Proofs.DeployOutcome
import SdcMcp.Proofs.Envelopes

namespace SdcMcp

open Interactive Serde

/-! ### Documents that name each member once -/

@[simp] theorem TargetType.distinct_encode (t : TargetType) : t.encode.Distinct := by
  cases t <;> simp [encode]

@[simp] theorem Target.distinct_encode (t : Target) : t.encode.Distinct := by
  simp [encode]

@[simp] theorem PolicyType.distinct_encode (t : PolicyType) : t.encode.Distinct := by
  simp [encode]

@[simp] theorem PolicyOperation.distinct_encode (p : PolicyOperation) : p.encode.Distinct := by
  simp [encode]

@[simp] theorem PreviewRequest.distinct_encode (r : PreviewRequest) : r.encode.Distinct := by
  simp [encode]

@[simp] theorem PolicyEntry.distinct_encode (p : PolicyEntry) : p.encode.Distinct := by
  simp [encode]

@[simp] theorem DeployRequest.distinct_encode (r : DeployRequest) : r.encode.Distinct := by
  simp [encode]

@[simp] theorem DeviceStatusEntry.distinct_encode (e : DeviceStatusEntry) :
    e.encode.Distinct := by
  simp [encode]

@[simp] theorem JobStatus.distinct_encode (s : JobStatus) : s.encode.Distinct := by
  simp [encode]

theorem distinct_previewArtifact (request : PreviewRequest) (status : JobStatus)
    (results : List Value) : (previewArtifact request status results).Distinct := by
  simp [previewArtifact, Value.distinct]

/-! ### Records that are read back -/

@[simp] theorem SdcPreparedTarget.decode_encode (target : SdcPreparedTarget) :
    decode target.encode = some target := rfl

/-- A stored deploy is read back as it was. -/
theorem SdcPreparedChange.decode_encode (p : SdcPreparedChange) : decode p.encode = some p := by
  have hf : fields ["operation", "targets", "request", "preview", "preview_digest",
      "preview_job_id"] true p.encode =
      some ⟨false, [some (.str p.operation),
        some (.arr (p.targets.map SdcPreparedTarget.encode)), some p.request.tree,
        some p.preview.tree, some (.str p.previewDigest), some (.str p.previewJobId)]⟩ := rfl
  have htargets : Serde.list SdcPreparedTarget.decode
      (.arr (p.targets.map SdcPreparedTarget.encode))
      = some p.targets := list_map SdcPreparedTarget.decode_encode p.targets
  unfold decode
  rw [hf]
  simp [required, htargets, Value.toValue_tree, Json.asStr]

/-- A device entry as it is read back: a state that is spelled like a known one becomes it. -/
def DeviceStatusEntry.reread (e : DeviceStatusEntry) : DeviceStatusEntry :=
  { e with status := .fromWire e.status.asWire }

theorem DeviceStatusEntry.decode_encode (e : DeviceStatusEntry) :
    decode e.encode = some e.reread := rfl

/-- A job as it is read back. -/
theorem JobStatus.decode_encode (s : JobStatus) :
    decode s.encode = some
      { s with
        status := .fromWire s.status.asWire
        deviceDeploymentStatus := s.deviceDeploymentStatus.map DeviceStatusEntry.reread } := by
  have hf : fields ["status", "device_deployment_status", "message", "preview_id", "deploy_id"]
      false s.encode =
      some ⟨false, [some (.str s.status.asWire),
        some (.arr (s.deviceDeploymentStatus.map DeviceStatusEntry.encode)),
        some (.str s.message), some (encodeOption s.previewId),
        some (encodeOption s.deployId)]⟩ := rfl
  have hdevices : Serde.list DeviceStatusEntry.decode
      (.arr (s.deviceDeploymentStatus.map DeviceStatusEntry.encode))
      = some (s.deviceDeploymentStatus.map DeviceStatusEntry.reread) :=
    list_map_map DeviceStatusEntry.decode_encode s.deviceDeploymentStatus
  unfold decode
  rw [hf]
  simp [required, defaulted, hdevices, DeploymentStatus.decode, Json.asStr]

/-! ### Targets -/

private theorem mem_destutter'_ne {α : Type} [DecidableEq α] {x : α} (l : List α) (a : α) :
    x ∈ l.destutter' (· ≠ ·) a ↔ x = a ∨ x ∈ l := by
  induction l generalizing a with
  | nil => simp
  | cons b rest ih =>
      by_cases hab : a ≠ b
      · rw [List.destutter'_cons_pos rest hab, List.mem_cons, ih b, List.mem_cons]
      · rw [List.destutter'_cons_neg rest hab, ih a, List.mem_cons, not_not.mp hab]
        exact ⟨Or.imp id Or.inr, fun h => h.elim Or.inl id⟩

theorem mem_sortTargets {targets : List SdcPreparedTarget} {x : SdcPreparedTarget} :
    x ∈ sortTargets targets ↔ x ∈ targets :=
  List.mem_insertionSort _

/-- Sorting and removing repetitions keeps the set of targets. -/
theorem mem_dedupTargets {targets : List SdcPreparedTarget} {x : SdcPreparedTarget} :
    x ∈ dedupTargets (sortTargets targets) ↔ x ∈ targets := by
  have hsort := @mem_sortTargets targets x
  rw [← hsort]
  unfold dedupTargets
  cases sortTargets targets with
  | nil => exact Iff.rfl
  | cons a rest =>
      rw [List.destutter_cons', mem_destutter'_ne, List.mem_cons]

/-- Valid targets are in strict order. -/
theorem SdcPreparedChange.validateTargets_sorted {targets : List SdcPreparedTarget}
    {previous : Option SdcPreparedTarget} (h : validateTargets previous targets = .ok ()) :
    (∀ p ∈ previous, ∀ t ∈ targets, p.key < t.key) ∧
      targets.Pairwise fun a b => a.key < b.key := by
  induction targets generalizing previous with
  | nil => simp
  | cons target rest ih =>
      obtain ⟨u, -, h⟩ := Except.bind_eq_ok_iff.mp h
      obtain ⟨habove, hrest⟩ := Except.guard_bind_eq_ok_iff.mp h
      obtain ⟨hfirst, hpairs⟩ := ih hrest
      have hrest : ∀ t ∈ rest, target.key < t.key := hfirst target rfl
      refine ⟨?_, List.pairwise_cons.mpr ⟨hrest, hpairs⟩⟩
      rintro p hp t ht
      have hp' : previous = some p := hp
      have hbelow : p.key < target.key := by
        simpa [hp'] using habove
      rcases List.mem_cons.mp ht with rfl | ht
      · exact hbelow
      · exact hbelow.trans (hrest t ht)

theorem SdcPreparedTarget.new_ok {kind identifier : String} {x : SdcPreparedTarget}
    (h : new kind identifier = .ok x) : x = ⟨kind, identifier⟩ := by
  obtain ⟨u, -, hok⟩ := Except.bind_eq_ok_iff.mp h
  cases hok
  rfl

/-- The targets an approver is shown are those of the operations. -/
theorem mem_preparedTargets {request : PreviewRequest} {targets : List SdcPreparedTarget}
    (h : preparedTargets request = .ok targets) (x : SdcPreparedTarget) :
    x ∈ targets ↔ ∃ operation ∈ request.policies,
      ∃ target ∈ operation.deployTargets ++ operation.undeployTargets,
        x = ⟨targetKind target.targetType, target.targetId⟩ := by
  obtain ⟨made, hmade, hok⟩ := Except.bind_eq_ok_iff.mp h
  cases hok
  rw [mem_dedupTargets]
  have hmap : (request.policies.flatMap fun operation =>
      operation.deployTargets ++ operation.undeployTargets).map
        (fun target => SdcPreparedTarget.mk (targetKind target.targetType) target.targetId)
        = made := by
    rw [← List.forall₂_eq_eq_eq, List.forall₂_map_left_iff]
    refine (Except.mapM_eq_ok hmade).imp fun target y hy => ?_
    exact (SdcPreparedTarget.new_ok (Except.mapError_eq_ok_iff.mp hy)).symm
  rw [← hmap, List.mem_map]
  constructor
  · rintro ⟨target, htarget, rfl⟩
    obtain ⟨operation, hoperation, htarget⟩ := List.mem_flatMap.mp htarget
    exact ⟨operation, hoperation, target, htarget, rfl⟩
  · rintro ⟨operation, hoperation, target, htarget, rfl⟩
    exact ⟨target, List.mem_flatMap.mpr ⟨operation, hoperation, htarget⟩, rfl⟩

/-! ### The run of a preparation -/

section Preparation

variable [Crates]

/-- The read of what a preview shows for one device. -/
def previewResultRequest (previewId deviceId : String) : Request :=
  ⟨.get, ["api", "v1", "policies", "preview", previewId, "devices", deviceId],
    [("format", "XML")], none⟩

/-- Each result was the answer to the read of its device. -/
theorem deviceResults_answered {client : SdcClient} {previewId : String}
    {devices : List DeviceStatusEntry} {results : List Value} {r : Env} {h t : List Event}
    (hrun : deviceResults client previewId devices r h = (.ok results, t)) :
    List.Forall₂ (fun device result =>
      ∃ a, .attempt (previewResultRequest previewId device.deviceId) a ∈ t ∧
        readVerdict client decodeValue a.exchange = .ok result) devices results := by
  induction devices generalizing h t results with
  | nil =>
      cases hrun
      exact .nil
  | cons device rest ih =>
      obtain ⟨result, t1, t2, hread, hrest, rfl⟩ := Run.bind_eq_ok hrun
      obtain ⟨others, t3, t4, hothers, hpure, rfl⟩ := Run.bind_eq_ok hrest
      cases hpure
      obtain ⟨a, hmem, hanswer⟩ := readCall_answered hread
      refine .cons ⟨a, List.mem_append_left _ hmem, hanswer⟩ ?_
      refine (ih hothers).imp fun device result hresult => ?_
      obtain ⟨a, hmem, hanswer⟩ := hresult
      exact ⟨a, List.mem_append_right _ (List.mem_append_left _ hmem), hanswer⟩

/-- An envelope as it came out of a finished preview: what was submitted, the state that ended
the preview, and a result for each device of that state, in its order. -/
structure Previewed (client : SdcClient) (policies : List PolicyOperation) (t : List Event)
    (p : SdcPreparedChange) (status : JobStatus) (results : List Value) : Prop where
  submitted : ∃ a, .attempt ⟨.post, ["api", "v1", "policies", "preview"], [],
      some (PreviewRequest.mk policies).encode⟩ a ∈ t ∧
    readVerdict client PreviewResponse.decode a.exchange = .ok ⟨p.previewJobId⟩
  finished : ∃ a, .attempt (JobKind.preview.statusRequest p.previewJobId) a ∈ t ∧
    readVerdict client JobStatus.decode a.exchange = .ok status
  completed : status.status = .completed
  answered : List.Forall₂ (fun device result =>
    ∃ a, .attempt (previewResultRequest p.previewJobId device.deviceId) a ∈ t ∧
      readVerdict client decodeValue a.exchange = .ok result) status.deviceDeploymentStatus results
  artifact : p.preview.tree = previewArtifact ⟨policies⟩ status results

theorem post_answered {α : Type} {client : SdcClient} {decode : Json → Option α}
    {segments : List String} {body : Json} {r : Env} {h t : List Event} {response : α}
    (hrun : post client decode segments body r h = (.ok response, t)) :
    ∃ a, .attempt ⟨.post, segments, [], some body⟩ a ∈ t ∧
      readVerdict client decode a.exchange = .ok response := by
  cases hcheck : checkRequest client ⟨.post, segments, [], some body⟩ with
  | error e =>
      rw [post_refused decode hcheck] at hrun
      cases hrun
  | ok u =>
      rw [post_admitted decode hcheck, Prod.mk.injEq] at hrun
      obtain ⟨hanswer, rfl⟩ := hrun
      exact ⟨_, List.mem_singleton_self _, hanswer⟩

/-- **The run of a preparation.** -/
theorem preparePolicyDeploy_ok {client : SdcClient} {policies : List PolicyOperation} {r : Env}
    {h t : List Event} {p : SdcPreparedChange}
    (hrun : preparePolicyDeploy client policies r h = (.ok p, t)) :
    ∃ status results targets, Previewed client policies t p status results ∧
      preparedTargets ⟨policies⟩ = .ok targets ∧
      p.targets = sortTargets targets ∧
      p.request.tree = (DeployRequest.ofPreview ⟨policies⟩).encode ∧ p.validate = .ok () := by
  obtain ⟨u, -, hsubmit⟩ := Run.lift_bind_eq_ok hrun
  obtain ⟨response, t1, t2, hpost, hnamed, ht⟩ := Run.bind_eq_ok hsubmit
  obtain ⟨u', -, hwait⟩ := Run.lift_bind_eq_ok hnamed
  obtain ⟨status, t3, t4, hpoll, hended, ht2⟩ := Run.bind_eq_ok hwait
  by_cases hsucceeded : status.status.succeeded = true
  · have hnot : ¬ (!status.status.succeeded) = true := by simp [hsucceeded]
    rw [if_neg hnot] at hended
    obtain ⟨results, t5, t6, hresults, hbound, ht4⟩ := Run.bind_eq_ok hended
    obtain ⟨targets, htargets, hmade⟩ := Run.lift_bind_eq_ok hbound
    obtain ⟨hnew, ht6⟩ := Run.lift_eq_ok hmade
    obtain ⟨u'', hvalidate, hp⟩ :=
      Except.bind_eq_ok_iff.mp (Except.mapError_eq_ok_iff.mp hnew)
    cases hp
    obtain ⟨a, hmem, hanswer⟩ := post_answered hpost
    obtain ⟨b, hb, hstatus⟩ := pollJob_observed hpoll
    subst ht ht2 ht4
    refine ⟨status, results, targets, ⟨⟨a, ?_, hanswer⟩, ⟨b, ?_, hstatus⟩,
      DeploymentStatus.succeeded_iff.mp hsucceeded, ?_, ?_⟩, htargets, rfl, ?_, hvalidate⟩
    · exact List.mem_append_left _ hmem
    · exact List.mem_append_right _ (List.mem_append_left _ hb)
    · refine (deviceResults_answered hresults).imp fun device result hresult => ?_
      obtain ⟨c, hc, hverdict⟩ := hresult
      exact ⟨c, List.mem_append_right _ (List.mem_append_right _ (List.mem_append_left _ hc)),
        hverdict⟩
    · exact Json.toValue_tree (distinct_previewArtifact _ _ _)
    · exact Json.toValue_tree (DeployRequest.distinct_encode _)
  · have hfailed : (!status.status.succeeded) = true := by simpa using hsucceeded
    rw [if_pos hfailed] at hended
    cases hended

/-! ### From the envelope to the deploy -/

/-- The deploy request of a list of operations: their policies and types, one by one. -/
def deployBody (policies : List PolicyOperation) : Json :=
  .obj [("policies", .arr (policies.map fun operation =>
    .obj [("policy_id", .str operation.policyId),
      ("policy_type", operation.policyType.encode)]))]

/-- What an approver of a prepared deploy relies on. -/
structure DeployFaithful (client : SdcClient) (policies : List PolicyOperation) (t : List Event)
    (p : SdcPreparedChange) : Prop where
  readBack : SdcPreparedChange.decode p.encode = some p
  staged : SdcTransaction.stage p.previewDigest [p] = .ok p
  validated : ∀ r h, SdcTransaction.validate p r h =
    (.ok ⟨true, some p.previewJobId, .completed⟩, [])
  deployed : ∀ other : SdcClient, Crates.isHeaderValue other.credential = true → ∀ r h,
    ∃ a after, (SdcTransaction.commit other p ⟨none⟩ r h).2 =
      .attempt ⟨.post, ["api", "v1", "policies", "deploy"], [], some (deployBody policies)⟩ a
        :: after ∧ Reads after
  targets : ∀ x, x ∈ p.targets ↔ ∃ operation ∈ policies,
    ∃ target ∈ operation.deployTargets ++ operation.undeployTargets,
      x = ⟨targetKind target.targetType, target.targetId⟩
  sorted : p.targets.Pairwise fun a b => a.key < b.key
  previewed : ∃ status results, Previewed client policies t p status results

omit [Crates] in
theorem encode_ofPreview (policies : List PolicyOperation) :
    (DeployRequest.ofPreview ⟨policies⟩).encode = deployBody policies := by
  unfold DeployRequest.ofPreview DeployRequest.encode deployBody
  rw [List.map_map]
  rfl

/-- The report on an envelope whose preview completed. -/
theorem Previewed.validateReport {client : SdcClient} {policies : List PolicyOperation}
    {t : List Event} {p : SdcPreparedChange} {status : JobStatus} {results : List Value}
    (hp : Previewed client policies t p status results) :
    SdcTransaction.validateReport p = .ok ⟨true, some p.previewJobId, .completed⟩ := by
  have hget : p.preview.get "status" = some ⟨status.encode, status.distinct_encode⟩ := by
    rw [Value.get_eq_some, hp.artifact]
    rfl
  have hstatus : SdcTransaction.terminalStatus p = .ok
      { status with
        status := .completed
        deviceDeploymentStatus :=
          status.deviceDeploymentStatus.map DeviceStatusEntry.reread } := by
    unfold SdcTransaction.terminalStatus
    simp only [hget, JobStatus.decode_encode, hp.completed]
    rfl
  unfold SdcTransaction.validateReport
  rw [hstatus]
  rfl

/-- **A deploy is faithful to its preview.**  Whatever SDC does while a deploy is prepared, the
envelope that comes out can be stored and read back, staged and validated, and its commit asks
for exactly the policies that were previewed. -/
theorem prepared_deploy_faithful (client : SdcClient) (policies : List PolicyOperation) (r : Env)
    (h : List Event) (p : SdcPreparedChange)
    (hrun : (preparePolicyDeploy client policies r h).1 = .ok p) :
    DeployFaithful client policies (preparePolicyDeploy client policies r h).2 p := by
  have hpair : preparePolicyDeploy client policies r h
      = (.ok p, (preparePolicyDeploy client policies r h).2) := Prod.ext hrun rfl
  obtain ⟨status, results, targets, hpreviewed, htargets, hsorted, hrequest, hvalid⟩ :=
    preparePolicyDeploy_ok hpair
  obtain ⟨hoperation, -, horder, -⟩ := SdcPreparedChange.validate_ok_iff.mp hvalid
  have hdeploy : SdcTransaction.deployRequest p = .ok (DeployRequest.ofPreview ⟨policies⟩) := by
    unfold SdcTransaction.deployRequest
    rw [hrequest, DeployRequest.decode_encode]
  refine
    { readBack := p.decode_encode
      staged := SdcTransaction.stage_ok hvalid rfl hoperation
      validated := ?_
      deployed := ?_
      targets := ?_
      sorted := (SdcPreparedChange.validateTargets_sorted horder).2
      previewed := ⟨status, results, hpreviewed⟩ }
  · intro r h
    unfold SdcTransaction.validate
    rw [hpreviewed.validateReport]
    rfl
  · intro other hcredential r h
    have hcheck : checkRequest other ⟨.post, ["api", "v1", "policies", "deploy"], [],
        some (DeployRequest.ofPreview ⟨policies⟩).encode⟩ = .ok () :=
      (checkRequest_ok_iff hcredential).mpr (by simp)
    obtain ⟨a, after, hevents, hreads⟩ := deployPrepared_sent hcheck r h
    rw [SdcTransaction.commit_decoded other (by decide) hdeploy, ← encode_ofPreview]
    exact ⟨a, after, hevents, hreads⟩
  · intro x
    rw [hsorted, mem_sortTargets]
    exact mem_preparedTargets htargets x

end Preparation

/-! ### Two policies that share a device -/

section SharedDevice

/-- A firewall policy on two devices, and a NAT policy on one of them. -/
def sharedRequest : PreviewRequest :=
  ⟨[⟨"pol-2", .firewall, [⟨"dev-2", .device⟩, ⟨"dev-1", .device⟩], []⟩,
    ⟨"pol-1", .nat, [⟨"dev-1", .device⟩], []⟩]⟩

def sharedStatus : JobStatus where
  status := .completed
  deviceDeploymentStatus := [⟨"dev-2", "", .completed, ""⟩, ⟨"dev-1", "", .completed, ""⟩]
  message := ""
  previewId := none
  deployId := none

def sharedResult (deviceId : String) : Value := ⟨.obj [("device", .str deviceId)], by simp⟩

/-- What SDC answers when a preview is submitted. -/
def previewAccepted : Json := .obj [("preview_id", .str "prev-1")]

/-- The envelope its preview leads to. -/
def sharedChange : SdcPreparedChange where
  operation := "policy_deploy"
  targets := [⟨"device", "dev-1"⟩, ⟨"device", "dev-2"⟩]
  request := (DeployRequest.ofPreview sharedRequest).encode.toValue
  preview := (previewArtifact sharedRequest sharedStatus
    [sharedResult "dev-2", sharedResult "dev-1"]).toValue
  previewDigest :=
    "sha256:c232d1e566d19d479a0ce1e9f4e7ea36f42332c4fc630d6707e6496c0540845e"
  previewJobId := "prev-1"

def sharedTables : Tables where
  documents := [previewAccepted, sharedStatus.encode, (sharedResult "dev-1").tree,
    (sharedResult "dev-2").tree]
  digests := [(sharedChange.preview.tree.canonicalize,
      [194, 50, 209, 229, 102, 209, 157, 71, 154, 12, 225, 233, 244, 231, 234, 54, 244, 35, 50,
        196, 252, 99, 13, 103, 7, 230, 73, 108, 5, 64, 132, 94])]

local instance sharedCrates : Crates := sharedTables.crates

/-- An SDC whose preview is finished at once. -/
def sharedEnv : Env :=
  Env.answering fun request =>
    if request.mutating then .replies 200 previewAccepted
    else if request.query.isEmpty then .replies 200 sharedStatus.encode
    else .replies 200 (sharedResult (request.segments.getLastD "")).tree

set_option maxRecDepth 20000 in
/-- The shared device is a target once, and the policies are deployed in the order they were
named. -/
theorem shared_device_faithful :
    DeployFaithful minuteClient sharedRequest.policies
      (preparePolicyDeploy minuteClient sharedRequest.policies sharedEnv []).2 sharedChange :=
  prepared_deploy_faithful minuteClient sharedRequest.policies sharedEnv [] sharedChange
    (by rfl)

end SharedDevice

end SdcMcp
