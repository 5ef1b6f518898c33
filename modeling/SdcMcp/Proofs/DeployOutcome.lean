/-
What a deploy commit says about its deploy.

The deploy goes through the plain `post`, which reads the body before it looks at
the status, and only two errors of the whole run are left open: a poll that ran out
of time, and a cancellation.
-/
import SdcMcp.Proofs.JobOutcome

namespace SdcMcp

open Interactive

section Deploy

variable [Crates] {α : Type}

theorem post_refused {client : SdcClient} (decode : Json → Option α) {segments : List String}
    {body : Json} {e : SdcError}
    (hcheck : checkRequest client ⟨.post, segments, [], some body⟩ = .error e) (r : Env)
    (h : List Event) : post client decode segments body r h = (.err e, []) := by
  unfold post send sendRaw
  rw [Run.bind_lift, Run.bind_lift, sendParts_refused (by exact nofun) hcheck]
  rfl

/-- **The run of a plain `POST`.**  It is one attempt and its verdict. -/
theorem post_admitted {client : SdcClient} (decode : Json → Option α) {segments : List String}
    {body : Json} (hcheck : checkRequest client ⟨.post, segments, [], some body⟩ = .ok ())
    (r : Env) (h : List Event) :
    post client decode segments body r h =
      (readVerdict client decode (r.exchange h ⟨.post, segments, [], some body⟩).exchange,
        [.attempt ⟨.post, segments, [], some body⟩
          (r.exchange h ⟨.post, segments, [], some body⟩)]) := by
  unfold post send sendRaw
  rw [Run.bind_lift, Run.bind_lift, sendParts_admitted (by exact nofun) hcheck]
  simp only [andThen_andThen]
  rfl

/-- The job a deploy response names. -/
def deployId (response : DeployResponse) : Except SdcError String := do
  validateAtom "deploy_id" response.deployId
  return response.deployId

omit [Crates] in
private theorem deployId_error (response : DeployResponse) (e : SdcError)
    (h : deployId response = .error e) : LocalRefusal e := by
  rcases Except.bind_eq_error_iff.mp h with hatom | ⟨u, -, h⟩
  · exact validateAtom_error hatom
  · cases h

theorem deployPrepared_eq (client : SdcClient) (request : DeployRequest) :
    deployPrepared client request =
      startAndPoll client .deploy
        (post client DeployResponse.decode ["api", "v1", "policies", "deploy"] request.encode)
        deployId Prod.mk := by
  have hname : ∀ (response : DeployResponse) (f : String → Io (String × JobStatus)),
      (Run.lift (deployId response) >>= f) =
        (Run.lift (validateAtom "deploy_id" response.deployId) >>= fun _ =>
          f response.deployId) := by
    intro response f
    funext r h
    unfold deployId
    cases hatom : validateAtom "deploy_id" response.deployId with
    | error e => rw [Run.lift_error_bind]; exact Run.lift_error_bind e f r h
    | ok u => rw [Run.lift_ok_bind]; exact Run.lift_ok_bind response.deployId f r h
  unfold deployPrepared startAndPoll
  simp only [hname]

theorem deployPrepared_refused {client : SdcClient} {request : DeployRequest} {e : SdcError}
    (hcheck : checkRequest client
      ⟨.post, ["api", "v1", "policies", "deploy"], [], some request.encode⟩ = .error e)
    (r : Env) (h : List Event) : deployPrepared client request r h = (.err e, []) := by
  have hpost := post_refused DeployResponse.decode hcheck r h
  rw [deployPrepared_eq]
  exact Run.bind_err hpost

/-- An admitted deploy is one `POST` of its request, and reads. -/
theorem deployPrepared_sent {client : SdcClient} {request : DeployRequest}
    (hcheck : checkRequest client
      ⟨.post, ["api", "v1", "policies", "deploy"], [], some request.encode⟩ = .ok ())
    (r : Env) (h : List Event) :
    ∃ a after, (deployPrepared client request r h).2 =
      .attempt ⟨.post, ["api", "v1", "policies", "deploy"], [], some request.encode⟩ a :: after ∧
        Reads after := by
  have hpost := post_admitted DeployResponse.decode hcheck r h
  obtain ⟨after, hafter, hstarted⟩ := startAndPoll_started .deploy Prod.mk (fun _ => false)
    (fun _ _ => rfl) deployId_error hpost
  rw [deployPrepared_eq]
  exact ⟨_, after, hafter, hstarted.reads⟩

namespace SdcTransaction

/-- The errors a deploy leaves open. -/
def leftOpen : SdcError → Bool
  | .jobDeadline => true
  | .cancelled => true
  | _ => false

omit [Crates] in
theorem leftOpen_local (e : SdcError) (he : LocalRefusal e) : leftOpen e = false := by
  unfold leftOpen
  split
  · exact absurd rfl he.2.2.2
  · exact absurd rfl he.1
  · rfl

/-- What a commit makes of a deploy. -/
def settleDeploy : Outcome SdcError (String × JobStatus) → Outcome SdcError CommitOutcome
  | .ok result => Outcome.ofExcept (reconcileDeploy (.ok result))
  | .err error => Outcome.ofExcept (reconcileDeploy (.error error))
  | .dropped => .dropped

theorem settleDeploy_failed (o : Outcome SdcError (String × JobStatus)) :
    (∀ e, settleDeploy o ≠ .err e) ↔ ∀ e, o = .err e → leftOpen e = true := by
  cases o with
  | ok result => exact iff_of_true (by intro e hc; cases hc) (by intro e hc; cases hc)
  | dropped => exact iff_of_true (by intro e hc; cases hc) (by intro e hc; cases hc)
  | err error =>
      constructor
      · intro hnone e he
        cases he
        by_contra hopen
        refine hnone error ?_
        show Outcome.ofExcept (reconcileDeploy (.error error)) = _
        cases error
        case jobDeadline | cancelled => exact absurd rfl hopen
        all_goals rfl
      · intro hall e hc
        have hopen := hall error rfl
        cases error
        case jobDeadline | cancelled => cases hc
        all_goals cases hopen

theorem settleDeploy_local {e : SdcError} (he : LocalRefusal e) :
    settleDeploy (.err e) = .err e := by
  obtain ⟨hcancelled, -, -, hdeadline⟩ := he
  show Outcome.ofExcept (reconcileDeploy (.error e)) = _
  cases e
  case jobDeadline => exact absurd rfl hdeadline
  case cancelled => exact absurd rfl hcancelled
  all_goals rfl

theorem settleDeploy_reconciled {o : Outcome SdcError (String × JobStatus)} {succeeded : Bool}
    {jobId details : Option String}
    (ho : settleDeploy o = .ok (.reconciled succeeded jobId details)) :
    ∃ c, o = .ok c ∧ ∀ id s, c = (id, s) → jobId = some id ∧ succeeded = s.status.succeeded := by
  cases o with
  | dropped => cases ho
  | err e => cases e <;> cases ho
  | ok result =>
      cases ho
      refine ⟨result, rfl, ?_⟩
      rintro id s rfl
      exact ⟨rfl, rfl⟩

theorem commit_decoded (client : SdcClient) {staged : SdcPreparedChange} {options : CommitOptions}
    {request : DeployRequest} (hconfirm : options.confirmTimeout.isSome ≠ true)
    (hrequest : deployRequest staged = .ok request) (r : Env) (h : List Event) :
    commit client staged options r h =
      (settleDeploy (deployPrepared client request r h).1,
        (deployPrepared client request r h).2) := by
  unfold commit
  rw [if_neg hconfirm, hrequest, Run.lift_ok_bind, Run.bind_lift, Run.observe_apply]
  cases (deployPrepared client request r h).1 <;> rfl

/-- A commit fails before it sends anything, or its deploy is sent and decides. -/
theorem commit_cases (client : SdcClient) (staged : SdcPreparedChange) (options : CommitOptions)
    (r : Env) (h : List Event) :
    (∃ e, commit client staged options r h = (.err e, [])) ∨
    ∃ request, deployRequest staged = .ok request ∧ checkRequest client
        ⟨.post, ["api", "v1", "policies", "deploy"], [], some request.encode⟩ = .ok () ∧
      commit client staged options r h =
        (settleDeploy (deployPrepared client request r h).1,
          (deployPrepared client request r h).2) := by
  by_cases hconfirm : options.confirmTimeout.isSome = true
  · refine Or.inl ⟨.invalidInput "SDC does not support confirmed deployment", ?_⟩
    unfold commit
    rw [if_pos hconfirm]
    rfl
  cases hrequest : deployRequest staged with
  | error e =>
      refine Or.inl ⟨e, ?_⟩
      unfold commit
      rw [if_neg hconfirm, hrequest, Run.lift_error_bind]
  | ok request =>
      have hrun := commit_decoded client hconfirm hrequest r h
      cases hcheck : checkRequest client
          ⟨.post, ["api", "v1", "policies", "deploy"], [], some request.encode⟩ with
      | error e =>
          refine Or.inl ⟨e, ?_⟩
          rw [hrun, deployPrepared_refused hcheck, settleDeploy_local (checkRequest_error hcheck)]
      | ok u => exact Or.inr ⟨request, rfl, hcheck, hrun⟩

/-- **Deploy commits.**  The disposition is honest exactly when every `POST` that went out and
was not refused resolves, with a missed deadline and a cancellation left open. -/
theorem deploy_commit_honest_iff (client : SdcClient) (staged : SdcPreparedChange)
    (options : CommitOptions) (r : Env) (h : List Event) :
    JobHonest client .deploy (commit client staged options r h).2
        (commit client staged options r h).1 ↔
      Resolved client leftOpen (readVerdict client DeployResponse.decode)
        (commit client staged options r h).2 := by
  rcases commit_cases client staged options r h with ⟨e, heq⟩ | ⟨request, -, hcheck, heq⟩
  · rw [heq]
    exact jobHonest_quiet quiet_nil (by intro out hc; cases hc)
  · have hpost := post_admitted DeployResponse.decode hcheck r h
    obtain ⟨after, hafter, hstarted⟩ := startAndPoll_started .deploy Prod.mk leftOpen
      leftOpen_local deployId_error hpost
    rw [heq, deployPrepared_eq, hafter]
    exact jobHonest_started quiet_nil rfl hstarted (settleDeploy_failed _)
      fun _ _ _ hout => settleDeploy_reconciled hout

end SdcTransaction

end Deploy

/-! ### A deploy that times out -/

section DeployTimeout

/-- One firewall policy on one device, as it is previewed. -/
def previewedRequest : PreviewRequest := ⟨[⟨"pol-1", .firewall, [⟨"dev-1", .device⟩], []⟩]⟩

def previewedStatus : JobStatus := ⟨.completed, [⟨"dev-1", "", .completed, ""⟩], "", none, none⟩

def previewedResult : Value := ⟨.obj [("xml", .str "<configuration/>")], by simp⟩

/-- The envelope its preview leads to. -/
def deployChange : SdcPreparedChange where
  operation := "policy_deploy"
  targets := [⟨"device", "dev-1"⟩]
  request := (DeployRequest.ofPreview previewedRequest).encode.toValue
  preview := (previewArtifact previewedRequest previewedStatus [previewedResult]).toValue
  previewDigest :=
    "sha256:7f90af72d5eba9d4a0e11d771fbbbbed38eb8f30237fbf759668c11d70e5e688"
  previewJobId := "prev-1"

def deployTables : Tables where
  documents := []
  digests := [(deployChange.preview.tree.canonicalize,
      [127, 144, 175, 114, 213, 235, 169, 212, 160, 225, 29, 119, 31, 187, 187, 237, 56, 235,
        143, 48, 35, 127, 191, 117, 150, 104, 193, 29, 112, 229, 230, 136])]

local instance deployCrates : Crates := deployTables.crates

/-- Its commit, when the `POST` is not answered. -/
def deployTimeout : Outcome SdcError CommitOutcome × List Event :=
  SdcTransaction.commit minuteClient deployChange ⟨none⟩
    (Env.answering fun _ => .unanswered .timedOut) []

/-- The `POST` was handed over and not refused, and the commit reports a failure. -/
theorem deploy_timeout_not_honest :
    SdcTransaction.stage deployChange.previewDigest [deployChange] = .ok deployChange ∧
      deployTimeout.1 = .err .timeout ∧ deployTimeout.2.any Event.mutates = true ∧
      ¬ JobHonest minuteClient .deploy deployTimeout.2 deployTimeout.1 := by
  have hout : deployTimeout.1 = .err .timeout := by rfl
  have hsent : deployTimeout.2.getLast? = some (.attempt
      ⟨.post, ["api", "v1", "policies", "deploy"], [],
        some (DeployRequest.ofPreview previewedRequest).encode⟩
      ⟨0, .unanswered .timedOut⟩) := by rfl
  refine ⟨SdcTransaction.stage_ok (by decide +kernel) rfl rfl, hout, by rfl, ?_⟩
  intro hh
  have hrefused := hh.failed _ hout _ _ (List.mem_of_getLast? hsent) rfl rfl
  exact absurd hrefused (by decide)

end DeployTimeout

end SdcMcp
