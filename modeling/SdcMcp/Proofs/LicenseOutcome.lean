/-
What a license or certificate commit says about its job.

Every error on the way from the `POST` to a terminal status is returned as it is,
so a `POST` that went out and was not refused is honest only when its job was seen
to end.
-/
import SdcMcp.Proofs.JobOutcome

namespace SdcMcp

open Interactive

theorem JobCall.jobId_error {job : JobCall} {response : Value} {e : SdcError}
    (h : job.jobId response = .error e) : LocalRefusal e := by
  unfold JobCall.jobId at h
  cases hdecode : JobStatus.decode response.tree with
  | none =>
      rw [hdecode] at h
      cases h
      simp [LocalRefusal]
  | some status =>
      rw [hdecode] at h
      rcases Except.bind_eq_error_iff.mp h with h | ⟨status', hstatus, h⟩
      · cases h
      cases hstatus
      dsimp only at h
      cases hid : status.deployId with
      | none =>
          rw [hid] at h
          cases h
          simp [LocalRefusal]
      | some jobId =>
          rw [hid] at h
          rcases Except.bind_eq_error_iff.mp h with h | ⟨jobId', -, h⟩
          · cases h
          rcases Except.bind_eq_error_iff.mp h with hatom | ⟨u, -, h⟩
          · exact validateAtom_error hatom
          · cases h

namespace SdcLicenseTransaction

theorem call_method (staged : SdcPreparedLicenseWrite) : (call staged).call.method ≠ .get := by
  unfold call
  split
  all_goals exact nofun

section License

variable [Crates]

theorem write_eq (client : SdcClient) (staged : SdcPreparedLicenseWrite) :
    write client staged =
      startAndPoll client (call staged).kind ((call staged).call.run client) (call staged).jobId
        fun jobId status => .reconciled status.status.succeeded (some jobId)
          (some ("SDC " ++ staged.action.asStr ++ " completed with status "
            ++ status.status.debug)) := by
  unfold write JobCall.run startAndPoll
  simp only [bind_assoc, pure_bind]

/-- **License and certificate commits.**  The disposition is honest exactly when every `POST`
that went out and was not refused resolves, with no error left open. -/
theorem license_commit_honest_iff (client : SdcClient) (staged : SdcPreparedLicenseWrite)
    (options : CommitOptions) (r : Env) (h : List Event) :
    JobHonest client (call staged).kind (commit client staged options r h).2
        (commit client staged options r h).1 ↔
      Resolved client (fun _ => false) (writeVerdict client)
        (commit client staged options r h).2 := by
  unfold commit
  rcases commitUnchanged_cases "SDC does not support confirmed license/certificate writes" options
    (write client staged) (targetUnchanged_readsOnly client staged) r h
    with ⟨hquiet, hnone⟩ | ⟨s, -, hquiet, heq⟩
  · exact jobHonest_quiet hquiet hnone
  rw [heq, write_eq]
  have hgate := quiet_gateEvents hquiet
  cases hadmits : (call staged).call.admits client with
  | error e =>
      have hrun := WriteCall.run_refused (call_method staged) hadmits r (h ++ gateEvents s)
      unfold startAndPoll
      rw [Run.bind_err hrun, List.append_nil]
      exact jobHonest_quiet hgate (by intro out hc; cases hc)
  | ok u =>
      have hrun := WriteCall.run_admitted (call_method staged) hadmits r (h ++ gateEvents s)
      obtain ⟨after, hafter, hstarted⟩ := startAndPoll_started (call staged).kind
        (fun jobId status => CommitOutcome.reconciled status.status.succeeded (some jobId)
          (some ("SDC " ++ staged.action.asStr ++ " completed with status "
            ++ status.status.debug)))
        (fun _ => false) (fun _ _ => rfl) (fun _ _ => JobCall.jobId_error) hrun
      rw [hafter]
      refine jobHonest_started hgate (WriteCall.request_mutating (call_method staged)) hstarted
        ?_ ?_
      · constructor
        · intro hnone e he
          exact absurd he (hnone e)
        · intro hall e he
          exact absurd (hall e he) (by decide)
      · intro succeeded jobId details hout
        refine ⟨_, hout, ?_⟩
        intro id status hc
        cases hc
        exact ⟨rfl, rfl⟩

end License

end SdcLicenseTransaction

/-! ### A `POST` that times out -/

section PostTimeout

/-- The first page of licenses of a device that has none. -/
def noLicenses : Json := .obj [("items", .arr []), ("count", .num (.posInt 0))]

def licenseTables : Tables where
  documents := [noLicenses]
  digests :=
    [(.obj [("count", .num (.posInt 0)), ("items", .arr [])],
      [192, 218, 35, 196, 83, 233, 118, 43, 22, 59, 233, 189, 29, 94, 249, 48, 117, 91, 70, 220,
        49, 210, 204, 139, 58, 237, 43, 22, 104, 116, 207, 55]),
    (.obj [("action", .str "install_license"),
        ("after", .obj [("license_key", .str "TEST-KEY-123")]),
        ("before", .obj [("count", .num (.posInt 0)), ("items", .arr [])]),
        ("device_uuid", .str "dev-1")],
      [89, 248, 249, 88, 155, 59, 75, 205, 141, 16, 212, 151, 11, 181, 28, 193, 213, 30, 229, 48,
        241, 171, 105, 54, 224, 55, 231, 77, 178, 221, 162, 127])]

local instance licenseCrates : Crates := licenseTables.crates

/-- A license for the device, as it is staged. -/
def licenseInstall : SdcPreparedLicenseWrite :=
  let request : Value := ⟨.obj [("license_key", .str "TEST-KEY-123")], by simp⟩
  let before : Value := ⟨noLicenses, by simp [noLicenses]⟩
  { operation := "license_write"
    action := .installLicense
    deviceUuid := "dev-1"
    request := request
    before := before
    planDigest := canonicalDigest
      (SdcPreparedLicenseWrite.planArtifact .installLicense "dev-1" request before) }

/-- Its commit, when the read is answered and the `POST` is not. -/
def postTimeout : Outcome SdcError CommitOutcome × List Event :=
  SdcLicenseTransaction.commit minuteClient licenseInstall ⟨none⟩
    (Env.answering fun request =>
      if request.mutating then .unanswered .timedOut else .replies 200 noLicenses) []

/-- The `POST` was handed over and not refused, and the commit reports a failure. -/
theorem post_timeout_not_honest :
    SdcLicenseTransaction.stage licenseInstall.planDigest [licenseInstall] = .ok licenseInstall ∧
      postTimeout.1 = .err .timeout ∧ postTimeout.2.any Event.mutates = true ∧
      ¬ JobHonest minuteClient .installLicense postTimeout.2 postTimeout.1 := by
  have hout : postTimeout.1 = .err .timeout := by rfl
  have hsent : postTimeout.2.getLast? =
      some (.attempt (SdcLicenseTransaction.call licenseInstall).call.request
        ⟨0, .unanswered .timedOut⟩) := by rfl
  have hstaged : SdcLicenseTransaction.stage licenseInstall.planDigest [licenseInstall]
      = .ok licenseInstall :=
    stageOne_ok.mpr ⟨rfl, by decide +kernel, by decide +kernel⟩
  refine ⟨hstaged, hout, by rfl, ?_⟩
  intro hh
  have hrefused := hh.failed _ hout _ _ (List.mem_of_getLast? hsent) rfl rfl
  exact absurd hrefused (by decide)

end PostTimeout

end SdcMcp
