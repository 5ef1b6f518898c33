/-
What one call may do to SDC.

A call sends at most one request that can change anything.  It is the preview of the
policies its caller named, or what the one action of a change set says, where that action
was handed over by the coordinator and staged under the digest its caller named.  Every
other call, and everything else such a call does, only reads.

`AtMostOne` is that shape of a list of events; it is shown of each part of a call and
carried up through the binds to `SdcHandler.handle`.
-/
import SdcMcp.Proofs.Gate
import SdcMcp.Proofs.PrepareRules
import SdcMcp.Proofs.Release
import SdcMcp.Proofs.Requests
import SdcMcp.Proofs.StoredActions

namespace SdcMcp

open Interactive

variable {α β ε : Type}

/-! ### At most one request -/

/-- At most one mutating request was started, and it is one of these. -/
structure AtMostOne (P : Request → Prop) (t : List Event) : Prop where
  once : t.countP Event.dispatches ≤ 1
  only : ∀ e ∈ t, e.dispatches = true → ∃ q a, e = .attempt q a ∧ P q

theorem Quiet.countP_eq_zero {t : List Event} (ht : Quiet t) : t.countP Event.dispatches = 0 := by
  rw [List.countP_eq_zero]
  intro e he hd
  rw [ht e he] at hd
  cases hd

theorem Quiet.atMostOne {t : List Event} (P : Request → Prop) (ht : Quiet t) : AtMostOne P t where
  once := by
    rw [ht.countP_eq_zero]
    exact Nat.zero_le 1
  only := by
    intro e he hd
    rw [ht e he] at hd
    cases hd

namespace AtMostOne

variable {P P' : Request → Prop} {s t : List Event}

theorem mono (h : AtMostOne P t) (hP : ∀ q, P q → P' q) : AtMostOne P' t where
  once := h.once
  only := by
    intro e he hd
    obtain ⟨q, a, heq, hq⟩ := h.only e he hd
    exact ⟨q, a, heq, hP q hq⟩

theorem single {q : Request} (hq : P q) (a : Attempt) : AtMostOne P [.attempt q a] where
  once := List.countP_le_length
  only := by
    intro e he _
    exact ⟨q, a, List.mem_singleton.mp he, hq⟩

theorem after_quiet (hs : Quiet s) (ht : AtMostOne P t) : AtMostOne P (s ++ t) where
  once := by
    rw [List.countP_append, hs.countP_eq_zero, Nat.zero_add]
    exact ht.once
  only := by
    intro e he hd
    rcases List.mem_append.mp he with h | h
    · rw [hs e h] at hd
      cases hd
    · exact ht.only e h hd

theorem before_quiet (hs : AtMostOne P s) (ht : Quiet t) : AtMostOne P (s ++ t) where
  once := by
    rw [List.countP_append, ht.countP_eq_zero, Nat.add_zero]
    exact hs.once
  only := by
    intro e he hd
    rcases List.mem_append.mp he with h | h
    · exact hs.only e h hd
    · rw [ht e h] at hd
      cases hd

/-- One request between quiet parts. -/
theorem sent {q : Request} (hs : Quiet s) (hq : P q) (a : Attempt) (ht : Quiet t) :
    AtMostOne P (s ++ .attempt q a :: t) :=
  after_quiet hs ((single hq a).before_quiet ht)

end AtMostOne

/-- A computation that starts no mutating request. -/
def Harmless (x : Run Env Event ε α) : Prop := x.Emits fun e => e.dispatches = false

theorem ReadsOnly.harmless {x : Io α} (hx : ReadsOnly x) : Harmless x :=
  fun r h e he => Event.dispatches_of_isRead (hx r h e he)

section Binds

variable {x : Run Env Event ε α} {f : α → Run Env Event ε β} {P : Request → Prop} {r : Env}
  {h : List Event}

/-- What follows a value sends nothing. -/
theorem AtMostOne.bind_harmless (hx : AtMostOne P (x r h).2) (hf : ∀ a, Harmless (f a)) :
    AtMostOne P ((x >>= f) r h).2 := by
  rcases hrun : x r h with ⟨o, t⟩
  rw [hrun] at hx
  cases o with
  | ok a =>
      rw [Run.bind_ok hrun]
      exact hx.before_quiet (hf a r (h ++ t))
  | err e =>
      rw [Run.bind_err hrun]
      exact hx
  | dropped =>
      rw [Run.bind_dropped hrun]
      exact hx

/-- What comes before a value sends nothing. -/
theorem Harmless.bind_atMostOne (hx : Harmless x)
    (hf : ∀ a t, x r h = (.ok a, t) → AtMostOne P (f a r (h ++ t)).2) :
    AtMostOne P ((x >>= f) r h).2 := by
  have hquiet : Quiet (x r h).2 := hx r h
  rcases hrun : x r h with ⟨o, t⟩
  rw [hrun] at hquiet
  cases o with
  | ok a =>
      rw [Run.bind_ok hrun]
      exact (hf a t hrun).after_quiet hquiet
  | err e =>
      rw [Run.bind_err hrun]
      exact hquiet.atMostOne P
  | dropped =>
      rw [Run.bind_dropped hrun]
      exact hquiet.atMostOne P

end Binds

/-! ### An application -/

/-- What the coordinator handed over and `stage` made of it. -/
theorem applyChangeSet_ok {coordinator : Coordinator α} {stage : List α → Except SdcError α}
    {r : Env} {h t : List Event} {operationId : String} {staged : α}
    (hrun : coordinator.applyChangeSet stage r h = (.ok (operationId, staged), t)) :
    ∃ actions, coordinator.changeSet h = .ok (operationId, actions) ∧
      stage actions = .ok staged := by
  unfold Coordinator.applyChangeSet at hrun
  rw [Run.ask_bind] at hrun
  obtain ⟨⟨op, actions⟩, hstored, hrest⟩ := Run.lift_bind_eq_ok hrun
  obtain ⟨made, t1, t2, hrelay, hpure, -⟩ := Run.bind_eq_ok hrest
  cases hpure
  refine ⟨actions, hstored, ?_⟩
  cases hconduct : coordinator.apply h with
  | refuses e =>
      rw [relay_refuses hconduct] at hrelay
      cases hrelay
  | breaks e =>
      rw [relay_breaks hconduct] at hrelay
      cases hrelay
  | relays =>
      rw [relay_relays hconduct, Run.lift_apply] at hrelay
      cases hstage : stage actions with
      | error e =>
          rw [hstage] at hrelay
          cases hrelay
      | ok q =>
          rw [hstage] at hrelay
          cases hrelay
          rfl

/-- What an application may send: the request of what it staged. -/
def AppliedRequest (coordinator : Coordinator α) (stage : List α → Except SdcError α)
    (request : α → Except SdcError Request) (h : List Event) (q : Request) : Prop :=
  ∃ operationId actions staged, coordinator.changeSet h = .ok (operationId, actions) ∧
    stage actions = .ok staged ∧ request staged = .ok q

section Applications

variable {transaction : Transaction α β} {unchanged : α → Io Bool}
  {request : α → Except SdcError Request} {leavesOpen : Exchange → Bool}

private theorem quiet_discarded (operationId : String) : Quiet [.discarded operationId] :=
  .cons rfl quiet_nil

/-- However an application ends, it sent at most the request of what it staged. -/
theorem Exits.atMostOne {γ : Type} {coordinator : Coordinator α} {same : Io Bool}
    {call : Except SdcError Request} {operationId : String} {r : Env} {h t : List Event}
    {o : Outcome SdcError γ} (hexits : Exits coordinator same call leavesOpen operationId r h t o) :
    AtMostOne (fun q => call = .ok q) t := by
  cases hexits with
  | diffFailed e hdiff => exact quiet_nil.atMostOne _
  | invalid e t hvalid hreads hdiff =>
      exact (hreads.quiet.append (quiet_discarded operationId)).atMostOne _
  | invalidLeft t hvalid hreads hdiff => exact hreads.quiet.atMostOne _
  | commitRefused e e' t hdiff hvalid hsame hreads hcommit => exact hreads.quiet.atMostOne _
  | stopped e t s hdiff hvalid hsame hreads hcommit hs hmoved =>
      exact ((hreads.quiet.append (.cons rfl hs.quiet)).append
        (quiet_discarded operationId)).atMostOne _
  | stoppedLeft t s hdiff hvalid hsame hreads hcommit hs hmoved =>
      exact (hreads.quiet.append (.cons rfl hs.quiet)).atMostOne _
  | writeRefused e e' t s hdiff hvalid hsame hreads hcommit hs hgate hrequest =>
      exact (hreads.quiet.append (quiet_gateEvents hs.quiet)).atMostOne _
  | written o q t s after hdiff hvalid hsame hreads hcommit hs hgate hrequest hmut hafter hopen =>
      rw [← List.append_assoc]
      exact .sent (hreads.quiet.append (quiet_gateEvents hs.quiet)) hrequest _ hafter.quiet

theorem applyWrite_atMostOne (hg : Gated transaction unchanged request leavesOpen)
    (texts : ReleaseTexts) (coordinator : Coordinator α) (r : Env) (h : List Event) :
    AtMostOne (AppliedRequest coordinator transaction.stage request (h ++ [.markRefused false]))
      (applyWrite texts coordinator transaction r h).2 := by
  have hmark : Quiet [.markRefused false] := .cons rfl quiet_nil
  rcases applyWrite_cases texts coordinator transaction r h with
    ⟨-, heq⟩ | ⟨operationId, staged, happlied, heq⟩
  · rw [heq]
    exact hmark.atMostOne _
  · obtain ⟨actions, hstored, hstage⟩ := applyChangeSet_ok happlied
    have hexits := applyStaged_exits hg texts coordinator operationId staged r
      (h ++ [.markRefused false]) (refusedBeforeWrite_mark h false)
    rw [heq]
    exact AtMostOne.after_quiet hmark (hexits.atMostOne.mono fun q hq =>
      ⟨operationId, actions, staged, hstored, hstage, hq⟩)

end Applications

/-- A call of a transaction through the coordinator sends what the transaction sends, if it is
called. -/
theorem relay_atMostOne {P : Request → Prop} (coordinator : Coordinator α)
    (conduct : List Event → Conduct) {call : Io β} {r : Env} {h : List Event}
    (hcall : AtMostOne P (call r h).2) :
    AtMostOne P (coordinator.relay conduct call r h).2 := by
  cases hconduct : conduct h with
  | refuses e =>
      rw [relay_refuses hconduct]
      exact quiet_nil.atMostOne P
  | relays =>
      rw [relay_relays hconduct]
      exact hcall
  | breaks e =>
      rw [relay_breaks hconduct]
      exact hcall

theorem relay_harmless (coordinator : Coordinator α) (conduct : List Event → Conduct)
    {call : Io β} (hcall : Harmless call) : Harmless (coordinator.relay conduct call) := by
  intro r h
  cases hconduct : conduct h with
  | refuses e =>
      rw [relay_refuses hconduct]
      exact quiet_nil
  | relays =>
      rw [relay_relays hconduct]
      exact hcall r h
  | breaks e =>
      rw [relay_breaks hconduct]
      exact hcall r h

theorem applyChangeSet_harmless (coordinator : Coordinator α)
    (stage : List α → Except SdcError α) : Harmless (coordinator.applyChangeSet stage) := by
  intro r h
  rw [applyChangeSet_events]
  exact quiet_nil

/-! ### What an action says -/

namespace SdcPreparedChange

/-- A deploy asks for the policies in its envelope. -/
def intended (p : SdcPreparedChange) : Option Request :=
  (DeployRequest.decode p.request.tree).map fun request =>
    ⟨.post, ["api", "v1", "policies", "deploy"], [], some request.encode⟩

end SdcPreparedChange

namespace SdcPreparedLicenseWrite

/-- A write of a device is named like its operation. -/
def intended (p : SdcPreparedLicenseWrite) : Option Request :=
  some ⟨.post, ["api", "v1", "devices", p.deviceUuid, p.action.name], [], some p.request.tree⟩

end SdcPreparedLicenseWrite

/-- The one request that an action stands for. -/
def StoredAction.intended : StoredAction → Option Request
  | .policyDeploy p => p.intended
  | .objectWrite p => p.intended
  | .firewallWrite p => p.intended
  | .natWrite p => p.intended
  | .licenseWrite p => p.intended
  | .deviceSync p => p.intended

section Kinds

variable [Crates]

theorem SdcLicenseTransaction.request_intended {client : SdcClient}
    {staged : SdcPreparedLicenseWrite} {q : Request} (h : request client staged = .ok q) :
    staged.intended = some q := by
  obtain ⟨u, -, hok⟩ := Except.bind_eq_ok_iff.mp h
  cases hok
  unfold SdcPreparedLicenseWrite.intended SdcLicenseTransaction.call
  cases staged.action <;> rfl

theorem SdcTransaction.commit_atMostOne (client : SdcClient) (staged : SdcPreparedChange)
    (r : Env) (h : List Event) :
    AtMostOne (fun q => staged.intended = some q) (commit client staged ⟨none⟩ r h).2 := by
  cases hrequest : DeployRequest.decode staged.request.tree with
  | none =>
      have herror : deployRequest staged
          = .error (.preparedChange "deploy request is invalid") := by
        unfold deployRequest
        rw [hrequest]
      unfold commit
      rw [if_neg (by decide), herror, Run.lift_error_bind]
      exact quiet_nil.atMostOne _
  | some request =>
      have hdecoded : deployRequest staged = .ok request := by
        unfold deployRequest
        rw [hrequest]
      rw [commit_decoded client (by decide) hdecoded]
      cases hcheck : checkRequest client
          ⟨.post, ["api", "v1", "policies", "deploy"], [], some request.encode⟩ with
      | error e =>
          rw [deployPrepared_refused hcheck]
          exact quiet_nil.atMostOne _
      | ok u =>
          obtain ⟨a, after, hevents, hreads⟩ := deployPrepared_sent hcheck r h
          rw [hevents]
          refine (AtMostOne.single ?_ a).before_quiet hreads.quiet
          unfold SdcPreparedChange.intended
          rw [hrequest, Option.map_some]

/-- What the application of a deploy may send. -/
theorem applyPolicyDeploy_atMostOne (client : SdcClient)
    (coordinator : Coordinator SdcPreparedChange) (digest : String) (r : Env) (h : List Event) :
    AtMostOne (fun q => ∃ operationId actions staged,
        coordinator.changeSet h = .ok (operationId, actions) ∧
        SdcTransaction.stage digest actions = .ok staged ∧ staged.intended = some q)
      (applyPolicyDeploy client coordinator digest r h).2 := by
  unfold applyPolicyDeploy
  rw [Run.mapErr_apply]
  refine (applyChangeSet_harmless coordinator _).bind_atMostOne fun applied t happlied => ?_
  obtain ⟨operationId, staged⟩ := applied
  obtain ⟨actions, hstored, hstage⟩ := applyChangeSet_ok happlied
  have hdiff : Harmless (coordinator.relay coordinator.diff
      (return (sdcTransaction client digest).diff staged)) :=
    relay_harmless coordinator _ fun _ _ => quiet_nil
  have hvalidate : Harmless (coordinator.relay coordinator.validate
      ((sdcTransaction client digest).validate staged)) :=
    relay_harmless coordinator _ Run.emits_lift
  refine hdiff.bind_atMostOne fun preview _ _ => hvalidate.bind_atMostOne fun validation _ _ => ?_
  refine AtMostOne.bind_harmless (relay_atMostOne coordinator _ ?_) fun _ => Run.emits_pure
  exact (SdcTransaction.commit_atMostOne client staged r _).mono fun q hq =>
    ⟨operationId, actions, staged, hstored, hstage, hq⟩

end Kinds

/-! ### Preparations -/

section Preparations

variable [Crates]

theorem AsksFor.harmless {client : SdcClient} {sizes : List Nat} {x : Io α}
    (hx : AsksFor client sizes x) : Harmless x :=
  hx.readsOnly.harmless

theorem prepareDeviceSync_harmless (client : SdcClient) (sets : ChangeSets) (owner : String)
    (deviceUuids : List String) : Harmless (prepareDeviceSync client sets owner deviceUuids) :=
  Run.emits_bind Run.emits_lift fun _ =>
    planned_emits (readDevices_asksFor _ _).harmless _ sets _ owner _ _

/-- The preparation of a deploy sends its preview and nothing else. -/
theorem prepare_atMostOne (client : SdcClient) (sets : ChangeSets) (owner : String)
    (policies : List PolicyOperation) (r : Env) (h : List Event) :
    AtMostOne (· = previewSubmission policies) (prepare client sets owner policies r h).2 := by
  have hpoll : ∀ previewId, Harmless (pollJob client .preview previewId) := by
    intro previewId r h
    rcases pollJob_cases client .preview previewId r h with ⟨e, -, hrun⟩ | hpolling
    · rw [hrun]
      exact quiet_nil
    · exact (hpolling.reads rfl).quiet
  have hdevices : ∀ previewId devices, Harmless (deviceResults client previewId devices) := by
    intro previewId devices
    induction devices with
    | nil => exact Run.emits_pure
    | cons device rest ih =>
        exact Run.emits_bind (readCall_readsOnly _ _ _ _ _ _).harmless fun _ =>
          Run.emits_bind ih fun _ => Run.emits_pure
  have hpost : AtMostOne (· = previewSubmission policies)
      (post client PreviewResponse.decode ["api", "v1", "policies", "preview"]
        (PreviewRequest.mk policies).encode r h).2 := by
    cases hcheck : checkRequest client (previewSubmission policies) with
    | error e =>
        rw [post_refused PreviewResponse.decode hcheck]
        exact quiet_nil.atMostOne _
    | ok u =>
        rw [post_admitted PreviewResponse.decode hcheck]
        refine AtMostOne.single ?_ _
        rfl
  have hprepared : AtMostOne (· = previewSubmission policies)
      (preparePolicyDeploy client policies r h).2 := by
    refine Harmless.bind_atMostOne Run.emits_lift fun _ t ht => ?_
    obtain ⟨-, rfl⟩ := Run.lift_eq_ok ht
    rw [List.append_nil]
    refine AtMostOne.bind_harmless hpost fun response => ?_
    refine Run.emits_bind Run.emits_lift fun _ => Run.emits_bind (hpoll _) fun status => ?_
    dsimp only
    split
    · exact Run.emits_fail
    · exact Run.emits_bind (hdevices _ _) fun _ =>
        Run.emits_bind Run.emits_lift fun _ => Run.emits_lift
  refine Harmless.bind_atMostOne Run.emits_lift fun _ t ht => ?_
  obtain ⟨-, rfl⟩ := Run.lift_eq_ok ht
  rw [List.append_nil]
  refine AtMostOne.bind_harmless hprepared fun prepared => ?_
  exact Run.emits_bind (createChangeSet_emits sets _ owner _) fun _ =>
    Run.emits_bind (waiveIfLabMode_emits sets _ owner) fun _ => Run.emits_pure

end Preparations

/-! ### Calls -/

/-- The kind of transaction that a call applies, and its arguments. -/
def ToolCall.applies : ToolCall → Option (StoredKind × ApplyArgs)
  | .applySdcChangeSet args => some (.policyDeploy, args)
  | .applySdcObjectWrite args => some (.objectWrite, args)
  | .applySdcFirewallWrite args => some (.firewallWrite, args)
  | .applySdcNatWrite args => some (.natWrite, args)
  | .applySdcLicenseWrite args => some (.licenseWrite, args)
  | .applySdcDeviceInventorySync args => some (.deviceSync, args)
  | _ => none

/-- What the coordinator hands to the transaction of a kind. -/
def ChangeManager.handedOver (changes : ChangeManager) (owner : String) (args : ApplyArgs)
    (history : List Event) : StoredKind → Except String (String × List StoredAction)
  | .policyDeploy => ((changes.policyDeploys owner args).changeSet history).map
      fun set => (set.1, set.2.map .policyDeploy)
  | .objectWrite => ((changes.objectWrites owner args).changeSet history).map
      fun set => (set.1, set.2.map .objectWrite)
  | .firewallWrite => ((changes.firewallWrites owner args).changeSet history).map
      fun set => (set.1, set.2.map .firewallWrite)
  | .natWrite => ((changes.natWrites owner args).changeSet history).map
      fun set => (set.1, set.2.map .natWrite)
  | .licenseWrite => ((changes.licenseWrites owner args).changeSet history).map
      fun set => (set.1, set.2.map .licenseWrite)
  | .deviceSync => ((changes.deviceSyncs owner args).changeSet history).map
      fun set => (set.1, set.2.map .deviceSync)

variable [Crates]

/-- What a call may send that can change SDC: the preview of its caller's policies, or what the
one action says that was handed over and stages under its caller's digest. -/
inductive Licensed (changes : ChangeManager) (call : Call) : Request → Prop
  | preview {policies : List PolicyOperation}
      (htool : call.tool = .prepareSdcPolicyDeploy policies) :
      Licensed changes call (previewSubmission policies)
  | applied {kind : StoredKind} {args : ApplyArgs} {history : List Event} {operationId : String}
      {action : StoredAction} {q : Request} (htool : call.tool.applies = some (kind, args))
      (hset : changes.handedOver (owner call.caller) args history kind
        = .ok (operationId, [action]))
      (hstage : action.stage args.expectedPlanDigest = .ok action)
      (hq : action.intended = some q) : Licensed changes call q

/-- The actions of a change set that stages are one. -/
private theorem licensed_of_staged {changes : ChangeManager} {call : Call} {kind : StoredKind}
    {args : ApplyArgs} {history : List Event} {operationId : String} (mk : α → StoredAction)
    {actions : List α} {staged : α} {q : Request}
    (htool : call.tool.applies = some (kind, args))
    (hset : changes.handedOver (owner call.caller) args history kind
      = .ok (operationId, actions.map mk))
    (hone : actions = [staged])
    (hstage : (mk staged).stage args.expectedPlanDigest = .ok (mk staged))
    (hq : (mk staged).intended = some q) : Licensed changes call q := by
  subst hone
  exact .applied htool hset hstage hq

/-- The application of a staged write is licensed by what was handed over. -/
private theorem licensed_of_applied {changes : ChangeManager} {call : Call} {kind : StoredKind}
    {args : ApplyArgs} {history : List Event} {mk : α → StoredAction}
    {coordinator : Coordinator α} {wrongCount : String} {validate : α → Except SdcError Unit}
    {approved : α → Bool} {request : α → Except SdcError Request} {q : Request}
    (htool : call.tool.applies = some (kind, args))
    (hset : changes.handedOver (owner call.caller) args history kind
      = (coordinator.changeSet history).map fun set => (set.1, set.2.map mk))
    (hmk : ∀ p, (mk p).stage args.expectedPlanDigest
      = (stageOne wrongCount validate approved [p]).map mk)
    (hintended : ∀ p, request p = .ok q → (mk p).intended = some q)
    (h : AppliedRequest coordinator (stageOne wrongCount validate approved) request history q) :
    Licensed changes call q := by
  obtain ⟨operationId, actions, staged, hstored, hstage, hrequest⟩ := h
  obtain ⟨hone, hvalid, happroved⟩ := stageOne_ok.mp hstage
  rw [hstored] at hset
  refine licensed_of_staged mk htool hset hone ?_ (hintended staged hrequest)
  rw [hmk, stageOne_ok.mpr ⟨rfl, hvalid, happroved⟩]
  rfl

private theorem licensed_of_deployed {changes : ChangeManager} {call : Call} {args : ApplyArgs}
    {history : List Event} {q : Request}
    (htool : call.tool.applies = some (.policyDeploy, args))
    (h : ∃ operationId actions staged,
      (changes.policyDeploys (owner call.caller) args).changeSet history
        = .ok (operationId, actions) ∧
      SdcTransaction.stage args.expectedPlanDigest actions = .ok staged ∧
      staged.intended = some q) : Licensed changes call q := by
  obtain ⟨operationId, actions, staged, hstored, hstage, hq⟩ := h
  have hset : changes.handedOver (owner call.caller) args history .policyDeploy
      = .ok (operationId, actions.map .policyDeploy) := by
    unfold ChangeManager.handedOver
    dsimp only
    rw [hstored]
    rfl
  match actions, hset, hstage with
  | [p], hset, hstage =>
      have hlift : (StoredAction.policyDeploy p).stage args.expectedPlanDigest
          = .ok (.policyDeploy staged) := Except.map_eq_ok_iff.mpr ⟨staged, hstage, rfl⟩
      obtain ⟨hsame, -, -⟩ := StoredAction.stage_ok_iff.mp hlift
      cases hsame
      exact licensed_of_staged .policyDeploy htool hset rfl hlift hq

variable [HandlerCrates]

/-- Whatever a call does, it sends at most one request that can change SDC, a licensed one. -/
theorem ToolCall.io_atMostOne (handler : SdcHandler) (call : Call) (r : Env) (h : List Event) :
    AtMostOne (Licensed handler.changes call)
      (call.tool.io handler (owner call.caller) r h).2 := by
  cases htool : call.tool with
  | prepareSdcPolicyDeploy policies =>
      refine AtMostOne.bind_harmless ((prepare_atMostOne _ _ _ policies r h).mono ?_)
        fun _ => Run.emits_pure
      rintro q rfl
      exact .preview htool
  | applySdcChangeSet args =>
      refine AtMostOne.bind_harmless ((applyPolicyDeploy_atMostOne _ _ _ r h).mono ?_)
        fun _ => Run.emits_pure
      exact fun q => licensed_of_deployed (by rw [htool]; rfl)
  | applySdcObjectWrite args =>
      refine AtMostOne.bind_harmless ((applyWrite_atMostOne
        (SdcObjectTransaction.gated _ _) _ _ r h).mono ?_) fun _ => Run.emits_pure
      exact fun q => licensed_of_applied (by rw [htool]; rfl) rfl (fun _ => rfl)
        fun _ => SdcObjectTransaction.request_intended
  | applySdcNatWrite args =>
      refine AtMostOne.bind_harmless ((applyWrite_atMostOne
        (SdcNatTransaction.gated _ _) _ _ r h).mono ?_) fun _ => Run.emits_pure
      exact fun q => licensed_of_applied (by rw [htool]; rfl) rfl (fun _ => rfl)
        fun _ => SdcNatTransaction.request_intended
  | applySdcFirewallWrite args =>
      refine AtMostOne.bind_harmless ((applyWrite_atMostOne
        (SdcFirewallTransaction.gated _ _) _ _ r h).mono ?_) fun _ => Run.emits_pure
      exact fun q => licensed_of_applied (by rw [htool]; rfl) rfl (fun _ => rfl)
        fun _ => SdcFirewallTransaction.request_intended
  | applySdcLicenseWrite args =>
      refine AtMostOne.bind_harmless ((applyWrite_atMostOne
        (SdcLicenseTransaction.gated _ _) _ _ r h).mono ?_) fun _ => Run.emits_lift
      exact fun q => licensed_of_applied (by rw [htool]; rfl) rfl (fun _ => rfl)
        fun _ => SdcLicenseTransaction.request_intended
  | applySdcDeviceInventorySync args =>
      refine AtMostOne.bind_harmless ((applyWrite_atMostOne
        (SdcDeviceSyncTransaction.gated _ _) _ _ r h).mono ?_) fun _ => Run.emits_pure
      exact fun q => licensed_of_applied (by rw [htool]; rfl) rfl (fun _ => rfl)
        fun _ => SdcDeviceSyncTransaction.request_intended
  | prepareSdcObjectWrite action resource uuid body =>
      refine Quiet.atMostOne _ (Run.emits_bind ?_ (fun _ => Run.emits_pure) r h)
      exact planned_emits (objectState_asksFor _ _ _).harmless _ _ _ _ _ ObjectPrepareResult.mk
  | prepareSdcNatWrite action policyId ruleId groupId body =>
      refine Quiet.atMostOne _ (Run.emits_bind ?_ (fun _ => Run.emits_pure) r h)
      exact planned_emits (natState_asksFor _ _ _ _).harmless _ _ _ _ _ NatPrepareResult.mk
  | prepareSdcFirewallWrite action uuid body =>
      refine Quiet.atMostOne _ (Run.emits_bind ?_ (fun _ => Run.emits_pure) r h)
      exact planned_emits (firewallState_asksFor _ _).harmless _ _ _ _ _ FirewallPrepareResult.mk
  | prepareSdcLicenseWrite action deviceUuid body =>
      refine Quiet.atMostOne _ (Run.emits_bind ?_ (fun _ => Run.emits_lift) r h)
      exact planned_emits (licenseState_asksFor _ _).harmless _ _ _ _ _ LicensePrepareResult.mk
  | prepareSdcDeviceInventorySync deviceUuids =>
      refine Quiet.atMostOne _ (Run.emits_bind ?_ (fun _ => Run.emits_pure) r h)
      exact prepareDeviceSync_harmless _ _ _ _
  | approveSdcChangeSet changeSetId expectedDigest =>
      refine Quiet.atMostOne _ (Run.emits_bind ?_ (fun _ => Run.emits_pure) r h)
      exact Run.emits_bind Run.emits_ask fun _ => Run.emits_lift
  | discardSdcOperation operationId expectedFingerprint =>
      refine Quiet.atMostOne _ (Run.emits_bind ?_ (fun _ => Run.emits_pure) r h)
      refine Run.emits_bind (fun _ _ => Quiet.cons rfl quiet_nil) fun _ => ?_
      exact Run.emits_bind Run.emits_ask fun _ => Run.emits_lift
  | read tool paging =>
      have hread : (ToolCall.read tool paging).name ∉ WRITE_TOOLS := tool.name_not_write
      exact ((ToolCall.asksFor handler _ hread).readsOnly.quiet r h).atMostOne _
  | listSdcCaCertificates _ _ | listSdcLocalCertificates _ _
  | listSdcDeviceCaCertificates _ _ _ | listSdcDeviceLocalCertificates _ _ _
  | listSdcLicenses _ _ _ | getSdcLicense _ _ | listUsersAndRoles _ _ _ _ | getSdcChangeSet _
  | getSdcChangeSetDetails _ =>
      refine Quiet.atMostOne _ ((ToolCall.asksFor handler _ ?_).readsOnly.quiet r h)
      simp [ToolCall.name, WRITE_TOOLS]

/-- The call of a write tool by the bearer of a token that reaches it, for the one tenant. -/
structure Authorized (handler : SdcHandler) (call : Call) : Prop where
  bearer : call.caller.isSome = true
  writes : call.tool.name ∈ WRITE_TOOLS
  scope : HandlerCrates.authorizeCall call.caller call.tool.name (some call.tenant)
    WILDCARD_EXCLUDED_TOOLS = .ok ()
  tenant : call.tenant = handler.tenant

omit [Crates] in
theorem authorizeRequest_ok {caller : Option CallerCtx} {tool tenant configuredTenant : String}
    (h : authorizeRequest caller tool tenant configuredTenant = .ok ()) :
    (tool ∈ WRITE_TOOLS → caller.isSome = true) ∧
      HandlerCrates.authorizeCall caller tool (some tenant) WILDCARD_EXCLUDED_TOOLS = .ok () ∧
      tenant = configuredTenant := by
  unfold authorizeRequest at h
  obtain ⟨hbearer, hrest⟩ := Except.guard_bind_eq_ok_iff.mp h
  obtain ⟨u, hscope, htenant⟩ := Except.bind_eq_ok_iff.mp hrest
  refine ⟨fun hwrites => ?_, hscope, ?_⟩
  · rw [Option.isSome_iff_ne_none]
    rintro rfl
    exact hbearer ⟨rfl, hwrites⟩
  · by_contra hne
    rw [if_pos hne] at htenant
    cases htenant

/-- **One call.**  It sends at most one request that can change SDC, and only a licensed one for
an authorized caller. -/
theorem SdcHandler.handle_atMostOne (handler : SdcHandler) (call : Call) (r : Env)
    (h : List Event) :
    AtMostOne (fun q => Authorized handler call ∧ Licensed handler.changes call q)
      (handler.handle call r h).2 := by
  refine Harmless.bind_atMostOne Run.emits_lift fun u t hauthorized => ?_
  obtain ⟨hok, rfl⟩ := Run.lift_eq_ok hauthorized
  obtain ⟨hbearer, hscope, htenant⟩ := authorizeRequest_ok (Except.mapError_eq_ok_iff.mp hok)
  rw [List.append_nil]
  refine AtMostOne.bind_harmless ?_ fun _ => Run.emits_bind Run.emits_lift fun _ => Run.emits_pure
  rw [Run.mapErr_apply]
  by_cases hwrites : call.tool.name ∈ WRITE_TOOLS
  · exact (ToolCall.io_atMostOne handler call r h).mono fun q hq =>
      ⟨⟨hbearer hwrites, hwrites, hscope, htenant⟩, hq⟩
  · exact ((ToolCall.asksFor handler _ hwrites).readsOnly.quiet r h).atMostOne _

end SdcMcp
