/-
When a planned change gets through.

The checks between a plan and its request only refuse, so a program that never wrote
anything would pass them all.  What has to be shown as well is that they let through what
they are there for: where SDC still answers as it did when the plan was made, the
coordinator hands the stored document back and the client admits the request, an attempt
of the request is started.

The reads before a request are those that the plan was made of.  `Repeats` says of a read
that it gets the same again where it is answered alike; whatever else happens in between,
and how often it was tried the first time, makes no difference.
-/
import SdcMcp.Proofs.Concurrency
import SdcMcp.Proofs.Provenance

namespace SdcMcp

open Interactive

variable {α β : Type}

/-! ### Reads that repeat -/

section Reads

variable [Crates] {client : SdcClient}

/-- From here on, and until something is sent that could change SDC, each read of these events is
answered as it was, up to the order of members. -/
def AnswersAlike (client : SdcClient) (t : List Event) (r : Env) (here : List Event) : Prop :=
  ∀ q a v, .attempt q a ∈ t → readVerdict client decodeValue a.exchange = .ok v →
    ∀ more, Quiet more → ∃ current,
      readVerdict client decodeValue (r.exchange (here ++ more) q).exchange = .ok current ∧
        current.Same v

theorem AnswersAlike.subset {s t : List Event} {r : Env} {here : List Event}
    (h : AnswersAlike client t r here) (hst : ∀ e ∈ s, e ∈ t) : AnswersAlike client s r here :=
  fun q a v hmem => h q a v (hst _ hmem)

/-- A read that gets the same again where it is answered alike. -/
def Repeats (client : SdcClient) (x : Io Value) : Prop :=
  ∀ r h t v, x r h = (.ok v, t) → ∀ r' here, AnswersAlike client t r' here →
    ∀ more, Quiet more → ∃ current t',
      x r' (here ++ more) = (.ok current, t') ∧ Quiet t' ∧ current.Same v

theorem get_repeats (segments : List String) (query : List (String × String)) :
    Repeats client (get client none decodeValue segments query) := by
  intro r h t v hrun r' here halike more hmore
  obtain ⟨⟨a, hmem, hanswer⟩, -⟩ := get_answered hrun
  obtain ⟨current, hverdict, hsame⟩ := halike _ a v hmem hanswer more hmore
  cases hcheck : checkRequest client ⟨.get, segments, query, none⟩ with
  | error e =>
      rw [get_refused hcheck] at hrun
      cases hrun
  | ok u => exact ⟨current, _, get_first hcheck rfl hverdict, .cons rfl quiet_nil, hsame⟩

/-- What a check lets through once, it lets through again. -/
theorem Repeats.lift_bind {y : Except SdcError α} {f : α → Io Value}
    (hf : ∀ a, Repeats client (f a)) : Repeats client (Run.lift y >>= f) := by
  intro r h t v hrun r' here halike more hmore
  obtain ⟨a, hy, hrest⟩ := Run.lift_bind_eq_ok hrun
  rw [hy, Run.lift_ok_bind]
  exact hf a r h t v hrest r' here halike more hmore

theorem repeats_pure (v : Value) : Repeats client (return v : Io Value) := by
  intro r h t w hrun r' here _ more _
  cases hrun
  exact ⟨v, [], rfl, quiet_nil, Value.canonicalize_eq_iff.mp rfl⟩

theorem repeats_fail (e : SdcError) : Repeats client (Run.fail e) := by
  intro r h t v hrun
  cases hrun

theorem readCall_repeats (atoms : List (String × String)) (segments : List String) :
    Repeats client (readCall client none decodeValue atoms segments []) :=
  .lift_bind fun _ => get_repeats segments []

theorem firstPage_repeats (c : Collection) (device : String) :
    Repeats client (SdcLicenseTransaction.firstPage (c.read client device)) := by
  refine .lift_bind fun page => ?_
  have hlist : ∀ segments atoms, Repeats client (listCall client atoms segments page) :=
    fun segments atoms => .lift_bind fun _ => .lift_bind fun _ => get_repeats segments _
  cases c <;> exact hlist _ _

/-! ### The states that plans are made of -/

theorem objectState_repeats (action : ObjectWriteAction) (resource : WritableResource)
    (uuid : Option String) : Repeats client (objectState client action resource uuid) := by
  unfold objectState
  split
  · exact repeats_pure _
  · exact readCall_repeats _ _
  · exact repeats_fail _
  · exact repeats_fail _

theorem firewallState_repeats (action : FirewallWriteOperation) (uuid : Option String) :
    Repeats client (firewallState client action uuid) := by
  unfold firewallState
  split
  · exact repeats_pure _
  · exact readCall_repeats _ _
  · exact repeats_fail _
  · exact repeats_fail _

theorem natState_repeats (action : NatWriteOperation) (policyId ruleId groupId : Option String) :
    Repeats client (natState client action policyId ruleId groupId) := by
  unfold natState
  split
  · exact repeats_pure _
  · exact repeats_pure _
  · exact repeats_pure _
  · exact .lift_bind fun _ => readCall_repeats _ _
  · exact .lift_bind fun _ => readCall_repeats _ _
  · exact .lift_bind fun _ => .lift_bind fun _ => readCall_repeats _ _
  · exact .lift_bind fun _ => .lift_bind fun _ => readCall_repeats _ _
  · exact .lift_bind fun _ => .lift_bind fun _ => readCall_repeats _ _

omit [Crates] in
theorem SdcLicenseTransaction.certificates_congr {caCerts caCerts' localCerts localCerts' : Value}
    (hca : caCerts.Same caCerts') (hlocal : localCerts.Same localCerts') :
    (SdcLicenseTransaction.certificates caCerts localCerts).Same
      (SdcLicenseTransaction.certificates caCerts' localCerts') := by
  refine ⟨List.Perm.refl _, ⟨_, ?_, hca⟩, ⟨_, ?_, hlocal⟩, trivial⟩
  · exact List.mem_cons_self
  · exact List.mem_cons_of_mem _ List.mem_cons_self

theorem licenseState_repeats (action : LicenseWriteOperation) (device : String) :
    Repeats client (licenseState client action device) := by
  cases action with
  | installLicense => exact firstPage_repeats .licenses device
  | installCaCertificate => exact firstPage_repeats .caCertificates device
  | installLocalCertificate => exact firstPage_repeats .localCertificates device
  | deleteCertificate =>
      intro r h t v hrun r' here halike more hmore
      obtain ⟨caCerts, t1, t2, hca, hrest, rfl⟩ := Run.bind_eq_ok hrun
      obtain ⟨localCerts, t3, t4, hlocal, hpure, rfl⟩ := Run.bind_eq_ok hrest
      cases hpure
      obtain ⟨caCerts', s1, hca', hs1, hcaSame⟩ := firstPage_repeats .caCertificates device r h t1
        caCerts hca r' here (halike.subset fun e he => List.mem_append_left _ he) more hmore
      obtain ⟨localCerts', s2, hlocal', hs2, hlocalSame⟩ := firstPage_repeats .localCertificates
        device r (h ++ t1) t3 localCerts hlocal r' here
        (halike.subset fun e he => List.mem_append_right _ (List.mem_append_left _ he))
        (more ++ s1) (hmore.append hs1)
      rw [← List.append_assoc] at hlocal'
      refine ⟨SdcLicenseTransaction.certificates caCerts' localCerts', s1 ++ (s2 ++ []), ?_,
        hs1.append (hs2.append quiet_nil),
        SdcLicenseTransaction.certificates_congr hcaSame hlocalSame⟩
      refine (Run.bind_ok hca').trans ?_
      have hrest' : (SdcLicenseTransaction.firstPage (listDeviceLocalCertificates client device)
          >>= fun localCerts => return SdcLicenseTransaction.certificates caCerts' localCerts
            : Io Value) r' (here ++ more ++ s1) = (.ok (SdcLicenseTransaction.certificates caCerts'
              localCerts'), s2 ++ []) := Run.bind_ok hlocal'
      rw [hrest']

/-! ### Targets that did not move -/

theorem sameDigest_of_same {before current : Value} (h : current.Same before) :
    sameDigest before current = true := by
  refine decide_eq_true ?_
  unfold canonicalDigest
  rw [(Json.canonicalize_eq_iff current.distinct before.distinct).mpr h]

/-- What is read now has the digest of what the plan was made of. -/
theorem Repeats.sameDigest {x : Io Value} (hx : Repeats client x) {r r' : Env}
    {h t here more : List Event} {before : Value} (hrun : x r h = (.ok before, t))
    (halike : AnswersAlike client t r' here) (hmore : Quiet more) :
    ∃ s, (do
      let current ← x
      return sameDigest before current : Io Bool) r' (here ++ more) = (.ok true, s) := by
  obtain ⟨current, t', hread, -, hsame⟩ := hx r h t before hrun r' here halike more hmore
  refine ⟨t' ++ [], (Run.bind_ok hread).trans ?_⟩
  rw [sameDigest_of_same hsame, Run.pure_apply]

omit [Crates] in
theorem inventoryState_same {a b : Value} (h : a.Same b) : inventoryState a = inventoryState b := by
  unfold inventoryState
  rw [Option.bind_assoc, Option.bind_assoc, h.get_bind (fun v w hvw => hvw.asStr_eq),
    h.get_bind fun v w hvw => hvw.get_bind (fun v w hvw => hvw.asStr_eq) _]

/-- A target is found unchanged from here on, until something is sent that could change SDC. -/
def StaysSame (unchanged : Io Bool) (r : Env) (here : List Event) : Prop :=
  ∀ more, Quiet more → ∃ s, unchanged r (here ++ more) = (.ok true, s)

/-- From here on, the transaction of an action finds nothing to refuse. -/
def StoredAction.Unmoved (client : SdcClient) (r : Env) (here : List Event) : StoredAction → Prop
  | .policyDeploy p => ∀ h, ∃ report, SdcTransaction.validate p r h = (.ok report, [])
  | .objectWrite p => StaysSame (SdcObjectTransaction.targetUnchanged client p) r here
  | .firewallWrite p => StaysSame (SdcFirewallTransaction.targetUnchanged client p) r here
  | .natWrite p => StaysSame (SdcNatTransaction.targetUnchanged client p) r here
  | .licenseWrite p => StaysSame (SdcLicenseTransaction.targetUnchanged client p) r here
  | .deviceSync p => StaysSame (SdcDeviceSyncTransaction.targetsUnchanged client p) r here

/-- Devices that are read as they were kept did not move. -/
theorem readDevices_unmoved {uuids : List String} (hdistinct : uuids.Nodup) {before after : Map}
    {kept : Value} {r r' : Env} {h t here : List Event}
    (hrun : readDevices client before uuids r h = (.ok after, t))
    (hkept : ∀ uuid ∈ uuids, kept.get uuid = after.get uuid)
    (halike : AnswersAlike client t r' here) :
    StaysSame (SdcDeviceSyncTransaction.targetsUnchangedFrom client kept uuids) r' here := by
  induction uuids generalizing before h t with
  | nil => exact fun more _ => ⟨[], rfl⟩
  | cons uuid rest ih =>
      intro more hmore
      obtain ⟨hfresh, hrest⟩ := List.nodup_cons.mp hdistinct
      obtain ⟨device, t1, t2, hread, hmany, rfl⟩ := Run.bind_eq_ok hrun
      obtain ⟨current, s1, hcurrent, hs1, hsame⟩ := readCall_repeats _ _ r h t1 device hread r'
        here (halike.subset fun e he => List.mem_append_left _ he) more hmore
      obtain ⟨s2, hunmoved⟩ := ih hrest hmany
        (fun u hu => hkept u (List.mem_cons_of_mem _ hu))
        (halike.subset fun e he => List.mem_append_right _ he) (more ++ s1) (hmore.append hs1)
      rw [← List.append_assoc] at hunmoved
      have hdevice : kept.get uuid = some device := by
        rw [hkept uuid List.mem_cons_self, (readDevices_ok hrest hmany).2 uuid hfresh,
          Map.get_insert, if_pos rfl]
      have hstate : inventoryState current = SdcDeviceSyncTransaction.thenState kept uuid := by
        unfold SdcDeviceSyncTransaction.thenState
        rw [hdevice, Option.map_some, Option.getD_some, inventoryState_same hsame]
      refine ⟨s1 ++ s2, (Run.bind_ok hcurrent).trans ?_⟩
      rw [if_neg (not_not.mpr hstate), hunmoved]

/-- **A plan passes its gate** where what it was made of is answered alike.  The gate of a deploy
reads nothing. -/
theorem ToolCall.plan_unmoved {tool : ToolCall} {plan : Io StoredAction}
    (h : tool.plan client = some plan) {r r' : Env} {history t here : List Event}
    {action : StoredAction} (hrun : plan r history = (.ok action, t))
    (halike : action.kind ≠ .policyDeploy → AnswersAlike client t r' here) :
    action.Unmoved client r' here := by
  cases tool with
  | prepareSdcPolicyDeploy policies =>
      cases h
      obtain ⟨u, -, hrun⟩ := Run.lift_bind_eq_ok hrun
      obtain ⟨p, t1, t2, hprepared, hpure, rfl⟩ := Run.bind_eq_ok hrun
      cases hpure
      obtain ⟨status, results, targets, hpreviewed, -⟩ := preparePolicyDeploy_ok hprepared
      intro h'
      refine ⟨⟨true, some p.previewJobId, .completed⟩, ?_⟩
      unfold SdcTransaction.validate
      rw [hpreviewed.validateReport]
      rfl
  | prepareSdcObjectWrite action resource uuid body =>
      cases h
      obtain ⟨before, t1, t2, hstate, hmade, rfl⟩ := Run.bind_eq_ok hrun
      obtain ⟨p, hnew, hpure⟩ := Run.lift_bind_eq_ok hmade
      cases hpure
      obtain ⟨u, -, hp⟩ := Except.bind_eq_ok_iff.mp hnew
      cases hp
      intro more hmore
      have halike := (halike nofun).subset fun e he => List.mem_append_left _ he
      have hsame := (objectState_repeats action resource uuid).sameDigest hstate halike hmore
      unfold SdcObjectTransaction.targetUnchanged
      cases action with
      | create => exact ⟨[], rfl⟩
      | update | delete =>
          cases uuid with
          | none => cases hstate
          | some identifier => exact hsame
  | prepareSdcFirewallWrite action uuid body =>
      cases h
      obtain ⟨before, t1, t2, hstate, hmade, rfl⟩ := Run.bind_eq_ok hrun
      obtain ⟨p, hnew, hpure⟩ := Run.lift_bind_eq_ok hmade
      cases hpure
      obtain ⟨u, -, hp⟩ := Except.bind_eq_ok_iff.mp hnew
      cases hp
      intro more hmore
      have halike := (halike nofun).subset fun e he => List.mem_append_left _ he
      have hsame := (firewallState_repeats action uuid).sameDigest hstate halike hmore
      unfold SdcFirewallTransaction.targetUnchanged
      cases action with
      | createPolicy => exact ⟨[], rfl⟩
      | updatePolicy | deletePolicy =>
          cases uuid with
          | none => cases hstate
          | some identifier => exact hsame
  | prepareSdcNatWrite action policyId ruleId groupId body =>
      cases h
      obtain ⟨before, t1, t2, hstate, hmade, rfl⟩ := Run.bind_eq_ok hrun
      obtain ⟨p, hnew, hpure⟩ := Run.lift_bind_eq_ok hmade
      cases hpure
      obtain ⟨u, -, hp⟩ := Except.bind_eq_ok_iff.mp hnew
      cases hp
      intro more hmore
      have halike := (halike nofun).subset fun e he => List.mem_append_left _ he
      have hsame := (natState_repeats action policyId ruleId groupId).sameDigest hstate halike hmore
      rw [SdcNatTransaction.targetUnchanged_eq]
      cases action with
      | createPolicy | createRule | createRuleGroup => exact ⟨[], rfl⟩
      | _ => exact hsame
  | prepareSdcLicenseWrite action deviceUuid body =>
      cases h
      obtain ⟨before, t1, t2, hstate, hmade, rfl⟩ := Run.bind_eq_ok hrun
      obtain ⟨p, hnew, hpure⟩ := Run.lift_bind_eq_ok hmade
      cases hpure
      obtain ⟨u, -, hp⟩ := Except.bind_eq_ok_iff.mp hnew
      cases hp
      intro more hmore
      have halike := (halike nofun).subset fun e he => List.mem_append_left _ he
      have hsame := (licenseState_repeats action deviceUuid).sameDigest hstate halike hmore
      unfold SdcLicenseTransaction.targetUnchanged
      rw [SdcLicenseTransaction.current_eq]
      exact hsame
  | prepareSdcDeviceInventorySync deviceUuids =>
      cases h
      obtain ⟨sorted, hsorted, hread⟩ := Run.lift_bind_eq_ok hrun
      obtain ⟨before, t1, t2, hreads, hmade, rfl⟩ := Run.bind_eq_ok hread
      obtain ⟨p, hnew, hpure⟩ := Run.lift_bind_eq_ok hmade
      cases hpure
      obtain ⟨again, hagain, hrest⟩ := Except.bind_eq_ok_iff.mp hnew
      rw [SdcPreparedDeviceSync.canonicalDeviceList_idem hsorted, Except.ok.injEq] at hagain
      subst hagain
      obtain ⟨u, -, hp⟩ := Except.bind_eq_ok_iff.mp hrest
      cases hp
      have hsync := SdcPreparedDeviceSync.canonicalDeviceList_isOk_iff.mp ⟨sorted, hsorted⟩
      have hdistinct : sorted.Nodup :=
        (SdcPreparedDeviceSync.canonicalDeviceList_perm hsorted).nodup_iff.mpr hsync.distinct
      exact readDevices_unmoved hdistinct hreads (fun uuid _ => Value.get_object before uuid)
        ((halike nofun).subset fun e he => List.mem_append_left _ he)
  | _ => cases h

end Reads

/-! ### What an application sends -/

/-- One attempt of this request is started, and of nothing else that could change SDC. -/
def SendsOnly (q : Request) (t : List Event) : Prop :=
  ∃ before a after, t = before ++ .attempt q a :: after ∧ Quiet before ∧ Quiet after

theorem SendsOnly.after_quiet {q : Request} {s t : List Event} (hs : Quiet s)
    (ht : SendsOnly q t) : SendsOnly q (s ++ t) := by
  obtain ⟨before, a, after, rfl, hbefore, hafter⟩ := ht
  exact ⟨s ++ before, a, after, (List.append_assoc _ _ _).symm, hs.append hbefore, hafter⟩

/-- A coordinator that hands each call of the transaction on. -/
structure Coordinator.Relays (coordinator : Coordinator α) : Prop where
  apply : ∀ history, coordinator.apply history = .relays
  diff : ∀ history, coordinator.diff history = .relays
  validate : ∀ history, coordinator.validate history = .relays
  commit : ∀ history, coordinator.commit history = .relays

section Applications

variable {transaction : Transaction α β} {unchanged : α → Io Bool}
  {request : α → Except SdcError Request} {leavesOpen : Exchange → Bool}

/-- An application whose target stays unchanged sends the request of what it staged. -/
theorem applyWrite_sends (hg : Gated transaction unchanged request leavesOpen)
    (texts : ReleaseTexts) {coordinator : Coordinator α} (hrelays : coordinator.Relays)
    {operationId : String} {staged : α} {r : Env} {h : List Event}
    (hset : coordinator.changeSet (h ++ [.markRefused false]) = .ok (operationId, [staged]))
    (hstage : transaction.stage [staged] = .ok staged)
    (hsame : StaysSame (unchanged staged) r h) {q : Request} (hrequest : request staged = .ok q) :
    SendsOnly q (applyWrite texts coordinator transaction r h).2 := by
  have hmark : ∀ b, Quiet [.markRefused b] := fun b => .cons rfl quiet_nil
  have happlied : Applied coordinator transaction.stage r h operationId staged :=
    applied_of_staged hset (hrelays.apply _) hstage
  have htrue : ∀ more, Quiet more → (unchanged staged r (h ++ more)).1 = .ok true := by
    intro more hmore
    obtain ⟨s, hrun⟩ := hsame more hmore
    rw [hrun]
  have hagain : ∀ t, Reads t →
      (unchanged staged r (h ++ [.markRefused false] ++ t ++ [.markRefused true])).1
        = .ok true := by
    intro t ht
    rw [List.append_assoc, List.append_assoc]
    exact htrue _ ((hmark false).append (ht.quiet.append (hmark true)))
  rcases applyWrite_cases texts coordinator transaction r h with
    ⟨hnone, -⟩ | ⟨operationId', staged', happlied', heq⟩
  · exact absurd happlied (hnone _ _)
  have hsame := happlied.symm.trans happlied'
  cases hsame
  have hexits := applyStaged_exits hg texts coordinator operationId staged r
    (h ++ [.markRefused false]) (refusedBeforeWrite_mark h false)
  rw [heq]
  refine SendsOnly.after_quiet (hmark false) ?_
  generalize applyStaged texts coordinator transaction operationId staged r _ = run at hexits ⊢
  -- Each way to end without the request needs a refusal, and nothing refuses.
  obtain ⟨o, t⟩ := run
  cases hexits with
  | diffFailed e hdiff => exact absurd (hrelays.diff _) hdiff
  | invalid e t hvalid => exact absurd ⟨hrelays.validate _, htrue _ (hmark false)⟩ hvalid
  | invalidLeft t hvalid => exact absurd ⟨hrelays.validate _, htrue _ (hmark false)⟩ hvalid
  | commitRefused e e' t hdiff hvalid hsame hreads hcommit =>
      rw [hrelays.commit] at hcommit
      cases hcommit
  | stopped e t s hdiff hvalid hsame hreads hcommit hs hmoved =>
      exact absurd (hagain t hreads) hmoved
  | stoppedLeft t s hdiff hvalid hsame hreads hcommit hs hmoved =>
      exact absurd (hagain t hreads) hmoved
  | writeRefused e e' t s hdiff hvalid hsame hreads hcommit hs hgate herror =>
      rw [hrequest] at herror
      cases herror
  | written o q' t s after hdiff hvalid hsame hreads hcommit hs hgate hq hmut hafter hopen =>
      rw [hrequest, Except.ok.injEq] at hq
      subst hq
      exact SendsOnly.after_quiet hreads.quiet
        ⟨gateEvents s, _, after, rfl, quiet_gateEvents hs.quiet, hafter.quiet⟩

/-- What a relayed call gets, its caller gets. -/
theorem relay_answered {coordinator : Coordinator α} {conduct : List Event → Conduct} {call : Io β}
    {r : Env} {h t : List Event} {b : β} (hc : conduct h = .relays)
    (hcall : call r h = (.ok b, t)) : coordinator.relay conduct call r h = (.ok b, t) := by
  rw [relay_relays hc, hcall]
  rfl

theorem applyChangeSet_apply {coordinator : Coordinator α} {stage : List α → Except SdcError α}
    {r : Env} {h : List Event} {operationId : String} {actions : List α} {staged : α}
    (hset : coordinator.changeSet h = .ok (operationId, actions))
    (happly : coordinator.apply h = .relays) (hstage : stage actions = .ok staged) :
    coordinator.applyChangeSet stage r h = (.ok (operationId, staged), []) := by
  have hrelay : coordinator.relay coordinator.apply (Run.lift (stage actions)) r h
      = (.ok staged, []) := relay_answered happly (by rw [hstage]; rfl)
  unfold Coordinator.applyChangeSet
  rw [Run.ask_bind, hset, Run.lift_ok_bind]
  exact Run.bind_ok hrelay

/-- The application of a deploy sends the deploy of what it staged. -/
theorem applyPolicyDeploy_sends [Crates] {client : SdcClient}
    {coordinator : Coordinator SdcPreparedChange} (hrelays : coordinator.Relays)
    {operationId digest : String} {staged : SdcPreparedChange} {r : Env} {h : List Event}
    (hset : coordinator.changeSet h = .ok (operationId, [staged]))
    (hstage : SdcTransaction.stage digest [staged] = .ok staged)
    (hvalid : ∀ h, ∃ report, SdcTransaction.validate staged r h = (.ok report, []))
    {request : DeployRequest} (hrequest : SdcTransaction.deployRequest staged = .ok request)
    (hcheck : checkRequest client
      ⟨.post, ["api", "v1", "policies", "deploy"], [], some request.encode⟩ = .ok ()) :
    SendsOnly ⟨.post, ["api", "v1", "policies", "deploy"], [], some request.encode⟩
      (applyPolicyDeploy client coordinator digest r h).2 := by
  obtain ⟨report, hreport⟩ := hvalid h
  obtain ⟨a, after, hsent, hafter⟩ := deployPrepared_sent hcheck r h
  have happlied : coordinator.applyChangeSet (SdcTransaction.stage digest) r h
      = (.ok (operationId, staged), []) := applyChangeSet_apply hset (hrelays.apply h) hstage
  have hdiff : coordinator.relay coordinator.diff (return staged.preview : Io Value) r h
      = (.ok staged.preview, []) := relay_answered (hrelays.diff h) rfl
  have hvalidate : coordinator.relay coordinator.validate (SdcTransaction.validate staged) r h
      = (.ok report, []) := relay_answered (hrelays.validate h) hreport
  have hcommit : (coordinator.relay coordinator.commit
      (SdcTransaction.commit client staged ⟨none⟩) r h).2
        = .attempt ⟨.post, ["api", "v1", "policies", "deploy"], [], some request.encode⟩ a
          :: after := by
    rw [relay_relays (hrelays.commit h), SdcTransaction.commit_decoded client (by decide) hrequest]
    exact hsent
  refine ⟨[], a, after, ?_, quiet_nil, hafter.quiet⟩
  rw [List.nil_append, ← hcommit]
  unfold applyPolicyDeploy
  dsimp only
  rw [Run.mapErr_apply]
  refine (congrArg Prod.snd (Run.bind_silent happlied)).trans ?_
  refine (congrArg Prod.snd (Run.bind_silent hdiff)).trans ?_
  refine (congrArg Prod.snd (Run.bind_silent hvalidate)).trans ?_
  exact congrArg Prod.snd (Run.bind_pure_eq _ _ r h)

end Applications

/-! ### A call that gets through -/

section Calls

variable [Crates]

/-- The request that the transaction of an action would send, if the client admits it. -/
def StoredAction.request (client : SdcClient) : StoredAction → Except SdcError Request
  | .policyDeploy p => do
      let request ← SdcTransaction.deployRequest p
      checkRequest client ⟨.post, ["api", "v1", "policies", "deploy"], [], some request.encode⟩
      return ⟨.post, ["api", "v1", "policies", "deploy"], [], some request.encode⟩
  | .objectWrite p => SdcObjectTransaction.request client p
  | .firewallWrite p => SdcFirewallTransaction.request client p
  | .natWrite p => SdcNatTransaction.request client p
  | .licenseWrite p => SdcLicenseTransaction.request client p
  | .deviceSync p => SdcDeviceSyncTransaction.request client p

/-- The coordinator of a kind hands each call of its transaction on. -/
def ChangeManager.Relays (changes : ChangeManager) (owner : String) (args : ApplyArgs) :
    StoredKind → Prop
  | .policyDeploy => (changes.policyDeploys owner args).Relays
  | .objectWrite => (changes.objectWrites owner args).Relays
  | .firewallWrite => (changes.firewallWrites owner args).Relays
  | .natWrite => (changes.natWrites owner args).Relays
  | .licenseWrite => (changes.licenseWrites owner args).Relays
  | .deviceSync => (changes.deviceSyncs owner args).Relays

/-- What the coordinator hands over is what is read back of the document of this action. -/
def ChangeManager.HandsBack (changes : ChangeManager) (owner : String) (args : ApplyArgs)
    (action : StoredAction) : Prop :=
  ∀ history, ∃ operationId actions,
    changes.handedOver owner args history action.kind = .ok (operationId, actions) ∧
      [action.encode.toValue].map (fun document => StoredAction.decode action.kind document.tree)
        = actions.map some

omit [Crates] in
/-- A coordinator that hands back the document of an action hands over the action. -/
theorem handsBack_changeSet {changes : ChangeManager} {owner : String} {args : ApplyArgs}
    {mk : α → StoredAction} {p : α} {coordinator : Coordinator α}
    (hback : changes.HandsBack owner args (mk p)) (hinj : Function.Injective mk)
    (hset : ∀ history, changes.handedOver owner args history (mk p).kind
      = (coordinator.changeSet history).map fun set => (set.1, set.2.map mk))
    (history : List Event) :
    ∃ operationId, coordinator.changeSet history = .ok (operationId, [p]) := by
  obtain ⟨operationId, actions, hhanded, hread⟩ := hback history
  rw [List.map_singleton, Json.toValue_tree (StoredAction.distinct_encode _),
    StoredAction.decode_encode] at hread
  have hone : actions = [mk p] :=
    List.map_injective_iff.mpr (Option.some_injective _) (hread.symm.trans List.map_singleton.symm)
  rw [hset, hone] at hhanded
  obtain ⟨⟨op, made⟩, hmade, hpair⟩ := Except.map_eq_ok_iff.mp hhanded
  obtain ⟨rfl, hmap⟩ := Prod.mk.inj hpair
  have hp : made = [p] :=
    List.map_injective_iff.mpr hinj (hmap.trans List.map_singleton.symm)
  rw [hp] at hmade
  exact ⟨op, hmade⟩

omit [Crates] in
/-- An action that stages under its constructor stages by itself. -/
private theorem stage_one {mk : α → StoredAction} (hinj : Function.Injective mk)
    {x : Except SdcError α} {p : α} (h : x.map mk = .ok (mk p)) : x = .ok p := by
  obtain ⟨p', hx, hsame⟩ := Except.map_eq_ok_iff.mp h
  rw [hx, hinj hsame]

omit [Crates] in
/-- A write that was handed back and stages sends its request. -/
theorem handedBack_sends {transaction : Transaction α β} {unchanged : α → Io Bool}
    {request : α → Except SdcError Request} {leavesOpen : Exchange → Bool}
    (hg : Gated transaction unchanged request leavesOpen) (texts : ReleaseTexts)
    {changes : ChangeManager} {owner : String} {args : ApplyArgs} {mk : α → StoredAction} {p : α}
    {coordinator : Coordinator α} (hback : changes.HandsBack owner args (mk p))
    (hinj : Function.Injective mk)
    (hset : ∀ history, changes.handedOver owner args history (mk p).kind
      = (coordinator.changeSet history).map fun set => (set.1, set.2.map mk))
    (hrelays : coordinator.Relays) (hstage : (transaction.stage [p]).map mk = .ok (mk p)) {r : Env}
    {h : List Event} (hsame : StaysSame (unchanged p) r h) {q : Request}
    (hrequest : request p = .ok q) :
    SendsOnly q (applyWrite texts coordinator transaction r h).2 := by
  obtain ⟨operationId, hhanded⟩ := handsBack_changeSet hback hinj hset (h ++ [.markRefused false])
  exact applyWrite_sends hg texts hrelays hhanded (stage_one hinj hstage) hsame hrequest

/-- **An action that stages is applied** where nothing refuses it. -/
theorem ToolCall.io_sends [HandlerCrates] (handler : SdcHandler) {call : Call} {args : ApplyArgs}
    {action : StoredAction} (htool : call.tool.applies = some (action.kind, args))
    (hstage : action.stage args.expectedPlanDigest = .ok action)
    (hrelays : handler.changes.Relays (owner call.caller) args action.kind)
    (hback : handler.changes.HandsBack (owner call.caller) args action) {r : Env} {h : List Event}
    (hunmoved : action.Unmoved handler.client r h) {q : Request}
    (hrequest : action.request handler.client = .ok q) :
    SendsOnly q (call.tool.io handler (owner call.caller) r h).2 := by
  cases action with
  | policyDeploy p =>
      have hinj : Function.Injective StoredAction.policyDeploy :=
        fun _ _ heq => StoredAction.policyDeploy.inj heq
      obtain ⟨operationId, hset⟩ := handsBack_changeSet hback hinj (fun _ => rfl) h
      obtain ⟨request, hdecoded, hchecked⟩ := Except.bind_eq_ok_iff.mp hrequest
      obtain ⟨u, hcheck, hq⟩ := Except.bind_eq_ok_iff.mp hchecked
      cases hq
      cases hcall : call.tool <;> rw [hcall] at htool <;> cases htool
      have hevents : (ToolCall.io handler (owner call.caller) (.applySdcChangeSet args) r h).2
          = (applyPolicyDeploy handler.client (handler.changes.policyDeploys _ args) _ r h).2 :=
        congrArg Prod.snd (Run.bind_pure_eq _ _ r h)
      rw [hevents]
      exact applyPolicyDeploy_sends hrelays hset (stage_one hinj hstage) hunmoved hdecoded hcheck
  | objectWrite p =>
      cases hcall : call.tool <;> rw [hcall] at htool <;> cases htool
      have hevents : (ToolCall.io handler (owner call.caller) (.applySdcObjectWrite args) r h).2
          = (applyObjectWrite handler.client (handler.changes.objectWrites _ args) _ r h).2 :=
        congrArg Prod.snd (Run.bind_pure_eq _ _ r h)
      rw [hevents]
      exact handedBack_sends (SdcObjectTransaction.gated _ _) _ hback
        (fun _ _ heq => StoredAction.objectWrite.inj heq) (fun _ => rfl) hrelays hstage hunmoved
        hrequest
  | firewallWrite p =>
      cases hcall : call.tool <;> rw [hcall] at htool <;> cases htool
      have hevents : (ToolCall.io handler (owner call.caller) (.applySdcFirewallWrite args) r h).2
          = (applyFirewallWrite handler.client (handler.changes.firewallWrites _ args) _ r h).2 :=
        congrArg Prod.snd (Run.bind_pure_eq _ _ r h)
      rw [hevents]
      exact handedBack_sends (SdcFirewallTransaction.gated _ _) _ hback
        (fun _ _ heq => StoredAction.firewallWrite.inj heq) (fun _ => rfl) hrelays hstage hunmoved
        hrequest
  | natWrite p =>
      cases hcall : call.tool <;> rw [hcall] at htool <;> cases htool
      have hevents : (ToolCall.io handler (owner call.caller) (.applySdcNatWrite args) r h).2
          = (applyNatWrite handler.client (handler.changes.natWrites _ args) _ r h).2 :=
        congrArg Prod.snd (Run.bind_pure_eq _ _ r h)
      rw [hevents]
      exact handedBack_sends (SdcNatTransaction.gated _ _) _ hback
        (fun _ _ heq => StoredAction.natWrite.inj heq) (fun _ => rfl) hrelays hstage hunmoved
        hrequest
  | licenseWrite p =>
      cases hcall : call.tool <;> rw [hcall] at htool <;> cases htool
      have hevents : (ToolCall.io handler (owner call.caller) (.applySdcLicenseWrite args) r h).2
          = (applyLicenseWrite handler.client (handler.changes.licenseWrites _ args) _ r h).2 :=
        congrArg Prod.snd (Run.bind_lift _ _ r h)
      rw [hevents]
      exact handedBack_sends (SdcLicenseTransaction.gated _ _) _ hback
        (fun _ _ heq => StoredAction.licenseWrite.inj heq) (fun _ => rfl) hrelays hstage hunmoved
        hrequest
  | deviceSync p =>
      cases hcall : call.tool <;> rw [hcall] at htool <;> cases htool
      have hevents : (ToolCall.io handler (owner call.caller)
          (.applySdcDeviceInventorySync args) r h).2
          = (applyDeviceSync handler.client (handler.changes.deviceSyncs _ args) _ r h).2 :=
        congrArg Prod.snd (Run.bind_pure_eq _ _ r h)
      rw [hevents]
      exact handedBack_sends (SdcDeviceSyncTransaction.gated _ _) _ hback
        (fun _ _ heq => StoredAction.deviceSync.inj heq) (fun _ => rfl) hrelays hstage hunmoved
        hrequest

/-- **A planned change gets through.**  A call planned an action and had it stored; another call is
admitted, applies the change set under the digest of the plan, and gets back from the coordinator
what was stored.  If SDC answers what the plan had read as it did then, and the client admits the
request of the action, one attempt of that request is started, which may end before the transport
has it, and nothing else that could change SDC. -/
theorem planned_change_sent [HandlerCrates] (base : SdcHandler) (p s : Served) (args : ApplyArgs)
    (action : StoredAction) (hstores : p.Stores base args.changeSetId action)
    (hadmitted : authorizeRequest s.call.caller s.call.tool.name s.call.tenant base.tenant
      = .ok ())
    (htool : s.call.tool.applies = some (action.kind, args))
    (hdigest : args.expectedPlanDigest = action.digest)
    (hrelays : s.changes.Relays (owner s.call.caller) args action.kind)
    (hback : s.changes.HandsBack (owner s.call.caller) args action)
    (halike : action.kind ≠ .policyDeploy →
      AnswersAlike base.client (p.events base) s.env s.history)
    (q : Request) (hrequest : action.request base.client = .ok q) :
    SendsOnly q (s.events base) := by
  obtain ⟨plan, t, output, u, hplan, hrun, -, -⟩ := hstores.planned
  have hevents := Served.plan_events hstores.admitted hplan
  rw [hrun] at hevents
  have hunmoved : action.Unmoved base.client s.env s.history :=
    ToolCall.plan_unmoved hplan hrun fun hkind => (halike hkind).subset hevents
  have hmade := ToolCall.plan_constructed hplan hrun
  have hstage : action.stage args.expectedPlanDigest = .ok action :=
    StoredAction.stage_ok_iff.mpr ⟨rfl, hmade.valid, hdigest.symm⟩
  have hsame : s.events base
      = (s.call.tool.io (s.handler base) (owner s.call.caller) s.env s.history).2 :=
    (s.handler base).handle_admitted hadmitted s.env s.history
  rw [hsame]
  exact ToolCall.io_sends (s.handler base) htool hstage hrelays hback hunmoved hrequest

end Calls

/-! ### A device that stayed as it was -/

section StillDevice

local instance stillAgainCrates : Crates := stillTables.crates

local instance stillAgainHandlerCrates : HandlerCrates := scopedCrates

theorem still_answers : AnswersAlike minuteClient (planStill.events stillHandler) stillEnv [] := by
  rw [planStill_events]
  intro q a v hmem hverdict more _
  obtain ⟨rfl, rfl⟩ := Event.attempt.inj (List.mem_singleton.mp hmem)
  exact ⟨v, hverdict, Value.canonicalize_eq_iff.mp rfl⟩

theorem still_handed_back : stillManager.HandsBack "planner" stillArgs (.deviceSync stillSync) := by
  intro history
  refine ⟨"op-1", [.deviceSync stillSync], rfl, ?_⟩
  rw [List.map_singleton, Json.toValue_tree (StoredAction.distinct_encode _)]
  exact congrArg ([·]) (StoredAction.decode_encode (.deviceSync stillSync))

set_option maxRecDepth 40000 in
/-- The sync of the device is requested. -/
theorem still_device_synced :
    SendsOnly (syncRequest ["dev-1"]) (applyStill.events stillHandler) :=
  planned_change_sent stillHandler planStill applyStill stillArgs (.deviceSync stillSync)
    planStill_stores rfl rfl rfl ⟨fun _ => rfl, fun _ => rfl, fun _ => rfl, fun _ => rfl⟩
    still_handed_back (fun _ => still_answers) _ rfl

end StillDevice

end SdcMcp
