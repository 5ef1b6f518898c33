/-
What is shown of a planned change.

A planner is answered with the action that was stored, and whoever is to approve it reads
the document that was stored under the change set.  Both are shown the same, and what they
are shown says what will be sent: two actions that look the same are of one kind, have one
digest and stand for one request.  All of this is before the scan for credentials, which
may blank members of either answer.
-/
import SdcMcp.Proofs.Provenance

namespace SdcMcp

open Interactive

/-- Documents of different kinds have different members. -/
theorem StoredKind.members_injective : Function.Injective StoredKind.members := by
  intro k j h
  cases k <;> cases j <;> first | rfl | exact absurd h (by decide)

section Views

variable [Crates]

namespace StoredAction

/-- The operation that the document of a planned action names. -/
def operation : StoredAction → String
  | .policyDeploy p => p.operation
  | .objectWrite p => p.operation
  | .firewallWrite p => p.operation
  | .natWrite p => p.operation
  | .licenseWrite p => p.operation
  | .deviceSync p => p.operation

omit [Crates] in
theorem get_operation (a : StoredAction) :
    (a.encode.toValue.get "operation").bind (fun v => v.tree.asStr) = some a.operation := by
  have hget : a.encode.toValue.get "operation" = some (.string a.operation) := by
    rw [Value.get_eq_some, Json.toValue_tree a.distinct_encode]
    cases a <;> rfl
  rw [hget]
  rfl

/-- Only a license write names itself one. -/
theorem Constructed.operation_ne {a : StoredAction} (ha : a.Constructed)
    (hkind : a.kind ≠ .licenseWrite) : a.operation ≠ "license_write" := by
  cases a with
  | licenseWrite p => exact absurd rfl hkind
  | policyDeploy p =>
      obtain ⟨hoperation, -⟩ := SdcPreparedChange.validate_ok_iff.mp ha.valid
      rw [StoredAction.operation, hoperation]
      decide
  | objectWrite p =>
      obtain ⟨hoperation, -⟩ := SdcPreparedObjectWrite.validate_ok_iff.mp ha.valid
      rw [StoredAction.operation, hoperation]
      decide
  | firewallWrite p =>
      obtain ⟨hoperation, -⟩ := SdcPreparedFirewallWrite.validate_ok_iff.mp ha.valid
      rw [StoredAction.operation, hoperation]
      decide
  | natWrite p =>
      rw [StoredAction.operation, ha.valid.2]
      decide
  | deviceSync p =>
      obtain ⟨hoperation, -⟩ := SdcPreparedDeviceSync.validate_ok_iff.mp ha.valid
      rw [StoredAction.operation, hoperation]
      decide

/-- Every document but that of a license write is shown as it is. -/
theorem view_plain {a : StoredAction} (hkind : a.kind ≠ .licenseWrite) :
    a.view = a.encode.toValue := by
  cases a with
  | licenseWrite p => exact absurd rfl hkind
  | _ => rfl

/-- The document of a planned action is shown as the action was. -/
theorem Constructed.preparedChange_eq {a : StoredAction} (ha : a.Constructed)
    (serdeError : Value → String) (rest : List Value) :
    preparedChange serdeError (.ok (a.encode.toValue :: rest)) = .ok a.view := by
  by_cases hkind : a.kind = .licenseWrite
  · cases a with
    | licenseWrite p =>
        obtain ⟨hoperation, -⟩ := SdcPreparedLicenseWrite.validate_ok_iff.mp ha.valid
        exact (SdcMcp.preparedChange_eq hoperation serdeError rest).trans p.callerView_eq
    | _ => cases hkind
  · have hother := ha.operation_ne hkind
    have hfirst : preparedChange serdeError (.ok (a.encode.toValue :: rest))
        = preparedAction serdeError a.encode.toValue := rfl
    rw [hfirst, view_plain hkind]
    unfold preparedAction
    rw [a.get_operation]
    exact if_neg hother

/-! ### Actions that look alike -/

/-- A view has the members of its kind. -/
theorem view_members (a : StoredAction) :
    ∃ members, a.view.tree = .obj members ∧ members.map Prod.fst = a.kind.members := by
  by_cases hkind : a.kind = .licenseWrite
  · cases a with
    | licenseWrite p =>
        refine ⟨_, rfl, ?_⟩
        rw [List.map_map]
        exact Map.keys_insert p.before_mem_members _
    | _ => cases hkind
  · obtain ⟨members, hencode, hkeys⟩ := a.encode_members
    rw [view_plain hkind, Json.toValue_tree a.distinct_encode]
    exact ⟨members, hencode, hkeys⟩

/-- **What is shown says what is sent.**  Actions that look alike are of one kind, have one digest
and stand for one request. -/
theorem view_inj {a b : StoredAction} (h : a.view = b.view) :
    a.kind = b.kind ∧ a.digest = b.digest ∧ a.intended = b.intended := by
  have hkind : a.kind = b.kind := by
    obtain ⟨members, ha, hkeys⟩ := a.view_members
    obtain ⟨members', hb, hkeys'⟩ := b.view_members
    have hsame : a.kind.members = b.kind.members := by
      rw [h, hb] at ha
      cases ha
      exact hkeys.symm.trans hkeys'
    exact StoredKind.members_injective hsame
  by_cases hlicense : a.kind = .licenseWrite
  · have hother := hkind.symm.trans hlicense
    cases a with
    | licenseWrite p =>
        cases b with
        | licenseWrite q =>
            have hget : ∀ key ≠ "before", p.members.get key = q.members.get key := by
              intro key hkey
              have hsame := congrArg (fun v => v.get key) h
              unfold view at hsame
              dsimp only at hsame
              rwa [Value.get_object, Value.get_object, Map.get_insert, Map.get_insert,
                if_neg hkey, if_neg hkey] at hsame
            have htext : ∀ {s t : String}, some (Value.string s) = some (Value.string t) → s = t :=
              fun heq => Json.str.inj (congrArg Value.tree (Option.some.inj heq))
            have haction : p.action.name = q.action.name := htext (hget "action" (by decide))
            have huuid : p.deviceUuid = q.deviceUuid := htext (hget "device_uuid" (by decide))
            have hdigest : p.planDigest = q.planDigest := htext (hget "plan_digest" (by decide))
            have hrequest : p.request = q.request :=
              Option.some.inj (hget "request" (by decide))
            refine ⟨rfl, hdigest, ?_⟩
            unfold intended SdcPreparedLicenseWrite.intended
            dsimp only
            rw [haction, huuid, hrequest]
        | _ => cases hother
    | _ => cases hlicense
  · rw [view_plain hlicense, view_plain (hkind ▸ hlicense)] at h
    have hencode : a.encode = b.encode := by
      rw [← Json.toValue_tree a.distinct_encode, h, Json.toValue_tree b.distinct_encode]
    have hsame := a.decode_encode
    rw [hkind, hencode, b.decode_encode, Option.some.injEq] at hsame
    rw [hsame]
    exact ⟨rfl, rfl, rfl⟩

end StoredAction

/-! ### The two answers -/

variable [HandlerCrates]

/-- A planner is shown the action that was stored. -/
theorem Served.Stores.answer {base : SdcHandler} {p : Served} {changeSetId : String}
    {action : StoredAction} (hstores : p.Stores base changeSetId action) {answer : Value}
    (hanswer : (p.run base).1 = .ok answer) :
    ∃ changeSet, answer = HandlerCrates.redactSecrets (planResult changeSet action.view) := by
  obtain ⟨plan, t, output, u, hplan, hrun, -, -⟩ := hstores.planned
  have hplain : p.call.tool.rereads = false := by
    cases hcall : p.call.tool <;> rw [hcall] at hplan <;> first | rfl | cases hplan
  have hhandled : (p.handler base).handle p.call p.env p.history = (.ok answer, p.events base) :=
    Prod.ext hanswer rfl
  obtain ⟨v, rfl, hio⟩ := (p.handler base).handle_ok hplain hhandled
  rw [ToolCall.io_plan (p.handler base) (owner p.call.caller) hplan] at hio
  obtain ⟨made, t1, t2, hmade, hstored, -⟩ := Run.bind_eq_ok hio
  obtain ⟨changeSet, t3, t4, -, hpure, -⟩ := Run.bind_eq_ok hstored
  rw [hrun] at hmade
  cases hmade
  cases hpure
  exact ⟨changeSet, rfl⟩

/-- **An approver is shown what the planner was shown, and that is what will be sent.**  A call
planned an action, had it stored under a change set and was answered; an admitted call reads the
details of the change set, and the coordinator hands back what was stored.  Then both answers show
the same view of the action, before the scan for credentials, and every action with that view is
of the same kind, has the same digest and stands for the same request. -/
theorem approver_shown_plan (base : SdcHandler) (p s : Served) (changeSetId : String)
    (action : StoredAction) (hstores : p.Stores base changeSetId action) (answer : Value)
    (hanswer : (p.run base).1 = .ok answer)
    (htool : s.call.tool = .getSdcChangeSetDetails changeSetId)
    (hadmitted : authorizeRequest s.call.caller s.call.tool.name s.call.tenant base.tenant
      = .ok ())
    (rest : List Value)
    (hback : s.changes.changeSet s.history changeSetId
      = .ok (action.encode.toValue :: rest)) :
    ∃ changeSet view, answer = HandlerCrates.redactSecrets (planResult changeSet view) ∧
      (s.run base).1 = .ok (HandlerCrates.redactSecrets view) ∧
      ∀ other : StoredAction, other.view = view →
        other.kind = action.kind ∧ other.digest = action.digest ∧
          other.intended = action.intended := by
  obtain ⟨changeSet, hplanner⟩ := hstores.answer hanswer
  refine ⟨changeSet, action.view, hplanner, ?_, fun other hview => StoredAction.view_inj hview⟩
  obtain ⟨plan, t, output, u, hplan, hrun, -, -⟩ := hstores.planned
  have hmade := ToolCall.plan_constructed hplan hrun
  have hio : s.call.tool.io (s.handler base) (owner s.call.caller) s.env s.history
      = (.ok action.view, []) := by
    rw [htool]
    show Run.lift (preparedChange HandlerCrates.serdeError
      (s.changes.changeSet s.history changeSetId)) s.env s.history = _
    rw [hback, hmade.preparedChange_eq]
    rfl
  have hpresent : s.call.tool.present (s.handler base) action.view = .ok action.view := by
    rw [htool]
    rfl
  exact congrArg Prod.fst ((s.handler base).handle_answers hadmitted hio hpresent)

end Views

/-! ### A host that is looked at -/

section ShownHost

local instance shownCrates : Crates := hostTables.crates

local instance shownHandlerCrates : HandlerCrates := scopedCrates

/-- The change set of the host is read. -/
def showHost : Served where
  call := ⟨some ⟨"reader", .wildcard, .wildcard⟩, "tenant-a", .getSdcChangeSetDetails "cs-1"⟩
  changes := { hostManager with
    changeSet := fun _ _ => .ok [(StoredAction.objectWrite (hostCreate nameFirst)).encode.toValue] }
  env := unansweredEnv
  history := []

set_option maxRecDepth 40000 in
theorem planHost_answer : ∃ answer, (planHost.run hostHandler).1 = .ok answer := ⟨_, by rfl⟩

/-- The planner of the host and its approver are shown the same. -/
theorem host_shown : ∃ answer view, (planHost.run hostHandler).1 = .ok answer ∧
    answer.get "prepared_change" = some view ∧ (showHost.run hostHandler).1 = .ok view := by
  obtain ⟨answer, hanswer⟩ := planHost_answer
  obtain ⟨changeSet, view, hplanner, happrover, -⟩ := approver_shown_plan hostHandler planHost
    showHost "cs-1" _ planHost_stores answer hanswer rfl (by rfl) [] rfl
  refine ⟨answer, view, hanswer, ?_, happrover⟩
  rw [hplanner]
  show (planResult changeSet view).get "prepared_change" = some view
  unfold planResult
  rw [Value.get_object, Map.get_insert, if_pos rfl]

end ShownHost

end SdcMcp
