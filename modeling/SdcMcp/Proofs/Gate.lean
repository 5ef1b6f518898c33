/-
The drift gate: what a commit sends, and what it has read before.

An approval is bound to what the target looked like when the plan was made.  A commit
of an update, a deletion or a device sync reads its target again and goes on only if
nothing moved; what it then sends is what the approved action says, once.  SDC may
change between any two requests, so all that can be said of a write is that it comes
after such a read in the same commit.

The reads and the writes of an action are chosen by separate matches.  `intended` is
the one table of what an approved action may send, and it is compared with both.
-/
import SdcMcp.Proofs.Plans
import SdcMcp.Proofs.Coordinated

namespace SdcMcp

open Interactive Json

/-! ### What an approved action may send -/

namespace SdcPreparedObjectWrite

def intended (p : SdcPreparedObjectWrite) : Option Request :=
  match p.action, p.uuid with
  | .create, _ => some ⟨.post, p.resource.collectionSegments, [], some p.request.tree⟩
  | .update, some uuid =>
      some ⟨.put, p.resource.collectionSegments ++ [uuid], [], some p.request.tree⟩
  | .delete, some uuid => some ⟨.delete, p.resource.collectionSegments ++ [uuid], [], none⟩
  | _, none => none

end SdcPreparedObjectWrite

namespace SdcPreparedFirewallWrite

def intended (p : SdcPreparedFirewallWrite) : Option Request :=
  match p.action, p.uuid with
  | .createPolicy, _ =>
      some ⟨.post, ["api", "v1", "policies", "firewall"], [], some p.request.tree⟩
  | .updatePolicy, some uuid =>
      some ⟨.put, ["api", "v1", "policies", "firewall", uuid], [], some p.request.tree⟩
  | .deletePolicy, some uuid =>
      some ⟨.delete, ["api", "v1", "policies", "firewall", uuid], [], none⟩
  | _, none => none

end SdcPreparedFirewallWrite

namespace SdcPreparedNatWrite

/-- A path below the NAT policies. -/
def natPath (rest : List String) : List String := ["api", "v1", "policies", "nat"] ++ rest

def intended (p : SdcPreparedNatWrite) : Option Request :=
  match p.action with
  | .createPolicy => some ⟨.post, natPath [], [], some p.request.tree⟩
  | .updatePolicy => p.policyId.map fun policy =>
      ⟨.put, natPath [policy], [], some p.request.tree⟩
  | .deletePolicy => p.policyId.map fun policy => ⟨.delete, natPath [policy], [], none⟩
  | .createRule => p.policyId.map fun policy =>
      ⟨.post, natPath [policy, "rules"], [], some p.request.tree⟩
  | .updateRule => p.policyId.bind fun policy => p.ruleId.map fun rule =>
      ⟨.put, natPath [policy, "rules", rule], [], some p.request.tree⟩
  | .deleteRule => p.policyId.bind fun policy => p.ruleId.map fun rule =>
      ⟨.delete, natPath [policy, "rules", rule], [], none⟩
  | .createRuleGroup => p.policyId.map fun policy =>
      ⟨.post, natPath [policy, "rule_groups"], [], some p.request.tree⟩
  | .updateRuleGroup => p.policyId.bind fun policy => p.groupId.map fun group =>
      ⟨.put, natPath [policy, "rule_groups", group], [], some p.request.tree⟩

/-- The actions whose target is not there yet. -/
def creates (p : SdcPreparedNatWrite) : Prop :=
  p.action = .createPolicy ∨ p.action = .createRule ∨ p.action = .createRuleGroup

end SdcPreparedNatWrite

def SdcPreparedDeviceSync.intended (p : SdcPreparedDeviceSync) : Option Request :=
  some ⟨.post, ["api", "v1", "devices", "sync"], [],
    some (.obj [("uuids", .arr (p.deviceUuids.map Json.str))])⟩

section Gate

variable [Crates]

/-- One of these events is a read of a path that was answered with a value like this. -/
def Reread (client : SdcClient) (segments : List String) (like : Value → Prop)
    (t : List Event) : Prop :=
  ∃ a current, .attempt ⟨.get, segments, [], none⟩ a ∈ t ∧
    readVerdict client decodeValue a.exchange = .ok current ∧ like current

/-- What the code takes for no change: the digests are equal.  The documents are then the same,
unless SHA-256 has a collision. -/
def Unchanged (before current : Value) : Prop :=
  canonicalDigest current = canonicalDigest before ∧
    (Function.Injective Crates.sha256 → current.Same before)

/-- What a commit may do to SDC: at most one request, the intended one, after its gate. -/
structure GateSound (intended : Option Request) (gate : Request → List Event → Prop)
    (t : List Event) : Prop where
  once : (t.filter Event.dispatches).length ≤ 1
  gated : ∀ before event after, t = before ++ event :: after → event.dispatches = true →
    ∃ q a, intended = some q ∧ event = .attempt q a ∧ gate q before

theorem Reread.mono {client : SdcClient} {segments : List String} {like like' : Value → Prop}
    {s t : List Event} (h : Reread client segments like s) (hst : ∀ e ∈ s, e ∈ t)
    (hlike : ∀ v, like v → like' v) : Reread client segments like' t := by
  obtain ⟨a, current, hmem, hverdict, hcurrent⟩ := h
  exact ⟨a, current, hst _ hmem, hverdict, hlike current hcurrent⟩

/-- A read that got a value was answered with it. -/
theorem readCall_ok {client : SdcClient} {atoms : List (String × String)}
    {segments : List String} {r : Env} {h t : List Event} {current : Value}
    (hrun : readCall client none decodeValue atoms segments [] r h = (.ok current, t)) :
    Reread client segments (· = current) t := by
  obtain ⟨a, hmem, hanswer⟩ := readCall_answered hrun
  exact ⟨a, current, hmem, hanswer, rfl⟩

/-- A read of a target that was found unchanged. -/
theorem reread_unchanged {client : SdcClient} {atoms : List (String × String)}
    {segments : List String} {before : Value} {r : Env} {h t : List Event}
    (hrun : (do
      let current ← readCall client none decodeValue atoms segments []
      return sameDigest before current : Io Bool) r h = (.ok true, t)) :
    Reread client segments (Unchanged before) t := by
  obtain ⟨current, t1, t2, hread, hsame, rfl⟩ := Run.bind_eq_ok hrun
  have hdigest : sameDigest before current = true := by
    rw [Run.pure_apply, Prod.mk.injEq, Outcome.ok.injEq] at hsame
    exact hsame.1
  refine (readCall_ok hread).mono (fun e he => List.mem_append_left _ he) ?_
  rintro _ rfl
  have hequal := of_decide_eq_true hdigest
  exact ⟨hequal, fun hsha => canonicalDigest_same hsha hequal⟩

omit [Crates] in
theorem mem_gateEvents {e : Event} {t : List Event} (he : e ∈ t) : e ∈ gateEvents t :=
  List.mem_cons_of_mem _ (List.mem_append_left _ he)

theorem Reread.gate {client : SdcClient} {segments : List String} {like : Value → Prop}
    {t : List Event} (h : Reread client segments like t) :
    Reread client segments like (gateEvents t) :=
  h.mono (fun _ => mem_gateEvents) fun _ => id

omit [Crates] in
private theorem gateSound_quiet {intended : Option Request} {gate : Request → List Event → Prop}
    {t : List Event} (ht : Quiet t) : GateSound intended gate t where
  once := by
    rw [ht.filter_eq_nil]
    exact Nat.zero_le 1
  gated := by
    rintro before event after rfl hevent
    have := ht event (by simp)
    rw [this] at hevent
    cases hevent

omit [Crates] in
private theorem gateSound_sent {intended : Option Request} {gate : Request → List Event → Prop}
    {s t : List Event} {q : Request} {a : Attempt} (hs : Quiet s) (ht : Quiet t)
    (hintended : intended = some q) (hgate : gate q s) :
    GateSound intended gate (s ++ .attempt q a :: t) where
  once := by
    rw [List.filter_append, List.filter_cons, hs.filter_eq_nil, ht.filter_eq_nil]
    split <;> simp
  gated := by
    intro before event after hsplit hevent
    obtain ⟨rfl, rfl, -⟩ := Quiet.split hs ht hevent hsplit
    exact ⟨q, a, hintended, rfl, hgate⟩

omit [Crates] in
/-- **The run of a gated commit** is sound, if its request is the intended one and an
unchanged target passes the gate. -/
theorem gateSound_commit {unchanged : Io Bool} {write : Io CommitOutcome}
    {request : Except SdcError Request} {leavesOpen : Exchange → Bool}
    {intended : Option Request} {gate : Request → List Event → Prop}
    (hreads : ReadsOnly unchanged) (hsends : Sends write request leavesOpen)
    (hintended : ∀ q, request = .ok q → intended = some q) (r : Env)
    (hgate : ∀ q, intended = some q → ∀ h t, unchanged r h = (.ok true, t) →
      gate q (gateEvents t)) (unsupported : String) (options : CommitOptions) (h : List Event) :
    GateSound intended gate (commitUnchanged unsupported options unchanged write r h).2 := by
  rcases commitUnchanged_cases unsupported options write hreads r h with
    ⟨hquiet, -⟩ | ⟨t, hrun, hquiet, hcommit⟩
  · exact gateSound_quiet hquiet
  · rw [hcommit]
    cases hrequest : request with
    | error e =>
        obtain ⟨e', hwrite⟩ := hsends.refused e hrequest r (h ++ gateEvents t)
        rw [hwrite, List.append_nil]
        exact gateSound_quiet (quiet_gateEvents hquiet)
    | ok q =>
        obtain ⟨o, after, hwrite, hafter, -⟩ := hsends.sent q hrequest r (h ++ gateEvents t)
        rw [hwrite]
        exact gateSound_sent (quiet_gateEvents hquiet) hafter.quiet (hintended q hrequest)
          (hgate q (hintended q hrequest) _ t hrun)

end Gate

/-! ### The four gates -/

section Transactions

variable [Crates]

/-- The request of an admitted call is the request of the call. -/
private theorem admitted_request {client : SdcClient} {call : Except SdcError WriteCall}
    {q : Request} (h : (admitted client call).map WriteCall.request = .ok q) :
    ∃ c, call = .ok c ∧ q = c.request := by
  cases hcall : admitted client call with
  | error e =>
      rw [hcall] at h
      cases h
  | ok c =>
      rw [hcall] at h
      cases h
      exact ⟨c, (admitted_ok_iff.mp hcall).1, rfl⟩

theorem SdcObjectTransaction.request_intended {client : SdcClient}
    {staged : SdcPreparedObjectWrite} {q : Request} (h : request client staged = .ok q) :
    staged.intended = some q := by
  obtain ⟨c, hcall, rfl⟩ := admitted_request h
  have hc := call_ok hcall
  unfold SdcPreparedObjectWrite.intended
  cases haction : staged.action <;> rw [haction] at hc
  case create =>
    rw [hc]
    rfl
  all_goals
    obtain ⟨uuid, huuid, rfl⟩ := hc
    rw [huuid]
    rfl

/-- The gate of an object write: but for a creation, the object was read and is the same. -/
def SdcObjectTransaction.Gate (client : SdcClient) (staged : SdcPreparedObjectWrite)
    (q : Request) (t : List Event) : Prop :=
  staged.action ≠ .create →
    Reread client q.segments (Unchanged staged.before) t

theorem SdcObjectTransaction.gate_of_unchanged {client : SdcClient}
    {staged : SdcPreparedObjectWrite} {q : Request} (hq : staged.intended = some q) {r : Env}
    {h t : List Event} (hrun : targetUnchanged client staged r h = (.ok true, t)) :
    Gate client staged q (gateEvents t) := by
  intro hcreate
  unfold SdcPreparedObjectWrite.intended at hq
  unfold targetUnchanged at hrun
  cases haction : staged.action <;> rw [haction] at hq hrun
  case create => exact absurd haction hcreate
  all_goals
    cases huuid : staged.uuid with
    | none =>
        rw [huuid] at hq
        cases hq
    | some uuid =>
        rw [huuid] at hq hrun
        cases hq
        exact (reread_unchanged hrun).gate

theorem SdcFirewallTransaction.request_intended {client : SdcClient}
    {staged : SdcPreparedFirewallWrite} {q : Request} (h : request client staged = .ok q) :
    staged.intended = some q := by
  obtain ⟨c, hcall, rfl⟩ := admitted_request h
  have hc := call_ok hcall
  unfold SdcPreparedFirewallWrite.intended
  cases haction : staged.action <;> rw [haction] at hc
  case createPolicy =>
    rw [hc]
    rfl
  all_goals
    obtain ⟨uuid, huuid, rfl⟩ := hc
    rw [huuid]
    rfl

/-- The gate of a firewall write: but for a creation, the policy was read and is the same. -/
def SdcFirewallTransaction.Gate (client : SdcClient) (staged : SdcPreparedFirewallWrite)
    (q : Request) (t : List Event) : Prop :=
  staged.action ≠ .createPolicy →
    Reread client q.segments (Unchanged staged.before) t

theorem SdcFirewallTransaction.gate_of_unchanged {client : SdcClient}
    {staged : SdcPreparedFirewallWrite} {q : Request} (hq : staged.intended = some q) {r : Env}
    {h t : List Event} (hrun : targetUnchanged client staged r h = (.ok true, t)) :
    Gate client staged q (gateEvents t) := by
  intro hcreate
  unfold SdcPreparedFirewallWrite.intended at hq
  unfold targetUnchanged at hrun
  cases haction : staged.action <;> rw [haction] at hq hrun
  case createPolicy => exact absurd haction hcreate
  all_goals
    cases huuid : staged.uuid with
    | none =>
        rw [huuid] at hq
        cases hq
    | some uuid =>
        rw [huuid] at hq hrun
        cases hq
        exact (reread_unchanged hrun).gate

theorem SdcNatTransaction.request_intended {client : SdcClient}
    {staged : SdcPreparedNatWrite} {q : Request} (h : request client staged = .ok q) :
    staged.intended = some q := by
  obtain ⟨c, hcall, rfl⟩ := admitted_request h
  have hc := call_ok hcall
  unfold SdcPreparedNatWrite.intended
  cases haction : staged.action <;> rw [haction] at hc
  case createPolicy =>
    rw [hc]
    rfl
  case updateRule | deleteRule | updateRuleGroup =>
    obtain ⟨p, hp, i, hi, rfl⟩ := hc
    rw [hp, hi]
    rfl
  all_goals
    obtain ⟨p, hp, rfl⟩ := hc
    rw [hp]
    rfl

/-- The gate of a NAT write: but for a creation, the policy, rule or rule group was read and is
the same. -/
def SdcNatTransaction.Gate (client : SdcClient) (staged : SdcPreparedNatWrite)
    (q : Request) (t : List Event) : Prop :=
  ¬ staged.creates → Reread client q.segments (Unchanged staged.before) t

theorem SdcNatTransaction.gate_of_unchanged {client : SdcClient}
    {staged : SdcPreparedNatWrite} {q : Request} (hq : staged.intended = some q) {r : Env}
    {h t : List Event} (hrun : targetUnchanged client staged r h = (.ok true, t)) :
    Gate client staged q (gateEvents t) := by
  intro hcreate
  unfold SdcPreparedNatWrite.intended at hq
  unfold targetUnchanged at hrun
  cases haction : staged.action <;> rw [haction] at hq hrun
  case createPolicy | createRule | createRuleGroup =>
    exact absurd (by simp [SdcPreparedNatWrite.creates, haction]) hcreate
  case updatePolicy | deletePolicy =>
    obtain ⟨policy, hp, rfl⟩ := Option.map_eq_some_iff.mp hq
    rw [hp] at hrun
    exact (reread_unchanged hrun).gate
  all_goals
    obtain ⟨policy, hp, hq⟩ := Option.bind_eq_some_iff.mp hq
    obtain ⟨id, hid, rfl⟩ := Option.map_eq_some_iff.mp hq
    rw [hp, hid] at hrun
    exact (reread_unchanged hrun).gate

theorem SdcDeviceSyncTransaction.request_intended {client : SdcClient}
    {staged : SdcPreparedDeviceSync} {q : Request} (h : request client staged = .ok q) :
    staged.intended = some q := by
  obtain ⟨u, -, hok⟩ := Except.bind_eq_ok_iff.mp h
  cases hok
  rfl

/-- The gate of a sync: each of its devices was read and is in the state of the plan, as far as
that state is made of strings. -/
def SdcDeviceSyncTransaction.Gate (client : SdcClient) (staged : SdcPreparedDeviceSync)
    (t : List Event) : Prop :=
  ∀ uuid ∈ staged.deviceUuids, Reread client ["api", "v1", "devices", uuid]
    (fun current => inventoryState current = thenState staged.before uuid) t

theorem SdcDeviceSyncTransaction.reread_from {client : SdcClient} {before : Value}
    {deviceUuids : List String} {r : Env} {h t : List Event}
    (hrun : targetsUnchangedFrom client before deviceUuids r h = (.ok true, t)) :
    ∀ uuid ∈ deviceUuids, Reread client ["api", "v1", "devices", uuid]
      (fun current => inventoryState current = thenState before uuid) t := by
  induction deviceUuids generalizing h t with
  | nil =>
      intro uuid huuid
      cases huuid
  | cons first rest ih =>
      obtain ⟨current, t1, t2, hread, hrest, rfl⟩ := Run.bind_eq_ok hrun
      by_cases hmoved : inventoryState current ≠ thenState before first
      · rw [if_pos hmoved] at hrest
        cases hrest
      · rw [if_neg hmoved] at hrest
        intro uuid huuid
        rcases List.mem_cons.mp huuid with rfl | huuid
        · refine (readCall_ok hread).mono (fun e he => List.mem_append_left _ he) ?_
          rintro _ rfl
          exact not_not.mp hmoved
        · exact (ih hrest uuid huuid).mono (fun e he => List.mem_append_right _ he) fun _ => id

/-- **The drift gate.**  In every run of a commit, at most one mutating request is started; it is
the one the approved action says; and unless it creates something, the same commit has read its
target before, and the target was what the plan was made from. -/
theorem commit_gate_sound (client : SdcClient) (options : CommitOptions) (r : Env)
    (h : List Event) :
    (∀ p : SdcPreparedObjectWrite, GateSound p.intended (SdcObjectTransaction.Gate client p)
      (SdcObjectTransaction.commit client p options r h).2) ∧
    (∀ p : SdcPreparedFirewallWrite, GateSound p.intended (SdcFirewallTransaction.Gate client p)
      (SdcFirewallTransaction.commit client p options r h).2) ∧
    (∀ p : SdcPreparedNatWrite, GateSound p.intended (SdcNatTransaction.Gate client p)
      (SdcNatTransaction.commit client p options r h).2) ∧
    (∀ p : SdcPreparedDeviceSync,
      GateSound p.intended (fun _ => SdcDeviceSyncTransaction.Gate client p)
        (SdcDeviceSyncTransaction.commit client p options r h).2) := by
  refine ⟨fun p => ?_, fun p => ?_, fun p => ?_, fun p => ?_⟩
  · exact gateSound_commit (SdcObjectTransaction.targetUnchanged_readsOnly client p)
      (commitWrite_sends (SdcObjectTransaction.call_method p) _ _)
      (fun _ => SdcObjectTransaction.request_intended) r
      (fun _ hq _ _ => SdcObjectTransaction.gate_of_unchanged hq) _ options h
  · exact gateSound_commit (SdcFirewallTransaction.targetUnchanged_readsOnly client p)
      (commitWrite_sends (SdcFirewallTransaction.call_method p) _ _)
      (fun _ => SdcFirewallTransaction.request_intended) r
      (fun _ hq _ _ => SdcFirewallTransaction.gate_of_unchanged hq) _ options h
  · exact gateSound_commit (SdcNatTransaction.targetUnchanged_readsOnly client p)
      (commitWrite_sends (SdcNatTransaction.call_method p) _ _)
      (fun _ => SdcNatTransaction.request_intended) r
      (fun _ hq _ _ => SdcNatTransaction.gate_of_unchanged hq) _ options h
  · exact gateSound_commit (SdcDeviceSyncTransaction.targetsUnchanged_readsOnly client p)
      (SdcDeviceSyncTransaction.write_sends client p)
      (fun _ => SdcDeviceSyncTransaction.request_intended) r
      (fun _ _ _ t hrun uuid huuid =>
        (SdcDeviceSyncTransaction.reread_from hrun uuid huuid).gate) _ options h

end Transactions

/-! ### A state that is a flag

The gate of a sync looks at strings only.
-/

section Flags

def statusFlag (inSync : Bool) : Json := .obj [("device_sync_status", .bool inSync)]

def flagTables : Tables where
  documents := [statusFlag true]
  digests :=
    [((SdcPreparedDeviceSync.planArtifact ["dev-1"]
        ⟨.obj [("dev-1", statusFlag false)], by simp [statusFlag]⟩).tree.canonicalize,
      [148, 104, 3, 130, 22, 98, 22, 155, 130, 45, 78, 88, 203, 114, 106, 108, 78, 207, 191,
        182, 115, 16, 34, 172, 30, 239, 201, 12, 57, 61, 144, 117])]

local instance flagCrates : Crates := flagTables.crates

/-- A sync of a device whose status was `false`. -/
def flaggedSync : SdcPreparedDeviceSync :=
  let before : Value := ⟨.obj [("dev-1", statusFlag false)], by simp [statusFlag]⟩
  { operation := "device_sync"
    deviceUuids := ["dev-1"]
    before := before
    planDigest := canonicalDigest (SdcPreparedDeviceSync.planArtifact ["dev-1"] before) }

/-- Its commit, when the status is `true`. -/
def reflagged : Outcome SdcError CommitOutcome × List Event :=
  SdcDeviceSyncTransaction.commit minuteClient flaggedSync ⟨none⟩
    (Env.answering fun request =>
      if request.mutating then .unanswered .timedOut else .replies 200 (statusFlag true)) []

/-- The two fields a sync moves, whatever they hold. -/
def stateFields (device : Value) : Option Json × Option Json :=
  ((device.get "device_sync_status").map Value.tree,
    ((device.get "inventory_sync_info").bind fun info => info.get "overall_sync_status").map
      Value.tree)

/-- The sync is requested although the status moved. -/
theorem reflagged_not_gated :
    SdcDeviceSyncTransaction.stage flaggedSync.planDigest [flaggedSync] = .ok flaggedSync ∧
      reflagged.2.any Event.dispatches = true ∧
      ¬ GateSound flaggedSync.intended
        (fun _ t => ∀ uuid ∈ flaggedSync.deviceUuids,
          Reread minuteClient ["api", "v1", "devices", uuid]
            (fun current => stateFields current =
              ((flaggedSync.before.get uuid).map stateFields).getD (none, none)) t)
        reflagged.2 := by
  have hstaged : SdcDeviceSyncTransaction.stage flaggedSync.planDigest [flaggedSync]
      = .ok flaggedSync :=
    stageOne_ok.mpr ⟨rfl, by decide +kernel, by decide +kernel⟩
  have hevents : reflagged.2 =
      gateEvents [.attempt ⟨.get, ["api", "v1", "devices", "dev-1"], [], none⟩
        ⟨0, .replies 200 (statusFlag true)⟩] ++
      [.attempt (syncRequest ["dev-1"]) ⟨0, .unanswered .timedOut⟩] := by rfl
  refine ⟨hstaged, by rfl, fun hsound => ?_⟩
  obtain ⟨q, a, -, -, hgate⟩ := hsound.gated _ _ [] hevents rfl
  obtain ⟨a, current, hmem, hverdict, hfields⟩ := hgate "dev-1" List.mem_cons_self
  have ha : a = ⟨0, .replies 200 (statusFlag true)⟩ := by
    simpa [gateEvents] using hmem
  have hanswer : readVerdict minuteClient decodeValue (.replies 200 (statusFlag true))
      = .ok (statusFlag true).toValue := by rfl
  rw [ha, hanswer] at hverdict
  cases hverdict
  cases hfields

end Flags

end SdcMcp
