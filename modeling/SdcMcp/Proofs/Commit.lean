/-
The shape of a commit.

Every commit stores the flag, reads its target, clears the flag and writes, and
stops at the first of these that does not succeed.  `commitUnchanged_run` is that
as an equation.  What a transaction reads is read only: every event of it is a
`GET` or a pause, so nothing before the cleared flag can change SDC.
-/
import SdcMcp.Model.ObjectWrite
import SdcMcp.Model.FirewallWrite
import SdcMcp.Model.NatWrite
import SdcMcp.Model.LicenseWrite
import SdcMcp.Model.DeviceSync
import SdcMcp.Proofs.Checks
import SdcMcp.Proofs.Poll

namespace SdcMcp

open Interactive

variable {α β : Type}

/-! ### Reading only -/

/-- An event that belongs to a read. -/
def Event.isRead : Event → Bool
  | .attempt request _ => !request.mutating
  | .abandoned request _ => !request.mutating
  | .paused _ _ => true
  | .markRefused _ => false
  | .discarded _ => false

theorem Event.dispatches_of_isRead {e : Event} (h : e.isRead = true) : e.dispatches = false := by
  cases e <;> simp_all [Event.isRead, Event.dispatches]

/-- A computation that only reads. -/
def ReadsOnly (x : Io α) : Prop := x.Emits fun e => e.isRead = true

section Reading

variable {v : Exchange → Outcome SdcError α} {passes : Exchange → Prop} {request : Request}
  {t : List Event} {o : Outcome SdcError α}

theorem Passes.isRead {e : Event} (hget : request.mutating = false)
    (he : Passes passes request e) : e.isRead = true := by
  cases e with
  | attempt q a =>
      obtain ⟨rfl, -⟩ := he
      simp [Event.isRead, hget]
  | abandoned q ms => exact he.elim
  | paused ms ending => rfl
  | markRefused b => exact he.elim
  | discarded op => exact he.elim

theorem Ends.isRead {last : Event} (hget : request.mutating = false)
    (hlast : Ends v request last o) : last.isRead = true := by
  cases hlast with
  | answer a => simp [Event.isRead, hget]
  | abandoned ms => simp [Event.isRead, hget]
  | expired ms => rfl
  | cancelled ms => rfl
  | dropped ms => rfl

/-- A run of reads touches nothing but its request and the clock. -/
theorem Reading.isRead (hget : request.mutating = false)
    (hr : Reading v passes request t o) : ∀ e ∈ t, e.isRead = true := by
  obtain ⟨before, last, rfl, hb, hlast⟩ := hr
  intro e he
  rcases List.mem_append.mp he with hm | hm
  · exact (hb e hm).isRead hget
  · rw [List.mem_singleton] at hm
    subst hm
    exact hlast.isRead hget

end Reading

section Reads

variable [Crates]

theorem get_readsOnly (client : SdcClient) (race : Option Nat) (decode : Json → Option α)
    (segments : List String) (query : List (String × String)) :
    ReadsOnly (get client race decode segments query) := by
  intro r h
  cases hcheck : checkRequest client ⟨.get, segments, query, none⟩ with
  | error e =>
      rw [get_refused hcheck]
      simp
  | ok u => exact (get_reading hcheck r h).isRead rfl

theorem readCall_readsOnly (client : SdcClient) (race : Option Nat) (decode : Json → Option α)
    (atoms : List (String × String)) (segments : List String)
    (query : List (String × String)) :
    ReadsOnly (readCall client race decode atoms segments query) :=
  Run.emits_bind Run.emits_lift fun _ => get_readsOnly client race decode segments query

theorem listCall_readsOnly (client : SdcClient) (atoms : List (String × String))
    (segments : List String) (page : ListRequest) :
    ReadsOnly (listCall client atoms segments page) :=
  Run.emits_bind Run.emits_lift fun _ =>
    Run.emits_bind Run.emits_lift fun _ => get_readsOnly client none decodeValue segments _

theorem SdcObjectTransaction.targetUnchanged_readsOnly (client : SdcClient)
    (staged : SdcPreparedObjectWrite) : ReadsOnly (targetUnchanged client staged) := by
  unfold targetUnchanged
  split
  · exact Run.emits_bind (readCall_readsOnly _ _ _ _ _ _) fun _ => Run.emits_pure
  · exact Run.emits_bind (readCall_readsOnly _ _ _ _ _ _) fun _ => Run.emits_pure
  · exact Run.emits_pure

theorem SdcFirewallTransaction.targetUnchanged_readsOnly (client : SdcClient)
    (staged : SdcPreparedFirewallWrite) : ReadsOnly (targetUnchanged client staged) := by
  unfold targetUnchanged
  split
  · exact Run.emits_bind (readCall_readsOnly _ _ _ _ _ _) fun _ => Run.emits_pure
  · exact Run.emits_bind (readCall_readsOnly _ _ _ _ _ _) fun _ => Run.emits_pure
  · exact Run.emits_pure

theorem SdcNatTransaction.targetUnchanged_readsOnly (client : SdcClient)
    (staged : SdcPreparedNatWrite) : ReadsOnly (targetUnchanged client staged) := by
  have hone : ∀ (x : Except SdcError String) (f : String → Io Value) (g : Value → Bool),
      (∀ s, ReadsOnly (f s)) →
      ReadsOnly (do let s ← Run.lift x; let v ← f s; return g v) := by
    intro x f g hf
    exact Run.emits_bind Run.emits_lift fun s => Run.emits_bind (hf s) fun _ => Run.emits_pure
  unfold targetUnchanged
  split
  · exact Run.emits_pure
  · exact Run.emits_pure
  · exact Run.emits_pure
  · exact hone _ (getNatPolicy client) _ fun s => readCall_readsOnly _ _ _ _ _ _
  · exact hone _ (getNatPolicy client) _ fun s => readCall_readsOnly _ _ _ _ _ _
  · exact Run.emits_bind Run.emits_lift fun p =>
      hone _ (getNatRule client p) _ fun s => readCall_readsOnly _ _ _ _ _ _
  · exact Run.emits_bind Run.emits_lift fun p =>
      hone _ (getNatRule client p) _ fun s => readCall_readsOnly _ _ _ _ _ _
  · exact Run.emits_bind Run.emits_lift fun p =>
      hone _ (getNatRuleGroup client p) _ fun s => readCall_readsOnly _ _ _ _ _ _

theorem SdcLicenseTransaction.targetUnchanged_readsOnly (client : SdcClient)
    (staged : SdcPreparedLicenseWrite) : ReadsOnly (targetUnchanged client staged) := by
  have hpage : ∀ list : ListRequest → Io Value, (∀ page, ReadsOnly (list page)) →
      ReadsOnly (firstPage list) := by
    intro list hlist
    exact Run.emits_bind Run.emits_lift hlist
  have hcurrent : ReadsOnly (current client staged) := by
    unfold current
    split
    · exact hpage _ fun page => listCall_readsOnly _ _ _ _
    · exact hpage _ fun page => listCall_readsOnly _ _ _ _
    · exact hpage _ fun page => listCall_readsOnly _ _ _ _
    · exact Run.emits_bind (hpage _ fun page => listCall_readsOnly _ _ _ _) fun _ =>
        Run.emits_bind (hpage _ fun page => listCall_readsOnly _ _ _ _) fun _ => Run.emits_pure
  exact Run.emits_bind hcurrent fun _ => Run.emits_pure

theorem SdcDeviceSyncTransaction.targetsUnchanged_readsOnly (client : SdcClient)
    (staged : SdcPreparedDeviceSync) : ReadsOnly (targetsUnchanged client staged) := by
  unfold targetsUnchanged
  induction staged.deviceUuids with
  | nil => exact Run.emits_pure
  | cons uuid rest ih =>
      refine Run.emits_bind (readCall_readsOnly _ _ _ _ _ _) fun current => ?_
      by_cases hmoved : inventoryState current ≠ thenState staged.before uuid
      · rw [if_pos hmoved]
        exact Run.emits_pure
      · rw [if_neg hmoved]
        exact ih

end Reads

/-! ### The gate -/

/-- No mutating request was started. -/
def Quiet (t : List Event) : Prop := ∀ e ∈ t, e.dispatches = false

theorem quiet_nil : Quiet [] := by
  intro e he
  cases he

theorem Quiet.cons {e : Event} {t : List Event} (he : e.dispatches = false) (ht : Quiet t) :
    Quiet (e :: t) := by
  intro f hf
  rcases List.mem_cons.mp hf with rfl | hf
  · exact he
  · exact ht f hf

theorem Quiet.append {s t : List Event} (hs : Quiet s) (ht : Quiet t) : Quiet (s ++ t) := by
  intro e he
  rcases List.mem_append.mp he with h | h
  · exact hs e h
  · exact ht e h

theorem Quiet.filter_eq_nil {t : List Event} (ht : Quiet t) : t.filter Event.dispatches = [] := by
  rw [List.filter_eq_nil_iff]
  intro e he hd
  rw [ht e he] at hd
  cases hd

theorem Quiet.not_mutating {t : List Event} (ht : Quiet t) {request : Request} {a : Attempt}
    (hm : .attempt request a ∈ t) : request.mutating ≠ true := by
  have := ht _ hm
  simpa [Event.dispatches] using this

/-- The one mutating request of a run stands between two quiet parts. -/
theorem Quiet.split {s t t1 t2 : List Event} {e f : Event} (hs : Quiet s) (ht : Quiet t)
    (hf : f.dispatches = true) (h : s ++ e :: t = t1 ++ f :: t2) : t1 = s ∧ f = e ∧ t2 = t := by
  induction s generalizing t1 with
  | nil =>
      cases t1 with
      | nil =>
          rw [List.nil_append, List.nil_append, List.cons.injEq] at h
          exact ⟨rfl, h.1.symm, h.2.symm⟩
      | cons x t1 =>
          rw [List.nil_append, List.cons_append, List.cons.injEq] at h
          have hmem : f ∈ t := by
            rw [h.2]
            simp
          rw [ht f hmem] at hf
          cases hf
  | cons x s ih =>
      cases t1 with
      | nil =>
          rw [List.cons_append, List.nil_append, List.cons.injEq] at h
          rw [hs f (by rw [h.1]; exact List.mem_cons_self)] at hf
          cases hf
      | cons y t1 =>
          rw [List.cons_append, List.cons_append, List.cons.injEq] at h
          obtain ⟨rfl, hfe, ht2⟩ := ih (fun g hg => hs g (List.mem_cons_of_mem x hg)) h.2
          exact ⟨by rw [h.1], hfe, ht2⟩

/-- A run with one mutating request and a quiet rest has no other. -/
theorem Quiet.only_attempt {s t : List Event} {q q' : Request} {a a' : Attempt} (hs : Quiet s)
    (ht : Quiet t) (hm : .attempt q' a' ∈ s ++ .attempt q a :: t) (hq' : q'.mutating = true) :
    a' = a := by
  rcases List.mem_append.mp hm with hm | hm
  · exact absurd hq' (hs.not_mutating hm)
  rcases List.mem_cons.mp hm with heq | hm
  · cases heq
    rfl
  · exact absurd hq' (ht.not_mutating hm)

/-- Events of reads only. -/
def Reads (t : List Event) : Prop := ∀ e ∈ t, e.isRead = true

theorem reads_nil : Reads [] := by
  intro e he
  cases he

theorem Reads.quiet {t : List Event} (ht : Reads t) : Quiet t :=
  fun e he => Event.dispatches_of_isRead (ht e he)

theorem ReadsOnly.quiet {x : Io α} (hx : ReadsOnly x) (r : Env) (h : List Event) :
    Quiet (x r h).2 :=
  Reads.quiet (hx r h)

/-- What a commit does before its write. -/
def gateEvents (t : List Event) : List Event :=
  .markRefused true :: (t ++ [.markRefused false])

theorem quiet_gateEvents {t : List Event} (ht : Quiet t) : Quiet (gateEvents t) :=
  .cons rfl (ht.append (.cons rfl quiet_nil))

/-- What becomes of a commit whose target was not found unchanged. -/
def stopped : Outcome SdcError Bool → Outcome SdcError CommitOutcome
  | .ok _ => .err .targetDrifted
  | .err e => .err e
  | .dropped => .dropped

section Gate

variable {unsupported : String} {options : CommitOptions} {unchanged : Io Bool}
  {write : Io CommitOutcome} {r : Env} {h t : List Event}

theorem commitUnchanged_confirmed (hconfirm : options.confirmTimeout.isSome = true) :
    commitUnchanged unsupported options unchanged write r h =
      (.err (.invalidInput unsupported), [.markRefused true]) := by
  unfold commitUnchanged
  rw [Run.emit_bind, if_pos hconfirm]
  rfl

theorem commitUnchanged_stopped {o : Outcome SdcError Bool}
    (hconfirm : options.confirmTimeout.isSome ≠ true)
    (hrun : unchanged r (h ++ [.markRefused true]) = (o, t)) (hmoved : o ≠ .ok true) :
    commitUnchanged unsupported options unchanged write r h
      = (stopped o, .markRefused true :: t) := by
  unfold commitUnchanged
  rw [Run.emit_bind, if_neg hconfirm]
  cases o with
  | err e =>
      rw [Run.bind_err hrun]
      rfl
  | dropped =>
      rw [Run.bind_dropped hrun]
      rfl
  | ok same =>
      cases same with
      | true => exact absurd rfl hmoved
      | false =>
          rw [Run.bind_ok hrun, if_neg (by decide), Run.fail_apply, List.append_nil]
          rfl

/-- The write runs after the gate, and what it comes to is what the commit comes to. -/
theorem commitUnchanged_writes (hconfirm : options.confirmTimeout.isSome ≠ true)
    (hrun : unchanged r (h ++ [.markRefused true]) = (.ok true, t)) :
    commitUnchanged unsupported options unchanged write r h =
      ((write r (h ++ gateEvents t)).1, gateEvents t ++ (write r (h ++ gateEvents t)).2) := by
  have hhist : h ++ [Event.markRefused true] ++ t ++ [Event.markRefused false]
      = h ++ gateEvents t := by
    simp [gateEvents]
  unfold commitUnchanged
  rw [Run.emit_bind, if_neg hconfirm, Run.bind_ok hrun, if_pos rfl, Run.emit_bind, hhist]
  simp [gateEvents]

/-- **The run of a commit.**  It stops before its write and has no result, or the target was
found unchanged and the write decides. -/
theorem commitUnchanged_cases (unsupported : String) (options : CommitOptions)
    (write : Io CommitOutcome) (hreads : ReadsOnly unchanged) (r : Env) (h : List Event) :
    (Quiet (commitUnchanged unsupported options unchanged write r h).2 ∧
      ∀ out, (commitUnchanged unsupported options unchanged write r h).1 ≠ .ok out) ∨
    ∃ t, unchanged r (h ++ [.markRefused true]) = (.ok true, t) ∧ Quiet t ∧
      commitUnchanged unsupported options unchanged write r h =
        ((write r (h ++ gateEvents t)).1, gateEvents t ++ (write r (h ++ gateEvents t)).2) := by
  by_cases hconfirm : options.confirmTimeout.isSome = true
  · rw [commitUnchanged_confirmed hconfirm]
    exact Or.inl ⟨.cons rfl quiet_nil, by intro out hc; cases hc⟩
  · have hquiet := hreads.quiet r (h ++ [.markRefused true])
    rcases hrun : unchanged r (h ++ [.markRefused true]) with ⟨o, t⟩
    rw [hrun] at hquiet
    by_cases hsame : o = .ok true
    · subst hsame
      exact Or.inr ⟨t, hrun, hquiet, commitUnchanged_writes hconfirm hrun⟩
    · rw [commitUnchanged_stopped hconfirm hrun hsame]
      exact Or.inl ⟨.cons rfl hquiet, by intro out hc; cases o <;> cases hc⟩

end Gate

/-! ### What the three plain transactions call

One table for each, by action: the ids that were present, and the call made of them.
-/

/-- What a present id goes on to. -/
private theorem presentId_bind {γ : Type} {message : String} {id : Option String}
    {f : String → Except SdcError γ} {c : γ}
    (h : (SdcNatTransaction.presentId message id >>= f) = .ok c) :
    ∃ i, id = some i ∧ f i = .ok c := by
  cases id with
  | none => cases h
  | some i => exact ⟨i, rfl, h⟩

theorem SdcObjectTransaction.call_ok {staged : SdcPreparedObjectWrite} {c : WriteCall}
    (h : call staged = .ok c) :
    match staged.action with
    | .create => c = createResource staged.resource staged.request
    | .update => ∃ uuid, staged.uuid = some uuid ∧
        c = updateResource staged.resource uuid staged.request
    | .delete => ∃ uuid, staged.uuid = some uuid ∧ c = deleteResource staged.resource uuid := by
  unfold call at h
  cases haction : staged.action <;> rw [haction] at h
  case create =>
      cases h
      rfl
  all_goals
    cases huuid : staged.uuid with
    | none =>
        rw [huuid] at h
        cases h
    | some uuid =>
        rw [huuid] at h
        cases h
        exact ⟨uuid, rfl, rfl⟩

theorem SdcFirewallTransaction.call_ok {staged : SdcPreparedFirewallWrite} {c : WriteCall}
    (h : call staged = .ok c) :
    match staged.action with
    | .createPolicy => c = createFirewallPolicy staged.request
    | .updatePolicy => ∃ uuid, staged.uuid = some uuid ∧
        c = updateFirewallPolicy uuid staged.request
    | .deletePolicy => ∃ uuid, staged.uuid = some uuid ∧ c = deleteFirewallPolicy uuid := by
  unfold call at h
  cases haction : staged.action <;> rw [haction] at h
  case createPolicy =>
      cases h
      rfl
  all_goals
    cases huuid : staged.uuid with
    | none =>
        rw [huuid] at h
        cases h
    | some uuid =>
        rw [huuid] at h
        cases h
        exact ⟨uuid, rfl, rfl⟩

theorem SdcNatTransaction.call_ok {staged : SdcPreparedNatWrite} {c : WriteCall}
    (h : call staged = .ok c) :
    match staged.action with
    | .createPolicy => c = createNatPolicy staged.request
    | .updatePolicy => ∃ p, staged.policyId = some p ∧ c = updateNatPolicy p staged.request
    | .deletePolicy => ∃ p, staged.policyId = some p ∧ c = deleteNatPolicy p
    | .createRule => ∃ p, staged.policyId = some p ∧ c = createNatRule p staged.request
    | .updateRule => ∃ p, staged.policyId = some p ∧ ∃ i, staged.ruleId = some i ∧
        c = updateNatRule p i staged.request
    | .deleteRule => ∃ p, staged.policyId = some p ∧ ∃ i, staged.ruleId = some i ∧
        c = deleteNatRule p i
    | .createRuleGroup => ∃ p, staged.policyId = some p ∧ c = createNatRuleGroup p staged.request
    | .updateRuleGroup => ∃ p, staged.policyId = some p ∧ ∃ g, staged.groupId = some g ∧
        c = updateNatRuleGroup p g staged.request := by
  unfold call at h
  cases haction : staged.action <;> rw [haction] at h
  case createPolicy =>
      cases h
      rfl
  case updateRule | deleteRule | updateRuleGroup =>
      obtain ⟨p, hp, h⟩ := presentId_bind h
      obtain ⟨i, hi, h⟩ := presentId_bind h
      cases h
      exact ⟨p, hp, i, hi, rfl⟩
  all_goals
    obtain ⟨p, hp, h⟩ := presentId_bind h
    cases h
    exact ⟨p, hp, rfl⟩

theorem SdcObjectTransaction.call_method (staged : SdcPreparedObjectWrite) (c : WriteCall)
    (h : call staged = .ok c) : c.method ≠ .get := by
  have hc := call_ok h
  cases haction : staged.action <;> rw [haction] at hc
  case create => rw [hc]; exact nofun
  all_goals
    obtain ⟨uuid, -, rfl⟩ := hc
    exact nofun

theorem SdcFirewallTransaction.call_method (staged : SdcPreparedFirewallWrite) (c : WriteCall)
    (h : call staged = .ok c) : c.method ≠ .get := by
  have hc := call_ok h
  cases haction : staged.action <;> rw [haction] at hc
  case createPolicy => rw [hc]; exact nofun
  all_goals
    obtain ⟨uuid, -, rfl⟩ := hc
    exact nofun

theorem SdcNatTransaction.call_method (staged : SdcPreparedNatWrite) (c : WriteCall)
    (h : call staged = .ok c) : c.method ≠ .get := by
  have hc := call_ok h
  cases haction : staged.action <;> rw [haction] at hc
  case createPolicy => rw [hc]; exact nofun
  case updateRule | deleteRule | updateRuleGroup =>
      obtain ⟨p, -, i, -, rfl⟩ := hc
      exact nofun
  all_goals
    obtain ⟨p, -, rfl⟩ := hc
    exact nofun

/-! ### The write of the three plain transactions -/

/-- The disposition of a write, by what its call came to. -/
def settleWrite (details reason : String) : Outcome SdcError Value → Outcome SdcError CommitOutcome
  | .ok value => Outcome.ofExcept (reconcileWrite details reason (.ok value))
  | .err error => Outcome.ofExcept (reconcileWrite details reason (.error error))
  | .dropped => .dropped

theorem LocalRefusal.reconcileWrite {e : SdcError} (he : LocalRefusal e)
    (details reason : String) : SdcMcp.reconcileWrite details reason (.error e) = .error e := by
  unfold SdcMcp.reconcileWrite
  split
  · contradiction
  · next hc => exact absurd (Except.error.inj hc) he.1
  · next hc => exact absurd (Except.error.inj hc) he.2.1
  · next hc => exact absurd (Except.error.inj hc) he.2.2.1
  · next hc => rw [Except.error.inj hc]

section Write

variable [Crates]

/-- A refused write sends nothing and is a failure. -/
theorem commitWrite_refused {client : SdcClient} {call : Except SdcError WriteCall}
    (hget : ∀ c, call = .ok c → c.method ≠ .get) {e : SdcError}
    (hcall : admitted client call = .error e) (details reason : String) (r : Env)
    (h : List Event) : commitWrite client details reason call r h = (.err e, []) := by
  unfold commitWrite
  rcases admitted_error hcall with rfl | ⟨c, rfl, hadmits⟩
  · rw [Run.lift_error_bind]
  · have hrun := WriteCall.run_refused (hget c rfl) hadmits r h
    rw [Run.lift_ok_bind, Run.bind_lift, Run.observe_apply, hrun]
    show (Outcome.ofExcept (reconcileWrite details reason (.error e)), []) = _
    rw [(WriteCall.admits_error hadmits).reconcileWrite]
    rfl

/-- **The run of a plain write.**  One attempt, and the disposition of its verdict. -/
theorem commitWrite_sent {client : SdcClient} {call : Except SdcError WriteCall}
    (hget : ∀ c, call = .ok c → c.method ≠ .get) {c : WriteCall}
    (hcall : admitted client call = .ok c) (details reason : String) (r : Env)
    (h : List Event) :
    commitWrite client details reason call r h =
      (settleWrite details reason (writeVerdict client (r.exchange h c.request).exchange),
        [.attempt c.request (r.exchange h c.request)]) := by
  obtain ⟨rfl, hadmits⟩ := admitted_ok_iff.mp hcall
  have hrun := WriteCall.run_admitted (hget c rfl) hadmits r h
  unfold commitWrite
  rw [Run.lift_ok_bind, Run.bind_lift, Run.observe_apply, hrun]
  cases writeVerdict client (r.exchange h c.request).exchange <;> rfl

end Write

end SdcMcp
