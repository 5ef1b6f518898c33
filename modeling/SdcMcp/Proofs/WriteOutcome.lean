/-
What an object, firewall or NAT commit says about its write.

The disposition is chosen from one flat error, but what is true of SDC depends on
when in the exchange the error arose.  `Classified` states the disposition a caller
may rely on, and `Classifiable` names the exchanges after which the code delivers
it.  Two kinds of exchange fall outside: a connection that is lost after the
request went out is reported as a plain failure, and a refusal of SDC whose body is
cut off by a timeout or a cancellation is reported as an unknown outcome.
-/
import SdcMcp.Proofs.Commit
import SdcMcp.Proofs.Scripted

namespace SdcMcp

open Interactive

namespace Exchange

/-- The status line, when there is one. -/
def status : Exchange → Option Nat
  | .answered answer => some answer.status
  | _ => none

/-- SDC answered with another status. -/
def refused (x : Exchange) : Bool := x.status.any fun status => !isSuccess status

end Exchange

section Classification

variable [Crates]

/-- A success whose body was read in full and is blank or JSON. -/
def Readable (client : SdcClient) : Exchange → Prop
  | .answered answer =>
      isSuccess answer.status = true ∧
        ∃ raw, readBody client.maxResponseBytes answer = .ok (.ok raw) ∧
          (raw.all isAsciiWhitespace = true ∨ (Crates.readJson raw).isSome = true)
  | _ => False

/-- What one exchange may be reported as. -/
structure ClassifiedAs (client : SdcClient) (x : Exchange) (o : Outcome SdcError CommitOutcome) :
    Prop where
  reconciled : ∀ jobId details, o = .ok (.reconciled true jobId details) → Readable client x
  failed : ∀ e, o = .err e → x.handed = true → x.refused = true
  refused : x.refused = true → o = .dropped ∨ ∃ e, o = .err e
  other : x.handed = true → x.refused = false → ¬ Readable client x →
    o = .dropped ∨ ∃ reason, o = .ok (.indeterminate reason)

/-- **The disposition of a commit agrees with what SDC did.**  A commit that reports success
saw a readable success, one that fails sent nothing or was refused, a refusal is a failure,
and everything else that was sent is left open. -/
structure Classified (client : SdcClient) (t : List Event) (o : Outcome SdcError CommitOutcome) :
    Prop where
  reconciled : ∀ jobId details, o = .ok (.reconciled true jobId details) →
    ∃ q a, .attempt q a ∈ t ∧ q.mutating = true ∧ Readable client a.exchange
  each : ∀ q a, .attempt q a ∈ t → q.mutating = true → ClassifiedAs client a.exchange o

/-- A body that was neither cut off nor lost to a timeout. -/
def bodyKept : Except Interrupt (Except SdcError (List UInt8)) → Bool
  | .error why => why = .dropped
  | .ok (.error error) => error ≠ .timeout
  | .ok (.ok _) => true

/-- The exchanges whose outcome the flat error still tells. -/
def Classifiable (client : SdcClient) : Exchange → Bool
  | .unsent _ => true
  | .unanswered _ => true
  | .sendError error => error.isTimeout || error.isBuilder
  | .answered answer =>
      isSuccess answer.status || bodyKept (readBody client.maxResponseBytes answer)

/-! ### One exchange -/

omit [Crates] in
theorem readBody_error {limit : Nat} {answer : Answer} {e : SdcError}
    (h : readBody limit answer = .ok (.error e)) :
    e ≠ .cancelled ∧ e ≠ .mutationOutcomeUnknown ∧ e ≠ .jobDeadline := by
  have hchunks : ∀ (chunks : List (List UInt8)) (body : List UInt8),
      readChunks limit body chunks answer.ending = .ok (.error e) →
        e ≠ .cancelled ∧ e ≠ .mutationOutcomeUnknown ∧ e ≠ .jobDeadline := by
    intro chunks
    induction chunks with
    | nil =>
        intro body hb
        cases hend : answer.ending with
        | complete =>
            rw [hend] at hb
            cases hb
        | interrupted why =>
            rw [hend] at hb
            cases hb
        | failed error =>
            rw [hend] at hb
            cases hb
            unfold classifyReqwest
            split_ifs
            all_goals exact ⟨by simp, by simp, by simp⟩
    | cons chunk rest ih =>
        intro body hb
        unfold readChunks at hb
        split_ifs at hb
        · cases hb
          exact ⟨by simp, by simp, by simp⟩
        · exact ih _ hb
  unfold readBody at h
  split_ifs at h
  · cases h
    exact ⟨by simp, by simp, by simp⟩
  · exact hchunks _ _ h

theorem classifyApiError_local (status : Nat) (body : List UInt8) :
    LocalRefusal (classifyApiError status body) := by
  unfold classifyApiError
  split_ifs
  all_goals simp [LocalRefusal]

section Exchange

variable {client : SdcClient} {details reason : String}

/-- A success is reported as one exactly when its body was readable, and never as a failure. -/
private theorem settle_accepted (client : SdcClient) (details reason : String) {answer : Answer}
    (hok : isSuccess answer.status = true) :
    settleWrite details reason (writeVerdict client (.answered answer)) = .dropped ∨
    (settleWrite details reason (writeVerdict client (.answered answer))
      = .ok (.reconciled true none (some details)) ∧ Readable client (.answered answer)) ∨
    (settleWrite details reason (writeVerdict client (.answered answer))
      = .ok (.indeterminate reason) ∧ ¬ Readable client (.answered answer)) := by
  unfold writeVerdict
  cases hbody : readBody client.maxResponseBytes answer with
  | error why =>
      rw [verdict_interrupted hbody]
      have hread : ¬ Readable client (.answered answer) := by
        rintro ⟨-, raw, hraw, -⟩
        rw [hbody] at hraw
        cases hraw
      cases why with
      | dropped => exact Or.inl rfl
      | cancelled => exact Or.inr (Or.inr ⟨rfl, hread⟩)
      | timedOut => exact Or.inr (Or.inr ⟨rfl, hread⟩)
  | ok body =>
      rw [verdict_answered hbody]
      rcases judgeWrite_accepted hok body with ⟨v, raw, hjudge, rfl, hgood⟩ | ⟨hjudge, hnone⟩
      · rw [hjudge]
        exact Or.inr (Or.inl ⟨rfl, hok, raw, hbody, hgood⟩)
      · rw [hjudge]
        refine Or.inr (Or.inr ⟨rfl, ?_⟩)
        rintro ⟨-, raw, hraw, hgood⟩
        rw [hbody] at hraw
        cases hraw
        exact hnone raw rfl hgood

/-- A refusal is a failure unless its body was cut off or timed out. -/
private theorem settle_refused (client : SdcClient) (details reason : String) {answer : Answer}
    (hno : isSuccess answer.status = false) :
    (bodyKept (readBody client.maxResponseBytes answer) = true ∧
      (settleWrite details reason (writeVerdict client (.answered answer)) = .dropped ∨
        ∃ e, settleWrite details reason (writeVerdict client (.answered answer)) = .err e)) ∨
    (bodyKept (readBody client.maxResponseBytes answer) = false ∧
      settleWrite details reason (writeVerdict client (.answered answer))
        = .ok (.indeterminate reason)) := by
  unfold writeVerdict
  cases hbody : readBody client.maxResponseBytes answer with
  | error why =>
      rw [verdict_interrupted hbody]
      cases why with
      | dropped => exact Or.inl ⟨rfl, Or.inl rfl⟩
      | cancelled => exact Or.inr ⟨rfl, rfl⟩
      | timedOut => exact Or.inr ⟨rfl, rfl⟩
  | ok body =>
      rw [verdict_answered hbody]
      have hfail : ∀ e, LocalRefusal e →
          settleWrite details reason (Outcome.ofExcept (.error e)) = .err e := by
        intro e he
        show Outcome.ofExcept (reconcileWrite details reason (.error e)) = _
        rw [he.reconcileWrite]
        rfl
      cases body with
      | error e =>
          rw [judgeWrite_refused_error hno]
          by_cases htime : e = .timeout
          · subst htime
            exact Or.inr ⟨rfl, rfl⟩
          · refine Or.inl ⟨by simp [bodyKept, htime], Or.inr ⟨e, hfail e ?_⟩⟩
            exact ⟨(readBody_error hbody).1, htime, (readBody_error hbody).2⟩
      | ok raw =>
          rw [judgeWrite_refused hno]
          exact Or.inl ⟨rfl, Or.inr ⟨_, hfail _ (classifyApiError_local answer.status raw)⟩⟩

theorem settleWrite_sendError (error : ReqwestError) :
    settleWrite details reason (writeVerdict client (.sendError error)) =
      if error.isTimeout then .ok (.indeterminate reason)
      else .err (classifyReqwest error) := by
  show Outcome.ofExcept (reconcileWrite details reason (.error (classifyReqwest error))) = _
  by_cases htime : error.isTimeout = true
  · rw [if_pos htime]
    unfold classifyReqwest
    rw [if_pos htime]
    rfl
  · rw [if_neg htime]
    have hlocal : LocalRefusal (classifyReqwest error) := by
      unfold classifyReqwest
      rw [if_neg htime]
      split_ifs
      all_goals simp [LocalRefusal]
    rw [hlocal.reconcileWrite]
    rfl

/-- A commit that its caller abandoned reports nothing. -/
private theorem classifiedAs_dropped (x : Exchange) : ClassifiedAs client x .dropped where
  reconciled := by intro _ _ hc; cases hc
  failed := by intro _ hc; cases hc
  refused := fun _ => Or.inl rfl
  other := fun _ _ _ => Or.inl rfl

/-- An open outcome is right for everything but a refusal. -/
private theorem classifiedAs_open {x : Exchange} (hx : x.refused = false) :
    ClassifiedAs client x (.ok (.indeterminate reason)) where
  reconciled := by intro _ _ hc; cases hc
  failed := by intro _ hc; cases hc
  refused := by intro hr; rw [hx] at hr; cases hr
  other := fun _ _ _ => Or.inr ⟨reason, rfl⟩

/-- A failure is right for everything that was not sent. -/
private theorem classifiedAs_unsent {x : Exchange} (hx : x.handed = false)
    (hrefused : x.refused = false) (e : SdcError) : ClassifiedAs client x (.err e) where
  reconciled := by intro _ _ hc; cases hc
  failed := by intro _ _ hh; rw [hx] at hh; cases hh
  refused := by intro hr; rw [hrefused] at hr; cases hr
  other := by intro hh; rw [hx] at hh; cases hh

/-- **One exchange.**  It is reported as what it was exactly when it is classifiable. -/
theorem classifiedAs_iff (client : SdcClient) (details reason : String) (x : Exchange) :
    ClassifiedAs client x (settleWrite details reason (writeVerdict client x))
      ↔ Classifiable client x = true := by
  cases x with
  | unsent why =>
      refine iff_of_true ?_ rfl
      cases why with
      | dropped => exact classifiedAs_dropped _
      | cancelled => exact classifiedAs_open rfl
      | timedOut => exact classifiedAs_open rfl
  | unanswered why =>
      refine iff_of_true ?_ rfl
      cases why with
      | dropped => exact classifiedAs_dropped _
      | cancelled => exact classifiedAs_open rfl
      | timedOut => exact classifiedAs_open rfl
  | sendError error =>
      rw [settleWrite_sendError]
      show _ ↔ (error.isTimeout || error.isBuilder) = true
      by_cases htime : error.isTimeout = true
      · rw [if_pos htime, htime]
        exact iff_of_true (classifiedAs_open rfl) rfl
      · rw [if_neg htime]
        constructor
        · -- A failure says that nothing was handed over, so the builder refused.
          intro hc
          by_cases hbuild : error.isBuilder = true
          · rw [hbuild, Bool.or_true]
          · have := hc.failed _ rfl (by simpa [Exchange.handed] using hbuild)
            cases this
        · intro hc
          have hbuild : error.isBuilder = true := by simpa [htime] using hc
          exact classifiedAs_unsent (by simp [Exchange.handed, hbuild]) rfl _
  | answered answer =>
      show _ ↔ (isSuccess answer.status ||
        bodyKept (readBody client.maxResponseBytes answer)) = true
      by_cases hok : isSuccess answer.status = true
      · rw [hok, Bool.true_or]
        have hrefused : (Exchange.answered answer).refused = false := by
          simp [Exchange.refused, Exchange.status, hok]
        refine iff_of_true ?_ rfl
        rcases settle_accepted client details reason hok
          with hd | ⟨hrec, hread⟩ | ⟨hind, -⟩
        · rw [hd]
          exact classifiedAs_dropped _
        · rw [hrec]
          refine ⟨fun _ _ _ => hread, ?_, ?_, fun _ _ hn => absurd hread hn⟩
          · intro e hc
            cases hc
          · intro hr
            rw [hrefused] at hr
            cases hr
        · rw [hind]
          exact classifiedAs_open hrefused
      · have hno : isSuccess answer.status = false := by simpa using hok
        have hrefused : (Exchange.answered answer).refused = true := by
          simp [Exchange.refused, Exchange.status, hno]
        rw [hno, Bool.false_or]
        rcases settle_refused client details reason hno
          with ⟨hkept, hfail⟩ | ⟨hkept, hind⟩
        · refine iff_of_true ⟨?_, fun _ _ _ => hrefused, fun _ => hfail, ?_⟩ hkept
          · intro jobId details' hc
            rcases hfail with h | ⟨e, h⟩ <;> rw [h] at hc <;> cases hc
          · intro _ hr
            rw [hrefused] at hr
            cases hr
        · rw [hind, hkept]
          refine iff_of_false ?_ (by decide)
          intro hc
          rcases hc.refused hrefused with h | ⟨e, h⟩ <;> cases h

end Exchange

/-! ### The run -/

/-- The exchanges of a run's mutating requests are all classifiable. -/
def WritesClassifiable (client : SdcClient) (t : List Event) : Prop :=
  ∀ q a, .attempt q a ∈ t → q.mutating = true → Classifiable client a.exchange = true

/-- A run that sent nothing has nothing to classify. -/
private theorem classified_quiet {client : SdcClient} {t : List Event}
    {o : Outcome SdcError CommitOutcome} (hquiet : Quiet t) (hnone : ∀ out, o ≠ .ok out) :
    Classified client t o ↔ WritesClassifiable client t := by
  refine iff_of_true ⟨?_, ?_⟩ ?_
  · intro jobId details hc
    exact absurd hc (hnone _)
  · intro q a hm hq
    exact absurd hq (hquiet.not_mutating hm)
  · intro q a hm hq
    exact absurd hq (hquiet.not_mutating hm)

omit [Crates] in
theorem WriteCall.request_mutating {call : WriteCall} (hget : call.method ≠ .get) :
    call.request.mutating = true :=
  decide_eq_true hget

/-- The commit of a plain transaction, whatever it reads first and whatever it sends. -/
theorem classified_commitWrite {client : SdcClient} {call : Except SdcError WriteCall}
    (hget : ∀ c, call = .ok c → c.method ≠ .get) {unchanged : Io Bool}
    (hreads : ReadsOnly unchanged) {unsupported details reason : String}
    {options : CommitOptions} {r : Env} {h : List Event} {o : Outcome SdcError CommitOutcome}
    {t : List Event}
    (hrun : commitUnchanged unsupported options unchanged
      (commitWrite client details reason call) r h = (o, t)) :
    Classified client t o ↔ WritesClassifiable client t := by
  have hcases := commitUnchanged_cases unsupported options
    (commitWrite client details reason call) hreads r h
  rw [hrun] at hcases
  rcases hcases with ⟨hquiet, hnone⟩ | ⟨s, -, hquiet, heq⟩
  · exact classified_quiet hquiet hnone
  have hgate := quiet_gateEvents hquiet
  cases hcall : admitted client call with
  | error e =>
      rw [commitWrite_refused hget hcall, List.append_nil] at heq
      cases heq
      exact classified_quiet hgate (by intro out hc; cases hc)
  | ok c =>
      rw [commitWrite_sent hget hcall] at heq
      cases heq
      have hmut := WriteCall.request_mutating (hget c (admitted_ok_iff.mp hcall).1)
      have hiff := classifiedAs_iff client details reason
        (r.exchange (h ++ gateEvents s) c.request).exchange
      -- The one mutating request of the run is its last event.
      have hlast : .attempt c.request (r.exchange (h ++ gateEvents s) c.request) ∈
          gateEvents s ++ [.attempt c.request (r.exchange (h ++ gateEvents s) c.request)] := by
        simp
      have hone : ∀ q a, .attempt q a ∈ gateEvents s ++
          [.attempt c.request (r.exchange (h ++ gateEvents s) c.request)] →
          q.mutating = true → a = r.exchange (h ++ gateEvents s) c.request :=
        fun q a hm hq => hgate.only_attempt quiet_nil hm hq
      constructor
      · intro hc q a hm hq
        rw [hone q a hm hq]
        exact hiff.mp (hc.each _ _ hlast hmut)
      · intro hw
        have hx := hiff.mpr (hw _ _ hlast hmut)
        refine ⟨fun jobId details' ho => ⟨_, _, hlast, hmut, hx.reconciled jobId details' ho⟩, ?_⟩
        intro q a hm hq
        rw [hone q a hm hq]
        exact hx

/-- **Object, firewall and NAT commits.**  Whatever was staged and whatever SDC does, the
disposition agrees with what SDC did exactly when the exchanges of the run are classifiable. -/
theorem commit_classified_iff (client : SdcClient) (options : CommitOptions) (r : Env)
    (h : List Event) :
    (∀ staged : SdcPreparedObjectWrite,
      Classified client (SdcObjectTransaction.commit client staged options r h).2
          (SdcObjectTransaction.commit client staged options r h).1 ↔
        WritesClassifiable client (SdcObjectTransaction.commit client staged options r h).2) ∧
    (∀ staged : SdcPreparedFirewallWrite,
      Classified client (SdcFirewallTransaction.commit client staged options r h).2
          (SdcFirewallTransaction.commit client staged options r h).1 ↔
        WritesClassifiable client (SdcFirewallTransaction.commit client staged options r h).2) ∧
    (∀ staged : SdcPreparedNatWrite,
      Classified client (SdcNatTransaction.commit client staged options r h).2
          (SdcNatTransaction.commit client staged options r h).1 ↔
        WritesClassifiable client (SdcNatTransaction.commit client staged options r h).2) := by
  refine ⟨fun staged => ?_, fun staged => ?_, fun staged => ?_⟩
  · exact classified_commitWrite (SdcObjectTransaction.call_method staged)
      (SdcObjectTransaction.targetUnchanged_readsOnly client staged) rfl
  · exact classified_commitWrite (SdcFirewallTransaction.call_method staged)
      (SdcFirewallTransaction.targetUnchanged_readsOnly client staged) rfl
  · exact classified_commitWrite (SdcNatTransaction.call_method staged)
      (SdcNatTransaction.targetUnchanged_readsOnly client staged) rfl

end Classification

/-! ### A connection that is lost -/

section LostConnection

def addressTables : Tables where
  documents := []
  digests :=
    [(.obj [("action", .str "create"), ("after", .obj [("name", .str "web")]),
        ("before", .null), ("resource", .str "addresses"), ("uuid", .null)],
      [96, 235, 19, 207, 199, 147, 218, 52, 126, 100, 50, 109, 161, 199, 46, 27, 217, 136, 153,
        249, 174, 0, 218, 156, 131, 96, 209, 186, 234, 105, 245, 201])]

local instance addressCrates : Crates := addressTables.crates

/-- A new address, as it is staged. -/
def addressCreate : SdcPreparedObjectWrite :=
  let request : Value := ⟨.obj [("name", .str "web")], by simp⟩
  { operation := "object_write"
    action := .create
    resource := .addresses
    uuid := none
    request := request
    before := Value.null
    planDigest := canonicalDigest
      (SdcPreparedObjectWrite.planArtifact .create .addresses none request Value.null) }

/-- Its commit, when the connection is lost after the `POST` went out. -/
def lostConnection : Outcome SdcError CommitOutcome × List Event :=
  SdcObjectTransaction.commit minuteClient addressCreate ⟨none⟩
    (Env.answering fun _ => .sendError ⟨.request, false⟩) []

/-- The `POST` was handed over and not refused, and the commit reports a failure. -/
theorem lost_connection_not_classified :
    SdcObjectTransaction.stage addressCreate.planDigest [addressCreate] = .ok addressCreate ∧
      lostConnection.1 = .err .transport ∧ lostConnection.2.any Event.mutates = true ∧
      ¬ Classified minuteClient lostConnection.2 lostConnection.1 := by
  have hout : lostConnection.1 = .err .transport := rfl
  have hsent : lostConnection.2 = gateEvents [] ++
      [.attempt (createResource .addresses addressCreate.request).request
        ⟨0, .sendError ⟨.request, false⟩⟩] := rfl
  have hstaged : SdcObjectTransaction.stage addressCreate.planDigest [addressCreate]
      = .ok addressCreate :=
    stageOne_ok.mpr ⟨rfl, by decide +kernel, by decide +kernel⟩
  refine ⟨hstaged, hout, rfl, ?_⟩
  intro hc
  have hwrite := hc.each _ _ (by rw [hsent]; exact List.mem_concat_self) rfl
  exact absurd (hwrite.failed _ hout rfl) (by decide)

end LostConnection

end SdcMcp
