/-
When an operation whose write failed is released.

Every exit of `commit` leaves a flag behind, and the caller, who only sees that
something failed, discards the operation if the flag says that nothing was sent.
The flag is right whenever it is up: a discarded operation never reached SDC.  The
other direction has gaps.  A run that sent nothing keeps its operation when the
coordinator fails around `diff` or before `commit`, and when the write is refused
after the flag was cleared; `Releasable` names them all.
-/
import SdcMcp.Proofs.Coordinated

namespace SdcMcp

open Interactive

variable {α β : Type}

/-! ### The flag -/

theorem refusedBeforeWrite_mark (h : List Event) (b : Bool) :
    refusedBeforeWrite (h ++ [.markRefused b]) = b := by
  unfold refusedBeforeWrite
  rw [List.foldl_append]
  rfl

/-- Only a mark changes the flag. -/
theorem refusedBeforeWrite_append (h : List Event) {t : List Event}
    (ht : ∀ b, .markRefused b ∉ t) : refusedBeforeWrite (h ++ t) = refusedBeforeWrite h := by
  unfold refusedBeforeWrite
  rw [List.foldl_append]
  generalize h.foldl _ false = flag
  induction t generalizing flag with
  | nil => rfl
  | cons e t ih =>
      have hrest : ∀ b, .markRefused b ∉ t := fun b hm => ht b (List.mem_cons_of_mem e hm)
      rw [List.foldl_cons]
      cases e with
      | markRefused b => exact absurd List.mem_cons_self (ht b)
      | attempt q a => exact ih hrest flag
      | abandoned q ms => exact ih hrest flag
      | paused ms ending => exact ih hrest flag
      | discarded op => exact ih hrest flag

theorem Reads.no_mark {t : List Event} (ht : Reads t) (b : Bool) : .markRefused b ∉ t := by
  intro hm
  cases ht _ hm

theorem Reads.no_discard {t : List Event} (ht : Reads t) (op : String) : .discarded op ∉ t := by
  intro hm
  cases ht _ hm

theorem Event.mutates_of_dispatches {e : Event} (h : e.dispatches = false) : e.mutates = false := by
  cases e with
  | attempt q a =>
      have hq : q.mutating = false := h
      show (q.mutating && _) = false
      rw [hq, Bool.false_and]
  | abandoned q ms => exact h
  | paused ms ending => rfl
  | markRefused b => rfl
  | discarded op => rfl

/-- A commit that stopped at its gate left the flag up. -/
theorem flag_up (h : List Event) {s : List Event} (hs : Reads s) :
    refusedBeforeWrite (h ++ .markRefused true :: s) = true := by
  have hhist : h ++ .markRefused true :: s = h ++ [.markRefused true] ++ s := by simp
  rw [hhist, refusedBeforeWrite_append _ hs.no_mark, refusedBeforeWrite_mark]

/-- A commit that passed its gate took the flag down. -/
theorem flag_down (h s : List Event) {t : List Event} (ht : ∀ b, .markRefused b ∉ t) :
    refusedBeforeWrite (h ++ (gateEvents s ++ t)) = false := by
  have hhist : h ++ (gateEvents s ++ t)
      = h ++ .markRefused true :: s ++ [.markRefused false] ++ t := by
    simp [gateEvents]
  rw [hhist, refusedBeforeWrite_append _ ht, refusedBeforeWrite_mark]

/-! ### The coordinator -/

section Relay

variable {coordinator : Coordinator α} {conduct : List Event → Conduct} {call : Io β} {r : Env}
  {h : List Event}

theorem relay_refuses {e : String} (hc : conduct h = .refuses e) :
    coordinator.relay conduct call r h = (.err e, []) := by
  unfold Coordinator.relay
  rw [Run.ask_bind, hc]
  rfl

theorem relay_relays (hc : conduct h = .relays) :
    coordinator.relay conduct call r h =
      ((call r h).1.bimap coordinator.flatten id, (call r h).2) := by
  unfold Coordinator.relay
  rw [Run.ask_bind, hc]
  rfl

theorem relay_breaks {e : String} (hc : conduct h = .breaks e) :
    coordinator.relay conduct call r h = (.err e, (call r h).2) := by
  unfold Coordinator.relay
  rw [Run.ask_bind, hc]
  show ((call.settle : Run Env Event String _) >>= fun _ => Run.fail e) r h = _
  have hsettle : (call.settle : Run Env Event String _) r h
      = (.ok (call r h).1, (call r h).2) := rfl
  rw [Run.bind_ok hsettle, Run.fail_apply, List.append_nil]

/-- A coordinator that calls the transaction passes its value on or makes an error of it. -/
theorem relay_calls (coordinator : Coordinator α) (call : Io β) (r : Env)
    (hc : ∀ e, conduct h ≠ .refuses e) :
    ∃ o, coordinator.relay conduct call r h = (o, (call r h).2) ∧
      ((∀ e, o ≠ .err e) ↔ conduct h = .relays ∧ ∀ e, (call r h).1 ≠ .err e) ∧
      ∀ b, o = .ok b → (call r h).1 = .ok b := by
  cases hconduct : conduct h with
  | refuses e => exact absurd hconduct (hc e)
  | relays =>
      refine ⟨_, relay_relays hconduct, ?_, ?_⟩
      · cases (call r h).1 with
        | ok b => exact iff_of_true (by intro e he; cases he) ⟨rfl, by intro e he; cases he⟩
        | err e => exact iff_of_false (fun hall => hall _ rfl) (fun hall => hall.2 _ rfl)
        | dropped => exact iff_of_true (by intro e he; cases he) ⟨rfl, by intro e he; cases he⟩
      · intro b hb
        cases hrun : (call r h).1 with
        | ok b' =>
            rw [hrun] at hb
            cases hb
            rfl
        | err e =>
            rw [hrun] at hb
            cases hb
        | dropped =>
            rw [hrun] at hb
            cases hb
  | breaks e =>
      refine ⟨_, relay_breaks hconduct, ?_, by intro b hb; cases hb⟩
      exact iff_of_false (fun hall => hall e rfl) (by rintro ⟨hc, -⟩; cases hc)

end Relay

/-! ### How an application ends -/

/-- The ways an application of a staged operation ends, with what it did on the way. -/
inductive Exits {γ : Type} (coordinator : Coordinator α) (unchanged : Io Bool)
    (request : Except SdcError Request) (leavesOpen : Exchange → Bool) (operationId : String)
    (r : Env) (h : List Event) : List Event → Outcome SdcError γ → Prop where
  | diffFailed (e : SdcError) (hdiff : coordinator.diff h ≠ .relays) :
      Exits coordinator unchanged request leavesOpen operationId r h [] (.err e)
  | invalid (e : SdcError) (t : List Event)
      (hvalid : ¬ (coordinator.validate h = .relays ∧ (unchanged r h).1 = .ok true))
      (hreads : Reads t) (hdiff : coordinator.diff h = .relays) :
      Exits coordinator unchanged request leavesOpen operationId r h (t ++ [.discarded operationId])
        (.err e)
  | invalidLeft (t : List Event)
      (hvalid : ¬ (coordinator.validate h = .relays ∧ (unchanged r h).1 = .ok true))
      (hreads : Reads t) (hdiff : coordinator.diff h = .relays) :
      Exits coordinator unchanged request leavesOpen operationId r h t .dropped
  | commitRefused (e : SdcError) (e' : String) (t : List Event)
      (hdiff : coordinator.diff h = .relays) (hvalid : coordinator.validate h = .relays)
      (hsame : unchanged r h = (.ok true, t)) (hreads : Reads t)
      (hcommit : coordinator.commit (h ++ t) = .refuses e') :
      Exits coordinator unchanged request leavesOpen operationId r h t (.err e)
  | stopped (e : SdcError) (t s : List Event)
      (hdiff : coordinator.diff h = .relays) (hvalid : coordinator.validate h = .relays)
      (hsame : unchanged r h = (.ok true, t)) (hreads : Reads t)
      (hcommit : ∀ e', coordinator.commit (h ++ t) ≠ .refuses e') (hs : Reads s)
      (hmoved : (unchanged r (h ++ t ++ [.markRefused true])).1 ≠ .ok true) :
      Exits coordinator unchanged request leavesOpen operationId r h
        (t ++ .markRefused true :: s ++ [.discarded operationId]) (.err e)
  | stoppedLeft (t s : List Event)
      (hdiff : coordinator.diff h = .relays) (hvalid : coordinator.validate h = .relays)
      (hsame : unchanged r h = (.ok true, t)) (hreads : Reads t)
      (hcommit : ∀ e', coordinator.commit (h ++ t) ≠ .refuses e') (hs : Reads s)
      (hmoved : (unchanged r (h ++ t ++ [.markRefused true])).1 ≠ .ok true) :
      Exits coordinator unchanged request leavesOpen operationId r h (t ++ .markRefused true :: s)
        .dropped
  | writeRefused (e e' : SdcError) (t s : List Event)
      (hdiff : coordinator.diff h = .relays) (hvalid : coordinator.validate h = .relays)
      (hsame : unchanged r h = (.ok true, t)) (hreads : Reads t)
      (hcommit : ∀ e', coordinator.commit (h ++ t) ≠ .refuses e') (hs : Reads s)
      (hgate : unchanged r (h ++ t ++ [.markRefused true]) = (.ok true, s))
      (hrequest : request = .error e') :
      Exits coordinator unchanged request leavesOpen operationId r h (t ++ gateEvents s) (.err e)
  | written (o : Outcome SdcError γ) (q : Request) (t s after : List Event)
      (hdiff : coordinator.diff h = .relays) (hvalid : coordinator.validate h = .relays)
      (hsame : unchanged r h = (.ok true, t)) (hreads : Reads t)
      (hcommit : ∀ e', coordinator.commit (h ++ t) ≠ .refuses e') (hs : Reads s)
      (hgate : unchanged r (h ++ t ++ [.markRefused true]) = (.ok true, s))
      (hrequest : request = .ok q) (hmut : q.mutating = true) (hafter : Reads after)
      (hopen : (r.exchange (h ++ t ++ gateEvents s) q).exchange.handed = false →
        ((∀ e, o ≠ .err e) ↔ coordinator.commit (h ++ t) = .relays ∧
          leavesOpen (r.exchange (h ++ t ++ gateEvents s) q).exchange = true)) :
      Exits coordinator unchanged request leavesOpen operationId r h
        (t ++ (gateEvents s ++ .attempt q (r.exchange (h ++ t ++ gateEvents s) q) :: after)) o

theorem releaseAndFail_apply (β : Type) (texts : ReleaseTexts) (coordinator : Coordinator α)
    (operationId error : String) (r : Env) (h : List Event) :
    ∃ e, (releaseAndFail texts coordinator operationId error : Io β) r h
      = (.err e, [.discarded operationId]) := by
  unfold releaseAndFail releaseUnwritten
  cases hd : coordinator.discard (h ++ [.discarded operationId]) with
  | ok u =>
      refine ⟨.changeControl (error ++ "; " ++ texts.released), ?_⟩
      simp only [bind_assoc, Run.emit_bind, Run.ask_bind, hd, pure_bind, Run.fail_apply]
  | error e =>
      refine ⟨.changeControl (error ++ "; " ++ (texts.stuck ++ e)), ?_⟩
      simp only [bind_assoc, Run.emit_bind, Run.ask_bind, hd, pure_bind, Run.fail_apply]

/-! ### The run of an application -/

/-- What a failed commit leads to. -/
private def failCommit (texts : ReleaseTexts) (coordinator : Coordinator α)
    (operationId error : String) : Io β := do
  if ← Run.ask fun _ history => refusedBeforeWrite history then
    releaseAndFail texts coordinator operationId error
  else Run.fail (.changeControl error)

private theorem failCommit_released (β : Type) (texts : ReleaseTexts) (coordinator : Coordinator α)
    (operationId error : String) (r : Env) {h : List Event}
    (hflag : refusedBeforeWrite h = true) :
    ∃ e, (failCommit texts coordinator operationId error : Io β) r h
      = (.err e, [.discarded operationId]) := by
  unfold failCommit
  rw [Run.ask_bind, hflag, if_pos rfl]
  exact releaseAndFail_apply β texts coordinator operationId error r h

private theorem failCommit_kept (texts : ReleaseTexts) (coordinator : Coordinator α)
    (operationId error : String) (r : Env) {h : List Event}
    (hflag : refusedBeforeWrite h = false) :
    (failCommit texts coordinator operationId error : Io β) r h
      = (.err (.changeControl error), []) := by
  unfold failCommit
  rw [Run.ask_bind, hflag, if_neg (by decide), Run.fail_apply]

/-- The part of an application after its validation. -/
private def commitStaged (texts : ReleaseTexts) (coordinator : Coordinator α)
    (transaction : Transaction α β) (operationId : String) (staged : α) (plan : Value)
    (validation : β) : Io (ApplyResult β) := do
  match ← (coordinator.relay coordinator.commit (transaction.commit staged ⟨none⟩)).observe with
  | .ok outcome => return ⟨operationId, plan, validation, outcome⟩
  | .error error => failCommit texts coordinator operationId error

section CommitStaged

variable {texts : ReleaseTexts} {coordinator : Coordinator α} {transaction : Transaction α β}
  {operationId : String} {staged : α} {plan : Value} {validation : β} {r : Env}
  {h t : List Event}

private theorem commitStaged_ok {outcome : CommitOutcome}
    (hrun : coordinator.relay coordinator.commit (transaction.commit staged ⟨none⟩) r h
      = (.ok outcome, t)) :
    commitStaged texts coordinator transaction operationId staged plan validation r h
      = (.ok ⟨operationId, plan, validation, outcome⟩, t) := by
  unfold commitStaged
  rw [Run.bind_ok (Run.observe_ok hrun)]
  show (_, t ++ []) = _
  rw [List.append_nil]
  rfl

private theorem commitStaged_dropped
    (hrun : coordinator.relay coordinator.commit (transaction.commit staged ⟨none⟩) r h
      = (.dropped, t)) :
    commitStaged texts coordinator transaction operationId staged plan validation r h
      = (.dropped, t) := by
  unfold commitStaged
  rw [Run.bind_dropped (Run.observe_dropped hrun)]

private theorem commitStaged_err {error : String}
    (hrun : coordinator.relay coordinator.commit (transaction.commit staged ⟨none⟩) r h
      = (.err error, t)) :
    commitStaged texts coordinator transaction operationId staged plan validation r h =
      ((failCommit texts coordinator operationId error r (h ++ t)).1,
        t ++ (failCommit texts coordinator operationId error r (h ++ t) :
          Outcome SdcError (ApplyResult β) × List Event).2) := by
  unfold commitStaged
  rw [Run.bind_ok (Run.observe_err hrun)]

/-- With the flag down, the operation is kept, whatever the commit came to. -/
private theorem commitStaged_kept (texts : ReleaseTexts) (operationId : String) (plan : Value)
    (validation : β) {o : Outcome String CommitOutcome}
    (hrun : coordinator.relay coordinator.commit (transaction.commit staged ⟨none⟩) r h = (o, t))
    (hdown : refusedBeforeWrite (h ++ t) = false) :
    ∃ o', commitStaged texts coordinator transaction operationId staged plan validation r h
        = (o', t) ∧
      ((∀ e, o' ≠ .err e) ↔ ∀ e, o ≠ .err e) := by
  cases o with
  | ok outcome => exact ⟨_, commitStaged_ok hrun, iff_of_true nofun nofun⟩
  | dropped => exact ⟨_, commitStaged_dropped hrun, iff_of_true nofun nofun⟩
  | err error =>
      refine ⟨.err (.changeControl error), ?_,
        iff_of_false (fun hall => hall _ rfl) (fun hall => hall _ rfl)⟩
      rw [commitStaged_err hrun, failCommit_kept _ _ _ _ _ hdown, List.append_nil]

end CommitStaged

section Application

variable {transaction : Transaction α β} {unchanged : α → Io Bool}
  {request : α → Except SdcError Request} {leavesOpen : Exchange → Bool}

/-- A relayed commit, from the gate on. -/
private theorem commitStaged_exits (hg : Gated transaction unchanged request leavesOpen)
    (texts : ReleaseTexts) (coordinator : Coordinator α) (operationId : String) (staged : α)
    (plan : Value) (validation : β) (r : Env) (h t : List Event)
    (hflag : refusedBeforeWrite h = false) (hdiff : coordinator.diff h = .relays)
    (hvalid : coordinator.validate h = .relays) (hsame : unchanged staged r h = (.ok true, t))
    (hreads : Reads t) :
    Exits coordinator (unchanged staged) (request staged) leavesOpen operationId r h
      (t ++ (commitStaged texts coordinator transaction operationId staged plan validation r
        (h ++ t)).2)
      (commitStaged texts coordinator transaction operationId staged plan validation r
        (h ++ t)).1 := by
  by_cases hrefuses : ∃ e, coordinator.commit (h ++ t) = .refuses e
  · obtain ⟨e, hconduct⟩ := hrefuses
    have hdown : refusedBeforeWrite (h ++ t ++ []) = false := by
      rw [List.append_nil, refusedBeforeWrite_append h hreads.no_mark, hflag]
    rw [commitStaged_err (relay_refuses hconduct), failCommit_kept _ _ _ _ _ hdown,
      List.append_nil, List.append_nil]
    exact Exits.commitRefused _ e t hdiff hvalid hsame hreads hconduct
  have hcommit : ∀ e, coordinator.commit (h ++ t) ≠ .refuses e :=
    fun e hc => hrefuses ⟨e, hc⟩
  obtain ⟨o, hrelay, herr, hok⟩ := relay_calls coordinator
    (transaction.commit staged ⟨none⟩) r hcommit
  rcases hg.commit_cases staged r (h ++ t) with
    ⟨s, o', hrun, hs, hnone, hmoved⟩ | ⟨s, hgate, hs, ⟨e, e', hrequest, hrun⟩ |
      ⟨q, o', after, hrequest, hmut, hrun, hafter, hopen⟩⟩
  · -- The flag is up: an error releases the operation.
    rw [hrun] at hrelay hok
    cases o with
    | ok out => exact absurd (hok out rfl) (hnone out)
    | dropped =>
        rw [commitStaged_dropped hrelay]
        exact Exits.stoppedLeft t s hdiff hvalid hsame hreads hcommit hs hmoved
    | err e =>
        obtain ⟨e', hfail⟩ := failCommit_released (ApplyResult β) texts coordinator
          operationId e r (flag_up (h ++ t) hs)
        rw [commitStaged_err hrelay, hfail, ← List.append_assoc]
        exact Exits.stopped e' t s hdiff hvalid hsame hreads hcommit hs hmoved
  · -- The write was refused with the flag down.
    rw [hrun] at hrelay herr
    have hdown := flag_down (h ++ t) s (t := []) (by simp)
    rw [List.append_nil] at hdown
    obtain ⟨o', hkept, hfails⟩ := commitStaged_kept texts operationId plan validation hrelay hdown
    obtain ⟨error, rfl⟩ : ∃ error, o' = .err error := by
      by_contra hnone
      exact (herr.mp (hfails.mp fun error ho => hnone ⟨error, ho⟩)).2 e' rfl
    rw [hkept]
    exact Exits.writeRefused _ e t s hdiff hvalid hsame hreads hcommit hs hgate hrequest
  · -- The write was attempted with the flag down.
    rw [hrun] at hrelay herr
    have hafterMarks : ∀ b, .markRefused b ∉
        .attempt q (r.exchange (h ++ t ++ gateEvents s) q) :: after := by
      intro b hm
      rcases List.mem_cons.mp hm with hm | hm
      · cases hm
      · exact hafter.no_mark b hm
    obtain ⟨o', hkept, hfails⟩ := commitStaged_kept texts operationId plan validation hrelay
      (flag_down (h ++ t) s hafterMarks)
    rw [hkept]
    refine Exits.written _ q t s after hdiff hvalid hsame hreads hcommit hs hgate hrequest
      hmut hafter fun hhanded => ?_
    rw [hfails, herr, hopen hhanded]

private theorem diff_apply (coordinator : Coordinator α) (plan : Value) (r : Env)
    (h : List Event) :
    (coordinator.diff h = .relays ∧
      ((coordinator.relay coordinator.diff (return plan)).mapErr SdcError.changeControl) r h
        = (.ok plan, [])) ∨
    (coordinator.diff h ≠ .relays ∧
      ∃ e, ((coordinator.relay coordinator.diff (return plan)).mapErr SdcError.changeControl) r h
        = (.err e, [])) := by
  rw [Run.mapErr_apply]
  cases hdiff : coordinator.diff h with
  | relays =>
      rw [relay_relays hdiff]
      exact Or.inl ⟨rfl, rfl⟩
  | refuses e =>
      rw [relay_refuses hdiff]
      exact Or.inr ⟨by simp, _, rfl⟩
  | breaks e =>
      rw [relay_breaks hdiff]
      exact Or.inr ⟨by simp, _, rfl⟩

/-- A validation through the coordinator only reads, and succeeds when it is relayed and the
target is unchanged. -/
private theorem validate_apply (hg : Gated transaction unchanged request leavesOpen)
    (coordinator : Coordinator α) (staged : α) (r : Env) (h : List Event) :
    ∃ o t, coordinator.relay coordinator.validate (transaction.validate staged) r h = (o, t) ∧
      Reads t ∧
      ((∃ v, o = .ok v) → coordinator.validate h = .relays ∧ unchanged staged r h = (.ok true, t)) ∧
      ((∀ v, o ≠ .ok v) →
        ¬ (coordinator.validate h = .relays ∧ (unchanged staged r h).1 = .ok true)) := by
  obtain ⟨report, hvalidate⟩ := hg.validate_eq staged
  obtain ⟨hevents, hresult⟩ := validateUnchanged_cases (unchanged staged) report r h
  rw [← hvalidate] at hevents hresult
  cases hconduct : coordinator.validate h with
  | refuses e =>
      refine ⟨_, _, relay_refuses hconduct, reads_nil, ?_, ?_⟩
      · rintro ⟨v, hv⟩
        cases hv
      · rintro - ⟨hc, -⟩
        cases hc
  | breaks e =>
      refine ⟨_, _, relay_breaks hconduct, ?_, ?_, ?_⟩
      · rw [hevents]
        exact hg.reads staged r h
      · rintro ⟨v, hv⟩
        cases hv
      · rintro - ⟨hc, -⟩
        cases hc
  | relays =>
      refine ⟨_, _, relay_relays hconduct, ?_, ?_, ?_⟩
      · rw [hevents]
        exact hg.reads staged r h
      · rintro ⟨v, hv⟩
        refine ⟨rfl, Prod.ext (hresult.mp ?_) hevents.symm⟩
        cases hrun : (transaction.validate staged r h).1 with
        | ok v' => exact ⟨v', rfl⟩
        | err e =>
            rw [hrun] at hv
            cases hv
        | dropped =>
            rw [hrun] at hv
            cases hv
      · rintro hnone ⟨-, hsame⟩
        obtain ⟨v, hv⟩ := hresult.mpr hsame
        refine hnone v ?_
        rw [hv]
        rfl

/-- **The run of an application.** -/
theorem applyStaged_exits (hg : Gated transaction unchanged request leavesOpen)
    (texts : ReleaseTexts) (coordinator : Coordinator α) (operationId : String) (staged : α)
    (r : Env) (h : List Event) (hflag : refusedBeforeWrite h = false) :
    Exits coordinator (unchanged staged) (request staged) leavesOpen operationId r h
      (applyStaged texts coordinator transaction operationId staged r h).2
      (applyStaged texts coordinator transaction operationId staged r h).1 := by
  unfold applyStaged
  rcases diff_apply coordinator (transaction.diff staged) r h with ⟨hdiff, hrun⟩ | ⟨hdiff, e, hrun⟩
  swap
  · rw [Run.bind_err hrun]
    exact Exits.diffFailed e hdiff
  rw [Run.bind_ok hrun, List.append_nil, List.nil_append]
  obtain ⟨o, t, hvalidate, hreads, hvalid, hinvalid⟩ := validate_apply hg coordinator staged r h
  cases o with
  | ok validation =>
      obtain ⟨hrelays, hsame⟩ := hvalid ⟨validation, rfl⟩
      rw [Run.bind_ok (Run.observe_ok hvalidate)]
      exact commitStaged_exits hg texts coordinator operationId staged _ validation r h t hflag
        hdiff hrelays hsame hreads
  | dropped =>
      rw [Run.bind_dropped (Run.observe_dropped hvalidate)]
      exact Exits.invalidLeft t (hinvalid (by intro v hc; cases hc)) hreads hdiff
  | err error =>
      obtain ⟨e, hfail⟩ := releaseAndFail_apply (ApplyResult β) texts coordinator operationId
        error r (h ++ t)
      rw [Run.bind_ok (Run.observe_err hvalidate)]
      show Exits coordinator (unchanged staged) (request staged) leavesOpen operationId r h
        (t ++ (releaseAndFail texts coordinator operationId error r (h ++ t)).2)
        (releaseAndFail texts coordinator operationId error r (h ++ t)).1
      rw [hfail]
      exact Exits.invalid e t (hinvalid (by intro v hc; cases hc)) hreads hdiff

end Application

/-! ### Discarding -/

/-- An operation is discarded only by a run that sent nothing. -/
def DiscardSound (t : List Event) : Prop := ∀ operationId, .discarded operationId ∈ t → Quiet t

/-- The write of a commit is handed over, or is cut off in a way that does not fail the run. -/
def Lands (request : Except SdcError Request) (leavesOpen : Exchange → Bool) (conduct : Conduct)
    (r : Env) (h : List Event) : Prop :=
  ∃ q, request = .ok q ∧ ((r.exchange h q).exchange.handed = true ∨
    conduct = .relays ∧ leavesOpen (r.exchange h q).exchange = true)

/-- A run after which nothing is left behind: the coordinator relays `diff`; if the operation
is valid it calls `commit`; and if the target is still unchanged then, the write lands. -/
def Releasable (coordinator : Coordinator α) (unchanged : Io Bool)
    (request : Except SdcError Request) (leavesOpen : Exchange → Bool) (r : Env)
    (h : List Event) : Prop :=
  coordinator.diff h = .relays ∧
    ∀ t, coordinator.validate h = .relays → unchanged r h = (.ok true, t) →
      (∀ e, coordinator.commit (h ++ t) ≠ .refuses e) ∧
      ∀ s, unchanged r (h ++ t ++ [.markRefused true]) = (.ok true, s) →
        Lands request leavesOpen (coordinator.commit (h ++ t)) r (h ++ t ++ gateEvents s)

section Exits

variable {γ : Type} {coordinator : Coordinator α} {unchanged : Io Bool}
  {request : Except SdcError Request} {leavesOpen : Exchange → Bool} {operationId : String}
  {r : Env} {h t : List Event} {o : Outcome SdcError γ}

private theorem gateEvents_no_discard {s : List Event} (hs : Reads s) (op : String) :
    .discarded op ∉ gateEvents s := by
  intro hm
  rcases List.mem_cons.mp hm with hm | hm
  · cases hm
  rcases List.mem_append.mp hm with hm | hm
  · exact hs.no_discard op hm
  · rw [List.mem_singleton] at hm
    cases hm

/-- What a write leaves in the events is no discarded operation. -/
private theorem written_no_discard {t s after : List Event} {q : Request} {a : Attempt}
    (ht : Reads t) (hs : Reads s) (hafter : Reads after) (op : String) :
    .discarded op ∉ t ++ (gateEvents s ++ .attempt q a :: after) := by
  intro hm
  rcases List.mem_append.mp hm with hm | hm
  · exact ht.no_discard op hm
  rcases List.mem_append.mp hm with hm | hm
  · exact gateEvents_no_discard hs op hm
  rcases List.mem_cons.mp hm with hm | hm
  · cases hm
  · exact hafter.no_discard op hm

theorem Exits.discardSound
    (hx : Exits coordinator unchanged request leavesOpen operationId r h t o) :
    DiscardSound t := by
  have hdiscard : Quiet [.discarded operationId] := .cons rfl quiet_nil
  have hmark : ∀ s, Reads s → Quiet (.markRefused true :: s) := fun s hs => .cons rfl hs.quiet
  intro op hm
  cases hx with
  | diffFailed e hdiff => exact reads_nil.quiet
  | invalid e t hvalid hreads hdiff => exact hreads.quiet.append hdiscard
  | invalidLeft t hvalid hreads hdiff => exact hreads.quiet
  | commitRefused e e' t hdiff hvalid hsame hreads hcommit => exact hreads.quiet
  | stopped e t s hdiff hvalid hsame hreads hcommit hs hmoved =>
      exact (hreads.quiet.append (hmark s hs)).append hdiscard
  | stoppedLeft t s hdiff hvalid hsame hreads hcommit hs hmoved =>
      exact hreads.quiet.append (hmark s hs)
  | writeRefused e e' t s hdiff hvalid hsame hreads hcommit hs hgate hrequest =>
      exact hreads.quiet.append (quiet_gateEvents hs.quiet)
  | written o q t s after hdiff hvalid hsame hreads hcommit hs hgate hrequest hmut hafter hopen =>
      exact absurd hm (written_no_discard hreads hs hafter op)

/-- A write that was not handed over leaves its run without effect. -/
private theorem written_silent {t s after : List Event} {q : Request} {a : Attempt}
    (ht : Reads t) (hs : Reads s) (hafter : Reads after) (hnot : a.exchange.handed = false) :
    ∀ event ∈ t ++ (gateEvents s ++ .attempt q a :: after), event.mutates = false := by
  intro event hm
  rcases List.mem_append.mp hm with hm | hm
  · exact Event.mutates_of_dispatches (ht.quiet event hm)
  rcases List.mem_append.mp hm with hm | hm
  · exact Event.mutates_of_dispatches (quiet_gateEvents hs.quiet event hm)
  rcases List.mem_cons.mp hm with rfl | hm
  · show (q.mutating && _) = false
    rw [hnot, Bool.and_false]
  · exact Event.mutates_of_dispatches (hafter.quiet event hm)

/-- A run that got as far as its commit. -/
private theorem releasable_iff (hdiff : coordinator.diff h = .relays)
    (hvalid : coordinator.validate h = .relays) (hsame : unchanged r h = (.ok true, t)) :
    Releasable coordinator unchanged request leavesOpen r h ↔
      (∀ e, coordinator.commit (h ++ t) ≠ .refuses e) ∧
      ∀ s, unchanged r (h ++ t ++ [.markRefused true]) = (.ok true, s) →
        Lands request leavesOpen (coordinator.commit (h ++ t)) r (h ++ t ++ gateEvents s) := by
  constructor
  · exact fun hr => hr.2 t hvalid hsame
  · intro hall
    refine ⟨hdiff, fun t' _ hsame' => ?_⟩
    rw [hsame] at hsame'
    cases hsame'
    exact hall

/-- A run that passed its gate. -/
private theorem releasable_iff_lands {s : List Event} (hdiff : coordinator.diff h = .relays)
    (hvalid : coordinator.validate h = .relays) (hsame : unchanged r h = (.ok true, t))
    (hcommit : ∀ e, coordinator.commit (h ++ t) ≠ .refuses e)
    (hgate : unchanged r (h ++ t ++ [.markRefused true]) = (.ok true, s)) :
    Releasable coordinator unchanged request leavesOpen r h ↔
      Lands request leavesOpen (coordinator.commit (h ++ t)) r (h ++ t ++ gateEvents s) := by
  rw [releasable_iff hdiff hvalid hsame]
  constructor
  · exact fun hall => hall.2 s hgate
  · intro hlands
    refine ⟨hcommit, fun s' hgate' => ?_⟩
    rw [hgate] at hgate'
    cases hgate'
    exact hlands

private theorem lands_iff {q : Request} {conduct : Conduct} (hrequest : request = .ok q) :
    Lands request leavesOpen conduct r h ↔ (r.exchange h q).exchange.handed = true ∨
      conduct = .relays ∧ leavesOpen (r.exchange h q).exchange = true := by
  constructor
  · rintro ⟨q', hq', hlands⟩
    rw [hrequest] at hq'
    cases hq'
    exact hlands
  · exact fun hlands => ⟨q, hrequest, hlands⟩

/-- A run that failed and sent nothing released its operation, or it was not releasable. -/
theorem Exits.released_iff
    (hx : Exits coordinator unchanged request leavesOpen operationId r h t o) :
    (∀ e, o = .err e → (∀ event ∈ t, event.mutates = false) → .discarded operationId ∈ t) ↔
      Releasable coordinator unchanged request leavesOpen r h := by
  have hsilent : ∀ t, Quiet t → ∀ event ∈ t, event.mutates = false :=
    fun t ht event he => Event.mutates_of_dispatches (ht event he)
  cases hx with
  | diffFailed e hdiff =>
      refine iff_of_false (fun hall => ?_) (fun hr => hdiff hr.1)
      have := hall e rfl (by intro event he; cases he)
      cases this
  | invalid e t hvalid hreads hdiff =>
      refine iff_of_true (fun _ _ _ => by simp) ⟨hdiff, fun t' hrelays hsame => ?_⟩
      exact absurd ⟨hrelays, by rw [hsame]⟩ hvalid
  | invalidLeft t hvalid hreads hdiff =>
      refine iff_of_true (fun e hc => by cases hc) ⟨hdiff, fun t' hrelays hsame => ?_⟩
      exact absurd ⟨hrelays, by rw [hsame]⟩ hvalid
  | commitRefused e e' t hdiff hvalid hsame hreads hcommit =>
      rw [releasable_iff hdiff hvalid hsame]
      refine iff_of_false (fun hall => ?_) (fun hr => hr.1 e' hcommit)
      exact hreads.no_discard operationId (hall e rfl (hsilent t hreads.quiet))
  | stopped e t s hdiff hvalid hsame hreads hcommit hs hmoved =>
      rw [releasable_iff hdiff hvalid hsame]
      refine iff_of_true (fun _ _ _ => by simp) ⟨hcommit, fun s' hgate => ?_⟩
      exact absurd (by rw [hgate]) hmoved
  | stoppedLeft t s hdiff hvalid hsame hreads hcommit hs hmoved =>
      rw [releasable_iff hdiff hvalid hsame]
      refine iff_of_true (fun e hc => by cases hc) ⟨hcommit, fun s' hgate => ?_⟩
      exact absurd (by rw [hgate]) hmoved
  | writeRefused e e' t s hdiff hvalid hsame hreads hcommit hs hgate hrequest =>
      rw [releasable_iff_lands hdiff hvalid hsame hcommit hgate]
      refine iff_of_false (fun hall => ?_) ?_
      · have hquiet := hreads.quiet.append (quiet_gateEvents hs.quiet)
        rcases List.mem_append.mp (hall e rfl (hsilent _ hquiet)) with hm | hm
        · exact hreads.no_discard operationId hm
        · exact gateEvents_no_discard hs operationId hm
      · rintro ⟨q, hq, -⟩
        rw [hrequest] at hq
        cases hq
  | written o q t s after hdiff hvalid hsame hreads hcommit hs hgate hrequest hmut hafter hopen =>
      rw [releasable_iff_lands hdiff hvalid hsame hcommit hgate, lands_iff hrequest]
      by_cases hhanded : (r.exchange (h ++ t ++ gateEvents s) q).exchange.handed = true
      · refine iff_of_true (fun e _ hall => ?_) (Or.inl hhanded)
        have hone : (q.mutating &&
            (r.exchange (h ++ t ++ gateEvents s) q).exchange.handed) = false :=
          hall (.attempt q (r.exchange (h ++ t ++ gateEvents s) q)) (by simp)
        rw [hmut, hhanded] at hone
        cases hone
      · have hnot : (r.exchange (h ++ t ++ gateEvents s) q).exchange.handed = false := by
          simpa using hhanded
        rw [← hopen hnot, hnot]
        constructor
        · intro hall
          refine Or.inr fun e he => ?_
          exact written_no_discard hreads hs hafter operationId
            (hall e he (written_silent hreads hs hafter hnot))
        · rintro (hc | hnone) e he
          · cases hc
          · exact absurd he (hnone e)

end Exits

/-! ### The run of `applyWrite` -/

theorem applyChangeSet_events (coordinator : Coordinator α) (stage : List α → Except SdcError α)
    (r : Env) (h : List Event) : (coordinator.applyChangeSet stage r h).2 = [] := by
  have hrelay : ∀ actions : List α,
      (coordinator.relay coordinator.apply (Run.lift (stage actions)) r h).2 = [] := by
    intro actions
    cases hconduct : coordinator.apply h with
    | refuses e => rw [relay_refuses hconduct]
    | relays =>
        rw [relay_relays hconduct]
        rfl
    | breaks e =>
        rw [relay_breaks hconduct]
        rfl
  unfold Coordinator.applyChangeSet
  rw [Run.ask_bind]
  cases hstored : coordinator.changeSet h with
  | error e => rw [Run.lift_error_bind]
  | ok stored =>
      obtain ⟨operationId, actions⟩ := stored
      rw [Run.lift_ok_bind]
      have hnone := hrelay actions
      rcases hrun : coordinator.relay coordinator.apply (Run.lift (stage actions)) r h
        with ⟨o, t⟩
      rw [hrun] at hnone
      cases hnone
      show ((coordinator.relay coordinator.apply (Run.lift (stage actions)) >>= fun staged =>
        (pure (operationId, staged) : Run Env Event String _)) r h).2 = []
      cases o with
      | ok staged =>
          rw [Run.bind_ok hrun]
          rfl
      | err e => rw [Run.bind_err hrun]
      | dropped => rw [Run.bind_dropped hrun]

/-- The change set was handed over and staged, as one operation and one action. -/
def Applied (coordinator : Coordinator α) (stage : List α → Except SdcError α) (r : Env)
    (h : List Event) (operationId : String) (staged : α) : Prop :=
  coordinator.applyChangeSet stage r (h ++ [.markRefused false]) = (.ok (operationId, staged), [])

theorem applied_of_staged {coordinator : Coordinator α} {stage : List α → Except SdcError α}
    {r : Env} {h : List Event} {operationId : String} {actions : List α} {staged : α}
    (hset : coordinator.changeSet (h ++ [.markRefused false]) = .ok (operationId, actions))
    (happly : coordinator.apply (h ++ [.markRefused false]) = .relays)
    (hstage : stage actions = .ok staged) : Applied coordinator stage r h operationId staged := by
  have hrelay : coordinator.relay coordinator.apply (Run.lift (stage actions)) r
      (h ++ [.markRefused false]) = (.ok staged, []) := by
    rw [relay_relays happly, hstage]
    rfl
  unfold Applied Coordinator.applyChangeSet
  rw [Run.ask_bind, hset, Run.lift_ok_bind]
  exact Run.bind_ok hrelay

theorem applyWrite_cases (texts : ReleaseTexts) (coordinator : Coordinator α)
    (transaction : Transaction α β) (r : Env) (h : List Event) :
    ((∀ operationId staged, ¬ Applied coordinator transaction.stage r h operationId staged) ∧
      (applyWrite texts coordinator transaction r h).2 = [.markRefused false]) ∨
    ∃ operationId staged, Applied coordinator transaction.stage r h operationId staged ∧
      applyWrite texts coordinator transaction r h =
        ((applyStaged texts coordinator transaction operationId staged r
            (h ++ [.markRefused false])).1,
          .markRefused false :: (applyStaged texts coordinator transaction operationId staged r
            (h ++ [.markRefused false])).2) := by
  have hevents := applyChangeSet_events coordinator transaction.stage r (h ++ [.markRefused false])
  unfold applyWrite Applied
  rw [Run.emit_bind]
  rcases hrun : coordinator.applyChangeSet transaction.stage r (h ++ [.markRefused false])
    with ⟨o, t⟩
  rw [hrun] at hevents
  cases hevents
  have hmap := Run.mapErr_apply SdcError.changeControl
    (coordinator.applyChangeSet transaction.stage) r (h ++ [.markRefused false])
  rw [hrun] at hmap
  cases o with
  | ok pair =>
      obtain ⟨operationId, staged⟩ := pair
      refine Or.inr ⟨operationId, staged, hrun, ?_⟩
      rw [Run.bind_ok hmap, List.append_nil, List.nil_append]
      rfl
  | err e =>
      rw [Run.bind_err hmap]
      exact Or.inl ⟨(by intro _ _ hc; rw [hrun] at hc; cases hc), rfl⟩
  | dropped =>
      rw [Run.bind_dropped hmap]
      exact Or.inl ⟨(by intro _ _ hc; rw [hrun] at hc; cases hc), rfl⟩

section ApplyWrite

variable {transaction : Transaction α β} {unchanged : α → Io Bool}
  {request : α → Except SdcError Request} {leavesOpen : Exchange → Bool}

private theorem discarded_cons {operationId : String} {t : List Event} :
    .discarded operationId ∈ .markRefused false :: t ↔ .discarded operationId ∈ t := by
  simp

theorem applyWrite_discardSound (hg : Gated transaction unchanged request leavesOpen)
    (texts : ReleaseTexts) (coordinator : Coordinator α) (r : Env) (h : List Event) :
    DiscardSound (applyWrite texts coordinator transaction r h).2 := by
  have hmark : Quiet [.markRefused false] := .cons rfl quiet_nil
  rcases applyWrite_cases texts coordinator transaction r h with
    ⟨-, heq⟩ | ⟨operationId, staged, -, heq⟩
  · rw [heq]
    exact fun _ _ => hmark
  · rw [heq]
    have hexits := applyStaged_exits hg texts coordinator operationId staged r
      (h ++ [.markRefused false]) (refusedBeforeWrite_mark h false)
    intro op hm
    exact hmark.append (hexits.discardSound op (discarded_cons.mp hm))

/-- No operation of a failed run is left behind if the run sent nothing. -/
def NoneStranded (coordinator : Coordinator α) (stage : List α → Except SdcError α)
    (apply : Io (ApplyResult β)) (r : Env) (h : List Event) : Prop :=
  ∀ operationId staged, Applied coordinator stage r h operationId staged →
    ∀ e, (apply r h).1 = .err e → (∀ event ∈ (apply r h).2, event.mutates = false) →
      .discarded operationId ∈ (apply r h).2

/-- Every staged operation is releasable in this run. -/
def AllReleasable (coordinator : Coordinator α) (stage : List α → Except SdcError α)
    (unchanged : α → Io Bool) (request : α → Except SdcError Request)
    (leavesOpen : Exchange → Bool) (r : Env) (h : List Event) : Prop :=
  ∀ operationId staged, Applied coordinator stage r h operationId staged →
    Releasable coordinator (unchanged staged) (request staged) leavesOpen r
      (h ++ [.markRefused false])

theorem applyWrite_noneStranded (hg : Gated transaction unchanged request leavesOpen)
    (texts : ReleaseTexts) (coordinator : Coordinator α) (r : Env) (h : List Event) :
    NoneStranded coordinator transaction.stage (applyWrite texts coordinator transaction) r h ↔
      AllReleasable coordinator transaction.stage unchanged request leavesOpen r h := by
  unfold NoneStranded AllReleasable
  rcases applyWrite_cases texts coordinator transaction r h with
    ⟨hnone, -⟩ | ⟨operationId, staged, happlied, heq⟩
  · exact iff_of_true (fun op staged hc => absurd hc (hnone op staged))
      (fun op staged hc => absurd hc (hnone op staged))
  have hiff := (applyStaged_exits hg texts coordinator operationId staged r
    (h ++ [.markRefused false]) (refusedBeforeWrite_mark h false)).released_iff
  have hone : ∀ op staged', Applied coordinator transaction.stage r h op staged' →
      op = operationId ∧ staged' = staged := by
    intro op staged' hc
    have := happlied.symm.trans hc
    cases this
    exact ⟨rfl, rfl⟩
  rw [heq]
  constructor
  · intro hall op staged' hc
    obtain ⟨rfl, rfl⟩ := hone op staged' hc
    refine hiff.mp fun e he hsilent => ?_
    refine discarded_cons.mp (hall op staged' hc e he ?_)
    exact List.forall_mem_cons.mpr ⟨rfl, hsilent⟩
  · intro hall op staged' hc e he hsilent
    obtain ⟨rfl, rfl⟩ := hone op staged' hc
    exact discarded_cons.mpr (hiff.mpr (hall op staged' hc) e he
      (List.forall_mem_cons.mp hsilent).2)

end ApplyWrite

/-! ### Releasing in the five applications -/

section Kinds

variable [Crates]

/-- **Discarding is sound.**  Whatever SDC, the caller and the coordinator do, an application
that discards its operation sent nothing. -/
theorem apply_discard_sound (client : SdcClient) (digest : String) (r : Env) (h : List Event) :
    (∀ coordinator, DiscardSound (applyObjectWrite client coordinator digest r h).2) ∧
    (∀ coordinator, DiscardSound (applyFirewallWrite client coordinator digest r h).2) ∧
    (∀ coordinator, DiscardSound (applyNatWrite client coordinator digest r h).2) ∧
    (∀ coordinator, DiscardSound (applyLicenseWrite client coordinator digest r h).2) ∧
    (∀ coordinator, DiscardSound (applyDeviceSync client coordinator digest r h).2) :=
  ⟨fun c => applyWrite_discardSound (SdcObjectTransaction.gated client digest) _ c r h,
    fun c => applyWrite_discardSound (SdcFirewallTransaction.gated client digest) _ c r h,
    fun c => applyWrite_discardSound (SdcNatTransaction.gated client digest) _ c r h,
    fun c => applyWrite_discardSound (SdcLicenseTransaction.gated client digest) _ c r h,
    fun c => applyWrite_discardSound (SdcDeviceSyncTransaction.gated client digest) _ c r h⟩

/-- **Discarding is complete exactly for releasable operations.** -/
theorem apply_none_stranded_iff (client : SdcClient) (digest : String) (r : Env)
    (h : List Event) :
    (∀ coordinator,
      NoneStranded coordinator (SdcObjectTransaction.stage digest)
          (applyObjectWrite client coordinator digest) r h ↔
        AllReleasable coordinator (SdcObjectTransaction.stage digest)
          (SdcObjectTransaction.targetUnchanged client) (SdcObjectTransaction.request client)
          leavesPlain r h) ∧
    (∀ coordinator,
      NoneStranded coordinator (SdcFirewallTransaction.stage digest)
          (applyFirewallWrite client coordinator digest) r h ↔
        AllReleasable coordinator (SdcFirewallTransaction.stage digest)
          (SdcFirewallTransaction.targetUnchanged client) (SdcFirewallTransaction.request client)
          leavesPlain r h) ∧
    (∀ coordinator,
      NoneStranded coordinator (SdcNatTransaction.stage digest)
          (applyNatWrite client coordinator digest) r h ↔
        AllReleasable coordinator (SdcNatTransaction.stage digest)
          (SdcNatTransaction.targetUnchanged client) (SdcNatTransaction.request client)
          leavesPlain r h) ∧
    (∀ coordinator,
      NoneStranded coordinator (SdcLicenseTransaction.stage digest)
          (applyLicenseWrite client coordinator digest) r h ↔
        AllReleasable coordinator (SdcLicenseTransaction.stage digest)
          (SdcLicenseTransaction.targetUnchanged client) (SdcLicenseTransaction.request client)
          leavesLicense r h) ∧
    (∀ coordinator,
      NoneStranded coordinator (SdcDeviceSyncTransaction.stage digest)
          (applyDeviceSync client coordinator digest) r h ↔
        AllReleasable coordinator (SdcDeviceSyncTransaction.stage digest)
          (SdcDeviceSyncTransaction.targetsUnchanged client)
          (SdcDeviceSyncTransaction.request client) leavesSync r h) :=
  ⟨fun c => applyWrite_noneStranded (SdcObjectTransaction.gated client digest) _ c r h,
    fun c => applyWrite_noneStranded (SdcFirewallTransaction.gated client digest) _ c r h,
    fun c => applyWrite_noneStranded (SdcNatTransaction.gated client digest) _ c r h,
    fun c => applyWrite_noneStranded (SdcLicenseTransaction.gated client digest) _ c r h,
    fun c => applyWrite_noneStranded (SdcDeviceSyncTransaction.gated client digest) _ c r h⟩

end Kinds

/-! ### A rule without its policy -/

section Stranded

def ruleTables : Tables where
  documents := []
  digests :=
    [(.obj [("action", .str "create_rule"), ("after", .obj [("name", .str "r1")]),
        ("before", .null), ("group_id", .null), ("policy_id", .null), ("rule_id", .null)],
      [192, 107, 234, 243, 141, 192, 154, 114, 238, 197, 0, 210, 25, 67, 166, 62, 47, 140, 2,
        207, 210, 223, 229, 163, 205, 28, 213, 80, 152, 207, 230, 88])]

local instance ruleCrates : Crates := ruleTables.crates

/-- A new rule that does not say of which policy; the envelope is valid. -/
def orphanRule : SdcPreparedNatWrite :=
  let request : Value := ⟨.obj [("name", .str "r1")], by simp⟩
  { operation := "nat_write"
    action := .createRule
    policyId := none
    ruleId := none
    groupId := none
    request := request
    before := Value.null
    planDigest := canonicalDigest
      (SdcPreparedNatWrite.planArtifact .createRule none none none request Value.null) }

/-- A coordinator that never fails by itself. -/
def relayingCoordinator (actions : List α) : Coordinator α where
  flatten := SdcError.display
  changeSet := fun _ => .ok ("op-1", actions)
  apply := fun _ => .relays
  diff := fun _ => .relays
  validate := fun _ => .relays
  commit := fun _ => .relays
  discard := fun _ => .ok ()

def applyRule : Io (ApplyResult NatValidationReport) :=
  applyNatWrite minuteClient (relayingCoordinator [orphanRule]) orphanRule.planDigest

def unansweredEnv : Env := Env.answering fun _ => .unanswered .timedOut

/-- The application fails before anything is sent, and the operation is left behind. -/
theorem missing_policy_strands :
    Applied (relayingCoordinator [orphanRule]) (SdcNatTransaction.stage orphanRule.planDigest)
        unansweredEnv [] "op-1" orphanRule ∧
      (∃ e, applyRule unansweredEnv [] =
        (.err e, [.markRefused false, .markRefused true, .markRefused false])) ∧
      ¬ NoneStranded (relayingCoordinator [orphanRule])
        (SdcNatTransaction.stage orphanRule.planDigest) applyRule unansweredEnv [] := by
  have hstaged : SdcNatTransaction.stage orphanRule.planDigest [orphanRule] = .ok orphanRule :=
    stageOne_ok.mpr ⟨rfl, by decide +kernel, by decide +kernel⟩
  have happlied : Applied (relayingCoordinator [orphanRule])
      (SdcNatTransaction.stage orphanRule.planDigest) unansweredEnv [] "op-1" orphanRule :=
    applied_of_staged rfl rfl hstaged
  have hstuck : ∃ e, applyStaged natTexts (relayingCoordinator [orphanRule])
      (sdcNatTransaction minuteClient orphanRule.planDigest) "op-1" orphanRule unansweredEnv
      [.markRefused false] = (.err e, [.markRefused true, .markRefused false]) := ⟨_, rfl⟩
  have hrun : ∃ e, applyRule unansweredEnv [] =
      (.err e, [.markRefused false, .markRefused true, .markRefused false]) := by
    obtain ⟨e, hstuck⟩ := hstuck
    refine ⟨e, ?_⟩
    rcases applyWrite_cases natTexts (relayingCoordinator [orphanRule])
      (sdcNatTransaction minuteClient orphanRule.planDigest) unansweredEnv [] with
      ⟨hnone, -⟩ | ⟨op, staged, hother, heq⟩
    · exact absurd happlied (hnone _ _)
    · have := happlied.symm.trans hother
      cases this
      exact heq.trans (by rw [List.nil_append, hstuck])
  refine ⟨happlied, hrun, fun hnone => ?_⟩
  obtain ⟨e, hrun⟩ := hrun
  have hsilent : ∀ event ∈ (applyRule unansweredEnv []).2, event.mutates = false := by
    rw [hrun]
    simp [Event.mutates]
  have hdiscard := hnone "op-1" orphanRule happlied e (by rw [hrun]) hsilent
  rw [hrun] at hdiscard
  simp at hdiscard

end Stranded

end SdcMcp
