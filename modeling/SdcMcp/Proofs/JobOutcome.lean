/-
What a commit that waits for a job says about it.

A license or certificate commit and a deploy commit have one run: a `POST` that
names a job, then a poll of the job.  `startAndPoll` is that run.  The disposition
is honest if it is a failure only when SDC refused the `POST` or never saw it, and
if it is reconciled only with a terminal state that was observed.

The second half always holds.  The first holds exactly when every `POST` that went
out was resolved: the caller left while it was answered, or the poll ended with a
terminal state, or one of the two ended in an error that the commit leaves open.
The license commit leaves no error open; the deploy commit leaves two.
-/
import SdcMcp.Model.Deploy
import SdcMcp.Proofs.WriteOutcome

namespace SdcMcp

open Interactive

variable {α β γ : Type}

/-! ### Status reads -/

namespace JobKind

def idField : JobKind → String
  | .preview => "preview_id"
  | .deploy => "deploy_id"
  | _ => "job_id"

/-- The path a job of this kind is read under. -/
def statusPath : JobKind → List String
  | .preview => ["api", "v1", "policies", "preview"]
  | .deploy => ["api", "v1", "policies", "deploy"]
  | .installLicense => ["api", "v1", "devices", "install_license"]
  | .installCaCertificate => ["api", "v1", "devices", "install_ca_certificate"]
  | .installLocalCertificate => ["api", "v1", "devices", "install_local_certificate"]
  | .deleteCertificate => ["api", "v1", "devices", "delete_certificate"]

def statusRequest (kind : JobKind) (jobId : String) : Request :=
  ⟨.get, kind.statusPath ++ [jobId], [], none⟩

end JobKind

variable [Crates]

theorem jobStatus_eq (client : SdcClient) (kind : JobKind) (race : Option Nat) (jobId : String) :
    jobStatus client kind race jobId =
      readCall client race JobStatus.decode [(kind.idField, jobId)] (kind.statusPath ++ [jobId])
        [] := by
  cases kind <;> rfl

/-- The poll of an item is refused locally, or it is a run of reads of the item. -/
theorem poll_readCall (client : SdcClient) (decode : Json → Option α) (isTerminal : α → Bool)
    (atoms : List (String × String)) (segments : List String) (r : Env) (h : List Event) :
    (∃ e, LocalRefusal e ∧
      poll client (fun race => readCall client race decode atoms segments []) isTerminal r h
        = (.err e, [])) ∨
    Polling client decode isTerminal ⟨.get, segments, [], none⟩
      (poll client (fun race => readCall client race decode atoms segments []) isTerminal r h).2
      (poll client (fun race => readCall client race decode atoms segments []) isTerminal
        r h).1 := by
  cases hadmits : readAdmits client atoms ⟨.get, segments, [], none⟩ with
  | error e =>
      refine Or.inl ⟨e, readAdmits_error hadmits, ?_⟩
      exact poll_refused (fun race r h => readCall_refused hadmits r h) r h
  | ok u => exact Or.inr (polling_poll (fun race r h => readCall_reading hadmits r h) r h)

theorem pollJob_cases (client : SdcClient) (kind : JobKind) (jobId : String) (r : Env)
    (h : List Event) :
    (∃ e, LocalRefusal e ∧ pollJob client kind jobId r h = (.err e, [])) ∨
    Polling client JobStatus.decode (fun s => s.status.isTerminal) (kind.statusRequest jobId)
      (pollJob client kind jobId r h).2 (pollJob client kind jobId r h).1 := by
  have hprobe : (fun race => jobStatus client kind race jobId) = fun race =>
      readCall client race JobStatus.decode [(kind.idField, jobId)] (kind.statusPath ++ [jobId])
        [] :=
    funext fun race => jobStatus_eq client kind race jobId
  unfold pollJob
  rw [hprobe]
  exact poll_readCall client _ _ _ _ r h

section Polling

variable {client : SdcClient} {decode : Json → Option α} {isTerminal : α → Bool}
  {request : Request} {t : List Event} {o : Outcome SdcError α}

/-- What a poll returns was the answer to one of its reads. -/
theorem Polling.observed {s : α} (hp : Polling client decode isTerminal request t (.ok s)) :
    ∃ a, .attempt request a ∈ t ∧ readVerdict client decode a.exchange = .ok s ∧
      isTerminal s = true := by
  obtain ⟨a, hmem, hanswer⟩ := hp.reading.answered
  exact ⟨a, hmem, hanswer, hp.terminal s rfl⟩

theorem Polling.reads (hget : request.mutating = false)
    (hp : Polling client decode isTerminal request t o) : Reads t :=
  hp.reading.isRead hget

end Polling

/-- What a poll of a job returns was the answer to one of its reads. -/
theorem pollJob_observed {client : SdcClient} {kind : JobKind} {jobId : String} {r : Env}
    {h t : List Event} {s : JobStatus} (hrun : pollJob client kind jobId r h = (.ok s, t)) :
    ∃ a, .attempt (kind.statusRequest jobId) a ∈ t ∧
      readVerdict client JobStatus.decode a.exchange = .ok s := by
  rcases pollJob_cases client kind jobId r h with ⟨e, -, hrefused⟩ | hpoll
  · rw [hrefused] at hrun
    cases hrun
  · rw [hrun] at hpoll
    obtain ⟨a, hmem, hverdict, -⟩ := hpoll.observed
    exact ⟨a, hmem, hverdict⟩

/-! ### How a poll ends -/

/-- A last event of a poll after which the job is decided, the caller gone, or the error one
that is left open. -/
def Closes (client : SdcClient) (leftOpen : SdcError → Bool) : Event → Prop
  | .attempt _ a =>
      (∃ s, readVerdict client JobStatus.decode a.exchange = .ok s ∧ s.status.isTerminal = true) ∨
        readVerdict client JobStatus.decode a.exchange = .dropped ∨
        ∃ e, readVerdict client JobStatus.decode a.exchange = .err e ∧ leftOpen e = true
  | .abandoned _ _ => leftOpen .jobDeadline = true
  | .paused _ .expired => leftOpen .jobDeadline = true
  | .paused _ .cancelled => leftOpen .cancelled = true
  | .paused _ .dropped => True
  | _ => False

theorem Polling.closes_iff {client : SdcClient} {request : Request} {t : List Event}
    {o : Outcome SdcError JobStatus} (leftOpen : SdcError → Bool)
    (hp : Polling client JobStatus.decode (fun s => s.status.isTerminal) request t o) :
    (∀ e, o = .err e → leftOpen e = true) ↔
      ∃ t' last, t = t' ++ [last] ∧ Closes client leftOpen last := by
  obtain ⟨⟨before, last, rfl, -, hlast⟩, hterminal⟩ := hp
  have hone : (∃ t' last', before ++ [last] = t' ++ [last'] ∧ Closes client leftOpen last') ↔
      Closes client leftOpen last := by
    constructor
    · rintro ⟨t', last', heq, hcloses⟩
      have := List.append_inj_right' heq rfl
      rw [List.cons.injEq] at this
      rw [this.1]
      exact hcloses
    · intro hcloses
      exact ⟨before, last, rfl, hcloses⟩
  rw [hone]
  cases hlast with
  | answer a =>
      constructor
      · intro hopen
        show _ ∨ _ ∨ _
        cases hv : readVerdict client JobStatus.decode a.exchange with
        | ok s => exact Or.inl ⟨s, rfl, hterminal s hv⟩
        | err e => exact Or.inr (Or.inr ⟨e, rfl, hopen e hv⟩)
        | dropped => exact Or.inr (Or.inl rfl)
      · rintro hcloses e he
        rcases hcloses with ⟨s, hs, -⟩ | hd | ⟨e', he', hopen⟩
        · rw [hs] at he
          cases he
        · rw [hd] at he
          cases he
        · rw [he'] at he
          cases he
          exact hopen
  | abandoned ms =>
      exact ⟨fun hopen => hopen _ rfl, fun hcloses e he => by cases he; exact hcloses⟩
  | expired ms =>
      exact ⟨fun hopen => hopen _ rfl, fun hcloses e he => by cases he; exact hcloses⟩
  | cancelled ms =>
      exact ⟨fun hopen => hopen _ rfl, fun hcloses e he => by cases he; exact hcloses⟩
  | dropped ms => exact ⟨fun _ => trivial, fun _ e he => by cases he⟩

/-! ### Starting a job and waiting for it -/

/-- The run that license, certificate and deploy commits have in common. -/
def startAndPoll (client : SdcClient) (kind : JobKind) (start : Io β)
    (name : β → Except SdcError String) (finish : String → JobStatus → γ) : Io γ := do
  let response ← start
  let jobId ← Run.lift (name response)
  let status ← pollJob client kind jobId
  return finish jobId status

/-- A `POST` whose run did not end in an error, or in one that is left open. -/
def Resolves (client : SdcClient) (leftOpen : SdcError → Bool) (started : Outcome SdcError β)
    (after : List Event) : Prop :=
  started = .dropped ∨ (∃ e, started = .err e ∧ leftOpen e = true) ∨
    ∃ before last, after = before ++ [last] ∧ Closes client leftOpen last

/-- What is known of a run after its `POST`. -/
structure Started (client : SdcClient) (kind : JobKind) (leftOpen : SdcError → Bool)
    (finish : String → JobStatus → γ) (started : Outcome SdcError β) (after : List Event)
    (o : Outcome SdcError γ) : Prop where
  reads : Reads after
  resolves : (∀ e, o = .err e → leftOpen e = true) ↔ Resolves client leftOpen started after
  observed : ∀ c, o = .ok c → ∃ jobId s a, c = finish jobId s ∧
    .attempt (kind.statusRequest jobId) a ∈ after ∧
    readVerdict client JobStatus.decode a.exchange = .ok s ∧ s.status.isTerminal = true

section Start

variable {client : SdcClient} {kind : JobKind} {start : Io β} {name : β → Except SdcError String}
  {finish : String → JobStatus → γ} {leftOpen : SdcError → Bool} {r : Env} {h : List Event}
  {event : Event}

private theorem not_resolves_nil {started : Outcome SdcError β}
    (hdrop : started ≠ .dropped) (herr : ∀ e, started = .err e → leftOpen e = false) :
    ¬ Resolves client leftOpen started [] := by
  rintro (hd | ⟨e, he, hopen⟩ | ⟨before, last, hnil, -⟩)
  · exact hdrop hd
  · rw [herr e he] at hopen
    cases hopen
  · simp at hnil

/-- A run that ends in an error with nothing after its `POST`. -/
private theorem started_failed {started : Outcome SdcError β} {e : SdcError}
    (hdrop : started ≠ .dropped) (herr : ∀ e', started = .err e' → e' = e)
    (hopen : (∃ e', started = .err e') ∨ leftOpen e = false) :
    Started client kind leftOpen finish started [] (.err e : Outcome SdcError γ) where
  reads := reads_nil
  resolves := by
    cases hleft : leftOpen e with
    | false =>
        refine iff_of_false (fun hall => ?_) (not_resolves_nil hdrop fun e' he' => ?_)
        · have := hall e rfl
          rw [hleft] at this
          cases this
        · rw [herr e' he']
          exact hleft
    | true =>
        obtain ⟨e', he'⟩ := hopen.resolve_right (by rw [hleft]; decide)
        refine iff_of_true (fun e'' hc => ?_) (Or.inr (Or.inl ⟨e', he', ?_⟩))
        · cases hc
          exact hleft
        · rw [herr e' he']
          exact hleft
  observed := by
    intro c hc
    cases hc

private theorem resolves_ok {b : β} {t : List Event} :
    Resolves client leftOpen (.ok b : Outcome SdcError β) t ↔
      ∃ t' last, t = t' ++ [last] ∧ Closes client leftOpen last := by
  constructor
  · rintro (hd | ⟨e, he, -⟩ | hlast)
    · cases hd
    · cases he
    · exact hlast
  · exact fun hlast => Or.inr (Or.inr hlast)

/-- A run whose `POST` named a job: the poll of the job decides. -/
private theorem started_polled {b : β} {jobId : String} {t : List Event}
    {o : Outcome SdcError JobStatus}
    (hpoll : Polling client JobStatus.decode (fun s => s.status.isTerminal)
      (kind.statusRequest jobId) t o) :
    Started client kind leftOpen finish (.ok b : Outcome SdcError β) t
      (o.bimap id (finish jobId)) where
  reads := hpoll.reads rfl
  resolves := by
    rw [resolves_ok, ← hpoll.closes_iff leftOpen]
    cases o with
    | ok s => exact iff_of_true nofun nofun
    | err e =>
        constructor
        · intro hall e' he'
          cases he'
          exact hall e rfl
        · intro hall e' he'
          cases he'
          exact hall e rfl
    | dropped => exact iff_of_true nofun nofun
  observed := by
    intro c hc
    cases o with
    | ok s =>
        cases hc
        obtain ⟨a, hm, hv, hterm⟩ := hpoll.observed
        exact ⟨jobId, s, a, rfl, hm, hv, hterm⟩
    | err e => cases hc
    | dropped => cases hc

/-- **Start and poll.**  All that follows the `POST` is reads, the run ends in an error that
is not left open exactly when the `POST` does not resolve, and what it returns was observed. -/
theorem startAndPoll_started (kind : JobKind) (finish : String → JobStatus → γ)
    (leftOpen : SdcError → Bool) (hlocal : ∀ e, LocalRefusal e → leftOpen e = false)
    (hname : ∀ b e, name b = .error e → LocalRefusal e) {started : Outcome SdcError β}
    (hstart : start r h = (started, [event])) :
    ∃ after, (startAndPoll client kind start name finish r h).2 = event :: after ∧
      Started client kind leftOpen finish started after
        (startAndPoll client kind start name finish r h).1 := by
  unfold startAndPoll
  cases started with
  | err e =>
      rw [Run.bind_err hstart]
      exact ⟨[], rfl, started_failed (by simp) (by rintro e' ⟨⟩; rfl) (Or.inl ⟨e, rfl⟩)⟩
  | dropped =>
      rw [Run.bind_dropped hstart]
      refine ⟨[], rfl, reads_nil, ?_, (by intro c hc; cases hc)⟩
      exact iff_of_true (by intro e hc; cases hc) (Or.inl rfl)
  | ok b =>
      rw [Run.bind_ok hstart]
      cases hb : name b with
      | error e =>
          rw [Run.lift_error_bind]
          exact ⟨[], rfl, started_failed (by simp) (by intro e' hc; cases hc)
            (Or.inr (hlocal e (hname b e hb)))⟩
      | ok jobId =>
          rw [Run.lift_ok_bind, Run.bind_pure_eq]
          rcases pollJob_cases client kind jobId r (h ++ [event]) with ⟨e, he, heq⟩ | hpoll
          · rw [heq]
            exact ⟨[], rfl, started_failed (by simp) (by intro e' hc; cases hc)
              (Or.inr (hlocal e he))⟩
          · exact ⟨_, rfl, started_polled hpoll⟩

end Start

/-! ### Honest dispositions -/

/-- The disposition of a commit that waits for a job: it fails only if SDC refused the `POST`
or never saw it, and it is reconciled only with a terminal state that was observed. -/
structure JobHonest (client : SdcClient) (kind : JobKind) (t : List Event)
    (o : Outcome SdcError CommitOutcome) : Prop where
  failed : ∀ e, o = .err e → ∀ q a, .attempt q a ∈ t → q.mutating = true →
    a.exchange.handed = true → a.exchange.refused = true
  reconciled : ∀ succeeded jobId details, o = .ok (.reconciled succeeded jobId details) →
    ∃ id a s, jobId = some id ∧ .attempt (kind.statusRequest id) a ∈ t ∧
      readVerdict client JobStatus.decode a.exchange = .ok s ∧ s.status.isTerminal = true ∧
      (succeeded = true ↔ s.status = .completed)

/-- Every mutating request that went out and was not refused is resolved by what came after. -/
def Resolved (client : SdcClient) (leftOpen : SdcError → Bool)
    (verdict : Exchange → Outcome SdcError β) (t : List Event) : Prop :=
  ∀ before q a after, t = before ++ .attempt q a :: after → q.mutating = true →
    a.exchange.handed = true → a.exchange.refused = false →
    Resolves client leftOpen (verdict a.exchange) after

/-- A run that sent nothing and returned nothing. -/
theorem jobHonest_quiet {client : SdcClient} {kind : JobKind}
    {leftOpen : SdcError → Bool} {verdict : Exchange → Outcome SdcError β} {t : List Event}
    {o : Outcome SdcError CommitOutcome} (hquiet : Quiet t) (hnone : ∀ out, o ≠ .ok out) :
    JobHonest client kind t o ↔ Resolved client leftOpen verdict t := by
  refine iff_of_true ⟨?_, ?_⟩ ?_
  · intro e _ q a hm hq
    exact absurd hq (hquiet.not_mutating hm)
  · intro succeeded jobId details hc
    exact absurd hc (hnone _)
  · intro before q a after ht hq
    have hm : Event.attempt q a ∈ t := by
      rw [ht]
      simp
    exact absurd hq (hquiet.not_mutating hm)

/-- The disposition of a run with one `POST`, from what is known of the run after it. -/
theorem jobHonest_started {client : SdcClient} {kind : JobKind} {leftOpen : SdcError → Bool}
    {finish : String → JobStatus → γ} {verdict : Exchange → Outcome SdcError β}
    {gate after : List Event} {q : Request} {a : Attempt} {o : Outcome SdcError γ}
    {out : Outcome SdcError CommitOutcome} (hgate : Quiet gate) (hmut : q.mutating = true)
    (hstarted : Started client kind leftOpen finish (verdict a.exchange) after o)
    (hfailed : (∀ e, out ≠ .err e) ↔ ∀ e, o = .err e → leftOpen e = true)
    (hreconciled : ∀ succeeded jobId details, out = .ok (.reconciled succeeded jobId details) →
      ∃ c, o = .ok c ∧ ∀ id s, c = finish id s →
        jobId = some id ∧ succeeded = s.status.succeeded) :
    JobHonest client kind (gate ++ .attempt q a :: after) out ↔
      Resolved client leftOpen verdict (gate ++ .attempt q a :: after) := by
  have hsplit : ∀ before q' a' after', gate ++ .attempt q a :: after
      = before ++ .attempt q' a' :: after' → q'.mutating = true → a' = a ∧ after' = after := by
    intro before q' a' after' ht hq'
    have hd : (Event.attempt q' a').dispatches = true := hq'
    obtain ⟨-, heq, hafter⟩ := Quiet.split hgate hstarted.reads.quiet hd ht
    cases heq
    exact ⟨rfl, hafter⟩
  constructor
  · intro hh before q' a' after' ht hq' hhanded hrefused
    obtain ⟨rfl, rfl⟩ := hsplit before q' a' after' ht hq'
    refine hstarted.resolves.mp (hfailed.mp fun e he => ?_)
    have := hh.failed e he q a' (by simp) hmut hhanded
    rw [hrefused] at this
    cases this
  · intro hr
    refine ⟨?_, ?_⟩
    · intro e he q' a' hm hq' hhanded
      by_contra hrefused
      obtain ⟨before, after', ht⟩ := List.append_of_mem hm
      have hresolves := hr before q' a' after' ht hq' hhanded (by simpa using hrefused)
      obtain ⟨rfl, rfl⟩ := hsplit before q' a' after' ht hq'
      exact hfailed.mpr (hstarted.resolves.mpr hresolves) e he
    · intro succeeded jobId details hc
      obtain ⟨c, ho, hfinish⟩ := hreconciled succeeded jobId details hc
      obtain ⟨id, s, a', hcs, hm, hv, hterm⟩ := hstarted.observed c ho
      obtain ⟨hid, hsucc⟩ := hfinish id s hcs
      refine ⟨id, a', s, hid, by simp [hm], hv, hterm, ?_⟩
      rw [hsucc]
      exact DeploymentStatus.succeeded_iff

end SdcMcp
