/-
The pages that license planning asks for.

A write of this family is planned against, and re-checked against, a page of one
hundred items.  The page is checked twice: where it is made, against one hundred, and
in the client, against the page size the operator configured.  Nothing else on the way
to an answer can fail with a page-size error, so the family works exactly under the
configurations that allow a hundred items.
-/
import SdcMcp.Model.Config
import SdcMcp.Model.Prepare
import SdcMcp.Proofs.Commit
import SdcMcp.Proofs.Scripted

namespace SdcMcp

open Interactive

variable {α β : Type}

/-! ### Where a page-size error can come from -/

def SdcError.isPageSize : SdcError → Bool
  | .list _ => true
  | _ => false

theorem classifyReqwest_isPageSize (error : ReqwestError) :
    (classifyReqwest error).isPageSize = false := by
  unfold classifyReqwest
  split
  · rfl
  · split
    · rfl
    · split <;> rfl

/-- However the world behaves, a run of `x` does not end in a page-size error. -/
def PagesFit (x : Io α) : Prop := x.Ensures fun _ o => ∀ e, o = .err e → e.isPageSize = false

theorem pagesFit_bind {x : Io α} {f : α → Io β} (hx : PagesFit x) (hf : ∀ a, PagesFit (f a)) :
    PagesFit (x >>= f) :=
  Run.ensures_bind hx (fun _ a _ => hf a) (fun _ _ h e he => by cases he; exact h _ rfl)
    fun _ _ e he => by cases he

theorem pagesFit_lift {x : Except SdcError α} (hx : ∀ e, x = .error e → e.isPageSize = false) :
    PagesFit (Run.lift x) :=
  Run.ensures_lift (fun _ _ e he => by cases he) fun e he e' he' => by
    cases he'
    exact hx e he

theorem pagesFit_pure (a : α) : PagesFit (return a) :=
  Run.ensures_pure fun e he => by cases he

theorem validateAtoms_isPageSize {atoms : List (String × String)} {e : SdcError}
    (h : validateAtoms atoms = .error e) : e.isPageSize = false := by
  obtain ⟨atom, -, hatom⟩ := Except.forM_eq_error h
  unfold validateAtom at hatom
  split at hatom
  · cases hatom
  · cases hatom
    rfl

theorem readChunks_isPageSize {limit : Nat} {ending : BodyEnd} (chunks : List (List UInt8)) :
    ∀ {body : List UInt8} {e : SdcError}, readChunks limit body chunks ending = .ok (.error e) →
      e.isPageSize = false := by
  induction chunks with
  | nil =>
      intro body e h
      cases ending with
      | complete => cases h
      | failed error =>
          cases h
          exact classifyReqwest_isPageSize error
      | interrupted why => cases h
  | cons chunk rest ih =>
      intro body e h
      unfold readChunks at h
      split at h
      · cases h
        rfl
      · exact ih h

theorem readBody_isPageSize {limit : Nat} {answer : Answer} {e : SdcError}
    (h : readBody limit answer = .ok (.error e)) : e.isPageSize = false := by
  unfold readBody at h
  split at h
  · cases h
    rfl
  · exact readChunks_isPageSize answer.chunks h

theorem interrupted_isPageSize {why : Interrupt} {e : SdcError}
    (h : (interrupted why : Outcome SdcError α) = .err e) : e.isPageSize = false := by
  cases why <;> cases h <;> rfl

section Reads

variable [Crates]

theorem classifyApiError_isPageSize (status : Nat) (body : List UInt8) :
    (classifyApiError status body).isPageSize = false := by
  unfold classifyApiError
  split <;> rfl

theorem judgeRead_isPageSize {decode : Json → Option α}
    {parts : Nat × Except SdcError (List UInt8)} {e : SdcError}
    (hbody : ∀ e, parts.2 = .error e → e.isPageSize = false)
    (h : (judgeRaw parts >>= parse decode) = .error e) : e.isPageSize = false := by
  obtain ⟨status, body⟩ := parts
  rcases Except.bind_eq_error_iff.mp h with hraw | ⟨raw, -, hparse⟩
  · cases body with
    | error e' =>
        cases hraw
        exact hbody e rfl
    | ok raw =>
        simp only [judgeRaw] at hraw
        split at hraw
        · cases hraw
        · cases hraw
          exact classifyApiError_isPageSize status raw
  · unfold parse at hparse
    split at hparse
    · cases hparse
    · cases hparse
      rfl

/-- No exchange comes to a page-size error. -/
theorem readVerdict_isPageSize {client : SdcClient} {decode : Json → Option α} {x : Exchange}
    {e : SdcError} (h : readVerdict client decode x = .err e) : e.isPageSize = false := by
  cases x with
  | unsent why => cases why <;> cases h <;> rfl
  | sendError error =>
      cases h
      exact classifyReqwest_isPageSize error
  | unanswered why => cases why <;> cases h <;> rfl
  | answered answer =>
      unfold readVerdict at h
      cases hbody : readBody client.maxResponseBytes answer with
      | error why =>
          rw [verdict_interrupted hbody] at h
          exact interrupted_isPageSize h
      | ok body =>
          rw [verdict_answered hbody] at h
          cases hjudge : judgeRaw (answer.status, body) >>= parse decode with
          | ok a =>
              rw [hjudge] at h
              cases h
          | error e' =>
              rw [hjudge] at h
              cases h
              refine judgeRead_isPageSize ?_ hjudge
              rintro e' rfl
              exact readBody_isPageSize hbody

theorem get_pagesFit (client : SdcClient) (race : Option Nat) (decode : Json → Option α)
    (segments : List String) (query : List (String × String)) :
    PagesFit (get client race decode segments query) := by
  intro r h e he
  cases hcheck : checkRequest client ⟨.get, segments, query, none⟩ with
  | error e' =>
      rw [get_refused hcheck] at he
      cases he
      unfold checkRequest at hcheck
      split at hcheck
      · cases hcheck
        rfl
      · split at hcheck
        · cases hcheck
        · cases hcheck
          rfl
  | ok u =>
      have hread : Reading (readVerdict client decode) (Retries client)
          ⟨.get, segments, query, none⟩ (get client race decode segments query r h).2
          (get client race decode segments query r h).1 := get_reading hcheck r h
      obtain ⟨before, last, -, -, hlast⟩ := hread
      rw [he] at hlast
      generalize ho : (Outcome.err e : Outcome SdcError α) = o at hlast
      cases hlast with
      | answer a => exact readVerdict_isPageSize ho.symm
      | abandoned ms =>
          cases ho
          rfl
      | expired ms =>
          cases ho
          rfl
      | cancelled ms =>
          cases ho
          rfl
      | dropped ms => cases ho

/-! ### The pages of license planning -/

omit [Crates] in
/-- The page is made before the client sees it. -/
theorem firstPage_eq (list : ListRequest → Io Value) :
    SdcLicenseTransaction.firstPage list = list ⟨0, 100⟩ := by
  funext r h
  exact Run.lift_ok_bind _ _ r h

omit [Crates] in
/-- A page of a hundred items is admitted by a client that allows a hundred. -/
theorem hundred_admitted_iff {maxSize : Nat} :
    ListRequest.new 0 100 maxSize = .ok ⟨0, 100⟩ ↔ 100 ≤ maxSize := by
  unfold ListRequest.new
  by_cases h : maxSize = 0 ∨ 100 = 0 ∨ maxSize < 100
  · rw [if_pos h]
    refine iff_of_false nofun ?_
    omega
  · rw [if_neg h]
    refine iff_of_true rfl ?_
    omega

omit [Crates] in
theorem hundred_refused {maxSize : Nat} (h : maxSize < 100) :
    ListRequest.new 0 100 maxSize = .error ⟨maxSize⟩ := by
  unfold ListRequest.new
  rw [if_pos (by omega)]

/-- A read of a collection of the device, through a client that allows a hundred items. -/
theorem listCall_pagesFit {client : SdcClient} (hsize : 100 ≤ client.maxPageSize)
    (atoms : List (String × String)) (segments : List String) :
    PagesFit (listCall client atoms segments ⟨0, 100⟩) := by
  refine pagesFit_bind (pagesFit_lift fun e => validateAtoms_isPageSize) fun _ => ?_
  refine pagesFit_bind (pagesFit_lift ?_) fun page => get_pagesFit _ _ _ _ _
  rw [hundred_admitted_iff.mpr hsize]
  exact nofun

/-- A read of a collection of the device, through a client that does not. -/
theorem listCall_page_refused {client : SdcClient} (hsize : client.maxPageSize < 100)
    {atoms : List (String × String)} (hatoms : validateAtoms atoms = .ok ())
    (segments : List String) (r : Env) (h : List Event) :
    listCall client atoms segments ⟨0, 100⟩ r h = (.err (.list ⟨client.maxPageSize⟩), []) := by
  unfold listCall list
  rw [hatoms, Run.lift_ok_bind, hundred_refused hsize]
  exact Run.lift_error_bind _ _ r h

theorem licenseState_pagesFit {client : SdcClient} (hsize : 100 ≤ client.maxPageSize)
    (action : LicenseWriteOperation) (deviceUuid : String) :
    PagesFit (licenseState client action deviceUuid) := by
  unfold licenseState
  cases action with
  | installLicense =>
      simp only [firstPage_eq]
      exact listCall_pagesFit hsize _ _
  | installCaCertificate =>
      simp only [firstPage_eq]
      exact listCall_pagesFit hsize _ _
  | installLocalCertificate =>
      simp only [firstPage_eq]
      exact listCall_pagesFit hsize _ _
  | deleteCertificate =>
      simp only [firstPage_eq]
      exact pagesFit_bind (listCall_pagesFit hsize _ _) fun _ =>
        pagesFit_bind (listCall_pagesFit hsize _ _) fun _ => pagesFit_pure _

/-- Every kind of write starts with a page, and the first page is refused. -/
theorem licenseState_page_refused {client : SdcClient} (hsize : client.maxPageSize < 100)
    (action : LicenseWriteOperation) {deviceUuid : String}
    (hatom : validateAtoms [("device_uuid", deviceUuid)] = .ok ()) (r : Env) (h : List Event) :
    licenseState client action deviceUuid r h = (.err (.list ⟨client.maxPageSize⟩), []) := by
  unfold licenseState
  cases action with
  | installLicense =>
      simp only [firstPage_eq]
      exact listCall_page_refused hsize hatom _ r h
  | installCaCertificate =>
      simp only [firstPage_eq]
      exact listCall_page_refused hsize hatom _ r h
  | installLocalCertificate =>
      simp only [firstPage_eq]
      exact listCall_page_refused hsize hatom _ r h
  | deleteCertificate =>
      simp only [firstPage_eq]
      exact Run.bind_err (listCall_page_refused hsize hatom _ r h)

/-! ### Planning and re-checking -/

omit [Crates] in
/-- What the coordinator answers is no page-size error. -/
theorem askChangeSet_pagesFit (answer : List Event → Except String ChangeSetOutput) :
    PagesFit (do
      let changeSet ← Run.ask fun _ history => answer history
      Run.lift (changeSet.mapError .changeControl)) := by
  intro r h e he
  rw [Run.ask_bind, Run.lift_apply] at he
  cases hanswer : answer h with
  | ok changeSet =>
      rw [hanswer] at he
      cases he
  | error text =>
      rw [hanswer] at he
      cases he
      rfl

omit [Crates] in
theorem waiveIfLabMode_pagesFit (sets : ChangeSets) (changeSet : ChangeSetOutput)
    (owner : String) : PagesFit (sets.waiveIfLabMode changeSet owner) := by
  unfold ChangeSets.waiveIfLabMode
  split
  · exact pagesFit_pure changeSet
  · exact askChangeSet_pagesFit _

theorem SdcPreparedLicenseWrite.new_isPageSize {action : LicenseWriteOperation}
    {deviceUuid : String} {request before : Value} {e : SdcError}
    (h : SdcPreparedLicenseWrite.new action deviceUuid request before = .error e) :
    e.isPageSize = false := by
  unfold SdcPreparedLicenseWrite.new at h
  rcases Except.bind_eq_error_iff.mp h with hvalid | ⟨-, -, hpure⟩
  · unfold SdcPreparedLicenseWrite.validate at hvalid
    repeat' split at hvalid
    all_goals cases hvalid
    all_goals rfl
  · cases hpure

/-- Neither planning a write of this kind nor re-checking one can fail over its page. -/
structure PagesAdmitted (client : SdcClient) (action : LicenseWriteOperation) : Prop where
  prepare : ∀ sets owner deviceUuid request,
    PagesFit (prepareLicenseWrite client sets owner action deviceUuid request)
  recheck : ∀ staged : SdcPreparedLicenseWrite, staged.action = action →
    PagesFit (SdcLicenseTransaction.targetUnchanged client staged)

theorem pagesAdmitted_of_hundred {client : SdcClient} (hsize : 100 ≤ client.maxPageSize)
    (action : LicenseWriteOperation) : PagesAdmitted client action where
  prepare := by
    intro sets owner deviceUuid request
    refine pagesFit_bind (licenseState_pagesFit hsize action deviceUuid) fun before => ?_
    refine pagesFit_bind (pagesFit_lift fun e => SdcPreparedLicenseWrite.new_isPageSize)
      fun prepared => ?_
    exact pagesFit_bind (askChangeSet_pagesFit _) fun changeSet =>
      pagesFit_bind (waiveIfLabMode_pagesFit sets changeSet owner) fun _ => pagesFit_pure _
  recheck := by
    intro staged haction
    unfold SdcLicenseTransaction.targetUnchanged
    rw [SdcLicenseTransaction.current_eq]
    exact pagesFit_bind (licenseState_pagesFit hsize _ _) fun _ => pagesFit_pure _

/-- Under a smaller page size, planning fails before anything is sent. -/
theorem prepareLicenseWrite_page_refused {client : SdcClient} (hsize : client.maxPageSize < 100)
    (sets : ChangeSets) (owner : String) (action : LicenseWriteOperation) {deviceUuid : String}
    (hatom : validateAtoms [("device_uuid", deviceUuid)] = .ok ()) (request : Value) (r : Env)
    (h : List Event) :
    prepareLicenseWrite client sets owner action deviceUuid request r h
      = (.err (.list ⟨client.maxPageSize⟩), []) :=
  Run.bind_err (licenseState_page_refused hsize action hatom r h)

theorem targetUnchanged_page_refused {client : SdcClient} (hsize : client.maxPageSize < 100)
    (staged : SdcPreparedLicenseWrite)
    (hatom : validateAtoms [("device_uuid", staged.deviceUuid)] = .ok ()) (r : Env)
    (h : List Event) :
    SdcLicenseTransaction.targetUnchanged client staged r h
      = (.err (.list ⟨client.maxPageSize⟩), []) := by
  unfold SdcLicenseTransaction.targetUnchanged
  rw [SdcLicenseTransaction.current_eq]
  exact Run.bind_err (licenseState_page_refused hsize staged.action hatom r h)

/-- **License planning works under the configurations that allow a page of a hundred items**,
and under no others. -/
theorem license_pages_admitted_iff [UrlCrate] [HttpCrate] {config : SdcConfig}
    {credential : String} {client : SdcClient}
    (hclient : SdcClient.new config credential = .ok client)
    (action : LicenseWriteOperation) :
    PagesAdmitted client action ↔ 100 ≤ config.maxPageSize.toNat := by
  rw [← (SdcClient.new_ok hclient).2.2]
  constructor
  · intro hpages
    by_contra hsmall
    have hatom : validateAtoms [("device_uuid", "dev-1")] = .ok () := by decide
    have hrun := targetUnchanged_page_refused (Nat.lt_of_not_le hsmall)
      ⟨"license_write", action, "dev-1", Value.null, Value.null, ""⟩ hatom
      (Env.answering fun _ => .unsent .cancelled) []
    have hfit := hpages.recheck ⟨"license_write", action, "dev-1", Value.null, Value.null, ""⟩ rfl
      (Env.answering fun _ => .unsent .cancelled) []
    rw [hrun] at hfit
    have hno := hfit _ rfl
    cases hno
  · intro hsize
    exact pagesAdmitted_of_hundred hsize action

end Reads

/-! ### A tenant with pages of fifty -/

section SmallPages

/-- A parser that knows one address. -/
local instance serviceUrls : UrlCrate where
  parse := fun raw =>
    if raw = "https://api.sdcloud.juniperclouds.net/" then some serviceUrl else none

local instance pageHttp : HttpCrate := plainHttp

local instance pageCrates : Crates := (⟨[], []⟩ : Tables).crates

/-- A page size of fifty is accepted, and then no write of the family can be planned. -/
theorem small_page_not_admitted : (defaultConfig 50).validate = .ok () ∧
    SdcClient.new (defaultConfig 50) "token" = .ok (defaultClient 50) ∧
    ∀ action, ¬ PagesAdmitted (defaultClient 50) action := by
  refine ⟨by rfl, by rfl, ?_⟩
  intro action hpages
  have hatom : validateAtoms [("device_uuid", "dev-1")] = .ok () := by decide
  have hsmall : (defaultClient 50).maxPageSize < 100 := by decide
  have hrun := prepareLicenseWrite_page_refused hsmall
    ⟨"tenant-a", false, fun _ _ _ _ _ => .error "", fun _ _ _ _ _ => .error ""⟩ "alice" action
    hatom Value.null (Env.answering fun _ => .unsent .cancelled) []
  have hfit := hpages.prepare
    ⟨"tenant-a", false, fun _ _ _ _ _ => .error "", fun _ _ _ _ _ => .error ""⟩ "alice" "dev-1"
    Value.null (Env.answering fun _ => .unsent .cancelled) []
  rw [hrun] at hfit
  have hno := hfit _ rfl
  cases hno

/-- The default configuration allows two hundred items. -/
theorem default_pages_admitted : SdcClient.new (defaultConfig 200) "token"
      = .ok (defaultClient 200) ∧
    (PagesAdmitted (defaultClient 200) .deleteCertificate ↔
      100 ≤ (defaultConfig 200).maxPageSize.toNat) :=
  have hclient : SdcClient.new (defaultConfig 200) "token" = .ok (defaultClient 200) := by rfl
  ⟨hclient, license_pages_admitted_iff hclient .deleteCertificate⟩

end SmallPages

end SdcMcp
