/-
What an unchanged digest says about the licenses and certificates of a device.

A write is planned against a page of each collection it depends on, and the page is
read again before it is applied.  SDC's collections are lists of any length here, and a
list read gives a slice of one with the number of its items.  How such an answer is
written down is left open, as long as it shows both.

The reads ask for the first hundred items only, so two states are told apart exactly as
long as nothing lies beyond them.
-/
import SdcMcp.Lib.Map
import SdcMcp.Model.Prepare
import SdcMcp.Proofs.Commit
import SdcMcp.Proofs.Plans

namespace SdcMcp

open Interactive

/-! ### The collections of a device -/

inductive Collection where
  | licenses
  | caCertificates
  | localCertificates
  deriving DecidableEq

def Collection.segment : Collection → String
  | .licenses => "licenses"
  | .caCertificates => "ca_certificates"
  | .localCertificates => "local_certificates"

/-- The items that SDC has for a device. -/
abbrev DeviceState := Collection → List Value

/-- The collections that a write is planned against. -/
def LicenseWriteOperation.dependsOn : LicenseWriteOperation → List Collection
  | .installLicense => [.licenses]
  | .installCaCertificate => [.caCertificates]
  | .installLocalCertificate => [.localCertificates]
  | .deleteCertificate => [.caCertificates, .localCertificates]

/-- Equal item for item, each up to the order of its members. -/
def SameList (xs ys : List Value) : Prop := List.Forall₂ Value.Same xs ys

/-- How a page is written down: it shows its items and the size of its collection. -/
structure PageFormat where
  document : List Value → Nat → Value
  shows : ∀ {items items' total total'},
    (document items total).Same (document items' total') → SameList items items' ∧ total = total'

/-- The answer to a list read. -/
def PageFormat.page (format : PageFormat) (items : List Value) (from_ size : Nat) : Value :=
  format.document ((items.drop from_).take size) items.length

def listRequest (device : String) (c : Collection) (from_ size : Nat) : Request :=
  ⟨.get, ["api", "v1", "devices", device, c.segment],
    [("from", toString from_), ("size", toString size)], none⟩

/-- What a write is planned against, as it reads the state of its device. -/
def LicenseWriteOperation.observed (format : PageFormat) (state : DeviceState) :
    LicenseWriteOperation → Value
  | .installLicense => format.page (state .licenses) 0 100
  | .installCaCertificate => format.page (state .caCertificates) 0 100
  | .installLocalCertificate => format.page (state .localCertificates) 0 100
  | .deleteCertificate => SdcLicenseTransaction.certificates
      (format.page (state .caCertificates) 0 100) (format.page (state .localCertificates) 0 100)

private theorem natText_inj {n m : Nat} (h : toString n = toString m) : n = m := by
  have htext := congrArg String.toList h
  rw [Nat.toString_eq_repr, Nat.toString_eq_repr, Nat.toList_repr, Nat.toList_repr] at htext
  rw [← Nat.ofDigitChars_ten_toDigits (n := n), htext, Nat.ofDigitChars_ten_toDigits]

theorem listRequest_inj {device : String} {c c' : Collection} {from_ size from' size' : Nat}
    (h : listRequest device c from_ size = listRequest device c' from' size') :
    c = c' ∧ from_ = from' ∧ size = size' := by
  unfold listRequest at h
  simp only [Request.mk.injEq, List.cons.injEq, Prod.mk.injEq, and_true, true_and] at h
  obtain ⟨hsegment, hfrom, hsize⟩ := h
  refine ⟨?_, natText_inj hfrom, natText_inj hsize⟩
  cases c <;> cases c' <;> simp [Collection.segment] at hsegment ⊢

/-! ### What a page tells -/

theorem SameList.length_eq {xs ys : List Value} (h : SameList xs ys) : xs.length = ys.length :=
  List.Forall₂.length_eq h

/-- Two pages that are the same are of the same collection, if there was nothing beyond the
first of them. -/
theorem PageFormat.page_same {format : PageFormat} {items items' : List Value} {size : Nat}
    (h : (format.page items 0 size).Same (format.page items' 0 size))
    (hall : items.length ≤ size) : SameList items items' := by
  obtain ⟨hitems, htotal⟩ := format.shows h
  rw [List.drop_zero, List.drop_zero, List.take_of_length_le hall,
    List.take_of_length_le (htotal ▸ hall)] at hitems
  exact hitems

/-- A value that is not the same as the given one. -/
private def otherThan (v : Value) : Value :=
  match v.tree with
  | .null => ⟨.bool true, by simp⟩
  | _ => Value.null

private theorem otherThan_not_same (v : Value) : ¬ v.Same (otherThan v) := by
  obtain ⟨tree, hdistinct⟩ := v
  cases tree <;> simp [otherThan, Value.Same, Value.null, Json.Same]

/-- The collection with another item in one place. -/
private def changeAt (items : List Value) (i : Nat) : List Value :=
  items.modify i otherThan

private theorem changeAt_not_same {items : List Value} {i : Nat} (hi : i < items.length) :
    ¬ SameList items (changeAt items i) := by
  intro h
  have hlength : i < (changeAt items i).length := by
    unfold changeAt
    rwa [List.length_modify]
  have hsame := List.Forall₂.get h hi hlength
  simp only [changeAt, List.get_eq_getElem, List.getElem_modify_eq] at hsame
  exact otherThan_not_same _ hsame

/-- A change beyond a page is not on it. -/
private theorem page_changeAt (format : PageFormat) (items : List Value) {size i : Nat}
    (hi : size ≤ i) : format.page (changeAt items i) 0 size = format.page items 0 size := by
  unfold PageFormat.page changeAt
  rw [List.length_modify, List.drop_zero, List.drop_zero, List.take_modify,
    List.modify_eq_self ((List.length_take_le _ _).trans hi)]

section Runs

variable [Crates]

/-! ### The reads -/

/-- Every list read of a run that was answered was answered from the state. -/
def Serves (format : PageFormat) (client : SdcClient) (device : String) (state : DeviceState)
    (t : List Event) : Prop :=
  ∀ c from_ size a v, .attempt (listRequest device c from_ size) a ∈ t →
    readVerdict client decodeValue a.exchange = .ok v → v = format.page (state c) from_ size

theorem Serves.subset {format : PageFormat} {client : SdcClient} {device : String}
    {state : DeviceState} {s t : List Event} (h : Serves format client device state t)
    (hst : ∀ e ∈ s, e ∈ t) : Serves format client device state s :=
  fun c from_ size a v hmem => h c from_ size a v (hst _ hmem)

def Collection.read (c : Collection) (client : SdcClient) (device : String) :
    ListRequest → Io Value :=
  match c with
  | .licenses => listLicenses client device
  | .caCertificates => listDeviceCaCertificates client device
  | .localCertificates => listDeviceLocalCertificates client device

/-- The run of a read of a first page: it was answered, and it read nothing else. -/
theorem firstPage_ok {client : SdcClient} {device : String} {c : Collection} {r : Env}
    {h t : List Event} {v : Value}
    (hrun : SdcLicenseTransaction.firstPage (c.read client device) r h = (.ok v, t)) :
    (∃ a, .attempt (listRequest device c 0 100) a ∈ t ∧
      readVerdict client decodeValue a.exchange = .ok v) ∧
    ∀ q a, .attempt q a ∈ t → q = listRequest device c 0 100 := by
  obtain ⟨page, hpage, hread⟩ := Run.lift_bind_eq_ok hrun
  have hpage' : page = ⟨0, 100⟩ := by
    cases hpage
    rfl
  subst hpage'
  have hcall : listCall client [("device_uuid", device)]
      ["api", "v1", "devices", device, c.segment] ⟨0, 100⟩ r h = (.ok v, t) := by
    cases c <;> exact hread
  obtain ⟨u, -, hlist⟩ := Run.lift_bind_eq_ok hcall
  obtain ⟨page', hbound, hget⟩ := Run.lift_bind_eq_ok hlist
  have hpage' : page' = ⟨0, 100⟩ :=
    (Except.ok.inj (Except.ite_error_eq_ok_iff.mp (Except.mapError_eq_ok_iff.mp hbound)).2).symm
  subst hpage'
  exact get_answered hget

/-- A first page that was served is the page of the state. -/
private theorem firstPage_served {format : PageFormat} {client : SdcClient} {device : String}
    {state : DeviceState} {c : Collection} {r : Env} {h t : List Event} {v : Value}
    (hrun : SdcLicenseTransaction.firstPage (c.read client device) r h = (.ok v, t))
    (hserves : Serves format client device state t) : v = format.page (state c) 0 100 := by
  obtain ⟨⟨a, hmem, hverdict⟩, -⟩ := firstPage_ok hrun
  exact hserves c 0 100 a v hmem hverdict

/-- **What a write is compared with.**  The reads of a write that are served from a state give
what the write observes of it. -/
theorem licenseState_served {format : PageFormat} {client : SdcClient} {device : String}
    {state : DeviceState} {action : LicenseWriteOperation} {r : Env} {h t : List Event} {v : Value}
    (hrun : licenseState client action device r h = (.ok v, t))
    (hserves : Serves format client device state t) : v = action.observed format state := by
  cases action with
  | installLicense => exact firstPage_served (c := .licenses) hrun hserves
  | installCaCertificate => exact firstPage_served (c := .caCertificates) hrun hserves
  | installLocalCertificate => exact firstPage_served (c := .localCertificates) hrun hserves
  | deleteCertificate =>
      obtain ⟨caCerts, t1, t2, hca, hrest, rfl⟩ := Run.bind_eq_ok hrun
      obtain ⟨localCerts, t3, t4, hlocal, hpure, rfl⟩ := Run.bind_eq_ok hrest
      cases hpure
      rw [firstPage_served (c := .caCertificates) hca
          (hserves.subset fun e he => List.mem_append_left _ he),
        firstPage_served (c := .localCertificates) hlocal
          (hserves.subset fun e he => List.mem_append_right _ (List.mem_append_left _ he))]
      rfl

/-- The reads of a write are of the first pages of the collections it depends on. -/
theorem licenseState_requests {client : SdcClient} {device : String}
    {action : LicenseWriteOperation} {r : Env} {h t : List Event} {v : Value}
    (hrun : licenseState client action device r h = (.ok v, t)) {q : Request} {a : Attempt}
    (hmem : .attempt q a ∈ t) : ∃ c, q = listRequest device c 0 100 := by
  cases action with
  | installLicense => exact ⟨.licenses, (firstPage_ok (c := .licenses) hrun).2 q a hmem⟩
  | installCaCertificate =>
      exact ⟨.caCertificates, (firstPage_ok (c := .caCertificates) hrun).2 q a hmem⟩
  | installLocalCertificate =>
      exact ⟨.localCertificates, (firstPage_ok (c := .localCertificates) hrun).2 q a hmem⟩
  | deleteCertificate =>
      obtain ⟨caCerts, t1, t2, hca, hrest, rfl⟩ := Run.bind_eq_ok hrun
      obtain ⟨localCerts, t3, t4, hlocal, hpure, rfl⟩ := Run.bind_eq_ok hrest
      cases hpure
      rw [List.append_nil, List.mem_append] at hmem
      rcases hmem with hmem | hmem
      · exact ⟨.caCertificates, (firstPage_ok (c := .caCertificates) hca).2 q a hmem⟩
      · exact ⟨.localCertificates, (firstPage_ok (c := .localCertificates) hlocal).2 q a hmem⟩

/-- A state with the same first pages serves the reads of a write as well. -/
private theorem serves_of_pages {format : PageFormat} {client : SdcClient} {device : String}
    {state state' : DeviceState} {action : LicenseWriteOperation} {r : Env} {h t : List Event}
    {v : Value} (hrun : licenseState client action device r h = (.ok v, t))
    (hserves : Serves format client device state t)
    (hpages : ∀ c, format.page (state' c) 0 100 = format.page (state c) 0 100) :
    Serves format client device state' t := by
  intro c from_ size a v hmem hverdict
  obtain ⟨c', hrequest⟩ := licenseState_requests hrun hmem
  obtain ⟨-, rfl, rfl⟩ := listRequest_inj hrequest
  rw [hpages]
  exact hserves c 0 100 a v hmem hverdict

/-! ### The check -/

/-- The collections that a write depends on are the same, item for item. -/
def SameCollections (action : LicenseWriteOperation) (before after : DeviceState) : Prop :=
  ∀ c ∈ action.dependsOn, SameList (before c) (after c)

/-- A staged write is accepted on a device that is in the state: its validation succeeds, or its
commit gets to a request that could change something. -/
inductive Accepts (format : PageFormat) (client : SdcClient) (staged : SdcPreparedLicenseWrite)
    (state : DeviceState) (r : Env) (h : List Event) : Prop where
  | validate {report : LicenseValidationReport} {t : List Event}
      (hrun : SdcLicenseTransaction.validate client staged r h = (.ok report, t))
      (hserves : Serves format client staged.deviceUuid state t) :
      Accepts format client staged state r h
  | commit {options : CommitOptions} {t after : List Event} {event : Event}
      (hrun : (SdcLicenseTransaction.commit client staged options r h).2 = t ++ event :: after)
      (hevent : event.dispatches = true)
      (hserves : Serves format client staged.deviceUuid state t) :
      Accepts format client staged state r h

/-- What was accepted was compared with the plan and has its digest. -/
theorem Accepts.unchanged {format : PageFormat} {client : SdcClient}
    {staged : SdcPreparedLicenseWrite} {state : DeviceState} {r : Env} {h : List Event}
    (haccepts : Accepts format client staged state r h) :
    sameDigest staged.before (staged.action.observed format state) = true := by
  have hsame : ∀ {h' t t' : List Event},
      SdcLicenseTransaction.targetUnchanged client staged r h' = (.ok true, t) →
      (∀ e ∈ t, e ∈ t') → Serves format client staged.deviceUuid state t' →
      sameDigest staged.before (staged.action.observed format state) = true := by
    intro h' t t' hunchanged hsubset hserves
    obtain ⟨current, t1, t2, hcurrent, hpure, rfl⟩ := Run.bind_eq_ok hunchanged
    rw [SdcLicenseTransaction.current_eq] at hcurrent
    rw [Run.pure_apply, Prod.mk.injEq, Outcome.ok.injEq] at hpure
    rw [← licenseState_served hcurrent
      (hserves.subset fun e he => hsubset e (List.mem_append_left _ he))]
    exact hpure.1
  cases haccepts with
  | validate hrun hserves =>
      obtain ⟨unchanged, t1, t2, hunchanged, hreport, rfl⟩ := Run.bind_eq_ok hrun
      cases unchanged with
      | true => exact hsame hunchanged (fun e he => List.mem_append_left _ he) hserves
      | false => cases hreport
  | @commit options t after event hrun hevent hserves =>
      unfold SdcLicenseTransaction.commit at hrun
      rcases commitUnchanged_cases "SDC does not support confirmed license/certificate writes"
        options (SdcLicenseTransaction.write client staged)
        (SdcLicenseTransaction.targetUnchanged_readsOnly client staged) r h
        with ⟨hquiet, -⟩ | ⟨s, hunchanged, hquiet, heq⟩
      · have hnone := hquiet event (by rw [hrun]; simp)
        rw [hevent] at hnone
        cases hnone
      · -- The request comes after the reads, so the reads are among the events before it.
        rw [heq] at hrun
        refine hsame hunchanged (fun e he => ?_) hserves
        have hgate := quiet_gateEvents hquiet
        rcases List.append_eq_append_iff.mp hrun with ⟨w, hsplit, -⟩ | ⟨w, hsplit, hrest⟩
        · rw [hsplit]
          exact List.mem_append_left _ (List.mem_cons_of_mem _ (List.mem_append_left _ he))
        · cases w with
          | nil =>
              rw [List.append_nil] at hsplit
              rw [← hsplit]
              exact List.mem_cons_of_mem _ (List.mem_append_left _ he)
          | cons e' w =>
              obtain ⟨rfl, -⟩ := List.cons.inj hrest
              have hnone := hgate event (by rw [hsplit]; simp)
              rw [hevent] at hnone
              cases hnone

omit [Crates] in
private theorem certificates_same {a b a' b' : Value}
    (h : (SdcLicenseTransaction.certificates a b).Same
      (SdcLicenseTransaction.certificates a' b')) : a.Same a' ∧ b.Same b' := by
  have hkeys := (Json.distinct_obj.mp (SdcLicenseTransaction.certificates a' b').distinct).1
  have hlocal : ∀ x y : Value, Json.lookup "local_certificates"
      [("ca_certificates", x.tree), ("local_certificates", y.tree)] = some y.tree :=
    fun _ _ => rfl
  have hca : ∀ x y : Value, Json.lookup "ca_certificates"
      [("ca_certificates", x.tree), ("local_certificates", y.tree)] = some x.tree :=
    fun _ _ => rfl
  exact ⟨Json.Same.lookup h hkeys (hca a b) (hca a' b'),
    Json.Same.lookup h hkeys (hlocal a b) (hlocal a' b')⟩

omit [Crates] in
/-- Two states that a write observes alike have the same collections, if those of the first fit
in a page. -/
theorem sameCollections_of_observed {format : PageFormat} {before after : DeviceState}
    {action : LicenseWriteOperation}
    (hsame : (action.observed format before).Same (action.observed format after))
    (hall : ∀ c ∈ action.dependsOn, (before c).length ≤ 100) :
    SameCollections action before after := by
  intro c hc
  have hlength := hall c hc
  cases action with
  | installLicense | installCaCertificate | installLocalCertificate =>
      rw [List.mem_singleton.mp hc] at hlength ⊢
      exact PageFormat.page_same hsame hlength
  | deleteCertificate =>
      obtain ⟨hca, hlocal⟩ := certificates_same hsame
      rcases List.mem_cons.mp hc with rfl | hc
      · exact PageFormat.page_same hca hlength
      · rw [List.mem_singleton.mp hc] at hlength ⊢
        exact PageFormat.page_same hlocal hlength

/-- The run of a preparation: the state was read, and the plan has it as it was read. -/
theorem prepareLicenseWrite_ok {client : SdcClient} {sets : ChangeSets} {owner device : String}
    {action : LicenseWriteOperation} {request : Value} {r : Env} {h t : List Event}
    {result : LicensePrepareResult}
    (hrun : prepareLicenseWrite client sets owner action device request r h = (.ok result, t)) :
    ∃ s, licenseState client action device r h = (.ok result.preparedChange.before, s) ∧
      (∀ e ∈ s, e ∈ t) ∧ result.preparedChange.action = action ∧
      result.preparedChange.deviceUuid = device := by
  obtain ⟨before, s, t1, hbefore, hplan, rfl⟩ := Run.bind_eq_ok hrun
  obtain ⟨prepared, hnew, hstore⟩ := Run.lift_bind_eq_ok hplan
  obtain ⟨created, t2, t3, -, hwaive, rfl⟩ := Run.bind_eq_ok hstore
  obtain ⟨waived, t4, t5, -, hpure, rfl⟩ := Run.bind_eq_ok hwaive
  cases hpure
  obtain ⟨u, -, hprepared⟩ := Except.bind_eq_ok_iff.mp hnew
  cases hprepared
  exact ⟨s, hbefore, fun e he => List.mem_append_left _ he, rfl, rfl⟩

/-- The check that a plan just made passes, with the reads of the plan. -/
private theorem validate_again {client : SdcClient} {staged : SdcPreparedLicenseWrite} {r : Env}
    {h s : List Event}
    (hstate : licenseState client staged.action staged.deviceUuid r h = (.ok staged.before, s)) :
    ∃ report, SdcLicenseTransaction.validate client staged r h = (.ok report, s) := by
  have hunchanged : SdcLicenseTransaction.targetUnchanged client staged r h = (.ok true, s) := by
    unfold SdcLicenseTransaction.targetUnchanged
    rw [SdcLicenseTransaction.current_eq, Run.bind_ok hstate]
    simp [sameDigest]
  unfold SdcLicenseTransaction.validate validateUnchanged
  rw [Run.bind_ok hunchanged]
  simp

/-- **An accepted write is on the collections it was planned for exactly when these had at most a
hundred items.**  The plan is any that was made while a device was in the first state.  With more
items there is a second state, with a change beyond the first page, on which it is accepted. -/
theorem license_drift_complete_iff (hsha : Function.Injective Crates.sha256)
    {format : PageFormat} {client : SdcClient} {sets : ChangeSets} {owner device : String}
    {action : LicenseWriteOperation} {request : Value} {before : DeviceState} {r : Env}
    {h t : List Event} {result : LicensePrepareResult}
    (hprepared : prepareLicenseWrite client sets owner action device request r h
      = (.ok result, t)) (hserves : Serves format client device before t) :
    (∀ client' after r' h', Accepts format client' result.preparedChange after r' h' →
      SameCollections action before after) ↔
    ∀ c ∈ action.dependsOn, (before c).length ≤ 100 := by
  obtain ⟨s, hstate, hsubset, haction, hdevice⟩ := prepareLicenseWrite_ok hprepared
  have hreads := hserves.subset hsubset
  constructor
  · intro hcomplete c hc
    by_contra hlong
    have hmany : 100 < (before c).length := Nat.lt_of_not_le hlong
    let after : DeviceState := Function.update before c (changeAt (before c) 100)
    have hpages : ∀ c', format.page (after c') 0 100 = format.page (before c') 0 100 := by
      intro c'
      by_cases hsame : c' = c
      · subst hsame
        rw [show after c' = changeAt (before c') 100 from Function.update_self _ _ _]
        exact page_changeAt format (before c') (Nat.le_refl 100)
      · rw [show after c' = before c' from Function.update_of_ne hsame _ _]
    have hafter := serves_of_pages hstate hreads hpages
    rw [← haction, ← hdevice] at hstate
    rw [← hdevice] at hafter
    obtain ⟨report, hvalidate⟩ := validate_again hstate
    have hequal := hcomplete client after r h (.validate hvalidate hafter) c hc
    rw [show after c = changeAt (before c) 100 from Function.update_self _ _ _] at hequal
    exact changeAt_not_same hmany hequal
  · intro hall client' after r' h' haccepts
    have hbefore := licenseState_served hstate hreads
    have hdigest := of_decide_eq_true haccepts.unchanged
    rw [haction, hbefore] at hdigest
    exact sameCollections_of_observed (canonicalDigest_same hsha hdigest.symm) hall

/-! ### A read that is answered at once -/

omit [Crates] in
private theorem settle_replies {limit : Nat} {v : Value} (hsize : v.tree.toVec.length ≤ limit) :
    settleExchange limit (.replies 200 v.tree) = .ok ⟨200, none, .ok v.tree.toVec⟩ := by
  unfold Exchange.replies settleExchange readBody readChunks readChunks
  simp [Nat.not_lt.mpr hsize]

private theorem parse_value {v : Value} (hread : Crates.readJson v.tree.toVec = some v.tree) :
    parse decodeValue v.tree.toVec = .ok v := by
  have hvalue : v.tree.toValue = v := Value.ext_tree (Json.toValue_tree v.distinct)
  simp [parse, hread, decodeValue, hvalue]

private theorem readVerdict_replies {client : SdcClient} {v : Value}
    (hread : Crates.readJson v.tree.toVec = some v.tree)
    (hsize : v.tree.toVec.length ≤ client.maxResponseBytes) :
    readVerdict client decodeValue (.replies 200 v.tree) = .ok v := by
  unfold readVerdict verdict
  rw [settle_replies hsize, Outcome.andThen_ok]
  exact congrArg Outcome.ofExcept (parse_value hread)

/-- The run of a read that is answered with a value which can be read back. -/
theorem get_replies {client : SdcClient} {segments : List String}
    {query : List (String × String)} {answer : Request → Exchange} {v : Value}
    (hcheck : checkRequest client ⟨.get, segments, query, none⟩ = .ok ())
    (hanswer : answer ⟨.get, segments, query, none⟩ = .replies 200 v.tree)
    (hread : Crates.readJson v.tree.toVec = some v.tree)
    (hsize : v.tree.toVec.length ≤ client.maxResponseBytes) (h : List Event) :
    get client none decodeValue segments query (Env.answering answer) h =
      (.ok v, [.attempt ⟨.get, segments, query, none⟩ ⟨0, .replies 200 v.tree⟩]) := by
  have honce := sendPartsOnce_admitted hcheck none (Env.answering answer) h
  have hexchange : (Env.answering answer).exchange h ⟨.get, segments, query, none⟩
      = ⟨0, .replies 200 v.tree⟩ := by
    rw [← hanswer]
    rfl
  rw [Option.any_none, if_neg (by simp), hexchange, settle_replies hsize] at honce
  have hparts : sendParts client none ⟨.get, segments, query, none⟩ (Env.answering answer) h =
      (.ok (200, .ok v.tree.toVec),
        [.attempt ⟨.get, segments, query, none⟩ ⟨0, .replies 200 v.tree⟩]) := by
    unfold sendParts maxRetryAttempts sendPartsFrom
    rw [Run.bind_ok honce, if_neg (by simp)]
    simp
  unfold get send sendRaw
  rw [Run.bind_lift, Run.bind_lift, hparts]
  simp [judgeRaw, isSuccess, parse_value hread]

end Runs

/-! ### A hundred and one licenses -/

section ManyLicenses

/-- The number of items in a collection, as a text when it does not fit in a machine word. -/
def itemCount (total : Nat) : Value :=
  if h : total < 2 ^ 64 then ⟨.num (.posInt ⟨total, h⟩), trivial⟩
  else ⟨.str (toString total), trivial⟩

private theorem itemCount_same {n m : Nat} (h : (itemCount n).Same (itemCount m)) : n = m := by
  unfold itemCount at h
  split at h <;> split at h <;> simp only [Value.Same, Json.Same] at h
  · simpa using h
  · exact natText_inj h

private theorem sameList_of_items {xs ys : List Value}
    (h : Json.SameItems (xs.map Value.tree) (ys.map Value.tree)) : SameList xs ys := by
  induction xs generalizing ys with
  | nil =>
      cases ys with
      | nil => exact .nil
      | cons y ys => cases h
  | cons x xs ih =>
      cases ys with
      | nil => cases h
      | cons y ys => exact .cons h.1 (ih h.2)

/-- A page with its items and its count. -/
def fullPage (items : List Value) (total : Nat) : Value where
  tree := .obj [("items", (Value.array items).tree), ("count", (itemCount total).tree)]
  distinct := by simp [(Value.array items).distinct, (itemCount total).distinct]

private theorem fullPage_same {items items' : List Value} {total total' : Nat}
    (h : (fullPage items total).Same (fullPage items' total')) :
    SameList items items' ∧ total = total' := by
  have hkeys := (Json.distinct_obj.mp (fullPage items' total').distinct).1
  have hitems : ∀ (xs : List Value) (n : Nat), Json.lookup "items"
      [("items", (Value.array xs).tree), ("count", (itemCount n).tree)]
        = some (Value.array xs).tree := fun _ _ => rfl
  have hcount : ∀ (xs : List Value) (n : Nat), Json.lookup "count"
      [("items", (Value.array xs).tree), ("count", (itemCount n).tree)]
        = some (itemCount n).tree := fun _ _ => rfl
  exact ⟨sameList_of_items (Json.Same.lookup h hkeys (hitems items total) (hitems items' total')),
    itemCount_same (Json.Same.lookup h hkeys (hcount items total) (hcount items' total'))⟩

/-- A page as SDC writes it: for an empty collection, an object with no members. -/
def sdcPage (items : List Value) (total : Nat) : Value :=
  if items = [] ∧ total = 0 then ⟨.obj [], by simp⟩ else fullPage items total

/-- The pages of SDC show what is on them. -/
def sdcFormat : PageFormat where
  document := sdcPage
  shows := by
    intro items items' total total' h
    unfold sdcPage at h
    split at h <;> split at h
    case isTrue.isTrue hempty hempty' =>
      rw [hempty.1, hempty'.1, hempty.2, hempty'.2]
      exact ⟨.nil, rfl⟩
    case isFalse.isFalse => exact fullPage_same h
    all_goals
      have hkeys := h.1.length_eq
      simp at hkeys

/-- A device with that many licenses and one more. -/
def licensed (count : Nat) (last : String) : DeviceState
  | .licenses => List.replicate count ⟨.obj [("uuid", .str "l")], by simp⟩ ++
      [⟨.obj [("uuid", .str last)], by simp⟩]
  | _ => []

/-- The first page of the licenses of such a device. -/
def licensedPage (count : Nat) : Value := sdcFormat.page (licensed count "l" .licenses) 0 100

def licenseRequest : Value := ⟨.obj [("license", .str "text")], by simp⟩

/-- The plan to install a license on it. -/
def licensedArtifact (count : Nat) : Value :=
  SdcPreparedLicenseWrite.planArtifact .installLicense "dev-1" licenseRequest (licensedPage count)

def licensedTables : Tables where
  documents := [(licensedPage 100).tree, (licensedPage 1).tree]
  digests := [((licensedArtifact 100).tree.canonicalize,
      [50, 137, 65, 162, 185, 48, 24, 57, 29, 114, 126, 164, 209, 152, 11, 252, 91, 242, 132, 95,
        254, 34, 135, 230, 183, 31, 75, 208, 178, 198, 52, 65]),
    ((licensedArtifact 1).tree.canonicalize,
      [136, 52, 55, 53, 218, 72, 182, 22, 145, 166, 30, 199, 116, 11, 173, 54, 123, 209, 183, 193,
        73, 148, 55, 164, 1, 60, 94, 186, 86, 235, 246, 230])]

local instance licensedCrates : Crates := licensedTables.crates

/-- An SDC whose device has that many licenses and one more. -/
def licensedEnv (count : Nat) : Env :=
  Env.answering fun _ => .replies 200 (licensedPage count).tree

/-- A coordinator that stores everything. -/
def storingSets : ChangeSets where
  tenant := "tenant-a"
  labMode := false
  create := fun _ _ _ _ _ => .ok ⟨"cs-1", "digest", Value.null⟩
  waiveApproval := fun _ _ _ _ _ => .error ""

def licensedInstall (count : Nat) : SdcPreparedLicenseWrite where
  operation := "license_write"
  action := .installLicense
  deviceUuid := "dev-1"
  request := licenseRequest
  before := licensedPage count
  planDigest := canonicalDigest (licensedArtifact count)

/-- What was sent while the plan was made. -/
def licensedReads (count : Nat) : List Event :=
  [.attempt (listRequest "dev-1" .licenses 0 100) ⟨0, .replies 200 (licensedPage count).tree⟩]

/-- The reads of the preparation. -/
private theorem licensed_reads {count : Nat}
    (hread : Crates.readJson (licensedPage count).tree.toVec = some (licensedPage count).tree)
    (hsize : (licensedPage count).tree.toVec.length ≤ minuteClient.maxResponseBytes) :
    licenseState minuteClient .installLicense "dev-1" (licensedEnv count) []
      = (.ok (licensedPage count), licensedReads count) := by
  have hget : get minuteClient none decodeValue ["api", "v1", "devices", "dev-1", "licenses"]
      [("from", toString 0), ("size", toString 100)] (licensedEnv count) []
        = (.ok (licensedPage count), licensedReads count) :=
    get_replies rfl rfl hread hsize []
  show SdcLicenseTransaction.firstPage (listLicenses minuteClient "dev-1") _ _ = _
  unfold SdcLicenseTransaction.firstPage listLicenses listCall list
  rw [show (ListRequest.new 0 100 100).mapError SdcError.list = .ok ⟨0, 100⟩ from rfl,
    Run.lift_ok_bind, show validateAtoms [("device_uuid", "dev-1")] = .ok () from rfl,
    Run.lift_ok_bind]
  exact hget

/-- The run of the preparation, for a plan that is valid. -/
private theorem prepare_licensed {count : Nat}
    (hvalid : (licensedInstall count).validate = .ok ())
    (hread : Crates.readJson (licensedPage count).tree.toVec = some (licensedPage count).tree)
    (hsize : (licensedPage count).tree.toVec.length ≤ minuteClient.maxResponseBytes) :
    prepareLicenseWrite minuteClient storingSets "planner" .installLicense "dev-1" licenseRequest
      (licensedEnv count) [] =
        (.ok ⟨⟨"cs-1", "digest", Value.null⟩, licensedInstall count⟩, licensedReads count) := by
  have hnew : SdcPreparedLicenseWrite.new .installLicense "dev-1" licenseRequest
      (licensedPage count) = .ok (licensedInstall count) :=
    Except.bind_eq_ok_iff.mpr ⟨(), hvalid, rfl⟩
  unfold prepareLicenseWrite
  rw [Run.bind_ok (licensed_reads hread hsize), hnew, Run.lift_ok_bind]
  rfl

/-- What was read is the page of every state that has it. -/
private theorem serves_licensed {count : Nat} {state : DeviceState}
    (hpage : sdcFormat.page (state .licenses) 0 100 = licensedPage count)
    (hread : Crates.readJson (licensedPage count).tree.toVec = some (licensedPage count).tree)
    (hsize : (licensedPage count).tree.toVec.length ≤ minuteClient.maxResponseBytes) :
    Serves sdcFormat minuteClient "dev-1" state (licensedReads count) := by
  intro c from_ size a v hmem hverdict
  obtain ⟨hrequest, rfl⟩ := Event.attempt.inj (List.mem_singleton.mp hmem)
  obtain ⟨rfl, rfl, rfl⟩ := listRequest_inj hrequest
  rw [readVerdict_replies hread hsize, Outcome.ok.injEq] at hverdict
  rw [← hverdict, hpage]

private theorem licensed_pages :
    ∀ count ∈ [100, 1], Crates.readJson (licensedPage count).tree.toVec
        = some (licensedPage count).tree ∧
      (licensedPage count).tree.toVec.length ≤ minuteClient.maxResponseBytes ∧
      (licensedInstall count).validate = .ok () := by
  intro count hcount
  refine ⟨Tables.readJson_of_mem ?_, ?_, ?_⟩
  · rcases List.mem_cons.mp hcount with rfl | hcount
    · exact List.mem_cons_self
    · rw [List.mem_singleton.mp hcount]
      exact List.mem_cons_of_mem _ List.mem_cons_self
  · revert count
    decide +kernel
  · revert count
    decide +kernel

private theorem licensed_digests : ∀ e ∈ licensedTables.digests, ∀ f ∈ licensedTables.digests,
    e.2 = f.2 → e = f := by
  simp only [licensedTables, List.mem_cons, List.not_mem_nil, or_false]
  rintro e (rfl | rfl) f (rfl | rfl) h
  · rfl
  · exact absurd h (by decide)
  · exact absurd h (by decide)
  · rfl

/-- The first hundred licenses do not tell what the last one is. -/
private theorem licensed_page (last : String) :
    sdcFormat.page (licensed 100 last .licenses) 0 100 = licensedPage 100 := by
  unfold licensedPage PageFormat.page licensed
  rw [List.drop_zero, List.drop_zero, List.take_left' List.length_replicate,
    List.take_left' List.length_replicate, List.length_append, List.length_append]
  rfl

/-- A license that is replaced behind the first hundred goes unnoticed. -/
theorem replaced_license_accepted : ∃ result t,
    prepareLicenseWrite minuteClient storingSets "planner" .installLicense "dev-1" licenseRequest
      (licensedEnv 100) [] = (.ok result, t) ∧
    Serves sdcFormat minuteClient "dev-1" (licensed 100 "l") t ∧
    Accepts sdcFormat minuteClient result.preparedChange (licensed 100 "m") (licensedEnv 100) [] ∧
    ¬ SameCollections .installLicense (licensed 100 "l") (licensed 100 "m") := by
  obtain ⟨hread, hsize, hvalid⟩ := licensed_pages 100 (by decide)
  have hprepared := prepare_licensed hvalid hread hsize
  obtain ⟨report, hvalidate⟩ := @validate_again _ minuteClient (licensedInstall 100) _ _ _
    (licensed_reads hread hsize)
  refine ⟨_, _, hprepared, serves_licensed (licensed_page "l") hread hsize,
    .validate hvalidate (serves_licensed (licensed_page "m") hread hsize), ?_⟩
  intro hsame
  have hlast := List.Forall₂.get (hsame .licenses List.mem_cons_self)
    (i := 100) (by decide) (by decide)
  have huuid : ∀ text, Json.lookup "uuid" [("uuid", .str text)] = some (.str text) := fun _ => rfl
  have htext : "l" = "m" := Json.Same.lookup hlast (by simp) (huuid "l") (huuid "m")
  exact absurd htext (by decide)

/-- With two licenses, whatever is accepted is accepted on the same two. -/
theorem two_licenses_compared : ∃ result t,
    prepareLicenseWrite minuteClient storingSets "planner" .installLicense "dev-1" licenseRequest
      (licensedEnv 1) [] = (.ok result, t) ∧
    ∀ client' after r' h', Accepts sdcFormat client' result.preparedChange after r' h' →
      SameCollections .installLicense (licensed 1 "l") after := by
  obtain ⟨hread, hsize, hvalid⟩ := licensed_pages 1 (by decide)
  have hprepared := prepare_licensed hvalid hread hsize
  exact ⟨_, _, hprepared, (license_drift_complete_iff
    (Tables.sha256_injective (by decide) licensed_digests) hprepared
    (serves_licensed rfl hread hsize)).mpr (by decide)⟩

end ManyLicenses

end SdcMcp
