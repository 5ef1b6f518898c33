/-
What callers learn about the state a license write was planned against.

Two states agree when they differ only in members of items that the allowlists leave
out.  Every step of the projection takes states that agree to the same result, or to the
same refusal, so the views of their envelopes differ only in the digest of the plan.
The three views show the same state, because each projects the one in the envelope with
the action in the envelope.
-/
import SdcMcp.Model.CallerView
import SdcMcp.Proofs.Projection
import SdcMcp.Proofs.Release
import SdcMcp.Proofs.Scripted

namespace SdcMcp

open Interactive

/-! ### States that agree -/

/-- Objects whose members agree one by one. -/
def MembersAgree (R : String → Value → Value → Prop) (m n : Map) : Prop :=
  List.Forall₂ (fun e f => e.1 = f.1 ∧ R e.1 e.2 f.2) m.entries n.entries

/-- Items that differ only in members that are not on the list. -/
def ItemAgrees (allowed : List String) (x y : Value) : Prop :=
  x = y ∨ ∃ m n, x = .object m ∧ y = .object n ∧ retainOnly m allowed = retainOnly n allowed

/-- Collections whose items differ only in members that are not on the list. -/
def CollectionAgrees (allowed : List String) (a b : Value) : Prop :=
  a = b ∨ ∃ m n, a = .object m ∧ b = .object n ∧
    MembersAgree (fun key v w => v = w ∨ key = "items" ∧ ∃ xs ys, v = .array xs ∧ w = .array ys ∧
      List.Forall₂ (ItemAgrees allowed) xs ys) m n

/-- States of a device that differ only in what a write of this kind does not show. -/
def BeforeAgrees : LicenseWriteOperation → Value → Value → Prop
  | .installLicense => CollectionAgrees licenseFields
  | .installCaCertificate => CollectionAgrees caCertificateFields
  | .installLocalCertificate => CollectionAgrees localCertificateFields
  | .deleteCertificate => fun a b => a = b ∨ ∃ m n, a = .object m ∧ b = .object n ∧
      MembersAgree (fun key v w => v = w ∨
        key = "ca_certificates" ∧ CollectionAgrees caCertificateFields v w ∨
        key = "local_certificates" ∧ CollectionAgrees localCertificateFields v w) m n

section Members

variable {R : String → Value → Value → Prop} {m n : Map}

private theorem find_agree {es fs : List (String × Value)}
    (h : List.Forall₂ (fun e f => e.1 = f.1 ∧ R e.1 e.2 f.2) es fs) (key : String) :
    (Map.find key es = none ∧ Map.find key fs = none) ∨
      ∃ v w, Map.find key es = some v ∧ Map.find key fs = some w ∧ R key v w := by
  induction h with
  | nil => exact Or.inl ⟨rfl, rfl⟩
  | @cons e f es fs hef _ ih =>
      obtain ⟨k, v⟩ := e
      obtain ⟨k', w⟩ := f
      obtain ⟨hkey, hR⟩ := hef
      simp only at hkey hR
      subst hkey
      rw [Map.find_cons, Map.find_cons]
      by_cases hk : k = key
      · rw [if_pos hk, if_pos hk]
        exact Or.inr ⟨v, w, rfl, rfl, hk ▸ hR⟩
      · rw [if_neg hk, if_neg hk]
        exact ih

/-- Objects that agree bind the same keys, to values that agree. -/
theorem MembersAgree.get (h : MembersAgree R m n) (key : String) :
    (m.get key = none ∧ n.get key = none) ∨
      ∃ v w, m.get key = some v ∧ n.get key = some w ∧ R key v w :=
  find_agree h key

private theorem entries_eq {key : String} {es fs : List (String × Value)}
    (h : List.Forall₂ (fun e f => e.1 = f.1 ∧ (e.1 ≠ key → e.2 = f.2)) es fs)
    (hkey : key ∉ es.map Prod.fst) : es = fs := by
  induction h with
  | nil => rfl
  | @cons e f es fs hef _ ih =>
      rw [List.map_cons, List.mem_cons, not_or] at hkey
      rw [ih hkey.2, Prod.ext hef.1 (hef.2 (Ne.symm hkey.1))]

private theorem removeFrom_agree {key : String} {es fs : List (String × Value)}
    (h : List.Forall₂ (fun e f => e.1 = f.1 ∧ (e.1 ≠ key → e.2 = f.2)) es fs)
    (hnd : (es.map Prod.fst).Nodup) : Map.removeFrom key es = Map.removeFrom key fs := by
  induction h with
  | nil => rfl
  | @cons e f es fs hef hrest ih =>
      obtain ⟨k, v⟩ := e
      obtain ⟨k', w⟩ := f
      obtain ⟨hk, hv⟩ := hef
      simp only at hk hv
      subst hk
      rw [List.map_cons, List.nodup_cons] at hnd
      unfold Map.removeFrom
      by_cases heq : k = key
      · rw [if_pos heq, if_pos heq, entries_eq hrest (heq ▸ hnd.1)]
      · rw [if_neg heq, if_neg heq, hv heq, ih hnd.2]

/-- Objects that agree everywhere but under one key are the same without it. -/
theorem MembersAgree.remove {key : String} (h : MembersAgree R m n)
    (hR : ∀ k v w, R k v w → k ≠ key → v = w) : m.remove key = n.remove key :=
  Map.ext (removeFrom_agree (h.imp fun _ _ hef => ⟨hef.1, hR _ _ _ hef.2⟩) m.nodup)

end Members

/-! ### Projection of states that agree -/

private theorem mapM_agree {f : Value → Except SdcError Value} {xs ys : List Value}
    (h : List.Forall₂ (fun x y => f x = f y) xs ys) : xs.mapM f = ys.mapM f := by
  induction h with
  | nil => rfl
  | cons hxy _ ih => rw [List.mapM_cons, List.mapM_cons, hxy, ih]

theorem ItemAgrees.project {allowed : List String} {x y : Value} (h : ItemAgrees allowed x y) :
    projectItem allowed x = projectItem allowed y := by
  rcases h with rfl | ⟨m, n, rfl, rfl, hkept⟩
  · rfl
  · unfold projectItem
    rw [Value.asObject_object, Value.asObject_object]
    show Except.ok (Value.object (retainOnly m allowed)) = .ok (.object (retainOnly n allowed))
    rw [hkept]

/-- The projection of a collection does not depend on what it drops. -/
theorem CollectionAgrees.project {allowed : List String} {a b : Value}
    (h : CollectionAgrees allowed a b) :
    projectCollection a "items" allowed = projectCollection b "items" allowed := by
  rcases h with rfl | ⟨m, n, rfl, rfl, hmembers⟩
  · rfl
  have hremove : m.remove "items" = n.remove "items" := by
    refine hmembers.remove fun k v w hvw hk => ?_
    rcases hvw with heq | ⟨hitems, -⟩
    · exact heq
    · exact absurd hitems hk
  simp only [projectCollection, Value.asObject_object]
  rcases hmembers.get "items" with ⟨hm, hn⟩ | ⟨v, w, hm, hn, hvw⟩
  · rw [hm, hn]
    rw [Map.remove_of_get hm, Map.remove_of_get hn] at hremove
    rw [hremove]
  · rw [hm, hn, hremove]
    rcases hvw with rfl | ⟨-, xs, ys, rfl, rfl, hitems⟩
    · rfl
    · simp only [Value.asArray_array]
      rw [mapM_agree (hitems.imp fun _ _ hxy => hxy.project)]

private theorem object_not_null (m : Map) : (Value.object m).tree.isNull = false := rfl

theorem CollectionAgrees.isNull {allowed : List String} {a b : Value}
    (h : CollectionAgrees allowed a b) : a.tree.isNull = b.tree.isNull := by
  rcases h with rfl | ⟨m, n, rfl, rfl, -⟩
  · rfl
  · rfl

/-- **What is shown of a state does not depend on what is dropped of it.** -/
theorem BeforeAgrees.project {action : LicenseWriteOperation} {a b : Value}
    (h : BeforeAgrees action a b) : projectBefore action a = projectBefore action b := by
  cases action with
  | installLicense =>
      have hproject : projectLicenses a = projectLicenses b := CollectionAgrees.project h
      simp only [projectBefore, CollectionAgrees.isNull h, hproject]
  | installCaCertificate =>
      have hproject : projectCaCertificates a = projectCaCertificates b :=
        CollectionAgrees.project h
      simp only [projectBefore, CollectionAgrees.isNull h, hproject]
  | installLocalCertificate =>
      have hproject : projectLocalCertificates a = projectLocalCertificates b :=
        CollectionAgrees.project h
      simp only [projectBefore, CollectionAgrees.isNull h, hproject]
  | deleteCertificate =>
      rcases h with rfl | ⟨m, n, rfl, rfl, hmembers⟩
      · rfl
      have hca : projectHalf projectCaCertificates (m.get "ca_certificates")
          = projectHalf projectCaCertificates (n.get "ca_certificates") := by
        rcases hmembers.get "ca_certificates" with ⟨hm, hn⟩ | ⟨v, w, hm, hn, hvw⟩
        · rw [hm, hn]
        · rw [hm, hn]
          rcases hvw with rfl | ⟨-, hvw⟩ | ⟨hkey, -⟩
          · rfl
          · exact hvw.project
          · exact absurd hkey (by decide)
      have hlocal : projectHalf projectLocalCertificates (m.get "local_certificates")
          = projectHalf projectLocalCertificates (n.get "local_certificates") := by
        rcases hmembers.get "local_certificates" with ⟨hm, hn⟩ | ⟨v, w, hm, hn, hvw⟩
        · rw [hm, hn]
        · rw [hm, hn]
          rcases hvw with rfl | ⟨hkey, -⟩ | ⟨-, hvw⟩
          · rfl
          · exact absurd hkey (by decide)
          · exact hvw.project
      simp only [projectBefore, object_not_null, Value.asObject_object, hca, hlocal]

/-! ### What is shown of a state -/

/-- A collection with its items restricted to the list. -/
def CollectionShown (allowed : List String) : Value → Value → Prop :=
  MemberProjected "items" (ArrayProjected (ItemProjected allowed))

/-- One half of the state of a delete; a missing half is shown as null. -/
def HalfShown (allowed : List String) (half : Option Value) (w : Value) : Prop :=
  half = none ∧ w = Value.null ∨ ∃ v, half = some v ∧ CollectionShown allowed v w

/-- A state of a device and what a write of this kind shows of it. -/
def BeforeShown : LicenseWriteOperation → Value → Value → Prop
  | .installLicense => CollectionShown licenseFields
  | .installCaCertificate => CollectionShown caCertificateFields
  | .installLocalCertificate => CollectionShown localCertificateFields
  | .deleteCertificate => fun v w => ∃ m caCerts localCerts, v = .object m ∧
      w = SdcLicenseTransaction.certificates caCerts localCerts ∧
      HalfShown caCertificateFields (m.get "ca_certificates") caCerts ∧
      HalfShown localCertificateFields (m.get "local_certificates") localCerts

/-- What stands for a state in the views: nothing for no state, the state as it is shown, or the
reason why nothing is shown of it. -/
inductive StandsFor [Crates] (action : LicenseWriteOperation) (before : Value) : Value → Prop
  | absent (h : before.tree.isNull = true) : StandsFor action before Value.null
  | projected {w : Value} (h : BeforeShown action before w) : StandsFor action before w
  | withheld {e : SdcError} (h : projectBefore action before = .error e)
      (hnone : ∀ w, ¬ BeforeShown action before w) :
      StandsFor action before (withheld e.display)

/-- A collection is projected to what is shown of it, or nothing can be. -/
theorem projectCollection_cases (allowed : List String) (v : Value) :
    (∃ w, projectCollection v "items" allowed = .ok w ∧ CollectionShown allowed v w) ∨
      (projectCollection v "items" allowed = .error .invalidJson ∧
        ∀ w, ¬ CollectionShown allowed v w) := by
  have hprojects := projects_collection "items" allowed
  by_cases htaken : ObjectWith "items" (ArrayOf IsObject) v
  · obtain ⟨w, hw, hshown, -⟩ := hprojects.accepts v htaken
    exact .inl ⟨w, hw, hshown⟩
  · refine .inr ⟨hprojects.refuses v htaken, ?_⟩
    rintro w ⟨m, n, rfl, rfl, -, hitems⟩
    refine htaken ⟨m, rfl, fun x hx => ?_⟩
    rw [hx] at hitems
    cases hn : n.get "items" with
    | none =>
        rw [hn] at hitems
        cases hitems
    | some y =>
        rw [hn] at hitems
        cases hitems with
        | some hxy =>
            obtain ⟨items, projected, rfl, rfl, hall⟩ := hxy
            have hobjects : ∀ x y, ItemProjected allowed x y →
                IsObject x ∧ ItemProjected allowed x y :=
              fun x y ⟨m, n, hx, hrest⟩ => ⟨⟨m, hx⟩, m, n, hx, hrest⟩
            exact ⟨items, rfl,
              ((List.forall₂_and_left items projected).mp (hall.imp hobjects)).1⟩

theorem projectHalf_cases (allowed : List String) (half : Option Value) :
    (∃ w, projectHalf (fun v => projectCollection v "items" allowed) half = .ok w ∧
      HalfShown allowed half w) ∨
    (projectHalf (fun v => projectCollection v "items" allowed) half = .error .invalidJson ∧
      ∀ w, ¬ HalfShown allowed half w) := by
  cases half with
  | none => exact .inl ⟨Value.null, rfl, .inl ⟨rfl, rfl⟩⟩
  | some v =>
      rcases projectCollection_cases allowed v with ⟨w, hw, hshown⟩ | ⟨herror, hnone⟩
      · exact .inl ⟨w, hw, .inr ⟨v, rfl, hshown⟩⟩
      · refine .inr ⟨herror, ?_⟩
        rintro w (⟨hnil, -⟩ | ⟨v', hv', hshown⟩)
        · cases hnil
        · cases hv'
          exact hnone w hshown

private theorem asObject_none {v : Value} (h : v.asObject = none) (m : Map) : v ≠ .object m := by
  rintro rfl
  rw [Value.asObject_object] at h
  cases h

section StandsFor

variable [Crates] {action : LicenseWriteOperation} {before : Value}

theorem standsFor_of_ok {w : Value} (hw : projectBefore action before = .ok w)
    (hshown : BeforeShown action before w) :
    StandsFor action before (projectedOrWithheld action before) := by
  unfold projectedOrWithheld
  rw [hw]
  exact .projected hshown

theorem standsFor_of_error {e : SdcError} (he : projectBefore action before = .error e)
    (hnone : ∀ w, ¬ BeforeShown action before w) :
    StandsFor action before (projectedOrWithheld action before) := by
  unfold projectedOrWithheld
  rw [he]
  exact .withheld he hnone

/-- The state before an installation is one collection. -/
theorem standsFor_collection {allowed : List String}
    (hproject : projectBefore action before = projectCollection before "items" allowed)
    (hshown : BeforeShown action = CollectionShown allowed) :
    StandsFor action before (projectedOrWithheld action before) := by
  rcases projectCollection_cases allowed before with ⟨w, hw, hstate⟩ | ⟨herror, hnone⟩
  · exact standsFor_of_ok (hproject.trans hw) (hshown ▸ hstate)
  · exact standsFor_of_error (hproject.trans herror) (hshown ▸ hnone)

/-- The state before a deletion is an object with two halves. -/
theorem standsFor_halves (hnull : ¬ before.tree.isNull = true) :
    StandsFor .deleteCertificate before (projectedOrWithheld .deleteCertificate before) := by
  cases hobject : before.asObject with
  | none =>
      have hproject : projectBefore .deleteCertificate before
          = .error (.preparedChange "certificate delete before-state must be an object") := by
        unfold projectBefore
        rw [if_neg hnull, hobject]
      refine standsFor_of_error hproject ?_
      rintro w ⟨m, -, -, hm, -⟩
      exact asObject_none hobject m hm
  | some m =>
      have hproject : projectBefore .deleteCertificate before = (do
          let caCerts ← projectHalf projectCaCertificates (m.get "ca_certificates")
          let localCerts ← projectHalf projectLocalCertificates (m.get "local_certificates")
          return SdcLicenseTransaction.certificates caCerts localCerts) := by
        unfold projectBefore
        rw [if_neg hnull, hobject]
      have hm : before = .object m := Value.asObject_eq_some.mp hobject
      have hsame : ∀ n, before = .object n → n = m := by
        intro n hn
        have hobject' := Value.asObject_eq_some.mpr hn
        rw [hobject] at hobject'
        exact (Option.some.inj hobject').symm
      rcases projectHalf_cases caCertificateFields (m.get "ca_certificates") with
        ⟨caCerts, hca, hcaShown⟩ | ⟨hca, hnone⟩
      · rcases projectHalf_cases localCertificateFields (m.get "local_certificates") with
          ⟨localCerts, hlocal, hlocalShown⟩ | ⟨hlocal, hnone⟩
        · exact standsFor_of_ok
            (hproject.trans (Except.bind_eq_ok_iff.mpr
              ⟨caCerts, hca, Except.bind_eq_ok_iff.mpr ⟨localCerts, hlocal, rfl⟩⟩))
            ⟨m, caCerts, localCerts, hm, rfl, hcaShown, hlocalShown⟩
        · refine standsFor_of_error (hproject.trans (Except.bind_eq_error_iff.mpr
            (.inr ⟨caCerts, hca, Except.bind_eq_error_iff.mpr (.inl hlocal)⟩))) ?_
          rintro w ⟨n, -, localCerts, hn, -, -, hlocalShown⟩
          exact hnone localCerts (hsame n hn ▸ hlocalShown)
      · refine standsFor_of_error (hproject.trans (Except.bind_eq_error_iff.mpr (.inl hca))) ?_
        rintro w ⟨n, caCerts, -, hn, -, hcaShown, -⟩
        exact hnone caCerts (hsame n hn ▸ hcaShown)

/-- **What is shown stands for the state.** -/
theorem projectedOrWithheld_standsFor (action : LicenseWriteOperation) (before : Value) :
    StandsFor action before (projectedOrWithheld action before) := by
  by_cases hnull : before.tree.isNull = true
  · have habsent : projectBefore action before = .ok Value.null := if_pos hnull
    unfold projectedOrWithheld
    rw [habsent]
    exact .absent hnull
  cases action with
  | installLicense => exact standsFor_collection (if_neg hnull) rfl
  | installCaCertificate => exact standsFor_collection (if_neg hnull) rfl
  | installLocalCertificate => exact standsFor_collection (if_neg hnull) rfl
  | deleteCertificate => exact standsFor_halves hnull

end StandsFor

/-! ### Views of one envelope -/

/-- Objects with the same members in the same places, but for the value under one key. -/
def EqualBut (key : String) (v w : Value) : Prop :=
  ∃ m n : Map, v = .object m ∧ w = .object n ∧ m.keys = n.keys ∧ ∀ k ≠ key, m.get k = n.get k

theorem equalBut_insert {m : Map} {key : String} (h : key ∈ m.keys) (v : Value) :
    EqualBut key (.object m) (.object (m.insert key v)) := by
  refine ⟨m, _, rfl, rfl, (Map.keys_insert h v).symm, ?_⟩
  intro k hk
  rw [Map.get_insert, if_neg hk]

namespace SdcPreparedLicenseWrite

/-- The members of a serialised envelope. -/
def members (p : SdcPreparedLicenseWrite) : Map where
  entries := [("operation", .string p.operation), ("action", .string p.action.name),
    ("device_uuid", .string p.deviceUuid), ("request", p.request), ("before", p.before),
    ("plan_digest", .string p.planDigest)]
  nodup := by simp

theorem before_mem_members (p : SdcPreparedLicenseWrite) : "before" ∈ p.members.keys := by
  simp [members, Map.keys]

theorem encode_distinct (p : SdcPreparedLicenseWrite) : p.encode.Distinct := by
  simp [encode, p.request.distinct, p.before.distinct]

theorem encode_toValue_tree (p : SdcPreparedLicenseWrite) : p.encode.toValue.tree = p.encode :=
  Json.toValue_tree p.encode_distinct

/-- The action a change set stores is the envelope as it is written. -/
theorem encode_toValue (p : SdcPreparedLicenseWrite) : p.encode.toValue = .object p.members :=
  Value.ext_tree p.encode_toValue_tree

/-- Envelopes of the same write against different states. -/
theorem members_get {p q : SdcPreparedLicenseWrite} (hoperation : p.operation = q.operation)
    (haction : p.action = q.action) (huuid : p.deviceUuid = q.deviceUuid)
    (hrequest : p.request = q.request) {key : String} (hbefore : key ≠ "before")
    (hdigest : key ≠ "plan_digest") : p.members.get key = q.members.get key := by
  unfold Map.get members
  simp only [Map.find_cons, Map.find_nil, hoperation, haction, huuid, hrequest,
    if_neg (Ne.symm hbefore), if_neg (Ne.symm hdigest)]

variable [Crates]

/-- What every view shows as the state before the write. -/
def shown (p : SdcPreparedLicenseWrite) : Value := projectedOrWithheld p.action p.before

theorem callerView_eq (p : SdcPreparedLicenseWrite) :
    p.callerView = .ok (.object (p.members.insert "before" p.shown)) := by
  simp only [callerView, encode_toValue, Value.asObject_object]
  rfl

/-- What a constructor call puts into the envelope. -/
theorem new_fields {action : LicenseWriteOperation} {deviceUuid : String} {request before : Value}
    {p : SdcPreparedLicenseWrite} (h : new action deviceUuid request before = .ok p) :
    p.operation = "license_write" ∧ p.action = action ∧ p.deviceUuid = deviceUuid ∧
      p.request = request ∧ p.before = before := by
  obtain ⟨u, -, hp⟩ := Except.bind_eq_ok_iff.mp h
  cases hp
  exact ⟨rfl, rfl, rfl, rfl, rfl⟩

/-- States that agree are shown as the same. -/
theorem callerView_agree {action : LicenseWriteOperation} {deviceUuid : String}
    {request before before' : Value} {p q : SdcPreparedLicenseWrite}
    (hp : new action deviceUuid request before = .ok p)
    (hq : new action deviceUuid request before' = .ok q)
    (hagree : BeforeAgrees action before before') : ∃ v w,
      p.callerView = .ok v ∧ q.callerView = .ok w ∧ EqualBut "plan_digest" v w := by
  obtain ⟨hpo, hpa, hpu, hpr, hpb⟩ := new_fields hp
  obtain ⟨hqo, hqa, hqu, hqr, hqb⟩ := new_fields hq
  have hshown : p.shown = q.shown := by
    unfold shown projectedOrWithheld
    rw [hpa, hqa, hpb, hqb, hagree.project]
  refine ⟨_, _, p.callerView_eq, q.callerView_eq, _, _, rfl, rfl, ?_, ?_⟩
  · rw [Map.keys_insert p.before_mem_members, Map.keys_insert q.before_mem_members]
    rfl
  · intro k hk
    rw [Map.get_insert, Map.get_insert, hshown]
    by_cases hbefore : k = "before"
    · rw [if_pos hbefore, if_pos hbefore]
    · rw [if_neg hbefore, if_neg hbefore]
      exact members_get (hpo.trans hqo.symm) (hpa.trans hqa.symm) (hpu.trans hqu.symm)
        (hpr.trans hqr.symm) hbefore hk

end SdcPreparedLicenseWrite

/-! ### The three views -/

section Views

variable [Crates] {p : SdcPreparedLicenseWrite}

/-- The state shown by the result of a preparation. -/
theorem prepareResult_shown (p : SdcPreparedLicenseWrite) (changeSet : ChangeSetOutput) :
    ∃ view, LicensePrepareResult.callerView ⟨changeSet, p⟩ = .ok view ∧
      ((view.get "prepared_change").bind fun v => v.get "before") = some p.shown := by
  refine ⟨_, Except.bind_eq_ok_iff.mpr ⟨_, p.callerView_eq, rfl⟩, ?_⟩
  rw [Value.get_object, Map.get_insert, if_pos rfl, Option.bind_some, Value.get_object,
    Map.get_insert, if_pos rfl]

/-- The change-set detail shows the view of the envelope it stores. -/
theorem preparedChange_eq (hoperation : p.operation = "license_write")
    (serdeError : Value → String) (rest : List Value) :
    preparedChange serdeError (.ok (p.encode.toValue :: rest)) = p.callerView := by
  have hget : (p.encode.toValue.get "operation").bind (fun v => v.tree.asStr)
      = some "license_write" := by
    rw [p.encode_toValue, Value.get_object, ← hoperation]
    rfl
  have hdecode : SdcPreparedLicenseWrite.decode p.encode.toValue.tree = some p := by
    rw [p.encode_toValue_tree, p.decode_encode]
  have hfirst : ∀ action actions, preparedChange serdeError (.ok (action :: actions))
      = preparedAction serdeError action := fun action actions => rfl
  rw [hfirst]
  unfold preparedAction
  simp only [hget, if_pos, hdecode]

/-- The members of a plan. -/
private def planMembers (p : SdcPreparedLicenseWrite) : Map where
  entries := [("action", .string p.action.name), ("device_uuid", .string p.deviceUuid),
    ("before", p.before), ("after", p.request)]
  nodup := by simp

omit [Crates] in
private theorem plan_eq (p : SdcPreparedLicenseWrite) : p.plan = .object (planMembers p) := rfl

/-- The state shown by the result of applying the plan of an envelope. -/
theorem applyResult_shown (encodeOutcome : CommitOutcome → Value)
    {result : ApplyResult LicenseValidationReport} (hplan : result.plan = p.plan) :
    ∃ view, result.callerView encodeOutcome = .ok view ∧
      ((view.get "plan").bind fun v => v.get "before") = some p.shown := by
  have haction : ((result.plan.get "action").bind fun value =>
      LicenseWriteOperation.decode value.tree) = some p.action := by
    rw [hplan, plan_eq, Value.get_object]
    exact LicenseWriteOperation.decode_name p.action
  have hbefore : result.plan.get "before" = some p.before := by
    rw [hplan, plan_eq, Value.get_object]
    rfl
  have hobject : ((licenseApplyResult encodeOutcome result).get "plan").bind Value.asObject
      = some (planMembers p) := by
    unfold licenseApplyResult
    rw [Map.get_insert, if_neg (by decide), Map.get_insert, if_neg (by decide), Map.get_insert,
      if_pos rfl, Option.bind_some, hplan, plan_eq, Value.asObject_object]
  refine ⟨.object ((licenseApplyResult encodeOutcome result).insert "plan"
    (.object ((planMembers p).insert "before" p.shown))), ?_, ?_⟩
  · simp only [ApplyResult.callerView, haction, hbefore, hobject, Option.getD_some]
    rfl
  · rw [Value.get_object, Map.get_insert, if_pos rfl, Option.bind_some, Value.get_object,
      Map.get_insert, if_pos rfl]

end Views

/-! ### Where the envelope comes from -/

section Runs

variable [Crates]

/-- A preparation stores the envelope as it is written. -/
theorem prepareLicenseWrite_stores {client : SdcClient} {sets : ChangeSets} {owner : String}
    {action : LicenseWriteOperation} {deviceUuid : String} {request : Value} {r : Env}
    {h t : List Event} {result : LicensePrepareResult}
    (hrun : prepareLicenseWrite client sets owner action deviceUuid request r h
      = (.ok result, t)) : ∃ history created,
      sets.create history sets.tenant [result.preparedChange.encode.toValue] owner
        result.preparedChange.planDigest = .ok created := by
  obtain ⟨before, t1, t2, -, hrun, -⟩ := Run.bind_eq_ok hrun
  obtain ⟨p, hp, hrun⟩ := Run.lift_bind_eq_ok hrun
  obtain ⟨changeSet, t3, t4, hcreate, hrun, -⟩ := Run.bind_eq_ok hrun
  obtain ⟨waived, t5, t6, -, hrun, -⟩ := Run.bind_eq_ok hrun
  rw [Run.pure_apply] at hrun
  cases hrun
  unfold ChangeSets.createChangeSet at hcreate
  rw [Run.ask_bind] at hcreate
  obtain ⟨hcreated, -⟩ := Run.lift_eq_ok hcreate
  exact ⟨_, changeSet, Except.mapError_eq_ok_iff.mp hcreated⟩

end Runs

section Applications

variable {α β : Type} {r : Env} {h t : List Event}

/-- What the coordinator relays is what the transaction answered. -/
private theorem relay_ok {coordinator : Coordinator α} {conduct : List Event → Conduct}
    {call : Io β} {b : β} (hrun : coordinator.relay conduct call r h = (.ok b, t)) :
    (call r h).1 = .ok b := by
  cases hconduct : conduct h with
  | refuses error =>
      rw [relay_refuses hconduct] at hrun
      cases hrun
  | breaks error =>
      rw [relay_breaks hconduct] at hrun
      cases hrun
  | relays =>
      rw [relay_relays hconduct] at hrun
      have hb := (Prod.mk.inj hrun).1
      cases hcall : (call r h).1 with
      | ok b' =>
          rw [hcall] at hb
          cases hb
          rfl
      | err e =>
          rw [hcall] at hb
          cases hb
      | dropped =>
          rw [hcall] at hb
          cases hb

private theorem mapErr_ok {ε ε' : Type} {f : ε → ε'} {x : Run Env Event ε α} {a : α}
    (hrun : (x.mapErr f) r h = (.ok a, t)) : x r h = (.ok a, t) := by
  rw [Run.mapErr_apply] at hrun
  rcases hx : x r h with ⟨o, t'⟩
  rw [hx] at hrun
  cases o with
  | ok b =>
      cases hrun
      rfl
  | err e => cases hrun
  | dropped => cases hrun

private theorem releaseAndFail_not_ok {texts : ReleaseTexts} {coordinator : Coordinator α}
    {operationId error : String} {b : β} :
    (releaseAndFail texts coordinator operationId error : Io β) r h ≠ (.ok b, t) := by
  intro hrun
  obtain ⟨detail, t1, t2, -, hfail, -⟩ := Run.bind_eq_ok hrun
  cases hfail

/-- The plan in the result of an application is the one of what was staged. -/
private theorem applyStaged_plan {texts : ReleaseTexts} {coordinator : Coordinator α}
    {transaction : Transaction α β} {operationId : String} {staged : α} {result : ApplyResult β}
    (hrun : applyStaged texts coordinator transaction operationId staged r h
      = (.ok result, t)) : result.plan = transaction.diff staged := by
  obtain ⟨plan, t1, t2, hdiff, hrun, -⟩ := Run.bind_eq_ok hrun
  have hplan : transaction.diff staged = plan := by
    have hrelay := relay_ok (mapErr_ok hdiff)
    rw [Run.pure_apply] at hrelay
    cases hrelay
    rfl
  obtain ⟨validated, t3, t4, -, hrun, -⟩ := Run.bind_eq_ok hrun
  cases validated with
  | error error => exact absurd hrun releaseAndFail_not_ok
  | ok validation =>
      obtain ⟨committed, t5, t6, -, hrun, -⟩ := Run.bind_eq_ok hrun
      cases committed with
      | ok outcome =>
          cases hrun
          exact hplan.symm
      | error error =>
          simp only [Run.ask_bind] at hrun
          split at hrun
          · exact absurd hrun releaseAndFail_not_ok
          · cases hrun

theorem applyWrite_plan {texts : ReleaseTexts} {coordinator : Coordinator α}
    {transaction : Transaction α β} {result : ApplyResult β}
    (hrun : applyWrite texts coordinator transaction r h = (.ok result, t)) :
    ∃ history operationId actions staged,
      coordinator.changeSet history = .ok (operationId, actions) ∧
      transaction.stage actions = .ok staged ∧ result.plan = transaction.diff staged := by
  obtain ⟨u, t1, t2, -, hrun, -⟩ := Run.bind_eq_ok hrun
  obtain ⟨⟨operationId, staged⟩, t3, t4, happly, hrun, -⟩ := Run.bind_eq_ok hrun
  have hset := mapErr_ok happly
  unfold Coordinator.applyChangeSet at hset
  rw [Run.ask_bind] at hset
  obtain ⟨⟨operationId', actions⟩, hactions, hset⟩ := Run.lift_bind_eq_ok hset
  obtain ⟨staged', t5, t6, hstage, hset, -⟩ := Run.bind_eq_ok hset
  cases hset
  have hstaged := relay_ok hstage
  rw [Run.lift_apply] at hstaged
  refine ⟨_, _, actions, staged, hactions, ?_, applyStaged_plan hrun⟩
  cases hresult : transaction.stage actions with
  | ok a =>
      rw [hresult] at hstaged
      cases hstaged
      rfl
  | error e =>
      rw [hresult] at hstaged
      cases hstaged

end Applications

/-! ### All views of an envelope -/

/-- Every view of an envelope shows the same state, and the envelope as it is otherwise. -/
structure ViewsAgree [Crates] (p : SdcPreparedLicenseWrite) (shown : Value) : Prop where
  caller : ∃ view, p.callerView = .ok view ∧ EqualBut "before" p.encode.toValue view ∧
    view.get "before" = some shown
  prepared : ∀ changeSet, ∃ view,
    LicensePrepareResult.callerView ⟨changeSet, p⟩ = .ok view ∧
      ((view.get "prepared_change").bind fun v => v.get "before") = some shown
  /-- The detail of a change set that stores the envelope. -/
  detail : ∀ serdeError rest, ∃ view,
    preparedChange serdeError (.ok (p.encode.toValue :: rest)) = .ok view ∧
      view.get "before" = some shown
  /-- The result of a run that applied the envelope. -/
  applied : ∀ client coordinator digest encodeOutcome r h t result,
    (∀ history operationId actions,
      coordinator.changeSet history = .ok (operationId, actions) → actions = [p]) →
    applyLicenseWrite client coordinator digest r h = (.ok result, t) → ∃ view,
      result.callerView encodeOutcome = .ok view ∧
        ((view.get "plan").bind fun v => v.get "before") = some shown

theorem viewsAgree [Crates] {p : SdcPreparedLicenseWrite}
    (hoperation : p.operation = "license_write") : ViewsAgree p p.shown where
  caller := by
    refine ⟨_, p.callerView_eq, ?_, ?_⟩
    · rw [p.encode_toValue]
      exact equalBut_insert p.before_mem_members p.shown
    · rw [Value.get_object, Map.get_insert, if_pos rfl]
  prepared := prepareResult_shown p
  detail := fun serdeError rest => by
    refine ⟨_, (preparedChange_eq hoperation serdeError rest).trans p.callerView_eq, ?_⟩
    rw [Value.get_object, Map.get_insert, if_pos rfl]
  applied := fun client coordinator digest encodeOutcome r h t result hstored hrun => by
    obtain ⟨history, operationId, actions, staged, hactions, hstage, hplan⟩ :=
      applyWrite_plan hrun
    have hone := (stageOne_ok.mp hstage).1
    rw [hstored history operationId actions hactions] at hone
    cases hone
    exact applyResult_shown encodeOutcome hplan

/-- **Views of a license write show the same projected state and nothing that is left out of
it.**  For an envelope that its constructor made, every view shows what stands for its state and
changes nothing else; a state that differs only in unlisted members of items gives the same view
but for the digest of the plan; and what a preparation stores is the envelope, byte for byte. -/
theorem license_views_agree [Crates] {action : LicenseWriteOperation} {deviceUuid : String}
    {request before : Value} {p : SdcPreparedLicenseWrite}
    (hnew : SdcPreparedLicenseWrite.new action deviceUuid request before = .ok p) :
    (∃ shown, StandsFor action before shown ∧ ViewsAgree p shown) ∧
    (∀ before' q, SdcPreparedLicenseWrite.new action deviceUuid request before' = .ok q →
      BeforeAgrees action before before' → ∃ v w,
        p.callerView = .ok v ∧ q.callerView = .ok w ∧ EqualBut "plan_digest" v w) ∧
    ∀ client sets owner r h t changeSet,
      prepareLicenseWrite client sets owner action deviceUuid request r h
        = (.ok ⟨changeSet, p⟩, t) →
      ∃ history stored created,
        sets.create history sets.tenant [stored] owner p.planDigest = .ok created ∧
        stored = p.encode.toValue ∧ stored.tree.toVec = p.encode.toVec := by
  obtain ⟨hoperation, haction, -, -, hbefore⟩ := SdcPreparedLicenseWrite.new_fields hnew
  have hstands := projectedOrWithheld_standsFor p.action p.before
  rw [haction, hbefore] at hstands
  have hshown : p.shown = projectedOrWithheld action before := by
    unfold SdcPreparedLicenseWrite.shown
    rw [haction, hbefore]
  refine ⟨⟨p.shown, hshown ▸ hstands, viewsAgree hoperation⟩, ?_, ?_⟩
  · intro before' q hq hagree
    exact SdcPreparedLicenseWrite.callerView_agree hnew hq hagree
  · intro client sets owner r h t changeSet hrun
    obtain ⟨history, created, hcreated⟩ := prepareLicenseWrite_stores hrun
    exact ⟨history, _, created, hcreated, rfl, congrArg Json.toVec p.encode_toValue_tree⟩

section Samples

/-- One license on a device, with a key that the read tools do not show. -/
def keyedLicense (key : String) : Map where
  entries := [("uuid", .string "license-1"), ("license_key", .string key)]
  nodup := by simp

def keyedLicenses (key : String) : Map where
  entries := [("items", .array [.object (keyedLicense key)]),
    ("count", ⟨.num (.posInt ⟨1, by decide⟩), trivial⟩)]
  nodup := by simp

def keyRequest : Value := .object (Map.empty.insert "license_key" (.string "TEST-KEY-123"))

/-- The plan to install a license on top of it, in key order. -/
def keyPlan (key : String) : Json :=
  .obj [("action", .str "install_license"),
    ("after", .obj [("license_key", .str "TEST-KEY-123")]),
    ("before", .obj [("count", .num (.posInt ⟨1, by decide⟩)),
      ("items", .arr [.obj [("license_key", .str key), ("uuid", .str "license-1")]])]),
    ("device_uuid", .str "device-1")]

def keyTables : Tables where
  documents := []
  digests :=
    [(keyPlan "AAAA",
      [185, 194, 152, 205, 189, 251, 145, 163, 155, 217, 9, 45, 3, 166, 173, 83, 31, 255, 76,
       92, 115, 202, 85, 126, 88, 46, 115, 160, 176, 43, 177, 127]),
    (keyPlan "BBBB",
      [205, 228, 189, 228, 87, 60, 235, 37, 38, 45, 194, 27, 74, 122, 48, 219, 210, 136, 109,
       77, 186, 194, 170, 47, 43, 92, 249, 17, 21, 108, 151, 226])]

local instance keyCrates : Crates := keyTables.crates

/-- A license that is installed while another one, with this key, is on the device. -/
def keyInstall (key : String) : SdcPreparedLicenseWrite where
  operation := "license_write"
  action := .installLicense
  deviceUuid := "device-1"
  request := keyRequest
  before := .object (keyedLicenses key)
  planDigest := canonicalDigest (SdcPreparedLicenseWrite.planArtifact .installLicense "device-1"
    keyRequest (.object (keyedLicenses key)))

/-- Two installations that differ in the key of the other license look the same. -/
theorem keys_not_shown : (∃ shown,
      StandsFor .installLicense (.object (keyedLicenses "AAAA")) shown ∧
      ViewsAgree (keyInstall "AAAA") shown) ∧ ∃ v w,
    (keyInstall "AAAA").callerView = .ok v ∧ (keyInstall "BBBB").callerView = .ok w ∧
      EqualBut "plan_digest" v w := by
  have hnew : ∀ key, (keyInstall key).validate = .ok () →
      SdcPreparedLicenseWrite.new .installLicense "device-1" keyRequest
        (.object (keyedLicenses key)) = .ok (keyInstall key) := fun key hvalid =>
    Except.bind_eq_ok_iff.mpr ⟨(), hvalid, rfl⟩
  have hitems : ItemAgrees licenseFields (.object (keyedLicense "AAAA"))
      (.object (keyedLicense "BBBB")) :=
    Or.inr ⟨keyedLicense "AAAA", keyedLicense "BBBB", rfl, rfl, Map.ext rfl⟩
  have hagree : BeforeAgrees .installLicense (.object (keyedLicenses "AAAA"))
      (.object (keyedLicenses "BBBB")) :=
    Or.inr ⟨_, _, rfl, rfl, .cons ⟨rfl, Or.inr ⟨rfl, _, _, rfl, rfl, .cons hitems .nil⟩⟩
      (.cons ⟨rfl, Or.inl rfl⟩ .nil)⟩
  obtain ⟨hviews, hshown, -⟩ := license_views_agree (hnew "AAAA" (by decide +kernel))
  exact ⟨hviews, hshown _ _ (hnew "BBBB" (by decide +kernel)) hagree⟩

end Samples

end SdcMcp
