/-
Device sync plans do not depend on the order of their list.

The list is checked and sorted before anything is read, and all that is done after
that is done with the sorted list.  Equal entries are found by removing equal
neighbours, which finds them all because the list is sorted by then.
-/
import SdcMcp.Lib.ByteOrder
import SdcMcp.Model.Prepare
import SdcMcp.Proofs.PreparedChange
import SdcMcp.Proofs.Requests
import SdcMcp.Proofs.Restage

namespace SdcMcp

open Interactive

/-! ### Lists of devices -/

/-- The lists that can be synced: 1 to 64 devices, each a plain atom, no two of them equal. -/
structure SyncableDevices (deviceUuids : List String) : Prop where
  nonempty : 1 ≤ deviceUuids.length
  count : deviceUuids.length ≤ 64
  plain : ∀ uuid ∈ deviceUuids, PlainAtom 256 uuid
  distinct : deviceUuids.Nodup

namespace SdcPreparedDeviceSync

variable {deviceUuids sorted : List String}

private theorem sort_sorted (deviceUuids : List String) :
    (deviceUuids.insertionSort (· ≤ ·)).Pairwise fun a b => id a ≤ id b :=
  deviceUuids.pairwise_insertionSort (· ≤ ·)

private theorem sort_strict_iff :
    (deviceUuids.insertionSort (· ≤ ·)).Pairwise (· < ·) ↔ deviceUuids.Nodup := by
  have hstrict := Sorting.strict_iff_nodup Function.injective_id (sort_sorted deviceUuids)
  exact hstrict.trans (deviceUuids.perm_insertionSort (· ≤ ·)).nodup_iff

theorem canonicalDeviceList_eq_sort (h : canonicalDeviceList deviceUuids = .ok sorted) :
    sorted = deviceUuids.insertionSort (· ≤ ·) :=
  (canonicalDeviceList_ok_iff.mp h).1

theorem canonicalDeviceList_perm (h : canonicalDeviceList deviceUuids = .ok sorted) :
    sorted.Perm deviceUuids := by
  rw [canonicalDeviceList_eq_sort h]
  exact deviceUuids.perm_insertionSort (· ≤ ·)

theorem canonicalDeviceList_isOk_iff :
    (∃ sorted, canonicalDeviceList deviceUuids = .ok sorted) ↔ SyncableDevices deviceUuids := by
  have hperm := deviceUuids.perm_insertionSort (· ≤ ·)
  constructor
  · rintro ⟨sorted, h⟩
    obtain ⟨rfl, hne, hcanonical⟩ := canonicalDeviceList_ok_iff.mp h
    refine ⟨?_, ?_, fun uuid huuid => ?_, sort_strict_iff.mp hcanonical.sorted⟩
    · rw [← hperm.length_eq]
      exact List.length_pos_iff.mpr hne
    · rw [← hperm.length_eq]
      exact hcanonical.size
    · exact isAtom_iff.mp (hcanonical.atoms uuid (hperm.mem_iff.mpr huuid))
  · intro hsync
    refine ⟨_, canonicalDeviceList_ok_iff.mpr ⟨rfl, ?_, ?_, fun uuid huuid => ?_,
      sort_strict_iff.mpr hsync.distinct⟩⟩
    · refine List.length_pos_iff.mp ?_
      rw [hperm.length_eq]
      exact hsync.nonempty
    · rw [hperm.length_eq]
      exact hsync.count
    · exact isAtom_iff.mpr (hsync.plain uuid (hperm.mem_iff.mp huuid))

/-- The list that comes out is in the strict order of its bytes. -/
theorem canonicalDeviceList_strict (h : canonicalDeviceList deviceUuids = .ok sorted) :
    sorted.Pairwise fun a b => Json.utf8 a < Json.utf8 b :=
  (canonicalDeviceList_ok_iff.mp h).2.2.sorted.imp fun hab => Json.utf8_lt_iff.mpr hab

/-- A list that came out once comes out again. -/
theorem canonicalDeviceList_idem (h : canonicalDeviceList deviceUuids = .ok sorted) :
    canonicalDeviceList sorted = .ok sorted := by
  obtain ⟨hsort, hne, hcanonical⟩ := canonicalDeviceList_ok_iff.mp h
  refine canonicalDeviceList_ok_iff.mpr ⟨?_, hne, hcanonical⟩
  have hle : sorted.Pairwise (· ≤ ·) := hcanonical.sorted.imp fun hab => le_of_lt hab
  exact hle.insertionSort_eq.symm

/-- Lists with the same entries come out alike, or are refused alike. -/
theorem canonicalDeviceList_congr {others : List String} (h : others.Perm deviceUuids) :
    canonicalDeviceList others = canonicalDeviceList deviceUuids := by
  have hsort : others.insertionSort (· ≤ ·) = deviceUuids.insertionSort (· ≤ ·) := by
    refine Sorting.eq_of_perm Function.injective_id ?_ (sort_sorted others)
      (sort_sorted deviceUuids)
    exact (others.perm_insertionSort (· ≤ ·)).trans
      (h.trans (deviceUuids.perm_insertionSort (· ≤ ·)).symm)
  have hempty : others.isEmpty = deviceUuids.isEmpty := by
    rw [Bool.eq_iff_iff, List.isEmpty_iff, List.isEmpty_iff]
    exact ⟨fun hnil => (hnil ▸ h).nil_eq.symm, fun hnil => (hnil ▸ h).eq_nil⟩
  have hany : (others.any fun uuid => !isAtom 256 uuid)
      = deviceUuids.any fun uuid => !isAtom 256 uuid := by
    rw [Bool.eq_iff_iff, List.any_eq_true, List.any_eq_true]
    exact exists_congr fun uuid => and_congr_left fun _ => h.mem_iff
  unfold canonicalDeviceList
  rw [hsort, hempty, hany, h.length_eq]

end SdcPreparedDeviceSync

/-! ### The run of a preparation -/

section Preparation

variable [Crates] {client : SdcClient} {sets : ChangeSets} {owner : String}

def deviceRequest (deviceUuid : String) : Request :=
  ⟨.get, ["api", "v1", "devices", deviceUuid], [], none⟩

/-- An answer to the read of a device was among the events. -/
def DeviceRead (client : SdcClient) (t : List Event) (deviceUuid : String) (device : Value) :
    Prop :=
  ∃ a, .attempt (deviceRequest deviceUuid) a ∈ t ∧
    readVerdict client decodeValue a.exchange = .ok device

/-- Each device is kept under its UUID, as it was read; what was kept before stays. -/
theorem readDevices_ok {uuids : List String} (hdistinct : uuids.Nodup) {before after : Map}
    {r : Env} {h t : List Event}
    (hrun : readDevices client before uuids r h = (.ok after, t)) :
    (∀ uuid ∈ uuids, ∃ device, after.get uuid = some device ∧ DeviceRead client t uuid device) ∧
      ∀ key, key ∉ uuids → after.get key = before.get key := by
  induction uuids generalizing before h t with
  | nil =>
      cases hrun
      exact ⟨fun uuid huuid => absurd huuid List.not_mem_nil, fun key _ => rfl⟩
  | cons uuid rest ih =>
      obtain ⟨hfresh, hrest⟩ := List.nodup_cons.mp hdistinct
      obtain ⟨device, t1, t2, hread, hmore, rfl⟩ := Run.bind_eq_ok hrun
      obtain ⟨hkept, hothers⟩ := ih hrest hmore
      obtain ⟨a, ha, hverdict⟩ := readCall_answered hread
      constructor
      · intro u hu
        rcases List.mem_cons.mp hu with rfl | hu
        · refine ⟨device, ?_, a, List.mem_append_left _ ha, hverdict⟩
          rw [hothers u hfresh, Map.get_insert, if_pos rfl]
        · obtain ⟨d, hd, b, hb, hv⟩ := hkept u hu
          exact ⟨d, hd, b, List.mem_append_right _ hb, hv⟩
      · intro key hkey
        rw [List.mem_cons, not_or] at hkey
        rw [hothers key hkey.2, Map.get_insert, if_neg hkey.1]

/-- A list that is refused is refused before anything is read. -/
theorem prepareDeviceSync_refused {deviceUuids : List String} {e : SdcError}
    (h : SdcPreparedDeviceSync.canonicalDeviceList deviceUuids = .error e) (r : Env)
    (history : List Event) :
    prepareDeviceSync client sets owner deviceUuids r history = (.err e, []) := by
  unfold prepareDeviceSync
  rw [h, Run.lift_error_bind]

theorem prepareDeviceSync_congr {deviceUuids others : List String}
    (h : others.Perm deviceUuids) : prepareDeviceSync client sets owner others
      = prepareDeviceSync client sets owner deviceUuids := by
  unfold prepareDeviceSync
  rw [SdcPreparedDeviceSync.canonicalDeviceList_congr h]

/-- The reads of devices, and no other requests. -/
theorem readDevices_requests (before : Map) (uuids : List String) :
    (readDevices client before uuids).Emits fun e =>
      ∀ q, e.request = some q → ∃ uuid ∈ uuids, q = deviceRequest uuid := by
  induction uuids generalizing before with
  | nil => exact Run.emits_pure
  | cons uuid rest ih =>
      refine Run.emits_bind (fun r h e he q hq => ?_) fun device r h e he q hq => ?_
      · exact ⟨uuid, List.mem_cons_self, readCall_requests none decodeValue _ _ r h e he q hq⟩
      · obtain ⟨u, hu, hrequest⟩ := ih _ r h e he q hq
        exact ⟨u, List.mem_cons_of_mem _ hu, hrequest⟩

/-- A preparation sends reads of the devices on its list, and nothing else. -/
theorem prepareDeviceSync_requests (deviceUuids : List String) :
    (prepareDeviceSync client sets owner deviceUuids).Emits fun e =>
      ∀ q, e.request = some q → ∃ uuid ∈ deviceUuids, q = deviceRequest uuid := by
  refine Run.emits_lift_bind fun sorted hsorted => planned_emits ?_ _ sets _ owner _ _
  intro r h e he q hq
  obtain ⟨uuid, huuid, hrequest⟩ := readDevices_requests _ _ r h e he q hq
  exact ⟨uuid, (SdcPreparedDeviceSync.canonicalDeviceList_perm hsorted).mem_iff.mp huuid, hrequest⟩

/-- The plan of a sync: it names the devices in order, binds each of them and nothing else to the
state that was read for it, and carries the digest of all that. -/
structure PlansSync (client : SdcClient) (deviceUuids : List String) (t : List Event)
    (p : SdcPreparedDeviceSync) : Prop where
  devices : p.deviceUuids = deviceUuids.insertionSort (· ≤ ·)
  bound : ∀ uuid ∈ deviceUuids, ∃ device, p.before.get uuid = some device ∧
    DeviceRead client t uuid device
  only : ∀ key, key ∉ deviceUuids → p.before.get key = none
  digest : p.planDigest = canonicalDigest p.plan

/-- **The plan of a sync** is of what was read in the same run. -/
theorem prepareDeviceSync_plan {deviceUuids : List String} {r : Env} {history t : List Event}
    {result : DeviceSyncPrepareResult}
    (hrun : prepareDeviceSync client sets owner deviceUuids r history = (.ok result, t)) :
    PlansSync client deviceUuids t result.preparedChange := by
  obtain ⟨sorted, hsorted, hchecked⟩ := Run.lift_bind_eq_ok hrun
  obtain ⟨before, t1, t2, hreads, hread, rfl⟩ := Run.bind_eq_ok hchecked
  obtain ⟨prepared, hprepared, hbuilt⟩ := Run.lift_bind_eq_ok hread
  obtain ⟨created, t3, t4, -, hcreated, rfl⟩ := Run.bind_eq_ok hbuilt
  obtain ⟨waived, t5, t6, -, hended, rfl⟩ := Run.bind_eq_ok hcreated
  cases hended
  obtain ⟨sorted', hsorted', hmade⟩ := Except.bind_eq_ok_iff.mp hprepared
  obtain ⟨u, -, hmade⟩ := Except.bind_eq_ok_iff.mp hmade
  rw [SdcPreparedDeviceSync.canonicalDeviceList_idem hsorted, Except.ok.injEq] at hsorted'
  subst hsorted'
  cases hmade
  have hperm := SdcPreparedDeviceSync.canonicalDeviceList_perm hsorted
  have hdistinct : sorted.Nodup := by
    have hsync := SdcPreparedDeviceSync.canonicalDeviceList_isOk_iff.mp ⟨sorted, hsorted⟩
    exact hperm.nodup_iff.mpr hsync.distinct
  obtain ⟨hkept, hothers⟩ := readDevices_ok hdistinct hreads
  refine ⟨SdcPreparedDeviceSync.canonicalDeviceList_eq_sort hsorted, fun uuid huuid => ?_,
    fun key hkey => ?_, rfl⟩
  · obtain ⟨device, hdevice, a, ha, hverdict⟩ := hkept uuid (hperm.mem_iff.mpr huuid)
    exact ⟨device, (Value.get_object before uuid).trans hdevice, a, List.mem_append_left _ ha,
      hverdict⟩
  · exact (Value.get_object before key).trans (hothers key fun hmem => hkey (hperm.mem_iff.mp hmem))

/-- **A device sync is planned canonically.**  The check of the list takes 1 to 64 plain and
different UUIDs; it puts them in the strict order of their bytes, leaves a list in that order as
it is and treats the same list in another order alike.  So a preparation does the same for every
order of its list, in its reads and in its plan, and it reads nothing for a list that is refused.
It reads the devices on the list and plans with what it read of them. -/
theorem device_list_canonical (client : SdcClient) (sets : ChangeSets) (owner : String)
    (deviceUuids : List String) :
    ((∃ sorted, SdcPreparedDeviceSync.canonicalDeviceList deviceUuids = .ok sorted) ↔
      SyncableDevices deviceUuids) ∧
    (∀ sorted, SdcPreparedDeviceSync.canonicalDeviceList deviceUuids = .ok sorted →
      sorted.Perm deviceUuids ∧ (sorted.Pairwise fun a b => Json.utf8 a < Json.utf8 b) ∧
        SdcPreparedDeviceSync.canonicalDeviceList sorted = .ok sorted) ∧
    (∀ others : List String, others.Perm deviceUuids →
      SdcPreparedDeviceSync.canonicalDeviceList others
          = SdcPreparedDeviceSync.canonicalDeviceList deviceUuids ∧
        ∀ (r : Env) (h : List Event), prepareDeviceSync client sets owner others r h
          = prepareDeviceSync client sets owner deviceUuids r h) ∧
    (∀ e, SdcPreparedDeviceSync.canonicalDeviceList deviceUuids = .error e →
      ∀ (r : Env) (h : List Event),
        prepareDeviceSync client sets owner deviceUuids r h = (.err e, [])) ∧
    ∀ (r : Env) (h : List Event),
      (∀ e ∈ (prepareDeviceSync client sets owner deviceUuids r h).2, ∀ q, e.request = some q →
        ∃ uuid ∈ deviceUuids, q = deviceRequest uuid) ∧
      ∀ result t, prepareDeviceSync client sets owner deviceUuids r h = (.ok result, t) →
        PlansSync client deviceUuids t result.preparedChange := by
  refine ⟨SdcPreparedDeviceSync.canonicalDeviceList_isOk_iff, ?_, ?_, ?_, ?_⟩
  · intro sorted hsorted
    exact ⟨SdcPreparedDeviceSync.canonicalDeviceList_perm hsorted,
      SdcPreparedDeviceSync.canonicalDeviceList_strict hsorted,
      SdcPreparedDeviceSync.canonicalDeviceList_idem hsorted⟩
  · intro others hperm
    refine ⟨SdcPreparedDeviceSync.canonicalDeviceList_congr hperm, fun r h => ?_⟩
    rw [prepareDeviceSync_congr hperm]
  · intro e he r h
    exact prepareDeviceSync_refused he r h
  · intro r h
    exact ⟨prepareDeviceSync_requests deviceUuids r h, fun _ _ => prepareDeviceSync_plan⟩

end Preparation

/-! ### A list in two orders -/

/-- A coordinator that stores nothing and answers with one change set. -/
def quietSets : ChangeSets where
  tenant := "tenant-a"
  labMode := false
  create := fun _ _ _ _ _ => .ok ⟨"cs-1", "sha256:0", .null⟩
  waiveApproval := fun _ _ _ _ _ => .error "not in lab mode"

/-- Two devices come out in order, and in either order they are planned alike; the same device
twice is refused before anything is read. -/
theorem twoDevices_planned : ∃ _ : Crates,
    SdcPreparedDeviceSync.canonicalDeviceList ["dev-2", "dev-1"] = .ok ["dev-1", "dev-2"] ∧
      SdcPreparedDeviceSync.canonicalDeviceList ["dev-1", "dev-2"] = .ok ["dev-1", "dev-2"] ∧
      prepareDeviceSync minuteClient quietSets "owner" ["dev-2", "dev-1"]
          (Env.answering fun _ => .replies 200 .null) []
        = prepareDeviceSync minuteClient quietSets "owner" ["dev-1", "dev-2"]
          (Env.answering fun _ => .replies 200 .null) [] ∧
      (prepareDeviceSync minuteClient quietSets "owner" ["dev-1", "dev-1"]
        (Env.answering fun _ => .replies 200 .null) []).2 = [] := by
  have hsorted : SdcPreparedDeviceSync.canonicalDeviceList ["dev-2", "dev-1"]
      = .ok ["dev-1", "dev-2"] := by decide +kernel
  have htwice : SdcPreparedDeviceSync.canonicalDeviceList ["dev-1", "dev-1"]
      = .error (.preparedChange "device sync names the same device more than once") := by
    decide +kernel
  refine ⟨Tables.crates ⟨[], []⟩, hsorted, ?_⟩
  obtain ⟨-, hstrict, horder, -⟩ := @device_list_canonical (Tables.crates ⟨[], []⟩) minuteClient
    quietSets "owner" ["dev-1", "dev-2"]
  obtain ⟨hcongr, hruns⟩ := horder ["dev-2", "dev-1"] (List.Perm.swap _ _ _)
  obtain ⟨-, -, -, hrefused, -⟩ := @device_list_canonical (Tables.crates ⟨[], []⟩) minuteClient
    quietSets "owner" ["dev-1", "dev-1"]
  exact ⟨hcongr.symm.trans hsorted, hruns _ _, congrArg Prod.snd (hrefused _ htwice _ _)⟩

end SdcMcp
