/-
What is shown of the license keys that a replaced device lacks.

The keys are blanked one by one, so that a caller sees how many there are.  This is all that
is seen of them: states of a device are shown as the same exactly when they differ in
nothing but the keys, and there in nothing but the keys themselves.  A state whose keys were
blanked is not a body that the client sends, so what was read with blanks in it is not
written back.
-/
import SdcMcp.Proofs.Redaction
import SdcMcp.Proofs.Sessions

namespace SdcMcp

open Interactive

/-! ### The shape of the keys -/

/-- What a caller learns of the keys. -/
inductive LicenseShape where
  | none
  | list (length : Nat)
  /-- Anything else; the API names no such value. -/
  | other
  deriving DecidableEq

def licenseShape (licenses : Value) : LicenseShape :=
  match licenses.asArray with
  | some items => .list items.length
  | none => if licenses.tree.isNull then .none else .other

/-- What is shown of keys of a shape. -/
def LicenseShape.shown : LicenseShape → Value
  | .none => Value.null
  | .list length => .array (List.replicate length (.string redacted))
  | .other => .string redacted

theorem LicenseShape.shown_injective : Function.Injective LicenseShape.shown := by
  intro a b h
  have htree := congrArg Value.tree h
  cases a with
  | none => cases b <;> first | rfl | cases htree
  | other => cases b <;> first | rfl | cases htree
  | list m =>
      cases b with
      | none => cases htree
      | other => cases htree
      | list n =>
          have hitems := congrArg List.length (Value.array_inj h)
          rw [List.length_replicate, List.length_replicate] at hitems
          rw [hitems]

/-- The keys are shown by their shape. -/
theorem redactLicenses_eq (licenses : Value) :
    redactLicenses licenses = (licenseShape licenses).shown := by
  unfold redactLicenses licenseShape
  cases harray : licenses.asArray with
  | some items =>
      show Value.array (items.map fun _ => .string redacted) = _
      rw [List.map_const']
      rfl
  | none =>
      dsimp only
      by_cases hnull : licenses.tree.isNull = true
      · rw [if_pos hnull, if_pos hnull]
        refine Value.ext_tree ?_
        cases htree : licenses.tree <;> rw [htree] at hnull <;> first | rfl | cases hnull
      · rw [if_neg hnull, if_neg hnull]
        rfl

/-! ### States that are shown as the same -/

/-- States that differ in nothing but license keys, which have one shape. -/
def RmaAlike (v w : Value) : Prop :=
  v = w ∨ ∃ m n : Map, v = .object m ∧ w = .object n ∧ m.keys = n.keys ∧
    (∀ key ≠ "missing_licenses", m.get key = n.get key) ∧
    (m.get "missing_licenses").map licenseShape = (n.get "missing_licenses").map licenseShape

/-- The members of a state as they are shown. -/
def shownMembers (m : Map) : Map :=
  match m.get "missing_licenses" with
  | none => m
  | some licenses => m.insert "missing_licenses" (redactLicenses licenses)

theorem redactRmaState_object (m : Map) :
    redactRmaState (.object m) = .object (shownMembers m) := by
  unfold redactRmaState shownMembers
  rw [Value.asObject_object]
  dsimp only
  cases m.get "missing_licenses" <;> rfl

theorem keys_shownMembers (m : Map) : (shownMembers m).keys = m.keys := by
  unfold shownMembers
  cases hlicenses : m.get "missing_licenses" with
  | none => rfl
  | some licenses =>
      refine Map.keys_insert ?_ _
      by_contra hno
      rw [Map.get_eq_none_iff.mpr hno] at hlicenses
      cases hlicenses

theorem get_shownMembers (m : Map) (key : String) :
    (shownMembers m).get key = if key = "missing_licenses"
      then (m.get "missing_licenses").map fun licenses => (licenseShape licenses).shown
      else m.get key := by
  unfold shownMembers
  cases hlicenses : m.get "missing_licenses" with
  | none =>
      by_cases hkey : key = "missing_licenses"
      · rw [if_pos hkey, hkey, hlicenses]
        rfl
      · rw [if_neg hkey]
  | some licenses =>
      show (m.insert _ _).get key = _
      rw [Map.get_insert, redactLicenses_eq]
      rfl

theorem redactRmaState_plain {v : Value} (h : v.asObject = none) : redactRmaState v = v := by
  unfold redactRmaState
  rw [h]

/-- **States are shown as the same exactly when they differ in nothing but the keys.** -/
theorem redactRmaState_eq_iff {v w : Value} :
    redactRmaState v = redactRmaState w ↔ RmaAlike v w := by
  have hmixed : ∀ {a : Value} {n : Map}, a.asObject = none → a ≠ .object n := by
    rintro a n ha rfl
    rw [Value.asObject_object] at ha
    cases ha
  cases hv : v.asObject with
  | none =>
      rw [redactRmaState_plain hv]
      constructor
      · intro h
        cases hw : w.asObject with
        | none => exact .inl (h.trans (redactRmaState_plain hw))
        | some n =>
            rw [Value.asObject_eq_some.mp hw, redactRmaState_object] at h
            exact absurd h (hmixed hv)
      · rintro (rfl | ⟨m, n, rfl, -⟩)
        · exact (redactRmaState_plain hv).symm
        · exact absurd rfl (hmixed hv)
  | some m =>
      obtain rfl := Value.asObject_eq_some.mp hv
      rw [redactRmaState_object]
      cases hw : w.asObject with
      | none =>
          rw [redactRmaState_plain hw]
          refine iff_of_false (fun h => hmixed hw h.symm) ?_
          rintro (rfl | ⟨-, n, -, rfl, -⟩)
          · exact hmixed hw rfl
          · exact hmixed hw rfl
      | some n =>
          obtain rfl := Value.asObject_eq_some.mp hw
          rw [redactRmaState_object]
          constructor
          · intro h
            have hshown := Value.object_inj h
            have hget : ∀ key, (shownMembers m).get key = (shownMembers n).get key :=
              fun key => congrArg (fun l => Map.get l key) hshown
            refine .inr ⟨m, n, rfl, rfl, ?_, fun key hkey => ?_, ?_⟩
            · rw [← keys_shownMembers m, hshown, keys_shownMembers]
            · have hsame := hget key
              rwa [get_shownMembers, get_shownMembers, if_neg hkey, if_neg hkey] at hsame
            · have hsame := hget "missing_licenses"
              rw [get_shownMembers, get_shownMembers, if_pos rfl, if_pos rfl] at hsame
              refine Option.map_injective LicenseShape.shown_injective ?_
              rw [Option.map_map, Option.map_map]
              exact hsame
          · rintro (h | ⟨m', n', hm, hn, hkeys, hothers, hshape⟩)
            · rw [Value.object_inj h]
            · cases Value.object_inj hm
              cases Value.object_inj hn
              have hlicenses := congrArg (Option.map LicenseShape.shown) hshape
              rw [Option.map_map, Option.map_map] at hlicenses
              refine congrArg Value.object (Map.eq_of_get ?_ fun key _ => ?_)
              · rw [keys_shownMembers, keys_shownMembers, hkeys]
              · rw [get_shownMembers, get_shownMembers]
                by_cases hkey : key = "missing_licenses"
                · rw [if_pos hkey, if_pos hkey]
                  exact hlicenses
                · rw [if_neg hkey, if_neg hkey]
                  exact hothers key hkey

/-! ### Blanks are not written back -/

/-- Blanked keys are marked, unless there were none. -/
theorem shown_marked {licenses : Value} (h : redactLicenses licenses ≠ licenses) :
    Marked (redactLicenses licenses).tree := by
  have hmarker : Marked (Value.string redacted).tree := marked_str.mpr (List.infix_refl _)
  unfold redactLicenses at h ⊢
  cases harray : licenses.asArray with
  | none =>
      rw [harray] at h
      by_cases hnull : licenses.tree.isNull = true
      · exact absurd (if_pos hnull) h
      · dsimp only
        rw [if_neg hnull]
        exact hmarker
  | some items =>
      rw [harray, Value.asArray_eq_some.mp harray] at h
      cases items with
      | nil => exact absurd rfl h
      | cons item rest => exact marked_arr.mpr ⟨_, List.mem_cons_self, hmarker⟩

/-- A state that is not shown as it is has a marker in it. -/
theorem redactRmaState_marked {v : Value} (h : redactRmaState v ≠ v) :
    Marked (redactRmaState v).tree := by
  cases hv : v.asObject with
  | none => exact absurd (redactRmaState_plain hv) h
  | some m =>
      obtain rfl := Value.asObject_eq_some.mp hv
      rw [redactRmaState_object] at h ⊢
      cases hlicenses : m.get "missing_licenses" with
      | none =>
          unfold shownMembers at h
          rw [hlicenses] at h
          exact absurd rfl h
      | some licenses =>
          have hshown : (shownMembers m).get "missing_licenses"
              = some (redactLicenses licenses) := by
            rw [get_shownMembers, if_pos rfl, hlicenses, redactLicenses_eq]
            rfl
          have hmoved : redactLicenses licenses ≠ licenses := by
            intro hsame
            refine h (congrArg Value.object (Map.eq_of_get (keys_shownMembers m) fun key _ => ?_))
            by_cases hkey : key = "missing_licenses"
            · rw [hkey, hshown, hsame, hlicenses]
            · rw [get_shownMembers, if_neg hkey]
          refine marked_obj.mpr ⟨("missing_licenses", (redactLicenses licenses).tree),
            List.mem_map.mpr ⟨_, Map.get_eq_some_iff.mp hshown, rfl⟩, shown_marked hmoved⟩

/-! ### The answer of the tool -/

section Answers

variable [Crates] [HandlerCrates]

/-- **License keys are withheld.**  The answer of `get_sdc_rma_state` is the state that SDC gave
for the device, as `redactRmaState` shows it and without its secrets.  Every other state is shown
as the same exactly when it differs from that one in nothing but license keys, in a list of as
many of them or in a value that is no list; and a state that had keys blanked is a body that no
method of the client sends. -/
theorem rma_licenses_withheld (base : SdcHandler) (s : Served) (deviceId : String)
    (paging : PageArgs) (htool : s.call.tool = .read (.getSdcRmaState deviceId) paging)
    (answer : Value) (hanswer : (s.run base).1 = .ok answer) :
    ∃ state a,
      .attempt ⟨.get, ["api", "v1", "devices", deviceId, "rma", "state"], [], none⟩ a
        ∈ s.events base ∧
      readVerdict base.client decodeValue a.exchange = .ok state ∧
      answer = HandlerCrates.redactSecrets (redactRmaState state) ∧
      (∀ other, redactRmaState other = redactRmaState state ↔ RmaAlike other state) ∧
      (redactRmaState state ≠ state → ∀ (client : SdcClient) (r : Env) (h : List Event),
        (∀ method : BodyWrite, ∃ e,
          (method.call (redactRmaState state)).run client r h = (.err e, [])) ∧
        ∀ method : BodyJob, ∃ e,
          (method.call (redactRmaState state)).run client r h = (.err e, [])) := by
  have hrun : (s.handler base).handle s.call s.env s.history = (.ok answer, s.events base) :=
    Prod.ext hanswer rfl
  obtain ⟨state, w, hio, hpresented, rfl⟩ := (s.handler base).handle_eq_ok hrun
  rw [htool] at hio hpresented
  cases hpresented
  obtain ⟨u, -, hread⟩ := Run.lift_bind_eq_ok hio
  obtain ⟨⟨a, hmem, hverdict⟩, -⟩ := get_answered hread
  refine ⟨state, a, hmem, hverdict, rfl, fun other => redactRmaState_eq_iff,
    fun hmoved client r h => ?_⟩
  have hmarked := redactRmaState_marked hmoved
  exact ⟨fun method => WriteCall.run_marked (method.call_body _) hmarked r h,
    fun method => JobCall.run_marked (method.call_body _) hmarked r h⟩

end Answers

/-! ### A device that lacks two licenses -/

section LackingDevice

def lackingState (keys : List String) : Value where
  tree := .obj [("device_id", .str "d1"), ("missing_licenses", .arr (keys.map .str))]
  distinct := by simp

def lackingTables : Tables where
  documents := [(lackingState ["LIC-1", "LIC-2"]).tree]
  digests := []

local instance lackingCrates : Crates := lackingTables.crates

local instance lackingHandlerCrates : HandlerCrates := scopedCrates

def readRma : Served where
  call := ⟨some ⟨"reader", .wildcard, .wildcard⟩, "tenant-a",
    .read (.getSdcRmaState "d1") ⟨[], none⟩⟩
  changes := hostManager
  env := Env.answering fun _ => .replies 200 (lackingState ["LIC-1", "LIC-2"]).tree
  history := []

set_option maxRecDepth 40000 in
theorem readRma_answer : (readRma.run hostHandler).1
    = .ok (lackingState ["[REDACTED]", "[REDACTED]"]) := by rfl

theorem readRma_withheld : ∃ state,
    lackingState ["[REDACTED]", "[REDACTED]"] = redactRmaState state ∧
      ∀ other, redactRmaState other = redactRmaState state ↔ RmaAlike other state := by
  obtain ⟨state, a, -, -, hanswer, halike, -⟩ :=
    rma_licenses_withheld hostHandler readRma "d1" ⟨[], none⟩ rfl _ readRma_answer
  exact ⟨state, hanswer, halike⟩

end LackingDevice

end SdcMcp
