/-
Reading records out of JSON trees, the way derived decoders do it.

A record is read from an object by field name or from an array by field position.
In an object no field may be named twice, and a record that denies unknown fields
accepts no other key; in an array there may be no item past the last field.  What
a missing field means depends on the field: it is an error, a default, or, for an
optional field of an object, an absent value.
-/
import SdcMcp.Lib.Json

namespace Serde

/-- The raw fields of a record, in declaration order. -/
structure Fields where
  /-- Whether they were read from an array. -/
  positional : Bool
  slots : List (Option Json)

/-- Splits a tree into the raw fields of a record. -/
def fields (names : List String) (denyUnknown : Bool) : Json → Option Fields
  | .obj members =>
      let keys := members.map Prod.fst
      if names.all (fun n => keys.count n ≤ 1) && (!denyUnknown || keys.all (· ∈ names)) then
        some ⟨false, names.map fun n => Json.lookup n members⟩
      else none
  | .arr items =>
      if items.length ≤ names.length then
        some ⟨true, items.map some ++ List.replicate (names.length - items.length) none⟩
      else none
  | _ => none

/-- No record that denies unknown fields is read from an object with another key. -/
theorem fields_unknown {names : List String} {members : List (String × Json)} {key : String}
    (hkey : key ∈ members.map Prod.fst) (hunknown : key ∉ names) :
    fields names true (.obj members) = none := by
  unfold fields
  dsimp only
  rw [if_neg]
  intro hfits
  rw [Bool.and_eq_true, Bool.not_true, Bool.false_or] at hfits
  exact hunknown (of_decide_eq_true (List.all_eq_true.mp hfits.2 key hkey))

variable {α : Type}

/-- A field that has to be there. -/
def required (decode : Json → Option α) (f : Fields) (i : Nat) : Option α :=
  match f.slots.getD i none with
  | some v => decode v
  | none => none

/-- A field with a default. -/
def defaulted (d : α) (decode : Json → Option α) (f : Fields) (i : Nat) : Option α :=
  match f.slots.getD i none with
  | some v => decode v
  | none => some d

/-- An object is read if it names only known members, each of them once. -/
theorem fields_obj_iff {names : List String} {members : List (String × Json)} {f : Fields} :
    fields names true (.obj members) = some f ↔
      (∀ key ∈ members.map Prod.fst, key ∈ names) ∧ (members.map Prod.fst).Nodup ∧
        f = ⟨false, names.map fun n => Json.lookup n members⟩ := by
  have hfits : ((names.all fun n => (members.map Prod.fst).count n ≤ 1) &&
      (!true || (members.map Prod.fst).all (· ∈ names))) = true ↔
        (∀ key ∈ members.map Prod.fst, key ∈ names) ∧ (members.map Prod.fst).Nodup := by
    rw [Bool.and_eq_true, Bool.not_true, Bool.false_or, List.all_eq_true, List.all_eq_true,
      List.nodup_iff_count_le_one]
    simp only [decide_eq_true_eq]
    constructor
    · rintro ⟨honce, hknown⟩
      refine ⟨hknown, fun key => ?_⟩
      by_cases hkey : key ∈ members.map Prod.fst
      · exact honce key (hknown key hkey)
      · rw [List.count_eq_zero.mpr hkey]
        exact Nat.zero_le 1
    · rintro ⟨hknown, honce⟩
      exact ⟨fun n _ => honce n, hknown⟩
  unfold fields
  dsimp only
  by_cases hall : ((names.all fun n => (members.map Prod.fst).count n ≤ 1) &&
      (!true || (members.map Prod.fst).all (· ∈ names))) = true
  · rw [if_pos hall, Option.some.injEq, ← and_assoc, ← hfits, eq_comm]
    exact (and_iff_right hall).symm
  · rw [if_neg hall]
    refine iff_of_false nofun fun h => hall (hfits.mpr ⟨h.1, h.2.1⟩)

/-- A list is read if it has no more items than there are members. -/
theorem fields_arr_iff {names : List String} {denyUnknown : Bool} {items : List Json} {f : Fields} :
    fields names denyUnknown (.arr items) = some f ↔ items.length ≤ names.length ∧
      f = ⟨true, items.map some ++ List.replicate (names.length - items.length) none⟩ := by
  unfold fields
  dsimp only
  by_cases hfits : items.length ≤ names.length
  · rw [if_pos hfits, Option.some.injEq, eq_comm]
    exact (and_iff_right hfits).symm
  · rw [if_neg hfits]
    exact iff_of_false nofun fun h => hfits h.1

/-- The slot of an item that is there holds it. -/
theorem slot_item {items : List Json} {n i : Nat} {v : Json} (h : items[i]? = some v) :
    (items.map some ++ List.replicate n none).getD i none = some v := by
  obtain ⟨hi, -⟩ := List.getElem?_eq_some_iff.mp h
  rw [List.getD_eq_getElem?_getD, List.getElem?_append_left (by rwa [List.length_map]),
    List.getElem?_map, h]
  rfl

/-- The slot of an item that is not there is empty. -/
theorem slot_missing {items : List Json} {n i : Nat} (h : items.length ≤ i) :
    (items.map some ++ List.replicate n none).getD i none = none := by
  rw [List.getD_eq_getElem?_getD, List.getElem?_append_right (by rwa [List.length_map]),
    List.getElem?_replicate]
  split <;> rfl

theorem required_eq_some {decode : Json → Option α} {f : Fields} {i : Nat} {a : α}
    (h : required decode f i = some a) :
    ∃ v, f.slots.getD i none = some v ∧ decode v = some a := by
  unfold required at h
  cases hslot : f.slots.getD i none with
  | none =>
      rw [hslot] at h
      cases h
  | some v =>
      rw [hslot] at h
      exact ⟨v, rfl, h⟩

theorem required_eq {decode : Json → Option α} {f : Fields} {i : Nat} {v : Json} {a : α}
    (hslot : f.slots.getD i none = some v) (hv : decode v = some a) :
    required decode f i = some a := by
  unfold required
  rw [hslot]
  exact hv

/-- A field with a default says what it holds, or may be missing where it holds the default. -/
theorem defaulted_eq {d : α} {decode : Json → Option α} {f : Fields} {i : Nat} {v : Json} {a : α}
    (hslot : f.slots.getD i none = some v ∨ f.slots.getD i none = none ∧ decode v = some d)
    (hv : decode v = some a) : defaulted d decode f i = some a := by
  unfold defaulted
  rcases hslot with hslot | ⟨hslot, hd⟩
  · rw [hslot]
    exact hv
  · rw [hslot]
    exact hd.symm.trans hv

theorem defaulted_eq_some {d : α} {decode : Json → Option α} {f : Fields} {i : Nat} {a : α}
    (h : defaulted d decode f i = some a) : a = d ∨ ∃ v, decode v = some a := by
  unfold defaulted at h
  cases hslot : f.slots.getD i none with
  | none =>
      rw [hslot] at h
      cases h
      exact .inl rfl
  | some v =>
      rw [hslot] at h
      exact .inr ⟨v, h⟩

/-- A value that may be `null`. -/
def nullable (decode : Json → Option α) : Json → Option (Option α)
  | .null => some none
  | v => (decode v).map some

/-- An optional field without a default: an object may leave it out, an array may not. -/
def optional (decode : Json → Option α) (f : Fields) (i : Nat) : Option (Option α) :=
  match f.slots.getD i none with
  | some v => nullable decode v
  | none => if f.positional then none else some none

/-- An array of items of one kind. -/
def list (decode : Json → Option α) : Json → Option (List α)
  | .arr items => items.mapM decode
  | _ => none

/-- A variant without data: its name, or an object binding its name to `null`. -/
def unitVariant (ofName : String → Option α) : Json → Option α
  | .str s => ofName s
  | .obj [(s, .null)] => ofName s
  | _ => none

/-- An optional string written as a string or `null`. -/
def encodeOption : Option String → Json
  | some s => .str s
  | none => .null

@[simp] theorem nullable_encodeOption (o : Option String) :
    nullable Json.asStr (encodeOption o) = some o := by
  cases o <;> rfl

theorem encodeOption_inj {a b : Option String} (h : (encodeOption a).Same (encodeOption b)) :
    a = b := by
  cases a <;> cases b <;> simp_all [encodeOption, Json.Same]

@[simp] theorem distinct_encodeOption (o : Option String) : (encodeOption o).Distinct := by
  cases o <;> simp [encodeOption]

/-- Items that are read back one by one are read back as a list. -/
theorem list_map_map {encode : α → Json} {decode : Json → Option α} {g : α → α}
    (h : ∀ a, decode (encode a) = some (g a)) (l : List α) :
    list decode (.arr (l.map encode)) = some (l.map g) := by
  show (l.map encode).mapM decode = some (l.map g)
  induction l with
  | nil => rfl
  | cons a rest ih => simp [h, ih]

theorem list_map {encode : α → Json} {decode : Json → Option α}
    (h : ∀ a, decode (encode a) = some a) (l : List α) :
    list decode (.arr (l.map encode)) = some l := by
  have hid : ∀ a, decode (encode a) = some (id a) := h
  rw [list_map_map hid, List.map_id]

/-! ### Unsigned integers -/

/-- An unsigned integer below a bound. -/
def asUnsigned (bound : Nat) : Json → Option Nat
  | .num (.posInt n) => if n.val < bound then some n.val else none
  | _ => none

def encodeUnsigned (n : Nat) : Json := .num (.posInt ⟨n % 2 ^ 64, Nat.mod_lt n (by decide)⟩)

theorem asUnsigned_encode {bound n : Nat} (hbound : n < bound) (hn : n < 2 ^ 64) :
    asUnsigned bound (encodeUnsigned n) = some n := by
  show (if n % 2 ^ 64 < bound then some (n % 2 ^ 64) else none) = some n
  rw [Nat.mod_eq_of_lt hn, if_pos hbound]

end Serde
