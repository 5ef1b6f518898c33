/-
JSON trees, and what it means for two of them to be the same document.

An object is the list of its members in document order.  A tree read from a text
may name a member twice; a decoded value may not, and `Distinct` says so at every
depth.  `Value` is a tree with that property.

`Same` is equality up to the order of object members: arrays are compared in
order, scalars exactly, and an object by its keys and by the value under each of
them.  `canonicalize` rebuilds every object in key order, and on values it
decides `Same`.
-/
import SdcMcp.Lib.SortedMap
import Mathlib.Data.List.Nodup
import Mathlib.Data.String.Basic

/-- A finite double, named by the shortest decimal text that reads back as it. -/
structure FloatText where
  chars : List Char
  /-- The text is made of number characters and is not the text of an integer. -/
  wf : (chars.all fun c => c.isDigit || c ∈ ['-', '+', '.', 'e']) = true ∧
    (chars.any fun c => c ∈ ['.', 'e']) = true

/-- A JSON number: an unsigned integer, a negative one, or a double. -/
inductive Number where
  | posInt (n : Fin (2 ^ 64))
  /-- The integer `-(n + 1)`. -/
  | negInt (n : Fin (2 ^ 63))
  | float (text : FloatText)

/-- A JSON tree. -/
inductive Json where
  | null
  | bool (b : Bool)
  | num (n : Number)
  | str (s : String)
  | arr (items : List Json)
  | obj (members : List (String × Json))

namespace Json

/-- Induction over a tree, with one hypothesis for all the children of a node. -/
@[elab_as_elim, induction_eliminator]
theorem induct {P : Json → Prop} (null : P .null) (bool : ∀ b, P (.bool b))
    (num : ∀ n, P (.num n)) (str : ∀ s, P (.str s))
    (arr : ∀ items, (∀ v ∈ items, P v) → P (.arr items))
    (obj : ∀ members, (∀ m ∈ members, P m.2) → P (.obj members)) : ∀ v, P v := by
  intro v
  refine @Json.rec P (fun items => ∀ v ∈ items, P v) (fun members => ∀ m ∈ members, P m.2)
    (fun m => P m.2)
    null bool num str arr obj ?_ ?_ ?_ ?_ ?_ v
  · simp
  · intro head tail hh ht w hw
    rcases List.mem_cons.mp hw with rfl | hw'
    · exact hh
    · exact ht w hw'
  · simp
  · intro head tail hh ht m hm
    rcases List.mem_cons.mp hm with rfl | hm'
    · exact hh
    · exact ht m hm'
  · intro _ _ h
    exact h

/-! ### Reading a tree -/

/-- The value under a key of a member list, the first one if there are several. -/
def lookup (key : String) : List (String × Json) → Option Json
  | [] => none
  | (k, v) :: rest => if k = key then some v else lookup key rest

/-- The member `key` of an object. -/
def get (v : Json) (key : String) : Option Json :=
  match v with
  | .obj members => lookup key members
  | _ => none

def asStr : Json → Option String
  | .str s => some s
  | _ => none

def isNull : Json → Bool
  | .null => true
  | _ => false

def isObject : Json → Bool
  | .obj _ => true
  | _ => false

theorem mem_of_lookup {key : String} {v : Json} {members : List (String × Json)}
    (h : lookup key members = some v) : (key, v) ∈ members := by
  induction members with
  | nil => simp [lookup] at h
  | cons m rest ih =>
      obtain ⟨k, w⟩ := m
      unfold lookup at h
      by_cases hk : k = key
      · rw [if_pos hk] at h
        simp only [Option.some.injEq] at h
        rw [hk, h]
        exact List.mem_cons_self
      · rw [if_neg hk] at h
        exact List.mem_cons_of_mem _ (ih h)

theorem lookup_of_mem {key : String} {v : Json} {members : List (String × Json)}
    (hnd : (members.map Prod.fst).Nodup) (h : (key, v) ∈ members) :
    lookup key members = some v := by
  induction members with
  | nil => simp at h
  | cons m rest ih =>
      obtain ⟨k, w⟩ := m
      simp only [List.map_cons, List.nodup_cons] at hnd
      unfold lookup
      rcases List.mem_cons.mp h with heq | hrest
      · simp only [Prod.mk.injEq] at heq
        rw [if_pos heq.1.symm, heq.2]
      · have hne : k ≠ key := by
          rintro rfl
          exact hnd.1 (List.mem_map_of_mem (f := Prod.fst) hrest)
        rw [if_neg hne]
        exact ih hnd.2 hrest

/-! ### What stands in a tree -/

/-- `w` stands somewhere in a tree, at any depth; the whole tree stands in itself. -/
inductive Within (w : Json) : Json → Prop where
  | self : Within w w
  | item {items : List Json} {v : Json} (hv : v ∈ items) (h : Within w v) : Within w (.arr items)
  | member {members : List (String × Json)} {m : String × Json} (hm : m ∈ members)
      (h : Within w m.2) : Within w (.obj members)

theorem within_arr {w : Json} {items : List Json} (hne : ∀ xs, w ≠ .arr xs) :
    Within w (.arr items) ↔ ∃ v ∈ items, Within w v := by
  constructor
  · intro h
    cases h with
    | self => exact absurd rfl (hne items)
    | item hv h => exact ⟨_, hv, h⟩
  · rintro ⟨v, hv, h⟩
    exact .item hv h

theorem within_obj {w : Json} {members : List (String × Json)} (hne : ∀ ms, w ≠ .obj ms) :
    Within w (.obj members) ↔ ∃ m ∈ members, Within w m.2 := by
  constructor
  · intro h
    cases h with
    | self => exact absurd rfl (hne members)
    | member hm h => exact ⟨_, hm, h⟩
  · rintro ⟨m, hm, h⟩
    exact .member hm h

/-! ### Values name each member once -/

mutual

/-- No object of the tree names a member twice. -/
def Distinct : Json → Prop
  | .arr items => DistinctItems items
  | .obj members => (members.map Prod.fst).Nodup ∧ DistinctMembers members
  | _ => True

def DistinctItems : List Json → Prop
  | [] => True
  | v :: rest => v.Distinct ∧ DistinctItems rest

def DistinctMembers : List (String × Json) → Prop
  | [] => True
  | (_, v) :: rest => v.Distinct ∧ DistinctMembers rest

end

@[simp] theorem distinct_null : Distinct .null := trivial
@[simp] theorem distinct_bool (b : Bool) : Distinct (.bool b) := trivial
@[simp] theorem distinct_num (n : Number) : Distinct (.num n) := trivial
@[simp] theorem distinct_str (s : String) : Distinct (.str s) := trivial

theorem distinctItems_iff {items : List Json} :
    DistinctItems items ↔ ∀ v ∈ items, v.Distinct := by
  induction items with
  | nil => simp [DistinctItems]
  | cons v rest ih => simp [DistinctItems, ih]

theorem distinctMembers_iff {members : List (String × Json)} :
    DistinctMembers members ↔ ∀ m ∈ members, m.2.Distinct := by
  induction members with
  | nil => simp [DistinctMembers]
  | cons m rest ih => simp [DistinctMembers, ih]

@[simp] theorem distinct_arr {items : List Json} :
    Distinct (.arr items) ↔ ∀ v ∈ items, v.Distinct :=
  distinctItems_iff

@[simp] theorem distinct_obj {members : List (String × Json)} :
    Distinct (.obj members) ↔ (members.map Prod.fst).Nodup ∧ ∀ m ∈ members, m.2.Distinct := by
  rw [← distinctMembers_iff]
  exact Iff.rfl

theorem Distinct.get {v w : Json} {key : String} (hv : v.Distinct) (h : v.get key = some w) :
    w.Distinct := by
  cases v with
  | obj members => exact (distinct_obj.mp hv).2 _ (mem_of_lookup h)
  | _ => simp [Json.get] at h

/-! ### Equality up to member order -/

mutual

/-- The same document: object members may stand in another order, at every depth. -/
def Same : Json → Json → Prop
  | .null, .null => True
  | .bool a, .bool b => a = b
  | .num a, .num b => a = b
  | .str a, .str b => a = b
  | .arr xs, .arr ys => SameItems xs ys
  | .obj ms, .obj ns => (ms.map Prod.fst).Perm (ns.map Prod.fst) ∧ SameMembers ms ns
  | _, _ => False

def SameItems : List Json → List Json → Prop
  | [], [] => True
  | x :: xs, y :: ys => Same x y ∧ SameItems xs ys
  | _, _ => False

/-- Every member of the first list is bound to the same value in the second. -/
def SameMembers : List (String × Json) → List (String × Json) → Prop
  | [], _ => True
  | (k, v) :: ms, ns => (∃ w, (k, w) ∈ ns ∧ Same v w) ∧ SameMembers ms ns

end

theorem sameMembers_iff {ms ns : List (String × Json)} :
    SameMembers ms ns ↔ ∀ m ∈ ms, ∃ w, (m.1, w) ∈ ns ∧ Same m.2 w := by
  induction ms with
  | nil => simp [SameMembers]
  | cons m rest ih => simp [SameMembers, ih]

/-! ### Canonical form -/

mutual

/-- Every object rebuilt in key order. -/
def canonicalize : Json → Json
  | .arr items => .arr (canonicalizeItems items)
  | .obj members => .obj (SortedMap.ofList (canonicalizeMembers members))
  | .null => .null
  | .bool b => .bool b
  | .num n => .num n
  | .str s => .str s

def canonicalizeItems : List Json → List Json
  | [] => []
  | v :: rest => v.canonicalize :: canonicalizeItems rest

def canonicalizeMembers : List (String × Json) → List (String × Json)
  | [] => []
  | (k, v) :: rest => (k, v.canonicalize) :: canonicalizeMembers rest

end

theorem canonicalizeMembers_eq (members : List (String × Json)) :
    canonicalizeMembers members = members.map fun m => (m.1, m.2.canonicalize) := by
  induction members with
  | nil => rfl
  | cons m rest ih => simp [canonicalizeMembers, ih]

theorem canonicalizeItems_eq (items : List Json) :
    canonicalizeItems items = items.map canonicalize := by
  induction items with
  | nil => rfl
  | cons v rest ih => rw [canonicalizeItems, ih, List.map_cons]

private theorem canonicalizeMembers_keys (members : List (String × Json)) :
    (canonicalizeMembers members).map Prod.fst = members.map Prod.fst := by
  rw [canonicalizeMembers_eq, List.map_map]
  rfl

/-- The canonical members of an object are its members, canonical and rearranged. -/
theorem ofList_canonicalizeMembers_perm {members : List (String × Json)}
    (hnd : (members.map Prod.fst).Nodup) :
    (SortedMap.ofList (canonicalizeMembers members)).Perm (canonicalizeMembers members) :=
  SortedMap.ofList_perm (by rw [canonicalizeMembers_keys]; exact hnd)

private theorem canonicalizeItems_eq_iff {xs : List Json}
    (ih : ∀ x ∈ xs, ∀ y, y.Distinct → (x.canonicalize = y.canonicalize ↔ Same x y)) :
    ∀ ys : List Json, (∀ y ∈ ys, y.Distinct) →
      (canonicalizeItems xs = canonicalizeItems ys ↔ SameItems xs ys) := by
  induction xs with
  | nil =>
      intro ys _
      cases ys with
      | nil => exact iff_of_true rfl trivial
      | cons y ys => exact iff_of_false nofun id
  | cons x xs ihxs =>
      intro ys hy
      cases ys with
      | nil => exact iff_of_false nofun id
      | cons y ys =>
          rw [canonicalizeItems, canonicalizeItems, List.cons.injEq]
          refine and_congr (ih x List.mem_cons_self y (hy y List.mem_cons_self)) ?_
          exact ihxs (fun z hz => ih z (List.mem_cons_of_mem x hz)) ys
            fun z hz => hy z (List.mem_cons_of_mem y hz)

private theorem sameMembers_of_perm {ms ns : List (String × Json)}
    (ih : ∀ m ∈ ms, ∀ y, y.Distinct → (m.2.canonicalize = y.canonicalize ↔ Same m.2 y))
    (hns : ∀ n ∈ ns, n.2.Distinct)
    (hperm : (canonicalizeMembers ms).Perm (canonicalizeMembers ns)) : SameMembers ms ns := by
  rw [sameMembers_iff]
  intro m hmem
  have hin : (m.1, m.2.canonicalize) ∈ canonicalizeMembers ns := by
    refine hperm.mem_iff.mp ?_
    rw [canonicalizeMembers_eq]
    exact List.mem_map_of_mem (f := fun m : String × Json => (m.1, m.2.canonicalize)) hmem
  rw [canonicalizeMembers_eq, List.mem_map] at hin
  obtain ⟨n, hn, heq⟩ := hin
  rw [Prod.mk.injEq] at heq
  refine ⟨n.2, by rw [← heq.1]; exact hn, ?_⟩
  exact (ih m hmem n.2 (hns n hn)).mp heq.2.symm

private theorem perm_of_sameMembers {ms ns : List (String × Json)}
    (ih : ∀ m ∈ ms, ∀ y, y.Distinct → (m.2.canonicalize = y.canonicalize ↔ Same m.2 y))
    (hns : ∀ n ∈ ns, n.2.Distinct) (hnd : (ms.map Prod.fst).Nodup)
    (hkeys : (ms.map Prod.fst).Perm (ns.map Prod.fst)) (h : SameMembers ms ns) :
    (canonicalizeMembers ms).Perm (canonicalizeMembers ns) := by
  -- Every canonical member of the one is one of the other, and there are as many.
  have hsub : canonicalizeMembers ms ⊆ canonicalizeMembers ns := by
    intro b hb
    rw [canonicalizeMembers_eq, List.mem_map] at hb
    obtain ⟨m, hm, rfl⟩ := hb
    obtain ⟨w, hw, hsame⟩ := sameMembers_iff.mp h m hm
    rw [(ih m hm w (hns _ hw)).mpr hsame, canonicalizeMembers_eq]
    exact List.mem_map_of_mem (f := fun m : String × Json => (m.1, m.2.canonicalize)) hw
  have hnd' : (canonicalizeMembers ms).Nodup := by
    refine List.Nodup.of_map Prod.fst ?_
    rw [canonicalizeMembers_keys]
    exact hnd
  refine (List.subperm_of_subset hnd' hsub).perm_of_length_le ?_
  have hlength := hkeys.length_eq
  rw [List.length_map, List.length_map] at hlength
  rw [canonicalizeMembers_eq, canonicalizeMembers_eq, List.length_map, List.length_map, hlength]

/-- Two objects are rebuilt alike if their canonical members are the same ones. -/
private theorem ofList_canonicalizeMembers_eq_iff {ms ns : List (String × Json)}
    (hms : (ms.map Prod.fst).Nodup) (hns : (ns.map Prod.fst).Nodup) :
    SortedMap.ofList (canonicalizeMembers ms) = SortedMap.ofList (canonicalizeMembers ns) ↔
      (canonicalizeMembers ms).Perm (canonicalizeMembers ns) := by
  constructor
  · intro h
    refine (ofList_canonicalizeMembers_perm hms).symm.trans ?_
    rw [h]
    exact ofList_canonicalizeMembers_perm hns
  · exact SortedMap.ofList_eq_of_perm (by rw [canonicalizeMembers_keys]; exact hms)

/-- **Values have one canonical form exactly when they are the same document.** -/
theorem canonicalize_eq_iff {a b : Json} (ha : a.Distinct) (hb : b.Distinct) :
    a.canonicalize = b.canonicalize ↔ Same a b := by
  induction a generalizing b with
  | null => cases b <;> simp [canonicalize, Same]
  | bool v => cases b <;> simp [canonicalize, Same]
  | num n => cases b <;> simp [canonicalize, Same]
  | str s => cases b <;> simp [canonicalize, Same]
  | arr xs ih =>
      cases b with
      | arr ys =>
          rw [canonicalize, canonicalize, Json.arr.injEq]
          exact canonicalizeItems_eq_iff
            (fun x hx y hy => ih x hx (distinct_arr.mp ha x hx) hy) ys (distinct_arr.mp hb)
      | _ => simp [canonicalize, Same]
  | obj ms ih =>
      cases b with
      | obj ns =>
          obtain ⟨hndm, hdm⟩ := distinct_obj.mp ha
          obtain ⟨hndn, hdn⟩ := distinct_obj.mp hb
          rw [canonicalize, canonicalize, Json.obj.injEq,
            ofList_canonicalizeMembers_eq_iff hndm hndn]
          have ih' := fun m hm y hy => ih m hm (hdm m hm) (b := y) hy
          constructor
          · intro hperm
            have hkeys := hperm.map Prod.fst
            rw [canonicalizeMembers_keys, canonicalizeMembers_keys] at hkeys
            exact ⟨hkeys, sameMembers_of_perm ih' hdn hperm⟩
          · rintro ⟨hkeys, hmembers⟩
            exact perm_of_sameMembers ih' hdn hndm hkeys hmembers
      | _ => simp [canonicalize, Same]

/-- A canonical tree names each member once. -/
theorem canonicalize_distinct (v : Json) : v.canonicalize.Distinct := by
  induction v with
  | null => trivial
  | bool b => trivial
  | num n => trivial
  | str s => trivial
  | arr items ih =>
      rw [canonicalize, canonicalizeItems_eq, distinct_arr]
      intro v hv
      obtain ⟨w, hw, rfl⟩ := List.mem_map.mp hv
      exact ih w hw
  | obj members ih =>
      rw [canonicalize, distinct_obj]
      refine ⟨(SortedMap.ofList_sorted _).imp ne_of_lt, ?_⟩
      intro m hm
      have hm' := SortedMap.mem_of_mem_ofList hm
      rw [canonicalizeMembers_eq, List.mem_map] at hm'
      obtain ⟨n, hn, rfl⟩ := hm'
      exact ih n hn

/-- A canonical tree is its own canonical form. -/
theorem canonicalize_canonicalize (v : Json) : v.canonicalize.canonicalize = v.canonicalize := by
  induction v with
  | null => rfl
  | bool b => rfl
  | num n => rfl
  | str s => rfl
  | arr items ih =>
      rw [canonicalize, canonicalize, canonicalizeItems_eq, canonicalizeItems_eq, List.map_map]
      exact congrArg arr (List.map_congr_left ih)
  | obj members ih =>
      have hmembers : canonicalizeMembers (SortedMap.ofList (canonicalizeMembers members))
          = SortedMap.ofList (canonicalizeMembers members) := by
        rw [canonicalizeMembers_eq (SortedMap.ofList _)]
        refine (List.map_congr_left fun m hm => ?_).trans (List.map_id _)
        have hm' := SortedMap.mem_of_mem_ofList hm
        rw [canonicalizeMembers_eq, List.mem_map] at hm'
        obtain ⟨n, hn, rfl⟩ := hm'
        exact congrArg (Prod.mk n.1) (ih n hn)
      rw [canonicalize, canonicalize, hmembers,
        SortedMap.ofList_eq_self (SortedMap.ofList_sorted _)]

/-- Two objects that are the same bind a shared key to the same value. -/
theorem Same.lookup {ms ns : List (String × Json)} (h : Same (.obj ms) (.obj ns))
    (hn : (ns.map Prod.fst).Nodup) {key : String} {v w : Json}
    (hv : Json.lookup key ms = some v) (hw : Json.lookup key ns = some w) : Same v w := by
  obtain ⟨w', hw', hs⟩ := sameMembers_iff.mp h.2 _ (mem_of_lookup hv)
  have := lookup_of_mem hn hw'
  rw [hw] at this
  simp only [Option.some.injEq] at this
  rw [this]
  exact hs

end Json

/-- A decoded JSON value: a tree that names each member once. -/
structure Value where
  tree : Json
  distinct : tree.Distinct

namespace Value

theorem ext_tree {a b : Value} (h : a.tree = b.tree) : a = b := by
  cases a
  cases b
  simp only at h
  subst h
  rfl

/-- The same document up to member order. -/
def Same (a b : Value) : Prop := a.tree.Same b.tree

/-- The value with every object rebuilt in key order. -/
def canonicalize (v : Value) : Value := ⟨v.tree.canonicalize, v.tree.canonicalize_distinct⟩

/-- **Canonical forms decide what is the same document.** -/
theorem canonicalize_eq_iff {a b : Value} : a.canonicalize = b.canonicalize ↔ a.Same b := by
  unfold Same
  rw [← Json.canonicalize_eq_iff a.distinct b.distinct]
  exact ⟨fun h => congrArg tree h, fun h => ext_tree h⟩

theorem canonicalize_canonicalize (v : Value) : v.canonicalize.canonicalize = v.canonicalize :=
  ext_tree v.tree.canonicalize_canonicalize

def null : Value := ⟨.null, trivial⟩

/-- The member `key` of an object value. -/
def get (v : Value) (key : String) : Option Value :=
  match h : v.tree.get key with
  | some w => some ⟨w, v.distinct.get h⟩
  | none => none

theorem get_eq_some {v w : Value} {key : String} :
    v.get key = some w ↔ v.tree.get key = some w.tree := by
  unfold get
  split
  · rename_i x h
    constructor
    · intro hx
      simp only [Option.some.injEq] at hx
      rw [← hx]
      exact h
    · intro hx
      have hxw : some x = some w.tree := h.symm.trans hx
      simp only [Option.some.injEq] at hxw
      exact congrArg some (ext_tree hxw)
  · rename_i h
    simp [h]

theorem Same.symm {a b : Value} (h : a.Same b) : b.Same a :=
  canonicalize_eq_iff.mp (canonicalize_eq_iff.mpr h).symm

theorem Same.asStr_eq {a b : Value} (h : a.Same b) : a.tree.asStr = b.tree.asStr := by
  have htrees : a.tree.Same b.tree := h
  cases ha : a.tree <;> cases hb : b.tree <;> rw [ha, hb] at htrees <;>
    simp only [Json.Same] at htrees <;> simp [Json.asStr]
  exact htrees

/-- A member of an object is the same in an object that is the same. -/
theorem Same.get_some {a b v : Value} {key : String} (h : a.Same b) (hv : a.get key = some v) :
    ∃ w, b.get key = some w ∧ v.Same w := by
  rw [get_eq_some] at hv
  obtain ⟨tree, hdistinct⟩ := a
  obtain ⟨tree', hdistinct'⟩ := b
  cases tree with
  | obj ms =>
      cases tree' with
      | obj ns =>
          obtain ⟨w, hw, hsame⟩ := Json.sameMembers_iff.mp h.2 _ (Json.mem_of_lookup hv)
          have hget := Json.lookup_of_mem (Json.distinct_obj.mp hdistinct').1 hw
          exact ⟨⟨w, hdistinct'.get hget⟩, get_eq_some.mpr hget, hsame⟩
      | _ => cases h
  | _ => cases hv

/-- What is made of a member does not depend on the order of members. -/
theorem Same.get_bind {α : Type} {f : Value → Option α} (hf : ∀ v w, v.Same w → f v = f w)
    {a b : Value} (h : a.Same b) (key : String) : (a.get key).bind f = (b.get key).bind f := by
  cases ha : a.get key with
  | some v =>
      obtain ⟨w, hw, hsame⟩ := h.get_some ha
      rw [hw, Option.bind_some, Option.bind_some, hf v w hsame]
  | none =>
      cases hb : b.get key with
      | none => rfl
      | some w =>
          obtain ⟨v, hv, -⟩ := h.symm.get_some hb
          rw [ha] at hv
          cases hv

end Value

namespace Json

mutual

/-- The value a text denotes: a member named again replaces the one before it. -/
def dedup : Json → Json
  | .arr items => .arr (dedupItems items)
  | .obj members => .obj (dedupMembers [] members)
  | .null => .null
  | .bool b => .bool b
  | .num n => .num n
  | .str s => .str s

def dedupItems : List Json → List Json
  | [] => []
  | v :: rest => v.dedup :: dedupItems rest

/-- Inserts the members one by one; a known key keeps its place and gets the new value. -/
def dedupMembers (done : List (String × Json)) : List (String × Json) → List (String × Json)
  | [] => done
  | (k, v) :: rest =>
      dedupMembers
        (if k ∈ done.map Prod.fst then
          done.map fun m => if m.1 = k then (k, v.dedup) else m
        else done ++ [(k, v.dedup)]) rest

end

private theorem replaced_keys (done : List (String × Json)) (k : String) (w : Json) :
    (done.map fun m => if m.1 = k then (k, w) else m).map Prod.fst = done.map Prod.fst := by
  rw [List.map_map]
  refine List.map_congr_left fun m _ => ?_
  by_cases hm : m.1 = k
  · simp [hm]
  · simp [hm]

private theorem dedupMembers_distinct {members : List (String × Json)}
    (ih : ∀ m ∈ members, m.2.dedup.Distinct) :
    ∀ done : List (String × Json), (done.map Prod.fst).Nodup → (∀ m ∈ done, m.2.Distinct) →
      ((dedupMembers done members).map Prod.fst).Nodup ∧
        ∀ m ∈ dedupMembers done members, m.2.Distinct := by
  induction members with
  | nil => intro done hnd hd; exact ⟨hnd, hd⟩
  | cons m rest ihr =>
      obtain ⟨k, v⟩ := m
      intro done hnd hd
      have hv : v.dedup.Distinct := ih (k, v) (by simp)
      unfold dedupMembers
      refine ihr (fun m hm => ih m (by simp [hm])) _ ?_ ?_
      · by_cases hk : k ∈ done.map Prod.fst
        · rw [if_pos hk, replaced_keys]
          exact hnd
        · rw [if_neg hk, List.map_append]
          exact List.nodup_append.mpr ⟨hnd, by simp, by
            intro a ha b hb hab
            simp only [List.map_cons, List.map_nil, List.mem_singleton] at hb
            rw [← hb, ← hab] at hk
            exact hk ha⟩
      · by_cases hk : k ∈ done.map Prod.fst
        · rw [if_pos hk]
          intro m hm
          obtain ⟨m', hm', rfl⟩ := List.mem_map.mp hm
          by_cases heq : m'.1 = k
          · rw [if_pos heq]; exact hv
          · rw [if_neg heq]; exact hd m' hm'
        · rw [if_neg hk]
          intro m hm
          rcases List.mem_append.mp hm with h1 | h2
          · exact hd m h1
          · rw [List.mem_singleton.mp h2]; exact hv

theorem dedup_distinct (v : Json) : v.dedup.Distinct := by
  induction v with
  | null => trivial
  | bool b => trivial
  | num n => trivial
  | str s => trivial
  | arr items ih =>
      show DistinctItems (dedupItems items)
      induction items with
      | nil => trivial
      | cons v rest ihr =>
          exact ⟨ih v (by simp), ihr fun w hw => ih w (by simp [hw])⟩
  | obj members ih =>
      rw [dedup, distinct_obj]
      exact dedupMembers_distinct ih [] (by simp) (by simp)

private theorem dedupMembers_of_nodup {members : List (String × Json)}
    (ih : ∀ m ∈ members, m.2.dedup = m.2) :
    ∀ done : List (String × Json), ((done ++ members).map Prod.fst).Nodup →
      dedupMembers done members = done ++ members := by
  induction members with
  | nil => intro done _; rw [dedupMembers, List.append_nil]
  | cons m rest ihr =>
      obtain ⟨k, v⟩ := m
      intro done hnd
      have hk : k ∉ done.map Prod.fst := by
        rw [List.map_append, List.map_cons] at hnd
        intro hmem
        exact (List.nodup_append.mp hnd).2.2 k hmem k List.mem_cons_self rfl
      have hv : v.dedup = v := ih (k, v) List.mem_cons_self
      unfold dedupMembers
      rw [if_neg hk, hv, ihr (fun m hm => ih m (List.mem_cons_of_mem _ hm)) _ (by simpa using hnd),
        List.append_assoc]
      rfl

/-- A tree that names each member once is the value it denotes. -/
theorem dedup_eq_self {v : Json} (h : v.Distinct) : v.dedup = v := by
  induction v with
  | null => rfl
  | bool b => rfl
  | num n => rfl
  | str s => rfl
  | arr items ih =>
      have hitems := distinct_arr.mp h
      rw [dedup]
      congr 1
      clear h
      induction items with
      | nil => rfl
      | cons v rest ihr =>
          rw [dedupItems, ih v List.mem_cons_self (hitems v List.mem_cons_self),
            ihr (fun w hw => ih w (List.mem_cons_of_mem v hw))
              fun w hw => hitems w (List.mem_cons_of_mem v hw)]
  | obj members ih =>
      obtain ⟨hnd, hmembers⟩ := distinct_obj.mp h
      rw [dedup, dedupMembers_of_nodup (fun m hm => ih m hm (hmembers m hm)) [] hnd,
        List.nil_append]

/-- The value a tree denotes. -/
def toValue (v : Json) : Value := ⟨v.dedup, dedup_distinct v⟩

theorem toValue_tree {v : Json} (h : v.Distinct) : v.toValue.tree = v := dedup_eq_self h

end Json

/-- A value written out and read back is the same value. -/
theorem Value.toValue_tree (v : Value) : v.tree.toValue = v :=
  Value.ext_tree (Json.toValue_tree v.distinct)
