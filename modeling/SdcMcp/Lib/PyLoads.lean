/-
Documents as they are written, and the values that `json.loads` makes of them.

A written document has the members of its objects in some order, and a dict has none:
`load` rebuilds every object in key order, and of a name that is written twice the last
member counts.  So two documents that differ in the order of members only are loaded as
the same value, `Shuffled.load_eq`.
-/
import SdcMcp.Lib.PyJson
import SdcMcp.Lib.SortedMap
import Mathlib.Data.List.Nodup

namespace PyJson

mutual

/-- The value of a written document. -/
def load : PyJson → PyJson
  | .list items => .list (loadList items)
  | .dict items => .dict (SortedMap.ofList (loadItems items))
  | .atom a => .atom a
  | .str s => .str s

def loadList : List PyJson → List PyJson
  | [] => []
  | v :: rest => v.load :: loadList rest

def loadItems : List (String × PyJson) → List (String × PyJson)
  | [] => []
  | (key, v) :: rest => (key, v.load) :: loadItems rest

end

theorem loadList_eq (items : List PyJson) : loadList items = items.map load := by
  induction items with
  | nil => rfl
  | cons v rest ih => rw [loadList, ih, List.map_cons]

theorem loadItems_eq (items : List (String × PyJson)) :
    loadItems items = items.map fun m => (m.1, m.2.load) := by
  induction items with
  | nil => rfl
  | cons m rest ih => rw [loadItems, ih, List.map_cons]

@[simp] theorem load_list (items : List PyJson) :
    load (.list items) = .list (items.map load) := by
  rw [load, loadList_eq]

@[simp] theorem load_dict (items : List (String × PyJson)) :
    load (.dict items) = .dict (SortedMap.ofList (items.map fun m => (m.1, m.2.load))) := by
  rw [load, loadItems_eq]

theorem loadItems_keys (items : List (String × PyJson)) :
    (items.map fun m => (m.1, m.2.load)).map Prod.fst = items.map Prod.fst := by
  rw [List.map_map]
  rfl

/-- A loaded value has its dicts in key order. -/
theorem ordered_load (v : PyJson) : v.load.Ordered := by
  induction v with
  | atom a => exact ordered_atom a
  | str s => exact ordered_str s
  | list items ih =>
      rw [load_list, ordered_list]
      intro v hv
      obtain ⟨w, hw, rfl⟩ := List.mem_map.mp hv
      exact ih w hw
  | dict items ih =>
      rw [load_dict, ordered_dict]
      refine ⟨SortedMap.ofList_sorted _, ?_⟩
      intro m hm
      obtain ⟨n, hn, rfl⟩ := List.mem_map.mp (SortedMap.mem_of_mem_ofList hm)
      exact ih n hn

/-- A document that is written in key order is loaded as it is. -/
theorem load_eq_self {v : PyJson} (h : v.Ordered) : v.load = v := by
  induction v with
  | atom a => rfl
  | str s => rfl
  | list items ih =>
      rw [ordered_list] at h
      rw [load_list]
      exact congrArg list ((List.map_congr_left fun v hv => ih v hv (h v hv)).trans (List.map_id _))
  | dict items ih =>
      rw [ordered_dict] at h
      have hitems : items.map (fun m => (m.1, m.2.load)) = items := by
        refine (List.map_congr_left fun m hm => ?_).trans (List.map_id _)
        rw [ih m hm (h.2 m hm)]
        rfl
      rw [load_dict, hitems, SortedMap.ofList_eq_self h.1]

/-- Two dicts in key order that bind every key alike have the same items. -/
theorem items_ext {items items' : List (String × PyJson)}
    (h : (items.map Prod.fst).Pairwise (· < ·)) (h' : (items'.map Prod.fst).Pairwise (· < ·))
    (hlookup : ∀ key, items.lookup key = items'.lookup key) : items = items' := by
  have hnd := keys_nodup h
  have hnd' := keys_nodup h'
  refine SortedMap.eq_of_perm ?_ h h'
  refine (List.perm_ext_iff_of_nodup (List.Nodup.of_map _ hnd) (List.Nodup.of_map _ hnd')).mpr
    fun m => ?_
  constructor
  · intro hm
    exact mem_of_lookup ((hlookup m.1).symm.trans (lookup_of_mem hnd hm))
  · intro hm
    exact mem_of_lookup ((hlookup m.1).trans (lookup_of_mem hnd' hm))

theorem lookup_filter_ne (key other : String) (items : List (String × PyJson)) :
    (items.filter fun m => m.1 ≠ key).lookup other
      = if other = key then none else items.lookup other := by
  induction items with
  | nil => exact (ite_self _).symm
  | cons m rest ih =>
      obtain ⟨k, v⟩ := m
      rw [List.lookup_cons]
      by_cases hk : k = key
      · rw [List.filter_cons_of_neg (by simp [hk]), ih]
        by_cases ho : other = key
        · rw [if_pos ho, if_pos ho]
        · rw [if_neg ho, if_neg ho, beq_eq_false_iff_ne.mpr fun h => ho (h.trans hk)]
      · rw [List.filter_cons_of_pos (by simp [hk]), List.lookup_cons, ih]
        by_cases ho : other = key
        · rw [if_pos ho, if_pos ho, beq_eq_false_iff_ne.mpr fun h => hk (h.symm.trans ho)]
        · rw [if_neg ho, if_neg ho]

/-! ### The order of members -/

/-- Another order for the members of one object, at any depth. -/
inductive Shuffled : PyJson → PyJson → Prop where
  | here {items items' : List (String × PyJson)} (hnd : (items.map Prod.fst).Nodup)
      (h : items.Perm items') : Shuffled (.dict items) (.dict items')
  | item {front back : List PyJson} {v w : PyJson} (h : Shuffled v w) :
      Shuffled (.list (front ++ v :: back)) (.list (front ++ w :: back))
  | member {front back : List (String × PyJson)} {key : String} {v w : PyJson}
      (h : Shuffled v w) :
      Shuffled (.dict (front ++ (key, v) :: back)) (.dict (front ++ (key, w) :: back))

/-- **A dict forgets the order in which the members were written.** -/
theorem Shuffled.load_eq {v w : PyJson} (h : Shuffled v w) : v.load = w.load := by
  induction h with
  | here hnd hperm =>
      rw [load_dict, load_dict]
      refine congrArg dict (SortedMap.ofList_eq_of_perm ?_ (hperm.map _))
      rw [loadItems_keys]
      exact hnd
  | item h ih =>
      rw [load_list, load_list, List.map_append, List.map_append, List.map_cons, List.map_cons, ih]
  | member h ih =>
      rw [load_dict, load_dict, List.map_append, List.map_append, List.map_cons, List.map_cons, ih]

end PyJson
