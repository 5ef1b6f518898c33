/-
Objects and arrays of JSON values.

A `Map` holds the members of an object in insertion order and names none of them
twice.  Binding a known key again keeps its place; removing one moves the last
member to where it was.
-/
import SdcMcp.Lib.Json

/-- The members of an object value. -/
structure Map where
  entries : List (String × Value)
  nodup : (entries.map Prod.fst).Nodup

namespace Map

@[ext] theorem ext {m n : Map} (h : m.entries = n.entries) : m = n := by
  cases m
  cases n
  simp only at h
  subst h
  rfl

def keys (m : Map) : List String := m.entries.map Prod.fst

def empty : Map := ⟨[], List.nodup_nil⟩

/-- The value under a key among some entries. -/
def find (key : String) : List (String × Value) → Option Value
  | [] => none
  | (k, v) :: rest => if k = key then some v else find key rest

def get (m : Map) (key : String) : Option Value := find key m.entries

private theorem rebound_keys (entries : List (String × Value)) (key : String) (v : Value) :
    (entries.map fun e => if e.1 = key then (key, v) else e).map Prod.fst
      = entries.map Prod.fst := by
  rw [List.map_map]
  refine List.map_congr_left fun e _ => ?_
  by_cases he : e.1 = key
  · simp [he]
  · simp [he]

/-- Binds a key; a known one keeps its place. -/
def insert (m : Map) (key : String) (v : Value) : Map :=
  if h : key ∈ m.keys then
    ⟨m.entries.map fun e => if e.1 = key then (key, v) else e, by
      rw [rebound_keys]
      exact m.nodup⟩
  else
    ⟨m.entries ++ [(key, v)], by
      rw [List.map_append]
      refine List.nodup_append.mpr ⟨m.nodup, by simp, ?_⟩
      intro a ha b hb hab
      rw [List.mem_singleton.mp hb] at hab
      have hkey : a = key := hab
      rw [hkey] at ha
      exact h ha⟩

/-- Keeps the members whose key passes, in order. -/
def retain (m : Map) (keep : String → Bool) : Map :=
  ⟨m.entries.filter fun e => keep e.1,
    (List.filter_sublist.map Prod.fst).nodup m.nodup⟩

/-- What is left of some entries without a key; the last of them takes its place. -/
def removeFrom (key : String) : List (String × Value) → List (String × Value)
  | [] => []
  | (k, v) :: rest =>
      if k = key then
        match rest.getLast? with
        | some last => last :: rest.dropLast
        | none => []
      else (k, v) :: removeFrom key rest

theorem removeFrom_perm (key : String) (entries : List (String × Value)) :
    (removeFrom key entries).Perm (entries.eraseP fun e => e.1 = key) := by
  induction entries with
  | nil => exact List.Perm.refl _
  | cons e rest ih =>
      obtain ⟨k, v⟩ := e
      unfold removeFrom
      by_cases hk : k = key
      · rw [if_pos hk, List.eraseP_cons_of_pos (by simpa using hk)]
        rcases List.eq_nil_or_concat rest with rfl | ⟨front, last, rfl⟩
        · exact List.Perm.refl _
        · rw [List.concat_eq_append, List.getLast?_concat, List.dropLast_concat]
          exact (List.perm_append_singleton last front).symm
      · rw [if_neg hk, List.eraseP_cons_of_neg (by simpa using hk)]
        exact ih.cons (k, v)

/-- Takes a member out. -/
def remove (m : Map) (key : String) : Map :=
  ⟨removeFrom key m.entries,
    ((removeFrom_perm key m.entries).map Prod.fst).nodup_iff.mpr
      ((List.eraseP_sublist.map Prod.fst).nodup m.nodup)⟩

/-! ### Lookups -/

@[simp] theorem find_nil (key : String) : find key [] = none := rfl

theorem find_cons (key k : String) (v : Value) (rest : List (String × Value)) :
    find key ((k, v) :: rest) = if k = key then some v else find key rest := rfl

theorem find_eq_none {key : String} {entries : List (String × Value)}
    (h : key ∉ entries.map Prod.fst) : find key entries = none := by
  induction entries with
  | nil => rfl
  | cons e rest ih =>
      obtain ⟨k, v⟩ := e
      rw [List.map_cons, List.mem_cons, not_or] at h
      rw [find_cons, if_neg (Ne.symm h.1)]
      exact ih h.2

private theorem find_rebound (entries : List (String × Value)) (key : String) (v : Value)
    (key' : String) (h : key ∈ entries.map Prod.fst ∨ key' ≠ key) :
    find key' (entries.map fun e => if e.1 = key then (key, v) else e)
      = if key' = key then some v else find key' entries := by
  induction entries with
  | nil =>
      rcases h with h | h
      · cases h
      · rw [if_neg h]
        rfl
  | cons e rest ih =>
      obtain ⟨k, w⟩ := e
      rw [List.map_cons]
      by_cases hk : k = key
      · rw [if_pos hk, find_cons, find_cons]
        by_cases hkey : key' = key
        · rw [if_pos hkey.symm, if_pos hkey]
        · rw [if_neg (Ne.symm hkey), if_neg hkey, if_neg fun h' => hkey (h'.symm.trans hk),
            ih (Or.inr hkey), if_neg hkey]
      · rw [if_neg hk, find_cons, find_cons]
        by_cases hkk : k = key'
        · rw [if_pos hkk, if_neg fun h' => hk (hkk.trans h'), if_pos hkk]
        · rw [if_neg hkk, if_neg hkk]
          refine ih ?_
          rcases h with h | h
          · rcases List.mem_cons.mp h with heq | hmem
            · exact absurd heq.symm hk
            · exact Or.inl hmem
          · exact Or.inr h

private theorem find_append (front back : List (String × Value)) (key : String) :
    find key (front ++ back) = (find key front).or (find key back) := by
  induction front with
  | nil => rfl
  | cons e rest ih =>
      obtain ⟨k, v⟩ := e
      rw [List.cons_append, find_cons, find_cons]
      by_cases hk : k = key
      · rw [if_pos hk, if_pos hk]
        rfl
      · rw [if_neg hk, if_neg hk]
        exact ih

/-- What is bound after a binding. -/
theorem get_insert (m : Map) (key : String) (v : Value) (key' : String) :
    (m.insert key v).get key' = if key' = key then some v else m.get key' := by
  unfold get insert
  by_cases h : key ∈ m.keys
  · rw [dif_pos h]
    exact find_rebound m.entries key v key' (Or.inl h)
  · rw [dif_neg h]
    show find key' (m.entries ++ [(key, v)]) = _
    rw [find_append, find_cons, find_nil]
    by_cases hkey : key' = key
    · rw [if_pos hkey, if_pos hkey.symm, hkey, find_eq_none h]
      rfl
    · rw [if_neg hkey, if_neg (Ne.symm hkey), Option.or_none]

/-- Binding a known key again changes no key. -/
theorem keys_insert {m : Map} {key : String} (h : key ∈ m.keys) (v : Value) :
    (m.insert key v).keys = m.keys := by
  unfold insert
  rw [dif_pos h]
  exact rebound_keys m.entries key v

/-- What is bound is a member, since no key is bound twice. -/
theorem get_eq_some_iff {m : Map} {key : String} {v : Value} :
    m.get key = some v ↔ (key, v) ∈ m.entries := by
  have hfind : ∀ entries : List (String × Value), (entries.map Prod.fst).Nodup →
      (find key entries = some v ↔ (key, v) ∈ entries) := by
    intro entries hnd
    induction entries with
    | nil => exact iff_of_false nofun List.not_mem_nil
    | cons e rest ih =>
        obtain ⟨k, w⟩ := e
        rw [List.map_cons, List.nodup_cons] at hnd
        rw [find_cons, List.mem_cons]
        by_cases hk : k = key
        · subst hk
          rw [if_pos rfl, Option.some.injEq]
          constructor
          · intro hw
            exact Or.inl (by rw [hw])
          · rintro (heq | hmem)
            · exact (Prod.mk.inj heq).2.symm
            · exact absurd (List.mem_map_of_mem (f := Prod.fst) hmem) hnd.1
        · rw [if_neg hk, ih hnd.2]
          constructor
          · intro hmem
            exact Or.inr hmem
          · rintro (heq | hmem)
            · exact absurd (Prod.mk.inj heq).1.symm hk
            · exact hmem
  exact hfind m.entries m.nodup

/-- Objects with the same keys in the same places and the same values under them are the same. -/
theorem eq_of_get {m n : Map} (hkeys : m.keys = n.keys)
    (hget : ∀ key ∈ m.keys, m.get key = n.get key) : m = n := by
  have hentries : ∀ l : Map,
      l.entries = l.keys.map fun key => (key, (l.get key).getD Value.null) := by
    intro l
    unfold keys
    rw [List.map_map]
    refine (List.map_id _).symm.trans (List.map_congr_left fun e he => ?_)
    have hvalue : l.get e.1 = some e.2 := get_eq_some_iff.mpr he
    show e = (e.1, (l.get e.1).getD Value.null)
    rw [hvalue]
    rfl
  refine ext ?_
  rw [hentries m, hentries n, ← hkeys]
  exact List.map_congr_left fun key hkey => by rw [hget key hkey]

theorem get_eq_none_iff {m : Map} {key : String} : m.get key = none ↔ key ∉ m.keys := by
  constructor
  · intro hnone hmem
    obtain ⟨e, he, rfl⟩ := List.mem_map.mp hmem
    rw [get_eq_some_iff.mpr he] at hnone
    cases hnone
  · intro hkey
    exact find_eq_none hkey

theorem mem_keys_insert {m : Map} {key key' : String} {v : Value} :
    key' ∈ (m.insert key v).keys ↔ key' = key ∨ key' ∈ m.keys := by
  have hnone := @get_eq_none_iff (m.insert key v) key'
  rw [get_insert] at hnone
  by_cases hkey : key' = key
  · rw [if_pos hkey] at hnone
    refine iff_of_true ?_ (Or.inl hkey)
    by_contra hmem
    exact absurd (hnone.mpr hmem) (by simp)
  · rw [if_neg hkey, get_eq_none_iff, not_iff_not] at hnone
    rw [← hnone]
    exact (or_iff_right hkey).symm

/-- Two objects bind a key alike when they have the same members under it. -/
private theorem get_congr {m n : Map} {key : String}
    (h : ∀ v, (key, v) ∈ m.entries ↔ (key, v) ∈ n.entries) : m.get key = n.get key := by
  apply Option.ext
  intro v
  rw [get_eq_some_iff, get_eq_some_iff]
  exact h v

theorem get_retain (m : Map) (keep : String → Bool) (key : String) :
    (m.retain keep).get key = if keep key = true then m.get key else none := by
  by_cases hkeep : keep key = true
  · rw [if_pos hkeep]
    refine get_congr fun v => ?_
    show (key, v) ∈ m.entries.filter _ ↔ _
    rw [List.mem_filter]
    exact and_iff_left hkeep
  · rw [if_neg hkeep, get_eq_none_iff]
    intro hmem
    obtain ⟨e, he, rfl⟩ := List.mem_map.mp hmem
    exact hkeep (List.mem_filter.mp he).2

/-- An object whose keys all pass keeps every member. -/
theorem retain_eq_self {m : Map} {keep : String → Bool} (h : ∀ key ∈ m.keys, keep key = true) :
    m.retain keep = m :=
  Map.ext (List.filter_eq_self.mpr fun e he => h e.1 (List.mem_map_of_mem he))

theorem keys_retain {m : Map} {keep : String → Bool} {key : String}
    (h : key ∈ (m.retain keep).keys) : keep key = true := by
  obtain ⟨e, he, rfl⟩ := List.mem_map.mp h
  exact (List.mem_filter.mp he).2

private theorem mem_remove {m : Map} {key key' : String} {v : Value} :
    (key', v) ∈ (m.remove key).entries ↔ key' ≠ key ∧ (key', v) ∈ m.entries := by
  show (key', v) ∈ removeFrom key m.entries ↔ _
  rw [(removeFrom_perm key m.entries).mem_iff]
  have herase : ∀ entries : List (String × Value), (entries.map Prod.fst).Nodup →
      ((key', v) ∈ entries.eraseP (fun e => e.1 = key) ↔ key' ≠ key ∧ (key', v) ∈ entries) := by
    intro entries hnd
    induction entries with
    | nil => simp
    | cons e rest ih =>
        obtain ⟨k, w⟩ := e
        rw [List.map_cons, List.nodup_cons] at hnd
        by_cases hk : k = key
        · subst hk
          rw [List.eraseP_cons_of_pos (by simp), List.mem_cons]
          constructor
          · intro hmem
            refine ⟨?_, Or.inr hmem⟩
            rintro rfl
            exact hnd.1 (List.mem_map.mpr ⟨_, hmem, rfl⟩)
          · rintro ⟨hne, heq | hmem⟩
            · exact absurd (Prod.mk.inj heq).1 hne
            · exact hmem
        · rw [List.eraseP_cons_of_neg (by simpa using hk), List.mem_cons, List.mem_cons,
            ih hnd.2]
          constructor
          · rintro (heq | ⟨hne, hmem⟩)
            · exact ⟨fun h => hk ((Prod.mk.inj heq).1.symm.trans h), Or.inl heq⟩
            · exact ⟨hne, Or.inr hmem⟩
          · rintro ⟨hne, heq | hmem⟩
            · exact Or.inl heq
            · exact Or.inr ⟨hne, hmem⟩
  exact herase m.entries m.nodup

theorem get_remove (m : Map) (key key' : String) :
    (m.remove key).get key' = if key' = key then none else m.get key' := by
  by_cases hkey : key' = key
  · rw [if_pos hkey, get_eq_none_iff]
    intro hmem
    obtain ⟨e, he, heq⟩ := List.mem_map.mp hmem
    obtain ⟨k, v⟩ := e
    exact (mem_remove.mp he).1 (heq.trans hkey)
  · rw [if_neg hkey]
    refine get_congr fun v => ?_
    rw [mem_remove]
    exact and_iff_right hkey

private theorem removeFrom_of_find {key : String} {entries : List (String × Value)}
    (h : find key entries = none) : removeFrom key entries = entries := by
  induction entries with
  | nil => rfl
  | cons e rest ih =>
      obtain ⟨k, v⟩ := e
      rw [find_cons] at h
      unfold removeFrom
      by_cases hk : k = key
      · rw [if_pos hk] at h
        cases h
      · rw [if_neg hk] at h ⊢
        rw [ih h]

/-- Taking out what is not bound changes nothing. -/
theorem remove_of_get {m : Map} {key : String} (h : m.get key = none) : m.remove key = m :=
  Map.ext (removeFrom_of_find h)

private theorem insert_entries {m : Map} {key : String} (h : m.get key = none) (v : Value) :
    (m.insert key v).entries = m.entries ++ [(key, v)] := by
  unfold insert
  rw [dif_neg (get_eq_none_iff.mp h)]

/-- Taking out the member that was bound last undoes the binding. -/
theorem remove_insert {m : Map} {key : String} (h : m.get key = none) (v : Value) :
    (m.insert key v).remove key = m := by
  apply Map.ext
  show removeFrom key (m.insert key v).entries = m.entries
  rw [insert_entries h]
  have hkey := get_eq_none_iff.mp h
  unfold keys at hkey
  generalize m.entries = entries at hkey
  induction entries with
  | nil => simp [removeFrom]
  | cons e rest ih =>
      obtain ⟨k, w⟩ := e
      rw [List.map_cons, List.mem_cons, not_or] at hkey
      rw [List.cons_append]
      unfold removeFrom
      rw [if_neg (Ne.symm hkey.1), ih hkey.2]

/-- Binding a key again forgets what it was bound to. -/
theorem insert_insert (m : Map) (key : String) (v w : Value) :
    (m.insert key v).insert key w = m.insert key w := by
  apply Map.ext
  by_cases hkey : key ∈ m.keys
  · have hkey' : key ∈ (m.insert key v).keys := by
      rw [keys_insert hkey]
      exact hkey
    have hv : (m.insert key v).entries
        = m.entries.map fun e => if e.1 = key then (key, v) else e := by
      unfold insert
      rw [dif_pos hkey]
    have hw : (m.insert key w).entries
        = m.entries.map fun e => if e.1 = key then (key, w) else e := by
      unfold insert
      rw [dif_pos hkey]
    have hvw : ((m.insert key v).insert key w).entries
        = (m.insert key v).entries.map fun e => if e.1 = key then (key, w) else e := by
      rw [insert, dif_pos hkey']
    rw [hvw, hv, hw, List.map_map]
    refine List.map_congr_left fun e _ => ?_
    by_cases he : e.1 = key
    · simp [he]
    · simp [he]
  · have hnone := get_eq_none_iff.mpr hkey
    have hv := insert_entries hnone v
    have hkey' : key ∈ (m.insert key v).keys := by
      unfold keys
      rw [hv]
      simp
    have hvw : ((m.insert key v).insert key w).entries
        = (m.insert key v).entries.map fun e => if e.1 = key then (key, w) else e := by
      rw [insert, dif_pos hkey']
    rw [hvw, hv, insert_entries hnone w, List.map_append]
    have hfront : m.entries.map (fun e => if e.1 = key then (key, w) else e) = m.entries := by
      refine (List.map_congr_left fun e he => ?_).trans (List.map_id _)
      have hne : e.1 ≠ key := by
        rintro rfl
        exact hkey (List.mem_map_of_mem he)
      rw [if_neg hne]
      rfl
    rw [hfront]
    simp

end Map

namespace Value

/-! ### Objects, arrays and texts -/

def string (s : String) : Value := ⟨.str s, trivial⟩

/-- The object with these members. -/
def object (m : Map) : Value where
  tree := .obj (m.entries.map fun e => (e.1, e.2.tree))
  distinct := by
    rw [Json.distinct_obj, List.map_map]
    refine ⟨m.nodup, ?_⟩
    intro e he
    obtain ⟨e', -, rfl⟩ := List.mem_map.mp he
    exact e'.2.distinct

/-- The array of these items. -/
def array (items : List Value) : Value where
  tree := .arr (items.map tree)
  distinct := by
    rw [Json.distinct_arr]
    intro v hv
    obtain ⟨w, -, rfl⟩ := List.mem_map.mp hv
    exact w.distinct

def asObject (v : Value) : Option Map :=
  match h : v.tree with
  | .obj members =>
      have hd := Json.distinct_obj.mp (h ▸ v.distinct)
      some ⟨members.pmap (fun e he => (e.1, ⟨e.2, he⟩)) hd.2, by
        rw [List.map_pmap, List.pmap_eq_map]
        exact hd.1⟩
  | _ => none

def asArray (v : Value) : Option (List Value) :=
  match h : v.tree with
  | .arr items => some (items.pmap Value.mk (Json.distinct_arr.mp (h ▸ v.distinct)))
  | _ => none

theorem object_inj {m n : Map} (h : object m = object n) : m = n := by
  have hentries : m.entries.map (fun e => (e.1, e.2.tree))
      = n.entries.map (fun e => (e.1, e.2.tree)) := Json.obj.inj (congrArg tree h)
  refine Map.ext (List.map_injective_iff.mpr ?_ hentries)
  intro a b hab
  obtain ⟨hkey, htree⟩ := Prod.mk.inj hab
  exact Prod.ext hkey (ext_tree htree)

theorem array_inj {xs ys : List Value} (h : array xs = array ys) : xs = ys := by
  have hitems : xs.map tree = ys.map tree := Json.arr.inj (congrArg tree h)
  exact List.map_injective_iff.mpr (fun _ _ hab => ext_tree hab) hitems

theorem asObject_eq_some {v : Value} {m : Map} : v.asObject = some m ↔ v = object m := by
  have himp : ∀ {w : Value} {n : Map}, w.asObject = some n → w = object n := by
    intro w n h
    unfold asObject at h
    split at h
    · rename_i members htree
      have hn := Option.some.inj h
      apply ext_tree
      rw [htree, ← hn]
      show Json.obj members = Json.obj ((members.pmap _ _).map _)
      rw [List.map_pmap]
      exact congrArg Json.obj ((List.pmap_eq_map (f := id) _).trans (List.map_id _)).symm
    · cases h
  refine ⟨himp, ?_⟩
  rintro rfl
  cases h : (object m).asObject with
  | none =>
      unfold asObject at h
      split at h
      · cases h
      · rename_i hno
        exact absurd rfl (hno _)
  | some n => rw [object_inj (himp h)]

theorem asArray_eq_some {v : Value} {items : List Value} :
    v.asArray = some items ↔ v = array items := by
  have himp : ∀ {w : Value} {xs : List Value}, w.asArray = some xs → w = array xs := by
    intro w xs h
    unfold asArray at h
    split at h
    · rename_i trees htree
      have hxs := Option.some.inj h
      apply ext_tree
      rw [htree, ← hxs]
      show Json.arr trees = Json.arr ((trees.pmap _ _).map _)
      rw [List.map_pmap, List.pmap_eq_map, List.map_id']
    · cases h
  refine ⟨himp, ?_⟩
  rintro rfl
  cases h : (array items).asArray with
  | none =>
      unfold asArray at h
      split at h
      · cases h
      · rename_i hno
        exact absurd rfl (hno _)
  | some xs => rw [array_inj (himp h)]

@[simp] theorem asObject_object (m : Map) : (object m).asObject = some m :=
  asObject_eq_some.mpr rfl

/-- A member of an object value. -/
@[simp] theorem get_object (m : Map) (key : String) : (object m).get key = m.get key := by
  have hlookup : ∀ entries : List (String × Value),
      Json.lookup key (entries.map fun e => (e.1, e.2.tree)) = (Map.find key entries).map tree := by
    intro entries
    induction entries with
    | nil => rfl
    | cons e rest ih =>
        obtain ⟨k, v⟩ := e
        rw [List.map_cons, Map.find_cons]
        unfold Json.lookup
        by_cases hk : k = key
        · rw [if_pos hk, if_pos hk]
          rfl
        · rw [if_neg hk, if_neg hk]
          exact ih
  have htree : (object m).tree.get key = (m.get key).map tree := hlookup m.entries
  cases hm : m.get key with
  | some v => exact get_eq_some.mpr (by rw [htree, hm]; rfl)
  | none =>
      cases hv : (object m).get key with
      | none => rfl
      | some w =>
          rw [get_eq_some, htree, hm] at hv
          cases hv

@[simp] theorem asArray_array (items : List Value) : (array items).asArray = some items :=
  asArray_eq_some.mpr rfl

end Value
