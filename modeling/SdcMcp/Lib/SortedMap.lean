/-
Maps kept as lists sorted by key.

`insert` puts a binding at its place and replaces an earlier binding of the same
key; `ofList` inserts the bindings of a list one after another, so the last
binding of a key wins and the result is in key order.  A list that names no key
twice is only rearranged.
-/
import Mathlib.Order.Lattice
import Mathlib.Data.List.Perm.Basic

namespace SortedMap

variable {κ ν : Type} [LinearOrder κ]

/-- Binds `k` to `v`, keeping the list in key order. -/
def insert (k : κ) (v : ν) : List (κ × ν) → List (κ × ν)
  | [] => [(k, v)]
  | (k', v') :: rest =>
      if k < k' then (k, v) :: (k', v') :: rest
      else if k = k' then (k, v) :: rest
      else (k', v') :: insert k v rest

/-- The bindings of a list, inserted from left to right. -/
def ofList (l : List (κ × ν)) : List (κ × ν) :=
  l.foldl (fun m b => insert b.1 b.2 m) []

/-- A key that is not bound yet only finds its place. -/
theorem insert_perm {k : κ} {v : ν} {m : List (κ × ν)} (hk : k ∉ m.map Prod.fst) :
    (insert k v m).Perm ((k, v) :: m) := by
  induction m with
  | nil => exact List.Perm.refl _
  | cons b rest ih =>
      obtain ⟨k', v'⟩ := b
      simp only [List.map_cons, List.mem_cons, not_or] at hk
      unfold insert
      by_cases hlt : k < k'
      · rw [if_pos hlt]
      · rw [if_neg hlt, if_neg hk.1]
        exact ((ih hk.2).cons (k', v')).trans (List.Perm.swap _ _ _)

theorem mem_of_mem_insert {k : κ} {v : ν} {b : κ × ν} {m : List (κ × ν)}
    (h : b ∈ insert k v m) : b = (k, v) ∨ b ∈ m := by
  induction m with
  | nil => exact Or.inl (List.mem_singleton.mp h)
  | cons c rest ih =>
      obtain ⟨k', v'⟩ := c
      unfold insert at h
      by_cases hlt : k < k'
      · rw [if_pos hlt] at h
        exact List.mem_cons.mp h
      by_cases heq : k = k'
      · rw [if_neg hlt, if_pos heq] at h
        rcases List.mem_cons.mp h with hk | hrest
        · exact Or.inl hk
        · exact Or.inr (List.mem_cons_of_mem _ hrest)
      · rw [if_neg hlt, if_neg heq] at h
        rcases List.mem_cons.mp h with hk | hrest
        · exact Or.inr (List.mem_cons.mpr (Or.inl hk))
        · rcases ih hrest with hb | hmem
          · exact Or.inl hb
          · exact Or.inr (List.mem_cons_of_mem _ hmem)

private theorem foldl_insert_perm (l : List (κ × ν)) :
    ∀ m : List (κ × ν), ((m ++ l).map Prod.fst).Nodup →
      (l.foldl (fun m b => insert b.1 b.2 m) m).Perm (m ++ l) := by
  induction l with
  | nil => intro m _; simp
  | cons b rest ih =>
      intro m hnd
      have hperm : (m ++ b :: rest).Perm (((b.1, b.2) :: m) ++ rest) := List.perm_middle
      have hnd' : ((((b.1, b.2) :: m) ++ rest).map Prod.fst).Nodup :=
        (hperm.map Prod.fst).nodup_iff.mp hnd
      have hb : b.1 ∉ m.map Prod.fst := by
        simp only [List.cons_append, List.map_cons, List.nodup_cons, List.map_append,
          List.mem_append, not_or] at hnd'
        exact hnd'.1.1
      have hins : (insert b.1 b.2 m ++ rest).Perm (((b.1, b.2) :: m) ++ rest) :=
        (insert_perm hb).append_right rest
      refine (ih (insert b.1 b.2 m) ?_).trans (hins.trans hperm.symm)
      exact (hins.map Prod.fst).nodup_iff.mpr hnd'

/-- A list that names no key twice is only rearranged. -/
theorem ofList_perm {l : List (κ × ν)} (hnd : (l.map Prod.fst).Nodup) : (ofList l).Perm l := by
  simpa [ofList] using foldl_insert_perm l [] (by simpa using hnd)

/-! ### The order of the keys -/

theorem insert_sorted (k : κ) (v : ν) {m : List (κ × ν)}
    (hm : (m.map Prod.fst).Pairwise (· < ·)) :
    ((insert k v m).map Prod.fst).Pairwise (· < ·) := by
  induction m with
  | nil => simp [insert]
  | cons b rest ih =>
      obtain ⟨k', v'⟩ := b
      have hfull := hm
      rw [List.map_cons, List.pairwise_cons] at hm
      unfold insert
      by_cases hlt : k < k'
      · rw [if_pos hlt, List.map_cons, List.pairwise_cons]
        refine ⟨?_, hfull⟩
        intro key hkey
        rcases List.mem_cons.mp hkey with rfl | hrest
        · exact hlt
        · exact hlt.trans (hm.1 key hrest)
      by_cases heq : k = k'
      · rw [if_neg hlt, if_pos heq, heq]
        exact hfull
      · rw [if_neg hlt, if_neg heq, List.map_cons, List.pairwise_cons]
        refine ⟨?_, ih hm.2⟩
        have hgt : k' < k := lt_of_le_of_ne (not_lt.mp hlt) (Ne.symm heq)
        intro key hkey
        obtain ⟨b, hb, rfl⟩ := List.mem_map.mp hkey
        rcases mem_of_mem_insert hb with rfl | hrest
        · exact hgt
        · exact hm.1 b.1 (List.mem_map_of_mem hrest)

/-- The bindings that were inserted one after another stand in key order. -/
theorem ofList_sorted (l : List (κ × ν)) : ((ofList l).map Prod.fst).Pairwise (· < ·) := by
  have hfold : ∀ m : List (κ × ν), (m.map Prod.fst).Pairwise (· < ·) →
      ((l.foldl (fun m b => insert b.1 b.2 m) m).map Prod.fst).Pairwise (· < ·) := by
    induction l with
    | nil => exact fun m hm => hm
    | cons b rest ih => exact fun m hm => ih _ (insert_sorted b.1 b.2 hm)
  exact hfold [] List.Pairwise.nil

theorem mem_of_mem_ofList {b : κ × ν} {l : List (κ × ν)} (h : b ∈ ofList l) : b ∈ l := by
  have hfold : ∀ m : List (κ × ν), b ∈ l.foldl (fun m b => insert b.1 b.2 m) m →
      b ∈ m ∨ b ∈ l := by
    clear h
    induction l with
    | nil => exact fun m hm => Or.inl hm
    | cons c rest ih =>
        intro m hm
        rcases ih _ hm with hinsert | hrest
        · rcases mem_of_mem_insert hinsert with rfl | hmem
          · exact Or.inr List.mem_cons_self
          · exact Or.inl hmem
        · exact Or.inr (List.mem_cons_of_mem c hrest)
  exact (hfold [] h).resolve_left List.not_mem_nil

/-- Two lists of the same bindings in key order are the same list. -/
theorem eq_of_perm {l l' : List (κ × ν)} (hperm : l.Perm l')
    (h : (l.map Prod.fst).Pairwise (· < ·)) (h' : (l'.map Prod.fst).Pairwise (· < ·)) :
    l = l' := by
  refine hperm.eq_of_pairwise ?_ (List.pairwise_map.mp h) (List.pairwise_map.mp h')
  intro a b _ _ hab hba
  exact absurd hba (lt_asymm hab)

/-- The order in which keys are first bound does not matter. -/
theorem ofList_eq_of_perm {l l' : List (κ × ν)} (hnd : (l.map Prod.fst).Nodup)
    (hperm : l.Perm l') : ofList l = ofList l' := by
  have hnd' : (l'.map Prod.fst).Nodup := (hperm.map Prod.fst).nodup_iff.mp hnd
  exact eq_of_perm ((ofList_perm hnd).trans (hperm.trans (ofList_perm hnd').symm))
    (ofList_sorted l) (ofList_sorted l')

theorem ofList_eq_self {l : List (κ × ν)} (h : (l.map Prod.fst).Pairwise (· < ·)) :
    ofList l = l :=
  eq_of_perm (ofList_perm (h.imp fun hlt => ne_of_lt hlt)) (ofList_sorted l) h

/-! ### What a binding changes -/

theorem lookup_insert (k : κ) (v : ν) (m : List (κ × ν)) : (insert k v m).lookup k = some v := by
  induction m with
  | nil => simp [insert]
  | cons b rest ih =>
      obtain ⟨k', v'⟩ := b
      unfold insert
      by_cases hlt : k < k'
      · rw [if_pos hlt, List.lookup_cons_self]
      by_cases heq : k = k'
      · rw [if_neg hlt, if_pos heq, List.lookup_cons_self]
      · rw [if_neg hlt, if_neg heq, List.lookup_cons, beq_eq_false_iff_ne.mpr heq]
        exact ih

/-- The other bindings stay as they are. -/
theorem filter_insert (k : κ) (v : ν) (m : List (κ × ν)) :
    (insert k v m).filter (fun b => b.1 ≠ k) = m.filter fun b => b.1 ≠ k := by
  induction m with
  | nil => simp [insert]
  | cons b rest ih =>
      obtain ⟨k', v'⟩ := b
      unfold insert
      by_cases hlt : k < k'
      · rw [if_pos hlt, List.filter_cons_of_neg (by simp)]
      by_cases heq : k = k'
      · rw [if_neg hlt, if_pos heq, List.filter_cons_of_neg (by simp),
          List.filter_cons_of_neg (by simp [heq])]
      · have hne : k' ≠ k := fun h => heq h.symm
        rw [if_neg hlt, if_neg heq, List.filter_cons_of_pos (by simp [hne]),
          List.filter_cons_of_pos (by simp [hne]), ih]

private theorem insert_of_lt {k : κ} {v : ν} {m : List (κ × ν)} (h : ∀ b ∈ m, k < b.1) :
    insert k v m = (k, v) :: m := by
  cases m with
  | nil => rfl
  | cons b rest =>
      obtain ⟨k', v'⟩ := b
      unfold insert
      rw [if_pos (h (k', v') List.mem_cons_self)]

/-- A binding does not depend on what its key was bound to. -/
theorem insert_filter {k : κ} (v : ν) {m : List (κ × ν)}
    (hm : (m.map Prod.fst).Pairwise (· < ·)) :
    insert k v (m.filter fun b => b.1 ≠ k) = insert k v m := by
  induction m with
  | nil => rfl
  | cons b rest ih =>
      obtain ⟨k', v'⟩ := b
      rw [List.map_cons, List.pairwise_cons] at hm
      have hrest : ∀ b ∈ rest, k' < b.1 := fun b hb => hm.1 _ (List.mem_map_of_mem hb)
      have hkeep : k ≤ k' → rest.filter (fun b => b.1 ≠ k) = rest := by
        intro hle
        refine List.filter_eq_self.mpr fun b hb => ?_
        simpa using (lt_of_le_of_lt hle (hrest b hb)).ne'
      by_cases heq : k = k'
      · have hlt : ¬k < k' := by rw [heq]; exact lt_irrefl _
        rw [List.filter_cons_of_neg (by simp [heq]), hkeep (le_of_eq heq), insert, if_neg hlt,
          if_pos heq]
        refine insert_of_lt fun b hb => ?_
        rw [heq]
        exact hrest b hb
      have hne : k' ≠ k := fun h => heq h.symm
      rw [List.filter_cons_of_pos (by simp [hne])]
      by_cases hlt : k < k'
      · rw [hkeep (le_of_lt hlt)]
      · rw [insert, if_neg hlt, if_neg heq, ih hm.2, insert, if_neg hlt, if_neg heq]

/-- To bind a key to what it is bound to changes nothing. -/
theorem insert_of_lookup {k : κ} {v : ν} {m : List (κ × ν)}
    (hm : (m.map Prod.fst).Pairwise (· < ·)) (h : m.lookup k = some v) : insert k v m = m := by
  induction m with
  | nil => cases h
  | cons b rest ih =>
      obtain ⟨k', v'⟩ := b
      rw [List.map_cons, List.pairwise_cons] at hm
      rw [List.lookup_cons] at h
      unfold insert
      by_cases heq : k = k'
      · have hlt : ¬k < k' := by rw [heq]; exact lt_irrefl _
        rw [beq_iff_eq.mpr heq] at h
        rw [if_neg hlt, if_pos heq, heq, Option.some.inj h]
      · rw [beq_eq_false_iff_ne.mpr heq] at h
        obtain ⟨before, after, hsplit, -⟩ := List.lookup_eq_some_iff.mp h
        have hmem : (k, v) ∈ rest := by rw [hsplit]; simp
        have hlt : ¬k < k' := not_lt_of_gt (hm.1 k (List.mem_map_of_mem hmem))
        rw [if_neg hlt, if_neg heq, ih hm.2 h]

end SortedMap
