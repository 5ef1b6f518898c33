/-
Sorted lists over a key.

A list sorted by an injective key is the only sorted list with its elements, so sorting
forgets the order a list came in; and it has no two equal elements exactly when it is
strictly sorted.

Under a key that two elements may share, a stable sort keeps the order of those that do.
So what it makes of a list is determined by the elements of each key, in their order,
`insertionSort_congr`.
-/
import Mathlib.Data.List.Sort

namespace Sorting

variable {α β : Type} [LinearOrder β] {key : α → β}

/-- Two sorted arrangements of the same elements are the same list. -/
theorem eq_of_perm (hkey : Function.Injective key) {l l' : List α} (hperm : l.Perm l')
    (h : l.Pairwise fun a b => key a ≤ key b) (h' : l'.Pairwise fun a b => key a ≤ key b) :
    l = l' := by
  refine List.map_injective_iff.mpr hkey ?_
  refine (hperm.map key).eq_of_pairwise ?_ (List.pairwise_map.mpr h) (List.pairwise_map.mpr h')
  intro a b _ _ hab hba
  exact le_antisymm hab hba

/-- A sorted list is strictly sorted when it has no element twice. -/
theorem strict_iff_nodup (hkey : Function.Injective key) {l : List α}
    (h : l.Pairwise fun a b => key a ≤ key b) :
    (l.Pairwise fun a b => key a < key b) ↔ l.Nodup := by
  constructor
  · intro hlt
    exact hlt.imp fun {a b} hab heq => absurd (congrArg key heq) (ne_of_lt hab)
  · intro hnodup
    exact (h.and hnodup).imp fun hab => lt_of_le_of_ne hab.1 fun heq => hab.2 (hkey heq)

/-! ### Stable sorting -/

section Stable

variable {α β : Type} [DecidableEq β] {key : α → β} {r : α → α → Prop}

/-- Two lists in order are the same when they have the same elements of each key. -/
theorem eq_of_filter_eq (hanti : ∀ a b, r a b → r b a → key a = key b) {l l' : List α}
    (hl : l.Pairwise r) (hl' : l'.Pairwise r)
    (h : ∀ k, l.filter (fun a => key a = k) = l'.filter fun a => key a = k) : l = l' := by
  induction l generalizing l' with
  | nil =>
      cases l' with
      | nil => rfl
      | cons b t' =>
          have hb := h (key b)
          rw [List.filter_cons_of_pos (by simp)] at hb
          cases hb
  | cons a t ih =>
      cases l' with
      | nil =>
          have ha := h (key a)
          rw [List.filter_cons_of_pos (by simp)] at ha
          cases ha
      | cons b t' =>
          -- each head stands somewhere in the other list, so the heads share their key
          have hmem : ∀ {x : α} {s s' : List α}, s.filter (fun y => key y = key x)
              = s'.filter (fun y => key y = key x) → x ∈ s → x ∈ s' := by
            intro x s s' hfilter hx
            have hin : x ∈ s.filter fun y => key y = key x := List.mem_filter.mpr ⟨hx, by simp⟩
            rw [hfilter] at hin
            exact (List.mem_filter.mp hin).1
          have hkey : key a = key b := by
            rcases List.mem_cons.mp (hmem (h (key a)) List.mem_cons_self) with hab | ha
            · rw [hab]
            rcases List.mem_cons.mp (hmem (h (key b)).symm List.mem_cons_self) with hba | hb
            · rw [hba]
            · exact hanti a b (List.rel_of_pairwise_cons hl hb) (List.rel_of_pairwise_cons hl' ha)
          have hhead := h (key a)
          rw [List.filter_cons_of_pos (by simp), List.filter_cons_of_pos (by simp [hkey])] at hhead
          obtain ⟨rfl, -⟩ := List.cons.inj hhead
          rw [ih hl.of_cons hl'.of_cons fun k => ?_]
          have hk := h k
          by_cases hak : key a = k
          · rw [List.filter_cons_of_pos (by simp [hak]), List.filter_cons_of_pos (by simp [hak])]
              at hk
            exact (List.cons.inj hk).2
          · rw [List.filter_cons_of_neg (by simp [hak]), List.filter_cons_of_neg (by simp [hak])]
              at hk
            exact hk

variable [DecidableRel r]

private theorem filter_orderedInsert (hrefl : ∀ a b, key a = key b → r a b) (a : α) (k : β)
    (l : List α) : (l.orderedInsert r a).filter (fun b => key b = k)
      = (a :: l).filter fun b => key b = k := by
  induction l with
  | nil => rfl
  | cons b t ih =>
      rw [List.orderedInsert_cons]
      by_cases hab : r a b
      · rw [if_pos hab]
      · rw [if_neg hab, List.filter_cons, ih]
        -- an element that is passed has another key
        have hne : key a ≠ key b := fun heq => hab (hrefl a b heq)
        by_cases ha : key a = k
        · have hb : key b ≠ k := fun hb => hne (ha.trans hb.symm)
          simp [ha, hb]
        · simp [ha, List.filter_cons]

/-- Sorting keeps the order of the elements of one key. -/
theorem filter_insertionSort (hrefl : ∀ a b, key a = key b → r a b) (k : β) (l : List α) :
    (l.insertionSort r).filter (fun a => key a = k) = l.filter fun a => key a = k := by
  induction l with
  | nil => rfl
  | cons a t ih =>
      rw [List.insertionSort_cons, filter_orderedInsert hrefl, List.filter_cons, List.filter_cons,
        ih]

/-- **A stable sort is determined by the elements of each key.** -/
theorem insertionSort_congr [Std.Total r] [IsTrans α r] (hrefl : ∀ a b, key a = key b → r a b)
    (hanti : ∀ a b, r a b → r b a → key a = key b) {l l' : List α}
    (h : ∀ k, l.filter (fun a => key a = k) = l'.filter fun a => key a = k) :
    l.insertionSort r = l'.insertionSort r := by
  refine eq_of_filter_eq hanti (List.pairwise_insertionSort r l) (List.pairwise_insertionSort r l')
    fun k => ?_
  rw [filter_insertionSort hrefl, filter_insertionSort hrefl, h k]

omit [DecidableRel r] in
/-- Elements with different keys may come in any order. -/
theorem filter_eq_of_perm {l l' : List α} (hperm : l.Perm l') (hnd : (l.map key).Nodup) (k : β) :
    l.filter (fun a => key a = k) = l'.filter fun a => key a = k := by
  have hfilter : (l.filter fun a => key a = k).Perm (l'.filter fun a => key a = k) :=
    hperm.filter _
  have hkeys : ((l.filter fun a => key a = k).map key).Nodup :=
    (List.filter_sublist.map key).nodup hnd
  have hall : ∀ a ∈ l.filter fun a => key a = k, key a = k := by
    intro a ha
    simpa using (List.mem_filter.mp ha).2
  cases hl : l.filter fun a => key a = k with
  | nil =>
      rw [hl] at hfilter
      exact hfilter.nil_eq
  | cons a rest =>
      rw [hl] at hfilter hkeys hall
      cases rest with
      | nil => exact hfilter.singleton_eq
      | cons b rest =>
          have ha := hall a List.mem_cons_self
          have hb := hall b (List.mem_cons_of_mem a List.mem_cons_self)
          rw [List.map_cons, List.map_cons, List.nodup_cons, List.mem_cons, not_or] at hkeys
          exact absurd (ha.trans hb.symm) hkeys.1.1

omit [DecidableRel r] in
/-- An element with a key of its own may stand anywhere. -/
theorem filter_eq_of_insert {front back front' back' : List α} {a : α}
    (hlist : front ++ back = front' ++ back') (halone : ∀ b ∈ front ++ back, key b ≠ key a)
    (k : β) : (front ++ a :: back).filter (fun b => key b = k)
      = (front' ++ a :: back').filter fun b => key b = k := by
  have hsplit : ∀ xs ys : List α, (xs ++ a :: ys).filter (fun b => key b = k)
      = if key a = k then (xs.filter fun b => key b = k) ++ a :: ys.filter fun b => key b = k
        else (xs ++ ys).filter fun b => key b = k := by
    intro xs ys
    by_cases hak : key a = k
    · rw [if_pos hak, List.filter_append, List.filter_cons_of_pos (by simp [hak])]
    · rw [if_neg hak, List.filter_append, List.filter_append,
        List.filter_cons_of_neg (by simp [hak])]
  rw [hsplit, hsplit, hlist]
  by_cases hak : key a = k
  · have hnone : ∀ xs ys : List α, (∀ b ∈ xs ++ ys, key b ≠ key a) →
        (xs.filter fun b => key b = k) ++ a :: ys.filter (fun b => key b = k) = [a] := by
      intro xs ys hne
      have hempty : ∀ zs : List α, (∀ b ∈ zs, b ∈ xs ++ ys) →
          zs.filter (fun b => key b = k) = [] := by
        intro zs hsub
        refine List.filter_eq_nil_iff.mpr fun b hb => ?_
        simpa [← hak] using hne b (hsub b hb)
      rw [hempty xs fun b hb => List.mem_append_left ys hb,
        hempty ys fun b hb => List.mem_append_right xs hb]
      rfl
    rw [if_pos hak, if_pos hak, hnone front back halone, hnone front' back' (hlist ▸ halone)]
  · rw [if_neg hak, if_neg hak]

end Stable

end Sorting
