/-
Interleavings of finitely many lists.

Several parties each do their own events in their own order, and what an observer sees is
one list of all of them.  `Interleaves parts whole` says that: `whole` is emptied by taking
the head of some part over and over until every part is empty.

Whatever can be said of the parts by their members or by counting carries over to the
whole.  Nothing can be said of the order of events of different parts.
-/
import Mathlib.Algebra.GroupWithZero.Nat
import Mathlib.Data.List.Basic
import Mathlib.Data.List.Perm.Basic

namespace Interleaving

variable {α β : Type}

/-- The whole is made of the parts, each part in its own order. -/
inductive Interleaves : List (List α) → List α → Prop
  | done {parts : List (List α)} (h : ∀ part ∈ parts, part = []) : Interleaves parts []
  | take (before after : List (List α)) {a : α} {rest whole : List α}
      (h : Interleaves (before ++ rest :: after) whole) :
      Interleaves (before ++ (a :: rest) :: after) (a :: whole)

namespace Interleaves

variable {parts : List (List α)} {whole : List α}

/-- The whole is the parts in another order. -/
theorem perm (h : Interleaves parts whole) : whole.Perm parts.flatten := by
  induction h with
  | done hempty =>
      rw [List.flatten_eq_nil_iff.mpr hempty]
  | @take before after a rest whole _ ih =>
      have hmiddle : (before ++ (a :: rest) :: after).flatten.Perm
          (a :: (before ++ rest :: after).flatten) := by
        rw [List.flatten_append, List.flatten_append, List.flatten_cons, List.flatten_cons,
          List.cons_append]
        exact List.perm_middle
      exact (ih.cons a).trans hmiddle.symm

theorem mem_iff (h : Interleaves parts whole) {a : α} :
    a ∈ whole ↔ ∃ part ∈ parts, a ∈ part := by
  rw [h.perm.mem_iff, List.mem_flatten]

/-- Every part is there in its own order. -/
theorem sublist (h : Interleaves parts whole) {part : List α} (hpart : part ∈ parts) :
    part.Sublist whole := by
  induction h generalizing part with
  | done hempty =>
      rw [hempty part hpart]
  | @take before after a rest whole _ ih =>
      rcases List.mem_append.mp hpart with hb | hc
      · exact (ih (List.mem_append_left _ hb)).cons a
      · rcases List.mem_cons.mp hc with rfl | ha
        · exact (ih (List.mem_append_right _ List.mem_cons_self)).cons_cons a
        · exact (ih (List.mem_append_right _ (List.mem_cons_of_mem _ ha))).cons a

/-- Counting the whole is counting its parts. -/
theorem countP_eq (h : Interleaves parts whole) (p : α → Bool) :
    whole.countP p = (parts.map fun part => part.countP p).sum := by
  rw [h.perm.countP_eq, List.countP_flatten]

/-- Parties that go one after the other are an interleaving. -/
theorem flatten (parts : List (List α)) : Interleaves parts parts.flatten := by
  induction parts with
  | nil => exact .done (by simp)
  | cons part parts ih =>
      rw [List.flatten_cons]
      induction part with
      | nil =>
          -- An empty party in front changes no interleaving of the others.
          have hfront : ∀ {rest : List (List α)} {whole : List α}, Interleaves rest whole →
              Interleaves ([] :: rest) whole := by
            intro rest whole h
            induction h with
            | done hempty =>
                refine .done fun part hpart => ?_
                rcases List.mem_cons.mp hpart with rfl | hp
                · rfl
                · exact hempty part hp
            | take before after _ ih => exact .take ([] :: before) after ih
          exact hfront ih
      | cons a rest ihpart => exact .take [] parts ihpart

end Interleaves

end Interleaving
