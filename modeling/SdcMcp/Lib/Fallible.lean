/-
How a plain fallible computation succeeds or fails, step by step.
-/
import Mathlib.Data.List.Forall2

namespace Except

variable {ε α β : Type}

/-- A sequence succeeds when each step does. -/
theorem bind_eq_ok_iff {x : Except ε α} {f : α → Except ε β} {b : β} :
    (x >>= f) = .ok b ↔ ∃ a, x = .ok a ∧ f a = .ok b := by
  cases x with
  | error e => exact ⟨nofun, fun ⟨_, h, _⟩ => nomatch h⟩
  | ok a =>
      constructor
      · intro h
        exact ⟨a, rfl, h⟩
      · rintro ⟨a', ha, h⟩
        cases ha
        exact h

/-- A sequence fails in its first step, or in what follows it. -/
theorem bind_eq_error_iff {x : Except ε α} {f : α → Except ε β} {e : ε} :
    (x >>= f) = .error e ↔ x = .error e ∨ ∃ a, x = .ok a ∧ f a = .error e := by
  cases x with
  | error e' =>
      constructor
      · intro h
        cases h
        exact Or.inl rfl
      · rintro (h | ⟨a, h, -⟩)
        · cases h
          rfl
        · cases h
  | ok a =>
      constructor
      · intro h
        exact Or.inr ⟨a, rfl, h⟩
      · rintro (h | ⟨a', ha, h⟩)
        · cases h
        · cases ha
          exact h

/-- A check of a list fails at one of its items. -/
theorem forM_eq_error {f : α → Except ε Unit} {l : List α} {e : ε} (h : l.forM f = .error e) :
    ∃ a ∈ l, f a = .error e := by
  induction l with
  | nil => cases h
  | cons a rest ih =>
      rw [List.forM_eq_forM, List.forM_cons] at h
      rcases bind_eq_error_iff.mp h with ha | ⟨u, -, hrest⟩
      · exact ⟨a, List.mem_cons_self, ha⟩
      · obtain ⟨b, hb, hf⟩ := ih hrest
        exact ⟨b, List.mem_cons_of_mem a hb, hf⟩

/-- A check of a list passes when every item does. -/
theorem forM_eq_ok_iff {f : α → Except ε Unit} {l : List α} :
    l.forM f = .ok () ↔ ∀ a ∈ l, f a = .ok () := by
  induction l with
  | nil => exact iff_of_true rfl (by simp)
  | cons a rest ih =>
      rw [List.forM_eq_forM, List.forM_cons, bind_eq_ok_iff, List.forall_mem_cons, ← ih]
      constructor
      · rintro ⟨u, ha, hrest⟩
        exact ⟨ha, hrest⟩
      · rintro ⟨ha, hrest⟩
        exact ⟨(), ha, hrest⟩

/-- A list is mapped item by item. -/
theorem mapM_eq_ok {f : α → Except ε β} {l : List α} {bs : List β} (h : l.mapM f = .ok bs) :
    List.Forall₂ (fun a b => f a = .ok b) l bs := by
  induction l generalizing bs with
  | nil =>
      cases h
      exact .nil
  | cons a rest ih =>
      rw [List.mapM_cons] at h
      obtain ⟨b, hb, h⟩ := bind_eq_ok_iff.mp h
      obtain ⟨rest', hrest, h⟩ := bind_eq_ok_iff.mp h
      cases h
      exact .cons hb (ih hrest)

/-- A list that is not mapped has an item that is not. -/
theorem mapM_eq_error {f : α → Except ε β} {l : List α} {e : ε} (h : l.mapM f = .error e) :
    ∃ a ∈ l, f a = .error e := by
  induction l with
  | nil => cases h
  | cons a rest ih =>
      rw [List.mapM_cons] at h
      rcases bind_eq_error_iff.mp h with ha | ⟨b, -, h⟩
      · exact ⟨a, List.mem_cons_self, ha⟩
      · rcases bind_eq_error_iff.mp h with hrest | ⟨bs, -, h⟩
        · obtain ⟨c, hc, hf⟩ := ih hrest
          exact ⟨c, List.mem_cons_of_mem a hc, hf⟩
        · cases h

theorem mapError_eq_ok_iff {ε' : Type} {g : ε → ε'} {x : Except ε α} {a : α} :
    x.mapError g = .ok a ↔ x = .ok a := by
  cases x with
  | error e => exact iff_of_false nofun nofun
  | ok a' =>
      show Except.ok a' = .ok a ↔ _
      rw [Except.ok.injEq, Except.ok.injEq]

theorem map_eq_ok_iff {f : α → β} {x : Except ε α} {b : β} :
    x.map f = .ok b ↔ ∃ a, x = .ok a ∧ f a = b := by
  cases x with
  | error e => exact iff_of_false nofun fun ⟨_, hx, _⟩ => nomatch hx
  | ok a =>
      constructor
      · intro h
        cases h
        exact ⟨a, rfl, rfl⟩
      · rintro ⟨a', ha, rfl⟩
        cases ha
        rfl

theorem ite_error_eq_ok_iff {c : Prop} [Decidable c] {e : ε} {x : Except ε α} {a : α} :
    (if c then .error e else x) = .ok a ↔ ¬ c ∧ x = .ok a := by
  by_cases hc : c
  · rw [if_pos hc]
    exact iff_of_false nofun fun h => h.1 hc
  · rw [if_neg hc]
    exact (and_iff_right hc).symm

/-- What follows a check runs when the check passes. -/
theorem check_bind_eq_ok_iff {x : Except ε Unit} {k : Unit → Except ε β} {b : β} :
    (x >>= k) = .ok b ↔ x = .ok () ∧ k () = .ok b := by
  rw [bind_eq_ok_iff]
  exact ⟨fun ⟨_, hx, hk⟩ => ⟨hx, hk⟩, fun ⟨hx, hk⟩ => ⟨(), hx, hk⟩⟩

/-- A guard passes when its condition does not hold. -/
theorem guard_bind_eq_ok_iff {c : Prop} [Decidable c] {e : ε} {k : Unit → Except ε β} {b : β} :
    (if c then (throw e : Except ε Unit) >>= k else k ()) = .ok b ↔ ¬ c ∧ k () = .ok b := by
  by_cases hc : c
  · rw [if_pos hc]
    exact iff_of_false nofun fun h => h.1 hc
  · rw [if_neg hc]
    exact (and_iff_right hc).symm

theorem guard_eq_ok_iff {c : Prop} [Decidable c] {e : ε} :
    (if c then (throw e : Except ε Unit) else pure ()) = .ok () ↔ ¬ c := by
  by_cases hc : c
  · rw [if_pos hc]
    exact iff_of_false nofun fun h => h hc
  · rw [if_neg hc]
    exact iff_of_true rfl hc

end Except
