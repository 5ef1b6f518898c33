/-
Tasks that share permits.

Each task of a pool moves on its own.  A move after which it holds a permit that it did not
hold before waits until one is there, and a move after which it no longer holds one gives
it back.  New tasks come without a permit.

Permits are neither made nor lost, so no more tasks hold one than there were permits.  If
every holder can move, and so in time gives its permit back, the pool is never stuck while
a task is left that could move.  And if each move brings a task closer to its end, the
tasks of a pool come to rest after boundedly many moves, in whatever order they are made.
-/
import Mathlib.Algebra.BigOperators.Group.List.Basic
import Mathlib.Algebra.GroupWithZero.Nat
import Mathlib.Logic.Relation

namespace Semaphore

variable {Task : Type*}

structure Pool (Task : Type*) where
  permits : Nat
  tasks : List Task

/-- How many tasks hold a permit. -/
def Pool.held (holds : Task → Bool) (pool : Pool Task) : Nat := pool.tasks.countP holds

/-- One move of one task. -/
inductive Work (holds : Task → Bool) (moves : Task → Task → Prop) : Pool Task → Pool Task → Prop
  | acquire {permits : Nat} (before after : List Task) {p q : Task} (hmove : moves p q)
      (hp : holds p = false) (hq : holds q = true) :
      Work holds moves ⟨permits + 1, before ++ p :: after⟩ ⟨permits, before ++ q :: after⟩
  | release {permits : Nat} (before after : List Task) {p q : Task} (hmove : moves p q)
      (hp : holds p = true) (hq : holds q = false) :
      Work holds moves ⟨permits, before ++ p :: after⟩ ⟨permits + 1, before ++ q :: after⟩
  | carryOn {permits : Nat} (before after : List Task) {p q : Task} (hmove : moves p q)
      (hsame : holds q = holds p) :
      Work holds moves ⟨permits, before ++ p :: after⟩ ⟨permits, before ++ q :: after⟩

/-- A move of a task, or a new one. -/
inductive Step (holds : Task → Bool) (moves : Task → Task → Prop) (starts : Task → Prop) :
    Pool Task → Pool Task → Prop
  | work {pool pool' : Pool Task} (h : Work holds moves pool pool') :
      Step holds moves starts pool pool'
  | start {permits : Nat} {tasks : List Task} {p : Task} (hp : starts p) (hfree : holds p = false) :
      Step holds moves starts ⟨permits, tasks⟩ ⟨permits, tasks ++ [p]⟩

variable {holds : Task → Bool} {moves : Task → Task → Prop} {starts : Task → Prop}
  {pool pool' : Pool Task}

/-- What a pool of so many permits can come to. -/
def Reachable (holds : Task → Bool) (moves : Task → Task → Prop) (starts : Task → Prop)
    (capacity : Nat) (pool : Pool Task) : Prop :=
  Relation.ReflTransGen (Step holds moves starts) ⟨capacity, []⟩ pool

/-- A pool moves by a move of one of its tasks. -/
theorem Work.exists_move (h : Work holds moves pool pool') : ∃ p ∈ pool.tasks, ∃ q, moves p q := by
  cases h with
  | acquire before after hmove _ _ => exact ⟨_, by simp, _, hmove⟩
  | release before after hmove _ _ => exact ⟨_, by simp, _, hmove⟩
  | carryOn before after hmove _ => exact ⟨_, by simp, _, hmove⟩

/-! ### Permits are conserved -/

theorem Work.conserves (h : Work holds moves pool pool') :
    pool'.permits + pool'.held holds = pool.permits + pool.held holds := by
  cases h with
  | acquire before after hmove hp hq =>
      simp only [Pool.held, List.countP_append, List.countP_cons, hp, hq]
      grind
  | release before after hmove hp hq =>
      simp only [Pool.held, List.countP_append, List.countP_cons, hp, hq]
      grind
  | carryOn before after hmove hsame =>
      simp only [Pool.held, List.countP_append, List.countP_cons, hsame]

theorem Step.conserves (h : Step holds moves starts pool pool') :
    pool'.permits + pool'.held holds = pool.permits + pool.held holds := by
  cases h with
  | work h => exact h.conserves
  | start hp hfree => simp [Pool.held, hfree]

/-- **Permits are neither made nor lost.** -/
theorem Reachable.conserved {capacity : Nat} (h : Reachable holds moves starts capacity pool) :
    pool.permits + pool.held holds = capacity := by
  induction h with
  | refl => rfl
  | tail _ hstep ih => rw [hstep.conserves, ih]

/-! ### Tasks one by one -/

theorem Work.forall {Inv : Task → Prop} (hmoves : ∀ p q, Inv p → moves p q → Inv q)
    (h : Work holds moves pool pool') (hinv : ∀ p ∈ pool.tasks, Inv p) :
    ∀ p ∈ pool'.tasks, Inv p := by
  have hmiddle : ∀ (before after : List Task) (p q : Task), moves p q →
      (∀ t ∈ before ++ p :: after, Inv t) → ∀ t ∈ before ++ q :: after, Inv t := by
    intro before after p q hmove hall t ht
    rcases List.mem_append.mp ht with hb | ht
    · exact hall t (List.mem_append_left _ hb)
    · rcases List.mem_cons.mp ht with rfl | ha
      · exact hmoves p t (hall p (by simp)) hmove
      · exact hall t (List.mem_append_right _ (List.mem_cons_of_mem _ ha))
  cases h with
  | acquire before after hmove hp hq => exact hmiddle _ _ _ _ hmove hinv
  | release before after hmove hp hq => exact hmiddle _ _ _ _ hmove hinv
  | carryOn before after hmove hsame => exact hmiddle _ _ _ _ hmove hinv

/-- What holds of new tasks and is kept by every move holds of every task. -/
theorem Reachable.forall {Inv : Task → Prop} {capacity : Nat} (hstarts : ∀ p, starts p → Inv p)
    (hmoves : ∀ p q, Inv p → moves p q → Inv q)
    (h : Reachable holds moves starts capacity pool) : ∀ p ∈ pool.tasks, Inv p := by
  induction h with
  | refl => exact List.forall_mem_nil _
  | tail _ hstep ih =>
      cases hstep with
      | work hwork => exact hwork.forall hmoves ih
      | start hp hfree =>
          intro t ht
          rcases List.mem_append.mp ht with ht | ht
          · exact ih t ht
          · rw [List.mem_singleton.mp ht]
            exact hstarts _ hp

/-- A pool that works on is still reachable. -/
theorem Reachable.works {capacity : Nat} (h : Reachable holds moves starts capacity pool)
    (hworks : Relation.ReflTransGen (Work holds moves) pool pool') :
    Reachable holds moves starts capacity pool' := by
  induction hworks with
  | refl => exact h
  | tail _ hwork ih => exact ih.tail (.work hwork)

/-! ### Never stuck -/

/-- A pool with a permit, at rest or held, moves as long as a task can. -/
theorem exists_work (hholders : ∀ p, holds p = true → ∃ q, moves p q)
    (hpermits : 0 < pool.permits + pool.held holds) {p q : Task} (hp : p ∈ pool.tasks)
    (hmove : moves p q) : ∃ pool', Work holds moves pool pool' := by
  obtain ⟨permits, tasks⟩ := pool
  -- A task that holds a permit can always move; if there is none, every permit is at rest.
  by_cases hholder : ∃ t ∈ tasks, holds t = true
  · obtain ⟨t, ht, hheld⟩ := hholder
    obtain ⟨u, hu⟩ := hholders t hheld
    obtain ⟨before, after, rfl⟩ := List.append_of_mem ht
    cases hq : holds u with
    | true => exact ⟨_, .carryOn before after hu (hq.trans hheld.symm)⟩
    | false => exact ⟨_, .release before after hu hheld hq⟩
  · push Not at hholder
    have hnone : (Pool.mk permits tasks).held holds = 0 := List.countP_eq_zero.mpr hholder
    obtain ⟨rest, hrest⟩ : ∃ rest, permits = rest + 1 := by
      rw [hnone] at hpermits
      exact ⟨permits - 1, by simp only at hpermits; omega⟩
    subst hrest
    have hfree : holds p = false := by simpa using hholder p hp
    obtain ⟨before, after, rfl⟩ := List.append_of_mem hp
    cases hq : holds q with
    | true => exact ⟨_, .acquire before after hmove hfree hq⟩
    | false => exact ⟨_, .carryOn before after hmove (hq.trans hfree.symm)⟩

/-! ### Always at rest in the end -/

/-- How far the tasks of a pool are from their ends. -/
def Pool.distance (μ : Task → Nat) (pool : Pool Task) : Nat := (pool.tasks.map μ).sum

theorem Work.distance_lt {μ : Task → Nat} (hμ : ∀ p q, moves p q → μ q < μ p)
    (h : Work holds moves pool pool') : pool'.distance μ < pool.distance μ := by
  cases h with
  | acquire before after hmove hp hq =>
      have := hμ _ _ hmove
      simp only [Pool.distance, List.map_append, List.map_cons, List.sum_append, List.sum_cons]
      omega
  | release before after hmove hp hq =>
      have := hμ _ _ hmove
      simp only [Pool.distance, List.map_append, List.map_cons, List.sum_append, List.sum_cons]
      omega
  | carryOn before after hmove hsame =>
      have := hμ _ _ hmove
      simp only [Pool.distance, List.map_append, List.map_cons, List.sum_append, List.sum_cons]
      omega

theorem Pool.distance_le {μ : Task → Nat} {bound : Nat} (h : ∀ p ∈ pool.tasks, μ p ≤ bound) :
    pool.distance μ ≤ bound * pool.tasks.length := by
  obtain ⟨permits, tasks⟩ := pool
  unfold Pool.distance
  induction tasks with
  | nil => exact Nat.zero_le _
  | cons p rest ih =>
      have hfirst : μ p ≤ bound := h p List.mem_cons_self
      have hrest : (rest.map μ).sum ≤ bound * rest.length :=
        ih fun t ht => h t (List.mem_cons_of_mem _ ht)
      rw [List.map_cons, List.sum_cons, List.length_cons, Nat.mul_add_one, Nat.add_comm]
      exact Nat.add_le_add hrest hfirst

/-- **Tasks come to rest.**  No order of moves is longer than the distance it started from. -/
theorem length_le_distance {μ : Task → Nat} (hμ : ∀ p q, moves p q → μ q < μ p)
    {run : List (Pool Task)} (hrun : List.IsChain (Work holds moves) (pool :: run)) :
    run.length ≤ pool.distance μ := by
  induction run generalizing pool with
  | nil => exact Nat.zero_le _
  | cons next rest ih =>
      obtain ⟨hfirst, hrest⟩ := List.isChain_cons_cons.mp hrun
      have hlt := hfirst.distance_lt hμ
      have hle := ih hrest
      rw [List.length_cons]
      omega

end Semaphore
