/-
Computations that talk to a world they do not control.

A run is given an environment and the history of everything that has happened
so far, and it answers with how it ended and with the events it added.  The
environment is asked through the history, so it may change its mind between any
two questions; the events a run adds are its own by construction, so "earlier in
the same run" is a position in one list.

A computation can end in a value, in an error, or be dropped by its caller while
it waits.  An error can be caught by the code that called it; a drop cannot.

`Ensures` is a postcondition on the events added and the way the run ended, for
every environment and every history.  The rules below take a program apart along
its binds, down to its plain steps.
-/
import Mathlib.Data.List.Basic

namespace Interactive

/-- How a computation ended. -/
inductive Outcome (ε α : Type) where
  | ok (a : α)
  | err (e : ε)
  | dropped
  deriving DecidableEq

namespace Outcome

variable {ε ε' α β : Type}

/-- The value and the error relabelled, a drop left a drop. -/
def bimap (f : ε → ε') (g : α → β) : Outcome ε α → Outcome ε' β
  | .ok a => .ok (g a)
  | .err e => .err (f e)
  | .dropped => .dropped

/-- The value handed on to a plain fallible function. -/
def andThen (o : Outcome ε α) (f : α → Except ε β) : Outcome ε β :=
  match o with
  | .ok a => match f a with
    | .ok b => .ok b
    | .error e => .err e
  | .err e => .err e
  | .dropped => .dropped

/-- An outcome from a plain fallible value. -/
def ofExcept : Except ε α → Outcome ε α
  | .ok a => .ok a
  | .error e => .err e

@[simp] theorem ofExcept_ok (a : α) : ofExcept (.ok a : Except ε α) = .ok a := rfl

@[simp] theorem ofExcept_error (e : ε) : ofExcept (.error e : Except ε α) = .err e := rfl

@[simp] theorem andThen_ok (a : α) (f : α → Except ε β) :
    (Outcome.ok a : Outcome ε α).andThen f = ofExcept (f a) := by
  show (match f a with | .ok b => Outcome.ok b | .error e => Outcome.err e) = _
  cases f a <;> rfl

@[simp] theorem andThen_err (e : ε) (f : α → Except ε β) :
    (Outcome.err e : Outcome ε α).andThen f = .err e := rfl

@[simp] theorem andThen_dropped (f : α → Except ε β) :
    (Outcome.dropped : Outcome ε α).andThen f = .dropped := rfl

end Outcome

/-- A computation over environments `ρ` that records events `ev`. -/
def Run (ρ ev ε α : Type) : Type := ρ → List ev → Outcome ε α × List ev

namespace Run

variable {ρ ev ε ε' α β γ : Type}

/-- Ends at once with a value. -/
protected def pure (a : α) : Run ρ ev ε α := fun _ _ => (.ok a, [])

/-- Runs `x`, and from where it ended runs `f` on its value. -/
protected def bind (x : Run ρ ev ε α) (f : α → Run ρ ev ε β) : Run ρ ev ε β := fun r h =>
  match x r h with
  | (.ok a, t) => ((f a r (h ++ t)).1, t ++ (f a r (h ++ t)).2)
  | (.err e, t) => (.err e, t)
  | (.dropped, t) => (.dropped, t)

instance : Monad (Run ρ ev ε) where
  pure := Run.pure
  bind := Run.bind

/-- Ends at once with an error. -/
def fail (e : ε) : Run ρ ev ε α := fun _ _ => (.err e, [])

/-- Ends as a plain fallible value says. -/
def lift (x : Except ε α) : Run ρ ev ε α := fun _ _ => (Outcome.ofExcept x, [])

/-- Ends as an outcome says. -/
def settled (o : Outcome ε α) : Run ρ ev ε α := fun _ _ => (o, [])

/-- Records one event. -/
def emit (e : ev) : Run ρ ev ε Unit := fun _ _ => (.ok (), [e])

/-- Asks the environment, which may look at the whole history. -/
def ask (f : ρ → List ev → α) : Run ρ ev ε α := fun r h => (.ok (f r h), [])

/-- The caller stops polling. -/
def drop : Run ρ ev ε α := fun _ _ => (.dropped, [])

/-- Runs `x` and hands its value or error to the caller as data. -/
def observe (x : Run ρ ev ε α) : Run ρ ev ε' (Except ε α) := fun r h =>
  match x r h with
  | (.ok a, t) => (.ok (.ok a), t)
  | (.err e, t) => (.ok (.error e), t)
  | (.dropped, t) => (.dropped, t)

/-- Runs `x` and hands whatever became of it to the caller, a drop included. -/
def settle (x : Run ρ ev ε α) : Run ρ ev ε' (Outcome ε α) := fun r h =>
  (.ok (x r h).1, (x r h).2)

/-- Relabels the error. -/
def mapErr (f : ε → ε') (x : Run ρ ev ε α) : Run ρ ev ε' α := fun r h =>
  ((x r h).1.bimap f id, (x r h).2)

@[simp] theorem pure_apply (a : α) (r : ρ) (h : List ev) :
    (pure a : Run ρ ev ε α) r h = (.ok a, []) := rfl

@[simp] theorem fail_apply (e : ε) (r : ρ) (h : List ev) :
    (fail e : Run ρ ev ε α) r h = (.err e, []) := rfl

@[simp] theorem lift_apply (x : Except ε α) (r : ρ) (h : List ev) :
    (lift x : Run ρ ev ε α) r h = (Outcome.ofExcept x, []) := rfl

@[simp] theorem emit_apply (e : ev) (r : ρ) (h : List ev) :
    (emit e : Run ρ ev ε Unit) r h = (.ok (), [e]) := rfl

@[simp] theorem ask_apply (f : ρ → List ev → α) (r : ρ) (h : List ev) :
    (ask f : Run ρ ev ε α) r h = (.ok (f r h), []) := rfl

/-! ### What a bind can do

A run of `x >>= f` either stopped inside `x`, or got a value out of `x` and went
on with `f` from the longer history.
-/

theorem bind_ok {x : Run ρ ev ε α} {f : α → Run ρ ev ε β} {r : ρ} {h t : List ev} {a : α}
    (hx : x r h = (.ok a, t)) :
    (x >>= f) r h = ((f a r (h ++ t)).1, t ++ (f a r (h ++ t)).2) := by
  show Run.bind x f r h = _
  unfold Run.bind
  rw [hx]

/-- A first half that adds nothing might as well not be there. -/
theorem bind_silent {x : Run ρ ev ε α} {f : α → Run ρ ev ε β} {r : ρ} {h : List ev} {a : α}
    (hx : x r h = (.ok a, [])) : (x >>= f) r h = f a r h := by
  rw [bind_ok hx, List.append_nil, List.nil_append]

theorem bind_err {x : Run ρ ev ε α} {f : α → Run ρ ev ε β} {r : ρ} {h t : List ev} {e : ε}
    (hx : x r h = (.err e, t)) : (x >>= f) r h = (.err e, t) := by
  show Run.bind x f r h = _
  unfold Run.bind
  rw [hx]

theorem bind_dropped {x : Run ρ ev ε α} {f : α → Run ρ ev ε β} {r : ρ} {h t : List ev}
    (hx : x r h = (.dropped, t)) : (x >>= f) r h = (.dropped, t) := by
  show Run.bind x f r h = _
  unfold Run.bind
  rw [hx]

/-- What a bind adds begins with what its first half adds. -/
theorem bind_events (x : Run ρ ev ε α) (f : α → Run ρ ev ε β) (r : ρ) (h : List ev) :
    ∃ t, ((x >>= f) r h).2 = (x r h).2 ++ t := by
  rcases hx : x r h with ⟨o, t⟩
  cases o with
  | ok a => exact ⟨_, by rw [bind_ok hx]⟩
  | err e => exact ⟨[], by rw [bind_err hx, List.append_nil]⟩
  | dropped => exact ⟨[], by rw [bind_dropped hx, List.append_nil]⟩

/-- A bind that got a value got one from each half. -/
theorem bind_eq_ok {x : Run ρ ev ε α} {f : α → Run ρ ev ε β} {r : ρ} {h t : List ev} {b : β}
    (hrun : (x >>= f) r h = (.ok b, t)) :
    ∃ a t1 t2, x r h = (.ok a, t1) ∧ f a r (h ++ t1) = (.ok b, t2) ∧ t = t1 ++ t2 := by
  rcases hx : x r h with ⟨o, t1⟩
  cases o with
  | err e =>
      rw [bind_err hx] at hrun
      cases hrun
  | dropped =>
      rw [bind_dropped hx] at hrun
      cases hrun
  | ok a =>
      rw [bind_ok hx] at hrun
      simp only [Prod.mk.injEq] at hrun
      exact ⟨a, t1, _, rfl, Prod.ext hrun.1 rfl, hrun.2.symm⟩

@[simp] theorem ask_bind (g : ρ → List ev → α) (f : α → Run ρ ev ε β) (r : ρ) (h : List ev) :
    (ask g >>= f) r h = f (g r h) r h := by
  rw [bind_ok (ask_apply g r h), List.append_nil, List.nil_append]

@[simp] theorem emit_bind (e : ev) (f : Unit → Run ρ ev ε β) (r : ρ) (h : List ev) :
    (emit e >>= f) r h = ((f () r (h ++ [e])).1, e :: (f () r (h ++ [e])).2) := by
  rw [bind_ok (emit_apply e r h)]
  rfl

@[simp] theorem lift_ok_bind (a : α) (f : α → Run ρ ev ε β) (r : ρ) (h : List ev) :
    (lift (.ok a) >>= f) r h = f a r h := by
  rw [bind_ok (lift_apply (.ok a) r h), List.append_nil, List.nil_append]

@[simp] theorem lift_error_bind (e : ε) (f : α → Run ρ ev ε β) (r : ρ) (h : List ev) :
    (lift (.error e) >>= f) r h = (.err e, []) :=
  bind_err (lift_apply (.error e) r h)

theorem lift_eq_ok {x : Except ε α} {r : ρ} {h t : List ev} {a : α}
    (hrun : (lift x : Run ρ ev ε α) r h = (.ok a, t)) : x = .ok a ∧ t = [] := by
  cases x with
  | error e => cases hrun
  | ok b =>
      cases hrun
      exact ⟨rfl, rfl⟩

theorem lift_bind_eq_ok {x : Except ε α} {f : α → Run ρ ev ε β} {r : ρ} {h t : List ev} {b : β}
    (hrun : (lift x >>= f) r h = (.ok b, t)) : ∃ a, x = .ok a ∧ f a r h = (.ok b, t) := by
  cases x with
  | error e =>
      rw [lift_error_bind] at hrun
      cases hrun
  | ok a =>
      rw [lift_ok_bind] at hrun
      exact ⟨a, rfl, hrun⟩

private theorem bind_assoc_apply (x : Run ρ ev ε α) (f : α → Run ρ ev ε β)
    (g : β → Run ρ ev ε γ) (r : ρ) (h : List ev) :
    ((x >>= f) >>= g) r h = (x >>= fun a => f a >>= g) r h := by
  rcases hx : x r h with ⟨o, t⟩
  cases o with
  | err e => rw [bind_err hx, bind_err (bind_err hx)]
  | dropped => rw [bind_dropped hx, bind_dropped (bind_dropped hx)]
  | ok a =>
      rw [bind_ok hx]
      rcases hf : f a r (h ++ t) with ⟨o', t'⟩
      have hxf : (x >>= f) r h = (o', t ++ t') := by
        rw [bind_ok hx, hf]
      cases o' with
      | err e => rw [bind_err hxf, bind_err hf]
      | dropped => rw [bind_dropped hxf, bind_dropped hf]
      | ok b => rw [bind_ok hxf, bind_ok hf, List.append_assoc, List.append_assoc]

private theorem bind_id_apply (x : Run ρ ev ε α) (r : ρ) (h : List ev) :
    (x >>= fun a => pure (id a)) r h = x r h := by
  rcases hx : x r h with ⟨o, t⟩
  cases o with
  | ok a => rw [bind_ok hx, pure_apply, List.append_nil, id]
  | err e => rw [bind_err hx]
  | dropped => rw [bind_dropped hx]

private theorem pure_bind_apply (a : α) (f : α → Run ρ ev ε β) (r : ρ) (h : List ev) :
    (pure a >>= f) r h = f a r h := by
  rw [bind_ok (pure_apply a r h), List.append_nil, List.nil_append]

instance : LawfulMonad (Run ρ ev ε) :=
  LawfulMonad.mk' _ (fun x => funext fun r => funext fun h => bind_id_apply x r h)
    (fun a f => funext fun r => funext fun h => pure_bind_apply a f r h)
    (fun x f g => funext fun r => funext fun h => bind_assoc_apply x f g r h)

/-- A plain fallible step at the end only relabels the outcome. -/
theorem bind_lift (x : Run ρ ev ε α) (f : α → Except ε β) (r : ρ) (h : List ev) :
    (x >>= fun a => lift (f a)) r h = ((x r h).1.andThen f, (x r h).2) := by
  rcases hx : x r h with ⟨o, t⟩
  cases o with
  | ok a =>
      rw [bind_ok hx, lift_apply, List.append_nil, Outcome.andThen_ok]
  | err e => rw [bind_err hx, Outcome.andThen_err]
  | dropped => rw [bind_dropped hx, Outcome.andThen_dropped]

/-- A plain step at the end only relabels the value. -/
theorem bind_pure_eq (x : Run ρ ev ε α) (g : α → β) (r : ρ) (h : List ev) :
    (x >>= fun a => pure (g a)) r h = ((x r h).1.bimap id g, (x r h).2) := by
  rcases hx : x r h with ⟨o, t⟩
  cases o with
  | ok a =>
      rw [bind_ok hx, pure_apply, List.append_nil]
      rfl
  | err e =>
      rw [bind_err hx]
      rfl
  | dropped =>
      rw [bind_dropped hx]
      rfl

theorem observe_apply (x : Run ρ ev ε α) (r : ρ) (h : List ev) :
    (x.observe : Run ρ ev ε' (Except ε α)) r h =
      (match (x r h).1 with
        | .ok a => .ok (.ok a)
        | .err e => .ok (.error e)
        | .dropped => .dropped, (x r h).2) := by
  unfold observe
  rcases x r h with ⟨o, t⟩
  cases o <;> rfl

theorem observe_ok {x : Run ρ ev ε α} {r : ρ} {h t : List ev} {a : α} (hx : x r h = (.ok a, t)) :
    (x.observe : Run ρ ev ε' (Except ε α)) r h = (.ok (.ok a), t) := by
  rw [observe_apply, hx]

theorem observe_err {x : Run ρ ev ε α} {r : ρ} {h t : List ev} {e : ε}
    (hx : x r h = (.err e, t)) :
    (x.observe : Run ρ ev ε' (Except ε α)) r h = (.ok (.error e), t) := by
  rw [observe_apply, hx]

theorem observe_dropped {x : Run ρ ev ε α} {r : ρ} {h t : List ev} (hx : x r h = (.dropped, t)) :
    (x.observe : Run ρ ev ε' (Except ε α)) r h = (.dropped, t) := by
  rw [observe_apply, hx]

theorem observe_eq_ok {x : Run ρ ev ε α} {r : ρ} {h t : List ev} {a : α}
    (hrun : (x.observe : Run ρ ev ε' (Except ε α)) r h = (.ok (.ok a), t)) :
    x r h = (.ok a, t) := by
  rw [observe_apply] at hrun
  rcases hx : x r h with ⟨o, s⟩
  rw [hx] at hrun
  cases o with
  | ok b =>
      cases hrun
      rfl
  | err e => cases hrun
  | dropped => cases hrun

theorem mapErr_apply (f : ε → ε') (x : Run ρ ev ε α) (r : ρ) (h : List ev) :
    (x.mapErr f) r h = ((x r h).1.bimap f id, (x r h).2) := rfl

theorem mapErr_eq_ok {f : ε → ε'} {x : Run ρ ev ε α} {r : ρ} {h t : List ev} {a : α}
    (hrun : (x.mapErr f) r h = (.ok a, t)) : x r h = (.ok a, t) := by
  rw [mapErr_apply] at hrun
  rcases hx : x r h with ⟨o, s⟩
  rw [hx] at hrun
  cases o with
  | ok b =>
      cases hrun
      rfl
  | err e => cases hrun
  | dropped => cases hrun

/-! ### Postconditions -/

/-- However the world behaves, a run of `x` adds events and ends as `Q` says. -/
def Ensures (x : Run ρ ev ε α) (Q : List ev → Outcome ε α → Prop) : Prop :=
  ∀ r h, Q (x r h).2 (x r h).1

variable {x : Run ρ ev ε α} {f : α → Run ρ ev ε β}

theorem ensures_pure {Q : List ev → Outcome ε α → Prop} {a : α} (hq : Q [] (.ok a)) :
    (pure a : Run ρ ev ε α).Ensures Q :=
  fun _ _ => hq

theorem ensures_lift {Q : List ev → Outcome ε α → Prop} {y : Except ε α}
    (hok : ∀ a, y = .ok a → Q [] (.ok a)) (herr : ∀ e, y = .error e → Q [] (.err e)) :
    (lift y : Run ρ ev ε α).Ensures Q := by
  intro r h
  cases y with
  | ok a => exact hok a rfl
  | error e => exact herr e rfl

/-- The rule for `x >>= f`: what follows a value is judged on the longer list of events. -/
theorem ensures_bind {P : List ev → Outcome ε α → Prop} {Q : List ev → Outcome ε β → Prop}
    (hx : x.Ensures P)
    (hok : ∀ t a, P t (.ok a) → (f a).Ensures fun t' o => Q (t ++ t') o)
    (herr : ∀ t e, P t (.err e) → Q t (.err e))
    (hdrop : ∀ t, P t .dropped → Q t .dropped) : (x >>= f).Ensures Q := by
  intro r h
  have hP := hx r h
  rcases hrun : x r h with ⟨o, t⟩
  rw [hrun] at hP
  cases o with
  | ok a =>
      rw [bind_ok hrun]
      exact hok t a hP r (h ++ t)
  | err e =>
      rw [bind_err hrun]
      exact herr t e hP
  | dropped =>
      rw [bind_dropped hrun]
      exact hdrop t hP

/-! ### Events of one kind only -/

/-- Every event a run of `x` adds satisfies `P`. -/
def Emits (x : Run ρ ev ε α) (P : ev → Prop) : Prop :=
  x.Ensures fun t _ => ∀ e ∈ t, P e

variable {P : ev → Prop}

theorem emits_pure {a : α} : (pure a : Run ρ ev ε α).Emits P :=
  ensures_pure (by simp)

theorem emits_lift {y : Except ε α} : (lift y : Run ρ ev ε α).Emits P :=
  ensures_lift (by simp) (by simp)

/-- The rule for a check: what follows may use that it passed. -/
theorem emits_lift_bind {y : Except ε α} (hf : ∀ a, y = .ok a → (f a).Emits P) :
    (lift y >>= f : Run ρ ev ε β).Emits P := by
  intro r h
  cases y with
  | ok a =>
      rw [lift_ok_bind]
      exact hf a rfl r h
  | error e =>
      rw [lift_error_bind]
      simp

theorem emits_mapErr {f : ε → ε'} (hx : x.Emits P) : (x.mapErr f).Emits P := hx

theorem emits_observe (hx : x.Emits P) : (x.observe : Run ρ ev ε' (Except ε α)).Emits P := by
  intro r h
  rw [observe_apply]
  exact hx r h

theorem emits_settle (hx : x.Emits P) : (x.settle : Run ρ ev ε' (Outcome ε α)).Emits P := hx

theorem emits_emit {e : ev} (he : P e) : (emit e : Run ρ ev ε Unit).Emits P := by
  intro r h e' he'
  rw [List.mem_singleton.mp he']
  exact he

theorem emits_ask {g : ρ → List ev → α} : (ask g : Run ρ ev ε α).Emits P := by
  intro r h
  simp

theorem emits_fail {e : ε} : (fail e : Run ρ ev ε α).Emits P := by
  intro r h
  simp

theorem emits_bind (hx : x.Emits P) (hf : ∀ a, (f a).Emits P) : (x >>= f).Emits P := by
  refine ensures_bind hx ?_ (fun _ _ ht => ht) (fun _ ht => ht)
  intro t a ht r h e he
  rcases List.mem_append.mp he with h1 | h2
  · exact ht e h1
  · exact hf a r h e h2

end Run

end Interactive
