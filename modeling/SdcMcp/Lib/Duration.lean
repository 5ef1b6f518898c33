/-
Spans of time in machine arithmetic.

A span is a number of nanoseconds whose whole seconds fit 64 bits.  Conversions
from smaller units cannot leave the range, a multiplication stops at the longest
span, and an addition that leaves the range has no result.
-/
import Mathlib.Algebra.Group.Nat.Defs

namespace Chrono

/-- Spans have fewer nanoseconds than this. -/
def nanosLimit : Nat := 2 ^ 64 * 1000000000

structure Duration where
  nanos : Nat
  lt_limit : nanos < nanosLimit
  deriving DecidableEq

namespace Duration

theorem ext {a b : Duration} (h : a.nanos = b.nanos) : a = b := by
  cases a
  cases b
  simp only [mk.injEq]
  exact h

def fromSecs (secs : UInt64) : Duration where
  nanos := secs.toNat * 1000000000
  lt_limit := by
    have h := secs.toNat_lt
    unfold nanosLimit
    omega

def fromMillis (ms : UInt64) : Duration where
  nanos := ms.toNat * 1000000
  lt_limit := by
    have h := ms.toNat_lt
    unfold nanosLimit
    omega

/-- The longest span. -/
def maximum : Duration where
  nanos := nanosLimit - 1
  lt_limit := by decide

/-- Whole milliseconds. -/
def asMillis (d : Duration) : Nat := d.nanos / 1000000

def saturatingMul (d : Duration) (k : UInt32) : Duration :=
  if h : d.nanos * k.toNat < nanosLimit then ⟨d.nanos * k.toNat, h⟩ else maximum

protected def min (a b : Duration) : Duration := if a.nanos ≤ b.nanos then a else b

/-- `none` where the sum would not fit. -/
def checkedAdd (a b : Duration) : Option Duration :=
  if h : a.nanos + b.nanos < nanosLimit then some ⟨a.nanos + b.nanos, h⟩ else none

@[simp] theorem fromSecs_nanos (secs : UInt64) :
    (fromSecs secs).nanos = secs.toNat * 1000000000 := rfl

@[simp] theorem fromMillis_nanos (ms : UInt64) :
    (fromMillis ms).nanos = ms.toNat * 1000000 := rfl

@[simp] theorem min_nanos (a b : Duration) : (a.min b).nanos = min a.nanos b.nanos := by
  unfold Duration.min
  by_cases h : a.nanos ≤ b.nanos
  · rw [if_pos h, Nat.min_eq_left h]
  · rw [if_neg h, Nat.min_eq_right (by omega)]

/-- A multiplication is exact or stops at the longest span. -/
theorem saturatingMul_nanos (d : Duration) (k : UInt32) :
    (d.saturatingMul k).nanos = min (d.nanos * k.toNat) (nanosLimit - 1) := by
  unfold saturatingMul
  by_cases h : d.nanos * k.toNat < nanosLimit
  · rw [dif_pos h]
    show d.nanos * k.toNat = _
    omega
  · rw [dif_neg h]
    show nanosLimit - 1 = _
    omega

/-- A product that fits is not cut. -/
theorem saturatingMul_exact {d : Duration} {k : UInt32} (h : d.nanos * k.toNat < nanosLimit) :
    (d.saturatingMul k).nanos = d.nanos * k.toNat := by
  rw [saturatingMul_nanos]
  omega

theorem checkedAdd_of_lt {a b : Duration} (h : a.nanos + b.nanos < nanosLimit) :
    ∃ d, checkedAdd a b = some d ∧ d.nanos = a.nanos + b.nanos := by
  unfold checkedAdd
  rw [dif_pos h]
  exact ⟨_, rfl, rfl⟩

end Duration

end Chrono
