/-
The ways to write a number in decimal digits.

A number has one shortest text, its digits.  A reader that takes a plus sign and zeros
in front as well takes `spelled plus zeros n` for `n`, and `eq_zeros_append_toDigits`
says that it takes nothing else.
-/
import Mathlib.Data.List.Induction
import Mathlib.Tactic.Common

namespace Decimal

/-- The digits of a number with some zeros in front of them, after a plus sign or none. -/
def spelled (plus : Bool) (zeros n : Nat) : List Char :=
  (if plus then ['+'] else []) ++ (List.replicate zeros '0' ++ Nat.toDigits 10 n)

@[simp] theorem spelled_plain (n : Nat) : spelled false 0 n = Nat.toDigits 10 n := rfl

/-- What stands after the plus sign. -/
theorem spelled_digits {zeros n : Nat} {c : Char}
    (h : c ∈ List.replicate zeros '0' ++ Nat.toDigits 10 n) : c.isDigit = true := by
  rcases List.mem_append.mp h with hzero | hdigit
  · rw [List.eq_of_mem_replicate hzero]
    rfl
  · exact Nat.isDigit_of_mem_toDigits (by decide) (by decide) hdigit

theorem ofDigitChars_zeros_append (zeros n : Nat) :
    Nat.ofDigitChars 10 (List.replicate zeros '0' ++ Nat.toDigits 10 n) 0 = n := by
  rw [Nat.ofDigitChars_append, Nat.ofDigitChars_replicate_zero, Nat.mul_zero,
    Nat.ofDigitChars_ten_toDigits]

theorem isDigit_range {c : Char} (h : c.isDigit = true) : 48 ≤ c.toNat ∧ c.toNat ≤ 57 :=
  Char.isDigit_iff_toNat.mp h

/-- A digit is the digit of its value. -/
theorem digitChar_of_isDigit {c : Char} (h : c.isDigit = true) :
    c.toNat - 48 < 10 ∧ (c.toNat - 48).digitChar = c := by
  have hc := isDigit_range h
  have hten : c.toNat - 48 < 10 := by omega
  have hdigit : (c.toNat - 48).digitChar.isDigit = true := by
    rw [Nat.isDigit_digitChar]
    exact decide_eq_true hten
  have hd := isDigit_range hdigit
  have hvalue := Nat.toNat_digitChar_sub_48_of_lt_ten hten
  exact ⟨hten, Char.toNat_inj.mp (by omega)⟩

/-- **Digits are zeros and then the digits of their value.** -/
theorem eq_zeros_append_toDigits {digits : List Char} (hne : digits ≠ [])
    (hdigits : ∀ c ∈ digits, c.isDigit = true) :
    ∃ zeros, digits = List.replicate zeros '0'
      ++ Nat.toDigits 10 (Nat.ofDigitChars 10 digits 0) := by
  -- The last digit is the last one of the number, and what is before it is smaller.
  induction digits using List.reverseRecOn with
  | nil => exact absurd rfl hne
  | append_singleton front c ih =>
      obtain ⟨hten, hc⟩ := digitChar_of_isDigit (hdigits c (by simp))
      generalize hd : c.toNat - 48 = d at hten hc
      have hvalue : Nat.ofDigitChars 10 (front ++ [c]) 0
          = 10 * Nat.ofDigitChars 10 front 0 + d := by
        rw [Nat.ofDigitChars_append, Nat.ofDigitChars_cons, Nat.ofDigitChars_nil, ← hd]
        rfl
      have hlast : Nat.toDigits 10 d = [c] := by
        rw [Nat.toDigits_of_lt_base hten, hc]
      rw [hvalue]
      by_cases hfront : front = []
      · refine ⟨0, ?_⟩
        rw [hfront, Nat.ofDigitChars_nil, Nat.mul_zero, Nat.zero_add, hlast]
        rfl
      obtain ⟨zeros, hzeros⟩ := ih hfront fun x hx => hdigits x (List.mem_append_left _ hx)
      generalize Nat.ofDigitChars 10 front 0 = value at hzeros
      rcases Nat.eq_zero_or_pos value with rfl | hpos
      · refine ⟨zeros + 1, ?_⟩
        rw [Nat.mul_zero, Nat.zero_add, hlast, hzeros, Nat.toDigits_zero, List.replicate_succ']
      · refine ⟨zeros, ?_⟩
        rw [← Nat.toDigits_append_toDigits (by decide) hpos hten, hlast, ← List.append_assoc,
          ← hzeros]

/-- The digits of a number have no other spelling of a number for their text. -/
theorem plain_of_spelled_eq {plus : Bool} {zeros n m : Nat}
    (h : spelled plus zeros n = Nat.toDigits 10 m) : plus = false ∧ zeros = 0 := by
  cases plus with
  | true =>
      have hplus : '+'.isDigit = true := by
        refine Nat.isDigit_of_mem_toDigits (b := 10) (n := m) (by decide) (by decide) ?_
        rw [← h]
        exact List.mem_cons_self
      cases hplus
  | false =>
      have hdigits : List.replicate zeros '0' ++ Nat.toDigits 10 n = Nat.toDigits 10 m := h
      have hvalue := ofDigitChars_zeros_append zeros n
      rw [hdigits, Nat.ofDigitChars_ten_toDigits] at hvalue
      have hlength := congrArg List.length hdigits
      rw [hvalue, List.length_append, List.length_replicate] at hlength
      exact ⟨rfl, by omega⟩

end Decimal
