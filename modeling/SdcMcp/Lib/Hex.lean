/-
Lower-case hexadecimal text of a byte string, and that it determines the bytes.
-/
import Mathlib.Data.String.Basic

namespace Hex

def digit (n : Nat) : Char := if n < 10 then Char.ofNat (48 + n) else Char.ofNat (87 + n)

def pair (byte : UInt8) : List Char := [digit (byte.toNat / 16), digit (byte.toNat % 16)]

def encode (bytes : List UInt8) : String := String.ofList (bytes.flatMap pair)

private theorem digit_inj : ∀ m < 16, ∀ n < 16, digit m = digit n → m = n := by
  decide

private theorem pair_inj {a b : UInt8} (h : pair a = pair b) : a = b := by
  simp only [pair, List.cons.injEq, and_true] at h
  have ha := a.toNat_lt
  have hb := b.toNat_lt
  have hhigh := digit_inj _ (by omega) _ (by omega) h.1
  have hlow := digit_inj _ (Nat.mod_lt _ (by decide)) _ (Nat.mod_lt _ (by decide)) h.2
  exact UInt8.toNat_inj.mp (by omega)

private theorem flatMap_pair_inj (xs : List UInt8) :
    ∀ ys : List UInt8, xs.flatMap pair = ys.flatMap pair → xs = ys := by
  induction xs with
  | nil =>
      intro ys h
      cases ys with
      | nil => rfl
      | cons y ys => simp [pair] at h
  | cons x xs ih =>
      intro ys h
      cases ys with
      | nil => simp [pair] at h
      | cons y ys =>
          rw [List.flatMap_cons, List.flatMap_cons] at h
          obtain ⟨hxy, hrest⟩ := List.append_inj h rfl
          rw [pair_inj hxy, ih ys hrest]

theorem encode_injective {a b : List UInt8} (h : encode a = encode b) : a = b :=
  flatMap_pair_inj a b (String.ofList_injective h)

end Hex
