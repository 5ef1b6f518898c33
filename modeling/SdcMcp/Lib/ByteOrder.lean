/-
The order of strings is the order of their bytes.

UTF-8 keeps the order of characters: where two characters first differ in a byte, the
smaller character has the smaller byte, and neither encoding is the beginning of the
other.  So comparing strings character by character and comparing their encodings byte
by byte come to the same.
-/
import SdcMcp.Lib.JsonText

namespace Json

/-- Two lists come apart at a byte, and it is smaller in the first. -/
def Before (xs ys : List UInt8) : Prop :=
  ∃ front x y back back', xs = front ++ x :: back ∧ ys = front ++ y :: back' ∧ x < y

theorem Before.head {x y : UInt8} (h : x < y) (xs ys : List UInt8) : Before (x :: xs) (y :: ys) :=
  ⟨[], x, y, xs, ys, rfl, rfl, h⟩

theorem Before.cons {xs ys : List UInt8} (h : Before xs ys) (x : UInt8) :
    Before (x :: xs) (x :: ys) := by
  obtain ⟨front, a, b, back, back', rfl, rfl, hab⟩ := h
  exact ⟨x :: front, a, b, back, back', rfl, rfl, hab⟩

theorem Before.append {xs ys : List UInt8} (h : Before xs ys) (s t : List UInt8) :
    Before (xs ++ s) (ys ++ t) := by
  obtain ⟨front, a, b, back, back', rfl, rfl, hab⟩ := h
  refine ⟨front, a, b, back ++ s, back' ++ t, ?_, ?_, hab⟩
  · rw [List.append_assoc, List.cons_append]
  · rw [List.append_assoc, List.cons_append]

theorem Before.lt {xs ys : List UInt8} (h : Before xs ys) : xs < ys := by
  obtain ⟨front, a, b, back, back', rfl, rfl, hab⟩ := h
  induction front with
  | nil => exact List.cons_lt_cons_iff.mpr (Or.inl hab)
  | cons c front ih => exact List.cons_lt_cons_iff.mpr (Or.inr ⟨rfl, ih⟩)

/-! ### Characters -/

private theorem ofNat_lt {a b : Nat} (hab : a < b) (hb : b < 256) :
    UInt8.ofNat a < UInt8.ofNat b := by
  rw [UInt8.lt_iff_toNat_lt, UInt8.toNat_ofNat', UInt8.toNat_ofNat']
  omega

/-- Bytes with the larger number first, or the same and the next ones in order. -/
private theorem before_of {a b : Nat} (hab : a ≤ b) (hb : b < 256) {xs ys : List UInt8}
    (h : a = b → Before xs ys) : Before (UInt8.ofNat a :: xs) (UInt8.ofNat b :: ys) := by
  by_cases heq : a = b
  · rw [heq]
    exact (h heq).cons _
  · exact Before.head (ofNat_lt (Nat.lt_of_le_of_ne hab heq) hb) xs ys

theorem utf8EncodeChar_before {c d : Char} (h : c < d) :
    Before (String.utf8EncodeChar c) (String.utf8EncodeChar d) := by
  have hlt : c.val.toNat < d.val.toNat := h
  have hmax : d.val.toNat < 1114112 := by
    rcases d.valid with hd | hd
    · have : d.val.toNat < 55296 := hd
      omega
    · exact hd.2
  unfold String.utf8EncodeChar
  simp only
  generalize c.val.toNat = v at hlt
  generalize d.val.toNat = w at hlt hmax
  -- The encodings are of the same length, or the longer one begins with a larger byte.
  by_cases hv1 : v ≤ 127
  · rw [if_pos hv1]
    by_cases hw1 : w ≤ 127
    · rw [if_pos hw1]
      exact Before.head (ofNat_lt hlt (by omega)) _ _
    · rw [if_neg hw1]
      by_cases hw2 : w ≤ 2047
      · rw [if_pos hw2]
        exact Before.head (ofNat_lt (by omega) (by omega)) _ _
      · rw [if_neg hw2]
        by_cases hw3 : w ≤ 65535
        · rw [if_pos hw3]
          exact Before.head (ofNat_lt (by omega) (by omega)) _ _
        · rw [if_neg hw3]
          exact Before.head (ofNat_lt (by omega) (by omega)) _ _
  · rw [if_neg hv1, if_neg (show ¬ w ≤ 127 by omega)]
    by_cases hv2 : v ≤ 2047
    · rw [if_pos hv2]
      by_cases hw2 : w ≤ 2047
      · rw [if_pos hw2]
        refine before_of (by omega) (by omega) fun hfirst => ?_
        exact Before.head (ofNat_lt (by omega) (by omega)) _ _
      · rw [if_neg hw2]
        by_cases hw3 : w ≤ 65535
        · rw [if_pos hw3]
          exact Before.head (ofNat_lt (by omega) (by omega)) _ _
        · rw [if_neg hw3]
          exact Before.head (ofNat_lt (by omega) (by omega)) _ _
    · rw [if_neg hv2, if_neg (show ¬ w ≤ 2047 by omega)]
      by_cases hv3 : v ≤ 65535
      · rw [if_pos hv3]
        by_cases hw3 : w ≤ 65535
        · rw [if_pos hw3]
          refine before_of (by omega) (by omega) fun hfirst => ?_
          refine before_of (by omega) (by omega) fun hsecond => ?_
          exact Before.head (ofNat_lt (by omega) (by omega)) _ _
        · rw [if_neg hw3]
          exact Before.head (ofNat_lt (by omega) (by omega)) _ _
      · rw [if_neg hv3, if_neg (show ¬ w ≤ 65535 by omega)]
        refine before_of (by omega) (by omega) fun hfirst => ?_
        refine before_of (by omega) (by omega) fun hsecond => ?_
        refine before_of (by omega) (by omega) fun hthird => ?_
        exact Before.head (ofNat_lt (by omega) (by omega)) _ _

/-! ### Strings -/

private theorem flatMap_lt {cs ds : List Char} (h : cs < ds) :
    cs.flatMap String.utf8EncodeChar < ds.flatMap String.utf8EncodeChar := by
  induction cs generalizing ds with
  | nil =>
      cases ds with
      | nil => exact absurd h (lt_irrefl _)
      | cons d ds =>
          rw [List.flatMap_nil, List.flatMap_cons]
          have hlength : 0 < (String.utf8EncodeChar d).length := by
            rw [String.length_utf8EncodeChar]
            exact Char.utf8Size_pos d
          cases hd : String.utf8EncodeChar d with
          | nil =>
              rw [hd] at hlength
              exact absurd hlength (Nat.lt_irrefl 0)
          | cons x xs => exact List.nil_lt_cons _ _
  | cons c cs ih =>
      cases ds with
      | nil => exact absurd h (List.not_lt_nil _)
      | cons d ds =>
          rw [List.flatMap_cons, List.flatMap_cons]
          rcases List.cons_lt_cons_iff.mp h with hlt | ⟨rfl, hrest⟩
          · exact ((utf8EncodeChar_before hlt).append _ _).lt
          · exact List.append_left_lt (ih hrest)

theorem utf8_eq_flatMap (s : String) : utf8 s = s.toList.flatMap String.utf8EncodeChar := by
  rw [← utf8_ofList, String.ofList_toList]

theorem utf8_lt {s t : String} (h : s < t) : utf8 s < utf8 t := by
  rw [utf8_eq_flatMap, utf8_eq_flatMap]
  exact flatMap_lt (String.lt_iff_toList_lt.mp h)

/-- Strings are ordered as their bytes are. -/
theorem utf8_lt_iff {s t : String} : utf8 s < utf8 t ↔ s < t := by
  constructor
  · intro h
    rcases lt_trichotomy s t with hlt | heq | hgt
    · exact hlt
    · rw [heq] at h
      exact absurd h (List.lt_irrefl _)
    · exact absurd (utf8_lt hgt) (List.lt_asymm h)
  · exact utf8_lt

end Json
