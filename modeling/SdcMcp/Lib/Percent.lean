/-
Percent-encoded paths.

A path is made of segments, each a byte string: a slash and then the segment with
every byte encoded that is not safe.  Neither the slash nor the percent sign is
safe, and so a path determines its segments.
-/
import Mathlib.Data.List.Basic

namespace Percent

/-- The bytes that stay as they are. -/
structure SafeSet where
  keeps : UInt8 → Bool
  percent : keeps 37 = false
  slash : keeps 47 = false

/-- A digit, `0` to `9` and then `A` to `F`. -/
def digit (n : Nat) : UInt8 := UInt8.ofNat (if n < 10 then 48 + n else 55 + n)

def encodeByte (safe : SafeSet) (byte : UInt8) : List UInt8 :=
  if safe.keeps byte then [byte] else [37, digit (byte.toNat / 16), digit (byte.toNat % 16)]

def encode (safe : SafeSet) (bytes : List UInt8) : List UInt8 := bytes.flatMap (encodeByte safe)

def path (safe : SafeSet) (segments : List (List UInt8)) : List UInt8 :=
  segments.flatMap fun segment => 47 :: encode safe segment

/-! ### Segments -/

private theorem digit_inj : ∀ m < 16, ∀ n < 16, digit m = digit n → m = n := by
  decide

private theorem digit_ne_slash : ∀ n < 16, digit n ≠ 47 := by
  decide

/-- The encoding of a byte can be told from what follows it. -/
theorem encodeByte_append_inj {safe : SafeSet} {a b : UInt8} {xs ys : List UInt8}
    (h : encodeByte safe a ++ xs = encodeByte safe b ++ ys) : a = b ∧ xs = ys := by
  unfold encodeByte at h
  by_cases ha : safe.keeps a = true
  · by_cases hb : safe.keeps b = true
    · rw [if_pos ha, if_pos hb] at h
      exact List.cons.inj h
    · rw [if_pos ha, if_neg hb] at h
      rw [(List.cons.inj h).1, safe.percent] at ha
      cases ha
  · by_cases hb : safe.keeps b = true
    · rw [if_neg ha, if_pos hb] at h
      rw [← (List.cons.inj h).1, safe.percent] at hb
      cases hb
    · rw [if_neg ha, if_neg hb] at h
      simp only [List.cons_append, List.nil_append, List.cons.injEq, true_and] at h
      obtain ⟨hhigh, hlow, hrest⟩ := h
      have ha := a.toNat_lt
      have hb := b.toNat_lt
      have hhigh := digit_inj _ (by omega) _ (by omega) hhigh
      have hlow := digit_inj _ (Nat.mod_lt _ (by decide)) _ (Nat.mod_lt _ (by decide)) hlow
      exact ⟨UInt8.toNat_inj.mp (by omega), hrest⟩

theorem encode_injective (safe : SafeSet) {xs ys : List UInt8}
    (h : encode safe xs = encode safe ys) : xs = ys := by
  have hne : ∀ b, encodeByte safe b ≠ [] := by
    intro b
    unfold encodeByte
    split <;> simp
  induction xs generalizing ys with
  | nil =>
      cases ys with
      | nil => rfl
      | cons y ys => exact absurd (List.append_eq_nil_iff.mp h.symm).1 (hne y)
  | cons x xs ih =>
      cases ys with
      | nil => exact absurd (List.append_eq_nil_iff.mp h).1 (hne x)
      | cons y ys =>
          obtain ⟨hxy, hrest⟩ := encodeByte_append_inj h
          rw [hxy, ih hrest]

/-- There is no slash in an encoded segment. -/
theorem slash_not_mem_encode (safe : SafeSet) (bytes : List UInt8) : 47 ∉ encode safe bytes := by
  intro hmem
  obtain ⟨b, -, hb⟩ := List.mem_flatMap.mp hmem
  have hlt := b.toNat_lt
  unfold encodeByte at hb
  by_cases hkeeps : safe.keeps b = true
  · rw [if_pos hkeeps, List.mem_singleton] at hb
    rw [← hb, safe.slash] at hkeeps
    cases hkeeps
  · rw [if_neg hkeeps] at hb
    simp only [List.mem_cons, List.not_mem_nil, or_false] at hb
    rcases hb with hb | hb | hb
    · exact absurd hb (by decide)
    · exact digit_ne_slash _ (by omega) hb.symm
    · exact digit_ne_slash _ (Nat.mod_lt _ (by decide)) hb.symm

/-! ### Paths -/

private theorem path_head (safe : SafeSet) (segments : List (List UInt8)) :
    path safe segments = [] ∨ ∃ rest, path safe segments = 47 :: rest := by
  cases segments with
  | nil => exact Or.inl rfl
  | cons segment rest => exact Or.inr ⟨_, rfl⟩

/-- What comes before the first slash is the rest of a segment. -/
private theorem takeWhile_path {safe : SafeSet} {xs : List UInt8} (hxs : 47 ∉ xs)
    (segments : List (List UInt8)) :
    (xs ++ path safe segments).takeWhile (· ≠ 47) = xs := by
  have hall : ∀ b ∈ xs, decide (b ≠ 47) = true := fun b hb =>
    decide_eq_true fun heq => hxs (heq ▸ hb)
  rw [List.takeWhile_append_of_pos hall]
  rcases path_head safe segments with hnil | ⟨rest, hcons⟩
  · rw [hnil, List.takeWhile_nil, List.append_nil]
  · rw [hcons, List.takeWhile_cons_of_neg (by simp), List.append_nil]

/-- **A path determines its segments.** -/
theorem path_injective (safe : SafeSet) {segments segments' : List (List UInt8)}
    (h : path safe segments = path safe segments') : segments = segments' := by
  induction segments generalizing segments' with
  | nil =>
      cases segments' with
      | nil => rfl
      | cons s' rest' => cases h
  | cons s rest ih =>
      cases segments' with
      | nil => cases h
      | cons s' rest' =>
          have htail : encode safe s ++ path safe rest = encode safe s' ++ path safe rest' :=
            (List.cons.inj h).2
          have hsegment : encode safe s = encode safe s' := by
            rw [← takeWhile_path (slash_not_mem_encode safe s) rest, htail,
              takeWhile_path (slash_not_mem_encode safe s') rest']
          rw [hsegment] at htail
          rw [encode_injective safe hsegment, ih (List.append_cancel_left htail)]

end Percent
