/-
Which texts are taken for a continuation token.

A token is the prefix and the digits of an offset.  The parser behind the prefix is
the one of the standard library, which also takes a plus sign and zeros in front of
the digits, so more texts are taken than are ever issued.  `decodeOffset_eq_ok_iff`
says which, and every other text is refused.
-/
import SdcMcp.Lib.Decimal
import SdcMcp.Model.Paging

namespace SdcMcp

open Decimal

/-! ### What the parser takes -/

/-- A text without the plus sign it may start with. -/
def unsigned : List Char → List Char
  | '+' :: rest => rest
  | rest => rest

theorem unsigned_of_ne {text : List Char} (h : ∀ rest, text ≠ '+' :: rest) :
    unsigned text = text := by
  unfold unsigned
  split
  · exact absurd rfl (h _)
  · rfl

theorem parseUsize_unsigned (text : List Char) :
    parseUsize text = if !(unsigned text).isEmpty && (unsigned text).all Char.isDigit &&
        Nat.ofDigitChars 10 (unsigned text) 0 < 2 ^ 64 then
      some (Nat.ofDigitChars 10 (unsigned text) 0) else none := rfl

theorem unsigned_spelled (plus : Bool) (zeros n : Nat) :
    unsigned (spelled plus zeros n) = List.replicate zeros '0' ++ Nat.toDigits 10 n := by
  cases plus with
  | true => rfl
  | false =>
      refine unsigned_of_ne fun rest heq => ?_
      have hmem : '+' ∈ List.replicate zeros '0' ++ Nat.toDigits 10 n := by
        show '+' ∈ spelled false zeros n
        rw [heq]
        exact List.mem_cons_self
      cases spelled_digits hmem

/-- The parser takes the spellings of a `usize`, with a plus sign and zeros in front or not. -/
theorem parseUsize_eq_some_iff {text : List Char} {n : Nat} :
    parseUsize text = some n ↔ n < 2 ^ 64 ∧ ∃ plus zeros, text = spelled plus zeros n := by
  rw [parseUsize_unsigned]
  constructor
  · intro h
    obtain ⟨hcond, hvalue⟩ := Option.ite_none_right_eq_some.mp h
    rw [Option.some.injEq] at hvalue
    simp only [Bool.and_eq_true, Bool.not_eq_true', List.isEmpty_eq_false_iff, List.all_eq_true,
      decide_eq_true_eq] at hcond
    obtain ⟨⟨hne, hdigits⟩, hlt⟩ := hcond
    obtain ⟨zeros, hzeros⟩ := eq_zeros_append_toDigits hne hdigits
    rw [hvalue] at hlt hzeros
    refine ⟨hlt, ?_⟩
    by_cases hsign : ∃ rest, text = '+' :: rest
    · obtain ⟨rest, rfl⟩ := hsign
      exact ⟨true, zeros, congrArg ('+' :: ·) hzeros⟩
    · rw [unsigned_of_ne (not_exists.mp hsign)] at hzeros
      exact ⟨false, zeros, hzeros⟩
  · rintro ⟨hlt, plus, zeros, rfl⟩
    have hne : List.replicate zeros '0' ++ Nat.toDigits 10 n ≠ [] :=
      List.append_ne_nil_of_right_ne_nil _ Nat.toDigits_ne_nil
    rw [unsigned_spelled, List.isEmpty_eq_false_iff.mpr hne,
      List.all_eq_true.mpr fun c => spelled_digits, ofDigitChars_zeros_append]
    exact if_pos (by simpa using hlt)

/-! ### Tokens -/

/-- The text of a token: the prefix and a spelling of the offset. -/
def TokenText (plus : Bool) (zeros offset : Nat) (token : String) : Prop :=
  token.toList = tokenPrefix.toList ++ spelled plus zeros offset

theorem decodeOffset_eq_ok_iff {token : String} {offset : Nat} :
    decodeOffset token = .ok offset ↔
      offset < 2 ^ 64 ∧ ∃ plus zeros, TokenText plus zeros offset token := by
  unfold decodeOffset
  by_cases hprefix : tokenPrefix.toList.isPrefixOf token.toList = true
  · obtain ⟨rest, hrest⟩ := List.isPrefixOf_iff_prefix.mp hprefix
    rw [if_pos hprefix, ← hrest, List.drop_left]
    have htext : ∀ plus zeros,
        TokenText plus zeros offset token ↔ rest = spelled plus zeros offset := by
      intro plus zeros
      unfold TokenText
      rw [← hrest, List.append_cancel_left_eq]
    simp only [htext]
    rw [← parseUsize_eq_some_iff]
    cases parseUsize rest with
    | none => simp
    | some n => simp
  · rw [if_neg hprefix]
    refine iff_of_false nofun ?_
    rintro ⟨-, plus, zeros, htext⟩
    exact hprefix (List.isPrefixOf_iff_prefix.mpr (htext ▸ List.prefix_append _ _))

theorem decodeOffset_error {token : String} {e : PageError} (h : decodeOffset token = .error e) :
    e = .invalidContinuationToken := by
  unfold decodeOffset at h
  split at h
  · split at h <;> cases h
    rfl
  · cases h
    rfl

theorem encodeOffset_toList (offset : Nat) :
    (encodeOffset offset).toList = tokenPrefix.toList ++ Nat.toDigits 10 offset := by
  unfold encodeOffset
  rw [String.toList_append, Nat.toString_eq_repr, Nat.toList_repr]

/-- A text that `page_list` can have issued as a token. -/
def Issuable (token : String) : Prop := ∃ offset < 2 ^ 64, token = encodeOffset offset

/-- An offset behind the prefix in other digits than its own: with a plus sign or with zeros in
front of them. -/
def Respelled (token : String) : Prop :=
  ∃ plus zeros offset, offset < 2 ^ 64 ∧ (plus = true ∨ 0 < zeros) ∧
    TokenText plus zeros offset token

theorem tokenText_plain {token : String} {offset : Nat} :
    TokenText false 0 offset token ↔ token = encodeOffset offset := by
  unfold TokenText
  rw [spelled_plain, ← encodeOffset_toList, String.toList_inj]

/-- A token is read back as the offset it was made of. -/
theorem decodeOffset_encodeOffset {offset : Nat} (h : offset < 2 ^ 64) :
    decodeOffset (encodeOffset offset) = .ok offset :=
  decodeOffset_eq_ok_iff.mpr ⟨h, false, 0, tokenText_plain.mpr rfl⟩

theorem Respelled.not_issuable {token : String} (h : Respelled token) : ¬ Issuable token := by
  obtain ⟨plus, zeros, offset, -, hother, htext⟩ := h
  rintro ⟨offset', -, hissued⟩
  have hplain := tokenText_plain.mpr hissued
  unfold TokenText at htext hplain
  rw [htext, List.append_cancel_left_eq, spelled_plain] at hplain
  obtain ⟨rfl, rfl⟩ := plain_of_spelled_eq hplain
  rcases hother with hplus | hzeros
  · cases hplus
  · cases hzeros

/-- The parser reads what can be issued and the other spellings of it. -/
theorem decodeOffset_isOk_iff {token : String} :
    (∃ offset, decodeOffset token = .ok offset) ↔ Issuable token ∨ Respelled token := by
  simp only [decodeOffset_eq_ok_iff]
  constructor
  · rintro ⟨offset, hlt, plus, zeros, htext⟩
    by_cases hplain : plus = false ∧ zeros = 0
    · obtain ⟨rfl, rfl⟩ := hplain
      exact Or.inl ⟨offset, hlt, tokenText_plain.mp htext⟩
    · refine Or.inr ⟨plus, zeros, offset, hlt, ?_, htext⟩
      cases plus with
      | true => exact Or.inl rfl
      | false => exact Or.inr (Nat.pos_of_ne_zero fun hzeros => hplain ⟨rfl, hzeros⟩)
  · rintro (⟨offset, hlt, hissued⟩ | ⟨plus, zeros, offset, hlt, -, htext⟩)
    · exact ⟨offset, hlt, false, 0, tokenText_plain.mpr hissued⟩
    · exact ⟨offset, hlt, plus, zeros, htext⟩

/-! ### Pages -/

/-- What is promised of a text that a caller gives as a token: it is taken exactly if it can
have been issued, it then stands for the offset it was issued for, and else it is refused. -/
structure GrammarKept (value : Value) (itemsKey : String) (fields : Option (List String))
    (budgetBytes : Nat) (token : String) : Prop where
  taken : (∃ page, pageList value itemsKey fields (some token) budgetBytes = .ok page) ↔
    Issuable token
  decoded : ∀ offset < 2 ^ 64, token = encodeOffset offset → decodeOffset token = .ok offset
  refused : ¬ Issuable token →
    pageList value itemsKey fields (some token) budgetBytes = .error .invalidContinuationToken

section

variable {value : Value} {itemsKey : String} {items : List Value}
  (hitems : (value.get itemsKey).bind Value.asArray = some items)

include hitems

/-- A list takes a token if its offset can be read, and else fails as the reading does. -/
theorem pageList_isOk_iff (fields : Option (List String)) (budgetBytes : Nat) (token : String) :
    (∃ page, pageList value itemsKey fields (some token) budgetBytes = .ok page) ↔
      ∃ offset, decodeOffset token = .ok offset := by
  unfold pageList
  rw [hitems]
  show (∃ page, (decodeOffset token >>= fun offset => Except.ok _) = Except.ok page) ↔ _
  cases decodeOffset token with
  | error e => exact iff_of_false nofun nofun
  | ok offset => exact ⟨fun _ => ⟨offset, rfl⟩, fun _ => ⟨_, rfl⟩⟩

theorem pageList_error (fields : Option (List String)) (budgetBytes : Nat) {token : String}
    {e : PageError} (h : decodeOffset token = .error e) :
    pageList value itemsKey fields (some token) budgetBytes = .error e := by
  unfold pageList
  rw [hitems]
  show (decodeOffset token >>= fun offset => Except.ok _) = Except.error e
  rw [h]
  rfl

end

/-- **When the grammar of the tokens is kept.**  Every list keeps to it exactly on the texts that
are not an offset spelled with a plus sign or with zeros in front. -/
theorem token_grammar_iff {value : Value} {itemsKey : String} {items : List Value}
    (hitems : (value.get itemsKey).bind Value.asArray = some items)
    (fields : Option (List String)) (budgetBytes : Nat) (token : String) :
    GrammarKept value itemsKey fields budgetBytes token ↔ ¬ Respelled token := by
  have htaken := pageList_isOk_iff hitems fields budgetBytes token
  rw [decodeOffset_isOk_iff] at htaken
  constructor
  · intro hkept hother
    exact hother.not_issuable (hkept.taken.mp (htaken.mpr (Or.inr hother)))
  · intro hno
    refine ⟨?_, ?_, ?_⟩
    · rw [htaken, or_iff_left hno]
    · rintro offset hlt rfl
      exact decodeOffset_encodeOffset hlt
    · intro hissued
      cases hdecoded : decodeOffset token with
      | ok offset =>
          exact absurd (decodeOffset_isOk_iff.mp ⟨offset, hdecoded⟩) (not_or.mpr ⟨hissued, hno⟩)
      | error e =>
          rw [pageList_error hitems fields budgetBytes hdecoded, decodeOffset_error hdecoded]

/-- A list of three texts. -/
def letters : Value :=
  .object (Map.empty.insert "items" (.array [.string "a", .string "b", .string "c"]))

private theorem letters_items : (letters.get "items").bind Value.asArray
    = some [.string "a", .string "b", .string "c"] := by
  rw [letters, Value.get_eq_some.mpr rfl, Option.bind_some, Value.asArray_array]

private theorem plusToken_text : TokenText true 0 2 "sdcpage1:+2" := by
  unfold TokenText
  decide

/-- The token of the third text keeps to the grammar. -/
theorem letterToken_kept : GrammarKept letters "items" none 65536 "sdcpage1:2" := by
  refine (token_grammar_iff letters_items none 65536 "sdcpage1:2").mpr fun hother => ?_
  exact hother.not_issuable ⟨2, by decide, by decide⟩

/-- With a plus sign the same page is returned for a text that is never issued. -/
theorem plusToken_taken :
    (∃ page, pageList letters "items" none (some "sdcpage1:+2") 65536 = .ok page) ∧
      ¬ ∃ offset < 2 ^ 64, "sdcpage1:+2" = encodeOffset offset := by
  constructor
  · refine (pageList_isOk_iff letters_items none 65536 _).mpr ⟨2, ?_⟩
    exact decodeOffset_eq_ok_iff.mpr ⟨by decide, true, 0, plusToken_text⟩
  · exact Respelled.not_issuable ⟨true, 0, 2, by decide, Or.inl rfl, plusToken_text⟩

end SdcMcp
