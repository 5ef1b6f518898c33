/-
What the byte budget of a page bounds.

The loop adds up the items of a page one by one, and its page is the longest stretch
whose items fit the budget.  On the wire the items stand in an array, with a bracket on
either side and a comma between any two; these bytes are not in the sum.
-/
import SdcMcp.Lib.JsonText
import SdcMcp.Model.Paging
import Mathlib.Algebra.Ring.Nat
import Mathlib.Data.List.Induction

namespace Json

/-! ### The size of an array -/

private theorem renderItems_size (items : List Json) :
    ((renderItems false items).flatMap String.utf8EncodeChar).length
      = (items.map fun v => v.toVec.length).sum + items.length + 1 := by
  induction items with
  | nil => rfl
  | cons v rest ih =>
      have hcomma : (String.utf8EncodeChar ',').length = 1 := by decide
      unfold renderItems
      rw [if_neg Bool.false_ne_true, List.flatMap_append, List.flatMap_append, List.length_append,
        List.length_append, ih, List.flatMap_singleton, hcomma, List.map_cons, List.sum_cons,
        List.length_cons]
      unfold toVec
      omega

/-- Around the items of an array stand its brackets, and a comma before each but the first. -/
theorem toVec_arr_length (items : List Json) :
    (toVec (.arr items)).length
      = (items.map fun v => v.toVec.length).sum + (items.length - 1) + 2 := by
  have hopen : (String.utf8EncodeChar '[').length = 1 := by decide
  show (('[' :: renderItems true items).flatMap String.utf8EncodeChar).length = _
  rw [List.flatMap_cons, List.length_append, hopen]
  cases items with
  | nil => rfl
  | cons v rest =>
      rw [List.map_cons, List.sum_cons, List.length_cons]
      show 1 + ((render v ++ renderItems false rest).flatMap String.utf8EncodeChar).length = _
      rw [List.flatMap_append, List.length_append, renderItems_size]
      show 1 + (v.toVec.length + _) = _
      omega

end Json

namespace SdcMcp

/-! ### Sums of sizes -/

/-- The bytes of items that are sent together, as one array. -/
def arraySize (items : List Value) : Nat := (Value.array items).tree.toVec.length

theorem arraySize_eq (items : List Value) :
    arraySize items = (items.map itemSize).sum + (items.length - 1) + 2 := by
  unfold arraySize
  show (Json.toVec (.arr (items.map Value.tree))).length = _
  rw [Json.toVec_arr_length, List.map_map, List.length_map]
  rfl

/-- What the loop has added up after some items. -/
def usedBy (items : List Value) : Nat :=
  items.foldl (fun used item => saturatingAdd used (itemSize item)) 0

theorem usedBy_concat (items : List Value) (item : Value) :
    usedBy (items ++ [item]) = saturatingAdd (usedBy items) (itemSize item) := by
  unfold usedBy
  rw [List.foldl_append]
  rfl

private theorem usedBy_eq (items : List Value) :
    usedBy items = min (items.map itemSize).sum (2 ^ 64 - 1) := by
  induction items using List.reverseRecOn with
  | nil => rfl
  | append_singleton items item ih =>
      rw [usedBy_concat, ih, List.map_append, List.sum_append, List.map_singleton,
        List.sum_singleton, saturatingAdd]
      omega

theorem usedBy_le_arraySize (items : List Value) : usedBy items ≤ arraySize items := by
  rw [usedBy_eq, arraySize_eq]
  omega

theorem usedBy_mono (items : List Value) {m n : Nat} (h : m ≤ n) :
    usedBy (items.take m) ≤ usedBy (items.take n) := by
  have hsum : ((items.take m).map itemSize).sum ≤ ((items.take n).map itemSize).sum := by
    have hsplit := List.take_append_drop m (items.take n)
    rw [List.take_take, Nat.min_eq_left h] at hsplit
    rw [← hsplit, List.map_append, List.sum_append]
    omega
  rw [usedBy_eq, usedBy_eq]
  omega

/-! ### The stretch that fits -/

/-- The loop stops behind the first items that are as many as fit, or behind one. -/
structure Fills (budgetBytes : Nat) (items : List Value) (count : Nat) : Prop where
  le : count ≤ items.length
  pos : items ≠ [] → 0 < count
  fits : 2 ≤ count → usedBy (items.take count) ≤ budgetBytes
  full : count < items.length → budgetBytes < usedBy (items.take (count + 1))

/-- The loop from items on that it has already taken. -/
private theorem fillPage_fills (fields : Option (List String)) (budgetBytes : Nat)
    (rest : List Value) :
    ∀ taken : List Value, (2 ≤ taken.length → usedBy taken ≤ budgetBytes) →
      ∃ count, fillPage fields budgetBytes taken (usedBy taken) rest
          = taken ++ (rest.map (projectFields · fields)).take count ∧
        Fills budgetBytes (taken ++ rest.map (projectFields · fields)) (taken.length + count) := by
  induction rest with
  | nil =>
      intro taken hfits
      refine ⟨0, by simp [fillPage], ?_⟩
      rw [List.map_nil, List.append_nil, Nat.add_zero]
      refine ⟨Nat.le_refl _, List.length_pos_iff.mpr, ?_, fun h => absurd h (Nat.lt_irrefl _)⟩
      rw [List.take_length]
      exact hfits
  | cons item rest ih =>
      intro taken hfits
      rw [List.map_cons]
      simp only [fillPage]
      by_cases hfull : (!taken.isEmpty &&
          decide (budgetBytes
            < saturatingAdd (usedBy taken) (itemSize (projectFields item fields)))) = true
      · rw [if_pos hfull]
        rw [Bool.and_eq_true, Bool.not_eq_true', List.isEmpty_eq_false_iff,
          decide_eq_true_eq] at hfull
        refine ⟨0, by rw [List.take_zero, List.append_nil], ?_⟩
        rw [Nat.add_zero]
        refine ⟨by simp, fun _ => List.length_pos_iff.mpr hfull.1, ?_, ?_⟩
        · rw [List.take_left]
          exact hfits
        · intro _
          have htake :
              (taken ++ projectFields item fields :: rest.map (projectFields · fields)).take
                (taken.length + 1) = taken ++ [projectFields item fields] := by
            rw [List.take_length_add_append]
            rfl
          rw [htake, usedBy_concat]
          exact hfull.2
      · rw [if_neg hfull, ← usedBy_concat]
        have hnext : 2 ≤ (taken ++ [projectFields item fields]).length →
            usedBy (taken ++ [projectFields item fields]) ≤ budgetBytes := by
          intro htwo
          rw [List.length_append, List.length_singleton] at htwo
          rw [usedBy_concat]
          by_contra hlt
          refine hfull ?_
          rw [Bool.and_eq_true, Bool.not_eq_true', List.isEmpty_eq_false_iff, decide_eq_true_eq]
          refine ⟨?_, by omega⟩
          rintro rfl
          simp at htwo
        obtain ⟨count, heq, hfills⟩ := ih _ hnext
        rw [List.append_assoc, List.singleton_append, List.length_append, List.length_singleton,
          Nat.add_assoc, Nat.add_comm 1 count] at hfills
        refine ⟨count + 1, ?_, hfills⟩
        rw [heq, List.append_assoc, List.singleton_append, List.take_succ_cons]

theorem Fills.unique {budgetBytes : Nat} {items : List Value} {m n : Nat}
    (hm : Fills budgetBytes items m) (hn : Fills budgetBytes items n) (hm1 : 2 ≤ m) (hn1 : 2 ≤ n) :
    m = n := by
  rcases Nat.lt_trichotomy m n with hlt | heq | hlt
  · have hfull := hm.full (Nat.lt_of_lt_of_le hlt hn.le)
    have hfits := hn.fits hn1
    have := usedBy_mono items (show m + 1 ≤ n by omega)
    omega
  · exact heq
  · have hfull := hn.full (Nat.lt_of_lt_of_le hlt hm.le)
    have hfits := hm.fits hm1
    have := usedBy_mono items (show n + 1 ≤ m by omega)
    omega

/-! ### The page -/

/-- The items a call starts from: those from the offset of its token on. -/
def itemsFrom (value : Value) (itemsKey : String) (continuationToken : Option String) :
    Except PageError (List Value) := do
  let items ← match (value.get itemsKey).bind Value.asArray with
    | some items => pure items
    | none => throw (.notAList itemsKey)
  let offset ← match continuationToken with
    | some token => decodeOffset token
    | none => pure 0
  return items.drop (min offset items.length)

theorem pageList_items (value : Value) (itemsKey : String) (fields : Option (List String))
    (continuationToken : Option String) (budgetBytes : Nat) :
    (pageList value itemsKey fields continuationToken budgetBytes).map ListPage.items
      = (itemsFrom value itemsKey continuationToken).map
        (fillPage fields budgetBytes [] 0) := by
  unfold pageList itemsFrom
  cases (value.get itemsKey).bind Value.asArray with
  | none => rfl
  | some items =>
      cases continuationToken with
      | none => rfl
      | some token =>
          show (decodeOffset token >>= _).map _ = (decodeOffset token >>= _).map _
          cases decodeOffset token <;> rfl

/-- A page keeps to its budget and is as long as it can be: more than one item of it take no
more than the budget together, and with the next of the items they would. -/
def BudgetKept (budgetBytes : Nat) (items page : List Value) : Prop :=
  (page.length ≤ 1 ∨ arraySize page ≤ budgetBytes) ∧
    ∀ next, items[page.length]? = some next → budgetBytes < arraySize (page ++ [next])

/-- Whenever items that fit the budget by their sizes alone are more than one and cannot be made
more, they leave a byte for each of them and one more, for the brackets and commas. -/
def SpareForSeparators (budgetBytes : Nat) (items : List Value) : Prop :=
  ∀ count, 2 ≤ count → count ≤ items.length → usedBy (items.take count) ≤ budgetBytes →
    (count = items.length ∨ budgetBytes < usedBy (items.take (count + 1))) →
    ((items.take count).map itemSize).sum + count + 1 ≤ budgetBytes

private theorem arraySize_take {items : List Value} {count : Nat} (hpos : 0 < count)
    (hle : count ≤ items.length) :
    arraySize (items.take count) = ((items.take count).map itemSize).sum + count + 1 := by
  rw [arraySize_eq, List.length_take, Nat.min_eq_left hle]
  omega

private theorem Fills.kept_iff {budgetBytes : Nat} {items : List Value} {count : Nat}
    (h : Fills budgetBytes items count) :
    BudgetKept budgetBytes items (items.take count) ↔ SpareForSeparators budgetBytes items := by
  have hlength : (items.take count).length = count := by
    rw [List.length_take]
    exact Nat.min_eq_left h.le
  have hmaximal : ∀ next, items[count]? = some next →
      budgetBytes < arraySize (items.take count ++ [next]) := by
    intro next hnext
    obtain ⟨hlt, hget⟩ := List.getElem?_eq_some_iff.mp hnext
    have hfull := h.full hlt
    rw [List.take_add_one, hnext] at hfull
    exact Nat.lt_of_lt_of_le hfull (usedBy_le_arraySize _)
  unfold BudgetKept
  rw [hlength, and_iff_left hmaximal]
  constructor
  · intro hkept n htwo hle hfits hstop
    -- A stretch that fits and cannot be made longer is the one the loop has taken.
    have hn : Fills budgetBytes items n := by
      refine ⟨hle, fun _ => by omega, fun _ => hfits, fun hlt => ?_⟩
      rcases hstop with heq | hfull
      · omega
      · exact hfull
    have hcount : 2 ≤ count := by
      by_contra hone
      have hfull := h.full (by omega)
      have := usedBy_mono items (show count + 1 ≤ n by omega)
      omega
    obtain rfl := h.unique hn hcount htwo
    rw [← arraySize_take (by omega) hle]
    exact hkept.resolve_left (by omega)
  · intro hspare
    by_cases hone : count ≤ 1
    · exact Or.inl hone
    · right
      rw [arraySize_take (by omega) h.le]
      refine hspare count (by omega) h.le (h.fits (by omega)) ?_
      by_cases hlast : count = items.length
      · exact Or.inl hlast
      · exact Or.inr (h.full (Nat.lt_of_le_of_ne h.le hlast))

/-- **When a page keeps to its byte budget.**  Every page is as long as its budget allows; it
keeps to the budget exactly when the bytes that its items leave over are enough for the brackets
and commas around them. -/
theorem page_budget_iff {value : Value} {itemsKey : String} {fields : Option (List String)}
    {continuationToken : Option String} {budgetBytes : Nat} {page : ListPage} {items : List Value}
    (hpage : pageList value itemsKey fields continuationToken budgetBytes = .ok page)
    (hitems : itemsFrom value itemsKey continuationToken = .ok items) :
    BudgetKept budgetBytes (items.map (projectFields · fields)) page.items
      ↔ SpareForSeparators budgetBytes (items.map (projectFields · fields)) := by
  have hfilled := pageList_items value itemsKey fields continuationToken budgetBytes
  rw [hpage, hitems] at hfilled
  obtain ⟨count, heq, hfills⟩ := fillPage_fills fields budgetBytes items [] (by simp)
  have hshown : page.items = (items.map (projectFields · fields)).take count :=
    (Except.ok.inj hfilled).trans heq
  rw [List.nil_append, List.length_nil, Nat.zero_add] at hfills
  rw [hshown]
  exact hfills.kept_iff

/-- A list of two texts, of three bytes each. -/
def twoTexts : Value :=
  .object (Map.empty.insert "items" (.array [.string "a", .string "b"]))

private theorem twoTexts_from :
    itemsFrom twoTexts "items" none = .ok [.string "a", .string "b"] := by
  unfold itemsFrom twoTexts
  rw [Value.get_object, Map.get_insert, if_pos rfl, Option.bind_some, Value.asArray_array]
  rfl

private theorem twoTexts_page {budgetBytes : Nat} (h : 6 ≤ budgetBytes) : ∃ page,
    pageList twoTexts "items" none none budgetBytes = .ok page ∧
      page.items = [.string "a", .string "b"] := by
  have hfilled := pageList_items twoTexts "items" none none budgetBytes
  rw [twoTexts_from] at hfilled
  have hb : ¬ budgetBytes < saturatingAdd (saturatingAdd 0 3) 3 := by
    unfold saturatingAdd
    omega
  cases hpage : pageList twoTexts "items" none none budgetBytes with
  | error e =>
      rw [hpage] at hfilled
      cases hfilled
  | ok page =>
      rw [hpage] at hfilled
      refine ⟨page, rfl, (Except.ok.inj hfilled).trans ?_⟩
      show (if (!false && decide (budgetBytes < saturatingAdd (saturatingAdd 0 3) 3)) = true then
        _ else [Value.string "a", Value.string "b"]) = _
      rw [if_neg (by simpa using hb)]

/-- With a budget of six bytes both texts are on one page, which takes nine: `["a","b"]`. -/
theorem twoTexts_over_budget : ∃ page,
    pageList twoTexts "items" none none 6 = .ok page ∧ arraySize page.items = 9 ∧
      ¬ BudgetKept 6 [.string "a", .string "b"] page.items := by
  obtain ⟨page, hpage, hitems⟩ := twoTexts_page (Nat.le_refl 6)
  have hsize : arraySize page.items = 9 := by
    rw [hitems]
    decide
  refine ⟨page, hpage, hsize, fun hkept => ?_⟩
  rcases hkept.1 with hone | hfits
  · rw [hitems] at hone
    exact absurd hone (by decide)
  · rw [hsize] at hfits
    exact absurd hfits (by decide)

/-- With a budget of nine bytes the page of both is just what the budget says. -/
theorem twoTexts_in_budget : ∃ page,
    pageList twoTexts "items" none none 9 = .ok page ∧
      BudgetKept 9 ([.string "a", .string "b"].map (projectFields · none)) page.items := by
  obtain ⟨page, hpage, -⟩ := twoTexts_page (show 6 ≤ 9 by decide)
  refine ⟨page, hpage, (page_budget_iff hpage twoTexts_from).mpr ?_⟩
  intro count htwo hle hfits hstop
  obtain rfl : count = 2 := Nat.le_antisymm hle htwo
  decide

end SdcMcp
