/-
Following continuation tokens visits a list once.

A page is a stretch of the list from its offset on, and its token is the offset where
it ends.  `Traversal` is what a caller sees who starts without a token and asks again
with every token it gets; it covers the list from left to right, and each page but the
one of an empty list moves it on.
-/
import SdcMcp.Proofs.Tokens

namespace SdcMcp

/-! ### Pages -/

/-- A page is a stretch of the list, and it is not empty unless the rest of the list is. -/
theorem fillPage_eq (fields : Option (List String)) (budgetBytes : Nat) (rest : List Value) :
    ∀ (page : List Value) (used : Nat), ∃ count, count ≤ rest.length ∧
      fillPage fields budgetBytes page used rest
        = page ++ (rest.take count).map (projectFields · fields) ∧
      (page = [] → rest ≠ [] → 0 < count) := by
  induction rest with
  | nil =>
      intro page used
      exact ⟨0, Nat.le_refl 0, by simp [fillPage], fun _ hrest => absurd rfl hrest⟩
  | cons item rest ih =>
      intro page used
      simp only [fillPage]
      by_cases hfull : (!page.isEmpty &&
          decide (budgetBytes < saturatingAdd used (itemSize (projectFields item fields)))) = true
      · rw [if_pos hfull]
        refine ⟨0, Nat.zero_le _, by simp, ?_⟩
        rintro rfl
        cases hfull
      · rw [if_neg hfull]
        obtain ⟨count, hle, heq, -⟩ := ih (page ++ [projectFields item fields])
          (saturatingAdd used (itemSize (projectFields item fields)))
        refine ⟨count + 1, Nat.succ_le_succ hle, ?_, fun _ _ => Nat.succ_pos count⟩
        rw [heq, List.append_assoc]
        rfl

/-- The page at an offset. -/
def pageAt (items : List Value) (fields : Option (List String)) (budgetBytes offset : Nat) :
    ListPage :=
  let page := fillPage fields budgetBytes [] 0 (items.drop offset)
  { items := page
    pageItemCount := page.length
    totalItemCount := items.length
    continuationToken :=
      if offset + page.length < items.length then some (encodeOffset (offset + page.length))
      else none }

section

variable {value : Value} {itemsKey : String} {items : List Value}
  (hitems : (value.get itemsKey).bind Value.asArray = some items)

include hitems

theorem pageList_none (fields : Option (List String)) (budgetBytes : Nat) :
    pageList value itemsKey fields none budgetBytes = .ok (pageAt items fields budgetBytes 0) := by
  unfold pageList
  rw [hitems]
  show Except.ok _ = _
  rw [Nat.zero_min]
  rfl

theorem pageList_some (fields : Option (List String)) (budgetBytes : Nat) {offset : Nat}
    (hoffset : offset ≤ items.length) (hlength : items.length < 2 ^ 64) :
    pageList value itemsKey fields (some (encodeOffset offset)) budgetBytes
      = .ok (pageAt items fields budgetBytes offset) := by
  unfold pageList
  rw [hitems]
  simp only [decodeOffset_encodeOffset (Nat.lt_of_le_of_lt hoffset hlength)]
  show Except.ok _ = _
  rw [Nat.min_eq_left hoffset]
  rfl

end

/-! ### Traversals -/

/-- The pages a caller gets that follows the tokens from one on, when every call succeeds. -/
inductive Traversal (value : Value) (itemsKey : String) (fields : Option (List String))
    (budgetBytes : Nat) : Option String → List ListPage → Prop where
  | last {token : Option String} {page : ListPage}
      (hpage : pageList value itemsKey fields token budgetBytes = .ok page)
      (hend : page.continuationToken = none) :
      Traversal value itemsKey fields budgetBytes token [page]
  | next {token : Option String} {page : ListPage} {following : String} {pages : List ListPage}
      (hpage : pageList value itemsKey fields token budgetBytes = .ok page)
      (hmore : page.continuationToken = some following)
      (hrest : Traversal value itemsKey fields budgetBytes (some following) pages) :
      Traversal value itemsKey fields budgetBytes token (page :: pages)

/-- There is one way to follow the tokens. -/
theorem Traversal.unique {value : Value} {itemsKey : String} {fields : Option (List String)}
    {budgetBytes : Nat} {token : Option String} {pages pages' : List ListPage}
    (h : Traversal value itemsKey fields budgetBytes token pages)
    (h' : Traversal value itemsKey fields budgetBytes token pages') : pages = pages' := by
  induction h generalizing pages' with
  | last hpage hend =>
      cases h' with
      | last hpage' hend' =>
          rw [hpage] at hpage'
          cases hpage'
          rfl
      | next hpage' hmore' hrest' =>
          rw [hpage] at hpage'
          cases hpage'
          rw [hend] at hmore'
          cases hmore'
  | next hpage hmore hrest ih =>
      cases h' with
      | last hpage' hend' =>
          rw [hpage] at hpage'
          cases hpage'
          rw [hmore] at hend'
          cases hend'
      | next hpage' hmore' hrest' =>
          rw [hpage] at hpage'
          cases hpage'
          rw [hmore] at hmore'
          cases hmore'
          rw [ih hrest']

/-- The items of some pages, in order. -/
def shownItems (pages : List ListPage) : List Value := pages.flatMap ListPage.items

/-- What a page says of itself when so many items were shown before it. -/
structure PageKeeps (total shown : Nat) (page : ListPage) : Prop where
  total_eq : page.totalItemCount = total
  count : page.pageItemCount = page.items.length
  progress : shown < total → page.items ≠ []
  token : page.continuationToken.isSome = true ↔ shown + page.items.length < total

/-- What the pages from an offset on keep to. -/
structure PagesKeep (items : List Value) (fields : Option (List String)) (offset : Nat)
    (pages : List ListPage) : Prop where
  calls : pages.length ≤ max 1 (items.length - offset)
  shown : shownItems pages = (items.drop offset).map (projectFields · fields)
  pages : ∀ before page after, pages = before ++ page :: after →
    PageKeeps items.length (offset + (shownItems before).length) page

@[simp] theorem shownItems_nil : shownItems [] = [] := rfl

@[simp] theorem shownItems_cons (page : ListPage) (pages : List ListPage) :
    shownItems (page :: pages) = page.items ++ shownItems pages := rfl

section Traversals

variable {value : Value} {itemsKey : String} {items : List Value}

/-- The page at an offset is a stretch of the list. -/
theorem pageAt_items (items : List Value) (fields : Option (List String)) (budgetBytes : Nat)
    {offset : Nat} (hoffset : offset ≤ items.length) :
    offset + (pageAt items fields budgetBytes offset).items.length ≤ items.length ∧
      (offset < items.length → 0 < (pageAt items fields budgetBytes offset).items.length) ∧
      (pageAt items fields budgetBytes offset).items
        = ((items.drop offset).take (pageAt items fields budgetBytes offset).items.length).map
          (projectFields · fields) := by
  obtain ⟨count, hle, heq, hpos⟩ := fillPage_eq fields budgetBytes (items.drop offset) [] 0
  rw [List.nil_append] at heq
  rw [List.length_drop] at hle
  have hitems : (pageAt items fields budgetBytes offset).items
      = ((items.drop offset).take count).map (projectFields · fields) := heq
  have hcount : (pageAt items fields budgetBytes offset).items.length = count := by
    rw [hitems, List.length_map, List.length_take, List.length_drop]
    omega
  refine ⟨by omega, ?_, by rw [hcount]; exact hitems⟩
  intro hlt
  rw [hcount]
  refine hpos rfl ?_
  intro hnil
  have hlength := congrArg List.length hnil
  rw [List.length_drop, List.length_nil] at hlength
  omega

theorem pageAt_token (items : List Value) (fields : Option (List String))
    (budgetBytes offset : Nat) :
    (pageAt items fields budgetBytes offset).continuationToken
      = if offset + (pageAt items fields budgetBytes offset).items.length < items.length then
          some (encodeOffset (offset + (pageAt items fields budgetBytes offset).items.length))
        else none := rfl

theorem pageAt_keeps (items : List Value) (fields : Option (List String)) (budgetBytes : Nat)
    {offset : Nat} (hoffset : offset ≤ items.length) :
    PageKeeps items.length offset (pageAt items fields budgetBytes offset) := by
  obtain ⟨-, hpos, -⟩ := pageAt_items items fields budgetBytes hoffset
  refine ⟨rfl, rfl, ?_, ?_⟩
  · intro hlt hnil
    have hlength := hpos hlt
    rw [hnil] at hlength
    cases hlength
  · rw [pageAt_token]
    by_cases hlt : offset + (pageAt items fields budgetBytes offset).items.length < items.length
    · rw [if_pos hlt]
      exact ⟨fun _ => hlt, fun _ => rfl⟩
    · rw [if_neg hlt]
      exact ⟨nofun, fun h => absurd h hlt⟩

/-- A page in front of the pages after it. -/
private theorem pagesKeep_cons {fields : Option (List String)} {budgetBytes offset : Nat}
    {pages : List ListPage} (hlt : offset < items.length)
    (hmore : offset + (pageAt items fields budgetBytes offset).items.length < items.length)
    (hrest : PagesKeep items fields
      (offset + (pageAt items fields budgetBytes offset).items.length) pages) :
    PagesKeep items fields offset (pageAt items fields budgetBytes offset :: pages) := by
  obtain ⟨hle, hpos, hitems⟩ := pageAt_items items fields budgetBytes (Nat.le_of_lt hlt)
  have hkeeps := pageAt_keeps items fields budgetBytes (Nat.le_of_lt hlt)
  have hfirst := hpos hlt
  generalize pageAt items fields budgetBytes offset = page at *
  refine ⟨?_, ?_, ?_⟩
  · have hcalls := hrest.calls
    rw [List.length_cons]
    omega
  · rw [shownItems_cons, hrest.shown, ← List.drop_drop]
    refine (congrArg (· ++ _) hitems).trans ?_
    rw [← List.map_append, List.take_append_drop]
  · intro before page' after hsplit
    cases before with
    | nil =>
        cases hsplit
        exact hkeeps
    | cons b before =>
        rw [List.cons_append, List.cons.injEq] at hsplit
        obtain ⟨rfl, hsplit⟩ := hsplit
        rw [shownItems_cons, List.length_append, ← Nat.add_assoc]
        exact hrest.pages before page' after hsplit

/-- The pages from an offset on, for a call that answers with the page there. -/
theorem traversal_from (hitems : (value.get itemsKey).bind Value.asArray = some items)
    (hlength : items.length < 2 ^ 64) (fields : Option (List String)) (budgetBytes : Nat)
    (left : Nat) :
    ∀ (offset : Nat) (token : Option String), items.length - offset = left →
      offset ≤ items.length →
      pageList value itemsKey fields token budgetBytes
        = .ok (pageAt items fields budgetBytes offset) →
      ∃ pages, Traversal value itemsKey fields budgetBytes token pages ∧
        PagesKeep items fields offset pages := by
  -- Every page that is not the last one leaves fewer items.
  induction left using Nat.strongRecOn with
  | ind left ih =>
      intro offset token hleft hoffset hpage
      obtain ⟨hle, hpos, hshown⟩ := pageAt_items items fields budgetBytes hoffset
      have htoken := pageAt_token items fields budgetBytes offset
      by_cases hmore : offset + (pageAt items fields budgetBytes offset).items.length
          < items.length
      · rw [if_pos hmore] at htoken
        have hfirst := hpos (by omega)
        obtain ⟨pages, hrun, hkeep⟩ := ih _ (by omega) _ _ rfl hle
          (pageList_some hitems fields budgetBytes hle hlength)
        exact ⟨_, .next hpage htoken hrun, pagesKeep_cons (by omega) hmore hkeep⟩
      · rw [if_neg hmore] at htoken
        refine ⟨_, .last hpage htoken, ?_, ?_, ?_⟩
        · exact Nat.le_max_left 1 _
        · rw [shownItems_cons, shownItems_nil, List.append_nil]
          refine hshown.trans ?_
          rw [List.take_of_length_le]
          rw [List.length_drop]
          omega
        · intro before page after hsplit
          rcases before with - | ⟨b, before⟩
          · cases hsplit
            exact pageAt_keeps items fields budgetBytes hoffset
          · simp at hsplit

/-- **Following the tokens shows every item once, in order.**  From no token on every call
succeeds, there are at most as many calls as items and at least one, and the pages put together
are the list with its fields projected.  Every page counts right, is not empty while items
remain, and has a token exactly when items remain after it.  A `Vec` counts its items in 64
bits, so there are fewer than `2 ^ 64` of them. -/
theorem paging_exact (hitems : (value.get itemsKey).bind Value.asArray = some items)
    (hlength : items.length < 2 ^ 64) (fields : Option (List String)) (budgetBytes : Nat) :
    ∃ pages, Traversal value itemsKey fields budgetBytes none pages ∧
      (∀ pages', Traversal value itemsKey fields budgetBytes none pages' → pages' = pages) ∧
      pages.length ≤ max 1 items.length ∧
      shownItems pages = items.map (projectFields · fields) ∧
      ∀ before page after, pages = before ++ page :: after →
        PageKeeps items.length (shownItems before).length page := by
  obtain ⟨pages, hrun, hkeep⟩ := traversal_from hitems hlength fields budgetBytes _ 0 none rfl
    (Nat.zero_le _) (pageList_none hitems fields budgetBytes)
  refine ⟨pages, hrun, fun pages' hrun' => hrun'.unique hrun, hkeep.calls, hkeep.shown, ?_⟩
  intro before page after hsplit
  have hpage := hkeep.pages before page after hsplit
  rwa [Nat.zero_add] at hpage

end Traversals

/-- A list of three zones with names. -/
def zones : List Value :=
  ["trust", "untrust", "dmz"].map fun name =>
    .object (Map.empty.insert "name" ⟨.str name, trivial⟩)

/-- However small the budget is, the three zones come in at most three pages. -/
theorem zones_paged : ∃ pages,
    Traversal (.object (Map.empty.insert "items" (.array zones))) "items" (some ["name"]) 1 none
        pages ∧
      pages.length ≤ 3 ∧ shownItems pages = zones.map (projectFields · (some ["name"])) := by
  have hitems :
      ((Value.object (Map.empty.insert "items" (.array zones))).get "items").bind Value.asArray
        = some zones := by
    rw [Value.get_eq_some.mpr rfl, Option.bind_some, Value.asArray_array]
  obtain ⟨pages, hrun, -, hcalls, hshown, -⟩ :=
    paging_exact hitems (by decide) (some ["name"]) 1
  exact ⟨pages, hrun, hcalls, hshown⟩

end SdcMcp
