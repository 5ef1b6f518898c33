/-
`_inline` ends, and what it leaves of the references.

A reference is followed into a definition that may be larger than the node, so the size
of the node does not bound the calls.  But a reference that is being followed is on the
stack and is not followed again: `inlined_inline` goes by the references that are still
off the stack, and then by the node.  It builds a derivation, `Inlined`, which has one
case for each way a node is treated, and from the derivation we read off how deep the
calls go and what becomes of each reference.
-/
import SdcMcp.Proofs.SpecOutline
import Mathlib.Data.Set.Finite.Basic
import Mathlib.Order.Filter.AtTopBot.Basic
import Mathlib.Order.Filter.Finite

namespace SdcMcp.SpecDrift

/-! ### How a node is inlined -/

/-- `_inline` of a node, while the references on the stack are being followed, comes to a value.
A reference is replaced by its definition, or by a marker: one that is being followed by a cycle
marker, and one without a definition that is not empty by a missing marker. -/
inductive Inlined (components : PyJson) : List String → PyJson → PyJson → Prop where
  | atom {stack : List String} (a : Atom) : Inlined components stack (.atom a) (.atom a)
  | str {stack : List String} (s : String) : Inlined components stack (.str s) (.str s)
  | list {stack : List String} {items : List PyJson} {result : PyJson → PyJson}
      (h : ∀ v ∈ items, Inlined components stack v (result v)) :
      Inlined components stack (.list items) (.list (items.map result))
  | dict {stack : List String} {items : List (String × PyJson)} {result : PyJson → PyJson}
      (hplain : componentRef (.dict items) = none)
      (h : ∀ m ∈ items, Inlined components stack m.2 (result m.2)) :
      Inlined components stack (.dict items) (.dict (items.map fun m => (m.1, result m.2)))
  | definition {stack : List String} {node c v : PyJson} {ref : String} {named : String × String}
      (href : componentRef node = some (ref, named)) (hfresh : ref ∉ stack)
      (hc : (component components named).filter PyJson.truthy = some c)
      (h : Inlined components (ref :: stack) c v) : Inlined components stack node v
  | cycle {stack : List String} {node : PyJson} {ref : String} {named : String × String}
      (href : componentRef node = some (ref, named)) (hmem : ref ∈ stack) :
      Inlined components stack node (cycle ref)
  | missing {stack : List String} {node : PyJson} {ref : String} {named : String × String}
      (href : componentRef node = some (ref, named)) (hfresh : ref ∉ stack)
      (hc : (component components named).filter PyJson.truthy = none) :
      Inlined components stack node (missing ref)

section

variable {components : PyJson}

/-- A reference is inlined if its definition is. -/
private theorem inlined_ref {stack : List String} {node : PyJson} {ref : String}
    {named : String × String} (href : componentRef node = some (ref, named))
    (hdefinition : ∀ c, ref ∉ stack → (component components named).filter PyJson.truthy = some c →
      Inlined components (ref :: stack) c (inline components (ref :: stack) c)) :
    Inlined components stack node (inline components stack node) := by
  rw [inline_ref href]
  by_cases hmem : ref ∈ stack
  · rw [if_pos hmem]
    exact .cycle href hmem
  rw [if_neg hmem]
  cases hc : (component components named).filter PyJson.truthy with
  | none => exact .missing href hmem hc
  | some c => exact .definition href hmem hc (hdefinition c hmem hc)

/-- **Every node is inlined.** -/
theorem inlined_inline (components : PyJson) (stack : List String) (node : PyJson) :
    Inlined components stack node (inline components stack node) := by
  -- A reference that is followed leaves fewer references off the stack.
  induction hk : unvisited components stack using Nat.strongRecOn generalizing stack node with
  | ind k ihk =>
      induction node with
      | atom a => rw [inline_atom]; exact .atom a
      | str s => rw [inline_str]; exact .str s
      | list items ih => rw [inline_list]; exact .list ih
      | dict items ih =>
          cases href : componentRef (.dict items) with
          | none => rw [inline_dict href]; exact .dict href ih
          | some found =>
              obtain ⟨ref, named⟩ := found
              refine inlined_ref href fun c hfresh hc => ?_
              have hlt := unvisited_lt_of_definition href hfresh hc
              exact ihk _ (hk ▸ hlt) _ _ rfl

/-! ### How deep the calls go -/

/-- What some depth is enough for at each member of a list, one depth is enough for at all. -/
theorem exists_depth {α : Type} {P : α → Nat → Prop} {items : List α}
    (h : ∀ v ∈ items, ∃ depth, ∀ more, depth ≤ more → P v more) :
    ∃ depth, ∀ more, depth ≤ more → ∀ v ∈ items, P v more := by
  have heach : ∀ v ∈ {v | v ∈ items}, ∀ᶠ more in Filter.atTop, P v more :=
    fun v hv => Filter.eventually_atTop.mpr (h v hv)
  have hall := (Filter.eventually_all_finite (List.finite_toSet items)).mpr heach
  exact Filter.eventually_atTop.mp hall

/-- The first call counts too. -/
theorem exists_depth_succ {P : Nat → Prop} (h : ∃ depth, ∀ more, depth ≤ more → P (more + 1)) :
    ∃ depth, ∀ more, depth ≤ more → P more := by
  obtain ⟨depth, hdepth⟩ := h
  refine ⟨depth + 1, fun more hmore => ?_⟩
  obtain ⟨less, rfl⟩ : ∃ less, more = less + 1 := ⟨more - 1, by omega⟩
  exact hdepth less (by omega)

theorem mapM_eq_some_map {α β : Type} {f : α → Option β} {g : α → β} {items : List α}
    (h : ∀ v ∈ items, f v = some (g v)) : items.mapM f = some (items.map g) := by
  induction items with
  | nil => rfl
  | cons v rest ih =>
      rw [List.mapM_cons, h v List.mem_cons_self, ih fun w hw => h w (List.mem_cons_of_mem v hw)]
      rfl

theorem inlineCalls_ref {depth : Nat} {stack : List String} {node : PyJson} {ref : String}
    {named : String × String} (href : componentRef node = some (ref, named)) :
    inlineCalls components (depth + 1) stack node = if ref ∈ stack then some (cycle ref)
      else ((component components named).filter PyJson.truthy).elim (some (missing ref))
        (inlineCalls components depth (ref :: stack)) := by
  cases node with
  | dict items =>
      unfold inlineCalls
      simp only [href]
      cases (component components named).filter PyJson.truthy <;> rfl
  | _ => cases href

/-- From some depth on the calls come to the value of the derivation. -/
theorem Inlined.calls {stack : List String} {node v : PyJson}
    (h : Inlined components stack node v) :
    ∃ depth, ∀ more, depth ≤ more → inlineCalls components more stack node = some v := by
  induction h with
  | atom a => exact exists_depth_succ ⟨0, fun more _ => rfl⟩
  | str s => exact exists_depth_succ ⟨0, fun more _ => rfl⟩
  | list _ ih =>
      obtain ⟨depth, hdepth⟩ := exists_depth ih
      refine exists_depth_succ ⟨depth, fun more hmore => ?_⟩
      rw [inlineCalls, mapM_eq_some_map (hdepth more hmore)]
      rfl
  | @dict stack items result hplain _ ih =>
      obtain ⟨depth, hdepth⟩ := exists_depth ih
      refine exists_depth_succ ⟨depth, fun more hmore => ?_⟩
      rw [inlineCalls, hplain]
      simp only
      rw [mapM_eq_some_map (g := fun m => (m.1, result m.2)) fun m hm => ?_]
      · rfl
      · rw [hdepth more hmore m hm]
        rfl
  | definition href hfresh hc _ ih =>
      obtain ⟨depth, hdepth⟩ := ih
      refine exists_depth_succ ⟨depth, fun more hmore => ?_⟩
      rw [inlineCalls_ref href, if_neg hfresh, hc]
      exact hdepth more hmore
  | cycle href hmem =>
      refine exists_depth_succ ⟨0, fun more _ => ?_⟩
      rw [inlineCalls_ref href, if_pos hmem]
  | missing href hfresh hc =>
      refine exists_depth_succ ⟨0, fun more _ => ?_⟩
      rw [inlineCalls_ref href, if_neg hfresh, hc, Option.elim_none]

/-! ### What is left of the references -/

/-- The node is a reference to a component that is not empty. -/
def Names (components node c : PyJson) : Prop :=
  ∃ ref named, componentRef node = some (ref, named) ∧
    (component components named).filter PyJson.truthy = some c

/-- A dict with a reference under the key `$ref`, which leads to a text. -/
def HoldsTextRef (components : PyJson) (text : String) (dict : PyJson) : Prop :=
  ∃ inner, dict.get "$ref" = some inner ∧ Relation.TransGen (Names components) inner (.str text)

/-- The value stands in the node or in a component. -/
def StandsIn (components node v : PyJson) : Prop :=
  v.Within node ∨ ∃ named c, component components named = some c ∧ v.Within c

theorem Inlined.leads_to_text {stack : List String} {node v : PyJson} {text : String}
    (h : Inlined components stack node v) (hv : v = .str text) :
    node = .str text ∨ Relation.TransGen (Names components) node (.str text) := by
  induction h with
  | str s => exact Or.inl hv
  | definition href _ hc _ ih =>
      refine Or.inr ?_
      rcases ih hv with rfl | hleads
      · exact .single ⟨_, _, href, hc⟩
      · exact .head ⟨_, _, href, hc⟩ hleads
  | _ => cases hv

theorem componentRef_marker {key ref : String} (hkey : key ≠ "$ref") :
    componentRef (.dict [(key, .str ref)]) = none := by
  refine componentRef_plain ?_
  unfold localRef PyJson.get
  rw [PyJson.items, List.lookup_cons, beq_eq_false_iff_ne.mpr hkey.symm]
  rfl

/-- There is no reference in a marker. -/
theorem componentRef_of_within_marker {key ref : String} (hkey : key ≠ "$ref") {kept : PyJson}
    (h : kept.Within (.dict [(key, .str ref)])) : componentRef kept = none := by
  cases h with
  | self => exact componentRef_marker hkey
  | member hm h =>
      rw [List.mem_singleton.mp hm] at h
      cases h
      rfl

theorem localRef_congr {v w : PyJson} (h : v.get "$ref" = w.get "$ref") :
    localRef v = localRef w := by
  unfold localRef
  rw [h]

/-- **A reference that is left is a text that was put under the key `$ref`.** -/
theorem Inlined.left_over {stack : List String} {node v kept : PyJson} {ref : String}
    {named : String × String} (h : Inlined components stack node v) (hkept : kept.Within v)
    (href : componentRef kept = some (ref, named)) :
    ∃ dict, StandsIn components node dict ∧ HoldsTextRef components ref dict := by
  induction h with
  | atom a => cases hkept; cases href
  | str s => cases hkept; cases href
  | list _ ih =>
      cases hkept with
      | self => cases href
      | item hv hwithin =>
          obtain ⟨w, hw, rfl⟩ := List.mem_map.mp hv
          obtain ⟨dict, hstands, hholds⟩ := ih w hw hwithin
          exact ⟨dict, hstands.imp_left (.item hw), hholds⟩
  | @dict stack items result hplain h ih =>
      cases hkept with
      | self =>
          -- The dict itself was no reference, so what was under its `$ref` was no text.
          obtain ⟨hlocal, hnamed⟩ := componentRef_eq_some_iff.mp href
          have hget := (localRef_starts hlocal).1
          have hlookup := hget
          rw [PyJson.get, PyJson.items, PyJson.lookup_map, Option.map_eq_some_iff] at hlookup
          obtain ⟨inner, hinner, hresult⟩ := hlookup
          refine ⟨.dict items, Or.inl .self, inner, hinner, ?_⟩
          rcases (h _ (PyJson.mem_of_lookup hinner)).leads_to_text hresult with rfl | hleads
          · have hitems : (PyJson.dict items).get "$ref" = some (.str ref) := hinner
            have hsame : localRef (.dict items) = some ref :=
              (localRef_congr (hitems.trans hget.symm)).trans hlocal
            rw [componentRef_eq_some_iff.mpr ⟨hsame, hnamed⟩] at hplain
            cases hplain
          · exact hleads
      | member hm hwithin =>
          obtain ⟨m, hmem, rfl⟩ := List.mem_map.mp hm
          obtain ⟨dict, hstands, hholds⟩ := ih m hmem hwithin
          exact ⟨dict, hstands.imp_left (.member hmem), hholds⟩
  | definition _ _ hc _ ih =>
      obtain ⟨dict, hstands, hholds⟩ := ih hkept
      refine ⟨dict, Or.inr ?_, hholds⟩
      rcases hstands with hwithin | hstands
      · exact ⟨_, _, (Option.filter_eq_some_iff.mp hc).1, hwithin⟩
      · exact hstands
  | cycle =>
      rw [componentRef_of_within_marker (by decide) hkept] at href
      cases href
  | missing =>
      rw [componentRef_of_within_marker (by decide) hkept] at href
      cases href

end

/-- **Inlining ends, and replaces the references.**  Whatever the components refer to, some depth
of calls is enough.  Each reference that the calls meet is replaced by its definition or by a
marker, as the derivation says.  A reference that is in the value all the same is a text: a dict
of the node or of a component holds, under the key `$ref`, a reference that leads to it. -/
theorem inline_closed (components : PyJson) (stack : List String) (node : PyJson) :
    (∃ depth, ∀ more, depth ≤ more →
      inlineCalls components more stack node = some (inline components stack node)) ∧
    Inlined components stack node (inline components stack node) ∧
    ∀ kept ref named, kept.Within (inline components stack node) →
      componentRef kept = some (ref, named) →
      ∃ dict, StandsIn components node dict ∧ HoldsTextRef components ref dict := by
  have h := inlined_inline components stack node
  exact ⟨h.calls, h, fun _ _ _ => h.left_over⟩

/-- A schema that has itself in it. -/
example : inlineCalls (.dict [("schemas", .dict [("Node",
      .dict [("next", .dict [("$ref", .str "#/components/schemas/Node")])])])]) 3 []
      (.dict [("$ref", .str "#/components/schemas/Node")])
    = some (.dict [("next", cycle "#/components/schemas/Node")]) := by
  rfl

/-! ### A reference that inlining makes -/

/-- Two schemas, the first of them a text that names the second. -/
def textComponents : PyJson :=
  .dict [("schemas", .dict [("A", .str "#/components/schemas/B"),
    ("B", .dict [("type", .str "object")])])]

/-- A dict with a reference to the text under the key `$ref`. -/
def heldRef : PyJson := .dict [("$ref", .dict [("$ref", .str "#/components/schemas/A")])]

private theorem heldRef_inlined :
    inline textComponents [] heldRef = .dict [("$ref", .str "#/components/schemas/B")] := by
  have hinner : componentRef (.dict [("$ref", .str "#/components/schemas/A")])
      = some ("#/components/schemas/A", "schemas", "A") := by rfl
  have htext : (component textComponents ("schemas", "A")).filter PyJson.truthy
      = some (.str "#/components/schemas/B") := by rfl
  unfold heldRef
  rw [inline_dict (by rfl), List.map_singleton, inline_ref hinner,
    if_neg List.not_mem_nil, htext]
  simp only
  rw [inline_str]

/-- What comes of it is a reference to a schema that is there and is not empty. -/
theorem heldRef_left : ∃ kept ref named c, kept.Within (inline textComponents [] heldRef) ∧
    componentRef kept = some (ref, named) ∧ component textComponents named = some c ∧
    c.truthy = true := by
  refine ⟨.dict [("$ref", .str "#/components/schemas/B")], "#/components/schemas/B",
    ("schemas", "B"), .dict [("type", .str "object")], ?_, by rfl, by rfl, by rfl⟩
  rw [heldRef_inlined]
  exact .self

end SdcMcp.SpecDrift
