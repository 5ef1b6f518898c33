/-
What the references of an OpenAPI document denote, and what `_inline` shows of it.

A document is a graph: a dict whose `$ref` points into the components is a
reference, and every other value is a node.  Its unfolding replaces references by
what they denote, recursive schemas included, and so need not be finite.

`_inline` is an outline of that graph.  It follows a reference that names a
component, unless it is following it already or the component is falsy; it puts a
marker where it stops, and leaves a deeper pointer as the dict it is.  `inline_writes`
is the connection: the value `_inline` returns has the labels the outline shows.
-/
import SdcMcp.Lib.Unfolding
import SdcMcp.Model.SpecDrift

namespace SdcMcp.SpecDrift

/-! ### The graph of a document -/

/-- One step down from a dict or a list. -/
inductive Step where
  | key (k : String)
  | item (i : Nat)

/-- What a value is, apart from its children. -/
inductive Label where
  | atom (a : Atom)
  | str (s : String)
  | list (length : Nat)
  | dict (keys : List String)
  /-- A reference that denotes nothing. -/
  | dangling (ref : String)

def label : PyJson → Label
  | .atom a => .atom a
  | .str s => .str s
  | .list items => .list items.length
  | .dict items => .dict (items.map Prod.fst)

def child : PyJson → Step → Option PyJson
  | .dict items, .key k => items.lookup k
  | .list items, .item i => items[i]?
  | _, _ => none

def hexValue (byte : UInt8) : Option UInt8 :=
  if 48 ≤ byte ∧ byte ≤ 57 then some (byte - 48)
  else if 65 ≤ byte ∧ byte ≤ 70 then some (byte - 55)
  else if 97 ≤ byte ∧ byte ≤ 102 then some (byte - 87)
  else none

/-- The bytes of a part of a URI fragment. -/
def percentDecode : List UInt8 → List UInt8
  | 37 :: high :: low :: rest =>
      match hexValue high, hexValue low with
      | some h, some l => (16 * h + l) :: percentDecode rest
      | _, _ => 37 :: percentDecode (high :: low :: rest)
  | byte :: rest => byte :: percentDecode rest
  | [] => []

/-- `~1` is a slash and `~0` a tilde. -/
def unescapeToken : List UInt8 → List UInt8
  | 126 :: 49 :: rest => 47 :: unescapeToken rest
  | 126 :: 48 :: rest => 126 :: unescapeToken rest
  | byte :: rest => byte :: unescapeToken rest
  | [] => []

def tokenBytes (token : String) : List UInt8 := unescapeToken (percentDecode (Json.utf8 token))

/-- One step of a JSON pointer. -/
def pointed : PyJson → List UInt8 → Option PyJson
  | .dict items, token => (items.find? fun m => Json.utf8 m.1 = token).map Prod.snd
  | .list items, token =>
      ((List.range items.length).find? fun i => Json.utf8 (toString i) = token).bind (items[·]?)
  | _, _ => none

/-- The value that a reference into the components denotes: the component it names, or what
a deeper JSON pointer leads to. -/
def target (components : PyJson) (ref : String) : Option PyJson :=
  match kindAndName ref with
  | some named => component components named
  | none =>
      ((splitSlash ref).drop 2).foldlM (fun v token => pointed v (tokenBytes token)) components

@[reducible] def graph (components : PyJson) : RefGraph PyJson Step Label String where
  label := label
  child := child
  ref := localRef
  target := target components
  dangling := .dangling

/-! ### References that name a component -/

theorem componentRef_eq_some_iff {node : PyJson} {ref kind name : String} :
    componentRef node = some (ref, kind, name) ↔
      localRef node = some ref ∧ kindAndName ref = some (kind, name) := by
  simp only [componentRef, Option.bind_eq_some_iff, Option.map_eq_some_iff, Prod.mk.injEq]
  constructor
  · rintro ⟨_, href, _, hnamed, rfl, rfl⟩
    exact ⟨href, hnamed⟩
  · rintro ⟨href, hnamed⟩
    exact ⟨ref, href, (kind, name), hnamed, rfl, rfl⟩

theorem localRef_starts {node : PyJson} {ref : String} (h : localRef node = some ref) :
    node.get "$ref" = some (.str ref) ∧ "#/components/".toList <+: ref.toList := by
  obtain ⟨v, hv, htext⟩ := Option.bind_eq_some_iff.mp h
  obtain ⟨hstr, hstarts⟩ := Option.filter_eq_some_iff.mp htext
  cases v with
  | str s =>
      cases hstr
      exact ⟨hv, List.isPrefixOf_iff_prefix.mp hstarts⟩
  | _ => cases hstr

theorem splitSlash_local {text : String} {rest : List Char}
    (h : text.toList = "#/components/".toList ++ rest) :
    splitSlash text = "#" :: "components" :: (rest.splitOn '/').map String.ofList := by
  have htext : text.toList = "#".toList ++ '/' :: ("components".toList ++ '/' :: rest) := h
  unfold splitSlash
  rw [htext, List.splitOn_append_cons_self_of_not_mem (by decide),
    List.splitOn_append_cons_self_of_not_mem (by decide), List.map_cons, List.map_cons,
    String.ofList_toList, String.ofList_toList]

/-- A reference with a kind and a name is the one that is written with them. -/
theorem ref_eq_of_kindAndName {ref kind name : String}
    (hstarts : "#/components/".toList <+: ref.toList) (h : kindAndName ref = some (kind, name)) :
    ref = "#/components/" ++ kind ++ "/" ++ name := by
  obtain ⟨rest, hrest⟩ := hstarts
  unfold kindAndName at h
  rw [splitSlash_local hrest.symm] at h
  have hjoin : ['/'].intercalate (rest.splitOn '/') = rest := List.intercalate_splitOn '/'
  rcases hsplit : rest.splitOn '/' with _ | ⟨k, _ | ⟨n, _ | ⟨x, xs⟩⟩⟩
  · rw [hsplit] at h
    cases h
  · rw [hsplit] at h
    cases h
  · rw [hsplit] at h hjoin
    simp only [List.map_cons, List.map_nil, if_pos, Option.some.injEq, Prod.mk.injEq] at h
    obtain ⟨rfl, rfl⟩ := h
    refine String.toList_inj.mp ?_
    rw [← hrest, ← hjoin]
    simp [List.intercalate]
  · rw [hsplit] at h
    cases h

theorem mem_references {components c : PyJson} {kind name : String}
    (h : component components (kind, name) = some c) :
    "#/components/" ++ kind ++ "/" ++ name ∈ references components := by
  unfold component at h
  cases hkind : components.get kind with
  | none => rw [hkind] at h; cases h
  | some group =>
      rw [hkind] at h
      refine List.mem_flatMap.mpr ⟨(kind, group), PyJson.mem_of_lookup hkind, ?_⟩
      exact List.mem_map.mpr ⟨(name, c), PyJson.mem_of_lookup h, rfl⟩

/-! ### The outline -/

/-- The reference that `_inline` follows from a node, with the component. -/
def next (components : PyJson) (stack : List String) (node : PyJson) :
    Option (String × PyJson) :=
  (componentRef node).bind fun ref =>
    if ref.1 ∈ stack then none
    else ((component components ref.2).filter PyJson.truthy).map fun resolved => (ref.1, resolved)

/-- What `_inline` puts at a node from which it follows nothing. -/
def shown (stack : List String) (node : PyJson) : PyJson :=
  match componentRef node with
  | some ref => if ref.1 ∈ stack then cycle ref.1 else missing ref.1
  | none => node

theorem shown_ref {stack : List String} {node : PyJson} {ref : String}
    {named : String × String} (h : componentRef node = some (ref, named)) :
    shown stack node = if ref ∈ stack then cycle ref else missing ref := by
  unfold shown
  rw [h]

theorem shown_plain {stack : List String} {node : PyJson} (h : componentRef node = none) :
    shown stack node = node := by
  unfold shown
  rw [h]

theorem componentRef_plain {node : PyJson} (h : localRef node = none) :
    componentRef node = none := by
  unfold componentRef
  rw [h]
  rfl

theorem next_eq_some_iff {components node c : PyJson} {stack : List String} {ref : String} :
    next components stack node = some (ref, c) ↔
      ∃ named, componentRef node = some (ref, named) ∧ ref ∉ stack ∧
        component components named = some c ∧ c.truthy = true := by
  unfold next
  cases hnode : componentRef node with
  | none => simp
  | some r =>
      obtain ⟨r, named⟩ := r
      simp only [Option.bind_some, Option.some.injEq, Prod.mk.injEq]
      by_cases hr : r ∈ stack
      · rw [if_pos hr]
        constructor
        · intro h
          cases h
        · rintro ⟨_, ⟨rfl, -⟩, hnot, -⟩
          exact absurd hr hnot
      · rw [if_neg hr]
        simp only [Option.map_eq_some_iff, Option.filter_eq_some_iff, Prod.mk.injEq]
        constructor
        · rintro ⟨_, ⟨hc, htruthy⟩, rfl, rfl⟩
          exact ⟨named, ⟨rfl, rfl⟩, hr, hc, htruthy⟩
        · rintro ⟨_, ⟨rfl, rfl⟩, -, hc, htruthy⟩
          exact ⟨c, ⟨hc, htruthy⟩, rfl, rfl⟩

/-- A component that is gone into is one fewer to go into. -/
theorem unvisited_lt {components node c : PyJson} {stack : List String} {ref : String}
    (h : next components stack node = some (ref, c)) :
    unvisited components (ref :: stack) < unvisited components stack := by
  obtain ⟨⟨kind, name⟩, hnode, hfresh, hc, -⟩ := next_eq_some_iff.mp h
  obtain ⟨hlocal, hnamed⟩ := componentRef_eq_some_iff.mp hnode
  have hmem : ref ∈ references components := by
    rw [ref_eq_of_kindAndName (localRef_starts hlocal).2 hnamed]
    exact mem_references hc
  obtain ⟨before, after, hsplit⟩ := List.append_of_mem hmem
  have hless : ∀ refs : List String, refs.countP (fun r => decide (r ∉ ref :: stack)) ≤
      refs.countP fun r => decide (r ∉ stack) := by
    intro refs
    refine List.countP_mono_left fun r _ hr => decide_eq_true fun hmem => ?_
    exact of_decide_eq_true hr (List.mem_cons_of_mem _ hmem)
  have hbefore := hless before
  have hafter := hless after
  unfold unvisited
  rw [hsplit, List.countP_append, List.countP_append, List.countP_cons_of_neg (by simp),
    List.countP_cons_of_pos (by simpa using hfresh)]
  omega

/-- The same for the definition of a reference. -/
theorem unvisited_lt_of_definition {components node c : PyJson} {stack : List String}
    {ref : String} {named : String × String} (href : componentRef node = some (ref, named))
    (hfresh : ref ∉ stack) (hc : (component components named).filter PyJson.truthy = some c) :
    unvisited components (ref :: stack) < unvisited components stack := by
  obtain ⟨hc, htruthy⟩ := Option.filter_eq_some_iff.mp hc
  exact unvisited_lt (next_eq_some_iff.mpr ⟨named, href, hfresh, hc, htruthy⟩)

@[reducible] def outline (components : PyJson) : Outline PyJson Step Label String where
  toRefGraph := graph components
  next := next components
  shown := shown
  rank := unvisited components
  next_ref := by
    intro stack node ref c h
    obtain ⟨⟨kind, name⟩, hnode, -⟩ := next_eq_some_iff.mp h
    exact (componentRef_eq_some_iff.mp hnode).1
  next_target := by
    intro stack node ref c h
    obtain ⟨⟨kind, name⟩, hnode, -, hc, -⟩ := next_eq_some_iff.mp h
    show target components ref = some c
    unfold target
    rw [(componentRef_eq_some_iff.mp hnode).2]
    exact hc
  shown_plain := by
    intro stack node hplain
    exact SpecDrift.shown_plain (componentRef_plain hplain)
  rank_lt := unvisited_lt

/-! ### `_inline` writes the outline out -/

section

variable {resolve : String × String × String → PyJson}

theorem walkList_eq (items : List PyJson) : walkList resolve items = items.map (walk resolve) := by
  induction items with
  | nil => rfl
  | cons v rest ih => rw [walkList, ih, List.map_cons]

theorem walkItems_eq (items : List (String × PyJson)) :
    walkItems resolve items = items.map fun m => (m.1, walk resolve m.2) := by
  induction items with
  | nil => rfl
  | cons m rest ih => rw [walkItems, ih, List.map_cons]

theorem walk_ref {node : PyJson} {ref : String × String × String}
    (h : componentRef node = some ref) : walk resolve node = resolve ref := by
  cases node with
  | dict items => rw [walk, h]
  | _ => cases h

theorem walk_dict {items : List (String × PyJson)} (h : componentRef (.dict items) = none) :
    walk resolve (.dict items) = .dict (items.map fun m => (m.1, walk resolve m.2)) := by
  rw [walk, h, ← walkItems_eq]

theorem walk_list (items : List PyJson) :
    walk resolve (.list items) = .list (items.map (walk resolve)) := by
  rw [walk, walkList_eq]

/-- Walking asks only for references that the node has somewhere. -/
theorem walk_congr {resolve' : String × String × String → PyJson}
    (h : ∀ node ref, componentRef node = some ref → resolve ref = resolve' ref) (node : PyJson) :
    walk resolve node = walk resolve' node := by
  induction node with
  | atom a => rfl
  | str s => rfl
  | list items ih =>
      rw [walk_list, walk_list]
      exact congrArg PyJson.list (List.map_congr_left ih)
  | dict items ih =>
      cases href : componentRef (.dict items) with
      | some ref => rw [walk_ref href, walk_ref href, h _ _ href]
      | none =>
          rw [walk_dict href, walk_dict href]
          refine congrArg PyJson.dict (List.map_congr_left fun m hm => ?_)
          rw [ih m hm]

/-- Away from references walking changes the children only. -/
theorem walk_label {node : PyJson} (h : componentRef node = none) :
    label (walk resolve node) = label node := by
  cases node with
  | dict items => rw [walk_dict h, label, label, List.map_map]; rfl
  | list items => rw [walk_list, label, label, List.length_map]
  | atom a => rfl
  | str s => rfl

theorem walk_child {node : PyJson} (h : componentRef node = none) (s : Step) :
    child (walk resolve node) s = (child node s).map (walk resolve) := by
  cases node with
  | dict items =>
      rw [walk_dict h]
      cases s with
      | key k => exact PyJson.lookup_map (walk resolve) k items
      | item i => rfl
  | list items =>
      rw [walk_list]
      cases s with
      | key k => rfl
      | item i => exact List.getElem?_map
  | atom a => cases s <;> rfl
  | str t => cases s <;> rfl

end

variable {components : PyJson}

/-- **Fuel for every component that is not on the stack is enough.** -/
theorem inlineWithin_succ {fuel : Nat} {stack : List String} {node : PyJson}
    (hfuel : unvisited components stack ≤ fuel) :
    inlineWithin components (fuel + 1) stack node = inlineWithin components fuel stack node := by
  induction fuel generalizing stack node with
  | zero =>
      refine walk_congr (fun n ref href => ?_) node
      by_cases hmem : ref.1 ∈ stack
      · rw [if_pos hmem, if_pos hmem]
      rw [if_neg hmem, if_neg hmem]
      cases hc : (component components ref.2).filter PyJson.truthy with
      | none => rfl
      | some c =>
          have hlt := unvisited_lt_of_definition href hmem hc
          omega
  | succ fuel ih =>
      refine walk_congr (fun n ref href => ?_) node
      by_cases hmem : ref.1 ∈ stack
      · rw [if_pos hmem, if_pos hmem]
      rw [if_neg hmem, if_neg hmem]
      cases hc : (component components ref.2).filter PyJson.truthy with
      | none => rfl
      | some c =>
          have hlt := unvisited_lt_of_definition href hmem hc
          exact ih (by omega)

theorem inlineWithin_eq_inline {fuel : Nat} {stack : List String} {node : PyJson}
    (hfuel : unvisited components stack ≤ fuel) :
    inlineWithin components fuel stack node = inline components stack node := by
  induction fuel, hfuel using Nat.le_induction with
  | base => rfl
  | succ fuel hle ih => rw [inlineWithin_succ hle, ih]

/-- At a reference to a component `_inline` goes on with the component or puts a marker. -/
theorem inline_ref {stack : List String} {node : PyJson} {ref : String} {named : String × String}
    (h : componentRef node = some (ref, named)) :
    inline components stack node = if ref ∈ stack then cycle ref else
      match (component components named).filter PyJson.truthy with
      | some resolved => inline components (ref :: stack) resolved
      | none => missing ref := by
  unfold inline
  cases hfuel : unvisited components stack with
  | zero =>
      rw [inlineWithin, walk_ref h]
      by_cases hmem : ref ∈ stack
      · rw [if_pos hmem, if_pos hmem]
      rw [if_neg hmem, if_neg hmem]
      cases hc : (component components named).filter PyJson.truthy with
      | none => rfl
      | some c =>
          have hlt := unvisited_lt_of_definition h hmem hc
          omega
  | succ fuel =>
      rw [inlineWithin, walk_ref h]
      by_cases hmem : ref ∈ stack
      · rw [if_pos hmem, if_pos hmem]
      simp only [if_neg hmem]
      cases hc : (component components named).filter PyJson.truthy with
      | none => rfl
      | some c =>
          have hlt := unvisited_lt_of_definition h hmem hc
          exact inlineWithin_eq_inline (by omega)

/-- Everywhere else it walks on. -/
theorem inline_plain (components : PyJson) (stack : List String) :
    ∃ resolve, ∀ node, inline components stack node = walk resolve node := by
  unfold inline
  cases unvisited components stack with
  | zero => exact ⟨_, fun node => rfl⟩
  | succ fuel => exact ⟨_, fun node => rfl⟩

theorem inline_atom (stack : List String) (a : Atom) :
    inline components stack (.atom a) = .atom a := by
  obtain ⟨resolve, hwalk⟩ := inline_plain components stack
  rw [hwalk, walk]

theorem inline_str (stack : List String) (s : String) :
    inline components stack (.str s) = .str s := by
  obtain ⟨resolve, hwalk⟩ := inline_plain components stack
  rw [hwalk, walk]

theorem inline_list (stack : List String) (nodes : List PyJson) :
    inline components stack (.list nodes) = .list (nodes.map (inline components stack)) := by
  obtain ⟨resolve, hwalk⟩ := inline_plain components stack
  rw [hwalk, walk_list]
  exact congrArg PyJson.list (List.map_congr_left fun v _ => (hwalk v).symm)

theorem inline_dict {stack : List String} {items : List (String × PyJson)}
    (h : componentRef (.dict items) = none) :
    inline components stack (.dict items)
      = .dict (items.map fun m => (m.1, inline components stack m.2)) := by
  obtain ⟨resolve, hwalk⟩ := inline_plain components stack
  rw [hwalk, walk_dict h]
  refine congrArg PyJson.dict (List.map_congr_left fun m _ => ?_)
  rw [hwalk]

theorem next_eq_none_iff {node : PyJson} {stack : List String} {ref : String}
    {named : String × String} (h : componentRef node = some (ref, named)) :
    next components stack node = none ↔
      ref ∈ stack ∨ (component components named).filter PyJson.truthy = none := by
  unfold next
  rw [h, Option.bind_some]
  by_cases hmem : ref ∈ stack
  · simp [hmem]
  · simp [hmem]

/-- Where nothing is followed, `_inline` returns what is shown with its children inlined. -/
theorem inline_stop {stack : List String} {node : PyJson}
    (hstop : next components stack node = none) :
    label (inline components stack node) = label (shown stack node) ∧
      ∀ s, child (inline components stack node) s
        = (child (shown stack node) s).map (inline components stack) := by
  obtain ⟨resolve, hwalk⟩ := inline_plain components stack
  cases hnode : componentRef node with
  | none =>
      rw [shown_plain hnode, hwalk]
      refine ⟨walk_label hnode, fun s => ?_⟩
      rw [walk_child hnode]
      exact Option.map_congr fun v _ => (hwalk v).symm
  | some ref =>
      obtain ⟨ref, named⟩ := ref
      have hmarker : ∀ key s, child (PyJson.dict [(key, .str ref)]) s
          = (child (PyJson.dict [(key, .str ref)]) s).map (inline components stack) := by
        intro key s
        cases s with
        | item i => rfl
        | key k =>
            have hfound : child (PyJson.dict [(key, .str ref)]) (.key k)
                = if (k == key) = true then some (.str ref) else none := by
              rw [child, List.lookup_cons]
              cases k == key <;> rfl
            rw [hfound]
            by_cases hk : (k == key) = true
            · rw [if_pos hk, Option.map_some, hwalk, walk]
            · rw [if_neg hk, Option.map_none]
      have heq : inline components stack node = shown stack node := by
        rw [inline_ref hnode, shown_ref hnode]
        rcases (next_eq_none_iff hnode).mp hstop with hmem | hc
        · rw [if_pos hmem, if_pos hmem]
        · rw [hc]
      rw [heq]
      refine ⟨rfl, fun s => ?_⟩
      rw [shown_ref hnode]
      by_cases hmem : ref ∈ stack
      · rw [if_pos hmem]
        exact hmarker "$cycle" s
      · rw [if_neg hmem]
        exact hmarker "$missing" s

theorem inline_writes (components : PyJson) :
    (outline components).Writes (inline components) where
  next := by
    intro stack node ref c h
    obtain ⟨named, hnode, hfresh, hc, htruthy⟩ := next_eq_some_iff.mp h
    rw [inline_ref hnode, if_neg hfresh, Option.filter_eq_some_iff.mpr ⟨hc, htruthy⟩]
  label := fun hstop => (inline_stop hstop).1
  child := fun hstop => (inline_stop hstop).2

/-- **What stands in an inlined node is what the outline shows there.** -/
theorem labelAt_inline {stack : List String} {node : PyJson} {p : List Step} {l : Label} :
    Outline.labelAt label child (inline components stack node) p = some l ↔
      (outline components).Seen stack node p l :=
  (inline_writes components).labelAt_eq_some_iff

/-! ### Values are determined by their labels -/

theorem labelAt_nil (v : PyJson) : Outline.labelAt label child v [] = some (label v) := rfl

theorem labelAt_cons (v : PyJson) (s : Step) (p : List Step) :
    Outline.labelAt label child v (s :: p)
      = (child v s).bind fun c => Outline.labelAt label child c p := rfl

private theorem lists_eq {xs ys : List PyJson}
    (ih : ∀ x ∈ xs, ∀ y, x.Ordered → y.Ordered → (∀ p, Outline.labelAt label child x p
      = Outline.labelAt label child y p) → x = y)
    (hx : ∀ x ∈ xs, x.Ordered) (hy : ∀ y ∈ ys, y.Ordered) (hlen : xs.length = ys.length)
    (h : ∀ (i : Nat) (p : List Step), (xs[i]?).bind (fun x => Outline.labelAt label child x p)
      = (ys[i]?).bind fun y => Outline.labelAt label child y p) : xs = ys := by
  refine List.ext_getElem hlen fun i hi hj => ?_
  refine ih _ (List.getElem_mem hi) _ (hx _ (List.getElem_mem hi)) (hy _ (List.getElem_mem hj)) ?_
  intro p
  have hp := h i p
  rw [List.getElem?_eq_getElem hi, List.getElem?_eq_getElem hj] at hp
  exact hp

/-- **Two ordered values with the same labels at the same places are equal.** -/
theorem eq_of_labelAt (v : PyJson) : ∀ w : PyJson, v.Ordered → w.Ordered →
    (∀ p, Outline.labelAt label child v p = Outline.labelAt label child w p) →
    v = w := by
  induction v with
  | atom a =>
      intro w _ _ h
      have hroot := h []
      rw [labelAt_nil, labelAt_nil, Option.some.injEq] at hroot
      cases w <;> cases hroot
      rfl
  | str s =>
      intro w _ _ h
      have hroot := h []
      rw [labelAt_nil, labelAt_nil, Option.some.injEq] at hroot
      cases w with
      | str t =>
          have hst : s = t := by simpa [label] using hroot
          rw [hst]
      | _ => cases hroot
  | list xs ih =>
      intro w hv hw h
      have hroot := h []
      rw [labelAt_nil, labelAt_nil, Option.some.injEq] at hroot
      cases w with
      | list ys =>
          have hlen : xs.length = ys.length := by simpa [label] using hroot
          refine congrArg PyJson.list (lists_eq ih (PyJson.ordered_list.mp hv)
            (PyJson.ordered_list.mp hw) hlen fun i p => ?_)
          exact h (.item i :: p)
      | _ => cases hroot
  | dict ms ih =>
      intro w hv hw h
      have hroot := h []
      rw [labelAt_nil, labelAt_nil, Option.some.injEq] at hroot
      cases w with
      | dict ns =>
          have hkeys : ms.map Prod.fst = ns.map Prod.fst := by simpa [label] using hroot
          obtain ⟨hms, hmo⟩ := PyJson.ordered_dict.mp hv
          obtain ⟨hns, hno⟩ := PyJson.ordered_dict.mp hw
          have hlen : ms.length = ns.length := by
            simpa only [List.length_map] using congrArg List.length hkeys
          refine congrArg PyJson.dict (List.ext_getElem hlen fun i hi hj => ?_)
          have hkey : ms[i].1 = ns[i].1 := by
            have := congrArg (fun keys => keys[i]?) hkeys
            simpa [List.getElem?_map, List.getElem?_eq_getElem hi, List.getElem?_eq_getElem hj]
              using this
          refine Prod.ext hkey (ih _ (List.getElem_mem hi) _ (hmo _ (List.getElem_mem hi))
            (hno _ (List.getElem_mem hj)) fun p => ?_)
          have hp := h (.key ms[i].1 :: p)
          rw [labelAt_cons, labelAt_cons] at hp
          have hfound : child (.dict ms) (.key ms[i].1) = some ms[i].2 :=
            PyJson.lookup_of_mem (PyJson.keys_nodup hms) (List.getElem_mem hi)
          have hfound' : child (.dict ns) (.key ms[i].1) = some ns[i].2 := by
            rw [hkey]
            exact PyJson.lookup_of_mem (PyJson.keys_nodup hns) (List.getElem_mem hj)
          rw [hfound, hfound'] at hp
          exact hp
      | _ => cases hroot

/-! ### Inlining keeps values ordered -/

theorem Ordered.walk {resolve : String × String × String → PyJson}
    (hresolve : ∀ node ref, componentRef node = some ref → (resolve ref).Ordered)
    {node : PyJson} (hnode : node.Ordered) : (walk resolve node).Ordered := by
  induction node with
  | atom a => exact PyJson.ordered_atom a
  | str s => exact PyJson.ordered_str s
  | list items ih =>
      rw [walk_list, PyJson.ordered_list]
      intro v hv
      obtain ⟨w, hw, rfl⟩ := List.mem_map.mp hv
      exact ih w hw (PyJson.ordered_list.mp hnode w hw)
  | dict items ih =>
      cases href : componentRef (.dict items) with
      | some ref =>
          rw [walk_ref href]
          exact hresolve _ _ href
      | none =>
          obtain ⟨hkeys, hitems⟩ := PyJson.ordered_dict.mp hnode
          rw [walk_dict href, PyJson.ordered_dict, List.map_map]
          refine ⟨hkeys, fun m hm => ?_⟩
          obtain ⟨n, hn, rfl⟩ := List.mem_map.mp hm
          exact ih n hn (hitems n hn)

theorem ordered_component {c : PyJson} {named : String × String}
    (hcomponents : components.Ordered) (h : component components named = some c) : c.Ordered := by
  unfold component at h
  cases hkind : components.get named.1 with
  | none => rw [hkind] at h; cases h
  | some group =>
      rw [hkind] at h
      exact (hcomponents.get hkind).get h

theorem ordered_marker (key ref : String) : (PyJson.dict [(key, .str ref)]).Ordered := by
  simp

theorem ordered_inlineWithin (hcomponents : components.Ordered) {fuel : Nat}
    {stack : List String} {node : PyJson} (hnode : node.Ordered) :
    (inlineWithin components fuel stack node).Ordered := by
  induction fuel generalizing stack node with
  | zero =>
      refine Ordered.walk (fun n ref _ => ?_) hnode
      by_cases hmem : ref.1 ∈ stack
      · rw [if_pos hmem]
        exact ordered_marker _ _
      · rw [if_neg hmem]
        exact ordered_marker _ _
  | succ fuel ih =>
      refine Ordered.walk (fun n ref _ => ?_) hnode
      by_cases hmem : ref.1 ∈ stack
      · rw [if_pos hmem]
        exact ordered_marker _ _
      rw [if_neg hmem]
      cases hc : (component components ref.2).filter PyJson.truthy with
      | none => exact ordered_marker _ _
      | some c => exact ih (ordered_component hcomponents (Option.filter_eq_some_iff.mp hc).1)

theorem ordered_inline (hcomponents : components.Ordered) {stack : List String} {node : PyJson}
    (hnode : node.Ordered) : (inline components stack node).Ordered :=
  ordered_inlineWithin hcomponents hnode

/-- Two nodes that are inlined to the same value are shown alike, and the other way round. -/
theorem inline_eq_iff {components' : PyJson} (hc : components.Ordered) (hc' : components'.Ordered)
    {n m : PyJson} (hn : n.Ordered) (hm : m.Ordered) :
    inline components [] n = inline components' [] m ↔
      ∀ p l, (outline components).Seen [] n p l ↔ (outline components').Seen [] m p l := by
  constructor
  · intro h p l
    rw [← labelAt_inline, ← labelAt_inline, h]
  · intro h
    refine eq_of_labelAt _ _ (ordered_inline hc hn) (ordered_inline hc' hm) fun p => ?_
    refine Option.ext fun l => ?_
    rw [labelAt_inline, labelAt_inline]
    exact h p l

end SdcMcp.SpecDrift
