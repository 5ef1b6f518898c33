/-
Which changes of a document the drift check keeps quiet about.

A document may say the same in other words: in another order of members or of
parameters, with a parameter listed by the path or by each operation, with another
parameter where every operation has its own, or with a definition in the place of a
reference to it.  `ItemRewrite` has one case for each, and for each case the body that
the fingerprint is taken of stays the same.  So nothing is reported after any number of
them, `no_drift_of_rewrites`.
-/
import SdcMcp.Lib.PyLoads
import SdcMcp.Lib.Sorting
import SdcMcp.Proofs.SpecDrift

namespace SdcMcp.SpecDrift

/-! ### Copies of definitions -/

/-- `_inline` comes upon the reference in a node. -/
inductive Meets (ref : String) : PyJson → Prop where
  | here {v : PyJson} {named : String × String} (h : componentRef v = some (ref, named)) :
      Meets ref v
  | item {items : List PyJson} {v : PyJson} (hv : v ∈ items) (h : Meets ref v) :
      Meets ref (.list items)
  | member {items : List (String × PyJson)} {m : String × PyJson}
      (hplain : componentRef (.dict items) = none) (hm : m ∈ items) (h : Meets ref m.2) :
      Meets ref (.dict items)

/-- The definition that a reference stands for, if there is one and it is not empty. -/
def definition (components : PyJson) (ref : String) : Option PyJson :=
  (kindAndName ref).bind fun named => (component components named).filter PyJson.truthy

/-- The definition behind the first reference has the second one in it. -/
def Leads (components : PyJson) (ref ref' : String) : Prop :=
  ∃ c, definition components ref = some c ∧ Meets ref' c

/-- The reference leads back to itself. -/
def OnCycle (components : PyJson) (ref : String) : Prop :=
  Relation.TransGen (Leads components) ref ref

/-- One reference to a component, at any depth, with a copy of the definition in its place.
A definition that is a string is not put under the key `$ref`, where it would be a reference
itself. -/
inductive Copied (components : PyJson) : PyJson → PyJson → Prop where
  | here {v c : PyJson} {ref : String} {named : String × String}
      (href : componentRef v = some (ref, named)) (hc : definition components ref = some c)
      (hcycle : ¬OnCycle components ref) : Copied components v c
  | item {front back : List PyJson} {v w : PyJson} (h : Copied components v w) :
      Copied components (.list (front ++ v :: back)) (.list (front ++ w :: back))
  | member {front back : List (String × PyJson)} {key : String} {v w : PyJson}
      (h : Copied components v w) (hkey : key = "$ref" → w.asStr = none) :
      Copied components (.dict (front ++ (key, v) :: back)) (.dict (front ++ (key, w) :: back))

/-! ### Parameters -/

/-- The name and the place of a parameter once it is resolved. -/
def resolvedIdentity (components param : PyJson) : Option String × Option String :=
  paramIdentity (inline components [] param)

/-- A parameter with a name and a place, neither of them empty. -/
def Named (components param : PyJson) : Prop :=
  ∃ name place, resolvedIdentity components param = (some name, some place) ∧ name ≠ "" ∧
    place ≠ ""

/-- Parameters with a name and a place each, no two of the same. -/
structure DistinctParams (components : PyJson) (params : List PyJson) : Prop where
  named : ∀ p ∈ params, Named components p
  distinct : (params.map (resolvedIdentity components)).Nodup

/-- No other parameter of the list has this one's name and place. -/
def Alone (components param : PyJson) (others : List PyJson) : Prop :=
  ∀ q ∈ others, resolvedIdentity components q ≠ resolvedIdentity components param

/-- The same members but for some keys. -/
def SameBut (keys : List String) (v w : PyJson) : Prop := ∀ key, key ∉ keys → v.get key = w.get key

/-- The parameters of a path item; without a list of them there are none. -/
def Lists (item : PyJson) (params : List PyJson) : Prop :=
  (item.get "parameters").getD (.list []) = .list params

/-- An operation that carries a list of parameters. -/
structure Carries (operation : PyJson) (params : List PyJson) : Prop where
  plain : operation.get "$ref" = none
  listed : operation.get "parameters" = some (.list params)

/-- An operation with another list of parameters. -/
structure Relisted (operation operation' : PyJson) (params params' : List PyJson) : Prop where
  before : Carries operation params
  after : Carries operation' params'
  rest : SameBut ["parameters"] operation operation'

/-! ### Rewrites -/

/-- A parameter of the path item moves down into the lists of all of its operations.  The
methods that the check looks at name operations; which other members do is left open. -/
structure MovedDown (components item item' : PyJson) (names : List String) (param : PyJson)
    (front back : List PyJson) : Prop where
  named : Named components param
  before : Lists item (front ++ param :: back)
  after : Lists item' (front ++ back)
  alone : Alone components param (front ++ back)
  methods : ∀ method : Method, method.name ∈ names
  operation : ∀ name ∈ names, ∀ operation, item.get name = some operation →
    ∃ operation' front' back', item'.get name = some operation' ∧
      Relisted operation operation' (front' ++ back') (front' ++ param :: back') ∧
      Alone components param (front' ++ back')
  absent : ∀ name ∈ names, item.get name = none → item'.get name = none
  rest : SameBut ("parameters" :: names) item item'

/-- One rewrite of a path item. -/
inductive ItemRewrite (components item item' : PyJson) : Prop where
  | operationOrder {name : String} {operation operation' : PyJson} {params params' : List PyJson}
      (hname : name ≠ "parameters") (hop : item.get name = some operation)
      (hop' : item'.get name = some operation') (hrest : SameBut [name] item item')
      (hlists : Relisted operation operation' params params')
      (hdistinct : DistinctParams components params) (hperm : params.Perm params')
  | itemOrder {params params' : List PyJson} (hlist : Lists item params)
      (hlist' : Lists item' params') (hrest : SameBut ["parameters"] item item')
      (hdistinct : DistinctParams components params) (hperm : params.Perm params')
  | moveDown {names : List String} {param : PyJson} {front back : List PyJson}
      (h : MovedDown components item item' names param front back)
  | moveUp {names : List String} {param : PyJson} {front back : List PyJson}
      (h : MovedDown components item' item names param front back)
  | overridden {param param' : PyJson} {front back : List PyJson}
      (hlist : Lists item (front ++ param :: back))
      (hlist' : Lists item' (front ++ param' :: back)) (hrest : SameBut ["parameters"] item item')
      (hsame : resolvedIdentity components param' = resolvedIdentity components param)
      (hops : ∀ (method : Method) operation, item.get method.name = some operation →
        ∃ params, Carries operation params ∧
          ∃ q ∈ params, resolvedIdentity components q = resolvedIdentity components param)
  | copyInOperation {name : String} {operation operation' : PyJson}
      (hname : name ≠ "parameters") (hop : item.get name = some operation)
      (hop' : item'.get name = some operation') (hrest : SameBut [name] item item')
      (hcopied : Copied components operation operation')
  | copyInParameter {param param' : PyJson} {front back : List PyJson}
      (hlist : Lists item (front ++ param :: back))
      (hlist' : Lists item' (front ++ param' :: back)) (hrest : SameBut ["parameters"] item item')
      (hcopied : Copied components param param')

/-- One path item of a document is rewritten. -/
structure PathRewrite (spec spec' : PyJson) (path : String) (item item' : PyJson) : Prop where
  rest : SameBut ["paths"] spec spec'
  others : ∀ other, other ≠ path → pathItem spec other = pathItem spec' other
  before : pathItem spec path = some item
  after : pathItem spec' path = some item'
  item : ItemRewrite (componentsOf spec) item item'

/-- One rewrite of a written document: the members of one object in another order, or a path
item of what is loaded. -/
inductive Rewrite (spec spec' : PyJson) : Prop where
  | members (h : PyJson.Shuffled spec spec')
  | item {path : String} {item item' : PyJson}
      (h : PathRewrite spec.load spec'.load path item item')

/-! ### A copy is inlined like the reference -/

section

variable {components : PyJson}

/-- Walking asks only for the references that are met. -/
private theorem walk_congr_of_meets {resolve resolve' : String × String × String → PyJson}
    {node : PyJson} (h : ∀ ref named, Meets ref node → kindAndName ref = some named →
      resolve (ref, named) = resolve' (ref, named)) : walk resolve node = walk resolve' node := by
  induction node with
  | atom a => rfl
  | str s => rfl
  | list items ih =>
      rw [walk_list, walk_list]
      refine congrArg PyJson.list (List.map_congr_left fun v hv => ?_)
      exact ih v hv fun ref named hmeets hnamed => h ref named (.item hv hmeets) hnamed
  | dict items ih =>
      cases href : componentRef (.dict items) with
      | some r =>
          obtain ⟨ref, named⟩ := r
          rw [walk_ref href, walk_ref href]
          exact h ref named (.here href) (componentRef_eq_some_iff.mp href).2
      | none =>
          rw [walk_dict href, walk_dict href]
          refine congrArg PyJson.dict (List.map_congr_left fun m hm => ?_)
          rw [ih m hm fun ref named hmeets hnamed => h ref named (.member href hm hmeets) hnamed]

/-- A reference that can be come upon from a node on. -/
def Reaches (components node : PyJson) (ref : String) : Prop :=
  ∃ first, Meets first node ∧ Relation.ReflTransGen (Leads components) first ref

/-- What stands on the stack matters only where it can be come upon again. -/
private theorem inlineWithin_congr {fuel : Nat} {S T : List String} {node : PyJson}
    (h : ∀ ref, Reaches components node ref → (ref ∈ S ↔ ref ∈ T)) :
    inlineWithin components fuel S node = inlineWithin components fuel T node := by
  induction fuel generalizing S T node with
  | zero =>
      refine walk_congr_of_meets fun ref named hmeets _ => ?_
      exact if_congr (h ref ⟨ref, hmeets, .refl⟩) rfl rfl
  | succ fuel ih =>
      refine walk_congr_of_meets fun ref named hmeets hnamed => ?_
      refine if_congr (h ref ⟨ref, hmeets, .refl⟩) rfl ?_
      cases hc : (component components named).filter PyJson.truthy with
      | none => rfl
      | some c =>
          refine ih fun ref' hreach => ?_
          obtain ⟨first, hfirst, hpath⟩ := hreach
          have hdef : definition components ref = some c := by
            unfold definition
            rw [hnamed]
            exact hc
          have hfrom : Reaches components node ref' :=
            ⟨ref, hmeets, Relation.ReflTransGen.head ⟨c, hdef, hfirst⟩ hpath⟩
          rw [List.mem_cons, List.mem_cons, h ref' hfrom]

private theorem inline_congr {S T : List String} {node : PyJson}
    (h : ∀ ref, Reaches components node ref → (ref ∈ S ↔ ref ∈ T)) :
    inline components S node = inline components T node := by
  have hleft := Nat.le_max_left (unvisited components S) (unvisited components T)
  have hright := Nat.le_max_right (unvisited components S) (unvisited components T)
  rw [← inlineWithin_eq_inline hleft, ← inlineWithin_eq_inline hright]
  exact inlineWithin_congr h

/-- A definition on no cycle is inlined alike behind its reference and in its place. -/
private theorem inline_definition {ref : String} {c : PyJson}
    (hc : definition components ref = some c) (hcycle : ¬OnCycle components ref) :
    inline components [ref] c = inline components [] c := by
  refine inline_congr fun ref' hreach => ?_
  refine iff_of_false ?_ List.not_mem_nil
  intro hmem
  obtain ⟨first, hfirst, hpath⟩ := hreach
  rw [List.mem_singleton.mp hmem] at hpath
  exact hcycle (Relation.TransGen.head' ⟨c, hc, hfirst⟩ hpath)

private theorem Copied.no_str {v w : PyJson} (h : Copied components v w) : v.asStr = none := by
  cases h with
  | here href hc hcycle =>
      cases v with
      | str s => cases href
      | _ => rfl
  | item h => rfl
  | member h hkey => rfl

/-- A dict is the same reference when neither value of the member is one. -/
private theorem componentRef_member {front back : List (String × PyJson)} {key : String}
    {v w : PyJson} (hv : v.asStr = none) (hw : key = "$ref" → w.asStr = none) :
    componentRef (.dict (front ++ (key, v) :: back))
      = componentRef (.dict (front ++ (key, w) :: back)) := by
  have hlocal : localRef (.dict (front ++ (key, v) :: back))
      = localRef (.dict (front ++ (key, w) :: back)) := by
    unfold localRef PyJson.get PyJson.items
    rw [List.lookup_append, List.lookup_append, List.lookup_cons, List.lookup_cons]
    cases front.lookup "$ref" with
    | some found => rfl
    | none =>
        by_cases hkey : key = "$ref"
        · rw [beq_iff_eq.mpr hkey.symm, Option.none_or, Option.none_or, Option.bind_some,
            Option.bind_some, hv, hw hkey]
        · rw [beq_eq_false_iff_ne.mpr (Ne.symm hkey)]
  unfold componentRef
  rw [hlocal]

private theorem inline_copied {v w : PyJson} (h : Copied components v w) :
    inline components [] v = inline components [] w := by
  induction h with
  | @here v c ref named href hc hcycle =>
      have hfilter : (component components named).filter PyJson.truthy = some c := by
        have hnamed := (componentRef_eq_some_iff.mp href).2
        unfold definition at hc
        rw [hnamed] at hc
        exact hc
      rw [inline_ref href, if_neg List.not_mem_nil, hfilter]
      exact inline_definition hc hcycle
  | item h ih =>
      rw [inline_list, inline_list, List.map_append, List.map_append, List.map_cons,
        List.map_cons, ih]
  | @member front back key v w h hkey ih =>
      have hsame := @componentRef_member front back key v w h.no_str hkey
      cases href : componentRef (.dict (front ++ (key, w) :: back)) with
      | some r =>
          rw [inline_ref (hsame.trans href), inline_ref href]
      | none =>
          rw [inline_dict (hsame.trans href), inline_dict href, List.map_append, List.map_append,
            List.map_cons, List.map_cons, ih]

/-! ### The merged parameters, sorted -/

private theorem sortParams_congr {params params' : List PyJson}
    (h : ∀ k, params.filter (fun p => sortKey p = k) = params'.filter fun p => sortKey p = k) :
    sortParams params = sortParams params' := by
  have htotal : Std.Total fun p q : PyJson => keyLe (sortKey p) (sortKey q) :=
    ⟨fun p q => keyLe_total _ _⟩
  have htrans : IsTrans PyJson fun p q => keyLe (sortKey p) (sortKey q) :=
    ⟨fun p q r hpq hqr => keyLe_trans hpq hqr⟩
  have hrefl : ∀ p q : PyJson, sortKey p = sortKey q → keyLe (sortKey p) (sortKey q) := by
    intro p q hkey
    rw [hkey]
    exact (keyLe_total _ _).elim id id
  exact Sorting.insertionSort_congr hrefl (fun p q => keyLe_antisymm) h

private theorem Named.sortKey_eq {p q : PyJson} (hp : Named components p)
    (h : sortKey q = sortKey (inline components [] p)) :
    paramIdentity q = resolvedIdentity components p := by
  obtain ⟨name, place, hid, hname, hplace⟩ := hp
  rw [hid]
  unfold resolvedIdentity at hid
  unfold sortKey at h
  rw [hid] at h
  obtain ⟨hin, hn⟩ := Prod.mk.inj h
  -- an absent name or place would sort as an empty one
  cases hq : paramIdentity q with
  | mk a b =>
      rw [hq] at hin hn
      cases a with
      | none => exact absurd hn.symm hname
      | some a =>
          cases b with
          | none => exact absurd hin.symm hplace
          | some b => rw [show a = name from hn, show b = place from hin]

/-- Distinct parameters have distinct places in the order. -/
private theorem DistinctParams.sortKeys_nodup {params : List PyJson}
    (h : DistinctParams components params) :
    ((params.map (inline components [])).map sortKey).Nodup := by
  rw [List.map_map]
  refine List.pairwise_map.mpr ((List.pairwise_map.mp h.distinct).imp_of_mem ?_)
  intro p q hp hq hne heq
  exact hne ((h.named q hq).sortKey_eq heq)

/-- The merged parameters of an operation, in their order. -/
private def sorted (opParams pathParams : List PyJson) : List PyJson :=
  sortParams (mergeParams opParams pathParams)

private theorem sorted_eq_nil {opParams pathParams : List PyJson} :
    sorted opParams pathParams = [] ↔ pathParams = [] ∧ opParams = [] :=
  sortParams_eq_nil.trans mergeParams_eq_nil

/-- Distinct parameters of an operation may come in any order. -/
private theorem sorted_operationOrder {params params' : List PyJson}
    (hdistinct : DistinctParams components params) (hperm : params.Perm params')
    (pathParams : List PyJson) : sorted (params.map (inline components [])) pathParams
      = sorted (params'.map (inline components [])) pathParams := by
  have hinlined := hperm.map (inline components [])
  refine sortParams_congr fun k => ?_
  unfold mergeParams
  rw [List.filter_append, List.filter_append,
    Sorting.filter_eq_of_perm hinlined hdistinct.sortKeys_nodup k]
  refine congrArg₂ _ rfl (congrArg _ (List.filter_congr fun p _ => ?_))
  exact decide_eq_decide.mpr (not_congr (hinlined.map paramIdentity).mem_iff)

/-- And so may those of a path item. -/
private theorem sorted_itemOrder {params params' : List PyJson}
    (hdistinct : DistinctParams components params) (hperm : params.Perm params')
    (opParams : List PyJson) : sorted opParams (params.map (inline components []))
      = sorted opParams (params'.map (inline components [])) := by
  have hfree : ((params.map (inline components [])).filter
      fun p => paramIdentity p ∉ opParams.map paramIdentity).Perm
        ((params'.map (inline components [])).filter
          fun p => paramIdentity p ∉ opParams.map paramIdentity) :=
    (hperm.map (inline components [])).filter _
  have hnd : (((params.map (inline components [])).filter
      fun p => paramIdentity p ∉ opParams.map paramIdentity).map sortKey).Nodup :=
    (List.filter_sublist.map sortKey).nodup hdistinct.sortKeys_nodup
  refine sortParams_congr fun k => ?_
  unfold mergeParams
  rw [List.filter_append, List.filter_append, Sorting.filter_eq_of_perm hfree hnd k]

private theorem mergeParams_kept {opParams front back : List PyJson} {param : PyJson}
    (h : paramIdentity param ∉ opParams.map paramIdentity) :
    mergeParams opParams (front ++ param :: back)
      = opParams ++ front.filter (fun t => paramIdentity t ∉ opParams.map paramIdentity)
        ++ param :: back.filter fun t => paramIdentity t ∉ opParams.map paramIdentity := by
  unfold mergeParams
  rw [List.filter_append, List.filter_cons_of_pos (by simpa using h), List.append_assoc]

/-- A parameter that is alone on either side counts the same on both. -/
private theorem sorted_moved {param : PyJson} {front back front' back' : List PyJson}
    (hnamed : Named components param) (halone : Alone components param (front ++ back))
    (halone' : Alone components param (front' ++ back')) :
    sorted ((front' ++ back').map (inline components []))
        ((front ++ param :: back).map (inline components []))
      = sorted ((front' ++ param :: back').map (inline components []))
        ((front ++ back).map (inline components [])) := by
  have hid : ∀ {ys : List PyJson}, Alone components param ys → ∀ t ∈ ys.map (inline components []),
      paramIdentity t ≠ resolvedIdentity components param := by
    intro ys hys t ht
    obtain ⟨y, hy, rfl⟩ := List.mem_map.mp ht
    exact hys y hy
  have hkept : paramIdentity (inline components [] param)
      ∉ ((front' ++ back').map (inline components [])).map paramIdentity := by
    intro hmem
    obtain ⟨t, ht, heq⟩ := List.mem_map.mp hmem
    exact hid halone' t ht heq
  -- the other parameters of the path are overridden alike in both documents
  have hfilter : ((front ++ back).map (inline components [])).filter (fun t => paramIdentity t
        ∉ ((front' ++ param :: back').map (inline components [])).map paramIdentity)
      = ((front ++ back).map (inline components [])).filter fun t => paramIdentity t
        ∉ ((front' ++ back').map (inline components [])).map paramIdentity := by
    refine List.filter_congr fun t ht => decide_eq_decide.mpr (not_congr ?_)
    have hne := hid halone t ht
    unfold resolvedIdentity at hne
    simp [hne]
  have hmap : ∀ xs ys : List PyJson, (xs ++ param :: ys).map (inline components [])
      = xs.map (inline components [])
        ++ inline components [] param :: ys.map (inline components []) := by
    intro xs ys
    rw [List.map_append, List.map_cons]
  have hafter : mergeParams ((front' ++ param :: back').map (inline components []))
        ((front ++ back).map (inline components []))
      = front'.map (inline components []) ++ inline components [] param ::
        (back'.map (inline components []) ++ ((front ++ back).map (inline components [])).filter
          fun t => paramIdentity t
            ∉ ((front' ++ back').map (inline components [])).map paramIdentity) := by
    unfold mergeParams
    rw [hfilter, hmap, List.append_assoc, List.cons_append]
  refine sortParams_congr fun k => ?_
  rw [hafter, hmap, mergeParams_kept hkept]
  refine Sorting.filter_eq_of_insert (by simp) ?_ k
  intro t ht hkey
  have hsame := hnamed.sortKey_eq hkey
  rcases List.mem_append.mp ht with ht | ht
  · rcases List.mem_append.mp ht with ht | ht
    · exact hid halone' t ht hsame
    · refine hid halone t ?_ hsame
      rw [List.map_append]
      exact List.mem_append_left _ (List.mem_filter.mp ht).1
  · refine hid halone t ?_ hsame
    rw [List.map_append]
    exact List.mem_append_right _ (List.mem_filter.mp ht).1

/-- An overridden parameter of the path item does not count. -/
private theorem sorted_overridden {param param' : PyJson} {opParams front back : List PyJson}
    (hsame : resolvedIdentity components param' = resolvedIdentity components param)
    (hover : resolvedIdentity components param ∈ opParams.map paramIdentity) :
    sorted opParams ((front ++ param :: back).map (inline components []))
      = sorted opParams ((front ++ param' :: back).map (inline components [])) := by
  have hdropped : ∀ p, resolvedIdentity components p = resolvedIdentity components param →
      mergeParams opParams ((front ++ p :: back).map (inline components []))
        = mergeParams opParams ((front ++ back).map (inline components [])) := by
    intro p hp
    have hmem : paramIdentity (inline components [] p) ∈ opParams.map paramIdentity := by
      rw [← hp] at hover
      exact hover
    unfold mergeParams
    rw [List.map_append, List.map_cons, List.filter_append,
      List.filter_cons_of_neg (by simpa using hmem), ← List.filter_append, ← List.map_append]
  unfold sorted
  rw [hdropped param rfl, hdropped param' hsame]

/-! ### The body of an operation -/

/-- The merged parameters are put into the body unless there are none. -/
private theorem operationBody_eq (pathParams : List PyJson) (operation : PyJson) :
    operationBody components pathParams operation
      = if sorted (parametersOf (inline components [] operation)) pathParams = []
        then inline components [] operation
        else .dict (SortedMap.insert "parameters"
          (.list (sorted (parametersOf (inline components [] operation)) pathParams))
            (inline components [] operation).items) :=
  (if_congr sorted_eq_nil rfl rfl).symm

/-- With the same operation the merged parameters make the body. -/
private theorem operationBody_congr {pathParams pathParams' : List PyJson} {operation : PyJson}
    (h : sorted (parametersOf (inline components [] operation)) pathParams
      = sorted (parametersOf (inline components [] operation)) pathParams') :
    operationBody components pathParams operation
      = operationBody components pathParams' operation := by
  rw [operationBody_eq, operationBody_eq, h]

private theorem Carries.body {operation : PyJson} {params : List PyJson}
    (h : Carries operation params) : inline components [] operation
      = .dict (operation.items.map fun m => (m.1, inline components [] m.2)) := by
  have hlisted := h.listed
  have hplain := componentRef_of_get_ref h.plain
  cases operation with
  | dict items => exact inline_dict hplain
  | _ => cases hlisted

private theorem Carries.parameters {operation : PyJson} {params : List PyJson}
    (h : Carries operation params) :
    parametersOf (inline components [] operation) = params.map (inline components []) := by
  unfold parametersOf
  rw [get_inline (componentRef_of_get_ref h.plain), h.listed, Option.map_some, Option.getD_some,
    inline_list]
  rfl

private theorem Ordered.items_sorted {v : PyJson} (h : v.Ordered) :
    (v.items.map Prod.fst).Pairwise (· < ·) := by
  cases v with
  | dict items => exact (PyJson.ordered_dict.mp h).1
  | _ => exact List.Pairwise.nil

/-- With the same merged parameters a relisted operation has the same body. -/
private theorem Relisted.operationBody_eq {operation operation' : PyJson}
    {params params' pathParams pathParams' : List PyJson}
    (h : Relisted operation operation' params params') (ho : operation.Ordered)
    (ho' : operation'.Ordered) (hsorted : sorted (params.map (inline components [])) pathParams
      = sorted (params'.map (inline components [])) pathParams') :
    operationBody components pathParams operation
      = operationBody components pathParams' operation' := by
  have hs := Ordered.items_sorted ho
  have hs' := Ordered.items_sorted ho'
  rw [SpecDrift.operationBody_eq, SpecDrift.operationBody_eq, h.before.parameters,
    h.after.parameters, hsorted, h.before.body, h.after.body]
  by_cases hnil : sorted (params'.map (inline components [])) pathParams' = []
  · -- neither lists a parameter, so nothing has changed
    have hparams : params = [] := List.map_eq_nil_iff.mp (sorted_eq_nil.mp (hsorted.trans hnil)).2
    have hparams' : params' = [] := List.map_eq_nil_iff.mp (sorted_eq_nil.mp hnil).2
    rw [if_pos hnil, if_pos hnil]
    have hitems : operation.items = operation'.items := by
      refine PyJson.items_ext hs hs' fun key => ?_
      by_cases hkey : key = "parameters"
      · have hbefore := h.before.listed
        have hafter := h.after.listed
        rw [hparams] at hbefore
        rw [hparams'] at hafter
        rw [hkey]
        exact hbefore.trans hafter.symm
      · exact h.rest key (by simpa using hkey)
    rw [hitems]
  · rw [if_neg hnil, if_neg hnil]
    have hrest : operation.items.filter (fun m => m.1 ≠ "parameters")
        = operation'.items.filter fun m => m.1 ≠ "parameters" := by
      refine PyJson.items_ext (hs.sublist (List.filter_sublist.map Prod.fst))
        (hs'.sublist (List.filter_sublist.map Prod.fst)) fun key => ?_
      rw [PyJson.lookup_filter_ne, PyJson.lookup_filter_ne]
      by_cases hkey : key = "parameters"
      · rw [if_pos hkey, if_pos hkey]
      · rw [if_neg hkey, if_neg hkey]
        exact h.rest key (by simpa using hkey)
    have hput : ∀ {items : List (String × PyJson)} (v : PyJson),
        (items.map Prod.fst).Pairwise (· < ·) →
        SortedMap.insert "parameters" v (items.map fun m => (m.1, inline components [] m.2))
          = SortedMap.insert "parameters" v ((items.filter fun m => m.1 ≠ "parameters").map
            fun m => (m.1, inline components [] m.2)) := by
      intro items v hitems
      rw [← SortedMap.insert_filter v (by rw [List.map_map]; exact hitems), List.filter_map]
      rfl
    refine congrArg PyJson.dict ?_
    show SortedMap.insert _ _ (operation.items.map _)
      = SortedMap.insert _ _ (operation'.items.map _)
    rw [hput _ hs, hput _ hs', hrest]

/-! ### A rewritten path item -/

private theorem Lists.shown {item : PyJson} {params : List PyJson} (h : Lists item params) :
    shownParams components item = params.map (inline components []) := by
  unfold shownParams
  rw [h, inline_list]
  rfl

private theorem shownParams_congr {item item' : PyJson}
    (h : item.get "parameters" = item'.get "parameters") :
    shownParams components item = shownParams components item' := by
  unfold shownParams
  rw [h]

private theorem name_ne_parameters (method : Method) : method.name ≠ "parameters" := by
  cases method <;> decide

/-- The bodies of the operations of a path item. -/
def bodies (components item : PyJson) (method : Method) : Option PyJson :=
  (item.get method.name).map (operationBody components (shownParams components item))

variable {item item' : PyJson}

/-- When only the parameters of the path item change, each operation is compared by itself. -/
private theorem bodies_of_rest (hrest : SameBut ["parameters"] item item') (method : Method)
    (h : ∀ operation, item.get method.name = some operation →
      sorted (parametersOf (inline components [] operation)) (shownParams components item)
        = sorted (parametersOf (inline components [] operation)) (shownParams components item')) :
    bodies components item method = bodies components item' method := by
  have hsame := hrest method.name (by simpa using name_ne_parameters method)
  unfold bodies
  rw [← hsame]
  exact Option.map_congr fun operation hop => operationBody_congr (h operation hop)

/-- When only one operation changes, it has to keep its body. -/
private theorem bodies_of_operation {name : String} {operation operation' : PyJson}
    (hname : name ≠ "parameters") (hop : item.get name = some operation)
    (hop' : item'.get name = some operation') (hrest : SameBut [name] item item')
    (hbody : ∀ pathParams, operationBody components pathParams operation
      = operationBody components pathParams operation') (method : Method) :
    bodies components item method = bodies components item' method := by
  have hshown : shownParams components item = shownParams components item' :=
    shownParams_congr (hrest "parameters" (by simpa using hname.symm))
  unfold bodies
  rw [hshown]
  by_cases hmethod : method.name = name
  · rw [hmethod, hop, hop', Option.map_some, Option.map_some, hbody]
  · rw [hrest method.name (by simpa using hmethod)]

private theorem MovedDown.bodies_eq {names : List String} {param : PyJson}
    {front back : List PyJson} (h : MovedDown components item item' names param front back)
    (hi : item.Ordered) (hi' : item'.Ordered) (method : Method) :
    bodies components item method = bodies components item' method := by
  unfold bodies
  rw [h.before.shown, h.after.shown]
  cases hop : item.get method.name with
  | none =>
      rw [h.absent method.name (h.methods method) hop]
      rfl
  | some operation =>
      obtain ⟨operation', front', back', hop', hlists, halone⟩ :=
        h.operation method.name (h.methods method) operation hop
      rw [hop', Option.map_some, Option.map_some]
      exact congrArg some (hlists.operationBody_eq (hi.get hop) (hi'.get hop')
        (sorted_moved h.named h.alone halone))

/-- **A rewrite of a path item keeps the body of every operation.** -/
theorem ItemRewrite.bodies_eq (h : ItemRewrite components item item') (hi : item.Ordered)
    (hi' : item'.Ordered) (method : Method) :
    bodies components item method = bodies components item' method := by
  cases h with
  | operationOrder hname hop hop' hrest hlists hdistinct hperm =>
      refine bodies_of_operation hname hop hop' hrest (fun pathParams => ?_) method
      exact hlists.operationBody_eq (hi.get hop) (hi'.get hop')
        (sorted_operationOrder hdistinct hperm pathParams)
  | itemOrder hlist hlist' hrest hdistinct hperm =>
      refine bodies_of_rest hrest method fun operation _ => ?_
      rw [hlist.shown, hlist'.shown]
      exact sorted_itemOrder hdistinct hperm _
  | moveDown h => exact h.bodies_eq hi hi' method
  | moveUp h => exact (h.bodies_eq hi' hi method).symm
  | overridden hlist hlist' hrest hsame hops =>
      refine bodies_of_rest hrest method fun operation hop => ?_
      obtain ⟨params, hcarries, q, hq, hover⟩ := hops method operation hop
      rw [hlist.shown, hlist'.shown, hcarries.parameters]
      refine sorted_overridden hsame ?_
      rw [← hover]
      exact List.mem_map_of_mem (List.mem_map_of_mem hq)
  | copyInOperation hname hop hop' hrest hcopied =>
      refine bodies_of_operation hname hop hop' hrest (fun pathParams => ?_) method
      unfold operationBody
      rw [inline_copied hcopied]
  | copyInParameter hlist hlist' hrest hcopied =>
      refine bodies_of_rest hrest method fun operation _ => ?_
      rw [hlist.shown, hlist'.shown, List.map_append, List.map_append, List.map_cons,
        List.map_cons, inline_copied hcopied]

end

/-! ### A rewritten document -/

section

variable [Crates] {old new : PyJson}

/-- The same version and the same prints. -/
structure PrintsAlike (old new : PyJson) : Prop where
  version : version old = version new
  prints : ∀ key, (fingerprints old).lookup key = (fingerprints new).lookup key

theorem PrintsAlike.trans {mid : PyJson} (h : PrintsAlike old mid) (h' : PrintsAlike mid new) :
    PrintsAlike old new :=
  ⟨h.version.trans h'.version, fun key => (h.prints key).trans (h'.prints key)⟩

theorem lookup_bodies {spec : PyJson} (h : spec.Ordered) (method : Method) (path : String) :
    (fingerprints spec).lookup (method.upper, path)
      = (pathItem spec path).bind fun item => (bodies (componentsOf spec) item method).map
          fingerprint := by
  rw [lookup_print h]
  refine Option.bind_congr fun item _ => ?_
  unfold bodies
  rw [Option.map_map]
  rfl

omit [Crates] in
private theorem pathItem_ordered {spec item : PyJson} {path : String} (h : spec.Ordered)
    (hitem : pathItem spec path = some item) : item.Ordered :=
  (ordered_getD h (by simp)).get hitem

theorem PathRewrite.printsAlike {path : String} {item item' : PyJson}
    (h : PathRewrite old new path item item') (hold : old.Ordered) (hnew : new.Ordered) :
    PrintsAlike old new := by
  have hget : ∀ key, key ≠ "paths" → old.get key = new.get key := by
    intro key hkey
    exact h.rest key (by simpa using hkey)
  have hcomponents : componentsOf old = componentsOf new := by
    unfold componentsOf
    rw [hget "components" (by decide)]
  have hversion : version old = version new := by
    unfold version
    rw [hget "info" (by decide)]
  have hcontract : docContract old = docContract new := by
    unfold docContract
    rw [hget "components" (by decide), hget "security" (by decide), hget "servers" (by decide)]
  refine ⟨hversion, lookup_eq_of_prints hcontract fun method other => ?_⟩
  rw [lookup_bodies hold, lookup_bodies hnew, ← hcomponents]
  by_cases hpath : other = path
  · have hbodies := h.item.bodies_eq (pathItem_ordered hold h.before)
      (pathItem_ordered hnew h.after) method
    rw [hpath, h.before, h.after, Option.bind_some, Option.bind_some, hbodies]
  · rw [h.others other hpath]

theorem Rewrite.printsAlike (h : Rewrite old new) : PrintsAlike old.load new.load := by
  cases h with
  | members h =>
      rw [h.load_eq]
      exact ⟨rfl, fun key => rfl⟩
  | item h => exact h.printsAlike (PyJson.ordered_load old) (PyJson.ordered_load new)

/-- What `diff` returns of documents without drift. -/
theorem diff_quiet {called : List (List String)} (h : (diff old new called).2 = false) :
    diff old new called = ("## SDC OpenAPI drift\n\nNo drift.", false) := by
  refine Prod.ext ?_ h
  unfold diff at h ⊢
  simp only at h ⊢
  rw [h]
  rfl

end

/-- **No rewrite is reported as drift.**  Whatever is rewritten in a document, and however
often, the check says of the old and the new one that there is no drift. -/
theorem no_drift_of_rewrites [Crates] (old new : PyJson)
    (h : Relation.ReflTransGen Rewrite old new) (called : List (List String)) :
    diff old.load new.load called = ("## SDC OpenAPI drift\n\nNo drift.", false) := by
  have halike : PrintsAlike old.load new.load := by
    induction h with
    | refl => exact ⟨rfl, fun key => rfl⟩
    | tail _ hstep ih => exact ih.trans hstep.printsAlike
  exact diff_quiet (not_drifted_iff_lookup.mpr ⟨halike.version, halike.prints⟩)

/-! ### A listing in other words -/

def limitParam : PyJson := .dict [("in", .str "query"), ("name", .str "limit")]

def offsetParam : PyJson := .dict [("in", .str "query"), ("name", .str "offset")]

def limitRef : PyJson := .dict [("$ref", .str "#/components/parameters/Limit")]

def listingItem (opParams itemParams : List PyJson) : PyJson :=
  .dict [("get", .dict [("parameters", .list opParams), ("responses", .dict [])]),
    ("parameters", .list itemParams)]

def listingComponents : PyJson := .dict [("parameters", .dict [("Limit", limitParam)])]

/-- What the document has besides its paths. -/
def listingMembers : List (String × PyJson) :=
  [("components", listingComponents),
    ("info", .dict [("title", .str "t"), ("version", .str "1.0.0")]), ("openapi", .str "3.0.0")]

def listingSpec (item : PyJson) : PyJson :=
  .dict (listingMembers ++ ("paths", .dict [("/api/v1/devices", item)]) :: [])

/-- The document of a listing, its members written the other way round. -/
def listingReversed (item : PyJson) : PyJson :=
  .dict (listingMembers ++ [("paths", PyJson.dict [("/api/v1/devices", item)])]).reverse

private theorem query_ordered (name : String) :
    (PyJson.dict [("in", .str "query"), ("name", .str name)]).Ordered := by
  have hkeys : (["in", "name"] : List String).Pairwise (· < ·) := by decide +kernel
  exact PyJson.ordered_dict.mpr ⟨hkeys, by simp⟩

private theorem listingItem_ordered {opParams itemParams : List PyJson}
    (hop : ∀ p ∈ opParams, p.Ordered) (hitem : ∀ p ∈ itemParams, p.Ordered) :
    (listingItem opParams itemParams).Ordered := by
  have hopKeys : (["parameters", "responses"] : List String).Pairwise (· < ·) := by decide +kernel
  have hitemKeys : (["get", "parameters"] : List String).Pairwise (· < ·) := by decide +kernel
  refine PyJson.ordered_dict.mpr ⟨hitemKeys, List.forall_mem_cons.mpr ⟨?_, by simpa using hitem⟩⟩
  exact PyJson.ordered_dict.mpr
    ⟨hopKeys, List.forall_mem_cons.mpr ⟨PyJson.ordered_list.mpr hop, by simp⟩⟩

private theorem listingSpec_load {item : PyJson} (h : item.Ordered) :
    (listingSpec item).load = listingSpec item := by
  have hkeys : (["components", "info", "openapi", "paths"] : List String).Pairwise (· < ·) := by
    decide +kernel
  have hmembers : ∀ m ∈ listingMembers, m.2.Ordered := by
    have hlimit : limitParam.Ordered := query_ordered "limit"
    have hcomponents : listingComponents.Ordered := by simpa [listingComponents] using hlimit
    have hinfo : (["title", "version"] : List String).Pairwise (· < ·) := by decide +kernel
    refine List.forall_mem_cons.mpr ⟨hcomponents, List.forall_mem_cons.mpr ⟨?_, by simp⟩⟩
    exact PyJson.ordered_dict.mpr ⟨hinfo, by simp⟩
  refine PyJson.load_eq_self (PyJson.ordered_dict.mpr ⟨hkeys, fun m hm => ?_⟩)
  rcases List.mem_append.mp hm with hm | hm
  · exact hmembers m hm
  · rw [List.mem_singleton.mp hm]
    simpa using h

private theorem sameBut_member (front back : List (String × PyJson)) (key : String)
    (v w : PyJson) :
    SameBut [key] (.dict (front ++ (key, v) :: back)) (.dict (front ++ (key, w) :: back)) := by
  intro other hother
  have hne : (other == key) = false := beq_eq_false_iff_ne.mpr (by simpa using hother)
  unfold PyJson.get PyJson.items
  rw [List.lookup_append, List.lookup_append, List.lookup_cons, List.lookup_cons, hne]

private theorem listing_rewrite {item item' : PyJson} (hold : item.Ordered)
    (hnew : item'.Ordered) (h : ItemRewrite listingComponents item item') :
    Rewrite (listingSpec item) (listingSpec item') := by
  have hpath : PathRewrite (listingSpec item) (listingSpec item') "/api/v1/devices" item item' := by
    refine ⟨sameBut_member listingMembers [] "paths" _ _, fun other hother => ?_, rfl, rfl, h⟩
    exact sameBut_member [] [] "/api/v1/devices" item item' other (by simpa using hother)
  rw [← listingSpec_load hold, ← listingSpec_load hnew] at hpath
  exact .item hpath

private theorem limit_identity :
    resolvedIdentity listingComponents limitParam = (some "limit", some "query") := by
  decide +kernel

private theorem offset_identity :
    resolvedIdentity listingComponents offsetParam = (some "offset", some "query") := by
  decide +kernel

private theorem limit_named : Named listingComponents limitParam :=
  ⟨"limit", "query", limit_identity, by decide, by decide⟩

/-- The reference to the parameter, with the parameter in its place. -/
private theorem listing_copied : ItemRewrite listingComponents
    (listingItem [offsetParam] [limitRef]) (listingItem [offsetParam] [limitParam]) := by
  have href : componentRef limitRef
      = some ("#/components/parameters/Limit", "parameters", "Limit") := by
    decide +kernel
  have hc : definition listingComponents "#/components/parameters/Limit" = some limitParam := rfl
  have hcycle : ¬OnCycle listingComponents "#/components/parameters/Limit" := by
    intro hcycle
    obtain ⟨ref, ⟨c, hdef, hmeets⟩, -⟩ := Relation.TransGen.head'_iff.mp hcycle
    rw [hc, Option.some.injEq] at hdef
    subst hdef
    have hstr : ∀ s, ¬Meets ref (.str s) := by
      intro s h
      cases h with
      | here h => cases h
    cases hmeets with
    | here h =>
        have hnone : componentRef limitParam = none := rfl
        rw [hnone] at h
        cases h
    | member hplain hm h =>
        rcases List.mem_cons.mp hm with rfl | hm
        · exact hstr _ h
        · rw [List.mem_singleton.mp hm] at h
          exact hstr _ h
  exact @ItemRewrite.copyInParameter _ _ _ limitRef limitParam [] [] rfl rfl
    (sameBut_member [_] [] "parameters" _ _) (.here href hc hcycle)

/-- The parameter of the path, listed by the operation. -/
private theorem listing_moved : ItemRewrite listingComponents
    (listingItem [offsetParam] [limitParam]) (listingItem [limitParam, offsetParam] []) := by
  have halone : Alone listingComponents limitParam [offsetParam] := by
    intro q hq
    rw [List.mem_singleton.mp hq, offset_identity, limit_identity]
    decide
  have hget : ∀ ops params, (listingItem ops params).get "get"
      = some (.dict [("parameters", .list ops), ("responses", .dict [])]) := fun _ _ => rfl
  have hother : ∀ ops params key, key ≠ "get" → key ≠ "parameters" →
      (listingItem ops params).get key = none := by
    intro ops params key hkey hkey'
    simp [listingItem, PyJson.get, PyJson.items, List.lookup_cons, beq_eq_false_iff_ne.mpr hkey,
      beq_eq_false_iff_ne.mpr hkey']
  have hnames : ∀ name ∈ METHODS.map Method.name, name ≠ "parameters" := by
    intro name hname
    obtain ⟨method, -, rfl⟩ := List.mem_map.mp hname
    exact name_ne_parameters method
  refine @ItemRewrite.moveDown _ _ _ (METHODS.map Method.name) limitParam [] []
    ⟨limit_named, rfl, rfl, fun q hq => absurd hq List.not_mem_nil, fun method => ?_,
      fun name hname operation hop => ?_, fun name hname hnone => ?_, fun key hkey => ?_⟩
  · cases method <;> decide
  · by_cases hname' : name = "get"
    · rw [hname', hget] at hop
      cases hop
      refine ⟨_, [], [offsetParam], by rw [hname', hget], ⟨⟨rfl, rfl⟩, ⟨rfl, rfl⟩, ?_⟩, halone⟩
      exact sameBut_member [] _ "parameters" _ _
    · rw [hother _ _ name hname' (hnames name hname)] at hop
      cases hop
  · by_cases hname' : name = "get"
    · rw [hname', hget] at hnone
      cases hnone
    · exact hother _ _ name hname' (hnames name hname)
  · rw [List.mem_cons, not_or] at hkey
    have hkey' : key ≠ "get" := by
      rintro rfl
      exact hkey.2 (by decide)
    rw [hother _ _ key hkey' hkey.1, hother _ _ key hkey' hkey.1]

/-- The two parameters, the other way round. -/
private theorem listing_reordered : ItemRewrite listingComponents
    (listingItem [limitParam, offsetParam] []) (listingItem [offsetParam, limitParam] []) := by
  have hdistinct : DistinctParams listingComponents [limitParam, offsetParam] := by
    refine ⟨?_, ?_⟩
    · intro p hp
      rcases List.mem_cons.mp hp with rfl | hp
      · exact limit_named
      · rw [List.mem_singleton.mp hp]
        exact ⟨"offset", "query", offset_identity, by decide, by decide⟩
    · rw [List.map_cons, List.map_cons, List.map_nil, limit_identity, offset_identity]
      decide
  exact @ItemRewrite.operationOrder _ _ _ "get" _ _ _ _ (by decide) rfl rfl
    (sameBut_member [] [_] "get" _ _)
    ⟨⟨rfl, rfl⟩, ⟨rfl, rfl⟩, sameBut_member [] _ "parameters" _ _⟩ hdistinct
    (List.Perm.swap _ _ _)

private theorem listing_written (item : PyJson) :
    Rewrite (listingSpec item) (listingReversed item) := by
  have hnd : (["components", "info", "openapi", "paths"] : List String).Nodup := by decide
  exact .members (.here hnd (List.reverse_perm _).symm)

/-- A reference is replaced, a parameter moved, the list reordered and the document written the
other way round, and there is no drift. -/
theorem listing_quiet : ∃ _ : Crates,
    diff (listingSpec (listingItem [offsetParam] [limitRef])).load
        (listingReversed (listingItem [offsetParam, limitParam] [])).load []
      = ("## SDC OpenAPI drift\n\nNo drift.", false) := by
  have hnil : ∀ p ∈ ([] : List PyJson), p.Ordered := fun p hp => absurd hp List.not_mem_nil
  have hlimit : ∀ p ∈ [limitParam], p.Ordered :=
    List.forall_mem_cons.mpr ⟨query_ordered "limit", hnil⟩
  have hoffset : ∀ p ∈ [offsetParam], p.Ordered :=
    List.forall_mem_cons.mpr ⟨query_ordered "offset", hnil⟩
  have href : ∀ p ∈ [limitRef], p.Ordered :=
    List.forall_mem_cons.mpr ⟨ordered_marker "$ref" "#/components/parameters/Limit", hnil⟩
  have hboth : ∀ p ∈ [limitParam, offsetParam], p.Ordered :=
    List.forall_mem_cons.mpr ⟨query_ordered "limit", hoffset⟩
  have hswapped : ∀ p ∈ [offsetParam, limitParam], p.Ordered :=
    List.forall_mem_cons.mpr ⟨query_ordered "offset", hlimit⟩
  have hcopied := listing_rewrite (listingItem_ordered hoffset href)
    (listingItem_ordered hoffset hlimit) listing_copied
  have hmoved := listing_rewrite (listingItem_ordered hoffset hlimit)
    (listingItem_ordered hboth hnil) listing_moved
  have hreordered := listing_rewrite (listingItem_ordered hboth hnil)
    (listingItem_ordered hswapped hnil) listing_reordered
  have hchain := ((Relation.ReflTransGen.single hcopied).tail hmoved).tail hreordered
  exact ⟨Tables.crates ⟨[], []⟩, @no_drift_of_rewrites (Tables.crates ⟨[], []⟩) _ _
    (hchain.tail (listing_written _)) []⟩

end SdcMcp.SpecDrift
