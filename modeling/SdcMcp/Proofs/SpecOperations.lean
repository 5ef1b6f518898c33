/-
The operations of an OpenAPI document, what they denote and what the drift check
shows of them.

An operation denotes its members other than `parameters`, unfolded, together with
its effective parameters: those of the operation and those of the path that the
operation has none for of the same name and place.  The check sees the outline of
the same members, and it sees a parameter by the name and place it reads in the
outline, or by the reference it stops at.

`same_of_alike` is the connection: operations that are shown alike and agree
below the cuts denote the same.
-/
import SdcMcp.Proofs.SpecOutline
import Mathlib.Data.List.Pairwise

namespace SdcMcp.SpecDrift

/-! ### OpenAPI documents -/

/-- Where the parameters of an operation may be. -/
def locations : List String := ["query", "header", "path", "cookie"]

/-- A parameter object with a name and a place, or a reference object that leads to one. -/
inductive IsParameter (components : PyJson) : PyJson → String → String → Prop
  | value {v : PyJson} {name place : String} (href : v.get "$ref" = none)
      (hmissing : v.get "$missing" = none) (hname : v.get "name" = some (.str name))
      (hplace : v.get "in" = some (.str place)) (hlocation : place ∈ locations) :
      IsParameter components v name place
  | reference {v c : PyJson} {ref name place : String} (href : localRef v = some ref)
      (hmissing : v.get "$missing" = none) (htarget : target components ref = some c)
      (h : IsParameter components c name place) : IsParameter components v name place

/-- A list of parameters, no two of the same name and place. -/
structure IsParameters (components : PyJson) (nodes : List PyJson) : Prop where
  parameter : ∀ n ∈ nodes, ∃ name place, IsParameter components n name place
  distinct : nodes.Pairwise fun n m => ∀ name place,
    IsParameter components n name place → ¬IsParameter components m name place

/-- The parameters that a path or an operation lists. -/
def parametersOf (v : PyJson) : List PyJson := ((v.get "parameters").getD (.list [])).elements

/-- The `parameters` of a path or an operation, if there are any, are a list of parameters. -/
def ListsParameters (components v : PyJson) : Prop :=
  ∀ listed, v.get "parameters" = some listed →
    ∃ nodes, listed = .list nodes ∧ IsParameters components nodes

structure IsOperation (components operation : PyJson) : Prop where
  dict : ∃ items, operation = .dict items
  plain : operation.get "$ref" = none
  parameters : ListsParameters components operation

structure IsPathItem (components item : PyJson) : Prop where
  dict : ∃ items, item = .dict items
  parameters : ListsParameters components item
  operation : ∀ (method : Method) operation, item.get method.name = some operation →
    IsOperation components operation

def componentsOf (spec : PyJson) : PyJson := (spec.get "components").getD (.dict [])

/-- What the drift check relies on in an OpenAPI document. -/
structure OpenApi (spec : PyJson) : Prop where
  ordered : spec.Ordered
  version : ∃ info text, spec.get "info" = some info ∧ info.get "version" = some (.str text)
  /-- Only extensions may be something else than a dict of components. -/
  components : ∃ kinds, componentsOf spec = .dict kinds ∧
    ∀ kind ∈ kinds, "x-".toList <+: kind.1.toList ∨ ∃ named, kind.2 = .dict named
  paths : ∃ items, spec.get "paths" = some (.dict items) ∧
    ∀ path ∈ items, IsPathItem (componentsOf spec) path.2

/-! ### What an operation denotes and what is shown of it -/

/-- An operation of a document with what it depends on. -/
structure Endpoint where
  components : PyJson
  operation : PyJson
  pathParams : List PyJson

def endpointAt (spec : PyJson) (path : String) (method : Method) : Option Endpoint :=
  (((spec.get "paths").getD (.dict [])).get path).bind fun item =>
    (item.get method.name).map fun operation =>
      { components := componentsOf spec, operation, pathParams := parametersOf item }

namespace Endpoint

def opParams (e : Endpoint) : List PyJson := parametersOf e.operation

/-- The operation without its parameters. -/
def body (e : Endpoint) : PyJson :=
  .dict (e.operation.items.filter fun m => m.1 ≠ "parameters")

/-- The parameters that count, when `Id` says which name and place a parameter has. -/
def Effective (e : Endpoint) (Id : PyJson → String → String → Prop) (n : PyJson) : Prop :=
  n ∈ e.opParams ∨
    n ∈ e.pathParams ∧ ∀ o ∈ e.opParams, ∀ name place, Id o name place → ¬Id n name place

/-- A label at a place of the effective parameter of some name and place. -/
def ParamAt (e : Endpoint) (Id : PyJson → String → String → Prop)
    (At : PyJson → List Step → Label → Prop) (name place : String) (p : List Step) (l : Label) :
    Prop :=
  ∃ n, e.Effective Id n ∧ Id n name place ∧ At n p l

/-- A label in the unfolding of a node. -/
def Denotes (e : Endpoint) (n : PyJson) (p : List Step) (l : Label) : Prop :=
  (graph e.components).At n p l

def Identity (e : Endpoint) (n : PyJson) (name place : String) : Prop :=
  e.Denotes n [.key "name"] (.str name) ∧ e.Denotes n [.key "in"] (.str place)

/-- A label in the outline of a node. -/
def Shows (e : Endpoint) (n : PyJson) (p : List Step) (l : Label) : Prop :=
  (outline e.components).Seen [] n p l

/-- The name and place that are shown of a parameter, or the reference it is shown as. -/
def ShownIdentity (e : Endpoint) (n : PyJson) (name place : String) : Prop :=
  (name = "$ref" ∧ e.Shows n [.key "$ref"] (.str place)) ∨
    ((∀ l, ¬e.Shows n [.key "$ref"] l) ∧ e.Shows n [.key "name"] (.str name) ∧
      e.Shows n [.key "in"] (.str place))

/-- The same effective parameters: the same names and places, and each unfolds alike. -/
def SameParams (e f : Endpoint) : Prop := ∀ name place p l,
  e.ParamAt e.Identity e.Denotes name place p l ↔ f.ParamAt f.Identity f.Denotes name place p l

/-- **Two operations denote the same**, up to the order of members and of parameters. -/
structure Same (e f : Endpoint) : Prop where
  body : ∀ p l, e.Denotes e.body p l ↔ f.Denotes f.body p l
  parameters : e.SameParams f

/-- The same parameters are shown: the same identities, and each with the same outline. -/
def AlikeParams (e f : Endpoint) : Prop := ∀ name place p l,
  e.ParamAt e.ShownIdentity e.Shows name place p l ↔
    f.ParamAt f.ShownIdentity f.Shows name place p l

/-- Two operations are shown alike. -/
structure Alike (e f : Endpoint) : Prop where
  body : ∀ p l, e.Shows e.body p l ↔ f.Shows f.body p l
  parameters : e.AlikeParams f
  /-- Without a parameter an operation may still list none. -/
  empty : e.opParams = [] → e.pathParams = [] →
    ((e.operation.get "parameters").isSome ↔ (f.operation.get "parameters").isSome)

/-- Below a place where the outline of either node stops at a reference they unfold alike. -/
def AgreeHidden (e f : Endpoint) (n m : PyJson) : Prop :=
  Outline.AgreeBelowCuts (outline e.components) (outline f.components) n m

/-- A parameter of the operation or of its path is itself a reference that is not followed. -/
def HasUnfollowedParam (e : Endpoint) : Prop :=
  ∃ n ∈ e.opParams ++ e.pathParams, (outline e.components).CutAt [] n []

/-- Two operations agree in what is not shown of them. -/
structure HiddenAgree (e f : Endpoint) : Prop where
  body : e.AgreeHidden f e.body f.body
  parameters : ∀ n m name place, e.Effective e.Identity n → f.Effective f.Identity m →
    e.Identity n name place → f.Identity m name place → e.AgreeHidden f n m
  unfollowed : e.HasUnfollowedParam ∨ f.HasUnfollowedParam → e.SameParams f

end Endpoint

/-- The check has nothing to tell two documents apart by. -/
structure LooksAlike (old new : PyJson) : Prop where
  version : version old = version new
  contract : docContract old = docContract new
  operations : ∀ path method,
    (endpointAt old path method).isSome ↔ (endpointAt new path method).isSome
  alike : ∀ path method e f, endpointAt old path method = some e →
    endpointAt new path method = some f → e.Alike f

/-! ### Parameters have one name and one place -/

section

variable {components : PyJson}

theorem localRef_of_get_ref {v : PyJson} (h : v.get "$ref" = none) : localRef v = none := by
  unfold localRef
  rw [h]
  rfl

theorem child_key (v : PyJson) (key : String) : child v (.key key) = v.get key := by
  cases v <;> rfl

theorem IsParameter.unique {n : PyJson} {name place name' place' : String}
    (h : IsParameter components n name place) (h' : IsParameter components n name' place') :
    name = name' ∧ place = place' := by
  induction h with
  | value href hmissing hname hplace hlocation =>
      cases h' with
      | value _ _ hname' hplace' _ =>
          rw [hname] at hname'
          rw [hplace] at hplace'
          simp only [Option.some.injEq, PyJson.str.injEq] at hname' hplace'
          exact ⟨hname', hplace'⟩
      | reference href' => rw [localRef_of_get_ref href] at href'; cases href'
  | reference href _ htarget _ ih =>
      cases h' with
      | value href' => rw [localRef_of_get_ref href'] at href; cases href
      | reference href' _ htarget' h' =>
          rw [href, Option.some.injEq] at href'
          rw [← href', htarget, Option.some.injEq] at htarget'
          rw [← htarget'] at h'
          exact ih h'

/-- The object that a parameter leads to. -/
theorem IsParameter.head {n : PyJson} {name place : String}
    (h : IsParameter components n name place) :
    ∃ v, (graph components).Head n v ∧ v.get "name" = some (.str name) ∧
      v.get "in" = some (.str place) := by
  induction h with
  | value href _ hname hplace _ =>
      exact ⟨_, .here (localRef_of_get_ref href), hname, hplace⟩
  | reference href _ htarget _ ih =>
      obtain ⟨v, hhead, hname, hplace⟩ := ih
      exact ⟨v, .follow href htarget hhead, hname, hplace⟩

theorem at_str_iff {s : String} {l : Label} :
    (graph components).At (.str s) [] l ↔ l = .str s := by
  constructor
  · intro h
    cases h with
    | here => rfl
    | follow hr => cases hr
    | dangling hr => cases hr
  · rintro rfl
    exact .here rfl

theorem at_key_iff {v : PyJson} {key s : String} {l : Label} (hplain : localRef v = none)
    (h : v.get key = some (.str s)) : (graph components).At v [.key key] l ↔ l = .str s := by
  rw [← @at_str_iff components]
  constructor
  · intro hat
    cases hat with
    | child _ hc hrest =>
        have hchild : child v (.key key) = some _ := hc
        rw [child_key, h, Option.some.injEq] at hchild
        rw [hchild]
        exact hrest
    | follow hr =>
        rw [show localRef v = some _ from hr] at hplain
        cases hplain
  · intro hat
    exact .child hplain (by rw [← h]; exact child_key v key) hat

/-- The name and place of a parameter are what its unfolding has there. -/
theorem IsParameter.identity_iff {e : Endpoint} {n : PyJson} {name place a b : String}
    (h : IsParameter e.components n name place) : e.Identity n a b ↔ a = name ∧ b = place := by
  obtain ⟨v, hhead, hname, hplace⟩ := h.head
  unfold Endpoint.Identity Endpoint.Denotes
  rw [hhead.at_iff, hhead.at_iff, at_key_iff hhead.plain hname, at_key_iff hhead.plain hplace,
    Label.str.injEq, Label.str.injEq]

/-! ### What is shown of a parameter -/

theorem get_inline {stack : List String} {node : PyJson} (h : componentRef node = none)
    (key : String) :
    (inline components stack node).get key = (node.get key).map (inline components stack) := by
  obtain ⟨resolve, hwalk⟩ := inline_plain components stack
  rw [← child_key, ← child_key, hwalk, walk_child h]
  exact Option.map_congr fun v _ => (hwalk v).symm

theorem truthy_of_get {v w : PyJson} {key : String} (h : v.get key = some w) :
    v.truthy = true := by
  cases v with
  | dict items =>
      cases items with
      | nil => cases h
      | cons m rest => rfl
  | _ => cases h

theorem IsParameter.truthy {v : PyJson} {name place : String}
    (h : IsParameter components v name place) : v.truthy = true := by
  cases h with
  | value _ _ hname => exact truthy_of_get hname
  | reference href => exact truthy_of_get (localRef_starts href).1

theorem IsParameter.leads {S T : List String} {n d : PyJson} {name place : String}
    (h : IsParameter components n name place) (hleads : (outline components).Leads S n T d) :
    IsParameter components d name place := by
  induction hleads with
  | here => exact h
  | @follow _ _ m c _ r hnext _ ih =>
      refine ih ?_
      have href : localRef m = some r := (outline components).next_ref hnext
      have htarget : target components r = some c := (outline components).next_target hnext
      cases h with
      | value hplain => rw [localRef_of_get_ref hplain] at href; cases href
      | reference href' _ htarget' h' =>
          rw [href', Option.some.injEq] at href
          rw [← href, htarget', Option.some.injEq] at htarget
          rw [← htarget]
          exact h'

/-- A parameter that is followed to its object. -/
structure ShownAs (components node : PyJson) (name place : String) : Prop where
  followed : ¬(outline components).CutAt [] node []
  noMissing : (inline components [] node).get "$missing" = none
  noRef : (inline components [] node).get "$ref" = none
  getName : (inline components [] node).get "name" = some (.str name)
  getIn : (inline components [] node).get "in" = some (.str place)

/-- A parameter that is shown as the deeper pointer it leads to. -/
structure ShownAsRef (components node : PyJson) (ref : String) : Prop where
  cut : (outline components).CutAt [] node []
  noMissing : (inline components [] node).get "$missing" = none
  getRef : (inline components [] node).get "$ref" = some (.str ref)
  pointer : "#/components/".toList <+: ref.toList

/-- **A parameter is shown with its name and place, or as a pointer to it.** -/
theorem IsParameter.shown {n : PyJson} {name place : String}
    (h : IsParameter components n name place) :
    (ShownAs components n name place ∧ place ∈ locations) ∨
      ∃ ref c, ShownAsRef components n ref ∧ target components ref = some c ∧
        IsParameter components c name place := by
  obtain ⟨T, d, hleads⟩ := Outline.exists_leads (O := outline components) [] n
  obtain ⟨v, hhead, -, -⟩ := h.head
  have hinline : inline components [] n = inline components T d :=
    (inline_writes components).leads hleads
  have hcut : (outline components).CutAt [] n [] ↔ (outline components).CutAt T d [] :=
    hleads.cutAt_iff
  cases h.leads hleads with
  | value href hmissing hname hplace hlocation =>
      have hplain := localRef_of_get_ref href
      have hnone := componentRef_plain hplain
      refine Or.inl ⟨⟨?_, ?_, ?_, ?_, ?_⟩, hlocation⟩
      · rw [hcut]
        intro hc
        cases hc with
        | here _ hr => rw [show localRef d = some _ from hr] at hplain; cases hplain
        | follow hnext => rw [hleads.stop] at hnext; cases hnext
      · rw [hinline, get_inline hnone, hmissing, Option.map_none]
      · rw [hinline, get_inline hnone, href, Option.map_none]
      · rw [hinline, get_inline hnone, hname, Option.map_some, inline_str]
      · rw [hinline, get_inline hnone, hplace, Option.map_some, inline_str]
  | @reference _ c ref _ _ href hmissing htarget hc =>
      have hnone : componentRef d = none := by
        cases hnode : componentRef d with
        | none => rfl
        | some found =>
            obtain ⟨found, named⟩ := found
            obtain ⟨kind, key⟩ := named
            obtain ⟨href', hnamed⟩ := componentRef_eq_some_iff.mp hnode
            rw [href, Option.some.injEq] at href'
            subst href'
            have hcomponent : component components (kind, key) = some c := by
              unfold target at htarget
              rw [hnamed] at htarget
              exact htarget
            rcases (next_eq_none_iff hnode).mp hleads.stop with hmem | hfalsy
            · exact absurd hmem (hleads.ref_not_mem hhead href)
            · rw [Option.filter_eq_some_iff.mpr ⟨hcomponent, hc.truthy⟩] at hfalsy
              cases hfalsy
      obtain ⟨hget, hstarts⟩ := localRef_starts href
      refine Or.inr ⟨ref, c, ⟨hcut.mpr (.here hleads.stop href), ?_, ?_, hstarts⟩, htarget, hc⟩
      · rw [hinline, get_inline hnone, hmissing, Option.map_none]
      · rw [hinline, get_inline hnone, hget, Option.map_some, inline_str]

end

theorem shows_key_iff {e : Endpoint} {n : PyJson} {key : String} {l : Label} :
    e.Shows n [.key key] l ↔ ∃ c, (inline e.components [] n).get key = some c ∧ label c = l := by
  unfold Endpoint.Shows
  rw [← labelAt_inline, labelAt_cons, child_key, Option.bind_eq_some_iff]
  simp only [labelAt_nil, Option.some.injEq]

theorem shows_str_iff {e : Endpoint} {n : PyJson} {key s t : String}
    (h : (inline e.components [] n).get key = some (.str s)) :
    e.Shows n [.key key] (.str t) ↔ t = s := by
  rw [shows_key_iff]
  constructor
  · rintro ⟨c, hc, hlabel⟩
    rw [h, Option.some.injEq] at hc
    rw [← hc] at hlabel
    exact (Label.str.inj hlabel).symm
  · rintro rfl
    exact ⟨_, h, rfl⟩

theorem ShownAs.identity {components n : PyJson} {name place : String}
    (h : ShownAs components n name place) :
    paramIdentity (inline components [] n) = (some name, some place) := by
  unfold paramIdentity
  rw [h.noMissing, h.noRef, h.getName, h.getIn]
  rfl

theorem ShownAs.shownIdentity_iff {e : Endpoint} {n : PyJson} {name place a b : String}
    (h : ShownAs e.components n name place) : e.ShownIdentity n a b ↔ a = name ∧ b = place := by
  have hnone : ∀ l, ¬e.Shows n [.key "$ref"] l := by
    intro l hl
    obtain ⟨c, hc, -⟩ := shows_key_iff.mp hl
    rw [h.noRef] at hc
    cases hc
  unfold Endpoint.ShownIdentity
  rw [shows_str_iff h.getName, shows_str_iff h.getIn]
  constructor
  · rintro (⟨-, hl⟩ | ⟨-, hab⟩)
    · exact absurd hl (hnone _)
    · exact hab
  · intro hab
    exact Or.inr ⟨hnone, hab⟩

theorem ShownAsRef.identity {components n : PyJson} {ref : String}
    (h : ShownAsRef components n ref) :
    paramIdentity (inline components [] n) = (some "$ref", some ref) := by
  unfold paramIdentity
  rw [h.noMissing, h.getRef]
  rfl

theorem ShownAsRef.shownIdentity_iff {e : Endpoint} {n : PyJson} {ref a b : String}
    (h : ShownAsRef e.components n ref) : e.ShownIdentity n a b ↔ a = "$ref" ∧ b = ref := by
  unfold Endpoint.ShownIdentity
  rw [shows_str_iff h.getRef]
  constructor
  · rintro (hab | ⟨hnone, -⟩)
    · exact hab
    · exact absurd (shows_key_iff.mpr ⟨_, h.getRef, rfl⟩) (hnone (.str ref))
  · exact Or.inl

theorem locations_not_pointer {place : String} (h : place ∈ locations) :
    ¬"#/components/".toList <+: place.toList := by
  simp only [locations, List.mem_cons, List.not_mem_nil, or_false] at h
  rcases h with rfl | rfl | rfl | rfl <;> decide

namespace IsParameter

variable {e : Endpoint} {n m : PyJson} {name place name' place' a b : String}

/-- What is shown of a parameter is what the check takes for its identity. -/
theorem shownIdentity_iff (h : IsParameter e.components n name place) :
    e.ShownIdentity n a b ↔ paramIdentity (inline e.components [] n) = (some a, some b) := by
  rcases h.shown with ⟨hshown, -⟩ | ⟨ref, c, hshown, -⟩
  · rw [hshown.shownIdentity_iff, hshown.identity]
    simp [eq_comm]
  · rw [hshown.shownIdentity_iff, hshown.identity]
    simp [eq_comm]

theorem exists_shownIdentity (h : IsParameter e.components n name place) :
    ∃ a b, e.ShownIdentity n a b := by
  rcases h.shown with ⟨hshown, -⟩ | ⟨ref, c, hshown, -⟩
  · exact ⟨name, place, hshown.shownIdentity_iff.mpr ⟨rfl, rfl⟩⟩
  · exact ⟨"$ref", ref, hshown.shownIdentity_iff.mpr ⟨rfl, rfl⟩⟩

/-- **Parameters of one shown identity have one name and one place.** -/
theorem same_of_shownIdentity (h : IsParameter e.components n name place)
    (h' : IsParameter e.components m name' place') (hn : e.ShownIdentity n a b)
    (hm : e.ShownIdentity m a b) : name = name' ∧ place = place' := by
  rcases h.shown with ⟨hshown, hlocation⟩ | ⟨ref, c, hshown, htarget, hc⟩
  · obtain ⟨rfl, rfl⟩ := hshown.shownIdentity_iff.mp hn
    rcases h'.shown with ⟨hshown', -⟩ | ⟨ref', c', hshown', -⟩
    · exact hshown'.shownIdentity_iff.mp hm
    · rw [(hshown'.shownIdentity_iff.mp hm).2] at hlocation
      exact absurd hshown'.pointer (locations_not_pointer hlocation)
  · obtain ⟨rfl, rfl⟩ := hshown.shownIdentity_iff.mp hn
    rcases h'.shown with ⟨hshown', hlocation⟩ | ⟨ref', c', hshown', htarget', hc'⟩
    · rw [← (hshown'.shownIdentity_iff.mp hm).2] at hlocation
      exact absurd hshown.pointer (locations_not_pointer hlocation)
    · rw [← (hshown'.shownIdentity_iff.mp hm).2, htarget, Option.some.injEq] at htarget'
      rw [← htarget'] at hc'
      exact hc.unique hc'

/-- A parameter that is followed is shown by its name and place. -/
theorem shownIdentity_iff_identity (h : IsParameter e.components n name place)
    (hfollowed : ¬(outline e.components).CutAt [] n []) :
    e.ShownIdentity n a b ↔ e.Identity n a b := by
  rw [h.identity_iff]
  rcases h.shown with ⟨hshown, -⟩ | ⟨ref, c, hshown, -⟩
  · exact hshown.shownIdentity_iff
  · exact absurd hshown.cut hfollowed

end IsParameter

/-! ### The effective parameter of a name and place -/

theorem IsParameters.eq_of_same {components : PyJson} {nodes : List PyJson}
    (h : IsParameters components nodes) {n m : PyJson} {name place : String} (hn : n ∈ nodes)
    (hm : m ∈ nodes) (hpn : IsParameter components n name place)
    (hpm : IsParameter components m name place) : n = m := by
  by_contra hne
  have hsymm : Std.Symm fun n m : PyJson => ∀ name place,
      IsParameter components n name place → ¬IsParameter components m name place :=
    ⟨fun n m hdistinct name place hm hn => hdistinct name place hn hm⟩
  exact h.distinct.forall hn hm hne name place hpn hpm

theorem ListsParameters.isParameters {components v : PyJson} (h : ListsParameters components v) :
    IsParameters components (parametersOf v) := by
  unfold parametersOf
  cases hget : v.get "parameters" with
  | none => exact ⟨fun n hn => (List.not_mem_nil hn).elim, List.Pairwise.nil⟩
  | some listed =>
      obtain ⟨nodes, rfl, hnodes⟩ := h listed hget
      exact hnodes

namespace Endpoint

/-- An operation of an OpenAPI document. -/
structure Valid (e : Endpoint) : Prop where
  components : e.components.Ordered
  operationOrdered : e.operation.Ordered
  pathOrdered : ∀ n ∈ e.pathParams, n.Ordered
  operation : IsOperation e.components e.operation
  pathParams : IsParameters e.components e.pathParams

variable {e f : Endpoint}

theorem Valid.opParams (h : e.Valid) : IsParameters e.components e.opParams :=
  h.operation.parameters.isParameters

/-- `Id` tells parameters of different names or places apart. -/
def Separates (e : Endpoint) (Id : PyJson → String → String → Prop) : Prop :=
  ∀ n m a b, n ∈ e.opParams ++ e.pathParams → m ∈ e.opParams ++ e.pathParams → Id n a b →
    Id m a b → ∃ name place, IsParameter e.components n name place ∧
      IsParameter e.components m name place

theorem Valid.parameter (h : e.Valid) {n : PyJson} (hn : n ∈ e.opParams ++ e.pathParams) :
    ∃ name place, IsParameter e.components n name place := by
  rcases List.mem_append.mp hn with hop | hpath
  · exact h.opParams.parameter n hop
  · exact h.pathParams.parameter n hpath

theorem Effective.mem {Id : PyJson → String → String → Prop} {n : PyJson}
    (h : e.Effective Id n) : n ∈ e.opParams ++ e.pathParams := by
  rcases h with hop | ⟨hpath, -⟩
  · exact List.mem_append_left _ hop
  · exact List.mem_append_right _ hpath

/-- **There is one effective parameter of an identity.** -/
theorem Effective.unique (hvalid : e.Valid) {Id : PyJson → String → String → Prop}
    (hsep : e.Separates Id) {n m : PyJson} {a b : String} (hn : e.Effective Id n)
    (hm : e.Effective Id m) (hidn : Id n a b) (hidm : Id m a b) : n = m := by
  obtain ⟨name, place, hpn, hpm⟩ := hsep n m a b hn.mem hm.mem hidn hidm
  rcases hn with hopn | ⟨hpathn, hfreen⟩
  · rcases hm with hopm | ⟨hpathm, hfreem⟩
    · exact hvalid.opParams.eq_of_same hopn hopm hpn hpm
    · exact absurd hidm (hfreem n hopn a b hidn)
  · rcases hm with hopm | ⟨hpathm, -⟩
    · exact absurd hidn (hfreen m hopm a b hidm)
    · exact hvalid.pathParams.eq_of_same hpathn hpathm hpn hpm

theorem Valid.separates_identity (hvalid : e.Valid) : e.Separates e.Identity := by
  intro n m a b hn hm hidn hidm
  obtain ⟨name, place, hpn⟩ := hvalid.parameter hn
  obtain ⟨name', place', hpm⟩ := hvalid.parameter hm
  obtain ⟨rfl, rfl⟩ := hpn.identity_iff.mp hidn
  obtain ⟨rfl, rfl⟩ := hpm.identity_iff.mp hidm
  exact ⟨a, b, hpn, hpm⟩

theorem Valid.separates_shownIdentity (hvalid : e.Valid) : e.Separates e.ShownIdentity := by
  intro n m a b hn hm hidn hidm
  obtain ⟨name, place, hpn⟩ := hvalid.parameter hn
  obtain ⟨name', place', hpm⟩ := hvalid.parameter hm
  obtain ⟨rfl, rfl⟩ := hpn.same_of_shownIdentity hpm hidn hidm
  exact ⟨name, place, hpn, hpm⟩

/-- What stands at the places of a parameter, read off the effective one. -/
theorem paramAt_iff (hvalid : e.Valid) {Id : PyJson → String → String → Prop}
    {At : PyJson → List Step → Label → Prop} (hsep : e.Separates Id) {n : PyJson} {a b : String}
    (hn : e.Effective Id n) (hid : Id n a b) {p : List Step} {l : Label} :
    e.ParamAt Id At a b p l ↔ At n p l := by
  constructor
  · rintro ⟨m, hm, hidm, hat⟩
    rw [hn.unique hvalid hsep hm hid hidm]
    exact hat
  · intro hat
    exact ⟨n, hn, hid, hat⟩

/-! ### Shown alike and alike below the cuts -/

theorem AgreeHidden.symm {n m : PyJson} (h : e.AgreeHidden f n m) : f.AgreeHidden e m n :=
  fun q hq t l => (h q hq.symm t l).symm

theorem SameParams.symm (h : e.SameParams f) : f.SameParams e :=
  fun name place p l => (h name place p l).symm

theorem AlikeParams.symm (h : e.AlikeParams f) : f.AlikeParams e :=
  fun name place p l => (h name place p l).symm

theorem HiddenAgree.symm (h : e.HiddenAgree f) : f.HiddenAgree e where
  body := h.body.symm
  parameters n m name place hn hm hidn hidm :=
    (h.parameters m n name place hm hn hidm hidn).symm
  unfollowed hcut := (h.unfollowed hcut.symm).symm

/-- Without an unfollowed parameter the effective parameters are the ones that are shown. -/
theorem effective_shown_iff (hvalid : e.Valid) (hfollowed : ¬e.HasUnfollowedParam) {n : PyJson} :
    e.Effective e.ShownIdentity n ↔ e.Effective e.Identity n := by
  have hsame : ∀ m ∈ e.opParams ++ e.pathParams, ∀ a b,
      e.ShownIdentity m a b ↔ e.Identity m a b := by
    intro m hm a b
    obtain ⟨name, place, hp⟩ := hvalid.parameter hm
    exact hp.shownIdentity_iff_identity fun hcut => hfollowed ⟨m, hm, hcut⟩
  refine or_congr_right (and_congr_right fun hpath => forall₂_congr fun o ho => ?_)
  refine forall₂_congr fun a b => ?_
  rw [hsame o (List.mem_append_left _ ho), hsame n (List.mem_append_right _ hpath)]

/-- The root of a node is shown. -/
theorem exists_shows_root (n : PyJson) : ∃ l, e.Shows n [] l :=
  ⟨_, labelAt_inline.mp (labelAt_nil _)⟩

/-- Parameters shown under one identity in two operations that are shown alike. -/
theorem shows_iff_of_alike (he : e.Valid) (hf : f.Valid)
    (halike : e.AlikeParams f) {n m : PyJson} {a b : String} (hn : e.Effective e.ShownIdentity n)
    (hidn : e.ShownIdentity n a b) (hm : f.Effective f.ShownIdentity m)
    (hidm : f.ShownIdentity m a b) (p : List Step) (l : Label) :
    e.Shows n p l ↔ f.Shows m p l := by
  have hleft : e.ParamAt e.ShownIdentity e.Shows a b p l ↔ e.Shows n p l :=
    paramAt_iff he he.separates_shownIdentity hn hidn
  have hright : f.ParamAt f.ShownIdentity f.Shows a b p l ↔ f.Shows m p l :=
    paramAt_iff hf hf.separates_shownIdentity hm hidm
  rw [← hleft, ← hright]
  exact halike a b p l

private theorem paramAt_of_alike (he : e.Valid) (hf : f.Valid) (halike : e.AlikeParams f)
    (hhidden : e.HiddenAgree f) (hfe : ¬e.HasUnfollowedParam) (hff : ¬f.HasUnfollowedParam)
    {name place : String} {p : List Step} {l : Label}
    (h : e.ParamAt e.Identity e.Denotes name place p l) :
    f.ParamAt f.Identity f.Denotes name place p l := by
  obtain ⟨n, hn, hidn, hat⟩ := h
  have hshownIdentity : ∀ {g : Endpoint} (_ : g.Valid) (_ : ¬g.HasUnfollowedParam) {m : PyJson},
      m ∈ g.opParams ++ g.pathParams →
      (g.ShownIdentity m name place ↔ g.Identity m name place) := by
    intro g hg hfollowed m hm
    obtain ⟨name', place', hp⟩ := hg.parameter hm
    exact hp.shownIdentity_iff_identity fun hcut => hfollowed ⟨m, hm, hcut⟩
  have hsn := (effective_shown_iff he hfe).mpr hn
  have hsidn := (hshownIdentity he hfe hn.mem).mpr hidn
  obtain ⟨root, hroot⟩ := exists_shows_root (e := e) n
  obtain ⟨m, hsm, hsidm, -⟩ := (halike name place [] root).mp ⟨n, hsn, hsidn, hroot⟩
  have hm := (effective_shown_iff hf hff).mp hsm
  have hidm := (hshownIdentity hf hff hm.mem).mp hsidm
  have hshows := shows_iff_of_alike he hf halike hsn hsidn hsm hsidm
  have hbelow := hhidden.parameters n m name place hn hm hidn hidm
  exact ⟨m, hm, hidm, (Outline.at_iff_of_seen hshows hbelow p l).mp hat⟩

/-- **Operations that are shown alike and agree in what is hidden denote the same.** -/
theorem same_of_alike (he : e.Valid) (hf : f.Valid) (halike : e.Alike f)
    (hhidden : e.HiddenAgree f) : e.Same f where
  body := Outline.at_iff_of_seen halike.body hhidden.body
  parameters := by
    by_cases hcut : e.HasUnfollowedParam ∨ f.HasUnfollowedParam
    · exact hhidden.unfollowed hcut
    · rw [not_or] at hcut
      intro name place p l
      constructor
      · exact paramAt_of_alike he hf halike.parameters hhidden hcut.1 hcut.2
      · exact paramAt_of_alike hf he halike.parameters.symm hhidden.symm hcut.2 hcut.1

/-- Operations that denote the same agree in what is hidden. -/
theorem Same.hiddenAgree (he : e.Valid) (hf : f.Valid) (h : e.Same f) : e.HiddenAgree f where
  body := fun q _ t l => h.body (q ++ t) l
  parameters := by
    intro n m name place hn hm hidn hidm q _ t l
    have hsame := h.parameters name place (q ++ t) l
    rw [paramAt_iff he he.separates_identity hn hidn, paramAt_iff hf hf.separates_identity hm hidm]
      at hsame
    exact hsame
  unfollowed := fun _ => h.parameters

end Endpoint

end SdcMcp.SpecDrift
