/-
What the fingerprint of an operation is taken of.

It is taken of the inlined operation with the merged parameters in it, sorted by
place and name.  `canonical_eq_iff` says when that is one and the same value for two
operations: exactly when they are shown alike.
-/
import SdcMcp.Proofs.SpecOperations

namespace SdcMcp.SpecDrift

/-! ### The order of parameters -/

theorem keyLe_total (a b : String × String) : keyLe a b ∨ keyLe b a := by
  unfold keyLe
  rcases lt_trichotomy a.1 b.1 with hlt | heq | hgt
  · exact Or.inl (Or.inl hlt)
  · rcases le_total a.2 b.2 with hle | hle
    · exact Or.inl (Or.inr ⟨heq, hle⟩)
    · exact Or.inr (Or.inr ⟨heq.symm, hle⟩)
  · exact Or.inr (Or.inl hgt)

theorem keyLe_trans {a b c : String × String} (hab : keyLe a b) (hbc : keyLe b c) :
    keyLe a c := by
  rcases hab with hlt | ⟨heq, hle⟩
  · rcases hbc with hlt' | ⟨heq', -⟩
    · exact Or.inl (hlt.trans hlt')
    · exact Or.inl (heq' ▸ hlt)
  · rcases hbc with hlt' | ⟨heq', hle'⟩
    · exact Or.inl (heq ▸ hlt')
    · exact Or.inr ⟨heq.trans heq', hle.trans hle'⟩

theorem keyLe_antisymm {a b : String × String} (hab : keyLe a b) (hba : keyLe b a) : a = b := by
  rcases hab with hlt | ⟨heq, hle⟩
  · rcases hba with hlt' | ⟨heq', -⟩
    · exact absurd hlt' (lt_asymm hlt)
    · rw [heq'] at hlt
      exact absurd hlt (lt_irrefl _)
  · rcases hba with hlt' | ⟨-, hle'⟩
    · rw [heq] at hlt'
      exact absurd hlt' (lt_irrefl _)
    · exact Prod.ext heq (le_antisymm hle hle')

theorem sortParams_sorted (params : List PyJson) :
    (sortParams params).Pairwise fun p q => keyLe (sortKey p) (sortKey q) := by
  have htotal : Std.Total fun p q : PyJson => keyLe (sortKey p) (sortKey q) :=
    ⟨fun p q => keyLe_total _ _⟩
  have htrans : IsTrans PyJson fun p q => keyLe (sortKey p) (sortKey q) :=
    ⟨fun p q r hpq hqr => keyLe_trans hpq hqr⟩
  exact List.pairwise_insertionSort _ _

theorem sortParams_perm (params : List PyJson) : (sortParams params).Perm params :=
  List.perm_insertionSort _ _

theorem sortParams_eq_nil {params : List PyJson} : sortParams params = [] ↔ params = [] := by
  rw [← List.length_eq_zero_iff, (sortParams_perm params).length_eq, List.length_eq_zero_iff]

theorem mergeParams_eq_nil {opParams pathParams : List PyJson} :
    mergeParams opParams pathParams = [] ↔ pathParams = [] ∧ opParams = [] := by
  unfold mergeParams
  rw [List.append_eq_nil_iff, and_comm]
  refine and_congr_left fun hop => ?_
  rw [hop]
  simp

/-! ### Inlined containers -/

section

variable {components : PyJson}

theorem componentRef_of_get_ref {v : PyJson} (h : v.get "$ref" = none) : componentRef v = none :=
  componentRef_plain (localRef_of_get_ref h)

/-- The parameters a path or an operation lists, inlined. -/
theorem ListsParameters.inlined {v : PyJson} (h : ListsParameters components v) :
    (inline components [] ((v.get "parameters").getD (.list []))).elements
      = (parametersOf v).map (inline components []) := by
  unfold parametersOf
  cases hget : v.get "parameters" with
  | none => rw [Option.getD_none, inline_list]; rfl
  | some listed =>
      obtain ⟨nodes, rfl, -⟩ := h listed hget
      rw [Option.getD_some, inline_list]
      rfl

end

namespace Endpoint

variable {e f : Endpoint}

/-- What the fingerprint of the operation is taken of. -/
def canonical (e : Endpoint) : PyJson :=
  operationBody e.components (e.pathParams.map (inline e.components [])) e.operation

/-- The items of the inlined operation. -/
def inlinedItems (e : Endpoint) : List (String × PyJson) :=
  (inline e.components [] e.operation).items

/-- The parameters in the fingerprint. -/
def merged (e : Endpoint) : List PyJson :=
  sortParams (mergeParams (e.opParams.map (inline e.components []))
    (e.pathParams.map (inline e.components [])))

/-! ### The operation, inlined -/

theorem Valid.inline_operation (h : e.Valid) :
    inline e.components [] e.operation = .dict e.inlinedItems ∧
      e.inlinedItems
        = e.operation.items.map fun m => (m.1, inline e.components [] m.2) := by
  obtain ⟨items, hitems⟩ := h.operation.dict
  have hnone := componentRef_of_get_ref h.operation.plain
  unfold inlinedItems
  rw [hitems] at hnone ⊢
  rw [inline_dict hnone]
  exact ⟨rfl, rfl⟩

theorem Valid.inlined_sorted (h : e.Valid) : (e.inlinedItems.map Prod.fst).Pairwise (· < ·) := by
  have hordered := @ordered_inline _ h.components [] _ h.operationOrdered
  rw [h.inline_operation.1] at hordered
  exact (PyJson.ordered_dict.mp hordered).1

theorem Valid.inlined_parameters (h : e.Valid) :
    e.inlinedItems.lookup "parameters"
      = (e.operation.get "parameters").map (inline e.components []) := by
  rw [h.inline_operation.2]
  exact PyJson.lookup_map _ _ _

/-- Apart from its parameters, the inlined operation is the inlined body. -/
theorem Valid.inline_body (h : e.Valid) :
    inline e.components [] e.body
      = .dict (e.inlinedItems.filter fun m => m.1 ≠ "parameters") := by
  have hnone : e.body.get "$ref" = none := by
    refine List.lookup_eq_none_iff.mpr fun m hm => ?_
    have hplain := h.operation.plain
    exact List.lookup_eq_none_iff.mp hplain m (List.mem_filter.mp hm).1
  unfold body at hnone ⊢
  rw [inline_dict (componentRef_of_get_ref hnone), h.inline_operation.2, List.filter_map]
  rfl

theorem Valid.elements_inlined (h : e.Valid) :
    (((inline e.components [] e.operation).get "parameters").getD (.list [])).elements
      = e.opParams.map (inline e.components []) := by
  have hnone := componentRef_of_get_ref h.operation.plain
  unfold Endpoint.opParams
  rw [get_inline hnone, ← h.operation.parameters.inlined]
  cases e.operation.get "parameters" with
  | none => rw [Option.map_none, Option.getD_none, inline_list]; rfl
  | some listed => rfl

/-- The parameters that the fingerprint has: those of an operation without any stay as they
are, and every other operation gets the merged ones. -/
def listed (e : Endpoint) : Option PyJson :=
  if e.pathParams = [] ∧ e.opParams = [] then e.inlinedItems.lookup "parameters"
  else some (.list e.merged)

/-- Items with the parameters put back. -/
private def withParameters (rest : List (String × PyJson)) :
    Option PyJson → List (String × PyJson)
  | none => rest
  | some v => SortedMap.insert "parameters" v rest

private theorem withParameters_some (rest : List (String × PyJson)) (v : PyJson) :
    withParameters rest (some v) = SortedMap.insert "parameters" v rest := rfl

private theorem withParameters_filter {items : List (String × PyJson)} {o : Option PyJson} :
    (withParameters (items.filter fun m => m.1 ≠ "parameters") o).filter
      (fun m => m.1 ≠ "parameters") = items.filter fun m => m.1 ≠ "parameters" := by
  have hidem : (items.filter fun m => m.1 ≠ "parameters").filter (fun m => m.1 ≠ "parameters")
      = items.filter fun m => m.1 ≠ "parameters" := by
    rw [List.filter_filter]
    simp only [Bool.and_self]
  cases o with
  | none => exact hidem
  | some v =>
      unfold withParameters
      rw [SortedMap.filter_insert, hidem]

private theorem withParameters_lookup {items : List (String × PyJson)} {o : Option PyJson} :
    (withParameters (items.filter fun m => m.1 ≠ "parameters") o).lookup "parameters" = o := by
  cases o with
  | none =>
      refine List.lookup_eq_none_iff.mpr fun m hm => ?_
      have hne : m.1 ≠ "parameters" := of_decide_eq_true (List.mem_filter.mp hm).2
      exact bne_iff_ne.mpr fun h => hne h.symm
  | some v => exact SortedMap.lookup_insert _ _ _

theorem Valid.canonical_eq (h : e.Valid) : e.canonical
    = .dict (withParameters (e.inlinedItems.filter fun m => m.1 ≠ "parameters") e.listed) := by
  have hpath : e.pathParams.map (inline e.components []) = [] ↔ e.pathParams = [] :=
    List.map_eq_nil_iff
  have hop : e.opParams.map (inline e.components []) = [] ↔ e.opParams = [] := List.map_eq_nil_iff
  unfold canonical operationBody listed
  simp only [h.elements_inlined, hpath, hop]
  by_cases hnone : e.pathParams = [] ∧ e.opParams = []
  · rw [if_pos hnone, if_pos hnone, h.inline_operation.1]
    cases hlookup : e.inlinedItems.lookup "parameters" with
    | none =>
        refine congrArg PyJson.dict (List.filter_eq_self.mpr fun m hm => ?_).symm
        have hne := List.lookup_eq_none_iff.mp hlookup m hm
        exact decide_eq_true fun heq => by simp [heq] at hne
    | some v =>
        rw [withParameters_some, SortedMap.insert_filter v h.inlined_sorted,
          SortedMap.insert_of_lookup h.inlined_sorted hlookup]
  · rw [if_neg hnone, if_neg hnone]
    rw [withParameters_some, SortedMap.insert_filter _ h.inlined_sorted]
    rfl

/-- The fingerprint is taken of the inlined body and the parameters. -/
theorem canonical_eq_iff_parts (he : e.Valid) (hf : f.Valid) : e.canonical = f.canonical ↔
    inline e.components [] e.body = inline f.components [] f.body ∧ e.listed = f.listed := by
  rw [he.canonical_eq, hf.canonical_eq, he.inline_body, hf.inline_body, PyJson.dict.injEq,
    PyJson.dict.injEq]
  constructor
  · intro h
    have hrest := congrArg (List.filter fun m => decide (m.1 ≠ "parameters")) h
    have hparams := congrArg (List.lookup "parameters") h
    rw [withParameters_filter, withParameters_filter] at hrest
    rw [withParameters_lookup, withParameters_lookup] at hparams
    exact ⟨hrest, hparams⟩
  · rintro ⟨hrest, hparams⟩
    rw [hrest, hparams]

/-! ### The merged parameters -/

theorem mem_merged (h : e.Valid) {t : PyJson} : t ∈ e.merged ↔
    ∃ n, e.Effective e.ShownIdentity n ∧ inline e.components [] n = t := by
  unfold merged
  rw [(sortParams_perm _).mem_iff, mergeParams, List.mem_append, List.mem_filter, List.mem_map,
    List.mem_map]
  have hfree : ∀ n ∈ e.pathParams,
      (paramIdentity (inline e.components [] n)
        ∉ (e.opParams.map (inline e.components [])).map paramIdentity) ↔
      ∀ o ∈ e.opParams, ∀ a b, e.ShownIdentity o a b → ¬e.ShownIdentity n a b := by
    intro n hn
    obtain ⟨name, place, hp⟩ := h.pathParams.parameter n hn
    obtain ⟨a, b, hab⟩ := hp.exists_shownIdentity
    have hid := hp.shownIdentity_iff.mp hab
    constructor
    · intro hnot o ho a' b' hoid hnid
      obtain ⟨name', place', hpo⟩ := h.opParams.parameter o ho
      refine hnot ?_
      rw [hp.shownIdentity_iff.mp hnid, ← hpo.shownIdentity_iff.mp hoid]
      exact List.mem_map_of_mem (List.mem_map_of_mem ho)
    · intro hall hmem
      obtain ⟨u, hu, huid⟩ := List.mem_map.mp hmem
      obtain ⟨o, ho, rfl⟩ := List.mem_map.mp hu
      obtain ⟨name', place', hpo⟩ := h.opParams.parameter o ho
      rw [hid] at huid
      exact hall o ho a b (hpo.shownIdentity_iff.mpr huid) hab
  constructor
  · rintro (⟨n, hn, rfl⟩ | ⟨⟨n, hn, rfl⟩, hnot⟩)
    · exact ⟨n, Or.inl hn, rfl⟩
    · exact ⟨n, Or.inr ⟨hn, (hfree n hn).mp (of_decide_eq_true hnot)⟩, rfl⟩
  · rintro ⟨n, hop | ⟨hpath, hall⟩, rfl⟩
    · exact Or.inl ⟨n, hop, rfl⟩
    · exact Or.inr ⟨⟨n, hpath, rfl⟩, decide_eq_true ((hfree n hpath).mpr hall)⟩

private theorem identities_nodup {components : PyJson} {nodes : List PyJson}
    {g : Endpoint} (hg : g.components = components) (h : IsParameters components nodes) :
    ((nodes.map (inline components [])).map paramIdentity).Nodup := by
  subst hg
  rw [List.map_map]
  refine List.pairwise_map.mpr (h.distinct.imp_of_mem fun {n m} hn hm hdistinct heq => ?_)
  obtain ⟨name, place, hpn⟩ := h.parameter n hn
  obtain ⟨name', place', hpm⟩ := h.parameter m hm
  obtain ⟨a, b, hab⟩ := hpn.exists_shownIdentity
  have hid := hpn.shownIdentity_iff.mp hab
  have hmid : g.ShownIdentity m a b := hpm.shownIdentity_iff.mpr (heq.symm.trans hid)
  obtain ⟨rfl, rfl⟩ := hpn.same_of_shownIdentity hpm hab hmid
  exact hdistinct name place hpn hpm

/-- No two of the merged parameters have one identity. -/
theorem merged_identities_nodup (h : e.Valid) : (e.merged.map paramIdentity).Nodup := by
  unfold merged
  rw [((sortParams_perm _).map paramIdentity).nodup_iff, mergeParams, List.map_append]
  refine List.nodup_append'.mpr ⟨identities_nodup rfl h.opParams, ?_, ?_⟩
  · exact (identities_nodup rfl h.pathParams).sublist (List.filter_sublist.map paramIdentity)
  · intro id hop hpath
    obtain ⟨t, ht, rfl⟩ := List.mem_map.mp hpath
    exact of_decide_eq_true (List.mem_filter.mp ht).2 hop

theorem eq_of_identity (h : e.Valid) {t u : PyJson} (ht : t ∈ e.merged) (hu : u ∈ e.merged)
    (hid : paramIdentity t = paramIdentity u) : t = u :=
  List.inj_on_of_nodup_map (merged_identities_nodup h) ht hu hid

/-- What is shown of the parameters is what the merged ones are. -/
theorem paramAt_shown_iff (h : e.Valid) {a b : String} {p : List Step} {l : Label} :
    e.ParamAt e.ShownIdentity e.Shows a b p l ↔ ∃ t ∈ e.merged,
      paramIdentity t = (some a, some b) ∧ Outline.labelAt label child t p = some l := by
  constructor
  · rintro ⟨n, hn, hid, hshows⟩
    obtain ⟨name, place, hp⟩ := h.parameter hn.mem
    exact ⟨_, (mem_merged h).mpr ⟨n, hn, rfl⟩, hp.shownIdentity_iff.mp hid,
      labelAt_inline.mpr hshows⟩
  · rintro ⟨t, ht, hid, hlabel⟩
    obtain ⟨n, hn, rfl⟩ := (mem_merged h).mp ht
    obtain ⟨name, place, hp⟩ := h.parameter hn.mem
    exact ⟨n, hn, hp.shownIdentity_iff.mpr hid, labelAt_inline.mp hlabel⟩

theorem Valid.param_ordered (h : e.Valid) {n : PyJson} (hn : n ∈ e.opParams ++ e.pathParams) :
    n.Ordered := by
  rcases List.mem_append.mp hn with hop | hpath
  · unfold Endpoint.opParams parametersOf at hop
    cases hget : e.operation.get "parameters" with
    | none => rw [hget] at hop; cases hop
    | some v =>
        rw [hget] at hop
        exact (h.operationOrdered.get hget).of_mem_elements hop
  · exact h.pathOrdered n hpath

theorem ordered_of_mem_merged (h : e.Valid) {t : PyJson} (ht : t ∈ e.merged) : t.Ordered := by
  obtain ⟨n, hn, rfl⟩ := (mem_merged h).mp ht
  exact ordered_inline h.components (h.param_ordered hn.mem)

private theorem mem_merged_of_alike (he : e.Valid) (hf : f.Valid) (halike : e.AlikeParams f)
    {t : PyJson} (ht : t ∈ e.merged) : t ∈ f.merged := by
  obtain ⟨n, hn, hnt⟩ := (mem_merged he).mp ht
  obtain ⟨name, place, hp⟩ := he.parameter hn.mem
  obtain ⟨a, b, hab⟩ := hp.exists_shownIdentity
  have hid : paramIdentity t = (some a, some b) := by rw [← hnt]; exact hp.shownIdentity_iff.mp hab
  have hroot := (paramAt_shown_iff he).mpr ⟨t, ht, hid, labelAt_nil t⟩
  obtain ⟨u, hu, huid, -⟩ := (paramAt_shown_iff hf).mp ((halike a b _ _).mp hroot)
  have hsame : t = u := by
    refine eq_of_labelAt t u (ordered_of_mem_merged he ht) (ordered_of_mem_merged hf hu) fun p => ?_
    refine Option.ext fun l => ?_
    constructor
    · intro hl
      have hat := (paramAt_shown_iff he).mpr ⟨t, ht, hid, hl⟩
      obtain ⟨w, hw, hwid, hwl⟩ := (paramAt_shown_iff hf).mp ((halike a b p l).mp hat)
      rw [eq_of_identity hf hu hw (huid.trans hwid.symm)]
      exact hwl
    · intro hl
      have hat := (paramAt_shown_iff hf).mpr ⟨u, hu, huid, hl⟩
      obtain ⟨w, hw, hwid, hwl⟩ := (paramAt_shown_iff he).mp ((halike a b p l).mpr hat)
      rw [eq_of_identity he ht hw (hid.trans hwid.symm)]
      exact hwl
  rw [hsame]
  exact hu

theorem sortKey_of_identity {t u : PyJson} {a b : String}
    (ht : paramIdentity t = (some a, some b)) (h : sortKey t = sortKey u)
    (hu : ∃ a' b', paramIdentity u = (some a', some b')) : paramIdentity t = paramIdentity u := by
  obtain ⟨a', b', hu⟩ := hu
  unfold sortKey at h
  rw [ht, hu] at h ⊢
  simp only [Option.getD_some, Prod.mk.injEq] at h
  rw [h.1, h.2]

theorem exists_identity_of_mem_merged (h : e.Valid) {t : PyJson} (ht : t ∈ e.merged) :
    ∃ a b, paramIdentity t = (some a, some b) := by
  obtain ⟨n, hn, rfl⟩ := (mem_merged h).mp ht
  obtain ⟨name, place, hp⟩ := h.parameter hn.mem
  obtain ⟨a, b, hab⟩ := hp.exists_shownIdentity
  exact ⟨a, b, hp.shownIdentity_iff.mp hab⟩

/-- **The merged parameters are the same list exactly when the same parameters are shown.** -/
theorem merged_eq_iff (he : e.Valid) (hf : f.Valid) : e.merged = f.merged ↔ e.AlikeParams f := by
  constructor
  · intro h a b p l
    rw [paramAt_shown_iff he, paramAt_shown_iff hf, h]
  · intro halike
    have hmem : ∀ t, t ∈ e.merged ↔ t ∈ f.merged := fun t =>
      ⟨mem_merged_of_alike he hf halike, mem_merged_of_alike hf he halike.symm⟩
    have hperm : e.merged.Perm f.merged :=
      (List.perm_ext_iff_of_nodup (merged_identities_nodup he).of_map
        (merged_identities_nodup hf).of_map).mpr hmem
    refine hperm.eq_of_pairwise (fun t u ht hu htu hut => ?_) (sortParams_sorted _)
      (sortParams_sorted _)
    have hu' := (hmem u).mpr hu
    obtain ⟨a, b, hab⟩ := exists_identity_of_mem_merged he ht
    exact eq_of_identity he ht hu' (sortKey_of_identity hab (keyLe_antisymm htu hut)
      (exists_identity_of_mem_merged he hu'))

theorem merged_eq_nil_iff : e.merged = [] ↔ e.pathParams = [] ∧ e.opParams = [] := by
  unfold merged
  rw [sortParams_eq_nil, mergeParams_eq_nil, List.map_eq_nil_iff, List.map_eq_nil_iff]

/-- An operation that has no parameters may list none. -/
private theorem lookup_of_empty (h : e.Valid) (hop : e.opParams = []) :
    e.inlinedItems.lookup "parameters"
      = if (e.operation.get "parameters").isSome then some (.list []) else none := by
  rw [h.inlined_parameters]
  unfold Endpoint.opParams parametersOf at hop
  cases hget : e.operation.get "parameters" with
  | none => rfl
  | some v =>
      obtain ⟨nodes, rfl, -⟩ := h.operation.parameters v hget
      rw [hget] at hop
      have hnil : nodes = [] := hop
      rw [hnil, Option.map_some, inline_list]
      rfl

theorem listed_eq_iff (he : e.Valid) (hf : f.Valid) : e.listed = f.listed ↔
    e.merged = f.merged ∧ (e.opParams = [] → e.pathParams = [] →
      ((e.operation.get "parameters").isSome ↔ (f.operation.get "parameters").isSome)) := by
  unfold listed
  by_cases hne : e.pathParams = [] ∧ e.opParams = []
  · have hme := merged_eq_nil_iff.mpr hne
    rw [if_pos hne, lookup_of_empty he hne.2, hme]
    by_cases hnf : f.pathParams = [] ∧ f.opParams = []
    · rw [if_pos hnf, lookup_of_empty hf hnf.2, merged_eq_nil_iff.mpr hnf]
      cases (e.operation.get "parameters").isSome <;>
        cases (f.operation.get "parameters").isSome <;> simp [hne.1, hne.2]
    · have hmf : f.merged ≠ [] := fun h => hnf (merged_eq_nil_iff.mp h)
      rw [if_neg hnf]
      constructor
      · intro h
        cases hlists : (e.operation.get "parameters").isSome with
        | false => simp [hlists] at h
        | true =>
            rw [hlists, if_pos rfl, Option.some.injEq, PyJson.list.injEq] at h
            exact absurd h.symm hmf
      · rintro ⟨h, -⟩
        exact absurd h.symm hmf
  · have hme : e.merged ≠ [] := fun h => hne (merged_eq_nil_iff.mp h)
    rw [if_neg hne]
    by_cases hnf : f.pathParams = [] ∧ f.opParams = []
    · rw [if_pos hnf, lookup_of_empty hf hnf.2, merged_eq_nil_iff.mpr hnf]
      constructor
      · intro h
        cases hlists : (f.operation.get "parameters").isSome with
        | false => simp [hlists] at h
        | true =>
            rw [hlists, if_pos rfl, Option.some.injEq, PyJson.list.injEq] at h
            exact absurd h hme
      · rintro ⟨h, -⟩
        exact absurd h hme
    · rw [if_neg hnf]
      simp only [Option.some.injEq, PyJson.list.injEq]
      constructor
      · intro h
        exact ⟨h, fun hop hpath => absurd ⟨hpath, hop⟩ hne⟩
      · exact And.left

/-- **Operations have the same fingerprint text exactly when they are shown alike.** -/
theorem canonical_eq_iff (he : e.Valid) (hf : f.Valid) :
    e.canonical = f.canonical ↔ e.Alike f := by
  have hbodyOrdered : ∀ {g : Endpoint}, g.Valid → g.body.Ordered := by
    intro g hg
    obtain ⟨items, hitems⟩ := hg.operation.dict
    have hordered := hg.operationOrdered
    unfold body
    rw [hitems] at hordered ⊢
    obtain ⟨hkeys, hvalues⟩ := PyJson.ordered_dict.mp hordered
    refine PyJson.ordered_dict.mpr ⟨?_, fun m hm => hvalues m (List.mem_filter.mp hm).1⟩
    exact hkeys.sublist (List.filter_sublist.map Prod.fst)
  rw [canonical_eq_iff_parts he hf, listed_eq_iff he hf, merged_eq_iff he hf,
    inline_eq_iff he.components hf.components (hbodyOrdered he) (hbodyOrdered hf)]
  constructor
  · rintro ⟨hbody, hparams, hempty⟩
    exact ⟨hbody, hparams, hempty⟩
  · intro h
    exact ⟨h.body, h.parameters, h.empty⟩

end Endpoint

end SdcMcp.SpecDrift
