/-
When the drift check misses a change.

`diff` reports nothing exactly when the two documents look alike to it,
`not_drifted_iff`: the same version and contract, the same operations, and every
operation shown alike.  So a changed operation goes unreported exactly when the
change is in what is not shown of it, and `drift_complete_iff` says so.
-/
import SdcMcp.Proofs.SpecFingerprints
import SdcMcp.Proofs.Scripted

namespace SdcMcp.SpecDrift

/-! ### What is compared -/

theorem mem_keysWithout {these those : List ((String × String) × String)}
    {key : String × String} : key ∈ keysWithout these those ↔
      key ∈ these.map Prod.fst ∧ key ∉ those.map Prod.fst := by
  unfold keysWithout sortKeys
  rw [List.mem_insertionSort, List.mem_filter, decide_eq_true_iff]

theorem mem_keysChanged {before after : List ((String × String) × String)}
    {key : String × String} : key ∈ keysChanged before after ↔
      key ∈ before.map Prod.fst ∧ key ∈ after.map Prod.fst ∧
        before.lookup key ≠ after.lookup key := by
  unfold keysChanged sortKeys
  rw [List.mem_insertionSort, List.mem_filter, decide_eq_true_iff]

theorem operationKeys_eq_nil_iff {keys : List (String × String)} :
    operationKeys keys = [] ↔ ∀ key ∈ keys, key.1 = "DOC" := by
  unfold operationKeys
  simp [List.filter_eq_nil_iff]

theorem lookup_eq_none_iff_not_mem {prints : List ((String × String) × String)}
    {key : String × String} : prints.lookup key = none ↔ key ∉ prints.map Prod.fst := by
  rw [List.lookup_eq_none_iff]
  constructor
  · intro h hmem
    obtain ⟨m, hm, rfl⟩ := List.mem_map.mp hmem
    exact bne_iff_ne.mp (h m hm) rfl
  · intro h m hm
    refine bne_iff_ne.mpr ?_
    rintro rfl
    exact h (List.mem_map_of_mem hm)

/-- Prints agree when no key is new, gone or changed. -/
theorem lookup_eq_iff {before after : List ((String × String) × String)} :
    (∀ key, before.lookup key = after.lookup key) ↔
      (∀ key ∈ after.map Prod.fst, key ∈ before.map Prod.fst) ∧
      (∀ key ∈ before.map Prod.fst, key ∈ after.map Prod.fst) ∧
      ∀ key, key ∈ before.map Prod.fst → key ∈ after.map Prod.fst →
        before.lookup key = after.lookup key := by
  constructor
  · intro h
    refine ⟨fun key hkey => ?_, fun key hkey => ?_, fun key _ _ => h key⟩
    · by_contra hnot
      exact lookup_eq_none_iff_not_mem.mp
        ((h key).symm.trans (lookup_eq_none_iff_not_mem.mpr hnot)) hkey
    · by_contra hnot
      exact lookup_eq_none_iff_not_mem.mp
        ((h key).trans (lookup_eq_none_iff_not_mem.mpr hnot)) hkey
  · rintro ⟨hadded, hremoved, hchanged⟩ key
    by_cases hbefore : key ∈ before.map Prod.fst
    · exact hchanged key hbefore (hremoved key hbefore)
    · have hafter : key ∉ after.map Prod.fst := fun h => hbefore (hadded key h)
      rw [lookup_eq_none_iff_not_mem.mpr hbefore, lookup_eq_none_iff_not_mem.mpr hafter]

theorem upper_injective {m n : Method} (h : m.upper = n.upper) : m = n := by
  cases m <;> cases n <;> first | rfl | exact absurd h (by decide)

theorem upper_ne_doc (m : Method) : m.upper ≠ "DOC" := by
  cases m <;> decide

section

variable [Crates]

/-- The keys of a document are its contract and its operations. -/
theorem key_cases {spec : PyJson} {key : String × String}
    (h : key ∈ (fingerprints spec).map Prod.fst) :
    key = ("DOC", "") ∨ ∃ (method : Method) (path : String), key = (method.upper, path) := by
  unfold fingerprints at h
  rw [List.map_cons, List.mem_cons] at h
  rcases h with hdoc | hpath
  · exact Or.inl hdoc
  · obtain ⟨print, hprint, rfl⟩ := List.mem_map.mp hpath
    obtain ⟨path, -, hmem⟩ := List.mem_flatMap.mp hprint
    obtain ⟨method, -, hmethod⟩ := List.mem_filterMap.mp hmem
    obtain ⟨operation, -, rfl⟩ := Option.map_eq_some_iff.mp hmethod
    exact Or.inr ⟨method, path.1, rfl⟩

theorem doc_of_key {spec : PyJson} {key : String × String}
    (h : key ∈ (fingerprints spec).map Prod.fst) (hdoc : key.1 = "DOC") : key = ("DOC", "") := by
  rcases key_cases h with hkey | ⟨method, path, rfl⟩
  · exact hkey
  · exact absurd hdoc (upper_ne_doc method)

theorem doc_mem (spec : PyJson) : ("DOC", "") ∈ (fingerprints spec).map Prod.fst :=
  List.mem_cons_self

/-- **Nothing is reported exactly when version and prints agree.** -/
theorem not_drifted_iff_lookup {old new : PyJson} {called : List (List String)} :
    (diff old new called).2 = false ↔ version old = version new ∧
      ∀ key, (fingerprints old).lookup key = (fingerprints new).lookup key := by
  have hdrifted : (diff old new called).2 = false ↔
      operationKeys (keysWithout (fingerprints new) (fingerprints old)) = [] ∧
      operationKeys (keysWithout (fingerprints old) (fingerprints new)) = [] ∧
      operationKeys (keysChanged (fingerprints old) (fingerprints new)) = [] ∧
      ("DOC", "") ∉ keysChanged (fingerprints old) (fingerprints new) ∧
      version old = version new := by
    unfold diff
    simp only [decide_eq_false_iff_not, not_or, ne_eq, not_not, decide_eq_true_eq]
  rw [hdrifted, lookup_eq_iff, operationKeys_eq_nil_iff, operationKeys_eq_nil_iff,
    operationKeys_eq_nil_iff]
  simp only [mem_keysWithout, mem_keysChanged]
  constructor
  · rintro ⟨hadded, hremoved, hchanged, hdoc, hversion⟩
    refine ⟨hversion, fun key hkey => ?_, fun key hkey => ?_, fun key hbefore hafter => ?_⟩
    · by_contra hnot
      exact hnot (doc_of_key hkey (hadded key ⟨hkey, hnot⟩) ▸ doc_mem old)
    · by_contra hnot
      exact hnot (doc_of_key hkey (hremoved key ⟨hkey, hnot⟩) ▸ doc_mem new)
    · by_contra hne
      have hkey := doc_of_key hbefore (hchanged key ⟨hbefore, hafter, hne⟩)
      exact hdoc (hkey ▸ ⟨hbefore, hafter, hne⟩)
  · rintro ⟨hversion, hadded, hremoved, hchanged⟩
    refine ⟨fun key h => ?_, fun key h => ?_, fun key h => ?_, fun h => ?_, hversion⟩
    · exact absurd (hadded key h.1) h.2
    · exact absurd (hremoved key h.1) h.2
    · exact absurd (hchanged key h.1 h.2.1) h.2.2
    · exact h.2.2 (hchanged _ h.1 h.2.1)

/-! ### The fingerprint of an operation -/

/-- The path item of a document for a path. -/
def pathItem (spec : PyJson) (path : String) : Option PyJson :=
  ((spec.get "paths").getD (.dict [])).get path

/-- The parameters of a path item, inlined. -/
def shownParams (components item : PyJson) : List PyJson :=
  (inline components [] ((item.get "parameters").getD (.list []))).elements

omit [Crates] in
theorem ordered_getD {v : PyJson} {key : String} {d : PyJson} (h : v.Ordered) (hd : d.Ordered) :
    ((v.get key).getD d).Ordered := by
  cases hget : v.get key with
  | none => exact hd
  | some w => exact h.get hget

theorem lookup_doc (spec : PyJson) :
    (fingerprints spec).lookup ("DOC", "") = some (fingerprint (docContract spec)) :=
  List.lookup_cons_self

omit [Crates] in
/-- The prints of a path are found by method. -/
theorem lookup_methods (prints : Method → Option String) (specPath : String) (method : Method)
    (path : String) (methods : List Method) :
    (methods.filterMap fun m => (prints m).map fun print => ((m.upper, specPath), print)).lookup
        (method.upper, path)
      = if specPath = path ∧ method ∈ methods then prints method else none := by
  induction methods with
  | nil => simp
  | cons m rest ih =>
      by_cases hkey : specPath = path ∧ method = m
      · obtain ⟨rfl, rfl⟩ := hkey
        rw [if_pos ⟨rfl, List.mem_cons_self⟩]
        cases hprint : prints method with
        | none =>
            rw [List.filterMap_cons_none (by rw [hprint]; rfl), ih, hprint, ite_self]
        | some print =>
            rw [List.filterMap_cons_some (by rw [hprint]; rfl), List.lookup_cons_self]
      · have hsame : (specPath = path ∧ method ∈ m :: rest) ↔
            (specPath = path ∧ method ∈ rest) := by
          constructor
          · rintro ⟨hpath, hmem⟩
            rcases List.mem_cons.mp hmem with heq | hrest
            · exact absurd ⟨hpath, heq⟩ hkey
            · exact ⟨hpath, hrest⟩
          · rintro ⟨hpath, hmem⟩
            exact ⟨hpath, List.mem_cons_of_mem _ hmem⟩
        rw [if_congr hsame rfl rfl, ← ih]
        cases hprint : prints m with
        | none => rw [List.filterMap_cons_none (by rw [hprint]; rfl)]
        | some print =>
            have hne : ((method.upper, path) == (m.upper, specPath)) = false := by
              refine beq_eq_false_iff_ne.mpr fun heq => hkey ?_
              rw [Prod.mk.injEq] at heq
              exact ⟨heq.2.symm, upper_injective heq.1⟩
            rw [List.filterMap_cons_some (by rw [hprint]; rfl), List.lookup_cons, hne]

theorem lookup_pathFingerprints {components item : PyJson} {specPath path : String}
    {method : Method} :
    (pathFingerprints components specPath item).lookup (method.upper, path)
      = if specPath = path then (item.get method.name).map fun operation =>
          fingerprint (operationBody components (shownParams components item) operation)
        else none := by
  have hmem : method ∈ METHODS := by cases method <;> decide
  have hlookup := lookup_methods (fun m => (item.get m.name).map fun operation =>
    fingerprint (operationBody components (shownParams components item) operation))
    specPath method path METHODS
  simp only [Option.map_map, Function.comp_def, hmem, and_true] at hlookup
  exact hlookup

private theorem lookup_paths {components : PyJson} {path : String} {method : Method}
    (items : List (String × PyJson)) (hnd : (items.map Prod.fst).Nodup) :
    (items.flatMap fun m => pathFingerprints components m.1 m.2).lookup (method.upper, path)
      = (items.lookup path).bind fun item => (item.get method.name).map fun operation =>
          fingerprint (operationBody components (shownParams components item) operation) := by
  induction items with
  | nil => rfl
  | cons m rest ih =>
      obtain ⟨specPath, item⟩ := m
      rw [List.map_cons, List.nodup_cons] at hnd
      rw [List.flatMap_cons, List.lookup_append, ih hnd.2, lookup_pathFingerprints,
        List.lookup_cons]
      by_cases hpath : specPath = path
      · have hnone : rest.lookup path = none := by
          refine List.lookup_eq_none_iff.mpr fun m hm => bne_iff_ne.mpr ?_
          rintro rfl
          refine hnd.1 ?_
          exact List.mem_map.mpr ⟨m, hm, hpath.symm⟩
        rw [if_pos hpath, hnone, Option.bind_none, Option.or_none, hpath, beq_self_eq_true]
        rfl
      · have hne : (path == specPath) = false := beq_eq_false_iff_ne.mpr fun h => hpath h.symm
        rw [if_neg hpath, Option.none_or, hne]

/-- The print under a method and a path is that of the operation there. -/
theorem lookup_print {spec : PyJson} (h : spec.Ordered) (method : Method) (path : String) :
    (fingerprints spec).lookup (method.upper, path)
      = (pathItem spec path).bind fun item => (item.get method.name).map fun operation =>
          fingerprint (operationBody (componentsOf spec) (shownParams (componentsOf spec) item)
            operation) := by
  have hne : ((method.upper, path) == ("DOC", "")) = false :=
    beq_eq_false_iff_ne.mpr fun h => upper_ne_doc method (congrArg Prod.fst h)
  have hpaths : ((spec.get "paths").getD (.dict [])).Ordered := ordered_getD h (by simp)
  unfold fingerprints
  rw [List.lookup_cons, hne]
  exact lookup_paths _ hpaths.items_nodup

/-- **The print of an operation is taken of its canonical value.** -/
theorem lookup_operation {spec : PyJson} (h : OpenApi spec) (method : Method) (path : String) :
    (fingerprints spec).lookup (method.upper, path)
      = (endpointAt spec path method).map fun e => fingerprint e.canonical := by
  obtain ⟨items, hitems, hpaths⟩ := h.paths
  rw [lookup_print h.ordered]
  unfold endpointAt pathItem
  rw [hitems, Option.getD_some, Option.map_bind]
  refine Option.bind_congr fun item hitem => ?_
  have hlists := (hpaths _ (PyJson.mem_of_lookup hitem)).parameters
  rw [Function.comp_apply, Option.map_map]
  unfold shownParams
  rw [hlists.inlined]
  rfl

/-- Prints agree when those of the contract and of the operations do. -/
theorem lookup_eq_of_prints {old new : PyJson} (hdoc : docContract old = docContract new)
    (hops : ∀ (method : Method) path, (fingerprints old).lookup (method.upper, path)
      = (fingerprints new).lookup (method.upper, path)) (key : String × String) :
    (fingerprints old).lookup key = (fingerprints new).lookup key := by
  by_cases hkey : key ∈ (fingerprints old).map Prod.fst ∨ key ∈ (fingerprints new).map Prod.fst
  · have hcases : key = ("DOC", "") ∨
        ∃ (method : Method) (path : String), key = (method.upper, path) := by
      rcases hkey with h | h
      · exact key_cases h
      · exact key_cases h
    rcases hcases with rfl | ⟨method, path, rfl⟩
    · rw [lookup_doc, lookup_doc, hdoc]
    · exact hops method path
  · rw [not_or] at hkey
    rw [lookup_eq_none_iff_not_mem.mpr hkey.1, lookup_eq_none_iff_not_mem.mpr hkey.2]

theorem fingerprint_eq_iff (hsha : Function.Injective Crates.sha256) {v w : PyJson} :
    fingerprint v = fingerprint w ↔ v = w := by
  constructor
  · intro h
    have hbytes := hsha (Hex.encode_injective h)
    exact PyJson.dumps_injective (Json.utf8_injective hbytes)
  · intro h
    rw [h]

end

/-! ### Operations of an OpenAPI document -/

theorem endpointAt_valid {spec : PyJson} (h : OpenApi spec) {path : String} {method : Method}
    {e : Endpoint} (he : endpointAt spec path method = some e) : e.Valid := by
  obtain ⟨items, hitems, hpaths⟩ := h.paths
  unfold endpointAt at he
  rw [hitems] at he
  obtain ⟨item, hitem, hop⟩ := Option.bind_eq_some_iff.mp he
  obtain ⟨operation, hoperation, rfl⟩ := Option.map_eq_some_iff.mp hop
  have hmem : (path, item) ∈ items := PyJson.mem_of_lookup hitem
  have hitemOrdered : item.Ordered := (h.ordered.get hitems).of_mem_items hmem
  have hempty : (PyJson.dict []).Ordered := by simp
  have hnone : (PyJson.list []).Ordered := by simp
  refine ⟨ordered_getD h.ordered hempty, hitemOrdered.get hoperation, fun n hn => ?_,
    (hpaths _ hmem).operation method operation hoperation,
    (hpaths _ hmem).parameters.isParameters⟩
  exact (ordered_getD hitemOrdered hnone).of_mem_elements hn

/-- **Nothing is reported exactly when the documents look alike.** -/
theorem not_drifted_iff [Crates] (hsha : Function.Injective Crates.sha256) {old new : PyJson}
    (hold : OpenApi old) (hnew : OpenApi new) {called : List (List String)} :
    (diff old new called).2 = false ↔ LooksAlike old new := by
  rw [not_drifted_iff_lookup]
  constructor
  · rintro ⟨hversion, hlookup⟩
    have hoperation : ∀ path method, (endpointAt old path method).map
        (fun e => fingerprint e.canonical)
          = (endpointAt new path method).map fun e => fingerprint e.canonical := by
      intro path method
      rw [← lookup_operation hold, ← lookup_operation hnew, hlookup]
    refine ⟨hversion, ?_, fun path method => ?_, fun path method e f he hf => ?_⟩
    · have hdoc := hlookup ("DOC", "")
      rw [lookup_doc, lookup_doc, Option.some.injEq] at hdoc
      exact (fingerprint_eq_iff hsha).mp hdoc
    · have hsome := congrArg Option.isSome (hoperation path method)
      rw [Option.isSome_map, Option.isSome_map] at hsome
      rw [hsome]
    · have hprint := hoperation path method
      rw [he, hf, Option.map_some, Option.map_some, Option.some.injEq] at hprint
      exact (Endpoint.canonical_eq_iff (endpointAt_valid hold he) (endpointAt_valid hnew hf)).mp
        ((fingerprint_eq_iff hsha).mp hprint)
  · intro halike
    refine ⟨halike.version, lookup_eq_of_prints halike.contract fun method path => ?_⟩
    rw [lookup_operation hold, lookup_operation hnew]
    cases he : endpointAt old path method with
    | none =>
        cases hf : endpointAt new path method with
        | none => rfl
        | some f =>
            have hiff := halike.operations path method
            rw [he, hf] at hiff
            exact absurd (hiff.mpr rfl) (by simp)
    | some e =>
        cases hf : endpointAt new path method with
        | none =>
            have hiff := halike.operations path method
            rw [he, hf] at hiff
            exact absurd (hiff.mp rfl) (by simp)
        | some f =>
            have hcanonical := (Endpoint.canonical_eq_iff (endpointAt_valid hold he)
              (endpointAt_valid hnew hf)).mpr (halike.alike path method e f he hf)
            rw [Option.map_some, Option.map_some, hcanonical]

/-- **A changed operation is always reported, except where the documents look alike and differ
in what is hidden.** -/
theorem drift_complete_iff [Crates] (hsha : Function.Injective Crates.sha256) {old new : PyJson}
    (hold : OpenApi old) (hnew : OpenApi new) (called : List (List String)) :
    ((∃ path method e f, endpointAt old path method = some e ∧
        endpointAt new path method = some f ∧ ¬e.Same f) →
      (diff old new called).2 = true) ↔
    (LooksAlike old new → ∀ path method e f, endpointAt old path method = some e →
      endpointAt new path method = some f → e.HiddenAgree f) := by
  constructor
  · intro hreported halike path method e f he hf
    have hquiet : (diff old new called).2 = false := (not_drifted_iff hsha hold hnew).mpr halike
    refine Endpoint.Same.hiddenAgree (endpointAt_valid hold he) (endpointAt_valid hnew hf) ?_
    by_contra hdiffers
    have hloud := hreported ⟨path, method, e, f, he, hf, hdiffers⟩
    rw [hquiet] at hloud
    cases hloud
  · rintro hhidden ⟨path, method, e, f, he, hf, hdiffers⟩
    by_contra hquiet
    have halike : LooksAlike old new :=
      (not_drifted_iff hsha hold hnew).mp (Bool.eq_false_iff.mpr hquiet)
    exact hdiffers (Endpoint.same_of_alike (endpointAt_valid hold he) (endpointAt_valid hnew hf)
      (halike.alike path method e f he hf) (hhidden halike path method e f he hf))

/-! ### A change behind a deeper pointer -/

/-- A document whose one operation answers with a property of the schema `D`. -/
def pointerSpec (kind : String) : PyJson :=
  .dict
    [("components", .dict [("schemas", .dict [("D", .dict [("properties",
        .dict [("a", .dict [("type", .str kind)])])])])]),
     ("info", .dict [("title", .str "t"), ("version", .str "1.0.0")]),
     ("openapi", .str "3.0.0"),
     ("paths", .dict [("/api/v1/devices", .dict [("get", .dict [("responses",
        .dict [("200", .dict [("content", .dict [("application/json", .dict [("schema",
          .dict [("$ref", .str "#/components/schemas/D/properties/a")])])]),
          ("description", .str "ok")])])])])])]

private theorem not_listed {items : List (String × PyJson)} {components : PyJson}
    (h : items.lookup "parameters" = none) : ListsParameters components (.dict items) := by
  intro listed hlisted
  rw [show items.lookup "parameters" = some listed from hlisted] at h
  cases h

private theorem pointerSpec_openApi (kind : String) : OpenApi (pointerSpec kind) where
  ordered := by
    simp only [pointerSpec, PyJson.ordered_dict, PyJson.ordered_str, List.forall_mem_cons,
      List.not_mem_nil, List.map_cons, List.map_nil, false_implies, implies_true, and_true,
      true_and]
    decide +kernel
  version := ⟨_, _, rfl, rfl⟩
  components := by
    refine ⟨_, rfl, fun k hk => ?_⟩
    rw [List.mem_singleton] at hk
    subst hk
    exact Or.inr ⟨_, rfl⟩
  paths := by
    refine ⟨_, rfl, fun path hpath => ?_⟩
    rw [List.mem_singleton] at hpath
    subst hpath
    refine ⟨⟨_, rfl⟩, not_listed rfl, fun method operation h => ?_⟩
    cases method with
    | get =>
        cases h
        exact ⟨⟨_, rfl⟩, rfl, not_listed rfl⟩
    | _ => cases h

/-- The operation of the document. -/
def pointerEndpoint (kind : String) : Endpoint :=
  { components := componentsOf (pointerSpec kind)
    operation := ((((pointerSpec kind).get "paths").bind (·.get "/api/v1/devices")).bind
      (·.get "get")).getD (.dict [])
    pathParams := [] }

private theorem pointerEndpoint_at (kind : String) :
    endpointAt (pointerSpec kind) "/api/v1/devices" .get = some (pointerEndpoint kind) := rfl

/-- The kind of the property stands in the unfolding of the operation. -/
private theorem pointer_denotes (kind : String) : (pointerEndpoint kind).Denotes
    (pointerEndpoint kind).body
    [.key "responses", .key "200", .key "content", .key "application/json", .key "schema",
      .key "type"] (.str kind) := by
  have hlocal : localRef (.dict [("$ref", .str "#/components/schemas/D/properties/a")])
      = some "#/components/schemas/D/properties/a" := by
    decide +kernel
  have htarget : target (componentsOf (pointerSpec kind)) "#/components/schemas/D/properties/a"
      = some (.dict [("type", .str kind)]) := rfl
  refine .child rfl rfl (.child rfl rfl (.child rfl rfl (.child rfl rfl (.child rfl rfl ?_))))
  exact .follow hlocal htarget (.child rfl rfl (.here rfl))

private theorem pointer_quiet [Crates] (called : List (List String)) :
    (diff (pointerSpec "string") (pointerSpec "integer") called).2 = false := by
  have hpaths : ∀ kind, fingerprints (pointerSpec kind)
      = [(("DOC", ""), fingerprint (docContract (pointerSpec kind))),
        (("GET", "/api/v1/devices"), fingerprint (pointerEndpoint kind).canonical)] := by
    intro kind
    rfl
  have hbody : (pointerEndpoint "string").canonical.dumps
      = (pointerEndpoint "integer").canonical.dumps := by decide +kernel
  refine not_drifted_iff_lookup.mpr ⟨rfl, fun key => ?_⟩
  rw [hpaths, hpaths]
  unfold fingerprint
  rw [hbody]
  rfl

private theorem pointer_differs : ¬(pointerEndpoint "string").Same (pointerEndpoint "integer") := by
  intro hsame
  have hstring := (hsame.body _ _).mp (pointer_denotes "string")
  have hlabel := hstring.unique (pointer_denotes "integer")
  rw [Label.str.injEq] at hlabel
  exact absurd hlabel (by decide)

/-- A property that changes its type behind a deeper pointer changes the operation, and
nothing is reported. -/
theorem pointed_change_unreported :
    OpenApi (pointerSpec "string") ∧ OpenApi (pointerSpec "integer") ∧
    (∃ path method e f, endpointAt (pointerSpec "string") path method = some e ∧
      endpointAt (pointerSpec "integer") path method = some f ∧ ¬e.Same f) ∧
    ∀ [Crates], (diff (pointerSpec "string") (pointerSpec "integer") []).2 = false := by
  refine ⟨pointerSpec_openApi _, pointerSpec_openApi _, ?_, pointer_quiet []⟩
  exact ⟨_, _, _, _, pointerEndpoint_at _, pointerEndpoint_at _, pointer_differs⟩

section Hidden

def driftTables : Tables where
  documents := []
  digests :=
    [(.obj [("security", .arr []), ("securitySchemes", .obj []), ("servers", .arr [])],
      [185, 81, 150, 96, 150, 8, 26, 214, 108, 123, 25, 74, 253, 31, 120, 174, 210, 132, 2, 119,
        193, 178, 202, 86, 89, 8, 98, 88, 6, 207, 102, 83]),
     (.obj [("responses", .obj [("200", .obj [("content", .obj [("application/json",
        .obj [("schema", .obj [("$ref", .str "#/components/schemas/D/properties/a")])])]),
        ("description", .str "ok")])])],
      [244, 181, 138, 25, 93, 57, 71, 30, 45, 205, 147, 243, 34, 140, 204, 144, 8, 59, 245, 136,
        10, 21, 215, 113, 71, 8, 171, 74, 98, 231, 206, 172])]

local instance driftCrates : Crates := driftTables.crates

/-- The two documents look alike, and they differ in what is hidden. -/
theorem pointed_change_hidden : LooksAlike (pointerSpec "string") (pointerSpec "integer") ∧
    ¬∀ path method e f, endpointAt (pointerSpec "string") path method = some e →
      endpointAt (pointerSpec "integer") path method = some f → e.HiddenAgree f := by
  have hsha : Function.Injective (Crates.sha256 : List UInt8 → List UInt8) :=
    Tables.sha256_injective (by decide) (by simp [driftTables])
  have hiff := drift_complete_iff hsha (pointerSpec_openApi "string")
    (pointerSpec_openApi "integer") []
  refine Classical.not_imp.mp fun hagree => ?_
  have hloud := hiff.mpr hagree
    ⟨_, _, _, _, pointerEndpoint_at _, pointerEndpoint_at _, pointer_differs⟩
  rw [pointer_quiet] at hloud
  cases hloud

end Hidden

end SdcMcp.SpecDrift
