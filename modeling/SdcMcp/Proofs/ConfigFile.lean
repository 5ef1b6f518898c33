/-
What a configuration file says.

An operator may leave out what has a default and may write the members in any order; a file
that says the same says it in all these spellings.  A configuration that loads is valid, so
a client is made of it for every credential that fits, with the bounds that the file names.
-/
import SdcMcp.Model.ConfigFile
import SdcMcp.Proofs.Scripted

namespace SdcMcp

open Serde

/-! ### Members that are read back -/

theorem asU32_encode (n : UInt32) : asU32 (encodeUnsigned n.toNat) = some n := by
  unfold asU32
  rw [asUnsigned_encode n.toNat_lt (n.toNat_lt.trans (by decide)), Option.map_some,
    UInt32.ofNat_toNat]

theorem asU64_encode (n : UInt64) : asU64 (encodeUnsigned n.toNat) = some n := by
  unfold asU64
  rw [asUnsigned_encode n.toNat_lt n.toNat_lt, Option.map_some, UInt64.ofNat_toNat]

theorem AuthScheme.decode_asWire (scheme : AuthScheme) :
    AuthScheme.decode (.str scheme.asWire) = some scheme := by
  cases scheme <;> rfl

/-- An unsigned integer that was read fits into 64 bits. -/
theorem asUsize_lt {v : Json} {n : Nat} (h : asUsize v = some n) : n < 2 ^ 64 := by
  unfold asUsize asUnsigned at h
  split at h
  · rename_i m
    rw [if_pos m.isLt, Option.some.injEq] at h
    exact h ▸ m.isLt
  · cases h

namespace SdcConfig

/-- The members that an operator need not name, as their defaults are written. -/
def defaults : List (String × Json) :=
  [("endpoint", .str defaultEndpoint),
    ("connect_timeout_ms", encodeUnsigned defaultConnectTimeoutMs.toNat),
    ("request_timeout_ms", encodeUnsigned defaultRequestTimeoutMs.toNat),
    ("max_response_bytes", encodeUnsigned defaultMaxResponseBytes),
    ("max_concurrency", encodeUnsigned defaultMaxConcurrency),
    ("max_page_size", encodeUnsigned defaultMaxPageSize.toNat),
    ("list_page_budget_bytes", encodeUnsigned defaultListPageBudgetBytes),
    ("poll_initial_ms", encodeUnsigned defaultPollInitialMs.toNat),
    ("poll_max_ms", encodeUnsigned defaultPollMaxMs.toNat),
    ("poll_deadline_ms", encodeUnsigned defaultPollDeadlineMs.toNat),
    ("changeset_state_file", .null),
    ("approval_ttl_secs", encodeUnsigned defaultApprovalTtlSecs.toNat),
    ("egress_proxy", .null)]

/-- Members in any order that say what a configuration says, without some of its defaults. -/
structure Spells (config : SdcConfig) (members : List (String × Json)) : Prop where
  nodup : (members.map Prod.fst).Nodup
  said : ∀ e ∈ members, e ∈ config.members
  unsaid : ∀ e ∈ config.members, e ∉ members → e ∈ defaults

/-- The values of a configuration in the order of its members, without some of its defaults at the
end. -/
structure Lists (config : SdcConfig) (items : List Json) : Prop where
  said : items <+: config.members.map Prod.snd
  unsaid : ∀ e ∈ config.members.drop items.length, e ∈ defaults

/-- Integers of the platform's width. -/
structure Fits (config : SdcConfig) : Prop where
  maxResponseBytes : config.maxResponseBytes < 2 ^ 64
  maxConcurrency : config.maxConcurrency < 2 ^ 64
  listPageBudgetBytes : config.listPageBudgetBytes < 2 ^ 64

/-- The slots of a record hold what a configuration says, and are empty for defaults only. -/
def Filled (config : SdcConfig) (f : Fields) : Prop :=
  ∀ i name v, config.members[i]? = some (name, v) → f.slots.getD i none = some v ∨
    f.slots.getD i none = none ∧ Json.lookup name defaults = some v

theorem defaults_nodup : (defaults.map Prod.fst).Nodup := by
  decide

theorem members_nodup (config : SdcConfig) : (config.members.map Prod.fst).Nodup := by
  show names.Nodup
  decide

theorem Spells.filled {config : SdcConfig} {members : List (String × Json)}
    (h : config.Spells members) :
    config.Filled ⟨false, names.map fun n => Json.lookup n members⟩ := by
  intro i name v hi
  have hmem : (name, v) ∈ config.members := List.mem_of_getElem? hi
  have hslot : (names.map fun n => Json.lookup n members).getD i none
      = Json.lookup name members := by
    have hname : names[i]? = some name := by
      show (config.members.map Prod.fst)[i]? = some name
      rw [List.getElem?_map, hi]
      rfl
    rw [List.getD_eq_getElem?_getD, List.getElem?_map, hname]
    rfl
  show (names.map fun n => Json.lookup n members).getD i none = _ ∨ _
  rw [hslot]
  by_cases hsaid : (name, v) ∈ members
  · exact .inl (Json.lookup_of_mem h.nodup hsaid)
  · refine .inr ⟨?_, Json.lookup_of_mem defaults_nodup (h.unsaid _ hmem hsaid)⟩
    cases hlookup : Json.lookup name members with
    | none => rfl
    | some w =>
        have hw := Json.mem_of_lookup hlookup
        have hsame := Json.lookup_of_mem config.members_nodup (h.said _ hw)
        rw [Json.lookup_of_mem config.members_nodup hmem, Option.some.injEq] at hsame
        exact absurd (hsame ▸ hw) hsaid

theorem Lists.filled {config : SdcConfig} {items : List Json} (h : config.Lists items) (n : Nat) :
    config.Filled ⟨true, items.map some ++ List.replicate n none⟩ := by
  intro i name v hi
  have hvalue : (config.members.map Prod.snd)[i]? = some v := by
    rw [List.getElem?_map, hi]
    rfl
  by_cases hlong : i < items.length
  · refine .inl (slot_item ?_)
    rw [← hvalue, List.getElem?_eq_getElem hlong]
    exact (h.said.getElem hlong).symm ▸ (List.getElem?_eq_getElem _).symm
  · refine .inr ⟨slot_missing (Nat.le_of_not_lt hlong), ?_⟩
    refine Json.lookup_of_mem defaults_nodup (h.unsaid _ ?_)
    refine List.mem_of_getElem? (i := i - items.length) ?_
    rw [List.getElem?_drop, Nat.add_sub_cancel' (Nat.le_of_not_lt hlong)]
    exact hi

section Fields

variable {config : SdcConfig} {f : Fields} {i : Nat} {name : String}
  {v : Json} {α : Type} {decode : Json → Option α} {a d : α}

theorem Filled.required (h : config.Filled f) (hi : config.members[i]? = some (name, v))
    (hneeded : Json.lookup name defaults = none) (hv : decode v = some a) :
    Serde.required decode f i = some a := by
  rcases h i name v hi with hsaid | ⟨-, hdefault⟩
  · exact required_eq hsaid hv
  · rw [hneeded] at hdefault
    cases hdefault

theorem Filled.defaulted (h : config.Filled f) (hi : config.members[i]? = some (name, v))
    {w : Json} (hdefault : Json.lookup name defaults = some w) (hd : decode w = some d)
    (hv : decode v = some a) : Serde.defaulted d decode f i = some a := by
  refine defaulted_eq ?_ hv
  rcases h i name v hi with hsaid | ⟨hunsaid, hleft⟩
  · exact .inl hsaid
  · rw [hdefault, Option.some.injEq] at hleft
    exact .inr ⟨hunsaid, hleft ▸ hd⟩

end Fields

/-- A record whose slots say what a configuration says is read as it. -/
theorem decode_filled {config : SdcConfig} (hfits : config.Fits) {v : Json} {f : Fields}
    (hf : fields names true v = some f) (h : config.Filled f) : decode v = some config := by
  have hbind : ∀ {α β : Type} {x : Option α} {g : α → Option β} {a : α} {b : β},
      x = some a → g a = some b → (x >>= g) = some b := by
    rintro α β x g a b rfl hg
    exact hg
  have hoption : ∀ o : Option String, nullable Json.asStr (encodeOption o) = some o :=
    nullable_encodeOption
  have husize : ∀ n, n < 2 ^ 64 → asUsize (encodeUnsigned n) = some n :=
    fun n hn => asUnsigned_encode hn hn
  unfold decode
  refine hbind hf ?_
  refine hbind (h.required rfl rfl (asU32_encode _)) ?_
  refine hbind (h.required rfl rfl rfl) ?_
  refine hbind (h.required rfl rfl rfl) ?_
  refine hbind (h.required rfl rfl rfl) ?_
  refine hbind (h.required rfl rfl (AuthScheme.decode_asWire _)) ?_
  refine hbind (h.defaulted rfl rfl rfl rfl) ?_
  refine hbind (h.defaulted rfl rfl (asU64_encode _)
    (asU64_encode _)) ?_
  refine hbind (h.defaulted rfl rfl (asU64_encode _)
    (asU64_encode _)) ?_
  refine hbind (h.defaulted rfl rfl (husize _ (by decide))
    (husize _ hfits.maxResponseBytes)) ?_
  refine hbind (h.defaulted rfl rfl (husize _ (by decide))
    (husize _ hfits.maxConcurrency)) ?_
  refine hbind (h.defaulted rfl rfl (asU32_encode _) (asU32_encode _)) ?_
  refine hbind (h.defaulted rfl rfl (husize _ (by decide))
    (husize _ hfits.listPageBudgetBytes)) ?_
  refine hbind (h.defaulted rfl rfl (asU64_encode _) (asU64_encode _)) ?_
  refine hbind (h.defaulted rfl rfl (asU64_encode _) (asU64_encode _)) ?_
  refine hbind (h.defaulted rfl rfl (asU64_encode _) (asU64_encode _)) ?_
  refine hbind (h.defaulted rfl rfl rfl (hoption _)) ?_
  refine hbind (h.defaulted rfl rfl (asU64_encode _) (asU64_encode _)) ?_
  refine hbind (h.defaulted rfl rfl rfl (hoption _)) ?_
  rfl

/-- **Every spelling of a configuration is read as it.** -/
theorem decode_spelled {config : SdcConfig} (hfits : config.Fits)
    {members : List (String × Json)} (h : config.Spells members) :
    decode (.obj members) = some config := by
  have hknown : ∀ key ∈ members.map Prod.fst, key ∈ names := by
    intro key hkey
    obtain ⟨e, he, rfl⟩ := List.mem_map.mp hkey
    exact List.mem_map_of_mem (f := Prod.fst) (h.said e he)
  exact decode_filled hfits (fields_obj_iff.mpr ⟨hknown, h.nodup, rfl⟩) h.filled

/-- So is every list of it. -/
theorem decode_listed {config : SdcConfig} (hfits : config.Fits) {items : List Json}
    (h : config.Lists items) : decode (.arr items) = some config := by
  have hlength : items.length ≤ names.length := by
    have hle := h.said.length_le
    rwa [List.length_map] at hle
  exact decode_filled hfits (fields_arr_iff.mpr ⟨hlength, rfl⟩) (h.filled _)

/-- A configuration that is written is read back as it was. -/
theorem decode_encode {config : SdcConfig} (hfits : config.Fits) :
    decode config.encode = some config := by
  refine decode_spelled hfits ⟨?_, fun e he => he, fun e he hunsaid => absurd he hunsaid⟩
  show names.Nodup
  decide

/-- What is read has all members without a default, and its numbers fit. -/
theorem decode_eq_some {config : SdcConfig} {v : Json} (h : decode v = some config) :
    ∃ f, fields names true v = some f ∧ (∀ i < 5, ∃ w, f.slots.getD i none = some w) ∧
      config.Fits := by
  have hthere : ∀ {α : Type} {decode : Json → Option α} {f : Fields} {a : α} {i : Nat},
      required decode f i = some a → ∃ w, f.slots.getD i none = some w := by
    intro α decode f a i hread
    obtain ⟨w, hw, -⟩ := required_eq_some hread
    exact ⟨w, hw⟩
  have hsize : ∀ {d n : Nat} {f : Fields} {i : Nat}, d < 2 ^ 64 →
      defaulted d asUsize f i = some n → n < 2 ^ 64 := by
    intro d n f i hd hread
    rcases defaulted_eq_some hread with rfl | ⟨w, hw⟩
    · exact hd
    · exact asUsize_lt hw
  have hbind : ∀ {α β : Type} {x : Option α} {g : α → Option β} {b : β},
      (x >>= g) = some b → ∃ a, x = some a ∧ g a = some b :=
    fun hrun => Option.bind_eq_some_iff.mp hrun
  unfold decode at h
  obtain ⟨f, hf, h⟩ := hbind h
  obtain ⟨version, hversion, h⟩ := hbind h
  obtain ⟨tenant, htenant, h⟩ := hbind h
  obtain ⟨expected, hexpected, h⟩ := hbind h
  obtain ⟨env, henv, h⟩ := hbind h
  obtain ⟨scheme, hscheme, h⟩ := hbind h
  obtain ⟨endpoint, -, h⟩ := hbind h
  obtain ⟨connect, -, h⟩ := hbind h
  obtain ⟨request, -, h⟩ := hbind h
  obtain ⟨response, hresponse, h⟩ := hbind h
  obtain ⟨concurrency, hconcurrency, h⟩ := hbind h
  obtain ⟨page, -, h⟩ := hbind h
  obtain ⟨budget, hbudget, h⟩ := hbind h
  obtain ⟨initial, -, h⟩ := hbind h
  obtain ⟨maximum, -, h⟩ := hbind h
  obtain ⟨deadline, -, h⟩ := hbind h
  obtain ⟨file, -, h⟩ := hbind h
  obtain ⟨ttl, -, h⟩ := hbind h
  obtain ⟨proxy, -, hmade⟩ := hbind h
  cases hmade
  refine ⟨f, hf, fun i hi => ?_, hsize (by decide) hresponse, hsize (by decide) hconcurrency,
    hsize (by decide) hbudget⟩
  match i, hi with
  | 0, _ => exact hthere hversion
  | 1, _ => exact hthere htenant
  | 2, _ => exact hthere hexpected
  | 3, _ => exact hthere henv
  | 4, _ => exact hthere hscheme

/-- Known members, each of them once, and all that have no default. -/
structure Strict (members : List (String × Json)) : Prop where
  nodup : (members.map Prod.fst).Nodup
  known : ∀ key ∈ members.map Prod.fst, key ∈ names
  needed : ∀ name ∈ names, name ∉ defaults.map Prod.fst → name ∈ members.map Prod.fst

/-- A tree that can be a configuration: an object with the members it has to have, or a list of
their values in order. -/
def Shaped : Json → Prop
  | .obj members => Strict members
  | .arr items => 5 ≤ items.length ∧ items.length ≤ names.length
  | _ => False

/-- What is read is an object with the members it has to have, or a list of their values. -/
theorem decode_shaped {config : SdcConfig} {v : Json} (h : decode v = some config) :
    Shaped v := by
  obtain ⟨f, hf, hthere, -⟩ := decode_eq_some h
  cases v with
  | obj members =>
      obtain ⟨hknown, hnodup, rfl⟩ := fields_obj_iff.mp hf
      have hslots : ∀ i < 5, ∀ name, names[i]? = some name → name ∈ members.map Prod.fst := by
        intro i hi name hname
        obtain ⟨w, hw⟩ := hthere i hi
        rw [List.getD_eq_getElem?_getD, List.getElem?_map, hname] at hw
        have hlookup : Json.lookup name members = some w := hw
        exact List.mem_map_of_mem (f := Prod.fst) (Json.mem_of_lookup hlookup)
      have hneeded : ∀ name ∈ names, name ∉ defaults.map Prod.fst →
          ∃ i < 5, names[i]? = some name := by
        decide
      refine ⟨hnodup, hknown, fun name hname hdefault => ?_⟩
      obtain ⟨i, hi, hone⟩ := hneeded name hname hdefault
      exact hslots i hi name hone
  | arr items =>
      obtain ⟨hlength, rfl⟩ := fields_arr_iff.mp hf
      refine ⟨?_, hlength⟩
      by_contra hshort
      obtain ⟨w, hw⟩ := hthere 4 (by decide)
      rw [slot_missing (by omega)] at hw
      cases hw
  | null | bool _ | num _ | str _ => cases hf

end SdcConfig

/-- A client is made of a valid configuration for every credential that fits, unless the HTTP crate
refuses. -/
theorem SdcConfig.new_loaded [UrlCrate] [HttpCrate] {config : SdcConfig}
    (hvalid : config.validate = .ok ()) :
    ∃ poll egressProxy, config.pollSettings = .ok poll ∧
      config.egressProxyUrl = .ok egressProxy ∧ ∀ credential, SdcClient.new config credential =
        if credential.isEmpty || 16 * 1024 < credential.utf8ByteSize then .error .credential
        else if config.buildsHttp egressProxy then .ok
          { credential := credential
            maxResponseBytes := config.maxResponseBytes
            maxPageSize := config.maxPageSize.toNat
            poll := poll }
        else .error .construction := by
  have hchecked := hvalid
  unfold validate at hchecked
  obtain ⟨-, hchecked⟩ := Except.guard_bind_eq_ok_iff.mp hchecked
  obtain ⟨-, hchecked⟩ := Except.check_bind_eq_ok_iff.mp hchecked
  obtain ⟨-, hchecked⟩ := Except.check_bind_eq_ok_iff.mp hchecked
  obtain ⟨-, hchecked⟩ := Except.check_bind_eq_ok_iff.mp hchecked
  obtain ⟨url, hendpoint, hchecked⟩ := Except.bind_eq_ok_iff.mp hchecked
  obtain ⟨-, hchecked⟩ := Except.guard_bind_eq_ok_iff.mp hchecked
  obtain ⟨-, hchecked⟩ := Except.guard_bind_eq_ok_iff.mp hchecked
  obtain ⟨poll, hpoll, hchecked⟩ := Except.bind_eq_ok_iff.mp hchecked
  obtain ⟨proxy, hproxy, -⟩ := Except.bind_eq_ok_iff.mp hchecked
  have hparts : ∀ credential, SdcClient.fromParts config credential = .ok
      { credential := credential
        maxResponseBytes := config.maxResponseBytes
        maxPageSize := config.maxPageSize.toNat
        poll := poll } := by
    intro credential
    unfold SdcClient.fromParts
    rw [hendpoint, hpoll]
    rfl
  refine ⟨poll, proxy, hpoll, hproxy, fun credential => ?_⟩
  unfold SdcClient.new
  rw [hvalid, hproxy, hparts]
  by_cases hcredential : (credential.isEmpty || 16 * 1024 < credential.utf8ByteSize) = true
  · rw [if_pos hcredential, if_pos hcredential]
    rfl
  · rw [if_neg hcredential, if_neg hcredential]
    show (if (!config.buildsHttp proxy) = true then (Except.error ClientError.construction >>= _)
      else Except.ok _) = _
    cases config.buildsHttp proxy <;> rfl

section Files

variable [Crates] [UrlCrate] [HttpCrate]

/-- **A configuration that loads says one thing.**  The file it was loaded from is an object that
names no unknown member, none twice and each that has no default, or a list of their values; every
other spelling of the configuration, as an object or as a list, loads as the same; and, unless the
HTTP crate refuses, a client is made of it for every credential that fits, with its bounds. -/
theorem loaded_config_serves (bytes : List UInt8) (config : SdcConfig)
    (hload : SdcConfig.fromBytes bytes = .ok config) :
    (∃ v, Crates.readJson bytes = some v ∧ SdcConfig.Shaped v) ∧
    (∀ spelled members, Crates.readJson spelled = some (.obj members) → config.Spells members →
      SdcConfig.fromBytes spelled = .ok config) ∧
    (∀ spelled items, Crates.readJson spelled = some (.arr items) → config.Lists items →
      SdcConfig.fromBytes spelled = .ok config) ∧
    ∃ poll egressProxy, config.pollSettings = .ok poll ∧
      config.egressProxyUrl = .ok egressProxy ∧ ∀ credential, SdcClient.new config credential =
        if credential.isEmpty || 16 * 1024 < credential.utf8ByteSize then .error .credential
        else if config.buildsHttp egressProxy then .ok
          { credential := credential
            maxResponseBytes := config.maxResponseBytes
            maxPageSize := config.maxPageSize.toNat
            poll := poll }
        else .error .construction := by
  unfold SdcConfig.fromBytes at hload
  cases hread : (Crates.readJson bytes).bind SdcConfig.decode with
  | none =>
      rw [hread] at hload
      cases hload
  | some config' =>
      rw [hread] at hload
      obtain ⟨u, hvalid, hsame⟩ := Except.bind_eq_ok_iff.mp hload
      cases hsame
      have hvalid := Except.mapError_eq_ok_iff.mp hvalid
      obtain ⟨v, hv, hdecode⟩ := Option.bind_eq_some_iff.mp hread
      obtain ⟨-, -, -, hfits⟩ := SdcConfig.decode_eq_some hdecode
      have hloads : ∀ spelled w, Crates.readJson spelled = some w →
          SdcConfig.decode w = some config → SdcConfig.fromBytes spelled = .ok config := by
        intro spelled w hw hsame
        unfold SdcConfig.fromBytes
        rw [hw, Option.bind_some, hsame]
        dsimp only
        rw [hvalid]
        rfl
      exact ⟨⟨v, hv, SdcConfig.decode_shaped hdecode⟩,
        fun spelled members hobj hspells =>
          hloads spelled _ hobj (SdcConfig.decode_spelled hfits hspells),
        fun spelled items harr hlists =>
          hloads spelled _ harr (SdcConfig.decode_listed hfits hlists),
        SdcConfig.new_loaded hvalid⟩

end Files

/-! ### A short file -/

section ShortFile

/-- The members without a default. -/
def shortFile : List (String × Json) :=
  [("version", encodeUnsigned 1), ("tenant", .str "tenant-a"),
    ("expected_tenant_id", .str "t-1"), ("credential_env", .str "SDC_KEY"),
    ("auth_scheme", .str "api_key")]

/-- The same, with one default named ahead of the others. -/
def longerFile : List (String × Json) := ("poll_max_ms", encodeUnsigned 3000) :: shortFile

def shortConfig : SdcConfig where
  version := 1
  tenant := "tenant-a"
  expectedTenantId := "t-1"
  credentialEnv := "SDC_KEY"
  authScheme := .apiKey
  endpoint := defaultEndpoint
  connectTimeoutMs := defaultConnectTimeoutMs
  requestTimeoutMs := defaultRequestTimeoutMs
  maxResponseBytes := defaultMaxResponseBytes
  maxConcurrency := defaultMaxConcurrency
  maxPageSize := defaultMaxPageSize
  listPageBudgetBytes := defaultListPageBudgetBytes
  pollInitialMs := defaultPollInitialMs
  pollMaxMs := defaultPollMaxMs
  pollDeadlineMs := defaultPollDeadlineMs
  changesetStateFile := none
  approvalTtlSecs := defaultApprovalTtlSecs
  egressProxy := none

def fileTables : Tables where
  documents := [.obj shortFile, .obj longerFile]
  digests := []

local instance fileCrates : Crates := fileTables.crates

local instance fileUrls : UrlCrate where
  parse := fun raw => if raw = defaultEndpoint then some serviceUrl else none

local instance fileHttp : HttpCrate := plainHttp

set_option maxRecDepth 40000 in
theorem shortFile_loads :
    SdcConfig.fromBytes (Json.obj shortFile).toVec = .ok shortConfig := by rfl

theorem longerFile_spells : shortConfig.Spells longerFile where
  nodup := by decide
  said := by
    intro e he
    simp only [longerFile, shortFile, List.mem_cons, List.not_mem_nil, or_false] at he
    rcases he with rfl | rfl | rfl | rfl | rfl | rfl <;> exact Json.mem_of_lookup rfl
  unsaid := by
    intro e he hunsaid
    simp only [SdcConfig.members, List.mem_cons, List.not_mem_nil, or_false] at he
    rcases he with rfl | rfl | rfl | rfl | rfl | rfl | rfl | rfl | rfl | rfl | rfl | rfl | rfl |
        rfl | rfl | rfl | rfl | rfl <;>
      first
      | exact Json.mem_of_lookup rfl
      | exact absurd (Json.mem_of_lookup rfl) hunsaid

theorem longerFile_loads :
    SdcConfig.fromBytes (Json.obj longerFile).toVec = .ok shortConfig :=
  (loaded_config_serves _ _ shortFile_loads).2.1 _ longerFile rfl longerFile_spells

end ShortFile

end SdcMcp
