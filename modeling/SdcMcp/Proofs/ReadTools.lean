/-
What the read tools ask SDC for.

A list read asks for one page, and SDC takes a page of no items for no bound at all.  The
tool checks the size its caller gave and the client checks it again, so whatever tool is
called with whatever arguments, a request of it names no size but the caller's, and that
is between one and the configured maximum.  A read tool sends nothing but `GET`s.
-/
import SdcMcp.Model.Server
import SdcMcp.Proofs.Commit

namespace SdcMcp

open Interactive

variable {α β : Type}

/-! ### Pages -/

/-- The parameters that bound a page, under the names the three kinds of collection have for
them. -/
def pageSizeKeys : List String := ["size", "spec.size", "limit"]

def Request.pageSizes (q : Request) : List String :=
  (q.query.filter fun parameter => parameter.1 ∈ pageSizeKeys).map Prod.snd

/-- A request for a page of one of the sizes, which is within the bound, or for no page if there
are no sizes. -/
def PageOf (maxPageSize : Nat) (sizes : List Nat) (q : Request) : Prop :=
  (sizes = [] ∧ q.pageSizes = []) ∨
    ∃ size ∈ sizes, q.pageSizes = [toString size] ∧ 1 ≤ size ∧ size ≤ maxPageSize

variable [Crates]

/-- A computation that only reads, pages of these sizes, by requests that pass their checks. -/
def AsksFor (client : SdcClient) (sizes : List Nat) (x : Io α) : Prop :=
  x.Emits fun e => e.isRead = true ∧ ∀ q, e.request = some q →
    checkRequest client q = .ok () ∧ PageOf client.maxPageSize sizes q

theorem AsksFor.mono {client : SdcClient} {sizes sizes' : List Nat} {x : Io α}
    (hx : AsksFor client sizes x) (hsizes : ∀ size ∈ sizes, size ∈ sizes')
    (hne : sizes = [] → sizes' = []) : AsksFor client sizes' x := by
  intro r h e he
  obtain ⟨hread, hpage⟩ := hx r h e he
  refine ⟨hread, fun q hq => ?_⟩
  obtain ⟨hcheck, hpage⟩ := hpage q hq
  refine ⟨hcheck, ?_⟩
  rcases hpage with ⟨hnil, hnone⟩ | ⟨size, hmem, hrest⟩
  · exact Or.inl ⟨hne hnil, hnone⟩
  · exact Or.inr ⟨size, hsizes size hmem, hrest⟩

theorem AsksFor.readsOnly {client : SdcClient} {sizes : List Nat} {x : Io α}
    (hx : AsksFor client sizes x) : ReadsOnly x :=
  fun r h e he => (hx r h e he).1

omit [Crates] in
theorem ListRequest.new_ok {from_ size maxSize : Nat} {page : ListRequest}
    (h : (ListRequest.new from_ size maxSize).mapError SdcError.list = .ok page) :
    page = ⟨from_, size⟩ ∧ 1 ≤ size ∧ size ≤ maxSize := by
  have hnew := Except.mapError_eq_ok_iff.mp h
  unfold ListRequest.new at hnew
  by_cases hc : maxSize = 0 ∨ size = 0 ∨ maxSize < size
  · rw [if_pos hc] at hnew
    cases hnew
  · rw [if_neg hc] at hnew
    cases hnew
    exact ⟨rfl, by omega, by omega⟩

theorem pageRead_asksFor {client : SdcClient} {sizes : List Nat} {from_ size : Nat}
    {read : ListRequest → Io Value}
    (hread : ∀ page, page = ⟨from_, size⟩ → 1 ≤ size → size ≤ client.maxPageSize →
      AsksFor client sizes (read page)) :
    AsksFor client sizes (pageRead client from_ size read) :=
  Run.emits_lift_bind fun page hpage =>
    let hnew := ListRequest.new_ok hpage
    hread page hnew.1 hnew.2.1 hnew.2.2

variable {client : SdcClient}

theorem get_asksFor {sizes : List Nat} (race : Option Nat) (decode : Json → Option α)
    {segments : List String} {query : List (String × String)}
    (hpage : PageOf client.maxPageSize sizes ⟨.get, segments, query, none⟩) :
    AsksFor client sizes (get client race decode segments query) := by
  intro r h e he
  refine ⟨get_readsOnly client race decode segments query r h e he, fun q hq => ?_⟩
  cases hcheck : checkRequest client ⟨.get, segments, query, none⟩ with
  | error e' =>
      rw [get_refused hcheck] at he
      cases he
  | ok u =>
      rw [(get_reading hcheck r h).requests he hq]
      exact ⟨hcheck, hpage⟩

/-- A read of one item names no page. -/
theorem readCall_asksFor (race : Option Nat) (decode : Json → Option α)
    (atoms : List (String × String)) (segments : List String)
    {query : List (String × String)}
    (hquery : (query.filter fun parameter => parameter.1 ∈ pageSizeKeys) = []) :
    AsksFor client [] (readCall client race decode atoms segments query) :=
  Run.emits_bind Run.emits_lift fun _ => get_asksFor race decode
    (Or.inl ⟨rfl, by unfold Request.pageSizes; rw [hquery]; rfl⟩)

/-- The three kinds of list read: a check of the page, and one request that names its size. -/
private theorem paged_asksFor {page : ListRequest} {segments : List String}
    {query : ListRequest → List (String × String)}
    (hquery : ∀ p : ListRequest, (Request.mk .get segments (query p) none).pageSizes
      = [toString p.size]) :
    AsksFor client [page.size] (do
      let page ← Run.lift
        ((ListRequest.new page.from_ page.size client.maxPageSize).mapError .list)
      get client none decodeValue segments (query page)) :=
  Run.emits_lift_bind fun p hp => get_asksFor none decodeValue (by
    obtain ⟨rfl, hlow, hhigh⟩ := ListRequest.new_ok hp
    exact Or.inr ⟨page.size, List.mem_singleton_self _, hquery _, hlow, hhigh⟩)

theorem list_asksFor (segments : List String) (page : ListRequest) :
    AsksFor client [page.size] (list client segments page) :=
  paged_asksFor fun _ => rfl

theorem listCall_asksFor (atoms : List (String × String)) (segments : List String)
    (page : ListRequest) :
    AsksFor client [page.size] (listCall client atoms segments page) :=
  Run.emits_bind Run.emits_lift fun _ => list_asksFor segments page

theorem listV2_asksFor (segments : List String) (page : ListRequest) :
    AsksFor client [page.size] (listV2 client segments page) :=
  paged_asksFor fun _ => rfl

/-- A list read with more checks and further parameters, none of which bounds a page. -/
private theorem pagedWith_asksFor {page : ListRequest} {segments : List String}
    {check : Except SdcError Unit} {first size : String} {more : List (String × String)}
    (hfirst : first ∉ pageSizeKeys) (hsize : size ∈ pageSizeKeys)
    (hmore : ∀ parameter ∈ more, parameter.1 ∉ pageSizeKeys) :
    AsksFor client [page.size] (do
      let page ← Run.lift
        ((ListRequest.new page.from_ page.size client.maxPageSize).mapError .list)
      Run.lift check
      get client none decodeValue segments
        ([(first, toString page.from_), (size, toString page.size)] ++ more)) := by
  refine Run.emits_lift_bind fun p hp => Run.emits_bind Run.emits_lift fun _ =>
    get_asksFor none decodeValue (Or.inr ⟨page.size, List.mem_singleton_self _, ?_⟩)
  obtain ⟨rfl, hlow, hhigh⟩ := ListRequest.new_ok hp
  have hrest : more.filter (fun parameter => parameter.1 ∈ pageSizeKeys) = [] := by
    rw [List.filter_eq_nil_iff]
    intro parameter hparameter
    simpa using hmore parameter hparameter
  refine ⟨?_, hlow, hhigh⟩
  unfold Request.pageSizes
  rw [List.filter_append, hrest]
  simp [hfirst, hsize]

theorem listProjected_asksFor (segments : List String) (page : ListRequest)
    (fields : List String) :
    AsksFor client [page.size] (listProjected client segments page fields) :=
  pagedWith_asksFor (by decide) (by decide) fun parameter hparameter => by
    obtain ⟨field, -, rfl⟩ := List.mem_map.mp hparameter
    exact (by decide : "fields" ∉ pageSizeKeys)

theorem listDeviceGlobalSettings_asksFor (deviceId : Option String) (page : ListRequest) :
    AsksFor client [page.size] (listDeviceGlobalSettings client deviceId page) :=
  pagedWith_asksFor (by decide) (by decide) fun parameter hparameter => by
    obtain ⟨id, -, rfl⟩ := List.mem_map.mp hparameter
    exact (by decide : "device_id" ∉ pageSizeKeys)

theorem listDeviceConfig_asksFor (deviceUuid : String) (section_ : DeviceConfigSection)
    (interfaceName : Option String) (page : ListRequest) :
    AsksFor client [page.size]
      (listDeviceConfig client deviceUuid section_ interfaceName page) := by
  refine Run.emits_bind Run.emits_lift fun _ => ?_
  cases interfaceName with
  | none => exact list_asksFor _ page
  | some name =>
      dsimp only
      split
      · exact Run.emits_fail
      · exact listCall_asksFor _ _ page

theorem AsksFor.map {sizes : List Nat} {x : Io α}
    (hx : AsksFor client sizes x) (f : α → β) :
    AsksFor client sizes (do let a ← x; return f a) :=
  Run.emits_bind hx fun _ => Run.emits_pure

theorem AsksFor.projected {sizes : List Nat} {x : Io Value}
    (hx : AsksFor client sizes x) (project : Value → Except SdcError Value) :
    AsksFor client sizes (projectedCall x project) :=
  Run.emits_bind hx fun _ => Run.emits_lift

/-- A tool that lists asks for the page it was told to ask for. -/
theorem pageRead_asksFor_one {from_ size : Nat} {read : ListRequest → Io Value}
    (hread : ∀ page, AsksFor client [page.size] (read page)) :
    AsksFor client [size] (pageRead client from_ size read) :=
  pageRead_asksFor fun page hpage _ _ => by
    have := hread page
    rw [hpage] at this ⊢
    exact this

/-! ### The tools -/

/-- The size of the page that a tool's caller asks for. -/
def ReadTool.pageSizes : ReadTool → List Nat
  | .listSdcDevices _ size | .listSdcDeviceConfig _ _ _ _ size
  | .listSdcImageDefinitions _ size | .listSdcFirewallPolicies _ size
  | .listSdcNatPolicies _ size | .listSdcFirewallRules _ _ _ size
  | .listSdcFirewallRuleGroups _ _ _ size | .listSdcNatRules _ _ size
  | .listSdcNatRuleGroups _ _ size | .listSdcNatPools _ size | .listSdcDeviceGroups _ size _
  | .listSdcDeviceGlobalSettings _ _ size | .listSdcResources _ _ size _
  | .listSdcIpsRules _ _ size | .listSdcIpsExemptRules _ _ size
  | .listSdcEcfRuleSets _ _ size | .listSdcEcfRules _ _ _ size
  | .listSdcIpsecProfiles _ size | .listSdcTunnels _ size | .listSdcSites _ size => [size]
  | _ => []

/-- The sizes of the pages that a call asks for. -/
def ToolCall.pageSizes : ToolCall → List Nat
  | .read tool _ => tool.pageSizes
  | .listSdcCaCertificates _ size | .listSdcLocalCertificates _ size
  | .listSdcDeviceCaCertificates _ _ size | .listSdcDeviceLocalCertificates _ _ size
  | .listSdcLicenses _ _ size => [size]
  | .listUsersAndRoles _ usersSize _ rolesSize => [usersSize, rolesSize]
  | _ => []

theorem ReadTool.asksFor (tool : ReadTool) :
    AsksFor client tool.pageSizes (tool.read client) := by
  cases tool with
  | getSdcTenantScope => exact (get_asksFor none _ (Or.inl ⟨rfl, rfl⟩)).map _
  | listSdcDevices from_ size | listSdcImageDefinitions from_ size
  | listSdcFirewallPolicies from_ size | listSdcNatPolicies from_ size
  | listSdcNatPools from_ size | listSdcIpsecProfiles from_ size =>
      exact pageRead_asksFor_one fun page => list_asksFor _ page
  | listSdcFirewallRules _ _ from_ size | listSdcFirewallRuleGroups _ _ from_ size
  | listSdcNatRules _ from_ size | listSdcNatRuleGroups _ from_ size
  | listSdcIpsRules _ from_ size | listSdcIpsExemptRules _ from_ size
  | listSdcEcfRuleSets _ from_ size | listSdcEcfRules _ _ from_ size =>
      exact pageRead_asksFor_one fun page => listCall_asksFor _ _ page
  | listSdcTunnels from_ size | listSdcSites from_ size =>
      exact pageRead_asksFor_one fun page => listV2_asksFor _ page
  | listSdcDeviceGroups from_ size fields | listSdcResources _ from_ size fields =>
      exact pageRead_asksFor_one fun page => listProjected_asksFor _ page fields
  | listSdcDeviceGlobalSettings deviceId from_ size =>
      exact pageRead_asksFor_one fun page => listDeviceGlobalSettings_asksFor deviceId page
  | listSdcDeviceConfig device section_ interfaceName from_ size =>
      exact pageRead_asksFor_one fun page => listDeviceConfig_asksFor device section_ _ page
  | getSdcFirewallGlobalSettings | getSdcFirewallGlobalProfile | getSdcContentSecuritySettings
  | getSdcTunnelCount => exact get_asksFor none _ (Or.inl ⟨rfl, rfl⟩)
  | getSdcFirewallPolicyState _ includeAssignedDevices =>
      exact readCall_asksFor none _ _ _ (by cases includeAssignedDevices <;> rfl)
  | getSdcPreviewStatus _ | getSdcDeployStatus _ =>
      exact (readCall_asksFor none _ _ _ rfl).map _
  | getSdcDevice _ | listSdcConfigVersions _ | getSdcDeviceConfigRevision _
  | getSdcImageJobStatus _ _ | getSdcMnhaSyncStatus _ | getSdcRmaState _
  | getSdcRmaReactivationStatus _ | getSdcFirewallPolicy _ | getSdcNatPolicy _
  | getSdcFirewallRule _ _ _ | getSdcFirewallHierarchy _ _ | getSdcNatRule _ _
  | getSdcNatHierarchy _ | getSdcDeviceGroup _ | getSdcNatPool _ | getSdcResource _ _
  | getSdcIpsRule _ _ | getSdcIpsExemptRule _ _ | getSdcIpsecProfile _ | getSdcTunnel _
  | getSdcSite _ | getSdcPreviewDeviceResult _ _ | getSdcDeployDeviceResult _ _ =>
      exact readCall_asksFor none _ _ _ (by decide)

theorem listUsersAndRoles_asksFor (client : SdcClient) (usersPage rolesPage : ListRequest) :
    AsksFor client [usersPage.size, rolesPage.size]
      (listUsersAndRoles client usersPage rolesPage) := by
  refine Run.emits_bind ((listV2_asksFor _ usersPage).mono (by simp) (by simp)) fun users => ?_
  exact ((listV2_asksFor _ rolesPage).mono (by simp) (by simp)).map _

omit [Crates] in
/-- No tool that returns SDC's JSON is a write tool. -/
theorem ReadTool.name_not_write (tool : ReadTool) : tool.name ∉ WRITE_TOOLS := by
  cases tool <;> simp [ReadTool.name, WRITE_TOOLS]

variable [HandlerCrates]

/-- A tool that is no write tool only reads, pages of its caller's sizes. -/
theorem ToolCall.asksFor (handler : SdcHandler) (owner : String) {tool : ToolCall}
    (hread : tool.name ∉ WRITE_TOOLS) :
    AsksFor handler.client tool.pageSizes (tool.io handler owner) := by
  cases tool with
  | read tool paging => exact tool.asksFor
  | listSdcCaCertificates from_ size | listSdcLocalCertificates from_ size =>
      exact pageRead_asksFor_one fun page => (list_asksFor _ page).projected _
  | listSdcDeviceCaCertificates _ from_ size | listSdcDeviceLocalCertificates _ from_ size
  | listSdcLicenses _ from_ size =>
      exact pageRead_asksFor_one fun page => (listCall_asksFor _ _ page).projected _
  | getSdcLicense _ _ => exact (readCall_asksFor none _ _ _ rfl).projected _
  | listUsersAndRoles usersFrom usersSize rolesFrom rolesSize =>
      refine pageRead_asksFor fun usersPage husers _ _ => ?_
      refine pageRead_asksFor fun rolesPage hroles _ _ => ?_
      have hboth := listUsersAndRoles_asksFor handler.client usersPage rolesPage
      rw [husers, hroles] at hboth ⊢
      exact hboth.projected _
  | getSdcChangeSet _ =>
      exact Run.emits_bind (Run.emits_bind Run.emits_ask fun _ => Run.emits_lift) fun _ =>
        Run.emits_pure
  | getSdcChangeSetDetails _ => exact Run.emits_bind Run.emits_ask fun _ => Run.emits_lift
  | prepareSdcPolicyDeploy _ | approveSdcChangeSet _ _ | applySdcChangeSet _
  | prepareSdcObjectWrite _ _ _ _ | applySdcObjectWrite _ | prepareSdcNatWrite _ _ _ _ _
  | applySdcNatWrite _ | prepareSdcFirewallWrite _ _ _ | applySdcFirewallWrite _
  | prepareSdcLicenseWrite _ _ _ | applySdcLicenseWrite _ | prepareSdcDeviceInventorySync _
  | applySdcDeviceInventorySync _ | discardSdcOperation _ _ =>
      exact (hread (by simp [ToolCall.name, WRITE_TOOLS])).elim

end SdcMcp
