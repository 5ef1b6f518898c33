/-
The read tools of `server.rs` and the client calls they make.

A tool hands its arguments to one call of the client.  Seven tools put a field allowlist
over what comes back, for certificates, licenses, users and roles; the others return
SDC's JSON as it is, but for the redaction and the paging that come after.  What a tool
reads is modelled here, not what it does with it.
-/
import SdcMcp.Model.Calls

namespace SdcMcp

open Interactive Serde

variable [Crates]

/-! ### The client -/

/-- A list read that asks for some fields of each item only. -/
def listProjected (client : SdcClient) (segments : List String) (page : ListRequest)
    (fields : List String) : Io Value := do
  let page ← Run.lift ((ListRequest.new page.from_ page.size client.maxPageSize).mapError .list)
  Run.lift (fields.forM (validateAtom "fields"))
  get client none decodeValue segments
    ([("from", toString page.from_), ("size", toString page.size)] ++
      fields.map fun field => ("fields", field))

/-- The collections of the second version name their page parameters otherwise. -/
def listV2 (client : SdcClient) (segments : List String) (page : ListRequest) : Io Value := do
  let page ← Run.lift ((ListRequest.new page.from_ page.size client.maxPageSize).mapError .list)
  get client none decodeValue segments
    [("spec.from", toString page.from_), ("spec.size", toString page.size)]

structure TenantScope where
  tenantId : String

def TenantScope.decode (v : Json) : Option TenantScope := do
  let f ← fields ["tenant_id"] false v
  let tenantId ← required Json.asStr f 0
  return ⟨tenantId⟩

def tenantScope (client : SdcClient) : Io TenantScope :=
  get client none TenantScope.decode ["api", "v2", "tenant", "tenant-id"] []

def listDevices (client : SdcClient) (page : ListRequest) : Io Value :=
  list client ["api", "v1", "devices"] page

def listConfigVersions (client : SdcClient) (deviceUuid : String) : Io Value :=
  readCall client none decodeValue [("device_uuid", deviceUuid)]
    ["api", "v1", "devices", deviceUuid, "config", "versions"] []

inductive DeviceConfigSection where
  | interfaces
  | subinterfaces
  | zones
  | routingInstances
  | idpSensors
  deriving DecidableEq

def DeviceConfigSection.segment : DeviceConfigSection → String
  | .interfaces => "interfaces"
  | .subinterfaces => "subinterfaces"
  | .zones => "zones"
  | .routingInstances => "routing_instances"
  | .idpSensors => "idp_sensors"

/-- The interfaces below one interface, whose name has underscores for its slashes in a path. -/
def listSubinterfaces (client : SdcClient) (deviceUuid interfaceName : String)
    (page : ListRequest) : Io Value :=
  listCall client [("interface_name", interfaceName)]
    ["api", "v1", "devices", deviceUuid, "config", "interfaces",
      interfaceName.map fun c => if c = '/' then '_' else c, "subinterfaces"] page

def listDeviceConfig (client : SdcClient) (deviceUuid : String) (section_ : DeviceConfigSection)
    (interfaceName : Option String) (page : ListRequest) : Io Value := do
  Run.lift (validateAtom "device_uuid" deviceUuid)
  match interfaceName with
  | none =>
      list client ["api", "v1", "devices", deviceUuid, "config", section_.segment] page
  | some interfaceName =>
      if section_ ≠ .subinterfaces then
        Run.fail (.invalidInput "interface_name is only valid with section=subinterfaces")
      else listSubinterfaces client deviceUuid interfaceName page

def getDeviceConfigRevision (client : SdcClient) (deviceUuid : String) : Io Value :=
  readCall client none decodeValue [("device_uuid", deviceUuid)]
    ["api", "v1", "devices", deviceUuid, "config", "latest_version"] []

def listImageDefinitions (client : SdcClient) (page : ListRequest) : Io Value :=
  list client ["api", "v1", "device_image_definitions"] page

inductive ImageJob where
  | stage
  | deploy
  deriving DecidableEq

def ImageJob.segment : ImageJob → String
  | .stage => "stage_image"
  | .deploy => "deploy_image"

def getImageJobStatus (client : SdcClient) (job : ImageJob) (jobId : String) : Io Value :=
  readCall client none decodeValue [("job_id", jobId)]
    ["api", "v1", "device_image_definitions", job.segment, jobId] []

def getMnhaSyncStatus (client : SdcClient) (mnhaSyncId : String) : Io Value :=
  readCall client none decodeValue [("mnha_sync_id", mnhaSyncId)]
    ["api", "v1", "mnha_clusters", "sync", mnhaSyncId] []

def getRmaState (client : SdcClient) (deviceId : String) : Io Value :=
  readCall client none decodeValue [("device_id", deviceId)]
    ["api", "v1", "devices", deviceId, "rma", "state"] []

def getRmaReactivationStatus (client : SdcClient) (reactivationId : String) : Io Value :=
  readCall client none decodeValue [("reactivation_id", reactivationId)]
    ["api", "v1", "devices", "rma", "reactivate", reactivationId] []

def listFirewallPolicies (client : SdcClient) (page : ListRequest) : Io Value :=
  list client ["api", "v1", "policies", "firewall"] page

def listNatPolicies (client : SdcClient) (page : ListRequest) : Io Value :=
  list client ["api", "v1", "policies", "nat"] page

def listFirewallRules (client : SdcClient) (policyUuid scope : String) (page : ListRequest) :
    Io Value :=
  listCall client [("policy_uuid", policyUuid), ("scope", scope)]
    ["api", "v1", "policies", "firewall", policyUuid, scope, "rules"] page

def getFirewallRule (client : SdcClient) (policyUuid scope ruleUuid : String) : Io Value :=
  readCall client none decodeValue
    [("policy_uuid", policyUuid), ("scope", scope), ("rule_uuid", ruleUuid)]
    ["api", "v1", "policies", "firewall", policyUuid, scope, "rules", ruleUuid] []

def listFirewallRuleGroups (client : SdcClient) (policyUuid scope : String)
    (page : ListRequest) : Io Value :=
  listCall client [("policy_uuid", policyUuid), ("scope", scope)]
    ["api", "v1", "policies", "firewall", policyUuid, scope, "rule_groups"] page

/-- The API misspells the last segment. -/
def getFirewallHierarchy (client : SdcClient) (policyUuid scope : String) : Io Value :=
  readCall client none decodeValue [("policy_uuid", policyUuid), ("scope", scope)]
    ["api", "v1", "policies", "firewall", policyUuid, scope, "heirarchy"] []

def listNatRules (client : SdcClient) (policyId : String) (page : ListRequest) : Io Value :=
  listCall client [("policy_id", policyId)] ["api", "v1", "policies", "nat", policyId, "rules"]
    page

def listNatRuleGroups (client : SdcClient) (policyId : String) (page : ListRequest) : Io Value :=
  listCall client [("policy_id", policyId)]
    ["api", "v1", "policies", "nat", policyId, "rule_groups"] page

def getNatHierarchy (client : SdcClient) (policyId : String) : Io Value :=
  readCall client none decodeValue [("policy_id", policyId)]
    ["api", "v1", "policies", "nat", policyId, "hierarchy"] []

def getFirewallPolicyState (client : SdcClient) (policyUuid : String)
    (includeAssignedDevices : Bool) : Io Value :=
  readCall client none decodeValue [("policy_uuid", policyUuid)]
    ["api", "v1", "policies", "firewall", policyUuid, "state"]
    (if includeAssignedDevices then [("include_assigned_devices", "true")] else [])

def listNatPools (client : SdcClient) (page : ListRequest) : Io Value :=
  list client ["api", "v1", "nat_pools"] page

def listDeviceGroups (client : SdcClient) (page : ListRequest) (fields : List String) :
    Io Value :=
  listProjected client ["api", "v1", "device_groups"] page fields

def getDeviceGroup (client : SdcClient) (groupUuid : String) : Io Value :=
  readCall client none decodeValue [("group_uuid", groupUuid)]
    ["api", "v1", "device_groups", groupUuid] []

def getNatPool (client : SdcClient) (poolId : String) : Io Value :=
  readCall client none decodeValue [("pool_id", poolId)] ["api", "v1", "nat_pools", poolId] []

def listResource (client : SdcClient) (kind : ResourceKind) (page : ListRequest)
    (fields : List String) : Io Value :=
  listProjected client kind.collectionSegments page fields

def listIpsRules (client : SdcClient) (profileUuid : String) (page : ListRequest) : Io Value :=
  listCall client [("profile_uuid", profileUuid)]
    ["api", "v1", "ips_profiles", profileUuid, "ips_rules"] page

def getIpsRule (client : SdcClient) (profileUuid ruleUuid : String) : Io Value :=
  readCall client none decodeValue [("profile_uuid", profileUuid), ("rule_uuid", ruleUuid)]
    ["api", "v1", "ips_profiles", profileUuid, "ips_rules", ruleUuid] []

def listIpsExemptRules (client : SdcClient) (profileUuid : String) (page : ListRequest) :
    Io Value :=
  listCall client [("profile_uuid", profileUuid)]
    ["api", "v1", "ips_profiles", profileUuid, "exempt_rules"] page

def getIpsExemptRule (client : SdcClient) (profileUuid ruleUuid : String) : Io Value :=
  readCall client none decodeValue [("profile_uuid", profileUuid), ("rule_uuid", ruleUuid)]
    ["api", "v1", "ips_profiles", profileUuid, "exempt_rules", ruleUuid] []

def listEcfRuleSets (client : SdcClient) (profileUuid : String) (page : ListRequest) :
    Io Value :=
  listCall client [("profile_uuid", profileUuid)]
    ["api", "v1", "enhanced_content_filtering_profiles", profileUuid, "rule_sets"] page

def listEcfRules (client : SdcClient) (profileUuid ruleSetUuid : String) (page : ListRequest) :
    Io Value :=
  listCall client [("profile_uuid", profileUuid), ("rule_set_uuid", ruleSetUuid)]
    ["api", "v1", "enhanced_content_filtering_profiles", profileUuid, "rule_sets", ruleSetUuid,
      "rules"] page

def getFirewallGlobalSettings (client : SdcClient) : Io Value :=
  get client none decodeValue ["api", "v1", "firewall_global_settings"] []

def getFirewallGlobalProfile (client : SdcClient) : Io Value :=
  get client none decodeValue ["api", "v1", "firewall_global_profiles"] []

def getContentSecuritySettings (client : SdcClient) : Io Value :=
  get client none decodeValue ["api", "v1", "content_security_settings"] []

/-- This one pages with an offset and a limit. -/
def listDeviceGlobalSettings (client : SdcClient) (deviceId : Option String)
    (page : ListRequest) : Io Value := do
  let page ← Run.lift ((ListRequest.new page.from_ page.size client.maxPageSize).mapError .list)
  Run.lift (deviceId.toList.forM (validateAtom "device_id"))
  get client none decodeValue ["api", "v1", "firewall_device_global_settings"]
    ([("offset", toString page.from_), ("limit", toString page.size)] ++
      deviceId.toList.map fun id => ("device_id", id))

def listUsers (client : SdcClient) (page : ListRequest) : Io Value :=
  listV2 client ["api", "v2", "users"] page

def listRoles (client : SdcClient) (page : ListRequest) : Io Value :=
  listV2 client ["api", "v2", "roles"] page

def listIpsecProfiles (client : SdcClient) (page : ListRequest) : Io Value :=
  list client ["api", "v2", "ipsec-profiles"] page

def getIpsecProfile (client : SdcClient) (profileName : String) : Io Value :=
  readCall client none decodeValue [("profile_name", profileName)]
    ["api", "v2", "ipsec-profile", profileName] []

def listTunnels (client : SdcClient) (page : ListRequest) : Io Value :=
  listV2 client ["api", "v2", "tunnels"] page

def getTunnel (client : SdcClient) (tunnelId : String) : Io Value :=
  readCall client none decodeValue [("tunnel_id", tunnelId)] ["api", "v2", "tunnel", tunnelId] []

def tunnelCount (client : SdcClient) : Io Value :=
  get client none decodeValue ["api", "v2", "tunnels", "status", "count"] []

def listSites (client : SdcClient) (page : ListRequest) : Io Value :=
  listV2 client ["api", "v2", "sites"] page

def getSite (client : SdcClient) (siteName : String) : Io Value :=
  readCall client none decodeValue [("site_name", siteName)] ["api", "v2", "site", siteName] []

/-- The certificates of all devices. -/
def listCaCertificates (client : SdcClient) (page : ListRequest) : Io Value :=
  list client ["api", "v1", "devices", "ca_certificates"] page

def listLocalCertificates (client : SdcClient) (page : ListRequest) : Io Value :=
  list client ["api", "v1", "devices", "local_certificates"] page

def getLicense (client : SdcClient) (deviceUuid licenseUuid : String) : Io Value :=
  readCall client none decodeValue [("device_uuid", deviceUuid), ("license_uuid", licenseUuid)]
    ["api", "v1", "devices", deviceUuid, "licenses", licenseUuid] []

def deployDeviceResult (client : SdcClient) (deployId deviceId : String) : Io Value :=
  readCall client none decodeValue [("deploy_id", deployId), ("device_id", deviceId)]
    ["api", "v1", "policies", "deploy", deployId, "devices", deviceId] [("format", "CLI")]

/-! ### The tools -/

/-- The page a tool was asked for, checked by the tool and then by the client. -/
def pageRead (client : SdcClient) (from_ size : Nat) (read : ListRequest → Io Value) :
    Io Value := do
  let page ← Run.lift ((ListRequest.new from_ size client.maxPageSize).mapError .list)
  read page

/-- A tool that returns SDC's JSON without a field allowlist, with its arguments. -/
inductive ReadTool where
  | getSdcTenantScope
  | listSdcDevices (from_ size : Nat)
  | getSdcDevice (deviceUuid : String)
  | listSdcConfigVersions (deviceUuid : String)
  | listSdcDeviceConfig (deviceUuid : String) (section_ : DeviceConfigSection)
      (interfaceName : Option String) (from_ size : Nat)
  | getSdcDeviceConfigRevision (deviceUuid : String)
  | listSdcImageDefinitions (from_ size : Nat)
  | getSdcImageJobStatus (job : ImageJob) (jobId : String)
  | getSdcMnhaSyncStatus (mnhaSyncId : String)
  | getSdcRmaState (deviceId : String)
  | getSdcRmaReactivationStatus (reactivationId : String)
  | listSdcFirewallPolicies (from_ size : Nat)
  | getSdcFirewallPolicy (policyId : String)
  | listSdcNatPolicies (from_ size : Nat)
  | getSdcNatPolicy (policyId : String)
  | listSdcFirewallRules (policyUuid scope : String) (from_ size : Nat)
  | getSdcFirewallRule (policyUuid scope ruleUuid : String)
  | listSdcFirewallRuleGroups (policyUuid scope : String) (from_ size : Nat)
  | getSdcFirewallHierarchy (policyUuid scope : String)
  | listSdcNatRules (policyId : String) (from_ size : Nat)
  | getSdcNatRule (policyId ruleId : String)
  | listSdcNatRuleGroups (policyId : String) (from_ size : Nat)
  | getSdcNatHierarchy (policyId : String)
  | listSdcNatPools (from_ size : Nat)
  | listSdcDeviceGroups (from_ size : Nat) (fields : List String)
  | getSdcDeviceGroup (groupUuid : String)
  | getSdcNatPool (poolId : String)
  | getSdcFirewallPolicyState (policyUuid : String) (includeAssignedDevices : Bool)
  | getSdcFirewallGlobalSettings
  | getSdcFirewallGlobalProfile
  | getSdcContentSecuritySettings
  | listSdcDeviceGlobalSettings (deviceId : Option String) (from_ size : Nat)
  | listSdcResources (resource : ResourceKind) (from_ size : Nat) (fields : List String)
  | getSdcResource (resource : ResourceKind) (uuid : String)
  | listSdcIpsRules (profileUuid : String) (from_ size : Nat)
  | getSdcIpsRule (profileUuid ruleUuid : String)
  | listSdcIpsExemptRules (profileUuid : String) (from_ size : Nat)
  | getSdcIpsExemptRule (profileUuid ruleUuid : String)
  | listSdcEcfRuleSets (profileUuid : String) (from_ size : Nat)
  | listSdcEcfRules (profileUuid ruleSetUuid : String) (from_ size : Nat)
  | listSdcIpsecProfiles (from_ size : Nat)
  | getSdcIpsecProfile (profileName : String)
  | listSdcTunnels (from_ size : Nat)
  | getSdcTunnel (tunnelId : String)
  | getSdcTunnelCount
  | listSdcSites (from_ size : Nat)
  | getSdcSite (siteName : String)
  | getSdcPreviewStatus (jobId : String)
  | getSdcDeployStatus (jobId : String)
  | getSdcPreviewDeviceResult (jobId deviceId : String)
  | getSdcDeployDeviceResult (jobId deviceId : String)

/-- What the handler of a tool reads from SDC. -/
def ReadTool.read (client : SdcClient) : ReadTool → Io Value
  | .getSdcTenantScope => do
      let scope ← tenantScope client
      return ⟨.obj [("tenant_id", .str scope.tenantId)], by simp⟩
  | .listSdcDevices from_ size => pageRead client from_ size (listDevices client)
  | .getSdcDevice deviceUuid => getDevice client deviceUuid
  | .listSdcConfigVersions deviceUuid => listConfigVersions client deviceUuid
  | .listSdcDeviceConfig deviceUuid section_ interfaceName from_ size =>
      pageRead client from_ size (listDeviceConfig client deviceUuid section_ interfaceName)
  | .getSdcDeviceConfigRevision deviceUuid => getDeviceConfigRevision client deviceUuid
  | .listSdcImageDefinitions from_ size => pageRead client from_ size (listImageDefinitions client)
  | .getSdcImageJobStatus job jobId => getImageJobStatus client job jobId
  | .getSdcMnhaSyncStatus mnhaSyncId => getMnhaSyncStatus client mnhaSyncId
  | .getSdcRmaState deviceId => getRmaState client deviceId
  | .getSdcRmaReactivationStatus reactivationId =>
      getRmaReactivationStatus client reactivationId
  | .listSdcFirewallPolicies from_ size => pageRead client from_ size (listFirewallPolicies client)
  | .getSdcFirewallPolicy policyId => getFirewallPolicy client policyId
  | .listSdcNatPolicies from_ size => pageRead client from_ size (listNatPolicies client)
  | .getSdcNatPolicy policyId => getNatPolicy client policyId
  | .listSdcFirewallRules policyUuid scope from_ size =>
      pageRead client from_ size (listFirewallRules client policyUuid scope)
  | .getSdcFirewallRule policyUuid scope ruleUuid =>
      getFirewallRule client policyUuid scope ruleUuid
  | .listSdcFirewallRuleGroups policyUuid scope from_ size =>
      pageRead client from_ size (listFirewallRuleGroups client policyUuid scope)
  | .getSdcFirewallHierarchy policyUuid scope => getFirewallHierarchy client policyUuid scope
  | .listSdcNatRules policyId from_ size =>
      pageRead client from_ size (listNatRules client policyId)
  | .getSdcNatRule policyId ruleId => getNatRule client policyId ruleId
  | .listSdcNatRuleGroups policyId from_ size =>
      pageRead client from_ size (listNatRuleGroups client policyId)
  | .getSdcNatHierarchy policyId => getNatHierarchy client policyId
  | .listSdcNatPools from_ size => pageRead client from_ size (listNatPools client)
  | .listSdcDeviceGroups from_ size fields =>
      pageRead client from_ size fun page => listDeviceGroups client page fields
  | .getSdcDeviceGroup groupUuid => getDeviceGroup client groupUuid
  | .getSdcNatPool poolId => getNatPool client poolId
  | .getSdcFirewallPolicyState policyUuid includeAssignedDevices =>
      getFirewallPolicyState client policyUuid includeAssignedDevices
  | .getSdcFirewallGlobalSettings => getFirewallGlobalSettings client
  | .getSdcFirewallGlobalProfile => getFirewallGlobalProfile client
  | .getSdcContentSecuritySettings => getContentSecuritySettings client
  | .listSdcDeviceGlobalSettings deviceId from_ size =>
      pageRead client from_ size (listDeviceGlobalSettings client deviceId)
  | .listSdcResources resource from_ size fields =>
      pageRead client from_ size fun page => listResource client resource page fields
  | .getSdcResource resource uuid => getResource client resource uuid
  | .listSdcIpsRules profileUuid from_ size =>
      pageRead client from_ size (listIpsRules client profileUuid)
  | .getSdcIpsRule profileUuid ruleUuid => getIpsRule client profileUuid ruleUuid
  | .listSdcIpsExemptRules profileUuid from_ size =>
      pageRead client from_ size (listIpsExemptRules client profileUuid)
  | .getSdcIpsExemptRule profileUuid ruleUuid => getIpsExemptRule client profileUuid ruleUuid
  | .listSdcEcfRuleSets profileUuid from_ size =>
      pageRead client from_ size (listEcfRuleSets client profileUuid)
  | .listSdcEcfRules profileUuid ruleSetUuid from_ size =>
      pageRead client from_ size (listEcfRules client profileUuid ruleSetUuid)
  | .listSdcIpsecProfiles from_ size => pageRead client from_ size (listIpsecProfiles client)
  | .getSdcIpsecProfile profileName => getIpsecProfile client profileName
  | .listSdcTunnels from_ size => pageRead client from_ size (listTunnels client)
  | .getSdcTunnel tunnelId => getTunnel client tunnelId
  | .getSdcTunnelCount => tunnelCount client
  | .listSdcSites from_ size => pageRead client from_ size (listSites client)
  | .getSdcSite siteName => getSite client siteName
  | .getSdcPreviewStatus jobId => do
      let status ← previewStatus client none jobId
      return status.encode.toValue
  | .getSdcDeployStatus jobId => do
      let status ← deployStatus client none jobId
      return status.encode.toValue
  | .getSdcPreviewDeviceResult jobId deviceId => previewDeviceResult client jobId deviceId
  | .getSdcDeployDeviceResult jobId deviceId => deployDeviceResult client jobId deviceId

/-- A read whose result is put through a field allowlist. -/
inductive ProjectedRead where
  | caCertificates (from_ size : Nat)
  | localCertificates (from_ size : Nat)
  | deviceCaCertificates (deviceUuid : String) (from_ size : Nat)
  | deviceLocalCertificates (deviceUuid : String) (from_ size : Nat)
  | licenses (deviceUuid : String) (from_ size : Nat)
  | license (deviceUuid licenseUuid : String)
  | users (from_ size : Nat)
  | roles (from_ size : Nat)

def ProjectedRead.read (client : SdcClient) : ProjectedRead → Io Value
  | .caCertificates from_ size => pageRead client from_ size (listCaCertificates client)
  | .localCertificates from_ size => pageRead client from_ size (listLocalCertificates client)
  | .deviceCaCertificates deviceUuid from_ size =>
      pageRead client from_ size (listDeviceCaCertificates client deviceUuid)
  | .deviceLocalCertificates deviceUuid from_ size =>
      pageRead client from_ size (listDeviceLocalCertificates client deviceUuid)
  | .licenses deviceUuid from_ size => pageRead client from_ size (listLicenses client deviceUuid)
  | .license deviceUuid licenseUuid => getLicense client deviceUuid licenseUuid
  | .users from_ size => pageRead client from_ size (listUsers client)
  | .roles from_ size => pageRead client from_ size (listRoles client)

end SdcMcp
