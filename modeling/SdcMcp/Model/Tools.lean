/-
The tools of `server.rs`: their names, the registries of names, and the calls of them.

A call of a tool carries the tool's arguments without the tenant, which every tool has
and which is checked before anything else.  Arguments that only the audit record reads
are left out.
-/
import SdcMcp.Model.Reads
import SdcMcp.Model.Stored

namespace SdcMcp

/-! ### Registries -/

/-- Tools that can deploy to SDC or change an object of it. -/
def WRITE_TOOLS : List String :=
  ["prepare_sdc_policy_deploy", "approve_sdc_change_set", "apply_sdc_change_set",
    "prepare_sdc_object_write", "apply_sdc_object_write", "prepare_sdc_nat_write",
    "apply_sdc_nat_write", "prepare_sdc_firewall_write", "apply_sdc_firewall_write",
    "prepare_sdc_license_write", "apply_sdc_license_write", "prepare_sdc_device_inventory_sync",
    "apply_sdc_device_inventory_sync", "discard_sdc_operation"]

/-- Reads that tell who has access to a tenant. -/
def SCOPED_READ_TOOLS : List String := ["list_users_and_roles"]

/-- What a wildcard tool scope does not reach. -/
def WILDCARD_EXCLUDED_TOOLS : List String :=
  ["prepare_sdc_policy_deploy", "approve_sdc_change_set", "apply_sdc_change_set",
    "prepare_sdc_object_write", "apply_sdc_object_write", "prepare_sdc_nat_write",
    "apply_sdc_nat_write", "prepare_sdc_firewall_write", "apply_sdc_firewall_write",
    "prepare_sdc_license_write", "apply_sdc_license_write", "prepare_sdc_device_inventory_sync",
    "apply_sdc_device_inventory_sync", "discard_sdc_operation", "list_users_and_roles"]

example : WILDCARD_EXCLUDED_TOOLS = WRITE_TOOLS ++ SCOPED_READ_TOOLS := by decide

/-! ### Calls -/

def ReadTool.name : ReadTool → String
  | .getSdcTenantScope => "get_sdc_tenant_scope"
  | .listSdcDevices .. => "list_sdc_devices"
  | .getSdcDevice .. => "get_sdc_device"
  | .listSdcConfigVersions .. => "list_sdc_config_versions"
  | .listSdcDeviceConfig .. => "list_sdc_device_config"
  | .getSdcDeviceConfigRevision .. => "get_sdc_device_config_revision"
  | .listSdcImageDefinitions .. => "list_sdc_image_definitions"
  | .getSdcImageJobStatus .. => "get_sdc_image_job_status"
  | .getSdcMnhaSyncStatus .. => "get_sdc_mnha_sync_status"
  | .getSdcRmaState .. => "get_sdc_rma_state"
  | .getSdcRmaReactivationStatus .. => "get_sdc_rma_reactivation_status"
  | .listSdcFirewallPolicies .. => "list_sdc_firewall_policies"
  | .getSdcFirewallPolicy .. => "get_sdc_firewall_policy"
  | .listSdcNatPolicies .. => "list_sdc_nat_policies"
  | .getSdcNatPolicy .. => "get_sdc_nat_policy"
  | .listSdcFirewallRules .. => "list_sdc_firewall_rules"
  | .getSdcFirewallRule .. => "get_sdc_firewall_rule"
  | .listSdcFirewallRuleGroups .. => "list_sdc_firewall_rule_groups"
  | .getSdcFirewallHierarchy .. => "get_sdc_firewall_hierarchy"
  | .listSdcNatRules .. => "list_sdc_nat_rules"
  | .getSdcNatRule .. => "get_sdc_nat_rule"
  | .listSdcNatRuleGroups .. => "list_sdc_nat_rule_groups"
  | .getSdcNatHierarchy .. => "get_sdc_nat_hierarchy"
  | .listSdcNatPools .. => "list_sdc_nat_pools"
  | .listSdcDeviceGroups .. => "list_sdc_device_groups"
  | .getSdcDeviceGroup .. => "get_sdc_device_group"
  | .getSdcNatPool .. => "get_sdc_nat_pool"
  | .getSdcFirewallPolicyState .. => "get_sdc_firewall_policy_state"
  | .getSdcFirewallGlobalSettings => "get_sdc_firewall_global_settings"
  | .getSdcFirewallGlobalProfile => "get_sdc_firewall_global_profile"
  | .getSdcContentSecuritySettings => "get_sdc_content_security_settings"
  | .listSdcDeviceGlobalSettings .. => "list_sdc_device_global_settings"
  | .listSdcResources .. => "list_sdc_resources"
  | .getSdcResource .. => "get_sdc_resource"
  | .listSdcIpsRules .. => "list_sdc_ips_rules"
  | .getSdcIpsRule .. => "get_sdc_ips_rule"
  | .listSdcIpsExemptRules .. => "list_sdc_ips_exempt_rules"
  | .getSdcIpsExemptRule .. => "get_sdc_ips_exempt_rule"
  | .listSdcEcfRuleSets .. => "list_sdc_ecf_rule_sets"
  | .listSdcEcfRules .. => "list_sdc_ecf_rules"
  | .listSdcIpsecProfiles .. => "list_sdc_ipsec_profiles"
  | .getSdcIpsecProfile .. => "get_sdc_ipsec_profile"
  | .listSdcTunnels .. => "list_sdc_tunnels"
  | .getSdcTunnel .. => "get_sdc_tunnel"
  | .getSdcTunnelCount => "get_sdc_tunnel_count"
  | .listSdcSites .. => "list_sdc_sites"
  | .getSdcSite .. => "get_sdc_site"
  | .getSdcPreviewStatus .. => "get_sdc_preview_status"
  | .getSdcDeployStatus .. => "get_sdc_deploy_status"
  | .getSdcPreviewDeviceResult .. => "get_sdc_preview_device_result"
  | .getSdcDeployDeviceResult .. => "get_sdc_deploy_device_result"

/-- The further arguments of `list_sdc_config_versions`; the other reads have none. -/
structure PageArgs where
  fields : List String
  continuationToken : Option String

/-- The change set to apply, and the digests its caller expects. -/
structure ApplyArgs where
  changeSetId : String
  expectedDigest : String
  /-- The digest of the plan, or of the preview of a policy deploy. -/
  expectedPlanDigest : String

inductive ToolCall where
  | read (tool : ReadTool) (paging : PageArgs)
  | listSdcCaCertificates (from_ size : Nat)
  | listSdcLocalCertificates (from_ size : Nat)
  | listSdcDeviceCaCertificates (deviceUuid : String) (from_ size : Nat)
  | listSdcDeviceLocalCertificates (deviceUuid : String) (from_ size : Nat)
  | listSdcLicenses (deviceUuid : String) (from_ size : Nat)
  | getSdcLicense (deviceUuid licenseUuid : String)
  | listUsersAndRoles (usersFrom usersSize rolesFrom rolesSize : Nat)
  | prepareSdcPolicyDeploy (policies : List PolicyOperation)
  | approveSdcChangeSet (changeSetId expectedDigest : String)
  | applySdcChangeSet (args : ApplyArgs)
  | prepareSdcObjectWrite (action : ObjectWriteAction) (resource : WritableResource)
      (uuid : Option String) (body : Option Value)
  | applySdcObjectWrite (args : ApplyArgs)
  | prepareSdcNatWrite (action : NatWriteOperation) (policyId ruleId groupId : Option String)
      (body : Option Value)
  | applySdcNatWrite (args : ApplyArgs)
  | prepareSdcFirewallWrite (action : FirewallWriteOperation) (uuid : Option String)
      (body : Option Value)
  | applySdcFirewallWrite (args : ApplyArgs)
  | prepareSdcLicenseWrite (action : LicenseWriteOperation) (deviceUuid : String) (body : Value)
  | applySdcLicenseWrite (args : ApplyArgs)
  | prepareSdcDeviceInventorySync (deviceUuids : List String)
  | applySdcDeviceInventorySync (args : ApplyArgs)
  | getSdcChangeSet (changeSetId : String)
  | getSdcChangeSetDetails (changeSetId : String)
  | discardSdcOperation (operationId expectedFingerprint : String)

def ToolCall.name : ToolCall → String
  | .read tool _ => tool.name
  | .listSdcCaCertificates .. => "list_sdc_ca_certificates"
  | .listSdcLocalCertificates .. => "list_sdc_local_certificates"
  | .listSdcDeviceCaCertificates .. => "list_sdc_device_ca_certificates"
  | .listSdcDeviceLocalCertificates .. => "list_sdc_device_local_certificates"
  | .listSdcLicenses .. => "list_sdc_licenses"
  | .getSdcLicense .. => "get_sdc_license"
  | .listUsersAndRoles .. => "list_users_and_roles"
  | .prepareSdcPolicyDeploy .. => "prepare_sdc_policy_deploy"
  | .approveSdcChangeSet .. => "approve_sdc_change_set"
  | .applySdcChangeSet .. => "apply_sdc_change_set"
  | .prepareSdcObjectWrite .. => "prepare_sdc_object_write"
  | .applySdcObjectWrite .. => "apply_sdc_object_write"
  | .prepareSdcNatWrite .. => "prepare_sdc_nat_write"
  | .applySdcNatWrite .. => "apply_sdc_nat_write"
  | .prepareSdcFirewallWrite .. => "prepare_sdc_firewall_write"
  | .applySdcFirewallWrite .. => "apply_sdc_firewall_write"
  | .prepareSdcLicenseWrite .. => "prepare_sdc_license_write"
  | .applySdcLicenseWrite .. => "apply_sdc_license_write"
  | .prepareSdcDeviceInventorySync .. => "prepare_sdc_device_inventory_sync"
  | .applySdcDeviceInventorySync .. => "apply_sdc_device_inventory_sync"
  | .getSdcChangeSet .. => "get_sdc_change_set"
  | .getSdcChangeSetDetails .. => "get_sdc_change_set_details"
  | .discardSdcOperation .. => "discard_sdc_operation"

end SdcMcp
