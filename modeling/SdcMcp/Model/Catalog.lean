/-
The resource catalogs of `catalog.rs`.

`ResourceKind` is what may be read, `WritableResource` the smaller set that may
also be written.  A writable family has no path of its own: it is widened to its
readable counterpart, and the one table of paths answers for both.
-/

namespace SdcMcp

inductive ResourceKind where
  | addresses
  | applications
  | services
  | schedulers
  | aamwProfiles
  | antiSpamProfiles
  | antiVirusProfiles
  | contentFilteringProfiles
  | contentSecurityProfiles
  | enhancedContentFilteringProfiles
  | flowBasedAntivirusProfiles
  | icapProfiles
  | icapServers
  | identityObjects
  | ipsContexts
  | ipsProfiles
  | ipsServices
  | ipsSignatures
  | ipsVulnerabilities
  | proxyServers
  | redirectProfiles
  | ruleOptions
  | secintelProfiles
  | secintelProfilesGroups
  | sslInitiations
  | sslProxyProfiles
  | swpProfiles
  | urlCategoryLists
  | urlPatterns
  | templates
  | variableZones
  | webFilteringProfiles
  deriving DecidableEq

namespace ResourceKind

def collectionSegments : ResourceKind → List String
  | .addresses => ["api", "v1", "addresses"]
  | .applications => ["api", "v1", "applications"]
  | .services => ["api", "v1", "services"]
  | .schedulers => ["api", "v1", "schedulers"]
  | .aamwProfiles => ["api", "v1", "aamw_profiles"]
  | .antiSpamProfiles => ["api", "v1", "anti_spam_profiles"]
  | .antiVirusProfiles => ["api", "v1", "anti_virus_profiles"]
  | .contentFilteringProfiles => ["api", "v1", "content_filtering_profiles"]
  | .contentSecurityProfiles => ["api", "v1", "content_security_profiles"]
  | .enhancedContentFilteringProfiles => ["api", "v1", "enhanced_content_filtering_profiles"]
  | .flowBasedAntivirusProfiles => ["api", "v1", "flow_based_antivirus_profiles"]
  | .icapProfiles => ["api", "v1", "icap_profiles"]
  | .icapServers => ["api", "v1", "icap_servers"]
  | .identityObjects => ["api", "v1", "identity_objects"]
  | .ipsContexts => ["api", "v1", "ips_contexts"]
  | .ipsProfiles => ["api", "v1", "ips_profiles"]
  | .ipsServices => ["api", "v1", "ips_services"]
  | .ipsSignatures => ["api", "v1", "ips_signatures"]
  | .ipsVulnerabilities => ["api", "v1", "ips_vulnerabilities"]
  | .proxyServers => ["api", "v1", "proxy_servers"]
  | .redirectProfiles => ["api", "v1", "redirect_profiles"]
  | .ruleOptions => ["api", "v1", "rule_options"]
  | .secintelProfiles => ["api", "v1", "secintel_profiles"]
  | .secintelProfilesGroups => ["api", "v1", "secintel_profiles_groups"]
  | .sslInitiations => ["api", "v1", "ssl_initiations"]
  | .sslProxyProfiles => ["api", "v1", "ssl_proxy_profiles"]
  | .swpProfiles => ["api", "v1", "swp_profiles"]
  | .urlCategoryLists => ["api", "v1", "url_category_lists"]
  | .urlPatterns => ["api", "v1", "url_patterns"]
  | .templates => ["api", "v1", "templates"]
  | .variableZones => ["api", "v1", "variable_zones"]
  | .webFilteringProfiles => ["api", "v1", "web_filtering_profiles"]

end ResourceKind

inductive WritableResource where
  | addresses
  | applications
  | services
  | schedulers
  deriving DecidableEq

def ResourceKind.fromWritable : WritableResource → ResourceKind
  | .addresses => .addresses
  | .applications => .applications
  | .services => .services
  | .schedulers => .schedulers

namespace WritableResource

def collectionSegments (resource : WritableResource) : List String :=
  (ResourceKind.fromWritable resource).collectionSegments

/-- The name a family is written under. -/
def name : WritableResource → String
  | .addresses => "addresses"
  | .applications => "applications"
  | .services => "services"
  | .schedulers => "schedulers"

theorem name_inj {a b : WritableResource} (h : a.name = b.name) : a = b := by
  cases a <;> cases b <;> simp_all [name]

end WritableResource

end SdcMcp
