/-
The file that a configuration is read from, `config.rs`.

The reader is derived: it knows no other members than these, takes none of them twice, and
has a default for each that an operator need not name.  What was read is validated before
anything is made of it.  The writer is derived too and names every member.
-/
import SdcMcp.Lib.Serde
import SdcMcp.Model.Config

namespace SdcMcp

open Serde

/-! ### Members -/

def asU32 (v : Json) : Option UInt32 := (asUnsigned (2 ^ 32) v).map UInt32.ofNat

def asU64 (v : Json) : Option UInt64 := (asUnsigned (2 ^ 64) v).map UInt64.ofNat

def asUsize : Json → Option Nat := asUnsigned (2 ^ 64)

namespace AuthScheme

def decode : Json → Option AuthScheme :=
  unitVariant fun
    | "api_key" => some .apiKey
    | "oauth2_token" => some .oauth2Token
    | _ => none

def asWire : AuthScheme → String
  | .apiKey => "api_key"
  | .oauth2Token => "oauth2_token"

end AuthScheme

/-! ### Defaults -/

def defaultEndpoint : String := "https://api.sdcloud.juniperclouds.net/"

def defaultConnectTimeoutMs : UInt64 := 10000

def defaultRequestTimeoutMs : UInt64 := 30000

def defaultMaxResponseBytes : Nat := 8 * 1024 * 1024

def defaultMaxConcurrency : Nat := 16

def defaultMaxPageSize : UInt32 := 200

def defaultListPageBudgetBytes : Nat := 131072

def defaultPollInitialMs : UInt64 := 250

def defaultPollMaxMs : UInt64 := 3000

def defaultPollDeadlineMs : UInt64 := 120000

def defaultApprovalTtlSecs : UInt64 := 3600

/-! ### The record -/

namespace SdcConfig

def names : List String :=
  ["version", "tenant", "expected_tenant_id", "credential_env", "auth_scheme", "endpoint",
    "connect_timeout_ms", "request_timeout_ms", "max_response_bytes", "max_concurrency",
    "max_page_size", "list_page_budget_bytes", "poll_initial_ms", "poll_max_ms",
    "poll_deadline_ms", "changeset_state_file", "approval_ttl_secs", "egress_proxy"]

def decode (v : Json) : Option SdcConfig := do
  let f ← fields names true v
  let version ← required asU32 f 0
  let tenant ← required Json.asStr f 1
  let expectedTenantId ← required Json.asStr f 2
  let credentialEnv ← required Json.asStr f 3
  let authScheme ← required AuthScheme.decode f 4
  let endpoint ← defaulted defaultEndpoint Json.asStr f 5
  let connectTimeoutMs ← defaulted defaultConnectTimeoutMs asU64 f 6
  let requestTimeoutMs ← defaulted defaultRequestTimeoutMs asU64 f 7
  let maxResponseBytes ← defaulted defaultMaxResponseBytes asUsize f 8
  let maxConcurrency ← defaulted defaultMaxConcurrency asUsize f 9
  let maxPageSize ← defaulted defaultMaxPageSize asU32 f 10
  let listPageBudgetBytes ← defaulted defaultListPageBudgetBytes asUsize f 11
  let pollInitialMs ← defaulted defaultPollInitialMs asU64 f 12
  let pollMaxMs ← defaulted defaultPollMaxMs asU64 f 13
  let pollDeadlineMs ← defaulted defaultPollDeadlineMs asU64 f 14
  let changesetStateFile ← defaulted none (nullable Json.asStr) f 15
  let approvalTtlSecs ← defaulted defaultApprovalTtlSecs asU64 f 16
  let egressProxy ← defaulted none (nullable Json.asStr) f 17
  return ⟨version, tenant, expectedTenantId, credentialEnv, authScheme, endpoint,
    connectTimeoutMs, requestTimeoutMs, maxResponseBytes, maxConcurrency, maxPageSize,
    listPageBudgetBytes, pollInitialMs, pollMaxMs, pollDeadlineMs, changesetStateFile,
    approvalTtlSecs, egressProxy⟩

/-- The members as they are written, in order. -/
def members (config : SdcConfig) : List (String × Json) :=
  [("version", encodeUnsigned config.version.toNat), ("tenant", .str config.tenant),
    ("expected_tenant_id", .str config.expectedTenantId),
    ("credential_env", .str config.credentialEnv),
    ("auth_scheme", .str config.authScheme.asWire), ("endpoint", .str config.endpoint),
    ("connect_timeout_ms", encodeUnsigned config.connectTimeoutMs.toNat),
    ("request_timeout_ms", encodeUnsigned config.requestTimeoutMs.toNat),
    ("max_response_bytes", encodeUnsigned config.maxResponseBytes),
    ("max_concurrency", encodeUnsigned config.maxConcurrency),
    ("max_page_size", encodeUnsigned config.maxPageSize.toNat),
    ("list_page_budget_bytes", encodeUnsigned config.listPageBudgetBytes),
    ("poll_initial_ms", encodeUnsigned config.pollInitialMs.toNat),
    ("poll_max_ms", encodeUnsigned config.pollMaxMs.toNat),
    ("poll_deadline_ms", encodeUnsigned config.pollDeadlineMs.toNat),
    ("changeset_state_file", encodeOption config.changesetStateFile),
    ("approval_ttl_secs", encodeUnsigned config.approvalTtlSecs.toNat),
    ("egress_proxy", encodeOption config.egressProxy)]

def encode (config : SdcConfig) : Json := .obj config.members

end SdcConfig

/-- Why a file gives no configuration. -/
inductive LoadError where
  | parse
  | config (error : ConfigError)

/-- `SdcConfig::from_path`, once the file is read. -/
def SdcConfig.fromBytes [Crates] [UrlCrate] (bytes : List UInt8) : Except LoadError SdcConfig :=
  match (Crates.readJson bytes).bind decode with
  | none => .error .parse
  | some config => do
      config.validate.mapError .config
      return config

end SdcMcp
