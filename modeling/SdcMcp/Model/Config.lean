/-
The operator configuration of one tenant, `config.rs`.

Only what a client is built from or what `validate` looks at is kept.  Addresses are
taken apart by one separate crate and connections are made by another, so the parser of
the one and the refusals of the other are parameters.
-/
import SdcMcp.Lib.Duration
import SdcMcp.Model.Client

namespace SdcMcp

/-- The parts of an address that `config.rs` looks at. -/
structure Url where
  scheme : String
  host : Option String
  port : Option Nat
  username : String
  password : Option String
  path : String
  query : Option String
  fragment : Option String
  deriving DecidableEq

class UrlCrate where
  parse : String → Option Url

/-- What the HTTP crate takes for a client. -/
class HttpCrate where
  /-- `Proxy::all`: whether requests can go through a proxy at this address. -/
  proxies : Url → Bool
  /-- `ClientBuilder::build`, under a connect timeout, for so many idle connections and through a
  proxy. -/
  builds : UInt64 → Nat → Option Url → Bool

inductive AuthScheme where
  | apiKey
  | oauth2Token
  deriving DecidableEq

structure SdcConfig where
  version : UInt32
  tenant : String
  expectedTenantId : String
  credentialEnv : String
  authScheme : AuthScheme
  endpoint : String
  connectTimeoutMs : UInt64
  requestTimeoutMs : UInt64
  maxResponseBytes : Nat
  maxConcurrency : Nat
  maxPageSize : UInt32
  listPageBudgetBytes : Nat
  pollInitialMs : UInt64
  pollMaxMs : UInt64
  pollDeadlineMs : UInt64
  changesetStateFile : Option String
  approvalTtlSecs : UInt64
  egressProxy : Option String

/-- Failures of a configuration that was read and parsed. -/
inductive ConfigError where
  | invalid (message : String)
  deriving DecidableEq

def ConfigError.display : ConfigError → String
  | .invalid message => "invalid SDC configuration: " ++ message

/-! ### The checks -/

def validateIdentifier (field value : String) : Except ConfigError Unit :=
  if isAtom 256 value then .ok ()
  else .error (.invalid (if field = "tenant" then "tenant must be 1-256 non-whitespace bytes"
    else "expected_tenant_id must be 1-256 non-whitespace bytes"))

def validateEnvName (value : String) : Except ConfigError Unit :=
  if value.isEmpty || 128 < value.utf8ByteSize ||
      !(value.toList.all fun c => c.isAlphanum || c = '_') then
    .error (.invalid "credential_env must be 1-128 ASCII alphanumeric/underscore bytes")
  else .ok ()

/-- The only address a client talks to. -/
def isServiceUrl (url : Url) : Bool :=
  url.scheme = "https" && url.host = some "api.sdcloud.juniperclouds.net" && url.port.isNone &&
    url.username.isEmpty && url.password.isNone && url.query.isNone && url.fragment.isNone &&
    url.path ∈ ["", "/"]

section Urls

variable [UrlCrate]

def validateEndpoint (raw : String) : Except ConfigError Url :=
  match UrlCrate.parse raw with
  | none => .error (.invalid "endpoint is not a valid URL")
  | some url =>
      if isServiceUrl url then .ok url
      else .error (.invalid ("endpoint must be an HTTPS base URL without credentials, path, "
        ++ "query, fragment, or port"))

def SdcConfig.egressProxyUrl (config : SdcConfig) : Except ConfigError (Option Url) :=
  match config.egressProxy with
  | none => .ok none
  | some raw =>
      match UrlCrate.parse raw with
      | none => .error (.invalid "egress_proxy is not a valid URL")
      | some url =>
          if url.scheme ∉ ["http", "https"] || url.host.all String.isEmpty then
            .error (.invalid "egress_proxy must be an http(s) URL with a host")
          else .ok (some url)

end Urls

/-- The polling settings, in milliseconds. -/
def SdcConfig.pollSettings (config : SdcConfig) : Except ConfigError PollSettings :=
  let initial := config.pollInitialMs.toNat
  let maximum := config.pollMaxMs.toNat
  let deadline := config.pollDeadlineMs.toNat
  if h : initial = 0 ∨ maximum = 0 ∨ deadline = 0 ∨ maximum < initial ∨ deadline < maximum then
    .error (.invalid "poll intervals require nonzero initial <= maximum <= deadline")
  else .ok ⟨initial, maximum, deadline, by omega, by omega, by omega⟩

section Urls

variable [UrlCrate]

def SdcConfig.validate (config : SdcConfig) : Except ConfigError Unit := do
  if config.version ≠ 1 then throw (.invalid "version must be 1")
  validateIdentifier "tenant" config.tenant
  validateIdentifier "expected_tenant_id" config.expectedTenantId
  validateEnvName config.credentialEnv
  let _ ← validateEndpoint config.endpoint
  if config.connectTimeoutMs = 0 || config.requestTimeoutMs = 0 || config.maxResponseBytes = 0 ||
      !(1 ≤ config.maxConcurrency && config.maxConcurrency ≤ 1024) || config.maxPageSize = 0 ||
      config.listPageBudgetBytes = 0 || config.approvalTtlSecs = 0 then
    throw (.invalid
      "HTTP timeouts and bounds must be nonzero and max_concurrency at most 1024")
  if config.changesetStateFile.any fun path => !path.startsWith "/" then
    throw (.invalid "changeset_state_file must be an absolute path")
  let _ ← config.pollSettings
  let _ ← config.egressProxyUrl
  return ()

/-- The bounds a client takes over from its configuration. -/
def SdcClient.fromParts (config : SdcConfig) (credential : String) :
    Except ConfigError SdcClient := do
  let _ ← validateEndpoint config.endpoint
  let poll ← config.pollSettings
  return {
    credential := credential
    maxResponseBytes := config.maxResponseBytes
    maxPageSize := config.maxPageSize.toNat
    poll := poll }

/-- Why a client was not built from a configuration that was read and parsed. -/
inductive ClientError where
  | config (error : ConfigError)
  | credential
  | construction
  deriving DecidableEq

/-- Whether the HTTP crate builds a client for a configuration. -/
def SdcConfig.buildsHttp [HttpCrate] (config : SdcConfig) (egressProxy : Option Url) : Bool :=
  egressProxy.all HttpCrate.proxies &&
    HttpCrate.builds config.connectTimeoutMs config.maxConcurrency egressProxy

def SdcClient.new [HttpCrate] (config : SdcConfig) (credential : String) :
    Except ClientError SdcClient := do
  config.validate.mapError .config
  if credential.isEmpty || 16 * 1024 < credential.utf8ByteSize then throw .credential
  let egressProxy ← config.egressProxyUrl.mapError .config
  if !config.buildsHttp egressProxy then throw .construction
  (SdcClient.fromParts config credential).mapError .config

end Urls

/-- Settings come from 64-bit milliseconds, in order. -/
theorem SdcConfig.pollSettings_ok {config : SdcConfig} {settings : PollSettings}
    (h : config.pollSettings = .ok settings) :
    settings.initial = config.pollInitialMs.toNat ∧ settings.maximum = config.pollMaxMs.toNat ∧
      settings.deadline = config.pollDeadlineMs.toNat := by
  simp only [pollSettings] at h
  split at h
  · cases h
  · cases h
    exact ⟨rfl, rfl, rfl⟩

/-- A client polls and pages as its configuration says. -/
theorem SdcClient.new_ok [UrlCrate] [HttpCrate] {config : SdcConfig} {credential : String}
    {client : SdcClient} (h : SdcClient.new config credential = .ok client) :
    config.validate = .ok () ∧ config.pollSettings = .ok client.poll ∧
      client.maxPageSize = config.maxPageSize.toNat := by
  unfold SdcClient.new at h
  obtain ⟨hvalid, h⟩ := Except.check_bind_eq_ok_iff.mp h
  obtain ⟨-, h⟩ := Except.guard_bind_eq_ok_iff.mp h
  obtain ⟨proxy, -, h⟩ := Except.bind_eq_ok_iff.mp h
  obtain ⟨-, h⟩ := Except.guard_bind_eq_ok_iff.mp h
  have hparts := Except.mapError_eq_ok_iff.mp h
  unfold SdcClient.fromParts at hparts
  obtain ⟨url, -, hparts⟩ := Except.bind_eq_ok_iff.mp hparts
  obtain ⟨poll, hpoll, hparts⟩ := Except.bind_eq_ok_iff.mp hparts
  cases hparts
  exact ⟨Except.mapError_eq_ok_iff.mp hvalid, hpoll, rfl⟩

end SdcMcp
