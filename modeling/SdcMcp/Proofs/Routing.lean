/-
Which reads go where a field allowlist is put over the answer.

A path determines its segments, so two reads share a path only if they share all
segments.  An identifier is a free segment, and SDC has collections at the depth of an
identifier: the certificates of all devices are where a device would be.
-/
import SdcMcp.Lib.Percent
import SdcMcp.Model.Reads
import SdcMcp.Proofs.Checks
import SdcMcp.Proofs.Scripted
import SdcMcp.Proofs.Send

namespace SdcMcp

open Interactive

/-! ### The projected paths -/

/-- Where a projected read goes. -/
def ProjectedRead.segments : ProjectedRead → List String
  | .caCertificates _ _ => ["api", "v1", "devices", "ca_certificates"]
  | .localCertificates _ _ => ["api", "v1", "devices", "local_certificates"]
  | .deviceCaCertificates deviceUuid _ _ => ["api", "v1", "devices", deviceUuid, "ca_certificates"]
  | .deviceLocalCertificates deviceUuid _ _ =>
      ["api", "v1", "devices", deviceUuid, "local_certificates"]
  | .licenses deviceUuid _ _ => ["api", "v1", "devices", deviceUuid, "licenses"]
  | .license deviceUuid licenseUuid =>
      ["api", "v1", "devices", deviceUuid, "licenses", licenseUuid]
  | .users _ _ => ["api", "v2", "users"]
  | .roles _ _ => ["api", "v2", "roles"]

/-- No projected read is of another family of the first version. -/
theorem ProjectedRead.not_family {family : String} (hfamily : family ≠ "devices")
    (rest : List String) (p : ProjectedRead) : p.segments ≠ "api" :: "v1" :: family :: rest := by
  cases p <;> simp [segments, hfamily.symm]

/-- No projected read is of another family of the second version. -/
theorem ProjectedRead.not_family_v2 {family : String} (husers : family ≠ "users")
    (hroles : family ≠ "roles") (rest : List String) (p : ProjectedRead) :
    p.segments ≠ "api" :: "v2" :: family :: rest := by
  cases p <;> simp [segments, husers.symm, hroles.symm]

/-- No projected read is of another part of a device. -/
theorem ProjectedRead.not_part {part : String}
    (hpart : part ∉ ["ca_certificates", "local_certificates", "licenses"]) (device : String)
    (rest : List String) (p : ProjectedRead) :
    p.segments ≠ "api" :: "v1" :: "devices" :: device :: part :: rest := by
  simp only [List.mem_cons, List.not_mem_nil, or_false, not_or] at hpart
  obtain ⟨hca, hlocal, hlicenses⟩ := hpart
  have hca' := Ne.symm hca
  have hlocal' := Ne.symm hlocal
  have hlicenses' := Ne.symm hlicenses
  cases p <;> simp [segments, hca', hlocal', hlicenses']

/-- The families of resources are none of them devices. -/
theorem ResourceKind.family (kind : ResourceKind) :
    ∃ family, family ≠ "devices" ∧ kind.collectionSegments = ["api", "v1", family] := by
  cases kind <;> exact ⟨_, by decide, rfl⟩

/-! ### What a run sends -/

/-- A request was started. -/
def Sent (q : Request) (t : List Event) : Prop := ∃ e ∈ t, e.request = some q

section Reads

variable [Crates] {α β : Type} {client : SdcClient} {segments : List String}

omit [Crates] in
/-- Every request that a computation sends has these segments. -/
def ReadsAt (segments : List String) (x : Io α) : Prop :=
  x.Emits fun e => ∀ q, e.request = some q → q.segments = segments

omit [Crates] in
theorem ReadsAt.sent {x : Io α} (hx : ReadsAt segments x) {r : Env} {h : List Event}
    {q : Request} (hq : Sent q (x r h).2) : q.segments = segments := by
  obtain ⟨e, he, hrequest⟩ := hq
  exact hx r h e he q hrequest

theorem get_readsAt (race : Option Nat) (decode : Json → Option α)
    (query : List (String × String)) :
    ReadsAt segments (get client race decode segments query) := by
  intro r h e he q hq
  rw [get_requests race decode r h e he q hq]

theorem readCall_readsAt (race : Option Nat) (decode : Json → Option α)
    (atoms query : List (String × String)) :
    ReadsAt segments (readCall client race decode atoms segments query) :=
  Run.emits_bind Run.emits_lift fun _ => get_readsAt race decode query

theorem list_readsAt (page : ListRequest) : ReadsAt segments (list client segments page) :=
  Run.emits_bind Run.emits_lift fun _ => get_readsAt none decodeValue _

theorem listCall_readsAt (atoms : List (String × String)) (page : ListRequest) :
    ReadsAt segments (listCall client atoms segments page) :=
  Run.emits_bind Run.emits_lift fun _ => list_readsAt page

theorem listV2_readsAt (page : ListRequest) : ReadsAt segments (listV2 client segments page) :=
  Run.emits_bind Run.emits_lift fun _ => get_readsAt none decodeValue _

theorem listProjected_readsAt (page : ListRequest) (fields : List String) :
    ReadsAt segments (listProjected client segments page fields) :=
  Run.emits_bind Run.emits_lift fun _ =>
    Run.emits_bind Run.emits_lift fun _ => get_readsAt none decodeValue _

omit [Crates] in
theorem pageRead_readsAt {read : ListRequest → Io Value}
    (hread : ∀ page, ReadsAt segments (read page)) (from_ size : Nat) :
    ReadsAt segments (pageRead client from_ size read) :=
  Run.emits_bind Run.emits_lift hread

omit [Crates] in
theorem map_readsAt {x : Io α} (hx : ReadsAt segments x) (f : α → β) :
    ReadsAt segments (do let a ← x; return f a) :=
  Run.emits_bind hx fun _ => Run.emits_pure

/-! ### Where the reads go -/

theorem ProjectedRead.readsAt (p : ProjectedRead) : ReadsAt p.segments (p.read client) := by
  cases p with
  | caCertificates from_ size => exact pageRead_readsAt list_readsAt from_ size
  | localCertificates from_ size => exact pageRead_readsAt list_readsAt from_ size
  | deviceCaCertificates deviceUuid from_ size =>
      exact pageRead_readsAt (listCall_readsAt _) from_ size
  | deviceLocalCertificates deviceUuid from_ size =>
      exact pageRead_readsAt (listCall_readsAt _) from_ size
  | licenses deviceUuid from_ size => exact pageRead_readsAt (listCall_readsAt _) from_ size
  | license deviceUuid licenseUuid => exact readCall_readsAt none decodeValue _ _
  | users from_ size => exact pageRead_readsAt listV2_readsAt from_ size
  | roles from_ size => exact pageRead_readsAt listV2_readsAt from_ size

/-- A computation that does not read where a projected read goes. -/
def ReadsElsewhere (x : Io α) : Prop :=
  ∃ segments, ReadsAt segments x ∧ ∀ p : ProjectedRead, p.segments ≠ segments

omit [Crates] in
theorem ReadsElsewhere.of_family {family : String} {rest : List String} {x : Io α}
    (hx : ReadsAt ("api" :: "v1" :: family :: rest) x) (hfamily : family ≠ "devices") :
    ReadsElsewhere x :=
  ⟨_, hx, ProjectedRead.not_family hfamily rest⟩

omit [Crates] in
theorem ReadsElsewhere.of_family_v2 {family : String} {rest : List String} {x : Io α}
    (hx : ReadsAt ("api" :: "v2" :: family :: rest) x)
    (hfamily : family ≠ "users" ∧ family ≠ "roles") : ReadsElsewhere x :=
  ⟨_, hx, ProjectedRead.not_family_v2 hfamily.1 hfamily.2 rest⟩

omit [Crates] in
theorem ReadsElsewhere.of_part {device part : String} {rest : List String} {x : Io α}
    (hx : ReadsAt ("api" :: "v1" :: "devices" :: device :: part :: rest) x)
    (hpart : part ∉ ["ca_certificates", "local_certificates", "licenses"]) : ReadsElsewhere x :=
  ⟨_, hx, ProjectedRead.not_part hpart device rest⟩

private theorem listDeviceConfig_readsAt (device name : String) (section_ : DeviceConfigSection)
    (page : ListRequest) :
    ReadsAt ["api", "v1", "devices", device, "config", "interfaces",
        name.map fun c => if c = '/' then '_' else c, "subinterfaces"]
      (listDeviceConfig client device section_ (some name) page) := by
  refine Run.emits_bind Run.emits_lift fun _ => ?_
  dsimp only
  split
  · intro r h e he
    cases he
  · exact listCall_readsAt _ page

/-- A section of a device's configuration is no projected read. -/
private theorem listDeviceConfig_elsewhere (device : String) (section_ : DeviceConfigSection)
    (interfaceName : Option String) (from_ size : Nat) :
    ReadsElsewhere
      (pageRead client from_ size (listDeviceConfig client device section_ interfaceName)) := by
  cases interfaceName with
  | none =>
      exact .of_part (pageRead_readsAt (fun page =>
        Run.emits_bind Run.emits_lift fun _ => list_readsAt page) from_ size) (by decide)
  | some name =>
      exact .of_part (pageRead_readsAt (listDeviceConfig_readsAt device name section_) from_ size)
        (by decide)

/-- The reads without an allowlist go elsewhere, but for a device that is named like a
collection of certificates. -/
theorem ReadTool.elsewhere (tool : ReadTool)
    (hdevice : ∀ uuid, tool = .getSdcDevice uuid →
      uuid ≠ "ca_certificates" ∧ uuid ≠ "local_certificates") :
    ReadsElsewhere (tool.read client) := by
  cases tool with
  | getSdcTenantScope =>
      exact .of_family_v2 (map_readsAt (get_readsAt none _ _) _) (by decide)
  | listSdcDevices from_ size =>
      exact ⟨_, pageRead_readsAt list_readsAt from_ size, fun p => by
        cases p <;> simp [ProjectedRead.segments]⟩
  | getSdcDevice uuid =>
      obtain ⟨hca, hlocal⟩ := hdevice uuid rfl
      exact ⟨_, readCall_readsAt none decodeValue _ _, fun p => by
        cases p <;> simp [ProjectedRead.segments, hca.symm, hlocal.symm]⟩
  | listSdcDeviceConfig device section_ interfaceName from_ size =>
      exact listDeviceConfig_elsewhere device section_ interfaceName from_ size
  | listSdcConfigVersions _ | getSdcDeviceConfigRevision _ | getSdcRmaState _
  | getSdcRmaReactivationStatus _ =>
      exact .of_part (readCall_readsAt none decodeValue _ _) (by decide)
  | listSdcImageDefinitions from_ size | listSdcFirewallPolicies from_ size
  | listSdcNatPolicies from_ size | listSdcNatPools from_ size =>
      exact .of_family (pageRead_readsAt list_readsAt from_ size) (by decide)
  | getSdcImageJobStatus _ _ | getSdcMnhaSyncStatus _ | getSdcFirewallPolicy _
  | getSdcNatPolicy _ | getSdcFirewallRule _ _ _ | getSdcFirewallHierarchy _ _
  | getSdcNatRule _ _ | getSdcNatHierarchy _ | getSdcDeviceGroup _ | getSdcNatPool _
  | getSdcFirewallPolicyState _ _ | getSdcIpsRule _ _ | getSdcIpsExemptRule _ _
  | getSdcPreviewDeviceResult _ _ | getSdcDeployDeviceResult _ _ =>
      exact .of_family (readCall_readsAt none decodeValue _ _) (by decide)
  | listSdcFirewallRules _ _ from_ size | listSdcFirewallRuleGroups _ _ from_ size
  | listSdcNatRules _ from_ size | listSdcNatRuleGroups _ from_ size
  | listSdcIpsRules _ from_ size | listSdcIpsExemptRules _ from_ size
  | listSdcEcfRuleSets _ from_ size | listSdcEcfRules _ _ from_ size =>
      exact .of_family (pageRead_readsAt (listCall_readsAt _) from_ size) (by decide)
  | listSdcDeviceGroups from_ size fields =>
      exact .of_family (pageRead_readsAt (fun page => listProjected_readsAt page fields) from_ size)
        (by decide)
  | getSdcFirewallGlobalSettings | getSdcFirewallGlobalProfile | getSdcContentSecuritySettings =>
      exact .of_family (get_readsAt none decodeValue _) (by decide)
  | listSdcDeviceGlobalSettings deviceId from_ size =>
      exact .of_family (pageRead_readsAt (fun page => Run.emits_bind Run.emits_lift fun _ =>
        Run.emits_bind Run.emits_lift fun _ => get_readsAt none decodeValue _) from_ size)
        (by decide)
  | listSdcResources resource from_ size fields =>
      obtain ⟨family, hfamily, hsegments⟩ := resource.family
      refine ⟨_, pageRead_readsAt (fun page => listProjected_readsAt page fields) from_ size,
        fun p => ?_⟩
      rw [hsegments]
      exact p.not_family hfamily []
  | getSdcResource resource uuid =>
      obtain ⟨family, hfamily, hsegments⟩ := resource.family
      refine ⟨_, readCall_readsAt none decodeValue _ _, fun p => ?_⟩
      rw [hsegments]
      exact p.not_family hfamily [uuid]
  | listSdcIpsecProfiles from_ size =>
      exact .of_family_v2 (pageRead_readsAt list_readsAt from_ size) (by decide)
  | listSdcTunnels from_ size | listSdcSites from_ size =>
      exact .of_family_v2 (pageRead_readsAt listV2_readsAt from_ size) (by decide)
  | getSdcIpsecProfile _ | getSdcTunnel _ | getSdcSite _ =>
      exact .of_family_v2 (readCall_readsAt none decodeValue _ _) (by decide)
  | getSdcTunnelCount => exact .of_family_v2 (get_readsAt none decodeValue _) (by decide)
  | getSdcPreviewStatus _ | getSdcDeployStatus _ =>
      exact .of_family (map_readsAt (readCall_readsAt none JobStatus.decode _ _) _) (by decide)

/-! ### Paths -/

/-- The path of a request, below the address of the service. -/
def Request.path (safe : Percent.SafeSet) (q : Request) : List UInt8 :=
  Percent.path safe (q.segments.map Json.utf8)

omit [Crates] in
theorem Request.segments_of_path {safe : Percent.SafeSet} {q q' : Request}
    (h : q.path safe = q'.path safe) : q.segments = q'.segments :=
  List.map_injective_iff.mpr (fun _ _ => Json.utf8_injective) (Percent.path_injective safe h)

omit [Crates] in
theorem Sent.bind {x : Io α} {f : α → Io β} {r : Env} {h : List Event} {q : Request}
    (hq : Sent q (x r h).2) : Sent q ((x >>= f) r h).2 := by
  obtain ⟨e, he, hrequest⟩ := hq
  obtain ⟨t, ht⟩ := Run.bind_events x f r h
  rw [ht]
  exact ⟨e, List.mem_append_left _ he, hrequest⟩

/-- A read that passes its checks is sent. -/
theorem get_sent {decode : Json → Option α} {query : List (String × String)}
    (hcheck : checkRequest client ⟨.get, segments, query, none⟩ = .ok ()) (r : Env)
    (h : List Event) :
    Sent ⟨.get, segments, query, none⟩ (get client none decode segments query r h).2 := by
  have honce := sendPartsOnce_admitted hcheck none r h
  rw [Option.any_none, if_neg (by simp)] at honce
  have hsent : Sent ⟨.get, segments, query, none⟩
      (sendPartsOnce client none ⟨.get, segments, query, none⟩ r h).2 := by
    rw [honce]
    exact ⟨_, List.mem_singleton_self _, rfl⟩
  have hparts : Sent ⟨.get, segments, query, none⟩
      (sendParts client none ⟨.get, segments, query, none⟩ r h).2 := hsent.bind
  exact hparts.bind.bind

/-- What is sent carries a credential that can be sent. -/
theorem readCall_credential {decode : Json → Option α} {race : Option Nat}
    {atoms query : List (String × String)} {q : Request} {r : Env} {h : List Event}
    (hq : Sent q (readCall client race decode atoms segments query r h).2) :
    Crates.isHeaderValue client.credential = true := by
  cases hadmits : readAdmits client atoms ⟨.get, segments, query, none⟩ with
  | error e =>
      rw [readCall_refused hadmits] at hq
      obtain ⟨e', he', -⟩ := hq
      cases he'
  | ok u =>
      obtain ⟨u', -, hcheck⟩ := Except.bind_eq_ok_iff.mp hadmits
      unfold checkRequest at hcheck
      rw [Except.ite_error_eq_ok_iff] at hcheck
      by_contra hcredential
      rw [if_neg hcredential] at hcheck
      cases hcheck.2

/-- The first page of the certificates of all devices is asked for, if a credential can be sent. -/
private theorem certificates_sent (hcredential : Crates.isHeaderValue client.credential = true)
    {uuid : String} (huuid : uuid ∈ ["ca_certificates", "local_certificates"]) (r : Env)
    (h : List Event) :
    ∃ (p : ProjectedRead) (client' : SdcClient) (q : Request),
      Sent q (p.read client' r h).2 ∧ q.segments = ["api", "v1", "devices", uuid] := by
  let client' : SdcClient := { client with maxPageSize := 1 }
  have hlist : ∀ segments, segments ∈ [["api", "v1", "devices", "ca_certificates"],
        ["api", "v1", "devices", "local_certificates"]] →
      Sent ⟨.get, segments, [("from", toString 0), ("size", toString 1)], none⟩
        (pageRead client' 0 1 (list client' segments) r h).2 := by
    intro segments hsegments
    have hcheck : checkRequest client'
        ⟨.get, segments, [("from", toString 0), ("size", toString 1)], none⟩ = .ok () := by
      refine (checkRequest_ok_iff hcredential).mpr ?_
      revert segments
      decide
    unfold pageRead list
    rw [show (ListRequest.new 0 1 client'.maxPageSize).mapError SdcError.list = .ok ⟨0, 1⟩ from rfl,
      Run.lift_ok_bind, show (ListRequest.new 0 1 client'.maxPageSize).mapError SdcError.list
        = .ok ⟨0, 1⟩ from rfl, Run.lift_ok_bind]
    exact get_sent hcheck r h
  rcases List.mem_cons.mp huuid with rfl | huuid
  · exact ⟨.caCertificates 0 1, client', _, hlist _ List.mem_cons_self, rfl⟩
  · rw [List.mem_singleton.mp huuid]
    exact ⟨.localCertificates 0 1, client', _,
      hlist _ (List.mem_cons_of_mem _ List.mem_cons_self), rfl⟩

/-- The tools that read a device by its identifier only, with an identifier that is the name of a
collection of certificates. -/
def ReadTool.Aliases (tool : ReadTool) : Prop :=
  ∃ uuid ∈ ["ca_certificates", "local_certificates"], tool = .getSdcDevice uuid

/-- **The allowlists cannot be bypassed by routing, but with a device that is named like a
collection.**  Of a tool without an allowlist that gets to send anything, every request has
another path than every request of a projected read, exactly unless it reads a device whose
identifier is the name of a collection of certificates. -/
theorem projection_kept_iff (safe : Percent.SafeSet) {client : SdcClient} {tool : ReadTool}
    (haccepted : ∃ r h q, Sent q (tool.read client r h).2) :
    (∀ r h q, Sent q (tool.read client r h).2 →
      ∀ (p : ProjectedRead) (client' : SdcClient) r' h' q', Sent q' (p.read client' r' h').2 →
        q.path safe ≠ q'.path safe) ↔ ¬ tool.Aliases := by
  constructor
  · rintro hkept ⟨uuid, huuid, rfl⟩
    obtain ⟨r, h, q, hsent⟩ := haccepted
    have hsegments : q.segments = ["api", "v1", "devices", uuid] :=
      (readCall_readsAt none decodeValue _ _).sent hsent
    obtain ⟨p, client', q', hsent', hsegments'⟩ :=
      certificates_sent (readCall_credential hsent) huuid r h
    refine hkept r h q hsent p client' r h q' hsent' ?_
    unfold Request.path
    rw [hsegments, hsegments']
  · intro hnone r h q hq p client' r' h' q' hq' hpath
    have hdevice : ∀ uuid, tool = .getSdcDevice uuid →
        uuid ≠ "ca_certificates" ∧ uuid ≠ "local_certificates" := by
      rintro uuid rfl
      constructor
      · rintro rfl
        exact hnone ⟨_, List.mem_cons_self, rfl⟩
      · rintro rfl
        exact hnone ⟨_, List.mem_cons_of_mem _ List.mem_cons_self, rfl⟩
    obtain ⟨segments, hreads, hother⟩ : ReadsElsewhere (tool.read client) := tool.elsewhere hdevice
    have hprojected : ReadsAt p.segments (p.read client') := p.readsAt
    have hsegments := Request.segments_of_path hpath
    rw [hreads.sent hq, hprojected.sent hq'] at hsegments
    exact hother p hsegments.symm

end Reads

/-! ### A device named like a collection -/

section Samples

local instance routeCrates : Crates := (⟨[], []⟩ : Tables).crates

/-- Letters, digits and a few marks, which are safe in every path. -/
def unreserved : Percent.SafeSet where
  keeps := fun byte => (48 ≤ byte && byte ≤ 57) || (65 ≤ byte && byte ≤ 90) ||
    (97 ≤ byte && byte ≤ 122) || byte ∈ [45, 46, 95, 126]
  percent := by decide
  slash := by decide

/-- An SDC that does not answer. -/
def silentEnv : Env := Env.answering fun _ => .unanswered .timedOut

/-- The certificates of all devices, read as a device and read as what they are. -/
theorem certificates_read_as_device : ∃ q q',
    Sent q ((ReadTool.getSdcDevice "ca_certificates").read minuteClient silentEnv []).2 ∧
    Sent q' ((ProjectedRead.caCertificates 0 100).read minuteClient silentEnv []).2 ∧
    q.path unreserved = q'.path unreserved := by
  have hdevice : ((ReadTool.getSdcDevice "ca_certificates").read minuteClient silentEnv []).2 =
      [.attempt ⟨.get, ["api", "v1", "devices", "ca_certificates"], [], none⟩
        ⟨0, .unanswered .timedOut⟩] := by rfl
  have hcertificates : ((ProjectedRead.caCertificates 0 100).read minuteClient silentEnv []).2 =
      [.attempt ⟨.get, ["api", "v1", "devices", "ca_certificates"],
        [("from", "0"), ("size", "100")], none⟩ ⟨0, .unanswered .timedOut⟩] := by rfl
  rw [hdevice, hcertificates]
  exact ⟨_, _, ⟨_, List.mem_singleton_self _, rfl⟩, ⟨_, List.mem_singleton_self _, rfl⟩, rfl⟩

/-- A device with another identifier is read where no projected read goes. -/
theorem device_read_elsewhere :
    (∃ r h q, Sent q ((ReadTool.getSdcDevice "dev-1").read minuteClient r h).2) ∧
    ∀ r h q, Sent q ((ReadTool.getSdcDevice "dev-1").read minuteClient r h).2 →
      ∀ (p : ProjectedRead) (client' : SdcClient) r' h' q', Sent q' (p.read client' r' h').2 →
        q.path unreserved ≠ q'.path unreserved := by
  have hdevice : ((ReadTool.getSdcDevice "dev-1").read minuteClient silentEnv []).2 =
      [.attempt ⟨.get, ["api", "v1", "devices", "dev-1"], [], none⟩
        ⟨0, .unanswered .timedOut⟩] := by rfl
  have hsent : ∃ r h q, Sent q ((ReadTool.getSdcDevice "dev-1").read minuteClient r h).2 := by
    refine ⟨silentEnv, [], ⟨.get, ["api", "v1", "devices", "dev-1"], [], none⟩, ?_⟩
    rw [hdevice]
    exact ⟨_, List.mem_singleton_self _, rfl⟩
  refine ⟨hsent, (projection_kept_iff unreserved hsent).mpr ?_⟩
  rintro ⟨uuid, huuid, htool⟩
  rw [← ReadTool.getSdcDevice.inj htool] at huuid
  exact absurd huuid (by decide)

end Samples

end SdcMcp
