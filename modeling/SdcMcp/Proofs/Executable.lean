/-
Whether an approved plan can be carried out.

What an approver is shown was checked when the envelope was made, and again when it
was staged; the call that a commit makes is checked once more by the client.  The
two sets of rules were written separately, and they do not agree: an identifier of
dots, a body between one and two megabytes, a redaction marker in an object write,
or a NAT write without its ids or its body pass the first and fail the second.
Here the envelopes that pass both are determined, kind by kind, and a commit of one
of them is never refused by the client.
-/
import SdcMcp.Proofs.Envelopes
import SdcMcp.Proofs.Release

namespace SdcMcp

open Interactive

/-! ### The calls of the transactions -/

/-- A commit has every id its call needs, and the call is executable. -/
def Executable (call : Except SdcError WriteCall) : Prop := ∃ c, call = .ok c ∧ c.Executable

/-- The identifiers of a call are segments of its path, and its other segments are fixed. -/
structure WriteCall.Placed (call : WriteCall) : Prop where
  atoms : ∀ atom ∈ call.atoms, atom.2 ∈ call.segments
  fixed : ∀ segment ∈ call.segments,
    (∃ atom ∈ call.atoms, atom.2 = segment) ∨ segment ∉ ["", ".", ".."]

theorem isAtom_ne_empty {maximum : Nat} {value : String} (h : isAtom maximum value = true) :
    value ≠ "" := by
  rintro rfl
  simp [isAtom] at h

/-- A call is executable when its identifiers and its body fit. -/
theorem WriteCall.Placed.executable_iff {call : WriteCall} (hplaced : call.Placed) :
    call.Executable ↔
      (∀ atom ∈ call.atoms, FitsSegment atom.2) ∧ ∀ body ∈ call.body, FitsBody body := by
  constructor
  · rintro ⟨hatoms, hsegments, hbody⟩
    refine ⟨fun atom hatom => ⟨validateAtom_ok_iff.mp (hatoms atom hatom), fun hdots => ?_⟩,
      fun body hb => validateObjectBody_ok_iff.mp (hbody body hb)⟩
    exact hsegments atom.2 (hplaced.atoms atom hatom) (List.mem_cons_of_mem _ hdots)
  · rintro ⟨hatoms, hbody⟩
    refine ⟨fun atom hatom => validateAtom_ok_iff.mpr (hatoms atom hatom).1, ?_,
      fun body hb => validateObjectBody_ok_iff.mpr (hbody body hb)⟩
    intro segment hsegment
    rcases hplaced.fixed segment hsegment with ⟨atom, hatom, rfl⟩ | hfixed
    · rw [List.mem_cons, not_or]
      exact ⟨isAtom_ne_empty (hatoms atom hatom).1, (hatoms atom hatom).2⟩
    · exact hfixed

theorem SdcObjectTransaction.call_placed {staged : SdcPreparedObjectWrite} {c : WriteCall}
    (h : call staged = .ok c) : c.Placed := by
  have hc := call_ok h
  cases haction : staged.action <;> rw [haction] at hc
  case create =>
      subst hc
      constructor
      · simp [createResource]
      · cases staged.resource <;> simp [createResource, WritableResource.collectionSegments,
          ResourceKind.fromWritable, ResourceKind.collectionSegments]
  all_goals
    obtain ⟨uuid, -, rfl⟩ := hc
    constructor
    · simp [updateResource, deleteResource]
    · cases staged.resource <;> simp [updateResource, deleteResource,
        WritableResource.collectionSegments, ResourceKind.fromWritable,
        ResourceKind.collectionSegments]

theorem SdcFirewallTransaction.call_placed {staged : SdcPreparedFirewallWrite} {c : WriteCall}
    (h : call staged = .ok c) : c.Placed := by
  have hc := call_ok h
  cases haction : staged.action <;> rw [haction] at hc
  case createPolicy =>
      subst hc
      constructor <;> simp [createFirewallPolicy]
  all_goals
    obtain ⟨uuid, -, rfl⟩ := hc
    constructor <;> simp [updateFirewallPolicy, deleteFirewallPolicy]

theorem SdcNatTransaction.call_placed {staged : SdcPreparedNatWrite} {c : WriteCall}
    (h : call staged = .ok c) : c.Placed := by
  have hc := call_ok h
  cases haction : staged.action <;> rw [haction] at hc
  case createPolicy =>
      subst hc
      constructor <;> simp [createNatPolicy]
  case updateRule | deleteRule | updateRuleGroup =>
      obtain ⟨p, -, i, -, rfl⟩ := hc
      constructor <;> simp [updateNatRule, deleteNatRule, updateNatRuleGroup]
  all_goals
    obtain ⟨p, -, rfl⟩ := hc
    constructor <;>
      simp [updateNatPolicy, deleteNatPolicy, createNatRule, createNatRuleGroup]

theorem SdcLicenseTransaction.call_placed (staged : SdcPreparedLicenseWrite) :
    (call staged).call.Placed := by
  cases haction : staged.action <;> simp only [call, haction] <;> constructor <;>
    simp [installLicense, installCaCertificate, installLocalCertificate, deleteCertificate,
      deviceCall]

theorem executable_ok_iff {c : WriteCall} (hplaced : c.Placed) :
    Executable (.ok c) ↔
      (∀ atom ∈ c.atoms, FitsSegment atom.2) ∧ ∀ body ∈ c.body, FitsBody body := by
  rw [← hplaced.executable_iff]
  constructor
  · rintro ⟨c', hc, hexecutable⟩
    cases hc
    exact hexecutable
  · exact fun hexecutable => ⟨c, rfl, hexecutable⟩

theorem not_executable_error {e : SdcError} : ¬ Executable (.error e) := by
  rintro ⟨c, hc, -⟩
  cases hc

theorem SdcObjectTransaction.executable_call_iff (staged : SdcPreparedObjectWrite) :
    Executable (call staged) ↔
      (staged.action ≠ .create → ∃ uuid ∈ staged.uuid, FitsSegment uuid) ∧
        (staged.action ≠ .delete → FitsBody staged.request) := by
  cases hcall : call staged with
  | error e =>
      refine iff_of_false not_executable_error ?_
      rintro ⟨huuid, -⟩
      cases haction : staged.action <;> simp only [call, haction, reduceCtorEq] at hcall
      all_goals
        obtain ⟨uuid, hsome, -⟩ := huuid (by simp [haction])
        rw [Option.mem_def.mp hsome] at hcall
        cases hcall
  | ok c =>
      rw [executable_ok_iff (call_placed hcall)]
      have hc := call_ok hcall
      cases haction : staged.action <;> rw [haction] at hc
      case create => simp [hc, createResource]
      all_goals
        obtain ⟨uuid, huuid, rfl⟩ := hc
        simp [updateResource, deleteResource, huuid]

theorem SdcFirewallTransaction.executable_call_iff (staged : SdcPreparedFirewallWrite) :
    Executable (call staged) ↔
      (staged.action ≠ .createPolicy → ∃ uuid ∈ staged.uuid, FitsSegment uuid) ∧
        (staged.action ≠ .deletePolicy → FitsBody staged.request) := by
  cases hcall : call staged with
  | error e =>
      refine iff_of_false not_executable_error ?_
      rintro ⟨huuid, -⟩
      cases haction : staged.action <;> simp only [call, haction, reduceCtorEq] at hcall
      all_goals
        obtain ⟨uuid, hsome, -⟩ := huuid (by simp [haction])
        rw [Option.mem_def.mp hsome] at hcall
        cases hcall
  | ok c =>
      rw [executable_ok_iff (call_placed hcall)]
      have hc := call_ok hcall
      cases haction : staged.action <;> rw [haction] at hc
      case createPolicy => simp [hc, createFirewallPolicy]
      all_goals
        obtain ⟨uuid, huuid, rfl⟩ := hc
        simp [updateFirewallPolicy, deleteFirewallPolicy, huuid]

/-- The ids that a NAT action needs. -/
def SdcPreparedNatWrite.needed (p : SdcPreparedNatWrite) : List (Option String) :=
  match p.action with
  | .createPolicy => []
  | .updatePolicy | .deletePolicy | .createRule | .createRuleGroup => [p.policyId]
  | .updateRule | .deleteRule => [p.policyId, p.ruleId]
  | .updateRuleGroup => [p.policyId, p.groupId]

/-- The NAT actions that send a body. -/
def NatWriteOperation.hasBody : NatWriteOperation → Bool
  | .deletePolicy | .deleteRule => false
  | _ => true

theorem SdcNatTransaction.executable_call_iff (staged : SdcPreparedNatWrite) :
    Executable (call staged) ↔
      (∀ id ∈ staged.needed, ∃ text ∈ id, FitsSegment text) ∧
        (staged.action.hasBody = true → FitsBody staged.request) := by
  cases hcall : call staged with
  | error e =>
      refine iff_of_false not_executable_error ?_
      rintro ⟨hids, -⟩
      unfold SdcPreparedNatWrite.needed at hids
      unfold call at hcall
      cases haction : staged.action <;> rw [haction] at hcall hids
      case createPolicy => cases hcall
      all_goals
        simp only [List.mem_cons, List.not_mem_nil, or_false, forall_eq_or_imp, forall_eq] at hids
      case updateRule | deleteRule | updateRuleGroup =>
        obtain ⟨⟨p, hp, -⟩, ⟨i, hi, -⟩⟩ := hids
        rw [Option.mem_def.mp hp, Option.mem_def.mp hi] at hcall
        cases hcall
      all_goals
        obtain ⟨p, hp, -⟩ := hids
        rw [Option.mem_def.mp hp] at hcall
        cases hcall
  | ok c =>
      rw [executable_ok_iff (call_placed hcall)]
      have hc := call_ok hcall
      unfold SdcPreparedNatWrite.needed
      cases haction : staged.action <;> rw [haction] at hc
      case createPolicy => simp [hc, createNatPolicy, NatWriteOperation.hasBody]
      case updateRule | deleteRule | updateRuleGroup =>
        obtain ⟨p, hp, i, hi, rfl⟩ := hc
        simp [updateNatRule, deleteNatRule, updateNatRuleGroup, NatWriteOperation.hasBody, hp, hi]
      all_goals
        obtain ⟨p, hp, rfl⟩ := hc
        simp [updateNatPolicy, deleteNatPolicy, createNatRule, createNatRuleGroup,
          NatWriteOperation.hasBody, hp]

theorem SdcLicenseTransaction.executable_call_iff (staged : SdcPreparedLicenseWrite) :
    Executable (.ok (call staged).call) ↔
      FitsSegment staged.deviceUuid ∧ FitsBody staged.request := by
  rw [executable_ok_iff (call_placed staged)]
  unfold call
  cases staged.action <;>
    simp [installLicense, installCaCertificate, installLocalCertificate, deleteCertificate,
      deviceCall]

/-! ### What the check of an envelope leaves to the client -/

structure SdcPreparedObjectWrite.Fits (p : SdcPreparedObjectWrite) : Prop where
  uuid : ∀ uuid ∈ p.uuid, uuid ∉ [".", ".."]
  size : p.action ≠ .delete → p.request.tree.toVec.length ≤ maxWriteBodyBytes
  unredacted : p.action ≠ .delete → containsRedactionMarker p.request.tree = false

structure SdcPreparedFirewallWrite.Fits (p : SdcPreparedFirewallWrite) : Prop where
  uuid : ∀ uuid ∈ p.uuid, uuid ∉ [".", ".."]
  size : p.action ≠ .deletePolicy → p.request.tree.toVec.length ≤ maxWriteBodyBytes

structure SdcPreparedNatWrite.Fits (p : SdcPreparedNatWrite) : Prop where
  ids : ∀ id ∈ p.needed, ∃ text ∈ id, FitsSegment text
  populated : p.action.hasBody = true → isPopulatedObject p.request.tree = true
  size : p.action.hasBody = true → p.request.tree.toVec.length ≤ maxWriteBodyBytes

structure SdcPreparedLicenseWrite.Fits (p : SdcPreparedLicenseWrite) : Prop where
  deviceUuid : p.deviceUuid ∉ [".", ".."]
  size : p.request.tree.toVec.length ≤ maxWriteBodyBytes

/-- The uuid of an envelope whose shape asks for one exactly when `needsUuid`. -/
private theorem uuid_fits_iff {needsUuid : Prop} {uuid : Option String}
    (hatom : ∀ u ∈ uuid, isAtom 256 u = true) (hsome : needsUuid → uuid.isSome = true)
    (hnone : ¬ needsUuid → uuid = none) :
    (needsUuid → ∃ u ∈ uuid, FitsSegment u) ↔ ∀ u ∈ uuid, u ∉ [".", ".."] := by
  constructor
  · intro h u hu
    by_cases hneeds : needsUuid
    · obtain ⟨u', hu', hfits⟩ := h hneeds
      rw [Option.mem_unique hu hu']
      exact hfits.2
    · rw [hnone hneeds] at hu
      cases hu
  · intro h hneeds
    obtain ⟨u, hu⟩ := Option.isSome_iff_exists.mp (hsome hneeds)
    exact ⟨u, hu, hatom u hu, h u hu⟩

section Fits

variable [Crates]

theorem SdcObjectTransaction.executable_iff {staged : SdcPreparedObjectWrite}
    (hvalid : staged.validate = .ok ()) : Executable (call staged) ↔ staged.Fits := by
  obtain ⟨-, hshape, hatom, -, -⟩ := SdcPreparedObjectWrite.validate_ok_iff.mp hvalid
  have hsome : staged.action ≠ .create → staged.uuid.isSome = true := by
    intro hne
    cases haction : staged.action <;> simp_all [SdcPreparedObjectWrite.shapeOk]
  have hnone : ¬ staged.action ≠ .create → staged.uuid = none := by
    intro heq
    simp_all [SdcPreparedObjectWrite.shapeOk]
  have hpopulated : staged.action ≠ .delete → isPopulatedObject staged.request.tree = true := by
    intro hne
    cases haction : staged.action <;> simp_all [SdcPreparedObjectWrite.shapeOk]
  rw [executable_call_iff, uuid_fits_iff hatom hsome hnone]
  constructor
  · rintro ⟨hdots, hbody⟩
    exact ⟨hdots, fun hne => (hbody hne).size, fun hne => (hbody hne).unredacted⟩
  · rintro ⟨hdots, hsize, hmarker⟩
    exact ⟨hdots, fun hne => ⟨hpopulated hne, hsize hne, hmarker hne⟩⟩

theorem SdcFirewallTransaction.executable_iff {staged : SdcPreparedFirewallWrite}
    (hvalid : staged.validate = .ok ()) : Executable (call staged) ↔ staged.Fits := by
  obtain ⟨-, hshape, hmarker, hatom, -, -⟩ := SdcPreparedFirewallWrite.validate_ok_iff.mp hvalid
  have hsome : staged.action ≠ .createPolicy → staged.uuid.isSome = true := by
    intro hne
    cases haction : staged.action <;> simp_all [SdcPreparedFirewallWrite.shapeOk]
  have hnone : ¬ staged.action ≠ .createPolicy → staged.uuid = none := by
    intro heq
    simp_all [SdcPreparedFirewallWrite.shapeOk]
  have hpopulated : staged.action ≠ .deletePolicy →
      isPopulatedObject staged.request.tree = true := by
    intro hne
    cases haction : staged.action <;> simp_all [SdcPreparedFirewallWrite.shapeOk]
  rw [executable_call_iff, uuid_fits_iff hatom hsome hnone]
  constructor
  · rintro ⟨hdots, hbody⟩
    exact ⟨hdots, fun hne => (hbody hne).size⟩
  · rintro ⟨hdots, hsize⟩
    exact ⟨hdots, fun hne => ⟨hpopulated hne, hsize hne, hmarker⟩⟩

theorem SdcNatTransaction.executable_iff {staged : SdcPreparedNatWrite}
    (hvalid : staged.validate = .ok ()) : Executable (call staged) ↔ staged.Fits := by
  obtain ⟨-, hmarker, -⟩ := SdcPreparedNatWrite.validate_ok_iff.mp hvalid
  rw [executable_call_iff]
  constructor
  · rintro ⟨hids, hbody⟩
    exact ⟨hids, fun hhas => (hbody hhas).populated, fun hhas => (hbody hhas).size⟩
  · rintro ⟨hids, hpopulated, hsize⟩
    exact ⟨hids, fun hhas => ⟨hpopulated hhas, hsize hhas, hmarker⟩⟩

theorem SdcLicenseTransaction.executable_iff {staged : SdcPreparedLicenseWrite}
    (hvalid : staged.validate = .ok ()) :
    Executable (.ok (call staged).call) ↔ staged.Fits := by
  obtain ⟨-, hatom, hpopulated, hmarker, -, -⟩ :=
    SdcPreparedLicenseWrite.validate_ok_iff.mp hvalid
  rw [executable_call_iff]
  constructor
  · rintro ⟨hdevice, hbody⟩
    exact ⟨hdevice.2, hbody.size⟩
  · rintro ⟨hdots, hsize⟩
    exact ⟨⟨hatom, hdots⟩, hpopulated, hsize, hmarker⟩

end Fits

/-! ### Commits of executable calls -/

section Commits

variable [Crates]

/-- Whenever its target is found unchanged, a commit goes on to its request. -/
def NeverRefused (unchanged : SdcClient → Io Bool) (commit : SdcClient → Io CommitOutcome) :
    Prop :=
  ∀ client, Crates.isHeaderValue client.credential = true → ∀ r h,
    (unchanged client r (h ++ [.markRefused true])).1 = .ok true →
      ∃ event ∈ (commit client r h).2, event.dispatches = true

/-- A transaction that always has something to send is never refused. -/
theorem Gated.neverRefused {α β : Type} {transaction : SdcClient → Transaction α β}
    {unchanged : SdcClient → α → Io Bool} {request : SdcClient → α → Except SdcError Request}
    {leavesOpen : Exchange → Bool}
    (hg : ∀ client, Gated (transaction client) (unchanged client) (request client) leavesOpen)
    {staged : α} (hrequest : ∀ client, Crates.isHeaderValue client.credential = true →
      ∃ q, request client staged = .ok q) :
    NeverRefused (fun client => unchanged client staged)
      fun client => (transaction client).commit staged ⟨none⟩ := by
  intro client hcredential r h hsame
  obtain ⟨q, hq⟩ := hrequest client hcredential
  rcases (hg client).commit_cases staged r h with ⟨s, o, -, -, -, hmoved⟩ | ⟨s, -, -, hsent⟩
  · exact absurd hsame hmoved
  · rcases hsent with ⟨e, e', herror, -⟩ | ⟨q', o, after, -, hmutating, hrun, -⟩
    · rw [hq] at herror
      cases herror
    · refine ⟨.attempt q' (r.exchange (h ++ gateEvents s) q'), ?_, hmutating⟩
      show _ ∈ ((transaction client).commit staged ⟨none⟩ r h).2
      rw [hrun]
      exact List.mem_append_right _ List.mem_cons_self

/-- An executable call becomes a request. -/
theorem Executable.request {call : Except SdcError WriteCall} (hexecutable : Executable call)
    (client : SdcClient) (hcredential : Crates.isHeaderValue client.credential = true) :
    ∃ q, (admitted client call).map WriteCall.request = .ok q := by
  obtain ⟨c, rfl, hc⟩ := hexecutable
  have hadmits := (WriteCall.executable_iff_admits hcredential).mp hc
  have hadmitted : admitted client (.ok c) = .ok c := admitted_ok_iff.mpr ⟨rfl, hadmits⟩
  rw [hadmitted]
  exact ⟨c.request, rfl⟩

theorem SdcLicenseTransaction.request_ok {staged : SdcPreparedLicenseWrite}
    (hexecutable : Executable (.ok (call staged).call)) (client : SdcClient)
    (hcredential : Crates.isHeaderValue client.credential = true) :
    ∃ q, request client staged = .ok q := by
  obtain ⟨c, hc, hchecks⟩ := hexecutable
  cases hc
  have hadmits := (WriteCall.executable_iff_admits hcredential).mp hchecks
  exact ⟨(call staged).call.request, Except.bind_eq_ok_iff.mpr ⟨(), hadmits, rfl⟩⟩

/-- **An approved plan can be carried out exactly when it fits.**  For every envelope that its
own check accepts, every local check of the client passes, and a commit whose target has not
moved is not refused, if and only if the envelope fits what the client asks for. -/
theorem approved_executable_iff :
    (∀ p : SdcPreparedObjectWrite, p.validate = .ok () →
      (Executable (SdcObjectTransaction.call p) ∧
        NeverRefused (fun client => SdcObjectTransaction.targetUnchanged client p)
          (fun client => SdcObjectTransaction.commit client p ⟨none⟩) ↔ p.Fits)) ∧
    (∀ p : SdcPreparedFirewallWrite, p.validate = .ok () →
      (Executable (SdcFirewallTransaction.call p) ∧
        NeverRefused (fun client => SdcFirewallTransaction.targetUnchanged client p)
          (fun client => SdcFirewallTransaction.commit client p ⟨none⟩) ↔ p.Fits)) ∧
    (∀ p : SdcPreparedNatWrite, p.validate = .ok () →
      (Executable (SdcNatTransaction.call p) ∧
        NeverRefused (fun client => SdcNatTransaction.targetUnchanged client p)
          (fun client => SdcNatTransaction.commit client p ⟨none⟩) ↔ p.Fits)) ∧
    (∀ p : SdcPreparedLicenseWrite, p.validate = .ok () →
      (Executable (.ok (SdcLicenseTransaction.call p).call) ∧
        NeverRefused (fun client => SdcLicenseTransaction.targetUnchanged client p)
          (fun client => SdcLicenseTransaction.commit client p ⟨none⟩) ↔ p.Fits)) := by
  refine ⟨fun p hvalid => ?_, fun p hvalid => ?_, fun p hvalid => ?_, fun p hvalid => ?_⟩
  · rw [← SdcObjectTransaction.executable_iff hvalid]
    exact and_iff_left_of_imp fun hexecutable =>
      Gated.neverRefused (fun client => SdcObjectTransaction.gated client "") hexecutable.request
  · rw [← SdcFirewallTransaction.executable_iff hvalid]
    exact and_iff_left_of_imp fun hexecutable =>
      Gated.neverRefused (fun client => SdcFirewallTransaction.gated client "") hexecutable.request
  · rw [← SdcNatTransaction.executable_iff hvalid]
    exact and_iff_left_of_imp fun hexecutable =>
      Gated.neverRefused (fun client => SdcNatTransaction.gated client "") hexecutable.request
  · rw [← SdcLicenseTransaction.executable_iff hvalid]
    exact and_iff_left_of_imp fun hexecutable =>
      Gated.neverRefused (fun client => SdcLicenseTransaction.gated client "")
        (SdcLicenseTransaction.request_ok hexecutable)

end Commits

/-! ### A marker in an object write -/

section Redacted

def approvedTables : Tables where
  documents := []
  digests := addressTables.digests ++ licenseTables.digests ++ ruleTables.digests ++
    [(.obj [("action", .str "create"), ("after", .obj [("name", .str "[REDACTED]")]),
        ("before", .null), ("resource", .str "addresses"), ("uuid", .null)],
      [51, 116, 124, 224, 228, 205, 247, 84, 107, 10, 73, 57, 74, 232, 212, 46, 171, 2, 60, 8,
        111, 123, 166, 91, 63, 231, 37, 207, 49, 196, 25, 84]),
    (.obj [("action", .str "delete_policy"), ("after", .null),
        ("before", .obj [("name", .str "edge")]), ("uuid", .str "fw-1")],
      [95, 201, 207, 113, 37, 86, 25, 200, 240, 225, 241, 52, 12, 135, 21, 96, 183, 211, 21, 106,
        119, 80, 76, 121, 204, 62, 208, 141, 208, 88, 40, 130])]

local instance approvedCrates : Crates := approvedTables.crates

/-- A new address whose name was copied from a redacted answer. -/
def redactedBody : Value := ⟨.obj [("name", .str "[REDACTED]")], by simp⟩

def redactedCreate : SdcPreparedObjectWrite where
  operation := "object_write"
  action := .create
  resource := .addresses
  uuid := none
  request := redactedBody
  before := Value.null
  planDigest := canonicalDigest
    (SdcPreparedObjectWrite.planArtifact .create .addresses none redactedBody Value.null)

/-- A firewall policy that goes, as it is staged. -/
def policyDelete : SdcPreparedFirewallWrite :=
  let before : Value := ⟨.obj [("name", .str "edge")], by simp⟩
  { operation := "firewall_write"
    action := .deletePolicy
    uuid := some "fw-1"
    request := Value.null
    before := before
    planDigest := canonicalDigest
      (SdcPreparedFirewallWrite.planArtifact .deletePolicy (some "fw-1") Value.null before) }

/-- The envelope is made and staged, and its commit is refused by the client. -/
theorem redacted_create_refused :
    SdcPreparedObjectWrite.new .create .addresses none redactedBody Value.null
        = .ok redactedCreate ∧
      SdcObjectTransaction.stage redactedCreate.planDigest [redactedCreate] = .ok redactedCreate ∧
      ¬ Executable (SdcObjectTransaction.call redactedCreate) ∧
      ∀ r, SdcObjectTransaction.commit minuteClient redactedCreate ⟨none⟩ r [] =
        (.err markerError, [.markRefused true, .markRefused false]) := by
  have hvalid : redactedCreate.validate = .ok () := by decide +kernel
  refine ⟨Except.bind_eq_ok_iff.mpr ⟨(), hvalid, rfl⟩,
    stageOne_ok.mpr ⟨rfl, hvalid, by decide +kernel⟩, ?_, fun r => rfl⟩
  rintro ⟨c, hc, hexecutable⟩
  cases hc
  exact absurd (hexecutable.body redactedBody rfl) (by decide +kernel)

/-- Two writes that a commit carries out, and two that it does not. -/
theorem approved_executable_samples :
    (Executable (SdcObjectTransaction.call addressCreate) ∧
      NeverRefused (fun client => SdcObjectTransaction.targetUnchanged client addressCreate)
        (fun client => SdcObjectTransaction.commit client addressCreate ⟨none⟩)) ∧
    (Executable (SdcFirewallTransaction.call policyDelete) ∧
      NeverRefused (fun client => SdcFirewallTransaction.targetUnchanged client policyDelete)
        (fun client => SdcFirewallTransaction.commit client policyDelete ⟨none⟩)) ∧
    ¬ (Executable (SdcNatTransaction.call orphanRule) ∧
      NeverRefused (fun client => SdcNatTransaction.targetUnchanged client orphanRule)
        (fun client => SdcNatTransaction.commit client orphanRule ⟨none⟩)) ∧
    (Executable (.ok (SdcLicenseTransaction.call licenseInstall).call) ∧
      NeverRefused (fun client => SdcLicenseTransaction.targetUnchanged client licenseInstall)
        (fun client => SdcLicenseTransaction.commit client licenseInstall ⟨none⟩)) := by
  obtain ⟨hobject, hfirewall, hnat, hlicense⟩ := approved_executable_iff
  refine ⟨(hobject addressCreate (by decide +kernel)).mpr ⟨nofun, ?_, ?_⟩,
    (hfirewall policyDelete (by decide +kernel)).mpr ⟨?_, fun hne => absurd rfl hne⟩,
    fun hnot => ?_,
    (hlicense licenseInstall (by decide +kernel)).mpr ⟨by decide, by decide +kernel⟩⟩
  · exact fun _ => by decide +kernel
  · exact fun _ => by decide +kernel
  · rintro _ ⟨⟩
    decide
  · obtain ⟨text, htext, -⟩ :=
      ((hnat orphanRule (by decide +kernel)).mp hnot).ids none List.mem_cons_self
    cases htext

end Redacted

end SdcMcp
