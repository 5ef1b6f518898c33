/-
The redaction marker is never written back.

`containsRedactionMarker` finds the marker in every string of a tree, wherever the
string stands.  Each method of the client that sends a body of its caller asks it
before it sends anything, so a body with the marker in it gets no further than the
checks: the run of the method is an error and no event.
-/
import SdcMcp.Model.Jobs
import SdcMcp.Proofs.Checks
import SdcMcp.Proofs.Scripted

namespace SdcMcp

open Interactive

/-! ### Where the marker is looked for -/

theorem hasInfix_iff {sub text : List Char} : hasInfix sub text = true ↔ sub <:+: text := by
  induction text with
  | nil => rw [hasInfix, List.isEmpty_iff, List.infix_nil]
  | cons c cs ih =>
      rw [hasInfix, Bool.or_eq_true, List.isPrefixOf_iff_prefix, ih, List.infix_cons_iff]

theorem anyItemRedacted_iff {items : List Json} :
    anyItemRedacted items = true ↔ ∃ v ∈ items, containsRedactionMarker v = true := by
  induction items with
  | nil => simp [anyItemRedacted]
  | cons v rest ih => simp [anyItemRedacted, ih]

theorem anyMemberRedacted_iff {members : List (String × Json)} :
    anyMemberRedacted members = true ↔ ∃ m ∈ members, containsRedactionMarker m.2 = true := by
  induction members with
  | nil => simp [anyMemberRedacted]
  | cons m rest ih => simp [anyMemberRedacted, ih]

/-- The marker occurs in a string that stands in the tree. -/
def Marked (v : Json) : Prop :=
  ∃ text, Json.Within (.str text) v ∧ redacted.toList <:+: text.toList

private theorem not_marked_of_scalar {v : Json} (hself : ∀ text, v ≠ .str text)
    (harr : ∀ items, v ≠ .arr items) (hobj : ∀ members, v ≠ .obj members) : ¬ Marked v := by
  rintro ⟨text, hwithin, -⟩
  cases hwithin with
  | self => exact hself text rfl
  | item hv h => exact harr _ rfl
  | member hm h => exact hobj _ rfl

theorem marked_str {text : String} : Marked (.str text) ↔ redacted.toList <:+: text.toList := by
  constructor
  · rintro ⟨text', hwithin, hinfix⟩
    cases hwithin with
    | self => exact hinfix
  · intro hinfix
    exact ⟨text, .self, hinfix⟩

theorem marked_arr {items : List Json} : Marked (.arr items) ↔ ∃ v ∈ items, Marked v := by
  constructor
  · rintro ⟨text, hwithin, hinfix⟩
    obtain ⟨v, hv, h⟩ := (Json.within_arr (fun _ => Json.noConfusion)).mp hwithin
    exact ⟨v, hv, text, h, hinfix⟩
  · rintro ⟨v, hv, text, h, hinfix⟩
    exact ⟨text, .item hv h, hinfix⟩

theorem marked_obj {members : List (String × Json)} :
    Marked (.obj members) ↔ ∃ m ∈ members, Marked m.2 := by
  constructor
  · rintro ⟨text, hwithin, hinfix⟩
    obtain ⟨m, hm, h⟩ := (Json.within_obj (fun _ => Json.noConfusion)).mp hwithin
    exact ⟨m, hm, text, h, hinfix⟩
  · rintro ⟨m, hm, text, h, hinfix⟩
    exact ⟨text, .member hm h, hinfix⟩

/-- The check finds the marker exactly when a string of the tree has it. -/
theorem containsRedactionMarker_iff {v : Json} :
    containsRedactionMarker v = true ↔ Marked v := by
  induction v with
  | null => exact iff_of_false Bool.noConfusion (not_marked_of_scalar (by simp) (by simp) (by simp))
  | bool b =>
      exact iff_of_false Bool.noConfusion (not_marked_of_scalar (by simp) (by simp) (by simp))
  | num n =>
      exact iff_of_false Bool.noConfusion (not_marked_of_scalar (by simp) (by simp) (by simp))
  | str text => rw [containsRedactionMarker, hasInfix_iff, marked_str]
  | arr items ih =>
      rw [containsRedactionMarker, anyItemRedacted_iff, marked_arr]
      exact exists_congr fun v => and_congr_right fun hv => ih v hv
  | obj members ih =>
      rw [containsRedactionMarker, anyMemberRedacted_iff, marked_obj]
      exact exists_congr fun m => and_congr_right fun hm => ih m hm

/-! ### Writes with a body of the caller -/

/-- The methods that send a body of the caller and answer what SDC answers. -/
inductive BodyWrite where
  | createResource (kind : WritableResource)
  | updateResource (kind : WritableResource) (uuid : String)
  | createFirewallPolicy
  | updateFirewallPolicy (uuid : String)
  | createNatPolicy
  | updateNatPolicy (policyId : String)
  | createNatRule (policyId : String)
  | updateNatRule (policyId ruleId : String)
  | createNatRuleGroup (policyId : String)
  | updateNatRuleGroup (policyId groupId : String)

def BodyWrite.call (body : Value) : BodyWrite → WriteCall
  | .createResource kind => SdcMcp.createResource kind body
  | .updateResource kind uuid => SdcMcp.updateResource kind uuid body
  | .createFirewallPolicy => SdcMcp.createFirewallPolicy body
  | .updateFirewallPolicy uuid => SdcMcp.updateFirewallPolicy uuid body
  | .createNatPolicy => SdcMcp.createNatPolicy body
  | .updateNatPolicy policyId => SdcMcp.updateNatPolicy policyId body
  | .createNatRule policyId => SdcMcp.createNatRule policyId body
  | .updateNatRule policyId ruleId => SdcMcp.updateNatRule policyId ruleId body
  | .createNatRuleGroup policyId => SdcMcp.createNatRuleGroup policyId body
  | .updateNatRuleGroup policyId groupId => SdcMcp.updateNatRuleGroup policyId groupId body

/-- The methods that send a body of the caller and wait for the job it starts. -/
inductive BodyJob where
  | installLicense (deviceUuid : String)
  | installCaCertificate (deviceUuid : String)
  | installLocalCertificate (deviceUuid : String)
  | deleteCertificate (deviceUuid : String)

def BodyJob.call (body : Value) : BodyJob → JobCall
  | .installLicense deviceUuid => SdcMcp.installLicense deviceUuid body
  | .installCaCertificate deviceUuid => SdcMcp.installCaCertificate deviceUuid body
  | .installLocalCertificate deviceUuid => SdcMcp.installLocalCertificate deviceUuid body
  | .deleteCertificate deviceUuid => SdcMcp.deleteCertificate deviceUuid body

theorem BodyWrite.call_body (body : Value) (method : BodyWrite) :
    (method.call body).body = some body := by
  cases method <;> rfl

theorem BodyJob.call_body (body : Value) (method : BodyJob) :
    (method.call body).call.body = some body := by
  cases method <;> rfl

/-- A marked body is no body that the client takes. -/
theorem WriteCall.validate_marked {call : WriteCall} {body : Value} (hbody : call.body = some body)
    (hmarked : Marked body.tree) : ∃ e, call.validate = .error e := by
  cases hvalid : call.validate with
  | error e => exact ⟨e, rfl⟩
  | ok u =>
      exfalso
      obtain ⟨u', -, hrest⟩ := Except.bind_eq_ok_iff.mp hvalid
      rw [hbody] at hrest
      have hfits : FitsBody body := validateObjectBody_ok_iff.mp hrest
      have hmarker := containsRedactionMarker_iff.mpr hmarked
      rw [hfits.unredacted] at hmarker
      cases hmarker

section Runs

variable [Crates] {client : SdcClient} {body : Value}

theorem WriteCall.run_marked {call : WriteCall} (hbody : call.body = some body)
    (hmarked : Marked body.tree) (r : Env) (h : List Event) :
    ∃ e, call.run client r h = (.err e, []) := by
  obtain ⟨e, hvalid⟩ := WriteCall.validate_marked hbody hmarked
  refine ⟨e, ?_⟩
  unfold WriteCall.run
  rw [hvalid, Run.lift_error_bind]

theorem JobCall.run_marked {job : JobCall} (hbody : job.call.body = some body)
    (hmarked : Marked body.tree) (r : Env) (h : List Event) :
    ∃ e, job.run client r h = (.err e, []) := by
  obtain ⟨e, hrun⟩ : ∃ e, job.call.run client r h = (.err e, []) :=
    WriteCall.run_marked hbody hmarked r h
  exact ⟨e, Run.bind_err hrun⟩

end Runs

/-- **No redaction placeholder is written back.**  The marker is found exactly where a string
at some depth contains it, and every method that sends a body of its caller refuses a body in
which one does, before it hands a request to the transport. -/
theorem marker_never_sent [Crates] :
    (∀ v : Json, containsRedactionMarker v = true ↔
      ∃ text, Json.Within (.str text) v ∧ redacted.toList <:+: text.toList) ∧
    ∀ (client : SdcClient) (body : Value) (text : String), Json.Within (.str text) body.tree →
      redacted.toList <:+: text.toList → ∀ (r : Env) (h : List Event),
        (∀ method : BodyWrite, ∃ e, (method.call body).run client r h = (.err e, [])) ∧
        (∀ method : BodyJob, ∃ e, (method.call body).run client r h = (.err e, [])) := by
  refine ⟨fun v => containsRedactionMarker_iff, ?_⟩
  intro client body text hwithin hinfix r h
  have hmarked : Marked body.tree := ⟨text, hwithin, hinfix⟩
  constructor
  · intro method
    exact WriteCall.run_marked (method.call_body body) hmarked r h
  · intro method
    exact JobCall.run_marked (method.call_body body) hmarked r h

/-! ### A read echoed back -/

/-- A description that the free-text scan has rewritten in part, inside a list. -/
def echoedBody : Value where
  tree := .obj [("name", .str "gw"),
    ("notes", .arr [.obj [("text", .str "rotate token [REDACTED] weekly")]])]
  distinct := by simp

private theorem echoedBody_within :
    Json.Within (.str "rotate token [REDACTED] weekly") echoedBody.tree := by
  have htext : Json.Within (.str "rotate token [REDACTED] weekly")
      (.obj [("text", .str "rotate token [REDACTED] weekly")]) :=
    .member List.mem_cons_self .self
  exact .member (List.mem_cons_of_mem _ List.mem_cons_self) (.item List.mem_cons_self htext)

/-- An update with the echoed body sends nothing, though SDC would take it. -/
theorem echoedBody_not_sent : ∃ _ : Crates, ∃ e,
    ((BodyWrite.updateNatRule "p1" "r1").call echoedBody).run minuteClient
      (Env.answering fun _ => .replies 200 .null) [] = (.err e, []) := by
  refine ⟨Tables.crates ⟨[], []⟩, ?_⟩
  have hinfix : redacted.toList <:+: "rotate token [REDACTED] weekly".toList :=
    ⟨"rotate token ".toList, " weekly".toList, by decide⟩
  exact ((@marker_never_sent (Tables.crates ⟨[], []⟩)).2 minuteClient echoedBody _
    echoedBody_within hinfix _ _).1 (.updateNatRule "p1" "r1")

end SdcMcp
