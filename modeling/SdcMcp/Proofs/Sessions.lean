/-
Sessions: what a server does to SDC over any number of calls.

Calls run side by side.  A session is a list of calls, each with the answers it got from
the coordinator and from SDC and with the history it saw, and its trace is any interleaving
of what the calls did.  Nothing is assumed of the order, so a call may see SDC and the
change sets as any others left them.

Whatever can change SDC comes from a call that was authorized for it, at most one request
for each such call, and it is a request that the call is licensed to send.
-/
import SdcMcp.Lib.Interleaving
import SdcMcp.Proofs.DevicePlans
import SdcMcp.Proofs.Mutations

namespace SdcMcp

open Interactive Interleaving

/-- One call as it ran: what the coordinator answered, and the world and the history it saw. -/
structure Served where
  call : Call
  changes : ChangeManager
  env : Env
  history : List Event

section Sessions

variable [Crates] [HandlerCrates]

namespace Served

omit [Crates] [HandlerCrates] in
/-- The handler as the call found it. -/
def handler (base : SdcHandler) (s : Served) : SdcHandler := { base with changes := s.changes }

def run (base : SdcHandler) (s : Served) : Outcome ToolError Value × List Event :=
  (s.handler base).handle s.call s.env s.history

def events (base : SdcHandler) (s : Served) : List Event := (s.run base).2

/-- The call is of a write tool and gets through. -/
def authorized (base : SdcHandler) (s : Served) : Bool :=
  s.call.tool.name ∈ WRITE_TOOLS &&
    (authorizeRequest s.call.caller s.call.tool.name s.call.tenant base.tenant).isOk

end Served

/-- What the calls of a session did, in any order that keeps the order of each. -/
def SessionTrace (base : SdcHandler) (session : List Served) (trace : List Event) : Prop :=
  Interleaves (session.map (Served.events base)) trace

theorem SessionTrace.mem {base : SdcHandler} {session : List Served} {trace : List Event}
    (h : SessionTrace base session trace) {e : Event} (he : e ∈ trace) :
    ∃ s ∈ session, e ∈ s.events base := by
  obtain ⟨part, hpart, hmem⟩ := h.mem_iff.mp he
  obtain ⟨s, hs, rfl⟩ := List.mem_map.mp hpart
  exact ⟨s, hs, hmem⟩

theorem Served.atMostOne (base : SdcHandler) (s : Served) :
    AtMostOne (fun q => Authorized (s.handler base) s.call ∧ Licensed s.changes s.call q)
      (s.events base) :=
  (s.handler base).handle_atMostOne s.call s.env s.history

omit [Crates] in
theorem Authorized.authorized {base : SdcHandler} {s : Served}
    (h : Authorized (s.handler base) s.call) : s.authorized base = true := by
  obtain ⟨hbearer, hwrites, hscope, htenant⟩ := h
  have hok : authorizeRequest s.call.caller s.call.tool.name s.call.tenant base.tenant
      = .ok () := by
    unfold authorizeRequest
    rw [Except.guard_bind_eq_ok_iff]
    refine ⟨?_, Except.bind_eq_ok_iff.mpr ⟨(), hscope, ?_⟩⟩
    · rintro ⟨hnone, -⟩
      rw [Option.isNone_iff_eq_none] at hnone
      rw [hnone] at hbearer
      cases hbearer
    · exact if_neg (not_not.mpr htenant)
  unfold Served.authorized
  rw [hok, Bool.and_eq_true, decide_eq_true_eq]
  exact ⟨hwrites, rfl⟩

/-- A call sends at most one request that can change SDC, and none unless it is authorized. -/
theorem Served.countP_le (base : SdcHandler) (s : Served) :
    (s.events base).countP Event.dispatches ≤ if s.authorized base then 1 else 0 := by
  have hone := s.atMostOne base
  by_cases hauthorized : s.authorized base = true
  · rw [if_pos hauthorized]
    exact hone.once
  · rw [if_neg hauthorized, Nat.le_zero, List.countP_eq_zero]
    intro e he hd
    obtain ⟨q, a, -, hq, -⟩ := hone.only e he hd
    exact hauthorized hq.authorized

/-- There are no more requests that can change SDC than authorized calls. -/
theorem SessionTrace.dispatches_le {base : SdcHandler} {session : List Served}
    {trace : List Event} (htrace : SessionTrace base session trace) :
    trace.countP Event.dispatches ≤ session.countP (Served.authorized base) := by
  rw [htrace.countP_eq, List.map_map]
  clear htrace
  induction session with
  | nil => exact Nat.zero_le _
  | cons s rest ih =>
      rw [List.map_cons, List.sum_cons, List.countP_cons, Nat.add_comm]
      exact Nat.add_le_add ih (s.countP_le base)

/-- Each request that can change SDC is of an authorized call. -/
theorem SessionTrace.dispatch_authorized {base : SdcHandler} {session : List Served}
    {trace : List Event} (htrace : SessionTrace base session trace) {e : Event} (he : e ∈ trace)
    (hd : e.dispatches = true) :
    ∃ s ∈ session, e ∈ s.events base ∧ Authorized (s.handler base) s.call := by
  obtain ⟨s, hs, hmem⟩ := htrace.mem he
  obtain ⟨q, a, -, hauthorized, -⟩ := (s.atMostOne base).only e hmem hd
  exact ⟨s, hs, hmem, hauthorized⟩

/-- **Only authorized calls change SDC, and each at most once.**  However calls are interleaved
and whatever SDC and the coordinator answer them, each request that can change SDC comes from the
call of a write tool, by the bearer of a token that reaches it and for the configured tenant, and
there are no more such requests than such calls. -/
theorem session_writes_authorized (base : SdcHandler) (session : List Served)
    (trace : List Event) (htrace : SessionTrace base session trace) :
    trace.countP Event.dispatches ≤ session.countP (Served.authorized base) ∧
      ∀ e ∈ trace, e.dispatches = true →
        ∃ s ∈ session, e ∈ s.events base ∧ Authorized (s.handler base) s.call :=
  ⟨htrace.dispatches_le, fun _ => htrace.dispatch_authorized⟩

/-- **Only what was asked for is sent.**  Each request that can change SDC is the preview of the
policies that its caller named, or what the one action of a change set says, which the coordinator
handed over for that caller and which stages under the digest that the caller named. -/
theorem session_writes_licensed (base : SdcHandler) (session : List Served)
    (trace : List Event) (htrace : SessionTrace base session trace) :
    ∀ e ∈ trace, e.dispatches = true →
      ∃ s ∈ session, e ∈ s.events base ∧ ∃ q a, e = .attempt q a ∧
        Licensed s.changes s.call q := by
  intro e he hd
  obtain ⟨s, hs, hmem⟩ := htrace.mem he
  obtain ⟨q, a, heq, -, hlicensed⟩ := (s.atMostOne base).only e hmem hd
  exact ⟨s, hs, hmem, q, a, heq, hlicensed⟩

/-! ### Where writes go -/

/-- A method and the words of a path, with a blank for each identifier. -/
abbrev Endpoint := Method × List (Option String)

/-- The endpoints of SDC that this server writes to. -/
def writeEndpoints : List Endpoint :=
  [(.post, ["api", "v1", "policies", "preview"]),
    (.post, ["api", "v1", "policies", "deploy"]),
    (.post, ["api", "v1", "addresses"]),
    (.put, ["api", "v1", "addresses", none]),
    (.delete, ["api", "v1", "addresses", none]),
    (.post, ["api", "v1", "applications"]),
    (.put, ["api", "v1", "applications", none]),
    (.delete, ["api", "v1", "applications", none]),
    (.post, ["api", "v1", "services"]),
    (.put, ["api", "v1", "services", none]),
    (.delete, ["api", "v1", "services", none]),
    (.post, ["api", "v1", "schedulers"]),
    (.put, ["api", "v1", "schedulers", none]),
    (.delete, ["api", "v1", "schedulers", none]),
    (.post, ["api", "v1", "policies", "firewall"]),
    (.put, ["api", "v1", "policies", "firewall", none]),
    (.delete, ["api", "v1", "policies", "firewall", none]),
    (.post, ["api", "v1", "policies", "nat"]),
    (.put, ["api", "v1", "policies", "nat", none]),
    (.delete, ["api", "v1", "policies", "nat", none]),
    (.post, ["api", "v1", "policies", "nat", none, "rules"]),
    (.put, ["api", "v1", "policies", "nat", none, "rules", none]),
    (.delete, ["api", "v1", "policies", "nat", none, "rules", none]),
    (.post, ["api", "v1", "policies", "nat", none, "rule_groups"]),
    (.put, ["api", "v1", "policies", "nat", none, "rule_groups", none]),
    (.post, ["api", "v1", "devices", none, "install_license"]),
    (.post, ["api", "v1", "devices", none, "install_ca_certificate"]),
    (.post, ["api", "v1", "devices", none, "install_local_certificate"]),
    (.post, ["api", "v1", "devices", none, "delete_certificate"]),
    (.post, ["api", "v1", "devices", "sync"])]

/-- Segments that are these words, with something in each blank. -/
def Spells : List String → List (Option String) → Prop :=
  List.Forall₂ fun segment word => ∀ w ∈ word, segment = w

/-- A request to an endpoint, without parameters. -/
def Request.At (q : Request) (endpoint : Endpoint) : Prop :=
  q.method = endpoint.1 ∧ q.query = [] ∧ Spells q.segments endpoint.2

omit [Crates] [HandlerCrates] in
theorem spells_words (words : List String) : Spells words (words.map some) := by
  unfold Spells
  rw [List.forall₂_map_right_iff, List.forall₂_same]
  intro word _ w hw
  exact Option.some.inj hw

omit [Crates] [HandlerCrates] in
theorem Spells.blank {segments : List String} {words : List (Option String)}
    (h : Spells segments words) (segment : String) :
    Spells (segments ++ [segment]) (words ++ [none]) :=
  List.rel_append h (.cons nofun .nil)

omit [Crates] [HandlerCrates] in
theorem Spells.words {segments : List String} {words : List (Option String)}
    (h : Spells segments words) (more : List String) :
    Spells (segments ++ more) (words ++ more.map some) :=
  List.rel_append h (spells_words more)

omit [Crates] [HandlerCrates] in
private theorem objectWrite_at {p : SdcPreparedObjectWrite} {q : Request}
    (hq : p.intended = some q) : ∃ endpoint ∈ writeEndpoints, q.At endpoint := by
  obtain ⟨operation, action, resource, uuid, request, before, planDigest⟩ := p
  have hcollection := spells_words resource.collectionSegments
  cases action with
  | create =>
      cases hq
      refine ⟨(.post, resource.collectionSegments.map some), ?_, rfl, rfl, hcollection⟩
      cases resource <;> decide
  | update =>
      cases uuid <;> cases hq
      refine ⟨(.put, resource.collectionSegments.map some ++ [none]), ?_, rfl, rfl,
        hcollection.blank _⟩
      cases resource <;> decide
  | delete =>
      cases uuid <;> cases hq
      refine ⟨(.delete, resource.collectionSegments.map some ++ [none]), ?_, rfl, rfl,
        hcollection.blank _⟩
      cases resource <;> decide

omit [Crates] [HandlerCrates] in
private theorem firewallWrite_at {p : SdcPreparedFirewallWrite} {q : Request}
    (hq : p.intended = some q) : ∃ endpoint ∈ writeEndpoints, q.At endpoint := by
  obtain ⟨operation, action, uuid, request, before, planDigest⟩ := p
  have hpolicies := spells_words ["api", "v1", "policies", "firewall"]
  cases action with
  | createPolicy =>
      cases hq
      exact ⟨(.post, _), by decide, rfl, rfl, hpolicies⟩
  | updatePolicy =>
      cases uuid <;> cases hq
      exact ⟨(.put, _), by decide, rfl, rfl, hpolicies.blank _⟩
  | deletePolicy =>
      cases uuid <;> cases hq
      exact ⟨(.delete, _), by decide, rfl, rfl, hpolicies.blank _⟩

omit [Crates] [HandlerCrates] in
private theorem natWrite_at {p : SdcPreparedNatWrite} {q : Request}
    (hq : p.intended = some q) : ∃ endpoint ∈ writeEndpoints, q.At endpoint := by
  obtain ⟨operation, action, policyId, ruleId, groupId, request, before, planDigest⟩ := p
  have hpolicies := spells_words ["api", "v1", "policies", "nat"]
  cases action with
  | createPolicy =>
      cases hq
      exact ⟨(.post, _), by decide, rfl, rfl, hpolicies⟩
  | updatePolicy =>
      obtain ⟨policy, -, rfl⟩ := Option.map_eq_some_iff.mp hq
      exact ⟨(.put, _), by decide, rfl, rfl, hpolicies.blank policy⟩
  | deletePolicy =>
      obtain ⟨policy, -, rfl⟩ := Option.map_eq_some_iff.mp hq
      exact ⟨(.delete, _), by decide, rfl, rfl, hpolicies.blank policy⟩
  | createRule =>
      obtain ⟨policy, -, rfl⟩ := Option.map_eq_some_iff.mp hq
      exact ⟨(.post, _), by decide, rfl, rfl, (hpolicies.blank policy).words ["rules"]⟩
  | updateRule =>
      obtain ⟨policy, -, hq⟩ := Option.bind_eq_some_iff.mp hq
      obtain ⟨rule, -, rfl⟩ := Option.map_eq_some_iff.mp hq
      exact ⟨(.put, _), by decide, rfl, rfl,
        ((hpolicies.blank policy).words ["rules"]).blank rule⟩
  | deleteRule =>
      obtain ⟨policy, -, hq⟩ := Option.bind_eq_some_iff.mp hq
      obtain ⟨rule, -, rfl⟩ := Option.map_eq_some_iff.mp hq
      exact ⟨(.delete, _), by decide, rfl, rfl,
        ((hpolicies.blank policy).words ["rules"]).blank rule⟩
  | createRuleGroup =>
      obtain ⟨policy, -, rfl⟩ := Option.map_eq_some_iff.mp hq
      exact ⟨(.post, _), by decide, rfl, rfl, (hpolicies.blank policy).words ["rule_groups"]⟩
  | updateRuleGroup =>
      obtain ⟨policy, -, hq⟩ := Option.bind_eq_some_iff.mp hq
      obtain ⟨group, -, rfl⟩ := Option.map_eq_some_iff.mp hq
      exact ⟨(.put, _), by decide, rfl, rfl,
        ((hpolicies.blank policy).words ["rule_groups"]).blank group⟩

omit [Crates] [HandlerCrates] in
/-- What an action stands for goes to a write endpoint. -/
theorem StoredAction.intended_at {action : StoredAction} {q : Request}
    (hq : action.intended = some q) : ∃ endpoint ∈ writeEndpoints, q.At endpoint := by
  cases action with
  | policyDeploy p =>
      obtain ⟨request, -, rfl⟩ := Option.map_eq_some_iff.mp hq
      exact ⟨(.post, _), by decide, rfl, rfl, spells_words ["api", "v1", "policies", "deploy"]⟩
  | objectWrite p => exact objectWrite_at hq
  | firewallWrite p => exact firewallWrite_at hq
  | natWrite p => exact natWrite_at hq
  | licenseWrite p =>
      cases hq
      have hdevice := (spells_words ["api", "v1", "devices"]).blank p.deviceUuid
      refine ⟨(.post, _), ?_, rfl, rfl, hdevice.words [p.action.name]⟩
      cases p.action <;> decide
  | deviceSync p =>
      cases hq
      exact ⟨(.post, _), by decide, rfl, rfl, spells_words ["api", "v1", "devices", "sync"]⟩

/-- **The write surface.**  However calls are interleaved, each request that can change SDC goes to
one of the thirty write endpoints, without parameters, and no identifier in its path is empty or
the name of a directory. -/
theorem session_write_surface (base : SdcHandler) (session : List Served) (trace : List Event)
    (htrace : SessionTrace base session trace) :
    ∀ e ∈ trace, e.dispatches = true → ∃ q a, e = .attempt q a ∧
      (∃ endpoint ∈ writeEndpoints, q.At endpoint) ∧
      ∀ segment ∈ q.segments, segment ∉ ["", ".", ".."] := by
  intro e he hd
  obtain ⟨s, hs, hmem⟩ := htrace.mem he
  obtain ⟨q, a, rfl, -, hlicensed⟩ := (s.atMostOne base).only e hmem hd
  obtain ⟨hcheck, -⟩ := (s.handler base).handle_proper s.call s.env s.history _ hmem q rfl
  refine ⟨q, a, rfl, ?_, ?_⟩
  · cases hlicensed with
    | preview htool =>
        exact ⟨(.post, _), by decide, rfl, rfl,
          spells_words ["api", "v1", "policies", "preview"]⟩
    | applied htool hset hstage hq => exact StoredAction.intended_at hq
  · unfold checkRequest at hcheck
    rw [Except.ite_error_eq_ok_iff, Bool.not_eq_true, List.any_eq_false] at hcheck
    intro segment hsegment
    simpa using hcheck.1 segment hsegment

/-! ### What is only read -/

/-- A call that gets through does what its tool does. -/
theorem SdcHandler.handle_admitted {handler : SdcHandler} {call : Call}
    (hadmitted : authorizeRequest call.caller call.tool.name call.tenant handler.tenant = .ok ())
    (r : Env) (h : List Event) :
    (handler.handle call r h).2 = (call.tool.io handler (owner call.caller) r h).2 := by
  unfold SdcHandler.handle
  rw [hadmitted, show (Except.ok () : Except String Unit).mapError ToolError.denied = .ok ()
    from rfl, Run.lift_ok_bind]
  rcases hrun : (call.tool.io handler (owner call.caller)).mapErr ToolError.sdc r h with ⟨o, t⟩
  have ht : t = (call.tool.io handler (owner call.caller) r h).2 := (congrArg Prod.snd hrun).symm
  cases o with
  | err e => rw [Run.bind_err hrun, ht]
  | dropped => rw [Run.bind_dropped hrun, ht]
  | ok value =>
      rw [Run.bind_ok hrun, ht]
      cases call.tool.present handler value <;> exact List.append_nil _

/-- A call is denied and does nothing, or it does what its tool does. -/
theorem SdcHandler.handle_events (handler : SdcHandler) (call : Call) (r : Env) (h : List Event) :
    (handler.handle call r h).2 = [] ∨
      (authorizeRequest call.caller call.tool.name call.tenant handler.tenant = .ok () ∧
        (handler.handle call r h).2 = (call.tool.io handler (owner call.caller) r h).2) := by
  cases hauthorized : authorizeRequest call.caller call.tool.name call.tenant handler.tenant with
  | error e =>
      left
      unfold SdcHandler.handle
      rw [hauthorized]
      exact congrArg Prod.snd (Run.lift_error_bind _ _ r h)
  | ok u => exact .inr ⟨rfl, handler.handle_admitted hauthorized r h⟩

/-- The call is of a read tool, which may show less than it read. -/
def ToolCall.rereads : ToolCall → Bool
  | .read .. => true
  | _ => false

omit [Crates] [HandlerCrates] in
theorem ToolCall.present_plain {tool : ToolCall} (h : tool.rereads = false) (handler : SdcHandler)
    (v : Value) : tool.present handler v = .ok v := by
  cases tool with
  | read tool paging => cases h
  | _ => rfl

/-- What a call answers is what its tool got, as it is presented and without its secrets. -/
theorem SdcHandler.handle_eq_ok {handler : SdcHandler} {call : Call} {r : Env}
    {h t : List Event} {answer : Value} (hrun : handler.handle call r h = (.ok answer, t)) :
    ∃ v w, call.tool.io handler (owner call.caller) r h = (.ok v, t) ∧
      call.tool.present handler v = .ok w ∧ answer = HandlerCrates.redactSecrets w := by
  obtain ⟨u, -, hcalled⟩ := Run.lift_bind_eq_ok hrun
  obtain ⟨v, t1, t2, hio, hshown, rfl⟩ := Run.bind_eq_ok hcalled
  obtain ⟨w, hpresented, hpure⟩ := Run.lift_bind_eq_ok hshown
  cases hpure
  rw [List.append_nil]
  exact ⟨v, w, Run.mapErr_eq_ok hio, hpresented, rfl⟩

/-- Other calls than reads are presented as they are. -/
theorem SdcHandler.handle_ok {handler : SdcHandler} {call : Call}
    (hplain : call.tool.rereads = false) {r : Env} {h t : List Event} {answer : Value}
    (hrun : handler.handle call r h = (.ok answer, t)) :
    ∃ v, answer = HandlerCrates.redactSecrets v ∧
      call.tool.io handler (owner call.caller) r h = (.ok v, t) := by
  obtain ⟨v, w, hio, hpresented, hanswer⟩ := handler.handle_eq_ok hrun
  rw [ToolCall.present_plain hplain, Except.ok.injEq] at hpresented
  exact ⟨v, hpresented ▸ hanswer, hio⟩

/-- An admitted call answers what its tool got. -/
theorem SdcHandler.handle_answers {handler : SdcHandler} {call : Call}
    (hadmitted : authorizeRequest call.caller call.tool.name call.tenant handler.tenant = .ok ())
    {r : Env} {h t : List Event} {v w : Value}
    (hio : call.tool.io handler (owner call.caller) r h = (.ok v, t))
    (hpresent : call.tool.present handler v = .ok w) :
    handler.handle call r h = (.ok (HandlerCrates.redactSecrets w), t) := by
  have hmapped : ((call.tool.io handler (owner call.caller)).mapErr ToolError.sdc) r h
      = (.ok v, t) := by
    rw [Run.mapErr_apply, hio]
    rfl
  unfold SdcHandler.handle
  rw [hadmitted, show (Except.ok () : Except String Unit).mapError ToolError.denied = .ok ()
    from rfl, Run.lift_ok_bind, Run.bind_ok hmapped, hpresent, Run.lift_ok_bind, Run.pure_apply,
    List.append_nil]

/-- The call of a tool that is no write tool only reads, pages of its caller's sizes. -/
theorem SdcHandler.handle_reads (handler : SdcHandler) {call : Call}
    (hread : call.tool.name ∉ WRITE_TOOLS) :
    AsksFor handler.client call.tool.pageSizes (call.tool.io handler (owner call.caller)) :=
  ToolCall.asksFor handler _ hread

/-- **Every request is proper.**  However calls are interleaved, each request of a session carries
a credential that can be sent and a path without empty segments and without names of directories,
and asks for no page or for one within the configured maximum.  A call of a read tool sends nothing
but `GET`s, for pages of the sizes that its caller named. -/
theorem session_requests_proper (base : SdcHandler) (session : List Served) (trace : List Event)
    (htrace : SessionTrace base session trace) :
    ∀ e ∈ trace, Proper base.client e ∧
      ∃ s ∈ session, e ∈ s.events base ∧ (s.call.tool.name ∉ WRITE_TOOLS →
        e.isRead = true ∧
          ∀ q, e.request = some q → PageOf base.client.maxPageSize s.call.tool.pageSizes q) := by
  intro e he
  obtain ⟨s, hs, hmem⟩ := htrace.mem he
  have hproper : Proper base.client e :=
    (s.handler base).handle_proper s.call s.env s.history e hmem
  refine ⟨hproper, s, hs, hmem, fun hread => ?_⟩
  rcases (s.handler base).handle_events s.call s.env s.history with hnone | ⟨-, hevents⟩
  · have hnil : s.events base = [] := hnone
    rw [hnil] at hmem
    cases hmem
  · have hsame : s.events base
        = (s.call.tool.io (s.handler base) (owner s.call.caller) s.env s.history).2 := hevents
    rw [hsame] at hmem
    obtain ⟨hisRead, hpage⟩ := (s.handler base).handle_reads hread _ _ e hmem
    exact ⟨hisRead, fun q hq => (hpage q hq).2⟩

omit [Crates] [HandlerCrates] in
/-- Write tools are among those that a wildcard does not reach. -/
theorem WRITE_TOOLS_subset : WRITE_TOOLS ⊆ WILDCARD_EXCLUDED_TOOLS := by
  decide

/-- **Without a token that names a write tool, nothing is changed.**  If a wildcard does not reach
the tools it is told to leave out, then callers without a token and bearers of tokens for all tools
make the server read, and do nothing else: no request changes SDC and no operation is
discarded. -/
theorem unprivileged_session_reads
    (hscopes : ∀ ctx tool target excluded, ctx.tools = .wildcard → tool ∈ excluded →
      HandlerCrates.authorizeCall (some ctx) tool target excluded ≠ .ok ())
    (base : SdcHandler) (session : List Served)
    (hcallers : ∀ s ∈ session, ∀ ctx, s.call.caller = some ctx → ctx.tools = .wildcard)
    (trace : List Event) (htrace : SessionTrace base session trace) :
    ∀ e ∈ trace, e.isRead = true := by
  intro e he
  obtain ⟨s, hs, hmem⟩ := htrace.mem he
  rcases (s.handler base).handle_events s.call s.env s.history with hnone | ⟨hok, hevents⟩
  · have hnil : s.events base = [] := hnone
    rw [hnil] at hmem
    cases hmem
  · obtain ⟨hbearer, hscope, -⟩ := authorizeRequest_ok hok
    have hread : s.call.tool.name ∉ WRITE_TOOLS := by
      intro hwrites
      obtain ⟨ctx, hctx⟩ := Option.isSome_iff_exists.mp (hbearer hwrites)
      rw [hctx] at hscope
      exact hscopes ctx _ _ _ (hcallers s hs ctx hctx) (WRITE_TOOLS_subset hwrites) hscope
    have hsame : s.events base
        = (s.call.tool.io (s.handler base) (owner s.call.caller) s.env s.history).2 := hevents
    rw [hsame] at hmem
    exact ((s.handler base).handle_reads hread).readsOnly _ _ e hmem

end Sessions

/-! ### A host is planned and created -/

section Hosts

local instance sessionCrates : Crates := hostTables.crates

/-- Tokens that name their tools, or that a wildcard takes to all but the excluded ones. -/
@[reducible] def scopedCrates : HandlerCrates where
  authorizeCall := fun caller tool _ excluded =>
    match caller.map CallerCtx.tools with
    | some .wildcard => if tool ∈ excluded then .error "not in scope" else .ok ()
    | some (.allowlist tools) => if tool ∈ tools then .ok () else .error "not in scope"
    | none => .ok ()
  redactSecrets := id
  encodeOutcome := fun _ => Value.null
  serdeError := fun _ => ""

local instance hostHandlerCrates : HandlerCrates := scopedCrates

/-- A coordinator with one change set, of the new host. -/
def hostManager : ChangeManager where
  sets := quietSets
  policyDeploys := fun _ _ => relayingCoordinator []
  objectWrites := fun _ _ => relayingCoordinator [hostCreate nameFirst]
  firewallWrites := fun _ _ => relayingCoordinator []
  natWrites := fun _ _ => relayingCoordinator []
  licenseWrites := fun _ _ => relayingCoordinator []
  deviceSyncs := fun _ _ => relayingCoordinator []
  approveChangeSet := fun _ _ _ _ => .error "no approval is pending"
  changeSetStatus := fun _ _ => .error "no such change set"
  changeSet := fun _ _ => .error "no such change set"
  discardOperation := fun _ _ _ _ => .error "no such operation"

def hostHandler : SdcHandler := ⟨"tenant-a", minuteClient, 131072, hostManager⟩

def hostPlanner : CallerCtx := ⟨"planner", .wildcard, .allowlist WRITE_TOOLS⟩

/-- The new host is planned. -/
def planHost : Served where
  call := ⟨some hostPlanner, "tenant-a",
    .prepareSdcObjectWrite .create .addresses none (some nameFirst)⟩
  changes := hostManager
  env := unansweredEnv
  history := []

/-- Its change set is applied, to an SDC that does not answer. -/
def applyHost : Served where
  call := ⟨some hostPlanner, "tenant-a",
    .applySdcObjectWrite ⟨"cs-1", "sha256:0", (hostCreate nameFirst).planDigest⟩⟩
  changes := hostManager
  env := unansweredEnv
  history := []

/-- A token for all tools reads the tenant. -/
def readTenant : Served where
  call := ⟨some ⟨"reader", .wildcard, .wildcard⟩, "tenant-a",
    .read .getSdcTenantScope ⟨[], none⟩⟩
  changes := hostManager
  env := Env.answering fun _ => .replies 200 .null
  history := []

/-- The same token tries to apply the change set. -/
def refusedApply : Served where
  call := { readTenant.call with
    tool := .applySdcObjectWrite ⟨"cs-1", "sha256:0", (hostCreate nameFirst).planDigest⟩ }
  changes := hostManager
  env := unansweredEnv
  history := []

def hostRequest : Request := ⟨.post, ["api", "v1", "addresses"], [], some nameFirst.tree⟩

def hostSent : Event := .attempt hostRequest ⟨0, .unanswered .timedOut⟩

def hostTrace : List Event := .markRefused false :: (gateEvents [] ++ [hostSent])

set_option maxRecDepth 40000 in
theorem planHost_events : planHost.events hostHandler = [] := by rfl

set_option maxRecDepth 40000 in
theorem applyHost_events : applyHost.events hostHandler = hostTrace := by rfl

theorem host_trace : SessionTrace hostHandler [planHost, applyHost] hostTrace := by
  unfold SessionTrace
  rw [List.map_cons, List.map_cons, List.map_nil, planHost_events, applyHost_events]
  exact Interleaves.flatten [[], hostTrace]

theorem host_sent : hostSent ∈ hostTrace := by simp [hostTrace]

theorem host_write_authorized : ∃ s ∈ [planHost, applyHost], hostSent ∈ s.events hostHandler ∧
    Authorized (s.handler hostHandler) s.call :=
  (session_writes_authorized hostHandler _ hostTrace host_trace).2 hostSent host_sent rfl

theorem host_write_licensed : ∃ s ∈ [planHost, applyHost], hostSent ∈ s.events hostHandler ∧
    ∃ q a, hostSent = .attempt q a ∧ Licensed s.changes s.call q :=
  session_writes_licensed hostHandler _ hostTrace host_trace hostSent host_sent rfl

theorem host_write_surface : ∃ q a, hostSent = .attempt q a ∧
    (∃ endpoint ∈ writeEndpoints, q.At endpoint) ∧
    ∀ segment ∈ q.segments, segment ∉ ["", ".", ".."] :=
  session_write_surface hostHandler _ hostTrace host_trace hostSent host_sent rfl

theorem host_write_proper : Proper minuteClient hostSent :=
  (session_requests_proper hostHandler _ hostTrace host_trace hostSent host_sent).1

/-- The tenant is read, and the change set is not applied. -/
theorem tenant_only_read : (readTenant.events hostHandler).length = 1 ∧
    (∃ text, (refusedApply.run hostHandler).1 = .err (.denied text)) ∧
    ∀ e ∈ [readTenant.events hostHandler, refusedApply.events hostHandler].flatten,
      e.isRead = true := by
  refine ⟨by rfl, ⟨_, by rfl⟩, unprivileged_session_reads ?_ hostHandler
    [readTenant, refusedApply] ?_ _ (Interleaves.flatten _)⟩
  · intro ctx tool target excluded hctx htool
    simp [HandlerCrates.authorizeCall, hctx, htool]
  · intro s hs ctx hctx
    rcases List.mem_cons.mp hs with rfl | hs
    · cases hctx
      rfl
    · cases List.mem_singleton.mp hs
      cases hctx
      rfl

end Hosts

end SdcMcp
