/-
A process from its configuration to its end.

Before anything is served, SDC is asked for the tenant that the credential belongs to, and
the process ends unless that is the tenant it was configured for.  What it does afterwards
is a session of the calls it is sent, however they are interleaved.  It may be stopped at
any point, so a process does some of that from the beginning.
-/
import SdcMcp.Proofs.Provenance

namespace SdcMcp

open Interactive Interleaving

section Startup

variable [Crates] [HandlerCrates]

omit [Crates] [HandlerCrates] in
/-- What changes nothing comes before a request that changes something. -/
theorem Quiet.before_dispatch {s t before after : List Event} {e : Event} (hs : Quiet s)
    (hsplit : s ++ t = before ++ e :: after) (hd : e.dispatches = true) :
    ∃ rest, before = s ++ rest ∧ t = rest ++ e :: after := by
  rcases List.append_eq_append_iff.mp hsplit with ⟨rest, hbefore, ht⟩ | ⟨rest, hs', hrest⟩
  · exact ⟨rest, hbefore, ht⟩
  · cases rest with
    | nil =>
        rw [List.append_nil] at hs'
        exact ⟨[], by rw [hs', List.append_nil], hrest.symm⟩
    | cons first rest =>
        rw [List.cons_append, List.cons.injEq] at hrest
        have hmem : e ∈ s := by
          rw [hs', hrest.1]
          simp
        rw [hs e hmem] at hd
        cases hd

omit [HandlerCrates] in
/-- A tenant that is verified was answered for by SDC, and nothing was sent but that question. -/
theorem verifyTenant_ok {client : SdcClient} {expectedTenantId : String} {r : Env}
    {h t : List Event} {scope : TenantScope}
    (hrun : verifyTenant client expectedTenantId r h = (.ok scope, t)) :
    ∃ a, .attempt ⟨.get, ["api", "v2", "tenant", "tenant-id"], [], none⟩ a ∈ t ∧
      readVerdict client TenantScope.decode a.exchange = .ok ⟨expectedTenantId⟩ := by
  obtain ⟨found, t1, t2, hread, hcheck, rfl⟩ := Run.bind_eq_ok hrun
  by_cases hother : found.tenantId ≠ expectedTenantId
  · rw [if_pos hother] at hcheck
    cases hcheck
  · rw [if_neg hother] at hcheck
    cases hcheck
    obtain ⟨⟨a, hmem, hverdict⟩, -⟩ := get_answered (Run.mapErr_eq_ok hread)
    rw [← not_not.mp hother]
    exact ⟨a, List.mem_append_left _ hmem, hverdict⟩

omit [HandlerCrates] in
theorem verifyTenant_reads (client : SdcClient) (expectedTenantId : String) :
    (verifyTenant client expectedTenantId).Emits fun e => e.isRead = true := by
  refine Run.emits_bind (Run.emits_mapErr (get_readsOnly _ _ _ _ _)) fun scope => ?_
  split
  · exact Run.emits_fail
  · exact Run.emits_pure

variable [UrlCrate] [HttpCrate]

omit [HandlerCrates] in
theorem startServer_reads (config : SdcConfig) (credential : String)
    (load : SdcClient → Except String ChangeManager) :
    (startServer config credential load).Emits fun e => e.isRead = true := by
  refine Run.emits_bind Run.emits_lift fun client => ?_
  refine Run.emits_bind (verifyTenant_reads client config.expectedTenantId) fun _ => ?_
  exact Run.emits_bind Run.emits_lift fun _ => Run.emits_pure

omit [HandlerCrates] in
/-- A process comes to serve with a client and with change sets that were loaded, and for a tenant
that was verified. -/
theorem startServer_ok {config : SdcConfig} {credential : String}
    {load : SdcClient → Except String ChangeManager} {r : Env} {h t : List Event}
    {handler : SdcHandler} (hrun : startServer config credential load r h = (.ok handler, t)) :
    ∃ client changes, SdcClient.new config credential = .ok client ∧
      load client = .ok changes ∧ handler = config.handler client changes ∧
      ∃ a, .attempt ⟨.get, ["api", "v2", "tenant", "tenant-id"], [], none⟩ a ∈ t ∧
        readVerdict client TenantScope.decode a.exchange = .ok ⟨config.expectedTenantId⟩ := by
  obtain ⟨client, hclient, hrest⟩ := Run.lift_bind_eq_ok hrun
  obtain ⟨scope, t1, t2, hverify, hlast, rfl⟩ := Run.bind_eq_ok hrest
  obtain ⟨changes, hload, hmade⟩ := Run.lift_bind_eq_ok hlast
  cases hmade
  obtain ⟨a, hmem, hverdict⟩ := verifyTenant_ok hverify
  exact ⟨client, changes, Except.mapError_eq_ok_iff.mp hclient, Except.mapError_eq_ok_iff.mp hload,
    rfl, a, List.mem_append_left _ hmem, hverdict⟩

/-- What a process does and whom it serves, until it ends or is stopped.  Either it does not come
to serve, or it does some of what its calls do together. -/
inductive ProcessTrace (config : SdcConfig) (credential : String)
    (load : SdcClient → Except String ChangeManager) (r : Env) (h : List Event) :
    List Served → List Event → Prop
  | refused {o : Outcome StartError SdcHandler} {start trace : List Event}
      (hstart : startServer config credential load r h = (o, start))
      (hrefused : ∀ handler, o ≠ .ok handler) (hcut : trace <+: start) :
      ProcessTrace config credential load r h [] trace
  | served {handler : SdcHandler} {session : List Served} {start whole trace : List Event}
      (hstart : startServer config credential load r h = (.ok handler, start))
      (hsession : SessionTrace handler session whole) (hcut : trace <+: start ++ whole) :
      ProcessTrace config credential load r h session trace

/-- **No change before the tenant is verified.**  However the calls of a process are interleaved,
and whenever it is stopped, it only reads, or it came to serve and there are no more requests that
can change SDC than authorized calls.  Each of these requests is of an authorized call, and before
it there was a read that SDC answered with the configured tenant. -/
theorem process_changes_verified (config : SdcConfig) (credential : String)
    (load : SdcClient → Except String ChangeManager) (r : Env) (h : List Event)
    (session : List Served) (trace : List Event)
    (hrun : ProcessTrace config credential load r h session trace) :
    (∀ e ∈ trace, e.isRead = true) ∨
    ∃ client changes, SdcClient.new config credential = .ok client ∧
      load client = .ok changes ∧
      trace.countP Event.dispatches
        ≤ session.countP (Served.authorized (config.handler client changes)) ∧
      ∀ before e after, trace = before ++ e :: after → e.dispatches = true →
        (∃ a, .attempt ⟨.get, ["api", "v2", "tenant", "tenant-id"], [], none⟩ a ∈ before ∧
          readVerdict client TenantScope.decode a.exchange = .ok ⟨config.expectedTenantId⟩) ∧
        ∃ s ∈ session, e ∈ s.events (config.handler client changes) ∧
          Authorized (s.handler (config.handler client changes)) s.call := by
  have hreads := startServer_reads config credential load r h
  cases hrun with
  | refused hstart hrefused hcut =>
      rw [hstart] at hreads
      exact .inl fun e he => hreads e (hcut.subset he)
  | @served handler session start whole trace hstart hsession hcut =>
      right
      rw [hstart] at hreads
      have hquiet : Quiet start := Reads.quiet hreads
      obtain ⟨client, changes, hclient, hload, rfl, a, hmem, hverdict⟩ := startServer_ok hstart
      refine ⟨client, changes, hclient, hload, ?_, ?_⟩
      · calc trace.countP Event.dispatches
            ≤ (start ++ whole).countP Event.dispatches := hcut.sublist.countP_le
          _ = whole.countP Event.dispatches := by
              rw [List.countP_append, hquiet.countP_eq_zero, Nat.zero_add]
          _ ≤ session.countP (Served.authorized (config.handler client changes)) :=
              hsession.dispatches_le
      · intro before e after hsplit hd
        obtain ⟨rest, hrest⟩ := hcut
        have hwhole : start ++ whole = before ++ e :: (after ++ rest) := by
          rw [← hrest, hsplit, List.append_assoc, List.cons_append]
        obtain ⟨served, rfl, hlater⟩ := hquiet.before_dispatch hwhole hd
        have he : e ∈ whole := by
          rw [hlater]
          simp
        exact ⟨⟨a, List.mem_append_left _ hmem, hverdict⟩, hsession.dispatch_authorized he hd⟩

end Startup

/-! ### A process that creates a host -/

section HostProcess

/-- What SDC says of the credential's tenant. -/
def tenantAnswer : Json := .obj [("tenant_id", .str "tenant-id-a")]

def processTables : Tables := { hostTables with documents := [tenantAnswer] }

local instance processCrates : Crates := processTables.crates

local instance processHandlerCrates : HandlerCrates := scopedCrates

local instance processUrls : UrlCrate where
  parse := fun raw => if raw = (defaultConfig 100).endpoint then some serviceUrl else none

local instance processHttp : HttpCrate := plainHttp

def tenantEnv : Env := Env.answering fun _ => .replies 200 tenantAnswer

def tenantRead : Event :=
  .attempt ⟨.get, ["api", "v2", "tenant", "tenant-id"], [], none⟩ ⟨0, .replies 200 tenantAnswer⟩

def processHandler : SdcHandler := (defaultConfig 100).handler (defaultClient 100) hostManager

def askTenant : Served := { readTenant with env := tenantEnv }

/-- Another call reads the tenant while the change set is applied. -/
def processTrace : List Event :=
  [.markRefused false, tenantRead] ++ gateEvents [] ++ [hostSent]

set_option maxRecDepth 40000 in
theorem process_starts : startServer (defaultConfig 100) "token" (fun _ => .ok hostManager)
    tenantEnv [] = (.ok processHandler, [tenantRead]) := by rfl

set_option maxRecDepth 40000 in
theorem process_session : SessionTrace processHandler [applyHost, askTenant] processTrace := by
  have hparts : [applyHost, askTenant].map (Served.events processHandler)
      = [hostTrace, [tenantRead]] := by rfl
  unfold SessionTrace
  rw [hparts]
  have hrest : Interleaves [gateEvents [] ++ [hostSent], []] (gateEvents [] ++ [hostSent]) :=
    Interleaves.flatten [gateEvents [] ++ [hostSent], []]
  exact .take [] _ (.take [_] [] hrest)

set_option maxRecDepth 40000 in
theorem process_client : SdcClient.new (defaultConfig 100) "token" = .ok (defaultClient 100) := by
  rfl

theorem process_host_verified : hostSent.dispatches = true ∧
    (tenantRead :: processTrace).countP Event.dispatches
      ≤ [applyHost, askTenant].countP (Served.authorized processHandler) ∧
    (∃ a, .attempt ⟨.get, ["api", "v2", "tenant", "tenant-id"], [], none⟩ a
        ∈ tenantRead :: ([.markRefused false, tenantRead] ++ gateEvents []) ∧
      readVerdict (defaultClient 100) TenantScope.decode a.exchange = .ok ⟨"tenant-id-a"⟩) ∧
    ∃ s ∈ [applyHost, askTenant], hostSent ∈ s.events processHandler ∧
      Authorized (s.handler processHandler) s.call := by
  rcases process_changes_verified (defaultConfig 100) "token" (fun _ => .ok hostManager) tenantEnv
      [] [applyHost, askTenant] (tenantRead :: processTrace)
      (.served process_starts process_session List.prefix_rfl) with
    hreads | ⟨client, changes, hclient, hload, hcount, hverified⟩
  · have hwrite := hreads hostSent (by simp [processTrace])
    cases hwrite
  · rw [process_client, Except.ok.injEq] at hclient
    cases hclient
    cases hload
    exact ⟨rfl, hcount,
      hverified (tenantRead :: ([.markRefused false, tenantRead] ++ gateEvents [])) hostSent []
        rfl rfl⟩

end HostProcess

end SdcMcp
