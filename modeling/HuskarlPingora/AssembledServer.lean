import HuskarlPingora.BranchDispatch
import HuskarlPingora.CredentialStripping
import HuskarlPingora.MetadataPublication
import HuskarlPingora.ResourceIsolation

/-! # The assembled server

The router of an assembly serves a request by one branch: it selects, enters the branch
with the request filter, and gives that branch the hooks that follow. -/
namespace AssembledServer

open HttpModel RouteResolution ResourceRules ResourceErrors ResourceContext ResourceGuard
open ResourceResponse ResourceProxy MetadataPublisher ResourceBinding Assembly AssemblyRouting
open GuardAuthorization ResourceEffects ResourceBoundary CredentialStripping ResourceIsolation
open BranchDispatch TracedHooks
open BoundaryAgreement (Aligned gatewayAssembly gatewayBound gatewayGuard gatewayRequest
  gatewayValidator)

variable {C : Type}

/-- A proxy the adapter is no part of. An assembly has one as its fallback. -/
structure OtherProxy (C : Type) where
  earlyRequestFilter : ResourceHook C Unit
  requestFilter : ResourceHook C Bool
  later : LaterCall C → ResourceHook C Unit

abbrev Branch (C : Type) := OtherProxy C ⊕ ProtectedResourceProxy C

abbrev ServerRoute (C : Type) := Route C (Branch C)

abbrev ServerHook (C : Type) (α : Type) :=
  Hook Error (Slotted (World C) (ServerRoute C)) (Event C) α

/-- The early hook of an inner proxy, which runs before anything is authorized. -/
structure EarlyHook (C : Type) where
  effect : InnerEffect C
  result : Await (Except Error Unit)

/-- The early hooks of the inner proxies, for the request at hand. -/
abbrev Earlies (C : Type) := ProtectedResourceProxy C → EarlyHook C

def runEarly (hook : EarlyHook C) : ResourceHook C Unit := do
  update hook.effect.apply
  let result ← await hook.result
  attempt result

def branchEarly (early : Earlies C) : ServerRoute C → ResourceHook C Unit
  | .branch (.inl proxy) => proxy.earlyRequestFilter
  | .branch (.inr proxy) => runEarly (early proxy)
  | .metadata _ => pure ()

/-- Pingora's default hooks. The header they are handed is the server's to set. -/
def defaultLater : LaterCall C → ResourceHook C Unit
  | .attempt _ upstream => update fun w => { w with upstream := upstream }
  | .response call => updateResponse fun _ => call.header
  | .delegated _ => pure ()

/-- The publisher of an assembly hands its later hooks to `MetadataNotFound`. -/
def branchLater [HttpCrate] (call : LaterCall C) : ServerRoute C → ResourceHook C Unit
  | .branch (.inl proxy) => proxy.later call
  | .branch (.inr proxy) => later proxy.auth call
  | .metadata _ => defaultLater call

/-- The router of the proxy-router crate, over its selector, its fallback and the hooks of
its branches. The slot of the context goes with the state. -/
class ProxyRouterCrate where
  earlyRequestFilter {C ρ : Type} (select : ResourceHook C (Option ρ)) (fallback : ρ)
    (hook : ρ → ResourceHook C Unit) : Hook Error (Slotted (World C) ρ) (Event C) Unit
  laterHook {C ρ α : Type} (fallback : ρ) (hook : ρ → ResourceHook C α) :
    Hook Error (Slotted (World C) ρ) (Event C) α

/-- A router selects in its early phase, before any branch hook, and every later hook
reaches the branch it recorded. -/
structure RouterDispatches [ProxyRouterCrate] : Prop where
  early : ∀ {C ρ : Type} (select : ResourceHook C (Option ρ)) (fallback : ρ)
    (hook : ρ → ResourceHook C Unit) (w : World C),
    (ProxyRouterCrate.earlyRequestFilter select fallback hook).run ⟨w, none⟩ =
      (dispatch select fallback hook).run ⟨w, none⟩
  later : ∀ {C ρ α : Type} (fallback : ρ) (hook : ρ → ResourceHook C α) (w : World C)
    (branch : ρ), (ProxyRouterCrate.laterHook fallback hook).run ⟨w, some branch⟩ =
      (deliver fallback hook).run ⟨w, some branch⟩

structure AssembledResources (C : Type) where
  selector : ResourceSelector C (Branch C)
  fallback : OtherProxy C

def assembleRouter [ResourceRegistryCrate] [RouteGuardCrate]
    (assembly : ResourceAssembly (Branch C)) (fallback : OtherProxy C)
    (pathGuard : RouteGuardCrate.GuardConfig) : Except AssemblyError (AssembledResources C) :=
  match assembly.assemble (.inl fallback) pathGuard with
  | .error error => .error error
  | .ok selector => .ok ⟨selector, fallback⟩

section Hooks

variable [ProxyRouterCrate]

variable [HttpCrate]

def AssembledResources.later (self : AssembledResources C) (call : LaterCall C) :
    ServerHook C Unit :=
  ProxyRouterCrate.laterHook (.branch (.inl self.fallback)) (branchLater call)

variable [HasScopes C] [ResourceServerLib]

def branchFilter : ServerRoute C → ResourceHook C Bool
  | .branch (.inl proxy) => proxy.requestFilter
  | .branch (.inr proxy) => proxy.requestFilter
  | .metadata publisher => publisher.requestFilter

end Hooks

section Hosting

variable [HttpCrate] [ResourceRegistryCrate]

/-- The resources an assembly was given, in order of registration. -/
inductive Hosts : ResourceAssembly (Branch C) → List (BoundResource (ProtectedResourceProxy C)) →
    Prop where
  | new (mapping) : Hosts (.new mapping) []
  | named {assembly resources} (name) : Hosts assembly resources →
      Hosts (assembly.withMetricsName name) resources
  | registered {assembly assembly' resources bound} : Hosts assembly resources →
      Constructed bound → assembly.registerBound (bound.intoRoute .inr) = .ok assembly' →
      Hosts assembly' (resources ++ [bound])

theorem hosts_register {assembly assembly' : ResourceAssembly (Branch C)}
    {resources : List (BoundResource (ProtectedResourceProxy C))}
    {definition : ResourceDefinition} {validator : AccessTokenValidator C}
    {policy : ResourcePolicy C} {inner : Inner C} {bound : BoundResource (ProtectedResourceProxy C)}
    (h : Hosts assembly resources)
    (hbuild : BoundResource.build definition validator policy inner (fun _ => ⟨[], none⟩) =
      .ok bound)
    (hr : assembly.register .inr definition validator policy inner = .ok assembly') :
    Hosts assembly' (resources ++ [bound]) := by
  obtain ⟨hdefinition, -⟩ := build_bound hbuild
  have hbuilt : Constructed bound := ⟨validator, policy, inner, _, hdefinition ▸ hbuild⟩
  have hbound : assembly.registerBound (bound.intoRoute .inr) = .ok assembly' := by
    rw [ResourceAssembly.register, hbuild] at hr
    exact hr
  exact .registered h hbuilt hbound

variable {assembly : ResourceAssembly (Branch C)}
  {resources : List (BoundResource (ProtectedResourceProxy C))}

theorem Hosts.built (h : Hosts assembly resources) : Built assembly := by
  induction h with
  | new mapping => exact .new mapping
  | named name _ ih => exact .named name ih
  | registered _ _ hr ih => exact .registered ih hr

theorem Hosts.constructed (h : Hosts assembly resources) : ∀ bound ∈ resources,
    Constructed bound := by
  induction h with
  | new mapping => exact fun bound hmem => absurd hmem List.not_mem_nil
  | named name _ ih => exact ih
  | registered _ hc _ ih =>
    intro bound hmem
    rcases List.mem_append.mp hmem with hmem | hmem
    · exact ih bound hmem
    · obtain rfl := List.mem_singleton.mp hmem
      exact hc

theorem Hosts.branches (h : Hosts assembly resources) : assembly.branches =
    resources.map fun bound => (bound.definition.incomingMount, .inr bound.proxy) := by
  induction h with
  | new mapping => rfl
  | named name _ ih => exact ih
  | registered _ _ hr ih =>
    obtain ⟨registry, incoming, endpoint, -, -, -, -, rfl⟩ := registerBound_ok hr
    simp [ih, BoundResource.intoRoute]

omit [ResourceRegistryCrate] in
theorem serves_of_aligned {bound : BoundResource (ProtectedResourceProxy C)}
    (hc : Constructed bound) {incoming lead mount : String}
    (ha : Aligned bound.definition incoming lead mount) :
    BoundaryAgreement.Serves bound.definition.incomingMount bound.proxy := by
  obtain ⟨_, _, _, _, hbuild⟩ := hc
  have hbound := (build_bound hbuild).2
  obtain ⟨uri, huri, hpath⟩ := hbound.path
  exact ⟨bound.definition, incoming, lead, mount, ha, ha.incomingMount,
    hpath.trans (ha.resource uri huri), hbound.mapping⟩

theorem Hosts.mem_branches (h : Hosts assembly resources)
    {bound : BoundResource (ProtectedResourceProxy C)} (hbound : bound ∈ resources) :
    (bound.definition.incomingMount, .inr bound.proxy) ∈ assembly.branches := by
  rw [h.branches]
  exact List.mem_map.mpr ⟨bound, hbound, rfl⟩

theorem Hosts.uncovered (h : Hosts assembly resources) {path : String}
    (hno : ∀ bound ∈ resources, ¬ MountCovers bound.definition.incomingMount path) :
    ∀ branch ∈ assembly.branches, ¬ MountCovers branch.1 path := by
  rw [h.branches]
  intro branch hmem
  obtain ⟨bound, hbound, rfl⟩ := List.mem_map.mp hmem
  exact hno bound hbound

theorem Hosts.endpoints (h : Hosts assembly resources) : assembly.endpoints.map some =
    resources.map fun bound => bound.metadata.withMapping assembly.metadataMapping := by
  induction h with
  | new mapping => rfl
  | named name _ ih => exact ih
  | registered _ _ hr ih =>
    obtain ⟨registry, incoming, endpoint, -, -, -, he, rfl⟩ := registerBound_ok hr
    have he' : some endpoint = _ := he.symm
    simp only [List.map_append, List.map_cons, List.map_nil, ih, he']
    rfl

end Hosting

section Resources

variable [HttpCrate] [HasScopes C] [ResourceServerLib]
variable {proxy : ProtectedResourceProxy C} {w : World C}

theorem entered_decision (adapter : Adapter C) {seen : AuthState C}
    (h : seen ∈ enteredBy ((adapter.requestFilter).run w).events) :
    enteredBy ((adapter.requestFilter).run w).events = [seen] ∧ ∃ category events,
      runCheck (adapter.call w) w = ⟨.done (.forward seen.validatedToken seen.dpopNonce
        seen.stripCredentials, category), w, events⟩ ∧
      Permitted (adapter.call w) seen.validatedToken seen.stripCredentials := by
  obtain ⟨token, nonce, strip, category, events, hrun, hp, hasked⟩ := forwarded_decision ⟨seen, h⟩
  have hforward := run_forwarded ⟨seen, h⟩ hrun w.auth
  obtain ⟨hevents, -⟩ := run_innerRequestFilter adapter.auth
    { w with auth := ⟨token, nonce, strip⟩ }
  have hentered : enteredBy ((adapter.requestFilter).run w).events = [⟨token, nonce, strip⟩] := by
    rw [hforward, after_events, enteredBy_append, enteredBy_decision hasked, hevents]
    rfl
  obtain rfl := List.mem_singleton.mp (hentered ▸ h)
  exact ⟨hentered, category, events, hrun, hp⟩

theorem validated_inside {headers : HeaderMap} {method : Method} {uri : Uri} {cert : Option Bytes}
    (h : .validateRequest headers method uri cert ∈ ((proxy.requestFilter).run w).events) :
    Inside proxy w uri ∧ headers = w.session.reqHeader.headers ∧
      method = w.session.reqHeader.method ∧ cert = w.session.clientCertDer := by
  by_cases hi : ∃ uri, Inside proxy w uri
  swap
  · have hout : ∀ uri, ¬ Inside proxy w uri := fun uri hu => hi ⟨uri, hu⟩
    rw [run_outside hout, after_events] at h
    rcases List.mem_append.mp h with h | h
    · simp [authorizationEvent] at h
    · exact absurd h (unasked_answered (answered_refuse _ _ _ _ _ w) _ _ _ _)
  obtain ⟨uri', hi⟩ := hi
  obtain ⟨outcome, category, events, hrun, -, hasked⟩ := runCheck_decided (boundCall proxy w) w
  have hmem : .validateRequest headers method uri cert ∈ events := by
    rw [run_inside hi] at h
    cases outcome with
    | forward token nonce strip =>
      rw [run_authorize_forward hrun, after_events,
        (run_innerRequestFilter proxy.auth _).1] at h
      simpa [decisionEvents, checkEvent, authorizationEvent] using h
    | deny d =>
      rw [run_authorize_deny hrun, after_events] at h
      rcases List.mem_append.mp h with h | h
      · simpa [decisionEvents, checkEvent, authorizationEvent] using h
      · exact absurd h (unasked_answered (answered_refuse _ _ _ _ _ w) _ _ _ _)
  by_cases hask : ∃ rule fullUri, Asks (boundCall proxy w) rule fullUri
  · obtain ⟨rule, fullUri, hask⟩ := hask
    rw [(hasked.asked rule fullUri hask).1] at hmem
    simp only [List.mem_singleton, Event.validateRequest.injEq] at hmem
    obtain ⟨rfl, rfl, rfl, rfl⟩ := hmem
    have huri : uri' = uri := Option.some.inj (hi.reconstructed.symm.trans hask.reconstructed)
    exact ⟨huri ▸ hi, rfl, rfl, rfl⟩
  · rw [(hasked.spared fun rule fullUri h => hask ⟨rule, fullUri, h⟩).1] at hmem
    exact absurd hmem List.not_mem_nil

theorem refused_handled (h : enteredBy ((proxy.requestFilter).run w).events = []) {b : Bool}
    (hb : ((proxy.requestFilter).run w).exit = .done b) : b = true := by
  by_cases hi : ∃ uri, Inside proxy w uri
  swap
  · have hout : ∀ uri, ¬ Inside proxy w uri := fun uri hu => hi ⟨uri, hu⟩
    rw [run_outside hout, after_exit] at hb
    exact ((answered_refuse _ _ _ _ _ w).handled b hb).1
  obtain ⟨uri, hi⟩ := hi
  obtain ⟨outcome, category, events, hrun, -, hasked⟩ := runCheck_decided (boundCall proxy w) w
  rw [run_inside hi] at h hb
  cases outcome with
  | forward token nonce strip =>
    rw [run_authorize_forward hrun, after_events, (run_innerRequestFilter proxy.auth _).1,
      enteredBy_append] at h
    simp [enteredBy] at h
  | deny d =>
    rw [run_authorize_deny hrun, after_exit] at hb
    exact ((answered_refuse _ _ _ _ _ w).handled b hb).1

theorem attempts_conveyed {seen : AuthState C}
    (h : seen ∈ enteredBy ((proxy.requestFilter).run w).events) :
    ∃ rule, Resolved (boundCall proxy w) rule ∧ ∀ before,
      SparedBefore AuthState.stripCredentials proxy.auth before → ∀ inner upstream,
        ∀ entry ∈ upstreamEnteredBy ((attemptUpstream proxy.auth inner upstream).run
          (final (later proxy.auth) before ((proxy.requestFilter).run w).state)).events,
          Conveyed rule.stripCredentials upstream entry.2 := by
  obtain ⟨token, nonce, strip, category, events, hrun, hp, hasked⟩ :=
    @forwarded_decision C _ _ _ (.bound proxy) w ⟨seen, h⟩
  obtain ⟨rule, hresolved, rfl, -⟩ := permitted_rule hp
  have hforward := @run_forwarded C _ _ _ (.bound proxy) w ⟨seen, h⟩ _ _ _ _ _ hrun w.auth
  obtain ⟨-, hstate⟩ := run_innerRequestFilter proxy.auth
    { w with auth := ⟨token, nonce, rule.stripCredentials⟩ }
  refine ⟨rule, hresolved, fun before hspared inner upstream entry hentry => ?_⟩
  have hslot : (reached (.bound proxy) w before).auth.stripCredentials = rule.stripCredentials :=
    reached_slot (a := ⟨token, nonce, rule.stripCredentials⟩) (fun _ _ => rfl)
      (by rw [hforward, after_state]; exact hstate) hspared
  have hentered := attempt_enters proxy.auth inner upstream (reached (.bound proxy) w before)
  obtain rfl := List.mem_singleton.mp (hentered ▸ hentry)
  rw [hslot]
  exact conveyed_strippedHeaders _ _

end Resources

section Publisher

inductive IsWrite : Event C → Prop where
  | header (header endOfStream) : IsWrite (.writeResponseHeader header endOfStream)
  | body (body endOfStream) : IsWrite (.writeResponseBody body endOfStream)
  | respondError (code) : IsWrite (.respondError code)

structure WriteMove (a : AuthState C) (es : List (Event C)) (a' : AuthState C) : Prop where
  same : a' = a
  writes : ∀ e ∈ es, IsWrite e

abbrev OnlyWrites {α : Type} (m : ResourceHook C α) : Prop := Follows World.auth WriteMove m

theorem writes_emit {e : Event C} (h : IsWrite e) : OnlyWrites (emit e) := by
  intro w
  exact .single ⟨rfl, fun e' he => (List.mem_singleton.mp he) ▸ h⟩

theorem writes_read : OnlyWrites (C := C) read := fun w => .stay w.auth

theorem writes_pure {α : Type} (a : α) : OnlyWrites (C := C) (pure a) := fun w => .stay w.auth

theorem writes_writeResponseHeader (header : ResponseHeader) (endOfStream : Bool) :
    OnlyWrites (C := C) (writeResponseHeader header endOfStream) := by
  refine follows_bind (writes_emit (.header _ _)) fun _ => follows_bind writes_read fun w => ?_
  refine follows_bind (follows_await _) fun _ => follows_bind (follows_attempt _) fun _ => ?_
  exact follows_update fun w => .stay w.auth

theorem writes_writeResponseBody (body : Bytes) (endOfStream : Bool) :
    OnlyWrites (C := C) (writeResponseBody body endOfStream) := by
  refine follows_bind (writes_emit (.body _ _)) fun _ => follows_bind writes_read fun w => ?_
  exact follows_bind (follows_await _) fun _ => follows_attempt _

theorem writes_write (header : ResponseHeader) (sendBody : Bool) (body : Bytes) :
    OnlyWrites (C := C) (write header sendBody body) := by
  refine follows_bind (writes_writeResponseHeader _ _) fun _ => ?_
  cases sendBody with
  | false => exact writes_pure ()
  | true => exact writes_writeResponseBody body true

theorem writes_metadataNotFound : OnlyWrites (C := C) metadataNotFound := by
  refine follows_bind ?_ fun _ => writes_pure true
  refine follows_bind (writes_emit (.respondError _)) fun _ => follows_bind writes_read fun w => ?_
  refine follows_bind (follows_await _) fun _ => follows_bind (follows_attempt _) fun _ => ?_
  exact follows_update fun w => .stay w.auth

theorem writes_run {m : ResourceHook C Bool} (h : OnlyWrites m) (w : World C) :
    (m.run w).state.auth = w.auth ∧ ∀ e ∈ (m.run w).events, IsWrite e := by
  have hpath := (h w).invariant (I := fun es a => a = w.auth ∧ ∀ e ∈ es, IsWrite e) ?_ []
    ⟨rfl, fun e he => absurd he List.not_mem_nil⟩
  · simpa using hpath
  · intro t a es a' hi hm
    refine ⟨hm.same.trans hi.1, fun e he => ?_⟩
    rcases List.mem_append.mp he with he | he
    · exact hi.2 e he
    · exact hm.writes e he

variable [HttpCrate]

theorem writes_answer (endpoint : ResourceMetadataEndpoint) (method : Method) :
    OnlyWrites (C := C) (MetadataPublication.answer endpoint method) := by
  unfold MetadataPublication.answer
  split
  · exact follows_bind (writes_write _ _ _) fun _ => writes_pure true
  · refine follows_bind ?_ fun _ => writes_pure true
    exact follows_bind (follows_attempt _) fun _ => writes_writeResponseHeader _ _

theorem writes_publisher (endpoints : List ResourceMetadataEndpoint) : OnlyWrites
    (ResourceMetadataProxy.requestFilter ⟨metadataNotFound (C := C), endpoints⟩) := by
  intro w
  rw [MetadataPublication.run_requestFilter]
  split
  · exact writes_answer _ _ w
  · exact writes_metadataNotFound w

theorem publisher_handles (endpoints : List ResourceMetadataEndpoint) {w : World C} {b : Bool}
    (h : ((ResourceMetadataProxy.requestFilter ⟨metadataNotFound, endpoints⟩).run w).exit =
      .done b) : b = true := by
  rw [MetadataPublication.run_requestFilter] at h
  split at h
  · unfold MetadataPublication.answer at h
    split at h
    · obtain ⟨u, -, hpure⟩ := done_of_bind h
      cases hpure
      rfl
    · obtain ⟨u, -, hpure⟩ := done_of_bind h
      cases hpure
      rfl
  · obtain ⟨u, -, hpure⟩ := done_of_bind h
    cases hpure
    rfl

end Publisher

section Requests

variable [HttpCrate] [HasScopes C] [ResourceServerLib]

def branchServe (early : Earlies C) (route : ServerRoute C) : ResourceHook C Bool := do
  branchEarly early route
  branchFilter route

/-- The world in which the adapter finds the request after the early hook. -/
def afterEarly (early : Earlies C) (proxy : ProtectedResourceProxy C) (w : World C) : World C :=
  (early proxy).effect.apply w

theorem bound_cases (early : Earlies C) (proxy : ProtectedResourceProxy C) (w : World C) :
    (((branchServe early (.branch (.inr proxy))).run w).events = [] ∧
      ∀ b, ((branchServe early (.branch (.inr proxy))).run w).exit ≠ .done b) ∨
    (branchServe early (.branch (.inr proxy))).run w =
      (proxy.requestFilter).run (afterEarly early proxy w) := by
  cases hr : (early proxy).result with
  | dropped => exact .inl (by simp [branchServe, branchEarly, runEarly, hr])
  | ready result =>
    cases result with
    | error e => exact .inl (by simp [branchServe, branchEarly, runEarly, hr])
    | ok u =>
      exact .inr (by simp [branchServe, branchEarly, runEarly, hr, branchFilter, afterEarly])

def routeEvent (selector : ResourceSelector C (Branch C)) (label : String) : Event C :=
  .counter "huskarl.pingora.resource.route" label (selector.metricsName.getD "")

abbrev ServerRun (C : Type) (α : Type) :=
  Ran Error (Slotted (World C) (ServerRoute C)) (Event C) α

def AssembledResources.resolve (server : AssembledResources C) (w : World C) :
    Except ResolveError (ServerRoute C) :=
  server.selector.routes.resolve w.session.reqHeader.uri.path w.session.reqHeader.method

/-- The run of one branch alone, after the counter of its selection. -/
def branchRun (server : AssembledResources C) (early : Earlies C) (route : ServerRoute C)
    (w : World C) : ServerRun C Bool :=
  seenWith (some route)
    (((branchServe early route).run w).after [routeEvent server.selector "selected"])

variable [ProxyRouterCrate] {server : AssembledResources C} {early : Earlies C} {w : World C}

omit [HttpCrate] [HasScopes C] [ResourceServerLib] in
/-- Both filters of the router, on a context whose slot is still empty, over whatever its
branches do in them. -/
def AssembledResources.serveWith (server : AssembledResources C)
    (enter : ServerRoute C → ResourceHook C Unit) (filter : ServerRoute C → ResourceHook C Bool)
    (w : World C) : ServerRun C Bool :=
  (do ProxyRouterCrate.earlyRequestFilter server.selector.select
        (.branch (.inl server.fallback)) enter
      ProxyRouterCrate.laterHook (.branch (.inl server.fallback)) filter :
    ServerHook C Bool).run ⟨w, none⟩

def AssembledResources.serve (server : AssembledResources C) (early : Earlies C) (w : World C) :
    ServerRun C Bool :=
  server.serveWith (branchEarly early) branchFilter w

omit [ProxyRouterCrate] [HttpCrate] [HasScopes C] [ResourceServerLib] in
theorem run_selector (server : AssembledResources C) (w : World C) :
    (server.selector.select).run w = match server.resolve w with
    | .error reason => ⟨.failed ⟨.httpStatus (resolveErrorStatus reason).code, reason.display⟩, w,
        [routeEvent server.selector (RouteResolution.routeDenial reason)]⟩
    | .ok route => ⟨.done (some route), w, [routeEvent server.selector "selected"]⟩ := by
  unfold AssembledResources.resolve
  cases hr : server.selector.routes.resolve w.session.reqHeader.uri.path
      w.session.reqHeader.method <;> simp [ResourceSelector.select, hr, routeEvent]

section Routed

variable {enter : ServerRoute C → ResourceHook C Unit}
  {filter : ServerRoute C → ResourceHook C Bool}

omit [HttpCrate] [HasScopes C] [ResourceServerLib] in
theorem serve_denied (dispatches : RouterDispatches) {reason : ResolveError}
    (hr : server.resolve w = .error reason) : server.serveWith enter filter w =
      ⟨.failed ⟨.httpStatus (resolveErrorStatus reason).code, reason.display⟩, ⟨w, none⟩,
        [routeEvent server.selector (RouteResolution.routeDenial reason)]⟩ := by
  have hselect := run_selector server w
  rw [hr] at hselect
  rw [AssembledResources.serveWith, run_bind, dispatches.early, run_dispatch_failed hselect]
  rfl

omit [HttpCrate] [HasScopes C] [ResourceServerLib] in
theorem serve_routed (dispatches : RouterDispatches) {route : ServerRoute C}
    (hr : server.resolve w = .ok route) : server.serveWith enter filter w =
      seenWith (some route) (((do enter route; filter route : ResourceHook C Bool).run w).after
        [routeEvent server.selector "selected"]) := by
  have hselect := run_selector server w
  rw [hr] at hselect
  rw [AssembledResources.serveWith, run_bind, dispatches.early, run_dispatch_done hselect, run_bind,
    ← after_andThen]
  exact seenWith_andThen _ fun _ s => dispatches.later _ _ s route

end Routed

omit [HasScopes C] [ResourceServerLib] in
theorem delivers_later (dispatches : RouterDispatches) (server : AssembledResources C)
    (route : ServerRoute C) : BranchDispatch.Delivers (.branch (.inl server.fallback)) route
      branchLater server.later :=
  fun _ w => dispatches.later _ _ w route

structure PubliclyAnswered (server : AssembledResources C) (early : Earlies C) (w : World C) :
    Prop where
  events : ∃ tail, (server.serve early w).events = routeEvent server.selector "selected" :: tail ∧
    ∀ e ∈ tail, IsWrite e
  auth : (server.serve early w).state.state.auth = w.auth
  handled : ∀ b, (server.serve early w).exit = .done b → b = true

/-- Under the mount of a resource the server is that resource and nothing else. What its
own early hook made of the request is what the adapter authorizes. -/
structure Guarded (server : AssembledResources C) (early : Earlies C)
    (bound : BoundResource (ProtectedResourceProxy C)) (w : World C) : Prop where
  alone : server.serve early w = branchRun server early (.branch (.inr bound.proxy)) w
  asked : ∀ headers method uri cert,
    .validateRequest headers method uri cert ∈ (server.serve early w).events →
      bound.definition.mapping.publicUrl (afterEarly early bound.proxy w).session.reqHeader.uri =
        some uri ∧
      ∃ resource, HttpCrate.parseUri bound.definition.resource = some resource ∧
        resourcePathMatches resource.path uri.path = true
  entered : ∀ seen ∈ enteredBy (server.serve early w).events,
    Permitted (boundCall bound.proxy (afterEarly early bound.proxy w)) seen.validatedToken
        seen.stripCredentials ∧
      ∀ v, seen.validatedToken = some v → Shares bound.definition.audiences v.aud
  refused : enteredBy (server.serve early w).events = [] → ∀ b,
    (server.serve early w).exit = .done b → b = true
  later : ∀ calls, trace server.later calls (server.serve early w).state =
      trace (CredentialStripping.later bound.proxy.auth) calls (server.serve early w).state.state ∧
    (final server.later calls (server.serve early w).state).slot = some (.branch (.inr bound.proxy))
  /-- Whatever hooks come before an upstream attempt, if they spare the flag. -/
  stripped : ∀ seen ∈ enteredBy (server.serve early w).events, ∃ rule,
    Resolved (boundCall bound.proxy (afterEarly early bound.proxy w)) rule ∧ ∀ before,
      SparedBefore AuthState.stripCredentials bound.proxy.auth before → ∀ inner upstream,
        ∀ entry ∈ upstreamEnteredBy ((server.later (.attempt inner upstream)).run
          (final server.later before (server.serve early w).state)).events,
          Conveyed rule.stripCredentials upstream entry.2

structure Confined [ResourceRegistryCrate] (assembly : ResourceAssembly (Branch C))
    (resources : List (BoundResource (ProtectedResourceProxy C))) (server : AssembledResources C)
    (early : Earlies C) (w : World C) : Prop where
  denied : ∀ reason, server.resolve w = .error reason → server.serve early w =
    ⟨.failed ⟨.httpStatus (resolveErrorStatus reason).code, reason.display⟩, ⟨w, none⟩,
      [routeEvent server.selector (RouteResolution.routeDenial reason)]⟩
  published : ∀ route, server.resolve w = .ok route →
    OnMetadataPath assembly w.session.reqHeader.uri.path → PubliclyAnswered server early w
  guarded : ∀ route, server.resolve w = .ok route →
    ¬ OnMetadataPath assembly w.session.reqHeader.uri.path → ∀ bound ∈ resources,
      MountCovers bound.definition.incomingMount w.session.reqHeader.uri.path →
        Guarded server early bound w
  otherwise : ∀ route, server.resolve w = .ok route →
    ¬ OnMetadataPath assembly w.session.reqHeader.uri.path → (∀ bound ∈ resources,
      ¬ MountCovers bound.definition.incomingMount w.session.reqHeader.uri.path) →
        server.serve early w = branchRun server early (.branch (.inl server.fallback)) w

theorem publicly_answered (dispatches : RouterDispatches) {publisher : ResourceMetadataProxy C}
    (hp : publisher = ⟨metadataNotFound, publisher.endpoints⟩)
    (hr : server.resolve w = .ok (.metadata publisher)) : PubliclyAnswered server early w := by
  have hserve : server.serve early w = seenWith (some (.metadata publisher))
      (((publisher.requestFilter).run w).after [routeEvent server.selector "selected"]) :=
    serve_routed dispatches hr
  have hwrites := writes_publisher (C := C) publisher.endpoints
  rw [← hp] at hwrites
  obtain ⟨hauth, hevents⟩ := writes_run hwrites w
  constructor
  · rw [hserve]
    exact ⟨_, rfl, hevents⟩
  · rw [hserve]
    exact hauth
  · intro b hb
    rw [hserve] at hb
    have hb' : ((publisher.requestFilter).run w).exit = .done b := hb
    rw [hp] at hb'
    exact publisher_handles _ hb'

theorem bound_run (dispatches : RouterDispatches) (early : Earlies C)
    {proxy : ProtectedResourceProxy C} (hr : server.resolve w = .ok (.branch (.inr proxy))) :
    (enteredBy (server.serve early w).events = [] ∧
      (∀ headers method uri cert,
        .validateRequest headers method uri cert ∉ (server.serve early w).events) ∧
      ∀ b, (server.serve early w).exit ≠ .done b) ∨
    server.serve early w = seenWith (some (.branch (.inr proxy)))
      (((proxy.requestFilter).run (afterEarly early proxy w)).after
        [routeEvent server.selector "selected"]) := by
  have hserve : server.serve early w = branchRun server early _ w := serve_routed dispatches hr
  rcases bound_cases early proxy w with ⟨hevents, hexit⟩ | hrun
  · refine .inl ?_
    have hnone : (server.serve early w).events = [routeEvent server.selector "selected"] := by
      rw [hserve, branchRun, seenWith_events, after_events, hevents]
      rfl
    rw [hnone]
    refine ⟨rfl, by simp [routeEvent], fun b hb => ?_⟩
    rw [hserve] at hb
    exact hexit b hb
  · rw [hserve, branchRun, hrun]
    exact .inr rfl

theorem guarded_of_bound (dispatches : RouterDispatches)
    {bound : BoundResource (ProtectedResourceProxy C)} (hc : Constructed bound)
    (hr : server.resolve w = .ok (.branch (.inr bound.proxy))) :
    Guarded server early bound w := by
  obtain ⟨_, _, _, _, hbuild⟩ := hc
  have hbound := (build_bound hbuild).2
  have hserve : server.serve early w = branchRun server early _ w := serve_routed dispatches hr
  have hdelivers := delivers_later dispatches server (.branch (.inr bound.proxy))
  have hlater : ∀ calls, trace server.later calls (server.serve early w).state =
        trace (CredentialStripping.later bound.proxy.auth) calls
          (server.serve early w).state.state ∧
      (final server.later calls (server.serve early w).state).slot =
        some (.branch (.inr bound.proxy)) := by
    intro calls
    rw [hserve, branchRun, seenWith_state, trace_delivered hdelivers, final_delivered hdelivers]
    exact ⟨rfl, rfl⟩
  rcases bound_run dispatches early hr with ⟨hnone, hunasked, hexit⟩ | hrun
  · refine ⟨hserve, ?_, ?_, ?_, hlater, ?_⟩
    · exact fun headers method uri cert hmem => absurd hmem (hunasked headers method uri cert)
    · exact fun seen hseen => absurd (hnone ▸ hseen) List.not_mem_nil
    · exact fun _ b hb => absurd hb (hexit b)
    · exact fun seen hseen => absurd (hnone ▸ hseen) List.not_mem_nil
  have hentered : enteredBy (server.serve early w).events =
      enteredBy ((bound.proxy.requestFilter).run (afterEarly early bound.proxy w)).events := by
    rw [hrun]
    rfl
  refine ⟨hserve, ?_, ?_, ?_, hlater, ?_⟩
  · intro headers method uri cert hmem
    rw [hrun] at hmem
    have hasked : .validateRequest headers method uri cert ∈
        ((bound.proxy.requestFilter).run (afterEarly early bound.proxy w)).events := by
      simpa [routeEvent] using hmem
    obtain ⟨hi, -⟩ := validated_inside hasked
    obtain ⟨resource, hresource, hpath⟩ := hbound.path
    have hpublic := hi.reconstructed
    rw [publicUri, effectiveRequestUri, hbound.mapping] at hpublic
    exact ⟨hpublic, resource, hresource, hpath ▸ hi.covered⟩
  · intro seen hseen
    rw [hentered] at hseen
    obtain ⟨-, _, _, _, hp⟩ := entered_decision (.bound bound.proxy) hseen
    refine ⟨hp, fun v hv => ?_⟩
    generalize seen.stripCredentials = strip at hp
    rw [hv] at hp
    cases hp with
    | authenticated _ _ hb => exact hbound.audiences ▸ hb _ rfl
  · intro hnone b hb
    rw [hrun] at hb
    exact refused_handled (hentered ▸ hnone) hb
  · intro seen hseen
    rw [hentered] at hseen
    obtain ⟨rule, hresolved, hconveyed⟩ := attempts_conveyed hseen
    refine ⟨rule, hresolved, fun before hspared inner upstream entry hentry => ?_⟩
    rw [hrun, seenWith_state, final_delivered hdelivers, hdelivers.run] at hentry
    exact hconveyed before hspared inner upstream entry hentry

omit [HttpCrate] [HasScopes C] [ResourceServerLib] [ProxyRouterCrate] in
theorem assembleRouter_ok [ResourceRegistryCrate] [RouteGuardCrate]
    {assembly : ResourceAssembly (Branch C)} {fallback : OtherProxy C}
    {pathGuard : RouteGuardCrate.GuardConfig}
    (h : assembleRouter assembly fallback pathGuard = .ok server) : server.fallback = fallback ∧
      assembly.assemble (.inl fallback) pathGuard = .ok server.selector := by
  unfold assembleRouter at h
  split at h
  · cases h
  · rename_i selector hselector
    cases h
    exact ⟨rfl, hselector⟩

section Routes

variable [ResourceRegistryCrate] [RouteGuardCrate] {assembly : ResourceAssembly (Branch C)}
  {resources : List (BoundResource (ProtectedResourceProxy C))} {fallback : OtherProxy C}
  {pathGuard : RouteGuardCrate.GuardConfig} {route : ServerRoute C}

omit [HasScopes C] [ResourceServerLib] [ProxyRouterCrate] in
theorem routed_of_resolve (router : RouterContract) (registry : RegistryContract)
    (hh : Hosts assembly resources) (ha : assembleRouter assembly fallback pathGuard = .ok server)
    (hr : server.resolve w = .ok route) :
    Routed assembly (.inl fallback) w.session.reqHeader.uri.path route := by
  obtain ⟨-, hassemble⟩ := assembleRouter_ok ha
  have hsound := sound_of_built registry hh.built
  exact routed_of_answer (hsound.apart registry) (answer_of_resolve router hsound hassemble hr)

/-- Where a request on this path goes: to the publisher, to a resource whose mount covers
it, or to the fallback, which gets what is left. -/
inductive Destined (assembly : ResourceAssembly (Branch C))
    (resources : List (BoundResource (ProtectedResourceProxy C))) (fallback : OtherProxy C)
    (path : String) : ServerRoute C → Prop where
  | publisher : OnMetadataPath assembly path →
      Destined assembly resources fallback path (.metadata ⟨metadataNotFound, assembly.endpoints⟩)
  | resource {bound} : ¬ OnMetadataPath assembly path → bound ∈ resources →
      MountCovers bound.definition.incomingMount path →
      Destined assembly resources fallback path (.branch (.inr bound.proxy))
  | fallback : ¬ OnMetadataPath assembly path →
      (∀ bound ∈ resources, ¬ MountCovers bound.definition.incomingMount path) →
      Destined assembly resources fallback path (.branch (.inl fallback))

omit [HasScopes C] [ResourceServerLib] [ProxyRouterCrate] in
theorem destined_of_resolve (router : RouterContract) (registry : RegistryContract)
    (hh : Hosts assembly resources) (ha : assembleRouter assembly fallback pathGuard = .ok server)
    (hr : server.resolve w = .ok route) :
    Destined assembly resources fallback w.session.reqHeader.uri.path route := by
  obtain ⟨-, hassemble⟩ := assembleRouter_ok ha
  cases answer_of_resolve router (sound_of_built registry hh.built) hassemble hr with
  | metadata hm => exact .publisher hm
  | branch hm hmem hc =>
    rw [hh.branches] at hmem
    obtain ⟨bound, hbound, heq⟩ := List.mem_map.mp hmem
    cases heq
    exact .resource hm hbound hc
  | fallback hm hno => exact .fallback hm fun bound hbound => hno _ (hh.mem_branches hbound)

end Routes

/-- A request of an assembled server is denied before any branch, answered publicly on a
metadata path, handled by the one resource whose mount covers it, or left to the fallback. -/
theorem assembled_server_confines [ResourceRegistryCrate] [RouteGuardCrate]
    (dispatches : RouterDispatches) (router : RouterContract) (registry : RegistryContract)
    {assembly : ResourceAssembly (Branch C)}
    {resources : List (BoundResource (ProtectedResourceProxy C))} (hh : Hosts assembly resources)
    {fallback : OtherProxy C} {pathGuard : RouteGuardCrate.GuardConfig}
    (ha : assembleRouter assembly fallback pathGuard = .ok server) (early : Earlies C)
    (w : World C) : Confined assembly resources server early w := by
  obtain ⟨rfl, -⟩ := assembleRouter_ok ha
  have hrouted : ∀ route, server.resolve w = .ok route →
      Routed assembly (.inl server.fallback) w.session.reqHeader.uri.path route :=
    fun _ hr => routed_of_resolve router registry hh ha hr
  constructor
  · exact fun reason hr => serve_denied dispatches hr
  · intro route hr hm
    obtain ⟨publisher, rfl⟩ := (hrouted route hr).metadata.mpr hm
    have hp := (hrouted _ hr).publisher publisher rfl
    exact publicly_answered dispatches (by rw [hp]) hr
  · intro route hr hm bound hbound hc
    obtain rfl := (hrouted route hr).branch hm _ _ (hh.mem_branches hbound) hc
    exact guarded_of_bound dispatches (hh.constructed bound hbound) hr
  · intro route hr hm hno
    obtain rfl := (hrouted route hr).fallback hm (hh.uncovered hno)
    exact serve_routed dispatches hr

end Requests

section Gateway

local instance : RouteGuardCrate := referenceGuard
local instance : ResourceRegistryCrate := referenceRegistry
local instance : ResourceServerLib := ⟨none, .client .insufficientScope "insufficient scope"⟩

@[reducible] def gatewayCrate : HttpCrate where
  headerValue text := some ⟨text⟩
  parseUri text :=
    if text = "https://api.example.com/gateway/app" then
      some ⟨some "https", some "api.example.com", some ⟨"/gateway/app", none⟩⟩
    else if text = "https://api.example.com/gateway/reports" then
      some ⟨some "https", some "api.example.com", some ⟨"/gateway/reports", none⟩⟩
    else none

local instance : HttpCrate := gatewayCrate

@[reducible] def referenceRouter : ProxyRouterCrate where
  earlyRequestFilter select fallback hook := dispatch select fallback hook
  laterHook fallback hook := deliver fallback hook

local instance : ProxyRouterCrate := referenceRouter

theorem reference_dispatches : RouterDispatches where
  early _ _ _ _ := rfl
  later _ _ _ _ := rfl

def issuedValidator : AccessTokenValidator Rfc9068AccessTokenClaims where
  validateRequest := fun _ _ _ _ =>
    ⟨.ok (some ⟨["https://api.example.com/gateway/app"], ⟨none⟩⟩), none⟩
  prepare := gatewayValidator.prepare

def issuedBound : BoundResource (ProtectedResourceProxy Rfc9068AccessTokenClaims) :=
  { gatewayBound with
    proxy := { gatewayBound.proxy with
      auth := { gatewayBound.proxy.auth with
        guard := { gatewayGuard with
          validator := issuedValidator.validateRequest } } } }

def reportsDefinition : ResourceDefinition where
  resource := "https://api.example.com/gateway/reports"
  audiences := ["https://api.example.com/gateway/reports"]
  mapping := BoundaryAgreement.gatewayMapping
  incomingMount := "/edge/reports"
  metadataUri := ⟨some "https", some "api.example.com",
    some ⟨"/.well-known/oauth-protected-resource/gateway/reports", none⟩⟩

def reportsChallenge : String :=
  "Bearer resource_metadata=\"https://api.example.com/.well-known/oauth-protected-resource" ++
    "/gateway/reports\""

def reportsMetadata : ValidatorMetadata :=
  ⟨fun _ _ _ => [], fun _ => [reportsChallenge], fun _ _ _ => ⟨.unauthorized, [], none⟩⟩

def reportsValidator : AccessTokenValidator Rfc9068AccessTokenClaims where
  validateRequest := fun _ _ _ _ => ⟨.ok none, none⟩
  prepare definition scopes := (gatewayValidator.prepare definition scopes).map fun prepared =>
    { prepared with validatorMetadata := reportsMetadata, body := [91, 93] }

def reportsBound : BoundResource (ProtectedResourceProxy Rfc9068AccessTokenClaims) where
  definition := reportsDefinition
  proxy := ⟨⟨Inner.idle, { gatewayGuard with
    validator := reportsValidator.validateRequest, metadata := reportsMetadata },
    fun _ => ⟨[], none⟩⟩, "/gateway/reports", reportsDefinition.audiences⟩
  metadata := ⟨⟨some "https", some "api.example.com", some ⟨"/gateway/reports", none⟩⟩,
    "https://api.example.com", reportsDefinition.metadataUri, reportsDefinition.metadataUri,
    [91, 93]⟩
  canonical := rfl

def reportsEndpoint : ResourceMetadataEndpoint :=
  { reportsBound.metadata with incomingUri :=
    ⟨none, none, some ⟨"/.well-known/oauth-protected-resource/gateway/reports", none⟩⟩ }

def issuedAssembly : ResourceAssembly (Branch Rfc9068AccessTokenClaims) where
  registry := [issuedBound.definition]
  metadataMapping := directMapping
  branches := [("/edge/app", .inr issuedBound.proxy)]
  endpoints := gatewayAssembly.endpoints
  metricsName := none

def reportsAssembly : ResourceAssembly (Branch Rfc9068AccessTokenClaims) where
  registry := [reportsDefinition]
  metadataMapping := directMapping
  branches := [("/edge/reports", .inr reportsBound.proxy)]
  endpoints := [reportsEndpoint]
  metricsName := none

def pairAssembly : ResourceAssembly (Branch Rfc9068AccessTokenClaims) where
  registry := [reportsDefinition, issuedBound.definition]
  metadataMapping := directMapping
  branches := [("/edge/reports", .inr reportsBound.proxy), ("/edge/app", .inr issuedBound.proxy)]
  endpoints := reportsEndpoint :: gatewayAssembly.endpoints
  metricsName := none

def pairResources : List (BoundResource (ProtectedResourceProxy Rfc9068AccessTokenClaims)) :=
  [reportsBound, issuedBound]

theorem pairResources_aligned : ∀ bound ∈ pairResources, ∃ incoming lead mount,
    Aligned bound.definition incoming lead mount := by
  intro bound hbound
  have hmapping := BoundaryAgreement.gatewayMapping_onePrefix
  rcases List.mem_pair.mp hbound with rfl | rfl
  · refine ⟨"/edge", "/gateway", "/reports", rfl, by decide, fun uri huri => ?_, hmapping⟩
    cases huri
    decide
  · refine ⟨"/edge", "/gateway", "/app", rfl, by decide, fun uri huri => ?_, hmapping⟩
    cases huri
    decide

theorem issuedBound_build : BoundResource.build issuedBound.definition issuedValidator
    gatewayGuard.policy .idle (fun _ => ⟨[], none⟩) = .ok issuedBound := rfl

theorem reportsBound_build : BoundResource.build reportsDefinition reportsValidator
    gatewayGuard.policy .idle (fun _ => ⟨[], none⟩) = .ok reportsBound := rfl

theorem issuedAssembly_hosts : Hosts issuedAssembly [issuedBound] := by
  have hregister : (ResourceAssembly.new directMapping).register .inr issuedBound.definition
      issuedValidator gatewayGuard.policy .idle = .ok issuedAssembly := rfl
  exact hosts_register (.new directMapping) issuedBound_build hregister

theorem pairAssembly_hosts : Hosts pairAssembly pairResources := by
  have hreports : (ResourceAssembly.new directMapping).register .inr reportsDefinition
      reportsValidator gatewayGuard.policy .idle = .ok reportsAssembly := rfl
  have hissued : reportsAssembly.register .inr issuedBound.definition issuedValidator
      gatewayGuard.policy .idle = .ok pairAssembly := rfl
  exact hosts_register (hosts_register (.new directMapping) reportsBound_build hreports)
    issuedBound_build hissued

def notFound : OtherProxy Rfc9068AccessTokenClaims := ⟨pure (), metadataNotFound, defaultLater⟩

def reportsRequest : World Rfc9068AccessTokenClaims :=
  { gatewayRequest with
    session := { gatewayRequest.session with
      reqHeader := ⟨.get, ⟨none, none, some ⟨"/edge/reports/daily", none⟩⟩, []⟩ } }

def idleEarly {C : Type} : Earlies C := fun _ => ⟨Inner.idle.requestFilter.1, .ready (.ok ())⟩

theorem assembled_server_confines_gateway : ∃ server,
    assembleRouter pairAssembly notFound () = .ok server ∧
      (enteredBy (server.serve idleEarly gatewayRequest).events).length = 1 ∧
      Confined pairAssembly pairResources server idleEarly gatewayRequest := by
  obtain ⟨server, hserver, hentered⟩ : ∃ server,
      assembleRouter pairAssembly notFound () = .ok server ∧
        (enteredBy (server.serve idleEarly gatewayRequest).events).length = 1 :=
    ⟨_, rfl, rfl⟩
  exact ⟨server, hserver, hentered, assembled_server_confines reference_dispatches reference_router
    reference_registry pairAssembly_hosts hserver idleEarly gatewayRequest⟩

end Gateway

end AssembledServer
