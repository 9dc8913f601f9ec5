import HuskarlPingora.AssembledServer
import HuskarlPingora.ResourceTelemetry

/-! # The counters of an assembled server

Over any requests, the route counter, the authorization counter and the check counter of
a server of aligned resources agree with each other and with what was done. -/
namespace ServerTelemetry

open HttpModel RouteResolution ResourceRules ResourceErrors ResourceContext ResourceGuard
open ResourceProxy ResourceEffects ResourceBoundary MetadataPublisher ResourceBinding Assembly
open AssemblyRouting AssembledServer BranchDispatch ResourceTelemetry TracedHooks
open BoundaryAgreement (Aligned inside_of_covers gatewayRequest)

variable {C : Type}

/-- What the environment decides about one request: how each resource and the fallback
behave while it is served, and the world it arrives in. -/
structure Visit (C : Type) where
  early : Earlies C
  inner : ProtectedResourceProxy C → Inner C
  validator : ProtectedResourceProxy C → HeaderMap → Method → Uri → Option Bytes →
    ValidationResult C
  errorBody : ProtectedResourceProxy C → ErrorDetails → ErrorBodyResponse
  other : OtherProxy C
  world : World C

/-- The request as the adapter finds it after the early hook of its resource. -/
def Visit.arrival (v : Visit C) (proxy : ProtectedResourceProxy C) : Arrival C :=
  ⟨v.inner proxy, v.validator proxy, v.errorBody proxy, afterEarly v.early proxy v.world⟩

def visitEarly (v : Visit C) : ServerRoute C → ResourceHook C Unit
  | .branch (.inl _) => v.other.earlyRequestFilter
  | .branch (.inr proxy) => runEarly (v.early proxy)
  | .metadata _ => pure ()

inductive Destination (C : Type) where
  | denied (reason : ResolveError)
  | published
  | guarded (proxy : ProtectedResourceProxy C)
  | fallback

def destination (server : AssembledResources C) (v : Visit C) : Destination C :=
  match server.resolve v.world with
  | .error reason => .denied reason
  | .ok (.metadata _) => .published
  | .ok (.branch (.inr proxy)) => .guarded proxy
  | .ok (.branch (.inl _)) => .fallback

def Destination.label : Destination C → String
  | .denied reason => RouteResolution.routeDenial reason
  | _ => "selected"

def Destination.isGuarded : Destination C → Bool
  | .guarded _ => true
  | _ => false

def routeMetric : String := "huskarl.pingora.resource.route"

def routes (es : List (Event C)) : List String := labels routeMetric (countersOf es)

theorem routes_append (es es' : List (Event C)) : routes (es ++ es') = routes es ++ routes es' := by
  simp [routes, labels]

section Serving

variable [HttpCrate] [HasScopes C] [ResourceServerLib]

def visitFilter (v : Visit C) : ServerRoute C → ResourceHook C Bool
  | .branch (.inl _) => v.other.requestFilter
  | .branch (.inr proxy) => (boundFacing proxy (v.arrival proxy)).requestFilter
  | .metadata publisher => publisher.requestFilter

variable [ProxyRouterCrate]

def serveVisit (server : AssembledResources C) (v : Visit C) : ServerRun C Bool :=
  server.serveWith (visitEarly v) (visitFilter v) v.world

def handled (server : AssembledResources C) (visits : List (Visit C)) : List (Event C) :=
  visits.flatMap fun v => (serveVisit server v).events

omit [HttpCrate] [HasScopes C] [ResourceServerLib] [ProxyRouterCrate] in
/-- The fallback has no counters of its own and enters no resource. The early hooks of the
resources return, and leave the request header as it is. -/
structure Quiet (v : Visit C) : Prop where
  other : ∀ e ∈ ((do v.other.earlyRequestFilter
                     v.other.requestFilter : ResourceHook C Bool).run v.world).events,
    (∀ metric outcome name, e ≠ .counter metric outcome name) ∧ ∀ seen, e ≠ .innerRequestFilter seen
  returns : ∀ proxy, (v.early proxy).result = .ready (.ok ())
  header : ∀ proxy, (afterEarly v.early proxy v.world).session.reqHeader = v.world.session.reqHeader

variable {server : AssembledResources C} {v : Visit C}

/-- The counters of one request, and whether a resource was entered. -/
inductive Tallied (server : AssembledResources C) (v : Visit C) : Prop where
  | apart : (destination server v).isGuarded = false →
      countersOf (serveVisit server v).events =
        [(routeMetric, (destination server v).label, server.selector.metricsName.getD "")] →
      enteredBy (serveVisit server v).events = [] → Tallied server v
  | guarded {proxy category} : destination server v = .guarded proxy →
      countersOf (serveVisit server v).events =
        [(routeMetric, "selected", server.selector.metricsName.getD ""),
          checkCounter proxy.auth.guard category,
          authorizationCount proxy.auth.guard category.asStr] →
      (enteredBy (serveVisit server v).events).length =
        (if category.asStr = "forward" then 1 else 0) → Tallied server v

omit [HttpCrate] [HasScopes C] [ResourceServerLib] [ProxyRouterCrate] in
theorem no_books {es : List (Event C)} (h : ∀ e ∈ es,
    (∀ metric outcome name, e ≠ .counter metric outcome name) ∧
      ∀ seen, e ≠ .innerRequestFilter seen) : countersOf es = [] ∧ enteredBy es = [] := by
  constructor
  · refine List.filterMap_eq_nil_iff.mpr fun e he => ?_
    cases e with
    | counter metric outcome name => exact absurd rfl ((h _ he).1 metric outcome name)
    | _ => rfl
  · refine List.filterMap_eq_nil_iff.mpr fun e he => ?_
    cases e with
    | innerRequestFilter seen => exact absurd rfl ((h _ he).2 seen)
    | _ => rfl

omit [HttpCrate] [HasScopes C] [ResourceServerLib] [ProxyRouterCrate] in
theorem writes_silent {es : List (Event C)} (h : ∀ e ∈ es, IsWrite e) :
    countersOf es = [] ∧ enteredBy es = [] := by
  refine no_books fun e he => ?_
  cases h e he <;> simp

theorem tallied_apart (hd : (destination server v).isGuarded = false) {tail : List (Event C)}
    (hevents : (serveVisit server v).events =
      routeEvent server.selector (destination server v).label :: tail)
    (htail : countersOf tail = [] ∧ enteredBy tail = []) : Tallied server v := by
  refine .apart hd ?_ ?_
  · rw [hevents]
    exact congrArg _ htail.1
  · rw [hevents]
    exact htail.2

theorem tallied_denied (dispatches : RouterDispatches) {reason : ResolveError}
    (hr : server.resolve v.world = .error reason) : Tallied server v := by
  have hd : destination server v = .denied reason := by simp [destination, hr]
  have hevents : (serveVisit server v).events =
      [routeEvent server.selector (destination server v).label] := by
    rw [serveVisit, serve_denied dispatches hr, hd]
    rfl
  exact tallied_apart (by rw [hd]; rfl) hevents ⟨rfl, rfl⟩

theorem tallied_published (dispatches : RouterDispatches)
    {endpoints : List ResourceMetadataEndpoint}
    (hr : server.resolve v.world = .ok (.metadata ⟨metadataNotFound, endpoints⟩)) :
    Tallied server v := by
  have hd : destination server v = .published := by simp [destination, hr]
  refine tallied_apart (by rw [hd]; rfl) ?_
    (writes_silent (writes_run (writes_publisher endpoints) v.world).2)
  rw [serveVisit, serve_routed dispatches hr, hd]
  rfl

theorem tallied_fallback (dispatches : RouterDispatches) {proxy : OtherProxy C}
    (hr : server.resolve v.world = .ok (.branch (.inl proxy))) (hq : Quiet v) :
    Tallied server v := by
  have hd : destination server v = .fallback := by simp [destination, hr]
  refine tallied_apart (by rw [hd]; rfl) ?_ (no_books hq.other)
  rw [serveVisit, serve_routed dispatches hr, hd]
  rfl

omit [ProxyRouterCrate] in
theorem guarded_counters {proxy : ProtectedResourceProxy C} {uri : Uri}
    (hi : Inside proxy (afterEarly v.early proxy v.world) uri) : ∃ category,
      countersOf ((boundAdapter proxy).serve (v.arrival proxy)).events =
        [checkCounter proxy.auth.guard category,
          authorizationCount proxy.auth.guard category.asStr] ∧
      (enteredBy ((boundAdapter proxy).serve (v.arrival proxy)).events).length =
        (if category.asStr = "forward" then 1 else 0) := by
  have hnone : (boundAdapter proxy).refusal (v.arrival proxy) = none := by
    have hu : effectiveRequestUri proxy.auth.guard
        (afterEarly v.early proxy v.world).session.reqHeader.uri = some uri := hi.reconstructed
    have hm : resourcePathMatches proxy.resourcePath uri.path = true := hi.covered
    simp [Adapter.refusal, boundAdapter, Visit.arrival, hu, hm]
  have honce : ∀ seen, seen ∈ enteredBy ((boundAdapter proxy).serve (v.arrival proxy)).events →
      (enteredBy ((boundAdapter proxy).serve (v.arrival proxy)).events).length = 1 := by
    intro seen hseen
    have hone := (entered_decision (.bound (boundFacing proxy (v.arrival proxy))) hseen).1
    exact congrArg List.length hone
  cases bound_counted proxy (v.arrival proxy) with
  | refused hrefusal => exact absurd (hrefusal.symm.trans hnone) (by simp)
  | @checked _ category _ _ _ _ hevents hasked hrest hlabel hentered =>
    refine ⟨category, ?_, ?_⟩
    · rw [hevents, countersOf_append, hasked, hrest]
      rfl
    · by_cases hf : category.asStr = "forward"
      · obtain ⟨seen, hseen⟩ := List.exists_mem_of_ne_nil _ (hentered.mpr (hlabel.mp hf))
        rw [if_pos hf, honce seen hseen]
      · have hempty : enteredBy ((boundAdapter proxy).serve (v.arrival proxy)).events = [] := by
          by_contra hne
          exact hf (hlabel.mpr (hentered.mp hne))
        rw [if_neg hf, hempty]
        rfl

theorem tallied_guarded (dispatches : RouterDispatches) {proxy : ProtectedResourceProxy C}
    (hr : server.resolve v.world = .ok (.branch (.inr proxy))) (hq : Quiet v) {uri : Uri}
    (hi : Inside proxy v.world uri) : Tallied server v := by
  have hd : destination server v = .guarded proxy := by simp [destination, hr]
  have hinside : Inside proxy (afterEarly v.early proxy v.world) uri := by
    refine ⟨?_, hi.covered⟩
    rw [publicUri, hq.header]
    exact hi.reconstructed
  obtain ⟨category, hcounters, hentered⟩ := guarded_counters hinside
  have hevents : (serveVisit server v).events = routeEvent server.selector "selected" ::
      ((boundAdapter proxy).serve (v.arrival proxy)).events := by
    rw [serveVisit, serve_routed dispatches hr]
    simp only [visitEarly, runEarly, hq.returns, run_bind, run_update, run_await_ready,
      run_attempt_ok, andThen_done, after_nil]
    rfl
  refine @Tallied.guarded C _ _ _ _ server v proxy category hd ?_ ?_
  · rw [hevents]
    exact congrArg _ hcounters
  · rw [hevents]
    exact hentered

end Serving

section Sequences

variable [HttpCrate] [HasScopes C] [ResourceServerLib] [ProxyRouterCrate]
variable [ResourceRegistryCrate] [RouteGuardCrate]
variable {assembly : ResourceAssembly (Branch C)}
  {resources : List (BoundResource (ProtectedResourceProxy C))} {server : AssembledResources C}

/-- Where a request goes, read off its path. -/
structure Located (assembly : ResourceAssembly (Branch C))
    (resources : List (BoundResource (ProtectedResourceProxy C))) (server : AssembledResources C)
    (v : Visit C) : Prop where
  published : destination server v = .published →
    OnMetadataPath assembly v.world.session.reqHeader.uri.path
  guarded : ∀ proxy, destination server v = .guarded proxy → ∃ bound ∈ resources,
    bound.proxy = proxy ∧ MountCovers bound.definition.incomingMount
      v.world.session.reqHeader.uri.path ∧
    ¬ OnMetadataPath assembly v.world.session.reqHeader.uri.path
  fallback : destination server v = .fallback →
    ¬ OnMetadataPath assembly v.world.session.reqHeader.uri.path ∧ ∀ bound ∈ resources,
      ¬ MountCovers bound.definition.incomingMount v.world.session.reqHeader.uri.path

theorem located_tallied (dispatches : RouterDispatches) (router : RouterContract)
    (registry : RegistryContract) (hh : Hosts assembly resources)
    (halign : ∀ bound ∈ resources, ∃ incoming lead mount,
      Aligned bound.definition incoming lead mount)
    {fallback : OtherProxy C} {pathGuard : RouteGuardCrate.GuardConfig}
    (ha : assembleRouter assembly fallback pathGuard = .ok server) {v : Visit C} (hq : Quiet v) :
    Located assembly resources server v ∧ Tallied server v := by
  cases hr : server.resolve v.world with
  | error reason =>
    refine ⟨?_, tallied_denied dispatches hr⟩
    constructor <;> simp [destination, hr]
  | ok route =>
    cases destined_of_resolve router registry hh ha hr with
    | publisher hm =>
      refine ⟨?_, tallied_published dispatches hr⟩
      constructor <;> simp [destination, hr, hm]
    | @resource bound hm hbound hc =>
      obtain ⟨incoming, lead, path, haligned⟩ := halign bound hbound
      obtain ⟨uri, hi⟩ := inside_of_covers
        (serves_of_aligned (hh.constructed bound hbound) haligned) hc
      refine ⟨⟨by simp [destination, hr], fun proxy hp => ?_, by simp [destination, hr]⟩,
        tallied_guarded dispatches hr hq hi⟩
      obtain rfl : bound.proxy = proxy := by simpa [destination, hr] using hp
      exact ⟨bound, hbound, rfl, hc, hm⟩
    | fallback hm hno =>
      exact ⟨⟨by simp [destination, hr], by simp [destination, hr], fun _ => ⟨hm, hno⟩⟩,
        tallied_fallback dispatches hr hq⟩

structure Booked (server : AssembledResources C) (v : Visit C) : Prop where
  routes : routes (serveVisit server v).events = [(destination server v).label]
  agreed : authorizations (serveVisit server v).events = checks (serveVisit server v).events
  guarded : (authorizations (serveVisit server v).events).length =
    (if (destination server v).isGuarded then 1 else 0)
  entered : (enteredBy (serveVisit server v).events).length =
    (checks (serveVisit server v).events).count "forward"

omit [ResourceRegistryCrate] [RouteGuardCrate] in
theorem Tallied.booked {v : Visit C} (h : Tallied server v) : Booked server v := by
  cases h with
  | apart hd hcounters hentered =>
    constructor
    · rw [ServerTelemetry.routes, hcounters]
      rfl
    · rw [authorizations, checks, hcounters]
      rfl
    · rw [authorizations, hcounters, hd]
      rfl
    · rw [checks, hcounters, hentered]
      rfl
  | @guarded proxy category hd hcounters hentered =>
    constructor
    · rw [ServerTelemetry.routes, hcounters, hd]
      rfl
    · rw [authorizations, checks, hcounters]
      rfl
    · rw [authorizations, hcounters, hd]
      rfl
    · have hchecks : checks (serveVisit server v).events = [category.asStr] := by
        rw [checks, hcounters]
        rfl
      rw [hchecks, hentered]
      simp [List.count_singleton]

structure Totals (server : AssembledResources C) (visits : List (Visit C)) : Prop where
  routes : routes (handled server visits) = visits.map fun v => (destination server v).label
  agreed : authorizations (handled server visits) = checks (handled server visits)
  guarded : (authorizations (handled server visits)).length =
    visits.countP fun v => (destination server v).isGuarded
  entered : (enteredBy (handled server visits)).length =
    (checks (handled server visits)).count "forward"

omit [ResourceRegistryCrate] [RouteGuardCrate] in
theorem totals_of_booked {visits : List (Visit C)} (h : ∀ v ∈ visits, Booked server v) :
    Totals server visits := by
  induction visits with
  | nil => exact ⟨rfl, rfl, rfl, rfl⟩
  | cons v visits ih =>
    have hv := h v List.mem_cons_self
    have hrest := ih fun v' hv' => h v' (List.mem_cons_of_mem v hv')
    have hhandled : handled server (v :: visits) =
        (serveVisit server v).events ++ handled server visits := List.flatMap_cons
    constructor
    · rw [hhandled, routes_append, hv.routes, hrest.routes]
      rfl
    · rw [hhandled, authorizations_append, checks_append, hv.agreed, hrest.agreed]
    · rw [hhandled, authorizations_append, List.length_append, hv.guarded, hrest.guarded,
        List.countP_cons]
      exact Nat.add_comm _ _
    · rw [hhandled, enteredBy_append, checks_append, List.length_append, List.count_append,
        hv.entered, hrest.entered]

/-- The three counters of a server reconcile, request by request and in total. -/
structure ServerReconciled (assembly : ResourceAssembly (Branch C))
    (resources : List (BoundResource (ProtectedResourceProxy C))) (server : AssembledResources C) :
    Prop where
  each : ∀ v, Quiet v → Located assembly resources server v ∧ Tallied server v
  totals : ∀ visits, (∀ v ∈ visits, Quiet v) → Totals server visits

theorem server_telemetry_reconciles (dispatches : RouterDispatches) (router : RouterContract)
    (registry : RegistryContract) (hh : Hosts assembly resources)
    (halign : ∀ bound ∈ resources, ∃ incoming lead mount,
      Aligned bound.definition incoming lead mount)
    {fallback : OtherProxy C} {pathGuard : RouteGuardCrate.GuardConfig}
    (ha : assembleRouter assembly fallback pathGuard = .ok server) :
    ServerReconciled assembly resources server where
  each _ hs := located_tallied dispatches router registry hh halign ha hs
  totals _ hs := totals_of_booked fun v hv =>
    (located_tallied dispatches router registry hh halign ha (hs v hv)).2.booked

end Sequences

section Gateway

local instance : RouteGuardCrate := referenceGuard
local instance : ResourceRegistryCrate := referenceRegistry
local instance : ResourceServerLib := ⟨none, .client .insufficientScope "insufficient scope"⟩
local instance : HttpCrate := gatewayCrate
local instance : ProxyRouterCrate := referenceRouter

def plainVisit (w : World Rfc9068AccessTokenClaims) : Visit Rfc9068AccessTokenClaims where
  early := idleEarly
  inner proxy := proxy.auth.inner
  validator proxy := proxy.auth.guard.validator
  errorBody proxy := proxy.auth.errorBody
  other := notFound
  world := w

theorem plainVisit_quiet (w : World Rfc9068AccessTokenClaims) : Quiet (plainVisit w) where
  other e he := by
    cases (writes_run writes_metadataNotFound w).2 e he <;> simp
  returns _ := rfl
  header _ := rfl

theorem server_telemetry_reconciles_gateway : ∃ server,
    assembleRouter pairAssembly notFound () = .ok server ∧
      ServerReconciled pairAssembly pairResources server ∧
      Tallied server (plainVisit gatewayRequest) ∧ Tallied server (plainVisit reportsRequest) ∧
      checks (handled server [plainVisit gatewayRequest, plainVisit reportsRequest]) =
        ["forward", "unauthenticated"] := by
  obtain ⟨server, hserver, hchecks⟩ : ∃ server,
      assembleRouter pairAssembly notFound () = .ok server ∧
        checks (handled server [plainVisit gatewayRequest, plainVisit reportsRequest]) =
          ["forward", "unauthenticated"] := ⟨_, rfl, rfl⟩
  have hreconciled := server_telemetry_reconciles reference_dispatches reference_router
    reference_registry pairAssembly_hosts pairResources_aligned hserver
  exact ⟨server, hserver, hreconciled, (hreconciled.each _ (plainVisit_quiet gatewayRequest)).2,
    (hreconciled.each _ (plainVisit_quiet reportsRequest)).2, hchecks⟩

end Gateway

end ServerTelemetry
