import HuskarlPingora.RejectionResponses
import HuskarlPingora.ServerExtension

/-! # Finding the authorization server of a resource

A client that is refused for a missing token follows the challenge to the metadata of
the resource. Challenge and document come from one preparation, and the server answers
for the document at the place the challenge names. -/
namespace ServerDiscovery

open HttpModel RouteResolution ResourceRules ResourceErrors ResourceContext ResourceGuard
open ResourceProxy MetadataPublisher ResourceBinding Assembly AssemblyRouting AssembledServer
open GuardAuthorization ResourceEffects ResourceBoundary RejectionResponses ServerExtension
open CredentialStripping ResourceIsolation BranchDispatch KeyedRegistry TracedHooks
open BoundaryAgreement (Aligned inside_of_covers)
open MetadataPublication (Publishable Serves matches_selects)

variable {C : Type}

/-- The guard and the document of a resource were made from the same prepared metadata. -/
structure PreparedOnce (bound : BoundResource (ProtectedResourceProxy C))
    (prepared : Prepared bound.definition) : Prop where
  prepares : ∃ validator : AccessTokenValidator C,
    validator.validateRequest = bound.proxy.auth.guard.validator ∧
    validator.prepare bound.definition bound.proxy.auth.guard.policy.scopesSupported = .ok prepared
  challenges : bound.proxy.auth.guard.metadata = prepared.validatorMetadata
  document : bound.metadata.publication = ⟨bound.definition.metadataUri, prepared.body⟩

theorem prepared_once [HttpCrate] {bound : BoundResource (ProtectedResourceProxy C)}
    (h : Constructed bound) : ∃ prepared, PreparedOnce bound prepared := by
  obtain ⟨validator, policy, inner, errorBody, hbuild⟩ := h
  unfold BoundResource.build at hbuild
  split at hbuild
  · cases hbuild
  rename_i proxy metadata hprotected
  obtain ⟨definition, proxy', metadata', canonical⟩ := bound
  obtain ⟨⟨guard, config⟩, hguard, hpair⟩ := bind_ok hprotected
  simp only [Except.ok.injEq, BoundResource.mk.injEq] at hbuild
  obtain ⟨-, rfl, rfl⟩ := hbuild
  simp only [pure, Except.pure, Except.ok.injEq, Prod.mk.injEq] at hpair
  obtain ⟨rfl, rfl⟩ := hpair
  unfold forResource at hguard
  cases huri : HttpCrate.parseUri definition.resource with
  | none => simp [huri] at hguard
  | some uri =>
    cases hprepare : validator.prepare definition policy.scopesSupported with
    | error e => simp [huri, hprepare] at hguard
    | ok prepared =>
      simp only [huri, hprepare, Except.ok.injEq, Prod.mk.injEq] at hguard
      obtain ⟨rfl, rfl⟩ := hguard
      refine ⟨prepared, ⟨validator, rfl, hprepare⟩, rfl, ?_⟩
      exact congrArg (ResourcePublication.mk · prepared.body) prepared.canonical

section Endpoints

variable [HttpCrate] [ResourceRegistryCrate] {assembly : ResourceAssembly (Branch C)}
  {resources : List (BoundResource (ProtectedResourceProxy C))}
  {bound other : BoundResource (ProtectedResourceProxy C)}

theorem endpoint_of_resource (hh : Hosts assembly resources) (hbound : bound ∈ resources) :
    ∃ endpoint ∈ assembly.endpoints, endpointOf assembly.metadataMapping bound = some endpoint := by
  have hmem : endpointOf assembly.metadataMapping bound ∈ assembly.endpoints.map some := by
    rw [hh.endpoints]
    exact List.mem_map.mpr ⟨bound, hbound, rfl⟩
  obtain ⟨endpoint, he, heq⟩ := List.mem_map.mp hmem
  exact ⟨endpoint, he, heq.symm⟩

theorem endpoint_exclusive (hh : Hosts assembly resources)
    (hpublishable : Publishable assembly.endpoints) (hbound : bound ∈ resources)
    (hother : other ∈ resources) {incoming incoming' : Uri}
    (hi : assembly.metadataMapping.incomingUri bound.definition.metadataUri = some incoming)
    (hi' : assembly.metadataMapping.incomingUri other.definition.metadataUri = some incoming')
    (hsame : incoming.pathAndQuery = incoming'.pathAndQuery) : bound = other := by
  have hkeys : (resources.map fun b => (endpointOf assembly.metadataMapping b).map
      ResourceMetadataEndpoint.pathAndQuery).Nodup := by
    have hmap : (resources.map fun b => (endpointOf assembly.metadataMapping b).map
        ResourceMetadataEndpoint.pathAndQuery) =
          (assembly.endpoints.map ResourceMetadataEndpoint.pathAndQuery).map some := by
      have hendpoints := congrArg (List.map (Option.map ResourceMetadataEndpoint.pathAndQuery))
        hh.endpoints
      simp only [List.map_map] at hendpoints
      rw [List.map_map]
      exact hendpoints.symm
    rw [hmap]
    exact hpublishable.distinct.map (Option.some_injective _)
  refine List.inj_on_of_nodup_map hkeys hbound hother ?_
  obtain ⟨endpoint, -, he⟩ := endpoint_of_resource hh hbound
  obtain ⟨endpoint', -, he'⟩ := endpoint_of_resource hh hother
  have hin := Option.some.inj ((endpointOf_incoming he).symm.trans hi)
  have hin' := Option.some.inj ((endpointOf_incoming he').symm.trans hi')
  simp only [he, he', Option.map_some, ResourceMetadataEndpoint.pathAndQuery, hin, hin', hsame]

end Endpoints

section Requests

variable [HttpCrate] [HasScopes C] [ResourceServerLib] [ProxyRouterCrate]
variable {server : AssembledResources C} {early : Earlies C} {w : World C}
  {bound : BoundResource (ProtectedResourceProxy C)} {rule : Rule C} {uri : Uri}

/-- A request under the mount is inside the resource after its early hook, or the
resource is aligned and the hook has left the request header alone. -/
inductive Reaches (early : Earlies C) (bound : BoundResource (ProtectedResourceProxy C))
    (w : World C) (uri : Uri) : Prop where
  | inside : Inside bound.proxy (afterEarly early bound.proxy w) uri → Reaches early bound w uri
  | aligned {incoming lead mount} : Aligned bound.definition incoming lead mount →
      (afterEarly early bound.proxy w).session.reqHeader = w.session.reqHeader →
      Reaches early bound w uri

/-- The resource is asked for its token, and the request has none. -/
structure Tokenless (early : Earlies C) (bound : BoundResource (ProtectedResourceProxy C))
    (w : World C) (rule : Rule C) (uri : Uri) : Prop where
  begun : (early bound.proxy).result = .ready (.ok ())
  asks : Asks (boundCall bound.proxy (afterEarly early bound.proxy w)) rule uri
  missing : (answer (boundCall bound.proxy (afterEarly early bound.proxy w)) uri).outcome = .ok none
  required : rule.token = .required

/-- The answer to a request without a token, after the counters of its refusal. -/
def Challenged (server : AssembledResources C) (early : Earlies C)
    (bound : BoundResource (ProtectedResourceProxy C)) (challenges : List String) (w : World C) :
    Prop :=
  ∃ pre nonce body r, server.serve early w =
      seenWith (some (.branch (.inr bound.proxy))) (r.after pre) ∧
    headersOf pre = [] ∧
    Rejected .unauthorized challenges nonce none body true (afterEarly early bound.proxy w) r

omit [ProxyRouterCrate] [ResourceServerLib] [HasScopes C] in
theorem inside_of_reaches (hc : Constructed bound)
    (hcovers : MountCovers bound.definition.incomingMount w.session.reqHeader.uri.path)
    (hasks : Asks (boundCall bound.proxy (afterEarly early bound.proxy w)) rule uri)
    (h : Reaches early bound w uri) : Inside bound.proxy (afterEarly early bound.proxy w) uri := by
  cases h with
  | inside hi => exact hi
  | aligned ha hheader =>
    rw [← hheader] at hcovers
    obtain ⟨uri', hi⟩ := inside_of_covers (serves_of_aligned hc ha) hcovers
    obtain rfl : uri' = uri := Option.some.inj (hi.reconstructed.symm.trans hasks.reconstructed)
    exact hi

theorem challenged_of_tokenless (dispatches : RouterDispatches)
    (hr : server.resolve w = .ok (.branch (.inr bound.proxy)))
    (hi : Inside bound.proxy (afterEarly early bound.proxy w) uri)
    (h : Tokenless early bound w rule uri) : Challenged server early bound
      (bound.proxy.auth.guard.metadata.unauthenticatedChallenges rule.scopeParam) w := by
  have hcheck := runCheck_asks h.asks (afterEarly early bound.proxy w)
  simp only [decideValidated, h.missing, h.required] at hcheck
  obtain ⟨⟨r, hrun, hrejected⟩, hunwritten, -⟩ :=
    authorize_denied bound.proxy.auth (some bound.proxy.audiences) hcheck
  have hfilter : (branchServe early (.branch (.inr bound.proxy))).run w =
      (bound.proxy.requestFilter).run (afterEarly early bound.proxy w) := by
    simp [branchServe, branchEarly, runEarly, h.begun, branchFilter, afterEarly]
  have hserve : server.serve early w = branchRun server early _ w := serve_routed dispatches hr
  rw [branchRun, hfilter, run_inside hi, hrun, after_after] at hserve
  refine ⟨_, _, _, r, hserve, ?_, hrejected⟩
  rw [headersOf_append, headersOf_append, hunwritten]
  rfl

theorem served_of_routed (dispatches : RouterDispatches)
    (hallow : HttpCrate.headerValue "GET, HEAD" = some ⟨"GET, HEAD"⟩)
    {endpoints : List ResourceMetadataEndpoint} (hpublishable : Publishable endpoints)
    {endpoint : ResourceMetadataEndpoint} (he : endpoint ∈ endpoints)
    (hm : endpoint.matchesUri w.session.reqHeader.uri = true)
    (hr : server.resolve w = .ok (.metadata ⟨metadataNotFound, endpoints⟩)) :
    ∃ r, server.serve early w = seenWith (some (.metadata ⟨metadataNotFound, endpoints⟩))
        (r.after [routeEvent server.selector "selected"]) ∧ Serves endpoint.publication w r := by
  have hserve : server.serve early w = branchRun server early _ w := serve_routed dispatches hr
  have hfind := hpublishable.find_eq (matches_selects w.session.reqHeader.uri) he hm
  have hfilter : (branchServe early (.metadata ⟨metadataNotFound, endpoints⟩)).run w =
      (MetadataPublication.answer endpoint w.session.reqHeader.method).run w := by
    simp only [branchServe, branchEarly, branchFilter, run_bind, run_pure, andThen_done, after_nil,
      MetadataPublication.run_requestFilter]
    rw [hfind]
  rw [branchRun, hfilter] at hserve
  exact ⟨_, hserve, MetadataPublication.answer_serves hallow endpoint w⟩

/-- From a refusal to the document, and to no other resource's. -/
structure Discoverable [ResourceRegistryCrate] (assembly : ResourceAssembly (Branch C))
    (resources : List (BoundResource (ProtectedResourceProxy C))) (server : AssembledResources C)
    (early : Earlies C) (bound : BoundResource (ProtectedResourceProxy C))
    (prepared : Prepared bound.definition) (incoming : Uri) : Prop where
  once : PreparedOnce bound prepared
  dispatched : assembly.metadataMapping.incomingUri bound.definition.metadataUri = some incoming
  exclusive : ∀ other ∈ resources, ∀ incoming',
    assembly.metadataMapping.incomingUri other.definition.metadataUri = some incoming' →
      incoming.pathAndQuery = incoming'.pathAndQuery → bound = other
  challenged : ∀ w route rule uri, server.resolve w = .ok route →
    ¬ OnMetadataPath assembly w.session.reqHeader.uri.path →
    MountCovers bound.definition.incomingMount w.session.reqHeader.uri.path →
    Reaches early bound w uri → Tokenless early bound w rule uri → Challenged server early bound
      (prepared.validatorMetadata.unauthenticatedChallenges rule.scopeParam) w
  served : ∀ w route, server.resolve w = .ok route →
    w.session.reqHeader.uri.pathAndQuery = incoming.pathAndQuery →
      ∃ r, server.serve early w =
          seenWith (some route) (r.after [routeEvent server.selector "selected"]) ∧
        Serves ⟨bound.definition.metadataUri, prepared.body⟩ w r

end Requests

section Gateway

local instance : RouteGuardCrate := referenceGuard
local instance : ResourceRegistryCrate := referenceRegistry
local instance : ResourceServerLib := ⟨none, .client .insufficientScope "insufficient scope"⟩
local instance : HttpCrate := gatewayCrate
local instance : ProxyRouterCrate := referenceRouter

theorem reports_tokenless : ∃ rule uri, Tokenless idleEarly reportsBound reportsRequest rule uri :=
  ⟨_, _, rfl, ⟨rfl, by decide, rfl⟩, rfl, rfl⟩

end Gateway

end ServerDiscovery
