import HuskarlPingora.AssembledServer

/-! # Adding resources to a server

Two servers that answer a request by the same branch do the same with it. So a server
that registers more resources, or the same ones in another order, treats every request
outside the new mounts and metadata paths as before. -/
namespace ServerExtension

open HttpModel RouteResolution ResourceRules ResourceErrors ResourceContext ResourceGuard
open ResourceProxy MetadataPublisher ResourceBinding Assembly AssemblyRouting AssembledServer
open CredentialStripping BranchDispatch KeyedRegistry TracedHooks
open MetadataPublication (Publishable publishAll_ok_iff matches_selects)

variable {C : Type}

section Endpoints

variable {R : Type} [ResourceRegistryCrate] [RouteGuardCrate] {assembly : ResourceAssembly R}
  {fallback : R} {pathGuard : RouteGuardCrate.GuardConfig} {selector : ResourceSelector C R}

theorem assemble_named (h : assembly.assemble fallback pathGuard = .ok selector) :
    selector.metricsName = assembly.metricsName := by
  unfold ResourceAssembly.assemble at h
  split at h
  · cases h
  · split at h
    · cases h
    · cases h
      rfl

theorem assemble_publishable (h : assembly.assemble fallback pathGuard = .ok selector) :
    Publishable assembly.endpoints := by
  unfold ResourceAssembly.assemble at h
  split at h
  · cases h
  · rename_i publisher hpublish
    exact (publishAll_ok_iff coherent_nil assembly.endpoints).mp ⟨publisher, hpublish⟩

end Endpoints

def endpointOf (mapping : PublicUrlMapping) (bound : BoundResource (ProtectedResourceProxy C)) :
    Option ResourceMetadataEndpoint :=
  bound.metadata.withMapping mapping

theorem endpointOf_incoming {mapping : PublicUrlMapping}
    {bound : BoundResource (ProtectedResourceProxy C)} {endpoint : ResourceMetadataEndpoint}
    (h : endpointOf mapping bound = some endpoint) :
    mapping.incomingUri bound.definition.metadataUri = some endpoint.incomingUri := by
  rw [← bound.canonical]
  exact (MetadataPublication.withMapping_remaps bound.metadata mapping).incoming endpoint h

theorem endpoints_of_hosts [HttpCrate] [ResourceRegistryCrate]
    {assembly : ResourceAssembly (Branch C)}
    {resources : List (BoundResource (ProtectedResourceProxy C))} (h : Hosts assembly resources) :
    assembly.endpoints = resources.filterMap (endpointOf assembly.metadataMapping) := by
  have hmap := congrArg (List.filterMap id) h.endpoints
  simp only [List.filterMap_map, Function.id_comp] at hmap
  rw [List.filterMap_some] at hmap
  exact hmap

section Alike

variable [HttpCrate] [HasScopes C] [ResourceServerLib] [ProxyRouterCrate]
variable {server server' : AssembledResources C} {early : Earlies C} {w : World C}

/-- The same answer, the same context, the same visible actions, now and in every hook
that follows. Only the slot of the router may differ. -/
structure Alike (server server' : AssembledResources C) (early : Earlies C) (w : World C) :
    Prop where
  exit : (server.serve early w).exit = (server'.serve early w).exit
  world : (server.serve early w).state.state = (server'.serve early w).state.state
  events : (server.serve early w).events = (server'.serve early w).events
  later : ∀ calls, (records server.later calls (server.serve early w).state).map unslotted =
    (records server'.later calls (server'.serve early w).state).map unslotted

/-- Routes that cannot be told apart by what they do with this request. -/
structure SameBranch (early : Earlies C) (w : World C) (route route' : ServerRoute C) : Prop where
  filter : (branchServe early route).run w = (branchServe early route').run w
  later : ∀ call, branchLater call route = branchLater call route'

theorem alike_of_routes (dispatches : RouterDispatches) {route route' : ServerRoute C}
    (hr : server.resolve w = .ok route) (hr' : server'.resolve w = .ok route')
    (hname : server.selector.metricsName = server'.selector.metricsName)
    (hsame : SameBranch early w route route') : Alike server server' early w := by
  have hserve : server.serve early w = branchRun server early route w :=
    serve_routed dispatches hr
  have hserve' : server'.serve early w = branchRun server' early route' w :=
    serve_routed dispatches hr'
  have hevent : routeEvent server.selector "selected" = routeEvent server'.selector "selected" := by
    rw [routeEvent, routeEvent, hname]
  have hlater : (fun call => branchLater call route) = fun call => branchLater call route' :=
    funext hsame.later
  have hdelivers := delivers_later dispatches server route
  have hdelivers' := delivers_later dispatches server' route'
  simp only [branchRun, seenWith, hsame.filter, hevent] at hserve hserve'
  constructor
  · rw [hserve, hserve']
  · rw [hserve, hserve']
  · rw [hserve, hserve']
  · intro calls
    rw [hserve, hserve', records_delivered hdelivers, records_delivered hdelivers', hlater]

omit [ProxyRouterCrate] in
theorem sameBranch_refl (early : Earlies C) (w : World C) (route : ServerRoute C) :
    SameBranch early w route route :=
  ⟨rfl, fun _ => rfl⟩

omit [ProxyRouterCrate] in
/-- Of a publisher only the endpoint that matches the request counts. -/
theorem sameBranch_metadata {endpoints endpoints' : List ResourceMetadataEndpoint}
    (hfind : endpoints.find? (fun e => e.matchesUri w.session.reqHeader.uri) =
      endpoints'.find? fun e => e.matchesUri w.session.reqHeader.uri) :
    SameBranch early w (.metadata ⟨metadataNotFound, endpoints⟩)
      (.metadata ⟨metadataNotFound, endpoints'⟩) := by
  refine ⟨?_, fun _ => rfl⟩
  simp only [branchServe, branchEarly, branchFilter, run_bind, run_pure, andThen_done, after_nil,
    MetadataPublication.run_requestFilter]
  rw [hfind]

end Alike

section Assemblies

variable {resources more resources' : List (BoundResource (ProtectedResourceProxy C))}
  {path : String} {uri : Uri}

structure Elsewhere (mapping : PublicUrlMapping)
    (more : List (BoundResource (ProtectedResourceProxy C))) (path : String) : Prop where
  mounts : ∀ bound ∈ more, ¬ MountCovers bound.definition.incomingMount path
  metadata : ∀ bound ∈ more, ∀ incoming,
    mapping.incomingUri bound.definition.metadataUri = some incoming → incoming.path ≠ path

theorem Elsewhere.endpoints {mapping : PublicUrlMapping} (h : Elsewhere mapping more path)
    {endpoint : ResourceMetadataEndpoint}
    (he : endpoint ∈ more.filterMap (endpointOf mapping)) : endpoint.incomingUri.path ≠ path := by
  obtain ⟨bound, hbound, hendpoint⟩ := List.mem_filterMap.mp he
  exact h.metadata bound hbound _ (endpointOf_incoming hendpoint)

theorem matched_path {endpoint : ResourceMetadataEndpoint} (h : endpoint.matchesUri uri = true) :
    endpoint.incomingUri.path = uri.path := by
  simp only [ResourceMetadataEndpoint.matchesUri, decide_eq_true_eq] at h
  rw [Uri.path, Uri.path, h]
  rfl

variable [ResourceRegistryCrate] {assembly assembly' : ResourceAssembly (Branch C)}

theorem endpoints_perm [HttpCrate] (hh : Hosts assembly resources)
    (hh' : Hosts assembly' resources') (hperm : resources'.Perm (resources ++ more))
    (hmapping : assembly'.metadataMapping = assembly.metadataMapping) : assembly'.endpoints.Perm
      (assembly.endpoints ++ more.filterMap (endpointOf assembly.metadataMapping)) := by
  rw [endpoints_of_hosts hh, endpoints_of_hosts hh', hmapping, ← List.filterMap_append]
  exact hperm.filterMap _

theorem onMetadataPath_iff
    (hp : assembly'.endpoints.Perm
      (assembly.endpoints ++ more.filterMap (endpointOf assembly.metadataMapping)))
    (helse : Elsewhere assembly.metadataMapping more path) :
    OnMetadataPath assembly' path ↔ OnMetadataPath assembly path := by
  constructor
  · rintro ⟨endpoint, he, hpath⟩
    rcases List.mem_append.mp (hp.mem_iff.mp he) with he | he
    · exact ⟨endpoint, he, hpath⟩
    · exact absurd hpath (helse.endpoints he)
  · rintro ⟨endpoint, he, hpath⟩
    exact ⟨endpoint, hp.mem_iff.mpr (List.mem_append_left _ he), hpath⟩

theorem find_endpoint
    (hp : assembly'.endpoints.Perm
      (assembly.endpoints ++ more.filterMap (endpointOf assembly.metadataMapping)))
    (hpub : Publishable assembly'.endpoints)
    (helse : Elsewhere assembly.metadataMapping more uri.path) :
    assembly.endpoints.find? (fun e => e.matchesUri uri) =
      assembly'.endpoints.find? fun e => e.matchesUri uri := by
  have hnone : (more.filterMap (endpointOf assembly.metadataMapping)).find?
      (fun e => e.matchesUri uri) = none := by
    refine List.find?_eq_none.mpr fun endpoint he hm => ?_
    exact helse.endpoints he (matched_path hm)
  rw [hpub.find_perm (matches_selects uri) hp, List.find?_append, hnone, Option.or_none]

variable [HttpCrate] [HasScopes C] [ResourceServerLib]

theorem sameBranch_of_routed {fallback : Branch C} {early : Earlies C} {w : World C}
    {route route' : ServerRoute C} (hh : Hosts assembly resources)
    (hh' : Hosts assembly' resources') (hperm : resources'.Perm (resources ++ more))
    (hmapping : assembly'.metadataMapping = assembly.metadataMapping)
    (hpub : Publishable assembly'.endpoints)
    (helse : Elsewhere assembly.metadataMapping more w.session.reqHeader.uri.path)
    (hr : Routed assembly fallback w.session.reqHeader.uri.path route)
    (hr' : Routed assembly' fallback w.session.reqHeader.uri.path route') :
    SameBranch early w route route' := by
  have hp := endpoints_perm hh hh' hperm hmapping
  have hiff := onMetadataPath_iff hp helse
  by_cases hm : OnMetadataPath assembly w.session.reqHeader.uri.path
  · obtain ⟨publisher, rfl⟩ := hr.metadata.mpr hm
    obtain ⟨publisher', rfl⟩ := hr'.metadata.mpr (hiff.mpr hm)
    rw [hr.publisher publisher rfl, hr'.publisher publisher' rfl]
    exact sameBranch_metadata (find_endpoint hp hpub helse)
  have hm' := fun h => hm (hiff.mp h)
  have hbranch : ∀ bound, bound ∈ resources → bound ∈ resources' := fun bound hbound =>
    hperm.mem_iff.mpr (List.mem_append_left _ hbound)
  by_cases hc : ∃ bound ∈ resources,
      MountCovers bound.definition.incomingMount w.session.reqHeader.uri.path
  · obtain ⟨bound, hbound, hc⟩ := hc
    obtain rfl := hr.branch hm _ _ (hh.mem_branches hbound) hc
    obtain rfl := hr'.branch hm' _ _ (hh'.mem_branches (hbranch bound hbound)) hc
    exact sameBranch_refl early w _
  · have hno : ∀ bound ∈ resources,
        ¬ MountCovers bound.definition.incomingMount w.session.reqHeader.uri.path :=
      fun bound hbound hcover => hc ⟨bound, hbound, hcover⟩
    have hno' : ∀ bound ∈ resources',
        ¬ MountCovers bound.definition.incomingMount w.session.reqHeader.uri.path := by
      intro bound hbound
      rcases List.mem_append.mp (hperm.mem_iff.mp hbound) with hbound | hbound
      · exact hno bound hbound
      · exact helse.mounts bound hbound
    obtain rfl := hr.fallback hm (hh.uncovered hno)
    obtain rfl := hr'.fallback hm' (hh'.uncovered hno')
    exact sameBranch_refl early w _

variable [ProxyRouterCrate] [RouteGuardCrate] {server server' : AssembledResources C}

/-- More resources, registered in any order among the others, change no request that both
servers accept and that is outside the new mounts and metadata paths. -/
theorem server_extension_conservative (dispatches : RouterDispatches) (router : RouterContract)
    (registry : RegistryContract) (hh : Hosts assembly resources)
    (hh' : Hosts assembly' resources') (hperm : resources'.Perm (resources ++ more))
    (hmapping : assembly'.metadataMapping = assembly.metadataMapping)
    (hname : assembly'.metricsName = assembly.metricsName) {fallback : OtherProxy C}
    {pathGuard pathGuard' : RouteGuardCrate.GuardConfig}
    (ha : assembleRouter assembly fallback pathGuard = .ok server)
    (ha' : assembleRouter assembly' fallback pathGuard' = .ok server')
    (early : Earlies C) (w : World C)
    (hok : ∃ route, server.resolve w = .ok route) (hok' : ∃ route, server'.resolve w = .ok route)
    (helse : Elsewhere assembly.metadataMapping more w.session.reqHeader.uri.path) :
    Alike server server' early w := by
  obtain ⟨-, hassemble⟩ := assembleRouter_ok ha
  obtain ⟨-, hassemble'⟩ := assembleRouter_ok ha'
  obtain ⟨route, hr⟩ := hok
  obtain ⟨route', hr'⟩ := hok'
  have hnames : server.selector.metricsName = server'.selector.metricsName := by
    rw [assemble_named hassemble, assemble_named hassemble', hname]
  refine alike_of_routes dispatches hr hr' hnames ?_
  exact sameBranch_of_routed hh hh' hperm hmapping (assemble_publishable hassemble') helse
    (routed_of_resolve router registry hh ha hr) (routed_of_resolve router registry hh' ha' hr')

end Assemblies

section Gateway

open BoundaryAgreement (gatewayRequest)

local instance : RouteGuardCrate := referenceGuard
local instance : ResourceRegistryCrate := referenceRegistry
local instance : ResourceServerLib := ⟨none, .client .insufficientScope "insufficient scope"⟩
local instance : HttpCrate := gatewayCrate
local instance : ProxyRouterCrate := referenceRouter

theorem gatewayRequest_elsewhere :
    Elsewhere directMapping [reportsBound] gatewayRequest.session.reqHeader.uri.path := by
  constructor
  · intro bound hbound hc
    obtain rfl := List.mem_singleton.mp hbound
    rw [← BoundaryAgreement.resourcePathMatches_absolute _ fun _ => rfl] at hc
    exact absurd hc (by decide)
  · intro bound hbound incoming hincoming
    obtain rfl := List.mem_singleton.mp hbound
    cases hincoming
    decide

theorem server_extension_conservative_reports : ∃ server server',
    assembleRouter issuedAssembly notFound () = .ok server ∧
      assembleRouter pairAssembly notFound () = .ok server' ∧
      (server.serve idleEarly gatewayRequest).exit = .done false ∧
      Alike server server' idleEarly gatewayRequest := by
  obtain ⟨server, hserver, hok, hexit⟩ : ∃ server,
      assembleRouter issuedAssembly notFound () = .ok server ∧
        (∃ route, server.resolve gatewayRequest = .ok route) ∧
        (server.serve idleEarly gatewayRequest).exit = .done false :=
    ⟨_, rfl, ⟨_, rfl⟩, rfl⟩
  obtain ⟨server', hserver', hok'⟩ : ∃ server',
      assembleRouter pairAssembly notFound () = .ok server' ∧
        ∃ route, server'.resolve gatewayRequest = .ok route :=
    ⟨_, rfl, _, rfl⟩
  have hperm : pairResources.Perm ([issuedBound] ++ [reportsBound]) := List.Perm.swap _ _ _
  exact ⟨server, server', hserver, hserver', hexit, server_extension_conservative
    reference_dispatches reference_router reference_registry issuedAssembly_hosts
    pairAssembly_hosts hperm rfl rfl hserver hserver' idleEarly gatewayRequest hok hok'
    gatewayRequest_elsewhere⟩

end Gateway

end ServerExtension
