import HuskarlPingora.AssemblyRouting
import HuskarlPingora.ResourceBoundary

/-! # Routing and the boundary check agree

The assembly matches incoming paths against the patterns of a mount; the resource tests
public paths against its own path. Under a rewrite of one prefix both are the same
coverage, so what is routed to a resource is inside it. -/
namespace BoundaryAgreement

open HttpModel RouteResolution ResourceRules ResourceErrors ResourceContext ResourceGuard
open ResourceProxy ResourceBoundary MetadataPublisher ResourceBinding Assembly AssemblyRouting
open SlashPaths TracedHooks

variable {C F : Type}

def PatternReaches (pattern path : String) : Prop :=
  (Literal pattern ∧ path = pattern) ∨ ∃ lead, pattern = lead ++ "/{*rest}" ∧ Continues lead path

def PatternsCover (mount path : String) : Prop :=
  ∃ pattern ∈ mountPatterns [] mount, PatternReaches pattern path

theorem patternsCover_iff {mount : String} (hl : Literal mount) (path : String) :
    PatternsCover mount path ↔ MountCovers mount path := by
  constructor
  · rintro ⟨pattern, hpattern, ⟨hlit, rfl⟩ | ⟨lead, rfl, hc⟩⟩
    · exact (covers_of_literal hlit hpattern).1
    · exact covers_of_rest hl hpattern hc
  · intro h
    have hmem : ∀ pattern, pattern = mount ∨ pattern = slash mount ∨
        pattern = slash mount ++ "{*rest}" → pattern ∈ mountPatterns [] mount := fun pattern hp =>
      (mem_mountPatterns _ _ _).mpr ⟨hp, List.not_mem_nil⟩
    rcases pattern_of_covers h with rfl | rfl | ⟨lead, hlead, hc⟩
    · exact ⟨_, hmem _ (.inl rfl), .inl ⟨hl, rfl⟩⟩
    · exact ⟨_, hmem _ (.inr (.inl rfl)), .inl ⟨literal_slash hl, rfl⟩⟩
    · exact ⟨_, hmem _ (.inr (.inr rfl)), .inr ⟨lead, hlead.symm, hc⟩⟩

theorem resourcePathMatches_iff (resourcePath requestPath : String) :
    resourcePathMatches resourcePath requestPath = true ↔
      resourcePath = "/" ∨ MountCovers resourcePath requestPath := by
  unfold resourcePathMatches MountCovers
  rw [covers_iff_test, String.toList_inj]
  have hslash : "/".toList = ['/'] := rfl
  by_cases hroot : resourcePath = "/"
  · simp [hroot]
  · by_cases heq : resourcePath = requestPath
    · simp [heq]
    · by_cases hprefix : resourcePath.toList <+: requestPath.toList
      · simp [hroot, heq, hprefix, hslash, List.isPrefixOf_iff_prefix, List.isSuffixOf_iff_suffix,
          List.singleton_suffix_iff_getLast?_eq_some, List.singleton_prefix_iff_head?_eq_some]
      · simp [hroot, heq, hprefix, List.isPrefixOf_iff_prefix]

/-- For absolute paths the root needs no case of its own. -/
theorem resourcePathMatches_absolute (resourcePath : String) {requestPath : String}
    (h : resourcePath = "/" → requestPath.toList.head? = some '/') :
    resourcePathMatches resourcePath requestPath = true ↔ MountCovers resourcePath requestPath := by
  rw [resourcePathMatches_iff]
  refine or_iff_right_of_imp ?_
  intro hroot
  obtain ⟨rest, hrest⟩ := List.head?_eq_some_iff.mp (h hroot)
  subst hroot
  have hclosed : closed '/' "/".toList = ['/'] := closed_of_last rfl
  exact .inr (by rw [hclosed, hrest]; exact ⟨rest, rfl⟩)

def Rooted (path : String) : Prop := path.toList.head? = some '/'

theorem Rooted.ne_nil {path : String} (h : Rooted path) : path.toList ≠ [] := by
  intro hnil
  simp [Rooted, hnil] at h

theorem mountCovers_append (lead : String) {mount : String} (hm : Rooted mount) (path : String) :
    MountCovers (lead ++ mount) (lead ++ path) ↔ MountCovers mount path := by
  unfold MountCovers
  rw [String.toList_append, String.toList_append]
  exact covers_append lead.toList path.toList hm.ne_nil

theorem covers_agree (incoming lead : String) {mount path : String} (hm : Rooted mount)
    (hp : Rooted path) : MountCovers (incoming ++ mount) (incoming ++ path) ↔
      resourcePathMatches (lead ++ mount) (lead ++ path) = true := by
  have hroot : lead ++ mount = "/" → (lead ++ path).toList.head? = some '/' := by
    intro heq
    obtain ⟨rest, hrest⟩ := List.head?_eq_some_iff.mp hm
    have hlist := congrArg String.toList heq
    have hslash : "/".toList = ['/'] := rfl
    rw [String.toList_append, hrest, hslash] at hlist
    have hlead : lead.toList = [] := by
      cases h : lead.toList with
      | nil => rfl
      | cons c cs => simp [h] at hlist
    rw [String.toList_append, hlead, List.nil_append]
    exact hp
  rw [resourcePathMatches_absolute _ hroot, mountCovers_append _ hm, mountCovers_append _ hm]

/-- The mapping takes the incoming prefix off and puts the public one on. -/
def OnePrefix (mapping : PublicUrlMapping) (incoming lead : String) : Prop :=
  ∀ uri path, uri.path = incoming ++ path → Rooted path →
    ∃ uri', mapping.publicUrl uri = some uri' ∧ uri'.path = lead ++ path

/-- The mount and the public path of a definition are one path under both prefixes. -/
structure Aligned [HttpCrate] (definition : ResourceDefinition) (incoming lead mount : String) :
    Prop where
  rooted : Rooted mount
  incomingMount : definition.incomingMount = incoming ++ mount
  resource : ∀ uri, HttpCrate.parseUri definition.resource = some uri → uri.path = lead ++ mount
  mapping : OnePrefix definition.mapping incoming lead

section Routing

variable [HttpCrate] [ResourceRegistryCrate]

/-- An assembly whose resource branches are bound to aligned definitions. A branch that
is no resource can only be the fallback. -/
inductive Served : ResourceAssembly (F ⊕ ProtectedResourceProxy C) → Prop where
  | new (mapping) : Served (.new mapping)
  | named {assembly} (name) : Served assembly → Served (assembly.withMetricsName name)
  | registered {assembly assembly' definition validator policy inner errorBody bound} :
      Served assembly →
      BoundResource.build definition validator policy inner errorBody = .ok bound →
      (∃ incoming lead mount, Aligned definition incoming lead mount) →
      assembly.registerBound (bound.intoRoute .inr) = .ok assembly' → Served assembly'

theorem Served.built {assembly : ResourceAssembly (F ⊕ ProtectedResourceProxy C)}
    (h : Served assembly) : Built assembly := by
  induction h with
  | new mapping => exact .new mapping
  | named name _ ih => exact .named name ih
  | registered _ _ _ hr ih => exact .registered ih hr

/-- A branch serves a resource whose boundary is its own mount, rewritten. -/
structure Serves (mount : String) (proxy : ProtectedResourceProxy C) : Prop where
  aligned : ∃ definition incoming lead path, Aligned definition incoming lead path ∧
    mount = incoming ++ path ∧ proxy.resourcePath = lead ++ path ∧
    proxy.auth.guard.requestMapping = some definition.mapping

theorem served_branches {assembly : ResourceAssembly (F ⊕ ProtectedResourceProxy C)}
    (h : Served assembly) : ∀ mount branch, (mount, branch) ∈ assembly.branches →
      ∃ proxy, branch = .inr proxy ∧ Serves mount proxy := by
  induction h with
  | new mapping => exact fun mount branch hmem => absurd hmem List.not_mem_nil
  | named name _ ih => exact ih
  | @registered assembly assembly' definition validator policy inner errorBody bound _ hbuild halign
      hr ih =>
    intro mount branch hmem
    obtain ⟨registry, uri, endpoint, -, -, -, -, rfl⟩ := registerBound_ok hr
    rcases List.mem_append.mp hmem with hmem | hmem
    · exact ih mount branch hmem
    · obtain ⟨incoming, lead, path, haligned⟩ := halign
      obtain ⟨hdefinition, hbound⟩ := build_bound hbuild
      obtain ⟨uri, huri, hpath⟩ := hbound.path
      simp only [List.mem_singleton, Prod.mk.injEq, BoundResource.intoRoute, hdefinition] at hmem
      obtain ⟨rfl, rfl⟩ := hmem
      exact ⟨bound.proxy, rfl, definition, incoming, lead, path, haligned, haligned.incomingMount,
        hpath.trans (haligned.resource uri huri), hbound.mapping⟩

omit [ResourceRegistryCrate] in
theorem inside_of_covers {mount : String} {proxy : ProtectedResourceProxy C}
    (hs : Serves mount proxy) {w : World C} (hc : MountCovers mount w.session.reqHeader.uri.path) :
    ∃ uri, Inside proxy w uri := by
  obtain ⟨definition, incoming, lead, path, ha, rfl, hpath, hmapping⟩ := hs.aligned
  unfold MountCovers at hc
  rw [String.toList_append] at hc
  obtain ⟨rest, hrest, hrooted⟩ := exists_of_covers incoming.toList ha.rooted hc
  have huri : w.session.reqHeader.uri.path = incoming ++ String.ofList rest :=
    String.toList_injective (by simp [hrest])
  obtain ⟨uri, hpublic, huripath⟩ := ha.mapping _ _ huri (by simpa [Rooted] using hrooted)
  refine ⟨uri, by simp [publicUri, effectiveRequestUri, hmapping, hpublic], ?_⟩
  rw [hpath, huripath]
  refine (covers_agree incoming lead ha.rooted (by simpa [Rooted] using hrooted)).mp ?_
  rw [← huri]
  unfold MountCovers
  rw [String.toList_append]
  exact hc

/-- The patterns of a mount and the boundary test accept the same suffixes, and every
request that is routed to a resource passes its boundary. -/
theorem routing_agrees_with_boundary [RouteGuardCrate] [HasScopes C] [ResourceServerLib]
    (router : RouterContract) (registry : RegistryContract)
    {assembly : ResourceAssembly (F ⊕ ProtectedResourceProxy C)} (hs : Served assembly)
    {fallback : F} {pathGuard : RouteGuardCrate.GuardConfig}
    {selector : ResourceSelector C (F ⊕ ProtectedResourceProxy C)}
    (ha : assembly.assemble (.inl fallback) pathGuard = .ok selector) (w : World C) :
    (∀ incoming lead mount path, Literal (incoming ++ mount) → Rooted mount → Rooted path →
      (PatternsCover (incoming ++ mount) (incoming ++ path) ↔
        resourcePathMatches (lead ++ mount) (lead ++ path) = true)) ∧
    ∀ proxy, ((selector.select).run w).exit = .done (some (.branch (.inr proxy))) →
      ∃ uri, Inside proxy w uri ∧
        (proxy.requestFilter).run w = (authorize proxy.auth (some proxy.audiences)).run w := by
  refine ⟨fun incoming lead mount path hl hm hp =>
    (patternsCover_iff hl _).trans (covers_agree incoming lead hm hp), fun proxy hexit => ?_⟩
  rw [run_select] at hexit
  split at hexit
  · cases hexit
  rename_i route hr
  cases hexit
  have hanswer := answer_of_resolve router (sound_of_built registry hs.built) ha hr
  cases hanswer with
  | branch _ hmem hc =>
    obtain ⟨proxy', heq, hserves⟩ := served_branches hs _ _ hmem
    cases heq
    obtain ⟨uri, hinside⟩ := inside_of_covers hserves hc
    exact ⟨uri, hinside, run_inside hinside⟩

end Routing

section Gateway

local instance : RouteGuardCrate := referenceGuard
local instance : ResourceRegistryCrate := referenceRegistry
local instance : ResourceServerLib := ⟨none, .client .insufficientScope "insufficient scope"⟩

local instance : HttpCrate where
  headerValue text := some ⟨text⟩
  parseUri text :=
    if text = "https://api.example.com/gateway/app" then
      some ⟨some "https", some "api.example.com", some ⟨"/gateway/app", none⟩⟩
    else none

/-- Public `/gateway` and incoming `/edge` stand for each other, at a separator only. -/
def gatewayMapping : PublicUrlMapping where
  publicUrl uri :=
    let rest := uri.path.toList.drop 5
    if "/edge".toList.isPrefixOf uri.path.toList && (rest.isEmpty || rest.head? = some '/') then
      some ⟨some "https", some "api.example.com", some
        ⟨String.ofList ("/gateway".toList ++ rest), uri.pathAndQuery.bind PathAndQuery.query⟩⟩
    else none
  incomingUri uri := some { uri with scheme := none, authority := none }

theorem gatewayMapping_onePrefix : OnePrefix gatewayMapping "/edge" "/gateway" := by
  intro uri path hpath hrooted
  have hlist : uri.path.toList = "/edge".toList ++ path.toList := by
    rw [hpath, String.toList_append]
  have hdrop : uri.path.toList.drop 5 = path.toList := by rw [hlist]; rfl
  refine ⟨⟨some "https", some "api.example.com",
    some ⟨String.ofList ("/gateway".toList ++ path.toList),
      uri.pathAndQuery.bind PathAndQuery.query⟩⟩, ?_, String.toList_injective (by simp [Uri.path])⟩
  have hprefix : "/edge".toList.isPrefixOf uri.path.toList = true := by
    rw [hlist, List.isPrefixOf_iff_prefix]
    exact List.prefix_append _ _
  have hhead : path.toList.head? = some '/' := hrooted
  simp only [gatewayMapping, hdrop, hprefix, hhead, decide_true, Bool.or_true, Bool.and_self,
    if_true]

def gatewayDefinition : ResourceDefinition where
  resource := "https://api.example.com/gateway/app"
  audiences := ["https://api.example.com/gateway/app"]
  mapping := gatewayMapping
  incomingMount := "/edge/app"
  metadataUri := ⟨some "https", some "api.example.com",
    some ⟨"/.well-known/oauth-protected-resource/gateway/app", none⟩⟩

theorem gatewayDefinition_aligned : Aligned gatewayDefinition "/edge" "/gateway" "/app" where
  rooted := rfl
  incomingMount := by decide
  resource := by
    intro uri huri
    cases huri
    decide
  mapping := gatewayMapping_onePrefix

def gatewayGuard : Guard Rfc9068AccessTokenClaims where
  validator := fun _ _ _ _ => ⟨.ok none, none⟩
  metadata := ⟨fun _ _ _ => [], fun _ => [], fun _ _ _ => ⟨.unauthorized, [], none⟩⟩
  policy := ⟨⟨fun _ _ => .ok ⟨.required, [], [], none, none, true, .any⟩⟩, [], none⟩
  requestMapping := some gatewayMapping

def gatewayValidator : AccessTokenValidator Rfc9068AccessTokenClaims where
  validateRequest := gatewayGuard.validator
  prepare definition _ := .ok ⟨gatewayGuard.metadata, definition.metadataUri, [123, 125], rfl⟩

def gatewayBound : BoundResource (ProtectedResourceProxy Rfc9068AccessTokenClaims) where
  definition := gatewayDefinition
  proxy := ⟨⟨Inner.idle, gatewayGuard, fun _ => ⟨[], none⟩⟩, "/gateway/app",
    gatewayDefinition.audiences⟩
  metadata := ⟨⟨some "https", some "api.example.com", some ⟨"/gateway/app", none⟩⟩,
    "https://api.example.com", gatewayDefinition.metadataUri, gatewayDefinition.metadataUri,
    [123, 125]⟩
  canonical := rfl

theorem gatewayBound_build : BoundResource.build gatewayDefinition gatewayValidator
    gatewayGuard.policy Inner.idle (fun _ => ⟨[], none⟩) = .ok gatewayBound := rfl

def gatewayAssembly :
    ResourceAssembly (Unit ⊕ ProtectedResourceProxy Rfc9068AccessTokenClaims) where
  registry := [gatewayDefinition]
  metadataMapping := directMapping
  branches := [("/edge/app", .inr gatewayBound.proxy)]
  endpoints := [{ gatewayBound.metadata with incomingUri :=
    ⟨none, none, some ⟨"/.well-known/oauth-protected-resource/gateway/app", none⟩⟩ }]
  metricsName := none

theorem gatewayAssembly_served : Served gatewayAssembly := by
  have hregister : (ResourceAssembly.new directMapping).registerBound
      (gatewayBound.intoRoute .inr) = .ok gatewayAssembly := rfl
  exact .registered (.new directMapping) gatewayBound_build
    ⟨"/edge", "/gateway", "/app", gatewayDefinition_aligned⟩ hregister

def gatewayRequest : World Rfc9068AccessTokenClaims where
  session := ⟨⟨.get, ⟨none, none, some ⟨"/edge/app/items", none⟩⟩, []⟩, none, none, .ready (.ok ()),
    .ready (.ok ())⟩
  auth := ⟨none, none, true⟩
  upstream := ⟨.get, ⟨none, none, none⟩, []⟩
  response := .build .ok

theorem routing_agrees_with_boundary_gateway :
    ∃ uri, Inside gatewayBound.proxy gatewayRequest uri := by
  obtain ⟨selector, hselector, hexit⟩ : ∃ selector,
      gatewayAssembly.assemble (.inl ()) () = .ok selector ∧
        ((selector.select).run gatewayRequest).exit =
          .done (some (.branch (.inr gatewayBound.proxy))) :=
    ⟨_, rfl, rfl⟩
  obtain ⟨uri, hinside, -⟩ := (routing_agrees_with_boundary reference_router reference_registry
    gatewayAssembly_served hselector gatewayRequest).2 gatewayBound.proxy hexit
  exact ⟨uri, hinside⟩

end Gateway

end BoundaryAgreement
