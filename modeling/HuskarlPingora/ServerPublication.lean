import HuskarlPingora.AssembledServer

/-! # A publication router of the server's own

A server may install bound resources itself, beside routes the adapter knows nothing
of. Its registration loop interleaves what an assembly does in two passes. -/
namespace ServerPublication

open HttpModel RouteResolution ResourceRules ResourceErrors ResourceContext ResourceGuard
open ResourceResponse ResourceProxy MetadataPublisher ResourceBinding Assembly AssemblyRouting
open AssembledServer CredentialStripping SlashPaths BranchDispatch TracedHooks
open KeyedRegistry (coherent_nil)
open MetadataPublication (Publishable publish_ok_iff publishAll_ok_iff)

variable {C R : Type}

/-- A mapping that also tells its public base. -/
structure BasedMapping extends PublicUrlMapping where
  publicBase : Uri

inductive PublicationError where
  | registration (error : ResourceError)
  | configuration (error : ConfigError)
  | routing (error : RuleRouterError)
  | url (text : String)
  | mapping
  | message (text : String)
  deriving DecidableEq, Repr

/-- A route of the server: one an assembly has too, or its `security.txt`. -/
inductive PublishedRoute (C R : Type) where
  | resource (route : Route C R)
  | securityTxt (body : Bytes)

def notFound : ResourceHook C Bool := do
  respondError .notFound
  return true

section Registration

variable [ResourceRegistryCrate]

/-- What the loop over the resources has collected. -/
structure Contributions (C R : Type) where
  registry : ResourceRegistryCrate.Registry
  publisher : ResourceMetadataProxy C
  metadataPaths : List String
  branches : List (String × R)

namespace Contributions

def new : Contributions C R := ⟨ResourceRegistryCrate.new, .new notFound, [], []⟩

def add (self : Contributions C R) (mapping : PublicUrlMapping) (resource : BoundResource R) :
    Except PublicationError (Contributions C R) :=
  match ResourceRegistryCrate.register self.registry resource.definition mapping with
  | .error error => .error (.registration error)
  | .ok (registry, incoming) =>
    if hasBrace resource.definition.incomingMount || hasBrace incoming.path then
      .error (.message "resource and publication mounts must be literal paths")
    else
      match resource.metadata.withMapping mapping with
      | none => .error .mapping
      | some endpoint =>
        match self.publisher.publish endpoint with
        | .error error => .error (.configuration error)
        | .ok publisher =>
          .ok { registry := registry
                publisher := publisher
                metadataPaths := self.metadataPaths ++ [incoming.path]
                branches := self.branches ++
                  [(resource.definition.incomingMount, resource.proxy)] }

def addAll (mapping : PublicUrlMapping) (self : Contributions C R) :
    List (BoundResource R) → Except PublicationError (Contributions C R)
  | [] => .ok self
  | resource :: rest => do
    let added ← self.add mapping resource
    addAll mapping added rest

end Contributions

end Registration

section SecurityTxt

variable [HttpCrate]

def securityPath (mapping : BasedMapping) : Except PublicationError String :=
  match mapping.publicBase.scheme with
  | none => .error (.message "missing public scheme")
  | some scheme =>
    match mapping.publicBase.authority with
    | none => .error (.message "missing public authority")
    | some authority =>
      match HttpCrate.parseUri (scheme ++ "://" ++ authority ++ "/.well-known/security.txt") with
      | none => .error (.url (scheme ++ "://" ++ authority ++ "/.well-known/security.txt"))
      | some publicUrl =>
        match mapping.incomingUri publicUrl with
        | none => .error .mapping
        | some incoming => .ok incoming.path

def ownSecurityPath (mapping : BasedMapping) (publicPaths : List String) :
    Option Bytes → Except PublicationError (Option (String × Bytes))
  | none => .ok none
  | some body => do
    let path ← securityPath mapping
    if hasBrace path || publicPaths.contains path then
      .error (.message "security.txt publication path is invalid or already owned")
    else .ok (some (path, body))

end SecurityTxt

/-- Metadata paths, the document, and the mounts without the paths already taken. -/
def registrations [ResourceRegistryCrate] (contributions : Contributions C R)
    (document : Option (String × Bytes)) : List (PathRegistration (PublishedRoute C R)) :=
  let publicPaths := contributions.metadataPaths ++ document.toList.map Prod.fst
  ((ordered contributions.metadataPaths).map fun path =>
      ⟨[path], .any, .resource (.metadata contributions.publisher)⟩) ++
    (document.toList.map fun entry => ⟨[entry.1], .any, .securityTxt entry.2⟩) ++
    contributions.branches.map fun branch =>
      ⟨mountPatterns publicPaths branch.1, .any, .resource (.branch branch.2)⟩

/-- The routes of the server, and the route of `NotFound` they fall back to. -/
structure ServerRoutes (C R : Type) where
  routes : RuleRouter (PublishedRoute C R)
  fallback : R

def buildRouter [HttpCrate] [ResourceRegistryCrate] [RouteGuardCrate]
    (resources : List (BoundResource R)) (metadataMapping : BasedMapping)
    (securityTxt : Option Bytes) (pathGuard : RouteGuardCrate.GuardConfig) (fallback : R) :
    Except PublicationError (ServerRoutes C R) := do
  let contributions ← Contributions.addAll metadataMapping.toPublicUrlMapping .new resources
  let document ← ownSecurityPath metadataMapping contributions.metadataPaths securityTxt
  match RouteGuardCrate.fromRegistrations (.resource (.branch fallback)) pathGuard
      (registrations contributions document) with
  | .error error => .error (.routing error)
  | .ok routes => .ok ⟨routes, fallback⟩

def ServerRoutes.select (self : ServerRoutes C R) :
    ResourceHook C (Option (PublishedRoute C R)) := do
  let req := (← read).session.reqHeader
  match self.routes.resolve req.uri.path req.method with
  | .error reason => fail ⟨.httpStatus (resolveErrorStatus reason).code, reason.display⟩
  | .ok route => return some route

/-- The header of `security.txt`; its texts are legal header values. -/
def securityHeader (body : Bytes) (allowed : Bool) : ResponseHeader :=
  if allowed then
    ((ResponseHeader.build .ok).insertHeader contentTypeName ⟨"text/plain; charset=utf-8"⟩
      |>.insertHeader contentLengthName ⟨toString body.length⟩
      |>.insertHeader cacheControlName ⟨"max-age=3600"⟩)
  else
    ((ResponseHeader.build .methodNotAllowed).insertHeader allowName ⟨"GET, HEAD"⟩
      |>.insertHeader contentLengthName ⟨"0"⟩
      |>.insertHeader cacheControlName ⟨"no-store"⟩)

def securityFilter (document : Bytes) : ResourceHook C Bool := do
  let method := (← read).session.reqHeader.method
  let allowed := method = .get || method = .head
  let sendBody := decide (method = .get) && !document.isEmpty
  write (securityHeader document allowed) sendBody document
  return true

section Serving

variable [HttpCrate] [HasScopes C] [ResourceServerLib]

def publishedEarly (early : Earlies C) : PublishedRoute C (Branch C) → ResourceHook C Unit
  | .resource route => branchEarly early route
  | .securityTxt _ => pure ()

def publishedFilter : PublishedRoute C (Branch C) → ResourceHook C Bool
  | .resource route => branchFilter route
  | .securityTxt document => securityFilter document

omit [HasScopes C] [ResourceServerLib] in
def publishedLater (call : LaterCall C) : PublishedRoute C (Branch C) → ResourceHook C Unit
  | .resource route => branchLater call route
  | .securityTxt _ => defaultLater call

abbrev PublishedRun (C : Type) (α : Type) :=
  Ran Error (Slotted (World C) (PublishedRoute C (Branch C))) (Event C) α

variable [ProxyRouterCrate]

/-- Both filters of the server's router. -/
def ServerRoutes.serve (self : ServerRoutes C (Branch C)) (early : Earlies C) (w : World C) :
    PublishedRun C Bool :=
  (do ProxyRouterCrate.earlyRequestFilter self.select (.resource (.branch self.fallback))
        (publishedEarly early)
      ProxyRouterCrate.laterHook (.resource (.branch self.fallback)) publishedFilter :
    Hook Error (Slotted (World C) (PublishedRoute C (Branch C))) (Event C) Bool).run ⟨w, none⟩

omit [HasScopes C] [ResourceServerLib] in
def ServerRoutes.later (self : ServerRoutes C (Branch C)) (call : LaterCall C) :
    Hook Error (Slotted (World C) (PublishedRoute C (Branch C))) (Event C) Unit :=
  ProxyRouterCrate.laterHook (.resource (.branch self.fallback)) (publishedLater call)

end Serving

section Loop

variable [ResourceRegistryCrate]

def registerAll (assembly : ResourceAssembly R) :
    List (BoundResource R) → Except AssemblyError (ResourceAssembly R)
  | [] => .ok assembly
  | resource :: rest => do
    let registered ← assembly.registerBound resource
    registerAll registered rest

structure Collected (contributions : Contributions C R) (assembly : ResourceAssembly R) :
    Prop where
  registry : contributions.registry = assembly.registry
  publisher : contributions.publisher = ⟨metadataNotFound, assembly.endpoints⟩
  metadataPaths : contributions.metadataPaths =
    assembly.endpoints.map fun endpoint => endpoint.incomingUri.path
  branches : contributions.branches = assembly.branches

variable {contributions contributions' : Contributions C R}
  {assembly assembly' : ResourceAssembly R} {resource : BoundResource R}

theorem collected_new (mapping : PublicUrlMapping) :
    Collected (C := C) (R := R) .new (.new mapping) :=
  ⟨rfl, rfl, rfl, rfl⟩

/-- One turn of the loop is a registration followed by a publication. -/
theorem add_ok (contract : RegistryContract) (h : Collected contributions assembly)
    (ha : contributions.add assembly.metadataMapping resource = .ok contributions') :
    ∃ assembly', assembly.registerBound resource = .ok assembly' ∧
      assembly'.metadataMapping = assembly.metadataMapping ∧ Collected contributions' assembly' ∧
      ∃ published, contributions.publisher.publish published = .ok contributions'.publisher := by
  unfold Contributions.add at ha
  rw [h.registry] at ha
  unfold ResourceAssembly.registerBound
  cases hr : ResourceRegistryCrate.register assembly.registry resource.definition
      assembly.metadataMapping with
  | error e => simp [hr] at ha
  | ok accepted =>
    obtain ⟨registry, incoming⟩ := accepted
    simp only [hr] at ha ⊢
    split at ha
    · cases ha
    rename_i hbrace
    rw [if_neg hbrace]
    cases hendpoint : resource.metadata.withMapping assembly.metadataMapping with
    | none => simp [hendpoint] at ha
    | some endpoint =>
      simp only [hendpoint] at ha
      split at ha
      · cases ha
      rename_i publisher hpublish
      cases ha
      have hincoming : endpoint.incomingUri = incoming := by
        rw [ResourceMetadataEndpoint.withMapping, resource.canonical, contract.incoming hr]
          at hendpoint
        cases hendpoint
        rfl
      refine ⟨_, rfl, rfl, ⟨rfl, ?_, ?_, ?_⟩, endpoint, hpublish⟩
      · rw [publish_ok hpublish, h.publisher]
      · simp [h.metadataPaths, hincoming]
      · simp [h.branches]

theorem add_total (h : Collected contributions assembly)
    (hr : assembly.registerBound resource = .ok assembly')
    (hpublishable : Publishable assembly'.endpoints) :
    ∃ contributions', contributions.add assembly.metadataMapping resource = .ok contributions' := by
  obtain ⟨registry, incoming, endpoint, hregister, hmount, hpath, hendpoint, rfl⟩ :=
    registerBound_ok hr
  have hbefore : Publishable contributions.publisher.endpoints := by
    rw [h.publisher]
    exact hpublishable.of_append
  obtain ⟨publisher, hpublish⟩ := (publish_ok_iff hbefore).mpr (by
    rw [h.publisher]
    exact hpublishable)
  exact ⟨_, by
    simp only [Contributions.add, h.registry, hregister, hmount, hpath, hendpoint, hpublish,
      Bool.or_self, Bool.false_eq_true, if_false]
    rfl⟩

theorem registerAll_endpoints {resources : List (BoundResource R)}
    (h : registerAll assembly resources = .ok assembly') :
    ∃ more, assembly'.endpoints = assembly.endpoints ++ more := by
  induction resources generalizing assembly with
  | nil =>
    cases h
    exact ⟨[], (List.append_nil _).symm⟩
  | cons resource rest ih =>
    obtain ⟨registered, hr, hrest⟩ := bind_ok h
    obtain ⟨_, _, endpoint, _, _, _, _, rfl⟩ := registerBound_ok hr
    obtain ⟨more, hmore⟩ := ih hrest
    exact ⟨endpoint :: more, by rw [hmore]; simp⟩

/-- The loop gets through the resources that the two passes get through. -/
theorem addAll_ok_iff (contract : RegistryContract) {resources : List (BoundResource R)}
    (h : Collected contributions assembly) (hpublishable : Publishable assembly.endpoints) :
    (∃ contributions', Contributions.addAll assembly.metadataMapping contributions resources =
        .ok contributions') ↔
      ∃ assembly', registerAll assembly resources = .ok assembly' ∧
        Publishable assembly'.endpoints := by
  induction resources generalizing contributions assembly with
  | nil => exact ⟨fun _ => ⟨assembly, rfl, hpublishable⟩, fun _ => ⟨contributions, rfl⟩⟩
  | cons resource rest ih =>
    constructor
    · rintro ⟨contributions', hall⟩
      obtain ⟨added, ha, hrest⟩ := bind_ok hall
      obtain ⟨registered, hr, hmapping, hc, endpoint, hpublish⟩ := add_ok contract h ha
      have hbefore : Publishable contributions.publisher.endpoints := by
        rw [h.publisher]
        exact hpublishable
      have hnext : Publishable registered.endpoints := by
        have hstep := (publish_ok_iff hbefore).mp ⟨_, hpublish⟩
        have hendpoints : registered.endpoints =
            contributions.publisher.endpoints ++ [endpoint] := by
          have heq := hc.publisher.symm.trans (publish_ok hpublish)
          exact congrArg ResourceMetadataProxy.endpoints heq
        rw [hendpoints]
        exact hstep
      rw [← hmapping] at hrest
      obtain ⟨assembly', hassembly, hp⟩ := (ih hc hnext).mp ⟨contributions', hrest⟩
      exact ⟨assembly', by simp [registerAll, hr, bind, Except.bind, hassembly], hp⟩
    · rintro ⟨assembly', hall, hp⟩
      obtain ⟨registered, hr, hrest⟩ := bind_ok hall
      obtain ⟨more, hmore⟩ := registerAll_endpoints hrest
      have hnext : Publishable registered.endpoints := by
        rw [hmore] at hp
        exact hp.of_append
      obtain ⟨added, ha⟩ := add_total (C := C) h hr hnext
      obtain ⟨registered', hr', hmapping, hc, -⟩ := add_ok contract h ha
      obtain rfl : registered' = registered := Except.ok.inj (hr'.symm.trans hr)
      obtain ⟨contributions', hcontributions⟩ := (ih hc hnext).mpr ⟨assembly', hrest, hp⟩
      rw [hmapping] at hcontributions
      exact ⟨contributions', by
        simp [Contributions.addAll, ha, bind, Except.bind, hcontributions]⟩

theorem addAll_collected (contract : RegistryContract) {resources : List (BoundResource R)}
    (h : Collected contributions assembly)
    (ha : Contributions.addAll assembly.metadataMapping contributions resources =
      .ok contributions')
    (hr : registerAll assembly resources = .ok assembly') : Collected contributions' assembly' := by
  induction resources generalizing contributions assembly with
  | nil =>
    cases ha
    cases hr
    exact h
  | cons resource rest ih =>
    obtain ⟨added, hadd, hrest⟩ := bind_ok ha
    obtain ⟨registered, hregister, hrest'⟩ := bind_ok hr
    obtain ⟨registered', hr', hmapping, hc, -⟩ := add_ok contract h hadd
    obtain rfl : registered' = registered := Except.ok.inj (hr'.symm.trans hregister)
    exact ih hc (hmapping ▸ hrest) hrest'

/-- The server's own loop accepts the resources that an assembly registers and then
publishes, and collects from them what the assembly holds. -/
structure LoopsAgree (C : Type) (mapping : PublicUrlMapping) (resources : List (BoundResource R)) :
    Prop where
  accepted : (∃ contributions, Contributions.addAll (C := C) mapping .new resources =
      .ok contributions) ↔
    ∃ assembly publisher, registerAll (.new mapping) resources = .ok assembly ∧
      publishAll (C := C) (.new metadataNotFound) assembly.endpoints = .ok publisher
  collected : ∀ contributions assembly,
    Contributions.addAll (C := C) mapping .new resources = .ok contributions →
    registerAll (.new mapping) resources = .ok assembly → Collected contributions assembly

theorem registration_loops_agree (contract : RegistryContract) (mapping : PublicUrlMapping)
    (resources : List (BoundResource R)) : LoopsAgree C mapping resources := by
  have hnew := collected_new (C := C) (R := R) mapping
  constructor
  · refine (addAll_ok_iff contract hnew coherent_nil).trans ?_
    constructor
    · rintro ⟨assembly, hr, hp⟩
      have hall := @publishAll_ok_iff C (.new metadataNotFound) coherent_nil assembly.endpoints
      obtain ⟨publisher, hpublisher⟩ := hall.mpr hp
      exact ⟨assembly, publisher, hr, hpublisher⟩
    · rintro ⟨assembly, publisher, hr, hpublisher⟩
      have hall := @publishAll_ok_iff C (.new metadataNotFound) coherent_nil assembly.endpoints
      exact ⟨assembly, hr, hall.mp ⟨publisher, hpublisher⟩⟩
  · intro contributions assembly ha hr
    exact addAll_collected contract hnew ha hr

end Loop

section Table

variable {fallback : R} {registered : List (PathRegistration R)} {path : String}
  {owned mounts : List (String × R)} {paths : List String}

/-- Registrations that own single paths, and mounts that leave these paths to them. -/
structure Table (registered : List (PathRegistration R)) (owned mounts : List (String × R))
    (paths : List String) : Prop where
  named : ∀ path, path ∈ paths ↔ ∃ rule, (path, rule) ∈ owned
  literal : ∀ entry ∈ owned, Literal entry.1
  literalMounts : ∀ mount ∈ mounts, Literal mount.1
  exactly : ∀ reg, reg ∈ registered ↔ (∃ entry ∈ owned, reg = ⟨[entry.1], .any, entry.2⟩) ∨
    ∃ mount ∈ mounts, reg = ⟨mountPatterns paths mount.1, .any, mount.2⟩

inductive Found (owned mounts : List (String × R)) (fallback : R) (path : String) : R → Prop where
  | owned {own} : (path, own) ∈ owned → Found owned mounts fallback path own
  | mount {mount own} : (∀ rule', (path, rule') ∉ owned) → (mount, own) ∈ mounts →
      MountCovers mount path → Found owned mounts fallback path own
  | fallback : (∀ rule', (path, rule') ∉ owned) → (∀ mount ∈ mounts, ¬ MountCovers mount.1 path) →
      Found owned mounts fallback path fallback

theorem Table.unowned (h : Table registered owned mounts paths)
    (hno : ∀ reg ∈ registered, path ∈ reg.patterns → ¬ Literal path) :
    ∀ rule', (path, rule') ∉ owned := by
  intro rule' hmem
  have hreg := (h.exactly ⟨[path], .any, rule'⟩).mpr (.inl ⟨_, hmem, rfl⟩)
  exact hno _ hreg (List.mem_singleton.mpr rfl) (h.literal _ hmem)

theorem Table.reached (h : Table registered owned mounts paths)
    (hno : ∀ rule', (path, rule') ∉ owned) {mount : String × R} (hm : mount ∈ mounts)
    (hc : MountCovers mount.1 path) : (path ∈ mountPatterns paths mount.1 ∧ Literal path) ∨
      ∃ lead, lead ++ "/{*rest}" ∈ mountPatterns paths mount.1 ∧ Continues lead path := by
  have hpath : path ∉ paths := fun hmem => by
    obtain ⟨rule', howned⟩ := (h.named path).mp hmem
    exact hno rule' howned
  have hmount := h.literalMounts mount hm
  rcases pattern_of_covers hc with heq | heq | ⟨lead, heq, hcont⟩
  · exact .inl ⟨(mem_mountPatterns _ _ _).mpr ⟨.inl heq, hpath⟩, heq ▸ hmount⟩
  · exact .inl ⟨(mem_mountPatterns _ _ _).mpr ⟨.inr (.inl heq), hpath⟩, heq ▸ literal_slash hmount⟩
  · refine .inr ⟨lead, (mem_mountPatterns _ _ _).mpr ⟨.inr (.inr heq), fun hmem => ?_⟩, hcont⟩
    obtain ⟨rule', howned⟩ := (h.named _).mp hmem
    exact not_literal_catchAll (slash mount.1) (heq ▸ h.literal _ howned)

theorem found_of_selects {rule : R} (h : Table registered owned mounts paths)
    (hs : Selects fallback registered path rule) : Found owned mounts fallback path rule := by
  cases hs with
  | literal hreg hpattern hl =>
    rcases (h.exactly _).mp hreg with ⟨entry, hentry, rfl⟩ | ⟨mount, hm, rfl⟩
    · obtain rfl := List.mem_singleton.mp hpattern
      exact .owned hentry
    · obtain ⟨hc, hno⟩ := covers_of_literal hl hpattern
      exact .mount (fun rule' hmem => hno ((h.named path).mpr ⟨rule', hmem⟩)) hm hc
  | rest hno hreg hpattern hc =>
    have hunowned := h.unowned hno
    rcases (h.exactly _).mp hreg with ⟨entry, hentry, rfl⟩ | ⟨mount, hm, rfl⟩
    · have hl := h.literal entry hentry
      rw [← List.mem_singleton.mp hpattern] at hl
      simp [Literal] at hl
    · exact .mount hunowned hm (covers_of_rest (h.literalMounts mount hm) hpattern hc)
  | fallback hno hrest =>
    have hunowned := h.unowned hno
    refine .fallback hunowned fun mount hm hc => ?_
    have hreg := (h.exactly _).mpr (.inr ⟨mount, hm, rfl⟩)
    rcases h.reached hunowned hm hc with ⟨hpattern, hl⟩ | ⟨lead, hpattern, hcont⟩
    · exact hno _ hreg hpattern hl
    · exact hrest _ hreg lead hpattern hcont

end Table

section Routes

variable {publisher : ResourceMetadataProxy C} {metadataPaths : List String}
  {branches : List (String × R)} {document : Option (String × Bytes)}

def owned (publisher : ResourceMetadataProxy C) (metadataPaths : List String)
    (document : Option (String × Bytes)) : List (String × PublishedRoute C R) :=
  (metadataPaths.map fun path => (path, .resource (.metadata publisher))) ++
    document.toList.map fun entry => (entry.1, .securityTxt entry.2)

theorem mem_owned {path : String} {route : PublishedRoute C R} :
    (path, route) ∈ owned publisher metadataPaths document ↔
      (path ∈ metadataPaths ∧ route = .resource (.metadata publisher)) ∨
        ∃ body, document = some (path, body) ∧ route = .securityTxt body := by
  cases document with
  | none => simp [owned, eq_comm]
  | some entry =>
    obtain ⟨own, body⟩ := entry
    simp only [owned, Option.toList_some, List.map_cons, List.map_nil, List.mem_append,
      List.mem_map, List.mem_singleton, Prod.mk.injEq, Option.some.injEq]
    constructor
    · rintro (⟨path, hmem, rfl, rfl⟩ | ⟨rfl, rfl⟩)
      · exact .inl ⟨hmem, rfl⟩
      · exact .inr ⟨body, ⟨rfl, rfl⟩, rfl⟩
    · rintro (⟨hmem, rfl⟩ | ⟨body', ⟨rfl, rfl⟩, rfl⟩)
      · exact .inl ⟨path, hmem, rfl, rfl⟩
      · exact .inr ⟨rfl, rfl⟩

theorem table_of_registrations [ResourceRegistryCrate] {contributions : Contributions C R}
    (hpaths : ∀ path ∈ contributions.metadataPaths, Literal path)
    (hmounts : ∀ branch ∈ contributions.branches, Literal branch.1)
    (hdocument : ∀ entry ∈ document, Literal entry.1) :
    Table (registrations contributions document)
      (owned contributions.publisher contributions.metadataPaths document)
      (contributions.branches.map fun branch => (branch.1, .resource (.branch branch.2)))
      (contributions.metadataPaths ++ document.toList.map Prod.fst) where
  named := by
    intro path
    simp only [mem_owned, List.mem_append, List.mem_map, Option.mem_toList]
    constructor
    · rintro (hmem | ⟨⟨_, body⟩, hentry, rfl⟩)
      · exact ⟨_, .inl ⟨hmem, rfl⟩⟩
      · exact ⟨_, .inr ⟨body, hentry, rfl⟩⟩
    · rintro ⟨route, ⟨hmem, -⟩ | ⟨body, hentry, -⟩⟩
      · exact .inl hmem
      · exact .inr ⟨(path, body), hentry, rfl⟩
  literal := by
    rintro ⟨path, route⟩ hmem
    rcases mem_owned.mp hmem with ⟨hpath, -⟩ | ⟨body, hentry, -⟩
    · exact hpaths path hpath
    · exact hdocument (path, body) hentry
  literalMounts := by
    intro mount hmem
    obtain ⟨branch, hbranch, rfl⟩ := List.mem_map.mp hmem
    exact hmounts branch hbranch
  exactly := by
    intro reg
    simp only [registrations, List.mem_append, List.mem_map, mem_ordered, Prod.exists, mem_owned,
      Option.mem_toList]
    constructor
    · rintro ((⟨path, hmem, rfl⟩ | ⟨path, body, hentry, rfl⟩) | ⟨mount, proxy, hmem, rfl⟩)
      · exact .inl ⟨path, _, .inl ⟨hmem, rfl⟩, rfl⟩
      · exact .inl ⟨path, _, .inr ⟨body, hentry, rfl⟩, rfl⟩
      · exact .inr ⟨mount, _, ⟨mount, proxy, hmem, rfl⟩, rfl⟩
    · rintro (⟨path, route, ⟨hmem, rfl⟩ | ⟨body, hentry, rfl⟩, rfl⟩ |
        ⟨mount, route, ⟨_, proxy, hmem, heq⟩, rfl⟩)
      · exact .inl (.inl ⟨path, hmem, rfl⟩)
      · exact .inl (.inr ⟨path, body, hentry, rfl⟩)
      · cases heq
        exact .inr ⟨mount, proxy, hmem, rfl⟩

end Routes

section Security

variable [HttpCrate] {mapping : BasedMapping} {publicPaths : List String}
  {securityTxt : Option Bytes} {document : Option (String × Bytes)}

/-- The document is served at this path. -/
def DocumentAt (mapping : BasedMapping) (securityTxt : Option Bytes) (path : String)
    (body : Bytes) : Prop :=
  securityTxt = some body ∧ securityPath mapping = .ok path

theorem document_iff (h : ownSecurityPath mapping publicPaths securityTxt = .ok document)
    (path : String) (body : Bytes) :
    document = some (path, body) ↔ DocumentAt mapping securityTxt path body := by
  cases securityTxt with
  | none =>
    cases h
    simp [DocumentAt]
  | some own =>
    obtain ⟨ownPath, hpath, hown⟩ := bind_ok h
    split at hown
    · cases hown
    · cases hown
      simp only [DocumentAt, hpath, Option.some.injEq, Prod.mk.injEq, Except.ok.injEq]
      exact and_comm

theorem document_free (h : ownSecurityPath mapping publicPaths securityTxt = .ok document) :
    ∀ entry ∈ document, Literal entry.1 ∧ entry.1 ∉ publicPaths := by
  cases securityTxt with
  | none =>
    cases h
    simp
  | some own =>
    obtain ⟨ownPath, -, hown⟩ := bind_ok h
    split at hown
    · cases hown
    · rename_i hfree
      cases hown
      intro entry hentry
      obtain rfl := Option.mem_some_iff.mp hentry
      simp only [Bool.or_eq_true, not_or, Bool.not_eq_true, List.contains_eq_mem,
        decide_eq_false_iff_not] at hfree
      exact ⟨literal_of_hasBrace hfree.1, hfree.2⟩

end Security

section Requests

variable [HttpCrate] [HasScopes C] [ResourceServerLib] [ProxyRouterCrate]
variable {published : ServerRoutes C (Branch C)} {server : AssembledResources C}
  {early : Earlies C} {w : World C}

def ServerRoutes.resolve (published : ServerRoutes C (Branch C)) (w : World C) :
    Except ResolveError (PublishedRoute C (Branch C)) :=
  published.routes.resolve w.session.reqHeader.uri.path w.session.reqHeader.method

omit [HttpCrate] [HasScopes C] [ResourceServerLib] [ProxyRouterCrate] in
theorem run_server_select (published : ServerRoutes C (Branch C)) (w : World C) :
    (published.select).run w = match published.resolve w with
      | .error reason =>
        ⟨.failed ⟨.httpStatus (resolveErrorStatus reason).code, reason.display⟩, w, []⟩
      | .ok route => ⟨.done (some route), w, []⟩ := by
  unfold ServerRoutes.resolve
  cases hr : published.routes.resolve w.session.reqHeader.uri.path
      w.session.reqHeader.method <;> simp [ServerRoutes.select, hr]

theorem published_denied (dispatches : RouterDispatches) {reason : ResolveError}
    (hr : published.resolve w = .error reason) : published.serve early w =
      ⟨.failed ⟨.httpStatus (resolveErrorStatus reason).code, reason.display⟩, ⟨w, none⟩, []⟩ := by
  have hselect := run_server_select published w
  rw [hr] at hselect
  rw [ServerRoutes.serve, run_bind, dispatches.early, run_dispatch_failed hselect]
  rfl

theorem published_routed (dispatches : RouterDispatches) {route : PublishedRoute C (Branch C)}
    (hr : published.resolve w = .ok route) : published.serve early w = seenWith (some route)
      ((do publishedEarly early route; publishedFilter route : ResourceHook C Bool).run w) := by
  have hselect := run_server_select published w
  rw [hr] at hselect
  rw [ServerRoutes.serve, run_bind, dispatches.early, run_dispatch_done hselect, run_bind,
    after_nil]
  exact seenWith_andThen _ fun _ s => dispatches.later _ _ s route

omit [HasScopes C] [ResourceServerLib] in
theorem delivers_published (dispatches : RouterDispatches)
    (published : ServerRoutes C (Branch C)) (route : PublishedRoute C (Branch C)) :
    BranchDispatch.Delivers (.resource (.branch published.fallback)) route publishedLater
      published.later :=
  fun _ w => dispatches.later _ _ w route

/-- The same request on both servers: only the route counter of the assembly is missing.
Every hook that follows ends the same way, from the same state, with the same events. -/
structure Agrees (published : ServerRoutes C (Branch C)) (server : AssembledResources C)
    (early : Earlies C) (w : World C) : Prop where
  exit : (published.serve early w).exit = (server.serve early w).exit
  world : (published.serve early w).state.state = (server.serve early w).state.state
  events : routeEvent server.selector "selected" :: (published.serve early w).events =
    (server.serve early w).events
  later : ∀ calls, (records published.later calls (published.serve early w).state).map unslotted =
    (records server.later calls (server.serve early w).state).map unslotted

theorem agrees_of_routes (dispatches : RouterDispatches) {route : ServerRoute C}
    (hr : published.resolve w = .ok (.resource route)) (hr' : server.resolve w = .ok route) :
    Agrees published server early w := by
  have hpublished : published.serve early w = seenWith (some (.resource route))
      ((branchServe early route).run w) := published_routed dispatches hr
  have hserver : server.serve early w = branchRun server early route w :=
    serve_routed dispatches hr'
  have hdelivers := delivers_published dispatches published (.resource route)
  have hdelivers' := delivers_later dispatches server route
  rw [branchRun] at hserver
  constructor
  · rw [hpublished, hserver]
    rfl
  · rw [hpublished, hserver]
    rfl
  · rw [hpublished, hserver]
    rfl
  · intro calls
    rw [hpublished, hserver, seenWith_state, seenWith_state, records_delivered hdelivers,
      records_delivered hdelivers']
    rfl

/-- The document is answered in public, by its writes and nothing else. -/
structure Disclosed (published : ServerRoutes C (Branch C)) (early : Earlies C) (document : Bytes)
    (w : World C) (r : Ran Error (World C) (Event C) Bool) : Prop where
  serve : published.serve early w = seenWith (some (.securityTxt document)) r
  get : w.session.reqHeader.method = .get → document ≠ [] →
    Sent (securityHeader document true) true document true w r
  bodyless : w.session.reqHeader.method = .head ∨
      w.session.reqHeader.method = .get ∧ document = [] →
    Sent (securityHeader document true) false [] true w r
  other : w.session.reqHeader.method ≠ .get → w.session.reqHeader.method ≠ .head →
    Sent (securityHeader document false) false [] true w r

omit [HttpCrate] [HasScopes C] [ResourceServerLib] [ProxyRouterCrate] in
theorem run_securityFilter (document : Bytes) (allowed sendBody : Bool)
    (hallowed : decide (w.session.reqHeader.method = .get ∨ w.session.reqHeader.method = .head) =
      allowed)
    (hbody : (decide (w.session.reqHeader.method = .get) && !document.isEmpty) = sendBody) :
    (securityFilter document).run w =
      ((write (securityHeader document allowed) sendBody document).run w).andThen
        fun _ w' => ⟨.done true, w', []⟩ := by
  subst hallowed hbody
  simp [securityFilter]

theorem disclosed (dispatches : RouterDispatches) {document : Bytes}
    (hr : published.resolve w = .ok (.securityTxt document)) :
    Disclosed published early document w ((securityFilter document).run w) := by
  have hbodyless : ∀ header, Sent header false [] true w
      (((write header false document).run w).andThen fun _ w' => ⟨.done true, w', []⟩) := by
    intro header
    rw [MetadataPublication.write_bodyless, ← MetadataPublication.write_bodyless header []]
    exact sent_write_returning header false [] w true
  constructor
  · exact published_routed dispatches hr
  · intro hm hne
    rw [run_securityFilter document true true (by simp [hm]) (by simp [hm, hne])]
    exact sent_write_returning _ _ _ w true
  · rintro (hm | ⟨hm, hempty⟩)
    · rw [run_securityFilter document true false (by simp [hm]) (by simp [hm])]
      exact hbodyless _
    · rw [run_securityFilter document true false (by simp [hm]) (by simp [hempty])]
      exact hbodyless _
  · intro hget hhead
    rw [run_securityFilter document false false (by simp [hget, hhead]) (by simp [hget])]
    exact hbodyless _

end Requests

section Servers

variable [HttpCrate] [ResourceRegistryCrate]
variable {resources : List (BoundResource (ProtectedResourceProxy C))}
  {assembly assembly' : ResourceAssembly (Branch C)}

def routed (resources : List (BoundResource (ProtectedResourceProxy C))) :
    List (BoundResource (Branch C)) :=
  resources.map fun bound => bound.intoRoute .inr

theorem hosts_registerAll {before : List (BoundResource (ProtectedResourceProxy C))}
    (h : Hosts assembly before) (hc : ∀ bound ∈ resources, ResourceIsolation.Constructed bound)
    (hr : registerAll assembly (routed resources) = .ok assembly') :
    Hosts assembly' (before ++ resources) ∧
      assembly'.metadataMapping = assembly.metadataMapping := by
  induction resources generalizing assembly before with
  | nil =>
    cases hr
    exact ⟨(List.append_nil before).symm ▸ h, rfl⟩
  | cons bound rest ih =>
    obtain ⟨registered, hone, hrest⟩ := bind_ok hr
    have hnext := Hosts.registered h (hc bound List.mem_cons_self) hone
    obtain ⟨hhosts, hmapping⟩ := ih hnext (fun b hb => hc b (List.mem_cons_of_mem bound hb)) hrest
    obtain ⟨_, _, _, _, _, _, _, rfl⟩ := registerBound_ok hone
    exact ⟨by simpa using hhosts, hmapping⟩

theorem same_of_hosts (h : Hosts assembly resources) (h' : Hosts assembly' resources)
    (hmapping : assembly'.metadataMapping = assembly.metadataMapping) :
    assembly'.branches = assembly.branches ∧ assembly'.endpoints = assembly.endpoints := by
  refine ⟨h'.branches.trans h.branches.symm, ?_⟩
  have heq : assembly'.endpoints.map some = assembly.endpoints.map some := by
    rw [h'.endpoints, h.endpoints, hmapping]
  exact List.map_injective_iff.mpr (Option.some_injective _) heq

omit [HttpCrate] in
theorem answer_unique {fallback : Branch C} {path : String} {route route' : ServerRoute C}
    (apart : assembly.branches.Pairwise fun b b' => Apart '/' b.1.toList b'.1.toList)
    (h : Answer assembly ⟨metadataNotFound, assembly.endpoints⟩ fallback path route)
    (h' : Answer assembly ⟨metadataNotFound, assembly.endpoints⟩ fallback path route') :
    route = route' := by
  have hrouted := routed_of_answer apart h
  cases h' with
  | metadata hm =>
    obtain ⟨publisher, rfl⟩ := hrouted.metadata.mpr hm
    rw [hrouted.publisher publisher rfl]
  | branch hm hb hc => exact hrouted.branch hm _ _ hb hc
  | fallback hm hno => exact hrouted.fallback hm hno

variable [RouteGuardCrate]

theorem buildRouter_ok {R : Type} {resources : List (BoundResource R)}
    {mapping : BasedMapping} {securityTxt : Option Bytes}
    {pathGuard : RouteGuardCrate.GuardConfig} {fallback : R} {published : ServerRoutes C R}
    (h : buildRouter resources mapping securityTxt pathGuard fallback = .ok published) :
    published.fallback = fallback ∧ ∃ contributions document,
      Contributions.addAll mapping.toPublicUrlMapping .new resources = .ok contributions ∧
      ownSecurityPath mapping contributions.metadataPaths securityTxt = .ok document ∧
      RouteGuardCrate.fromRegistrations (.resource (.branch fallback)) pathGuard
        (registrations contributions document) = .ok published.routes := by
  obtain ⟨contributions, hall, h⟩ := bind_ok h
  obtain ⟨document, hdocument, h⟩ := bind_ok h
  split at h
  · cases h
  · rename_i routes hroutes
    cases h
    exact ⟨rfl, contributions, document, hall, hdocument, hroutes⟩

omit [RouteGuardCrate] in
theorem collected_of_hosts (registry : RegistryContract) (hh : Hosts assembly resources)
    {contributions : Contributions C (Branch C)} (hall : Contributions.addAll
      assembly.metadataMapping .new (routed resources) = .ok contributions) :
    contributions.publisher = ⟨metadataNotFound, assembly.endpoints⟩ ∧
      contributions.metadataPaths =
        assembly.endpoints.map (fun endpoint => endpoint.incomingUri.path) ∧
      contributions.branches = assembly.branches := by
  have hnew := collected_new (C := C) (R := Branch C) assembly.metadataMapping
  obtain ⟨assembly', hregister, -⟩ :=
    (addAll_ok_iff registry hnew coherent_nil).mp ⟨contributions, hall⟩
  have hc := addAll_collected registry hnew hall hregister
  obtain ⟨hh', hmapping⟩ := hosts_registerAll (.new _) hh.constructed hregister
  obtain ⟨hbranches, hendpoints⟩ := same_of_hosts hh hh' hmapping
  exact ⟨hendpoints ▸ hc.publisher, hendpoints ▸ hc.metadataPaths, hbranches ▸ hc.branches⟩

omit [HttpCrate] [RouteGuardCrate] in
theorem registrations_any {contributions : Contributions C (Branch C)}
    {document : Option (String × Bytes)} :
    ∀ reg ∈ registrations contributions document, reg.method = .any := by
  intro reg hreg
  simp only [registrations, List.mem_append, List.mem_map] at hreg
  rcases hreg with (⟨_, -, rfl⟩ | ⟨_, -, rfl⟩) | ⟨_, -, rfl⟩ <;> rfl

theorem published_route (router : RouterContract) (registry : RegistryContract)
    (hh : Hosts assembly resources) {mapping : BasedMapping}
    (hmapping : assembly.metadataMapping = mapping.toPublicUrlMapping)
    {securityTxt : Option Bytes} {pathGuard : RouteGuardCrate.GuardConfig} {fallback : Branch C}
    {published : ServerRoutes C (Branch C)}
    (hp : buildRouter (routed resources) mapping securityTxt pathGuard fallback = .ok published) :
    (∀ path body, DocumentAt mapping securityTxt path body → ¬ OnMetadataPath assembly path) ∧
    ∀ path method route', published.routes.resolve path method = .ok route' →
      (∃ body, DocumentAt mapping securityTxt path body ∧ route' = .securityTxt body) ∨
      (∀ body, ¬ DocumentAt mapping securityTxt path body) ∧
        ∃ route, route' = .resource route ∧
          Answer assembly ⟨metadataNotFound, assembly.endpoints⟩ fallback path route := by
  obtain ⟨-, contributions, document, hall, hdocument, hroutes⟩ := buildRouter_ok hp
  obtain ⟨hpublisher, hpaths, hbranches⟩ := collected_of_hosts registry hh (hmapping ▸ hall)
  have hs := sound_of_built registry hh.built
  have hfree := document_free hdocument
  have hon : ∀ path, path ∈ contributions.metadataPaths ↔ OnMetadataPath assembly path := by
    intro path
    simp [hpaths, OnMetadataPath]
  have htable : Table (registrations contributions document) _ _ _ := table_of_registrations
    (fun path hmem => by
      obtain ⟨endpoint, he, rfl⟩ := (hon path).mp hmem
      exact hs.endpoints endpoint he)
    (fun branch hb => hs.mounts branch (hbranches ▸ hb)) fun entry he => (hfree entry he).1
  refine ⟨fun path body hd hm => ?_, fun path method route' hr => ?_⟩
  · have hentry := (document_iff hdocument path body).mpr hd
    exact (hfree (path, body) hentry).2 ((hon path).mpr hm)
  have hselects := router _ _ _ _ hroutes registrations_any path method route' hr
  have hnone : (∀ rule' : PublishedRoute C (Branch C), (path, rule') ∉
      owned contributions.publisher contributions.metadataPaths document) →
        ¬ OnMetadataPath assembly path ∧ ∀ body, ¬ DocumentAt mapping securityTxt path body := by
    intro hno
    refine ⟨fun hm => hno _ (mem_owned.mpr (.inl ⟨(hon path).mpr hm, rfl⟩)), fun body hd => ?_⟩
    exact hno _ (mem_owned.mpr (.inr ⟨body, (document_iff hdocument path body).mpr hd, rfl⟩))
  cases found_of_selects htable hselects with
  | owned hmem =>
    rcases mem_owned.mp hmem with ⟨hpath, rfl⟩ | ⟨body, hentry, rfl⟩
    · have hm := (hon path).mp hpath
      refine .inr ⟨fun body hd => ?_, _, rfl, hpublisher ▸ .metadata hm⟩
      exact (hfree _ ((document_iff hdocument path body).mpr hd)).2 hpath
    · exact .inl ⟨body, (document_iff hdocument path body).mp hentry, rfl⟩
  | mount hno hmem hc =>
    obtain ⟨branch, hb, heq⟩ := List.mem_map.mp hmem
    cases heq
    obtain ⟨hm, hd⟩ := hnone hno
    exact .inr ⟨hd, _, rfl, .branch hm (hbranches ▸ hb) hc⟩
  | fallback hno hcovers =>
    obtain ⟨hm, hd⟩ := hnone hno
    refine .inr ⟨hd, _, rfl, .fallback hm fun branch hb => ?_⟩
    exact hcovers _ (List.mem_map.mpr ⟨branch, hbranches ▸ hb, rfl⟩)

variable [HasScopes C] [ResourceServerLib] [ProxyRouterCrate]

/-- The published server beside the assembled one, for one request. -/
structure Beside (mapping : BasedMapping) (securityTxt : Option Bytes)
    (assembly : ResourceAssembly (Branch C)) (server : AssembledResources C)
    (published : ServerRoutes C (Branch C)) (early : Earlies C) (w : World C) : Prop where
  denied : ∀ reason, published.resolve w = .error reason → published.serve early w =
    ⟨.failed ⟨.httpStatus (resolveErrorStatus reason).code, reason.display⟩, ⟨w, none⟩, []⟩
  document : ∀ route body, published.resolve w = .ok route →
    DocumentAt mapping securityTxt w.session.reqHeader.uri.path body →
      Disclosed published early body w ((securityFilter body).run w)
  apart : ∀ path body, DocumentAt mapping securityTxt path body → ¬ OnMetadataPath assembly path
  resources : ∀ route route', published.resolve w = .ok route → server.resolve w = .ok route' →
    (∀ body, ¬ DocumentAt mapping securityTxt w.session.reqHeader.uri.path body) →
      Agrees published server early w

/-- A server that installs the resources itself answers its document in public, and every
other request that both routers accept as the assembled server does. -/
theorem published_server_agrees (dispatches : RouterDispatches) (router : RouterContract)
    (registry : RegistryContract) (hh : Hosts assembly resources) {mapping : BasedMapping}
    (hmapping : assembly.metadataMapping = mapping.toPublicUrlMapping) {fallback : OtherProxy C}
    {pathGuard pathGuard' : RouteGuardCrate.GuardConfig} {server : AssembledResources C}
    (ha : assembleRouter assembly fallback pathGuard = .ok server) {securityTxt : Option Bytes}
    {published : ServerRoutes C (Branch C)}
    (hp : buildRouter (routed resources) mapping securityTxt pathGuard' (.inl fallback) =
      .ok published) (early : Earlies C) (w : World C) :
    Beside mapping securityTxt assembly server published early w := by
  obtain ⟨-, hassemble⟩ := assembleRouter_ok ha
  obtain ⟨hapart, hroute⟩ := published_route router registry hh hmapping hp
  have hs := sound_of_built registry hh.built
  constructor
  · exact fun reason hr => published_denied dispatches hr
  · intro route body hr hd
    rcases hroute _ _ _ hr with ⟨body', hd', rfl⟩ | ⟨hno, -⟩
    · obtain rfl : body = body' := Option.some.inj (hd.1.symm.trans hd'.1)
      exact disclosed dispatches hr
    · exact absurd hd (hno body)
  · exact hapart
  · intro route route' hr hr' hno
    rcases hroute _ _ _ hr with ⟨body, hd, -⟩ | ⟨-, branch, rfl, hanswer⟩
    · exact absurd hd (hno body)
    · have hanswer' := answer_of_resolve router hs hassemble hr'
      obtain rfl := answer_unique (hs.apart registry) hanswer hanswer'
      exact agrees_of_routes dispatches hr hr'

end Servers

section Application

local instance : RouteGuardCrate := referenceGuard
local instance : ResourceRegistryCrate := referenceRegistry
local instance : ProxyRouterCrate := referenceRouter
local instance : ResourceServerLib := ⟨none, .client .insufficientScope "insufficient scope"⟩

@[reducible] def publicationCrate : HttpCrate where
  headerValue text := some ⟨text⟩
  parseUri text :=
    if text = "https://api.example.com/.well-known/security.txt" then
      some ⟨some "https", some "api.example.com", some ⟨"/.well-known/security.txt", none⟩⟩
    else gatewayCrate.parseUri text

local instance : HttpCrate := publicationCrate

def originMapping : BasedMapping where
  toPublicUrlMapping := directMapping
  publicBase := ⟨some "https", some "api.example.com", some ⟨"/", none⟩⟩

def appResources : List (BoundResource String) :=
  [namedBound "/app" "app", namedBound "/apps" "apps"]

theorem registration_loops_agree_app : LoopsAgree Unit directMapping appResources ∧
    ∃ contributions, Contributions.addAll (C := Unit) directMapping .new appResources =
      .ok contributions :=
  ⟨registration_loops_agree reference_registry directMapping appResources, _, rfl⟩

theorem pairAssembly_installed : Hosts pairAssembly pairResources := by
  have hreports : (ResourceAssembly.new directMapping).register .inr reportsDefinition
      reportsValidator BoundaryAgreement.gatewayGuard.policy .idle = .ok reportsAssembly := rfl
  have hissued : reportsAssembly.register .inr issuedBound.definition issuedValidator
      BoundaryAgreement.gatewayGuard.policy .idle = .ok pairAssembly := rfl
  exact hosts_register (hosts_register (.new directMapping) rfl hreports) rfl hissued

def documentRequest : World Rfc9068AccessTokenClaims :=
  { BoundaryAgreement.gatewayRequest with
    session := { BoundaryAgreement.gatewayRequest.session with
      reqHeader := { BoundaryAgreement.gatewayRequest.session.reqHeader with
        uri := ⟨none, none, some ⟨"/.well-known/security.txt", none⟩⟩ } } }

theorem published_server_agrees_gateway : ∃ server published,
    assembleRouter pairAssembly AssembledServer.notFound () = .ok server ∧
      buildRouter (routed pairResources) originMapping (some [67]) ()
        (.inl AssembledServer.notFound) = .ok published ∧
      Disclosed published idleEarly [67] documentRequest
        ((securityFilter [67]).run documentRequest) ∧
      (published.serve idleEarly BoundaryAgreement.gatewayRequest).exit = .done false ∧
      Agrees published server idleEarly BoundaryAgreement.gatewayRequest := by
  obtain ⟨server, hserver, route', hroute'⟩ : ∃ server,
      assembleRouter pairAssembly AssembledServer.notFound () = .ok server ∧
      ∃ route, server.resolve BoundaryAgreement.gatewayRequest = .ok route := ⟨_, rfl, _, rfl⟩
  obtain ⟨published, hpublished, ⟨route, hroute⟩, ⟨resource, hresource⟩, hexit⟩ : ∃ published,
      buildRouter (routed pairResources) originMapping (some [67]) ()
        (.inl AssembledServer.notFound) = .ok published ∧
      (∃ route, published.resolve documentRequest = .ok route) ∧
      (∃ route, published.resolve BoundaryAgreement.gatewayRequest = .ok route) ∧
      (published.serve idleEarly BoundaryAgreement.gatewayRequest).exit = .done false :=
    ⟨_, rfl, ⟨_, rfl⟩, ⟨_, rfl⟩, rfl⟩
  have h := published_server_agrees reference_dispatches reference_router reference_registry
    pairAssembly_installed rfl hserver hpublished idleEarly
  have hno : ∀ body, ¬ DocumentAt originMapping (some [67]) "/edge/app/items" body := by
    rintro body ⟨-, hpath⟩
    have hsecurity : securityPath originMapping = .ok "/.well-known/security.txt" := rfl
    rw [hsecurity] at hpath
    exact absurd (Except.ok.inj hpath) (by decide)
  exact ⟨server, published, hserver, hpublished,
    (h documentRequest).document route [67] hroute ⟨rfl, rfl⟩, hexit,
    (h BoundaryAgreement.gatewayRequest).resources resource route' hresource hroute' hno⟩

end Application

end ServerPublication
