import HuskarlPingora.ResourceBinding
import Mathlib.Data.List.Dedup
import Mathlib.Data.List.Sort

/-! # Assembly of resource branches and metadata routes

The assembly collects bound resources, then turns every mount into route patterns and
every metadata path into a public exception. -/
namespace Assembly

open HttpModel RouteResolution ResourceRules ResourceErrors ResourceContext ResourceGuard
open ResourceProxy MetadataPublisher ResourceBinding TracedHooks

/-- The registry of the resource-server crate, set up to route by path and query. -/
class ResourceRegistryCrate where
  Registry : Type
  new : Registry
  register : Registry → ResourceDefinition → PublicUrlMapping →
    Except ResourceError (Registry × Uri)

inductive AssemblyError where
  | registration (error : ResourceError)
  | configuration (error : ConfigError)
  deriving DecidableEq, Repr

inductive Route (C R : Type) where
  | branch (proxy : R)
  | metadata (publisher : ResourceMetadataProxy C)

variable {C R : Type}

def hasBrace (path : String) : Bool := path.toList.any fun c => c = '{' || c = '}'

/-- The elements of a `BTreeSet` in iteration order. -/
def ordered (paths : List String) : List String := paths.dedup.insertionSort (· ≤ ·)

def slash (mount : String) : String :=
  if "/".toList.isSuffixOf mount.toList then mount else mount ++ "/"

/-- Reserved metadata paths replace the exact mount routes they coincide with. -/
def mountPatterns (paths : List String) (mount : String) : List String :=
  ordered ([mount, slash mount, slash mount ++ "{*rest}"].filter fun path => !paths.contains path)

section Registration

variable [ResourceRegistryCrate]

structure ResourceAssembly (R : Type) where
  registry : ResourceRegistryCrate.Registry
  metadataMapping : PublicUrlMapping
  branches : List (String × R)
  endpoints : List ResourceMetadataEndpoint
  metricsName : Option String

namespace ResourceAssembly

def new (metadataMapping : PublicUrlMapping) : ResourceAssembly R :=
  ⟨ResourceRegistryCrate.new, metadataMapping, [], [], none⟩

def withMetricsName (self : ResourceAssembly R) (name : String) : ResourceAssembly R :=
  { self with metricsName := some name }

def registerBound (self : ResourceAssembly R) (bound : BoundResource R) :
    Except AssemblyError (ResourceAssembly R) :=
  let mount := bound.definition.incomingMount
  match ResourceRegistryCrate.register self.registry bound.definition self.metadataMapping with
  | .error error => .error (.registration error)
  | .ok (registry, incoming) =>
    if hasBrace mount || hasBrace incoming.path then
      .error (.configuration (.route mount "resource mounts must be literal Pingora paths"))
    else
      match bound.metadata.withMapping self.metadataMapping with
      | none => .error (.registration .mapping)
      | some endpoint =>
        .ok { self with
          registry := registry
          branches := self.branches ++ [(mount, bound.proxy)]
          endpoints := self.endpoints ++ [endpoint] }

def register [HttpCrate] (self : ResourceAssembly R) (route : ProtectedResourceProxy C → R)
    (definition : ResourceDefinition) (validator : AccessTokenValidator C)
    (policy : ResourcePolicy C) (inner : Inner C) : Except AssemblyError (ResourceAssembly R) :=
  match BoundResource.build definition validator policy inner fun _ => ⟨[], none⟩ with
  | .error error => .error (.configuration error)
  | .ok bound => self.registerBound (bound.intoRoute route)

def paths (self : ResourceAssembly R) : List String :=
  ordered (self.endpoints.map fun endpoint => endpoint.incomingUri.path)

def registrations (self : ResourceAssembly R) (publisher : ResourceMetadataProxy C) :
    List (PathRegistration (Route C R)) :=
  (self.branches.map fun branch => ⟨mountPatterns self.paths branch.1, .any, .branch branch.2⟩) ++
    self.paths.map fun path => ⟨[path], .any, .metadata publisher⟩

end ResourceAssembly

end Registration

structure ResourceSelector (C R : Type) where
  routes : RuleRouter (Route C R)
  metricsName : Option String

/-- The selector of the assembled router; the fallback is also the router's own. -/
def ResourceAssembly.assemble [ResourceRegistryCrate] [RouteGuardCrate]
    (self : ResourceAssembly R) (fallback : R) (pathGuard : RouteGuardCrate.GuardConfig) :
    Except AssemblyError (ResourceSelector C R) :=
  match publishAll (.new metadataNotFound) self.endpoints with
  | .error error => .error (.configuration error)
  | .ok publisher =>
    match RouteGuardCrate.fromRegistrations (.branch fallback) pathGuard
        (self.registrations publisher) with
    | .error error => .error (.configuration (.ofRouter error))
    | .ok routes => .ok ⟨routes, self.metricsName⟩

def ResourceSelector.select (self : ResourceSelector C R) :
    ResourceHook C (Option (Route C R)) := do
  let req := (← read).session.reqHeader
  let resolved := self.routes.resolve req.uri.path req.method
  emitCounter "huskarl.pingora.resource.route"
    (match resolved with
      | .error reason => RouteResolution.routeDenial reason
      | .ok _ => "selected")
    self.metricsName
  match resolved with
  | .error reason => fail ⟨.httpStatus (resolveErrorStatus reason).code, reason.display⟩
  | .ok route => return some route

end Assembly
