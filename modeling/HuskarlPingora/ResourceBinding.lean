import HuskarlPingora.MetadataPublisher

/-! # Binding one resource

A definition, a validator and a policy are bound into a proxy and the endpoint that
publishes its metadata. The definition supplies the only URL mapping. -/
namespace ResourceBinding

open HttpModel ResourceRules ResourceErrors ResourceContext ResourceGuard ResourceProxy
open MetadataPublisher TracedHooks

structure ResourceDefinition where
  resource : String
  audiences : List String
  mapping : PublicUrlMapping
  incomingMount : String
  metadataUri : Uri

inductive ResourceError where
  | mapping
  | metadataUrlMismatch (configured derived : String)
  | serialization (source : String)
  | other (name : String)
  deriving DecidableEq, Repr

/-- What `ResourceDefinition::prepare` returns. The publication is at the definition's
own metadata URI. -/
structure Prepared (definition : ResourceDefinition) where
  validatorMetadata : ValidatorMetadata
  publicationUri : Uri
  body : Bytes
  canonical : publicationUri = definition.metadataUri

/-- A token validator, with what `prepare` makes of its metadata. -/
structure AccessTokenValidator (C : Type) where
  validateRequest : HeaderMap → Method → Uri → Option Bytes → ValidationResult C
  prepare : (definition : ResourceDefinition) → List String →
    Except ResourceError (Prepared definition)

structure ResourceMetadataConfig where
  resourceUri : Uri
  resourceOrigin : String
  resourcePath : String
  endpointUri : Uri
  body : Bytes

variable {C : Type}

def ConfigError.ofPrepare : ResourceError → ConfigError
  | .metadataUrlMismatch configured derived => .resourceMetadataUrlMismatch configured derived
  | .serialization source => .metadata source
  | _ => .resourceMetadataDocumentUnavailable

def resourceOrigin (uri : Uri) : String := uri.scheme.getD "" ++ "://" ++ uri.authority.getD ""

section Binding

variable [HttpCrate]

def forResource (validator : AccessTokenValidator C) (policy : ResourcePolicy C)
    (definition : ResourceDefinition) : Except ConfigError (Guard C × ResourceMetadataConfig) :=
  match HttpCrate.parseUri definition.resource with
  | none => .error (.invalidResourceIdentifier definition.resource "not a valid URI")
  | some resourceUri =>
    match validator.prepare definition policy.scopesSupported with
    | .error error => .error (ConfigError.ofPrepare error)
    | .ok prepared =>
      .ok ({ validator := validator.validateRequest
             metadata := prepared.validatorMetadata
             policy := policy
             requestMapping := some definition.mapping },
        { resourceUri := resourceUri
          resourceOrigin := resourceOrigin resourceUri
          resourcePath := resourceUri.path
          endpointUri := prepared.publicationUri
          body := prepared.body })

def splitResourceMetadata (config : ResourceMetadataConfig) : ResourceMetadataEndpoint where
  resourceUri := config.resourceUri
  resourceOrigin := config.resourceOrigin
  endpointUri := config.endpointUri
  incomingUri := config.endpointUri
  body := config.body

def protectedResource (definition : ResourceDefinition) (validator : AccessTokenValidator C)
    (policy : ResourcePolicy C) (inner : Inner C) (errorBody : ErrorDetails → ErrorBodyResponse) :
    Except ConfigError (ProtectedResourceProxy C × ResourceMetadataEndpoint) := do
  let (guard, config) ← forResource validator policy definition
  return (⟨⟨inner, guard, errorBody⟩, config.resourcePath, definition.audiences⟩,
    splitResourceMetadata config)

structure Bound (definition : ResourceDefinition) (proxy : ProtectedResourceProxy C)
    (metadata : ResourceMetadataEndpoint) : Prop where
  mapping : proxy.auth.guard.requestMapping = some definition.mapping
  audiences : proxy.audiences = definition.audiences
  path : ∃ uri, HttpCrate.parseUri definition.resource = some uri ∧ proxy.resourcePath = uri.path
  metadata : metadata.endpointUri = definition.metadataUri

theorem protectedResource_bound {definition : ResourceDefinition}
    {validator : AccessTokenValidator C} {policy : ResourcePolicy C} {inner : Inner C}
    {errorBody : ErrorDetails → ErrorBodyResponse}
    {proxy : ProtectedResourceProxy C} {metadata : ResourceMetadataEndpoint}
    (h : protectedResource definition validator policy inner errorBody = .ok (proxy, metadata)) :
    Bound definition proxy metadata := by
  obtain ⟨⟨guard, config⟩, hguard, hpair⟩ := bind_ok h
  cases hpair
  unfold forResource at hguard
  cases huri : HttpCrate.parseUri definition.resource with
  | none => simp [huri] at hguard
  | some uri =>
    cases hprepare : validator.prepare definition policy.scopesSupported with
    | error e => simp [huri, hprepare] at hguard
    | ok prepared =>
      simp only [huri, hprepare, Except.ok.injEq, Prod.mk.injEq] at hguard
      obtain ⟨rfl, rfl⟩ := hguard
      exact ⟨rfl, rfl, ⟨uri, huri, rfl⟩, prepared.canonical⟩

end Binding

/-- A binding carried to the routing boundary. Its parts come from one definition. -/
structure BoundResource (R : Type) where
  definition : ResourceDefinition
  proxy : R
  metadata : ResourceMetadataEndpoint
  canonical : metadata.endpointUri = definition.metadataUri

def BoundResource.intoRoute {P R : Type} (route : P → R) (bound : BoundResource P) :
    BoundResource R :=
  { bound with proxy := route bound.proxy }

/-- The `error_body` of the source. Definition and prepared metadata are retained. -/
def BoundResource.withErrorBody (bound : BoundResource (ProtectedResourceProxy C))
    (errorBody : ErrorDetails → ErrorBodyResponse) : BoundResource (ProtectedResourceProxy C) where
  definition := bound.definition
  proxy := bound.proxy.withErrorBody errorBody
  metadata := bound.metadata
  canonical := bound.canonical

def BoundResource.build [HttpCrate] (definition : ResourceDefinition)
    (validator : AccessTokenValidator C) (policy : ResourcePolicy C) (inner : Inner C)
    (errorBody : ErrorDetails → ErrorBodyResponse) :
    Except ConfigError (BoundResource (ProtectedResourceProxy C)) :=
  match h : protectedResource definition validator policy inner errorBody with
  | .error error => .error error
  | .ok (proxy, metadata) =>
    .ok ⟨definition, proxy, metadata, (protectedResource_bound h).metadata⟩

theorem build_bound [HttpCrate] {definition : ResourceDefinition}
    {validator : AccessTokenValidator C} {policy : ResourcePolicy C} {inner : Inner C}
    {errorBody : ErrorDetails → ErrorBodyResponse}
    {bound : BoundResource (ProtectedResourceProxy C)}
    (h : BoundResource.build definition validator policy inner errorBody = .ok bound) :
    bound.definition = definition ∧ Bound definition bound.proxy bound.metadata := by
  unfold BoundResource.build at h
  split at h
  · cases h
  · rename_i proxy metadata hp
    cases h
    exact ⟨rfl, protectedResource_bound hp⟩

end ResourceBinding
