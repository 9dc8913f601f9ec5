import HuskarlPingora.ResourceProxy

/-! # Publication of resource metadata

A publisher answers for the endpoints it was given, matched by path and query, and
leaves every other request to its inner proxy. -/
namespace MetadataPublisher

open HttpModel RouteResolution ResourceContext ResourceGuard ResourceResponse TracedHooks

inductive ConfigError where
  | route (pattern reason : String)
  | publicRuleWithConstraints (pattern : String)
  | metadata (source : String)
  | resourceMetadataDocumentUnavailable
  | invalidResourceIdentifier (resource reason : String)
  | resourceMetadataOriginMismatch (endpoint expectedOrigin : String)
  | resourceMetadataUrlMismatch (configured derived : String)
  | duplicateResourceMetadataEndpoint (pathAndQuery : String)
  | nonCanonicalPattern (pattern : String)
  | nonCanonicalCasePattern (pattern : String)
  deriving DecidableEq, Repr

def ConfigError.ofRouter : RuleRouterError → ConfigError
  | .route pattern reason => .route pattern reason
  | .nonCanonical pattern => .nonCanonicalPattern pattern
  | .nonCanonicalCase pattern => .nonCanonicalCasePattern pattern
  | .emptyMethodSet pattern =>
    .route pattern "registration matches no method: its method set is empty"
  | .emptyPatternSet => .route "" "registration has no route patterns"
  | .tooManyRegistrations => .route "" "too many route registrations"

structure ResourceMetadataEndpoint where
  resourceUri : Uri
  resourceOrigin : String
  endpointUri : Uri
  incomingUri : Uri
  body : Bytes
  deriving DecidableEq, Repr

structure ResourcePublication where
  uri : Uri
  body : Bytes
  deriving DecidableEq, Repr

namespace ResourceMetadataEndpoint

def resource (self : ResourceMetadataEndpoint) : Uri := self.resourceUri
def uri (self : ResourceMetadataEndpoint) : Uri := self.endpointUri

def publication (self : ResourceMetadataEndpoint) : ResourcePublication :=
  ⟨self.endpointUri, self.body⟩

def pathAndQuery (self : ResourceMetadataEndpoint) : Option PathAndQuery :=
  self.incomingUri.pathAndQuery

/-- Only the dispatch coordinates change; the advertised URL stays. -/
def withMapping (self : ResourceMetadataEndpoint) (mapping : PublicUrlMapping) :
    Option ResourceMetadataEndpoint := do
  let incoming ← mapping.incomingUri self.endpointUri
  return { self with incomingUri := incoming }

def matchesUri (self : ResourceMetadataEndpoint) (uri : Uri) : Bool :=
  decide (uri.pathAndQuery = self.pathAndQuery)

end ResourceMetadataEndpoint

structure ResourceMetadataProxy (C : Type) where
  /-- The request filter of the inner proxy. -/
  inner : ResourceHook C Bool
  endpoints : List ResourceMetadataEndpoint

variable {C : Type}

namespace ResourceMetadataProxy

def new (inner : ResourceHook C Bool) : ResourceMetadataProxy C := ⟨inner, []⟩

def publish (self : ResourceMetadataProxy C) (endpoint : ResourceMetadataEndpoint) :
    Except ConfigError (ResourceMetadataProxy C) :=
  match self.endpoints.head?.filter fun configured =>
      decide (configured.resourceOrigin ≠ endpoint.resourceOrigin) with
  | some configured => .error (.resourceMetadataOriginMismatch endpoint.endpointUri.toText
      configured.resourceOrigin)
  | none =>
    if self.endpoints.any fun configured => configured.pathAndQuery = endpoint.pathAndQuery then
      .error (.duplicateResourceMetadataEndpoint
        ((endpoint.pathAndQuery.map PathAndQuery.toText).getD ""))
    else .ok { self with endpoints := self.endpoints ++ [endpoint] }

def requestFilter [HttpCrate] (self : ResourceMetadataProxy C) : ResourceHook C Bool := do
  let req := (← read).session.reqHeader
  match self.endpoints.find? fun endpoint => endpoint.matchesUri req.uri with
  | some endpoint => do
    if req.method = .get || req.method = .head then
      writeResourceMetadataResponse endpoint.body (decide (req.method = .get))
    else writeMethodNotAllowed "GET, HEAD"
    return true
  | none => self.inner

end ResourceMetadataProxy

/-- Pingora's own error response. Of the header it builds only the status is kept. -/
def respondError (status : StatusCode) : ResourceHook C Unit := do
  emit (.respondError status.code)
  let result ← await (← read).session.writeHeader
  attempt result
  update (markWritten (.build status))

def metadataNotFound : ResourceHook C Bool := do
  respondError .notFound
  return true

theorem publish_ok {proxy proxy' : ResourceMetadataProxy C} {endpoint : ResourceMetadataEndpoint}
    (h : proxy.publish endpoint = .ok proxy') :
    proxy' = { proxy with endpoints := proxy.endpoints ++ [endpoint] } := by
  unfold ResourceMetadataProxy.publish at h
  split at h
  · cases h
  · split at h
    · cases h
    · cases h
      rfl

def publishAll (self : ResourceMetadataProxy C) :
    List ResourceMetadataEndpoint → Except ConfigError (ResourceMetadataProxy C)
  | [] => .ok self
  | endpoint :: rest => do
    let published ← self.publish endpoint
    publishAll published rest

theorem publishAll_ok {endpoints : List ResourceMetadataEndpoint}
    {proxy proxy' : ResourceMetadataProxy C} (h : publishAll proxy endpoints = .ok proxy') :
    proxy' = { proxy with endpoints := proxy.endpoints ++ endpoints } := by
  induction endpoints generalizing proxy with
  | nil =>
    cases h
    simp
  | cons endpoint rest ih =>
    rw [publishAll] at h
    obtain ⟨published, hp, hrest⟩ := bind_ok h
    rw [ih hrest, publish_ok hp]
    simp

end MetadataPublisher
