import HuskarlPingora.GuardAuthorization
import HuskarlPingora.ResourceResponse

/-! # The resource-server adapters

`AuthProxy` decides a request and keeps the decision for later hooks.
`ProtectedResourceProxy` adds the boundary of one resource before it. -/
namespace ResourceProxy

open HttpModel ResourceRules ResourceErrors ResourceContext ResourceGuard ResourceResponse
open TracedHooks

/-- What an inner hook does besides its result. The nonce slot belongs to the adapter. -/
structure InnerEffect (C : Type) where
  session : Downstream → Downstream
  auth : AuthState C → AuthState C
  keeps_nonce : ∀ a, (auth a).dpopNonce = a.dpopNonce

structure Inner (C : Type) where
  requestFilter : InnerEffect C × Await (Except Error Bool)
  upstreamRequestFilter :
    InnerEffect C × (RequestHeader → RequestHeader) × Await (Except Error Unit)
  responseFilter : InnerEffect C × (ResponseHeader → ResponseHeader) × Await (Except Error Unit)

def Inner.idle {C : Type} : Inner C :=
  let keep : InnerEffect C := ⟨id, id, fun _ => rfl⟩
  ⟨(keep, .ready (.ok false)), (keep, id, .ready (.ok ())), (keep, id, .ready (.ok ()))⟩

structure AuthProxy (C : Type) where
  inner : Inner C
  guard : Guard C
  errorBody : ErrorDetails → ErrorBodyResponse

variable {C : Type}

/-- The `error_body` of the source: only the renderer is replaced. -/
def AuthProxy.withErrorBody (self : AuthProxy C) (errorBody : ErrorDetails → ErrorBodyResponse) :
    AuthProxy C where
  inner := self.inner
  guard := self.guard
  errorBody := errorBody

def InnerEffect.apply (effect : InnerEffect C) (w : World C) : World C :=
  { w with session := effect.session w.session, auth := effect.auth w.auth }

def innerRequestFilter (self : AuthProxy C) : ResourceHook C Bool := do
  emit (.innerRequestFilter (← read).auth)
  update self.inner.requestFilter.1.apply
  let result ← await self.inner.requestFilter.2
  attempt result

def innerUpstreamRequestFilter (self : AuthProxy C) : ResourceHook C Unit := do
  let w ← read
  emit (.innerUpstreamRequestFilter w.auth w.upstream)
  update self.inner.upstreamRequestFilter.1.apply
  update fun w => { w with upstream := self.inner.upstreamRequestFilter.2.1 w.upstream }
  let result ← await self.inner.upstreamRequestFilter.2.2
  attempt result

def innerResponseFilter (self : AuthProxy C) : ResourceHook C Unit := do
  let w ← read
  emit (.innerResponseFilter w.auth w.response)
  update self.inner.responseFilter.1.apply
  updateResponse self.inner.responseFilter.2.1
  let result ← await self.inner.responseFilter.2.2
  attempt result

def authorizationCounter (self : AuthProxy C) (outcome : String) : ResourceHook C Unit :=
  emitCounter "huskarl.pingora.resource.authorization" outcome self.guard.metricsName

def denialDetails (denial : Denial) : ErrorDetails where
  status := denial.status
  errorCode := denial.details.errorCode
  errorDescription := denial.details.errorDescription
  requiredScopes := denial.details.requiredScopes
  challenges := denial.challenges

def renderErrorBody (self : AuthProxy C) (details : ErrorDetails) :
    ResourceHook C ErrorBodyResponse := do
  emit (.errorBody details)
  return self.errorBody details

section Filters

variable [HttpCrate] [HasScopes C] [ResourceServerLib]

def authorize (self : AuthProxy C) (audiences : Option (List String)) : ResourceHook C Bool := do
  let (outcome, category) ← checkForProxy self.guard audiences
  authorizationCounter self category.asStr
  match outcome with
  | .forward token dpopNonce stripCredentials => do
    updateAuth fun _ => ⟨token, dpopNonce, stripCredentials⟩
    innerRequestFilter self
  | .deny denial => do
    let body ← renderErrorBody self (denialDetails denial)
    writeChallengeResponse denial.status denial.challenges denial.dpopNonce denial.retryAfter body
    return true

def requestFilter (self : AuthProxy C) : ResourceHook C Bool := authorize self none

omit [HttpCrate] [HasScopes C] [ResourceServerLib] in
def upstreamRequestFilter (self : AuthProxy C) : ResourceHook C Unit := do
  if (← read).auth.stripCredentials then
    update fun w => { w with upstream := { w.upstream with
      headers := FieldMultimap.remove (FieldMultimap.remove w.upstream.headers authorizationName)
        dpopName } }
  else pure ()
  innerUpstreamRequestFilter self

omit [HasScopes C] [ResourceServerLib] in
/-- The inner hook decides first, and the status it leaves counts. Only a final header
takes the nonce. -/
def responseFilter (self : AuthProxy C) : ResourceHook C Unit := do
  innerResponseFilter self
  let w ← read
  if w.response.status.isInterim then return ()
  else
    match w.auth.dpopNonce with
    | none => return ()
    | some nonce => do
      updateAuth fun auth => { auth with dpopNonce := none }
      let value ← attempt (headerValue nonce "failed to set DPoP-Nonce header")
      updateResponse fun header => header.insertHeader dpopNonceName value

structure ProtectedResourceProxy (C : Type) where
  auth : AuthProxy C
  resourcePath : String
  audiences : List String

omit [HttpCrate] [HasScopes C] [ResourceServerLib] in
def ProtectedResourceProxy.withErrorBody (self : ProtectedResourceProxy C)
    (errorBody : ErrorDetails → ErrorBodyResponse) : ProtectedResourceProxy C where
  auth := self.auth.withErrorBody errorBody
  resourcePath := self.resourcePath
  audiences := self.audiences

omit [HttpCrate] [HasScopes C] [ResourceServerLib] in
def resourcePathMatches (resourcePath requestPath : String) : Bool :=
  if resourcePath = "/" || resourcePath = requestPath then true
  else if resourcePath.toList.isPrefixOf requestPath.toList then
    "/".toList.isSuffixOf resourcePath.toList ||
      "/".toList.isPrefixOf (requestPath.toList.drop resourcePath.toList.length)
  else false

def boundaryRefusal (effectiveUri : Option Uri) : StatusCode × String :=
  if effectiveUri.isNone then (.badRequest, "Invalid request URI")
  else (.forbidden, "Request outside protected resource")

def boundaryDetails (status : StatusCode) (description : String) : ErrorDetails :=
  ⟨status, none, some description, none, []⟩

def ProtectedResourceProxy.requestFilter (self : ProtectedResourceProxy C) :
    ResourceHook C Bool := do
  let effectiveUri := effectiveRequestUri self.auth.guard (← read).session.reqHeader.uri
  if effectiveUri.any fun uri => resourcePathMatches self.resourcePath uri.path then
    authorize self.auth (some self.audiences)
  else do
    authorizationCounter self.auth
      (if effectiveUri.isNone then "invalid_request" else "outside_resource")
    let (status, description) := boundaryRefusal effectiveUri
    let body ← renderErrorBody self.auth (boundaryDetails status description)
    writeChallengeResponse status [] none none body
    return true

end Filters

end ResourceProxy
