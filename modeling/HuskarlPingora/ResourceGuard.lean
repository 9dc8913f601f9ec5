import HuskarlPingora.ResourceContext

/-! # The token guard

`Guard` resolves the rule of a request, asks the validator, and applies the rule's
checks. The decision comes with the category its counter is labelled with. -/
namespace ResourceGuard

open HttpModel RouteResolution ResourceRules ResourceErrors ResourceContext TracedHooks

inductive CheckOutcome where
  | forward | pathConfusion | policyDenied | unauthenticated | invalidToken | expired
  | unrecognizedIssuer | bindingError | nonceRequired | insufficientScope | invalidRequest
  | serverError
  deriving DecidableEq, Repr

def CheckOutcome.fromValidation : ValidationOutcome → CheckOutcome
  | .callError => .serverError
  | .bindingError => .bindingError
  | .nonceRequired => .nonceRequired
  | .expired => .expired
  | .unrecognizedIssuer => .unrecognizedIssuer
  | .extractError => .invalidRequest
  | _ => .invalidToken

def CheckOutcome.asStr : CheckOutcome → String
  | .forward => "forward"
  | .pathConfusion => "path_confusion"
  | .policyDenied => "policy_denied"
  | .unauthenticated => "unauthenticated"
  | .invalidToken => "invalid_token"
  | .expired => "expired"
  | .unrecognizedIssuer => "unrecognized_issuer"
  | .bindingError => "binding_error"
  | .nonceRequired => "nonce_required"
  | .insufficientScope => "insufficient_scope"
  | .invalidRequest => "invalid_request"
  | .serverError => "server_error"

/-- The trusted URL mapping of the resource-server crate. Either direction may fail. -/
structure PublicUrlMapping where
  publicUrl : Uri → Option Uri
  incomingUri : Uri → Option Uri

structure Guard (C : Type) where
  validator : HeaderMap → Method → Uri → Option Bytes → ValidationResult C
  metadata : ValidatorMetadata
  policy : ResourcePolicy C
  requestMapping : Option PublicUrlMapping

variable {C : Type}

def Guard.metricsName (self : Guard C) : Option String := self.policy.metricsName

/-- Carries no scope: the refusal is made before any rule is trusted. -/
def badRequestWithMetadata (metadata : ValidatorMetadata) (msg : String) : Outcome C :=
  .deny
    { details := .fromChallenge (invalidRequest msg).challenge none
      status := .badRequest
      challenges := metadata.challenges (some (invalidRequest msg)) none none
      dpopNonce := none
      retryAfter := none }

def routeDenial (metadata : ValidatorMetadata) (reason : ResolveError) :
    Outcome C × CheckOutcome :=
  let (challenges, outcome) := match reason.kind with
    | .invalidInput =>
      (metadata.challenges (some (invalidRequest reason.message)) none none,
        CheckOutcome.pathConfusion)
    | .policyDenied => ([], CheckOutcome.policyDenied)
    | .internal => ([], CheckOutcome.serverError)
  (.deny
    { details :=
        if reason.kind = .invalidInput then
          .fromChallenge (invalidRequest reason.message).challenge none
        else .empty
      status := resolveErrorStatus reason
      challenges := challenges
      dpopNonce := none
      retryAfter := none }, outcome)

def effectiveRequestUri (self : Guard C) (uri : Uri) : Option Uri :=
  match self.requestMapping with
  | none => some uri
  | some mapping => mapping.publicUrl uri

def denyError (metadata : ValidatorMetadata) (error : Rfc6750Error) (scope : Option String)
    (dpopNonce : Option String) : Outcome C :=
  let challenge := error.challenge
  let rejection := metadata.rejectionFrom error challenge scope
  .deny
    { details := .fromChallenge challenge scope
      status := rejection.status
      challenges := rejection.wwwAuthenticate
      dpopNonce := dpopNonce
      retryAfter := rejection.retryAfter }

/-- The binding and the rule narrow audiences independently. -/
def audienceError (rule : Rule C) (validated : ValidatedRequest C)
    (resourceAudiences : Option (List String)) : Option String :=
  if resourceAudiences.any fun audiences => !audiences.any (validated.aud.contains ·) then
    some "The access token audience does not match the protected resource"
  else if !rule.audiences.isEmpty && !rule.audiences.any (validated.aud.contains ·) then
    some "The access token audience does not match"
  else none

variable [HasScopes C] [ResourceServerLib]

def checkRule (rule : Rule C) (validated : ValidatedRequest C) (scopeParam : Option String)
    (dpopNonce : Option String) (metadata : ValidatorMetadata)
    (resourceAudiences : Option (List String)) : Option (Outcome C × CheckOutcome) :=
  match audienceError rule validated resourceAudiences with
  | some message =>
    some (denyError metadata (invalidToken message) scopeParam dpopNonce, .invalidToken)
  | none =>
    if rule.scopes.any fun required => !HasScopes.hasScope validated.claims required then
      some (denyError metadata ResourceServerLib.insufficientScope scopeParam dpopNonce,
        .insufficientScope)
    else
      match rule.check with
      | none => none
      | some check =>
        match check validated with
        | .ok _ => none
        | .error (.forbidden description) =>
          some (denyError metadata (customCheckError .insufficientScope description) none dpopNonce,
            .insufficientScope)
        | .error (.invalidToken description) =>
          some (denyError metadata (customCheckError .invalidToken description) none dpopNonce,
            .invalidToken)

def decideValidated (rule : Rule C) (result : ValidationResult C) (metadata : ValidatorMetadata)
    (resourceAudiences : Option (List String)) : Outcome C × CheckOutcome :=
  let scopeParam := rule.scopeParam
  let dpopNonce := result.dpopNonce
  match result.outcome with
  | .error err =>
    let challenge := err.challenge
    let rejection := metadata.rejectionFrom err.toRfc6750Error challenge scopeParam
    (.deny
      { details := .fromChallenge challenge scopeParam
        status := rejection.status
        challenges := rejection.wwwAuthenticate
        dpopNonce := dpopNonce
        retryAfter := rejection.retryAfter },
      .fromValidation (err.validationOutcome challenge))
  | .ok none =>
    match rule.token with
    | .required =>
      (.deny
        { details := .empty
          status := .unauthorized
          challenges := metadata.unauthenticatedChallenges scopeParam
          dpopNonce := dpopNonce
          retryAfter := none }, .unauthenticated)
    | .optional | .none => (.forward none dpopNonce rule.stripCredentials, .forward)
  | .ok (some validated) =>
    match checkRule rule validated scopeParam dpopNonce metadata resourceAudiences with
    | some denied => denied
    | none => (.forward (some validated) dpopNonce rule.stripCredentials, .forward)

def checkRequestCategorized (self : Guard C) (headers : HeaderMap) (method : Method) (uri : Uri)
    (clientCertDer : Option Bytes) (metadata : ValidatorMetadata)
    (resourceAudiences : Option (List String)) : ResourceHook C (Outcome C × CheckOutcome) := do
  match self.policy.routes.resolve uri.path method with
  | .error reason => return routeDenial metadata reason
  | .ok rule =>
    if rule.token = .none then return (.forward none none rule.stripCredentials, .forward)
    else
      match effectiveRequestUri self uri with
      | none => return (badRequestWithMetadata metadata "Invalid request URI", .invalidRequest)
      | some fullUri =>
        emit (.validateRequest headers method fullUri clientCertDer)
        return decideValidated rule (self.validator headers method fullUri clientCertDer) metadata
          resourceAudiences

def checkForProxy (self : Guard C) (audiences : Option (List String)) :
    ResourceHook C (Outcome C × CheckOutcome) := do
  let session := (← read).session
  let (outcome, category) ← checkRequestCategorized self session.reqHeader.headers
    session.reqHeader.method session.reqHeader.uri session.clientCertDer self.metadata audiences
  emitCounter "huskarl.resource.check" category.asStr self.metricsName
  return (outcome, category)

def checkRequestWithMetadata (self : Guard C) (headers : HeaderMap) (method : Method) (uri : Uri)
    (clientCertDer : Option Bytes) (metadata : ValidatorMetadata)
    (resourceAudiences : Option (List String)) : ResourceHook C (Outcome C) := do
  let (outcome, category) ← checkRequestCategorized self headers method uri clientCertDer metadata
    resourceAudiences
  emitCounter "huskarl.resource.check" category.asStr self.metricsName
  return outcome

def checkRequest (self : Guard C) (headers : HeaderMap) (method : Method) (uri : Uri)
    (clientCertDer : Option Bytes) : ResourceHook C (Outcome C) :=
  checkRequestWithMetadata self headers method uri clientCertDer self.metadata none

def check (self : Guard C) : ResourceHook C (Outcome C) := do
  let session := (← read).session
  checkRequestWithMetadata self session.reqHeader.headers session.reqHeader.method
    session.reqHeader.uri session.clientCertDer self.metadata none

end ResourceGuard
