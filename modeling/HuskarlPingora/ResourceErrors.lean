import Mathlib.Algebra.Group.Nat.Defs
import HuskarlPingora.ResourceRules

/-! # Challenges and rejection details

The resource-server crate turns an error into `WWW-Authenticate` values. It sees an
error through the methods of `ToRfc6750Error`; what it renders is a parameter. -/
namespace ResourceErrors

open HttpModel ResourceRules

inductive TokenErrorCode where
  | invalidRequest | invalidToken | insufficientScope | invalidDPoPProof | useDPoPNonce
  | other (code : String)
  deriving DecidableEq, Repr

inductive TokenType where
  | bearer
  | dpop
  deriving DecidableEq, Repr

structure Duration where
  secs : ℕ
  nanos : ℕ
  secs_lt : secs < 2 ^ 64
  nanos_lt : nanos < 1000000000
  deriving DecidableEq, Repr

inductive TokenValidationError where
  | client (code : TokenErrorCode)
  | server (status : StatusCode) (retryAfter : Option Duration)
  deriving DecidableEq, Repr

structure Challenge where
  error : TokenValidationError
  description : Option String
  scope : Option String
  deriving DecidableEq, Repr

structure Rfc6750Error where
  attemptedScheme : Option TokenType
  challenge : Challenge
  deriving DecidableEq, Repr

inductive ValidationOutcome where
  | success | noToken | extractError | invalidToken | expired | unrecognizedIssuer
  | bindingError | nonceRequired | callError
  | other (name : String)
  deriving DecidableEq, Repr

/-- The error of an arbitrary validator. It classifies itself for metrics. -/
structure ValidatorError extends Rfc6750Error where
  validationOutcome : Challenge → ValidationOutcome

structure ValidationResult (C : Type) where
  outcome : Except ValidatorError (Option (ValidatedRequest C))
  dpopNonce : Option String

structure Rejection where
  status : StatusCode
  wwwAuthenticate : List String
  retryAfter : Option Duration
  deriving DecidableEq, Repr

structure ValidatorMetadata where
  challenges : Option Rfc6750Error → Option String → Option String → List String
  unauthenticatedChallenges : Option String → List String
  rejectionFrom : Rfc6750Error → Challenge → Option String → Rejection

/-- The default `InsufficientScope` error belongs to the resource-server crate. -/
class ResourceServerLib where
  insufficientScope : Rfc6750Error

def Challenge.client (code : TokenErrorCode) (description : String) : Challenge :=
  ⟨.client code, some description, none⟩

def invalidRequest (msg : String) : Rfc6750Error := ⟨none, .client .invalidRequest msg⟩
def invalidToken (msg : String) : Rfc6750Error := ⟨none, .client .invalidToken msg⟩
def customCheckError (code : TokenErrorCode) (description : String) : Rfc6750Error :=
  ⟨none, .client code description⟩

structure FailureDetails where
  errorCode : Option TokenErrorCode
  errorDescription : Option String
  requiredScopes : Option (List String)
  deriving DecidableEq, Repr

namespace FailureDetails

def empty : FailureDetails := ⟨none, none, none⟩

/-- A server-side failure exposes nothing, whatever its challenge carries. -/
def fromChallenge (challenge : Challenge) (scope : Option String) : FailureDetails :=
  match challenge.error with
  | .server _ _ => empty
  | .client code =>
    { errorCode := some code
      errorDescription := challenge.description
      requiredScopes := (challenge.scope.or scope).map splitWhitespace }

end FailureDetails

structure ErrorDetails where
  status : StatusCode
  errorCode : Option TokenErrorCode
  errorDescription : Option String
  requiredScopes : Option (List String)
  challenges : List String
  deriving DecidableEq, Repr

structure ErrorBodyResponse where
  body : Bytes
  contentType : Option HeaderValue
  deriving DecidableEq, Repr

end ResourceErrors
