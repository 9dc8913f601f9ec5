import HuskarlPingora.HttpModel

/-! # Route registration and resolution

The route guard is a separate crate: a router is known by what `resolve` answers
for a path and a method. -/
namespace RouteResolution

open HttpModel

inductive MethodMatch where
  | any
  | oneOf (methods : List Method)
  deriving DecidableEq, Repr

inductive ResolveErrorKind where
  | invalidInput
  | policyDenied
  | internal
  deriving DecidableEq, Repr

/-- `message` is the client-facing text, `display` the one of `Display`. -/
structure ResolveError where
  kind : ResolveErrorKind
  message : String
  display : String
  deriving DecidableEq, Repr

def resolveErrorStatus (error : ResolveError) : StatusCode :=
  match error.kind with
  | .invalidInput => .badRequest
  | .policyDenied => .forbidden
  | .internal => .internalServerError

def routeDenial (error : ResolveError) : String :=
  match error.kind with
  | .invalidInput => "path_confusion"
  | .policyDenied => "policy_denied"
  | .internal => "server_error"

structure PathRegistration (R : Type) where
  patterns : List String
  method : MethodMatch
  rule : R

inductive RuleRouterError where
  | route (pattern reason : String)
  | nonCanonical (pattern : String)
  | nonCanonicalCase (pattern : String)
  | emptyMethodSet (pattern : String)
  | emptyPatternSet
  | tooManyRegistrations
  deriving DecidableEq, Repr

structure RuleRouter (R : Type) where
  resolve : String → Method → Except ResolveError R

/-- The construction of a router belongs to the route-guard crate. -/
class RouteGuardCrate where
  GuardConfig : Type
  fromRegistrations {R : Type} (fallback : R) (pathGuard : GuardConfig)
    (registrations : List (PathRegistration R)) : Except RuleRouterError (RuleRouter R)

end RouteResolution
