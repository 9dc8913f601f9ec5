import HuskarlPingora.RouteResolution

/-! # Access rules of a protected resource -/
namespace ResourceRules

open HttpModel RouteResolution

inductive TokenRequirement where
  | none | optional | required
  deriving DecidableEq, Repr

inductive CheckError where
  | forbidden (description : String)
  | invalidToken (description : String)
  deriving DecidableEq, Repr

/-- A validated token. Registered claims the adapter never reads are part of `claims`. -/
structure ValidatedRequest (C : Type) where
  aud : List String
  claims : C
  deriving DecidableEq, Repr

/-- The `White_Space` characters of Unicode. -/
def isWhitespace (c : Char) : Bool :=
  let n := c.toNat
  (9 ≤ n && n ≤ 13) || n = 0x20 || n = 0x85 || n = 0xa0 || n = 0x1680 ||
    (0x2000 ≤ n && n ≤ 0x200a) || n = 0x2028 || n = 0x2029 || n = 0x202f || n = 0x205f ||
    n = 0x3000

def splitWhitespace (s : String) : List String :=
  ((s.toList.splitOnP isWhitespace).filter (fun word => !word.isEmpty)).map String.ofList

class HasScopes (C : Type) where
  hasScope : C → String → Bool

structure Rfc9068AccessTokenClaims where
  scope : Option String
  deriving DecidableEq, Repr

instance : HasScopes Rfc9068AccessTokenClaims where
  hasScope claims scope := claims.scope.any fun s => (splitWhitespace s).contains scope

abbrev CheckFn (C : Type) := ValidatedRequest C → Except CheckError Unit

structure Rule (C : Type) where
  token : TokenRequirement
  audiences : List String
  scopes : List String
  scopeParam : Option String
  check : Option (CheckFn C)
  stripCredentials : Bool
  method : MethodMatch

namespace Rule

variable {C : Type}

/-- Audience, scope or custom constraints on a rule that never asks the validator. -/
def publicConstraintsRequested (self : Rule C) : Bool :=
  decide (self.token = .none) &&
    (!self.audiences.isEmpty || !self.scopes.isEmpty || self.check.isSome)

def withRequirement (token : TokenRequirement) : Rule C :=
  ⟨token, [], [], none, none, true, .any⟩

def «public» : Rule C := withRequirement .none
def optional : Rule C := withRequirement .optional
def required : Rule C := withRequirement .required

/-! The builder methods are named `with…` where the source names them after the field. -/

def withAudience (self : Rule C) (audience : String) : Rule C :=
  { self with audiences := self.audiences ++ [audience] }

def withAudiences (self : Rule C) (audiences : List String) : Rule C :=
  { self with audiences := self.audiences ++ audiences }

/-- Repeated calls extend the list, and the advertised parameter is joined anew. -/
def withScopes (self : Rule C) (scopes : List String) : Rule C :=
  { self with
    scopes := self.scopes ++ scopes
    scopeParam :=
      if (self.scopes ++ scopes).isEmpty then none
      else some (" ".intercalate (self.scopes ++ scopes)) }

def withCheck (self : Rule C) (f : CheckFn C) : Rule C := { self with check := some f }

def withStripCredentials (self : Rule C) (strip : Bool) : Rule C :=
  { self with stripCredentials := strip }

def withMethod (self : Rule C) (method : Method) : Rule C :=
  { self with method := .oneOf [method] }

end Rule

structure ResourcePolicy (C : Type) where
  routes : RuleRouter (Rule C)
  scopesSupported : List String
  metricsName : Option String

end ResourceRules
