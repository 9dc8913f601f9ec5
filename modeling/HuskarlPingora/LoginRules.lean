import HuskarlPingora.RouteResolution

/-! # Per-route session policy -/
namespace LoginRules

open HttpModel RouteResolution

inductive CheckError where
  | forbidden (msg : String)
  deriving DecidableEq, Repr

abbrev CheckFn (S : Type) := S → Except CheckError Unit

/-- A public rule has no check to run. It only records that one was asked for. -/
inductive LoginRule (S : Type) where
  | pub (method : MethodMatch) (checkRequested : Bool)
  | optional (check : Option (CheckFn S)) (method : MethodMatch)
  | required (check : Option (CheckFn S)) (method : MethodMatch)

namespace LoginRule

variable {S : Type}

def «public» : LoginRule S := .pub .any false

/-! The constructors of the same name take the fields, these start a chain. -/

def newOptional : LoginRule S := .optional none .any
def newRequired : LoginRule S := .required none .any

/-- On a public rule the check itself is dropped and only the request for it is kept. -/
def check (self : LoginRule S) (f : CheckFn S) : LoginRule S :=
  match self with
  | .pub method _ => .pub method true
  | .optional _ method => .optional (some f) method
  | .required _ method => .required (some f) method

def method (self : LoginRule S) (method : Method) : LoginRule S :=
  let restricted := MethodMatch.oneOf [method]
  match self with
  | .pub _ checkRequested => .pub restricted checkRequested
  | .optional check _ => .optional check restricted
  | .required check _ => .required check restricted

def clone (self : LoginRule S) : LoginRule S :=
  match self with
  | .pub method checkRequested => .pub method checkRequested
  | .optional check method => .optional check method
  | .required check method => .required check method

def methodMatch (self : LoginRule S) : MethodMatch :=
  match self with
  | .pub method _ => method
  | .optional _ method => method
  | .required _ method => method

def publicCheckRequested (self : LoginRule S) : Bool :=
  match self with
  | .pub _ checkRequested => checkRequested
  | .optional _ _ => false
  | .required _ _ => false

end LoginRule

end LoginRules
