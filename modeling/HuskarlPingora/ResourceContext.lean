import HuskarlPingora.ResourceErrors

/-! # Outcomes, the authentication context and visible actions -/
namespace ResourceContext

open HttpModel ResourceRules ResourceErrors TracedHooks

structure Denial where
  details : FailureDetails
  status : StatusCode
  challenges : List String
  dpopNonce : Option String
  retryAfter : Option Duration
  deriving DecidableEq, Repr

inductive Outcome (C : Type) where
  | forward (token : Option (ValidatedRequest C)) (dpopNonce : Option String)
      (stripCredentials : Bool)
  | deny (denial : Denial)
  deriving DecidableEq, Repr

def Outcome.dpopNonce {C : Type} : Outcome C → Option String
  | .forward _ nonce _ => nonce
  | .deny denial => denial.dpopNonce

/-- The three slots a context gives the adapter through `HasAuthState`. -/
structure AuthState (C : Type) where
  validatedToken : Option (ValidatedRequest C)
  dpopNonce : Option String
  stripCredentials : Bool

inductive Event (C : Type) where
  | counter (metric outcome name : String)
  | validateRequest (headers : HeaderMap) (method : Method) (uri : Uri)
      (clientCertDer : Option Bytes)
  | errorBody (details : ErrorDetails)
  | innerRequestFilter (seen : AuthState C)
  | innerUpstreamRequestFilter (seen : AuthState C) (upstream : RequestHeader)
  | innerResponseFilter (seen : AuthState C) (header : ResponseHeader)
  | writeResponseHeader (header : ResponseHeader) (endOfStream : Bool)
  | writeResponseBody (body : Bytes) (endOfStream : Bool)
  | respondError (code : ℕ)

/-- What the hooks share: the downstream session, the context slots, the upstream
request header of the attempt and the response header a hook was handed. -/
structure World (C : Type) where
  session : Downstream
  auth : AuthState C
  upstream : RequestHeader
  response : ResponseHeader

abbrev ResourceHook (C : Type) (α : Type) := Hook Error (World C) (Event C) α

variable {C : Type}

def updateAuth (f : AuthState C → AuthState C) : ResourceHook C Unit :=
  update fun w => { w with auth := f w.auth }

def updateResponse (f : ResponseHeader → ResponseHeader) : ResourceHook C Unit :=
  update fun w => { w with response := f w.response }

def emitCounter (metric outcome : String) (name : Option String) : ResourceHook C Unit :=
  emit (.counter metric outcome (name.getD ""))

@[simp] theorem run_updateAuth (f : AuthState C → AuthState C) (w : World C) :
    (updateAuth f).run w = ⟨.done (), { w with auth := f w.auth }, []⟩ := rfl
@[simp] theorem run_updateResponse (f : ResponseHeader → ResponseHeader) (w : World C) :
    (updateResponse f).run w = ⟨.done (), { w with response := f w.response }, []⟩ := rfl
@[simp] theorem run_emitCounter (metric outcome : String) (name : Option String) (w : World C) :
    (emitCounter metric outcome name).run w =
      ⟨.done (), w, [.counter metric outcome (name.getD "")]⟩ := rfl

end ResourceContext
