import HuskarlPingora.LoginRules

/-! # Engine values and the per-request login state

The login engine is a separate crate. Its operations are arbitrary functions whose
awaited answers may also never come, because the request task was dropped. -/
namespace LoginContext

open HttpModel
open TracedHooks (Await)

inductive SessionErrorKind where
  | gone | conflict | crypto | encoding | store | unavailable
  deriving DecidableEq, Repr

structure SessionError where
  kind : SessionErrorKind
  message : String
  deriving DecidableEq, Repr

/-- `Set-Cookie` values prepared by the engine, in the order they must be sent. -/
abbrev SetCookies := List HeaderValue

structure LoginResponse where
  status : StatusCode
  headers : List (HeaderName × HeaderValue)
  body : Bytes
  deriving DecidableEq, Repr

/-- A save still owed to the store. It carries its own copy of the session. -/
structure PendingPersist (S : Type) where
  session : S
  tokenResponse : String
  expectedRefreshRevision : ℕ

inductive LoadedSession (S : Type) where
  | missing
  | cleared (clears : SetCookies)
  | active (session : S) (setCookies : SetCookies)
  | activePending (pending : PendingPersist S)
  | refreshUnavailable

/-- Termination returns the browser clears whichever way the revocation went. -/
structure Termination where
  clears : SetCookies
  revocation : Except SessionError Unit

structure LoginEngine (S : Type) where
  isCorsPreflight : Method → HeaderMap → Bool
  tryHandleLoginRoute : Method → HeaderMap → Uri → Await (Option LoginResponse)
  loadSession : HeaderMap → Await (Except SessionError (LoadedSession S))
  commit : PendingPersist S → HeaderMap → Await (Except SessionError SetCookies)
  terminateSession : S → HeaderMap → Await Termination
  redirectToLogin : HeaderMap → Uri → Await LoginResponse
  renderError : StatusCode → String → LoginResponse
  stripSessionCredentials : HeaderMap → HeaderMap
  errorChain : SessionError → String

structure LoginState (S : Type) where
  session : Option S
  terminateRequested : Bool
  pending : Option (PendingPersist S)
  requestHeaders : HeaderMap
  setCookies : SetCookies
  finalized : Bool
  response : Option LoginResponse

namespace LoginState

variable {S : Type}

def fresh : LoginState S := ⟨none, false, none, [], [], false, none⟩

def respond (st : LoginState S) (response : LoginResponse) : Except Error (LoginState S) :=
  if response.status.isInformational then
    .error ⟨.internalError, "local login response must have a final status"⟩
  else .ok { st with response := some response }

def prepareForward (st : LoginState S) (session : Option S) (pending : Option (PendingPersist S))
    (requestHeaders : HeaderMap) (setCookies : SetCookies) : LoginState S :=
  { st with
    session := session
    pending := pending
    requestHeaders := requestHeaders
    setCookies := setCookies
    terminateRequested := false
    finalized := false }

end LoginState

end LoginContext
