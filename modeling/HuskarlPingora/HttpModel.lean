import HuskarlPingora.TracedHooks
import HuskarlPingora.FieldMultimap

/-! # HTTP values and the downstream session

Header names are kept in the lower-case form the `http` crate normalises to.
The crate decides which text is a legal header value, so that conversion is a
parameter. Transport results belong to the environment. -/
namespace HttpModel

open FieldMultimap (Fields)
open TracedHooks (Await)

abbrev Bytes := List UInt8

inductive Method where
  | options | get | post | put | delete | head | trace | connect | patch
  | extension (name : String)
  deriving DecidableEq, Repr

structure StatusCode where
  code : ℕ
  range : 100 ≤ code ∧ code < 1000
  deriving DecidableEq, Repr

namespace StatusCode

def switchingProtocols : StatusCode := ⟨101, by decide⟩
def ok : StatusCode := ⟨200, by decide⟩
def noContent : StatusCode := ⟨204, by decide⟩
def notModified : StatusCode := ⟨304, by decide⟩
def badRequest : StatusCode := ⟨400, by decide⟩
def unauthorized : StatusCode := ⟨401, by decide⟩
def forbidden : StatusCode := ⟨403, by decide⟩
def notFound : StatusCode := ⟨404, by decide⟩
def methodNotAllowed : StatusCode := ⟨405, by decide⟩
def internalServerError : StatusCode := ⟨500, by decide⟩
def serviceUnavailable : StatusCode := ⟨503, by decide⟩

def isInformational (s : StatusCode) : Bool := decide (s.code < 200)

/-- An interim header block. The `101` upgrade is informational but terminal. -/
def isInterim (s : StatusCode) : Bool := s.isInformational && decide (s ≠ switchingProtocols)

end StatusCode

abbrev HeaderName := String

def allowName : HeaderName := "allow"
def authorizationName : HeaderName := "authorization"
def cacheControlName : HeaderName := "cache-control"
def contentLengthName : HeaderName := "content-length"
def contentTypeName : HeaderName := "content-type"
def dpopName : HeaderName := "dpop"
def dpopNonceName : HeaderName := "dpop-nonce"
def retryAfterName : HeaderName := "retry-after"
def setCookieName : HeaderName := "set-cookie"
def transferEncodingName : HeaderName := "transfer-encoding"
def wwwAuthenticateName : HeaderName := "www-authenticate"

structure HeaderValue where
  text : String
  deriving DecidableEq, Repr

abbrev HeaderMap := Fields HeaderName HeaderValue

structure PathAndQuery where
  path : String
  query : Option String
  deriving DecidableEq, Repr

structure Uri where
  scheme : Option String
  authority : Option String
  pathAndQuery : Option PathAndQuery
  deriving DecidableEq, Repr

def Uri.path (uri : Uri) : String :=
  match uri.pathAndQuery with
  | some pq => pq.path
  | none => ""

def PathAndQuery.toText (pq : PathAndQuery) : String :=
  match pq.query with
  | some query => pq.path ++ "?" ++ query
  | none => pq.path

def Uri.toText (uri : Uri) : String :=
  (uri.scheme.map (· ++ "://")).getD "" ++ uri.authority.getD "" ++
    (uri.pathAndQuery.map PathAndQuery.toText).getD ""

/-- What the `http` crate decides: the conversions of text to its types. -/
class HttpCrate where
  headerValue : String → Option HeaderValue
  parseUri : String → Option Uri

structure RequestHeader where
  method : Method
  uri : Uri
  headers : HeaderMap
  deriving DecidableEq, Repr

structure ResponseHeader where
  status : StatusCode
  headers : HeaderMap
  deriving DecidableEq, Repr

inductive ErrorType where
  | internalError
  | httpStatus (code : ℕ)
  | other (name : String)
  deriving DecidableEq, Repr

structure Error where
  etype : ErrorType
  context : String
  deriving DecidableEq, Repr

namespace ResponseHeader

def build (status : StatusCode) : ResponseHeader := ⟨status, []⟩

def getAll (h : ResponseHeader) (name : HeaderName) : List HeaderValue :=
  FieldMultimap.getAll h.headers name

def appendHeader (h : ResponseHeader) (name : HeaderName) (value : HeaderValue) :
    ResponseHeader :=
  { h with headers := FieldMultimap.append h.headers name value }

def insertHeader (h : ResponseHeader) (name : HeaderName) (value : HeaderValue) :
    ResponseHeader :=
  { h with headers := FieldMultimap.insert h.headers name value }

def removeHeader (h : ResponseHeader) (name : HeaderName) : ResponseHeader :=
  { h with headers := FieldMultimap.remove h.headers name }

@[simp] theorem appendHeader_status (h : ResponseHeader) (n : HeaderName) (v : HeaderValue) :
    (h.appendHeader n v).status = h.status := rfl
@[simp] theorem insertHeader_status (h : ResponseHeader) (n : HeaderName) (v : HeaderValue) :
    (h.insertHeader n v).status = h.status := rfl
@[simp] theorem removeHeader_status (h : ResponseHeader) (n : HeaderName) :
    (h.removeHeader n).status = h.status := rfl

@[simp] theorem getAll_appendHeader_self (h : ResponseHeader) (n : HeaderName) (v : HeaderValue) :
    (h.appendHeader n v).getAll n = h.getAll n ++ [v] :=
  FieldMultimap.getAll_append_self _ _ _
@[simp] theorem getAll_insertHeader_self (h : ResponseHeader) (n : HeaderName) (v : HeaderValue) :
    (h.insertHeader n v).getAll n = [v] :=
  FieldMultimap.getAll_insert_self _ _ _

@[simp] theorem getAll_removeHeader_self (h : ResponseHeader) (n : HeaderName) :
    (h.removeHeader n).getAll n = [] :=
  FieldMultimap.getAll_remove_self _ _

theorem getAll_removeHeader_ne (h : ResponseHeader) {n o : HeaderName} (hne : o ≠ n) :
    (h.removeHeader n).getAll o = h.getAll o :=
  FieldMultimap.getAll_remove_ne _ hne
theorem getAll_appendHeader_ne (h : ResponseHeader) {n o : HeaderName} (v : HeaderValue)
    (hne : o ≠ n) : (h.appendHeader n v).getAll o = h.getAll o :=
  FieldMultimap.getAll_append_ne _ _ hne
theorem getAll_insertHeader_ne (h : ResponseHeader) {n o : HeaderName} (v : HeaderValue)
    (hne : o ≠ n) : (h.insertHeader n v).getAll o = h.getAll o :=
  FieldMultimap.getAll_insert_ne _ _ hne

end ResponseHeader

/-- The downstream half of a Pingora session. The two transport fields say how the
next header and body writes end; the environment chooses them for each hook. -/
structure Downstream where
  reqHeader : RequestHeader
  clientCertDer : Option Bytes
  responseWritten : Option ResponseHeader
  writeHeader : Await (Except Error Unit)
  writeBody : Await (Except Error Unit)

end HttpModel
