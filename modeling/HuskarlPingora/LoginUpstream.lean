import HuskarlPingora.LoginAdapter

/-! # Session credentials on the way upstream

Before the inner hook runs, the `Cookie` fields of the upstream request are replaced by
those the engine left in a copy of its headers. -/
namespace LoginUpstream

open HttpModel LoginContext LoginAdapter TracedHooks
open FieldMultimap (getAll replace Same getAll_replace_self getAll_replace_ne replace_replace)

def cookieName : HeaderName := "cookie"

/-- The state of an upstream attempt. -/
structure UpstreamWorld (S : Type) where
  shared : World S
  upstream : RequestHeader

inductive UpstreamEvent (S : Type) where
  | setTerminateRequested (value : Bool)
  | innerUpstreamRequestFilter (seen : LoginState S) (upstream : RequestHeader)

abbrev UpstreamHook (S : Type) (α : Type) := Hook Error (UpstreamWorld S) (UpstreamEvent S) α

structure InnerUpstream where
  effect : InnerEffect
  header : RequestHeader → RequestHeader
  answer : Await (Except Error Unit)

variable {S : Type}

def updateUpstream (f : HeaderMap → HeaderMap) : UpstreamHook S Unit :=
  update fun w => { w with upstream := { w.upstream with headers := f w.upstream.headers } }

def innerUpstreamRequestFilter (inner : InnerUpstream) : UpstreamHook S Unit := do
  let w ← read
  emit (.innerUpstreamRequestFilter w.shared.ctx w.upstream)
  match inner.effect.terminateRequested with
  | some value => emit (.setTerminateRequested value)
  | none => pure ()
  update fun w =>
    { shared := inner.effect.apply w.shared, upstream := inner.header w.upstream }
  let result ← await inner.answer
  attempt result

/-- The loop over the remaining values. A value taken from a header map is legal in one. -/
def appendCookies : List HeaderValue → UpstreamHook S Unit
  | [] => pure ()
  | value :: rest => do
    updateUpstream fun headers => FieldMultimap.append headers cookieName value
    appendCookies rest

def upstreamRequestFilter (self : LoginProxy S) (inner : InnerUpstream) : UpstreamHook S Unit := do
  let headers := self.engine.stripSessionCredentials (← read).upstream.headers
  updateUpstream fun headers => FieldMultimap.remove headers cookieName
  appendCookies (getAll headers cookieName)
  innerUpstreamRequestFilter inner

def enteredBy (events : List (UpstreamEvent S)) : List (LoginState S × RequestHeader) :=
  events.filterMap fun
    | .innerUpstreamRequestFilter seen upstream => some (seen, upstream)
    | _ => none

def strippedHeader (strip : HeaderMap → HeaderMap) (upstream : RequestHeader) : RequestHeader :=
  { upstream with
    headers := replace upstream.headers cookieName (getAll (strip upstream.headers) cookieName) }

theorem run_appendCookies (values : List HeaderValue) (w : UpstreamWorld S) :
    (appendCookies values).run w = ⟨.done (), { w with upstream := { w.upstream with
      headers := FieldMultimap.appendAll w.upstream.headers cookieName values } }, []⟩ := by
  induction values generalizing w with
  | nil => rfl
  | cons value rest ih =>
    rw [appendCookies, run_bind, updateUpstream, run_update, andThen_done, ih]
    rfl

theorem run_upstreamRequestFilter (self : LoginProxy S) (inner : InnerUpstream)
    (w : UpstreamWorld S) : (upstreamRequestFilter self inner).run w =
      (innerUpstreamRequestFilter inner).run
        { w with upstream := strippedHeader self.engine.stripSessionCredentials w.upstream } := by
  simp [upstreamRequestFilter, updateUpstream, run_appendCookies, strippedHeader, replace]

theorem entered_upstream (self : LoginProxy S) (inner : InnerUpstream) (w : UpstreamWorld S) :
    enteredBy ((upstreamRequestFilter self inner).run w).events =
      [(w.shared.ctx, strippedHeader self.engine.stripSessionCredentials w.upstream)] := by
  rw [run_upstreamRequestFilter]
  unfold innerUpstreamRequestFilter
  cases inner.effect.terminateRequested <;> cases inner.answer with
  | dropped => simp [enteredBy]
  | ready result => cases result <;> simp [enteredBy]

/-- The header an inner hook is given, against the one the attempt began with. -/
structure Stripped (strip : HeaderMap → HeaderMap) (upstream given : RequestHeader) : Prop where
  method : given.method = upstream.method
  uri : given.uri = upstream.uri
  cookies : getAll given.headers cookieName = getAll (strip upstream.headers) cookieName
  others : ∀ name ≠ cookieName, getAll given.headers name = getAll upstream.headers name

/-- A function of header maps that rewrites `Cookie` values only. -/
structure TouchesCookies (strip : HeaderMap → HeaderMap) : Prop where
  lawful : ∀ headers headers', Same headers headers' → Same (strip headers) (strip headers')
  others : ∀ headers, ∀ name ≠ cookieName, getAll (strip headers) name = getAll headers name

def Idempotent (strip : HeaderMap → HeaderMap) : Prop :=
  ∀ headers, Same (strip (strip headers)) (strip headers)

theorem stripped_strippedHeader (strip : HeaderMap → HeaderMap) (upstream : RequestHeader) :
    Stripped strip upstream (strippedHeader strip upstream) := by
  constructor
  · rfl
  · rfl
  · exact getAll_replace_self _ _ _
  · intro name hname
    exact getAll_replace_ne _ _ hname

section Retry

variable {strip : HeaderMap → HeaderMap} (ht : TouchesCookies strip)

include ht

/-- As header maps, what the inner hook is given is what the engine made of the headers. -/
theorem same_strip {upstream given : RequestHeader} (h : Stripped strip upstream given) :
    Same given.headers (strip upstream.headers) := by
  intro name
  by_cases hname : name = cookieName
  · subst hname
    exact h.cookies
  · rw [h.others name hname, ht.others upstream.headers name hname]

theorem strip_given (hi : Idempotent strip) {upstream given : RequestHeader}
    (h : Stripped strip upstream given) : Same (strip given.headers) given.headers := by
  intro name
  calc getAll (strip given.headers) name
      = getAll (strip (strip upstream.headers)) name := ht.lawful _ _ (same_strip ht h) name
    _ = getAll (strip upstream.headers) name := hi upstream.headers name
    _ = getAll given.headers name := (same_strip ht h name).symm

theorem strippedHeader_again (hi : Idempotent strip) (upstream : RequestHeader) :
    strippedHeader strip (strippedHeader strip upstream) = strippedHeader strip upstream := by
  have hcookies := strip_given ht hi (stripped_strippedHeader strip upstream) cookieName
  rw [(stripped_strippedHeader strip upstream).cookies] at hcookies
  rw [strippedHeader, hcookies]
  simp only [strippedHeader, replace_replace]

end Retry

/-- What holds of the upstream hook, whichever way the request was forwarded. The
context and the session are arbitrary, and so is the inner hook. -/
structure CredentialsKept (proxy : LoginProxy S) (w : UpstreamWorld S) (inner : InnerUpstream) :
    Prop where
  entered : ∃ given,
    enteredBy ((upstreamRequestFilter proxy inner).run w).events = [(w.shared.ctx, given)] ∧
    Stripped proxy.engine.stripSessionCredentials w.upstream given
  /-- A later attempt on the header the inner hook was given hands it on unchanged. -/
  retried : TouchesCookies proxy.engine.stripSessionCredentials →
    Idempotent proxy.engine.stripSessionCredentials → ∀ seen given,
      (seen, given) ∈ enteredBy ((upstreamRequestFilter proxy inner).run w).events →
      ∀ shared inner', enteredBy ((upstreamRequestFilter proxy inner').run ⟨shared, given⟩).events =
        [(shared.ctx, given)]

/-- Only the `Cookie` values the engine left go upstream, and all other fields do. -/
theorem session_credentials_stripped (self : LoginProxy S) (w : UpstreamWorld S)
    (inner : InnerUpstream) : CredentialsKept self w inner := by
  constructor
  · exact ⟨_, entered_upstream self inner w, stripped_strippedHeader _ _⟩
  · intro ht hi seen given hmem shared inner'
    rw [entered_upstream, List.mem_singleton] at hmem
    obtain ⟨rfl, rfl⟩ := Prod.mk.inj hmem
    rw [entered_upstream, strippedHeader_again ht hi]

section SessionCookie

def dropSession (headers : HeaderMap) : HeaderMap :=
  headers.filter fun field => !decide (field = (cookieName, ⟨"__Host-mock-session=secret"⟩))

theorem getAll_dropSession (headers : HeaderMap) (name : HeaderName) :
    getAll (dropSession headers) name = (getAll headers name).filter fun value =>
      !decide ((name, value) = (cookieName, ⟨"__Host-mock-session=secret"⟩)) := by
  unfold getAll dropSession
  rw [List.filter_filter, List.filter_map, List.filter_filter]
  congr 1
  apply List.filter_congr
  rintro ⟨other, value⟩ -
  by_cases hother : other = name <;> simp [hother]

theorem touchesCookies_dropSession : TouchesCookies dropSession := by
  constructor
  · intro headers headers' h name
    rw [getAll_dropSession, getAll_dropSession, h name]
  · intro headers name hname
    rw [getAll_dropSession]
    exact List.filter_eq_self.mpr (by simp [hname])

theorem idempotent_dropSession : Idempotent dropSession := by
  intro headers name
  rw [dropSession, dropSession, List.filter_filter]
  simp

def sessionProxy : LoginProxy Unit where
  inner := ⟨(⟨none, [], id, id⟩, .ready (.ok false)), (⟨none, [], id, id⟩, id, .ready (.ok ())),
    (⟨none, [], id, id⟩, .ready ())⟩
  engine :=
    { isCorsPreflight := fun _ _ => false
      tryHandleLoginRoute := fun _ _ _ => .ready none
      loadSession := fun _ => .ready (.ok .missing)
      commit := fun _ _ => .ready (.ok [])
      terminateSession := fun _ _ => .ready ⟨[], .ok ()⟩
      redirectToLogin := fun _ _ => .dropped
      renderError := fun status _ => ⟨status, [], []⟩
      stripSessionCredentials := dropSession
      errorChain := SessionError.message }
  routes := ⟨fun _ _ => .ok (.pub .any false)⟩
  persistFailurePolicy := fun _ => none
  corsPassthrough := false
  metricsName := none
  diagnostics := false

def publicRequest : RequestHeader := ⟨.get, ⟨none, none, some ⟨"/health", none⟩⟩, []⟩

def forwardedWorld (headers : HeaderMap) : UpstreamWorld Unit where
  shared := .incoming ⟨publicRequest, none, none, .ready (.ok ()), .ready (.ok ())⟩ (.build .ok)
  upstream := { publicRequest with headers := headers }

def quietUpstream : InnerUpstream := ⟨⟨none, [], id, id⟩, id, .ready (.ok ())⟩

theorem session_credentials_stripped_retried :
    enteredBy ((upstreamRequestFilter sessionProxy quietUpstream).run (forwardedWorld
      [("x-app", ⟨"preserved"⟩), ("cookie", ⟨"theme=dark"⟩)])).events =
      [(.fresh, { publicRequest with
        headers := [("x-app", ⟨"preserved"⟩), ("cookie", ⟨"theme=dark"⟩)] })] := by
  have hkept := session_credentials_stripped sessionProxy (forwardedWorld
    [("cookie", ⟨"__Host-mock-session=secret"⟩), ("x-app", ⟨"preserved"⟩),
      ("cookie", ⟨"theme=dark"⟩)]) quietUpstream
  refine hkept.retried touchesCookies_dropSession idempotent_dropSession .fresh _ ?_ _ _
  rw [entered_upstream]
  exact List.mem_singleton.mpr rfl

end SessionCookie

end LoginUpstream
