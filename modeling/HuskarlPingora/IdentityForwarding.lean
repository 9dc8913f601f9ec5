import HuskarlPingora.LoginLifecycle
import HuskarlPingora.LoginUpstream

/-! # The identity asserted upstream

The inner proxy of the login example asserts the subject of the session in a header of
its own. The upstream believes that header, so it must never carry what a client sent. -/
namespace IdentityForwarding

open HttpModel LoginContext LoginAdapter LoginUpstream LoginEffects LoginLifecycle
open SessionLedger LoginAccess TracedHooks
open FieldMultimap (getAll remove insert getAll_replace_self getAll_replace_ne getAll_remove_self
  getAll_remove_ne getAll_insert_self getAll_insert_ne)

variable {S : Type}

/-- What the inner proxy reads of a session. -/
class Session (S : Type) where
  sub : S → Option String

/-- The error of the proxy's header type for text that is no header value. -/
class PingoraHttp where
  invalidHeaderValue : Error

def authenticatedSubjectName : HeaderName := "x-authenticated-subject"
def hostName : HeaderName := "host"

/-- Without TLS the server name is empty. -/
structure Upstream where
  sni : String

section Hooks

variable [HttpCrate] [Session S] [PingoraHttp]

omit [Session S] [PingoraHttp] in
def insertHeader (name : HeaderName) (text : String) (error : Error) : UpstreamHook S Unit :=
  match HttpCrate.headerValue text with
  | none => fail error
  | some value => updateUpstream fun headers => insert headers name value

def setIdentityHeader : UpstreamHook S Unit := do
  updateUpstream fun headers => remove headers authenticatedSubjectName
  match (← read).shared.ctx.session.bind Session.sub with
  | none => pure ()
  | some subject => insertHeader authenticatedSubjectName subject PingoraHttp.invalidHeaderValue

def Upstream.upstreamRequestFilter (self : Upstream) : UpstreamHook S Unit := do
  setIdentityHeader
  if self.sni.isEmpty then pure ()
  else insertHeader hostName self.sni ⟨.internalError, "failed to set Host header"⟩

omit [HttpCrate] [Session S] [PingoraHttp] in
def enterUpstream (self : LoginProxy S) (inner : UpstreamHook S Unit) : UpstreamHook S Unit := do
  let headers := self.engine.stripSessionCredentials (← read).upstream.headers
  updateUpstream fun headers => remove headers cookieName
  appendCookies (getAll headers cookieName)
  inner

omit [HttpCrate] [Session S] [PingoraHttp] in
theorem enterUpstream_inner (self : LoginProxy S) (inner : InnerUpstream) :
    LoginUpstream.upstreamRequestFilter self inner =
      enterUpstream self (innerUpstreamRequestFilter inner) := rfl

omit [HttpCrate] [Session S] [PingoraHttp] in
theorem run_enterUpstream (self : LoginProxy S) (inner : UpstreamHook S Unit)
    (w : UpstreamWorld S) : (enterUpstream self inner).run w =
      inner.run
        { w with upstream := strippedHeader self.engine.stripSessionCredentials w.upstream } := by
  simp [enterUpstream, updateUpstream, run_appendCookies, strippedHeader, FieldMultimap.replace]

end Hooks

section Attempts

variable [HttpCrate]

def assertedValues (subject : Option String) : List HeaderValue :=
  (subject.bind HttpCrate.headerValue).toList

/-- Every text the inner hook inserts is a legal header value. -/
def Sendable (sni : String) (subject : Option String) : Prop :=
  (∀ text, subject = some text → (HttpCrate.headerValue text).isSome = true) ∧
    (sni ≠ "" → (HttpCrate.headerValue sni).isSome = true)

/-- An attempt goes on exactly when both texts are legal. -/
structure Asserted (strip : HeaderMap → HeaderMap) (sni : String) (subject : Option String)
    (w : UpstreamWorld S) (r : Ran Error (UpstreamWorld S) (UpstreamEvent S) Unit) : Prop where
  goes : r.exit = .done () ↔ Sendable sni subject
  shared : r.state.shared = w.shared
  method : r.state.upstream.method = w.upstream.method
  uri : r.state.upstream.uri = w.upstream.uri
  /-- Also when the hook fails: what a client sent is gone before anything can. -/
  identity : getAll r.state.upstream.headers authenticatedSubjectName = assertedValues subject
  cookies : getAll r.state.upstream.headers cookieName =
    getAll (strip w.upstream.headers) cookieName
  host : r.exit = .done () → getAll r.state.upstream.headers hostName =
    if sni = "" then getAll w.upstream.headers hostName else (HttpCrate.headerValue sni).toList
  others : ∀ name, name ≠ authenticatedSubjectName → name ≠ cookieName → name ≠ hostName →
    getAll r.state.upstream.headers name = getAll w.upstream.headers name

theorem run_insertHeader (name : HeaderName) (text : String) (error : Error)
    (w : UpstreamWorld S) : (insertHeader name text error).run w =
      match HttpCrate.headerValue text with
      | none => ⟨.failed error, w, []⟩
      | some value => ⟨.done (), { w with upstream := { w.upstream with
          headers := insert w.upstream.headers name value } }, []⟩ := by
  unfold insertHeader
  cases HttpCrate.headerValue text <;> rfl

def assertedHeaders (headers : HeaderMap) (subject : Option String) : HeaderMap :=
  match subject.bind HttpCrate.headerValue with
  | none => remove headers authenticatedSubjectName
  | some value => insert (remove headers authenticatedSubjectName) authenticatedSubjectName value

theorem getAll_assertedHeaders (headers : HeaderMap) (subject : Option String) :
    getAll (assertedHeaders headers subject) authenticatedSubjectName = assertedValues subject := by
  unfold assertedHeaders assertedValues
  cases subject.bind HttpCrate.headerValue with
  | none => exact getAll_remove_self _ _
  | some value => exact getAll_insert_self _ _ _

theorem getAll_assertedHeaders_ne (headers : HeaderMap) (subject : Option String)
    {name : HeaderName} (h : name ≠ authenticatedSubjectName) :
    getAll (assertedHeaders headers subject) name = getAll headers name := by
  unfold assertedHeaders
  cases subject.bind HttpCrate.headerValue with
  | none => exact getAll_remove_ne _ h
  | some value => rw [getAll_insert_ne _ _ h, getAll_remove_ne _ h]

def settle (w : UpstreamWorld S) (subject : Option String) : UpstreamWorld S :=
  { w with upstream := { w.upstream with headers := assertedHeaders w.upstream.headers subject } }

variable [Session S] [PingoraHttp]

theorem run_setIdentityHeader (w : UpstreamWorld S) :
    (setIdentityHeader.run w).state = settle w (w.shared.ctx.session.bind Session.sub) ∧
      (setIdentityHeader.run w).events = [] ∧
      ((setIdentityHeader.run w).exit = .done () ↔ ∀ text,
        w.shared.ctx.session.bind Session.sub = some text →
          (HttpCrate.headerValue text).isSome = true) := by
  unfold setIdentityHeader settle assertedHeaders
  cases hs : w.shared.ctx.session.bind Session.sub with
  | none => simp [updateUpstream, hs]
  | some subject =>
    cases hv : HttpCrate.headerValue subject <;>
      simp [updateUpstream, hs, run_insertHeader, hv]

omit [Session S] [PingoraHttp] in
theorem run_host (self : Upstream) (w : UpstreamWorld S) :
    ∃ r, ((if self.sni.isEmpty then pure ()
      else insertHeader hostName self.sni ⟨.internalError, "failed to set Host header"⟩ :
        UpstreamHook S Unit)).run w = r ∧
      (r.exit = .done () ↔ (self.sni ≠ "" → (HttpCrate.headerValue self.sni).isSome = true)) ∧
      r.state.shared = w.shared ∧ r.state.upstream.method = w.upstream.method ∧
      r.state.upstream.uri = w.upstream.uri ∧
      (r.exit = .done () → getAll r.state.upstream.headers hostName =
        if self.sni = "" then getAll w.upstream.headers hostName
        else (HttpCrate.headerValue self.sni).toList) ∧
      ∀ name ≠ hostName, getAll r.state.upstream.headers name = getAll w.upstream.headers name := by
  refine ⟨_, rfl, ?_⟩
  by_cases hsni : self.sni = ""
  · simp [hsni]
  · have hempty : self.sni.isEmpty = false := by simpa using hsni
    rw [if_neg (by simp [hempty]), run_insertHeader]
    cases hv : HttpCrate.headerValue self.sni with
    | none => simp [hsni]
    | some value =>
      refine ⟨by simp, rfl, rfl, rfl, fun _ => ?_, fun name hname => getAll_insert_ne _ _ hname⟩
      rw [if_neg hsni]
      exact getAll_insert_self _ _ _

structure Settled (strip : HeaderMap → HeaderMap) (subject : Option String)
    (headers settled : HeaderMap) : Prop where
  identity : getAll settled authenticatedSubjectName = assertedValues subject
  cookies : getAll settled cookieName = getAll (strip headers) cookieName
  others : ∀ name, name ≠ authenticatedSubjectName → name ≠ cookieName →
    getAll settled name = getAll headers name

omit [Session S] [PingoraHttp] in
theorem settled_stripped (strip : HeaderMap → HeaderMap) (subject : Option String)
    (upstream : RequestHeader) : Settled strip subject upstream.headers
      (assertedHeaders (strippedHeader strip upstream).headers subject) where
  identity := getAll_assertedHeaders _ _
  cookies := by
    rw [getAll_assertedHeaders_ne _ _ (by decide)]
    exact getAll_replace_self _ _ _
  others := by
    intro name hname hcookie
    rw [getAll_assertedHeaders_ne _ _ hname]
    exact getAll_replace_ne _ _ hcookie

theorem asserted_attempt (self : LoginProxy S) (upstream : Upstream) (w : UpstreamWorld S) :
    Asserted self.engine.stripSessionCredentials upstream.sni
      (w.shared.ctx.session.bind Session.sub) w
      ((enterUpstream self upstream.upstreamRequestFilter).run w) := by
  have hsettled := settled_stripped self.engine.stripSessionCredentials
    (w.shared.ctx.session.bind Session.sub) w.upstream
  rw [run_enterUpstream, Upstream.upstreamRequestFilter, run_bind]
  obtain ⟨hstate, -, hexit⟩ := run_setIdentityHeader
    { w with upstream := strippedHeader self.engine.stripSessionCredentials w.upstream }
  obtain ⟨r, hr, hdone, hshared, hmethod, huri, hhost, hrest⟩ := run_host upstream
    (settle { w with upstream := strippedHeader self.engine.stripSessionCredentials w.upstream }
      (w.shared.ctx.session.bind Session.sub))
  unfold Ran.andThen
  cases hx : (setIdentityHeader.run { w with
      upstream := strippedHeader self.engine.stripSessionCredentials w.upstream }).exit with
  | done u =>
    have hlegal := hexit.mp hx
    simp only [hstate, hr]
    refine ⟨?_, hshared, hmethod, huri, ?_, ?_, ?_, ?_⟩
    · exact hdone.trans ⟨fun hsni => ⟨hlegal, hsni⟩, And.right⟩
    · exact (hrest _ (by decide)).trans hsettled.identity
    · exact (hrest _ (by decide)).trans hsettled.cookies
    · intro hd
      rw [after_state, hhost hd, ← hsettled.others hostName (by decide) (by decide)]
      rfl
    · intro name hname hcookie hhostName
      exact (hrest name hhostName).trans (hsettled.others name hname hcookie)
  | failed e | cancelled =>
    have hillegal : ¬ Sendable upstream.sni (w.shared.ctx.session.bind Session.sub) := by
      intro hsendable
      have hdone' := hexit.mpr hsendable.1
      rw [hx] at hdone'
      cases hdone'
    simp only [hstate]
    refine ⟨iff_of_false (by simp) hillegal, rfl, rfl, rfl, hsettled.identity, hsettled.cookies,
      by simp, fun name hname hcookie _ => hsettled.others name hname hcookie⟩

end Attempts

section Requests

variable [HttpCrate] [Session S] [PingoraHttp]

structure AssertsIdentity (upstream : Upstream) (r : Request S) (before : List (Call S))
    (attempt : RequestHeader) : Prop where
  forwarded : r.Entered → Asserted r.proxy.engine.stripSessionCredentials upstream.sni
    (r.loadedSession.bind Session.sub) ⟨r.after before, attempt⟩
    ((enterUpstream r.proxy upstream.upstreamRequestFilter).run ⟨r.after before, attempt⟩)
  refused : ¬ r.Entered → Asserted r.proxy.engine.stripSessionCredentials upstream.sni none
    ⟨r.after before, attempt⟩
    ((enterUpstream r.proxy upstream.upstreamRequestFilter).run ⟨r.after before, attempt⟩)
  /-- Nobody is asserted for a request whose session was never loaded. -/
  unloaded : r.loaded = none →
    getAll ((enterUpstream r.proxy upstream.upstreamRequestFilter).run
      ⟨r.after before, attempt⟩).state.upstream.headers authenticatedSubjectName = []
  /-- A later attempt asserts the same, whatever hooks ran in between. -/
  repeated : ∀ between attempt',
    getAll ((enterUpstream r.proxy upstream.upstreamRequestFilter).run
      ⟨r.after (before ++ between), attempt'⟩).state.upstream.headers authenticatedSubjectName =
    getAll ((enterUpstream r.proxy upstream.upstreamRequestFilter).run
      ⟨r.after before, attempt⟩).state.upstream.headers authenticatedSubjectName

omit [HttpCrate] [Session S] [PingoraHttp] in
/-- No hook between the gate and an attempt exchanges the session. -/
theorem session_after (r : Request S) : ∃ session, (r.Entered → session = r.loadedSession) ∧
    (¬ r.Entered → session = none) ∧ ∀ calls, (r.after calls).ctx.session = session := by
  obtain ⟨head, st, rest, b⟩ := run_books r
  refine ⟨st.session, fun h => (b.opening h).1, fun h => ?_, fun calls => (b.tracks calls).session⟩
  obtain ⟨-, rfl, -⟩ := b.refusal h
  rfl

/-- In every attempt of every request the identity header holds the subject of the session
the engine loaded for it, or nothing, whatever the client sent under that name. -/
theorem identity_asserted (upstream : Upstream) (r : Request S) (before : List (Call S))
    (attempt : RequestHeader) : AssertsIdentity upstream r before attempt := by
  obtain ⟨session, hentered, hrefused, hsession⟩ := session_after r
  have hattempt : ∀ calls attempt', Asserted r.proxy.engine.stripSessionCredentials upstream.sni
      (session.bind Session.sub) ⟨r.after calls, attempt'⟩
      ((enterUpstream r.proxy upstream.upstreamRequestFilter).run ⟨r.after calls, attempt'⟩) := by
    intro calls attempt'
    rw [← hsession calls]
    exact asserted_attempt r.proxy upstream ⟨r.after calls, attempt'⟩
  constructor
  · intro h
    rw [← hentered h]
    exact hattempt before attempt
  · intro h
    have hnone := hattempt before attempt
    rwa [hrefused h] at hnone
  · intro hloaded
    have hnone : session = none := by
      by_cases h : r.Entered
      · rw [hentered h, Request.loadedSession, hloaded]
        rfl
      · exact hrefused h
    rw [(hattempt before attempt).identity, hnone]
    rfl
  · intro between attempt'
    rw [(hattempt (before ++ between) attempt').identity, (hattempt before attempt).identity]

end Requests

end IdentityForwarding
