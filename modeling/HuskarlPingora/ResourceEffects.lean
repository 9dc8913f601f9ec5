import HuskarlPingora.ResourceProxy

/-! # What the resource-server hooks do

`authorize` is known by the guard's decision on the call it makes, and every refusal,
of the guard or at the boundary, is written by the same steps. -/
namespace ResourceEffects

open HttpModel ResourceRules ResourceErrors ResourceContext ResourceGuard ResourceResponse
open ResourceProxy GuardAuthorization TracedHooks

variable {C : Type}

/-- The check an adapter makes of the request its session holds. -/
def proxyCall (guard : Guard C) (session : Downstream) (audiences : Option (List String)) :
    GuardCall C where
  guard := guard
  headers := session.reqHeader.headers
  method := session.reqHeader.method
  uri := session.reqHeader.uri
  clientCertDer := session.clientCertDer
  metadata := guard.metadata
  resourceAudiences := audiences

def checkEvent (guard : Guard C) (category : CheckOutcome) : Event C :=
  .counter "huskarl.resource.check" category.asStr (guard.metricsName.getD "")

def authorizationEvent (guard : Guard C) (label : String) : Event C :=
  .counter "huskarl.pingora.resource.authorization" label (guard.metricsName.getD "")

@[simp] theorem run_authorizationCounter (proxy : AuthProxy C) (label : String) (w : World C) :
    (authorizationCounter proxy label).run w =
      ⟨.done (), w, [authorizationEvent proxy.guard label]⟩ := rfl

@[simp] theorem run_renderErrorBody (proxy : AuthProxy C) (details : ErrorDetails) (w : World C) :
    (renderErrorBody proxy details).run w =
      ⟨.done (proxy.errorBody details), w, [.errorBody details]⟩ := rfl

section Refusals

variable [HttpCrate]

def refuse (status : StatusCode) (challenges : List String) (dpopNonce : Option String)
    (retryAfter : Option Duration) (body : ErrorBodyResponse) : ResourceHook C Bool := do
  writeChallengeResponse status challenges dpopNonce retryAfter body
  return true

/-- A refusal ends the request. It changes no slot of the context, and each header it
hands over, or leaves written, carries what it was given. -/
structure Answered (status : StatusCode) (challenges : List String) (dpopNonce : Option String)
    (w : World C) (r : Ran Error (World C) (Event C) Bool) : Prop where
  auth : r.state.auth = w.auth
  handled : ∀ b, r.exit = .done b → b = true ∧ ∃ header,
    r.state.session.responseWritten = some header ∧ Conveys header status challenges dpopNonce
  events : ∀ e ∈ r.events, (∃ header endOfStream, e = .writeResponseHeader header endOfStream ∧
    Conveys header status challenges dpopNonce) ∨ ∃ body, e = .writeResponseBody body true
  delivered : Delivers w.session → Legal challenges dpopNonce → r.exit = .done true

theorem answered_refuse (status : StatusCode) (challenges : List String)
    (dpopNonce : Option String) (retryAfter : Option Duration) (body : ErrorBodyResponse)
    (w : World C) : Answered status challenges dpopNonce w
      ((refuse status challenges dpopNonce retryAfter body).run w) := by
  unfold refuse
  rw [run_bind]
  rcases run_writeChallengeResponse status challenges dpopNonce retryAfter body w with
    ⟨e, hheader, hrun⟩ | ⟨header, hheader, hwrote⟩
  · rw [hrun]
    refine ⟨rfl, ?_, ?_, ?_⟩
    · intro b h
      cases h
    · intro e h
      exact absurd h List.not_mem_nil
    · intro _ hlegal
      obtain ⟨header, hok⟩ := challengeHeader_total status retryAfter body hlegal
      simp [hok] at hheader
  have hconveys := challengeHeader_conveys hheader
  obtain ⟨endOfStream, tail, hevents, htail⟩ := hwrote.handed
  have hmem : ∀ e ∈
      ((writeChallengeResponse status challenges dpopNonce retryAfter body).run w).events,
      (∃ header endOfStream, e = .writeResponseHeader header endOfStream ∧
        Conveys header status challenges dpopNonce) ∨ ∃ body, e = .writeResponseBody body true := by
    intro e he
    rw [hevents] at he
    rcases List.mem_cons.mp he with rfl | he
    · exact .inl ⟨header, endOfStream, rfl, hconveys⟩
    · exact .inr (htail e he)
  have hauth := hwrote.auth
  have hwritten := hwrote.written
  have hdelivered := hwrote.delivered
  cases hr : (writeChallengeResponse status challenges dpopNonce retryAfter body).run w with
  | mk exit state events =>
    rw [hr] at hmem hauth hwritten hdelivered
    cases exit with
    | done u =>
      refine ⟨hauth, ?_, by simpa using hmem, fun _ _ => rfl⟩
      intro b h
      simp only [andThen_done, run_pure, after_exit, Exit.done.injEq] at h
      exact ⟨h.symm, header, hwritten rfl, hconveys⟩
    | failed | cancelled =>
      refine ⟨hauth, ?_, hmem, ?_⟩
      · intro b h
        cases h
      · intro htransport _
        cases hdelivered htransport

end Refusals

section Authorize

variable [HasScopes C] [ResourceServerLib]

theorem run_checkForProxy {guard : Guard C} {audiences : Option (List String)} {w : World C}
    {outcome : Outcome C} {category : CheckOutcome} {events : List (Event C)}
    (h : runCheck (proxyCall guard w.session audiences) w =
      ⟨.done (outcome, category), w, events⟩) :
    (checkForProxy guard audiences).run w =
      ⟨.done (outcome, category), w, events ++ [checkEvent guard category]⟩ := by
  simp only [runCheck, proxyCall] at h
  simp [checkForProxy, h, checkEvent]

variable [HttpCrate] {proxy : AuthProxy C} {audiences : Option (List String)} {w : World C}
  {category : CheckOutcome} {events : List (Event C)}

def decisionEvents (proxy : AuthProxy C) (category : CheckOutcome) (events : List (Event C)) :
    List (Event C) :=
  events ++ [checkEvent proxy.guard category, authorizationEvent proxy.guard category.asStr]

theorem run_authorize_forward {token : Option (ValidatedRequest C)} {nonce : Option String}
    {strip : Bool} (h : runCheck (proxyCall proxy.guard w.session audiences) w =
      ⟨.done (.forward token nonce strip, category), w, events⟩) :
    (authorize proxy audiences).run w =
      ((innerRequestFilter proxy).run { w with auth := ⟨token, nonce, strip⟩ }).after
        (decisionEvents proxy category events) := by
  simp [authorize, run_checkForProxy h, decisionEvents]

theorem run_authorize_deny {d : Denial}
    (h : runCheck (proxyCall proxy.guard w.session audiences) w =
      ⟨.done (.deny d, category), w, events⟩) :
    (authorize proxy audiences).run w =
      ((refuse d.status d.challenges d.dpopNonce d.retryAfter
        (proxy.errorBody (denialDetails d))).run w).after
        (decisionEvents proxy category events ++ [.errorBody (denialDetails d)]) := by
  simp [authorize, run_checkForProxy h, decisionEvents, refuse]

end Authorize

def enteredBy (events : List (Event C)) : List (AuthState C) :=
  events.filterMap fun
    | .innerRequestFilter seen => some seen
    | _ => none

def headersOf (events : List (Event C)) : List ResponseHeader :=
  events.filterMap fun
    | .writeResponseHeader header _ => some header
    | _ => none

def renderedBy (events : List (Event C)) : List ErrorDetails :=
  events.filterMap fun
    | .errorBody details => some details
    | _ => none

def bodiesOf (events : List (Event C)) : List Bytes :=
  events.filterMap fun
    | .writeResponseBody body _ => some body
    | _ => none

def countersOf (events : List (Event C)) : List (String × String × String) :=
  events.filterMap fun
    | .counter metric outcome name => some (metric, outcome, name)
    | _ => none

@[simp] theorem enteredBy_append (es es' : List (Event C)) :
    enteredBy (es ++ es') = enteredBy es ++ enteredBy es' := List.filterMap_append
@[simp] theorem headersOf_append (es es' : List (Event C)) :
    headersOf (es ++ es') = headersOf es ++ headersOf es' := List.filterMap_append
@[simp] theorem renderedBy_append (es es' : List (Event C)) :
    renderedBy (es ++ es') = renderedBy es ++ renderedBy es' := List.filterMap_append
@[simp] theorem bodiesOf_append (es es' : List (Event C)) :
    bodiesOf (es ++ es') = bodiesOf es ++ bodiesOf es' := List.filterMap_append
@[simp] theorem countersOf_append (es es' : List (Event C)) :
    countersOf (es ++ es') = countersOf es ++ countersOf es' := List.filterMap_append

theorem enteredBy_decision {call : GuardCall C} {events : List (Event C)} {nonce : Option String}
    (h : Asked call events nonce) (proxy : AuthProxy C) (category : CheckOutcome) :
    enteredBy (decisionEvents proxy category events) = [] := by
  rcases h.cases with rfl | ⟨fullUri, rfl⟩ <;> rfl

theorem headersOf_decision {call : GuardCall C} {events : List (Event C)} {nonce : Option String}
    (h : Asked call events nonce) (proxy : AuthProxy C) (category : CheckOutcome) :
    headersOf (decisionEvents proxy category events) = [] := by
  rcases h.cases with rfl | ⟨fullUri, rfl⟩ <;> rfl

section Answered

variable [HttpCrate] {status : StatusCode} {challenges : List String} {dpopNonce : Option String}
  {w : World C} {r : Ran Error (World C) (Event C) Bool}

theorem enteredBy_answered (h : Answered status challenges dpopNonce w r) :
    enteredBy r.events = [] := by
  refine List.filterMap_eq_nil_iff.mpr fun e he => ?_
  rcases h.events e he with ⟨header, endOfStream, rfl, -⟩ | ⟨body, rfl⟩ <;> rfl

theorem silent_answered (h : Answered status challenges dpopNonce w r) :
    countersOf r.events = [] ∧ renderedBy r.events = [] := by
  constructor
  · refine List.filterMap_eq_nil_iff.mpr fun e he => ?_
    rcases h.events e he with ⟨header, endOfStream, rfl, -⟩ | ⟨body, rfl⟩ <;> rfl
  · refine List.filterMap_eq_nil_iff.mpr fun e he => ?_
    rcases h.events e he with ⟨header, endOfStream, rfl, -⟩ | ⟨body, rfl⟩ <;> rfl

theorem headersOf_answered (h : Answered status challenges dpopNonce w r) :
    ∀ header ∈ headersOf r.events, Conveys header status challenges dpopNonce := by
  intro header hmem
  obtain ⟨e, he, hsome⟩ := List.mem_filterMap.mp hmem
  rcases h.events e he with ⟨header', endOfStream, rfl, hconveys⟩ | ⟨body, rfl⟩
  · cases hsome
    exact hconveys
  · cases hsome

theorem unasked_answered (h : Answered status challenges dpopNonce w r) : Unasked r.events := by
  intro headers method uri cert hmem
  rcases h.events _ hmem with ⟨header, endOfStream, heq, -⟩ | ⟨body, heq⟩ <;> cases heq

end Answered

theorem run_innerRequestFilter (proxy : AuthProxy C) (w : World C) :
    ((innerRequestFilter proxy).run w).events = [.innerRequestFilter w.auth] ∧
      ((innerRequestFilter proxy).run w).state = proxy.inner.requestFilter.1.apply w := by
  unfold innerRequestFilter
  cases hr : proxy.inner.requestFilter.2 with
  | dropped => simp
  | ready result => cases result <;> simp

theorem run_innerResponseFilter (proxy : AuthProxy C) (w : World C) :
    (innerResponseFilter proxy).run w =
      match proxy.inner.responseFilter.2.2 with
      | .dropped => ⟨.cancelled, { proxy.inner.responseFilter.1.apply w with
          response := proxy.inner.responseFilter.2.1 w.response },
          [.innerResponseFilter w.auth w.response]⟩
      | .ready (.error e) => ⟨.failed e, { proxy.inner.responseFilter.1.apply w with
          response := proxy.inner.responseFilter.2.1 w.response },
          [.innerResponseFilter w.auth w.response]⟩
      | .ready (.ok _) => ⟨.done (), { proxy.inner.responseFilter.1.apply w with
          response := proxy.inner.responseFilter.2.1 w.response },
          [.innerResponseFilter w.auth w.response]⟩ := by
  cases hr : proxy.inner.responseFilter.2.2 with
  | dropped => simp [innerResponseFilter, hr, InnerEffect.apply]
  | ready result => cases result <;> simp [innerResponseFilter, hr, InnerEffect.apply]

end ResourceEffects
