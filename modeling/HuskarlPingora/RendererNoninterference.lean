import Mathlib.Data.List.Forall2
import HuskarlPingora.RejectionResponses
import HuskarlPingora.ResourceBoundary
import HuskarlPingora.ResourceBinding

/-! # The renderer decides the body and nothing else

Two runs are compared that differ in the renderer of their rejections. -/
namespace RendererNoninterference

open HttpModel ResourceRules ResourceErrors ResourceContext ResourceGuard ResourceResponse
open ResourceProxy ResourceEffects ResourceBoundary ResourceBinding RejectionResponses
open MetadataPublisher GuardAuthorization TracedHooks

variable {C : Type}

/-- Two headers that differ at most in the fields that describe the body. -/
structure SameButBody (header header' : ResponseHeader) : Prop where
  status : header.status = header'.status
  fields : ∀ name, name ≠ contentTypeName → name ≠ contentLengthName →
    header.getAll name = header'.getAll name

structure Confined (w : World C) (r r' : Ran Error (World C) (Event C) Bool) : Prop where
  decision : enteredBy r.events = enteredBy r'.events
  context : r.state.auth = r'.state.auth
  counters : countersOf r.events = countersOf r'.events
  rejections : List.Forall₂ SameButBody (headersOf r.events) (headersOf r'.events)
  head : w.session.reqHeader.method = .head → enteredBy r.events = [] →
    bodiesOf r.events = [] ∧ bodiesOf r'.events = []
  rendered : renderedBy r.events = renderedBy r'.events
  delivered : Delivers w.session → r.exit = r'.exit

/-- The renderer is invoked once for a denial, with what is then written, and not at all
for a request that is forwarded. -/
inductive RenderedOnce [HttpCrate] (r : Ran Error (World C) (Event C) Bool) : Prop where
  | forwarded {seen} : enteredBy r.events = [seen] → renderedBy r.events = [] → RenderedOnce r
  | denied {details dpopNonce} : enteredBy r.events = [] → renderedBy r.events = [details] →
      (∀ header ∈ headersOf r.events, Conveys header details.status details.challenges dpopNonce) →
      RenderedOnce r

section Denials

variable [HttpCrate]

theorem sameButBody_complete {header header' : ResponseHeader} {status : StatusCode}
    {challenges : List String} {dpopNonce : Option String} {retryAfter : Option Duration}
    {body body' : ErrorBodyResponse}
    (h : Complete header status challenges dpopNonce retryAfter body)
    (h' : Complete header' status challenges dpopNonce retryAfter body') :
    SameButBody header header' := by
  have hinj : ∀ values values' : List HeaderValue, values.map some = values'.map some →
      values = values' := by
    intro values values' heq
    exact List.map_injective_iff.mpr (Option.some_injective _) heq
  constructor
  · rw [h.status, h'.status]
  · intro name htype hlength
    by_cases hw : name = wwwAuthenticateName
    · subst hw
      exact hinj _ _ (h.challenges.trans h'.challenges.symm)
    by_cases hn : name = dpopNonceName
    · subst hn
      exact hinj _ _ (h.nonce.trans h'.nonce.symm)
    by_cases hr : name = retryAfterName
    · subst hr
      rw [h.retryAfter, h'.retryAfter]
    by_cases hc : name = cacheControlName
    · subst hc
      rw [h.cacheControl, h'.cacheControl]
    have hother : name ∉ rejectionNames := by
      simp [rejectionNames, hw, hn, hr, hc, htype, hlength]
    rw [h.others name hother, h'.others name hother]

theorem challengeHeader_error {status : StatusCode} {challenges : List String}
    {dpopNonce : Option String} {retryAfter : Option Duration} {body : ErrorBodyResponse}
    {e : Error} (h : challengeHeader status challenges dpopNonce retryAfter body = .error e)
    (body' : ErrorBodyResponse) :
    challengeHeader status challenges dpopNonce retryAfter body' = .error e := by
  unfold challengeHeader at h ⊢
  cases hc : appendChallenges (.build status) challenges with
  | error e' => simpa [hc, bind, Except.bind] using h
  | ok header =>
    cases hn : insertNonce header dpopNonce with
    | error e' => simpa [hc, hn, bind, Except.bind] using h
    | ok header' => simp [hc, hn, bind, Except.bind, pure, Except.pure] at h

def denyRun (w : World C) (pre : List (Event C)) (details : ErrorDetails)
    (dpopNonce : Option String) (retryAfter : Option Duration) (body : ErrorBodyResponse) :
    Ran Error (World C) (Event C) Bool :=
  ((refuse details.status details.challenges dpopNonce retryAfter body).run w).after
    (pre ++ [.errorBody details])

structure Before (pre : List (Event C)) : Prop where
  entered : enteredBy pre = []
  headers : headersOf pre = []
  bodies : bodiesOf pre = []
  rendered : renderedBy pre = []

variable {w : World C} {pre : List (Event C)}

theorem denyRun_books (hpre : Before pre) (details : ErrorDetails) (dpopNonce : Option String)
    (retryAfter : Option Duration) (body : ErrorBodyResponse) :
    let r := denyRun w pre details dpopNonce retryAfter body
    let answer := (refuse details.status details.challenges dpopNonce retryAfter body).run w
    enteredBy r.events = [] ∧ renderedBy r.events = [details] ∧
      countersOf r.events = countersOf pre ∧ headersOf r.events = headersOf answer.events ∧
      bodiesOf r.events = bodiesOf answer.events ∧ r.state.auth = w.auth := by
  have hanswered := answered_refuse details.status details.challenges dpopNonce retryAfter body w
  obtain ⟨hcounters, hrendered⟩ := silent_answered hanswered
  have hentered := enteredBy_answered hanswered
  simp only [denyRun, after_events, after_state, enteredBy_append, renderedBy_append,
    countersOf_append, headersOf_append, bodiesOf_append, hpre.entered, hpre.headers, hpre.bodies,
    hpre.rendered, hcounters, hrendered, hentered, hanswered.auth]
  simp [enteredBy, renderedBy, countersOf, headersOf, bodiesOf]

theorem renderedOnce_denyRun (hpre : Before pre) (details : ErrorDetails)
    (dpopNonce : Option String) (retryAfter : Option Duration) (body : ErrorBodyResponse) :
    RenderedOnce (denyRun w pre details dpopNonce retryAfter body) := by
  have hanswered := answered_refuse details.status details.challenges dpopNonce retryAfter body w
  obtain ⟨hentered, hrendered, -, hheaders, -⟩ :=
    denyRun_books (w := w) hpre details dpopNonce retryAfter body
  have hconveys : ∀ header ∈ headersOf (denyRun w pre details dpopNonce retryAfter body).events,
      Conveys header details.status details.challenges dpopNonce := by
    rw [hheaders]
    exact headersOf_answered hanswered
  exact .denied hentered hrendered hconveys

theorem bodiesOf_head {details : ErrorDetails} {dpopNonce : Option String}
    {retryAfter : Option Duration} {body : ErrorBodyResponse}
    (hhead : w.session.reqHeader.method = .head) :
    bodiesOf ((refuse details.status details.challenges dpopNonce retryAfter body).run w).events =
      [] := by
  have hrejected := run_refuse details.status details.challenges dpopNonce retryAfter body w
  by_cases hlegal : Legal details.challenges dpopNonce
  · obtain ⟨header, -, hsent⟩ := hrejected.whole hlegal
    have hfollowed : followed w body = false := by simp [followed, hhead]
    rw [hfollowed] at hsent
    obtain ⟨more, hmore⟩ := hsent.within
    have hall : bodiesOf (sentEvents header false body.body : List (Event C)) = [] := rfl
    rw [← hmore, bodiesOf_append, List.append_eq_nil_iff] at hall
    exact hall.1
  · obtain ⟨e, hrun⟩ := hrejected.nothing hlegal
    rw [hrun]
    rfl

theorem rejections_alike (details : ErrorDetails) (dpopNonce : Option String)
    (retryAfter : Option Duration) (body body' : ErrorBodyResponse) (w : World C) :
    let answer := (refuse details.status details.challenges dpopNonce retryAfter body).run w
    let answer' := (refuse details.status details.challenges dpopNonce retryAfter body').run w
    List.Forall₂ SameButBody (headersOf answer.events) (headersOf answer'.events) ∧
      (Delivers w.session → answer.exit = answer'.exit) := by
  intro answer answer'
  have hrejected := run_refuse details.status details.challenges dpopNonce retryAfter body w
  have hrejected' := run_refuse details.status details.challenges dpopNonce retryAfter body' w
  by_cases hlegal : Legal details.challenges dpopNonce
  · obtain ⟨header, hcomplete, hsent⟩ := hrejected.whole hlegal
    obtain ⟨header', hcomplete', hsent'⟩ := hrejected'.whole hlegal
    constructor
    · rw [headersOf_sent hsent, headersOf_sent hsent']
      exact .cons (sameButBody_complete hcomplete hcomplete') .nil
    · intro hdelivers
      exact (hsent.whole hdelivers).trans (hsent'.whole hdelivers).symm
  · obtain ⟨e, hheader⟩ : ∃ e,
        challengeHeader details.status details.challenges dpopNonce retryAfter body = .error e := by
      cases hheader :
          challengeHeader details.status details.challenges dpopNonce retryAfter body with
      | error e => exact ⟨e, rfl⟩
      | ok header => exact absurd (legal_of_conveys (challengeHeader_conveys hheader)) hlegal
    have hrun : answer = ⟨.failed e, w, []⟩ := by
      simp [answer, refuse, writeChallengeResponse, hheader]
    have hrun' : answer' = ⟨.failed e, w, []⟩ := by
      simp [answer', refuse, writeChallengeResponse, challengeHeader_error hheader body']
    rw [hrun, hrun']
    exact ⟨.nil, fun _ => rfl⟩

theorem confined_denyRun (hpre : Before pre) (details : ErrorDetails) (dpopNonce : Option String)
    (retryAfter : Option Duration) (body body' : ErrorBodyResponse) :
    Confined w (denyRun w pre details dpopNonce retryAfter body)
      (denyRun w pre details dpopNonce retryAfter body') := by
  obtain ⟨hentered, hrendered, hcounters, hheaders, hbodies, hauth⟩ :=
    denyRun_books (w := w) hpre details dpopNonce retryAfter body
  obtain ⟨hentered', hrendered', hcounters', hheaders', hbodies', hauth'⟩ :=
    denyRun_books (w := w) hpre details dpopNonce retryAfter body'
  obtain ⟨halike, hexit⟩ := rejections_alike details dpopNonce retryAfter body body' w
  constructor
  · rw [hentered, hentered']
  · rw [hauth, hauth']
  · rw [hcounters, hcounters']
  · rw [hheaders, hheaders']
    exact halike
  · intro hhead _
    rw [hbodies, hbodies']
    exact ⟨bodiesOf_head hhead, bodiesOf_head hhead⟩
  · rw [hrendered, hrendered']
  · exact hexit

end Denials

section Filters

variable [HttpCrate] [HasScopes C] [ResourceServerLib]

omit [HttpCrate] [HasScopes C] [ResourceServerLib] in
theorem confined_refl {w : World C} {r : Ran Error (World C) (Event C) Bool} {seen : AuthState C}
    (h : enteredBy r.events = [seen]) : Confined w r r := by
  have hsame : List.Forall₂ SameButBody (headersOf r.events) (headersOf r.events) :=
    List.forall₂_same.mpr fun header _ => ⟨rfl, fun _ _ _ => rfl⟩
  refine ⟨rfl, rfl, rfl, hsame, ?_, rfl, fun _ => rfl⟩
  intro _ hnone
  rw [h] at hnone
  cases hnone

omit [HttpCrate] [HasScopes C] [ResourceServerLib] in
theorem before_decision {call : GuardCall C} {events : List (Event C)} {nonce : Option String}
    (h : Asked call events nonce) (proxy : AuthProxy C) (category : CheckOutcome) :
    Before (decisionEvents proxy category events) := by
  rcases h.cases with rfl | ⟨fullUri, rfl⟩ <;> exact ⟨rfl, rfl, rfl, rfl⟩

/-- What a renderer and a client are told of a denial. -/
structure Renders (d : Denial) (r : Ran Error (World C) (Event C) Bool) : Prop where
  unentered : enteredBy r.events = []
  rendered : renderedBy r.events = [denialDetails d]
  conveyed : ∀ header ∈ headersOf r.events, Conveys header d.status d.challenges d.dpopNonce

theorem authorize_renders {proxy : AuthProxy C} {audiences : Option (List String)} {w : World C}
    {d : Denial} {category : CheckOutcome} {events : List (Event C)}
    (h : runCheck (proxyCall proxy.guard w.session audiences) w =
      ⟨.done (.deny d, category), w, events⟩) : Renders d ((authorize proxy audiences).run w) := by
  obtain ⟨outcome, category', events', hrun, -, hasked⟩ :=
    runCheck_decided (proxyCall proxy.guard w.session audiences) w
  obtain ⟨⟨rfl, rfl⟩, rfl⟩ : (outcome = .deny d ∧ category' = category) ∧ events' = events := by
    simpa using hrun.symm.trans h
  have hpre := before_decision hasked proxy category'
  have hdenied : (authorize proxy audiences).run w =
      denyRun w (decisionEvents proxy category' events') (denialDetails d) d.dpopNonce
        d.retryAfter (proxy.errorBody (denialDetails d)) := run_authorize_deny h
  have hanswered := answered_refuse d.status d.challenges d.dpopNonce d.retryAfter
    (proxy.errorBody (denialDetails d)) w
  obtain ⟨hentered, hrendered, -, hheaders, -⟩ := denyRun_books (w := w) hpre (denialDetails d)
    d.dpopNonce d.retryAfter (proxy.errorBody (denialDetails d))
  rw [hdenied]
  refine ⟨hentered, hrendered, ?_⟩
  rw [hheaders]
  exact headersOf_answered hanswered

structure Confines (w : World C) (r r' : Ran Error (World C) (Event C) Bool) : Prop where
  alike : Confined w r r'
  once : RenderedOnce r
  once' : RenderedOnce r'

theorem authorize_confines (proxy : AuthProxy C) (audiences : Option (List String))
    (f g : ErrorDetails → ErrorBodyResponse) (w : World C) :
    Confines w ((authorize (proxy.withErrorBody f) audiences).run w)
      ((authorize (proxy.withErrorBody g) audiences).run w) := by
  obtain ⟨outcome, category, events, hrun, -, hasked⟩ :=
    runCheck_decided (proxyCall proxy.guard w.session audiences) w
  have hpre := before_decision hasked proxy category
  cases outcome with
  | forward token nonce strip =>
    have hsame : ∀ h, (authorize (proxy.withErrorBody h) audiences).run w =
        ((innerRequestFilter proxy).run { w with auth := ⟨token, nonce, strip⟩ }).after
          (decisionEvents proxy category events) := by
      intro h
      have hforward : runCheck (proxyCall (proxy.withErrorBody h).guard w.session audiences) w =
        ⟨.done (.forward token nonce strip, category), w, events⟩ := hrun
      exact run_authorize_forward hforward
    rw [hsame f, hsame g]
    obtain ⟨hevents, -⟩ := run_innerRequestFilter proxy { w with auth := ⟨token, nonce, strip⟩ }
    generalize (innerRequestFilter proxy).run { w with auth := ⟨token, nonce, strip⟩ } = r
      at hevents
    have hentered : enteredBy (r.after (decisionEvents proxy category events)).events =
        [⟨token, nonce, strip⟩] := by
      rw [after_events, enteredBy_append, hpre.entered, hevents]
      rfl
    have hrendered : renderedBy (r.after (decisionEvents proxy category events)).events = [] := by
      rw [after_events, renderedBy_append, hpre.rendered, hevents]
      rfl
    exact ⟨confined_refl hentered, .forwarded hentered hrendered, .forwarded hentered hrendered⟩
  | deny d =>
    have hdeny : ∀ h, (authorize (proxy.withErrorBody h) audiences).run w =
        denyRun w (decisionEvents proxy category events) (denialDetails d) d.dpopNonce d.retryAfter
          (h (denialDetails d)) := by
      intro h
      have hdenied : runCheck (proxyCall (proxy.withErrorBody h).guard w.session audiences) w =
        ⟨.done (.deny d, category), w, events⟩ := hrun
      exact run_authorize_deny hdenied
    rw [hdeny f, hdeny g]
    exact ⟨confined_denyRun hpre _ _ _ _ _, renderedOnce_denyRun hpre _ _ _ _,
      renderedOnce_denyRun hpre _ _ _ _⟩

theorem requestFilter_confines (proxy : ProtectedResourceProxy C)
    (f g : ErrorDetails → ErrorBodyResponse) (w : World C) :
    Confines w ((proxy.withErrorBody f).requestFilter.run w)
      ((proxy.withErrorBody g).requestFilter.run w) := by
  by_cases hi : ∃ uri, Inside proxy w uri
  · obtain ⟨uri, hi⟩ := hi
    have hinside : ∀ h, Inside (proxy.withErrorBody h) w uri :=
      fun _ => ⟨hi.reconstructed, hi.covered⟩
    rw [run_inside (hinside f), run_inside (hinside g)]
    exact authorize_confines proxy.auth (some proxy.audiences) f g w
  · have hout : ∀ h uri, ¬ Inside (proxy.withErrorBody h) w uri :=
      fun _ uri hin => hi ⟨uri, hin.reconstructed, hin.covered⟩
    have hdeny : ∀ h, (proxy.withErrorBody h).requestFilter.run w =
        denyRun w [authorizationEvent proxy.auth.guard (boundaryLabel (publicUri proxy w))]
          (outsideDetails proxy w) none none (h (outsideDetails proxy w)) :=
      fun h => run_outside (hout h)
    have hpre : Before
        [authorizationEvent proxy.auth.guard (boundaryLabel (publicUri proxy w)) (C := C)] :=
      ⟨rfl, rfl, rfl, rfl⟩
    rw [hdeny f, hdeny g]
    exact ⟨confined_denyRun hpre _ _ _ _ _, renderedOnce_denyRun hpre _ _ _ _,
      renderedOnce_denyRun hpre _ _ _ _⟩

end Filters

section Replacement

/-- Replacing one field any number of times replaces it once, with the last value. -/
theorem foldl_put {α β : Type} (put : α → β → α) (get : α → β)
    (hsame : ∀ x, put x (get x) = x) (hlast : ∀ x a b, put (put x a) b = put x b)
    (hget : ∀ x a, get (put x a) = a) (values : List β) (x : α) :
    values.foldl put x = put x (values.getLast?.getD (get x)) := by
  induction values generalizing x with
  | nil => exact (hsame x).symm
  | cons value rest ih =>
    rw [List.foldl_cons, ih, hget, hlast]
    cases rest <;> rfl

theorem foldl_withErrorBody_auth (fs : List (ErrorDetails → ErrorBodyResponse))
    (proxy : AuthProxy C) : fs.foldl AuthProxy.withErrorBody proxy =
      proxy.withErrorBody (fs.getLast?.getD proxy.errorBody) :=
  foldl_put AuthProxy.withErrorBody AuthProxy.errorBody (fun _ => rfl) (fun _ _ _ => rfl)
    (fun _ _ => rfl) fs proxy

theorem foldl_withErrorBody_resource (fs : List (ErrorDetails → ErrorBodyResponse))
    (proxy : ProtectedResourceProxy C) : fs.foldl ProtectedResourceProxy.withErrorBody proxy =
      proxy.withErrorBody (fs.getLast?.getD proxy.auth.errorBody) :=
  foldl_put ProtectedResourceProxy.withErrorBody (fun proxy => proxy.auth.errorBody)
    (fun _ => rfl) (fun _ _ _ => rfl) (fun _ _ => rfl) fs proxy

theorem foldl_withErrorBody_bound (fs : List (ErrorDetails → ErrorBodyResponse))
    (bound : BoundResource (ProtectedResourceProxy C)) :
    fs.foldl BoundResource.withErrorBody bound =
      bound.withErrorBody (fs.getLast?.getD bound.proxy.auth.errorBody) :=
  foldl_put BoundResource.withErrorBody (fun bound => bound.proxy.auth.errorBody)
    (fun _ => rfl) (fun _ _ _ => rfl) (fun _ _ => rfl) fs bound

variable [HttpCrate]

theorem protectedResource_withErrorBody (definition : ResourceDefinition)
    (validator : AccessTokenValidator C) (policy : ResourcePolicy C) (inner : Inner C)
    (f g : ErrorDetails → ErrorBodyResponse) :
    protectedResource definition validator policy inner g =
      (protectedResource definition validator policy inner f).map fun parts =>
        (parts.1.withErrorBody g, parts.2) := by
  unfold protectedResource
  cases forResource validator policy definition <;> rfl

/-- A renderer set after binding might as well have been set before. -/
theorem build_withErrorBody (definition : ResourceDefinition) (validator : AccessTokenValidator C)
    (policy : ResourcePolicy C) (inner : Inner C) (f g : ErrorDetails → ErrorBodyResponse) :
    (BoundResource.build definition validator policy inner f).map (·.withErrorBody g) =
      BoundResource.build definition validator policy inner g := by
  have hparts := protectedResource_withErrorBody definition validator policy inner f g
  unfold BoundResource.build
  split
  · rename_i error hf
    split
    · rename_i error' hg
      rw [hparts, hf] at hg
      cases hg
      rfl
    · rename_i hg
      rw [hparts, hf] at hg
      cases hg
  · rename_i proxy metadata hf
    split
    · rename_i error' hg
      rw [hparts, hf] at hg
      cases hg
    · rename_i hg
      rw [hparts, hf] at hg
      cases hg
      rfl

/-- Any number of replacements leaves everything but the renderer, which is the last one. -/
structure Replaced (fs : List (ErrorDetails → ErrorBodyResponse)) : Prop where
  auth : ∀ proxy : AuthProxy C, let proxy' := fs.foldl AuthProxy.withErrorBody proxy
    proxy'.guard = proxy.guard ∧ proxy'.inner = proxy.inner ∧
      proxy'.errorBody = fs.getLast?.getD proxy.errorBody
  resource : ∀ proxy : ProtectedResourceProxy C,
    let proxy' := fs.foldl ProtectedResourceProxy.withErrorBody proxy
    proxy'.auth.guard = proxy.auth.guard ∧ proxy'.auth.inner = proxy.auth.inner ∧
      proxy'.resourcePath = proxy.resourcePath ∧ proxy'.audiences = proxy.audiences ∧
      proxy'.auth.errorBody = fs.getLast?.getD proxy.auth.errorBody
  bound : ∀ bound : BoundResource (ProtectedResourceProxy C),
    let bound' := fs.foldl BoundResource.withErrorBody bound
    bound'.definition = bound.definition ∧ bound'.metadata = bound.metadata ∧
      bound'.proxy.auth.guard = bound.proxy.auth.guard ∧
      bound'.proxy.resourcePath = bound.proxy.resourcePath ∧
      bound'.proxy.audiences = bound.proxy.audiences
  built : ∀ definition (validator : AccessTokenValidator C) policy inner f,
    (BoundResource.build definition validator policy inner f).map
        (fs.foldl BoundResource.withErrorBody ·) =
      BoundResource.build definition validator policy inner (fs.getLast?.getD f)

theorem build_renderer {definition : ResourceDefinition} {validator : AccessTokenValidator C}
    {policy : ResourcePolicy C} {inner : Inner C} {f : ErrorDetails → ErrorBodyResponse}
    {bound : BoundResource (ProtectedResourceProxy C)}
    (h : BoundResource.build definition validator policy inner f = .ok bound) :
    bound.proxy.auth.errorBody = f := by
  have hsame := build_withErrorBody definition validator policy inner f f
  rw [h] at hsame
  have heq : bound.withErrorBody f = bound := Except.ok.inj hsame
  rw [← heq]
  rfl

theorem replaced (fs : List (ErrorDetails → ErrorBodyResponse)) : Replaced (C := C) fs := by
  constructor
  · intro proxy
    rw [foldl_withErrorBody_auth]
    exact ⟨rfl, rfl, rfl⟩
  · intro proxy
    rw [foldl_withErrorBody_resource]
    exact ⟨rfl, rfl, rfl, rfl, rfl⟩
  · intro bound
    rw [foldl_withErrorBody_bound]
    exact ⟨rfl, rfl, rfl, rfl, rfl⟩
  · intro definition validator policy inner f
    rw [← build_withErrorBody definition validator policy inner f (fs.getLast?.getD f)]
    cases h : BoundResource.build definition validator policy inner f with
    | error e => rfl
    | ok bound =>
      have hf := build_renderer h
      simp only [Except.map, foldl_withErrorBody_bound, hf]

variable [HasScopes C] [ResourceServerLib]

/-- Whichever renderer is installed, a request is decided alike and a rejection differs in
its body only. Replacing the renderer keeps the guard, the binding and the metadata. -/
theorem renderer_confined_to_body (f g : ErrorDetails → ErrorBodyResponse) :
    (∀ (proxy : AuthProxy C) (w : World C),
      Confines w ((requestFilter (proxy.withErrorBody f)).run w)
        ((requestFilter (proxy.withErrorBody g)).run w)) ∧
    (∀ (proxy : ProtectedResourceProxy C) (w : World C),
      Confines w ((proxy.withErrorBody f).requestFilter.run w)
        ((proxy.withErrorBody g).requestFilter.run w)) ∧
    (∀ (proxy : AuthProxy C) (w : World C),
      (upstreamRequestFilter (proxy.withErrorBody f)).run w =
          (upstreamRequestFilter (proxy.withErrorBody g)).run w ∧
        (responseFilter (proxy.withErrorBody f)).run w =
          (responseFilter (proxy.withErrorBody g)).run w) ∧
    ∀ fs, Replaced (C := C) fs := by
  refine ⟨?_, ?_, ?_, replaced⟩
  · intro proxy w
    exact authorize_confines proxy none f g w
  · intro proxy w
    exact requestFilter_confines proxy f g w
  · intro proxy w
    exact ⟨rfl, rfl⟩

end Replacement

end RendererNoninterference
