import HuskarlPingora.ResourceEffects

/-! # The boundary of a protected resource

A request is inside when its public URI can be reconstructed and its path is under the
bound resource. Only such a request reaches the guard, and only a guard that forwards
lets it reach the inner proxy. -/
namespace ResourceBoundary

open HttpModel ResourceRules ResourceErrors ResourceContext ResourceGuard ResourceResponse
open ResourceProxy ResourceEffects GuardAuthorization TracedHooks

variable {C : Type}

def publicUri (proxy : ProtectedResourceProxy C) (w : World C) : Option Uri :=
  effectiveRequestUri proxy.auth.guard w.session.reqHeader.uri

structure Inside (proxy : ProtectedResourceProxy C) (w : World C) (uri : Uri) : Prop where
  reconstructed : publicUri proxy w = some uri
  covered : resourcePathMatches proxy.resourcePath uri.path = true

/-- The check the proxy would make of the request, with the audiences of its binding. -/
def boundCall (proxy : ProtectedResourceProxy C) (w : World C) : GuardCall C :=
  proxyCall proxy.auth.guard w.session (some proxy.audiences)

/-- Every check of the guard ends in its counter. -/
def GuardInvoked (events : List (Event C)) : Prop :=
  ∃ label name, .counter "huskarl.resource.check" label name ∈ events

section Decisions

variable [HasScopes C] [ResourceServerLib]

def Forwards (proxy : ProtectedResourceProxy C) (w : World C) (seen : AuthState C) : Prop :=
  ∃ category, (runCheck (boundCall proxy w) w).exit = .done
    (.forward seen.validatedToken seen.dpopNonce seen.stripCredentials, category)

/-- Status, challenges and nonce of the answer to a request that is not forwarded. -/
inductive Refusal (proxy : ProtectedResourceProxy C) (w : World C) :
    StatusCode → List String → Option String → Prop where
  | invalid : publicUri proxy w = none → Refusal proxy w .badRequest [] none
  | outside {uri} : publicUri proxy w = some uri →
      resourcePathMatches proxy.resourcePath uri.path = false → Refusal proxy w .forbidden [] none
  | guard {uri d category} : Inside proxy w uri →
      (runCheck (boundCall proxy w) w).exit = .done (.deny d, category) →
      Refusal proxy w d.status d.challenges d.dpopNonce

def Answers [HttpCrate] (proxy : ProtectedResourceProxy C) (w : World C)
    (header : ResponseHeader) : Prop :=
  ∃ status challenges dpopNonce, Refusal proxy w status challenges dpopNonce ∧
    Conveys header status challenges dpopNonce

structure BoundaryKept [HttpCrate] (proxy : ProtectedResourceProxy C) (w : World C)
    (r : Ran Error (World C) (Event C) Bool) : Prop where
  entered : ∀ seen, seen ∈ enteredBy r.events ↔ (∃ uri, Inside proxy w uri) ∧ Forwards proxy w seen
  once : (enteredBy r.events).length ≤ 1
  kept : enteredBy r.events = [] → r.state.auth = w.auth
  headers : enteredBy r.events = [] → ∀ header ∈ headersOf r.events, Answers proxy w header
  handled : enteredBy r.events = [] → ∀ b, r.exit = .done b →
    b = true ∧ ∃ header, r.state.session.responseWritten = some header ∧ Answers proxy w header
  delivered : ∀ status challenges dpopNonce, Refusal proxy w status challenges dpopNonce →
    Delivers w.session → Legal challenges dpopNonce → r.exit = .done true
  unasked : (∀ uri, ¬ Inside proxy w uri) → Unasked r.events
  guarded : GuardInvoked r.events → ∃ uri, publicUri proxy w = some uri
  audience : ∀ seen ∈ enteredBy r.events, ∀ v, seen.validatedToken = some v →
    Shares proxy.audiences v.aud

end Decisions

section Runs

variable [HttpCrate] [HasScopes C] [ResourceServerLib]
variable {proxy : ProtectedResourceProxy C} {w : World C}

theorem run_inside {uri : Uri} (h : Inside proxy w uri) :
    (proxy.requestFilter).run w = (authorize proxy.auth (some proxy.audiences)).run w := by
  have hu : effectiveRequestUri proxy.auth.guard w.session.reqHeader.uri = some uri :=
    h.reconstructed
  simp [ProtectedResourceProxy.requestFilter, hu, h.covered]

def boundaryLabel (effectiveUri : Option Uri) : String :=
  if effectiveUri.isNone then "invalid_request" else "outside_resource"

def outsideDetails (proxy : ProtectedResourceProxy C) (w : World C) : ErrorDetails :=
  boundaryDetails (boundaryRefusal (publicUri proxy w)).1 (boundaryRefusal (publicUri proxy w)).2

omit [HttpCrate] [HasScopes C] [ResourceServerLib] in
theorem outside_cases (h : ∀ uri, ¬ Inside proxy w uri) : publicUri proxy w = none ∨
    ∃ uri, publicUri proxy w = some uri ∧
      resourcePathMatches proxy.resourcePath uri.path = false := by
  cases hu : publicUri proxy w with
  | none => exact .inl rfl
  | some uri => exact .inr ⟨uri, rfl, by simpa using fun hm => h uri ⟨hu, hm⟩⟩

theorem run_outside (h : ∀ uri, ¬ Inside proxy w uri) : (proxy.requestFilter).run w =
    ((refuse (outsideDetails proxy w).status [] none none
      (proxy.auth.errorBody (outsideDetails proxy w))).run w).after
        [authorizationEvent proxy.auth.guard (boundaryLabel (publicUri proxy w)),
          .errorBody (outsideDetails proxy w)] := by
  rcases outside_cases h with hu | ⟨uri, hu, hm⟩
  · have hu' : effectiveRequestUri proxy.auth.guard w.session.reqHeader.uri = none := hu
    simp [ProtectedResourceProxy.requestFilter, outsideDetails, boundaryLabel, hu, hu',
      boundaryRefusal, boundaryDetails, refuse]
  · have hu' : effectiveRequestUri proxy.auth.guard w.session.reqHeader.uri = some uri := hu
    simp [ProtectedResourceProxy.requestFilter, outsideDetails, boundaryLabel, hu, hu', hm,
      boundaryRefusal, boundaryDetails, refuse]

theorem inside_of_entered {seen : AuthState C}
    (h : seen ∈ enteredBy ((proxy.requestFilter).run w).events) : ∃ uri, Inside proxy w uri := by
  by_contra hno
  have hout : ∀ uri, ¬ Inside proxy w uri := fun uri hi => hno ⟨uri, hi⟩
  rw [run_outside hout, after_events, enteredBy_append,
    enteredBy_answered (answered_refuse _ _ _ _ _ w)] at h
  exact absurd h List.not_mem_nil

omit [HttpCrate] in
theorem refusal_outside (h : ∀ uri, ¬ Inside proxy w uri) :
    Refusal proxy w (outsideDetails proxy w).status [] none := by
  rcases outside_cases h with hu | ⟨uri, hu, hm⟩
  · simpa [outsideDetails, boundaryDetails, boundaryRefusal, hu] using
      (.invalid hu : Refusal proxy w .badRequest [] none)
  · simpa [outsideDetails, boundaryDetails, boundaryRefusal, hu] using Refusal.outside hu hm

omit [HttpCrate] in
theorem refusal_inside {uri : Uri} (h : Inside proxy w uri) {status : StatusCode}
    {challenges : List String} {dpopNonce : Option String}
    (hr : Refusal proxy w status challenges dpopNonce) : ∃ d category,
      (runCheck (boundCall proxy w) w).exit = .done (.deny d, category) ∧ status = d.status ∧
        challenges = d.challenges ∧ dpopNonce = d.dpopNonce := by
  cases hr with
  | invalid hu => exact absurd (hu.symm.trans h.reconstructed) (by simp)
  | @outside uri' hu hm =>
    obtain rfl : uri' = uri := by simpa using hu.symm.trans h.reconstructed
    exact absurd (hm.symm.trans h.covered) (by simp)
  | guard _ hexit => exact ⟨_, _, hexit, rfl, rfl, rfl⟩

theorem kept_forward {uri : Uri} (h : Inside proxy w uri) {token : Option (ValidatedRequest C)}
    {nonce : Option String} {strip : Bool} {category : CheckOutcome} {events : List (Event C)}
    (hrun : runCheck (boundCall proxy w) w =
      ⟨.done (.forward token nonce strip, category), w, events⟩)
    (hp : Permitted (boundCall proxy w) token strip) (ha : Asked (boundCall proxy w) events nonce) :
    BoundaryKept proxy w ((proxy.requestFilter).run w) := by
  obtain ⟨hevents, -⟩ := run_innerRequestFilter proxy.auth { w with auth := ⟨token, nonce, strip⟩ }
  have hentered : enteredBy ((proxy.requestFilter).run w).events = [⟨token, nonce, strip⟩] := by
    rw [run_inside h, run_authorize_forward hrun, after_events, enteredBy_append,
      enteredBy_decision ha, hevents]
    rfl
  have hexit : (runCheck (boundCall proxy w) w).exit =
      .done (.forward token nonce strip, category) := by rw [hrun]
  refine ⟨?_, by simp [hentered], by simp [hentered], by simp [hentered], by simp [hentered],
    ?_, ?_, fun _ => ⟨uri, h.reconstructed⟩, ?_⟩
  · intro seen
    rw [hentered, List.mem_singleton]
    constructor
    · rintro rfl
      exact ⟨⟨uri, h⟩, category, hexit⟩
    · rintro ⟨-, category', hexit'⟩
      rw [hexit] at hexit'
      simp only [Exit.done.injEq, Prod.mk.injEq, Outcome.forward.injEq] at hexit'
      obtain ⟨⟨rfl, rfl, rfl⟩, -⟩ := hexit'
      rfl
  · intro status challenges dpopNonce hr
    obtain ⟨d, category', hexit', -⟩ := refusal_inside h hr
    rw [hexit] at hexit'
    simp at hexit'
  · intro hno
    exact absurd h (hno uri)
  · intro seen hseen v hv
    rw [hentered, List.mem_singleton] at hseen
    subst hseen
    cases hp with
    | pub => cases hv
    | anonymous => cases hv
    | authenticated _ _ hb =>
      cases hv
      exact hb proxy.audiences rfl

/-- Any answer that is written by `refuse` keeps the boundary, whatever came before it. -/
theorem kept_refused {status : StatusCode} {challenges : List String} {dpopNonce : Option String}
    (hr : Refusal proxy w status challenges dpopNonce) {pre : List (Event C)}
    {answer : Ran Error (World C) (Event C) Bool}
    (hrun : (proxy.requestFilter).run w = answer.after pre)
    (ha : Answered status challenges dpopNonce w answer)
    (hunique : ∀ status' challenges' dpopNonce', Refusal proxy w status' challenges' dpopNonce' →
      challenges' = challenges ∧ dpopNonce' = dpopNonce)
    (hblocked : ∀ uri seen, Inside proxy w uri → ¬ Forwards proxy w seen)
    (hpre : enteredBy pre = []) (hheaders : headersOf pre = [])
    (hunasked : (∀ uri, ¬ Inside proxy w uri) → Unasked pre)
    (hguarded : GuardInvoked pre → ∃ uri, publicUri proxy w = some uri) :
    BoundaryKept proxy w ((proxy.requestFilter).run w) := by
  have hentered : enteredBy ((proxy.requestFilter).run w).events = [] := by
    rw [hrun, after_events, enteredBy_append, hpre, enteredBy_answered ha, List.append_nil]
  refine ⟨?_, by simp [hentered], ?_, ?_, ?_, ?_, ?_, ?_, by simp [hentered]⟩
  · intro seen
    rw [hentered]
    constructor
    · intro hmem
      exact absurd hmem List.not_mem_nil
    · rintro ⟨⟨uri, hi⟩, hf⟩
      exact absurd hf (hblocked uri seen hi)
  · intro _
    rw [hrun, after_state, ha.auth]
  · intro _ header hmem
    rw [hrun, after_events, headersOf_append, hheaders, List.nil_append] at hmem
    exact ⟨status, challenges, dpopNonce, hr, headersOf_answered ha header hmem⟩
  · intro _ b hb
    rw [hrun] at hb ⊢
    obtain ⟨rfl, header, hwritten, hconveys⟩ := ha.handled b hb
    exact ⟨rfl, header, hwritten, status, challenges, dpopNonce, hr, hconveys⟩
  · intro status' challenges' dpopNonce' hr' htransport hlegal
    obtain ⟨rfl, rfl⟩ := hunique _ _ _ hr'
    rw [hrun, after_exit]
    exact ha.delivered htransport hlegal
  · intro hno headers method uri cert hmem
    rw [hrun, after_events] at hmem
    rcases List.mem_append.mp hmem with hmem | hmem
    · exact hunasked hno headers method uri cert hmem
    · exact unasked_answered ha headers method uri cert hmem
  · rintro ⟨label, name, hmem⟩
    rw [hrun, after_events] at hmem
    rcases List.mem_append.mp hmem with hmem | hmem
    · exact hguarded ⟨label, name, hmem⟩
    · rcases ha.events _ hmem with ⟨header, endOfStream, heq, -⟩ | ⟨body, heq⟩ <;> cases heq

theorem kept_deny {uri : Uri} (h : Inside proxy w uri) {d : Denial} {category : CheckOutcome}
    {events : List (Event C)}
    (hrun : runCheck (boundCall proxy w) w = ⟨.done (.deny d, category), w, events⟩)
    (ha : Asked (boundCall proxy w) events d.dpopNonce) :
    BoundaryKept proxy w ((proxy.requestFilter).run w) := by
  have hexit : (runCheck (boundCall proxy w) w).exit = .done (.deny d, category) := by rw [hrun]
  refine kept_refused (.guard h hexit) ((run_inside h).trans (run_authorize_deny hrun))
    (answered_refuse _ _ _ _ _ w) ?_ ?_ ?_ ?_ (fun hno => absurd h (hno uri))
    (fun _ => ⟨uri, h.reconstructed⟩)
  · intro status' challenges' dpopNonce' hr
    obtain ⟨d', category', hexit', -, rfl, rfl⟩ := refusal_inside h hr
    rw [hexit] at hexit'
    simp only [Exit.done.injEq, Prod.mk.injEq, Outcome.deny.injEq] at hexit'
    obtain ⟨rfl, -⟩ := hexit'
    exact ⟨rfl, rfl⟩
  · rintro uri' seen - ⟨category', hf⟩
    rw [hexit] at hf
    simp at hf
  · rw [enteredBy_append, enteredBy_decision ha]
    rfl
  · rw [headersOf_append, headersOf_decision ha]
    rfl

theorem kept_outside (h : ∀ uri, ¬ Inside proxy w uri) :
    BoundaryKept proxy w ((proxy.requestFilter).run w) := by
  refine kept_refused (refusal_outside h) (run_outside h) (answered_refuse _ _ _ _ _ w) ?_
    (fun uri seen hi => absurd hi (h uri)) rfl rfl ?_ ?_
  · intro status' challenges' dpopNonce' hr'
    cases hr' with
    | invalid => exact ⟨rfl, rfl⟩
    | outside => exact ⟨rfl, rfl⟩
    | guard hi => exact absurd hi (h _)
  · intro _
    simp [Unasked, authorizationEvent]
  · rintro ⟨label', name, hmem⟩
    simp [authorizationEvent] at hmem

/-- Every request of a bound resource is forwarded under its boundary or answered at it. -/
theorem bound_resource_keeps_boundary (proxy : ProtectedResourceProxy C) (w : World C) :
    BoundaryKept proxy w ((proxy.requestFilter).run w) := by
  by_cases hi : ∃ uri, Inside proxy w uri
  · obtain ⟨uri, hi⟩ := hi
    obtain ⟨outcome, category, events, hrun, hdecided, hasked⟩ :=
      runCheck_decided (boundCall proxy w) w
    cases hdecided with
    | forward nonce hp => exact kept_forward hi hrun hp hasked
    | deny d _ => exact kept_deny hi hrun hasked
  · exact kept_outside fun uri h => hi ⟨uri, h⟩

end Runs

end ResourceBoundary
