import HuskarlPingora.ResourceEffects

/-! # The way of a DPoP nonce

The nonce of a decision is put on the denial, or waits in the context for the first
final header that the inner response filter accepts. -/
namespace NonceDelivery

open HttpModel ResourceRules ResourceErrors ResourceContext ResourceGuard ResourceResponse
open ResourceProxy ResourceEffects GuardAuthorization TracedHooks

variable {C : Type}

/-- One call of `response_filter`: the header it is handed and the inner proxy it meets. -/
structure ResponseCall (C : Type) where
  inner : Inner C
  header : ResponseHeader

def ResponseCall.passed (call : ResponseCall C) : ResponseHeader :=
  call.inner.responseFilter.2.1 call.header

def ResponseCall.settles (call : ResponseCall C) : Bool :=
  decide (call.inner.responseFilter.2.2 = .ready (.ok ())) && !call.passed.status.isInterim

def takenBy (slot : Option String) (call : ResponseCall C) : Option String :=
  if call.settles then none else slot

theorem foldl_takenBy (slot : Option String) (calls : List (ResponseCall C)) :
    calls.foldl takenBy slot = if calls.any ResponseCall.settles then none else slot := by
  induction calls generalizing slot with
  | nil => rfl
  | cons call rest ih =>
    rw [List.foldl_cons, ih, List.any_cons]
    by_cases hs : call.settles <;> simp [takenBy, hs]

section Runs

variable [HttpCrate]

def perform (proxy : AuthProxy C) (call : ResponseCall C) : ResourceHook C Unit := do
  updateResponse fun _ => call.header
  responseFilter { proxy with inner := call.inner }

/-- The header a call leaves behind when the slot held this nonce before it. -/
def handedOn (slot : Option String) (call : ResponseCall C) : ResponseHeader :=
  match call.settles, slot.bind HttpCrate.headerValue with
  | true, some value => call.passed.insertHeader dpopNonceName value
  | _, _ => call.passed

def Sendable (nonce : Option String) : Prop :=
  ∀ n, nonce = some n → (HttpCrate.headerValue n).isSome = true

structure Step (slot : Option String) (call : ResponseCall C)
    (r : Ran Error (World C) (Event C) Unit) : Prop where
  response : r.state.response = handedOn slot call
  slot : r.state.auth.dpopNonce = takenBy slot call
  returns : call.settles = true → r.exit = .done ()

theorem step_stopped (proxy : AuthProxy C) (call : ResponseCall C) (w : World C)
    (h : call.inner.responseFilter.2.2 ≠ .ready (.ok ())) :
    Step w.auth.dpopNonce call ((perform proxy call).run w) := by
  have hs : call.settles = false := by simp [ResponseCall.settles, h]
  have hkeeps := call.inner.responseFilter.1.keeps_nonce w.auth
  have hrun := run_innerResponseFilter { proxy with inner := call.inner }
    { w with response := call.header }
  cases hr : call.inner.responseFilter.2.2 with
  | dropped =>
    simp only [hr] at hrun
    constructor <;> simp [perform, responseFilter, hrun, handedOn, takenBy, hs, hkeeps,
      ResponseCall.passed, InnerEffect.apply]
  | ready result =>
    cases result with
    | ok u => exact absurd hr h
    | error e =>
      simp only [hr] at hrun
      constructor <;> simp [perform, responseFilter, hrun, handedOn, takenBy, hs, hkeeps,
        ResponseCall.passed, InnerEffect.apply]

theorem perform_step (proxy : AuthProxy C) (call : ResponseCall C) (w : World C)
    (hs : Sendable w.auth.dpopNonce) : Step w.auth.dpopNonce call ((perform proxy call).run w) := by
  by_cases hr : call.inner.responseFilter.2.2 = .ready (.ok ())
  swap
  · exact step_stopped proxy call w hr
  have hkeeps := call.inner.responseFilter.1.keeps_nonce w.auth
  have hrun := run_innerResponseFilter { proxy with inner := call.inner }
    { w with response := call.header }
  simp only [hr] at hrun
  by_cases hi : call.passed.status.isInterim
  · have hset : call.settles = false := by simp [ResponseCall.settles, hi]
    simp only [ResponseCall.passed] at hi
    constructor <;> simp [perform, responseFilter, hrun, handedOn, takenBy, hset, hkeeps, hi,
      ResponseCall.passed, InnerEffect.apply]
  · have hset : call.settles = true := by simp [ResponseCall.settles, hr, hi]
    simp only [ResponseCall.passed] at hi
    cases hn : w.auth.dpopNonce with
    | none =>
      rw [hn] at hkeeps
      constructor <;> simp [perform, responseFilter, hrun, handedOn, takenBy, hset, hkeeps, hi,
        ResponseCall.passed, InnerEffect.apply]
    | some nonce =>
      rw [hn] at hkeeps
      obtain ⟨value, hv⟩ := Option.isSome_iff_exists.mp (hs nonce hn)
      constructor <;> simp [perform, responseFilter, hrun, handedOn, takenBy, hset, hkeeps, hi, hv,
        ResponseCall.passed, InnerEffect.apply, headerValue]

theorem sendable_takenBy {slot : Option String} (hs : Sendable slot) (call : ResponseCall C) :
    Sendable (takenBy slot call) := by
  unfold takenBy
  split
  · exact fun n hn => nomatch hn
  · exact hs

theorem final_slot (proxy : AuthProxy C) (calls : List (ResponseCall C)) (w : World C)
    (hs : Sendable w.auth.dpopNonce) : (final (perform proxy) calls w).auth.dpopNonce =
      if calls.any ResponseCall.settles then none else w.auth.dpopNonce := by
  rw [← foldl_takenBy]
  induction calls generalizing w with
  | nil => rfl
  | cons call rest ih =>
    have hslot := (perform_step proxy call w hs).slot
    rw [final, ih _ (hslot ▸ sendable_takenBy hs call), hslot, List.foldl_cons]

/-- What one call does in a run whose request filter put this nonce in the slot. -/
structure Delivered (nonce : Option String) (before : List (ResponseCall C))
    (call : ResponseCall C) (r : Ran Error (World C) (Event C) Unit) : Prop where
  first : ∀ n, nonce = some n → call.settles = true → (∀ b ∈ before, b.settles = false) →
    ∃ value, HttpCrate.headerValue n = some value ∧
      r.state.response = call.passed.insertHeader dpopNonceName value
  other : nonce = none ∨ call.settles = false ∨ (∃ b ∈ before, b.settles = true) →
    r.state.response = call.passed
  slot : r.state.auth.dpopNonce =
    if (before ++ [call]).any ResponseCall.settles then none else nonce
  returns : call.settles = true → r.exit = .done ()

theorem delivered_of_slot (proxy : AuthProxy C) {w : World C} {nonce : Option String}
    (hw : w.auth.dpopNonce = nonce) (hs : Sendable nonce) (before : List (ResponseCall C))
    (call : ResponseCall C) : Delivered nonce before call
      ((perform proxy call).run (final (perform proxy) before w)) := by
  subst hw
  have hslot := final_slot proxy before w hs
  have hsend : Sendable (final (perform proxy) before w).auth.dpopNonce := by
    rw [hslot]
    split
    · exact fun n hn => nomatch hn
    · exact hs
  have hstep := perform_step proxy call _ hsend
  rw [hslot] at hstep
  refine ⟨?_, ?_, ?_, hstep.returns⟩
  · intro n hn hset hbefore
    obtain ⟨value, hv⟩ := Option.isSome_iff_exists.mp (hs n hn)
    have hany : before.any ResponseCall.settles = false := by simpa using hbefore
    refine ⟨value, hv, ?_⟩
    rw [hstep.response, hany, hn]
    simp [handedOn, hset, hv]
  · intro h
    rw [hstep.response]
    rcases h with hnone | hset | ⟨b, hb, hset⟩
    · simp [hnone, handedOn]
    · simp [handedOn, hset]
    · have hany : before.any ResponseCall.settles = true := List.any_eq_true.mpr ⟨b, hb, hset⟩
      simp [hany, handedOn]
  · rw [hstep.slot, List.any_append]
    by_cases hset : call.settles <;> simp [takenBy, hset]

variable [HasScopes C] [ResourceServerLib]

/-- A denial carries its nonce on every header it hands over and on the one it leaves
written. A forward hands its nonce to the response calls that follow. -/
structure NonceRun (proxy : AuthProxy C) (audiences : Option (List String)) (w : World C)
    (outcome : Outcome C) : Prop where
  handed : ∀ d, outcome = .deny d → ∀ header ∈ headersOf ((authorize proxy audiences).run w).events,
    (header.getAll dpopNonceName).map some = d.dpopNonce.toList.map HttpCrate.headerValue
  written : ∀ d, outcome = .deny d → ∀ b, ((authorize proxy audiences).run w).exit = .done b →
    ∃ header, ((authorize proxy audiences).run w).state.session.responseWritten = some header ∧
      (header.getAll dpopNonceName).map some = d.dpopNonce.toList.map HttpCrate.headerValue
  unwritten : ∀ token nonce strip, outcome = .forward token nonce strip →
    headersOf ((authorize proxy audiences).run w).events = []
  forwarded : ∀ token nonce strip, outcome = .forward token nonce strip → ∀ before call,
    Delivered nonce before call ((perform proxy call).run
      (final (perform proxy) before ((authorize proxy audiences).run w).state))

theorem nonceRun_forward {proxy : AuthProxy C} {audiences : Option (List String)} {w : World C}
    {token : Option (ValidatedRequest C)} {nonce : Option String} {strip : Bool}
    {category : CheckOutcome} {events : List (Event C)}
    (h : runCheck (proxyCall proxy.guard w.session audiences) w =
      ⟨.done (.forward token nonce strip, category), w, events⟩)
    (ha : Asked (proxyCall proxy.guard w.session audiences) events nonce) (hs : Sendable nonce) :
    NonceRun proxy audiences w (.forward token nonce strip) := by
  have hslot : ((authorize proxy audiences).run w).state.auth.dpopNonce = nonce := by
    rw [run_authorize_forward h, after_state, (run_innerRequestFilter _ _).2]
    exact proxy.inner.requestFilter.1.keeps_nonce _
  constructor
  · intro d hd
    cases hd
  · intro d hd
    cases hd
  · intro _ _ _ _
    rw [run_authorize_forward h, after_events, headersOf_append, headersOf_decision ha,
      (run_innerRequestFilter _ _).1]
    rfl
  · intro token' nonce' strip' heq before call
    cases heq
    exact delivered_of_slot proxy hslot hs before call

theorem nonceRun_deny {proxy : AuthProxy C} {audiences : Option (List String)} {w : World C}
    {d : Denial} {category : CheckOutcome} {events : List (Event C)}
    (h : runCheck (proxyCall proxy.guard w.session audiences) w =
      ⟨.done (.deny d, category), w, events⟩)
    (ha : Asked (proxyCall proxy.guard w.session audiences) events d.dpopNonce) :
    NonceRun proxy audiences w (.deny d) := by
  have hrun := run_authorize_deny h
  have hanswered := answered_refuse d.status d.challenges d.dpopNonce d.retryAfter
    (proxy.errorBody (denialDetails d)) w
  constructor
  · intro d' hd header hmem
    cases hd
    rw [hrun, after_events, headersOf_append, headersOf_append, headersOf_decision ha] at hmem
    exact (headersOf_answered hanswered header (by simpa [headersOf] using hmem)).nonce
  · intro d' hd b hb
    cases hd
    rw [hrun] at hb ⊢
    obtain ⟨-, header, hwritten, hconveys⟩ := hanswered.handled b hb
    exact ⟨header, hwritten, hconveys.nonce⟩
  · intro token nonce strip heq
    cases heq
  · intro token nonce strip heq
    cases heq

/-- The outcome of a check carries the nonce of the validator it asked, and none if it
asked none. A nonce that is a legal header value then reaches the denial, or the first
settling response and nothing else, whatever the context held before. -/
theorem nonce_delivered_exactly (proxy : AuthProxy C) (audiences : Option (List String))
    (w : World C) : ∃ outcome category events,
      runCheck (proxyCall proxy.guard w.session audiences) w =
        ⟨.done (outcome, category), w, events⟩ ∧
      Asked (proxyCall proxy.guard w.session audiences) events outcome.dpopNonce ∧
      (Sendable outcome.dpopNonce → NonceRun proxy audiences w outcome) := by
  obtain ⟨outcome, category, events, hrun, hdecided, hasked⟩ :=
    runCheck_decided (proxyCall proxy.guard w.session audiences) w
  refine ⟨outcome, category, events, hrun, hasked, fun hs => ?_⟩
  cases hdecided with
  | forward nonce _ => exact nonceRun_forward hrun hasked hs
  | deny d _ => exact nonceRun_deny hrun hasked

end Runs

section Retried

def anonymousProxy : AuthProxy Rfc9068AccessTokenClaims :=
  { inner := .idle
    guard :=
      { validator := fun _ _ _ _ => ⟨.ok none, some "n1"⟩
        metadata := ⟨fun _ _ _ => [], fun _ => [], fun _ _ _ => ⟨.unauthorized, [], none⟩⟩
        policy := ⟨⟨fun _ _ => .ok ⟨.optional, [], [], none, none, true, .any⟩⟩, [], none⟩
        requestMapping := none }
    errorBody := fun _ => ⟨[], none⟩ }

def anonymousWorld : World Rfc9068AccessTokenClaims where
  session := ⟨⟨.get, ⟨none, none, some ⟨"/app", none⟩⟩, []⟩, none, none, .ready (.ok ()),
    .ready (.ok ())⟩
  auth := ⟨none, some "stale", true⟩
  upstream := ⟨.get, ⟨none, none, none⟩, []⟩
  response := .build .ok

local instance : HttpCrate :=
  ⟨fun text => if text.toList.all fun c => 32 ≤ c.toNat ∧ c.toNat < 127 then some ⟨text⟩ else none,
    fun _ => none⟩

local instance : ResourceServerLib := ⟨none, .client .insufficientScope "insufficient scope"⟩

theorem nonce_delivered_exactly_anonymous :
    NonceRun anonymousProxy none anonymousWorld (.forward none (some "n1") true) := by
  obtain ⟨outcome, category, events, hrun, -, h⟩ :=
    nonce_delivered_exactly anonymousProxy none anonymousWorld
  have hforward : (runCheck (proxyCall anonymousProxy.guard anonymousWorld.session none)
      anonymousWorld).exit = .done (.forward none (some "n1") true, .forward) := rfl
  rw [hrun] at hforward
  cases hforward
  exact h fun n hn => by cases hn; decide

end Retried

end NonceDelivery
