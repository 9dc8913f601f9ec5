import HuskarlPingora.NonceDelivery
import HuskarlPingora.ResourceBoundary

/-! # Credentials on the way upstream

A forwarded request leaves its token and its strip flag in the context. The hooks that
follow read them there, however many upstream attempts are made. -/
namespace CredentialStripping

open HttpModel ResourceRules ResourceErrors ResourceContext ResourceGuard ResourceProxy
open ResourceEffects ResourceBoundary GuardAuthorization NonceDelivery TracedHooks
open FieldMultimap (getAll getAll_remove_self getAll_remove_ne)

variable {C : Type}

/-- The two adapters. The second delegates every hook but the first to an `AuthProxy`. -/
inductive Adapter (C : Type) where
  | plain (proxy : AuthProxy C)
  | bound (proxy : ProtectedResourceProxy C)

namespace Adapter

def auth : Adapter C → AuthProxy C
  | .plain proxy => proxy
  | .bound proxy => proxy.auth

def audiences : Adapter C → Option (List String)
  | .plain _ => none
  | .bound proxy => some proxy.audiences

def call (adapter : Adapter C) (w : World C) : GuardCall C :=
  proxyCall adapter.auth.guard w.session adapter.audiences

def requestFilter [HttpCrate] [HasScopes C] [ResourceServerLib] : Adapter C → ResourceHook C Bool
  | .plain proxy => ResourceProxy.requestFilter proxy
  | .bound proxy => proxy.requestFilter

end Adapter

/-- A hook the server calls once the request filter forwarded: an upstream attempt, a
response header, or a hook that goes to the inner proxy unchanged. -/
inductive LaterCall (C : Type) where
  | attempt (inner : Inner C) (upstream : RequestHeader)
  | response (call : ResponseCall C)
  | delegated (effect : InnerEffect C)

def LaterCall.effect : LaterCall C → InnerEffect C
  | .attempt inner _ => inner.upstreamRequestFilter.1
  | .response call => call.inner.responseFilter.1
  | .delegated effect => effect

def attemptUpstream (proxy : AuthProxy C) (inner : Inner C) (upstream : RequestHeader) :
    ResourceHook C Unit := do
  update fun w => { w with upstream := upstream }
  upstreamRequestFilter { proxy with inner := inner }

def later [HttpCrate] (proxy : AuthProxy C) : LaterCall C → ResourceHook C Unit
  | .attempt inner upstream => attemptUpstream proxy inner upstream
  | .response call => perform proxy call
  | .delegated effect => update effect.apply

/-- What the inner upstream filter was given, for each time it was entered. -/
def upstreamEnteredBy (events : List (Event C)) : List (AuthState C × RequestHeader) :=
  events.filterMap fun
    | .innerUpstreamRequestFilter seen upstream => some (seen, upstream)
    | _ => none

def credentialNames : List HeaderName := [authorizationName, dpopName]

structure Conveyed (strip : Bool) (upstream given : RequestHeader) : Prop where
  method : given.method = upstream.method
  uri : given.uri = upstream.uri
  credentials : ∀ name ∈ credentialNames,
    getAll given.headers name = if strip then [] else getAll upstream.headers name
  others : ∀ name ∉ credentialNames, getAll given.headers name = getAll upstream.headers name

/-- The token that the validation of a request produced, if the rule asked for one. -/
structure Produced (call : GuardCall C) (token : Option (ValidatedRequest C)) : Prop where
  unasked : ∀ rule, Resolved call rule → rule.token = .none → token = none
  asked : ∀ rule fullUri, Asks call rule fullUri → (answer call fullUri).outcome = .ok token

def strippedHeaders (strip : Bool) (header : RequestHeader) : RequestHeader :=
  if strip then { header with
    headers := FieldMultimap.remove (FieldMultimap.remove header.headers authorizationName)
      dpopName }
  else header

theorem conveyed_strippedHeaders (strip : Bool) (header : RequestHeader) :
    Conveyed strip header (strippedHeaders strip header) := by
  cases strip with
  | false => constructor <;> simp [strippedHeaders]
  | true =>
    constructor
    · rfl
    · rfl
    · intro name hname
      simp only [credentialNames, List.mem_cons, List.not_mem_nil, or_false] at hname
      rcases hname with rfl | rfl
      · simp only [strippedHeaders, if_true]
        rw [getAll_remove_ne _ (by decide), getAll_remove_self]
      · simp only [strippedHeaders, if_true, getAll_remove_self]
    · intro name hname
      simp only [credentialNames, List.mem_cons, List.not_mem_nil, or_false, not_or] at hname
      simp only [strippedHeaders, if_true]
      rw [getAll_remove_ne _ hname.2, getAll_remove_ne _ hname.1]

theorem run_upstreamRequestFilter (proxy : AuthProxy C) (w : World C) :
    (upstreamRequestFilter proxy).run w = (innerUpstreamRequestFilter proxy).run
      { w with upstream := strippedHeaders w.auth.stripCredentials w.upstream } := by
  cases hs : w.auth.stripCredentials <;> simp [upstreamRequestFilter, strippedHeaders, hs]

theorem innerUpstreamRequestFilter_events (proxy : AuthProxy C) (w : World C) :
    ((innerUpstreamRequestFilter proxy).run w).events =
      [.innerUpstreamRequestFilter w.auth w.upstream] := by
  unfold innerUpstreamRequestFilter
  cases hr : proxy.inner.upstreamRequestFilter.2.2 with
  | dropped => simp
  | ready result => cases result <;> simp

/-- The inner hook is entered once, with the context as it is and the header stripped
after the flag found in it. -/
theorem attempt_enters (proxy : AuthProxy C) (inner : Inner C) (upstream : RequestHeader)
    (w : World C) : upstreamEnteredBy ((attemptUpstream proxy inner upstream).run w).events =
      [(w.auth, strippedHeaders w.auth.stripCredentials upstream)] := by
  simp only [attemptUpstream, run_bind, run_update, andThen_done, after_events,
    run_upstreamRequestFilter, innerUpstreamRequestFilter_events]
  rfl

section Slots

variable {α : Type} {slot : AuthState C → α}

def Spares (slot : AuthState C → α) (effect : InnerEffect C) : Prop :=
  ∀ a, slot (effect.auth a) = slot a

def Apart (slot : AuthState C → α) : Prop :=
  ∀ a nonce, slot { a with dpopNonce := nonce } = slot a

theorem leaves_effect {effect : InnerEffect C} (h : Spares slot effect) :
    Leaves (fun w => slot w.auth) (update effect.apply : ResourceHook C Unit) :=
  leaves_update fun w => h w.auth

theorem leaves_innerHook {effect : InnerEffect C} (h : Spares slot effect)
    {f : World C → World C} (hf : ∀ w, slot (f w).auth = slot w.auth)
    (answer : Await (Except Error Unit)) : Leaves (fun w => slot w.auth) (do
      update effect.apply
      update f
      let result ← await answer
      attempt result : ResourceHook C Unit) := by
  refine leaves_bind (leaves_effect h) fun _ => leaves_bind (leaves_update hf) fun _ => ?_
  exact leaves_bind (leaves_await _) fun _ => leaves_attempt _

theorem leaves_attemptUpstream (proxy : AuthProxy C) {inner : Inner C} (upstream : RequestHeader)
    (h : Spares slot inner.upstreamRequestFilter.1) :
    Leaves (fun w => slot w.auth) (attemptUpstream proxy inner upstream) := by
  refine leaves_bind (leaves_update fun _ => rfl) fun _ w => ?_
  rw [run_upstreamRequestFilter]
  have hinner : Leaves (fun w => slot w.auth)
      (innerUpstreamRequestFilter { proxy with inner := inner }) := by
    refine leaves_bind (fun _ => rfl) fun _ => leaves_bind (fun _ => rfl) fun _ => ?_
    refine leaves_innerHook h ?_ _
    exact fun _ => rfl
  exact hinner _

variable [HttpCrate]

theorem leaves_response (proxy : AuthProxy C) {call : ResponseCall C} (hslot : Apart slot)
    (h : Spares slot call.inner.responseFilter.1) :
    Leaves (fun w => slot w.auth) (perform proxy call) := by
  have hinner : Leaves (fun w => slot w.auth)
      (innerResponseFilter { proxy with inner := call.inner }) := by
    refine leaves_bind (fun _ => rfl) fun _ => leaves_bind (fun _ => rfl) fun _ => ?_
    refine leaves_innerHook h ?_ _
    exact fun _ => rfl
  refine leaves_bind (leaves_update fun _ => rfl) fun _ => leaves_bind hinner fun _ => ?_
  refine leaves_bind (fun _ => rfl) fun w => ?_
  by_cases hi : w.response.status.isInterim
  · simp only [hi, if_true]
    exact fun _ => rfl
  · simp only [hi, Bool.false_eq_true, if_false]
    cases hn : w.auth.dpopNonce with
    | none => exact fun _ => rfl
    | some nonce =>
      refine leaves_bind (leaves_update fun w => hslot w.auth none) fun _ => ?_
      exact leaves_bind (leaves_attempt _) fun _ => leaves_update fun _ => rfl

theorem leaves_later (proxy : AuthProxy C) {call : LaterCall C} (hslot : Apart slot)
    (h : Spares slot call.effect) : Leaves (fun w => slot w.auth) (later proxy call) := by
  cases call with
  | attempt inner upstream => exact leaves_attemptUpstream proxy upstream h
  | response call => exact leaves_response proxy hslot h
  | delegated effect => exact leaves_effect h

/-- The inner hooks of a request up to one attempt leave this slot as the adapter set it. -/
def SparedBefore (slot : AuthState C → α) (proxy : AuthProxy C) (before : List (LaterCall C)) :
    Prop :=
  Spares slot proxy.inner.requestFilter.1 ∧ ∀ call ∈ before, Spares slot call.effect

end Slots

section Requests

variable [HttpCrate] [HasScopes C] [ResourceServerLib]
variable {adapter : Adapter C} {w : World C}

def ForwardedBy (adapter : Adapter C) (w : World C) : Prop :=
  ∃ seen, seen ∈ enteredBy ((adapter.requestFilter).run w).events

def reached (adapter : Adapter C) (w : World C) (before : List (LaterCall C)) : World C :=
  final (later adapter.auth) before ((adapter.requestFilter).run w).state

/-- One attempt of a forwarded request, after any other hooks of that request. -/
structure Attempted (adapter : Adapter C) (w : World C) (strip : Bool)
    (token : Option (ValidatedRequest C)) (before : List (LaterCall C)) (upstream : RequestHeader)
    (seen : AuthState C) (given : RequestHeader) : Prop where
  context : seen = (reached adapter w before).auth
  flagged : Conveyed seen.stripCredentials upstream given
  stripped : SparedBefore AuthState.stripCredentials adapter.auth before →
    Conveyed strip upstream given
  exposed : SparedBefore AuthState.validatedToken adapter.auth before → seen.validatedToken = token

structure RuleFollowed (adapter : Adapter C) (w : World C) (rule : Rule C)
    (token : Option (ValidatedRequest C)) : Prop where
  resolved : Resolved (adapter.call w) rule
  produced : Produced (adapter.call w) token
  entered : ∀ seen ∈ enteredBy ((adapter.requestFilter).run w).events,
    seen.validatedToken = token ∧ seen.stripCredentials = rule.stripCredentials
  fresh : ∀ auth, (adapter.requestFilter).run { w with auth := auth } =
    (adapter.requestFilter).run w
  attempts : ∀ before inner upstream, ∃ seen given,
    upstreamEnteredBy ((attemptUpstream adapter.auth inner upstream).run
      (reached adapter w before)).events = [(seen, given)] ∧
    Attempted adapter w rule.stripCredentials token before upstream seen given

omit [HttpCrate] [ResourceServerLib] in
theorem permitted_rule {call : GuardCall C} {token : Option (ValidatedRequest C)} {strip : Bool}
    (h : Permitted call token strip) :
    ∃ rule, Resolved call rule ∧ strip = rule.stripCredentials ∧ Produced call token := by
  cases h with
  | @pub rule hr ht =>
    refine ⟨rule, hr, rfl, fun _ _ _ => rfl, ?_⟩
    intro rule' fullUri hask
    obtain rfl : rule = rule' := by simpa using hr.symm.trans hask.resolved
    exact absurd ht hask.needed
  | @anonymous rule fullUri hask hout ht =>
    refine ⟨rule, hask.resolved, rfl, fun _ _ _ => rfl, ?_⟩
    intro rule' fullUri' hask'
    obtain ⟨-, rfl⟩ := asks_unique hask hask'
    exact hout
  | @authenticated rule fullUri v hask hout hb ha hs hc =>
    refine ⟨rule, hask.resolved, rfl, ?_, ?_⟩
    · intro rule' hr ht
      obtain rfl : rule = rule' := by simpa using hask.resolved.symm.trans hr
      exact absurd ht hask.needed
    · intro rule' fullUri' hask'
      obtain ⟨-, rfl⟩ := asks_unique hask hask'
      exact hout

/-- The boundary of a bound resource reads the session only, so a forwarded request is
the guard's to decide from any earlier context. -/
theorem requestFilter_authorizes (h : ForwardedBy adapter w) (auth : AuthState C) :
    (adapter.requestFilter).run { w with auth := auth } =
      (authorize adapter.auth adapter.audiences).run { w with auth := auth } := by
  cases adapter with
  | plain proxy => rfl
  | bound proxy =>
    obtain ⟨seen, hseen⟩ := h
    obtain ⟨uri, hi⟩ := inside_of_entered hseen
    exact run_inside (w := { w with auth := auth }) ⟨hi.reconstructed, hi.covered⟩

theorem forwarded_decision (h : ForwardedBy adapter w) : ∃ token nonce strip category events,
    runCheck (adapter.call w) w = ⟨.done (.forward token nonce strip, category), w, events⟩ ∧
      Permitted (adapter.call w) token strip ∧ Asked (adapter.call w) events nonce := by
  obtain ⟨outcome, category, events, hrun, hdecided, hasked⟩ :=
    runCheck_decided (adapter.call w) w
  cases hdecided with
  | forward nonce hp => exact ⟨_, nonce, _, _, events, hrun, hp, hasked⟩
  | deny d _ =>
    obtain ⟨seen, hseen⟩ := h
    have hruns := requestFilter_authorizes ⟨seen, hseen⟩ w.auth
    rw [hruns, run_authorize_deny hrun, after_events, enteredBy_append, enteredBy_append,
      enteredBy_decision hasked, enteredBy_answered (answered_refuse _ _ _ _ _ w)] at hseen
    exact absurd hseen List.not_mem_nil

theorem run_forwarded (h : ForwardedBy adapter w) {token : Option (ValidatedRequest C)}
    {nonce : Option String} {strip : Bool} {category : CheckOutcome} {events : List (Event C)}
    (hrun : runCheck (adapter.call w) w =
      ⟨.done (.forward token nonce strip, category), w, events⟩) (auth : AuthState C) :
    (adapter.requestFilter).run { w with auth := auth } =
      ((innerRequestFilter adapter.auth).run { w with auth := ⟨token, nonce, strip⟩ }).after
        (decisionEvents adapter.auth category events) := by
  rw [requestFilter_authorizes h auth]
  apply run_authorize_forward (w := { w with auth := auth })
  have hany := runCheck_anywhere (adapter.call w) w { w with auth := auth }
  rw [hrun] at hany
  exact hany

theorem reached_slot {α : Type} {slot : AuthState C → α} (hslot : Apart slot) {a : AuthState C}
    (hstate : ((adapter.requestFilter).run w).state =
      adapter.auth.inner.requestFilter.1.apply { w with auth := a })
    {before : List (LaterCall C)} (hs : SparedBefore slot adapter.auth before) :
    slot (reached adapter w before).auth = slot a := by
  have hleaves : ∀ call ∈ before, Leaves (fun w => slot w.auth) (later adapter.auth call) :=
    fun call hcall => leaves_later adapter.auth hslot (hs.2 call hcall)
  have hfinal := leaves_final hleaves ((adapter.requestFilter).run w).state
  rw [hstate] at hfinal
  rw [reached, hstate]
  exact hfinal.trans (hs.1 a)

/-- The rule of this request decides whether credentials go upstream, on every attempt,
and the hooks see the token of this request. No slot survives from an earlier use. -/
theorem credentials_follow_rule (adapter : Adapter C) (w : World C) (h : ForwardedBy adapter w) :
    ∃ rule token, RuleFollowed adapter w rule token := by
  obtain ⟨token, nonce, strip, category, events, hrun, hp, hasked⟩ := forwarded_decision h
  obtain ⟨rule, hresolved, rfl, hproduced⟩ := permitted_rule hp
  have hforward := run_forwarded h hrun
  obtain ⟨hevents, hstate⟩ := run_innerRequestFilter adapter.auth
    { w with auth := ⟨token, nonce, rule.stripCredentials⟩ }
  have hleft : ((adapter.requestFilter).run w).state = adapter.auth.inner.requestFilter.1.apply
      { w with auth := ⟨token, nonce, rule.stripCredentials⟩ } := by
    rw [hforward w.auth, after_state, hstate]
  refine ⟨rule, token, hresolved, hproduced, ?_, ?_, ?_⟩
  · intro seen hseen
    rw [hforward w.auth, after_events, enteredBy_append, enteredBy_decision hasked,
      hevents] at hseen
    obtain rfl : seen = ⟨token, nonce, rule.stripCredentials⟩ := by simpa [enteredBy] using hseen
    exact ⟨rfl, rfl⟩
  · intro auth
    exact (hforward auth).trans (hforward w.auth).symm
  · intro before inner upstream
    have hconveyed := conveyed_strippedHeaders
      (reached adapter w before).auth.stripCredentials upstream
    refine ⟨_, _, attempt_enters _ inner upstream _, rfl, hconveyed, ?_, ?_⟩
    · intro hs
      rw [reached_slot (fun _ _ => rfl) hleft hs] at hconveyed ⊢
      exact hconveyed
    · intro hs
      exact reached_slot (fun _ _ => rfl) hleft hs

end Requests

section Stale

def bearerProxy : AuthProxy Rfc9068AccessTokenClaims :=
  { anonymousProxy with guard :=
    { anonymousProxy.guard with
      validator := fun _ _ _ _ => ⟨.ok (some ⟨["api"], ⟨none⟩⟩), none⟩
      policy := ⟨⟨fun _ _ => .ok Rule.required⟩, [], none⟩ } }

def staleWorld : World Rfc9068AccessTokenClaims :=
  { anonymousWorld with auth := ⟨some ⟨["old"], ⟨some "admin"⟩⟩, some "stale", false⟩ }

local instance : HttpCrate := ⟨fun text => some ⟨text⟩, fun _ => none⟩

local instance : ResourceServerLib := ⟨none, .client .insufficientScope "insufficient scope"⟩

theorem credentials_follow_rule_stale :
    ∃ rule token, RuleFollowed (.plain bearerProxy) staleWorld rule token :=
  credentials_follow_rule (.plain bearerProxy) staleWorld
    ⟨⟨some ⟨["api"], ⟨none⟩⟩, none, true⟩, List.mem_cons_self⟩

end Stale

end CredentialStripping
