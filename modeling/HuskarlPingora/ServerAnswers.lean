import HuskarlPingora.AnswerWrites
import HuskarlPingora.AssembledServer

/-! # What the resource server tells the proxy

The adapters of the resource server keep the same contract as the login adapter, and an
assembled server keeps it on every branch its own proxies serve. -/
namespace ServerAnswers

open HttpModel RouteResolution ResourceRules ResourceErrors ResourceContext ResourceGuard
open ResourceResponse ResourceProxy MetadataPublisher ResourceBinding Assembly
open AssemblyRouting CredentialStripping AssembledServer
open BranchDispatch AnswerWrites TracedHooks EventMonitors

variable {C : Type}

/-- Pingora's own error response is a whole one. -/
def resourcePart (answer : Option Bool) : Event C → Option Part
  | .innerRequestFilter _ => some (.entry answer)
  | .writeResponseHeader _ last => some (.head last)
  | .writeResponseBody _ last => some (.body last)
  | .respondError _ => some (.head true)
  | _ => none

/-- A branch is watched with what the filter of its inner proxy answers. -/
def resourceOutlet (answer : Option Bool) : Outlet Error (World C) (Event C) where
  part := resourcePart answer
  head w := w.session.writeHeader
  body w := w.session.writeBody

abbrev ResourceStep (answer : Option Bool) : Monitor Progress (Event C) :=
  AnswerStep (resourcePart answer)

variable {answer : Option Bool}

theorem triple_writeResponseHeader (header : ResponseHeader) (last : Bool) :
    Triple (ResourceStep (C := C) answer) (fun _ g => g.Open) (writeResponseHeader header last)
      (fun _ s g => g = (if last then .closed false else .begun) ∧
        g.Taken (resourceOutlet answer) s) (Halted (resourceOutlet answer)) := by
  have hhead : (resourceOutlet (C := C) answer).part (.writeResponseHeader header last) =
      some (.head last) := rfl
  exact triple_head hhead (markWritten header) fun _ => rfl

theorem triple_writeResponseBody (body : Bytes) :
    Triple (ResourceStep (C := C) answer)
      (fun s g => g = .begun ∧ g.Taken (resourceOutlet answer) s) (writeResponseBody body true)
      (fun _ => Whole (resourceOutlet answer)) (Halted (resourceOutlet answer)) := by
  have hlast : (resourceOutlet (C := C) answer).part (.writeResponseBody body true) =
      some (.body true) := rfl
  rw [writeResponseBody_eq]
  exact triple_last hlast

abbrev Writes (answer : Option Bool) (m : ResourceHook C Unit) : Prop :=
  Triple (ResourceStep answer) (fun _ g => g = .untouched) m
    (fun _ => Whole (resourceOutlet answer)) (Halted (resourceOutlet answer))

theorem writes_header (header : ResponseHeader) :
    Writes (C := C) answer (writeResponseHeader header true) :=
  triple_whole (o := resourceOutlet answer) (triple_writeResponseHeader header true)

theorem writes_whole (header : ResponseHeader) (sendBody : Bool) (body : Bytes) :
    Writes (C := C) answer (write header sendBody body) := by
  refine (triple_answer (triple_writeResponseHeader _ _) (triple_writeResponseBody _)).pre ?_
  rintro _ g rfl
  trivial

theorem writes_prepared {α : Type} (x : Except Error α) {f : α → ResourceHook C Unit}
    (h : ∀ a, Writes answer (f a)) : Writes answer (attempt x >>= f) := by
  have hsilent : Silent (resourceOutlet answer) (attempt x : ResourceHook C α) := emits_attempt x
  exact hsilent.untouched.bind h

theorem writes_respondError (status : StatusCode) :
    Writes (C := C) answer (respondError status) := by
  have hhead : (resourceOutlet (C := C) answer).part (.respondError status.code) =
      some (.head true) := rfl
  exact triple_whole (triple_head hhead (markWritten (.build status)) fun _ => rfl)

abbrev AnswersResource (answer : Option Bool) (m : ResourceHook C Bool) : Prop :=
  Answers (resourceOutlet answer) (· = .untouched) m

theorem answers_metadataNotFound : AnswersResource (C := C) answer metadataNotFound :=
  answers_done (writes_respondError .notFound)

theorem answers_innerRequestFilter (self : AuthProxy C) :
    AnswersResource (answerOf self.inner.requestFilter.2) (innerRequestFilter self) := by
  refine triple_read fun w => Triple.pre ?_ fun _ _ h => h.2
  have hentry : (resourceOutlet (answerOf self.inner.requestFilter.2)).part
      (.innerRequestFilter w.auth) = some (.entry (answerOf self.inner.requestFilter.2)) := rfl
  have hrest : Silent (resourceOutlet (answerOf self.inner.requestFilter.2))
      (update self.inner.requestFilter.1.apply : ResourceHook C Unit) := emits_update _
  refine (triple_entered hentry hrest).mono (fun _ _ h => h) ?_ fun _ _ h => h
  rintro handled _ g rfl
  exact returned_said handled

theorem answers_refusal (self : AuthProxy C) (details : ErrorDetails)
    (m : ErrorBodyResponse → ResourceHook C Unit) (h : ∀ body, Writes answer (m body)) :
    AnswersResource answer (do
      let body ← renderErrorBody self details
      m body
      return true) := by
  have hrender : Silent (resourceOutlet answer) (renderErrorBody self details) :=
    (silent_emit rfl).bind fun _ => emits_pure _
  exact hrender.untouched.bind fun body => answers_done (h body)

section Filters

variable [HttpCrate]

theorem writes_challengeResponse (status : StatusCode) (challenges : List String)
    (dpopNonce : Option String) (retryAfter : Option Duration) (body : ErrorBodyResponse) :
    Writes (C := C) answer
      (writeChallengeResponse status challenges dpopNonce retryAfter body) := by
  refine writes_prepared _ fun header => triple_read fun w => ?_
  exact (writes_whole _ _ _).pre fun _ _ h => h.2

theorem answers_publisher (self : ResourceMetadataProxy C) (h : AnswersResource answer self.inner) :
    AnswersResource answer self.requestFilter := by
  refine triple_read fun w => Triple.pre ?_ fun _ _ h => h.2
  dsimp only
  split
  · split
    · exact answers_done (writes_whole _ _ _)
    · exact answers_done (writes_prepared _ fun header => writes_header header)
  · exact h

variable [HasScopes C] [ResourceServerLib]

omit [HttpCrate] in
theorem silent_checkForProxy (guard : Guard C) (audiences : Option (List String)) :
    Silent (resourceOutlet answer) (checkForProxy guard audiences) := by
  refine emits_read fun w => Emits.bind ?_ fun decided => ?_
  · unfold checkRequestCategorized
    split
    · exact emits_pure _
    split
    · exact emits_pure _
    split
    · exact emits_pure _
    · exact Emits.bind (emits_emit rfl) fun _ => emits_pure _
  · exact Emits.bind (emits_emit rfl) fun _ => emits_pure _

theorem answers_authorize (self : AuthProxy C) (audiences : Option (List String)) :
    AnswersResource (answerOf self.inner.requestFilter.2) (authorize self audiences) := by
  refine (silent_checkForProxy self.guard audiences).untouched.bind fun decided => ?_
  obtain ⟨outcome, category⟩ := decided
  refine Triple.bind (Silent.untouched (emits_emit rfl)) fun _ => ?_
  cases outcome with
  | forward token dpopNonce strip =>
    exact Triple.bind (Silent.untouched (emits_update _)) fun _ => answers_innerRequestFilter self
  | deny denial =>
    exact answers_refusal self _ _ fun body => writes_challengeResponse _ _ _ _ body

theorem answers_bound (self : ProtectedResourceProxy C) :
    AnswersResource (answerOf self.auth.inner.requestFilter.2) self.requestFilter := by
  refine triple_read fun w => Triple.pre ?_ fun _ _ h => h.2
  dsimp only
  split
  · exact answers_authorize self.auth _
  · refine Triple.bind (Silent.untouched (emits_emit rfl)) fun _ => ?_
    exact answers_refusal self.auth _ _ fun body => writes_challengeResponse _ _ _ _ body

/-- What the hooks after the filter may let be seen: the inner hooks of their phase. -/
inductive IsInnerLater : Event C → Prop where
  | upstream (seen upstream) : IsInnerLater (.innerUpstreamRequestFilter seen upstream)
  | response (seen header) : IsInnerLater (.innerResponseFilter seen header)

omit [HasScopes C] [ResourceServerLib] in
theorem emits_later (proxy : AuthProxy C) (call : LaterCall C) :
    Emits IsInnerLater (later proxy call) := by
  cases call with
  | attempt inner upstream =>
    have hinner : Emits IsInnerLater (innerUpstreamRequestFilter { proxy with inner := inner }) :=
      emits_read fun w => (emits_emit (.upstream _ _)).bind fun _ => (emits_update _).bind fun _ =>
        (emits_update _).bind fun _ => emits_taken _
    refine (emits_update _).bind fun _ => emits_read fun w => ?_
    split
    · exact (emits_update _).bind fun _ => hinner
    · exact hinner
  | response call =>
    have hinner : Emits IsInnerLater (innerResponseFilter { proxy with inner := call.inner }) :=
      emits_read fun w => (emits_emit (.response _ _)).bind fun _ => (emits_update _).bind fun _ =>
        (emits_update _).bind fun _ => emits_taken _
    refine (emits_update _).bind fun _ => hinner.bind fun _ => emits_read fun w => ?_
    split
    · exact emits_pure ()
    cases w.auth.dpopNonce with
    | none => exact emits_pure ()
    | some nonce =>
      exact Emits.bind (emits_update _) fun _ => (emits_attempt _).bind fun _ => emits_update _
  | delegated effect => exact emits_update _

omit [HasScopes C] [ResourceServerLib] in
theorem silent_later (proxy : AuthProxy C) (call : LaterCall C) :
    Silent (resourceOutlet answer) (later proxy call) :=
  (emits_later proxy call).mono fun e he => by cases he <;> rfl

end Filters

/-- What the inner proxy of a branch answers. A publisher has none, and of the fallback's
own inner proxy only the application knows. -/
def innerAnswer (own : Option Bool) : ServerRoute C → Option Bool
  | .branch (.inl _) => own
  | .branch (.inr proxy) => answerOf proxy.auth.inner.requestFilter.2
  | .metadata _ => none

/-- A fallback may also let a request go on that it took no notice of. -/
def ReturnedBy : ServerRoute C → Bool → Progress → Prop
  | .branch (.inl _), handled, g => Returned handled g ∨ handled = false ∧ g = .untouched
  | _, handled, g => Returned handled g

structure Reliable (own : Option Bool) (proxy : OtherProxy C) : Prop where
  early : Silent (resourceOutlet own) proxy.earlyRequestFilter
  filter : Triple (ResourceStep own) (fun _ g => g = .untouched) proxy.requestFilter
    (fun handled s g => ReturnedBy (.branch (.inl proxy)) handled g ∧
      g.Taken (resourceOutlet own) s) (Halted (resourceOutlet own))
  later : ∀ call, Silent (resourceOutlet own) (proxy.later call)

section Server

variable [HttpCrate] [HasScopes C] [ResourceServerLib] [ProxyRouterCrate]

/-- What the proxy may conclude from the filters of a server, and from its later hooks. -/
structure KeepsContract (own : Option Bool) (server : AssembledResources C) (early : Earlies C)
    (w : World C) : Prop where
  denied : ∀ reason, server.resolve w = .error reason →
    (∀ e ∈ (server.serve early w).events, resourcePart none e = none) ∧
      ∀ handled, (server.serve early w).exit ≠ .done handled
  filter : ∀ route, server.resolve w = .ok route → ∃ g,
    Reads (ResourceStep (innerAnswer own route)) .untouched (server.serve early w).events g ∧
      Concludes (resourceOutlet (innerAnswer own route)) (ReturnedBy route)
        (server.serve early w).exit (server.serve early w).state.state g
  later : ∀ route, server.resolve w = .ok route → ∀ calls,
    ∀ e ∈ trace server.later calls (server.serve early w).state,
      resourcePart (innerAnswer own route) e = none

omit [HttpCrate] [HasScopes C] [ResourceServerLib] [ProxyRouterCrate] in
theorem emits_defaultLater {A : Event C → Prop} (call : LaterCall C) :
    Emits A (defaultLater call) := by
  cases call with
  | attempt inner upstream => exact emits_update _
  | response call => exact emits_update _
  | delegated effect => exact emits_pure ()

omit [HttpCrate] [HasScopes C] [ResourceServerLib] [ProxyRouterCrate] in
theorem emits_runEarly {A : Event C → Prop} (hook : EarlyHook C) : Emits A (runEarly hook) :=
  (emits_update _).bind fun _ => emits_taken _

variable {own : Option Bool} {server : AssembledResources C} {early : Earlies C} {w : World C}

theorem contract_of_branch (dispatches : RouterDispatches) {route : ServerRoute C}
    (hr : server.resolve w = .ok route)
    (hearly : Silent (resourceOutlet (innerAnswer own route)) (branchEarly early route))
    (hfilter : Triple (ResourceStep (innerAnswer own route)) (fun _ g => g = .untouched)
      (branchFilter route) (fun handled s g => ReturnedBy route handled g ∧
        g.Taken (resourceOutlet (innerAnswer own route)) s)
      (Halted (resourceOutlet (innerAnswer own route))))
    (hlater : ∀ call, Silent (resourceOutlet (innerAnswer own route)) (branchLater call route)) :
    KeepsContract own server early w := by
  have hserve : server.serve early w = branchRun server early route w :=
    serve_routed dispatches hr
  constructor
  · intro reason hdenied
    rw [hr] at hdenied
    cases hdenied
  · intro route' hr'
    obtain rfl : route = route' := Except.ok.inj (hr.symm.trans hr')
    obtain ⟨g, hreads, hends⟩ := hearly.untouched.bind (fun _ => hfilter) w .untouched rfl
    rw [hserve]
    exact ⟨g, .cons (.other rfl) hreads, hends⟩
  · intro route' hr' calls e he
    obtain rfl : route = route' := Except.ok.inj (hr.symm.trans hr')
    rw [hserve, branchRun, seenWith_state,
      trace_delivered (delivers_later dispatches server route)] at he
    exact emits_trace (fun call _ => hlater call) _ e he

end Server

section Gateway

open BoundaryAgreement (gatewayRequest)

local instance : RouteGuardCrate := referenceGuard
local instance : ResourceRegistryCrate := referenceRegistry
local instance : ResourceServerLib := ⟨none, .client .insufficientScope "insufficient scope"⟩
local instance : HttpCrate := gatewayCrate
local instance : ProxyRouterCrate := referenceRouter

theorem notFound_reliable : Reliable none notFound where
  early := emits_pure ()
  filter := answers_metadataNotFound.mono (fun _ _ h => h)
    (fun _ _ _ h => ⟨.inl h.1, h.2⟩) fun _ _ h => h
  later := emits_defaultLater

end Gateway

end ServerAnswers
