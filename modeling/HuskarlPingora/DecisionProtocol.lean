import HuskarlPingora.ServerAnswers
import HuskarlPingora.ServerTelemetry

/-! # The order of a decision

What a server lets be seen of one request, in order, depends on where the request is: the
publisher answers on its own, the boundary of a resource refuses after one counter, and
inside it the validator and both counters stand before the inner proxy or the refusal. -/
namespace DecisionProtocol

open HttpModel RouteResolution ResourceRules ResourceErrors ResourceContext ResourceGuard
open ResourceResponse ResourceProxy MetadataPublisher ResourceBinding Assembly AssemblyRouting
open GuardAuthorization ResourceEffects ResourceBoundary CredentialStripping ResourceTelemetry
open ServerTelemetry AssembledServer ServerAnswers BranchDispatch TracedHooks EventMonitors
open AnswerWrites (answerOf)

variable {C : Type}

/-- Where a request is: refused by the router, on a metadata path, or under the mount of a
resource and on one side of its boundary. -/
inductive Course (C : Type) where
  | denied
  | published
  | inside (proxy : AuthProxy C)
  | outside (proxy : AuthProxy C)

def Course.answer : Course C → Option Bool
  | .inside proxy => answerOf proxy.inner.requestFilter.2
  | _ => none

/-- The nonce is the one the validator gave, if it was asked. -/
inductive Stage where
  | arrived
  | turnedAway
  | routed
  | asked (nonce : Option String)
  | checked (label : String) (nonce : Option String)
  | authorized (label : String) (nonce : Option String)
  | entered
  | explained (details : ErrorDetails) (nonce : Option String)
  | answering
  | answered (bodied : Bool)

def afterHeader (last : Bool) : Stage := if last then .answered false else .answering

section Protocol

variable [HttpCrate]

/-- A resource is entered after `forward` was counted twice, under its name. Any other label
leads to an answer, and its header carries what the renderer was told. The boundary counts
once, and only the publisher answers without a counter of its own. -/
inductive DecisionStep : Course C → Monitor Stage (Event C)
  | denied (label name) : label ≠ "selected" →
      DecisionStep .denied .arrived (.counter routeMetric label name) .turnedAway
  | published (name) :
      DecisionStep .published .arrived (.counter routeMetric "selected" name) .routed
  | inside {proxy} (name) :
      DecisionStep (.inside proxy) .arrived (.counter routeMetric "selected" name) .routed
  | outside {proxy} (name) :
      DecisionStep (.outside proxy) .arrived (.counter routeMetric "selected" name) .routed
  | asks {proxy} (headers method uri cert) :
      DecisionStep (.inside proxy) .routed (.validateRequest headers method uri cert)
        (.asked (proxy.guard.validator headers method uri cert).dpopNonce)
  | spared {proxy} (category) : DecisionStep (.inside proxy) .routed
      (checkEvent proxy.guard category) (.checked category.asStr none)
  | checks {proxy} (category nonce) : DecisionStep (.inside proxy) (.asked nonce)
      (checkEvent proxy.guard category) (.checked category.asStr nonce)
  | authorizes {proxy} (label nonce) : DecisionStep (.inside proxy) (.checked label nonce)
      (authorizationEvent proxy.guard label) (.authorized label nonce)
  | refused {proxy} (label) : label = "invalid_request" ∨ label = "outside_resource" →
      DecisionStep (.outside proxy) .routed (authorizationEvent proxy.guard label)
        (.authorized label none)
  | enters {proxy} (seen) : DecisionStep (.inside proxy) (.authorized "forward" seen.dpopNonce)
      (.innerRequestFilter seen) .entered
  | explains {course} (label details nonce) : label ≠ "forward" →
      DecisionStep course (.authorized label nonce) (.errorBody details) (.explained details nonce)
  | answers {course} (details nonce header last) :
      Conveys header details.status details.challenges nonce →
      DecisionStep course (.explained details nonce) (.writeResponseHeader header last)
        (afterHeader last)
  | publishes (header last) :
      DecisionStep .published .routed (.writeResponseHeader header last) (afterHeader last)
  | unpublished (code) :
      DecisionStep .published .routed (.respondError code) (.answered false)
  | finishes {course} (body) :
      DecisionStep course .answering (.writeResponseBody body true) (.answered true)
  | later {course} (e) : IsInnerLater e → DecisionStep course .entered e .entered

/-- A request that goes on was left to it by its inner proxy. One that does not was answered,
or the inner proxy has handled it. -/
def Settled (course : Course C) : Bool → Stage → Prop
  | false, g => g = .entered ∧ course.answer = some false
  | true, g => g = .entered ∧ course.answer = some true ∨ ∃ bodied, g = .answered bodied

/-- Where a run may end without returning: its branch was not ready for it, its inner proxy
gave no answer, the header of the refusal cannot be built, or the transport did not take
the response. -/
inductive Stopped (course : Course C) (ready : Prop) (w : World C) : Stage → Prop
  | turnedAway : Stopped course ready w .turnedAway
  | unready : ¬ ready → Stopped course ready w .routed
  | entered : course.answer = none → Stopped course ready w .entered
  | unwritable {details nonce} : ¬ Legal details.challenges nonce →
      Stopped course ready w (.explained details nonce)
  | headRefused (last) : w.session.writeHeader ≠ .ready (.ok ()) →
      Stopped course ready w (afterHeader last)
  | bodyRefused : w.session.writeBody ≠ .ready (.ok ()) →
      Stopped course ready w (.answered true)

variable {course : Course C} {ready : Prop}

theorem triple_writeResponseHeader (header : ResponseHeader) (last : Bool) {P : Stage → Prop}
    (h : ∀ g, P g → DecisionStep course g (.writeResponseHeader header last) (afterHeader last)) :
    Triple (DecisionStep course) (fun _ => P) (writeResponseHeader header last)
      (fun _ _ g => g = afterHeader last) (Stopped course ready) := by
  have hstep : Triple (DecisionStep course) (fun _ => P)
      (handOver (fun w : World C => w.session.writeHeader) (markWritten header)
        (.writeResponseHeader header last) : ResourceHook C Unit)
      (fun _ _ g => g = afterHeader last) (Stopped course ready) :=
    triple_handOver fun w g hg => ⟨_, h g hg, fun _ => rfl, .headRefused last⟩
  exact hstep

theorem triple_writeResponseBody (body : Bytes) :
    Triple (DecisionStep course) (fun _ g => g = .answering) (writeResponseBody body true)
      (fun _ _ g => g = .answered true) (Stopped course ready) := by
  rw [writeResponseBody_eq]
  refine triple_handOver ?_
  rintro w g rfl
  exact ⟨_, .finishes body, fun _ => rfl, .bodyRefused⟩

theorem triple_write (header : ResponseHeader) (sendBody : Bool) (body : Bytes)
    {P : Stage → Prop} (h : ∀ g, P g → ∀ last,
      DecisionStep course g (.writeResponseHeader header last) (afterHeader last)) :
    Triple (DecisionStep course) (fun _ => P) (write header sendBody body)
      (fun _ _ g => ∃ bodied, g = .answered bodied) (Stopped course ready) := by
  refine (triple_writeResponseHeader header _ fun g hg => h g hg _).bind fun _ => ?_
  cases sendBody with
  | true =>
    exact (triple_writeResponseBody body).mono (fun _ _ hg => hg) (fun _ _ _ hg => ⟨true, hg⟩)
      fun _ _ hstop => hstop
  | false => exact triple_pure () fun _ _ hg => ⟨false, hg⟩

abbrev Decides (course : Course C) (ready : Prop) (P : World C → Prop)
    (m : ResourceHook C Bool) : Prop :=
  Triple (DecisionStep course) (fun w g => P w ∧ g = .routed) m
    (fun handled _ => Settled course handled) (Stopped course ready)

theorem decides_answered {m : ResourceHook C Unit} {P : World C → Stage → Prop}
    (h : Triple (DecisionStep course) P m (fun _ _ g => ∃ bodied, g = .answered bodied)
      (Stopped course ready)) :
    Triple (DecisionStep course) P (m >>= fun _ => pure true)
      (fun handled _ => Settled course handled) (Stopped course ready) :=
  h.bind fun _ => triple_pure true fun _ _ hg => .inr hg

theorem decides_metadataNotFound {P : World C → Prop} :
    Decides .published ready P metadataNotFound := by
  have hstep : Triple (DecisionStep .published) (fun w g => P w ∧ g = .routed)
      (handOver (fun w : World C => w.session.writeHeader) (markWritten (.build .notFound))
        (.respondError StatusCode.notFound.code) : ResourceHook C Unit)
      (fun _ _ g => ∃ bodied, g = .answered bodied) (Stopped .published ready) := by
    refine triple_handOver ?_
    rintro w g ⟨-, rfl⟩
    exact ⟨_, .unpublished _, fun _ => ⟨false, rfl⟩, .headRefused true⟩
  exact decides_answered hstep

/-- The publisher is ready if the methods it names are a legal header value. -/
theorem decides_publisher (endpoints : List ResourceMetadataEndpoint) :
    Decides .published ((HttpCrate.headerValue "GET, HEAD").isSome = true) (fun _ => True)
      (ResourceMetadataProxy.requestFilter ⟨metadataNotFound (C := C), endpoints⟩) := by
  refine triple_read fun w => ?_
  dsimp only
  split
  · split
    · refine decides_answered ((triple_write _ _ _ (P := (· = .routed)) ?_).pre ?_)
      · rintro g rfl last
        exact .publishes _ last
      · exact fun _ _ h => h.2.2
    · refine decides_answered (Triple.bind (Q := fun _ _ g => g = .routed) ?_ fun header => ?_)
      · refine triple_attempt _ (fun _ _ _ _ h => h.2.2) ?_
        rintro e _ g herror ⟨-, -, rfl⟩
        refine .unready fun hlegal => ?_
        obtain ⟨header, hok⟩ := methodNotAllowedHeader_total hlegal
        rw [hok] at herror
        cases herror
      · refine (triple_writeResponseHeader header true (P := (· = .routed)) ?_).mono
          (fun _ _ hg => hg) (fun _ _ _ hg => ⟨false, hg⟩) fun _ _ hstop => hstop
        rintro g rfl
        exact .publishes header true
  · exact decides_metadataNotFound.pre fun _ _ h => h.2

theorem triple_writeChallengeResponse (details : ErrorDetails) (dpopNonce : Option String)
    (retryAfter : Option Duration) (body : ErrorBodyResponse) :
    Triple (DecisionStep course) (fun _ g => g = .explained details dpopNonce)
      (writeChallengeResponse details.status details.challenges dpopNonce retryAfter body)
      (fun _ _ g => ∃ bodied, g = .answered bodied) (Stopped course ready) := by
  refine Triple.bind (Q := fun header _ g => g = .explained details dpopNonce ∧
    Conveys header details.status details.challenges dpopNonce) ?_ fun header => ?_
  · refine triple_attempt _ (fun header _ _ hok hg => ⟨hg, challengeHeader_conveys hok⟩) ?_
    rintro e w g herror rfl
    refine .unwritable fun hlegal => ?_
    obtain ⟨header, hok⟩ := challengeHeader_total details.status retryAfter body hlegal
    rw [hok] at herror
    cases herror
  refine triple_read fun w => ?_
  refine (triple_write _ _ _ ?_).pre fun _ _ h => h.2
  rintro g ⟨rfl, hconveys⟩ last
  exact .answers details dpopNonce header last hconveys

theorem decides_refuse (details : ErrorDetails) (dpopNonce : Option String)
    (retryAfter : Option Duration) (body : ErrorBodyResponse) :
    Triple (DecisionStep course) (fun _ g => g = .explained details dpopNonce)
      (refuse details.status details.challenges dpopNonce retryAfter body)
      (fun handled _ => Settled course handled) (Stopped course ready) :=
  decides_answered (triple_writeChallengeResponse details dpopNonce retryAfter body)

theorem decides_innerRequestFilter (proxy : AuthProxy C) :
    Triple (DecisionStep (.inside proxy))
      (fun w g => g = .authorized "forward" w.auth.dpopNonce) (innerRequestFilter proxy)
      (fun handled _ => Settled (.inside proxy) handled) (Stopped (.inside proxy) ready) := by
  refine triple_read fun w => ?_
  refine Triple.bind (Q := fun _ _ g => g = .entered) ?_ fun _ => ?_
  · refine triple_emit ?_
    rintro _ g ⟨rfl, rfl⟩
    exact ⟨_, .enters _, rfl⟩
  refine Triple.bind (Q := fun _ _ g => g = .entered) (triple_update fun _ _ h => h) fun _ => ?_
  refine Triple.bind (Q := fun result _ g => g = .entered ∧
    (Course.inside proxy).answer = answerOf (.ready result)) ?_ fun result => ?_
  · refine triple_await _ (fun result _ _ hready hg => ⟨hg, by rw [Course.answer, hready]⟩) ?_
    rintro _ g hdropped rfl
    exact .entered (by rw [Course.answer, hdropped]; rfl)
  · refine triple_attempt _ ?_ ?_
    · rintro handled _ g rfl ⟨rfl, hanswer⟩
      cases handled with
      | false => exact ⟨rfl, hanswer⟩
      | true => exact .inl ⟨rfl, hanswer⟩
    · rintro e _ g rfl ⟨rfl, hanswer⟩
      exact .entered hanswer

theorem triple_runEarly (early : Earlies C) (proxy : ProtectedResourceProxy C) (w : World C) :
    Triple (DecisionStep course) (fun s g => s = w ∧ g = .routed) (runEarly (early proxy))
      (fun _ s g => s = afterEarly early proxy w ∧ g = .routed)
      (Stopped course ((early proxy).result = .ready (.ok ()))) := by
  refine Triple.bind (Q := fun _ s g => s = afterEarly early proxy w ∧ g = .routed) ?_ fun _ => ?_
  · refine triple_update ?_
    rintro s g ⟨rfl, rfl⟩
    exact ⟨rfl, rfl⟩
  refine Triple.bind (Q := fun result s g => (early proxy).result = .ready result ∧
    s = afterEarly early proxy w ∧ g = .routed) ?_ fun result => ?_
  · refine triple_await _ (fun result s g hready h => ⟨hready, h⟩) ?_
    rintro s g hdropped ⟨-, rfl⟩
    exact .unready fun hready => by rw [hdropped] at hready; cases hready
  · refine triple_attempt _ (fun u s g _ h => h.2) ?_
    rintro e s g rfl ⟨herror, -, rfl⟩
    exact .unready fun hready => by rw [herror] at hready; cases hready

variable [HasScopes C] [ResourceServerLib]

theorem triple_checkForProxy (proxy : AuthProxy C) (audiences : Option (List String)) :
    Triple (DecisionStep (.inside proxy)) (fun _ g => g = .routed)
      (checkForProxy proxy.guard audiences)
      (fun decided _ g => g = .checked decided.2.asStr decided.1.dpopNonce ∧
        (decided.2.asStr = "forward" ↔ Forwards decided.1)) (Stopped (.inside proxy) ready) := by
  rintro w g rfl
  obtain ⟨outcome, category, events, hrun, hdecided, hasked⟩ :=
    runCheck_decided (proxyCall proxy.guard w.session audiences) w
  rw [run_checkForProxy hrun]
  refine ⟨_, ?_, rfl, decided_label hdecided⟩
  by_cases hask : ∃ rule fullUri, Asks (proxyCall proxy.guard w.session audiences) rule fullUri
  · obtain ⟨rule, fullUri, hask⟩ := hask
    obtain ⟨rfl, hnonce⟩ := hasked.asked rule fullUri hask
    rw [hnonce]
    exact .cons (.asks _ _ _ _) (.single (.checks _ _))
  · obtain ⟨rfl, hnonce⟩ := hasked.spared fun rule fullUri h => hask ⟨rule, fullUri, h⟩
    rw [hnonce]
    exact .single (.spared _)

theorem decides_authorize (proxy : AuthProxy C) (audiences : Option (List String)) :
    Triple (DecisionStep (.inside proxy)) (fun _ g => g = .routed) (authorize proxy audiences)
      (fun handled _ => Settled (.inside proxy) handled) (Stopped (.inside proxy) ready) := by
  refine (triple_checkForProxy proxy audiences).bind fun decided => ?_
  obtain ⟨outcome, category⟩ := decided
  refine Triple.bind (Q := fun _ _ g => g = .authorized category.asStr outcome.dpopNonce ∧
    (category.asStr = "forward" ↔ Forwards outcome)) ?_ fun _ => ?_
  · refine triple_emit ?_
    rintro _ g ⟨rfl, hlabel⟩
    exact ⟨_, .authorizes _ _, rfl, hlabel⟩
  cases outcome with
  | forward token dpopNonce strip =>
    refine Triple.bind (Q := fun _ w g => g = .authorized "forward" w.auth.dpopNonce) ?_ fun _ =>
      decides_innerRequestFilter proxy
    refine triple_update ?_
    rintro _ g ⟨rfl, hlabel⟩
    rw [hlabel.mpr ⟨token, dpopNonce, strip, rfl⟩]
    rfl
  | deny denial =>
    refine Triple.bind (Q := fun _ _ g => g = .explained (denialDetails denial) denial.dpopNonce)
      ?_ fun body => decides_refuse (denialDetails denial) _ _ body
    refine Triple.bind (Q := fun _ _ g => g = .explained (denialDetails denial) denial.dpopNonce)
      (triple_emit ?_) fun _ => triple_pure _ fun _ _ hg => hg
    rintro _ g ⟨rfl, hlabel⟩
    refine ⟨_, .explains _ _ _ fun hforward => ?_, rfl⟩
    obtain ⟨token, nonce, strip, h⟩ := hlabel.mp hforward
    cases h

theorem decides_inside (proxy : ProtectedResourceProxy C) :
    Decides (.inside proxy.auth) ready (fun w => ∃ uri, Inside proxy w uri)
      proxy.requestFilter := by
  rintro w g ⟨⟨uri, hi⟩, hg⟩
  rw [run_inside hi]
  exact decides_authorize proxy.auth _ w g hg

theorem decides_outside (proxy : ProtectedResourceProxy C) :
    Decides (.outside proxy.auth) ready (fun w => ∀ uri, ¬ Inside proxy w uri)
      proxy.requestFilter := by
  rintro w g ⟨hout, rfl⟩
  rw [run_outside hout]
  obtain ⟨g', hreads, hends⟩ := decides_refuse (outsideDetails proxy w) none none
    (proxy.auth.errorBody (outsideDetails proxy w)) w _ rfl
  refine ⟨g', .cons (.refused _ ?_) (.cons (.explains _ _ _ ?_) hreads), hends⟩
  · unfold boundaryLabel
    split <;> simp
  · unfold boundaryLabel
    split <;> decide

variable [ProxyRouterCrate]

/-- One request of a server, and the hooks that follow it once a resource was entered. -/
def Serves (course : Course C) (ready : Prop) (server : AssembledResources C)
    (early : Earlies C) (w : World C) : Prop :=
  ∃ g, Reads (DecisionStep course) .arrived (server.serve early w).events g ∧
    Ends (fun handled _ => Settled course handled) (Stopped course ready)
      (server.serve early w).exit (server.serve early w).state.state g ∧
    (g = .entered → ∀ calls, Reads (DecisionStep course) .entered
      (trace server.later calls (server.serve early w).state) .entered)

/-- The order in which a server serves a request that it does not leave to its fallback.
A resource decides about what its early hook made of the request. -/
structure Ordered [ResourceRegistryCrate] (assembly : ResourceAssembly (Branch C))
    (resources : List (BoundResource (ProtectedResourceProxy C))) (server : AssembledResources C)
    (early : Earlies C) (w : World C) : Prop where
  denied : ∀ reason, server.resolve w = .error reason → Serves .denied True server early w
  published : ∀ route, server.resolve w = .ok route →
    OnMetadataPath assembly w.session.reqHeader.uri.path →
      Serves .published ((HttpCrate.headerValue "GET, HEAD").isSome = true) server early w
  inside : ∀ route, server.resolve w = .ok route →
    ¬ OnMetadataPath assembly w.session.reqHeader.uri.path → ∀ bound ∈ resources,
      MountCovers bound.definition.incomingMount w.session.reqHeader.uri.path →
        (∃ uri, Inside bound.proxy (afterEarly early bound.proxy w) uri) →
          Serves (.inside bound.proxy.auth) ((early bound.proxy).result = .ready (.ok ()))
            server early w
  outside : ∀ route, server.resolve w = .ok route →
    ¬ OnMetadataPath assembly w.session.reqHeader.uri.path → ∀ bound ∈ resources,
      MountCovers bound.definition.incomingMount w.session.reqHeader.uri.path →
        (∀ uri, ¬ Inside bound.proxy (afterEarly early bound.proxy w) uri) →
          Serves (.outside bound.proxy.auth) ((early bound.proxy).result = .ready (.ok ()))
            server early w

variable {server : AssembledResources C} {early : Earlies C} {w : World C}

theorem serves_of_branch (dispatches : RouterDispatches) {route : ServerRoute C}
    (hr : server.resolve w = .ok route)
    (hselected : ∀ name, DecisionStep course .arrived (.counter routeMetric "selected" name)
      .routed)
    (hdecides : Decides course ready (· = w) (branchServe early route))
    (hlater : ∀ call, Emits IsInnerLater (branchLater call route)) :
    Serves course ready server early w := by
  have hserve : server.serve early w = branchRun server early route w :=
    serve_routed dispatches hr
  obtain ⟨g, hreads, hends⟩ := hdecides w .routed ⟨rfl, rfl⟩
  refine ⟨g, ?_, ?_, fun _ calls => Reads.ignored fun e he => .later e ?_⟩
  · rw [hserve]
    exact .cons (hselected _) hreads
  · rw [hserve]
    exact hends
  · rw [hserve, branchRun, seenWith_state,
      trace_delivered (delivers_later dispatches server route)] at he
    exact emits_trace (fun call _ => hlater call) _ e he

theorem serves_of_bound (dispatches : RouterDispatches) {proxy : ProtectedResourceProxy C}
    (hr : server.resolve w = .ok (.branch (.inr proxy)))
    (hselected : ∀ name, DecisionStep course .arrived (.counter routeMetric "selected" name)
      .routed)
    (hdecides : Decides course ((early proxy).result = .ready (.ok ()))
      (· = afterEarly early proxy w) proxy.requestFilter) :
    Serves course ((early proxy).result = .ready (.ok ())) server early w :=
  serves_of_branch dispatches hr hselected
    ((triple_runEarly early proxy w).bind fun _ => hdecides) (emits_later proxy.auth)

end Protocol

section Gateway

open BoundaryAgreement (gatewayRequest)

local instance : RouteGuardCrate := referenceGuard
local instance : ResourceRegistryCrate := referenceRegistry
local instance : ResourceServerLib := ⟨none, .client .insufficientScope "insufficient scope"⟩
local instance : HttpCrate := gatewayCrate
local instance : ProxyRouterCrate := referenceRouter

end Gateway

end DecisionProtocol
