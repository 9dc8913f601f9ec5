import Mathlib.Data.List.Forall2
import HuskarlPingora.ResourceBoundary

/-! # Resource telemetry reconciles with decisions

Every request counts one authorization. A request that reaches the guard counts the same
label as a check, and one that does not is a refusal at the boundary. -/
namespace ResourceTelemetry

open HttpModel ResourceRules ResourceErrors ResourceContext ResourceGuard ResourceResponse
open ResourceProxy ResourceEffects ResourceBoundary GuardAuthorization TracedHooks

variable {C : Type}

/-- What the environment decides about one request: the code of the inner proxy and of
the renderer, the answer of the validator, and the world it arrives in. -/
structure Arrival (C : Type) where
  inner : Inner C
  validator : HeaderMap → Method → Uri → Option Bytes → ValidationResult C
  errorBody : ErrorDetails → ErrorBodyResponse
  world : World C

structure SameRequest (a a' : Arrival C) : Prop where
  validator : a.validator = a'.validator
  reqHeader : a.world.session.reqHeader = a'.world.session.reqHeader
  clientCertDer : a.world.session.clientCertDer = a'.world.session.clientCertDer

def facing (proxy : AuthProxy C) (a : Arrival C) : AuthProxy C where
  inner := a.inner
  guard := { proxy.guard with validator := a.validator }
  errorBody := a.errorBody

def boundFacing (proxy : ProtectedResourceProxy C) (a : Arrival C) : ProtectedResourceProxy C :=
  { proxy with auth := facing proxy.auth a }

/-- An adapter as its telemetry sees it: what it does with a request, the guard it asks,
and the label of a refusal that needs no guard. -/
structure Adapter (C : Type) where
  guard : Guard C
  audiences : Option (List String)
  boundary : Uri → Option String
  serve : Arrival C → Ran Error (World C) (Event C) Bool

def Adapter.guardFor (adapter : Adapter C) (a : Arrival C) : Guard C :=
  { adapter.guard with validator := a.validator }

def Adapter.refusal (adapter : Adapter C) (a : Arrival C) : Option String :=
  adapter.boundary a.world.session.reqHeader.uri

def Adapter.handled (adapter : Adapter C) (arrivals : List (Arrival C)) : List (Event C) :=
  arrivals.flatMap fun a => (adapter.serve a).events

def Adapter.refusals (adapter : Adapter C) (arrivals : List (Arrival C)) : List String :=
  arrivals.filterMap adapter.refusal

section Adapters

variable [HttpCrate] [HasScopes C] [ResourceServerLib]

def authAdapter (proxy : AuthProxy C) : Adapter C where
  guard := proxy.guard
  audiences := none
  boundary := fun _ => none
  serve := fun a => (requestFilter (facing proxy a)).run a.world

/-- A refusal at the boundary of a resource, for a path outside it or for no public URI. -/
def boundAdapter (proxy : ProtectedResourceProxy C) : Adapter C where
  guard := proxy.auth.guard
  audiences := some proxy.audiences
  boundary := fun uri =>
    match effectiveRequestUri proxy.auth.guard uri with
    | none => some "invalid_request"
    | some uri =>
      if resourcePathMatches proxy.resourcePath uri.path then none else some "outside_resource"
  serve := fun a => (boundFacing proxy a).requestFilter.run a.world

end Adapters

def checkMetric : String := "huskarl.resource.check"
def authorizationMetric : String := "huskarl.pingora.resource.authorization"

def labels (metric : String) (counters : List (String × String × String)) : List String :=
  counters.filterMap fun c => if c.1 = metric then some c.2.1 else none

def authorizations (es : List (Event C)) : List String := labels authorizationMetric (countersOf es)
def checks (es : List (Event C)) : List String := labels checkMetric (countersOf es)

theorem authorizations_append (es es' : List (Event C)) :
    authorizations (es ++ es') = authorizations es ++ authorizations es' := by
  simp [authorizations, labels]

theorem checks_append (es es' : List (Event C)) : checks (es ++ es') = checks es ++ checks es' := by
  simp [checks, labels]

theorem asStr_forward (category : CheckOutcome) :
    category.asStr = "forward" ↔ category = .forward := by
  cases category <;> decide

def Forwards (outcome : Outcome C) : Prop :=
  ∃ token nonce strip, outcome = .forward token nonce strip

section Decisions

variable [HasScopes C]

theorem fromValidation_denies (v : ValidationOutcome) :
    CheckOutcome.fromValidation v ≠ .forward := by
  cases v <;> simp [CheckOutcome.fromValidation]

theorem refused_denies {call : GuardCall C} {category : CheckOutcome} (h : Refused call category) :
    category ≠ .forward := by
  cases h with
  | @route reason _ =>
    unfold routeCategory
    cases reason.kind <;> simp
  | rejected => exact fromValidation_denies _
  | @check _ _ _ _ e => cases e <;> simp [CheckError.category]
  | uri | missing | binding | audience | scope => simp

theorem decided_label {call : GuardCall C} {outcome : Outcome C} {category : CheckOutcome}
    (h : Decided call outcome category) : category.asStr = "forward" ↔ Forwards outcome := by
  rw [asStr_forward]
  cases h with
  | @forward token strip nonce _ => exact iff_of_true rfl ⟨token, nonce, strip, rfl⟩
  | deny d hrefused =>
    refine iff_of_false (refused_denies hrefused) ?_
    rintro ⟨token, nonce, strip, h⟩
    cases h

end Decisions

def checkCounter (guard : Guard C) (category : CheckOutcome) : String × String × String :=
  (checkMetric, category.asStr, guard.metricsName.getD "")

def authorizationCount (guard : Guard C) (label : String) : String × String × String :=
  (authorizationMetric, label, guard.metricsName.getD "")

section Requests

variable [HasScopes C] [ResourceServerLib]

/-- A request is refused at the boundary, without the guard, or by what the guard decided. -/
inductive Counted (adapter : Adapter C) (a : Arrival C)
    (r : Ran Error (World C) (Event C) Bool) : Prop where
  | refused {label} : adapter.refusal a = some label → Unasked r.events →
      countersOf r.events = [authorizationCount adapter.guard label] → label ≠ "forward" →
      enteredBy r.events = [] → Counted adapter a r
  | checked {outcome category asked rest} : adapter.refusal a = none →
      (checkForProxy (adapter.guardFor a) adapter.audiences).run a.world =
        ⟨.done (outcome, category), a.world, asked⟩ →
      r.events = asked ++ rest → countersOf asked = [checkCounter adapter.guard category] →
      countersOf rest = [authorizationCount adapter.guard category.asStr] →
      (category.asStr = "forward" ↔ Forwards outcome) →
      (enteredBy r.events ≠ [] ↔ Forwards outcome) → Counted adapter a r

omit [HasScopes C] [ResourceServerLib] in
theorem countersOf_asked {call : GuardCall C} {events : List (Event C)} {nonce : Option String}
    (h : Asked call events nonce) (guard : Guard C) (category : CheckOutcome) :
    countersOf (events ++ [checkEvent guard category]) = [checkCounter guard category] := by
  rcases h.cases with rfl | ⟨fullUri, rfl⟩ <;> rfl

variable [HttpCrate]

/-- A check and an authorization are the only counters of a decision. The inner proxy is
entered after a forward and no denial enters it. -/
theorem authorize_tail {proxy : AuthProxy C} {audiences : Option (List String)} {w : World C}
    {outcome : Outcome C} {category : CheckOutcome} {events : List (Event C)}
    {nonce : Option String}
    (hrun : runCheck (proxyCall proxy.guard w.session audiences) w =
      ⟨.done (outcome, category), w, events⟩)
    (hasked : Asked (proxyCall proxy.guard w.session audiences) events nonce) :
    ∃ tail, ((authorize proxy audiences).run w).events =
        (events ++ [checkEvent proxy.guard category]) ++
          authorizationEvent proxy.guard category.asStr :: tail ∧
      countersOf tail = [] ∧
      (enteredBy ((authorize proxy audiences).run w).events ≠ [] ↔ Forwards outcome) := by
  have hentered := enteredBy_decision hasked proxy category
  cases outcome with
  | forward token nonce strip =>
    obtain ⟨hevents, -⟩ := run_innerRequestFilter proxy { w with auth := ⟨token, nonce, strip⟩ }
    rw [run_authorize_forward hrun, after_events, hevents, enteredBy_append, hentered]
    refine ⟨[.innerRequestFilter ⟨token, nonce, strip⟩], ?_, rfl, ?_⟩
    · simp [decisionEvents]
    · refine iff_of_true ?_ ⟨token, nonce, strip, rfl⟩
      simp [enteredBy]
  | deny d =>
    have hanswered := answered_refuse d.status d.challenges d.dpopNonce d.retryAfter
      (proxy.errorBody (denialDetails d)) w
    obtain ⟨hcounters, -⟩ := silent_answered hanswered
    have hunentered := enteredBy_answered hanswered
    rw [run_authorize_deny hrun]
    generalize (refuse d.status d.challenges d.dpopNonce d.retryAfter
      (proxy.errorBody (denialDetails d))).run w = answer at hcounters hunentered
    refine ⟨.errorBody (denialDetails d) :: answer.events, ?_, hcounters, ?_⟩
    · simp [decisionEvents]
    · refine iff_of_false ?_ ?_
      · rw [after_events, enteredBy_append, enteredBy_append, hentered, hunentered]
        simp [enteredBy]
      · rintro ⟨token, nonce, strip, h⟩
        cases h

theorem authorize_counted (adapter : Adapter C) (a : Arrival C) (proxy : AuthProxy C)
    (hguard : proxy.guard = adapter.guardFor a) (hinside : adapter.refusal a = none) :
    Counted adapter a ((authorize proxy adapter.audiences).run a.world) := by
  obtain ⟨outcome, category, events, hrun, hdecided, hasked⟩ :=
    runCheck_decided (proxyCall proxy.guard a.world.session adapter.audiences) a.world
  obtain ⟨tail, hevents, htail, hentered⟩ := authorize_tail hrun hasked
  have hname : adapter.guard.metricsName = proxy.guard.metricsName := by
    rw [hguard]
    rfl
  have hcheck := run_checkForProxy hrun
  rw [hguard] at hcheck
  have hchecked : countersOf (events ++ [checkEvent proxy.guard category]) =
      [checkCounter adapter.guard category] := by
    rw [countersOf_asked hasked, checkCounter, checkCounter, hname]
  have hauthorization : countersOf (authorizationEvent proxy.guard category.asStr :: tail) =
      [authorizationCount adapter.guard category.asStr] := by
    have hcons := countersOf_append [authorizationEvent proxy.guard category.asStr] tail
    rw [htail, List.append_nil] at hcons
    rw [authorizationCount, hname]
    exact hcons
  exact .checked hinside hcheck (hguard ▸ hevents) (hguard ▸ hchecked) hauthorization
    (decided_label hdecided) hentered

theorem auth_counted (proxy : AuthProxy C) (a : Arrival C) :
    Counted (authAdapter proxy) a ((authAdapter proxy).serve a) :=
  authorize_counted (authAdapter proxy) a (facing proxy a) rfl rfl

theorem bound_counted (proxy : ProtectedResourceProxy C) (a : Arrival C) :
    Counted (boundAdapter proxy) a ((boundAdapter proxy).serve a) := by
  by_cases hi : ∃ uri, Inside (boundFacing proxy a) a.world uri
  · obtain ⟨uri, hi⟩ := hi
    have hnone : (boundAdapter proxy).refusal a = none := by
      have hu : effectiveRequestUri proxy.auth.guard a.world.session.reqHeader.uri = some uri :=
        hi.reconstructed
      have hm : resourcePathMatches proxy.resourcePath uri.path = true := hi.covered
      simp [Adapter.refusal, boundAdapter, hu, hm]
    have hrun : (boundAdapter proxy).serve a =
        (authorize (facing proxy.auth a) (some proxy.audiences)).run a.world := run_inside hi
    rw [hrun]
    exact authorize_counted (boundAdapter proxy) a (facing proxy.auth a) rfl hnone
  · have hout : ∀ uri, ¬ Inside (boundFacing proxy a) a.world uri := fun uri h => hi ⟨uri, h⟩
    have hrun : (boundAdapter proxy).serve a = _ := run_outside hout
    have hlabel : (boundAdapter proxy).refusal a =
        some (boundaryLabel (publicUri (boundFacing proxy a) a.world)) := by
      rcases outside_cases hout with hu | ⟨uri, hu, hm⟩
      · have hu' : effectiveRequestUri proxy.auth.guard a.world.session.reqHeader.uri = none := hu
        simp [Adapter.refusal, boundAdapter, hu, hu', boundaryLabel]
      · have hu' : effectiveRequestUri proxy.auth.guard a.world.session.reqHeader.uri = some uri :=
          hu
        have hm' : resourcePathMatches proxy.resourcePath uri.path = false := hm
        simp [Adapter.refusal, boundAdapter, hu, hu', hm', boundaryLabel]
    have hanswered := answered_refuse (outsideDetails (boundFacing proxy a) a.world).status [] none
      none (a.errorBody (outsideDetails (boundFacing proxy a) a.world)) a.world
    obtain ⟨hcounters, -⟩ := silent_answered hanswered
    rw [hrun]
    refine .refused hlabel ?_ ?_ ?_ ?_
    · intro headers method uri cert hmem
      rw [after_events] at hmem
      rcases List.mem_append.mp hmem with hmem | hmem
      · simp [authorizationEvent] at hmem
      · exact unasked_answered hanswered headers method uri cert hmem
    · rw [after_events, countersOf_append]
      refine Eq.trans (congrArg _ hcounters) ?_
      rfl
    · unfold boundaryLabel
      split <;> decide
    · rw [after_events, enteredBy_append]
      exact Eq.trans (congrArg _ (enteredBy_answered hanswered)) rfl

/-- The counters of any sequence of requests, against what was decided. -/
structure Reconciled (adapter : Adapter C) : Prop where
  counted : ∀ a, Counted adapter a (adapter.serve a)
  totals : ∀ arrivals label, (authorizations (adapter.handled arrivals)).count label =
    (checks (adapter.handled arrivals)).count label + (adapter.refusals arrivals).count label
  /-- Neither a failed write nor an inner proxy or a renderer changes a counter. -/
  unmoved : ∀ arrivals arrivals', List.Forall₂ SameRequest arrivals arrivals' →
    countersOf (adapter.handled arrivals) = countersOf (adapter.handled arrivals')

omit [HttpCrate] in
theorem counted_labels {adapter : Adapter C} {a : Arrival C}
    {r : Ran Error (World C) (Event C) Bool} (h : Counted adapter a r) :
    ∃ label, authorizations r.events = [label] ∧
      checks r.events ++ (adapter.refusal a).toList = [label] := by
  cases h with
  | @refused label hrefusal _ hcounters _ _ =>
    refine ⟨label, ?_, ?_⟩
    · rw [authorizations, hcounters]
      rfl
    · rw [checks, hcounters, hrefusal]
      rfl
  | @checked _ category asked rest hrefusal _ hevents hasked hrest _ _ =>
    refine ⟨category.asStr, ?_, ?_⟩
    · rw [authorizations, hevents, countersOf_append, hasked, hrest]
      rfl
    · rw [checks, hevents, countersOf_append, hasked, hrest, hrefusal]
      rfl

omit [HttpCrate] in
theorem totals {adapter : Adapter C} (h : ∀ a, Counted adapter a (adapter.serve a))
    (arrivals : List (Arrival C)) (label : String) :
    (authorizations (adapter.handled arrivals)).count label =
      (checks (adapter.handled arrivals)).count label +
        (adapter.refusals arrivals).count label := by
  induction arrivals with
  | nil => rfl
  | cons a arrivals ih =>
    obtain ⟨label', hauthorized, hchecked⟩ := counted_labels (h a)
    have hcount := congrArg (List.count label) hchecked
    have hrefusals : (adapter.refusals (a :: arrivals)).count label =
        (adapter.refusal a).toList.count label + (adapter.refusals arrivals).count label := by
      rw [← List.count_append]
      unfold Adapter.refusals
      cases hr : adapter.refusal a <;> simp [hr]
    have hhandled : adapter.handled (a :: arrivals) =
        (adapter.serve a).events ++ adapter.handled arrivals := List.flatMap_cons
    rw [List.count_append] at hcount
    rw [hhandled, authorizations_append, checks_append, List.count_append, List.count_append,
      hauthorized, hrefusals, ih, ← hcount]
    omega

omit [HttpCrate] in
theorem checkForProxy_same {guard : Guard C} {audiences : Option (List String)} {w w' : World C}
    (hreq : w.session.reqHeader = w'.session.reqHeader)
    (hcert : w.session.clientCertDer = w'.session.clientCertDer) :
    (checkForProxy guard audiences).run w' = ⟨((checkForProxy guard audiences).run w).exit, w',
      ((checkForProxy guard audiences).run w).events⟩ := by
  have hcall : proxyCall guard w.session audiences = proxyCall guard w'.session audiences := by
    rw [proxyCall, proxyCall, hreq, hcert]
  obtain ⟨outcome, category, events, hrun, -, -⟩ :=
    runCheck_decided (proxyCall guard w.session audiences) w
  have hrun' : runCheck (proxyCall guard w'.session audiences) w' =
      ⟨.done (outcome, category), w', events⟩ := by
    rw [← hcall, runCheck_anywhere _ w, hrun]
  rw [run_checkForProxy hrun, run_checkForProxy hrun']

omit [HttpCrate] in
theorem counters_same {adapter : Adapter C} {a a' : Arrival C}
    {r r' : Ran Error (World C) (Event C) Bool} (hsame : SameRequest a a')
    (h : Counted adapter a r) (h' : Counted adapter a' r') :
    countersOf r.events = countersOf r'.events := by
  have hrefusal : adapter.refusal a = adapter.refusal a' := by
    rw [Adapter.refusal, Adapter.refusal, hsame.reqHeader]
  have hguard : adapter.guardFor a = adapter.guardFor a' := by
    rw [Adapter.guardFor, Adapter.guardFor, hsame.validator]
  cases h with
  | refused hr _ hcounters _ _ =>
    cases h' with
    | refused hr' _ hcounters' _ _ =>
      obtain rfl := Option.some.inj (hr.symm.trans (hrefusal.trans hr'))
      rw [hcounters, hcounters']
    | checked hr' => simp [hrefusal, hr'] at hr
  | checked hr hrun hevents hasked hrest _ _ =>
    cases h' with
    | refused hr' => simp [hrefusal, hr'] at hr
    | checked _ hrun' hevents' hasked' hrest' _ _ =>
      have hrepeat : (checkForProxy (adapter.guardFor a') adapter.audiences).run a'.world = _ :=
        checkForProxy_same hsame.reqHeader hsame.clientCertDer
      rw [hrun', ← hguard, hrun] at hrepeat
      obtain ⟨⟨-, rfl⟩, -⟩ : (_ = _ ∧ _ = _) ∧ _ = _ := by simpa using hrepeat
      rw [hevents, hevents', countersOf_append, countersOf_append, hasked, hasked', hrest, hrest']

omit [HttpCrate] in
theorem reconciled {adapter : Adapter C} (h : ∀ a, Counted adapter a (adapter.serve a)) :
    Reconciled adapter where
  counted := h
  totals := totals h
  unmoved := by
    intro arrivals arrivals' hsame
    induction hsame with
    | nil => rfl
    | cons ha _ ih =>
      unfold Adapter.handled at ih ⊢
      rw [List.flatMap_cons, List.flatMap_cons, countersOf_append, countersOf_append, ih,
        counters_same ha (h _) (h _)]

/-- The three entry points of the guard make one check each, and it is the same check. -/
structure Standalone (guard : Guard C) (w : World C) : Prop where
  session : ∃ outcome category events,
    (checkForProxy guard none).run w = ⟨.done (outcome, category), w, events⟩ ∧
      (check guard).run w = ⟨.done outcome, w, events⟩ ∧
      countersOf events = [checkCounter guard category]
  request : ∀ headers method uri clientCertDer, ∃ outcome category events,
    (checkRequest guard headers method uri clientCertDer).run w = ⟨.done outcome, w, events⟩ ∧
      countersOf events = [checkCounter guard category] ∧
      (category.asStr = "forward" ↔ Forwards outcome)
  same : (check guard).run w = (checkRequest guard w.session.reqHeader.headers
    w.session.reqHeader.method w.session.reqHeader.uri w.session.clientCertDer).run w

omit [HttpCrate] in
theorem standalone (guard : Guard C) (w : World C) : Standalone guard w := by
  have hrequest : ∀ headers method uri clientCertDer, ∃ outcome category events,
      runCheck ⟨guard, headers, method, uri, clientCertDer, guard.metadata, none⟩ w =
        ⟨.done (outcome, category), w, events⟩ ∧
      (checkRequest guard headers method uri clientCertDer).run w =
        ⟨.done outcome, w, events ++ [checkEvent guard category]⟩ ∧
      countersOf (events ++ [checkEvent guard category]) = [checkCounter guard category] ∧
      (category.asStr = "forward" ↔ Forwards outcome) := by
    intro headers method uri clientCertDer
    obtain ⟨outcome, category, events, hrun, hdecided, hasked⟩ := runCheck_decided
      ⟨guard, headers, method, uri, clientCertDer, guard.metadata, none⟩ w
    refine ⟨outcome, category, events, hrun, ?_, countersOf_asked hasked guard category,
      decided_label hdecided⟩
    simp only [runCheck] at hrun
    simp [checkRequest, checkRequestWithMetadata, hrun, checkEvent]
  have hsame : (check guard).run w = (checkRequest guard w.session.reqHeader.headers
      w.session.reqHeader.method w.session.reqHeader.uri w.session.clientCertDer).run w := by
    simp [check, checkRequest]
  refine ⟨?_, ?_, hsame⟩
  · obtain ⟨outcome, category, events, hrun, hchecked, hcounters, -⟩ := hrequest
      w.session.reqHeader.headers w.session.reqHeader.method w.session.reqHeader.uri
      w.session.clientCertDer
    exact ⟨outcome, category, _, run_checkForProxy hrun, hsame.trans hchecked, hcounters⟩
  · intro headers method uri clientCertDer
    obtain ⟨outcome, category, events, -, hchecked, hcounters, hlabel⟩ :=
      hrequest headers method uri clientCertDer
    exact ⟨outcome, category, _, hchecked, hcounters, hlabel⟩

/-- Authorizations are checks and boundary refusals, label by label, over every sequence
of requests, and a check on its own is the check an adapter makes. -/
theorem resource_telemetry_reconciles (proxy : ProtectedResourceProxy C) (auth : AuthProxy C) :
    Reconciled (boundAdapter proxy) ∧ Reconciled (authAdapter auth) ∧
      (∀ arrivals, (authAdapter auth).refusals arrivals = []) ∧
      ∀ w, Standalone auth.guard w := by
  refine ⟨reconciled (bound_counted proxy), reconciled (auth_counted auth), ?_, ?_⟩
  · intro arrivals
    exact List.filterMap_eq_nil_iff.mpr fun _ _ => rfl
  · exact standalone auth.guard

end Requests

end ResourceTelemetry
