import HuskarlPingora.RendererNoninterference

/-! # What a rejection tells

The details of a denial come from the check that refused. A failure of the server and a
route refused by policy tell nothing, and only a trusted rule has its scope named. -/
namespace RejectionDetails

open HttpModel RouteResolution ResourceRules ResourceErrors ResourceContext ResourceGuard
open ResourceResponse ResourceProxy ResourceEffects GuardAuthorization RendererNoninterference
open TracedHooks

variable {C : Type}

structure Silent (details : FailureDetails) : Prop where
  errorCode : details.errorCode = none
  errorDescription : details.errorDescription = none
  requiredScopes : details.requiredScopes = none

structure Tells (code : TokenErrorCode) (description : Option String)
    (scopes : Option (List String)) (details : FailureDetails) : Prop where
  errorCode : details.errorCode = some code
  errorDescription : details.errorDescription = description
  requiredScopes : details.requiredScopes = scopes

/-- A challenge that blames the server is kept back whole, with its description and with
either scope. The scope of the challenge goes before the one it is given. -/
inductive Disclosed (challenge : Challenge) (scope : Option String) (details : FailureDetails) :
    Prop where
  | server {status retryAfter} : challenge.error = .server status retryAfter → Silent details →
      Disclosed challenge scope details
  | client {code} : challenge.error = .client code →
      Tells code challenge.description ((challenge.scope.or scope).map splitWhitespace) details →
      Disclosed challenge scope details

theorem disclosed_fromChallenge (challenge : Challenge) (scope : Option String) :
    Disclosed challenge scope (.fromChallenge challenge scope) := by
  unfold FailureDetails.fromChallenge
  cases h : challenge.error with
  | server status retryAfter => exact .server h ⟨rfl, rfl, rfl⟩
  | client code => exact .client h ⟨rfl, rfl, rfl⟩

theorem tells_client (code : TokenErrorCode) (description : String) (scope : Option String) :
    Tells code (some description) (scope.map splitWhitespace)
      (.fromChallenge (.client code description) scope) := by
  constructor <;> rfl

section Denials

variable [HasScopes C] [ResourceServerLib]

/-- The check that refused, as the first whose condition fails, and what it tells. -/
inductive Explained (call : GuardCall C) (details : FailureDetails) : Prop where
  | policy {reason} : Denied call reason → reason.kind ≠ .invalidInput → Silent details →
      Explained call details
  | path {reason} : Denied call reason → reason.kind = .invalidInput →
      Tells .invalidRequest (some reason.message) none details → Explained call details
  | uri {rule} : Resolved call rule → rule.token ≠ .none →
      effectiveRequestUri call.guard call.uri = none →
      Tells .invalidRequest (some "Invalid request URI") none details → Explained call details
  | rejected {rule fullUri err} : Asks call rule fullUri →
      (answer call fullUri).outcome = .error err →
      Disclosed err.challenge rule.scopeParam details → Explained call details
  | missing {rule fullUri} : Asks call rule fullUri → (answer call fullUri).outcome = .ok none →
      rule.token = .required → Silent details → Explained call details
  | binding {rule fullUri v} : Asks call rule fullUri →
      (answer call fullUri).outcome = .ok (some v) → ¬ BoundAudience call v →
      Tells .invalidToken (some "The access token audience does not match the protected resource")
        (rule.scopeParam.map splitWhitespace) details → Explained call details
  | audience {rule fullUri v} : Asks call rule fullUri →
      (answer call fullUri).outcome = .ok (some v) → BoundAudience call v → ¬ RuleAudience rule v →
      Tells .invalidToken (some "The access token audience does not match")
        (rule.scopeParam.map splitWhitespace) details → Explained call details
  | scope {rule fullUri v} : Asks call rule fullUri →
      (answer call fullUri).outcome = .ok (some v) → BoundAudience call v → RuleAudience rule v →
      ¬ AllScopes rule v →
      Disclosed ResourceServerLib.insufficientScope.challenge rule.scopeParam details →
      Explained call details
  | forbidden {rule fullUri v f message} : Asks call rule fullUri →
      (answer call fullUri).outcome = .ok (some v) → BoundAudience call v → RuleAudience rule v →
      AllScopes rule v → rule.check = some f → f v = .error (.forbidden message) →
      Tells .insufficientScope (some message) none details → Explained call details
  | invalid {rule fullUri v f message} : Asks call rule fullUri →
      (answer call fullUri).outcome = .ok (some v) → BoundAudience call v → RuleAudience rule v →
      AllScopes rule v → rule.check = some f → f v = .error (.invalidToken message) →
      Tells .invalidToken (some message) none details → Explained call details

variable {call : GuardCall C} {rule : Rule C} {v : ValidatedRequest C} {w : World C} {d : Denial}
  {category : CheckOutcome} {events : List (Event C)}

omit [HasScopes C] [ResourceServerLib] in
theorem denial_of_run {result : Outcome C × CheckOutcome} {events' : List (Event C)}
    {r : Ran Error (World C) (Event C) (Outcome C × CheckOutcome)}
    (h : r = ⟨.done (.deny d, category), w, events⟩) (hr : r = ⟨.done result, w, events'⟩) :
    result = (.deny d, category) := by
  rw [h] at hr
  simp only [Ran.mk.injEq, Exit.done.injEq] at hr
  exact hr.1.symm

omit [HasScopes C] [ResourceServerLib] in
theorem details_denyError {err : Rfc6750Error} {scope nonce : Option String}
    {category' : CheckOutcome}
    (h : (denyError (C := C) call.metadata err scope nonce, category') = (.deny d, category)) :
    d.details = .fromChallenge err.challenge scope := by
  simp only [denyError, Prod.mk.injEq, Outcome.deny.injEq] at h
  rw [← h.1]

theorem details_checked {fullUri : Uri} {err : Rfc6750Error} {scope : Option String}
    {category' : CheckOutcome}
    (hrun : runCheck call w = ⟨.done (.deny d, category), w, events⟩)
    (hask : Asks call rule fullUri) (hout : (answer call fullUri).outcome = .ok (some v))
    (h : runCheckRule call rule v (answer call fullUri).dpopNonce =
      some (denyError call.metadata err scope (answer call fullUri).dpopNonce, category')) :
    d.details = .fromChallenge err.challenge scope := by
  simp only [runCheckRule] at h
  have hresult := denial_of_run hrun (runCheck_asks hask w)
  simp only [decideValidated, hout, h] at hresult
  exact details_denyError hresult

theorem explained_route {reason : ResolveError}
    (hrun : runCheck call w = ⟨.done (.deny d, category), w, events⟩)
    (hdenied : Denied call reason) : Explained call d.details := by
  have hresult := denial_of_run hrun (runCheck_denied hdenied w)
  simp only [ResourceGuard.routeDenial, Prod.mk.injEq, Outcome.deny.injEq] at hresult
  obtain ⟨rfl, -⟩ := hresult
  by_cases hk : reason.kind = .invalidInput
  · refine .path hdenied hk ?_
    simp only [hk, if_true]
    exact tells_client .invalidRequest reason.message none
  · refine .policy hdenied hk ?_
    simp only [hk, if_false]
    exact ⟨rfl, rfl, rfl⟩

theorem explained_uri (hrun : runCheck call w = ⟨.done (.deny d, category), w, events⟩)
    (hr : Resolved call rule) (ht : rule.token ≠ .none)
    (hu : effectiveRequestUri call.guard call.uri = none) : Explained call d.details := by
  have hresult := denial_of_run hrun (runCheck_unreconstructed hr ht hu w)
  simp only [badRequestWithMetadata, Prod.mk.injEq, Outcome.deny.injEq] at hresult
  obtain ⟨rfl, -⟩ := hresult
  exact .uri hr ht hu (tells_client .invalidRequest _ none)

theorem explained_rejected {fullUri : Uri} {err : ValidatorError}
    (hrun : runCheck call w = ⟨.done (.deny d, category), w, events⟩)
    (hask : Asks call rule fullUri) (hout : (answer call fullUri).outcome = .error err) :
    Explained call d.details := by
  have hresult := denial_of_run hrun (runCheck_asks hask w)
  simp only [decideValidated, hout, Prod.mk.injEq, Outcome.deny.injEq] at hresult
  obtain ⟨rfl, -⟩ := hresult
  exact .rejected hask hout (disclosed_fromChallenge err.challenge rule.scopeParam)

theorem explained_missing {fullUri : Uri}
    (hrun : runCheck call w = ⟨.done (.deny d, category), w, events⟩)
    (hask : Asks call rule fullUri) (hout : (answer call fullUri).outcome = .ok none)
    (ht : rule.token = .required) : Explained call d.details := by
  have hresult := denial_of_run hrun (runCheck_asks hask w)
  simp only [decideValidated, hout, ht, Prod.mk.injEq, Outcome.deny.injEq] at hresult
  obtain ⟨rfl, -⟩ := hresult
  exact .missing hask hout ht ⟨rfl, rfl, rfl⟩

theorem explained_check {fullUri : Uri} {f : CheckFn C} {e : CheckError}
    (hrun : runCheck call w = ⟨.done (.deny d, category), w, events⟩)
    (hask : Asks call rule fullUri) (hout : (answer call fullUri).outcome = .ok (some v))
    (hb : BoundAudience call v) (ha : RuleAudience rule v) (hs : AllScopes rule v)
    (hf : rule.check = some f) (he : f v = .error e) : Explained call d.details := by
  have hdetails := details_checked hrun hask hout (runCheckRule_check _ hb ha hs hf he)
  cases e with
  | forbidden message =>
    refine .forbidden hask hout hb ha hs hf he ?_
    rw [hdetails]
    exact tells_client .insufficientScope message none
  | invalidToken message =>
    refine .invalid hask hout hb ha hs hf he ?_
    rw [hdetails]
    exact tells_client .invalidToken message none

theorem explained_refused {category' : CheckOutcome} (h : Refused call category')
    (hrun : runCheck call w = ⟨.done (.deny d, category), w, events⟩) :
    Explained call d.details := by
  cases h with
  | route hdenied => exact explained_route hrun hdenied
  | uri hr ht hu => exact explained_uri hrun hr ht hu
  | rejected hask hout => exact explained_rejected hrun hask hout
  | missing hask hout ht => exact explained_missing hrun hask hout ht
  | @binding rule fullUri v hask hout hb =>
    have herror := (audienceError_eq call rule v).1 hb
    refine .binding hask hout hb ?_
    rw [details_checked hrun hask hout (runCheckRule_audience _ herror)]
    exact tells_client .invalidToken _ rule.scopeParam
  | @audience rule fullUri v hask hout hb ha =>
    have herror := (audienceError_eq call rule v).2.1 hb ha
    refine .audience hask hout hb ha ?_
    rw [details_checked hrun hask hout (runCheckRule_audience _ herror)]
    exact tells_client .invalidToken _ rule.scopeParam
  | @scope rule fullUri v hask hout hb ha hs =>
    refine .scope hask hout hb ha hs ?_
    rw [details_checked hrun hask hout (runCheckRule_scope _ hb ha hs)]
    exact disclosed_fromChallenge _ rule.scopeParam
  | check hask hout hb ha hs hf he => exact explained_check hrun hask hout hb ha hs hf he

/-- The renderer is told what the denial tells, with its status and its challenges. -/
structure Conveyed [HttpCrate] (d : Denial) (r : Ran Error (World C) (Event C) Bool) : Prop where
  rendered : ∃ details, renderedBy r.events = [details] ∧
    details.status = d.status ∧ details.errorCode = d.details.errorCode ∧
    details.errorDescription = d.details.errorDescription ∧
    details.requiredScopes = d.details.requiredScopes ∧ details.challenges = d.challenges
  headers : ∀ header ∈ headersOf r.events, Conveys header d.status d.challenges d.dpopNonce

/-- Every denial tells what the check that refused discloses, and a proxy that refuses the
request for it tells its renderer the same. -/
theorem rejection_details_exact [HttpCrate] (call : GuardCall C) (w : World C) :
    ∃ outcome category events, runCheck call w = ⟨.done (outcome, category), w, events⟩ ∧
      ∀ d, outcome = .deny d → Explained call d.details ∧
        ∀ (proxy : AuthProxy C) audiences, call = proxyCall proxy.guard w.session audiences →
          Conveyed d ((authorize proxy audiences).run w) := by
  obtain ⟨outcome, category, events, hrun, hdecided, -⟩ := runCheck_decided call w
  refine ⟨outcome, category, events, hrun, ?_⟩
  rintro d rfl
  constructor
  · cases hdecided with
    | deny _ h => exact explained_refused h hrun
  · rintro proxy audiences rfl
    obtain ⟨-, hrendered, hconveyed⟩ := authorize_renders hrun
    exact ⟨⟨denialDetails d, hrendered, rfl, rfl, rfl, rfl, rfl⟩, hconveyed⟩

end Denials

end RejectionDetails
