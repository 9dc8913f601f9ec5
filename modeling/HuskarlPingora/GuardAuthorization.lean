import HuskarlPingora.ResourceGuard

/-! # What the guard permits, and why it refuses

The conditions of a decision are stated one by one, over what the router, the URL
mapping and the validator answer. A refusal names the first condition that fails. -/
namespace GuardAuthorization

open HttpModel RouteResolution ResourceRules ResourceErrors ResourceContext ResourceGuard
open TracedHooks

variable {C : Type}

structure GuardCall (C : Type) where
  guard : Guard C
  headers : HeaderMap
  method : Method
  uri : Uri
  clientCertDer : Option Bytes
  metadata : ValidatorMetadata
  resourceAudiences : Option (List String)

def Resolved (call : GuardCall C) (rule : Rule C) : Prop :=
  call.guard.policy.routes.resolve call.uri.path call.method = .ok rule

def Denied (call : GuardCall C) (reason : ResolveError) : Prop :=
  call.guard.policy.routes.resolve call.uri.path call.method = .error reason

/-- The rule needs the validator, and there is a public URI to validate against. -/
structure Asks (call : GuardCall C) (rule : Rule C) (fullUri : Uri) : Prop where
  resolved : Resolved call rule
  needed : rule.token ≠ .none
  reconstructed : effectiveRequestUri call.guard call.uri = some fullUri

def answer (call : GuardCall C) (fullUri : Uri) : ValidationResult C :=
  call.guard.validator call.headers call.method fullUri call.clientCertDer

def Shares (wanted aud : List String) : Prop := ∃ a ∈ wanted, a ∈ aud

/-- An empty binding shares nothing and refuses every token. -/
def BoundAudience (call : GuardCall C) (v : ValidatedRequest C) : Prop :=
  ∀ audiences, call.resourceAudiences = some audiences → Shares audiences v.aud

def RuleAudience (rule : Rule C) (v : ValidatedRequest C) : Prop :=
  rule.audiences = [] ∨ Shares rule.audiences v.aud

def CheckPasses (rule : Rule C) (v : ValidatedRequest C) : Prop :=
  ∀ f, rule.check = some f → f v = .ok ()

def CheckError.category : CheckError → CheckOutcome
  | .forbidden _ => .insufficientScope
  | .invalidToken _ => .invalidToken

def CheckError.reported : CheckError → Rfc6750Error
  | .forbidden description => customCheckError .insufficientScope description
  | .invalidToken description => customCheckError .invalidToken description

def routeCategory (reason : ResolveError) : CheckOutcome :=
  match reason.kind with
  | .invalidInput => .pathConfusion
  | .policyDenied => .policyDenied
  | .internal => .serverError

theorem any_contains (wanted aud : List String) :
    wanted.any (aud.contains ·) = true ↔ Shares wanted aud := by
  simp [Shares]

theorem binding_mismatch (call : GuardCall C) (v : ValidatedRequest C) :
    (call.resourceAudiences.any fun audiences => !audiences.any (v.aud.contains ·)) = false ↔
      BoundAudience call v := by
  unfold BoundAudience
  cases call.resourceAudiences with
  | none => simp
  | some audiences => simp [Shares]

theorem rule_mismatch (rule : Rule C) (v : ValidatedRequest C) :
    (!rule.audiences.isEmpty && !rule.audiences.any (v.aud.contains ·)) = false ↔
      RuleAudience rule v := by
  unfold RuleAudience
  rw [← any_contains]
  cases h : rule.audiences with
  | nil => simp
  | cons a as =>
    simp only [List.isEmpty_cons, Bool.not_false, Bool.true_and, Bool.not_eq_false', reduceCtorEq,
      false_or]

theorem audienceError_eq (call : GuardCall C) (rule : Rule C) (v : ValidatedRequest C) :
    (¬ BoundAudience call v → audienceError rule v call.resourceAudiences =
      some "The access token audience does not match the protected resource") ∧
    (BoundAudience call v → ¬ RuleAudience rule v → audienceError rule v call.resourceAudiences =
      some "The access token audience does not match") ∧
    (BoundAudience call v → RuleAudience rule v →
      audienceError rule v call.resourceAudiences = none) := by
  unfold audienceError
  rw [← binding_mismatch, ← rule_mismatch, Bool.not_eq_false, Bool.not_eq_false]
  refine ⟨?_, ?_, ?_⟩
  · intro hb
    rw [if_pos hb]
  · intro hb ha
    rw [if_neg (ne_true_of_eq_false hb), if_pos ha]
  · intro hb ha
    rw [if_neg (ne_true_of_eq_false hb), if_neg (ne_true_of_eq_false ha)]

/-- No audience error exactly when both audience conditions hold. -/
theorem audienceError_none (call : GuardCall C) (rule : Rule C) (v : ValidatedRequest C) :
    audienceError rule v call.resourceAudiences = none ↔
      BoundAudience call v ∧ RuleAudience rule v := by
  obtain ⟨hbinding, haudience, hboth⟩ := audienceError_eq call rule v
  by_cases hb : BoundAudience call v
  · by_cases ha : RuleAudience rule v
    · exact iff_of_true (hboth hb ha) ⟨hb, ha⟩
    · simp [haudience hb ha, ha]
  · simp [hbinding hb, hb]

variable [HasScopes C]

def AllScopes (rule : Rule C) (v : ValidatedRequest C) : Prop :=
  ∀ s ∈ rule.scopes, HasScopes.hasScope v.claims s = true

/-- The token and the strip flag a request is forwarded with. -/
inductive Permitted (call : GuardCall C) : Option (ValidatedRequest C) → Bool → Prop where
  | pub {rule} : Resolved call rule → rule.token = .none →
      Permitted call none rule.stripCredentials
  | anonymous {rule fullUri} : Asks call rule fullUri → (answer call fullUri).outcome = .ok none →
      rule.token = .optional → Permitted call none rule.stripCredentials
  | authenticated {rule fullUri v} : Asks call rule fullUri →
      (answer call fullUri).outcome = .ok (some v) → BoundAudience call v → RuleAudience rule v →
      AllScopes rule v → CheckPasses rule v → Permitted call (some v) rule.stripCredentials

/-- The category of the first condition that fails. Every constructor repeats that the
conditions before its own hold. -/
inductive Refused (call : GuardCall C) : CheckOutcome → Prop where
  | route {reason} : Denied call reason → Refused call (routeCategory reason)
  | uri {rule} : Resolved call rule → rule.token ≠ .none →
      effectiveRequestUri call.guard call.uri = none → Refused call .invalidRequest
  | rejected {rule fullUri err} : Asks call rule fullUri →
      (answer call fullUri).outcome = .error err →
      Refused call (.fromValidation (err.validationOutcome err.challenge))
  | missing {rule fullUri} : Asks call rule fullUri → (answer call fullUri).outcome = .ok none →
      rule.token = .required → Refused call .unauthenticated
  | binding {rule fullUri v} : Asks call rule fullUri →
      (answer call fullUri).outcome = .ok (some v) → ¬ BoundAudience call v →
      Refused call .invalidToken
  | audience {rule fullUri v} : Asks call rule fullUri →
      (answer call fullUri).outcome = .ok (some v) → BoundAudience call v → ¬ RuleAudience rule v →
      Refused call .invalidToken
  | scope {rule fullUri v} : Asks call rule fullUri →
      (answer call fullUri).outcome = .ok (some v) → BoundAudience call v → RuleAudience rule v →
      ¬ AllScopes rule v → Refused call .insufficientScope
  | check {rule fullUri v f e} : Asks call rule fullUri →
      (answer call fullUri).outcome = .ok (some v) → BoundAudience call v → RuleAudience rule v →
      AllScopes rule v → rule.check = some f → f v = .error e →
      Refused call (CheckError.category e)

theorem allScopes_iff (rule : Rule C) (v : ValidatedRequest C) :
    (rule.scopes.any fun required => !HasScopes.hasScope v.claims required) = false ↔
      AllScopes rule v := by
  simp [AllScopes]

section Evaluation

variable [ResourceServerLib] {call : GuardCall C} {rule : Rule C} {v : ValidatedRequest C}

def runCheckRule (call : GuardCall C) (rule : Rule C) (v : ValidatedRequest C)
    (nonce : Option String) : Option (Outcome C × CheckOutcome) :=
  checkRule rule v rule.scopeParam nonce call.metadata call.resourceAudiences

/-- A denial in this category that carries this nonce. -/
def Denies (nonce : Option String) (category : CheckOutcome) (result : Outcome C × CheckOutcome) :
    Prop :=
  ∃ d, d.dpopNonce = nonce ∧ result = (.deny d, category)

omit [HasScopes C] [ResourceServerLib] in
theorem denies_denyError (metadata : ValidatorMetadata) (err : Rfc6750Error)
    (scope nonce : Option String) (category : CheckOutcome) :
    Denies nonce category (denyError (C := C) metadata err scope nonce, category) :=
  ⟨_, rfl, rfl⟩

theorem runCheckRule_audience {message : String} (nonce : Option String)
    (h : audienceError rule v call.resourceAudiences = some message) :
    runCheckRule call rule v nonce = some (denyError call.metadata (invalidToken message)
      rule.scopeParam nonce, .invalidToken) := by
  simp only [runCheckRule, checkRule, h]

theorem runCheckRule_scope (nonce : Option String) (hb : BoundAudience call v)
    (ha : RuleAudience rule v) (hs : ¬ AllScopes rule v) :
    runCheckRule call rule v nonce = some (denyError call.metadata
      ResourceServerLib.insufficientScope rule.scopeParam nonce, .insufficientScope) := by
  have hnone := (audienceError_none call rule v).mpr ⟨hb, ha⟩
  rw [← allScopes_iff, Bool.not_eq_false] at hs
  simp only [runCheckRule, checkRule, hnone, hs, if_true]

theorem runCheckRule_check (nonce : Option String) (hb : BoundAudience call v)
    (ha : RuleAudience rule v) (hs : AllScopes rule v) {f : CheckFn C} {e : CheckError}
    (hf : rule.check = some f) (he : f v = .error e) :
    runCheckRule call rule v nonce = some (denyError call.metadata (CheckError.reported e) none
      nonce, CheckError.category e) := by
  have hnone := (audienceError_none call rule v).mpr ⟨hb, ha⟩
  have hall := (allScopes_iff rule v).mpr hs
  simp only [runCheckRule, checkRule, hnone, hall, Bool.false_eq_true, if_false, hf, he]
  cases e <;> rfl

theorem checkRule_audience (nonce : Option String)
    (h : ¬ (BoundAudience call v ∧ RuleAudience rule v)) :
    ∃ result, runCheckRule call rule v nonce = some result ∧ Denies nonce .invalidToken result := by
  rw [← audienceError_none] at h
  obtain ⟨message, hm⟩ := Option.ne_none_iff_exists'.mp h
  exact ⟨_, runCheckRule_audience nonce hm, denies_denyError ..⟩

theorem checkRule_scope (nonce : Option String) (hb : BoundAudience call v)
    (ha : RuleAudience rule v) (hs : ¬ AllScopes rule v) :
    ∃ result, runCheckRule call rule v nonce = some result ∧
      Denies nonce .insufficientScope result :=
  ⟨_, runCheckRule_scope nonce hb ha hs, denies_denyError ..⟩

theorem checkRule_check (nonce : Option String) (hb : BoundAudience call v)
    (ha : RuleAudience rule v) (hs : AllScopes rule v) {f : CheckFn C} {e : CheckError}
    (hf : rule.check = some f) (he : f v = .error e) :
    ∃ result, runCheckRule call rule v nonce = some result ∧
      Denies nonce (CheckError.category e) result :=
  ⟨_, runCheckRule_check nonce hb ha hs hf he, denies_denyError ..⟩

theorem checkRule_passes (nonce : Option String) (hb : BoundAudience call v)
    (ha : RuleAudience rule v) (hs : AllScopes rule v) (hc : CheckPasses rule v) :
    runCheckRule call rule v nonce = none := by
  have hnone := (audienceError_none call rule v).mpr ⟨hb, ha⟩
  have hall := (allScopes_iff rule v).mpr hs
  cases hf : rule.check with
  | none => simp only [runCheckRule, checkRule, hnone, hall, Bool.false_eq_true, if_false, hf]
  | some f =>
    simp only [runCheckRule, checkRule, hnone, hall, Bool.false_eq_true, if_false, hf, hc f hf]

/-- The events and the nonce of a decision follow from whether the validator is asked. -/
structure Asked (call : GuardCall C) (events : List (Event C)) (nonce : Option String) : Prop where
  asked : ∀ rule fullUri, Asks call rule fullUri →
    events = [.validateRequest call.headers call.method fullUri call.clientCertDer] ∧
      nonce = (answer call fullUri).dpopNonce
  spared : (∀ rule fullUri, ¬ Asks call rule fullUri) → events = [] ∧ nonce = none

omit [HasScopes C] [ResourceServerLib] in
theorem Asked.cases {events : List (Event C)} {nonce : Option String}
    (h : Asked call events nonce) : events = [] ∨ ∃ fullUri,
      events = [.validateRequest call.headers call.method fullUri call.clientCertDer] := by
  by_cases hask : ∃ rule fullUri, Asks call rule fullUri
  · obtain ⟨rule, fullUri, hask⟩ := hask
    exact .inr ⟨fullUri, (h.asked rule fullUri hask).1⟩
  · exact .inl (h.spared fun rule fullUri hr => hask ⟨rule, fullUri, hr⟩).1

def Unasked (events : List (Event C)) : Prop :=
  ∀ headers method uri clientCertDer, .validateRequest headers method uri clientCertDer ∉ events

def runCheck (call : GuardCall C) (w : World C) :
    Ran Error (World C) (Event C) (Outcome C × CheckOutcome) :=
  (checkRequestCategorized call.guard call.headers call.method call.uri call.clientCertDer
    call.metadata call.resourceAudiences).run w

theorem runCheck_asks {fullUri : Uri} (h : Asks call rule fullUri) (w : World C) :
    runCheck call w = ⟨.done (decideValidated rule (answer call fullUri) call.metadata
      call.resourceAudiences), w,
      [.validateRequest call.headers call.method fullUri call.clientCertDer]⟩ := by
  have hr : call.guard.policy.routes.resolve call.uri.path call.method = .ok rule := h.resolved
  simp [runCheck, checkRequestCategorized, hr, h.needed, h.reconstructed, answer]

theorem runCheck_denied {reason : ResolveError} (h : Denied call reason) (w : World C) :
    runCheck call w = ⟨.done (ResourceGuard.routeDenial call.metadata reason), w, []⟩ := by
  have hd : call.guard.policy.routes.resolve call.uri.path call.method = .error reason := h
  simp [runCheck, checkRequestCategorized, hd]

theorem runCheck_unreconstructed (hr : Resolved call rule) (ht : rule.token ≠ .none)
    (hu : effectiveRequestUri call.guard call.uri = none) (w : World C) :
    runCheck call w = ⟨.done (badRequestWithMetadata call.metadata "Invalid request URI",
      .invalidRequest), w, []⟩ := by
  have hr' : call.guard.policy.routes.resolve call.uri.path call.method = .ok rule := hr
  simp [runCheck, checkRequestCategorized, hr', ht, hu]

theorem runCheck_anywhere (call : GuardCall C) (w w' : World C) :
    runCheck call w' = ⟨(runCheck call w).exit, w', (runCheck call w).events⟩ := by
  unfold runCheck checkRequestCategorized
  cases call.guard.policy.routes.resolve call.uri.path call.method with
  | error reason => rfl
  | ok rule =>
    by_cases ht : rule.token = .none
    · simp [ht]
    · cases effectiveRequestUri call.guard call.uri <;> simp [ht]

omit [HasScopes C] [ResourceServerLib] in
theorem asks_unique {rule' : Rule C} {fullUri fullUri' : Uri} (h : Asks call rule fullUri)
    (h' : Asks call rule' fullUri') : rule = rule' ∧ fullUri = fullUri' := by
  have hr := h.resolved.symm.trans h'.resolved
  have hu := h.reconstructed.symm.trans h'.reconstructed
  simp_all

omit [HasScopes C] [ResourceServerLib] in
theorem asked_of {fullUri : Uri} (h : Asks call rule fullUri) : Asked call
    [.validateRequest call.headers call.method fullUri call.clientCertDer]
    (answer call fullUri).dpopNonce where
  asked := by
    intro rule' fullUri' h'
    obtain ⟨-, rfl⟩ := asks_unique h h'
    exact ⟨rfl, rfl⟩
  spared := fun hno => absurd h (hno rule fullUri)

omit [HasScopes C] [ResourceServerLib] in
theorem asked_none (h : ∀ rule fullUri, ¬ Asks call rule fullUri) : Asked call [] none :=
  ⟨fun rule fullUri h' => absurd h' (h rule fullUri), fun _ => ⟨rfl, rfl⟩⟩

theorem permitted_run {token : Option (ValidatedRequest C)} {strip : Bool}
    (h : Permitted call token strip) (w : World C) : ∃ nonce events,
      runCheck call w = ⟨.done (.forward token nonce strip, .forward), w, events⟩ ∧
        Asked call events nonce := by
  cases h with
  | @pub rule hr ht =>
    have hr' : call.guard.policy.routes.resolve call.uri.path call.method = .ok rule := hr
    refine ⟨none, [], by simp [runCheck, checkRequestCategorized, hr', ht], asked_none ?_⟩
    intro rule' fullUri h'
    obtain rfl : rule = rule' := by simpa using hr.symm.trans h'.resolved
    exact h'.needed ht
  | anonymous hask hout ht =>
    refine ⟨_, _, ?_, asked_of hask⟩
    rw [runCheck_asks hask]
    simp [decideValidated, hout, ht]
  | @authenticated rule fullUri v hask hout hb ha hs hc =>
    refine ⟨_, _, ?_, asked_of hask⟩
    rw [runCheck_asks hask]
    have hpass := checkRule_passes (answer call fullUri).dpopNonce hb ha hs hc
    simp only [runCheckRule] at hpass
    simp only [decideValidated, hout, hpass]

theorem denied_run {fullUri : Uri} (hask : Asks call rule fullUri) {category : CheckOutcome}
    (h : Denies (answer call fullUri).dpopNonce category (decideValidated rule
      (answer call fullUri) call.metadata call.resourceAudiences)) (w : World C) :
    ∃ d events, runCheck call w = ⟨.done (.deny d, category), w, events⟩ ∧
      Asked call events d.dpopNonce := by
  obtain ⟨d, hnonce, hresult⟩ := h
  refine ⟨d, _, ?_, hnonce ▸ asked_of hask⟩
  rw [runCheck_asks hask, hresult]

theorem denied_validated {fullUri : Uri} {category : CheckOutcome}
    (hout : (answer call fullUri).outcome = .ok (some v))
    (h : ∃ result, runCheckRule call rule v (answer call fullUri).dpopNonce = some result ∧
      Denies (answer call fullUri).dpopNonce category result) :
    Denies (answer call fullUri).dpopNonce category (decideValidated rule
      (answer call fullUri) call.metadata call.resourceAudiences) := by
  obtain ⟨result, hresult, hdenies⟩ := h
  simp only [runCheckRule] at hresult
  simpa only [decideValidated, hout, hresult] using hdenies

theorem refused_run {category : CheckOutcome} (h : Refused call category) (w : World C) :
    ∃ d events, runCheck call w = ⟨.done (.deny d, category), w, events⟩ ∧
      Asked call events d.dpopNonce := by
  cases h with
  | @route reason hd =>
    have hno : ∀ rule fullUri, ¬ Asks call rule fullUri := by
      intro rule fullUri h'
      simpa using hd.symm.trans h'.resolved
    have hrun := runCheck_denied hd w
    unfold ResourceGuard.routeDenial at hrun
    unfold routeCategory
    cases hk : reason.kind <;> rw [hk] at hrun <;> exact ⟨_, [], hrun, asked_none hno⟩
  | uri hr ht hu =>
    refine ⟨_, [], runCheck_unreconstructed hr ht hu w, asked_none ?_⟩
    intro rule' fullUri h'
    simpa [hu] using h'.reconstructed
  | @rejected rule fullUri err hask hout =>
    refine denied_run hask ?_ w
    simp only [decideValidated, hout]
    exact ⟨_, rfl, rfl⟩
  | missing hask hout ht =>
    refine denied_run hask ?_ w
    simp only [decideValidated, hout, ht]
    exact ⟨_, rfl, rfl⟩
  | binding hask hout hb =>
    exact denied_run hask (denied_validated hout (checkRule_audience _ fun h => hb h.1)) w
  | audience hask hout hb ha =>
    exact denied_run hask (denied_validated hout (checkRule_audience _ fun h => ha h.2)) w
  | scope hask hout hb ha hs =>
    exact denied_run hask (denied_validated hout (checkRule_scope _ hb ha hs)) w
  | check hask hout hb ha hs hf he =>
    exact denied_run hask (denied_validated hout (checkRule_check _ hb ha hs hf he)) w

omit [ResourceServerLib] in
theorem permitted_or_refused_validated {fullUri : Uri} (hask : Asks call rule fullUri)
    (hout : (answer call fullUri).outcome = .ok (some v)) :
    (∃ token strip, Permitted call token strip) ∨ ∃ category, Refused call category := by
  by_cases hb : BoundAudience call v
  · by_cases ha : RuleAudience rule v
    · by_cases hs : AllScopes rule v
      · by_cases hc : CheckPasses rule v
        · exact .inl ⟨_, _, .authenticated hask hout hb ha hs hc⟩
        · obtain ⟨f, hf, hne⟩ : ∃ f, rule.check = some f ∧ f v ≠ .ok () := by
            simpa [CheckPasses] using hc
          cases he : f v with
          | ok u => exact absurd he hne
          | error e => exact .inr ⟨_, .check hask hout hb ha hs hf he⟩
      · exact .inr ⟨_, .scope hask hout hb ha hs⟩
    · exact .inr ⟨_, .audience hask hout hb ha⟩
  · exact .inr ⟨_, .binding hask hout hb⟩

omit [ResourceServerLib] in
theorem permitted_or_refused (call : GuardCall C) :
    (∃ token strip, Permitted call token strip) ∨ ∃ category, Refused call category := by
  cases hr : call.guard.policy.routes.resolve call.uri.path call.method with
  | error reason => exact .inr ⟨_, .route hr⟩
  | ok rule =>
    by_cases ht : rule.token = .none
    · exact .inl ⟨_, _, .pub hr ht⟩
    cases hu : effectiveRequestUri call.guard call.uri with
    | none => exact .inr ⟨_, .uri hr ht hu⟩
    | some fullUri =>
      have hask : Asks call rule fullUri := ⟨hr, ht, hu⟩
      cases hout : (answer call fullUri).outcome with
      | error err => exact .inr ⟨_, .rejected hask hout⟩
      | ok token =>
        cases token with
        | none =>
          cases hk : rule.token with
          | none => exact absurd hk ht
          | optional => exact .inl ⟨_, _, .anonymous hask hout hk⟩
          | required => exact .inr ⟨_, .missing hask hout hk⟩
        | some v => exact permitted_or_refused_validated hask hout

/-- A decision is a forward that the conditions permit or a denial that they name. -/
inductive Decided (call : GuardCall C) : Outcome C → CheckOutcome → Prop where
  | forward {token strip} (nonce) : Permitted call token strip →
      Decided call (.forward token nonce strip) .forward
  | deny {category} (d) : Refused call category → Decided call (.deny d) category

theorem runCheck_decided (call : GuardCall C) (w : World C) : ∃ outcome category events,
    runCheck call w = ⟨.done (outcome, category), w, events⟩ ∧ Decided call outcome category ∧
      Asked call events outcome.dpopNonce := by
  rcases permitted_or_refused call with ⟨token, strip, h⟩ | ⟨category, h⟩
  · obtain ⟨nonce, events, hrun, hasked⟩ := permitted_run h w
    exact ⟨_, _, events, hrun, .forward nonce h, hasked⟩
  · obtain ⟨d, events, hrun, hasked⟩ := refused_run h w
    exact ⟨_, _, events, hrun, .deny d h, hasked⟩

/-- A request is forwarded exactly when the conditions permit it, with their token and
strip flag, and is otherwise denied under the first failing condition. The validator is
asked once if the rule needs it and a public URI exists, and never otherwise. -/
theorem guard_authorizes_exactly (call : GuardCall C) (w : World C) :
    ∃ outcome category events, runCheck call w = ⟨.done (outcome, category), w, events⟩ ∧
      (∀ token strip, (∃ nonce, outcome = .forward token nonce strip) ↔
        Permitted call token strip) ∧
      (∀ c, (∃ d, outcome = .deny d) ∧ category = c ↔ Refused call c) ∧
      ((∃ d, outcome = .deny d) ∨ category = .forward) ∧
      Asked call events outcome.dpopNonce := by
  obtain ⟨outcome, category, events, hrun, hdecided, hasked⟩ := runCheck_decided call w
  refine ⟨outcome, category, events, hrun, fun token strip => ⟨?_, ?_⟩, fun c => ⟨?_, ?_⟩, ?_,
    hasked⟩
  · rintro ⟨nonce, rfl⟩
    cases hdecided with
    | forward _ h => exact h
  · intro h
    obtain ⟨nonce, events', hrun', -⟩ := permitted_run h w
    rw [hrun] at hrun'
    simp only [Ran.mk.injEq, Exit.done.injEq, Prod.mk.injEq] at hrun'
    exact ⟨nonce, hrun'.1.1⟩
  · rintro ⟨⟨d, rfl⟩, rfl⟩
    cases hdecided with
    | deny _ h => exact h
  · intro h
    obtain ⟨d, events', hrun', -⟩ := refused_run h w
    rw [hrun] at hrun'
    simp only [Ran.mk.injEq, Exit.done.injEq, Prod.mk.injEq] at hrun'
    exact ⟨⟨d, hrun'.1.1⟩, hrun'.1.2⟩
  · cases hdecided with
    | forward _ _ => exact .inr rfl
    | deny d _ => exact .inl ⟨d, rfl⟩

end Evaluation

end GuardAuthorization
