import HuskarlPingora.GuardAuthorization

/-! # Refusals made before validation

Two runs are compared. Their rules, credentials and validators may differ in every
way that leaves the resolution alike; a refusal the validator was not asked about
must then be the same. -/
namespace GuardNoninterference

open HttpModel RouteResolution ResourceRules ResourceErrors ResourceContext ResourceGuard
open GuardAuthorization TracedHooks

variable {C C' : Type}

/-- The same error, or rules that both need the validator and are otherwise unrelated. Only
then it matters whether a public URI exists, for both or for neither. -/
def ResolveAlike (call : GuardCall C) (call' : GuardCall C') : Prop :=
  (∃ reason, Denied call reason ∧ Denied call' reason) ∨
    (∃ rule rule', Resolved call rule ∧ rule.token ≠ .none ∧
      Resolved call' rule' ∧ rule'.token ≠ .none) ∧
    (effectiveRequestUri call.guard call.uri = none ↔
      effectiveRequestUri call'.guard call'.uri = none)

/-- Given no scope, the metadata renders no challenge that carries one. -/
def RendersSilently (metadata : ValidatorMetadata) (carriesScope : String → Prop) : Prop :=
  ∀ err : Rfc6750Error, err.challenge.scope = none →
    ∀ value ∈ metadata.challenges (some err) none none, ¬ carriesScope value

structure Scopeless (metadata : ValidatorMetadata) (d : Denial) : Prop where
  details : d.details.requiredScopes = none
  challenges : ∀ carriesScope, RendersSilently metadata carriesScope →
    ∀ value ∈ d.challenges, ¬ carriesScope value

theorem badRequest_scopeless (metadata : ValidatorMetadata) (msg : String) {d : Denial}
    (h : badRequestWithMetadata (C := C) metadata msg = .deny d) : Scopeless metadata d := by
  unfold badRequestWithMetadata at h
  injection h with h
  subst h
  refine ⟨rfl, fun carriesScope hsilent value hv => ?_⟩
  exact hsilent (invalidRequest msg) rfl value hv

theorem routeDenial_scopeless (metadata : ValidatorMetadata) (reason : ResolveError) {d : Denial}
    {category : CheckOutcome}
    (h : ResourceGuard.routeDenial (C := C) metadata reason = (.deny d, category)) :
    Scopeless metadata d := by
  unfold ResourceGuard.routeDenial at h
  cases hk : reason.kind with
  | invalidInput =>
    simp only [hk, if_true, Prod.mk.injEq, Outcome.deny.injEq] at h
    obtain ⟨rfl, -⟩ := h
    refine ⟨rfl, fun carriesScope hsilent value hv => ?_⟩
    exact hsilent (invalidRequest reason.message) rfl value hv
  | policyDenied =>
    simp only [hk, Prod.mk.injEq, Outcome.deny.injEq] at h
    obtain ⟨rfl, -⟩ := h
    exact ⟨rfl, fun _ _ value hv => absurd hv List.not_mem_nil⟩
  | internal =>
    simp only [hk, Prod.mk.injEq, Outcome.deny.injEq] at h
    obtain ⟨rfl, -⟩ := h
    exact ⟨rfl, fun _ _ value hv => absurd hv List.not_mem_nil⟩

theorem routeDenial_alike (metadata : ValidatorMetadata) (reason : ResolveError) :
    ∃ d category, ResourceGuard.routeDenial (C := C) metadata reason = (.deny d, category) ∧
      ResourceGuard.routeDenial (C := C') metadata reason = (.deny d, category) := by
  unfold ResourceGuard.routeDenial
  cases reason.kind <;> exact ⟨_, _, rfl, rfl⟩

section TwoRuns

variable [HasScopes C] [HasScopes C'] [ResourceServerLib]
variable {call : GuardCall C} {call' : GuardCall C'}

/-- The run of a call that ends in this denial without asking the validator. -/
def RefusesUnasked (call : GuardCall C) (w : World C) (d : Denial) (category : CheckOutcome) :
    Prop :=
  (runCheck call w).exit = .done (.deny d, category) ∧ Unasked (runCheck call w).events

omit [HasScopes C'] in
theorem unasked_spared {w : World C} (hu : Unasked (runCheck call w).events) {rule : Rule C}
    {fullUri : Uri} : ¬ Asks call rule fullUri := by
  intro hask
  rw [runCheck_asks hask] at hu
  exact hu _ _ _ _ (List.mem_singleton.mpr rfl)

/-- A refusal made before validation is the same in both runs and hides every scope. Paths,
methods and mappings matter only through the resolution and the public URI. -/
theorem preauth_refusals_noninterfering (hmetadata : call.metadata = call'.metadata)
    (alike : ResolveAlike call call') {w : World C} (w' : World C') {d : Denial}
    {category : CheckOutcome} (h : RefusesUnasked call w d category) :
    RefusesUnasked call' w' d category ∧ Scopeless call.metadata d := by
  obtain ⟨hexit, hunasked⟩ := h
  rcases alike with ⟨reason, hd, hd'⟩ | ⟨⟨rule, rule', hr, ht, hr', ht'⟩, hreconstructed⟩
  · obtain ⟨e, c, heq, heq'⟩ := @routeDenial_alike C C' call.metadata reason
    have hrun := runCheck_denied hd w
    have hrun' := runCheck_denied hd' w'
    rw [heq] at hrun
    rw [← hmetadata, heq'] at hrun'
    simp only [hrun, Exit.done.injEq, Prod.mk.injEq, Outcome.deny.injEq] at hexit
    obtain ⟨rfl, rfl⟩ := hexit
    refine ⟨⟨by rw [hrun'], ?_⟩, routeDenial_scopeless call.metadata reason heq⟩
    rw [hrun']
    exact fun _ _ _ _ => List.not_mem_nil
  · have hu : effectiveRequestUri call.guard call.uri = none := by
      cases hu : effectiveRequestUri call.guard call.uri with
      | none => rfl
      | some fullUri => exact absurd ⟨hr, ht, hu⟩ (unasked_spared hunasked)
    have hrun := runCheck_unreconstructed hr ht hu w
    have hrun' := runCheck_unreconstructed hr' ht' (hreconstructed.mp hu) w'
    simp only [hrun, Exit.done.injEq, Prod.mk.injEq] at hexit
    obtain ⟨hdeny, rfl⟩ := hexit
    refine ⟨⟨?_, ?_⟩, badRequest_scopeless call.metadata _ hdeny⟩
    · rw [hrun', ← hmetadata]
      unfold badRequestWithMetadata at hdeny ⊢
      injection hdeny with hdeny
      rw [hdeny]
    · rw [hrun']
      exact fun _ _ _ _ => List.not_mem_nil

end TwoRuns

section Prober

def bearerMetadata : ValidatorMetadata where
  challenges error scope _ :=
    [(if error.isSome then "Bearer error=\"invalid_request\"" else "Bearer") ++
      (scope.map (", scope=\"" ++ · ++ "\"")).getD ""]
  unauthenticatedChallenges scope := ["Bearer" ++ (scope.map (" scope=\"" ++ · ++ "\"")).getD ""]
  rejectionFrom _ _ scope :=
    ⟨.unauthorized, ["Bearer" ++ (scope.map (" scope=\"" ++ · ++ "\"")).getD ""], none⟩

def probe (rule : Rule Rfc9068AccessTokenClaims) (headers : HeaderMap) (cert : Option Bytes) :
    GuardCall Rfc9068AccessTokenClaims where
  guard :=
    { validator := fun _ _ _ _ => ⟨.ok none, none⟩
      metadata := bearerMetadata
      policy := ⟨⟨fun _ _ => .ok rule⟩, [], none⟩
      requestMapping := some
        ⟨fun uri => if "/proxy/".toList <+: uri.path.toList then some uri else none,
          fun _ => none⟩ }
  headers := headers
  method := .get
  uri := ⟨none, none, some ⟨"/other/users", none⟩⟩
  clientCertDer := cert
  metadata := bearerMetadata
  resourceAudiences := none

def scopedRule : Rule Rfc9068AccessTokenClaims :=
  ⟨.required, ["api"], ["admin"], some "admin", none, true, .any⟩

def openRule : Rule Rfc9068AccessTokenClaims := ⟨.optional, [], [], none, none, false, .any⟩

def probeWorld : World Rfc9068AccessTokenClaims where
  session := ⟨⟨.get, ⟨none, none, some ⟨"/other/users", none⟩⟩, []⟩, none, none, .ready (.ok ()),
    .ready (.ok ())⟩
  auth := ⟨none, none, true⟩
  upstream := ⟨.get, ⟨none, none, none⟩, []⟩
  response := .build .ok

def unmappedDenial : Denial where
  details := ⟨some .invalidRequest, some "Invalid request URI", none⟩
  status := .badRequest
  challenges := ["Bearer error=\"invalid_request\""]
  dpopNonce := none
  retryAfter := none

local instance : ResourceServerLib := ⟨none, .client .insufficientScope "insufficient scope"⟩

def stolenProbe : GuardCall Rfc9068AccessTokenClaims :=
  probe openRule [(authorizationName, ⟨"Bearer x"⟩)] (some [1])

/-- Only the absolute form of the path has a public URI. -/
def confused (scheme authority : Option String) : GuardCall Rfc9068AccessTokenClaims :=
  { probe openRule [] none with
    guard := { (probe openRule [] none).guard with
      policy := ⟨⟨fun _ _ => .error ⟨.invalidInput, "Invalid request path", "encoded separator"⟩⟩,
        [], none⟩
      requestMapping := some ⟨fun uri => uri.scheme.map fun _ => uri, fun _ => none⟩ }
    uri := ⟨scheme, authority, some ⟨"/a%2fb", none⟩⟩ }

def confusedDenial : Denial where
  details := ⟨some .invalidRequest, some "Invalid request path", none⟩
  status := .badRequest
  challenges := ["Bearer error=\"invalid_request\""]
  dpopNonce := none
  retryAfter := none

theorem preauth_refusals_noninterfering_unmapped :
    (RefusesUnasked stolenProbe probeWorld unmappedDenial .invalidRequest ∧
      Scopeless bearerMetadata unmappedDenial) ∧
    RefusesUnasked (confused (some "https") (some "api.example.com")) probeWorld confusedDenial
      .pathConfusion ∧ Scopeless bearerMetadata confusedDenial := by
  have hmetadata : (probe scopedRule [] none).metadata = stolenProbe.metadata := rfl
  have hscoped : RefusesUnasked (probe scopedRule [] none) probeWorld unmappedDenial
      .invalidRequest := ⟨rfl, fun _ _ _ _ => List.not_mem_nil⟩
  have halike : ResolveAlike (probe scopedRule [] none) stolenProbe :=
    .inr ⟨⟨scopedRule, openRule, rfl, by decide, rfl, by decide⟩, iff_of_true rfl rfl⟩
  have hconfused : RefusesUnasked (confused none none) probeWorld confusedDenial
      .pathConfusion := ⟨rfl, fun _ _ _ _ => List.not_mem_nil⟩
  have hdenied : ResolveAlike (confused none none)
      (confused (some "https") (some "api.example.com")) := .inl ⟨_, rfl, rfl⟩
  exact ⟨preauth_refusals_noninterfering hmetadata halike probeWorld hscoped,
    preauth_refusals_noninterfering (Eq.refl bearerMetadata) hdenied probeWorld hconfused⟩

end Prober

end GuardNoninterference
