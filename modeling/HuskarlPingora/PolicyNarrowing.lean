import HuskarlPingora.AssembledServer
import HuskarlPingora.PolicyConstruction

/-! # Stricter policies and narrower bindings

Two adapters face the same request. One has the stricter rules, behind a binding that is
at least as narrow: what it lets in, the other lets in too, with the same credentials. -/
namespace PolicyNarrowing

open HttpModel RouteResolution ResourceRules ResourceErrors ResourceContext ResourceGuard
open ResourceProxy ResourceEffects ResourceBoundary GuardAuthorization MetadataPublisher
open ResourceBinding ResourcePolicies PolicyConstruction CredentialStripping AssembledServer
open TracedHooks

variable {C : Type}

def BoundTo (binding : Option (List String)) (v : ValidatedRequest C) : Prop :=
  ∀ audiences, binding = some audiences → Shares audiences v.aud

/-- How much a rule demands before it looks at a token. -/
def demand : TokenRequirement → ℕ
  | .none => 0
  | .optional => 1
  | .required => 2

section Admission

variable [HasScopes C]

structure Satisfies (rule : Rule C) (v : ValidatedRequest C) : Prop where
  audience : RuleAudience rule v
  scopes : AllScopes rule v
  check : CheckPasses rule v

/-- The answers of the validator that a rule lets in. A public rule waits for none. -/
inductive Admits (binding : Option (List String)) (rule : Rule C) :
    Except ValidatorError (Option (ValidatedRequest C)) → Prop where
  | pub (outcome) : rule.token = .none → Admits binding rule outcome
  | anonymous : rule.token = .optional → Admits binding rule (.ok none)
  | bearer {v} : BoundTo binding v → Satisfies rule v → Admits binding rule (.ok (some v))

/-- A request is forwarded exactly if its rule is public or admits the validator's answer. -/
theorem permitted_iff {call : GuardCall C} {rule : Rule C} (hr : Resolved call rule) :
    (∃ token strip, Permitted call token strip) ↔ rule.token = .none ∨ ∃ fullUri,
      effectiveRequestUri call.guard call.uri = some fullUri ∧
        Admits call.resourceAudiences rule (answer call fullUri).outcome := by
  have hrule : ∀ {rule'}, Resolved call rule' → rule' = rule := by
    intro rule' hr'
    simpa using hr'.symm.trans hr
  constructor
  · rintro ⟨token, strip, hp⟩
    cases hp with
    | pub hr' ht => exact .inl (hrule hr' ▸ ht)
    | anonymous hask hout ht =>
      obtain rfl := hrule hask.resolved
      exact .inr ⟨_, hask.reconstructed, hout ▸ .anonymous ht⟩
    | authenticated hask hout hb ha hs hc =>
      obtain rfl := hrule hask.resolved
      exact .inr ⟨_, hask.reconstructed, hout ▸ .bearer hb ⟨ha, hs, hc⟩⟩
  · intro h
    by_cases ht : rule.token = .none
    · exact ⟨none, _, .pub hr ht⟩
    obtain ⟨fullUri, huri, hadmits⟩ := h.resolve_left ht
    have hask : Asks call rule fullUri := ⟨hr, ht, huri⟩
    generalize hout : (answer call fullUri).outcome = outcome at hadmits
    cases hadmits with
    | pub _ hnone => exact absurd hnone ht
    | anonymous hoptional => exact ⟨none, _, .anonymous hask hout hoptional⟩
    | bearer hb hs => exact ⟨_, _, .authenticated hask hout hb hs.audience hs.scopes hs.check⟩

end Admission

/-- More is demanded. A longer list of audiences would demand less, unless it is the first. -/
structure Stricter (rule wider : Rule C) : Prop where
  token : demand wider.token ≤ demand rule.token
  audiences : wider.audiences = [] ∨ rule.audiences ≠ [] ∧ rule.audiences ⊆ wider.audiences
  scopes : wider.scopes ⊆ rule.scopes
  check : ∀ f, wider.check = some f → ∃ g, rule.check = some g ∧ ∀ v, g v = .ok () → f v = .ok ()

theorem Stricter.refl (rule : Rule C) : Stricter rule rule where
  token := le_rfl
  audiences := by
    by_cases h : rule.audiences = []
    · exact .inl h
    · exact .inr ⟨h, List.Subset.refl _⟩
  scopes := List.Subset.refl _
  check f hf := ⟨f, hf, fun _ h => h⟩

theorem shares_mono {names names' aud : List String} (h : names ⊆ names') (hs : Shares names aud) :
    Shares names' aud := by
  obtain ⟨a, ha, hmem⟩ := hs
  exact ⟨a, h ha, hmem⟩

/-- A binding is narrower if it names fewer audiences, and none is the widest. -/
def NarrowerBinding (binding wider : Option (List String)) : Prop :=
  ∀ names, wider = some names → ∃ names', binding = some names' ∧ names' ⊆ names

theorem boundTo_mono {binding wider : Option (List String)} (h : NarrowerBinding binding wider)
    {v : ValidatedRequest C} (hb : BoundTo binding v) : BoundTo wider v := by
  intro names hnames
  obtain ⟨names', hnames', hsub⟩ := h names hnames
  exact shares_mono hsub (hb names' hnames')

section Admission

variable [HasScopes C]

theorem satisfies_mono {rule wider : Rule C} (h : Stricter rule wider) {v : ValidatedRequest C}
    (hs : Satisfies rule v) : Satisfies wider v where
  audience := by
    rcases h.audiences with hnil | ⟨hne, hsub⟩
    · exact .inl hnil
    · exact .inr (shares_mono hsub (hs.audience.resolve_left hne))
  scopes := fun scope hscope => hs.scopes scope (h.scopes hscope)
  check := by
    intro f hf
    obtain ⟨g, hg, himp⟩ := h.check f hf
    exact himp v (hs.check g hg)

omit [HasScopes C] in
theorem Stricter.public {rule wider : Rule C} (h : Stricter rule wider)
    (ht : rule.token = .none) : wider.token = .none := by
  have hdemand := h.token
  rw [ht] at hdemand
  cases hw : wider.token with
  | none => rfl
  | optional | required =>
    rw [hw] at hdemand
    exact absurd hdemand (by decide)

theorem admits_mono {binding binding' : Option (List String)}
    (hb : NarrowerBinding binding binding') {rule wider : Rule C} (h : Stricter rule wider)
    {outcome : Except ValidatorError (Option (ValidatedRequest C))}
    (ha : Admits binding rule outcome) : Admits binding' wider outcome := by
  cases ha with
  | pub _ ht => exact .pub _ (h.public ht)
  | anonymous ht =>
    have hdemand := h.token
    rw [ht] at hdemand
    cases hw : wider.token with
    | none => exact .pub _ hw
    | optional => exact .anonymous hw
    | required =>
      rw [hw] at hdemand
      exact absurd hdemand (by decide)
  | bearer hbound hs => exact .bearer (boundTo_mono hb hbound) (satisfies_mono h hs)

end Admission

section Policies

variable [RegistrationCrate]

/-- A route is registered for the same paths and methods, under a stricter rule. -/
structure StricterRoute (call wider : RouteCall (RuleChain C)) : Prop where
  kind : call.kind = wider.kind
  pattern : call.pattern = wider.pattern
  method : call.rule.rule.method = wider.rule.rule.method
  rule : Stricter call.rule.rule wider.rule.rule

structure StricterPolicy (source wider : PolicySource C) : Prop where
  calls : List.Forall₂ StricterRoute source.calls wider.calls
  default : Stricter source.default.rule wider.default.rule
  pathGuard : source.pathGuard = wider.pathGuard

/-- One registration as the builder makes it: its kind, pattern, methods and rule. -/
abbrev Entry (R : Type) := RouteKind × String × MethodMatch × R

def registrations {R : Type} (entries : List (Entry R)) :
    List (RegistrationCrate.Registration R) :=
  entries.map fun entry => entry.1.registration entry.2.1 entry.2.2.1 entry.2.2.2

structure SameEntry {R R' : Type} (related : R → R' → Prop) (entry : Entry R) (entry' : Entry R') :
    Prop where
  kind : entry.1 = entry'.1
  pattern : entry.2.1 = entry'.2.1
  method : entry.2.2.1 = entry'.2.2.1
  rule : related entry.2.2.2 entry'.2.2.2

/-- The route guard stores rules without looking at them. Routers of the same entries
answer a request with the rules of one entry. -/
def ResolvesUniformly : Prop :=
  ∀ {R R' : Type} (related : R → R' → Prop) (fallback : R) (fallback' : R')
    (pathGuard : RegistrationCrate.GuardConfig) (entries : List (Entry R))
    (entries' : List (Entry R')) (router : RuleRouter R) (router' : RuleRouter R'),
    related fallback fallback' → List.Forall₂ (SameEntry related) entries entries' →
    RegistrationCrate.fromRegistrations fallback pathGuard (registrations entries) = .ok router →
    RegistrationCrate.fromRegistrations fallback' pathGuard (registrations entries') =
      .ok router' →
    ∀ path method rule, router.resolve path method = .ok rule →
      ∃ rule', router'.resolve path method = .ok rule' ∧ related rule rule'

def entriesOf (source : PolicySource C) : List (Entry (Rule C)) :=
  source.calls.map fun call => (call.kind, call.pattern, call.rule.rule.method, call.rule.rule)

theorem policy_router {source : PolicySource C} {policy : ResourcePolicy C}
    (h : source.builder.build = .ok policy) : RegistrationCrate.fromRegistrations
      source.default.rule source.pathGuard (registrations (entriesOf source)) =
        .ok policy.routes := by
  have hguard : source.builder.pathGuard = source.pathGuard := by
    apply BuilderChains.foldl_unchanged ResourcePolicyBuilder.pathGuard
    rintro builder ⟨kind, pattern, chain⟩
    cases kind <;> rfl
  have hrouter := (build_steps h).router
  rw [builder_default, builder_routes, hguard, List.map_map] at hrouter
  rw [registrations, entriesOf, List.map_map]
  exact hrouter

theorem stricter_entries {source wider : PolicySource C} (h : StricterPolicy source wider) :
    List.Forall₂ (SameEntry Stricter) (entriesOf source) (entriesOf wider) := by
  refine List.forall₂_map_left_iff.mpr (List.forall₂_map_right_iff.mpr (h.calls.imp ?_))
  exact fun call call' hcall => ⟨hcall.kind, hcall.pattern, hcall.method, hcall.rule⟩

theorem resolves_stricter (uniform : ResolvesUniformly) {source wider : PolicySource C}
    (h : StricterPolicy source wider) {policy policy' : ResourcePolicy C}
    (hb : source.builder.build = .ok policy) (hb' : wider.builder.build = .ok policy')
    {path : String} {method : Method} {rule : Rule C}
    (hr : policy.routes.resolve path method = .ok rule) :
    ∃ rule', policy'.routes.resolve path method = .ok rule' ∧ Stricter rule rule' := by
  have hrouter := policy_router hb
  rw [h.pathGuard] at hrouter
  exact uniform Stricter _ _ _ _ _ _ _ h.default (stricter_entries h) hrouter (policy_router hb')
    path method rule hr

end Policies

def covers : Adapter C → String → Prop
  | .plain _, _ => True
  | .bound proxy, path => resourcePathMatches proxy.resourcePath path = true

structure BoundWithin (adapter wider : Adapter C) : Prop where
  validator : adapter.auth.guard.validator = wider.auth.guard.validator
  mapping : adapter.auth.guard.requestMapping = wider.auth.guard.requestMapping
  audiences : NarrowerBinding adapter.audiences wider.audiences
  boundary : ∀ path, covers adapter path → covers wider path

theorem bound_within {proxy : ProtectedResourceProxy C} {auth : AuthProxy C}
    (hv : proxy.auth.guard.validator = auth.guard.validator)
    (hm : proxy.auth.guard.requestMapping = auth.guard.requestMapping) :
    BoundWithin (.bound proxy) (.plain auth) where
  validator := hv
  mapping := hm
  audiences := by
    intro names hnames
    cases hnames
  boundary := fun _ _ => trivial

def AtGuard (adapter : Adapter C) (w : World C) : Prop :=
  match adapter with
  | .plain _ => True
  | .bound proxy => ∃ uri, Inside proxy w uri

theorem atGuard_within {adapter wider : Adapter C} (h : BoundWithin adapter wider) {w : World C}
    (ha : AtGuard adapter w) : AtGuard wider w := by
  cases wider with
  | plain proxy => trivial
  | bound proxy' =>
    obtain ⟨names, hnames, -⟩ := h.audiences _ rfl
    cases adapter with
    | plain proxy => cases hnames
    | bound proxy =>
      obtain ⟨uri, hi⟩ := ha
      refine ⟨uri, ?_, h.boundary _ hi.covered⟩
      have hmapping : proxy.auth.guard.requestMapping = proxy'.auth.guard.requestMapping :=
        h.mapping
      have hpublic := hi.reconstructed
      rwa [publicUri, effectiveRequestUri, hmapping] at hpublic

section Requests

variable [HttpCrate] [HasScopes C] [ResourceServerLib]
variable {adapter wider : Adapter C} {w : World C}

theorem run_atGuard (h : AtGuard adapter w) : (adapter.requestFilter).run w =
    (authorize adapter.auth adapter.audiences).run w := by
  cases adapter with
  | plain proxy => rfl
  | bound proxy =>
    obtain ⟨uri, hi⟩ := h
    exact run_inside hi

theorem atGuard_of_entered {seen : AuthState C}
    (h : seen ∈ enteredBy ((adapter.requestFilter).run w).events) : AtGuard adapter w := by
  cases adapter with
  | plain proxy => trivial
  | bound proxy => exact inside_of_entered h

theorem entered_of_permitted (h : AtGuard adapter w) {token : Option (ValidatedRequest C)}
    {strip : Bool} (hp : Permitted (adapter.call w) token strip) : ∃ nonce events,
      enteredBy ((adapter.requestFilter).run w).events = [⟨token, nonce, strip⟩] ∧
        Asked (adapter.call w) events nonce := by
  obtain ⟨nonce, events, hrun, hasked⟩ := permitted_run hp w
  refine ⟨nonce, events, ?_, hasked⟩
  rw [run_atGuard h, run_authorize_forward hrun, after_events, enteredBy_append,
    enteredBy_decision hasked, (run_innerRequestFilter adapter.auth _).1]
  rfl

/-- The wider rule and what the inner proxy then sees. A public rule shows it no token. -/
structure AlsoEntered (wider : Adapter C) (w : World C) (seen : AuthState C) (rule : Rule C)
    (seen' : AuthState C) : Prop where
  resolved : Resolved (wider.call w) rule
  entered : enteredBy ((wider.requestFilter).run w).events = [seen']
  strip : seen'.stripCredentials = rule.stripCredentials
  authenticated : rule.token ≠ .none →
    seen'.validatedToken = seen.validatedToken ∧ seen'.dpopNonce = seen.dpopNonce
  pub : rule.token = .none → seen'.validatedToken = none ∧ seen'.dpopNonce = none

structure Narrowed (adapter wider : Adapter C) (w : World C) : Prop where
  entered : ∀ seen ∈ enteredBy ((adapter.requestFilter).run w).events,
    ∃ rule seen', AlsoEntered wider w seen rule seen'

theorem also_public (h : AtGuard wider w) {rule : Rule C} (hr : Resolved (wider.call w) rule)
    (ht : rule.token = .none) (seen : AuthState C) :
    ∃ rule seen', AlsoEntered wider w seen rule seen' := by
  obtain ⟨nonce, events, hentered, hasked⟩ := entered_of_permitted h (.pub hr ht)
  have hspared : ∀ rule' fullUri, ¬ Asks (wider.call w) rule' fullUri := by
    intro rule' fullUri hask
    obtain rfl : rule = rule' := by simpa using hr.symm.trans hask.resolved
    exact hask.needed ht
  obtain ⟨-, rfl⟩ := hasked.spared hspared
  exact ⟨rule, _, hr, hentered, rfl, fun hne => absurd ht hne, fun _ => ⟨rfl, rfl⟩⟩

omit [HttpCrate] [HasScopes C] [ResourceServerLib] in
theorem asks_wider (hw : BoundWithin adapter wider) {rule rule' : Rule C} {fullUri : Uri}
    (h : Asks (adapter.call w) rule fullUri) (hr : Resolved (wider.call w) rule')
    (ht : rule'.token ≠ .none) : Asks (wider.call w) rule' fullUri ∧
      answer (wider.call w) fullUri = answer (adapter.call w) fullUri := by
  refine ⟨⟨hr, ht, ?_⟩, ?_⟩
  · have huri := h.reconstructed
    simp only [effectiveRequestUri, Adapter.call, proxyCall, hw.mapping] at huri ⊢
    exact huri
  · simp only [answer, Adapter.call, proxyCall, hw.validator]

theorem also_asked (hw : BoundWithin adapter wider) (h : AtGuard wider w)
    {token : Option (ValidatedRequest C)} {nonce : Option String} {strip : Bool}
    {events : List (Event C)} (hp : Permitted (adapter.call w) token strip)
    (hasked : Asked (adapter.call w) events nonce) {rule rule' : Rule C}
    (hr : Resolved (adapter.call w) rule) (hr' : Resolved (wider.call w) rule')
    (hstrict : Stricter rule rule') (ht' : rule'.token ≠ .none) :
    ∃ rule seen', AlsoEntered wider w ⟨token, nonce, strip⟩ rule seen' := by
  have ht : rule.token ≠ .none := fun ht => ht' (hstrict.public ht)
  obtain ⟨fullUri, huri, hadmits⟩ := ((permitted_iff hr).mp ⟨_, _, hp⟩).resolve_left ht
  have hask : Asks (adapter.call w) rule fullUri := ⟨hr, ht, huri⟩
  obtain ⟨hask', hanswer⟩ := asks_wider hw hask hr' ht'
  have hadmits' : Admits (wider.call w).resourceAudiences rule'
      (answer (wider.call w) fullUri).outcome := by
    rw [hanswer]
    exact admits_mono hw.audiences hstrict hadmits
  obtain ⟨token', strip', hp'⟩ := (permitted_iff hr').mpr (.inr ⟨_, hask'.reconstructed, hadmits'⟩)
  obtain ⟨nonce', events', hentered, hasked'⟩ := entered_of_permitted h hp'
  obtain ⟨rule'', hr'', hstrip, hproduced'⟩ := permitted_rule hp'
  obtain rfl : rule' = rule'' := by simpa using hr'.symm.trans hr''
  obtain ⟨-, -, -, hproduced⟩ := permitted_rule hp
  refine ⟨rule', _, hr', hentered, hstrip, fun _ => ⟨?_, ?_⟩, fun hnone => absurd hnone ht'⟩
  · have houtcome := hproduced'.asked _ _ hask'
    rw [hanswer, hproduced.asked _ _ hask] at houtcome
    exact (Except.ok.inj houtcome).symm
  · rw [(hasked'.asked _ _ hask').2, (hasked.asked _ _ hask).2, hanswer]

/-- A stricter policy and a narrower binding let no request in that the wider ones keep
out, and show the inner proxy the same credentials. -/
theorem tightening_never_opens [RegistrationCrate] (uniform : ResolvesUniformly)
    {source source' : PolicySource C} (h : StricterPolicy source source')
    (hw : BoundWithin adapter wider)
    (hb : source.builder.build = .ok adapter.auth.guard.policy)
    (hb' : source'.builder.build = .ok wider.auth.guard.policy) (w : World C) :
    Narrowed adapter wider w := by
  refine ⟨fun seen hseen => ?_⟩
  have hguard := atGuard_within hw (atGuard_of_entered hseen)
  obtain ⟨-, category, events, hrun, hp⟩ := entered_decision adapter hseen
  obtain ⟨nonce, events', hrun', hasked⟩ := permitted_run hp w
  rw [hrun] at hrun'
  simp only [Ran.mk.injEq, Exit.done.injEq, Prod.mk.injEq, Outcome.forward.injEq] at hrun'
  obtain ⟨⟨⟨-, rfl, -⟩, -⟩, -⟩ := hrun'
  obtain ⟨rule, hr, -, -⟩ := permitted_rule hp
  obtain ⟨rule', hresolved, hstrict⟩ := resolves_stricter uniform h hb hb' hr
  have hr' : Resolved (wider.call w) rule' := hresolved
  by_cases ht' : rule'.token = .none
  · exact also_public hguard hr' ht' seen
  · exact also_asked hw hguard hp hasked hr hr' hstrict ht'

end Requests

section Gateway

open BoundaryAgreement (gatewayRequest)

local instance : RegistrationCrate := listedCrate
local instance : ResourceServerLib := ⟨none, .client .insufficientScope "insufficient scope"⟩
local instance : HttpCrate := gatewayCrate

theorem find_related {α β : Type} {related : α → β → Prop} {p : α → Bool} {q : β → Bool}
    (hpq : ∀ a b, related a b → p a = q b) {xs : List α} {ys : List β}
    (h : List.Forall₂ related xs ys) : Option.Rel related (xs.find? p) (ys.find? q) := by
  induction h with
  | nil => exact .none
  | @cons a b xs ys hab _ ih =>
    rw [List.find?_cons, List.find?_cons, hpq a b hab]
    cases q b with
    | true => exact .some hab
    | false => exact ih

theorem listed_uniform : ResolvesUniformly := by
  intro R R' related fallback fallback' pathGuard entries entries' router router' hfallback
    hentries h h' path method rule hresolve
  cases h
  cases h'
  have hregistered : List.Forall₂ (fun (r : (String × Bool) × MethodMatch × R)
      (r' : (String × Bool) × MethodMatch × R') => r.1 = r'.1 ∧ r.2.1 = r'.2.1 ∧
        related r.2.2 r'.2.2) (registrations entries) (registrations entries') := by
    refine List.forall₂_map_left_iff.mpr (List.forall₂_map_right_iff.mpr (hentries.imp ?_))
    rintro ⟨kind, pattern, matched, rule⟩ ⟨kind', pattern', matched', rule'⟩ ⟨rfl, rfl, rfl, hr⟩
    cases kind <;> cases matched <;> exact ⟨rfl, rfl, hr⟩
  have hfound := find_related (p := fun r => decide (r.1.1 = path) ||
      r.1.2 && (r.1.1.toList ++ ['/']).isPrefixOf path.toList)
    (q := fun r => decide (r.1.1 = path) ||
      r.1.2 && (r.1.1.toList ++ ['/']).isPrefixOf path.toList)
    (fun r r' hr => by rw [hr.1]) hregistered
  revert hresolve
  simp only
  generalize List.find? _ (registrations entries) = found at hfound ⊢
  generalize List.find? _ (registrations entries') = found' at hfound ⊢
  cases hfound with
  | none =>
    intro hresolve
    cases hresolve
    exact ⟨_, rfl, hfallback⟩
  | @some r r' hr =>
    obtain ⟨-, hmethods, hrule⟩ := hr
    simp only [hmethods]
    cases r'.2.1 with
    | any =>
      intro hresolve
      cases hresolve
      exact ⟨_, rfl, hrule⟩
    | oneOf methods =>
      simp only
      split
      · intro hresolve
        cases hresolve
        exact ⟨_, rfl, hrule⟩
      · intro hresolve
        cases hresolve

def readSource : PolicySource Rfc9068AccessTokenClaims where
  calls := [⟨.exact, "/health", ⟨.none, [.method .get]⟩⟩,
    ⟨.subtree, "/edge/app", ⟨.optional, [.scopes ["read"]]⟩⟩]
  default := ⟨.required, []⟩
  pathGuard := ()
  metricsName := none

def partnerSource : PolicySource Rfc9068AccessTokenClaims :=
  { readSource with calls := [⟨.exact, "/health", ⟨.none, [.method .get]⟩⟩,
      ⟨.subtree, "/edge/app",
        ⟨.required, [.scopes ["read"], .audience "partners", .scopes ["list"]]⟩⟩] }

theorem partner_stricter : StricterPolicy partnerSource readSource where
  calls := by
    refine .cons ⟨rfl, rfl, rfl, .refl _⟩ (.cons ⟨rfl, rfl, rfl, ?_⟩ .nil)
    exact ⟨by decide, .inl rfl, by decide, fun f hf => by cases hf⟩
  default := .refl _
  pathGuard := rfl

def partnerGuard (policy : ResourcePolicy Rfc9068AccessTokenClaims) :
    Guard Rfc9068AccessTokenClaims :=
  { BoundaryAgreement.gatewayGuard with
    validator := fun _ _ _ _ => ⟨.ok (some
      ⟨["https://api.example.com/gateway/app", "partners"], ⟨some "list read"⟩⟩), none⟩
    policy := policy }

def partnerAuth (policy : ResourcePolicy Rfc9068AccessTokenClaims) :
    AuthProxy Rfc9068AccessTokenClaims := ⟨.idle, partnerGuard policy, fun _ => ⟨[], none⟩⟩

def partnerProxy (policy : ResourcePolicy Rfc9068AccessTokenClaims) :
    ProtectedResourceProxy Rfc9068AccessTokenClaims :=
  { issuedBound.proxy with auth := partnerAuth policy }

theorem tightening_never_opens_gateway : ∃ policy policy',
    partnerSource.builder.build = .ok policy ∧ readSource.builder.build = .ok policy' ∧
      (enteredBy ((Adapter.bound (partnerProxy policy)).requestFilter.run
        gatewayRequest).events).length = 1 ∧
      Narrowed (.bound (partnerProxy policy)) (.plain (partnerAuth policy')) gatewayRequest := by
  obtain ⟨policy, hb, hentered⟩ : ∃ policy, partnerSource.builder.build = .ok policy ∧
      (enteredBy ((Adapter.bound (partnerProxy policy)).requestFilter.run
        gatewayRequest).events).length = 1 := ⟨_, rfl, rfl⟩
  obtain ⟨policy', hb'⟩ : ∃ policy', readSource.builder.build = .ok policy' := ⟨_, rfl⟩
  have hwithin : BoundWithin (.bound (partnerProxy policy)) (.plain (partnerAuth policy')) :=
    bound_within rfl rfl
  exact ⟨policy, policy', hb, hb', hentered, tightening_never_opens listed_uniform partner_stricter
    hwithin hb hb' gatewayRequest⟩

end Gateway

end PolicyNarrowing
