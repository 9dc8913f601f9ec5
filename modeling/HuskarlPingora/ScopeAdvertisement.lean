import HuskarlPingora.SeparatedWords
import HuskarlPingora.ResourcePolicies
import HuskarlPingora.RendererNoninterference

/-! # The advertised scope

A rule compares a token with the scopes it was given, and advertises their join. Readers
of the join split it at whitespace, so both agree exactly on scopes that are words. -/
namespace ScopeAdvertisement

open HttpModel RouteResolution ResourceRules ResourceErrors ResourceContext ResourceGuard
open ResourceResponse ResourceProxy ResourceEffects ResourcePolicies GuardAuthorization
open RendererNoninterference TracedHooks SeparatedWords

structure ScopeToken (s : String) : Prop where
  nonempty : s ≠ ""
  unbroken : ∀ c ∈ s.toList, isWhitespace c = false

theorem scopeToken_iff (s : String) : ScopeToken s ↔ IsWord isWhitespace s.toList := by
  constructor
  · intro h
    exact ⟨by simpa using h.nonempty, h.unbroken⟩
  · intro h
    exact ⟨by simpa using h.nonempty, h.unseparated⟩

theorem splitWhitespace_eq (s : String) :
    splitWhitespace s = (words isWhitespace s.toList).map String.ofList := rfl

/-- Scopes survive the join exactly when each of them is a token. -/
theorem splitWhitespace_join (scopes : List String) :
    splitWhitespace (" ".intercalate scopes) = scopes ↔ ∀ s ∈ scopes, ScopeToken s := by
  have hspace : isWhitespace ' ' = true := by decide
  have hjoin : (" ".intercalate scopes).toList = [' '].intercalate (scopes.map String.toList) := by
    rw [String.toList_intercalate]
    rfl
  have hlists : splitWhitespace (" ".intercalate scopes) = scopes ↔
      words isWhitespace ([' '].intercalate (scopes.map String.toList)) =
        scopes.map String.toList := by
    rw [splitWhitespace_eq, hjoin]
    constructor
    · intro h
      have hmap := congrArg (List.map String.toList) h
      simpa using hmap
    · intro h
      rw [h]
      simp
  rw [hlists, words_intercalate_eq_iff hspace]
  simp [scopeToken_iff]

variable {C : Type}

/-- A token that has exactly the advertised scope has every scope the rule requires. -/
def Sufficient (rule : Rule Rfc9068AccessTokenClaims) : Prop :=
  ∀ v : ValidatedRequest Rfc9068AccessTokenClaims, v.claims.scope = rule.scopeParam →
    AllScopes rule v

/-- The scope error of the resource-server crate blames the client and names no scope. -/
structure PlainScopeError [ResourceServerLib] : Prop where
  client : ∃ code, ResourceServerLib.insufficientScope.challenge.error = .client code
  scopeless : ResourceServerLib.insufficientScope.challenge.scope = none

section Refusals

variable [HasScopes C] [ResourceServerLib]

/-- The scope check is the one that refuses this token. -/
def RefusedForScope (call : GuardCall C) (rule : Rule C) : Prop :=
  ∃ fullUri v, Asks call rule fullUri ∧ (answer call fullUri).outcome = .ok (some v) ∧
    BoundAudience call v ∧ RuleAudience rule v ∧ ¬ AllScopes rule v

variable [HttpCrate]

/-- A renderer that is asked to explain a refusal for scope is told the rule's scopes. -/
def Faithful (rule : Rule C) : Prop :=
  ∀ (proxy : AuthProxy C) audiences w,
    RefusedForScope (proxyCall proxy.guard w.session audiences) rule →
    ∃ details, renderedBy ((authorize proxy audiences).run w).events = [details] ∧
      details.requiredScopes = some rule.scopes

theorem rendered_scopes (hplain : PlainScopeError) {proxy : AuthProxy C}
    {audiences : Option (List String)} {w : World C} {rule : Rule C}
    (h : RefusedForScope (proxyCall proxy.guard w.session audiences) rule) :
    ∃ details, renderedBy ((authorize proxy audiences).run w).events = [details] ∧
      details.requiredScopes = rule.scopeParam.map splitWhitespace := by
  obtain ⟨fullUri, v, hask, hout, hb, ha, hs⟩ := h
  obtain ⟨code, hclient⟩ := hplain.client
  have hrun := runCheck_asks hask w
  generalize hcall : proxyCall proxy.guard w.session audiences = call at hask hout hb hrun
  have hdenied := runCheckRule_scope (answer call fullUri).dpopNonce hb ha hs
  simp only [runCheckRule] at hdenied
  simp only [decideValidated, hout, hdenied, denyError] at hrun
  subst hcall
  refine ⟨_, (authorize_renders hrun).rendered, ?_⟩
  simp [denialDetails, FailureDetails.fromChallenge, hclient, hplain.scopeless]

variable [RegistrationCrate]

omit [ResourceServerLib] [HttpCrate] [RegistrationCrate] in
theorem required_of_refused {rule : Rule C} {v : ValidatedRequest C} (h : ¬ AllScopes rule v) :
    rule.scopes ≠ [] := by
  intro hnone
  refine h fun s hs => ?_
  rw [hnone] at hs
  cases hs

omit [HasScopes C] [ResourceServerLib] [HttpCrate] [RegistrationCrate] in
theorem advertised {rule : Rule C} (hbuilt : Built rule) (hne : rule.scopes ≠ []) :
    rule.scopeParam = some (" ".intercalate rule.scopes) := by
  have hempty : rule.scopes.isEmpty = false := by simpa using hne
  rw [built_scopeParam hbuilt, hempty]
  rfl

def refusingProxy (rule : Rule C) (v : ValidatedRequest C) : AuthProxy C where
  inner := .idle
  guard :=
    { validator := fun _ _ _ _ => ⟨.ok (some v), none⟩
      metadata := ⟨fun _ _ _ => [], fun _ => [], fun _ _ _ => ⟨.forbidden, [], none⟩⟩
      policy := ⟨⟨fun _ _ => .ok rule⟩, rule.scopes, none⟩
      requestMapping := none }
  errorBody := fun _ => ⟨[], none⟩

theorem faithful_iff (hplain : PlainScopeError) {rule : Rule C} (hbuilt : Built rule)
    (haccepted : Accepted rule) :
    Faithful rule ↔ ((∃ v, RuleAudience rule v ∧ ¬ AllScopes rule v) →
      ∀ s ∈ rule.scopes, ScopeToken s) := by
  constructor
  · rintro hfaithful ⟨v, ha, hs⟩
    have hne := required_of_refused hs
    have htoken : rule.token ≠ .none := fun ht => hne (accepted_public haccepted ht)
    let w : World C :=
      { session := ⟨⟨.get, ⟨none, none, none⟩, []⟩, none, none, .ready (.ok ()), .ready (.ok ())⟩
        auth := ⟨none, none, true⟩
        upstream := ⟨.get, ⟨none, none, none⟩, []⟩
        response := .build .ok }
    have hbound : BoundAudience (proxyCall (refusingProxy rule v).guard w.session none) v := by
      intro audiences h
      cases h
    have hrefused : RefusedForScope (proxyCall (refusingProxy rule v).guard w.session none) rule :=
      ⟨_, v, ⟨rfl, htoken, rfl⟩, rfl, hbound, ha, hs⟩
    obtain ⟨details, hrendered, hscopes⟩ := hfaithful (refusingProxy rule v) none w hrefused
    obtain ⟨details', hrendered', hscopes'⟩ := rendered_scopes hplain hrefused
    obtain rfl : details = details' := by simpa using hrendered.symm.trans hrendered'
    rw [hscopes, advertised hbuilt hne] at hscopes'
    exact (splitWhitespace_join rule.scopes).mp (Option.some.inj hscopes').symm
  · intro htokens proxy audiences w hrefused
    have hrefused' := hrefused
    obtain ⟨-, v, -, -, -, ha, hs⟩ := hrefused'
    obtain ⟨details, hrendered, hscopes⟩ := rendered_scopes hplain hrefused
    refine ⟨details, hrendered, ?_⟩
    rw [hscopes, advertised hbuilt (required_of_refused hs), Option.map_some,
      (splitWhitespace_join rule.scopes).mpr (htokens ⟨v, ha, hs⟩)]

end Refusals

theorem granted_token {claims : Rfc9068AccessTokenClaims} {s : String}
    (h : HasScopes.hasScope claims s = true) : ScopeToken s := by
  have hany : (claims.scope.any fun claim => (splitWhitespace claim).contains s) = true := h
  obtain ⟨claim, hmem⟩ : ∃ claim, s ∈ splitWhitespace claim := by
    cases hscope : claims.scope with
    | none => simp [hscope] at hany
    | some claim => exact ⟨claim, by simpa [hscope] using hany⟩
  obtain ⟨word, hword, rfl⟩ := List.mem_map.mp hmem
  rw [scopeToken_iff, String.toList_ofList]
  exact isWord_of_mem hword

theorem sufficient_iff {rule : Rule Rfc9068AccessTokenClaims} (hbuilt : Built rule) :
    Sufficient rule ↔ ∀ s ∈ rule.scopes, ScopeToken s := by
  constructor
  · intro h s hs
    exact granted_token (h ⟨[], ⟨rule.scopeParam⟩⟩ rfl s hs)
  · intro htokens v hscope s hs
    have hne : rule.scopes ≠ [] := List.ne_nil_of_mem hs
    have hsplit := (splitWhitespace_join rule.scopes).mpr htokens
    change (v.claims.scope.any fun claim => (splitWhitespace claim).contains s) = true
    rw [hscope, advertised hbuilt hne, Option.any_some, hsplit]
    simpa using hs

section Rules

variable [RegistrationCrate] [HttpCrate] [ResourceServerLib]

theorem faithful_tokens (hplain : PlainScopeError) {rule : Rule Rfc9068AccessTokenClaims}
    (hbuilt : Built rule) (haccepted : Accepted rule) :
    Faithful rule ↔ ∀ s ∈ rule.scopes, ScopeToken s := by
  rw [faithful_iff hplain hbuilt haccepted]
  constructor
  · intro htokens s hs
    have hrefused : ¬ AllScopes rule ⟨rule.audiences, ⟨none⟩⟩ := by
      intro hall
      have hscope := hall s hs
      cases hscope
    have haudience : RuleAudience rule
        (⟨rule.audiences, ⟨none⟩⟩ : ValidatedRequest Rfc9068AccessTokenClaims) := by
      cases h : rule.audiences with
      | nil => exact .inl h
      | cons a rest => exact .inr ⟨a, by simp [h], by simp⟩
    exact htokens ⟨_, haudience, hrefused⟩ s hs
  · exact fun htokens _ => htokens

/-- The advertised scope is sufficient, and faithful, exactly for scopes that are tokens. -/
theorem advertised_scope_exact (hplain : PlainScopeError)
    {rule : Rule Rfc9068AccessTokenClaims} (hbuilt : Built rule) (haccepted : Accepted rule) :
    (Sufficient rule ∧ Faithful rule ↔ ∀ s ∈ rule.scopes, ScopeToken s) ∧
      (Sufficient rule ↔ Faithful rule) := by
  have hsufficient := sufficient_iff hbuilt
  have hfaithful := faithful_tokens hplain hbuilt haccepted
  constructor
  · rw [hsufficient, hfaithful, and_self]
  · rw [hsufficient, hfaithful]

end Rules

section Spaced

local instance : RegistrationCrate where
  GuardConfig := Unit
  Selector := String
  Registration := fun R => String × R
  path := id
  subtree := id
  exclusiveSubtree := id
  all := fun pattern rule => (pattern, rule)
  methods := fun pattern _ rule => (pattern, rule)
  fromRegistrations := fun fallback _ registrations =>
    .ok ⟨fun path _ => .ok (((registrations.find? fun r => r.1 = path).map Prod.snd).getD fallback)⟩

local instance : HttpCrate := ⟨fun text => some ⟨text⟩, fun _ => none⟩
local instance : ResourceServerLib :=
  ⟨none, .client .insufficientScope "insufficient scope"⟩

def routedPolicy (rule : Rule Rfc9068AccessTokenClaims) :
    ResourcePolicyBuilder Rfc9068AccessTokenClaims :=
  ⟨[(.exact, "/api", rule)], .required, (), none⟩

def spacedRule : Rule Rfc9068AccessTokenClaims := Rule.required.withScopes ["read write"]
def listedRule : Rule Rfc9068AccessTokenClaims := Rule.required.withScopes ["read", "write"]

theorem plainScopeError : PlainScopeError := ⟨⟨_, rfl⟩, rfl⟩

theorem accepted_routed {rule : Rule Rfc9068AccessTokenClaims}
    (h : rule.publicConstraintsRequested = false) : Accepted rule := by
  have hnone : ((routedPolicy rule).routes.find? fun entry =>
      entry.2.2.publicConstraintsRequested) = none := by
    simp [routedPolicy, h]
  have hmem : rule ∈ (routedPolicy rule).rules := by
    simp [ResourcePolicyBuilder.rules, routedPolicy]
  obtain ⟨policy, hbuild⟩ : ∃ policy, (routedPolicy rule).build = .ok policy := by
    unfold ResourcePolicyBuilder.build
    rw [hnone]
    exact ⟨_, rfl⟩
  exact ⟨routedPolicy rule, policy, hmem, hbuild⟩

theorem advertised_scope_exact_listed : Sufficient listedRule ∧ Faithful listedRule := by
  have haccepted : Accepted listedRule := accepted_routed rfl
  refine (advertised_scope_exact plainScopeError (.scopes _ .required) haccepted).1.mpr ?_
  intro s hs
  obtain rfl | rfl : s = "read" ∨ s = "write" := by
    simpa [listedRule, Rule.withScopes, Rule.required, Rule.withRequirement] using hs
  · exact ⟨by decide, by simp [isWhitespace]⟩
  · exact ⟨by decide, by simp [isWhitespace]⟩

/-- The rule advertises the scope it was given, and refuses the token that has it. -/
theorem spaced_scope_refused : Built spacedRule ∧ Accepted spacedRule ∧
    spacedRule.scopeParam = some "read write" ∧ ¬ Sufficient spacedRule ∧
    ¬ Faithful spacedRule := by
  have hbuilt : Built spacedRule := .scopes _ .required
  have haccepted : Accepted spacedRule := accepted_routed rfl
  have hmem : "read write" ∈ spacedRule.scopes := List.mem_singleton_self _
  have hbroken : ¬ ∀ s ∈ spacedRule.scopes, ScopeToken s := by
    intro htokens
    have hspace := (htokens _ hmem).unbroken ' ' (by decide)
    cases hspace
  refine ⟨hbuilt, haccepted, rfl, ?_, ?_⟩
  · rwa [sufficient_iff hbuilt]
  · rwa [faithful_tokens plainScopeError hbuilt haccepted]

end Spaced

end ScopeAdvertisement
