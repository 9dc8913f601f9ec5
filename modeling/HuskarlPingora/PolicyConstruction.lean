import HuskarlPingora.BuilderChains
import HuskarlPingora.ResourcePolicies
import Mathlib.Data.List.Dedup
import Mathlib.Data.List.Sort
import Mathlib.Data.String.Basic

/-! # From rule chains to a policy

A rule is a constructor and a chain of calls, and a policy a list of registrations with
a default. What the policy refuses and advertises is read off the calls. -/
namespace PolicyConstruction

open HttpModel RouteResolution ResourceRules MetadataPublisher ResourcePolicies BuilderChains

variable {C : Type}

inductive RuleCall (C : Type) where
  | audience (audience : String)
  | audiences (audiences : List String)
  | scopes (scopes : List String)
  | check (f : CheckFn C)
  | stripCredentials (strip : Bool)
  | method (method : Method)

namespace RuleCall

def apply (rule : Rule C) : RuleCall C → Rule C
  | .audience name => rule.withAudience name
  | .audiences names => rule.withAudiences names
  | .scopes names => rule.withScopes names
  | .check f => rule.withCheck f
  | .stripCredentials strip => rule.withStripCredentials strip
  | .method m => rule.withMethod m

/-! What a call supplies to each field. -/

def audiencesGiven : RuleCall C → List String
  | .audience name => [name]
  | .audiences names => names
  | _ => []

def scopesGiven : RuleCall C → List String
  | .scopes names => names
  | _ => []

def checkGiven : RuleCall C → Option (CheckFn C)
  | .check f => some f
  | _ => none

def stripGiven : RuleCall C → Option Bool
  | .stripCredentials strip => some strip
  | _ => none

def methodGiven : RuleCall C → Option MethodMatch
  | .method m => some (.oneOf [m])
  | _ => none

end RuleCall

/-- The constructors `public`, `optional` and `required` differ in the requirement only. -/
structure RuleChain (C : Type) where
  token : TokenRequirement
  calls : List (RuleCall C)

namespace RuleChain

def rule (chain : RuleChain C) : Rule C :=
  chain.calls.foldl RuleCall.apply (.withRequirement chain.token)

def audiences (chain : RuleChain C) : List String := chain.calls.flatMap RuleCall.audiencesGiven
def scopes (chain : RuleChain C) : List String := chain.calls.flatMap RuleCall.scopesGiven

def check (chain : RuleChain C) : Option (CheckFn C) :=
  (chain.calls.filterMap RuleCall.checkGiven).getLast?

/-- A public rule that was given an audience, a scope or a check it can never enforce. -/
def Constrained (chain : RuleChain C) : Prop :=
  chain.token = .none ∧ (chain.audiences ≠ [] ∨ chain.scopes ≠ [] ∨ chain.check ≠ none)

end RuleChain

structure ChainKept (chain : RuleChain C) : Prop where
  token : chain.rule.token = chain.token
  audiences : chain.rule.audiences = chain.audiences
  scopes : chain.rule.scopes = chain.scopes
  check : chain.rule.check = chain.check
  stripCredentials : chain.rule.stripCredentials =
    (chain.calls.filterMap RuleCall.stripGiven).getLast?.getD true
  method : chain.rule.method = (chain.calls.filterMap RuleCall.methodGiven).getLast?.getD .any
  unadvertised : chain.rule.scopeParam = none ↔ chain.rule.scopes = []
  advertised : chain.rule.scopes ≠ [] →
    chain.rule.scopeParam = some (" ".intercalate chain.rule.scopes)

theorem built_chain (chain : RuleChain C) : Built chain.rule := by
  apply foldl_invariant (P := Built)
  · intro rule call h
    cases call with
    | audience audience => exact .audience audience h
    | audiences audiences => exact .audiences audiences h
    | scopes scopes => exact .scopes scopes h
    | check f => exact .check f h
    | stripCredentials strip => exact .stripCredentials strip h
    | method method => exact .method method h
  · cases chain.token with
    | none => exact .public
    | optional => exact .optional
    | required => exact .required

theorem chain_kept (chain : RuleChain C) : ChainKept chain := by
  have hparam := built_scopeParam (built_chain chain)
  refine ⟨?_, ?_, ?_, ?_, ?_, ?_, ?_, ?_⟩
  · apply foldl_unchanged Rule.token
    intro rule call
    cases call <;> rfl
  · apply foldl_extended Rule.audiences
    intro rule call
    cases call <;> simp [RuleCall.apply, RuleCall.audiencesGiven, Rule.withAudience,
      Rule.withAudiences, Rule.withScopes, Rule.withCheck, Rule.withStripCredentials,
      Rule.withMethod]
  · apply foldl_extended Rule.scopes
    intro rule call
    cases call <;> simp [RuleCall.apply, RuleCall.scopesGiven, Rule.withAudience,
      Rule.withAudiences, Rule.withScopes, Rule.withCheck, Rule.withStripCredentials,
      Rule.withMethod]
  · rw [RuleChain.check, ← Option.or_none (o := List.getLast? _)]
    refine foldl_last_option (P := fun _ => True) (fun _ _ _ => trivial) Rule.check ?_ chain.calls
      trivial
    intro rule call _
    cases call <;> rfl
  · apply foldl_last Rule.stripCredentials
    intro rule call
    cases call <;> rfl
  · apply foldl_last Rule.method
    intro rule call
    cases call <;> rfl
  · rw [hparam]
    cases chain.rule.scopes <;> simp
  · intro hne
    have hempty : chain.rule.scopes.isEmpty = false := by simpa using hne
    rw [hparam, hempty]
    rfl

theorem constrained_iff (chain : RuleChain C) :
    chain.rule.publicConstraintsRequested = true ↔ chain.Constrained := by
  have h := chain_kept chain
  unfold Rule.publicConstraintsRequested RuleChain.Constrained
  rw [h.token, h.audiences, h.scopes, h.check]
  simp [Option.isSome_iff_ne_none, or_assoc]

section Builder

variable [RegistrationCrate]

def addRoute (builder : ResourcePolicyBuilder C) (call : RouteCall (RuleChain C)) :
    ResourcePolicyBuilder C :=
  match call.kind with
  | .exact => builder.route call.pattern call.rule.rule
  | .subtree => builder.subtree call.pattern call.rule.rule
  | .blob => builder.blobSubtree call.pattern call.rule.rule

structure PolicySource (C : Type) where
  calls : List (RouteCall (RuleChain C))
  default : RuleChain C
  pathGuard : RegistrationCrate.GuardConfig
  metricsName : Option String

namespace PolicySource

def builder (source : PolicySource C) : ResourcePolicyBuilder C :=
  source.calls.foldl addRoute ⟨[], source.default.rule, source.pathGuard, source.metricsName⟩

def entries (source : PolicySource C) : List (String × RuleChain C) :=
  namedRules source.calls source.default

end PolicySource

theorem builder_routes (source : PolicySource C) : source.builder.routes =
    source.calls.map fun call => (call.kind, call.pattern, call.rule.rule) := by
  rw [List.map_eq_flatMap]
  apply foldl_extended ResourcePolicyBuilder.routes
  rintro builder ⟨kind, pattern, chain⟩
  cases kind <;> rfl

theorem builder_default (source : PolicySource C) :
    source.builder.default = source.default.rule := by
  apply foldl_unchanged ResourcePolicyBuilder.default
  rintro builder ⟨kind, pattern, chain⟩
  cases kind <;> rfl

theorem builder_entries (source : PolicySource C) :
    source.builder.routes.map (fun entry => entry.2) ++ [("<default>", source.builder.default)] =
      source.entries.map fun entry => (entry.1, entry.2.rule) := by
  rw [builder_routes, builder_default]
  simp [PolicySource.entries, namedRules]

theorem build_refused (builder : ResourcePolicyBuilder C) (name : String) :
    builder.build = .error (.publicRuleWithConstraints name) ↔
      FirstFault (fun rule => rule.publicConstraintsRequested = true)
        (builder.routes.map (fun entry => entry.2) ++ [("<default>", builder.default)]) name := by
  rw [firstFault_concat]
  unfold ResourcePolicyBuilder.build
  cases builder.routes.find? fun entry => entry.2.2.publicConstraintsRequested with
  | some entry => simp
  | none =>
    by_cases hdefault : builder.default.publicConstraintsRequested
    · simp [hdefault]
    · simp only [hdefault, Bool.false_eq_true, if_false]
      cases RegistrationCrate.fromRegistrations builder.default builder.pathGuard
        (builder.routes.map fun entry =>
          entry.1.registration entry.2.1 entry.2.2.method entry.2.2) with
      | ok routes => simp
      | error error => cases error <;> simp [ConfigError.ofRouter]

theorem source_refused (source : PolicySource C) (name : String) :
    source.builder.build = .error (.publicRuleWithConstraints name) ↔
      FirstFault RuleChain.Constrained source.entries name := by
  rw [build_refused, builder_entries]
  exact firstFault_map constrained_iff source.entries name

/-- A router answers with the fallback or with a rule that was registered. -/
def ResolvesRegistered : Prop :=
  ∀ {R : Type} (fallback : R) (pathGuard : RegistrationCrate.GuardConfig)
    (entries : List (RouteKind × String × MethodMatch × R)) (router : RuleRouter R),
    RegistrationCrate.fromRegistrations fallback pathGuard
      (entries.map fun entry => entry.1.registration entry.2.1 entry.2.2.1 entry.2.2.2) =
        .ok router →
    ∀ path method rule, router.resolve path method = .ok rule →
      rule = fallback ∨ ∃ entry ∈ entries, entry.2.2.2 = rule

theorem resolved_accepted (hregistered : ResolvesRegistered) {builder : ResourcePolicyBuilder C}
    {policy : ResourcePolicy C} (h : builder.build = .ok policy) {path : String} {method : Method}
    {rule : Rule C} (hresolve : policy.routes.resolve path method = .ok rule) : Accepted rule := by
  refine ⟨builder, policy, ?_, h⟩
  have hroutes := (build_steps h).router
  have hmap : (builder.routes.map fun entry =>
      entry.1.registration entry.2.1 entry.2.2.method entry.2.2) =
      (builder.routes.map fun entry => (entry.1, entry.2.1, entry.2.2.method, entry.2.2)).map
        fun entry => entry.1.registration entry.2.1 entry.2.2.1 entry.2.2.2 := by
    rw [List.map_map]
    rfl
  rw [hmap] at hroutes
  rcases hregistered _ _ _ _ hroutes path method rule hresolve with rfl | ⟨entry, hmem, rfl⟩
  · simp [ResourcePolicyBuilder.rules]
  · obtain ⟨entry', hentry', rfl⟩ := List.mem_map.mp hmem
    exact List.mem_append_left _ (List.mem_map_of_mem hentry')

theorem unconstrained_of_accepted {rule : Rule C} (h : Accepted rule) (ht : rule.token = .none) :
    rule.audiences = [] ∧ rule.scopes = [] ∧ rule.check = none := by
  have hnone := accepted_enforceable h
  unfold Rule.publicConstraintsRequested at hnone
  simpa [ht, and_assoc] using hnone

theorem allScopes_increasing (builder : ResourcePolicyBuilder C) :
    builder.allScopes.Pairwise (· < ·) := by
  have hsorted : ((builder.rules.flatMap Rule.scopes).mergeSort
      fun a b => decide (a ≤ b)).Pairwise (· ≤ ·) := List.pairwise_mergeSort' _ _
  have hle := hsorted.sublist (List.dedup_sublist _)
  have hne := List.nodup_dedup ((builder.rules.flatMap Rule.scopes).mergeSort
    fun a b => decide (a ≤ b))
  exact (hle.and hne).imp fun h => lt_of_le_of_ne h.1 h.2

theorem mem_allScopes (source : PolicySource C) (scope : String) :
    scope ∈ source.builder.allScopes ↔ ∃ entry ∈ source.entries, scope ∈ entry.2.scopes := by
  have hrules : source.builder.rules = source.entries.map fun entry => entry.2.rule := by
    rw [ResourcePolicyBuilder.rules, builder_routes, builder_default]
    simp [PolicySource.entries, namedRules]
  rw [ResourcePolicyBuilder.allScopes, List.mem_dedup, List.mem_mergeSort, List.mem_flatMap,
    hrules]
  simp [(chain_kept _).scopes]

structure PolicyChecked (source : PolicySource C) : Prop where
  chains : ∀ chain : RuleChain C, ChainKept chain
  fails : (∃ name, source.builder.build = .error (.publicRuleWithConstraints name)) ↔
    ∃ entry ∈ source.entries, entry.2.Constrained
  names : ∀ name, source.builder.build = .error (.publicRuleWithConstraints name) ↔
    FirstFault RuleChain.Constrained source.entries name
  /-- A router that invents no rule never answers with a public constrained one. -/
  resolvable : ResolvesRegistered → ∀ policy, source.builder.build = .ok policy →
    ∀ path method rule, policy.routes.resolve path method = .ok rule → rule.token = .none →
      rule.audiences = [] ∧ rule.scopes = [] ∧ rule.check = none
  increasing : ∀ policy, source.builder.build = .ok policy →
    policy.scopesSupported.Pairwise (· < ·)
  advertised : ∀ policy, source.builder.build = .ok policy → ∀ scope,
    scope ∈ policy.scopesSupported ↔ ∃ entry ∈ source.entries, scope ∈ entry.2.scopes

/-- No constraint of a rule is lost or dead, and the policy advertises its scopes. -/
theorem policy_construction_exact (source : PolicySource C) : PolicyChecked source := by
  constructor
  · exact chain_kept
  · simp only [source_refused]
    exact exists_firstFault
  · exact source_refused source
  · intro hregistered policy hbuild path method rule hresolve ht
    exact unconstrained_of_accepted (resolved_accepted hregistered hbuild hresolve) ht
  · intro policy hbuild
    rw [(build_steps hbuild).scopes]
    exact allScopes_increasing _
  · intro policy hbuild scope
    rw [(build_steps hbuild).scopes]
    exact mem_allScopes source scope

end Builder

section Listed

/-- A route guard that accepts every registration. The first one that covers a path
decides its methods. -/
local instance listedCrate : RegistrationCrate where
  GuardConfig := Unit
  Selector := String × Bool
  Registration := fun R => (String × Bool) × MethodMatch × R
  path := fun path => (path, false)
  subtree := fun path => (path, true)
  exclusiveSubtree := fun path => (path, true)
  all := fun selector rule => (selector, .any, rule)
  methods := fun selector methods rule => (selector, .oneOf methods, rule)
  fromRegistrations := fun fallback _ registrations => .ok ⟨fun path method =>
    match registrations.find? fun registration =>
        decide (registration.1.1 = path) ||
          registration.1.2 && (registration.1.1.toList ++ ['/']).isPrefixOf path.toList with
    | none => .ok fallback
    | some registration =>
      match registration.2.1 with
      | .any => .ok registration.2.2
      | .oneOf methods =>
        if methods.contains method then .ok registration.2.2
        else .error ⟨.policyDenied, "method not allowed", "method not allowed"⟩⟩

theorem listed_registration {R : Type} (kind : RouteKind) (pattern : String) (matched : MethodMatch)
    (rule : R) : (show (String × Bool) × MethodMatch × R from
      kind.registration pattern matched rule).2 = (matched, rule) := by
  cases kind <;> cases matched <;> rfl

theorem listed_resolvesRegistered : ResolvesRegistered := by
  intro R fallback pathGuard entries router h path method rule hresolve
  cases h
  simp only at hresolve
  split at hresolve
  · cases hresolve
    exact .inl rfl
  · rename_i registration hfind
    obtain ⟨entry, hentry, rfl⟩ := List.mem_map.mp (List.mem_of_find?_eq_some hfind)
    have hentered := listed_registration entry.1 entry.2.1 entry.2.2.1 entry.2.2.2
    refine .inr ⟨entry, hentry, ?_⟩
    simp only at hentered
    rw [hentered] at hresolve
    cases hm : entry.2.2.1 with
    | any =>
      rw [hm] at hresolve
      cases hresolve
      rfl
    | oneOf methods =>
      rw [hm] at hresolve
      simp only at hresolve
      split at hresolve
      · cases hresolve
        rfl
      · cases hresolve

def adminSource : PolicySource Unit where
  calls := [⟨.exact, "/health", ⟨.none, [.method .get, .stripCredentials false]⟩⟩,
    ⟨.subtree, "/admin", ⟨.required, [.scopes ["write"], .audience "api", .scopes ["admin"]]⟩⟩]
  default := ⟨.required, [.scopes ["read", "write"]]⟩
  pathGuard := ()
  metricsName := none

theorem policy_construction_exact_admin : ∃ policy, adminSource.builder.build = .ok policy ∧
    policy.scopesSupported.Pairwise (· < ·) ∧
    (∀ scope, scope ∈ policy.scopesSupported ↔
      ∃ entry ∈ adminSource.entries, scope ∈ entry.2.scopes) ∧
    ∀ path method rule, policy.routes.resolve path method = .ok rule → rule.token = .none →
      rule.audiences = [] ∧ rule.scopes = [] ∧ rule.check = none := by
  have hchecked := policy_construction_exact adminSource
  obtain ⟨policy, hbuild⟩ : ∃ policy, adminSource.builder.build = .ok policy := ⟨_, rfl⟩
  exact ⟨policy, hbuild, hchecked.increasing policy hbuild, hchecked.advertised policy hbuild,
    hchecked.resolvable listed_resolvesRegistered policy hbuild⟩

end Listed

end PolicyConstruction
