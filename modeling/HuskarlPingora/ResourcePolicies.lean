import HuskarlPingora.MetadataPublisher

/-! # Building rules and policies

A rule is built by its constructors and methods, and becomes part of a policy when the
builder accepts it. Patterns and their conflicts are decided by the route-guard crate. -/
namespace ResourcePolicies

open HttpModel RouteResolution ResourceRules MetadataPublisher

variable {C : Type}

inductive RouteKind where
  | exact | subtree | blob
  deriving DecidableEq, Repr

structure RouteCall (R : Type) where
  kind : RouteKind
  pattern : String
  rule : R

/-- Every rule under the name a refusal gives it, the default last. -/
def namedRules {R : Type} (calls : List (RouteCall R)) (default : R) : List (String × R) :=
  calls.map (fun call => (call.pattern, call.rule)) ++ [("<default>", default)]

/-- The registrations of the route-guard crate, and the router it builds from them. -/
class RegistrationCrate where
  GuardConfig : Type
  /-- A path or a subtree, before its methods and its rule are given. -/
  Selector : Type
  Registration : Type → Type
  path : String → Selector
  subtree : String → Selector
  exclusiveSubtree : String → Selector
  all {R : Type} : Selector → R → Registration R
  methods {R : Type} : Selector → List Method → R → Registration R
  fromRegistrations {R : Type} (fallback : R) (pathGuard : GuardConfig)
    (registrations : List (Registration R)) : Except RuleRouterError (RuleRouter R)

section Builder

variable [RegistrationCrate]

def RouteKind.registration {R : Type} (self : RouteKind) (pattern : String) (method : MethodMatch)
    (rule : R) : RegistrationCrate.Registration R :=
  let registration := match self with
    | .exact => RegistrationCrate.path pattern
    | .subtree => RegistrationCrate.subtree pattern
    | .blob => RegistrationCrate.exclusiveSubtree pattern
  match method with
  | .any => RegistrationCrate.all registration rule
  | .oneOf methods => RegistrationCrate.methods registration methods rule

/-- `default` is the rule of a path that matches no route. -/
structure ResourcePolicyBuilder (C : Type) where
  routes : List (RouteKind × String × Rule C)
  default : Rule C
  pathGuard : RegistrationCrate.GuardConfig
  metricsName : Option String

namespace ResourcePolicyBuilder

def route (self : ResourcePolicyBuilder C) (pattern : String) (rule : Rule C) :
    ResourcePolicyBuilder C :=
  { self with routes := self.routes ++ [(.exact, pattern, rule)] }

def subtree (self : ResourcePolicyBuilder C) (path : String) (rule : Rule C) :
    ResourcePolicyBuilder C :=
  { self with routes := self.routes ++ [(.subtree, path, rule)] }

def blobSubtree (self : ResourcePolicyBuilder C) (path : String) (rule : Rule C) :
    ResourcePolicyBuilder C :=
  { self with routes := self.routes ++ [(.blob, path, rule)] }

def rules (self : ResourcePolicyBuilder C) : List (Rule C) :=
  self.routes.map (fun entry => entry.2.2) ++ [self.default]

/-- A sorted set of the scopes of every rule. -/
def allScopes (self : ResourcePolicyBuilder C) : List String :=
  ((self.rules.flatMap Rule.scopes).mergeSort fun a b => decide (a ≤ b)).dedup

def build (self : ResourcePolicyBuilder C) : Except ConfigError (ResourcePolicy C) :=
  match self.routes.find? fun entry => entry.2.2.publicConstraintsRequested with
  | some (_, pattern, _) => .error (.publicRuleWithConstraints pattern)
  | none =>
    if self.default.publicConstraintsRequested then
      .error (.publicRuleWithConstraints "<default>")
    else
      let registrations := self.routes.map fun entry =>
        entry.1.registration entry.2.1 entry.2.2.method entry.2.2
      match RegistrationCrate.fromRegistrations self.default self.pathGuard registrations with
      | .error error => .error (.ofRouter error)
      | .ok routes => .ok ⟨routes, self.allScopes, self.metricsName⟩

end ResourcePolicyBuilder

def Accepted (rule : Rule C) : Prop :=
  ∃ builder policy, rule ∈ ResourcePolicyBuilder.rules builder ∧
    ResourcePolicyBuilder.build builder = .ok policy

/-- What a successful construction went through. -/
structure BuildSteps (builder : ResourcePolicyBuilder C) (policy : ResourcePolicy C) : Prop where
  enforceable : ∀ rule ∈ builder.rules, rule.publicConstraintsRequested = false
  scopes : policy.scopesSupported = builder.allScopes
  router : RegistrationCrate.fromRegistrations builder.default builder.pathGuard
    (builder.routes.map fun entry =>
      entry.1.registration entry.2.1 entry.2.2.method entry.2.2) = .ok policy.routes

theorem build_steps {builder : ResourcePolicyBuilder C} {policy : ResourcePolicy C}
    (h : builder.build = .ok policy) : BuildSteps builder policy := by
  unfold ResourcePolicyBuilder.build at h
  split at h
  · cases h
  rename_i hroutes
  split at h
  · cases h
  rename_i hdefault
  simp only at h
  split at h
  · cases h
  rename_i routes hrouter
  cases h
  refine ⟨?_, rfl, hrouter⟩
  intro rule hmem
  rcases List.mem_append.mp hmem with hmem | hmem
  · obtain ⟨entry, hentry, rfl⟩ := List.mem_map.mp hmem
    simpa using List.find?_eq_none.mp hroutes entry hentry
  · obtain rfl := List.mem_singleton.mp hmem
    simpa using hdefault

theorem accepted_enforceable {rule : Rule C} (h : Accepted rule) :
    rule.publicConstraintsRequested = false := by
  obtain ⟨builder, policy, hmem, hbuild⟩ := h
  exact (build_steps hbuild).enforceable rule hmem

theorem accepted_public {rule : Rule C} (h : Accepted rule) (ht : rule.token = .none) :
    rule.scopes = [] := by
  have hnone := accepted_enforceable h
  rw [Rule.publicConstraintsRequested, ht] at hnone
  cases hs : rule.scopes with
  | nil => rfl
  | cons s rest => simp [hs] at hnone

end Builder

inductive Built : Rule C → Prop where
  | «public» : Built .public
  | optional : Built .optional
  | required : Built .required
  | audience {rule} (audience) : Built rule → Built (rule.withAudience audience)
  | audiences {rule} (audiences) : Built rule → Built (rule.withAudiences audiences)
  | scopes {rule} (scopes) : Built rule → Built (rule.withScopes scopes)
  | check {rule} (f) : Built rule → Built (rule.withCheck f)
  | stripCredentials {rule} (strip) : Built rule → Built (rule.withStripCredentials strip)
  | method {rule} (method) : Built rule → Built (rule.withMethod method)

/-- What a rule advertises is always the join of what it requires. -/
theorem built_scopeParam {rule : Rule C} (h : Built rule) : rule.scopeParam =
    if rule.scopes.isEmpty then none else some (" ".intercalate rule.scopes) := by
  induction h with
  | «public» | optional | required => rfl
  | scopes scopes _ _ => rfl
  | audience | audiences | check | stripCredentials | method => assumption

end ResourcePolicies
