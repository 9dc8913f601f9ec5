import HuskarlPingora.BuilderChains
import HuskarlPingora.LoginAdapter
import HuskarlPingora.ResourcePolicies

/-! # From login rules to a login proxy

A rule is started public, optional or required and then goes through any calls. What it
ends as, and whether a proxy accepts it, is read off the calls. -/
namespace LoginBuilders

open HttpModel RouteResolution LoginRules LoginContext LoginAdapter ResourcePolicies BuilderChains

variable {S : Type}

inductive RouteConfigError where
  | publicRuleWithCheck (pattern : String)
  | route (pattern reason : String)
  | nonCanonicalPattern (pattern : String)
  | nonCanonicalCasePattern (pattern : String)
  deriving DecidableEq, Repr

def RouteConfigError.ofRouter : RuleRouterError → RouteConfigError
  | .route pattern reason => .route pattern reason
  | .nonCanonical pattern => .nonCanonicalPattern pattern
  | .nonCanonicalCase pattern => .nonCanonicalCasePattern pattern
  | .emptyMethodSet pattern =>
    .route pattern "registration matches no method: its method set is empty"
  | .emptyPatternSet => .route "" "registration has no route patterns"
  | .tooManyRegistrations => .route "" "too many route registrations"

section Builder

variable [RegistrationCrate]

structure LoginProxyBuilder (S : Type) where
  routes : List (RouteKind × String × LoginRule S)
  inner : Inner
  engine : LoginEngine S
  default : LoginRule S
  pathGuard : RegistrationCrate.GuardConfig
  persistFailurePolicy : SessionError → Option LoginResponse
  corsPassthrough : Bool
  metricsName : Option String
  diagnostics : Bool

namespace LoginProxyBuilder

def route (self : LoginProxyBuilder S) (pattern : String) (rule : LoginRule S) :
    LoginProxyBuilder S :=
  { self with routes := self.routes ++ [(.exact, pattern, rule)] }

def subtree (self : LoginProxyBuilder S) (path : String) (rule : LoginRule S) :
    LoginProxyBuilder S :=
  { self with routes := self.routes ++ [(.subtree, path, rule)] }

def blobSubtree (self : LoginProxyBuilder S) (path : String) (rule : LoginRule S) :
    LoginProxyBuilder S :=
  { self with routes := self.routes ++ [(.blob, path, rule)] }

/-- The `new` of the source, which the builder calls with its fields. -/
def build (self : LoginProxyBuilder S) : Except RouteConfigError (LoginProxy S) :=
  match self.routes.find? fun entry => entry.2.2.publicCheckRequested with
  | some (_, pattern, _) => .error (.publicRuleWithCheck pattern)
  | none =>
    if self.default.publicCheckRequested then .error (.publicRuleWithCheck "<default>")
    else
      let registrations := self.routes.map fun entry =>
        entry.1.registration entry.2.1 entry.2.2.methodMatch entry.2.2
      match RegistrationCrate.fromRegistrations self.default self.pathGuard registrations with
      | .error error => .error (.ofRouter error)
      | .ok routes =>
        .ok
          { inner := self.inner
            engine := self.engine
            routes := routes
            persistFailurePolicy := self.persistFailurePolicy
            corsPassthrough := self.corsPassthrough
            metricsName := self.metricsName
            diagnostics := self.diagnostics }

end LoginProxyBuilder

end Builder

inductive RuleKind where
  | pub | optional | required
  deriving DecidableEq, Repr

def RuleKind.start : RuleKind → LoginRule S
  | .pub => .public
  | .optional => .newOptional
  | .required => .newRequired

def kindOf : LoginRule S → RuleKind
  | .pub _ _ => .pub
  | .optional _ _ => .optional
  | .required _ _ => .required

def attached : LoginRule S → Option (CheckFn S)
  | .pub _ _ => none
  | .optional check _ => check
  | .required check _ => check

inductive RuleCall (S : Type) where
  | check (f : CheckFn S)
  | method (method : Method)
  | clone

namespace RuleCall

def apply (rule : LoginRule S) : RuleCall S → LoginRule S
  | .check f => rule.check f
  | .method m => rule.method m
  | .clone => rule.clone

def checkGiven : RuleCall S → Option (CheckFn S)
  | .check f => some f
  | _ => none

def methodGiven : RuleCall S → Option MethodMatch
  | .method m => some (.oneOf [m])
  | _ => none

end RuleCall

structure RuleChain (S : Type) where
  kind : RuleKind
  calls : List (RuleCall S)

namespace RuleChain

def rule (chain : RuleChain S) : LoginRule S := chain.calls.foldl RuleCall.apply chain.kind.start

def ChecksRequested (chain : RuleChain S) : Prop := ∃ f, RuleCall.check f ∈ chain.calls

/-- A public rule whose chain asked for a check. -/
def Unenforceable (chain : RuleChain S) : Prop := chain.kind = .pub ∧ chain.ChecksRequested

end RuleChain

structure ChainKept (chain : RuleChain S) : Prop where
  kind : kindOf chain.rule = chain.kind
  method : chain.rule.methodMatch =
    (chain.calls.filterMap RuleCall.methodGiven).getLast?.getD .any
  attached : chain.kind ≠ .pub →
    attached chain.rule = (chain.calls.filterMap RuleCall.checkGiven).getLast?
  requested : chain.kind = .pub →
    (chain.rule.publicCheckRequested = true ↔ chain.ChecksRequested)

theorem kindOf_apply (rule : LoginRule S) (call : RuleCall S) :
    kindOf (call.apply rule) = kindOf rule := by
  cases call <;> cases rule <;> rfl

theorem kindOf_start (kind : RuleKind) : kindOf (kind.start : LoginRule S) = kind := by
  cases kind <;> rfl

theorem chain_kind (chain : RuleChain S) : kindOf chain.rule = chain.kind :=
  (foldl_unchanged kindOf kindOf_apply chain.calls chain.kind.start).trans (kindOf_start chain.kind)

theorem chain_method (chain : RuleChain S) : chain.rule.methodMatch =
    (chain.calls.filterMap RuleCall.methodGiven).getLast?.getD .any := by
  have hstart : (chain.kind.start : LoginRule S).methodMatch = .any := by
    cases chain.kind <;> rfl
  rw [← hstart]
  apply foldl_last LoginRule.methodMatch
  intro rule call
  cases call <;> cases rule <;> rfl

theorem chain_attached (chain : RuleChain S) (h : chain.kind ≠ .pub) :
    attached chain.rule = (chain.calls.filterMap RuleCall.checkGiven).getLast? := by
  have hstart : attached (chain.kind.start : LoginRule S) = none := by
    cases chain.kind <;> rfl
  have hlast : attached chain.rule = (chain.calls.filterMap RuleCall.checkGiven).getLast?.or
      (attached (chain.kind.start : LoginRule S)) := by
    refine foldl_last_option (P := fun rule => kindOf rule ≠ .pub) ?_ attached ?_ chain.calls ?_
    · intro rule call hrule
      rwa [kindOf_apply]
    · intro rule call hrule
      cases rule with
      | pub method requested => exact absurd rfl hrule
      | optional check method | required check method => cases call <;> rfl
    · rwa [kindOf_start]
  rw [hlast, hstart, Option.or_none]

theorem chain_requested (chain : RuleChain S) (h : chain.kind = .pub) :
    chain.rule.publicCheckRequested = true ↔ chain.ChecksRequested := by
  have hstart : (chain.kind.start : LoginRule S).publicCheckRequested = false := by
    cases chain.kind <;> rfl
  have hflag : chain.rule.publicCheckRequested =
      ((chain.kind.start : LoginRule S).publicCheckRequested ||
        chain.calls.any fun call => call.checkGiven.isSome) := by
    refine foldl_flag (P := fun rule => kindOf rule = .pub) ?_ LoginRule.publicCheckRequested ?_
      chain.calls ?_
    · intro rule call hrule
      rwa [kindOf_apply]
    · intro rule call hrule
      cases rule with
      | optional | required => cases hrule
      | pub method requested =>
        cases call with
        | check f => exact (Bool.or_true requested).symm
        | method | clone => exact (Bool.or_false requested).symm
    · rwa [kindOf_start]
  rw [hflag, hstart, Bool.false_or, List.any_eq_true]
  constructor
  · rintro ⟨call, hmem, hcall⟩
    cases call with
    | check f => exact ⟨f, hmem⟩
    | method | clone => cases hcall
  · rintro ⟨f, hmem⟩
    exact ⟨_, hmem, rfl⟩

theorem unenforceable_iff (chain : RuleChain S) :
    chain.rule.publicCheckRequested = true ↔ chain.Unenforceable := by
  by_cases hpub : chain.kind = .pub
  · rw [chain_requested chain hpub, RuleChain.Unenforceable, and_iff_right hpub]
  · have hkind := chain_kind chain
    refine iff_of_false ?_ fun h => hpub h.1
    cases hr : chain.rule with
    | pub method requested =>
      rw [hr] at hkind
      exact absurd hkind.symm hpub
    | optional | required => exact Bool.false_ne_true

section Sources

variable [RegistrationCrate]

def addRoute (builder : LoginProxyBuilder S) (call : RouteCall (RuleChain S)) :
    LoginProxyBuilder S :=
  match call.kind with
  | .exact => builder.route call.pattern call.rule.rule
  | .subtree => builder.subtree call.pattern call.rule.rule
  | .blob => builder.blobSubtree call.pattern call.rule.rule

/-- The calls and the default a builder is given. Its other fields are those of `initial`. -/
structure ProxySource (S : Type) where
  initial : LoginProxyBuilder S
  calls : List (RouteCall (RuleChain S))
  default : RuleChain S

namespace ProxySource

def builder (source : ProxySource S) : LoginProxyBuilder S :=
  source.calls.foldl addRoute
    { source.initial with routes := [], default := source.default.rule }

def entries (source : ProxySource S) : List (String × RuleChain S) :=
  namedRules source.calls source.default

end ProxySource

theorem builder_routes (source : ProxySource S) : source.builder.routes =
    source.calls.map fun call => (call.kind, call.pattern, call.rule.rule) := by
  rw [List.map_eq_flatMap]
  apply foldl_extended LoginProxyBuilder.routes
  rintro builder ⟨kind, pattern, chain⟩
  cases kind <;> rfl

theorem builder_default (source : ProxySource S) :
    source.builder.default = source.default.rule := by
  apply foldl_unchanged LoginProxyBuilder.default
  rintro builder ⟨kind, pattern, chain⟩
  cases kind <;> rfl

theorem build_refused (builder : LoginProxyBuilder S) (name : String) :
    builder.build = .error (.publicRuleWithCheck name) ↔
      FirstFault (fun rule => rule.publicCheckRequested = true)
        (builder.routes.map (fun entry => entry.2) ++ [("<default>", builder.default)]) name := by
  rw [firstFault_concat]
  unfold LoginProxyBuilder.build
  cases builder.routes.find? fun entry => entry.2.2.publicCheckRequested with
  | some entry => simp
  | none =>
    by_cases hdefault : builder.default.publicCheckRequested
    · simp [hdefault]
    · simp only [hdefault, Bool.false_eq_true, if_false]
      cases RegistrationCrate.fromRegistrations builder.default builder.pathGuard
        (builder.routes.map fun entry =>
          entry.1.registration entry.2.1 entry.2.2.methodMatch entry.2.2) with
      | ok routes => simp
      | error error => cases error <;> simp [RouteConfigError.ofRouter]

theorem source_refused (source : ProxySource S) (name : String) :
    source.builder.build = .error (.publicRuleWithCheck name) ↔
      FirstFault RuleChain.Unenforceable source.entries name := by
  have hentries : source.builder.routes.map (fun entry => entry.2) ++
      [("<default>", source.builder.default)] =
        source.entries.map fun entry => (entry.1, entry.2.rule) := by
    rw [builder_routes, builder_default]
    simp [ProxySource.entries, namedRules]
  rw [build_refused, hentries]
  exact firstFault_map unenforceable_iff source.entries name

structure ChecksHonoured (source : ProxySource S) : Prop where
  chains : ∀ chain : RuleChain S, ChainKept chain
  fails : (∃ name, source.builder.build = .error (.publicRuleWithCheck name)) ↔
    ∃ entry ∈ source.entries, entry.2.Unenforceable
  names : ∀ name, source.builder.build = .error (.publicRuleWithCheck name) ↔
    FirstFault RuleChain.Unenforceable source.entries name

/-- A check is run as supplied, or construction fails under the first name that asked
for one in vain. -/
theorem login_checks_never_lost (source : ProxySource S) : ChecksHonoured source := by
  constructor
  · intro chain
    exact ⟨chain_kind chain, chain_method chain, chain_attached chain, chain_requested chain⟩
  · simp only [source_refused]
    exact exists_firstFault
  · exact source_refused source

end Sources

end LoginBuilders
