import HuskarlPingora.Assembly
import HuskarlPingora.SlashPaths
import Mathlib.Data.List.Pairwise

/-! # Where an assembled router sends a request

The route guard and the registry are known by contract: which registration a router
answers with, and that registered mounts are apart. From these, and from the patterns
the assembly makes, follows the branch of every accepted path. -/
namespace AssemblyRouting

open HttpModel RouteResolution ResourceContext ResourceGuard MetadataPublisher ResourceBinding
open Assembly SlashPaths TracedHooks

variable {C R : Type}

def Literal (pattern : String) : Prop := '{' ∉ pattern.toList

def Continues (mount path : String) : Prop :=
  ∃ rest, rest ≠ [] ∧ path.toList = (mount ++ "/").toList ++ rest

/-- The rule a router answers with: of the registration that names the path, else of one
whose catch-all pattern reaches it, else the fallback. -/
inductive Selects (fallback : R) (registrations : List (PathRegistration R)) (path : String) :
    R → Prop where
  | literal {reg} : reg ∈ registrations → path ∈ reg.patterns → Literal path →
      Selects fallback registrations path reg.rule
  | rest {reg mount} : (∀ reg' ∈ registrations, path ∈ reg'.patterns → ¬ Literal path) →
      reg ∈ registrations → mount ++ "/{*rest}" ∈ reg.patterns → Continues mount path →
      Selects fallback registrations path reg.rule
  | fallback : (∀ reg ∈ registrations, path ∈ reg.patterns → ¬ Literal path) →
      (∀ reg ∈ registrations, ∀ mount, mount ++ "/{*rest}" ∈ reg.patterns →
        ¬ Continues mount path) →
      Selects fallback registrations path fallback

/-- For registrations of all methods, an accepted path is answered as `Selects` says. -/
def RouterContract [RouteGuardCrate] : Prop :=
  ∀ {R : Type} (fallback : R) (pathGuard : RouteGuardCrate.GuardConfig)
    (registrations : List (PathRegistration R)) (router : RuleRouter R),
    RouteGuardCrate.fromRegistrations fallback pathGuard registrations = .ok router →
    (∀ reg ∈ registrations, reg.method = .any) →
    ∀ path method rule, router.resolve path method = .ok rule →
      Selects fallback registrations path rule

section Registry

variable [ResourceRegistryCrate]

inductive Registered : ResourceRegistryCrate.Registry → List ResourceDefinition → Prop where
  | new : Registered ResourceRegistryCrate.new []
  | register {registry registry' definitions definition mapping incoming} :
      Registered registry definitions →
      ResourceRegistryCrate.register registry definition mapping = .ok (registry', incoming) →
      Registered registry' (definitions ++ [definition])

structure RegistryContract : Prop where
  apart : ∀ {registry definitions}, Registered registry definitions →
    definitions.Pairwise fun d d' => Apart '/' d.incomingMount.toList d'.incomingMount.toList
  incoming : ∀ {registry registry' definition mapping incoming},
    ResourceRegistryCrate.register registry definition mapping = .ok (registry', incoming) →
    mapping.incomingUri definition.metadataUri = some incoming

inductive Built : ResourceAssembly R → Prop where
  | new (mapping) : Built (.new mapping)
  | named {assembly} (name) : Built assembly → Built (assembly.withMetricsName name)
  | registered {assembly assembly' bound} : Built assembly →
      assembly.registerBound bound = .ok assembly' → Built assembly'

structure Sound (assembly : ResourceAssembly R) : Prop where
  registered : ∃ definitions, Registered assembly.registry definitions ∧
    assembly.branches.map Prod.fst = definitions.map ResourceDefinition.incomingMount
  mounts : ∀ branch ∈ assembly.branches, Literal branch.1
  endpoints : ∀ endpoint ∈ assembly.endpoints, Literal endpoint.incomingUri.path

omit [ResourceRegistryCrate] in
theorem literal_of_hasBrace {path : String} (h : hasBrace path = false) : Literal path := by
  intro hmem
  simp only [hasBrace, List.any_eq_false] at h
  exact h '{' hmem (by decide)

theorem registerBound_ok {assembly assembly' : ResourceAssembly R} {bound : BoundResource R}
    (h : assembly.registerBound bound = .ok assembly') : ∃ registry incoming endpoint,
      ResourceRegistryCrate.register assembly.registry bound.definition assembly.metadataMapping =
        .ok (registry, incoming) ∧
      hasBrace bound.definition.incomingMount = false ∧ hasBrace incoming.path = false ∧
      bound.metadata.withMapping assembly.metadataMapping = some endpoint ∧
      assembly' = { assembly with
        registry := registry
        branches := assembly.branches ++ [(bound.definition.incomingMount, bound.proxy)]
        endpoints := assembly.endpoints ++ [endpoint] } := by
  unfold ResourceAssembly.registerBound at h
  cases hr : ResourceRegistryCrate.register assembly.registry bound.definition
      assembly.metadataMapping with
  | error e => simp [hr] at h
  | ok accepted =>
    obtain ⟨registry, incoming⟩ := accepted
    by_cases hbrace : hasBrace bound.definition.incomingMount || hasBrace incoming.path
    · simp [hr, hbrace] at h
    · simp only [hr, hbrace, Bool.false_eq_true, if_false] at h
      simp only [Bool.or_eq_true, not_or, Bool.not_eq_true] at hbrace
      cases he : bound.metadata.withMapping assembly.metadataMapping with
      | none => simp [he] at h
      | some endpoint =>
        simp only [he, Except.ok.injEq] at h
        exact ⟨registry, incoming, endpoint, rfl, hbrace.1, hbrace.2, rfl, h.symm⟩

theorem sound_register (contract : RegistryContract) {assembly assembly' : ResourceAssembly R}
    {bound : BoundResource R} (hs : Sound assembly)
    (h : assembly.registerBound bound = .ok assembly') : Sound assembly' := by
  obtain ⟨registry, incoming, endpoint, hr, hmount, hpath, he, rfl⟩ := registerBound_ok h
  have hincoming : endpoint.incomingUri = incoming := by
    simp only [ResourceMetadataEndpoint.withMapping, bound.canonical, contract.incoming hr] at he
    cases he
    rfl
  obtain ⟨definitions, hreg, hmounts⟩ := hs.registered
  refine ⟨⟨_, .register hreg hr, by simp [hmounts]⟩, fun branch hb => ?_, fun endpoint' he' => ?_⟩
  · rcases List.mem_append.mp hb with hb | hb
    · exact hs.mounts branch hb
    · obtain rfl := List.mem_singleton.mp hb
      exact literal_of_hasBrace hmount
  · rcases List.mem_append.mp he' with he' | he'
    · exact hs.endpoints endpoint' he'
    · obtain rfl := List.mem_singleton.mp he'
      exact literal_of_hasBrace (hincoming ▸ hpath)

theorem sound_of_built (contract : RegistryContract) {assembly : ResourceAssembly R}
    (h : Built assembly) : Sound assembly := by
  induction h with
  | new mapping =>
    exact ⟨⟨[], .new, rfl⟩, by simp [ResourceAssembly.new], by simp [ResourceAssembly.new]⟩
  | named name _ ih => exact ⟨ih.registered, ih.mounts, ih.endpoints⟩
  | registered _ hr ih => exact sound_register contract ih hr

theorem Sound.apart (contract : RegistryContract) {assembly : ResourceAssembly R}
    (h : Sound assembly) :
    assembly.branches.Pairwise fun b b' => Apart '/' b.1.toList b'.1.toList := by
  obtain ⟨definitions, hreg, hmounts⟩ := h.registered
  have hpair : (definitions.map ResourceDefinition.incomingMount).Pairwise fun mount mount' =>
      Apart '/' mount.toList mount'.toList := List.pairwise_map.mpr (contract.apart hreg)
  rw [← hmounts] at hpair
  simpa only [List.pairwise_map] using hpair

end Registry

def MountCovers (mount path : String) : Prop := Covers '/' mount.toList path.toList

theorem slash_toList (mount : String) : (slash mount).toList = closed '/' mount.toList := by
  unfold slash closed
  have htest : "/".toList.isSuffixOf mount.toList = true ↔ mount.toList.getLast? = some '/' := by
    rw [List.isSuffixOf_iff_suffix]
    exact List.singleton_suffix_iff_getLast?_eq_some
  by_cases h : mount.toList.getLast? = some '/'
  · rw [if_pos (htest.mpr h), if_pos h]
  · rw [if_neg (fun hs => h (htest.mp hs)), if_neg h, String.toList_append]
    rfl

theorem mem_ordered (path : String) (paths : List String) :
    path ∈ ordered paths ↔ path ∈ paths := by
  simp [ordered]

theorem mem_mountPatterns (paths : List String) (mount path : String) :
    path ∈ mountPatterns paths mount ↔
      (path = mount ∨ path = slash mount ∨ path = slash mount ++ "{*rest}") ∧ path ∉ paths := by
  simp [mountPatterns, mem_ordered]

example : mountPatterns ["/app"] "/app" = ["/app/", "/app/{*rest}"] := by decide

theorem literal_slash {mount : String} (h : Literal mount) : Literal (slash mount) := by
  unfold Literal at h ⊢
  rw [slash_toList]
  unfold closed
  split
  · exact h
  · simpa using h

theorem not_literal_catchAll (mount : String) : ¬ Literal (mount ++ "{*rest}") := by
  simp [Literal]

theorem covers_of_literal {paths : List String} {mount path : String} (hl : Literal path)
    (h : path ∈ mountPatterns paths mount) : MountCovers mount path ∧ path ∉ paths := by
  rw [mem_mountPatterns] at h
  obtain ⟨rfl | rfl | rfl, hno⟩ := h
  · exact ⟨covers_self _, hno⟩
  · exact ⟨.inr (slash_toList mount ▸ List.prefix_rfl), hno⟩
  · exact absurd hl (not_literal_catchAll _)

theorem covers_of_rest {paths : List String} {mount lead path : String} (hm : Literal mount)
    (h : lead ++ "/{*rest}" ∈ mountPatterns paths mount) (hc : Continues lead path) :
    MountCovers mount path := by
  have hbrace : ∀ pattern, Literal pattern → lead ++ "/{*rest}" ≠ pattern := by
    rintro pattern hl rfl
    simp [Literal] at hl
  rw [mem_mountPatterns] at h
  rcases h.1 with heq | heq | heq
  · exact absurd heq (hbrace mount hm)
  · exact absurd heq (hbrace _ (literal_slash hm))
  · have hlead : (lead ++ "/").toList = closed '/' mount.toList := by
      have hlist := congrArg String.toList heq
      rw [String.toList_append, String.toList_append, slash_toList] at hlist
      have hsplit : "/{*rest}".toList = ['/'] ++ "{*rest}".toList := by decide
      rw [hsplit, ← List.append_assoc, List.append_cancel_right_eq] at hlist
      rw [String.toList_append, ← hlist]
      rfl
    obtain ⟨rest, -, hpath⟩ := hc
    exact .inr ⟨rest, by rw [hpath, hlead]⟩

theorem pattern_of_covers {mount path : String} (h : MountCovers mount path) :
    path = mount ∨ path = slash mount ∨
      ∃ lead, lead ++ "/{*rest}" = slash mount ++ "{*rest}" ∧ Continues lead path := by
  rcases (covers_iff mount.toList path.toList).mp h with h | h | ⟨rest, hne, h⟩
  · exact .inl (String.toList_injective h)
  · exact .inr (.inl (String.toList_injective (h.trans (slash_toList mount).symm)))
  · obtain ⟨lead, hlead⟩ := List.getLast?_eq_some_iff.mp (closed_last '/' mount.toList)
    refine .inr (.inr ⟨String.ofList lead, String.toList_injective ?_, rest, hne, ?_⟩)
    · simp [slash_toList, hlead]
    · rw [h, hlead]
      simp

section Selection

variable [ResourceRegistryCrate]

def OnMetadataPath (assembly : ResourceAssembly R) (path : String) : Prop :=
  ∃ endpoint ∈ assembly.endpoints, endpoint.incomingUri.path = path

theorem mem_paths (assembly : ResourceAssembly R) (path : String) :
    path ∈ assembly.paths ↔ OnMetadataPath assembly path := by
  simp [ResourceAssembly.paths, mem_ordered, OnMetadataPath]

theorem mem_registrations {assembly : ResourceAssembly R} {publisher : ResourceMetadataProxy C}
    {reg : PathRegistration (Route C R)} (h : reg ∈ assembly.registrations publisher) :
    (∃ branch ∈ assembly.branches,
      reg = ⟨mountPatterns assembly.paths branch.1, .any, .branch branch.2⟩) ∨
    ∃ path ∈ assembly.paths, reg = ⟨[path], .any, .metadata publisher⟩ := by
  rcases List.mem_append.mp h with h | h
  · obtain ⟨branch, hb, rfl⟩ := List.mem_map.mp h
    exact .inl ⟨branch, hb, rfl⟩
  · obtain ⟨path, hp, rfl⟩ := List.mem_map.mp h
    exact .inr ⟨path, hp, rfl⟩

theorem branch_registered {assembly : ResourceAssembly R} {branch : String × R}
    (h : branch ∈ assembly.branches) (publisher : ResourceMetadataProxy C) :
    ⟨mountPatterns assembly.paths branch.1, .any, .branch branch.2⟩ ∈
      assembly.registrations publisher :=
  List.mem_append_left _ (List.mem_map.mpr ⟨branch, h, rfl⟩)

inductive Answer (assembly : ResourceAssembly R) (publisher : ResourceMetadataProxy C)
    (fallback : R) (path : String) : Route C R → Prop where
  | metadata : OnMetadataPath assembly path →
      Answer assembly publisher fallback path (.metadata publisher)
  | branch {mount proxy} : ¬ OnMetadataPath assembly path → (mount, proxy) ∈ assembly.branches →
      MountCovers mount path → Answer assembly publisher fallback path (.branch proxy)
  | fallback : ¬ OnMetadataPath assembly path →
      (∀ branch ∈ assembly.branches, ¬ MountCovers branch.1 path) →
      Answer assembly publisher fallback path (.branch fallback)

variable {assembly : ResourceAssembly R} {publisher : ResourceMetadataProxy C} {fallback : R}
  {path : String} {route : Route C R}

theorem not_metadata_of_unnamed (hs : Sound assembly)
    (hno : ∀ reg ∈ assembly.registrations publisher, path ∈ reg.patterns → ¬ Literal path) :
    ¬ OnMetadataPath assembly path := by
  intro hm
  have hreg : ⟨[path], .any, .metadata publisher⟩ ∈ assembly.registrations publisher :=
    List.mem_append_right _ (List.mem_map.mpr ⟨path, (mem_paths assembly path).mpr hm, rfl⟩)
  obtain ⟨endpoint, he, rfl⟩ := hm
  exact hno _ hreg (List.mem_singleton.mpr rfl) (hs.endpoints endpoint he)

theorem reached_of_covers (hs : Sound assembly) (hm : ¬ OnMetadataPath assembly path)
    {branch : String × R} (hb : branch ∈ assembly.branches) (hc : MountCovers branch.1 path) :
    (path ∈ mountPatterns assembly.paths branch.1 ∧ Literal path) ∨
      ∃ lead, lead ++ "/{*rest}" ∈ mountPatterns assembly.paths branch.1 ∧ Continues lead path := by
  have hpath : path ∉ assembly.paths := fun h => hm ((mem_paths assembly path).mp h)
  have hmount := hs.mounts branch hb
  rcases pattern_of_covers hc with heq | heq | ⟨lead, heq, hcont⟩
  · exact .inl ⟨(mem_mountPatterns _ _ _).mpr ⟨.inl heq, hpath⟩, heq ▸ hmount⟩
  · exact .inl ⟨(mem_mountPatterns _ _ _).mpr ⟨.inr (.inl heq), hpath⟩, heq ▸ literal_slash hmount⟩
  · refine .inr ⟨lead, (mem_mountPatterns _ _ _).mpr ⟨.inr (.inr heq), fun h => ?_⟩, hcont⟩
    obtain ⟨endpoint, he, hep⟩ := (mem_paths assembly _).mp h
    exact not_literal_catchAll (slash branch.1) (heq ▸ hep ▸ hs.endpoints endpoint he)

theorem answer_of_selects (hs : Sound assembly)
    (h : Selects (.branch fallback) (assembly.registrations publisher) path route) :
    Answer assembly publisher fallback path route := by
  cases h with
  | literal hreg hpattern hl =>
    rcases mem_registrations hreg with ⟨branch, hb, rfl⟩ | ⟨path', hp, rfl⟩
    · obtain ⟨hc, hno⟩ := covers_of_literal hl hpattern
      exact .branch (fun hm => hno ((mem_paths assembly path).mpr hm)) hb hc
    · obtain rfl := List.mem_singleton.mp hpattern
      exact .metadata ((mem_paths assembly path).mp hp)
  | rest hno hreg hpattern hc =>
    have hm := not_metadata_of_unnamed hs hno
    rcases mem_registrations hreg with ⟨branch, hb, rfl⟩ | ⟨path', hp, rfl⟩
    · exact .branch hm hb (covers_of_rest (hs.mounts branch hb) hpattern hc)
    · obtain ⟨endpoint, he, hep⟩ := (mem_paths assembly path').mp hp
      have hl := hep ▸ hs.endpoints endpoint he
      rw [← List.mem_singleton.mp hpattern] at hl
      simp [Literal] at hl
  | fallback hno hrest =>
    have hm := not_metadata_of_unnamed hs hno
    refine .fallback hm fun branch hb hc => ?_
    rcases reached_of_covers hs hm hb hc with ⟨hpattern, hl⟩ | ⟨lead, hpattern, hcont⟩
    · exact hno _ (branch_registered hb publisher) hpattern hl
    · exact hrest _ (branch_registered hb publisher) lead hpattern hcont

structure Routed (assembly : ResourceAssembly R) (fallback : R) (path : String)
    (route : Route C R) : Prop where
  metadata : (∃ publisher, route = .metadata publisher) ↔ OnMetadataPath assembly path
  publisher : ∀ publisher, route = .metadata publisher →
    publisher = ⟨metadataNotFound, assembly.endpoints⟩
  branch : ¬ OnMetadataPath assembly path → ∀ mount proxy, (mount, proxy) ∈ assembly.branches →
    MountCovers mount path → route = .branch proxy
  fallback : ¬ OnMetadataPath assembly path →
    (∀ branch ∈ assembly.branches, ¬ MountCovers branch.1 path) → route = .branch fallback

theorem covered_once
    (apart : assembly.branches.Pairwise fun b b' => Apart '/' b.1.toList b'.1.toList)
    {b b' : String × R} (hb : b ∈ assembly.branches) (hb' : b' ∈ assembly.branches)
    (hc : MountCovers b.1 path) (hc' : MountCovers b'.1 path) : b = b' := by
  by_contra hne
  have hsymm : Std.Symm fun b b' : String × R => Apart '/' b.1.toList b'.1.toList :=
    ⟨fun _ _ h path hboth => h path hboth.symm⟩
  exact apart.forall hb hb' hne path.toList ⟨hc, hc'⟩

theorem branch_not_metadata (hm : ¬ OnMetadataPath assembly path) (proxy : R) :
    (∃ publisher, (.branch proxy : Route C R) = .metadata publisher) ↔
      OnMetadataPath assembly path := by
  refine iff_of_false ?_ hm
  rintro ⟨publisher, hp⟩
  cases hp

theorem routed_of_answer
    (apart : assembly.branches.Pairwise fun b b' => Apart '/' b.1.toList b'.1.toList)
    (h : Answer assembly ⟨metadataNotFound, assembly.endpoints⟩ fallback path route) :
    Routed assembly fallback path route := by
  cases h with
  | metadata hm =>
    constructor
    · exact ⟨fun _ => hm, fun _ => ⟨_, rfl⟩⟩
    · intro publisher hp
      cases hp
      rfl
    · intro hno
      exact absurd hm hno
    · intro hno
      exact absurd hm hno
  | @branch mount proxy hm hb hc =>
    constructor
    · exact branch_not_metadata hm _
    · intro publisher hp
      cases hp
    · intro _ mount' proxy' hb' hc'
      cases covered_once apart hb hb' hc hc'
      rfl
    · intro _ hno
      exact absurd hc (hno _ hb)
  | fallback hm hno =>
    constructor
    · exact branch_not_metadata hm _
    · intro publisher hp
      cases hp
    · intro _ mount proxy hb hc
      exact absurd hc (hno _ hb)
    · intro _ _
      rfl

theorem assemble_ok [RouteGuardCrate] {pathGuard : RouteGuardCrate.GuardConfig}
    {selector : ResourceSelector C R} (h : assembly.assemble fallback pathGuard = .ok selector) :
    RouteGuardCrate.fromRegistrations (.branch fallback) pathGuard
      (assembly.registrations ⟨metadataNotFound, assembly.endpoints⟩) = .ok selector.routes := by
  unfold ResourceAssembly.assemble at h
  cases hp : publishAll (ResourceMetadataProxy.new (metadataNotFound (C := C)))
      assembly.endpoints with
  | error e => simp [hp] at h
  | ok published =>
    have hpub : published = ⟨metadataNotFound, assembly.endpoints⟩ := by
      rw [publishAll_ok hp]
      rfl
    subst hpub
    simp only [hp] at h
    split at h
    · cases h
    · rename_i routes hroutes
      cases h
      exact hroutes

omit [ResourceRegistryCrate] in
theorem run_select (selector : ResourceSelector C R) (w : World C) :
    ((selector.select).run w).exit =
      match selector.routes.resolve w.session.reqHeader.uri.path w.session.reqHeader.method with
      | .error reason => .failed ⟨.httpStatus (resolveErrorStatus reason).code, reason.display⟩
      | .ok route => .done (some route) := by
  cases hr : selector.routes.resolve w.session.reqHeader.uri.path w.session.reqHeader.method <;>
    simp [ResourceSelector.select, hr]

theorem answer_of_resolve [RouteGuardCrate] (router : RouterContract) (hs : Sound assembly)
    {pathGuard : RouteGuardCrate.GuardConfig} {selector : ResourceSelector C R}
    (ha : assembly.assemble fallback pathGuard = .ok selector) {method : Method}
    (h : selector.routes.resolve path method = .ok route) :
    Answer assembly ⟨metadataNotFound, assembly.endpoints⟩ fallback path route := by
  have hall : ∀ reg ∈ assembly.registrations ⟨metadataNotFound (C := C), assembly.endpoints⟩,
      reg.method = .any := by
    intro reg hreg
    rcases mem_registrations hreg with ⟨_, _, rfl⟩ | ⟨_, _, rfl⟩ <;> rfl
  exact answer_of_selects hs (router _ _ _ _ (assemble_ok ha) hall path method route h)

structure RoutesExactly [HttpCrate] (assembly : ResourceAssembly R) (fallback : R)
    (selector : ResourceSelector C R) (w : World C) : Prop where
  denied : ∀ reason, selector.routes.resolve w.session.reqHeader.uri.path
      w.session.reqHeader.method = .error reason → ((selector.select).run w).exit =
    .failed ⟨.httpStatus (resolveErrorStatus reason).code, reason.display⟩
  accepted : ∀ route, selector.routes.resolve w.session.reqHeader.uri.path
      w.session.reqHeader.method = .ok route → ((selector.select).run w).exit = .done (some route) ∧
    Routed assembly fallback w.session.reqHeader.uri.path route
  once : ∀ b ∈ assembly.branches, ∀ b' ∈ assembly.branches,
    MountCovers b.1 w.session.reqHeader.uri.path →
      MountCovers b'.1 w.session.reqHeader.uri.path → b = b'
  /-- No endpoint of the path answers this query: the publisher ends the request. -/
  unknown : ∀ publisher, ((selector.select).run w).exit = .done (some (.metadata publisher)) →
    (∀ endpoint ∈ assembly.endpoints, endpoint.matchesUri w.session.reqHeader.uri = false) →
    (publisher.requestFilter).run w = (metadataNotFound).run w

/-- An assembled router exempts the metadata paths and nothing else. -/
theorem assembly_routes_exactly [RouteGuardCrate] [HttpCrate] (router : RouterContract)
    (registry : RegistryContract) {assembly : ResourceAssembly R} (hb : Built assembly)
    {fallback : R} {pathGuard : RouteGuardCrate.GuardConfig} {selector : ResourceSelector C R}
    (ha : assembly.assemble fallback pathGuard = .ok selector) (w : World C) :
    RoutesExactly assembly fallback selector w := by
  have hs := sound_of_built registry hb
  have hapart := hs.apart registry
  have hrouted : ∀ route, selector.routes.resolve w.session.reqHeader.uri.path
      w.session.reqHeader.method = .ok route →
      Routed assembly fallback w.session.reqHeader.uri.path route := by
    intro route hr
    exact routed_of_answer hapart (answer_of_resolve router hs ha hr)
  have hselect := run_select selector w
  constructor
  · intro reason hr
    rw [hselect, hr]
  · intro route hr
    refine ⟨?_, hrouted route hr⟩
    rw [hselect, hr]
  · intro b hb b' hb' hc hc'
    exact covered_once hapart hb hb' hc hc'
  · intro publisher hexit hno
    rw [hselect] at hexit
    split at hexit
    · cases hexit
    · rename_i route hr
      cases hexit
      rw [(hrouted _ hr).publisher publisher rfl]
      have hfind : assembly.endpoints.find?
          (fun endpoint => endpoint.matchesUri w.session.reqHeader.uri) = none :=
        List.find?_eq_none.mpr fun endpoint he => by simp [hno endpoint he]
      simp [ResourceMetadataProxy.requestFilter, hfind]

end Selection

section Reference

def reachedBy (path pattern : String) : Bool :=
  let lead := pattern.toList.take (pattern.toList.length - 7)
  decide (pattern.toList = lead ++ "{*rest}".toList) && decide (lead.getLast? = some '/') &&
    lead.isPrefixOf path.toList && decide (lead.length < path.toList.length)

theorem reachedBy_iff (path pattern : String) : reachedBy path pattern = true ↔
    ∃ mount, pattern = mount ++ "/{*rest}" ∧ Continues mount path := by
  simp only [reachedBy, Bool.and_eq_true, decide_eq_true_eq, List.isPrefixOf_iff_prefix]
  constructor
  · rintro ⟨⟨⟨hpattern, hlast⟩, rest, hrest⟩, hlength⟩
    obtain ⟨lead, hlead⟩ := List.getLast?_eq_some_iff.mp hlast
    rw [hlead] at hpattern hrest hlength
    refine ⟨String.ofList lead, String.toList_injective (by simp [hpattern]), rest, ?_,
      by simp [← hrest]⟩
    rintro rfl
    simp [← hrest] at hlength
  · rintro ⟨mount, rfl, rest, hne, hpath⟩
    have hsplit : (mount ++ "/{*rest}").toList = (mount.toList ++ ['/']) ++ "{*rest}".toList := by
      simp
    have hlength : (mount ++ "/{*rest}").toList.length - 7 = (mount.toList ++ ['/']).length := by
      simp
    rw [hlength, hsplit, List.take_left, hpath]
    simp [List.length_pos_iff.mpr hne]

/-- Serves absolute paths, by literal patterns first and then by catch-all ones. -/
def referenceResolve (fallback : R) (registrations : List (PathRegistration R)) (path : String) :
    Except ResolveError R :=
  if path.toList.head? = some '/' then
    match registrations.find? fun reg =>
        !path.toList.contains '{' && reg.patterns.contains path with
    | some reg => .ok reg.rule
    | none =>
      match registrations.find? fun reg => reg.patterns.any (reachedBy path) with
      | some reg => .ok reg.rule
      | none => .ok fallback
  else .error ⟨.invalidInput, "invalid path", "invalid path"⟩

theorem referenceResolve_selects {fallback rule : R} {registrations : List (PathRegistration R)}
    {path : String} (h : referenceResolve fallback registrations path = .ok rule) :
    Selects fallback registrations path rule := by
  unfold referenceResolve at h
  split at h
  swap
  · cases h
  split at h
  · rename_i reg hfind
    cases h
    have hp := List.find?_some hfind
    simp only [Bool.and_eq_true, Bool.not_eq_true', List.contains_eq_mem, decide_eq_false_iff_not,
      decide_eq_true_eq] at hp
    exact .literal (List.mem_of_find?_eq_some hfind) hp.2 hp.1
  · rename_i hnone
    have hno : ∀ reg ∈ registrations, path ∈ reg.patterns → ¬ Literal path := by
      intro reg hreg hpattern hl
      have hfalse := List.find?_eq_none.mp hnone reg hreg
      have hl' : '{' ∉ path.toList := hl
      simp [hpattern, hl'] at hfalse
    split at h
    · rename_i reg hfind
      cases h
      have hfound := List.find?_some hfind
      obtain ⟨pattern, hpattern, hreached⟩ := List.any_eq_true.mp hfound
      obtain ⟨mount, rfl, hc⟩ := (reachedBy_iff path pattern).mp hreached
      exact .rest hno (List.mem_of_find?_eq_some hfind) hpattern hc
    · rename_i hrest
      cases h
      refine .fallback hno fun reg hreg mount hpattern hc => ?_
      have hfalse := List.find?_eq_none.mp hrest reg hreg
      exact hfalse (List.any_eq_true.mpr ⟨_, hpattern, (reachedBy_iff _ _).mpr ⟨mount, rfl, hc⟩⟩)

@[reducible] def referenceGuard : RouteGuardCrate where
  GuardConfig := Unit
  fromRegistrations fallback _ registrations :=
    .ok ⟨fun path _ => referenceResolve fallback registrations path⟩

local instance : RouteGuardCrate := referenceGuard

theorem reference_router : RouterContract := by
  intro R fallback pathGuard registrations router hrouter _ path method rule h
  cases hrouter
  exact referenceResolve_selects h

/-- Takes any definitions whose mounts are apart. -/
@[reducible] def referenceRegistry : ResourceRegistryCrate where
  Registry := List ResourceDefinition
  new := []
  register accepted definition mapping :=
    if ∀ other ∈ accepted, Apart '/' other.incomingMount.toList definition.incomingMount.toList then
      match mapping.incomingUri definition.metadataUri with
      | none => .error .mapping
      | some incoming => .ok (accepted ++ [definition], incoming)
    else .error (.other "overlap")

local instance : ResourceRegistryCrate := referenceRegistry

theorem reference_register {accepted accepted' : List ResourceDefinition}
    {definition : ResourceDefinition} {mapping : PublicUrlMapping} {incoming : Uri}
    (h : ResourceRegistryCrate.register accepted definition mapping = .ok (accepted', incoming)) :
    (∀ other ∈ accepted, Apart '/' other.incomingMount.toList definition.incomingMount.toList) ∧
      accepted' = accepted ++ [definition] ∧
      mapping.incomingUri definition.metadataUri = some incoming := by
  simp only [ResourceRegistryCrate.register] at h
  split at h
  · rename_i hapart
    split at h
    · cases h
    · rename_i uri huri
      cases h
      exact ⟨hapart, rfl, huri⟩
  · cases h

theorem reference_registry : RegistryContract := by
  have hkept : ∀ {accepted : List ResourceDefinition} {definitions},
      Registered accepted definitions → accepted = definitions ∧ definitions.Pairwise
        fun d d' => Apart '/' d.incomingMount.toList d'.incomingMount.toList := by
    intro accepted definitions h
    induction h with
    | new => exact ⟨rfl, .nil⟩
    | register _ hr ih =>
      obtain ⟨hapart, rfl, -⟩ := reference_register hr
      obtain ⟨rfl, hpair⟩ := ih
      refine ⟨rfl, List.pairwise_append.mpr ⟨hpair, List.pairwise_singleton _ _, ?_⟩⟩
      intro other hother definition hdefinition
      obtain rfl := List.mem_singleton.mp hdefinition
      exact hapart other hother
  exact ⟨fun h => (hkept h).2, fun hr => (reference_register hr).2.2⟩

def directMapping : PublicUrlMapping where
  publicUrl uri := some { uri with scheme := some "https", authority := some "api.example.com" }
  incomingUri uri := some { uri with scheme := none, authority := none }

def namedDefinition (path : String) : ResourceDefinition where
  resource := "https://api.example.com" ++ path
  audiences := ["https://api.example.com" ++ path]
  mapping := directMapping
  incomingMount := path
  metadataUri := ⟨some "https", some "api.example.com",
    some ⟨"/.well-known/oauth-protected-resource" ++ path, none⟩⟩

def namedBound (path proxy : String) : BoundResource String where
  definition := namedDefinition path
  proxy := proxy
  metadata := ⟨⟨some "https", some "api.example.com", some ⟨path, none⟩⟩,
    "https://api.example.com", (namedDefinition path).metadataUri,
    (namedDefinition path).metadataUri, [123, 125]⟩
  canonical := rfl

def namedEndpoint (path : String) : ResourceMetadataEndpoint :=
  { (namedBound path path).metadata with incomingUri :=
    ⟨none, none, some ⟨"/.well-known/oauth-protected-resource" ++ path, none⟩⟩ }

/-- Neither mount covers the other, though one name continues the other. -/
def appAssembly : ResourceAssembly String where
  registry := [namedDefinition "/app", namedDefinition "/apps"]
  metadataMapping := directMapping
  branches := [("/app", "app"), ("/apps", "apps")]
  endpoints := [namedEndpoint "/app", namedEndpoint "/apps"]
  metricsName := none

theorem appAssembly_built : Built appAssembly := by
  obtain ⟨assembly, happ, happs⟩ : ∃ assembly,
      (ResourceAssembly.new directMapping).registerBound (namedBound "/app" "app") =
        .ok assembly ∧
      assembly.registerBound (namedBound "/apps" "apps") = .ok appAssembly := ⟨_, rfl, rfl⟩
  exact .registered (.registered (.new directMapping) happ) happs

def appRequest (path : String) : World Unit where
  session := ⟨⟨.get, ⟨none, none, some ⟨path, none⟩⟩, []⟩, none, none, .ready (.ok ()),
    .ready (.ok ())⟩
  auth := ⟨none, none, true⟩
  upstream := ⟨.get, ⟨none, none, none⟩, []⟩
  response := .build .ok

local instance : HttpCrate := ⟨fun text => some ⟨text⟩, fun _ => none⟩

theorem assembly_routes_exactly_app : ∃ selector : ResourceSelector Unit String,
    ((selector.select).run (appRequest "/app/items")).exit = .done (some (.branch "app")) ∧
      RoutesExactly appAssembly "fallback" selector (appRequest "/app/items") := by
  obtain ⟨selector, hselector, hexit⟩ : ∃ selector : ResourceSelector Unit String,
      appAssembly.assemble "fallback" () = .ok selector ∧
        ((selector.select).run (appRequest "/app/items")).exit = .done (some (.branch "app")) :=
    ⟨_, rfl, rfl⟩
  exact ⟨selector, hexit, assembly_routes_exactly reference_router reference_registry
    appAssembly_built hselector (appRequest "/app/items")⟩

end Reference

end AssemblyRouting
