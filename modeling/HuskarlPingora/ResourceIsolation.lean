import HuskarlPingora.BoundaryAgreement

/-! # Isolation of resources by path segments

The boundary test compares paths segment by segment, so resources that are not nested
share no public path. Requests are rewritten to public paths by the mapping of each
resource, and only resources with one mapping share no request either. -/
namespace ResourceIsolation

open HttpModel RouteResolution ResourceRules ResourceErrors ResourceContext ResourceGuard
open ResourceProxy ResourceEffects ResourceBoundary MetadataPublisher ResourceBinding
open AssemblyRouting BoundaryAgreement SlashPaths TracedHooks

variable {C C' : Type}

def segs (path : String) : List (List Char) := (path.toList.drop 1).splitOn '/'

/-- A resource path that ends in `/` asks for one more segment than it names. -/
def UnderSegments (resourcePath requestPath : String) : Prop :=
  if resourcePath.toList.getLast? = some '/' then
    (segs resourcePath).dropLast <+: segs requestPath ∧
      (segs resourcePath).length ≤ (segs requestPath).length
  else segs resourcePath <+: segs requestPath

def Nested (resourcePath resourcePath' : String) : Prop :=
  resourcePathMatches resourcePath resourcePath' = true ∨
    resourcePathMatches resourcePath' resourcePath = true

def Accepts (proxy : ProtectedResourceProxy C) (w : World C) : Prop := ∃ uri, Inside proxy w uri

/-- A bound resource as its builder returned it. -/
def Constructed [HttpCrate] (bound : BoundResource (ProtectedResourceProxy C)) : Prop :=
  ∃ validator policy inner errorBody,
    BoundResource.build bound.definition validator policy inner errorBody = .ok bound

theorem splitOn_rooted {path : String} (h : Rooted path) :
    path.toList.splitOn '/' = [] :: segs path := by
  obtain ⟨rest, hrest⟩ := List.head?_eq_some_iff.mp h
  rw [segs, hrest]
  exact List.splitOn_append_cons_self [] rest

theorem underSegments_iff {resourcePath requestPath : String} (hr : Rooted resourcePath)
    (hp : Rooted requestPath) :
    UnderSegments resourcePath requestPath ↔ MountCovers resourcePath requestPath := by
  have hne : segs resourcePath ≠ [] := List.splitOn_ne_nil '/' _
  unfold MountCovers UnderSegments
  rw [covers_iff_splitOn, splitOn_rooted hr, splitOn_rooted hp,
    List.dropLast_cons_of_ne_nil hne, List.prefix_cons_inj, List.prefix_cons_inj]
  simp

theorem matches_segments {resourcePath requestPath : String} (hr : Rooted resourcePath)
    (hp : Rooted requestPath) :
    resourcePathMatches resourcePath requestPath = true ↔
      UnderSegments resourcePath requestPath := by
  rw [underSegments_iff hr hp]
  exact resourcePathMatches_absolute resourcePath fun _ => hp

theorem matches_self (path : String) : resourcePathMatches path path = true :=
  (resourcePathMatches_iff path path).mpr (.inr (covers_self _))

theorem matches_trans {path path' path'' : String} (hr : Rooted path') (hp : Rooted path'')
    (h : resourcePathMatches path path' = true) (h' : resourcePathMatches path' path'' = true) :
    resourcePathMatches path path'' = true := by
  rw [resourcePathMatches_absolute _ fun _ => hr] at h
  rw [resourcePathMatches_absolute _ fun _ => hp] at h' ⊢
  exact covers_trans h h'

/-- The root is nested with every resource, and two others that share a path are nested. -/
theorem nested_of_shared {resourcePath resourcePath' requestPath : String}
    (h : resourcePathMatches resourcePath requestPath = true)
    (h' : resourcePathMatches resourcePath' requestPath = true) :
    Nested resourcePath resourcePath' := by
  unfold Nested
  rw [resourcePathMatches_iff] at h h' ⊢
  rw [resourcePathMatches_iff]
  rcases h with hroot | h
  · exact .inl (.inl hroot)
  · rcases h' with hroot | h'
    · exact .inr (.inl hroot)
    · rcases covers_comparable h h' with hc | hc
      · exact .inl (.inr hc)
      · exact .inr (.inr hc)

theorem distinct_public_paths {proxy : ProtectedResourceProxy C}
    {proxy' : ProtectedResourceProxy C'} (hn : ¬ Nested proxy.resourcePath proxy'.resourcePath)
    {w : World C} {w' : World C'} {uri uri' : Uri} (h : Inside proxy w uri)
    (h' : Inside proxy' w' uri') : uri.path ≠ uri'.path := by
  intro hpath
  have hcovered := h'.covered
  rw [← hpath] at hcovered
  exact hn (nested_of_shared h.covered hcovered)

/-- Resources that are not nested tell requests apart by their public path. -/
structure BoundaryIsolates [HttpCrate] : Prop where
  segments : ∀ resourcePath requestPath, Rooted resourcePath → Rooted requestPath →
    (resourcePathMatches resourcePath requestPath = true ↔ UnderSegments resourcePath requestPath)
  root : ∀ path, Rooted path → UnderSegments "/" path
  refl : ∀ path, resourcePathMatches path path = true
  trans : ∀ path path' path'', Rooted path → Rooted path' → Rooted path'' →
    resourcePathMatches path path' = true → resourcePathMatches path' path'' = true →
      resourcePathMatches path path'' = true
  isolated : ∀ resourcePath resourcePath', ¬ Nested resourcePath resourcePath' → ∀ path,
    ¬ (resourcePathMatches resourcePath path = true ∧ resourcePathMatches resourcePath' path = true)
  /-- Whatever requests two of them accept, the public paths differ. -/
  distinct : ∀ {C C' : Type} (bound : BoundResource (ProtectedResourceProxy C))
    (bound' : BoundResource (ProtectedResourceProxy C')), Constructed bound → Constructed bound' →
    ¬ Nested bound.proxy.resourcePath bound'.proxy.resourcePath → ∀ w w' uri uri',
      Inside bound.proxy w uri → Inside bound'.proxy w' uri' → uri.path ≠ uri'.path
  /-- Under one mapping they accept no request in common. -/
  disjoint : ∀ {C C' : Type} (bound : BoundResource (ProtectedResourceProxy C))
    (bound' : BoundResource (ProtectedResourceProxy C')), Constructed bound → Constructed bound' →
    bound.definition.mapping = bound'.definition.mapping →
    ¬ Nested bound.proxy.resourcePath bound'.proxy.resourcePath → ∀ (w : World C) (w' : World C'),
      w.session = w'.session → ¬ (Accepts bound.proxy w ∧ Accepts bound'.proxy w')

/-- The boundary test is a prefix test on segments, and isolates resources. -/
theorem resource_boundary_isolates [HttpCrate] : BoundaryIsolates where
  segments _ _ hr hp := matches_segments hr hp
  root path hp := by
    have hslash : Rooted "/" := rfl
    rw [← matches_segments hslash hp, resourcePathMatches_iff]
    exact .inl rfl
  refl := matches_self
  trans _ _ _ _ hr hp := matches_trans hr hp
  isolated _ _ hn _ h := hn (nested_of_shared h.1 h.2)
  distinct _ _ _ _ hn _ _ _ _ := distinct_public_paths hn
  disjoint := by
    rintro C C' bound bound' ⟨_, _, _, _, hbuild⟩ ⟨_, _, _, _, hbuild'⟩ hmapping hn w w' hsession
      ⟨⟨uri, hi⟩, uri', hi'⟩
    have hbound := (build_bound hbuild).2.mapping
    have hbound' := (build_bound hbuild').2.mapping
    have hpublic := hi'.reconstructed
    rw [publicUri, effectiveRequestUri, hbound', ← hmapping, ← hsession] at hpublic
    have hpublic' := hi.reconstructed
    rw [publicUri, effectiveRequestUri, hbound] at hpublic'
    obtain rfl : uri = uri' := Option.some.inj (hpublic'.symm.trans hpublic)
    exact distinct_public_paths hn hi hi' rfl

section Listener

local instance : ResourceServerLib := ⟨none, .client .insufficientScope "insufficient scope"⟩

local instance : HttpCrate where
  headerValue text := some ⟨text⟩
  parseUri text :=
    if "https://api.example.com".toList.isPrefixOf text.toList then
      some ⟨some "https", some "api.example.com", some ⟨String.ofList (text.toList.drop 23), none⟩⟩
    else none

def listenerMapping (directory : String) : PublicUrlMapping where
  publicUrl uri :=
    if "/".toList.isPrefixOf uri.path.toList then
      some ⟨some "https", some "api.example.com", some
        ⟨directory ++ uri.path, uri.pathAndQuery.bind PathAndQuery.query⟩⟩
    else none
  incomingUri uri := some { uri with scheme := none, authority := none }

def listenerDefinition (directory : String) : ResourceDefinition where
  resource := "https://api.example.com" ++ directory ++ "/app"
  audiences := ["https://api.example.com" ++ directory ++ "/app"]
  mapping := listenerMapping directory
  incomingMount := "/app"
  metadataUri := ⟨some "https", some "api.example.com",
    some ⟨"/.well-known/oauth-protected-resource" ++ directory ++ "/app", none⟩⟩

def publicPolicy : ResourcePolicy Rfc9068AccessTokenClaims where
  routes := ⟨fun _ _ => .ok .public⟩
  scopesSupported := []
  metricsName := none

def listenerRequest : World Rfc9068AccessTokenClaims where
  session := ⟨⟨.get, ⟨none, none, some ⟨"/app/items", none⟩⟩, []⟩, none, none, .ready (.ok ()),
    .ready (.ok ())⟩
  auth := ⟨none, none, true⟩
  upstream := ⟨.get, ⟨none, none, none⟩, []⟩
  response := .build .ok

/-- Both resources accept and forward one request, although neither path is under the
other: each sees the request under its own public path. -/
theorem listener_request_shared : ∃ bound bound',
    BoundResource.build (listenerDefinition "/gateway") gatewayValidator publicPolicy .idle
      (fun _ => ⟨[], none⟩) = .ok bound ∧
    BoundResource.build (listenerDefinition "/portal") gatewayValidator publicPolicy .idle
      (fun _ => ⟨[], none⟩) = .ok bound' ∧
    ¬ Nested bound.proxy.resourcePath bound'.proxy.resourcePath ∧
    (Accepts bound.proxy listenerRequest ∧ Accepts bound'.proxy listenerRequest) ∧
    (∃ seen, seen ∈ enteredBy ((bound.proxy.requestFilter).run listenerRequest).events) ∧
    ∃ seen, seen ∈ enteredBy ((bound'.proxy.requestFilter).run listenerRequest).events := by
  refine ⟨_, _, rfl, rfl, ?_, ⟨⟨_, rfl, ?_⟩, ⟨_, rfl, ?_⟩⟩, ?_, ?_⟩
  · unfold Nested
    decide
  · decide
  · decide
  · exact ⟨⟨none, none, true⟩, List.mem_cons_self⟩
  · exact ⟨⟨none, none, true⟩, List.mem_cons_self⟩

end Listener

end ResourceIsolation
