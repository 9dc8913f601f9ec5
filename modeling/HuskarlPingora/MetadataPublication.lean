import HuskarlPingora.KeyedRegistry
import HuskarlPingora.MetadataPublisher

/-! # Publication does not depend on the order

The published endpoints are a registry keyed by path and query, in the group of one
origin. Each request meets at most one of them. -/
namespace MetadataPublication

open HttpModel ResourceContext ResourceGuard ResourceResponse MetadataPublisher KeyedRegistry
open TracedHooks

variable {C : Type}

abbrev Publishable (endpoints : List ResourceMetadataEndpoint) : Prop :=
  Coherent ResourceMetadataEndpoint.resourceOrigin ResourceMetadataEndpoint.pathAndQuery endpoints

theorem publish_ok_iff {proxy : ResourceMetadataProxy C} {endpoint : ResourceMetadataEndpoint}
    (h : Publishable proxy.endpoints) :
    (∃ proxy', proxy.publish endpoint = .ok proxy') ↔
      Publishable (proxy.endpoints ++ [endpoint]) := by
  refine Iff.trans ?_ (coherent_concat h).symm
  unfold ResourceMetadataProxy.publish
  cases hhead : proxy.endpoints.head? with
  | none =>
    have hnil : proxy.endpoints = [] := List.head?_eq_none_iff.mp hhead
    simp [hnil]
  | some first =>
    by_cases horigin : first.resourceOrigin = endpoint.resourceOrigin
    · by_cases hany : proxy.endpoints.any fun e => e.pathAndQuery = endpoint.pathAndQuery
      · simp only [Option.filter, horigin, hany]
        simpa [horigin] using hany
      · simp only [Option.filter, horigin, hany]
        simpa [horigin] using hany
    · simp [Option.filter, horigin]

theorem publishAll_ok_iff {proxy : ResourceMetadataProxy C} (h : Publishable proxy.endpoints)
    (endpoints : List ResourceMetadataEndpoint) :
    (∃ proxy', publishAll proxy endpoints = .ok proxy') ↔
      Publishable (proxy.endpoints ++ endpoints) := by
  induction endpoints generalizing proxy with
  | nil => simpa [publishAll] using h
  | cons endpoint rest ih =>
    have hsplit : proxy.endpoints ++ endpoint :: rest = proxy.endpoints ++ [endpoint] ++ rest := by
      simp
    rw [hsplit]
    constructor
    · rintro ⟨proxy', hall⟩
      obtain ⟨published, hp, hrest⟩ := bind_ok hall
      have hstep := (publish_ok_iff h).mp ⟨published, hp⟩
      rw [publish_ok hp] at hrest
      exact (@ih { proxy with endpoints := proxy.endpoints ++ [endpoint] } hstep).mp
        ⟨proxy', hrest⟩
    · intro hall
      obtain ⟨published, hp⟩ := (publish_ok_iff h).mpr hall.of_append
      obtain ⟨proxy', hrest⟩ := (@ih published (publish_ok hp ▸ hall.of_append)).mpr
        (publish_ok hp ▸ hall)
      exact ⟨proxy', by simp [publishAll, hp, bind, Except.bind, hrest]⟩

theorem matches_selects (uri : Uri) : Selects ResourceMetadataEndpoint.pathAndQuery
    fun endpoint => endpoint.matchesUri uri := by
  intro a b ha hb
  simp only [ResourceMetadataEndpoint.matchesUri, decide_eq_true_eq] at ha hb
  exact ha.symm.trans hb

@[simp] theorem publication_body (endpoint : ResourceMetadataEndpoint) :
    endpoint.publication.body = endpoint.body := rfl

/-- The answer to a request that an endpoint matches. -/
structure Serves (publication : ResourcePublication) (w : World C)
    (r : Ran Error (World C) (Event C) Bool) : Prop where
  status : (metadataHeader publication.body).status = .ok
  length : (metadataHeader publication.body).getAll contentLengthName =
    [⟨toString publication.body.length⟩]
  get : w.session.reqHeader.method = .get →
    Sent (metadataHeader publication.body) true publication.body true w r
  head : w.session.reqHeader.method = .head →
    Sent (metadataHeader publication.body) false [] true w r
  other : w.session.reqHeader.method ≠ .get → w.session.reqHeader.method ≠ .head →
    ∃ header, header.status = .methodNotAllowed ∧ Sent header false [] true w r

theorem write_bodyless (header : ResponseHeader) (body : Bytes) (w : World C) :
    (write header false body).run w = (writeResponseHeader header true).run w := by
  cases hw : w.session.writeHeader with
  | dropped => simp [write, writeResponseHeader, hw]
  | ready result => cases result <;> simp [write, writeResponseHeader, hw]

section Filter

variable [HttpCrate]

def answer (endpoint : ResourceMetadataEndpoint) (method : Method) : ResourceHook C Bool := do
  if method = .get || method = .head then
    writeResourceMetadataResponse endpoint.body (decide (method = .get))
  else writeMethodNotAllowed "GET, HEAD"
  return true

theorem run_requestFilter (proxy : ResourceMetadataProxy C) (w : World C) :
    proxy.requestFilter.run w =
      match proxy.endpoints.find? fun e => e.matchesUri w.session.reqHeader.uri with
      | some endpoint => (answer endpoint w.session.reqHeader.method).run w
      | none => proxy.inner.run w := by
  unfold ResourceMetadataProxy.requestFilter
  rw [run_bind, run_read, andThen_done, after_nil]
  cases hfind : proxy.endpoints.find? fun e => e.matchesUri w.session.reqHeader.uri with
  | none => simp only [hfind]
  | some endpoint =>
    simp only [hfind]
    rfl

theorem answer_serves (hallow : HttpCrate.headerValue "GET, HEAD" = some ⟨"GET, HEAD"⟩)
    (endpoint : ResourceMetadataEndpoint) (w : World C) :
    Serves endpoint.publication w ((answer endpoint w.session.reqHeader.method).run w) := by
  refine ⟨rfl, ?_, ?_, ?_, ?_⟩
  · rw [metadataHeader, ResponseHeader.getAll_insertHeader_ne _ _ (by decide),
      ResponseHeader.getAll_insertHeader_self, publication_body]
  · intro hm
    have hsent := sent_write_returning (metadataHeader endpoint.body) true endpoint.body w true
    simpa [answer, hm, writeResourceMetadataResponse] using hsent
  · intro hm
    have hsent := sent_write_returning (metadataHeader endpoint.body) false [] w true
    rw [write_bodyless, ← write_bodyless _ endpoint.body] at hsent
    simpa [answer, hm, writeResourceMetadataResponse] using hsent
  · intro hget hhead
    obtain ⟨header, hheader⟩ := methodNotAllowedHeader_total (Option.isSome_of_eq_some hallow)
    refine ⟨header, ?_, ?_⟩
    · obtain ⟨value, -, hbuilt⟩ := bind_ok hheader
      cases hbuilt
      rfl
    · have hsent := sent_write_returning header false [] w true
      rw [write_bodyless] at hsent
      simpa [answer, hget, hhead, writeMethodNotAllowed, hheader] using hsent

/-- Only the dispatch URI of a mapped endpoint is new. -/
structure Remapped (endpoint : ResourceMetadataEndpoint) (mapping : PublicUrlMapping) : Prop where
  fails : endpoint.withMapping mapping = none ↔ mapping.incomingUri endpoint.uri = none
  incoming : ∀ mapped, endpoint.withMapping mapping = some mapped →
    mapping.incomingUri endpoint.uri = some mapped.incomingUri
  resource : ∀ mapped, endpoint.withMapping mapping = some mapped →
    mapped.resource = endpoint.resource
  origin : ∀ mapped, endpoint.withMapping mapping = some mapped →
    mapped.resourceOrigin = endpoint.resourceOrigin
  uri : ∀ mapped, endpoint.withMapping mapping = some mapped → mapped.uri = endpoint.uri
  publication : ∀ mapped, endpoint.withMapping mapping = some mapped →
    mapped.publication = endpoint.publication

omit [HttpCrate] in
theorem withMapping_remaps (endpoint : ResourceMetadataEndpoint) (mapping : PublicUrlMapping) :
    Remapped endpoint mapping := by
  cases hm : mapping.incomingUri endpoint.endpointUri with
  | none =>
    have hnone : endpoint.withMapping mapping = none := by
      simp [ResourceMetadataEndpoint.withMapping, hm]
    constructor <;> simp [hnone, ResourceMetadataEndpoint.uri, hm]
  | some incoming =>
    have hsome : endpoint.withMapping mapping = some { endpoint with incomingUri := incoming } := by
      simp [ResourceMetadataEndpoint.withMapping, hm]
    constructor
    · simp [hsome, ResourceMetadataEndpoint.uri, hm]
    all_goals
      intro mapped hmapped
      obtain rfl := Option.some.inj (hsome.symm.trans hmapped)
    · exact hm
    all_goals rfl

/-- What a publisher over these endpoints does, in whichever order they were published. -/
structure Published (inner : ResourceHook C Bool) (endpoints : List ResourceMetadataEndpoint) :
    Prop where
  accepted : ∀ listed, listed.Perm endpoints →
    ((∃ proxy, publishAll (.new inner) listed = .ok proxy) ↔ Publishable endpoints)
  single : ∀ listed proxy, listed.Perm endpoints → publishAll (.new inner) listed = .ok proxy →
    ∀ uri, (proxy.endpoints.filter fun e => e.matchesUri uri).length ≤ 1
  alike : ∀ listed listed' proxy proxy', listed.Perm endpoints → listed'.Perm endpoints →
    publishAll (.new inner) listed = .ok proxy → publishAll (.new inner) listed' = .ok proxy' →
      ∀ w, proxy.requestFilter.run w = proxy'.requestFilter.run w
  serves : ∀ listed proxy, listed.Perm endpoints → publishAll (.new inner) listed = .ok proxy →
    ∀ endpoint ∈ endpoints, ∀ w, endpoint.matchesUri w.session.reqHeader.uri = true →
      Serves endpoint.publication w (proxy.requestFilter.run w)
  /-- Any other inner hook would make no difference to a matching request. -/
  unentered : ∀ listed proxy, listed.Perm endpoints →
    publishAll (.new inner) listed = .ok proxy → ∀ endpoint ∈ endpoints, ∀ w,
      endpoint.matchesUri w.session.reqHeader.uri = true → ∀ inner' : ResourceHook C Bool,
        ({ proxy with inner := inner' }).requestFilter.run w = proxy.requestFilter.run w
  passes : ∀ listed proxy, listed.Perm endpoints → publishAll (.new inner) listed = .ok proxy →
    ∀ w, (∀ endpoint ∈ endpoints, endpoint.matchesUri w.session.reqHeader.uri = false) →
      proxy.requestFilter.run w = inner.run w
  remapped : ∀ endpoint mapping, Remapped endpoint mapping

section Orders

variable {inner : ResourceHook C Bool} {endpoints listed : List ResourceMetadataEndpoint}
  {proxy : ResourceMetadataProxy C}

omit [HttpCrate] in
theorem published_proxy (h : publishAll (.new inner) listed = .ok proxy) :
    proxy = ⟨inner, listed⟩ := by
  simpa [ResourceMetadataProxy.new] using publishAll_ok h

omit [HttpCrate] in
theorem published_coherent (hp : listed.Perm endpoints)
    (h : publishAll (.new inner) listed = .ok proxy) : Publishable endpoints := by
  have hiff := @publishAll_ok_iff C (.new inner) coherent_nil listed
  exact Coherent.perm hp (hiff.mp ⟨proxy, h⟩)

theorem run_matched (hp : listed.Perm endpoints) (h : publishAll (.new inner) listed = .ok proxy)
    {endpoint : ResourceMetadataEndpoint} (hmem : endpoint ∈ endpoints) {w : World C}
    (hm : endpoint.matchesUri w.session.reqHeader.uri = true) (inner' : ResourceHook C Bool) :
    ({ proxy with inner := inner' }).requestFilter.run w =
      (answer endpoint w.session.reqHeader.method).run w := by
  have hcoherent : Publishable listed := (published_coherent hp h).perm hp.symm
  have hfind := hcoherent.find_eq (matches_selects w.session.reqHeader.uri)
    (hp.mem_iff.mpr hmem) hm
  rw [published_proxy h, run_requestFilter]
  simp only [hfind]

/-- Publication succeeds in every order or in none, and every order that succeeds answers
each request alike. -/
theorem publication_order_independent (inner : ResourceHook C Bool)
    (endpoints : List ResourceMetadataEndpoint)
    (hallow : HttpCrate.headerValue "GET, HEAD" = some ⟨"GET, HEAD"⟩) :
    Published inner endpoints := by
  constructor
  · intro listed hp
    have hiff := @publishAll_ok_iff C (.new inner) coherent_nil listed
    exact hiff.trans (coherent_perm hp)
  · intro listed proxy hp h uri
    have hcoherent : Publishable listed := (published_coherent hp h).perm hp.symm
    rw [published_proxy h]
    exact hcoherent.filter_le (matches_selects uri)
  · intro listed listed' proxy proxy' hp hp' h h' w
    have hcoherent : Publishable listed := (published_coherent hp h).perm hp.symm
    have hfind := hcoherent.find_perm (matches_selects w.session.reqHeader.uri)
      (hp.trans hp'.symm)
    rw [published_proxy h, published_proxy h', run_requestFilter, run_requestFilter]
    simp only [hfind]
  · intro listed proxy hp h endpoint hmem w hm
    rw [run_matched hp h hmem hm proxy.inner]
    exact answer_serves hallow endpoint w
  · intro listed proxy hp h endpoint hmem w hm inner'
    rw [run_matched hp h hmem hm inner', run_matched hp h hmem hm proxy.inner]
  · intro listed proxy hp h w hnone
    have hfind : listed.find? (fun e => e.matchesUri w.session.reqHeader.uri) = none := by
      rw [List.find?_eq_none]
      intro endpoint hmem
      simp [hnone endpoint (hp.mem_iff.mp hmem)]
    rw [published_proxy h, run_requestFilter]
    simp only [hfind]
  · intro endpoint mapping
    exact withMapping_remaps endpoint mapping

end Orders

end Filter

section Pair

def metadataAt (path : String) (body : Bytes) : ResourceMetadataEndpoint :=
  let uri : Uri := ⟨some "https", some "api.example.com", some ⟨path, none⟩⟩
  ⟨⟨some "https", some "api.example.com", some ⟨"/", none⟩⟩, "https://api.example.com", uri, uri,
    body⟩

local instance : HttpCrate := ⟨fun text => some ⟨text⟩, fun _ => none⟩

theorem publication_order_independent_pair :
    let billing := metadataAt "/.well-known/oauth-protected-resource/billing" [123, 125]
    let users := metadataAt "/.well-known/oauth-protected-resource/users" [91, 93]
    Published (C := Unit) (pure false) [billing, users] ∧
      ∃ proxy, publishAll (C := Unit) (.new (pure false)) [users, billing] = .ok proxy := by
  intro billing users
  have h := publication_order_independent (C := Unit) (pure false) [billing, users] rfl
  refine ⟨h, (h.accepted _ (List.Perm.swap billing users [])).mpr ?_⟩
  constructor
  · simp [billing, users, metadataAt]
  · decide

end Pair

end MetadataPublication
