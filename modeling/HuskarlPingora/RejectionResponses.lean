import Mathlib.Order.Bounds.Basic
import HuskarlPingora.ResourceEffects

/-! # Rejections are written whole or not at all

The header of a rejection carries six fields and no other. It is handed over only when
every text in it is a legal header value. -/
namespace RejectionResponses

open HttpModel ResourceRules ResourceErrors ResourceContext ResourceGuard ResourceResponse
open ResourceProxy ResourceEffects GuardAuthorization TracedHooks

variable {C : Type}

def Duration.asNanos (after : Duration) : ℕ := after.secs * 1000000000 + after.nanos

def maxSeconds : ℕ := 2 ^ 64 - 1

theorem covers_iff (after : Duration) (n : ℕ) : Duration.asNanos after ≤ n * 1000000000 ↔
    after.secs + (if after.nanos > 0 then 1 else 0) ≤ n := by
  have hnanos := after.nanos_lt
  unfold Duration.asNanos
  split <;> omega

/-- The least number of whole seconds not below the interval, or the largest one there is. -/
theorem retryAfterSeconds_least (after : Duration) :
    IsLeast {n | Duration.asNanos after ≤ n * 1000000000 ∨ n = maxSeconds}
      (retryAfterSeconds after) := by
  have hcovers := covers_iff after
  unfold retryAfterSeconds
  generalize after.secs + (if after.nanos > 0 then 1 else 0) = seconds at hcovers
  constructor
  · rcases le_total seconds maxSeconds with h | h
    · left
      rw [hcovers]
      exact (min_eq_left h).ge
    · right
      exact min_eq_right h
  · rintro n (h | rfl)
    · exact (min_le_left _ _).trans ((hcovers n).mp h)
    · exact min_le_right _ _

theorem retryAfterSeconds_zero (after : Duration) :
    retryAfterSeconds after = 0 ↔ Duration.asNanos after = 0 := by
  have hpos : maxSeconds ≠ 0 := by decide
  have hleast := retryAfterSeconds_least after
  constructor
  · intro h
    rw [h] at hleast
    rcases hleast.1 with hle | heq
    · simpa using hle
    · exact absurd heq.symm hpos
  · intro h
    exact Nat.le_zero.mp (hleast.2 (.inl (by simp [h])))

def rejectionNames : List HeaderName :=
  [wwwAuthenticateName, dpopNonceName, retryAfterName, contentLengthName, cacheControlName,
    contentTypeName]

section Headers

variable [HttpCrate]

structure Complete (header : ResponseHeader) (status : StatusCode) (challenges : List String)
    (dpopNonce : Option String) (retryAfter : Option Duration) (body : ErrorBodyResponse) : Prop
    extends Conveys header status challenges dpopNonce where
  retryAfter : header.getAll retryAfterName =
    retryAfter.toList.map fun after => ⟨toString (retryAfterSeconds after)⟩
  contentLength : header.getAll contentLengthName = [⟨toString body.body.length⟩]
  cacheControl : header.getAll cacheControlName = [⟨"no-store"⟩]
  contentType : header.getAll contentTypeName = body.contentType.toList
  others : ∀ name ∉ rejectionNames, header.getAll name = []

theorem appendChallenges_others {challenges : List String} {header header' : ResponseHeader}
    (h : appendChallenges header challenges = .ok header') {name : HeaderName}
    (hn : name ≠ wwwAuthenticateName) : header'.getAll name = header.getAll name := by
  induction challenges generalizing header with
  | nil =>
    cases h
    rfl
  | cons challenge rest ih =>
    obtain ⟨value, -, h⟩ := bind_ok h
    rw [ih h, ResponseHeader.getAll_appendHeader_ne _ _ hn]

theorem insertNonce_others {header header' : ResponseHeader} {dpopNonce : Option String}
    (h : insertNonce header dpopNonce = .ok header') {name : HeaderName}
    (hn : name ≠ dpopNonceName) : header'.getAll name = header.getAll name := by
  cases dpopNonce with
  | none =>
    cases h
    rfl
  | some nonce =>
    obtain ⟨value, -, h⟩ := bind_ok h
    cases h
    exact ResponseHeader.getAll_insertHeader_ne _ _ hn

omit [HttpCrate] in
theorem insertRetryAfter_others (header : ResponseHeader) (retryAfter : Option Duration)
    {name : HeaderName} (hn : name ≠ retryAfterName) :
    (insertRetryAfter header retryAfter).getAll name = header.getAll name := by
  cases retryAfter with
  | none => rfl
  | some after => exact ResponseHeader.getAll_insertHeader_ne _ _ hn

omit [HttpCrate] in
theorem insertContentType_others (header : ResponseHeader) (contentType : Option HeaderValue)
    {name : HeaderName} (hn : name ≠ contentTypeName) :
    (insertContentType header contentType).getAll name = header.getAll name := by
  cases contentType with
  | none => rfl
  | some value => exact ResponseHeader.getAll_insertHeader_ne _ _ hn

theorem challengeHeader_complete {status : StatusCode} {challenges : List String}
    {dpopNonce : Option String} {retryAfter : Option Duration} {body : ErrorBodyResponse}
    {header : ResponseHeader}
    (h : challengeHeader status challenges dpopNonce retryAfter body = .ok header) :
    Complete header status challenges dpopNonce retryAfter body := by
  have hconveys := challengeHeader_conveys h
  obtain ⟨header₁, hchallenges, h⟩ := bind_ok h
  obtain ⟨header₂, hnonce, h⟩ := bind_ok h
  cases h
  -- the header so far holds challenges and nonce only
  have hbare : ∀ name, name ≠ wwwAuthenticateName → name ≠ dpopNonceName →
      header₂.getAll name = [] := by
    intro name hw hn
    rw [insertNonce_others hnonce hn, appendChallenges_others hchallenges hw]
    rfl
  refine ⟨hconveys, ?_, ?_, ?_, ?_, ?_⟩
  · rw [insertContentType_others _ _ (by decide),
      ResponseHeader.getAll_insertHeader_ne _ _ (by decide),
      ResponseHeader.getAll_insertHeader_ne _ _ (by decide)]
    cases retryAfter with
    | none => exact hbare _ (by decide) (by decide)
    | some after => exact ResponseHeader.getAll_insertHeader_self _ _ _
  · rw [insertContentType_others _ _ (by decide),
      ResponseHeader.getAll_insertHeader_ne _ _ (by decide),
      ResponseHeader.getAll_insertHeader_self]
  · rw [insertContentType_others _ _ (by decide), ResponseHeader.getAll_insertHeader_self]
  · cases body.contentType with
    | none =>
      simp only [insertContentType]
      rw [ResponseHeader.getAll_insertHeader_ne _ _ (by decide),
        ResponseHeader.getAll_insertHeader_ne _ _ (by decide),
        insertRetryAfter_others _ _ (by decide), hbare _ (by decide) (by decide)]
      rfl
    | some contentType => exact ResponseHeader.getAll_insertHeader_self _ _ _
  · intro name hname
    simp only [rejectionNames, List.mem_cons, List.not_mem_nil, or_false, not_or] at hname
    obtain ⟨hw, hn, hr, hl, hc, ht⟩ := hname
    rw [insertContentType_others _ _ ht, ResponseHeader.getAll_insertHeader_ne _ _ hc,
      ResponseHeader.getAll_insertHeader_ne _ _ hl, insertRetryAfter_others _ _ hr, hbare _ hw hn]

theorem legal_of_conveys {header : ResponseHeader} {status : StatusCode} {challenges : List String}
    {dpopNonce : Option String} (h : Conveys header status challenges dpopNonce) :
    Legal challenges dpopNonce := by
  have hsome : ∀ (values : List HeaderValue) (texts : List String),
      values.map some = texts.map HttpCrate.headerValue →
        ∀ text ∈ texts, (HttpCrate.headerValue text).isSome = true := by
    intro values texts heq text htext
    have hmem : HttpCrate.headerValue text ∈ values.map some := by
      rw [heq]
      exact List.mem_map_of_mem htext
    obtain ⟨value, -, hvalue⟩ := List.mem_map.mp hmem
    rw [← hvalue]
    rfl
  intro text htext
  rcases List.mem_append.mp htext with hmem | hmem
  · exact hsome _ _ h.challenges text hmem
  · exact hsome _ _ h.nonce text hmem

end Headers

def endsStream : Event C → Bool
  | .writeResponseHeader _ endOfStream | .writeResponseBody _ endOfStream => endOfStream
  | _ => false

theorem sentEvents_ends (header : ResponseHeader) (sendBody : Bool) (body : Bytes) :
    ((sentEvents header sendBody body : List (Event C)).filter endsStream).length = 1 := by
  cases sendBody <;> rfl

theorem headersOf_sent {α : Type} {header : ResponseHeader} {sendBody : Bool} {body : Bytes}
    {value : α} {w : World C} {r : Ran Error (World C) (Event C) α}
    (h : Sent header sendBody body value w r) : headersOf r.events = [header] := by
  obtain ⟨rest, hrest⟩ := h.begun
  obtain ⟨more, hmore⟩ := h.within
  have hall : headersOf (sentEvents header sendBody body : List (Event C)) = [header] := by
    cases sendBody <;> rfl
  rw [← hmore, hrest, headersOf_append] at hall
  have hlead : headersOf (.writeResponseHeader header (!sendBody) :: rest) =
      header :: headersOf rest := rfl
  rw [hlead, List.cons_append, List.cons.injEq, List.append_eq_nil_iff] at hall
  rw [hrest, hlead, hall.2.1]

theorem ends_sent {α : Type} {header : ResponseHeader} {sendBody : Bool} {body : Bytes}
    {value : α} {w : World C} {r : Ran Error (World C) (Event C) α}
    (h : Sent header sendBody body value w r) : (r.events.filter endsStream).length ≤ 1 := by
  have hall := sentEvents_ends (C := C) header sendBody body
  have hle := (h.within.sublist.filter endsStream).length_le
  exact hle.trans hall.le

section Writing

variable [HttpCrate]

def followed (w : World C) (body : ErrorBodyResponse) : Bool :=
  decide (w.session.reqHeader.method ≠ .head) && !body.body.isEmpty

/-- How a rejection leaves, the hook around it returning this value. -/
structure Rejected {α : Type} (status : StatusCode) (challenges : List String)
    (dpopNonce : Option String) (retryAfter : Option Duration) (body : ErrorBodyResponse)
    (value : α) (w : World C) (r : Ran Error (World C) (Event C) α) : Prop where
  whole : Legal challenges dpopNonce → ∃ header,
    Complete header status challenges dpopNonce retryAfter body ∧
      Sent header (followed w body) body.body value w r
  nothing : ¬ Legal challenges dpopNonce → ∃ e, r = ⟨.failed e, w, []⟩
  headers : (headersOf r.events).length ≤ 1
  ends : (r.events.filter endsStream).length ≤ 1
  ended : r.exit = .done value → (r.events.filter endsStream).length = 1

theorem rejected_sent {α : Type} {status : StatusCode} {challenges : List String}
    {dpopNonce : Option String} {retryAfter : Option Duration} {body : ErrorBodyResponse}
    {header : ResponseHeader} {value : α} {w : World C} {r : Ran Error (World C) (Event C) α}
    (hc : Complete header status challenges dpopNonce retryAfter body)
    (hs : Sent header (followed w body) body.body value w r) :
    Rejected status challenges dpopNonce retryAfter body value w r where
  whole := fun _ => ⟨header, hc, hs⟩
  nothing := fun hillegal => absurd (legal_of_conveys hc.toConveys) hillegal
  headers := by simp [headersOf_sent hs]
  ends := ends_sent hs
  ended := by
    intro hdone
    rw [(hs.finished value hdone).2.1]
    exact sentEvents_ends header _ _

theorem rejected_failed {α : Type} {status : StatusCode} {challenges : List String}
    {dpopNonce : Option String} {retryAfter : Option Duration} {body : ErrorBodyResponse}
    (value : α) (w : World C) {e e' : Error}
    (h : challengeHeader status challenges dpopNonce retryAfter body = .error e) :
    Rejected status challenges dpopNonce retryAfter body value w ⟨.failed e', w, []⟩ := by
  have hillegal : ¬ Legal challenges dpopNonce := by
    intro hlegal
    obtain ⟨header, hok⟩ := challengeHeader_total status retryAfter body hlegal
    simp [hok] at h
  constructor
  · intro hlegal
    exact absurd hlegal hillegal
  · intro _
    exact ⟨e', rfl⟩
  · simp [headersOf]
  · simp
  · intro hdone
    cases hdone

theorem run_refuse (status : StatusCode) (challenges : List String) (dpopNonce : Option String)
    (retryAfter : Option Duration) (body : ErrorBodyResponse) (w : World C) :
    Rejected status challenges dpopNonce retryAfter body true w
      ((refuse status challenges dpopNonce retryAfter body).run w) := by
  cases h : challengeHeader status challenges dpopNonce retryAfter body with
  | error e =>
    have hrun : (refuse status challenges dpopNonce retryAfter body).run w =
        ⟨.failed e, w, []⟩ := by
      simp [refuse, writeChallengeResponse, h]
    rw [hrun]
    exact rejected_failed true w h
  | ok header =>
    have hrun : (refuse status challenges dpopNonce retryAfter body).run w =
        ((write header (followed w body) body.body).run w).andThen
          fun _ w' => ⟨.done true, w', []⟩ := by
      simp [refuse, writeChallengeResponse, h, followed]
    rw [hrun]
    exact rejected_sent (challengeHeader_complete h) (sent_write_returning _ _ _ w true)

theorem rejected_writeChallengeResponse (status : StatusCode) (challenges : List String)
    (dpopNonce : Option String) (retryAfter : Option Duration) (body : ErrorBodyResponse)
    (w : World C) : Rejected status challenges dpopNonce retryAfter body () w
      ((writeChallengeResponse status challenges dpopNonce retryAfter body).run w) := by
  cases h : challengeHeader status challenges dpopNonce retryAfter body with
  | error e =>
    have hrun : (writeChallengeResponse status challenges dpopNonce retryAfter body).run w =
        ⟨.failed e, w, []⟩ := by
      simp [writeChallengeResponse, h]
    rw [hrun]
    exact rejected_failed () w h
  | ok header =>
    have hrun : (writeChallengeResponse status challenges dpopNonce retryAfter body).run w =
        (write header (followed w body) body.body).run w := by
      simp [writeChallengeResponse, h, followed]
    rw [hrun]
    exact rejected_sent (challengeHeader_complete h) (sent_write _ _ _ w)

variable [HasScopes C] [ResourceServerLib]

structure DeniedRun (proxy : AuthProxy C) (audiences : Option (List String)) (w : World C)
    (d : Denial) (category : CheckOutcome) (events : List (Event C)) : Prop where
  refused : ∃ r, (authorize proxy audiences).run w =
      r.after (decisionEvents proxy category events ++ [.errorBody (denialDetails d)]) ∧
    Rejected d.status d.challenges d.dpopNonce d.retryAfter (proxy.errorBody (denialDetails d))
      true w r
  unwritten : headersOf (decisionEvents proxy category events) = []
  unentered : enteredBy ((authorize proxy audiences).run w).events = []

theorem authorize_denied (proxy : AuthProxy C) (audiences : Option (List String)) {w : World C}
    {d : Denial} {category : CheckOutcome} {events : List (Event C)}
    (h : runCheck (proxyCall proxy.guard w.session audiences) w =
      ⟨.done (.deny d, category), w, events⟩) :
    DeniedRun proxy audiences w d category events := by
  have hrun := run_authorize_deny h
  obtain ⟨outcome, category', events', hrun', -, hasked⟩ :=
    runCheck_decided (proxyCall proxy.guard w.session audiences) w
  have hsame := hrun'.symm.trans h
  simp only [Ran.mk.injEq, Exit.done.injEq, Prod.mk.injEq] at hsame
  obtain ⟨⟨rfl, rfl⟩, -, rfl⟩ := hsame
  refine ⟨⟨_, hrun, run_refuse _ _ _ _ _ w⟩, headersOf_decision hasked proxy category', ?_⟩
  have hanswered := answered_refuse d.status d.challenges d.dpopNonce d.retryAfter
    (proxy.errorBody (denialDetails d)) w
  rw [hrun, after_events, enteredBy_append, enteredBy_append, enteredBy_decision hasked,
    enteredBy_answered hanswered]
  rfl

/-- The retry interval in whole seconds, never zero for an interval that is not. -/
structure Rounded (after : Duration) : Prop where
  least : IsLeast {n | Duration.asNanos after ≤ n * 1000000000 ∨ n = maxSeconds}
    (retryAfterSeconds after)
  zero : retryAfterSeconds after = 0 ↔ Duration.asNanos after = 0

/-- A rejection is written with all of its fields when every text in it is legal, and
otherwise fails before anything is sent. A denial of the guard is written so. -/
theorem rejections_all_or_nothing (status : StatusCode) (challenges : List String)
    (dpopNonce : Option String) (retryAfter : Option Duration) (body : ErrorBodyResponse)
    (w : World C) :
    Rejected status challenges dpopNonce retryAfter body () w
      ((writeChallengeResponse status challenges dpopNonce retryAfter body).run w) ∧
    (∀ after, Rounded after) ∧
    ∀ (proxy : AuthProxy C) audiences d category events,
      runCheck (proxyCall proxy.guard w.session audiences) w =
        ⟨.done (.deny d, category), w, events⟩ →
      DeniedRun proxy audiences w d category events := by
  refine ⟨rejected_writeChallengeResponse status challenges dpopNonce retryAfter body w, ?_, ?_⟩
  · intro after
    exact ⟨retryAfterSeconds_least after, retryAfterSeconds_zero after⟩
  · intro proxy audiences d category events h
    exact authorize_denied proxy audiences h

end Writing

section Split

def acceptingWorld : World Unit where
  session := ⟨⟨.get, ⟨none, none, some ⟨"/app", none⟩⟩, []⟩, none, none, .ready (.ok ()),
    .ready (.ok ())⟩
  auth := ⟨none, none, true⟩
  upstream := ⟨.get, ⟨none, none, none⟩, []⟩
  response := .build .ok

local instance : HttpCrate :=
  ⟨fun text => if text.toList.any fun c => c.toNat < 32 then none else some ⟨text⟩, fun _ => none⟩

local instance : HasScopes Unit := ⟨fun _ _ => false⟩
local instance : ResourceServerLib := ⟨none, .client .insufficientScope "insufficient scope"⟩

def splitChallenge : String := "Bearer\r\nSet-Cookie: sid=1"

theorem rejections_all_or_nothing_split : ∃ e,
    (writeChallengeResponse .forbidden [splitChallenge] none none ⟨[1], none⟩).run acceptingWorld =
      ⟨.failed e, acceptingWorld, []⟩ := by
  have h := (rejections_all_or_nothing .forbidden [splitChallenge] none none ⟨[1], none⟩
    acceptingWorld).1
  refine h.nothing fun hlegal => ?_
  exact absurd (hlegal splitChallenge (by simp)) (by decide)

end Split

end RejectionResponses
