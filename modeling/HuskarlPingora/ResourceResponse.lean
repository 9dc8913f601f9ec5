import HuskarlPingora.ResourceContext

/-! # Response writers of the resource server

The header of a response is prepared before anything is sent. Text taken from a
denial may be no legal header value; then nothing is written at all. -/
namespace ResourceResponse

open HttpModel ResourceErrors ResourceContext TracedHooks

variable {C : Type}

def writeResponseHeader (header : ResponseHeader) (endOfStream : Bool) : ResourceHook C Unit := do
  emit (.writeResponseHeader header endOfStream)
  let result ← await (← read).session.writeHeader
  attempt result
  update fun w => { w with session := { w.session with responseWritten := some header } }

def writeResponseBody (body : Bytes) (endOfStream : Bool) : ResourceHook C Unit := do
  emit (.writeResponseBody body endOfStream)
  let result ← await (← read).session.writeBody
  attempt result

def write (header : ResponseHeader) (sendBody : Bool) (body : Bytes) : ResourceHook C Unit := do
  writeResponseHeader header (!sendBody)
  if sendBody then writeResponseBody body true else pure ()

section Headers

variable [HttpCrate]

def headerValue (text context : String) : Except Error HeaderValue :=
  match HttpCrate.headerValue text with
  | some value => .ok value
  | none => .error ⟨.internalError, context⟩

def appendChallenges (header : ResponseHeader) : List String → Except Error ResponseHeader
  | [] => .ok header
  | challenge :: rest => do
    let value ← headerValue challenge "failed to append WWW-Authenticate header"
    appendChallenges (header.appendHeader wwwAuthenticateName value) rest

def insertNonce (header : ResponseHeader) : Option String → Except Error ResponseHeader
  | none => .ok header
  | some nonce => do
    let value ← headerValue nonce "failed to set DPoP-Nonce header"
    return header.insertHeader dpopNonceName value

/-- Delta-seconds, a fraction rounded up, saturating at the largest 64-bit value. -/
def retryAfterSeconds (after : Duration) : ℕ :=
  min (after.secs + if after.nanos > 0 then 1 else 0) (2 ^ 64 - 1)

def insertRetryAfter (header : ResponseHeader) : Option Duration → ResponseHeader
  | none => header
  | some after => header.insertHeader retryAfterName ⟨toString (retryAfterSeconds after)⟩

def insertContentType (header : ResponseHeader) : Option HeaderValue → ResponseHeader
  | none => header
  | some contentType => header.insertHeader contentTypeName contentType

def challengeHeader (status : StatusCode) (challenges : List String) (dpopNonce : Option String)
    (retryAfter : Option Duration) (body : ErrorBodyResponse) : Except Error ResponseHeader := do
  let header ← appendChallenges (.build status) challenges
  let header ← insertNonce header dpopNonce
  let header := insertRetryAfter header retryAfter
  let header := header.insertHeader contentLengthName ⟨toString body.body.length⟩
  let header := header.insertHeader cacheControlName ⟨"no-store"⟩
  return insertContentType header body.contentType

def writeChallengeResponse (status : StatusCode) (challenges : List String)
    (dpopNonce : Option String) (retryAfter : Option Duration) (body : ErrorBodyResponse) :
    ResourceHook C Unit := do
  let header ← attempt (challengeHeader status challenges dpopNonce retryAfter body)
  let sendBody := decide ((← read).session.reqHeader.method ≠ .head) && !body.body.isEmpty
  write header sendBody body.body

end Headers

def metadataHeader (body : Bytes) : ResponseHeader :=
  ((ResponseHeader.build .ok).insertHeader contentTypeName ⟨"application/json"⟩
    |>.insertHeader contentLengthName ⟨toString body.length⟩
    |>.insertHeader cacheControlName ⟨"max-age=3600"⟩)

def writeResourceMetadataResponse (body : Bytes) (includeBody : Bool) : ResourceHook C Unit :=
  write (metadataHeader body) includeBody body

def methodNotAllowedHeader [HttpCrate] (allow : String) : Except Error ResponseHeader := do
  let value ← headerValue allow "failed to set Allow header"
  let header := (ResponseHeader.build .methodNotAllowed).insertHeader allowName value
  let header := header.insertHeader contentLengthName ⟨"0"⟩
  return header.insertHeader cacheControlName ⟨"no-store"⟩

def writeMethodNotAllowed [HttpCrate] (allow : String) : ResourceHook C Unit := do
  let header ← attempt (methodNotAllowedHeader allow)
  writeResponseHeader header true

section Headers

variable [HttpCrate]

theorem headerValue_ok {text context : String} {value : HeaderValue}
    (h : headerValue text context = .ok value) : HttpCrate.headerValue text = some value := by
  unfold headerValue at h
  split at h
  · rename_i v hv
    simpa [hv] using h
  · cases h

/-- The status, the challenges in order and the nonce of a denial, and nothing invented. -/
structure Conveys (header : ResponseHeader) (status : StatusCode) (challenges : List String)
    (dpopNonce : Option String) : Prop where
  status : header.status = status
  challenges : (header.getAll wwwAuthenticateName).map some =
    challenges.map HttpCrate.headerValue
  nonce : (header.getAll dpopNonceName).map some = dpopNonce.toList.map HttpCrate.headerValue

theorem appendChallenges_conveys {challenges done : List String} {header header' : ResponseHeader}
    {status : StatusCode} (hc : Conveys header status done none)
    (h : appendChallenges header challenges = .ok header') :
    Conveys header' status (done ++ challenges) none := by
  induction challenges generalizing header done with
  | nil =>
    cases h
    simpa using hc
  | cons challenge rest ih =>
    obtain ⟨value, hv, h⟩ := bind_ok h
    have hnext : Conveys (header.appendHeader wwwAuthenticateName value) status
        (done ++ [challenge]) none := by
      refine ⟨hc.status, ?_, ?_⟩
      · simp [hc.challenges, headerValue_ok hv]
      · rw [ResponseHeader.getAll_appendHeader_ne _ _ (by decide), hc.nonce]
    simpa using ih hnext h

theorem insertNonce_conveys {header header' : ResponseHeader} {status : StatusCode}
    {challenges : List String} {dpopNonce : Option String}
    (hc : Conveys header status challenges none) (h : insertNonce header dpopNonce = .ok header') :
    Conveys header' status challenges dpopNonce := by
  cases dpopNonce with
  | none =>
    cases h
    exact hc
  | some nonce =>
    obtain ⟨value, hv, h⟩ := bind_ok h
    cases h
    refine ⟨hc.status, ?_, by simp [headerValue_ok hv]⟩
    rw [ResponseHeader.getAll_insertHeader_ne _ _ (by decide), hc.challenges]

theorem Conveys.insert {header : ResponseHeader} {status : StatusCode} {challenges : List String}
    {dpopNonce : Option String} (hc : Conveys header status challenges dpopNonce)
    (name : HeaderName) (value : HeaderValue) (hw : wwwAuthenticateName ≠ name)
    (hn : dpopNonceName ≠ name) :
    Conveys (header.insertHeader name value) status challenges dpopNonce where
  status := hc.status
  challenges := by rw [ResponseHeader.getAll_insertHeader_ne _ _ hw, hc.challenges]
  nonce := by rw [ResponseHeader.getAll_insertHeader_ne _ _ hn, hc.nonce]

theorem challengeHeader_conveys {status : StatusCode} {challenges : List String}
    {dpopNonce : Option String} {retryAfter : Option Duration} {body : ErrorBodyResponse}
    {header : ResponseHeader}
    (h : challengeHeader status challenges dpopNonce retryAfter body = .ok header) :
    Conveys header status challenges dpopNonce := by
  obtain ⟨header₁, hchallenges, h⟩ := bind_ok h
  obtain ⟨header₂, hnonce, h⟩ := bind_ok h
  cases h
  have h₀ : Conveys (.build status) status [] none := ⟨rfl, rfl, rfl⟩
  have h₂ := insertNonce_conveys (appendChallenges_conveys h₀ hchallenges) hnonce
  have h₃ : Conveys (insertRetryAfter header₂ retryAfter) status challenges dpopNonce := by
    cases retryAfter with
    | none => exact h₂
    | some after => exact h₂.insert _ _ (by decide) (by decide)
  have h₄ := (h₃.insert contentLengthName ⟨toString body.body.length⟩ (by decide)
    (by decide)).insert cacheControlName ⟨"no-store"⟩ (by decide) (by decide)
  cases hct : body.contentType with
  | none => exact h₄
  | some contentType => exact h₄.insert _ contentType (by decide) (by decide)

def Legal (challenges : List String) (dpopNonce : Option String) : Prop :=
  ∀ text ∈ challenges ++ dpopNonce.toList, (HttpCrate.headerValue text).isSome = true

theorem headerValue_total {text : String} (context : String)
    (h : (HttpCrate.headerValue text).isSome = true) :
    ∃ value, headerValue text context = .ok value := by
  obtain ⟨value, hv⟩ := Option.isSome_iff_exists.mp h
  exact ⟨value, by simp [headerValue, hv]⟩

theorem methodNotAllowedHeader_total {allow : String}
    (h : (HttpCrate.headerValue allow).isSome = true) :
    ∃ header, methodNotAllowedHeader allow = .ok header := by
  obtain ⟨value, hv⟩ := headerValue_total "failed to set Allow header" h
  exact ⟨_, by simp only [methodNotAllowedHeader, hv, bind, Except.bind, pure, Except.pure]; rfl⟩

theorem appendChallenges_total {challenges : List String} (header : ResponseHeader)
    (h : ∀ text ∈ challenges, (HttpCrate.headerValue text).isSome = true) :
    ∃ header', appendChallenges header challenges = .ok header' := by
  induction challenges generalizing header with
  | nil => exact ⟨header, rfl⟩
  | cons challenge rest ih =>
    obtain ⟨value, hv⟩ :=
      headerValue_total "failed to append WWW-Authenticate header" (h challenge (by simp))
    obtain ⟨header', hrest⟩ :=
      ih (header.appendHeader wwwAuthenticateName value) fun text ht => h text (by simp [ht])
    exact ⟨header', by simp [appendChallenges, hv, bind, Except.bind, hrest]⟩

theorem challengeHeader_total {challenges : List String} {dpopNonce : Option String}
    (status : StatusCode) (retryAfter : Option Duration) (body : ErrorBodyResponse)
    (h : Legal challenges dpopNonce) :
    ∃ header, challengeHeader status challenges dpopNonce retryAfter body = .ok header := by
  obtain ⟨header, hchallenges⟩ := appendChallenges_total (.build status)
    fun text (ht : text ∈ challenges) => h text (by simp [ht])
  have hnonce : ∃ header', insertNonce header dpopNonce = .ok header' := by
    cases dpopNonce with
    | none => exact ⟨header, rfl⟩
    | some nonce =>
      obtain ⟨value, hv⟩ :=
        headerValue_total "failed to set DPoP-Nonce header" (h nonce (by simp))
      exact ⟨_, by simp only [insertNonce, hv, bind, Except.bind, pure, Except.pure]; rfl⟩
  obtain ⟨header', hnonce⟩ := hnonce
  exact ⟨_, by
    simp only [challengeHeader, hchallenges, hnonce, bind, Except.bind, pure, Except.pure]; rfl⟩

end Headers

def Delivers (session : Downstream) : Prop :=
  session.writeHeader = .ready (.ok ()) ∧ session.writeBody = .ready (.ok ())

/-- Only this header is handed over, and the adapter's slots stay as they were. A write
that succeeds leaves the header as the response written. -/
structure Wrote (header : ResponseHeader) (w : World C)
    (r : Ran Error (World C) (Event C) Unit) : Prop where
  auth : r.state.auth = w.auth
  handed : ∃ endOfStream tail, r.events = .writeResponseHeader header endOfStream :: tail ∧
    ∀ e ∈ tail, ∃ body, e = .writeResponseBody body true
  written : r.exit = .done () → r.state.session.responseWritten = some header
  delivered : Delivers w.session → r.exit = .done ()

def markWritten (header : ResponseHeader) (w : World C) : World C :=
  { w with session := { w.session with responseWritten := some header } }

theorem writeResponseBody_eq (body : Bytes) :
    (writeResponseBody body true : ResourceHook C Unit) =
      handOver (fun w => w.session.writeBody) id (.writeResponseBody body true) := by
  funext w
  change (writeResponseBody body true).run w = (handOver _ id _).run w
  rw [run_handOver]
  cases h : w.session.writeBody with
  | dropped => simp [writeResponseBody, h]
  | ready result => cases result <;> simp [writeResponseBody, h]

theorem inTurn_write (header : ResponseHeader) (sendBody : Bool) (body : Bytes) (w : World C) :
    InTurn (fun w : World C => w.session.writeHeader) (fun w => w.session.writeBody)
      (markWritten header) (.writeResponseHeader header (!sendBody))
      (if sendBody then [.writeResponseBody body true] else []) () w
      ((write header sendBody body).run w) := by
  have hwrite : (write header sendBody body : ResourceHook C Unit) = (do
      handOver (fun w => w.session.writeHeader) (markWritten header)
        (.writeResponseHeader header (!sendBody))
      if sendBody then handOver (fun w => w.session.writeBody) id (.writeResponseBody body true)
      else pure ()) := by
    rw [← writeResponseBody_eq]
    rfl
  rw [hwrite]
  exact inTurn_handOver _ _ _ _ _ sendBody w

def sentEvents (header : ResponseHeader) (sendBody : Bool) (body : Bytes) : List (Event C) :=
  .writeResponseHeader header (!sendBody) ::
    if sendBody then [.writeResponseBody body true] else []

/-- The header is handed over once and the body after it. Only the transport can stop a
write between the two. -/
structure Sent {α : Type} (header : ResponseHeader) (sendBody : Bool) (body : Bytes) (value : α)
    (w : World C) (r : Ran Error (World C) (Event C) α) : Prop where
  auth : r.state.auth = w.auth
  begun : ∃ rest, r.events = .writeResponseHeader header (!sendBody) :: rest
  within : r.events <+: sentEvents header sendBody body
  finished : ∀ a, r.exit = .done a → a = value ∧ r.events = sentEvents header sendBody body ∧
    r.state.session.responseWritten = some header
  whole : Delivers w.session → r.exit = .done value

theorem sent_of_inTurn {α : Type} {header : ResponseHeader} {sendBody : Bool} {body : Bytes}
    {value : α} {w : World C} {r : Ran Error (World C) (Event C) α}
    (h : InTurn (fun w : World C => w.session.writeHeader) (fun w => w.session.writeBody)
      (markWritten header) (.writeResponseHeader header (!sendBody))
      (if sendBody then [.writeResponseBody body true] else []) value w r) :
    Sent header sendBody body value w r := by
  refine ⟨?_, h.begun, h.within, ?_, fun hdelivers => h.whole hdelivers.1 hdelivers.2⟩
  · rcases h.state with hstate | hstate
    · rw [hstate]
    · rw [hstate]
      rfl
  · intro a ha
    obtain ⟨hvalue, hevents, hstate⟩ := h.finished a ha
    refine ⟨hvalue, hevents, ?_⟩
    rw [hstate]
    rfl

theorem sent_write (header : ResponseHeader) (sendBody : Bool) (body : Bytes) (w : World C) :
    Sent header sendBody body () w ((write header sendBody body).run w) :=
  sent_of_inTurn (inTurn_write header sendBody body w)

theorem sent_write_returning {α : Type} (header : ResponseHeader) (sendBody : Bool) (body : Bytes)
    (w : World C) (value : α) : Sent header sendBody body value w
      (((write header sendBody body).run w).andThen fun _ w' => ⟨.done value, w', []⟩) :=
  sent_of_inTurn ((inTurn_write header sendBody body w).returning value)

theorem Sent.wrote {header : ResponseHeader} {sendBody : Bool} {body : Bytes} {w : World C}
    {r : Ran Error (World C) (Event C) Unit} (h : Sent header sendBody body () w r) :
    Wrote header w r := by
  obtain ⟨tail, hevents⟩ := h.begun
  obtain ⟨more, hmore⟩ := h.within
  constructor
  · exact h.auth
  · refine ⟨!sendBody, tail, hevents, ?_⟩
    intro e he
    rw [hevents, sentEvents, List.cons_append, List.cons.injEq] at hmore
    have hmem : e ∈ tail ++ more := List.mem_append_left more he
    rw [hmore.2] at hmem
    cases sendBody with
    | false => cases hmem
    | true => exact ⟨body, List.mem_singleton.mp hmem⟩
  · intro hdone
    exact (h.finished () hdone).2.2
  · exact h.whole

section Headers

variable [HttpCrate]

/-- A denial is either written whole or, when its header cannot be built, not at all. -/
theorem run_writeChallengeResponse (status : StatusCode) (challenges : List String)
    (dpopNonce : Option String) (retryAfter : Option Duration) (body : ErrorBodyResponse)
    (w : World C) :
    (∃ e, challengeHeader status challenges dpopNonce retryAfter body = .error e ∧
      (writeChallengeResponse status challenges dpopNonce retryAfter body).run w =
        ⟨.failed e, w, []⟩) ∨
    ∃ header, challengeHeader status challenges dpopNonce retryAfter body = .ok header ∧
      Wrote header w
        ((writeChallengeResponse status challenges dpopNonce retryAfter body).run w) := by
  cases h : challengeHeader status challenges dpopNonce retryAfter body with
  | error e => exact .inl ⟨e, rfl, by simp [writeChallengeResponse, h]⟩
  | ok header =>
    refine .inr ⟨header, rfl, ?_⟩
    simp only [writeChallengeResponse, h, run_bind, run_attempt_ok, andThen_done, run_read,
      after_nil]
    exact (sent_write header _ body.body w).wrote

end Headers

end ResourceResponse
