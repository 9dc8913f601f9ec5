import HuskarlPingora.LoginFinalization

/-! # Queued local responses

An inner `request_filter` may queue a response instead of writing one. It is delivered
once, framed anew and with the session work on its header, or not at all. -/
namespace LocalResponses

open HttpModel LoginContext LoginAdapter LoginEffects SessionLedger LoginAccess SessionObligations
open CookieConservation LoginFinalization TracedHooks

variable {S : Type}

theorem respondAll_response (st : LoginState S) (responses : List LoginResponse) :
    (respondAll st responses).response =
      (responses.filter fun response => !response.status.isInformational).getLast?.or
        st.response := by
  induction responses generalizing st with
  | nil => simp [respondAll]
  | cons response rest ih =>
    unfold respondAll LoginState.respond
    cases hi : response.status.isInformational with
    | true => simp [hi, ih]
    | false =>
      simp only [Bool.false_eq_true, if_false, ih, hi, Bool.not_false, List.filter_cons_of_pos,
        List.getLast?_cons]
      cases (rest.filter fun response => !response.status.isInformational).getLast? <;> rfl

theorem apply_response (effect : InnerEffect) (w : World S) : (effect.apply w).ctx.response =
    (effect.respond.filter fun response => !response.status.isInformational).getLast?.or
      w.ctx.response := by
  rw [InnerEffect.apply, respondAll_response]

def Bodyless (response : LoginResponse) : Prop :=
  response.status = .noContent ∨ response.status = .notModified

instance (response : LoginResponse) : Decidable (Bodyless response) :=
  inferInstanceAs (Decidable (_ ∨ _))

/-- The framing fields are those of the body, whatever the response carried. -/
structure Framed (response : LoginResponse) (header : ResponseHeader) : Prop where
  status : header.status = response.status
  transferEncoding : header.getAll transferEncodingName = []
  contentLength : header.getAll contentLengthName =
    if Bodyless response then [] else [⟨toString response.body.length⟩]
  others : ∀ name, name ≠ transferEncodingName → name ≠ contentLengthName →
    header.getAll name = FieldMultimap.getAll response.headers name

theorem framed_localHeader (response : LoginResponse) :
    Framed response (localHeader response) := by
  have hstatus : (appendHeaders (.build response.status) response.headers).status =
      response.status := appendHeaders_status _ _
  have hothers : ∀ name, (appendHeaders (.build response.status) response.headers).getAll name =
      FieldMultimap.getAll response.headers name := by
    intro name
    rw [getAll_appendHeaders]
    rfl
  have hne : transferEncodingName ≠ contentLengthName := by decide
  by_cases hb : Bodyless response
  · have hlocal : localHeader response =
        ((appendHeaders (.build response.status) response.headers).removeHeader
          transferEncodingName).removeHeader contentLengthName := by
      have hno : ¬ (response.status ≠ .noContent ∧ response.status ≠ .notModified) := by
        rcases hb with hb | hb <;> simp [hb]
      simp only [localHeader, if_neg hno]
    rw [hlocal]
    refine ⟨hstatus, ?_, ?_, ?_⟩
    · rw [ResponseHeader.getAll_removeHeader_ne _ hne, ResponseHeader.getAll_removeHeader_self]
    · rw [ResponseHeader.getAll_removeHeader_self, if_pos hb]
    · intro name htransfer hlength
      rw [ResponseHeader.getAll_removeHeader_ne _ hlength,
        ResponseHeader.getAll_removeHeader_ne _ htransfer, hothers]
  · have hlocal : localHeader response =
        ((appendHeaders (.build response.status) response.headers).removeHeader
          transferEncodingName).insertHeader contentLengthName
            ⟨toString response.body.length⟩ := by
      have hyes : response.status ≠ .noContent ∧ response.status ≠ .notModified := by
        rw [Bodyless, not_or] at hb
        exact hb
      simp only [localHeader, if_pos hyes]
    rw [hlocal]
    refine ⟨hstatus, ?_, ?_, ?_⟩
    · rw [ResponseHeader.getAll_insertHeader_ne _ _ hne, ResponseHeader.getAll_removeHeader_self]
    · rw [ResponseHeader.getAll_insertHeader_self, if_neg hb]
    · intro name htransfer hlength
      rw [ResponseHeader.getAll_insertHeader_ne _ _ hlength,
        ResponseHeader.getAll_removeHeader_ne _ htransfer, hothers]

def filteredHeader (self : LoginProxy S) (response : LoginResponse) : ResponseHeader :=
  self.inner.responseFilter.2.1 (localHeader response)

/-- An inner `response_filter` that leaves the framing fields alone. -/
def KeepsFraming (self : LoginProxy S) : Prop :=
  ∀ header name, name = transferEncodingName ∨ name = contentLengthName →
    (self.inner.responseFilter.2.1 header).getAll name = header.getAll name

/-- One header block, framed and then finalized, and at most one body after it. -/
structure Delivered (proxy : LoginProxy S) (w : World S) (response : LoginResponse)
    (w' : World S) (r : Ran Error (World S) (Event S) Bool) : Prop where
  single : writtenBy r.events = [w'.response]
  body : ∀ bytes endOfStream, .writeResponseBody bytes endOfStream ∈ r.events →
    bytes = response.body ∧ endOfStream = true ∧ sendsBody response w' = true
  sent : ∃ pre answer, r = answer.after pre ∧ Unwritten pre ∧
    Sent w'.response (sendsBody response w') response.body true w' answer
  stamped : Stamped (filteredHeader proxy response) w'.response
    (added proxy (innerFiltered proxy (localWorld proxy w response)))
  finalized : (filteredHeader proxy response).status.isInterim = false →
    w'.ctx.finalized = true
  framing : ∀ name, name = transferEncodingName ∨ name = contentLengthName →
    w'.response.getAll name = (filteredHeader proxy response).getAll name
  framed : KeepsFraming proxy → w'.response.getAll transferEncodingName = [] ∧
    w'.response.getAll contentLengthName =
      if Bodyless response then [] else [⟨toString response.body.length⟩]

theorem unwritten_headers {es : List (Event S)} (h : Unwritten es) : writtenBy es = [] := by
  rw [writtenBy, List.flatMap_eq_nil_iff]
  intro e he
  have hno := h e he
  cases e with
  | writeResponseHeader => cases hno
  | _ => rfl

theorem sent_body {header : ResponseHeader} {sendBody : Bool} {body bytes : Bytes}
    {endOfStream value : Bool} {w : World S} {r : Ran Error (World S) (Event S) Bool}
    (h : Sent header sendBody body value w r)
    (hmem : .writeResponseBody bytes endOfStream ∈ r.events) :
    bytes = body ∧ endOfStream = true ∧ sendBody = true := by
  have hsent := h.within.subset hmem
  cases sendBody with
  | false => simp [sentEvents] at hsent
  | true => simpa [sentEvents] using hsent

theorem responseFilter_done {self : LoginProxy S} {w w' : World S} {es : List (Event S)}
    (h : (responseFilter self).run w = ⟨.done (), w', es⟩) :
    ((finalizeResponse self).run (innerFiltered self w)).state = w' := by
  rw [run_responseFilter] at h
  have hexit := congrArg Ran.exit h
  have hstate := congrArg Ran.state h
  rw [after_exit] at hexit
  rw [after_state] at hstate
  unfold filteredRun at hexit hstate
  cases hin : self.inner.responseFilter.2.2 with
  | dropped => simp [hin] at hexit
  | ready result =>
    cases result with
    | error e => simp [hin] at hexit
    | ok u => simpa only [hin] using hstate

theorem delivered_queued {self : LoginProxy S} {w w' : World S} {response : LoginResponse}
    {es : List (Event S)} (h : Queued self w response)
    (hfilter : (responseFilter self).run (localWorld self w response) = ⟨.done (), w', es⟩) :
    Delivered self w response w' ((forwardRequest self).run w) := by
  have hstate := responseFilter_done hfilter
  have hunwritten := unwritten_responseFilter self (localWorld self w response)
  rw [hfilter] at hunwritten
  have hentry : Unwritten (Event.innerRequestFilter w.ctx ::
      terminateWrites self.inner.requestFilter.1) := unwritten_entry _ _ rfl
  have hstamped := finalizeResponse_stamped self (innerFiltered self (localWorld self w response))
  rw [hstate] at hstamped
  have hsent := sent_writeOut_returning w'.response (sendsBody response w') response.body w' true
  have hrun := run_forwardRequest_queued h
  rw [hfilter, andThen_done] at hrun
  generalize ((writeOut w'.response (sendsBody response w') response.body).run w').andThen
    (fun _ w'' => (⟨.done true, w'', []⟩ : Ran Error (World S) (Event S) Bool)) = answer
    at hsent hrun
  have hwhole : (forwardRequest self).run w = answer.after (Event.innerRequestFilter w.ctx ::
      terminateWrites self.inner.requestFilter.1 ++ es) := by
    rw [hrun]
    simp
  have hpre := hentry.append hunwritten
  obtain ⟨tail, hevents, htail⟩ := hsent.tail
  have hframing : ∀ name, name = transferEncodingName ∨ name = contentLengthName →
      w'.response.getAll name = (filteredHeader self response).getAll name := by
    rintro name (rfl | rfl)
    · exact hstamped.others _ (by decide) (by decide)
    · exact hstamped.others _ (by decide) (by decide)
  refine ⟨?_, ?_, ⟨_, answer, hwhole, hpre, hsent⟩, hstamped, ?_, hframing, ?_⟩
  · rw [hwhole, after_events, hevents, writtenBy_append, writtenBy_cons, writtenBy_bodies htail,
      unwritten_headers hpre]
    rfl
  · intro bytes endOfStream hmem
    rw [hwhole, after_events] at hmem
    rcases List.mem_append.mp hmem with hmem | hmem
    · exact absurd (hpre _ hmem) (by simp [isWrite])
    · exact sent_body hsent hmem
  · intro hfinal
    have hclaimed := finalizeResponse_final self (innerFiltered self (localWorld self w response))
      hfinal
    rwa [hstate] at hclaimed
  · intro hkeeps
    have hlocal := framed_localHeader response
    rw [hframing _ (.inl rfl), hframing _ (.inr rfl), filteredHeader, hkeeps _ _ (.inl rfl),
      hkeeps _ _ (.inr rfl)]
    exact ⟨hlocal.transferEncoding, hlocal.contentLength⟩

/-- A queued response that cannot be delivered. The session work stays with the state,
and a later `logging` call does it. -/
structure Misused (proxy : LoginProxy S) (queued : World S)
    (r : Ran Error (World S) (Event S) Bool) : Prop where
  exit : ∃ error, error.etype = .internalError ∧ r.exit = .failed error
  unwritten : Unwritten r.events
  unclaimed : ∀ e ∈ r.events, isClaim e = false
  state : r.state = taken queued
  logged : r.state.ctx.finalized = false → ∀ inner engine, ∀ e ∈ duty (obligation queued.ctx),
    e ∈ ((logging { proxy with inner := inner, engine := engine }).run r.state).events

/-- What becomes of a forwarded request, by the result of the inner filter and the queue. -/
structure LocalProtocol (proxy : LoginProxy S) (w : World S) : Prop where
  queue : (proxy.inner.requestFilter.1.apply w).ctx.response =
    (proxy.inner.requestFilter.1.respond.filter fun response =>
      !response.status.isInformational).getLast?.or w.ctx.response
  rejects : ∀ (st : LoginState S) response, response.status.isInformational = true →
    ∃ error, st.respond response = .error error
  failed : ∀ error, proxy.inner.requestFilter.2 = .ready (.error error) →
    ((forwardRequest proxy).run w).exit = .failed error ∧
      Unwritten ((forwardRequest proxy).run w).events
  unqueued : ∀ handled, proxy.inner.requestFilter.2 = .ready (.ok handled) →
    (proxy.inner.requestFilter.1.apply w).ctx.response = none →
    ((forwardRequest proxy).run w).exit = .done handled ∧
      Unwritten ((forwardRequest proxy).run w).events
  misused : ∀ handled response, proxy.inner.requestFilter.2 = .ready (.ok handled) →
    (proxy.inner.requestFilter.1.apply w).ctx.response = some response →
    (handled ||
      (proxy.inner.requestFilter.1.apply w).session.responseWritten.isSome) = true →
    Misused proxy (proxy.inner.requestFilter.1.apply w) ((forwardRequest proxy).run w)
  /-- A response filter that fails or is dropped leaves nothing written. -/
  blocked : ∀ response, Queued proxy w response →
    ((responseFilter proxy).run (localWorld proxy w response)).exit ≠ .done () →
    (∀ b, ((forwardRequest proxy).run w).exit ≠ .done b) ∧
      Unwritten ((forwardRequest proxy).run w).events
  delivered : ∀ response w' es, Queued proxy w response →
    (responseFilter proxy).run (localWorld proxy w response) = ⟨.done (), w', es⟩ →
    Framed response (localHeader response) ∧
      Delivered proxy w response w' ((forwardRequest proxy).run w)

theorem forwarded_silent {self : LoginProxy S} {w : World S}
    {r : Ran Error (World S) (Event S) Bool} (hr : r.events = [])
    (hrun : forwardedRun self (self.inner.requestFilter.1.apply w) = r) :
    ((forwardRequest self).run w).exit = r.exit ∧ ((forwardRequest self).run w).state = r.state ∧
      ((forwardRequest self).run w).events =
        .innerRequestFilter w.ctx :: terminateWrites self.inner.requestFilter.1 := by
  rw [run_forwardRequest, hrun, after_exit, after_state, after_events, hr, List.append_nil]
  exact ⟨rfl, rfl, rfl⟩

theorem unclaimed_entry (seen : LoginState S) (effect : InnerEffect) :
    ∀ e ∈ .innerRequestFilter seen :: terminateWrites effect, isClaim (e : Event S) = false := by
  unfold terminateWrites
  cases effect.terminateRequested <;> simp [isClaim]

theorem logging_duty (self : LoginProxy S) (w : World S) (hf : w.ctx.finalized = false) :
    ∀ e ∈ duty (obligation w.ctx), e ∈ ((logging self).run w).events := by
  intro e he
  obtain ⟨exit, back, cookies, out, -, -, -, -, hrun⟩ := drainRun_cases self w
  have hdrain : e ∈ (drainRun self w).events := by
    rw [hrun]
    exact List.mem_append_left _ (List.mem_append_right _ he)
  rw [logging_claims self w hf]
  unfold Ran.andThen
  cases (drainRun self w).exit with
  | done u => exact List.mem_append_left _ hdrain
  | failed error => exact hdrain
  | cancelled => exact hdrain

/-- A queued response is delivered once and whole, or the request fails before anything
of it is written. -/
theorem local_responses_delivered (self : LoginProxy S) (w : World S) : LocalProtocol self w where
  queue := apply_response _ w
  rejects := by
    intro st response hi
    exact ⟨_, if_pos hi⟩
  failed := by
    intro error hin
    have hrun : forwardedRun self (self.inner.requestFilter.1.apply w) =
        ⟨.failed error, self.inner.requestFilter.1.apply w, []⟩ := by
      simp only [forwardedRun, hin]
    obtain ⟨hexit, -, hevents⟩ := forwarded_silent rfl hrun
    exact ⟨hexit, hevents ▸ unwritten_entry _ _ rfl⟩
  unqueued := by
    intro handled hin hnone
    have hrun : forwardedRun self (self.inner.requestFilter.1.apply w) =
        ⟨.done handled, self.inner.requestFilter.1.apply w, []⟩ := by
      simp only [forwardedRun, hin, hnone]
    obtain ⟨hexit, -, hevents⟩ := forwarded_silent rfl hrun
    exact ⟨hexit, hevents ▸ unwritten_entry _ _ rfl⟩
  misused := by
    intro handled response hin hqueued hmisuse
    have hrun : forwardedRun self (self.inner.requestFilter.1.apply w) =
        ⟨.failed ⟨.internalError,
          "queued login response requires an unwritten response and Ok(false)"⟩,
          taken (self.inner.requestFilter.1.apply w), []⟩ := by
      simp only [forwardedRun, hin, hqueued, hmisuse, if_true, taken]
    obtain ⟨hexit, hstate, hevents⟩ := forwarded_silent rfl hrun
    refine ⟨⟨_, rfl, hexit⟩, hevents ▸ unwritten_entry _ _ rfl, hevents ▸ unclaimed_entry _ _,
      hstate, ?_⟩
    intro hopen inner engine e he
    rw [hstate] at hopen ⊢
    exact logging_duty _ _ hopen e he
  blocked := by
    intro response hqueued hblocked
    have hfilter := unwritten_responseFilter self (localWorld self w response)
    rw [run_forwardRequest_queued hqueued, after_exit, after_events]
    generalize (responseFilter self).run (localWorld self w response) = r at hblocked hfilter
    obtain ⟨exit, w', es⟩ := r
    cases exit with
    | done u => exact absurd rfl hblocked
    | failed error | cancelled =>
      refine ⟨?_, (unwritten_entry _ _ rfl).append hfilter⟩
      intro b hb
      cases hb
  delivered := by
    intro response w' es hqueued hfilter
    exact ⟨framed_localHeader response, delivered_queued hqueued hfilter⟩

end LocalResponses
