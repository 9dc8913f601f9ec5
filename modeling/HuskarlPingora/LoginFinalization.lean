import HuskarlPingora.CookieConservation

/-! # When finalization fails, and what it does to a header

A save that is lost blocks the response if the policy says so, and a revocation that
fails does not. What finalization adds to a header is cookies and `no-store`. -/
namespace LoginFinalization

open HttpModel LoginContext LoginAdapter LoginEffects LoginGate SessionLedger LoginAccess
open CookieConservation TracedHooks

variable {S : Type}

/-- The save a state owes was lost, and the policy blocks the response with `resp`. -/
structure Blocked (proxy : LoginProxy S) (st : LoginState S) (e : SessionError)
    (resp : LoginResponse) : Prop where
  unclaimed : st.finalized = false
  session : st.session.isSome
  kept : st.terminateRequested = false
  lost : ∃ pending, st.pending = some pending ∧
    proxy.engine.commit pending st.requestHeaders = .ready (.error e)
  policy : proxy.persistFailurePolicy e = some resp

def persistError (self : LoginProxy S) (e : SessionError) (resp : LoginResponse) : Error :=
  ⟨.httpStatus resp.status.code, "failed to persist session: " ++ self.engine.errorChain e⟩

theorem obligation_commit {st : LoginState S} {pending : PendingPersist S} {headers : HeaderMap} :
    obligation st = .commit pending headers ↔ st.session.isSome ∧ st.terminateRequested = false ∧
      st.pending = some pending ∧ st.requestHeaders = headers := by
  unfold obligation
  cases st.session with
  | none => simp
  | some sess =>
    cases st.terminateRequested with
    | true => simp
    | false => cases st.pending <;> simp

theorem claimRun_failed (self : LoginProxy S) (w : World S) (error : Error)
    (hf : w.ctx.finalized = false) : (claimRun self w).exit = .failed error ↔
      ∃ e resp, Blocked self w.ctx e resp ∧ error = persistError self e resp := by
  constructor
  · intro h
    unfold claimRun at h
    cases ho : obligation w.ctx with
    | nothing => simp [ho] at h
    | terminate sess headers abandoned =>
      cases hr : self.engine.terminateSession sess headers <;> simp [ho, hr] at h
    | commit pending headers =>
      obtain ⟨hs, ht, hp, hh⟩ := obligation_commit.mp ho
      cases hr : self.engine.commit pending headers with
      | dropped => simp [ho, hr] at h
      | ready result =>
        cases result with
        | ok cookies => simp [ho, hr] at h
        | error e =>
          cases hpolicy : self.persistFailurePolicy e with
          | none => simp [ho, hr, hpolicy] at h
          | some resp =>
            have hlost : self.engine.commit pending w.ctx.requestHeaders = .ready (.error e) := by
              rw [hh, hr]
            refine ⟨e, resp, ⟨hf, hs, ht, ⟨pending, hp, hlost⟩, hpolicy⟩, ?_⟩
            simpa [ho, hr, hpolicy, persistError] using h.symm
  · rintro ⟨e, resp, hblocked, rfl⟩
    obtain ⟨pending, hp, hlost⟩ := hblocked.lost
    have ho : obligation w.ctx = .commit pending w.ctx.requestHeaders :=
      obligation_commit.mpr ⟨hblocked.session, hblocked.kept, hp, rfl⟩
    simp [claimRun, ho, hlost, hblocked.policy, persistError]

theorem finalizeResponse_failed (self : LoginProxy S) (w : World S) (error : Error) :
    ((finalizeResponse self).run w).exit = .failed error ↔
      w.response.status.isInterim = false ∧
        ∃ e resp, Blocked self w.ctx e resp ∧ error = persistError self e resp := by
  by_cases hskip : w.response.status.isInterim = true ∨ w.ctx.finalized = true
  · rw [finalizeResponse_skips self w hskip]
    constructor
    · intro h
      cases h
    · rintro ⟨hi, e, resp, hblocked, -⟩
      rcases hskip with hinterim | hfinalized
      · simp [hi] at hinterim
      · simp [hblocked.unclaimed] at hfinalized
  · rw [not_or, Bool.not_eq_true, Bool.not_eq_true] at hskip
    rw [finalizeResponse_claims self w hskip.1 hskip.2, claimRun_failed self w error hskip.2]
    exact ⟨fun h => ⟨hskip.1, h⟩, fun h => h.2⟩

/-- The two ways a `response_filter` call fails. The state and the header are the ones
the inner filter leaves. -/
inductive Fails (self : LoginProxy S) (w : World S) : Error → Prop where
  | inner {e} : self.inner.responseFilter.2.2 = .ready (.error e) → Fails self w e
  | persist {e resp} : self.inner.responseFilter.2.2 = .ready (.ok ()) →
      (innerFiltered self w).response.status.isInterim = false →
      Blocked self (innerFiltered self w).ctx e resp → Fails self w (persistError self e resp)

theorem responseFilter_failed (self : LoginProxy S) (w : World S) (error : Error) :
    ((responseFilter self).run w).exit = .failed error ↔ Fails self w error := by
  rw [run_responseFilter, after_exit]
  constructor
  · intro h
    unfold filteredRun at h
    cases hin : self.inner.responseFilter.2.2 with
    | dropped => simp [hin] at h
    | ready result =>
      cases result with
      | error e =>
        obtain rfl : e = error := by simpa [hin] using h
        exact .inner hin
      | ok u =>
        simp only [hin] at h
        obtain ⟨hi, e, resp, hblocked, rfl⟩ := (finalizeResponse_failed self _ error).mp h
        exact .persist hin hi hblocked
  · intro h
    unfold filteredRun
    cases h with
    | inner hin => simp only [hin]
    | persist hin hi hblocked =>
      simp only [hin]
      exact (finalizeResponse_failed self _ _).mpr ⟨hi, _, _, hblocked, rfl⟩

structure Stamped (header header' : ResponseHeader) (added : SetCookies) : Prop where
  status : header'.status = header.status
  cookies : header'.getAll setCookieName = header.getAll setCookieName ++ added
  cacheControl : header'.getAll cacheControlName =
    if added.isEmpty then header.getAll cacheControlName else [⟨"no-store"⟩]
  others : ∀ name, name ≠ setCookieName → name ≠ cacheControlName →
    header'.getAll name = header.getAll name

theorem appended_others (header : ResponseHeader) (cookies : SetCookies) :
    let header' := cookies.foldl (fun acc c => acc.appendHeader setCookieName c) header
    header'.status = header.status ∧
      ∀ name, name ≠ setCookieName → header'.getAll name = header.getAll name := by
  induction cookies generalizing header with
  | nil => exact ⟨rfl, fun _ _ => rfl⟩
  | cons c cs ih =>
    obtain ⟨hstatus, hothers⟩ := ih (header.appendHeader setCookieName c)
    refine ⟨hstatus, fun name hname => ?_⟩
    exact (hothers name hname).trans (ResponseHeader.getAll_appendHeader_ne _ _ hname)

theorem stamped_withCookies (header : ResponseHeader) (cookies : SetCookies) :
    Stamped header (withCookies header cookies) cookies := by
  obtain ⟨hstatus, hothers⟩ := appended_others header cookies
  have hcookies := getAll_withCookies header cookies
  cases cookies with
  | nil => exact ⟨rfl, hcookies, rfl, fun _ _ _ => rfl⟩
  | cons c cs =>
    refine ⟨hstatus, hcookies, ?_, ?_⟩
    · exact ResponseHeader.getAll_insertHeader_self _ _ _
    · intro name hcookie hcache
      exact (ResponseHeader.getAll_insertHeader_ne _ _ hcache).trans (hothers name hcookie)

theorem Stamped.trans {header header' header'' : ResponseHeader} {added added' : SetCookies}
    (h : Stamped header header' added) (h' : Stamped header' header'' added') :
    Stamped header header'' (added ++ added') := by
  refine ⟨h'.status.trans h.status, ?_, ?_, ?_⟩
  · rw [h'.cookies, h.cookies, List.append_assoc]
  · rw [h'.cacheControl, h.cacheControl]
    cases added <;> cases added' <;> rfl
  · intro name hcookie hcache
    rw [h'.others name hcookie hcache, h.others name hcookie hcache]

/-- The cookies the engine call of a claim brings: the clears of a termination, whether
or not the revocation succeeded, or those of a save that succeeded. -/
def earned (self : LoginProxy S) (st : LoginState S) : SetCookies :=
  match obligation st with
  | .nothing => []
  | .terminate sess headers _ =>
    match self.engine.terminateSession sess headers with
    | .ready result => result.clears
    | .dropped => []
  | .commit pending headers =>
    match self.engine.commit pending headers with
    | .ready (.ok cookies) => cookies
    | _ => []

theorem returned_earned {self : LoginProxy S} {phase : LoginPhase} {st : LoginState S}
    {exit : Exit Error Unit} {back : List (Event S)} {cookies : SetCookies}
    (h : Returned self phase (obligation st) exit back cookies) : cookies = earned self st := by
  unfold earned
  generalize obligation st = o at h
  cases h with
  | nothing => rfl
  | terminateDropped hr | terminated hr | commitDropped hr | committed hr | failed hr => simp [hr]

theorem claimRun_stamped (self : LoginProxy S) (w : World S) :
    Stamped w.response (claimRun self w).state.response
      (w.ctx.setCookies ++ earned self w.ctx) := by
  obtain ⟨exit, back, cookies, hreturned, hrun⟩ := claimRun_cases self w
  rw [hrun, ← returned_earned hreturned]
  exact (stamped_withCookies _ _).trans (stamped_withCookies _ cookies)

def added (self : LoginProxy S) (w : World S) : SetCookies :=
  if w.response.status.isInterim || w.ctx.finalized then []
  else w.ctx.setCookies ++ earned self w.ctx

theorem finalizeResponse_stamped (self : LoginProxy S) (w : World S) :
    Stamped w.response ((finalizeResponse self).run w).state.response (added self w) := by
  by_cases hskip : w.response.status.isInterim = true ∨ w.ctx.finalized = true
  · have hnone : added self w = [] := if_pos (by simpa using hskip)
    rw [finalizeResponse_skips self w hskip, hnone]
    exact ⟨rfl, (List.append_nil _).symm, rfl, fun _ _ _ => rfl⟩
  · have hsome : added self w = w.ctx.setCookies ++ earned self w.ctx :=
      if_neg (by simpa using hskip)
    rw [not_or, Bool.not_eq_true, Bool.not_eq_true] at hskip
    rw [finalizeResponse_claims self w hskip.1 hskip.2, hsome]
    exact claimRun_stamped self w

structure HeaderEffect (proxy : LoginProxy S) (w : World S) : Prop where
  stamped : Stamped w.response ((finalizeResponse proxy).run w).state.response
    (w.ctx.setCookies ++ earned proxy w.ctx)
  /-- Whatever the load sealed again, a browser is left with the clears of a termination. -/
  cleared : ∀ sess headers abandoned result,
    obligation w.ctx = .terminate sess headers abandoned →
    proxy.engine.terminateSession sess headers = .ready result →
    earned proxy w.ctx = result.clears ∧
      ∀ {κ : Type} [DecidableEq κ] (key : HeaderValue → κ) jar, ∀ clear ∈ result.clears,
        ∃ kept ∈ result.clears, FieldMultimap.keep key jar
          (((finalizeResponse proxy).run w).state.response.getAll setCookieName) (key clear) =
            some kept
  again : ∀ header,
    let w' := { ((finalizeResponse proxy).run w).state with response := header }
    (finalizeResponse proxy).run w' = ⟨.done (), w', []⟩

/-- Finalization appends the cookies of the load and of its engine call, in this order,
and nothing else changes but the caching of a header that got one. -/
theorem finalization_header_exact (self : LoginProxy S) (w : World S)
    (hi : w.response.status.isInterim = false) (hf : w.ctx.finalized = false) :
    HeaderEffect self w := by
  have hrun := finalizeResponse_claims self w hi hf
  have hstamped := claimRun_stamped self w
  rw [← hrun] at hstamped
  refine ⟨hstamped, ?_, ?_⟩
  · intro sess headers abandoned result ho hr
    have hearned : earned self w.ctx = result.clears := by simp [earned, ho, hr]
    refine ⟨hearned, fun key jar clear hclear => ?_⟩
    rw [hstamped.cookies, hearned, ← List.append_assoc]
    exact FieldMultimap.keep_append_of_mem key jar _ (List.mem_map_of_mem hclear)
  · intro header
    have hclaimed : ((finalizeResponse self).run w).state.ctx.finalized = true := by
      rw [hrun, SessionObligations.claimRun_finalized]
      rfl
    exact finalizeResponse_skips self _ (.inr hclaimed)

/-- A termination after a load that sealed the session again. The revocation fails. -/
def terminatingProxy : LoginProxy ℕ :=
  let login : LoginResponse := ⟨.ok, [], []⟩
  let idle : InnerEffect := ⟨none, [], fun header => header, fun response => response⟩
  { inner :=
      ⟨(idle, .ready (.ok false)), (idle, fun header => header, .ready (.ok ())), (idle, .ready ())⟩
    engine :=
      { isCorsPreflight := fun _ _ => false
        tryHandleLoginRoute := fun _ _ _ => .ready none
        loadSession := fun _ => .ready (.ok .missing)
        commit := fun _ _ => .ready (.ok [])
        terminateSession := fun _ _ =>
          .ready ⟨[⟨"sid=; Max-Age=0"⟩, ⟨"chunk=; Max-Age=0"⟩], .error ⟨.store, "unreachable"⟩⟩
        redirectToLogin := fun _ _ => .ready login
        renderError := fun status _ => ⟨status, [], []⟩
        stripSessionCredentials := fun headers => headers
        errorChain := fun _ => "" }
    routes := ⟨fun _ _ => .ok (.required none .any)⟩
    persistFailurePolicy := fun _ => none
    corsPassthrough := false
    metricsName := none
    diagnostics := false }

def terminatedWorld : World ℕ where
  session := ⟨⟨.get, ⟨none, none, some ⟨"/app", none⟩⟩, []⟩, none, none, .ready (.ok ()),
    .ready (.ok ())⟩
  ctx := { LoginState.fresh with
    session := some 7, terminateRequested := true, setCookies := [⟨"sid=7"⟩, ⟨"chunk=1"⟩] }
  response := ⟨.ok, [(setCookieName, ⟨"theme=dark"⟩), (cacheControlName, ⟨"public"⟩),
    (cacheControlName, ⟨"max-age=60"⟩), (contentTypeName, ⟨"text/html"⟩)]⟩

theorem finalization_header_exact_terminated :
    let header := ((finalizeResponse terminatingProxy).run terminatedWorld).state.response
    HeaderEffect terminatingProxy terminatedWorld ∧
      header.getAll setCookieName = [⟨"theme=dark"⟩, ⟨"sid=7"⟩, ⟨"chunk=1"⟩, ⟨"sid=; Max-Age=0"⟩,
        ⟨"chunk=; Max-Age=0"⟩] ∧
      header.getAll cacheControlName = [⟨"no-store"⟩] ∧
      header.getAll contentTypeName = [⟨"text/html"⟩] := by
  have h : HeaderEffect terminatingProxy terminatedWorld :=
    finalization_header_exact terminatingProxy terminatedWorld (by decide) (by decide)
  exact ⟨h, h.stamped.cookies, h.stamped.cacheControl,
    h.stamped.others contentTypeName (by decide) (by decide)⟩

def isWrite : Event S → Bool
  | .writeResponseHeader _ _ | .writeResponseBody _ _ => true
  | _ => false

def Unwritten (es : List (Event S)) : Prop := ∀ e ∈ es, isWrite e = false

theorem Unwritten.append {es es' : List (Event S)} (h : Unwritten es) (h' : Unwritten es') :
    Unwritten (es ++ es') := by
  intro e he
  rcases List.mem_append.mp he with he | he
  · exact h e he
  · exact h' e he

theorem unwritten_cookies (cookies : SetCookies) :
    Unwritten (cookies.map .appendSetCookie : List (Event S)) := by
  intro e he
  obtain ⟨c, -, rfl⟩ := List.mem_map.mp he
  rfl

theorem unwritten_observed {α : Type} (self : LoginProxy S) (operation : SessionOperation)
    (phase : LoginPhase) (result : Except SessionError α) :
    Unwritten (observed self operation phase result) :=
  forall_mem_observed (fun _ _ => rfl) fun _ => rfl

theorem unwritten_entry (seen : Event S) (effect : InnerEffect) (h : isWrite seen = false) :
    Unwritten (seen :: terminateWrites effect) := by
  have hone : Unwritten [seen] := by simpa [Unwritten] using h
  have heffect : Unwritten (terminateWrites effect : List (Event S)) := by
    unfold Unwritten terminateWrites
    cases effect.terminateRequested <;> simp [isWrite]
  exact hone.append heffect

theorem unwritten_returned {self : LoginProxy S} {phase : LoginPhase} {o : Obligation S}
    {exit : Exit Error Unit} {back : List (Event S)} {cookies : SetCookies}
    (h : Returned self phase o exit back cookies) : Unwritten back := by
  have hback : ∀ {α : Type} (e : Event S) operation (result : Except SessionError α),
      isWrite e = false → Unwritten (e :: observed self operation phase result) := by
    intro α e operation result he
    have hone : Unwritten [e] := by simpa [Unwritten] using he
    exact hone.append (unwritten_observed self operation phase result)
  cases h with
  | nothing | terminateDropped | commitDropped => simp [Unwritten]
  | terminated | committed | failed => exact hback _ _ _ rfl

theorem unwritten_claimRun (self : LoginProxy S) (w : World S) :
    Unwritten (claimRun self w).events := by
  obtain ⟨exit, back, cookies, hreturned, hrun⟩ := claimRun_cases self w
  have hclaim : Unwritten [finalizationEvent self .response] := by
    simp [Unwritten, finalizationEvent, isWrite]
  have hduty : Unwritten (duty (obligation w.ctx)) := by
    rcases obligation w.ctx with _ | ⟨session, headers, _ | pending⟩ | ⟨pending, headers⟩ <;>
      simp [Unwritten, duty, abandonEvents, isWrite]
  rw [hrun]
  exact ((hclaim.append (unwritten_cookies _)).append hduty).append
    ((unwritten_returned hreturned).append (unwritten_cookies cookies))

theorem unwritten_responseFilter (self : LoginProxy S) (w : World S) :
    Unwritten ((responseFilter self).run w).events := by
  rw [run_responseFilter, after_events]
  refine (unwritten_entry _ _ rfl).append ?_
  unfold filteredRun
  cases self.inner.responseFilter.2.2 with
  | dropped => simp [Unwritten]
  | ready result =>
    cases result with
    | error e => simp [Unwritten]
    | ok u =>
      by_cases hskip : (innerFiltered self w).response.status.isInterim = true ∨
          (innerFiltered self w).ctx.finalized = true
      · simp [finalizeResponse_skips self _ hskip, Unwritten]
      · rw [not_or, Bool.not_eq_true, Bool.not_eq_true] at hskip
        simp only [finalizeResponse_claims self _ hskip.1 hskip.2]
        exact unwritten_claimRun self _

structure Queued (proxy : LoginProxy S) (w : World S) (response : LoginResponse) : Prop where
  accepted : proxy.inner.requestFilter.2 = .ready (.ok false)
  queued : (proxy.inner.requestFilter.1.apply w).ctx.response = some response
  unwritten : (proxy.inner.requestFilter.1.apply w).session.responseWritten = none

/-- The world the response filter of a queued response runs in. -/
def localWorld (self : LoginProxy S) (w : World S) (response : LoginResponse) : World S :=
  { taken (self.inner.requestFilter.1.apply w) with response := localHeader response }

theorem run_forwardRequest_queued {self : LoginProxy S} {w : World S} {response : LoginResponse}
    (h : Queued self w response) : (forwardRequest self).run w =
      (((responseFilter self).run (localWorld self w response)).andThen fun _ w' =>
        ((writeOut w'.response (sendsBody response w') response.body).run w').andThen
          fun _ w'' => ⟨.done true, w'', []⟩).after
        (.innerRequestFilter w.ctx :: terminateWrites self.inner.requestFilter.1) := by
  rw [run_forwardRequest, forwardedRun]
  simp only [h.accepted, h.queued, h.unwritten]
  rfl

def denialRun (self : LoginProxy S) (msg : String) (setCookies : SetCookies) (w : World S) :
    Ran Error (World S) (Event S) Bool :=
  ((writeLoginResponse (self.engine.renderError .forbidden msg) setCookies).run w).andThen
    fun _ w' => ⟨.done true, w', []⟩

structure FinalizationOutcomes (proxy : LoginProxy S) : Prop where
  fails : ∀ w error, ((responseFilter proxy).run w).exit = .failed error ↔ Fails proxy w error
  /-- The clears of a termination are sent whichever way the revocation went. -/
  revoked : ∀ w sess headers abandoned result,
    proxy.inner.responseFilter.2.2 = .ready (.ok ()) →
    (innerFiltered proxy w).response.status.isInterim = false →
    (innerFiltered proxy w).ctx.finalized = false →
    obligation (innerFiltered proxy w).ctx = .terminate sess headers abandoned →
    proxy.engine.terminateSession sess headers = .ready result →
    ((responseFilter proxy).run w).exit = .done () ∧
      ((responseFilter proxy).run w).state.response.getAll setCookieName =
        (innerFiltered proxy w).response.getAll setCookieName ++
          (innerFiltered proxy w).ctx.setCookies ++ result.clears
  queued : ∀ w response error, Queued proxy w response →
    ((responseFilter proxy).run (localWorld proxy w response)).exit = .failed error →
    ((forwardRequest proxy).run w).exit = .failed error ∧
      Unwritten ((forwardRequest proxy).run w).events
  /-- A denial is written as if no save had been owed. -/
  denied : ∀ w headers msg pending setCookies e,
    proxy.engine.commit pending headers = .ready (.error e) → ∃ pre pre',
      (serveForbidden proxy headers msg (some pending) setCookies).run w =
        (denialRun proxy msg setCookies w).after pre ∧
      (serveForbidden proxy headers msg none setCookies).run w =
        (denialRun proxy msg setCookies w).after pre' ∧ Unwritten pre ∧ Unwritten pre'
  /-- Its header has the status of the rendered denial and every cookie of the load. -/
  carried : ∀ w msg setCookies, ∃ pre answer,
    denialRun proxy msg setCookies w = answer.after pre ∧ Unwritten pre ∧
      Sent (loginHeader (proxy.engine.renderError .forbidden msg) setCookies)
        (carriesBody w (proxy.engine.renderError .forbidden msg))
        (proxy.engine.renderError .forbidden msg).body true w answer ∧
      (loginHeader (proxy.engine.renderError .forbidden msg) setCookies).status =
        (proxy.engine.renderError .forbidden msg).status ∧
      setCookies <:+ (loginHeader (proxy.engine.renderError .forbidden msg) setCookies).getAll
        setCookieName

theorem run_serveForbidden (self : LoginProxy S) (headers : HeaderMap) (msg : String)
    (setCookies : SetCookies) (w : World S) :
    (serveForbidden self headers msg none setCookies).run w =
      (denialRun self msg setCookies w).after [decisionEvent self "forbidden"] := by
  simp [serveForbidden, denialRun]

theorem run_serveForbidden_lost {self : LoginProxy S} {headers : HeaderMap}
    {pending : PendingPersist S} {e : SessionError}
    (h : self.engine.commit pending headers = .ready (.error e)) (msg : String)
    (setCookies : SetCookies) (w : World S) :
    (serveForbidden self headers msg (some pending) setCookies).run w =
      (denialRun self msg setCookies w).after (decisionEvent self "forbidden" ::
        .commit pending headers :: .committed (.error e) ::
          observed self .persist .denied (.error e : Except SessionError SetCookies)) := by
  simp [serveForbidden, denialRun, run_commit, h]

theorem unwritten_decision (self : LoginProxy S) (outcome : String) :
    Unwritten [decisionEvent self outcome] := by
  simp [Unwritten, decisionEvent, isWrite]

/-- The response is refused exactly for a lost save the policy rejects, and a denial never. -/
theorem finalization_fails_exactly (self : LoginProxy S) : FinalizationOutcomes self where
  fails := responseFilter_failed self
  revoked := by
    intro w sess headers abandoned result hin hi hf ho hr
    have hrun : filteredRun self w = claimRun self (innerFiltered self w) := by
      simp only [filteredRun, hin]
      exact finalizeResponse_claims self _ hi hf
    have hexit : (claimRun self (innerFiltered self w)).exit = .done () := by
      simp [claimRun, ho, hr]
    have hearned : earned self (innerFiltered self w).ctx = result.clears := by
      simp [earned, ho, hr]
    rw [run_responseFilter, after_exit, after_state, hrun]
    refine ⟨hexit, ?_⟩
    rw [(claimRun_stamped self (innerFiltered self w)).cookies, hearned, List.append_assoc]
  queued := by
    intro w response error hqueued hfailed
    have hfilter := unwritten_responseFilter self (localWorld self w response)
    rw [run_forwardRequest_queued hqueued, after_exit, after_events]
    generalize (responseFilter self).run (localWorld self w response) = r at hfailed hfilter
    obtain ⟨exit, w', es⟩ := r
    obtain rfl : exit = .failed error := hfailed
    exact ⟨rfl, (unwritten_entry _ _ rfl).append hfilter⟩
  denied := by
    intro w headers msg pending setCookies e hlost
    refine ⟨_, _, run_serveForbidden_lost hlost msg setCookies w,
      run_serveForbidden self headers msg setCookies w, ?_, unwritten_decision self _⟩
    have hcall : Unwritten [decisionEvent self "forbidden", .commit pending headers,
        .committed (.error e)] := by
      simp [Unwritten, decisionEvent, isWrite]
    exact hcall.append (unwritten_observed self .persist .denied _)
  carried := by
    intro w msg setCookies
    have hsent := sent_writeOut_returning
      (loginHeader (self.engine.renderError .forbidden msg) setCookies)
      (carriesBody w (self.engine.renderError .forbidden msg))
      (self.engine.renderError .forbidden msg).body w true
    refine ⟨_, _, ?_, unwritten_cookies setCookies, hsent, ?_, ?_⟩
    · rw [denialRun, run_writeLoginResponse, after_andThen]
    · exact (appended_others _ setCookies).1.trans (appendHeaders_status _ _)
    · rw [loginHeader, getAll_append_cookies]
      exact List.suffix_append _ _

end LoginFinalization
