import HuskarlPingora.EventMonitors
import HuskarlPingora.LoginLifecycle

/-! # The protocol of the session engine

The order in which the login adapter calls the engine for one request, as a monitor over
the events of a run. The monitor remembers what the load handed over; the login state of
the request agrees with it until the final header is claimed. -/
namespace EngineProtocol

open HttpModel LoginContext LoginAdapter LoginEffects LoginGate LoginLifecycle
open TracedHooks EventMonitors

variable {S α : Type}

inductive Stage (S : Type) where
  | idle
  | tried
  | loading (headers : HeaderMap)
  /-- The load found nobody. -/
  | lacking
  | holding (headers : HeaderMap) (session : S) (pending : Option (PendingPersist S))
  /-- The save was given up, so the session must end. -/
  | abandoned (headers : HeaderMap) (session : S)
  | committing
  | terminating
  | closed

def engineEvent : Event S → Bool
  | .tryHandleLoginRoute | .loadSession _ | .loaded _ | .redirectToLogin | .commit _ _ => true
  | .committed _ | .abandon _ | .terminateSession _ _ | .terminated _ => true
  | _ => false

inductive EngineStep : Monitor (Stage S) (Event S)
  | other {g e} : engineEvent e = false → EngineStep g e g
  | tries : EngineStep .idle .tryHandleLoginRoute .tried
  | loads (headers) : EngineStep .tried (.loadSession headers) (.loading headers)
  | fails (headers error) : EngineStep (.loading headers) (.loaded (.error error)) .closed
  | unavailable (headers) :
      EngineStep (.loading headers) (.loaded (.ok .refreshUnavailable)) .closed
  | lacks (headers loaded) : LoadedSession.Anonymous loaded →
      EngineStep (.loading headers) (.loaded (.ok loaded)) .lacking
  | holds (headers loaded session) : LoadedSession.session? loaded = some session →
      EngineStep (.loading headers) (.loaded (.ok loaded))
        (.holding headers session (LoadedSession.pending? loaded))
  | redirects : EngineStep .lacking .redirectToLogin .closed
  | commits (headers session pending) :
      EngineStep (.holding headers session (some pending)) (.commit pending headers) .committing
  | committed (result) : EngineStep .committing (.committed result) .closed
  | abandons (headers session pending) :
      EngineStep (.holding headers session (some pending)) (.abandon pending)
        (.abandoned headers session)
  | ends (headers session) :
      EngineStep (.holding headers session none) (.terminateSession session headers) .terminating
  | endsAbandoned (headers session) :
      EngineStep (.abandoned headers session) (.terminateSession session headers) .terminating
  | terminated (result) : EngineStep .terminating (.terminated result) .closed

def Relieved (g : Stage S) : Prop := ∀ headers session pending,
  g ≠ .holding headers session (some pending)

/-- The login state and the protocol tell of the same session and the same save. -/
structure Agrees (st : LoginState S) (g : Stage S) : Prop where
  held : st.finalized = false → ∀ session, st.session = some session →
    g = .holding st.requestHeaders session st.pending
  owed : ∀ headers session pending, g = .holding headers session (some pending) →
    st.finalized = false ∧ st.session = some session ∧ st.requestHeaders = headers ∧
      st.pending = some pending

theorem agrees_relieved {st : LoginState S} {g : Stage S} (hr : Relieved g)
    (h : st.finalized = true ∨ st.session = none) : Agrees st g := by
  refine ⟨fun hf session hs => ?_, fun headers session pending hg => ?_⟩
  · rcases h with h | h
    · rw [hf] at h
      cases h
    · rw [hs] at h
      cases h
  · exact absurd hg (hr headers session pending)

theorem Agrees.of_same {st st' : LoginState S} {g : Stage S} (h : Agrees st g)
    (hf : st'.finalized = st.finalized) (hs : st'.session = st.session)
    (hh : st'.requestHeaders = st.requestHeaders) (hp : st'.pending = st.pending) :
    Agrees st' g := by
  constructor
  · rw [hf, hs, hh, hp]
    exact h.held
  · rw [hf, hs, hh, hp]
    exact h.owed

abbrev Keeps (m : LoginHook S α) : Prop :=
  Triple EngineStep (fun w g => Agrees w.ctx g) m (fun _ w g => Agrees w.ctx g)
    fun w g => Agrees w.ctx g

theorem keeps_quiet {m : LoginHook S α}
    (hevents : ∀ w, ∀ e ∈ (m.run w).events, engineEvent e = false)
    (hctx : ∀ w g, Agrees w.ctx g → Agrees (m.run w).state.ctx g) : Keeps m :=
  triple_ignored (fun w _ _ e he => .other (hevents w e he)) fun w g h => hctx w g h

theorem keeps_updateCtx {f : LoginState S → LoginState S}
    (h : ∀ st g, Agrees st g → Agrees (f st) g) : Keeps (updateCtx f) :=
  triple_update fun w g hw => h w.ctx g hw

theorem keeps_updateResponse (f : ResponseHeader → ResponseHeader) :
    Keeps (updateResponse f : LoginHook S Unit) :=
  triple_update fun _ _ h => h

theorem keeps_emit {e : Event S} (h : engineEvent e = false) : Keeps (emit e) :=
  triple_emit fun _ g hw => ⟨g, .other h, hw⟩

theorem keeps_await (x : Await α) : Keeps (await x : LoginHook S α) :=
  triple_await x (fun _ _ _ _ h => h) fun _ _ _ h => h

theorem keeps_attempt (x : Except Error α) : Keeps (attempt x : LoginHook S α) :=
  triple_attempt x (fun _ _ _ _ h => h) fun _ _ _ _ h => h

theorem keeps_fail (e : Error) : Keeps (fail e : LoginHook S α) :=
  triple_fail e fun _ _ h => h

theorem keeps_pure (a : α) : Keeps (pure a : LoginHook S α) :=
  triple_pure a fun _ _ h => h

/-- What a hook read makes no difference to the engine. -/
theorem keeps_read {f : World S → LoginHook S α} (h : ∀ w, Keeps (f w)) : Keeps (read >>= f) :=
  triple_read fun w => (h w).pre fun _ _ hw => hw.2

theorem agrees_apply (effect : InnerEffect) (w : World S) (g : Stage S) (h : Agrees w.ctx g) :
    Agrees (effect.apply w).ctx g := by
  rw [InnerEffect.apply, SessionLedger.respondAll_ctx]
  exact h.of_same rfl rfl rfl rfl

theorem keeps_innerEffect (effect : InnerEffect) :
    Keeps (innerEffect effect : LoginHook S Unit) := by
  refine keeps_quiet (fun w e he => ?_) fun w g h => ?_
  · rw [run_innerEffect] at he
    cases hv : effect.terminateRequested with
    | none => simp [terminateWrites, hv] at he
    | some value =>
      obtain rfl : e = .setTerminateRequested value := by simpa [terminateWrites, hv] using he
      rfl
  · rw [run_innerEffect]
    exact agrees_apply effect w g h

theorem keeps_innerRequestFilter (self : LoginProxy S) : Keeps (innerRequestFilter self) :=
  keeps_read fun _ => (keeps_emit rfl).bind fun _ => (keeps_innerEffect _).bind fun _ =>
    (keeps_await _).bind fun result => keeps_attempt result

theorem keeps_innerResponseFilter (self : LoginProxy S) : Keeps (innerResponseFilter self) :=
  keeps_read fun _ => (keeps_emit rfl).bind fun _ => (keeps_innerEffect _).bind fun _ =>
    (keeps_updateResponse _).bind fun _ => (keeps_await _).bind fun result => keeps_attempt result

theorem keeps_innerLogging (self : LoginProxy S) : Keeps (innerLogging self) :=
  keeps_read fun _ => (keeps_emit rfl).bind fun _ => (keeps_innerEffect _).bind fun _ =>
    keeps_await _

theorem keeps_writeResponseHeader (header : ResponseHeader) (endOfStream : Bool) :
    Keeps (writeResponseHeader header endOfStream : LoginHook S Unit) :=
  (keeps_emit rfl).bind fun _ => keeps_read fun _ => (keeps_await _).bind fun result =>
    (keeps_attempt result).bind fun _ => triple_update fun _ _ h => h

theorem keeps_writeResponseBody (body : Bytes) (endOfStream : Bool) :
    Keeps (writeResponseBody body endOfStream : LoginHook S Unit) :=
  (keeps_emit rfl).bind fun _ => keeps_read fun _ => (keeps_await _).bind fun result =>
    keeps_attempt result

theorem keeps_writeLoginResponse (resp : LoginResponse) (cookies : SetCookies) :
    Keeps (writeLoginResponse resp cookies : LoginHook S Unit) := by
  have happended : ∀ header, Keeps (appendExtraCookies header cookies : LoginHook S _) := by
    intro header
    refine keeps_quiet (fun w e he => ?_) fun w g h => ?_
    · rw [run_appendExtraCookies] at he
      obtain ⟨cookie, -, rfl⟩ := List.mem_map.mp he
      rfl
    · rw [run_appendExtraCookies]
      exact h
  refine (happended _).bind fun header => keeps_read fun w => ?_
  refine (keeps_writeResponseHeader _ _).bind fun _ => ?_
  split
  · exact keeps_writeResponseBody _ _
  · exact keeps_pure ()

section Work

variable {g : Stage S} {st : LoginState S} {es es' : List (Event S)}

theorem reads_quiet (h : ∀ e ∈ es, engineEvent e = false) : Reads EngineStep g es g :=
  .ignored fun e he => .other (h e he)

theorem quiet_observed {β : Type} (self : LoginProxy S) (operation : SessionOperation)
    (phase : LoginPhase) (result : Except SessionError β) :
    ∀ e ∈ observed self operation phase result, engineEvent e = false :=
  forall_mem_observed (fun _ _ => rfl) fun _ => rfl

theorem quiet_stranded (self : LoginProxy S) (cookies : SetCookies) :
    ∀ e ∈ strandedEvents self cookies, engineEvent e = false :=
  forall_mem_stranded (fun _ _ => rfl) (fun _ => rfl) rfl

theorem quiet_cookies (cookies : SetCookies) :
    ∀ e ∈ (cookies.map .appendSetCookie : List (Event S)), engineEvent e = false := by
  intro e he
  obtain ⟨cookie, -, rfl⟩ := List.mem_map.mp he
  rfl

theorem reads_terminate {headers : HeaderMap} {session : S} {pending : Option (PendingPersist S)}
    (h : ∀ e ∈ es, engineEvent e = false) :
    Reads EngineStep (.holding headers session pending)
      (es ++ abandonEvents pending ++ [.terminateSession session headers]) .terminating := by
  rw [List.append_assoc]
  refine (reads_quiet h).append ?_
  cases pending with
  | none => exact .single (.ends headers session)
  | some pending => exact .cons (.abandons headers session pending) (.single (.endsAbandoned _ _))

theorem reads_commit {headers : HeaderMap} {session : S} {pending : PendingPersist S}
    (h : ∀ e ∈ es, engineEvent e = false) :
    Reads EngineStep (.holding headers session (some pending))
      (es ++ [.commit pending headers]) .committing :=
  (reads_quiet h).append (.single (.commits headers session pending))

theorem reads_terminated (h : ∀ e ∈ es, engineEvent e = false)
    (h' : ∀ e ∈ es', engineEvent e = false) (headers : HeaderMap) (session : S)
    (pending : Option (PendingPersist S)) (result : Termination) :
    Reads EngineStep (.holding headers session pending)
      (es ++ abandonEvents pending ++ [.terminateSession session headers] ++
        .terminated result :: es') .closed :=
  (reads_terminate h).append (.cons (.terminated result) (reads_quiet h'))

theorem reads_committed (h : ∀ e ∈ es, engineEvent e = false)
    (h' : ∀ e ∈ es', engineEvent e = false) (headers : HeaderMap) (session : S)
    (pending : PendingPersist S) (result : Except SessionError SetCookies) :
    Reads EngineStep (.holding headers session (some pending))
      (es ++ [.commit pending headers] ++ .committed result :: es') .closed :=
  (reads_commit h).append (.cons (.committed result) (reads_quiet h'))

theorem Agrees.of_terminate (h : Agrees st g) (hf : st.finalized = false) {session : S}
    {headers : HeaderMap} {pending : Option (PendingPersist S)}
    (ho : obligation st = .terminate session headers pending) :
    g = .holding headers session pending := by
  unfold obligation at ho
  cases hs : st.session with
  | none => simp [hs] at ho
  | some held =>
    have hg := h.held hf held hs
    by_cases ht : st.terminateRequested
    · simp only [hs, ht, if_true, Obligation.terminate.injEq] at ho
      obtain ⟨rfl, rfl, rfl⟩ := ho
      exact hg
    · cases hp : st.pending <;> simp [hs, ht, hp] at ho

theorem Agrees.of_commit (h : Agrees st g) (hf : st.finalized = false) {headers : HeaderMap}
    {pending : PendingPersist S} (ho : obligation st = .commit pending headers) :
    ∃ session, g = .holding headers session (some pending) := by
  unfold obligation at ho
  cases hs : st.session with
  | none => simp [hs] at ho
  | some held =>
    have hg := h.held hf held hs
    by_cases ht : st.terminateRequested
    · simp [hs, ht] at ho
    · cases hp : st.pending with
      | none => simp [hs, ht, hp] at ho
      | some save =>
        simp only [hs, ht, hp, if_false, Bool.false_eq_true, Obligation.commit.injEq] at ho
        obtain ⟨rfl, rfl⟩ := ho
        exact ⟨held, hp ▸ hg⟩

theorem Agrees.of_nothing (h : Agrees st g) (ho : obligation st = .nothing) : Relieved g := by
  intro headers session pending hg
  obtain ⟨-, hs, -, hp⟩ := h.owed headers session pending hg
  unfold obligation at ho
  by_cases ht : st.terminateRequested
  · simp [hs, ht] at ho
  · simp [hs, ht, hp] at ho

end Work

theorem relieved_closed : Relieved (.closed : Stage S) := by
  intro headers session pending hg
  cases hg

theorem relieved_committing : Relieved (.committing : Stage S) := by
  intro headers session pending hg
  cases hg

theorem relieved_terminating : Relieved (.terminating : Stage S) := by
  intro headers session pending hg
  cases hg

theorem keeps_finalizeResponse (self : LoginProxy S) : Keeps (finalizeResponse self) := by
  intro w g h
  by_cases hi : w.response.status.isInterim
  · rw [finalizeResponse_skips self w (.inl hi)]
    exact ⟨g, .nil g, h⟩
  by_cases hf : w.ctx.finalized
  · rw [finalizeResponse_skips self w (.inr hf)]
    exact ⟨g, .nil g, h⟩
  rw [Bool.not_eq_true] at hi hf
  rw [finalizeResponse_claims self w hi hf]
  have hquiet : ∀ e ∈ (finalizationEvent self .response ::
      w.ctx.setCookies.map .appendSetCookie : List (Event S)), engineEvent e = false := by
    intro e he
    rcases List.mem_cons.mp he with rfl | he
    · rfl
    · exact quiet_cookies _ e he
  unfold claimRun
  cases ho : obligation w.ctx with
  | nothing => exact ⟨g, reads_quiet hquiet, agrees_relieved (h.of_nothing ho) (.inl rfl)⟩
  | terminate session headers pending =>
    obtain rfl := h.of_terminate hf ho
    cases hr : self.engine.terminateSession session headers with
    | dropped =>
      simp only [hr]
      exact ⟨_, reads_terminate hquiet, agrees_relieved relieved_terminating (.inl rfl)⟩
    | ready result =>
      simp only [hr]
      refine ⟨.closed, ?_, agrees_relieved relieved_closed (.inl rfl)⟩
      refine Reads.append ?_ (reads_quiet (quiet_cookies result.clears))
      exact reads_terminated hquiet (quiet_observed _ _ _ _) headers session pending result
  | commit pending headers =>
    obtain ⟨session, rfl⟩ := h.of_commit hf ho
    cases hr : self.engine.commit pending headers with
    | dropped =>
      simp only [hr]
      exact ⟨_, reads_commit hquiet, agrees_relieved relieved_committing (.inl rfl)⟩
    | ready result =>
      have hcommitted := reads_committed hquiet (quiet_observed self .persist .response result)
        headers session pending result
      cases result with
      | ok cookies =>
        simp only [hr]
        exact ⟨.closed, hcommitted.append (reads_quiet (quiet_cookies cookies)),
          agrees_relieved relieved_closed (.inl rfl)⟩
      | error e =>
        simp only [hr]
        cases self.persistFailurePolicy e with
        | some resp => exact ⟨.closed, hcommitted, agrees_relieved relieved_closed (.inl rfl)⟩
        | none => exact ⟨.closed, hcommitted, agrees_relieved relieved_closed (.inl rfl)⟩

theorem keeps_responseFilter (self : LoginProxy S) : Keeps (responseFilter self) :=
  (keeps_innerResponseFilter self).bind fun _ => keeps_finalizeResponse self

theorem keeps_forwardRequest (self : LoginProxy S) : Keeps (forwardRequest self) := by
  refine (keeps_innerRequestFilter self).bind fun handled => keeps_read fun w => ?_
  cases w.ctx.response with
  | none => exact keeps_pure handled
  | some response =>
    refine Triple.bind (keeps_updateCtx ?_) fun _ => ?_
    · exact fun st g h => h.of_same rfl rfl rfl rfl
    dsimp only
    split
    · exact keeps_fail _
    · refine (keeps_updateResponse _).bind fun _ => (keeps_responseFilter self).bind fun _ => ?_
      refine keeps_read fun w => (keeps_writeResponseHeader _ _).bind fun _ => ?_
      split
      · exact (keeps_writeResponseBody _ _).bind fun _ => keeps_pure true
      · exact keeps_pure true

def drain (self : LoginProxy S) : LoginHook S Unit := drainRun self

theorem drained_finalized (st : LoginState S) : (drained st).finalized = true := by
  unfold drained
  cases st.session <;> rfl

theorem triple_drain (self : LoginProxy S) :
    Triple EngineStep (fun w g => Agrees w.ctx g ∧ w.ctx.finalized = false) (drain self)
      (fun _ w g => Agrees w.ctx g) fun w g => Agrees w.ctx g := by
  rintro w g ⟨h, hf⟩
  have hrelieved : ∀ g, Relieved g → Agrees (drained w.ctx) g := fun g hr =>
    agrees_relieved hr (.inl (drained_finalized w.ctx))
  have hquiet : ∀ e ∈ finalizationEvent self .logging :: strandedEvents self w.ctx.setCookies,
      engineEvent e = false := by
    intro e he
    rcases List.mem_cons.mp he with rfl | he
    · rfl
    · exact quiet_stranded self _ e he
  change ∃ g', Reads EngineStep g (drainRun self w).events g' ∧
    Ends _ _ (drainRun self w).exit (drainRun self w).state g'
  unfold drainRun
  cases ho : obligation w.ctx with
  | nothing => exact ⟨g, reads_quiet hquiet, hrelieved g (h.of_nothing ho)⟩
  | terminate session headers pending =>
    obtain rfl := h.of_terminate hf ho
    cases hr : self.engine.terminateSession session headers with
    | dropped =>
      simp only [hr]
      exact ⟨.terminating, reads_terminate hquiet, hrelieved _ relieved_terminating⟩
    | ready result =>
      simp only [hr]
      refine ⟨.closed, ?_, hrelieved _ relieved_closed⟩
      refine Reads.append ?_ (reads_quiet (quiet_stranded self result.clears))
      exact reads_terminated hquiet (quiet_observed _ _ _ _) headers session pending result
  | commit pending headers =>
    obtain ⟨session, rfl⟩ := h.of_commit hf ho
    cases hr : self.engine.commit pending headers with
    | dropped =>
      simp only [hr]
      exact ⟨.committing, reads_commit hquiet, hrelieved _ relieved_committing⟩
    | ready result =>
      have hcommitted := reads_committed hquiet (quiet_observed self .persist .logging result)
        headers session pending result
      cases result with
      | ok cookies =>
        simp only [hr]
        exact ⟨.closed, hcommitted.append (reads_quiet (quiet_stranded self cookies)),
          hrelieved _ relieved_closed⟩
      | error e =>
        simp only [hr]
        exact ⟨.closed, hcommitted, hrelieved _ relieved_closed⟩

theorem keeps_logging (self : LoginProxy S) : Keeps (logging self) := by
  intro w g h
  by_cases hf : w.ctx.finalized
  · rw [logging_finalized self w hf]
    exact keeps_innerLogging self w g h
  · rw [Bool.not_eq_true] at hf
    rw [logging_claims self w hf]
    have hdrained := (triple_drain self).bind fun _ => keeps_innerLogging self
    exact hdrained w g ⟨h, hf⟩

theorem keeps_perform (self : LoginProxy S) (c : Call S) : Keeps (perform self c) := by
  cases c with
  | responseFilter inner engine header =>
    exact (keeps_updateResponse _).bind fun _ => keeps_responseFilter _
  | logging inner engine => exact keeps_logging _
  | innerWrite effect => exact keeps_innerEffect effect

section Gate

variable {self : LoginProxy S} {req : RequestHeader} {st : LoginState S} {pre : List (Event S)}
  {es : List (Event S)} {g g' : Stage S}

theorem reads_load {result : Except SessionError (LoadedSession S)}
    (h : EngineStep (.loading req.headers) (.loaded result) g) (hrest : Reads EngineStep g es g') :
    Reads EngineStep .idle (loadEvents self req result ++ es) g' := by
  have hquiet := quiet_observed self .load .request result
  rw [loadEvents, List.cons_append, List.cons_append, List.cons_append]
  exact .cons .tries (.cons (.loads req.headers) (.cons h ((reads_quiet hquiet).append hrest)))

theorem reads_decision (outcome : String) : Reads EngineStep g [decisionEvent self outcome] g :=
  .single (.other rfl)

/-- Before the application sees the request, the state tells what the engine holds. -/
theorem forwards_agree (h : Forwards self req .fresh pre st) :
    ∃ g, Reads EngineStep .idle pre g ∧ Agrees st g := by
  cases h with
  | preflight rule hp hr =>
    exact ⟨.idle, reads_decision _, agrees_relieved (by rintro _ _ _ ⟨⟩) (.inr rfl)⟩
  | pub m c hu hr =>
    exact ⟨.tried, .cons .tries (reads_decision _),
      agrees_relieved (by rintro _ _ _ ⟨⟩) (.inr rfl)⟩
  | anonymous check loaded hu hr hl ha =>
    exact ⟨.lacking, reads_load (.lacks _ loaded ha) (reads_decision _),
      agrees_relieved (by rintro _ _ _ ⟨⟩) (.inr rfl)⟩
  | authenticated required check loaded sess hu hr hl hs hc =>
    refine ⟨_, reads_load (.holds _ loaded sess hs) (reads_decision _), ?_, ?_⟩
    · rintro - session ⟨⟩
      rfl
    · intro headers session pending hg
      obtain ⟨hheaders, hsession, hpending⟩ := Stage.holding.inj hg
      exact ⟨rfl, congrArg some hsession, hheaders, hpending⟩

theorem answers_relieve {resp : LoginResponse} {cookies : SetCookies}
    (h : Answers self req pre resp cookies) : ∃ g, Reads EngineStep .idle pre g ∧ Relieved g := by
  cases h with
  | preflightDenied reason hp hr =>
    exact ⟨.idle, reads_decision _, by rintro _ _ _ ⟨⟩⟩
  | loginRoute resp hp ht | routeDenied reason hu hr =>
    exact ⟨.tried, .cons .tries (reads_decision _), by rintro _ _ _ ⟨⟩⟩
  | loadFailed required check e hu hr hl =>
    exact ⟨.closed, reads_load (.fails _ e) (reads_decision _), relieved_closed⟩
  | refreshUnavailable required check hu hr hl =>
    exact ⟨.closed, reads_load (.unavailable _) (reads_decision _), relieved_closed⟩
  | unauthenticated check loaded resp hu hr hl ha hd =>
    exact ⟨.closed, reads_load (.lacks _ loaded ha) (.cons (.other rfl) (.single .redirects)),
      relieved_closed⟩
  | forbidden required check loaded sess msg hu hr hl hs hc hp =>
    refine ⟨_, reads_load (.holds _ loaded sess hs) (reads_decision _), ?_⟩
    rw [hp]
    rintro _ _ _ ⟨⟩
  | forbiddenPersisted required check pending msg result hu hr hl hc hp =>
    have hquiet := quiet_observed self .persist .denied result
    refine ⟨.closed, reads_load (.holds _ _ pending.session rfl) ?_, relieved_closed⟩
    exact .cons (.other rfl) (.cons (.commits _ _ pending) (.cons (.committed result)
      (reads_quiet hquiet)))

theorem drops_relieve (h : Drops self req pre) :
    ∃ g, Reads EngineStep .idle pre g ∧ Relieved g := by
  cases h with
  | loginRoute hp ht => exact ⟨.tried, .single .tries, by rintro _ _ _ ⟨⟩⟩
  | load required check hu hr hl =>
    exact ⟨.loading req.headers, .cons .tries (.single (.loads _)), by rintro _ _ _ ⟨⟩⟩
  | redirect check loaded hu hr hl ha hd =>
    exact ⟨.closed, reads_load (.lacks _ loaded ha) (.cons (.other rfl) (.single .redirects)),
      relieved_closed⟩
  | persist required check pending msg hu hr hl hc hp =>
    refine ⟨.committing, reads_load (.holds _ _ pending.session rfl) ?_, relieved_committing⟩
    exact .cons (.other rfl) (.single (.commits _ _ pending))

end Gate

/-- A response of the gate itself: no session entered the login state. -/
theorem keeps_answer (resp : LoginResponse) (cookies : SetCookies) :
    Triple EngineStep (fun w g => w.ctx.session = none ∧ Relieved g)
      ((writeLoginResponse resp cookies : LoginHook S Unit) >>= fun _ => pure true)
      (fun _ w g => Agrees w.ctx g) fun w g => Agrees w.ctx g :=
  ((keeps_writeLoginResponse resp cookies).bind fun _ => keeps_pure true).pre fun _ _ h =>
    agrees_relieved h.2 (.inr h.1)

theorem gate_follows (r : Request S) : ∃ g, Reads EngineStep .idle r.gate.events g ∧
    Agrees r.gate.state.ctx g := by
  have hrun := requestFilter_cases r.proxy (.incoming r.session r.response)
  unfold Request.gate
  generalize (requestFilter r.proxy).run (.incoming r.session r.response) = ran at hrun
  cases hrun with
  | @forward pre st hf =>
    obtain ⟨g, hpre, hagrees⟩ := forwards_agree hf
    obtain ⟨g', hreads, hkept⟩ := (keeps_forwardRequest r.proxy).kept
      (s := { World.incoming r.session r.response with ctx := st }) hagrees
    exact ⟨g', hpre.append hreads, hkept⟩
  | @answer pre resp cookies ha =>
    obtain ⟨g, hpre, hrelieved⟩ := answers_relieve ha
    obtain ⟨g', hreads, hkept⟩ := (keeps_answer resp cookies).kept
      (s := World.incoming r.session r.response) ⟨rfl, hrelieved⟩
    exact ⟨g', hpre.append hreads, hkept⟩
  | @drop pre hd =>
    obtain ⟨g, hpre, hrelieved⟩ := drops_relieve hd
    exact ⟨g, hpre, agrees_relieved hrelieved (.inr rfl)⟩

/-- In every run the engine is called by its protocol, and until a final header is claimed
the login state holds what the engine handed over. So a save is neither lost on the way nor
both committed and given up, and a session ends only once its save is gone. -/
theorem engine_protocol_followed (r : Request S) :
    ∃ g, Reads EngineStep .idle r.events g ∧ Agrees (r.after r.calls).ctx g := by
  obtain ⟨g, hgate, hagrees⟩ := gate_follows r
  obtain ⟨g', hcalls, hkept⟩ := reads_run (fun c _ => keeps_perform r.proxy c) hagrees
  exact ⟨g', hgate.append hcalls, hkept⟩

end EngineProtocol
