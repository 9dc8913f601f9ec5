import HuskarlPingora.LoginLifecycle
import HuskarlPingora.TwinRuns

/-! # Two runs of the login adapter

One walk through the hooks, for two proxies that differ in what they report and two worlds
that differ in what the adapter does not look at. It gives that neither the transport nor
the telemetry has a say in what becomes of a request. -/
namespace LoginTwins

open HttpModel RouteResolution LoginRules LoginContext LoginAdapter LoginEffects LoginLifecycle
open TracedHooks EventMonitors TwinRuns

variable {S ν α : Type}

/-- Two proxies that differ at most in their reports, which do not show. -/
structure SameBut (vis : Event S → Option ν) (proxy proxy' : LoginProxy S) : Prop where
  inner : proxy.inner = proxy'.inner
  engine : proxy.engine = proxy'.engine
  routes : proxy.routes = proxy'.routes
  policy : proxy.persistFailurePolicy = proxy'.persistFailurePolicy
  cors : proxy.corsPassthrough = proxy'.corsPassthrough
  counter : ∀ metric outcome, vis (.counter metric outcome (proxy.metricsName.getD "")) =
    vis (.counter metric outcome (proxy'.metricsName.getD ""))
  observed : ∀ {β : Type} (operation : SessionOperation) (phase : LoginPhase)
    (result : Except SessionError β), (observed proxy operation phase result).filterMap vis =
      (observed proxy' operation phase result).filterMap vis
  stranded : ∀ cookies, (strandedEvents proxy cookies).filterMap vis =
    (strandedEvents proxy' cookies).filterMap vis

/-- A relation between worlds that no hook of the adapter can tell apart. -/
structure Unseen (R : World S → World S → Prop) : Prop where
  ctx : ∀ {w w'}, R w w' → w.ctx = w'.ctx
  response : ∀ {w w'}, R w w' → w.response = w'.response
  header : ∀ {w w'}, R w w' → w.session.reqHeader = w'.session.reqHeader
  setCtx : ∀ {w w'} (f : LoginState S → LoginState S), R w w' →
    R { w with ctx := f w.ctx } { w' with ctx := f w'.ctx }
  setResponse : ∀ {w w'} (f : ResponseHeader → ResponseHeader), R w w' →
    R { w with response := f w.response } { w' with response := f w'.response }
  effect : ∀ {w w'} (effect : InnerEffect), R w w' → R (effect.apply w) (effect.apply w')

variable {R : World S → World S → Prop} {vis : Event S → Option ν} {proxy proxy' : LoginProxy S}

section Later

theorem alike_updateCtx (hR : Unseen R) (f : LoginState S → LoginState S) :
    Alike R vis (updateCtx f) (updateCtx f) :=
  alike_update fun _ _ h => hR.setCtx f h

theorem alike_updateResponse (hR : Unseen R) (f : ResponseHeader → ResponseHeader) :
    Alike R vis (updateResponse f) (updateResponse f) :=
  alike_update fun _ _ h => hR.setResponse f h

theorem alike_innerEffect (hR : Unseen R) (effect : InnerEffect) :
    Alike R vis (innerEffect effect) (innerEffect effect) := by
  intro w w' h
  rw [run_innerEffect, run_innerEffect]
  exact ⟨rfl, rfl, hR.effect effect h⟩

theorem alike_innerLogging (hR : Unseen R) (hs : SameBut vis proxy proxy') :
    Alike R vis (innerLogging proxy) (innerLogging proxy') := by
  refine alike_read fun w w' h => ?_
  rw [hR.ctx h, hs.inner]
  exact (alike_emit rfl).bind fun _ => (alike_innerEffect hR _).bind fun _ => alike_await _

theorem alike_innerResponseFilter (hR : Unseen R) (hs : SameBut vis proxy proxy') :
    Alike R vis (innerResponseFilter proxy) (innerResponseFilter proxy') := by
  refine alike_read fun w w' h => ?_
  rw [hR.ctx h, hs.inner]
  exact (alike_emit rfl).bind fun _ => (alike_innerEffect hR _).bind fun _ =>
    (alike_updateResponse hR _).bind fun _ => (alike_await _).bind fun result =>
      alike_attempt result

theorem alike_innerRequestFilter (hR : Unseen R) (hs : SameBut vis proxy proxy') :
    Alike R vis (innerRequestFilter proxy) (innerRequestFilter proxy') := by
  refine alike_read fun w w' h => ?_
  rw [hR.ctx h, hs.inner]
  exact (alike_emit rfl).bind fun _ => (alike_innerEffect hR _).bind fun _ =>
    (alike_await _).bind fun result => alike_attempt result

theorem alike_observeOperation {β : Type} (hs : SameBut vis proxy proxy')
    (operation : SessionOperation) (phase : LoginPhase) (result : Except SessionError β) :
    Alike R vis (observeOperation proxy operation phase result)
      (observeOperation proxy' operation phase result) := by
  intro w w' h
  rw [run_observeOperation, run_observeOperation]
  exact ⟨rfl, hs.observed operation phase result, h⟩

theorem alike_reportStrandedCookies (hs : SameBut vis proxy proxy') (cookies : SetCookies) :
    Alike R vis (reportStrandedCookies proxy cookies) (reportStrandedCookies proxy' cookies) := by
  intro w w' h
  rw [run_reportStrandedCookies, run_reportStrandedCookies]
  exact ⟨rfl, hs.stranded cookies, h⟩

theorem alike_appendSetCookies (hR : Unseen R) (cookies : SetCookies) :
    Alike R vis (appendSetCookies cookies) (appendSetCookies cookies) := by
  intro w w' h
  rw [run_appendSetCookies, run_appendSetCookies]
  exact ⟨rfl, rfl, hR.setResponse (withCookies · cookies) h⟩

theorem alike_abandon (pending : Option (PendingPersist S)) :
    Alike R vis (abandon pending) (abandon pending) := by
  intro w w' h
  rw [run_abandon, run_abandon]
  exact ⟨rfl, rfl, h⟩

theorem alike_commit (hs : SameBut vis proxy proxy') (pending : PendingPersist S)
    (headers : HeaderMap) :
    Alike R vis (commit proxy pending headers) (commit proxy' pending headers) := by
  unfold commit
  rw [hs.engine]
  exact (alike_emit rfl).bind fun _ => (alike_await _).bind fun result =>
    (alike_emit rfl).bind fun _ => alike_pure result

theorem alike_terminateSession (hs : SameBut vis proxy proxy') (session : S) (headers : HeaderMap) :
    Alike R vis (terminateSession proxy session headers)
      (terminateSession proxy' session headers) := by
  unfold terminateSession
  rw [hs.engine]
  exact (alike_emit rfl).bind fun _ => (alike_await _).bind fun result =>
    (alike_emit rfl).bind fun _ => alike_pure result

theorem alike_loadSession (hs : SameBut vis proxy proxy') (headers : HeaderMap) :
    Alike R vis (loadSession proxy headers) (loadSession proxy' headers) := by
  unfold loadSession
  rw [hs.engine]
  exact (alike_emit rfl).bind fun _ => (alike_await _).bind fun result =>
    (alike_emit rfl).bind fun _ => alike_pure result

theorem alike_emitCounter (hs : SameBut vis proxy proxy') (metric outcome : String) :
    Alike R vis (emitCounter metric outcome proxy.metricsName)
      (emitCounter metric outcome proxy'.metricsName) :=
  alike_emit (hs.counter metric outcome)

theorem alike_finalizeResponse (hR : Unseen R) (hs : SameBut vis proxy proxy') :
    Alike R vis (finalizeResponse proxy) (finalizeResponse proxy') := by
  refine alike_read fun w w' h => ?_
  rw [hR.ctx h, hR.response h]
  split
  · exact alike_pure ()
  split
  · exact alike_pure ()
  refine (alike_updateCtx hR _).bind fun _ => (alike_emitCounter hs _ _).bind fun _ => ?_
  refine (alike_updateCtx hR _).bind fun _ => (alike_appendSetCookies hR _).bind fun _ => ?_
  cases w'.ctx.session with
  | none => exact alike_pure ()
  | some session =>
    dsimp only
    split
    · refine (alike_abandon _).bind fun _ => ?_
      refine (alike_terminateSession hs _ _).bind fun result => ?_
      exact (alike_observeOperation hs _ _ _).bind fun _ => alike_appendSetCookies hR _
    · cases w'.ctx.pending with
      | none => exact alike_pure ()
      | some pending =>
        refine (alike_commit hs _ _).bind fun persisted => ?_
        refine (alike_observeOperation hs _ _ _).bind fun _ => ?_
        cases persisted with
        | ok cookies => exact alike_appendSetCookies hR cookies
        | error e =>
          dsimp only
          rw [hs.policy, hs.engine]
          split
          · exact alike_fail _
          · exact alike_pure ()

theorem alike_responseFilter (hR : Unseen R) (hs : SameBut vis proxy proxy') :
    Alike R vis (responseFilter proxy) (responseFilter proxy') :=
  (alike_innerResponseFilter hR hs).bind fun _ => alike_finalizeResponse hR hs

theorem alike_logging (hR : Unseen R) (hs : SameBut vis proxy proxy') :
    Alike R vis (logging proxy) (logging proxy') := by
  refine alike_read fun w w' h => ?_
  rw [hR.ctx h]
  split
  · exact alike_innerLogging hR hs
  refine (alike_updateCtx hR _).bind fun _ => (alike_emitCounter hs _ _).bind fun _ => ?_
  refine (alike_updateCtx hR _).bind fun _ => (alike_reportStrandedCookies hs _).bind fun _ => ?_
  cases w'.ctx.session with
  | none => exact alike_innerLogging hR hs
  | some session =>
    refine Alike.bind (alike_updateCtx hR _) fun _ => ?_
    split
    · refine (alike_abandon _).bind fun _ => ?_
      refine (alike_terminateSession hs _ _).bind fun result => ?_
      exact (alike_observeOperation hs _ _ _).bind fun _ =>
        (alike_reportStrandedCookies hs _).bind fun _ => alike_innerLogging hR hs
    · cases w'.ctx.pending with
      | none => exact alike_innerLogging hR hs
      | some pending =>
        refine (alike_commit hs _ _).bind fun persisted => ?_
        refine (alike_observeOperation hs _ _ _).bind fun _ => ?_
        cases persisted with
        | ok cookies =>
          exact (alike_reportStrandedCookies hs _).bind fun _ => alike_innerLogging hR hs
        | error e => exact alike_innerLogging hR hs

theorem SameBut.facing (hs : SameBut vis proxy proxy') (inner : Inner) (engine : LoginEngine S) :
    SameBut vis { proxy with inner := inner, engine := engine }
      { proxy' with inner := inner, engine := engine } where
  inner := rfl
  engine := rfl
  routes := hs.routes
  policy := hs.policy
  cors := hs.cors
  counter := hs.counter
  observed := hs.observed
  stranded := hs.stranded

theorem alike_perform (hR : Unseen R) (hs : SameBut vis proxy proxy') (c : Call S) :
    Alike R vis (perform proxy c) (perform proxy' c) := by
  cases c with
  | responseFilter inner engine header =>
    exact (alike_updateResponse hR _).bind fun _ => alike_responseFilter hR (hs.facing inner engine)
  | logging inner engine => exact alike_logging hR (hs.facing inner engine)
  | innerWrite effect => exact alike_innerEffect hR effect

end Later

/-- A way to compare two filters, which is at ease with everything the gate does before it
writes, and with its writes. -/
structure Compares (R : World S → World S → Prop) (vis : Event S → Option ν)
    (T : LoginHook S Bool → LoginHook S Bool → Prop) : Prop where
  ofAlike : ∀ {m m'}, Alike R vis m m' → T m m'
  after : ∀ {β : Type} {m m' : LoginHook S β} {f f' : β → LoginHook S Bool}, Alike R vis m m' →
    (∀ b, T (f b) (f' b)) → T (m >>= f) (m' >>= f')
  read : ∀ {f f' : World S → LoginHook S Bool}, (∀ w w', R w w' → T (f w) (f' w')) →
    T (TracedHooks.read >>= f) (TracedHooks.read >>= f')
  write : ∀ header sendBody body, T
    (writeOut header sendBody body >>= fun _ => pure true)
    (writeOut header sendBody body >>= fun _ => pure true)
  unwritten : ∀ {w w'}, R w w' → w.session.responseWritten = w'.session.responseWritten

section Gate

variable {T : LoginHook S Bool → LoginHook S Bool → Prop}

theorem writeOut_returning (header : ResponseHeader) (sendBody : Bool) (body : Bytes) :
    (writeOut header sendBody body >>= fun _ => pure true : LoginHook S Bool) = (do
      writeResponseHeader header (!sendBody)
      if sendBody then do
        writeResponseBody body true
        return true
      else return true) := by
  funext w
  change (writeOut header sendBody body >>= fun _ => pure true : LoginHook S Bool).run w =
    Hook.run _ w
  unfold writeOut
  rw [run_bind, run_bind, run_bind]
  cases h : (writeResponseHeader header (!sendBody)).run w with
  | mk exit state events =>
    cases exit <;> cases sendBody <;> simp [after_andThen]

theorem compares_answer (hR : Unseen R) (hT : Compares R vis T) (resp : LoginResponse)
    (cookies : SetCookies) : T (writeLoginResponse resp cookies >>= fun _ => pure true)
      (writeLoginResponse resp cookies >>= fun _ => pure true) := by
  have hanswer : (writeLoginResponse resp cookies >>= fun _ => pure true : LoginHook S Bool) =
      appendExtraCookies (appendHeaders (.build resp.status) resp.headers) cookies >>= fun header =>
        TracedHooks.read >>= fun w => writeOut header (carriesBody w resp) resp.body >>=
          fun _ => pure true := by
    unfold writeLoginResponse
    rw [hook_bind_assoc]
    rfl
  rw [hanswer]
  refine hT.after ?_ fun header => hT.read fun w w' h => ?_
  · intro w w' h
    rw [run_appendExtraCookies, run_appendExtraCookies]
    exact ⟨rfl, rfl, h⟩
  · rw [carriesBody, hR.header h]
    exact hT.write _ _ _

theorem compares_forwardRequest (hR : Unseen R) (hs : SameBut vis proxy proxy')
    (hT : Compares R vis T) : T (forwardRequest proxy) (forwardRequest proxy') := by
  refine hT.after (alike_innerRequestFilter hR hs) fun handled => hT.read fun w w' h => ?_
  rw [hR.ctx h, hT.unwritten h]
  cases w'.ctx.response with
  | none => exact hT.ofAlike (alike_pure handled)
  | some response =>
    refine hT.after (alike_updateCtx hR _) fun _ => ?_
    dsimp only
    split
    · exact hT.ofAlike (alike_fail _)
    refine hT.after (alike_updateResponse hR _) fun _ => ?_
    refine hT.after (alike_responseFilter hR hs) fun _ => hT.read fun w w' h => ?_
    rw [hR.response h, hR.header h]
    have hwrite := hT.write w'.response (sendsBody response w') response.body
    rw [writeOut_returning] at hwrite
    exact hwrite

theorem compares_decided (hs : SameBut vis proxy proxy') (hT : Compares R vis T)
    (outcome : String) {f f' : LoginHook S Bool} (h : T f f') :
    T (decision proxy outcome >>= fun _ => f) (decision proxy' outcome >>= fun _ => f') :=
  hT.after (alike_emitCounter hs _ outcome) fun _ => h

theorem compares_servePathConfusion (hR : Unseen R) (hs : SameBut vis proxy proxy')
    (hT : Compares R vis T) (reason : ResolveError) :
    T (servePathConfusion proxy reason) (servePathConfusion proxy' reason) := by
  unfold servePathConfusion
  rw [hs.engine]
  exact compares_decided hs hT _ (compares_answer hR hT _ _)

theorem compares_serveForbidden (hR : Unseen R) (hs : SameBut vis proxy proxy')
    (hT : Compares R vis T) (headers : HeaderMap) (msg : String)
    (pending : Option (PendingPersist S)) (setCookies : SetCookies) :
    T (serveForbidden proxy headers msg pending setCookies)
      (serveForbidden proxy' headers msg pending setCookies) := by
  unfold serveForbidden
  rw [hs.engine]
  refine compares_decided hs hT _ ?_
  cases pending with
  | none => exact compares_answer hR hT _ _
  | some pending =>
    refine hT.after (alike_commit hs pending headers) fun persisted => ?_
    refine hT.after (alike_observeOperation hs .persist .denied persisted) fun _ => ?_
    cases persisted with
    | ok more => exact compares_answer hR hT _ _
    | error e => exact compares_answer hR hT _ _

theorem compares_serveWithoutSession (hR : Unseen R) (hs : SameBut vis proxy proxy')
    (hT : Compares R vis T) (headers : HeaderMap) (uri : Uri) (required : Bool)
    (setCookies : SetCookies) :
    T (serveWithoutSession proxy headers uri required setCookies)
      (serveWithoutSession proxy' headers uri required setCookies) := by
  unfold serveWithoutSession
  rw [hs.engine]
  cases required with
  | true =>
    refine compares_decided hs hT _ (hT.after (alike_emit rfl) fun _ => ?_)
    exact hT.after (alike_await _) fun resp => compares_answer hR hT resp setCookies
  | false =>
    refine compares_decided hs hT _ (hT.after (alike_updateCtx hR _) fun _ => ?_)
    exact compares_forwardRequest hR hs hT

theorem compares_serveWithSession (hR : Unseen R) (hs : SameBut vis proxy proxy')
    (hT : Compares R vis T) (headers : HeaderMap) (check : Option (CheckFn S)) (sess : S)
    (pending : Option (PendingPersist S)) (setCookies : SetCookies) :
    T (serveWithSession proxy headers check sess pending setCookies)
      (serveWithSession proxy' headers check sess pending setCookies) := by
  unfold serveWithSession
  split
  · exact compares_serveForbidden hR hs hT _ _ _ _
  · refine compares_decided hs hT _ (hT.after (alike_updateCtx hR _) fun _ => ?_)
    exact compares_forwardRequest hR hs hT

theorem compares_requestFilterLoaded (hR : Unseen R) (hs : SameBut vis proxy proxy')
    (hT : Compares R vis T) (headers : HeaderMap) (uri : Uri) (required : Bool)
    (check : Option (CheckFn S)) :
    T (requestFilterLoaded proxy headers uri required check)
      (requestFilterLoaded proxy' headers uri required check) := by
  refine hT.after (alike_loadSession hs headers) fun loaded => ?_
  refine hT.after (alike_observeOperation hs .load .request loaded) fun _ => ?_
  cases loaded with
  | error e =>
    dsimp only
    rw [hs.engine]
    exact compares_decided hs hT _ (compares_answer hR hT _ _)
  | ok loaded =>
    cases loaded with
    | missing | cleared clears => exact compares_serveWithoutSession hR hs hT _ _ _ _
    | active sess cookies | activePending pending =>
      exact compares_serveWithSession hR hs hT _ _ _ _ _
    | refreshUnavailable =>
      dsimp only [serveRefreshUnavailable]
      rw [hs.engine]
      exact compares_decided hs hT _ (compares_answer hR hT _ _)

theorem compares_requestFilter (hR : Unseen R) (hs : SameBut vis proxy proxy')
    (hT : Compares R vis T) : T (requestFilter proxy) (requestFilter proxy') := by
  have hforward : ∀ outcome, T (decision proxy outcome >>= fun _ => forwardRequest proxy)
      (decision proxy' outcome >>= fun _ => forwardRequest proxy') := fun outcome =>
    compares_decided hs hT outcome (compares_forwardRequest hR hs hT)
  refine hT.read fun w w' h => ?_
  dsimp only
  rw [hR.header h, hs.cors, hs.engine, hs.routes]
  split
  · split
    · exact compares_servePathConfusion hR hs hT _
    · exact hforward _
  refine hT.after (alike_emit rfl) fun _ => hT.after (alike_await _) fun claim => ?_
  cases claim with
  | some resp => exact compares_decided hs hT _ (compares_answer hR hT resp [])
  | none =>
    dsimp only
    split
    · exact compares_servePathConfusion hR hs hT _
    · exact hforward _
    · exact compares_requestFilterLoaded hR hs hT _ _ _ _
    · exact compares_requestFilterLoaded hR hs hT _ _ _ _

end Gate

section Transport

def unwritten : Event S → Option (Event S)
  | .writeResponseHeader _ _ | .writeResponseBody _ _ => none
  | e => some e

/-- Two worlds after writes the transport may have treated differently. -/
structure AfterWrite (w w' : World S) : Prop where
  ctx : w.ctx = w'.ctx
  response : w.response = w'.response
  header : w.session.reqHeader = w'.session.reqHeader

/-- Two worlds that differ in the answers of the transport, before any was asked for. -/
structure BeforeWrite (w w' : World S) : Prop extends AfterWrite w w' where
  written : w.session.responseWritten = w'.session.responseWritten

theorem AfterWrite.effect {w w' : World S} (h : AfterWrite w w') (effect : InnerEffect) :
    AfterWrite (effect.apply w) (effect.apply w') where
  ctx := by rw [InnerEffect.apply, InnerEffect.apply, h.ctx]
  response := h.response
  header := congrArg effect.reqHeader h.header

theorem unseen_afterWrite : Unseen (AfterWrite (S := S)) where
  ctx h := h.ctx
  response h := h.response
  header h := h.header
  setCtx f h := ⟨congrArg f h.ctx, h.response, h.header⟩
  setResponse f h := ⟨h.ctx, congrArg f h.response, h.header⟩
  effect effect h := h.effect effect

theorem unseen_beforeWrite : Unseen (BeforeWrite (S := S)) where
  ctx h := h.ctx
  response h := h.response
  header h := h.header
  setCtx f h := ⟨⟨congrArg f h.ctx, h.response, h.header⟩, h.written⟩
  setResponse f h := ⟨⟨h.ctx, congrArg f h.response, h.header⟩, h.written⟩
  effect effect h := ⟨h.toAfterWrite.effect effect, congrArg effect.responseWritten h.written⟩

theorem writeOut_state (header : ResponseHeader) (sendBody : Bool) (body : Bytes) (w : World S) :
    AfterWrite ((writeOut header sendBody body >>= fun _ => pure true : LoginHook S Bool).run
      w).state w := by
  have hkept : ∀ w' : World S, w' = w ∨ w' = markWritten header w → AfterWrite w' w := by
    rintro w' (rfl | rfl) <;> exact ⟨rfl, rfl, rfl⟩
  rw [run_bind]
  exact hkept _ ((inTurn_writeOut header sendBody body w).returning true).state

theorem hidden_writeOut (header : ResponseHeader) (sendBody : Bool) (body : Bytes) :
    Emits (fun e : Event S => unwritten e = none)
      (writeOut header sendBody body >>= fun _ => pure true) := by
  refine Emits.bind (fun w e he => ?_) fun _ => emits_pure true
  rcases List.mem_cons.mp ((inTurn_writeOut header sendBody body w).within.subset he) with rfl | he
  · rfl
  · cases sendBody with
    | false => cases he
    | true =>
      obtain rfl := List.mem_singleton.mp he
      rfl

theorem compares_transport :
    Compares (S := S) BeforeWrite unwritten (Trails BeforeWrite AfterWrite unwritten) where
  ofAlike h := h.trails fun _ _ hw => hw.toAfterWrite
  after hm hf := .after hm (fun _ _ hw => hw.toAfterWrite) hf
  read h := trails_read h
  write header sendBody body := by
    refine trails_hidden (hidden_writeOut _ _ _) (hidden_writeOut _ _ _) fun w w' h => ?_
    have hw := writeOut_state header sendBody body w
    have hw' := writeOut_state header sendBody body w'
    exact ⟨hw.ctx.trans (h.ctx.trans hw'.ctx.symm),
      hw.response.trans (h.response.trans hw'.response.symm),
      hw.header.trans (h.header.trans hw'.header.symm)⟩
  unwritten h := h.written

theorem sameBut_refl (proxy : LoginProxy S) : SameBut vis proxy proxy :=
  ⟨rfl, rfl, rfl, rfl, rfl, fun _ _ => rfl, fun _ _ _ => rfl, fun _ => rfl⟩

def withTransport (r : Request S) (writeHeader writeBody : Await (Except Error Unit)) : Request S :=
  { r with session := { r.session with writeHeader := writeHeader, writeBody := writeBody } }

/-- What the transport has no say in. Every later hook also ends the same way. -/
structure SameBusiness (r r' : Request S) : Prop where
  gate : r.gate.events.filterMap unwritten = r'.gate.events.filterMap unwritten
  ended : ∀ calls, List.Forall₂ (SameRun AfterWrite some)
    (records (perform r.proxy) calls r.gate.state) (records (perform r'.proxy) calls r'.gate.state)
  later : ∀ before calls, r.eventsAfter before calls = r'.eventsAfter before calls
  ctx : ∀ calls, (r.after calls).ctx = (r'.after calls).ctx
  response : ∀ calls, (r.after calls).response = (r'.after calls).response

/-- Whether writes are accepted, fail or are cut off, the session work, the cookies, the
counters and the login state are the same, at the gate and in every later hook: a failed
transport never makes a hook repeat, skip or change what another one did. -/
theorem transport_never_interferes (r : Request S)
    (writeHeader writeBody : Await (Except Error Unit)) :
    SameBusiness r (withTransport r writeHeader writeBody) := by
  have hstart : BeforeWrite (World.incoming (S := S) r.session r.response)
      (World.incoming (withTransport r writeHeader writeBody).session r.response) :=
    ⟨⟨rfl, rfl, rfl⟩, rfl⟩
  obtain ⟨hgate, hstate⟩ := compares_requestFilter unseen_beforeWrite (sameBut_refl r.proxy)
    compares_transport _ _ hstart
  have hperform : ∀ c, Alike AfterWrite some (perform r.proxy c) (perform r.proxy c) := fun c =>
    alike_perform unseen_afterWrite (sameBut_refl r.proxy) c
  have hcalls : ∀ calls, AfterWrite (r.after calls)
      ((withTransport r writeHeader writeBody).after calls) := fun calls =>
    (alike_run (fun c _ => hperform c) hstate).2
  refine ⟨hgate, fun calls => alike_records (fun c _ => hperform c) hstate,
    fun before calls => ?_, fun calls => (hcalls calls).ctx,
    fun calls => (hcalls calls).response⟩
  have hlater : (r.eventsAfter before calls).filterMap some =
      ((withTransport r writeHeader writeBody).eventsAfter before calls).filterMap some :=
    (alike_run (fun c _ => hperform c) (hcalls before)).1
  rwa [List.filterMap_some, List.filterMap_some] at hlater

end Transport

section Telemetry

/-- An event without the name it is reported under. Diagnostics are left out. -/
def unnamed : Event S → Option (Event S)
  | .counter metric outcome _ => some (.counter metric outcome "")
  | .operationCounter operation phase success _ =>
    some (.operationCounter operation phase success "")
  | .strandedCounter count _ => some (.strandedCounter count "")
  | .diagnostic _ => none
  | e => some e

def reporting (r : Request S) (metricsName : Option String) (diagnostics : Bool) : Request S :=
  { r with proxy := { r.proxy with metricsName := metricsName, diagnostics := diagnostics } }

theorem unnamed_observed {β : Type} (proxy : LoginProxy S) (operation : SessionOperation)
    (phase : LoginPhase) (result : Except SessionError β) :
    (observed proxy operation phase result).filterMap unnamed =
      [.operationCounter operation phase result.isOk ""] := by
  cases result with
  | ok a => rfl
  | error e => by_cases hd : proxy.diagnostics <;> simp [observed, unnamed, hd]

theorem unnamed_stranded (proxy : LoginProxy S) (cookies : SetCookies) :
    (strandedEvents proxy cookies).filterMap unnamed =
      (if cookies.isEmpty then [] else [.strandedCounter cookies.length ""]) ++
        [.discard cookies] := by
  cases cookies with
  | nil => rfl
  | cons c cs =>
    by_cases hd : proxy.diagnostics
    · simp only [strandedEvents, hd, if_true]
      rfl
    · simp [strandedEvents, unnamed, hd]

theorem sameBut_reporting (proxy : LoginProxy S) (metricsName : Option String)
    (diagnostics : Bool) : SameBut unnamed proxy
      { proxy with metricsName := metricsName, diagnostics := diagnostics } where
  inner := rfl
  engine := rfl
  routes := rfl
  policy := rfl
  cors := rfl
  counter _ _ := rfl
  observed operation phase result := by rw [unnamed_observed, unnamed_observed]
  stranded cookies := by rw [unnamed_stranded, unnamed_stranded]

theorem compares_telemetry : Compares (S := S) Eq unnamed (Alike Eq unnamed) where
  ofAlike h := h
  after hm hf := hm.bind hf
  read h := alike_read h
  write header sendBody body := by
    rintro w - rfl
    exact ⟨rfl, rfl, rfl⟩
  unwritten h := congrArg (·.session.responseWritten) h

theorem unseen_eq : Unseen (Eq (α := World S)) where
  ctx h := congrArg _ h
  response h := congrArg _ h
  header h := congrArg (·.session.reqHeader) h
  setCtx f h := by rw [h]
  setResponse f h := by rw [h]
  effect effect h := by rw [h]

/-- What a request comes to, its reports apart, at the gate and in every later hook. -/
structure SameService (r r' : Request S) : Prop where
  exit : r.gate.exit = r'.gate.exit
  ended : ∀ calls, List.Forall₂ (SameRun Eq unnamed)
    (records (perform r.proxy) calls r.gate.state) (records (perform r'.proxy) calls r'.gate.state)
  gate : r.gate.events.filterMap unnamed = r'.gate.events.filterMap unnamed
  after : ∀ calls, r.after calls = r'.after calls
  later : ∀ before calls, (r.eventsAfter before calls).filterMap unnamed =
    (r'.eventsAfter before calls).filterMap unnamed

/-- Naming the adapter's counters and installing a diagnostic handler change nothing that
becomes of a request: no decision, session work, header, cookie or state. -/
theorem telemetry_never_interferes (r : Request S) (metricsName : Option String)
    (diagnostics : Bool) : SameService r (reporting r metricsName diagnostics) := by
  have hs := sameBut_reporting r.proxy metricsName diagnostics
  obtain ⟨hexit, hgate, hstate⟩ := compares_requestFilter unseen_eq hs compares_telemetry
    (World.incoming r.session r.response) _ rfl
  have hcalls : ∀ calls, r.after calls = (reporting r metricsName diagnostics).after calls :=
    fun calls => (alike_run (fun c _ => alike_perform unseen_eq hs c) hstate).2
  refine ⟨hexit, fun calls => ?_, hgate, hcalls, fun before calls => ?_⟩
  · exact alike_records (fun c _ => alike_perform unseen_eq hs c) hstate
  · exact (alike_run (fun c _ => alike_perform unseen_eq hs c) (hcalls before)).1

end Telemetry

end LoginTwins
