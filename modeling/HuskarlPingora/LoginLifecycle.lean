import HuskarlPingora.LoginAccess

/-! # The life of a request in the login adapter

One `request_filter` call on a fresh state, then any calls of the other hooks, in any
order, each with its own inner proxy and engine answers. A call starts from the state
the previous one left, also when that one failed or was dropped. -/
namespace LoginLifecycle

open HttpModel RouteResolution LoginRules LoginContext LoginAdapter LoginEffects LoginGate
open SessionLedger LoginAccess TracedHooks

variable {S : Type}

/-- The books while the final header is still to come. -/
structure Untouched (st₀ : LoginState S) (es : List (Event S)) (st : LoginState S) : Prop where
  pending : st.pending = st₀.pending
  requestHeaders : st.requestHeaders = st₀.requestHeaders
  setCookies : st.setCookies = st₀.setCookies
  work : workOf es = []
  produced : producedBy es = []
  appended : appendedBy es = []
  discarded : discardedBy es = []
  claim : flagAtClaim st₀.terminateRequested es = none
  flag : flagAfter st₀.terminateRequested es = st.terminateRequested

/-- The books once the claim was taken: the work is the one owed at the claim. -/
structure Settled (st₀ : LoginState S) (es : List (Event S)) (st : LoginState S) : Prop where
  work : ∃ flag, flagAtClaim st₀.terminateRequested es = some flag ∧
    workOf es = duty (obligation { st₀ with terminateRequested := flag })
  cookies : (producedBy es ++ st₀.setCookies).Perm (appendedBy es ++ discardedBy es)
  drained : st.setCookies = []

structure Tracks (st₀ : LoginState S) (es : List (Event S)) (st : LoginState S) : Prop where
  session : st.session = st₀.session
  seen : ∀ s ∈ seenBy es, s.session = st₀.session
  loads : loadsBy es = []
  unclaimed : st.finalized = false → Untouched st₀ es st
  claimed : st.finalized = true → Settled st₀ es st

theorem tracks_start {st₀ : LoginState S} (hf : st₀.finalized = false) : Tracks st₀ [] st₀ where
  session := rfl
  seen := by simp [seenBy]
  loads := rfl
  unclaimed := fun _ => ⟨rfl, rfl, rfl, rfl, rfl, rfl, rfl, rfl, rfl⟩
  claimed := fun h => by simp [hf] at h

theorem Settled.extend {st₀ st st' : LoginState S} {es es' : List (Event S)}
    (h : Settled st₀ es st) (hw : workOf es' = [])
    (hc : (producedBy es').Perm (appendedBy es' ++ discardedBy es'))
    (hd : st'.setCookies = []) : Settled st₀ (es ++ es') st' where
  work := by
    obtain ⟨flag, hflag, hwork⟩ := h.work
    exact ⟨flag, by simp [flagAtClaim_append, hflag], by simp [hw, hwork]⟩
  cookies := by
    have hp := h.cookies.append hc
    simp only [producedBy_append, appendedBy_append, discardedBy_append]
    refine List.Perm.trans ?_ (hp.trans ?_)
    · simp only [List.append_assoc]
      exact List.Perm.append_left _ List.perm_append_comm
    · simp only [List.append_assoc]
      refine List.Perm.append_left _ ?_
      rw [← List.append_assoc, ← List.append_assoc]
      exact List.Perm.append_right _ List.perm_append_comm
  drained := hd

structure Idle (st : LoginState S) (es : List (Event S)) (st' : LoginState S) : Prop where
  finalized : st'.finalized = st.finalized
  session : st'.session = st.session
  pending : st'.pending = st.pending
  requestHeaders : st'.requestHeaders = st.requestHeaders
  setCookies : st'.setCookies = st.setCookies
  work : workOf es = []
  produced : producedBy es = []
  appended : appendedBy es = []
  discarded : discardedBy es = []
  loads : loadsBy es = []
  seen : ∀ s ∈ seenBy es, s.session = st.session
  claim : ∀ flag, flagAtClaim flag es = none
  flag : flagAfter st.terminateRequested es = st'.terminateRequested

theorem tracks_idle {st₀ st st' : LoginState S} {es es' : List (Event S)}
    (h : Tracks st₀ es st) (hi : Idle st es' st') : Tracks st₀ (es ++ es') st' where
  session := hi.session.trans h.session
  seen := by
    intro s hs
    rcases List.mem_append.mp (seenBy_append es es' ▸ hs) with hs | hs
    · exact h.seen s hs
    · exact (hi.seen s hs).trans h.session
  loads := by simp [h.loads, hi.loads]
  unclaimed := by
    intro hf
    have hu := h.unclaimed (hi.finalized ▸ hf)
    exact {
      pending := hi.pending.trans hu.pending
      requestHeaders := hi.requestHeaders.trans hu.requestHeaders
      setCookies := hi.setCookies.trans hu.setCookies
      work := by simp [hu.work, hi.work]
      produced := by simp [hu.produced, hi.produced]
      appended := by simp [hu.appended, hi.appended]
      discarded := by simp [hu.discarded, hi.discarded]
      claim := by simp [flagAtClaim_append, hu.claim, hi.claim]
      flag := by simp [hu.flag, hi.flag] }
  claimed := by
    intro hf
    have hc := h.claimed (hi.finalized ▸ hf)
    exact hc.extend hi.work (by simp [hi.produced, hi.appended, hi.discarded])
      (hi.setCookies.trans hc.drained)

theorem idle_silent {st : LoginState S} {e : Event S} (h : Silent e) : Idle st [e] st :=
  ⟨rfl, rfl, rfl, rfl, rfl, by simp [h.work], by simp [h.produced], by simp [h.appended],
    by simp [h.discarded], by simp [h.loads], by simp [h.seen],
    fun flag => by simp [flagAtClaim, h.claim], by simp [flagAfter, h.flag]⟩

theorem idle_queue {st : LoginState S} (response : Option LoginResponse) :
    Idle st [] { st with response := response } :=
  ⟨rfl, rfl, rfl, rfl, rfl, rfl, rfl, rfl, rfl, rfl, by simp, fun _ => rfl, rfl⟩

theorem idle_write {st : LoginState S} (value : Bool) :
    Idle st [.setTerminateRequested value] { st with terminateRequested := value } :=
  ⟨rfl, rfl, rfl, rfl, rfl, rfl, rfl, rfl, rfl, rfl, by simp [seen], fun _ => rfl, rfl⟩

theorem idle_enter {st : LoginState S} {e : Event S}
    (he : e ∈ [Event.innerResponseFilter st, .innerLogging st]) : Idle st [e] st := by
  simp only [List.mem_cons, List.not_mem_nil, or_false] at he
  rcases he with rfl | rfl <;>
    exact ⟨rfl, rfl, rfl, rfl, rfl, rfl, rfl, rfl, rfl, rfl, by simp [seen],
      fun _ => rfl, rfl⟩

@[simp] theorem workOf_duty (o : Obligation S) : workOf (duty o) = duty o := by
  rcases o with _ | ⟨session, headers, _ | pending⟩ | ⟨pending, headers⟩ <;> rfl

theorem duty_books (o : Obligation S) : producedBy (duty o) = [] ∧ appendedBy (duty o) = [] ∧
    discardedBy (duty o) = [] ∧ loadsBy (duty o) = [] ∧ seenBy (duty o) = [] := by
  rcases o with _ | ⟨session, headers, _ | pending⟩ | ⟨pending, headers⟩ <;>
    exact ⟨rfl, rfl, rfl, rfl, rfl⟩

/-- The claim discharges what is owed at that moment, with the flag it finds. -/
theorem tracks_claim {st₀ st st' : LoginState S} {es out : List (Event S)} (self : LoginProxy S)
    (phase : LoginPhase) (h : Tracks st₀ es st) (hc : Claims st out st') :
    Tracks st₀ (es ++ (finalizationEvent self phase :: out ++ duty (obligation st))) st' := by
  have hu := h.unclaimed hc.unclaimed
  have ho := hc.outlet
  obtain ⟨hproduced, happended, hdiscarded, hloads, hseen⟩ := duty_books (obligation st)
  have hevent : isClaim (finalizationEvent self phase) = true := by
    simp [isClaim, finalizationEvent, finalizationMetric]
  have hplain : isWork (finalizationEvent self phase) = false ∧
      produced (finalizationEvent self phase) = [] ∧ appended (finalizationEvent self phase) = [] ∧
      discarded (finalizationEvent self phase) = [] ∧ loads (finalizationEvent self phase) = [] ∧
      seen (finalizationEvent self phase) = [] := ⟨rfl, rfl, rfl, rfl, rfl, rfl⟩
  have howed : obligation { st₀ with terminateRequested := st.terminateRequested } =
      obligation st := by
    simp [obligation, ← h.session, ← hu.pending, ← hu.requestHeaders]
  refine ⟨hc.session.trans h.session, ?_, ?_, ?_, ?_⟩
  · simpa [hplain, ho.seen, hseen] using h.seen
  · simp [h.loads, hplain, ho.loads, hloads]
  · intro hf
    simp [hc.finalized] at hf
  · intro _
    refine ⟨⟨st.terminateRequested, ?_, ?_⟩, ?_, hc.drained⟩
    · simp [flagAtClaim_append, hu.claim, hu.flag, flagAtClaim, hevent]
    · simp [howed, hu.work, hplain, ho.work]
    · have hexits := hu.setCookies ▸ ho.exits
      simp [hplain, hu.produced, hu.appended, hu.discarded, ho.produced, hproduced, happended,
        hdiscarded, hexits]

theorem tracks_settle {st₀ st : LoginState S} {es out : List (Event S)} {e : Event S}
    (h : Tracks st₀ es st) (hf : st.finalized = true) (he : IsReturn e)
    (ho : Outlet out (produced e)) : Tracks st₀ (es ++ (e :: out)) st := by
  have hplain := return_books he
  refine ⟨h.session, ?_, ?_, ?_, ?_⟩
  · simpa [hplain, ho.seen] using h.seen
  · simp [h.loads, hplain, ho.loads]
  · intro hn
    simp [hf] at hn
  · intro _
    refine (h.claimed hf).extend ?_ ?_ (h.claimed hf).drained
    · simp [hplain, ho.work]
    · simp [hplain, ho.produced, ho.exits]

theorem tracks_step {st₀ : LoginState S} (es : List (Event S)) (st : LoginState S)
    (es' : List (Event S)) (st' : LoginState S) (h : Tracks st₀ es st) (hm : Move st es' st') :
    Tracks st₀ (es ++ es') st' := by
  cases hm with
  | silent hs => exact tracks_idle h (idle_silent hs)
  | queue response => exact tracks_idle h (idle_queue response)
  | enter he => exact tracks_idle h (idle_enter he)
  | write value => exact tracks_idle h (idle_write value)
  | claim self phase hc => exact tracks_claim self phase h hc
  | settle hf he ho => exact tracks_settle h hf he ho

inductive Call (S : Type) where
  | responseFilter (inner : Inner) (engine : LoginEngine S) (header : ResponseHeader)
  | logging (inner : Inner) (engine : LoginEngine S)
  | innerWrite (effect : InnerEffect)

def perform (self : LoginProxy S) : Call S → LoginHook S Unit
  | .responseFilter inner engine header => do
    updateResponse fun _ => header
    responseFilter { self with inner := inner, engine := engine }
  | .logging inner engine => logging { self with inner := inner, engine := engine }
  | .innerWrite effect => innerEffect effect

/-- Everything the environment decides about one request. -/
structure Request (S : Type) where
  proxy : LoginProxy S
  session : Downstream
  response : ResponseHeader
  calls : List (Call S)

namespace Request

def gate (r : Request S) : Ran Error (World S) (Event S) Bool :=
  (requestFilter r.proxy).run (.incoming r.session r.response)

def after (r : Request S) (calls : List (Call S)) : World S :=
  final (perform r.proxy) calls r.gate.state

/-- The events of further calls made after the given ones. -/
def eventsAfter (r : Request S) (before calls : List (Call S)) : List (Event S) :=
  trace (perform r.proxy) calls (r.after before)

def events (r : Request S) : List (Event S) := r.gate.events ++ r.eventsAfter [] r.calls

def headers (r : Request S) : HeaderMap := r.session.reqHeader.headers

def loaded (r : Request S) : Option (LoadedSession S) := (loadsBy r.events).head?

def loadedSession (r : Request S) : Option S := r.loaded.bind LoadedSession.session?
def loadedPending (r : Request S) : Option (PendingPersist S) :=
  r.loaded.bind LoadedSession.pending?

def Entered (r : Request S) : Prop := ∃ st, .innerRequestFilter st ∈ r.gate.events

end Request

theorem ledgered_perform (self : LoginProxy S) (c : Call S) : Ledgered (perform self c) := by
  cases c with
  | responseFilter inner engine header =>
    exact follows_bind (follows_update fun _ => .stay _) fun _ => ledgered_responseFilter _
  | logging inner engine => exact ledgered_logging _
  | innerWrite effect =>
    intro w
    rw [perform, run_innerEffect]
    exact path_effect effect w

theorem after_append (r : Request S) (before calls : List (Call S)) :
    r.after (before ++ calls) = final (perform r.proxy) calls (r.after before) :=
  final_append _ _ _ _

theorem path_calls (r : Request S) (before calls : List (Call S)) :
    Path Move (r.after before).ctx (r.eventsAfter before calls)
      (r.after (before ++ calls)).ctx := by
  rw [after_append]
  exact follows_run (ledgered_perform r.proxy) calls (r.after before)

theorem eventsAfter_append (r : Request S) (before calls calls' : List (Call S)) :
    r.eventsAfter before (calls ++ calls') =
      r.eventsAfter before calls ++ r.eventsAfter (before ++ calls) calls' := by
  simp [Request.eventsAfter, after_append, trace_append]

/-- The context a forwarded request starts from holds exactly what the load returned. -/
structure Opening (headers : HeaderMap) (pre : List (Event S)) (st : LoginState S) : Prop where
  quiet : Quiet pre
  produced : producedBy pre = st.setCookies
  loads : (loadsBy pre = [] ∧ st = .fresh) ∨ ∃ loaded, loadsBy pre = [loaded] ∧
    st = LoginState.fresh.prepareForward (LoadedSession.session? loaded)
      (LoadedSession.pending? loaded) headers (LoadedSession.setCookies loaded)

/-- A refused request commits the save it loaded, and nothing enters the context. -/
structure Refusal (headers : HeaderMap) (es : List (Event S)) : Prop where
  work : workOf es =
    ((loadsBy es).head?.bind LoadedSession.pending?).toList.map (.commit · headers)
  discarded : discardedBy es = []
  seen : seenBy es = []
  claim : flagAtClaim false es = none
  flag : flagAfter false es = false

section Gate

variable {self : LoginProxy S} {req : RequestHeader}

theorem quiet_loadEvents (self : LoginProxy S) (req : RequestHeader)
    (result : Except SessionError (LoadedSession S)) : Quiet (loadEvents self req result) := by
  have h := quiet_silent (silent_observed self .load .request result)
  have hcalls : Quiet ([.tryHandleLoginRoute, .loadSession req.headers, .loaded result] :
      List (Event S)) := quiet_of_all rfl
  exact hcalls.append h

theorem loadEvents_ok (self : LoginProxy S) (req : RequestHeader) (loaded : LoadedSession S) :
    loadsBy (loadEvents self req (.ok loaded)) = [loaded] ∧
      producedBy (loadEvents self req (.ok loaded)) = LoadedSession.setCookies loaded := by
  obtain ⟨hproduced, hloads⟩ := silent_books
    (silent_observed self .load .request (Except.ok loaded : Except SessionError (LoadedSession S)))
  constructor
  · simpa [loadEvents, loads] using hloads
  · simpa [loadEvents, produced] using hproduced

theorem loadEvents_error (self : LoginProxy S) (req : RequestHeader) (e : SessionError) :
    loadsBy (loadEvents self req (.error e)) = [] ∧
      producedBy (loadEvents self req (.error e)) = [] := by
  obtain ⟨hproduced, hloads⟩ := silent_books
    (silent_observed self .load .request (Except.error e : Except SessionError (LoadedSession S)))
  constructor
  · simpa [loadEvents, loads] using hloads
  · simpa [loadEvents, produced] using hproduced

theorem quiet_decision (outcome : String) : Quiet [decisionEvent self outcome] :=
  quiet_of_all rfl

theorem opening_loaded (self : LoginProxy S) (req : RequestHeader) (loaded : LoadedSession S)
    (outcome : String) : Opening req.headers
      (loadEvents self req (.ok loaded) ++ [decisionEvent self outcome])
      (LoginState.fresh.prepareForward (LoadedSession.session? loaded)
        (LoadedSession.pending? loaded) req.headers (LoadedSession.setCookies loaded)) := by
  obtain ⟨hloads, hproduced⟩ := loadEvents_ok self req loaded
  refine ⟨(quiet_loadEvents _ _ _).append (quiet_decision outcome), ?_, .inr ⟨loaded, ?_, rfl⟩⟩
  · simp [hproduced, produced, decisionEvent, LoginState.prepareForward]
  · simp [hloads, loads, decisionEvent]

theorem forwards_opening {pre : List (Event S)} {st : LoginState S}
    (h : Forwards self req .fresh pre st) : Opening req.headers pre st := by
  cases h with
  | preflight rule hp hr => exact ⟨quiet_decision _, rfl, .inl ⟨rfl, rfl⟩⟩
  | pub m c hu hr =>
    exact ⟨quiet_of_all rfl, rfl, .inl ⟨rfl, rfl⟩⟩
  | anonymous check loaded hu hr hl ha =>
    have hnone : LoadedSession.session? loaded = none ∧ LoadedSession.pending? loaded = none := by
      cases loaded <;> first | exact ⟨rfl, rfl⟩ | exact ha.elim
    have h := opening_loaded self req loaded "anonymous"
    rwa [hnone.1, hnone.2] at h
  | authenticated required check loaded sess hu hr hl hs hc =>
    have h := opening_loaded self req loaded "authenticated"
    rwa [hs] at h

theorem refusal_quiet {headers : HeaderMap} {es : List (Event S)} (hq : Quiet es)
    (hp : (loadsBy es).head?.bind LoadedSession.pending? = none) : Refusal headers es :=
  ⟨by simp [hq.work, hp], hq.discarded, hq.seen, hq.claim false, hq.flag false⟩

theorem refusal_unloaded {headers : HeaderMap} {es : List (Event S)} (hq : Quiet es)
    (hl : loadsBy es = []) : Refusal headers es :=
  refusal_quiet hq (by simp [hl])

theorem refusal_loaded {headers : HeaderMap} {loaded : LoadedSession S} {rest : List (Event S)}
    (hp : LoadedSession.pending? loaded = none) (hq : Quiet rest) :
    Refusal headers (loadEvents self req (.ok loaded) ++ rest) := by
  obtain ⟨hloads, -⟩ := loadEvents_ok self req loaded
  exact refusal_quiet ((quiet_loadEvents _ _ _).append hq) (by simp [hloads, hp])

theorem refusal_owed (pending : PendingPersist S) {rest : List (Event S)} (hq : Quiet rest) :
    Refusal req.headers (loadEvents self req (.ok (.activePending pending)) ++
      decisionEvent self "forbidden" :: .commit pending req.headers :: rest) := by
  obtain ⟨hloads, -⟩ := loadEvents_ok self req (.activePending pending)
  have hload := quiet_loadEvents self req (.ok (.activePending pending))
  have hcall : ∀ flag, flagAtClaim flag ([decisionEvent self "forbidden",
      .commit pending req.headers] : List (Event S)) = none ∧
      flagAfter flag ([decisionEvent self "forbidden", .commit pending req.headers] :
        List (Event S)) = flag := fun _ => ⟨rfl, rfl⟩
  rw [show ∀ d c : Event S, d :: c :: rest = [d, c] ++ rest from fun _ _ => rfl]
  refine ⟨?_, ?_, ?_, ?_, ?_⟩
  · simp [hload.work, hloads, isWork, decisionEvent, hq.work, LoadedSession.pending?]
  · simp [hload.discarded, discarded, decisionEvent, hq.discarded]
  · simp [hload.seen, seen, decisionEvent, hq.seen]
  · rw [flagAtClaim_append, flagAtClaim_append, hload.claim, (hcall _).1, hq.claim]
    rfl
  · rw [flagAfter_append, flagAfter_append, hload.flag, (hcall _).2, hq.flag]

theorem answers_refusal {pre : List (Event S)} {resp : LoginResponse} {cookies : SetCookies}
    (h : Answers self req pre resp cookies) : Refusal req.headers pre := by
  cases h with
  | preflightDenied reason hp hr => exact refusal_unloaded (quiet_decision _) rfl
  | loginRoute _ hp ht | routeDenied reason hu hr =>
    exact refusal_unloaded (quiet_of_all rfl) rfl
  | loadFailed required check e hu hr hl =>
    refine refusal_unloaded ((quiet_loadEvents _ _ _).append (quiet_decision _)) ?_
    simp [(loadEvents_error self req e).1, loads, decisionEvent]
  | refreshUnavailable required check hu hr hl => exact refusal_loaded rfl (quiet_decision _)
  | unauthenticated check loaded _ hu hr hl ha hd =>
    refine refusal_loaded ?_ (quiet_of_all rfl)
    cases loaded <;> first | rfl | exact ha.elim
  | forbidden required check loaded sess msg hu hr hl hs hc hp =>
    exact refusal_loaded hp (quiet_decision _)
  | forbiddenPersisted required check pending msg result hu hr hl hc hp =>
    have hreturn : Quiet ([.committed result] : List (Event S)) := quiet_of_all rfl
    exact refusal_owed pending
      (hreturn.append (quiet_silent (silent_observed self .persist .denied result)))

theorem drops_refusal {pre : List (Event S)} (h : Drops self req pre) :
    Refusal req.headers pre := by
  cases h with
  | loginRoute hp ht | load required check hu hr hl =>
    exact refusal_unloaded (quiet_of_all rfl) rfl
  | redirect check loaded hu hr hl ha hd =>
    refine refusal_loaded ?_ (quiet_of_all rfl)
    cases loaded <;> first | rfl | exact ha.elim
  | persist required check pending msg hu hr hl hc hp =>
    exact refusal_owed pending (quiet_of_all rfl)

theorem refusal_written {pre tail : List (Event S)} (h : Refusal req.headers pre)
    (header : ResponseHeader) (endOfStream : Bool) (cookies : SetCookies)
    (ht : ∀ e ∈ tail, ∃ body eos, e = .writeResponseBody body eos) :
    Refusal req.headers (pre ++ (cookies.map .appendSetCookie ++
      .writeResponseHeader header endOfStream :: tail)) := by
  have hout := outlet_appended (S := S) cookies
  have hflag := outgoing_flag hout.outgoing false
  have hkept : discardedBy (cookies.map .appendSetCookie : List (Event S)) = [] := by
    simp [discardedBy, List.flatMap_map, discarded]
  have hwrite := silent_writes header endOfStream ht
  have hq := quiet_silent hwrite
  have hl := (silent_books hwrite).2
  refine ⟨?_, ?_, ?_, ?_, ?_⟩
  · simp only [workOf_append, loadsBy_append, hout.work, hq.work, hout.loads, hl, List.append_nil,
      h.work]
  · simp only [discardedBy_append, h.discarded, hkept, hq.discarded, List.append_nil]
  · simp only [seenBy_append, h.seen, hout.seen, hq.seen, List.append_nil]
  · simp only [flagAtClaim_append, h.claim, h.flag, hflag, hq.claim, Option.or_none]
  · simp only [flagAfter_append, h.flag, hflag, hq.flag]

end Gate

/-- The books of the gate up to the first context the application sees. -/
inductive Start (headers : HeaderMap) : List (Event S) → LoginState S → Prop where
  | entered {pre st} : Opening headers pre st → Start headers (pre ++ [.innerRequestFilter st]) st
  | refused {es} : Refusal headers es → enteredWith es = [] → Start headers es .fresh

theorem gate_start (r : Request S) : ∃ head st rest, r.gate.events = head ++ rest ∧
    Start r.headers head st ∧ (enteredWith head = [] → rest = []) ∧
      Path Move st rest r.gate.state.ctx := by
  have hrun := requestFilter_cases r.proxy (.incoming r.session r.response)
  unfold Request.gate
  generalize (requestFilter r.proxy).run (.incoming r.session r.response) = g at hrun
  cases hrun with
  | @forward pre st hf =>
    obtain ⟨rest, hevents, hpath⟩ := forwardRun_spec r.proxy (.incoming r.session r.response) pre st
    have hopen : Opening r.headers pre st := forwards_opening hf
    refine ⟨pre ++ [.innerRequestFilter st], st, rest, by simp [hevents], .entered hopen, ?_, hpath⟩
    rw [(calls_append _ _).1]
    simp [enteredWith]
  | @answer pre resp cookies ha =>
    obtain ⟨eos, tail, hevents, htail, hctx⟩ :=
      answerRun_spec (.incoming r.session r.response) pre resp cookies
    refine ⟨_, .fresh, [], (List.append_nil _).symm, ?_, fun _ => rfl, ?_⟩
    · rw [hevents]
      refine .refused (refusal_written (answers_refusal ha) _ eos cookies htail) ?_
      rw [(calls_append _ _).1, (prelude_answers ha).entered,
        (calls_written _ eos cookies htail).1, List.append_nil]
    · rw [hctx]
      exact .stay _
  | @drop pre hd =>
    exact ⟨pre, .fresh, [], (List.append_nil _).symm,
      .refused (drops_refusal hd) (prelude_drops hd).entered, fun _ => rfl, .stay _⟩

theorem start_open {headers : HeaderMap} {head : List (Event S)} {st : LoginState S}
    (h : Start headers head st) : st.finalized = false ∧ st.terminateRequested = false := by
  cases h with
  | entered hopen =>
    rcases hopen.loads with ⟨-, rfl⟩ | ⟨loaded, -, rfl⟩ <;> exact ⟨rfl, rfl⟩
  | refused hrefuse hnone => exact ⟨rfl, rfl⟩

theorem start_flag {headers : HeaderMap} {head : List (Event S)} {st : LoginState S}
    (h : Start headers head st) : flagAtClaim false head = none ∧ flagAfter false head = false := by
  cases h with
  | entered hopen =>
    have hq := hopen.quiet
    rw [flagAtClaim_append, flagAfter_append, hq.claim, hq.flag]
    exact ⟨rfl, rfl⟩
  | refused hrefuse hnone => exact ⟨hrefuse.claim, hrefuse.flag⟩

/-- The books of a run: a start, and the events since, which track its context. -/
structure Books (r : Request S) (head : List (Event S)) (st : LoginState S)
    (rest : List (Event S)) : Prop where
  events : r.gate.events = head ++ rest
  start : Start r.headers head st
  whole : enteredWith head = [] → rest = []
  later : ∀ e ∈ rest, isGate e = false
  tracks : ∀ calls, Tracks st (rest ++ r.eventsAfter [] calls) (r.after calls).ctx

theorem run_books (r : Request S) : ∃ head st rest, Books r head st rest := by
  obtain ⟨head, st, rest, hevents, hstart, hwhole, hpath⟩ := gate_start r
  refine ⟨head, st, rest, hevents, hstart, hwhole, path_not_gate hpath, fun calls => ?_⟩
  have hall : Path Move st (rest ++ r.eventsAfter [] calls) (r.after calls).ctx :=
    hpath.trans (path_calls r [] calls)
  exact Path.invariant tracks_step hall [] (tracks_start (start_open hstart).1)

section Reading

variable {r : Request S} {head rest : List (Event S)} {st : LoginState S}

theorem Books.split (b : Books r head st rest) :
    r.events = head ++ (rest ++ r.eventsAfter [] r.calls) := by
  rw [Request.events, b.events, List.append_assoc]

theorem Books.loaded (b : Books r head st rest) : r.loaded = (loadsBy head).head? := by
  rw [Request.loaded, b.split, loadsBy_append, (b.tracks r.calls).loads, List.append_nil]

theorem Books.entered_iff (b : Books r head st rest) :
    r.Entered ↔ ∃ pre, head = pre ++ [.innerRequestFilter st] ∧ Opening r.headers pre st := by
  have hnot : enteredWith rest = [] := (calls_of_not_gate b.later).1
  have hin : r.Entered ↔ enteredWith head ≠ [] := by
    rw [Request.Entered, b.events]
    simp only [mem_enteredWith, (calls_append head rest).1, hnot, List.append_nil]
    exact ⟨fun ⟨_, hst⟩ => List.ne_nil_of_mem hst, List.exists_mem_of_ne_nil _⟩
  rw [hin]
  have hstart := b.start
  constructor
  · intro hne
    cases hstart with
    | @entered pre _ hopen => exact ⟨pre, rfl, hopen⟩
    | refused hrefuse hnone => exact absurd hnone hne
  · rintro ⟨pre, rfl, -⟩
    rw [(calls_append _ _).1]
    simp [enteredWith]

theorem Books.refusal (b : Books r head st rest) (h : ¬ r.Entered) :
    Refusal r.headers head ∧ st = .fresh ∧ r.gate.events = head := by
  have hstart := b.start
  cases hstart with
  | @entered pre _ hopen => exact absurd (b.entered_iff.mpr ⟨pre, rfl, hopen⟩) h
  | refused hrefuse hnone =>
    refine ⟨hrefuse, rfl, ?_⟩
    rw [b.events, b.whole hnone, List.append_nil]

theorem Books.opening (b : Books r head st rest) (h : r.Entered) :
    st.session = r.loadedSession ∧ st.pending = r.loadedPending ∧
      (r.loadedSession.isSome → st.requestHeaders = r.headers) := by
  obtain ⟨pre, rfl, hopen⟩ := b.entered_iff.mp h
  have hl : r.loaded = (loadsBy pre).head? := by
    rw [b.loaded, loadsBy_append]
    exact congrArg List.head? (List.append_nil _)
  rcases hopen.loads with ⟨hnil, rfl⟩ | ⟨loaded, hone, rfl⟩
  · simp [Request.loadedSession, Request.loadedPending, hl, hnil, LoginState.fresh]
  · simp [Request.loadedSession, Request.loadedPending, hl, hone, LoginState.prepareForward]

end Reading

end LoginLifecycle
