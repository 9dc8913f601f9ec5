import HuskarlPingora.SessionLedger

/-! # Who reaches the application behind the login adapter

The policy is stated on its own, over what the engine and the router answer, and
compared with the runs of `request_filter` on a fresh context. -/
namespace LoginAccess

open HttpModel RouteResolution LoginRules LoginContext LoginAdapter LoginEffects LoginGate
open SessionLedger TracedHooks

variable {S : Type}

/-- The load returned a session, and the rule's check is absent or accepts it. -/
def Accepted (check : Option (CheckFn S)) (loaded : LoadedSession S) : Prop :=
  ∃ sess, LoadedSession.session? loaded = some sess ∧ ∀ f, check = some f → f sess = .ok ()

def AdmitsLoad (required : Bool) (check : Option (CheckFn S)) (loaded : LoadedSession S) : Prop :=
  (required = false ∧ LoadedSession.Anonymous loaded) ∨ Accepted check loaded

def AdmitsRule (self : LoginProxy S) (req : RequestHeader) : LoginRule S → Prop
  | .pub _ _ => True
  | .optional check _ =>
    ∃ loaded, Loads self req (.ready (.ok loaded)) ∧ AdmitsLoad false check loaded
  | .required check _ =>
    ∃ loaded, Loads self req (.ready (.ok loaded)) ∧ AdmitsLoad true check loaded

def Admits (self : LoginProxy S) (req : RequestHeader) : Prop :=
  (Preflight self req ∧ ∃ rule, Resolves self req (.ok rule)) ∨
    (Unclaimed self req ∧ ∃ rule, Resolves self req (.ok rule) ∧ AdmitsRule self req rule)

def NeedsSession (self : LoginProxy S) (req : RequestHeader) : Prop :=
  Unclaimed self req ∧ ∃ required check, Loading self req required check

/-- The session the application may see: none on preflights and public routes. -/
def servedSession (self : LoginProxy S) (req : RequestHeader) : Option S :=
  if self.corsPassthrough && self.engine.isCorsPreflight req.method req.headers then none
  else
    match self.routes.resolve req.uri.path req.method, self.engine.loadSession req.headers with
    | .ok (.optional _ _), .ready (.ok loaded) => LoadedSession.session? loaded
    | .ok (.required _ _), .ready (.ok loaded) => LoadedSession.session? loaded
    | _, _ => none

def enteredWith (es : List (Event S)) : List (LoginState S) :=
  es.filterMap fun
    | .innerRequestFilter st => some st
    | _ => none

def loadCalls (es : List (Event S)) : List HeaderMap :=
  es.filterMap fun
    | .loadSession headers => some headers
    | _ => none

section Reading

variable {self : LoginProxy S} {req : RequestHeader}

theorem runCheck_ok_iff (check : Option (CheckFn S)) (sess : S) :
    runCheck check sess = .ok () ↔ ∀ f, check = some f → f sess = .ok () := by
  cases check with
  | none => simp [runCheck]
  | some f => simp [runCheck]

theorem admits_preflight (hp : Preflight self req) :
    Admits self req ↔ ∃ rule, Resolves self req (.ok rule) := by
  constructor
  · rintro (⟨-, hr⟩ | ⟨hu, -⟩)
    · exact hr
    · exact absurd hp hu.1
  · exact fun hr => .inl ⟨hp, hr⟩

theorem admits_rule (hu : Unclaimed self req) {rule : LoginRule S}
    (hr : Resolves self req (.ok rule)) : Admits self req ↔ AdmitsRule self req rule := by
  constructor
  · rintro (⟨hp, -⟩ | ⟨-, rule', hr', h⟩)
    · exact absurd hp hu.1
    · obtain rfl : rule = rule' := by simpa using hr.symm.trans hr'
      exact h
  · exact fun h => .inr ⟨hu, rule, hr, h⟩

theorem admits_load {required : Bool} {check : Option (CheckFn S)} {loaded : LoadedSession S}
    (hu : Unclaimed self req) (hr : Loading self req required check)
    (hl : Loads self req (.ready (.ok loaded))) :
    Admits self req ↔ AdmitsLoad required check loaded := by
  obtain ⟨m, hr⟩ := hr
  rw [admits_rule hu hr]
  have hsame : ∀ loaded', Loads self req (.ready (.ok loaded')) ↔ loaded = loaded' := by
    intro loaded'
    unfold Loads at hl ⊢
    simp [hl]
  cases required <;> simp [AdmitsRule, hsame]

theorem not_admits_unloaded {required : Bool} {check : Option (CheckFn S)}
    (hu : Unclaimed self req) (hr : Loading self req required check)
    (hl : ∀ loaded, ¬ Loads self req (.ready (.ok loaded))) : ¬ Admits self req := by
  obtain ⟨m, hr⟩ := hr
  rw [admits_rule hu hr]
  cases required <;> simp [AdmitsRule, hl]

theorem not_admits_denied {reason : ResolveError} (hr : Resolves self req (.error reason)) :
    ¬ Admits self req := by
  rintro (⟨-, rule, hr'⟩ | ⟨-, rule, hr', -⟩) <;> simpa using hr.symm.trans hr'

theorem not_admits_route (hp : ¬ Preflight self req)
    (ht : self.engine.tryHandleLoginRoute req.method req.headers req.uri ≠ .ready none) :
    ¬ Admits self req := by
  rintro (⟨hp', -⟩ | ⟨hu, -⟩)
  · exact hp hp'
  · exact ht hu.2

theorem not_accepted_anonymous {check : Option (CheckFn S)} {loaded : LoadedSession S}
    (h : LoadedSession.Anonymous loaded) : ¬ Accepted check loaded := by
  rintro ⟨sess, hs, -⟩
  cases loaded <;> simp_all [LoadedSession.Anonymous, LoadedSession.session?]

theorem not_anonymous_of_session {loaded : LoadedSession S} {sess : S}
    (h : LoadedSession.session? loaded = some sess) : ¬ LoadedSession.Anonymous loaded := by
  cases loaded <;> simp_all [LoadedSession.Anonymous, LoadedSession.session?]

end Reading

section Outcomes

variable {self : LoginProxy S} {req : RequestHeader}

theorem forwards_admits {st st' : LoginState S} {pre : List (Event S)}
    (h : Forwards self req st pre st') : Admits self req := by
  cases h with
  | preflight rule hp hr => exact (admits_preflight hp).mpr ⟨rule, hr⟩
  | pub m c hu hr => exact (admits_rule hu hr).mpr trivial
  | anonymous check loaded hu hr hl ha => exact (admits_load hu hr hl).mpr (.inl ⟨rfl, ha⟩)
  | authenticated required check loaded sess hu hr hl hs hc =>
    exact (admits_load hu hr hl).mpr (.inr ⟨sess, hs, (runCheck_ok_iff check sess).mp hc⟩)

theorem refused_check {required : Bool} {check : Option (CheckFn S)} {loaded : LoadedSession S}
    {sess : S} {e : CheckError} (hs : LoadedSession.session? loaded = some sess)
    (hc : runCheck check sess = .error e) : ¬ AdmitsLoad required check loaded := by
  rintro (⟨-, ha⟩ | ⟨sess', hs', hok⟩)
  · exact not_anonymous_of_session hs ha
  · obtain rfl : sess = sess' := by simpa [hs] using hs'
    rw [(runCheck_ok_iff check sess).mpr hok] at hc
    cases hc

theorem anonymous_required {check : Option (CheckFn S)} {loaded : LoadedSession S}
    (ha : LoadedSession.Anonymous loaded) : ¬ AdmitsLoad true check loaded := by
  rintro (⟨hreq, -⟩ | hacc)
  · cases hreq
  · exact not_accepted_anonymous ha hacc

theorem answers_refused {pre : List (Event S)} {resp : LoginResponse} {cookies : SetCookies}
    (h : Answers self req pre resp cookies) : ¬ Admits self req := by
  cases h with
  | preflightDenied reason hp hr => exact not_admits_denied hr
  | loginRoute _ hp ht => exact not_admits_route hp (by simp [ht])
  | routeDenied reason hu hr => exact not_admits_denied hr
  | loadFailed required check e hu hr hl =>
    refine not_admits_unloaded hu hr fun loaded hl' => ?_
    simpa using hl.symm.trans hl'
  | refreshUnavailable required check hu hr hl =>
    rw [admits_load hu hr hl]
    rintro (⟨-, ha⟩ | ⟨sess, hs, -⟩)
    · exact ha
    · simp [LoadedSession.session?] at hs
  | unauthenticated check loaded _ hu hr hl ha hd =>
    rw [admits_load hu hr hl]
    exact anonymous_required ha
  | forbidden required check loaded sess msg hu hr hl hs hc hp =>
    rw [admits_load hu hr hl]
    exact refused_check hs hc
  | forbiddenPersisted required check pending msg result hu hr hl hc hp =>
    rw [admits_load hu hr hl]
    exact refused_check rfl hc

theorem drops_refused {pre : List (Event S)} (h : Drops self req pre) : ¬ Admits self req := by
  cases h with
  | loginRoute hp ht => exact not_admits_route hp (by simp [ht])
  | load required check hu hr hl =>
    refine not_admits_unloaded hu hr fun loaded hl' => ?_
    simpa using hl.symm.trans hl'
  | redirect check loaded hu hr hl ha hd =>
    rw [admits_load hu hr hl]
    exact anonymous_required ha
  | persist required check pending msg hu hr hl hc hp =>
    rw [admits_load hu hr hl]
    exact refused_check rfl hc

/-- One load when a rule needs the session, none otherwise. -/
def LoadsAsNeeded (self : LoginProxy S) (req : RequestHeader) (es : List (Event S)) : Prop :=
  (NeedsSession self req ∧ loadCalls es = [req.headers]) ∨
    (¬ NeedsSession self req ∧ loadCalls es = [])

theorem not_needs_preflight (hp : Preflight self req) : ¬ NeedsSession self req :=
  fun h => h.1.1 hp

theorem not_needs_route (ht : self.engine.tryHandleLoginRoute req.method req.headers req.uri ≠
    .ready none) : ¬ NeedsSession self req :=
  fun h => ht h.1.2

theorem not_needs_denied {reason : ResolveError} (hr : Resolves self req (.error reason)) :
    ¬ NeedsSession self req := by
  rintro ⟨-, required, check, m, hr'⟩
  simpa using hr.symm.trans hr'

theorem not_needs_pub {m : MethodMatch} {c : Bool} (hr : Resolves self req (.ok (.pub m c))) :
    ¬ NeedsSession self req := by
  rintro ⟨-, required, check, m', hr'⟩
  cases required <;> simpa using hr.symm.trans hr'

theorem calls_of_not_gate {es : List (Event S)} (h : ∀ e ∈ es, isGate e = false) :
    enteredWith es = [] ∧ loadCalls es = [] := by
  rw [enteredWith, loadCalls, List.filterMap_eq_nil_iff, List.filterMap_eq_nil_iff]
  refine ⟨fun e he => ?_, fun e he => ?_⟩ <;>
    (have hgate := h e he; cases e <;> first | rfl | exact absurd hgate (by simp [isGate]))

theorem calls_append (es es' : List (Event S)) :
    enteredWith (es ++ es') = enteredWith es ++ enteredWith es' ∧
      loadCalls (es ++ es') = loadCalls es ++ loadCalls es' :=
  ⟨List.filterMap_append .., List.filterMap_append ..⟩

theorem calls_observed {α : Type} (self : LoginProxy S) (operation : SessionOperation)
    (phase : LoginPhase) (result : Except SessionError α) :
    enteredWith (observed self operation phase result) = [] ∧
      loadCalls (observed self operation phase result) = [] :=
  calls_of_not_gate fun e he => (silent_observed self operation phase result e he).gate

theorem calls_loadEvents (self : LoginProxy S) (req : RequestHeader)
    (result : Except SessionError (LoadedSession S)) :
    enteredWith (loadEvents self req result) = [] ∧
      loadCalls (loadEvents self req result) = [req.headers] := by
  obtain ⟨hentered, hloads⟩ := calls_observed self .load .request result
  exact ⟨hentered, by simpa [loadEvents, loadCalls] using hloads⟩

theorem calls_written {tail : List (Event S)} (header : ResponseHeader) (endOfStream : Bool)
    (cookies : SetCookies) (ht : ∀ e ∈ tail, ∃ body eos, e = .writeResponseBody body eos) :
    enteredWith (cookies.map .appendSetCookie ++
        .writeResponseHeader header endOfStream :: tail) = [] ∧
      loadCalls (cookies.map .appendSetCookie ++
        .writeResponseHeader header endOfStream :: tail) = [] := by
  refine calls_of_not_gate fun e he => ?_
  rcases List.mem_append.mp he with he | he
  · exact ((outlet_appended cookies).outgoing e he).gate
  · exact (silent_writes _ _ ht e he).gate

structure Prelude (proxy : LoginProxy S) (req : RequestHeader) (pre : List (Event S)) : Prop where
  entered : enteredWith pre = []
  loads : LoadsAsNeeded proxy req pre

theorem prelude_loading {required : Bool} {check : Option (CheckFn S)}
    {result : Except SessionError (LoadedSession S)} {rest : List (Event S)}
    (hu : Unclaimed self req) (hr : Loading self req required check)
    (hrest : enteredWith rest = [] ∧ loadCalls rest = []) :
    Prelude self req (loadEvents self req result ++ rest) := by
  obtain ⟨hentered, hloads⟩ := calls_loadEvents self req result
  obtain ⟨happ, happ'⟩ := calls_append (loadEvents self req result) rest
  exact ⟨by simp [happ, hentered, hrest],
    .inl ⟨⟨hu, required, check, hr⟩, by simp [happ', hloads, hrest]⟩⟩

theorem prelude_forwards {st st' : LoginState S} {pre : List (Event S)}
    (h : Forwards self req st pre st') : Prelude self req pre := by
  cases h with
  | preflight rule hp hr => exact ⟨rfl, .inr ⟨not_needs_preflight hp, rfl⟩⟩
  | pub m c hu hr => exact ⟨rfl, .inr ⟨not_needs_pub hr, rfl⟩⟩
  | anonymous check loaded hu hr hl ha => exact prelude_loading hu hr ⟨rfl, rfl⟩
  | authenticated required check loaded sess hu hr hl hs hc =>
    exact prelude_loading hu hr ⟨rfl, rfl⟩

theorem prelude_answers {pre : List (Event S)} {resp : LoginResponse} {cookies : SetCookies}
    (h : Answers self req pre resp cookies) : Prelude self req pre := by
  cases h with
  | preflightDenied reason hp hr => exact ⟨rfl, .inr ⟨not_needs_preflight hp, rfl⟩⟩
  | loginRoute _ hp ht => exact ⟨rfl, .inr ⟨not_needs_route (by simp [ht]), rfl⟩⟩
  | routeDenied reason hu hr => exact ⟨rfl, .inr ⟨not_needs_denied hr, rfl⟩⟩
  | loadFailed required check e hu hr hl => exact prelude_loading hu hr ⟨rfl, rfl⟩
  | refreshUnavailable required check hu hr hl => exact prelude_loading hu hr ⟨rfl, rfl⟩
  | unauthenticated check loaded _ hu hr hl ha hd => exact prelude_loading hu hr ⟨rfl, rfl⟩
  | forbidden required check loaded sess msg hu hr hl hs hc hp =>
    exact prelude_loading hu hr ⟨rfl, rfl⟩
  | forbiddenPersisted required check pending msg result hu hr hl hc hp =>
    refine prelude_loading hu hr ?_
    obtain ⟨hentered, hloads⟩ := calls_observed self .persist .denied result
    exact ⟨by simpa [enteredWith, decisionEvent] using hentered,
      by simpa [loadCalls, decisionEvent] using hloads⟩

theorem prelude_drops {pre : List (Event S)} (h : Drops self req pre) : Prelude self req pre := by
  cases h with
  | loginRoute hp ht => exact ⟨rfl, .inr ⟨not_needs_route (by simp [ht]), rfl⟩⟩
  | load required check hu hr hl => exact ⟨rfl, .inl ⟨⟨hu, required, check, hr⟩, rfl⟩⟩
  | redirect check loaded hu hr hl ha hd => exact prelude_loading hu hr ⟨rfl, rfl⟩
  | persist required check pending msg hu hr hl hc hp => exact prelude_loading hu hr ⟨rfl, rfl⟩

theorem forwards_context {pre : List (Event S)} {st : LoginState S}
    (h : Forwards self req .fresh pre st) :
    st.session = servedSession self req ∧ st.terminateRequested = false ∧ st.finalized = false := by
  have hskip : Unclaimed self req →
      (self.corsPassthrough && self.engine.isCorsPreflight req.method req.headers) = false := by
    intro hu
    simpa [Preflight] using hu.1
  cases h with
  | preflight rule hp hr => simp [servedSession, hp.1, hp.2, LoginState.fresh]
  | pub m c hu hr =>
    have hr' : self.routes.resolve req.uri.path req.method = _ := hr
    simp [servedSession, hskip hu, hr', LoginState.fresh]
  | anonymous check loaded hu hr hl ha =>
    obtain ⟨m, hr⟩ := hr
    have hr' : self.routes.resolve req.uri.path req.method = _ := hr
    have hl' : self.engine.loadSession req.headers = _ := hl
    have hnone : LoadedSession.session? loaded = none := by
      cases loaded <;> first | rfl | exact ha.elim
    simp [servedSession, hskip hu, hr', hl', hnone, LoginState.prepareForward]
  | authenticated required check loaded sess hu hr hl hs hc =>
    obtain ⟨m, hr⟩ := hr
    have hr' : self.routes.resolve req.uri.path req.method = _ := hr
    have hl' : self.engine.loadSession req.headers = _ := hl
    cases required <;> simp [servedSession, hskip hu, hr', hl', hs, LoginState.prepareForward]

end Outcomes

/-- What `request_filter` may do with a request that just arrived. -/
structure GateSafe (proxy : LoginProxy S) (session : Downstream) (es : List (Event S)) : Prop where
  admits : (∃ st, .innerRequestFilter st ∈ es) ↔ Admits proxy session.reqHeader
  once : (enteredWith es).length ≤ 1
  loads : NeedsSession proxy session.reqHeader → loadCalls es = [session.reqHeader.headers]
  spares : ¬ NeedsSession proxy session.reqHeader → loadCalls es = []
  context : ∀ st, .innerRequestFilter st ∈ es →
    st.session = servedSession proxy session.reqHeader ∧ st.terminateRequested = false ∧
      st.finalized = false

theorem mem_enteredWith {es : List (Event S)} {st : LoginState S} :
    .innerRequestFilter st ∈ es ↔ st ∈ enteredWith es := by
  rw [enteredWith, List.mem_filterMap]
  constructor
  · exact fun h => ⟨_, h, rfl⟩
  · rintro ⟨e, he, hst⟩
    cases e <;> simp_all

theorem LoadsAsNeeded.append {self : LoginProxy S} {req : RequestHeader} {es es' : List (Event S)}
    (h : LoadsAsNeeded self req es) (h' : loadCalls es' = []) :
    LoadsAsNeeded self req (es ++ es') := by
  rw [LoadsAsNeeded, (calls_append es es').2, h', List.append_nil]
  exact h

structure GateCalls (proxy : LoginProxy S) (session : Downstream) (es : List (Event S)) : Prop where
  loads : LoadsAsNeeded proxy session.reqHeader es
  outcome : (enteredWith es = [] ∧ ¬ Admits proxy session.reqHeader) ∨
    ∃ pre st, enteredWith es = [st] ∧ Forwards proxy session.reqHeader .fresh pre st

theorem gate_calls (self : LoginProxy S) (session : Downstream) (response : ResponseHeader) :
    GateCalls self session ((requestFilter self).run (.incoming session response)).events := by
  have hrun := requestFilter_cases self (.incoming session response)
  generalize (requestFilter self).run (.incoming session response) = r at hrun
  cases hrun with
  | @forward pre st hf =>
    have hf : Forwards self session.reqHeader .fresh pre st := hf
    have hpre := prelude_forwards hf
    obtain ⟨rest, hevents, hpath⟩ := forwardRun_spec self (.incoming session response) pre st
    obtain ⟨hentered, hloads⟩ := calls_of_not_gate (path_not_gate hpath)
    rw [hevents]
    refine ⟨hpre.loads.append (by simpa [loadCalls] using hloads), .inr ⟨pre, st, ?_, hf⟩⟩
    rw [(calls_append _ _).1, hpre.entered]
    simpa [enteredWith] using hentered
  | @answer pre resp cookies ha =>
    have ha : Answers self session.reqHeader pre resp cookies := ha
    have hpre := prelude_answers ha
    obtain ⟨eos, tail, hevents, htail, -⟩ :=
      answerRun_spec (.incoming session response) pre resp cookies
    obtain ⟨hentered, hloads⟩ := calls_written (loginHeader resp cookies) eos cookies htail
    rw [hevents]
    refine ⟨hpre.loads.append hloads, .inl ⟨?_, answers_refused ha⟩⟩
    rw [(calls_append _ _).1, hpre.entered, hentered, List.append_nil]
  | @drop pre hd =>
    have hd : Drops self session.reqHeader pre := hd
    have hpre := prelude_drops hd
    exact ⟨hpre.loads, .inl ⟨hpre.entered, drops_refused hd⟩⟩

theorem loadCalls_needed {self : LoginProxy S} {req : RequestHeader} {es : List (Event S)}
    (h : LoadsAsNeeded self req es) : ∀ headers ∈ loadCalls es, headers = req.headers := by
  intro headers hmem
  rcases h with ⟨-, h⟩ | ⟨-, h⟩
  · simpa [h] using hmem
  · simp [h] at hmem

/-- The gate lets a request through exactly when the policy admits it. -/
theorem login_gate_admits_exactly (self : LoginProxy S) (session : Downstream)
    (response : ResponseHeader) :
    GateSafe self session ((requestFilter self).run (.incoming session response)).events := by
  obtain ⟨hloads, hout⟩ := gate_calls self session response
  refine ⟨?_, ?_, ?_, ?_, ?_⟩
  · rcases hout with ⟨hnone, hno⟩ | ⟨pre, st, hone, hf⟩
    · simp [mem_enteredWith, hnone, hno]
    · simp [mem_enteredWith, hone, forwards_admits hf]
  · rcases hout with ⟨hnone, -⟩ | ⟨pre, st, hone, -⟩
    · simp [hnone]
    · simp [hone]
  · rcases hloads with ⟨-, h⟩ | ⟨hn, -⟩
    · exact fun _ => h
    · exact fun hy => absurd hy hn
  · rcases hloads with ⟨hy, -⟩ | ⟨-, h⟩
    · exact fun hn => absurd hy hn
    · exact fun _ => h
  · intro st hst
    rcases hout with ⟨hnone, -⟩ | ⟨pre, st', hone, hf⟩
    · simp [mem_enteredWith, hnone] at hst
    · obtain rfl : st = st' := by simpa [mem_enteredWith, hone] using hst
      exact forwards_context hf

end LoginAccess
