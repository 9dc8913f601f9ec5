import Mathlib.Data.List.Basic

/-! # Traced, cancellable hooks

A hook runs over a mutable state, emits visible events, and ends in one of three
ways: with a value, with an error, or dropped while an awaited call was pending.
The state and the events survive all three, so a later hook sees what a failed
or dropped one left behind. Nothing here refers to a particular program. -/
namespace TracedHooks

/-- The answer of an awaited call. `dropped` means the awaiting task was cancelled. -/
inductive Await (α : Type*) where
  | ready (value : α)
  | dropped
  deriving DecidableEq, Repr

inductive Exit (ε α : Type*) where
  | done (value : α)
  | failed (error : ε)
  | cancelled
  deriving DecidableEq, Repr

structure Ran (ε σ τ α : Type*) where
  exit : Exit ε α
  state : σ
  events : List τ

def Hook (ε σ τ α : Type*) := σ → Ran ε σ τ α

universe u

variable {ε σ τ : Type*} {α β : Type u}

def Hook.run (m : Hook ε σ τ α) (s : σ) : Ran ε σ τ α := m s

def Ran.after (r : Ran ε σ τ α) (es : List τ) : Ran ε σ τ α :=
  { r with events := es ++ r.events }

def Ran.andThen (r : Ran ε σ τ α) (k : α → σ → Ran ε σ τ β) : Ran ε σ τ β :=
  match r.exit with
  | .done a => (k a r.state).after r.events
  | .failed e => ⟨.failed e, r.state, r.events⟩
  | .cancelled => ⟨.cancelled, r.state, r.events⟩

instance : Monad (Hook ε σ τ) where
  pure a := fun s => ⟨.done a, s, []⟩
  bind m f := fun s => (m s).andThen fun a s' => f a s'

def read : Hook ε σ τ σ := fun s => ⟨.done s, s, []⟩
def update (f : σ → σ) : Hook ε σ τ Unit := fun s => ⟨.done (), f s, []⟩
def emit (e : τ) : Hook ε σ τ Unit := fun s => ⟨.done (), s, [e]⟩
def fail (e : ε) : Hook ε σ τ α := fun s => ⟨.failed e, s, []⟩

def await : Await α → Hook ε σ τ α
  | .ready a => fun s => ⟨.done a, s, []⟩
  | .dropped => fun s => ⟨.cancelled, s, []⟩

/-- The early return of a fallible call: an error ends the hook. -/
def attempt : Except ε α → Hook ε σ τ α
  | .ok a => fun s => ⟨.done a, s, []⟩
  | .error e => fun s => ⟨.failed e, s, []⟩

@[simp] theorem run_pure (a : α) (s : σ) :
    (pure a : Hook ε σ τ α).run s = ⟨.done a, s, []⟩ := rfl
@[simp] theorem run_bind (m : Hook ε σ τ α) (f : α → Hook ε σ τ β) (s : σ) :
    (m >>= f).run s = (m.run s).andThen fun a s' => (f a).run s' := rfl
@[simp] theorem run_read (s : σ) : (read : Hook ε σ τ σ).run s = ⟨.done s, s, []⟩ := rfl
@[simp] theorem run_update (f : σ → σ) (s : σ) :
    (update f : Hook ε σ τ Unit).run s = ⟨.done (), f s, []⟩ := rfl
@[simp] theorem run_emit (e : τ) (s : σ) :
    (emit e : Hook ε σ τ Unit).run s = ⟨.done (), s, [e]⟩ := rfl
@[simp] theorem run_fail (e : ε) (s : σ) :
    (fail e : Hook ε σ τ α).run s = ⟨.failed e, s, []⟩ := rfl
@[simp] theorem run_await_ready (a : α) (s : σ) :
    (await (.ready a) : Hook ε σ τ α).run s = ⟨.done a, s, []⟩ := rfl
@[simp] theorem run_await_dropped (s : σ) :
    (await .dropped : Hook ε σ τ α).run s = ⟨.cancelled, s, []⟩ := rfl
@[simp] theorem run_attempt_ok (a : α) (s : σ) :
    (attempt (.ok a) : Hook ε σ τ α).run s = ⟨.done a, s, []⟩ := rfl
@[simp] theorem run_attempt_error (e : ε) (s : σ) :
    (attempt (.error e) : Hook ε σ τ α).run s = ⟨.failed e, s, []⟩ := rfl

@[simp] theorem andThen_done (a : α) (s : σ) (es : List τ) (k : α → σ → Ran ε σ τ β) :
    Ran.andThen ⟨.done a, s, es⟩ k = (k a s).after es := rfl
@[simp] theorem andThen_failed (e : ε) (s : σ) (es : List τ) (k : α → σ → Ran ε σ τ β) :
    Ran.andThen ⟨.failed e, s, es⟩ k = ⟨.failed e, s, es⟩ := rfl
@[simp] theorem andThen_cancelled (s : σ) (es : List τ) (k : α → σ → Ran ε σ τ β) :
    Ran.andThen ⟨.cancelled, s, es⟩ k = ⟨.cancelled, s, es⟩ := rfl

@[simp] theorem after_mk (x : Exit ε α) (s : σ) (es es' : List τ) :
    Ran.after ⟨x, s, es'⟩ es = ⟨x, s, es ++ es'⟩ := rfl
@[simp] theorem after_nil (r : Ran ε σ τ α) : r.after [] = r := rfl
@[simp] theorem after_after (r : Ran ε σ τ α) (es es' : List τ) :
    (r.after es').after es = r.after (es ++ es') := by
  simp [Ran.after]
@[simp] theorem after_exit (r : Ran ε σ τ α) (es : List τ) : (r.after es).exit = r.exit := rfl
@[simp] theorem after_state (r : Ran ε σ τ α) (es : List τ) : (r.after es).state = r.state := rfl
@[simp] theorem after_events (r : Ran ε σ τ α) (es : List τ) :
    (r.after es).events = es ++ r.events := rfl

theorem bind_ok {x : Except ε α} {f : α → Except ε β} {b : β} (h : (x >>= f) = .ok b) :
    ∃ a, x = .ok a ∧ f a = .ok b := by
  cases x with
  | error e => cases h
  | ok a => exact ⟨a, rfl, h⟩

theorem after_andThen (r : Ran ε σ τ α) (es : List τ) (k : α → σ → Ran ε σ τ β) :
    (r.after es).andThen k = (r.andThen k).after es := by
  unfold Ran.andThen
  rw [after_exit]
  cases r.exit <;> simp [Ran.after]

theorem andThen_state {P : σ → Prop} {r : Ran ε σ τ α} {k : α → σ → Ran ε σ τ β}
    (h : P r.state) (hk : ∀ a, P (k a r.state).state) : P (r.andThen k).state := by
  unfold Ran.andThen
  cases r.exit with
  | done a => exact hk a
  | failed e => exact h
  | cancelled => exact h

theorem done_of_bind {m : Hook ε σ τ α} {f : α → Hook ε σ τ β} {s : σ} {b : β}
    (h : ((m >>= f).run s).exit = .done b) :
    ∃ a, (m.run s).exit = .done a ∧ ((f a).run (m.run s).state).exit = .done b := by
  rw [run_bind] at h
  unfold Ran.andThen at h
  cases hx : (m.run s).exit with
  | done a =>
    rw [hx] at h
    exact ⟨a, rfl, h⟩
  | failed e =>
    rw [hx] at h
    cases h
  | cancelled =>
    rw [hx] at h
    cases h

theorem hook_bind_assoc {δ : Type u} (m : Hook ε σ τ α) (f : α → Hook ε σ τ β)
    (g : β → Hook ε σ τ δ) : (m >>= f) >>= g = m >>= fun a => f a >>= g := by
  funext s
  change ((m >>= f) >>= g).run s = (m >>= fun a => f a >>= g).run s
  simp only [run_bind]
  generalize m.run s = r
  obtain ⟨exit, state, events⟩ := r
  cases exit with
  | done a => exact after_andThen _ _ _
  | failed e => rfl
  | cancelled => rfl

section Runs

variable {κ : Type*} (perform : κ → Hook ε σ τ α)

/-- One record for each call, in order. A call starts from the state the previous
one left, however that one ended. -/
def records : List κ → σ → List (Ran ε σ τ α)
  | [], _ => []
  | c :: cs, s => (perform c).run s :: records cs ((perform c).run s).state

def final : List κ → σ → σ
  | [], s => s
  | c :: cs, s => final cs ((perform c).run s).state

def trace (cs : List κ) (s : σ) : List τ := (records perform cs s).flatMap Ran.events

@[simp] theorem trace_nil (s : σ) : trace perform [] s = [] := rfl
@[simp] theorem trace_cons (c : κ) (cs : List κ) (s : σ) :
    trace perform (c :: cs) s =
      ((perform c).run s).events ++ trace perform cs ((perform c).run s).state := by
  simp [trace, records]

/-- A record is the run of its call on the state the earlier calls left. -/
theorem mem_records {cs : List κ} {s : σ} {r : Ran ε σ τ α} (h : r ∈ records perform cs s) :
    ∃ before c later, cs = before ++ c :: later ∧ r = (perform c).run (final perform before s) := by
  induction cs generalizing s with
  | nil => cases h
  | cons c cs ih =>
    rcases List.mem_cons.mp h with rfl | h
    · exact ⟨[], c, cs, rfl, rfl⟩
    · obtain ⟨before, c', later, rfl, hr⟩ := ih h
      exact ⟨c :: before, c', later, rfl, hr⟩

theorem records_append (cs ds : List κ) (s : σ) :
    records perform (cs ++ ds) s =
      records perform cs s ++ records perform ds (final perform cs s) := by
  induction cs generalizing s with
  | nil => rfl
  | cons c cs ih => simp [records, final, ih]

theorem trace_append (cs ds : List κ) (s : σ) :
    trace perform (cs ++ ds) s = trace perform cs s ++ trace perform ds (final perform cs s) := by
  simp [trace, records_append]

theorem final_append (cs ds : List κ) (s : σ) :
    final perform (cs ++ ds) s = final perform ds (final perform cs s) := by
  induction cs generalizing s with
  | nil => rfl
  | cons c cs ih => simp [final, ih]

end Runs

inductive Path {ρ : Type*} (Move : ρ → List τ → ρ → Prop) : ρ → List τ → ρ → Prop where
  | stay (s) : Path Move s [] s
  | cons {s s' s'' es es'} : Move s es s' → Path Move s' es' s'' → Path Move s (es ++ es') s''

section Paths

variable {ρ : Type*} {Move : ρ → List τ → ρ → Prop}

theorem Path.single {s s' : ρ} {es : List τ} (h : Move s es s') : Path Move s es s' := by
  simpa using Path.cons h (Path.stay s')

theorem Path.trans {s s' s'' : ρ} {es es' : List τ} (h : Path Move s es s')
    (h' : Path Move s' es' s'') : Path Move s (es ++ es') s'' := by
  induction h with
  | stay s => simpa using h'
  | cons hm _ ih => simpa [List.append_assoc] using Path.cons hm (ih h')

/-- A relation between the events so far and the state that every move keeps holds
at the end of every path. -/
theorem Path.invariant {I : List τ → ρ → Prop}
    (step : ∀ t s es s', I t s → Move s es s' → I (t ++ es) s') {s s' : ρ} {es : List τ}
    (h : Path Move s es s') : ∀ t, I t s → I (t ++ es) s' := by
  induction h with
  | stay s => intro t hi; simpa using hi
  | cons hm _ ih => intro t hi; simpa [List.append_assoc] using ih _ (step _ _ _ _ hi hm)

/-- A hook may do several atomic things to the part of the state one cares about. It
follows a move relation when each of its runs is a path of moves over that part. -/
def Follows (view : σ → ρ) (Move : ρ → List τ → ρ → Prop) (m : Hook ε σ τ α) : Prop :=
  ∀ s, Path Move (view s) (m.run s).events (view (m.run s).state)

variable {view : σ → ρ}

theorem follows_await (a : Await α) : Follows view Move (await a : Hook ε σ τ α) := by
  cases a with
  | ready a => exact fun s => .stay (view s)
  | dropped => exact fun s => .stay (view s)

theorem follows_attempt (r : Except ε α) : Follows view Move (attempt r : Hook ε σ τ α) := by
  cases r with
  | ok a => exact fun s => .stay (view s)
  | error e => exact fun s => .stay (view s)

theorem follows_update {f : σ → σ} (h : ∀ s, Path Move (view s) [] (view (f s))) :
    Follows view Move (update f : Hook ε σ τ Unit) :=
  h

theorem Path.andThen (view : σ → ρ) {r : Ran ε σ τ α} {k : α → σ → Ran ε σ τ β} {v : ρ}
    (h : Path Move v r.events (view r.state))
    (hk : ∀ a, r.exit = .done a →
      Path Move (view r.state) (k a r.state).events (view (k a r.state).state)) :
    Path Move v (r.andThen k).events (view (r.andThen k).state) := by
  unfold Ran.andThen
  cases hx : r.exit with
  | done a => exact h.trans (hk a hx)
  | failed e => exact h
  | cancelled => exact h

theorem follows_bind {m : Hook ε σ τ α} {f : α → Hook ε σ τ β} (hm : Follows view Move m)
    (hf : ∀ a, Follows view Move (f a)) : Follows view Move (m >>= f) :=
  fun s => (hm s).andThen view fun a _ => hf a _

theorem follows_run {κ : Type*} {perform : κ → Hook ε σ τ α}
    (h : ∀ c, Follows view Move (perform c)) (cs : List κ) (s : σ) :
    Path Move (view s) (trace perform cs s) (view (final perform cs s)) := by
  induction cs generalizing s with
  | nil => exact .stay (view s)
  | cons c cs ih =>
    rw [trace_cons]
    exact (h c s).trans (ih _)

end Paths

section Leaves

variable {ρ : Type*} {view : σ → ρ}

def Leaves (view : σ → ρ) (m : Hook ε σ τ α) : Prop :=
  ∀ s, view (m.run s).state = view s

theorem leaves_update {f : σ → σ} (h : ∀ s, view (f s) = view s) :
    Leaves view (update f : Hook ε σ τ Unit) :=
  h

theorem leaves_await (a : Await α) : Leaves view (await a : Hook ε σ τ α) := by
  intro s
  cases a <;> rfl

theorem leaves_attempt (r : Except ε α) : Leaves view (attempt r : Hook ε σ τ α) := by
  intro s
  cases r <;> rfl

theorem leaves_bind {m : Hook ε σ τ α} {f : α → Hook ε σ τ β} (hm : Leaves view m)
    (hf : ∀ a, Leaves view (f a)) : Leaves view (m >>= f) := by
  intro s
  rw [run_bind]
  apply andThen_state (P := fun s' => view s' = view s)
  · exact hm s
  · intro a
    exact (hf a _).trans (hm s)

theorem leaves_final {κ : Type*} {perform : κ → Hook ε σ τ α} {cs : List κ}
    (h : ∀ c ∈ cs, Leaves view (perform c)) (s : σ) : view (final perform cs s) = view s := by
  induction cs generalizing s with
  | nil => rfl
  | cons c cs ih =>
    rw [final, ih fun d hd => h d (List.mem_cons_of_mem c hd)]
    exact h c List.mem_cons_self s

end Leaves

section InTurn

variable {ε σ τ : Type}

/-- One event is handed over, and the environment decides whether the hook goes on. -/
def handOver (accept : σ → Await (Except ε Unit)) (mark : σ → σ) (e : τ) : Hook ε σ τ Unit := do
  emit e
  let result ← await (accept (← read))
  attempt result
  update mark

/-- What two hand-overs do, the second of them optional. Only the environment can stop
them, and then nothing follows. -/
structure InTurn {α : Type} (accept accept' : σ → Await (Except ε Unit)) (mark : σ → σ)
    (first : τ) (second : List τ) (value : α) (s : σ) (r : Ran ε σ τ α) : Prop where
  state : r.state = s ∨ r.state = mark s
  begun : ∃ rest, r.events = first :: rest
  within : r.events <+: first :: second
  finished : ∀ a, r.exit = .done a → a = value ∧ r.events = first :: second ∧ r.state = mark s
  whole : accept s = .ready (.ok ()) → accept' (mark s) = .ready (.ok ()) → r.exit = .done value

theorem run_handOver (accept : σ → Await (Except ε Unit)) (mark : σ → σ) (e : τ) (s : σ) :
    (handOver accept mark e).run s = match accept s with
      | .dropped => ⟨.cancelled, s, [e]⟩
      | .ready (.error x) => ⟨.failed x, s, [e]⟩
      | .ready (.ok ()) => ⟨.done (), mark s, [e]⟩ := by
  unfold handOver
  cases h : accept s with
  | dropped => simp [h]
  | ready result => cases result <;> simp [h]

theorem inTurn_handOver (accept accept' : σ → Await (Except ε Unit)) (mark : σ → σ)
    (first second : τ) (both : Bool) (s : σ) :
    InTurn accept accept' mark first (if both then [second] else []) () s ((do
      handOver accept mark first
      if both then handOver accept' id second else pure () : Hook ε σ τ Unit).run s) := by
  rw [run_bind, run_handOver]
  cases h : accept s with
  | dropped => exact ⟨.inl rfl, ⟨[], rfl⟩, by simp, by simp, by simp [h]⟩
  | ready result =>
    cases result with
    | error x => exact ⟨.inl rfl, ⟨[], rfl⟩, by simp, by simp, by simp [h]⟩
    | ok u =>
      cases both with
      | false => exact ⟨.inr rfl, ⟨[], rfl⟩, by simp, by simp, by simp⟩
      | true =>
        simp only [andThen_done, if_true, run_handOver, id]
        cases h' : accept' (mark s) with
        | dropped => exact ⟨.inr rfl, ⟨[second], rfl⟩, by simp, by simp, by simp [h']⟩
        | ready result =>
          cases result with
          | error x => exact ⟨.inr rfl, ⟨[second], rfl⟩, by simp, by simp, by simp [h']⟩
          | ok u => exact ⟨.inr rfl, ⟨[second], rfl⟩, by simp, by simp, by simp⟩

/-- The value a hook returns after its hand-overs. -/
theorem InTurn.returning {accept accept' : σ → Await (Except ε Unit)} {mark : σ → σ} {first : τ}
    {second : List τ} {s : σ} {r : Ran ε σ τ Unit}
    (h : InTurn accept accept' mark first second () s r) {α : Type} (value : α) :
    InTurn accept accept' mark first second value s
      (r.andThen fun _ s' => ⟨.done value, s', []⟩) := by
  obtain ⟨exit, state, events⟩ := r
  cases exit with
  | done u =>
    rw [andThen_done, after_mk, List.append_nil]
    refine ⟨h.state, h.begun, h.within, ?_, fun _ _ => rfl⟩
    intro a ha
    cases ha
    exact ⟨rfl, (h.finished () rfl).2⟩
  | failed | cancelled =>
    refine ⟨h.state, h.begun, h.within, ?_, ?_⟩
    · intro a ha
      cases ha
    · intro haccept haccept'
      cases h.whole haccept haccept'

end InTurn

end TracedHooks
