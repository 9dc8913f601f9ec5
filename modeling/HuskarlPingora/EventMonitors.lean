import HuskarlPingora.TracedHooks

/-! # Monitors over the events of hooks

A monitor follows the events of a run by its own steps, and a run it cannot follow is
wrong. A triple says what a hook may assume of the state and of the monitor, and what it
leaves, whether it returns or not. Nothing here refers to a particular program. -/
namespace EventMonitors

open TracedHooks

variable {ε σ τ γ : Type} {α β : Type}

abbrev Monitor (γ τ : Type) := γ → τ → γ → Prop

inductive Reads (M : Monitor γ τ) : γ → List τ → γ → Prop where
  | nil (g) : Reads M g [] g
  | cons {g g' g'' e es} : M g e g' → Reads M g' es g'' → Reads M g (e :: es) g''

variable {M : Monitor γ τ}

theorem Reads.append {g g' g'' : γ} {es es' : List τ} (h : Reads M g es g')
    (h' : Reads M g' es' g'') : Reads M g (es ++ es') g'' := by
  induction h with
  | nil g => exact h'
  | cons hstep _ ih => exact .cons hstep (ih h')

theorem Reads.single {g g' : γ} {e : τ} (h : M g e g') : Reads M g [e] g' :=
  .cons h (.nil g')

theorem Reads.ignored {g : γ} {es : List τ} (h : ∀ e ∈ es, M g e g) : Reads M g es g := by
  induction es with
  | nil => exact .nil g
  | cons e es ih =>
    exact .cons (h e List.mem_cons_self) (ih fun e' he => h e' (List.mem_cons_of_mem e he))

/-- What holds of the end of a run: `Q` of one that returned, `E` of any other. -/
def Ends (Q : α → σ → γ → Prop) (E : σ → γ → Prop) : Exit ε α → σ → γ → Prop
  | .done a => Q a
  | .failed _ => E
  | .cancelled => E

def Triple (M : Monitor γ τ) (P : σ → γ → Prop) (m : Hook ε σ τ α) (Q : α → σ → γ → Prop)
    (E : σ → γ → Prop) : Prop :=
  ∀ s g, P s g → ∃ g', Reads M g (m.run s).events g' ∧ Ends Q E (m.run s).exit (m.run s).state g'

section Rules

variable {P P' : σ → γ → Prop} {Q Q' : α → σ → γ → Prop} {R : β → σ → γ → Prop}
  {E E' : σ → γ → Prop}

theorem Triple.mono {m : Hook ε σ τ α} (h : Triple M P' m Q' E') (hpre : ∀ s g, P s g → P' s g)
    (hpost : ∀ a s g, Q' a s g → Q a s g) (hend : ∀ s g, E' s g → E s g) : Triple M P m Q E := by
  intro s g hp
  obtain ⟨g', hreads, hends⟩ := h s g (hpre s g hp)
  refine ⟨g', hreads, ?_⟩
  generalize (m.run s).exit = exit at hends ⊢
  cases exit with
  | done a => exact hpost a _ _ hends
  | failed e => exact hend _ _ hends
  | cancelled => exact hend _ _ hends

theorem Triple.pre {m : Hook ε σ τ α} (h : Triple M P' m Q E) (hpre : ∀ s g, P s g → P' s g) :
    Triple M P m Q E :=
  h.mono hpre (fun _ _ _ hq => hq) fun _ _ he => he

theorem triple_pure (a : α) (h : ∀ s g, P s g → Q a s g) :
    Triple M P (pure a : Hook ε σ τ α) Q E :=
  fun s g hp => ⟨g, .nil g, h s g hp⟩

theorem Triple.bind {m : Hook ε σ τ α} {f : α → Hook ε σ τ β} (hm : Triple M P m Q E)
    (hf : ∀ a, Triple M (Q a) (f a) R E) : Triple M P (m >>= f) R E := by
  intro s g hp
  obtain ⟨g', hreads, hends⟩ := hm s g hp
  rw [run_bind]
  unfold Ran.andThen
  cases hx : (m.run s).exit with
  | done a =>
    rw [hx] at hends
    obtain ⟨g'', hrest, hends'⟩ := hf a (m.run s).state g' hends
    exact ⟨g'', hreads.append hrest, hends'⟩
  | failed e =>
    rw [hx] at hends
    exact ⟨g', hreads, hends⟩
  | cancelled =>
    rw [hx] at hends
    exact ⟨g', hreads, hends⟩

theorem triple_read {f : σ → Hook ε σ τ β}
    (h : ∀ s₀, Triple M (fun s g => s = s₀ ∧ P s g) (f s₀) R E) :
    Triple M P (read >>= f) R E := by
  intro s g hp
  rw [run_bind, run_read, andThen_done, after_nil]
  exact h s s g ⟨rfl, hp⟩

theorem triple_update {f : σ → σ} {Q : Unit → σ → γ → Prop} (h : ∀ s g, P s g → Q () (f s) g) :
    Triple M P (update f : Hook ε σ τ Unit) Q E :=
  fun s g hp => ⟨g, .nil g, h s g hp⟩

theorem triple_emit {e : τ} {Q : Unit → σ → γ → Prop}
    (h : ∀ s g, P s g → ∃ g', M g e g' ∧ Q () s g') :
    Triple M P (emit e : Hook ε σ τ Unit) Q E := by
  intro s g hp
  obtain ⟨g', hstep, hq⟩ := h s g hp
  exact ⟨g', .single hstep, hq⟩

theorem triple_await (x : Await α) (h : ∀ a s g, x = .ready a → P s g → Q a s g)
    (hend : ∀ s g, x = .dropped → P s g → E s g) :
    Triple M P (await x : Hook ε σ τ α) Q E := by
  intro s g hp
  cases x with
  | ready a => exact ⟨g, .nil g, h a s g rfl hp⟩
  | dropped => exact ⟨g, .nil g, hend s g rfl hp⟩

theorem triple_attempt (x : Except ε α) (h : ∀ a s g, x = .ok a → P s g → Q a s g)
    (hend : ∀ e s g, x = .error e → P s g → E s g) :
    Triple M P (attempt x : Hook ε σ τ α) Q E := by
  intro s g hp
  cases x with
  | ok a => exact ⟨g, .nil g, h a s g rfl hp⟩
  | error e => exact ⟨g, .nil g, hend e s g rfl hp⟩

theorem triple_fail (e : ε) (hend : ∀ s g, P s g → E s g) :
    Triple M P (fail e : Hook ε σ τ α) Q E :=
  fun s g hp => ⟨g, .nil g, hend s g hp⟩

/-- The environment takes what is handed over, or the hook ends there. -/
theorem triple_handOver {accept : σ → Await (Except ε Unit)} {mark : σ → σ} {e : τ}
    {R : Unit → σ → γ → Prop} (h : ∀ s g, P s g → ∃ g', M g e g' ∧
      (accept s = .ready (.ok ()) → R () (mark s) g') ∧
      (accept s ≠ .ready (.ok ()) → E s g')) : Triple M P (handOver accept mark e) R E := by
  intro s g hp
  obtain ⟨g', hstep, htaken, hrefused⟩ := h s g hp
  rw [run_handOver]
  cases hx : accept s with
  | dropped => exact ⟨g', .single hstep, hrefused (by simp [hx])⟩
  | ready result =>
    cases result with
    | ok u => exact ⟨g', .single hstep, htaken hx⟩
    | error x => exact ⟨g', .single hstep, hrefused (by simp [hx])⟩

/-- A hook whose events go unnoticed leaves the monitor where it was. -/
theorem triple_ignored {m : Hook ε σ τ α} (hevents : ∀ s g, P s g → ∀ e ∈ (m.run s).events, M g e g)
    (hstate : ∀ s g, P s g → P (m.run s).state g) : Triple M P m (fun _ => P) P := by
  intro s g hp
  refine ⟨g, Reads.ignored (hevents s g hp), ?_⟩
  have hkept := hstate s g hp
  generalize (m.run s).exit = exit
  cases exit <;> exact hkept

end Rules

theorem Triple.kept {P J : σ → γ → Prop} {m : Hook ε σ τ α} (h : Triple M P m (fun _ => J) J)
    {s : σ} {g : γ} (hp : P s g) : ∃ g', Reads M g (m.run s).events g' ∧ J (m.run s).state g' := by
  obtain ⟨g', hreads, hends⟩ := h s g hp
  refine ⟨g', hreads, ?_⟩
  generalize (m.run s).exit = exit at hends
  cases exit <;> exact hends

section Emits

variable {A B : τ → Prop}

def Emits (A : τ → Prop) (m : Hook ε σ τ α) : Prop := ∀ s, ∀ e ∈ (m.run s).events, A e

theorem Emits.mono {m : Hook ε σ τ α} (h : Emits A m) (hab : ∀ e, A e → B e) : Emits B m :=
  fun s e he => hab e (h s e he)

theorem emits_pure (a : α) : Emits A (pure a : Hook ε σ τ α) := by
  intro s e he
  cases he

theorem Emits.bind {m : Hook ε σ τ α} {f : α → Hook ε σ τ β} (hm : Emits A m)
    (hf : ∀ a, Emits A (f a)) : Emits A (m >>= f) := by
  intro s e he
  rw [run_bind] at he
  unfold Ran.andThen at he
  cases hx : (m.run s).exit with
  | done a =>
    rw [hx] at he
    rcases List.mem_append.mp he with he | he
    · exact hm s e he
    · exact hf a _ e he
  | failed | cancelled =>
    rw [hx] at he
    exact hm s e he

theorem emits_read {f : σ → Hook ε σ τ α} (h : ∀ s, Emits A (f s)) : Emits A (read >>= f) :=
  fun s e he => h s s e he

theorem emits_update (f : σ → σ) : Emits A (update f : Hook ε σ τ Unit) := by
  intro s e he
  cases he

theorem emits_emit {e : τ} (h : A e) : Emits A (emit e : Hook ε σ τ Unit) := by
  intro s e' he
  exact List.mem_singleton.mp he ▸ h

theorem emits_await (x : Await α) : Emits A (await x : Hook ε σ τ α) := by
  intro s e he
  cases x <;> cases he

theorem emits_attempt (x : Except ε α) : Emits A (attempt x : Hook ε σ τ α) := by
  intro s e he
  cases x <;> cases he

theorem emits_taken (x : Await (Except ε α)) : Emits A (await x >>= attempt : Hook ε σ τ α) :=
  (emits_await x).bind emits_attempt

theorem emits_fail (x : ε) : Emits A (fail x : Hook ε σ τ α) := by
  intro s e he
  cases he

theorem Emits.keeps {P : γ → Prop} {E : σ → γ → Prop} {m : Hook ε σ τ α} (h : Emits A m)
    (hA : ∀ e, A e → ∀ g, P g → M g e g) (hend : ∀ s g, P g → E s g) :
    Triple M (fun _ => P) m (fun _ _ => P) E := by
  have hkept : Triple M (fun _ => P) m (fun _ _ => P) fun _ => P :=
    triple_ignored (fun s g hp e he => hA e (h s e he) g hp) fun _ _ hp => hp
  exact hkept.mono (fun _ _ hp => hp) (fun _ _ _ hp => hp) hend

theorem emits_trace {κ : Type} {perform : κ → Hook ε σ τ α} {cs : List κ}
    (h : ∀ c ∈ cs, Emits A (perform c)) (s : σ) : ∀ e ∈ trace perform cs s, A e := by
  induction cs generalizing s with
  | nil =>
    intro e he
    cases he
  | cons c cs ih =>
    intro e he
    rw [trace_cons] at he
    rcases List.mem_append.mp he with he | he
    · exact h c List.mem_cons_self s e he
    · exact ih (fun d hd => h d (List.mem_cons_of_mem c hd)) _ e he

end Emits

/-- What every hook keeps, however it ends, holds after any hooks. -/
theorem reads_run {κ : Type} {perform : κ → Hook ε σ τ α} {J : σ → γ → Prop} {cs : List κ}
    (h : ∀ c ∈ cs, Triple M J (perform c) (fun _ => J) J) {s : σ} {g : γ} (hj : J s g) :
    ∃ g', Reads M g (trace perform cs s) g' ∧ J (final perform cs s) g' := by
  induction cs generalizing s g with
  | nil => exact ⟨g, .nil g, hj⟩
  | cons c cs ih =>
    obtain ⟨g', hreads, hkept⟩ := (h c List.mem_cons_self).kept hj
    obtain ⟨g'', hrest, hlast⟩ := ih (fun d hd => h d (List.mem_cons_of_mem c hd)) hkept
    rw [trace_cons]
    exact ⟨g'', hreads.append hrest, hlast⟩

end EventMonitors
