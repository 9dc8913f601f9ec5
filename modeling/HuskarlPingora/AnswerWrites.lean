import HuskarlPingora.EventMonitors

/-! # Filters that answer or pass on

A filter answers a message itself, with one head and the body the head announced, or it
passes the message on to an inner filter. What it returns says which of the two happened,
and what the inner filter said. Nothing here refers to a particular program. -/
namespace AnswerWrites

open TracedHooks EventMonitors

variable {ε σ τ α : Type}

/-- The part an event plays. An entry carries what the inner filter answers, and `last`
ends an answer. -/
inductive Part where
  | entry (answer : Option Bool)
  | head (last : Bool)
  | body (last : Bool)
  deriving DecidableEq, Repr

inductive Progress where
  | untouched
  | passedOn (answer : Option Bool)
  | begun
  | closed (bodied : Bool)
  deriving DecidableEq, Repr

/-- How a filter is watched: the parts of its events, and whether its peer takes the next
head and the next body. -/
structure Outlet (ε σ τ : Type) where
  part : τ → Option Part
  head : σ → Await (Except ε Unit)
  body : σ → Await (Except ε Unit)

def answerOf : Await (Except ε Bool) → Option Bool
  | .ready (.ok handled) => some handled
  | _ => none

def Progress.Unwritten : Progress → Prop
  | .untouched | .passedOn _ => True
  | .begun | .closed _ => False

/-- Nobody answers the message yet. -/
def Progress.Open : Progress → Prop
  | .untouched => True
  | .passedOn answer => answer = some false
  | .begun | .closed _ => False

def Progress.Taken (o : Outlet ε σ τ) (s : σ) : Progress → Prop
  | .untouched | .passedOn _ => True
  | .begun => o.head s = .ready (.ok ())
  | .closed bodied => o.head s = .ready (.ok ()) ∧ (bodied = true → o.body s = .ready (.ok ()))

/-- One answer at most, from its head to its last part, and one inner filter at most, before
anything was written. No answer is begun unless the inner filter declined. -/
inductive AnswerStep (part : τ → Option Part) : Monitor Progress τ
  | other {g e} : part e = none → AnswerStep part g e g
  | entry {e answer} : part e = some (.entry answer) →
      AnswerStep part .untouched e (.passedOn answer)
  | whole {g e} : part e = some (.head true) → g.Open → AnswerStep part g e (.closed false)
  | head {g e} : part e = some (.head false) → g.Open → AnswerStep part g e .begun
  | body {e} : part e = some (.body false) → AnswerStep part .begun e .begun
  | last {e} : part e = some (.body true) → AnswerStep part .begun e (.closed true)

variable {o : Outlet ε σ τ}

/-- A filter lets a message go on, with nothing written, if the inner filter answered so.
It is done after a whole answer, or if the inner filter was. -/
def Returned : Bool → Progress → Prop
  | false, g => g = .passedOn (some false)
  | true, g => g = .passedOn (some true) ∨ ∃ bodied, g = .closed bodied

def Whole (o : Outlet ε σ τ) (s : σ) (g : Progress) : Prop :=
  (∃ bodied, g = .closed bodied) ∧ g.Taken o s

/-- A filter that does not return has written nothing, or its peer refused a part. -/
def Halted (o : Outlet ε σ τ) (s : σ) (g : Progress) : Prop := g.Unwritten ∨ ¬ g.Taken o s

def Concludes (o : Outlet ε σ τ) (R : Bool → Progress → Prop) :
    Exit ε Bool → σ → Progress → Prop :=
  Ends (fun handled s g => R handled g ∧ g.Taken o s) (Halted o)

abbrev Silent (o : Outlet ε σ τ) (m : Hook ε σ τ α) : Prop := Emits (o.part · = none) m

abbrev Answers (o : Outlet ε σ τ) (P : Progress → Prop) (m : Hook ε σ τ Bool) : Prop :=
  Triple (AnswerStep o.part) (fun _ => P) m
    (fun handled s g => Returned handled g ∧ g.Taken o s) (Halted o)

theorem Silent.keeps {m : Hook ε σ τ α} (h : Silent o m) {P : Progress → Prop}
    (hunwritten : ∀ g, P g → g.Unwritten) :
    Triple (AnswerStep o.part) (fun _ => P) m (fun _ _ => P) (Halted o) :=
  Emits.keeps h (fun _ he _ _ => .other he) fun _ g hg => .inl (hunwritten g hg)

theorem Silent.untouched {m : Hook ε σ τ α} (h : Silent o m) :
    Triple (AnswerStep o.part) (fun _ g => g = .untouched) m (fun _ _ g => g = .untouched)
      (Halted o) := by
  refine h.keeps ?_
  rintro g rfl
  trivial

theorem Silent.passedOn {m : Hook ε σ τ α} (h : Silent o m) {answer : Option Bool} :
    Triple (AnswerStep o.part) (fun _ g => g = .passedOn answer) m
      (fun _ _ g => g = .passedOn answer) (Halted o) := by
  refine h.keeps ?_
  rintro g rfl
  trivial

theorem silent_emit {e : τ} (h : o.part e = none) : Silent o (emit e : Hook ε σ τ Unit) :=
  emits_emit h

section Writes

theorem triple_head {e : τ} {last : Bool} (he : o.part e = some (.head last)) (mark : σ → σ)
    (hmark : ∀ s, o.head (mark s) = o.head s) :
    Triple (AnswerStep o.part) (fun _ g => g.Open) (handOver o.head mark e)
      (fun _ s g => g = (if last then .closed false else .begun) ∧ g.Taken o s) (Halted o) := by
  refine triple_handOver fun s g hg => ?_
  cases last with
  | true =>
    refine ⟨.closed false, .whole he hg, fun htaken => ⟨rfl, ?_⟩, fun hrefused => .inr ?_⟩
    · exact ⟨(hmark s).trans htaken, fun hbody => by cases hbody⟩
    · exact fun htaken => hrefused htaken.1
  | false =>
    refine ⟨.begun, .head he hg, fun htaken => ⟨rfl, ?_⟩, fun hrefused => .inr hrefused⟩
    exact (hmark s).trans htaken

/-- A head that announces no body is a whole answer. -/
theorem triple_whole {m : Hook ε σ τ Unit}
    (h : Triple (AnswerStep o.part) (fun _ g => g.Open) m
      (fun _ s g => g = .closed false ∧ g.Taken o s) (Halted o)) :
    Triple (AnswerStep o.part) (fun _ g => g = .untouched) m (fun _ => Whole o) (Halted o) := by
  refine h.mono ?_ ?_ fun _ _ hend => hend
  · rintro _ g rfl
    trivial
  · rintro _ s g ⟨rfl, htaken⟩
    exact ⟨⟨false, rfl⟩, htaken⟩

theorem triple_last {e : τ} (he : o.part e = some (.body true)) :
    Triple (AnswerStep o.part) (fun s g => g = .begun ∧ g.Taken o s) (handOver o.body id e)
      (fun _ => Whole o) (Halted o) := by
  refine triple_handOver fun s g hg => ?_
  obtain ⟨rfl, hhead⟩ := hg
  refine ⟨.closed true, .last he, fun htaken => ?_, fun hrefused => .inr ?_⟩
  · exact ⟨⟨true, rfl⟩, hhead, fun _ => htaken⟩
  · exact fun htaken => hrefused (htaken.2 rfl)

theorem triple_answer {head body : Hook ε σ τ Unit} {sendBody : Bool}
    (hhead : Triple (AnswerStep o.part) (fun _ g => g.Open) head
      (fun _ s g => g = (if !sendBody then .closed false else .begun) ∧ g.Taken o s) (Halted o))
    (hbody : Triple (AnswerStep o.part) (fun s g => g = .begun ∧ g.Taken o s) body
      (fun _ => Whole o) (Halted o)) :
    Triple (AnswerStep o.part) (fun _ g => g.Open)
      (head >>= fun _ => if sendBody then body else pure ()) (fun _ => Whole o) (Halted o) := by
  refine hhead.bind fun _ => ?_
  cases sendBody with
  | true => exact hbody
  | false => exact triple_pure () fun s g hg => ⟨⟨false, hg.1⟩, hg.2⟩

theorem answers_done {P : Progress → Prop} {m : Hook ε σ τ Unit}
    (h : Triple (AnswerStep o.part) (fun _ => P) m (fun _ => Whole o) (Halted o)) :
    Answers o P (m >>= fun _ => pure true) :=
  h.bind fun _ => triple_pure true fun _ _ hg => ⟨.inr hg.1, hg.2⟩

theorem answers_whole {head body : Hook ε σ τ Unit} {sendBody : Bool}
    (hhead : Triple (AnswerStep o.part) (fun _ g => g.Open) head
      (fun _ s g => g = (if !sendBody then .closed false else .begun) ∧ g.Taken o s) (Halted o))
    (hbody : Triple (AnswerStep o.part) (fun s g => g = .begun ∧ g.Taken o s) body
      (fun _ => Whole o) (Halted o)) :
    Answers o Progress.Open
      (head >>= fun _ => if sendBody then body >>= fun _ => pure true else pure true) := by
  refine hhead.bind fun _ => ?_
  cases sendBody with
  | true => exact hbody.bind fun _ => triple_pure true fun _ _ hg => ⟨.inr hg.1, hg.2⟩
  | false => exact triple_pure true fun s g hg => ⟨.inr ⟨false, hg.1⟩, hg.2⟩

end Writes

section Passing

theorem triple_entered {e : τ} {rest : Hook ε σ τ Unit} {answer : Await (Except ε Bool)}
    (he : o.part e = some (.entry (answerOf answer))) (hrest : Silent o rest) :
    Triple (AnswerStep o.part) (fun _ g => g = .untouched) (do
        emit e
        rest
        let result ← await answer
        attempt result)
      (fun handled _ g => g = .passedOn (some handled)) (Halted o) := by
  have hemit : Triple (AnswerStep o.part) (fun _ g => g = .untouched)
      (emit e : Hook ε σ τ Unit) (fun _ _ g => g = .passedOn (answerOf answer)) (Halted o) := by
    refine triple_emit ?_
    rintro _ g rfl
    exact ⟨_, .entry he, rfl⟩
  refine hemit.bind fun _ => hrest.passedOn.bind fun _ => ?_
  refine Triple.bind (Q := fun result _ g => g = .passedOn (answerOf (.ready result))) ?_
    fun result => ?_
  · refine triple_await _ ?_ ?_
    · rintro result _ g rfl rfl
      rfl
    · rintro _ g - rfl
      exact .inl trivial
  · refine triple_attempt _ ?_ ?_
    · rintro handled _ g rfl rfl
      rfl
    · rintro _ _ g - rfl
      exact .inl trivial

theorem returned_said {s : σ} (handled : Bool) : Returned handled (.passedOn (some handled)) ∧
    Progress.Taken o s (.passedOn (some handled)) := by
  cases handled with
  | false => exact ⟨rfl, trivial⟩
  | true => exact ⟨.inl rfl, trivial⟩

end Passing

theorem Answers.run {m : Hook ε σ τ Bool} (h : Answers o (· = .untouched) m) (s : σ) :
    ∃ g, Reads (AnswerStep o.part) .untouched (m.run s).events g ∧
      Concludes o Returned (m.run s).exit (m.run s).state g :=
  h s .untouched rfl

end AnswerWrites
