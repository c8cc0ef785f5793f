import XrplX402.Interaction.System

/-! # Systems beside an environment

    The shared state may also change by itself: time passes, a value expires.
    Such events are steps of further callers, each of which does one event, so
    that runs, logs and their rules stay the same.

    * `System.beside`: a system together with events of an environment.
    * Paths of a caller beside an environment are paths of its program. -/

namespace Interaction

variable {ι κ Op E : Type} {Ret : Op → Type} {ε α S : Type}

/-! ## Section 1: The combined system -/

/-- An operation of a caller, or an event of the environment. -/
inductive Act (Op E : Type) where
  | op (o : Op)
  | event (e : E)
  deriving DecidableEq

abbrev Act.Answer (Ret : Op → Type) : Act Op E → Type
  | .op o => Ret o
  | .event _ => Unit

/-- An operation with its answer, among the events of an environment. -/
def Event.act (E : Type) (e : Event Op Ret) : Event (Act Op E) (Act.Answer Ret) := ⟨.op e.op, e.ans⟩

/-- The program of a caller beside an environment. -/
def Prog.acts (E : Type) : Prog Op Ret ε α → Prog (Act Op E) (Act.Answer Ret) ε α
  | .ret a => .ret a
  | .raise e => .raise e
  | .spin => .spin
  | .call o k => .call (Act.op o) fun r => Prog.acts E (k r)

/-- `happens s e` is the state after the event `e`, and `none` when it cannot
    happen in `s`. -/
def World.beside (w : World Op Ret S) (happens : S → E → Option S) :
    World (Act Op E) (Act.Answer Ret) S where
  exec s
    | .op o, r => w.exec s o r
    | .event e, _ => happens s e

/-- The callers of `sys`, and one event for each `j : κ`. -/
def System.beside (sys : System ι Op Ret ε α S) (happens : S → E → Option S) (events : κ → E) :
    System (ι ⊕ κ) (Act Op E) (Act.Answer Ret) ε α S where
  world := sys.world.beside happens
  prog
    | .inl i => (sys.prog i).acts E
    | .inr j => .call (Act.event (events j)) fun _ => .spin

/-! ## Section 2: Programs beside an environment -/

namespace Prog

@[simp] theorem acts_ret (a : α) : acts E (ret a : Prog Op Ret ε α) = ret a := rfl

@[simp] theorem acts_raise (e : ε) : acts E (raise e : Prog Op Ret ε α) = raise e := rfl

@[simp] theorem acts_call (o : Op) (k : Ret o → Prog Op Ret ε α) :
    acts E (call o k) = call (Act.op o) fun r => acts E (k r) := rfl

theorem Uses.acts {P : Op → Prop} {P' : Act Op E → Prop} {p : Prog Op Ret ε α} (hp : Uses P p)
    (himp : ∀ o, P o → P' (.op o)) : Uses P' (acts E p) := by
  induction p with
  | ret a => trivial
  | raise e => trivial
  | spin => trivial
  | call o k ih => exact ⟨himp o hp.1, fun r => ih r (hp.2 r)⟩

/-- A partial path beside an environment is a partial path. -/
theorem steps_acts {p : Prog Op Ret ε α} {t : List (Event (Act Op E) (Act.Answer Ret))}
    {q : Prog (Act Op E) (Act.Answer Ret) ε α} (h : Steps (acts E p) t q) :
    ∃ t' q', Steps p t' q' ∧ t = t'.map (Event.act E) ∧ q = acts E q' := by
  induction t generalizing p with
  | nil =>
    obtain rfl : q = acts E p := h
    exact ⟨[], p, rfl, rfl, rfl⟩
  | cons e t ih =>
    cases p with
    | call o k =>
      obtain ⟨a, rfl, h'⟩ := h
      obtain ⟨t', q', hsteps, rfl, rfl⟩ := ih h'
      exact ⟨⟨o, a⟩ :: t', q', ⟨a, rfl, hsteps⟩, rfl, rfl⟩
    | ret _ => exact h.elim
    | raise _ => exact h.elim
    | spin => exact h.elim

theorem Steps.acts {p q : Prog Op Ret ε α} {t : List (Event Op Ret)} (h : Steps p t q) :
    Steps (acts E p) (t.map (Event.act E)) (acts E q) := by
  induction t generalizing p with
  | nil =>
    obtain rfl : q = p := h
    rfl
  | cons e t ih =>
    cases p with
    | call o k =>
      obtain ⟨a, rfl, h'⟩ := h
      exact ⟨a, rfl, ih h'⟩
    | ret _ => exact h.elim
    | raise _ => exact h.elim
    | spin => exact h.elim

/-- A path beside an environment is a path. -/
theorem path_acts {p : Prog Op Ret ε α} {t : List (Event (Act Op E) (Act.Answer Ret))}
    {r : Except ε α} (h : Path (acts E p) t r) :
    ∃ t', Path p t' r ∧ t = t'.map (Event.act E) := by
  induction p generalizing t with
  | ret a =>
    obtain ⟨rfl, rfl⟩ := h
    exact ⟨[], ⟨rfl, rfl⟩, rfl⟩
  | raise e =>
    obtain ⟨rfl, rfl⟩ := h
    exact ⟨[], ⟨rfl, rfl⟩, rfl⟩
  | spin => exact h.elim
  | call o k ih =>
    obtain ⟨a, t', rfl, h'⟩ := h
    obtain ⟨t'', hpath, rfl⟩ := ih a h'
    exact ⟨⟨o, a⟩ :: t'', ⟨a, t'', rfl, hpath⟩, rfl⟩

end Prog

end Interaction
