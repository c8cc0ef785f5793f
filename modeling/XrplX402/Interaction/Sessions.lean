import XrplX402.Interaction.System

/-! # Sessions that may be cut off

    Sessions run one at a time, as behind a lock. Each runs a program, and may be
    cut off between any two operations; the next one finds what it has left in
    the shared state, and nothing else. Events of an environment happen at any
    time.

    * `Sessions`: all histories of such sessions, and their replay.
    * `Discipline`: an invariant that also a session that is cut off leaves
      behind, and what must hold before an operation.
    * `Triple`: a program keeps the discipline from one assertion to another.
    * `Discipline.sessions`: the rule for all histories. -/

namespace Interaction

variable {Op E : Type} {Ret : Op → Type} {ε α β S : Type}

/-! ## Section 1: Histories -/

/-- The shared state, and everything that was performed, newest first. -/
structure History (Op : Type) (Ret : Op → Type) (S : Type) where
  shared : S
  log : List (Event Op Ret)

def History.push (m : History Op Ret S) (o : Op) (r : Ret o) (t : S) : History Op Ret S :=
  ⟨t, ⟨o, r⟩ :: m.log⟩

@[simp] theorem History.push_shared (m : History Op Ret S) (o : Op) (r : Ret o) (t : S) :
    (m.push o r t).shared = t := rfl

@[simp] theorem History.push_log (m : History Op Ret S) (o : Op) (r : Ret o) (t : S) :
    (m.push o r t).log = ⟨o, r⟩ :: m.log := rfl

/-- `Sessions w happens program s₀ m active`: `m` is reached from `s₀`, and
    `active` is what is left of the session that runs then. -/
inductive Sessions (w : World Op Ret S) (happens : S → E → Option S)
    (program : Prog Op Ret ε α → Prop) (s₀ : S) :
    History Op Ret S → Option (Prog Op Ret ε α) → Prop where
  | init : Sessions w happens program s₀ ⟨s₀, []⟩ none
  | begins {m : History Op Ret S} {p : Prog Op Ret ε α} : Sessions w happens program s₀ m none →
      program p → Sessions w happens program s₀ m (some p)
  | call {m : History Op Ret S} {o : Op} {k : Ret o → Prog Op Ret ε α} {r : Ret o} {t : S} :
      Sessions w happens program s₀ m (some (.call o k)) → w.exec m.shared o r = some t →
      Sessions w happens program s₀ (m.push o r t) (some (k r))
  /-- A session has ended, or is cut off. -/
  | ends {m : History Op Ret S} {p : Prog Op Ret ε α} :
      Sessions w happens program s₀ m (some p) → Sessions w happens program s₀ m none
  | event {m : History Op Ret S} {active : Option (Prog Op Ret ε α)} {e : E} {t : S} :
      Sessions w happens program s₀ m active → happens m.shared e = some t →
      Sessions w happens program s₀ ⟨t, m.log⟩ active

/-! ### Replay

    What happens next, and how an operation is answered, may be given by a list.
    Replaying one is a computation, so that a concrete history can be evaluated. -/

inductive Move (Op E : Type) (Ret : Op → Type) (ε α S : Type) where
  | begins (p : Prog Op Ret ε α)
  | answer (f : S → (o : Op) → Ret o)
  | ends
  | event (e : E)

def Move.apply (w : World Op Ret S) (happens : S → E → Option S) :
    Move Op E Ret ε α S → History Op Ret S × Option (Prog Op Ret ε α) →
    Option (History Op Ret S × Option (Prog Op Ret ε α))
  | .begins p, (m, none) => some (m, some p)
  | .answer f, (m, some (.call o k)) =>
    (w.exec m.shared o (f m.shared o)).map fun t => (m.push o (f m.shared o) t, some (k (f m.shared o)))
  | .ends, (m, some _) => some (m, none)
  | .event e, (m, active) => (happens m.shared e).map fun t => (⟨t, m.log⟩, active)
  | _, _ => none

def replayMoves (w : World Op Ret S) (happens : S → E → Option S) :
    List (Move Op E Ret ε α S) → History Op Ret S × Option (Prog Op Ret ε α) →
    Option (History Op Ret S × Option (Prog Op Ret ε α))
  | [], c => some c
  | move :: moves, c => (move.apply w happens c).bind (replayMoves w happens moves)

section Replay

variable {w : World Op Ret S} {happens : S → E → Option S} {program : Prog Op Ret ε α → Prop} {s₀ : S}
variable {c c' : History Op Ret S × Option (Prog Op Ret ε α)}

theorem Sessions.apply (h : Sessions w happens program s₀ c.1 c.2) {move : Move Op E Ret ε α S}
    (hmove : ∀ p, move = .begins p → program p) (hc : move.apply w happens c = some c') :
    Sessions w happens program s₀ c'.1 c'.2 := by
  obtain ⟨m, active⟩ := c
  unfold Move.apply at hc
  split at hc
  · next p m heq =>
    cases heq
    cases hc
    exact .begins h (hmove p rfl)
  · next f m o k heq =>
    cases heq
    obtain ⟨t, hx, rfl⟩ := Option.map_eq_some_iff.mp hc
    exact .call h hx
  · next m p heq =>
    cases heq
    cases hc
    exact .ends h
  · next e m active heq =>
    cases heq
    obtain ⟨t, hx, rfl⟩ := Option.map_eq_some_iff.mp hc
    exact .event h hx
  · cases hc

theorem Sessions.replayMoves {moves : List (Move Op E Ret ε α S)}
    (h : Sessions w happens program s₀ c.1 c.2)
    (hmoves : ∀ move ∈ moves, ∀ p, move = .begins p → program p)
    (hc : replayMoves w happens moves c = some c') : Sessions w happens program s₀ c'.1 c'.2 := by
  induction moves generalizing c with
  | nil =>
    cases hc
    exact h
  | cons move moves ih =>
    obtain ⟨c₁, hfirst, hrest⟩ := Option.bind_eq_some_iff.mp hc
    have hnext := h.apply (hmoves move List.mem_cons_self) hfirst
    exact ih hnext (fun move' hin => hmoves move' (List.mem_cons_of_mem _ hin)) hrest

end Replay

/-! ## Section 2: Disciplines -/

/-- An invariant, and what must hold before an operation. -/
structure Discipline (w : World Op Ret S) (happens : S → E → Option S) where
  inv : History Op Ret S → Prop
  pre : History Op Ret S → Op → Prop
  step : ∀ {m : History Op Ret S} {o : Op} {r : Ret o} {t : S}, inv m → pre m o →
    w.exec m.shared o r = some t → inv (m.push o r t)
  event : ∀ {m : History Op Ret S} {e : E} {t : S}, inv m → happens m.shared e = some t →
    inv ⟨t, m.log⟩

/-- Only events lead from one history to the other. -/
def Passes (happens : S → E → Option S) : History Op Ret S → History Op Ret S → Prop :=
  Relation.ReflTransGen fun m m' => ∃ e t, happens m.shared e = some t ∧ m' = ⟨t, m.log⟩

/-- No event makes an assertion false. -/
def Steady (happens : S → E → Option S) (A : History Op Ret S → Prop) : Prop :=
  ∀ {m e t}, happens m.shared e = some t → A m → A ⟨t, m.log⟩

theorem Steady.passes {happens : S → E → Option S} {A : History Op Ret S → Prop}
    (hA : Steady happens A) {m m' : History Op Ret S} (h : Passes happens m m') (hm : A m) : A m' := by
  induction h with
  | refl => exact hm
  | tail _ hstep ih =>
    obtain ⟨e, t, hx, rfl⟩ := hstep
    exact hA hx ih

namespace Discipline

variable {w : World Op Ret S} {happens : S → E → Option S} {D : Discipline w happens}
variable {m m' : History Op Ret S} {p : Prog Op Ret ε α} {f : α → Prog Op Ret ε β}

/-- From `m` on, whatever events happen, `p` performs only what it may, and ends
    only as `Q` says. -/
def Safe (D : Discipline w happens) : Prog Op Ret ε α → (Except ε α → History Op Ret S → Prop) →
    History Op Ret S → Prop
  | .ret a, Q, m => Q (.ok a) m
  | .raise e, Q, m => Q (.error e) m
  | .spin, _, _ => True
  | .call o k, Q, m => ∀ m', Passes happens m m' → D.inv m' → D.pre m' o ∧
      ∀ r t, w.exec m'.shared o r = some t → D.inv (m'.push o r t) → Safe D (k r) Q (m'.push o r t)

variable {Q Q' : Except ε α → History Op Ret S → Prop}

theorem Safe.mono (hQ : ∀ x m, D.inv m → Q x m → Q' x m) (hinv : D.inv m) (h : D.Safe p Q m) :
    D.Safe p Q' m := by
  induction p generalizing m with
  | ret a => exact hQ _ _ hinv h
  | raise e => exact hQ _ _ hinv h
  | spin => trivial
  | call o k ih =>
    intro m' hm' hinv'
    obtain ⟨hpre, hk⟩ := h m' hm' hinv'
    exact ⟨hpre, fun r t hx hi => ih r hi (hk r t hx hi)⟩

/-- What a first part must establish for the part after it. -/
def Continues (D : Discipline w happens) (f : α → Prog Op Ret ε β)
    (R : Except ε β → History Op Ret S → Prop) : Except ε α → History Op Ret S → Prop
  | .ok a, m => D.Safe (f a) R m
  | .error e, m => R (.error e) m

theorem safe_bind {R : Except ε β → History Op Ret S → Prop}
    (h : D.Safe p (D.Continues f R) m) : D.Safe (p >>= f) R m := by
  induction p generalizing m with
  | ret a => exact h
  | raise e => exact h
  | spin => trivial
  | call o k ih =>
    intro m' hm' hinv
    obtain ⟨hpre, hk⟩ := h m' hm' hinv
    exact ⟨hpre, fun r t hx hi => ih r (hk r t hx hi)⟩

/-- What a guarded part must establish for the handler. -/
def Handles (D : Discipline w happens) (h : ε → Prog Op Ret ε α)
    (R : Except ε α → History Op Ret S → Prop) : Except ε α → History Op Ret S → Prop
  | .ok a, m => R (.ok a) m
  | .error e, m => D.Safe (h e) R m

theorem safe_tryCatch {h : ε → Prog Op Ret ε α} (hp : D.Safe p (D.Handles h Q) m) :
    D.Safe (MonadExcept.tryCatch p h) Q m := by
  induction p generalizing m with
  | ret a => exact hp
  | raise e => exact hp
  | spin => trivial
  | call o k ih =>
    intro m' hm' hinv
    obtain ⟨hpre, hk⟩ := hp m' hm' hinv
    exact ⟨hpre, fun r t hx hi => ih r (hk r t hx hi)⟩

/-! ## Section 3: Triples -/

/-- From every history with `A`, `p` is safe and ends only as `Q` says. -/
def Triple (D : Discipline w happens) (A : History Op Ret S → Prop) (p : Prog Op Ret ε α)
    (Q : Except ε α → History Op Ret S → Prop) : Prop :=
  ∀ m, D.inv m → A m → D.Safe p Q m

variable {A A' : History Op Ret S → Prop}

theorem Triple.ret {a : α} (h : ∀ m, A m → Q (.ok a) m) : D.Triple A (.ret a) Q :=
  fun m _ hA => h m hA

theorem Triple.raise {e : ε} (h : ∀ m, A m → Q (.error e) m) : D.Triple A (.raise e) Q :=
  fun m _ hA => h m hA

theorem Triple.mono (h : D.Triple A p Q) (hA : ∀ m, D.inv m → A' m → A m)
    (hQ : ∀ x m, D.inv m → Q x m → Q' x m) : D.Triple A' p Q' :=
  fun m hinv hm => (h m hinv (hA m hinv hm)).mono hQ hinv

theorem Triple.ofExcept {x : Except ε α} (h : ∀ m, A m → Q x m) : D.Triple A (.ofExcept x) Q := by
  cases x with
  | ok a => exact Triple.ret h
  | error e => exact Triple.raise h

/-- An assertion for values and one for exceptions. -/
def Ends (B : α → History Op Ret S → Prop) (C : ε → History Op Ret S → Prop) :
    Except ε α → History Op Ret S → Prop
  | .ok a => B a
  | .error e => C e

theorem Triple.bind {B : α → History Op Ret S → Prop} {R : Except ε β → History Op Ret S → Prop}
    (h : D.Triple A p (Ends B fun e => R (.error e)))
    (hf : ∀ a, D.Triple (B a) (f a) R) : D.Triple A (p >>= f) R := by
  intro m hinv hm
  apply safe_bind
  refine (h m hinv hm).mono (fun x m' hinv' hx => ?_) hinv
  cases x with
  | ok a => exact hf a m' hinv' hx
  | error e => exact hx

/-- A first part that performs nothing. -/
theorem Triple.ofExcept_bind {x : Except ε α} {R : Except ε β → History Op Ret S → Prop}
    (hok : ∀ a, x = .ok a → D.Triple A (f a) R)
    (herror : ∀ e, x = .error e → ∀ m, A m → R (.error e) m) :
    D.Triple A (.ofExcept x >>= f) R := by
  cases x with
  | ok a => exact hok a rfl
  | error e => exact fun m _ hm => herror e rfl m hm

theorem Triple.tryCatch {B : ε → History Op Ret S → Prop} {h : ε → Prog Op Ret ε α}
    (hp : D.Triple A p (Ends (fun a => Q (.ok a)) B))
    (hh : ∀ e, D.Triple (B e) (h e) Q) : D.Triple A (MonadExcept.tryCatch p h) Q := by
  intro m hinv hm
  apply safe_tryCatch
  refine (hp m hinv hm).mono (fun x m' hinv' hx => ?_) hinv
  cases x with
  | ok a => exact hx
  | error e => exact hh e m' hinv' hx

/-- One operation: it may be performed, and what it establishes is enough for
    the rest. -/
theorem Triple.call {o : Op} {k : Ret o → Prog Op Ret ε α} {B : Ret o → History Op Ret S → Prop}
    (hsteady : Steady happens A) (hpre : ∀ m, D.inv m → A m → D.pre m o)
    (hstep : ∀ m r t, D.inv m → A m → w.exec m.shared o r = some t → B r (m.push o r t))
    (hk : ∀ r, D.Triple (B r) (k r) Q) : D.Triple A (.call o k) Q := by
  intro m _ hm m' hm' hinv'
  have hA := hsteady.passes hm' hm
  refine ⟨hpre m' hinv' hA, fun r t hx hinv'' => ?_⟩
  exact hk r _ hinv'' (hstep m' r t hinv' hA hx)

/-! ## Section 4: All histories -/

theorem Safe.passes {e : E} {t : S} {Q : Except ε α → History Op Ret S → Prop}
    (hQ : ∀ x, Steady happens (Q x)) (hx : happens m.shared e = some t) (h : D.Safe p Q m) :
    D.Safe p Q ⟨t, m.log⟩ := by
  cases p with
  | ret a => exact hQ _ hx h
  | raise e => exact hQ _ hx h
  | spin => trivial
  | call o k => exact fun m' hm' => h m' (.head ⟨e, t, hx, rfl⟩ hm')

variable {program : Prog Op Ret ε α → Prop} {s₀ : S} {active : Option (Prog Op Ret ε α)}

/-- If every program keeps the discipline, then so does every history of
    sessions, however they are cut off. -/
theorem sessions (hinit : D.inv ⟨s₀, []⟩)
    (hprogram : ∀ p, program p → D.Triple (fun _ => True) p fun _ _ => True)
    (h : Sessions w happens program s₀ m active) :
    D.inv m ∧ ∀ p, active = some p → D.Safe p (fun _ _ => True) m := by
  induction h with
  | init => exact ⟨hinit, fun p hp => by cases hp⟩
  | begins _ hp ih =>
    refine ⟨ih.1, fun p heq => ?_⟩
    cases heq
    exact hprogram _ hp _ ih.1 trivial
  | call _ hx ih =>
    obtain ⟨hpre, hk⟩ := ih.2 _ rfl _ .refl ih.1
    have hinv := D.step ih.1 hpre hx
    refine ⟨hinv, fun p heq => ?_⟩
    cases heq
    exact hk _ _ hx hinv
  | ends _ ih => exact ⟨ih.1, fun p hp => by cases hp⟩
  | event _ hx ih =>
    refine ⟨D.event ih.1 hx, fun p hp => ?_⟩
    exact (ih.2 p hp).passes (fun _ _ _ _ _ _ => trivial) hx

/-- What must hold before an operation holds whenever a session is about to
    perform it. -/
theorem pre_of_sessions (hinit : D.inv ⟨s₀, []⟩)
    (hprogram : ∀ p, program p → D.Triple (fun _ => True) p fun _ _ => True) {o : Op}
    {k : Ret o → Prog Op Ret ε α} (h : Sessions w happens program s₀ m (some (.call o k))) :
    D.pre m o := by
  obtain ⟨hinv, hsafe⟩ := sessions hinit hprogram h
  exact (hsafe _ rfl m .refl hinv).1

end Discipline

end Interaction
