import XrplX402.Interaction.System

/-! # One caller alone

    When every operation has one answer in every state, a program run without
    other callers is a function of the state it starts in.

    * `Prog.runOn`: the outcome of a program and the state it leaves.
    * `World.ofPerform`: the same operations, shared by many callers.
    * `Run.start_runOn`: a caller that runs alone for a while. -/

namespace Interaction

variable {Op : Type} {Ret : Op → Type} {ε α β S : Type}

/-- Runs a program to its end; a program that is cut off has no outcome. -/
def Prog.runOn (perform : S → (o : Op) → Ret o × S) : Prog Op Ret ε α → S → Option (Except ε α) × S
  | .ret a, s => (some (.ok a), s)
  | .raise e, s => (some (.error e), s)
  | .spin, s => (none, s)
  | .call o k, s => Prog.runOn perform (k (perform s o).1) (perform s o).2

/-- An operation may have the answer that it has. -/
def World.ofPerform [∀ o, DecidableEq (Ret o)] (perform : S → (o : Op) → Ret o × S) :
    World Op Ret S where
  exec s o r := if (perform s o).1 = r then some (perform s o).2 else none

namespace Prog

variable {perform : S → (o : Op) → Ret o × S}

@[simp] theorem runOn_ret (a : α) (s : S) :
    (ret a : Prog Op Ret ε α).runOn perform s = (some (.ok a), s) := rfl

@[simp] theorem runOn_raise (e : ε) (s : S) :
    (raise e : Prog Op Ret ε α).runOn perform s = (some (.error e), s) := rfl

@[simp] theorem runOn_call (o : Op) (k : Ret o → Prog Op Ret ε α) (s : S) :
    (call o k).runOn perform s = (k (perform s o).1).runOn perform (perform s o).2 := rfl

/-- After a first part that returns, the rest runs on the state it leaves. -/
theorem runOn_bind {p : Prog Op Ret ε α} {f : α → Prog Op Ret ε β} {s s' : S} {a : α}
    (h : p.runOn perform s = (some (.ok a), s')) :
    (p >>= f).runOn perform s = (f a).runOn perform s' := by
  induction p generalizing s with
  | ret b =>
    obtain ⟨hvalue, rfl⟩ := Prod.mk.inj h
    obtain rfl := Except.ok.inj (Option.some.inj hvalue)
    rfl
  | raise e =>
    obtain ⟨hvalue, -⟩ := Prod.mk.inj h
    cases Option.some.inj hvalue
  | spin =>
    obtain ⟨hvalue, -⟩ := Prod.mk.inj h
    cases hvalue
  | call o k ih => exact ih _ h

/-- A guarded program that returns. -/
theorem runOn_tryCatch {p : Prog Op Ret ε α} {h : ε → Prog Op Ret ε α} {s s' : S} {a : α}
    (hp : p.runOn perform s = (some (.ok a), s')) :
    (MonadExcept.tryCatch p h).runOn perform s = (some (.ok a), s') := by
  induction p generalizing s with
  | ret b => exact hp
  | raise e =>
    obtain ⟨hvalue, -⟩ := Prod.mk.inj hp
    cases Option.some.inj hvalue
  | spin =>
    obtain ⟨hvalue, -⟩ := Prod.mk.inj hp
    cases hvalue
  | call o k ih => exact ih _ hp

end Prog

/-! ## A caller among others -/

/-- Every step has the answer of `perform`. -/
def AnsweredBy {ι : Type} (perform : S → (o : Op) → Ret o × S) (s : State ι Op Ret S)
    (e : Entry ι Op Ret) : Prop := e.ans = (perform s.shared e.op).1

variable {ι : Type} [DecidableEq ι] {sys : System ι Op Ret ε α S}
variable {perform : S → (o : Op) → Ret o × S} {c c' : Config ι Op Ret ε α S}

/-- A caller in the middle of its program goes on to its end. -/
theorem Run.runOn (hexec : ∀ s o, sys.world.exec s o (perform s o).1 = some (perform s o).2) {i : ι}
    {p : Prog Op Ret ε α} {r : Except ε α} {s : S}
    (h : Run sys (AnsweredBy perform) c c') (hi : c'.threads i = some p)
    (hp : p.runOn perform c'.state.shared = (some r, s)) :
    ∃ c'', Run sys (AnsweredBy perform) c c'' ∧ c''.state.shared = s ∧ c''.outcome i = some r ∧
      ∀ j, j ≠ i → c''.threads j = c'.threads j := by
  induction p generalizing c' with
  | ret a =>
    obtain ⟨hvalue, hs⟩ := Prod.mk.inj hp
    refine ⟨c', h, hs, ?_, fun _ _ => rfl⟩
    rw [Config.outcome, hi]
    exact hvalue
  | raise e =>
    obtain ⟨hvalue, hs⟩ := Prod.mk.inj hp
    refine ⟨c', h, hs, ?_, fun _ _ => rfl⟩
    rw [Config.outcome, hi]
    exact hvalue
  | spin =>
    obtain ⟨hvalue, -⟩ := Prod.mk.inj hp
    cases hvalue
  | call o k ih =>
    have hnext := Run.call i _ h hi (hexec c'.state.shared o) rfl
    obtain ⟨c'', hrun, hshared, houtcome, hothers⟩ := ih _ hnext (by simp [Config.setThread]) hp
    refine ⟨c'', hrun, hshared, houtcome, fun j hj => ?_⟩
    rw [hothers j hj]
    simp [Config.setThread, hj]

/-- A caller that has not started begins and runs to its end. -/
theorem Run.start_runOn (hexec : ∀ s o, sys.world.exec s o (perform s o).1 = some (perform s o).2)
    {i : ι} {r : Except ε α} {s : S} (h : Run sys (AnsweredBy perform) c c')
    (hi : c'.threads i = none)
    (hp : (sys.prog i).runOn perform c'.state.shared = (some r, s)) :
    ∃ c'', Run sys (AnsweredBy perform) c c'' ∧ c''.state.shared = s ∧ c''.outcome i = some r ∧
      ∀ j, j ≠ i → c''.threads j = c'.threads j := by
  have hstart := Run.start i h hi
  have hthread : (c'.setThread c'.state i (sys.prog i)).threads i = some (sys.prog i) :=
    Function.update_self ..
  obtain ⟨c'', hrun, hshared, houtcome, hothers⟩ := hstart.runOn hexec hthread hp
  refine ⟨c'', hrun, hshared, houtcome, fun j hj => ?_⟩
  rw [hothers j hj]
  simp [Config.setThread, hj]

end Interaction
