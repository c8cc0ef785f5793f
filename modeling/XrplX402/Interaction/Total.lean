import XrplX402.Interaction.Prog

/-! # Total correctness of a program

    `Total A Q p`: whenever the operations of `p` are answered as `A` allows,
    `p` ends, and only as `Q` says. A program that is cut off does not end. -/

namespace Interaction.Prog

variable {Op : Type} {Ret : Op → Type} {ε α β : Type}

def Total (A : (o : Op) → Ret o → Prop) (Q : Except ε α → Prop) : Prog Op Ret ε α → Prop
  | ret a => Q (.ok a)
  | raise e => Q (.error e)
  | spin => False
  | call o k => ∀ r, A o r → Total A Q (k r)

variable {A : (o : Op) → Ret o → Prop} {Q : Except ε α → Prop}

@[simp] theorem total_ret {a : α} : Total A Q (ret a : Prog Op Ret ε α) ↔ Q (.ok a) := Iff.rfl

@[simp] theorem total_raise {e : ε} : Total A Q (raise e : Prog Op Ret ε α) ↔ Q (.error e) := Iff.rfl

theorem total_call {o : Op} {k : Ret o → Prog Op Ret ε α} :
    Total A Q (call o k) ↔ ∀ r, A o r → Total A Q (k r) := Iff.rfl

theorem total_ofExcept {x : Except ε α} : Total A Q (ofExcept x : Prog Op Ret ε α) ↔ Q x := by
  cases x <;> rfl

/-- What the rest of `p >>= f` must do after an outcome of `p`. -/
def Continues (A : (o : Op) → Ret o → Prop) (f : α → Prog Op Ret ε β) (R : Except ε β → Prop) :
    Except ε α → Prop
  | .ok a => Total A R (f a)
  | .error e => R (.error e)

theorem total_bind {f : α → Prog Op Ret ε β} {R : Except ε β → Prop} {p : Prog Op Ret ε α} :
    Total A R (p >>= f) ↔ Total A (Continues A f R) p := by
  induction p with
  | ret a => exact Iff.rfl
  | raise e => exact Iff.rfl
  | spin => exact Iff.rfl
  | call o k ih =>
    rw [call_bind, total_call, total_call]
    constructor
    · intro h r hr
      exact (ih r).mp (h r hr)
    · intro h r hr
      exact (ih r).mpr (h r hr)

theorem Total.mono {Q' : Except ε α → Prop} {p : Prog Op Ret ε α} (h : Total A Q p)
    (hQ : ∀ x, Q x → Q' x) : Total A Q' p := by
  induction p with
  | ret a => exact hQ _ h
  | raise e => exact hQ _ h
  | spin => exact h
  | call o k ih => exact fun r hr => ih r (h r hr)

/-- Fewer answers, and still total. -/
theorem Total.answers {A' : (o : Op) → Ret o → Prop} {p : Prog Op Ret ε α} (h : Total A Q p)
    (hA : ∀ o r, A' o r → A o r) : Total A' Q p := by
  induction p with
  | ret a => exact h
  | raise e => exact h
  | spin => exact h
  | call o k ih => exact fun r hr => ih r (h r (hA o r hr))

theorem Total.bind {f : α → Prog Op Ret ε β} {R : Except ε β → Prop} {p : Prog Op Ret ε α}
    (h : Total A Q p) (hok : ∀ a, Q (.ok a) → Total A R (f a))
    (herror : ∀ e, Q (.error e) → R (.error e)) : Total A R (p >>= f) := by
  apply total_bind.mpr
  apply h.mono
  intro x hx
  cases x with
  | ok a => exact hok a hx
  | error e => exact herror e hx

/-- A step that performs nothing, and its value. -/
theorem total_ofExcept_bind {x : Except ε α} {f : α → Prog Op Ret ε β} {R : Except ε β → Prop}
    (hok : ∀ a, x = .ok a → Total A R (f a)) (herror : ∀ e, x = .error e → R (.error e)) :
    Total A R (ofExcept x >>= f) := by
  cases x with
  | ok a => exact hok a rfl
  | error e => exact herror e rfl

theorem Total.tryCatch {R : Except ε α → Prop} {p : Prog Op Ret ε α} {h : ε → Prog Op Ret ε α}
    (hp : Total A Q p) (hok : ∀ a, Q (.ok a) → R (.ok a))
    (herror : ∀ e, Q (.error e) → Total A R (h e)) : Total A R (MonadExcept.tryCatch p h) := by
  induction p with
  | ret a => exact hok a hp
  | raise e => exact herror e hp
  | spin => exact hp
  | call o k ih => exact fun r hr => ih r (hp r hr)

/-- A program whose operations can all be answered ends in some way. -/
theorem Total.exists (hA : ∀ o, ∃ r, A o r) {p : Prog Op Ret ε α} (h : Total A Q p) : ∃ x, Q x := by
  induction p with
  | ret a => exact ⟨_, h⟩
  | raise e => exact ⟨_, h⟩
  | spin => exact h.elim
  | call o k ih =>
    obtain ⟨r, hr⟩ := hA o
    exact ih r (h r hr)

theorem Total.and {Q' : Except ε α → Prop} {p : Prog Op Ret ε α} (h : Total A Q p)
    (h' : Total A Q' p) : Total A (fun x => Q x ∧ Q' x) p := by
  induction p with
  | ret a => exact ⟨h, h'⟩
  | raise e => exact ⟨h, h'⟩
  | spin => exact h
  | call o k ih => exact fun r hr => ih r (h r hr) (h' r hr)

/-- A program cannot end as `Q` says and otherwise. -/
theorem Total.not_total (hA : ∀ o, ∃ r, A o r) {p : Prog Op Ret ε α}
    (h : Total A (fun x => ¬ Q x) p) : ¬ Total A Q p := by
  intro h'
  obtain ⟨x, hnot, hx⟩ := (h.and h').exists hA
  exact hnot hx

/-- A path with allowed answers ends as `Q` says. -/
theorem Total.of_path {p : Prog Op Ret ε α} (h : Total A Q p) {t : List (Event Op Ret)}
    {x : Except ε α} (hpath : Path p t x) (ht : ∀ e ∈ t, A e.op e.ans) : Q x := by
  induction p generalizing t with
  | ret a =>
    rw [hpath.2]
    exact h
  | raise e =>
    rw [hpath.2]
    exact h
  | spin => exact hpath.elim
  | call o k ih =>
    obtain ⟨r, t', rfl, hpath'⟩ := hpath
    apply ih r (h r (ht ⟨o, r⟩ (by simp))) hpath'
    intro e he
    exact ht e (List.mem_cons_of_mem _ he)

end Interaction.Prog
