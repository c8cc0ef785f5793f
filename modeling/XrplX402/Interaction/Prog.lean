import Mathlib.Data.List.Infix
import Mathlib.Logic.Relation

/-! # Programs over atomic operations

    A `Prog` is the tree of everything one sequential caller can do: return,
    raise, or perform one atomic operation and continue with its answer.
    The answer is chosen by whoever runs the program, so a statement about
    every path of the tree is a statement about every behaviour of the
    environment.

    * **Control**: `bind` and `tryCatch`, with the `Monad` and `MonadExcept`
      instances that make `do`-blocks and `try ... catch` available.
    * **Paths**: `Path p t r` says that `p` ends with `r` after exactly the
      operations and answers in `t`; `Steps p t q` stops in the middle.
    * **Footprints**: `Uses P p` says that every operation that `p` can ever
      perform satisfies `P`; `Yields P Q p` adds that every value
      it can return satisfies `Q`.
    * **History**: `Follows P past p` says in which relation every operation
      of `p` stands to the events before it.
    * **Replay**: the outcome of `p` on a given list of answers, as a
      computation. -/

namespace Interaction

/-- A sequential program. `Ret o` is the type of answers to `o`. -/
inductive Prog (Op : Type) (Ret : Op → Type) (ε α : Type) : Type where
  /-- Return normally. -/
  | ret (a : α)
  /-- End with an exception. -/
  | raise (e : ε)
  /-- Neither end nor perform another operation: a loop that was cut off. -/
  | spin
  /-- Perform `o`, then continue with the answer. -/
  | call (o : Op) (k : Ret o → Prog Op Ret ε α)

/-- One performed operation together with its answer. -/
structure Event (Op : Type) (Ret : Op → Type) where
  op : Op
  ans : Ret op

variable {Op : Type} {Ret : Op → Type} {ε α β γ : Type}

namespace Prog

/-! ## Control -/

def bind : Prog Op Ret ε α → (α → Prog Op Ret ε β) → Prog Op Ret ε β
  | ret a, f => f a
  | raise e, _ => raise e
  | spin, _ => spin
  | call o k, f => call o (fun r => bind (k r) f)

def tryCatch : Prog Op Ret ε α → (ε → Prog Op Ret ε α) → Prog Op Ret ε α
  | ret a, _ => ret a
  | raise e, h => h e
  | spin, _ => spin
  | call o k, h => call o (fun r => tryCatch (k r) h)

instance : Monad (Prog Op Ret ε) where
  pure := ret
  bind := bind

instance : MonadExcept ε (Prog Op Ret ε) where
  throw := raise
  tryCatch := tryCatch

/-- Perform one operation and return its answer. -/
def perform (o : Op) : Prog Op Ret ε (Ret o) := call o ret

/-- Continue with the outcome of a computation that performs nothing. -/
def ofExcept : Except ε α → Prog Op Ret ε α
  | .ok a => ret a
  | .error e => raise e

@[simp] theorem pure_def (a : α) : (pure a : Prog Op Ret ε α) = ret a := rfl

@[simp] theorem throw_def (e : ε) : (throw e : Prog Op Ret ε α) = raise e := rfl

@[simp] theorem ret_bind (a : α) (f : α → Prog Op Ret ε β) : (ret a >>= f) = f a := rfl

@[simp] theorem raise_bind (e : ε) (f : α → Prog Op Ret ε β) : (raise e >>= f) = raise e := rfl

@[simp] theorem spin_bind (f : α → Prog Op Ret ε β) : (spin >>= f) = spin := rfl

@[simp] theorem call_bind (o : Op) (k : Ret o → Prog Op Ret ε α) (f : α → Prog Op Ret ε β) :
    (call o k >>= f) = call o (fun r => k r >>= f) := rfl

@[simp] theorem perform_bind (o : Op) (f : Ret o → Prog Op Ret ε β) :
    (perform o >>= f) = call o f := rfl

@[simp] theorem ofExcept_ok (a : α) : (ofExcept (.ok a) : Prog Op Ret ε α) = ret a := rfl

@[simp] theorem ofExcept_error (e : ε) : (ofExcept (.error e) : Prog Op Ret ε α) = raise e := rfl

@[simp] theorem tryCatch_ret (a : α) (h : ε → Prog Op Ret ε α) :
    MonadExcept.tryCatch (ret a) h = ret a := rfl

@[simp] theorem tryCatch_raise (e : ε) (h : ε → Prog Op Ret ε α) :
    MonadExcept.tryCatch (raise e) h = h e := rfl

@[simp] theorem tryCatch_spin (h : ε → Prog Op Ret ε α) :
    MonadExcept.tryCatch (spin : Prog Op Ret ε α) h = spin := rfl

@[simp] theorem tryCatch_call (o : Op) (k : Ret o → Prog Op Ret ε α) (h : ε → Prog Op Ret ε α) :
    MonadExcept.tryCatch (call o k) h = call o (fun r => MonadExcept.tryCatch (k r) h) := rfl

theorem bind_assoc (p : Prog Op Ret ε α) (f : α → Prog Op Ret ε β) (g : β → Prog Op Ret ε γ) :
    (p >>= f) >>= g = p >>= fun a => f a >>= g := by
  induction p with
  | ret a => rfl
  | raise e => rfl
  | spin => rfl
  | call o k ih =>
    simp only [call_bind]
    congr 1
    funext r
    exact ih r

/-! ## Paths -/

/-- `Path p t r`: `p` ends with `r` after performing exactly the events `t`. -/
def Path : Prog Op Ret ε α → List (Event Op Ret) → Except ε α → Prop
  | ret a, t, r => t = [] ∧ r = .ok a
  | raise e, t, r => t = [] ∧ r = .error e
  | spin, _, _ => False
  | call o k, t, r => ∃ a t', t = ⟨o, a⟩ :: t' ∧ Path (k a) t' r

/-- `Steps p t q`: after the events `t`, what is left of `p` is `q`. -/
def Steps (p : Prog Op Ret ε α) : List (Event Op Ret) → Prog Op Ret ε α → Prop
  | [], q => q = p
  | e :: t, q =>
    match p with
    | call o k => ∃ a, e = ⟨o, a⟩ ∧ Steps (k a) t q
    | _ => False
termination_by structural t => t

@[simp] theorem path_ret {a : α} {t : List (Event Op Ret)} {r : Except ε α} :
    Path (ret a) t r ↔ t = [] ∧ r = .ok a := Iff.rfl

@[simp] theorem path_raise {e : ε} {t : List (Event Op Ret)} {r : Except ε α} :
    Path (raise e) t r ↔ t = [] ∧ r = .error e := Iff.rfl

@[simp] theorem path_spin {t : List (Event Op Ret)} {r : Except ε α} :
    ¬ Path (spin : Prog Op Ret ε α) t r := fun h => h

@[simp] theorem path_call {o : Op} {k : Ret o → Prog Op Ret ε α} {t : List (Event Op Ret)}
    {r : Except ε α} : Path (call o k) t r ↔ ∃ a t', t = ⟨o, a⟩ :: t' ∧ Path (k a) t' r := Iff.rfl

/-- A path of `p >>= f` runs `p` to a value and then `f` on it, or ends with
    the exception that `p` raised. -/
theorem path_bind {p : Prog Op Ret ε α} {f : α → Prog Op Ret ε β} {t : List (Event Op Ret)}
    {r : Except ε β} :
    Path (p >>= f) t r ↔
      (∃ t₁ t₂ a, t = t₁ ++ t₂ ∧ Path p t₁ (.ok a) ∧ Path (f a) t₂ r) ∨
      (∃ e, r = .error e ∧ Path p t (.error e)) := by
  induction p generalizing t with
  | ret a =>
    constructor
    · intro h
      exact .inl ⟨[], t, a, rfl, ⟨rfl, rfl⟩, h⟩
    · rintro (⟨t₁, t₂, b, rfl, ⟨rfl, hb⟩, h⟩ | ⟨e, -, -, he⟩)
      · cases hb
        exact h
      · cases he
  | raise e =>
    constructor
    · rintro ⟨rfl, rfl⟩
      exact .inr ⟨e, rfl, rfl, rfl⟩
    · rintro (⟨_, _, _, _, ⟨_, h⟩, _⟩ | ⟨e', rfl, rfl, he⟩)
      · cases h
      · cases he
        exact ⟨rfl, rfl⟩
  | spin =>
    constructor
    · exact fun h => h.elim
    · rintro (⟨_, _, _, _, h, _⟩ | ⟨_, _, h⟩) <;> exact h
  | call o k ih =>
    simp only [call_bind, path_call]
    constructor
    · rintro ⟨a, t', rfl, h⟩
      rcases (ih a).mp h with ⟨t₁, t₂, b, rfl, h₁, h₂⟩ | ⟨e, rfl, he⟩
      · exact .inl ⟨⟨o, a⟩ :: t₁, t₂, b, rfl, ⟨a, t₁, rfl, h₁⟩, h₂⟩
      · exact .inr ⟨e, rfl, a, t', rfl, he⟩
    · rintro (⟨t₁, t₂, b, rfl, ⟨a, t', rfl, h₁⟩, h₂⟩ | ⟨e, rfl, a, t', rfl, he⟩)
      · exact ⟨a, t' ++ t₂, rfl, (ih a).mpr (.inl ⟨t', t₂, b, rfl, h₁, h₂⟩)⟩
      · exact ⟨a, t', rfl, (ih a).mpr (.inr ⟨e, rfl, he⟩)⟩

/-- A path of `p >>= f` to a value. -/
theorem path_bind_ok {p : Prog Op Ret ε α} {f : α → Prog Op Ret ε β} {t : List (Event Op Ret)}
    {b : β} : Path (p >>= f) t (.ok b) ↔
      ∃ t₁ t₂ a, t = t₁ ++ t₂ ∧ Path p t₁ (.ok a) ∧ Path (f a) t₂ (.ok b) := by
  rw [path_bind]
  constructor
  · rintro (h | ⟨e, h, -⟩)
    · exact h
    · cases h
  · exact .inl

/-- A step that performs nothing, in front of a path to a value. -/
theorem path_ofExcept_bind_ok {x : Except ε α} {f : α → Prog Op Ret ε β}
    {t : List (Event Op Ret)} {b : β} :
    Path (ofExcept x >>= f) t (.ok b) ↔ ∃ a, x = .ok a ∧ Path (f a) t (.ok b) := by
  cases x with
  | ok a => simp
  | error e => simp

theorem path_ofExcept_bind {x : Except ε α} {f : α → Prog Op Ret ε β}
    {t : List (Event Op Ret)} {r : Except ε β} : Path (ofExcept x >>= f) t r ↔
      (∃ a, x = .ok a ∧ Path (f a) t r) ∨ ∃ e, x = .error e ∧ t = [] ∧ r = .error e := by
  cases x with
  | ok a => simp
  | error e => simp

/-- A path of a guarded program is a path of its body, or one on which the body
    raised and the handler took over. -/
theorem path_tryCatch {p : Prog Op Ret ε α} {h : ε → Prog Op Ret ε α}
    {t : List (Event Op Ret)} {r : Except ε α} :
    Path (MonadExcept.tryCatch p h) t r ↔
      (∃ a, r = .ok a ∧ Path p t (.ok a)) ∨
      (∃ t₁ t₂ e, t = t₁ ++ t₂ ∧ Path p t₁ (.error e) ∧ Path (h e) t₂ r) := by
  induction p generalizing t with
  | ret a =>
    simp only [tryCatch_ret, path_ret]
    constructor
    · rintro ⟨rfl, rfl⟩
      exact .inl ⟨a, rfl, rfl, rfl⟩
    · rintro (⟨b, rfl, rfl, hb⟩ | ⟨_, _, _, _, ⟨_, hb⟩, _⟩)
      · exact ⟨rfl, hb⟩
      · cases hb
  | raise e =>
    simp only [tryCatch_raise, path_raise]
    constructor
    · intro hp
      exact .inr ⟨[], t, e, rfl, ⟨rfl, rfl⟩, hp⟩
    · rintro (⟨b, _, _, hb⟩ | ⟨t₁, t₂, e', rfl, ⟨rfl, he⟩, hp⟩)
      · cases hb
      · cases he
        exact hp
  | spin => simp
  | call o k ih =>
    simp only [tryCatch_call, path_call]
    constructor
    · rintro ⟨a, t', rfl, hp⟩
      rcases (ih a).mp hp with ⟨b, rfl, hb⟩ | ⟨t₁, t₂, e, rfl, h₁, h₂⟩
      · exact .inl ⟨b, rfl, a, t', rfl, hb⟩
      · exact .inr ⟨⟨o, a⟩ :: t₁, t₂, e, rfl, ⟨a, t₁, rfl, h₁⟩, h₂⟩
    · rintro (⟨b, rfl, a, t', rfl, hb⟩ | ⟨t₁, t₂, e, rfl, ⟨a, t', rfl, h₁⟩, h₂⟩)
      · exact ⟨a, t', rfl, (ih a).mpr (.inl ⟨b, rfl, hb⟩)⟩
      · exact ⟨a, t' ++ t₂, rfl, (ih a).mpr (.inr ⟨t', t₂, e, rfl, h₁, h₂⟩)⟩

theorem path_ofExcept {x : Except ε α} {t : List (Event Op Ret)} {r : Except ε α} :
    Path (ofExcept x) t r ↔ t = [] ∧ r = x := by
  cases x <;> rfl

/-- One more event at the end of a partial path. -/
theorem Steps.snoc {p : Prog Op Ret ε α} {t : List (Event Op Ret)} {o : Op}
    {k : Ret o → Prog Op Ret ε α} (h : Steps p t (call o k)) (a : Ret o) :
    Steps p (t ++ [⟨o, a⟩]) (k a) := by
  induction t generalizing p with
  | nil =>
    obtain rfl : call o k = p := h
    exact ⟨a, rfl, rfl⟩
  | cons e t ih =>
    cases p with
    | call o' k' =>
      obtain ⟨a', rfl, h'⟩ := h
      exact ⟨a', rfl, ih h'⟩
    | ret _ => exact h.elim
    | raise _ => exact h.elim
    | spin => exact h.elim

/-- A partial path that has reached the end is a path. -/
theorem Steps.path {p q : Prog Op Ret ε α} {t t' : List (Event Op Ret)} {r : Except ε α}
    (h : Steps p t q) (hq : Path q t' r) : Path p (t ++ t') r := by
  induction t generalizing p with
  | nil =>
    obtain rfl : q = p := h
    exact hq
  | cons e t ih =>
    cases p with
    | call o k =>
      obtain ⟨a, rfl, h'⟩ := h
      exact ⟨a, t ++ t', rfl, ih h'⟩
    | ret _ => exact h.elim
    | raise _ => exact h.elim
    | spin => exact h.elim

/-- A path is a partial path as well. -/
theorem steps_of_path {p : Prog Op Ret ε α} {t : List (Event Op Ret)} {r : Except ε α}
    (h : Path p t r) : ∃ q, Steps p t q := by
  induction p generalizing t with
  | ret a => exact ⟨ret a, by rw [h.1]; rfl⟩
  | raise e => exact ⟨raise e, by rw [h.1]; rfl⟩
  | spin => exact h.elim
  | call o k ih =>
    obtain ⟨a, t', rfl, h'⟩ := h
    obtain ⟨q, hq⟩ := ih a h'
    exact ⟨q, a, rfl, hq⟩

/-- After a complete path of `p`, what is left of `p >>= f` is `f` on its value. -/
theorem Steps.of_path_bind {p : Prog Op Ret ε α} {f : α → Prog Op Ret ε β}
    {t : List (Event Op Ret)} {a : α} {q : Prog Op Ret ε β} (hp : Path p t (.ok a))
    (hs : Steps (p >>= f) t q) : q = f a := by
  induction p generalizing t with
  | ret b =>
    obtain ⟨rfl, hb⟩ := hp
    cases hb
    exact hs
  | raise e =>
    obtain ⟨-, he⟩ := hp
    cases he
  | spin => exact hp.elim
  | call o k ih =>
    obtain ⟨b, t', rfl, hp'⟩ := hp
    obtain ⟨b', he, hs'⟩ := hs
    cases he
    exact ih b hp' hs'

/-! ## Footprints -/

/-- Every operation that `p` can perform satisfies `P`. -/
def Uses (P : Op → Prop) : Prog Op Ret ε α → Prop
  | ret _ => True
  | raise _ => True
  | spin => True
  | call o k => P o ∧ ∀ r, Uses P (k r)

variable {P : Op → Prop}

@[simp] theorem uses_ret (a : α) : Uses P (ret a : Prog Op Ret ε α) := trivial

@[simp] theorem uses_raise (e : ε) : Uses P (raise e : Prog Op Ret ε α) := trivial

@[simp] theorem uses_spin : Uses P (spin : Prog Op Ret ε α) := trivial

@[simp] theorem uses_call {o : Op} {k : Ret o → Prog Op Ret ε α} :
    Uses P (call o k) ↔ P o ∧ ∀ r, Uses P (k r) := Iff.rfl

@[simp] theorem uses_perform {o : Op} : Uses P (perform o : Prog Op Ret ε (Ret o)) ↔ P o := by
  simp [perform]

@[simp] theorem uses_ofExcept (x : Except ε α) : Uses P (ofExcept x : Prog Op Ret ε α) := by
  cases x <;> trivial

theorem Uses.bind {p : Prog Op Ret ε α} {f : α → Prog Op Ret ε β} (hp : Uses P p)
    (hf : ∀ a, Uses P (f a)) : Uses P (p >>= f) := by
  induction p with
  | ret a => exact hf a
  | raise e => trivial
  | spin => trivial
  | call o k ih => exact ⟨hp.1, fun r => ih r (hp.2 r)⟩

theorem Uses.tryCatch {p : Prog Op Ret ε α} {h : ε → Prog Op Ret ε α} (hp : Uses P p)
    (hh : ∀ e, Uses P (h e)) : Uses P (MonadExcept.tryCatch p h) := by
  induction p with
  | ret a => trivial
  | raise e => exact hh e
  | spin => trivial
  | call o k ih => exact ⟨hp.1, fun r => ih r (hp.2 r)⟩

theorem Uses.mono {P' : Op → Prop} (himp : ∀ o, P o → P' o) {p : Prog Op Ret ε α}
    (hp : Uses P p) : Uses P' p := by
  induction p with
  | ret a => trivial
  | raise e => trivial
  | spin => trivial
  | call o k ih => exact ⟨himp o hp.1, fun r => ih r (hp.2 r)⟩

/-- What a program performs on a path lies in its footprint. -/
theorem Uses.of_path {p : Prog Op Ret ε α} {t : List (Event Op Ret)} {r : Except ε α}
    (hp : Uses P p) (h : Path p t r) : ∀ e ∈ t, P e.op := by
  induction p generalizing t with
  | ret a => simp [h.1]
  | raise e => simp [h.1]
  | spin => exact h.elim
  | call o k ih =>
    obtain ⟨a, t', rfl, h'⟩ := h
    intro e he
    rcases List.mem_cons.mp he with rfl | he
    · exact hp.1
    · exact ih a (hp.2 a) h' e he

/-- An operation outside the footprint of the first part belongs to the second. -/
theorem Uses.path_bind_append {p : Prog Op Ret ε α} {f : α → Prog Op Ret ε β}
    {before later : List (Event Op Ret)} {e : Event Op Ret} {r : Except ε β} (hp : Uses P p)
    (he : ¬ P e.op) (h : Path (p >>= f) (before ++ e :: later) r) :
    ∃ first second a, before = first ++ second ∧ Path p first (.ok a) ∧
      Path (f a) (second ++ e :: later) r := by
  rcases path_bind.mp h with ⟨first, rest, a, ht, hfirst, hrest⟩ | ⟨_, -, hfailed⟩
  · rcases List.append_eq_append_iff.mp ht with ⟨second, rfl, hlater⟩ | ⟨second, rfl, rfl⟩
    · cases second with
      | nil =>
        refine ⟨before, [], a, (List.append_nil _).symm, by simpa using hfirst, ?_⟩
        rwa [List.nil_append, show e :: later = rest from hlater]
      | cons e' second =>
        obtain ⟨rfl, -⟩ := List.cons.inj hlater
        exact absurd (hp.of_path hfirst e (by simp)) he
    · exact ⟨first, second, a, rfl, hfirst, hrest⟩
  · exact absurd (hp.of_path hfailed e (by simp)) he

/-- What a program performs on a partial path lies in its footprint. -/
theorem Uses.of_steps {p q : Prog Op Ret ε α} {t : List (Event Op Ret)}
    (hp : Uses P p) (h : Steps p t q) : ∀ e ∈ t, P e.op := by
  induction t generalizing p with
  | nil => simp
  | cons e t ih =>
    cases p with
    | call o k =>
      obtain ⟨a, rfl, h'⟩ := h
      intro e' he'
      rcases List.mem_cons.mp he' with rfl | he'
      · exact hp.1
      · exact ih (hp.2 a) h' e' he'
    | ret _ => exact h.elim
    | raise _ => exact h.elim
    | spin => exact h.elim

/-! ## Returned values -/

/-- `p` performs operations in `P` only, and every value that it can return
    satisfies `Q`. -/
def Yields (P : Op → Prop) (Q : α → Prop) : Prog Op Ret ε α → Prop
  | ret a => Q a
  | raise _ => True
  | spin => True
  | call o k => P o ∧ ∀ r, Yields P Q (k r)

variable {Q : α → Prop}

theorem Yields.uses {p : Prog Op Ret ε α} (h : Yields P Q p) : Uses P p := by
  induction p with
  | ret a => trivial
  | raise e => trivial
  | spin => trivial
  | call o k ih => exact ⟨h.1, fun r => ih r (h.2 r)⟩

theorem Uses.yields_bind {Q : β → Prop} {p : Prog Op Ret ε α} {f : α → Prog Op Ret ε β}
    (hp : Uses P p) (hf : ∀ a, Yields P Q (f a)) : Yields P Q (p >>= f) := by
  induction p with
  | ret a => exact hf a
  | raise e => trivial
  | spin => trivial
  | call o k ih => exact ⟨hp.1, fun r => ih r (hp.2 r)⟩

theorem Yields.of_path {p : Prog Op Ret ε α} {t : List (Event Op Ret)} {a : α}
    (hp : Yields P Q p) (h : Path p t (.ok a)) : Q a := by
  induction p generalizing t with
  | ret b =>
    obtain ⟨-, hb⟩ := h
    cases hb
    exact hp
  | raise e =>
    obtain ⟨-, he⟩ := h
    cases he
  | spin => exact h.elim
  | call o k ih =>
    obtain ⟨r, t', -, h'⟩ := h
    exact ih r (hp.2 r) h'

/-! ## Operations in their history -/

/-- Every operation that `p` performs after the events `past` stands in the
    relation `P` to what was performed before it. -/
def Follows (P : List (Event Op Ret) → Op → Prop) :
    List (Event Op Ret) → Prog Op Ret ε α → Prop
  | _, ret _ => True
  | _, raise _ => True
  | _, spin => True
  | past, call o k => P past o ∧ ∀ r, Follows P (past ++ [⟨o, r⟩]) (k r)

section Follows

variable {P : List (Event Op Ret) → Op → Prop} {past : List (Event Op Ret)}

@[simp] theorem follows_ret (a : α) : Follows P past (ret a : Prog Op Ret ε α) := trivial

@[simp] theorem follows_raise (e : ε) : Follows P past (raise e : Prog Op Ret ε α) := trivial

@[simp] theorem follows_spin : Follows P past (spin : Prog Op Ret ε α) := trivial

theorem follows_ofExcept_bind {x : Except ε α} {f : α → Prog Op Ret ε β}
    (hf : ∀ a, x = .ok a → Follows P past (f a)) : Follows P past (ofExcept x >>= f) := by
  cases x with
  | ok a => exact hf a rfl
  | error e => trivial

theorem Follows.bind {p : Prog Op Ret ε α} {f : α → Prog Op Ret ε β} (hp : Follows P past p)
    (hf : ∀ t a, Path p t (.ok a) → Follows P (past ++ t) (f a)) : Follows P past (p >>= f) := by
  induction p generalizing past with
  | ret a =>
    have hlast := hf [] a ⟨rfl, rfl⟩
    rwa [List.append_nil] at hlast
  | raise e => trivial
  | spin => trivial
  | call o k ih =>
    refine ⟨hp.1, fun r => ih r (hp.2 r) fun t a ht => ?_⟩
    rw [List.append_assoc]
    exact hf (⟨o, r⟩ :: t) a ⟨r, t, rfl, ht⟩

theorem Follows.tryCatch {p : Prog Op Ret ε α} {h : ε → Prog Op Ret ε α} (hp : Follows P past p)
    (hh : ∀ t e, Path p t (.error e) → Follows P (past ++ t) (h e)) :
    Follows P past (MonadExcept.tryCatch p h) := by
  induction p generalizing past with
  | ret a => trivial
  | raise e =>
    have hlast := hh [] e ⟨rfl, rfl⟩
    rwa [List.append_nil] at hlast
  | spin => trivial
  | call o k ih =>
    refine ⟨hp.1, fun r => ih r (hp.2 r) fun t e ht => ?_⟩
    rw [List.append_assoc]
    exact hh (⟨o, r⟩ :: t) e ⟨r, t, rfl, ht⟩

/-- Operations that need no history. -/
theorem Uses.follows {U : Op → Prop} {p : Prog Op Ret ε α} (hU : ∀ past o, U o → P past o)
    (hp : Uses U p) : Follows P past p := by
  induction p generalizing past with
  | ret a => trivial
  | raise e => trivial
  | spin => trivial
  | call o k ih => exact ⟨hU past o hp.1, fun r => ih r (hp.2 r)⟩

/-- An operation on a partial path, with what the program performed before it. -/
theorem Follows.of_steps {p q : Prog Op Ret ε α} {e : Event Op Ret} {t t' : List (Event Op Ret)}
    (hp : Follows P past p) (h : Steps p (t ++ e :: t') q) : P (past ++ t) e.op := by
  induction t generalizing past p with
  | nil =>
    cases p with
    | call o k =>
      obtain ⟨a, rfl, -⟩ := h
      rw [List.append_nil]
      exact hp.1
    | ret _ => exact h.elim
    | raise _ => exact h.elim
    | spin => exact h.elim
  | cons e' t ih =>
    cases p with
    | call o k =>
      obtain ⟨a, rfl, h'⟩ := h
      have hrest := ih (hp.2 a) h'
      rwa [List.append_assoc] at hrest
    | ret _ => exact h.elim
    | raise _ => exact h.elim
    | spin => exact h.elim

end Follows

/-! ## Replay -/

/-- The outcome of `p` when it performs exactly the events `t`. -/
def replay [DecidableEq Op] : Prog Op Ret ε α → List (Event Op Ret) → Option (Except ε α)
  | ret a, [] => some (.ok a)
  | raise e, [] => some (.error e)
  | call o k, ⟨o', a⟩ :: t => if h : o' = o then replay (k (h ▸ a)) t else none
  | _, _ => none

theorem path_of_replay [DecidableEq Op] {p : Prog Op Ret ε α} {t : List (Event Op Ret)}
    {r : Except ε α} (h : p.replay t = some r) : Path p t r := by
  induction p generalizing t with
  | ret a =>
    cases t with
    | nil => exact ⟨rfl, (Option.some.inj h).symm⟩
    | cons e t => cases h
  | raise e =>
    cases t with
    | nil => exact ⟨rfl, (Option.some.inj h).symm⟩
    | cons e' t => cases h
  | spin => cases t <;> cases h
  | call o k ih =>
    cases t with
    | nil => cases h
    | cons e t =>
      obtain ⟨o', a⟩ := e
      simp only [replay] at h
      split at h
      · next ho =>
        subst ho
        exact ⟨a, t, rfl, ih a h⟩
      · cases h

end Prog

end Interaction
