import XrplX402.Interaction.Prog

/-! # Interleavings over one shared state

    Any number of callers, each running its own `Prog`, act on one shared
    state. One operation of one caller is one atomic step; between two steps
    of a caller the others may do anything.

    * **Systems**: a `World` says which answers an operation can get and what
      it does to the shared state; `Run` is the interleaving semantics, and
      every operation with its answer is kept in a log.
    * **Contracts**: an invariant of the shared state and the log, and for
      every caller the precondition it promises for its operations.
    * **`Holds`**: the rely-guarantee rule. A caller is checked once, against
      arbitrary steps of the others that keep the contract. -/

namespace Interaction

variable {ι Op : Type} {Ret : Op → Type} {ε α β S : Type}

/-! ## Section 1: Systems and runs -/

/-- The shared state's side of an operation: `exec s o r` is the state after
    `o` was answered by `r`, and `none` when `r` is no possible answer. -/
structure World (Op : Type) (Ret : Op → Type) (S : Type) where
  exec : S → (o : Op) → Ret o → Option S

/-- One performed operation, with the caller that performed it. -/
structure Entry (ι Op : Type) (Ret : Op → Type) extends Event Op Ret where
  who : ι

/-- The shared state and the log of all operations, newest first. -/
structure State (ι Op : Type) (Ret : Op → Type) (S : Type) where
  shared : S
  log : List (Entry ι Op Ret)

/-- The state after caller `i` performed `o`. -/
def State.push (s : State ι Op Ret S) (i : ι) (o : Op) (r : Ret o) (t : S) : State ι Op Ret S :=
  ⟨t, ⟨⟨o, r⟩, i⟩ :: s.log⟩

@[simp] theorem State.push_shared (s : State ι Op Ret S) (i : ι) (o : Op) (r : Ret o) (t : S) :
    (s.push i o r t).shared = t := rfl

@[simp] theorem State.push_log (s : State ι Op Ret S) (i : ι) (o : Op) (r : Ret o) (t : S) :
    (s.push i o r t).log = ⟨⟨o, r⟩, i⟩ :: s.log := rfl

/-- A state together with what is left of every started caller. -/
structure Config (ι Op : Type) (Ret : Op → Type) (ε α S : Type) where
  state : State ι Op Ret S
  threads : ι → Option (Prog Op Ret ε α)

/-- Nothing has happened yet. -/
def Config.init (s : S) : Config ι Op Ret ε α S := ⟨⟨s, []⟩, fun _ => none⟩

/-- Caller `i` runs `prog i`. -/
structure System (ι Op : Type) (Ret : Op → Type) (ε α S : Type) where
  world : World Op Ret S
  prog : ι → Prog Op Ret ε α

section Runs

variable [DecidableEq ι]

def Config.setThread (c : Config ι Op Ret ε α S) (s : State ι Op Ret S) (i : ι)
    (p : Prog Op Ret ε α) : Config ι Op Ret ε α S :=
  ⟨s, Function.update c.threads i (some p)⟩

/-- `Run sys allowed c c'`: `c'` is reached from `c` by steps that all satisfy
    `allowed`, which looks at the state before the step. -/
inductive Run (sys : System ι Op Ret ε α S) (allowed : State ι Op Ret S → Entry ι Op Ret → Prop)
    (c : Config ι Op Ret ε α S) : Config ι Op Ret ε α S → Prop where
  | refl : Run sys allowed c c
  | start {c' : Config ι Op Ret ε α S} (i : ι) : Run sys allowed c c' → c'.threads i = none →
      Run sys allowed c (c'.setThread c'.state i (sys.prog i))
  | call {c' : Config ι Op Ret ε α S} (i : ι) {o : Op} {k : Ret o → Prog Op Ret ε α} (r : Ret o)
      {t : S} : Run sys allowed c c' → c'.threads i = some (.call o k) →
      sys.world.exec c'.state.shared o r = some t → allowed c'.state ⟨⟨o, r⟩, i⟩ →
      Run sys allowed c (c'.setThread (c'.state.push i o r t) i (k r))

/-- No restriction on the steps. -/
abbrev anyStep : State ι Op Ret S → Entry ι Op Ret → Prop := fun _ _ => True

variable {sys : System ι Op Ret ε α S} {allowed : State ι Op Ret S → Entry ι Op Ret → Prop}
variable {c c' c'' : Config ι Op Ret ε α S}

theorem Run.trans (h : Run sys allowed c c') (h' : Run sys allowed c' c'') :
    Run sys allowed c c'' := by
  induction h' with
  | refl => exact h
  | start i _ hi ih => exact .start i ih hi
  | call i r _ hi hx ha ih => exact .call i r ih hi hx ha

theorem Run.mono {allowed' : State ι Op Ret S → Entry ι Op Ret → Prop}
    (himp : ∀ s e, allowed s e → allowed' s e) (h : Run sys allowed c c') :
    Run sys allowed' c c' := by
  induction h with
  | refl => exact .refl
  | start i _ hi ih => exact .start i ih hi
  | call i r _ hi hx ha ih => exact .call i r ih hi hx (himp _ _ ha)

/-- The log only grows. -/
theorem Run.log_suffix (h : Run sys allowed c c') : c.state.log <:+ c'.state.log := by
  induction h with
  | refl => exact List.suffix_refl _
  | start i _ _ ih => exact ih
  | call i r _ _ _ _ ih => exact ih.trans (List.suffix_cons _ _)

/-- A started caller stays started. -/
theorem Run.started (h : Run sys allowed c c') {i : ι} (hi : c'.threads i = none) :
    c.threads i = none := by
  induction h with
  | refl => exact hi
  | start j _ _ ih =>
    by_cases hj : i = j
    · subst hj
      simp [Config.setThread] at hi
    · exact ih (by simpa [Config.setThread, hj] using hi)
  | call j r _ _ _ _ ih =>
    by_cases hj : i = j
    · subst hj
      simp [Config.setThread] at hi
    · exact ih (by simpa [Config.setThread, hj] using hi)

/-! ### Schedules

    A schedule names the next caller and, for an operation, how it is answered.
    Replaying one is a computation, so that a concrete run can be evaluated. -/

/-- One entry of a schedule. -/
inductive Label (ι Op : Type) (Ret : Op → Type) (S : Type) where
  | start (i : ι)
  | call (i : ι) (answer : State ι Op Ret S → (o : Op) → Ret o)

/-- Whatever operation comes next, its answer is an allowed one. -/
def Label.Obeys (allowed : State ι Op Ret S → Entry ι Op Ret → Prop) : Label ι Op Ret S → Prop
  | .start _ => True
  | .call i answer => ∀ s o, allowed s ⟨⟨o, answer s o⟩, i⟩

def System.step? (sys : System ι Op Ret ε α S) (c : Config ι Op Ret ε α S) :
    Label ι Op Ret S → Option (Config ι Op Ret ε α S)
  | .start i =>
    match c.threads i with
    | none => some (c.setThread c.state i (sys.prog i))
    | some _ => none
  | .call i answer =>
    match c.threads i with
    | some (.call o k) =>
      let r := answer c.state o
      (sys.world.exec c.state.shared o r).map fun t =>
        c.setThread (c.state.push i o r t) i (k r)
    | _ => none

def System.replay (sys : System ι Op Ret ε α S) :
    List (Label ι Op Ret S) → Config ι Op Ret ε α S → Option (Config ι Op Ret ε α S)
  | [], c => some c
  | l :: ls, c => (sys.step? c l).bind (sys.replay ls)

theorem System.step?_run {l : Label ι Op Ret S} (hl : l.Obeys allowed)
    (h : sys.step? c l = some c') : Run sys allowed c c' := by
  cases l with
  | start i =>
    simp only [System.step?] at h
    split at h
    · cases h
      exact .start i .refl ‹_›
    · cases h
  | call i answer =>
    simp only [System.step?] at h
    split at h
    · next o k hi =>
      obtain ⟨t, ht, rfl⟩ := Option.map_eq_some_iff.mp h
      exact .call i _ .refl hi ht (hl _ _)
    · cases h

/-- A schedule that replays is a run. -/
theorem System.replay_run {ls : List (Label ι Op Ret S)} (hls : ∀ l ∈ ls, l.Obeys allowed)
    (h : sys.replay ls c = some c') : Run sys allowed c c' := by
  induction ls generalizing c with
  | nil =>
    cases h
    exact .refl
  | cons l ls ih =>
    obtain ⟨c₁, h₁, h₂⟩ := Option.bind_eq_some_iff.mp h
    have hfirst := System.step?_run (hls l List.mem_cons_self) h₁
    have hrest := ih (fun l' hl' => hls l' (List.mem_cons_of_mem _ hl')) h₂
    exact hfirst.trans hrest

/-- How caller `i` has ended, if it has. -/
def Config.outcome (c : Config ι Op Ret ε α S) (i : ι) : Option (Except ε α) :=
  match c.threads i with
  | some (.ret a) => some (.ok a)
  | some (.raise e) => some (.error e)
  | _ => none

omit [DecidableEq ι] in
theorem Config.outcome_eq_ok {i : ι} {a : α} :
    c.outcome i = some (.ok a) ↔ c.threads i = some (.ret a) := by
  unfold Config.outcome
  split <;> simp_all

/-- A schedule that replays to a configuration with `f`. -/
theorem System.exists_run {ls : List (Label ι Op Ret S)} {f : Config ι Op Ret ε α S → Bool}
    (hls : ∀ l ∈ ls, l.Obeys allowed) (h : (sys.replay ls c).any f = true) :
    ∃ c', Run sys allowed c c' ∧ f c' = true := by
  cases hc : sys.replay ls c with
  | none =>
    rw [hc] at h
    cases h
  | some c' =>
    rw [hc] at h
    exact ⟨c', System.replay_run hls hc, h⟩

/-! ### Running alone -/

/-- The events `t` of caller `i` lead from `s` to `s'`, with steps in `ok`. -/
def World.Traces (w : World Op Ret S) (ok : S → Entry ι Op Ret → Prop) (i : ι) :
    S → List (Event Op Ret) → S → Prop
  | s, [], s' => s' = s
  | s, e :: t, s' =>
    ok s ⟨e, i⟩ ∧ ∃ s₁, w.exec s e.op e.ans = some s₁ ∧ World.Traces w ok i s₁ t s'

/-- A caller may go on without the others. -/
theorem Run.solo {ok : S → Entry ι Op Ret → Prop} (hok : ∀ s e, ok s.shared e → allowed s e)
    {i : ι} {p q : Prog Op Ret ε α} {t : List (Event Op Ret)} {s' : S} (h : Run sys allowed c c')
    (hi : c'.threads i = some p) (hp : Prog.Steps p t q)
    (ht : sys.world.Traces ok i c'.state.shared t s') :
    ∃ c'', Run sys allowed c c'' ∧ c''.state.shared = s' ∧ c''.threads i = some q ∧
      ∀ j, j ≠ i → c''.threads j = c'.threads j := by
  induction t generalizing p c' with
  | nil =>
    obtain rfl : q = p := hp
    obtain rfl : s' = c'.state.shared := ht
    exact ⟨c', h, rfl, hi, fun _ _ => rfl⟩
  | cons e t ih =>
    cases p with
    | call o k =>
      obtain ⟨r, rfl, hsteps⟩ := hp
      obtain ⟨ha, s₁, hx, hrest⟩ := ht
      have hnext := Run.call i r h hi hx (hok _ _ ha)
      obtain ⟨c'', hrun, hshared, hthread, hothers⟩ :=
        ih hnext (by simp [Config.setThread]) hsteps hrest
      refine ⟨c'', hrun, hshared, hthread, fun j hj => ?_⟩
      rw [hothers j hj]
      simp [Config.setThread, hj]
    | ret _ => exact hp.elim
    | raise _ => exact hp.elim
    | spin => exact hp.elim

/-- A caller begins and goes on without the others. -/
theorem Run.start_solo {ok : S → Entry ι Op Ret → Prop} (hok : ∀ s e, ok s.shared e → allowed s e)
    {i : ι} {q : Prog Op Ret ε α} {t : List (Event Op Ret)} {s' : S} (h : Run sys allowed c c')
    (hi : c'.threads i = none) (hp : Prog.Steps (sys.prog i) t q)
    (ht : sys.world.Traces ok i c'.state.shared t s') :
    ∃ c'', Run sys allowed c c'' ∧ c''.state.shared = s' ∧ c''.threads i = some q ∧
      ∀ j, j ≠ i → c''.threads j = c'.threads j := by
  have hstart := Run.start i h hi
  obtain ⟨c'', hrun, hshared, hthread, hothers⟩ :=
    hstart.solo hok (by simp [Config.setThread]) hp ht
  refine ⟨c'', hrun, hshared, hthread, fun j hj => ?_⟩
  rw [hothers j hj]
  simp [Config.setThread, hj]

end Runs

/-! ## Section 2: One caller's share of the log -/

section Own

variable [DecidableEq ι]

/-- What caller `i` performed, oldest first. -/
def own (i : ι) (log : List (Entry ι Op Ret)) : List (Event Op Ret) :=
  ((log.filter (fun e => e.who = i)).map Entry.toEvent).reverse

@[simp] theorem own_nil (i : ι) : own i ([] : List (Entry ι Op Ret)) = [] := rfl

@[simp] theorem own_cons_self (i : ι) (e : Event Op Ret) (log : List (Entry ι Op Ret)) :
    own i (⟨e, i⟩ :: log) = own i log ++ [e] := by
  simp [own]

theorem own_cons_of_ne {i j : ι} (h : j ≠ i) (e : Event Op Ret) (log : List (Entry ι Op Ret)) :
    own i (⟨e, j⟩ :: log) = own i log := by
  simp [own, h]

theorem own_append (i : ι) (newer older : List (Entry ι Op Ret)) :
    own i (newer ++ older) = own i older ++ own i newer := by
  simp [own]

theorem mem_own {i : ι} {e : Event Op Ret} {log : List (Entry ι Op Ret)} :
    e ∈ own i log ↔ ⟨e, i⟩ ∈ log := by
  simp only [own, List.mem_reverse, List.mem_map, List.mem_filter, decide_eq_true_eq]
  constructor
  · rintro ⟨⟨e', j⟩, ⟨h, rfl⟩, rfl⟩
    exact h
  · intro h
    exact ⟨⟨e, i⟩, ⟨h, rfl⟩, rfl⟩

variable {sys : System ι Op Ret ε α S} {allowed : State ι Op Ret S → Entry ι Op Ret → Prop}
variable {s₀ : S} {c : Config ι Op Ret ε α S}

/-- A caller's share of the log is a partial path of its program. -/
theorem Run.own_steps (h : Run sys allowed (Config.init s₀) c) (i : ι) :
    match c.threads i with
    | none => own i c.state.log = []
    | some p => Prog.Steps (sys.prog i) (own i c.state.log) p := by
  induction h with
  | refl => rfl
  | @start c' j _ hj ih =>
    by_cases hij : i = j
    · subst hij
      rw [hj] at ih
      simp [Config.setThread, ih, Prog.Steps]
    · simpa [Config.setThread, hij] using ih
  | @call c' j o k r t _ hj _ _ ih =>
    by_cases hij : i = j
    · subst hij
      rw [hj] at ih
      simpa [Config.setThread] using ih.snoc r
    · simpa [Config.setThread, hij, own_cons_of_ne (Ne.symm hij)] using ih

/-- A caller that ended took a path of its program. -/
theorem Run.own_path (h : Run sys allowed (Config.init s₀) c) {i : ι} {p : Prog Op Ret ε α}
    (hi : c.threads i = some p) {r : Except ε α} (hr : Prog.Path p [] r) :
    Prog.Path (sys.prog i) (own i c.state.log) r := by
  have hs := h.own_steps i
  rw [hi] at hs
  simpa using hs.path hr

/-- An operation of a caller stands in the relation `P` to what the caller
    performed before it. -/
theorem Run.own_follows {P : List (Event Op Ret) → Op → Prop}
    (h : Run sys allowed (Config.init s₀) c) {i : ι} (hp : (sys.prog i).Follows P [])
    {newer older : List (Entry ι Op Ret)} {e : Event Op Ret}
    (hlog : c.state.log = newer ++ ⟨e, i⟩ :: older) : P (own i older) e.op := by
  have hown : own i c.state.log = own i older ++ e :: own i newer := by
    rw [hlog, own_append, own_cons_self, List.append_assoc, List.singleton_append]
  have hsteps := h.own_steps i
  cases hthread : c.threads i with
  | none =>
    rw [hthread] at hsteps
    simp only at hsteps
    rw [hown] at hsteps
    cases List.append_eq_nil_iff.mp hsteps |>.2
  | some p =>
    rw [hthread] at hsteps
    simp only at hsteps
    rw [hown] at hsteps
    exact hp.of_steps hsteps

end Own

/-- Every entry of the log stands in the relation `P` to the entries before it. -/
def EveryEntry (P : Entry ι Op Ret → List (Entry ι Op Ret) → Prop) : List (Entry ι Op Ret) → Prop
  | [] => True
  | e :: older => P e older ∧ EveryEntry P older

section EveryEntry

variable {P : Entry ι Op Ret → List (Entry ι Op Ret) → Prop}
variable {e : Entry ι Op Ret} {log older newer : List (Entry ι Op Ret)}

instance EveryEntry.decidable [h : ∀ e older, Decidable (P e older)] :
    ∀ log, Decidable (EveryEntry P log)
  | [] => .isTrue trivial
  | e :: older => @instDecidableAnd _ _ (h e older) (EveryEntry.decidable older)

theorem EveryEntry.suffix (h : EveryEntry P (newer ++ older)) : EveryEntry P older := by
  induction newer with
  | nil => exact h
  | cons e newer ih => exact ih h.2

theorem EveryEntry.of_append (h : EveryEntry P (newer ++ e :: older)) : P e older := h.suffix.1

/-- An entry of the log, with the part of the log that is older. -/
theorem EveryEntry.of_mem (h : EveryEntry P log) (he : e ∈ log) :
    ∃ newer older, log = newer ++ e :: older ∧ P e older := by
  obtain ⟨newer, older, rfl⟩ := List.append_of_mem he
  exact ⟨newer, older, rfl, h.of_append⟩

/-- What is allowed of every step holds of every entry of the log. -/
theorem Run.every_entry [DecidableEq ι] {sys : System ι Op Ret ε α S}
    {allowed : State ι Op Ret S → Entry ι Op Ret → Prop} {s₀ : S} {c : Config ι Op Ret ε α S}
    (hP : ∀ s e, allowed s e → P e s.log) (h : Run sys allowed (Config.init s₀) c) :
    EveryEntry P c.state.log := by
  induction h with
  | refl => trivial
  | start i _ _ ih => exact ih
  | call i r _ _ _ ha ih => exact ⟨hP _ _ ha, ih⟩

/-- What holds of every entry of the log at the end was kept by every step. -/
theorem Run.of_every_entry [DecidableEq ι] {sys : System ι Op Ret ε α S}
    {allowed : State ι Op Ret S → Entry ι Op Ret → Prop} {c c' : Config ι Op Ret ε α S}
    (h : Run sys allowed c c') (hP : EveryEntry P c'.state.log) :
    Run sys (fun s e => allowed s e ∧ P e s.log) c c' := by
  induction h with
  | refl => exact .refl
  | start i _ hi ih => exact .start i (ih hP) hi
  | call i r _ hi hx ha ih => exact .call i r (ih hP.2) hi hx ⟨ha, hP.1⟩

end EveryEntry

/-! ### Properties of a whole run -/

section Whole

variable [DecidableEq ι] {sys : System ι Op Ret ε α S}
variable {allowed : State ι Op Ret S → Entry ι Op Ret → Prop} {c c' : Config ι Op Ret ε α S}

/-- What every allowed step keeps is kept by a run. -/
theorem Run.keep {I : State ι Op Ret S → Prop}
    (hstep : ∀ s i o r t, I s → sys.world.exec s.shared o r = some t → allowed s ⟨⟨o, r⟩, i⟩ →
      I (s.push i o r t)) (h : Run sys allowed c c') (hc : I c.state) : I c'.state := by
  induction h with
  | refl => exact hc
  | start i _ _ ih => exact ih
  | call i r _ _ hx ha ih => exact hstep _ i _ r _ ih hx ha

/-- Every operation of a run lies in the footprint of its caller. -/
theorem Run.footprint {P : ι → Op → Prop} (huses : ∀ i, (sys.prog i).Uses (P i))
    (hc : ∀ i p, c.threads i = some p → p.Uses (P i)) (h : Run sys allowed c c') :
    Run sys (fun s e => allowed s e ∧ P e.who e.op) c c' ∧
      ∀ i p, c'.threads i = some p → p.Uses (P i) := by
  induction h with
  | refl => exact ⟨.refl, hc⟩
  | @start c₁ i _ hi ih =>
    obtain ⟨hrun, hthreads⟩ := ih
    refine ⟨.start i hrun hi, fun j p hp => ?_⟩
    by_cases hij : j = i
    · subst hij
      obtain rfl : sys.prog j = p := by simpa [Config.setThread] using hp
      exact huses j
    · exact hthreads j p (by simpa [Config.setThread, hij] using hp)
  | @call c₁ i o k r t _ hi hx ha ih =>
    obtain ⟨hrun, hthreads⟩ := ih
    obtain ⟨ho, hk⟩ := hthreads i _ hi
    refine ⟨.call i r hrun hi hx ⟨ha, ho⟩, fun j p hp => ?_⟩
    by_cases hij : j = i
    · subst hij
      obtain rfl : k r = p := by simpa [Config.setThread] using hp
      exact hk r
    · exact hthreads j p (by simpa [Config.setThread, hij] using hp)

/-- Some callers of a run, without the others. `R` relates the state of the run
    to the state without the others. -/
theorem Run.restrict {P : ι → Op → Prop} {part : ι → Prop} {R : S → S → Prop} {s₀ : S}
    (hpart : ∀ {s s' : S} {i : ι} {o : Op} {r : Ret o} {t : S}, R s s' → part i → P i o →
      sys.world.exec s o r = some t → ∃ t', sys.world.exec s' o r = some t' ∧ R t t')
    (hothers : ∀ {s s' : S} {i : ι} {o : Op} {r : Ret o} {t : S}, R s s' → ¬ part i → P i o →
      sys.world.exec s o r = some t → R t s')
    (huses : ∀ i, (sys.prog i).Uses (P i)) (hinit : R s₀ s₀)
    (h : Run sys allowed (Config.init s₀) c) :
    ∃ c', Run sys (fun _ e => part e.who) (Config.init s₀) c' ∧
      R c.state.shared c'.state.shared ∧ ∀ i, part i → c'.threads i = c.threads i := by
  obtain ⟨hrun, -⟩ := h.footprint huses fun _ _ hp => by cases hp
  clear h
  induction hrun with
  | refl => exact ⟨_, .refl, hinit, fun _ _ => rfl⟩
  | @start c₁ i _ hi ih =>
    obtain ⟨c', hrun', hR, hthreads⟩ := ih
    by_cases hp : part i
    · refine ⟨_, .start i hrun' ((hthreads i hp).trans hi), hR, fun j hj => ?_⟩
      by_cases hij : j = i
      · simp [Config.setThread, hij]
      · simpa [Config.setThread, hij] using hthreads j hj
    · refine ⟨c', hrun', hR, fun j hj => ?_⟩
      have hij : j ≠ i := fun hij => hp (hij ▸ hj)
      simpa [Config.setThread, hij] using hthreads j hj
  | @call c₁ i o k r t _ hi hx ha ih =>
    obtain ⟨c', hrun', hR, hthreads⟩ := ih
    by_cases hp : part i
    · obtain ⟨t', hx', hR'⟩ := hpart hR hp ha.2 hx
      refine ⟨_, .call i r hrun' ((hthreads i hp).trans hi) hx' hp, hR', fun j hj => ?_⟩
      by_cases hij : j = i
      · simp [Config.setThread, hij]
      · simpa [Config.setThread, hij] using hthreads j hj
    · refine ⟨c', hrun', hothers hR hp ha.2 hx, fun j hj => ?_⟩
      have hij : j ≠ i := fun hij => hp (hij ▸ hj)
      simpa [Config.setThread, hij] using hthreads j hj

/-- What holds of the log at the end held of every step. -/
theorem Run.of_log {P : Entry ι Op Ret → Prop} (h : Run sys allowed c c')
    (hP : ∀ e ∈ c'.state.log, P e) : Run sys (fun s e => allowed s e ∧ P e) c c' := by
  induction h with
  | refl => exact .refl
  | start i _ hi ih => exact .start i (ih hP) hi
  | call i r _ hi hx ha ih =>
    have hlast := hP _ List.mem_cons_self
    have hbefore := ih fun e he => hP e (List.mem_cons_of_mem _ he)
    exact .call i r hbefore hi hx ⟨ha, hlast⟩

end Whole

/-! ## Section 3: Contracts -/

/-- What the callers of a system agree on: an invariant, and what caller `i`
    promises before it performs an operation. -/
structure Contract (ι : Type) (w : World Op Ret S)
    (allowed : State ι Op Ret S → Entry ι Op Ret → Prop) where
  inv : State ι Op Ret S → Prop
  pre : ι → State ι Op Ret S → Op → Prop
  /-- An operation performed as promised keeps the invariant. -/
  step : ∀ {s : State ι Op Ret S} {i : ι} {o : Op} {r : Ret o} {t : S}, inv s → pre i s o →
    w.exec s.shared o r = some t → allowed s ⟨⟨o, r⟩, i⟩ → inv (s.push i o r t)

namespace Contract

variable {w : World Op Ret S} {allowed : State ι Op Ret S → Entry ι Op Ret → Prop}
variable (K : Contract ι w allowed)

/-- One step of caller `j` that keeps its promise. -/
def StepBy (j : ι) (s s' : State ι Op Ret S) : Prop :=
  K.inv s ∧ ∃ o r t, K.pre j s o ∧ w.exec s.shared o r = some t ∧ allowed s ⟨⟨o, r⟩, j⟩ ∧
    s' = s.push j o r t

/-- What the others may do between two steps of caller `i`. -/
def Rely (i : ι) : State ι Op Ret S → State ι Op Ret S → Prop :=
  Relation.ReflTransGen fun s s' => ∃ j, j ≠ i ∧ K.StepBy j s s'

/-- What all callers together may do. -/
def Evolve : State ι Op Ret S → State ι Op Ret S → Prop :=
  Relation.ReflTransGen fun s s' => ∃ j, K.StepBy j s s'

variable {K} {i j : ι} {s s' s'' : State ι Op Ret S}

theorem StepBy.evolve (h : K.StepBy j s s') : K.Evolve s s' := .single ⟨j, h⟩

theorem StepBy.rely (h : K.StepBy j s s') (hj : j ≠ i) : K.Rely i s s' := .single ⟨j, hj, h⟩

theorem Rely.evolve (h : K.Rely i s s') : K.Evolve s s' :=
  Relation.ReflTransGen.mono (fun _ _ ⟨j, _, hj⟩ => ⟨j, hj⟩) _ _ h

/-- A property that every step keeps is kept by any number of steps. -/
theorem Evolve.keep {P : State ι Op Ret S → Prop}
    (hP : ∀ {j s s'}, K.StepBy j s s' → P s → P s') (h : K.Evolve s s') (hs : P s) : P s' := by
  induction h with
  | refl => exact hs
  | tail _ hstep ih =>
    obtain ⟨j, hj⟩ := hstep
    exact hP hj ih

theorem Evolve.log_suffix (h : K.Evolve s s') : s.log <:+ s'.log := by
  refine h.keep (P := fun x => s.log <:+ x.log) ?_ (List.suffix_refl _)
  rintro j a b ⟨_, o, r, t, _, _, _, rfl⟩ ha
  exact ha.trans (List.suffix_cons _ _)

theorem Evolve.mem_log (h : K.Evolve s s') {e : Entry ι Op Ret} (he : e ∈ s.log) : e ∈ s'.log :=
  h.log_suffix.subset he

theorem Rely.own_eq [DecidableEq ι] (h : K.Rely i s s') : own i s'.log = own i s.log := by
  induction h with
  | refl => rfl
  | tail _ hstep ih =>
    obtain ⟨j, hj, _, o, r, t, _, _, _, rfl⟩ := hstep
    rw [State.push_log, own_cons_of_ne hj, ih]

/-! ## Section 4: The rely-guarantee rule -/

/-- `K.Holds i p Q s`: from state `s`, whatever the others do, caller `i`
    running `p` keeps its promises, and ends only as `Q` says. -/
def Holds (K : Contract ι w allowed) (i : ι) :
    Prog Op Ret ε α → (State ι Op Ret S → Except ε α → Prop) → State ι Op Ret S → Prop
  | .ret a, Q, s => Q s (.ok a)
  | .raise e, Q, s => Q s (.error e)
  | .spin, _, _ => True
  | .call o k, Q, s => ∀ s', K.Rely i s s' → K.inv s' → K.pre i s' o ∧
      ∀ r t, w.exec s'.shared o r = some t → allowed s' ⟨⟨o, r⟩, i⟩ →
        K.inv (s'.push i o r t) → Holds K i (k r) Q (s'.push i o r t)

variable {p : Prog Op Ret ε α} {Q Q' : State ι Op Ret S → Except ε α → Prop}

@[simp] theorem holds_ret {a : α} : K.Holds i (.ret a) Q s ↔ Q s (.ok a) := Iff.rfl

@[simp] theorem holds_raise {e : ε} : K.Holds i (.raise e) Q s ↔ Q s (.error e) := Iff.rfl

@[simp] theorem holds_spin : K.Holds i .spin Q s := trivial

theorem holds_call {o : Op} {k : Ret o → Prog Op Ret ε α} :
    K.Holds i (.call o k) Q s ↔ ∀ s', K.Rely i s s' → K.inv s' → K.pre i s' o ∧
      ∀ r t, w.exec s'.shared o r = some t → allowed s' ⟨⟨o, r⟩, i⟩ →
        K.inv (s'.push i o r t) → K.Holds i (k r) Q (s'.push i o r t) := Iff.rfl

theorem Holds.mono (hQ : ∀ s r, Q s r → Q' s r) (h : K.Holds i p Q s) : K.Holds i p Q' s := by
  induction p generalizing s with
  | ret a => exact hQ _ _ h
  | raise e => exact hQ _ _ h
  | spin => trivial
  | call o k ih =>
    intro s' hs hinv
    obtain ⟨hpre, hk⟩ := h s' hs hinv
    exact ⟨hpre, fun r t hx ha hi => ih r (hk r t hx ha hi)⟩

/-- What `Q` must say in the middle of `p >>= f`. -/
theorem holds_bind {f : α → Prog Op Ret ε β} {R : State ι Op Ret S → Except ε β → Prop} :
    K.Holds i (p >>= f) R s ↔ K.Holds i p (fun s r =>
      match r with
      | .ok a => K.Holds i (f a) R s
      | .error e => R s (.error e)) s := by
  induction p generalizing s with
  | ret a => rfl
  | raise e => rfl
  | spin => exact Iff.rfl
  | call o k ih =>
    simp only [Prog.call_bind, holds_call]
    constructor
    · intro h s' hs hinv
      obtain ⟨hpre, hk⟩ := h s' hs hinv
      exact ⟨hpre, fun r t hx ha hi => (ih r).mp (hk r t hx ha hi)⟩
    · intro h s' hs hinv
      obtain ⟨hpre, hk⟩ := h s' hs hinv
      exact ⟨hpre, fun r t hx ha hi => (ih r).mpr (hk r t hx ha hi)⟩

theorem holds_tryCatch {h : ε → Prog Op Ret ε α} : K.Holds i (MonadExcept.tryCatch p h) Q s ↔
    K.Holds i p (fun s r =>
      match r with
      | .ok a => Q s (.ok a)
      | .error e => K.Holds i (h e) Q s) s := by
  induction p generalizing s with
  | ret a => rfl
  | raise e => rfl
  | spin => exact Iff.rfl
  | call o k ih =>
    simp only [Prog.tryCatch_call, holds_call]
    constructor
    · intro h s' hs hinv
      obtain ⟨hpre, hk⟩ := h s' hs hinv
      exact ⟨hpre, fun r t hx ha hi => (ih r).mp (hk r t hx ha hi)⟩
    · intro h s' hs hinv
      obtain ⟨hpre, hk⟩ := h s' hs hinv
      exact ⟨hpre, fun r t hx ha hi => (ih r).mpr (hk r t hx ha hi)⟩

/-- What the others do before the first step may be added in front. -/
theorem Holds.rely {s₀ : State ι Op Ret S} (hret : ∀ s s' r, K.Rely i s s' → Q s r → Q s' r)
    (hs : K.Rely i s₀ s) (h : K.Holds i p Q s₀) : K.Holds i p Q s := by
  cases p with
  | ret a => exact hret _ _ _ hs h
  | raise e => exact hret _ _ _ hs h
  | spin => trivial
  | call o k => exact fun s' hs' hinv => h s' (hs.trans hs') hinv

/-- What the others and caller `i`, with operations in `P` only, may do. -/
def Quiet (K : Contract ι w allowed) (i : ι) (P : Op → Prop) :
    State ι Op Ret S → State ι Op Ret S → Prop :=
  Relation.ReflTransGen fun s s' => (∃ j, j ≠ i ∧ K.StepBy j s s') ∨
    (K.inv s ∧ ∃ o r t, P o ∧ K.pre i s o ∧ w.exec s.shared o r = some t ∧
      allowed s ⟨⟨o, r⟩, i⟩ ∧ s' = s.push i o r t)

theorem Rely.quiet {P : Op → Prop} (h : K.Rely i s s') : K.Quiet i P s s' :=
  Relation.ReflTransGen.mono (fun _ _ => .inl) _ _ h

theorem Quiet.evolve {P : Op → Prop} (h : K.Quiet i P s s') : K.Evolve s s' := by
  refine Relation.ReflTransGen.mono ?_ _ _ h
  rintro a b (⟨j, _, hj⟩ | ⟨hinv, o, r, t, _, hpre, hx, ha, rfl⟩)
  · exact ⟨j, hj⟩
  · exact ⟨i, hinv, o, r, t, hpre, hx, ha, rfl⟩

/-- A program whose footprint lies in `P` does nothing but `P` operations, and
    its share of the log is a path of it. -/
theorem Holds.of_uses [DecidableEq ι] {P : Op → Prop} (hp : p.Uses P)
    (hpre : ∀ s o, P o → K.inv s → K.pre i s o) (hinv : K.inv s) :
    K.Holds i p (fun s' r => K.inv s' ∧ K.Quiet i P s s' ∧
      ∃ t, p.Path t r ∧ own i s'.log = own i s.log ++ t) s := by
  induction p generalizing s with
  | ret a => exact ⟨hinv, .refl, [], ⟨rfl, rfl⟩, by simp⟩
  | raise e => exact ⟨hinv, .refl, [], ⟨rfl, rfl⟩, by simp⟩
  | spin => trivial
  | call o k ih =>
    intro s₁ hs₁ hinv₁
    have hpre₁ : K.pre i s₁ o := hpre s₁ o hp.1 hinv₁
    refine ⟨hpre₁, fun r t hx ha hinv₂ => (ih r (hp.2 r) hinv₂).mono ?_⟩
    rintro s₂ res ⟨hinv₃, hq, tr, htr, hown⟩
    have hstep : K.Quiet i P s (s₁.push i o r t) :=
      (Rely.quiet hs₁).tail (.inr ⟨hinv₁, o, r, t, hp.1, hpre₁, hx, ha, rfl⟩)
    refine ⟨hinv₃, hstep.trans hq, ⟨o, r⟩ :: tr, ⟨r, tr, rfl, htr⟩, ?_⟩
    rw [hown, State.push_log, own_cons_self, hs₁.own_eq]
    simp

end Contract

/-! ## Section 5: Soundness for runs -/

section Soundness

variable [DecidableEq ι] {sys : System ι Op Ret ε α S}
variable {allowed : State ι Op Ret S → Entry ι Op Ret → Prop}
variable {K : Contract ι sys.world allowed} {Q : ι → State ι Op Ret S → Except ε α → Prop}
variable {c c' : Config ι Op Ret ε α S}

/-- Every started caller is somewhere on a checked path, and the others have
    done nothing. -/
structure Contract.Good (K : Contract ι sys.world allowed)
    (Q : ι → State ι Op Ret S → Except ε α → Prop) (c : Config ι Op Ret ε α S) : Prop where
  inv : K.inv c.state
  idle : ∀ i, c.threads i = none → own i c.state.log = []
  started : ∀ i p, c.threads i = some p →
    ∃ s, K.inv s ∧ K.Rely i s c.state ∧ K.Holds i p (Q i) s

/-- The state before the next step of a checked caller, seen by that caller. -/
theorem Contract.Good.step (h : K.Good Q c) {i : ι} {o : Op} {k : Ret o → Prog Op Ret ε α}
    (hi : c.threads i = some (.call o k)) {r : Ret o} {t : S}
    (hx : sys.world.exec c.state.shared o r = some t) (ha : allowed c.state ⟨⟨o, r⟩, i⟩) :
    K.StepBy i c.state (c.state.push i o r t) ∧
      K.inv (c.state.push i o r t) ∧ K.Holds i (k r) (Q i) (c.state.push i o r t) := by
  obtain ⟨s, _, hrely, hholds⟩ := h.started i _ hi
  obtain ⟨hpre, hk⟩ := hholds c.state hrely h.inv
  have hinv' : K.inv (c.state.push i o r t) := K.step h.inv hpre hx ha
  exact ⟨⟨h.inv, o, r, t, hpre, hx, ha, rfl⟩, hinv', hk r t hx ha hinv'⟩

/-- If every program is checked, then every configuration of a run is good and
    every step on the way keeps the promises. -/
theorem Contract.Good.run
    (hprog : ∀ i s, K.inv s → own i s.log = [] → K.Holds i (sys.prog i) (Q i) s)
    (hc : K.Good Q c) (h : Run sys allowed c c') :
    K.Good Q c' ∧ K.Evolve c.state c'.state := by
  induction h with
  | refl => exact ⟨hc, .refl⟩
  | @start c₁ i _ hi ih =>
    obtain ⟨hgood, hev⟩ := ih
    refine ⟨⟨hgood.inv, fun j hj => ?_, fun j p hj => ?_⟩, hev⟩
    · by_cases hij : j = i
      · subst hij
        simp [Config.setThread] at hj
      · exact hgood.idle j (by simpa [Config.setThread, hij] using hj)
    · by_cases hij : j = i
      · subst hij
        obtain rfl : sys.prog j = p := by simpa [Config.setThread] using hj
        exact ⟨c₁.state, hgood.inv, .refl, hprog j _ hgood.inv (hgood.idle j hi)⟩
      · exact hgood.started j p (by simpa [Config.setThread, hij] using hj)
  | @call c₁ i o k r t _ hi hx ha ih =>
    obtain ⟨hgood, hev⟩ := ih
    obtain ⟨hstep, hinv', hk⟩ := hgood.step hi hx ha
    refine ⟨⟨hinv', fun j hj => ?_, fun j p hj => ?_⟩, hev.trans hstep.evolve⟩
    · by_cases hij : j = i
      · subst hij
        simp [Config.setThread] at hj
      · have hidle := hgood.idle j (by simpa [Config.setThread, hij] using hj)
        rw [Config.setThread, State.push_log, own_cons_of_ne (Ne.symm hij), hidle]
    · by_cases hij : j = i
      · subst hij
        obtain rfl : k r = p := by simpa [Config.setThread] using hj
        exact ⟨_, hinv', .refl, hk⟩
      · obtain ⟨s, hs, hrely, hholds⟩ :=
          hgood.started j p (by simpa [Config.setThread, hij] using hj)
        exact ⟨s, hs, hrely.trans (hstep.rely (Ne.symm hij)), hholds⟩

/-- The rule for runs from an initial state. -/
theorem Contract.sound {s₀ : S}
    (hprog : ∀ i s, K.inv s → own i s.log = [] → K.Holds i (sys.prog i) (Q i) s)
    (hinit : K.inv ⟨s₀, []⟩) (h : Run sys allowed (Config.init s₀) c) : K.Good Q c :=
  (Good.run hprog ⟨hinit, fun _ _ => rfl, fun _ _ hi => by cases hi⟩ h).1

/-- A caller that ended satisfies its postcondition at the state in which it
    performed its last operation. -/
theorem Contract.Good.ended (h : K.Good Q c) {i : ι} {p : Prog Op Ret ε α} {r : Except ε α}
    (hi : c.threads i = some p) (hr : Prog.Path p [] r) :
    ∃ s, K.inv s ∧ K.Rely i s c.state ∧ Q i s r := by
  obtain ⟨s, hs, hrely, hholds⟩ := h.started i p hi
  refine ⟨s, hs, hrely, ?_⟩
  cases p with
  | ret a =>
    obtain ⟨-, rfl⟩ := hr
    exact hholds
  | raise e =>
    obtain ⟨-, rfl⟩ := hr
    exact hholds
  | spin => exact hr.elim
  | call o k =>
    obtain ⟨_, _, h', _⟩ := hr
    cases h'

/-- A caller that starts later may be checked against everything that the run
    has established by then. -/
theorem Contract.Good.started_later
    (hprog : ∀ i s, K.inv s → own i s.log = [] → K.Holds i (sys.prog i) (Q i) s)
    (hc : K.Good Q c) (h : Run sys allowed c c') {j : ι} (hj : c.threads j = none)
    {Q' : State ι Op Ret S → Except ε α → Prop}
    (hlater : ∀ s, K.inv s → K.Evolve c.state s → own j s.log = [] → K.Holds j (sys.prog j) Q' s)
    {p : Prog Op Ret ε α} (hp : c'.threads j = some p) :
    ∃ s, K.inv s ∧ K.Rely j s c'.state ∧ K.Holds j p Q' s := by
  induction h generalizing p with
  | refl =>
    rw [hj] at hp
    cases hp
  | @start c₁ i hrun hi ih =>
    by_cases hij : j = i
    · subst hij
      obtain rfl : sys.prog j = p := by simpa [Config.setThread] using hp
      obtain ⟨hgood, hev⟩ := Good.run hprog hc hrun
      exact ⟨c₁.state, hgood.inv, .refl, hlater _ hgood.inv hev (hgood.idle j hi)⟩
    · exact ih (by simpa [Config.setThread, hij] using hp)
  | @call c₁ i o k r t hrun hi hx ha ih =>
    obtain ⟨hgood, hev⟩ := Good.run hprog hc hrun
    obtain ⟨hstep, hinv', -⟩ := hgood.step hi hx ha
    by_cases hij : j = i
    · subst hij
      obtain rfl : k r = p := by simpa [Config.setThread] using hp
      obtain ⟨s, hs, hrely, hholds⟩ := ih hi
      obtain ⟨-, hk⟩ := hholds c₁.state hrely hgood.inv
      exact ⟨_, hinv', .refl, hk r t hx ha hinv'⟩
    · obtain ⟨s, hs, hrely, hholds⟩ := ih (by simpa [Config.setThread, hij] using hp)
      exact ⟨s, hs, hrely.trans (hstep.rely (Ne.symm hij)), hholds⟩

end Soundness

end Interaction
