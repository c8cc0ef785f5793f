import Mathlib.Data.Set.Card

/-! # Listings in pages

    A server that lists something in pages answers each marker with a page and
    the marker of the next page. Nothing bounds the number of pages, and the
    server may lead the reader in circles.

    * **Chains**: the markers that follow a marker, up to the end of the listing
      or up to the first marker that comes again.
    * **Termination**: with finitely many markers every chain ends or repeats.
    * **Reading**: a loop that remembers the keys of the markers it has seen
      reads each page of the chain once. -/

namespace Paging

/-- `next` is `none` on the last page. -/
structure Listing (M A : Type) where
  items : M → A
  next : M → Option M

namespace Listing

variable {M A : Type} (L : Listing M A)

/-! ## Section 1: Chains of markers -/

/-- `ms` are the markers after `m`, one after the other. -/
def Chain : M → List M → Prop
  | _, [] => True
  | m, m' :: ms => L.next m = some m' ∧ Chain m' ms

/-- `ms` are all markers after `m`. -/
structure Ends (m : M) (ms : List M) : Prop where
  chain : L.Chain m ms
  last : L.next (ms.getLastD m) = none

/-- `ms` are the markers after `m` up to the first one that comes again. -/
structure Repeats (m : M) (ms : List M) : Prop where
  chain : L.Chain m ms
  nodup : ms.Nodup
  again : ∃ m' ∈ ms, L.next (ms.getLastD m) = some m'

/-- The markers that some page names as the next one. -/
def markers : Set M := {m | ∃ m', L.next m' = some m}

variable {L} {m : M} {ms : List M}

theorem chain_concat {m' : M} :
    L.Chain m (ms ++ [m']) ↔ L.Chain m ms ∧ L.next (ms.getLastD m) = some m' := by
  induction ms generalizing m with
  | nil => simp [Chain]
  | cons m₁ ms ih =>
    rw [List.cons_append, Chain, Chain, ih, List.getLastD_cons, and_assoc]

theorem Chain.mem_markers (h : L.Chain m ms) {m' : M} (hm' : m' ∈ ms) : m' ∈ L.markers := by
  induction ms generalizing m with
  | nil => exact absurd hm' List.not_mem_nil
  | cons m₁ ms ih =>
    rcases List.mem_cons.mp hm' with rfl | hm'
    · exact ⟨m, h.1⟩
    · exact ih h.2 hm'

theorem Ends.tail {m' : M} (h : L.Ends m (m' :: ms)) : L.Ends m' ms := by
  constructor
  · exact h.chain.2
  · have hlast := h.last
    rwa [List.getLastD_cons] at hlast

/-- A marker determines what follows it. -/
theorem Ends.unique {ms' : List M} (h : L.Ends m ms) (h' : L.Ends m ms') : ms = ms' := by
  induction ms generalizing m ms' with
  | nil =>
    cases ms' with
    | nil => rfl
    | cons m₁ ms' => exact absurd (h.last.symm.trans h'.chain.1) (by simp)
  | cons m₁ ms ih =>
    cases ms' with
    | nil => exact absurd (h'.last.symm.trans h.chain.1) (by simp)
    | cons m₂ ms' =>
      obtain rfl : m₁ = m₂ := Option.some.inj (h.chain.1.symm.trans h'.chain.1)
      rw [ih h.tail h'.tail]

theorem Ends.of_mem (h : L.Ends m ms) {m' : M} (hm' : m' ∈ ms) :
    ∃ ms', L.Ends m' ms' ∧ ms'.length < ms.length := by
  induction ms generalizing m with
  | nil => exact absurd hm' List.not_mem_nil
  | cons m₁ ms ih =>
    rcases List.mem_cons.mp hm' with rfl | hm'
    · exact ⟨ms, h.tail, Nat.lt_succ_self _⟩
    · obtain ⟨ms', hends, hlt⟩ := ih h.tail hm'
      exact ⟨ms', hends, Nat.lt_succ_of_lt hlt⟩

/-- A chain that ends meets no marker twice: what follows the marker would be
    shorter the second time. -/
theorem Ends.nodup (h : L.Ends m ms) : ms.Nodup := by
  induction ms generalizing m with
  | nil => exact List.nodup_nil
  | cons m₁ ms ih =>
    apply List.nodup_cons.mpr
    constructor
    · intro hmem
      obtain ⟨ms', hends, hlt⟩ := h.tail.of_mem hmem
      rw [hends.unique h.tail] at hlt
      exact absurd hlt (lt_irrefl _)
    · exact ih h.tail

/-! ## Section 2: Every chain ends or repeats -/

/-- As long as a chain neither ends nor repeats it meets new markers. -/
theorem ends_or_repeats_or_grows (L : Listing M A) (m : M) (n : Nat) :
    ((∃ ms, L.Ends m ms) ∨ ∃ ms, L.Repeats m ms) ∨
      ∃ ms, L.Chain m ms ∧ ms.Nodup ∧ ms.length = n := by
  induction n with
  | zero => exact .inr ⟨[], trivial, List.nodup_nil, rfl⟩
  | succ n ih =>
    rcases ih with hstop | ⟨ms, hchain, hnodup, hlength⟩
    · exact .inl hstop
    · cases hnext : L.next (ms.getLastD m) with
      | none => exact .inl (.inl ⟨ms, hchain, hnext⟩)
      | some m' =>
        by_cases hm' : m' ∈ ms
        · exact .inl (.inr ⟨ms, hchain, hnodup, m', hm', hnext⟩)
        · refine .inr ⟨ms ++ [m'], chain_concat.mpr ⟨hchain, hnext⟩, ?_, ?_⟩
          · rw [← List.concat_eq_append]
            exact List.Nodup.concat hm' hnodup
          · rw [List.length_append, hlength, List.length_singleton]

theorem ends_or_repeats (hfinite : L.markers.Finite) (m : M) :
    (∃ ms, L.Ends m ms) ∨ ∃ ms, L.Repeats m ms := by
  classical
  rcases ends_or_repeats_or_grows L m (hfinite.toFinset.card + 1) with hstop | ⟨ms, hchain, hnodup, hlength⟩
  · exact hstop
  · have hsub : ms.toFinset ⊆ hfinite.toFinset := by
      intro m' hm'
      exact hfinite.mem_toFinset.mpr (hchain.mem_markers (List.mem_toFinset.mp hm'))
    have hcard := Finset.card_le_card hsub
    rw [List.toFinset_card_of_nodup hnodup, hlength] at hcard
    omega

/-! ## Section 3: Reading a listing -/

section Read

variable {K ε σ α : Type} [DecidableEq K]

/-- Reads page after page: `step` answers at once or goes on with a new state,
    `finish` answers at the end of the listing, and a marker whose key was seen
    before is the error `repeated`. The first argument bounds the pages. -/
def read (L : Listing M A) (key : M → K) (step : σ → A → Except ε (α ⊕ σ))
    (finish : σ → Except ε α) (repeated : ε) : Nat → M → List K → σ → Option (Except ε α)
  | 0, _, _, _ => none
  | pages + 1, m, seen, s =>
    match step s (L.items m) with
    | .error e => some (.error e)
    | .ok (.inl a) => some (.ok a)
    | .ok (.inr s') =>
      match L.next m with
      | none => some (finish s')
      | some m' =>
        if key m' ∈ seen then some (.error repeated)
        else read L key step finish repeated pages m' (key m' :: seen) s'

/-- What `step` makes of the pages in order; `rest` goes on behind the last one. -/
def readAll (step : σ → A → Except ε (α ⊕ σ)) (rest : σ → Except ε α) :
    σ → List A → Except ε α
  | s, [] => rest s
  | s, page :: pages =>
    match step s page with
    | .error e => .error e
    | .ok (.inl a) => .ok a
    | .ok (.inr s') => readAll step rest s' pages

/-- What happens behind the last page of a chain. -/
def behind (finish : σ → Except ε α) (repeated : ε) : Option M → σ → Except ε α
  | none => finish
  | some _ => fun _ => .error repeated

variable {key : M → K} {step : σ → A → Except ε (α ⊕ σ)} {finish : σ → Except ε α} {repeated : ε}
variable {seen : List K} {pages : Nat}

/-- The loop reads the pages of a chain without repetition once each. Its
    invariant: what was seen are no keys of markers to come. -/
theorem read_chain (hkey : Set.InjOn key L.markers) (hchain : L.Chain m ms) (hnodup : ms.Nodup)
    (hseen : ∀ m' ∈ ms, key m' ∉ seen)
    (hlast : ∀ m', L.next (ms.getLastD m) = some m' → key m' ∈ seen ∨ m' ∈ ms)
    (hpages : ms.length < pages) (s : σ) :
    L.read key step finish repeated pages m seen s =
      some (readAll step (behind finish repeated (L.next (ms.getLastD m))) s
        ((m :: ms).map L.items)) := by
  induction ms generalizing m seen pages s with
  | nil =>
    obtain ⟨pages, rfl⟩ := Nat.exists_eq_succ_of_ne_zero (Nat.ne_of_gt hpages)
    rw [read, List.map_singleton, readAll]
    cases step s (L.items m) with
    | error e => rfl
    | ok r =>
      cases r with
      | inl a => rfl
      | inr s' =>
        have hseen_last := hlast
        rw [List.getLastD_nil] at hseen_last
        dsimp only [readAll, List.getLastD_nil]
        cases hnext : L.next m with
        | none => rfl
        | some m' =>
          have hmem : key m' ∈ seen := (hseen_last m' hnext).resolve_right List.not_mem_nil
          dsimp only [behind]
          rw [if_pos hmem]
  | cons m' ms ih =>
    obtain ⟨pages, rfl⟩ := Nat.exists_eq_succ_of_ne_zero (Nat.ne_of_gt (Nat.zero_lt_of_lt hpages))
    obtain ⟨hnotin, hnodup⟩ := List.nodup_cons.mp hnodup
    have hfresh : ∀ m₁ ∈ ms, key m₁ ∉ key m' :: seen := by
      intro m₁ hm₁ hmem
      rcases List.mem_cons.mp hmem with heq | hmem
      · have hsame := hkey (hchain.2.mem_markers hm₁) ⟨m, hchain.1⟩ heq
        exact hnotin (hsame ▸ hm₁)
      · exact hseen m₁ (List.mem_cons_of_mem _ hm₁) hmem
    have hlast' : ∀ m₁, L.next (ms.getLastD m') = some m₁ → key m₁ ∈ key m' :: seen ∨ m₁ ∈ ms := by
      intro m₁ hnext
      rcases hlast m₁ (by rwa [List.getLastD_cons]) with hmem | hmem
      · exact .inl (List.mem_cons_of_mem _ hmem)
      · rcases List.mem_cons.mp hmem with rfl | hmem
        · exact .inl List.mem_cons_self
        · exact .inr hmem
    rw [read, List.map_cons, readAll, List.getLastD_cons]
    cases step s (L.items m) with
    | error e => rfl
    | ok r =>
      cases r with
      | inl a => rfl
      | inr s' =>
        dsimp only
        rw [hchain.1]
        dsimp only
        rw [if_neg (hseen m' List.mem_cons_self)]
        exact ih hchain.2 hnodup hfresh hlast' (by simpa using hpages) s'

theorem read_of_ends (hkey : Set.InjOn key L.markers) (h : L.Ends m ms) (hpages : ms.length < pages)
    (s : σ) :
    L.read key step finish repeated pages m [] s =
      some (readAll step finish s ((m :: ms).map L.items)) := by
  rw [read_chain hkey h.chain h.nodup (fun _ _ => List.not_mem_nil) ?_ hpages, h.last]
  · rfl
  · intro m' hnext
    rw [h.last] at hnext
    cases hnext

theorem read_of_repeats (hkey : Set.InjOn key L.markers) (h : L.Repeats m ms)
    (hpages : ms.length < pages) (s : σ) :
    L.read key step finish repeated pages m [] s =
      some (readAll step (fun _ => .error repeated) s ((m :: ms).map L.items)) := by
  obtain ⟨m', hm', hnext⟩ := h.again
  rw [read_chain hkey h.chain h.nodup (fun _ _ => List.not_mem_nil) ?_ hpages, hnext]
  · rfl
  · intro m₁ hm₁
    rw [hnext] at hm₁
    exact .inr (Option.some.inj hm₁ ▸ hm')

end Read

end Listing

end Paging
