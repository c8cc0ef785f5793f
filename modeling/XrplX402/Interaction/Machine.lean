import Mathlib.Data.List.Basic

/-! # Machines that answer one request at a time

    * `answers`, `after`: a finite history of requests.
    * `Simulates`: two machines whose states stay related and whose answers
      correspond; then so do their histories. -/

namespace Interaction

structure Machine (S Req Ans : Type) where
  step : S → Req → Ans × S

namespace Machine

variable {S T Req Ans Ans' : Type}

/-- The answers to a list of requests. -/
def answers (m : Machine S Req Ans) : S → List Req → List Ans
  | _, [] => []
  | s, q :: qs => (m.step s q).1 :: answers m (m.step s q).2 qs

/-- The state after a list of requests. -/
def after (m : Machine S Req Ans) : S → List Req → S
  | s, [] => s
  | s, q :: qs => after m (m.step s q).2 qs

/-- Allowed requests keep the states related, and the answers of `m` are those
    of `n` read through `f`. -/
structure Simulates (m : Machine S Req Ans) (n : Machine T Req Ans') (f : Ans' → Ans)
    (allowed : Req → Prop) (R : S → T → Prop) : Prop where
  answer : ∀ {s t q}, R s t → allowed q → (m.step s q).1 = f (n.step t q).1
  state : ∀ {s t q}, R s t → allowed q → R (m.step s q).2 (n.step t q).2

theorem Simulates.run {m : Machine S Req Ans} {n : Machine T Req Ans'} {f : Ans' → Ans}
    {allowed : Req → Prop} {R : S → T → Prop} (h : Simulates m n f allowed R) {s : S} {t : T}
    {qs : List Req} (hqs : ∀ q ∈ qs, allowed q) (hst : R s t) :
    m.answers s qs = (n.answers t qs).map f ∧ R (m.after s qs) (n.after t qs) := by
  induction qs generalizing s t with
  | nil => exact ⟨rfl, hst⟩
  | cons q qs ih =>
    have hq := hqs q List.mem_cons_self
    have hrest := ih (fun p hp => hqs p (List.mem_cons_of_mem _ hp)) (h.state hst hq)
    constructor
    · show (m.step s q).1 :: m.answers _ qs = f (n.step t q).1 :: _
      rw [h.answer hst hq, hrest.1]
    · exact hrest.2

end Machine

end Interaction
