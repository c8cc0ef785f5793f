import XrplX402.Interaction.Total

/-! # Programs over several components

    A program over the operations of one component is a program over those of a
    system that has this component.

    * `embed`: the same program with its operations and exceptions renamed.
    * `Total.embed`: what is total for the component is total in the system. -/

namespace Interaction.Prog

variable {Op Op' : Type} {Ret : Op → Type} {Ret' : Op' → Type} {ε ε' α : Type}

/-- Perform `rename o` for `o`, and read its answers as those of `o`. -/
def embed (rename : Op → Op') (read : ∀ o, Ret' (rename o) → Ret o) (exc : ε → ε') :
    Prog Op Ret ε α → Prog Op' Ret' ε' α
  | ret a => ret a
  | raise e => raise (exc e)
  | spin => spin
  | call o k => call (rename o) fun r => embed rename read exc (k (read o r))

variable {rename : Op → Op'} {read : ∀ o, Ret' (rename o) → Ret o} {exc : ε → ε'}
variable {A : (o : Op') → Ret' o → Prop} {B : (o : Op) → Ret o → Prop}

/-- An embedded program gets the answers that its component allows. -/
theorem Total.embed (hA : ∀ o r, A (rename o) r → B o (read o r)) {Q : Except ε' α → Prop}
    {p : Prog Op Ret ε α} (h : Total B (fun x => Q (x.mapError exc)) p) :
    Total A Q (p.embed rename read exc) := by
  induction p with
  | ret a => exact h
  | raise e => exact h
  | spin => exact h
  | call o k ih => exact fun r hr => ih (read o r) (h (read o r) (hA o r hr))

end Interaction.Prog
