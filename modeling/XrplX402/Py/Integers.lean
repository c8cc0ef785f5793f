import XrplX402.Py.DecimalSum
import XrplX402.Py.Serialize

/-! # Integers as text

    `int(str(n)) = n` for every natural number whose digits `int()` converts. -/

namespace Py

theorem isAsciiDigit_range {c : Char} (h : isAsciiDigit c = true) : 48 ≤ c.toNat ∧ c.toNat ≤ 57 := by
  simpa [isAsciiDigit, Char.le_def, UInt32.le_iff_toNat_le] using h

theorem isSpace_of_isAsciiDigit {c : Char} (h : isAsciiDigit c = true) : isSpace c = false := by
  obtain ⟨hlow, hhigh⟩ := isAsciiDigit_range h
  simp only [isSpace, Bool.or_eq_false_iff, Bool.and_eq_false_iff, decide_eq_false_iff_not,
    beq_eq_false_iff_ne]
  omega

/-- Decimal digits are read one by one. -/
theorem digitRun_digits (u : UnicodeData) {cs : List Char} (h : ∀ c ∈ cs, isAsciiDigit c = true)
    {prev : Bool} (hprev : prev = true ∨ cs ≠ []) :
    digitRun u prev cs = some (cs.map asciiDigitValue) := by
  induction cs generalizing prev with
  | nil =>
    have hdigit : prev = true := hprev.resolve_right fun hne => hne rfl
    rw [hdigit]
    rfl
  | cons c cs ih =>
    have hc := h c List.mem_cons_self
    obtain ⟨hlow, hhigh⟩ := isAsciiDigit_range hc
    have hne : c ≠ '_' := by
      rintro rfl
      exact absurd hc (by decide)
    have hvalue : u.decimal c = some (asciiDigitValue c) := by
      rw [u.decimal_ascii c (by omega), if_pos hc]
    rw [digitRun, if_neg hne, hvalue]
    dsimp only
    rw [ih (fun d hd => h d (List.mem_cons_of_mem _ hd)) (.inl rfl)]
    rfl

theorem toList_toString (n : Nat) : (toString n).toList = Nat.toDigits 10 n := by
  show (String.ofList (Nat.toDigits 10 n)).toList = _
  exact String.toList_ofList

/-- `int(str(n))` -/
theorem intOfStr_toString (u : UnicodeData) {n : Nat} (h : n < 10 ^ intMaxStrDigits) :
    intOfStr u (toString n) = .ok (n : Int) := by
  have hdigits : ∀ c ∈ Nat.toDigits 10 n, isAsciiDigit c = true :=
    fun c hc => isAsciiDigit_of_mem_toDigits hc
  have hlength : (Nat.toDigits 10 n).length ≤ intMaxStrDigits :=
    (Nat.length_toDigits_le_iff (by decide) (by decide)).mpr h
  have hrun := digitRun_digits u hdigits (.inr Nat.toDigits_ne_nil : false = true ∨ _)
  have hvalue : natOfDigits ((Nat.toDigits 10 n).map asciiDigitValue) = n := by
    rw [Decimal.natOfDigits_eq, Nat.ofDigitChars_ten_toDigits]
  have hstrip : stripChars isSpace (toString n).toList = Nat.toDigits 10 n := by
    rw [toList_toString, stripChars_of_none fun c hc => isSpace_of_isAsciiDigit (hdigits c hc)]
  unfold intOfStr
  rw [hstrip]
  obtain ⟨c, cs, hcs⟩ := List.exists_cons_of_ne_nil (Nat.toDigits_ne_nil : Nat.toDigits 10 n ≠ [])
  have hc : isAsciiDigit c = true := hdigits c (hcs ▸ List.mem_cons_self)
  have hsign : c ≠ '-' ∧ c ≠ '+' := by
    constructor
    · rintro rfl
      exact absurd hc (by decide)
    · rintro rfl
      exact absurd hc (by decide)
  rw [hcs] at hrun hvalue hlength ⊢
  have hlimit : ¬ intMaxStrDigits < ((c :: cs).map asciiDigitValue).length := by
    rw [List.length_map]
    omega
  simp only [List.cons.injEq, hsign.1, hsign.2, false_and, imp_self, implies_true, hrun, if_neg hlimit,
    Bool.false_eq_true, if_false, hvalue]

end Py
