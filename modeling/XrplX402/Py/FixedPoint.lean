import XrplX402.Py.DecimalSum

/-! # Fixed-point text without trailing zeros

    A positive number has many coefficients and exponents, and one fixed-point
    text that ends in no zero after the point.

    * `trimmed`: the text without the zeros at its end.
    * `IsReduced`: coefficient and exponent with no zero to strip; a number has
      one such form.
    * `trimmed_fixedPoint`: the trimmed text is the text of the reduced form. -/

namespace Py

namespace Decimal

/-! ## Section 1: Reduced forms -/

/-- No places are left that hold a zero only. -/
def IsReduced (coeff : Nat) (exp : Int) : Prop := exp = 0 ∨ (exp < 0 ∧ coeff % 10 ≠ 0)

theorem reduced_le {c₁ c₂ : Nat} {e₁ e₂ : Int} (h₁ : IsReduced c₁ e₁) (h₂ : IsReduced c₂ e₂)
    (hvalue : (c₁ : ℚ) * 10 ^ e₁ = c₂ * 10 ^ e₂) : e₂ ≤ e₁ := by
  by_contra hlt
  have hlt : e₁ < e₂ := not_le.mp hlt
  have hcoeff := eq_mul_pow hvalue hlt.le
  obtain ⟨k, hk⟩ : ∃ k, (e₂ - e₁).toNat = k + 1 := ⟨(e₂ - e₁).toNat - 1, by omega⟩
  rw [hk, pow_succ, ← mul_assoc] at hcoeff
  rcases h₁ with hzero | ⟨-, hlast⟩
  · rcases h₂ with hzero' | ⟨hneg, -⟩ <;> omega
  · apply hlast
    rw [hcoeff, Nat.mul_mod_left]

/-- A number has one reduced form. -/
theorem reduced_unique {c₁ c₂ : Nat} {e₁ e₂ : Int} (h₁ : IsReduced c₁ e₁) (h₂ : IsReduced c₂ e₂)
    (hvalue : (c₁ : ℚ) * 10 ^ e₁ = c₂ * 10 ^ e₂) : c₁ = c₂ ∧ e₁ = e₂ := by
  have hexp : e₁ = e₂ := le_antisymm (reduced_le h₂ h₁ hvalue.symm) (reduced_le h₁ h₂ hvalue)
  have hcoeff := eq_mul_pow hvalue hexp.le
  rw [hexp, sub_self, Int.toNat_zero, pow_zero, mul_one] at hcoeff
  exact ⟨hcoeff, hexp⟩

/-! ## Section 2: The digits of a multiple of ten -/

theorem toDigits_ten_mul {n : Nat} (hn : 0 < n) : Nat.toDigits 10 (10 * n) = Nat.toDigits 10 n ++ ['0'] := by
  have happend := Nat.toDigits_append_toDigits (b := 10) (n := n) (d := 0) (by decide) hn (by decide)
  rw [Nat.add_zero] at happend
  rw [← happend]
  rfl

theorem toDigits_mul_pow {n : Nat} (hn : 0 < n) (k : Nat) :
    Nat.toDigits 10 (n * 10 ^ k) = Nat.toDigits 10 n ++ List.replicate k '0' := by
  induction k with
  | zero => simp
  | succ k ih =>
    have hsplit : n * 10 ^ (k + 1) = 10 * (n * 10 ^ k) := by ring
    rw [hsplit, toDigits_ten_mul (by positivity), ih, List.append_assoc, List.replicate_succ']

theorem head?_toDigits {n : Nat} (hn : 0 < n) : (Nat.toDigits 10 n).head? ≠ some '0' := by
  induction n using Nat.strong_induction_on with
  | _ n ih =>
    by_cases hsmall : n < 10
    · rw [Nat.toDigits_of_lt_base hsmall]
      have hdigit : ∀ d < 10, 0 < d → some (Nat.digitChar d) ≠ some '0' := by decide
      exact hdigit n hsmall hn
    · have hsplit : n = 10 * (n / 10) + n % 10 := by omega
      have happend := Nat.toDigits_append_toDigits (b := 10) (n := n / 10) (d := n % 10) (by decide)
        (by omega) (Nat.mod_lt _ (by decide))
      rw [← hsplit] at happend
      rw [← happend, List.head?_append_of_ne_nil _ Nat.toDigits_ne_nil]
      exact ih (n / 10) (by omega) (by omega)

/-! ## Section 3: The parts of the text -/

/-- The digits before and after the point; there is one before it at least. -/
def paddedDigits (coeff places : Nat) : List Char :=
  List.replicate (places + 1 - (Nat.toDigits 10 coeff).length) '0' ++ Nat.toDigits 10 coeff

theorem length_paddedDigits (coeff places : Nat) : places + 1 ≤ (paddedDigits coeff places).length := by
  rw [paddedDigits, List.length_append, List.length_replicate]
  omega

theorem fixedPoint_neg (coeff : Nat) {exp : Int} (hexp : exp < 0) :
    fixedPoint coeff exp =
      (paddedDigits coeff (-exp).toNat).take ((paddedDigits coeff (-exp).toNat).length - (-exp).toNat) ++
        '.' :: (paddedDigits coeff (-exp).toNat).drop
          ((paddedDigits coeff (-exp).toNat).length - (-exp).toNat) := by
  unfold fixedPoint
  rw [if_neg (not_le.mpr hexp)]
  rfl

theorem paddedDigits_zero {coeff : Nat} : paddedDigits coeff 0 = Nat.toDigits 10 coeff := by
  have hlen : 0 < (Nat.toDigits 10 coeff).length := Nat.length_toDigits_pos
  have hnone : 0 + 1 - (Nat.toDigits 10 coeff).length = 0 := by omega
  rw [paddedDigits, hnone]
  rfl

theorem paddedDigits_ten_mul {coeff : Nat} (hpos : 0 < coeff) (places : Nat) :
    paddedDigits (10 * coeff) (places + 1) = paddedDigits coeff places ++ ['0'] := by
  have hlen : places + 1 + 1 - (Nat.toDigits 10 coeff ++ ['0']).length =
      places + 1 - (Nat.toDigits 10 coeff).length := by
    rw [List.length_append, List.length_singleton]
    omega
  rw [paddedDigits, toDigits_ten_mul hpos, hlen, ← List.append_assoc]
  rfl

/-- The digits before the point have no zero in front. -/
theorem head?_integerPart {coeff : Nat} (hpos : 0 < coeff) (places : Nat) :
    (paddedDigits coeff places).take ((paddedDigits coeff places).length - places) = ['0'] ∨
      ((paddedDigits coeff places).take ((paddedDigits coeff places).length - places)).head? ≠
        some '0' := by
  by_cases hshort : (Nat.toDigits 10 coeff).length ≤ places
  · left
    obtain ⟨k, hk⟩ : ∃ k, places + 1 - (Nat.toDigits 10 coeff).length = k + 1 :=
      ⟨places - (Nat.toDigits 10 coeff).length, by omega⟩
    have hlen : (paddedDigits coeff places).length - places = 1 := by
      rw [paddedDigits, List.length_append, List.length_replicate]
      omega
    rw [hlen, paddedDigits, hk]
    rfl
  · right
    have hnone : places + 1 - (Nat.toDigits 10 coeff).length = 0 := by omega
    have hdigits : paddedDigits coeff places = Nat.toDigits 10 coeff := by
      rw [paddedDigits, hnone]
      rfl
    rw [hdigits, List.head?_take, if_neg (by omega)]
    exact head?_toDigits hpos

theorem fixedPoint_nonneg {coeff : Nat} {exp : Int} (hpos : 0 < coeff) (hexp : 0 ≤ exp) :
    fixedPoint coeff exp = Nat.toDigits 10 (coeff * 10 ^ exp.toNat) := by
  unfold fixedPoint
  rw [if_pos hexp, if_neg hpos.ne', toDigits_mul_pow hpos]

theorem fixedPoint_zero (coeff : Nat) : fixedPoint coeff 0 = Nat.toDigits 10 coeff := by
  rcases Nat.eq_zero_or_pos coeff with rfl | hpos
  · rfl
  · rw [fixedPoint_nonneg hpos le_rfl, Int.toNat_zero, pow_zero, mul_one]

/-- One more place and one more digit put a zero at the end. -/
theorem fixedPoint_ten_mul {coeff : Nat} {exp : Int} (hpos : 0 < coeff) (hexp : exp < 0) :
    fixedPoint (10 * coeff) (exp - 1) = fixedPoint coeff exp ++ ['0'] := by
  rw [fixedPoint_neg _ (by omega : exp - 1 < 0), fixedPoint_neg _ hexp]
  have hplaces : (-(exp - 1)).toNat = (-exp).toNat + 1 := by omega
  rw [hplaces, paddedDigits_ten_mul hpos]
  generalize paddedDigits coeff (-exp).toNat = digits
  have hlen : (digits ++ ['0']).length - ((-exp).toNat + 1) = digits.length - (-exp).toNat := by
    rw [List.length_append, List.length_singleton]
    omega
  rw [hlen, List.take_append_of_le_length (by omega), List.drop_append_of_le_length (by omega),
    List.append_assoc, List.cons_append]

theorem fixedPoint_ten_mul_zero {coeff : Nat} (hpos : 0 < coeff) :
    fixedPoint (10 * coeff) (-1) = Nat.toDigits 10 coeff ++ ['.', '0'] := by
  have hdigits : paddedDigits (10 * coeff) 1 = Nat.toDigits 10 coeff ++ ['0'] := by
    rw [paddedDigits_ten_mul hpos 0, paddedDigits_zero]
  have hone : (-(-1) : Int).toNat = 1 := rfl
  rw [fixedPoint_neg _ (by decide), hone, hdigits]
  simp

/-! ## Section 4: Trimming -/

/-- Zeros at the end are removed where there is a point, and then the point. -/
def trimmed (text : List Char) : List Char :=
  if '.' ∈ text then rstripChar '.' (rstripChar '0' text) else text

theorem rstripChar_concat (c : Char) (cs : List Char) : rstripChar c (cs ++ [c]) = rstripChar c cs := by
  simp [rstripChar]

theorem point_mem_fixedPoint {coeff : Nat} {exp : Int} (hexp : exp < 0) : '.' ∈ fixedPoint coeff exp := by
  rw [fixedPoint_neg _ hexp]
  simp

theorem point_notMem_toDigits (n : Nat) : '.' ∉ Nat.toDigits 10 n := by
  intro h
  exact absurd (isAsciiDigit_of_mem_toDigits h) (by decide)

/-- The text of a reduced form has nothing to trim. -/
theorem trimmed_reduced {coeff : Nat} {exp : Int} (h : IsReduced coeff exp) :
    trimmed (fixedPoint coeff exp) = fixedPoint coeff exp := by
  unfold trimmed
  rcases h with rfl | ⟨hexp, hlast⟩
  · rw [fixedPoint_zero, if_neg (point_notMem_toDigits coeff)]
  · rw [if_pos (point_mem_fixedPoint hexp)]
    obtain ⟨d, hd, hzero, hpoint⟩ := getLast?_fixedPoint hexp hlast
    rw [rstripChar_of_last hd hzero, rstripChar_of_last hd hpoint]

/-- The trimmed text of a positive number is the one of its reduced form. -/
theorem trimmed_fixedPoint {coeff : Nat} (hpos : 0 < coeff) (exp : Int) :
    ∃ c e, trimmed (fixedPoint coeff exp) = fixedPoint c e ∧ 0 < c ∧ IsReduced c e ∧
      (c : ℚ) * 10 ^ e = coeff * 10 ^ exp := by
  by_cases hexp : 0 ≤ exp
  · have htext : fixedPoint coeff exp = fixedPoint (coeff * 10 ^ exp.toNat) 0 := by
      rw [fixedPoint_nonneg hpos hexp, fixedPoint_zero]
    refine ⟨coeff * 10 ^ exp.toNat, 0, ?_, by positivity, .inl rfl, ?_⟩
    · rw [htext]
      exact trimmed_reduced (.inl rfl)
    · have hcast : exp = (exp.toNat : Int) := by omega
      conv_rhs => rw [hcast, zpow_natCast]
      push_cast
      ring
  -- The induction is on the number of places, one of which goes with every zero.
  obtain ⟨k, rfl⟩ : ∃ k : Nat, exp = -((k : Int) + 1) := ⟨(-exp).toNat - 1, by omega⟩
  clear hexp
  induction k generalizing coeff with
  | zero =>
    by_cases hlast : coeff % 10 = 0
    · obtain ⟨c, rfl⟩ : ∃ c, coeff = 10 * c := ⟨coeff / 10, by omega⟩
      have hc : 0 < c := by omega
      refine ⟨c, 0, ?_, hc, .inl rfl, ?_⟩
      · have hminus : -(((0 : Nat) : Int) + 1) = -1 := rfl
        have hend : Nat.toDigits 10 c ++ ['.', '0'] = (Nat.toDigits 10 c ++ ['.']) ++ ['0'] := by simp
        rw [hminus, trimmed, if_pos (point_mem_fixedPoint (by decide)), fixedPoint_ten_mul_zero hc,
          hend, rstripChar_concat, fixedPoint_zero,
          rstripChar_of_last List.getLast?_concat (by decide), rstripChar_concat]
        exact rstripChar_of_last (getLast?_toDigits c) fun h => point_notMem_toDigits c (by
          rw [← h]
          exact List.mem_of_getLast? (getLast?_toDigits c))
      · push_cast
        norm_num
        ring
    · exact ⟨coeff, _, trimmed_reduced (.inr ⟨by omega, hlast⟩), hpos, .inr ⟨by omega, hlast⟩, rfl⟩
  | succ k ih =>
    by_cases hlast : coeff % 10 = 0
    · obtain ⟨c, rfl⟩ : ∃ c, coeff = 10 * c := ⟨coeff / 10, by omega⟩
      have hc : 0 < c := by omega
      obtain ⟨c', e', htext, hc', hreduced, hvalue⟩ := ih hc
      have hstep : -(((k + 1 : Nat) : Int) + 1) = -((k : Int) + 1) - 1 := by omega
      refine ⟨c', e', ?_, hc', hreduced, ?_⟩
      · rw [← htext, hstep, trimmed, trimmed, if_pos (point_mem_fixedPoint (by omega)),
          if_pos (point_mem_fixedPoint (by omega)), fixedPoint_ten_mul hc (by omega),
          rstripChar_concat]
      · rw [hvalue, hstep, zpow_sub₀ (by norm_num)]
        push_cast
        ring
    · exact ⟨coeff, _, trimmed_reduced (.inr ⟨by omega, hlast⟩), hpos, .inr ⟨by omega, hlast⟩, rfl⟩

/-- Two positive numbers have the same trimmed text exactly when they are equal. -/
theorem trimmed_fixedPoint_inj {c₁ c₂ : Nat} {e₁ e₂ : Int} (h₁ : 0 < c₁) (h₂ : 0 < c₂) :
    trimmed (fixedPoint c₁ e₁) = trimmed (fixedPoint c₂ e₂) ↔ (c₁ : ℚ) * 10 ^ e₁ = c₂ * 10 ^ e₂ := by
  obtain ⟨d₁, f₁, htext₁, -, hreduced₁, hvalue₁⟩ := trimmed_fixedPoint h₁ e₁
  obtain ⟨d₂, f₂, htext₂, -, hreduced₂, hvalue₂⟩ := trimmed_fixedPoint h₂ e₂
  constructor
  · intro h
    obtain ⟨c, e, hparse, hvalue⟩ := parseUnsigned_fixedPoint d₁ f₁
    obtain ⟨c', e', hparse', hvalue'⟩ := parseUnsigned_fixedPoint d₂ f₂
    rw [← htext₁, h, htext₂, hparse'] at hparse
    obtain ⟨rfl, rfl⟩ := Prod.mk.inj (Option.some.inj hparse)
    rw [← hvalue₁, ← hvalue, hvalue', hvalue₂]
  · intro h
    rw [← hvalue₁, ← hvalue₂] at h
    obtain ⟨rfl, rfl⟩ := reduced_unique hreduced₁ hreduced₂ h
    rw [htext₁, htext₂]

end Decimal

end Py
