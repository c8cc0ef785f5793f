import Mathlib.Data.List.TakeWhile
import XrplX402.Py.Text

/-! # Decimals that stay in range

    Arithmetic of the default context raises when a result overflows, and
    comparing raises for what is not a number. Finite numbers of bounded size do
    neither. -/

namespace Py

namespace Decimal

/-! ## Section 1: Rounding into the context -/

theorem roundHalfEven_le (n d : Nat) : roundHalfEven n d ≤ n / d + 1 := by
  simp only [roundHalfEven]
  split
  · omega
  · split
    · omega
    · split <;> omega

theorem lt_pow_length_toDigits (n : Nat) : n < 10 ^ (Nat.toDigits 10 n).length :=
  (Nat.length_toDigits_le_iff (by decide) Nat.length_toDigits_pos).mp (le_refl _)

theorem pow_length_toDigits_le {n : Nat} (h : 0 < n) : 10 ^ ((Nat.toDigits 10 n).length - 1) ≤ n := by
  by_contra hlt
  push Not at hlt
  have hpos : 0 < (Nat.toDigits 10 n).length := Nat.length_toDigits_pos
  by_cases hone : (Nat.toDigits 10 n).length = 1
  · rw [hone] at hlt
    simp at hlt
    omega
  · have hle := (Nat.length_toDigits_le_iff (by decide) (by omega)).mpr hlt
    omega

/-- The exponent of the leading digit of a bounded number. -/
theorem adjusted_le {coeff : Nat} {exp b : Int} (hpos : 0 < coeff)
    (h : (coeff : ℚ) * 10 ^ exp < 10 ^ b) : ((Nat.toDigits 10 coeff).length : Int) + exp ≤ b := by
  have hdigits : 0 < (Nat.toDigits 10 coeff).length := Nat.length_toDigits_pos
  have hlow : (10 : ℚ) ^ ((Nat.toDigits 10 coeff).length - 1) ≤ coeff := by
    exact_mod_cast pow_length_toDigits_le hpos
  have hexp : (0 : ℚ) < 10 ^ exp := by positivity
  have hlt : (10 : ℚ) ^ ((((Nat.toDigits 10 coeff).length - 1 : Nat) : Int) + exp) < 10 ^ b := by
    rw [zpow_add₀ (by norm_num), zpow_natCast]
    exact lt_of_le_of_lt (mul_le_mul_of_nonneg_right hlow hexp.le) h
  have hb := (zpow_lt_zpow_iff_right₀ (by norm_num : (1 : ℚ) < 10)).mp hlt
  omega

theorem fix_eq_some (neg : Bool) {coeff : Nat} {exp b : Int} (hb : b ≤ contextEmax)
    (h : (coeff : ℚ) * 10 ^ exp < 10 ^ b) : ∃ n c e, fix neg coeff exp = some (finite n c e) := by
  unfold fix
  by_cases hzero : coeff = 0
  · exact ⟨neg, 0, _, if_pos hzero⟩
  have hadjusted := adjusted_le (Nat.pos_of_ne_zero hzero) h
  have hlt := lt_pow_length_toDigits coeff
  generalize hd : (Nat.toDigits 10 coeff).length = d at hadjusted hlt
  simp only [hzero, if_false]
  rw [if_neg (by omega)]
  generalize hm : max ((d : Int) + exp - contextPrec) contextEtiny = expMin
  have hetiny : contextEtiny ≤ contextEmax := by decide
  have hmin : expMin ≤ contextEmax := by
    rw [← hm]
    apply max_le
    · omega
    · exact hetiny
  by_cases hle : expMin ≤ exp
  · exact ⟨neg, coeff, exp, by rw [if_pos hle]⟩
  rw [if_neg hle]
  obtain ⟨k, hk⟩ : ∃ k : Nat, (k : Int) = expMin - exp := ⟨(expMin - exp).toNat, by omega⟩
  rw [← hk, Int.toNat_natCast]
  have hround := roundHalfEven_le coeff (10 ^ k)
  -- Rounding may add a digit, which the bound leaves room for.
  have hlength : ((Nat.toDigits 10 (roundHalfEven coeff (10 ^ k))).length : Int) + expMin - 1 ≤
      contextEmax := by
    by_cases hkd : k ≤ d
    · have hquotient : coeff / 10 ^ k < 10 ^ (d - k) := by
        rw [Nat.div_lt_iff_lt_mul (by positivity), ← pow_add, Nat.sub_add_cancel hkd]
        exact hlt
      have hsmall : roundHalfEven coeff (10 ^ k) < 10 ^ (d - k + 1) := by
        have hstep : 10 ^ (d - k) < 10 ^ (d - k + 1) :=
          Nat.pow_lt_pow_right (by decide) (by omega)
        omega
      have hlen := (Nat.length_toDigits_le_iff (by decide) (by omega)).mpr hsmall
      omega
    · have hquotient : coeff / 10 ^ k = 0 := by
        apply Nat.div_eq_of_lt
        exact hlt.trans (Nat.pow_lt_pow_right (by decide) (by omega))
      have hsmall : roundHalfEven coeff (10 ^ k) < 10 ^ 1 := by omega
      have hlen := (Nat.length_toDigits_le_iff (by decide) (by decide)).mpr hsmall
      omega
  exact ⟨neg, _, expMin, by rw [if_neg (by omega)]⟩

/-! ## Section 2: Products and comparisons -/

theorem abs_ratValue (neg : Bool) (coeff : Nat) (exp : Int) :
    |ratValue neg coeff exp| = (coeff : ℚ) * 10 ^ exp := by
  have hpos : (0 : ℚ) ≤ coeff * 10 ^ exp := by positivity
  unfold ratValue
  cases neg
  · rw [if_neg (by decide), one_mul, abs_of_nonneg hpos]
  · rw [if_pos rfl, mul_assoc, neg_one_mul, abs_neg, abs_of_nonneg hpos]

/-- A product of bounded size is a number. -/
theorem mul_eq_some {d₁ d₂ : Decimal} {p q : ℚ} {b : Int} (h₁ : d₁.Denotes p) (h₂ : d₂.Denotes q)
    (hb : b ≤ contextEmax) (h : |p * q| < 10 ^ b) : ∃ d r, mul d₁ d₂ = some d ∧ d.Denotes r := by
  obtain ⟨n₁, c₁, e₁, rfl, rfl⟩ := h₁
  obtain ⟨n₂, c₂, e₂, rfl, rfl⟩ := h₂
  have hsize : ((c₁ * c₂ : Nat) : ℚ) * 10 ^ (e₁ + e₂) < 10 ^ b := by
    rw [abs_mul, abs_ratValue, abs_ratValue] at h
    rw [zpow_add₀ (by norm_num)]
    push_cast
    calc (c₁ : ℚ) * c₂ * (10 ^ e₁ * 10 ^ e₂) = c₁ * 10 ^ e₁ * (c₂ * 10 ^ e₂) := by ring
      _ < 10 ^ b := h
  obtain ⟨n, c, e, hfix⟩ := fix_eq_some (n₁ != n₂) hb hsize
  exact ⟨finite n c e, ratValue n c e, hfix, n, c, e, rfl, rfl⟩

theorem cmp_denotes {d₁ d₂ : Decimal} {p q : ℚ} (h₁ : d₁.Denotes p) (h₂ : d₂.Denotes q) :
    ∃ o, cmp d₁ d₂ = some o := by
  obtain ⟨n₁, c₁, e₁, rfl, -⟩ := h₁
  obtain ⟨n₂, c₂, e₂, rfl, -⟩ := h₂
  exact ⟨_, rfl⟩

end Decimal

/-! ## Section 3: Numerals -/

theorem parseUnsigned_of_digits {cs : List Char} (hne : cs ≠ [])
    (hall : ∀ c ∈ cs, isAsciiDigit c = true) :
    parseUnsigned cs = some (natOfDigits (cs.map asciiDigitValue), 0) := by
  have htake : cs.takeWhile isAsciiDigit = cs := List.takeWhile_eq_self_iff.mpr hall
  have hdrop : cs.dropWhile isAsciiDigit = [] := List.dropWhile_eq_nil_iff.mpr hall
  simp [parseUnsigned, htake, hdrop, hne]

theorem natOfDigits_lt {ds : List Nat} (h : ∀ d ∈ ds, d < 10) : natOfDigits ds < 10 ^ ds.length := by
  -- The digits read so far are shifted by every digit that follows.
  have hfrom : ∀ (ds : List Nat) (acc : Nat), (∀ d ∈ ds, d < 10) →
      ds.foldl (fun acc d => 10 * acc + d) acc < (acc + 1) * 10 ^ ds.length := by
    intro ds
    induction ds with
    | nil =>
      intro acc _
      simp
    | cons d ds ih =>
      intro acc hds
      have hd : d < 10 := hds d List.mem_cons_self
      have hrest := ih (10 * acc + d) fun x hx => hds x (List.mem_cons_of_mem _ hx)
      calc (d :: ds).foldl (fun acc d => 10 * acc + d) acc
          < (10 * acc + d + 1) * 10 ^ ds.length := hrest
        _ ≤ ((acc + 1) * 10) * 10 ^ ds.length := Nat.mul_le_mul_right _ (by omega)
        _ = (acc + 1) * 10 ^ (d :: ds).length := by
          rw [List.length_cons, pow_succ]
          ring
  have hlt := hfrom ds 0 h
  rwa [Nat.zero_add, Nat.one_mul] at hlt

end Py
