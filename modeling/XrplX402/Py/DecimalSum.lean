import XrplX402.Py.Decimal
import XrplX402.Py.Serialize

/-! # Sums of decimals and their fixed-point text

    Addition in the default context rounds to 28 digits. A sum that is built up
    one number at a time is the exact sum and the rounding errors of the
    additions.

    * `add`, `sumFrom`: addition and running sums.
    * `Fits`: the numbers that the context holds without rounding.
    * `normalize`, `formatF`: the text of a number without an exponent. -/

namespace Py

namespace Decimal

/-! ## Section 1: Running sums -/

/-- The number that a finite decimal stands for. -/
def value : Decimal → ℚ
  | finite neg coeff exp => ratValue neg coeff exp
  | _ => 0

def IsFinite (d : Decimal) : Prop := ∃ neg coeff exp, d = finite neg coeff exp

theorem denotes_iff {d : Decimal} {q : ℚ} : d.Denotes q ↔ d.IsFinite ∧ d.value = q := by
  constructor
  · rintro ⟨n, c, e, rfl, rfl⟩
    exact ⟨⟨n, c, e, rfl⟩, rfl⟩
  · rintro ⟨⟨n, c, e, rfl⟩, rfl⟩
    exact ⟨n, c, e, rfl, rfl⟩

/-- `a + b` in the default context; `none` when a trapped signal is raised. -/
def add : Decimal → Decimal → Option Decimal
  | finite n₁ c₁ e₁, finite n₂ c₂ e₂ =>
    let m := min e₁ e₂
    let s := scaled n₁ c₁ e₁ m + scaled n₂ c₂ e₂ m
    fix (if s = 0 then n₁ && n₂ else decide (s < 0)) s.natAbs m
  | infinite n₁, infinite n₂ => if n₁ = n₂ then some (infinite n₁) else none
  | infinite n, finite _ _ _ => some (infinite n)
  | finite _ _ _, infinite n => some (infinite n)
  | nan true, _ => none
  | _, nan true => none
  | _, _ => some (nan false)

/-- The number with the other sign, which is not rounded. -/
def negate : Decimal → Decimal
  | finite neg coeff exp => finite (!neg) coeff exp
  | infinite neg => infinite (!neg)
  | nan signaling => nan signaling

/-- `a - b` -/
def sub (a b : Decimal) : Option Decimal := add a b.negate

/-- Add the numbers one after the other. -/
def sumFrom (acc : Decimal) : List Decimal → Option Decimal
  | [] => some acc
  | d :: ds => (add acc d).bind fun total => sumFrom total ds

/-- What rounding changes in each of the additions. -/
def roundingErrors (acc : Decimal) : List Decimal → List ℚ
  | [] => []
  | d :: ds =>
    match add acc d with
    | none => []
    | some total => (total.value - (acc.value + d.value)) :: roundingErrors total ds

theorem value_negate (d : Decimal) : d.negate.value = -d.value := by
  cases d with
  | finite neg coeff exp => cases neg <;> simp [negate, value, ratValue]
  | infinite neg => simp [negate, value]
  | nan signaling => simp [negate, value]

theorem IsFinite.negate {d : Decimal} (h : d.IsFinite) : d.negate.IsFinite := by
  obtain ⟨n, c, e, rfl⟩ := h
  exact ⟨!n, c, e, rfl⟩

theorem isFinite_fix {neg : Bool} {coeff : Nat} {exp : Int} {d : Decimal}
    (h : fix neg coeff exp = some d) : d.IsFinite := by
  unfold fix at h
  split at h
  · exact ⟨_, _, _, (Option.some.inj h).symm⟩
  · simp only at h
    split at h
    · cases h
    · split at h
      · exact ⟨_, _, _, (Option.some.inj h).symm⟩
      · split at h
        · cases h
        · exact ⟨_, _, _, (Option.some.inj h).symm⟩

/-- A signed coefficient as sign and size. -/
theorem ratValue_natAbs (s : Int) (neg : Bool) (m : Int) :
    ratValue (if s = 0 then neg else decide (s < 0)) s.natAbs m = s * 10 ^ m := by
  unfold ratValue
  by_cases hzero : s = 0
  · simp [hzero]
  · rw [if_neg hzero]
    by_cases hneg : s < 0
    · have habs : (s.natAbs : ℚ) = -(s : ℚ) := by
        rw [Nat.cast_natAbs, abs_of_neg hneg, Int.cast_neg]
      simp [hneg, habs]
    · have habs : (s.natAbs : ℚ) = (s : ℚ) := by
        rw [Nat.cast_natAbs, abs_of_nonneg (not_lt.mp hneg)]
      simp [hneg, habs]

/-- Addition rounds the exact sum. -/
theorem add_finite {a b : Decimal} (ha : a.IsFinite) (hb : b.IsFinite) :
    ∃ neg coeff exp, add a b = fix neg coeff exp ∧ ratValue neg coeff exp = a.value + b.value := by
  obtain ⟨n₁, c₁, e₁, rfl⟩ := ha
  obtain ⟨n₂, c₂, e₂, rfl⟩ := hb
  refine ⟨_, _, _, rfl, ?_⟩
  rw [ratValue_natAbs]
  show _ = ratValue n₁ c₁ e₁ + ratValue n₂ c₂ e₂
  rw [ratValue_eq_scaled n₁ c₁ (min_le_left e₁ e₂), ratValue_eq_scaled n₂ c₂ (min_le_right e₁ e₂)]
  push_cast
  ring

theorem isFinite_add {a b d : Decimal} (ha : a.IsFinite) (hb : b.IsFinite) (h : add a b = some d) :
    d.IsFinite := by
  obtain ⟨n, c, e, hadd, -⟩ := add_finite ha hb
  rw [hadd] at h
  exact isFinite_fix h

theorem isFinite_sumFrom {ds : List Decimal} {acc total : Decimal} (hacc : acc.IsFinite)
    (hds : ∀ d ∈ ds, d.IsFinite) (h : sumFrom acc ds = some total) : total.IsFinite := by
  induction ds generalizing acc with
  | nil =>
    rw [← Option.some.inj h]
    exact hacc
  | cons d ds ih =>
    obtain ⟨t, ht, hrest⟩ := Option.bind_eq_some_iff.mp h
    exact ih (isFinite_add hacc (hds d List.mem_cons_self) ht)
      (fun x hx => hds x (List.mem_cons_of_mem _ hx)) hrest

/-- A running sum is the exact sum and the rounding errors. -/
theorem value_sumFrom {ds : List Decimal} {acc total : Decimal} (h : sumFrom acc ds = some total) :
    total.value = acc.value + (ds.map value).sum + (roundingErrors acc ds).sum := by
  induction ds generalizing acc with
  | nil =>
    rw [← Option.some.inj h]
    simp [roundingErrors]
  | cons d ds ih =>
    obtain ⟨t, ht, hrest⟩ := Option.bind_eq_some_iff.mp h
    rw [ih hrest, roundingErrors, ht]
    simp only [List.map_cons, List.sum_cons]
    ring

/-! ## Section 2: Numbers that are not rounded -/

/-- At most 28 digits, within the exponents of the context. -/
def Fits (q : ℚ) : Prop :=
  |q| < 10 ^ (contextEmax + 1) ∧
    ∃ (m : Nat) (k : Int), |q| = m * 10 ^ k ∧ m < 10 ^ contextPrec ∧ contextEtiny ≤ k

theorem roundHalfEven_mul (q : Nat) {d : Nat} (hd : 0 < d) : roundHalfEven (q * d) d = q := by
  unfold roundHalfEven
  simp [Nat.mul_div_cancel q hd, hd]

theorem roundHalfEven_le_pow {c k n : Nat} (h : c < 10 ^ (k + n)) :
    roundHalfEven c (10 ^ k) ≤ 10 ^ n := by
  have hq : c / 10 ^ k < 10 ^ n := by
    rw [Nat.div_lt_iff_lt_mul (by positivity), ← pow_add, Nat.add_comm n k]
    exact h
  have hle := roundHalfEven_le c (10 ^ k)
  omega

/-- The exponent to which the context rounds. -/
def roundTo (coeff : Nat) (exp : Int) : Int :=
  max (((Nat.toDigits 10 coeff).length : Int) + exp - contextPrec) contextEtiny

theorem fix_of_le {neg : Bool} {coeff : Nat} {exp : Int} (hzero : coeff ≠ 0)
    (hsize : ((Nat.toDigits 10 coeff).length : Int) + exp - 1 ≤ contextEmax)
    (hle : roundTo coeff exp ≤ exp) : fix neg coeff exp = some (finite neg coeff exp) := by
  unfold roundTo at hle
  unfold fix
  rw [if_neg hzero]
  simp only
  rw [if_neg (not_lt.mpr hsize), if_pos hle]

theorem fix_of_lt {neg : Bool} {coeff : Nat} {exp : Int} (hzero : coeff ≠ 0)
    (hsize : ((Nat.toDigits 10 coeff).length : Int) + exp - 1 ≤ contextEmax)
    (hlt : exp < roundTo coeff exp) :
    fix neg coeff exp =
      (let c := roundHalfEven coeff (10 ^ (roundTo coeff exp - exp).toNat)
       if contextEmax < (Nat.toDigits 10 c).length + roundTo coeff exp - 1 then none
       else some (finite neg c (roundTo coeff exp))) := by
  unfold roundTo at hlt ⊢
  unfold fix
  rw [if_neg hzero]
  simp only
  rw [if_neg (not_lt.mpr hsize), if_neg (not_le.mpr hlt)]

theorem pow_ten_pos (k : Int) : (0 : ℚ) < 10 ^ k := by positivity

theorem ratValue_zero (neg : Bool) (exp : Int) : ratValue neg 0 exp = 0 := by simp [ratValue]

/-- The digits of one number, at two exponents. -/
theorem eq_mul_pow {c m : Nat} {e k : Int} (h : (c : ℚ) * 10 ^ e = m * 10 ^ k) (hle : e ≤ k) :
    c = m * 10 ^ (k - e).toNat := by
  have hk : k = e + ((k - e).toNat : Int) := by omega
  have hpos := pow_ten_pos e
  have hcast : (c : ℚ) = (m : ℚ) * 10 ^ (k - e).toNat := by
    rw [hk, zpow_add₀ (by norm_num), zpow_natCast] at h
    have hcancel : (c : ℚ) * 10 ^ e = (m * 10 ^ (e + ((k - e).toNat : Int) - e).toNat) * 10 ^ e := by
      rw [h]
      have hsub : e + ((k - e).toNat : Int) - e = ((k - e).toNat : Int) := by ring
      rw [hsub, Int.toNat_natCast]
      ring
    have hres := mul_right_cancel₀ hpos.ne' hcancel
    rw [hres, ← hk]
  exact_mod_cast hcast

/-- What fits is not rounded. -/
theorem fix_of_fits {neg : Bool} {coeff : Nat} {exp : Int} (h : Fits (ratValue neg coeff exp)) :
    ∃ d, fix neg coeff exp = some d ∧ d.value = ratValue neg coeff exp := by
  obtain ⟨hbound, m, k, hvalue, hm, hk⟩ := h
  rw [abs_ratValue] at hbound hvalue
  by_cases hzero : coeff = 0
  · subst hzero
    exact ⟨_, if_pos rfl, by simp [value, ratValue]⟩
  have hdigits := adjusted_le (Nat.pos_of_ne_zero hzero) hbound
  have hsize : ((Nat.toDigits 10 coeff).length : Int) + exp - 1 ≤ contextEmax := by omega
  by_cases hle : roundTo coeff exp ≤ exp
  · exact ⟨_, fix_of_le hzero hsize hle, rfl⟩
  · have hlt : exp < roundTo coeff exp := not_le.mp hle
    -- The short form of the number ends at or above the exponent that is rounded to.
    have hshort : (coeff : ℚ) * 10 ^ exp < 10 ^ ((contextPrec : Int) + k) := by
      rw [hvalue, zpow_add₀ (by norm_num), zpow_natCast]
      have hmq : (m : ℚ) < 10 ^ contextPrec := by exact_mod_cast hm
      exact mul_lt_mul_of_pos_right hmq (pow_ten_pos k)
    have hadjusted := adjusted_le (Nat.pos_of_ne_zero hzero) hshort
    have hround : roundTo coeff exp ≤ k := by
      unfold roundTo
      exact max_le (by omega) hk
    rw [fix_of_lt hzero hsize hlt]
    generalize roundTo coeff exp = r at hlt hround
    obtain ⟨j, hj⟩ : ∃ j : Nat, (j : Int) = k - r := ⟨(k - r).toNat, by omega⟩
    have hcoeff : coeff = m * 10 ^ j * 10 ^ (r - exp).toNat := by
      have hsplit : (k - exp).toNat = j + (r - exp).toNat := by omega
      rw [mul_assoc, ← pow_add, ← hsplit]
      exact eq_mul_pow hvalue (by omega)
    have hexact : roundHalfEven coeff (10 ^ (r - exp).toNat) = m * 10 ^ j := by
      rw [hcoeff]
      exact roundHalfEven_mul _ (by positivity)
    have hsame : ((m * 10 ^ j : Nat) : ℚ) * 10 ^ r = coeff * 10 ^ exp := by
      have hr : r = exp + ((r - exp).toNat : Int) := by omega
      rw [hcoeff]
      conv_lhs => rw [hr, zpow_add₀ (by norm_num), zpow_natCast]
      push_cast
      ring
    have hpos : 0 < m * 10 ^ j := by
      apply Nat.pos_of_ne_zero
      intro hnull
      rw [hnull, Nat.zero_mul] at hcoeff
      exact hzero hcoeff
    have hfits := adjusted_le hpos (hsame.trans_lt hbound)
    refine ⟨finite neg (m * 10 ^ j) r, ?_, ?_⟩
    · simp only [hexact]
      rw [if_neg (by omega)]
    · show ratValue neg (m * 10 ^ j) r = ratValue neg coeff exp
      unfold ratValue
      rw [mul_assoc, mul_assoc, hsame]

/-- What the context gives fits. -/
theorem fits_of_fix {neg : Bool} {coeff : Nat} {exp : Int} {d : Decimal}
    (h : fix neg coeff exp = some d) : Fits d.value := by
  -- Zero fits, whatever its exponent.
  by_cases hzero : coeff = 0
  · have hnull : d.value = 0 := by
      subst hzero
      rw [← Option.some.inj ((if_pos rfl).symm.trans h)]
      exact ratValue_zero _ _
    rw [hnull]
    refine ⟨?_, 0, 0, by simp, by decide, by decide⟩
    rw [abs_zero]
    exact pow_ten_pos _
  -- Above the largest exponent there is no result.
  have hsize : ((Nat.toDigits 10 coeff).length : Int) + exp - 1 ≤ contextEmax := by
    by_contra hlarge
    unfold fix at h
    rw [if_neg hzero] at h
    simp only at h
    rw [if_pos (not_le.mp hlarge)] at h
    cases h
  have hbelow : ∀ {c : Nat} {e : Int}, ((Nat.toDigits 10 c).length : Int) + e - 1 ≤ contextEmax →
      (c : ℚ) * 10 ^ e < 10 ^ (contextEmax + 1) := by
    intro c e hc
    have hlt : (c : ℚ) < 10 ^ (Nat.toDigits 10 c).length := by exact_mod_cast lt_pow_length_toDigits c
    calc (c : ℚ) * 10 ^ e < 10 ^ (Nat.toDigits 10 c).length * 10 ^ e :=
          mul_lt_mul_of_pos_right hlt (pow_ten_pos e)
      _ = 10 ^ (((Nat.toDigits 10 c).length : Int) + e) := by
          rw [zpow_add₀ (by norm_num), zpow_natCast]
      _ ≤ 10 ^ (contextEmax + 1) := zpow_le_zpow_right₀ (by norm_num) (by omega)
  -- The coefficient is short enough already, or it is rounded to the precision.
  by_cases hle : roundTo coeff exp ≤ exp
  · rw [fix_of_le hzero hsize hle] at h
    rw [← Option.some.inj h]
    unfold roundTo at hle
    have hlen : (Nat.toDigits 10 coeff).length ≤ contextPrec := by
      have hmax := le_trans (le_max_left _ _) hle
      omega
    have hcoeff : coeff < 10 ^ contextPrec :=
      (lt_pow_length_toDigits coeff).trans_le (Nat.pow_le_pow_right (by decide) hlen)
    have habs : |(finite neg coeff exp).value| = coeff * 10 ^ exp := abs_ratValue neg coeff exp
    exact ⟨by rw [habs]; exact hbelow hsize, coeff, exp, habs, hcoeff, le_trans (le_max_right _ _) hle⟩
  · have hlt : exp < roundTo coeff exp := not_le.mp hle
    rw [fix_of_lt hzero hsize hlt] at h
    have htiny : contextEtiny ≤ roundTo coeff exp := le_max_right _ _
    have hprec : ((Nat.toDigits 10 coeff).length : Int) + exp - contextPrec ≤ roundTo coeff exp :=
      le_max_left _ _
    generalize roundTo coeff exp = r at h hlt htiny hprec
    have hcoeff : coeff < 10 ^ ((r - exp).toNat + contextPrec) :=
      (lt_pow_length_toDigits coeff).trans_le (Nat.pow_le_pow_right (by decide) (by omega))
    have hc := roundHalfEven_le_pow hcoeff
    simp only at h
    generalize roundHalfEven coeff (10 ^ (r - exp).toNat) = c at h hc
    split at h
    · cases h
    · next hfits =>
      rw [← Option.some.inj h]
      have habs : |(finite neg c r).value| = c * 10 ^ r := abs_ratValue neg c r
      refine ⟨by rw [habs]; exact hbelow (not_lt.mp hfits), ?_⟩
      rcases Nat.lt_or_eq_of_le hc with hsmall | hfull
      · exact ⟨c, r, habs, hsmall, htiny⟩
      · -- Rounding has carried into a new digit.
        refine ⟨10 ^ 27, r + 1, ?_, by decide, by omega⟩
        rw [habs, hfull, zpow_add₀ (by norm_num)]
        unfold contextPrec
        push_cast
        ring

/-- A sum is exact exactly when it fits. -/
theorem add_exact_iff {a b : Decimal} (ha : a.IsFinite) (hb : b.IsFinite) :
    (∃ d, add a b = some d ∧ d.value = a.value + b.value) ↔ Fits (a.value + b.value) := by
  obtain ⟨n, c, e, hadd, hvalue⟩ := add_finite ha hb
  rw [hadd, ← hvalue]
  constructor
  · rintro ⟨d, hd, hsame⟩
    rw [← hsame]
    exact fits_of_fix hd
  · exact fix_of_fits

theorem fits_of_add {a b d : Decimal} (ha : a.IsFinite) (hb : b.IsFinite) (h : add a b = some d) :
    Fits d.value := by
  obtain ⟨n, c, e, hadd, -⟩ := add_finite ha hb
  rw [hadd] at h
  exact fits_of_fix h

/-- What has been added up fits. -/
theorem fits_of_sumFrom {ds : List Decimal} {acc total : Decimal} (hne : ds ≠ []) (hacc : acc.IsFinite)
    (hds : ∀ d ∈ ds, d.IsFinite) (h : sumFrom acc ds = some total) : Fits total.value := by
  induction ds generalizing acc with
  | nil => exact absurd rfl hne
  | cons d ds ih =>
    obtain ⟨t, ht, hrest⟩ := Option.bind_eq_some_iff.mp h
    cases ds with
    | nil =>
      rw [← Option.some.inj hrest]
      exact fits_of_add hacc (hds d List.mem_cons_self) ht
    | cons d' ds =>
      exact ih (by simp) (isFinite_add hacc (hds d List.mem_cons_self) ht)
        (fun x hx => hds x (List.mem_cons_of_mem _ hx)) hrest

/-- Nothing is rounded while every partial sum fits. -/
theorem sumFrom_of_fits {ds : List Decimal} {acc : Decimal} (hacc : acc.IsFinite)
    (hds : ∀ d ∈ ds, d.IsFinite)
    (hfits : ∀ pre, pre <+: ds → Fits (acc.value + (pre.map value).sum)) :
    ∃ total, sumFrom acc ds = some total ∧ total.value = acc.value + (ds.map value).sum := by
  induction ds generalizing acc with
  | nil => exact ⟨acc, rfl, by simp⟩
  | cons d ds ih =>
    have hfirst : Fits (acc.value + d.value) := by
      simpa using hfits [d] (List.prefix_iff_eq_take.mpr rfl)
    obtain ⟨t, ht, hvalue⟩ := (add_exact_iff hacc (hds d List.mem_cons_self)).mpr hfirst
    have hrest := ih (isFinite_add hacc (hds d List.mem_cons_self) ht)
      (fun x hx => hds x (List.mem_cons_of_mem _ hx)) fun pre hpre => by
        have hlonger := hfits (d :: pre) ((List.prefix_cons_inj d).mpr hpre)
        rwa [List.map_cons, List.sum_cons, ← add_assoc, ← hvalue] at hlonger
    obtain ⟨total, htotal, hsum⟩ := hrest
    refine ⟨total, ?_, ?_⟩
    · rw [sumFrom, ht]
      exact htotal
    · rw [hsum, hvalue, List.map_cons, List.sum_cons, add_assoc]

/-! ## Section 3: Fixed-point text -/

/-- Move trailing zeros of the coefficient into the exponent, at most `fuel` of
    them. -/
def stripZeros : Nat → Nat → Int → Nat × Int
  | 0, coeff, exp => (coeff, exp)
  | fuel + 1, coeff, exp =>
    if coeff % 10 = 0 then stripZeros fuel (coeff / 10) (exp + 1) else (coeff, exp)

/-- `d.normalize()`; `none` when a trapped signal is raised. -/
def normalize : Decimal → Option Decimal
  | finite neg coeff exp =>
    match fix neg coeff exp with
    | some (finite neg coeff exp) =>
      if coeff = 0 then some (finite neg 0 0)
      else
        let (c, e) := stripZeros (Nat.toDigits 10 coeff).length coeff exp
        some (finite neg c e)
    | other => other
  | nan true => none
  | d => some d

/-- Digits, and a point among them for a negative exponent. -/
def fixedPoint (coeff : Nat) (exp : Int) : List Char :=
  if 0 ≤ exp then
    if coeff = 0 then ['0'] else Nat.toDigits 10 coeff ++ List.replicate exp.toNat '0'
  else
    let places := (-exp).toNat
    let digits := List.replicate (places + 1 - (Nat.toDigits 10 coeff).length) '0' ++ Nat.toDigits 10 coeff
    digits.take (digits.length - places) ++ '.' :: digits.drop (digits.length - places)

/-- `format(d, "f")` -/
def formatF : Decimal → List Char
  | finite neg coeff exp => (if neg then ['-'] else []) ++ fixedPoint coeff exp
  | infinite neg => (if neg then ['-'] else []) ++ "Infinity".toList
  | nan signaling => if signaling then "sNaN".toList else "NaN".toList

/-- `s.rstrip(c)` for one character. -/
def rstripChar (c : Char) (cs : List Char) : List Char := (cs.reverse.dropWhile (· = c)).reverse

theorem stripZeros_value (fuel coeff : Nat) (exp : Int) :
    ((stripZeros fuel coeff exp).1 : ℚ) * 10 ^ (stripZeros fuel coeff exp).2 = coeff * 10 ^ exp := by
  induction fuel generalizing coeff exp with
  | zero => rfl
  | succ fuel ih =>
    unfold stripZeros
    split
    · next hzero =>
      have hcoeff : coeff = coeff / 10 * 10 := by omega
      have hcast : (coeff : ℚ) = (coeff / 10 : Nat) * 10 := by exact_mod_cast hcoeff
      rw [ih, hcast, zpow_add₀ (by norm_num)]
      ring
    · rfl

theorem stripZeros_last {fuel coeff : Nat} (hzero : coeff ≠ 0) (hfuel : coeff < 10 ^ fuel) (exp : Int) :
    (stripZeros fuel coeff exp).1 % 10 ≠ 0 := by
  induction fuel generalizing coeff exp with
  | zero => omega
  | succ fuel ih =>
    unfold stripZeros
    split
    · next hlast =>
      refine ih (by omega) ?_ (exp + 1)
      rw [pow_succ] at hfuel
      omega
    · next hlast => exact hlast

/-- Nothing is left to strip from the digits. -/
def IsNormal (coeff : Nat) (exp : Int) : Prop := coeff % 10 ≠ 0 ∨ (coeff = 0 ∧ exp = 0)

/-- What fits is normalized without a change of its value. -/
theorem normalize_of_fits {d : Decimal} (hd : d.IsFinite) (hfits : Fits d.value) :
    ∃ neg coeff exp, normalize d = some (finite neg coeff exp) ∧ IsNormal coeff exp ∧
      ratValue neg coeff exp = d.value := by
  obtain ⟨n, c, e, rfl⟩ := hd
  obtain ⟨d, hd, hvalue⟩ := fix_of_fits hfits
  obtain ⟨n', c', e', rfl⟩ := isFinite_fix hd
  by_cases hzero : c' = 0
  · refine ⟨n', 0, 0, by rw [normalize, hd]; simp [hzero], .inr ⟨rfl, rfl⟩, ?_⟩
    have hnull : ratValue n' c' e' = 0 := by rw [hzero, ratValue_zero]
    rw [ratValue_zero, ← hnull]
    exact hvalue
  · refine ⟨n', (stripZeros (Nat.toDigits 10 c').length c' e').1,
      (stripZeros (Nat.toDigits 10 c').length c' e').2, by rw [normalize, hd]; simp only [if_neg hzero],
      .inl (stripZeros_last hzero (lt_pow_length_toDigits c') e'), ?_⟩
    have hsame : ratValue n' c' e' = ratValue n c e := hvalue
    show _ = ratValue n c e
    rw [← hsame]
    unfold ratValue
    rw [mul_assoc, mul_assoc, stripZeros_value]

theorem natOfDigits_eq (cs : List Char) :
    natOfDigits (cs.map asciiDigitValue) = Nat.ofDigitChars 10 cs 0 := by
  rw [natOfDigits, List.foldl_map, Nat.ofDigitChars_eq_foldl]
  rfl

/-- Digits in front of a text that does not go on with a digit. -/
theorem parseUnsigned_digits {ip fp : List Char} (hip : ∀ c ∈ ip, isAsciiDigit c = true)
    (hfp : ∀ c ∈ fp, isAsciiDigit c = true) (hne : ip ≠ []) :
    parseUnsigned (ip ++ '.' :: fp) =
      some (natOfDigits ((ip ++ fp).map asciiDigitValue), -(fp.length : Int)) := by
  have htake : (ip ++ '.' :: fp).takeWhile isAsciiDigit = ip := by
    rw [List.takeWhile_append_of_pos hip, List.takeWhile_cons_of_neg (by decide), List.append_nil]
  have hdrop : (ip ++ '.' :: fp).dropWhile isAsciiDigit = '.' :: fp := by
    rw [List.dropWhile_append_of_pos hip, List.dropWhile_cons_of_neg (by decide)]
  have htake' : fp.takeWhile isAsciiDigit = fp := List.takeWhile_eq_self_iff.mpr hfp
  have hdrop' : fp.dropWhile isAsciiDigit = [] := List.dropWhile_eq_nil_iff.mpr hfp
  simp [parseUnsigned, htake, hdrop, htake', hdrop', hne]

theorem mem_padded {c : Char} {n coeff : Nat}
    (h : c ∈ List.replicate n '0' ++ Nat.toDigits 10 coeff) : isAsciiDigit c = true := by
  rcases List.mem_append.mp h with h | h
  · rw [List.eq_of_mem_replicate h]
    decide
  · exact isAsciiDigit_of_mem_toDigits h

/-- The fixed-point text of a number is read as this number. -/
theorem parseUnsigned_fixedPoint (coeff : Nat) (exp : Int) :
    ∃ c e, parseUnsigned (fixedPoint coeff exp) = some (c, e) ∧ (c : ℚ) * 10 ^ e = coeff * 10 ^ exp := by
  unfold fixedPoint
  by_cases hexp : 0 ≤ exp
  · rw [if_pos hexp]
    by_cases hzero : coeff = 0
    · rw [if_pos hzero]
      exact ⟨0, 0, by decide, by simp [hzero]⟩
    · rw [if_neg hzero]
      have hdigits : ∀ c ∈ Nat.toDigits 10 coeff ++ List.replicate exp.toNat '0', isAsciiDigit c = true := by
        intro c hc
        rcases List.mem_append.mp hc with hc | hc
        · exact isAsciiDigit_of_mem_toDigits hc
        · rw [List.eq_of_mem_replicate hc]
          decide
      refine ⟨_, _, parseUnsigned_of_digits (by simp [Nat.toDigits_ne_nil]) hdigits, ?_⟩
      rw [natOfDigits_eq, Nat.ofDigitChars_append, Nat.ofDigitChars_ten_toDigits,
        Nat.ofDigitChars_replicate_zero]
      have hk : exp = (exp.toNat : Int) := by omega
      conv_rhs => rw [hk, zpow_natCast]
      push_cast
      ring
  · rw [if_neg hexp]
    simp only
    generalize hplaces : (-exp).toNat = places
    generalize hdigits : List.replicate (places + 1 - (Nat.toDigits 10 coeff).length) '0' ++
      Nat.toDigits 10 coeff = digits
    have hall : ∀ c ∈ digits, isAsciiDigit c = true := by
      intro c hc
      rw [← hdigits] at hc
      exact mem_padded hc
    have hlen : places + 1 ≤ digits.length := by
      rw [← hdigits, List.length_append, List.length_replicate]
      omega
    have hip : digits.take (digits.length - places) ≠ [] := by
      intro hnil
      have hzero := congrArg List.length hnil
      rw [List.length_take, List.length_nil] at hzero
      omega
    refine ⟨_, _, parseUnsigned_digits (fun c hc => hall c (List.mem_of_mem_take hc))
      (fun c hc => hall c (List.mem_of_mem_drop hc)) hip, ?_⟩
    rw [List.take_append_drop, natOfDigits_eq, ← hdigits, Nat.ofDigitChars_append,
      Nat.ofDigitChars_replicate_zero, Nat.mul_zero, Nat.ofDigitChars_ten_toDigits, hdigits,
      List.length_drop]
    congr 2
    omega

theorem mem_fixedPoint {coeff : Nat} {exp : Int} {c : Char} (h : c ∈ fixedPoint coeff exp) :
    isAsciiDigit c = true ∨ (c = '.' ∧ exp < 0) := by
  unfold fixedPoint at h
  split at h
  · split at h
    · rw [List.mem_singleton.mp h]
      exact .inl (by decide)
    · left
      rcases List.mem_append.mp h with h | h
      · exact isAsciiDigit_of_mem_toDigits h
      · rw [List.eq_of_mem_replicate h]
        decide
  · next hexp =>
    simp only at h
    rcases List.mem_append.mp h with h | h
    · exact .inl (mem_padded (List.mem_of_mem_take h))
    · rcases List.mem_cons.mp h with rfl | h
      · exact .inr ⟨rfl, not_le.mp hexp⟩
      · exact .inl (mem_padded (List.mem_of_mem_drop h))

/-- The last digit is the last one of the coefficient. -/
theorem getLast?_toDigits (n : Nat) : (Nat.toDigits 10 n).getLast? = some (Nat.digitChar (n % 10)) := by
  by_cases hsmall : n < 10
  · rw [Nat.toDigits_of_lt_base hsmall, Nat.mod_eq_of_lt hsmall]
    rfl
  · have hsplit : n = 10 * (n / 10) + n % 10 := by omega
    have happend := Nat.toDigits_append_toDigits (b := 10) (n := n / 10) (d := n % 10) (by decide)
      (by omega) (Nat.mod_lt _ (by decide))
    rw [← hsplit] at happend
    rw [← happend, Nat.toDigits_of_lt_base (Nat.mod_lt _ (by decide)), List.getLast?_concat]

theorem rstripChar_of_last {c d : Char} {cs : List Char} (h : cs.getLast? = some d) (hne : d ≠ c) :
    rstripChar c cs = cs := by
  unfold rstripChar
  rw [List.getLast?_eq_head?_reverse] at h
  obtain ⟨rest, hrest⟩ := List.head?_eq_some_iff.mp h
  rw [hrest, List.dropWhile_cons_of_neg (by simpa using hne), ← hrest, List.reverse_reverse]

/-- The last character of a normal number with places is a digit other than
    zero. -/
theorem getLast?_fixedPoint {coeff : Nat} {exp : Int} (hexp : exp < 0) (hlast : coeff % 10 ≠ 0) :
    ∃ d, (fixedPoint coeff exp).getLast? = some d ∧ d ≠ '0' ∧ d ≠ '.' := by
  have hdigit : ∀ d < 10, d ≠ 0 → Nat.digitChar d ≠ '0' ∧ Nat.digitChar d ≠ '.' := by decide
  refine ⟨Nat.digitChar (coeff % 10), ?_, hdigit _ (Nat.mod_lt _ (by decide)) hlast⟩
  unfold fixedPoint
  rw [if_neg (not_le.mpr hexp)]
  simp only
  generalize hplaces : (-exp).toNat = places
  have hpos : 0 < places := by omega
  generalize hdigits : List.replicate (places + 1 - (Nat.toDigits 10 coeff).length) '0' ++
    Nat.toDigits 10 coeff = digits
  have hlen : places + 1 ≤ digits.length := by
    rw [← hdigits, List.length_append, List.length_replicate]
    omega
  have hdrop : digits.drop (digits.length - places) ≠ [] := by
    intro hnil
    have hzero := congrArg List.length hnil
    rw [List.length_drop, List.length_nil] at hzero
    omega
  have hend : digits.getLast? = some (Nat.digitChar (coeff % 10)) := by
    rw [← hdigits, List.getLast?_append, getLast?_toDigits]
    rfl
  rw [List.getLast?_append, List.getLast?_cons_of_ne_nil hdrop, List.getLast?_drop, if_neg (by omega), hend]
  rfl

/-- A product is exact when it fits. -/
theorem mul_of_fits {a b : Decimal} {p q : ℚ} (ha : a.Denotes p) (hb : b.Denotes q) (h : Fits (p * q)) :
    ∃ d, mul a b = some d ∧ d.Denotes (p * q) := by
  obtain ⟨n₁, c₁, e₁, rfl, rfl⟩ := ha
  obtain ⟨n₂, c₂, e₂, rfl, rfl⟩ := hb
  have hvalue : ratValue (n₁ != n₂) (c₁ * c₂) (e₁ + e₂) = ratValue n₁ c₁ e₁ * ratValue n₂ c₂ e₂ := by
    unfold ratValue
    rw [zpow_add₀ (by norm_num)]
    cases n₁ <;> cases n₂ <;> push_cast <;> simp <;> ring
  rw [← hvalue] at h ⊢
  obtain ⟨d, hd, hsame⟩ := fix_of_fits h
  exact ⟨d, hd, denotes_iff.mpr ⟨isFinite_fix hd, hsame⟩⟩

end Decimal

/-! ## Section 4: Numbers in texts -/

/-- The text is read as this number. -/
def TextDenotes (u : UnicodeData) (text : String) (q : ℚ) : Prop :=
  ∃ d, decimalOfStr u text = some d ∧ d.Denotes q

theorem textDenotes_unique {u : UnicodeData} {text : String} {p q : ℚ} (hp : TextDenotes u text p)
    (hq : TextDenotes u text q) : p = q := by
  obtain ⟨d, hd, hdenotes⟩ := hp
  obtain ⟨d', hd', hdenotes'⟩ := hq
  have hsame : d = d' := Option.some.inj (hd.symm.trans hd')
  subst hsame
  exact hdenotes.unique hdenotes'

end Py
