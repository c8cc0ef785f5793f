import Mathlib.Algebra.Order.Field.Basic
import Mathlib.Algebra.Order.Field.Power
import Mathlib.Data.Rat.Floor
import Mathlib.Tactic.Positivity
import Mathlib.Tactic.Ring
import Mathlib.Tactic.Linarith

/-! # Numbers of the interpreter

    * **Binary floats**: correct rounding of a rational to binary64, which is
      what the literals of a JSON text and the true division of two integers
      denote.
    * **Decimals**: signed coefficient and exponent as in the `decimal`
      module, within the limits of its constructor. Comparison is exact;
      products are rounded to the 28 digits of the default context. -/

namespace Py

/-! ## Section 1: Rounding -/

/-- `n / d` rounded to the nearest natural number, ties to even. -/
def roundHalfEven (n d : Nat) : Nat :=
  let q := n / d
  let r := n % d
  if 2 * r < d then q
  else if d < 2 * r then q + 1
  else if q % 2 = 0 then q else q + 1

/-- The exponent `k` with `2 ^ k ≤ n / d < 2 ^ (k + 1)`. -/
def floorLog2 (n d : Nat) : Int :=
  let k : Int := (n.log2 : Int) - (d.log2 : Int)
  if d * 2 ^ k.toNat ≤ n * 2 ^ (-k).toNat then k else k - 1

/-- The binary64 value nearest to `q`; `none` when it overflows. -/
def roundBinary64 (q : ℚ) : Option ℚ :=
  if q = 0 then some 0
  else
    let n := q.num.natAbs
    let e : Int := max (floorLog2 n q.den - 52) (-1074)
    let m : Nat := roundHalfEven (n * 2 ^ (-e).toNat) (q.den * 2 ^ e.toNat)
    let v : ℚ := (m * 2 ^ e.toNat : Nat) / (2 ^ (-e).toNat : Nat)
    if v < 2 ^ 1024 then some (if q < 0 then -v else v) else none

/-! ## Section 2: Decimal literals -/

def isAsciiDigit (c : Char) : Bool := '0' ≤ c && c ≤ '9'

def asciiDigitValue (c : Char) : Nat := c.toNat - 48

def natOfDigits (ds : List Nat) : Nat := ds.foldl (fun acc d => 10 * acc + d) 0

/-- The exponent part of a literal, without its `e`. -/
def parseExponent : List Char → Option Int
  | '-' :: cs => if cs ≠ [] && cs.all isAsciiDigit then
      some (-(natOfDigits (cs.map asciiDigitValue) : Int)) else none
  | '+' :: cs => if cs ≠ [] && cs.all isAsciiDigit then
      some (natOfDigits (cs.map asciiDigitValue)) else none
  | cs => if cs ≠ [] && cs.all isAsciiDigit then
      some (natOfDigits (cs.map asciiDigitValue)) else none

/-- Unsigned literal `digits [. digits] [e exponent]` as coefficient and
    exponent of ten. -/
def parseUnsigned (cs : List Char) : Option (Nat × Int) :=
  let ip := cs.takeWhile isAsciiDigit
  let r₁ := cs.dropWhile isAsciiDigit
  let fp := match r₁ with
    | '.' :: r => r.takeWhile isAsciiDigit
    | _ => []
  let r₂ := match r₁ with
    | '.' :: r => r.dropWhile isAsciiDigit
    | r => r
  if ip = [] ∧ fp = [] then none
  else
    let coeff := natOfDigits ((ip ++ fp).map asciiDigitValue)
    match r₂ with
    | [] => some (coeff, -(fp.length : Int))
    | e :: r₃ =>
      if e = 'e' ∨ e = 'E' then (parseExponent r₃).map fun x => (coeff, x - fp.length) else none

/-! ## Section 3: Decimals -/

inductive Decimal where
  | finite (neg : Bool) (coeff : Nat) (exp : Int)
  | infinite (neg : Bool)
  | nan (signaling : Bool)
  deriving DecidableEq, Repr

namespace Decimal

/-- The number a finite decimal stands for. -/
def ratValue (neg : Bool) (coeff : Nat) (exp : Int) : ℚ :=
  (if neg then -1 else 1) * coeff * 10 ^ exp

/-- `d` stands for the number `q`. -/
def Denotes (d : Decimal) (q : ℚ) : Prop :=
  ∃ neg coeff exp, d = finite neg coeff exp ∧ ratValue neg coeff exp = q

/-- Coefficient at the exponent `m`, for `m` at most the exponent. -/
def scaled (neg : Bool) (coeff : Nat) (exp m : Int) : Int :=
  (if neg then -1 else 1) * (coeff * 10 ^ (exp - m).toNat)

/-- Exact comparison; `none` when one side is not a number. -/
def cmp : Decimal → Decimal → Option Ordering
  | finite n₁ c₁ e₁, finite n₂ c₂ e₂ =>
    let m := min e₁ e₂
    some (compare (scaled n₁ c₁ e₁ m) (scaled n₂ c₂ e₂ m))
  | infinite n₁, infinite n₂ =>
    some (if n₁ = n₂ then .eq else if n₁ then .lt else .gt)
  | infinite n, finite _ _ _ => some (if n then .lt else .gt)
  | finite _ _ _, infinite n => some (if n then .gt else .lt)
  | _, _ => none

/-- `a == b`; `none` when a signaling NaN is compared. -/
def equals : Decimal → Decimal → Option Bool
  | nan true, _ => none
  | _, nan true => none
  | a, b => some (cmp a b = some .eq)

theorem ratValue_eq_scaled (neg : Bool) (coeff : Nat) {exp m : Int} (h : m ≤ exp) :
    ratValue neg coeff exp = (scaled neg coeff exp m : ℚ) * 10 ^ m := by
  have hexp : exp = ((exp - m).toNat : Int) + m := by omega
  have hpow : (10 : ℚ) ^ exp = 10 ^ (exp - m).toNat * 10 ^ m := by
    conv_lhs => rw [hexp]
    rw [zpow_add₀ (by norm_num), zpow_natCast]
  unfold ratValue scaled
  rw [hpow]
  cases neg <;> push_cast <;> simp <;> ring

/-- Comparison of finite decimals is comparison of their numbers. -/
theorem cmp_finite (n₁ : Bool) (c₁ : Nat) (e₁ : Int) (n₂ : Bool) (c₂ : Nat) (e₂ : Int) :
    cmp (finite n₁ c₁ e₁) (finite n₂ c₂ e₂) =
      some (compare (ratValue n₁ c₁ e₁) (ratValue n₂ c₂ e₂)) := by
  have h₁ := ratValue_eq_scaled n₁ c₁ (min_le_left e₁ e₂)
  have h₂ := ratValue_eq_scaled n₂ c₂ (min_le_right e₁ e₂)
  have hpos : (0 : ℚ) < 10 ^ min e₁ e₂ := by positivity
  simp only [cmp, Option.some.injEq]
  rcases lt_trichotomy (scaled n₁ c₁ e₁ (min e₁ e₂)) (scaled n₂ c₂ e₂ (min e₁ e₂)) with h | h | h
  · have hq : ratValue n₁ c₁ e₁ < ratValue n₂ c₂ e₂ := by
      rw [h₁, h₂]
      exact mul_lt_mul_of_pos_right (by exact_mod_cast h) hpos
    rw [compare_lt_iff_lt.mpr h, compare_lt_iff_lt.mpr hq]
  · have hq : ratValue n₁ c₁ e₁ = ratValue n₂ c₂ e₂ := by rw [h₁, h₂, h]
    rw [compare_eq_iff_eq.mpr h, compare_eq_iff_eq.mpr hq]
  · have hq : ratValue n₂ c₂ e₂ < ratValue n₁ c₁ e₁ := by
      rw [h₁, h₂]
      exact mul_lt_mul_of_pos_right (by exact_mod_cast h) hpos
    rw [compare_gt_iff_gt.mpr h, compare_gt_iff_gt.mpr hq]

theorem cmp_eq_iff {d₁ d₂ : Decimal} {q : ℚ} (h₂ : d₂.Denotes q) :
    cmp d₁ d₂ = some .eq ↔ d₁.Denotes q := by
  obtain ⟨n₂, c₂, e₂, rfl, rfl⟩ := h₂
  constructor
  · intro h
    cases d₁ with
    | finite n₁ c₁ e₁ =>
      rw [cmp_finite, Option.some.injEq, compare_eq_iff_eq] at h
      exact ⟨n₁, c₁, e₁, rfl, h⟩
    | infinite n =>
      cases n <;> simp [cmp] at h
    | nan signaling => simp [cmp] at h
  · rintro ⟨n₁, c₁, e₁, rfl, h⟩
    rw [cmp_finite, h, compare_eq_iff_eq.mpr rfl]

theorem Denotes.unique {d : Decimal} {p q : ℚ} (hp : d.Denotes p) (hq : d.Denotes q) : p = q := by
  obtain ⟨n, c, e, rfl, rfl⟩ := hp
  obtain ⟨n', c', e', h, rfl⟩ := hq
  cases h
  rfl

/-- What does not compare below a number is a number that is not below it, or
    positive infinity. -/
theorem cmp_ne_lt {d₁ d₂ : Decimal} {q : ℚ} {o : Ordering} (h₂ : d₂.Denotes q)
    (h : cmp d₁ d₂ = some o) (ho : o ≠ .lt) :
    d₁ = infinite false ∨ ∃ p, d₁.Denotes p ∧ q ≤ p := by
  obtain ⟨n₂, c₂, e₂, rfl, rfl⟩ := h₂
  cases d₁ with
  | finite n₁ c₁ e₁ =>
    rw [cmp_finite, Option.some.injEq] at h
    refine .inr ⟨ratValue n₁ c₁ e₁, ⟨n₁, c₁, e₁, rfl, rfl⟩, ?_⟩
    by_contra hlt
    apply ho
    rw [← h, compare_lt_iff_lt.mpr (not_le.mp hlt)]
  | infinite n =>
    cases n with
    | false => exact .inl rfl
    | true =>
      have hlt : o = .lt := (Option.some.inj h).symm
      exact absurd hlt ho
  | nan signaling => cases h

/-! ### The default context -/

def contextPrec : Nat := 28

def contextEmax : Int := 999999

/-- Smallest exponent of a subnormal number of the context. -/
def contextEtiny : Int := -999999 - 28 + 1

/-- A product or sum brought into the default context: rounded half-even to
    `contextPrec` digits; `none` is the overflow signal. -/
def fix (neg : Bool) (coeff : Nat) (exp : Int) : Option Decimal :=
  if coeff = 0 then some (finite neg 0 (min (max exp contextEtiny) contextEmax))
  else
    let digits : Int := (Nat.toDigits 10 coeff).length
    let expMin := max (digits + exp - contextPrec) contextEtiny
    if contextEmax < digits + exp - 1 then none
    else if expMin ≤ exp then some (finite neg coeff exp)
    else
      let c := roundHalfEven coeff (10 ^ (expMin - exp).toNat)
      if contextEmax < (Nat.toDigits 10 c).length + expMin - 1 then none
      else some (finite neg c expMin)

/-- `a * b` in the default context; `none` when a trapped signal is raised. -/
def mul : Decimal → Decimal → Option Decimal
  | finite n₁ c₁ e₁, finite n₂ c₂ e₂ => fix (n₁ != n₂) (c₁ * c₂) (e₁ + e₂)
  | infinite n₁, infinite n₂ => some (infinite (n₁ != n₂))
  | infinite n₁, finite n₂ c₂ _ => if c₂ = 0 then none else some (infinite (n₁ != n₂))
  | finite n₁ c₁ _, infinite n₂ => if c₁ = 0 then none else some (infinite (n₁ != n₂))
  | _, _ => none

/-! ### The limits of the constructor -/

/-- Largest exponent of a leading digit. -/
def maxEmax : Int := 999999999999999999

/-- Smallest exponent of a last digit. -/
def minEtiny : Int := -1999999999999999997

/-- The constructor can hold the number as it is written. -/
def representable (coeff : Nat) (exp : Int) : Bool :=
  minEtiny ≤ exp && exp + (Nat.toDigits 10 coeff).length - 1 ≤ maxEmax

end Decimal

end Py
