import XrplX402.Core.WireAssets
import XrplX402.Core.SpelledNames
import XrplX402.Payer.Pay
import XrplX402.Py.DecimalSum

/-! # The budget

    The budget adds up the amounts of the paid receipts of an asset, in decimals
    of 28 digits that start from the integer zero.

    * `budgetSummary`: what is spent and what remains, as texts.
    * `ExactBudget`: both texts denote the exact rational numbers.
    * `Accountable`: the receipts and caps for which they do.
    * `exactBudget_iff`: they do, and for no other receipts unless the deviations
      can make up for each other. -/

namespace XrplX402.Payer

open Py

variable {env : Env}

/-! ## Section 1: The code -/

/-- The condition of the sum: a paid receipt of the network, the normalized code
    and the issuer. -/
def countsToward (env : Env) (network asset : String) (issuer : Option String) (record : ReceiptRecord) :
    Except Exc Bool :=
  if record.state = .paid ∧ record.accepted.network = network then do
    let code ← normalizeCurrencyCode env record.accepted.asset
    let wanted ← normalizeCurrencyCode env asset
    return decide (code = wanted ∧ issuerOf record.accepted = optStr issuer)
  else .ok false

def decimalSignal : Exc := ⟨.decimalException, "trapped decimal signal"⟩

/-- Decimal arithmetic that may signal. -/
def orSignal {α : Type} : Option α → Except Exc α
  | some a => .ok a
  | none => .error decimalSignal

def zero : Decimal := .finite false 0 0

/-- `sum(...)` over the records; the integer 0 it starts from is `none`. -/
def spentFrom (env : Env) (network asset : String) (issuer : Option String) (spent : Option Decimal) :
    List ReceiptRecord → Except Exc (Option Decimal)
  | [] => .ok spent
  | record :: records => do
    let counted ← countsToward env network asset issuer record
    if counted = false then spentFrom env network asset issuer spent records
    else do
      let amount ← decimal env record.accepted.amount
      let total ← orSignal (Decimal.add (spent.getD zero) amount)
      spentFrom env network asset issuer (some total) records

/-- `_format_decimal(value)` -/
def formatDecimal (value : Decimal) : Except Exc String := do
  let normalized ← orSignal value.normalize
  let text := Decimal.formatF normalized
  let trimmed := if '.' ∈ text then Decimal.rstripChar '.' (Decimal.rstripChar '0' text) else text
  return if trimmed = [] then "0" else String.ofList trimmed

/-- `_format_decimal(spent)`; the integer 0 is no `Decimal`. -/
def formatSpent : Option Decimal → Except Exc String
  | some spent => formatDecimal spent
  | none => .error ⟨.attributeError, "'int' object has no attribute 'normalize'"⟩

structure BudgetSummary where
  network : String
  asset : String
  issuer : Option String
  spent : String
  maxSpend : Option String
  remaining : Option String
  deriving DecidableEq

/-- `_format_decimal(value) if value is not None else None` -/
def formatOptional : Option Decimal → Except Exc (Option String)
  | none => .ok none
  | some value => (formatDecimal value).map some

/-- `max_spend - spent`, when there is a cap. -/
def remainingOf (maxSpend spent : Option Decimal) : Except Exc (Option Decimal) :=
  match maxSpend with
  | none => .ok none
  | some cap => (orSignal (cap.sub (spent.getD zero))).map some

/-- `budget_summary(network=..., asset=..., issuer=..., max_spend=...)` over all
    records. -/
def budgetSummary (env : Env) (records : List ReceiptRecord) (network asset : String)
    (issuer : Option String) (maxSpend : Option Decimal) : Except Exc BudgetSummary := do
  let spent ← spentFrom env network asset issuer none records
  let remaining ← remainingOf maxSpend spent
  let spentText ← formatSpent spent
  let maxText ← formatOptional maxSpend
  let remainingText ← formatOptional remaining
  return ⟨network, asset, issuer, spentText, maxText, remainingText⟩

/-! ## Section 2: What the budget is about -/

/-- The currency of the ledger that a written code stands for. -/
def writtenCurrency (env : Env) (code : String) : Option (List Nat) :=
  match xrplCurrencyCode env code with
  | .ok wire => ledgerCurrency wire
  | .error _ => none

/-- The receipt is a paid one of the network, the currency and the issuer. -/
def Spends (env : Env) (network asset : String) (issuer : Option String) (record : ReceiptRecord) : Prop :=
  record.state = .paid ∧ record.accepted.network = network ∧
    ((writtenCurrency env asset).isSome = true ∧
      writtenCurrency env record.accepted.asset = writtenCurrency env asset) ∧
    issuerOf record.accepted = optStr issuer

instance (network asset : String) (issuer : Option String) (record : ReceiptRecord) :
    Decidable (Spends env network asset issuer record) :=
  inferInstanceAs (Decidable (_ ∧ _ ∧ _ ∧ _))

/-- `Decimal(record.accepted.amount)` -/
def amountDecimal (env : Env) (record : ReceiptRecord) : Decimal :=
  (decimalOfStr env.unicode record.accepted.amount).getD (.nan false)

/-- What has been spent of an asset. -/
def spentTotal (env : Env) (records : List ReceiptRecord) (network asset : String)
    (issuer : Option String) : ℚ :=
  ((records.filter fun r => Spends env network asset issuer r).map fun r => (amountDecimal env r).value).sum

/-- The budget is returned, and its texts denote the exact numbers. -/
def ExactBudget (env : Env) (records : List ReceiptRecord) (network asset : String)
    (issuer : Option String) (maxSpend : Option Decimal) : Prop :=
  ∃ summary, budgetSummary env records network asset issuer maxSpend = .ok summary ∧
    TextDenotes env.unicode summary.spent (spentTotal env records network asset issuer) ∧
    ∀ cap ∈ maxSpend, ∃ text, summary.remaining = some text ∧
      TextDenotes env.unicode text (cap.value - spentTotal env records network asset issuer)

/-- The amounts that the code adds up, in order. -/
def countedAmounts (env : Env) (records : List ReceiptRecord) (network asset : String)
    (issuer : Option String) : List Decimal :=
  (records.filter fun r => countsToward env network asset issuer r = .ok true).map (amountDecimal env)

/-- The receipt is a paid one of the network and the issuer. -/
def Candidate (network : String) (issuer : Option String) (record : ReceiptRecord) : Prop :=
  record.state = .paid ∧ record.accepted.network = network ∧ issuerOf record.accepted = optStr issuer

/-- The two written codes have one normal form. -/
def SameName (env : Env) (a b : String) : Prop :=
  ∃ name, normalizeCurrencyCode env a = .ok name ∧ normalizeCurrencyCode env b = .ok name

/-- The two written codes stand for one currency of the ledger. -/
def SameCurrency (env : Env) (a b : String) : Prop :=
  (writtenCurrency env b).isSome = true ∧ writtenCurrency env a = writtenCurrency env b

/-- No code that is compared is blank; something was spent of the asset; codes
    that agree are of one currency, and the other way round; no total on the way
    needs more than 28 digits; and the rest under the cap does not either. -/
structure Accountable (env : Env) (records : List ReceiptRecord) (network asset : String)
    (issuer : Option String) (maxSpend : Option Decimal) : Prop where
  readable : ∀ r ∈ records, r.state = .paid → r.accepted.network = network →
    env.unicode.upperStr (strip r.accepted.asset) ≠ "" ∧ env.unicode.upperStr (strip asset) ≠ ""
  spent : ∃ r ∈ records, Spends env network asset issuer r
  agreed : ∀ r ∈ records, Candidate network issuer r →
    (SameName env r.accepted.asset asset ↔ SameCurrency env r.accepted.asset asset)
  digits : ∀ pre, pre <+: records → Decimal.Fits (spentTotal env pre network asset issuer)
  cap : ∀ cap ∈ maxSpend, cap.normalize.isSome = true ∧
    Decimal.Fits (cap.value - spentTotal env records network asset issuer)

/-- What the code gets wrong does not cancel out: the amounts are positive, codes
    are only taken for one another or only told apart, and no sum of what the
    code counts needs more than 28 digits. -/
structure Steady (env : Env) (records : List ReceiptRecord) (network asset : String)
    (issuer : Option String) : Prop where
  positive : ∀ r ∈ records, Candidate network issuer r → 0 < (amountDecimal env r).value
  oneSided : (∀ r ∈ records, Candidate network issuer r →
      SameName env r.accepted.asset asset → SameCurrency env r.accepted.asset asset) ∨
    ∀ r ∈ records, Candidate network issuer r →
      SameCurrency env r.accepted.asset asset → SameName env r.accepted.asset asset
  digits : ∀ pre, pre <+: records →
    Decimal.Fits ((countedAmounts env pre network asset issuer).map Decimal.value).sum

/-- The sums that the code forms come out right. -/
structure Balanced (env : Env) (records : List ReceiptRecord) (network asset : String)
    (issuer : Option String) (maxSpend : Option Decimal) : Prop where
  readable : ∀ r ∈ records, r.state = .paid → r.accepted.network = network →
    env.unicode.upperStr (strip r.accepted.asset) ≠ "" ∧ env.unicode.upperStr (strip asset) ≠ ""
  counted : countedAmounts env records network asset issuer ≠ []
  bounded : (Decimal.sumFrom zero (countedAmounts env records network asset issuer)).isSome = true
  balanced : ((countedAmounts env records network asset issuer).map Decimal.value).sum -
      spentTotal env records network asset issuer +
      (Decimal.roundingErrors zero (countedAmounts env records network asset issuer)).sum = 0
  cap : ∀ cap ∈ maxSpend, cap.normalize.isSome = true ∧
    Decimal.Fits (cap.value - spentTotal env records network asset issuer)

/-! ## Section 3: The text of a number -/

/-- A literal with a minus sign is read as a negative number. -/
theorem decimalOfStr_minus (u : UnicodeData) {cs : List Char} {coeff : Nat} {exp : Int}
    (hchars : ∀ c ∈ cs, isAmountChar c = true) (hparse : parseUnsigned cs = some (coeff, exp)) :
    decimalOfStr u (String.ofList ('-' :: cs)) = some (.finite true coeff exp) := by
  have hplain : ∀ c ∈ '-' :: cs, isSpace c = false ∧ c ≠ '_' ∧ asciiNumberChar u c = some c := by
    intro c hc
    rcases List.mem_cons.mp hc with rfl | hc
    · refine ⟨by decide, by decide, ?_⟩
      unfold asciiNumberChar
      rw [u.decimal_ascii '-' (by decide)]
      decide
    · have hamount := isAmountChar_plain (hchars c hc)
      exact ⟨hamount.1, hamount.2.1, asciiNumberChar_of_isAmountChar u (hchars c hc)⟩
  have hstrip : stripChars isSpace ('-' :: cs) = '-' :: cs :=
    stripChars_of_none fun c hc => (hplain c hc).1
  have hfilter : ('-' :: cs).filter (· ≠ '_') = '-' :: cs :=
    List.filter_eq_self.mpr fun c hc => by simpa using (hplain c hc).2.1
  unfold decimalOfStr
  rw [String.toList_ofList, hstrip, hfilter, List.mapM_cons, (hplain '-' (by simp)).2.2,
    mapM_asciiNumberChar u hchars]
  cases cs with
  | nil => cases hparse
  | cons c cs =>
    obtain ⟨-, -, -, -, hi, hn, hs⟩ := isAmountChar_plain (hchars c (by simp))
    have hexp := hasExponent_of_isAmountChar hchars
    simp [hi, hn, hs, hparse, hexp]

theorem amountChar_of_mem_fixedPoint {coeff : Nat} {exp : Int} {c : Char}
    (h : c ∈ Decimal.fixedPoint coeff exp) : isAmountChar c = true := by
  rcases Decimal.mem_fixedPoint h with hdigit | ⟨rfl, -⟩
  · simp [isAmountChar, hdigit]
  · decide

/-- The fixed-point text of a finite number is read as this number. -/
theorem textDenotes_formatF (env : Env) (neg : Bool) (coeff : Nat) (exp : Int) :
    TextDenotes env.unicode (String.ofList (Decimal.formatF (.finite neg coeff exp)))
      (Decimal.ratValue neg coeff exp) := by
  obtain ⟨c, e, hparse, hvalue⟩ := Decimal.parseUnsigned_fixedPoint coeff exp
  have hchars : ∀ c ∈ Decimal.fixedPoint coeff exp, isAmountChar c = true :=
    fun c hc => amountChar_of_mem_fixedPoint hc
  have hsame : Decimal.ratValue neg coeff exp = Decimal.ratValue neg c e := by
    unfold Decimal.ratValue
    rw [mul_assoc, mul_assoc, hvalue]
  refine ⟨.finite neg c e, ?_, neg, c, e, rfl, hsame.symm⟩
  cases neg with
  | true => exact decimalOfStr_minus env.unicode hchars hparse
  | false =>
    refine decimalOfStr_of_parseUnsigned env.unicode ?_ ?_
    · rw [String.toList_ofList]
      exact hchars
    · rw [String.toList_ofList]
      exact hparse

/-- Trimming does not change the text of a normal number. -/
theorem trimmed_of_normal {neg : Bool} {coeff : Nat} {exp : Int} (h : Decimal.IsNormal coeff exp)
    (hpoint : '.' ∈ Decimal.formatF (.finite neg coeff exp)) :
    Decimal.rstripChar '.' (Decimal.rstripChar '0' (Decimal.formatF (.finite neg coeff exp))) =
      Decimal.formatF (.finite neg coeff exp) := by
  have hexp : exp < 0 := by
    rcases List.mem_append.mp hpoint with hsign | hbody
    · cases neg <;> simp at hsign
    · rcases Decimal.mem_fixedPoint hbody with hdigit | ⟨-, hexp⟩
      · exact absurd hdigit (by decide)
      · exact hexp
  have hlast : coeff % 10 ≠ 0 := by
    rcases h with hlast | ⟨-, rfl⟩
    · exact hlast
    · omega
  obtain ⟨d, hd, hzero, hdot⟩ := Decimal.getLast?_fixedPoint hexp hlast
  have hend : (Decimal.formatF (.finite neg coeff exp)).getLast? = some d := by
    show (_ ++ Decimal.fixedPoint coeff exp).getLast? = some d
    rw [List.getLast?_append, hd]
    rfl
  rw [Decimal.rstripChar_of_last hend hzero, Decimal.rstripChar_of_last hend hdot]

theorem formatF_ne_nil (neg : Bool) (coeff : Nat) (exp : Int) :
    Decimal.formatF (.finite neg coeff exp) ≠ [] := by
  intro hnil
  have hbody : Decimal.fixedPoint coeff exp = [] := (List.append_eq_nil_iff.mp hnil).2
  obtain ⟨c, e, hparse, -⟩ := Decimal.parseUnsigned_fixedPoint coeff exp
  rw [hbody] at hparse
  cases hparse

/-- A number of at most 28 digits is printed without a change of its value. -/
theorem formatDecimal_of_fits (env : Env) {d : Decimal} (hd : d.IsFinite) (hfits : Decimal.Fits d.value) :
    ∃ text, formatDecimal d = .ok text ∧ TextDenotes env.unicode text d.value := by
  obtain ⟨neg, coeff, exp, hnormal, hform, hvalue⟩ := Decimal.normalize_of_fits hd hfits
  refine ⟨String.ofList (Decimal.formatF (.finite neg coeff exp)), ?_, ?_⟩
  · have hkept : (if '.' ∈ Decimal.formatF (.finite neg coeff exp) then
        Decimal.rstripChar '.' (Decimal.rstripChar '0' (Decimal.formatF (.finite neg coeff exp)))
        else Decimal.formatF (.finite neg coeff exp)) = Decimal.formatF (.finite neg coeff exp) := by
      split
      · next hpoint => exact trimmed_of_normal hform hpoint
      · rfl
    unfold formatDecimal
    rw [hnormal]
    refine bind_eq_ok.mpr ⟨_, rfl, ?_⟩
    simp only [hkept, if_neg (formatF_ne_nil neg coeff exp)]
    rfl
  · rw [← hvalue]
    exact textDenotes_formatF env neg coeff exp

/-- Only a number that cannot be normalized is not printed. -/
theorem exists_formatDecimal_iff {d : Decimal} :
    (∃ text, formatDecimal d = .ok text) ↔ d.normalize.isSome = true := by
  unfold formatDecimal
  cases d.normalize with
  | none =>
    refine iff_of_false ?_ (by simp)
    rintro ⟨text, h⟩
    cases h
  | some normalized => exact iff_of_true ⟨_, rfl⟩ rfl

/-! ## Section 4: The sum over the receipts -/

/-- A code is compared only when neither is blank. -/
theorem exists_countsToward_iff {network asset : String} {issuer : Option String} {r : ReceiptRecord} :
    (∃ b, countsToward env network asset issuer r = .ok b) ↔
      (r.state = .paid → r.accepted.network = network →
        env.unicode.upperStr (strip r.accepted.asset) ≠ "" ∧ env.unicode.upperStr (strip asset) ≠ "") := by
  unfold countsToward
  by_cases hpaid : r.state = .paid ∧ r.accepted.network = network
  · rw [if_pos hpaid]
    constructor
    · rintro ⟨b, h⟩ - -
      obtain ⟨code, hcode, h⟩ := bind_eq_ok.mp h
      obtain ⟨wanted, hwanted, -⟩ := bind_eq_ok.mp h
      exact ⟨exists_normalize_iff.mp ⟨code, hcode⟩, exists_normalize_iff.mp ⟨wanted, hwanted⟩⟩
    · intro h
      obtain ⟨hasset, hwanted⟩ := h hpaid.1 hpaid.2
      obtain ⟨code, hcode⟩ := exists_normalize_iff.mpr hasset
      obtain ⟨wanted, hwanted⟩ := exists_normalize_iff.mpr hwanted
      exact ⟨_, bind_eq_ok.mpr ⟨code, hcode, bind_eq_ok.mpr ⟨wanted, hwanted, rfl⟩⟩⟩
  · rw [if_neg hpaid]
    exact iff_of_true ⟨false, rfl⟩ fun hstate hnetwork => absurd ⟨hstate, hnetwork⟩ hpaid

/-- What the amounts add up to, from `spent` on. -/
def runningSum (spent : Option Decimal) (amounts : List Decimal) : Option (Option Decimal) :=
  if amounts = [] then some spent else (Decimal.sumFrom (spent.getD zero) amounts).map some

theorem decimal_eq_ok {text : String} {d : Decimal} :
    decimal env text = .ok d ↔ decimalOfStr env.unicode text = some d := by
  unfold decimal
  cases decimalOfStr env.unicode text with
  | none => simp
  | some d' => simp

theorem orSignal_eq_ok {α : Type} {x : Option α} {a : α} : orSignal x = .ok a ↔ x = some a := by
  cases x <;> simp [orSignal]

theorem map_eq_ok {ε α β : Type} {x : Except ε α} {f : α → β} {b : β} :
    x.map f = .ok b ↔ ∃ a, x = .ok a ∧ f a = b := by
  cases x <;> simp [Except.map]

theorem runningSum_cons (spent : Option Decimal) (d : Decimal) (ds : List Decimal) :
    runningSum spent (d :: ds) =
      (Decimal.add (spent.getD zero) d).bind fun total => runningSum (some total) ds := by
  unfold runningSum
  rw [if_neg (by simp), Decimal.sumFrom]
  cases Decimal.add (spent.getD zero) d with
  | none => rfl
  | some total =>
    cases ds with
    | nil => rfl
    | cons d' ds => rw [Option.bind_some, Option.bind_some, if_neg (by simp), Option.getD_some]

/-- The loop adds up the amounts that are counted. -/
theorem spentFrom_eq_ok {network asset : String} {issuer : Option String} {records : List ReceiptRecord}
    {spent out : Option Decimal}
    (hnumbers : ∀ r ∈ records, (decimalOfStr env.unicode r.accepted.amount).isSome = true) :
    spentFrom env network asset issuer spent records = .ok out ↔
      (∀ r ∈ records, ∃ b, countsToward env network asset issuer r = .ok b) ∧
        runningSum spent (countedAmounts env records network asset issuer) = some out := by
  induction records generalizing spent with
  | nil =>
    show Except.ok spent = .ok out ↔ _
    simp [countedAmounts, runningSum]
  | cons r records ih =>
    have hrest : ∀ acc, spentFrom env network asset issuer acc records = .ok out ↔
        (∀ r ∈ records, ∃ b, countsToward env network asset issuer r = .ok b) ∧
          runningSum acc (countedAmounts env records network asset issuer) = some out :=
      fun acc => ih fun x hx => hnumbers x (List.mem_cons_of_mem _ hx)
    obtain ⟨d, hd⟩ := Option.isSome_iff_exists.mp (hnumbers r List.mem_cons_self)
    rw [List.forall_mem_cons, spentFrom]
    -- A receipt raises, is left out, or adds its amount.
    cases hcounts : countsToward env network asset issuer r with
    | error e =>
      constructor
      · intro h
        cases h
      · rintro ⟨⟨⟨b, hb⟩, -⟩, -⟩
        cases hb
    | ok counted =>
      cases counted with
      | false =>
        have hsame : countedAmounts env (r :: records) network asset issuer =
            countedAmounts env records network asset issuer := by
          unfold countedAmounts
          rw [List.filter_cons_of_neg (by simp [hcounts])]
        rw [hsame]
        show spentFrom env network asset issuer spent records = .ok out ↔ _
        rw [hrest spent]
        exact ⟨fun h => ⟨⟨⟨false, rfl⟩, h.1⟩, h.2⟩, fun h => ⟨h.1.2, h.2⟩⟩
      | true =>
        have hmore : countedAmounts env (r :: records) network asset issuer =
            d :: countedAmounts env records network asset issuer := by
          unfold countedAmounts
          rw [List.filter_cons_of_pos (by simp [hcounts]), List.map_cons, amountDecimal, hd]
          rfl
        rw [hmore, runningSum_cons]
        -- The amount is added in the decimal context, which may raise.
        have hstep : (do
            let amount ← decimal env r.accepted.amount
            let total ← orSignal (Decimal.add (spent.getD zero) amount)
            spentFrom env network asset issuer (some total) records) = .ok out ↔
            ∃ total, Decimal.add (spent.getD zero) d = some total ∧
              spentFrom env network asset issuer (some total) records = .ok out := by
          constructor
          · intro h
            obtain ⟨amount, hamount, h⟩ := bind_eq_ok.mp h
            obtain ⟨total, htotal, h⟩ := bind_eq_ok.mp h
            have hsame : d = amount := Option.some.inj (hd.symm.trans (decimal_eq_ok.mp hamount))
            rw [hsame]
            exact ⟨total, orSignal_eq_ok.mp htotal, h⟩
          · rintro ⟨total, htotal, h⟩
            exact bind_eq_ok.mpr ⟨d, decimal_eq_ok.mpr hd, bind_eq_ok.mpr ⟨total, orSignal_eq_ok.mpr htotal, h⟩⟩
        refine Iff.trans (show _ ↔ _ from hstep) ?_
        rw [Option.bind_eq_some_iff]
        constructor
        · rintro ⟨total, htotal, h⟩
          obtain ⟨hreadable, hsum⟩ := (hrest (some total)).mp h
          exact ⟨⟨⟨true, rfl⟩, hreadable⟩, total, htotal, hsum⟩
        · rintro ⟨⟨-, hreadable⟩, total, htotal, hsum⟩
          exact ⟨total, htotal, (hrest (some total)).mpr ⟨hreadable, hsum⟩⟩

/-! ## Section 5: When the budget is exact -/

theorem isFinite_zero : zero.IsFinite := ⟨false, 0, 0, rfl⟩

theorem value_zero : zero.value = 0 := Decimal.ratValue_zero false 0

theorem isFinite_of_mem_counted {records : List ReceiptRecord} {network asset : String}
    {issuer : Option String} (hnumbers : ∀ r ∈ records, ∃ q, TextDenotes env.unicode r.accepted.amount q) :
    ∀ d ∈ countedAmounts env records network asset issuer, d.IsFinite := by
  intro d hd
  obtain ⟨r, hr, rfl⟩ := List.mem_map.mp hd
  obtain ⟨q, d, hd, hdenotes⟩ := hnumbers r (List.mem_of_mem_filter hr)
  rw [amountDecimal, hd]
  exact (Decimal.denotes_iff.mp hdenotes).1

/-- `max_spend - spent` -/
theorem value_add_negate (cap total : Decimal) :
    cap.value + total.negate.value = cap.value - total.value := by
  rw [Decimal.value_negate, sub_eq_add_neg]

section Exactness

variable {records : List ReceiptRecord} {network asset : String} {issuer : Option String}
  {maxSpend : Option Decimal}

theorem isSome_of_numbers (hnumbers : ∀ r ∈ records, ∃ q, TextDenotes env.unicode r.accepted.amount q) :
    ∀ r ∈ records, (decimalOfStr env.unicode r.accepted.amount).isSome = true := by
  intro r hr
  obtain ⟨q, d, hd, -⟩ := hnumbers r hr
  rw [hd]
  rfl

theorem value_of_sumFrom {amounts : List Decimal} {total : Decimal}
    (h : Decimal.sumFrom zero amounts = some total) :
    total.value = (amounts.map Decimal.value).sum + (Decimal.roundingErrors zero amounts).sum := by
  rw [Decimal.value_sumFrom h, value_zero, zero_add]

/-- An exact budget is balanced. -/
theorem balanced_of_exactBudget (hnumbers : ∀ r ∈ records, ∃ q, TextDenotes env.unicode r.accepted.amount q)
    (hcap : ∀ cap ∈ maxSpend, cap.IsFinite) (h : ExactBudget env records network asset issuer maxSpend) :
    Balanced env records network asset issuer maxSpend := by
  have hfinite : ∀ d ∈ countedAmounts env records network asset issuer, d.IsFinite :=
    isFinite_of_mem_counted hnumbers
  obtain ⟨summary, hsummary, hspent, hremaining⟩ := h
  -- The summary is made in five steps; each of them succeeded.
  obtain ⟨out, hout, hsummary⟩ := bind_eq_ok.mp hsummary
  obtain ⟨remaining, hrem, hsummary⟩ := bind_eq_ok.mp hsummary
  obtain ⟨spentText, hspentText, hsummary⟩ := bind_eq_ok.mp hsummary
  obtain ⟨maxText, hmaxText, hsummary⟩ := bind_eq_ok.mp hsummary
  obtain ⟨remainingText, hremText, hsummary⟩ := bind_eq_ok.mp hsummary
  rw [← Except.ok.inj hsummary] at hspent hremaining
  obtain ⟨hreadable, hsum⟩ := (spentFrom_eq_ok (isSome_of_numbers hnumbers)).mp hout
  -- With nothing counted the total is the integer 0, which has no text.
  have hne : countedAmounts env records network asset issuer ≠ [] := by
    intro hnil
    rw [runningSum, if_pos hnil] at hsum
    rw [← Option.some.inj hsum] at hspentText
    cases hspentText
  rw [runningSum, if_neg hne] at hsum
  obtain ⟨total, htotal, rfl⟩ := Option.map_eq_some_iff.mp hsum
  have htotalFinite := Decimal.isFinite_sumFrom isFinite_zero hfinite htotal
  -- The text of the total denotes the exact sum, so the total is the exact sum.
  have hexact : total.value = spentTotal env records network asset issuer := by
    obtain ⟨text, htext, hdenotes⟩ := formatDecimal_of_fits env htotalFinite
      (Decimal.fits_of_sumFrom hne isFinite_zero hfinite htotal)
    rw [← Except.ok.inj (htext.symm.trans hspentText)] at hspent
    exact textDenotes_unique hdenotes hspent
  refine ⟨fun r hr => exists_countsToward_iff.mp (hreadable r hr), hne, ?_, ?_, ?_⟩
  · rw [show Decimal.sumFrom zero _ = some total from htotal]
    rfl
  -- The errors of the additions are what the total and the exact sum differ by.
  · have hsplit := value_of_sumFrom htotal
    rw [← hexact, hsplit]
    ring
  · intro cap hmem
    rw [Option.mem_def.mp hmem] at hrem hmaxText
    obtain ⟨rest, hrest, rfl⟩ := map_eq_ok.mp hrem
    obtain ⟨capText, hcapText, -⟩ := map_eq_ok.mp hmaxText
    obtain ⟨restText, hrestText, rfl⟩ := map_eq_ok.mp hremText
    obtain ⟨text, htext, hdenotes⟩ := hremaining cap hmem
    have hsub : Decimal.add cap total.negate = some rest := orSignal_eq_ok.mp hrest
    have hcapFinite := hcap cap hmem
    -- The rest is exact, so its exact value fits the context.
    refine ⟨exists_formatDecimal_iff.mp ⟨capText, hcapText⟩, ?_⟩
    obtain ⟨text', htext', hdenotes'⟩ := formatDecimal_of_fits env
      (Decimal.isFinite_add hcapFinite htotalFinite.negate hsub)
      (Decimal.fits_of_add hcapFinite htotalFinite.negate hsub)
    have hsame : restText = text := Option.some.inj htext
    rw [Except.ok.inj (htext'.symm.trans hrestText), hsame] at hdenotes'
    have hdiff : rest.value = cap.value + total.negate.value := by
      rw [value_add_negate, hexact]
      exact textDenotes_unique hdenotes' hdenotes
    rw [← hexact, ← value_add_negate]
    exact (Decimal.add_exact_iff hcapFinite htotalFinite.negate).mp ⟨rest, hsub, hdiff⟩

/-- A balanced budget is exact. -/
theorem exactBudget_of_balanced (hnumbers : ∀ r ∈ records, ∃ q, TextDenotes env.unicode r.accepted.amount q)
    (hcap : ∀ cap ∈ maxSpend, cap.IsFinite) (h : Balanced env records network asset issuer maxSpend) :
    ExactBudget env records network asset issuer maxSpend := by
  have hfinite : ∀ d ∈ countedAmounts env records network asset issuer, d.IsFinite :=
    isFinite_of_mem_counted hnumbers
  obtain ⟨total, htotal⟩ := Option.isSome_iff_exists.mp h.bounded
  have htotalFinite := Decimal.isFinite_sumFrom isFinite_zero hfinite htotal
  -- The errors are balanced, so the total is the exact sum.
  have hexact : total.value = spentTotal env records network asset issuer := by
    have hbalanced := h.balanced
    rw [value_of_sumFrom htotal]
    linarith
  -- Every addition succeeds.
  have hspent : spentFrom env network asset issuer none records = .ok (some total) := by
    refine (spentFrom_eq_ok (isSome_of_numbers hnumbers)).mpr ⟨fun r hr => exists_countsToward_iff.mpr (h.readable r hr), ?_⟩
    rw [runningSum, if_neg h.counted]
    show (Decimal.sumFrom zero _).map some = some (some total)
    rw [htotal]
    rfl
  obtain ⟨spentText, hspentText, hspentDenotes⟩ := formatDecimal_of_fits env htotalFinite
    (Decimal.fits_of_sumFrom h.counted isFinite_zero hfinite htotal)
  rw [hexact] at hspentDenotes
  -- The rest is computed for a cap only.
  cases maxSpend with
  | none =>
    refine ⟨⟨network, asset, issuer, spentText, none, none⟩, ?_, hspentDenotes, by simp⟩
    exact bind_eq_ok.mpr ⟨_, hspent, bind_eq_ok.mpr ⟨none, rfl, bind_eq_ok.mpr
      ⟨spentText, hspentText, bind_eq_ok.mpr ⟨none, rfl, bind_eq_ok.mpr ⟨none, rfl, rfl⟩⟩⟩⟩⟩
  | some cap =>
    obtain ⟨hnormal, hfits⟩ := h.cap cap rfl
    have hcapFinite := hcap cap rfl
    rw [← hexact, ← value_add_negate] at hfits
    obtain ⟨rest, hrest, hrestValue⟩ := (Decimal.add_exact_iff hcapFinite htotalFinite.negate).mpr hfits
    rw [← hrestValue] at hfits
    obtain ⟨capText, hcapText⟩ := exists_formatDecimal_iff.mpr hnormal
    obtain ⟨restText, hrestText, hrestDenotes⟩ := formatDecimal_of_fits env
      (Decimal.isFinite_add hcapFinite htotalFinite.negate hrest) hfits
    rw [hrestValue, value_add_negate, hexact] at hrestDenotes
    refine ⟨⟨network, asset, issuer, spentText, some capText, some restText⟩, ?_, hspentDenotes, ?_⟩
    · have hremaining : remainingOf (some cap) (some total) = .ok (some rest) :=
        map_eq_ok.mpr ⟨rest, orSignal_eq_ok.mpr hrest, rfl⟩
      exact bind_eq_ok.mpr ⟨_, hspent, bind_eq_ok.mpr ⟨some rest, hremaining, bind_eq_ok.mpr
        ⟨spentText, hspentText, bind_eq_ok.mpr ⟨some capText, map_eq_ok.mpr ⟨capText, hcapText, rfl⟩,
          bind_eq_ok.mpr ⟨some restText, map_eq_ok.mpr ⟨restText, hrestText, rfl⟩, rfl⟩⟩⟩⟩⟩
    · intro cap' hcap'
      rw [← Option.some.inj hcap']
      exact ⟨restText, rfl, hrestDenotes⟩

/-! ### Balanced receipts, one by one -/

/-- A receipt is counted for its code, whatever currency that stands for. -/
theorem countsToward_iff {r : ReceiptRecord} : countsToward env network asset issuer r = .ok true ↔
    Candidate network issuer r ∧ SameName env r.accepted.asset asset := by
  unfold countsToward
  by_cases hpaid : r.state = .paid ∧ r.accepted.network = network
  · rw [if_pos hpaid]
    constructor
    · intro h
      obtain ⟨code, hcode, h⟩ := bind_eq_ok.mp h
      obtain ⟨wanted, hwanted, h⟩ := bind_eq_ok.mp h
      obtain ⟨heq, hissuer⟩ := of_decide_eq_true (Except.ok.inj h)
      exact ⟨⟨hpaid.1, hpaid.2, hissuer⟩, wanted, heq ▸ hcode, hwanted⟩
    · rintro ⟨⟨-, -, hissuer⟩, name, hcode, hwanted⟩
      refine bind_eq_ok.mpr ⟨name, hcode, bind_eq_ok.mpr ⟨name, hwanted, ?_⟩⟩
      rw [decide_eq_true ⟨rfl, hissuer⟩]
      rfl
  · rw [if_neg hpaid]
    refine iff_of_false (by simp) ?_
    rintro ⟨⟨hstate, hnetwork, -⟩, -⟩
    exact hpaid ⟨hstate, hnetwork⟩

theorem spends_iff {r : ReceiptRecord} : Spends env network asset issuer r ↔
    Candidate network issuer r ∧ SameCurrency env r.accepted.asset asset := by
  unfold Spends Candidate SameCurrency
  tauto

theorem spentTotal_eq : spentTotal env records network asset issuer =
    (((records.filter fun r => Spends env network asset issuer r).map (amountDecimal env)).map
      Decimal.value).sum := by
  rw [List.map_map]
  rfl

/-- Where the codes agree on the receipts, what is counted is what is spent. -/
theorem countedAmounts_of_agreed
    (h : ∀ r ∈ records, countsToward env network asset issuer r = .ok true ↔
      Spends env network asset issuer r) {pre : List ReceiptRecord} (hpre : pre <+: records) :
    countedAmounts env pre network asset issuer =
      (pre.filter fun r => Spends env network asset issuer r).map (amountDecimal env) := by
  unfold countedAmounts
  congr 1
  apply List.filter_congr
  intro r hr
  exact decide_eq_decide.mpr (h r (hpre.subset hr))

theorem counts_iff_spends (h : Accountable env records network asset issuer maxSpend) :
    ∀ r ∈ records, countsToward env network asset issuer r = .ok true ↔
      Spends env network asset issuer r := by
  intro r hr
  rw [countsToward_iff, spends_iff]
  exact and_congr_right (h.agreed r hr)

/-- Sums that fit on the way are formed without rounding. -/
theorem sumFrom_counted (hnumbers : ∀ r ∈ records, ∃ q, TextDenotes env.unicode r.accepted.amount q)
    (hfits : ∀ pre, pre <+: records →
      Decimal.Fits ((countedAmounts env pre network asset issuer).map Decimal.value).sum) :
    ∃ total, Decimal.sumFrom zero (countedAmounts env records network asset issuer) = some total ∧
      (Decimal.roundingErrors zero (countedAmounts env records network asset issuer)).sum = 0 := by
  obtain ⟨total, htotal, hvalue⟩ := Decimal.sumFrom_of_fits isFinite_zero
    (isFinite_of_mem_counted hnumbers) (by
      intro ds hds
      obtain ⟨kept, hkept, rfl⟩ := List.prefix_map_iff.mp hds
      obtain ⟨pre, hpre, rfl⟩ := List.prefix_filter_iff.mp hkept
      rw [value_zero, zero_add]
      exact hfits pre hpre)
  refine ⟨total, htotal, ?_⟩
  have herrors := value_of_sumFrom htotal
  rw [hvalue, value_zero, zero_add] at herrors
  linarith

theorem balanced_of_accountable (hnumbers : ∀ r ∈ records, ∃ q, TextDenotes env.unicode r.accepted.amount q)
    (h : Accountable env records network asset issuer maxSpend) :
    Balanced env records network asset issuer maxSpend := by
  have hcounts := counts_iff_spends h
  have hsame : ∀ {pre}, pre <+: records → _ := fun hpre => countedAmounts_of_agreed hcounts hpre
  have hfits : ∀ pre, pre <+: records →
      Decimal.Fits ((countedAmounts env pre network asset issuer).map Decimal.value).sum := by
    intro pre hpre
    rw [hsame hpre, ← spentTotal_eq]
    exact h.digits pre hpre
  obtain ⟨total, htotal, herrors⟩ := sumFrom_counted hnumbers hfits
  refine ⟨h.readable, ?_, ?_, ?_, h.cap⟩
  · obtain ⟨r, hr, hspends⟩ := h.spent
    intro hnil
    have hmem : r ∈ records.filter fun r => countsToward env network asset issuer r = .ok true :=
      List.mem_filter.mpr ⟨hr, decide_eq_true ((hcounts r hr).mpr hspends)⟩
    rw [List.map_eq_nil_iff.mp hnil] at hmem
    cases hmem
  · rw [htotal]
    rfl
  · rw [herrors, hsame List.prefix_rfl, ← spentTotal_eq, sub_self, zero_add]

/-- Of two selections of positive terms, the smaller one with the same sum is the
    larger one. -/
theorem filter_sum_le {α : Type} {f : α → ℚ} {p q : α → Bool} {as : List α}
    (hpos : ∀ a ∈ as, q a = true → 0 < f a) (hpq : ∀ a ∈ as, p a = true → q a = true) :
    ((as.filter p).map f).sum ≤ ((as.filter q).map f).sum ∧
      (((as.filter p).map f).sum = ((as.filter q).map f).sum → ∀ a ∈ as, q a = true → p a = true) := by
  induction as with
  | nil => simp
  | cons a as ih =>
    rw [List.forall_mem_cons] at hpos hpq
    obtain ⟨hle, heq⟩ := ih hpos.2 hpq.2
    cases hp : p a with
    | true =>
      have hq : q a = true := hpq.1 hp
      simp only [List.filter_cons, hp, hq, if_true, List.map_cons, List.sum_cons, List.forall_mem_cons]
      exact ⟨by linarith, fun hsum => ⟨fun _ => trivial, heq (by linarith)⟩⟩
    | false =>
      cases hq : q a with
      | true =>
        simp only [List.filter_cons, hp, hq, if_true, Bool.false_eq_true, if_false, List.map_cons,
          List.sum_cons]
        have hterm := hpos.1 hq
        exact ⟨by linarith, fun hsum => absurd hsum (by linarith)⟩
      | false =>
        simp only [List.filter_cons, hp, hq, Bool.false_eq_true, if_false, List.forall_mem_cons]
        exact ⟨hle, fun hsum => ⟨fun h => absurd h (by simp), heq hsum⟩⟩

/-- Steady receipts with the right sum are counted one by one as they should. -/
theorem counts_of_balanced (hnumbers : ∀ r ∈ records, ∃ q, TextDenotes env.unicode r.accepted.amount q)
    (hsteady : Steady env records network asset issuer)
    (h : Balanced env records network asset issuer maxSpend) :
    ∀ r ∈ records, countsToward env network asset issuer r = .ok true ↔
      Spends env network asset issuer r := by
  -- No addition rounds, so the counted amounts sum up to the spent ones.
  obtain ⟨total, -, herrors⟩ := sumFrom_counted hnumbers hsteady.digits
  have hsum : ((records.filter fun r => countsToward env network asset issuer r = .ok true).map
        fun r => (amountDecimal env r).value).sum =
      ((records.filter fun r => Spends env network asset issuer r).map
        fun r => (amountDecimal env r).value).sum := by
    have hbalanced := h.balanced
    rw [herrors, add_zero, countedAmounts, List.map_map, spentTotal] at hbalanced
    exact sub_eq_zero.mp hbalanced
  have hpositive : ∀ r ∈ records, Candidate network issuer r → 0 < (amountDecimal env r).value :=
    hsteady.positive
  intro r hr
  -- One of the two lists is a part of the other; positive amounts and equal sums make them equal.
  rcases hsteady.oneSided with hkept | hkept
  · have honly : ∀ r ∈ records, countsToward env network asset issuer r = .ok true →
        Spends env network asset issuer r := by
      intro r hr h
      obtain ⟨hcandidate, hname⟩ := countsToward_iff.mp h
      exact spends_iff.mpr ⟨hcandidate, hkept r hr hcandidate hname⟩
    have hall := (filter_sum_le
      (fun r hr h => hpositive r hr (spends_iff.mp (of_decide_eq_true h)).1)
      (fun r hr h => decide_eq_true (honly r hr (of_decide_eq_true h)))).2 hsum r hr
    exact ⟨honly r hr, fun hspends => of_decide_eq_true (hall (decide_eq_true hspends))⟩
  · have honly : ∀ r ∈ records, Spends env network asset issuer r →
        countsToward env network asset issuer r = .ok true := by
      intro r hr h
      obtain ⟨hcandidate, hcurrency⟩ := spends_iff.mp h
      exact countsToward_iff.mpr ⟨hcandidate, hkept r hr hcandidate hcurrency⟩
    have hall := (filter_sum_le
      (fun r hr h => hpositive r hr (countsToward_iff.mp (of_decide_eq_true h)).1)
      (fun r hr h => decide_eq_true (honly r hr (of_decide_eq_true h)))).2 hsum.symm r hr
    exact ⟨fun hcounts => of_decide_eq_true (hall (decide_eq_true hcounts)), honly r hr⟩

theorem accountable_of_balanced (hnumbers : ∀ r ∈ records, ∃ q, TextDenotes env.unicode r.accepted.amount q)
    (hsteady : Steady env records network asset issuer)
    (h : Balanced env records network asset issuer maxSpend) :
    Accountable env records network asset issuer maxSpend := by
  have hcounts := counts_of_balanced hnumbers hsteady h
  refine ⟨h.readable, ?_, ?_, ?_, h.cap⟩
  · obtain ⟨d, hd⟩ := List.exists_mem_of_ne_nil _ h.counted
    obtain ⟨r, hr, -⟩ := List.mem_map.mp hd
    obtain ⟨hmem, hcounted⟩ := List.mem_filter.mp hr
    exact ⟨r, hmem, (hcounts r hmem).mp (of_decide_eq_true hcounted)⟩
  · intro r hr hcandidate
    have hiff := hcounts r hr
    rw [countsToward_iff, spends_iff] at hiff
    exact ⟨fun hname => (hiff.mp ⟨hcandidate, hname⟩).2, fun hcurrency => (hiff.mpr ⟨hcandidate, hcurrency⟩).2⟩
  · intro pre hpre
    rw [spentTotal_eq, ← countedAmounts_of_agreed hcounts hpre]
    exact hsteady.digits pre hpre

end Exactness

/-- For receipts and a cap with finite numbers: the budget of what is accountable
    is exact, and no other budget is, except where what the code gets wrong can
    cancel out. -/
theorem exactBudget_iff (env : Env) (records : List ReceiptRecord) (network asset : String)
    (issuer : Option String) (maxSpend : Option Decimal)
    (hnumbers : ∀ r ∈ records, ∃ q, TextDenotes env.unicode r.accepted.amount q)
    (hcap : ∀ cap ∈ maxSpend, cap.IsFinite) :
    (Accountable env records network asset issuer maxSpend →
        ExactBudget env records network asset issuer maxSpend) ∧
      (Steady env records network asset issuer → ExactBudget env records network asset issuer maxSpend →
        Accountable env records network asset issuer maxSpend) := by
  constructor
  · intro h
    exact exactBudget_of_balanced hnumbers hcap (balanced_of_accountable hnumbers h)
  · intro hsteady h
    exact accountable_of_balanced hnumbers hsteady (balanced_of_exactBudget hnumbers hcap h)

/-! ### Histories whose budget is wrong -/

namespace Sample

open XrplX402.Sample

/-- A paid receipt for this amount of the sample asset. -/
def paidReceipt (amount : String) : ReceiptRecord where
  url := "https://api.example/data"
  method := "GET"
  statusCode := 200
  state := .paid
  settlement := ⟨true, none, none, some "rPayer", "ABCD", "xrpl:1", some amount, none, none⟩
  accepted := { tenOf "USD" with amount := amount }
  requestFingerprint := none

/-- A number of 29 digits, of which the ledger stores one. -/
def hugeAmount : String := "10000000000000000000000000000"

end Sample

open XrplX402.Sample in
/-- Without a paid receipt the budget raises; a unit beside a huge amount is
    lost. -/
theorem budget_misses_unit :
    budgetSummary shapeEnv [] "xrpl:1" "USD" (some "rIssuer") none =
        .error ⟨.attributeError, "'int' object has no attribute 'normalize'"⟩ ∧
      ¬ ExactBudget shapeEnv [] "xrpl:1" "USD" (some "rIssuer") none ∧
      budgetSummary shapeEnv [Sample.paidReceipt Sample.hugeAmount, Sample.paidReceipt "1"] "xrpl:1" "USD"
          (some "rIssuer") none =
        .ok ⟨"xrpl:1", "USD", some "rIssuer", Sample.hugeAmount, none, none⟩ ∧
      ¬ ExactBudget shapeEnv [Sample.paidReceipt Sample.hugeAmount, Sample.paidReceipt "1"] "xrpl:1" "USD"
          (some "rIssuer") none := by
  have hlost : budgetSummary shapeEnv [Sample.paidReceipt Sample.hugeAmount, Sample.paidReceipt "1"] "xrpl:1"
      "USD" (some "rIssuer") none = .ok ⟨"xrpl:1", "USD", some "rIssuer", Sample.hugeAmount, none, none⟩ := by
    decide +kernel
  refine ⟨rfl, ?_, hlost, ?_⟩
  · rintro ⟨summary, h, -⟩
    cases h
  · rintro ⟨summary, h, hspent, -⟩
    rw [← Except.ok.inj (hlost.symm.trans h)] at hspent
    -- The text is that of the rounded sum, and the exact sum is one more.
    have htext : TextDenotes shapeEnv.unicode Sample.hugeAmount ((10 : ℚ) ^ 28) :=
      ⟨.finite false (10 ^ 28) 0, by decide +kernel, false, 10 ^ 28, 0, rfl, by norm_num [Decimal.ratValue]⟩
    have hspends : [Sample.paidReceipt Sample.hugeAmount, Sample.paidReceipt "1"].filter
        (fun r => Spends shapeEnv "xrpl:1" "USD" (some "rIssuer") r) =
          [Sample.paidReceipt Sample.hugeAmount, Sample.paidReceipt "1"] := by decide +kernel
    have htotal : spentTotal shapeEnv [Sample.paidReceipt Sample.hugeAmount, Sample.paidReceipt "1"] "xrpl:1"
        "USD" (some "rIssuer") = 10 ^ 28 + 1 := by
      unfold spentTotal
      rw [hspends]
      have hfirst : amountDecimal shapeEnv (Sample.paidReceipt Sample.hugeAmount) =
          .finite false (10 ^ 28) 0 := by decide +kernel
      have hsecond : amountDecimal shapeEnv (Sample.paidReceipt "1") = .finite false 1 0 := by decide +kernel
      norm_num [hfirst, hsecond, Decimal.value, Decimal.ratValue]
    rw [htotal] at hspent
    have hwrong := textDenotes_unique htext hspent
    norm_num at hwrong

-- Roundings can cancel out: 5 is rounded down here, and 15 up.
open XrplX402.Sample in
example : budgetSummary shapeEnv ([Sample.hugeAmount, "5", "15"].map Sample.paidReceipt) "xrpl:1" "USD"
    (some "rIssuer") none =
      .ok ⟨"xrpl:1", "USD", some "rIssuer", "10000000000000000000000000020", none, none⟩ := by
  decide +kernel

open XrplX402.Sample in
theorem exactBudget_iff_sample :
    ExactBudget shapeEnv [Sample.paidReceipt "1.5", Sample.paidReceipt "2"] "xrpl:1" "USD" (some "rIssuer")
      (some (.finite false 10 0)) := by
  have hfirst : amountDecimal shapeEnv (Sample.paidReceipt "1.5") = .finite false 15 (-1) := by
    decide +kernel
  have hsecond : amountDecimal shapeEnv (Sample.paidReceipt "2") = .finite false 2 0 := by
    decide +kernel
  have hasset : SameCurrency shapeEnv "USD" "USD" := ⟨by decide +kernel, rfl⟩
  have hname : SameName shapeEnv "USD" "USD" := ⟨"USD", by decide +kernel, by decide +kernel⟩
  have hcandidate : ∀ amount, Candidate "xrpl:1" (some "rIssuer") (Sample.paidReceipt amount) :=
    fun amount => ⟨rfl, rfl, rfl⟩
  have htotal : ∀ amounts : List String,
      spentTotal shapeEnv (amounts.map Sample.paidReceipt) "xrpl:1" "USD" (some "rIssuer") =
        (amounts.map fun amount => (amountDecimal shapeEnv (Sample.paidReceipt amount)).value).sum := by
    intro amounts
    have hall : ∀ r ∈ amounts.map Sample.paidReceipt,
        decide (Spends shapeEnv "xrpl:1" "USD" (some "rIssuer") r) = true := by
      intro r hr
      obtain ⟨amount, -, rfl⟩ := List.mem_map.mp hr
      exact decide_eq_true (spends_iff.mpr ⟨hcandidate amount, hasset⟩)
    rw [spentTotal, List.filter_eq_self.mpr hall, List.map_map]
    rfl
  -- Amounts in tenths up to 10 are exact in the context.
  have hfits : ∀ tenths : ℕ, tenths ≤ 100 → Decimal.Fits (tenths * 10 ^ (-1 : ℤ)) := by
    intro tenths hle
    have hnonneg : (0 : ℚ) ≤ tenths * 10 ^ (-1 : ℤ) := by positivity
    have hsmall : (tenths : ℚ) * 10 ^ (-1 : ℤ) < 10 ^ (2 : ℤ) := by
      have hcast : (tenths : ℚ) ≤ 100 := by exact_mod_cast hle
      norm_num
      linarith
    have hbound : (10 : ℚ) ^ (2 : ℤ) ≤ 10 ^ (Decimal.contextEmax + 1) :=
      zpow_le_zpow_right₀ (by norm_num) (by decide)
    rw [Decimal.Fits, abs_of_nonneg hnonneg]
    exact ⟨lt_of_lt_of_le hsmall hbound, tenths, -1, rfl, lt_of_le_of_lt hle (by decide), by decide⟩
  have htenths : ∀ q : ℚ, ∀ tenths : ℕ, tenths ≤ 100 → q = tenths * 10 ^ (-1 : ℤ) → Decimal.Fits q :=
    fun q tenths hle hq => hq ▸ hfits tenths hle
  have hiff := exactBudget_iff shapeEnv (["1.5", "2"].map Sample.paidReceipt) "xrpl:1" "USD" (some "rIssuer")
    (some (.finite false 10 0))
    (by
      intro r hr
      rcases List.mem_pair.mp hr with rfl | rfl
      · exact ⟨3 / 2, .finite false 15 (-1), by decide +kernel, false, 15, -1, rfl,
          by norm_num [Decimal.ratValue]⟩
      · exact ⟨2, .finite false 2 0, by decide +kernel, false, 2, 0, rfl, by norm_num [Decimal.ratValue]⟩)
    (by
      intro cap hcap
      rw [← Option.some.inj hcap]
      exact ⟨false, 10, 0, rfl⟩)
  refine hiff.1 ⟨?_, ?_, ?_, ?_, ?_⟩
  · intro r hr _ _
    obtain ⟨amount, -, rfl⟩ := List.mem_map.mp hr
    have hplain : shapeEnv.unicode.upperStr (strip "USD") ≠ "" := by decide +kernel
    exact ⟨hplain, hplain⟩
  · exact ⟨_, List.mem_map_of_mem List.mem_cons_self, spends_iff.mpr ⟨hcandidate "1.5", hasset⟩⟩
  · intro r hr _
    obtain ⟨amount, -, rfl⟩ := List.mem_map.mp hr
    exact iff_of_true hname hasset
  · intro pre hpre
    obtain ⟨amounts, hamounts, rfl⟩ := List.prefix_map_iff.mp hpre
    rw [htotal]
    rcases List.prefix_cons_iff.mp hamounts with rfl | ⟨rest, rfl, hrest⟩
    · exact htenths _ 0 (by decide) (by norm_num)
    · rcases List.prefix_cons_iff.mp hrest with rfl | ⟨last, rfl, hlast⟩
      · exact htenths _ 15 (by decide) (by norm_num [hfirst, Decimal.value, Decimal.ratValue])
      · rw [List.prefix_nil.mp hlast]
        exact htenths _ 35 (by decide) (by norm_num [hfirst, hsecond, Decimal.value, Decimal.ratValue])
  · intro cap hcap
    rw [← Option.some.inj hcap, htotal]
    refine ⟨by decide +kernel, htenths _ 65 (by decide) ?_⟩
    norm_num [hfirst, hsecond, Decimal.value, Decimal.ratValue]

end XrplX402.Payer
