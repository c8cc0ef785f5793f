import XrplX402.Core.WireAssets
import XrplX402.Facilitator.Soundness
import XrplX402.Py.DecimalSum

/-! # The balances behind a payment

    Where the node cannot simulate, the check compares what the node reports of
    accounts and trust lines with what the payment moves.

    * `Funds`, `Reports`: what is reported, and the answers that report it.
    * `Covers`: the funds suffice, in exact arithmetic and for the currency of the
      ledger that is paid.
    * `covers_iff`: the accepted payments that the funds do cover. -/

namespace XrplX402.Facilitator

open Py Interaction Prog

variable {env : Env}

/-! ## Section 1: What the node reports -/

structure Funds where
  balance : Int
  ownerCount : Int
  reserveBase : Int
  reserveIncrement : Int
  destinationExists : Bool
  lines : List Dict
  transferRate : Int

/-- The drops above the reserve. -/
def Funds.spendable (funds : Funds) : Int :=
  funds.balance - (funds.reserveBase + funds.ownerCount * funds.reserveIncrement)

/-- The account and the state of the server are read as these funds. -/
structure AccountReported (env : Env) (funds : Funds) (account state : Json) : Prop where
  account : ∃ data balance, getAttr account "account_data" = .ok (.obj data) ∧
    subscript (.obj data) "Balance" = .ok balance ∧ toInt env.unicode balance = .ok funds.balance ∧
    (Dict.get data "OwnerCount").asInt? = some funds.ownerCount ∧ 0 ≤ funds.ownerCount
  reserves : ∃ validated, validatedLedgerOf state = .ok validated ∧
    reserveValues env validated = .ok (funds.reserveBase, funds.reserveIncrement)

/-- The lines of the pages that were answered. -/
def reportedLines (t : List (Event Op Ret)) : List Dict :=
  t.flatMap fun e =>
    match e with
    | ⟨.rpc (.accountLines _ _ _), .ok result⟩ =>
      match linesPage result with
      | .ok page => page.items.filterMap Json.asDict?
      | .error _ => []
    | _ => []

/-- The answers that report the funds. -/
inductive Reports (env : Env) (r : PaymentRequirements) (payer : String) :
    List (Event Op Ret) → Funds → Prop where
  | native {funds : Funds} (account state destination : Json) (asset : r.asset = "XRP")
      (reported : AccountReported env funds account state)
      (exists_ : accountExistsIn destination = .ok funds.destinationExists) :
      Reports env r payer [⟨.rpc (.accountInfo payer), .ok account⟩, ⟨.rpc .serverState, .ok state⟩,
        ⟨.rpc (.accountInfo r.payTo), .ok destination⟩] funds
  | issued {funds : Funds} (account state issuerInfo : Json) (issuer : String) (data : Dict)
      (pages : List (Event Op Ret)) (asset : r.asset ≠ "XRP")
      (reported : AccountReported env funds account state)
      (issuerOf : Dict.get r.extraOr "issuer" = .str issuer) (listed : funds.lines = reportedLines pages)
      (data_ : accountDataOf issuerInfo = .obj data) (rate : transferRateOf data = .ok funds.transferRate) :
      Reports env r payer (⟨.rpc (.accountInfo payer), .ok account⟩ :: ⟨.rpc .serverState, .ok state⟩ ::
        (pages ++ [⟨.rpc (.accountInfo issuer), .ok issuerInfo⟩])) funds

/-! ## Section 2: What the payment moves -/

/-- `Fee` is read as this number of drops. -/
def FeeOf (env : Env) (tx : Dict) (fee : Int) : Prop :=
  ∃ digits, Dict.get tx "Fee" = .str digits ∧ intOfStr env.unicode digits = .ok fee

/-- The value in `tx[field]`. -/
def ValueOf (env : Env) (tx : Dict) (field : String) (q : ℚ) : Prop :=
  ∃ d, Dict.get tx field = .obj d ∧ TextDenotes env.unicode (str env.unicode (Dict.get d "value")) q

/-- The numbers of an issued currency that the ledger can carry. -/
def IsLedgerAmount (q : ℚ) : Prop :=
  ∃ (m : Nat) (k : Int), |q| = m * 10 ^ k ∧ m < 10 ^ 16 ∧ -96 ≤ k ∧ k ≤ 80

/-- `str(line.get("currency", ""))` -/
def lineCurrency (env : Env) (line : Dict) : String :=
  str env.unicode ((Dict.get? line "currency").getD (.str ""))

/-- The line is in the currency of the ledger that the asset names. -/
def InCurrency (env : Env) (asset : String) (line : Dict) : Prop :=
  (ledgerCurrency asset).isSome = true ∧ ledgerCurrency (lineCurrency env line) = ledgerCurrency asset

/-- The balance of the line is at least `source`. -/
def HoldsAtLeast (env : Env) (source : ℚ) (line : Dict) : Prop :=
  ∃ balance, decimalOfStr env.unicode (str env.unicode ((Dict.get? line "balance").getD (.str "0"))) =
    some balance ∧ (balance = .infinite false ∨ ∃ b, balance.Denotes b ∧ source ≤ b)

/-- A line towards the issuer, in the currency of the asset, that holds the
    amount. -/
structure Pays (env : Env) (issuer asset : String) (source : ℚ) (line : Dict) : Prop where
  issuer : (Dict.get line "account").pyEq (.str issuer) = true
  currency : InCurrency env asset line
  balance : HoldsAtLeast env source line

/-- The funds suffice for the payment, when `line issuer source` says what is
    asked of the trust lines. -/
inductive Suffices (env : Env) (tx : Dict) (r : PaymentRequirements) (payer : String) (funds : Funds)
    (line : String → ℚ → Prop) : Prop where
  | native (asset : r.asset = "XRP") (amount fee : Int)
      (amountOf : intOfStr env.unicode r.amount = .ok amount) (feeOf : FeeOf env tx fee)
      (spendable : amount + fee ≤ funds.spendable)
      (created : funds.destinationExists = true ∨ funds.reserveBase ≤ amount)
  | issued (asset : r.asset ≠ "XRP") (issuer : String) (fee : Int) (source amount : ℚ)
      (issuerOf : Dict.get r.extraOr "issuer" = .str issuer) (feeOf : FeeOf env tx fee)
      (sourceOf : ValueOf env tx "SendMax" source) (amountOf : TextDenotes env.unicode r.amount amount)
      (spendable : fee ≤ funds.spendable) (holds : line issuer source)
      (transfer : payer = issuer ∨ r.payTo = issuer ∨ amount * funds.transferRate ≤ source * 10 ^ 9)

/-- The funds suffice, with a line that pays. -/
def Covers (env : Env) (tx : Dict) (r : PaymentRequirements) (payer : String) (funds : Funds) : Prop :=
  Suffices env tx r payer funds fun issuer source => ∃ line ∈ funds.lines, Pays env issuer r.asset source line

/-- The first line towards the issuer that the code takes for the asset. -/
def takenLine (env : Env) (r : PaymentRequirements) (funds : Funds) : Option Dict :=
  (matchingLines env (Dict.get r.extraOr "issuer") r.asset funds.lines).head?

/-- The line that is taken is in the currency of the asset, or another line pays
    in it. -/
def TakesOwnCurrency (env : Env) (tx : Dict) (r : PaymentRequirements) (funds : Funds) : Prop :=
  r.asset ≠ "XRP" → ∀ line ∈ takenLine env r funds, InCurrency env r.asset line ∨
    ∃ issuer source, Dict.get r.extraOr "issuer" = .str issuer ∧ ValueOf env tx "SendMax" source ∧
      ∃ other ∈ funds.lines, Pays env issuer r.asset source other

/-! ## Section 3: Exact products -/

theorem fits_mul {q : ℚ} (h : IsLedgerAmount q) {n : Nat} (hn : n ≤ 2 * 10 ^ 9) :
    Decimal.Fits (q * n) := by
  obtain ⟨m, k, hq, hm, hlow, hhigh⟩ := h
  -- The exact product has at most 26 digits.
  have habs : |q * n| = (m * n : Nat) * 10 ^ k := by
    rw [abs_mul, hq, abs_of_nonneg (by positivity : (0 : ℚ) ≤ n)]
    push_cast
    ring
  have hsmall : m * n < 10 ^ Decimal.contextPrec := by
    calc m * n ≤ 10 ^ 16 * (2 * 10 ^ 9) := Nat.mul_le_mul hm.le hn
      _ < 10 ^ Decimal.contextPrec := by decide
  refine ⟨?_, m * n, k, habs, hsmall, le_trans (by decide) hlow⟩
  have hcast : ((m * n : Nat) : ℚ) < 10 ^ Decimal.contextPrec := by exact_mod_cast hsmall
  have hpow : (10 : ℚ) ^ k ≤ 10 ^ (80 : Int) := zpow_le_zpow_right₀ (by norm_num) hhigh
  rw [habs]
  calc ((m * n : Nat) : ℚ) * 10 ^ k ≤ ((m * n : Nat) : ℚ) * 10 ^ (80 : Int) :=
        mul_le_mul_of_nonneg_left hpow (by positivity)
    _ < 10 ^ Decimal.contextPrec * 10 ^ (80 : Int) := mul_lt_mul_of_pos_right hcast (by positivity)
    _ = 10 ^ ((Decimal.contextPrec : Int) + 80) := by
        rw [zpow_add₀ (by norm_num), zpow_natCast]
    _ ≤ 10 ^ (Decimal.contextEmax + 1) := zpow_le_zpow_right₀ (by norm_num) (by decide)

theorem decimalLt_denotes {a b : Decimal} {p q : ℚ} (ha : a.Denotes p) (hb : b.Denotes q) :
    decimalLt a b = .ok (decide (p < q)) := by
  obtain ⟨n₁, c₁, e₁, rfl, rfl⟩ := ha
  obtain ⟨n₂, c₂, e₂, rfl, rfl⟩ := hb
  unfold decimalLt
  rw [Decimal.cmp_finite]
  simp only [compare_lt_iff_lt]

/-- The text of a number is read as the number. -/
theorem decimalOf_toString (env : Env) (n : Nat) :
    decimalOf env (toString (n : Int)) = .ok (.finite false n 0) := by
  have hlist : (toString (n : Int)).toList = Nat.toDigits 10 n := by
    show (String.ofList (Nat.toDigits 10 n)).toList = _
    exact String.toList_ofList
  have hdigits : ∀ c ∈ Nat.toDigits 10 n, isAsciiDigit c = true :=
    fun c hc => isAsciiDigit_of_mem_toDigits hc
  have hparse := parseUnsigned_of_digits Nat.toDigits_ne_nil hdigits
  rw [Decimal.natOfDigits_eq, Nat.ofDigitChars_ten_toDigits, ← hlist] at hparse
  rw [← hlist] at hdigits
  have hvalue := decimalOfStr_of_parseUnsigned env.unicode
    (fun c hc => by simp [isAmountChar, hdigits c hc]) hparse
  simp only [decimalOf, hvalue]

theorem denotes_natural (n : Nat) : (Decimal.finite false n 0).Denotes n :=
  ⟨false, n, 0, rfl, by simp [Decimal.ratValue]⟩

/-- The comparison with the transfer fee is exact for numbers of the ledger. -/
theorem sendMaxCoversFee_exact {source amount : Decimal} {p q : ℚ} {rate : Int}
    (hsource : source.Denotes p) (hamount : amount.Denotes q) (hp : IsLedgerAmount p)
    (hq : IsLedgerAmount q) (hlow : 1000000000 ≤ rate) (hhigh : rate ≤ 2000000000) :
    sendMaxCoversFee env source amount rate = .ok (decide (q * rate ≤ p * 10 ^ 9)) := by
  obtain ⟨n, rfl⟩ : ∃ n : Nat, rate = n := ⟨rate.toNat, by omega⟩
  obtain ⟨sent, hsent, hsentValue⟩ := Decimal.mul_of_fits hsource (denotes_natural 1000000000)
    (fits_mul hp (by decide))
  obtain ⟨needed, hneeded, hneededValue⟩ := Decimal.mul_of_fits hamount (denotes_natural n)
    (fits_mul hq (by omega))
  have hbillion : ((1000000000 : Nat) : ℚ) = 10 ^ 9 := by norm_num
  rw [hbillion] at hsentValue
  unfold sendMaxCoversFee
  rw [decimalOf_toString]
  refine bind_eq_ok.mpr ⟨_, rfl, bind_eq_ok.mpr ⟨sent, by simp only [decimalMul, hsent], ?_⟩⟩
  refine bind_eq_ok.mpr ⟨needed, by simp only [decimalMul, hneeded], bind_eq_ok.mpr
    ⟨_, decimalLt_denotes hsentValue hneededValue, ?_⟩⟩
  show Except.ok (!decide (p * 10 ^ 9 < q * n)) = _
  rw [Int.cast_natCast, ← decide_not]
  exact congrArg Except.ok (decide_eq_decide.mpr not_lt)

/-! ## Section 4: What an accepted run has read -/

/-- The pages of a listing, one after the other. -/
theorem path_accountLinesFrom {payer : String} {peer : Json} {pages : Nat} {marker : Json}
    {seen : List String} {acc lines : List Dict} {t : List (Event Op Ret)}
    (h : Path (accountLinesFrom env payer peer pages marker seen acc) t (.ok lines)) :
    lines = acc ++ reportedLines t := by
  -- Each page adds its lines to those that were read before.
  induction pages generalizing marker seen acc t with
  | zero => cases h
  | succ pages ih =>
    unfold accountLinesFrom at h
    obtain ⟨result, t', rfl, hrest⟩ := path_request_bind_ok.mp h
    obtain ⟨page, hpage, hrest⟩ := path_lift_bind_ok.mp hrest
    have hfirst : reportedLines (⟨.rpc (.accountLines payer peer marker), .ok result⟩ :: t') =
        page.items.filterMap Json.asDict? ++ reportedLines t' := by
      simp [reportedLines, hpage]
    rw [hfirst, ← List.append_assoc]
    simp only at hrest
    split at hrest
    · obtain ⟨rfl, hlines⟩ := hrest
      rw [Except.ok.inj hlines]
      simp [reportedLines]
    · obtain ⟨key, -, hrest⟩ := path_lift_bind_ok.mp hrest
      exact ih hrest

theorem path_xrpReserveParameters_bind_ok {β : Type} {k : Int × Int → Service β}
    {t : List (Event Op Ret)} {b : β} (h : Path (xrpReserveParameters env >>= k) t (.ok b)) :
    ∃ state validated values t', t = ⟨.rpc .serverState, .ok state⟩ :: t' ∧
      validatedLedgerOf state = .ok validated ∧ reserveValues env validated = .ok values ∧
      Path (k values) t' (.ok b) := by
  unfold xrpReserveParameters at h
  rw [Prog.bind_assoc] at h
  obtain ⟨state, t', rfl, hrest⟩ := path_request_bind_ok.mp h
  rw [Prog.bind_assoc] at hrest
  obtain ⟨validated, hvalidated, hrest⟩ := path_lift_bind_ok.mp hrest
  obtain ⟨values, hvalues, hrest⟩ := path_lift_bind_ok.mp hrest
  exact ⟨state, validated, values, t', rfl, hvalidated, hvalues, hrest⟩

theorem failIf_check_ok {bad : Prop} [Decidable bad] {e : FacilitatorExc} {t : List (Event Op Ret)}
    (h : Path (check (failIf bad e)) t (.ok ())) : t = [] ∧ ¬ bad := by
  obtain ⟨ht, hok⟩ := path_check_ok.mp h
  exact ⟨ht, failIf_eq_ok.mp hok⟩

theorem reserve_of_xrpAccountReserve {data : Dict} {base increment reserve : Int}
    (h : xrpAccountReserve data base increment = .ok reserve) :
    ∃ ownerCount, (Dict.get data "OwnerCount").asInt? = some ownerCount ∧ 0 ≤ ownerCount ∧
      reserve = base + ownerCount * increment := by
  unfold xrpAccountReserve at h
  simp only at h
  split at h
  · next ownerCount hcount =>
    split at h
    · cases h
    · next hnonneg => exact ⟨ownerCount, hcount, not_lt.mp hnonneg, (Except.ok.inj h).symm⟩
  · cases h

theorem rate_of_transferRateOf {data : Dict} {rate : Int} (h : transferRateOf data = .ok rate) :
    1000000000 ≤ rate ∧ rate ≤ 2000000000 := by
  unfold transferRateOf at h
  simp only at h
  split at h
  · split at h
    · next hrange => rwa [Except.ok.inj h] at hrange
    · cases h
  · cases h

/-- The line that is taken holds the amount. -/
theorem taken_of_trustlineCovers {source : Decimal} {p : ℚ} {lines : List Dict} (hsource : source.Denotes p)
    (h : trustlineCovers env source lines = .ok true) :
    ∃ line, lines.head? = some line ∧ HoldsAtLeast env p line := by
  cases lines with
  | nil => cases h
  | cons line rest =>
    obtain ⟨balance, hbalance, h⟩ := bind_eq_ok.mp h
    obtain ⟨short, hshort, h⟩ := bind_eq_ok.mp h
    have hlong : short = false := by simpa using Except.ok.inj h
    rw [hlong] at hshort
    have htext : decimalOfStr env.unicode
        (str env.unicode ((Dict.get? line "balance").getD (.str "0"))) = some balance := by
      unfold decimalOf at hbalance
      split at hbalance
      · next d hd => rw [hd, Except.ok.inj hbalance]
      · cases hbalance
    refine ⟨line, rfl, balance, htext, ?_⟩
    cases balance with
    | finite neg coeff exp =>
      right
      refine ⟨_, ⟨neg, coeff, exp, rfl, rfl⟩, ?_⟩
      rw [decimalLt_denotes ⟨neg, coeff, exp, rfl, rfl⟩ hsource] at hshort
      simpa using hshort
    | infinite neg =>
      obtain ⟨n, c, e, rfl, -⟩ := hsource
      cases neg with
      | false => exact .inl rfl
      | true =>
        unfold decimalLt at hshort
        simp [Decimal.cmp] at hshort
    | nan signaling =>
      unfold decimalLt at hshort
      obtain ⟨n, c, e, rfl, -⟩ := hsource
      simp [Decimal.cmp] at hshort

/-! ## Section 5: When an accepted payment is covered -/

section Accepted

variable {F : ExactXRPLFacilitatorScheme env} {pages : Nat} {tx : Dict} {r : PaymentRequirements}
  {payer : String} {t : List (Event Op Ret)}

/-- The issued amounts of the transaction are numbers of the ledger. -/
def LedgerAmounts (env : Env) (tx : Dict) : Prop :=
  ∀ field ∈ ["Amount", "DeliverMax", "SendMax"], ∀ d, Dict.get tx field = .obj d →
    ∃ q, TextDenotes env.unicode (str env.unicode (Dict.get d "value")) q ∧ IsLedgerAmount q

/-- The issued amount and its limit, as numbers of the ledger. -/
theorem amounts_of_structureOk (hstructure : StructureOk F tx r) (hledger : LedgerAmounts env tx)
    (hasset : r.asset ≠ "XRP") :
    ∃ issuer sendMax limit required p q, Dict.get r.extraOr "issuer" = .str issuer ∧
      Dict.get tx "SendMax" = .obj sendMax ∧
      decimalOfStr env.unicode (str env.unicode (Dict.get sendMax "value")) = some limit ∧
      limit.Denotes p ∧ IsLedgerAmount p ∧ decimalOfStr env.unicode r.amount = some required ∧
      required.Denotes q ∧ IsLedgerAmount q := by
  obtain ⟨field, other, hpair, -, -, hamount⟩ := hstructure.amount
  have hfield : field ∈ ["Amount", "DeliverMax", "SendMax"] := by
    simp only [List.mem_cons, Prod.mk.injEq, List.not_mem_nil, or_false] at hpair
    rcases hpair with ⟨rfl, -⟩ | ⟨rfl, -⟩ <;> decide
  cases hamount with
  | native asset digits drops isPaid value required noConversion => exact absurd asset hasset
  | issued asset amount sendMax currency issuer required value limit q isPaid isLimit code issuerOf
      paidCurrency paidIssuer limitCurrency limitIssuer requiredValue paidValue limitValue exact_
      covers =>
    obtain ⟨p, ⟨d, hd, hp⟩, hledgerLimit⟩ := hledger "SendMax" (by decide) sendMax isLimit
    obtain ⟨q', hq', hledgerPaid⟩ := hledger field hfield amount isPaid
    have hsame : q' = q := textDenotes_unique hq' ⟨value, paidValue, exact_.2⟩
    rw [hsame] at hledgerPaid
    exact ⟨issuer, sendMax, d, required, p, q, issuerOf, isLimit, hd, hp, hledgerLimit, requiredValue,
      exact_.1, hledgerPaid⟩

/-- What an accepted check of an issued currency has read: the pages and the
    issuer's account. -/
theorem issued_of_path {issuer : String} {sendMax : Dict} {limit required : Decimal} {p q : ℚ}
    (hwire : xrplCurrencyCode env r.asset = .ok r.asset)
    (hissuer : Dict.get r.extraOr "issuer" = .str issuer) (hsendMax : Dict.get tx "SendMax" = .obj sendMax)
    (hlimit : decimalOfStr env.unicode (str env.unicode (Dict.get sendMax "value")) = some limit)
    (hp : limit.Denotes p) (hledgerp : IsLedgerAmount p)
    (hrequired : decimalOfStr env.unicode r.amount = some required) (hq : required.Denotes q)
    (hledgerq : IsLedgerAmount q) (h : Path (targetedIouCheck env pages tx r payer) t (.ok ())) :
    ∃ t' info data rate, t = t' ++ [⟨.rpc (.accountInfo issuer), .ok info⟩] ∧
      accountDataOf info = .obj data ∧ transferRateOf data = .ok rate ∧
      (∃ line ∈ (matchingLines env (.str issuer) r.asset (reportedLines t')).head?, HoldsAtLeast env p line) ∧
      (payer = issuer ∨ r.payTo = issuer ∨ q * rate ≤ p * 10 ^ 9) := by
  unfold targetedIouCheck at h
  simp only [hissuer] at h
  obtain ⟨currency, hcurrency, h⟩ := path_lift_bind_ok.mp h
  have hcode : currency = r.asset := Except.ok.inj (hcurrency.symm.trans hwire)
  obtain ⟨t₁, t₂, lines, ht, hlines, h⟩ := path_bind_ok.mp h
  have hlisted : lines = reportedLines t₁ := by simpa using path_accountLinesFrom hlines
  obtain ⟨sendMaxJson, hsendMaxJson, h⟩ := path_lift_bind_ok.mp h
  have hlimitOf : sendMaxJson = .obj sendMax := by
    have hget := subscript_obj_eq_ok hsendMaxJson
    unfold Dict.get at hsendMax
    rw [hget] at hsendMax
    exact hsendMax
  obtain ⟨valueJson, hvalueJson, h⟩ := path_lift_bind_ok.mp h
  obtain ⟨source, hsource, h⟩ := path_lift_bind_ok.mp h
  have hsourceOf : source = limit := by
    rw [hlimitOf] at hvalueJson
    have hget := subscript_obj_eq_ok hvalueJson
    unfold Dict.get at hlimit
    rw [hget] at hlimit
    have hdecimal : decimalOf env (str env.unicode valueJson) = .ok limit := by
      unfold decimalOf
      rw [show decimalOfStr env.unicode (str env.unicode valueJson) = some limit from hlimit]
    exact Except.ok.inj (hsource.symm.trans hdecimal)
  obtain ⟨destination, hdestination, h⟩ := path_lift_bind_ok.mp h
  have hdestinationOf : destination = required := by
    have hdecimal : decimalOf env r.amount = .ok required := by
      unfold decimalOf
      rw [hrequired]
    exact Except.ok.inj (hdestination.symm.trans hdecimal)
  obtain ⟨t₃, t₄, rate, ht₂, hrate, h⟩ := path_bind_ok.mp h
  unfold issuerTransferRate at hrate
  obtain ⟨info, t₅, ht₃, hrate⟩ := path_request_bind_ok.mp hrate
  obtain ⟨data, hdata, hrate⟩ := path_check_bind_ok.mp hrate
  obtain ⟨ht₅, hrate⟩ := path_lift_ok.mp hrate
  obtain ⟨covered, hcovered, h⟩ := path_lift_bind_ok.mp h
  obtain ⟨_, henough, h⟩ := path_check_bind_ok.mp h
  obtain ⟨funded, hfunded, h⟩ := path_lift_bind_ok.mp h
  obtain ⟨ht₄, hfund⟩ := failIf_check_ok h
  have hdataOf : accountDataOf info = .obj data := by
    unfold requireAccountData at hdata
    split at hdata
    · next d hd => rw [hd, Except.ok.inj hdata]
    · cases hdata
  rw [hsourceOf, hdestinationOf] at hcovered
  rw [hsourceOf, hcode, hlisted] at hfunded
  have hall : funded = true := by simpa using hfund
  have henough' : covered = true := by simpa using failIf_eq_ok.mp henough
  rw [hall] at hfunded
  rw [henough'] at hcovered
  refine ⟨t₁, info, data, rate, ?_, hdataOf, hrate, taken_of_trustlineCovers hp hfunded, ?_⟩
  · rw [ht, ht₂, ht₃, ht₅, ht₄]
    rfl
  · unfold feeDue at hcovered
    split at hcovered
    · obtain ⟨hlow, hhigh⟩ := rate_of_transferRateOf hrate
      rw [sendMaxCoversFee_exact hp hq hledgerp hledgerq hlow hhigh] at hcovered
      exact Or.inr (Or.inr (of_decide_eq_true (Except.ok.inj hcovered)))
    · next hparty =>
      rw [not_and_or, not_not, not_not] at hparty
      rcases hparty with hpayer | hpayee
      · exact Or.inl (Json.str.inj hpayer)
      · exact Or.inr (Or.inl (Json.str.inj hpayee))

theorem feeOf_of_structureOk (hstructure : StructureOk F tx r) {feeJson : Json} {fee : Int}
    (hfeeJson : subscript (.obj tx) "Fee" = .ok feeJson) (hfee : toInt env.unicode feeJson = .ok fee) :
    FeeOf env tx fee := by
  obtain ⟨digits, drops, hdigits, hdrops, -⟩ := hstructure.fee
  have hsame : feeJson = .str digits := by
    have hget := subscript_obj_eq_ok hfeeJson
    have hfield : Dict.get tx "Fee" = feeJson := by
      unfold Dict.get
      rw [hget]
      rfl
    exact hfield.symm.trans hdigits
  rw [hsame] at hfee
  exact ⟨digits, hdigits, hfee⟩

/-- An accepted run has read funds that suffice with the line that is taken. -/
theorem suffices_of_path (hwire : xrplCurrencyCode env r.asset = .ok r.asset)
    (hstructure : StructureOk F tx r) (hledger : LedgerAmounts env tx)
    (h : Path (targetedBalanceCheck env pages tx r payer) t (.ok ())) :
    ∃ funds, Reports env r payer t funds ∧ Suffices env tx r payer funds fun _ source =>
      ∃ line ∈ takenLine env r funds, HoldsAtLeast env source line := by
  unfold targetedBalanceCheck at h
  obtain ⟨account, data, t₁, ht, hdata, hrest⟩ := path_accountData_bind_ok h
  rw [ht]
  obtain ⟨balanceJson, hbalanceJson, hrest⟩ := path_lift_bind_ok.mp hrest
  obtain ⟨balance, hbalance, hrest⟩ := path_lift_bind_ok.mp hrest
  obtain ⟨state, validated, ⟨base, increment⟩, t₂, ht₁, hvalidated, hvalues, hrest⟩ :=
    path_xrpReserveParameters_bind_ok hrest
  rw [ht₁]
  simp only at hrest
  obtain ⟨reserve, hreserve, hrest⟩ := path_lift_bind_ok.mp hrest
  obtain ⟨ownerCount, hcount, hnonneg, rfl⟩ := reserve_of_xrpAccountReserve hreserve
  obtain ⟨feeJson, hfeeJson, hrest⟩ := path_lift_bind_ok.mp hrest
  obtain ⟨fee, hfee, hrest⟩ := path_lift_bind_ok.mp hrest
  have hfeeOf : FeeOf env tx fee := feeOf_of_structureOk hstructure hfeeJson hfee
  have hreported : ∀ funds : Funds, funds.balance = balance → funds.ownerCount = ownerCount →
      funds.reserveBase = base → funds.reserveIncrement = increment →
      AccountReported env funds account state := by
    rintro funds rfl rfl rfl rfl
    exact ⟨⟨data, balanceJson, hdata, hbalanceJson, hbalance, hcount, hnonneg⟩, validated, hvalidated, hvalues⟩
  split at hrest
  · next hasset =>
    obtain ⟨amount, hamount, hrest⟩ := path_lift_bind_ok.mp hrest
    obtain ⟨_, henough, hrest⟩ := path_check_bind_ok.mp hrest
    unfold accountExists at hrest
    rw [Prog.bind_assoc] at hrest
    obtain ⟨destination, t₃, ht₂, hrest⟩ := path_request_bind_ok.mp hrest
    obtain ⟨destinationExists, hexists, hrest⟩ := path_lift_bind_ok.mp hrest
    obtain ⟨rfl, hcreated⟩ := failIf_check_ok hrest
    rw [ht₂]
    have hspendable := failIf_eq_ok.mp henough
    refine ⟨⟨balance, ownerCount, base, increment, destinationExists, [], 0⟩,
      .native account state destination hasset (hreported _ rfl rfl rfl rfl) hexists,
      .native hasset amount fee hamount hfeeOf (not_lt.mp hspendable) ?_⟩
    by_cases hdestination : destinationExists = true
    · exact .inl hdestination
    · right
      by_contra hlow
      exact hcreated ⟨by simpa using hdestination, not_le.mp hlow⟩
  · next hasset =>
    obtain ⟨_, henough, hrest⟩ := path_check_bind_ok.mp hrest
    have hspendable := failIf_eq_ok.mp henough
    obtain ⟨issuer, sendMax, limit, required, p, q, hissuer, hsendMax, hlimit, hp, hledgerp, hrequired, hq,
      hledgerq⟩ := amounts_of_structureOk hstructure hledger hasset
    obtain ⟨t₃, info, issuerData, rate, ht₂, hinfo, hrate, htaken, htransfer⟩ := issued_of_path hwire hissuer
      hsendMax hlimit hp hledgerp hrequired hq hledgerq hrest
    rw [ht₂]
    refine ⟨⟨balance, ownerCount, base, increment, false, reportedLines t₃, rate⟩,
      .issued account state info issuer issuerData t₃ hasset (hreported _ rfl rfl rfl rfl) hissuer rfl hinfo
        hrate,
      .issued hasset issuer fee p q hissuer hfeeOf ⟨sendMax, hsendMax, limit, hlimit, hp⟩
        ⟨required, hrequired, hq⟩ (not_lt.mp hspendable) ?_ htransfer⟩
    unfold takenLine
    rw [hissuer]
    exact htaken

/-- Own currency or not, the line that is taken is a line of the payer towards
    the issuer. -/
theorem mem_of_takenLine {funds : Funds} {line : Dict} (h : line ∈ takenLine env r funds) :
    line ∈ funds.lines ∧ (Dict.get line "account").pyEq (Dict.get r.extraOr "issuer") = true := by
  have hmem := List.mem_of_mem_head? h
  obtain ⟨hline, hmatches⟩ := List.mem_filter.mp hmem
  exact ⟨hline, (Bool.and_eq_true_iff.mp hmatches).1⟩

/-- The line that is taken is in the currency of the asset. -/
def TakesAssetLine (env : Env) (r : PaymentRequirements) (funds : Funds) : Prop :=
  r.asset ≠ "XRP" → ∀ line ∈ takenLine env r funds, InCurrency env r.asset line

theorem TakesAssetLine.takesOwnCurrency {funds : Funds} (h : TakesAssetLine env r funds) :
    TakesOwnCurrency env tx r funds := fun hasset line hline => Or.inl (h hasset line hline)

/-- Funds that suffice by the line that is taken cover the payment, when this line
    is in the currency of the asset or another line pays in it. -/
theorem Suffices.covers {funds : Funds}
    (h : Suffices env tx r payer funds fun _ source => ∃ line ∈ takenLine env r funds, HoldsAtLeast env source line)
    (htakes : TakesOwnCurrency env tx r funds) : Covers env tx r payer funds := by
  cases h with
  | native asset amount fee amountOf feeOf spendable created =>
    exact .native asset amount fee amountOf feeOf spendable created
  | issued asset issuer fee source amount issuerOf feeOf sourceOf amountOf spendable holds transfer =>
    refine .issued asset issuer fee source amount issuerOf feeOf sourceOf amountOf spendable ?_ transfer
    obtain ⟨line, hline, hholds⟩ := holds
    obtain ⟨hmem, haccount⟩ := mem_of_takenLine hline
    rcases htakes asset line hline with hown | ⟨issuer', source', hissuer', hsource', other, hother, hpays⟩
    · rw [issuerOf] at haccount
      exact ⟨line, hmem, haccount, hown, hholds⟩
    · have hissuer : issuer' = issuer := Json.str.inj (hissuer'.symm.trans issuerOf)
      obtain ⟨d, hd, hvalue⟩ := sourceOf
      obtain ⟨d', hd', hvalue'⟩ := hsource'
      have hdict : d' = d := Json.obj.inj (hd'.symm.trans hd)
      rw [hdict] at hvalue'
      rw [hissuer, textDenotes_unique hvalue' hvalue] at hpays
      exact ⟨other, hother, hpays⟩

/-- An accepted payment is covered when the line that was taken is in the currency
    of the asset. -/
theorem covers_of_takesAssetLine (F : ExactXRPLFacilitatorScheme env) (pages : Nat) (tx : Dict)
    (r : PaymentRequirements) (payer : String) (t : List (Event Op Ret)) (extra : ExactXRPLExtra)
    (hshape : validateRequirementsShape env r = .ok extra)
    (hstructure : verifyStructure F tx r payer = .ok ()) (hledger : LedgerAmounts env tx)
    (h : Path (targetedBalanceCheck env pages tx r payer) t (.ok ())) :
    ∃ funds, Reports env r payer t funds ∧ (TakesAssetLine env r funds → Covers env tx r payer funds) := by
  obtain ⟨funds, hreports, hsuffices⟩ := suffices_of_path (shapeOk_of_shape hshape).wire
    (structureOk_of_verifyStructure (wellShaped_of_shape hshape) hstructure) hledger h
  exact ⟨funds, hreports, fun hown => hsuffices.covers hown.takesOwnCurrency⟩

/-- A verified payment has been simulated, or the reported funds cover it when the
    line that was taken is in the currency of the asset. -/
theorem Verified.simulated_or_covers {payload : PaymentPayload} {blob method path : String}
    {extra : ExactXRPLExtra} (h : Verified F pages payload r t blob tx method path)
    (hshape : validateRequirementsShape env r = .ok extra) (hledger : LedgerAmounts env tx) :
    (∃ transaction answer, Answered t (.simulate transaction) answer ∧
      Dict.get (answer.asDict?.getD []) "engine_result" = .str "tesSUCCESS") ∨
    ∃ before answers funds, t = before ++ answers ∧ Reports env r (payerOf env tx) answers funds ∧
      (TakesAssetLine env r funds → Covers env tx r (payerOf env tx) funds) := by
  cases h.funds with
  | simulated transaction answer answered success => exact Or.inl ⟨transaction, answer, answered, success⟩
  | balances before answers split_ covered =>
    obtain ⟨funds, hreports, hsuffices⟩ :=
      suffices_of_path (shapeOk_of_shape hshape).wire h.structure_ hledger covered
    exact Or.inr ⟨before, answers, funds, split_, hreports,
      fun hown => hsuffices.covers hown.takesOwnCurrency⟩

/-- An accepted payment is covered if and only if the line that was taken is in
    the currency of the asset, or another line pays in it. -/
theorem covers_iff (F : ExactXRPLFacilitatorScheme env) (pages : Nat) (tx : Dict)
    (r : PaymentRequirements) (payer : String) (t : List (Event Op Ret)) (extra : ExactXRPLExtra)
    (hshape : validateRequirementsShape env r = .ok extra)
    (hstructure : verifyStructure F tx r payer = .ok ()) (hledger : LedgerAmounts env tx)
    (h : Path (targetedBalanceCheck env pages tx r payer) t (.ok ())) :
    ∃ funds, Reports env r payer t funds ∧
      (Covers env tx r payer funds ↔ TakesOwnCurrency env tx r funds) := by
  have hwellShaped := wellShaped_of_shape hshape
  have hwire := (shapeOk_of_shape hshape).wire
  obtain ⟨funds, hreports, hsuffices⟩ :=
    suffices_of_path hwire (structureOk_of_verifyStructure hwellShaped hstructure) hledger h
  refine ⟨funds, hreports, ?_, ?_⟩
  · intro hcovers hasset line _
    cases hcovers with
    | native asset => exact absurd asset hasset
    | issued asset issuer fee source amount issuerOf feeOf sourceOf amountOf spendable holds transfer =>
      exact Or.inr ⟨issuer, source, issuerOf, sourceOf, holds⟩
  · exact hsuffices.covers

/-- The lines that are reported are those of the pages. -/
theorem lines_of_reports {funds : Funds} (h : Reports env r payer t funds) (hasset : r.asset ≠ "XRP") :
    funds.lines = reportedLines t := by
  cases h with
  | native account state destination asset reported exists_ => exact absurd asset hasset
  | issued account state issuerInfo issuer data pages asset reported issuerOf listed data_ rate =>
    rw [listed]
    simp [reportedLines]

end Accepted

/-! ### A line in another currency -/

namespace Sample

open XrplX402.Sample

/-- The payment of ten units of `USD`. -/
def usdTx : Dict :=
  let ten : Json := .obj [("currency", .str "USD"), ("issuer", .str "rIssuer"), ("value", .str "10")]
  [("TransactionType", .str "Payment"), ("Account", .str "rPayer"), ("Destination", .str "rMerchant"),
    ("Amount", ten), ("SendMax", ten), ("Fee", .str "12")]

/-- The node reports one line, in this currency. -/
def balanceAnswers (currency : String) : List (Event Op Ret) :=
  [⟨.rpc (.accountInfo "rPayer"), .ok (.obj [("account_data",
      .obj [("Balance", .str "20000000"), ("OwnerCount", .int 1)])])⟩,
    ⟨.rpc .serverState, .ok (.obj [("state", .obj [("validated_ledger",
      .obj [("reserve_base", .int 1000000), ("reserve_inc", .int 200000)])])])⟩,
    ⟨.rpc (.accountLines "rPayer" (.str "rIssuer") .null), .ok (.obj [("lines", .arr [.obj
      [("account", .str "rIssuer"), ("currency", .str currency), ("balance", .str "100")]])])⟩,
    ⟨.rpc (.accountInfo "rIssuer"), .ok (.obj [("account_data", .obj [])])⟩]

theorem usdTx_ledgerAmounts : LedgerAmounts sampleEnv usdTx := by
  have hten : ∃ q, TextDenotes sampleEnv.unicode "10" q ∧ IsLedgerAmount q :=
    ⟨10, ⟨.finite false 10 0, by decide +kernel, denotes_natural 10⟩, 10, 0, by norm_num, by decide, by decide,
      by decide⟩
  intro field hfield d hd
  simp only [List.mem_cons, List.not_mem_nil, or_false] at hfield
  rcases hfield with rfl | rfl | rfl
  · rw [← Json.obj.inj hd]
    exact hten
  · cases hd
  · rw [← Json.obj.inj hd]
    exact hten

end Sample

open XrplX402.Sample in
/-- A line for `usd` is taken for `USD`: the check passes and nothing covers the
    payment. -/
theorem takes_another_currency :
    validateRequirementsShape Sample.sampleEnv (tenOf "USD") = .ok tenOfExtra ∧
      verifyStructure Sample.facilitator Sample.usdTx (tenOf "USD") "rPayer" = .ok () ∧
      LedgerAmounts Sample.sampleEnv Sample.usdTx ∧
      Path (targetedBalanceCheck Sample.sampleEnv 1 Sample.usdTx (tenOf "USD") "rPayer")
        (Sample.balanceAnswers "usd") (.ok ()) ∧
      ∃ funds, Reports Sample.sampleEnv (tenOf "USD") "rPayer" (Sample.balanceAnswers "usd") funds ∧
        ¬ Covers Sample.sampleEnv Sample.usdTx (tenOf "USD") "rPayer" funds := by
  have hshape : validateRequirementsShape Sample.sampleEnv (tenOf "USD") = .ok tenOfExtra := by
    decide +kernel
  have hstructure : verifyStructure Sample.facilitator Sample.usdTx (tenOf "USD") "rPayer" = .ok () := by
    decide +kernel
  have hpath : Path (targetedBalanceCheck Sample.sampleEnv 1 Sample.usdTx (tenOf "USD") "rPayer")
      (Sample.balanceAnswers "usd") (.ok ()) := path_of_replay (by decide +kernel)
  obtain ⟨funds, hreports, -⟩ := suffices_of_path (shapeOk_of_shape hshape).wire
    (structureOk_of_verifyStructure (wellShaped_of_shape hshape) hstructure) Sample.usdTx_ledgerAmounts hpath
  refine ⟨hshape, hstructure, Sample.usdTx_ledgerAmounts, hpath, funds, hreports, ?_⟩
  intro hcovers
  have hlines := lines_of_reports hreports (by decide)
  cases hcovers with
  | native asset => exact absurd asset (by decide)
  | issued asset issuer fee source amount issuerOf feeOf sourceOf amountOf spendable holds transfer =>
    obtain ⟨line, hline, hpays⟩ := holds
    rw [hlines] at hline
    have honly : reportedLines (Sample.balanceAnswers "usd") = [[("account", .str "rIssuer"),
        ("currency", .str "usd"), ("balance", .str "100")]] := rfl
    rw [honly, List.mem_singleton] at hline
    rw [hline] at hpays
    exact absurd hpays.currency.2 (by decide +kernel)

open XrplX402.Sample in
theorem covers_iff_sample :
    ∃ funds, Reports Sample.sampleEnv (tenOf "USD") "rPayer" (Sample.balanceAnswers "USD") funds ∧
      Covers Sample.sampleEnv Sample.usdTx (tenOf "USD") "rPayer" funds := by
  obtain ⟨funds, hreports, hiff⟩ := covers_iff Sample.facilitator 1 Sample.usdTx (tenOf "USD") "rPayer"
    (Sample.balanceAnswers "USD") tenOfExtra (by decide +kernel) (by decide +kernel)
    Sample.usdTx_ledgerAmounts (path_of_replay (by decide +kernel))
  refine ⟨funds, hreports, hiff.mpr ?_⟩
  intro hasset line hline
  left
  have hlines := lines_of_reports hreports hasset
  obtain ⟨hmem, -⟩ := mem_of_takenLine hline
  rw [hlines] at hmem
  have honly : reportedLines (Sample.balanceAnswers "USD") = [[("account", .str "rIssuer"),
      ("currency", .str "USD"), ("balance", .str "100")]] := rfl
  rw [honly, List.mem_singleton] at hmem
  rw [hmem]
  exact ⟨by decide +kernel, by decide +kernel⟩

end XrplX402.Facilitator
