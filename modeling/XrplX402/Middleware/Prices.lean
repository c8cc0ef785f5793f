import XrplX402.Py.FixedPoint
import XrplX402.Py.Items
import XrplX402.Rendering

/-! # Prices and offers

    The server turns the price of a route into the payment requirements that it
    offers. A money price is written as a decimal amount of the default asset of
    the network, and the requirements take over what the facilitator advertises.

    * **The scheme**: `parsePrice`, `enhancePaymentRequirements`.
    * **Amounts**: the text of an amount is canonical.
    * **Offers**: what is offered, the facilitator's envelope checks accept. -/

namespace XrplX402.Middleware

open Py Facilitator

variable {env : Env}

/-! ## Section 1: The scheme of the server -/

structure AssetAmount where
  amount : String
  asset : String
  extra : Option Dict
  deriving DecidableEq

/-- What `parse_money` returns. -/
structure Money where
  amount : String
  symbol : Option String
  deriving DecidableEq

/-- A price is an asset amount, or the value of another type that a route names. -/
inductive Price where
  | assetAmount (value : AssetAmount)
  | other (value : Json)
  deriving DecidableEq

/-- Functions of the protocol's own package. -/
structure PriceSchemas where
  /-- `parse_money(price)` -/
  parseMoney : Json → Except Exc Money
  /-- `AssetAmount.model_validate(price)` -/
  modelValidate : Dict → Except Exc AssetAmount

def getDefaultAsset (env : Env) (network : String) (symbol : Option String) :
    Except Exc DefaultAsset :=
  match (defaultAssets.lookup network).getD [] with
  | [] => .error (valueError ("No default asset configured for network " ++ network))
  | first :: rest =>
    match symbol with
    | none => .ok first
    | some symbol =>
      match (first :: rest).find? fun entry =>
        env.unicode.upperStr entry.symbol = env.unicode.upperStr symbol with
      | some entry => .ok entry
      | none => .error (valueError
        ("No " ++ symbol ++ " default asset configured for network " ++ network))

/-- The order of a NaN raises outside of the guarded part. -/
def decimalString (env : Env) (value : String) : Except Exc String :=
  match decimalOfStr env.unicode value with
  | none => .error (valueError "XRPL IOU price must be a decimal string")
  | some parsed =>
    match parsed.cmp (.finite false 0 0) with
    | none => .error ⟨.decimalException, "comparison involving NaN"⟩
    | some .gt => .ok (String.ofList (Decimal.trimmed (Decimal.formatF parsed)))
    | some _ => .error (valueError "XRPL exact price must be greater than zero")

def validateAssetAmount (env : Env) (value : AssetAmount) : Except Exc AssetAmount := do
  let asset ← xrplCurrencyCode env value.asset
  let unsponsored := Items.set "areFeesSponsored" (.bool false) (value.extra.getD [])
  let extra := if Dict.has unsponsored "assetTransferMethod" then unsponsored
    else Items.set "assetTransferMethod" (.str "sequence") unsponsored
  if asset = xrpCode then
    failIf (Dict.get extra "issuer" ≠ .null) (valueError "XRP prices must not include an issuer")
    failIf (env.unicode.isDigitStr value.amount = false)
      (valueError "XRP prices use an integer drops string")
  else
    failIf ((Dict.get extra "issuer").truthy = false)
      (valueError "XRPL IOU prices require extra.issuer")
  return ⟨value.amount, asset, some extra⟩

def parsePrice (env : Env) (schemas : PriceSchemas) (price : Price) (network : String) :
    Except Exc AssetAmount :=
  let ofMoney (price : Json) : Except Exc AssetAmount := do
    let parsed ← schemas.parseMoney price
    let default ← getDefaultAsset env network parsed.symbol
    let amount ← decimalString env parsed.amount
    return ⟨amount, default.asset, some [("issuer", .str default.issuer),
      ("areFeesSponsored", .bool false), ("assetTransferMethod", .str "sequence")]⟩
  match price with
  | .assetAmount value => validateAssetAmount env value
  | .other (.obj d) =>
    if Dict.has d "amount" then schemas.modelValidate d >>= validateAssetAmount env
    else ofMoney (.obj d)
  | .other j => ofMoney j

/-- `value in container`; a dictionary is asked for its keys, which are hashed. -/
def isIn (value container : Json) : Except Exc Bool :=
  match container, value with
  | .arr xs, _ => .ok (xs.any fun x => x.pyEq value)
  | .str s, .str part => .ok (decide (part.toList <:+: s.toList))
  | .str _, _ => .error (typeError "'in <string>' requires string as left operand")
  | .obj d, .str key => .ok (Dict.has d key)
  | .obj _, .arr _ => .error (typeError "unhashable type: 'list'")
  | .obj _, .obj _ => .error (typeError "unhashable type: 'dict'")
  | .obj _, _ => .ok false
  | _, _ => .error (typeError "argument is not iterable")

/-- The entries of the kind that the requirements do not name themselves, without
    what only advertises. -/
def mergedExtra (kindExtra extra : Option Dict) : Dict :=
  Items.set "areFeesSponsored" (.bool false)
    (Items.update (kindExtra.getD []) (extra.getD []))

def enhancePaymentRequirements (env : Env) (requirements : PaymentRequirements)
    (kindExtra : Option Dict) : Except Exc PaymentRequirements := do
  let merged := mergedExtra kindExtra requirements.extra
  let methods := Dict.get merged "assetTransferMethods"
  let merged := Dict.pop (Dict.pop (Dict.pop merged "assetTransferMethods")
    "defaultAssetTransferMethod") "paymentFlows"
  let method := (Dict.get merged "assetTransferMethod").or (.str "sequence")
  let missing ← if methods.truthy then (!·) <$> isIn method methods else .ok false
  failIf (missing = true) (valueError ("XRPL transfer method " ++ Py.str env.unicode method ++
    " is not supported by the facilitator"))
  let enhanced := { requirements with extra := some (Items.set "assetTransferMethod" method merged) }
  let _ ← validateRequirementsShape env enhanced
  return enhanced

/-- `get_extra`, which is the same for every network. -/
def getExtra : Dict :=
  [("areFeesSponsored", .bool false), ("defaultAssetTransferMethod", .str "sequence"),
    ("assetTransferMethods", .arr [.str "sequence", .str "ticketSequence"]),
    ("paymentFlows", .obj
      [("sequence", .obj [("supported", .arr [.str "authorization"]), ("default", .str "authorization")]),
        ("ticketSequence",
          .obj [("supported", .arr [.str "authorization"]), ("default", .str "authorization")])])]

/-! ## Section 2: The text of an amount -/

theorem isPlainNat_of_digits {cs : List Char} (hne : cs ≠ []) (hdigits : ∀ c ∈ cs, isAsciiDigit c = true)
    (hhead : cs = ['0'] ∨ cs.head? ≠ some '0') : isPlainNat cs = true := by
  rcases hhead with rfl | hhead
  · rfl
  cases cs with
  | nil => exact absurd rfl hne
  | cons c cs =>
    have hfirst : c ≠ '0' := fun h => hhead (congrArg some h)
    have hall : cs.all isAsciiDigit = true :=
      List.all_eq_true.mpr fun d hd => hdigits d (List.mem_cons_of_mem _ hd)
    unfold isPlainNat
    split
    · next h => cases h
    · rfl
    · next h =>
      obtain ⟨rfl, rfl⟩ := List.cons.inj h
      simp [hfirst, hall, hdigits c List.mem_cons_self]

/-- A positive number without an exponent is a decimal amount. -/
theorem isDecimalAmount_fixedPoint {coeff : Nat} {exp : Int} (hpos : 0 < coeff) (hexp : exp ≤ 0) :
    isDecimalAmount (String.ofList (Decimal.fixedPoint coeff exp)) = true := by
  unfold isDecimalAmount
  rw [String.toList_ofList]
  rcases eq_or_lt_of_le hexp with rfl | hneg
  -- A whole number is written without a point.
  · rw [Decimal.fixedPoint_zero]
    have hdigits : ∀ c ∈ Nat.toDigits 10 coeff, isAsciiDigit c = true :=
      fun c hc => isAsciiDigit_of_mem_toDigits hc
    rw [List.takeWhile_eq_self_iff.mpr hdigits, List.dropWhile_eq_nil_iff.mpr hdigits,
      isPlainNat_of_digits Nat.toDigits_ne_nil hdigits (.inr (Decimal.head?_toDigits hpos))]
    rfl
  -- Both sides of the point have digits, and the first does not begin with a superfluous zero.
  · have hhead := Decimal.head?_integerPart hpos (-exp).toNat
    have hlen := Decimal.length_paddedDigits coeff (-exp).toNat
    have hplaces : 0 < (-exp).toNat := by omega
    rw [Decimal.fixedPoint_neg _ hneg]
    have hall : ∀ c ∈ Decimal.paddedDigits coeff (-exp).toNat, isAsciiDigit c = true :=
      fun c hc => Decimal.mem_padded hc
    generalize Decimal.paddedDigits coeff (-exp).toNat = digits at hhead hlen hall
    generalize (-exp).toNat = places at hhead hlen hplaces
    have hip : ∀ c ∈ digits.take (digits.length - places), isAsciiDigit c = true :=
      fun c hc => hall c (List.mem_of_mem_take hc)
    have hfp : ∀ c ∈ digits.drop (digits.length - places), isAsciiDigit c = true :=
      fun c hc => hall c (List.mem_of_mem_drop hc)
    have hne : digits.take (digits.length - places) ≠ [] := by
      intro hnil
      have hzero := congrArg List.length hnil
      rw [List.length_take, List.length_nil] at hzero
      omega
    have hne' : digits.drop (digits.length - places) ≠ [] := by
      intro hnil
      have hzero := congrArg List.length hnil
      rw [List.length_drop, List.length_nil] at hzero
      omega
    rw [List.takeWhile_append_of_pos hip, List.takeWhile_cons_of_neg (by decide), List.append_nil,
      List.dropWhile_append_of_pos hip, List.dropWhile_cons_of_neg (by decide),
      isPlainNat_of_digits hne hip hhead]
    simpa [hne'] using hfp

theorem textDenotes_fixedPoint (u : UnicodeData) (coeff : Nat) (exp : Int) :
    TextDenotes u (String.ofList (Decimal.fixedPoint coeff exp)) (coeff * 10 ^ exp) := by
  obtain ⟨c, e, hparse, hvalue⟩ := Decimal.parseUnsigned_fixedPoint coeff exp
  refine ⟨.finite false c e, decimalOfStr_of_parseUnsigned u ?_ ?_, false, c, e, rfl, ?_⟩
  · rw [String.toList_ofList]
    intro ch hch
    rcases Decimal.mem_fixedPoint hch with hdigit | ⟨rfl, -⟩
    · simp [isAmountChar, hdigit]
    · decide
  · rw [String.toList_ofList]
    exact hparse
  · rw [← hvalue]
    unfold Decimal.ratValue
    rw [if_neg (by decide), one_mul]

/-- The text of a positive price. -/
theorem decimalString_of_pos {value : String} {q : ℚ} (hvalue : TextDenotes env.unicode value q)
    (hpos : 0 < q) : ∃ (coeff : Nat) (exp : Int), 0 < coeff ∧ (coeff : ℚ) * 10 ^ exp = q ∧
      decimalString env value = .ok (String.ofList (Decimal.trimmed (Decimal.fixedPoint coeff exp))) := by
  obtain ⟨_, hparsed, neg, coeff, exp, rfl, rfl⟩ := hvalue
  -- A negative number is not above zero.
  have hsign : neg = false := by
    cases neg with
    | false => rfl
    | true =>
      have hsize : (0 : ℚ) ≤ coeff * 10 ^ exp := by positivity
      simp only [Decimal.ratValue, if_true] at hpos
      linarith
  subst hsign
  have hcoeff : 0 < coeff := by
    apply Nat.pos_of_ne_zero
    rintro rfl
    simp [Decimal.ratValue] at hpos
  have hcompare : (Decimal.finite false coeff exp).cmp (.finite false 0 0) = some .gt := by
    rw [Decimal.cmp_finite, Decimal.ratValue_zero, compare_gt_iff_gt.mpr hpos]
  refine ⟨coeff, exp, hcoeff, ?_, ?_⟩
  · simp [Decimal.ratValue]
  · unfold decimalString
    rw [hparsed]
    simp only [hcompare]
    rfl

/-- A number that is not positive is refused. -/
theorem decimalString_of_nonpos {value : String} {q : ℚ} (hvalue : TextDenotes env.unicode value q)
    (hq : q ≤ 0) :
    decimalString env value = .error (valueError "XRPL exact price must be greater than zero") := by
  obtain ⟨_, hparsed, neg, coeff, exp, rfl, rfl⟩ := hvalue
  have hcompare : (Decimal.finite neg coeff exp).cmp (.finite false 0 0) ≠ some .gt := by
    rw [Decimal.cmp_finite, Decimal.ratValue_zero, ne_eq, Option.some.injEq, compare_gt_iff_gt]
    exact not_lt.mpr hq
  obtain ⟨order, horder⟩ : ∃ order,
      (Decimal.finite neg coeff exp).cmp (.finite false 0 0) = some order := ⟨_, rfl⟩
  unfold decimalString
  rw [hparsed]
  simp only [horder] at hcompare ⊢
  cases order with
  | gt => exact absurd rfl hcompare
  | lt => rfl
  | eq => rfl

/-- The text is a decimal amount of the same number. -/
theorem decimalString_spec {value : String} {q : ℚ} (hvalue : TextDenotes env.unicode value q)
    (hpos : 0 < q) : ∃ amount, decimalString env value = .ok amount ∧
      isDecimalAmount amount = true ∧ TextDenotes env.unicode amount q := by
  obtain ⟨coeff, exp, hcoeff, rfl, htext⟩ := decimalString_of_pos hvalue hpos
  obtain ⟨c, e, htrimmed, hc, hreduced, hsame⟩ := Decimal.trimmed_fixedPoint hcoeff exp
  have hexp : e ≤ 0 := by
    rcases hreduced with rfl | ⟨hneg, -⟩
    · exact le_rfl
    · exact hneg.le
  refine ⟨_, htext, ?_, ?_⟩
  · rw [htrimmed]
    exact isDecimalAmount_fixedPoint hc hexp
  · rw [htrimmed, ← hsame]
    exact textDenotes_fixedPoint env.unicode c e

/-- Two positive prices are written alike exactly when they are the same number,
    and what is written is a decimal amount that denotes it and is written as it is. -/
theorem decimalString_canonical (env : Env) (left right : String) (p q : ℚ)
    (hleft : TextDenotes env.unicode left p) (hright : TextDenotes env.unicode right q) (hp : 0 < p)
    (hq : 0 < q) :
    (decimalString env left = decimalString env right ↔ p = q) ∧
      ∃ amount, decimalString env left = .ok amount ∧ isDecimalAmount amount = true ∧
        TextDenotes env.unicode amount p ∧ decimalString env amount = .ok amount := by
  have hsame : ∀ {v w : String} {p q : ℚ}, TextDenotes env.unicode v p → TextDenotes env.unicode w q →
      0 < p → 0 < q → (decimalString env v = decimalString env w ↔ p = q) := by
    intro v w p q hv hw hp hq
    obtain ⟨c₁, e₁, hc₁, hvalue₁, htext₁⟩ := decimalString_of_pos hv hp
    obtain ⟨c₂, e₂, hc₂, hvalue₂, htext₂⟩ := decimalString_of_pos hw hq
    rw [htext₁, htext₂, ← hvalue₁, ← hvalue₂, ← Decimal.trimmed_fixedPoint_inj hc₁ hc₂,
      Except.ok.injEq, String.ofList_inj]
  obtain ⟨amount, htext, hdecimal, hdenotes⟩ := decimalString_spec hleft hp
  refine ⟨hsame hleft hright hp hq, amount, htext, hdecimal, hdenotes, ?_⟩
  rw [← htext]
  exact (hsame hdenotes hleft hp hp).mpr rfl

theorem decimalString_canonical_half :
    decimalString Sample.shapeEnv "5e-1" = decimalString Sample.shapeEnv "0.500" ∧
      decimalString Sample.shapeEnv "0.500" = .ok "0.5" := by
  have hleft : TextDenotes Sample.shapeEnv.unicode "5e-1" (5 * 10 ^ (-1 : Int)) :=
    ⟨.finite false 5 (-1), by decide +kernel, false, 5, -1, rfl, by simp [Decimal.ratValue]⟩
  have hright : TextDenotes Sample.shapeEnv.unicode "0.500" (500 * 10 ^ (-3 : Int)) :=
    ⟨.finite false 500 (-3), by decide +kernel, false, 500, -3, rfl, by simp [Decimal.ratValue]⟩
  obtain ⟨hsame, -⟩ := decimalString_canonical Sample.shapeEnv "5e-1" "0.500" _ _ hleft hright (by positivity)
    (by positivity)
  exact ⟨hsame.mpr (by norm_num), by decide +kernel⟩

/-! ## Section 3: Offers -/

/-! ### The default asset -/

/-- What is known of the default asset of a network. -/
structure IsDefault (network : String) (default : DefaultAsset) : Prop where
  asset : default.asset = rlusdHex
  issuer : default.issuer ≠ "" ∧ strip default.issuer = default.issuer
  valid : isValidXrplNetwork network = true
  only : defaultAssets.lookup network = some [default]
  supported : networkRlusdIssuers.lookup network = some default.issuer

theorem isDefault_mainnet : IsDefault "xrpl:0" ⟨rlusdHex, 15, rlusdCode, rlusdMainnetIssuer⟩ where
  asset := rfl
  issuer := by decide +kernel
  valid := by decide +kernel
  only := by decide +kernel
  supported := by decide +kernel

theorem isDefault_testnet : IsDefault "xrpl:1" ⟨rlusdHex, 15, rlusdCode, rlusdTestnetIssuer⟩ where
  asset := rfl
  issuer := by decide +kernel
  valid := by decide +kernel
  only := by decide +kernel
  supported := by decide +kernel

theorem isDefault_of_getDefaultAsset {network : String} {symbol : Option String}
    {default : DefaultAsset} (h : getDefaultAsset env network symbol = .ok default) :
    IsDefault network default := by
  -- The asset is one of the network's defaults.
  have hmem : default ∈ (defaultAssets.lookup network).getD [] := by
    unfold getDefaultAsset at h
    split at h
    · cases h
    · next first rest hassets =>
      rw [hassets]
      split at h
      · rw [← Except.ok.inj h]
        exact List.mem_cons_self
      · split at h
        · next entry hfind =>
          rw [← Except.ok.inj h]
          exact List.mem_of_find?_eq_some hfind
        · cases h
  -- Two networks have defaults, one each.
  by_cases hmain : network = "xrpl:0"
  · subst hmain
    rw [isDefault_mainnet.only] at hmem
    rw [List.mem_singleton.mp hmem]
    exact isDefault_mainnet
  · by_cases htest : network = "xrpl:1"
    · subst htest
      rw [isDefault_testnet.only] at hmem
      rw [List.mem_singleton.mp hmem]
      exact isDefault_testnet
    · unfold defaultAssets at hmem
      rw [List.lookup_cons, List.lookup_cons, List.lookup_nil, beq_false_of_ne hmain,
        beq_false_of_ne htest] at hmem
      cases hmem

theorem IsDefault.findDefaultAsset {network : String} {default : DefaultAsset}
    (h : IsDefault network default) : findDefaultAsset env rlusdHex network = some default := by
  unfold XrplX402.findDefaultAsset
  rw [h.only]
  simp [h.asset]

theorem upperStr_rlusdHex : env.unicode.upperStr rlusdHex = rlusdHex :=
  env.unicode.upperStr_of_upper (List.all_iff_forall_prop.mp (by decide +kernel))

theorem upperStr_rlusdCode : env.unicode.upperStr rlusdCode = rlusdCode :=
  env.unicode.upperStr_of_upper (List.all_iff_forall_prop.mp (by decide +kernel))

theorem xrplCurrencyCode_rlusdHex : xrplCurrencyCode env rlusdHex = .ok rlusdHex := by
  have hstrip : strip rlusdHex = rlusdHex := by decide +kernel
  have hempty : rlusdHex ≠ "" := by decide
  have hhex : rlusdHex.length = 40 ∧ rlusdHex.toList.all isHexDigit = true := by decide +kernel
  unfold xrplCurrencyCode
  simp only [hstrip, if_neg hempty, if_pos hhex, upperStr_rlusdHex]
  rfl

theorem normalizeCurrencyCode_rlusdHex : normalizeCurrencyCode env rlusdHex = .ok rlusdCode := by
  have hspelled : spelledName rlusdHex = some rlusdCode := by decide +kernel
  rw [normalize_of_upperHex (by decide) (List.all_iff_forall_prop.mp (by decide +kernel)), hspelled]
  exact congrArg Except.ok upperStr_rlusdCode

theorem friendlyCurrency_rlusdHex : friendlyCurrency env rlusdHex = rlusdCode := by
  have hspelled : (do
      let bytes ← fromHex rlusdHex
      decodeAscii (rstripZero bytes)) = Except.ok rlusdCode := by decide +kernel
  have hlength : rlusdHex.length = 40 := by decide
  unfold friendlyCurrency
  simp only [if_pos hlength, hspelled, upperStr_rlusdCode]

/-! ### What is offered -/

/-- Requirements that ask for the amount at the facilitator's address. -/
structure Offered (F : ExactXRPLFacilitatorScheme env) (price : AssetAmount)
    (r : PaymentRequirements) : Prop where
  scheme : r.scheme = "exact"
  network : r.network = F.settings.networkId
  payTo : r.payTo = F.settings.myDestinationAddress
  timeout : 0 < r.maxTimeoutSeconds
  asset : r.asset = price.asset
  amount : r.amount = price.amount
  extra : r.extra = price.extra

/-- The extra entries of a money price. -/
def moneyExtra (issuer : String) : Dict :=
  [("issuer", .str issuer), ("areFeesSponsored", .bool false),
    ("assetTransferMethod", .str "sequence")]

/-- They are offered without the advertisement of the facilitator. -/
def offeredExtra (issuer : String) : Dict :=
  [("areFeesSponsored", .bool false), ("issuer", .str issuer), ("assetTransferMethod", .str "sequence")]

/-- The typed view of the offer. -/
def offeredView (issuer : String) : ExactXRPLExtra :=
  ⟨some issuer, false, some "sequence", none, none, none⟩

/-- The entries before what only advertises is taken out. -/
def mergedMoney (issuer : String) : Dict :=
  [("areFeesSponsored", .bool false), ("defaultAssetTransferMethod", .str "sequence"),
    ("assetTransferMethods", .arr [.str "sequence", .str "ticketSequence"]),
    ("paymentFlows", Dict.get getExtra "paymentFlows"), ("issuer", .str issuer),
    ("assetTransferMethod", .str "sequence")]

theorem mergedExtra_money (issuer : String) :
    mergedExtra (some getExtra) (some (moneyExtra issuer)) = mergedMoney issuer := by
  simp [mergedExtra, Items.update, Items.set, getExtra, moneyExtra, mergedMoney, Dict.get,
    Dict.get?_cons]

theorem pop_mergedMoney (issuer : String) :
    Dict.pop (Dict.pop (Dict.pop (mergedMoney issuer) "assetTransferMethods")
      "defaultAssetTransferMethod") "paymentFlows" = offeredExtra issuer := by
  simp [Dict.pop, mergedMoney, offeredExtra]

theorem exactXrplExtra_offered {r : PaymentRequirements} {issuer : String}
    (hissuer : trim issuer = issuer) (hextra : r.extra = some (offeredExtra issuer)) :
    exactXrplExtra env r = .ok (offeredView issuer) := by
  have hmethod : trim "sequence" = "sequence" := by decide
  unfold exactXrplExtra PaymentRequirements.extraOr ExactXRPLExtra.modelValidate
  rw [hextra]
  simp [offeredExtra, offeredView, ExactXRPLExtra.unexpectedKey, ExactXRPLExtra.aliases,
    ExactXRPLExtra.parse, ExactXRPLExtra.lookup, Dict.get?_cons, optionalField, acceptStr, acceptFees,
    acceptBool, hissuer, hmethod]

theorem decimalNotPositive_of_pos {amount : String} {q : ℚ} (h : TextDenotes env.unicode amount q)
    (hpos : 0 < q) : decimalNotPositive env amount = .ok false := by
  obtain ⟨_, hparsed, neg, coeff, exp, rfl, rfl⟩ := h
  unfold decimalNotPositive
  rw [hparsed]
  show Except.ok (decide ((Decimal.finite neg coeff exp).cmp (.finite false 0 0) ≠ some .gt)) = .ok false
  rw [Decimal.cmp_finite, Decimal.ratValue_zero, compare_gt_iff_gt.mpr hpos]
  rfl

section Offers

variable {F : ExactXRPLFacilitatorScheme env} {r : PaymentRequirements} {default : DefaultAsset}
  {q : ℚ}

/-- An offer in the default asset of the network has the shape. -/
theorem validateRequirementsShape_offered
    (hdefault : IsDefault r.network default) (hscheme : r.scheme = "exact")
    (htimeout : 0 < r.maxTimeoutSeconds) (hasset : r.asset = default.asset)
    (hextra : r.extra = some (offeredExtra default.issuer)) (hdecimal : isDecimalAmount r.amount = true)
    (hamount : TextDenotes env.unicode r.amount q) (hpos : 0 < q) :
    validateRequirementsShape env r = .ok (offeredView default.issuer) := by
  rw [hdefault.asset] at hasset
  -- The default asset is issued, and its wire code is its own.
  have hissued : r.asset ≠ "XRP" := by
    rw [hasset]
    decide
  have hcanonical : canonicalAsset env r.asset = .ok rlusdHex := by
    unfold canonicalAsset
    rw [hasset, xrplCurrencyCode_rlusdHex]
  have hcode : issuedCode env r.asset = .ok rlusdCode := by
    unfold issuedCode
    rw [if_neg hissued, hasset, normalizeCurrencyCode_rlusdHex]
  have hfees : Dict.get r.extraOr "areFeesSponsored" = .bool false := by
    unfold PaymentRequirements.extraOr
    rw [hextra]
    rfl
  have hmethod : ((offeredView default.issuer).assetTransferMethod.filter (· ≠ "")).getD "sequence" =
      "sequence" := rfl
  -- The amount is checked as that of an issued currency.
  have hiou : checkIouAmount env r (offeredView default.issuer) = .ok () := by
    unfold checkIouAmount
    rw [hasset, hdefault.findDefaultAsset]
    apply failIf_bind_eq_ok.mpr ⟨by simp [offeredView, hdefault.issuer.1], ?_⟩
    apply bind_eq_ok.mpr ⟨(), failIf_eq_ok.mpr (by simp [offeredView]), ?_⟩
    apply failIf_bind_eq_ok.mpr ⟨by simp [hdecimal], ?_⟩
    apply bind_eq_ok.mpr ⟨false, decimalNotPositive_of_pos hamount hpos, ?_⟩
    exact failIf_eq_ok.mpr (by simp)
  -- The shape is checked in this order.
  unfold validateRequirementsShape
  apply failIf_bind_eq_ok.mpr ⟨by simp [hscheme], ?_⟩
  apply failIf_bind_eq_ok.mpr ⟨by simp [hdefault.valid], ?_⟩
  apply failIf_bind_eq_ok.mpr ⟨not_le.mpr htimeout, ?_⟩
  apply bind_eq_ok.mpr ⟨rlusdHex, hcanonical, ?_⟩
  apply failIf_bind_eq_ok.mpr ⟨by simp [hasset], ?_⟩
  apply bind_eq_ok.mpr ⟨rlusdCode, hcode, ?_⟩
  apply failIf_bind_eq_ok.mpr ⟨by decide, ?_⟩
  apply bind_eq_ok.mpr ⟨_, exactXrplExtra_offered (trim_of_strip hdefault.issuer.2) hextra, ?_⟩
  apply failIf_bind_eq_ok.mpr ⟨by simp [hfees], ?_⟩
  apply failIf_bind_eq_ok.mpr ⟨fun hbad => hbad.1 hmethod, ?_⟩
  rw [if_neg hissued]
  exact bind_eq_ok.mpr ⟨(), hiou, rfl⟩

/-- The default asset of its network is allowed by every facilitator. -/
theorem assetAllowed_offered (hdefault : IsDefault F.settings.networkId default)
    (hasset : r.asset = default.asset) (hextra : r.extra = some (offeredExtra default.issuer)) :
    assetAllowed F r = true := by
  have hissuer : Dict.get r.extraOr "issuer" = .str default.issuer := by
    unfold PaymentRequirements.extraOr
    rw [hextra]
    rfl
  have hconfigured : (⟨rlusdCode, default.issuer⟩ : ConfiguredAsset) ∈ configuredAssets F.settings := by
    unfold configuredAssets builtInEntries
    rw [hdefault.supported]
    exact List.mem_append_left _ (List.mem_singleton.mpr rfl)
  obtain ⟨asset, hmem, hnamed, hcode⟩ := supported_of_configured hconfigured
  have hname : rlusdCode = asset.code :=
    Except.ok.inj ((normalizeCurrencyCode_rlusd env).symm.trans hcode)
  have hissued : r.asset ≠ "XRP" := by
    rw [hasset, hdefault.asset]
    decide
  unfold assetAllowed
  rw [List.any_eq_true]
  refine ⟨asset, hmem, ?_⟩
  rw [if_neg hissued, hasset, hdefault.asset, friendlyCurrency_rlusdHex, hissuer, hnamed]
  simp [← hname, optStr]

/-- What the facilitator advertises is merged into an offer, and left out of it. -/
theorem enhance_money {issuer : String} (hextra : r.extra = some (moneyExtra issuer)) :
    enhancePaymentRequirements env r (some getExtra) =
      (do let _ ← validateRequirementsShape env { r with extra := some (offeredExtra issuer) }
          return { r with extra := some (offeredExtra issuer) }) := by
  have hmethods : Dict.get (mergedMoney issuer) "assetTransferMethods" =
      .arr [.str "sequence", .str "ticketSequence"] := by
    simp [Dict.get, Dict.get?_cons, mergedMoney]
  have hmethod : (Dict.get (offeredExtra issuer) "assetTransferMethod").or (.str "sequence") =
      .str "sequence" := by
    simp [Dict.get, Dict.get?_cons, offeredExtra, Json.or, Json.truthy]
  have hset : Items.set "assetTransferMethod" (.str "sequence") (offeredExtra issuer) =
      offeredExtra issuer := by
    simp [Items.set, offeredExtra]
  have hin : isIn (.str "sequence") (.arr [.str "sequence", .str "ticketSequence"]) = .ok true := by
    decide +kernel
  unfold enhancePaymentRequirements
  rw [hextra, mergedExtra_money]
  dsimp only
  rw [pop_mergedMoney, hmethods, hmethod, hset, if_pos (by decide), hin]
  rfl

/-- A price that is not an amount of an asset. -/
def IsMoney (price : Json) : Prop := ∀ d, price = .obj d → Dict.has d "amount" = false

theorem parsePrice_money {schemas : PriceSchemas} {price : Json} {money : Money} {network : String}
    (hprice : IsMoney price) (hmoney : schemas.parseMoney price = .ok money)
    (hdefault : getDefaultAsset env network money.symbol = .ok default) :
    parsePrice env schemas (.other price) network =
      (do let amount ← decimalString env money.amount
          return ⟨amount, default.asset, some (moneyExtra default.issuer)⟩) := by
  cases price with
  | obj d =>
    unfold parsePrice
    simp only [hprice d rfl, hmoney]
    show (getDefaultAsset env network money.symbol >>= _) = _
    rw [hdefault]
    rfl
  | _ =>
    unfold parsePrice
    simp only [hmoney]
    show (getDefaultAsset env network money.symbol >>= _) = _
    rw [hdefault]
    rfl

/-- A text of a price that gets an amount is a positive number, or infinite. -/
theorem decimalString_eq_ok {value amount : String} (h : decimalString env value = .ok amount) :
    (∃ q, 0 < q ∧ TextDenotes env.unicode value q) ∨ amount = "Infinity" := by
  unfold decimalString at h
  split at h
  · cases h
  · next parsed hparsed =>
    split at h
    · cases h
    · next hcompare =>
      cases parsed with
      | finite neg coeff exp =>
        rw [Decimal.cmp_finite, Decimal.ratValue_zero, Option.some.injEq, compare_gt_iff_gt] at hcompare
        exact .inl ⟨_, hcompare, _, hparsed, neg, coeff, exp, rfl, rfl⟩
      | infinite neg =>
        cases neg with
        | true => cases hcompare
        | false =>
          right
          rw [← Except.ok.inj h]
          decide +kernel
      | nan signaling => cases hcompare
    · cases h

end Offers

/-- A price in money is offered exactly when it is a positive number, in the
    default asset of the network and for this number; the facilitator accepts
    the envelope of every payload that echoes the offer. -/
theorem money_price_is_offered (env : Env) (F : ExactXRPLFacilitatorScheme env)
    (schemas : PriceSchemas) (price : Json) (money : Money) (default : DefaultAsset)
    (hprice : IsMoney price) (hmoney : schemas.parseMoney price = .ok money)
    (hdefault : getDefaultAsset env F.settings.networkId money.symbol = .ok default) :
    (∀ a r e, parsePrice env schemas (.other price) F.settings.networkId = .ok a → Offered F a r →
      enhancePaymentRequirements env r (some getExtra) = .ok e →
        ∃ q, 0 < q ∧ TextDenotes env.unicode money.amount q) ∧
      ∀ q, 0 < q → TextDenotes env.unicode money.amount q →
        ∃ a, parsePrice env schemas (.other price) F.settings.networkId = .ok a ∧
          a.asset = default.asset ∧ TextDenotes env.unicode a.amount q ∧
          ∀ r, Offered F a r →
            enhancePaymentRequirements env r (some getExtra) =
              .ok { r with extra := some (offeredExtra default.issuer) } ∧
            ∀ payload : PaymentPayload, payload.x402Version = 2 →
              payload.accepted = { r with extra := some (offeredExtra default.issuer) } →
                verifyEnvelope F payload payload.accepted = .ok "sequence" := by
  have hfacts := isDefault_of_getDefaultAsset hdefault
  have hparse := parsePrice_money hprice hmoney hdefault
  constructor
  -- What is offered had a price with a text.
  · intro a r e ha hoffered he
    rw [hparse] at ha
    obtain ⟨amount, hamount, ha⟩ := bind_eq_ok.mp ha
    obtain rfl := Except.ok.inj ha
    rcases decimalString_eq_ok hamount with hpositive | rfl
    · exact hpositive
    · -- An infinite price gets a text that is not an amount.
      rw [enhance_money hoffered.extra] at he
      obtain ⟨extra, hshape, -⟩ := bind_eq_ok.mp he
      have hissued : r.asset ≠ "XRP" := by
        rw [hoffered.asset]
        show default.asset ≠ "XRP"
        rw [hfacts.asset]
        decide
      have hdecimal := (wellShaped_of_shape hshape).decimal hissued
      rw [show r.amount = "Infinity" from hoffered.amount] at hdecimal
      exact absurd hdecimal (by decide +kernel)
  -- A positive price gets a text that denotes the same number.
  · intro q hpos hdenotes
    obtain ⟨amount, hamount, hdecimal, hsame⟩ := decimalString_spec hdenotes hpos
    refine ⟨_, hparse.trans (bind_eq_ok.mpr ⟨amount, hamount, rfl⟩), rfl, hsame, ?_⟩
    intro r hoffered
    have hnetwork := hoffered.network
    have htext : r.amount = amount := hoffered.amount
    -- The merged offer has the shape of an offer.
    have hshape : validateRequirementsShape env { r with extra := some (offeredExtra default.issuer) } =
        .ok (offeredView default.issuer) := by
      apply validateRequirementsShape_offered
      · show IsDefault r.network default
        rw [hnetwork]
        exact hfacts
      · exact hoffered.scheme
      · exact hoffered.timeout
      · exact hoffered.asset
      · rfl
      · show isDecimalAmount r.amount = true
        rw [htext]
        exact hdecimal
      · show TextDenotes env.unicode r.amount q
        rw [htext]
        exact hsame
      · exact hpos
    refine ⟨?_, fun payload hversion hechoed => ?_⟩
    · rw [enhance_money hoffered.extra, hshape]
      rfl
    · have hdemanded : assetTransferMethod { r with extra := some (offeredExtra default.issuer) } =
          .str "sequence" := rfl
      -- The minimum concerns drops only.
      have hminimum : r.asset = "XRP" →
          ∀ drops, intOfStr env.unicode r.amount = .ok drops → F.settings.minXrpDrops ≤ drops := by
        intro hnative
        have hasset : r.asset = default.asset := hoffered.asset
        rw [hnative, hfacts.asset] at hasset
        exact absurd hasset (by decide)
      obtain ⟨method, henvelope⟩ :=
        (verifyEnvelope_echoed_iff hversion hechoed hshape hnetwork hoffered.payTo hminimum).mpr
          ⟨by rw [hdemanded]; simp, assetAllowed_offered hfacts hoffered.asset rfl⟩
      have hmethod := (envelopeOk_of_verifyEnvelope henvelope).demanded (by rw [hdemanded]; simp)
      rw [hdemanded] at hmethod
      rw [hechoed, henvelope, ← Json.str.inj hmethod]

namespace Sample

/-- A quarter in the default asset. -/
def schemas : PriceSchemas where
  parseMoney := fun price => if price = .str "$0.250" then .ok ⟨"0.250", none⟩
    else .error (valueError "Invalid money format")
  modelValidate := fun d => .error (validationError Facilitator.Sample.sampleEnv "AssetAmount" (.obj d))

def quarter : AssetAmount := ⟨"0.25", rlusdHex, some (moneyExtra rlusdTestnetIssuer)⟩

def quarterRequirements (extra : Dict) : PaymentRequirements :=
  ⟨"exact", "xrpl:1", rlusdHex, "0.25", Facilitator.Sample.facilitator.settings.myDestinationAddress,
    60, some extra⟩

def quarterPayload : PaymentPayload :=
  { Facilitator.Sample.payload with accepted := quarterRequirements (offeredExtra rlusdTestnetIssuer) }

end Sample

theorem money_price_is_offered_quarter :
    parsePrice Sample.sampleEnv Sample.schemas (.other (.str "$0.250")) "xrpl:1" =
        .ok Sample.quarter ∧
      enhancePaymentRequirements Sample.sampleEnv
          (Sample.quarterRequirements (moneyExtra rlusdTestnetIssuer)) (some getExtra) =
        .ok (Sample.quarterRequirements (offeredExtra rlusdTestnetIssuer)) ∧
      verifyEnvelope Sample.facilitator Sample.quarterPayload Sample.quarterPayload.accepted =
        .ok "sequence" := by
  have hdenotes : TextDenotes Sample.sampleEnv.unicode "0.250" (250 * 10 ^ (-3 : Int)) :=
    ⟨.finite false 250 (-3), by decide +kernel, false, 250, -3, rfl, by simp [Decimal.ratValue]⟩
  have hmoney : Sample.schemas.parseMoney (.str "$0.250") = .ok ⟨"0.250", none⟩ := by
    decide +kernel
  obtain ⟨-, hoffers⟩ := money_price_is_offered Sample.sampleEnv Sample.facilitator Sample.schemas
    (.str "$0.250") ⟨"0.250", none⟩ ⟨rlusdHex, 15, rlusdCode, rlusdTestnetIssuer⟩
    (fun d h => by cases h) hmoney (by decide +kernel)
  obtain ⟨a, ha, -, -, hoffered⟩ := hoffers _ (by positivity) hdenotes
  have hquarter : parsePrice Sample.sampleEnv Sample.schemas (.other (.str "$0.250")) "xrpl:1" =
      .ok Sample.quarter := by decide +kernel
  obtain rfl := Except.ok.inj (hquarter.symm.trans ha)
  obtain ⟨henhanced, henvelope⟩ := hoffered
    (Sample.quarterRequirements (moneyExtra rlusdTestnetIssuer))
    ⟨rfl, rfl, rfl, by decide, rfl, rfl, rfl⟩
  exact ⟨hquarter, henhanced, henvelope Sample.quarterPayload rfl rfl⟩

end XrplX402.Middleware
