import Mathlib.Data.List.TakeWhile
import XrplX402.Core.Assets

/-! # Shared helpers of the mechanism

    * **Networks and amounts**: the accepted texts, and the exact comparison of
      decimal strings.
    * **Shape**: `validateRequirementsShape`, the checks that both sides make
      on payment requirements before anything else.
    * **Identity**: the transaction hash of a blob, and the fingerprint of a
      request. When SHA-256 does not collide, equal fingerprints mean equal
      requests, entry by entry. -/

namespace XrplX402

open Py

/-! ## Section 1: Networks and amounts -/

def xrplLedgerCloseSeconds : Int := 5

/-- `0|[1-9][0-9]*` -/
def isPlainNat : List Char → Bool
  | [] => false
  | ['0'] => true
  | c :: cs => c ≠ '0' && isAsciiDigit c && cs.all isAsciiDigit

/-- `CAIP_2_NETWORK_PATTERN` -/
def isCaip2Network (cs : List Char) : Bool :=
  cs.take 5 = "xrpl:".toList && isPlainNat (cs.drop 5)

/-- `INTEGER_AMOUNT_PATTERN` -/
def isIntegerAmount (s : String) : Bool := isPlainNat s.toList

/-- `DECIMAL_AMOUNT_PATTERN` -/
def isDecimalAmount (s : String) : Bool :=
  isPlainNat (s.toList.takeWhile isAsciiDigit) &&
    match s.toList.dropWhile isAsciiDigit with
    | [] => true
    | c :: cs => c = '.' && cs ≠ [] && cs.all isAsciiDigit

def isValidXrplNetwork (network : String) : Bool := isCaip2Network (strip network).toList

def parseXrplNetworkId (env : Env) (network : String) : Except Exc Int :=
  let normalized := strip network
  if isValidXrplNetwork normalized then intOfStr env.unicode (partition ':' normalized).2.2
  else .error (valueError "network must be a numeric CAIP-2 xrpl:<reference> identifier")

/-- The quotient of two integers is a binary float, which `math.ceil` rounds up. -/
def getMaxLastLedgerSequence (currentLedger : Int) (requirements : PaymentRequirements) :
    Except Exc Int :=
  match roundBinary64 (requirements.maxTimeoutSeconds / xrplLedgerCloseSeconds) with
  | some q => .ok (currentLedger + ⌈q⌉ + 2)
  | none => .error ⟨.overflowError, "integer division result too large for a float"⟩

def decimalOrInvalid (env : Env) (s : String) : Except Exc Decimal :=
  match decimalOfStr env.unicode s with
  | some d => .ok d
  | none => .error (valueError "XRPL IOU amount must be a decimal string")

/-- `-1`, `0` or `1`; ordering a NaN raises outside of the guarded part. -/
def compareDecimalStrings (env : Env) (left right : String) : Except Exc Int := do
  let leftValue ← decimalOrInvalid env left
  let rightValue ← decimalOrInvalid env right
  match Decimal.cmp leftValue rightValue with
  | some .lt => return -1
  | some .eq => return 0
  | some .gt => return 1
  | none => throw ⟨.decimalException, "comparison involving NaN"⟩

/-! ### Plain amounts -/

/-- Characters of a plain decimal amount. -/
def isAmountChar (c : Char) : Bool := isAsciiDigit c || c = '.'

theorem isAmountChar_of_isDecimalAmount {s : String} (h : isDecimalAmount s = true) :
    ∀ c ∈ s.toList, isAmountChar c = true := by
  intro c hc
  rw [← List.takeWhile_append_dropWhile (p := isAsciiDigit) (l := s.toList), List.mem_append] at hc
  rcases hc with hc | hc
  · simp [isAmountChar, List.mem_takeWhile_imp hc]
  · simp only [isDecimalAmount, Bool.and_eq_true] at h
    cases hr : s.toList.dropWhile isAsciiDigit with
    | nil =>
      rw [hr] at hc
      cases hc
    | cons d ds =>
      rw [hr] at hc
      have hrest := h.2
      simp only [hr, Bool.and_eq_true, decide_eq_true_eq, List.all_eq_true] at hrest
      rcases List.mem_cons.mp hc with rfl | hc
      · simp [isAmountChar, hrest.1.1]
      · simp [isAmountChar, hrest.2 c hc]

theorem asciiNumberChar_of_isAmountChar (u : UnicodeData) {c : Char} (h : isAmountChar c = true) :
    asciiNumberChar u c = some c := by
  unfold asciiNumberChar
  by_cases hd : isAsciiDigit c = true
  · have hrange : 48 ≤ c.toNat ∧ c.toNat ≤ 57 := by
      simpa [isAsciiDigit, Char.le_def, UInt32.le_iff_toNat_le] using hd
    rw [u.decimal_ascii c (by omega), if_pos hd]
    have hback : 48 + asciiDigitValue c = c.toNat := by
      unfold asciiDigitValue
      omega
    simp only [hback, Char.ofNat_toNat]
  · have hc : c = '.' := by simpa [isAmountChar, hd] using h
    subst hc
    rw [u.decimal_ascii '.' (by decide), if_neg hd]
    rfl

theorem isAmountChar_plain {c : Char} (h : isAmountChar c = true) :
    isSpace c = false ∧ c ≠ '_' ∧ c ≠ '-' ∧ c ≠ '+' ∧ c.toLower ≠ 'i' ∧ c.toLower ≠ 'n' ∧
      c.toLower ≠ 's' := by
  have hrange : 46 ≤ c.toNat ∧ c.toNat ≤ 57 := by
    simp only [isAmountChar, Bool.or_eq_true, decide_eq_true_eq] at h
    rcases h with h | rfl
    · have hc : 48 ≤ c.toNat ∧ c.toNat ≤ 57 := by
        simpa [isAsciiDigit, Char.le_def, UInt32.le_iff_toNat_le] using h
      omega
    · decide
  have hall : ∀ n, 46 ≤ n → n ≤ 57 → isSpace (Char.ofNat n) = false ∧ Char.ofNat n ≠ '_' ∧
      Char.ofNat n ≠ '-' ∧ Char.ofNat n ≠ '+' ∧ (Char.ofNat n).toLower ≠ 'i' ∧
      (Char.ofNat n).toLower ≠ 'n' ∧ (Char.ofNat n).toLower ≠ 's' := by
    intro n h₁ h₂
    have hn : n ∈ (List.range 12).map (46 + ·) := by
      simp only [List.mem_map, List.mem_range]
      exact ⟨n - 46, by omega, by omega⟩
    revert n
    decide
  have hc := hall c.toNat hrange.1 hrange.2
  rwa [Char.ofNat_toNat] at hc

theorem mapM_asciiNumberChar (u : UnicodeData) {cs : List Char}
    (h : ∀ c ∈ cs, isAmountChar c = true) : cs.mapM (asciiNumberChar u) = some cs := by
  induction cs with
  | nil => rfl
  | cons c cs ih =>
    rw [List.mapM_cons, asciiNumberChar_of_isAmountChar u (h c (by simp)),
      ih fun d hd => h d (by simp [hd])]
    rfl

theorem hasExponent_of_isAmountChar {cs : List Char} (h : ∀ c ∈ cs, isAmountChar c = true) :
    hasExponent cs = false := by
  rw [hasExponent, List.any_eq_false]
  intro c hc hexp
  have hchar : c = 'e' ∨ c = 'E' := by simpa using hexp
  have hamount := h c hc
  rcases hchar with rfl | rfl
  · exact absurd hamount (by decide)
  · exact absurd hamount (by decide)

theorem parseUnsigned_of_isDecimalAmount {s : String} (h : isDecimalAmount s = true) :
    ∃ coeff exp, parseUnsigned s.toList = some (coeff, exp) := by
  simp only [isDecimalAmount, Bool.and_eq_true] at h
  have hip : s.toList.takeWhile isAsciiDigit ≠ [] := by
    intro hnil
    rw [hnil] at h
    cases h.1
  unfold parseUnsigned
  cases hr : s.toList.dropWhile isAsciiDigit with
  | nil => simp [hip]
  | cons d ds =>
    have hrest := h.2
    simp only [hr, Bool.and_eq_true, decide_eq_true_eq, List.all_eq_true] at hrest
    obtain ⟨⟨rfl, -⟩, hall⟩ := hrest
    have hdrop : ds.dropWhile isAsciiDigit = [] := by
      rw [List.dropWhile_eq_nil_iff]
      exact hall
    simp [hip, hdrop]

/-- An unsigned literal without an exponent is read as a finite number. -/
theorem decimalOfStr_of_parseUnsigned (u : UnicodeData) {s : String} {coeff : Nat} {exp : Int}
    (hchars : ∀ c ∈ s.toList, isAmountChar c = true)
    (hparse : parseUnsigned s.toList = some (coeff, exp)) :
    decimalOfStr u s = some (.finite false coeff exp) := by
  have hstrip : stripChars isSpace s.toList = s.toList :=
    stripChars_of_none fun c hc => (isAmountChar_plain (hchars c hc)).1
  have hfilter : s.toList.filter (· ≠ '_') = s.toList :=
    List.filter_eq_self.mpr fun c hc => by simpa using (isAmountChar_plain (hchars c hc)).2.1
  unfold decimalOfStr
  rw [hstrip, hfilter, mapM_asciiNumberChar u hchars]
  cases hcs : s.toList with
  | nil =>
    rw [hcs] at hparse
    cases hparse
  | cons c cs =>
    obtain ⟨-, -, hminus, hplus, hi, hn, hs⟩ := isAmountChar_plain (hchars c (by simp [hcs]))
    have hexp := hasExponent_of_isAmountChar hchars
    rw [hcs] at hparse hexp
    simp [hminus, hplus, hi, hn, hs, hparse, hexp]

/-- A plain decimal amount is read as a finite number. -/
theorem decimalOfStr_of_isDecimalAmount (u : UnicodeData) {s : String}
    (h : isDecimalAmount s = true) : ∃ q, ∃ d, decimalOfStr u s = some d ∧ d.Denotes q := by
  obtain ⟨coeff, exp, hparse⟩ := parseUnsigned_of_isDecimalAmount h
  have hvalue := decimalOfStr_of_parseUnsigned u (isAmountChar_of_isDecimalAmount h) hparse
  exact ⟨Decimal.ratValue false coeff exp, .finite false coeff exp, hvalue, ⟨_, _, _, rfl, rfl⟩⟩

/-! ## Section 2: The shape of payment requirements -/

def checkXrpAmount (env : Env) (requirements : PaymentRequirements) (extra : ExactXRPLExtra) :
    Except Exc Unit := do
  failIf (isIntegerAmount requirements.amount = false)
    (valueError "XRPL native payments require an integer drops amount")
  let amount ← intOfStr env.unicode requirements.amount
  failIf (amount ≤ 0) (valueError "XRPL exact payment amount must be greater than zero")
  failIf (extra.issuer ≠ none) (valueError "XRPL native payments must not include extra.issuer")

/-- `Decimal(amount) <= 0` for a text that `DECIMAL_AMOUNT_PATTERN` matches. -/
def decimalNotPositive (env : Env) (amount : String) : Except Exc Bool :=
  match decimalOfStr env.unicode amount with
  | some d => .ok (d.cmp (.finite false 0 0) ≠ some .gt)
  | none => .error ⟨.decimalException, "invalid decimal literal"⟩

def checkDefaultIssuer (issuer : Option String) (default : Option DefaultAsset) : Except Exc Unit :=
  match default with
  | some default =>
    failIf (issuer ≠ some default.issuer) (valueError ("XRPL " ++ default.symbol ++
      " payments require extra.issuer to be " ++ default.issuer))
  | none => .ok ()

def checkIouAmount (env : Env) (requirements : PaymentRequirements) (extra : ExactXRPLExtra) :
    Except Exc Unit := do
  failIf (extra.issuer = none ∨ extra.issuer = some "")
    (valueError "XRPL IOU payments require extra.issuer")
  checkDefaultIssuer extra.issuer (findDefaultAsset env requirements.asset requirements.network)
  failIf (isDecimalAmount requirements.amount = false)
    (valueError "XRPL IOU payments require a decimal ledger amount")
  let notPositive ← decimalNotPositive env requirements.amount
  failIf (notPositive = true) (valueError "XRPL exact payment amount must be greater than zero")

/-- The wire code of an asset; a malformed code is reported in one way. -/
def canonicalAsset (env : Env) (asset : String) : Except Exc String :=
  match xrplCurrencyCode env asset with
  | .ok code => .ok code
  | .error e =>
    if e.kind = .valueError then .error (valueError "Invalid XRPL asset currency code")
    else .error e

/-- The name that an issued currency must not have. -/
def issuedCode (env : Env) (asset : String) : Except Exc String :=
  if asset = "XRP" then .ok "" else normalizeCurrencyCode env asset

def validateRequirementsShape (env : Env) (requirements : PaymentRequirements) :
    Except Exc ExactXRPLExtra := do
  failIf (requirements.scheme ≠ "exact") (valueError ("Unsupported scheme: " ++ requirements.scheme))
  failIf (isValidXrplNetwork requirements.network = false)
    (valueError ("Unsupported XRPL network: " ++ requirements.network))
  failIf (requirements.maxTimeoutSeconds ≤ 0)
    (valueError "maxTimeoutSeconds must be greater than zero")
  let canonical ← canonicalAsset env requirements.asset
  failIf (requirements.asset ≠ canonical)
    (valueError ("XRPL wire assets must use XRP, an uppercase three-character " ++
      "currency code, or an uppercase 40-character hexadecimal code"))
  let code ← issuedCode env requirements.asset
  failIf (code = "XRP") (valueError "XRP cannot be represented as an issued currency")
  let extra ← exactXrplExtra env requirements
  failIf (Dict.get requirements.extraOr "areFeesSponsored" ≠ .bool false)
    (valueError "XRPL exact payments require extra.areFeesSponsored to be false")
  let method := (extra.assetTransferMethod.filter (· ≠ "")).getD "sequence"
  failIf (method ≠ "sequence" ∧ method ≠ "ticketSequence")
    (valueError ("Unsupported assetTransferMethod: " ++ method))
  if requirements.asset = "XRP" then checkXrpAmount env requirements extra
  else checkIouAmount env requirements extra
  return extra

/-- What a passed shape check says about the requirements. -/
structure WellShaped (env : Env) (r : PaymentRequirements) : Prop where
  scheme : r.scheme = "exact"
  network : isValidXrplNetwork r.network = true
  timeout : 0 < r.maxTimeoutSeconds
  feesNotSponsored : Dict.get r.extraOr "areFeesSponsored" = .bool false
  /-- Native amounts are positive integers of drops. -/
  native : r.asset = "XRP" → isIntegerAmount r.amount = true ∧
    ∃ drops, intOfStr env.unicode r.amount = .ok drops ∧ 0 < drops
  /-- The flow is omitted, or it is the default. -/
  flow : Dict.get r.extraOr "paymentFlow" = .null ∨
    Dict.get r.extraOr "paymentFlow" = .str "authorization"
  /-- Issued currencies name their issuer. -/
  issuer : r.asset ≠ "XRP" → ∃ issuer, Dict.get r.extraOr "issuer" = .str issuer
  decimal : r.asset ≠ "XRP" → isDecimalAmount r.amount = true

theorem optionalField_eq_some {α : Type} {accept : Json → Option α} {o : Option Json} {a : α}
    (h : optionalField accept o = some (some a)) : ∃ j, o = some j ∧ accept j = some a := by
  unfold optionalField at h
  split at h
  · cases h
  · cases h
  · next j _ =>
    obtain ⟨b, hb, heq⟩ := Option.map_eq_some_iff.mp h
    exact ⟨j, rfl, hb.trans heq⟩

/-- The typed view reads the issuer and the flow from `extra`. -/
theorem fields_of_exactXrplExtra {env : Env} {r : PaymentRequirements} {extra : ExactXRPLExtra}
    (h : exactXrplExtra env r = .ok extra) :
    optionalField (acceptStr none) (Dict.get? r.extraOr "issuer") = some extra.issuer ∧
      optionalField acceptFlow (ExactXRPLExtra.lookup r.extraOr "paymentFlow" "payment_flow") =
        some extra.paymentFlow := by
  unfold exactXrplExtra ExactXRPLExtra.modelValidate at h
  simp only at h
  split at h
  · next extra' hparsed =>
    have hextra : extra' = extra := Except.ok.inj h
    rw [hextra] at hparsed
    split at hparsed
    · cases hparsed
    · unfold ExactXRPLExtra.parse at hparsed
      obtain ⟨issuer, hissuer, hparsed⟩ := Option.bind_eq_some_iff.mp hparsed
      obtain ⟨fees, _, hparsed⟩ := Option.bind_eq_some_iff.mp hparsed
      obtain ⟨method, _, hparsed⟩ := Option.bind_eq_some_iff.mp hparsed
      obtain ⟨flow, hflow, hparsed⟩ := Option.bind_eq_some_iff.mp hparsed
      obtain ⟨invoice, _, hparsed⟩ := Option.bind_eq_some_iff.mp hparsed
      obtain ⟨tag, _, hparsed⟩ := Option.bind_eq_some_iff.mp hparsed
      have hfields := Option.some.inj hparsed
      rw [← hfields]
      refine ⟨?_, hflow⟩
      simpa [ExactXRPLExtra.lookup] using hissuer
  · cases h

theorem issuer_of_exactXrplExtra {env : Env} {r : PaymentRequirements} {extra : ExactXRPLExtra}
    {issuer : String} (h : exactXrplExtra env r = .ok extra) (hi : extra.issuer = some issuer) :
    ∃ raw, Dict.get r.extraOr "issuer" = .str raw := by
  obtain ⟨hissuer, -⟩ := fields_of_exactXrplExtra h
  rw [hi] at hissuer
  obtain ⟨j, hj, hacc⟩ := optionalField_eq_some hissuer
  cases j with
  | str raw => exact ⟨raw, by simp [Dict.get, hj]⟩
  | _ => cases hacc

theorem flow_of_exactXrplExtra {env : Env} {r : PaymentRequirements} {extra : ExactXRPLExtra}
    (h : exactXrplExtra env r = .ok extra) : Dict.get r.extraOr "paymentFlow" = .null ∨
      Dict.get r.extraOr "paymentFlow" = .str "authorization" := by
  obtain ⟨-, hflow⟩ := fields_of_exactXrplExtra h
  cases hraw : Dict.get? r.extraOr "paymentFlow" with
  | none => exact .inl (by simp [Dict.get, hraw])
  | some j =>
    have hlookup : ExactXRPLExtra.lookup r.extraOr "paymentFlow" "payment_flow" = some j := by
      simp [ExactXRPLExtra.lookup, hraw]
    rw [hlookup] at hflow
    cases j with
    | null => exact .inl (by simp [Dict.get, hraw])
    | str s =>
      have hs : s = "authorization" := by
        by_contra hne
        simp [optionalField, acceptFlow, hne] at hflow
      exact .inr (by simp [Dict.get, hraw, hs])
    | _ => simp [optionalField, acceptFlow] at hflow

theorem wellShaped_of_shape {env : Env} {r : PaymentRequirements} {extra : ExactXRPLExtra}
    (h : validateRequirementsShape env r = .ok extra) : WellShaped env r := by
  unfold validateRequirementsShape at h
  obtain ⟨hscheme, h⟩ := failIf_bind_eq_ok.mp h
  obtain ⟨hnetwork, h⟩ := failIf_bind_eq_ok.mp h
  obtain ⟨htimeout, h⟩ := failIf_bind_eq_ok.mp h
  obtain ⟨canonical, _, h⟩ := bind_eq_ok.mp h
  obtain ⟨_, h⟩ := failIf_bind_eq_ok.mp h
  obtain ⟨code, _, h⟩ := bind_eq_ok.mp h
  obtain ⟨_, h⟩ := failIf_bind_eq_ok.mp h
  obtain ⟨extra', hextra, h⟩ := bind_eq_ok.mp h
  obtain ⟨hfees, h⟩ := failIf_bind_eq_ok.mp h
  obtain ⟨_, h⟩ := failIf_bind_eq_ok.mp h
  have hamount : (if r.asset = "XRP" then checkXrpAmount env r extra'
      else checkIouAmount env r extra') = .ok () := by
    split at h
    · next hasset =>
      obtain ⟨_, hu, _⟩ := bind_eq_ok.mp h
      rw [if_pos hasset]
      exact hu
    · next hasset =>
      obtain ⟨_, hu, _⟩ := bind_eq_ok.mp h
      rw [if_neg hasset]
      exact hu
  refine ⟨not_not.mp hscheme, by simpa using hnetwork, by omega, not_not.mp hfees, ?_,
    flow_of_exactXrplExtra hextra, ?_, ?_⟩
  · intro hasset
    rw [if_pos hasset] at hamount
    unfold checkXrpAmount at hamount
    obtain ⟨hplain, hamount⟩ := failIf_bind_eq_ok.mp hamount
    obtain ⟨drops, hdrops, hamount⟩ := bind_eq_ok.mp hamount
    obtain ⟨hpositive, -⟩ := failIf_bind_eq_ok.mp hamount
    exact ⟨by simpa using hplain, drops, hdrops, by omega⟩
  · intro hasset
    rw [if_neg hasset] at hamount
    unfold checkIouAmount at hamount
    obtain ⟨hissuer, -⟩ := failIf_bind_eq_ok.mp hamount
    cases hi : extra'.issuer with
    | none => exact absurd (.inl hi) hissuer
    | some issuer => exact issuer_of_exactXrplExtra hextra hi
  · intro hasset
    rw [if_neg hasset] at hamount
    unfold checkIouAmount at hamount
    obtain ⟨_, hamount⟩ := failIf_bind_eq_ok.mp hamount
    obtain ⟨_, _, hamount⟩ := bind_eq_ok.mp hamount
    obtain ⟨hdecimal, -⟩ := failIf_bind_eq_ok.mp hamount
    simpa using hdecimal

/-! ## Section 3: Identity of transactions and requests -/

def invoiceIdToInvoiceIdField (env : Env) (invoiceId : String) : Except Exc String :=
  if invoiceId = "" then .error (valueError "extra.invoiceId must be non-empty")
  else .ok (env.unicode.upperStr (env.sha256Hex invoiceId))

/-- The transaction id of a blob, once it has been decoded. -/
def transactionId (env : Env) (bytes : List UInt8) : String :=
  env.unicode.upperStr (String.ofList ((hexChars (env.sha512 bytes)).take 64))

def signedTransactionHash (env : Env) (signedTxBlob : String) : Except Exc String := do
  let _ ← env.decode signedTxBlob
  return transactionId env (← fromHex ("54584E00" ++ signedTxBlob))

/-- A transaction id consists of digits and capital letters. -/
theorem transactionId_chars (env : Env) (bytes : List UInt8) :
    ∀ c ∈ (transactionId env bytes).toList, c ∈ hexDigitChars.map Char.toUpper := by
  have hall : ∀ c ∈ (hexChars (env.sha512 bytes)).take 64, c ∈ hexDigitChars :=
    fun c hc => hexChars_mem (List.mem_of_mem_take hc)
  have hascii : ∀ c ∈ hexDigitChars, c.toNat < 128 :=
    List.all_iff_forall_prop.mp (by decide)
  intro c hc
  rw [transactionId, UnicodeData.upperStr, String.toList_ofList, String.toList_ofList,
    env.unicode.flatMap_upper fun d hd => hascii d (hall d hd)] at hc
  obtain ⟨d, hd, rfl⟩ := List.mem_map.mp hc
  exact List.mem_map_of_mem (hall d hd)

/-- Trimming and capitalizing leave the hash of a blob as it is. -/
theorem signedTransactionHash_canonical {env : Env} {blob hash : String}
    (h : signedTransactionHash env blob = .ok hash) :
    trim hash = hash ∧ env.unicode.upperStr hash = hash := by
  have hid : ∃ bytes, hash = transactionId env bytes := by
    unfold signedTransactionHash at h
    obtain ⟨_, _, h⟩ := bind_eq_ok.mp h
    obtain ⟨bytes, _, h⟩ := bind_eq_ok.mp h
    exact ⟨bytes, (Except.ok.inj h).symm⟩
  obtain ⟨bytes, rfl⟩ := hid
  have hchars := transactionId_chars env bytes
  have hspace : ∀ c ∈ hexDigitChars.map Char.toUpper, isSpace c = false :=
    List.all_iff_forall_prop.mp (by decide)
  have hupper : ∀ c ∈ hexDigitChars.map Char.toUpper, c.toNat < 128 ∧ c.toUpper = c :=
    List.all_iff_forall_prop.mp (by decide)
  exact ⟨trim_of_noSpace fun c hc => hspace c (hchars c hc),
    env.unicode.upperStr_of_upper fun c hc => hupper c (hchars c hc)⟩

/-- The value that a request is identified by. -/
def normalizedRequest (env : Env) (payload : PaymentPayload) (requirements : PaymentRequirements)
    (resourceMethod : Option String) (authoritativeResource : Option ResourceInfo)
    (resourceIdentity : Option String) : Dict :=
  [("accepted", .obj requirements.modelDump), ("payload", .obj payload.payload),
    ("resource", optDict ((authoritativeResource.or payload.resource).map ResourceInfo.modelDump)),
    ("extensions", optDict payload.extensions),
    ("method", optStr ((resourceMethod.filter (· ≠ "")).map env.unicode.upperStr))] ++
    (resourceIdentity.map fun identity => [("resourceIdentity", Json.str identity)]).getD []

def requirementsFingerprint (env : Env) (payload : PaymentPayload)
    (requirements : PaymentRequirements) (resourceMethod : Option String)
    (authoritativeResource : Option ResourceInfo) (resourceIdentity : Option String) : String :=
  env.sha256Hex (dumps (.obj (normalizedRequest env payload requirements resourceMethod
    authoritativeResource resourceIdentity)))

/-- `requirements_fingerprint(payload, requirements)`. -/
def paymentFingerprint (env : Env) (payload : PaymentPayload) (requirements : PaymentRequirements) :
    String :=
  requirementsFingerprint env payload requirements none none none

@[simp] theorem trim_paymentFingerprint (env : Env) (payload : PaymentPayload)
    (requirements : PaymentRequirements) :
    trim (paymentFingerprint env payload requirements) =
      paymentFingerprint env payload requirements := trim_hexdigest _

/-- Equal requirements, up to the order of the keys in `extra`. -/
structure SameRequirements (r s : PaymentRequirements) : Prop where
  scheme : r.scheme = s.scheme
  network : r.network = s.network
  asset : r.asset = s.asset
  amount : r.amount = s.amount
  payTo : r.payTo = s.payTo
  maxTimeoutSeconds : r.maxTimeoutSeconds = s.maxTimeoutSeconds
  extra : (optDict r.extra).sortKeys = (optDict s.extra).sortKeys

/-- A dumped record has the entries that are not `None`. -/
theorem get?_excludeNone {d : Dict} (hd : (d.map Prod.fst).Nodup) (k : String) :
    Dict.get? (excludeNone d) k = (Dict.get? d k).filter (· ≠ .null) := by
  unfold excludeNone
  induction d with
  | nil => rfl
  | cons kv d ih =>
    obtain ⟨l, v⟩ := kv
    simp only [List.map_cons, List.nodup_cons] at hd
    have hrest := ih hd.2
    by_cases hv : v = .null
    · subst hv
      simp only [List.filter_cons, ne_eq, not_true_eq_false, decide_false]
      by_cases hk : k = l
      · subst hk
        have hnone : Dict.get? d k = none := by
          unfold Dict.get?
          rw [List.lookup_eq_none_iff]
          intro p hp
          have hne : k ≠ p.1 := fun h => hd.1 (h ▸ List.mem_map_of_mem hp)
          simpa using hne
        rw [hnone] at hrest
        simpa [Dict.get?_cons, Option.filter_some] using hrest
      · simpa [Dict.get?_cons, hk] using hrest
    · simp only [List.filter_cons, ne_eq, hv, not_false_eq_true, decide_true, if_true,
        Dict.get?_cons]
      split
      · simp [Option.filter_some, hv]
      · simpa using hrest

theorem get_excludeNone {d : Dict} (hd : (d.map Prod.fst).Nodup) (k : String) :
    Dict.get (excludeNone d) k = d.get k := by
  unfold Dict.get
  rw [get?_excludeNone hd]
  cases Dict.get? d k with
  | none => rfl
  | some v =>
    by_cases hv : v = .null
    · simp [Option.filter_some, hv]
    · simp [Option.filter_some, hv]

/-- The entry under a key of a dumped record. -/
theorem sortKeys_get_excludeNone {d e : Dict} (hd : (d.map Prod.fst).Nodup)
    (he : (e.map Prod.fst).Nodup)
    (h : (Json.obj (excludeNone d)).sortKeys = (Json.obj (excludeNone e)).sortKeys) (k : String) :
    (d.get k).sortKeys = (e.get k).sortKeys := by
  rw [← get_excludeNone hd, ← get_excludeNone he]
  exact Json.sortKeys_get h k

@[simp] theorem sortKeys_str_self (s : String) : (Json.str s).sortKeys = .str s := rfl

@[simp] theorem sortKeys_int_self (n : Int) : (Json.int n).sortKeys = .int n := rfl

@[simp] theorem sortKeys_optStr (o : Option String) : (optStr o).sortKeys = optStr o := by
  cases o <;> rfl

theorem optStr_injective : Function.Injective optStr := by
  intro a b h
  cases a <;> cases b <;> simp_all [optStr]

theorem sameRequirements_of_modelDump {r s : PaymentRequirements}
    (h : (Json.obj r.modelDump).sortKeys = (Json.obj s.modelDump).sortKeys) :
    SameRequirements r s := by
  have hget := sortKeys_get_excludeNone (by simp) (by simp) h
  constructor
  · simpa [Dict.get, Dict.get?_cons] using hget "scheme"
  · simpa [Dict.get, Dict.get?_cons] using hget "network"
  · simpa [Dict.get, Dict.get?_cons] using hget "asset"
  · simpa [Dict.get, Dict.get?_cons] using hget "amount"
  · simpa [Dict.get, Dict.get?_cons] using hget "payTo"
  · simpa [Dict.get, Dict.get?_cons] using hget "maxTimeoutSeconds"
  · simpa [Dict.get, Dict.get?_cons] using hget "extra"

theorem tagsJson_inj {a b : Option (List String)}
    (h : (tagsJson a).sortKeys = (tagsJson b).sortKeys) : a = b := by
  have hsort : ∀ ts : List String, Json.sortArr (ts.map .str) = ts.map .str := by
    intro ts
    induction ts with
    | nil => rfl
    | cons t ts ih => rw [List.map_cons, Json.sortArr, ih, sortKeys_str_self]
  have hinj : Function.Injective (List.map Json.str) :=
    List.map_injective_iff.mpr fun _ _ h => Json.str.inj h
  cases a with
  | none =>
    cases b with
    | none => rfl
    | some y => simp [tagsJson, Json.sortKeys] at h
  | some x =>
    cases b with
    | none => simp [tagsJson, Json.sortKeys] at h
    | some y =>
      simp only [tagsJson, Option.map_some, Option.getD_some, Json.sortKeys, hsort,
        Json.arr.injEq] at h
      rw [hinj h]

theorem resource_eq_of_modelDump {r s : ResourceInfo}
    (h : (Json.obj r.modelDump).sortKeys = (Json.obj s.modelDump).sortKeys) : r = s := by
  have hget := sortKeys_get_excludeNone (by simp) (by simp) h
  have hurl : r.url = s.url := by simpa [Dict.get, Dict.get?_cons] using hget "url"
  have hdesc : r.description = s.description :=
    optStr_injective (by simpa [Dict.get, Dict.get?_cons] using hget "description")
  have hmime : r.mimeType = s.mimeType :=
    optStr_injective (by simpa [Dict.get, Dict.get?_cons] using hget "mimeType")
  have hname : r.serviceName = s.serviceName :=
    optStr_injective (by simpa [Dict.get, Dict.get?_cons] using hget "serviceName")
  have htags : r.tags = s.tags :=
    tagsJson_inj (by simpa [Dict.get, Dict.get?_cons] using hget "tags")
  have hicon : r.iconUrl = s.iconUrl :=
    optStr_injective (by simpa [Dict.get, Dict.get?_cons] using hget "iconUrl")
  cases r
  cases s
  simp_all

theorem resource_eq_of_optDict {a b : Option ResourceInfo}
    (h : (optDict (a.map ResourceInfo.modelDump)).sortKeys =
      (optDict (b.map ResourceInfo.modelDump)).sortKeys) : a = b := by
  cases a with
  | none =>
    cases b with
    | none => rfl
    | some y => simp [optDict, Json.sortKeys] at h
  | some x =>
    cases b with
    | none => simp [optDict, Json.sortKeys] at h
    | some y => rw [resource_eq_of_modelDump h]

/-- Equal fingerprints stand for equal requests. -/
theorem request_eq_of_fingerprint {env : Env} (hinj : Function.Injective env.sha256)
    {p q : PaymentPayload} {r s : PaymentRequirements} {m n : Option String}
    {a b : Option ResourceInfo} {i j : Option String}
    (h : requirementsFingerprint env p r m a i = requirementsFingerprint env q s n b j) :
    SameRequirements r s ∧ (Json.obj p.payload).sortKeys = (Json.obj q.payload).sortKeys ∧
      a.or p.resource = b.or q.resource ∧
      (optDict p.extensions).sortKeys = (optDict q.extensions).sortKeys ∧ i = j := by
  have hget := Json.sortKeys_get (sortKeys_eq_of_digest_eq hinj h)
  have entry : ∀ k : String, k ≠ "resourceIdentity" →
      ∀ (p : PaymentPayload) (r : PaymentRequirements) m a i,
      Dict.get (normalizedRequest env p r m a i) k = Dict.get (normalizedRequest env p r m a none) k := by
    intro k hk p r m a i
    cases i with
    | none => rfl
    | some i =>
      simp only [normalizedRequest, Dict.get, Option.map_some, Option.getD_some, List.cons_append,
        List.nil_append, Dict.get?_cons, Option.map_none, Option.getD_none, hk, if_false]
  refine ⟨sameRequirements_of_modelDump ?_, ?_, resource_eq_of_optDict ?_, ?_, ?_⟩
  · have hk := hget "accepted"
    rw [entry _ (by decide), entry _ (by decide) q] at hk
    simpa [normalizedRequest, Dict.get, Dict.get?_cons] using hk
  · have hk := hget "payload"
    rw [entry _ (by decide), entry _ (by decide) q] at hk
    simpa [normalizedRequest, Dict.get, Dict.get?_cons] using hk
  · have hk := hget "resource"
    rw [entry _ (by decide), entry _ (by decide) q] at hk
    simpa [normalizedRequest, Dict.get, Dict.get?_cons] using hk
  · have hk := hget "extensions"
    rw [entry _ (by decide), entry _ (by decide) q] at hk
    simpa [normalizedRequest, Dict.get, Dict.get?_cons] using hk
  · have hk := hget "resourceIdentity"
    have ident : ∀ (p : PaymentPayload) (r : PaymentRequirements) m a i,
        Dict.get (normalizedRequest env p r m a i) "resourceIdentity" = optStr i := by
      intro p r m a i
      cases i <;> simp [normalizedRequest, Dict.get, Dict.get?_cons, optStr]
    rw [ident, ident] at hk
    exact optStr_injective (by simpa using hk)

/-- What `extra` says under a key does not depend on the representative. -/
theorem SameRequirements.extra_get {r s : PaymentRequirements} (h : SameRequirements r s)
    (k : String) : (Dict.get r.extraOr k).sortKeys = (Dict.get s.extraOr k).sortKeys := by
  have hx := h.extra
  unfold PaymentRequirements.extraOr
  cases hr : r.extra with
  | none =>
    cases hs : s.extra with
    | none => rfl
    | some e => simp [hr, hs, optDict, Json.sortKeys] at hx
  | some d =>
    cases hs : s.extra with
    | none => simp [hr, hs, optDict, Json.sortKeys] at hx
    | some e =>
      rw [hr, hs] at hx
      exact Json.sortKeys_get hx k

/-- Requirements with the same content have the same shape. -/
theorem WellShaped.congr {env : Env} {r s : PaymentRequirements} (h : SameRequirements r s)
    (hr : WellShaped env r) : WellShaped env s := by
  have hstr : ∀ k v, Dict.get r.extraOr k = .str v → Dict.get s.extraOr k = .str v := by
    intro k v hk
    have hsame := h.extra_get k
    rw [hk, eq_comm] at hsame
    simpa using hsame
  constructor
  · rw [← h.scheme]
    exact hr.scheme
  · rw [← h.network]
    exact hr.network
  · rw [← h.maxTimeoutSeconds]
    exact hr.timeout
  · have hsame := h.extra_get "areFeesSponsored"
    rw [hr.feesNotSponsored, eq_comm] at hsame
    simpa [Json.sortKeys] using hsame
  · rw [← h.asset, ← h.amount]
    exact hr.native
  · rcases hr.flow with hnull | hflow
    · have hsame := h.extra_get "paymentFlow"
      rw [hnull, eq_comm] at hsame
      exact .inl (by simpa [Json.sortKeys] using hsame)
    · exact .inr (hstr _ _ hflow)
  · rw [← h.asset]
    intro hasset
    obtain ⟨issuer, hissuer⟩ := hr.issuer hasset
    exact ⟨issuer, hstr _ _ hissuer⟩
  · rw [← h.asset, ← h.amount]
    exact hr.decimal

/-- Dictionaries with the same entries have keys in the same set. -/
theorem all_keys_congr {d e : Dict} {P : String → Bool}
    (h : ∀ k, (d.get? k).map Json.sortKeys = (e.get? k).map Json.sortKeys)
    (hd : d.all (fun kv => P kv.1) = true) : e.all (fun kv => P kv.1) = true := by
  rw [List.all_eq_true] at hd ⊢
  intro kv hkv
  have he : (Dict.get? e kv.1).isSome = true := List.lookup_isSome_iff.mpr ⟨kv, hkv, by simp⟩
  have hk := congrArg Option.isSome (h kv.1)
  rw [Option.isSome_map, Option.isSome_map, he] at hk
  obtain ⟨kv', hmem, heq⟩ := List.lookup_isSome_iff.mp hk
  rw [beq_iff_eq.mp heq]
  exact hd kv' hmem

/-- A payload with the same content carries the same blob. -/
theorem exactXrplPayload_congr {env : Env} {p q : PaymentPayload} {x : ExactXRPLPayload}
    (h : (Json.obj p.payload).sortKeys = (Json.obj q.payload).sortKeys)
    (hp : exactXrplPayload env p = .ok x) : exactXrplPayload env q = .ok x := by
  have hget := Json.sortKeys_get? h
  unfold exactXrplPayload ExactXRPLPayload.modelValidate at hp ⊢
  simp only at hp ⊢
  split at hp
  · next hall =>
    rw [if_pos (all_keys_congr (P := fun k => decide (k = "signedTxBlob")) hget hall)]
    split at hp
    · next value hvalue =>
      have hq := hget "signedTxBlob"
      rw [hvalue, Option.map_some, eq_comm, Option.map_eq_some_iff] at hq
      obtain ⟨j, hj, hsame⟩ := hq
      have hstr : j = .str value := by simpa [Json.sortKeys] using hsame
      rw [hj, hstr]
      simp only
      split at hp
      · cases hp
      · next hlength =>
        rw [if_neg hlength]
        split at hp
        · next hblob =>
          rw [dif_pos hblob]
          exact hp
        · cases hp
    · cases hp
  · cases hp

/-! ## Section 4: A hash for examples -/

/-- The digests of the given texts, and longer ones for everything else. -/
def tableHash (known : List (String × List UInt8)) (bytes : List UInt8) : List UInt8 :=
  match known.find? fun entry => encodeUtf8 entry.1 = bytes with
  | some entry => entry.2
  | none => bytes ++ List.replicate 33 0

theorem tableHash_injective {known : List (String × List UInt8)}
    (hlength : ∀ entry ∈ known, entry.2.length = 32)
    (hdigest : ∀ a ∈ known, ∀ b ∈ known, a.2 = b.2 → a.1 = b.1) :
    Function.Injective (tableHash known) := by
  have hshort : ∀ {bytes entry}, (known.find? fun entry => encodeUtf8 entry.1 = bytes) = some entry →
      entry ∈ known ∧ encodeUtf8 entry.1 = bytes ∧ entry.2.length = 32 := by
    intro bytes entry h
    have hmem := List.mem_of_find?_eq_some h
    exact ⟨hmem, by simpa using List.find?_some h, hlength _ hmem⟩
  intro a b h
  unfold tableHash at h
  split at h
  · next x hx =>
    obtain ⟨hxmem, hxa, hxlen⟩ := hshort hx
    split at h
    · next y hy =>
      obtain ⟨hymem, hyb, -⟩ := hshort hy
      rw [← hxa, ← hyb, hdigest x hxmem y hymem h]
    · have hlen := congrArg List.length h
      rw [hxlen, List.length_append, List.length_replicate] at hlen
      omega
  · split at h
    · next y hy =>
      obtain ⟨-, -, hylen⟩ := hshort hy
      have hlen := congrArg List.length h
      rw [hylen, List.length_append, List.length_replicate] at hlen
      omega
    · exact List.append_cancel_right h

end XrplX402
