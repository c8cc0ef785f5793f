import Mathlib.Data.Int.Bitwise
import XrplX402.Facilitator.Verify

/-! # Soundness of verification

    What is known of a payment whose verification returned that it is valid,
    whatever the node answered. Each of the six check functions has one
    structure, which says what the function has established, and one lemma,
    which derives it from a successful run:

    * `EnvelopeOk`: the payload and the requirements agree.
    * `SignatureOk`: the transaction is a Payment with one valid signature.
    * `StructureOk`: its fields are the allowed ones with the required values.
    * `LedgerOk`: the answers of the node support the signer and the sequence. -/

namespace XrplX402.Facilitator

open Py Interaction Prog

variable {env : Env} {F : ExactXRPLFacilitatorScheme env}

/-! ## Section 1: Paths of checks and requests -/

theorem path_check_bind_ok {α β : Type} {x : Check α} {k : α → Service β} {t : List (Event Op Ret)}
    {b : β} : Path (check x >>= k) t (.ok b) ↔ ∃ a, x = .ok a ∧ Path (k a) t (.ok b) :=
  path_ofExcept_bind_ok

theorem path_check_ok {α : Type} {x : Check α} {t : List (Event Op Ret)} {a : α} :
    Path (check x) t (.ok a) ↔ t = [] ∧ x = .ok a := by
  unfold check
  rw [path_ofExcept]
  exact and_congr_right fun _ => eq_comm

theorem path_lift_bind_ok {α β : Type} {x : Except Exc α} {k : α → Service β}
    {t : List (Event Op Ret)} {b : β} :
    Path (lift x >>= k) t (.ok b) ↔ ∃ a, x = .ok a ∧ Path (k a) t (.ok b) := by
  unfold lift
  simp only [path_ofExcept_bind_ok, uncaught_eq_ok]

theorem path_lift_ok {α : Type} {x : Except Exc α} {t : List (Event Op Ret)} {a : α} :
    Path (lift x) t (.ok a) ↔ t = [] ∧ x = .ok a := by
  unfold lift
  rw [path_ofExcept, eq_comm (a := Except.ok a), uncaught_eq_ok]

/-- A request that returns was answered. -/
theorem path_request_bind_ok {β : Type} {q : RpcRequest} {k : Json → Service β}
    {t : List (Event Op Ret)} {b : β} :
    Path (request q >>= k) t (.ok b) ↔
      ∃ result t', t = ⟨.rpc q, .ok result⟩ :: t' ∧ Path (k result) t' (.ok b) := by
  unfold request
  rw [call_bind, path_call]
  constructor
  · rintro ⟨answer, t', rfl, h⟩
    obtain ⟨result, rfl, h⟩ := path_lift_bind_ok.mp h
    exact ⟨result, t', rfl, h⟩
  · rintro ⟨result, t', rfl, h⟩
    exact ⟨.ok result, t', rfl, path_lift_bind_ok.mpr ⟨result, rfl, h⟩⟩

/-! ## Section 2: The envelope -/

/-- The accepted requirements of the payload agree with the required ones, and
    these are an offer of this facilitator. -/
structure EnvelopeOk (F : ExactXRPLFacilitatorScheme env) (payload : PaymentPayload)
    (requirements : PaymentRequirements) (method : String) : Prop where
  shape : WellShaped env requirements
  acceptedShape : WellShaped env payload.accepted
  version : payload.x402Version = 2
  scheme : payload.accepted.scheme = requirements.scheme
  network : payload.accepted.network = requirements.network
  asset : payload.accepted.asset = requirements.asset
  amount : payload.accepted.amount = requirements.amount
  payTo : payload.accepted.payTo = requirements.payTo
  timeout : payload.accepted.maxTimeoutSeconds = requirements.maxTimeoutSeconds
  /-- Every other entry of `extra` is present on both sides or on neither, with
      equal values. -/
  extra : ∀ k, k ≠ "assetTransferMethod" → k ≠ "paymentFlow" →
    (Dict.get? payload.accepted.extraOr k).map Json.canon =
      (Dict.get? requirements.extraOr k).map Json.canon
  selected : selectedMethod payload.accepted requirements = .str method
  known : method = "sequence" ∨ method = "ticketSequence"
  demanded : assetTransferMethod requirements ≠ .null →
    assetTransferMethod requirements = .str method
  ownNetwork : requirements.network = F.settings.networkId
  ownAddress : requirements.payTo = F.settings.myDestinationAddress
  allowed : assetAllowed F requirements = true
  minimum : requirements.asset = "XRP" →
    ∃ drops, intOfStr env.unicode requirements.amount = .ok drops ∧ F.settings.minXrpDrops ≤ drops

theorem shapeOrRefuse_eq_ok {reason : String} {r : PaymentRequirements} {extra : ExactXRPLExtra}
    (h : shapeOrRefuse env reason r = .ok extra) : WellShaped env r := by
  unfold shapeOrRefuse at h
  split at h
  · next hshape => exact wellShaped_of_shape hshape
  · split at h <;> cases h

theorem otherExtra_get? {k : String} (h₁ : k ≠ "assetTransferMethod") (h₂ : k ≠ "paymentFlow")
    (r : PaymentRequirements) : Dict.get? (otherExtra r) k = Dict.get? r.extraOr k := by
  unfold otherExtra
  rw [Dict.get?_pop h₂, Dict.get?_pop h₁]

theorem envelopeOk_of_verifyEnvelope {payload : PaymentPayload} {requirements : PaymentRequirements}
    {method : String} (h : verifyEnvelope F payload requirements = .ok method) :
    EnvelopeOk F payload requirements method := by
  -- The envelope is checked in this order; each step passed.
  unfold verifyEnvelope at h
  obtain ⟨_, hshape, h⟩ := bind_eq_ok.mp h
  obtain ⟨hversion, h⟩ := failIf_bind_eq_ok.mp h
  obtain ⟨_, haccepted, h⟩ := bind_eq_ok.mp h
  obtain ⟨hfields, h⟩ := failIf_bind_eq_ok.mp h
  obtain ⟨_, h⟩ := failIf_bind_eq_ok.mp h
  obtain ⟨hextra, h⟩ := failIf_bind_eq_ok.mp h
  obtain ⟨hmethod, h⟩ := failIf_bind_eq_ok.mp h
  obtain ⟨hdemanded, h⟩ := failIf_bind_eq_ok.mp h
  obtain ⟨hnetwork, h⟩ := failIf_bind_eq_ok.mp h
  obtain ⟨haddress, h⟩ := failIf_bind_eq_ok.mp h
  obtain ⟨hallowed, h⟩ := failIf_bind_eq_ok.mp h
  obtain ⟨below, hbelow, h⟩ := bind_eq_ok.mp h
  obtain ⟨hminimum, h⟩ := failIf_bind_eq_ok.mp h
  have hresult : str env.unicode (selectedMethod payload.accepted requirements) = method :=
    Except.ok.inj h
  -- The method is one of the two that the facilitator knows.
  have hselected : selectedMethod payload.accepted requirements = .str method ∧
      (method = "sequence" ∨ method = "ticketSequence") := by
    by_cases hs : selectedMethod payload.accepted requirements = .str "sequence"
    · rw [hs] at hresult ⊢
      exact ⟨congrArg Json.str hresult, .inl hresult.symm⟩
    · have ht : selectedMethod payload.accepted requirements = .str "ticketSequence" := by
        by_contra hne
        exact hmethod ⟨hs, hne⟩
      rw [ht] at hresult ⊢
      exact ⟨congrArg Json.str hresult, .inr hresult.symm⟩
  -- Six fields are compared at once.
  have hsame := not_not.mp hfields
  simp only [comparedFields, Prod.mk.injEq] at hsame
  obtain ⟨hscheme, hnet, hasset, hamount, hpayTo, htimeout⟩ := hsame
  constructor
  · exact shapeOrRefuse_eq_ok hshape
  · exact shapeOrRefuse_eq_ok haccepted
  · exact not_not.mp hversion
  · exact hscheme
  · exact hnet
  · exact hasset
  · exact hamount
  · exact hpayTo
  · exact htimeout
  -- The other extra entries are compared after both methods are taken out.
  · intro k h₁ h₂
    have hk := Json.get?_canon_of_pyEq (by simpa using hextra) k
    rwa [otherExtra_get? h₁ h₂, otherExtra_get? h₁ h₂] at hk
  · exact hselected.1
  · exact hselected.2
  -- A method that the request demands is the one that is used.
  · intro hnull
    have heq : (Json.str method).pyEq (assetTransferMethod requirements) = true := by
      rw [← hselected.1]
      by_contra hne
      exact hdemanded ⟨hnull, eq_false_of_ne_true hne⟩
    have hcanon := Json.pyEq_iff.mp heq
    rw [Json.canon_str, eq_comm, Json.canon_eq_str] at hcanon
    exact hcanon
  · exact not_not.mp hnetwork
  · exact not_not.mp haddress
  · simpa using hallowed
  -- The minimum applies to amounts in drops.
  · intro hasset
    rw [uncaught_eq_ok, belowMinimum, if_pos hasset] at hbelow
    obtain ⟨drops, hdrops, hbelow⟩ := bind_eq_ok.mp hbelow
    have hbelow' : decide (drops < F.settings.minXrpDrops) = below := Except.ok.inj hbelow
    refine ⟨drops, hdrops, ?_⟩
    by_contra hlt
    apply hminimum
    rw [← hbelow']
    simpa using hlt

/-! ## Section 3: The signature -/

/-- A Payment with exactly one signature, which is valid. -/
structure SignatureOk (env : Env) (tx : Dict) (payer : String) : Prop where
  payment : Dict.get tx "TransactionType" = .str "Payment"
  single : Dict.get tx "Signers" = .null
  address : env.isValidClassicAddress payer = true
  signed : ∃ publicKey signature encoded message signatureBytes,
    Dict.get tx "SigningPubKey" = .str publicKey ∧ isCanonicalSigningPubKey publicKey = true ∧
    Dict.get tx "TxnSignature" = .str signature ∧ signature ≠ "" ∧
    env.encodeForSigning (Dict.pop tx "TxnSignature") = .ok encoded ∧
    fromHex encoded = .ok message ∧ fromHex signature = .ok signatureBytes ∧
    env.isValidMessage message signatureBytes publicKey = .ok true

theorem requireStr_eq_ok {tx : Dict} {field : String} {ok : String → Bool} {reason payer s : String}
    (h : requireStr tx field ok reason payer = .ok s) :
    Dict.get tx field = .str s ∧ ok s = true := by
  unfold requireStr at h
  split at h
  · next s' hs =>
    split at h
    · next hok =>
      obtain rfl : s' = s := Except.ok.inj h
      exact ⟨hs, hok⟩
    · cases h
  · cases h

theorem signatureOk_of_verifySignature {tx : Dict} {payer : String}
    (h : verifySignature env tx payer = .ok ()) : SignatureOk env tx payer := by
  unfold verifySignature at h
  obtain ⟨hpayment, h⟩ := failIf_bind_eq_ok.mp h
  obtain ⟨hsingle, h⟩ := failIf_bind_eq_ok.mp h
  obtain ⟨haddress, h⟩ := failIf_bind_eq_ok.mp h
  obtain ⟨publicKey, hkey, h⟩ := bind_eq_ok.mp h
  obtain ⟨signature, hsignature, h⟩ := bind_eq_ok.mp h
  obtain ⟨valid, hvalid, h⟩ := bind_eq_ok.mp h
  have hvalid' : signatureValid env tx signature publicKey = .ok true := by
    have htrue : valid = true := by simpa using failIf_eq_ok.mp h
    rw [htrue] at hvalid
    unfold signatureOrRefuse at hvalid
    split at hvalid
    · next hv => exact hv.trans (congrArg _ (Except.ok.inj hvalid))
    · cases hvalid
  unfold signatureValid at hvalid'
  obtain ⟨encoded, hencoded, hvalid'⟩ := bind_eq_ok.mp hvalid'
  obtain ⟨message, hmessage, hvalid'⟩ := bind_eq_ok.mp hvalid'
  obtain ⟨signatureBytes, hbytes, hvalid'⟩ := bind_eq_ok.mp hvalid'
  obtain ⟨hkey, hcanonical⟩ := requireStr_eq_ok hkey
  obtain ⟨hsignature, hnonempty⟩ := requireStr_eq_ok hsignature
  exact ⟨not_not.mp hpayment, not_not.mp hsingle, by simpa using haddress, publicKey, signature,
    encoded, message, signatureBytes, hkey, hcanonical, hsignature, by simpa using hnonempty,
    hencoded, hmessage, hbytes, hvalid'⟩

/-! ## Section 4: The structure -/

/-- The amount that is paid is the required one. -/
inductive AmountOk (env : Env) (tx : Dict) (paid : Json) (requirements : PaymentRequirements) :
    Prop where
  /-- The same number of drops, and no conversion. -/
  | native (asset : requirements.asset = "XRP") (digits : String) (drops : Int)
      (isPaid : paid = .str digits) (value : intOfStr env.unicode digits = .ok drops)
      (required : intOfStr env.unicode requirements.amount = .ok drops)
      (noConversion : Dict.get tx "SendMax" = .null)
  /-- The same currency, issuer and value `q`, and a `SendMax` in the same
      currency that is not below it. -/
  | issued (asset : requirements.asset ≠ "XRP") (amount sendMax : Dict) (currency issuer : String)
      (required value limit : Decimal) (q : ℚ)
      (isPaid : paid = .obj amount) (isLimit : Dict.get tx "SendMax" = .obj sendMax)
      (code : xrplCurrencyCode env requirements.asset = .ok currency)
      (issuerOf : Dict.get requirements.extraOr "issuer" = .str issuer)
      (paidCurrency : Dict.get amount "currency" = .str currency)
      (paidIssuer : Dict.get amount "issuer" = .str issuer)
      (limitCurrency : Dict.get sendMax "currency" = .str currency)
      (limitIssuer : Dict.get sendMax "issuer" = .str issuer)
      (requiredValue : decimalOfStr env.unicode requirements.amount = some required)
      (paidValue : decimalOfStr env.unicode (str env.unicode (Dict.get amount "value")) = some value)
      (limitValue : decimalOfStr env.unicode (str env.unicode (Dict.get sendMax "value")) =
        some limit)
      (exact_ : required.Denotes q ∧ value.Denotes q)
      (covers : limit = .infinite false ∨ ∃ l, limit.Denotes l ∧ q ≤ l)

/-- `InvoiceID` is the digest of the required invoice, in capitals, or there is
    neither. -/
inductive InvoiceOk (env : Env) (tx : Dict) (requirements : PaymentRequirements) : Prop where
  | neither (required : Dict.get requirements.extraOr "invoiceId" = .null)
      (actual : Dict.get tx "InvoiceID" = .null)
  | digest (invoiceId field : Json)
      (required : Dict.get requirements.extraOr "invoiceId" = invoiceId) (isRequired : invoiceId ≠ .null)
      (actual : Dict.get tx "InvoiceID" = field) (isActual : field ≠ .null)
      (nonempty : str env.unicode invoiceId ≠ "")
      (capitals : env.unicode.upperStr (str env.unicode field) =
        env.unicode.upperStr (env.sha256Hex (str env.unicode invoiceId)))

/-- The fields of the transaction are the allowed ones, with the required values. -/
structure StructureOk (F : ExactXRPLFacilitatorScheme env) (tx : Dict)
    (requirements : PaymentRequirements) : Prop where
  fields : ∀ field ∈ Dict.keys tx, field ∈ allowedPaymentFields
  destination : Dict.get tx "Destination" = .str requirements.payTo
  /-- `tfPartialPayment`, bit 17, is clear in a number and in a dictionary of flags. -/
  notPartial : (∀ n, (Dict.get tx "Flags").asInt? = some n → n.testBit 17 = false) ∧
    ∀ d, Dict.get tx "Flags" = .obj d → (Dict.get d "tfPartialPayment").truthy = false
  /-- Exactly one of the two amount fields is there. -/
  amount : ∃ field other, (field, other) ∈ [("Amount", "DeliverMax"), ("DeliverMax", "Amount")] ∧
    Dict.get tx field ≠ .null ∧ Dict.get tx other = .null ∧
    AmountOk env tx (Dict.get tx field) requirements
  destinationTag : (Dict.get tx "DestinationTag").canon =
    (Dict.get requirements.extraOr "destinationTag").canon
  invoice : InvoiceOk env tx requirements
  /-- Networks up to 1024 take no `NetworkID`, the others their own. -/
  networkId : ∃ n, parseXrplNetworkId env requirements.network = .ok n ∧
    (n ≤ 1024 → Dict.get tx "NetworkID" = .null) ∧
    (1024 < n → (Dict.get tx "NetworkID").canon = .int n)
  fee : ∃ digits drops, Dict.get tx "Fee" = .str digits ∧
    intOfStr env.unicode digits = .ok drops ∧ drops ≤ F.settings.maxFeeDrops

theorem requireDigits_eq_ok {j : Json} {reason payer s : String}
    (h : requireDigits env j reason payer = .ok s) : j = .str s := by
  unfold requireDigits at h
  split at h
  · split at h
    · exact congrArg Json.str (Except.ok.inj h)
    · cases h
  · cases h

theorem requireDict_eq_ok {j : Json} {reason payer : String} {d : Dict}
    (h : requireDict j reason payer = .ok d) : j = .obj d := by
  unfold requireDict at h
  split at h
  · exact congrArg Json.obj (Except.ok.inj h)
  · cases h

theorem decimalOrInvalid_eq_ok {s : String} {d : Decimal} (h : decimalOrInvalid env s = .ok d) :
    decimalOfStr env.unicode s = some d := by
  unfold decimalOrInvalid at h
  split at h
  · next d' hd => rw [hd, Except.ok.inj h]
  · cases h

/-- The number that an ordering is compared as. -/
def orderInt : Ordering → Int
  | .lt => -1
  | .eq => 0
  | .gt => 1

theorem compareDecimalStrings_eq_ok {left right : String} {n : Int}
    (h : compareDecimalStrings env left right = .ok n) :
    ∃ a b o, decimalOfStr env.unicode left = some a ∧ decimalOfStr env.unicode right = some b ∧
      a.cmp b = some o ∧ n = orderInt o := by
  unfold compareDecimalStrings at h
  obtain ⟨a, ha, h⟩ := bind_eq_ok.mp h
  obtain ⟨b, hb, h⟩ := bind_eq_ok.mp h
  cases hc : a.cmp b with
  | none =>
    rw [hc] at h
    cases h
  | some o =>
    refine ⟨a, b, o, decimalOrInvalid_eq_ok ha, decimalOrInvalid_eq_ok hb, hc, ?_⟩
    rw [hc] at h
    cases o <;> exact (Except.ok.inj h).symm

/-- A value that is compared with a plain decimal amount. -/
theorem compareDecimalStrings_amount {left amount : String} {n : Int}
    (hamount : isDecimalAmount amount = true) (h : compareDecimalStrings env left amount = .ok n) :
    ∃ value required q, decimalOfStr env.unicode left = some value ∧
      decimalOfStr env.unicode amount = some required ∧ required.Denotes q ∧
      (n = 0 → value.Denotes q) ∧
      (0 ≤ n → value = .infinite false ∨ ∃ l, value.Denotes l ∧ q ≤ l) := by
  obtain ⟨value, required, o, hvalue, hrequired, hcmp, rfl⟩ := compareDecimalStrings_eq_ok h
  obtain ⟨q, required', hrequired', hq⟩ := decimalOfStr_of_isDecimalAmount env.unicode hamount
  obtain rfl : required = required' := Option.some.inj (hrequired.symm.trans hrequired')
  refine ⟨value, required, q, hvalue, hrequired, hq, fun hzero => ?_, fun hnonneg => ?_⟩
  · have ho : o = .eq := by
      cases o
      · cases hzero
      · rfl
      · cases hzero
    rw [ho] at hcmp
    exact (Decimal.cmp_eq_iff hq).mp hcmp
  · have ho : o ≠ .lt := by
      rintro rfl
      exact absurd hnonneg (by decide)
    exact Decimal.cmp_ne_lt hq hcmp ho

theorem amountOk_of_verifyIouAmount {tx : Dict} {paid : Json} {requirements : PaymentRequirements}
    {payer : String} (hshape : WellShaped env requirements) (hasset : requirements.asset ≠ "XRP")
    (h : verifyIouAmount env paid (Dict.get tx "SendMax") requirements payer = .ok ()) :
    AmountOk env tx paid requirements := by
  obtain ⟨issuer, hissuer⟩ := hshape.issuer hasset
  -- Python's equality with a text leaves no other value.
  have hsame : ∀ j : Json, j.pyEq (.str issuer) = true → j = .str issuer := by
    intro j hj
    simpa using hj
  unfold verifyIouAmount at h
  -- The amount, its currency and issuer, its value, and then the limit.
  obtain ⟨amount, hamount, h⟩ := bind_eq_ok.mp h
  obtain ⟨currency, hcurrency, h⟩ := bind_eq_ok.mp h
  rw [uncaught_eq_ok] at hcurrency
  simp only [hissuer] at h
  obtain ⟨hpaidCurrency, h⟩ := failIf_bind_eq_ok.mp h
  obtain ⟨hpaidIssuer, h⟩ := failIf_bind_eq_ok.mp h
  obtain ⟨order, horder, h⟩ := bind_eq_ok.mp h
  obtain ⟨hzero, h⟩ := failIf_bind_eq_ok.mp h
  obtain ⟨sendMax, hsendMax, h⟩ := bind_eq_ok.mp h
  obtain ⟨hlimit, h⟩ := failIf_bind_eq_ok.mp h
  obtain ⟨order', horder', h⟩ := bind_eq_ok.mp h
  have hcovers := failIf_eq_ok.mp h
  obtain ⟨hlimitCurrency, hlimitIssuer⟩ := not_or.mp hlimit
  unfold compareValue at horder horder'
  rw [uncaught_eq_ok] at horder horder'
  -- Both comparisons read the required amount, so they are about one number.
  obtain ⟨value, required, q, hvalue, hrequired, hq, hexact, -⟩ :=
    compareDecimalStrings_amount (hshape.decimal hasset) horder
  obtain ⟨limit, required', q', hlimitValue, hrequired', hq', -, hle⟩ :=
    compareDecimalStrings_amount (hshape.decimal hasset) horder'
  obtain rfl : required = required' := Option.some.inj (hrequired.symm.trans hrequired')
  obtain rfl : q = q' := hq.unique hq'
  exact .issued hasset amount sendMax currency issuer required value limit q
    (requireDict_eq_ok hamount) (requireDict_eq_ok hsendMax) hcurrency hissuer
    (not_not.mp hpaidCurrency) (hsame _ (by simpa using hpaidIssuer)) (not_not.mp hlimitCurrency)
    (hsame _ (by simpa using hlimitIssuer)) hrequired hvalue hlimitValue
    ⟨hq, hexact (not_not.mp hzero)⟩ (hle (not_lt.mp hcovers))

theorem amountOk_of_verifyXrpAmount {tx : Dict} {paid : Json} {requirements : PaymentRequirements}
    {payer : String} (hasset : requirements.asset = "XRP")
    (h : verifyXrpAmount env tx paid requirements payer = .ok ()) :
    AmountOk env tx paid requirements := by
  unfold verifyXrpAmount at h
  obtain ⟨digits, hdigits, h⟩ := bind_eq_ok.mp h
  obtain ⟨drops, hdrops, h⟩ := bind_eq_ok.mp h
  obtain ⟨required, hrequired, h⟩ := bind_eq_ok.mp h
  obtain ⟨hequal, h⟩ := failIf_bind_eq_ok.mp h
  rw [uncaught_eq_ok] at hdrops hrequired
  have heq : required = drops := (not_not.mp hequal).symm
  rw [heq] at hrequired
  exact .native hasset digits drops (requireDigits_eq_ok hdigits) hdrops hrequired
    (not_not.mp (failIf_eq_ok.mp h))

theorem amountField_eq_ok {tx : Dict} {payer field : String} (h : amountField tx payer = .ok field) :
    ∃ other, (field, other) ∈ [("Amount", "DeliverMax"), ("DeliverMax", "Amount")] ∧
      Dict.get tx field ≠ .null ∧ Dict.get tx other = .null := by
  unfold amountField amountFields at h
  by_cases ha : Dict.get tx "Amount" = .null
  · by_cases hd : Dict.get tx "DeliverMax" = .null
    · simp [ha, hd] at h
    · have hf : "DeliverMax" = field := by simpa [ha, hd] using h
      exact ⟨"Amount", by simp [← hf], hf ▸ hd, ha⟩
  · by_cases hd : Dict.get tx "DeliverMax" = .null
    · have hf : "Amount" = field := by simpa [ha, hd] using h
      exact ⟨"DeliverMax", by simp [← hf], hf ▸ ha, hd⟩
    · simp [ha, hd] at h

/-- A flag is a bit of the number. -/
theorem hasFlag_two_pow (n : Int) (k : Nat) : hasFlag n (2 ^ k) = n.testBit k := by
  have hpos : (0 : Int) < 2 ^ k := by positivity
  cases n with
  | ofNat m =>
    have hcast : ((m : Int) / 2 ^ k % 2 = 1) ↔ m / 2 ^ k % 2 = 1 := by norm_cast
    show decide ((m : Int) / 2 ^ k % 2 = 1) = Nat.testBit m k
    rw [Nat.testBit_eq_decide_div_mod_eq]
    exact decide_eq_decide.mpr hcast
  | negSucc m =>
    have hdiv : Int.negSucc m / 2 ^ k = -((m / 2 ^ k : Nat) + 1 : Int) := by
      rw [Int.negSucc_ediv _ hpos]
      norm_cast
    show decide (Int.negSucc m / 2 ^ k % 2 = 1) = !Nat.testBit m k
    rw [Nat.testBit_eq_decide_div_mod_eq, hdiv, ← decide_not]
    exact decide_eq_decide.mpr (by omega)

theorem hasFlag_partialPayment (n : Int) : hasFlag n tfPartialPayment = n.testBit 17 := hasFlag_two_pow n 17

theorem hasFlag_disableMaster (n : Int) : hasFlag n lsfDisableMaster = n.testBit 20 := hasFlag_two_pow n 20

theorem notPartial_of_asksPartialPayment {tx : Dict} (h : asksPartialPayment tx = false) :
    (∀ n, (Dict.get tx "Flags").asInt? = some n → n.testBit 17 = false) ∧
      ∀ d, Dict.get tx "Flags" = .obj d → (Dict.get d "tfPartialPayment").truthy = false := by
  simp only [← hasFlag_partialPayment]
  unfold asksPartialPayment at h
  obtain ⟨hint, hdict⟩ := Bool.or_eq_false_iff.mp h
  by_cases htrue : (Dict.get tx "Flags").truthy = true
  · have hor : (Dict.get tx "Flags").or (.int 0) = Dict.get tx "Flags" := by simp [Json.or, htrue]
    rw [hor] at hint hdict
    refine ⟨fun n hn => ?_, fun d hd => ?_⟩
    · simpa [hn] using hint
    · simpa [hd, Json.asDict?] using hdict
  · -- Flags that are absent or zero have no bit set.
    cases hf : Dict.get tx "Flags" with
    | null => simp [Json.asInt?]
    | bool b =>
      have hb : b = false := by simpa [hf, Json.truthy] using htrue
      simp [Json.asInt?, hb, hasFlag]
    | int n =>
      have hn : n = 0 := by simpa [hf, Json.truthy] using htrue
      simp [Json.asInt?, hn, hasFlag]
    | obj d =>
      have hd : d = [] := by simpa [hf, Json.truthy] using htrue
      simp [Json.asInt?, hd, Dict.get, Json.truthy]
    | _ => simp [Json.asInt?]

/-- The two invoices that are compared are the digest and the field. -/
theorem invoiceOk_iff {tx : Dict} {requirements : PaymentRequirements} :
    expectedInvoice env requirements = .ok (normalizedInvoice env tx) ↔ InvoiceOk env tx requirements := by
  unfold expectedInvoice normalizedInvoice
  constructor
  -- A required invoice is hashed and compared with the field in capitals.
  · intro h
    split at h
    · next hnone =>
      split at h
      · next hactual => exact .neither hnone hactual
      · cases h
    · next invoiceId hrequired =>
      obtain ⟨field, hfield, h⟩ := bind_eq_ok.mp h
      unfold invoiceIdToInvoiceIdField at hfield
      split at hfield
      · cases hfield
      · next hnonempty =>
        split at h
        · cases h
        · next actual hactual =>
          refine .digest _ _ rfl hrequired rfl hactual hnonempty ?_
          rw [Except.ok.inj hfield]
          exact (Option.some.inj (Except.ok.inj h)).symm
  · intro h
    cases h with
    | neither required actual => rw [required, actual]
    -- The digest and the field have the same capitals.
    | digest invoiceId field required isRequired actual isActual nonempty capitals =>
      have hexpected : invoiceIdToInvoiceIdField env (str env.unicode invoiceId) =
          .ok (env.unicode.upperStr (str env.unicode field)) := by
        unfold invoiceIdToInvoiceIdField
        rw [if_neg nonempty, capitals]
      rw [required, actual]
      split
      · exact absurd rfl isRequired
      · exact bind_eq_ok.mpr ⟨_, hexpected, rfl⟩

theorem structureOk_of_verifyStructure {tx : Dict} {requirements : PaymentRequirements}
    {payer : String} (hshape : WellShaped env requirements)
    (h : verifyStructure F tx requirements payer = .ok ()) : StructureOk F tx requirements := by
  -- The structure is checked in this order; each step passed.
  unfold verifyStructure at h
  obtain ⟨hfields, h⟩ := failIf_bind_eq_ok.mp h
  obtain ⟨hdestination, h⟩ := failIf_bind_eq_ok.mp h
  obtain ⟨_, _, h⟩ := bind_eq_ok.mp h
  obtain ⟨hpart, h⟩ := failIf_bind_eq_ok.mp h
  obtain ⟨field, hfield, h⟩ := bind_eq_ok.mp h
  obtain ⟨_, hamount, h⟩ := bind_eq_ok.mp h
  obtain ⟨htag, h⟩ := failIf_bind_eq_ok.mp h
  obtain ⟨invoice, hinvoice, h⟩ := bind_eq_ok.mp h
  obtain ⟨hsameInvoice, h⟩ := failIf_bind_eq_ok.mp h
  obtain ⟨n, hn, h⟩ := bind_eq_ok.mp h
  obtain ⟨hstandard, h⟩ := failIf_bind_eq_ok.mp h
  obtain ⟨hother, h⟩ := failIf_bind_eq_ok.mp h
  unfold verifyFee at h
  obtain ⟨digits, hdigits, h⟩ := bind_eq_ok.mp h
  obtain ⟨drops, hdrops, h⟩ := bind_eq_ok.mp h
  have hfee := failIf_eq_ok.mp h
  rw [uncaught_eq_ok] at hinvoice hn hdrops
  constructor
  -- An unexpected field would be in the list that was found empty.
  · intro f hf
    by_contra hforbidden
    have hmem : f ∈ unexpectedFields tx := by
      unfold unexpectedFields
      rw [List.mem_filter]
      exact ⟨List.mem_dedup.mpr hf, by simpa using hforbidden⟩
    rw [not_not.mp hfields] at hmem
    cases hmem
  · exact not_not.mp hdestination
  · exact notPartial_of_asksPartialPayment (by simpa using hpart)
  · obtain ⟨other, hpair, hpresent, habsent⟩ := amountField_eq_ok hfield
    refine ⟨field, other, hpair, hpresent, habsent, ?_⟩
    unfold verifyAmount at hamount
    split at hamount
    · next hasset => exact amountOk_of_verifyXrpAmount hasset hamount
    · next hasset => exact amountOk_of_verifyIouAmount hshape hasset hamount
  · exact Json.pyEq_iff.mp (by simpa using htag)
  · rw [← invoiceOk_iff, hinvoice, not_not.mp hsameInvoice]
  -- The network id is required from 1025 on, and forbidden below.
  · refine ⟨n, hn, fun hle => ?_, fun hlt => ?_⟩
    · by_contra hpresent
      exact hstandard ⟨hle, hpresent⟩
    · have heq : (Dict.get tx "NetworkID").pyEq (.int n) = true := by
        by_contra hne
        exact hother ⟨hlt, eq_false_of_ne_true hne⟩
      exact Json.pyEq_iff.mp heq
  · exact ⟨digits, drops, requireDigits_eq_ok hdigits, hdrops, not_lt.mp hfee⟩

/-! ## Section 5: The ledger -/

/-- An answer to `q` that was received on `t`. -/
def Answered (t : List (Event Op Ret)) (q : RpcRequest) (result : Json) : Prop :=
  (⟨.rpc q, .ok result⟩ : Event Op Ret) ∈ t

/-- The signing key is the account's regular key, or its master key, which bit 20,
    `lsfDisableMaster`, does not disable. -/
def SignerOk (env : Env) (tx : Dict) (payer : String) (account : Dict) : Prop :=
  ∃ key address, Dict.get? tx "SigningPubKey" = some key ∧
    env.deriveClassicAddress (str env.unicode key) = .ok address ∧
    (Dict.get account "RegularKey" = .str address ∨
      address = payer ∧ ∃ flags,
        toInt env.unicode ((Dict.get? account "Flags").getD (.int 0)) = .ok flags ∧
        flags.testBit 20 = false)

/-- The transaction takes the account's current sequence, or an available ticket. -/
inductive SequenceOk (tx : Dict) (payer method : String) (account : Dict)
    (t : List (Event Op Ret)) : Prop where
  | sequence (chosen : method = "sequence") (noTicket : Dict.get tx "TicketSequence" = .null)
      (current : (Dict.get tx "Sequence").canon = (Dict.get account "Sequence").canon)
  | ticket (chosen : method = "ticketSequence") (n : Int) (marker result : Json) (page : Page)
      (noSequence : (Dict.get tx "Sequence").canon = .int 0)
      (isTicketOf : (Dict.get tx "TicketSequence").asInt? = some n)
      (answered : Answered t (.accountObjects payer marker) result)
      (isPage : objectsPage result = .ok page) (available : page.items.any (isTicket n) = true)

/-- What the node's answers on `t` say about the transaction. -/
structure LedgerOk (env : Env) (tx : Dict) (requirements : PaymentRequirements)
    (payer method : String) (t : List (Event Op Ret)) : Prop where
  /-- `LastLedgerSequence` lies after the validated ledger, and not too far. -/
  window : ∃ result current last limit, Answered t .ledger result ∧
    ledgerIndex env (.ok result) = .ok current ∧
    (Dict.get tx "LastLedgerSequence").asInt? = some last ∧ current < last ∧
    getMaxLastLedgerSequence current requirements = .ok limit ∧ last ≤ limit
  /-- One and the same answer supports the signer and the sequence. -/
  account : ∃ result account, Answered t (.accountInfo payer) result ∧
    getAttr result "account_data" = .ok (.obj account) ∧ SignerOk env tx payer account ∧
    SequenceOk tx payer method account t

theorem checkLastLedger_eq_ok {tx : Dict} {requirements : PaymentRequirements} {payer : String}
    {current : Int} (h : checkLastLedger tx requirements payer current = .ok ()) :
    ∃ last limit, (Dict.get tx "LastLedgerSequence").asInt? = some last ∧ current < last ∧
      getMaxLastLedgerSequence current requirements = .ok limit ∧ last ≤ limit := by
  unfold checkLastLedger at h
  split at h
  · cases h
  · next last hlast =>
    obtain ⟨hexpired, h⟩ := failIf_bind_eq_ok.mp h
    obtain ⟨limit, hlimit, h⟩ := bind_eq_ok.mp h
    have hle := failIf_eq_ok.mp h
    exact ⟨last, limit, hlast, not_le.mp hexpired, uncaught_eq_ok.mp hlimit, not_lt.mp hle⟩

theorem signerOk_of_checkSigner {tx account : Dict} {payer : String}
    (h : checkSigner env tx payer account = .ok ()) : SignerOk env tx payer account := by
  unfold checkSigner at h
  obtain ⟨key, hkey, h⟩ := bind_eq_ok.mp h
  obtain ⟨address, haddress, h⟩ := bind_eq_ok.mp h
  obtain ⟨flags, hflags, h⟩ := bind_eq_ok.mp h
  have hauthorized := failIf_eq_ok.mp h
  rw [uncaught_eq_ok] at hkey haddress hflags
  refine ⟨key, address, subscript_obj_eq_ok hkey, haddress, ?_⟩
  by_cases hregular : Dict.get account "RegularKey" = .str address
  · exact .inl hregular
  · right
    by_contra hmaster
    apply hauthorized
    refine ⟨hregular, fun hm => hmaster ⟨hm.1, flags, hflags, ?_⟩⟩
    rw [← hasFlag_disableMaster]
    exact hm.2

theorem sequence_of_checkSequence {tx account : Dict} {payer : String}
    (h : checkSequence tx payer account = .ok ()) : Dict.get tx "TicketSequence" = .null ∧
      (Dict.get tx "Sequence").canon = (Dict.get account "Sequence").canon := by
  unfold checkSequence at h
  obtain ⟨hticket, h⟩ := failIf_bind_eq_ok.mp h
  have hsequence := failIf_eq_ok.mp h
  exact ⟨not_not.mp hticket, Json.pyEq_iff.mp (by simpa using hsequence)⟩

theorem ticketOf_eq_ok {tx : Dict} {payer : String} {n : Int} (h : ticketOf tx payer = .ok n) :
    (Dict.get tx "TicketSequence").asInt? = some n ∧ (Dict.get tx "Sequence").canon = .int 0 := by
  unfold ticketOf at h
  simp only at h
  split at h
  · next ticket hticket =>
    split at h
    · next hzero =>
      rw [hticket, Except.ok.inj h]
      exact ⟨rfl, Json.pyEq_iff.mp hzero⟩
    · cases h
  · cases h

/-- A ticket that is found stands on one of the pages. -/
theorem ticket_found {payer : String} {ticket : Int} {pages : Nat} {marker : Json}
    {seen : List String} {t : List (Event Op Ret)}
    (h : Path (ticketIsAvailableFrom env payer ticket pages marker seen) t (.ok true)) :
    ∃ marker result page, Answered t (.accountObjects payer marker) result ∧
      objectsPage result = .ok page ∧ page.items.any (isTicket ticket) = true := by
  induction pages generalizing marker seen t with
  | zero => exact h.elim
  | succ pages ih =>
    unfold ticketIsAvailableFrom at h
    obtain ⟨result, t', rfl, hrest⟩ := path_request_bind_ok.mp h
    obtain ⟨page, hpage, hrest⟩ := path_lift_bind_ok.mp hrest
    split at hrest
    · next hfound => exact ⟨marker, result, page, List.mem_cons_self, hpage, hfound⟩
    · split at hrest
      · obtain ⟨-, hfalse⟩ := hrest
        cases hfalse
      · obtain ⟨key, _, hrest⟩ := path_lift_bind_ok.mp hrest
        obtain ⟨marker', result', page', ha, hpage', hfound⟩ := ih hrest
        exact ⟨marker', result', page', List.mem_cons_of_mem _ ha, hpage', hfound⟩

theorem path_accountData_bind_ok {β : Type} {account : String} {k : Dict → Service β}
    {t : List (Event Op Ret)} {b : β} (h : Path (accountData account >>= k) t (.ok b)) :
    ∃ result d t', t = ⟨.rpc (.accountInfo account), .ok result⟩ :: t' ∧
      getAttr result "account_data" = .ok (.obj d) ∧ Path (k d) t' (.ok b) := by
  unfold accountData at h
  rw [Prog.bind_assoc] at h
  obtain ⟨result, t', ht, h⟩ := path_request_bind_ok.mp h
  rw [Prog.bind_assoc] at h
  obtain ⟨data, hdata, h⟩ := path_lift_bind_ok.mp h
  obtain ⟨d, hd, h⟩ := path_check_bind_ok.mp h
  refine ⟨result, d, t', ht, ?_, h⟩
  unfold requireAccountData at hd
  split at hd
  · rw [hdata, Except.ok.inj hd]
  · cases hd

theorem path_currentLedger_bind_ok {β : Type} {k : Int → Service β} {t : List (Event Op Ret)}
    {b : β} (h : Path (currentLedger env >>= k) t (.ok b)) :
    ∃ result n t', t = ⟨.rpc .ledger, .ok result⟩ :: t' ∧ ledgerIndex env (.ok result) = .ok n ∧
      Path (k n) t' (.ok b) := by
  unfold currentLedger at h
  rw [call_bind] at h
  obtain ⟨answer, t', ht, h⟩ := h
  obtain ⟨n, hn, hrest⟩ := path_lift_bind_ok.mp h
  cases answer with
  | error e => cases hn
  | ok result => exact ⟨result, n, t', ht, hn, hrest⟩

theorem ledgerOk_of_path {pages : Nat} {tx : Dict} {requirements : PaymentRequirements}
    {payer method : String} {t : List (Event Op Ret)}
    (hmethod : method = "sequence" ∨ method = "ticketSequence")
    (h : Path (verifyLedgerAndAccountState env pages tx requirements payer method) t (.ok ())) :
    LedgerOk env tx requirements payer method t := by
  unfold verifyLedgerAndAccountState at h
  -- The ledger, the window, the account and its signer come first.
  obtain ⟨result, current, t₁, rfl, hcurrent, h⟩ := path_currentLedger_bind_ok h
  obtain ⟨_, hwindow, h⟩ := path_check_bind_ok.mp h
  obtain ⟨result', account, t₂, rfl, haccount, h⟩ := path_accountData_bind_ok h
  obtain ⟨_, hsigner, h⟩ := path_check_bind_ok.mp h
  obtain ⟨last, limit, hlast, hlt, hlimit, hle⟩ := checkLastLedger_eq_ok hwindow
  refine ⟨⟨result, current, last, limit, List.mem_cons_self, hcurrent, hlast, hlt, hlimit, hle⟩,
    result', account, List.mem_cons_of_mem _ List.mem_cons_self, haccount,
    signerOk_of_checkSigner hsigner, ?_⟩
  -- Then the sequence, or the ticket.
  split at h
  · next hsequence =>
    obtain ⟨-, hcheck⟩ := path_check_ok.mp h
    obtain ⟨hticket, hcurrent⟩ := sequence_of_checkSequence hcheck
    exact .sequence hsequence hticket hcurrent
  · next hsequence =>
    obtain ⟨n, hn, h⟩ := path_check_bind_ok.mp h
    obtain ⟨t₃, t₄, available, rfl, hfound, h⟩ := path_bind_ok.mp h
    obtain ⟨-, hcheck⟩ := path_check_ok.mp h
    obtain ⟨hticket, hzero⟩ := ticketOf_eq_ok hn
    have htrue : available = true := by simpa using failIf_eq_ok.mp hcheck
    -- The ticket was on one of the pages that were read.
    rw [htrue] at hfound
    obtain ⟨marker, result'', page, hmem, hpage, hany⟩ := ticket_found hfound
    have hanswered : Answered (⟨.rpc .ledger, .ok result⟩ ::
        ⟨.rpc (.accountInfo payer), .ok result'⟩ :: (t₃ ++ t₄))
        (.accountObjects payer marker) result'' :=
      List.mem_cons_of_mem _ (List.mem_cons_of_mem _ (List.mem_append_left _ hmem))
    exact .ticket (hmethod.resolve_left hsequence) n marker result'' page hzero hticket hanswered
      hpage hany

/-! ## Section 6: Funds and the whole verification -/

/-- The node simulated the payment successfully, or the balances cover it. -/
inductive FundsOk (env : Env) (pages : Nat) (tx : Dict) (requirements : PaymentRequirements)
    (payer : String) (t : List (Event Op Ret)) : String → Prop where
  | simulated (transaction : Dict) (answer : Json)
      (answered : Answered t (.simulate transaction) answer)
      (success : Dict.get (answer.asDict?.getD []) "engine_result" = .str "tesSUCCESS") :
      FundsOk env pages tx requirements payer t "simulation"
  | balances (t₁ t₂ : List (Event Op Ret)) (split_ : t = t₁ ++ t₂)
      (covered : Path (targetedBalanceCheck env pages tx requirements payer) t₂ (.ok ())) :
      FundsOk env pages tx requirements payer t "targetedChecks"

theorem fundsOk_of_targeted {pages : Nat} {tx : Dict} {requirements : PaymentRequirements}
    {payer path : String} {t₁ t₂ : List (Event Op Ret)}
    (h : Path (do
      targetedBalanceCheck env pages tx requirements payer
      return "targetedChecks") t₂ (.ok path)) :
    FundsOk env pages tx requirements payer (t₁ ++ t₂) path := by
  obtain ⟨t₃, t₄, _, rfl, hcovered, hrest⟩ := path_bind_ok.mp h
  obtain ⟨rfl, hpath⟩ := hrest
  cases hpath
  exact .balances t₁ t₃ (by simp) hcovered

theorem fundsOk_of_path {pages : Nat} {tx : Dict} {requirements : PaymentRequirements}
    {payer path : String} {t : List (Event Op Ret)}
    (h : Path (verifySimulationOrBalances env pages tx requirements payer) t (.ok path)) :
    FundsOk env pages tx requirements payer t path := by
  unfold verifySimulationOrBalances at h
  rcases path_tryCatch.mp h with ⟨path', hpath, h⟩ | ⟨t₁, t₂, e, rfl, _, h⟩
  · cases hpath
    unfold verifySimulation at h
    obtain ⟨transaction, _, h⟩ := path_lift_bind_ok.mp h
    obtain ⟨answer, t', rfl, hrest⟩ := path_request_bind_ok.mp h
    simp only at hrest
    split at hrest
    · exact (fundsOk_of_targeted hrest : FundsOk env pages tx requirements payer ([_] ++ t') path)
    · obtain ⟨_, hcheck, hrest⟩ := path_check_bind_ok.mp hrest
      obtain ⟨rfl, hpath⟩ := hrest
      cases hpath
      exact .simulated transaction answer List.mem_cons_self (not_not.mp (failIf_eq_ok.mp hcheck))
  · cases e with
    | other e => exact fundsOk_of_targeted h
    | verification reason message payer =>
      obtain ⟨-, h⟩ := h
      cases h
    | http statusCode detail =>
      obtain ⟨-, h⟩ := h
      cases h

/-- A verified payment: what was checked, on which answers. -/
structure Verified (F : ExactXRPLFacilitatorScheme env) (pages : Nat) (payload : PaymentPayload)
    (requirements : PaymentRequirements) (t : List (Event Op Ret)) (blob : String) (tx : Dict)
    (method path : String) : Prop where
  envelope : EnvelopeOk F payload requirements method
  blobOf : ∃ exact_, exactXrplPayload env payload = .ok exact_ ∧ exact_.signedTxBlob = blob
  decoded : env.decode blob = .ok tx
  signature : SignatureOk env tx (payerOf env tx)
  structure_ : StructureOk F tx requirements
  ledger : LedgerOk env tx requirements (payerOf env tx) method t
  funds : FundsOk env pages tx requirements (payerOf env tx) t path

theorem checkTransaction_eq_ok {payload : PaymentPayload} {requirements : PaymentRequirements}
    {checked : CheckedTransaction} (h : checkTransaction F payload requirements = .ok checked) :
    EnvelopeOk F payload requirements checked.selectedMethod ∧
      (∃ exact_, exactXrplPayload env payload = .ok exact_ ∧ exact_.signedTxBlob = checked.blob) ∧
      env.decode checked.blob = .ok checked.tx ∧ checked.payer = payerOf env checked.tx ∧
      SignatureOk env checked.tx checked.payer ∧ StructureOk F checked.tx requirements := by
  unfold checkTransaction at h
  obtain ⟨method, hmethod, h⟩ := bind_eq_ok.mp h
  obtain ⟨exact_, hexact, h⟩ := bind_eq_ok.mp h
  obtain ⟨tx, htx, h⟩ := bind_eq_ok.mp h
  obtain ⟨_, hsignature, h⟩ := bind_eq_ok.mp h
  obtain ⟨_, hstructure, h⟩ := bind_eq_ok.mp h
  have henvelope := envelopeOk_of_verifyEnvelope hmethod
  have hdecoded : env.decode exact_.signedTxBlob = .ok tx := by
    unfold decodeOrRefuse at htx
    split at htx
    · next tx' htx' => rw [htx', Except.ok.inj htx]
    · cases htx
  have hchecked := (Except.ok.inj h).symm
  rw [hchecked]
  exact ⟨henvelope, ⟨exact_, uncaught_eq_ok.mp hexact, rfl⟩, hdecoded, rfl,
    signatureOk_of_verifySignature hsignature, structureOk_of_verifyStructure henvelope.shape
      hstructure⟩

theorem Answered.mono {t t' : List (Event Op Ret)} {q : RpcRequest} {result : Json}
    (h : Answered t q result) (hsub : ∀ e ∈ t, e ∈ t') : Answered t' q result := hsub _ h

theorem LedgerOk.mono {tx : Dict} {requirements : PaymentRequirements} {payer method : String}
    {t t' : List (Event Op Ret)} (h : LedgerOk env tx requirements payer method t)
    (hsub : ∀ e ∈ t, e ∈ t') : LedgerOk env tx requirements payer method t' := by
  obtain ⟨⟨result, current, last, limit, ha, hwindow⟩, result', account, ha', hdata, hsigner, hseq⟩ := h
  refine ⟨⟨result, current, last, limit, ha.mono hsub, hwindow⟩, result', account, ha'.mono hsub,
    hdata, hsigner, ?_⟩
  cases hseq with
  | sequence chosen noTicket current => exact .sequence chosen noTicket current
  | ticket chosen n marker result page noSequence isTicketOf answered isPage available =>
    exact .ticket chosen n marker result page noSequence isTicketOf (answered.mono hsub) isPage
      available

theorem FundsOk.append {pages : Nat} {tx : Dict} {requirements : PaymentRequirements}
    {payer path : String} {t₁ t₂ : List (Event Op Ret)}
    (h : FundsOk env pages tx requirements payer t₂ path) :
    FundsOk env pages tx requirements payer (t₁ ++ t₂) path := by
  cases h with
  | simulated transaction answer answered success =>
    exact .simulated transaction answer (List.mem_append_right _ answered) success
  | balances t₃ t₄ hsplit covered =>
    exact .balances (t₁ ++ t₃) t₄ (by rw [hsplit, List.append_assoc]) covered

/-- The three parts of a verification that returned that the payment is valid. -/
theorem path_verify_valid {pages : Nat} {payload : PaymentPayload}
    {requirements : PaymentRequirements} {t : List (Event Op Ret)} {v : VerifyResponse}
    (h : Path (verify F pages payload requirements) t (.ok v)) (hv : v.isValid = true) :
    ∃ checked t₁ t₂ path, checkTransaction F payload requirements = .ok checked ∧ t = t₁ ++ t₂ ∧
      Path (verifyLedgerAndAccountState env pages checked.tx requirements checked.payer
        checked.selectedMethod) t₁ (.ok ()) ∧
      Path (verifySimulationOrBalances env pages checked.tx requirements checked.payer) t₂
        (.ok path) := by
  unfold verify at h
  rcases path_tryCatch.mp h with ⟨v', hv', h⟩ | ⟨t₁, t₂, e, rfl, _, h⟩
  · cases hv'
    -- The three parts were passed one after the other.
    obtain ⟨t₁, t₂, verified, rfl, htransaction, hret⟩ := path_bind_ok.mp h
    obtain ⟨rfl, _⟩ := hret
    unfold verifyTransaction at htransaction
    obtain ⟨checked, hchecked, hrest⟩ := path_check_bind_ok.mp htransaction
    obtain ⟨t₃, t₄, _, rfl, hledger, hrest⟩ := path_bind_ok.mp hrest
    obtain ⟨t₅, t₆, path, rfl, hfunds, hrest⟩ := path_bind_ok.mp hrest
    obtain ⟨hash, _, hrest⟩ := path_lift_bind_ok.mp hrest
    obtain ⟨rfl, _⟩ := hrest
    exact ⟨checked, t₃, t₅, path, hchecked, by simp, hledger, hfunds⟩
  -- Every failure is refused or raised again.
  · cases e with
    | verification reason message payer =>
      obtain ⟨-, h⟩ := h
      cases h
      cases hv
    | other e =>
      obtain ⟨-, h⟩ := h
      cases h
    | http statusCode detail =>
      obtain ⟨-, h⟩ := h
      cases h

theorem verify_sound (F : ExactXRPLFacilitatorScheme env) (pages : Nat) (payload : PaymentPayload)
    (requirements : PaymentRequirements) (t : List (Event Op Ret)) (v : VerifyResponse)
    (h : Path (verify F pages payload requirements) t (.ok v)) (hv : v.isValid = true) :
    ∃ blob tx method path, Verified F pages payload requirements t blob tx method path := by
  obtain ⟨checked, t₁, t₂, path, hchecked, rfl, hledger, hfunds⟩ := path_verify_valid h hv
  obtain ⟨henvelope, hblob, hdecoded, hpayer, hsignature, hstructure⟩ :=
    checkTransaction_eq_ok hchecked
  rw [hpayer] at hsignature hledger hfunds
  have hledgerOk := (ledgerOk_of_path henvelope.known hledger).mono
    fun e he => List.mem_append_left t₂ he
  have hfundsOk : FundsOk env pages checked.tx requirements (payerOf env checked.tx) (t₁ ++ t₂) path :=
    (fundsOk_of_path hfunds).append
  exact ⟨checked.blob, checked.tx, checked.selectedMethod, path, henvelope, hblob, hdecoded,
    hsignature, hstructure, hledgerOk, hfundsOk⟩

/-! ### A payment that verifies -/

namespace Sample

def requirements : PaymentRequirements :=
  ⟨"exact", "xrpl:1", "XRP", "1000", "rMerchant", 60, some [("areFeesSponsored", .bool false)]⟩

def payload : PaymentPayload :=
  ⟨2, [("signedTxBlob", .str "12000022")], requirements, none, none⟩

/-- The serialized request of `payload` and `requirements`. -/
def requestText : String :=
  "\x7b\"accepted\":\x7b\"amount\":\"1000\",\"asset\":\"XRP\",\"extra\":" ++
    "\x7b\"areFeesSponsored\":false\x7d,\"maxTimeoutSeconds\":60,\"network\":\"xrpl:1\"," ++
    "\"payTo\":\"rMerchant\",\"scheme\":\"exact\"\x7d,\"extensions\":null,\"method\":null," ++
    "\"payload\":\x7b\"signedTxBlob\":\"12000022\"\x7d,\"resource\":null\x7d"

/-- The payload with a payment identifier. -/
def identifiedPayload : PaymentPayload :=
  { payload with extensions := some [("payment-identifier", .obj [("info", .obj
      [("required", .bool true), ("id", .str "order-0000000000001")])])] }

/-- The serialized request of `identifiedPayload` and `requirements`. -/
def identifiedText : String :=
  "\x7b\"accepted\":\x7b\"amount\":\"1000\",\"asset\":\"XRP\",\"extra\":" ++
    "\x7b\"areFeesSponsored\":false\x7d,\"maxTimeoutSeconds\":60,\"network\":\"xrpl:1\"," ++
    "\"payTo\":\"rMerchant\",\"scheme\":\"exact\"\x7d,\"extensions\":" ++
    "\x7b\"payment-identifier\":\x7b\"info\":\x7b\"id\":\"order-0000000000001\"," ++
    "\"required\":true\x7d\x7d\x7d,\"method\":null," ++
    "\"payload\":\x7b\"signedTxBlob\":\"12000022\"\x7d,\"resource\":null\x7d"

/-- SHA-256 digests of the texts that are hashed below. -/
def digests : List (String × List UInt8) :=
  [(requestText,
      [209, 233, 100, 150, 71, 30, 162, 235, 216, 196, 93, 133, 42, 176, 137, 61, 125, 63, 44, 171,
        44, 237, 121, 122, 140, 134, 28, 136, 51, 126, 138, 30]),
    (identifiedText,
      [68, 133, 19, 75, 12, 236, 212, 212, 93, 194, 43, 189, 123, 93, 35, 126, 117, 188, 253, 13,
        28, 228, 18, 96, 115, 221, 102, 87, 193, 56, 34, 170]),
    ("xrpl:1|rMerchant|order-0000000000001",
      [151, 45, 217, 15, 20, 2, 247, 172, 251, 168, 243, 243, 74, 202, 36, 205, 32, 178, 133, 155,
        65, 207, 177, 39, 153, 133, 183, 239, 116, 17, 78, 77])]

def sha256 : List UInt8 → List UInt8 := tableHash digests

theorem sha256_injective : Function.Injective sha256 :=
  tableHash_injective (by decide) (by decide +kernel)

/-- The identifier in the extensions of a payload. -/
def identifierIn (payload : PaymentPayload) : Option String :=
  let extension := Dict.get (payload.extensions.getD []) "payment-identifier"
  let info := Dict.get (extension.asDict?.getD []) "info"
  (Dict.get (info.asDict?.getD []) "id").asStr?

/-- The SHA-512 digest of the transaction prefix and the blob. -/
def blobDigest : List UInt8 :=
  [115, 119, 90, 186, 107, 38, 231, 87, 135, 123, 251, 120, 179, 181, 21, 187, 24, 47, 221, 119,
    199, 34, 171, 121, 140, 90, 113, 87, 199, 5, 251, 229, 134, 245, 126, 213, 197, 178, 194, 237,
    141, 217, 218, 153, 112, 165, 171, 188, 197, 123, 169, 113, 32, 84, 6, 163, 107, 72, 246, 69,
    89, 38, 47, 176]

def hash : String := "73775ABA6B26E757877BFB78B3B515BB182FDD77C722AB798C5A7157C705FBE5"

def publicKey : String := String.ofList ("ED".toList ++ List.replicate 64 '0')

/-- The decoded transaction. -/
def tx : Dict :=
  [("TransactionType", .str "Payment"), ("Account", .str "rPayer"),
    ("Destination", .str "rMerchant"), ("Amount", .str "1000"), ("Fee", .str "12"),
    ("Sequence", .int 7), ("LastLedgerSequence", .int 110), ("SigningPubKey", .str publicKey),
    ("TxnSignature", .str "00")]

def sampleEnv : Env where
  unicode := asciiData
  sha256 := sha256
  sha512 := fun _ => blobDigest
  decode := fun _ => .ok tx
  encodeForSigning := fun _ => .ok "53545800"
  isValidMessage := fun _ _ _ => .ok true
  isValidClassicAddress := fun _ => true
  deriveClassicAddress := fun _ => .ok "rPayer"
  paymentFromXrpl := fun tx => .ok tx
  extractPaymentIdentifier := identifierIn
  extractAndValidatePaymentIdentifier := fun payload => .ok (identifierIn payload)
  validatePaymentIdentifierRequirement := fun _ => .ok ()
  laxBool := fun _ => none
  laxInt := fun j => match j with
    | .int n => some n
    | _ => none
  serializable := fun _ => true
  validationText := fun model _ => "validation error for " ++ model

def settings : Settings where
  networkId := "xrpl:1"
  myDestinationAddress := "rMerchant"
  validationTimeout := 1
  minXrpDrops := 1000
  maxFeeDrops := 5000
  allowedIssuedAssets := ""
  enableBazaar := false
  replayProcessedTtlSeconds := 604800
  positive := by decide
  nonNegative := by decide

def facilitator : ExactXRPLFacilitatorScheme sampleEnv where
  settings := settings
  supportedAssets := [⟨xrpCode, none⟩, ⟨rlusdCode, some rlusdTestnetIssuer⟩]
  supported := by decide +kernel

/-- `ledger` answers with the validated ledger 100. -/
def ledgerAnswer : Except Exc Json := .ok (.obj [("ledger_index", .int 100)])

/-- `account_info` answers with the account at this sequence. -/
def accountAnswer (sequence : Int) : Except Exc Json :=
  .ok (.obj [("account_data", .obj [("Flags", .int 0), ("Sequence", .int sequence)])])

def simulateAnswer : Except Exc Json := .ok (.obj [("engine_result", .str "tesSUCCESS")])

def unsignedTx : Dict := Dict.pop (Dict.pop (Dict.pop tx "TxnSignature") "SigningPubKey") "Signers"

/-- What the verification asks, and the answers. -/
def verification : List (Event Op Ret) :=
  [⟨.rpc .ledger, ledgerAnswer⟩, ⟨.rpc (.accountInfo "rPayer"), accountAnswer 7⟩,
    ⟨.rpc (.simulate unsignedTx), simulateAnswer⟩]

def verified : VerifyResponse :=
  ⟨true, none, none, some "rPayer", some [("verificationPath", .str "simulation")]⟩

end Sample

theorem verify_sound_sample : ∃ blob tx method path, Verified Sample.facilitator 1 Sample.payload
    Sample.requirements Sample.verification blob tx method path :=
  verify_sound Sample.facilitator 1 Sample.payload Sample.requirements Sample.verification
    Sample.verified (path_of_replay (by decide +kernel)) rfl

end XrplX402.Facilitator
