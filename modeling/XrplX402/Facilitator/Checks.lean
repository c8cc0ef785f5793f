import Mathlib.Data.List.Sort
import XrplX402.Facilitator.Rpc

/-! # Checks that need no ledger

    `_verify_envelope`, `_verify_signature` and `_verify_structure`: what is
    checked on the payload, the requirements and the decoded transaction alone.
    The checks stand in the order of the source, because the first that fails
    decides the reason. -/

namespace XrplX402.Facilitator

open Py

/-! ## Section 1: The envelope -/

def friendlyCurrency (env : Env) (currency : String) : String :=
  let code : Except Exc String := if currency.length = 40 then do
      let bytes ← fromHex currency
      decodeAscii (rstripZero bytes)
    else .ok currency
  match code with
  | .ok code => env.unicode.upperStr code
  | .error _ => env.unicode.upperStr currency

/-- A `ValueError` of the shape check becomes a refusal with its text. -/
def shapeOrRefuse (env : Env) (reason : String) (requirements : PaymentRequirements) :
    Check ExactXRPLExtra :=
  match validateRequirementsShape env requirements with
  | .ok extra => .ok extra
  | .error e =>
    if e.kind = .valueError then .error (.verification reason (some e.text) none)
    else .error (.other e)

/-- The fields that `accepted` and the requirements must share. -/
def comparedFields (r : PaymentRequirements) : String × String × String × String × String × Int :=
  (r.scheme, r.network, r.asset, r.amount, r.payTo, r.maxTimeoutSeconds)

/-- `extra` without the two entries that have rules of their own. -/
def otherExtra (r : PaymentRequirements) : Dict :=
  Dict.pop (Dict.pop r.extraOr "assetTransferMethod") "paymentFlow"

def paymentFlow (r : PaymentRequirements) : Json :=
  (Dict.get r.extraOr "paymentFlow").or (.str "authorization")

def assetTransferMethod (r : PaymentRequirements) : Json := Dict.get r.extraOr "assetTransferMethod"

/-- `accepted_method or required_method or "sequence"` -/
def selectedMethod (accepted required : PaymentRequirements) : Json :=
  (assetTransferMethod accepted).or ((assetTransferMethod required).or (.str "sequence"))

/-- `int(requirements.amount) < MIN_XRP_DROPS`, for the native asset only. -/
def belowMinimum (env : Env) (settings : Settings) (requirements : PaymentRequirements) :
    Except Exc Bool :=
  if requirements.asset = "XRP" then do
    let amount ← intOfStr env.unicode requirements.amount
    return decide (amount < settings.minXrpDrops)
  else .ok false

variable {env : Env} (F : ExactXRPLFacilitatorScheme env)

/-- `(normalized_code, issuer) in allowed` -/
def assetAllowed (requirements : PaymentRequirements) : Bool :=
  let code := requirements.asset
  let normalizedCode := if code = "XRP" then "XRP" else friendlyCurrency env code
  F.supportedAssets.any fun asset =>
    asset.code = normalizedCode && optStr asset.issuer = Dict.get requirements.extraOr "issuer"

def verifyEnvelope (payload : PaymentPayload) (requirements : PaymentRequirements) :
    Check String := do
  let _ ← shapeOrRefuse env "invalid_exact_xrpl_requirements" requirements
  failIf (payload.x402Version ≠ 2) (envelopeRefusal "invalid_x402_version")
  let _ ← shapeOrRefuse env "invalid_exact_xrpl_accepted_requirements" payload.accepted
  failIf (comparedFields payload.accepted ≠ comparedFields requirements)
    (envelopeRefusal "invalid_exact_xrpl_accepted_requirements_mismatch")
  failIf ((paymentFlow payload.accepted).pyEq (paymentFlow requirements) = false)
    (envelopeRefusal "invalid_exact_xrpl_payment_flow_mismatch")
  failIf (Json.pyEq (.obj (otherExtra payload.accepted)) (.obj (otherExtra requirements)) = false)
    (envelopeRefusal "invalid_exact_xrpl_accepted_requirements_mismatch")
  let method := selectedMethod payload.accepted requirements
  failIf (method ≠ .str "sequence" ∧ method ≠ .str "ticketSequence")
    (envelopeRefusal "invalid_exact_xrpl_asset_transfer_method")
  failIf (assetTransferMethod requirements ≠ .null ∧
      method.pyEq (assetTransferMethod requirements) = false)
    (envelopeRefusal "invalid_exact_xrpl_asset_transfer_method_mismatch")
  failIf (requirements.network ≠ F.settings.networkId)
    (envelopeRefusal "invalid_exact_xrpl_network_mismatch")
  failIf (requirements.payTo ≠ F.settings.myDestinationAddress)
    (envelopeRefusal "invalid_exact_xrpl_pay_to_mismatch")
  failIf (assetAllowed F requirements = false)
    (envelopeRefusal "invalid_exact_xrpl_asset_not_allowed")
  let below ← uncaught (belowMinimum env F.settings requirements)
  failIf (below = true) (envelopeRefusal "invalid_exact_xrpl_amount_below_minimum")
  return str env.unicode method

/-! ## Section 2: The signature -/

/-- `^(02|03|ED)[0-9A-F]{64}$`, ignoring case. -/
def isCanonicalSigningPubKey (s : String) : Bool :=
  let cs := s.toList.map Char.toUpper
  (cs.take 2 = "02".toList || cs.take 2 = "03".toList || cs.take 2 = "ED".toList) &&
    (cs.drop 2).length = 64 && s.toList.all isHexDigit

/-- The outcome of the cryptographic check; any exception counts as a failure. -/
def signatureValid (env : Env) (tx : Dict) (signature publicKey : String) : Except Exc Bool := do
  let signing := Dict.pop tx "TxnSignature"
  let encoded ← env.encodeForSigning signing
  let message ← fromHex encoded
  let signatureBytes ← fromHex signature
  env.isValidMessage message signatureBytes publicKey

def signatureOrRefuse (env : Env) (tx : Dict) (signature publicKey payer : String) : Check Bool :=
  match signatureValid env tx signature publicKey with
  | .ok valid => .ok valid
  | .error e =>
    .error (.verification "invalid_exact_xrpl_payload_signature" (some e.text) (some payer))

/-- The string in `tx[field]`, if it is one and `ok` holds of it. -/
def requireStr (tx : Dict) (field : String) (ok : String → Bool) (reason payer : String) :
    Check String :=
  match Dict.get tx field with
  | .str s => if ok s then .ok s else .error (refusal reason payer)
  | _ => .error (refusal reason payer)

def verifySignature (env : Env) (tx : Dict) (payer : String) : Check Unit := do
  failIf (Dict.get tx "TransactionType" ≠ .str "Payment")
    (refusal "invalid_exact_xrpl_payload_transaction_type" payer)
  failIf (Dict.get tx "Signers" ≠ .null)
    (refusal "invalid_exact_xrpl_payload_multisig_not_supported" payer)
  failIf (env.isValidClassicAddress payer = false)
    (refusal "invalid_exact_xrpl_payload_account" payer)
  let publicKey ← requireStr tx "SigningPubKey" isCanonicalSigningPubKey
    "invalid_exact_xrpl_payload_signing_pub_key" payer
  let signature ← requireStr tx "TxnSignature" (· ≠ "")
    "invalid_exact_xrpl_payload_signature" payer
  let valid ← signatureOrRefuse env tx signature publicKey payer
  failIf (valid = false) (refusal "invalid_exact_xrpl_payload_signature" payer)

/-! ## Section 3: The structure -/

def allowedPaymentFields : List String :=
  ["TransactionType", "Account", "Destination", "DestinationTag", "Amount", "DeliverMax", "SendMax",
    "Fee", "Sequence", "TicketSequence", "LastLedgerSequence", "NetworkID", "InvoiceID", "Flags",
    "SigningPubKey", "TxnSignature"]

def unexpectedFields (tx : Dict) : List String :=
  (Dict.keys tx).dedup.filter fun field => field ∉ allowedPaymentFields

/-- Fields with a refusal of their own. -/
def forbiddenFields : List (String × String) :=
  [("Memos", "invalid_exact_xrpl_payload_memos_not_allowed"),
    ("Delegate", "invalid_exact_xrpl_payload_delegate_not_allowed"),
    ("Paths", "invalid_exact_xrpl_payload_paths_not_allowed"),
    ("DeliverMin", "invalid_exact_xrpl_payload_delivermin_not_allowed")]

def checkForbiddenFields (tx : Dict) (payer : String) : List (String × String) → Check Unit
  | [] => .ok ()
  | (field, reason) :: rest => do
    failIf (Dict.get tx field ≠ .null) (refusal reason payer)
    checkForbiddenFields tx payer rest

/-- `n & mask` is not zero, for a mask with a single bit. -/
def hasFlag (n mask : Int) : Bool := n / mask % 2 = 1

def asksPartialPayment (tx : Dict) : Bool :=
  let flags := (Dict.get tx "Flags").or (.int 0)
  (flags.asInt?.any fun n => hasFlag n tfPartialPayment) ||
    (flags.asDict?.any fun d => (Dict.get d "tfPartialPayment").truthy)

def amountFields (tx : Dict) : List String :=
  ["Amount", "DeliverMax"].filter fun field => Dict.get tx field ≠ .null

/-- The digits of a drops amount. -/
def requireDigits (env : Env) (j : Json) (reason payer : String) : Check String :=
  match j with
  | .str s => if env.unicode.isDigitStr s then .ok s else .error (refusal reason payer)
  | _ => .error (refusal reason payer)

def verifyXrpAmount (env : Env) (tx : Dict) (destinationAmount : Json)
    (requirements : PaymentRequirements) (payer : String) : Check Unit := do
  let digits ← requireDigits env destinationAmount "invalid_exact_xrpl_payload_amount_xrp" payer
  let paid ← uncaught (intOfStr env.unicode digits)
  let required ← uncaught (intOfStr env.unicode requirements.amount)
  failIf (paid ≠ required) (refusal "invalid_exact_xrpl_payload_amount_mismatch" payer)
  failIf (Dict.get tx "SendMax" ≠ .null)
    (refusal "invalid_exact_xrpl_payload_sendmax_not_allowed" payer)

def requireDict (j : Json) (reason payer : String) : Check Dict :=
  match j with
  | .obj d => .ok d
  | _ => .error (refusal reason payer)

/-- `compare_decimal_strings(str(amount.get("value")), requirements.amount)` -/
def compareValue (env : Env) (amount : Dict) (requirements : PaymentRequirements) : Check Int :=
  uncaught (compareDecimalStrings env (str env.unicode (Dict.get amount "value"))
    requirements.amount)

def verifyIouAmount (env : Env) (amount sendMax : Json) (requirements : PaymentRequirements)
    (payer : String) : Check Unit := do
  let amount ← requireDict amount "invalid_exact_xrpl_payload_iou_amount" payer
  let expectedCurrency ← uncaught (xrplCurrencyCode env requirements.asset)
  let expectedIssuer := Dict.get requirements.extraOr "issuer"
  failIf (Dict.get amount "currency" ≠ .str expectedCurrency)
    (refusal "invalid_exact_xrpl_payload_iou_currency_mismatch" payer)
  failIf ((Dict.get amount "issuer").pyEq expectedIssuer = false)
    (refusal "invalid_exact_xrpl_payload_iou_issuer_mismatch" payer)
  let order ← compareValue env amount requirements
  failIf (order ≠ 0) (refusal "invalid_exact_xrpl_payload_iou_value_mismatch" payer)
  let sendMax ← requireDict sendMax "invalid_exact_xrpl_payload_sendmax_required" payer
  failIf (Dict.get sendMax "currency" ≠ .str expectedCurrency ∨
      (Dict.get sendMax "issuer").pyEq expectedIssuer = false)
    (refusal "invalid_exact_xrpl_payload_sendmax_iou_mismatch" payer)
  let order ← compareValue env sendMax requirements
  failIf (order < 0) (refusal "invalid_exact_xrpl_payload_sendmax_too_low" payer)

def verifyAmount (env : Env) (tx : Dict) (destinationAmount : Json)
    (requirements : PaymentRequirements) (payer : String) : Check Unit :=
  if requirements.asset = "XRP" then verifyXrpAmount env tx destinationAmount requirements payer
  else verifyIouAmount env destinationAmount (Dict.get tx "SendMax") requirements payer

/-- The field that pays: exactly one of `Amount` and `DeliverMax`. -/
def amountField (tx : Dict) (payer : String) : Check String :=
  match amountFields tx with
  | [field] => .ok field
  | _ => .error (refusal "invalid_exact_xrpl_payload_ambiguous_amount_fields" payer)

/-- `InvoiceID` that the requirements ask for. -/
def expectedInvoice (env : Env) (requirements : PaymentRequirements) : Except Exc (Option String) :=
  match Dict.get requirements.extraOr "invoiceId" with
  | .null => .ok none
  | invoiceId => do
    let field ← invoiceIdToInvoiceIdField env (str env.unicode invoiceId)
    return some field

def normalizedInvoice (env : Env) (tx : Dict) : Option String :=
  match Dict.get tx "InvoiceID" with
  | .null => none
  | actual => some (env.unicode.upperStr (str env.unicode actual))

def verifyFee (env : Env) (settings : Settings) (tx : Dict) (payer : String) : Check Unit := do
  let fee ← requireDigits env (Dict.get tx "Fee") "invalid_exact_xrpl_payload_fee_missing" payer
  let drops ← uncaught (intOfStr env.unicode fee)
  failIf (settings.maxFeeDrops < drops) (refusal "invalid_exact_xrpl_payload_fee_too_high" payer)

def verifyStructure (tx : Dict) (requirements : PaymentRequirements) (payer : String) :
    Check Unit := do
  failIf (unexpectedFields tx ≠ [])
    (.verification "invalid_exact_xrpl_payload_unexpected_fields"
      (some (", ".intercalate ((unexpectedFields tx).insertionSort (· ≤ ·)))) (some payer))
  failIf (Dict.get tx "Destination" ≠ .str requirements.payTo)
    (refusal "invalid_exact_xrpl_payload_destination_mismatch" payer)
  checkForbiddenFields tx payer forbiddenFields
  failIf (asksPartialPayment tx = true)
    (refusal "invalid_exact_xrpl_payload_partial_payment_not_allowed" payer)
  let field ← amountField tx payer
  verifyAmount env tx (Dict.get tx field) requirements payer
  failIf ((Dict.get tx "DestinationTag").pyEq (Dict.get requirements.extraOr "destinationTag") =
      false)
    (refusal "invalid_exact_xrpl_payload_destination_tag_mismatch" payer)
  let invoice ← uncaught (expectedInvoice env requirements)
  failIf (normalizedInvoice env tx ≠ invoice)
    (refusal "invalid_exact_xrpl_payload_invoice_id_mismatch" payer)
  let networkId ← uncaught (parseXrplNetworkId env requirements.network)
  failIf (networkId ≤ 1024 ∧ Dict.get tx "NetworkID" ≠ .null)
    (refusal "invalid_exact_xrpl_payload_network_id_for_standard_network" payer)
  failIf (1024 < networkId ∧ (Dict.get tx "NetworkID").pyEq (.int networkId) = false)
    (refusal "invalid_exact_xrpl_payload_network_id_mismatch" payer)
  verifyFee env F.settings tx payer

end XrplX402.Facilitator
