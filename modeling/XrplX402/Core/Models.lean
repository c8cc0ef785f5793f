import XrplX402.Py.Serialize

/-! # Wire and state models

    * **Requests**: payment requirements, payloads and resources, with the
      dictionaries they are dumped to.
    * **Third parties**: `Env` collects the functions of other packages that
      the code calls and whose source is not part of the repository.
    * **Strict models**: the inner payload, the typed view of
      `PaymentRequirements.extra` and the durable settlement state. Their
      validators are the only constructors, so a value that exists is valid. -/

namespace XrplX402

open Py

/-! ## Section 1: Requests -/

def optStr : Option String → Json
  | some s => .str s
  | none => .null

def optDict : Option Dict → Json
  | some d => .obj d
  | none => .null

def tagsJson (tags : Option (List String)) : Json :=
  (tags.map fun ts => Json.arr (ts.map .str)).getD .null

/-- `model_dump(by_alias=True, exclude_none=True)` of a record with these fields. -/
def excludeNone (fields : Dict) : Dict := fields.filter fun kv => kv.2 ≠ .null

structure ResourceInfo where
  url : String
  description : Option String
  mimeType : Option String
  serviceName : Option String
  tags : Option (List String)
  iconUrl : Option String
  deriving DecidableEq

def ResourceInfo.modelDump (r : ResourceInfo) : Dict :=
  excludeNone [("url", .str r.url), ("description", optStr r.description),
    ("mimeType", optStr r.mimeType), ("serviceName", optStr r.serviceName),
    ("tags", tagsJson r.tags), ("iconUrl", optStr r.iconUrl)]

structure PaymentRequirements where
  scheme : String
  network : String
  asset : String
  amount : String
  payTo : String
  maxTimeoutSeconds : Int
  extra : Option Dict
  deriving DecidableEq

def PaymentRequirements.modelDump (r : PaymentRequirements) : Dict :=
  excludeNone [("scheme", .str r.scheme), ("network", .str r.network), ("asset", .str r.asset),
    ("amount", .str r.amount), ("payTo", .str r.payTo),
    ("maxTimeoutSeconds", .int r.maxTimeoutSeconds), ("extra", optDict r.extra)]

/-- `requirements.extra or {}`. -/
def PaymentRequirements.extraOr (r : PaymentRequirements) : Dict := r.extra.getD []

structure PaymentPayload where
  x402Version : Int
  payload : Dict
  accepted : PaymentRequirements
  resource : Option ResourceInfo
  extensions : Option Dict
  deriving DecidableEq

/-! ## Section 2: Third-party functions -/

structure Env where
  unicode : UnicodeData
  sha256 : List UInt8 → List UInt8
  sha512 : List UInt8 → List UInt8
  /-- `binarycodec.decode`. -/
  decode : String → Except Exc Dict
  /-- `binarycodec.encode_for_signing`. -/
  encodeForSigning : Dict → Except Exc String
  /-- `keypairs.is_valid_message(message, signature, public_key)`. -/
  isValidMessage : List UInt8 → List UInt8 → String → Except Exc Bool
  isValidClassicAddress : String → Bool
  deriveClassicAddress : String → Except Exc String
  /-- `Payment.from_xrpl(tx)`, as the transaction that is sent. -/
  paymentFromXrpl : Dict → Except Exc Dict
  /-- `extract_payment_identifier(payload)`. -/
  extractPaymentIdentifier : PaymentPayload → Option String
  /-- The errors of `extract_and_validate_payment_identifier(payload)`, or the
      identifier. -/
  extractAndValidatePaymentIdentifier : PaymentPayload → Except (List String) (Option String)
  /-- The errors of `validate_payment_identifier_requirement` for a payload,
      given whether its declaration requires an identifier. -/
  validatePaymentIdentifierRequirement : PaymentPayload → Except (List String) Unit
  /-- Values other than booleans that a `bool` field accepts. -/
  laxBool : Json → Option Bool
  /-- Values that an `int` field accepts. -/
  laxInt : Json → Option Int
  /-- Does `model_dump_json` write the value? It gives up on deep nesting. -/
  serializable : Json → Bool
  /-- Text of the `ValidationError` of a model for an input. -/
  validationText : String → Json → String

/-- `hashlib.sha256(s.encode("utf-8")).hexdigest()`. -/
def Env.sha256Hex (env : Env) (s : String) : String := hexdigest (env.sha256 (encodeUtf8 s))

/-! ## Section 3: The inner payload -/

def signedTxBlobMaxLength : Nat := 16384

def invoiceIdMaxLength : Nat := 128

/-- Characters of a canonical blob. -/
def isUpperHexDigit (c : Char) : Bool := "0123456789ABCDEF".toList.contains c

/-- Non-empty, of even length, and upper-case hexadecimal. -/
def isSignedTxBlob (s : String) : Bool :=
  s ≠ "" && s.length % 2 = 0 && s.toList.all isUpperHexDigit

structure ExactXRPLPayload where
  signedTxBlob : String
  wellFormed : isSignedTxBlob signedTxBlob = true
  deriving DecidableEq

def validationError (env : Env) (model : String) (input : Json) : Exc :=
  valueError (env.validationText model input)

/-- `ExactXRPLPayload.model_validate(d)`. -/
def ExactXRPLPayload.modelValidate (env : Env) (d : Dict) : Except Exc ExactXRPLPayload :=
  let invalid := validationError env "ExactXRPLPayload" (.obj d)
  if d.all (fun kv => kv.1 = "signedTxBlob") then
    match Dict.get? d "signedTxBlob" with
    | some (.str value) =>
      let stripped := trim value
      if signedTxBlobMaxLength < stripped.length then .error invalid
      else
        let normalized := env.unicode.upperStr (strip stripped)
        if h : isSignedTxBlob normalized = true then .ok ⟨normalized, h⟩
        else .error invalid
    | _ => .error invalid
  else .error invalid

/-- `exact_xrpl_payload(payload)`. -/
def exactXrplPayload (env : Env) (payload : PaymentPayload) : Except Exc ExactXRPLPayload :=
  ExactXRPLPayload.modelValidate env payload.payload

/-! ## Section 4: The typed view of `extra` -/

structure ExactXRPLExtra where
  issuer : Option String
  areFeesSponsored : Bool
  assetTransferMethod : Option String
  paymentFlow : Option String
  invoiceId : Option String
  destinationTag : Option Int
  deriving DecidableEq

/-- Wire name and field name of every field. -/
def ExactXRPLExtra.aliases : List (String × String) :=
  [("issuer", "issuer"), ("areFeesSponsored", "are_fees_sponsored"),
    ("assetTransferMethod", "asset_transfer_method"), ("paymentFlow", "payment_flow"),
    ("invoiceId", "invoice_id"), ("destinationTag", "destination_tag")]

/-- A key is unexpected when it names no field, or when it names a field that
    its wire name has already filled. -/
def ExactXRPLExtra.unexpectedKey (d : Dict) (k : String) : Bool :=
  !ExactXRPLExtra.aliases.any fun (wire, name) => k = wire || (k = name && !Dict.has d wire)

/-- The input of a field: under its wire name first, then under its own. -/
def ExactXRPLExtra.lookup (d : Dict) (wire name : String) : Option Json :=
  (Dict.get? d wire).or (Dict.get? d name)

/-- An optional field: missing and `None` are the default, anything else must be
    accepted by `accept`. -/
def optionalField {α : Type} (accept : Json → Option α) : Option Json → Option (Option α)
  | none => some none
  | some .null => some none
  | some j => (accept j).map some

def acceptStr (maxLength : Option Nat) : Json → Option String
  | .str s =>
    let t := trim s
    if maxLength.any (· < t.length) then none else some t
  | _ => none

/-- `Literal["authorization"]`. -/
def acceptFlow : Json → Option String
  | .str s => if s = "authorization" then some s else none
  | _ => none

def acceptTag (env : Env) (j : Json) : Option Int :=
  (env.laxInt j).bind fun n => if 0 ≤ n ∧ n ≤ 0xFFFFFFFF then some n else none

def acceptBool (env : Env) : Json → Option Bool
  | .bool b => some b
  | j => env.laxBool j

/-- A missing flag is `False`. -/
def acceptFees (env : Env) : Option Json → Option Bool
  | none => some false
  | some j => acceptBool env j

/-- All fields, if every one of them is accepted. -/
def ExactXRPLExtra.parse (env : Env) (d : Dict) : Option ExactXRPLExtra := do
  let issuer ← optionalField (acceptStr none) (lookup d "issuer" "issuer")
  let fees ← acceptFees env (lookup d "areFeesSponsored" "are_fees_sponsored")
  let method ← optionalField (acceptStr none)
    (lookup d "assetTransferMethod" "asset_transfer_method")
  let flow ← optionalField acceptFlow (lookup d "paymentFlow" "payment_flow")
  let invoice ← optionalField (acceptStr (some invoiceIdMaxLength))
    (lookup d "invoiceId" "invoice_id")
  let tag ← optionalField (acceptTag env) (lookup d "destinationTag" "destination_tag")
  return ⟨issuer, fees, method, flow, invoice, tag⟩

/-- `ExactXRPLExtra.model_validate(d)`. -/
def ExactXRPLExtra.modelValidate (env : Env) (d : Dict) : Except Exc ExactXRPLExtra :=
  let parsed := if d.any (fun kv => unexpectedKey d kv.1) then none else parse env d
  match parsed with
  | some extra => .ok extra
  | none => .error (validationError env "ExactXRPLExtra" (.obj d))

/-- `exact_xrpl_extra(requirements)`. -/
def exactXrplExtra (env : Env) (requirements : PaymentRequirements) : Except Exc ExactXRPLExtra :=
  ExactXRPLExtra.modelValidate env requirements.extraOr

/-! ## Section 5: Settlement state -/

inductive Status where
  | pending
  | failed
  | validated
  deriving DecidableEq

def Status.text : Status → String
  | pending => "pending"
  | failed => "failed"
  | validated => "validated"

/-- `ranks = {pending = 0, failed = 1, validated = 2}` -/
def Status.rank : Status → Nat
  | pending => 0
  | failed => 1
  | validated => 2

/-- Durable state of a signed transaction hash. The model trims its strings
    when it is built and when it is read back from the store. -/
structure XRPLSettlementState where
  transaction : String
  network : String
  payer : Option String
  firstLedgerSequence : Int
  lastLedgerSequence : Int
  paymentFingerprint : String
  status : Status
  result : Option Dict
  stripped : trim transaction = transaction ∧ trim network = network ∧
    (∀ p ∈ payer, trim p = p) ∧ trim paymentFingerprint = paymentFingerprint
  deriving DecidableEq

/-- `XRPLSettlementState(...)`. -/
def XRPLSettlementState.new (transaction network : String) (payer : Option String)
    (firstLedgerSequence lastLedgerSequence : Int) (paymentFingerprint : String) (status : Status) :
    XRPLSettlementState where
  transaction := trim transaction
  network := trim network
  payer := payer.map trim
  firstLedgerSequence := firstLedgerSequence
  lastLedgerSequence := lastLedgerSequence
  paymentFingerprint := trim paymentFingerprint
  status := status
  result := none
  stripped := by
    refine ⟨trim_trim _, trim_trim _, ?_, trim_trim _⟩
    intro p hp
    obtain ⟨q, -, rfl⟩ := Option.mem_map.mp hp
    exact trim_trim q

/-- `state.model_copy(update={"status": status, "result": result})`. -/
def XRPLSettlementState.withResult (s : XRPLSettlementState) (status : Status) (result : Dict) :
    XRPLSettlementState := { s with status := status, result := some result }

/-- Two states of one payment: they differ at most in status and result. -/
def XRPLSettlementState.SamePayment (s t : XRPLSettlementState) : Prop :=
  s.transaction = t.transaction ∧ s.network = t.network ∧ s.payer = t.payer ∧
    s.firstLedgerSequence = t.firstLedgerSequence ∧ s.lastLedgerSequence = t.lastLedgerSequence ∧
    s.paymentFingerprint = t.paymentFingerprint

namespace XRPLSettlementState

variable {s t u : XRPLSettlementState}

@[simp] theorem withResult_status (s : XRPLSettlementState) (st : Status) (r : Dict) :
    (s.withResult st r).status = st := rfl

@[simp] theorem withResult_result (s : XRPLSettlementState) (st : Status) (r : Dict) :
    (s.withResult st r).result = some r := rfl

theorem SamePayment.refl (s : XRPLSettlementState) : s.SamePayment s :=
  ⟨rfl, rfl, rfl, rfl, rfl, rfl⟩

theorem SamePayment.symm (h : s.SamePayment t) : t.SamePayment s := by
  obtain ⟨h₁, h₂, h₃, h₄, h₅, h₆⟩ := h
  exact ⟨h₁.symm, h₂.symm, h₃.symm, h₄.symm, h₅.symm, h₆.symm⟩

theorem SamePayment.trans (h : s.SamePayment t) (h' : t.SamePayment u) : s.SamePayment u := by
  obtain ⟨h₁, h₂, h₃, h₄, h₅, h₆⟩ := h
  obtain ⟨g₁, g₂, g₃, g₄, g₅, g₆⟩ := h'
  exact ⟨h₁.trans g₁, h₂.trans g₂, h₃.trans g₃, h₄.trans g₄, h₅.trans g₅, h₆.trans g₆⟩

theorem samePayment_withResult (s : XRPLSettlementState) (st : Status) (r : Dict) :
    s.SamePayment (s.withResult st r) := ⟨rfl, rfl, rfl, rfl, rfl, rfl⟩

end XRPLSettlementState

end XrplX402
