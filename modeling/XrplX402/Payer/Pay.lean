import Mathlib.Data.List.Sort
import XrplX402.Payer.Operations

/-! # Paying over HTTP

    One call of `XRPLPayer.pay` as a program over the journal, the server and
    the upstream client.

    * **Before the claim**: the limit, the dry run, the first request and the
      challenge.
    * **With the claim**: the stored payload or a new one, the paid request, and
      what is left behind when one of them fails.
    * **After the answer**: the recorded outcome. -/

namespace XrplX402.Payer

open Py Interaction

/-! ## Section 1: Data -/

/-- Third-party functions that payers use beside those of `Env`. -/
structure PayerEnv extends Env where
  /-- `str(httpx.URL(url))` -/
  canonicalUrl : String → Except Exc String
  /-- `decode_payment_required(raw)` -/
  decodePaymentRequired : String → Except Exc PaymentRequired
  /-- `decode_payment_response_header(raw)`; nothing when it is no `SettleResponse`. -/
  decodePaymentResponseHeader : String → Except Exc (Option SettleResponse)

structure XRPLPayer where
  /-- The account of the signer, when there is one. -/
  signer : Option String
  payerAccount : Option String
  network : String

def defaultNetwork : String := "xrpl:1"

/-- `XRPLPayer(signer, network=network, payer_account=payer_account)`; the signer
    is given by its account and its network. -/
def XRPLPayer.new (signer : Option (String × String)) (network payerAccount : Option String) :
    Except Exc XRPLPayer := do
  let signerAccount := signer.map Prod.fst
  failIf (signerAccount.isSome ∧ payerAccount.isSome ∧ signerAccount ≠ payerAccount)
    (valueError "payer_account does not match the signer")
  return {
    signer := signerAccount
    payerAccount := payerAccount.filter (· ≠ "") <|> signerAccount
    network := (network.filter (· ≠ "") <|> (signer.map Prod.snd).filter (· ≠ "")).getD
      defaultNetwork }

/-- The arguments of one call; `maxSpend` is `str(max_spend)`. -/
structure PayArgs where
  url : String
  asset : Option String
  issuer : Option String
  maxSpend : Option String
  dryRun : Bool
  method : String
  headers : List (String × String)
  content : Option (List UInt8)

structure PayResult where
  statusCode : Int
  body : List UInt8
  headers : List (String × String)
  challengePresent : Bool
  dryRun : Bool
  paid : Bool
  pending : Bool
  preview : Option Dict
  receipt : Option ReceiptRecord
  paymentResponse : Option SettleResponse
  accepted : Option PaymentRequirements
  deriving DecidableEq

abbrev PayProg (α : Type) := Prog Op Ret Exc α

def sendRequest (request : HttpRequest) (signature : Option PaymentPayload) : PayProg HttpResponse :=
  .call (.httpRequest request signature) Prog.ofExcept

def release (fingerprint : String) (claim : AttemptClaim) : PayProg Unit :=
  .call (.releaseClaim fingerprint claim.ownerToken) Prog.ofExcept

def recordReceipt (receipt : ReceiptRecord) : PayProg Bool :=
  .call (.recordOutcome receipt terminalReuseSeconds) fun r => Prog.ofExcept r.result

/-! ## Section 2: The request and its fingerprint -/

def PayArgs.request (a : PayArgs) : HttpRequest := ⟨a.method, a.url, a.headers, a.content⟩

/-- The headers that do not belong to the request itself. -/
def isPaymentHeader (lowered : String) : Prop :=
  lowered = "payment-signature" ∨ lowered = "payment-response"

instance (lowered : String) : Decidable (isPaymentHeader lowered) :=
  inferInstanceAs (Decidable (_ ∨ _))

/-- The order of pairs of strings. -/
def pairLe (a b : String × String) : Prop := a.1 < b.1 ∨ a.1 = b.1 ∧ a.2 ≤ b.2

instance : DecidableRel pairLe := fun _ _ => inferInstanceAs (Decidable (_ ∨ _))

def fingerprintHeaders (E : PayerEnv) (headers : List (String × String)) : List (String × String) :=
  let lowered := headers.map fun kv => (E.unicode.lowerStr kv.1, kv.2)
  (lowered.filter fun kv => ¬ isPaymentHeader kv.1).insertionSort pairLe

/-- What `_request_fingerprint` hashes. -/
def canonicalRequest (E : PayerEnv) (payer canonicalUrl : String) (a : PayArgs) : Dict :=
  [("payer", .str payer), ("bodySha256", .str (hexdigest (E.sha256 (a.content.getD [])))),
    ("headers", .arr ((fingerprintHeaders E a.headers).map fun kv => .arr [.str kv.1, .str kv.2])),
    ("method", .str (E.unicode.upperStr a.method)), ("url", .str canonicalUrl)]

/-- `_request_fingerprint` -/
def requestFingerprint (E : PayerEnv) (payer : String) (a : PayArgs) : Except Exc String := do
  let url ← E.canonicalUrl a.url
  return E.sha256Hex (dumps (.obj (canonicalRequest E payer url a)))

/-- The first of two values that is not empty. -/
def firstNonEmpty (a b : Option String) : Option String :=
  a.filter (· ≠ "") <|> b.filter (· ≠ "")

/-- `decode_payment_required_response(headers=headers)` -/
def decodePaymentRequiredResponse (E : PayerEnv) (headers : List (String × String)) :
    Except Exc PaymentRequired :=
  match firstNonEmpty (headers.lookup "PAYMENT-REQUIRED") (headers.lookup "payment-required") with
  | none => .error (valueError "402 response did not include PAYMENT-REQUIRED")
  | some raw => E.decodePaymentRequired raw

/-- The challenge of a 402 answer that is going to be paid. -/
def canonicalChallenge (E : PayerEnv) (response : HttpResponse) : Except Exc PaymentRequired :=
  match decodePaymentRequiredResponse E response.headers with
  | .ok challenge => .ok challenge
  | .error e =>
    if e.kind = .valueError then
      .error (valueError "Only canonical x402 v2 PAYMENT-REQUIRED headers are supported")
    else .error e

/-! ## Section 3: The dry run -/

/-- `_decode_payment_required` -/
def decodePaymentRequired (E : PayerEnv) (response : HttpResponse) :
    Except Exc (Option PaymentRequired) :=
  if response.statusCode ≠ 402 then .ok none
  else
    match decodePaymentRequiredResponse E response.headers with
    | .ok challenge => .ok (some challenge)
    | .error e => if e.kind = .valueError then .ok none else .error e

/-- `item.scheme == "exact" and is_valid_xrpl_network(...) and _is_authorization_flow(item)` -/
def isPayable (item : PaymentRequirements) : Except Exc Bool :=
  if item.scheme = "exact" ∧ isValidXrplNetwork item.network = true then isAuthorizationFlow item
  else .ok false

def hasAsset (env : Env) (wanted : String) (item : PaymentRequirements) : Except Exc Bool := do
  let code ← normalizeCurrencyCode env item.asset
  return decide (code = wanted)

/-- `select_payment_option(payment_required, network=..., asset=..., issuer=...)` -/
def selectPaymentOption (env : Env) (challenge : PaymentRequired) (network asset issuer : Option String) :
    Except Exc PaymentRequirements := do
  let payable ← keepWhere isPayable challenge.accepts
  let onNetwork := payable.filter fun item => ∀ n ∈ network, item.network = n
  let ofAsset ← match asset with
    | none => .ok onNetwork
    | some asset => do
      let wanted ← normalizeCurrencyCode env asset
      keepWhere (hasAsset env wanted) onNetwork
  match ofAsset.filter fun item => ∀ i ∈ issuer, issuerOf item = .str i with
  | [] => throw (valueError "No matching XRPL authorization payment requirements found")
  | item :: _ => return item

/-- The requirement is for a default asset of the network, from its issuer. -/
def isDefaultOffer (env : Env) (network : String) (item : PaymentRequirements) : Bool :=
  match findDefaultAsset env item.asset network with
  | none => false
  | some default => item.network = network && issuerOf item = .str default.issuer

/-- What the dry run selects, and whether it may be paid. -/
def previewSelection (env : Env) (challenge : PaymentRequired) (network : String) :
    Option XRPLAssetSpendLimit → Except Exc (PaymentRequirements × Bool)
  | some limit => do
    let selected ← selectPaymentOption env challenge (some network) (some limit.asset) limit.issuer
    return (selected, ← decimalLe env selected.amount limit.maxAmount)
  | none =>
    match challenge.accepts.filter (isDefaultOffer env network) with
    | [] => .error (valueError "challenge has no recognized default XRPL pegged asset")
    | selected :: _ => do return (selected, ← decimalLe env selected.amount "1")

/-- `_preview(challenge, network, limit)` -/
def preview (env : Env) (challenge : Option PaymentRequired) (network : String)
    (limit : Option XRPLAssetSpendLimit) : Except Exc Dict :=
  let base : Dict := [("mode", .str "dry_run"), ("x402Version", .int 2),
    ("challengePresent", .bool challenge.isSome)]
  match challenge with
  | none => .ok base
  | some challenge => do
    let (selected, permitted) ← previewSelection env challenge network limit
    return base ++ [("accepted", .obj selected.modelDump), ("wouldPay", .bool permitted)]

/-! ## Section 4: Settlements and receipts -/

/-- `_decode_settlement(response)` -/
def decodeSettlement (E : PayerEnv) (response : HttpResponse) : Except Exc (Option SettleResponse) :=
  match (response.headers.lookup "payment-response").filter (· ≠ "") with
  | none => .ok none
  | some raw => E.decodePaymentResponseHeader raw

/-- `_pending_settlement(payload)` -/
def pendingSettlement (env : Env) (payload : PaymentPayload) : Except Exc SettleResponse := do
  let exact ← exactXrplPayload env payload
  let transaction ← signedTransactionHash env exact.signedTxBlob
  return {
    success := false, errorReason := some "settlement_pending", errorMessage := none,
    payer := none, transaction := transaction, network := payload.accepted.network,
    amount := some payload.accepted.amount, extra := none, extensions := none }

/-- The state of the receipt for a settlement. -/
def receiptState (settlement : SettleResponse) : ReceiptState :=
  if settlement.success then .paid else if settlement.IsPending then .pending else .failed

def PayArgs.receipt (E : PayerEnv) (a : PayArgs) (fingerprint : String) (payload : PaymentPayload)
    (statusCode : Int) (state : ReceiptState) (settlement : SettleResponse) : ReceiptRecord where
  url := a.url
  method := E.unicode.upperStr a.method
  statusCode := statusCode
  state := state
  settlement := settlement
  accepted := payload.accepted
  requestFingerprint := some fingerprint

/-! ## Section 5: Claims and stored payloads -/

/-- `_claim_or_wait`, cut off after `waits` rounds. -/
def claimOrWait (fingerprint payer recoveryScope : String) : Nat → PayProg AttemptClaim
  | 0 => .spin
  | waits + 1 =>
    .call (.claimAttempt fingerprint payer recoveryScope attemptLeaseSeconds) fun r => do
      let claim ← Prog.ofExcept r.result
      if claim.isOwner ∨ claim.attempt.paymentPayload.isSome then return claim
      else
        .call .sleep fun r => do
          Prog.ofExcept r
          claimOrWait fingerprint payer recoveryScope waits

/-- Python's equality of two optional dictionaries. -/
def dictEq (a b : Option Dict) : Bool := (optDict a).pyEq (optDict b)

/-- Python's equality of two requirements. -/
def requirementsEq (r s : PaymentRequirements) : Bool :=
  { r with extra := none } = { s with extra := none } && dictEq r.extra s.extra

/-- Python's equality of two payloads. -/
def payloadEq (p q : PaymentPayload) : Bool :=
  p.x402Version = q.x402Version && (Json.obj p.payload).pyEq (.obj q.payload) &&
    requirementsEq p.accepted q.accepted && p.resource = q.resource &&
    dictEq p.extensions q.extensions

/-- `_validate_payload_for_challenge(payload, challenge)` -/
def validatePayloadForChallenge (payload : PaymentPayload) (challenge : PaymentRequired) :
    Except Exc Unit := do
  failIf (payload.x402Version ≠ 2) (valueError "Stored payment attempt is not canonical x402 v2")
  failIf (payload.resource ≠ challenge.resource)
    (valueError "Stored payment attempt resource does not match the current challenge")
  failIf (challenge.accepts.any (requirementsEq payload.accepted) = false)
    (valueError "Stored accepted requirements do not match the current challenge")

/-- Store a payload under a claim, and get the one that is stored then. -/
def persist (env : Env) (fingerprint : String) (claim : AttemptClaim) (payload : PaymentPayload)
    (disappeared : Exc) : PayProg PaymentPayload := do
  let attempt ← .call (.persistAttemptPayload fingerprint claim.ownerToken payload
    (env.extractPaymentIdentifier payload)) Prog.ofExcept
  match attempt.paymentPayload with
  | none => throw disappeared
  | some stored => return stored

/-- Sign a new payload and store it. -/
def createPayload (E : PayerEnv) (payer : XRPLPayer) (limit : Option XRPLAssetSpendLimit)
    (challenge : PaymentRequired) (fingerprint : String) (claim : AttemptClaim) :
    PayProg PaymentPayload := do
  Prog.ofExcept (failIf (payer.signer = none)
    (runtimeError "XRPL_WALLET_SEED is required to create a new x402 payment"))
  let client ← Prog.ofExcept (configuredClient E.toEnv payer.network limit)
  let created ← .call (.createPaymentPayload client challenge) Prog.ofExcept
  persist E.toEnv fingerprint claim created (runtimeError "Persisted payment payload disappeared")

/-- The payload to send: the one that the claim found, or a new one. -/
def obtainPayload (E : PayerEnv) (payer : XRPLPayer) (limit : Option XRPLAssetSpendLimit)
    (challenge : PaymentRequired) (fingerprint : String) (claim : AttemptClaim) :
    PayProg PaymentPayload :=
  match claim.attempt.paymentPayload with
  | some payload => do
    Prog.ofExcept (validatePayloadForChallenge payload challenge)
    return payload
  | none => createPayload E payer limit challenge fingerprint claim

/-! ## Section 6: The call -/

/-- A payload that may have crossed the network stays recoverable and pending. -/
def recordAbandoned (E : PayerEnv) (a : PayArgs) (fingerprint : String) :
    Option PaymentPayload → PayProg Unit
  | none => pure ()
  | some payload => do
    let settlement ← Prog.ofExcept (pendingSettlement E.toEnv payload)
    let _ ← recordReceipt (a.receipt E fingerprint payload 0 .pending settlement)

/-- `except BaseException: ... raise`; `payload` is the one that is known by then. -/
def abandon {α : Type} (E : PayerEnv) (a : PayArgs) (fingerprint : String) (claim : AttemptClaim)
    (payload : Option PaymentPayload) (e : Exc) : PayProg α := do
  recordAbandoned E a fingerprint payload
  release fingerprint claim
  throw e

def PayResult.ofReceipt (response : HttpResponse) (body : List UInt8) (payload : PaymentPayload)
    (receipt : ReceiptRecord) : PayResult where
  statusCode := response.statusCode
  body := body
  headers := response.headers
  challengePresent := true
  dryRun := false
  paid := receipt.state = .paid
  pending := receipt.state = .pending
  preview := none
  receipt := some receipt
  paymentResponse := some receipt.settlement
  accepted := some payload.accepted

/-- Record the outcome that the answer to the paid request shows. -/
def concludePayment (E : PayerEnv) (a : PayArgs) (fingerprint : String) (payload : PaymentPayload)
    (response : HttpResponse) : PayProg PayResult := do
  let settlement ← Prog.ofExcept (decodeSettlement E response)
  match settlement with
  | none => do
    let settlement ← Prog.ofExcept (pendingSettlement E.toEnv payload)
    let receipt := a.receipt E fingerprint payload response.statusCode .pending settlement
    let _ ← recordReceipt receipt
    return .ofReceipt response [] payload receipt
  | some settlement => do
    let receipt := a.receipt E fingerprint payload response.statusCode (receiptState settlement)
      settlement
    let _ ← recordReceipt receipt
    return .ofReceipt response (if settlement.success then response.body else []) payload receipt

/-- The part of `pay` that holds a claim. -/
def payClaimed (E : PayerEnv) (payer : XRPLPayer) (limit : Option XRPLAssetSpendLimit) (a : PayArgs)
    (challenge : PaymentRequired) (fingerprint : String) (claim : AttemptClaim) :
    PayProg PayResult := do
  let payload ← tryCatch (obtainPayload E payer limit challenge fingerprint claim)
    (abandon E a fingerprint claim claim.attempt.paymentPayload)
  let response ← tryCatch (sendRequest a.request (some payload))
    (abandon E a fingerprint claim (some payload))
  concludePayment E a fingerprint payload response

/-- An answer that is handed on without a payment. -/
def PayResult.unpaid (response : HttpResponse) (challengePresent dryRun : Bool)
    (preview : Option Dict) : PayResult where
  statusCode := response.statusCode
  body := response.body
  headers := response.headers
  challengePresent := challengePresent
  dryRun := dryRun
  paid := false
  pending := false
  preview := preview
  receipt := none
  paymentResponse := none
  accepted := none

/-- The part of `pay` that may spend. -/
def payRequest (E : PayerEnv) (payer : XRPLPayer) (waits : Nat) (limit : Option XRPLAssetSpendLimit)
    (a : PayArgs) (account : String) : PayProg PayResult := do
  let fingerprint ← Prog.ofExcept (requestFingerprint E account a)
  let response ← sendRequest a.request none
  if response.statusCode ≠ 402 then return .unpaid response false false none
  else do
    let challenge ← Prog.ofExcept (canonicalChallenge E response)
    let claim ← claimOrWait fingerprint account "http" waits
    payClaimed E payer limit a challenge fingerprint claim

def payDry (E : PayerEnv) (payer : XRPLPayer) (limit : Option XRPLAssetSpendLimit) (a : PayArgs) :
    PayProg PayResult := do
  let response ← sendRequest a.request none
  let challenge ← Prog.ofExcept (decodePaymentRequired E response)
  let shown ← Prog.ofExcept (preview E.toEnv challenge payer.network limit)
  return .unpaid response challenge.isSome true (some shown)

/-- `XRPLPayer.pay` -/
def pay (E : PayerEnv) (payer : XRPLPayer) (waits : Nat) (a : PayArgs) : PayProg PayResult := do
  let limit ← Prog.ofExcept (explicitLimit E.toEnv payer.network a.asset a.issuer a.maxSpend)
  if a.dryRun then payDry E payer limit a
  else
    match payer.payerAccount with
    | none => throw (runtimeError
        "A signer or explicit payer_account is required for durable payment recovery")
    | some account => payRequest E payer waits limit a account

/-! ## Section 7: Footprints -/

/-- Operations of a caller that waits for its claim. -/
def Op.waits : Op → Bool
  | .claimAttempt _ _ _ _ => true
  | .sleep => true
  | _ => false

/-- Operations of a caller that signs a payload. -/
def Op.signs : Op → Bool
  | .createPaymentPayload _ _ => true
  | .persistAttemptPayload _ _ _ _ => true
  | _ => false

/-- Operations after the dispatch, or instead of it. -/
def Op.concludes : Op → Bool
  | .recordOutcome _ _ => true
  | .releaseClaim _ _ => true
  | _ => false

/-- A request that carries a payload. -/
def Op.pays : Op → Bool
  | .httpRequest _ (some _) => true
  | _ => false

section Footprints

variable {α : Type} {E : PayerEnv} {env : Env} {payer : XRPLPayer} {limit : Option XRPLAssetSpendLimit}
variable {challenge : PaymentRequired} {f account scope : String} {claim : AttemptClaim} {a : PayArgs}
variable {payload : PaymentPayload} {t : List (Event Op Ret)}

theorem uses_claimOrWait (waits : Nat) :
    (claimOrWait f account scope waits).Uses fun o => o.waits = true := by
  induction waits with
  | zero => trivial
  | succ waits ih =>
    refine ⟨rfl, fun r => (Prog.uses_ofExcept _).bind fun claim => ?_⟩
    split
    · trivial
    · exact ⟨rfl, fun r => (Prog.uses_ofExcept _).bind fun _ => ih⟩

theorem uses_persist {disappeared : Exc} :
    (persist env f claim payload disappeared).Uses fun o => o.signs = true := by
  refine ⟨rfl, fun r => (Prog.uses_ofExcept _).bind fun attempt => ?_⟩
  cases attempt.paymentPayload with
  | none => trivial
  | some stored => trivial

theorem uses_obtainPayload :
    (obtainPayload E payer limit challenge f claim).Uses fun o => o.signs = true := by
  unfold obtainPayload
  split
  · exact (Prog.uses_ofExcept _).bind fun _ => trivial
  · refine (Prog.uses_ofExcept _).bind fun _ => (Prog.uses_ofExcept _).bind fun client => ?_
    have hcreate : (Prog.call (.createPaymentPayload client challenge) Prog.ofExcept :
        PayProg PaymentPayload).Uses fun o => o.signs = true :=
      ⟨rfl, fun r => Prog.uses_ofExcept _⟩
    exact hcreate.bind fun created => uses_persist

theorem uses_recordReceipt (receipt : ReceiptRecord) :
    (recordReceipt receipt).Uses fun o => o.concludes = true :=
  ⟨rfl, fun _ => Prog.uses_ofExcept _⟩

theorem uses_release : (release f claim).Uses fun o => o.concludes = true :=
  ⟨rfl, fun _ => Prog.uses_ofExcept _⟩

theorem uses_abandon {stored : Option PaymentPayload} (e : Exc) :
    (abandon (α := α) E a f claim stored e).Uses fun o => o.concludes = true := by
  have hrecord : (recordAbandoned E a f stored).Uses fun o => o.concludes = true := by
    cases stored with
    | none => trivial
    | some payload =>
      exact (Prog.uses_ofExcept _).bind fun _ => (uses_recordReceipt _).bind fun _ => trivial
  exact hrecord.bind fun _ => uses_release.bind fun _ => Prog.uses_raise e

theorem uses_concludePayment {response : HttpResponse} :
    (concludePayment E a f payload response).Uses fun o => o.concludes = true := by
  refine (Prog.uses_ofExcept _).bind fun settlement => ?_
  cases settlement with
  | none => exact (Prog.uses_ofExcept _).bind fun _ => (uses_recordReceipt _).bind fun _ => trivial
  | some settlement => exact (uses_recordReceipt _).bind fun _ => trivial

/-- A failed call never goes on. -/
theorem not_path_abandon {stored : Option PaymentPayload} {e : Exc} {x : α} :
    ¬ (abandon E a f claim stored e).Path t (.ok x) := by
  intro h
  obtain ⟨t₁, t₂, -, -, -, hrelease⟩ := Prog.path_bind_ok.mp h
  obtain ⟨t₃, t₄, -, -, -, hthrow⟩ := Prog.path_bind_ok.mp hrelease
  cases hthrow.2

theorem path_of_abandoned {stored : Option PaymentPayload} {p : PayProg α} {x : α}
    (h : (tryCatch p (abandon E a f claim stored)).Path t (.ok x)) : p.Path t (.ok x) := by
  rcases Prog.path_tryCatch.mp h with ⟨y, hy, hp⟩ | ⟨t₁, t₂, e, -, -, habandon⟩
  · rw [hy]
    exact hp
  · exact absurd habandon not_path_abandon

end Footprints

end XrplX402.Payer
