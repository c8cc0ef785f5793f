import XrplX402.Core.Responses
import XrplX402.Facilitator.Verify

/-! # Settlement

    `settle` looks the transaction hash up in the store, verifies, reserves the
    hash, submits the blob once and polls the ledger. A hash that is already
    reserved is reconciled with the ledger instead.

    Two functions read the answer to a transaction lookup,
    `waitForValidation` and `reconcile`, each in its own words as in the
    source; that they classify answers alike is a theorem. -/

namespace XrplX402.Facilitator

open Py Interaction

/-! ## Section 1: Responses -/

/-- A failure without a transaction, before anything is known of the hash. -/
def failureResponse (reason : String) (message payer : Option String) (network : String) :
    SettleResponse :=
  ⟨false, some reason, message, payer, "", network, none, none, none⟩

def pendingResponse (transaction network payer amount : String) : SettleResponse :=
  ⟨false, some "settlement_pending",
    some "Transaction submission is awaiting validated ledger confirmation", some payer,
    transaction, network, some amount, some [("status", .str "pending")], none⟩

/-- The response for a record with a verdict. -/
def stateResponse (env : Env) (state : XRPLSettlementState) (amount : String) : SettleResponse :=
  if state.status = .validated then
    ⟨true, none, none, state.payer, state.transaction, state.network, some amount,
      some [("status", .str "validated")], none⟩
  else
    let reason := (Dict.get? (state.result.getD []) "errorReason").getD (.str "transaction_failed")
    ⟨false, some (str env.unicode reason), none, state.payer, state.transaction, state.network,
      some amount, some [("status", .str state.status.text)], none⟩

def mismatchResponse (existing : XRPLSettlementState) (transactionHash : String) : SettleResponse :=
  ⟨false, some "transaction_hash_request_mismatch",
    some "The signed transaction hash is already bound to different payment requirements",
    existing.payer, transactionHash, existing.network, none, none, none⟩

/-- The response for a record without a verdict. -/
def pendingStateResponse (state : XRPLSettlementState) (amount : String) : SettleResponse :=
  pendingResponse state.transaction state.network (state.payer.getD "") amount

/-! ## Section 2: Reading a transaction lookup -/

structure TransactionLookup where
  transaction : Option Dict
  authoritativeAbsence : Bool
  deriving DecidableEq

/-- Only a result without an error is a transaction, and only a complete search
    shows its absence. -/
def lookupOf : Except Exc Json → TransactionLookup
  | .ok (.obj result) =>
    if Dict.get result "error" ≠ .null then
      ⟨none, Dict.get result "error" = .str "txnNotFound" &&
        Dict.get result "searched_all" = .bool true⟩
    else if result = [] then ⟨none, false⟩
    else ⟨some result, false⟩
  | _ => ⟨none, false⟩

def queryTransaction (state : XRPLSettlementState) : Service TransactionLookup :=
  .call (.rpc (.tx state.transaction state.firstLedgerSequence state.lastLedgerSequence))
    fun answer => .ret (lookupOf answer)

def metaOf (result : Dict) : Json :=
  (Dict.get result "meta").or ((Dict.get result "metaData").or (.obj []))

def transactionResult (env : Env) (result : Dict) : String :=
  match metaOf result with
  | .obj d => str env.unicode ((Dict.get d "TransactionResult").or
      ((Dict.get d "transaction_result").or (.str "unknown")))
  | _ => "unknown"

/-- `meta.get("delivered_amount", meta.get("DeliveredAmount"))` -/
def deliveredAmount (metadata : Dict) : Json :=
  (Dict.get? metadata "delivered_amount").getD (Dict.get metadata "DeliveredAmount")

def xrpDelivered (env : Env) (delivered : Json) (requirements : PaymentRequirements) :
    Except Exc Bool :=
  match delivered with
  | .str s =>
    if env.unicode.isDigitStr s then do
      let drops ← intOfStr env.unicode s
      let required ← intOfStr env.unicode requirements.amount
      return decide (drops = required)
    else .ok false
  | _ => .ok false

def iouDelivered (env : Env) (delivered : Json) (requirements : PaymentRequirements) :
    Except Exc Bool :=
  match delivered with
  | .obj d => do
    let currency ← xrplCurrencyCode env requirements.asset
    if Dict.get d "currency" ≠ .str currency ∨
        (Dict.get d "issuer").pyEq (Dict.get requirements.extraOr "issuer") = false then
      return false
    let order ← compareDecimalStrings env (str env.unicode (Dict.get d "value")) requirements.amount
    return decide (order = 0)
  | _ => .ok false

/-- Does the delivered amount equal the required one? -/
def amountDelivered (env : Env) (delivered : Json) (requirements : PaymentRequirements) :
    Except Exc Bool :=
  if requirements.asset = "XRP" then xrpDelivered env delivered requirements
  else iouDelivered env delivered requirements

def deliveredAmountError (env : Env) (result : Dict) (requirements : PaymentRequirements) :
    Except Exc (Option String) :=
  match metaOf result with
  | .obj metadata =>
    let delivered := deliveredAmount metadata
    if delivered = .null ∨ delivered = .str "unavailable" then
      .ok (some "transaction_failed: delivered_amount_unavailable")
    else do
      let equal ← amountDelivered env delivered requirements
      return if equal then none else some "transaction_failed: delivered_amount_mismatch"
  | _ => .ok (some "transaction_failed: missing_metadata")

/-- `response.get("validated")` -/
def isValidated (result : Dict) : Bool := (Dict.get result "validated").truthy

/-! ## Section 3: Polling and reconciliation -/

def storeGet (transaction : String) : Service (Option XRPLSettlementState) :=
  .call (Op.get transaction) .ret

def storeReserve (state : XRPLSettlementState) (ttlSeconds : Int) : Service Bool :=
  .call (Op.reserve state ttlSeconds) .ret

def storeUpdate (state : XRPLSettlementState) (ttlSeconds : Int) : Service Unit :=
  .call (Op.update state ttlSeconds) .ret

def errorResult (reason : String) : Dict := [("errorReason", .str reason)]

def amountResult (amount : String) : Dict := [("amount", .str amount)]

def waitForValidation (env : Env) (state : XRPLSettlementState) (requirements : PaymentRequirements)
    (ttl : Int) : Nat → Service SettleResponse
  | 0 => return pendingStateResponse state requirements.amount
  | attempts + 1 => do
    let lookup ← queryTransaction state
    match lookup.transaction with
    | none => waitForValidation env state requirements ttl attempts
    | some response =>
      let resultCode := transactionResult env response
      if isValidated response ∧ resultCode = "tesSUCCESS" then do
        let deliveredError ← lift (deliveredAmountError env response requirements)
        match deliveredError with
        | some error => do
          let failed := state.withResult .failed (errorResult error)
          storeUpdate failed ttl
          return stateResponse env failed requirements.amount
        | none => do
          let completed := state.withResult .validated (amountResult requirements.amount)
          storeUpdate completed ttl
          return stateResponse env completed requirements.amount
      else if isValidated response then do
        let failed := state.withResult .failed (errorResult ("transaction_failed: " ++ resultCode))
        storeUpdate failed ttl
        return stateResponse env failed requirements.amount
      else waitForValidation env state requirements ttl attempts

/-- `delivered_error` is only looked for when the transaction succeeded. -/
def reconcileDeliveredError (env : Env) (resultCode : String) (response : Dict)
    (requirements : PaymentRequirements) : Except Exc (Option String) :=
  if resultCode = "tesSUCCESS" then deliveredAmountError env response requirements else .ok none

def reconcileVerdict (state : XRPLSettlementState) (resultCode : String)
    (deliveredError : Option String) (requirements : PaymentRequirements) : XRPLSettlementState :=
  let status : Status :=
    if resultCode = "tesSUCCESS" ∧ deliveredError = none then .validated else .failed
  let result :=
    if status = .validated then amountResult requirements.amount
    else errorResult ((deliveredError.filter (· ≠ "")).getD ("transaction_failed: " ++ resultCode))
  state.withResult status result

/-- The ledger index, or nothing when the query fails in any way. -/
def currentLedgerOrNone (env : Env) : Service (Option Int) :=
  tryCatch (do return some (← currentLedger env)) fun _ => return none

theorem currentLedgerOrNone_eq (env : Env) : currentLedgerOrNone env =
    .call (.rpc .ledger) fun answer => .ret (ledgerIndex env answer).toOption := by
  have hk : ∀ answer, (tryCatch (lift (ledgerIndex env answer) >>= fun n => Prog.ret (some n))
      fun _ => Prog.ret none : Service (Option Int)) =
      .ret (ledgerIndex env answer).toOption := by
    intro answer
    cases ledgerIndex env answer <;> rfl
  exact congrArg (Prog.call (Op.rpc .ledger)) (funext hk)

/-- The expiry check of `_reconcile`. -/
def reconcileAbsence (env : Env) (state : XRPLSettlementState) (requirements : PaymentRequirements)
    (ttl : Int) : Service SettleResponse := do
  let ledger ← currentLedgerOrNone env
  if ledger.any (state.lastLedgerSequence ≤ ·) then do
    let expired := state.withResult .failed (errorResult "transaction_expired")
    storeUpdate expired ttl
    return stateResponse env expired requirements.amount
  else return pendingStateResponse state requirements.amount

def reconcile (env : Env) (state : XRPLSettlementState) (requirements : PaymentRequirements)
    (ttl : Int) : Service SettleResponse :=
  if state.status ≠ .pending then return stateResponse env state requirements.amount
  else do
    let lookup ← queryTransaction state
    match lookup.transaction.filter isValidated with
    | some response => do
      let resultCode := transactionResult env response
      let deliveredError ← lift (reconcileDeliveredError env resultCode response requirements)
      let state := reconcileVerdict state resultCode deliveredError requirements
      storeUpdate state ttl
      return stateResponse env state requirements.amount
    | none =>
      if lookup.authoritativeAbsence then reconcileAbsence env state requirements ttl
      else return pendingStateResponse state requirements.amount

/-! ## Section 4: `settle` -/

def settlementMarginSeconds : Int := 120

variable {env : Env} (F : ExactXRPLFacilitatorScheme env)

def settlementTtl (requirements : PaymentRequirements) : Int :=
  max (max (requirements.maxTimeoutSeconds + settlementMarginSeconds) 300)
    F.settings.replayProcessedTtlSeconds

/-- Blob and transaction hash of a payload. -/
def payloadHash (env : Env) (payload : PaymentPayload) : Except Exc (String × String) := do
  let exact ← exactXrplPayload env payload
  let hash ← signedTransactionHash env exact.signedTxBlob
  return (exact.signedTxBlob, hash)

/-- A record that is already there: answer from it, or reconcile it. -/
def settleExisting (existing : XRPLSettlementState) (transactionHash fingerprint : String)
    (requirements : PaymentRequirements) : Service SettleResponse :=
  if existing.paymentFingerprint ≠ fingerprint then
    return mismatchResponse existing transactionHash
  else reconcile env existing requirements (settlementTtl F requirements)

/-- After a successful reservation: submit once, then poll. -/
def submitAndWait (blob transactionHash : String) (pending : XRPLSettlementState) (payer : String)
    (requirements : PaymentRequirements) : Service SettleResponse :=
  let ttl := settlementTtl F requirements
  if pending.lastLedgerSequence ≤ pending.firstLedgerSequence then
    reconcile env pending requirements ttl
  else
    .call (.rpc (.submitOnly blob)) fun answer =>
      match answer with
      | .ok _ =>
        waitForValidation env pending requirements ttl F.settings.validationTimeout.toNat
      | .error _ =>
        return pendingResponse transactionHash requirements.network payer requirements.amount

/-- The record that `settle` reserves. -/
def pendingState (env : Env) (payload : PaymentPayload) (requirements : PaymentRequirements)
    (transactionHash payer : String) (firstLedger lastLedger : Int) : XRPLSettlementState :=
  .new transactionHash requirements.network (some payer) firstLedger lastLedger
    (paymentFingerprint env payload requirements) .pending

/-- Reserve the hash, and act on whether it was free. -/
def reservePending (blob transactionHash fingerprint payer : String) (pending : XRPLSettlementState)
    (requirements : PaymentRequirements) : Service SettleResponse := do
  let reserved ← storeReserve pending (settlementTtl F requirements)
  if reserved then submitAndWait F blob transactionHash pending payer requirements
  else do
    let existing ← storeGet transactionHash
    match existing with
    | none => return pendingResponse transactionHash requirements.network payer requirements.amount
    | some existing => settleExisting F existing transactionHash fingerprint requirements

/-- After a valid verification. -/
def reserveAndSubmit (payload : PaymentPayload) (requirements : PaymentRequirements)
    (blob transactionHash : String) : Service SettleResponse := do
  let tx ← lift (env.decode blob)
  let account ← lift (subscript (.obj tx) "Account")
  let payer := str env.unicode account
  let lastLedger ← lift (subscript (.obj tx) "LastLedgerSequence")
  let lastLedger ← lift (toInt env.unicode lastLedger)
  let firstLedger ← currentLedger env
  let pending := pendingState env payload requirements transactionHash payer firstLedger lastLedger
  reservePending F blob transactionHash (paymentFingerprint env payload requirements) payer pending
    requirements

/-- The response to a refused verification. -/
def refusedResponse (verification : VerifyResponse) (network : String) : SettleResponse :=
  failureResponse ((verification.invalidReason.filter (· ≠ "")).getD "verification_failed")
    verification.invalidMessage verification.payer network

def settle (pages : Nat) (payload : PaymentPayload) (requirements : PaymentRequirements) :
    Service SettleResponse :=
  match payloadHash env payload with
  | .error e =>
    return failureResponse "invalid_exact_xrpl_payload" (some e.text) none requirements.network
  | .ok (blob, transactionHash) => do
    let fingerprint := paymentFingerprint env payload requirements
    let existing ← storeGet transactionHash
    match existing with
    | some existing => settleExisting F existing transactionHash fingerprint requirements
    | none => do
      let verification ← verify F pages payload requirements
      if verification.isValid then reserveAndSubmit F payload requirements blob transactionHash
      else return refusedResponse verification requirements.network

end XrplX402.Facilitator
