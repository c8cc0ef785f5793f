import XrplX402.Facilitator.Checks

/-! # Verification against the ledger

    `_verify_transaction` runs the checks of `Checks` and then asks the node:
    for the validated ledger and the signing account, for the ticket if one is
    used, and for a simulation of the payment. Where the node cannot simulate,
    targeted balance checks take its place.

    The two pagination loops of the source have no bound. They get one here,
    `pages`, and a loop that reaches it neither returns nor raises. -/

namespace XrplX402.Facilitator

open Py Interaction

/-! ## Section 1: Single queries -/

/-- `raise PaymentVerificationError(...)` or an answer that a check has passed. -/
def check {α : Type} (x : Check α) : Service α := .ofExcept x

/-- `int(response.result["ledger_index"])` -/
def ledgerIndex (env : Env) (answer : Except Exc Json) : Except Exc Int := do
  let result ← answer
  let index ← subscript result "ledger_index"
  toInt env.unicode index

def currentLedger (env : Env) : Service Int :=
  .call (.rpc .ledger) fun answer => lift (ledgerIndex env answer)

def requireAccountData (data : Json) (reason payer : String) : Check Dict :=
  match data with
  | .obj d => .ok d
  | _ => .error (refusal reason payer)

def accountData (account : String) : Service Dict := do
  let result ← request (.accountInfo account)
  let data ← lift (getAttr result "account_data")
  check (requireAccountData data "invalid_exact_xrpl_account_not_found" account)

/-- `result.get("account_data") if isinstance(result, dict) else None` -/
def accountDataOf (result : Json) : Json :=
  match result with
  | .obj d => Dict.get d "account_data"
  | _ => .null

def transferRateOf (data : Dict) : Except Exc Int :=
  let invalid := runtimeError "AccountInfo returned an invalid TransferRate"
  match ((Dict.get? data "TransferRate").getD (.int 1000000000)).asInt? with
  | some rate =>
    if 1000000000 ≤ rate ∧ rate ≤ 2000000000 then .ok rate else .error invalid
  | none => .error invalid

def issuerTransferRate (issuer payer : String) : Service Int := do
  let result ← request (.accountInfo issuer)
  let data ← check (requireAccountData (accountDataOf result)
    "invalid_exact_xrpl_payload_iou_issuer_account_not_found" payer)
  lift (transferRateOf data)

def accountExistsIn (result : Json) : Except Exc Bool :=
  match result with
  | .obj d =>
    match Dict.get d "account_data" with
    | .obj _ => .ok true
    | _ =>
      match Dict.get d "error" with
      | .str e =>
        if e = "actNotFound" ∨ e = "accountNotFound" then .ok false
        else .error (runtimeError "AccountInfo could not determine account existence")
      | .arr _ => .error (typeError "unhashable type: 'list'")
      | .obj _ => .error (typeError "unhashable type: 'dict'")
      | _ => .error (runtimeError "AccountInfo could not determine account existence")
  | _ => .error (runtimeError "AccountInfo returned a malformed result")

def accountExists (account : String) : Service Bool := do
  let result ← request (.accountInfo account)
  lift (accountExistsIn result)

/-- The two reserve values; what is wrong with them is reported in one way. -/
def reserveValues (env : Env) (validated : Dict) : Except Exc (Int × Int) :=
  let values : Except Exc (Int × Int) := do
    let base ← subscript (.obj validated) "reserve_base"
    let base ← toInt env.unicode base
    let increment ← subscript (.obj validated) "reserve_inc"
    let increment ← toInt env.unicode increment
    return (base, increment)
  match values with
  | .ok (base, increment) =>
    if base < 0 ∨ increment < 0 then
      .error (runtimeError "ServerState returned negative reserve values")
    else .ok (base, increment)
  | .error e =>
    if e.kind = .keyError ∨ e.kind = .typeError ∨ e.kind = .valueError then
      .error (runtimeError "ServerState returned invalid reserve values")
    else .error e

def validatedLedgerOf (result : Json) : Except Exc Dict :=
  let validated := (result.asDict?.bind fun d => (Dict.get d "state").asDict?).bind fun state =>
    (Dict.get state "validated_ledger").asDict?
  match validated with
  | some d => .ok d
  | none => .error (runtimeError "ServerState did not return a validated ledger")

def xrpReserveParameters (env : Env) : Service (Int × Int) := do
  let result ← request .serverState
  let validated ← lift (validatedLedgerOf result)
  lift (reserveValues env validated)

def xrpAccountReserve (data : Dict) (reserveBase reserveIncrement : Int) : Except Exc Int :=
  let invalid := runtimeError "AccountInfo returned an invalid OwnerCount"
  match (Dict.get data "OwnerCount").asInt? with
  | some ownerCount =>
    if ownerCount < 0 then .error invalid else .ok (reserveBase + ownerCount * reserveIncrement)
  | none => .error invalid

/-! ## Section 2: Paginated queries -/

/-- One page: what it holds under `field`, and the marker of the next page. -/
structure Page where
  items : List Json
  marker : Json

def objectsPage (result : Json) : Except Exc Page :=
  match result with
  | .obj d =>
    match (Dict.get? d "account_objects").getD (.arr []) with
    | .arr objects => .ok ⟨objects, Dict.get d "marker"⟩
    | _ => .error (runtimeError "AccountObjects returned malformed account_objects")
  | _ => .error (runtimeError "AccountObjects returned a malformed result")

def linesPage (result : Json) : Except Exc Page :=
  match result with
  | .obj d =>
    match (Dict.get? d "lines").getD (.arr []) with
    | .arr lines => .ok ⟨lines, Dict.get d "marker"⟩
    | _ => .error (runtimeError "AccountLines returned a malformed result")
  | _ => .error (runtimeError "AccountLines returned a malformed result")

/-- Is this object the ticket? -/
def isTicket (ticket : Int) (object : Json) : Bool :=
  object.asDict?.any fun d => (Dict.get d "TicketSequence").pyEq (.int ticket)

/-- `marker_key = repr(marker)`, which must not have been seen before. -/
def markerKey (env : Env) (method : String) (seen : List String) (marker : Json) :
    Except Exc String :=
  let key := repr env.unicode marker
  if key ∈ seen then .error (runtimeError (method ++ " returned a repeated pagination marker"))
  else .ok key

def ticketIsAvailableFrom (env : Env) (payer : String) (ticket : Int) :
    Nat → Json → List String → Service Bool
  | 0, _, _ => .spin
  | pages + 1, marker, seen => do
    let result ← request (.accountObjects payer marker)
    let page ← lift (objectsPage result)
    if page.items.any (isTicket ticket) then return true
    else if page.marker = .null then return false
    else do
      let key ← lift (markerKey env "AccountObjects" seen page.marker)
      ticketIsAvailableFrom env payer ticket pages page.marker (key :: seen)

def ticketIsAvailable (env : Env) (pages : Nat) (payer : String) (ticket : Int) : Service Bool :=
  ticketIsAvailableFrom env payer ticket pages .null []

/-- All trust lines towards `peer`. -/
def accountLinesFrom (env : Env) (payer : String) (peer : Json) :
    Nat → Json → List String → List Dict → Service (List Dict)
  | 0, _, _, _ => .spin
  | pages + 1, marker, seen, lines => do
    let result ← request (.accountLines payer peer marker)
    let page ← lift (linesPage result)
    let lines := lines ++ page.items.filterMap Json.asDict?
    if page.marker = .null then return lines
    else do
      let key ← lift (markerKey env "AccountLines" seen page.marker)
      accountLinesFrom env payer peer pages page.marker (key :: seen) lines

/-! ## Section 3: Ledger and account state -/

def lsfDisableMaster : Int := 0x00100000

/-- The checks on `LastLedgerSequence`, given the validated ledger. -/
def checkLastLedger (tx : Dict) (requirements : PaymentRequirements) (payer : String)
    (currentLedger : Int) : Check Unit :=
  match (Dict.get tx "LastLedgerSequence").asInt? with
  | none => .error (refusal "invalid_exact_xrpl_payload_lastledgersequence_missing" payer)
  | some lastLedger => do
    failIf (lastLedger ≤ currentLedger) (refusal "invalid_exact_xrpl_payload_expired" payer)
    let maxLedger ← uncaught (getMaxLastLedgerSequence currentLedger requirements)
    failIf (maxLedger < lastLedger)
      (refusal "invalid_exact_xrpl_payload_lastledgersequence_too_large" payer)

/-- The signing key is the account's regular key, or its enabled master key. -/
def checkSigner (env : Env) (tx : Dict) (payer : String) (account : Dict) : Check Unit := do
  let publicKey ← uncaught (subscript (.obj tx) "SigningPubKey")
  let publicKeyAddress ← uncaught (env.deriveClassicAddress (str env.unicode publicKey))
  let flags ← uncaught (toInt env.unicode ((Dict.get? account "Flags").getD (.int 0)))
  failIf (Dict.get account "RegularKey" ≠ .str publicKeyAddress ∧
      ¬ (publicKeyAddress = payer ∧ hasFlag flags lsfDisableMaster = false))
    (refusal "invalid_exact_xrpl_payload_signer_not_authorized" payer)

def checkSequence (tx : Dict) (payer : String) (account : Dict) : Check Unit := do
  failIf (Dict.get tx "TicketSequence" ≠ .null)
    (refusal "invalid_exact_xrpl_payload_ticket_sequence_not_allowed" payer)
  failIf ((Dict.get tx "Sequence").pyEq (Dict.get account "Sequence") = false)
    (refusal "invalid_exact_xrpl_payload_sequence_not_current" payer)

def ticketOf (tx : Dict) (payer : String) : Check Int :=
  let missing := refusal "invalid_exact_xrpl_payload_ticket_sequence_missing" payer
  match (Dict.get tx "TicketSequence").asInt? with
  | some ticket =>
    if (Dict.get tx "Sequence").pyEq (.int 0) then .ok ticket else .error missing
  | none => .error missing

def verifyLedgerAndAccountState (env : Env) (pages : Nat) (tx : Dict)
    (requirements : PaymentRequirements) (payer selectedMethod : String) : Service Unit := do
  let currentLedger ← currentLedger env
  check (checkLastLedger tx requirements payer currentLedger)
  let account ← accountData payer
  check (checkSigner env tx payer account)
  if selectedMethod = "sequence" then check (checkSequence tx payer account)
  else do
    let ticket ← check (ticketOf tx payer)
    let available ← ticketIsAvailable env pages payer ticket
    check (failIf (available = false)
      (refusal "invalid_exact_xrpl_payload_ticket_not_available" payer))

/-! ## Section 4: Simulation and balances -/

def simulationUnavailableErrors : List String :=
  ["methodnotfound", "notimplemented", "notsupported", "unknowncmd", "unknowncommand",
    "unknownmethod"]

/-- `re.sub(r"[^a-z0-9]+", "", candidate.lower())` -/
def squeezed (env : Env) (candidate : String) : String :=
  String.ofList ((env.unicode.lowerStr candidate).toList.filter fun c =>
    isAsciiDigit c || ('a' ≤ c && c ≤ 'z'))

def isSimulationUnavailableResult (env : Env) (result : Dict) : Bool :=
  let error := Dict.get result "error"
  let errorCode := (Dict.get? result "error_code").getD (Dict.get result "code")
  let errorCode := match error with
    | .obj d => (Dict.get? d "code").getD errorCode
    | _ => errorCode
  let candidates := [Dict.get result "error_message", Dict.get result "message"] ++
    match error with
    | .obj d => [Dict.get d "name", Dict.get d "message"]
    | j => [j]
  str env.unicode errorCode = "-32601" ||
    candidates.any fun candidate =>
      candidate.asStr?.any fun s => squeezed env s ∈ simulationUnavailableErrors

def decimalOf (env : Env) (s : String) : Except Exc Decimal :=
  match decimalOfStr env.unicode s with
  | some d => .ok d
  | none => .error ⟨.decimalException, "invalid decimal literal"⟩

/-- `a < b` for decimals. -/
def decimalLt (a b : Decimal) : Except Exc Bool :=
  match a.cmp b with
  | some order => .ok (order = .lt)
  | none => .error ⟨.decimalException, "comparison involving NaN"⟩

def decimalMul (a b : Decimal) : Except Exc Decimal :=
  match a.mul b with
  | some d => .ok d
  | none => .error ⟨.decimalException, "overflow or invalid operation"⟩

/-- Does `SendMax` cover the amount and the issuer's transfer fee? -/
def sendMaxCoversFee (env : Env) (sourceAmount destinationAmount : Decimal) (transferRate : Int) :
    Except Exc Bool := do
  let rate ← decimalOf env (toString transferRate)
  let sent ← decimalMul sourceAmount (.finite false 1000000000 0)
  let needed ← decimalMul destinationAmount rate
  let short ← decimalLt sent needed
  return !short

def matchingLines (env : Env) (issuer : Json) (currency : String) (lines : List Dict) : List Dict :=
  lines.filter fun line =>
    (Dict.get line "account").pyEq issuer &&
      friendlyCurrency env (str env.unicode ((Dict.get? line "currency").getD (.str ""))) =
        friendlyCurrency env currency

/-- Does the first matching trust line hold the source amount? -/
def trustlineCovers (env : Env) (sourceAmount : Decimal) : List Dict → Except Exc Bool
  | [] => .ok false
  | line :: _ => do
    let balance ← decimalOf env (str env.unicode ((Dict.get? line "balance").getD (.str "0")))
    let short ← decimalLt balance sourceAmount
    return !short

def feeDue (env : Env) (payer : String) (requirements : PaymentRequirements) (issuer : Json)
    (sourceAmount destinationAmount : Decimal) (transferRate : Int) : Except Exc Bool :=
  if Json.str payer ≠ issuer ∧ Json.str requirements.payTo ≠ issuer then
    sendMaxCoversFee env sourceAmount destinationAmount transferRate
  else .ok true

def targetedIouCheck (env : Env) (pages : Nat) (tx : Dict) (requirements : PaymentRequirements)
    (payer : String) : Service Unit := do
  let issuer := Dict.get requirements.extraOr "issuer"
  let currency ← lift (xrplCurrencyCode env requirements.asset)
  let lines ← accountLinesFrom env payer issuer pages .null [] []
  let sendMax ← lift (subscript (.obj tx) "SendMax")
  let value ← lift (subscript sendMax "value")
  let sourceAmount ← lift (decimalOf env (str env.unicode value))
  let destinationAmount ← lift (decimalOf env requirements.amount)
  let transferRate ← issuerTransferRate (str env.unicode issuer) payer
  let covered ← lift (feeDue env payer requirements issuer sourceAmount destinationAmount
    transferRate)
  check (failIf (covered = false)
    (refusal "invalid_exact_xrpl_payload_sendmax_transfer_fee_too_low" payer))
  let funded ← lift (trustlineCovers env sourceAmount (matchingLines env issuer currency lines))
  check (failIf (funded = false)
    (refusal "invalid_exact_xrpl_payload_insufficient_trustline_balance" payer))

def targetedBalanceCheck (env : Env) (pages : Nat) (tx : Dict) (requirements : PaymentRequirements)
    (payer : String) : Service Unit := do
  let account ← accountData payer
  let balance ← lift (subscript (.obj account) "Balance")
  let balance ← lift (toInt env.unicode balance)
  let (reserveBase, reserveIncrement) ← xrpReserveParameters env
  let reserve ← lift (xrpAccountReserve account reserveBase reserveIncrement)
  let fee ← lift (subscript (.obj tx) "Fee")
  let fee ← lift (toInt env.unicode fee)
  if requirements.asset = "XRP" then do
    let amount ← lift (intOfStr env.unicode requirements.amount)
    check (failIf (balance - reserve < amount + fee)
      (refusal "invalid_exact_xrpl_payload_insufficient_balance" payer))
    let destinationExists ← accountExists requirements.payTo
    check (failIf (destinationExists = false ∧ amount < reserveBase)
      (refusal "invalid_exact_xrpl_payload_destination_account_creation_amount_too_low" payer))
  else do
    check (failIf (balance - reserve < fee)
      (refusal "invalid_exact_xrpl_payload_insufficient_balance" payer))
    targetedIouCheck env pages tx requirements payer

/-- The guarded part: ask for a simulation and judge its outcome. -/
def verifySimulation (env : Env) (pages : Nat) (tx : Dict) (requirements : PaymentRequirements)
    (payer : String) : Service String := do
  let unsigned := Dict.pop (Dict.pop (Dict.pop tx "TxnSignature") "SigningPubKey") "Signers"
  let transaction ← lift (env.paymentFromXrpl unsigned)
  let answer ← request (.simulate transaction)
  let result := answer.asDict?.getD []
  if isSimulationUnavailableResult env result then do
    targetedBalanceCheck env pages tx requirements payer
    return "targetedChecks"
  else do
    let engineResult := Dict.get result "engine_result"
    check (failIf (engineResult ≠ .str "tesSUCCESS")
      (refusal ("invalid_exact_xrpl_payload_simulation_failed: " ++
        str env.unicode (engineResult.or (.str "unknown"))) payer))
    return "simulation"

def verifySimulationOrBalances (env : Env) (pages : Nat) (tx : Dict)
    (requirements : PaymentRequirements) (payer : String) : Service String :=
  tryCatch (verifySimulation env pages tx requirements payer) fun e =>
    match e with
    | .other _ => do
      targetedBalanceCheck env pages tx requirements payer
      return "targetedChecks"
    | refused => throw refused

/-! ## Section 5: `verify` -/

structure VerifiedTransaction where
  transaction : Dict
  transactionHash : String
  payer : String
  verificationPath : String

structure VerifyResponse where
  isValid : Bool
  invalidReason : Option String
  invalidMessage : Option String
  payer : Option String
  extra : Option Dict
  deriving DecidableEq

def decodeOrRefuse (env : Env) (blob : String) : Check Dict :=
  match env.decode blob with
  | .ok tx => .ok tx
  | .error e => .error (.verification "invalid_exact_xrpl_payload" (some e.text) none)

/-- `str(tx.get("Account") or "")` -/
def payerOf (env : Env) (tx : Dict) : String :=
  str env.unicode ((Dict.get tx "Account").or (.str ""))

/-- Everything that is known about a payload before the node is asked. -/
structure CheckedTransaction where
  selectedMethod : String
  blob : String
  tx : Dict
  payer : String

variable {env : Env} (F : ExactXRPLFacilitatorScheme env)

/-- The part of `_verify_transaction` that needs no ledger. -/
def checkTransaction (payload : PaymentPayload) (requirements : PaymentRequirements) :
    Check CheckedTransaction := do
  let selectedMethod ← verifyEnvelope F payload requirements
  let exact ← uncaught (exactXrplPayload env payload)
  let tx ← decodeOrRefuse env exact.signedTxBlob
  let payer := payerOf env tx
  verifySignature env tx payer
  verifyStructure F tx requirements payer
  return ⟨selectedMethod, exact.signedTxBlob, tx, payer⟩

def verifyTransaction (pages : Nat) (payload : PaymentPayload) (requirements : PaymentRequirements) :
    Service VerifiedTransaction := do
  let checked ← check (checkTransaction F payload requirements)
  verifyLedgerAndAccountState env pages checked.tx requirements checked.payer checked.selectedMethod
  let path ← verifySimulationOrBalances env pages checked.tx requirements checked.payer
  let hash ← lift (signedTransactionHash env checked.blob)
  return ⟨checked.tx, hash, checked.payer, path⟩

def accepted (verified : VerifiedTransaction) : VerifyResponse :=
  ⟨true, none, none, some verified.payer, some [("verificationPath", .str verified.verificationPath)]⟩

def verify (pages : Nat) (payload : PaymentPayload) (requirements : PaymentRequirements) :
    Service VerifyResponse :=
  tryCatch (do return accepted (← verifyTransaction F pages payload requirements)) fun e =>
    match e with
    | .verification reason message payer => return ⟨false, some reason, message, payer, none⟩
    | infrastructureFailure => throw infrastructureFailure

end XrplX402.Facilitator
