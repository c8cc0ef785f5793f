import XrplX402.Core.Helpers
import XrplX402.Interaction.Prog
import XrplX402.Py.DecimalSum

/-! # Funding a wallet with RLUSD

    The command signs a trust line and a conversion, keeps each signed
    transaction in a private state file before it submits it, and reconciles what
    an earlier run has left there.

    * **Operations**: the state file, the requests to a node, and signing. What
      only reads balances, quotes or the faucet is one operation each.
    * **Results**: what a transaction result of a node says.
    * **Reconciliation, submission and funding**: the programs. -/

namespace XrplX402.Devtools

open Py Interaction

/-! ## Section 1: Operations -/

def fundingNetwork : String := "xrpl:1"

def transactionStateVersion : Int := 1

def defaultTrustlineLimit : String := "100000"

def xrpReserveAndFeeBufferDrops : Int := 5000000

/-- In microseconds. -/
def faucetRetryDelay : Nat := 120000000

def maxSlippageBps : Int := 5000

/-- `FundingError` and its subclasses, and all other exceptions. -/
inductive FundingExc where
  | funding (text : String)
  | liquidityUnavailable (text : String)
  | spendLimitExceeded (text : String)
  | settlementPending (text : String)
  | other (e : Exc)
  deriving DecidableEq

structure PendingTransaction where
  purpose : String
  txHash : String
  signedTxBlob : String
  firstLedgerSequence : Int
  lastLedgerSequence : Int
  createdAt : String
  expectedRlusdAmount : Option String
  deriving DecidableEq

structure RlusdFundingState where
  classicAddress : String
  issuer : String
  network : String
  version : Int
  pendingTransaction : Option PendingTransaction
  completedTransactionHashes : List String
  lastFaucetAttemptAt : Option String
  lastFaucetBalanceDrops : Option Int
  deriving DecidableEq

/-- A transaction before it is filled in. -/
inductive FundingTransaction where
  | trustSet (limit : String)
  /-- A circular payment of exactly `amount` for at most `sendMax` drops. -/
  | payment (amount : String) (sendMax : Int)
  deriving DecidableEq

/-- What `autofill` returns. -/
structure PreparedTransaction where
  transaction : FundingTransaction
  fee : Option String
  lastLedgerSequence : Option Int
  deriving DecidableEq

structure SignedTransaction where
  txHash : String
  txBlob : String
  lastLedgerSequence : Int
  deriving DecidableEq

inductive FundingOp where
  /-- The state file, if there is one. Its JSON text is represented by the state
      that it is read as. -/
  | readState
  /-- The new text is written to a temporary file. -/
  | writeTemporary (state : RlusdFundingState)
  /-- `os.replace`: the temporary file becomes the state file. -/
  | replace (state : RlusdFundingState)
  /-- The mode of the file and its directory are made durable. -/
  | syncDirectory
  | tx (transaction : String) (minLedger maxLedger : Int)
  | currentValidatedLedgerIndex
  | submitAndWait (blob : String)
  | autofill (transaction : FundingTransaction)
  | simulate (prepared : PreparedTransaction)
  | sign (prepared : PreparedTransaction)
  | trustlineBalance
  | trustlineLimitIsSufficient (limit : String)
  | xrpBalance
  /-- `_wait_for_xrp_balance`, which polls the balance. -/
  | waitForXrpBalance (minimumDrops : Int)
  | now
  | requestTestnetXrp
  /-- `quote_rlusd_path`: the drops of the quote. -/
  | quoteRlusdPath (amount : Decimal)
  | assertSpendableXrp (sendMaxDrops maxFeeDrops : Int)
  deriving DecidableEq

abbrev FundingRet : FundingOp → Type
  | .readState => Except FundingExc (Option RlusdFundingState)
  | .writeTemporary _ => Except FundingExc Unit
  | .replace _ => Except FundingExc Unit
  | .syncDirectory => Except FundingExc Unit
  | .tx _ _ _ => Except Exc Dict
  | .currentValidatedLedgerIndex => Except Exc Int
  | .submitAndWait _ => Except Exc Dict
  | .autofill _ => Except Exc PreparedTransaction
  | .simulate _ => Except Exc Dict
  | .sign _ => Except Exc SignedTransaction
  | .trustlineBalance => Except Exc Decimal
  | .trustlineLimitIsSufficient _ => Except Exc Bool
  | .xrpBalance => Except Exc Int
  | .waitForXrpBalance _ => Int
  | .now => Nat
  | .requestTestnetXrp => Except FundingExc Unit
  | .quoteRlusdPath _ => Except FundingExc Int
  | .assertSpendableXrp _ _ => Except FundingExc Unit

abbrev FundingProg (α : Type) := Prog FundingOp FundingRet FundingExc α

/-- Third-party functions, and the texts of times. -/
structure FundingEnv extends Env where
  isoformat : Nat → String
  fromisoformat : String → Except Exc Nat
  /-- The hash of the transaction in a signed blob. -/
  hashOf : String → String

variable (env : FundingEnv)

/-- An exception that the program does not raise itself. -/
def foreign {α : Type} (x : Except Exc α) : Except FundingExc α := x.mapError FundingExc.other

/-! ## Section 2: Results -/

/-- `value.normalize()` as fixed-point text. -/
def decimalText (value : Decimal) : Except FundingExc String :=
  match value, value.normalize with
  | .finite _ _ _, some normalized => .ok (String.ofList normalized.formatF)
  | .finite _ _ _, none => .error (.other ⟨.decimalException, "overflow"⟩)
  | _, _ => .error (.other (valueError "amount must be finite"))

/-- `left < right` -/
def decimalLess (left right : Decimal) : Except FundingExc Bool :=
  match Decimal.cmp left right with
  | some o => .ok (o = .lt)
  | none => .error (.other ⟨.decimalException, "comparison involving NaN"⟩)

/-- `response_result.get("meta") or response_result.get("metaData")` -/
def transactionMeta (result : Dict) : Json := (Dict.get result "meta").or (Dict.get result "metaData")

/-- `_transaction_result` -/
def transactionResult (result : Dict) : Option String :=
  let inMeta := (transactionMeta result).asDict?.bind fun d =>
    if Dict.get d "TransactionResult" = .null then none else some (Dict.get d "TransactionResult")
  match inMeta with
  | some value => some (str env.unicode value)
  | none =>
    if Dict.get result "engine_result" = .null then none
    else some (str env.unicode (Dict.get result "engine_result"))

/-- The currency and the value of a delivered amount. -/
def deliveredParts (delivered : Dict) : Option (String × Decimal) :=
  match normalizeCurrencyCode env.toEnv
      (str env.unicode ((Dict.get? delivered "currency").getD (.str ""))),
    decimalOfStr env.unicode (str env.unicode ((Dict.get? delivered "value").getD (.str ""))) with
  | .ok currency, some value => some (currency, value)
  | _, _ => none

/-- `_exact_delivered_amount` -/
def exactDeliveredAmount (result : Dict) (issuer : String) (expected : Decimal) :
    Except FundingExc Unit :=
  match (transactionMeta result).asDict? with
  | none => .error (.funding "validated conversion omitted transaction metadata")
  | some found =>
    match ((Dict.get found "delivered_amount").or (Dict.get found "DeliveredAmount")).asDict? with
    | none => .error (.funding "validated conversion omitted delivered_amount")
    | some delivered =>
      match deliveredParts env delivered with
      | none => .error (.funding "validated conversion returned an invalid delivered_amount")
      | some (currency, value) =>
        let mismatch : FundingExc :=
          .funding "validated conversion did not deliver the exact expected RLUSD"
        if currency ≠ rlusdCode ∨ Dict.get delivered "issuer" ≠ .str issuer then .error mismatch
        else
          match Decimal.equals value expected with
          | some same => failIf (same = false) mismatch
          | none => .error (.other ⟨.decimalException, "comparison involving sNaN"⟩)

/-- `result.get("validated") is True` -/
def isValidated (result : Dict) : Bool := Dict.get result "validated" = .bool true

/-- `_validated_success` -/
def validatedSuccess (result : Dict) (purpose issuer : String) (expected : Option Decimal) :
    Except FundingExc Unit :=
  if isValidated result = false then .error (.settlementPending (purpose ++ " has not validated"))
  else if transactionResult env result ≠ some "tesSUCCESS" then
    .error (.funding (purpose ++ " failed with " ++
      if (transactionResult env result).getD "" = "" then "unknown result"
      else (transactionResult env result).getD ""))
  else
    match expected with
    | none => .ok ()
    | some amount => exactDeliveredAmount env result issuer amount

/-- The expected amount of a journaled transaction. -/
def expectedAmount (pending : PendingTransaction) : Except FundingExc (Option Decimal) :=
  match pending.expectedRlusdAmount with
  | none => .ok none
  | some text =>
    match decimalOfStr env.unicode text with
    | some amount => .ok (some amount)
    | none => .error (.other ⟨.decimalException, "invalid decimal literal"⟩)

/-! ## Section 3: The state file -/

namespace RlusdFundingState

def cleared (state : RlusdFundingState) : RlusdFundingState := { state with pendingTransaction := none }

/-- A terminal transaction is recorded. -/
def completed (state : RlusdFundingState) (txHash : String) : RlusdFundingState :=
  { state with
    completedTransactionHashes :=
      if txHash ∈ state.completedTransactionHashes then state.completedTransactionHashes
      else state.completedTransactionHashes ++ [txHash]
    pendingTransaction := none }

def journaled (state : RlusdFundingState) (pending : PendingTransaction) : RlusdFundingState :=
  { state with pendingTransaction := some pending }

/-- The state of a wallet without a file. -/
def fresh (address issuer : String) : RlusdFundingState where
  classicAddress := address
  issuer := issuer
  network := fundingNetwork
  version := transactionStateVersion
  pendingTransaction := none
  completedTransactionHashes := []
  lastFaucetAttemptAt := none
  lastFaucetBalanceDrops := none

end RlusdFundingState

/-- `write_funding_state`: the file is replaced at once or not at all. -/
def writeFundingState (state : RlusdFundingState) : FundingProg Unit :=
  .call (.writeTemporary state) fun written => do
    .ofExcept written
    .call (.replace state) fun replaced => do
      .ofExcept replaced
      .call .syncDirectory Prog.ofExcept

/-- The checks of `load_funding_state`. -/
def checkFundingState (address issuer : String) (state : RlusdFundingState) :
    Except FundingExc Unit := do
  failIf (state.version ≠ transactionStateVersion)
    (FundingExc.funding "unsupported RLUSD funding state version")
  failIf (state.network ≠ fundingNetwork)
    (FundingExc.funding "RLUSD funding state is for another network")
  failIf (state.classicAddress ≠ address)
    (FundingExc.funding "RLUSD funding state belongs to another wallet")
  failIf (state.issuer ≠ issuer) (FundingExc.funding "RLUSD funding state uses another issuer")

def loadFundingState (address issuer : String) : FundingProg RlusdFundingState :=
  .call .readState fun found => do
    match ← .ofExcept found with
    | none => return .fresh address issuer
    | some state => do
      .ofExcept (checkFundingState address issuer state)
      return state

def recordTerminalTransaction (state : RlusdFundingState) (txHash : String) :
    FundingProg RlusdFundingState := do
  writeFundingState (state.completed txHash)
  return state.completed txHash

/-! ## Section 4: Reconciliation and submission -/

/-- A terminal failure clears the journal; a pending one and every other
    exception leave it. -/
def clearOnFailure (state : RlusdFundingState) (uncertain : FundingExc) :
    FundingExc → FundingProg Unit
  | .settlementPending text => .raise (.settlementPending text)
  | .other _ => .raise uncertain
  | e => do
    writeFundingState state.cleared
    .raise e

/-- Submits a journaled blob and waits for its result. -/
def submitJournaledBlob (state : RlusdFundingState) (blob : String)
    (confirm : Dict → Except FundingExc Unit) (uncertain : FundingExc) : FundingProg Unit :=
  tryCatch
    (.call (.submitAndWait blob) fun submitted => .ofExcept ((foreign submitted).bind confirm))
    (clearOnFailure state uncertain)

/-- Is the result that of the journaled transaction? -/
def confirmPending (state : RlusdFundingState) (pending : PendingTransaction) (result : Dict) :
    Except FundingExc Unit := do
  let expected ← expectedAmount env pending
  validatedSuccess env result pending.purpose state.issuer expected

/-- `txnNotFound`, after all ledgers in the range were searched. -/
def isAuthoritativelyAbsent (result : Dict) : Bool :=
  Dict.get result "error" = .str "txnNotFound" && Dict.get result "searched_all" = .bool true

/-- A journaled transaction with a validated result. -/
def reconcileValidated (state : RlusdFundingState) (pending : PendingTransaction) (result : Dict) :
    FundingProg (Bool × RlusdFundingState) := do
  tryCatch (.ofExcept (confirmPending env state pending result)) fun
    | .other e => .raise (.other e)
    | e => do
      writeFundingState state.cleared
      .raise e
  let state ← recordTerminalTransaction state pending.txHash
  return (true, state)

/-- A journaled transaction past its `LastLedgerSequence`. -/
def reconcileExpired (state : RlusdFundingState) (pending : PendingTransaction) (result : Dict) :
    FundingProg (Bool × RlusdFundingState) :=
  if isAuthoritativelyAbsent result then do
    writeFundingState state.cleared
    return (false, state.cleared)
  else
    .raise (.settlementPending (pending.purpose ++ " " ++ pending.txHash ++
      " is past LastLedgerSequence, but its ledger outcome is not authoritative"))

/-- The identical blob is submitted again. -/
def rebroadcast (state : RlusdFundingState) (pending : PendingTransaction) :
    FundingProg (Bool × RlusdFundingState) := do
  submitJournaledBlob state pending.signedTxBlob (confirmPending env state pending)
    (.settlementPending (pending.purpose ++ " " ++ pending.txHash ++ " remains pending"))
  let state ← recordTerminalTransaction state pending.txHash
  return (true, state)

def reconcilePendingTransaction (state : RlusdFundingState) : FundingProg (Bool × RlusdFundingState) :=
  match state.pendingTransaction with
  | none => return (true, state)
  | some pending =>
    .call (.tx pending.txHash pending.firstLedgerSequence pending.lastLedgerSequence) fun answer => do
      let result ← .ofExcept (foreign answer)
      if isValidated result then reconcileValidated env state pending result
      else
        .call .currentValidatedLedgerIndex fun answer => do
          let currentLedger ← .ofExcept (foreign answer)
          if pending.lastLedgerSequence ≤ currentLedger then reconcileExpired state pending result
          else rebroadcast env state pending

/-- What a transaction is signed for. -/
structure Submission where
  transaction : FundingTransaction
  purpose : String
  maxFeeDrops : Int
  expectedRlusdAmount : Option Decimal

/-- A server without `simulate` is accepted. -/
def isUnimplemented (e : Exc) : Bool :=
  let text := (env.unicode.lowerStr e.text).toList
  decide ("notimpl".toList <:+: text) || decide ("not implemented".toList <:+: text) ||
    decide ("unknown method".toList <:+: text)

/-- `_simulate_exact_payment`, once the node has answered. -/
def checkSimulation (issuer : String) (expected : Option Decimal) :
    Except Exc Dict → Except FundingExc Unit
  | .error e =>
    if isUnimplemented env e then .ok ()
    else .error (.funding ("RLUSD conversion simulation request failed: " ++ e.text))
  | .ok result =>
    if transactionResult env result ≠ some "tesSUCCESS" then
      .error (.funding ("RLUSD conversion simulation failed with " ++
        if (transactionResult env result).getD "" = "" then "unknown result"
        else (transactionResult env result).getD ""))
    else
      match expected with
      | none => .ok ()
      | some amount => exactDeliveredAmount env result issuer amount

/-- Only payments are simulated. -/
def simulateExactPayment (state : RlusdFundingState) (submission : Submission)
    (prepared : PreparedTransaction) : FundingProg Unit :=
  match prepared.transaction with
  | .trustSet _ => return ()
  | .payment _ _ =>
    .call (.simulate prepared) fun answer =>
      .ofExcept (checkSimulation env state.issuer submission.expectedRlusdAmount answer)

/-- The checks of a prepared transaction before it is simulated and signed. -/
def checkPrepared (submission : Submission) (prepared : PreparedTransaction) :
    Except FundingExc Unit := do
  let fee ← foreign (intOfStr env.unicode
    (if prepared.fee.getD "" = "" then "0" else prepared.fee.getD ""))
  failIf (fee ≤ 0 ∨ submission.maxFeeDrops < fee)
    (FundingExc.spendLimitExceeded ("refusing " ++ submission.purpose ++ ": fee " ++ toString fee ++
      " drops exceeds cap " ++ toString submission.maxFeeDrops))
  failIf (prepared.lastLedgerSequence = none)
    (FundingExc.funding ("prepared " ++ submission.purpose ++ " is missing LastLedgerSequence"))

/-- `_decimal_text(expected_rlusd_amount)`, if there is one. -/
def expectedText (expected : Option Decimal) : Except FundingExc (Option String) :=
  match expected with
  | none => .ok none
  | some amount => (decimalText amount).map some

/-- A signed transaction is journaled, then submitted. -/
def journalAndSubmit (state : RlusdFundingState) (submission : Submission) (first : Int)
    (signed : SignedTransaction) : FundingProg (String × RlusdFundingState) :=
  .call .now fun createdAt => do
    let expected ← .ofExcept (expectedText submission.expectedRlusdAmount)
    let pending : PendingTransaction :=
      ⟨submission.purpose, signed.txHash, signed.txBlob, first, signed.lastLedgerSequence,
        env.isoformat createdAt, expected⟩
    writeFundingState (state.journaled pending)
    submitJournaledBlob (state.journaled pending) signed.txBlob
      (fun result => validatedSuccess env result submission.purpose state.issuer
        submission.expectedRlusdAmount)
      (.settlementPending (submission.purpose ++ " " ++ signed.txHash ++
        " has an uncertain submission outcome"))
    let state ← recordTerminalTransaction (state.journaled pending) signed.txHash
    return (signed.txHash, state)

def submitJournaledTransaction (state : RlusdFundingState) (submission : Submission) :
    FundingProg (String × RlusdFundingState) :=
  if state.pendingTransaction ≠ none then
    .raise (.settlementPending "another transaction must be reconciled first")
  else
    .call .currentValidatedLedgerIndex fun answer => do
      let first ← .ofExcept (foreign answer)
      .call (.autofill submission.transaction) fun answer => do
        let prepared ← .ofExcept (foreign answer)
        .ofExcept (checkPrepared env submission prepared)
        simulateExactPayment env state submission prepared
        .call (.sign prepared) fun answer => do
          let signed ← .ofExcept (foreign answer)
          journalAndSubmit env state submission first signed

/-! ## Section 5: Funding -/

/-- The wallet and the limits of one run. -/
structure FundingRun where
  address : String
  targetRlusd : Decimal
  maxXrpDrops : Int
  slippageBps : Int
  maxFeeDrops : Int

/-- `compute_send_max_drops` -/
def computeSendMaxDrops (sourceAmount slippageBps : Int) : Except FundingExc Int := do
  failIf (sourceAmount ≤ 0) (FundingExc.other (valueError "source amount must be positive"))
  failIf (slippageBps < 0 ∨ maxSlippageBps < slippageBps)
    (FundingExc.other (valueError "slippage basis points must be between 0 and 5000"))
  return (sourceAmount * (10000 + slippageBps) + 9999) / 10000

/-- The previous faucet request is over. -/
def faucetMayBeAsked (state : RlusdFundingState) (now : Nat) : Except FundingExc Unit :=
  if state.lastFaucetAttemptAt.getD "" = "" then .ok ()
  else do
    let previous ← foreign (env.fromisoformat (state.lastFaucetAttemptAt.getD ""))
    failIf (now < previous + faucetRetryDelay) (FundingExc.settlementPending
      "the previous XRP faucet request is still in its reconciliation window")

def RlusdFundingState.faucetAsked (state : RlusdFundingState) (attemptedAt : String) (balance : Int) :
    RlusdFundingState :=
  { state with lastFaucetAttemptAt := some attemptedAt, lastFaucetBalanceDrops := some balance }

/-- The faucet has been asked; its funds are awaited. -/
def awaitFaucet (minimumDrops : Int) (asked : Except FundingExc Unit) (funded : Int) :
    Except FundingExc Unit :=
  if minimumDrops ≤ funded then .ok ()
  else
    match asked with
    | .error _ => .error (.settlementPending
        "XRP faucet outcome is uncertain; rerun after the reconciliation window")
    | .ok _ => .error (.settlementPending ("XRP faucet funding is not validated yet; have " ++
        toString funded ++ " drops, need " ++ toString minimumDrops))

def ensureTestnetXrp (minimumDrops : Int) (state : RlusdFundingState) : FundingProg RlusdFundingState :=
  .call .xrpBalance fun answer =>
    if minimumDrops ≤ answer.toOption.getD 0 then return state
    else
      .call .now fun now => do
        .ofExcept (faucetMayBeAsked env state now)
        writeFundingState (state.faucetAsked (env.isoformat now) (answer.toOption.getD 0))
        .call .requestTestnetXrp fun asked =>
          .call (.waitForXrpBalance minimumDrops) fun funded => do
            .ofExcept (awaitFaucet minimumDrops asked funded)
            return state.faucetAsked (env.isoformat now) (answer.toOption.getD 0)

/-- `_ensure_rlusd_trustline_journaled` -/
def ensureRlusdTrustline (run : FundingRun) (state : RlusdFundingState) :
    FundingProg RlusdFundingState :=
  .call (.trustlineLimitIsSufficient defaultTrustlineLimit) fun answer => do
    let sufficient ← .ofExcept (foreign answer)
    if sufficient then return state
    else do
      let submitted ← submitJournaledTransaction env state
        ⟨.trustSet defaultTrustlineLimit, "RLUSD trustline", run.maxFeeDrops, none⟩
      return submitted.2

/-- The shortfall is bought. -/
def buyShortfall (run : FundingRun) (current : Decimal) (state : RlusdFundingState) :
    FundingProg RlusdFundingState := do
  let needed ← .ofExcept ((Decimal.sub run.targetRlusd current).elim
    (.error (FundingExc.other ⟨.decimalException, "overflow"⟩)) .ok)
  .call (.quoteRlusdPath needed) fun quote => do
    let sendMax ← .ofExcept (quote.bind fun drops => computeSendMaxDrops drops run.slippageBps)
    .ofExcept (failIf (run.maxXrpDrops < sendMax) (FundingExc.spendLimitExceeded
      ("quoted SendMax " ++ toString sendMax ++ " drops exceeds --max-xrp cap " ++
        toString run.maxXrpDrops)))
    let amount ← .ofExcept (decimalText needed)
    .call (.assertSpendableXrp sendMax run.maxFeeDrops) fun spendable => do
      .ofExcept spendable
      let submitted ← submitJournaledTransaction env state
        ⟨.payment amount sendMax, "XRP-to-RLUSD conversion", run.maxFeeDrops, some needed⟩
      return submitted.2

/-- The fields of an `RLUSDFundingResult` that the run determines. -/
structure FundingResult where
  status : String
  xrpBalanceDrops : Int
  rlusdBalance : Decimal
  targetRlusd : Decimal
  transactionHashes : List String

/-- The final balance is checked. -/
def finishFunding (run : FundingRun) (starting : Decimal) (state : RlusdFundingState) :
    FundingProg FundingResult :=
  .call .trustlineBalance fun answer => do
    let final ← .ofExcept (foreign answer)
    let short ← .ofExcept (decimalLess final run.targetRlusd)
    .ofExcept (failIf (short = true)
      (FundingExc.funding "conversion validated but RLUSD balance is below target"))
    let more ← .ofExcept (decimalLess starting final)
    .call .xrpBalance fun answer => do
      let drops ← .ofExcept (foreign answer)
      return ⟨if more then "funded" else "ready", drops, final, run.targetRlusd,
        state.completedTransactionHashes⟩

/-- The trust line and the conversion, for a wallet below the target. -/
def fundShortfall (run : FundingRun) (starting : Decimal) (state : RlusdFundingState) :
    FundingProg FundingResult := do
  let state ← ensureTestnetXrp env (run.maxXrpDrops + xrpReserveAndFeeBufferDrops) state
  let state ← ensureRlusdTrustline env run state
  .call .trustlineBalance fun answer => do
    let current ← .ofExcept (foreign answer)
    let short ← .ofExcept (decimalLess current run.targetRlusd)
    if short then do
      let state ← buyShortfall env run current state
      finishFunding run starting state
    else finishFunding run starting state

/-- The checks of the arguments. -/
def checkFundingRun (run : FundingRun) : Except FundingExc Unit := do
  let positive ← decimalLess (.finite false 0 0) run.targetRlusd
  failIf (positive = false) (FundingExc.other (valueError "target RLUSD balance must be positive"))
  failIf (run.maxXrpDrops ≤ 0 ∨ run.maxFeeDrops ≤ 0)
    (FundingExc.other (valueError "XRP and fee caps must be positive"))
  let _ ← computeSendMaxDrops 1 run.slippageBps

/-- `fund_rlusd_wallet`, which the command runs under the file lock. -/
def fundRlusdWallet (run : FundingRun) : FundingProg FundingResult := do
  .ofExcept (checkFundingRun run)
  let loaded ← loadFundingState run.address rlusdTestnetIssuer
  let reconciled ← reconcilePendingTransaction env loaded
  .call .trustlineBalance fun answer => do
    let starting := answer.toOption.getD (.finite false 0 0)
    let short ← .ofExcept (decimalLess starting run.targetRlusd)
    if short then fundShortfall env run starting reconciled.2
    else
      .call .xrpBalance fun answer =>
        return ⟨"ready", answer.toOption.getD 0, starting, run.targetRlusd,
          reconciled.2.completedTransactionHashes⟩

end XrplX402.Devtools
