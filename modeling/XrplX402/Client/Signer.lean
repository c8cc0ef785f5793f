import XrplX402.Client.Tickets
import XrplX402.Core.Helpers

/-! # The payment signer

    `XRPLPaymentSigner.sign_requirements` turns payment requirements into a
    signed transaction. What it asks of the ledger node, of the caller's own
    callbacks and of `autofill` are operations; the models and the signature of
    the ledger library are parameters.

    * `payment`: the transaction that is handed to `autofill`.
    * `validatePrepared`: what must hold of the transaction that comes back.
    * `signRequirements`: the whole of it.
    * `SignedFrom`: what a returned blob was signed from. -/

namespace XrplX402.Client

open Py Interaction

/-! ## Section 1: Transactions -/

structure IssuedCurrencyAmount where
  currency : String
  issuer : String
  value : String
  deriving DecidableEq

inductive PaymentAmount where
  | drops (value : String)
  | issued (amount : IssuedCurrencyAmount)
  deriving DecidableEq

/-- The fields of a `Payment` that the signer and `autofill` set. -/
structure Payment where
  account : String
  destination : String
  amount : PaymentAmount
  sendMax : Option IssuedCurrencyAmount
  invoiceId : Option String
  destinationTag : Option Int
  networkId : Option Int
  lastLedgerSequence : Option Int
  sequence : Option Int
  ticketSequence : Option Int
  fee : Option String
  deriving DecidableEq

/-- The ledger library: what its constructors raise, and its signatures. -/
structure XrplLibrary where
  issuedCurrencyAmount : IssuedCurrencyAmount → Except Exc Unit
  payment : Payment → Except Exc Unit
  /-- `sign(payment, self.wallet).blob()` -/
  sign : Payment → Except Exc String

/-! ## Section 2: Operations -/

inductive SignOp where
  /-- The caller's `get_current_ledger_index(network)`. -/
  | currentLedgerIndex (network : String)
  /-- `Ledger(ledger_index="validated")` -/
  | ledger
  /-- The caller's `get_available_ticket_sequence(account, network)`. -/
  | availableTicketSequence (account network : String)
  /-- The listing and the creation of tickets. -/
  | node (o : Op)
  | autofill (payment : Payment)
  deriving DecidableEq

abbrev SignRet : SignOp → Type
  | .currentLedgerIndex _ => Except Exc Int
  | .ledger => Except Exc Json
  | .availableTicketSequence _ _ => Except Exc (Option Int)
  | .node o => Ret o
  | .autofill _ => Except Exc Payment

abbrev SigningProg (α : Type) := Prog SignOp SignRet Exc α

/-- The ticket operations of a signature. -/
def onNode {α : Type} : SignerProg α → SigningProg α
  | .ret a => .ret a
  | .raise e => .raise e
  | .spin => .spin
  | .call o k => .call (.node o) fun r => onNode (k r)

/-! ## Section 3: Signing -/

structure XRPLPaymentSigner where
  library : XrplLibrary
  /-- `wallet.classic_address` -/
  classicAddress : String
  network : Option String
  autofillEnabled : Bool
  defaultFee : String
  defaultSequence : Int
  defaultLastLedgerSequence : Option Int
  tickets : TicketSettings
  /-- `get_current_ledger_index` is given. -/
  ownLedgerIndex : Bool
  /-- `get_available_ticket_sequence` is given. -/
  ownTickets : Bool

variable (env : Env) (S : XRPLPaymentSigner)

/-- `int(response.result["ledger_index"])` -/
def validatedIndex (answer : Except Exc Json) : Except Exc Int := do
  let result ← answer
  let index ← subscript result "ledger_index"
  toInt env.unicode index

def currentLedger (network : String) : SigningProg (Option Int) :=
  if S.ownLedgerIndex = true then
    .call (.currentLedgerIndex network) fun answer => .ofExcept (answer.map some)
  else if S.autofillEnabled = false then .ret none
  else .call .ledger fun answer => .ofExcept ((validatedIndex env answer).map some)

/-- The smallest of these tickets and of those created to fill the inventory. -/
def ticketAmong (tickets : List Int) : SignerProg Int := do
  let created ← createdTickets env S.classicAddress (S.tickets.inventoryTarget - tickets.length)
  .ofExcept (smallestTicket S.tickets (tickets ++ created))

def paymentTicket (pages : Nat) (network : String) : SigningProg Int :=
  if S.ownTickets = true then
    .call (.availableTicketSequence S.classicAddress network) fun answer => do
      let ticket ← .ofExcept answer
      match ticket with
      | some ticket => return ticket
      | none => onNode (ticketAmong env S [])
  else onNode (availableTicket env S.tickets pages S.classicAddress)

/-- `last_ledger_sequence`, given the current ledger. -/
def lastLedgerSequence (requirements : PaymentRequirements) (currentLedger : Option Int) :
    Except Exc (Option Int) :=
  match currentLedger with
  | some ledger => (getMaxLastLedgerSequence ledger requirements).map some
  | none => .ok S.defaultLastLedgerSequence

/-- `amount` and `send_max` -/
def amounts (requirements : PaymentRequirements) (extra : ExactXRPLExtra) :
    Except Exc (PaymentAmount × Option IssuedCurrencyAmount) :=
  if requirements.asset ≠ "XRP" then do
    let currency ← xrplCurrencyCode env requirements.asset
    let issued : IssuedCurrencyAmount := ⟨currency, extra.issuer.getD "", requirements.amount⟩
    S.library.issuedCurrencyAmount issued
    return (.issued issued, some issued)
  else .ok (.drops requirements.amount, none)

def invoiceField (extra : ExactXRPLExtra) : Except Exc (Option String) :=
  match extra.invoiceId with
  | some invoiceId => (invoiceIdToInvoiceIdField env invoiceId).map some
  | none => .ok none

/-- `Payment(**payment_kwargs)`; a payment with a ticket has sequence zero. -/
def payment (requirements : PaymentRequirements) (extra : ExactXRPLExtra) (networkId : Int)
    (last : Option Int) (amount : PaymentAmount) (sendMax : Option IssuedCurrencyAmount)
    (invoice : Option String) (ticket : Option Int) : Payment where
  account := S.classicAddress
  destination := requirements.payTo
  amount := amount
  sendMax := sendMax
  invoiceId := invoice
  destinationTag := extra.destinationTag
  networkId := if 1024 < networkId then some networkId else none
  lastLedgerSequence := last
  sequence := if ticket.isSome then some 0
    else if S.autofillEnabled = false then some S.defaultSequence else none
  ticketSequence := ticket
  fee := if S.autofillEnabled = false then some S.defaultFee else none

def validatePrepared (payment : Payment) (method : String) (networkId : Int) : Except Exc Unit := do
  failIf (payment.fee.any env.unicode.isDigitStr = false)
    (valueError "Prepared payment must set Fee in drops")
  failIf (payment.lastLedgerSequence = none)
    (valueError "Prepared payment must set LastLedgerSequence")
  if method = "sequence" then do
    failIf (payment.ticketSequence ≠ none)
      (valueError "sequence payments must not set TicketSequence")
    failIf (payment.sequence = none ∨ payment.sequence = some 0)
      (valueError "sequence payments must set the account Sequence")
  else
    failIf (payment.sequence ≠ some 0 ∨ payment.ticketSequence = none)
      (valueError "ticketSequence payments require Sequence 0 and TicketSequence")
  failIf (networkId ≤ 1024 ∧ payment.networkId ≠ none)
    (valueError "Standard XRPL networks must omit NetworkID")
  failIf (1024 < networkId ∧ payment.networkId ≠ some networkId)
    (valueError "Custom XRPL networks must set the matching NetworkID")

/-- `extra.asset_transfer_method or "sequence"` -/
def signedMethod (extra : ExactXRPLExtra) : String :=
  (extra.assetTransferMethod.filter (· ≠ "")).getD "sequence"

def optionalTicket (pages : Nat) (method network : String) : SigningProg (Option Int) :=
  if method = "ticketSequence" then do
    let ticket ← paymentTicket env S pages network
    return some ticket
  else .ret none

def filled (payment : Payment) : SigningProg Payment :=
  if S.autofillEnabled = true then .call (.autofill payment) Prog.ofExcept else .ret payment

/-- The typed view of `extra`, and the number of the network. -/
def checkedRequest (requirements : PaymentRequirements) : Except Exc (ExactXRPLExtra × Int) := do
  let extra ← validateRequirementsShape env requirements
  failIf (S.network.any (· ≠ requirements.network) = true)
    (valueError ("Payment requirements network " ++ requirements.network ++
      " does not match signer network " ++ S.network.getD ""))
  let networkId ← parseXrplNetworkId env requirements.network
  return (extra, networkId)

/-- `sign_requirements(requirements)` -/
def signRequirements (pages : Nat) (requirements : PaymentRequirements) : SigningProg String := do
  let (extra, networkId) ← .ofExcept (checkedRequest env S requirements)
  let current ← currentLedger env S requirements.network
  let last ← .ofExcept (lastLedgerSequence S requirements current)
  let (amount, sendMax) ← .ofExcept (amounts env S requirements extra)
  let invoice ← .ofExcept (invoiceField env extra)
  let ticket ← optionalTicket env S pages (signedMethod extra) requirements.network
  let unsigned := payment S requirements extra networkId last amount sendMax invoice ticket
  .ofExcept (S.library.payment unsigned)
  let prepared ← filled S unsigned
  .ofExcept (validatePrepared env prepared (signedMethod extra) networkId)
  let blob ← .ofExcept (S.library.sign prepared)
  return env.unicode.upperStr blob

/-- `build_x402_payload(requirements)` -/
def buildX402Payload (pages : Nat) (requirements : PaymentRequirements) : SigningProg Dict := do
  let blob ← signRequirements env S pages requirements
  let payload ← .ofExcept (ExactXRPLPayload.modelValidate env [("signedTxBlob", .str blob)])
  return [("signedTxBlob", .str payload.signedTxBlob)]

/-! ## Section 4: What a blob was signed from -/

variable {env S}

/-- The ledger index that an operation has read, if it reads one. -/
def ledgerRead (env : Env) (e : Event SignOp SignRet) : Option Int :=
  match e with
  | ⟨.currentLedgerIndex _, answer⟩ => answer.toOption
  | ⟨.ledger, answer⟩ => (validatedIndex env answer).toOption
  | _ => none

def SignOp.readsNoLedger : SignOp → Prop
  | .currentLedgerIndex _ => False
  | .ledger => False
  | _ => True

theorem ledgerRead_of_readsNoLedger {e : Event SignOp SignRet} (h : e.op.readsNoLedger) :
    ledgerRead env e = none := by
  obtain ⟨o, a⟩ := e
  cases o with
  | currentLedgerIndex network => exact h.elim
  | ledger => exact h.elim
  | _ => rfl

theorem uses_onNode {α : Type} (p : SignerProg α) : Prog.Uses SignOp.readsNoLedger (onNode p) := by
  induction p with
  | ret a => trivial
  | raise e => trivial
  | spin => trivial
  | call o k ih => exact ⟨trivial, ih⟩

theorem uses_optionalTicket (pages : Nat) (method network : String) :
    Prog.Uses SignOp.readsNoLedger (optionalTicket env S pages method network) := by
  unfold optionalTicket
  split
  · apply Prog.Uses.bind
    · unfold paymentTicket
      split
      · refine ⟨trivial, fun answer => ?_⟩
        apply (Prog.uses_ofExcept _).bind
        intro ticket
        cases ticket with
        | none => exact uses_onNode _
        | some ticket => trivial
      · exact uses_onNode _
    · exact fun ticket => trivial
  · trivial

theorem uses_filled (payment : Payment) : Prog.Uses SignOp.readsNoLedger (filled S payment) := by
  unfold filled
  split
  · exact ⟨trivial, fun answer => Prog.uses_ofExcept answer⟩
  · trivial

theorem ledgerRead_of_currentLedger {network : String} {t : List (Event SignOp SignRet)}
    {current : Option Int} (h : Prog.Path (currentLedger env S network) t (.ok current)) :
    ∀ e ∈ t, ∀ ledger, ledgerRead env e = some ledger → current = some ledger := by
  unfold currentLedger at h
  split at h
  · obtain ⟨answer, t', rfl, h⟩ := h
    obtain ⟨rfl, hanswer⟩ := Prog.path_ofExcept.mp h
    intro e he ledger hledger
    obtain rfl := List.mem_singleton.mp he
    cases answer with
    | error e => cases hanswer
    | ok n =>
      obtain rfl := Option.some.inj hledger
      exact Except.ok.inj hanswer
  · split at h
    · obtain ⟨rfl, -⟩ := h
      intro e he
      cases he
    · obtain ⟨answer, t', rfl, h⟩ := h
      obtain ⟨rfl, hanswer⟩ := Prog.path_ofExcept.mp h
      intro e he ledger hledger
      obtain rfl := List.mem_singleton.mp he
      have hread : (validatedIndex env answer).toOption = some ledger := hledger
      cases hindex : validatedIndex env answer with
      | error e =>
        rw [hindex] at hread
        cases hread
      | ok n =>
        rw [hindex] at hread hanswer
        obtain rfl := Option.some.inj hread
        exact Except.ok.inj hanswer

theorem filled_eq {unsigned prepared : Payment} {t : List (Event SignOp SignRet)}
    (h : Prog.Path (filled S unsigned) t (.ok prepared)) :
    prepared = unsigned ∨ (⟨.autofill unsigned, .ok prepared⟩ : Event SignOp SignRet) ∈ t := by
  unfold filled at h
  split at h
  · obtain ⟨answer, t', rfl, h⟩ := h
    obtain ⟨rfl, rfl⟩ := Prog.path_ofExcept.mp h
    exact .inr (List.mem_singleton.mpr rfl)
  · exact .inl (Except.ok.inj h.2)

/-- The payment that is handed to `autofill`, and what its fields were computed
    from. -/
structure Unsigned (env : Env) (S : XRPLPaymentSigner) (requirements : PaymentRequirements)
    (extra : ExactXRPLExtra) (networkId : Int) (t : List (Event SignOp SignRet))
    (unsigned : Payment) : Prop where
  fields : ∃ last amount sendMax invoice ticket, amounts env S requirements extra = .ok (amount, sendMax) ∧
    invoiceField env extra = .ok invoice ∧
    unsigned = payment S requirements extra networkId last amount sendMax invoice ticket
  /-- `LastLedgerSequence` counts from the ledger that was read. -/
  window : ∀ e ∈ t, ∀ ledger, ledgerRead env e = some ledger →
    ∃ last, getMaxLastLedgerSequence ledger requirements = .ok last ∧
      unsigned.lastLedgerSequence = some last

/-- A blob, the payment it is the signature of, and the one that was filled in. -/
structure SignedFrom (env : Env) (S : XRPLPaymentSigner) (requirements : PaymentRequirements)
    (t : List (Event SignOp SignRet)) (blob : String) (extra : ExactXRPLExtra) (networkId : Int)
    (unsigned prepared : Payment) : Prop where
  shape : validateRequirementsShape env requirements = .ok extra
  network : parseXrplNetworkId env requirements.network = .ok networkId
  origin : Unsigned env S requirements extra networkId t unsigned
  filling : prepared = unsigned ∨ (⟨.autofill unsigned, .ok prepared⟩ : Event SignOp SignRet) ∈ t
  valid : validatePrepared env prepared (signedMethod extra) networkId = .ok ()
  signed : ∃ raw, S.library.sign prepared = .ok raw ∧ blob = env.unicode.upperStr raw

theorem checkedRequest_eq_ok {requirements : PaymentRequirements} {extra : ExactXRPLExtra}
    {networkId : Int} (h : checkedRequest env S requirements = .ok (extra, networkId)) :
    validateRequirementsShape env requirements = .ok extra ∧
      parseXrplNetworkId env requirements.network = .ok networkId := by
  unfold checkedRequest at h
  obtain ⟨extra', hextra, h⟩ := bind_eq_ok.mp h
  obtain ⟨_, h⟩ := failIf_bind_eq_ok.mp h
  obtain ⟨networkId', hnetwork, h⟩ := bind_eq_ok.mp h
  obtain ⟨rfl, rfl⟩ := Prod.mk.inj (Except.ok.inj h)
  exact ⟨hextra, hnetwork⟩

theorem signedFrom_of_path {pages : Nat} {requirements : PaymentRequirements}
    {t : List (Event SignOp SignRet)} {blob : String}
    (h : Prog.Path (signRequirements env S pages requirements) t (.ok blob)) :
    ∃ extra networkId unsigned prepared,
      SignedFrom env S requirements t blob extra networkId unsigned prepared := by
  unfold signRequirements at h
  obtain ⟨⟨extra, networkId⟩, hrequest, h⟩ := Prog.path_ofExcept_bind_ok.mp h
  obtain ⟨hextra, hnetwork⟩ := checkedRequest_eq_ok hrequest
  obtain ⟨t₁, t₂, current, rfl, hcurrent, h⟩ := Prog.path_bind_ok.mp h
  obtain ⟨last, hlast, h⟩ := Prog.path_ofExcept_bind_ok.mp h
  obtain ⟨⟨amount, sendMax⟩, hamounts, h⟩ := Prog.path_ofExcept_bind_ok.mp h
  obtain ⟨invoice, hinvoice, h⟩ := Prog.path_ofExcept_bind_ok.mp h
  obtain ⟨t₃, t₄, ticket, rfl, hticket, h⟩ := Prog.path_bind_ok.mp h
  obtain ⟨_, _, h⟩ := Prog.path_ofExcept_bind_ok.mp h
  obtain ⟨t₅, t₆, prepared, rfl, hprepared, h⟩ := Prog.path_bind_ok.mp h
  obtain ⟨_, hvalid, h⟩ := Prog.path_ofExcept_bind_ok.mp h
  obtain ⟨raw, hraw, h⟩ := Prog.path_ofExcept_bind_ok.mp h
  obtain ⟨ht₆, hblob⟩ := Prog.path_ret.mp h
  refine ⟨extra, networkId, payment S requirements extra networkId last amount sendMax invoice
    ticket, prepared, hextra, hnetwork, ⟨⟨last, amount, sendMax, invoice, ticket, hamounts,
      hinvoice, rfl⟩, ?_⟩, ?_, hvalid, raw, hraw, Except.ok.inj hblob⟩
  · -- The ledger is read in the first part only.
    intro e he ledger hledger
    have hcurrent' : current = some ledger := by
      rcases List.mem_append.mp he with he | he
      · exact ledgerRead_of_currentLedger hcurrent e he ledger hledger
      · exfalso
        have hnone : ledgerRead env e = none := by
          apply ledgerRead_of_readsNoLedger
          rcases List.mem_append.mp he with he | he
          · exact (uses_optionalTicket _ _ _).of_path hticket e he
          · rw [ht₆, List.append_nil] at he
            exact (uses_filled _).of_path hprepared e he
        rw [hnone] at hledger
        cases hledger
    rw [hcurrent'] at hlast
    unfold lastLedgerSequence at hlast
    dsimp only at hlast
    cases hmax : getMaxLastLedgerSequence ledger requirements with
    | error e =>
      rw [hmax] at hlast
      cases hlast
    | ok n =>
      rw [hmax] at hlast
      exact ⟨n, rfl, (Except.ok.inj hlast).symm⟩
  · rcases filled_eq hprepared with heq | hmem
    · exact .inl heq
    · refine .inr ?_
      rw [List.mem_append, List.mem_append, List.mem_append]
      exact .inr (.inr (.inl hmem))

end XrplX402.Client
