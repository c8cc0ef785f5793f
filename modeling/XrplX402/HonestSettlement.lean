import XrplX402.Facilitator.Outcome
import XrplX402.HonestPayments

/-! # An honest payment settles

    A payment that has not been sent before is reserved, submitted once and
    polled. The call ends with success exactly when one of its polls shows the
    payment on the ledger, and leaves the outcome open otherwise: it is never
    answered with a failure.

    * `SettleAnswers`: a free store and an honest node.
    * **`signed_payment_settles`**: what the call does and how it ends. -/

namespace XrplX402

open Py Interaction Prog Client Facilitator

variable {env : Env}

/-! ## Section 1: Answers -/

/-- The lookup shows the validated payment with the required amount. -/
def ShowsPayment (env : Env) (requirements : PaymentRequirements) (answer : Except Exc Json) : Prop :=
  ∃ d, (lookupOf answer).transaction = some d ∧ isValidated d = true ∧
    transactionResult env d = "tesSUCCESS" ∧ deliveredAmountError env d requirements = .ok none

/-- The lookup shows no validated transaction. -/
def ShowsNothing (answer : Except Exc Json) : Prop :=
  ∀ d, (lookupOf answer).transaction = some d → isValidated d = false

theorem ShowsNothing.not_payment {requirements : PaymentRequirements} {answer : Except Exc Json}
    (h : ShowsNothing answer) : ¬ ShowsPayment env requirements answer := by
  rintro ⟨d, hd, hvalidated, -⟩
  rw [h d hd] at hvalidated
  cases hvalidated

/-- What a call is answered whose transaction is new: the store is free, the node
    takes the blob, and until the payment is validated a lookup shows nothing. -/
def SettleAnswers (env : Env) (server : TicketServer env) (payer : String) (data : Dict)
    (requirements : PaymentRequirements) (read last : Int) :
    (o : Facilitator.Op) → Facilitator.Ret o → Prop
  | .get _, r => r = none
  | .reserve _ _, r => r = true
  | .rpc (.submitOnly _), r => ∃ result, r = .ok result
  | .rpc (.tx _ _ _), r => ShowsPayment env requirements r ∨ ShowsNothing r
  | o, r => NodeAnswers env server payer data read last o r

theorem node_of_settleAnswers {server : TicketServer env} {payer : String} {data : Dict}
    {requirements : PaymentRequirements} {read last : Int} (o : Facilitator.Op)
    (r : Facilitator.Ret o) (h : SettleAnswers env server payer data requirements read last o r) :
    NodeAnswers env server payer data read last o r := by
  cases o with
  | rpc q =>
    cases q with
    | submitOnly blob => trivial
    | tx id low high => trivial
    | _ => exact h
  | get id => trivial
  | reserve state ttl => trivial
  | _ => exact h

/-- The answer to a call whose payment was seen on the ledger. -/
def paidResponse (hash network payer amount : String) : SettleResponse :=
  ⟨true, none, none, some payer, hash, network, some amount, some [("status", .str "validated")], none⟩

/-- A poll in `t` has shown the payment. -/
def Seen (env : Env) (requirements : PaymentRequirements)
    (t : List (Event Facilitator.Op Facilitator.Ret)) : Prop :=
  ∃ id low high answer, (⟨.rpc (.tx id low high), answer⟩ :
    Event Facilitator.Op Facilitator.Ret) ∈ t ∧ ShowsPayment env requirements answer

/-- How a call ends after its submission. -/
def Settled (env : Env) (requirements : PaymentRequirements) (paid pending : SettleResponse)
    (t : List (Event Facilitator.Op Facilitator.Ret)) (r : Check SettleResponse) : Prop :=
  r = .ok paid ∧ Seen env requirements t ∨ r = .ok pending ∧ ¬ Seen env requirements t

/-! ## Section 2: Polling -/

section Polling

variable {server : TicketServer env} {payer : String} {data : Dict} {read last : Int}
  {requirements : PaymentRequirements} {state : XRPLSettlementState} {ttl : Int}

/-- The response for a record that polling has found paid. -/
def polledResponse (env : Env) (state : XRPLSettlementState) (requirements : PaymentRequirements) :
    SettleResponse :=
  stateResponse env (state.withResult .validated (amountResult requirements.amount))
    requirements.amount

/-- A poll that shows nothing is followed by the next one. -/
theorem waitForValidation_showsNothing (attempts : Nat) {answer : Except Exc Json}
    (hnothing : ShowsNothing answer) {k : Except Exc Json → Service SettleResponse}
    (hk : waitForValidation env state requirements ttl (attempts + 1) =
      .call (.rpc (.tx state.transaction state.firstLedgerSequence state.lastLedgerSequence)) k) :
    k answer = waitForValidation env state requirements ttl attempts := by
  cases hk
  cases hd : (lookupOf answer).transaction with
  | none => simp only [Prog.bind, hd]
  | some d =>
    have hfalse := hnothing d hd
    simp only [Prog.bind, hd]
    rw [if_neg (by rw [hfalse]; exact fun h => by cases h.1), if_neg (by rw [hfalse]; decide)]

theorem total_waitForValidation (attempts : Nat) :
    (waitForValidation env state requirements ttl attempts).Total
      (SettleAnswers env server payer data requirements read last)
      (fun r => r = .ok (polledResponse env state requirements) ∨
        r = .ok (pendingStateResponse state requirements.amount)) := by
  induction attempts with
  | zero => exact .inr rfl
  | succ attempts ih =>
    obtain ⟨k, hk⟩ : ∃ k, waitForValidation env state requirements ttl (attempts + 1) = .call (.rpc
        (.tx state.transaction state.firstLedgerSequence state.lastLedgerSequence)) k := ⟨_, rfl⟩
    rw [hk]
    intro answer hanswer
    rcases hanswer with ⟨d, hd, hvalidated, hcode, herror⟩ | hnothing
    · cases hk
      simp only [Prog.bind, hd]
      rw [if_pos ⟨hvalidated, hcode⟩, herror]
      intro _ _
      exact .inl rfl
    · rw [waitForValidation_showsNothing attempts hnothing hk]
      exact ih

/-- The result of polling, by what was seen. -/
theorem settled_waitForValidation (attempts : Nat)
    {t : List (Event Facilitator.Op Facilitator.Ret)} {r : Check SettleResponse}
    (h : (waitForValidation env state requirements ttl attempts).Path t r)
    (hanswers : ∀ e ∈ t, SettleAnswers env server payer data requirements read last e.op e.ans) :
    Settled env requirements (polledResponse env state requirements)
      (pendingStateResponse state requirements.amount) t r := by
  induction attempts generalizing t with
  | zero =>
    obtain ⟨rfl, rfl⟩ := h
    exact .inr ⟨rfl, fun ⟨_, _, _, _, hmem, _⟩ => by cases hmem⟩
  | succ attempts ih =>
    obtain ⟨k, hk⟩ : ∃ k, waitForValidation env state requirements ttl (attempts + 1) = .call (.rpc
        (.tx state.transaction state.firstLedgerSequence state.lastLedgerSequence)) k := ⟨_, rfl⟩
    rw [hk] at h
    obtain ⟨answer, t', rfl, hrest⟩ := h
    have hanswer := hanswers _ List.mem_cons_self
    have hlater : ∀ e ∈ t', SettleAnswers env server payer data requirements read last e.op e.ans :=
      fun e he => hanswers e (List.mem_cons_of_mem _ he)
    -- An answer that shows no payment adds nothing to what has been seen.
    have hagain : ShowsNothing answer →
        (waitForValidation env state requirements ttl attempts).Path t' r →
        Settled env requirements (polledResponse env state requirements)
          (pendingStateResponse state requirements.amount)
          (⟨.rpc (.tx state.transaction state.firstLedgerSequence state.lastLedgerSequence), answer⟩
            :: t') r := by
      intro hnothing hpath
      have hseen : Seen env requirements (⟨.rpc (.tx state.transaction state.firstLedgerSequence
          state.lastLedgerSequence), answer⟩ :: t') ↔ Seen env requirements t' := by
        constructor
        · rintro ⟨id, low, high, answer', hmem, hshows⟩
          rcases List.mem_cons.mp hmem with heq | hmem
          · cases heq
            exact absurd hshows hnothing.not_payment
          · exact ⟨id, low, high, answer', hmem, hshows⟩
        · rintro ⟨id, low, high, answer', hmem, hshows⟩
          exact ⟨id, low, high, answer', List.mem_cons_of_mem _ hmem, hshows⟩
      unfold Settled
      rw [hseen]
      exact ih hpath hlater
    rcases hanswer with hshows | hnothing
    · obtain ⟨d, hd, hvalidated, hcode, herror⟩ := hshows
      cases hk
      simp only [Prog.bind, hd] at hrest
      rw [if_pos ⟨hvalidated, hcode⟩, herror] at hrest
      obtain ⟨_, t'', rfl, rfl, rfl⟩ := hrest
      exact .inl ⟨rfl, _, _, _, _, List.mem_cons_self, d, hd, hvalidated, hcode, herror⟩
    · rw [waitForValidation_showsNothing attempts hnothing hk] at hrest
      exact hagain hnothing hrest

end Polling

/-! ## Section 3: Settlement -/

/-- The operation submits nothing. -/
def SubmitsNothing : Facilitator.Op → Prop
  | .rpc (.submitOnly _) => False
  | _ => True

theorem submitsNothing_of_isQuery {o : Facilitator.Op} (h : o.isQuery = true) : SubmitsNothing o := by
  cases o with
  | rpc q =>
    cases q with
    | submitOnly blob => cases h
    | _ => trivial
  | _ => trivial

theorem waitForValidation_submitsNothing {state : XRPLSettlementState}
    {requirements : PaymentRequirements} {ttl : Int} (attempts : Nat) :
    (waitForValidation env state requirements ttl attempts).Uses SubmitsNothing := by
  induction attempts with
  | zero => trivial
  | succ attempts ih =>
    refine ⟨trivial, fun answer => ?_⟩
    -- A verdict ends the polling, and storing it submits nothing.
    have hstore : ∀ (stored : XRPLSettlementState) (response : SettleResponse),
        (storeUpdate stored ttl >>= fun _ => .ret response : Service SettleResponse).Uses
          SubmitsNothing := fun _ _ => ⟨trivial, fun _ => trivial⟩
    cases hfound : (lookupOf answer).transaction with
    | none =>
      simp only [Prog.bind, hfound]
      exact ih
    | some response =>
      simp only [Prog.bind, hfound]
      split
      · refine (uses_ofExcept _).bind fun error => ?_
        cases error with
        | none => exact hstore _ _
        | some error => exact hstore _ _
      · split
        · exact hstore _ _
        · exact ih

section Settlement

variable {F : ExactXRPLFacilitatorScheme env} {requirements : PaymentRequirements}
  {extra : ExactXRPLExtra} {payload : PaymentPayload} {tx : Dict} {read last : Int}
  {blob hash : String}

/-- The record that is reserved for an honest payment. -/
def reservedState (env : Env) (payload : PaymentPayload) (requirements : PaymentRequirements)
    (hash : String) (tx : Dict) (firstLedger last : Int) : XRPLSettlementState :=
  pendingState env payload requirements hash (payerOf env tx) firstLedger last

theorem Prechecked.payloadHash (h : Prechecked F requirements extra payload tx read last blob) :
    ∃ hash, payloadHash env payload = .ok (blob, hash) := by
  obtain ⟨exact_, hpayload, hblob⟩ := h.exact_
  obtain ⟨hash, hhash⟩ := exists_signedTransactionHash h.canonical h.decoded
  refine ⟨hash, ?_⟩
  unfold Facilitator.payloadHash
  apply bind_eq_ok.mpr ⟨exact_, hpayload, ?_⟩
  rw [hblob]
  exact bind_eq_ok.mpr ⟨hash, hhash, rfl⟩

/-- The reservation of a verified payment. -/
theorem Prechecked.reserveAndSubmit_eq
    (h : Prechecked F requirements extra payload tx read last blob)
    (hlast : Dict.get? tx "LastLedgerSequence" = some (.int last)) :
    reserveAndSubmit F payload requirements blob hash =
      Facilitator.currentLedger env >>= fun firstLedger =>
        reservePending F blob hash (paymentFingerprint env payload requirements) (payerOf env tx)
          (reservedState env payload requirements hash tx firstLedger last) requirements := by
  unfold reserveAndSubmit
  rw [h.decoded]
  show (lift (subscript (.obj tx) "Account") >>= _) = _
  rw [subscript_obj h.account]
  show (lift (subscript (.obj tx) "LastLedgerSequence") >>= _) = _
  rw [subscript_obj hlast]
  rfl

/-- The call of a payment that is new. -/
theorem settle_eq (F : ExactXRPLFacilitatorScheme env) (pages : Nat)
    (requirements : PaymentRequirements)
    (hpays : Facilitator.payloadHash env payload = .ok (blob, hash)) :
    ∃ k, settle F pages payload requirements = .call (.get hash) k ∧
      k none = verify F pages payload requirements >>= fun verification =>
        if verification.isValid then reserveAndSubmit F payload requirements blob hash
        else .ret (refusedResponse verification requirements.network) := by
  unfold settle
  rw [hpays]
  exact ⟨_, rfl, rfl⟩

/-- The record is new and its window is open: the blob is submitted. -/
theorem reservePending_new (F : ExactXRPLFacilitatorScheme env) (payload : PaymentPayload)
    (requirements : PaymentRequirements) (tx : Dict) (blob hash fingerprint : String)
    {firstLedger : Int} (hopen : firstLedger < last) :
    ∃ k, reservePending F blob hash fingerprint (payerOf env tx)
        (reservedState env payload requirements hash tx firstLedger last) requirements =
          .call (.reserve (reservedState env payload requirements hash tx firstLedger last)
            (settlementTtl F requirements)) k ∧
      ∃ k', k true = .call (.rpc (.submitOnly blob)) k' ∧ ∀ result, k' (.ok result) =
        waitForValidation env (reservedState env payload requirements hash tx firstLedger last)
          requirements (settlementTtl F requirements) F.settings.validationTimeout.toNat := by
  have hwindow : ¬ (reservedState env payload requirements hash tx firstLedger last).lastLedgerSequence ≤
      (reservedState env payload requirements hash tx firstLedger last).firstLedgerSequence :=
    Int.not_le.mpr hopen
  refine ⟨_, rfl, ?_⟩
  show ∃ k', submitAndWait F blob hash _ _ requirements = .call (.rpc (.submitOnly blob)) k' ∧ _
  unfold submitAndWait
  rw [if_neg hwindow]
  exact ⟨_, rfl, fun _ => rfl⟩

/-- The answers to a call for the record; texts in a record are trimmed. -/
theorem responses_reserved (requirements : PaymentRequirements) (tx : Dict)
    (hpays : Facilitator.payloadHash env payload = .ok (blob, hash)) (firstLedger last : Int) :
    polledResponse env (reservedState env payload requirements hash tx firstLedger last) requirements =
        paidResponse hash (trim requirements.network) (trim (payerOf env tx)) requirements.amount ∧
      pendingStateResponse (reservedState env payload requirements hash tx firstLedger last)
          requirements.amount =
        pendingResponse hash (trim requirements.network) (trim (payerOf env tx))
          requirements.amount := by
  -- The hash has no blanks, so the transaction of the record is the hash itself.
  have hhash : trim hash = hash := by
    unfold Facilitator.payloadHash at hpays
    obtain ⟨exact_, -, hpays⟩ := bind_eq_ok.mp hpays
    obtain ⟨hash', hsigned, hpays⟩ := bind_eq_ok.mp hpays
    obtain rfl : hash' = hash := congrArg Prod.snd (Except.ok.inj hpays)
    exact (signedTransactionHash_canonical hsigned).1
  have htransaction : (reservedState env payload requirements hash tx firstLedger last).transaction =
      hash := hhash
  constructor
  · show SettleResponse.mk _ _ _ _ (reservedState env payload requirements hash tx firstLedger
      last).transaction _ _ _ _ = _
    rw [htransaction]
    rfl
  · show SettleResponse.mk _ _ _ _ (reservedState env payload requirements hash tx firstLedger
      last).transaction _ _ _ _ = _
    rw [htransaction]
    rfl

/-- The call ends with one of the two answers. -/
theorem Prechecked.settle_total {pages : Nat} {server : TicketServer env} {data : Dict}
    (h : Prechecked F requirements extra payload tx read last blob)
    (hpays : Facilitator.payloadHash env payload = .ok (blob, hash))
    (hlast : Dict.get? tx "LastLedgerSequence" = some (.int last))
    (hstanding : Standing env server pages data tx (signedMethod extra)) :
    (settle F pages payload requirements).Total
      (SettleAnswers env server (payerOf env tx) data requirements read last)
      (fun r => r = .ok (paidResponse hash (trim requirements.network) (trim (payerOf env tx))
          requirements.amount) ∨
        r = .ok (pendingResponse hash (trim requirements.network) (trim (payerOf env tx))
          requirements.amount)) := by
  obtain ⟨k, hsettle, hk⟩ := settle_eq F pages requirements hpays
  rw [hsettle]
  intro found hfound
  -- The hash is free.
  obtain rfl : found = none := hfound
  rw [hk]
  refine ((h.verify_total hstanding).answers node_of_settleAnswers).bind (fun verification hv => ?_)
    fun e he => by cases he
  obtain rfl := Except.ok.inj hv
  show Total _ _ (reserveAndSubmit F payload requirements blob hash)
  rw [h.reserveAndSubmit_eq hlast]
  refine (total_currentLedger.answers node_of_settleAnswers).bind (fun firstLedger hfirst => ?_)
    fun e he => by
      obtain ⟨_, he, -⟩ := he
      cases he
  obtain ⟨ledger, hledger, -, hopen⟩ := hfirst
  obtain rfl := Except.ok.inj hledger
  -- The reservation succeeds, and one submission follows it.
  obtain ⟨k₁, hreserve, k₂, hsubmit, hwait⟩ :=
    reservePending_new F payload requirements tx blob hash
      (paymentFingerprint env payload requirements) hopen
  rw [hreserve]
  intro reserved hreserved
  obtain rfl : reserved = true := hreserved
  rw [hsubmit]
  intro answer hanswer
  obtain ⟨result, rfl⟩ := hanswer
  obtain ⟨hpaid, hpending⟩ := responses_reserved requirements tx hpays firstLedger last
  rw [hwait, ← hpaid, ← hpending]
  exact total_waitForValidation _

/-- It submits the blob once, and what its polls show decides how it ends. -/
theorem Prechecked.settle_path {pages : Nat} {server : TicketServer env} {data : Dict}
    (h : Prechecked F requirements extra payload tx read last blob)
    (hpays : Facilitator.payloadHash env payload = .ok (blob, hash))
    (hlast : Dict.get? tx "LastLedgerSequence" = some (.int last))
    (hstanding : Standing env server pages data tx (signedMethod extra))
    {t : List (Event Facilitator.Op Facilitator.Ret)} {r : Check SettleResponse}
    (hpath : (settle F pages payload requirements).Path t r)
    (hanswers : ∀ e ∈ t, SettleAnswers env server (payerOf env tx) data requirements read last
      e.op e.ans) :
    ∃ before result polls, t = before ++ ⟨.rpc (.submitOnly blob), .ok result⟩ :: polls ∧
      (∀ e ∈ before ++ polls, SubmitsNothing e.op) ∧
      Settled env requirements (paidResponse hash (trim requirements.network) (trim (payerOf env tx))
          requirements.amount)
        (pendingResponse hash (trim requirements.network) (trim (payerOf env tx))
          requirements.amount) polls r := by
  obtain ⟨k, hsettle, hk⟩ := settle_eq F pages requirements hpays
  rw [hsettle] at hpath
  obtain ⟨found, t', rfl, hpath⟩ := hpath
  obtain rfl : found = none := hanswers _ List.mem_cons_self
  rw [hk] at hpath
  have hnode : ∀ e ∈ t', NodeAnswers env server (payerOf env tx) data read last e.op e.ans :=
    fun e he => node_of_settleAnswers _ _ (hanswers e (List.mem_cons_of_mem _ he))
  have hverify := h.verify_total hstanding
  -- The verification, which ends with the verdict.
  obtain ⟨t₁, t₂, rfl, hverified, hrest⟩ : ∃ t₁ t₂, t' = t₁ ++ t₂ ∧
      (verify F pages payload requirements).Path t₁ (.ok (honestVerdict env tx)) ∧
      (reserveAndSubmit F payload requirements blob hash).Path t₂ r := by
    rcases path_bind.mp hpath with ⟨t₁, t₂, verification, rfl, h₁, h₂⟩ | ⟨e, -, h₁⟩
    · have hv := hverify.of_path h₁ fun e he => hnode e (List.mem_append_left _ he)
      obtain rfl := Except.ok.inj hv
      exact ⟨t₁, t₂, rfl, h₁, h₂⟩
    · cases hverify.of_path h₁ hnode
  rw [h.reserveAndSubmit_eq hlast] at hrest
  -- The first ledger is inside the window.
  obtain ⟨t₃, t₄, firstLedger, rfl, hread, hopen, hreserved⟩ : ∃ t₃ t₄ firstLedger, t₂ = t₃ ++ t₄ ∧
      (Facilitator.currentLedger env).Path t₃ (.ok firstLedger) ∧ firstLedger < last ∧
      (reservePending F blob hash (paymentFingerprint env payload requirements) (payerOf env tx)
        (reservedState env payload requirements hash tx firstLedger last) requirements).Path t₄ r := by
    have hcurrent : (Facilitator.currentLedger env).Total
        (NodeAnswers env server (payerOf env tx) data read last) _ := total_currentLedger
    rcases path_bind.mp hrest with ⟨t₃, t₄, firstLedger, rfl, h₃, h₄⟩ | ⟨e, -, h₃⟩
    · obtain ⟨ledger, hledger, -, hopen⟩ := hcurrent.of_path h₃ fun e he =>
        hnode e (List.mem_append_right _ (List.mem_append_left _ he))
      obtain rfl := Except.ok.inj hledger
      exact ⟨t₃, t₄, firstLedger, rfl, h₃, hopen, h₄⟩
    · obtain ⟨_, he, -⟩ := hcurrent.of_path h₃ fun e he => hnode e (List.mem_append_right _ he)
      cases he
  obtain ⟨k₁, hreserve, k₂, hsubmit, hwait⟩ :=
    reservePending_new F payload requirements tx blob hash
      (paymentFingerprint env payload requirements) hopen
  rw [hreserve] at hreserved
  obtain ⟨reserved, t₅, rfl, hsubmitted⟩ := hreserved
  obtain rfl : reserved = true := hanswers ⟨.reserve _ _, reserved⟩ (by simp)
  rw [hsubmit] at hsubmitted
  obtain ⟨answer, polls, rfl, hpolls⟩ := hsubmitted
  obtain ⟨result, rfl⟩ : ∃ result, answer = .ok result :=
    hanswers ⟨.rpc (.submitOnly blob), answer⟩ (by simp)
  rw [hwait] at hpolls
  refine ⟨⟨.get hash, none⟩ :: (t₁ ++ (t₃ ++ [⟨.reserve (reservedState env payload requirements hash tx
    firstLedger last) (settlementTtl F requirements), true⟩])), result, polls, by simp, ?_, ?_⟩
  · intro e he
    simp only [List.cons_append, List.mem_cons, List.mem_append, List.not_mem_nil, or_false] at he
    rcases he with rfl | (he | he | rfl) | he
    · trivial
    · exact submitsNothing_of_isQuery ((onlyQueries_verify F pages payload requirements).of_path
        hverified e he)
    · exact submitsNothing_of_isQuery (onlyQueries_currentLedger.of_path hread e he)
    · trivial
    · exact (waitForValidation_submitsNothing _).of_path hpolls e he
  · obtain ⟨hpaid, hpending⟩ := responses_reserved requirements tx hpays firstLedger last
    rw [← hpaid, ← hpending]
    exact settled_waitForValidation _ hpolls fun e he => hanswers e (by simp [he])

end Settlement

/-- A payment that is sent for the first time is submitted exactly once. If a
    later poll shows it on the ledger, with the required amount, the call ends
    with success, and otherwise it leaves the outcome open; it ends in no other
    way, and does end. -/
theorem signed_payment_settles (hinj : Function.Injective env.sha256) (S : XRPLPaymentSigner)
    (F : ExactXRPLFacilitatorScheme env) (codec : CodecForms) (signerPages pages : Nat)
    (requirements : PaymentRequirements) (extra : ExactXRPLExtra) (t : List (Event SignOp SignRet))
    (payload : PaymentPayload) (tx : Dict) (read last : Int)
    (h : HonestPayment env S F codec signerPages requirements extra t payload tx read last)
    (server : TicketServer env) (data : Dict)
    (hstanding : Standing env server pages data tx (signedMethod extra)) :
    ∃ blob hash paid pending, payloadHash env payload = .ok (blob, hash) ∧
      paid = paidResponse hash (trim requirements.network) (trim (payerOf env tx))
          requirements.amount ∧
      pending = pendingResponse hash (trim requirements.network) (trim (payerOf env tx))
          requirements.amount ∧
      (settle F pages payload requirements).Total
        (SettleAnswers env server (payerOf env tx) data requirements read last)
        (fun r => r = .ok paid ∨ r = .ok pending) ∧
      ∀ trace r, (settle F pages payload requirements).Path trace r →
        (∀ e ∈ trace, SettleAnswers env server (payerOf env tx) data requirements read last
          e.op e.ans) →
        ∃ before result polls,
          trace = before ++ ⟨.rpc (.submitOnly blob), .ok result⟩ :: polls ∧
          (∀ e ∈ before ++ polls, SubmitsNothing e.op) ∧
          Settled env requirements paid pending polls r := by
  obtain ⟨blob, hprechecked⟩ := h.prechecked hinj
  obtain ⟨hash, hpays⟩ := hprechecked.payloadHash
  have hlast : Dict.get? tx "LastLedgerSequence" = some (.int last) :=
    get?_of_get h.lastLedger fun hnull => by cases hnull
  exact ⟨blob, hash, _, _, hpays, rfl, rfl, hprechecked.settle_total hpays hlast hstanding,
    fun _ _ hpath hanswers => hprechecked.settle_path hpays hlast hstanding hpath hanswers⟩

/-- The order settles. -/
theorem signed_payment_settles_order : ∃ blob hash paid pending,
    payloadHash Sample.signingEnv (Sample.offerPayload "invoiceId") = .ok (blob, hash) ∧
      paid = paidResponse hash (trim (Sample.offer "invoiceId").network) (trim "rPayer")
        (Sample.offer "invoiceId").amount ∧
      pending = pendingResponse hash (trim (Sample.offer "invoiceId").network) (trim "rPayer")
        (Sample.offer "invoiceId").amount ∧
      (settle Sample.facilitatorOf 1 (Sample.offerPayload "invoiceId") (Sample.offer "invoiceId")).Total
        (SettleAnswers Sample.signingEnv Sample.noTickets "rPayer" Sample.orderAccount
          (Sample.offer "invoiceId") 100 114) (fun r => r = .ok paid ∨ r = .ok pending) ∧
      ∀ trace r, (settle Sample.facilitatorOf 1 (Sample.offerPayload "invoiceId")
          (Sample.offer "invoiceId")).Path trace r →
        (∀ e ∈ trace, SettleAnswers Sample.signingEnv Sample.noTickets "rPayer" Sample.orderAccount
          (Sample.offer "invoiceId") 100 114 e.op e.ans) →
        ∃ before result polls,
          trace = before ++ ⟨.rpc (.submitOnly blob), .ok result⟩ :: polls ∧
          (∀ e ∈ before ++ polls, SubmitsNothing e.op) ∧
          Settled Sample.signingEnv (Sample.offer "invoiceId") paid pending polls r :=
    signed_payment_settles Sample.signingEnv_injective Sample.signer Sample.facilitatorOf
      Sample.plainCodec 1 1 (Sample.offer "invoiceId") Sample.offerExtra Sample.signing
      (Sample.offerPayload "invoiceId") Sample.orderTx 100 114 Sample.honest_order Sample.noTickets
      Sample.orderAccount Sample.standing_order

end XrplX402
