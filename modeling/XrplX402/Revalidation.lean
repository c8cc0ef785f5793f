import XrplX402.Facilitator.Resolution
import XrplX402.Facilitator.Verdicts
import XrplX402.Tickets

/-! # Requests for a validated payment

    A payment that was answered as pending is validated later. The same payload
    then comes back: its sequence or its ticket has been used by the payment
    itself, and the store still has the record.

    * `Inclusion`: the payment on the ledger, and what lookups tell of it.
    * `RetryAnswers`: the store and the node, after the validation.
    * Verification is refused, with a reason that depends on the ledger and on the
      account; settlement succeeds exactly when its window is one that finds the
      payment. -/

namespace XrplX402

open Py Interaction Prog Facilitator

variable {env : Env} {requirements : PaymentRequirements}

/-! ## Section 1: The payment on the ledger -/

/-- The ledger that contains the transaction, and how a lookup shows it: it has
    succeeded and delivered what the requirements ask for. -/
structure Inclusion (env : Env) (requirements : PaymentRequirements) where
  transaction : String
  ledger : Int
  shown : Dict
  isTransaction : IsTransaction env shown
  succeeded : transactionResult env shown = "tesSUCCESS"
  delivered : deliveredAmountError env shown requirements = .ok none

namespace Inclusion

variable (I : Inclusion env requirements)

/-- The node searches the range, and the payment is in it. -/
structure Searched (minLedger maxLedger : Int) : Prop where
  size : ¬ OutOfRange minLedger maxLedger
  low : minLedger ≤ I.ledger
  high : I.ledger ≤ maxLedger

/-- An answer to a lookup of the payment that is not wrong, at whatever time. -/
structure Tells (minLedger maxLedger : Int) (answer : Except Exc Json) : Prop where
  shown : ∀ d, (lookupOf answer).transaction = some d → isValidated d = true →
    I.Searched minLedger maxLedger ∧ metaOf d = metaOf I.shown
  absent : (lookupOf answer).authoritativeAbsence = true →
    ¬ (minLedger ≤ I.ledger ∧ I.ledger ≤ maxLedger)

/-- The answer once the payment has been validated. -/
structure Finds (minLedger maxLedger : Int) (answer : Except Exc Json) : Prop where
  tells : I.Tells minLedger maxLedger answer
  found : I.Searched minLedger maxLedger → ∃ d, answer = .ok (.obj d) ∧ IsTransaction env d

def Answers : (o : Op) → Ret o → Prop
  | .rpc (.tx transaction minLedger maxLedger), answer =>
    transaction = I.transaction → I.Tells minLedger maxLedger answer
  | _, _ => True

def Allows {ι : Type} (_ : SharedState ι) (e : Entry ι Op Ret) : Prop := I.Answers e.op e.ans

variable {I}

theorem Tells.showsPayment {minLedger maxLedger : Int} {answer : Except Exc Json}
    (h : I.Tells minLedger maxLedger answer) {d : Dict} (hd : (lookupOf answer).transaction = some d)
    (hvalidated : isValidated d = true) :
    I.Searched minLedger maxLedger ∧ Facilitator.ShowsPayment env d requirements := by
  obtain ⟨hsearched, hmeta⟩ := h.shown d hd hvalidated
  obtain ⟨hresult, herror⟩ := outcome_of_metaOf env hmeta requirements
  exact ⟨hsearched, hvalidated, hresult.trans I.succeeded, herror.trans I.delivered⟩

/-! ## Section 2: Records of the payment -/

section Runs

variable {ι : Type} [DecidableEq ι] {calls : ι → Call env} {c : SettleConfig ι}

theorem tells_of_lookedUp (h : Run (settleSystem env calls) I.Allows (Config.init Stores.empty) c)
    {i : ι} {st : XRPLSettlementState} {answer : Except Exc Json}
    (htransaction : st.transaction = I.transaction) (hlookup : LookedUp c.state.log i st answer) :
    I.Tells st.firstLedgerSequence st.lastLedgerSequence answer := by
  have hevery := h.every_entry (P := fun e _ => I.Answers e.op e.ans) fun _ _ hallowed => hallowed
  obtain ⟨_, _, _, hanswers⟩ := hevery.of_mem hlookup
  exact hanswers htransaction

/-- A verdict on the payment is a success exactly when its window finds the
    payment. -/
theorem verdict_of_inclusion (hinj : Function.Injective env.sha256)
    (h : Run (settleSystem env calls) I.Allows (Config.init Stores.empty) c) {i : ι}
    (hrequirements : (calls i).requirements = requirements) {st : XRPLSettlementState}
    (hwrote : Wrote c.state.log st) (htransaction : st.transaction = I.transaction)
    (hfingerprint : st.paymentFingerprint = (calls i).fingerprint) (hst : st.status ≠ .pending) :
    st.status = .validated ↔ I.Searched st.firstLedgerSequence st.lastLedgerSequence := by
  have hinv := settle_invariant h
  -- A reservation is pending, so the record comes from an update.
  obtain ⟨j, hr | hu⟩ := hwrote
  · obtain ⟨_, _, _, _, hp⟩ := hinv.reserve_promise hr
    exact absurd hp.status hst
  have hp := hinv.update_promise hu
  have hsame : SameRequirements requirements (calls j).requirements := by
    have hequal : (calls i).fingerprint = (calls j).fingerprint :=
      hfingerprint.symm.trans hp.fingerprint
    rw [← hrequirements]
    exact (request_eq_of_fingerprint hinj hequal).1
  -- What the update was made from decides its status.
  cases hp.evidence with
  | payment d found shows_ status =>
    obtain ⟨answer, hlookup, hd⟩ := found
    have htells := tells_of_lookedUp h htransaction hlookup
    exact iff_of_true status (htells.showsPayment hd shows_.validated).1
  | failure d found shows_ status =>
    obtain ⟨answer, hlookup, hd⟩ := found
    have htells := tells_of_lookedUp h htransaction hlookup
    have hpayment := (htells.showsPayment hd shows_.validated).2.congr hsame
    -- The transaction that the node shows cannot be one that failed.
    rcases shows_.failed with hcode | ⟨e, he⟩
    · exact absurd hpayment.succeeded hcode
    · rw [hpayment.delivered] at he
      cases he
  -- An expiry rests on a search of the whole window without the transaction.
  | expiry answer lookedUp absent status =>
    have htells := tells_of_lookedUp h htransaction lookedUp
    refine iff_of_false (by rw [status]; decide) fun hsearched => ?_
    exact htells.absent absent ⟨hsearched.low, hsearched.high⟩

end Runs

/-! ## Section 3: Settlement -/

/-- The answers to a retry, when the ledger `now` is validated and `data` is the
    account of the payer. The store may have moved on. -/
def RetryAnswers {ι : Type} [DecidableEq ι] (I : Inclusion env requirements) (calls : ι → Call env)
    (c : SettleConfig ι) (server : TicketServer env) (payer : String) (data : Dict) (now : Int) :
    (o : Op) → Ret o → Prop
  | .get id, found => ∃ c', Run (settleSystem env calls) I.Allows c c' ∧
      found = c'.state.shared.settlements (storeKey env id)
  | .rpc (.tx transaction minLedger maxLedger), answer =>
    transaction = I.transaction → I.Finds minLedger maxLedger answer
  | .rpc .ledger, answer => ledgerIndex env answer = .ok now
  | .rpc (.accountInfo account), answer => account = payer →
      ∃ result, answer = .ok result ∧ getAttr result "account_data" = .ok (.obj data)
  | .rpc (.accountObjects _ marker), answer => answer = .ok (server.answer marker)
  | _, _ => True

section Settlement

variable {ι : Type} [DecidableEq ι] {calls : ι → Call env} {c : SettleConfig ι}
variable {server : TicketServer env} {payer : String} {data : Dict} {now : Int}

/-- An answer about the transaction, a success exactly when the window finds the
    payment. -/
structure Resolves (I : Inclusion env requirements) (minLedger maxLedger : Int)
    (s : SettleResponse) : Prop where
  transaction : s.transaction = I.transaction
  success : s.success = true ↔ I.Searched minLedger maxLedger

def Resolved (I : Inclusion env requirements) (minLedger maxLedger : Int)
    (x : Check SettleResponse) : Prop := ∃ s, x = .ok s ∧ I.Resolves minLedger maxLedger s

theorem success_stateResponse (st : XRPLSettlementState) (amount : String) :
    (stateResponse env st amount).success = true ↔ st.status = .validated := by
  unfold stateResponse
  split
  · next h => simp [h]
  · next h => simp [h]

theorem transaction_stateResponse (st : XRPLSettlementState) (amount : String) :
    (stateResponse env st amount).transaction = st.transaction := by
  unfold stateResponse
  split
  · rfl
  · rfl

theorem resolved_stateResponse {st : XRPLSettlementState} {amount : String}
    {minLedger maxLedger : Int} (htransaction : st.transaction = I.transaction)
    (hst : st.status = .validated ↔ I.Searched minLedger maxLedger) :
    Resolved I minLedger maxLedger (.ok (stateResponse env st amount)) :=
  ⟨_, rfl, (transaction_stateResponse st amount).trans htransaction,
    (success_stateResponse st amount).trans hst⟩

/-- A pending record is reconciled with the ledger that contains the payment. -/
theorem total_reconcile_after {rec : XRPLSettlementState} {ttl : Int} (hst : rec.status = .pending)
    (htransaction : rec.transaction = I.transaction) :
    Total (RetryAnswers I calls c server payer data now)
      (Resolved I rec.firstLedgerSequence rec.lastLedgerSequence)
      (reconcile env rec requirements ttl) := by
  unfold reconcile
  rw [if_neg (not_not.mpr hst)]
  intro answer hanswer
  obtain ⟨htells, hfound⟩ := hanswer htransaction
  cases hd : (lookupOf answer).transaction.filter isValidated with
  | some d =>
    obtain ⟨hshown, hvalidated⟩ := Option.filter_eq_some_iff.mp hd
    obtain ⟨hsearched, hpayment⟩ := htells.showsPayment hshown hvalidated
    have herror : reconcileDeliveredError env (transactionResult env d) d requirements = .ok none := by
      unfold reconcileDeliveredError
      rw [if_pos hpayment.succeeded]
      exact hpayment.delivered
    simp only [Prog.bind, hd]
    rw [herror]
    intro _ _
    refine resolved_stateResponse htransaction (iff_of_true ?_ hsearched)
    unfold reconcileVerdict
    simp [hpayment.succeeded]
  | none =>
    -- A search of its ledger would have shown the payment.
    have hmissed : ¬ I.Searched rec.firstLedgerSequence rec.lastLedgerSequence := by
      intro hsearched
      obtain ⟨d, rfl, htransaction⟩ := hfound hsearched
      rw [lookupOf_transaction htransaction, Option.filter_some, if_pos htransaction.validated] at hd
      cases hd
    simp only [Prog.bind, hd]
    split
    · unfold reconcileAbsence
      rw [currentLedgerOrNone_eq]
      intro ledger _
      show Total _ _ (if _ then _ else _ : Service SettleResponse)
      split
      · intro _ _
        exact resolved_stateResponse htransaction (iff_of_false (fun h => by cases h) hmissed)
      · exact ⟨_, rfl, htransaction, iff_of_false (fun h => by cases h) hmissed⟩
    · exact ⟨_, rfl, htransaction, iff_of_false (fun h => by cases h) hmissed⟩

/-- A call that comes later finds the record. -/
theorem total_settle_after (hinj : Function.Injective env.sha256)
    (h : Run (settleSystem env calls) I.Allows (Config.init Stores.empty) c) {i : ι} (pages : Nat)
    (hrequirements : (calls i).requirements = requirements) {st : XRPLSettlementState}
    (hwrote : Wrote c.state.log st) (hhash : (calls i).HasHash I.transaction)
    (htransaction : st.transaction = I.transaction)
    (hfingerprint : st.paymentFingerprint = (calls i).fingerprint) :
    Total (RetryAnswers I calls c server payer data now)
      (Resolved I st.firstLedgerSequence st.lastLedgerSequence)
      (settle (calls i).facilitator pages (calls i).payload requirements) := by
  obtain ⟨blob, hpays⟩ := hhash
  obtain ⟨k, hsettle, hk⟩ := settle_eq_get (calls i).facilitator pages requirements hpays
  rw [hsettle]
  -- The record is found, in whatever state other calls have brought it.
  intro found hfound
  obtain ⟨c', hlater, rfl⟩ := hfound
  have hinv' := settle_invariant (h.trans hlater)
  have hwrote' : Wrote c'.state.log st := by
    obtain ⟨j, hj⟩ := hwrote
    have hsub : ∀ e ∈ c.state.log, e ∈ c'.state.log := fun e he => hlater.log_suffix.subset he
    exact ⟨j, hj.imp (·.mono hsub) (·.mono hsub)⟩
  obtain ⟨rec, hrec, hsame, -⟩ := hinv'.kept st hwrote'
  have hkey : storeKey env I.transaction = st.transaction := by
    rw [htransaction]
    exact (hasHash_key ⟨blob, hpays⟩).1
  rw [hkey, hrec, hk]
  -- It is for the same payment, since the updates keep its fixed fields.
  have hrecTransaction : rec.transaction = I.transaction := hsame.1.symm.trans htransaction
  have hrecFingerprint : rec.paymentFingerprint = (calls i).fingerprint :=
    hsame.2.2.2.2.2.symm.trans hfingerprint
  have hsettled : Total (RetryAnswers I calls c server payer data now)
      (Resolved I rec.firstLedgerSequence rec.lastLedgerSequence)
      (reconcile env rec requirements (settlementTtl (calls i).facilitator requirements)) := by
    -- A pending record is looked up again; a final one is answered as it stands.
    by_cases hst : rec.status = .pending
    · exact total_reconcile_after hst hrecTransaction
    · unfold reconcile
      rw [if_pos hst]
      exact resolved_stateResponse hrecTransaction (verdict_of_inclusion hinj (h.trans hlater)
        hrequirements (hinv'.stored _ _ hrec).2 hrecTransaction hrecFingerprint hst)
  unfold settleExisting
  rw [if_neg (not_not.mpr (by rw [hrecFingerprint, ← hrequirements]; rfl)), hsame.2.2.2.1,
    hsame.2.2.2.2.1]
  exact hsettled

end Settlement

end Inclusion

/-! ## Section 4: Pending answers -/

section Pending

variable {ι : Type} [DecidableEq ι] {calls : ι → Call env} {i : ι} {s : SharedState ι}
variable {allowed : SharedState ι → Entry ι Op Ret → Prop}

/-- Nothing is taken out of the log. -/
theorem holds_growing {α : Type} {p : Service α} {Q : SharedState ι → Check α → Prop}
    (h : (settleContract calls allowed).Holds i p Q s) :
    (settleContract calls allowed).Holds i p (fun s' _ => ∀ e ∈ s.log, e ∈ s'.log) s := by
  induction p generalizing s with
  | ret a => exact fun e he => he
  | raise e => exact fun e he => he
  | spin => trivial
  | call o k ih =>
    intro s' hrely hinv
    obtain ⟨hpre, hk⟩ := h s' hrely hinv
    refine ⟨hpre, fun r t hx ha hinv' => (ih r (hk r t hx ha hinv')).mono fun s₂ x hsub e he => ?_⟩
    exact hsub e (List.mem_cons_of_mem _ (hrely.evolve.mem_log he))

/-- A record for the payment of the call has been written. -/
def HasRecord (c : Call env) (log : Log ι) : Prop :=
  ∃ st, Wrote log st ∧ c.HasHash st.transaction ∧ st.paymentFingerprint = c.fingerprint

/-- A pending answer that names a transaction leaves a record. -/
def Recorded (c : Call env) (s : SharedState ι) : Check SettleResponse → Prop
  | .ok resp => resp.IsPending → resp.transaction ≠ "" → HasRecord c s.log
  | .error _ => True

omit [DecidableEq ι] in
theorem HasRecord.recorded {c : Call env} (h : HasRecord c s.log) {s' : SharedState ι}
    (hsub : ∀ e ∈ s.log, e ∈ s'.log) (x : Check SettleResponse) : Recorded c s' x := by
  cases x with
  | error e => trivial
  | ok resp =>
    intro _ _
    obtain ⟨st, ⟨j, hj⟩, hhash, hfingerprint⟩ := h
    exact ⟨st, ⟨j, hj.imp (·.mono hsub) (·.mono hsub)⟩, hhash, hfingerprint⟩

theorem recorded_settleExisting {existing : XRPLSettlementState} {hash : String}
    (hhash : (calls i).HasHash hash) (htransaction : existing.transaction = hash)
    (hwrote : Wrote s.log existing)
    (h : (settleContract calls allowed).Holds i (settleExisting (calls i).facilitator existing hash
      (calls i).fingerprint (calls i).requirements) (Ends (calls i) i) s) :
    (settleContract calls allowed).Holds i (settleExisting (calls i).facilitator existing hash
      (calls i).fingerprint (calls i).requirements) (Recorded (calls i)) s := by
  -- Under another fingerprint the retry is refused and reserves nothing.
  by_cases hfingerprint : existing.paymentFingerprint = (calls i).fingerprint
  · have hrecord : HasRecord (calls i) s.log :=
      ⟨existing, hwrote, htransaction ▸ hhash, hfingerprint⟩
    exact (holds_growing h).mono fun s' x hsub => hrecord.recorded hsub x
  · unfold settleExisting
    rw [if_pos hfingerprint]
    intro hpending _
    exact absurd (Option.some.inj hpending) (by decide)

/-- The reservation is made, or there is a record. -/
theorem recorded_reservePending {blob hash payer : String} {pending : XRPLSettlementState}
    (hhash : (calls i).HasHash hash) (htransaction : pending.transaction = hash)
    (h : (settleContract calls allowed).Holds i (reservePending (calls i).facilitator blob hash
      (calls i).fingerprint payer pending (calls i).requirements) (Ends (calls i) i) s) :
    (settleContract calls allowed).Holds i (reservePending (calls i).facilitator blob hash
      (calls i).fingerprint payer pending (calls i).requirements) (Recorded (calls i)) s := by
  have hkey := (hasHash_key hhash).1
  intro s₁ hrely₁ hinv₁
  obtain ⟨hpromise, hk⟩ := h s₁ hrely₁ hinv₁
  refine ⟨hpromise, fun r t hx ha hinv₂ => ?_⟩
  have hrest := hk r t hx ha hinv₂
  cases r with
  | true =>
    have hp : ReservePromise (calls i) i s₁.log pending := hpromise
    have hrecord : HasRecord (calls i) (s₁.push i (.reserve pending
        (settlementTtl (calls i).facilitator (calls i).requirements)) (true : Bool) t).log :=
      ⟨pending, ⟨i, .inl ⟨_, List.mem_cons_self⟩⟩, hp.hash, hp.fingerprint⟩
    exact (holds_growing hrest).mono fun s' x hsub => hrecord.recorded hsub x
  | false =>
    obtain ⟨⟨cur, hcur⟩, rfl⟩ := exec_reserve_false.mp hx
    rw [htransaction, hkey] at hcur
    have hwrote := (hinv₁.stored hash cur hcur).2
    have hcurKey := (hinv₁.stored hash cur hcur).1
    intro s₂ hrely₂ hinv₃
    obtain ⟨hpre₂, hk₂⟩ := hrest s₂ hrely₂ hinv₃
    refine ⟨hpre₂, fun found t₂ hx₂ ha₂ hinv₄ => ?_⟩
    have hrest₂ := hk₂ found t₂ hx₂ ha₂ hinv₄
    obtain ⟨hfound, rfl⟩ := exec_get.mp hx₂
    -- The record is still there: records do not expire.
    have hwrote₂ : Wrote s₂.log cur := by
      obtain ⟨j, hj⟩ := hwrote
      have hsub : ∀ e ∈ s₁.log, e ∈ s₂.log := fun e he =>
        hrely₂.evolve.mem_log (List.mem_cons_of_mem _ he)
      exact ⟨j, hj.imp (·.mono hsub) (·.mono hsub)⟩
    obtain ⟨rec, hrec, -⟩ := hinv₃.kept cur hwrote₂
    rw [← hcurKey] at hrec
    rw [hkey, hrec] at hfound
    subst hfound
    have hstored : (s₂.push i (.get hash) (some rec) s₂.shared).shared.settlements hash =
        some rec := hrec
    exact recorded_settleExisting hhash (hinv₄.stored hash rec hstored).1.symm
      (hinv₄.stored hash rec hstored).2 hrest₂

/-- A helper that may raise, in front of the rest. -/
theorem recorded_lift {α : Type} {x : Except Exc α} {k : α → Service SettleResponse}
    {Q : SharedState ι → Check SettleResponse → Prop}
    (h : (settleContract calls allowed).Holds i (lift x >>= k) Q s)
    (hok : ∀ a, x = .ok a → (settleContract calls allowed).Holds i (k a) Q s →
      (settleContract calls allowed).Holds i (k a) (Recorded (calls i)) s) :
    (settleContract calls allowed).Holds i (lift x >>= k) (Recorded (calls i)) s := by
  cases x with
  | error e => trivial
  | ok a => exact hok a rfl h

theorem recorded_reserveAndSubmit {blob hash : String} (hhash : (calls i).HasHash hash)
    (h : (settleContract calls allowed).Holds i (reserveAndSubmit (calls i).facilitator
      (calls i).payload (calls i).requirements blob hash) (Ends (calls i) i) s) :
    (settleContract calls allowed).Holds i (reserveAndSubmit (calls i).facilitator
      (calls i).payload (calls i).requirements blob hash) (Recorded (calls i)) s := by
  unfold reserveAndSubmit at h ⊢
  refine recorded_lift h fun tx _ h => ?_
  refine recorded_lift h fun account _ h => ?_
  refine recorded_lift h fun value _ h => ?_
  refine recorded_lift h fun last _ h => ?_
  intro s₁ hrely₁ hinv₁
  obtain ⟨hpre₁, hk₁⟩ := h s₁ hrely₁ hinv₁
  refine ⟨hpre₁, fun answer t hx ha hinv₂ => ?_⟩
  refine recorded_lift (hk₁ answer t hx ha hinv₂) fun firstLedger _ h => ?_
  exact recorded_reservePending hhash (pendingState_transaction hhash) h

theorem recorded_settle (hown : Interaction.own i s.log = []) :
    (settleContract calls allowed).Holds i (calls i).run (Recorded (calls i)) s := by
  have hends : (settleContract calls allowed).Holds i (calls i).run (Ends (calls i) i) s :=
    holds_settle hown
  unfold Call.run settle at hends ⊢
  cases hpays : payloadHash env (calls i).payload with
  | error e =>
    intro _ hnamed
    exact absurd rfl hnamed
  | ok pays =>
    obtain ⟨blob, hash⟩ := pays
    have hhash : (calls i).HasHash hash := ⟨blob, hpays⟩
    rw [hpays] at hends
    -- The first request is the look into the store.
    intro s₁ hrely₁ hinv₁
    obtain ⟨hpre₁, hk₁⟩ := hends s₁ hrely₁ hinv₁
    refine ⟨hpre₁, fun found t hx ha hinv₂ => ?_⟩
    have hrest := hk₁ found t hx ha hinv₂
    obtain ⟨hfound, rfl⟩ := exec_get.mp hx
    -- A record that is found is there already; otherwise the call reserves one or is refused.
    cases found with
    | some existing =>
      have hstored : (s₁.push i (.get hash) (some existing) s₁.shared).shared.settlements hash =
          some existing := by
        rw [State.push_shared, hfound, (hasHash_key hhash).1]
      obtain ⟨hkey, hwrote⟩ := hinv₂.stored hash existing hstored
      exact recorded_settleExisting hhash hkey.symm hwrote hrest
    | none =>
      change (settleContract calls allowed).Holds i (verify _ _ _ _ >>= _) _ _ at hrest
      change (settleContract calls allowed).Holds i (verify _ _ _ _ >>= _) _ _
      refine Contract.holds_bind.mpr ((Contract.holds_bind.mp hrest).mono fun s₂ r₂ h₂ => ?_)
      cases r₂ with
      | error e => trivial
      | ok v =>
        dsimp only at h₂ ⊢
        by_cases hvalid : v.isValid = true
        · rw [if_pos hvalid] at h₂ ⊢
          exact recorded_reserveAndSubmit hhash h₂
        · rw [if_neg hvalid]
          intro _ hnamed
          exact absurd rfl hnamed

/-- A call that was answered as pending has left a record. -/
theorem hasRecord_of_pending {c : SettleConfig ι}
    (h : Run (settleSystem env calls) allowed (Config.init Stores.empty) c) {resp : SettleResponse}
    (hi : c.threads i = some (.ret resp)) (hpending : resp.IsPending) (hnamed : resp.transaction ≠ "") :
    HasRecord (calls i) c.state.log := by
  have hgood : (settleContract calls allowed).Good (fun i => Recorded (calls i)) c :=
    Contract.sound (fun _ _ _ hown => recorded_settle hown) (invariant_init calls) h
  obtain ⟨s, -, hrely, hrecorded⟩ := hgood.ended hi (r := .ok resp) ⟨rfl, rfl⟩
  obtain ⟨st, ⟨j, hj⟩, hrest⟩ := hrecorded hpending hnamed
  have hsub : ∀ e ∈ s.log, e ∈ c.state.log := fun e he => hrely.evolve.mem_log he
  exact ⟨st, ⟨j, hj.imp (·.mono hsub) (·.mono hsub)⟩, hrest⟩

end Pending

/-! ## Section 5: Verification -/

/-- The account and its tickets, after the payment has used its sequence or its
    ticket. -/
structure Consumed (env : Env) (server : TicketServer env) (pages : Nat) (data tx : Dict) : Prop where
  flags : ∃ flags, toInt env.unicode ((Dict.get? data "Flags").getD (.int 0)) = .ok flags
  sequence : Dict.get tx "TicketSequence" = .null →
    (Dict.get tx "Sequence").pyEq (Dict.get data "Sequence") = false
  ticket : ∀ n, (Dict.get tx "TicketSequence").asInt? = some n → ∃ markers,
    server.listing.Ends .null markers ∧ markers.length < pages ∧
      n ∉ server.ticketsOn (.null :: markers)

/-- Why the payload is refused when it comes back. -/
def refusalAfter (env : Env) (tx data : Dict) (payer method : String) (last now : Int) : String :=
  if last ≤ now then "invalid_exact_xrpl_payload_expired"
  else
    match checkSigner env tx payer data with
    | .error _ => "invalid_exact_xrpl_payload_signer_not_authorized"
    | .ok () =>
      if method = "sequence" then "invalid_exact_xrpl_payload_sequence_not_current"
      else "invalid_exact_xrpl_payload_ticket_not_available"

section Verification

variable {requirements : PaymentRequirements} {tx data : Dict} {payer method : String}
variable {before now last : Int}

/-- A window that was open is open or has passed. -/
theorem checkLastLedger_after (hbefore : checkLastLedger tx requirements payer before = .ok ())
    (hlast : (Dict.get tx "LastLedgerSequence").asInt? = some last) (hle : before ≤ now) :
    checkLastLedger tx requirements payer now =
      if last ≤ now then .error (refusal "invalid_exact_xrpl_payload_expired" payer) else .ok () := by
  obtain ⟨last', limit, hlast', -, hlimit, hwithin⟩ := checkLastLedger_eq_ok hbefore
  obtain rfl : last = last' := Option.some.inj (hlast.symm.trans hlast')
  -- A later ledger only moves the limit up.
  obtain ⟨limit', hlimit', hlater⟩ : ∃ limit', getMaxLastLedgerSequence now requirements = .ok limit' ∧
      limit ≤ limit' := by
    unfold getMaxLastLedgerSequence at hlimit ⊢
    split at hlimit
    · next q hq =>
      refine ⟨_, rfl, ?_⟩
      rw [← Except.ok.inj hlimit]
      omega
    · cases hlimit
  unfold checkLastLedger
  rw [hlast]
  dsimp only
  -- Time has passed for the payment, or it is still within its window.
  by_cases hpassed : last ≤ now
  · rw [if_pos hpassed]
    unfold failIf
    rw [if_pos hpassed]
    rfl
  · rw [if_neg hpassed]
    apply failIf_bind_eq_ok.mpr ⟨hpassed, ?_⟩
    apply bind_eq_ok.mpr ⟨limit', uncaught_eq_ok.mpr hlimit', ?_⟩
    exact failIf_eq_ok.mpr (by omega)

/-- The key is still authorized, or it is refused. -/
theorem checkSigner_after {account : Dict} (hbefore : SignerOk env tx payer account)
    (hflags : ∃ flags, toInt env.unicode ((Dict.get? data "Flags").getD (.int 0)) = .ok flags) :
    checkSigner env tx payer data = .ok () ∨ checkSigner env tx payer data =
      .error (refusal "invalid_exact_xrpl_payload_signer_not_authorized" payer) := by
  obtain ⟨key, address, hkey, haddress, -⟩ := hbefore
  obtain ⟨flags, hflags⟩ := hflags
  -- The signer's rights come from the new account data.
  have hcheck : checkSigner env tx payer data =
      failIf (Dict.get data "RegularKey" ≠ .str address ∧
        ¬ (address = payer ∧ hasFlag flags lsfDisableMaster = false))
        (refusal "invalid_exact_xrpl_payload_signer_not_authorized" payer) := by
    unfold checkSigner
    rw [subscript_obj hkey]
    show (uncaught (env.deriveClassicAddress (str env.unicode key)) >>= _) = _
    rw [haddress]
    show (uncaught (toInt env.unicode _) >>= _) = _
    rw [hflags]
    rfl
  rw [hcheck]
  unfold failIf
  split
  · exact .inr rfl
  · exact .inl rfl

end Verification

section Refusal

variable {ι : Type} [DecidableEq ι] {calls : ι → Call env} {c : SettleConfig ι}
variable {requirements : PaymentRequirements} {I : Inclusion env requirements}
variable {server : TicketServer env} {tx data : Dict} {now last : Int} {pages : Nat} {method : String}

/-- The refusal of a payload whose sequence or ticket has been used. -/
theorem verifyLedgerAndAccountState_after {t : List (Event Op Ret)}
    (hledger : LedgerOk env tx requirements (payerOf env tx) method t)
    (hlast : (Dict.get tx "LastLedgerSequence").asInt? = some last)
    (hbefore : ∀ result n, Answered t .ledger result → ledgerIndex env (.ok result) = .ok n → n ≤ now)
    (hconsumed : Consumed env server pages data tx) :
    Total (Inclusion.RetryAnswers I calls c server (payerOf env tx) data now)
      (· = .error (refusal (refusalAfter env tx data (payerOf env tx) method last now)
        (payerOf env tx)))
      (verifyLedgerAndAccountState env pages tx requirements (payerOf env tx) method) := by
  obtain ⟨⟨result, current, last', limit, hanswered, hcurrent, hlast', hopen, hlimit, hwithin⟩,
    _, account, -, -, hsigner, hsequence⟩ := hledger
  obtain rfl : last = last' := Option.some.inj (hlast.symm.trans hlast')
  -- The same window was checked before the inclusion.
  have hchecked : checkLastLedger tx requirements (payerOf env tx) current = .ok () := by
    unfold checkLastLedger
    rw [hlast]
    apply failIf_bind_eq_ok.mpr ⟨not_le.mpr hopen, ?_⟩
    apply bind_eq_ok.mpr ⟨limit, uncaught_eq_ok.mpr hlimit, ?_⟩
    exact failIf_eq_ok.mpr (not_lt.mpr hwithin)
  have hwindow := checkLastLedger_after hchecked hlast (hbefore result current hanswered hcurrent)
  unfold verifyLedgerAndAccountState
  intro ledger hledger
  show Total _ _ (lift (ledgerIndex env ledger) >>= _)
  rw [show ledgerIndex env ledger = .ok now from hledger]
  show Total _ _ (check (checkLastLedger tx requirements (payerOf env tx) now) >>= _)
  rw [hwindow]
  -- First the window is looked at, then the signer, and last what the payment consumes.
  by_cases hpassed : last ≤ now
  · have hreason : refusalAfter env tx data (payerOf env tx) method last now =
        "invalid_exact_xrpl_payload_expired" := if_pos hpassed
    rw [if_pos hpassed, hreason]
    rfl
  rw [if_neg hpassed]
  intro info hinfo
  obtain ⟨result', rfl, hdata⟩ := hinfo rfl
  show Total _ _ ((lift (getAttr result' "account_data") >>= _) >>= _)
  rw [hdata]
  show Total _ _ (check (checkSigner env tx (payerOf env tx) data) >>= _)
  rcases checkSigner_after hsigner hconsumed.flags with hok | hrefused
  · rw [hok]
    show Total _ _ (if method = "sequence" then _ else _ : Service Unit)
    -- The sequence has moved on, or the ticket has gone.
    cases hsequence with
    | sequence chosen noTicket =>
      have hreason : refusalAfter env tx data (payerOf env tx) method last now =
          "invalid_exact_xrpl_payload_sequence_not_current" := by
        unfold refusalAfter
        rw [if_neg hpassed, hok]
        exact if_pos chosen
      rw [hreason, if_pos chosen]
      unfold checkSequence failIf
      rw [if_neg (not_not.mpr noTicket), if_pos (hconsumed.sequence noTicket)]
      rfl
    | ticket chosen n marker result'' page noSequence isTicketOf =>
      have hother : method ≠ "sequence" := by rw [chosen]; decide
      have hreason : refusalAfter env tx data (payerOf env tx) method last now =
          "invalid_exact_xrpl_payload_ticket_not_available" := by
        unfold refusalAfter
        rw [if_neg hpassed, hok]
        exact if_neg hother
      obtain ⟨markers, hends, hfits, hgone⟩ := hconsumed.ticket n isTicketOf
      have hticketOf : ticketOf tx (payerOf env tx) = .ok n := by
        unfold ticketOf
        rw [isTicketOf]
        exact if_pos (Json.pyEq_iff.mpr noSequence)
      have havailable : (ticketIsAvailable env pages (payerOf env tx) n).Total
          (Inclusion.RetryAnswers I calls c server (payerOf env tx) data now) (· = .ok false) := by
        -- The listing ends, and the ticket is on none of its pages.
        have hlisting : (ticketIsAvailable env pages (payerOf env tx) n).Total server.Answers
            (· = .ok (decide (n ∈ server.ticketsOn (.null :: markers)))) :=
          TicketServer.ticketIsAvailable_of_ends hends hfits n
        rw [decide_eq_false hgone] at hlisting
        apply hlisting.answers
        intro o r hanswer
        cases o with
        | rpc q =>
          cases q with
          | accountObjects account marker => exact hanswer
          | _ => trivial
        | _ => trivial
      rw [hreason, if_neg hother, hticketOf]
      refine havailable.bind (fun available h => ?_) fun e he => by cases he
      obtain rfl := Except.ok.inj h
      rfl
  · have hreason : refusalAfter env tx data (payerOf env tx) method last now =
        "invalid_exact_xrpl_payload_signer_not_authorized" := by
      unfold refusalAfter
      rw [if_neg hpassed, hrefused]
    rw [hrefused, hreason]
    rfl

/-- What the first verification has established about the payload. -/
structure Admitted (F : ExactXRPLFacilitatorScheme env) (payload : PaymentPayload)
    (requirements : PaymentRequirements) (t : List (Event Op Ret)) (tx : Dict) (method : String)
    (last : Int) : Prop where
  checked : ∃ blob, checkTransaction F payload requirements = .ok ⟨method, blob, tx, payerOf env tx⟩
  ledger : LedgerOk env tx requirements (payerOf env tx) method t
  last : (Dict.get tx "LastLedgerSequence").asInt? = some last

theorem admitted_of_verified {F : ExactXRPLFacilitatorScheme env} {payload : PaymentPayload}
    {t : List (Event Op Ret)} {v : VerifyResponse} {blob hash : String}
    (h : Path (verify F pages payload requirements) t (.ok v)) (hv : v.isValid = true)
    (hpays : payloadHash env payload = .ok (blob, hash)) (htx : env.decode blob = .ok tx) :
    ∃ method last, Admitted F payload requirements t tx method last := by
  obtain ⟨checked, t₁, t₂, path, hchecked, rfl, hledger, -⟩ := path_verify_valid h hv
  obtain ⟨henvelope, ⟨x, hx, hblob⟩, hdecoded, hpayer, -, -⟩ := checkTransaction_eq_ok hchecked
  -- The blob is the one whose hash is asked for.
  have hsame : checked.tx = tx := by
    unfold payloadHash at hpays
    obtain ⟨x', hx', hpays⟩ := bind_eq_ok.mp hpays
    obtain ⟨hash', _, hpays⟩ := bind_eq_ok.mp hpays
    have hxx : x = x' := Except.ok.inj (hx.symm.trans hx')
    have hb : x'.signedTxBlob = blob := congrArg Prod.fst (Except.ok.inj hpays)
    rw [← hblob, hxx, hb, htx] at hdecoded
    exact (Except.ok.inj hdecoded).symm
  obtain ⟨method, blob', tx', payer⟩ := checked
  obtain rfl : tx' = tx := hsame
  obtain rfl : payer = payerOf env tx' := hpayer
  have hok := (ledgerOk_of_path henvelope.known hledger).mono fun e he => List.mem_append_left t₂ he
  obtain ⟨_, _, last, _, _, _, hlast, -⟩ := hok.window
  exact ⟨method, last, ⟨blob', hchecked⟩, hok, hlast⟩

/-- The answer to a verification of a payment that is already on the ledger. -/
theorem verify_after {F : ExactXRPLFacilitatorScheme env} {payload : PaymentPayload}
    {t : List (Event Op Ret)} (hadmitted : Admitted F payload requirements t tx method last)
    (hbefore : ∀ result n, Answered t .ledger result → ledgerIndex env (.ok result) = .ok n → n ≤ now)
    (hconsumed : Consumed env server pages data tx) :
    (verify F pages payload requirements).Total
      (Inclusion.RetryAnswers I calls c server (payerOf env tx) data now)
      (· = .ok ⟨false, some (refusalAfter env tx data (payerOf env tx) method last now), none,
        some (payerOf env tx), none⟩) := by
  obtain ⟨⟨blob, hchecked⟩, hledger, hlast⟩ := hadmitted
  have hrefused : Total (Inclusion.RetryAnswers I calls c server (payerOf env tx) data now)
      (· = .error (refusal (refusalAfter env tx data (payerOf env tx) method last now)
        (payerOf env tx))) (do
        return accepted (← verifyTransaction F pages payload requirements)) := by
    unfold verifyTransaction
    rw [hchecked]
    show Total _ _ ((verifyLedgerAndAccountState env pages tx requirements (payerOf env tx)
      method >>= _) >>= _)
    rw [Prog.bind_assoc]
    refine (verifyLedgerAndAccountState_after hledger hlast hbefore hconsumed).bind
      (fun _ h => by cases h) fun e he => ?_
    obtain rfl := Except.error.inj he
    rfl
  unfold verify
  apply hrefused.tryCatch
  · intro v hv
    cases hv
  · intro e he
    obtain rfl := Except.error.inj he
    rfl

end Refusal
end XrplX402
