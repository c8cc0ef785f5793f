import XrplX402.Payer.OnePayload

/-! # Accounting for a paid request

    From the moment the paid request is sent, money may be spent. What follows
    are the answer, the end of the client's block and the recording of the
    outcome; only the first of them is guarded.

    * `payDispatched`: the part of `pay` from the paid request on, wherever it
      sends one.
    * `Accounted`: a receipt of the payment, and its payload or its failure.
    * `accounted_iff`: the answers after which the payment is accounted for. -/

namespace XrplX402.Payer

open Py Interaction

/-! ## Section 1: From the paid request on -/

/-- Send the paid request and conclude; `close` is how `async with` ends after an
    answer. -/
def payDispatched (E : PayerEnv) (a : PayArgs) (fingerprint : String) (claim : AttemptClaim)
    (payload : PaymentPayload) (close : Except Exc Unit) : PayProg PayResult := do
  let response ← tryCatch (sendRequest a.request (some payload))
    (abandon E a fingerprint claim (some payload))
  Prog.ofExcept close
  concludePayment E a fingerprint payload response

/-- `pay` goes on like this once it has a payload. -/
theorem payClaimed_eq (E : PayerEnv) (payer : XRPLPayer) (limit : Option XRPLAssetSpendLimit) (a : PayArgs)
    (challenge : PaymentRequired) (f : String) (claim : AttemptClaim) :
    payClaimed E payer limit a challenge f claim =
      tryCatch (obtainPayload E payer limit challenge f claim)
        (abandon E a f claim claim.attempt.paymentPayload) >>=
        fun payload => payDispatched E a f claim payload (.ok ()) := rfl

section Paid

variable {E : PayerEnv} {payer : XRPLPayer} {limit : Option XRPLAssetSpendLimit} {a : PayArgs}
variable {challenge : PaymentRequired} {f : String} {claim : AttemptClaim} {payload : PaymentPayload}
variable {request : HttpRequest} {answer : Except Exc HttpResponse} {before later : List (Event Op Ret)}
variable {result : Except Exc PayResult}

theorem uses_payDry : (payDry E payer limit a).Uses fun o => o.pays = false :=
  Prog.Uses.bind ⟨rfl, fun _ => Prog.uses_ofExcept _⟩ fun _ =>
    (Prog.uses_ofExcept _).bind fun _ => (Prog.uses_ofExcept _).bind fun _ => trivial

theorem uses_toPayload : (tryCatch (obtainPayload E payer limit challenge f claim)
    (abandon E a f claim claim.attempt.paymentPayload)).Uses fun o => o.pays = false := by
  refine (uses_obtainPayload.mono ?_).tryCatch fun e => (uses_abandon e).mono ?_
  · intro o ho
    cases o <;> first | rfl | cases ho
  · intro o ho
    cases o <;> first | rfl | cases ho

/-- The paid request is the first event of `payDispatched`. -/
theorem first_of_payDispatched {payload' : PaymentPayload}
    (h : (payDispatched E a f claim payload' (.ok ())).Path
      (before ++ ⟨.httpRequest request (some payload), answer⟩ :: later) result) :
    before = [] ∧ request = a.request ∧ payload' = payload := by
  have hrest : ∀ r, (tryCatch (Prog.ofExcept r) (abandon E a f claim (some payload')) >>= fun response =>
      Prog.ofExcept (.ok ()) >>= fun _ => concludePayment E a f payload' response).Uses
        fun o => o.concludes = true := fun r =>
    ((Prog.uses_ofExcept r).tryCatch fun e => uses_abandon e).bind fun _ =>
      (Prog.uses_ofExcept _).bind fun _ => uses_concludePayment
  obtain ⟨r, t, ht, hpath⟩ := h
  cases before with
  | nil =>
    obtain ⟨hevent, -⟩ := List.cons.inj ht
    cases hevent
    exact ⟨rfl, rfl, rfl⟩
  | cons e before =>
    obtain ⟨-, rfl⟩ := List.cons.inj ht
    cases (hrest r).of_path hpath _ (List.mem_append_right _ List.mem_cons_self)

/-- Where `pay` sends a payload, `payDispatched` begins. -/
theorem payDispatched_of_pay {waits : Nat} (h : (pay E payer waits a).Path
      (before ++ ⟨.httpRequest request (some payload), answer⟩ :: later) result) :
    ∃ account f claim, payer.payerAccount = some account ∧ requestFingerprint E account a = .ok f ∧
      request = a.request ∧ (payDispatched E a f claim payload (.ok ())).Path
        (⟨.httpRequest request (some payload), answer⟩ :: later) result := by
  -- Only the last part of the call sends a payload.
  have hpays : ¬ (Op.httpRequest request (some payload)).pays = false := by simp [Op.pays]
  have hpure : ∀ {β : Type} (x : Except Exc β), (Prog.ofExcept x : PayProg β).Uses fun o => o.pays = false :=
    fun x => Prog.uses_ofExcept x
  have hnever : ∀ {older : List (Event Op Ret)},
      older ++ ⟨.httpRequest request (some payload), answer⟩ :: later ≠ [] := by simp
  unfold pay at h
  obtain ⟨_, past, limit, -, -, h⟩ := (hpure _).path_bind_append hpays h
  split at h
  -- A dry run sends none.
  · exact absurd (uses_payDry.of_path h _ (List.mem_append_right _ List.mem_cons_self)) hpays
  · cases hpayer : payer.payerAccount with
    | none =>
      rw [hpayer] at h
      exact absurd h.1 hnever
    | some account =>
      rw [hpayer] at h
      obtain ⟨_, _, f, -, hf, h⟩ := (hpure _).path_bind_append hpays h
      have hfirst : (sendRequest a.request none).Uses fun o => o.pays = false :=
        ⟨rfl, fun _ => Prog.uses_ofExcept _⟩
      obtain ⟨_, _, response, -, -, h⟩ := hfirst.path_bind_append hpays h
      split at h
      · exact absurd h.1 hnever
      · obtain ⟨_, _, challenge, -, -, h⟩ := (hpure _).path_bind_append hpays h
        -- Neither the waiting nor the obtaining sends one.
        have hclaim : (claimOrWait f account "http" waits).Uses fun o => o.pays = false := by
          refine (uses_claimOrWait waits).mono fun o ho => ?_
          cases o <;> first | rfl | cases ho
        obtain ⟨_, _, claim, -, -, h⟩ := hclaim.path_bind_append hpays h
        rw [payClaimed_eq] at h
        obtain ⟨_, older, payload', -, -, h⟩ := uses_toPayload.path_bind_append hpays h
        obtain ⟨rfl, hrequest, rfl⟩ := first_of_payDispatched h
        exact ⟨account, f, claim, rfl, (Prog.path_ofExcept.mp hf).2.symm, hrequest, h⟩

end Paid

/-! ## Section 2: What is accounted for -/

/-- The payment is known by this transaction: the signed one, or the one that the
    answer names. -/
def NamesPayment (E : PayerEnv) (payload : PaymentPayload) (answer : Except Exc HttpResponse)
    (transaction : String) : Prop :=
  (∃ s, pendingSettlement E.toEnv payload = .ok s ∧ s.transaction = transaction) ∨
    ∃ response s, answer = .ok response ∧ decodeSettlement E response = .ok (some s) ∧
      s.transaction = transaction

/-- A receipt for the fingerprint with a transaction of the payment. -/
def ReceiptOf (E : PayerEnv) (f : String) (payload : PaymentPayload) (answer : Except Exc HttpResponse)
    (receipt : ReceiptRecord) : Prop :=
  receipt.fingerprint = some f ∧ NamesPayment E payload answer receipt.settlement.transaction

/-- Between `j` and `j'` the payment has been accounted for. -/
structure Accounted (E : PayerEnv) (f : String) (payload : PaymentPayload)
    (answer : Except Exc HttpResponse) (j j' : Journal) : Prop where
  /-- A receipt was written, or there was one before. -/
  receipt : (∃ receipt, j'.records = j.records ++ [receipt] ∧ ReceiptOf E f payload answer receipt) ∨
    ∃ receipt ∈ j.records, ReceiptOf E f payload answer receipt
  /-- The payload is stored, or a failure is recorded. -/
  attempt : (∃ attempt, j'.attempt f = some attempt ∧ attempt.paymentPayload = some payload) ∨
    ∃ receipt ∈ j'.records, ReceiptOf E f payload answer receipt ∧ receipt.state = .failed

/-- The outcome of the answer can be recorded: the block ends and the settlement
    can be decoded; where there is none, the signed transaction can. -/
def Conclusive (E : PayerEnv) (payload : PaymentPayload) (close : Except Exc Unit) :
    Except Exc HttpResponse → Prop
  | .error _ => ∃ s, pendingSettlement E.toEnv payload = .ok s
  | .ok response => close = .ok () ∧ ∃ settlement, decodeSettlement E response = .ok settlement ∧
      (settlement = none → ∃ s, pendingSettlement E.toEnv payload = .ok s)

/-! ## Section 3: Recording and releasing -/

section Recording

variable {E : PayerEnv} {f : String} {payload : PaymentPayload} {answer : Except Exc HttpResponse}
variable {j j' : Journal} {attempt : PaymentAttempt} {receipt : ReceiptRecord}

/-- A second copy of a receipt is in the file already. -/
theorem appendReceipt_cases (receipt : ReceiptRecord) (records : List ReceiptRecord) :
    (appendReceipt receipt records).2 = records ++ [receipt] ∨
      (appendReceipt receipt records).2 = records ∧ ∃ existing ∈ records, existing.key = receipt.key ∧
        receipt.key.isSome = true := by
  unfold appendReceipt
  split
  · next h =>
    obtain ⟨existing, hmem, hkey⟩ := List.any_eq_true.mp h.2
    exact Or.inr ⟨rfl, existing, hmem, of_decide_eq_true hkey, h.1⟩
  · exact Or.inl rfl

/-- Receipts with one key have one fingerprint, state and transaction. -/
theorem of_key_eq {existing : ReceiptRecord} (hkey : existing.key = receipt.key)
    (hf : receipt.fingerprint = some f) :
    existing.fingerprint = some f ∧ existing.state = receipt.state ∧
      existing.settlement.transaction = receipt.settlement.transaction := by
  unfold ReceiptRecord.key at hkey
  rw [hf, Option.map_some] at hkey
  obtain ⟨g, hg, htriple⟩ := Option.map_eq_some_iff.mp hkey
  obtain ⟨rfl, hrest⟩ := Prod.mk.inj htriple
  exact ⟨hg, (Prod.mk.inj hrest).1, (Prod.mk.inj hrest).2⟩

theorem records_applyOutcome (j : Journal) (f : String) (attempt : PaymentAttempt) (u : ℚ)
    (state : ReceiptState) : (j.applyOutcome f attempt u state).records = j.records := by
  cases state <;> rfl

/-- A receipt that is not late is appended; a journal that can be read answers. -/
theorem recordOutcome_of_sound {env : Env} (hj : j.Sound env) (receipt : ReceiptRecord) (reuse now : ℚ) :
    (recordOutcome env receipt reuse now j).2.records =
        (if Late receipt j.records then j.records else (appendReceipt receipt j.records).2) ∧
      ∃ appended, (recordOutcome env receipt reuse now j).1 = .ok appended := by
  unfold recordOutcome
  by_cases hlate : Late receipt j.records
  · rw [if_pos hlate, if_pos hlate]
    exact ⟨rfl, false, rfl⟩
  · rw [if_neg hlate, if_neg hlate]
    simp only
    cases receipt.fingerprint with
    | none => exact ⟨rfl, _, rfl⟩
    | some fingerprint =>
      simp only [hj.read]
      cases j.attempt fingerprint with
      | none => exact ⟨rfl, _, rfl⟩
      | some attempt => exact ⟨records_applyOutcome _ _ _ _ _, _, rfl⟩

/-- Recording a receipt of the payment accounts for it. -/
theorem accounted_of_recorded (hj : j.Sound E.toEnv) (hattempt : j.attempt f = some attempt)
    (hpayload : attempt.paymentPayload = some payload) (hreceipt : ReceiptOf E f payload answer receipt)
    {r : Timed (Except Exc Bool)} {reuse : ℚ}
    (hx : exec E.toEnv j (.recordOutcome receipt reuse) r = some j') :
    Accounted E f payload answer j j' := by
  have hj' := exec_recordOutcome hx
  -- A receipt that comes late is not recorded; its payment has a terminal receipt.
  have hrecords : j'.records = if Late receipt j.records then j.records
      else (appendReceipt receipt j.records).2 := by
    rw [hj', (recordOutcome_of_sound hj receipt reuse r.now).1]
  have hstored : j'.attempt f = if ¬ Late receipt j.records ∧ receipt.fingerprint = some f then
      (j.attempt f).bind fun attempt => attempt.afterOutcome (r.now + reuse) receipt.state
      else j.attempt f := by
    rw [hj', attempt_recordOutcome hj]
  by_cases hlate : Late receipt j.records
  -- A terminal receipt of the transaction was there before.
  · rw [if_pos hlate] at hrecords
    rw [if_neg fun h => h.1 hlate] at hstored
    obtain ⟨-, -, existing, hmem, hsame, htransaction, -⟩ := hlate
    refine ⟨Or.inr ⟨existing, hmem, ?_, ?_⟩, Or.inl ⟨attempt, hstored.trans hattempt, hpayload⟩⟩
    · unfold ReceiptRecord.fingerprint
      rw [hsame]
      exact hreceipt.1
    · rw [htransaction]
      exact hreceipt.2
  · rw [if_neg hlate] at hrecords
    rw [if_pos ⟨hlate, hreceipt.1⟩, hattempt, Option.bind_some] at hstored
    -- The receipt has been appended, or it was there with the same key.
    have hwritten : (j'.records = j.records ++ [receipt]) ∨
        (j'.records = j.records ∧ ∃ existing ∈ j.records, ReceiptOf E f payload answer existing ∧
          existing.state = receipt.state) := by
      rw [hrecords]
      rcases appendReceipt_cases receipt j.records with happend | ⟨hkept, existing, hmem, hkey, -⟩
      · exact Or.inl happend
      · obtain ⟨hf, hstate, htransaction⟩ := of_key_eq hkey hreceipt.1
        refine Or.inr ⟨hkept, existing, hmem, ⟨hf, ?_⟩, hstate⟩
        rw [htransaction]
        exact hreceipt.2
    constructor
    · rcases hwritten with happend | ⟨-, existing, hmem, hof, -⟩
      · exact Or.inl ⟨receipt, happend, hreceipt⟩
      · exact Or.inr ⟨existing, hmem, hof⟩
    -- Only a failure removes the stored attempt, and then its receipt is there.
    · cases hstate : receipt.state with
      | pending =>
        rw [hstate] at hstored
        exact Or.inl ⟨_, hstored, hpayload⟩
      | paid =>
        rw [hstate] at hstored
        exact Or.inl ⟨_, hstored, hpayload⟩
      | failed =>
        right
        rcases hwritten with happend | ⟨hkept, existing, hmem, hof, hsame⟩
        · exact ⟨receipt, by rw [happend]; simp, hreceipt, hstate⟩
        · exact ⟨existing, by rw [hkept]; exact hmem, hof, hsame.trans hstate⟩

/-- What is stored after an outcome still has its payload. -/
theorem payload_of_recorded (hj : j.Sound E.toEnv) (hattempt : j.attempt f = some attempt)
    (hpayload : attempt.paymentPayload = some payload) {r : Timed (Except Exc Bool)} {reuse : ℚ}
    (hx : exec E.toEnv j (.recordOutcome receipt reuse) r = some j') {attempt' : PaymentAttempt}
    (hattempt' : j'.attempt f = some attempt') : attempt'.paymentPayload = some payload := by
  rw [exec_recordOutcome hx, attempt_recordOutcome hj, hattempt, Option.bind_some] at hattempt'
  split at hattempt'
  · cases hstate : receipt.state with
    | pending =>
      rw [hstate] at hattempt'
      rw [← Option.some.inj hattempt']
      exact hpayload
    | paid =>
      rw [hstate] at hattempt'
      rw [← Option.some.inj hattempt']
      exact hpayload
    | failed =>
      rw [hstate] at hattempt'
      cases hattempt'
  · rw [← Option.some.inj hattempt']
    exact hpayload

/-- Nothing is released that has a payload. -/
theorem released_of_payload (hj : j.Sound E.toEnv)
    (hpayload : ∀ attempt, j.attempt f = some attempt → attempt.paymentPayload = some payload)
    {token : Option String} {r : Except Exc Unit}
    (hx : exec E.toEnv j (.releaseClaim f token) r = some j') : j' = j := by
  obtain ⟨-, hj'⟩ := performed_eq_some.mp hx
  have hcases : (releaseClaim E.toEnv f token j).2 = j ∨ ∃ attempt, j.attempt f = some attempt ∧
      token = some attempt.ownerToken ∧ attempt.paymentPayload = none ∧
      (releaseClaim E.toEnv f token j).2 = j.pop f := releaseClaim_outcome hj
  rcases hcases with hkept | ⟨attempt, hattempt, -, hnone, -⟩
  · exact hj'.symm.trans hkept
  · rw [hpayload attempt hattempt] at hnone
    cases hnone

end Recording

/-! ## Section 4: When the payment is accounted for -/

section Dispatched

variable {ι : Type} {E : PayerEnv} {a : PayArgs} {f : String} {claim : AttemptClaim}
variable {payload : PaymentPayload} {close : Except Exc Unit} {answer : Except Exc HttpResponse}
variable {j j' : Journal} {attempt : PaymentAttempt} {t : List (Event Op Ret)}
variable {result : Except Exc PayResult} {i : ι}

theorem fingerprint_receipt (hf : f ≠ "") (statusCode : Int) (state : ReceiptState)
    (settlement : SettleResponse) :
    (a.receipt E f payload statusCode state settlement).fingerprint = some f := by
  unfold ReceiptRecord.fingerprint PayArgs.receipt
  simp [Option.filter_some, hf]

/-- The steps of one caller, in a journal that nobody else changes. -/
abbrev Alone (E : PayerEnv) (i : ι) (j : Journal) (t : List (Event Op Ret)) (j' : Journal) : Prop :=
  (world E.toEnv).Traces (fun _ _ => True) i j t j'

/-- Recording a receipt is one step, and the rest goes on after it. -/
theorem step_of_recordReceipt (hj : j.Sound E.toEnv) {receipt : ReceiptRecord} {α : Type}
    {k : Bool → PayProg α} {result : Except Exc α} (h : (recordReceipt receipt >>= k).Path t result)
    (hx : Alone E i j t j') :
    ∃ r t' appended j₁, exec E.toEnv j (.recordOutcome receipt terminalReuseSeconds) r = some j₁ ∧
      (k appended).Path t' result ∧ Alone E i j₁ t' j' := by
  unfold recordReceipt at h
  rw [Prog.call_bind] at h
  obtain ⟨r, t', rfl, hrest⟩ := h
  obtain ⟨-, j₁, hexec, hsteps⟩ := hx
  obtain ⟨appended, happended⟩ := (recordOutcome_of_sound hj receipt terminalReuseSeconds r.now).2
  have hresult : r.result = .ok appended := (performed_eq_some.mp hexec).1.trans happended
  simp only [hresult] at hrest
  exact ⟨r, t', appended, j₁, hexec, hrest, hsteps⟩

/-- A failed dispatch records the signed transaction, or nothing when there is
    none. -/
theorem accounted_of_abandon (hf : f ≠ "") (hj : j.Sound E.toEnv) (hattempt : j.attempt f = some attempt)
    (hpayload : attempt.paymentPayload = some payload) {e : Exc} {α : Type} {result : Except Exc α}
    (h : (abandon E a f claim (some payload) e).Path t result) (hx : Alone E i j t j') :
    (∃ s, pendingSettlement E.toEnv payload = .ok s) ∧ Accounted E f payload answer j j' ∨
      (¬ ∃ s, pendingSettlement E.toEnv payload = .ok s) ∧ j' = j := by
  unfold abandon at h
  cases hpending : pendingSettlement E.toEnv payload with
  -- The transaction cannot be named, so nothing is recorded.
  | error exc =>
    simp only [recordAbandoned, hpending, Prog.ofExcept_error, Prog.raise_bind] at h
    obtain ⟨rfl, -⟩ := h
    refine Or.inr ⟨?_, hx⟩
    rintro ⟨s, hs⟩
    cases hs
  | ok s =>
    -- The pending receipt is recorded, and then the claim is released.
    simp only [recordAbandoned, hpending, Prog.ofExcept_ok, Prog.ret_bind, Prog.bind_assoc] at h
    obtain ⟨r, t₁, appended, j₁, hexec, hrest, hsteps⟩ := step_of_recordReceipt hj h hx
    have hreceipt : ReceiptOf E f payload answer (a.receipt E f payload 0 .pending s) :=
      ⟨fingerprint_receipt hf 0 .pending s, Or.inl ⟨s, hpending, rfl⟩⟩
    have haccounted := accounted_of_recorded hj hattempt hpayload hreceipt hexec
    have hj₁ : j₁.Sound E.toEnv := by
      rw [exec_recordOutcome hexec]
      exact hj.recordOutcome
    simp only [Prog.pure_def, Prog.ret_bind, release, Prog.call_bind] at hrest
    obtain ⟨r', t₂, rfl, hend⟩ := hrest
    obtain ⟨-, j₂, hexec', hsteps'⟩ := hsteps
    -- The claim has a payload by then, so its release changes nothing.
    have hsame : j₂ = j₁ :=
      released_of_payload hj₁ (fun _ ha => payload_of_recorded hj hattempt hpayload hexec ha) hexec'
    have hdone : t₂ = [] := by
      cases r' with
      | ok _ => exact hend.1
      | error _ => exact hend.1
    rw [hdone] at hsteps'
    obtain rfl : j' = j₂ := hsteps'
    rw [hsame]
    exact Or.inl ⟨⟨s, rfl⟩, haccounted⟩

/-- An answer records its settlement or the signed transaction, or nothing when
    they cannot be read. -/
theorem accounted_of_conclude (hf : f ≠ "") (hj : j.Sound E.toEnv) (hattempt : j.attempt f = some attempt)
    (hpayload : attempt.paymentPayload = some payload) {response : HttpResponse}
    (h : (concludePayment E a f payload response).Path t result) (hx : Alone E i j t j') :
    Conclusive E payload (.ok ()) (.ok response) ∧ Accounted E f payload (.ok response) j j' ∨
      ¬ Conclusive E payload (.ok ()) (.ok response) ∧ j' = j := by
  -- Recording a receipt of the payment is all that is left to do.
  have hrecorded : ∀ {receipt : ReceiptRecord} {pay : PayResult},
      ReceiptOf E f payload (.ok response) receipt →
      (recordReceipt receipt >>= fun _ => (pure pay : PayProg PayResult)).Path t result →
      Accounted E f payload (.ok response) j j' := by
    intro receipt pay hreceipt hpath
    obtain ⟨r, t₁, appended, j₁, hexec, hrest, hsteps⟩ := step_of_recordReceipt hj hpath hx
    obtain ⟨rfl, -⟩ := hrest
    obtain rfl : j' = j₁ := hsteps
    exact accounted_of_recorded hj hattempt hpayload hreceipt hexec
  unfold concludePayment at h
  cases hdecode : decodeSettlement E response with
  -- The settlement cannot be decoded, and nothing is recorded.
  | error e =>
    rw [hdecode] at h
    obtain ⟨rfl, -⟩ := h
    refine Or.inr ⟨?_, hx⟩
    rintro ⟨-, settlement, hsettlement, -⟩
    rw [hdecode] at hsettlement
    cases hsettlement
  | ok settlement =>
    rw [hdecode, Prog.ofExcept_ok, Prog.ret_bind] at h
    cases settlement with
    -- The settlement of the answer is recorded under its own transaction.
    | some s =>
      have hreceipt : ReceiptOf E f payload (.ok response)
          (a.receipt E f payload response.statusCode (receiptState s) s) :=
        ⟨fingerprint_receipt hf _ _ s, Or.inr ⟨response, s, rfl, hdecode, rfl⟩⟩
      refine Or.inl ⟨⟨rfl, some s, hdecode, ?_⟩, hrecorded hreceipt h⟩
      intro hnone
      cases hnone
    -- Without a settlement the signed transaction is recorded as pending.
    | none =>
      simp only at h
      cases hpending : pendingSettlement E.toEnv payload with
      | error e =>
        rw [hpending] at h
        obtain ⟨rfl, -⟩ := h
        refine Or.inr ⟨?_, hx⟩
        rintro ⟨-, settlement, hsettlement, hneeds⟩
        obtain ⟨s, hs⟩ := hneeds (Option.some.inj (congrArg Except.toOption (hsettlement.symm.trans hdecode)))
        rw [hpending] at hs
        cases hs
      | ok s =>
        rw [hpending, Prog.ofExcept_ok, Prog.ret_bind] at h
        have hreceipt : ReceiptOf E f payload (.ok response)
            (a.receipt E f payload response.statusCode .pending s) :=
          ⟨fingerprint_receipt hf _ _ s, Or.inl ⟨s, hpending, rfl⟩⟩
        exact Or.inl ⟨⟨rfl, none, hdecode, fun _ => ⟨s, hpending⟩⟩, hrecorded hreceipt h⟩

/-- When nothing has been done, a receipt was there before or there is none. -/
theorem accounted_self (hattempt : j.attempt f = some attempt)
    (hpayload : attempt.paymentPayload = some payload) :
    Accounted E f payload answer j j ↔ ∃ receipt ∈ j.records, ReceiptOf E f payload answer receipt := by
  constructor
  · intro h
    rcases h.receipt with ⟨receipt, happend, -⟩ | hbefore
    · have hlength := congrArg List.length happend
      simp at hlength
    · exact hbefore
  · intro h
    exact ⟨Or.inr h, Or.inl ⟨attempt, hattempt, hpayload⟩⟩

/-- From the paid request on, the payment is accounted for if and only if the
    answer is conclusive, or a receipt of the payment was there before. -/
theorem accounted_of_dispatched (hf : f ≠ "") (hj : j.Sound E.toEnv) (hattempt : j.attempt f = some attempt)
    (hpayload : attempt.paymentPayload = some payload)
    (h : (payDispatched E a f claim payload close).Path
      (⟨.httpRequest a.request (some payload), answer⟩ :: t) result)
    (hx : Alone E i j (⟨.httpRequest a.request (some payload), answer⟩ :: t) j') :
    Accounted E f payload answer j j' ↔
      Conclusive E payload close answer ∨ ∃ receipt ∈ j.records, ReceiptOf E f payload answer receipt := by
  obtain ⟨-, j₁, hsent, hsteps⟩ := hx
  obtain rfl : j₁ = j := (Option.some.inj hsent).symm
  have hsplit : ∀ {conclusive : Prop}, conclusive ∧ Accounted E f payload answer j₁ j' ∨
      ¬ conclusive ∧ j' = j₁ → (Accounted E f payload answer j₁ j' ↔
        conclusive ∨ ∃ receipt ∈ j₁.records, ReceiptOf E f payload answer receipt) := by
    intro conclusive hcases
    rcases hcases with ⟨hyes, haccounted⟩ | ⟨hno, hsame⟩
    · exact iff_of_true haccounted (Or.inl hyes)
    · rw [hsame, accounted_self hattempt hpayload]
      exact ⟨Or.inr, fun hor => hor.resolve_left hno⟩
  apply hsplit
  unfold payDispatched sendRequest at h
  simp only [Prog.tryCatch_call, Prog.call_bind] at h
  obtain ⟨r, t', ht, hrest⟩ := h
  obtain ⟨hevent, rfl⟩ := List.cons.inj ht
  obtain rfl : answer = r := by
    cases hevent
    rfl
  cases answer with
  | error e =>
    simp only [Prog.ofExcept_error, Prog.tryCatch_raise] at hrest
    -- A failed call does not go on to the recording of an outcome.
    rcases Prog.path_bind.mp hrest with ⟨t₁, t₂, response, -, hok, -⟩ | ⟨e', -, habandon⟩
    · exact absurd hok not_path_abandon
    · exact accounted_of_abandon hf hj hattempt hpayload habandon hsteps
  | ok response =>
    simp only [Prog.ofExcept_ok, Prog.tryCatch_ret, Prog.ret_bind] at hrest
    cases close with
    | error e =>
      obtain ⟨rfl, -⟩ := hrest
      refine Or.inr ⟨?_, hsteps⟩
      rintro ⟨hclose, -⟩
      cases hclose
    | ok _ => exact accounted_of_conclude hf hj hattempt hpayload hrest hsteps

/-- A paid request of `pay` is accounted for if and only if its answer is
    conclusive, or a receipt of the payment was there before; so it is however
    the client's block ends. -/
theorem accounted_iff (E : PayerEnv) (a : PayArgs) (f : String) (payload : PaymentPayload)
    (answer : Except Exc HttpResponse) (j j' : Journal) (attempt : PaymentAttempt) (t : List (Event Op Ret))
    (result : Except Exc PayResult) (hf : f ≠ "") (hj : j.Sound E.toEnv)
    (hattempt : j.attempt f = some attempt) (hpayload : attempt.paymentPayload = some payload)
    (hx : Alone E () j (⟨.httpRequest a.request (some payload), answer⟩ :: t) j') :
    (∀ (payer : XRPLPayer) (waits : Nat) (account : String) (before : List (Event Op Ret)),
      payer.payerAccount = some account → requestFingerprint E account a = .ok f →
      (pay E payer waits a).Path (before ++ ⟨.httpRequest a.request (some payload), answer⟩ :: t) result →
      (Accounted E f payload answer j j' ↔ Conclusive E payload (.ok ()) answer ∨
        ∃ receipt ∈ j.records, ReceiptOf E f payload answer receipt)) ∧
    ∀ (claim : AttemptClaim) (close : Except Exc Unit),
      (payDispatched E a f claim payload close).Path
        (⟨.httpRequest a.request (some payload), answer⟩ :: t) result →
      (Accounted E f payload answer j j' ↔ Conclusive E payload close answer ∨
        ∃ receipt ∈ j.records, ReceiptOf E f payload answer receipt) := by
  constructor
  · intro payer waits account before hpayer hfingerprint hpath
    obtain ⟨account', f', claim, hpayer', hfingerprint', -, hdispatched⟩ := payDispatched_of_pay hpath
    obtain rfl : account = account' := Option.some.inj (hpayer.symm.trans hpayer')
    obtain rfl : f = f' := Except.ok.inj (hfingerprint.symm.trans hfingerprint')
    exact accounted_of_dispatched hf hj hattempt hpayload hdispatched hx
  · intro claim close hdispatched
    exact accounted_of_dispatched hf hj hattempt hpayload hdispatched hx

end Dispatched

/-! ### An answer that cannot be decoded -/

namespace Sample

/-- The attempt whose payload has been sent. -/
def sentAttempt : PaymentAttempt := (newClaim fingerprint "rPayer" "http" "t0" 30).ready (signed "AA") none

def sentJournal : Journal := Journal.empty.put sentAttempt

def sentClaim : AttemptClaim := ⟨sentAttempt, some "t0"⟩

/-- A delivered resource, with this settlement header. -/
def delivered (header : String) : HttpResponse := ⟨200, [("payment-response", header)], []⟩

/-- The paid request and its answer. -/
def sentEvent (answer : Except Exc HttpResponse) : Event Op Ret :=
  ⟨.httpRequest (upTo "5000").request (some (signed "AA")), answer⟩

/-- The call before its paid request: it is asked to pay, and finds the payload
    stored. -/
def beforeSent : List (Event Op Ret) :=
  [⟨.httpRequest (upTo "5000").request none, .ok unpaid⟩,
    ⟨.claimAttempt fingerprint "rPayer" "http" attemptLeaseSeconds, ⟨0, "t1", .ok sentClaim⟩⟩]

/-- The receipt of an expired transaction. -/
def expiredReceipt : ReceiptRecord :=
  (upTo "5000").receipt sampleEnv fingerprint (signed "AA") 200 .failed expired

/-- The answer is recorded. -/
def recordedEvent : Event Op Ret := ⟨.recordOutcome expiredReceipt terminalReuseSeconds, ⟨0, .ok true⟩⟩

def recordedJournal : Journal :=
  (recordOutcome sampleEnv.toEnv expiredReceipt terminalReuseSeconds 0 sentJournal).2

theorem sentJournal_sound : sentJournal.Sound sampleEnv.toEnv := by
  have hempty : Journal.empty.Sound sampleEnv.toEnv := by
    intro f a ha
    cases ha
  apply hempty.put
  intro payload _
  rfl

theorem sentJournal_attempt : sentJournal.attempt fingerprint = some sentAttempt := attempt_put_self _ _

end Sample

/-- The resource is delivered with a settlement that cannot be decoded, or the
    call is cancelled while the client closes: no receipt is written. -/
theorem no_receipt_of_undecodable :
    Sample.sentJournal.Sound Sample.sampleEnv.toEnv ∧
      Sample.sentJournal.attempt Sample.fingerprint = some Sample.sentAttempt ∧
      Sample.sentAttempt.paymentPayload = some (Sample.signed "AA") ∧
      ((pay Sample.sampleEnv Sample.payer 1 (Sample.upTo "5000")).Path
          (Sample.beforeSent ++ [Sample.sentEvent (.ok (Sample.delivered "%%%"))])
          (.error (valueError "invalid header")) ∧
        Alone Sample.sampleEnv () Sample.sentJournal [Sample.sentEvent (.ok (Sample.delivered "%%%"))]
          Sample.sentJournal ∧
        ¬ Accounted Sample.sampleEnv Sample.fingerprint (Sample.signed "AA")
          (.ok (Sample.delivered "%%%")) Sample.sentJournal Sample.sentJournal) ∧
      (payDispatched Sample.sampleEnv (Sample.upTo "5000") Sample.fingerprint Sample.sentClaim
          (Sample.signed "AA") (.error ⟨.other, "cancelled"⟩)).Path
          [Sample.sentEvent (.ok (Sample.delivered ""))] (.error ⟨.other, "cancelled"⟩) ∧
        ¬ Accounted Sample.sampleEnv Sample.fingerprint (Sample.signed "AA")
          (.ok (Sample.delivered "")) Sample.sentJournal Sample.sentJournal := by
  -- Nothing has been recorded, and the journal has no receipts.
  have hnone : ∀ answer, ¬ Accounted Sample.sampleEnv Sample.fingerprint (Sample.signed "AA") answer
      Sample.sentJournal Sample.sentJournal := by
    intro answer haccounted
    obtain ⟨receipt, hmem, -⟩ := (accounted_self Sample.sentJournal_attempt rfl).mp haccounted
    cases hmem
  refine ⟨Sample.sentJournal_sound, Sample.sentJournal_attempt, rfl, ⟨?_, ?_, hnone _⟩, ?_, hnone _⟩
  · exact Prog.path_of_replay (by decide +kernel)
  · exact ⟨trivial, _, rfl, rfl⟩
  · exact ⟨_, [], rfl, rfl, rfl⟩

theorem accounted_iff_sample :
    Accounted Sample.sampleEnv Sample.fingerprint (Sample.signed "AA")
      (.ok (Sample.delivered Sample.expiredHeader)) Sample.sentJournal Sample.recordedJournal := by
  -- The whole call: it is asked to pay, finds the payload stored, sends it and records the failure.
  have hpath : (pay Sample.sampleEnv Sample.payer 1 (Sample.upTo "5000")).Path
      (Sample.beforeSent ++
        [Sample.sentEvent (.ok (Sample.delivered Sample.expiredHeader)), Sample.recordedEvent])
      (.ok (.ofReceipt (Sample.delivered Sample.expiredHeader) [] (Sample.signed "AA")
        Sample.expiredReceipt)) := Prog.path_of_replay (by decide +kernel)
  have hrecorded : (recordOutcome Sample.sampleEnv.toEnv Sample.expiredReceipt terminalReuseSeconds 0
      Sample.sentJournal).1 = .ok true := by decide +kernel
  have hsteps : Alone Sample.sampleEnv () Sample.sentJournal
      [Sample.sentEvent (.ok (Sample.delivered Sample.expiredHeader)), Sample.recordedEvent]
      Sample.recordedJournal :=
    ⟨trivial, _, rfl, trivial, _, performed_eq_some.mpr ⟨hrecorded.symm, rfl⟩, rfl⟩
  have hfingerprint : requestFingerprint Sample.sampleEnv "rPayer" (Sample.upTo "5000") =
      .ok Sample.fingerprint := by decide +kernel
  have hiff := (accounted_iff Sample.sampleEnv (Sample.upTo "5000") Sample.fingerprint
    (Sample.signed "AA") (.ok (Sample.delivered Sample.expiredHeader)) Sample.sentJournal
    Sample.recordedJournal Sample.sentAttempt [Sample.recordedEvent] _ (by decide)
    Sample.sentJournal_sound Sample.sentJournal_attempt rfl hsteps).1 Sample.payer 1 "rPayer"
    Sample.beforeSent rfl hfingerprint hpath
  refine hiff.mpr (Or.inl ⟨rfl, some Sample.expired, by decide +kernel, ?_⟩)
  intro hnone
  cases hnone

end XrplX402.Payer
