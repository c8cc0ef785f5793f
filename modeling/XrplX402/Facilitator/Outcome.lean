import XrplX402.Facilitator.Protocol

/-! # How a settle call ends

    Every settle call keeps its promises, whatever the other calls and the node
    do, and ends in one of five ways: the payload is malformed, the hash is
    bound to another request, its own verification refused it, the outcome is
    still open, or a record with a verdict answers it. -/

namespace XrplX402.Facilitator

open Py Interaction Prog

variable {ι : Type} {env : Env}

/-! ## Section 1: Verification only asks the node -/

/-- Requests to the node that submit nothing. -/
def Op.isQuery : Op → Bool
  | .rpc (.submitOnly _) => false
  | .rpc _ => true
  | _ => false

def Op.isUpdate : Op → Bool
  | .update _ _ => true
  | _ => false

def Op.isReserve : Op → Bool
  | .reserve _ _ => true
  | _ => false

/-- A program that does nothing but query the node. -/
abbrev OnlyQueries {α : Type} (p : Service α) : Prop := p.Uses fun o => o.isQuery = true

theorem onlyQueries_lift {α : Type} (x : Except Exc α) : OnlyQueries (lift x) := uses_ofExcept _

theorem onlyQueries_check {α : Type} (x : Check α) : OnlyQueries (check x) := uses_ofExcept _

theorem onlyQueries_request {r : RpcRequest} (hr : (Op.rpc r).isQuery = true) :
    OnlyQueries (request r) := ⟨hr, fun _ => onlyQueries_lift _⟩

theorem onlyQueries_currentLedger : OnlyQueries (currentLedger env) :=
  ⟨rfl, fun _ => onlyQueries_lift _⟩

theorem onlyQueries_accountData (account : String) : OnlyQueries (accountData account) :=
  (onlyQueries_request rfl).bind fun _ => (onlyQueries_lift _).bind fun _ => onlyQueries_check _

theorem onlyQueries_ticketIsAvailableFrom (payer : String) (ticket : Int) (pages : Nat)
    (marker : Json) (seen : List String) :
    OnlyQueries (ticketIsAvailableFrom env payer ticket pages marker seen) := by
  induction pages generalizing marker seen with
  | zero => exact uses_spin
  | succ pages ih =>
    refine (onlyQueries_request rfl).bind fun _ => (onlyQueries_lift _).bind fun page => ?_
    split
    · exact uses_ret _
    · split
      · exact uses_ret _
      · exact (onlyQueries_lift _).bind fun _ => ih _ _

theorem onlyQueries_accountLinesFrom (payer : String) (peer : Json) (pages : Nat) (marker : Json)
    (seen : List String) (lines : List Dict) :
    OnlyQueries (accountLinesFrom env payer peer pages marker seen lines) := by
  induction pages generalizing marker seen lines with
  | zero => exact uses_spin
  | succ pages ih =>
    refine (onlyQueries_request rfl).bind fun _ => (onlyQueries_lift _).bind fun page => ?_
    simp only
    split
    · exact uses_ret _
    · exact (onlyQueries_lift _).bind fun _ => ih _ _ _

theorem onlyQueries_verifyLedgerAndAccountState (pages : Nat) (tx : Dict)
    (requirements : PaymentRequirements) (payer selectedMethod : String) :
    OnlyQueries (verifyLedgerAndAccountState env pages tx requirements payer selectedMethod) := by
  refine onlyQueries_currentLedger.bind fun _ => (onlyQueries_check _).bind fun _ =>
    (onlyQueries_accountData payer).bind fun _ => (onlyQueries_check _).bind fun _ => ?_
  split
  · exact onlyQueries_check _
  · exact (onlyQueries_check _).bind fun _ =>
      (onlyQueries_ticketIsAvailableFrom _ _ _ _ _).bind fun _ => onlyQueries_check _

theorem onlyQueries_targetedIouCheck (pages : Nat) (tx : Dict) (requirements : PaymentRequirements)
    (payer : String) : OnlyQueries (targetedIouCheck env pages tx requirements payer) := by
  have hrate : ∀ issuer, OnlyQueries (issuerTransferRate issuer payer) := fun _ =>
    (onlyQueries_request rfl).bind fun _ => (onlyQueries_check _).bind fun _ => onlyQueries_lift _
  exact (onlyQueries_lift _).bind fun _ => (onlyQueries_accountLinesFrom _ _ _ _ _ _).bind fun _ =>
    (onlyQueries_lift _).bind fun _ => (onlyQueries_lift _).bind fun _ =>
    (onlyQueries_lift _).bind fun _ => (onlyQueries_lift _).bind fun _ => (hrate _).bind fun _ =>
    (onlyQueries_lift _).bind fun _ => (onlyQueries_check _).bind fun _ =>
    (onlyQueries_lift _).bind fun _ => onlyQueries_check _

theorem onlyQueries_targetedBalanceCheck (pages : Nat) (tx : Dict)
    (requirements : PaymentRequirements) (payer : String) :
    OnlyQueries (targetedBalanceCheck env pages tx requirements payer) := by
  have hreserve : OnlyQueries (xrpReserveParameters env) :=
    (onlyQueries_request rfl).bind fun _ => (onlyQueries_lift _).bind fun _ => onlyQueries_lift _
  have hexists : ∀ account, OnlyQueries (accountExists account) := fun _ =>
    (onlyQueries_request rfl).bind fun _ => onlyQueries_lift _
  refine (onlyQueries_accountData payer).bind fun _ => (onlyQueries_lift _).bind fun _ =>
    (onlyQueries_lift _).bind fun _ => hreserve.bind fun _ => (onlyQueries_lift _).bind fun _ =>
    (onlyQueries_lift _).bind fun _ => (onlyQueries_lift _).bind fun _ => ?_
  split
  · exact (onlyQueries_lift _).bind fun _ => (onlyQueries_check _).bind fun _ =>
      (hexists _).bind fun _ => onlyQueries_check _
  · exact (onlyQueries_check _).bind fun _ => onlyQueries_targetedIouCheck _ _ _ _

theorem onlyQueries_verifySimulationOrBalances (pages : Nat) (tx : Dict)
    (requirements : PaymentRequirements) (payer : String) :
    OnlyQueries (verifySimulationOrBalances env pages tx requirements payer) := by
  have htargeted : OnlyQueries (do
      targetedBalanceCheck env pages tx requirements payer
      return "targetedChecks") :=
    (onlyQueries_targetedBalanceCheck _ _ _ _).bind fun _ => uses_ret _
  refine Uses.tryCatch ?_ fun e => ?_
  · refine (onlyQueries_lift _).bind fun _ => (onlyQueries_request rfl).bind fun _ => ?_
    simp only
    split
    · exact htargeted
    · exact (onlyQueries_check _).bind fun _ => uses_ret _
  · cases e with
    | other e => exact htargeted
    | verification reason message payer => exact uses_raise _
    | http statusCode detail => exact uses_raise _

theorem onlyQueries_verify (F : ExactXRPLFacilitatorScheme env) (pages : Nat)
    (payload : PaymentPayload) (requirements : PaymentRequirements) :
    OnlyQueries (verify F pages payload requirements) := by
  refine Uses.tryCatch ?_ fun e => ?_
  · exact ((onlyQueries_check _).bind fun _ =>
      (onlyQueries_verifyLedgerAndAccountState _ _ _ _ _).bind fun _ =>
      (onlyQueries_verifySimulationOrBalances _ _ _ _).bind fun _ =>
      (onlyQueries_lift _).bind fun _ => uses_ret _).bind fun _ => uses_ret _
  · cases e with
    | verification reason message payer => exact uses_ret _
    | other e => exact uses_raise _
    | http statusCode detail => exact uses_raise _

/-! ## Section 2: The contract of the settle calls -/

variable [DecidableEq ι] {allowed : SharedState ι → Entry ι Op Ret → Prop}

def settleContract (calls : ι → Call env) (allowed : SharedState ι → Entry ι Op Ret → Prop) :
    Contract ι (settleSystem env calls).world allowed where
  inv := Invariant calls
  pre i s o := Promise (calls i) i s.log o
  step := fun h hp hx _ => h.step hp hx

/-- How call `i` ended with a response. -/
inductive Outcome (c : Call env) (s : SharedState ι) (i : ι) : SettleResponse → Prop where
  | malformed (e : Exc) (h : payloadHash env c.payload = .error e) :
      Outcome c s i (failureResponse "invalid_exact_xrpl_payload" (some e.text) none
        c.requirements.network)
  | mismatch (rec : XRPLSettlementState) (hash : c.HasHash rec.transaction)
      (wrote : Wrote s.log rec) (other : rec.paymentFingerprint ≠ c.fingerprint) :
      Outcome c s i (mismatchResponse rec rec.transaction)
  | refused (hash : String) (hhash : c.HasHash hash) (t : List (Event Op Ret)) (v : VerifyResponse)
      (path : (verify c.facilitator c.pages c.payload c.requirements).Path t (.ok v))
      (invalid : v.isValid = false) (log : own i s.log = ⟨.get hash, none⟩ :: t) :
      Outcome c s i (refusedResponse v c.requirements.network)
  | pending (transaction network payer amount : String) :
      Outcome c s i (pendingResponse transaction network payer amount)
  | verdict (rec : XRPLSettlementState) (hash : c.HasHash rec.transaction)
      (fingerprint : rec.paymentFingerprint = c.fingerprint) (wrote : Wrote s.log rec)
      (terminal : rec.status ≠ .pending) :
      Outcome c s i (stateResponse env rec c.requirements.amount)

/-- A call that raises has stored no verdict. -/
def Ends (c : Call env) (i : ι) (s : SharedState ι) : Except FacilitatorExc SettleResponse → Prop
  | .ok resp => Outcome c s i resp
  | .error _ => ∀ e ∈ own i s.log, e.op.isUpdate = false

section Holds

variable {calls : ι → Call env} {i : ι} {s : SharedState ι}

/-- One request to the node: what is known before is known after it, and the
    answer is the last entry of the caller's share of the log. -/
theorem holds_query {α : Type} {q : RpcRequest} (hq : (Op.rpc q).isQuery = true)
    {k : Except Exc Json → Service α} {Q : SharedState ι → Except FacilitatorExc α → Prop}
    (h : ∀ s' a, Invariant calls s' → (∀ e ∈ s.log, e ∈ s'.log) →
      own i s'.log = own i s.log ++ [⟨.rpc q, a⟩] →
      (settleContract calls allowed).Holds i (k a) Q s') :
    (settleContract calls allowed).Holds i (.call (.rpc q) k) Q s := by
  intro s₁ hrely _
  constructor
  · cases q <;> trivial
  · intro a t _ _ hinv₂
    refine h _ a hinv₂ (fun e he => List.mem_cons_of_mem _ (hrely.evolve.mem_log he)) ?_
    rw [State.push_log, own_cons_self, hrely.own_eq]

/-- A helper that may raise, in front of the rest. -/
theorem holds_lift {α β : Type} {x : Except Exc α} {k : α → Service β}
    {Q : SharedState ι → Except FacilitatorExc β → Prop} (herror : ∀ e, Q s (.error (.other e)))
    (hok : ∀ a, x = .ok a → (settleContract calls allowed).Holds i (k a) Q s) :
    (settleContract calls allowed).Holds i (lift x >>= k) Q s := by
  cases x with
  | error e => exact herror e
  | ok a => exact hok a rfl

/-- A read of the store: a record that is found was written by somebody. -/
theorem holds_get {α : Type} {hash : String} (hkey : storeKey env hash = hash)
    {k : Option XRPLSettlementState → Service α}
    {Q : SharedState ι → Except FacilitatorExc α → Prop}
    (h : ∀ s' r, Invariant calls s' → (∀ e ∈ s.log, e ∈ s'.log) →
      own i s'.log = own i s.log ++ [⟨.get hash, r⟩] →
      (∀ rec, r = some rec → rec.transaction = hash ∧ Wrote s'.log rec) →
      (settleContract calls allowed).Holds i (k r) Q s') :
    (settleContract calls allowed).Holds i (.call (Op.get hash) k) Q s := by
  intro s₁ hrely _
  refine ⟨trivial, fun r t hx _ hinv₂ => ?_⟩
  obtain ⟨hr, rfl⟩ := exec_get.mp hx
  refine h _ r hinv₂ (fun e he => List.mem_cons_of_mem _ (hrely.evolve.mem_log he)) ?_ ?_
  · rw [State.push_log, own_cons_self, hrely.own_eq]
  · intro rec hrec
    have hstored : (s₁.push i (.get hash) r s₁.shared).shared.settlements hash = some rec := by
      rw [State.push_shared, ← hrec, hr, hkey]
    obtain ⟨hkr, hw⟩ := hinv₂.stored hash rec hstored
    exact ⟨hkr.symm, hw⟩

omit [DecidableEq ι] in
theorem UpdatePromise.mono {c : Call env} {log log' : Log ι} {st : XRPLSettlementState}
    (h : UpdatePromise c i log st) (hsub : ∀ e ∈ log, e ∈ log') : UpdatePromise c i log' st := by
  obtain ⟨j, r, hr, hs⟩ := h.reserved
  exact ⟨h.hash, h.fingerprint, ⟨j, r, hr.mono hsub, hs⟩, h.evidence.mono hsub⟩

/-- Storing a verdict for which there is evidence, and answering with it. -/
theorem holds_storeVerdict {st : XRPLSettlementState} {ttl : Int}
    (hp : UpdatePromise (calls i) i s.log st) :
    (settleContract calls allowed).Holds i
      (storeUpdate st ttl >>= fun _ => .ret (stateResponse env st (calls i).requirements.amount))
      (Ends (calls i) i) s := by
  intro s₁ hrely _
  refine ⟨hp.mono fun e he => hrely.evolve.mem_log he, fun r t _ _ _ => ?_⟩
  exact Outcome.verdict st hp.hash hp.fingerprint ⟨i, .inr ⟨ttl, List.mem_cons_self⟩⟩
    hp.evidence.terminal

/-! ## Section 3: Polling and reconciliation -/

/-- What a call knows of a record that it is going to look up. -/
structure Known (c : Call env) (i : ι) (s : SharedState ι) (st : XRPLSettlementState) : Prop where
  hash : c.HasHash st.transaction
  fingerprint : st.paymentFingerprint = c.fingerprint
  reserved : ∃ j r, Reserved s.log j r ∧ r.SamePayment st
  quiet : ∀ e ∈ own i s.log, e.op.isUpdate = false

variable {st : XRPLSettlementState}

/-- The verdict `st'` on the payment of `st`. -/
theorem Known.promise {c : Call env} (h : Known c i s st) {status : Status} {result : Dict}
    (he : Evidence c s.log i (st.withResult status result)) :
    UpdatePromise c i s.log (st.withResult status result) := by
  obtain ⟨j, r, hr, hs⟩ := h.reserved
  exact ⟨h.hash, h.fingerprint, ⟨j, r, hr, hs.trans (XRPLSettlementState.samePayment_withResult _ _ _)⟩,
    he⟩

theorem Known.mono {c : Call env} (h : Known c i s st) {s' : SharedState ι} {e : Event Op Ret}
    (hsub : ∀ e ∈ s.log, e ∈ s'.log) (hown : own i s'.log = own i s.log ++ [e])
    (he : e.op.isUpdate = false) : Known c i s' st := by
  obtain ⟨j, r, hr, hs⟩ := h.reserved
  refine ⟨h.hash, h.fingerprint, ⟨j, r, hr.mono hsub, hs⟩, ?_⟩
  intro e' he'
  rw [hown, List.mem_append, List.mem_singleton] at he'
  rcases he' with he' | rfl
  · exact h.quiet e' he'
  · exact he

/-- The lookup of a known record leaves its answer in the log. -/
theorem holds_queryTransaction {α : Type} (hk : Known (calls i) i s st)
    {k : TransactionLookup → Service α} {Q : SharedState ι → Except FacilitatorExc α → Prop}
    (h : ∀ s' a, Known (calls i) i s' st → LookedUp s'.log i st a →
      (settleContract calls allowed).Holds i (k (lookupOf a)) Q s') :
    (settleContract calls allowed).Holds i (queryTransaction st >>= k) Q s := by
  refine holds_query rfl fun s' a _ hsub hown => h s' a (hk.mono hsub hown rfl) ?_
  refine mem_own.mp ?_
  rw [hown]
  exact List.mem_append_right _ List.mem_cons_self

theorem holds_waitForValidation {ttl : Int} (attempts : Nat) (hk : Known (calls i) i s st) :
    (settleContract calls allowed).Holds i
      (waitForValidation env st (calls i).requirements ttl attempts) (Ends (calls i) i) s := by
  induction attempts generalizing s with
  | zero => exact Outcome.pending _ _ _ _
  | succ attempts ih =>
    refine holds_queryTransaction hk fun s' a hk' ha => ?_
    -- Each answer of the node is a lookup of the record.
    cases hd : (lookupOf a).transaction with
    | none => exact ih hk'
    | some d =>
      have hfound : ∀ status result, Found s'.log i (st.withResult status result) d :=
        fun _ _ => ⟨a, ha, hd⟩
      simp only
      split
      · next hv =>
        cases hde : deliveredAmountError env d (calls i).requirements with
        | error e => exact hk'.quiet
        | ok error =>
          -- A wrong amount fails the payment, the exact one validates it.
          cases error with
          | some error =>
            exact holds_storeVerdict (hk'.promise (.failure d (hfound _ _)
              ⟨hv.1, .inr ⟨error, hde⟩⟩ rfl))
          | none =>
            exact holds_storeVerdict (hk'.promise (.payment d (hfound _ _) ⟨hv.1, hv.2, hde⟩ rfl))
      · next hv =>
        split
        -- Every other validated code fails it.
        · next hv' =>
          have hcode : transactionResult env d ≠ "tesSUCCESS" := fun h => hv ⟨hv', h⟩
          exact holds_storeVerdict (hk'.promise (.failure d (hfound _ _) ⟨hv', .inl hcode⟩ rfl))
        · exact ih hk'

omit [DecidableEq ι] in
/-- The verdict of `reconcile` is supported by the answer it is read from. -/
theorem evidence_reconcileVerdict {c : Call env} {log : Log ι} {a : Except Exc Json} {d : Dict}
    {error : Option String} (ha : LookedUp log i st a) (hd : (lookupOf a).transaction = some d)
    (hv : isValidated d = true)
    (hde : reconcileDeliveredError env (transactionResult env d) d c.requirements = .ok error) :
    Evidence c log i (reconcileVerdict st (transactionResult env d) error c.requirements) := by
  unfold reconcileVerdict
  unfold reconcileDeliveredError at hde
  by_cases hcode : transactionResult env d = "tesSUCCESS"
  · rw [if_pos hcode] at hde
    cases error with
    | none =>
      refine .payment d ⟨a, ha, hd⟩ ⟨hv, hcode, hde⟩ ?_
      simp [hcode]
    | some e =>
      refine .failure d ⟨a, ha, hd⟩ ⟨hv, .inr ⟨e, hde⟩⟩ ?_
      simp
  · refine .failure d ⟨a, ha, hd⟩ ⟨hv, .inl hcode⟩ ?_
    simp [hcode]

theorem holds_reconcileAbsence {ttl : Int} {a : Except Exc Json} (hk : Known (calls i) i s st)
    (ha : LookedUp s.log i st a) (habs : (lookupOf a).authoritativeAbsence = true) :
    (settleContract calls allowed).Holds i (reconcileAbsence env st (calls i).requirements ttl)
      (Ends (calls i) i) s := by
  unfold reconcileAbsence
  rw [currentLedgerOrNone_eq]
  refine holds_query rfl fun s' b _ hsub hown => ?_
  have hk' := hk.mono hsub hown rfl
  have ha' : LookedUp s'.log i st a := hsub _ ha
  change (settleContract calls allowed).Holds i (if _ then _ else _) _ _
  split
  · exact holds_storeVerdict (hk'.promise (.expiry a ha' habs rfl))
  · exact Outcome.pending _ _ _ _

theorem holds_reconcile {ttl : Int} (hk : Known (calls i) i s st)
    (hw : st.status ≠ .pending → Wrote s.log st) :
    (settleContract calls allowed).Holds i (reconcile env st (calls i).requirements ttl)
      (Ends (calls i) i) s := by
  unfold reconcile
  split
  · next hst => exact Outcome.verdict st hk.hash hk.fingerprint (hw hst) hst
  · refine holds_queryTransaction hk fun s' a hk' ha => ?_
    cases hd : (lookupOf a).transaction.filter isValidated with
    | some d =>
      obtain ⟨hd', hv⟩ := Option.filter_eq_some_iff.mp hd
      simp only
      cases hde : reconcileDeliveredError env (transactionResult env d) d (calls i).requirements with
      | error e => exact hk'.quiet
      | ok error => exact holds_storeVerdict (hk'.promise (evidence_reconcileVerdict ha hd' hv hde))
    | none =>
      simp only
      split
      · next habs => exact holds_reconcileAbsence hk' ha habs
      · exact Outcome.pending _ _ _ _

/-! ## Section 4: `settle` -/

theorem holds_settleExisting {existing : XRPLSettlementState} {hash : String}
    (hinv : Invariant calls s) (hhash : (calls i).HasHash hash) (ht : existing.transaction = hash)
    (hw : Wrote s.log existing) (hquiet : ∀ e ∈ own i s.log, e.op.isUpdate = false) :
    (settleContract calls allowed).Holds i
      (settleExisting (calls i).facilitator existing hash (calls i).fingerprint
        (calls i).requirements) (Ends (calls i) i) s := by
  subst ht
  unfold settleExisting
  split
  · next hfp => exact Outcome.mismatch existing hhash hw hfp
  · next hfp =>
    have hfp' : existing.paymentFingerprint = (calls i).fingerprint := not_not.mp hfp
    exact holds_reconcile ⟨hhash, hfp', hinv.reserved_of_wrote hw, hquiet⟩ fun _ => hw

/-- After its reservation a call submits at most once, and then polls. -/
theorem holds_submitAndWait {pending : XRPLSettlementState} {blob payer : String}
    (hk : Known (calls i) i s pending) (hpays : (calls i).Pays blob pending.transaction)
    (hst : pending.status = .pending) (hr : Reserved s.log i pending)
    (hfirst : ∀ e ∈ own i s.log, e.op.isSubmit = false) :
    (settleContract calls allowed).Holds i
      (submitAndWait (calls i).facilitator blob pending.transaction pending payer
        (calls i).requirements) (Ends (calls i) i) s := by
  simp only [submitAndWait]
  split
  · exact holds_reconcile hk fun h => absurd hst h
  · intro s₁ hrely _
    have hsub : ∀ e ∈ s.log, e ∈ s₁.log := fun e he => hrely.evolve.mem_log he
    refine ⟨⟨⟨pending, hr.mono hsub, hpays⟩, ?_⟩, fun a t _ _ _ => ?_⟩
    · rw [hrely.own_eq]
      exact hfirst
    · have hk₂ : Known (calls i) i (s₁.push i (.rpc (.submitOnly blob)) a t) pending := by
        refine hk.mono (e := ⟨.rpc (.submitOnly blob), a⟩)
          (fun e he => List.mem_cons_of_mem _ (hsub e he)) ?_ rfl
        rw [State.push_log, own_cons_self, hrely.own_eq]
      cases a with
      | ok result => exact holds_waitForValidation _ hk₂
      | error e => exact Outcome.pending _ _ _ _

omit [DecidableEq ι] in
theorem pendingState_transaction {c : Call env} {hash payer : String} {first last : Int}
    (h : c.HasHash hash) :
    (pendingState env c.payload c.requirements hash payer first last).transaction = hash :=
  (hasHash_key h).2

/-- Nothing but reads so far. -/
def OnlyReads (t : List (Event Op Ret)) : Prop :=
  ∀ e ∈ t, e.op.isUpdate = false ∧ e.op.isSubmit = false

theorem isQuery_reads {o : Op} (h : o.isQuery = true) : o.isUpdate = false ∧ o.isSubmit = false := by
  cases o with
  | rpc q => cases q <;> simp_all [Op.isQuery, Op.isUpdate, Op.isSubmit]
  | _ => cases h

theorem promise_of_isQuery {c : Call env} {log : Log ι} {o : Op}
    (h : o.isQuery = true) : Promise c i log o := by
  cases o with
  | rpc q => cases q <;> trivial
  | _ => cases h

/-- The reservation, on the free hash or on one that is taken. -/
theorem holds_reservePending {pending : XRPLSettlementState} {blob payer : String}
    (hpays : (calls i).Pays blob pending.transaction)
    (hp : ReservePromise (calls i) i s.log pending) (hreads : OnlyReads (own i s.log)) :
    (settleContract calls allowed).Holds i
      (reservePending (calls i).facilitator blob pending.transaction (calls i).fingerprint payer
        pending (calls i).requirements) (Ends (calls i) i) s := by
  unfold reservePending
  generalize settlementTtl (calls i).facilitator (calls i).requirements = ttl
  intro s₁ hrely _
  -- The promise was made before the reservation.
  refine ⟨?_, fun r t _ _ hinv₂ => ?_⟩
  · obtain ⟨t, ledger, ht, hown⟩ := hp.verified
    exact ⟨hp.hash, hp.fingerprint, hp.status, hp.last, t, ledger, ht, hrely.own_eq.trans hown⟩
  have hown : own i (s₁.push i (.reserve pending ttl) r t).log =
      own i s.log ++ [⟨.reserve pending ttl, r⟩] := by
    rw [State.push_log, own_cons_self, hrely.own_eq]
  have hreads' : OnlyReads (own i (s₁.push i (.reserve pending ttl) r t).log) := by
    intro e he
    rw [hown, List.mem_append, List.mem_singleton] at he
    rcases he with he | rfl
    · exact hreads e he
    · exact ⟨rfl, rfl⟩
  cases r with
  -- The call has reserved the hash, so it submits.
  | true =>
    have hr : Reserved (s₁.push i (.reserve pending ttl) (true : Bool) t).log i pending :=
      ⟨ttl, List.mem_cons_self⟩
    exact holds_submitAndWait ⟨hp.hash, hp.fingerprint, ⟨i, pending, hr, .refl _⟩,
      fun e he => (hreads' e he).1⟩ hpays hp.status hr fun e he => (hreads' e he).2
  -- Another call has, so its record is reconciled.
  | false =>
    refine holds_get (hasHash_key hp.hash).1 fun s' existing hinv' _ hown' hfound => ?_
    cases existing with
    | none => exact Outcome.pending _ _ _ _
    | some existing =>
      obtain ⟨ht, hw⟩ := hfound existing rfl
      refine holds_settleExisting hinv' hp.hash ht hw fun e he => ?_
      rw [hown', List.mem_append, List.mem_singleton] at he
      rcases he with he | rfl
      · exact (hreads' e he).1
      · rfl

/-- From a valid verification to the end of the call. -/
theorem holds_reserveAndSubmit {blob hash : String} {t : List (Event Op Ret)}
    (hpays : (calls i).Pays blob hash) (ht : (calls i).VerifiedOn t)
    (hown : own i s.log = ⟨.get hash, none⟩ :: t) (hquery : ∀ e ∈ t, e.op.isQuery = true) :
    (settleContract calls allowed).Holds i
      (reserveAndSubmit (calls i).facilitator (calls i).payload (calls i).requirements blob hash)
      (Ends (calls i) i) s := by
  have hhash : (calls i).HasHash hash := ⟨blob, hpays⟩
  have hreads : OnlyReads (own i s.log) := by
    intro e he
    rw [hown] at he
    rcases List.mem_cons.mp he with rfl | he
    · exact ⟨rfl, rfl⟩
    · exact isQuery_reads (hquery e he)
  -- A call that raises has only read so far.
  have hraise : ∀ e, Ends (calls i) i s (.error e) := fun _ e he => (hreads e he).1
  unfold reserveAndSubmit
  refine holds_lift (fun e => hraise _) fun tx htx => ?_
  refine holds_lift (fun e => hraise _) fun account _ => ?_
  refine holds_lift (fun e => hraise _) fun last hlast => ?_
  refine holds_lift (fun e => hraise _) fun lastLedger hlastLedger => ?_
  refine holds_query (q := .ledger) rfl fun s' a _ hsub hown' => ?_
  have hreads' : OnlyReads (own i s'.log) := by
    intro e he
    rw [hown', List.mem_append, List.mem_singleton] at he
    rcases he with he | rfl
    · exact hreads e he
    · exact ⟨rfl, rfl⟩
  refine holds_lift (fun e e' he' => (hreads' e' he').1) fun firstLedger _ => ?_
  -- The record to be reserved names the verified transaction.
  obtain ⟨pending, hpending⟩ : ∃ p, p = pendingState env (calls i).payload
    (calls i).requirements hash (str env.unicode account) firstLedger lastLedger := ⟨_, rfl⟩
  have htransaction : pending.transaction = hash := hpending ▸ pendingState_transaction hhash
  have hp : ReservePromise (calls i) i s'.log pending := by
    refine ⟨htransaction ▸ hhash, ?_, hpending ▸ rfl, ?_, t, a, ht, ?_⟩
    · rw [hpending]
      exact trim_paymentFingerprint _ _ _
    · rw [htransaction, hpending]
      exact ⟨blob, tx, last, hpays, htx, subscript_obj_eq_ok hlast, hlastLedger⟩
    · rw [hown', hown, htransaction]
      rfl
  have hres : (settleContract calls allowed).Holds i (reservePending (calls i).facilitator blob
      pending.transaction (calls i).fingerprint (str env.unicode account) pending
      (calls i).requirements) (Ends (calls i) i) s' :=
    holds_reservePending (htransaction ▸ hpays) hp hreads'
  rw [htransaction, hpending] at hres
  exact hres

/-- Every settle call keeps its promises and ends as described. -/
theorem holds_settle (hown : own i s.log = []) :
    (settleContract calls allowed).Holds i (calls i).run (Ends (calls i) i) s := by
  unfold Call.run settle
  split
  · next e he => exact Outcome.malformed e he
  · next blob hash hpays =>
    have hhash : (calls i).HasHash hash := ⟨blob, hpays⟩
    refine holds_get (hasHash_key hhash).1 fun s₁ existing hinv₁ hsub hown₁ hfound => ?_
    rw [hown, List.nil_append] at hown₁
    cases existing with
    | some existing =>
      obtain ⟨ht, hw⟩ := hfound existing rfl
      refine holds_settleExisting hinv₁ hhash ht hw fun e he => ?_
      rw [hown₁, List.mem_singleton] at he
      rw [he]
      rfl
    | none =>
      have hverify := Contract.Holds.of_uses (K := settleContract calls allowed) (i := i)
        (onlyQueries_verify (calls i).facilitator (calls i).pages (calls i).payload
          (calls i).requirements) (fun _ _ ho _ => promise_of_isQuery ho) hinv₁
      change (settleContract calls allowed).Holds i (verify _ _ _ _ >>= _) _ _
      refine Contract.holds_bind.mpr (hverify.mono fun s₂ r hr => ?_)
      obtain ⟨hinv₂, -, t, hpath, hown₂⟩ := hr
      rw [hown₁, List.singleton_append] at hown₂
      have hquery := (onlyQueries_verify (calls i).facilitator (calls i).pages (calls i).payload
        (calls i).requirements).of_path hpath
      cases r with
      | error e =>
        intro e' he'
        rw [hown₂] at he'
        rcases List.mem_cons.mp he' with rfl | he'
        · rfl
        · exact (isQuery_reads (hquery e' he')).1
      | ok v =>
        simp only
        split
        · next hv => exact holds_reserveAndSubmit hpays ⟨v, hpath, hv⟩ hown₂ hquery
        · next hv =>
          exact Outcome.refused hash hhash t v hpath (by simpa using hv) hown₂

end Holds

end XrplX402.Facilitator
