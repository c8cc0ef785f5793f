import XrplX402.Facilitator.Overlap

/-! # Expired payments

    `settle` answers `transaction_expired` when a lookup of the whole reserved
    window did not find the transaction and the window has passed.

    * **Results**: every verdict that a call stores, with the lookup that an
      expiry is based on.
    * `Contents`: which transactions are in which validated ledger.
    * An expiry is true exactly when no ledger before the window contains the
      transaction; a run in which one does is given. -/

namespace XrplX402.Facilitator

open Py Interaction Prog

variable {env : Env}

/-! ## Section 1: Results -/

/-- The reason of a transaction that was included and did not pay. -/
def IsFailureReason (reason : String) : Prop := ∃ text, reason = "transaction_failed: " ++ text

/-- A verdict, after the events `past`. -/
inductive VerdictAfter (past : List (Event Op Ret)) (st : XRPLSettlementState) : Prop where
  | completed (status : st.status = .validated)
  | failed (reason : String) (isReason : IsFailureReason reason) (status : st.status = .failed)
      (result : st.result = some (errorResult reason))
  | expired (answer : Except Exc Json)
      (lookup : (⟨.rpc (.tx st.transaction st.firstLedgerSequence st.lastLedgerSequence), answer⟩ :
        Event Op Ret) ∈ past)
      (absent : (lookupOf answer).authoritativeAbsence = true) (status : st.status = .failed)
      (result : st.result = some (errorResult "transaction_expired"))

/-- What is reserved has no result, and what is stored later is a verdict. -/
structure StoresVerdicts (past : List (Event Op Ret)) (o : Op) : Prop where
  reserve : ∀ st ttl, o = .reserve st ttl → st.status = .pending ∧ st.result = none
  update : ∀ st ttl, o = .update st ttl → VerdictAfter past st

theorem isFailureReason_of_deliveredAmountError {d : Dict} {r : PaymentRequirements} {e : String}
    (h : deliveredAmountError env d r = .ok (some e)) : IsFailureReason e := by
  unfold deliveredAmountError at h
  split at h
  · simp only at h
    split at h
    · rw [← Option.some.inj (Except.ok.inj h)]
      exact ⟨"delivered_amount_unavailable", by decide⟩
    · obtain ⟨equal, _, h⟩ := bind_eq_ok.mp h
      cases equal with
      | true => cases h
      | false =>
        rw [← Option.some.inj (Except.ok.inj h)]
        exact ⟨"delivered_amount_mismatch", by decide⟩
  · rw [← Option.some.inj (Except.ok.inj h)]
    exact ⟨"missing_metadata", by decide⟩

theorem IsFailureReason.ne_empty {reason : String} (h : IsFailureReason reason) : reason ≠ "" := by
  obtain ⟨text, rfl⟩ := h
  intro hempty
  have hlist := congrArg String.toList hempty
  rw [String.toList_append] at hlist
  cases hlist

/-- The verdict on a validated answer. -/
theorem verdictAfter_reconcileVerdict (past : List (Event Op Ret)) {st : XRPLSettlementState}
    {code : String} {error : Option String} {d : Dict} {r : PaymentRequirements}
    (h : reconcileDeliveredError env code d r = .ok error) :
    VerdictAfter past (reconcileVerdict st code error r) := by
  unfold reconcileDeliveredError at h
  unfold reconcileVerdict
  -- Success is stored where the delivered amount is right; all else is a failure with its reason.
  by_cases hcode : code = "tesSUCCESS"
  · rw [if_pos hcode] at h
    cases error with
    | none =>
      apply VerdictAfter.completed
      simp [hcode]
    | some e =>
      have hreason := isFailureReason_of_deliveredAmountError h
      apply VerdictAfter.failed e hreason
      · simp
      · simp [hreason.ne_empty, Option.filter_some]
  · rw [if_neg hcode] at h
    rw [← Except.ok.inj h]
    apply VerdictAfter.failed ("transaction_failed: " ++ code) ⟨code, rfl⟩
    · simp [hcode]
    · simp [hcode]

section Follows

variable {st : XRPLSettlementState} {r : PaymentRequirements} {ttl : Int}
variable {past : List (Event Op Ret)}

/-- Store a verdict and answer. -/
theorem follows_storeVerdict {resp : SettleResponse} (h : VerdictAfter past st) :
    (storeUpdate st ttl >>= fun _ => .ret resp).Follows StoresVerdicts past := by
  refine ⟨⟨?_, ?_⟩, fun _ => trivial⟩
  · intro st' ttl' heq
    cases heq
  · intro st' ttl' heq
    cases heq
    exact h

theorem storesVerdicts_of_reads {o : Op} (h : o.readsSettlements = true) :
    StoresVerdicts past o := by
  constructor
  · intro st' ttl' heq
    rw [heq] at h
    cases h
  · intro st' ttl' heq
    rw [heq] at h
    cases h

theorem follows_waitForValidation (attempts : Nat) :
    (waitForValidation env st r ttl attempts).Follows StoresVerdicts past := by
  induction attempts generalizing past with
  | zero => trivial
  | succ attempts ih =>
    refine ⟨storesVerdicts_of_reads rfl, fun answer => ?_⟩
    -- A poll that finds no transaction adds only a read to the past.
    cases hfound : (lookupOf answer).transaction with
    | none =>
      simp only [Prog.bind, hfound]
      exact ih
    | some d =>
      simp only [Prog.bind, hfound]
      split
      · apply follows_ofExcept_bind
        intro error herror
        rw [uncaught_eq_ok] at herror
        cases error with
        | none => exact follows_storeVerdict (.completed rfl)
        | some e =>
          exact follows_storeVerdict
            (.failed e (isFailureReason_of_deliveredAmountError herror) rfl rfl)
      · split
        · exact follows_storeVerdict (.failed _ ⟨_, rfl⟩ rfl rfl)
        · exact ih

theorem follows_reconcileAbsence {answer : Except Exc Json}
    (hlookup : (⟨.rpc (.tx st.transaction st.firstLedgerSequence st.lastLedgerSequence), answer⟩ :
      Event Op Ret) ∈ past) (habsent : (lookupOf answer).authoritativeAbsence = true) :
    (reconcileAbsence env st r ttl).Follows StoresVerdicts past := by
  unfold reconcileAbsence
  rw [currentLedgerOrNone_eq]
  refine ⟨storesVerdicts_of_reads rfl, fun ledger => ?_⟩
  show (if _ then _ else _ : Service SettleResponse).Follows StoresVerdicts _
  split
  · exact follows_storeVerdict (.expired answer (List.mem_append_left _ hlookup) habsent rfl rfl)
  · trivial

theorem follows_reconcile : (reconcile env st r ttl).Follows StoresVerdicts past := by
  unfold reconcile
  split
  · trivial
  · refine ⟨storesVerdicts_of_reads rfl, fun answer => ?_⟩
    -- The verdict is on the transaction that the node shows, or on its absence.
    cases hfound : (lookupOf answer).transaction.filter isValidated with
    | some d =>
      simp only [Prog.bind, hfound]
      apply follows_ofExcept_bind
      intro error herror
      exact follows_storeVerdict (verdictAfter_reconcileVerdict _ (uncaught_eq_ok.mp herror))
    | none =>
      simp only [Prog.bind, hfound]
      split
      · next habsent =>
        exact follows_reconcileAbsence (List.mem_append_right _ List.mem_cons_self) habsent
      · trivial

theorem follows_settleExisting {F : ExactXRPLFacilitatorScheme env} {hash fingerprint : String} :
    (settleExisting F st hash fingerprint r).Follows StoresVerdicts past := by
  unfold settleExisting
  split
  · trivial
  · exact follows_reconcile

theorem follows_submitAndWait {F : ExactXRPLFacilitatorScheme env} {blob hash payer : String} :
    (submitAndWait F blob hash st payer r).Follows StoresVerdicts past := by
  unfold submitAndWait
  simp only
  split
  · exact follows_reconcile
  · refine ⟨storesVerdicts_of_reads rfl, fun answer => ?_⟩
    cases answer with
    | ok _ => exact follows_waitForValidation _
    | error _ => trivial

theorem follows_reservePending {F : ExactXRPLFacilitatorScheme env}
    {blob hash fingerprint payer : String} (hst : st.status = .pending ∧ st.result = none) :
    (reservePending F blob hash fingerprint payer st r).Follows StoresVerdicts past := by
  refine ⟨⟨?_, ?_⟩, fun reserved => ?_⟩
  · intro st' ttl' heq
    cases heq
    exact hst
  · intro st' ttl' heq
    cases heq
  cases reserved with
  | true => exact follows_submitAndWait
  | false =>
    refine ⟨storesVerdicts_of_reads rfl, fun existing => ?_⟩
    cases existing with
    | none => trivial
    | some rec => exact follows_settleExisting

/-- Whatever a call stores is a verdict, and an expiry follows its lookup. -/
theorem follows_settle (F : ExactXRPLFacilitatorScheme env) (pages : Nat) (payload : PaymentPayload) :
    (settle F pages payload r).Follows StoresVerdicts past := by
  -- The verification only asks.
  have hquery : ∀ past (o : Op), o.isQuery = true → StoresVerdicts past o :=
    fun _ _ ho => storesVerdicts_of_reads (isQuery_readsSettlements ho)
  unfold settle
  split
  · trivial
  · next blob hash _ =>
    refine ⟨storesVerdicts_of_reads rfl, fun existing => ?_⟩
    -- A record that is found is answered; otherwise the payment is verified and reserved.
    cases existing with
    | some rec => exact follows_settleExisting
    | none =>
      apply ((onlyQueries_verify F pages payload r).follows hquery).bind
      intro t v _
      split
      · unfold reserveAndSubmit
        apply follows_ofExcept_bind
        intro tx _
        apply follows_ofExcept_bind
        intro account _
        apply follows_ofExcept_bind
        intro last _
        apply follows_ofExcept_bind
        intro lastLedger _
        apply (onlyQueries_currentLedger.follows hquery).bind
        intro t' firstLedger _
        exact follows_reservePending ⟨rfl, rfl⟩
      · trivial

end Follows

section Runs

variable {ι : Type} [DecidableEq ι] {calls : ι → Call env} {c : SettleConfig ι}
variable {allowed : SharedState ι → Entry ι Op Ret → Prop}

theorem storesVerdicts_of_mem
    (h : Run (settleSystem env calls) allowed (Config.init Stores.empty) c) {i : ι}
    {e : Event Op Ret} (hmem : (⟨e, i⟩ : Entry ι Op Ret) ∈ c.state.log) :
    ∃ past, StoresVerdicts past e.op ∧ ∀ e' ∈ past, (⟨e', i⟩ : Entry ι Op Ret) ∈ c.state.log := by
  obtain ⟨newer, older, hlog⟩ := List.append_of_mem hmem
  refine ⟨own i older, ?_, ?_⟩
  · have hfollows : ((settleSystem env calls).prog i).Follows StoresVerdicts [] := follows_settle _ _ _
    exact h.own_follows hfollows hlog
  · intro e' he'
    rw [hlog]
    exact List.mem_append_right _ (List.mem_cons_of_mem _ (mem_own.mp he'))

/-! ## Section 2: The reason of a record -/

/-- The record is answered with `transaction_expired`. -/
def SaysExpired (env : Env) (st : XRPLSettlementState) : Prop :=
  (stateResponse env st "").errorReason = some "transaction_expired"

theorem errorReason_stateResponse (st : XRPLSettlementState) (amount : String) :
    (stateResponse env st amount).errorReason = (stateResponse env st "").errorReason := by
  unfold stateResponse
  split
  · rfl
  · rfl

theorem errorReason_of_result {st : XRPLSettlementState} {reason : String}
    (hstatus : st.status = .failed) (hresult : st.result = some (errorResult reason)) :
    (stateResponse env st "").errorReason = some reason := by
  unfold stateResponse
  rw [hstatus, if_neg (by decide), hresult]
  rfl

theorem not_isFailureReason_expired : ¬ IsFailureReason "transaction_expired" := by
  rintro ⟨text, htext⟩
  have hlist := congrArg (fun s : String => s.toList.take 14) htext
  simp only [String.toList_append] at hlist
  exact absurd hlist (by simp)

/-- An expired record was looked up, and a complete search did not find it. -/
theorem lookup_of_saysExpired
    (h : Run (settleSystem env calls) allowed (Config.init Stores.empty) c)
    {st : XRPLSettlementState} (hw : Wrote c.state.log st) (hx : SaysExpired env st) :
    ∃ i a, LookedUp c.state.log i st a ∧ (lookupOf a).authoritativeAbsence = true := by
  obtain ⟨i, ⟨ttl, hmem⟩ | ⟨ttl, hmem⟩⟩ := hw
  · -- A reservation has no result to be answered with.
    obtain ⟨past, hstores, -⟩ := storesVerdicts_of_mem h hmem
    obtain ⟨hstatus, hresult⟩ := hstores.reserve st ttl rfl
    unfold SaysExpired stateResponse at hx
    rw [hstatus, if_neg (by decide), hresult] at hx
    have hreason : "transaction_failed" = "transaction_expired" := Option.some.inj hx
    exact absurd hreason (by decide)
  · obtain ⟨past, hstores, hpast⟩ := storesVerdicts_of_mem h hmem
    unfold SaysExpired at hx
    -- Only a verdict of expiry has that reason.
    cases hstores.update st ttl rfl with
    | completed status =>
      unfold stateResponse at hx
      rw [if_pos status] at hx
      cases hx
    | failed reason isReason status result =>
      rw [errorReason_of_result status result] at hx
      rw [Option.some.inj hx] at isReason
      exact absurd isReason not_isFailureReason_expired
    | expired answer lookup absent status result =>
      exact ⟨i, answer, hpast _ lookup, absent⟩

/-! ## Section 3: Validated ledgers -/

/-- Which transactions, by their ids, are in which validated ledger. -/
structure Contents where
  contains : Int → String → Prop
  /-- Every transaction has an id. -/
  named : ∀ n, ¬ contains n ""

/-- All that is relied on: after a complete search no ledger of the range
    contains the transaction. -/
def Contents.Answers (H : Contents) : (o : Op) → Ret o → Prop
  | .rpc (.tx transaction minLedger maxLedger), answer =>
    (lookupOf answer).authoritativeAbsence = true →
      ∀ n, minLedger ≤ n → n ≤ maxLedger → ¬ H.contains n transaction
  | _, _ => True

def Contents.Allows (H : Contents) (_ : SharedState ι) (e : Entry ι Op Ret) : Prop :=
  H.Answers e.op e.ans

/-- No ledger up to `LastLedgerSequence` contains the transaction. -/
def Contents.Misses (H : Contents) (st : XRPLSettlementState) : Prop :=
  ∀ n, n ≤ st.lastLedgerSequence → ¬ H.contains n st.transaction

/-- No ledger before the reserved window contains the transaction. -/
def Contents.WindowReaches (H : Contents) (st : XRPLSettlementState) : Prop :=
  ∀ n, n ≤ st.lastLedgerSequence → n < st.firstLedgerSequence → ¬ H.contains n st.transaction

/-- Whatever says that a payment expired is right. -/
structure NeverLies (env : Env) (H : Contents) (c : SettleConfig ι) : Prop where
  stored : ∀ st, Wrote c.state.log st → SaysExpired env st → H.Misses st
  returned : ∀ i resp, c.threads i = some (.ret resp) →
    resp.errorReason = some "transaction_expired" →
    ∀ j st, Reserved c.state.log j st → st.transaction = resp.transaction → H.Misses st

variable {H : Contents}

/-- The window of an expired record does not contain the transaction. -/
theorem not_in_window
    (h : Run (settleSystem env calls) H.Allows (Config.init Stores.empty) c)
    {st : XRPLSettlementState} (hw : Wrote c.state.log st) (hx : SaysExpired env st) :
    ∀ n, st.firstLedgerSequence ≤ n → n ≤ st.lastLedgerSequence → ¬ H.contains n st.transaction := by
  obtain ⟨i, a, hlookup, habsent⟩ := lookup_of_saysExpired h hw hx
  have hevery := h.every_entry (P := fun e _ => H.Answers e.op e.ans) fun _ _ hallowed => hallowed
  obtain ⟨_, _, _, hanswers⟩ := hevery.of_mem hlookup
  exact hanswers habsent

theorem misses_iff_windowReaches
    (h : Run (settleSystem env calls) H.Allows (Config.init Stores.empty) c)
    {st : XRPLSettlementState} (hw : Wrote c.state.log st) (hx : SaysExpired env st) :
    H.Misses st ↔ H.WindowReaches st := by
  constructor
  · intro hmisses n hlast _
    exact hmisses n hlast
  · intro hreaches n hlast
    by_cases hfirst : n < st.firstLedgerSequence
    · exact hreaches n hlast hfirst
    · exact not_in_window h hw hx n (not_lt.mp hfirst) hlast

omit [DecidableEq ι] in
theorem Contents.misses_congr {st st' : XRPLSettlementState} (h : st.SamePayment st') :
    H.Misses st ↔ H.Misses st' := by
  obtain ⟨htransaction, -, -, -, hlast, -⟩ := h
  unfold Contents.Misses
  rw [htransaction, hlast]

omit [DecidableEq ι] in
theorem Contents.windowReaches_congr {st st' : XRPLSettlementState} (h : st.SamePayment st') :
    H.WindowReaches st ↔ H.WindowReaches st' := by
  obtain ⟨htransaction, -, -, hfirst, hlast, -⟩ := h
  unfold Contents.WindowReaches
  rw [htransaction, hfirst, hlast]

omit [DecidableEq ι] in
/-- The window reaches back to the payment if at most one ledger closed between
    any query of the verification and the query for the first ledger. -/
theorem window_of_prompt_verification {tx : Dict} {L : Ledger env tx}
    {F : ExactXRPLFacilitatorScheme env} {pages : Nat} {payload : PaymentPayload}
    {requirements : PaymentRequirements} {t : List (Event Op Ret)} {v : VerifyResponse}
    {blob hash : String} {firstLedger m : Int} {d : Dict}
    (hpays : payloadHash env payload = .ok (blob, hash)) (htx : env.decode blob = .ok tx)
    (hpath : Path (verify F pages payload requirements) t (.ok v)) (hvalid : v.isValid = true)
    (hprompt : ∀ q answer, (⟨.rpc q, answer⟩ : Event Op Ret) ∈ t →
      ∃ n, firstLedger ≤ n + 1 ∧ L.Answers (payerOf env tx) hash n q answer)
    (hincluded : L.included = some (m, d)) : firstLedger ≤ m := by
  by_contra hlate
  have hafter : AnsweredAfter L (payerOf env tx) hash m t := by
    intro q answer hmem
    obtain ⟨n, hn, hanswers⟩ := hprompt q answer hmem
    exact ⟨n, by omega, hanswers⟩
  have hinvalid := not_valid_after_inclusion hpays htx hincluded hafter hpath
  rw [hvalid] at hinvalid
  cases hinvalid

/-- A response with this reason is the answer of an expired record, or it names
    no transaction. -/
theorem record_of_expired
    (h : Run (settleSystem env calls) allowed (Config.init Stores.empty) c) {i : ι}
    {resp : SettleResponse} (hi : c.threads i = some (.ret resp))
    (hx : resp.errorReason = some "transaction_expired") :
    resp.transaction = "" ∨ ∃ rec, Wrote c.state.log rec ∧ SaysExpired env rec ∧
      resp.transaction = rec.transaction := by
  obtain ⟨s, -, hrely, hends⟩ := (settle_good h).ended hi ⟨rfl, rfl⟩
  have hsub : ∀ e ∈ s.log, e ∈ c.state.log := fun e he => hrely.evolve.mem_log he
  change Outcome (calls i) s i resp at hends
  -- Two ways to end name no transaction, and two another reason.
  cases hends with
  | malformed e _ => exact .inl rfl
  | refused hash _ t v _ _ _ => exact .inl rfl
  | mismatch rec _ _ _ =>
    have hreason := Option.some.inj hx
    exact absurd hreason (by decide)
  | pending transaction network payer amount =>
    have hreason := Option.some.inj hx
    exact absurd hreason (by decide)
  | verdict rec _ _ wrote terminal =>
    rw [errorReason_stateResponse] at hx
    obtain ⟨k, hk⟩ := wrote
    refine .inr ⟨rec, ⟨k, hk.imp (·.mono hsub) (·.mono hsub)⟩, hx, ?_⟩
    unfold stateResponse
    split
    · rfl
    · rfl

theorem transaction_expired_is_true (calls : ι → Call env) (H : Contents) (c : SettleConfig ι)
    (h : Run (settleSystem env calls) H.Allows (Config.init Stores.empty) c) :
    -- An expiry is true exactly when the window reaches back far enough,
    (∀ st, Wrote c.state.log st → SaysExpired env st → (H.Misses st ↔ H.WindowReaches st)) ∧
    -- and a run in which every reserved window does so never lies.
    ((∀ i st, Reserved c.state.log i st → H.WindowReaches st) → NeverLies env H c) := by
  refine ⟨fun st hw hx => misses_iff_windowReaches h hw hx, fun hwindows => ?_⟩
  have hinv := settle_invariant h
  have hstored : ∀ st, Wrote c.state.log st → SaysExpired env st → H.Misses st := by
    intro st hw hx
    obtain ⟨j, q, hq, hsame⟩ := hinv.reserved_of_wrote hw
    apply (misses_iff_windowReaches h hw hx).mpr
    exact (Contents.windowReaches_congr hsame).mp (hwindows j q hq)
  refine ⟨hstored, ?_⟩
  intro i resp hi hx j st hr htransaction
  rcases record_of_expired h hi hx with hempty | ⟨rec, hw, hexpired, hrec⟩
  · intro n _
    rw [htransaction, hempty]
    exact H.named n
  · have hsame := hinv.samePayment_of_wrote ⟨j, .inl hr⟩ hw (htransaction.trans hrec)
    exact (Contents.misses_congr hsame).mpr (hstored rec hw hexpired)

end Runs

/-! ### A payment in a ledger before the window -/

namespace Sample

/-- The numerals of the run below. -/
local instance threeExpiring : NeZero 3 := ⟨by decide⟩

def notFound : Dict := [("error", .str "txnNotFound"), ("searched_all", .bool true)]

/-- A lookup in this range when the last validated ledger is `n`. Ledger 101
    includes the payment. -/
def searchAnswer (n minLedger maxLedger : Int) : Except Exc Json :=
  if minLedger ≤ 101 ∧ 101 ≤ maxLedger ∧ 101 ≤ n then .ok (.obj paid)
  else if maxLedger ≤ n then .ok (.obj notFound)
  else .error ⟨.other, "timeout"⟩

def searchingNode (n : Int) : RpcRequest → Except Exc Json
  | .tx _ minLedger maxLedger => searchAnswer n minLedger maxLedger
  | q => node n q

/-- Two ledgers close after the simulation, and the rest of the window after
    call 0 has ended. -/
def lateClock (operations : Nat) : Int :=
  if operations < 4 then 100 else if operations < 8 then 102 else 110

def lateLedger : Ledger sampleEnv tx :=
  { ledgerBefore 0 with
    clock := lateClock
    advancing := by
      intro a b hab
      unfold lateClock
      split <;> split <;> (try split) <;> (try split) <;> omega }

def lateContents : Contents where
  contains n transaction := n = 101 ∧ transaction = hash
  named := by
    intro n h
    exact absurd h.2 (by decide)

/-- Whoever looks, no ledger contains anything. -/
def noContents : Contents := ⟨fun _ _ => False, fun _ h => h⟩

/-- The answers agree with the ledger and with what a lookup documents. -/
def lateAllows (s : SharedState (Fin 3)) (e : Entry (Fin 3) Op Ret) : Prop :=
  lateLedger.Allows "rPayer" hash s e ∧ lateContents.Allows s e

def lateStep (i : Fin 3) : Step :=
  .call i fun s => answers sampleEnv (searchingNode (lateClock s.log.length)) s.shared

theorem searchingNode_answers (n : Int) (q : RpcRequest) :
    lateLedger.Answers "rPayer" hash n q (searchingNode n q) ∧
      lateContents.Answers (.rpc q) (searchingNode n q) := by
  cases q with
  | tx transaction minLedger maxLedger =>
    have hfound : lookupOf (.ok (.obj paid)) = ⟨some paid, false⟩ := by decide
    have hmissing : lookupOf (.ok (.obj notFound)) = ⟨none, true⟩ := by decide
    show lateLedger.Answers "rPayer" hash n (.tx transaction minLedger maxLedger)
        (searchAnswer n minLedger maxLedger) ∧
      lateContents.Answers (.rpc (.tx transaction minLedger maxLedger))
        (searchAnswer n minLedger maxLedger)
    unfold searchAnswer
    -- The search finds the transaction if its range and the ledger reach 101.
    by_cases hin : minLedger ≤ 101 ∧ 101 ≤ maxLedger ∧ 101 ≤ n
    · rw [if_pos hin]
      constructor
      · intro _
        rw [hfound]
        refine ⟨fun d hd _ => ⟨101, paid, rfl, hin.2.2, ?_⟩, fun habsent => (by cases habsent)⟩
        rw [← Option.some.inj hd]
      · intro habsent
        rw [hfound] at habsent
        cases habsent
    · rw [if_neg hin]
      by_cases hmax : maxLedger ≤ n
      · rw [if_pos hmax]
        constructor
        · intro _
          rw [hmissing]
          refine ⟨fun d hd => (by cases hd), fun _ => ⟨hmax, fun m d hincluded => ?_⟩⟩
          obtain rfl : 101 = m := congrArg Prod.fst (Option.some.inj hincluded)
          omega
        · intro _ k hmin hk hcontains
          obtain ⟨rfl, -⟩ := hcontains
          omega
      · rw [if_neg hmax]
        exact ⟨fun _ => ⟨fun d hd => (by cases hd), fun habsent => (by cases habsent)⟩,
          fun habsent => (by cases habsent)⟩
  | ledger => exact ⟨node_answers 0 n .ledger, trivial⟩
  | accountInfo account => exact ⟨node_answers 0 n (.accountInfo account), trivial⟩
  | accountObjects account marker => exact ⟨node_answers 0 n (.accountObjects account marker), trivial⟩
  | _ => exact ⟨trivial, trivial⟩

theorem lateStep_obeys (i : Fin 3) : (lateStep i).Obeys lateAllows := by
  intro s o
  cases o with
  | rpc q => exact searchingNode_answers _ q
  | _ => exact ⟨trivial, trivial⟩

/-- Call 0 reserves with ledger 102 and leaves the payment pending; call 1
    reconciles it when the window has passed. -/
def lateSchedule : List Step :=
  [.start 0] ++ List.replicate 8 (lateStep 0) ++ [.start 1] ++ List.replicate 4 (lateStep 1)

def expiredState : XRPLSettlementState :=
  (pendingState sampleEnv payload requirements hash "rPayer" 102 110).withResult .failed
    (errorResult "transaction_expired")

def expiredResponse : SettleResponse := stateResponse sampleEnv expiredState "1000"

/-- Call 1 has stored the expiry and answered with it. -/
def hasExpired (c : SettleConfig (Fin 3)) : Bool :=
  c.outcome 1 = some (.ok expiredResponse) &&
    c.state.log.any fun e => e.op = .update expiredState 604800

theorem run_expired : ∃ c, Run (settleSystem sampleEnv sampleCalls) lateAllows
    (Config.init Stores.empty) c ∧ c.threads 1 = some (.ret expiredResponse) ∧
    Wrote c.state.log expiredState := by
  have hreplay : (runFrom lateSchedule).any hasExpired = true := by decide +kernel
  have hobeys : ∀ l ∈ lateSchedule, l.Obeys lateAllows := by
    intro l hl
    simp only [lateSchedule, List.mem_append, List.mem_cons, List.mem_replicate, List.not_mem_nil,
      or_false] at hl
    rcases hl with ((rfl | ⟨-, rfl⟩) | rfl) | ⟨-, rfl⟩
    · trivial
    · exact lateStep_obeys 0
    · trivial
    · exact lateStep_obeys 1
  obtain ⟨c, hrun, hc⟩ := System.exists_run hobeys hreplay
  simp only [hasExpired, Bool.and_eq_true, decide_eq_true_eq, List.any_eq_true] at hc
  obtain ⟨hended, ⟨⟨op, answer⟩, who⟩, hmem, rfl⟩ := hc
  exact ⟨c, hrun, Config.outcome_eq_ok.mp hended, who, .inr ⟨604800, hmem⟩⟩

end Sample

/-- Ledgers 101 and 102 close between the account query and the ledger query of
    one call. Ledger 101 contains the payment, the window starts at 102. -/
theorem included_payment_expires : ∃ c,
    Run (settleSystem Sample.sampleEnv Sample.sampleCalls) Sample.lateAllows
      (Config.init Stores.empty) c ∧
    c.threads 1 = some (.ret Sample.expiredResponse) ∧
    ¬ NeverLies Sample.sampleEnv Sample.lateContents c := by
  obtain ⟨c, hrun, hended, hwrote⟩ := Sample.run_expired
  refine ⟨c, hrun, hended, fun hnever => ?_⟩
  have hmisses := hnever.stored Sample.expiredState hwrote rfl
  exact hmisses 101 (by decide) ⟨rfl, by decide⟩

theorem transaction_expired_is_true_sample : ∃ c : SettleConfig (Fin 3),
    c.threads 1 = some (.ret Sample.expiredResponse) ∧
    NeverLies Sample.sampleEnv Sample.noContents c := by
  obtain ⟨c, hrun, hended, -⟩ := Sample.run_expired
  refine ⟨c, hended, ?_⟩
  have hrun' : Run (settleSystem Sample.sampleEnv Sample.sampleCalls) Sample.noContents.Allows
      (Config.init Stores.empty) c := by
    apply hrun.mono
    rintro s ⟨⟨op, answer⟩, who⟩ -
    cases op with
    | rpc q =>
      cases q with
      | tx transaction minLedger maxLedger => exact fun _ _ _ _ h => h
      | _ => trivial
    | _ => trivial
  exact (transaction_expired_is_true Sample.sampleCalls Sample.noContents c hrun').2
    fun _ _ _ _ _ _ h => h

end XrplX402.Facilitator
