import XrplX402.Payer.OnePayload

/-! # Recorded outcomes

    What `record_outcome` does to the attempt that is stored for a fingerprint:
    when it leaves it alone, when it removes it, and what a crash in the middle
    leaves behind.

    * `outcome_of_other_payload`: an outcome leaves the attempt alone exactly
      when it is late or changes nothing.
    * `failure_frees_request`: a failure frees the request exactly when it is
      not late.
    * `crash_recovery_iff`: a later recording repairs every crash except one. -/

namespace XrplX402.Payer

open Py Interaction

/-! ## Section 1: Outcomes and other payloads -/

section Apart

variable {ι : Type} {E : PayerEnv} {callers : ι → Caller} {s : JournalState ι} {f : String}

/-- Recording the outcome changes nothing about the attempt. -/
def Harmless (receipt : ReceiptRecord) (reuseUntil : ℚ) (records : List ReceiptRecord)
    (a : PaymentAttempt) : Prop :=
  Late receipt records ∨
    (receipt.state = .pending ∧ a.state = .pending ∧ a.leaseExpiresAt = 0) ∨
    (receipt.state = .paid ∧ a.state = .paid ∧ a.leaseExpiresAt = reuseUntil)

theorem afterOutcome_eq_self {a : PaymentAttempt} {reuseUntil : ℚ} {state : ReceiptState} :
    a.afterOutcome reuseUntil state = some a ↔
      (state = .pending ∧ a.state = .pending ∧ a.leaseExpiresAt = 0) ∨
      (state = .paid ∧ a.state = .paid ∧ a.leaseExpiresAt = reuseUntil) := by
  obtain ⟨fingerprint, payer, scope, token, st, lease, payload, identifier⟩ := a
  cases state with
  | pending => simp [PaymentAttempt.afterOutcome, eq_comm]
  | paid => simp [PaymentAttempt.afterOutcome, eq_comm]
  | failed => simp [PaymentAttempt.afterOutcome]

/-- An outcome leaves the attempt for its fingerprint alone exactly when it is
    harmless. -/
theorem attempt_unchanged_iff {env : Env} {j j' : Journal} (h : j.Sound env) {a : PaymentAttempt}
    (ha : j.attempt f = some a) {receipt : ReceiptRecord} {reuse : ℚ}
    {r : Timed (Except Exc Bool)} (hf : receipt.fingerprint = some f)
    (hx : exec env j (.recordOutcome receipt reuse) r = some j') :
    j'.attempt f = some a ↔ Harmless receipt (r.now + reuse) j.records a := by
  rw [exec_recordOutcome hx, attempt_recordOutcome h]
  unfold Harmless
  by_cases hlate : Late receipt j.records
  · rw [if_neg fun hn => hn.1 hlate]
    exact ⟨fun _ => .inl hlate, fun _ => ha⟩
  · rw [if_pos ⟨hlate, hf⟩, ha, Option.bind_some, afterOutcome_eq_self]
    constructor
    · exact .inr
    · exact fun hh => hh.resolve_left hlate

/-- Caller `i` has dispatched the payload. -/
def DispatchedBy (log : List (Entry ι Op Ret)) (i : ι) (payload : PaymentPayload) : Prop :=
  ∃ e ∈ log, e.who = i ∧ Dispatches payload e.op

/-- An outcome for the fingerprint, where one is recorded, is harmless, unless
    it is about the payload that is stored and no failure. -/
def OutcomesApart (f : String) (s : JournalState ι) (e : Entry ι Op Ret) : Prop :=
  match e with
  | ⟨⟨.recordOutcome receipt reuse, r⟩, i⟩ => receipt.fingerprint = some f →
      ∀ a, s.shared.attempt f = some a → Harmless receipt (r.now + reuse) s.shared.records a ∨
        (receipt.state ≠ .failed ∧ ∃ payload, a.paymentPayload = some payload ∧
          DispatchedBy s.log i payload)
  | _ => True

/-- Nothing but outcomes that stay apart can happen to a stored payload here. -/
theorem kept_of_apart {env : Env} {i : ι} {o : Op} {r : Ret o} {j' : Journal} {a : PaymentAttempt}
    (hj : s.shared.Sound env) (hx : exec env s.shared o r = some j')
    (ha : s.shared.attempt f = some a) (hp : a.paymentPayload.isSome)
    (hprune : ¬ Prunes f s ⟨o, r⟩) (hapart : OutcomesApart f s ⟨⟨o, r⟩, i⟩) :
    ∃ a', j'.attempt f = some a' ∧ SameAttempt a a' := by
  by_cases hfailure : RecordsFailure f o
  · obtain ⟨receipt, reuse, rfl, hf, hstate⟩ := hfailure
    rcases hapart hf a ha with hharmless | ⟨hne, -⟩
    · exact ⟨a, (attempt_unchanged_iff hj ha hf hx).mpr hharmless, .refl a⟩
    · exact absurd hstate hne
  · exact kept_of_step (i := i) hj hx ha hp fun hfree => hfree.elim hfailure hprune

variable [DecidableEq ι] {c c' : PayConfig ι}

/-- What holds of every reachable journal and every outcome. -/
structure OutcomesOfOthers (E : PayerEnv) (callers : ι → Caller) (c : PayConfig ι) : Prop where
  /-- Exactly the harmless outcomes leave the stored attempt as it is. -/
  unchanged : ∀ {f a receipt reuse r j'}, c.state.shared.attempt f = some a →
    receipt.fingerprint = some f →
    exec E.toEnv c.state.shared (.recordOutcome receipt reuse) r = some j' →
      (j'.attempt f = some a ↔ Harmless receipt (r.now + reuse) c.state.shared.records a)
  /-- In runs of such outcomes a stored payload stays. -/
  kept : ∀ {f a c'}, c.state.shared.attempt f = some a → a.paymentPayload.isSome →
    Run (callerSystem E callers) (fun s e => Lawful E.toEnv s e ∧ ¬ Prunes f s e.toEvent ∧
      OutcomesApart f s e) c c' →
      ∃ a', c'.state.shared.attempt f = some a' ∧ SameAttempt a a'

/-- An outcome belongs to one payload as long as all outcomes of others are
    harmless. -/
theorem outcome_of_other_payload
    (h : Run (callerSystem E callers) (Lawful E.toEnv) (Config.init Journal.empty) c) :
    OutcomesOfOthers E callers c := by
  have hinv : JournalInvariant E.toEnv c.state := (handsPersisted_of_run (fun _ _ ha => ha) h).1
  refine ⟨fun ha hf hx => attempt_unchanged_iff hinv.sound ha hf hx, ?_⟩
  intro f a c' ha hp hrun
  have hboth : JournalInvariant E.toEnv c'.state ∧
      ∃ a', c'.state.shared.attempt f = some a' ∧ SameAttempt a a' := by
    refine hrun.keep (I := fun s => JournalInvariant E.toEnv s ∧
      ∃ a', s.shared.attempt f = some a' ∧ SameAttempt a a') ?_ ⟨hinv, a, ha, .refl a⟩
    rintro s i o r t ⟨hs, a', ha', hsame⟩ hx ⟨hlaw, hprune, hapart⟩
    obtain ⟨a'', ha'', hsame'⟩ :=
      kept_of_apart hs.sound hx ha' (hsame.payload ▸ hp) hprune hapart
    exact ⟨hs.step hx hlaw, a'', ha'', hsame.trans hsame'⟩
  exact hboth.2

end Apart

/-! ## Section 2: Terminal failures -/

section Failures

variable {ι : Type} {E : PayerEnv} {callers : ι → Caller} {f : String}

/-- Nothing is stored for the fingerprint, and whoever claims it next owns it. -/
structure Free (env : Env) (f : String) (j : Journal) : Prop where
  gone : j.attempt f = none
  granted : ∀ payer scope lease now token, strip scope ≠ "" →
    (claimAttempt env f payer scope lease now token j).1 =
      .ok ⟨newClaim f payer scope token (now + lease), some token⟩

theorem free_of_gone {env : Env} {j : Journal} (h : j.Sound env) (hgone : j.attempt f = none) :
    Free env f j := by
  refine ⟨hgone, fun payer scope lease now token hscope => ?_⟩
  have houtcome : ClaimOutcome j f payer scope lease now token
      (claimAttempt env f payer scope lease now token j).1
      (claimAttempt env f payer scope lease now token j).2 := claimAttempt_outcome h
  generalize claimAttempt env f payer scope lease now token j = result at houtcome
  obtain ⟨answer, j'⟩ := result
  -- Where there is no attempt, only an empty scope is refused.
  cases houtcome with
  | refused e reason =>
    rcases reason with hblank | ⟨attempt, hattempt, -⟩
    · exact absurd hblank hscope
    · rw [hgone] at hattempt
      cases hattempt
  | found attempt stored live allowed held =>
    rw [hgone] at stored
    cases stored
  | granted nonempty free => rfl

theorem attempt_recorded {env : Env} {j j' : Journal} (h : j.Sound env) {receipt : ReceiptRecord}
    {reuse : ℚ} {r : Timed (Except Exc Bool)}
    (hx : exec env j (.recordOutcome receipt reuse) r = some j') (f : String) :
    j'.attempt f = if ¬ Late receipt j.records ∧ receipt.fingerprint = some f then
      (j.attempt f).bind fun attempt => attempt.afterOutcome (r.now + reuse) receipt.state
    else j.attempt f := by
  rw [exec_recordOutcome hx, attempt_recordOutcome h]

/-- A failure frees the fingerprint of a stored attempt exactly when it is not
    late. -/
theorem free_iff_not_late {env : Env} {j j' : Journal} (h : j.Sound env) {a : PaymentAttempt}
    (ha : j.attempt f = some a) {receipt : ReceiptRecord} {reuse : ℚ}
    {r : Timed (Except Exc Bool)} (hf : receipt.fingerprint = some f)
    (hstate : receipt.state = .failed)
    (hx : exec env j (.recordOutcome receipt reuse) r = some j') :
    Free env f j' ↔ ¬ Late receipt j.records := by
  have hattempt := attempt_recorded h hx f
  have hsound : j'.Sound env := by
    rw [exec_recordOutcome hx]
    exact h.recordOutcome
  rw [hstate, ha] at hattempt
  -- A late failure leaves the attempt, and one in time removes it.
  constructor
  · intro hfree hlate
    rw [if_neg fun hn => hn.1 hlate, hfree.gone] at hattempt
    cases hattempt
  · intro hlate
    rw [if_pos ⟨hlate, hf⟩] at hattempt
    exact free_of_gone hsound hattempt

/-- A failure that is recorded is not late. -/
def FailureInTime (s : JournalState ι) (e : Entry ι Op Ret) : Prop :=
  ∀ receipt reuse, e.op = .recordOutcome receipt reuse → receipt.state = .failed →
    ¬ Late receipt s.shared.records

/-- After a failure in time nothing is stored. -/
theorem free_of_failure {env : Env} {s : JournalState ι} {i : ι} {o : Op} {r : Ret o} {j' : Journal}
    (h : s.shared.Sound env) (hx : exec env s.shared o r = some j')
    (htime : FailureInTime s ⟨⟨o, r⟩, i⟩) (hfailure : RecordsFailure f o) : Free env f j' := by
  obtain ⟨receipt, reuse, rfl, hf, hstate⟩ := hfailure
  have hlate := htime receipt reuse rfl hstate
  have hattempt := attempt_recorded h hx f
  rw [if_pos ⟨hlate, hf⟩, hstate] at hattempt
  refine free_of_gone ?_ ?_
  · rw [exec_recordOutcome hx]
    exact h.recordOutcome
  · rw [hattempt]
    cases s.shared.attempt f with
    | none => rfl
    | some a => rfl

variable [DecidableEq ι]

/-- In runs without late failures every failure frees its request. In every
    reachable journal a failure does so exactly when it is not late. -/
theorem failure_frees_request (E : PayerEnv) (callers : ι → Caller) :
    (∀ c, Run (callerSystem E callers) (fun s e => Lawful E.toEnv s e ∧ FailureInTime s e)
      (Config.init Journal.empty) c → ∀ f e older, c.state.log = e :: older →
        RecordsFailure f e.op → Free E.toEnv f c.state.shared) ∧
    ∀ c, Run (callerSystem E callers) (Lawful E.toEnv) (Config.init Journal.empty) c →
      ∀ f a payload receipt reuse r j', c.state.shared.attempt f = some a →
        a.paymentPayload = some payload → receipt.fingerprint = some f → receipt.state = .failed →
        exec E.toEnv c.state.shared (.recordOutcome receipt reuse) r = some j' →
          (Free E.toEnv f j' ↔ ¬ Late receipt c.state.shared.records) := by
  have hsound : ∀ {allowed c}, (∀ s e, allowed s e → Lawful E.toEnv s e) →
      Run (callerSystem E callers) allowed (Config.init Journal.empty) c →
        c.state.shared.Sound E.toEnv :=
    fun hlaw h => (handsPersisted_of_run hlaw h).1.sound
  constructor
  · intro c h f e older hlog hfailure
    -- The last event of the log belongs to the last step of the run.
    induction h with
    | refl => cases hlog
    | start i _ _ ih => exact ih hlog
    | @call c i o k r t hrun hi hx ha _ =>
      obtain ⟨rfl, -⟩ := List.cons.inj hlog
      exact free_of_failure (hsound (fun _ _ hs => hs.1) hrun) hx ha.2 hfailure
  · intro c h f a payload receipt reuse r j' ha _ hf hstate hx
    exact free_iff_not_late (hsound (fun _ _ hs => hs) h) ha hf hstate hx

end Failures

/-! ## Section 3: Crashes -/

section Crash

/-- Where the process dies inside `record_outcome`. -/
inductive CrashPoint where
  | beforeLine
  | beforeIndex
  | afterBoth
  deriving DecidableEq

/-- What an outcome makes of the index. -/
def outcomeIndex (env : Env) (f : String) (reuseUntil : ℚ) (state : ReceiptState) (index : Attempts) :
    Attempts :=
  match attemptFromIndex env index f with
  | .ok (some attempt) =>
    match attempt.afterOutcome reuseUntil state with
    | some updated => putAttempt index updated
    | none => index.erase f
  | _ => index

/-- What is left of the journal when the process dies there. -/
def recordOutcomeUntil (env : Env) (receipt : ReceiptRecord) (reuseSeconds now : ℚ) (j : Journal) :
    CrashPoint → Journal
  | .beforeLine => j
  | .beforeIndex =>
    if Late receipt j.records then j else ⟨j.attempts, (appendReceipt receipt j.records).2⟩
  | .afterBoth => (recordOutcome env receipt reuseSeconds now j).2

variable {env : Env} {receipt receipt' : ReceiptRecord} {f : String} {j : Journal}

/-- `record_outcome` writes the line, then the index. -/
theorem recordOutcome_eq (hf : receipt.fingerprint = some f) (reuse now : ℚ) :
    (recordOutcome env receipt reuse now j).2 =
      if Late receipt j.records then j
      else ⟨outcomeIndex env f (now + reuse) receipt.state j.attempts,
        (appendReceipt receipt j.records).2⟩ := by
  unfold recordOutcome
  split
  · rfl
  · simp only [hf]
    unfold outcomeIndex
    cases hread : attemptFromIndex env j.attempts f with
    | error e => rfl
    | ok found =>
      cases found with
      | none => rfl
      | some attempt => cases receipt.state <;> rfl

/-- Receipts with one fingerprint, state and transaction. -/
structure SameOutcome (a b : ReceiptRecord) : Prop where
  fingerprint : b.requestFingerprint = a.requestFingerprint
  state : b.state = a.state
  transaction : b.settlement.transaction = a.settlement.transaction

theorem SameOutcome.key (h : SameOutcome receipt receipt') : receipt'.key = receipt.key := by
  unfold ReceiptRecord.key ReceiptRecord.fingerprint
  rw [h.fingerprint, h.state, h.transaction]

theorem SameOutcome.late (h : SameOutcome receipt receipt') (records : List ReceiptRecord) :
    Late receipt' records ↔ Late receipt records := by
  unfold Late ReceiptRecord.fingerprint
  rw [h.fingerprint, h.state, h.transaction]

/-- The attempt apart from the end of its reuse window, which is counted from the
    last recording. -/
def PaymentAttempt.untimed (a : PaymentAttempt) : PaymentAttempt :=
  if a.state = .paid then { a with leaseExpiresAt := 0 } else a

/-- One state of receipts and attempts, by the keys of the receipts. -/
structure SameJournal (j j' : Journal) : Prop where
  receipts : j'.records.map ReceiptRecord.key = j.records.map ReceiptRecord.key
  attempts : ∀ g, (j'.attempt g).map PaymentAttempt.untimed = (j.attempt g).map PaymentAttempt.untimed

theorem SameJournal.refl (j : Journal) : SameJournal j j := ⟨rfl, fun _ => rfl⟩

theorem untimed_afterOutcome (a : PaymentAttempt) (u u' : ℚ) (state : ReceiptState) :
    (a.afterOutcome u state).map PaymentAttempt.untimed =
      (a.afterOutcome u' state).map PaymentAttempt.untimed := by
  cases state <;> rfl

/-- A second outcome of the same kind takes the place of the first. -/
theorem afterOutcome_afterOutcome {a b : PaymentAttempt} {u : ℚ} {state : ReceiptState}
    (h : a.afterOutcome u state = some b) (u' : ℚ) :
    b.afterOutcome u' state = a.afterOutcome u' state := by
  cases state with
  | pending =>
    obtain rfl := Option.some.inj h
    rfl
  | paid =>
    obtain rfl := Option.some.inj h
    rfl
  | failed => cases h

theorem identity_afterOutcome (env : Env) {a b : PaymentAttempt} {u : ℚ} {state : ReceiptState}
    (h : a.afterOutcome u state = some b) :
    b.fingerprint = a.fingerprint ∧ (b.Consistent env ↔ a.Consistent env) := by
  cases state with
  | pending =>
    obtain rfl := Option.some.inj h
    exact ⟨rfl, Iff.rfl⟩
  | paid =>
    obtain rfl := Option.some.inj h
    exact ⟨rfl, Iff.rfl⟩
  | failed => cases h

theorem lookup_putAttempt (index : Attempts) (a : PaymentAttempt) (g : String) :
    (putAttempt index a).lookup g = if g = a.fingerprint then some a else index.lookup g :=
  attempt_put ⟨index, []⟩ a g

theorem attemptFromIndex_eq_some {index : Attempts} {a : PaymentAttempt} :
    attemptFromIndex env index f = .ok (some a) ↔ index.lookup f = some a ∧ a.Consistent env := by
  unfold attemptFromIndex
  cases index.lookup f with
  | none => simp
  | some b =>
    simp only
    split
    · next hb =>
      constructor
      · intro h
        obtain rfl := Option.some.inj (Except.ok.inj h)
        exact ⟨rfl, hb⟩
      · rintro ⟨h, -⟩
        rw [h]
    · next hb =>
      constructor
      · intro h
        cases h
      · rintro ⟨h, ha⟩
        obtain rfl := Option.some.inj h
        exact absurd ha hb

/-- The index after an outcome, up to the time at which it was recorded. -/
theorem lookup_outcomeIndex_untimed (index : Attempts) (state : ReceiptState) (u u' : ℚ) (g : String) :
    ((outcomeIndex env f u' state index).lookup g).map PaymentAttempt.untimed =
      ((outcomeIndex env f u state index).lookup g).map PaymentAttempt.untimed := by
  unfold outcomeIndex
  split
  · next a hread =>
    have hsame := untimed_afterOutcome a u u' state
    cases hb : a.afterOutcome u state with
    | none =>
      cases hb' : a.afterOutcome u' state with
      | none => rfl
      | some b' =>
        rw [hb, hb'] at hsame
        cases hsame
    | some b =>
      cases hb' : a.afterOutcome u' state with
      | none =>
        rw [hb, hb'] at hsame
        cases hsame
      | some b' =>
        rw [hb, hb'] at hsame
        have hkey := (identity_afterOutcome env hb).1
        have hkey' := (identity_afterOutcome env hb').1
        simp only [lookup_putAttempt, hkey, hkey']
        split
        · exact hsame.symm
        · rfl
  · rfl

theorem outcomeIndex_of_unread {index : Attempts} {u : ℚ} {state : ReceiptState}
    (h : ¬ ∃ a, attemptFromIndex env index f = .ok (some a)) :
    outcomeIndex env f u state index = index := by
  unfold outcomeIndex
  split
  · next a hread => exact absurd ⟨a, hread⟩ h
  · rfl

theorem outcomeIndex_of_read {index : Attempts} {u : ℚ} {state : ReceiptState} {a b : PaymentAttempt}
    (h : attemptFromIndex env index f = .ok (some a)) (hb : a.afterOutcome u state = some b) :
    outcomeIndex env f u state index = putAttempt index b := by
  unfold outcomeIndex
  rw [h]
  simp only [hb]

theorem exists_afterOutcome (a : PaymentAttempt) (u : ℚ) {state : ReceiptState}
    (h : state ≠ .failed) : ∃ b, a.afterOutcome u state = some b := by
  cases state with
  | pending => exact ⟨_, rfl⟩
  | paid => exact ⟨_, rfl⟩
  | failed => exact absurd rfl h

/-- Recording an outcome again changes nothing but the time. -/
theorem lookup_outcomeIndex_again (index : Attempts) {state : ReceiptState} (hstate : state ≠ .failed)
    (u u' : ℚ) (g : String) :
    ((outcomeIndex env f u' state (outcomeIndex env f u state index)).lookup g).map
        PaymentAttempt.untimed =
      ((outcomeIndex env f u state index).lookup g).map PaymentAttempt.untimed := by
  by_cases hread : ∃ a, attemptFromIndex env index f = .ok (some a)
  · obtain ⟨a, ha⟩ := hread
    obtain ⟨b, hb⟩ := exists_afterOutcome a u hstate
    obtain ⟨b', hb'⟩ := exists_afterOutcome a u' hstate
    obtain ⟨hkey, hconsistent⟩ := identity_afterOutcome env hb
    have hkey' := (identity_afterOutcome env hb').1
    obtain ⟨hlookup, hok⟩ := attemptFromIndex_eq_some.mp ha
    rw [outcomeIndex_of_read ha hb]
    -- What is read the second time is the attempt or its first update.
    have hsecond : outcomeIndex env f u' state (putAttempt index b) = putAttempt (putAttempt index b) b' := by
      by_cases hf : f = b.fingerprint
      · have hread' : attemptFromIndex env (putAttempt index b) f = .ok (some b) :=
          attemptFromIndex_eq_some.mpr ⟨by rw [lookup_putAttempt, if_pos hf], hconsistent.mpr hok⟩
        exact outcomeIndex_of_read hread' ((afterOutcome_afterOutcome hb u').trans hb')
      · have hread' : attemptFromIndex env (putAttempt index b) f = .ok (some a) :=
          attemptFromIndex_eq_some.mpr ⟨by rw [lookup_putAttempt, if_neg hf, hlookup], hok⟩
        exact outcomeIndex_of_read hread' hb'
    have hsame := untimed_afterOutcome a u' u state
    rw [hb, hb'] at hsame
    rw [hsecond, lookup_putAttempt, lookup_putAttempt, hkey, hkey']
    split
    · exact hsame
    · rfl
  · rw [outcomeIndex_of_unread hread, outcomeIndex_of_unread hread]

/-! ### Receipts -/

theorem map_key_appendReceipt (h : SameOutcome receipt receipt') (records : List ReceiptRecord) :
    (appendReceipt receipt' records).2.map ReceiptRecord.key =
      (appendReceipt receipt records).2.map ReceiptRecord.key := by
  unfold appendReceipt
  rw [h.key]
  split
  · rfl
  · rw [List.map_append, List.map_append, List.map_singleton, List.map_singleton, h.key]

/-- A line that is there is not written again. -/
theorem appendReceipt_again (hf : receipt.fingerprint = some f) (h : SameOutcome receipt receipt')
    (records : List ReceiptRecord) :
    (appendReceipt receipt' (appendReceipt receipt records).2).2 = (appendReceipt receipt records).2 := by
  have hsome : receipt.key.isSome = true := by
    unfold ReceiptRecord.key
    rw [hf]
    rfl
  have hmem : (appendReceipt receipt records).2.any (fun existing => existing.key = receipt.key) = true := by
    unfold appendReceipt
    split
    · next hdup => exact hdup.2
    · simp
  generalize (appendReceipt receipt records).2 = written at hmem
  unfold appendReceipt
  rw [h.key, if_pos ⟨hsome, hmem⟩]

/-- Once its line is written, an outcome is late exactly when it is a failure. -/
theorem late_appendReceipt (hf : receipt.fingerprint = some f) {records : List ReceiptRecord}
    (hlate : ¬ Late receipt records) :
    Late receipt (appendReceipt receipt records).2 ↔ receipt.state = .failed := by
  have hsome : receipt.fingerprint.isSome = true := by
    rw [hf]
    rfl
  have hkeyed : receipt.requestFingerprint = some f := (Option.filter_eq_some_iff.mp hf).1
  constructor
  · rintro ⟨-, hpaid, existing, hmem, hfp, htx, hterminal⟩
    have hnew : existing = receipt := by
      by_contra hne
      refine hlate ⟨hsome, hpaid, existing, ?_, hfp, htx, hterminal⟩
      unfold appendReceipt at hmem
      split at hmem
      · exact hmem
      · rcases List.mem_append.mp hmem with hmem | hmem
        · exact hmem
        · exact absurd (List.mem_singleton.mp hmem) hne
    rw [hnew] at hterminal
    exact hterminal.resolve_left hpaid
  · intro hstate
    unfold appendReceipt
    split
    · next hdup =>
      -- A line with the same key would have made the failure late.
      obtain ⟨existing, hmem, hkey⟩ := List.any_eq_true.mp hdup.2
      have hkey : existing.key = receipt.key := of_decide_eq_true hkey
      have hreceipt : receipt.key = some (f, receipt.state, receipt.settlement.transaction) := by
        unfold ReceiptRecord.key
        rw [hf]
        rfl
      obtain ⟨g, hg, htriple⟩ := Option.map_eq_some_iff.mp (hkey.trans hreceipt)
      obtain ⟨rfl, hrest⟩ := Prod.mk.inj htriple
      obtain ⟨hstate', htx⟩ := Prod.mk.inj hrest
      have hfp : existing.requestFingerprint = some g := (Option.filter_eq_some_iff.mp hg).1
      exact ⟨hsome, by rw [hstate]; decide, existing, hmem, hfp.trans hkeyed.symm, htx,
        .inr (hstate'.trans hstate)⟩
    · refine ⟨hsome, by rw [hstate]; decide, receipt, ?_, rfl, rfl, .inr hstate⟩
      exact List.mem_append_right records (List.mem_singleton.mpr rfl)

/-! ### The replay -/

/-- What is left of the first call after its end, and after the replay that
    follows the crash. -/
structure Recovers (env : Env) (receipt : ReceiptRecord) (f : String) (j done replayed : Journal) :
    Prop where
  same : SameJournal done replayed
  /-- The receipt is present once. -/
  once : ¬ Late receipt j.records →
    (replayed.records.map ReceiptRecord.key).count receipt.key =
      max 1 ((j.records.map ReceiptRecord.key).count receipt.key)
  /-- The attempt is pending, paid or removed. -/
  settled : ¬ Late receipt j.records → j.Sound env →
    (replayed.attempt f).map PaymentAttempt.untimed =
      (j.attempt f).bind fun a => a.afterOutcome 0 receipt.state

theorem recovers_of_same {reuse now : ℚ} {replayed : Journal} (hf : receipt.fingerprint = some f)
    (h : SameJournal (recordOutcome env receipt reuse now j).2 replayed) :
    Recovers env receipt f j (recordOutcome env receipt reuse now j).2 replayed := by
  refine ⟨h, fun hlate => ?_, fun hlate hsound => ?_⟩
  · rw [h.receipts, recordOutcome_eq hf, if_neg hlate]
    simp only
    have hsome : receipt.key.isSome = true := by
      unfold ReceiptRecord.key
      rw [hf]
      rfl
    -- The line is there once, whether it was stored before or not.
    unfold appendReceipt
    split
    · next hdup =>
      obtain ⟨existing, hmem, hkey⟩ := List.any_eq_true.mp hdup.2
      have hpos : 0 < (j.records.map ReceiptRecord.key).count receipt.key :=
        List.count_pos_iff.mpr (List.mem_map.mpr ⟨existing, hmem, of_decide_eq_true hkey⟩)
      simp only
      omega
    · next hnew =>
      have hzero : (j.records.map ReceiptRecord.key).count receipt.key = 0 := by
        refine List.count_eq_zero.mpr fun hmem => hnew ⟨hsome, List.any_eq_true.mpr ?_⟩
        obtain ⟨existing, hexisting, hkey⟩ := List.mem_map.mp hmem
        exact ⟨existing, hexisting, decide_eq_true hkey⟩
      simp only [List.map_append, List.count_append, List.map_cons, List.map_nil, hzero]
      simp
  · rw [h.attempts f, attempt_recordOutcome hsound, if_pos ⟨hlate, hf⟩]
    cases j.attempt f with
    | none => rfl
    | some a => cases hstate : receipt.state <;> rfl

/-- A later recording brings the journal to the state after the first call,
    except for a failure whose line was written when the process died and whose
    attempt is still in the index. -/
theorem crash_recovery_iff (hf : receipt.fingerprint = some f) (h : SameOutcome receipt receipt')
    (crash : CrashPoint) (reuse now reuse' now' : ℚ) :
    Recovers env receipt f j (recordOutcome env receipt reuse now j).2
        (recordOutcome env receipt' reuse' now' (recordOutcomeUntil env receipt reuse now j crash)).2 ↔
      ¬ (crash = .beforeIndex ∧ receipt.state = .failed ∧ ¬ Late receipt j.records ∧
        ∃ a, attemptFromIndex env j.attempts f = .ok (some a)) := by
  have hf' : receipt'.fingerprint = some f := by
    unfold ReceiptRecord.fingerprint
    rw [h.fingerprint]
    exact hf
  have hdone : (recordOutcome env receipt reuse now j).2 = if Late receipt j.records then j
      else ⟨outcomeIndex env f (now + reuse) receipt.state j.attempts,
        (appendReceipt receipt j.records).2⟩ := recordOutcome_eq hf reuse now
  have hreplay : ∀ k : Journal, (recordOutcome env receipt' reuse' now' k).2 =
      if Late receipt k.records then k
      else ⟨outcomeIndex env f (now' + reuse') receipt.state k.attempts,
        (appendReceipt receipt' k.records).2⟩ := by
    intro k
    rw [recordOutcome_eq hf', h.state]
    simp only [h.late]
  by_cases hlate : Late receipt j.records
  · -- Neither call does anything.
    have huntil : recordOutcomeUntil env receipt reuse now j crash = j := by
      cases crash with
      | beforeLine => rfl
      | beforeIndex => exact if_pos hlate
      | afterBoth => exact hdone.trans (if_pos hlate)
    refine ⟨fun _ hn => hn.2.2.1 hlate, fun _ => recovers_of_same hf ?_⟩
    rw [hdone, if_pos hlate, huntil, hreplay, if_pos hlate]
    exact .refl j
  · rw [if_neg hlate] at hdone
    have hwritten := late_appendReceipt hf hlate
    -- What counts is how far the first call came.
    cases crash with
    | beforeLine =>
      refine ⟨fun _ hn => (by cases hn.1), fun _ => recovers_of_same hf ?_⟩
      rw [hdone, recordOutcomeUntil, hreplay, if_neg hlate]
      exact ⟨map_key_appendReceipt h j.records, lookup_outcomeIndex_untimed j.attempts _ _ _⟩
    | afterBoth =>
      refine ⟨fun _ hn => (by cases hn.1), fun _ => recovers_of_same hf ?_⟩
      rw [recordOutcomeUntil, hreplay, hdone]
      by_cases hfailed : receipt.state = .failed
      · rw [if_pos (hwritten.mpr hfailed)]
        exact .refl _
      · rw [if_neg fun hl => hfailed (hwritten.mp hl)]
        refine ⟨?_, lookup_outcomeIndex_again j.attempts hfailed _ _⟩
        rw [appendReceipt_again hf h]
    | beforeIndex =>
      have huntil : recordOutcomeUntil env receipt reuse now j .beforeIndex =
          ⟨j.attempts, (appendReceipt receipt j.records).2⟩ := if_neg hlate
      rw [huntil]
      by_cases hfailed : receipt.state = .failed
      · -- The replay stops at the line that is there.
        have hstuck := hreplay ⟨j.attempts, (appendReceipt receipt j.records).2⟩
        rw [if_pos (hwritten.mpr hfailed)] at hstuck
        rw [hstuck]
        constructor
        · rintro hrecovers ⟨-, -, -, a, ha⟩
          have hsame := hrecovers.same.attempts f
          have hgone : (recordOutcome env receipt reuse now j).2.attempt f = none := by
            rw [hdone, hfailed]
            unfold outcomeIndex
            rw [ha]
            exact AList.lookup_erase _ _
          rw [hgone] at hsame
          have hthere : j.attempts.lookup f = some a := (attemptFromIndex_eq_some.mp ha).1
          unfold Journal.attempt at hsame
          rw [hthere] at hsame
          cases hsame
        · intro hn
          refine recovers_of_same hf ?_
          rw [hdone, outcomeIndex_of_unread fun hread => hn ⟨rfl, hfailed, hlate, hread⟩]
          exact .refl _
      · refine ⟨fun _ hn => hfailed hn.2.1, fun _ => recovers_of_same hf ?_⟩
        rw [hdone, hreplay, if_neg fun hl => hfailed (hwritten.mp hl)]
        refine ⟨?_, lookup_outcomeIndex_untimed j.attempts _ _ _⟩
        rw [appendReceipt_again hf h]

end Crash

/-! ## Section 4: Runs -/

namespace Sample

/-- The numerals of the run below. -/
local instance fourPayers : NeZero 4 := ⟨by decide⟩

/-- Caller `i` has dispatched this payload and no other. -/
def dispatchedOnly (i : Fin 4) (payload : PaymentPayload) (c : PayConfig (Fin 4)) : Bool :=
  c.state.log.any (fun e => e.who = i && e.op = .httpRequest (upTo "1000").request (some payload)) &&
    c.state.log.all fun e => decide (e.who ≠ i) ||
      match e.op with
      | .httpRequest _ (some p) => p = payload
      | .callToolPaid _ _ _ => false
      | _ => true

/-- The last operation was this one of caller `i`. -/
def lastIs (i : Fin 4) (o : Op) (c : PayConfig (Fin 4)) : Bool :=
  c.state.log.head?.any fun e => e.who = i && e.op = o

/-- The failure that caller 1 records for the payload of caller 0. -/
def lateFailure : ReceiptRecord := (upTo "1000").receipt sampleEnv fingerprint (signed "AA") 402 .failed expired

/-- The failure that caller 2 records for its own payload. -/
def ownFailure : ReceiptRecord := (upTo "5000").receipt sampleEnv fingerprint (signed "BB") 402 .failed refused

/-- Caller 0 signs AA, caller 1 finds it and sends it too; caller 0 is refused,
    caller 2 signs BB, and caller 1 has got its answer but not recorded it. -/
def overtaken : List Step :=
  obtains 0 "t0" (signed "AA") ++ finds 1 "t1" ++ concludes 0 refusedHeader ++
    obtains 2 "t2" (signed "BB") ++ [step 1 0 "" (answeredBy expiredHeader) (signed "")]

/-- The step in which caller 1 records its answer. -/
def lateAnswer : Step := step 1 0 "" (answeredBy expiredHeader) (signed "")

/-- What the late answer does. -/
def freesOther (c : PayConfig (Fin 4)) : Bool :=
  storedPayload c = some (signed "BB") && dispatchedOnly 1 (signed "AA") c &&
    (system.step? c lateAnswer).any fun c' =>
      isLawfulLog sampleEnv.toEnv c'.state.log &&
        lastIs 1 (.recordOutcome lateFailure terminalReuseSeconds) c' &&
          (c'.state.shared.attempt fingerprint).isNone

theorem run_overtaken : ∃ c, Run system (Lawful sampleEnv.toEnv) (Config.init Journal.empty) c ∧
    freesOther c = true :=
  exists_lawful_run overtaken freesOther (by decide +kernel)

/-- Caller 0 is refused, caller 2 signs BB and is refused in the same words. -/
def refusedTwice : List Step :=
  obtains 0 "t0" (signed "AA") ++ concludes 0 refusedHeader ++
    obtains 2 "t2" (signed "BB") ++ concludes 2 refusedHeader

theorem run_refusedTwice : ∃ c, Run system (Lawful sampleEnv.toEnv) (Config.init Journal.empty) c ∧
    (lastIs 2 (.recordOutcome ownFailure terminalReuseSeconds) c = true ∧
      storedPayload c = some (signed "BB")) := by
  obtain ⟨c, hrun, hc⟩ := exists_lawful_run refusedTwice (fun c =>
    lastIs 2 (.recordOutcome ownFailure terminalReuseSeconds) c &&
      storedPayload c = some (signed "BB")) (by decide +kernel)
  simp only [Bool.and_eq_true, decide_eq_true_eq] at hc
  exact ⟨c, hrun, hc⟩

/-- A journal with one payload. -/
def journal : Journal :=
  Journal.empty.put ((newClaim fingerprint "rPayer" "http" "t0" 30).ready (signed "AA") none)

/-- What a replay makes of the journal after a crash between the two writes. -/
def replayed : Journal :=
  (recordOutcome sampleEnv.toEnv ownFailure 300 1
    (recordOutcomeUntil sampleEnv.toEnv ownFailure 300 0 journal .beforeIndex)).2

end Sample

/-- The late failure of one payload removes the other payload that is stored and
    in flight. -/
theorem late_failure_frees_other : ∃ c c',
    Run Sample.system (Lawful Sample.sampleEnv.toEnv) (Config.init Journal.empty) c ∧
      Stored c.state.shared Sample.fingerprint (Sample.signed "BB") ∧
      Sample.dispatchedOnly 1 (Sample.signed "AA") c = true ∧
      Run Sample.system anyStep c c' ∧
      Sample.lastIs 1 (.recordOutcome Sample.lateFailure terminalReuseSeconds) c' = true ∧
      c'.state.shared.attempt Sample.fingerprint = none := by
  obtain ⟨c, hrun, hc⟩ := Sample.run_overtaken
  obtain ⟨hbefore, hstep⟩ := Bool.and_eq_true_iff.mp hc
  obtain ⟨hstored, honly⟩ := Bool.and_eq_true_iff.mp hbefore
  obtain ⟨c', hc', hafter⟩ := (Option.any_eq_true _ _).mp hstep
  obtain ⟨hlogged, hgone⟩ := Bool.and_eq_true_iff.mp hafter
  have hstored := Option.bind_eq_some_iff.mp (of_decide_eq_true hstored)
  have hlabel : Sample.lateAnswer.Obeys (anyStep : JournalState (Fin 4) → _ → Prop) := fun _ _ => trivial
  exact ⟨c, c', hrun, hstored, honly, System.step?_run hlabel hc',
    (Bool.and_eq_true_iff.mp hlogged).2, Option.isNone_iff_eq_none.mp hgone⟩

theorem outcome_of_other_payload_sample : ∃ c : PayConfig (Fin 4),
    Stored c.state.shared Sample.fingerprint (Sample.signed "BB") ∧
      OutcomesOfOthers Sample.sampleEnv Sample.callers c := by
  obtain ⟨c, hrun, -, hstored⟩ := Sample.run_refusedTwice
  exact ⟨c, Option.bind_eq_some_iff.mp hstored, outcome_of_other_payload hrun⟩

/-- Caller 2 has recorded that its payload was refused, and the payload is still
    stored. -/
theorem refused_payload_stays : ∃ c,
    Run Sample.system (Lawful Sample.sampleEnv.toEnv) (Config.init Journal.empty) c ∧
      Sample.lastIs 2 (.recordOutcome Sample.ownFailure terminalReuseSeconds) c = true ∧
      Stored c.state.shared Sample.fingerprint (Sample.signed "BB") := by
  obtain ⟨c, hrun, hlast, hstored⟩ := Sample.run_refusedTwice
  exact ⟨c, hrun, hlast, Option.bind_eq_some_iff.mp hstored⟩

theorem failure_frees_request_sample : ∃ (c : PayConfig (Fin 4)) (a : PaymentAttempt),
    c.state.shared.attempt Sample.fingerprint = some a ∧
    ∀ receipt reuse r j', receipt.fingerprint = some Sample.fingerprint → receipt.state = .failed →
      exec Sample.sampleEnv.toEnv c.state.shared (.recordOutcome receipt reuse) r = some j' →
        (Free Sample.sampleEnv.toEnv Sample.fingerprint j' ↔ ¬ Late receipt c.state.shared.records) := by
  obtain ⟨c, hrun, -, hstored⟩ := Sample.run_refusedTwice
  obtain ⟨a, ha, hp⟩ := Option.bind_eq_some_iff.mp hstored
  exact ⟨c, a, ha, fun receipt reuse r j' => (failure_frees_request Sample.sampleEnv Sample.callers).2
    c hrun Sample.fingerprint a (Sample.signed "BB") receipt reuse r j' ha hp⟩

/-- The process dies after the line of a failure; the replay leaves the refused
    payload in the index. -/
theorem replay_leaves_refused_payload :
    Sample.replayed.attempt Sample.fingerprint ≠ none ∧
      ¬ Recovers Sample.sampleEnv.toEnv Sample.ownFailure Sample.fingerprint Sample.journal
        (recordOutcome Sample.sampleEnv.toEnv Sample.ownFailure 300 0 Sample.journal).2
        Sample.replayed := by
  have hstays : (Sample.replayed.attempt Sample.fingerprint).isSome = true := by decide +kernel
  have hdone : ((recordOutcome Sample.sampleEnv.toEnv Sample.ownFailure 300 0 Sample.journal).2.attempt
      Sample.fingerprint).isNone = true := by decide +kernel
  refine ⟨Option.isSome_iff_ne_none.mp hstays, fun hrecovers => ?_⟩
  have hsame := hrecovers.same.attempts Sample.fingerprint
  rw [Option.isNone_iff_eq_none.mp hdone, Option.map_none, Option.map_eq_none_iff] at hsame
  rw [hsame] at hstays
  cases hstays

theorem crash_recovery_iff_sample :
    Recovers Sample.sampleEnv.toEnv Sample.ownFailure Sample.fingerprint Sample.journal
      (recordOutcome Sample.sampleEnv.toEnv Sample.ownFailure 300 0 Sample.journal).2
      (recordOutcome Sample.sampleEnv.toEnv Sample.ownFailure 300 1
        (recordOutcomeUntil Sample.sampleEnv.toEnv Sample.ownFailure 300 0 Sample.journal .afterBoth)).2 :=
  (crash_recovery_iff rfl ⟨rfl, rfl, rfl⟩ .afterBoth 300 0 300 1).mpr fun h => by cases h.1

end XrplX402.Payer
