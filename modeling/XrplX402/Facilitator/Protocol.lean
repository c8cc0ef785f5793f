import XrplX402.Facilitator.Store

/-! # The settlement protocol

    What the settle calls of a system promise each other, and the invariant of
    the settlement records that follows.

    * A call reserves a hash only after its own verification, under its own
      fingerprint, and submits only a hash that it reserved, once.
    * A call updates a record only with a verdict that an answer of the node
      supports.
    * `Invariant`: every record was reserved, carries the data of the
      reservation, and is at least as far as everything that was written. -/

namespace XrplX402.Facilitator

open Py Interaction

variable {ι : Type} {env : Env}

abbrev Log (ι : Type) := List (Entry ι Op Ret)

abbrev SharedState (ι : Type) := State ι Op Ret Stores

/-! ## Section 1: What the log shows -/

/-- `i` reserved the hash of `st`. -/
def Reserved (log : Log ι) (i : ι) (st : XRPLSettlementState) : Prop :=
  ∃ ttl, (⟨⟨.reserve st ttl, true⟩, i⟩ : Entry ι Op Ret) ∈ log

/-- `i` sent the update `st`. -/
def Updated (log : Log ι) (i : ι) (st : XRPLSettlementState) : Prop :=
  ∃ ttl, (⟨⟨.update st ttl, ()⟩, i⟩ : Entry ι Op Ret) ∈ log

/-- `i` looked up the transaction of `st` and was answered `a`. -/
def LookedUp (log : Log ι) (i : ι) (st : XRPLSettlementState) (a : Except Exc Json) : Prop :=
  (⟨⟨.rpc (.tx st.transaction st.firstLedgerSequence st.lastLedgerSequence), a⟩, i⟩ :
    Entry ι Op Ret) ∈ log

/-- `i` looked up the transaction of `st` and was shown `d`. -/
def Found (log : Log ι) (i : ι) (st : XRPLSettlementState) (d : Dict) : Prop :=
  ∃ a, LookedUp log i st a ∧ (lookupOf a).transaction = some d

/-- Somebody wrote `st`, or tried to. -/
def Wrote (log : Log ι) (st : XRPLSettlementState) : Prop :=
  ∃ i, Reserved log i st ∨ Updated log i st

/-- A validated answer that shows the required payment. -/
structure ShowsPayment (env : Env) (d : Dict) (r : PaymentRequirements) : Prop where
  validated : isValidated d = true
  succeeded : transactionResult env d = "tesSUCCESS"
  delivered : deliveredAmountError env d r = .ok none

/-- A validated answer that shows another outcome. -/
structure ShowsFailure (env : Env) (d : Dict) (r : PaymentRequirements) : Prop where
  validated : isValidated d = true
  failed : transactionResult env d ≠ "tesSUCCESS" ∨ ∃ e, deliveredAmountError env d r = .ok (some e)

/-- What `i` has read before it stores the verdict `st`. -/
inductive Evidence (c : Call env) (log : Log ι) (i : ι) (st : XRPLSettlementState) : Prop where
  | payment (d : Dict) (found : Found log i st d) (shows_ : ShowsPayment env d c.requirements)
      (status : st.status = .validated)
  | failure (d : Dict) (found : Found log i st d) (shows_ : ShowsFailure env d c.requirements)
      (status : st.status = .failed)
  | expiry (a : Except Exc Json) (lookedUp : LookedUp log i st a)
      (absent : (lookupOf a).authoritativeAbsence = true) (status : st.status = .failed)

theorem reserved_cons {e : Event Op Ret} {i j : ι} {log : Log ι} {st : XRPLSettlementState} :
    Reserved (⟨e, i⟩ :: log) j st ↔ (∃ ttl, e = ⟨.reserve st ttl, true⟩ ∧ j = i) ∨ Reserved log j st := by
  unfold Reserved
  constructor
  · rintro ⟨ttl, he⟩
    rcases List.mem_cons.mp he with heq | he
    · cases heq
      exact .inl ⟨ttl, rfl, rfl⟩
    · exact .inr ⟨ttl, he⟩
  · rintro (⟨ttl, rfl, rfl⟩ | ⟨ttl, he⟩)
    · exact ⟨ttl, List.mem_cons_self⟩
    · exact ⟨ttl, List.mem_cons_of_mem _ he⟩

theorem updated_cons {e : Event Op Ret} {i j : ι} {log : Log ι} {st : XRPLSettlementState} :
    Updated (⟨e, i⟩ :: log) j st ↔ (∃ ttl, e = ⟨.update st ttl, ()⟩ ∧ j = i) ∨ Updated log j st := by
  unfold Updated
  constructor
  · rintro ⟨ttl, he⟩
    rcases List.mem_cons.mp he with heq | he
    · cases heq
      exact .inl ⟨ttl, rfl, rfl⟩
    · exact .inr ⟨ttl, he⟩
  · rintro (⟨ttl, rfl, rfl⟩ | ⟨ttl, he⟩)
    · exact ⟨ttl, List.mem_cons_self⟩
    · exact ⟨ttl, List.mem_cons_of_mem _ he⟩

section Monotone

variable {log log' : Log ι} {i : ι} {st : XRPLSettlementState}

theorem Reserved.mono (h : Reserved log i st) (hsub : ∀ e ∈ log, e ∈ log') : Reserved log' i st := by
  obtain ⟨ttl, he⟩ := h
  exact ⟨ttl, hsub _ he⟩

theorem Updated.mono (h : Updated log i st) (hsub : ∀ e ∈ log, e ∈ log') : Updated log' i st := by
  obtain ⟨ttl, he⟩ := h
  exact ⟨ttl, hsub _ he⟩

theorem Found.mono {d : Dict} (h : Found log i st d) (hsub : ∀ e ∈ log, e ∈ log') :
    Found log' i st d := by
  obtain ⟨a, he, ha⟩ := h
  exact ⟨a, hsub _ he, ha⟩

theorem Evidence.mono {c : Call env} (h : Evidence c log i st) (hsub : ∀ e ∈ log, e ∈ log') :
    Evidence c log' i st := by
  cases h with
  | payment d found shows_ status => exact .payment d (found.mono hsub) shows_ status
  | failure d found shows_ status => exact .failure d (found.mono hsub) shows_ status
  | expiry a lookedUp absent status => exact .expiry a (hsub _ lookedUp) absent status

theorem Evidence.terminal {c : Call env} (h : Evidence c log i st) : st.status ≠ .pending := by
  intro hp
  cases h <;> simp_all

end Monotone

/-! ## Section 2: Promises -/

variable [DecidableEq ι]

/-- On `t`, the verification of `c` returned that the payment is valid. -/
def Call.VerifiedOn (c : Call env) (t : List (Event Op Ret)) : Prop :=
  ∃ v, (verify c.facilitator c.pages c.payload c.requirements).Path t (.ok v) ∧ v.isValid = true

/-- The `LastLedgerSequence` of the transaction that `c` carries. -/
def Call.LastLedger (c : Call env) (hash : String) (last : Int) : Prop :=
  ∃ blob tx value, c.Pays blob hash ∧ env.decode blob = .ok tx ∧
    Dict.get? tx "LastLedgerSequence" = some value ∧ toInt env.unicode value = .ok last

structure ReservePromise (c : Call env) (i : ι) (log : Log ι) (st : XRPLSettlementState) : Prop where
  hash : c.HasHash st.transaction
  fingerprint : st.paymentFingerprint = c.fingerprint
  status : st.status = .pending
  last : c.LastLedger st.transaction st.lastLedgerSequence
  verified : ∃ t ledger, c.VerifiedOn t ∧
    own i log = ⟨.get st.transaction, none⟩ :: (t ++ [⟨.rpc .ledger, ledger⟩])

def Op.isSubmit : Op → Bool
  | .rpc (.submitOnly _) => true
  | _ => false

structure SubmitPromise (c : Call env) (i : ι) (log : Log ι) (blob : String) : Prop where
  reserved : ∃ st, Reserved log i st ∧ c.Pays blob st.transaction
  first : ∀ e ∈ own i log, e.op.isSubmit = false

structure UpdatePromise (c : Call env) (i : ι) (log : Log ι) (st : XRPLSettlementState) : Prop where
  hash : c.HasHash st.transaction
  fingerprint : st.paymentFingerprint = c.fingerprint
  reserved : ∃ j r, Reserved log j r ∧ r.SamePayment st
  evidence : Evidence c log i st

def Promise (c : Call env) (i : ι) (log : Log ι) : Op → Prop
  | .rpc (.submitOnly blob) => SubmitPromise c i log blob
  | .reserve st _ => ReservePromise c i log st
  | .update st _ => UpdatePromise c i log st
  | _ => True

/-! ## Section 3: The invariant -/

structure Invariant (calls : ι → Call env) (s : SharedState ι) : Prop where
  /-- Every operation was performed as promised. -/
  promised : EveryEntry (fun e older => Promise (calls e.who) e.who older e.op) s.log
  /-- Records stand under their own hash and were written by a call. -/
  stored : ∀ k rec, s.shared.settlements k = some rec → k = rec.transaction ∧ Wrote s.log rec
  /-- What was written is still there, or something that is further. -/
  kept : ∀ st, Wrote s.log st → ∃ rec, s.shared.settlements st.transaction = some rec ∧
    st.SamePayment rec ∧ st.status.rank ≤ rec.status.rank
  /-- A hash is reserved once. -/
  unique : ∀ i j st st', Reserved s.log i st → Reserved s.log j st' →
    st.transaction = st'.transaction → i = j ∧ st = st'

theorem invariant_init (calls : ι → Call env) : Invariant calls ⟨Stores.empty, []⟩ where
  promised := trivial
  stored := by
    intro k rec h
    cases h
  kept := by
    rintro st ⟨i, ⟨ttl, h⟩ | ⟨ttl, h⟩⟩ <;> cases h
  unique := by
    rintro i j st st' ⟨ttl, h⟩
    cases h

section Invariant

variable {calls : ι → Call env} {s : SharedState ι}

theorem Invariant.reserve_promise (h : Invariant calls s) {i : ι} {st : XRPLSettlementState}
    (hr : Reserved s.log i st) :
    ∃ newer older ttl, s.log = newer ++ ⟨⟨.reserve st ttl, true⟩, i⟩ :: older ∧
      ReservePromise (calls i) i older st := by
  obtain ⟨ttl, he⟩ := hr
  obtain ⟨newer, older, hlog, hp⟩ := h.promised.of_mem he
  exact ⟨newer, older, ttl, hlog, hp⟩

theorem Invariant.update_promise (h : Invariant calls s) {i : ι} {st : XRPLSettlementState}
    (hu : Updated s.log i st) : UpdatePromise (calls i) i s.log st := by
  obtain ⟨ttl, he⟩ := hu
  obtain ⟨newer, older, hlog, hp⟩ := h.promised.of_mem he
  have hsub : ∀ e ∈ older, e ∈ s.log := fun e he => by simp [hlog, he]
  obtain ⟨j, r, hr, hs⟩ := hp.reserved
  exact ⟨hp.hash, hp.fingerprint, ⟨j, r, hr.mono hsub, hs⟩, hp.evidence.mono hsub⟩

/-- The reservation behind everything that was written. -/
theorem Invariant.reserved_of_wrote (h : Invariant calls s) {st : XRPLSettlementState}
    (hw : Wrote s.log st) : ∃ j r, Reserved s.log j r ∧ r.SamePayment st := by
  obtain ⟨i, hr | hu⟩ := hw
  · exact ⟨i, st, hr, .refl st⟩
  · exact (h.update_promise hu).reserved

/-- Two writes under one hash are about the same payment. -/
theorem Invariant.samePayment_of_wrote (h : Invariant calls s) {st st' : XRPLSettlementState}
    (hw : Wrote s.log st) (hw' : Wrote s.log st') (ht : st.transaction = st'.transaction) :
    st.SamePayment st' := by
  obtain ⟨i, r, hr, hs⟩ := h.reserved_of_wrote hw
  obtain ⟨j, r', hr', hs'⟩ := h.reserved_of_wrote hw'
  have htr : r.transaction = r'.transaction := hs.1.trans (ht.trans hs'.1.symm)
  obtain ⟨rfl, rfl⟩ := h.unique i j r r' hr hr' htr
  exact hs.symm.trans hs'

theorem hasHash_key {c : Call env} {hash : String} (h : c.HasHash hash) :
    storeKey env hash = hash ∧ trim hash = hash := by
  obtain ⟨blob, hb⟩ := h
  unfold Call.Pays payloadHash at hb
  obtain ⟨x, _, hb⟩ := bind_eq_ok.mp hb
  obtain ⟨hash', hh, hb⟩ := bind_eq_ok.mp hb
  obtain ⟨-, rfl⟩ : x.signedTxBlob = blob ∧ hash' = hash := by
    simpa [pure, Except.pure] using hb
  obtain ⟨htrim, hupper⟩ := signedTransactionHash_canonical hh
  exact ⟨hupper, htrim⟩

/-! ### Steps -/

/-- An operation that writes no record keeps the invariant. -/
theorem Invariant.step_quiet (h : Invariant calls s) {i : ι} {o : Op} {r : Ret o} {t : Stores}
    (hp : Promise (calls i) i s.log o) (ht : t.settlements = s.shared.settlements)
    (hr : ∀ st ttl, (⟨o, r⟩ : Event Op Ret) ≠ ⟨.reserve st ttl, true⟩)
    (hu : ∀ st ttl, (⟨o, r⟩ : Event Op Ret) ≠ ⟨.update st ttl, ()⟩) :
    Invariant calls (s.push i o r t) := by
  have hreserved : ∀ j st, Reserved (s.push i o r t).log j st ↔ Reserved s.log j st := by
    intro j st
    rw [State.push_log, reserved_cons]
    constructor
    · rintro (⟨ttl, he, -⟩ | h')
      · exact absurd he (hr st ttl)
      · exact h'
    · exact .inr
  have hupdated : ∀ j st, Updated (s.push i o r t).log j st ↔ Updated s.log j st := by
    intro j st
    rw [State.push_log, updated_cons]
    constructor
    · rintro (⟨ttl, he, -⟩ | h')
      · exact absurd he (hu st ttl)
      · exact h'
    · exact .inr
  have hwrote : ∀ st, Wrote (s.push i o r t).log st ↔ Wrote s.log st := by
    intro st
    simp only [Wrote, hreserved, hupdated]
  constructor
  · exact ⟨hp, h.promised⟩
  · intro k rec hk
    rw [State.push_shared, ht] at hk
    rw [hwrote]
    exact h.stored k rec hk
  · intro st hw
    rw [State.push_shared, ht]
    exact h.kept st ((hwrote st).mp hw)
  · intro i' j' st st' h₁ h₂
    exact h.unique i' j' st st' ((hreserved _ _).mp h₁) ((hreserved _ _).mp h₂)

/-- A successful reservation keeps the invariant: the hash was free. -/
theorem Invariant.step_reserve (h : Invariant calls s) {i : ι} {st : XRPLSettlementState} {ttl : Int}
    (hp : ReservePromise (calls i) i s.log st)
    (hfree : s.shared.settlements st.transaction = none) :
    Invariant calls (s.push i (.reserve st ttl) (true : Bool)
      (s.shared.setSettlement st.transaction st)) := by
  have hfresh : ∀ st', Wrote s.log st' → st'.transaction ≠ st.transaction := by
    intro st' hw ht
    obtain ⟨rec, hrec, -⟩ := h.kept st' hw
    rw [ht, hfree] at hrec
    cases hrec
  have hwrote : ∀ st', Wrote (s.push i (.reserve st ttl) (true : Bool)
      (s.shared.setSettlement st.transaction st)).log st' → st' = st ∨ Wrote s.log st' := by
    rintro st' ⟨j, hj | hj⟩
    · rcases reserved_cons.mp hj with ⟨_, he, _⟩ | hj
      · cases he
        exact .inl rfl
      · exact .inr ⟨j, .inl hj⟩
    · rcases updated_cons.mp hj with ⟨_, he, _⟩ | hj
      · cases he
      · exact .inr ⟨j, .inr hj⟩
  have hself : Reserved (s.push i (.reserve st ttl) (true : Bool)
      (s.shared.setSettlement st.transaction st)).log i st := ⟨ttl, List.mem_cons_self⟩
  have hmono : ∀ e ∈ s.log, e ∈ (s.push i (.reserve st ttl) (true : Bool)
      (s.shared.setSettlement st.transaction st)).log := fun e he => List.mem_cons_of_mem _ he
  constructor
  · exact ⟨hp, h.promised⟩
  · intro k rec hk
    rw [State.push_shared, setSettlement_settlements] at hk
    by_cases hkt : k = st.transaction
    · subst hkt
      obtain rfl : st = rec := by simpa using hk
      exact ⟨rfl, i, .inl hself⟩
    · rw [Function.update_of_ne hkt] at hk
      obtain ⟨hkr, j, hj⟩ := h.stored k rec hk
      exact ⟨hkr, j, hj.imp (·.mono hmono) (·.mono hmono)⟩
  · intro st' hw
    rw [State.push_shared, setSettlement_settlements]
    rcases hwrote st' hw with rfl | hw
    · exact ⟨st', by simp, .refl _, le_refl _⟩
    · rw [Function.update_of_ne (hfresh st' hw)]
      exact h.kept st' hw
  · intro i' j' a b ha hb hab
    rcases reserved_cons.mp ha with ⟨_, hea, rfl⟩ | ha'
    · cases hea
      rcases reserved_cons.mp hb with ⟨_, heb, rfl⟩ | hb'
      · cases heb
        exact ⟨rfl, rfl⟩
      · exact absurd hab.symm (hfresh b ⟨_, .inl hb'⟩)
    · rcases reserved_cons.mp hb with ⟨_, heb, rfl⟩ | hb'
      · cases heb
        exact absurd hab (hfresh a ⟨_, .inl ha'⟩)
      · exact h.unique i' j' a b ha' hb' hab

/-- An update keeps the invariant: it is about the payment of the record. -/
theorem Invariant.step_update (h : Invariant calls s) {i : ι} {st cur : XRPLSettlementState}
    {ttl : Int} (hp : UpdatePromise (calls i) i s.log st)
    (hcur : s.shared.settlements st.transaction = some cur) :
    Invariant calls (s.push i (.update st ttl) ()
      (s.shared.setSettlement st.transaction (monotonicUpdate cur st))) := by
  obtain ⟨hkey, hwcur⟩ := h.stored _ _ hcur
  have hsame : st.SamePayment cur := by
    obtain ⟨j, r, hr, hs⟩ := hp.reserved
    exact hs.symm.trans (h.samePayment_of_wrote ⟨j, .inl hr⟩ hwcur (hs.1.trans hkey))
  obtain ⟨hcurNew, hstNew⟩ := samePayment_monotonicUpdate hsame
  have hwrote : ∀ st', Wrote (s.push i (.update st ttl) ()
      (s.shared.setSettlement st.transaction (monotonicUpdate cur st))).log st' →
      st' = st ∨ Wrote s.log st' := by
    rintro st' ⟨j, hj | hj⟩
    · rcases reserved_cons.mp hj with ⟨_, he, _⟩ | hj
      · cases he
      · exact .inr ⟨j, .inl hj⟩
    · rcases updated_cons.mp hj with ⟨_, he, _⟩ | hj
      · cases he
        exact .inl rfl
      · exact .inr ⟨j, .inr hj⟩
  have hmono : ∀ e ∈ s.log, e ∈ (s.push i (.update st ttl) ()
      (s.shared.setSettlement st.transaction (monotonicUpdate cur st))).log :=
    fun e he => List.mem_cons_of_mem _ he
  have hkeep : ∀ st', Wrote s.log st' → Wrote (s.push i (.update st ttl) ()
      (s.shared.setSettlement st.transaction (monotonicUpdate cur st))).log st' := by
    rintro st' ⟨j, hj⟩
    exact ⟨j, hj.imp (·.mono hmono) (·.mono hmono)⟩
  constructor
  · exact ⟨hp, h.promised⟩
  · intro k rec hk
    rw [State.push_shared, setSettlement_settlements] at hk
    by_cases hkt : k = st.transaction
    · subst hkt
      obtain rfl : monotonicUpdate cur st = rec := by simpa using hk
      refine ⟨hstNew.1, ?_⟩
      rcases monotonicUpdate_eq cur st with heq | heq <;> rw [heq]
      · exact hkeep cur hwcur
      · exact ⟨i, .inr ⟨ttl, List.mem_cons_self⟩⟩
    · rw [Function.update_of_ne hkt] at hk
      obtain ⟨hkr, hw⟩ := h.stored k rec hk
      exact ⟨hkr, hkeep rec hw⟩
  · intro st' hw
    rw [State.push_shared, setSettlement_settlements]
    rcases hwrote st' hw with rfl | hw
    · exact ⟨_, by simp, hstNew, candidate_rank_le cur st'⟩
    · by_cases ht : st'.transaction = st.transaction
      · obtain ⟨rec, hrec, hs, hrank⟩ := h.kept st' hw
        rw [ht, hcur] at hrec
        obtain rfl : cur = rec := by simpa using hrec
        refine ⟨monotonicUpdate cur st, by simp [ht], hs.trans hcurNew, ?_⟩
        exact le_trans hrank (rank_le_monotonicUpdate cur st)
      · rw [Function.update_of_ne ht]
        exact h.kept st' hw
  · intro i' j' a b ha hb hab
    rcases reserved_cons.mp ha with ⟨_, hea, _⟩ | ha
    · cases hea
    · rcases reserved_cons.mp hb with ⟨_, heb, _⟩ | hb
      · cases heb
      · exact h.unique i' j' a b ha hb hab

theorem Invariant.step (h : Invariant calls s) {i : ι} {o : Op} {r : Ret o} {t : Stores}
    (hp : Promise (calls i) i s.log o) (hx : exec env s.shared o r = some t) :
    Invariant calls (s.push i o r t) := by
  by_cases ho : o.readsSettlements = true
  · refine h.step_quiet hp (exec_reads ho hx) ?_ ?_
    · rintro st ttl he
      cases he
      cases ho
    · rintro st ttl he
      cases he
      cases ho
  · cases o with
    | reserve st ttl =>
      have hkey := (hasHash_key hp.hash).1
      cases r with
      | true =>
        obtain ⟨hfree, rfl⟩ := exec_reserve_true.mp hx
        rw [hkey] at hfree ⊢
        exact h.step_reserve hp hfree
      | false =>
        obtain ⟨-, rfl⟩ := exec_reserve_false.mp hx
        refine h.step_quiet hp rfl ?_ ?_
        · rintro st' ttl' he
          cases he
        · rintro st' ttl' he
          cases he
    | update st ttl =>
      have hkey := (hasHash_key hp.hash).1
      -- The record is there: somebody reserved it, and records do not expire.
      obtain ⟨j, q, hq, hs⟩ := hp.reserved
      obtain ⟨rec, hrec, -⟩ := h.kept q ⟨j, .inl hq⟩
      rcases exec_update hx with ⟨hnone, -⟩ | ⟨cur, hcur, rfl⟩
      · rw [hkey, ← hs.1, hrec] at hnone
        cases hnone
      · rw [hkey] at hcur ⊢
        exact h.step_update hp hcur
    | _ => exact absurd rfl ho

end Invariant

end XrplX402.Facilitator
