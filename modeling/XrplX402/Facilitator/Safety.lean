import XrplX402.Core.WireAssets
import XrplX402.Facilitator.Outcome
import XrplX402.Facilitator.Readers
import XrplX402.Facilitator.Soundness

/-! # Safety of settlement

    What the invariant and the outcomes mean for whole runs, from an empty
    store, of any number of settle calls in any interleaving:

    * a transaction is submitted at most once, by the call that reserved it;
    * a success is backed by an answer of the node that shows the payment;
    * a record is bound to one request, and its verdict only moves upward. -/

namespace XrplX402.Facilitator

open Py Interaction Prog

variable {ι : Type} [DecidableEq ι] {env : Env} {calls : ι → Call env}

abbrev SettleConfig (ι : Type) := Config ι Op Ret FacilitatorExc SettleResponse Stores

/-- A run of settle calls from an empty store. -/
abbrev SettleRun (calls : ι → Call env) (c : SettleConfig ι) : Prop :=
  Run (settleSystem env calls) anyStep (Config.init Stores.empty) c

variable {c c' : SettleConfig ι} {allowed : SharedState ι → Entry ι Op Ret → Prop}

theorem settle_good (h : Run (settleSystem env calls) allowed (Config.init Stores.empty) c) :
    (settleContract calls allowed).Good
      (fun i => Ends (calls i) i) c :=
  Contract.sound (fun _ _ _ hown => holds_settle hown) (invariant_init calls) h

theorem settle_invariant (h : Run (settleSystem env calls) allowed (Config.init Stores.empty) c) :
    Invariant calls c.state := (settle_good h).inv

/-! ## Section 1: At most one submission -/

/-- `e` submits a blob with this hash. -/
def submits (env : Env) (hash : String) (e : Entry ι Op Ret) : Bool :=
  match e.op with
  | .rpc (.submitOnly blob) => (signedTransactionHash env blob).toOption = some hash
  | _ => false

omit [DecidableEq ι] in
theorem pays_signedTransactionHash {call : Call env} {blob hash : String} (h : call.Pays blob hash) :
    signedTransactionHash env blob = .ok hash := by
  unfold Call.Pays payloadHash at h
  obtain ⟨x, _, h⟩ := bind_eq_ok.mp h
  obtain ⟨hash', hh, h⟩ := bind_eq_ok.mp h
  obtain ⟨rfl, rfl⟩ : x.signedTxBlob = blob ∧ hash' = hash := by simpa [pure, Except.pure] using h
  exact hh

omit [DecidableEq ι] in
theorem isSubmit_of_submits {hash : String} {e : Entry ι Op Ret} (h : submits env hash e = true) :
    ∃ blob, e.op = .rpc (.submitOnly blob) ∧ signedTransactionHash env blob = .ok hash := by
  unfold submits at h
  split at h
  · next blob hop =>
    refine ⟨blob, hop, ?_⟩
    cases hx : signedTransactionHash env blob with
    | error e => simp [hx, Except.toOption] at h
    | ok hash' => simpa [hx, Except.toOption] using h
  · cases h

/-- The caller of a submission has reserved the hash. -/
theorem reserved_of_submits {older : Log ι} {hash : String} {e : Entry ι Op Ret}
    (hp : Promise (calls e.who) e.who older e.op) (hs : submits env hash e = true) :
    (∃ st, Reserved older e.who st ∧ st.transaction = hash) ∧
      ∀ x ∈ own e.who older, x.op.isSubmit = false := by
  obtain ⟨blob, hop, hhash⟩ := isSubmit_of_submits hs
  rw [hop] at hp
  have hp' : SubmitPromise (calls e.who) e.who older blob := hp
  obtain ⟨st, hr, hpays⟩ := hp'.reserved
  rw [pays_signedTransactionHash hpays, Except.ok.injEq] at hhash
  exact ⟨⟨st, hr, hhash⟩, hp'.first⟩

/-- Callers that keep their promises submit a hash at most once. -/
theorem length_submits_le_one {log : Log ι} (hash : String)
    (hlog : EveryEntry (fun e older => Promise (calls e.who) e.who older e.op) log)
    (hunique : ∀ i j st st', Reserved log i st → Reserved log j st' →
      st.transaction = st'.transaction → i = j ∧ st = st') :
    (log.filter (submits env hash)).length ≤ 1 := by
  induction log with
  | nil => exact Nat.zero_le _
  | cons e log ih =>
    have hsub : ∀ x ∈ log, x ∈ e :: log := fun x hx => List.mem_cons_of_mem _ hx
    have hrest := ih hlog.2 fun i j st st' h₁ h₂ => hunique i j st st' (h₁.mono hsub) (h₂.mono hsub)
    by_cases hs : submits env hash e = true
    · -- An older submission would be by the same caller, which has not submitted before.
      have hnone : log.filter (submits env hash) = [] := by
        rw [List.filter_eq_nil_iff]
        intro e' he' hs'
        obtain ⟨⟨st, hr, ht⟩, hfirst⟩ := reserved_of_submits hlog.1 hs
        obtain ⟨newer, older, hlog', hp'⟩ := hlog.2.of_mem he'
        obtain ⟨⟨st', hr', ht'⟩, -⟩ := reserved_of_submits hp' hs'
        have hsub' : ∀ x ∈ older, x ∈ e :: log := fun x hx => by simp [hlog', hx]
        obtain ⟨hwho, -⟩ := hunique _ _ _ _ (hr.mono hsub) (hr'.mono hsub') (ht.trans ht'.symm)
        obtain ⟨blob', hop', -⟩ := isSubmit_of_submits hs'
        have hown : e'.toEvent ∈ own e.who log := by
          rw [hwho]
          exact mem_own.mpr he'
        have hcon := hfirst _ hown
        rw [hop'] at hcon
        cases hcon
      simp [hs, hnone]
    · simpa [hs] using hrest

/-- `i` did what it must before it submits: it looked for the hash, verified
    the payment, read the ledger and reserved the hash under its fingerprint. -/
def Prepared (c : Call env) (i : ι) (log : Log ι) (hash : String) : Prop :=
  ∃ t ledger st ttl rest, c.VerifiedOn t ∧ st.transaction = hash ∧
    st.paymentFingerprint = c.fingerprint ∧
    own i log = ⟨.get hash, none⟩ :: (t ++ ⟨.rpc .ledger, ledger⟩ ::
      ⟨.reserve st ttl, true⟩ :: rest)

theorem prepared_of_submits (hinv : Invariant calls c.state) {newer older : Log ι} {i : ι}
    {blob : String} {a : Except Exc Json}
    (hlog : c.state.log = newer ++ ⟨⟨.rpc (.submitOnly blob), a⟩, i⟩ :: older) :
    ∃ hash, (calls i).Pays blob hash ∧ Prepared (calls i) i older hash ∧
      ∃ st, Reserved c.state.log i st ∧ st.transaction = hash := by
  have hpromised := hinv.promised
  rw [hlog] at hpromised
  have hp : SubmitPromise (calls i) i older blob := hpromised.of_append
  obtain ⟨st, hr, hpays⟩ := hp.reserved
  have hsub : ∀ e ∈ older, e ∈ c.state.log := fun e he => by simp [hlog, he]
  refine ⟨st.transaction, hpays, ?_, st, hr.mono hsub, rfl⟩
  obtain ⟨ttl, hmem⟩ := hr
  have holder : EveryEntry (fun e older => Promise (calls e.who) e.who older e.op) older :=
    hpromised.suffix.2
  obtain ⟨newer', older', hlog', hp'⟩ := holder.of_mem hmem
  obtain ⟨t, ledger, ht, hown⟩ := ReservePromise.verified hp'
  refine ⟨t, ledger, st, ttl, own i newer', ht, rfl, ReservePromise.fingerprint hp', ?_⟩
  rw [hlog', own_append, own_cons_self, hown]
  simp

/-- An operation after which the settlement records are what they were. -/
def LeavesRecords (env : Env) (e : Event Op Ret) : Prop :=
  ∀ s t, (world env).exec s e.op e.ans = some t → t.settlements = s.settlements

theorem leavesRecords_of_reads {e : Event Op Ret} (h : e.op.readsSettlements = true) :
    LeavesRecords env e := fun _ _ hx => exec_reads h hx

/-- The verification of call `i` returned that the payment is invalid. -/
def VerificationFailed (c : Call env) (i : ι) (log : Log ι) (v : VerifyResponse) : Prop :=
  v.isValid = false ∧ ∃ hash t, own i log = ⟨.get hash, none⟩ :: t ∧
    (verify c.facilitator c.pages c.payload c.requirements).Path t (.ok v)

theorem isQuery_readsSettlements {o : Op} (h : o.isQuery = true) : o.readsSettlements = true := by
  cases o with
  | rpc q => rfl
  | _ => cases h

theorem leavesRecords_of_verificationFailed {c : Call env} {i : ι} {log : Log ι} {v : VerifyResponse}
    (h : VerificationFailed c i log v) : ∀ e ∈ own i log, LeavesRecords env e := by
  obtain ⟨-, hash, t, hown, hpath⟩ := h
  have hquery := (onlyQueries_verify c.facilitator c.pages c.payload c.requirements).of_path hpath
  intro e he
  rw [hown] at he
  rcases List.mem_cons.mp he with rfl | he
  · exact leavesRecords_of_reads rfl
  · exact leavesRecords_of_reads (isQuery_readsSettlements (hquery e he))

/-- A call whose verification failed has returned that failure. -/
theorem ended_of_verificationFailed
    (h : Run (settleSystem env calls) allowed (Config.init Stores.empty) c) {i : ι}
    {p : Service SettleResponse} (hi : c.threads i = some p) {v : VerifyResponse}
    (hv : VerificationFailed (calls i) i c.state.log v) :
    p = .ret (refusedResponse v (calls i).requirements.network) := by
  obtain ⟨hinvalid, hash, t, hown, hpath⟩ := hv
  have hsteps := h.own_steps i
  rw [hi, hown] at hsteps
  change Steps ((calls i).run) _ _ at hsteps
  unfold Call.run settle at hsteps
  split at hsteps
  · exact hsteps.elim
  · next blob hash' hpays =>
    obtain ⟨r, he, hsteps⟩ := hsteps
    cases he
    have hp := Steps.of_path_bind hpath hsteps
    simpa [hinvalid] using hp

theorem readsSettlements_of_not {o : Op} (hr : o.isReserve = false) (hu : o.isUpdate = false) :
    o.readsSettlements = true := by
  cases o with
  | reserve st ttl => cases hr
  | update st ttl => cases hu
  | _ => rfl

/-! ### A run with one success -/

namespace Sample

/-- Three calls with the sample payload. -/
def sampleCalls : Fin 3 → Call sampleEnv := fun _ => ⟨facilitator, 1, payload, requirements⟩

/-- The validated transaction, as a lookup shows it. -/
def paid : Dict :=
  [("validated", .bool true),
    ("meta", .obj [("TransactionResult", .str "tesSUCCESS"), ("delivered_amount", .str "1000")])]

/-- A node whose last validated ledger is `n`. Ledger 101 includes the payment. -/
def node (n : Int) : RpcRequest → Except Exc Json
  | .ledger => .ok (.obj [("ledger_index", .int n)])
  | .accountInfo _ => accountAnswer (if n < 101 then 7 else 8)
  | .simulate _ => simulateAnswer
  | .tx _ _ _ => if n < 101 then .error ⟨.other, "timeout"⟩ else .ok (.obj paid)
  | _ => .ok (.obj [])

/-- Ledger 101 is validated after so many operations. -/
def clock (before operations : Nat) : Int := if operations < before then 100 else 101

abbrev Step := Label (Fin 3) Op Ret Stores

/-- The next operation of call `i`. -/
def stepBefore (before : Nat) (i : Fin 3) : Step :=
  .call i fun s => answers sampleEnv (node (clock before s.log.length)) s.shared

/-- The payment is in the ledger from the ninth operation on. -/
def step : Fin 3 → Step := stepBefore 8

/-- Call 1 looks the hash up. Then call 0 does all it has to do: it looks the
    hash up, asks three queries, reads the ledger, reserves, submits, looks the
    transaction up and stores the verdict. -/
def schedule : List Step :=
  [.start 1, step 1, .start 0] ++ List.replicate 9 (step 0)

def runFrom (steps : List Step) : Option (SettleConfig (Fin 3)) :=
  (settleSystem sampleEnv sampleCalls).replay steps (Config.init Stores.empty)

def completed : XRPLSettlementState :=
  (pendingState sampleEnv payload requirements hash "rPayer" 100 110).withResult .validated
    (amountResult "1000")

def success : SettleResponse := stateResponse sampleEnv completed "1000"

/-- Every reservation was made before ledger 101 was validated. -/
def reservesInTime (log : Log (Fin 3)) : Bool :=
  log.all fun e => match e.op with
    | .reserve st _ => st.firstLedgerSequence ≤ 101
    | _ => true

/-- Call 0 has succeeded, call 1 is still running, and call 2 has not begun. -/
def oneSuccess (c : SettleConfig (Fin 3)) : Bool :=
  c.outcome 0 = some (.ok success) && (c.threads 1).isSome && c.outcome 1 = none &&
    (c.threads 2).isNone && reservesInTime c.state.log

theorem replay_schedule : (runFrom schedule).any oneSuccess = true := by decide +kernel

theorem run_success : ∃ c, SettleRun sampleCalls c ∧ c.threads 0 = some (.ret success) := by
  have hobeys : ∀ l ∈ schedule, l.Obeys anyStep := by
    intro l _
    cases l <;> simp [Label.Obeys]
  obtain ⟨c, hrun, hc⟩ := System.exists_run hobeys replay_schedule
  simp only [oneSuccess, Bool.and_eq_true, decide_eq_true_eq] at hc
  exact ⟨c, hrun, Config.outcome_eq_ok.mp hc.1.1.1.1⟩

end Sample

theorem settle_at_most_once (calls : ι → Call env) (c : SettleConfig ι) (h : SettleRun calls c) :
    (∀ hash, (c.state.log.filter (submits env hash)).length ≤ 1) ∧
    (∀ newer older i blob a, c.state.log = newer ++ ⟨⟨.rpc (.submitOnly blob), a⟩, i⟩ :: older →
      ∃ hash, (calls i).Pays blob hash ∧ Prepared (calls i) i older hash ∧
        ∀ j st, Reserved c.state.log j st → st.transaction = hash →
          j = i ∧ st.paymentFingerprint = (calls i).fingerprint) ∧
    (∀ i p v, c.threads i = some p → VerificationFailed (calls i) i c.state.log v →
      p = .ret (refusedResponse v (calls i).requirements.network) ∧
        ∀ e ∈ own i c.state.log, LeavesRecords env e) ∧
    (∀ i e, c.threads i = some (.raise e) → (∀ e ∈ own i c.state.log, e.op.isReserve = false) →
      ∀ e ∈ own i c.state.log, LeavesRecords env e) := by
  have hgood := settle_good h
  have hinv := hgood.inv
  refine ⟨fun hash => length_submits_le_one hash hinv.promised hinv.unique, ?_, ?_, ?_⟩
  · intro newer older i blob a hlog
    obtain ⟨hash, hpays, hprep, st, hr, ht⟩ := prepared_of_submits hinv hlog
    refine ⟨hash, hpays, hprep, fun j st' hr' ht' => ?_⟩
    obtain ⟨rfl, rfl⟩ := hinv.unique j i st' st hr' hr (ht'.trans ht.symm)
    obtain ⟨_, _, _, _, hp⟩ := hinv.reserve_promise hr
    exact ⟨rfl, hp.fingerprint⟩
  · intro i p v hi hv
    exact ⟨ended_of_verificationFailed h hi hv, leavesRecords_of_verificationFailed hv⟩
  · intro i err hi hreserve e he
    obtain ⟨s, -, hrely, hends⟩ := hgood.ended hi ⟨rfl, rfl⟩
    have hupdate : e.op.isUpdate = false := hends e (hrely.own_eq ▸ he)
    exact leavesRecords_of_reads (readsSettlements_of_not (hreserve e he) hupdate)

theorem settle_at_most_once_sample : ∃ c, SettleRun Sample.sampleCalls c ∧
    c.threads 0 = some (.ret Sample.success) ∧
    (c.state.log.filter (submits Sample.sampleEnv Sample.hash)).length ≤ 1 := by
  obtain ⟨c, hrun, hc⟩ := Sample.run_success
  exact ⟨c, hrun, hc, (settle_at_most_once Sample.sampleCalls c hrun).1 Sample.hash⟩

/-! ## Section 2: Evidence -/

/-- The delivered amount is judged by what the requirements say. -/
theorem deliveredAmountError_congr {d : Dict} {r s : PaymentRequirements}
    (h : SameRequirements r s) : deliveredAmountError env d r = deliveredAmountError env d s := by
  have hissuer : ∀ j : Json, j.pyEq (Dict.get r.extraOr "issuer") =
      j.pyEq (Dict.get s.extraOr "issuer") := by
    intro j
    unfold Json.pyEq
    rw [Json.canon_eq_of_sortKeys_eq (h.extra_get "issuer")]
  unfold deliveredAmountError amountDelivered xrpDelivered iouDelivered
  simp only [h.asset, h.amount, hissuer]

theorem ShowsPayment.congr {d : Dict} {r s : PaymentRequirements} (h : SameRequirements r s)
    (hr : ShowsPayment env d r) : ShowsPayment env d s :=
  ⟨hr.validated, hr.succeeded, deliveredAmountError_congr h ▸ hr.delivered⟩

omit [DecidableEq ι] in
/-- Calls with one fingerprint carry the same blob. -/
theorem pays_of_fingerprint (hinj : Function.Injective env.sha256) {c d : Call env}
    (h : c.fingerprint = d.fingerprint) {blob hash : String} (hc : c.Pays blob hash) :
    d.Pays blob hash := by
  obtain ⟨-, hpayload, -⟩ := request_eq_of_fingerprint hinj h
  unfold Call.Pays payloadHash at hc ⊢
  obtain ⟨x, hx, hc⟩ := bind_eq_ok.mp hc
  rw [bind_eq_ok]
  exact ⟨x, exactXrplPayload_congr hpayload hx, hc⟩

theorem Call.VerifiedOn.wellShaped {c : Call env} {t : List (Event Op Ret)} (h : c.VerifiedOn t) :
    WellShaped env c.requirements := by
  obtain ⟨v, hpath, hv⟩ := h
  obtain ⟨checked, _, _, _, hchecked, -⟩ := path_verify_valid hpath hv
  exact (checkTransaction_eq_ok hchecked).1.shape

/-- A success is the answer of a validated record. -/
theorem Outcome.validated {call : Call env} {s : SharedState ι} {i : ι} {resp : SettleResponse}
    (h : Outcome call s i resp) (hs : resp.success = true) :
    ∃ rec, call.HasHash rec.transaction ∧ rec.paymentFingerprint = call.fingerprint ∧
      Wrote s.log rec ∧ rec.status = .validated ∧
      resp = stateResponse env rec call.requirements.amount := by
  cases h with
  | malformed e h => cases hs
  | mismatch rec hash wrote other => cases hs
  | refused hash hhash t v path invalid log => cases hs
  | pending transaction network payer amount => cases hs
  | verdict rec hash fingerprint wrote terminal =>
    refine ⟨rec, hash, fingerprint, wrote, ?_, rfl⟩
    by_contra hne
    simp [stateResponse, hne] at hs

/-- The answer of the node behind a validated record. -/
theorem Invariant.validated_evidence {s : SharedState ι} (h : Invariant calls s)
    {rec : XRPLSettlementState} (hw : Wrote s.log rec) (hv : rec.status = .validated) :
    ∃ j d, Updated s.log j rec ∧ rec.paymentFingerprint = (calls j).fingerprint ∧
      Found s.log j rec d ∧ ShowsPayment env d (calls j).requirements := by
  obtain ⟨j, hr | hu⟩ := hw
  · obtain ⟨_, _, _, _, hp⟩ := h.reserve_promise hr
    rw [hp.status] at hv
    cases hv
  · have hp := h.update_promise hu
    cases hp.evidence with
    | payment d found shows_ status => exact ⟨j, d, hu, hp.fingerprint, found, shows_⟩
    | failure d found shows_ status =>
      rw [status] at hv
      cases hv
    | expiry a lookedUp absent status =>
      rw [status] at hv
      cases hv

/-- Everything that was written goes back to a verified call. -/
theorem Invariant.verified_of_wrote {s : SharedState ι} (h : Invariant calls s)
    {rec : XRPLSettlementState} (hw : Wrote s.log rec) :
    ∃ k t, (calls k).HasHash rec.transaction ∧ (calls k).fingerprint = rec.paymentFingerprint ∧
      (calls k).VerifiedOn t ∧ ∀ e ∈ t, (⟨e, k⟩ : Entry ι Op Ret) ∈ s.log := by
  obtain ⟨k, r, hr, hsame⟩ := h.reserved_of_wrote hw
  obtain ⟨newer, older, ttl, hlog, hp⟩ := h.reserve_promise hr
  obtain ⟨t, ledger, ht, hown⟩ := hp.verified
  refine ⟨k, t, hsame.1 ▸ hp.hash, hp.fingerprint.symm.trans hsame.2.2.2.2.2, ht, fun e he => ?_⟩
  have hmem : e ∈ own k older := by
    rw [hown]
    exact List.mem_cons_of_mem _ (List.mem_append_left _ he)
  rw [hlog]
  exact List.mem_append_right _ (List.mem_cons_of_mem _ (mem_own.mp hmem))

/-- The evidence behind a success of call `i` for the transaction in `blob`. -/
structure Backed (calls : ι → Call env) (log : Log ι) (i : ι) (blob hash : String) : Prop where
  /-- The writer of the record was shown the payment by the node. -/
  shown : ∃ j rec answer d metadata delivered, Updated log j rec ∧ rec.transaction = hash ∧
    rec.status = .validated ∧ LookedUp log j rec answer ∧
    ShowsSettled env answer (calls i).requirements d metadata delivered
  /-- The blob has been verified for a request with the same fingerprint. -/
  verified : ∃ k t, (calls k).Pays blob hash ∧ (calls k).fingerprint = (calls i).fingerprint ∧
    (calls k).VerifiedOn t ∧ ∀ e ∈ t, (⟨e, k⟩ : Entry ι Op Ret) ∈ log

theorem backed_of_success (hinj : Function.Injective env.sha256)
    (h : Run (settleSystem env calls) allowed (Config.init Stores.empty) c) {i : ι}
    {resp : SettleResponse} (hi : c.threads i = some (.ret resp)) (hs : resp.success = true) :
    ∃ blob hash, (calls i).Pays blob hash ∧ Backed calls c.state.log i blob hash := by
  have hgood := settle_good h
  obtain ⟨s, -, hrely, hends⟩ := hgood.ended hi ⟨rfl, rfl⟩
  obtain ⟨rec, ⟨blob, hpays⟩, hfp, hwrote, hvalidated, -⟩ := Outcome.validated hends hs
  have hwrote' : Wrote c.state.log rec := by
    obtain ⟨j, hj⟩ := hwrote
    have hsub : ∀ e ∈ s.log, e ∈ c.state.log := fun e he => hrely.evolve.mem_log he
    exact ⟨j, hj.imp (·.mono hsub) (·.mono hsub)⟩
  obtain ⟨j, d, hupdated, hjfp, hfound, hshows⟩ := hgood.inv.validated_evidence hwrote' hvalidated
  obtain ⟨k, t, ⟨blob', hpays'⟩, hkfp, hverified, hlog⟩ := hgood.inv.verified_of_wrote hwrote'
  have hki : (calls k).fingerprint = (calls i).fingerprint := hkfp.trans hfp
  have hji : (calls j).fingerprint = (calls i).fingerprint := hjfp.symm.trans hfp
  -- Equal fingerprints: the requirements are the same, and so is the blob.
  obtain ⟨hsameK, -⟩ := request_eq_of_fingerprint hinj hki
  obtain ⟨hsameJ, -⟩ := request_eq_of_fingerprint hinj hji
  have hshape : WellShaped env (calls i).requirements := hverified.wellShaped.congr hsameK
  have hshown : ShowsPayment env d (calls i).requirements := hshows.congr hsameJ
  refine ⟨blob, rec.transaction, hpays, ?_, ?_⟩
  · obtain ⟨answer, hlookedUp, hd⟩ := hfound
    obtain ⟨metadata, delivered, hsettled⟩ := showsSettled_of_deliversExactly
      (showsValidated_iff.mpr ⟨hd, hshown.validated⟩) hshown.succeeded
      (deliversExactly_of_showsPayment hshape hshown)
    exact ⟨j, rec, answer, d, metadata, delivered, hupdated, rfl, hvalidated, hlookedUp, hsettled⟩
  · exact ⟨k, t, pays_of_fingerprint hinj hki.symm hpays, hki, hverified, hlog⟩

theorem success_backed_by_ledger (hinj : Function.Injective env.sha256) (calls : ι → Call env)
    (c : SettleConfig ι) (h : SettleRun calls c) :
    (∀ i resp, c.threads i = some (.ret resp) → resp.success = true →
      ∃ blob hash, (calls i).Pays blob hash ∧ Backed calls c.state.log i blob hash) ∧
    (∀ st r ttl n answer, st.status = .pending →
      -- A validated answer is read alike, and a verdict is stored unless it cannot be judged.
      (∀ d, ShowsValidated answer d →
        (¬ RaisingAnswer env d r →
          ∃ p, BothGoOn env st r ttl n answer p ∧ StoresVerdict env st r ttl p) ∧
        (RaisingAnswer env d r → ∃ e, BothGoOn env st r ttl n answer (.raise e))) ∧
      -- On any other answer polling goes on, and reconciliation stores at most an expiry.
      ((∀ d, ¬ ShowsValidated answer d) →
        Steps (waitForValidation env st r ttl (n + 1)) [lookupEvent st answer]
            (waitForValidation env st r ttl n) ∧
          ∃ p, Steps (reconcile env st r ttl) [lookupEvent st answer] p ∧
            p.Uses (StoresAtMostExpiry st answer))) := by
  refine ⟨fun i resp hi hs => backed_of_success hinj h hi hs, fun st r ttl n answer hst => ?_⟩
  exact ⟨fun d hd => ⟨readers_agree hst hd, readers_raise hst hd⟩, readers_not_validated hst⟩

theorem success_backed_by_ledger_sample : ∃ c blob hash, SettleRun Sample.sampleCalls c ∧
    Backed Sample.sampleCalls c.state.log 0 blob hash := by
  obtain ⟨c, hrun, hc⟩ := Sample.run_success
  obtain ⟨blob, hash, -, hbacked⟩ := (success_backed_by_ledger Sample.sha256_injective
    Sample.sampleCalls c hrun).1 0 Sample.success hc rfl
  exact ⟨c, blob, hash, hrun, hbacked⟩

namespace Sample

open XrplX402.Sample

/-- A validated payment of `USD` whose delivered value is not a number. -/
def unreadable : Dict :=
  [("validated", .bool true),
    ("meta", .obj [("TransactionResult", .str "tesSUCCESS"), ("delivered_amount", .obj
      [("currency", .str "USD"), ("issuer", .str "rIssuer"), ("value", .str "abc")])])]

def usdRecord : XRPLSettlementState :=
  .new hash "xrpl:1" (some "rPayer") 100 110 "fingerprint" .pending

theorem raisingAnswer_unreadable : RaisingAnswer sampleEnv unreadable (tenOf "USD") := by
  have hwire : xrplCurrencyCode sampleEnv (tenOf "USD").asset = .ok "USD" := by decide +kernel
  refine ⟨by decide +kernel, _, rfl, .value (by decide) hwire rfl (by decide +kernel) ?_⟩
  rintro ⟨⟨d, hd, -⟩, -⟩
  have hnone : decimalOfStr sampleEnv.unicode "abc" = none := by decide +kernel
  exact absurd (hnone.symm.trans hd) (by simp)

end Sample

open XrplX402.Sample in
/-- Neither reader stores a verdict on this answer or returns one. -/
theorem validated_answer_raises :
    validateRequirementsShape Sample.sampleEnv (tenOf "USD") = .ok tenOfExtra ∧
      Sample.usdRecord.status = .pending ∧
      ShowsValidated (.ok (.obj Sample.unreadable)) Sample.unreadable ∧
      ∃ e, BothGoOn Sample.sampleEnv Sample.usdRecord (tenOf "USD") 600 0
        (.ok (.obj Sample.unreadable)) (.raise e) := by
  have hanswer : ShowsValidated (.ok (.obj Sample.unreadable)) Sample.unreadable := ⟨rfl, rfl, rfl⟩
  exact ⟨by decide +kernel, rfl, hanswer, readers_raise rfl hanswer Sample.raisingAnswer_unreadable⟩

/-! ## Section 3: Binding and monotone verdicts -/

/-- What a record can become: nothing but a record of the same payment that is
    further. -/
def Advances (rec rec' : XRPLSettlementState) : Prop :=
  rec.SamePayment rec' ∧ (rec' = rec ∨ rec.status.rank < rec'.status.rank)

omit [DecidableEq ι] in
theorem Advances.trans {a b d : XRPLSettlementState} (h : Advances a b) (h' : Advances b d) :
    Advances a d := by
  refine ⟨h.1.trans h'.1, ?_⟩
  rcases h.2 with rfl | hlt
  · exact h'.2
  · rcases h'.2 with rfl | hlt'
    · exact .inr hlt
    · exact .inr (lt_trans hlt hlt')

/-- One step of a call takes a record to one that it can become. -/
theorem advances_of_step {s s' : SharedState ι} {j : ι}
    (h : (settleContract calls allowed).StepBy j s s') {k : String} {rec : XRPLSettlementState}
    (hk : s.shared.settlements k = some rec) :
    ∃ rec', s'.shared.settlements k = some rec' ∧ Advances rec rec' := by
  obtain ⟨hinv, o, r, t, hpre, hx, -, rfl⟩ := h
  rw [State.push_shared]
  by_cases ho : o.readsSettlements = true
  · exact ⟨rec, by rw [exec_reads ho hx, hk], .refl _, .inl rfl⟩
  · cases o with
    | reserve st ttl =>
      cases r with
      | true =>
        obtain ⟨hfree, rfl⟩ := exec_reserve_true.mp hx
        have hne : k ≠ storeKey env st.transaction := by
          rintro rfl
          rw [hfree] at hk
          cases hk
        exact ⟨rec, by simp [Function.update_of_ne hne, hk], .refl _, .inl rfl⟩
      | false =>
        obtain ⟨-, rfl⟩ := exec_reserve_false.mp hx
        exact ⟨rec, hk, .refl _, .inl rfl⟩
    | update st ttl =>
      have hp : UpdatePromise (calls j) j s.log st := hpre
      have hx' : exec env s.shared (.update st ttl) r = some t := hx
      rcases exec_update hx' with ⟨-, rfl⟩ | ⟨cur, hcur, rfl⟩
      · exact ⟨rec, hk, .refl _, .inl rfl⟩
      · by_cases hkey : k = storeKey env st.transaction
        · subst hkey
          obtain rfl : cur = rec := Option.some.inj (hcur.symm.trans hk)
          have hsame : st.SamePayment cur := by
            rw [(hasHash_key hp.hash).1] at hcur
            obtain ⟨hkr, hw⟩ := hinv.stored _ _ hcur
            obtain ⟨i, q, hq, hs⟩ := hp.reserved
            exact hs.symm.trans (hinv.samePayment_of_wrote ⟨i, .inl hq⟩ hw (hs.1.trans hkr))
          refine ⟨monotonicUpdate cur st, by simp, (samePayment_monotonicUpdate hsame).1, ?_⟩
          unfold monotonicUpdate
          split
          · next h =>
            -- A verdict is never pending, so it is further than what it replaces.
            have hlt := h.resolve_left fun hpending => hp.evidence.terminal hpending.2
            exact .inr hlt
          · exact .inl rfl
        · exact ⟨rec, by simp [Function.update_of_ne hkey, hk], .refl _, .inl rfl⟩
    | _ => exact absurd rfl ho

theorem advances_of_evolve {s s' : SharedState ι}
    (h : (settleContract calls allowed).Evolve s s') {k : String} {rec : XRPLSettlementState}
    (hk : s.shared.settlements k = some rec) :
    ∃ rec', s'.shared.settlements k = some rec' ∧ Advances rec rec' := by
  refine h.keep (P := fun x => ∃ rec', x.shared.settlements k = some rec' ∧ Advances rec rec') ?_
    ⟨rec, hk, .refl _, .inl rfl⟩
  rintro j a b hstep ⟨rec', hrec', hadv⟩
  obtain ⟨rec'', hrec'', hadv'⟩ := advances_of_step hstep hrec'
  exact ⟨rec'', hrec'', hadv.trans hadv'⟩

omit [DecidableEq ι] in
theorem hash_unique {call : Call env} {a b : String} (ha : call.HasHash a) (hb : call.HasHash b) :
    a = b := by
  obtain ⟨blob, ha⟩ := ha
  obtain ⟨blob', hb⟩ := hb
  unfold Call.Pays at ha hb
  rw [ha] at hb
  exact congrArg Prod.snd (Except.ok.inj hb)

/-- What is stored under a hash has the fingerprint of everything written for it. -/
theorem Invariant.fingerprint_of_wrote {s : SharedState ι} (h : Invariant calls s)
    {st rec : XRPLSettlementState} (hw : Wrote s.log st)
    (hrec : s.shared.settlements st.transaction = some rec) :
    st.paymentFingerprint = rec.paymentFingerprint := by
  obtain ⟨rec', hrec', hsame, -⟩ := h.kept st hw
  obtain rfl : rec = rec' := Option.some.inj (hrec.symm.trans hrec')
  exact hsame.2.2.2.2.2

/-- A call whose hash is bound to another fingerprint neither submits nor
    changes a record. -/
theorem harmless_of_bound_elsewhere {s : SharedState ι} (h : Invariant calls s) {i : ι}
    {hash : String} {rec : XRPLSettlementState} (hhash : (calls i).HasHash hash)
    (hrec : s.shared.settlements hash = some rec)
    (hother : rec.paymentFingerprint ≠ (calls i).fingerprint) :
    ∀ e ∈ own i s.log, e.op.isSubmit = false ∧ LeavesRecords env e := by
  -- Whatever the call writes carries its own hash and fingerprint.
  have hnone : ∀ st, Wrote s.log st → (calls i).HasHash st.transaction →
      st.paymentFingerprint ≠ (calls i).fingerprint := by
    intro st hw hst heq
    have ht : st.transaction = hash := hash_unique hst hhash
    have hsame := h.fingerprint_of_wrote hw (ht ▸ hrec)
    exact hother (hsame.symm.trans heq)
  intro e he
  obtain ⟨newer, older, hlog, hp⟩ := h.promised.of_mem (mem_own.mp he)
  have hsub : ∀ x ∈ older, x ∈ s.log := fun x hx => by simp [hlog, hx]
  obtain ⟨o, r⟩ := e
  by_cases ho : o.readsSettlements = true
  · refine ⟨?_, leavesRecords_of_reads ho⟩
    cases o with
    | rpc q =>
      cases q with
      | submitOnly blob =>
        obtain ⟨st, hr, hpays⟩ := SubmitPromise.reserved hp
        obtain ⟨_, _, _, _, hreserve⟩ := h.reserve_promise (hr.mono hsub)
        exact absurd hreserve.fingerprint (hnone st ⟨i, .inl (hr.mono hsub)⟩ hreserve.hash)
      | _ => rfl
    | _ => rfl
  · cases o with
    | reserve st ttl =>
      refine ⟨rfl, ?_⟩
      cases r with
      | true =>
        have hr : Reserved s.log i st := ⟨ttl, mem_own.mp he⟩
        have hreserve : ReservePromise (calls i) i older st := hp
        exact absurd hreserve.fingerprint (hnone st ⟨i, .inl hr⟩ hreserve.hash)
      | false =>
        intro s₁ t hx
        rw [(exec_reserve_false.mp hx).2]
    | update st ttl =>
      have hu : Updated s.log i st := ⟨ttl, mem_own.mp he⟩
      have hupdate := h.update_promise hu
      exact absurd hupdate.fingerprint (hnone st ⟨i, .inr hu⟩ hupdate.hash)
    | _ => exact absurd rfl ho

/-- The record behind a success, at the end of the run. -/
theorem validated_of_success
    (h : Run (settleSystem env calls) allowed (Config.init Stores.empty) c) {i : ι}
    {resp : SettleResponse} (hi : c.threads i = some (.ret resp)) (hs : resp.success = true) :
    ∃ hash rec, (calls i).HasHash hash ∧ c.state.shared.settlements hash = some rec ∧
      rec.paymentFingerprint = (calls i).fingerprint ∧ rec.status = .validated := by
  have hgood := settle_good h
  obtain ⟨s, -, hrely, hends⟩ := hgood.ended hi ⟨rfl, rfl⟩
  obtain ⟨st, hhash, hfp, hwrote, hvalidated, -⟩ := Outcome.validated hends hs
  have hwrote' : Wrote c.state.log st := by
    obtain ⟨j, hj⟩ := hwrote
    have hsub : ∀ e ∈ s.log, e ∈ c.state.log := fun e he => hrely.evolve.mem_log he
    exact ⟨j, hj.imp (·.mono hsub) (·.mono hsub)⟩
  obtain ⟨rec, hrec, hsame, hrank⟩ := hgood.inv.kept st hwrote'
  rw [hvalidated] at hrank
  exact ⟨st.transaction, rec, hhash, hrec, hsame.2.2.2.2.2.symm.trans hfp,
    status_eq_validated_of_rank hrank⟩

/-- A call that finds a validated record of its own request succeeds at once. -/
theorem settleExisting_validated {call : Call env} {rec : XRPLSettlementState} {hash : String}
    (hfp : rec.paymentFingerprint = call.fingerprint) (hv : rec.status = .validated) :
    settleExisting call.facilitator rec hash call.fingerprint call.requirements =
      .ret (stateResponse env rec call.requirements.amount) := by
  unfold settleExisting reconcile
  have hst : rec.status ≠ .pending := by simp [hv]
  rw [if_neg (not_not.mpr hfp), if_pos hst]
  rfl

/-- `p` has not begun, or has ended with success. -/
def SucceedsLate (call : Call env) (p : Service SettleResponse) : Prop :=
  p = call.run ∨ ∃ resp, p = .ret resp ∧ resp.success = true

theorem succeeds_later (hc : SettleRun calls c) (h : Run (settleSystem env calls) anyStep c c')
    {j : ι} {hash : String} {rec : XRPLSettlementState} (hhash : (calls j).HasHash hash)
    (hrec : c.state.shared.settlements hash = some rec)
    (hfp : rec.paymentFingerprint = (calls j).fingerprint) (hv : rec.status = .validated)
    (hj : c.threads j = none) {p : Service SettleResponse} (hp : c'.threads j = some p) :
    SucceedsLate (calls j) p := by
  obtain ⟨blob, hpays⟩ := hhash
  induction h generalizing p with
  | refl =>
    rw [hj] at hp
    cases hp
  | @start c₁ i _ hi ih =>
    by_cases hij : j = i
    · subst hij
      have hprog : (settleSystem env calls).prog j = p := by simpa [Config.setThread] using hp
      exact .inl hprog.symm
    · exact ih (by simpa [Config.setThread, hij] using hp)
  | @call c₁ i o k r t hrun hi hx _ ih =>
    by_cases hij : j = i
    · subst hij
      obtain rfl : k r = p := by simpa [Config.setThread] using hp
      rcases ih hi with hbegin | ⟨resp, hend, _⟩
      · -- The first operation reads the record, which is still validated.
        have hev := ((settle_good hc).run (fun _ _ _ hown => holds_settle hown) hrun).2
        obtain ⟨rec', hrec', hadv⟩ := advances_of_evolve hev hrec
        have hpays' : payloadHash env (calls j).payload = .ok (blob, hash) := hpays
        unfold Call.run settle at hbegin
        rw [hpays'] at hbegin
        injection hbegin with ho hk
        subst ho
        obtain ⟨hr, -⟩ := exec_get.mp hx
        rw [(hasHash_key ⟨blob, hpays⟩).1, hrec'] at hr
        have hv' : rec'.status = .validated := by
          rcases hadv.2 with rfl | hlt
          · exact hv
          · rw [hv] at hlt
            exact status_eq_validated_of_rank hlt.le
        have hfp' : rec'.paymentFingerprint = (calls j).fingerprint :=
          hadv.1.2.2.2.2.2.symm.trans hfp
        refine .inr ⟨stateResponse env rec' (calls j).requirements.amount, ?_, ?_⟩
        · rw [eq_of_heq hk, hr]
          exact settleExisting_validated hfp' hv'
        · simp [stateResponse, hv']
      · cases hend
    · exact ih (by simpa [Config.setThread, hij] using hp)

/-- Once a record is bound to a request, only calls for that request succeed. -/
theorem fingerprint_of_success
    (h : Run (settleSystem env calls) allowed (Config.init Stores.empty) c) {i : ι}
    {resp : SettleResponse} (hi : c.threads i = some (.ret resp)) (hs : resp.success = true)
    {hash : String} {rec : XRPLSettlementState} (hhash : (calls i).HasHash hash)
    (hrec : c.state.shared.settlements hash = some rec) :
    rec.paymentFingerprint = (calls i).fingerprint := by
  obtain ⟨hash', rec', hhash', hrec', hfp, -⟩ := validated_of_success h hi hs
  obtain rfl := hash_unique hhash hhash'
  obtain rfl : rec = rec' := Option.some.inj (hrec.symm.trans hrec')
  exact hfp

/-- Two calls that are about the same requirements, resource and extensions. -/
def SameCombination (a b : Call env) : Prop :=
  SameRequirements a.requirements b.requirements ∧ a.payload.resource = b.payload.resource ∧
    (optDict a.payload.extensions).sortKeys = (optDict b.payload.extensions).sortKeys

theorem binding_and_monotone_verdicts (calls : ι → Call env) (c c' : SettleConfig ι)
    (hc : SettleRun calls c) (h : Run (settleSystem env calls) anyStep c c') :
    -- A record only advances.
    (∀ hash rec, c.state.shared.settlements hash = some rec →
      ∃ rec', c'.state.shared.settlements hash = some rec' ∧ Advances rec rec') ∧
    -- A call for another fingerprint neither succeeds nor submits nor changes a record.
    (∀ i hash rec, (calls i).HasHash hash → c.state.shared.settlements hash = some rec →
      rec.paymentFingerprint ≠ (calls i).fingerprint →
      (∀ resp, c'.threads i = some (.ret resp) → resp.success = false) ∧
        ∀ e ∈ own i c'.state.log, e.op.isSubmit = false ∧ LeavesRecords env e) ∧
    -- A transaction pays for one combination of requirements, resource and extensions.
    (∀ i j hash resp resp', (calls i).HasHash hash → (calls j).HasHash hash →
      c.threads i = some (.ret resp) → resp.success = true →
      c'.threads j = some (.ret resp') → resp'.success = true →
      (calls i).fingerprint = (calls j).fingerprint ∧
        (Function.Injective env.sha256 → SameCombination (calls i) (calls j))) ∧
    -- After a success, every later call for the same hash and fingerprint succeeds.
    (∀ i j hash resp p, (calls i).HasHash hash → (calls j).HasHash hash →
      (calls i).fingerprint = (calls j).fingerprint → c.threads i = some (.ret resp) →
      resp.success = true → c.threads j = none → c'.threads j = some p →
      SucceedsLate (calls j) p) := by
  have hc' : SettleRun calls c' := hc.trans h
  have hinv' := settle_invariant hc'
  have hev := ((settle_good hc).run (fun _ _ _ hown => holds_settle hown) h).2
  have hbound : ∀ i hash rec, (calls i).HasHash hash →
      c.state.shared.settlements hash = some rec → ∀ resp, c'.threads i = some (.ret resp) →
      resp.success = true → rec.paymentFingerprint = (calls i).fingerprint := by
    intro i hash rec hhash hrec resp hi hs
    obtain ⟨rec', hrec', hadv⟩ := advances_of_evolve hev hrec
    exact hadv.1.2.2.2.2.2.trans (fingerprint_of_success hc' hi hs hhash hrec')
  refine ⟨fun hash rec hrec => advances_of_evolve hev hrec, ?_, ?_, ?_⟩
  · intro i hash rec hhash hrec hother
    refine ⟨fun resp hi => ?_, ?_⟩
    · by_contra hs
      exact hother (hbound i hash rec hhash hrec resp hi (by simpa using hs))
    · obtain ⟨rec', hrec', hadv⟩ := advances_of_evolve hev hrec
      refine harmless_of_bound_elsewhere hinv' hhash hrec' ?_
      rw [← hadv.1.2.2.2.2.2]
      exact hother
  · intro i j hash resp resp' hi hj hci hs hcj hs'
    obtain ⟨hash', rec, hhash, hrec, hfp, -⟩ := validated_of_success hc hci hs
    obtain rfl := hash_unique hi hhash
    have hsame : (calls i).fingerprint = (calls j).fingerprint :=
      hfp.symm.trans (hbound j _ rec hj hrec resp' hcj hs')
    refine ⟨hsame, fun hinj => ?_⟩
    obtain ⟨hreq, -, hres, hext, -⟩ := request_eq_of_fingerprint hinj hsame
    exact ⟨hreq, by simpa using hres, hext⟩
  · intro i j hash resp p hi hj hsame hci hs hcj hp
    obtain ⟨hash', rec, hhash, hrec, hfp, hv⟩ := validated_of_success hc hci hs
    obtain rfl := hash_unique hi hhash
    exact succeeds_later hc h hj hrec (hfp.trans hsame) hv hcj hp

namespace Sample

/-- The first call and the last one are for the sample payload, the one between
    is for the same transaction with a payment identifier. -/
def mixedCalls (i : Fin 3) : Call sampleEnv :=
  ⟨facilitator, 1, if i.val = 1 then identifiedPayload else payload, requirements⟩

def mixedFrom (steps : List Step) (c : SettleConfig (Fin 3)) : Option (SettleConfig (Fin 3)) :=
  (settleSystem sampleEnv mixedCalls).replay steps c

/-- Call 0 settles the payment alone. -/
def aloneSteps : List Step := .start 0 :: List.replicate 9 (stepBefore 7 0)

/-- Then the two others look the hash up. -/
def laterSteps : List Step := [.start 1, stepBefore 7 1, .start 2, stepBefore 7 2]

def refusedAndRepeated (c : SettleConfig (Fin 3)) : Bool :=
  c.outcome 1 = some (.ok (mismatchResponse completed hash)) && c.outcome 2 = some (.ok success)

/-- Call 0 has succeeded, and the others will end so. -/
def settledAlone (c : SettleConfig (Fin 3)) : Bool :=
  c.outcome 0 = some (.ok success) && (c.threads 2).isNone &&
    (mixedFrom laterSteps c).any refusedAndRepeated

theorem replay_settledAlone : (mixedFrom aloneSteps (Config.init Stores.empty)).any settledAlone = true := by
  decide +kernel

theorem run_mixed : ∃ c c', SettleRun mixedCalls c ∧
    Run (settleSystem sampleEnv mixedCalls) anyStep c c' ∧ c.threads 0 = some (.ret success) ∧
    c.threads 2 = none ∧ c'.threads 1 = some (.ret (mismatchResponse completed hash)) ∧
    c'.threads 2 = some (.ret success) := by
  have hobeys : ∀ steps : List Step, ∀ l ∈ steps, l.Obeys anyStep := by
    intro steps l _
    cases l <;> simp [Label.Obeys]
  obtain ⟨c, hrun, hc⟩ := System.exists_run (hobeys _) replay_settledAlone
  simp only [settledAlone, Bool.and_eq_true, decide_eq_true_eq, Option.isNone_iff_eq_none] at hc
  obtain ⟨c', hrun', hc'⟩ := System.exists_run (hobeys _) hc.2
  simp only [refusedAndRepeated, Bool.and_eq_true, decide_eq_true_eq] at hc'
  exact ⟨c, c', hrun, hrun', Config.outcome_eq_ok.mp hc.1.1, hc.1.2, Config.outcome_eq_ok.mp hc'.1,
    Config.outcome_eq_ok.mp hc'.2⟩

end Sample

/-- A success, a refusal of another request for the transaction, and the same
    request again. -/
theorem binding_and_monotone_verdicts_sample : ∃ c c' rec, SettleRun Sample.mixedCalls c ∧
    Run (settleSystem Sample.sampleEnv Sample.mixedCalls) anyStep c c' ∧
    c.state.shared.settlements Sample.hash = some rec ∧
    (∃ rec', c'.state.shared.settlements Sample.hash = some rec' ∧ Advances rec rec') ∧
    (c'.threads 1 = some (.ret (mismatchResponse Sample.completed Sample.hash)) ∧
      ∀ e ∈ own 1 c'.state.log, e.op.isSubmit = false ∧ LeavesRecords Sample.sampleEnv e) ∧
    SameCombination (Sample.mixedCalls 0) (Sample.mixedCalls 2) ∧
    SucceedsLate (Sample.mixedCalls 2) (.ret Sample.success) := by
  obtain ⟨c, c', hrun, hrun', hfirst, hfree, hother, hlast⟩ := Sample.run_mixed
  obtain ⟨hadvance, hharmless, hcombination, hlate⟩ :=
    binding_and_monotone_verdicts Sample.mixedCalls c c' hrun hrun'
  have hhash : ∀ i, (Sample.mixedCalls i).HasHash Sample.hash :=
    fun i => ⟨"12000022", by unfold Call.Pays; revert i; decide +kernel⟩
  obtain ⟨hash, rec, hpays, hrec, hfp, -⟩ := validated_of_success hrun hfirst rfl
  obtain rfl := hash_unique hpays (hhash 0)
  have hdiffer : rec.paymentFingerprint ≠ (Sample.mixedCalls 1).fingerprint := by
    rw [hfp]
    decide +kernel
  refine ⟨c, c', rec, hrun, hrun', hrec, hadvance _ rec hrec,
    ⟨hother, (hharmless 1 _ rec (hhash 1) hrec hdiffer).2⟩, ?_, ?_⟩
  · exact (hcombination 0 2 _ _ _ (hhash 0) (hhash 2) hfirst rfl hlast rfl).2 Sample.sha256_injective
  · exact hlate 0 2 _ _ _ (hhash 0) (hhash 2) rfl hfirst rfl hfree hlast

end XrplX402.Facilitator
