import XrplX402.Facilitator.Expiry
import XrplX402.Facilitator.Refusals
import XrplX402.Interaction.Total

/-! # Resolving reserved payments

    A record that is reserved has no time to live until it has a verdict. Once
    the ledger has passed the window, a further call with the same envelope is
    to find one.

    * `History`: what the node answers to lookups, as documented.
    * `Later`: the answers that a further call can get.
    * A further call finds a verdict exactly when the reserved window is one that
      the node searches. -/

namespace XrplX402.Facilitator

open Py Interaction Prog

variable {env : Env}

/-! ## Section 1: Lookups -/

/-- A delivered amount in the documented form. -/
inductive IsDelivered (env : Env) : Json → Prop where
  | missing : IsDelivered env .null
  | unavailable : IsDelivered env (.str "unavailable")
  | drops (s : String) (n : Int) (value : intOfStr env.unicode s = .ok n) : IsDelivered env (.str s)
  | issued (d : Dict) (text : String) (value : Decimal) (q : ℚ)
      (isValue : Dict.get d "value" = .str text)
      (decimal : decimalOfStr env.unicode text = some value) (number : value.Denotes q) :
      IsDelivered env (.obj d)

/-- A validated transaction with its metadata. -/
structure IsTransaction (env : Env) (d : Dict) : Prop where
  noError : Dict.get d "error" = .null
  validated : isValidated d = true
  metadata : ∃ metadata, metaOf d = .obj metadata ∧ IsDelivered env (deliveredAmount metadata)

/-- The transactions of the ledger, by id: the ledger that contains one, and how
    a lookup shows it. -/
structure History (env : Env) where
  transaction : String → Option (Int × Dict)
  shown : ∀ id n d, transaction id = some (n, d) → IsTransaction env d

/-- The node does not search this range. -/
def OutOfRange (minLedger maxLedger : Int) : Prop :=
  maxLedger < minLedger ∨ 1000 < maxLedger - minLedger

/-- An error other than `txnNotFound`. -/
def IsRangeError (answer : Except Exc Json) : Prop :=
  ∃ d, answer = .ok (.obj d) ∧ Dict.get d "error" ≠ .null ∧ Dict.get d "error" ≠ .str "txnNotFound"

/-- No ledger of the range contains the transaction. -/
def IsNotFound (answer : Except Exc Json) : Prop :=
  ∃ d, answer = .ok (.obj d) ∧ Dict.get d "error" = .str "txnNotFound" ∧
    Dict.get d "searched_all" = .bool true

/-- The answer of a node that has all ledgers of the range. -/
inductive History.Finds (H : History env) (id : String) (minLedger maxLedger : Int) :
    Except Exc Json → Prop where
  | found (n : Int) (d : Dict) (isThere : H.transaction id = some (n, d))
      (inRange : minLedger ≤ n ∧ n ≤ maxLedger) : H.Finds id minLedger maxLedger (.ok (.obj d))
  | missing (answer : Except Exc Json)
      (isNotThere : ∀ n d, H.transaction id = some (n, d) → ¬ (minLedger ≤ n ∧ n ≤ maxLedger))
      (notFound : IsNotFound answer) : H.Finds id minLedger maxLedger answer

/-- While the ledgers of a range are not all there, the answer is left open. -/
def RangeDocumented : (o : Op) → Ret o → Prop
  | .rpc (.tx _ minLedger maxLedger), answer => OutOfRange minLedger maxLedger → IsRangeError answer
  | _, _ => True

theorem lookupOf_rangeError {answer : Except Exc Json} (h : IsRangeError answer) :
    lookupOf answer = ⟨none, false⟩ := by
  obtain ⟨d, rfl, hpresent, hother⟩ := h
  unfold lookupOf
  simp [hpresent, hother]

theorem lookupOf_notFound {answer : Except Exc Json} (h : IsNotFound answer) :
    lookupOf answer = ⟨none, true⟩ := by
  obtain ⟨d, rfl, herror, hsearched⟩ := h
  unfold lookupOf
  simp [herror, hsearched]

theorem lookupOf_transaction {d : Dict} (h : IsTransaction env d) :
    lookupOf (.ok (.obj d)) = ⟨some d, false⟩ := by
  have hne : d ≠ [] := by
    rintro rfl
    have hvalidated := h.validated
    simp [isValidated, Dict.get, Json.truthy] at hvalidated
  unfold lookupOf
  simp [h.noError, hne]

theorem xrpDelivered_ok {delivered : Json} {r : PaymentRequirements}
    (h : IsDelivered env delivered) (hknown : delivered ≠ .str "unavailable")
    (hshape : WellShaped env r) (hasset : r.asset = "XRP") :
    ∃ equal, xrpDelivered env delivered r = .ok equal := by
  obtain ⟨-, required, hrequired, -⟩ := hshape.native hasset
  cases h with
  | missing => exact ⟨false, rfl⟩
  | unavailable => exact absurd rfl hknown
  | issued d text value q isValue decimal number => exact ⟨false, rfl⟩
  | drops s n value =>
    unfold xrpDelivered
    simp only
    split
    · refine ⟨decide (n = required), ?_⟩
      exact bind_eq_ok.mpr ⟨n, value, bind_eq_ok.mpr ⟨required, hrequired, rfl⟩⟩
    · exact ⟨false, rfl⟩

theorem iouDelivered_ok {delivered : Json} {r : PaymentRequirements}
    (h : IsDelivered env delivered) (hdecimal : isDecimalAmount r.amount = true)
    (hwire : xrplCurrencyCode env r.asset = .ok r.asset) :
    ∃ equal, iouDelivered env delivered r = .ok equal := by
  cases h with
  | missing => exact ⟨false, rfl⟩
  | unavailable => exact ⟨false, rfl⟩
  | drops s n value => exact ⟨false, rfl⟩
  | issued d text value q isValue decimal number =>
    have hstr : str env.unicode (Dict.get d "value") = text := by
      rw [isValue]
      rfl
    obtain ⟨order, horder⟩ := compareDecimalStrings_ok decimal number hdecimal
    unfold iouDelivered
    simp only
    by_cases hother : Dict.get d "currency" ≠ .str r.asset ∨
        (Dict.get d "issuer").pyEq (Dict.get r.extraOr "issuer") = false
    · refine ⟨false, bind_eq_ok.mpr ⟨r.asset, hwire, ?_⟩⟩
      rw [if_pos hother]
      rfl
    · refine ⟨decide (order = 0), bind_eq_ok.mpr ⟨r.asset, hwire, ?_⟩⟩
      rw [if_neg hother, hstr]
      exact bind_eq_ok.mpr ⟨order, horder, rfl⟩

/-- A delivered amount in the documented form is judged without an exception. -/
theorem deliveredAmountError_ok {d : Dict} {r : PaymentRequirements} (h : IsTransaction env d)
    (hshape : WellShaped env r) (hwire : xrplCurrencyCode env r.asset = .ok r.asset) :
    ∃ e, deliveredAmountError env d r = .ok e := by
  obtain ⟨metadata, hmeta, hdelivered⟩ := h.metadata
  unfold deliveredAmountError
  rw [hmeta]
  simp only
  split
  · exact ⟨_, rfl⟩
  · next hknown =>
    have hequal : ∃ equal, amountDelivered env (deliveredAmount metadata) r = .ok equal := by
      unfold amountDelivered
      split
      · next hasset =>
        exact xrpDelivered_ok hdelivered (fun heq => hknown (.inr heq)) hshape hasset
      · next hasset => exact iouDelivered_ok hdelivered (hshape.decimal hasset) hwire
    obtain ⟨equal, hequal⟩ := hequal
    exact ⟨_, bind_eq_ok.mpr ⟨equal, hequal, rfl⟩⟩

/-! ## Section 2: A further call -/

/-- The call returns, and the outcome is not left open. -/
def Terminal (x : Except FacilitatorExc SettleResponse) : Prop :=
  ∃ resp, x = .ok resp ∧ ¬ resp.IsPending

/-- A verdict is a terminal answer. -/
theorem not_isPending_of_verdict {past : List (Event Op Ret)} {st : XRPLSettlementState}
    (h : VerdictAfter past st) (amount : String) : ¬ (stateResponse env st amount).IsPending := by
  unfold SettleResponse.IsPending
  rw [errorReason_stateResponse]
  intro hpending
  cases h with
  | completed status =>
    unfold stateResponse at hpending
    rw [if_pos status] at hpending
    cases hpending
  | failed reason isReason status result =>
    rw [errorReason_of_result status result] at hpending
    obtain ⟨text, htext⟩ := isReason
    have hlist := congrArg (fun s : String => s.toList.take 11) (Option.some.inj hpending)
    rw [htext] at hlist
    simp only [String.toList_append] at hlist
    exact absurd hlist (by simp)
  | expired answer lookup absent status result =>
    rw [errorReason_of_result status result] at hpending
    exact absurd (Option.some.inj hpending) (by decide)

section Runs

variable {ι : Type} [DecidableEq ι] {calls : ι → Call env} {c : SettleConfig ι} {H : History env}

/-- A run may time its ledgers as it likes. -/
def DocumentedRanges (_ : SharedState ι) (e : Entry ι Op Ret) : Prop := RangeDocumented e.op e.ans

/-- What a further call can be answered once `last` is a validated ledger: the
    store may have moved on, and the node has all ledgers up to `last`. -/
def Later (calls : ι → Call env) (H : History env) (c : SettleConfig ι) (last : Int) :
    (o : Op) → Ret o → Prop
  | .get id, found => ∃ c', Run (settleSystem env calls) DocumentedRanges c c' ∧
      found = c'.state.shared.settlements (storeKey env id)
  | .rpc .ledger, answer => ∃ n, ledgerIndex env answer = .ok n ∧ last ≤ n
  | .rpc (.tx id minLedger maxLedger), answer =>
    (OutOfRange minLedger maxLedger → IsRangeError answer) ∧
      (¬ OutOfRange minLedger maxLedger → H.Finds id minLedger maxLedger answer)
  | _, _ => True

/-- A pending record whose window is searched gets a verdict. -/
theorem total_reconcile {rec : XRPLSettlementState} {r : PaymentRequirements} {ttl : Int}
    (hst : rec.status = .pending)
    (hrange : ¬ OutOfRange rec.firstLedgerSequence rec.lastLedgerSequence)
    (hshape : WellShaped env r) (hwire : xrplCurrencyCode env r.asset = .ok r.asset) :
    Total (Later calls H c rec.lastLedgerSequence) Terminal (reconcile env rec r ttl) := by
  unfold reconcile
  rw [if_neg (not_not.mpr hst)]
  intro answer hanswer
  have hfinds := hanswer.2 hrange
  cases hfinds with
  | found n d isThere inRange =>
    -- The verdict follows the validated transaction, whatever its result.
    have hd := H.shown _ _ _ isThere
    have hshown : (lookupOf (.ok (.obj d))).transaction.filter isValidated = some d := by
      rw [lookupOf_transaction hd, Option.filter_some, if_pos hd.validated]
    have herror : ∃ error, reconcileDeliveredError env (transactionResult env d) d r = .ok error := by
      unfold reconcileDeliveredError
      split
      · exact deliveredAmountError_ok hd hshape hwire
      · exact ⟨none, rfl⟩
    obtain ⟨error, herror⟩ := herror
    simp only [Prog.bind, hshown]
    rw [herror]
    intro _ _
    exact ⟨_, rfl, not_isPending_of_verdict (verdictAfter_reconcileVerdict [] herror) _⟩
  | missing _ isNotThere notFound =>
    -- A complete search missed it, and the window has passed.
    simp only [Prog.bind, lookupOf_notFound notFound]
    show Total _ _ (reconcileAbsence env rec r ttl)
    unfold reconcileAbsence
    rw [currentLedgerOrNone_eq]
    intro ledger hledger
    obtain ⟨n, hn, hpassed⟩ := hledger
    show Total _ _ (if (ledgerIndex env ledger).toOption.any (rec.lastLedgerSequence ≤ ·) = true then _
      else _ : Service SettleResponse)
    rw [hn, if_pos (by simpa [Except.toOption] using hpassed)]
    intro _ _
    refine ⟨_, rfl, ?_⟩
    unfold SettleResponse.IsPending
    have hreason := @errorReason_of_result env
      (rec.withResult .failed (errorResult "transaction_expired")) "transaction_expired" rfl rfl
    rw [errorReason_stateResponse, hreason]
    decide

/-- Lookups of a window that is not searched support no verdict. -/
theorem pending_of_outOfRange
    (h : Run (settleSystem env calls) DocumentedRanges (Config.init Stores.empty) c) {i : ι}
    {st : XRPLSettlementState} (hr : Reserved c.state.log i st)
    (hrange : OutOfRange st.firstLedgerSequence st.lastLedgerSequence) :
    ∃ rec, c.state.shared.settlements st.transaction = some rec ∧ st.SamePayment rec ∧
      rec.status = .pending := by
  have hinv := settle_invariant h
  obtain ⟨rec, hrec, hsame, -⟩ := hinv.kept st ⟨i, .inl hr⟩
  refine ⟨rec, hrec, hsame, ?_⟩
  obtain ⟨-, j, hw⟩ := hinv.stored _ _ hrec
  have hnothing : ∀ j a, LookedUp c.state.log j rec a → lookupOf a = ⟨none, false⟩ := by
    intro j a ha
    have hevery := h.every_entry (P := fun e _ => RangeDocumented e.op e.ans)
      fun _ _ hallowed => hallowed
    obtain ⟨_, _, _, hanswers⟩ := hevery.of_mem ha
    apply lookupOf_rangeError
    apply hanswers
    rwa [← hsame.2.2.2.1, ← hsame.2.2.2.2.1]
  rcases hw with hreserved | hupdated
  · obtain ⟨_, _, _, _, hp⟩ := hinv.reserve_promise hreserved
    exact hp.status
  · cases (hinv.update_promise hupdated).evidence with
    | payment d found shows_ status =>
      obtain ⟨a, ha, hd⟩ := found
      rw [hnothing j a ha] at hd
      cases hd
    | failure d found shows_ status =>
      obtain ⟨a, ha, hd⟩ := found
      rw [hnothing j a ha] at hd
      cases hd
    | expiry a lookedUp absent status =>
      rw [hnothing j a lookedUp] at absent
      cases absent

/-- The first operation of a settle call. -/
theorem settle_eq_get (F : ExactXRPLFacilitatorScheme env) (pages : Nat) {payload : PaymentPayload}
    (r : PaymentRequirements) {blob hash : String} (hpays : payloadHash env payload = .ok (blob, hash)) :
    ∃ k, settle F pages payload r = .call (Op.get hash) k ∧
      ∀ rec, k (some rec) = settleExisting F rec hash (paymentFingerprint env payload r) r := by
  unfold settle
  rw [hpays]
  exact ⟨_, rfl, fun _ => rfl⟩

/-- The reservation of a call that verified, and what a further call finds. -/
theorem settleExisting_reserved {F : ExactXRPLFacilitatorScheme env} {i : ι}
    {st rec : XRPLSettlementState} {older : Log ι}
    (hp : ReservePromise (calls i) i older st) (hsame : st.SamePayment rec) :
    settleExisting F rec st.transaction
        (paymentFingerprint env (calls i).payload (calls i).requirements) (calls i).requirements =
      reconcile env rec (calls i).requirements (settlementTtl F (calls i).requirements) := by
  have hfp : rec.paymentFingerprint = (calls i).fingerprint :=
    hsame.2.2.2.2.2.symm.trans hp.fingerprint
  unfold settleExisting
  exact if_neg (not_not.mpr hfp)

theorem shape_of_verifiedOn {call : Call env} {t : List (Event Op Ret)} (h : call.VerifiedOn t) :
    ∃ extra, validateRequirementsShape env call.requirements = .ok extra := by
  obtain ⟨v, hpath, hv⟩ := h
  obtain ⟨checked, _, _, _, hchecked, -⟩ := path_verify_valid hpath hv
  exact shape_of_checkTransaction hchecked

/-- Where the window is not searched, the lookup is answered with an error, for
    ever. -/
theorem not_total_of_outOfRange
    (h : Run (settleSystem env calls) DocumentedRanges (Config.init Stores.empty) c) {i : ι}
    {st : XRPLSettlementState} (hr : Reserved c.state.log i st)
    (hrange : OutOfRange st.firstLedgerSequence st.lastLedgerSequence)
    (F : ExactXRPLFacilitatorScheme env) (pages : Nat) :
    ¬ Total (Later calls H c st.lastLedgerSequence) Terminal
      (settle F pages (calls i).payload (calls i).requirements) := by
  intro hresolves
  obtain ⟨_, older, _, _, hp⟩ := (settle_invariant h).reserve_promise hr
  obtain ⟨blob, hpays⟩ := hp.hash
  obtain ⟨k, hsettle, hk⟩ := settle_eq_get F pages (calls i).requirements hpays
  rw [hsettle, total_call] at hresolves
  obtain ⟨rec, hrec, hsame, hpending⟩ := pending_of_outOfRange h hr hrange
  have hfound := hresolves (some rec) ⟨c, .refl, by rw [(hasHash_key hp.hash).1, hrec]⟩
  rw [hk, settleExisting_reserved hp hsame] at hfound
  unfold reconcile at hfound
  rw [if_neg (not_not.mpr hpending)] at hfound
  have hanswer : IsRangeError (.ok (.obj [("error", .str "lgrIdxMalformed")])) :=
    ⟨_, rfl, by decide, by decide⟩
  have hend := hfound (.ok (.obj [("error", .str "lgrIdxMalformed")]))
    ⟨fun _ => hanswer, fun hin => absurd (by rwa [← hsame.2.2.2.1, ← hsame.2.2.2.2.1]) hin⟩
  obtain ⟨resp, hresp, hterminal⟩ := hend
  rw [← Except.ok.inj hresp] at hterminal
  exact hterminal rfl

theorem total_of_inRange
    (h : Run (settleSystem env calls) DocumentedRanges (Config.init Stores.empty) c) {i : ι}
    {st : XRPLSettlementState} (hr : Reserved c.state.log i st)
    (hrange : ¬ OutOfRange st.firstLedgerSequence st.lastLedgerSequence)
    (F : ExactXRPLFacilitatorScheme env) (pages : Nat) :
    Total (Later calls H c st.lastLedgerSequence) Terminal
      (settle F pages (calls i).payload (calls i).requirements) := by
  obtain ⟨_, older, _, _, hp⟩ := (settle_invariant h).reserve_promise hr
  obtain ⟨blob, hpays⟩ := hp.hash
  obtain ⟨k, hsettle, hk⟩ := settle_eq_get F pages (calls i).requirements hpays
  rw [hsettle, total_call]
  intro found hanswer
  obtain ⟨c', hlater, rfl⟩ := hanswer
  have hinv' := settle_invariant (h.trans hlater)
  have hr' : Reserved c'.state.log i st := hr.mono fun e he => hlater.log_suffix.subset he
  obtain ⟨rec, hrec, hsame, -⟩ := hinv'.kept st ⟨i, .inl hr'⟩
  rw [(hasHash_key hp.hash).1, hrec, hk, settleExisting_reserved hp hsame]
  by_cases hst : rec.status = .pending
  · obtain ⟨t, _, hverified, _⟩ := hp.verified
    obtain ⟨extra, hshape⟩ := shape_of_verifiedOn hverified
    rw [hsame.2.2.2.2.1]
    apply total_reconcile hst
    · rwa [← hsame.2.2.2.1, ← hsame.2.2.2.2.1]
    · exact wellShaped_of_shape hshape
    · exact (shapeOk_of_shape hshape).wire
  · -- Another call has stored a verdict.
    unfold reconcile
    rw [if_pos hst]
    obtain ⟨-, j, hreserved | ⟨ttl, hmem⟩⟩ := hinv'.stored _ _ hrec
    · obtain ⟨_, _, _, _, hp'⟩ := hinv'.reserve_promise hreserved
      exact absurd hp'.status hst
    · obtain ⟨past, hstores, -⟩ := storesVerdicts_of_mem (h.trans hlater) hmem
      exact ⟨_, rfl, not_isPending_of_verdict (hstores.update rec ttl rfl) _⟩

/-- A further call with the same envelope finds a verdict, whatever the timing,
    exactly when the reserved window is searched. -/
theorem reserved_payment_resolvable_iff (calls : ι → Call env) (H : History env)
    (c : SettleConfig ι)
    (h : Run (settleSystem env calls) DocumentedRanges (Config.init Stores.empty) c) (i : ι)
    (st : XRPLSettlementState) (hr : Reserved c.state.log i st)
    (F : ExactXRPLFacilitatorScheme env) (pages : Nat) :
    Total (Later calls H c st.lastLedgerSequence) Terminal
        (settle F pages (calls i).payload (calls i).requirements) ↔
      st.firstLedgerSequence ≤ st.lastLedgerSequence ∧
        st.lastLedgerSequence - st.firstLedgerSequence ≤ 1000 := by
  constructor
  · intro hresolves
    by_contra hbounds
    apply not_total_of_outOfRange h hr _ F pages hresolves
    unfold OutOfRange
    omega
  · intro hbounds
    apply total_of_inRange h hr _ F pages
    unfold OutOfRange
    omega

end Runs

/-! ### A window that the ledger has overtaken -/

instance (minLedger maxLedger : Int) : Decidable (OutOfRange minLedger maxLedger) :=
  inferInstanceAs (Decidable (_ ∨ _))

namespace Sample

/-- The numerals of the run below. -/
local instance threeReserving : NeZero 3 := ⟨by decide⟩

/-- A node that searches at most 1000 ledgers. -/
def rangeNode (n : Int) : RpcRequest → Except Exc Json
  | .tx transaction minLedger maxLedger =>
    if OutOfRange minLedger maxLedger then .ok (.obj [("error", .str "lgrIdxMalformed")])
    else node n (.tx transaction minLedger maxLedger)
  | q => node n q

def rangeStep (clock : Nat → Int) (i : Fin 3) : Step :=
  .call i fun s => answers sampleEnv (rangeNode (clock s.log.length)) s.shared

theorem rangeStep_obeys (clock : Nat → Int) (i : Fin 3) :
    (rangeStep clock i).Obeys DocumentedRanges := by
  intro s o
  cases o with
  | rpc q =>
    cases q with
    | tx transaction minLedger maxLedger =>
      intro hrange
      refine ⟨[("error", .str "lgrIdxMalformed")], ?_, by decide, by decide⟩
      exact if_pos hrange
    | _ => trivial
  | _ => trivial

/-- The window passes between the simulation and the query for the first ledger. -/
def stalledClock (operations : Nat) : Int := if operations < 4 then 100 else 111

/-- The reservation of call 0. -/
def reservedState (firstLedger : Int) : XRPLSettlementState :=
  pendingState sampleEnv payload requirements hash "rPayer" firstLedger 110

def rangeSchedule (clock : Nat → Int) (steps : Nat) : List Step :=
  .start 0 :: List.replicate steps (rangeStep clock 0)

def reserves (st : XRPLSettlementState) : Event Op Ret → Bool
  | ⟨.reserve st' _, true⟩ => st' = st
  | _ => false

/-- Call 0 has reserved the hash. -/
def hasReserved (firstLedger : Int) (c : SettleConfig (Fin 3)) : Bool :=
  c.state.log.any fun e => reserves (reservedState firstLedger) e.toEvent && e.who = 0

theorem run_reserved {clock : Nat → Int} {steps : Nat} {firstLedger : Int}
    (hreplay : (runFrom (rangeSchedule clock steps)).any (hasReserved firstLedger) = true) :
    ∃ c, Run (settleSystem sampleEnv sampleCalls) DocumentedRanges (Config.init Stores.empty) c ∧
      Reserved c.state.log 0 (reservedState firstLedger) := by
  have hobeys : ∀ l ∈ rangeSchedule clock steps, l.Obeys DocumentedRanges := by
    intro l hl
    rcases List.mem_cons.mp hl with rfl | hl
    · trivial
    · rw [List.eq_of_mem_replicate hl]
      exact rangeStep_obeys clock 0
  obtain ⟨c, hrun, hc⟩ := System.exists_run hobeys hreplay
  simp only [hasReserved, List.any_eq_true, Bool.and_eq_true, decide_eq_true_eq] at hc
  obtain ⟨⟨e, who⟩, hmem, he, rfl⟩ := hc
  unfold reserves at he
  split at he
  · next st ttl heq =>
    have hst := of_decide_eq_true he
    subst hst
    cases heq
    exact ⟨c, hrun, ttl, hmem⟩
  · cases he

/-- No ledger contains anything. -/
def emptyHistory : History sampleEnv where
  transaction _ := none
  shown := by
    intro id n d h
    cases h

end Sample

/-- The ledger overtakes the window before the first ledger is read. The window
    is reserved upside down, and no lookup of it is answered. -/
theorem overtaken_window_stays_pending : ∃ c,
    Run (settleSystem Sample.sampleEnv Sample.sampleCalls) DocumentedRanges
      (Config.init Stores.empty) c ∧
    Reserved c.state.log 0 (Sample.reservedState 111) ∧
    ¬ Total (Later Sample.sampleCalls Sample.emptyHistory c 110) Terminal
      (settle Sample.facilitator 1 Sample.payload Sample.requirements) := by
  have hreplay : (Sample.runFrom (Sample.rangeSchedule Sample.stalledClock 7)).any
      (Sample.hasReserved 111) = true := by decide +kernel
  obtain ⟨c, hrun, hr⟩ := Sample.run_reserved hreplay
  have hrange : OutOfRange (Sample.reservedState 111).firstLedgerSequence
      (Sample.reservedState 111).lastLedgerSequence := by decide
  exact ⟨c, hrun, hr, not_total_of_outOfRange hrun hr hrange Sample.facilitator 1⟩

theorem reserved_payment_resolvable_sample : ∃ c,
    Reserved c.state.log 0 (Sample.reservedState 100) ∧
    Total (Later Sample.sampleCalls Sample.emptyHistory c 110) Terminal
      (settle Sample.facilitator 1 Sample.payload Sample.requirements) := by
  have hreplay : (Sample.runFrom (Sample.rangeSchedule (fun _ => 100) 6)).any
      (Sample.hasReserved 100) = true := by decide +kernel
  obtain ⟨c, hrun, hr⟩ := Sample.run_reserved hreplay
  refine ⟨c, hr, ?_⟩
  exact (reserved_payment_resolvable_iff Sample.sampleCalls Sample.emptyHistory c hrun 0
    (Sample.reservedState 100) hr Sample.facilitator 1).mpr (by decide)

end XrplX402.Facilitator
