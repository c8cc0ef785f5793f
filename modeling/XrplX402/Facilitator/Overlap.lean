import Mathlib.Data.Int.ConditionallyCompleteOrder
import Mathlib.Tactic.FinCases
import XrplX402.Facilitator.FavourableReads
import XrplX402.Facilitator.Safety

/-! # Overlapping calls on one ledger

    Several settle calls with the same payload and requirements, whose requests
    are answered from one consistent ledger that advances. Once the ledger has
    included the payment, its sequence or ticket is used up, so that a call
    which found the hash free a moment earlier is refused by its verification.

    * `Ledger`: the history that the answers are taken from.
    * `Undisturbed`: who found the hash free asks the node while the payment
      stands, and no reserved window misses the ledger with the payment.
    * In undisturbed runs the calls do not contradict each other; a run that is
      disturbed and in which they do is given. -/

namespace XrplX402.Facilitator

open Py Interaction Prog

section Calls

variable {ι : Type} [DecidableEq ι] {env : Env} {tx : Dict}

/-! ## Section 1: The ledger -/

/-- A history of validated ledgers, as far as the payment `tx` is concerned. -/
structure Ledger (env : Env) (tx : Dict) where
  /-- The last validated ledger when the `n`-th operation is performed. -/
  clock : Nat → Int
  advancing : Monotone clock
  /-- The payer's sequence in a ledger. -/
  sequence : Int → Int
  /-- The payer's tickets in a ledger. -/
  hasTicket : Int → Int → Prop
  /-- The ledger that includes the payment, and how a lookup shows it. -/
  included : Option (Int × Dict)
  /-- From then on the sequence has advanced, or the ticket is gone. -/
  consumes : ∀ m d, included = some (m, d) → ∀ n, m ≤ n →
    if Dict.get tx "TicketSequence" = .null then
      ∀ s, (Dict.get tx "Sequence").canon = .int s → s < sequence n
    else ∀ ticket, (Dict.get tx "TicketSequence").asInt? = some ticket → ¬ hasTicket n ticket
  /-- A transaction is not included after its `LastLedgerSequence`. -/
  inTime : ∀ m d, included = some (m, d) → ∀ value last,
    Dict.get? tx "LastLedgerSequence" = some value → toInt env.unicode value = .ok last → m ≤ last

namespace Ledger

variable (L : Ledger env tx) (payer hash : String)

/-- The answers to a request when the ledger `n` is the last validated one. -/
def Answers (n : Int) : RpcRequest → Except Exc Json → Prop
  | .ledger, answer => ∀ k, ledgerIndex env answer = .ok k → k = n
  | .accountInfo account, .ok result => account = payer → ∀ d,
      getAttr result "account_data" = .ok (.obj d) → Dict.get d "Sequence" = .int (L.sequence n)
  | .accountObjects account _, .ok result => account = payer → ∀ page ticket,
      objectsPage result = .ok page → page.items.any (isTicket ticket) = true →
      L.hasTicket n ticket
  | .tx transaction minLedger maxLedger, answer => transaction = hash →
      (∀ d, (lookupOf answer).transaction = some d → isValidated d = true →
        ∃ m d₀, L.included = some (m, d₀) ∧ m ≤ n ∧ metaOf d = metaOf d₀) ∧
      ((lookupOf answer).authoritativeAbsence = true →
        maxLedger ≤ n ∧ ∀ m d₀, L.included = some (m, d₀) → ¬ (minLedger ≤ m ∧ m ≤ maxLedger))
  | _, _ => True

/-- An operation at this point of the run, answered from the ledger. -/
def AnswersEntry (position : Nat) : Entry ι Op Ret → Prop
  | ⟨⟨.rpc q, answer⟩, _⟩ => L.Answers payer hash (L.clock position) q answer
  | _ => True

/-- Every request is answered from the ledger. -/
def Allows (s : SharedState ι) (e : Entry ι Op Ret) : Prop :=
  L.AnswersEntry payer hash s.log.length e

/-- The ledger validates the payment that the requirements ask for. -/
def Validates (r : PaymentRequirements) : Prop :=
  ∃ m d, L.included = some (m, d) ∧ transactionResult env d = "tesSUCCESS" ∧
    deliveredAmountError env d r = .ok none

end Ledger

/-- Calls with one payload and one set of requirements, on any instances. -/
def identicalCalls (facilitators : ι → ExactXRPLFacilitatorScheme env) (pages : ι → Nat)
    (payload : PaymentPayload) (requirements : PaymentRequirements) : ι → Call env :=
  fun i => ⟨facilitators i, pages i, payload, requirements⟩

/-! ## Section 2: What the answers say about the payment -/

variable {L : Ledger env tx} {payer hash : String} {calls : ι → Call env} {c : SettleConfig ι}

/-- The outcome of a transaction is read from its metadata. -/
theorem outcome_of_metaOf (env : Env) {d d₀ : Dict} (h : metaOf d = metaOf d₀)
    (r : PaymentRequirements) :
    transactionResult env d = transactionResult env d₀ ∧
      deliveredAmountError env d r = deliveredAmountError env d₀ r := by
  unfold transactionResult deliveredAmountError
  rw [h]
  exact ⟨rfl, rfl⟩

theorem answers_of_lookedUp
    (h : Run (settleSystem env calls) (L.Allows payer hash) (Config.init Stores.empty) c) {i : ι}
    {st : XRPLSettlementState} {a : Except Exc Json} (ha : LookedUp c.state.log i st a) :
    ∃ n, L.Answers payer hash n
      (.tx st.transaction st.firstLedgerSequence st.lastLedgerSequence) a := by
  have hevery := h.every_entry (P := fun e older => L.AnswersEntry payer hash older.length e)
    fun _ _ hallowed => hallowed
  obtain ⟨_, older, _, hanswers⟩ := hevery.of_mem ha
  exact ⟨_, hanswers⟩

/-- A validated answer shows the included transaction. -/
theorem included_of_found
    (h : Run (settleSystem env calls) (L.Allows payer hash) (Config.init Stores.empty) c) {i : ι}
    {st : XRPLSettlementState} {d : Dict} (hst : st.transaction = hash)
    (hd : Found c.state.log i st d) (hv : isValidated d = true) :
    ∃ m d₀, L.included = some (m, d₀) ∧ metaOf d = metaOf d₀ := by
  obtain ⟨a, ha, htx⟩ := hd
  obtain ⟨n, hanswers⟩ := answers_of_lookedUp h ha
  obtain ⟨m, d₀, hincluded, _, hmeta⟩ := (hanswers hst).1 d htx hv
  exact ⟨m, d₀, hincluded, hmeta⟩

theorem validates_of_showsPayment
    (h : Run (settleSystem env calls) (L.Allows payer hash) (Config.init Stores.empty) c) {i : ι}
    {st : XRPLSettlementState} {d : Dict} {r : PaymentRequirements} (hst : st.transaction = hash)
    (hd : Found c.state.log i st d) (hshows : ShowsPayment env d r) : L.Validates r := by
  obtain ⟨m, d₀, hincluded, hmeta⟩ := included_of_found h hst hd hshows.validated
  obtain ⟨hresult, herror⟩ := outcome_of_metaOf env hmeta r
  exact ⟨m, d₀, hincluded, hresult.symm.trans hshows.succeeded,
    herror.symm.trans hshows.delivered⟩

/-- A ledger that validates the payment is never shown to have failed it. -/
theorem not_showsFailure
    (h : Run (settleSystem env calls) (L.Allows payer hash) (Config.init Stores.empty) c) {i : ι}
    {st : XRPLSettlementState} {d : Dict} {r : PaymentRequirements} (hst : st.transaction = hash)
    (hd : Found c.state.log i st d) (hL : L.Validates r) : ¬ ShowsFailure env d r := by
  intro hfailure
  obtain ⟨m, d₀, hincluded, hmeta⟩ := included_of_found h hst hd hfailure.validated
  obtain ⟨m', d', hincluded', hsuccess, hdelivered⟩ := hL
  obtain ⟨-, rfl⟩ : m = m' ∧ d₀ = d' := by simpa [hincluded] using hincluded'
  obtain ⟨hresult, herror⟩ := outcome_of_metaOf env hmeta r
  rcases hfailure.failed with hcode | ⟨e, he⟩
  · exact hcode (hresult.trans hsuccess)
  · rw [herror, hdelivered] at he
    cases he

/-! ### Verification after the inclusion -/

/-- Answers that are taken from ledgers that include the payment. -/
def AnsweredAfter (L : Ledger env tx) (payer hash : String) (m : Int) (t : List (Event Op Ret)) :
    Prop :=
  ∀ q answer, (⟨.rpc q, answer⟩ : Event Op Ret) ∈ t → ∃ n, m ≤ n ∧ L.Answers payer hash n q answer

omit [DecidableEq ι] in
/-- The blob that is hashed is the one that is checked. -/
theorem blob_of_payloadHash {payload : PaymentPayload} {blob : String} {x : ExactXRPLPayload}
    (hpays : payloadHash env payload = .ok (blob, hash)) (hx : exactXrplPayload env payload = .ok x) :
    x.signedTxBlob = blob := by
  unfold payloadHash at hpays
  obtain ⟨x', hx', hpays⟩ := bind_eq_ok.mp hpays
  obtain ⟨hash', _, hpays⟩ := bind_eq_ok.mp hpays
  have hsame : x = x' := Except.ok.inj (hx.symm.trans hx')
  rw [hsame]
  exact congrArg Prod.fst (Except.ok.inj hpays)

/-- A verification that asks after the payment was included is not passed. -/
theorem not_valid_after_inclusion {F : ExactXRPLFacilitatorScheme env} {pages : Nat}
    {payload : PaymentPayload} {requirements : PaymentRequirements} {t : List (Event Op Ret)}
    {v : VerifyResponse} {blob : String} {m : Int} {d : Dict}
    (hpays : payloadHash env payload = .ok (blob, hash)) (htx : env.decode blob = .ok tx)
    (hincluded : L.included = some (m, d)) (ht : AnsweredAfter L (payerOf env tx) hash m t)
    (h : Path (verify F pages payload requirements) t (.ok v)) : v.isValid = false := by
  by_contra hvalid
  obtain ⟨checked, t₁, t₂, path, hchecked, rfl, hledger, -⟩ :=
    path_verify_valid h (by simpa using hvalid)
  obtain ⟨henvelope, ⟨x, hx, hblob⟩, hdecoded, hpayer, -, -⟩ := checkTransaction_eq_ok hchecked
  -- The checked transaction is the one in the payload.
  have hsame : checked.tx = tx := by
    rw [← hblob, blob_of_payloadHash hpays hx, htx] at hdecoded
    exact (Except.ok.inj hdecoded).symm
  rw [hpayer, hsame] at hledger
  obtain ⟨-, result, account, hanswered, hdata, -, hsequence⟩ := ledgerOk_of_path henvelope.known hledger
  have hconsumes := L.consumes m d hincluded
  cases hsequence with
  | sequence chosen noTicket current =>
    obtain ⟨n, hn, hanswers⟩ := ht _ _ (List.mem_append_left _ hanswered)
    have hcurrent := hanswers rfl account hdata
    have hused := hconsumes n hn
    rw [if_pos noTicket] at hused
    rw [hcurrent, Json.canon_int] at current
    exact lt_irrefl _ (hused _ current)
  | ticket chosen ticket marker result' page noSequence isTicketOf answered isPage available =>
    obtain ⟨n, hn, hanswers⟩ := ht _ _ (List.mem_append_left _ answered)
    have hheld := hanswers rfl page ticket isPage available
    have hused := hconsumes n hn
    have hpresent : Dict.get tx "TicketSequence" ≠ .null := by
      intro hnull
      rw [hnull] at isTicketOf
      cases isTicketOf
    rw [if_neg hpresent] at hused
    exact hused ticket isTicketOf hheld

/-! ## Section 3: Agreement -/

/-- No call contradicts another. -/
structure Agreement (L : Ledger env tx) (r : PaymentRequirements) (c : SettleConfig ι) : Prop where
  /-- Beside a success there are successes and open outcomes only. -/
  success : ∀ i j resp resp', c.threads i = some (.ret resp) → resp.success = true →
    c.threads j = some (.ret resp') → resp'.success = true ∨ resp'.IsPending
  /-- A reserved payment that the ledger validates is not failed. -/
  reserved : ∀ i j st resp, L.Validates r → Reserved c.state.log i st →
    c.threads j = some (.ret resp) → resp.success = true ∨ resp.IsPending

/-- The node is asked in time, beside the reservation of a payment `tx` that the
    ledger validates. -/
structure Undisturbed (L : Ledger env tx) (calls : ι → Call env) (r : PaymentRequirements)
    (log : Log ι) : Prop where
  /-- The settings of every instance admit the payment. -/
  admitted : L.Validates r → ∀ i j st, Reserved log i st → Admits (calls j).facilitator tx r
  /-- A call that has found the hash free and has not come to its reservation
      reads the account while the sequence is current or the ticket listed, and
      nothing else that it reads speaks against the payment. -/
  reads : L.Validates r → ∀ i j st hash t, Reserved log i st →
    own j log = ⟨.get hash, none⟩ :: t → (∀ e ∈ t, e.op.isQuery = true) →
    Favours env tx r (payerOf env tx) t
  /-- The reserved window reaches back to the ledger with the payment. -/
  window : ∀ m d, L.included = some (m, d) → ∀ i st, Reserved log i st →
    st.firstLedgerSequence ≤ m

/-- A read of the account that favours the payment precedes its ledger, if the
    payment takes a sequence. -/
theorem read_precedes_inclusion {r : PaymentRequirements} {t rest : List (Event Op Ret)}
    {first : Event Op Ret} {answer : Json} {d : Dict} {m n : Int} {sequence : Int}
    (hfavours : Favours env tx r payer t)
    (ht : t = first :: ⟨.rpc (.accountInfo payer), .ok answer⟩ :: rest)
    (hdata : getAttr answer "account_data" = .ok (.obj d))
    (hticket : Dict.get tx "TicketSequence" = .null)
    (hsequence : (Dict.get tx "Sequence").canon = .int sequence)
    (hanswers : L.Answers payer hash n (.accountInfo payer) (.ok answer))
    {shown : Dict} (hincluded : L.included = some (m, shown)) : n < m := by
  by_contra hlate
  obtain ⟨-, hcurrent⟩ := hfavours.current first answer rest d ht hdata
  have hused := L.consumes m shown hincluded n (not_lt.mp hlate)
  rw [if_pos hticket] at hused
  have hshown := hcurrent hticket
  rw [hanswers rfl d hdata, hsequence, Json.canon_int] at hshown
  exact absurd (hused sequence hsequence) (by rw [Json.int.inj hshown]; exact lt_irrefl _)

/-- So does a listing that still has the ticket. -/
theorem listing_precedes_inclusion {r : PaymentRequirements} {t : List (Event Op Ret)}
    {marker answer : Json} {page : Page} {m n ticket : Int} (hfavours : Favours env tx r payer t)
    (hanswered : Answered t (.accountObjects payer marker) answer) (hpage : objectsPage answer = .ok page)
    (hlast : page.marker = .null) (hticket : (Dict.get tx "TicketSequence").asInt? = some ticket)
    (hanswers : L.Answers payer hash n (.accountObjects payer marker) (.ok answer))
    {shown : Dict} (hincluded : L.included = some (m, shown)) : n < m := by
  by_contra hlate
  have hused := L.consumes m shown hincluded n (not_lt.mp hlate)
  have hpresent : Dict.get tx "TicketSequence" ≠ .null := by
    intro hnull
    rw [hnull] at hticket
    cases hticket
  rw [if_neg hpresent] at hused
  exact hused ticket hticket (hanswers rfl page ticket hpage
    (hfavours.listed marker answer page ticket hanswered hpage hlast hticket))

section Agreement

variable {facilitators : ι → ExactXRPLFacilitatorScheme env} {pages : ι → Nat}
variable {payload : PaymentPayload} {requirements : PaymentRequirements} {blob : String}

/-- Nobody was shown that the payment failed or expired. -/
theorem no_failed_verdict (hcalls : calls = identicalCalls facilitators pages payload requirements)
    (hpays : payloadHash env payload = .ok (blob, hash)) (htx : env.decode blob = .ok tx)
    (h : Run (settleSystem env calls) (L.Allows payer hash) (Config.init Stores.empty) c)
    (hcond : Undisturbed L calls requirements c.state.log) (hL : L.Validates requirements)
    {st : XRPLSettlementState} (hw : Wrote c.state.log st) (hst : st.status ≠ .pending) :
    st.status = .validated := by
  have hinv := settle_invariant h
  have hpays' : ∀ i, (calls i).Pays blob hash := by
    intro i
    rw [hcalls]
    exact hpays
  have hreq : ∀ i, (calls i).requirements = requirements := by
    intro i
    rw [hcalls]
    rfl
  obtain ⟨i, hr | hu⟩ := hw
  · obtain ⟨_, _, _, _, hp⟩ := hinv.reserve_promise hr
    exact absurd hp.status hst
  · have hp := hinv.update_promise hu
    have hhash : st.transaction = hash := hash_unique hp.hash ⟨blob, hpays' i⟩
    cases hp.evidence with
    | payment d found shows_ status => exact status
    | failure d found shows_ status =>
      rw [hreq i] at shows_
      exact absurd shows_ (not_showsFailure h hhash found hL)
    | expiry a lookedUp absent status =>
      -- The searched window contains the ledger with the payment.
      obtain ⟨n, hanswers⟩ := answers_of_lookedUp h lookedUp
      obtain ⟨m, d, hincluded, -⟩ := hL
      obtain ⟨j, q, hq, hsame⟩ := hp.reserved
      obtain ⟨_, _, _, _, hreserve⟩ := hinv.reserve_promise hq
      obtain ⟨blob', tx', value, hpays'', htx', hvalue, hlast⟩ := hreserve.last
      have hblob : blob' = blob := by
        have heq := (hpays' j).symm.trans (hpays''.trans (by rw [hsame.1, hhash]))
        exact (congrArg Prod.fst (Except.ok.inj heq)).symm
      rw [hblob, htx] at htx'
      obtain rfl : tx = tx' := Except.ok.inj htx'
      have hfirst := hcond.window m d hincluded j q hq
      have hle := L.inTime m d hincluded value q.lastLedgerSequence hvalue hlast
      have hmissing := ((hanswers hhash).2 absent).2 m d hincluded
      rw [← hsame.2.2.2.1, ← hsame.2.2.2.2.1] at hmissing
      exact absurd ⟨hfirst, hle⟩ hmissing

/-- A call that has found the hash free is not refused, if another one has
    reserved it. -/
theorem not_verificationFailed (hcalls : calls = identicalCalls facilitators pages payload requirements)
    (hpays : payloadHash env payload = .ok (blob, hash)) (htx : env.decode blob = .ok tx)
    (h : Run (settleSystem env calls) (L.Allows payer hash) (Config.init Stores.empty) c)
    (hcond : Undisturbed L calls requirements c.state.log) (hL : L.Validates requirements)
    {i j : ι} {st : XRPLSettlementState} (hr : Reserved c.state.log i st) {v : VerifyResponse} :
    ¬ VerificationFailed (calls j) j c.state.log v := by
  rintro ⟨hinvalid, hash', t, hown, hpath⟩
  have hinv := settle_invariant h
  -- What was reserved has been verified by call i, for the same transaction.
  obtain ⟨_, _, _, _, hp⟩ := hinv.reserve_promise hr
  obtain ⟨s, _, ⟨v', hverified, hvalid⟩, -⟩ := hp.verified
  obtain ⟨checked, s₁, s₂, path, hchecked, -, hledger, -⟩ := path_verify_valid hverified hvalid
  obtain ⟨henvelope, ⟨x, hx, hblob⟩, hdecoded, hpayer, -, -⟩ := checkTransaction_eq_ok hchecked
  obtain ⟨-, _, account, _, _, _, hsequence⟩ := ledgerOk_of_path henvelope.known hledger
  -- All calls carry one payload and one set of requirements.
  have hpayload : ∀ k, (calls k).payload = payload ∧ (calls k).requirements = requirements := by
    intro k
    rw [hcalls]
    exact ⟨rfl, rfl⟩
  obtain ⟨hsamePayload, hsameRequirements⟩ := hpayload i
  have hsame : checked.tx = tx := by
    rw [hsamePayload] at hx
    rw [← hblob, blob_of_payloadHash hpays hx, htx] at hdecoded
    exact (Except.ok.inj hdecoded).symm
  -- The failed verification only read, and nothing that it read speaks against the payment.
  have hqueries : ∀ e ∈ t, e.op.isQuery = true := (onlyQueries_verify _ _ _ _).of_path hpath
  obtain ⟨hpayloadj, hrequirementsj⟩ := hpayload j
  rw [hpayloadj, hrequirementsj] at hpath
  rw [hsamePayload, hsameRequirements] at hchecked
  have hreads := hcond.reads hL i j st hash' t hr hown hqueries
  have hpassed : v.isValid = true := by
    refine valid_of_favours hchecked hsequence ?_ ?_ hpath
    · rw [hsame]
      exact hcond.admitted hL i j st hr
    · rw [hpayer, hsame]
      exact hreads
  -- So it passed, against the assumption.
  rw [hinvalid] at hpassed
  cases hpassed

/-- Beside a reservation of a validated payment, calls succeed or stay open. -/
theorem succeeds_or_pending
    (hcalls : calls = identicalCalls facilitators pages payload requirements)
    (hpays : payloadHash env payload = .ok (blob, hash)) (htx : env.decode blob = .ok tx)
    (h : Run (settleSystem env calls) (L.Allows payer hash) (Config.init Stores.empty) c)
    (hcond : Undisturbed L calls requirements c.state.log) (hL : L.Validates requirements)
    {i j : ι} {st : XRPLSettlementState} {resp : SettleResponse} (hr : Reserved c.state.log i st)
    (hj : c.threads j = some (.ret resp)) : resp.success = true ∨ resp.IsPending := by
  have hgood := settle_good h
  have hsamePayload : (calls j).payload = payload := by
    rw [hcalls]
    rfl
  have hfp : ∀ k, (calls k).fingerprint = (calls j).fingerprint := by
    intro k
    rw [hcalls]
    rfl
  -- A call ends in one of five ways.
  obtain ⟨s, -, hrely, hends⟩ := hgood.ended hj ⟨rfl, rfl⟩
  have hsub : ∀ e ∈ s.log, e ∈ c.state.log := fun e he => hrely.evolve.mem_log he
  have hwrote : ∀ rec, Wrote s.log rec → Wrote c.state.log rec := by
    rintro rec ⟨k, hk⟩
    exact ⟨k, hk.imp (·.mono hsub) (·.mono hsub)⟩
  change Outcome (calls j) s j resp at hends
  cases hends with
  -- The payload has a hash.
  | malformed e herror =>
    rw [hsamePayload, hpays] at herror
    cases herror
  -- The record was written by a call with the same fingerprint.
  | mismatch rec _ wrote other =>
    obtain ⟨k, _, _, hk, _⟩ := hgood.inv.verified_of_wrote (hwrote rec wrote)
    exact absurd (hk.symm.trans (hfp k)) other
  -- No verification fails.
  | refused hash' _ t v path invalid log =>
    have hfailed : VerificationFailed (calls j) j c.state.log v :=
      ⟨invalid, hash', t, hrely.own_eq.trans log, path⟩
    exact absurd hfailed (not_verificationFailed hcalls hpays htx h hcond hL hr)
  | pending transaction network payer amount => exact .inr rfl
  -- A terminal record is a validated one.
  | verdict rec _ _ wrote terminal =>
    have hvalidated := no_failed_verdict hcalls hpays htx h hcond hL (hwrote rec wrote) terminal
    exact .inl (by simp [stateResponse, hvalidated])

end Agreement

theorem overlapping_calls_agree (facilitators : ι → ExactXRPLFacilitatorScheme env)
    (pages : ι → Nat) (payload : PaymentPayload) (requirements : PaymentRequirements)
    (blob hash payer : String) (tx : Dict) (L : Ledger env tx) (c : SettleConfig ι)
    (hpays : payloadHash env payload = .ok (blob, hash)) (htx : env.decode blob = .ok tx)
    (h : Run (settleSystem env (identicalCalls facilitators pages payload requirements))
      (L.Allows payer hash) (Config.init Stores.empty) c)
    (hcond : Undisturbed L (identicalCalls facilitators pages payload requirements) requirements
      c.state.log) : Agreement L requirements c := by
  constructor
  · intro i j resp resp' hi hs hj
    have hgood := settle_good h
    obtain ⟨s, -, hrely, hends⟩ := hgood.ended hi ⟨rfl, rfl⟩
    obtain ⟨rec, hhash, -, ⟨k, hk⟩, hvalidated, -⟩ := Outcome.validated hends hs
    have hsub : ∀ e ∈ s.log, e ∈ c.state.log := fun e he => hrely.evolve.mem_log he
    have hwrote : Wrote c.state.log rec := ⟨k, hk.imp (·.mono hsub) (·.mono hsub)⟩
    obtain ⟨l, d, -, -, hfound, hshows⟩ := hgood.inv.validated_evidence hwrote hvalidated
    have hL : L.Validates requirements :=
      validates_of_showsPayment h (hash_unique hhash ⟨blob, hpays⟩) hfound hshows
    obtain ⟨n, q, hq, -⟩ := hgood.inv.reserved_of_wrote hwrote
    exact succeeds_or_pending rfl hpays htx h hcond hL hq hj
  · intro i j st resp hL hr hj
    exact succeeds_or_pending rfl hpays htx h hcond hL hr hj

end Calls

/-! ### A run on a ledger that includes the payment -/

namespace Sample

/-- Ledger 101 is validated after so many operations and includes the payment. -/
def ledgerBefore (before : Nat) : Ledger sampleEnv tx where
  clock := clock before
  advancing := by
    intro a b hab
    unfold clock
    split <;> split <;> omega
  sequence n := if n < 101 then 7 else 8
  hasTicket _ _ := False
  included := some (101, paid)
  consumes := by
    intro m d h n hn
    obtain rfl : 101 = m := congrArg Prod.fst (Option.some.inj h)
    have hticket : Dict.get tx "TicketSequence" = .null := by decide
    have hsequence : (Dict.get tx "Sequence").canon = .int 7 := by decide
    rw [if_pos hticket, hsequence, if_neg (by omega)]
    intro s hs
    cases hs
    decide
  inTime := by
    intro m d h value last hvalue hlast
    obtain rfl : 101 = m := congrArg Prod.fst (Option.some.inj h)
    have hget : Dict.get? tx "LastLedgerSequence" = some (.int 110) := by decide
    rw [hget] at hvalue
    cases hvalue
    cases hlast
    decide

def ledger : Ledger sampleEnv tx := ledgerBefore 8

theorem node_answers (before : Nat) (n : Int) (q : RpcRequest) :
    (ledgerBefore before).Answers "rPayer" hash n q (node n q) := by
  -- Only the ledger number, the account, the tickets and the lookups matter.
  cases q with
  | ledger =>
    intro k hk
    exact (Except.ok.inj hk).symm
  | accountInfo account =>
    intro _ d hd
    obtain rfl := Json.obj.inj (Except.ok.inj hd)
    rfl
  | accountObjects account marker =>
    intro _ page ticket hpage hany
    obtain rfl := Except.ok.inj hpage
    cases hany
  | tx transaction minLedger maxLedger =>
    intro _
    by_cases hn : n < 101
    · have hnode : node n (.tx transaction minLedger maxLedger) = .error ⟨.other, "timeout"⟩ := by
        simp [node, hn]
      rw [hnode]
      exact ⟨fun d hd => (by cases hd), fun habsent => (by cases habsent)⟩
    · have hnode : node n (.tx transaction minLedger maxLedger) = .ok (.obj paid) := by
        simp [node, hn]
      have hlookup : lookupOf (.ok (.obj paid)) = ⟨some paid, false⟩ := by decide
      rw [hnode, hlookup]
      refine ⟨fun d hd _ => ⟨101, paid, rfl, by omega, ?_⟩, fun habsent => (by cases habsent)⟩
      rw [← Option.some.inj hd]
  | _ => trivial

theorem step_obeys (before : Nat) (i : Fin 3) :
    (stepBefore before i).Obeys ((ledgerBefore before).Allows "rPayer" hash) := by
  intro s o
  cases o with
  | rpc q => exact node_answers before _ q
  | _ => trivial

theorem schedule_obeys (rest : List Step)
    (hrest : ∀ l ∈ rest, l.Obeys (ledger.Allows "rPayer" hash)) :
    ∀ l ∈ schedule ++ rest, l.Obeys (ledger.Allows "rPayer" hash) := by
  intro l hl
  simp only [schedule, List.mem_append, List.mem_cons, List.mem_replicate, List.not_mem_nil,
    or_false] at hl
  rcases hl with ((rfl | rfl | rfl) | ⟨-, rfl⟩) | hl
  · trivial
  · exact step_obeys 8 1
  · trivial
  · exact step_obeys 8 0
  · exact hrest l hl

/-- What call 1 answers when it verifies after ledger 101. -/
def refusal : SettleResponse :=
  failureResponse "invalid_exact_xrpl_payload_sequence_not_current" none (some "rPayer") "xrpl:1"

theorem run_contradiction : ∃ c, Run (settleSystem sampleEnv sampleCalls)
    (ledger.Allows "rPayer" hash) (Config.init Stores.empty) c ∧
    c.threads 0 = some (.ret success) ∧ c.threads 1 = some (.ret refusal) := by
  have hreplay : (runFrom (schedule ++ List.replicate 2 (step 1))).any
      (fun c => c.outcome 0 = some (.ok success) && c.outcome 1 = some (.ok refusal)) = true := by
    decide +kernel
  have hobeys := schedule_obeys (List.replicate 2 (step 1)) fun l hl => by
    rw [List.eq_of_mem_replicate hl]
    exact step_obeys 8 1
  obtain ⟨c, hrun, hc⟩ := System.exists_run hobeys hreplay
  simp only [Bool.and_eq_true, decide_eq_true_eq] at hc
  exact ⟨c, hrun, Config.outcome_eq_ok.mp hc.1, Config.outcome_eq_ok.mp hc.2⟩

end Sample

/-- Call 1 looks up the free hash; call 0 settles the payment in ledger 101;
    call 1 then verifies and fails, because the sequence has been used. -/
theorem overlapping_calls_contradict : ∃ c, Run (settleSystem Sample.sampleEnv Sample.sampleCalls)
    (Sample.ledger.Allows "rPayer" Sample.hash) (Config.init Stores.empty) c ∧
    ¬ Agreement Sample.ledger Sample.requirements c := by
  obtain ⟨c, hrun, h0, h1⟩ := Sample.run_contradiction
  refine ⟨c, hrun, fun hagree => ?_⟩
  rcases hagree.success 0 1 Sample.success Sample.refusal h0 rfl h1 with hs | hp
  · cases hs
  · have hne : Sample.refusal.errorReason ≠ some "settlement_pending" := by decide
    exact hne hp

namespace Sample

/-- The numerals of the run below. -/
local instance threeOverlapping : NeZero 3 := ⟨by decide⟩

/-- Call 1 finds the hash free and verifies in time. Then call 0 does all it has
    to do. -/
def timelySchedule : List Step :=
  .start 1 :: List.replicate 4 (stepBefore 11 1) ++ .start 0 :: List.replicate 9 (stepBefore 11 0)

/-- An answer that stands in ledger 100. -/
def earlyEnough : Event Op Ret → Bool
  | ⟨.rpc .ledger, answer⟩ => answer = ledgerAnswer
  | ⟨.rpc (.accountInfo _), answer⟩ => answer = accountAnswer 7
  | ⟨.rpc (.simulate _), answer⟩ => answer = simulateAnswer
  | ⟨.get _, _⟩ => true
  | _ => false

def isReservation (e : Entry (Fin 3) Op Ret) : Bool := e.who = 0 && e.op.isReserve

/-- Call 0 has reserved the hash and succeeded, call 1 has verified in time, and
    call 2 has not begun. -/
def timely (c : SettleConfig (Fin 3)) : Bool :=
  c.outcome 0 = some (.ok success) && (c.threads 2).isNone && reservesInTime c.state.log &&
    c.state.log.any isReservation && c.state.log.all fun e => e.who ≠ 1 || earlyEnough e.toEvent

theorem replay_timely : (runFrom timelySchedule).any timely = true := by decide +kernel

theorem admits_sample : Admits facilitator tx requirements where
  network := rfl
  payTo := rfl
  asset := by decide +kernel
  minimum := by
    intro _ drops hdrops
    have hamount : intOfStr sampleEnv.unicode requirements.amount = .ok 1000 := by decide +kernel
    rw [← Except.ok.inj (hamount.symm.trans hdrops)]
    decide
  fee := by
    rintro fee ⟨digits, hdigits, hfee⟩
    have hdigits' : digits = "12" := (Json.str.inj hdigits).symm
    have hvalue : intOfStr sampleEnv.unicode "12" = .ok 12 := by decide +kernel
    rw [hdigits', hvalue] at hfee
    rw [← Except.ok.inj hfee]
    decide

theorem favours_of_earlyEnough {t : List (Event Op Ret)} (h : ∀ e ∈ t, earlyEnough e = true) :
    Favours sampleEnv tx requirements "rPayer" t := by
  have haccount : ∀ account answer, (⟨.rpc (.accountInfo account), answer⟩ : Event Op Ret) ∈ t →
      answer = accountAnswer 7 := fun _ _ hmem => of_decide_eq_true (h _ hmem)
  -- The simulation is answered, so the server's state is never asked for.
  have hstate : ∀ answer, (⟨.rpc .serverState, answer⟩ : Event Op Ret) ∉ t := by
    intro answer hmem
    cases h _ hmem
  constructor
  -- Ledger 100 leaves room up to `LastLedgerSequence` 110.
  · intro answer rest n ht hn
    have hmem : (⟨.rpc .ledger, answer⟩ : Event Op Ret) ∈ t := ht ▸ List.mem_cons_self
    have hanswer : answer = ledgerAnswer := of_decide_eq_true (h _ hmem)
    have hindex : ledgerIndex sampleEnv ledgerAnswer = .ok 100 := by decide +kernel
    rw [hanswer] at hn
    obtain rfl : 100 = n := Except.ok.inj (hindex.symm.trans hn)
    have hlimit : getMaxLastLedgerSequence 100 requirements = .ok 114 := by decide +kernel
    exact ⟨110, 114, by decide +kernel, by decide, hlimit, by decide⟩
  · intro answer data hmem hdata
    obtain rfl := Except.ok.inj (haccount _ _ hmem)
    exact ⟨_, (Except.ok.inj hdata).symm⟩
  -- The account authorises its master key, and its sequence is the transaction's.
  · intro first answer rest d ht hdata
    obtain rfl := Except.ok.inj (haccount _ _ (ht ▸ List.mem_cons_of_mem _ List.mem_cons_self))
    obtain rfl := Json.obj.inj (Except.ok.inj hdata)
    refine ⟨⟨.str publicKey, "rPayer", by decide +kernel, rfl, .inr ⟨rfl, 0, rfl, by decide⟩⟩, fun _ => ?_⟩
    decide +kernel
  · intro marker answer page ticket hmem
    cases h _ hmem
  · intro transaction answer hmem
    obtain rfl := Except.ok.inj (of_decide_eq_true (h _ hmem) : _ = simulateAnswer)
    exact .inr rfl
  -- Funds are only reported with the server's state.
  · intro pre account state rest funds ht
    refine absurd ?_ (hstate (.ok state))
    simp [ht]
  · intro issuer info hissuer
    cases hissuer
  · intro pre rest funds ht hreports
    cases hreports with
    | native account state destination =>
      refine absurd ?_ (hstate (.ok state))
      simp [ht]
    | issued account state issuerInfo issuer data pages asset => exact absurd rfl asset

end Sample

theorem overlapping_calls_agree_sample : ∃ c : SettleConfig (Fin 3), c.threads 0 = some (.ret Sample.success) ∧
    Agreement (Sample.ledgerBefore 11) Sample.requirements c := by
  have hobeys : ∀ l ∈ Sample.timelySchedule,
      l.Obeys ((Sample.ledgerBefore 11).Allows "rPayer" Sample.hash) := by
    intro l hl
    simp only [Sample.timelySchedule, List.mem_append, List.mem_cons, List.mem_replicate] at hl
    rcases hl with (rfl | ⟨-, rfl⟩) | rfl | ⟨-, rfl⟩
    · trivial
    · exact Sample.step_obeys 11 1
    · trivial
    · exact Sample.step_obeys 11 0
  obtain ⟨c, hrun, hc⟩ := System.exists_run hobeys Sample.replay_timely
  simp only [Sample.timely, Bool.and_eq_true, decide_eq_true_eq] at hc
  obtain ⟨⟨⟨⟨h0, h2⟩, hreserves⟩, hreserved⟩, hreads⟩ := hc
  rw [Config.outcome_eq_ok] at h0
  have hpays : payloadHash Sample.sampleEnv Sample.payload = .ok ("12000022", Sample.hash) := by
    decide +kernel
  refine ⟨c, h0, overlapping_calls_agree (fun _ => Sample.facilitator) (fun _ => 1) Sample.payload
    Sample.requirements "12000022" Sample.hash "rPayer" Sample.tx (Sample.ledgerBefore 11) c hpays rfl hrun
    ⟨fun _ _ _ _ _ => Sample.admits_sample, ?_, ?_⟩⟩
  -- Only call 1 verifies without having reserved.
  · intro _ i j st hash t _ hown hqueries
    fin_cases j
    · -- Call 0 has come to its reservation.
      obtain ⟨e, he, hkind⟩ := List.any_eq_true.mp hreserved
      simp only [Sample.isReservation, Bool.and_eq_true, decide_eq_true_eq] at hkind
      have hmem : e.toEvent ∈ own 0 c.state.log := mem_own.mpr (hkind.1 ▸ he)
      rw [show own 0 c.state.log = ⟨.get hash, none⟩ :: t from hown] at hmem
      rcases List.mem_cons.mp hmem with heq | hlater
      · have hop : e.op = .get hash := congrArg Event.op heq
        rw [hop] at hkind
        cases hkind.2
      · have hquery := hqueries _ hlater
        revert hquery hkind
        cases e.op <;> simp [Op.isQuery, Op.isReserve]
    · refine Sample.favours_of_earlyEnough fun e he => ?_
      have hmem : (⟨e, 1⟩ : Entry (Fin 3) Op Ret) ∈ c.state.log := by
        refine mem_own.mp ?_
        rw [show own 1 c.state.log = ⟨.get hash, none⟩ :: t from hown]
        exact List.mem_cons_of_mem _ he
      simpa using List.all_eq_true.mp hreads _ hmem
    -- Call 2 has not begun.
    · have hidle := (settle_good hrun).idle 2 (Option.isNone_iff_eq_none.mp h2)
      exact absurd (hidle.symm.trans hown) (by simp)
  -- The only reservation is that of call 0, which begins in time.
  · intro m d hincluded i st hreserved
    obtain ⟨ttl, hmem⟩ := hreserved
    obtain rfl : 101 = m := congrArg Prod.fst (Option.some.inj hincluded)
    simpa using List.all_eq_true.mp hreserves _ hmem

end XrplX402.Facilitator
