import XrplX402.Interaction.System
import XrplX402.Payer.Journal
import XrplX402.Payer.Spend

/-! # What payers do to the outside

    Any number of processes share one journal. Each journal operation is atomic
    under the file lock; what servers, wallets and upstream libraries answer is
    up to them.

    * `Op`: the journal operations, the requests, and the calls of the upstream
      clients.
    * `exec`: what each operation does to the journal.
    * `Frees`: the steps after which a fingerprint may get another payload.
    * Between two such steps a stored payload stays, whatever programs run. -/

namespace XrplX402.Payer

open Py Interaction

/-! ## Section 1: Operations -/

structure HttpRequest where
  method : String
  url : String
  headers : List (String × String)
  content : Option (List UInt8)
  deriving DecidableEq

structure HttpResponse where
  statusCode : Int
  headers : List (String × String)
  body : List UInt8
  deriving DecidableEq

/-- The answer to a tool call. -/
structure ToolResult where
  content : List Json
  isError : Bool
  rawResult : Option Json
  paymentResponse : Option SettleResponse
  deriving DecidableEq

inductive Op where
  | claimAttempt (fingerprint payer recoveryScope : String) (leaseSeconds : ℚ)
  | persistAttemptPayload (fingerprint : String) (ownerToken : Option String)
      (paymentPayload : PaymentPayload) (paymentIdentifier : Option String)
  | releaseClaim (fingerprint : String) (ownerToken : Option String)
  | recordOutcome (receipt : ReceiptRecord) (reuseSeconds : ℚ)
  | pruneExpiredAttempts
  | getAttempt (fingerprint : String)
  /-- A request, with the payload in its `PAYMENT-SIGNATURE` header if it has one. -/
  | httpRequest (request : HttpRequest) (signature : Option PaymentPayload)
  /-- `payment_client.create_payment_payload(payment_required)` -/
  | createPaymentPayload (client : PaymentClient) (challenge : PaymentRequired)
  /-- The upstream tool call without a payment. -/
  | callTool (name : String) (args : Dict)
  /-- The payment that the upstream client pays a challenge with, given what the
      hook returned. -/
  | selectPayment (challenge : PaymentRequired) (hook : Option PaymentPayload)
  /-- The upstream tool call with a payment. -/
  | callToolPaid (name : String) (args : Dict) (payment : PaymentPayload)
  /-- `asyncio.sleep(0.01)` -/
  | sleep
  deriving DecidableEq

/-- The answer to a claim, with what it read from the clock and from `uuid4`. -/
structure ClaimAnswer where
  now : ℚ
  token : String
  result : Except Exc AttemptClaim

/-- An answer, with what the operation read from the clock. -/
structure Timed (α : Type) where
  now : ℚ
  result : α

abbrev Ret : Op → Type
  | .claimAttempt _ _ _ _ => ClaimAnswer
  | .persistAttemptPayload _ _ _ _ => Except Exc PaymentAttempt
  | .releaseClaim _ _ => Except Exc Unit
  | .recordOutcome _ _ => Timed (Except Exc Bool)
  | .pruneExpiredAttempts => Timed Nat
  | .getAttempt _ => Except Exc (Option PaymentAttempt)
  | .httpRequest _ _ => Except Exc HttpResponse
  | .createPaymentPayload _ _ => Except Exc PaymentPayload
  | .callTool _ _ => Except Exc (ToolResult ⊕ PaymentRequired)
  | .selectPayment _ _ => Except Exc PaymentPayload
  | .callToolPaid _ _ _ => Except Exc ToolResult
  | .sleep => Except Exc Unit

/-! ## Section 2: The world -/

/-- The operation is answered by its result and by nothing else. -/
def performed {α : Type} [DecidableEq α] (r : α) (outcome : α × Journal) : Option Journal :=
  if r = outcome.1 then some outcome.2 else none

@[simp] theorem performed_eq_some {α : Type} [DecidableEq α] {r : α} {outcome : α × Journal}
    {j : Journal} : performed r outcome = some j ↔ r = outcome.1 ∧ outcome.2 = j := by
  unfold performed
  split
  · next h => simp [h]
  · next h => simp [h]

def exec (env : Env) (j : Journal) : (o : Op) → Ret o → Option Journal
  | .claimAttempt fingerprint payer recoveryScope leaseSeconds, r =>
    performed r.result
      (claimAttempt env fingerprint payer recoveryScope leaseSeconds r.now r.token j)
  | .persistAttemptPayload fingerprint ownerToken paymentPayload paymentIdentifier, r =>
    performed r
      (persistAttemptPayload env fingerprint ownerToken paymentPayload paymentIdentifier j)
  | .releaseClaim fingerprint ownerToken, r => performed r (releaseClaim env fingerprint ownerToken j)
  | .recordOutcome receipt reuseSeconds, r =>
    performed r.result (recordOutcome env receipt reuseSeconds r.now j)
  | .pruneExpiredAttempts, r => performed r.result (pruneExpiredAttempts r.now j)
  | .getAttempt fingerprint, r => performed r (getAttempt env fingerprint j, j)
  | _, _ => some j

def world (env : Env) : World Op Ret Journal := ⟨exec env⟩

abbrev JournalState (ι : Type) := State ι Op Ret Journal

variable {ι ε α : Type} {env : Env}

/-- Callers store a payload with the identifier that it carries. -/
def StoresIdentifier (env : Env) (o : Op) : Prop :=
  ∀ f token payload identifier, o = .persistAttemptPayload f token payload identifier →
    identifier = env.extractPaymentIdentifier payload

def storesIdentifier (env : Env) : Op → Bool
  | .persistAttemptPayload _ _ payload identifier => identifier = env.extractPaymentIdentifier payload
  | _ => true

theorem storesIdentifier_eq_true {o : Op} (h : storesIdentifier env o = true) :
    StoresIdentifier env o := by
  intro f token payload identifier ho
  subst ho
  exact of_decide_eq_true h

/-- The token that a claim read from `uuid4`. -/
def tokenOf : Event Op Ret → Option String
  | ⟨.claimAttempt _ _ _ _, r⟩ => some r.token
  | _ => none

/-- `uuid4` gives no token twice. -/
def FreshToken (s : JournalState ι) (e : Event Op Ret) : Prop :=
  ∀ token, tokenOf e = some token → ∀ e' ∈ s.log, tokenOf e'.toEvent ≠ some token

/-- What holds of every step. -/
def Lawful (env : Env) (s : JournalState ι) (e : Entry ι Op Ret) : Prop :=
  StoresIdentifier env e.op ∧ FreshToken s e.toEvent

/-- A log of lawful steps, as a check. -/
def isLawfulLog (env : Env) : List (Entry ι Op Ret) → Bool
  | [] => true
  | e :: older => storesIdentifier env e.op &&
      older.all (fun e' => tokenOf e.toEvent = none || tokenOf e'.toEvent ≠ tokenOf e.toEvent) &&
      isLawfulLog env older

theorem everyEntry_of_isLawfulLog {log : List (Entry ι Op Ret)} {j : Journal}
    (h : isLawfulLog env log = true) :
    EveryEntry (fun e older => Lawful env (⟨j, older⟩ : JournalState ι) e) log := by
  induction log with
  | nil => trivial
  | cons e older ih =>
    simp only [isLawfulLog, Bool.and_eq_true, List.all_eq_true, Bool.or_eq_true,
      decide_eq_true_eq] at h
    obtain ⟨⟨hid, hfresh⟩, hrest⟩ := h
    refine ⟨⟨storesIdentifier_eq_true hid, fun token ht e' he' => ?_⟩, ih hrest⟩
    rcases hfresh e' he' with hnone | hne
    · rw [hnone] at ht
      cases ht
    · rw [ht] at hne
      exact hne

/-! ## Section 3: What one step does to a stored payload -/

/-- The payload that is stored for a fingerprint. -/
def Stored (j : Journal) (f : String) (payload : PaymentPayload) : Prop :=
  ∃ attempt, j.attempt f = some attempt ∧ attempt.paymentPayload = some payload

/-- The stored attempt for `f` is paid, and its reuse window has ended. -/
def Ended (j : Journal) (f : String) (now : ℚ) : Prop :=
  ∃ attempt, j.attempt f = some attempt ∧ attempt.Expired now

/-- Pruning of a paid attempt whose reuse window has ended. -/
def Prunes (f : String) (s : JournalState ι) : Event Op Ret → Prop
  | ⟨.claimAttempt _ _ _ _, r⟩ => Ended s.shared f r.now
  | ⟨.pruneExpiredAttempts, r⟩ => Ended s.shared f r.now
  | _ => False

/-- An outcome with state failed for the fingerprint. -/
def RecordsFailure (f : String) (o : Op) : Prop :=
  ∃ receipt reuse, o = .recordOutcome receipt reuse ∧ receipt.fingerprint = some f ∧
    receipt.state = .failed

/-- After such a step the fingerprint may get another payload. -/
def Frees (f : String) (s : JournalState ι) (e : Entry ι Op Ret) : Prop :=
  RecordsFailure f e.op ∨ Prunes f s e.toEvent

/-- What stays of an attempt with a payload. -/
structure SameAttempt (a b : PaymentAttempt) : Prop where
  payload : b.paymentPayload = a.paymentPayload
  payer : b.payer = a.payer
  recoveryScope : b.recoveryScope = a.recoveryScope
  ownerToken : b.ownerToken = a.ownerToken

theorem SameAttempt.refl (a : PaymentAttempt) : SameAttempt a a := ⟨rfl, rfl, rfl, rfl⟩

theorem SameAttempt.trans {a b c : PaymentAttempt} (h : SameAttempt a b) (h' : SameAttempt b c) :
    SameAttempt a c :=
  ⟨h'.payload.trans h.payload, h'.payer.trans h.payer, h'.recoveryScope.trans h.recoveryScope,
    h'.ownerToken.trans h.ownerToken⟩

section Step

variable {j j' : Journal} {f : String} {a : PaymentAttempt}

theorem exec_claimAttempt {f payer scope token : String} {lease now : ℚ}
    {result : Except Exc AttemptClaim} (hj : j.Sound env)
    (hx : exec env j (.claimAttempt f payer scope lease) ⟨now, token, result⟩ = some j') :
    ClaimOutcome j f payer scope lease now token result j' := by
  obtain ⟨hr, rfl⟩ := performed_eq_some.mp hx
  have hresult : result = (claimAttempt env f payer scope lease now token j).1 := hr
  rw [hresult]
  exact claimAttempt_outcome hj

theorem exec_persistAttemptPayload {f : String} {token identifier : Option String}
    {payload : PaymentPayload} {r : Except Exc PaymentAttempt} (hj : j.Sound env)
    (hx : exec env j (.persistAttemptPayload f token payload identifier) r = some j') :
    PersistOutcome j f token payload identifier r j' := by
  obtain ⟨rfl, rfl⟩ := performed_eq_some.mp hx
  exact persistAttemptPayload_outcome hj

theorem exec_recordOutcome {receipt : ReceiptRecord} {reuse : ℚ} {r : Timed (Except Exc Bool)}
    (hx : exec env j (.recordOutcome receipt reuse) r = some j') :
    j' = (recordOutcome env receipt reuse r.now j).2 :=
  (performed_eq_some.mp hx).2.symm

/-- Operations that leave the journal as it is. -/
def Op.leavesJournal : Op → Bool
  | .claimAttempt _ _ _ _ => false
  | .persistAttemptPayload _ _ _ _ => false
  | .releaseClaim _ _ => false
  | .recordOutcome _ _ => false
  | .pruneExpiredAttempts => false
  | _ => true

theorem exec_leavesJournal {o : Op} {r : Ret o} (ho : o.leavesJournal = true)
    (hx : exec env j o r = some j') : j' = j := by
  cases o with
  | claimAttempt f payer scope lease => cases ho
  | persistAttemptPayload f token payload identifier => cases ho
  | releaseClaim f token => cases ho
  | recordOutcome receipt reuse => cases ho
  | pruneExpiredAttempts => cases ho
  | getAttempt f => exact (performed_eq_some.mp hx).2.symm
  | _ => exact (Option.some.inj hx).symm

/-- What a step leaves for a fingerprint was there before, with its payload and
    owner, or is a new claim, or is the payload of the owner of a claim. -/
inductive Origin (j : Journal) (f : String) (e : Event Op Ret) (a : PaymentAttempt) : Prop
  | kept (old : PaymentAttempt) (stored : j.attempt f = some old) (same : SameAttempt old a)
  | granted (payer scope : String) (lease : ℚ) (r : ClaimAnswer)
      (event : e = ⟨.claimAttempt f payer scope lease, r⟩) (answer : r.result = .ok ⟨a, some r.token⟩)
      (owner : a.ownerToken = r.token) (noPayload : a.paymentPayload = none)
  | persisted (old : PaymentAttempt) (payload : PaymentPayload) (identifier : Option String)
      (event : e = ⟨.persistAttemptPayload f (some old.ownerToken) payload identifier, .ok a⟩)
      (stored : j.attempt f = some old) (free : old.paymentPayload = none)
      (same : a = old.ready payload identifier)

theorem origin_pruned {now : ℚ} {e : Event Op Ret} (ha : (j.pruned now).attempt f = some a) :
    Origin j f e a := by
  rw [attempt_pruned, Option.filter_eq_some_iff] at ha
  exact .kept a ha.1 (.refl a)

theorem origin_of_step {o : Op} {r : Ret o} (hj : j.Sound env) (hx : exec env j o r = some j')
    (ha : j'.attempt f = some a) : Origin j f ⟨o, r⟩ a := by
  cases o with
  | claimAttempt f' payer scope lease =>
    obtain ⟨now, token, result⟩ := r
    have houtcome := exec_claimAttempt hj hx
    cases houtcome with
    | refused e reason => exact .kept a ha (.refl a)
    | found attempt stored live allowed held => exact origin_pruned ha
    | granted nonempty free =>
      rw [attempt_put] at ha
      split at ha
      · next hf =>
        have hf' : f = f' := hf
        subst hf'
        cases ha
        exact .granted payer scope lease _ rfl rfl rfl rfl
      · exact origin_pruned ha
  | persistAttemptPayload f' token payload identifier =>
    have houtcome := exec_persistAttemptPayload hj hx
    cases houtcome with
    | refused e reason => exact .kept a ha (.refl a)
    | held attempt stored held => exact .kept a ha (.refl a)
    | persisted attempt stored free owner =>
      have hkey : attempt.fingerprint = f' := (hj f' attempt stored).1
      rw [attempt_put] at ha
      split at ha
      · next hf =>
        have hf' : f = f' := hf.trans hkey
        subst hf' owner
        cases ha
        exact .persisted attempt payload identifier rfl stored free rfl
      · exact .kept a ha (.refl a)
  | releaseClaim f' token =>
    obtain ⟨-, rfl⟩ := performed_eq_some.mp hx
    rcases releaseClaim_outcome (f := f') hj with hsame | ⟨attempt, -, -, -, hpop⟩
    · rw [hsame] at ha
      exact .kept a ha (.refl a)
    · rw [hpop, attempt_pop] at ha
      split at ha
      · cases ha
      · exact .kept a ha (.refl a)
  | recordOutcome receipt reuse =>
    rw [exec_recordOutcome hx, attempt_recordOutcome hj] at ha
    split at ha
    · obtain ⟨old, hold, hnew⟩ := Option.bind_eq_some_iff.mp ha
      cases hstate : receipt.state with
      | pending =>
        rw [hstate] at hnew
        cases hnew
        exact .kept old hold ⟨rfl, rfl, rfl, rfl⟩
      | paid =>
        rw [hstate] at hnew
        cases hnew
        exact .kept old hold ⟨rfl, rfl, rfl, rfl⟩
      | failed =>
        rw [hstate] at hnew
        cases hnew
    · exact .kept a ha (.refl a)
  | pruneExpiredAttempts =>
    obtain ⟨-, rfl⟩ := performed_eq_some.mp hx
    exact origin_pruned ha
  | _ =>
    rw [exec_leavesJournal rfl hx] at ha
    exact .kept a ha (.refl a)

theorem sound_step {o : Op} {r : Ret o} (hj : j.Sound env) (ho : StoresIdentifier env o)
    (hx : exec env j o r = some j') : j'.Sound env := by
  cases o with
  | claimAttempt f' payer scope lease =>
    obtain ⟨now, token, result⟩ := r
    have houtcome := exec_claimAttempt hj hx
    cases houtcome with
    | refused e reason => exact hj
    | found attempt stored live allowed held => exact hj.pruned now
    | granted nonempty free => exact (hj.pruned now).put fun payload hp => by cases hp
  | persistAttemptPayload f' token payload identifier =>
    have houtcome := exec_persistAttemptPayload hj hx
    cases houtcome with
    | refused e reason => exact hj
    | held attempt stored held => exact hj
    | persisted attempt stored free owner =>
      refine hj.put fun payload' hp => ?_
      cases hp
      exact (ho f' token payload identifier rfl).symm
  | releaseClaim f' token =>
    obtain ⟨-, rfl⟩ := performed_eq_some.mp hx
    rcases releaseClaim_outcome (f := f') hj with hsame | ⟨attempt, -, -, -, hpop⟩
    · rw [hsame]
      exact hj
    · rw [hpop]
      exact hj.pop f'
  | recordOutcome receipt reuse =>
    rw [exec_recordOutcome hx]
    exact hj.recordOutcome
  | pruneExpiredAttempts =>
    obtain ⟨-, rfl⟩ := performed_eq_some.mp hx
    exact hj.pruned r.now
  | _ =>
    rw [exec_leavesJournal rfl hx]
    exact hj

theorem pruned_or_kept {now : ℚ} (ha : j.attempt f = some a) :
    (j.pruned now).attempt f = some a ∨ Ended j f now := by
  by_cases hexpired : a.Expired now
  · exact .inr ⟨a, ha, hexpired⟩
  · exact .inl (by rw [attempt_pruned, ha, Option.filter_some, if_pos (by simpa using hexpired)])

/-- A step that does not free the fingerprint keeps an attempt with a payload. -/
theorem kept_of_step {s : JournalState ι} {i : ι} {o : Op} {r : Ret o} (hj : s.shared.Sound env)
    (hx : exec env s.shared o r = some j') (ha : s.shared.attempt f = some a)
    (hp : a.paymentPayload.isSome) (hfree : ¬ Frees f s ⟨⟨o, r⟩, i⟩) :
    ∃ a', j'.attempt f = some a' ∧ SameAttempt a a' := by
  rw [Frees, not_or] at hfree
  obtain ⟨hfailure, hprune⟩ := hfree
  have hpruned : ∀ now, ¬ Ended s.shared f now → (s.shared.pruned now).attempt f = some a :=
    fun now hend => (pruned_or_kept ha).resolve_right hend
  cases o with
  | claimAttempt f' payer scope lease =>
    obtain ⟨now, token, result⟩ := r
    have houtcome := exec_claimAttempt hj hx
    have hlive := hpruned now hprune
    cases houtcome with
    | refused e reason => exact ⟨a, ha, .refl a⟩
    | found attempt stored live allowed held => exact ⟨a, hlive, .refl a⟩
    | granted nonempty free =>
      by_cases hf : f = f'
      · -- An attempt with a payload is not granted to anybody else.
        subst hf
        have hnone := (free a ha fun hexpired => hprune ⟨a, ha, hexpired⟩).1
        rw [hnone] at hp
        cases hp
      · have hne : ¬ f = (newClaim f' payer scope token (now + lease)).fingerprint := hf
        exact ⟨a, by rw [attempt_put, if_neg hne, hlive], .refl a⟩
  | persistAttemptPayload f' token payload identifier =>
    have houtcome := exec_persistAttemptPayload hj hx
    cases houtcome with
    | refused e reason => exact ⟨a, ha, .refl a⟩
    | held attempt stored held => exact ⟨a, ha, .refl a⟩
    | persisted attempt stored free owner =>
      have hkey : attempt.fingerprint = f' := (hj f' attempt stored).1
      by_cases hf : f = f'
      · subst hf
        rw [ha] at stored
        cases stored
        rw [free] at hp
        cases hp
      · have hne : ¬ f = (attempt.ready payload identifier).fingerprint := fun h => hf (h.trans hkey)
        exact ⟨a, by rw [attempt_put, if_neg hne, ha], .refl a⟩
  | releaseClaim f' token =>
    obtain ⟨-, rfl⟩ := performed_eq_some.mp hx
    rcases releaseClaim_outcome (f := f') hj with hsame | ⟨attempt, stored, -, hnone, hpop⟩
    · exact ⟨a, by rw [hsame, ha], .refl a⟩
    · have hf : ¬ f = f' := by
        rintro rfl
        rw [ha] at stored
        cases stored
        rw [hnone] at hp
        cases hp
      exact ⟨a, by rw [hpop, attempt_pop, if_neg hf, ha], .refl a⟩
  | recordOutcome receipt reuse =>
    rw [exec_recordOutcome hx, attempt_recordOutcome hj]
    split
    · next hf =>
      rw [ha, Option.bind_some]
      cases hstate : receipt.state with
      | pending => exact ⟨_, rfl, rfl, rfl, rfl, rfl⟩
      | paid => exact ⟨_, rfl, rfl, rfl, rfl, rfl⟩
      | failed => exact absurd ⟨receipt, reuse, rfl, hf.2, hstate⟩ hfailure
    · exact ⟨a, ha, .refl a⟩
  | pruneExpiredAttempts =>
    obtain ⟨-, rfl⟩ := performed_eq_some.mp hx
    exact ⟨a, hpruned r.now hprune, .refl a⟩
  | _ =>
    rw [exec_leavesJournal rfl hx]
    exact ⟨a, ha, .refl a⟩

end Step

/-! ## Section 4: The invariant of the journal -/

/-- Any programs, on one journal. -/
def payerSystem (env : Env) (prog : ι → Prog Op Ret ε α) : System ι Op Ret ε α Journal :=
  ⟨world env, prog⟩

/-- The claim for `f` was granted with this token. -/
def Grants (f token : String) (e : Event Op Ret) : Prop :=
  ∃ payer scope lease now claimed,
    e = ⟨.claimAttempt f payer scope lease, ⟨now, token, .ok ⟨claimed, some token⟩⟩⟩

/-- After the claim with this token, another one for `f` was granted. -/
def TakenOver (f token : String) : List (Entry ι Op Ret) → Prop
  | [] => False
  | e :: older => TakenOver f token older ∨
      ((∃ later, Grants f later e.toEvent) ∧ ∃ e' ∈ older, Grants f token e'.toEvent)

/-- Somebody asked to persist the payload for `f`, and was told that it is stored. -/
def PersistedIn (log : List (Entry ι Op Ret)) (f : String) (payload : PaymentPayload) : Prop :=
  ∃ i token identifier a, a.paymentPayload = some payload ∧
    (⟨⟨.persistAttemptPayload f token payload identifier, .ok a⟩, i⟩ : Entry ι Op Ret) ∈ log

theorem PersistedIn.mono {log log' : List (Entry ι Op Ret)} {f : String} {payload : PaymentPayload}
    (h : PersistedIn log f payload) (hsub : log <:+ log') : PersistedIn log' f payload := by
  obtain ⟨i, token, identifier, a, ha, hmem⟩ := h
  exact ⟨i, token, identifier, a, ha, hsub.subset hmem⟩

theorem tokenOf_of_grants {f token : String} {e : Event Op Ret} (h : Grants f token e) :
    tokenOf e = some token := by
  obtain ⟨payer, scope, lease, now, claimed, rfl⟩ := h
  rfl

theorem TakenOver.token {f token : String} {log : List (Entry ι Op Ret)}
    (h : TakenOver f token log) : ∃ e ∈ log, tokenOf e.toEvent = some token := by
  induction log with
  | nil => exact h.elim
  | cons e older ih =>
    rcases h with h | ⟨-, e', he', hgrants⟩
    · obtain ⟨e', he', ht⟩ := ih h
      exact ⟨e', List.mem_cons_of_mem _ he', ht⟩
    · exact ⟨e', List.mem_cons_of_mem _ he', tokenOf_of_grants hgrants⟩

structure JournalInvariant (env : Env) (s : JournalState ι) : Prop where
  sound : s.shared.Sound env
  /-- Every owner got its token from a claim. -/
  owners : ∀ f a, s.shared.attempt f = some a →
    ∃ e ∈ s.log, tokenOf e.toEvent = some a.ownerToken
  /-- A caller whose claim was taken over owns nothing. -/
  takenOver : ∀ f token, TakenOver f token s.log → ∀ a, s.shared.attempt f = some a →
    a.ownerToken ≠ token
  /-- Every stored payload was persisted. -/
  persisted : ∀ f payload, Stored s.shared f payload → PersistedIn s.log f payload

theorem journalInvariant_init : JournalInvariant env (⟨Journal.empty, []⟩ : JournalState ι) where
  sound f a ha := by cases ha
  owners f a ha := by cases ha
  takenOver f token h := h.elim
  persisted f payload h := by
    obtain ⟨a, ha, -⟩ := h
    cases ha

section Invariant

variable {s : JournalState ι} {i : ι} {o : Op} {r : Ret o} {j' : Journal}

theorem JournalInvariant.step (h : JournalInvariant env s) (hx : exec env s.shared o r = some j')
    (hlaw : Lawful env s ⟨⟨o, r⟩, i⟩) : JournalInvariant env (s.push i o r j') := by
  obtain ⟨hidentifier, hfresh⟩ := hlaw
  have horigin : ∀ {f a}, j'.attempt f = some a → Origin s.shared f ⟨o, r⟩ a :=
    fun ha => origin_of_step h.sound hx ha
  refine ⟨sound_step h.sound hidentifier hx, ?_, ?_, ?_⟩
  · intro f a ha
    have hold : ∀ old, s.shared.attempt f = some old → old.ownerToken = a.ownerToken →
        ∃ e ∈ (s.push i o r j').log, tokenOf e.toEvent = some a.ownerToken := by
      intro old hold heq
      obtain ⟨e, he, ht⟩ := h.owners f old hold
      exact ⟨e, List.mem_cons_of_mem _ he, heq ▸ ht⟩
    cases horigin ha with
    | kept old stored same => exact hold old stored same.ownerToken.symm
    | granted payer scope lease answer event result owner noPayload =>
      refine ⟨⟨⟨o, r⟩, i⟩, List.mem_cons_self, ?_⟩
      rw [event, owner]
      rfl
    | persisted old payload identifier event stored free same =>
      exact hold old stored (by rw [same]; rfl)
  · intro f token htaken a ha
    -- A token that a fresh claim brings has not been taken over.
    have hseen : ∃ e ∈ s.log, tokenOf e.toEvent = some token := by
      rcases htaken with htaken | ⟨-, e', he', hgrants⟩
      · exact htaken.token
      · exact ⟨e', he', tokenOf_of_grants hgrants⟩
    have hold : ∀ old, s.shared.attempt f = some old → old.ownerToken = a.ownerToken →
        (∀ later, ¬ Grants f later ⟨o, r⟩) → a.ownerToken ≠ token := by
      intro old hold heq hnone
      rcases htaken with htaken | ⟨⟨later, hlater⟩, -⟩
      · rw [← heq]
        exact h.takenOver f token htaken old hold
      · exact absurd hlater (hnone later)
    cases horigin ha with
    | granted payer scope lease answer event result owner noPayload =>
      rintro rfl
      obtain ⟨e, he, ht⟩ := hseen
      exact hfresh _ (by rw [event, owner]; rfl) e he ht
    | persisted old payload identifier event stored free same =>
      refine hold old stored (by rw [same]; rfl) fun later hgrants => ?_
      obtain ⟨payer, scope, lease, now, claimed, heq⟩ := hgrants
      rw [event] at heq
      cases heq
    | kept old stored same =>
      by_cases hgrants : ∃ later, Grants f later ⟨o, r⟩
      · -- A granted claim replaces the attempt by its own.
        obtain ⟨later, payer, scope, lease, now, claimed, heq⟩ := hgrants
        cases heq
        have houtcome := exec_claimAttempt h.sound hx
        cases houtcome with
        | granted nonempty free =>
          have hnew : a = newClaim f payer scope later (now + lease) := by
            have hput := attempt_put_self (s.shared.pruned now)
              (newClaim f payer scope later (now + lease))
            exact Option.some.inj (ha.symm.trans hput)
          rw [hnew]
          rintro rfl
          obtain ⟨e, he, ht⟩ := hseen
          exact hfresh _ rfl e he ht
      · exact hold old stored same.ownerToken.symm fun later hlater => hgrants ⟨later, hlater⟩
  · rintro f payload ⟨a, ha, hp⟩
    cases horigin ha with
    | kept old stored same =>
      have hpersisted := h.persisted f payload ⟨old, stored, same.payload ▸ hp⟩
      exact hpersisted.mono (List.suffix_cons _ _)
    | granted payer scope lease answer event result owner noPayload =>
      rw [noPayload] at hp
      cases hp
    | persisted old payload' identifier event stored free same =>
      have hpayload : payload' = payload := by
        rw [same] at hp
        exact Option.some.inj hp
      subst hpayload
      refine ⟨i, some old.ownerToken, identifier, a, hp, ?_⟩
      rw [State.push_log, event]
      exact List.mem_cons_self

variable [DecidableEq ι] {prog : ι → Prog Op Ret ε α}
variable {allowed : JournalState ι → Entry ι Op Ret → Prop} {c c' : Config ι Op Ret ε α Journal}

theorem JournalInvariant.run (hlaw : ∀ s e, allowed s e → Lawful env s e)
    (h : Run (payerSystem env prog) allowed c c') (hc : JournalInvariant env c.state) :
    JournalInvariant env c'.state :=
  h.keep (fun s i _ _ _ hs hx ha => hs.step (i := i) hx (hlaw s _ ha)) hc

/-- An attempt with a payload stays as long as nothing frees its fingerprint. -/
theorem kept_of_run {f : String} {a : PaymentAttempt}
    (hallowed : ∀ s e, allowed s e → Lawful env s e ∧ ¬ Frees f s e)
    (h : Run (payerSystem env prog) allowed c c') (hc : JournalInvariant env c.state)
    (ha : c.state.shared.attempt f = some a) (hp : a.paymentPayload.isSome) :
    ∃ a', c'.state.shared.attempt f = some a' ∧ SameAttempt a a' := by
  have hboth : JournalInvariant env c'.state ∧
      ∃ a', c'.state.shared.attempt f = some a' ∧ SameAttempt a a' := by
    refine h.keep (I := fun s => JournalInvariant env s ∧
      ∃ a', s.shared.attempt f = some a' ∧ SameAttempt a a') ?_ ⟨hc, a, ha, .refl a⟩
    rintro s i o r t ⟨hs, a', ha', hsame⟩ hx hstep
    obtain ⟨hlaw, hfree⟩ := hallowed s _ hstep
    obtain ⟨a'', ha'', hsame'⟩ := kept_of_step hs.sound hx ha' (hsame.payload ▸ hp) hfree
    exact ⟨hs.step hx hlaw, a'', ha'', hsame.trans hsame'⟩
  exact hboth.2

end Invariant

end XrplX402.Payer
