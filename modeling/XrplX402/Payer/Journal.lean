import Mathlib.Data.List.AList
import XrplX402.Core.Responses

/-! # The receipt journal

    Receipts are appended to a file, and the signed payloads in use are kept in
    an index beside it. Every operation holds the file lock from its reading of
    the index to its writing, so that each is one function of the journal.

    * **`PaymentAttempt`**: a claim with a lease, then an exact signed payload.
    * **Operations**: `claimAttempt`, `persistAttemptPayload`, `releaseClaim`,
      `recordOutcome`, `pruneExpiredAttempts` and `getAttempt`.
    * Clock readings and fresh tokens are arguments. -/

namespace XrplX402.Payer

open Py

/-! ## Section 1: The data -/

inductive AttemptState where
  | claimed
  | ready
  | pending
  | paid
  deriving DecidableEq

structure PaymentAttempt where
  fingerprint : String
  payer : String
  recoveryScope : String
  ownerToken : String
  state : AttemptState
  leaseExpiresAt : ℚ
  paymentPayload : Option PaymentPayload
  paymentIdentifier : Option String
  deriving DecidableEq

/-- The attempt, and the token when the caller has become its owner. -/
structure AttemptClaim where
  attempt : PaymentAttempt
  ownerToken : Option String
  deriving DecidableEq

def AttemptClaim.isOwner (claim : AttemptClaim) : Bool := claim.ownerToken.isSome

inductive ReceiptState where
  | paid
  | pending
  | failed
  deriving DecidableEq

structure ReceiptRecord where
  url : String
  method : String
  statusCode : Int
  state : ReceiptState
  settlement : SettleResponse
  accepted : PaymentRequirements
  requestFingerprint : Option String
  deriving DecidableEq

/-- `index["attempts"]` -/
abbrev Attempts := AList fun _ : String => PaymentAttempt

structure Journal where
  attempts : Attempts
  /-- The lines of the receipt file, oldest first. -/
  records : List ReceiptRecord

def Journal.empty : Journal := ⟨∅, []⟩

/-- The attempt that is stored for a fingerprint. -/
def Journal.attempt (j : Journal) (fingerprint : String) : Option PaymentAttempt :=
  j.attempts.lookup fingerprint

def attemptLeaseSeconds : ℚ := 30

def terminalReuseSeconds : ℚ := 300

/-! ## Section 2: The index -/

def identifierMismatch : Exc :=
  valueError "Stored payment identifier does not match its exact payload"

/-- A stored payload must carry the identifier that is stored beside it. -/
def PaymentAttempt.Consistent (env : Env) (attempt : PaymentAttempt) : Prop :=
  ∀ payload ∈ attempt.paymentPayload,
    env.extractPaymentIdentifier payload = attempt.paymentIdentifier

instance (env : Env) (attempt : PaymentAttempt) : Decidable (attempt.Consistent env) :=
  inferInstanceAs (Decidable (∀ payload ∈ attempt.paymentPayload, _))

/-- `_attempt_from_index(index, fingerprint)` -/
def attemptFromIndex (env : Env) (index : Attempts) (fingerprint : String) :
    Except Exc (Option PaymentAttempt) :=
  match index.lookup fingerprint with
  | none => .ok none
  | some attempt =>
    if attempt.Consistent env then .ok (some attempt) else .error identifierMismatch

/-- `_put_attempt(index, attempt)` -/
def putAttempt (index : Attempts) (attempt : PaymentAttempt) : Attempts :=
  index.insert attempt.fingerprint attempt

/-- A paid attempt whose reuse window has ended. -/
def PaymentAttempt.Expired (now : ℚ) (attempt : PaymentAttempt) : Prop :=
  attempt.state = .paid ∧ attempt.leaseExpiresAt ≤ now

instance (now : ℚ) (attempt : PaymentAttempt) : Decidable (attempt.Expired now) :=
  inferInstanceAs (Decidable (_ ∧ _))

def expiredFingerprints (index : Attempts) (now : ℚ) : List String :=
  (index.entries.filter fun entry => entry.2.Expired now).map Sigma.fst

/-- `_prune_expired_paid_unlocked(index, now)`: what is left of the index. -/
def pruneExpiredPaid (index : Attempts) (now : ℚ) : Attempts :=
  (expiredFingerprints index now).foldl (fun index fingerprint => index.erase fingerprint) index

def Journal.pruned (j : Journal) (now : ℚ) : Journal :=
  { j with attempts := pruneExpiredPaid j.attempts now }

/-- The journal with this attempt in the place of the one with its fingerprint. -/
def Journal.put (j : Journal) (attempt : PaymentAttempt) : Journal :=
  { j with attempts := putAttempt j.attempts attempt }

/-- The journal without the attempt for the fingerprint. -/
def Journal.pop (j : Journal) (fingerprint : String) : Journal :=
  { j with attempts := j.attempts.erase fingerprint }

/-! ## Section 3: The operations -/

def scopeMismatch : Exc := valueError "Payment attempt recovery scope mismatch"

/-- The attempt of a caller that becomes the owner. -/
def newClaim (fingerprint payer recoveryScope token : String) (leaseExpiresAt : ℚ) :
    PaymentAttempt where
  fingerprint := fingerprint
  payer := payer
  recoveryScope := recoveryScope
  ownerToken := token
  state := .claimed
  leaseExpiresAt := leaseExpiresAt
  paymentPayload := none
  paymentIdentifier := none

/-- `claim_attempt`; `now` and `token` are its readings of the clock and of
    `uuid4`. -/
def claimAttempt (env : Env) (fingerprint payer recoveryScope : String) (leaseSeconds now : ℚ)
    (token : String) (j : Journal) : Except Exc AttemptClaim × Journal :=
  if strip recoveryScope = "" then (.error (valueError "recovery_scope must be non-empty"), j)
  else
    let pruned := j.pruned now
    let claimed := newClaim fingerprint payer recoveryScope token (now + leaseSeconds)
    match attemptFromIndex env pruned.attempts fingerprint with
    | .error e => (.error e, j)
    | .ok none => (.ok ⟨claimed, some token⟩, pruned.put claimed)
    | .ok (some existing) =>
      if existing.payer ≠ payer ∨ existing.recoveryScope ≠ recoveryScope then
        (.error scopeMismatch, j)
      else if existing.paymentPayload.isSome ∨ now < existing.leaseExpiresAt then
        (.ok ⟨existing, none⟩, pruned)
      else (.ok ⟨claimed, some token⟩, pruned.put claimed)

def getAttempt (env : Env) (fingerprint : String) (j : Journal) :
    Except Exc (Option PaymentAttempt) :=
  attemptFromIndex env j.attempts fingerprint

/-- `current.model_copy(update={"state": "ready", ...})` -/
def PaymentAttempt.ready (current : PaymentAttempt) (paymentPayload : PaymentPayload)
    (paymentIdentifier : Option String) : PaymentAttempt :=
  { current with
    state := .ready, leaseExpiresAt := 0, paymentPayload := some paymentPayload,
    paymentIdentifier := paymentIdentifier }

def persistAttemptPayload (env : Env) (fingerprint : String) (ownerToken : Option String)
    (paymentPayload : PaymentPayload) (paymentIdentifier : Option String) (j : Journal) :
    Except Exc PaymentAttempt × Journal :=
  match attemptFromIndex env j.attempts fingerprint with
  | .error e => (.error e, j)
  | .ok none => (.error (runtimeError "Payment attempt claim disappeared"), j)
  | .ok (some current) =>
    if current.paymentPayload.isSome then (.ok current, j)
    else if ownerToken ≠ some current.ownerToken then
      (.error (runtimeError "Payment attempt lease is owned by another payer"), j)
    else
      let ready := current.ready paymentPayload paymentIdentifier
      (.ok ready, j.put ready)

def releaseClaim (env : Env) (fingerprint : String) (ownerToken : Option String) (j : Journal) :
    Except Exc Unit × Journal :=
  match ownerToken with
  | none => (.ok (), j)
  | some token =>
    match attemptFromIndex env j.attempts fingerprint with
    | .error e => (.error e, j)
    | .ok none => (.ok (), j)
    | .ok (some current) =>
      if current.ownerToken = token ∧ current.paymentPayload = none then
        (.ok (), j.pop fingerprint)
      else (.ok (), j)

/-- The number of removed attempts, and the journal without them. -/
def pruneExpiredAttempts (now : ℚ) (j : Journal) : Nat × Journal :=
  ((expiredFingerprints j.attempts now).length, j.pruned now)

/-- A fingerprint that is neither `None` nor empty. -/
def ReceiptRecord.fingerprint (receipt : ReceiptRecord) : Option String :=
  receipt.requestFingerprint.filter (· ≠ "")

/-- `_receipt_key(receipt)` -/
def ReceiptRecord.key (receipt : ReceiptRecord) : Option (String × ReceiptState × String) :=
  receipt.fingerprint.map fun fingerprint =>
    (fingerprint, receipt.state, receipt.settlement.transaction)

/-- `_append_unlocked(receipt)` -/
def appendReceipt (receipt : ReceiptRecord) (records : List ReceiptRecord) :
    Bool × List ReceiptRecord :=
  if receipt.key.isSome ∧ records.any (fun existing => existing.key = receipt.key) then
    (false, records)
  else (true, records ++ [receipt])

/-- An answer that comes after a terminal one with the same transaction. -/
def Late (receipt : ReceiptRecord) (records : List ReceiptRecord) : Prop :=
  receipt.fingerprint.isSome ∧ receipt.state ≠ .paid ∧
    ∃ existing ∈ records, existing.requestFingerprint = receipt.requestFingerprint ∧
      existing.settlement.transaction = receipt.settlement.transaction ∧
      (existing.state = .paid ∨ existing.state = .failed)

instance (receipt : ReceiptRecord) (records : List ReceiptRecord) : Decidable (Late receipt records) :=
  inferInstanceAs (Decidable (_ ∧ _ ∧ _))

/-- What an outcome makes of the attempt that is stored for its fingerprint. -/
def Journal.applyOutcome (j : Journal) (fingerprint : String) (attempt : PaymentAttempt)
    (reuseUntil : ℚ) : ReceiptState → Journal
  | .pending => j.put { attempt with state := .pending, leaseExpiresAt := 0 }
  | .paid => j.put { attempt with state := .paid, leaseExpiresAt := reuseUntil }
  | .failed => j.pop fingerprint

/-- `record_outcome`; `now` is its reading of the clock. -/
def recordOutcome (env : Env) (receipt : ReceiptRecord) (reuseSeconds now : ℚ) (j : Journal) :
    Except Exc Bool × Journal :=
  if Late receipt j.records then (.ok false, j)
  else
    let (appended, records) := appendReceipt receipt j.records
    let j := { j with records := records }
    match receipt.fingerprint with
    | none => (.ok appended, j)
    | some fingerprint =>
      match attemptFromIndex env j.attempts fingerprint with
      | .error e => (.error e, j)
      | .ok none => (.ok appended, j)
      | .ok (some attempt) =>
        (.ok appended, j.applyOutcome fingerprint attempt (now + reuseSeconds) receipt.state)

/-! ## Section 4: What the operations do to one attempt -/

theorem lookup_foldl_erase (fingerprints : List String) (index : Attempts) (fingerprint : String) :
    (fingerprints.foldl (fun index f => index.erase f) index).lookup fingerprint =
      if fingerprint ∈ fingerprints then none else index.lookup fingerprint := by
  induction fingerprints generalizing index with
  | nil => simp
  | cons f rest ih =>
    rw [List.foldl_cons, ih]
    by_cases hrest : fingerprint ∈ rest
    · simp [hrest]
    · by_cases hf : fingerprint = f
      · subst hf
        simp [AList.lookup_erase]
      · simp [hrest, hf, AList.lookup_erase_ne hf]

theorem mem_expiredFingerprints {index : Attempts} {now : ℚ} {fingerprint : String} :
    fingerprint ∈ expiredFingerprints index now ↔
      ∃ attempt, index.lookup fingerprint = some attempt ∧ attempt.Expired now := by
  simp only [expiredFingerprints, List.mem_map, List.mem_filter, decide_eq_true_eq]
  constructor
  · rintro ⟨⟨f, attempt⟩, ⟨hmem, hexpired⟩, rfl⟩
    exact ⟨attempt, AList.mem_lookup_iff.mpr hmem, hexpired⟩
  · rintro ⟨attempt, hlookup, hexpired⟩
    exact ⟨⟨fingerprint, attempt⟩, ⟨AList.mem_lookup_iff.mp hlookup, hexpired⟩, rfl⟩

/-- Pruning removes the expired attempts and keeps the others. -/
@[simp] theorem attempt_pruned (j : Journal) (now : ℚ) (fingerprint : String) :
    (j.pruned now).attempt fingerprint =
      (j.attempt fingerprint).filter fun attempt => ¬ attempt.Expired now := by
  unfold Journal.attempt
  change (pruneExpiredPaid j.attempts now).lookup fingerprint = _
  rw [pruneExpiredPaid, lookup_foldl_erase]
  cases hlookup : j.attempts.lookup fingerprint with
  | none => simp
  | some attempt =>
    by_cases hexpired : attempt.Expired now
    · have hmem := mem_expiredFingerprints.mpr ⟨attempt, hlookup, hexpired⟩
      simp [hmem, Option.filter_some, hexpired]
    · have hmem : fingerprint ∉ expiredFingerprints j.attempts now := by
        intro hmem
        obtain ⟨attempt', hlookup', hexpired'⟩ := mem_expiredFingerprints.mp hmem
        rw [hlookup] at hlookup'
        cases hlookup'
        exact hexpired hexpired'
      simp [hmem, Option.filter_some, hexpired]

@[simp] theorem attempt_put (j : Journal) (attempt : PaymentAttempt) (fingerprint : String) :
    (j.put attempt).attempt fingerprint =
      if fingerprint = attempt.fingerprint then some attempt else j.attempt fingerprint := by
  unfold Journal.attempt
  change (putAttempt j.attempts attempt).lookup fingerprint = _
  unfold putAttempt
  split
  · next h =>
    subst h
    exact AList.lookup_insert _
  · next h => exact AList.lookup_insert_ne h

theorem attempt_put_self (j : Journal) (attempt : PaymentAttempt) :
    (j.put attempt).attempt attempt.fingerprint = some attempt := by
  rw [attempt_put, if_pos rfl]

@[simp] theorem attempt_pop (j : Journal) (popped fingerprint : String) :
    (j.pop popped).attempt fingerprint =
      if fingerprint = popped then none else j.attempt fingerprint := by
  unfold Journal.attempt
  change (j.attempts.erase popped).lookup fingerprint = _
  split
  · next h =>
    subst h
    exact AList.lookup_erase _ _
  · next h => exact AList.lookup_erase_ne h

/-- Every attempt is stored under its fingerprint and can be read. -/
def Journal.Sound (env : Env) (j : Journal) : Prop :=
  ∀ fingerprint attempt, j.attempt fingerprint = some attempt →
    attempt.fingerprint = fingerprint ∧ attempt.Consistent env

section Sound

variable {env : Env} {j : Journal}

theorem Journal.Sound.read (h : j.Sound env) (fingerprint : String) :
    attemptFromIndex env j.attempts fingerprint = .ok (j.attempt fingerprint) := by
  unfold attemptFromIndex
  split
  · next hnone =>
    have hattempt : j.attempt fingerprint = none := hnone
    rw [hattempt]
  · next attempt hsome =>
    have hattempt : j.attempt fingerprint = some attempt := hsome
    rw [if_pos (h _ _ hattempt).2, hattempt]

theorem Journal.Sound.put (h : j.Sound env) {attempt : PaymentAttempt}
    (hattempt : attempt.Consistent env) : (j.put attempt).Sound env := by
  intro f a ha
  rw [attempt_put] at ha
  split at ha
  · next hf =>
    cases ha
    exact ⟨hf.symm, hattempt⟩
  · exact h f a ha

theorem Journal.Sound.pop (h : j.Sound env) (fingerprint : String) : (j.pop fingerprint).Sound env := by
  intro f a ha
  rw [attempt_pop] at ha
  split at ha
  · cases ha
  · exact h f a ha

theorem Journal.Sound.pruned (h : j.Sound env) (now : ℚ) : (j.pruned now).Sound env := by
  intro f a ha
  rw [attempt_pruned, Option.filter_eq_some_iff] at ha
  exact h f a ha.1

end Sound

section Operations

variable {env : Env} {j : Journal} {f payer scope token : String} {lease now : ℚ}

/-- The claim may not see this attempt. -/
def ClaimRefused (attempt : PaymentAttempt) (payer scope : String) : Prop :=
  strip scope = "" ∨ attempt.payer ≠ payer ∨ attempt.recoveryScope ≠ scope

/-- A claim that is not granted changes nothing but what it prunes; one that is
    granted stores a new attempt. -/
inductive ClaimOutcome (j : Journal) (f payer scope : String) (lease now : ℚ) (token : String) :
    Except Exc AttemptClaim → Journal → Prop
  | refused (e : Exc) (reason : strip scope = "" ∨ ∃ attempt, j.attempt f = some attempt ∧
      ClaimRefused attempt payer scope) : ClaimOutcome j f payer scope lease now token (.error e) j
  | found (attempt : PaymentAttempt) (stored : j.attempt f = some attempt)
      (live : ¬ attempt.Expired now) (allowed : ¬ ClaimRefused attempt payer scope)
      (held : attempt.paymentPayload.isSome ∨ now < attempt.leaseExpiresAt) :
      ClaimOutcome j f payer scope lease now token (.ok ⟨attempt, none⟩) (j.pruned now)
  | granted (nonempty : strip scope ≠ "") (free : ∀ attempt, j.attempt f = some attempt →
      ¬ attempt.Expired now → attempt.paymentPayload = none ∧ attempt.leaseExpiresAt ≤ now ∧
        ¬ ClaimRefused attempt payer scope) :
      ClaimOutcome j f payer scope lease now token
        (.ok ⟨newClaim f payer scope token (now + lease), some token⟩)
        ((j.pruned now).put (newClaim f payer scope token (now + lease)))

theorem claimAttempt_outcome (h : j.Sound env) :
    ClaimOutcome j f payer scope lease now token
      (claimAttempt env f payer scope lease now token j).1
      (claimAttempt env f payer scope lease now token j).2 := by
  unfold claimAttempt
  split
  · next hblank => exact .refused _ (.inl hblank)
  · next hblank =>
    simp only [(h.pruned now).read, attempt_pruned]
    cases hstored : j.attempt f with
    | none =>
      refine .granted hblank fun attempt ha => ?_
      rw [hstored] at ha
      cases ha
    | some existing =>
      by_cases hexpired : existing.Expired now
      · simp only [Option.filter_some, hexpired, not_true_eq_false, decide_false]
        refine .granted hblank fun attempt ha hlive => ?_
        rw [hstored] at ha
        cases ha
        exact absurd hexpired hlive
      · simp only [Option.filter_some, hexpired, not_false_eq_true, decide_true, if_true]
        split
        · next hscope => exact .refused _ (.inr ⟨existing, hstored, .inr hscope⟩)
        · next hscope =>
          have hallowed : ¬ ClaimRefused existing payer scope := by
            rintro (hb | hs)
            · exact hblank hb
            · exact hscope hs
          split
          · next hheld => exact .found existing hstored hexpired hallowed hheld
          · next hheld =>
            refine .granted hblank fun attempt ha _ => ?_
            rw [hstored] at ha
            cases ha
            rw [not_or, Bool.not_eq_true, Option.isSome_eq_false_iff, Option.isNone_iff_eq_none,
              not_lt] at hheld
            exact ⟨hheld.1, hheld.2, hallowed⟩

/-- Only the owner of a claim without a payload stores one. -/
inductive PersistOutcome (j : Journal) (f : String) (ownerToken : Option String)
    (payload : PaymentPayload) (identifier : Option String) :
    Except Exc PaymentAttempt → Journal → Prop
  | refused (e : Exc) (reason : ∀ attempt, j.attempt f = some attempt →
      attempt.paymentPayload = none ∧ ownerToken ≠ some attempt.ownerToken) :
      PersistOutcome j f ownerToken payload identifier (.error e) j
  | held (attempt : PaymentAttempt) (stored : j.attempt f = some attempt)
      (held : attempt.paymentPayload.isSome) :
      PersistOutcome j f ownerToken payload identifier (.ok attempt) j
  | persisted (attempt : PaymentAttempt) (stored : j.attempt f = some attempt)
      (free : attempt.paymentPayload = none) (owner : ownerToken = some attempt.ownerToken) :
      PersistOutcome j f ownerToken payload identifier (.ok (attempt.ready payload identifier))
        (j.put (attempt.ready payload identifier))

theorem persistAttemptPayload_outcome {ownerToken identifier : Option String}
    {payload : PaymentPayload} (h : j.Sound env) :
    PersistOutcome j f ownerToken payload identifier
      (persistAttemptPayload env f ownerToken payload identifier j).1
      (persistAttemptPayload env f ownerToken payload identifier j).2 := by
  unfold persistAttemptPayload
  rw [h.read]
  cases hstored : j.attempt f with
  | none =>
    refine .refused _ fun attempt ha => ?_
    rw [hstored] at ha
    cases ha
  | some current =>
    simp only
    split
    · next hheld => exact .held current hstored hheld
    · next hheld =>
      rw [Bool.not_eq_true, Option.isSome_eq_false_iff, Option.isNone_iff_eq_none] at hheld
      split
      · next hother =>
        refine .refused _ fun attempt ha => ?_
        rw [hstored] at ha
        cases ha
        exact ⟨hheld, hother⟩
      · next howner => exact .persisted current hstored hheld (not_not.mp howner)

/-- A release removes nothing but a claim of its caller without a payload. -/
theorem releaseClaim_outcome {ownerToken : Option String} (h : j.Sound env) :
    (releaseClaim env f ownerToken j).2 = j ∨
      ∃ attempt, j.attempt f = some attempt ∧ ownerToken = some attempt.ownerToken ∧
        attempt.paymentPayload = none ∧ (releaseClaim env f ownerToken j).2 = j.pop f := by
  unfold releaseClaim
  cases ownerToken with
  | none => exact .inl rfl
  | some token =>
    simp only [h.read]
    cases hstored : j.attempt f with
    | none => exact .inl rfl
    | some current =>
      simp only
      split
      · next howner => exact .inr ⟨current, rfl, by rw [howner.1], howner.2, rfl⟩
      · exact .inl rfl

/-- The attempt that an outcome leaves for the fingerprint of its receipt. -/
def PaymentAttempt.afterOutcome (attempt : PaymentAttempt) (reuseUntil : ℚ) :
    ReceiptState → Option PaymentAttempt
  | .pending => some { attempt with state := .pending, leaseExpiresAt := 0 }
  | .paid => some { attempt with state := .paid, leaseExpiresAt := reuseUntil }
  | .failed => none

/-- An outcome that is not late acts on the attempt for its fingerprint, whatever
    payload that holds. -/
theorem attempt_recordOutcome {receipt : ReceiptRecord} {reuse : ℚ} (h : j.Sound env) (f : String) :
    (recordOutcome env receipt reuse now j).2.attempt f =
      if ¬ Late receipt j.records ∧ receipt.fingerprint = some f then
        (j.attempt f).bind fun attempt => attempt.afterOutcome (now + reuse) receipt.state
      else j.attempt f := by
  unfold recordOutcome
  by_cases hlate : Late receipt j.records
  · rw [if_pos hlate, if_neg fun hf => hf.1 hlate]
  · rw [if_neg hlate]
    simp only
    cases hfp : receipt.fingerprint with
    | none =>
      rw [if_neg fun hf => by cases hf.2]
      rfl
    | some fingerprint =>
      simp only [h.read, Option.some.injEq, hlate, not_false_eq_true, true_and]
      cases hstored : j.attempt fingerprint with
      | none =>
        by_cases hf : fingerprint = f
        · subst hf
          rw [if_pos rfl, hstored]
          exact hstored
        · rw [if_neg hf]
          rfl
      | some attempt =>
        have hkey := (h fingerprint attempt hstored).1
        by_cases hf : fingerprint = f
        · subst hf
          rw [if_pos rfl, hstored]
          cases receipt.state with
          | pending => simp [Journal.applyOutcome, PaymentAttempt.afterOutcome, hkey]
          | paid => simp [Journal.applyOutcome, PaymentAttempt.afterOutcome, hkey]
          | failed => simp [Journal.applyOutcome, PaymentAttempt.afterOutcome]
        · rw [if_neg hf]
          have hne : f ≠ fingerprint := Ne.symm hf
          cases receipt.state with
          | pending =>
            simp only [Journal.applyOutcome, attempt_put, hkey, if_neg hne]
            rfl
          | paid =>
            simp only [Journal.applyOutcome, attempt_put, hkey, if_neg hne]
            rfl
          | failed =>
            simp only [Journal.applyOutcome, attempt_pop, if_neg hne]
            rfl

theorem Journal.Sound.recordOutcome {receipt : ReceiptRecord} {reuse : ℚ} (h : j.Sound env) :
    (recordOutcome env receipt reuse now j).2.Sound env := by
  intro f attempt ha
  rw [attempt_recordOutcome h] at ha
  split at ha
  · obtain ⟨old, hold, hnew⟩ := Option.bind_eq_some_iff.mp ha
    obtain ⟨hkey, hconsistent⟩ := h f old hold
    cases hstate : receipt.state with
    | pending =>
      rw [hstate] at hnew
      cases hnew
      exact ⟨hkey, hconsistent⟩
    | paid =>
      rw [hstate] at hnew
      cases hnew
      exact ⟨hkey, hconsistent⟩
    | failed =>
      rw [hstate] at hnew
      cases hnew
  · exact h f attempt ha

end Operations

end XrplX402.Payer
