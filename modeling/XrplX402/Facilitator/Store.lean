import XrplX402.Facilitator.Settle

/-! # The shared stores

    Redis commands and the store's script are atomic. A settlement record is
    created by `SET NX`, replaced only by the monotone update script, and does
    not expire here. The node answers as it likes.

    * `world`: what each operation does to the stores.
    * `settleSystem`: any number of settle calls, on any number of facilitator
      instances, over one pair of stores. -/

namespace XrplX402.Facilitator

open Py Interaction

/-! ## Section 1: The stores -/

structure Stores where
  settlements : String → Option XRPLSettlementState
  /-- Hash fields of the payment-identifier cache. -/
  identifiers : String → String → Option Json

def Stores.empty : Stores := ⟨fun _ => none, fun _ _ => none⟩

def Stores.setSettlement (s : Stores) (key : String) (state : XRPLSettlementState) : Stores :=
  { s with settlements := Function.update s.settlements key (some state) }

def Stores.setIdentifier (s : Stores) (key field : String) (value : Json) : Stores :=
  let fields := Function.update (s.identifiers key) field (some value)
  { s with identifiers := Function.update s.identifiers key fields }

@[simp] theorem setSettlement_settlements (s : Stores) (key : String) (state : XRPLSettlementState) :
    (s.setSettlement key state).settlements = Function.update s.settlements key (some state) := rfl

@[simp] theorem setSettlement_identifiers (s : Stores) (key : String) (state : XRPLSettlementState) :
    (s.setSettlement key state).identifiers = s.identifiers := rfl

@[simp] theorem setIdentifier_settlements (s : Stores) (key field : String) (value : Json) :
    (s.setIdentifier key field value).settlements = s.settlements := rfl

/-- The record after the update script has compared the two states. -/
def monotonicUpdate (current candidate : XRPLSettlementState) : XRPLSettlementState :=
  if (current.status = .pending ∧ candidate.status = .pending) ∨
      current.status.rank < candidate.status.rank then candidate
  else current

def storeKey (env : Env) (transaction : String) : String := env.unicode.upperStr transaction

/-! ## Section 2: The world -/

/-- `o` is answered by `expected` and by nothing else. -/
def answered {α : Type} [DecidableEq α] (r expected : α) (s : Stores) : Option Stores :=
  if r = expected then some s else none

def exec (env : Env) (s : Stores) : (o : Op) → Ret o → Option Stores
  | .rpc _, _ => some s
  | .get transaction, r => answered r (s.settlements (storeKey env transaction)) s
  | .reserve state _, r =>
    match s.settlements (storeKey env state.transaction) with
    | some _ => answered r false s
    | none => answered r true (s.setSettlement (storeKey env state.transaction) state)
  | .update state _, _ =>
    match s.settlements (storeKey env state.transaction) with
    | some current =>
      some (s.setSettlement (storeKey env state.transaction) (monotonicUpdate current state))
    | none => some s
  | .hsetnx key field value, r =>
    match s.identifiers key field with
    | some _ => answered r false s
    | none => answered r true (s.setIdentifier key field value)
  | .hget key field, r => answered r (s.identifiers key field) s
  | .hset key field value, _ => some (s.setIdentifier key field value)
  | .expire _, _ => some s
  | .catalogIndex _ _, _ => some s

/-- The answers of the stores, with those of the node given by `node`. -/
def answers (env : Env) (node : RpcRequest → Except Exc Json) (s : Stores) : (o : Op) → Ret o
  | .rpc q => node q
  | .get transaction => s.settlements (storeKey env transaction)
  | .reserve state _ => (s.settlements (storeKey env state.transaction)).isNone
  | .update _ _ => ()
  | .hsetnx key field _ => (s.identifiers key field).isNone
  | .hget key field => s.identifiers key field
  | .hset _ _ _ => ()
  | .expire _ => ()
  | .catalogIndex _ _ => .ok true

/-- The stores never refuse an operation. -/
theorem exec_answers (env : Env) (node : RpcRequest → Except Exc Json) (s : Stores) (o : Op) :
    ∃ t, exec env s o (answers env node s o) = some t := by
  cases o with
  | reserve state ttl =>
    cases h : s.settlements (storeKey env state.transaction) <;>
      simp [exec, answers, answered, h]
  | hsetnx key field value =>
    cases h : s.identifiers key field <;> simp [exec, answers, answered, h]
  | update state ttl =>
    cases h : s.settlements (storeKey env state.transaction) <;> simp [exec, h]
  | _ => simp [exec, answers, answered]

def world (env : Env) : World Op Ret Stores := ⟨exec env⟩

/-- A settle call: the instance that runs it and its two arguments. -/
structure Call (env : Env) where
  facilitator : ExactXRPLFacilitatorScheme env
  pages : Nat
  payload : PaymentPayload
  requirements : PaymentRequirements

variable {ι : Type} {env : Env}

def Call.run (c : Call env) : Service SettleResponse :=
  settle c.facilitator c.pages c.payload c.requirements

def Call.fingerprint (c : Call env) : String := paymentFingerprint env c.payload c.requirements

/-- `c` is about the transaction `hash`, which `blob` encodes. -/
def Call.Pays (c : Call env) (blob hash : String) : Prop :=
  payloadHash env c.payload = .ok (blob, hash)

/-- `c` carries a payload with this transaction hash. -/
def Call.HasHash (c : Call env) (hash : String) : Prop := ∃ blob, c.Pays blob hash

def settleSystem (env : Env) (calls : ι → Call env) :
    System ι Op Ret FacilitatorExc SettleResponse Stores :=
  ⟨world env, fun i => (calls i).run⟩

/-! ## Section 3: What one operation can do -/

@[simp] theorem answered_eq_some {α : Type} [DecidableEq α] {r expected : α} {s t : Stores} :
    answered r expected s = some t ↔ r = expected ∧ t = s := by
  unfold answered
  split
  · next h => simp [h, eq_comm]
  · next h => simp [h]

theorem exec_get {s t : Stores} {transaction : String} {r : Option XRPLSettlementState} :
    exec env s (.get transaction) r = some t ↔
      r = s.settlements (storeKey env transaction) ∧ t = s :=
  answered_eq_some

theorem exec_rpc {s t : Stores} {q : RpcRequest} {r : Except Exc Json} :
    exec env s (.rpc q) r = some t ↔ t = s := by
  simp [exec, eq_comm]

theorem exec_reserve_true {s t : Stores} {state : XRPLSettlementState} {ttl : Int} :
    exec env s (.reserve state ttl) (true : Bool) = some t ↔
      s.settlements (storeKey env state.transaction) = none ∧
        t = s.setSettlement (storeKey env state.transaction) state := by
  cases h : s.settlements (storeKey env state.transaction) <;> simp [exec, h]

theorem exec_reserve_false {s t : Stores} {state : XRPLSettlementState} {ttl : Int} :
    exec env s (.reserve state ttl) (false : Bool) = some t ↔
      (∃ cur, s.settlements (storeKey env state.transaction) = some cur) ∧ t = s := by
  cases h : s.settlements (storeKey env state.transaction) <;> simp [exec, h]

theorem exec_update {s t : Stores} {state : XRPLSettlementState} {ttl : Int} {r : Unit}
    (h : exec env s (.update state ttl) r = some t) :
    (s.settlements (storeKey env state.transaction) = none ∧ t = s) ∨
      ∃ cur, s.settlements (storeKey env state.transaction) = some cur ∧
        t = s.setSettlement (storeKey env state.transaction) (monotonicUpdate cur state) := by
  cases hs : s.settlements (storeKey env state.transaction) with
  | none => exact .inl ⟨rfl, by simpa [exec, hs, eq_comm] using h⟩
  | some cur => exact .inr ⟨cur, rfl, by simpa [exec, hs, eq_comm] using h⟩

/-- Operations that leave the settlement records as they are. -/
def Op.readsSettlements : Op → Bool
  | .reserve _ _ => false
  | .update _ _ => false
  | _ => true

theorem exec_reads {s t : Stores} {o : Op} {r : Ret o} (ho : o.readsSettlements = true)
    (h : exec env s o r = some t) : t.settlements = s.settlements := by
  cases o with
  | reserve state ttl => cases ho
  | update state ttl => cases ho
  | rpc q => rw [exec_rpc.mp h]
  | get transaction => rw [(exec_get.mp h).2]
  | hsetnx key field value =>
    cases hs : s.identifiers key field with
    | none =>
      obtain ⟨-, rfl⟩ : r = true ∧ t = s.setIdentifier key field value := by
        simpa [exec, hs] using h
      rfl
    | some value' =>
      obtain ⟨-, rfl⟩ : r = false ∧ t = s := by simpa [exec, hs] using h
      rfl
  | hget key field => rw [(answered_eq_some.mp h).2]
  | hset key field value =>
    obtain rfl : s.setIdentifier key field value = t := by simpa [exec] using h
    rfl
  | expire key =>
    obtain rfl : s = t := by simpa [exec] using h
    rfl
  | catalogIndex payload requirements =>
    obtain rfl : s = t := by simpa [exec] using h
    rfl

/-! ## Section 4: The update script is monotone -/

section Monotone

variable {cur cand : XRPLSettlementState}

theorem monotonicUpdate_eq (cur cand : XRPLSettlementState) :
    monotonicUpdate cur cand = cur ∨ monotonicUpdate cur cand = cand := by
  unfold monotonicUpdate
  split
  · exact .inr rfl
  · exact .inl rfl

theorem rank_le_monotonicUpdate (cur cand : XRPLSettlementState) :
    cur.status.rank ≤ (monotonicUpdate cur cand).status.rank := by
  unfold monotonicUpdate
  split
  · next h =>
    rcases h with ⟨hcur, -⟩ | hlt
    · rw [hcur]
      exact Nat.zero_le _
    · omega
  · exact le_refl _

/-- The stored record is at least as far as the candidate. -/
theorem candidate_rank_le (cur cand : XRPLSettlementState) :
    cand.status.rank ≤ (monotonicUpdate cur cand).status.rank := by
  unfold monotonicUpdate
  split
  · exact le_refl _
  · next h =>
    have hlt : ¬ cur.status.rank < cand.status.rank := fun hlt => h (.inr hlt)
    omega

theorem samePayment_monotonicUpdate (h : cand.SamePayment cur) :
    cur.SamePayment (monotonicUpdate cur cand) ∧ cand.SamePayment (monotonicUpdate cur cand) := by
  rcases monotonicUpdate_eq cur cand with heq | heq <;> rw [heq]
  · exact ⟨.refl _, h⟩
  · exact ⟨h.symm, .refl _⟩

theorem status_eq_validated_of_rank {st : Status} (h : Status.rank .validated ≤ st.rank) :
    st = .validated := by
  cases st
  · exact absurd h (by decide)
  · exact absurd h (by decide)
  · rfl

end Monotone

end XrplX402.Facilitator
