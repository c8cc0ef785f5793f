import XrplX402.Facilitator.Endpoint
import XrplX402.Interaction.Environment

/-! # Payment identifiers under expiry

    A hash of the payment-identifier cache vanishes at any time after its time
    to live has run out, also between two commands of one call. A settlement
    lies between `get_cached` and `put`, and takes as long as it likes.

    * **`IdentifierCache`**: hashes with deadlines, and the commands on them.
    * **`StoreCall`**: any number of calls of the three methods, by any number
      of requests.
    * **Isolation**: what a request is served, when it is rejected, and what the
      other scopes see of it. -/

namespace XrplX402.Facilitator

open Py Interaction Prog

variable {env : Env}

/-! ## Section 1: Hashes that expire -/

/-- Without a deadline, the hash does not expire. -/
structure IdentifierHash where
  fields : String → Option Json
  deadline : Option Nat

structure IdentifierCache where
  now : Nat
  hashes : String → Option IdentifierHash

namespace IdentifierCache

def empty : IdentifierCache := ⟨0, fun _ => none⟩

def field (s : IdentifierCache) (key field : String) : Option Json :=
  (s.hashes key).bind fun h => h.fields field

/-- The fingerprint that the key is bound to. -/
def binding (s : IdentifierCache) (key : String) : Option Json := s.field key "fingerprint"

/-- A command that writes a field keeps the deadline of the hash. -/
def set (s : IdentifierCache) (key field : String) (value : Json) : IdentifierCache :=
  let h := (s.hashes key).getD ⟨fun _ => none, none⟩
  let fields := Function.update h.fields field (some value)
  { s with hashes := Function.update s.hashes key (some { h with fields := fields }) }

/-- `EXPIRE` does nothing to a key that is not there. -/
def expireIn (s : IdentifierCache) (key : String) (ttlSeconds : Nat) : IdentifierCache :=
  match s.hashes key with
  | some h =>
    let deadline := some (s.now + ttlSeconds)
    { s with hashes := Function.update s.hashes key (some { h with deadline := deadline }) }
  | none => s

def remove (s : IdentifierCache) (key : String) : IdentifierCache :=
  { s with hashes := Function.update s.hashes key none }

variable {s : IdentifierCache} {key key' name name' : String} {value : Json}

theorem field_set : (s.set key name value).field key' name' =
    if key' = key ∧ name' = name then some value else s.field key' name' := by
  unfold field set
  by_cases hkey : key' = key
  · subst hkey
    by_cases hname : name' = name
    · simp [hname]
    · cases hhash : s.hashes key' <;> simp [hname]
  · simp [hkey]

@[simp] theorem field_expireIn {ttlSeconds : Nat} :
    (s.expireIn key ttlSeconds).field key' name = s.field key' name := by
  unfold expireIn
  split
  · next h hhash =>
    unfold field
    by_cases hkey : key' = key
    · subst hkey
      simp [hhash]
    · simp [hkey]
  · rfl

theorem field_remove :
    (s.remove key).field key' name = if key' = key then none else s.field key' name := by
  unfold field remove
  by_cases hkey : key' = key <;> simp [hkey]

theorem hashes_set_of_ne (hkey : key' ≠ key) : (s.set key name value).hashes key' = s.hashes key' := by
  simp [set, hkey]

theorem hashes_expireIn_of_ne {ttlSeconds : Nat} (hkey : key' ≠ key) :
    (s.expireIn key ttlSeconds).hashes key' = s.hashes key' := by
  unfold expireIn
  split
  · simp [hkey]
  · rfl

theorem hashes_remove_of_ne (hkey : key' ≠ key) : (s.remove key).hashes key' = s.hashes key' := by
  simp [remove, hkey]

end IdentifierCache

def execIdentifiers (ttlSeconds : Nat) (s : IdentifierCache) :
    (o : Op) → Ret o → Option IdentifierCache
  | .hsetnx key field value, r =>
    match s.field key field with
    | some _ => if r = false then some s else none
    | none => if r = true then some (s.set key field value) else none
  | .hget key field, r => if r = s.field key field then some s else none
  | .hset key field value, _ => some (s.set key field value)
  | .expire key, _ => some (s.expireIn key ttlSeconds)
  | _, _ => some s

/-- A field is written only where there is none. -/
theorem execIdentifiers_hsetnx {ttlSeconds : Nat} {s t : IdentifierCache} {key field : String}
    {value : Json} {r : Bool} :
    execIdentifiers ttlSeconds s (.hsetnx key field value) r = some t ↔
      ((s.field key field).isSome ∧ r = false ∧ t = s) ∨
        (s.field key field = none ∧ r = true ∧ t = s.set key field value) := by
  show (match s.field key field with
    | some _ => if r = false then some s else none
    | none => if r = true then some (s.set key field value) else none) = some t ↔ _
  cases hfield : s.field key field with
  | some v => simp [eq_comm]
  | none => simp [eq_comm]

/-- What happens to the cache without a command. -/
inductive Passing where
  | wait (seconds : Nat)
  | vanish (key : String)

def happens (s : IdentifierCache) : Passing → Option IdentifierCache
  | .wait seconds => some { s with now := s.now + seconds }
  | .vanish key =>
    match (s.hashes key).bind IdentifierHash.deadline with
    | some deadline => if deadline ≤ s.now then some (s.remove key) else none
    | none => none

theorem happens_vanish {s t : IdentifierCache} {key : String} :
    happens s (.vanish key) = some t ↔ t = s.remove key ∧
      ∃ deadline, (s.hashes key).bind IdentifierHash.deadline = some deadline ∧ deadline ≤ s.now := by
  show (match (s.hashes key).bind IdentifierHash.deadline with
    | some deadline => if deadline ≤ s.now then some (s.remove key) else none
    | none => none) = some t ↔ _
  cases hdeadline : (s.hashes key).bind IdentifierHash.deadline with
  | some deadline =>
    simp only [Option.ite_none_right_eq_some, Option.some.injEq, exists_eq_left']
    exact ⟨fun ⟨hle, heq⟩ => ⟨heq.symm, hle⟩, fun ⟨heq, hle⟩ => ⟨hle, heq.symm⟩⟩
  | none => simp

/-! ## Section 2: Calls -/

/-- What `_key` joins. -/
structure Scope where
  network : String
  payTo : String
  identifier : String
  deriving DecidableEq

def Scope.joined (σ : Scope) : String := σ.network ++ "|" ++ σ.payTo ++ "|" ++ σ.identifier

def Scope.key (env : Env) (σ : Scope) : String :=
  "facilitator:idempotency:" ++ env.sha256Hex σ.joined

inductive StoreMethod where
  | bind
  | getCached (stage : String)
  | put (stage : String) (response : Dict)
  deriving DecidableEq

/-- The field that a method reads or writes. -/
def StoreMethod.stage : StoreMethod → Option String
  | .bind => none
  | .getCached stage => some stage
  | .put stage _ => some stage

/-- One call of a method for a request. -/
structure StoreCall where
  payload : PaymentPayload
  requirements : PaymentRequirements
  method : StoreMethod

namespace StoreCall

def fingerprint (env : Env) (c : StoreCall) : Json := storedFingerprint env c.payload c.requirements

def scope (env : Env) (c : StoreCall) : Option Scope :=
  match PaymentIdentifierStore.identifierOf env c.payload with
  | .ok (some identifier) => some ⟨c.requirements.network, c.requirements.payTo, identifier⟩
  | _ => none

/-- The key that `bind` returns for the request. -/
def key (env : Env) (c : StoreCall) : Option String := (c.scope env).map (Scope.key env)

/-- The call, with the key and the response that it returns. -/
def run (env : Env) (c : StoreCall) : Service (Option String × Option Json) :=
  match c.method with
  | .bind => do
    let key ← PaymentIdentifierStore.bind env c.payload c.requirements
    return (key, none)
  | .getCached stage => PaymentIdentifierStore.getCached env stage c.payload c.requirements
  | .put stage response => do
    PaymentIdentifierStore.put (c.key env) stage response
    return (none, none)

/-- The commands of a call. -/
def Sends (env : Env) (c : StoreCall) : Op → Prop
  | .hsetnx key field value =>
    c.key env = some key ∧ field = "fingerprint" ∧ value = c.fingerprint env
  | .hget key field =>
    c.key env = some key ∧ (field = "fingerprint" ∨ c.method = .getCached field)
  | .hset key field value =>
    c.key env = some key ∧ ∃ response, c.method = .put field response ∧ value = serialized response
  | .expire key => c.key env = some key
  | _ => False

end StoreCall

/-- All calls beside the passing of time. -/
def identifierSystem {ι κ : Type} (env : Env) (ttlSeconds : Nat) (calls : ι → StoreCall)
    (passing : κ → Passing) :
    System (ι ⊕ κ) (Act Op Passing) (Act.Answer Ret) FacilitatorExc (Option String × Option Json)
      IdentifierCache :=
  System.beside ⟨⟨execIdentifiers ttlSeconds⟩, fun i => (calls i).run env⟩ happens passing

/-- The three commands of `bind`, in front of `p`. -/
def whenBound {α : Type} (key : String) (fingerprint : Json) (p : Service α) : Service α :=
  .call (.hsetnx key "fingerprint" fingerprint) fun _ =>
    .call (.hget key "fingerprint") fun existing =>
      if existing ≠ some fingerprint then .raise PaymentIdentifierStore.conflict
      else .call (.expire key) fun _ => p

theorem whenBound_bind {α β : Type} {key : String} {fingerprint : Json} {p : Service α}
    {f : α → Service β} : whenBound key fingerprint p >>= f = whenBound key fingerprint (p >>= f) := by
  refine congrArg (Prog.call _) (funext fun created => ?_)
  refine congrArg (Prog.call _) (funext fun existing => ?_)
  by_cases h : existing ≠ some fingerprint
  · rw [if_pos h]
    exact congrArg (Prog.bind · f) (if_pos h)
  · rw [if_neg h]
    exact congrArg (Prog.bind · f) (if_neg h)

/-- `bind` for a request with an identifier. -/
theorem bind_eq {payload : PaymentPayload} {requirements : PaymentRequirements} {identifier : String}
    (hid : PaymentIdentifierStore.identifierOf env payload = .ok (some identifier)) :
    PaymentIdentifierStore.bind env payload requirements =
      whenBound (PaymentIdentifierStore.key env identifier requirements)
        (storedFingerprint env payload requirements)
        (.ret (some (PaymentIdentifierStore.key env identifier requirements))) := by
  unfold PaymentIdentifierStore.bind check
  rw [hid]
  refine congrArg (Prog.call _) (funext fun created => ?_)
  refine congrArg (Prog.call _) (funext fun existing => ?_)
  by_cases h : existing ≠ some (storedFingerprint env payload requirements)
  · rw [if_pos h]
    exact if_pos h
  · rw [if_neg h]
    exact if_neg h

theorem path_whenBound {α : Type} {key : String} {fingerprint : Json} {p : Service α}
    {t : List (Event Op Ret)} {a : α} (h : Path (whenBound key fingerprint p) t (.ok a)) :
    ∃ t₁ t₂, t = t₁ ++ t₂ ∧ Path p t₂ (.ok a) := by
  obtain ⟨created, t₁, rfl, existing, t₂, rfl, h⟩ := h
  beta_reduce at h
  split at h
  · cases h.2
  · obtain ⟨u, t₃, rfl, h⟩ := h
    exact ⟨[_, _, _], t₃, rfl, h⟩

theorem uses_whenBound {α : Type} {P : Op → Prop} {key : String} {fingerprint : Json}
    {p : Service α} (hsetnx : P (.hsetnx key "fingerprint" fingerprint))
    (hget : P (.hget key "fingerprint")) (hexpire : P (.expire key)) (hp : p.Uses P) :
    (whenBound key fingerprint p).Uses P := by
  refine ⟨hsetnx, fun _ => ⟨hget, fun existing => ?_⟩⟩
  beta_reduce
  split
  · exact uses_raise _
  · exact ⟨hexpire, fun _ => hp⟩

theorem key_of_identifier {c : StoreCall} {identifier : String}
    (hid : PaymentIdentifierStore.identifierOf env c.payload = .ok (some identifier)) :
    c.key env = some (PaymentIdentifierStore.key env identifier c.requirements) := by
  unfold StoreCall.key StoreCall.scope
  rw [hid]
  rfl

theorem key_of_none {c : StoreCall}
    (hid : PaymentIdentifierStore.identifierOf env c.payload = .ok none) : c.key env = none := by
  unfold StoreCall.key StoreCall.scope
  rw [hid]
  rfl

/-- A call with a key has an identifier. -/
theorem identifier_of_key {c : StoreCall} {key : String} (hkey : c.key env = some key) :
    ∃ identifier, PaymentIdentifierStore.identifierOf env c.payload = .ok (some identifier) ∧
      PaymentIdentifierStore.key env identifier c.requirements = key := by
  cases hid : PaymentIdentifierStore.identifierOf env c.payload with
  | error e =>
    unfold StoreCall.key StoreCall.scope at hkey
    rw [hid] at hkey
    cases hkey
  | ok identifier =>
    cases identifier with
    | none =>
      rw [key_of_none hid] at hkey
      cases hkey
    | some identifier =>
      rw [key_of_identifier hid] at hkey
      exact ⟨identifier, rfl, Option.some.inj hkey⟩

/-- Without a key, `bind` sends nothing. -/
theorem bind_of_no_key {c : StoreCall} (hkey : c.key env = none) :
    PaymentIdentifierStore.bind env c.payload c.requirements = .ret none ∨
      ∃ e, PaymentIdentifierStore.bind env c.payload c.requirements = .raise e := by
  unfold PaymentIdentifierStore.bind check
  cases hid : PaymentIdentifierStore.identifierOf env c.payload with
  | error e => exact .inr ⟨e, rfl⟩
  | ok identifier =>
    cases identifier with
    | none => exact .inl rfl
    | some identifier =>
      rw [key_of_identifier hid] at hkey
      cases hkey

/-! ## Section 3: What a call sends -/

section Sends

variable {c : StoreCall} {t : List (Event Op Ret)}

/-- A request without an identifier, or with an invalid one, sends nothing. -/
theorem run_of_no_key (hkey : c.key env = none) :
    c.run env = .ret (none, none) ∨ ∃ e, c.run env = .raise e := by
  unfold StoreCall.run
  -- Without a key a `put` writes nothing, and the two others end at once or raise.
  cases hmethod : c.method with
  | put stage response =>
    rw [hkey]
    exact .inl rfl
  | bind =>
    rcases bind_of_no_key hkey with hret | ⟨e, hraise⟩
    · exact .inl (by rw [hret]; rfl)
    · exact .inr ⟨e, by rw [hraise]; rfl⟩
  | getCached stage =>
    unfold PaymentIdentifierStore.getCached
    rcases bind_of_no_key hkey with hret | ⟨e, hraise⟩
    · exact .inl (by rw [hret]; rfl)
    · exact .inr ⟨e, by rw [hraise]; rfl⟩

/-- The commands of a call with an identifier. -/
theorem run_eq {key : String} (hkey : c.key env = some key) : c.run env =
    match c.method with
    | .bind => whenBound key (c.fingerprint env) (.ret (some key, none))
    | .getCached stage => whenBound key (c.fingerprint env)
        (.call (.hget key stage) fun cached => .ret (some key, cached))
    | .put stage response => .call (.hset key stage (serialized response)) fun _ =>
        .call (.expire key) fun _ => .ret (none, none) := by
  obtain ⟨identifier, hid, rfl⟩ := identifier_of_key hkey
  unfold StoreCall.run
  cases hmethod : c.method with
  | bind =>
    simp only
    rw [bind_eq hid, whenBound_bind]
    rfl
  | getCached stage =>
    simp only
    unfold PaymentIdentifierStore.getCached
    rw [bind_eq hid, whenBound_bind]
    rfl
  | put stage response =>
    simp only
    rw [hkey]
    rfl

theorem uses_run : (c.run env).Uses (c.Sends env) := by
  cases hkey : c.key env with
  | none =>
    -- Nothing is sent before the key is known.
    rcases run_of_no_key hkey with hret | ⟨e, he⟩
    · rw [hret]
      exact uses_ret _
    · rw [he]
      exact uses_raise _
  | some key =>
    rw [run_eq hkey]
    cases hmethod : c.method with
    | bind => exact uses_whenBound ⟨hkey, rfl, rfl⟩ ⟨hkey, .inl rfl⟩ hkey (uses_ret _)
    | getCached stage =>
      apply uses_whenBound ⟨hkey, rfl, rfl⟩ ⟨hkey, .inl rfl⟩ hkey
      exact ⟨⟨hkey, .inr hmethod⟩, fun _ => uses_ret _⟩
    | put stage response =>
      exact ⟨⟨hkey, response, hmethod, rfl⟩, fun _ => ⟨hkey, fun _ => uses_ret _⟩⟩

/-- A check that finds another binding is followed by a conflict. -/
theorem conflict_of_whenBound {α : Type} {own key : String} {fingerprint : Json} {p : Service α}
    {k : Ret (.hget key "fingerprint") → Service α}
    (hp : ∀ t k, ¬ Steps p t (.call (.hget key "fingerprint") k))
    (h : Steps (whenBound own fingerprint p) t (.call (.hget key "fingerprint") k))
    {existing : Option Json} (hother : existing ≠ some fingerprint) :
    k existing = .raise PaymentIdentifierStore.conflict := by
  cases t with
  | nil => cases h
  -- The first two commands are `hsetnx` and `hget`; only the second is in question.
  | cons e₁ t =>
    obtain ⟨created, rfl, h⟩ := h
    cases t with
    | nil =>
      cases h
      exact if_pos hother
    | cons e₂ t =>
      obtain ⟨seen, rfl, h⟩ := h
      beta_reduce at h
      split at h
      · cases t with
        | nil => cases h
        | cons e t => exact h.elim
      -- What follows a passed check does not read the fingerprint again.
      · cases t with
        | nil => cases h
        | cons e₃ t =>
          obtain ⟨u, rfl, h⟩ := h
          exact absurd h (hp t k)

theorem not_steps_ret {α : Type} {a : α} {o : Op} {k : Ret o → Service α} :
    ¬ Steps (.ret a) t (.call o k) := by
  intro h
  cases t with
  | nil => cases h
  | cons e t => exact h

/-- A call that checks another binding ends with a conflict. -/
theorem conflict_of_check {key : String}
    {k : Ret (.hget key "fingerprint") → Service (Option String × Option Json)}
    (hstage : c.method.stage ≠ some "fingerprint")
    (h : Steps (c.run env) t (.call (.hget key "fingerprint") k)) {existing : Option Json}
    (hother : existing ≠ some (c.fingerprint env)) :
    k existing = .raise PaymentIdentifierStore.conflict := by
  cases hkey : c.key env with
  | none =>
    rcases run_of_no_key hkey with hret | ⟨e, he⟩
    · rw [hret] at h
      exact absurd h not_steps_ret
    · rw [he] at h
      cases t with
      | nil => cases h
      | cons e t => exact h.elim
  | some own =>
    rw [run_eq hkey] at h
    cases hmethod : c.method with
    | bind =>
      rw [hmethod] at h
      exact conflict_of_whenBound (fun t k => not_steps_ret) h hother
    | getCached stage =>
      rw [hmethod] at h
      refine conflict_of_whenBound (fun t k hsteps => ?_) h hother
      cases t with
      | nil =>
        -- The last command reads the stage, which has another name.
        cases hsteps
        exact absurd (congrArg StoreMethod.stage hmethod) hstage
      | cons e t =>
        obtain ⟨cached, -, hsteps⟩ := hsteps
        exact not_steps_ret hsteps
    | put stage response =>
      rw [hmethod] at h
      cases t with
      | nil => cases h
      | cons e t =>
        obtain ⟨u, -, h⟩ := h
        cases t with
        | nil => cases h
        | cons e t =>
          obtain ⟨u, -, h⟩ := h
          exact absurd h not_steps_ret

end Sends

/-! ## Section 4: The invariant -/

section Runs

variable {ι κ : Type} {calls : ι → StoreCall} {passing : κ → Passing} {ttlSeconds : Nat}

abbrev IdentifierState (ι κ : Type) := State (ι ⊕ κ) (Act Op Passing) (Act.Answer Ret) IdentifierCache

abbrev IdentifierConfig (ι κ : Type) := Config (ι ⊕ κ) (Act Op Passing) (Act.Answer Ret)
  FacilitatorExc (Option String × Option Json) IdentifierCache

/-- After its check, a call depends on the binding that it has seen: nothing is
    read or kept alive under another one, and nothing is written without it. -/
def WithinBinding (fingerprint : Json) (s : IdentifierCache) : Op → Prop
  | .hget key field =>
    field = "fingerprint" ∨ s.binding key = none ∨ s.binding key = some fingerprint
  | .expire key => s.binding key = none ∨ s.binding key = some fingerprint
  | .hset key _ _ => s.binding key = some fingerprint
  | _ => True

instance (fingerprint : Json) (s : IdentifierCache) (o : Op) :
    Decidable (WithinBinding fingerprint s o) := by
  cases o <;> (unfold WithinBinding; infer_instance)

/-- Each command of a request finds the binding that the request relies on. -/
def InTime (env : Env) (calls : ι → StoreCall) (s : IdentifierState ι κ)
    (e : Entry (ι ⊕ κ) (Act Op Passing) (Act.Answer Ret)) : Prop :=
  match e.who, e.op with
  | .inl i, .op o => WithinBinding ((calls i).fingerprint env) s.shared o
  | _, _ => True

/-- What belongs to a caller: the commands of a call, or the passing of time. -/
def Belongs (env : Env) (calls : ι → StoreCall) (passing : κ → Passing) :
    ι ⊕ κ → Act Op Passing → Prop
  | .inl i, .op o => (calls i).Sends env o
  | .inr j, .event e => e = passing j
  | _, _ => False

/-- Call `j` has put `v` into this field for a request with this fingerprint. -/
structure PutBy (env : Env) (calls : ι → StoreCall)
    (log : List (Entry (ι ⊕ κ) (Act Op Passing) (Act.Answer Ret))) (fingerprint : Json)
    (key field : String) (v : Json) (j : ι) : Prop where
  performed : ⟨⟨.op (.hset key field v), ()⟩, .inl j⟩ ∈ log
  key : (calls j).key env = some key
  fingerprint : (calls j).fingerprint env = fingerprint
  response : ∃ response, (calls j).method = .put field response ∧ v = serialized response

structure IdentifierInvariant (env : Env) (calls : ι → StoreCall) (s : IdentifierState ι κ) :
    Prop where
  /-- Every response belongs to the binding beside it. -/
  fields : ∀ key field v, field ≠ "fingerprint" → s.shared.field key field = some v →
    ∃ j fingerprint, s.shared.binding key = some fingerprint ∧
      PutBy env calls s.log fingerprint key field v j
  /-- Every response that was served had been put for the same fingerprint. -/
  served : ∀ i key field v, field ≠ "fingerprint" →
    ⟨⟨.op (.hget key field), some v⟩, .inl i⟩ ∈ s.log →
    ∃ j, PutBy env calls s.log ((calls i).fingerprint env) key field v j

theorem PutBy.mono {log log' : List (Entry (ι ⊕ κ) (Act Op Passing) (Act.Answer Ret))}
    {fingerprint v : Json} {key field : String} {j : ι}
    (h : PutBy env calls log fingerprint key field v j) (hlog : log ⊆ log') :
    PutBy env calls log' fingerprint key field v j :=
  ⟨hlog h.performed, h.key, h.fingerprint, h.response⟩

/-- A step that shows no response keeps what has been served. -/
theorem IdentifierInvariant.served_push {s : IdentifierState ι κ} {a : ι ⊕ κ} {o : Act Op Passing}
    {r : Act.Answer Ret o} {t : IdentifierCache} (h : IdentifierInvariant env calls s)
    (hnew : ∀ i key field v, field ≠ "fingerprint" →
      (⟨⟨o, r⟩, a⟩ : Entry (ι ⊕ κ) _ _) = ⟨⟨.op (.hget key field), some v⟩, .inl i⟩ →
      ∃ j, PutBy env calls s.log ((calls i).fingerprint env) key field v j) :
    ∀ i key field v, field ≠ "fingerprint" →
      ⟨⟨.op (.hget key field), some v⟩, .inl i⟩ ∈ (s.push a o r t).log →
      ∃ j, PutBy env calls (s.push a o r t).log ((calls i).fingerprint env) key field v j := by
  intro i key field v hfield hmem
  have hput : ∃ j, PutBy env calls s.log ((calls i).fingerprint env) key field v j := by
    rcases List.mem_cons.mp hmem with heq | hmem
    · exact hnew i key field v hfield heq.symm
    · exact h.served i key field v hfield hmem
  obtain ⟨j, hj⟩ := hput
  exact ⟨j, hj.mono (List.subset_cons_self _ _)⟩

/-- A step that removes responses at most, and bindings only with them. -/
theorem IdentifierInvariant.fields_push {s : IdentifierState ι κ} {a : ι ⊕ κ} {o : Act Op Passing}
    {r : Act.Answer Ret o} {t : IdentifierCache} (h : IdentifierInvariant env calls s)
    (hkept : ∀ key field v, field ≠ "fingerprint" → t.field key field = some v →
      s.shared.field key field = some v ∧ ∀ fingerprint, s.shared.binding key = some fingerprint →
        t.binding key = some fingerprint) :
    ∀ key field v, field ≠ "fingerprint" → (s.push a o r t).shared.field key field = some v →
      ∃ j fingerprint, (s.push a o r t).shared.binding key = some fingerprint ∧
        PutBy env calls (s.push a o r t).log fingerprint key field v j := by
  intro key field v hfield hv
  obtain ⟨hold, hbinding⟩ := hkept key field v hfield hv
  obtain ⟨j, fingerprint, hbound, hput⟩ := h.fields key field v hfield hold
  exact ⟨j, fingerprint, hbinding _ hbound, hput.mono (List.subset_cons_self _ _)⟩

/-- A command of a call. -/
theorem IdentifierInvariant.command {s : IdentifierState ι κ} {i : ι} {o : Op} {r : Ret o}
    {t : IdentifierCache} (hstages : ∀ i, (calls i).method.stage ≠ some "fingerprint")
    (h : IdentifierInvariant env calls s) (hx : execIdentifiers ttlSeconds s.shared o r = some t)
    (hin : WithinBinding ((calls i).fingerprint env) s.shared o) (hsends : (calls i).Sends env o) :
    IdentifierInvariant env calls (s.push (.inl i) (.op o) r t) := by
  cases o with
  | hsetnx key field value =>
    obtain ⟨hkey, rfl, rfl⟩ := hsends
    refine ⟨h.fields_push fun k f v hf hv => ?_, h.served_push fun i' k f v _ heq => by cases heq⟩
    rcases execIdentifiers_hsetnx.mp hx with ⟨-, -, rfl⟩ | ⟨hbound, -, rfl⟩
    · exact ⟨hv, fun _ hfp => hfp⟩
    · -- A hash without a binding has no responses.
      rw [IdentifierCache.field_set, if_neg (fun hboth => hf hboth.2)] at hv
      refine ⟨hv, fun fingerprint hfp => ?_⟩
      have hk : k ≠ key := by
        rintro rfl
        rw [IdentifierCache.binding, hbound] at hfp
        cases hfp
      rw [IdentifierCache.binding, IdentifierCache.field_set, if_neg (fun hboth => hk hboth.1)]
      exact hfp
  | hget key field =>
    obtain ⟨hr, hst⟩ := Option.ite_none_right_eq_some.mp hx
    obtain rfl : s.shared = t := Option.some.inj hst
    refine ⟨h.fields_push fun k f v hf hv => ⟨hv, fun _ hfp => hfp⟩, ?_⟩
    apply h.served_push
    intro i' k f v hf heq
    cases heq
    obtain ⟨j, fingerprint, hbound, hput⟩ := h.fields key field v hf hr.symm
    -- The caller has read its own binding, since it got past the check.
    have hown : fingerprint = (calls i).fingerprint env := by
      rcases hin with hname | hnone | hown
      · exact absurd hname hf
      · rw [hnone] at hbound
        cases hbound
      · exact Option.some.inj (hbound.symm.trans hown)
    exact ⟨j, hown ▸ hput⟩
  -- A response is written by the caller whose fingerprint is bound.
  | hset key field value =>
    obtain ⟨hkey, response, hmethod, rfl⟩ := hsends
    obtain rfl : s.shared.set key field (serialized response) = t := Option.some.inj hx
    have hstage : field ≠ "fingerprint" := by
      rintro rfl
      exact hstages i (congrArg StoreMethod.stage hmethod)
    have hbinding : ∀ k, (s.shared.set key field (serialized response)).binding k =
        s.shared.binding k := by
      intro k
      exact IdentifierCache.field_set.trans (if_neg fun hboth => hstage hboth.2.symm)
    refine ⟨fun k f v hf hv => ?_, h.served_push fun i' k f v _ heq => by cases heq⟩
    rw [State.push_shared, IdentifierCache.field_set] at hv
    split at hv
    · next hboth =>
      obtain ⟨rfl, rfl⟩ := hboth
      obtain rfl := Option.some.inj hv
      refine ⟨i, _, (hbinding k).trans hin, List.mem_cons_self, hkey, rfl, response, hmethod, rfl⟩
    · obtain ⟨j, fingerprint, hbound, hput⟩ := h.fields k f v hf hv
      exact ⟨j, fingerprint, (hbinding k).trans hbound, hput.mono (List.subset_cons_self _ _)⟩
  -- An expiry set anew changes no field.
  | expire key =>
    obtain rfl : s.shared.expireIn key ttlSeconds = t := Option.some.inj hx
    refine ⟨h.fields_push fun k f v hf hv => ?_, h.served_push fun i' k f v _ heq => by cases heq⟩
    rw [IdentifierCache.field_expireIn] at hv
    exact ⟨hv, fun _ hfp => IdentifierCache.field_expireIn.trans hfp⟩
  | _ => exact hsends.elim

/-- Time passes, or a hash vanishes with all its fields. -/
theorem IdentifierInvariant.event {s : IdentifierState ι κ} {a : κ} {e : Passing}
    {t : IdentifierCache} (h : IdentifierInvariant env calls s) (hx : happens s.shared e = some t) :
    IdentifierInvariant env calls (s.push (.inr a) (.event e) () t) := by
  refine ⟨h.fields_push fun k f v hf hv => ?_, h.served_push fun i k f v _ heq => by cases heq⟩
  cases e with
  | wait seconds =>
    obtain rfl : { s.shared with now := s.shared.now + seconds } = t := Option.some.inj hx
    exact ⟨hv, fun _ hfp => hfp⟩
  | vanish key =>
    obtain ⟨rfl, -⟩ := happens_vanish.mp hx
    rw [IdentifierCache.field_remove] at hv
    split at hv
    · cases hv
    · next hk =>
      refine ⟨hv, fun fingerprint hfp => ?_⟩
      rw [IdentifierCache.binding, IdentifierCache.field_remove, if_neg hk]
      exact hfp

theorem identifierInvariant_init : IdentifierInvariant env calls (⟨.empty, []⟩ : IdentifierState ι κ) where
  fields key field v _ hv := by cases hv
  served i key field v _ hmem := by cases hmem

/-! ## Section 5: Isolation -/

/-- Requests in different scopes join to different texts. -/
def Separated (env : Env) (calls : ι → StoreCall) : Prop :=
  ∀ i j σ τ, (calls i).scope env = some σ → (calls j).scope env = some τ → σ.joined = τ.joined → σ = τ

/-- Scopes are separated when no network and no payee contains the separator. -/
theorem separated_of_no_bar (h : ∀ i σ, (calls i).scope env = some σ →
    '|' ∉ σ.network.toList ∧ '|' ∉ σ.payTo.toList) : Separated env calls := by
  intro i j σ τ hσ hτ hjoined
  have hlist : σ.network.toList ++ '|' :: (σ.payTo.toList ++ '|' :: σ.identifier.toList) =
      τ.network.toList ++ '|' :: (τ.payTo.toList ++ '|' :: τ.identifier.toList) := by
    have htexts := congrArg String.toList hjoined
    simpa [Scope.joined, String.toList_append] using htexts
  obtain ⟨hnetwork, hrest⟩ := eq_of_append_cons (h i σ hσ).1 (h j τ hτ).1 hlist
  obtain ⟨hpayTo, hidentifier⟩ := eq_of_append_cons (h i σ hσ).2 (h j τ hτ).2 hrest
  cases σ
  cases τ
  simp only [Scope.mk.injEq]
  exact ⟨String.toList_injective hnetwork, String.toList_injective hpayTo,
    String.toList_injective hidentifier⟩

/-- The calls in one scope, and what can happen to their hash. -/
def Concerns (env : Env) (calls : ι → StoreCall) (passing : κ → Passing) (σ : Scope) : ι ⊕ κ → Prop
  | .inl i => (calls i).scope env = some σ
  | .inr j =>
    match passing j with
    | .wait _ => True
    | .vanish key => key = σ.key env

theorem uses_belongs (a : ι ⊕ κ) : ((identifierSystem env ttlSeconds calls passing).prog a).Uses
    (Belongs env calls passing a) := by
  cases a with
  | inl i => exact uses_run.acts fun _ ho => ho
  | inr j => exact ⟨rfl, fun _ => uses_spin⟩

theorem scope_of_key {i : ι} {key : String} (hkey : (calls i).key env = some key) :
    ∃ σ, (calls i).scope env = some σ ∧ σ.key env = key :=
  Option.map_eq_some_iff.mp hkey

theorem joined_of_key (hinj : Function.Injective env.sha256) {σ τ : Scope}
    (h : σ.key env = τ.key env) : σ.joined = τ.joined := by
  unfold Scope.key at h
  have hdigest : env.sha256Hex σ.joined = env.sha256Hex τ.joined := by
    have hlist := congrArg String.toList h
    simp only [String.toList_append] at hlist
    exact String.toList_injective (List.append_cancel_left hlist)
  exact encodeUtf8_injective (hinj (hexdigest_injective hdigest))

/-- Two caches that agree about one hash, and about the time. -/
def AgreeOn (key : String) (s s' : IdentifierCache) : Prop :=
  s'.now = s.now ∧ s'.hashes key = s.hashes key

/-- A command on one hash depends on this hash only. -/
theorem exec_of_agreeOn {call : StoreCall} {key : String} {s s' t : IdentifierCache} {o : Op} {r : Ret o}
    (hkey : call.key env = some key) (hsends : call.Sends env o) (hagree : AgreeOn key s s')
    (hx : execIdentifiers ttlSeconds s o r = some t) :
    ∃ t', execIdentifiers ttlSeconds s' o r = some t' ∧ AgreeOn key t t' := by
  obtain ⟨hnow, hhash⟩ := hagree
  have hfield : ∀ name, s'.field key name = s.field key name := by
    intro name
    unfold IdentifierCache.field
    rw [hhash]
  have hset : ∀ name value, AgreeOn key (s.set key name value) (s'.set key name value) := by
    intro name value
    refine ⟨hnow, ?_⟩
    unfold IdentifierCache.set
    simp only [Function.update_self, hhash]
  cases o with
  | hsetnx k name value =>
    obtain ⟨hk, -, -⟩ := hsends
    obtain rfl : key = k := Option.some.inj (hkey.symm.trans hk)
    rcases execIdentifiers_hsetnx.mp hx with ⟨hsome, hr, rfl⟩ | ⟨hnone, hr, rfl⟩
    · exact ⟨s', execIdentifiers_hsetnx.mpr (.inl ⟨by rwa [hfield], hr, rfl⟩), hnow, hhash⟩
    · refine ⟨s'.set key name value, ?_, hset name value⟩
      exact execIdentifiers_hsetnx.mpr (.inr ⟨by rwa [hfield], hr, rfl⟩)
  | hget k name =>
    obtain ⟨hk, -⟩ := hsends
    obtain rfl : key = k := Option.some.inj (hkey.symm.trans hk)
    obtain ⟨hr, hst⟩ := Option.ite_none_right_eq_some.mp hx
    obtain rfl : s = t := Option.some.inj hst
    exact ⟨s', if_pos (hr.trans (hfield name).symm), hnow, hhash⟩
  | hset k name value =>
    obtain ⟨hk, -⟩ := hsends
    obtain rfl : key = k := Option.some.inj (hkey.symm.trans hk)
    obtain rfl : s.set key name value = t := Option.some.inj hx
    exact ⟨_, rfl, hset name value⟩
  | expire k =>
    obtain rfl : key = k := Option.some.inj (hkey.symm.trans hsends)
    obtain rfl : s.expireIn key ttlSeconds = t := Option.some.inj hx
    refine ⟨_, rfl, ?_⟩
    unfold AgreeOn IdentifierCache.expireIn
    rw [hhash, hnow]
    cases s.hashes key <;> simp [hnow, hhash]
  | _ => exact hsends.elim

/-- A command on another hash does not show. -/
theorem agreeOn_of_other {call : StoreCall} {key own : String} {s s' t : IdentifierCache} {o : Op}
    {r : Ret o} (hown : call.key env = some own) (hne : key ≠ own) (hsends : call.Sends env o)
    (hagree : AgreeOn key s s') (hx : execIdentifiers ttlSeconds s o r = some t) :
    AgreeOn key t s' := by
  have hkeys : ∀ {k}, call.key env = some k → key ≠ k := by
    intro k hk heq
    rw [hown] at hk
    exact hne (heq.trans (Option.some.inj hk).symm)
  have hsame : t.now = s.now ∧ t.hashes key = s.hashes key := by
    cases o with
    | hsetnx k name value =>
      rcases execIdentifiers_hsetnx.mp hx with ⟨-, -, rfl⟩ | ⟨-, -, rfl⟩
      · exact ⟨rfl, rfl⟩
      · exact ⟨rfl, IdentifierCache.hashes_set_of_ne (hkeys hsends.1)⟩
    | hget k name =>
      obtain rfl : s = t := Option.some.inj (Option.ite_none_right_eq_some.mp hx).2
      exact ⟨rfl, rfl⟩
    | hset k name value =>
      obtain rfl : s.set k name value = t := Option.some.inj hx
      exact ⟨rfl, IdentifierCache.hashes_set_of_ne (hkeys hsends.1)⟩
    | expire k =>
      obtain rfl : s.expireIn k ttlSeconds = t := Option.some.inj hx
      refine ⟨?_, IdentifierCache.hashes_expireIn_of_ne (hkeys hsends)⟩
      unfold IdentifierCache.expireIn
      split <;> rfl
    | _ => exact hsends.elim
  exact ⟨hagree.1.trans hsame.1.symm, hagree.2.trans hsame.2.symm⟩

/-- Time passes for both, and the hash can vanish from both. -/
theorem happens_of_agreeOn {key : String} {s s' t : IdentifierCache} {e : Passing}
    (he : ∀ k, e = .vanish k → k = key) (hagree : AgreeOn key s s') (hx : happens s e = some t) :
    ∃ t', happens s' e = some t' ∧ AgreeOn key t t' := by
  obtain ⟨hnow, hhash⟩ := hagree
  cases e with
  | wait seconds =>
    obtain rfl : { s with now := s.now + seconds } = t := Option.some.inj hx
    refine ⟨_, rfl, ?_, hhash⟩
    show s'.now + seconds = s.now + seconds
    rw [hnow]
  | vanish k =>
    obtain rfl := he k rfl
    obtain ⟨rfl, deadline, hdeadline, hle⟩ := happens_vanish.mp hx
    refine ⟨s'.remove k, happens_vanish.mpr ⟨rfl, deadline, ?_, hnow ▸ hle⟩, hnow, ?_⟩
    · rwa [hhash]
    · simp [IdentifierCache.remove]

theorem key_of_sends {call : StoreCall} {o : Op} (h : call.Sends env o) :
    ∃ key, call.key env = some key := by
  cases o with
  | hsetnx key name value => exact ⟨key, h.1⟩
  | hget key name => exact ⟨key, h.1⟩
  | hset key name value => exact ⟨key, h.1⟩
  | expire key => exact ⟨key, h⟩
  | _ => exact h.elim

section Isolation

variable [DecidableEq ι] [DecidableEq κ]

structure Isolated (env : Env) (ttlSeconds : Nat) (calls : ι → StoreCall) (passing : κ → Passing)
    (allowed : IdentifierState ι κ → Entry (ι ⊕ κ) (Act Op Passing) (Act.Answer Ret) → Prop)
    (c : IdentifierConfig ι κ) : Prop where
  /-- A cached response was put by a request with the same fingerprint, in the
      same scope. -/
  served : ∀ i stage key v, (calls i).method = .getCached stage →
    c.threads (.inl i) = some (.ret (key, some v)) →
    ∃ j response, (calls j).method = .put stage response ∧ v = serialized response ∧
      (∃ key, ⟨⟨.op (.hset key stage v), ()⟩, .inl j⟩ ∈ c.state.log) ∧
      (calls j).fingerprint env = (calls i).fingerprint env ∧
      (calls j).scope env = (calls i).scope env
  /-- While another fingerprint is bound, a request changes nothing, and its
      check ends with a conflict. -/
  rejected : ∀ i key bound o k r t, (calls i).key env = some key →
    c.state.shared.binding key = some bound → bound ≠ (calls i).fingerprint env →
    c.threads (.inl i) = some (.call (.op o) k) →
    execIdentifiers ttlSeconds c.state.shared o r = some t →
    allowed c.state ⟨⟨.op o, r⟩, .inl i⟩ →
    t = c.state.shared ∧
      (o = .hget key "fingerprint" → k r = .raise PaymentIdentifierStore.conflict)
  /-- Without the other scopes, the run is the same for a scope. -/
  unaffected : ∀ i σ, (calls i).scope env = some σ →
    ∃ c', Run (identifierSystem env ttlSeconds calls passing)
        (fun _ e => Concerns env calls passing σ e.who) (Config.init .empty) c' ∧
      c'.state.shared.hashes (σ.key env) = c.state.shared.hashes (σ.key env) ∧
      ∀ a, Concerns env calls passing σ a → c'.threads a = c.threads a

variable {c : IdentifierConfig ι κ}
variable {allowed : IdentifierState ι κ → Entry (ι ⊕ κ) (Act Op Passing) (Act.Answer Ret) → Prop}

theorem identifierInvariant_run (hstages : ∀ i, (calls i).method.stage ≠ some "fingerprint")
    (h : Run (identifierSystem env ttlSeconds calls passing) (InTime env calls)
      (Config.init .empty) c) : IdentifierInvariant env calls c.state := by
  obtain ⟨hrun, -⟩ := h.footprint uses_belongs fun _ _ hp => by cases hp
  refine hrun.keep (I := IdentifierInvariant env calls) ?_ identifierInvariant_init
  intro s a o r t hs hx ha
  cases a with
  | inl i =>
    cases o with
    | op o => exact hs.command hstages hx ha.1 ha.2
    | event e => exact ha.2.elim
  | inr j =>
    cases o with
    | op o => exact ha.2.elim
    | event e => exact hs.event hx

/-- What `get_cached` returned was read from the hash of the request. -/
theorem read_of_served {i : ι} {stage : String} {key : Option String} {v : Json}
    (h : Run (identifierSystem env ttlSeconds calls passing) allowed (Config.init .empty) c)
    (hmethod : (calls i).method = .getCached stage)
    (hend : c.threads (.inl i) = some (.ret (key, some v))) :
    ∃ own, (calls i).key env = some own ∧
      ⟨⟨.op (.hget own stage), some v⟩, .inl i⟩ ∈ c.state.log := by
  have hpath : Path ((calls i).run env |>.acts Passing) (own (.inl i) c.state.log)
      (.ok (key, some v)) := h.own_path hend ⟨rfl, rfl⟩
  obtain ⟨t, ht, hown⟩ := path_acts hpath
  cases hkey : (calls i).key env with
  | none =>
    rcases run_of_no_key hkey with hret | ⟨e, hraise⟩
    · rw [hret] at ht
      cases ht.2
    · rw [hraise] at ht
      cases ht.2
  | some ownKey =>
    rw [run_eq hkey, hmethod] at ht
    obtain ⟨t₁, t₂, rfl, cached, t₃, rfl, hlast⟩ := path_whenBound ht
    refine ⟨ownKey, rfl, mem_own.mp ?_⟩
    have hv : some v = cached := congrArg Prod.snd (Except.ok.inj hlast.2)
    rw [hown, hv]
    simp [Event.act]

/-- A command while another fingerprint is bound. -/
theorem rejected_of_run (hstages : ∀ i, (calls i).method.stage ≠ some "fingerprint")
    (h : Run (identifierSystem env ttlSeconds calls passing) allowed (Config.init .empty) c)
    {i : ι} {key : String} {bound : Json} {o : Op}
    {k : Act.Answer Ret (.op o : Act Op Passing) →
      Prog (Act Op Passing) (Act.Answer Ret) FacilitatorExc (Option String × Option Json)}
    {r : Ret o} {t : IdentifierCache} (hkey : (calls i).key env = some key)
    (hbound : c.state.shared.binding key = some bound) (hother : bound ≠ (calls i).fingerprint env)
    (hthread : c.threads (.inl i) = some (.call (.op o) k))
    (hx : execIdentifiers ttlSeconds c.state.shared o r = some t)
    (hin : WithinBinding ((calls i).fingerprint env) c.state.shared o) :
    t = c.state.shared ∧
      (o = .hget key "fingerprint" → k r = .raise PaymentIdentifierStore.conflict) := by
  have hsteps := h.own_steps (.inl i)
  rw [hthread] at hsteps
  obtain ⟨past, q, hpast, -, hq⟩ := steps_acts hsteps
  cases q with
  | call o' k' =>
    cases hq
    have hsends : (calls i).Sends env o := by
      have hlast := hpast.snoc r
      exact uses_run.of_steps hlast ⟨o, r⟩ (by simp)
    cases o with
    | hsetnx own name value =>
      obtain ⟨hown, rfl, -⟩ := hsends
      obtain rfl : key = own := Option.some.inj (hkey.symm.trans hown)
      rcases execIdentifiers_hsetnx.mp hx with ⟨-, -, ht⟩ | ⟨hnone, -, -⟩
      · exact ⟨ht, fun heq => by cases heq⟩
      · rw [IdentifierCache.binding, hnone] at hbound
        cases hbound
    | hget own name =>
      obtain ⟨hr, hst⟩ := Option.ite_none_right_eq_some.mp hx
      refine ⟨(Option.some.inj hst).symm, fun heq => ?_⟩
      cases heq
      have hseen : r ≠ some ((calls i).fingerprint env) := by
        rw [hr, ← IdentifierCache.binding, hbound]
        exact fun heq => hother (Option.some.inj heq)
      exact congrArg (Prog.acts Passing) (conflict_of_check (hstages i) hpast hseen)
    | hset own name value =>
      obtain ⟨hown, -⟩ := hsends
      obtain rfl : key = own := Option.some.inj (hkey.symm.trans hown)
      exact absurd (Option.some.inj (hbound.symm.trans hin)) hother
    | expire own =>
      obtain rfl : key = own := Option.some.inj (hkey.symm.trans hsends)
      rcases hin with hnone | hown
      · rw [hnone] at hbound
        cases hbound
      · exact absurd (Option.some.inj (hbound.symm.trans hown)) hother
    | _ => exact hsends.elim
  | ret a => cases hq
  | raise e => cases hq
  | spin => cases hq

/-- A run without the other scopes. -/
theorem unaffected_of_run (hinj : Function.Injective env.sha256) (hseparated : Separated env calls)
    (h : Run (identifierSystem env ttlSeconds calls passing) allowed (Config.init .empty) c)
    {i : ι} {σ : Scope} (hσ : (calls i).scope env = some σ) :
    ∃ c', Run (identifierSystem env ttlSeconds calls passing)
        (fun _ e => Concerns env calls passing σ e.who) (Config.init .empty) c' ∧
      c'.state.shared.hashes (σ.key env) = c.state.shared.hashes (σ.key env) ∧
      ∀ a, Concerns env calls passing σ a → c'.threads a = c.threads a := by
  -- Two scopes of this run with one key are one scope.
  have hkey : ∀ j own, (calls j).key env = some own → σ.key env = own →
      (calls j).scope env = some σ := by
    intro j own hown heq
    obtain ⟨τ, hτ, rfl⟩ := scope_of_key hown
    rw [hτ, hseparated i j σ τ hσ hτ (joined_of_key hinj heq)]
  have hpart : ∀ {s s' : IdentifierCache} {a : ι ⊕ κ} {o : Act Op Passing} {r : Act.Answer Ret o}
      {t : IdentifierCache}, AgreeOn (σ.key env) s s' → Concerns env calls passing σ a →
      Belongs env calls passing a o →
      (identifierSystem env ttlSeconds calls passing).world.exec s o r = some t →
      ∃ t', (identifierSystem env ttlSeconds calls passing).world.exec s' o r = some t' ∧
        AgreeOn (σ.key env) t t' := by
    intro s s' a o r t hagree hconcerns hbelongs hx
    cases a with
    | inl j =>
      cases o with
      | op o =>
        have hown : (calls j).key env = some (σ.key env) := Option.map_eq_some_iff.mpr ⟨σ, hconcerns, rfl⟩
        exact exec_of_agreeOn hown hbelongs hagree hx
      | event e => exact hbelongs.elim
    | inr j =>
      cases o with
      | op o => exact hbelongs.elim
      | event e =>
        refine happens_of_agreeOn (fun k hk => ?_) hagree hx
        have hevent : passing j = .vanish k := (show e = passing j from hbelongs).symm.trans hk
        simpa only [Concerns, hevent] using hconcerns
  have hothers : ∀ {s s' : IdentifierCache} {a : ι ⊕ κ} {o : Act Op Passing} {r : Act.Answer Ret o}
      {t : IdentifierCache}, AgreeOn (σ.key env) s s' → ¬ Concerns env calls passing σ a →
      Belongs env calls passing a o →
      (identifierSystem env ttlSeconds calls passing).world.exec s o r = some t →
      AgreeOn (σ.key env) t s' := by
    intro s s' a o r t hagree hconcerns hbelongs hx
    cases a with
    | inl j =>
      cases o with
      | op o =>
        obtain ⟨own, hown⟩ := key_of_sends hbelongs
        have hne : σ.key env ≠ own := fun heq => hconcerns (hkey j own hown heq)
        exact agreeOn_of_other hown hne hbelongs hagree hx
      | event e => exact hbelongs.elim
    | inr j =>
      cases o with
      | op o => exact hbelongs.elim
      | event e =>
        have hevent : e = passing j := hbelongs
        cases e with
        | wait seconds =>
          apply absurd _ hconcerns
          simp only [Concerns, ← hevent]
        | vanish k =>
          have hne : σ.key env ≠ k := by
            intro heq
            apply hconcerns
            simp only [Concerns, ← hevent, heq]
          obtain ⟨rfl, -⟩ := happens_vanish.mp hx
          exact ⟨hagree.1, hagree.2.trans (IdentifierCache.hashes_remove_of_ne hne).symm⟩
  obtain ⟨c', hrun', hagree, hthreads⟩ := h.restrict hpart hothers uses_belongs ⟨rfl, rfl⟩
  exact ⟨c', hrun', hagree.2, hthreads⟩

/-- In every run whose commands find the binding that they rely on, with scopes
    that join to different texts, the scopes are isolated. -/
theorem identifiers_isolated_in_time (ttlSeconds : Nat) (calls : ι → StoreCall)
    (passing : κ → Passing) (c : IdentifierConfig ι κ) (hinj : Function.Injective env.sha256)
    (hstages : ∀ i, (calls i).method.stage ≠ some "fingerprint") (hseparated : Separated env calls)
    (h : Run (identifierSystem env ttlSeconds calls passing) (InTime env calls)
      (Config.init .empty) c) :
    Isolated env ttlSeconds calls passing (InTime env calls) c := by
  refine ⟨fun i stage key v hmethod hend => ?_, fun i key bound o k r t => ?_, fun i σ hσ => ?_⟩
  · obtain ⟨own, hown, hread⟩ := read_of_served h hmethod hend
    have hstage : stage ≠ "fingerprint" := by
      rintro rfl
      exact hstages i (congrArg StoreMethod.stage hmethod)
    obtain ⟨j, hj⟩ := (identifierInvariant_run hstages h).served i own stage v hstage hread
    obtain ⟨response, hput, hv⟩ := hj.response
    obtain ⟨σ, hσ, hσkey⟩ := scope_of_key hown
    obtain ⟨τ, hτ, hτkey⟩ := scope_of_key hj.key
    have hscope : τ = σ := hseparated j i τ σ hτ hσ (joined_of_key hinj (hτkey.trans hσkey.symm))
    exact ⟨j, response, hput, hv, ⟨own, hj.performed⟩, hj.fingerprint, by rw [hσ, hτ, hscope]⟩
  · exact fun hkey hbound hother hthread hx hin =>
      rejected_of_run hstages h hkey hbound hother hthread hx hin
  · exact unaffected_of_run hinj hseparated h hσ

end Isolation

/-! ## Section 6: Calls without interruption -/

section Uninterrupted

variable [DecidableEq ι] [DecidableEq κ] {c : IdentifierConfig ι κ}
variable {allowed : IdentifierState ι κ → Entry (ι ⊕ κ) (Act Op Passing) (Act.Answer Ret) → Prop}
variable {ok : IdentifierCache → Entry (ι ⊕ κ) (Act Op Passing) (Act.Answer Ret) → Prop}

/-- What an uninterrupted call leaves behind. -/
structure After (env : Env) (ttlSeconds : Nat) (calls : ι → StoreCall) (passing : κ → Passing)
    (allowed : IdentifierState ι κ → Entry (ι ⊕ κ) (Act Op Passing) (Act.Answer Ret) → Prop)
    (c c' : IdentifierConfig ι κ) (a : ι ⊕ κ) : Prop where
  run : Run (identifierSystem env ttlSeconds calls passing) allowed (Config.init .empty) c'
  others : ∀ b, b ≠ a → c'.threads b = c.threads b

/-- The commands of a successful `bind`. -/
def bindEvents (key : String) (fingerprint : Json) (created : Bool) : List (Event Op Ret) :=
  [⟨.hsetnx key "fingerprint" fingerprint, created⟩, ⟨.hget key "fingerprint", some fingerprint⟩,
    ⟨.expire key, ()⟩]

/-- The commands of a successful `get_cached`. -/
def cachedEvents (key : String) (fingerprint : Json) (created : Bool) (stage : String)
    (cached : Option Json) : List (Event Op Ret) :=
  bindEvents key fingerprint created ++ [⟨.hget key stage, cached⟩]

theorem steps_whenBound {α : Type} {key : String} {fingerprint : Json} {created : Bool}
    {p q : Service α} {t : List (Event Op Ret)} (h : Steps p t q) :
    Steps (whenBound key fingerprint p) (bindEvents key fingerprint created ++ t) q := by
  refine ⟨created, rfl, some fingerprint, rfl, ?_⟩
  beta_reduce
  rw [if_neg (not_not.mpr rfl)]
  exact ⟨(), rfl, h⟩

/-- `get_cached` without interruption. -/
theorem after_getCached {i : ι} {key stage : String} (hok : ∀ s e, ok s.shared e → allowed s e)
    (howns : ∀ s o r, WithinBinding ((calls i).fingerprint env) s o → ok s ⟨⟨.op o, r⟩, .inl i⟩)
    (h : Run (identifierSystem env ttlSeconds calls passing) allowed (Config.init .empty) c)
    (hi : c.threads (.inl i) = none) (hkey : (calls i).key env = some key)
    (hmethod : (calls i).method = .getCached stage) (hstage : stage ≠ "fingerprint")
    (hbinding : c.state.shared.binding key = none ∨
      c.state.shared.binding key = some ((calls i).fingerprint env)) :
    ∃ c', After env ttlSeconds calls passing allowed c c' (.inl i) ∧
      c'.threads (.inl i) = some (.ret (some key, c.state.shared.field key stage)) ∧
      c'.state.shared.now = c.state.shared.now ∧
      c'.state.shared.binding key = some ((calls i).fingerprint env) ∧
      (c'.state.shared.hashes key).bind IdentifierHash.deadline =
        some (c.state.shared.now + ttlSeconds) ∧
      ∀ name, name ≠ "fingerprint" → c'.state.shared.field key name = c.state.shared.field key name := by
  obtain ⟨f, hf⟩ : ∃ f, f = (calls i).fingerprint env := ⟨_, rfl⟩
  rw [← hf] at hbinding howns ⊢
  -- The cache after `hsetnx`.
  obtain ⟨created, s₁, hx, hbound, hnow, hfields⟩ : ∃ created s₁,
      execIdentifiers ttlSeconds c.state.shared (.hsetnx key "fingerprint" f) created = some s₁ ∧
        s₁.binding key = some f ∧ s₁.now = c.state.shared.now ∧
        ∀ name, name ≠ "fingerprint" → s₁.field key name = c.state.shared.field key name := by
    rcases hbinding with hnone | hsome
    · refine ⟨true, _, execIdentifiers_hsetnx.mpr (.inr ⟨hnone, rfl, rfl⟩), ?_, rfl, ?_⟩
      · exact IdentifierCache.field_set.trans (if_pos ⟨rfl, rfl⟩)
      · exact fun name hname => IdentifierCache.field_set.trans (if_neg fun hboth => hname hboth.2)
    · refine ⟨false, _, execIdentifiers_hsetnx.mpr (.inl ⟨?_, rfl, rfl⟩), hsome, rfl, fun _ _ => rfl⟩
      exact Option.isSome_of_eq_some hsome
  have hdeadline : ((s₁.expireIn key ttlSeconds).hashes key).bind IdentifierHash.deadline =
      some (c.state.shared.now + ttlSeconds) := by
    unfold IdentifierCache.expireIn
    cases hhash : s₁.hashes key with
    | none =>
      simp [IdentifierCache.binding, IdentifierCache.field, hhash] at hbound
    | some hash => simp [hnow]
  have hsteps : Steps ((identifierSystem env ttlSeconds calls passing).prog (.inl i))
      ((cachedEvents key f created stage (c.state.shared.field key stage)).map (Event.act Passing))
      (.ret (some key, c.state.shared.field key stage)) := by
    show Steps (Prog.acts Passing ((calls i).run env)) _ _
    rw [run_eq hkey, hmethod, ← hf]
    have hread : Steps (.call (.hget key stage) fun cached => .ret (some key, cached))
        ([⟨.hget key stage, c.state.shared.field key stage⟩] : List (Event Op Ret))
        (.ret (some key, c.state.shared.field key stage) : Service (Option String × Option Json)) :=
      ⟨_, rfl, rfl⟩
    exact (steps_whenBound hread).acts
  have htraces : (identifierSystem env ttlSeconds calls passing).world.Traces ok (.inl i)
      c.state.shared
      ((cachedEvents key f created stage (c.state.shared.field key stage)).map (Event.act Passing))
      (s₁.expireIn key ttlSeconds) := by
    have hexpired : (s₁.expireIn key ttlSeconds).binding key = some f :=
      IdentifierCache.field_expireIn.trans hbound
    refine ⟨howns _ _ _ trivial, s₁, hx, howns _ _ _ (.inl rfl), s₁, if_pos hbound.symm,
      howns _ _ _ (.inr hbound), _, rfl, howns _ _ _ (.inr (.inr hexpired)), _, if_pos ?_, rfl⟩
    exact (hfields stage hstage).symm.trans IdentifierCache.field_expireIn.symm
  obtain ⟨c', hrun, hshared, hthread, hothers⟩ := h.start_solo hok hi hsteps htraces
  refine ⟨c', ⟨hrun, hothers⟩, hthread, ?_, ?_, ?_, fun name hname => ?_⟩
  · rw [hshared]
    unfold IdentifierCache.expireIn
    split <;> exact hnow
  · rw [hshared]
    exact IdentifierCache.field_expireIn.trans hbound
  · rw [hshared]
    exact hdeadline
  · rw [hshared, IdentifierCache.field_expireIn]
    exact hfields name hname

/-- `put` without interruption. -/
theorem after_put {i : ι} {key stage : String} {response : Dict}
    (hok : ∀ s e, ok s.shared e → allowed s e)
    (h : Run (identifierSystem env ttlSeconds calls passing) allowed (Config.init .empty) c)
    (hi : c.threads (.inl i) = none) (hkey : (calls i).key env = some key)
    (hmethod : (calls i).method = .put stage response) (hstage : stage ≠ "fingerprint")
    (hset : ok c.state.shared ⟨⟨.op (.hset key stage (serialized response)), ()⟩, .inl i⟩)
    (hexpire : ok (c.state.shared.set key stage (serialized response))
      ⟨⟨.op (.expire key), ()⟩, .inl i⟩) :
    ∃ c', After env ttlSeconds calls passing allowed c c' (.inl i) ∧
      c'.state.shared.field key stage = some (serialized response) ∧
      c'.state.shared.binding key = c.state.shared.binding key := by
  have hsteps : Steps ((identifierSystem env ttlSeconds calls passing).prog (.inl i))
      ([⟨.hset key stage (serialized response), ()⟩, ⟨.expire key, ()⟩].map (Event.act Passing))
      (.ret (none, none)) := by
    show Steps (Prog.acts Passing ((calls i).run env)) _ _
    rw [run_eq hkey, hmethod]
    exact ⟨(), rfl, (), rfl, rfl⟩
  obtain ⟨c', hrun, hshared, -, hothers⟩ :=
    h.start_solo hok hi hsteps ⟨hset, _, rfl, hexpire, _, rfl, rfl⟩
  refine ⟨c', ⟨hrun, hothers⟩, ?_, ?_⟩
  · rw [hshared, IdentifierCache.field_expireIn]
    exact IdentifierCache.field_set.trans (if_pos ⟨rfl, rfl⟩)
  · rw [hshared]
    refine IdentifierCache.field_expireIn.trans (IdentifierCache.field_set.trans (if_neg ?_))
    exact fun hboth => hstage hboth.2.symm

/-- An event of the environment. -/
theorem after_event {j : κ} {t : IdentifierCache} (hallowed : ∀ s, allowed s ⟨⟨.event (passing j), ()⟩, .inr j⟩)
    (h : Run (identifierSystem env ttlSeconds calls passing) allowed (Config.init .empty) c)
    (hj : c.threads (.inr j) = none) (hx : happens c.state.shared (passing j) = some t) :
    ∃ c', After env ttlSeconds calls passing allowed c c' (.inr j) ∧ c'.state.shared = t := by
  have hsteps : Steps ((identifierSystem env ttlSeconds calls passing).prog (.inr j))
      [⟨.event (passing j), ()⟩] .spin := ⟨(), rfl, rfl⟩
  obtain ⟨ok, hokEq⟩ : ∃ ok : IdentifierCache → Entry (ι ⊕ κ) (Act Op Passing) (Act.Answer Ret) → Prop,
      ok = fun _ e => e = ⟨⟨.event (passing j), ()⟩, .inr j⟩ := ⟨_, rfl⟩
  have hok : ∀ s e, ok s.shared e → allowed s e := by
    intro s e he
    rw [hokEq] at he
    exact he ▸ hallowed s
  have hstep : ok c.state.shared ⟨⟨.event (passing j), ()⟩, .inr j⟩ := by rw [hokEq]
  obtain ⟨c', hrun, hshared, -, hothers⟩ := h.start_solo hok hj hsteps ⟨hstep, t, hx, rfl⟩
  exact ⟨c', ⟨hrun, hothers⟩, hshared⟩

end Uninterrupted

end Runs

/-! ### A settlement that outlives its binding -/

namespace Sample

/-- The same request with another amount. -/
def otherRequirements : PaymentRequirements := { requirements with amount := "2000" }

/-- The request looks for an answer and puts one; then another request looks. -/
def expiringCalls (last : PaymentRequirements) : Fin 3 → StoreCall
  | 0 => ⟨identifiedPayload, requirements, .getCached "settle"⟩
  | 1 => ⟨identifiedPayload, requirements, .put "settle" [("success", .bool true)]⟩
  | 2 => ⟨identifiedPayload, last, .getCached "settle"⟩

def identifierKey : String := PaymentIdentifierStore.key sampleEnv "order-0000000000001" requirements

/-- The time to live of 300 seconds runs out, and the hash vanishes. -/
def expiry : Fin 2 → Passing
  | 0 => .wait 300
  | 1 => .vanish identifierKey

def expirySystem (last : PaymentRequirements) : System (Fin 3 ⊕ Fin 2) (Act Op Passing)
    (Act.Answer Ret) FacilitatorExc (Option String × Option Json) IdentifierCache :=
  identifierSystem sampleEnv 300 (expiringCalls last) expiry

/-- Call 1 is the only one that puts. -/
theorem eq_of_put {last : PaymentRequirements} {j : Fin 3} {stage : String} {response : Dict}
    (h : (expiringCalls last j).method = .put stage response) : j = 1 := by
  match j, h with
  | 0, h => cases h
  | 1, _ => rfl
  | 2, h => cases h

theorem fingerprint_other : (expiringCalls otherRequirements 1).fingerprint sampleEnv ≠
    (expiringCalls otherRequirements 2).fingerprint sampleEnv := by
  intro heq
  have hrequests := request_eq_of_fingerprint sha256_injective (Json.str.inj heq)
  exact absurd hrequests.1.amount (by decide)

theorem stage_expiringCalls (i : Fin 3) :
    (expiringCalls requirements i).method.stage ≠ some "fingerprint" := by
  match i with
  | 0 => decide
  | 1 => decide
  | 2 => decide

theorem scope_expiringCalls {i : Fin 3} {σ : Scope}
    (h : (expiringCalls requirements i).scope sampleEnv = some σ) :
    σ = ⟨"xrpl:1", "rMerchant", "order-0000000000001"⟩ := by
  match i, h with
  | 0, h => exact (Option.some.inj h).symm
  | 1, h => exact (Option.some.inj h).symm
  | 2, h => exact (Option.some.inj h).symm

/-- The two scopes join to one text. -/
def collidingCalls : Fin 3 → StoreCall
  | 0 => ⟨identifiedPayload, { requirements with network := "xrpl:1|rShop" }, .getCached "settle"⟩
  | _ => ⟨identifiedPayload, { requirements with payTo := "rShop|rMerchant" }, .getCached "settle"⟩

def collidingSystem : System (Fin 3 ⊕ Fin 2) (Act Op Passing) (Act.Answer Ret) FacilitatorExc
    (Option String × Option Json) IdentifierCache :=
  identifierSystem sampleEnv 300 collidingCalls expiry

theorem scope_collidingCalls :
    (collidingCalls 0).scope sampleEnv ≠ (collidingCalls 1).scope sampleEnv := by
  decide

theorem key_expiringCalls (last : PaymentRequirements) (hlast : last.network = requirements.network)
    (hpayTo : last.payTo = requirements.payTo) (i : Fin 3) :
    (expiringCalls last i).key sampleEnv = some identifierKey := by
  have hid : PaymentIdentifierStore.identifierOf sampleEnv identifiedPayload =
      .ok (some "order-0000000000001") := rfl
  match i with
  | 0 => exact key_of_identifier hid
  | 1 => exact key_of_identifier hid
  | 2 =>
    refine (key_of_identifier (c := expiringCalls last 2) hid).trans ?_
    show some (PaymentIdentifierStore.key sampleEnv "order-0000000000001" last) = _
    unfold identifierKey PaymentIdentifierStore.key
    rw [hlast, hpayTo]

/-- The response that call 1 puts. -/
def putResponse : Json := serialized [("success", .bool true)]

/-- No restriction. -/
def anything (_ : IdentifierCache) (_ : Entry (Fin 3 ⊕ Fin 2) (Act Op Passing) (Act.Answer Ret)) :
    Prop := True

/-- The hash vanishes during the settlement, and the other request is served. -/
theorem exists_slow_settlement : ∃ c,
    Run (expirySystem otherRequirements) anyStep (Config.init .empty) c ∧
      c.threads (.inl 2) = some (.ret (some identifierKey, some putResponse)) := by
  have hok : ∀ (s : IdentifierState (Fin 3) (Fin 2)) e, anything s.shared e → anyStep s e :=
    fun _ _ _ => trivial
  have hkey := key_expiringCalls otherRequirements rfl rfl
  have h₀ : Run (identifierSystem sampleEnv 300 (expiringCalls otherRequirements) expiry) anyStep
      (Config.init .empty) (Config.init .empty) := .refl
  obtain ⟨c₁, h₁, -, -, -, hdeadline, -⟩ := after_getCached hok (fun _ _ _ _ => trivial)
    h₀ rfl (hkey 0) rfl (by decide) (.inl rfl)
  obtain ⟨c₂, h₂, hshared₂⟩ := after_event (fun _ => trivial) h₁.run
    (h₁.others (.inr 0) (by decide)) (show happens c₁.state.shared (expiry 0) = some _ from rfl)
  have hvanish : happens c₂.state.shared (expiry 1) = some (c₂.state.shared.remove identifierKey) := by
    refine happens_vanish.mpr ⟨rfl, 300, ?_, ?_⟩
    · rw [hshared₂]
      exact hdeadline
    · rw [hshared₂]
      exact Nat.le_add_left 300 _
  obtain ⟨c₃, h₃, hshared₃⟩ := after_event (fun _ => trivial) h₂.run
    ((h₂.others (.inr 1) (by decide)).trans (h₁.others (.inr 1) (by decide))) hvanish
  have hidle : ∀ i, i ≠ 0 → c₃.threads (.inl i) = none := by
    intro i hi
    rw [h₃.others _ (by simp), h₂.others _ (by simp), h₁.others _ (by simpa using hi)]
    rfl
  obtain ⟨c₄, h₄, hput, hunbound⟩ := after_put hok h₃.run (hidle 1 (by decide)) (hkey 1) rfl
    (by decide) trivial trivial
  have hgone : c₄.state.shared.binding identifierKey = none := by
    rw [hunbound, hshared₃, IdentifierCache.binding, IdentifierCache.field_remove, if_pos rfl]
  obtain ⟨c₅, h₅, hserved, -⟩ := after_getCached hok (fun _ _ _ _ => trivial) h₄.run
    ((h₄.others (.inl 2) (by decide)).trans (hidle 2 (by decide))) (hkey 2) rfl (by decide)
    (.inl hgone)
  refine ⟨c₅, h₅.run, ?_⟩
  rw [hserved, hput]
  rfl

/-- The two scopes share a binding. -/
theorem exists_collision : ∃ c, Run collidingSystem anyStep (Config.init .empty) c ∧
    c.threads (.inl 1) = some (.raise PaymentIdentifierStore.conflict) := by
  have hok : ∀ (s : IdentifierState (Fin 3) (Fin 2)) e, anything s.shared e → anyStep s e :=
    fun _ _ _ => trivial
  obtain ⟨key, hkey⟩ : ∃ key, (collidingCalls 0).key sampleEnv = some key := ⟨_, rfl⟩
  have hsame : (collidingCalls 1).key sampleEnv = some key := hkey
  have hother : (collidingCalls 0).fingerprint sampleEnv ≠ (collidingCalls 1).fingerprint sampleEnv := by
    intro heq
    have hrequests := request_eq_of_fingerprint sha256_injective (Json.str.inj heq)
    exact absurd hrequests.1.payTo (by decide)
  have h₀ : Run (identifierSystem sampleEnv 300 collidingCalls expiry) anyStep
      (Config.init .empty) (Config.init .empty) := .refl
  obtain ⟨c₁, h₁, -, -, hbound, -⟩ := after_getCached hok (fun _ _ _ _ => trivial)
    h₀ rfl hkey rfl (by decide) (.inl rfl)
  -- The second request finds the binding of the first one.
  have hsteps : Steps ((identifierSystem sampleEnv 300 collidingCalls expiry).prog (.inl 1))
      (([⟨.hsetnx key "fingerprint" ((collidingCalls 1).fingerprint sampleEnv), false⟩,
        ⟨.hget key "fingerprint", some ((collidingCalls 0).fingerprint sampleEnv)⟩] :
          List (Event Op Ret)).map (Event.act Passing))
      (.raise PaymentIdentifierStore.conflict) := by
    show Steps (Prog.acts Passing ((collidingCalls 1).run sampleEnv)) _ _
    rw [run_eq hsame]
    refine Steps.acts (q := .raise PaymentIdentifierStore.conflict) ⟨false, rfl, _, rfl, ?_⟩
    exact (if_pos fun heq => hother (Option.some.inj heq)).symm
  have hexists : execIdentifiers 300 c₁.state.shared
      (.hsetnx key "fingerprint" ((collidingCalls 1).fingerprint sampleEnv)) false =
        some c₁.state.shared :=
    execIdentifiers_hsetnx.mpr (.inl ⟨Option.isSome_of_eq_some hbound, rfl, rfl⟩)
  obtain ⟨c₂, h₂, -, hend, -⟩ := h₁.run.start_solo hok (h₁.others (.inl 1) (by decide)) hsteps
    ⟨trivial, _, hexists, trivial, _, if_pos hbound.symm, rfl⟩
  exact ⟨c₂, h₂, hend⟩

/-- `InTime` looks at the cache only. -/
def inTime (s : IdentifierCache) (e : Entry (Fin 3 ⊕ Fin 2) (Act Op Passing) (Act.Answer Ret)) :
    Prop := InTime sampleEnv (expiringCalls requirements) ⟨s, []⟩ e

/-- Nothing vanishes, and the same request is served. -/
theorem exists_prompt_settlement : ∃ c, Run (expirySystem requirements)
    (InTime sampleEnv (expiringCalls requirements)) (Config.init .empty) c ∧
      c.threads (.inl 2) = some (.ret (some identifierKey, some putResponse)) := by
  have hok : ∀ (s : IdentifierState (Fin 3) (Fin 2)) e, inTime s.shared e →
      InTime sampleEnv (expiringCalls requirements) s e := fun _ _ h => h
  have hkey := key_expiringCalls requirements rfl rfl
  have h₀ : Run (identifierSystem sampleEnv 300 (expiringCalls requirements) expiry)
      (InTime sampleEnv (expiringCalls requirements)) (Config.init .empty) (Config.init .empty) :=
    .refl
  obtain ⟨c₁, h₁, -, -, hbound, -⟩ := after_getCached hok (fun _ _ _ h => h) h₀ rfl (hkey 0) rfl
    (by decide) (.inl rfl)
  have hkept : (c₁.state.shared.set identifierKey "settle" putResponse).binding identifierKey =
      some ((expiringCalls requirements 1).fingerprint sampleEnv) := by
    refine (IdentifierCache.field_set.trans (if_neg ?_)).trans hbound
    exact fun hboth => absurd hboth.2 (by decide)
  obtain ⟨c₂, h₂, hput, hbound₂⟩ := after_put hok h₁.run (h₁.others (.inl 1) (by decide)) (hkey 1)
    rfl (by decide) hbound (.inr hkept)
  obtain ⟨c₃, h₃, hserved, -⟩ := after_getCached hok (fun _ _ _ h => h) h₂.run
    ((h₂.others (.inl 2) (by decide)).trans (h₁.others (.inl 2) (by decide))) (hkey 2) rfl
    (by decide) (.inr (hbound₂.trans hbound))
  refine ⟨c₃, h₃.run, ?_⟩
  rw [hserved, hput]
  rfl

end Sample

/-- A response is put after the binding has vanished, and served to a request
    with another fingerprint. Two scopes that join to one text share a binding. -/
theorem lapsed_binding_is_not_isolated :
    (∃ c, Run (Sample.expirySystem Sample.otherRequirements) anyStep (Config.init .empty) c ∧
      ¬ Isolated Sample.sampleEnv 300 (Sample.expiringCalls Sample.otherRequirements) Sample.expiry
        anyStep c) ∧
    ∃ c, Run Sample.collidingSystem anyStep (Config.init .empty) c ∧
      (Sample.collidingCalls 0).scope Sample.sampleEnv ≠
        (Sample.collidingCalls 1).scope Sample.sampleEnv ∧
      c.threads (.inl 1) = some (.raise PaymentIdentifierStore.conflict) := by
  constructor
  · obtain ⟨c, hrun, hend⟩ := Sample.exists_slow_settlement
    refine ⟨c, hrun, fun hisolated => ?_⟩
    obtain ⟨j, response, hput, -, -, hfp, -⟩ := hisolated.served 2 "settle" _ _ rfl hend
    obtain rfl := Sample.eq_of_put hput
    exact Sample.fingerprint_other hfp
  · obtain ⟨c, hrun, hend⟩ := Sample.exists_collision
    exact ⟨c, hrun, Sample.scope_collidingCalls, hend⟩

/-- A second look after a settlement in time. -/
theorem identifiers_isolated_in_time_sample : ∃ c : IdentifierConfig (Fin 3) (Fin 2),
    c.threads (.inl 2) = some (.ret (some Sample.identifierKey, some Sample.putResponse)) ∧
    Isolated Sample.sampleEnv 300 (Sample.expiringCalls Sample.requirements) Sample.expiry
      (InTime Sample.sampleEnv (Sample.expiringCalls Sample.requirements)) c := by
  obtain ⟨c, hrun, hserved⟩ := Sample.exists_prompt_settlement
  have hseparated : Separated Sample.sampleEnv (Sample.expiringCalls Sample.requirements) := by
    apply separated_of_no_bar
    intro i σ hσ
    rw [Sample.scope_expiringCalls hσ]
    decide
  exact ⟨c, hserved, identifiers_isolated_in_time 300 _ _ c Sample.sha256_injective
    Sample.stage_expiringCalls hseparated hrun⟩

end XrplX402.Facilitator
