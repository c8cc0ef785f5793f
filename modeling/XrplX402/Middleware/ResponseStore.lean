import XrplX402.Interaction.Sequential
import XrplX402.Interaction.Total
import XrplX402.Middleware.StoredResponses
import XrplX402.Redis

/-! # The response store

    `RedisResourceResponseStore` and `buffered_call_next` as programs over the
    commands that they send. Records are JSON texts under one key for each
    network, payee and payment identifier.

    * **Programs**: `bind`, `get`, `put`, and what surrounds a handler.
    * **Alone**: the outcome of each on a database that holds nothing, a bound
      record or a response under the key. -/

namespace XrplX402.Middleware

open Py Interaction Prog

variable {env : Env}

/-! ## Section 1: Operations -/

/-- What a tool returns when it can be recovered: a dictionary or a string. -/
structure ToolResult where
  value : Json
  proper : value.proper = true
  recoverable : value.asDict?.isSome ∨ value.asStr?.isSome

inductive Op where
  | get (key : String)
  /-- `SET key value EX ex`, with `NX` or without. -/
  | set (key value : String) (ex : Int) (nx : Bool)
  /-- The protected HTTP application runs. -/
  | endpoint
  /-- The protected tool runs; `none` is a result of another type. -/
  | tool

abbrev Ret : Op → Type
  | .get _ => Option String
  | .set .. => Except Exc Bool
  | .endpoint => Except Exc HandlerResponse
  | .tool => Except Exc (Option ToolResult)

abbrev Service (α : Type) := Prog Op Ret Exc α

def check {α : Type} (x : Except Exc α) : Service α := .ofExcept x

/-- `try: ... except ValueError as error: ...` -/
def catchValueError {α : Type} (p : Service α) (handler : Exc → Service α) : Service α :=
  MonadExcept.tryCatch p fun e => if e.kind = .valueError then handler e else .raise e

/-! ## Section 2: The store -/

structure RedisResourceResponseStore where
  ttlSeconds : Int
  safetyMarginSeconds : Int
  ttl_pos : 0 < ttlSeconds
  margin_nonneg : 0 ≤ safetyMarginSeconds

/-- A paid request as the store sees it. -/
structure PaidRequest where
  payload : PaymentPayload
  requirements : PaymentRequirements
  authoritative : Option AuthoritativeResource

/-- `_identifier` -/
def identifierOf (env : Env) (payload : PaymentPayload) : Except Exc (Option String) :=
  match env.extractAndValidatePaymentIdentifier payload with
  | .ok identifier => .ok identifier
  | .error errors => .error (valueError ("; ".intercalate errors))

/-- `_fingerprint` -/
def PaidRequest.fingerprint (env : Env) (q : PaidRequest) : String :=
  requirementsFingerprint env q.payload q.requirements none
    (q.authoritative.map AuthoritativeResource.resource)
    (q.authoritative.map AuthoritativeResource.identity)

namespace RedisResourceResponseStore

variable (store : RedisResourceResponseStore)

/-- `_key` -/
def key (env : Env) (identifier : String) (requirements : PaymentRequirements) : String :=
  "resource:idempotency:" ++
    env.sha256Hex (requirements.network ++ "|" ++ requirements.payTo ++ "|" ++ identifier)

/-- `_ttl` -/
def ttl (requirements : PaymentRequirements) : Int :=
  max store.ttlSeconds (requirements.maxTimeoutSeconds + store.safetyMarginSeconds)

theorem ttl_positive (requirements : PaymentRequirements) :
    Redis.Positive (some (store.ttl requirements)) := by
  intro seconds hseconds
  obtain rfl := Option.some.inj hseconds
  exact lt_of_lt_of_le store.ttl_pos (le_max_left _ _)

/-- `if raw:` on the answer of `GET`. -/
def nonempty (raw : Option String) : Option String := raw.filter (· ≠ "")

/-- The attempts of `bind` to set the record. -/
def bindAttempts (key record fingerprint : String) (ex : Int) : Nat → Service Bool
  | 0 => .raise (runtimeError "payment-identifier binding disappeared during reservation")
  | attempts + 1 => do
    let acquired ← perform (.set key record ex true)
    if ← check acquired then return true
    else
      match nonempty (← perform (.get key)) with
      | some raw =>
        let record ← check (loadRecord raw)
        check (validateFingerprint record fingerprint)
        return false
      | none => bindAttempts key record fingerprint ex attempts

def missingIdentifier : Exc := valueError "unsafe paid requests require payment-identifier"

/-- Whether the request has acquired the binding. -/
def bind (env : Env) (q : PaidRequest) : Service Bool := do
  match ← check (identifierOf env q.payload) with
  | none => throw missingIdentifier
  | some identifier =>
    bindAttempts (key env identifier q.requirements)
      (dumps (.obj (boundRecord (q.fingerprint env)))) (q.fingerprint env)
      (store.ttl q.requirements) 2

def get (env : Env) (q : PaidRequest) : Service (Option StoredResourceResponse) := do
  match ← check (identifierOf env q.payload) with
  | none => return none
  | some identifier =>
    match nonempty (← perform (.get (key env identifier q.requirements))) with
    | none => return none
    | some raw => check (readRecord env (q.fingerprint env) raw)

/-- `_validate_fingerprint(json.loads(existing), fingerprint)` when there is a
    record. -/
def validateExisting (fingerprint : String) (raw : Option String) : Except Exc Unit :=
  match nonempty raw with
  | none => .ok ()
  | some raw => do
    let record ← loadRecord raw
    validateFingerprint record fingerprint

def put (env : Env) (q : PaidRequest) (response : StoredResourceResponse) : Service Unit := do
  match ← check (identifierOf env q.payload) with
  | none => throw missingIdentifier
  | some identifier =>
    let existing ← perform (.get (key env identifier q.requirements))
    check (validateExisting (q.fingerprint env) existing)
    let written ← perform (.set (key env identifier q.requirements)
      (dumps (.obj (storedRecord (q.fingerprint env) response))) (store.ttl q.requirements) false)
    let _ ← check written
    return ()

end RedisResourceResponseStore

/-! ## Section 3: Around a handler -/

/-- Keep a copy of a response whose request has an unsafe method. -/
def keepResponse (env : Env) (store : Option RedisResourceResponseStore) (method : String)
    (q : PaidRequest) (rebuilt : Response) (body : List UInt8) : Service Unit :=
  match store with
  | none => .ret ()
  | some store =>
    if env.unicode.upperStr method ∈ safeMethods then .ret ()
    else if q.authoritative = none then
      .raise (runtimeError "authoritative HTTP resource is unavailable")
    else store.put env q (toStoredResponse env rebuilt body)

/-- `buffered_call_next`. A response from 400 on is not kept. -/
def bufferedCallNext (env : Env) (store : Option RedisResourceResponseStore) (method : String)
    (q : PaidRequest) : Service Response := do
  let response ← check (← perform .endpoint)
  if 400 ≤ response.status then return callNext response
  else do
    let rebuilt ← check (rebuild env (callNext response))
    keepResponse env store method q rebuilt response.chunks.flatten
    return rebuilt

/-- `dispatch` after the settlement of a replayed request. -/
def deliverCached (env : Env) (settled : Response) (cached : StoredResourceResponse) :
    Except Exc Response :=
  if 200 ≤ settled.status ∧ settled.status < 400 then restoreCachedResponse env settled cached
  else .ok settled

/-! ## Section 4: The programs alone -/

/-- What the handlers do when they run. -/
structure Handlers where
  endpoint : Except Exc HandlerResponse
  tool : Except Exc (Option ToolResult)

/-- One operation on the database. -/
def onDatabase (handlers : Handlers) (db : Redis.Db) : (o : Op) → Ret o × Redis.Db
  | .get key => (Redis.get key db, db)
  | .set key value ex nx =>
    Redis.set (if nx then .nx else .always) (some ex) key value db
  | .endpoint => (handlers.endpoint, db)
  | .tool => (handlers.tool, db)

/-- A record with the fingerprint of the request. -/
def OwnRecord (env : Env) (q : PaidRequest) (text : String) : Prop :=
  ∃ d : Dict, (Json.obj d).proper = true ∧ Dict.get d "fingerprint" = .str (q.fingerprint env) ∧
    text = dumps (.obj d)

theorem ownRecord_bound (q : PaidRequest) :
    OwnRecord env q (dumps (.obj (boundRecord (q.fingerprint env)))) :=
  ⟨_, proper_boundRecord, rfl, rfl⟩

theorem dumps_obj_ne_empty (d : Dict) : dumps (.obj d) ≠ "" := by
  intro h
  have hlist := congrArg String.toList h
  rw [dumps, String.toList_ofList, Json.sortKeys, dump] at hlist
  cases hlist

theorem nonempty_dumps (d : Dict) : RedisResourceResponseStore.nonempty (some (dumps (.obj d))) =
    some (dumps (.obj d)) := by
  unfold RedisResourceResponseStore.nonempty
  rw [Option.filter_some, if_pos (by simpa using dumps_obj_ne_empty d)]

theorem validate_own {q : PaidRequest} {text : String} (h : OwnRecord env q text) :
    RedisResourceResponseStore.validateExisting (q.fingerprint env) (some text) = .ok () := by
  obtain ⟨d, hproper, hfingerprint, rfl⟩ := h
  unfold RedisResourceResponseStore.validateExisting
  rw [nonempty_dumps]
  unfold loadRecord
  dsimp only
  rw [loads_dumps hproper]
  show validateFingerprint (.obj (Json.sortObj d)) _ = _
  unfold validateFingerprint getAttr
  dsimp only
  rw [get_sortObj, hfingerprint]
  exact if_neg fun hne => hne rfl

section Alone

variable {store : RedisResourceResponseStore} {handlers : Handlers} {q : PaidRequest}
variable {identifier : String} {db : Redis.Db}

/-- The key of a request with an identifier. -/
abbrev PaidRequest.keyOf (env : Env) (q : PaidRequest) (identifier : String) : String :=
  RedisResourceResponseStore.key env identifier q.requirements

theorem put_alone (hid : env.extractAndValidatePaymentIdentifier q.payload = .ok (some identifier))
    (hkey : ∀ entry, db (q.keyOf env identifier) = some entry → OwnRecord env q entry.value)
    (response : StoredResourceResponse) :
    (store.put env q response).runOn (onDatabase handlers) db =
      (some (.ok ()), Function.update db (q.keyOf env identifier)
        (some ⟨dumps (.obj (storedRecord (q.fingerprint env) response)),
          some (store.ttl q.requirements).toNat⟩)) := by
  have hvalid : RedisResourceResponseStore.validateExisting (q.fingerprint env)
      (Redis.get (q.keyOf env identifier) db) = .ok () := by
    cases hentry : db (q.keyOf env identifier) with
    | none =>
      unfold Redis.get
      rw [hentry]
      rfl
    | some entry =>
      rw [Redis.get_of_entry hentry]
      exact validate_own (hkey entry hentry)
  unfold RedisResourceResponseStore.put identifierOf
  rw [hid]
  show Prog.runOn (onDatabase handlers)
    ((check (RedisResourceResponseStore.validateExisting (q.fingerprint env)
      (Redis.get (q.keyOf env identifier) db))) >>= _) db = _
  rw [hvalid]
  show Prog.runOn (onDatabase handlers) ((check (Redis.set .always _ _ _ db).1) >>= _)
    (Redis.set .always _ _ _ db).2 = _
  rw [Redis.set_permitted (store.ttl_positive q.requirements) rfl]
  rfl

theorem get_alone (hid : env.extractAndValidatePaymentIdentifier q.payload = .ok (some identifier))
    {response : StoredResourceResponse} (hproper : response.Proper) {entry : Redis.Entry}
    (hkey : db (q.keyOf env identifier) = some entry)
    (hvalue : entry.value = dumps (.obj (storedRecord (q.fingerprint env) response))) :
    (RedisResourceResponseStore.get env q).runOn (onDatabase handlers) db =
      (some (.ok (some response.sorted)), db) := by
  have hraw : RedisResourceResponseStore.nonempty (Redis.get (q.keyOf env identifier) db) =
      some (dumps (.obj (storedRecord (q.fingerprint env) response))) := by
    rw [Redis.get_of_entry hkey, hvalue, nonempty_dumps]
  unfold RedisResourceResponseStore.get identifierOf
  rw [hid]
  show Prog.runOn (onDatabase handlers)
    (match RedisResourceResponseStore.nonempty (Redis.get (q.keyOf env identifier) db) with
      | none => .ret none
      | some raw => check (readRecord env (q.fingerprint env) raw)) db = _
  rw [hraw]
  dsimp only
  rw [readRecord_stored hproper]
  rfl

/-- A successful response of an unsafe method is rebuilt and stored. -/
theorem bufferedCallNext_alone {r : HandlerResponse} {method : String}
    (hid : env.extractAndValidatePaymentIdentifier q.payload = .ok (some identifier))
    (hmethod : env.unicode.upperStr method ∉ safeMethods) (hauthoritative : q.authoritative ≠ none)
    (hkey : ∀ entry, db (q.keyOf env identifier) = some entry → OwnRecord env q entry.value)
    (hhandler : handlers.endpoint = .ok r) (hstatus : r.status < 400) {rebuilt : Response}
    (hrebuilt : rebuild env (callNext r) = .ok rebuilt) :
    (bufferedCallNext env (some store) method q).runOn (onDatabase handlers) db =
      (some (.ok rebuilt), Function.update db (q.keyOf env identifier)
        (some ⟨dumps (.obj (storedRecord (q.fingerprint env)
          (toStoredResponse env rebuilt r.chunks.flatten))),
          some (store.ttl q.requirements).toNat⟩)) := by
  obtain ⟨db', hput, hdb'⟩ : ∃ db', (store.put env q (toStoredResponse env rebuilt
      r.chunks.flatten)).runOn (onDatabase handlers) db = (some (.ok ()), db') ∧
        db' = Function.update db (q.keyOf env identifier) _ :=
    ⟨_, put_alone hid hkey _, rfl⟩
  unfold bufferedCallNext
  show Prog.runOn (onDatabase handlers) (check handlers.endpoint >>= _) db = _
  rw [hhandler]
  show Prog.runOn (onDatabase handlers)
    (if 400 ≤ r.status then .ret (callNext r) else _) db = _
  rw [if_neg (by omega), hrebuilt]
  show Prog.runOn (onDatabase handlers)
    (keepResponse env (some store) method q rebuilt r.chunks.flatten >>= _) db = _
  unfold keepResponse
  dsimp only
  rw [if_neg hmethod, if_neg hauthoritative, Prog.runOn_bind hput, hdb']
  rfl

end Alone

end XrplX402.Middleware
