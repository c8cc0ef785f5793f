import XrplX402.Middleware.Recovery

/-! # An HTTP request, and the same request again

    A paid request with an unsafe method that is served alone leaves its response
    in the store; every identical request after it is answered from there, also
    one whose authorization has become stale. -/

namespace XrplX402.Middleware

open Py Interaction Prog

variable {env : Env} {store : RedisResourceResponseStore} {handlers : Handlers} {q : PaidRequest}
variable {identifier : String} {db : Redis.Db}

/-! ## Section 1: Hooks on a free and on a stored key -/

/-- `try: return ... except ValueError` around a program that returns. -/
theorem runOn_catchValueError {α β : Type} {p : Service α} {f : α → β} {handler : Exc → Service β}
    {a : α} {db' : Redis.Db} (h : p.runOn (onDatabase handlers) db = (some (.ok a), db')) :
    (catchValueError (do return f (← p)) handler).runOn (onDatabase handlers) db =
      (some (.ok (f a)), db') := by
  apply runOn_tryCatch
  exact Prog.runOn_bind h

theorem lookupCached_free
    (hid : env.extractAndValidatePaymentIdentifier q.payload = .ok (some identifier))
    (hkey : db (q.keyOf env identifier) = none) :
    (lookupCached env q).runOn (onDatabase handlers) db = (some (.ok (.ok none)), db) := by
  have hget : (RedisResourceResponseStore.get env q).runOn (onDatabase handlers) db =
      (some (.ok none), db) := by
    have hraw : RedisResourceResponseStore.nonempty (Redis.get (q.keyOf env identifier) db) = none := by
      unfold Redis.get
      rw [hkey]
      rfl
    unfold RedisResourceResponseStore.get identifierOf
    rw [hid]
    show Prog.runOn (onDatabase handlers)
      (Prog.bind (.ret (Redis.get (q.keyOf env identifier) db)) _) db = _
    simp only [Prog.bind, hraw]
    rfl
  exact runOn_catchValueError hget

theorem lookupCached_stored
    (hid : env.extractAndValidatePaymentIdentifier q.payload = .ok (some identifier))
    {response : StoredResourceResponse} (hproper : response.Proper) {expiry : Option Nat}
    (hkey : db (q.keyOf env identifier) =
      some ⟨dumps (.obj (storedRecord (q.fingerprint env) response)), expiry⟩) :
    (lookupCached env q).runOn (onDatabase handlers) db =
      (some (.ok (.ok (some response.sorted))), db) :=
  runOn_catchValueError (get_alone hid hproper hkey rfl)

theorem acquireBinding_free
    (hid : env.extractAndValidatePaymentIdentifier q.payload = .ok (some identifier))
    (hkey : db (q.keyOf env identifier) = none) :
    (acquireBinding env store q).runOn (onDatabase handlers) db =
      (some (.ok (.ok true)), Function.update db (q.keyOf env identifier)
        (some ⟨dumps (.obj (boundRecord (q.fingerprint env))),
          some (store.ttl q.requirements).toNat⟩)) := by
  have hbind : (store.bind env q).runOn (onDatabase handlers) db =
      (some (.ok true), Function.update db (q.keyOf env identifier)
        (some ⟨dumps (.obj (boundRecord (q.fingerprint env))),
          some (store.ttl q.requirements).toNat⟩)) := by
    have hset : Redis.set .nx (some (store.ttl q.requirements)) (q.keyOf env identifier)
        (dumps (.obj (boundRecord (q.fingerprint env)))) db = _ :=
      Redis.set_nx (store.ttl_positive q.requirements)
    rw [hkey] at hset
    unfold RedisResourceResponseStore.bind identifierOf
    rw [hid]
    show Prog.runOn (onDatabase handlers) ((check (Redis.set .nx _ _ _ db).1) >>= _)
      (Redis.set .nx _ _ _ db).2 = _
    rw [hset]
    rfl
  exact runOn_catchValueError hbind

/-! ## Section 2: The first request and those after it -/

/-- A request with an identifier for an unsafe method. -/
structure PaidRequest.Identified (env : Env) (q : PaidRequest) (identifier : String) : Prop where
  extracted : env.extractAndValidatePaymentIdentifier q.payload = .ok (some identifier)
  declared : env.validatePaymentIdentifierRequirement q.payload = .ok ()
  authoritative : q.authoritative ≠ none
  recovers : requiresResponseRecovery q.authoritative = .ok true

theorem PaidRequest.Identified.declaredIdentifier (h : q.Identified env identifier) :
    requireDeclaredPaymentIdentifier env q.payload = none := by
  unfold requireDeclaredPaymentIdentifier
  rw [h.declared, h.extracted]

/-- The record of the response `r`. -/
def keptEntry (env : Env) (store : RedisResourceResponseStore) (q : PaidRequest)
    (r : HandlerResponse) : Redis.Entry :=
  ⟨dumps (.obj (storedRecord (q.fingerprint env)
    (toStoredResponse env r.rebuilt r.chunks.flatten))), some (store.ttl q.requirements).toNat⟩

variable {r : HandlerResponse} {method : String}

/-- The handler runs, and its response is stored. -/
theorem afterVerifyHttp_first (h : q.Identified env identifier)
    (hmethod : env.unicode.upperStr method ∉ safeMethods)
    (hkey : db (q.keyOf env identifier) = none) (hstatus : r.status < 400) :
    (afterVerifyHttp env store method q).runOn (onDatabase (returning r)) db =
      (some (.ok (.responded r.rebuilt)),
        Function.update db (q.keyOf env identifier) (some (keptEntry env store q r))) := by
  obtain ⟨bound, hbound⟩ : ∃ bound, bound = Function.update db (q.keyOf env identifier)
      (some ⟨dumps (.obj (boundRecord (q.fingerprint env))),
        some (store.ttl q.requirements).toNat⟩) := ⟨_, rfl⟩
  have hrecover : (recoverHandler env store q).runOn (onDatabase (returning r)) db =
      (some (.ok .proceed), bound) := by
    unfold recoverHandler
    rw [h.recovers]
    show Prog.runOn _ (lookupCached env q >>= _) db = _
    rw [Prog.runOn_bind (lookupCached_free h.extracted hkey)]
    show Prog.runOn _ (acquireBinding env store q >>= _) db = _
    rw [Prog.runOn_bind (acquireBinding_free h.extracted hkey), hbound]
    rfl
  have hown : ∀ entry, bound (q.keyOf env identifier) = some entry → OwnRecord env q entry.value := by
    intro entry hentry
    rw [hbound, Function.update_self] at hentry
    obtain rfl := Option.some.inj hentry
    exact ownRecord_bound q
  have hserved : (bufferedCallNext env (some store) method q).runOn (onDatabase (returning r))
      bound = _ :=
    bufferedCallNext_alone h.extracted hmethod h.authoritative hown rfl hstatus (rebuild_callNext r)
  unfold afterVerifyHttp
  rw [h.declaredIdentifier]
  show Prog.runOn _ (recoverHandler env store q >>= _) db = _
  rw [Prog.runOn_bind hrecover]
  show Prog.runOn _ (bufferedCallNext env (some store) method q >>= _) bound = _
  rw [Prog.runOn_bind hserved, hbound, Function.update_idem]
  rfl

/-- The stored response is found again, by a verified request and by one whose
    authorization is stale. -/
theorem httpCall_again (h : q.Identified env identifier) {failure : Option String}
    (hfailure : ∀ reason ∈ failure, reason ∈ staleAuthorizationFailures)
    (hkey : db (q.keyOf env identifier) = some (keptEntry env store q r)) :
    (httpCall env store failure method q).runOn (onDatabase handlers) db =
      (some (.ok (.replayed (toStoredResponse env r.rebuilt r.chunks.flatten).sorted)), db) := by
  have hlookup : (lookupCached env q).runOn (onDatabase handlers) db = _ :=
    lookupCached_stored h.extracted (proper_stored r _) hkey
  have hverified : (afterVerifyHttp env store method q).runOn (onDatabase handlers) db =
      (some (.ok (.replayed (toStoredResponse env r.rebuilt r.chunks.flatten).sorted)), db) := by
    have hrecover : (recoverHandler env store q).runOn (onDatabase handlers) db =
        (some (.ok (.skip (toStoredResponse env r.rebuilt r.chunks.flatten).sorted)), db) := by
      unfold recoverHandler
      rw [h.recovers]
      show Prog.runOn _ (lookupCached env q >>= _) db = _
      rw [Prog.runOn_bind hlookup]
      rfl
    unfold afterVerifyHttp
    rw [h.declaredIdentifier]
    show Prog.runOn _ (recoverHandler env store q >>= _) db = _
    rw [Prog.runOn_bind hrecover]
    rfl
  cases failure with
  | none => exact hverified
  | some reason =>
    have hstale : isStaleAuthorizationFailure (some reason) = true := by
      unfold isStaleAuthorizationFailure
      rw [Option.any_some]
      exact decide_eq_true (hfailure reason rfl)
    have hrecovered : (recoverCachedAuthorization env q reason).runOn (onDatabase handlers) db =
        (some (.ok .recovered), db) := by
      unfold recoverCachedAuthorization
      rw [if_pos hstale, h.recovers]
      show Prog.runOn _ (lookupCached env q >>= _) db = _
      rw [Prog.runOn_bind hlookup]
      rfl
    show Prog.runOn _ (recoverCachedAuthorization env q reason >>= _) db = _
    rw [Prog.runOn_bind hrecovered]
    exact hverified

end XrplX402.Middleware
