import XrplX402.Facilitator.Overlap

/-! # The settle endpoint

    `POST /settle` puts a second cache in front of `settle`. A payment
    identifier binds a hash of fields to one request; the `settle` field keeps
    the last answer that was not pending.

    * **`PaymentIdentifierStore`**: `bind`, `get_cached` and `put`.
    * **`postSettle`**: the handler.
    * **Final successes**: `put` overwrites unconditionally. In runs in which it
      never replaces a success by something else, a success is final; a run in
      which it does, and in which a later request fails, is given. -/

namespace XrplX402.Facilitator

open Py Interaction Prog

/-! ## Section 1: The payment-identifier cache -/

def hsetnx (key field : String) (value : Json) : Service Bool := .call (Op.hsetnx key field value) .ret

def hget (key field : String) : Service (Option Json) := .call (Op.hget key field) .ret

def hset (key field : String) (value : Json) : Service Unit := .call (Op.hset key field value) .ret

def expire (key : String) : Service Unit := .call (Op.expire key) .ret

namespace PaymentIdentifierStore

/-- `PaymentIdentifierStore._key(identifier, requirements)` -/
def key (env : Env) (identifier : String) (requirements : PaymentRequirements) : String :=
  "facilitator:idempotency:" ++
    env.sha256Hex (requirements.network ++ "|" ++ requirements.payTo ++ "|" ++ identifier)

def invalidIdentifier (errors : List String) : FacilitatorExc :=
  .http 400 ("; ".intercalate errors)

def conflict : FacilitatorExc :=
  .http 409 "payment-identifier was already used with a different request"

/-- The two validations at the beginning of `bind`. -/
def identifierOf (env : Env) (payload : PaymentPayload) : Check (Option String) :=
  match env.extractAndValidatePaymentIdentifier payload with
  | .error errors => .error (invalidIdentifier errors)
  | .ok identifier =>
    match env.validatePaymentIdentifierRequirement payload with
    | .error errors => .error (invalidIdentifier errors)
    | .ok () => .ok identifier

/-- Bind the fields under `key` to one fingerprint. -/
def bindKey (key : String) (fingerprint : Json) : Service (Option String) := do
  let _ ← hsetnx key "fingerprint" fingerprint
  let existing ← hget key "fingerprint"
  if existing ≠ some fingerprint then throw conflict
  else do
    expire key
    return some key

def bind (env : Env) (payload : PaymentPayload) (requirements : PaymentRequirements) :
    Service (Option String) := do
  let identifier ← check (identifierOf env payload)
  match identifier with
  | none => return none
  | some identifier =>
    bindKey (key env identifier requirements)
      (.str (paymentFingerprint env payload requirements))

def getCached (env : Env) (stage : String) (payload : PaymentPayload)
    (requirements : PaymentRequirements) : Service (Option String × Option Json) := do
  let key ← PaymentIdentifierStore.bind env payload requirements
  match key with
  | none => return (none, none)
  | some key => do
    let cached ← hget key stage
    return (some key, cached)

def put (key : Option String) (stage : String) (response : Dict) : Service Unit :=
  match key with
  | none => return ()
  | some key => do
    hset key stage (serialized response)
    expire key

end PaymentIdentifierStore

/-! ## Section 2: The handler -/

variable {env : Env} (F : ExactXRPLFacilitatorScheme env)

/-- With the catalog enabled, a success is indexed and says so. -/
def withCatalog (payload : PaymentPayload) (requirements : PaymentRequirements)
    (result : SettleResponse) : Service SettleResponse :=
  if result.success = true ∧ F.settings.enableBazaar = true then
    .call (Op.catalogIndex payload requirements) fun answer => do
      let cataloged ← lift answer
      return if cataloged then
        { result with extensions := some [("bazaar", .obj [("status", .str "success")])] }
      else result
  else return result

/-- Settle, and keep an answer that is not pending. -/
def settleAndPut (pages : Nat) (payload : PaymentPayload) (requirements : PaymentRequirements)
    (cacheKey : Option String) : Service SettleResponse := do
  let settled ← settle F pages payload requirements
  let result ← withCatalog F payload requirements settled
  if result.errorReason ≠ some "settlement_pending" then do
    PaymentIdentifierStore.put cacheKey "settle" result.modelDump
    return result
  else return result

/-- What the handler does with the entry that it found in the cache. -/
def answerCached (pages : Nat) (payload : PaymentPayload) (requirements : PaymentRequirements)
    (cacheKey : Option String) (cached : Option Json) : Service SettleResponse :=
  match cached with
  | none => settleAndPut F pages payload requirements cacheKey
  | some cached => do
    let errorReason ← lift (getAttr cached "errorReason")
    if errorReason ≠ .str "settlement_pending" then
      lift (SettleResponse.modelValidate env cached)
    else settleAndPut F pages payload requirements cacheKey

/-- `POST /settle` -/
def postSettle (pages : Nat) (payload : PaymentPayload) (requirements : PaymentRequirements) :
    Service SettleResponse := do
  let found ← PaymentIdentifierStore.getCached env "settle" payload requirements
  answerCached F pages payload requirements found.1 found.2

def endpointSystem {ι : Type} (env : Env) (calls : ι → Call env) :
    System ι Op Ret FacilitatorExc SettleResponse Stores :=
  ⟨world env, fun i => postSettle (calls i).facilitator (calls i).pages (calls i).payload
    (calls i).requirements⟩

/-! ## Section 3: What `settle` contributes -/

/-- Operations that leave the identifier cache as it is. -/
def Op.readsIdentifiers : Op → Bool
  | .hsetnx _ _ _ => false
  | .hset _ _ _ => false
  | _ => true

theorem readsIdentifiers_of_isQuery {o : Op} (ho : o.isQuery = true) : o.readsIdentifiers = true := by
  cases o <;> first | rfl | cases ho

/-- A part of `settle`: it leaves the cache alone, and its responses are coherent. -/
abbrev Settling (p : Service SettleResponse) : Prop :=
  p.Yields (fun o => o.readsIdentifiers = true) SettleResponse.Coherent

section Settle

variable {F} {requirements : PaymentRequirements} {state : XRPLSettlementState} {ttl : Int}

theorem settling_failure {r : SettleResponse} (h : r.success = false) : Settling (.ret r) :=
  coherent_of_failure h

theorem coherent_stateResponse {amount : String} : (stateResponse env state amount).Coherent := by
  unfold stateResponse
  split
  · exact fun _ => rfl
  · exact coherent_of_failure rfl

theorem settling_lift_bind {α : Type} {x : Except Exc α} {f : α → Service SettleResponse}
    (hf : ∀ a, Settling (f a)) : Settling (lift x >>= f) :=
  (uses_ofExcept (uncaught x)).yields_bind hf

theorem settling_query_bind {α : Type} {p : Service α} {f : α → Service SettleResponse}
    (hp : OnlyQueries p) (hf : ∀ a, Settling (f a)) : Settling (p >>= f) :=
  (hp.mono fun _ => readsIdentifiers_of_isQuery).yields_bind hf

theorem onlyQueries_queryTransaction : OnlyQueries (queryTransaction state) :=
  ⟨rfl, fun _ => trivial⟩

theorem onlyQueries_currentLedgerOrNone : OnlyQueries (currentLedgerOrNone env) := by
  rw [currentLedgerOrNone_eq]
  exact ⟨rfl, fun _ => trivial⟩

/-- Storing a verdict and answering from it. -/
theorem settling_verdict {amount : String} : Settling (do
    storeUpdate state ttl
    return stateResponse env state amount) :=
  ⟨rfl, fun _ => coherent_stateResponse⟩

theorem settling_waitForValidation (attempts : Nat) :
    Settling (waitForValidation env state requirements ttl attempts) := by
  induction attempts with
  | zero => exact settling_failure rfl
  | succ attempts ih =>
    refine settling_query_bind onlyQueries_queryTransaction fun lookup => ?_
    simp only
    split
    · exact ih
    · split
      · refine settling_lift_bind fun deliveredError => ?_
        cases deliveredError with
        | some error => exact settling_verdict
        | none => exact settling_verdict
      · split
        · exact settling_verdict
        · exact ih

theorem settling_reconcile : Settling (reconcile env state requirements ttl) := by
  unfold reconcile
  split
  · exact coherent_stateResponse
  · refine settling_query_bind onlyQueries_queryTransaction fun lookup => ?_
    simp only
    split
    · exact settling_lift_bind fun deliveredError => settling_verdict
    · split
      · unfold reconcileAbsence
        refine settling_query_bind onlyQueries_currentLedgerOrNone fun ledger => ?_
        split
        · exact settling_verdict
        · exact settling_failure rfl
      · exact settling_failure rfl

theorem settling_settleExisting {hash fingerprint : String} :
    Settling (settleExisting F state hash fingerprint requirements) := by
  unfold settleExisting
  split
  · exact settling_failure rfl
  · exact settling_reconcile

theorem settling_submitAndWait {blob hash payer : String} :
    Settling (submitAndWait F blob hash state payer requirements) := by
  unfold submitAndWait
  simp only
  split
  · exact settling_reconcile
  · refine ⟨rfl, fun answer => ?_⟩
    cases answer with
    | ok _ => exact settling_waitForValidation _
    | error _ => exact settling_failure rfl

theorem settling_reservePending {blob hash fingerprint payer : String} :
    Settling (reservePending F blob hash fingerprint payer state requirements) := by
  refine ⟨rfl, fun reserved => ?_⟩
  cases reserved with
  | true => exact settling_submitAndWait
  | false =>
    refine ⟨rfl, fun existing => ?_⟩
    cases existing with
    | none => exact settling_failure rfl
    | some existing => exact settling_settleExisting

theorem settling_settle (pages : Nat) (payload : PaymentPayload) :
    Settling (settle F pages payload requirements) := by
  unfold settle
  split
  · exact settling_failure rfl
  · refine ⟨rfl, fun existing => ?_⟩
    simp only [Prog.bind]
    cases existing with
    | some existing => exact settling_settleExisting
    | none =>
      refine settling_query_bind (onlyQueries_verify _ _ _ _) fun verification => ?_
      split
      · refine settling_lift_bind fun tx => settling_lift_bind fun account => ?_
        refine settling_lift_bind fun value => settling_lift_bind fun last => ?_
        exact settling_query_bind onlyQueries_currentLedger fun first => settling_reservePending
      · exact settling_failure rfl

end Settle

/-! ## Section 4: The invariant of the cache -/

/-- A cache entry that reads back as a success. -/
def IsSuccess (env : Env) (v : Json) : Prop :=
  ∃ r, SettleResponse.modelValidate env v = .ok r ∧ r.success = true

/-- An entry that the handler can have written. -/
def IsAnswer (v : Json) : Prop :=
  ∃ r : SettleResponse, r.errorReason ≠ some "settlement_pending" ∧ v = serialized r.modelDump

/-- A step that does not replace a success in the cache by something else. -/
def KeepsSuccess {ι : Type} (env : Env) (s : SharedState ι) (e : Entry ι Op Ret) : Prop :=
  ∀ key field value old, e.op = .hset key field value →
    s.shared.identifiers key field = some old → IsSuccess env old → IsSuccess env value

/-- What requests with one identifier do to the cache. -/
def CacheOp (key : String) (fingerprint : Json) : Op → Prop
  | .hsetnx k field value => k = key ∧ field = "fingerprint" ∧ value = fingerprint
  | .hset k field value => k = key ∧ field = "settle" ∧ IsAnswer value
  | _ => True

theorem isSuccess_serialized {r : SettleResponse} :
    IsSuccess env (serialized r.modelDump) ↔ r.success = true := by
  unfold IsSuccess
  rw [modelValidate_serialized]
  constructor
  · rintro ⟨r', hr', hs⟩
    rw [← Except.ok.inj hr'] at hs
    exact hs
  · intro hs
    exact ⟨r.sorted, rfl, hs⟩

/-- The handler reads an entry that it wrote as a verdict. -/
theorem getAttr_of_isAnswer {v : Json} (hv : IsAnswer v) :
    ∃ reason, getAttr v "errorReason" = .ok reason ∧ reason ≠ .str "settlement_pending" := by
  obtain ⟨r, hr, rfl⟩ := hv
  refine ⟨Dict.get (Json.sortObj r.modelDump) "errorReason", rfl, fun heq => ?_⟩
  have hget : Dict.get? (Json.sortObj r.modelDump) "errorReason" =
      ((some (optStr r.errorReason)).filter (· ≠ .null)).map Json.sortKeys := get?_serialized r _
  unfold Dict.get at heq
  rw [hget] at heq
  cases hreason : r.errorReason with
  | none => simp [hreason, optStr, Option.filter_some] at heq
  | some text =>
    rw [hreason] at hr heq
    simp [optStr, Option.filter_some] at heq
    exact hr (by rw [heq])

theorem exec_readsIdentifiers {s t : Stores} {o : Op} {r : Ret o} (ho : o.readsIdentifiers = true)
    (h : exec env s o r = some t) : t.identifiers = s.identifiers := by
  cases o with
  | hsetnx key field value => cases ho
  | hset key field value => cases ho
  | rpc q => rw [exec_rpc.mp h]
  | get transaction => rw [(exec_get.mp h).2]
  | hget key field => rw [(answered_eq_some.mp h).2]
  | reserve state ttl =>
    cases r with
    | true => rw [(exec_reserve_true.mp h).2, setSettlement_identifiers]
    | false => rw [(exec_reserve_false.mp h).2]
  | update state ttl =>
    have hx : exec env s (.update state ttl) r = some t := h
    rcases exec_update hx with ⟨-, rfl⟩ | ⟨cur, -, rfl⟩
    · rfl
    · rw [setSettlement_identifiers]
  | expire key =>
    obtain rfl : s = t := by simpa [exec] using h
    rfl
  | catalogIndex payload requirements =>
    obtain rfl : s = t := by simpa [exec] using h
    rfl

section Cache

variable {ι : Type} {key : String} {fingerprint : Json}

/-- The event shows a success in the `settle` field. -/
def ShowsSuccess (env : Env) (key : String) (e : Event Op Ret) : Prop :=
  ∃ v, IsSuccess env v ∧
    (e = ⟨.hset key "settle" v, ()⟩ ∨ e = ⟨.hget key "settle", some v⟩)

/-- The event shows the fingerprint. -/
def ShowsFingerprint (key : String) (fingerprint : Json) (e : Event Op Ret) : Prop :=
  e = ⟨.hget key "fingerprint", some fingerprint⟩

/-- The cache holds a success for the fingerprint. -/
structure HoldsSuccess (env : Env) (key : String) (fingerprint : Json) (s : Stores) : Prop where
  fingerprint : s.identifiers key "fingerprint" = some fingerprint
  settle : ∃ v, s.identifiers key "settle" = some v ∧ IsAnswer v ∧ IsSuccess env v

structure CacheInvariant (env : Env) (key : String) (fingerprint : Json) (s : SharedState ι) :
    Prop where
  answers : ∀ v, s.shared.identifiers key "settle" = some v → IsAnswer v
  bound : ∀ e ∈ s.log, ShowsFingerprint key fingerprint e.toEvent →
    s.shared.identifiers key "fingerprint" = some fingerprint
  kept : ∀ e ∈ s.log, ShowsSuccess env key e.toEvent →
    ∃ v, s.shared.identifiers key "settle" = some v ∧ IsSuccess env v

/-- What one operation does to the two fields. -/
theorem identifiers_step {s : SharedState ι} {i : ι} {o : Op} {r : Ret o} {t : Stores}
    (hx : exec env s.shared o r = some t) (hkeep : KeepsSuccess env s ⟨⟨o, r⟩, i⟩)
    (ho : CacheOp key fingerprint o) :
    (∀ v, s.shared.identifiers key "fingerprint" = some v →
      t.identifiers key "fingerprint" = some v) ∧
    (t.identifiers key "settle" = s.shared.identifiers key "settle" ∨
      ∃ v, o = .hset key "settle" v ∧ t.identifiers key "settle" = some v ∧ IsAnswer v ∧
        ∀ old, s.shared.identifiers key "settle" = some old → IsSuccess env old →
          IsSuccess env v) := by
  by_cases hr : o.readsIdentifiers = true
  · rw [exec_readsIdentifiers hr hx]
    exact ⟨fun v hv => hv, .inl rfl⟩
  · cases o with
    | hsetnx k field value =>
      obtain ⟨rfl, rfl, rfl⟩ := ho
      cases hs : s.shared.identifiers k "fingerprint" with
      | none =>
        obtain ⟨-, rfl⟩ : r = true ∧ t = s.shared.setIdentifier k "fingerprint" value := by
          simpa [exec, hs] using hx
        refine ⟨fun v hv => (by cases hv), .inl ?_⟩
        simp [Stores.setIdentifier]
      | some old =>
        obtain ⟨-, rfl⟩ : r = false ∧ t = s.shared := by simpa [exec, hs] using hx
        exact ⟨fun v hv => hs.trans hv, .inl rfl⟩
    | hset k field value =>
      obtain ⟨rfl, rfl, hanswer⟩ := ho
      obtain rfl : s.shared.setIdentifier k "settle" value = t := by simpa [exec] using hx
      refine ⟨fun v hv => by simpa [Stores.setIdentifier] using hv, .inr ⟨value, rfl, ?_, hanswer, ?_⟩⟩
      · simp [Stores.setIdentifier]
      · exact fun old hold hsuccess => hkeep k "settle" value old rfl hold hsuccess
    | _ => exact absurd rfl hr

theorem HoldsSuccess.step {s : SharedState ι} {i : ι} {o : Op} {r : Ret o} {t : Stores}
    (h : HoldsSuccess env key fingerprint s.shared) (hx : exec env s.shared o r = some t)
    (hkeep : KeepsSuccess env s ⟨⟨o, r⟩, i⟩) (ho : CacheOp key fingerprint o) :
    HoldsSuccess env key fingerprint t := by
  obtain ⟨hfp, hsettle⟩ := identifiers_step hx hkeep ho
  obtain ⟨v, hv, hanswer, hsuccess⟩ := h.settle
  refine ⟨hfp _ h.fingerprint, ?_⟩
  rcases hsettle with hsame | ⟨v', -, hv', hanswer', hkept⟩
  · exact ⟨v, hsame.trans hv, hanswer, hsuccess⟩
  · exact ⟨v', hv', hanswer', hkept v hv hsuccess⟩

theorem CacheInvariant.step {s : SharedState ι} {i : ι} {o : Op} {r : Ret o} {t : Stores}
    (h : CacheInvariant env key fingerprint s) (hx : exec env s.shared o r = some t)
    (hkeep : KeepsSuccess env s ⟨⟨o, r⟩, i⟩) (ho : CacheOp key fingerprint o) :
    CacheInvariant env key fingerprint (s.push i o r t) := by
  obtain ⟨hfp, hsettle⟩ := identifiers_step hx hkeep ho
  have hread : ∀ field v, (⟨o, r⟩ : Event Op Ret) = ⟨.hget key field, some v⟩ →
      t = s.shared ∧ s.shared.identifiers key field = some v := by
    intro field v he
    cases he
    obtain ⟨hr, rfl⟩ := answered_eq_some.mp hx
    exact ⟨rfl, hr.symm⟩
  constructor
  · intro v hv
    rcases hsettle with hsame | ⟨v', -, hv', hanswer, -⟩
    · exact h.answers v (hsame.symm.trans hv)
    · rw [State.push_shared, hv'] at hv
      exact Option.some.inj hv ▸ hanswer
  · intro e he hshows
    rcases List.mem_cons.mp he with rfl | he
    · obtain ⟨rfl, hv⟩ := hread "fingerprint" fingerprint hshows
      exact hv
    · exact hfp _ (h.bound e he hshows)
  · intro e he hshows
    rcases List.mem_cons.mp he with rfl | he
    · obtain ⟨v, hv, hset | hget⟩ := hshows
      · cases hset
        have hx' : exec env s.shared (.hset key "settle" v) () = some t := hx
        obtain rfl : s.shared.setIdentifier key "settle" v = t := by simpa [exec] using hx'
        exact ⟨v, by simp [Stores.setIdentifier], hv⟩
      · obtain ⟨rfl, hfield⟩ := hread "settle" v hget
        exact ⟨v, hfield, hv⟩
    · obtain ⟨v, hv, hsuccess⟩ := h.kept e he hshows
      rcases hsettle with hsame | ⟨v', -, hv', -, hkept⟩
      · exact ⟨v, hsame.trans hv, hsuccess⟩
      · exact ⟨v', hv', hkept v hv hsuccess⟩

theorem cacheInvariant_init :
    CacheInvariant env key fingerprint (⟨Stores.empty, []⟩ : SharedState ι) where
  answers v hv := by cases hv
  bound e he := by cases he
  kept e he := by cases he

end Cache

/-! ## Section 5: Paths of the handler -/

section Paths

variable {F} {pages : Nat} {payload : PaymentPayload} {requirements : PaymentRequirements}
variable {identifier key : String} {fingerprint : Json}

/-- The fingerprint as it is stored. -/
def storedFingerprint (env : Env) (payload : PaymentPayload) (requirements : PaymentRequirements) :
    Json := .str (paymentFingerprint env payload requirements)

/-- A request with an identifier: three commands bind the key, and a fourth
    looks for an answer. -/
theorem postSettle_eq (hid : PaymentIdentifierStore.identifierOf env payload = .ok (some identifier))
    (hkey : key = PaymentIdentifierStore.key env identifier requirements)
    (hfp : fingerprint = storedFingerprint env payload requirements) :
    postSettle F pages payload requirements =
      .call (.hsetnx key "fingerprint" fingerprint) fun _ =>
        .call (.hget key "fingerprint") fun existing =>
          if existing ≠ some fingerprint then .raise PaymentIdentifierStore.conflict
          else .call (.expire key) fun _ => .call (.hget key "settle") fun cached =>
            answerCached F pages payload requirements (some key) cached := by
  subst hkey hfp
  unfold postSettle PaymentIdentifierStore.getCached PaymentIdentifierStore.bind check
  rw [hid]
  refine congrArg (Prog.call _) (funext fun created => ?_)
  refine congrArg (Prog.call _) (funext fun existing => ?_)
  by_cases h : existing ≠ some (storedFingerprint env payload requirements)
  · rw [if_pos h]
    simp only [Prog.bind, storedFingerprint] at h ⊢
    rw [if_pos h]
    rfl
  · rw [if_neg h]
    simp only [Prog.bind, storedFingerprint] at h ⊢
    rw [if_neg h]
    rfl

theorem cacheOp_of_readsIdentifiers {o : Op} (h : o.readsIdentifiers = true) :
    CacheOp key fingerprint o := by
  cases o with
  | hsetnx key field value => cases h
  | hset key field value => cases h
  | _ => trivial

theorem uses_settleAndPut :
    (settleAndPut F pages payload requirements (some key)).Uses (CacheOp key fingerprint) := by
  have hsettling : Settling (settle F pages payload requirements) := settling_settle pages payload
  have hsettle := hsettling.uses
  refine (hsettle.mono fun _ => cacheOp_of_readsIdentifiers).bind fun settled => ?_
  refine Uses.bind ?_ fun result => ?_
  · unfold withCatalog
    split
    · exact ⟨trivial, fun answer => (uses_ofExcept _).bind fun _ => uses_ret _⟩
    · exact uses_ret _
  · split
    · next hreason => exact ⟨⟨rfl, rfl, result, hreason, rfl⟩, fun _ => ⟨trivial, fun _ => trivial⟩⟩
    · exact uses_ret _

theorem uses_postSettle
    (hid : PaymentIdentifierStore.identifierOf env payload = .ok (some identifier))
    (hkey : key = PaymentIdentifierStore.key env identifier requirements)
    (hfp : fingerprint = storedFingerprint env payload requirements) :
    (postSettle F pages payload requirements).Uses (CacheOp key fingerprint) := by
  rw [postSettle_eq hid hkey hfp]
  refine ⟨⟨rfl, rfl, rfl⟩, fun _ => ⟨trivial, fun existing => ?_⟩⟩
  beta_reduce
  split
  · exact uses_raise _
  · refine ⟨trivial, fun _ => ⟨trivial, fun cached => ?_⟩⟩
    cases cached with
    | none => exact uses_settleAndPut
    | some cached =>
      refine (uses_ofExcept _).bind fun reason => ?_
      split
      · exact uses_ofExcept _
      · exact uses_settleAndPut

/-- A success that was settled was put into the cache. -/
theorem shows_of_settled {t : List (Event Op Ret)} {resp : SettleResponse}
    (h : Path (settleAndPut F pages payload requirements (some key)) t (.ok resp))
    (hs : resp.success = true) : ∃ e ∈ t, ShowsSuccess env key e := by
  unfold settleAndPut at h
  obtain ⟨t₁, t₂, settled, rfl, hsettle, h⟩ := path_bind_ok.mp h
  have hcoherent := (settling_settle pages payload).of_path hsettle
  obtain ⟨t₃, t₄, result, rfl, hcatalog, h⟩ := path_bind_ok.mp h
  have hsame : result.success = settled.success ∧ result.errorReason = settled.errorReason := by
    unfold withCatalog at hcatalog
    split at hcatalog
    · obtain ⟨answer, t', -, hcatalog⟩ := hcatalog
      obtain ⟨cataloged, -, hcatalog⟩ := path_ofExcept_bind_ok.mp hcatalog
      obtain ⟨-, hr⟩ := hcatalog
      rw [Except.ok.inj hr]
      split
      · exact ⟨rfl, rfl⟩
      · exact ⟨rfl, rfl⟩
    · obtain ⟨-, hr⟩ := hcatalog
      rw [Except.ok.inj hr]
      exact ⟨rfl, rfl⟩
  split at h
  · obtain ⟨u, t₅, rfl, u', t₆, rfl, -, hr⟩ := h
    have hresult : resp = result := Except.ok.inj hr
    refine ⟨_, by simp, serialized result.modelDump, ?_, .inl rfl⟩
    rw [isSuccess_serialized, ← hresult]
    exact hs
  · next hreason =>
    -- A pending answer is no success.
    obtain ⟨-, hr⟩ := h
    rw [Except.ok.inj hr, hsame.1] at hs
    have hnone := hsame.2.trans (hcoherent hs)
    exact absurd (by rw [hnone]; simp) hreason

/-- A success shows that the cache holds one for the fingerprint. -/
theorem shows_of_success {t : List (Event Op Ret)} {resp : SettleResponse}
    (hid : PaymentIdentifierStore.identifierOf env payload = .ok (some identifier))
    (hkey : key = PaymentIdentifierStore.key env identifier requirements)
    (hfp : fingerprint = storedFingerprint env payload requirements)
    (h : Path (postSettle F pages payload requirements) t (.ok resp)) (hs : resp.success = true) :
    (∃ e ∈ t, ShowsFingerprint key fingerprint e) ∧ ∃ e ∈ t, ShowsSuccess env key e := by
  rw [postSettle_eq hid hkey hfp] at h
  obtain ⟨created, t₁, rfl, existing, t₂, rfl, h⟩ := h
  beta_reduce at h
  split at h
  · obtain ⟨-, he⟩ := h
    cases he
  · next hexisting =>
    obtain ⟨u, t₃, rfl, cached, t₄, rfl, h⟩ := h
    refine ⟨⟨⟨.hget key "fingerprint", existing⟩, by simp, ?_⟩, ?_⟩
    · rw [not_not.mp hexisting]
      rfl
    · have hsettled : Path (settleAndPut F pages payload requirements (some key)) t₄ (.ok resp) →
          ∃ e ∈ (⟨.hsetnx key "fingerprint" fingerprint, created⟩ ::
            ⟨.hget key "fingerprint", existing⟩ :: ⟨.expire key, u⟩ ::
              ⟨.hget key "settle", cached⟩ :: t₄ : List (Event Op Ret)), ShowsSuccess env key e := by
        intro hp
        obtain ⟨e, he, hshows⟩ := shows_of_settled hp hs
        exact ⟨e, by simp [he], hshows⟩
      cases cached with
      | none => exact hsettled h
      | some cached =>
        obtain ⟨reason, -, h⟩ := path_ofExcept_bind_ok.mp h
        split at h
        · obtain ⟨-, hr⟩ := path_ofExcept.mp h
          have hv : SettleResponse.modelValidate env cached = .ok resp := uncaught_eq_ok.mp hr.symm
          exact ⟨⟨.hget key "settle", some cached⟩, by simp, cached, ⟨resp, hv, hs⟩, .inr rfl⟩
        · exact hsettled h

/-- The request has been answered with a success, or it is among its first four
    operations and can go on. -/
def AnsweredWithSuccess (performed : Nat) (p : Service SettleResponse) : Prop :=
  (∃ resp, p = .ret resp ∧ resp.success = true) ∨ (performed < 4 ∧ ∃ o k, p = .call o k)

/-- The event is what a cache with a success for the fingerprint shows. -/
structure SeesSuccess (env : Env) (key : String) (fingerprint : Json) (e : Event Op Ret) : Prop where
  fingerprint : ∀ v, e = ⟨.hget key "fingerprint", v⟩ → v = some fingerprint
  settle : ∀ v, e = ⟨.hget key "settle", v⟩ → ∃ w, v = some w ∧ IsAnswer w ∧ IsSuccess env w

theorem answeredWithSuccess {t : List (Event Op Ret)} {p : Service SettleResponse}
    (hid : PaymentIdentifierStore.identifierOf env payload = .ok (some identifier))
    (hkey : key = PaymentIdentifierStore.key env identifier requirements)
    (hfp : fingerprint = storedFingerprint env payload requirements)
    (h : Steps (postSettle F pages payload requirements) t p)
    (ht : ∀ e ∈ t, SeesSuccess env key fingerprint e) : AnsweredWithSuccess t.length p := by
  rw [postSettle_eq hid hkey hfp] at h
  cases t with
  | nil => exact .inr ⟨by simp, _, _, h⟩
  | cons e₁ t =>
    obtain ⟨created, rfl, h⟩ := h
    cases t with
    | nil => exact .inr ⟨by simp, _, _, h⟩
    | cons e₂ t =>
      obtain ⟨existing, rfl, h⟩ := h
      have hexisting := (ht ⟨.hget key "fingerprint", existing⟩ (by simp)).fingerprint existing rfl
      beta_reduce at h
      rw [if_neg (not_not.mpr hexisting)] at h
      cases t with
      | nil => exact .inr ⟨by simp, _, _, h⟩
      | cons e₃ t =>
        obtain ⟨u, rfl, h⟩ := h
        cases t with
        | nil => exact .inr ⟨by simp, _, _, h⟩
        | cons e₄ t =>
          obtain ⟨cached, rfl, h⟩ := h
          have hcached := (ht ⟨.hget key "settle", cached⟩ (by simp)).settle cached rfl
          obtain ⟨v, rfl, hanswer, resp, hresp, hs⟩ := hcached
          -- The cached success is returned at once.
          have hret : answerCached F pages payload requirements (some key) (some v) = .ret resp := by
            obtain ⟨reason, hreason, hne⟩ := getAttr_of_isAnswer hanswer
            simp [answerCached, hreason, lift, uncaught, hne, hresp]
          beta_reduce at h
          rw [hret] at h
          cases t with
          | nil => exact .inl ⟨resp, h, hs⟩
          | cons e t => exact h.elim

end Paths

/-! ## Section 6: Final successes -/

section Final

variable {ι : Type} [DecidableEq ι]

/-- Requests that begin after a success are answered with a success. -/
def SuccessIsFinal (c c' : SettleConfig ι) : Prop :=
  ∀ i resp, c.threads i = some (.ret resp) → resp.success = true →
    ∀ j p, c.threads j = none → c'.threads j = some p →
      AnsweredWithSuccess (own j c'.state.log).length p

theorem seesSuccess_of_holds {key : String} {fingerprint : Json} {s : Stores} {e : Event Op Ret}
    {t : Stores} (h : HoldsSuccess env key fingerprint s) (hx : exec env s e.op e.ans = some t) :
    SeesSuccess env key fingerprint e := by
  constructor
  · intro v he
    subst he
    exact (answered_eq_some.mp hx).1.trans h.fingerprint
  · intro v he
    subst he
    obtain ⟨w, hw, hanswer, hsuccess⟩ := h.settle
    exact ⟨w, (answered_eq_some.mp hx).1.trans hw, hanswer, hsuccess⟩

theorem success_is_final (facilitators : ι → ExactXRPLFacilitatorScheme env) (pages : ι → Nat)
    (payload : PaymentPayload) (requirements : PaymentRequirements) (identifier : String)
    (c c' : SettleConfig ι)
    (hid : PaymentIdentifierStore.identifierOf env payload = .ok (some identifier))
    (hc : Run (endpointSystem env (identicalCalls facilitators pages payload requirements))
      (KeepsSuccess env) (Config.init Stores.empty) c)
    (h : Run (endpointSystem env (identicalCalls facilitators pages payload requirements))
      (KeepsSuccess env) c c') : SuccessIsFinal c c' := by
  intro i resp hi hs j p hj hp
  obtain ⟨key, hkey⟩ : ∃ key, key = PaymentIdentifierStore.key env identifier requirements :=
    ⟨_, rfl⟩
  obtain ⟨fingerprint, hfp⟩ : ∃ fp, fp = storedFingerprint env payload requirements := ⟨_, rfl⟩
  have huses : ∀ i, ((endpointSystem env
      (identicalCalls facilitators pages payload requirements)).prog i).Uses
        (CacheOp key fingerprint) := fun i => uses_postSettle hid hkey hfp
  -- At `c` the cache holds the success.
  obtain ⟨hfirst, hthreads⟩ := hc.footprint huses fun _ _ hp => by cases hp
  have hinv : CacheInvariant env key fingerprint c.state := by
    refine hfirst.keep (I := CacheInvariant env key fingerprint) ?_
      cacheInvariant_init
    intro s i o r t hs hx ha
    exact hs.step hx ha.1 ha.2
  have hholds : HoldsSuccess env key fingerprint c.state.shared := by
    have hpath := hc.own_path hi ⟨rfl, rfl⟩
    obtain ⟨⟨e, he, hshows⟩, e', he', hshows'⟩ := shows_of_success hid hkey hfp hpath hs
    obtain ⟨v, hv, hsuccess⟩ := hinv.kept _ (mem_own.mp he') hshows'
    exact ⟨hinv.bound _ (mem_own.mp he) hshows, v, hv, hinv.answers v hv, hsuccess⟩
  -- From there on every answer of the cache shows it.
  have hlater : HoldsSuccess env key fingerprint c'.state.shared ∧
      ∃ newer, c'.state.log = newer ++ c.state.log ∧
        ∀ e ∈ newer, SeesSuccess env key fingerprint e.toEvent := by
    refine (h.footprint huses hthreads).1.keep (I := fun s => HoldsSuccess env key fingerprint s.shared ∧
      ∃ newer, s.log = newer ++ c.state.log ∧
        ∀ e ∈ newer, SeesSuccess env key fingerprint e.toEvent) ?_ ⟨hholds, [], rfl, by simp⟩
    rintro s i o r t ⟨hs, newer, hlog, hnewer⟩ hx ha
    refine ⟨hs.step hx ha.1 ha.2, ⟨⟨o, r⟩, i⟩ :: newer, by rw [State.push_log, hlog]; rfl, ?_⟩
    intro e he
    rcases List.mem_cons.mp he with rfl | he
    · exact seesSuccess_of_holds hs hx
    · exact hnewer e he
  obtain ⟨-, newer, hlog, hnewer⟩ := hlater
  have hsteps := (hc.trans h).own_steps j
  rw [hp] at hsteps
  have hidle := hc.own_steps j
  rw [hj] at hidle
  refine answeredWithSuccess hid hkey hfp hsteps fun e he => ?_
  rw [hlog, own_append, hidle, List.nil_append] at he
  exact hnewer _ (mem_own.mp he)

end Final

/-! ### Runs with and without an overlap -/

namespace Sample

/-- The numerals of the run below. -/
local instance threeRequests : NeZero 3 := ⟨by decide⟩

/-- Three requests with one identifier. -/
def requests : Fin 3 → Call sampleEnv :=
  identicalCalls (fun _ => facilitator) (fun _ => 1) identifiedPayload requirements

def replayRequests (steps : List Step) (c : SettleConfig (Fin 3)) : Option (SettleConfig (Fin 3)) :=
  (endpointSystem sampleEnv requests).replay steps c

/-- Request 1 finds neither an answer nor a record; then request 0 does all it
    has to do and succeeds. -/
def overlap : List Step :=
  (.start 1 :: List.replicate 5 (stepBefore 16 1)) ++ .start 0 :: List.replicate 15 (stepBefore 16 0)

/-- Request 1 verifies, is refused and stores that; then request 2 is answered. -/
def afterwards : List Step :=
  List.replicate 4 (stepBefore 16 1) ++ .start 2 :: List.replicate 4 (stepBefore 16 2)

def request0Succeeded (c : SettleConfig (Fin 3)) : Bool :=
  c.outcome 0 = some (.ok success) && (c.threads 2).isNone

/-- Request 2 was answered with the refusal of request 1. -/
def request2Failed (c : SettleConfig (Fin 3)) : Bool := c.outcome 2 = some (.ok refusal.sorted)

theorem replay_overlap : (replayRequests overlap (Config.init Stores.empty)).any
    (fun c => request0Succeeded c && (replayRequests afterwards c).any request2Failed) = true := by
  decide +kernel

theorem requests_obey {before : Nat} {steps : List Step}
    (h : ∀ l ∈ steps, (∃ i, l = .start i) ∨ ∃ i, l = stepBefore before i) :
    ∀ l ∈ steps, l.Obeys ((ledgerBefore before).Allows "rPayer" hash) := by
  intro l hl
  rcases h l hl with ⟨i, rfl⟩ | ⟨i, rfl⟩
  · trivial
  · exact step_obeys before i

/-- Request 0 does all it has to do. -/
def alone : List Step := .start 0 :: List.replicate 15 (stepBefore 11 0)

/-- Request 2 is answered. -/
def retry : List Step := .start 2 :: List.replicate 4 (stepBefore 11 2)

/-- Nothing but successes is put into the cache. -/
def putsSuccess (e : Entry (Fin 3) Op Ret) : Bool :=
  match e.op with
  | .hset _ _ v => (SettleResponse.modelValidate sampleEnv v).toOption.any (·.success)
  | _ => true

/-- Request 2 was answered with the success of request 0. -/
def request2Succeeded (c : SettleConfig (Fin 3)) : Bool :=
  c.outcome 2 = some (.ok success.sorted) && c.state.log.all putsSuccess

theorem replay_alone : (replayRequests alone (Config.init Stores.empty)).any
    (fun c => request0Succeeded c && (replayRequests retry c).any request2Succeeded) = true := by
  decide +kernel

theorem keepsSuccess_of_putsSuccess {s : SharedState (Fin 3)} {e : Entry (Fin 3) Op Ret}
    (h : putsSuccess e = true) : KeepsSuccess sampleEnv s e := by
  intro key field value old he _ _
  have hany : (SettleResponse.modelValidate sampleEnv value).toOption.any (·.success) = true := by
    simpa [putsSuccess, he] using h
  cases hv : SettleResponse.modelValidate sampleEnv value with
  | error e =>
    rw [hv] at hany
    cases hany
  | ok r =>
    rw [hv] at hany
    exact ⟨r, hv, hany⟩

end Sample

/-- Request 1 finds no answer; request 0 settles the payment, answers with a
    success and stores it; request 1 then fails its verification and stores
    that; request 2 is answered with the failure. -/
theorem success_not_final : ∃ c c',
    Run (endpointSystem Sample.sampleEnv Sample.requests)
      ((Sample.ledgerBefore 16).Allows "rPayer" Sample.hash) (Config.init Stores.empty) c ∧
    Run (endpointSystem Sample.sampleEnv Sample.requests)
      ((Sample.ledgerBefore 16).Allows "rPayer" Sample.hash) c c' ∧ ¬ SuccessIsFinal c c' := by
  have hobeys : ∀ steps : List Sample.Step,
      (∀ l ∈ steps, (∃ i, l = .start i) ∨ ∃ i, l = Sample.stepBefore 16 i) → _ :=
    fun _ => Sample.requests_obey
  obtain ⟨c, hc, hfirst⟩ := System.exists_run (hobeys Sample.overlap (by simp [Sample.overlap]))
    Sample.replay_overlap
  rw [Bool.and_eq_true] at hfirst
  obtain ⟨c', h, hfailed⟩ := System.exists_run
    (hobeys Sample.afterwards (by simp [Sample.afterwards])) hfirst.2
  refine ⟨c, c', hc, h, fun hfinal => ?_⟩
  have hsucceeded := hfirst.1
  simp only [Sample.request0Succeeded, Bool.and_eq_true, decide_eq_true_eq,
    Option.isNone_iff_eq_none] at hsucceeded
  have h0 := Config.outcome_eq_ok.mp hsucceeded.1
  have h2 : c'.outcome 2 = some (.ok Sample.refusal.sorted) := by
    simpa [Sample.request2Failed] using hfailed
  rcases hfinal 0 Sample.success h0 rfl 2 _ hsucceeded.2 (Config.outcome_eq_ok.mp h2) with
    ⟨resp, hresp, hs⟩ | ⟨-, o, k, hcall⟩
  · rw [← Prog.ret.inj hresp] at hs
    cases hs
  · cases hcall

/-- Two requests one after the other. -/
theorem success_is_final_sample : ∃ c c' : SettleConfig (Fin 3),
    c.threads 0 = some (.ret Sample.success) ∧ c.threads 2 = none ∧
      c'.threads 2 = some (.ret Sample.success.sorted) ∧ SuccessIsFinal c c' := by
  have hobeys : ∀ steps : List Sample.Step,
      (∀ l ∈ steps, (∃ i, l = .start i) ∨ ∃ i, l = Sample.stepBefore 11 i) → _ :=
    fun _ => Sample.requests_obey
  obtain ⟨c, hc, hfirst⟩ := System.exists_run (hobeys Sample.alone (by simp [Sample.alone]))
    Sample.replay_alone
  rw [Bool.and_eq_true] at hfirst
  obtain ⟨c', h, hsecond⟩ := System.exists_run (hobeys Sample.retry (by simp [Sample.retry])) hfirst.2
  have hsucceeded := hfirst.1
  simp only [Sample.request0Succeeded, Bool.and_eq_true, decide_eq_true_eq,
    Option.isNone_iff_eq_none] at hsucceeded
  simp only [Sample.request2Succeeded, Bool.and_eq_true, decide_eq_true_eq,
    List.all_eq_true] at hsecond
  have hlog : ∀ e ∈ c.state.log, Sample.putsSuccess e = true :=
    fun e he => hsecond.2 e (h.log_suffix.subset he)
  have hkeep : ∀ s e, (Sample.ledgerBefore 11).Allows "rPayer" Sample.hash s e ∧
      Sample.putsSuccess e = true → KeepsSuccess Sample.sampleEnv s e :=
    fun s e hputs => Sample.keepsSuccess_of_putsSuccess hputs.2
  refine ⟨c, c', Config.outcome_eq_ok.mp hsucceeded.1, hsucceeded.2,
    Config.outcome_eq_ok.mp hsecond.1, ?_⟩
  exact success_is_final (fun _ => Sample.facilitator) (fun _ => 1) Sample.identifiedPayload
    Sample.requirements "order-0000000000001" c c' rfl ((hc.of_log hlog).mono hkeep)
    ((h.of_log hsecond.2).mono hkeep)

end XrplX402.Facilitator
