import XrplX402.Core.Helpers

/-! # Settlement responses

    The answer to a settlement, as the facilitator builds it and as servers
    hand it to payers, with its JSON form.

    * `serialized`: a dumped record as the caches hold it.
    * `modelValidate_serialized`: what was dumped can be read back. -/

namespace XrplX402

open Py

/-! ## Section 1: Responses -/

structure SettleResponse where
  success : Bool
  errorReason : Option String
  errorMessage : Option String
  payer : Option String
  transaction : String
  network : String
  amount : Option String
  extra : Option Dict
  extensions : Option Dict
  deriving DecidableEq

/-- The response leaves the outcome open. -/
def SettleResponse.IsPending (resp : SettleResponse) : Prop :=
  resp.errorReason = some "settlement_pending"

instance (resp : SettleResponse) : Decidable resp.IsPending :=
  inferInstanceAs (Decidable (resp.errorReason = some "settlement_pending"))

/-- Only failures have a reason. -/
def SettleResponse.Coherent (r : SettleResponse) : Prop := r.success = true → r.errorReason = none

theorem coherent_of_failure {r : SettleResponse} (h : r.success = false) : r.Coherent := by
  intro hs
  rw [h] at hs
  cases hs

/-! ## Section 2: Responses as JSON -/

/-- All fields under their wire names. -/
def SettleResponse.fields (r : SettleResponse) : Dict :=
  [("success", .bool r.success), ("errorReason", optStr r.errorReason),
    ("errorMessage", optStr r.errorMessage), ("payer", optStr r.payer),
    ("transaction", .str r.transaction), ("network", .str r.network), ("amount", optStr r.amount),
    ("extensions", optDict r.extensions), ("extra", optDict r.extra)]

def SettleResponse.modelDump (r : SettleResponse) : Dict := excludeNone r.fields

/-- A field that may be missing or `None`. -/
def nullable {α : Type} (accept : Json → Option α) (d : Dict) (k : String) : Option (Option α) :=
  optionalField accept (Dict.get? d k)

def SettleResponse.parse (env : Env) (d : Dict) : Option SettleResponse := do
  let success ← (Dict.get? d "success").bind (acceptBool env)
  let errorReason ← nullable Json.asStr? d "errorReason"
  let errorMessage ← nullable Json.asStr? d "errorMessage"
  let payer ← nullable Json.asStr? d "payer"
  let transaction ← (Dict.get? d "transaction").bind Json.asStr?
  let network ← (Dict.get? d "network").bind Json.asStr?
  let amount ← nullable Json.asStr? d "amount"
  let extra ← nullable Json.asDict? d "extra"
  let extensions ← nullable Json.asDict? d "extensions"
  return ⟨success, errorReason, errorMessage, payer, transaction, network, amount, extra, extensions⟩

/-- `SettleResponse.model_validate(cached)` -/
def SettleResponse.modelValidate (env : Env) (cached : Json) : Except Exc SettleResponse :=
  match cached.asDict?.bind (SettleResponse.parse env) with
  | some r => .ok r
  | none => .error (validationError env "SettleResponse" cached)

/-- `json.dumps(response, sort_keys=True)`, as it is read back. -/
def serialized (response : Dict) : Json := (Json.obj response).sortKeys

/-- A response after a round trip through the cache. -/
def SettleResponse.sorted (r : SettleResponse) : SettleResponse :=
  { r with extra := r.extra.map Json.sortObj, extensions := r.extensions.map Json.sortObj }

section RoundTrip

variable {env : Env} (r : SettleResponse)

/-- An entry of a serialized response. -/
theorem get?_serialized (k : String) : Dict.get? (Json.sortObj r.modelDump) k =
    ((Dict.get? r.fields k).filter (· ≠ .null)).map Json.sortKeys := by
  have hnodup : (r.fields.map Prod.fst).Nodup := by
    change ["success", "errorReason", "errorMessage", "payer", "transaction", "network", "amount",
      "extensions", "extra"].Nodup
    decide
  rw [Json.get?_sortObj, SettleResponse.modelDump, get?_excludeNone hnodup]

variable {r}

theorem nullable_str {k : String} {o : Option String} (h : Dict.get? r.fields k = some (optStr o)) :
    nullable Json.asStr? (Json.sortObj r.modelDump) k = some o := by
  rw [nullable, get?_serialized, h]
  cases o <;> simp [Option.filter_some, optStr, optionalField, Json.asStr?, Json.sortKeys]

theorem nullable_dict {k : String} {o : Option Dict} (h : Dict.get? r.fields k = some (optDict o)) :
    nullable Json.asDict? (Json.sortObj r.modelDump) k = some (o.map Json.sortObj) := by
  rw [nullable, get?_serialized, h]
  cases o <;> simp [Option.filter_some, optDict, optionalField, Json.asDict?, Json.sortKeys]

theorem required_str {k s : String} (h : Dict.get? r.fields k = some (.str s)) :
    (Dict.get? (Json.sortObj r.modelDump) k).bind Json.asStr? = some s := by
  rw [get?_serialized, h]
  simp [Option.filter_some, Json.asStr?]

theorem required_bool {k : String} {b : Bool} (h : Dict.get? r.fields k = some (.bool b)) :
    (Dict.get? (Json.sortObj r.modelDump) k).bind (acceptBool env) = some b := by
  rw [get?_serialized, h]
  simp [Option.filter_some, acceptBool, Json.sortKeys]

/-- A response that was put into the cache can be read back. -/
theorem modelValidate_serialized (r : SettleResponse) :
    SettleResponse.modelValidate env (serialized r.modelDump) = .ok r.sorted := by
  have hparse : SettleResponse.parse env (Json.sortObj r.modelDump) = some r.sorted := by
    unfold SettleResponse.parse
    rw [required_bool (b := r.success) rfl, nullable_str (o := r.errorReason) rfl,
      nullable_str (o := r.errorMessage) rfl, nullable_str (o := r.payer) rfl,
      required_str (s := r.transaction) rfl, required_str (s := r.network) rfl,
      nullable_str (o := r.amount) rfl, nullable_dict (o := r.extra) rfl,
      nullable_dict (o := r.extensions) rfl]
    rfl
  simp [SettleResponse.modelValidate, serialized, Json.sortKeys, Json.asDict?, hparse]

end RoundTrip

end XrplX402
