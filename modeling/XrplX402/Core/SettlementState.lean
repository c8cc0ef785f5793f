import XrplX402.Core.Responses
import XrplX402.Py.Limits

/-! # Settlement states as JSON

    What `model_dump_json` writes of a settlement state and what
    `model_validate_json` makes of a text.

    * `Valid`: what the validator guarantees of the result of a state, beyond
      what the state carries itself. Every state that the validator builds is
      valid, and so is a copy with a result whose keys carry no blanks.
    * `Storable`: valid states that are written, and that the reader takes.
    * `modelValidateJson_modelDumpJson`: a storable state is read back. -/

namespace XrplX402

open Py

/-! ## Section 1: Writing -/

/-- `state.model_dump()` -/
def XRPLSettlementState.modelDump (s : XRPLSettlementState) : Dict :=
  [("transaction", .str s.transaction), ("network", .str s.network), ("payer", optStr s.payer),
    ("first_ledger_sequence", .int s.firstLedgerSequence),
    ("last_ledger_sequence", .int s.lastLedgerSequence),
    ("payment_fingerprint", .str s.paymentFingerprint), ("status", .str s.status.text),
    ("result", optDict s.result)]

/-- `state.model_dump_json()` -/
def XRPLSettlementState.modelDumpJson (s : XRPLSettlementState) : String :=
  String.ofList (write escapeControl (.obj s.modelDump))

def serializationError : Exc := valueError
  "Error serializing to JSON: ValueError: Circular reference detected (depth exceeded)"

/-! ## Section 2: Reading -/

/-- `Literal["pending", "failed", "validated"]` -/
def Status.ofText? (text : String) : Option Status :=
  if text = "pending" then some .pending
  else if text = "failed" then some .failed
  else if text = "validated" then some .validated
  else none

def acceptInt (env : Env) : Json → Option Int
  | .int n => some n
  | j => env.laxInt j

/-- `dict[str, Any]`: the keys are strings of the model, so they are trimmed. -/
def acceptResult : Json → Option Dict
  | .obj d => some (lastValues (d.map fun kv => (trim kv.1, kv.2)))
  | _ => none

def XRPLSettlementState.fieldNames : List String :=
  ["transaction", "network", "payer", "first_ledger_sequence", "last_ledger_sequence",
    "payment_fingerprint", "status", "result"]

/-- All fields, if every one of them is accepted. -/
def XRPLSettlementState.parse (env : Env) (d : Dict) : Option XRPLSettlementState := do
  let transaction ← (Dict.get? d "transaction").bind Json.asStr?
  let network ← (Dict.get? d "network").bind Json.asStr?
  let payer ← nullable Json.asStr? d "payer"
  let first ← (Dict.get? d "first_ledger_sequence").bind (acceptInt env)
  let last ← (Dict.get? d "last_ledger_sequence").bind (acceptInt env)
  let fingerprint ← (Dict.get? d "payment_fingerprint").bind Json.asStr?
  let status ← ((Dict.get? d "status").bind Json.asStr?).bind Status.ofText?
  let result ← nullable acceptResult d "result"
  return { XRPLSettlementState.new transaction network payer first last fingerprint status with
    result := result }

/-- `XRPLSettlementState.model_validate(d)` -/
def XRPLSettlementState.modelValidate (env : Env) (d : Dict) : Except Exc XRPLSettlementState :=
  let parsed :=
    if d.all fun kv => XRPLSettlementState.fieldNames.contains kv.1 then
      XRPLSettlementState.parse env d
    else none
  match parsed with
  | some state => .ok state
  | none => .error (validationError env "XRPLSettlementState" (.obj d))

/-- `XRPLSettlementState.model_validate_json(raw)` -/
def XRPLSettlementState.modelValidateJson (env : Env) (raw : String) :
    Except Exc XRPLSettlementState :=
  match readJson raw with
  | some (.obj d) => XRPLSettlementState.modelValidate env d
  | some j => .error (validationError env "XRPLSettlementState" j)
  | none => .error (validationError env "XRPLSettlementState" (.str raw))

/-! ## Section 3: Valid states -/

/-- A dictionary of JSON values whose keys carry no blanks at their ends. -/
def StrippedKeys (d : Dict) : Prop :=
  (Json.obj d).proper = true ∧ ∀ kv ∈ d, trim kv.1 = kv.1

def XRPLSettlementState.Valid (s : XRPLSettlementState) : Prop := ∀ r ∈ s.result, StrippedKeys r

/-- The state is valid, the serializer writes it, and the reader takes the text. -/
structure XRPLSettlementState.Storable (env : Env) (s : XRPLSettlementState) : Prop where
  valid : s.Valid
  serializable : env.serializable (.obj s.modelDump) = true
  fits : (Json.obj s.modelDump).fits 0 = true

theorem XRPLSettlementState.valid_withResult (s : XRPLSettlementState) (status : Status)
    {result : Dict} (h : StrippedKeys result) : (s.withResult status result).Valid := by
  intro r hr
  obtain rfl : result = r := Option.some.inj hr
  exact h

theorem XRPLSettlementState.valid_new (transaction network : String) (payer : Option String)
    (first last : Int) (fingerprint : String) (status : Status) :
    (XRPLSettlementState.new transaction network payer first last fingerprint status).Valid := by
  intro r hr
  cases hr

/-- Every entry of a dictionary comes from the members that were read. -/
theorem mem_of_mem_lastValues {kvs : List (String × Json)} {kv : String × Json}
    (h : kv ∈ lastValues kvs) :
    (∃ v, (kv.1, v) ∈ kvs) ∧ ∃ k, (k, kv.2) ∈ kvs := by
  induction kvs generalizing kv with
  | nil => cases h
  | cons lw kvs ih =>
    obtain ⟨l, w⟩ := lw
    rw [lastValues] at h
    rcases List.mem_cons.mp h with rfl | hmem
    · refine ⟨⟨w, List.mem_cons_self⟩, ?_⟩
      cases hget : (lastValues kvs).get? l with
      | none => exact ⟨l, List.mem_cons_self⟩
      | some v =>
        obtain ⟨before, behind, hsplit, -⟩ := List.lookup_eq_some_iff.mp hget
        have hmem : (l, v) ∈ lastValues kvs := by
          rw [hsplit]
          exact List.mem_append_right _ List.mem_cons_self
        obtain ⟨-, k, hk⟩ := ih hmem
        exact ⟨k, List.mem_cons_of_mem _ hk⟩
    · obtain ⟨⟨v, hv⟩, k, hk⟩ := ih (List.mem_of_mem_filter hmem)
      exact ⟨⟨v, List.mem_cons_of_mem _ hv⟩, k, List.mem_cons_of_mem _ hk⟩

theorem nodup_lastValues (kvs : List (String × Json)) : ((lastValues kvs).map Prod.fst).Nodup := by
  induction kvs with
  | nil => exact List.nodup_nil
  | cons lw kvs ih =>
    obtain ⟨l, w⟩ := lw
    rw [lastValues, List.map_cons, List.nodup_cons]
    constructor
    · intro hmem
      obtain ⟨kv, hkv, heq⟩ := List.mem_map.mp hmem
      have hne := List.of_mem_filter hkv
      simp [heq] at hne
    · exact ih.sublist (List.filter_sublist.map Prod.fst)

theorem strippedKeys_of_acceptResult {j : Json} {r : Dict} (hj : j.proper = true)
    (h : acceptResult j = some r) : StrippedKeys r := by
  unfold acceptResult at h
  split at h
  · next d =>
    obtain rfl := Option.some.inj h
    obtain ⟨-, hvalues⟩ := proper_obj.mp hj
    constructor
    · refine proper_obj.mpr ⟨nodup_lastValues _, fun kv hkv => ?_⟩
      obtain ⟨-, k, hk⟩ := mem_of_mem_lastValues hkv
      obtain ⟨lw, hlw, heq⟩ := List.mem_map.mp hk
      rw [← (Prod.mk.inj heq).2]
      exact hvalues lw hlw
    · intro kv hkv
      obtain ⟨⟨v, hv⟩, -⟩ := mem_of_mem_lastValues hkv
      obtain ⟨lw, -, heq⟩ := List.mem_map.mp hv
      rw [← (Prod.mk.inj heq).1]
      exact trim_trim _
  · cases h

/-- The validator builds valid states only. -/
theorem XRPLSettlementState.valid_of_modelValidate {env : Env} {d : Dict} {s : XRPLSettlementState}
    (hd : (Json.obj d).proper = true) (h : XRPLSettlementState.modelValidate env d = .ok s) :
    s.Valid := by
  have hparse : XRPLSettlementState.parse env d = some s := by
    unfold XRPLSettlementState.modelValidate at h
    split at h
    · cases hparsed : XRPLSettlementState.parse env d with
      | none =>
        rw [hparsed] at h
        cases h
      | some state =>
        rw [hparsed] at h
        exact congrArg some (Except.ok.inj h)
    · cases h
  simp only [XRPLSettlementState.parse, Option.bind_eq_bind, Option.bind_eq_some_iff,
    Option.pure_def] at hparse
  obtain ⟨_, -, _, -, _, -, _, -, _, -, _, -, _, -, result, hresult, heq⟩ := hparse
  obtain rfl := Option.some.inj heq
  intro r hr
  unfold nullable optionalField at hresult
  split at hresult
  · obtain rfl := Option.some.inj hresult
    cases hr
  · obtain rfl := Option.some.inj hresult
    cases hr
  · next j _ hget =>
    obtain ⟨r', hr', heq'⟩ := Option.map_eq_some_iff.mp hresult
    rw [← heq'] at hr
    obtain rfl : r' = r := Option.some.inj hr
    obtain ⟨before, behind, hsplit, -⟩ := List.lookup_eq_some_iff.mp hget
    have hmem : ("result", j) ∈ d := by
      rw [hsplit]
      simp
    exact strippedKeys_of_acceptResult ((proper_obj.mp hd).2 _ hmem) hr'

/-! ## Section 4: Round trip -/

section RoundTrip

variable {env : Env} {s : XRPLSettlementState}

theorem proper_modelDump (h : s.Valid) : (Json.obj s.modelDump).proper = true := by
  have hkeys : (s.modelDump.map Prod.fst).Nodup := by
    change XRPLSettlementState.fieldNames.Nodup
    decide
  have hresult : (optDict s.result).proper = true := by
    cases hr : s.result with
    | none => rfl
    | some r => exact (h r hr).1
  have hpayer : (optStr s.payer).proper = true := by cases s.payer <;> rfl
  refine proper_obj.mpr ⟨hkeys, ?_⟩
  simp only [XRPLSettlementState.modelDump, List.forall_mem_cons, hresult, hpayer, Json.proper,
    true_and, List.not_mem_nil, false_implies, implies_true]

theorem ofText?_text (status : Status) : Status.ofText? status.text = some status := by
  cases status <;> rfl

/-- Stripped keys that differ are kept as they are. -/
theorem acceptResult_of_strippedKeys {r : Dict} (h : StrippedKeys r) :
    acceptResult (.obj r) = some r := by
  have hmap : r.map (fun kv => (trim kv.1, kv.2)) = r := by
    refine (List.map_congr_left fun kv hkv => ?_).trans (List.map_id r)
    show (trim kv.1, kv.2) = kv
    rw [h.2 kv hkv]
  rw [acceptResult, hmap, lastValues_of_nodup (proper_obj.mp h.1).1]

theorem new_of_stripped (s : XRPLSettlementState) :
    { XRPLSettlementState.new s.transaction s.network s.payer s.firstLedgerSequence
      s.lastLedgerSequence s.paymentFingerprint s.status with result := s.result } = s := by
  obtain ⟨transaction, network, payer, first, last, fingerprint, status, result, hstripped⟩ := s
  obtain ⟨htransaction, hnetwork, hpayer, hfingerprint⟩ := hstripped
  have hpayer' : payer.map trim = payer := by
    cases payer with
    | none => rfl
    | some p => exact congrArg some (hpayer p rfl)
  simp only [XRPLSettlementState.new, htransaction, hnetwork, hpayer', hfingerprint]

theorem parse_modelDump (h : s.Valid) : XRPLSettlementState.parse env s.modelDump = some s := by
  have hpayer : nullable Json.asStr? s.modelDump "payer" = some s.payer := by
    show optionalField Json.asStr? (some (optStr s.payer)) = _
    cases s.payer <;> rfl
  have hresult : nullable acceptResult s.modelDump "result" = some s.result := by
    show optionalField acceptResult (some (optDict s.result)) = _
    cases hr : s.result with
    | none => rfl
    | some r =>
      show (acceptResult (.obj r)).map some = _
      rw [acceptResult_of_strippedKeys (h r hr)]
      rfl
  have hstatus : ((Dict.get? s.modelDump "status").bind Json.asStr?).bind Status.ofText? =
      some s.status := ofText?_text s.status
  unfold XRPLSettlementState.parse
  rw [hpayer, hresult, hstatus]
  exact congrArg some (new_of_stripped s)

theorem loads_modelDumpJson (h : s.Valid) : loads s.modelDumpJson = some (.obj s.modelDump) := by
  rw [loads, XRPLSettlementState.modelDumpJson, String.toList_ofList]
  exact parse_write readsBack_escapeControl (proper_modelDump h)

/-- What was written is read back. -/
theorem modelValidateJson_modelDumpJson (h : s.Storable env) :
    XRPLSettlementState.modelValidateJson env s.modelDumpJson = .ok s := by
  have hnames : (s.modelDump.all fun kv => XRPLSettlementState.fieldNames.contains kv.1) = true := by
    change (XRPLSettlementState.fieldNames.all XRPLSettlementState.fieldNames.contains) = true
    decide
  have hread : readJson s.modelDumpJson = some (.obj s.modelDump) :=
    readJson_write (proper_modelDump h.valid) h.fits
  rw [XRPLSettlementState.modelValidateJson, hread]
  show XRPLSettlementState.modelValidate env s.modelDump = _
  rw [XRPLSettlementState.modelValidate, hnames, if_pos rfl, parse_modelDump h.valid]

/-- A state that is nested too deeply is written and cannot be read. -/
theorem modelValidateJson_of_not_fits (env : Env) (h : (Json.obj s.modelDump).fits 0 = false) :
    ∃ e, XRPLSettlementState.modelValidateJson env s.modelDumpJson = .error e := by
  have hread : readJson s.modelDumpJson = none := readJson_of_not_fits h
  rw [XRPLSettlementState.modelValidateJson, hread]
  exact ⟨_, rfl⟩

/-- Where the result of a state stands, one level is open. -/
theorem fits_modelDump_iff : (Json.obj s.modelDump).fits 0 = true ↔
    (Json.int s.firstLedgerSequence).fits 1 = true ∧ (Json.int s.lastLedgerSequence).fits 1 = true ∧
      (optDict s.result).fits 1 = true := by
  have hpayer : (optStr s.payer).fits 1 = true := by cases s.payer <;> rfl
  simp [XRPLSettlementState.modelDump, Json.fits, Json.fitsMembers, hpayer, maxLevels]

end RoundTrip

end XrplX402
