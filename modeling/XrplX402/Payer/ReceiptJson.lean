import XrplX402.Core.SettlementState
import XrplX402.Payer.Budget
import XrplX402.Py.Files

/-! # Receipts as lines

    What the journal writes for a receipt and what it makes of a line.

    * `StoredReceipt`: a receipt with the time at which it was made.
    * `modelValidateJson_modelDumpJson`: a receipt that is not nested too deeply
      is read back from its line, and no other one is.
    * `parse_beginning_of_text`: no beginning of the text of a receipt is read. -/

namespace XrplX402

open Py

/-! ## Section 1: The parts of a receipt -/

/-- All fields under their wire names. -/
def PaymentRequirements.fields (r : PaymentRequirements) : Dict :=
  [("scheme", .str r.scheme), ("network", .str r.network), ("asset", .str r.asset),
    ("amount", .str r.amount), ("payTo", .str r.payTo),
    ("maxTimeoutSeconds", .int r.maxTimeoutSeconds), ("extra", optDict r.extra)]

def PaymentRequirements.parse (env : Env) (d : Dict) : Option PaymentRequirements := do
  let scheme ← (Dict.get? d "scheme").bind Json.asStr?
  let network ← (Dict.get? d "network").bind Json.asStr?
  let asset ← (Dict.get? d "asset").bind Json.asStr?
  let amount ← (Dict.get? d "amount").bind Json.asStr?
  let payTo ← (Dict.get? d "payTo").bind Json.asStr?
  let maxTimeoutSeconds ← (Dict.get? d "maxTimeoutSeconds").bind (acceptInt env)
  let extra ← nullable Json.asDict? d "extra"
  return ⟨scheme, network, asset, amount, payTo, maxTimeoutSeconds, extra⟩

section Parts

variable {env : Env}

/-- An optional text or dictionary is read back. -/
theorem optionalField_optStr (o : Option String) :
    optionalField Json.asStr? (some (optStr o)) = some o := by
  cases o <;> rfl

theorem optionalField_optDict (o : Option Dict) :
    optionalField Json.asDict? (some (optDict o)) = some o := by
  cases o <;> rfl

theorem PaymentRequirements.parse_fields (r : PaymentRequirements) :
    PaymentRequirements.parse env r.fields = some r := by
  have hextra : nullable Json.asDict? r.fields "extra" = some r.extra := optionalField_optDict r.extra
  unfold PaymentRequirements.parse
  rw [hextra]
  rfl

theorem SettleResponse.parse_fields (r : SettleResponse) :
    SettleResponse.parse env r.fields = some r := by
  have hreason : nullable Json.asStr? r.fields "errorReason" = some r.errorReason :=
    optionalField_optStr r.errorReason
  have hmessage : nullable Json.asStr? r.fields "errorMessage" = some r.errorMessage :=
    optionalField_optStr r.errorMessage
  have hpayer : nullable Json.asStr? r.fields "payer" = some r.payer := optionalField_optStr r.payer
  have hamount : nullable Json.asStr? r.fields "amount" = some r.amount := optionalField_optStr r.amount
  have hextra : nullable Json.asDict? r.fields "extra" = some r.extra := optionalField_optDict r.extra
  have hextensions : nullable Json.asDict? r.fields "extensions" = some r.extensions :=
    optionalField_optDict r.extensions
  unfold SettleResponse.parse
  rw [hreason, hmessage, hpayer, hamount, hextra, hextensions]
  rfl

end Parts

/-- The dictionary, if there is one, holds JSON values. -/
def ProperDict (o : Option Dict) : Prop := ∀ d ∈ o, (Json.obj d).proper = true

instance (o : Option Dict) : Decidable (ProperDict o) :=
  inferInstanceAs (Decidable (∀ d ∈ o, _))

theorem ProperDict.optDict {o : Option Dict} (h : ProperDict o) : (optDict o).proper = true := by
  cases o with
  | none => rfl
  | some d => exact h d rfl

theorem proper_optStr (o : Option String) : (optStr o).proper = true := by
  cases o <;> rfl

namespace Payer

/-! ## Section 2: The lines of the journal -/

def ReceiptState.text : ReceiptState → String
  | paid => "paid"
  | pending => "pending"
  | failed => "failed"

/-- `Literal["paid", "pending", "failed"]` -/
def ReceiptState.ofText? (text : String) : Option ReceiptState :=
  if text = "paid" then some .paid
  else if text = "pending" then some .pending
  else if text = "failed" then some .failed
  else none

structure StoredReceipt where
  createdAt : String
  record : ReceiptRecord
  deriving DecidableEq

namespace StoredReceipt

/-- `receipt.model_dump(by_alias=True)` -/
def modelDump (r : StoredReceipt) : Dict :=
  [("created_at", .str r.createdAt), ("url", .str r.record.url), ("method", .str r.record.method),
    ("status_code", .int r.record.statusCode), ("state", .str r.record.state.text),
    ("settlement", .obj r.record.settlement.fields), ("accepted", .obj r.record.accepted.fields),
    ("request_fingerprint", optStr r.record.requestFingerprint)]

/-- `receipt.model_dump_json(by_alias=True)` -/
def modelDumpJson (r : StoredReceipt) : String :=
  String.ofList (write escapeControl (.obj r.modelDump))

def fieldNames : List String :=
  ["created_at", "url", "method", "status_code", "state", "settlement", "accepted",
    "request_fingerprint"]

def parse (env : Env) (d : Dict) : Option StoredReceipt := do
  let createdAt ← (Dict.get? d "created_at").bind Json.asStr?
  let url ← (Dict.get? d "url").bind Json.asStr?
  let method ← (Dict.get? d "method").bind Json.asStr?
  let statusCode ← (Dict.get? d "status_code").bind (acceptInt env)
  let state ← ((Dict.get? d "state").bind Json.asStr?).bind ReceiptState.ofText?
  let settlement ← ((Dict.get? d "settlement").bind Json.asDict?).bind (SettleResponse.parse env)
  let accepted ← ((Dict.get? d "accepted").bind Json.asDict?).bind (PaymentRequirements.parse env)
  let requestFingerprint ← nullable Json.asStr? d "request_fingerprint"
  return ⟨createdAt, url, method, statusCode, state, settlement, accepted, requestFingerprint⟩

/-- `ReceiptRecord.model_validate_json(raw_line)` -/
def modelValidateJson (env : Env) (rawLine : String) : Except Exc StoredReceipt :=
  let parsed :=
    match readJson rawLine with
    | some (.obj d) => if d.all fun kv => fieldNames.contains kv.1 then parse env d else none
    | _ => none
  match parsed with
  | some receipt => .ok receipt
  | none => .error (validationError env "ReceiptRecord" (.str rawLine))

/-- The untyped parts of the receipt are JSON values. -/
def Proper (r : StoredReceipt) : Prop :=
  ProperDict r.record.settlement.extra ∧ ProperDict r.record.settlement.extensions ∧
    ProperDict r.record.accepted.extra

instance (r : StoredReceipt) : Decidable r.Proper := inferInstanceAs (Decidable (_ ∧ _ ∧ _))

/-- The reader takes the text of the receipt. -/
def Readable (r : StoredReceipt) : Prop := (Json.obj r.modelDump).fits 0 = true

instance (r : StoredReceipt) : Decidable r.Readable := inferInstanceAs (Decidable (_ = true))

end StoredReceipt

/-! ## Section 3: Round trip -/

section RoundTrip

variable {env : Env} {r : StoredReceipt}

theorem proper_modelDump (h : r.Proper) : (Json.obj r.modelDump).proper = true := by
  obtain ⟨hextra, hextensions, haccepted⟩ := h
  have hsettlement : (Json.obj r.record.settlement.fields).proper = true := by
    refine proper_obj.mpr ⟨?_, ?_⟩
    · change ["success", "errorReason", "errorMessage", "payer", "transaction", "network", "amount",
        "extensions", "extra"].Nodup
      decide
    · simp only [SettleResponse.fields, List.forall_mem_cons, proper_optStr, hextra.optDict,
        hextensions.optDict, Json.proper, true_and, List.not_mem_nil, false_implies, implies_true]
  have hrequirements : (Json.obj r.record.accepted.fields).proper = true := by
    refine proper_obj.mpr ⟨?_, ?_⟩
    · change ["scheme", "network", "asset", "amount", "payTo", "maxTimeoutSeconds", "extra"].Nodup
      decide
    · simp only [PaymentRequirements.fields, List.forall_mem_cons, haccepted.optDict, Json.proper,
        true_and, List.not_mem_nil, false_implies, implies_true]
  refine proper_obj.mpr ⟨?_, ?_⟩
  · change StoredReceipt.fieldNames.Nodup
    decide
  · simp only [StoredReceipt.modelDump, List.forall_mem_cons, hsettlement, hrequirements, proper_optStr,
      List.not_mem_nil, false_implies, implies_true, and_true]
    exact ⟨rfl, rfl, rfl, rfl, rfl⟩

theorem parse_modelDump (r : StoredReceipt) : StoredReceipt.parse env r.modelDump = some r := by
  have hstate : ReceiptState.ofText? r.record.state.text = some r.record.state := by
    cases r.record.state <;> rfl
  have hfingerprint : nullable Json.asStr? r.modelDump "request_fingerprint" =
      some r.record.requestFingerprint := optionalField_optStr r.record.requestFingerprint
  have hsettlement : ((Dict.get? r.modelDump "settlement").bind Json.asDict?).bind
      (SettleResponse.parse env) = some r.record.settlement := SettleResponse.parse_fields _
  have haccepted : ((Dict.get? r.modelDump "accepted").bind Json.asDict?).bind
      (PaymentRequirements.parse env) = some r.record.accepted := PaymentRequirements.parse_fields _
  have hstate' : ((Dict.get? r.modelDump "state").bind Json.asStr?).bind ReceiptState.ofText? =
      some r.record.state := hstate
  unfold StoredReceipt.parse
  rw [hfingerprint, hsettlement, haccepted, hstate']
  rfl

theorem parse_text (h : r.Proper) : Py.parse r.modelDumpJson.toList = some (.obj r.modelDump) := by
  rw [StoredReceipt.modelDumpJson, String.toList_ofList]
  exact parse_write readsBack_escapeControl (proper_modelDump h)

theorem modelValidateJson_modelDumpJson (h : r.Proper) (hreadable : r.Readable) :
    StoredReceipt.modelValidateJson env r.modelDumpJson = .ok r := by
  have hnames : (r.modelDump.all fun kv => StoredReceipt.fieldNames.contains kv.1) = true := by
    change (StoredReceipt.fieldNames.all StoredReceipt.fieldNames.contains) = true
    decide
  have hread : readJson r.modelDumpJson = some (.obj r.modelDump) :=
    readJson_write (proper_modelDump h) hreadable
  unfold StoredReceipt.modelValidateJson
  simp only [hread, hnames, if_true, parse_modelDump]

/-- A receipt that is nested too deeply is written and cannot be read. -/
theorem modelValidateJson_of_not_readable (h : ¬ r.Readable) :
    ∃ e, StoredReceipt.modelValidateJson env r.modelDumpJson = .error e := by
  have hread : readJson r.modelDumpJson = none := readJson_of_not_fits (Bool.eq_false_iff.mpr h)
  unfold StoredReceipt.modelValidateJson
  simp only [hread]
  exact ⟨_, rfl⟩

/-- A text that is no JSON is no receipt. -/
theorem modelValidateJson_of_not_json {cs : List Char} (h : Py.parse cs = none) :
    StoredReceipt.modelValidateJson env (String.ofList cs) =
      .error (validationError env "ReceiptRecord" (.str (String.ofList cs))) := by
  have hread : readJson (String.ofList cs) = none := readJson_of_not_json h
  unfold StoredReceipt.modelValidateJson
  simp only [hread]

/-- The text of a receipt starts and ends with a brace. -/
theorem modelDumpJson_braces (r : StoredReceipt) :
    ∃ cs, r.modelDumpJson.toList = '\x7b' :: cs ++ ['\x7d'] := by
  obtain ⟨cs, hcs⟩ := write_last escapeControl r.modelDump true
  refine ⟨cs, ?_⟩
  rw [StoredReceipt.modelDumpJson, String.toList_ofList, write, hcs]
  rfl

theorem modelDumpJson_no_newline (r : StoredReceipt) :
    ∀ c ∈ r.modelDumpJson.toList, isNewline c = false := by
  rw [StoredReceipt.modelDumpJson, String.toList_ofList]
  exact write_no_newline escapeControl_no_newline _

theorem parse_beginning_of_text (h : r.Proper) {p t : List Char}
    (hsplit : r.modelDumpJson.toList = p ++ t) (hp : p ≠ []) (ht : t ≠ []) : Py.parse p = none := by
  obtain ⟨cs, hcs⟩ := modelDumpJson_braces r
  have htext := parse_text h
  obtain ⟨c, q, rfl⟩ := List.exists_cons_of_ne_nil hp
  have hc : c = '\x7b' := by
    rw [hsplit] at hcs
    exact (List.cons.inj hcs).1
  subst hc
  rw [hsplit] at htext
  apply parse_beginning htext
  -- the rest ends with the closing brace, which is no blank
  intro hblank
  have hlast : t.getLast? = some '\x7d' := by
    have h₁ : ('\x7b' :: q ++ t).getLast? = some '\x7d' := by
      rw [← hsplit, hcs]
      exact List.getLast?_concat
    rwa [List.getLast?_append_of_ne_nil _ ht] at h₁
  have hspace : isJsonSpace '\x7d' = true :=
    List.dropWhile_eq_nil_iff.mp hblank _ (List.mem_of_getLast? hlast)
  exact absurd hspace (by decide)

end RoundTrip

end Payer

end XrplX402
