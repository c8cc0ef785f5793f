import XrplX402.Interaction.Machine
import XrplX402.Payer.ReceiptJson

/-! # The receipt file

    The receipts are lines of a file. A line is appended by `os.write` calls
    that may each take a part of it and may be cut short; nothing is rolled
    back, and every operation reads the whole file.

    * `Writes`: how the operating system and the process behave in one append.
    * `fileJournal`: the operations on the bytes of the file.
    * `storedJournal`: the same operations on a list of receipts.
    * `intact_iff`: a failing append leaves a working journal if and only if
      nothing or everything of the line was written. -/

namespace XrplX402.Payer

open Py Interaction

/-! ## Section 1: Reading -/

def unicodeDecodeError : Exc := valueError "'utf-8' codec can't decode bytes"

/-- The receipts of some lines, up to the first line that is none. -/
def validateLines (env : Env) : List (List Char) → List StoredReceipt × Option Exc
  | [] => ([], none)
  | line :: lines =>
    match StoredReceipt.modelValidateJson env (String.ofList line) with
    | .error e => ([], some e)
    | .ok receipt => (receipt :: (validateLines env lines).1, (validateLines env lines).2)

/-- `_records_unlocked()`: what it yields, and what it raises after that. A
    file that is missing reads like an empty one. The lines before bytes that
    cannot be decoded are yielded. -/
def recordsUnlocked (env : Env) (bytes : List UInt8) : List StoredReceipt × Option Exc :=
  match decodeUtf8 bytes with
  | some text => validateLines env (textLines text.toList)
  | none =>
    let read := validateLines env (textLines (completeLines (decodeChunks bytes.length [] bytes)))
    (read.1, some (read.2.getD unicodeDecodeError))

/-- `list(records)` -/
def allRecords (records : List StoredReceipt × Option Exc) : Except Exc (List StoredReceipt) :=
  match records.2 with
  | some e => .error e
  | none => .ok records.1

/-- `any(wanted(existing) for existing in records)`, which stops at the first. -/
def anyRecord (wanted : ReceiptRecord → Bool) (records : List StoredReceipt × Option Exc) :
    Except Exc Bool :=
  if records.1.any fun existing => wanted existing.record then .ok true
  else
    match records.2 with
    | some e => .error e
    | none => .ok false

/-! ## Section 2: Writing -/

/-- What ends an operation before it returns. -/
inductive Stop where
  | raised (e : Exc)
  /-- The process dies. -/
  | died
  deriving DecidableEq

/-- The calls of one append: how many bytes the first calls take, what stops
    the next call if bytes remain (`none`: it takes the rest), and what stops
    the append once all bytes are taken. -/
structure Writes where
  counts : List Nat
  stop : Option Stop
  sync : Option Stop
  deriving DecidableEq

/-- Every byte is taken and nothing fails. -/
def Writes.complete : Writes := ⟨[], none, none⟩

def unableToAppend : Exc := ⟨.other, "Unable to append x402 receipt"⟩

/-- `while written < len(view)`, then `os.fsync`: the bytes that are taken of
    the rest of the line, and what stops the append. -/
def writeLoop (stop sync : Option Stop) : List Nat → List UInt8 → List UInt8 × Option Stop
  | _, [] => ([], sync)
  | [], byte :: rest =>
    match stop with
    | some s => ([], some s)
    | none => (byte :: rest, sync)
  | count :: counts, byte :: rest =>
    if count = 0 then ([], some (.raised unableToAppend))
    else
      let later := writeLoop stop sync counts ((byte :: rest).drop count)
      ((byte :: rest).take count ++ later.1, later.2)

/-- `(receipt.model_dump_json(by_alias=True) + "\n").encode("utf-8")` -/
def encodedLine (receipt : StoredReceipt) : List UInt8 := encodeUtf8 (receipt.modelDumpJson ++ "\n")

/-- The answer of an operation. -/
inductive JournalReply where
  | records (receipts : List StoredReceipt)
  | summary (summary : BudgetSummary)
  | appended (isNew : Bool)
  | stopped (stop : Stop)
  deriving DecidableEq

def JournalReply.raised (e : Exc) : JournalReply := .stopped (.raised e)

/-- `_receipt_key(existing) == key` for a receipt that has a key. -/
def sameKey (receipt existing : ReceiptRecord) : Bool := decide (existing.key = receipt.key)

/-- `key is not None and any(self._receipt_key(existing) == key for ...)` -/
def keyTaken (env : Env) (receipt : ReceiptRecord) (bytes : List UInt8) : Except Exc Bool :=
  if receipt.key.isSome then anyRecord (sameKey receipt) (recordsUnlocked env bytes) else .ok false

/-- The reply of an append whose key is new. -/
def writeReply (written : List UInt8 × Option Stop) : JournalReply :=
  match written.2 with
  | some stop => .stopped stop
  | none => .appended true

/-- `_append_unlocked(receipt)` -/
def appendUnlocked (env : Env) (receipt : StoredReceipt) (writes : Writes) (bytes : List UInt8) :
    JournalReply × List UInt8 :=
  match keyTaken env receipt.record bytes with
  | .error e => (.raised e, bytes)
  | .ok true => (.appended false, bytes)
  | .ok false =>
    if env.serializable (.obj receipt.modelDump) then
      let written := writeLoop writes.stop writes.sync writes.counts (encodedLine receipt)
      (writeReply written, bytes ++ written.1)
    else (.raised serializationError, bytes)

/-- A terminal receipt of the same request and transaction. -/
def terminalFor (receipt existing : ReceiptRecord) : Bool :=
  decide (existing.requestFingerprint = receipt.requestFingerprint ∧
    existing.settlement.transaction = receipt.settlement.transaction ∧
    (existing.state = .paid ∨ existing.state = .failed))

/-- What `record_outcome` makes of the index after the receipt is appended. -/
def indexOutcome (env : Env) (receipt : ReceiptRecord) (reuseUntil : ℚ) (attempts : Attempts) :
    Except Exc Attempts :=
  match receipt.fingerprint with
  | none => .ok attempts
  | some fingerprint =>
    match attemptFromIndex env attempts fingerprint with
    | .error e => .error e
    | .ok none => .ok attempts
    | .ok (some attempt) =>
      .ok ((Journal.mk attempts []).applyOutcome fingerprint attempt reuseUntil receipt.state).attempts

/-! ## Section 3: The journal as a file -/

structure ReceiptFile where
  bytes : List UInt8
  attempts : Attempts

/-- `now` is the reading of the clock of `record_outcome`. -/
inductive JournalCall where
  | list (limit : Int)
  | all
  | budgetSummary (network asset : String) (issuer : Option String) (maxSpend : Option Decimal)
  | append (receipt : StoredReceipt) (writes : Writes)
  | recordOutcome (receipt : StoredReceipt) (reuseSeconds now : ℚ) (writes : Writes)

/-- `list(reversed(deque(records, maxlen=limit)))` -/
def latest (limit : Int) (receipts : List StoredReceipt) : List StoredReceipt :=
  receipts.reverse.take limit.toNat

/-- `budget_summary(...)` once the receipts are read. -/
def summaryReply (env : Env) (receipts : List StoredReceipt) (network asset : String)
    (issuer : Option String) (maxSpend : Option Decimal) : JournalReply :=
  match budgetSummary env (receipts.map StoredReceipt.record) network asset issuer maxSpend with
  | .ok summary => .summary summary
  | .error e => .raised e

/-- The end of `record_outcome`, once the append has given its reply. -/
def outcomeReply (env : Env) (receipt : ReceiptRecord) (reuseUntil : ℚ) (attempts : Attempts) :
    JournalReply → JournalReply × Attempts
  | .appended isNew =>
    match indexOutcome env receipt reuseUntil attempts with
    | .ok attempts => (.appended isNew, attempts)
    | .error e => (.raised e, attempts)
  | reply => (reply, attempts)

/-- Is there a terminal receipt that an answer which is not paid must not follow? -/
def comesLate (env : Env) (receipt : ReceiptRecord) (bytes : List UInt8) : Except Exc Bool :=
  if receipt.fingerprint.isSome ∧ receipt.state ≠ .paid then
    anyRecord (terminalFor receipt) (recordsUnlocked env bytes)
  else .ok false

/-- `record_outcome(receipt)` -/
def recordOutcomeFile (env : Env) (receipt : StoredReceipt) (reuseSeconds now : ℚ) (writes : Writes)
    (file : ReceiptFile) : JournalReply × ReceiptFile :=
  match comesLate env receipt.record file.bytes with
  | .error e => (.raised e, file)
  | .ok true => (.appended false, file)
  | .ok false =>
    let appended := appendUnlocked env receipt writes file.bytes
    let outcome := outcomeReply env receipt.record (now + reuseSeconds) file.attempts appended.1
    (outcome.1, ⟨appended.2, outcome.2⟩)

/-- An operation that reads all receipts and answers from them. -/
def reading (env : Env) (answer : List StoredReceipt → JournalReply) (file : ReceiptFile) :
    JournalReply :=
  match allRecords (recordsUnlocked env file.bytes) with
  | .ok receipts => answer receipts
  | .error e => .raised e

def fileJournal (env : Env) : Machine ReceiptFile JournalCall JournalReply where
  step file call :=
    match call with
    | .list limit =>
      (if limit ≤ 0 then .records []
        else reading env (fun receipts => .records (latest limit receipts)) file, file)
    | .all => (reading env .records file, file)
    | .budgetSummary network asset issuer maxSpend =>
      (reading env (fun receipts => summaryReply env receipts network asset issuer maxSpend) file,
        file)
    | .append receipt writes =>
      let appended := appendUnlocked env receipt writes file.bytes
      (appended.1, { file with bytes := appended.2 })
    | .recordOutcome receipt reuseSeconds now writes =>
      recordOutcomeFile env receipt reuseSeconds now writes file

/-! ## Section 4: The journal as a list of receipts -/

structure StoredReceipts where
  receipts : List StoredReceipt
  attempts : Attempts

/-- The number of bytes that the calls take before one takes nothing. -/
def acceptedBytes : List Nat → Nat
  | [] => 0
  | count :: counts => if count = 0 then 0 else count + acceptedBytes counts

/-- Every byte of a line of `size` bytes is taken. -/
def Writes.Lands (writes : Writes) (size : Nat) : Prop :=
  size ≤ acceptedBytes writes.counts ∨ writes.stop = none ∧ 0 ∉ writes.counts

instance (writes : Writes) (size : Nat) : Decidable (writes.Lands size) :=
  inferInstanceAs (Decidable (_ ∨ _ ∧ _))

/-- The receipt has a key that is already stored. -/
def Taken (receipt : StoredReceipt) (receipts : List StoredReceipt) : Prop :=
  receipt.record.key.isSome ∧ receipts.any fun existing => sameKey receipt.record existing.record

instance (receipt : StoredReceipt) (receipts : List StoredReceipt) : Decidable (Taken receipt receipts) :=
  inferInstanceAs (Decidable (_ ∧ _))

/-- The receipts after an append: the new one only if it was written completely. -/
def appendStored (env : Env) (receipt : StoredReceipt) (writes : Writes)
    (receipts : List StoredReceipt) : JournalReply × List StoredReceipt :=
  if Taken receipt receipts then (.appended false, receipts)
  else if env.serializable (.obj receipt.modelDump) = false then (.raised serializationError, receipts)
  else
    let line := encodedLine receipt
    (writeReply (writeLoop writes.stop writes.sync writes.counts line),
      if writes.Lands line.length then receipts ++ [receipt] else receipts)

/-- A receipt that comes after a terminal one of its request and transaction. -/
def LateStored (receipt : StoredReceipt) (receipts : List StoredReceipt) : Prop :=
  (receipt.record.fingerprint.isSome ∧ receipt.record.state ≠ .paid) ∧
    receipts.any fun existing => terminalFor receipt.record existing.record

instance (receipt : StoredReceipt) (receipts : List StoredReceipt) :
    Decidable (LateStored receipt receipts) :=
  inferInstanceAs (Decidable (_ ∧ _))

def storedJournal (env : Env) : Machine StoredReceipts JournalCall JournalReply where
  step stored call :=
    match call with
    | .list limit =>
      (if limit ≤ 0 then .records [] else .records (latest limit stored.receipts), stored)
    | .all => (.records stored.receipts, stored)
    | .budgetSummary network asset issuer maxSpend =>
      (summaryReply env stored.receipts network asset issuer maxSpend, stored)
    | .append receipt writes =>
      let appended := appendStored env receipt writes stored.receipts
      (appended.1, { stored with receipts := appended.2 })
    | .recordOutcome receipt reuseSeconds now writes =>
      if LateStored receipt stored.receipts then (.appended false, stored)
      else
        let appended := appendStored env receipt writes stored.receipts
        let outcome := outcomeReply env receipt.record (now + reuseSeconds) stored.attempts appended.1
        (outcome.1, ⟨appended.2, outcome.2⟩)

/-- A line whose bytes are all taken adds its receipt. -/
theorem storedJournal_append_of_lands {env : Env} {receipt : StoredReceipt} {writes : Writes}
    {receipts : List StoredReceipt} (htaken : ¬ Taken receipt receipts)
    (hserializable : env.serializable (.obj receipt.modelDump) = true)
    (hlands : writes.Lands (encodedLine receipt).length) (attempts : Attempts) :
    ((storedJournal env).step ⟨receipts, attempts⟩ (.append receipt writes)).2.receipts =
      receipts ++ [receipt] := by
  show (appendStored env receipt writes receipts).2 = _
  rw [appendStored, if_neg htaken, if_neg (by rw [hserializable]; decide)]
  dsimp only
  rw [if_pos hlands]

/-- The list and the attempts as the journal that payments share. -/
def StoredReceipts.journal (stored : StoredReceipts) : Journal :=
  ⟨stored.attempts, stored.receipts.map StoredReceipt.record⟩

def replyOf : Except Exc Bool → JournalReply
  | .ok isNew => .appended isNew
  | .error e => .raised e

theorem lateStored_iff {receipt : StoredReceipt} {receipts : List StoredReceipt} :
    LateStored receipt receipts ↔ Late receipt.record (receipts.map StoredReceipt.record) := by
  simp only [LateStored, Late, terminalFor, List.any_eq_true, decide_eq_true_eq, List.mem_map,
    exists_exists_and_eq_and, and_assoc]

theorem taken_iff {receipt : StoredReceipt} {receipts : List StoredReceipt} :
    Taken receipt receipts ↔ receipt.record.key.isSome ∧
      (receipts.map StoredReceipt.record).any (fun existing => existing.key = receipt.record.key) := by
  simp [Taken, sameKey]

/-- A complete write appends as the shared journal does. -/
theorem appendStored_complete {env : Env} {receipt : StoredReceipt}
    (hserializable : env.serializable (.obj receipt.modelDump) = true) (receipts : List StoredReceipt) :
    (appendStored env receipt .complete receipts).1 =
        .appended (appendReceipt receipt.record (receipts.map StoredReceipt.record)).1 ∧
      (appendStored env receipt .complete receipts).2.map StoredReceipt.record =
        (appendReceipt receipt.record (receipts.map StoredReceipt.record)).2 := by
  have hlands : Writes.complete.Lands (encodedLine receipt).length := .inr ⟨rfl, List.not_mem_nil⟩
  have hwritten : writeReply (writeLoop none none [] (encodedLine receipt)) = .appended true := by
    cases encodedLine receipt with
    | nil => rfl
    | cons byte rest => rfl
  by_cases htaken : Taken receipt receipts
  · rw [appendStored, if_pos htaken, appendReceipt, if_pos (taken_iff.mp htaken)]
    exact ⟨rfl, rfl⟩
  · rw [appendStored, if_neg htaken, if_neg (by rw [hserializable]; decide), appendReceipt,
      if_neg (fun h => htaken (taken_iff.mpr h))]
    dsimp only
    rw [if_pos hlands]
    exact ⟨hwritten, by rw [List.map_append, List.map_singleton]⟩

theorem outcomeReply_appended (env : Env) (receipt : ReceiptRecord) (reuseUntil : ℚ)
    (attempts : Attempts) (isNew : Bool) :
    outcomeReply env receipt reuseUntil attempts (.appended isNew) =
      match indexOutcome env receipt reuseUntil attempts with
      | .ok attempts => (.appended isNew, attempts)
      | .error e => (.raised e, attempts) := rfl

/-- Without failures the list does what the journal that payments share does. -/
theorem storedJournal_recordOutcome (env : Env) (stored : StoredReceipts) (receipt : StoredReceipt)
    (hserializable : env.serializable (.obj receipt.modelDump) = true) (reuseSeconds now : ℚ) :
    ((storedJournal env).step stored (.recordOutcome receipt reuseSeconds now .complete)).1 =
        replyOf (recordOutcome env receipt.record reuseSeconds now stored.journal).1 ∧
      ((storedJournal env).step stored
          (.recordOutcome receipt reuseSeconds now .complete)).2.journal =
        (recordOutcome env receipt.record reuseSeconds now stored.journal).2 := by
  obtain ⟨hreply, hrecords⟩ := appendStored_complete hserializable stored.receipts
  -- A late receipt changes neither the list nor the attempts.
  by_cases hlate : LateStored receipt stored.receipts
  · have hlate' : Late receipt.record stored.journal.records := lateStored_iff.mp hlate
    simp only [storedJournal, recordOutcome, if_pos hlate, if_pos hlate']
    exact ⟨rfl, trivial⟩
  -- Another receipt is appended, and then the attempt is looked up.
  · have hlate' : ¬ Late receipt.record stored.journal.records := fun h => hlate (lateStored_iff.mpr h)
    simp only [storedJournal, recordOutcome, if_neg hlate, if_neg hlate', hreply,
      outcomeReply_appended, indexOutcome]
    cases hfingerprint : receipt.record.fingerprint with
    | none => exact ⟨rfl, congrArg (Journal.mk stored.attempts) hrecords⟩
    | some fingerprint =>
      have hattempts : stored.journal.attempts = stored.attempts := rfl
      dsimp only
      rw [hattempts]
      cases hindex : attemptFromIndex env stored.attempts fingerprint with
      | error e => exact ⟨rfl, congrArg (Journal.mk stored.attempts) hrecords⟩
      | ok found =>
        cases found with
        | none => exact ⟨rfl, congrArg (Journal.mk stored.attempts) hrecords⟩
        | some attempt =>
          refine ⟨rfl, ?_⟩
          rw [StoredReceipts.journal, hrecords]
          cases receipt.record.state <;> rfl

/-! ## Section 5: What a write leaves -/

theorem writeLoop_landed {stop sync : Option Stop} {counts : List Nat} {line : List UInt8}
    (h : line.length ≤ acceptedBytes counts ∨ stop = none ∧ 0 ∉ counts) :
    writeLoop stop sync counts line = (line, sync) := by
  induction counts generalizing line with
  | nil =>
    cases line with
    | nil => rfl
    -- No count is left, so the rest is written unless the call stops.
    | cons byte rest =>
      rcases h with hle | ⟨rfl, -⟩
      · exact absurd hle (by simp [acceptedBytes])
      · rfl
  | cons count counts ih =>
    cases line with
    | nil => rfl
    | cons byte rest =>
      -- A count of zero would end the loop early.
      have hcount : count ≠ 0 := by
        rintro rfl
        rcases h with hle | ⟨-, hzero⟩
        · exact absurd hle (by simp [acceptedBytes])
        · exact hzero List.mem_cons_self
      -- The rest of the line is written as well.
      have hlater : writeLoop stop sync counts ((byte :: rest).drop count) =
          ((byte :: rest).drop count, sync) := by
        apply ih
        rcases h with hle | ⟨hstop, hzero⟩
        · rw [acceptedBytes, if_neg hcount] at hle
          rw [List.length_drop]
          exact .inl (by omega)
        · exact .inr ⟨hstop, fun hmem => hzero (List.mem_cons_of_mem _ hmem)⟩
      rw [writeLoop, if_neg hcount, hlater]
      show ((byte :: rest).take count ++ (byte :: rest).drop count, sync) = _
      rw [List.take_append_drop]

/-- A write that is cut short leaves the bytes that were taken, and raises or
    dies. -/
theorem writeLoop_stopped {stop sync : Option Stop} {counts : List Nat} {line : List UInt8}
    (h : ¬ (line.length ≤ acceptedBytes counts ∨ stop = none ∧ 0 ∉ counts)) :
    (writeLoop stop sync counts line).1 = line.take (acceptedBytes counts) ∧
      ∃ s, (writeLoop stop sync counts line).2 = some s := by
  induction counts generalizing line with
  | nil =>
    cases line with
    | nil => exact absurd (.inl (Nat.zero_le _)) h
    | cons byte rest =>
      cases stop with
      | none => exact absurd (.inr ⟨rfl, List.not_mem_nil⟩) h
      | some s => exact ⟨rfl, s, rfl⟩
  | cons count counts ih =>
    cases line with
    | nil => exact absurd (.inl (Nat.zero_le _)) h
    | cons byte rest =>
      by_cases hcount : count = 0
      · subst hcount
        exact ⟨rfl, _, rfl⟩
      -- What is left of the line is not written completely either.
      · have hlater : ¬ (((byte :: rest).drop count).length ≤ acceptedBytes counts ∨
            stop = none ∧ 0 ∉ counts) := by
          rintro (hle | ⟨hstop, hzero⟩)
          · rw [List.length_drop] at hle
            apply h
            rw [acceptedBytes, if_neg hcount]
            exact .inl (by omega)
          · refine h (.inr ⟨hstop, fun hmem => ?_⟩)
            rcases List.mem_cons.mp hmem with heq | hmem
            · exact hcount heq.symm
            · exact hzero hmem
        rw [writeLoop, if_neg hcount, acceptedBytes, if_neg hcount]
        obtain ⟨htaken, s, hs⟩ := ih hlater
        refine ⟨?_, s, hs⟩
        show (byte :: rest).take count ++ _ = _
        rw [htaken, List.take_add]

/-- Nothing of the line is written, or all of it, and then it can be read. -/
def Writes.Whole (writes : Writes) (receipt : StoredReceipt) : Prop :=
  if writes.Lands (encodedLine receipt).length then receipt.Readable
  else acceptedBytes writes.counts = 0

/-! ## Section 6: What the file holds -/

/-- The file is a text of complete lines, and these are its receipts. -/
def Holds (env : Env) (bytes : List UInt8) (receipts : List StoredReceipt) : Prop :=
  ∃ text, bytes = encodeUtf8 text ∧ Terminated text.toList ∧
    validateLines env (textLines text.toList) = (receipts, none)

theorem holds_nil (env : Env) : Holds env [] [] := ⟨"", rfl, .inl rfl, rfl⟩

section Step

variable {env : Env} {bytes : List UInt8} {receipts : List StoredReceipt} {receipt : StoredReceipt}
variable {writes : Writes} {file : ReceiptFile}

theorem recordsUnlocked_of_text {text : String} :
    recordsUnlocked env (encodeUtf8 text) = validateLines env (textLines text.toList) := by
  rw [recordsUnlocked, decodeUtf8_encodeUtf8]

theorem Holds.records (h : Holds env bytes receipts) :
    recordsUnlocked env bytes = (receipts, none) := by
  obtain ⟨text, rfl, -, hlines⟩ := h
  rw [recordsUnlocked_of_text, hlines]

theorem Holds.all (h : Holds env bytes receipts) :
    allRecords (recordsUnlocked env bytes) = .ok receipts := by
  rw [h.records]
  rfl

theorem reading_of_holds (h : Holds env file.bytes receipts) (answer : List StoredReceipt → JournalReply) :
    reading env answer file = answer receipts := by
  rw [reading, h.all]

theorem Holds.any (h : Holds env bytes receipts) (wanted : ReceiptRecord → Bool) :
    anyRecord wanted (recordsUnlocked env bytes) =
      .ok (receipts.any fun existing => wanted existing.record) := by
  rw [h.records, anyRecord]
  split
  · next hany => exact congrArg Except.ok hany.symm
  · next hany => exact congrArg Except.ok (Bool.eq_false_iff.mpr hany).symm

/-- More lines are read after the ones that were read before. -/
theorem validateLines_append {lines lines' : List (List Char)}
    (h : validateLines env lines = (receipts, none)) :
    validateLines env (lines ++ lines') =
      (receipts ++ (validateLines env lines').1, (validateLines env lines').2) := by
  induction lines generalizing receipts with
  | nil =>
    obtain ⟨rfl, -⟩ := Prod.mk.inj h
    rfl
  | cons line lines ih =>
    rw [validateLines] at h
    rw [List.cons_append, validateLines]
    cases hline : StoredReceipt.modelValidateJson env (String.ofList line) with
    | error e =>
      rw [hline] at h
      cases h
    | ok first =>
      rw [hline] at h
      obtain ⟨rfl, hnone⟩ := Prod.mk.inj h
      rw [ih (Prod.ext rfl hnone)]
      rfl

theorem isBlank_modelDumpJson (receipt : StoredReceipt) :
    isBlank receipt.modelDumpJson.toList = false := by
  obtain ⟨cs, hcs⟩ := modelDumpJson_braces receipt
  rw [hcs]
  rfl

theorem validateLines_singleton (hproper : receipt.Proper) (hreadable : receipt.Readable) :
    validateLines env [receipt.modelDumpJson.toList] = ([receipt], none) := by
  rw [validateLines, String.ofList_toList, modelValidateJson_modelDumpJson hproper hreadable]
  rfl

/-- A complete line adds its receipt. -/
theorem Holds.append (h : Holds env bytes receipts) (hproper : receipt.Proper)
    (hreadable : receipt.Readable) :
    Holds env (bytes ++ encodedLine receipt) (receipts ++ [receipt]) := by
  obtain ⟨text, rfl, hterminated, hlines⟩ := h
  refine ⟨text ++ (receipt.modelDumpJson ++ "\n"), (encodeUtf8_append _ _).symm, ?_, ?_⟩
  · refine .inr ⟨text.toList ++ receipt.modelDumpJson.toList, ?_⟩
    simp
  · have hline := (textLines_line (modelDumpJson_no_newline receipt) (isBlank_modelDumpJson receipt)).2
    rw [String.toList_append, textLines_append hterminated, String.toList_append]
    show validateLines env (textLines text.toList ++ textLines (receipt.modelDumpJson.toList ++ ['\n'])) = _
    rw [hline, validateLines_append hlines, validateLines_singleton hproper hreadable]

theorem Holds.keyTaken (h : Holds env bytes receipts) :
    keyTaken env receipt.record bytes = .ok (decide (Taken receipt receipts)) := by
  unfold Payer.keyTaken
  by_cases hkey : receipt.record.key.isSome
  · rw [if_pos hkey, h.any]
    apply congrArg Except.ok
    exact Bool.eq_iff_iff.mpr ⟨fun hany => decide_eq_true ⟨hkey, hany⟩,
      fun ht => (of_decide_eq_true ht).2⟩
  · have hnot : ¬ Taken receipt receipts := fun ht => hkey ht.1
    rw [if_neg hkey, decide_eq_false hnot]

theorem Holds.comesLate (h : Holds env bytes receipts) :
    comesLate env receipt.record bytes = .ok (decide (LateStored receipt receipts)) := by
  unfold Payer.comesLate
  by_cases hlate : receipt.record.fingerprint.isSome ∧ receipt.record.state ≠ .paid
  · rw [if_pos hlate, h.any]
    apply congrArg Except.ok
    exact Bool.eq_iff_iff.mpr ⟨fun hany => decide_eq_true ⟨hlate, hany⟩,
      fun ht => (of_decide_eq_true ht).2⟩
  · have hnot : ¬ LateStored receipt receipts := fun ht => hlate ht.1
    rw [if_neg hlate, decide_eq_false hnot]

theorem append_of_holds (h : Holds env bytes receipts) (hproper : receipt.Proper)
    (hwhole : ¬ Taken receipt receipts → env.serializable (.obj receipt.modelDump) = true →
      writes.Whole receipt) :
    (Payer.appendUnlocked env receipt writes bytes).1 = (appendStored env receipt writes receipts).1 ∧
      Holds env (Payer.appendUnlocked env receipt writes bytes).2
        (appendStored env receipt writes receipts).2 := by
  rw [appendUnlocked, appendStored, h.keyTaken]
  by_cases htaken : Taken receipt receipts
  · rw [if_pos htaken, decide_eq_true htaken]
    exact ⟨rfl, h⟩
  rw [if_neg htaken, decide_eq_false htaken]
  dsimp only
  by_cases hserializable : env.serializable (.obj receipt.modelDump) = true
  · have hwritten := hwhole htaken hserializable
    rw [if_pos hserializable, if_neg (by rw [hserializable]; decide)]
    refine ⟨rfl, ?_⟩
    by_cases hlands : writes.Lands (encodedLine receipt).length
    · rw [Writes.Whole, if_pos hlands] at hwritten
      rw [if_pos hlands, writeLoop_landed hlands]
      exact h.append hproper hwritten
    · rw [Writes.Whole, if_neg hlands] at hwritten
      rw [if_neg hlands, (writeLoop_stopped hlands).1, hwritten, List.take_zero, List.append_nil]
      exact h
  · rw [if_neg hserializable, if_pos (Bool.eq_false_iff.mpr hserializable)]
    exact ⟨rfl, h⟩

end Step

/-! ## Section 7: Whole runs -/

/-- The file and the list have the same receipts and attempts. -/
def Represents (env : Env) (file : ReceiptFile) (stored : StoredReceipts) : Prop :=
  Holds env file.bytes stored.receipts ∧ file.attempts = stored.attempts

/-- The call comes to writing a line when these receipts are stored. -/
def JournalCall.WritesTo (env : Env) (receipts : List StoredReceipt) : JournalCall → Prop
  | append receipt _ => ¬ Taken receipt receipts ∧ env.serializable (.obj receipt.modelDump) = true
  | recordOutcome receipt _ _ _ => ¬ LateStored receipt receipts ∧ ¬ Taken receipt receipts ∧
      env.serializable (.obj receipt.modelDump) = true
  | _ => False

/-- The receipt of a call is one whose untyped parts are JSON values. -/
def JournalCall.Proper : JournalCall → Prop
  | append receipt _ => receipt.Proper
  | recordOutcome receipt _ _ _ => receipt.Proper
  | _ => True

/-- The line of a call, if it has one, is written completely and can be read, or
    it is not written at all. -/
def JournalCall.Whole : JournalCall → Prop
  | append receipt writes => writes.Whole receipt
  | recordOutcome receipt _ _ writes => writes.Whole receipt
  | _ => True

/-- One call on a file that represents a list. -/
theorem step_of_represents {env : Env} {file : ReceiptFile} {stored : StoredReceipts}
    (h : Represents env file stored) {call : JournalCall} (hproper : call.Proper)
    (hwhole : call.WritesTo env stored.receipts → call.Whole) :
    ((fileJournal env).step file call).1 = ((storedJournal env).step stored call).1 ∧
      Represents env ((fileJournal env).step file call).2 ((storedJournal env).step stored call).2 := by
  obtain ⟨hholds, hattempts⟩ := h
  cases call with
  -- Reading calls see the receipts of the list.
  | list limit =>
    refine ⟨?_, hholds, hattempts⟩
    show (if limit ≤ 0 then JournalReply.records [] else reading env _ file) = _
    rw [reading_of_holds hholds]
    rfl
  | all => exact ⟨reading_of_holds hholds _, hholds, hattempts⟩
  | budgetSummary network asset issuer maxSpend =>
    exact ⟨reading_of_holds hholds _, hholds, hattempts⟩
  -- An append and a recorded outcome write the same line.
  | append receipt writes =>
    obtain ⟨hreply, hafter⟩ := append_of_holds hholds hproper fun htaken hs => hwhole ⟨htaken, hs⟩
    exact ⟨hreply, hafter, hattempts⟩
  | recordOutcome receipt reuseSeconds now writes =>
    show (recordOutcomeFile env receipt reuseSeconds now writes file).1 =
        (if LateStored receipt stored.receipts then _ else _ : JournalReply × StoredReceipts).1 ∧
      Represents env (recordOutcomeFile env receipt reuseSeconds now writes file).2
        (if LateStored receipt stored.receipts then _ else _ : JournalReply × StoredReceipts).2
    rw [recordOutcomeFile, hholds.comesLate]
    -- The file and the list agree on what comes late.
    by_cases hlate : LateStored receipt stored.receipts
    · rw [decide_eq_true hlate, if_pos hlate]
      exact ⟨rfl, hholds, hattempts⟩
    · rw [decide_eq_false hlate, if_neg hlate]
      obtain ⟨hreply, hafter⟩ := append_of_holds hholds hproper fun htaken hs =>
        hwhole ⟨hlate, htaken, hs⟩
      dsimp only
      rw [hreply, hattempts]
      exact ⟨rfl, hafter, rfl⟩

theorem fileJournal_simulates (env : Env) :
    Machine.Simulates (fileJournal env) (storedJournal env) id
      (fun call => call.Proper ∧ call.Whole) (Represents env) where
  answer h hcall := (step_of_represents h hcall.1 fun _ => hcall.2).1
  state h hcall := (step_of_represents h hcall.1 fun _ => hcall.2).2

/-- In a run whose lines are written completely or not at all, every operation
    works and sees the receipts that were stored before it. -/
theorem run_of_whole {env : Env} {file : ReceiptFile} {stored : StoredReceipts}
    (h : Represents env file stored) {calls : List JournalCall}
    (hcalls : ∀ call ∈ calls, call.Proper ∧ call.Whole) :
    (fileJournal env).answers file calls = (storedJournal env).answers stored calls ∧
      Represents env ((fileJournal env).after file calls) ((storedJournal env).after stored calls) := by
  have hrun := (fileJournal_simulates env).run hcalls h
  rwa [List.map_id] at hrun

/-! ## Section 8: A torn line -/

section Torn

variable {env : Env} {bytes : List UInt8} {receipts : List StoredReceipt} {receipt : StoredReceipt}

/-- A last line that is no receipt fails every reading. -/
theorem recordsUnlocked_of_bad_line {text : String} {line : List Char}
    (hterminated : Terminated text.toList)
    (hlines : validateLines env (textLines text.toList) = (receipts, none))
    {tail : String} (htail : textLines tail.toList = [line])
    (hbad : ∃ e, StoredReceipt.modelValidateJson env (String.ofList line) = .error e) :
    ∃ e, (recordsUnlocked env (encodeUtf8 (text ++ tail))).2 = some e := by
  obtain ⟨e, he⟩ := hbad
  rw [recordsUnlocked_of_text, String.toList_append, textLines_append hterminated, htail,
    validateLines_append hlines, validateLines, he]
  exact ⟨e, rfl⟩

/-- The bytes of a torn line fail every reading, unless only the newline is missing. -/
theorem torn_cases (h : Holds env bytes receipts) (hproper : receipt.Proper) {n : Nat} (hn : 0 < n)
    (hlt : n < (encodedLine receipt).length) :
    (∃ e, (recordsUnlocked env (bytes ++ (encodedLine receipt).take n)).2 = some e) ∨
      ∃ text, bytes ++ (encodedLine receipt).take n = encodeUtf8 (text ++ receipt.modelDumpJson) ∧
        Terminated text.toList ∧ validateLines env (textLines text.toList) = (receipts, none) := by
  obtain ⟨text, rfl, hterminated, hlines⟩ := h
  cases hdecode : decodeUtf8 (encodeUtf8 text ++ (encodedLine receipt).take n) with
  | none =>
    rw [recordsUnlocked, hdecode]
    exact .inl ⟨_, rfl⟩
  | some seen =>
    -- what was decoded begins the whole text, and the old text begins it
    have hseen := encodeUtf8_of_decodeUtf8 hdecode
    obtain ⟨tail, rfl, htail⟩ := exists_of_encodeUtf8_append hseen.symm
    rw [← hseen]
    have hwhole : encodeUtf8 tail ++ (encodedLine receipt).drop n =
        encodeUtf8 (receipt.modelDumpJson ++ "\n") := by
      rw [← htail, List.take_append_drop]
      rfl
    obtain ⟨rest, hline, hrest⟩ := exists_of_encodeUtf8_append hwhole
    have htail_ne : tail.toList ≠ [] := by
      intro hnil
      obtain rfl : tail = "" := String.toList_inj.mp hnil
      have hlength := congrArg List.length htail
      rw [List.length_take, Nat.min_eq_left hlt.le] at hlength
      exact hn.ne' hlength
    have hrest_ne : rest.toList ≠ [] := by
      intro hnil
      obtain rfl : rest = "" := String.toList_inj.mp hnil
      have hlength := congrArg List.length hrest
      rw [List.length_drop] at hlength
      have hzero : (encodeUtf8 "").length = 0 := rfl
      omega
    have hlist : receipt.modelDumpJson.toList ++ ['\n'] = tail.toList ++ rest.toList := by
      have hchars := congrArg String.toList hline
      rwa [String.toList_append, String.toList_append] at hchars
    obtain ⟨rest', hrest', hjson⟩ : ∃ rest', rest.toList = rest' ++ ['\n'] ∧
        receipt.modelDumpJson.toList = tail.toList ++ rest' := by
      obtain ⟨rest', last, hconcat⟩ := List.eq_nil_or_concat'  rest.toList |>.resolve_left hrest_ne
      rw [hconcat, ← List.append_assoc] at hlist
      obtain ⟨hjson, hlast⟩ := List.append_inj' hlist rfl
      exact ⟨rest', by rw [hconcat, hlast], hjson⟩
    by_cases hall : rest' = []
    · right
      rw [hall, List.append_nil] at hjson
      exact ⟨text, by rw [String.toList_inj.mp hjson], hterminated, hlines⟩
    · left
      have hbad := parse_beginning_of_text hproper hjson htail_ne hall
      have hnewline : ∀ c ∈ tail.toList, isNewline c = false := fun c hc =>
        modelDumpJson_no_newline receipt c (hjson ▸ List.mem_append_left _ hc)
      have hblank : isBlank tail.toList = false := by
        obtain ⟨cs, hcs⟩ := modelDumpJson_braces receipt
        obtain ⟨c, q, hcq⟩ := List.exists_cons_of_ne_nil htail_ne
        rw [hjson, hcq] at hcs
        rw [hcq, (List.cons.inj hcs).1]
        rfl
      exact recordsUnlocked_of_bad_line hterminated hlines (textLines_line hnewline hblank).1
        ⟨_, modelValidateJson_of_not_json hbad⟩

theorem reading_of_error {file : ReceiptFile} {e : Exc} (h : (recordsUnlocked env file.bytes).2 = some e)
    (answer : List StoredReceipt → JournalReply) : reading env answer file = .raised e := by
  rw [reading, allRecords, h]

/-- The file answers every later history as the list does. -/
def Intact (env : Env) (file : ReceiptFile) (stored : StoredReceipts) : Prop :=
  ∀ later : List JournalCall, (∀ call ∈ later, call.Proper ∧ call.Whole) →
    (fileJournal env).answers file later = (storedJournal env).answers stored later

theorem not_intact_of_error {file : ReceiptFile} {stored : StoredReceipts} {e : Exc}
    (h : (recordsUnlocked env file.bytes).2 = some e) : ¬ Intact env file stored := by
  intro hintact
  have hall := hintact [.all] (List.forall_mem_singleton.mpr ⟨trivial, trivial⟩)
  have hraised : reading env .records file = .records stored.receipts := (List.cons.inj hall).1
  rw [reading_of_error h] at hraised
  cases hraised

/-- After a torn line the file does not hold the receipts stored before it. -/
theorem not_intact_of_torn (h : Holds env bytes receipts) (hproper : receipt.Proper) {n : Nat}
    (hn : 0 < n) (hlt : n < (encodedLine receipt).length) {file : ReceiptFile}
    (hfile : file.bytes = bytes ++ (encodedLine receipt).take n) (attempts : Attempts) :
    ¬ Intact env file ⟨receipts, attempts⟩ := by
  rcases torn_cases h hproper hn hlt with ⟨e, he⟩ | ⟨text, hbytes, hterminated, hlines⟩
  · rw [← hfile] at he
    exact not_intact_of_error he
  have hline := (textLines_line (modelDumpJson_no_newline receipt) (isBlank_modelDumpJson receipt)).1
  by_cases hreadable : receipt.Readable
  · -- the line whose newline is missing is read as if it were complete
    intro hintact
    have hrecords : recordsUnlocked env file.bytes = (receipts ++ [receipt], none) := by
      rw [hfile, hbytes, recordsUnlocked_of_text, String.toList_append, textLines_append hterminated,
        hline, validateLines_append hlines, validateLines_singleton hproper hreadable]
    have hall := hintact [.all] (List.forall_mem_singleton.mpr ⟨trivial, trivial⟩)
    have hreading : reading env .records file = .records receipts := (List.cons.inj hall).1
    rw [reading, allRecords, hrecords] at hreading
    have hlength := congrArg List.length (JournalReply.records.inj hreading)
    rw [List.length_append, List.length_singleton] at hlength
    omega
  · obtain ⟨e, he⟩ := recordsUnlocked_of_bad_line hterminated hlines hline
      (by rw [String.ofList_toList]; exact modelValidateJson_of_not_readable hreadable)
    rw [← hbytes, ← hfile] at he
    exact not_intact_of_error he

/-- A complete line that cannot be read fails every reading. -/
theorem not_intact_of_unreadable (h : Holds env bytes receipts) (hreadable : ¬ receipt.Readable)
    {file : ReceiptFile} (hfile : file.bytes = bytes ++ encodedLine receipt) (stored : StoredReceipts) :
    ¬ Intact env file stored := by
  obtain ⟨text, rfl, hterminated, hlines⟩ := h
  have hline := (textLines_line (modelDumpJson_no_newline receipt) (isBlank_modelDumpJson receipt)).2
  have htail : textLines (receipt.modelDumpJson ++ "\n").toList = [receipt.modelDumpJson.toList] := by
    rw [String.toList_append]
    exact hline
  obtain ⟨e, he⟩ := recordsUnlocked_of_bad_line hterminated hlines htail
    (by rw [String.ofList_toList]; exact modelValidateJson_of_not_readable hreadable)
  rw [encodeUtf8_append, ← encodedLine, ← hfile] at he
  exact not_intact_of_error he

end Torn

/-! ## Section 9: When a failed append does no harm -/

section Intact

variable {env : Env} {file : ReceiptFile} {receipts : List StoredReceipt} {call : JournalCall}

/-- A call that writes a line in part leaves a torn line, or the line cannot be
    read. -/
theorem damaged_of_not_whole (h : Holds env file.bytes receipts) (hproper : call.Proper)
    (hwrites : call.WritesTo env receipts) (hwhole : ¬ call.Whole) :
    ∃ receipt : StoredReceipt, receipt.Proper ∧
      ((∃ n, 0 < n ∧ n < (encodedLine receipt).length ∧
        ((fileJournal env).step file call).2.bytes = file.bytes ++ (encodedLine receipt).take n ∧
        ((storedJournal env).step ⟨receipts, file.attempts⟩ call).2.receipts = receipts) ∨
      ¬ receipt.Readable ∧
        ((fileJournal env).step file call).2.bytes = file.bytes ++ encodedLine receipt) := by
  -- Both calls that write damage the file in the same way.
  have hcut : ∀ (receipt : StoredReceipt) (writes : Writes), ¬ Taken receipt receipts →
      env.serializable (.obj receipt.modelDump) = true → ¬ writes.Whole receipt →
      (∃ n, 0 < n ∧ n < (encodedLine receipt).length ∧
        (appendUnlocked env receipt writes file.bytes).2 =
          file.bytes ++ (encodedLine receipt).take n ∧
        (appendStored env receipt writes receipts).2 = receipts) ∨
      ¬ receipt.Readable ∧
        (appendUnlocked env receipt writes file.bytes).2 = file.bytes ++ encodedLine receipt := by
    intro receipt writes htaken hserializable hnot
    rw [appendUnlocked, h.keyTaken, decide_eq_false htaken, appendStored, if_neg htaken]
    dsimp only
    rw [if_pos hserializable, if_neg (by rw [hserializable]; decide)]
    -- The line is complete but cannot be read, or it has been cut.
    by_cases hlands : writes.Lands (encodedLine receipt).length
    · rw [Writes.Whole, if_pos hlands] at hnot
      rw [writeLoop_landed hlands]
      exact .inr ⟨hnot, rfl⟩
    · rw [Writes.Whole, if_neg hlands] at hnot
      have hlt : acceptedBytes writes.counts < (encodedLine receipt).length := by
        by_contra hge
        exact hlands (.inl (not_lt.mp hge))
      rw [if_neg hlands, (writeLoop_stopped hlands).1]
      exact .inl ⟨_, Nat.pos_of_ne_zero hnot, hlt, rfl, rfl⟩
  cases call with
  | append receipt writes => exact ⟨receipt, hproper, hcut receipt writes hwrites.1 hwrites.2 hwhole⟩
  | recordOutcome receipt reuseSeconds now writes =>
    refine ⟨receipt, hproper, ?_⟩
    have hbytes : ((fileJournal env).step file (.recordOutcome receipt reuseSeconds now writes)).2.bytes =
        (appendUnlocked env receipt writes file.bytes).2 := by
      show (recordOutcomeFile env receipt reuseSeconds now writes file).2.bytes = _
      rw [recordOutcomeFile, h.comesLate, decide_eq_false hwrites.1]
    have hreceipts : ((storedJournal env).step ⟨receipts, file.attempts⟩
        (.recordOutcome receipt reuseSeconds now writes)).2.receipts =
        (appendStored env receipt writes receipts).2 := by
      show (if LateStored receipt receipts then _ else _ : JournalReply × StoredReceipts).2.receipts = _
      rw [if_neg hwrites.1]
    rw [hbytes, hreceipts]
    exact hcut receipt writes hwrites.2.1 hwrites.2.2 hwhole
  | _ => exact absurd hwrites id

/-- After a call on a well-formed file every later operation works and sees the
    receipts stored before, with the new one only if it was written completely,
    if and only if the call writes nothing or everything of its line and, in the
    second case, the line can be read. -/
theorem intact_iff (env : Env) (file : ReceiptFile) (receipts : List StoredReceipt)
    (call : JournalCall) (hholds : Holds env file.bytes receipts) (hproper : call.Proper) :
    Intact env ((fileJournal env).step file call).2
        ((storedJournal env).step ⟨receipts, file.attempts⟩ call).2 ↔
      (call.WritesTo env receipts → call.Whole) := by
  constructor
  · intro hintact hwrites
    by_contra hwhole
    obtain ⟨receipt, hreceipt, hdamaged⟩ := damaged_of_not_whole hholds hproper hwrites hwhole
    rcases hdamaged with ⟨n, hn, hlt, hbytes, hreceipts⟩ | ⟨hreadable, hbytes⟩
    · have hstored : ((storedJournal env).step ⟨receipts, file.attempts⟩ call).2 =
          ⟨receipts, ((storedJournal env).step ⟨receipts, file.attempts⟩ call).2.attempts⟩ :=
        congrArg (StoredReceipts.mk · _) hreceipts
      rw [hstored] at hintact
      exact not_intact_of_torn hholds hreceipt hn hlt hbytes _ hintact
    · exact not_intact_of_unreadable hholds hreadable hbytes _ hintact
  · intro hwhole later hlater
    have hrepresents : Represents env file ⟨receipts, file.attempts⟩ := ⟨hholds, rfl⟩
    exact (run_of_whole (step_of_represents hrepresents hproper hwhole).2 hlater).1

end Intact

namespace Sample

open XrplX402.Sample

def storedReceipt : StoredReceipt := ⟨"2026-01-01T00:00:00Z", paidReceipt "1.5"⟩

def noSpace : Stop := .raised ⟨.other, "No space left on device"⟩

def noFile : ReceiptFile := ⟨[], ∅⟩

theorem storedReceipt_proper : storedReceipt.Proper := by decide

end Sample

theorem encodedLine_brace (receipt : StoredReceipt) :
    ∃ rest, rest ≠ [] ∧ encodedLine receipt = 123 :: rest := by
  obtain ⟨cs, hcs⟩ := modelDumpJson_braces receipt
  refine ⟨(cs ++ ['\x7d']).flatMap String.utf8EncodeChar ++ encodeUtf8 "\n", ?_, ?_⟩
  · exact List.append_ne_nil_of_right_ne_nil _ (encodeUtf8_ne_nil (by decide))
  · rw [encodedLine, encodeUtf8_append, encodeUtf8_toList receipt.modelDumpJson, hcs, List.cons_append,
      List.flatMap_cons]
    rfl

open XrplX402.Sample in
/-- The disk is full after one byte of the first receipt: nothing can be read
    any more. -/
theorem torn_append_is_unreadable :
    (∃ e, (fileJournal shapeEnv).answers Sample.noFile
        [.append Sample.storedReceipt ⟨[1], some Sample.noSpace, none⟩, .all] =
          [.stopped Sample.noSpace, .raised e]) ∧
      (storedJournal shapeEnv).answers ⟨[], ∅⟩
        [.append Sample.storedReceipt ⟨[1], some Sample.noSpace, none⟩, .all] =
          [.stopped Sample.noSpace, .records []] := by
  -- The line begins with a brace, which alone is no JSON.
  obtain ⟨rest, hrest, hline⟩ := encodedLine_brace Sample.storedReceipt
  obtain ⟨byte, rest, rfl⟩ := List.exists_cons_of_ne_nil hrest
  have hkey : keyTaken shapeEnv Sample.storedReceipt.record [] = .ok false :=
    (holds_nil shapeEnv).keyTaken.trans (congrArg Except.ok (decide_eq_false fun h => nomatch h.2))
  -- One byte is taken, and then the device is full.
  have hfile : (fileJournal shapeEnv).step Sample.noFile
      (.append Sample.storedReceipt ⟨[1], some Sample.noSpace, none⟩) =
        (.stopped Sample.noSpace, ⟨[123], ∅⟩) := by
    show ((appendUnlocked shapeEnv Sample.storedReceipt ⟨[1], some Sample.noSpace, none⟩ []).1,
      ReceiptFile.mk (appendUnlocked shapeEnv Sample.storedReceipt _ []).2 ∅) = _
    rw [appendUnlocked, hkey, hline]
    rfl
  -- The list takes no receipt that was not written completely.
  have hlist : (storedJournal shapeEnv).step ⟨[], ∅⟩
      (.append Sample.storedReceipt ⟨[1], some Sample.noSpace, none⟩) =
        (.stopped Sample.noSpace, ⟨[], ∅⟩) := by
    show ((appendStored shapeEnv Sample.storedReceipt ⟨[1], some Sample.noSpace, none⟩ []).1,
      StoredReceipts.mk (appendStored shapeEnv Sample.storedReceipt _ []).2 ∅) = _
    rw [appendStored, if_neg (fun h => nomatch h.2), if_neg (by decide), hline]
    dsimp only
    rw [if_neg (fun h => h.elim (fun hle => absurd hle (by simp [acceptedBytes])) fun h => nomatch h.1)]
    rfl
  constructor
  · have hbad : textLines "\x7b".toList = [['\x7b']] := rfl
    have hfails : ∃ e, (recordsUnlocked shapeEnv (encodeUtf8 ("" ++ "\x7b"))).2 = some e :=
      recordsUnlocked_of_bad_line (.inl rfl) rfl hbad ⟨_, rfl⟩
    obtain ⟨e, he⟩ := hfails
    refine ⟨e, ?_⟩
    rw [Machine.answers, hfile]
    have hread : reading shapeEnv .records ⟨[123], ∅⟩ = .raised e := reading_of_error he _
    exact congrArg (fun reply => [JournalReply.stopped Sample.noSpace, reply]) hread
  · rw [Machine.answers, hlist]
    rfl

namespace Sample

open XrplX402.Sample

/-- The file after a first payment. -/
def onePayment : ReceiptFile := ⟨encodedLine storedReceipt, ∅⟩

def nextReceipt : StoredReceipt := ⟨"2026-01-01T00:05:00Z", paidReceipt "2"⟩

/-- Every byte is written, and then `os.fsync` raises. -/
def unsynced : Writes := ⟨[], none, some (.raised ⟨.other, "Input/output error"⟩)⟩

theorem storedReceipt_readable : storedReceipt.Readable := by decide +kernel

theorem onePayment_holds : Holds shapeEnv onePayment.bytes [storedReceipt] := by
  have hline := (holds_nil shapeEnv).append storedReceipt_proper storedReceipt_readable
  rwa [List.nil_append, List.nil_append] at hline

theorem nextReceipt_proper : nextReceipt.Proper := by decide

theorem nextReceipt_readable : nextReceipt.Readable := by decide +kernel

end Sample

open XrplX402.Sample in
/-- The second receipt is written and not synced: the operation raises, and both
    receipts are there. -/
theorem intact_iff_sample :
    ((storedJournal shapeEnv).step ⟨[Sample.storedReceipt], ∅⟩
      (.append Sample.nextReceipt Sample.unsynced)).2.receipts =
        [Sample.storedReceipt, Sample.nextReceipt] ∧
      Intact shapeEnv
        ((fileJournal shapeEnv).step Sample.onePayment (.append Sample.nextReceipt Sample.unsynced)).2
        ((storedJournal shapeEnv).step ⟨[Sample.storedReceipt], ∅⟩
          (.append Sample.nextReceipt Sample.unsynced)).2 := by
  have hlands (size : Nat) : Sample.unsynced.Lands size := .inr ⟨rfl, List.not_mem_nil⟩
  refine ⟨storedJournal_append_of_lands (by decide) rfl (hlands _) ∅,
    (intact_iff shapeEnv Sample.onePayment [Sample.storedReceipt]
      (.append Sample.nextReceipt Sample.unsynced) Sample.onePayment_holds
      Sample.nextReceipt_proper).mpr fun _ => ?_⟩
  rw [JournalCall.Whole, Writes.Whole, if_pos (hlands _)]
  exact Sample.nextReceipt_readable

end XrplX402.Payer
