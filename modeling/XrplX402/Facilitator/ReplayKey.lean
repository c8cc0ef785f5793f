import Mathlib.Tactic.FinCases
import XrplX402.Core.Hex
import XrplX402.Facilitator.Safety

/-! # The replay key

    `settle` reserves a payment under the hash of the bytes that the client
    sent. The verification looks at the decoded fields only, and decoding is
    not injective: fields may stand in another order, and what follows an
    object-end marker is not read.

    * `Codec`: what is known of the codec of signed transactions.
    * `Canonical`: the blob of a payload is the one serialization that the
      ledger hashes.
    * The key is the id on the ledger for canonical blobs and for no others. -/

namespace XrplX402.Facilitator

open Py Interaction

/-! ## Section 1: The codec -/

/-- `binarycodec.encode`, which is a section of `binarycodec.decode`. -/
structure Codec (env : Env) where
  encode : Dict → Except Exc String
  upperHex : ∀ tx blob, encode tx = .ok blob → isSignedTxBlob blob = true
  decode_encode : ∀ tx blob, encode tx = .ok blob → env.decode blob = .ok tx

variable {env : Env}

/-- What is hashed for the id of a blob. -/
def hashedBytes (blob : String) : Except Exc (List UInt8) := fromHex ("54584E00" ++ blob)

/-- The id of `tx` on the ledger: the hash of its canonical serialization. -/
def Codec.ledgerId (C : Codec env) (tx : Dict) : Except Exc String := do
  let blob ← C.encode tx
  return transactionId env (← hashedBytes blob)

/-- The key under which `settle` looks a payload up and reserves it. -/
def settlementKey (env : Env) (payload : PaymentPayload) : Except Exc String :=
  (payloadHash env payload).map Prod.snd

/-- The payload is accepted with this blob, which is decoded to `tx`. -/
def Carries (env : Env) (payload : PaymentPayload) (blob : String) (tx : Dict) : Prop :=
  (∃ x, exactXrplPayload env payload = .ok x ∧ x.signedTxBlob = blob) ∧ env.decode blob = .ok tx

/-- The blob is the serialization that the ledger hashes. -/
def Codec.Canonical (C : Codec env) (blob : String) (tx : Dict) : Prop := C.encode tx = .ok blob

/-- No two of these blobs have one id. -/
def HashesApart (env : Env) (blobs : List String) : Prop :=
  ∀ a ∈ blobs, ∀ b ∈ blobs, ∀ x y, hashedBytes a = .ok x → hashedBytes b = .ok y →
    transactionId env x = transactionId env y → x = y

/-! ## Section 2: Keys of blobs -/

theorem exists_hashedBytes {blob : String} (h : isSignedTxBlob blob = true) :
    ∃ x, hashedBytes blob = .ok x := exists_fromHex_prefixed h

/-- Blobs with the same bytes are the same text. -/
theorem blob_eq_of_hashedBytes {a b : String} (ha : isSignedTxBlob a = true)
    (hb : isSignedTxBlob b = true) {x : List UInt8} (hx : hashedBytes a = .ok x)
    (hy : hashedBytes b = .ok x) : a = b := by
  have hsame := fromHex_inj (upperHex_prefixed (upperHex_of_isSignedTxBlob ha).1)
    (upperHex_prefixed (upperHex_of_isSignedTxBlob hb).1) hx hy
  have hlist : "54584E00".toList ++ a.toList = "54584E00".toList ++ b.toList := by
    rw [← String.toList_append, ← String.toList_append, hsame]
  exact String.ext (List.append_cancel_left hlist)

section Keys

variable {p : PaymentPayload} {blob : String} {tx : Dict}

theorem Carries.wellFormed (h : Carries env p blob tx) : isSignedTxBlob blob = true := by
  obtain ⟨⟨x, -, rfl⟩, -⟩ := h
  exact x.wellFormed

/-- The key of a payload is the hash of its own bytes. -/
theorem Carries.key (h : Carries env p blob tx) :
    ∃ x, hashedBytes blob = .ok x ∧ payloadHash env p = .ok (blob, transactionId env x) := by
  obtain ⟨bytes, hbytes⟩ := exists_hashedBytes h.wellFormed
  obtain ⟨⟨x, hx, rfl⟩, hdecode⟩ := h
  refine ⟨bytes, hbytes, ?_⟩
  have hhash : signedTransactionHash env x.signedTxBlob = .ok (transactionId env bytes) := by
    unfold signedTransactionHash
    unfold hashedBytes at hbytes
    rw [hdecode, hbytes]
    rfl
  unfold payloadHash
  rw [hx]
  change (signedTransactionHash env x.signedTxBlob >>= _) = _
  rw [hhash]
  rfl

/-- The key is the id on the ledger exactly when the blob is canonical. -/
theorem key_eq_ledgerId_iff (C : Codec env) {canonical : String} (h : Carries env p blob tx)
    (hcanonical : C.encode tx = .ok canonical) (hapart : HashesApart env [blob, canonical]) :
    settlementKey env p = C.ledgerId tx ↔ C.Canonical blob tx := by
  obtain ⟨x, hx, hkey⟩ := h.key
  have hwell := C.upperHex tx canonical hcanonical
  obtain ⟨y, hy⟩ := exists_hashedBytes hwell
  have hid : C.ledgerId tx = .ok (transactionId env y) := by
    unfold Codec.ledgerId
    rw [hcanonical]
    change (hashedBytes canonical >>= _) = _
    rw [hy]
    rfl
  unfold settlementKey Codec.Canonical
  rw [hkey, hid, hcanonical]
  constructor
  · intro heq
    have hsame : transactionId env x = transactionId env y := Except.ok.inj heq
    have hxy := hapart blob (by simp) canonical (by simp) x y hx hy hsame
    rw [hxy] at hx
    rw [blob_eq_of_hashedBytes h.wellFormed hwell hx hy]
  · intro heq
    have hblob : canonical = blob := Except.ok.inj heq
    rw [hblob, hx] at hy
    rw [Except.ok.inj hy]
    rfl

/-! ## Section 3: Keys in a run -/

section Runs

variable {ι : Type} [DecidableEq ι] {calls : ι → Call env} {c : SettleConfig ι}

/-- `e` submits some spelling of `tx`. -/
def submitsTransaction (env : Env) (tx : Dict) (e : Entry ι Op Ret) : Bool :=
  match e.op with
  | .rpc (.submitOnly blob) => (env.decode blob).toOption = some tx
  | _ => false

/-- Every call that carries `tx` carries its canonical serialization. -/
def CanonicalCalls (C : Codec env) (calls : ι → Call env) (tx : Dict) : Prop :=
  ∀ i blob, Carries env (calls i).payload blob tx → C.Canonical blob tx

/-- In the log, `tx` is reserved under one key and submitted at most once. -/
structure OneKey (calls : ι → Call env) (tx : Dict) (log : Log ι) : Prop where
  reserved : ∀ i j blob blob' st st', Carries env (calls i).payload blob tx →
    Carries env (calls j).payload blob' tx → Reserved log i st → Reserved log j st' →
    i = j ∧ st = st'
  submitted : (log.filter (submitsTransaction env tx)).length ≤ 1

omit [DecidableEq ι] in
theorem Carries.pays {i : ι} {hash : String} (h : Carries env (calls i).payload blob tx)
    (hhash : (calls i).HasHash hash) : (calls i).Pays blob hash := by
  obtain ⟨blob', hpays⟩ := hhash
  obtain ⟨x, -, hkey⟩ := h.key
  have heq := hkey.symm.trans hpays
  have hblob : blob = blob' := congrArg Prod.fst (Except.ok.inj heq)
  rw [hblob]
  exact hpays

omit [DecidableEq ι] in
theorem carries_of_pays {i : ι} {hash : String} (h : (calls i).Pays blob hash)
    (hdecode : env.decode blob = .ok tx) : Carries env (calls i).payload blob tx := by
  unfold Call.Pays payloadHash at h
  obtain ⟨x, hx, h⟩ := bind_eq_ok.mp h
  obtain ⟨hash', _, h⟩ := bind_eq_ok.mp h
  exact ⟨⟨x, hx, congrArg Prod.fst (Except.ok.inj h)⟩, hdecode⟩

/-- Canonical calls about one transaction share one key. -/
theorem oneKey_of_canonical (C : Codec env) (h : SettleRun calls c)
    (hcanonical : CanonicalCalls C calls tx) : OneKey calls tx c.state.log := by
  have hinv := settle_invariant h
  have hblob : ∀ i j b b', Carries env (calls i).payload b tx →
      Carries env (calls j).payload b' tx → b = b' := by
    intro i j b b' hb hb'
    have hi : C.encode tx = .ok b := hcanonical i b hb
    have hj : C.encode tx = .ok b' := hcanonical j b' hb'
    exact Except.ok.inj (hi.symm.trans hj)
  constructor
  · intro i j b b' st st' hb hb' hr hr'
    obtain ⟨_, _, _, _, hp⟩ := hinv.reserve_promise hr
    obtain ⟨_, _, _, _, hp'⟩ := hinv.reserve_promise hr'
    have hhash := pays_signedTransactionHash (hb.pays hp.hash)
    have hhash' := pays_signedTransactionHash (hb'.pays hp'.hash)
    rw [← hblob i j b b' hb hb', hhash] at hhash'
    exact hinv.unique i j st st' hr hr' (Except.ok.inj hhash')
  · by_cases hsome : ∃ e ∈ c.state.log, submitsTransaction env tx e = true
    · obtain ⟨e₀, he₀, hs₀⟩ := hsome
      -- The blob and the hash of a submission of `tx`.
      have hsubmission : ∀ e ∈ c.state.log, submitsTransaction env tx e = true →
          ∃ b hash, e.op = .rpc (.submitOnly b) ∧ (calls e.who).Pays b hash ∧
            Carries env (calls e.who).payload b tx := by
        intro e he hs
        unfold submitsTransaction at hs
        split at hs
        · next b hop =>
          obtain ⟨_, older, _, hpromise⟩ := hinv.promised.of_mem he
          rw [hop] at hpromise
          obtain ⟨⟨st, -, hpays⟩, -⟩ : SubmitPromise (calls e.who) e.who older b := hpromise
          have hdecode : env.decode b = .ok tx := by
            cases hd : env.decode b with
            | error err => simp [hd, Except.toOption] at hs
            | ok tx' => simpa [hd, Except.toOption] using hs
          exact ⟨b, st.transaction, hop, hpays, carries_of_pays hpays hdecode⟩
        · cases hs
      obtain ⟨b₀, hash, hop₀, hpays₀, hcarries₀⟩ := hsubmission e₀ he₀ hs₀
      have himp : ∀ e ∈ c.state.log, submitsTransaction env tx e = true →
          submits env hash e = true := by
        intro e he hs
        obtain ⟨b, hash', hop, hpays, hcarries⟩ := hsubmission e he hs
        have hsame := hblob _ _ b b₀ hcarries hcarries₀
        have hhash := pays_signedTransactionHash hpays₀
        unfold submits
        rw [hop, hsame]
        simp [hhash, Except.toOption]
      have hle : (c.state.log.filter (submitsTransaction env tx)).length ≤
          (c.state.log.filter (submits env hash)).length := by
        rw [← List.countP_eq_length_filter, ← List.countP_eq_length_filter]
        exact List.countP_mono_left himp
      exact hle.trans (length_submits_le_one hash hinv.promised hinv.unique)
    · have hnil : c.state.log.filter (submitsTransaction env tx) = [] := by
        rw [List.filter_eq_nil_iff]
        intro e he hs
        exact hsome ⟨e, he, hs⟩
      rw [hnil]
      exact Nat.zero_le _

end Runs

end Keys

/-- The keys of two payloads that carry one transaction are its id on the
    ledger exactly when both blobs are canonical; and canonical calls reserve
    and submit the transaction once. -/
theorem key_identifies_transaction_iff (C : Codec env) (p₁ p₂ : PaymentPayload)
    (blob₁ blob₂ canonical : String) (tx : Dict) (h₁ : Carries env p₁ blob₁ tx)
    (h₂ : Carries env p₂ blob₂ tx) (hcanonical : C.encode tx = .ok canonical)
    (hapart : HashesApart env [blob₁, blob₂, canonical]) :
    (settlementKey env p₁ = C.ledgerId tx ∧ settlementKey env p₂ = C.ledgerId tx ↔
      C.Canonical blob₁ tx ∧ C.Canonical blob₂ tx) ∧
    ∀ (ι : Type) [DecidableEq ι] (calls : ι → Call env) (c : SettleConfig ι), SettleRun calls c →
      CanonicalCalls C calls tx → OneKey calls tx c.state.log := by
  have hsub : ∀ b ∈ [blob₁, blob₂], HashesApart env [b, canonical] := by
    intro b hb x hx y hy
    apply hapart
    · rcases List.mem_pair.mp hx with rfl | rfl
      · rcases List.mem_pair.mp hb with rfl | rfl <;> simp
      · simp
    · rcases List.mem_pair.mp hy with rfl | rfl
      · rcases List.mem_pair.mp hb with rfl | rfl <;> simp
      · simp
  have hkey₁ := key_eq_ledgerId_iff C h₁ hcanonical (hsub blob₁ (by simp))
  have hkey₂ := key_eq_ledgerId_iff C h₂ hcanonical (hsub blob₂ (by simp))
  refine ⟨by rw [hkey₁, hkey₂], ?_⟩
  intro ι _ calls c hrun hcalls
  exact oneKey_of_canonical C hrun hcalls

/-! ### One transaction in two spellings -/

namespace Sample

/-- The sample blob with an object-end marker behind it. -/
def markedBlob : String := "12000022E1"

/-- The digest of any other text. -/
def otherDigest : List UInt8 := List.replicate 64 0

/-- The codec reads the blob with and without the marker. -/
def spellingEnv : Env :=
  { sampleEnv with
    decode := fun blob =>
      if blob = "12000022" ∨ blob = markedBlob then .ok tx else .error (valueError "invalid blob")
    sha512 := fun bytes =>
      if bytes = [0x54, 0x58, 0x4E, 0x00, 0x12, 0x00, 0x00, 0x22] then blobDigest else otherDigest }

def codec : Codec spellingEnv where
  encode d := if d = tx then .ok "12000022" else .error (valueError "not a transaction")
  upperHex d blob h := by
    split at h
    · cases h
      decide
    · cases h
  decode_encode d blob h := by
    split at h
    · next hd =>
      cases h
      rw [hd]
      rfl
    · cases h

def spellingFacilitator : ExactXRPLFacilitatorScheme spellingEnv where
  settings := settings
  supportedAssets := [⟨xrpCode, none⟩, ⟨rlusdCode, some rlusdTestnetIssuer⟩]
  supported := by decide +kernel

def markedPayload : PaymentPayload := { payload with payload := [("signedTxBlob", .str markedBlob)] }

/-- Call 0 sends the canonical blob, call 1 the one with the marker. -/
def spellingCalls (i : Fin 2) : Call spellingEnv :=
  ⟨spellingFacilitator, 1, if i = 0 then payload else markedPayload, requirements⟩

/-- The next operation of call `i`; no ledger includes the payment yet. -/
def spellingStep (i : Fin 2) : Label (Fin 2) Op Ret Stores :=
  .call i fun s => answers spellingEnv (node 100) s.shared

/-- Both calls verify, reserve and submit, one after the other. -/
def spellings : List (Label (Fin 2) Op Ret Stores) :=
  (.start 0 :: List.replicate 7 (spellingStep 0)) ++ .start 1 :: List.replicate 7 (spellingStep 1)

/-- The keys under which call `i` reserved. -/
def keysOf (i : Fin 2) (log : Log (Fin 2)) : List String :=
  (own i log).filterMap fun e => match e with
    | ⟨.reserve st _, true⟩ => some st.transaction
    | _ => none

theorem replay_spellings : ((settleSystem spellingEnv spellingCalls).replay spellings
    (Config.init Stores.empty)).any (fun c =>
      keysOf 0 c.state.log = [hash] && (keysOf 1 c.state.log).length = 1 &&
        keysOf 1 c.state.log ≠ [hash] &&
        (c.state.log.filter (submitsTransaction spellingEnv tx)).length = 2) = true := by
  decide +kernel

theorem carries_spelling (i : Fin 2) : Carries spellingEnv (spellingCalls i).payload
    (if i = 0 then "12000022" else markedBlob) tx := by
  fin_cases i
  · exact ⟨⟨⟨"12000022", by decide⟩, by decide +kernel, rfl⟩, rfl⟩
  · exact ⟨⟨⟨markedBlob, by decide⟩, by decide +kernel, rfl⟩, rfl⟩

/-- The two spellings have two ids. -/
theorem spellings_apart : HashesApart spellingEnv ["12000022", markedBlob, "12000022"] := by
  have hids : ∀ a ∈ ["12000022", markedBlob], ∀ b ∈ ["12000022", markedBlob], a ≠ b →
      (hashedBytes a).toOption.map (transactionId spellingEnv) ≠
        (hashedBytes b).toOption.map (transactionId spellingEnv) := by
    decide +kernel
  have hmem : ∀ a ∈ ["12000022", markedBlob, "12000022"], a ∈ ["12000022", markedBlob] := by
    simp
  intro a ha b hb x y hx hy hsame
  by_cases hab : a = b
  · rw [hab, hy] at hx
    exact (Except.ok.inj hx).symm
  · have hne := hids a (hmem a ha) b (hmem b hb) hab
    rw [hx, hy] at hne
    exact absurd (congrArg some hsame) hne

end Sample

/-- A signed transaction is sent with and without a marker at its end. Both
    spellings verify; each is reserved under a key of its own, only one of which
    is the id on the ledger, and the transaction is submitted twice. -/
theorem one_transaction_two_keys : ∃ c, SettleRun Sample.spellingCalls c ∧
    (∀ i, ∃ blob, Carries Sample.spellingEnv (Sample.spellingCalls i).payload blob Sample.tx) ∧
    Sample.codec.ledgerId Sample.tx = .ok Sample.hash ∧
    Sample.keysOf 0 c.state.log = [Sample.hash] ∧ Sample.keysOf 1 c.state.log ≠ [] ∧
    Sample.hash ∉ Sample.keysOf 1 c.state.log ∧
    ¬ OneKey Sample.spellingCalls Sample.tx c.state.log := by
  have hobeys : ∀ l ∈ Sample.spellings, l.Obeys anyStep := by
    intro l _
    cases l <;> simp [Label.Obeys]
  obtain ⟨c, hrun, hc⟩ := System.exists_run hobeys Sample.replay_spellings
  simp only [Bool.and_eq_true, decide_eq_true_eq] at hc
  obtain ⟨⟨⟨hfirst, hsecond⟩, hother⟩, htwice⟩ := hc
  obtain ⟨key, hkey⟩ := List.length_eq_one_iff.mp hsecond
  refine ⟨c, hrun, fun i => ⟨_, Sample.carries_spelling i⟩, by decide +kernel, hfirst, ?_, ?_, ?_⟩
  · simp [hkey]
  · intro hmem
    rw [hkey, List.mem_singleton] at hmem
    apply hother
    rw [hkey, hmem]
  · intro hone
    have hle := hone.submitted
    omega

theorem key_identifies_transaction_iff_sample :
    ¬ (settlementKey Sample.spellingEnv Sample.payload = Sample.codec.ledgerId Sample.tx ∧
      settlementKey Sample.spellingEnv Sample.markedPayload = Sample.codec.ledgerId Sample.tx) := by
  have hiff := (key_identifies_transaction_iff Sample.codec Sample.payload Sample.markedPayload
    "12000022" Sample.markedBlob "12000022" Sample.tx (Sample.carries_spelling 0)
    (Sample.carries_spelling 1) rfl Sample.spellings_apart).1
  intro hkeys
  obtain ⟨-, hmarked⟩ := hiff.mp hkeys
  exact absurd (Except.ok.inj hmarked) (by decide)

end XrplX402.Facilitator
