import XrplX402.Facilitator.Verdicts
import XrplX402.Signing
import XrplX402.Tickets

/-! # An honest payment verifies

    Soundness says what a verified payment is. This is the other direction: a
    payment that a signer built for requirements of the facilitator verifies, if
    the ledger node answers as the ledger stands.

    * `HonestPayment`: from the requirements to the payload that is sent.
    * `Standing`: the account and the ledger, as the payment needs them.
    * `signed_payment_verifies`: the verdict, on every ledger of the window. -/

namespace XrplX402

open Py Interaction Prog Client Facilitator

variable {env : Env}

/-! ## Section 1: The ledger -/

/-- What a signature of the library is worth: a blob, which is decoded to a
    transaction of an account with one valid signature, and the library can send
    it. -/
structure SignsValidly (env : Env) (library : XrplLibrary) : Prop where
  account : ∀ p raw tx, library.sign p = .ok raw → env.decode (env.unicode.upperStr raw) = .ok tx →
    ∃ a, Dict.get? tx "Account" = some (.str a)
  blob : ∀ p raw, library.sign p = .ok raw → isSignedTxBlob (env.unicode.upperStr raw) = true
  valid : ∀ p raw tx, library.sign p = .ok raw → env.decode (env.unicode.upperStr raw) = .ok tx →
    SignatureOk env tx (payerOf env tx)
  sendable : ∀ p raw tx, library.sign p = .ok raw → env.decode (env.unicode.upperStr raw) = .ok tx →
    ∃ sent, env.paymentFromXrpl
      (Dict.pop (Dict.pop (Dict.pop tx "TxnSignature") "SigningPubKey") "Signers") = .ok sent

/-- The sequence of the transaction is the account's, or its ticket is one of
    those that the server lists on the first `pages` pages. -/
inductive Spendable (server : TicketServer env) (pages : Nat) (data tx : Dict) : String → Prop where
  | sequence (current : Dict.get data "Sequence" = Dict.get tx "Sequence") :
      Spendable server pages data tx "sequence"
  | ticket {markers : List Json} (ends : server.listing.Ends .null markers)
      (fits : markers.length < pages)
      (listed : ∀ n, Dict.get tx "TicketSequence" = .int n →
        n ∈ server.ticketsOn (.null :: markers)) :
      Spendable server pages data tx "ticketSequence"

/-- The account data authorize the key, and its master key is not in the way. -/
structure Standing (env : Env) (server : TicketServer env) (pages : Nat) (data tx : Dict)
    (method : String) : Prop where
  flags : ∃ flags, toInt env.unicode ((Dict.get? data "Flags").getD (.int 0)) = .ok flags
  signer : SignerOk env tx (payerOf env tx) data
  spendable : Spendable server pages data tx method

/-- What the node answers: a validated ledger of the window, the account of the
    payer, its tickets, and a simulation that succeeds. -/
def NodeAnswers (env : Env) (server : TicketServer env) (payer : String) (data : Dict)
    (read last : Int) : (o : Facilitator.Op) → Facilitator.Ret o → Prop
  | .rpc .ledger, r => ∃ ledger, ledgerIndex env r = .ok ledger ∧ read ≤ ledger ∧ ledger < last
  | .rpc (.accountInfo account), r => account = payer →
      ∃ result, r = .ok result ∧ getAttr result "account_data" = .ok (.obj data)
  | .rpc (.accountObjects _ marker), r => r = .ok (server.answer marker)
  | .rpc (.simulate _), r => ∃ result, r = .ok (.obj result) ∧
      Dict.get result "engine_result" = .str "tesSUCCESS" ∧
      isSimulationUnavailableResult env result = false
  | _, _ => True

/-- The answers to a listing are those of the server. -/
theorem answers_of_node {server : TicketServer env} {payer : String} {data : Dict} {read last : Int}
    (o : Facilitator.Op) (r : Facilitator.Ret o) (h : NodeAnswers env server payer data read last o r) :
    server.Answers o r := by
  cases o with
  | rpc q =>
    cases q with
    | accountObjects account marker => exact h
    | _ => trivial
  | _ => trivial

/-! ## Section 2: The checks against the ledger -/

section Ledger

variable {server : TicketServer env} {payer : String} {data tx : Dict} {read last : Int}
  {requirements : PaymentRequirements}

theorem checkSigner_ok {account : Dict} (hflags : ∃ flags,
      toInt env.unicode ((Dict.get? account "Flags").getD (.int 0)) = .ok flags)
    (h : SignerOk env tx payer account) : checkSigner env tx payer account = .ok () := by
  obtain ⟨key, address, hkey, haddress, hauthorized⟩ := h
  obtain ⟨flags, hflags⟩ := hflags
  unfold checkSigner
  apply bind_eq_ok.mpr ⟨key, uncaught_eq_ok.mpr (subscript_obj hkey), ?_⟩
  apply bind_eq_ok.mpr ⟨address, uncaught_eq_ok.mpr haddress, ?_⟩
  apply bind_eq_ok.mpr ⟨flags, uncaught_eq_ok.mpr hflags, ?_⟩
  apply failIf_eq_ok.mpr
  rintro ⟨hregular, hmaster⟩
  rcases hauthorized with hregular' | ⟨hpayer, flags', hflags', henabled⟩
  · exact hregular hregular'
  · obtain rfl := Except.ok.inj (hflags.symm.trans hflags')
    exact hmaster ⟨hpayer, by rw [hasFlag_disableMaster, henabled]⟩

theorem verifySignature_ok (h : SignatureOk env tx payer) : verifySignature env tx payer = .ok () := by
  obtain ⟨publicKey, signature, encoded, message, signatureBytes, hkey, hcanonical, hsignature,
    hnonempty, hencoded, hmessage, hbytes, hvalid⟩ := h.signed
  -- The signature that was made is the one that is checked.
  have hverdict : signatureValid env tx signature publicKey = .ok true := by
    unfold signatureValid
    apply bind_eq_ok.mpr ⟨encoded, hencoded, ?_⟩
    apply bind_eq_ok.mpr ⟨message, hmessage, ?_⟩
    exact bind_eq_ok.mpr ⟨signatureBytes, hbytes, hvalid⟩
  unfold verifySignature
  apply failIf_bind_eq_ok.mpr ⟨not_not.mpr h.payment, ?_⟩
  apply failIf_bind_eq_ok.mpr ⟨not_not.mpr h.single, ?_⟩
  apply failIf_bind_eq_ok.mpr ⟨by rw [h.address]; decide, ?_⟩
  apply bind_eq_ok.mpr ⟨publicKey, ?_, ?_⟩
  · unfold requireStr
    rw [hkey]
    exact if_pos hcanonical
  apply bind_eq_ok.mpr ⟨signature, ?_, ?_⟩
  · unfold requireStr
    rw [hsignature]
    exact if_pos (decide_eq_true hnonempty)
  apply bind_eq_ok.mpr ⟨true, ?_, ?_⟩
  · unfold signatureOrRefuse
    rw [hverdict]
  · exact failIf_eq_ok.mpr (by decide)

/-- The ledger is one of the window. -/
theorem total_currentLedger : (Facilitator.currentLedger env).Total
    (NodeAnswers env server payer data read last)
    (fun r => ∃ ledger, r = .ok ledger ∧ read ≤ ledger ∧ ledger < last) := by
  intro r hr
  obtain ⟨ledger, hindex, hinside⟩ := hr
  show Total _ _ (lift (ledgerIndex env r))
  rw [hindex]
  exact ⟨ledger, rfl, hinside⟩

/-- A payment with the account's sequence, or with a listed ticket. -/
theorem verifyLedgerAndAccountState_total {pages : Nat} {method : String}
    (hwindow : ∀ ledger, read ≤ ledger → ledger < last →
      checkLastLedger tx requirements (payerOf env tx) ledger = .ok ())
    (hstanding : Standing env server pages data tx method)
    (hsequence : method = "sequence" → Dict.get tx "TicketSequence" = .null)
    (hticket : method = "ticketSequence" → Dict.get tx "Sequence" = .int 0 ∧
      ∃ n, Dict.get tx "TicketSequence" = .int n) :
    (verifyLedgerAndAccountState env pages tx requirements (payerOf env tx) method).Total
      (NodeAnswers env server (payerOf env tx) data read last) (· = .ok ()) := by
  unfold verifyLedgerAndAccountState
  refine total_currentLedger.bind (fun current hcurrent => ?_) fun e he => by
    obtain ⟨_, h, -⟩ := he
    cases h
  obtain ⟨ledger, hledger, hlow, hhigh⟩ := hcurrent
  obtain rfl := Except.ok.inj hledger
  rw [hwindow current hlow hhigh]
  have haccount : (accountData (payerOf env tx)).Total
      (NodeAnswers env server (payerOf env tx) data read last) (· = .ok data) := by
    intro r hr
    obtain ⟨result, rfl, hdata⟩ := hr rfl
    show Total _ _ (lift (getAttr result "account_data") >>= _)
    rw [hdata]
    rfl
  refine haccount.bind (fun account haccount => ?_) fun e he => by cases he
  obtain rfl := Except.ok.inj haccount
  show Total _ _ (check (checkSigner env tx (payerOf env tx) account) >>= _)
  rw [checkSigner_ok hstanding.flags hstanding.signer]
  -- What the payment spends is still there: the sequence is current or the ticket is listed.
  have hspendable := hstanding.spendable
  generalize hmethod : method = chosen at hspendable
  cases hspendable with
  | sequence hcurrent =>
    show Total _ _ (check (checkSequence tx (payerOf env tx) account))
    rw [check, total_ofExcept]
    unfold checkSequence
    apply failIf_bind_eq_ok.mpr ⟨not_not.mpr (hsequence hmethod), ?_⟩
    apply failIf_eq_ok.mpr
    rw [hcurrent, Json.pyEq_iff.mpr rfl]
    decide
  | ticket hends hfits hlisted =>
    obtain ⟨hzero, n, hn⟩ := hticket hmethod
    have hticketOf : ticketOf tx (payerOf env tx) = .ok n := by
      unfold ticketOf
      rw [hn, hzero]
      rfl
    have havailable : (ticketIsAvailable env pages (payerOf env tx) n).Total
        (NodeAnswers env server (payerOf env tx) account read last)
        (· = .ok (decide (n ∈ server.ticketsOn (.null :: _)))) :=
      (TicketServer.ticketIsAvailable_of_ends hends hfits n).answers answers_of_node
    show Total _ _ (check (ticketOf tx (payerOf env tx)) >>= _)
    rw [hticketOf]
    refine havailable.bind (fun available h => ?_) fun e he => by cases he
    obtain rfl := Except.ok.inj h
    rw [decide_eq_true (hlisted n hn)]
    rfl

theorem verifySimulationOrBalances_total {pages : Nat}
    (hsendable : ∃ sent, env.paymentFromXrpl
      (Dict.pop (Dict.pop (Dict.pop tx "TxnSignature") "SigningPubKey") "Signers") = .ok sent) :
    (verifySimulationOrBalances env pages tx requirements payer).Total
      (NodeAnswers env server payer data read last) (· = .ok "simulation") := by
  obtain ⟨sent, hsent⟩ := hsendable
  have hsimulation : (verifySimulation env pages tx requirements payer).Total
      (NodeAnswers env server payer data read last) (· = .ok "simulation") := by
    unfold verifySimulation
    dsimp only
    rw [hsent]
    -- The node can simulate and reports success.
    intro r hr
    obtain ⟨result, rfl, hsuccess, havailable⟩ := hr
    show Total _ _ (if isSimulationUnavailableResult env result = true then _ else _)
    rw [if_neg (by rw [havailable]; decide)]
    show Total _ _ (check (failIf (Dict.get result "engine_result" ≠ .str "tesSUCCESS") _) >>= _)
    rw [hsuccess]
    rfl
  unfold verifySimulationOrBalances
  apply hsimulation.tryCatch
  · intro a ha
    exact ha
  · intro e he
    cases he

end Ledger

/-! ## Section 3: From the requirements to the verdict -/

section Honest

variable {S : XRPLPaymentSigner} {F : ExactXRPLFacilitatorScheme env} {codec : CodecForms}
  {requirements : PaymentRequirements} {extra : ExactXRPLExtra} {t : List (Event SignOp SignRet)}
  {networkId : Int} {unsigned prepared : Payment} {tx : Dict}

/-- A payment with the account's sequence has no ticket, any other takes its ticket. -/
theorem SignedTx.sequenceFields
    (h : SignedTx env S codec requirements t extra tx networkId unsigned prepared) :
    (signedMethod extra = "sequence" → Dict.get tx "TicketSequence" = .null) ∧
      (signedMethod extra = "ticketSequence" → Dict.get tx "Sequence" = .int 0 ∧
        ∃ n, Dict.get tx "TicketSequence" = .int n) := by
  have hvalid := h.valid
  unfold validatePrepared at hvalid
  obtain ⟨-, hvalid⟩ := failIf_bind_eq_ok.mp hvalid
  obtain ⟨-, hvalid⟩ := failIf_bind_eq_ok.mp hvalid
  refine ⟨fun hmethod => ?_, fun hmethod => ?_⟩
  · rw [if_pos hmethod] at hvalid
    obtain ⟨hnone, -⟩ := failIf_bind_eq_ok.mp hvalid
    rw [h.rendered.ticketSequence, not_not.mp hnone]
    rfl
  · rw [if_neg (by rw [hmethod]; decide)] at hvalid
    obtain ⟨hfields, -⟩ := failIf_bind_eq_ok.mp hvalid
    obtain ⟨hzero, hticket⟩ := not_or.mp hfields
    refine ⟨?_, ?_⟩
    · rw [h.rendered.sequence, not_not.mp hzero]
      rfl
    · obtain ⟨n, hn⟩ := Option.ne_none_iff_exists'.mp hticket
      exact ⟨n, by rw [h.rendered.ticketSequence, hn]; rfl⟩

/-- The method that the envelope selects is the one that was signed for, if the
    requirements state one or it is the default. -/
theorem selected_eq_signed {payload : PaymentPayload} {method : String}
    (hechoed : payload.accepted = requirements)
    (hextra : validateRequirementsShape env requirements = .ok extra)
    (hstated : assetTransferMethod requirements ≠ .null ∨ signedMethod extra = "sequence")
    (h : verifyEnvelope F payload requirements = .ok method) : method = signedMethod extra := by
  have henvelope := envelopeOk_of_verifyEnvelope h
  -- Without a demand both sides take the sequence.
  by_cases hnull : assetTransferMethod requirements = .null
  · rcases hstated with hstated | hdefault
    · exact absurd hnull hstated
    · have hselected := henvelope.selected
      rw [hechoed, selectedMethod_self, hnull] at hselected
      rw [hdefault, ← Json.str.inj hselected]
  -- A demand is read by the signer and the facilitator alike.
  · have hraw := henvelope.demanded hnull
    have hread := (extraFields_of_ok (shapeOk_of_shape hextra).view).method
    have hlookup : ExactXRPLExtra.lookup requirements.extraOr "assetTransferMethod"
        "asset_transfer_method" = some (.str method) := by
      unfold ExactXRPLExtra.lookup
      rw [get?_of_get hraw (fun hj => by cases hj)]
      rfl
    rw [hlookup] at hread
    unfold signedMethod
    have htyped : extra.assetTransferMethod = some (trim method) :=
      (Option.some.inj hread).symm
    rw [htyped]
    rcases henvelope.known with rfl | rfl
    · decide
    · decide

/-- A canonical blob is not changed when it is validated. -/
theorem modelValidate_canonical {blob : String} {exact_ : ExactXRPLPayload}
    (hblob : isSignedTxBlob blob = true)
    (h : ExactXRPLPayload.modelValidate env [("signedTxBlob", .str blob)] = .ok exact_) :
    exact_.signedTxBlob = blob := by
  -- `trim`, `strip` and `upper` leave upper-case hex digits as they are.
  have hchars : ∀ c ∈ blob.toList, isSpace c = false ∧ c.toNat < 128 ∧ c.toUpper = c := by
    intro c hc
    unfold isSignedTxBlob at hblob
    simp only [Bool.and_eq_true, List.all_eq_true] at hblob
    obtain ⟨-, hspace, hascii, hupper, -⟩ := upperHexDigit_plain (hblob.2 c hc)
    exact ⟨hspace, hascii, hupper⟩
  have htrim : trim blob = blob := trim_of_noSpace fun c hc => (hchars c hc).1
  have hstrip : strip blob = blob := strip_of_noSpace fun c hc => (hchars c hc).1
  have hupper : env.unicode.upperStr blob = blob :=
    env.unicode.upperStr_of_upper fun c hc => (hchars c hc).2
  unfold ExactXRPLPayload.modelValidate at h
  have hget : Dict.get? [("signedTxBlob", Json.str blob)] "signedTxBlob" = some (.str blob) := rfl
  simp only [hget, htrim, hstrip, hupper, List.all_cons, List.all_nil, Bool.and_true, decide_true,
    if_true] at h
  split at h
  · cases h
  · have hexact := Except.ok.inj h
    rw [← hexact]

/-- The payload is the canonical blob. -/
theorem signed_of_built {pages : Nat} {inner : Dict}
    (h : Path (buildX402Payload env S pages requirements) t (.ok inner)) :
    ∃ blob exact_, Path (signRequirements env S pages requirements) t (.ok blob) ∧
      ExactXRPLPayload.modelValidate env [("signedTxBlob", .str blob)] = .ok exact_ ∧
      inner = [("signedTxBlob", .str exact_.signedTxBlob)] := by
  simp only [buildX402Payload, path_bind_ok, path_ofExcept, pure_def, path_ret] at h
  obtain ⟨t₁, _, blob, ht, hsign, _, _, exact_, rfl, ⟨rfl, hexact⟩, rfl, hinner⟩ := h
  rw [List.append_nil, List.append_nil] at ht
  rw [ht]
  exact ⟨blob, exact_, hsign, hexact.symm, Except.ok.inj hinner⟩

end Honest

/-! ## Section 4: Honest payments -/

/-- A payload that a signer built for requirements written plainly, and sent with
    these requirements to a facilitator that serves them. `tx` is the signed
    transaction, and the signer has read the ledger `read`. -/
structure HonestPayment (env : Env) (S : XRPLPaymentSigner) (F : ExactXRPLFacilitatorScheme env)
    (codec : CodecForms) (signerPages : Nat) (requirements : PaymentRequirements)
    (extra : ExactXRPLExtra) (t : List (Event SignOp SignRet)) (payload : PaymentPayload) (tx : Dict)
    (read last : Int) : Prop where
  built : Path (buildX402Payload env S signerPages requirements) t (.ok payload.payload)
  fills : ∀ u p, (⟨.autofill u, .ok p⟩ : Event SignOp SignRet) ∈ t → Fills codec u p
  decodes : Decodes env codec S.library
  signs : SignsValidly env S.library
  shape : validateRequirementsShape env requirements = .ok extra
  version : payload.x402Version = 2
  echoed : payload.accepted = requirements
  decoded : ∀ blob, Dict.get payload.payload "signedTxBlob" = .str blob → env.decode blob = .ok tx
  serves : ServesOffer F requirements extra
  fee : FeeWithin F tx
  plain : WrittenPlainly env codec requirements extra
  stated : assetTransferMethod requirements ≠ .null ∨ signedMethod extra = "sequence"
  ledger : ∃ e ∈ t, ledgerRead env e = some read
  lastLedger : Dict.get tx "LastLedgerSequence" = .int last

section HonestPayment

variable {S : XRPLPaymentSigner} {F : ExactXRPLFacilitatorScheme env} {codec : CodecForms}
  {signerPages : Nat} {requirements : PaymentRequirements} {extra : ExactXRPLExtra}
  {t : List (Event SignOp SignRet)} {payload : PaymentPayload} {tx : Dict} {read last : Int}

/-- What the facilitator knows of an honest payment before it asks the node. -/
structure Prechecked (F : ExactXRPLFacilitatorScheme env) (requirements : PaymentRequirements)
    (extra : ExactXRPLExtra) (payload : PaymentPayload) (tx : Dict) (read last : Int)
    (blob : String) : Prop where
  exact_ : ∃ exact_, exactXrplPayload env payload = .ok exact_ ∧ exact_.signedTxBlob = blob
  canonical : isSignedTxBlob blob = true
  decoded : env.decode blob = .ok tx
  checked : checkTransaction F payload requirements =
    .ok ⟨signedMethod extra, blob, tx, payerOf env tx⟩
  account : Dict.get? tx "Account" = some (.str (payerOf env tx))
  window : ∀ ledger, read ≤ ledger → ledger < last →
    checkLastLedger tx requirements (payerOf env tx) ledger = .ok ()
  sequence : signedMethod extra = "sequence" → Dict.get tx "TicketSequence" = .null
  ticket : signedMethod extra = "ticketSequence" → Dict.get tx "Sequence" = .int 0 ∧
    ∃ n, Dict.get tx "TicketSequence" = .int n
  sendable : ∃ sent, env.paymentFromXrpl
    (Dict.pop (Dict.pop (Dict.pop tx "TxnSignature") "SigningPubKey") "Signers") = .ok sent

theorem HonestPayment.prechecked (hinj : Function.Injective env.sha256)
    (h : HonestPayment env S F codec signerPages requirements extra t payload tx read last) :
    ∃ blob, Prechecked F requirements extra payload tx read last blob := by
  -- The signature, and the blob in the payload.
  obtain ⟨blob, exact_, hsign, hexact, hbuilt⟩ := signed_of_built h.built
  obtain ⟨_, _, unsigned, prepared, hsigned⟩ := signedFrom_of_path hsign
  obtain ⟨raw, hraw, hblob⟩ := hsigned.signed
  have hcanonical : isSignedTxBlob blob = true := hblob ▸ h.signs.blob prepared raw hraw
  have hsame : exact_.signedTxBlob = blob := modelValidate_canonical hcanonical hexact
  have hinner : payload.payload = [("signedTxBlob", .str blob)] := by
    rw [hbuilt, hsame]
  have hdecoded : env.decode blob = .ok tx := h.decoded blob (by rw [hinner]; rfl)
  have hpayload : exactXrplPayload env payload = .ok exact_ := by
    unfold exactXrplPayload
    rw [hinner]
    exact hexact
  -- The checks that need no ledger.
  obtain ⟨extra', networkId, unsigned, prepared, hsignedTx⟩ :=
    signedTx_of_path hsign h.fills h.decodes hdecoded
  obtain rfl : extra' = extra := Except.ok.inj (hsignedTx.shape.symm.trans h.shape)
  have haccepts := accepts_of_writtenPlainly hinj hsignedTx h.version h.echoed h.serves h.fee h.plain
  obtain ⟨method, henvelope⟩ := haccepts.envelope
  obtain rfl : method = signedMethod extra' :=
    selected_eq_signed h.echoed h.shape h.stated henvelope
  have hsignature : verifySignature env tx (payerOf env tx) = .ok () :=
    verifySignature_ok (h.signs.valid _ raw tx hraw (hblob ▸ hdecoded))
  have hchecked : checkTransaction F payload requirements =
      .ok ⟨signedMethod extra', blob, tx, payerOf env tx⟩ := by
    unfold checkTransaction
    apply bind_eq_ok.mpr ⟨signedMethod extra', henvelope, ?_⟩
    apply bind_eq_ok.mpr ⟨exact_, uncaught_eq_ok.mpr hpayload, ?_⟩
    rw [hsame]
    apply bind_eq_ok.mpr ⟨tx, ?_, ?_⟩
    · unfold decodeOrRefuse
      rw [hdecoded]
    apply bind_eq_ok.mpr ⟨(), hsignature, ?_⟩
    exact bind_eq_ok.mpr ⟨(), haccepts.structure_, rfl⟩
  obtain ⟨account, haccount⟩ := h.signs.account _ raw tx hraw (hblob ▸ hdecoded)
  have hpayer : payerOf env tx = account := by
    unfold payerOf Dict.get
    rw [haccount]
    by_cases hempty : account = ""
    · rw [hempty]
      rfl
    · simp [Json.or, Json.truthy, hempty, str]
  obtain ⟨e, he, hread⟩ := h.ledger
  exact ⟨blob, ⟨exact_, hpayload, hsame⟩, hcanonical, hdecoded, hchecked, hpayer ▸ haccount,
    fun ledger hlow hhigh => haccepts.window e he read hread last ledger h.lastLedger hlow hhigh,
    hsignedTx.sequenceFields.1, hsignedTx.sequenceFields.2,
    h.signs.sendable _ raw tx hraw (hblob ▸ hdecoded)⟩

/-- The verdict on an honest payment. -/
def honestVerdict (env : Env) (tx : Dict) : VerifyResponse :=
  ⟨true, none, none, some (payerOf env tx), some [("verificationPath", .str "simulation")]⟩

theorem Prechecked.verify_total {blob : String} {pages : Nat} {server : TicketServer env} {data : Dict}
    (h : Prechecked F requirements extra payload tx read last blob)
    (hstanding : Standing env server pages data tx (signedMethod extra)) :
    (verify F pages payload requirements).Total
      (NodeAnswers env server (payerOf env tx) data read last) (· = .ok (honestVerdict env tx)) := by
  -- The blob decodes, so it has a hash.
  obtain ⟨hash, hhash⟩ := exists_signedTransactionHash h.canonical h.decoded
  have hledger := verifyLedgerAndAccountState_total h.window hstanding h.sequence h.ticket
  have htransaction : (verifyTransaction F pages payload requirements).Total
      (NodeAnswers env server (payerOf env tx) data read last)
      (· = .ok ⟨tx, hash, payerOf env tx, "simulation"⟩) := by
    unfold verifyTransaction
    rw [h.checked]
    show Total _ _ (verifyLedgerAndAccountState env pages tx requirements (payerOf env tx)
      (signedMethod extra) >>= _)
    refine hledger.bind (fun _ _ => ?_) fun e he => by cases he
    refine Total.bind (verifySimulationOrBalances_total h.sendable) (fun path hpath => ?_)
      fun e he => by cases he
    obtain rfl := Except.ok.inj hpath
    rw [hhash]
    rfl
  have haccepted : Total (NodeAnswers env server (payerOf env tx) data read last)
      (· = .ok (honestVerdict env tx)) (do
        return accepted (← verifyTransaction F pages payload requirements)) := by
    refine htransaction.bind (fun verified h => ?_) fun e he => by cases he
    obtain rfl := Except.ok.inj h
    rfl
  unfold verify
  apply haccepted.tryCatch
  · intro v hv
    exact hv
  · intro e he
    cases he

end HonestPayment

/-- An honest payment is verified while the ledger is inside its window and the
    account stands as the payment needs it. -/
theorem signed_payment_verifies (hinj : Function.Injective env.sha256) (S : XRPLPaymentSigner)
    (F : ExactXRPLFacilitatorScheme env) (codec : CodecForms) (signerPages pages : Nat)
    (requirements : PaymentRequirements) (extra : ExactXRPLExtra) (t : List (Event SignOp SignRet))
    (payload : PaymentPayload) (tx : Dict) (read last : Int)
    (h : HonestPayment env S F codec signerPages requirements extra t payload tx read last)
    (server : TicketServer env) (data : Dict)
    (hstanding : Standing env server pages data tx (signedMethod extra)) :
    (verify F pages payload requirements).Total
      (NodeAnswers env server (payerOf env tx) data read last) (· = .ok (honestVerdict env tx)) := by
  obtain ⟨blob, hprechecked⟩ := h.prechecked hinj
  exact hprechecked.verify_total hstanding

/-! ### The order is verified -/

namespace Sample

open Facilitator.Sample

theorem sign_order {p : Payment} {raw : String} (h : library.sign p = .ok raw) : raw = "12000022" := by
  unfold library at h
  by_cases hp : p = orderPayment
  · simp only [if_pos hp] at h
    exact (Except.ok.inj h).symm
  · simp only [if_neg hp] at h
    cases h

theorem signature_order : SignatureOk signingEnv orderTx (payerOf signingEnv orderTx) where
  payment := rfl
  single := rfl
  address := rfl
  signed := ⟨publicKey, "00", "53545800", [0x53, 0x54, 0x58, 0x00], [0x00], rfl, by decide +kernel, rfl,
    by decide, rfl, by decide +kernel, by decide +kernel, rfl⟩

theorem signsValidly_order : SignsValidly signingEnv library where
  account p raw tx _ htx := by
    obtain rfl : orderTx = tx := Except.ok.inj htx
    exact ⟨"rPayer", rfl⟩
  blob p raw h := by
    rw [sign_order h]
    decide +kernel
  valid p raw tx _ htx := by
    obtain rfl : orderTx = tx := Except.ok.inj htx
    exact signature_order
  sendable p raw tx _ _ := ⟨_, rfl⟩

/-- A server without tickets. -/
def noTickets : TicketServer signingEnv where
  answer _ := .obj [("account_objects", .arr [])]
  page _ := ⟨[], .null⟩
  pages _ := rfl
  sequences _ object hobject := by cases hobject
  finite := by
    apply (Set.finite_singleton Json.null).subset
    rintro marker ⟨m, rfl⟩
    rfl
  distinct := by
    rintro marker ⟨m, rfl⟩ marker' ⟨m', rfl⟩ _
    rfl

def orderAccount : Dict := [("Flags", .int 0), ("Sequence", .int 7)]

theorem standing_order : Standing signingEnv noTickets 1 orderAccount orderTx "sequence" where
  flags := ⟨0, rfl⟩
  signer := ⟨.str publicKey, "rPayer", rfl, rfl, .inr ⟨rfl, 0, rfl, rfl⟩⟩
  spendable := .sequence rfl

theorem honest_order : HonestPayment signingEnv signer facilitatorOf plainCodec 1 (offer "invoiceId")
    offerExtra signing (offerPayload "invoiceId") orderTx 100 114 where
  built := path_of_replay (by decide +kernel)
  fills := noFilling
  decodes := decodes_order
  signs := signsValidly_order
  shape := by decide +kernel
  version := rfl
  echoed := rfl
  decoded _ _ := rfl
  serves := serves_offer _
  fee := feeWithin_order
  plain := ⟨rfl, by decide, rfl, by decide, fun hasset => absurd rfl hasset,
    fun hasset => absurd rfl hasset⟩
  stated := .inr (by decide)
  ledger := ⟨⟨.currentLedgerIndex "xrpl:1", .ok 100⟩, List.mem_singleton.mpr rfl, rfl⟩
  lastLedger := rfl

end Sample

theorem signed_payment_verifies_order :
    (verify Sample.facilitatorOf 1 (Sample.offerPayload "invoiceId") (Sample.offer "invoiceId")).Total
      (NodeAnswers Sample.signingEnv Sample.noTickets "rPayer" Sample.orderAccount 100 114)
      (· = .ok (honestVerdict Sample.signingEnv Sample.orderTx)) :=
  signed_payment_verifies Sample.signingEnv_injective Sample.signer Sample.facilitatorOf
    Sample.plainCodec 1 1 (Sample.offer "invoiceId") Sample.offerExtra Sample.signing
    (Sample.offerPayload "invoiceId") Sample.orderTx 100 114 Sample.honest_order Sample.noTickets
    Sample.orderAccount Sample.standing_order

end XrplX402
