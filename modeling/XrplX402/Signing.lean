import XrplX402.Rendering

/-! # What the signer signs, a facilitator accepts

    * `SignedTx`: what a signature says about the decoded transaction.
    * `signed_accepted_iff`: the checks accept the payment exactly when the
      requirements are written plainly. -/

namespace XrplX402

open Py Interaction Client Facilitator

variable {env : Env} {F : ExactXRPLFacilitatorScheme env} {requirements : PaymentRequirements}

/-! ## Section 1: Signed payments -/

section Signed

variable {S : XRPLPaymentSigner} {codec : CodecForms} {t : List (Event SignOp SignRet)} {blob : String}
  {extra : ExactXRPLExtra} {networkId : Int} {unsigned prepared : Payment} {tx : Dict}

/-- What a signature says about the transaction that is decoded. -/
structure SignedTx (env : Env) (S : XRPLPaymentSigner) (codec : CodecForms)
    (requirements : PaymentRequirements) (t : List (Event SignOp SignRet)) (extra : ExactXRPLExtra)
    (tx : Dict) (networkId : Int) (unsigned prepared : Payment) : Prop where
  shape : validateRequirementsShape env requirements = .ok extra
  network : parseXrplNetworkId env requirements.network = .ok networkId
  origin : Unsigned env S requirements extra networkId t unsigned
  fills : Fills codec unsigned prepared
  valid : validatePrepared env prepared (signedMethod extra) networkId = .ok ()
  rendered : Renders env codec prepared tx

theorem signedTx_of_path {pages : Nat}
    (h : Prog.Path (signRequirements env S pages requirements) t (.ok blob))
    (hfills : ∀ u p, (⟨.autofill u, .ok p⟩ : Event SignOp SignRet) ∈ t → Fills codec u p)
    (hcodec : Decodes env codec S.library) (hdecode : env.decode blob = .ok tx) :
    ∃ extra networkId unsigned prepared,
      SignedTx env S codec requirements t extra tx networkId unsigned prepared := by
  obtain ⟨extra, networkId, unsigned, prepared, hsigned⟩ := signedFrom_of_path h
  obtain ⟨raw, hraw, hblob⟩ := hsigned.signed
  refine ⟨extra, networkId, unsigned, prepared, hsigned.shape, hsigned.network, hsigned.origin, ?_,
    hsigned.valid, hcodec prepared raw tx hraw (hblob ▸ hdecode)⟩
  rcases hsigned.filling with rfl | hmem
  · exact .refl codec _
  · exact hfills unsigned prepared hmem

namespace SignedTx

variable (h : SignedTx env S codec requirements t extra tx networkId unsigned prepared)
include h

theorem destination : Dict.get tx "Destination" = .str (codec.address requirements.payTo) := by
  obtain ⟨last, amount, sendMax, invoice, ticket, -, -, hunsigned⟩ := h.origin.fields
  rw [h.rendered.destination, h.fills.destination, hunsigned]
  rfl

/-- The tag is the one of the typed view, unless `autofill` took it from the address. -/
theorem destinationTag (haddress : codec.address requirements.payTo = requirements.payTo) :
    Dict.get tx "DestinationTag" = optInt extra.destinationTag := by
  obtain ⟨last, amount, sendMax, invoice, ticket, -, -, hunsigned⟩ := h.origin.fields
  have htag : prepared.destinationTag = unsigned.destinationTag := by
    apply h.fills.destinationTag
    rw [hunsigned]
    exact haddress
  rw [h.rendered.destinationTag, htag, hunsigned]
  rfl

theorem invoice : ∃ invoice, invoiceField env extra = .ok invoice ∧
    Dict.get tx "InvoiceID" = optStr invoice := by
  obtain ⟨last, amount, sendMax, invoice, ticket, -, hinvoice, hunsigned⟩ := h.origin.fields
  refine ⟨invoice, hinvoice, ?_⟩
  rw [h.rendered.invoiceId, h.fills.invoiceId, hunsigned]
  rfl

/-- The amount and its limit, native or issued. -/
theorem amounts_rendered :
    (requirements.asset = "XRP" ∧ Dict.get tx "Amount" = .str requirements.amount ∧
      Dict.get tx "SendMax" = .null) ∨
    ∃ issuer amount limit, requirements.asset ≠ "XRP" ∧ extra.issuer = some issuer ∧
      Dict.get tx "Amount" = .obj amount ∧
      RendersIssued env codec (issuedAmount requirements issuer) amount ∧
      Dict.get tx "SendMax" = .obj limit ∧
      RendersIssued env codec (issuedAmount requirements issuer) limit := by
  obtain ⟨last, amount, sendMax, invoice, ticket, hamounts, -, hunsigned⟩ := h.origin.fields
  have hamount : prepared.amount = amount := by
    rw [h.fills.amount, hunsigned]
    rfl
  have hsendMax : prepared.sendMax = sendMax := by
    rw [h.fills.sendMax, hunsigned]
    rfl
  have hrendered := h.rendered.amount
  have hlimit := h.rendered.sendMax
  rw [hamount] at hrendered
  rw [hsendMax] at hlimit
  rcases amounts_eq_ok h.shape hamounts with ⟨hasset, rfl, rfl⟩ | ⟨issuer, hasset, hissuer, rfl, rfl⟩
  · left
    refine ⟨hasset, ?_, ?_⟩
    · generalize Dict.get tx "Amount" = j at hrendered
      cases hrendered
      rfl
    · rcases hlimit with ⟨-, hnull⟩ | ⟨_, _, hsome, -⟩
      · exact hnull
      · cases hsome
  · right
    rcases hlimit with ⟨hnone, -⟩ | ⟨limit, d, hsome, hd, hlimit⟩
    · cases hnone
    · obtain rfl := Option.some.inj hsome
      generalize hj : Dict.get tx "Amount" = j at hrendered
      cases hrendered with
      | issued hpaid => exact ⟨issuer, _, d, hasset, hissuer, rfl, hpaid, hd, hlimit⟩

theorem networkField : (networkId ≤ 1024 → Dict.get tx "NetworkID" = .null) ∧
    (1024 < networkId → Dict.get tx "NetworkID" = .int networkId) := by
  have hvalid := h.valid
  unfold validatePrepared at hvalid
  obtain ⟨-, hvalid⟩ := failIf_bind_eq_ok.mp hvalid
  obtain ⟨-, hvalid⟩ := failIf_bind_eq_ok.mp hvalid
  have hnetworks : ¬ (networkId ≤ 1024 ∧ prepared.networkId ≠ none) ∧
      ¬ (1024 < networkId ∧ prepared.networkId ≠ some networkId) := by
    split at hvalid
    · obtain ⟨-, hvalid⟩ := failIf_bind_eq_ok.mp hvalid
      obtain ⟨-, hvalid⟩ := failIf_bind_eq_ok.mp hvalid
      obtain ⟨hstandard, hvalid⟩ := failIf_bind_eq_ok.mp hvalid
      exact ⟨hstandard, failIf_eq_ok.mp hvalid⟩
    · obtain ⟨-, hvalid⟩ := failIf_bind_eq_ok.mp hvalid
      obtain ⟨hstandard, hvalid⟩ := failIf_bind_eq_ok.mp hvalid
      exact ⟨hstandard, failIf_eq_ok.mp hvalid⟩
  refine ⟨fun hle => ?_, fun hlt => ?_⟩
  · have hnone : prepared.networkId = none := by
      by_contra hsome
      exact hnetworks.1 ⟨hle, hsome⟩
    rw [h.rendered.networkId, hnone]
    rfl
  · have hsome : prepared.networkId = some networkId := by
      by_contra hdiffers
      exact hnetworks.2 ⟨hlt, hdiffers⟩
    rw [h.rendered.networkId, hsome]
    rfl

theorem feeField : ∃ digits, Dict.get tx "Fee" = .str digits ∧
    env.unicode.isDigitStr digits = true := by
  have hvalid := h.valid
  unfold validatePrepared at hvalid
  obtain ⟨hfee, -⟩ := failIf_bind_eq_ok.mp hvalid
  cases hprepared : prepared.fee with
  | none =>
    rw [hprepared] at hfee
    exact absurd rfl hfee
  | some digits =>
    rw [hprepared] at hfee
    refine ⟨digits, ?_, by simpa using hfee⟩
    rw [h.rendered.fee, hprepared]
    rfl

/-- The check of the last ledger passes from the ledger that the signer read. -/
theorem window : ∀ e ∈ t, ∀ ledger, ledgerRead env e = some ledger →
    ∀ last current, Dict.get tx "LastLedgerSequence" = .int last → ledger ≤ current →
      current < last → checkLastLedger tx requirements (payerOf env tx) current = .ok () := by
  intro e he ledger hledger last current hlast hle hlt
  obtain ⟨last', hmax, hunsigned⟩ := h.origin.window e he ledger hledger
  have hfield := h.rendered.lastLedgerSequence
  rw [h.fills.lastLedgerSequence last' hunsigned, hlast] at hfield
  obtain rfl : last = last' := Json.int.inj hfield
  unfold getMaxLastLedgerSequence at hmax
  cases hround : roundBinary64 (requirements.maxTimeoutSeconds / xrplLedgerCloseSeconds) with
  | none =>
    rw [hround] at hmax
    cases hmax
  | some q =>
    rw [hround] at hmax
    have hsum : ledger + ⌈q⌉ + 2 = last := Except.ok.inj hmax
    unfold checkLastLedger
    rw [hlast]
    show (failIf (last ≤ current) _ >>= _) = _
    apply failIf_bind_eq_ok.mpr ⟨not_le.mpr hlt, ?_⟩
    apply bind_eq_ok.mpr ⟨current + ⌈q⌉ + 2, ?_, ?_⟩
    · rw [uncaught_eq_ok]
      unfold getMaxLastLedgerSequence
      rw [hround]
    · exact failIf_eq_ok.mpr (by omega)

end SignedTx

end Signed

/-! ## Section 2: Acceptance of signed payments -/

section Acceptance

variable {S : XRPLPaymentSigner} {codec : CodecForms} {t : List (Event SignOp SignRet)}
  {extra : ExactXRPLExtra} {networkId : Int} {unsigned prepared : Payment} {tx : Dict}
  {payload : PaymentPayload}

/-- The name and the issuer of an issued amount, where the structure checks pass. -/
theorem issuedNames_of_structure
    (h : SignedTx env S codec requirements t extra tx networkId unsigned prepared)
    (hstructure : StructureOk F tx requirements) (hasset : requirements.asset ≠ "XRP")
    {issuer : String} (hissuer : extra.issuer = some issuer)
    (hraw : Dict.get requirements.extraOr "issuer" = .str issuer) :
    codec.address issuer = issuer ∧ codec.currency requirements.asset = requirements.asset := by
  rcases h.amounts_rendered with ⟨hnative, -⟩ | ⟨issuer', amount, limit, -, hissuer', htxAmount,
    hpaid, -, -⟩
  · exact absurd hnative hasset
  obtain rfl : issuer' = issuer := Option.some.inj (hissuer'.symm.trans hissuer)
  obtain ⟨field, other, hpair, hpresent, -, hamount⟩ := hstructure.amount
  have hfield : field = "Amount" := by
    have habsent : Dict.get tx "DeliverMax" = .null := h.rendered.absent (by decide)
    simp only [List.mem_cons, Prod.mk.injEq, List.not_mem_nil, or_false] at hpair
    rcases hpair with ⟨rfl, -⟩ | ⟨rfl, -⟩
    · rfl
    · exact absurd habsent hpresent
  rw [hfield, htxAmount] at hamount
  cases hamount with
  | native hnative => exact absurd hnative hasset
  | issued _ amount' _ currency checked _ _ _ _ hpaid' _ hcode hchecked hcurrency hpaidIssuer =>
    obtain rfl : amount = amount' := Json.obj.inj hpaid'
    obtain rfl := Except.ok.inj (hcode.symm.trans (shapeOk_of_shape h.shape).wire)
    obtain rfl : issuer' = checked := Json.str.inj (hraw.symm.trans hchecked)
    exact ⟨Json.str.inj (hpaid.issuer.symm.trans hpaidIssuer),
      Json.str.inj (hpaid.currency.symm.trans hcurrency)⟩

theorem writtenPlainly_of_accepts (hinj : Function.Injective env.sha256)
    (h : SignedTx env S codec requirements t extra tx networkId unsigned prepared)
    (hversion : payload.x402Version = 2) (hechoed : payload.accepted = requirements)
    (hserves : ServesOffer F requirements extra) (haccepts : Accepts F requirements payload t tx) :
    WrittenPlainly env codec requirements extra := by
  obtain ⟨invoice, hinvoice, htxInvoice⟩ := h.invoice
  obtain ⟨hmethod, hallowed⟩ :=
    (verifyEnvelope_echoed_iff hversion hechoed h.shape hserves.network hserves.payTo
      hserves.minimum).mp haccepts.envelope
  have hstructure := structureOk_of_verifyStructure (wellShaped_of_shape h.shape) haccepts.structure_
  have hpayTo : codec.address requirements.payTo = requirements.payTo :=
    Json.str.inj (h.destination.symm.trans hstructure.destination)
  have hissued : requirements.asset ≠ "XRP" → ∀ issuer, extra.issuer = some issuer →
      Dict.get requirements.extraOr "issuer" = .str issuer ∧
        normalizeCurrencyCode env requirements.asset =
          .ok (friendlyCurrency env requirements.asset) := fun hasset issuer hissuer =>
    (assetAllowed_issued_iff h.shape hserves hasset hissuer).mp hallowed
  refine ⟨hpayTo, hmethod, ?_, ?_, ?_, ?_⟩
  · have hexpected := invoiceOk_iff.mpr hstructure.invoice
    rw [normalizedInvoice_rendered hinvoice htxInvoice] at hexpected
    exact (expectedInvoice_iff hinj (shapeOk_of_shape h.shape).view hinvoice).mp hexpected
  · rw [← h.destinationTag hpayTo]
    exact Json.pyEq_iff.mpr hstructure.destinationTag
  · intro hasset issuer hissuer
    have hraw := (hissued hasset issuer hissuer).1
    exact ⟨hraw, (issuedNames_of_structure h hstructure hasset hissuer hraw).1⟩
  · intro hasset
    obtain ⟨issuer, hissuer, -⟩ := (shapeOk_of_shape h.shape).issuer hasset
    obtain ⟨hraw, hname⟩ := hissued hasset issuer hissuer
    exact ⟨(issuedNames_of_structure h hstructure hasset hissuer hraw).2, hname⟩

theorem accepts_of_writtenPlainly (hinj : Function.Injective env.sha256)
    (h : SignedTx env S codec requirements t extra tx networkId unsigned prepared)
    (hversion : payload.x402Version = 2) (hechoed : payload.accepted = requirements)
    (hserves : ServesOffer F requirements extra) (hfee : FeeWithin F tx)
    (hplain : WrittenPlainly env codec requirements extra) : Accepts F requirements payload t tx := by
  have hallowed : assetAllowed F requirements = true := by
    by_cases hasset : requirements.asset = "XRP"
    · exact assetAllowed_native h.shape hasset
    · obtain ⟨issuer, hissuer, -⟩ := (shapeOk_of_shape h.shape).issuer hasset
      exact (assetAllowed_issued_iff h.shape hserves hasset hissuer).mpr
        ⟨(hplain.issuer hasset issuer hissuer).1, (hplain.asset hasset).2⟩
  have henvelope := (verifyEnvelope_echoed_iff hversion hechoed h.shape hserves.network hserves.payTo
    hserves.minimum).mpr ⟨hplain.method, hallowed⟩
  refine ⟨henvelope, ?_, h.window⟩
  obtain ⟨invoice, hinvoice, htxInvoice⟩ := h.invoice
  have hexpected := (expectedInvoice_iff hinj (shapeOk_of_shape h.shape).view hinvoice).mpr
    hplain.invoiceId
  obtain ⟨digits, hdigits, hisDigit⟩ := h.feeField
  obtain ⟨digits', drops, hdigits', hdrops, hmax⟩ := hfee
  obtain rfl : digits = digits' := Json.str.inj (hdigits.symm.trans hdigits')
  have hamount : verifyAmount env tx (Dict.get tx "Amount") requirements (payerOf env tx) = .ok () := by
    rcases h.amounts_rendered with ⟨hasset, htxAmount, hsendMax⟩ | ⟨issuer, amount, limit, hasset,
      hissuer, htxAmount, hpaid, htxLimit, hlimit⟩
    · exact verifyAmount_native (wellShaped_of_shape h.shape) hasset htxAmount hsendMax
    · obtain ⟨hraw, haddress⟩ := hplain.issuer hasset issuer hissuer
      exact verifyAmount_issued h.shape hasset hraw haddress (hplain.asset hasset).1 htxAmount hpaid
        htxLimit hlimit
  apply verifyStructure_rendered h.rendered (payerOf env tx) ?_ hamount ?_ hexpected
    (normalizedInvoice_rendered hinvoice htxInvoice) h.network h.networkField.1 h.networkField.2
    hdigits hisDigit hdrops hmax
  · rw [h.destination, hplain.payTo]
  · rw [h.destinationTag hplain.payTo]
    exact hplain.destinationTag

end Acceptance

/-- The facilitator's checks accept a payment that was signed for its own
    requirements exactly when `extra` and the names are written plainly. -/
theorem signed_accepted_iff (hinj : Function.Injective env.sha256) (S : XRPLPaymentSigner)
    (F : ExactXRPLFacilitatorScheme env) (codec : CodecForms) (pages : Nat)
    (requirements : PaymentRequirements) (extra : ExactXRPLExtra) (t : List (Event SignOp SignRet))
    (blob : String) (tx : Dict) (payload : PaymentPayload)
    (hpath : Prog.Path (signRequirements env S pages requirements) t (.ok blob))
    (hfills : ∀ u p, (⟨.autofill u, .ok p⟩ : Event SignOp SignRet) ∈ t → Fills codec u p)
    (hcodec : Decodes env codec S.library) (hdecode : env.decode blob = .ok tx)
    (hextra : validateRequirementsShape env requirements = .ok extra)
    (hversion : payload.x402Version = 2) (hechoed : payload.accepted = requirements)
    (hserves : ServesOffer F requirements extra) (hfee : FeeWithin F tx) :
    Accepts F requirements payload t tx ↔ WrittenPlainly env codec requirements extra := by
  obtain ⟨extra', networkId, unsigned, prepared, hsigned⟩ :=
    signedTx_of_path hpath hfills hcodec hdecode
  obtain rfl : extra' = extra := Except.ok.inj (hsigned.shape.symm.trans hextra)
  constructor
  · intro haccepts
    exact writtenPlainly_of_accepts hinj hsigned hversion hechoed hserves haccepts
  · intro hplain
    exact accepts_of_writtenPlainly hinj hsigned hversion hechoed hserves hfee hplain

/-! ### An invoice under the name of its field -/

namespace Sample

open Facilitator.Sample

def signingDigests : List (String × List UInt8) :=
  [("order-1",
      [11, 175, 226, 33, 86, 210, 105, 140, 20, 59, 134, 4, 4, 70, 211, 102, 234, 216, 99, 186,
      96, 13, 92, 146, 79, 61, 21, 199, 134, 239, 64, 87])]

def orderInvoice : String := "0BAFE22156D2698C143B86040446D366EAD863BA600D5C924F3D15C786EF4057"

/-- The payment of the order, with its invoice. -/
def orderPayment : Payment :=
  ⟨"rPayer", "rMerchant", .drops "1000", none, some orderInvoice, none, none, some 114, some 7, none,
    some "12"⟩

def orderTx : Dict :=
  [("TransactionType", .str "Payment"), ("Account", .str "rPayer"),
    ("Destination", .str "rMerchant"), ("Amount", .str "1000"), ("Fee", .str "12"),
    ("Sequence", .int 7), ("LastLedgerSequence", .int 114), ("InvoiceID", .str orderInvoice),
    ("SigningPubKey", .str publicKey), ("TxnSignature", .str "00")]

def signingEnv : Env :=
  { sampleEnv with
    sha256 := tableHash signingDigests
    decode := fun _ => .ok orderTx }

theorem signingEnv_injective : Function.Injective signingEnv.sha256 :=
  tableHash_injective (by decide) (by decide +kernel)

/-- A library that signs the payment of the order. -/
def library : XrplLibrary where
  issuedCurrencyAmount := fun _ => .ok ()
  payment := fun _ => .ok ()
  sign := fun p => if p = orderPayment then .ok "12000022" else .error (valueError "no key")

def signer : XRPLPaymentSigner where
  library := library
  classicAddress := "rPayer"
  network := none
  autofillEnabled := false
  defaultFee := "12"
  defaultSequence := 7
  defaultLastLedgerSequence := none
  tickets := ⟨0, by decide⟩
  ownLedgerIndex := true
  ownTickets := false

/-- Names are written as they are. -/
def plainCodec : CodecForms := ⟨id, id⟩

theorem decodes_order : Decodes signingEnv plainCodec library := by
  intro p raw tx hsign hdecode
  have hp : p = orderPayment := by
    by_contra hne
    unfold library at hsign
    simp only [if_neg hne] at hsign
    cases hsign
  obtain rfl : orderTx = tx := Except.ok.inj hdecode
  rw [hp]
  exact ⟨by decide, rfl, .drops _, .inl ⟨rfl, rfl⟩, rfl, rfl, rfl, rfl, rfl, rfl, rfl, .inl rfl⟩

def facilitatorOf : ExactXRPLFacilitatorScheme signingEnv where
  settings := settings
  supportedAssets := [⟨xrpCode, none⟩, ⟨rlusdCode, some rlusdTestnetIssuer⟩]
  supported := by decide +kernel

/-- 1000 drops for the order, whose invoice stands under this name. -/
def offer (name : String) : PaymentRequirements :=
  ⟨"exact", "xrpl:1", "XRP", "1000", "rMerchant", 60,
    some [("areFeesSponsored", .bool false), (name, .str "order-1")]⟩

def offerExtra : ExactXRPLExtra := ⟨none, false, none, none, some "order-1", none⟩

def offerPayload (name : String) : PaymentPayload :=
  ⟨2, [("signedTxBlob", .str "12000022")], offer name, none, none⟩

/-- The signer reads ledger 100. -/
def signing : List (Event SignOp SignRet) := [⟨.currentLedgerIndex "xrpl:1", .ok 100⟩]

theorem noFilling : ∀ u p, (⟨.autofill u, .ok p⟩ : Event SignOp SignRet) ∈ signing →
    Fills plainCodec u p := by
  intro u p h
  rw [signing, List.mem_singleton] at h
  cases h

theorem serves_offer (name : String) : ServesOffer facilitatorOf (offer name) offerExtra := by
  refine ⟨rfl, rfl, fun issuer hasset => absurd rfl hasset, fun _ drops hdrops => ?_⟩
  have hvalue : intOfStr signingEnv.unicode "1000" = .ok 1000 := by decide +kernel
  obtain rfl : 1000 = drops := Except.ok.inj (hvalue.symm.trans hdrops)
  decide

theorem feeWithin_order : FeeWithin facilitatorOf orderTx :=
  ⟨"12", 12, rfl, by decide +kernel, by decide⟩

end Sample

/-- The signer reads the invoice under the name of its field, the facilitator
    does not. -/
theorem signed_field_name_refused :
    Prog.Path (signRequirements Sample.signingEnv Sample.signer 1 (Sample.offer "invoice_id"))
        Sample.signing (.ok "12000022") ∧
      Decodes Sample.signingEnv Sample.plainCodec Sample.signer.library ∧
      ServesOffer Sample.facilitatorOf (Sample.offer "invoice_id") Sample.offerExtra ∧
      FeeWithin Sample.facilitatorOf Sample.orderTx ∧
      ¬ Accepts Sample.facilitatorOf (Sample.offer "invoice_id") (Sample.offerPayload "invoice_id")
        Sample.signing Sample.orderTx := by
  refine ⟨Prog.path_of_replay (by decide +kernel), Sample.decodes_order, Sample.serves_offer _,
    Sample.feeWithin_order, fun h => ?_⟩
  have hrefused : verifyStructure Sample.facilitatorOf Sample.orderTx (Sample.offer "invoice_id")
      (payerOf Sample.signingEnv Sample.orderTx) =
      .error (refusal "invalid_exact_xrpl_payload_invoice_id_mismatch" "rPayer") := by
    decide +kernel
  have hstructure := h.structure_
  rw [hrefused] at hstructure
  cases hstructure

theorem signed_accepted_sample :
    Accepts Sample.facilitatorOf (Sample.offer "invoiceId") (Sample.offerPayload "invoiceId")
      Sample.signing Sample.orderTx := by
  apply (signed_accepted_iff Sample.signingEnv_injective Sample.signer Sample.facilitatorOf
    Sample.plainCodec 1 (Sample.offer "invoiceId") Sample.offerExtra Sample.signing "12000022"
    Sample.orderTx (Sample.offerPayload "invoiceId") (Prog.path_of_replay (by decide +kernel))
    Sample.noFilling Sample.decodes_order rfl (by decide +kernel) rfl rfl (Sample.serves_offer _)
    Sample.feeWithin_order).mpr
  exact ⟨rfl, by decide, rfl, by decide, fun hasset => absurd rfl hasset,
    fun hasset => absurd rfl hasset⟩

end XrplX402
