import XrplX402.Client.Signer
import XrplX402.Core.WireAssets
import XrplX402.Facilitator.AllowList
import XrplX402.Py.Integers

/-! # How a facilitator reads a rendered payment

    The signer computes a payment from the typed view of `extra`, the
    facilitator checks the decoded transaction against the dictionary itself,
    and the codec stands between them.

    * `Renders`: a transaction as the codec decodes it.
    * `WrittenPlainly`: when the dictionary says what its typed view says.
    * One lemma for each part of the checks. -/

namespace XrplX402

open Py Interaction Client Facilitator

variable {env : Env}

/-! ## Section 1: The codec and the filled-in fields -/

/-- How accounts and currencies are written in a decoded transaction. -/
structure CodecForms where
  address : String → String
  currency : String → String

def optInt : Option Int → Json
  | some n => .int n
  | none => .null

/-- The texts are numbers of one value. -/
def SameValue (env : Env) (a b : String) : Prop :=
  ∃ d e q, decimalOfStr env.unicode a = some d ∧ decimalOfStr env.unicode b = some e ∧
    d.Denotes q ∧ e.Denotes q

structure RendersIssued (env : Env) (codec : CodecForms) (amount : IssuedCurrencyAmount) (d : Dict) :
    Prop where
  currency : Dict.get d "currency" = .str (codec.currency amount.currency)
  issuer : Dict.get d "issuer" = .str (codec.address amount.issuer)
  value : ∃ text, Dict.get d "value" = .str text ∧ SameValue env text amount.value

inductive RendersAmount (env : Env) (codec : CodecForms) : PaymentAmount → Json → Prop where
  | drops (value : String) : RendersAmount env codec (.drops value) (.str value)
  | issued {amount : IssuedCurrencyAmount} {d : Dict} (h : RendersIssued env codec amount d) :
      RendersAmount env codec (.issued amount) (.obj d)

/-- The fields that a signed payment can have. -/
def signedFields : List String :=
  ["TransactionType", "Account", "Destination", "DestinationTag", "Amount", "SendMax", "Fee",
    "Sequence", "TicketSequence", "LastLedgerSequence", "NetworkID", "InvoiceID", "Flags",
    "SigningPubKey", "TxnSignature"]

/-- The decoded transaction has the fields of the payment that was signed. -/
structure Renders (env : Env) (codec : CodecForms) (p : Payment) (tx : Dict) : Prop where
  known : ∀ field ∈ Dict.keys tx, field ∈ signedFields
  destination : Dict.get tx "Destination" = .str (codec.address p.destination)
  amount : RendersAmount env codec p.amount (Dict.get tx "Amount")
  sendMax : (p.sendMax = none ∧ Dict.get tx "SendMax" = .null) ∨
    ∃ limit d, p.sendMax = some limit ∧ Dict.get tx "SendMax" = .obj d ∧ RendersIssued env codec limit d
  invoiceId : Dict.get tx "InvoiceID" = optStr p.invoiceId
  destinationTag : Dict.get tx "DestinationTag" = optInt p.destinationTag
  networkId : Dict.get tx "NetworkID" = optInt p.networkId
  lastLedgerSequence : Dict.get tx "LastLedgerSequence" = optInt p.lastLedgerSequence
  sequence : Dict.get tx "Sequence" = optInt p.sequence
  ticketSequence : Dict.get tx "TicketSequence" = optInt p.ticketSequence
  fee : Dict.get tx "Fee" = optStr p.fee
  flags : Dict.get tx "Flags" = .null ∨ Dict.get tx "Flags" = .int 0

/-- A blob is decoded to the payment that was signed. -/
def Decodes (env : Env) (codec : CodecForms) (library : XrplLibrary) : Prop :=
  ∀ p raw tx, library.sign p = .ok raw → env.decode (env.unicode.upperStr raw) = .ok tx →
    Renders env codec p tx

/-- `autofill` completes a payment, and rewrites addresses of another form. -/
structure Fills (codec : CodecForms) (unsigned prepared : Payment) : Prop where
  destination : codec.address prepared.destination = codec.address unsigned.destination
  amount : prepared.amount = unsigned.amount
  sendMax : prepared.sendMax = unsigned.sendMax
  invoiceId : prepared.invoiceId = unsigned.invoiceId
  destinationTag : codec.address unsigned.destination = unsigned.destination →
    prepared.destinationTag = unsigned.destinationTag
  lastLedgerSequence : ∀ last, unsigned.lastLedgerSequence = some last →
    prepared.lastLedgerSequence = some last

theorem Fills.refl (codec : CodecForms) (p : Payment) : Fills codec p p :=
  ⟨rfl, rfl, rfl, rfl, fun _ => rfl, fun _ h => h⟩

/-! ## Section 2: Acceptance -/

variable (F : ExactXRPLFacilitatorScheme env) (requirements : PaymentRequirements)

/-- The checks without the ledger accept the payment, and the check of its last
    ledger does from the ledger that the signer read until the last one. -/
structure Accepts (payload : PaymentPayload) (t : List (Event SignOp SignRet)) (tx : Dict) : Prop where
  envelope : ∃ method, verifyEnvelope F payload requirements = .ok method
  structure_ : verifyStructure F tx requirements (payerOf env tx) = .ok ()
  window : ∀ e ∈ t, ∀ ledger, ledgerRead env e = some ledger →
    ∀ last current, Dict.get tx "LastLedgerSequence" = .int last → ledger ≤ current →
      current < last → checkLastLedger tx requirements (payerOf env tx) current = .ok ()

/-- The facilitator is configured for the network, the address and the asset,
    under any spelling of its code, and has no other asset of the issuer. -/
structure ServesOffer (extra : ExactXRPLExtra) : Prop where
  network : requirements.network = F.settings.networkId
  payTo : requirements.payTo = F.settings.myDestinationAddress
  configured : ∀ issuer, requirements.asset ≠ "XRP" → extra.issuer = some issuer →
    (∃ entry ∈ configuredAssets F.settings, entry.issuer = issuer) ∧
      ∀ entry ∈ configuredAssets F.settings, entry.issuer = issuer →
        normalizeCurrencyCode env entry.code = normalizeCurrencyCode env requirements.asset
  minimum : requirements.asset = "XRP" →
    ∀ drops, intOfStr env.unicode requirements.amount = .ok drops → F.settings.minXrpDrops ≤ drops

/-- The fee of the transaction is a number that is not too high. -/
def FeeWithin (tx : Dict) : Prop :=
  ∃ digits drops, Dict.get tx "Fee" = .str digits ∧ intOfStr env.unicode digits = .ok drops ∧
    drops ≤ F.settings.maxFeeDrops

/-- Entries of `extra` stand under their wire names, in the form that the typed
    view gives them, and names are written as the codec and the allow-list write
    them. -/
structure WrittenPlainly (env : Env) (codec : CodecForms) (requirements : PaymentRequirements)
    (extra : ExactXRPLExtra) : Prop where
  payTo : codec.address requirements.payTo = requirements.payTo
  method : assetTransferMethod requirements ∈ [.null, .str "sequence", .str "ticketSequence"]
  invoiceId : Dict.get requirements.extraOr "invoiceId" = optStr extra.invoiceId
  destinationTag : (optInt extra.destinationTag).pyEq
    (Dict.get requirements.extraOr "destinationTag") = true
  issuer : requirements.asset ≠ "XRP" → ∀ issuer, extra.issuer = some issuer →
    Dict.get requirements.extraOr "issuer" = .str issuer ∧ codec.address issuer = issuer
  asset : requirements.asset ≠ "XRP" → codec.currency requirements.asset = requirements.asset ∧
    normalizeCurrencyCode env requirements.asset = .ok (friendlyCurrency env requirements.asset)

/-! ## Section 3: The envelope -/

variable {F requirements}

/-! ### Configured assets are supported -/

theorem parseAllowedEntry_of_written {rawEntry : String} {entry : ConfiguredAsset}
    {asset : Option AssetKey} (hwritten : writtenEntry rawEntry = some entry)
    (h : parseAllowedEntry env rawEntry = .ok asset) :
    ∃ key, asset = some key ∧ entry.Names env key := by
  unfold writtenEntry at hwritten
  unfold parseAllowedEntry at h
  by_cases hblank : strip rawEntry = ""
  · simp only [hblank, if_true] at hwritten
    cases hwritten
  · simp only [hblank, if_false] at hwritten h
    obtain rfl := Option.some.inj hwritten
    obtain ⟨code, hcode, h⟩ := bind_eq_ok.mp h
    split at h
    · cases h
    · split at h
      · cases h
      · split at h
        · cases h
        · exact ⟨_, (Except.ok.inj h).symm, rfl, hcode⟩

/-- Every entry names a supported asset. -/
theorem supported_of_configured {entry : ConfiguredAsset}
    (h : entry ∈ configuredAssets F.settings) : ∃ asset ∈ F.supportedAssets, entry.Names env asset := by
  have hsupported := F.supported
  unfold supportedAssetKeys at hsupported
  obtain ⟨allowed, hallowed, hsupported⟩ := bind_eq_ok.mp hsupported
  rw [← Except.ok.inj hsupported]
  unfold configuredAssets at h
  -- The entry is the built-in one of the network or one that the configuration wrote.
  rcases List.mem_append.mp h with hbuiltIn | hwritten
  · unfold builtInEntries at hbuiltIn
    cases hlookup : networkRlusdIssuers.lookup F.settings.networkId with
    | none =>
      rw [hlookup] at hbuiltIn
      cases hbuiltIn
    | some issuer =>
      rw [hlookup] at hbuiltIn
      obtain rfl := List.mem_singleton.mp hbuiltIn
      refine ⟨⟨rlusdCode, some issuer⟩, ?_, rfl, normalizeCurrencyCode_rlusd env⟩
      exact mem_foldl_addAsset.mpr (.inl (mem_addAsset.mpr (.inr rfl)))
  · unfold parseAllowedIssuedAssets at hallowed
    obtain ⟨entries, hentries, hallowed⟩ := bind_eq_ok.mp hallowed
    obtain ⟨cs, hcs, hwritten⟩ := List.mem_filterMap.mp hwritten
    -- What was written has been parsed, since all of the text was accepted.
    obtain ⟨parsed, hparsed, hparse⟩ := (mem_of_mapM hentries).1 _ hcs
    obtain ⟨key, rfl, hnames⟩ := parseAllowedEntry_of_written hwritten hparse
    refine ⟨key, mem_foldl_addAsset.mpr (.inr ?_), hnames⟩
    rw [← Except.ok.inj hallowed]
    exact mem_foldl_addAsset.mpr (.inr (List.reduceOption_mem_iff.mpr hparsed))

theorem strip_issuer_of_configured {entry : ConfiguredAsset}
    (h : entry ∈ configuredAssets F.settings) : strip entry.issuer = entry.issuer := by
  unfold configuredAssets at h
  rcases List.mem_append.mp h with hbuiltIn | hwritten
  -- The built-in issuers have no blanks around them.
  · unfold builtInEntries at hbuiltIn
    split at hbuiltIn
    · next issuer hlookup =>
      obtain rfl := List.mem_singleton.mp hbuiltIn
      have hmem : issuer ∈ networkRlusdIssuers.map Prod.snd := by
        obtain ⟨front, back, hlist, -⟩ := List.lookup_eq_some_iff.mp hlookup
        rw [hlist]
        simp
      have hall : ∀ s ∈ networkRlusdIssuers.map Prod.snd, strip s = s := by decide +kernel
      exact hall issuer hmem
    · cases hbuiltIn
  · obtain ⟨cs, -, hwritten⟩ := List.mem_filterMap.mp hwritten
    unfold writtenEntry at hwritten
    by_cases hblank : strip (String.ofList cs) = ""
    · simp only [hblank, if_true] at hwritten
      cases hwritten
    · simp only [hblank, if_false] at hwritten
      rw [← Option.some.inj hwritten]
      exact strip_strip _

/-! ### Requirements that are accepted as they are -/

theorem shapeOrRefuse_ok {reason : String} {extra : ExactXRPLExtra}
    (h : validateRequirementsShape env requirements = .ok extra) :
    shapeOrRefuse env reason requirements = .ok extra := by
  unfold shapeOrRefuse
  rw [h]

theorem belowMinimum_ok
    (hminimum : requirements.asset = "XRP" →
      ∀ drops, intOfStr env.unicode requirements.amount = .ok drops → F.settings.minXrpDrops ≤ drops)
    (hshape : WellShaped env requirements) :
    uncaught (belowMinimum env F.settings requirements) = .ok false := by
  rw [uncaught_eq_ok]
  unfold belowMinimum
  split
  · next hasset =>
    obtain ⟨-, drops, hdrops, -⟩ := hshape.native hasset
    rw [hdrops]
    show Except.ok (decide (drops < F.settings.minXrpDrops)) = .ok false
    rw [decide_eq_false (not_lt.mpr (hminimum hasset drops hdrops))]
  · rfl

theorem selectedMethod_self (r : PaymentRequirements) :
    selectedMethod r r = (assetTransferMethod r).or (.str "sequence") := by
  unfold selectedMethod Json.or
  split <;> rfl

/-- The envelope of requirements that are echoed. -/
theorem verifyEnvelope_echoed_iff {payload : PaymentPayload} {extra : ExactXRPLExtra}
    (hversion : payload.x402Version = 2) (hechoed : payload.accepted = requirements)
    (hshape : validateRequirementsShape env requirements = .ok extra)
    (hnetwork : requirements.network = F.settings.networkId)
    (hpayTo : requirements.payTo = F.settings.myDestinationAddress)
    (hminimum : requirements.asset = "XRP" →
      ∀ drops, intOfStr env.unicode requirements.amount = .ok drops → F.settings.minXrpDrops ≤ drops) :
    (∃ method, verifyEnvelope F payload requirements = .ok method) ↔
      assetTransferMethod requirements ∈ [.null, .str "sequence", .str "ticketSequence"] ∧
        assetAllowed F requirements = true := by
  have hwell := wellShaped_of_shape hshape
  constructor
  · rintro ⟨method, h⟩
    have henvelope := envelopeOk_of_verifyEnvelope h
    refine ⟨?_, henvelope.allowed⟩
    by_cases hnull : assetTransferMethod requirements = .null
    · simp [hnull]
    · have hmethod := henvelope.demanded hnull
      rcases henvelope.known with rfl | rfl
      · simp [hmethod]
      · simp [hmethod]
  · rintro ⟨hmethod, hallowed⟩
    -- A demand that is absent means a sequence; the two others name what they demand.
    obtain ⟨method, hselected, hknown, hdemanded⟩ : ∃ method,
        selectedMethod requirements requirements = .str method ∧
          (method = "sequence" ∨ method = "ticketSequence") ∧
          (assetTransferMethod requirements = .null ∨
            assetTransferMethod requirements = .str method) := by
      rw [selectedMethod_self]
      simp only [List.mem_cons, List.not_mem_nil, or_false] at hmethod
      rcases hmethod with hnull | hseq | hticket
      · exact ⟨"sequence", by rw [hnull]; rfl, .inl rfl, .inl hnull⟩
      · exact ⟨"sequence", by rw [hseq]; rfl, .inl rfl, .inr hseq⟩
      · exact ⟨"ticketSequence", by rw [hticket]; rfl, .inr rfl, .inr hticket⟩
    refine ⟨str env.unicode (selectedMethod requirements requirements), ?_⟩
    unfold verifyEnvelope
    rw [hechoed]
    apply bind_eq_ok.mpr ⟨extra, shapeOrRefuse_ok hshape, ?_⟩
    apply failIf_bind_eq_ok.mpr ⟨not_not.mpr hversion, ?_⟩
    apply bind_eq_ok.mpr ⟨extra, shapeOrRefuse_ok hshape, ?_⟩
    apply failIf_bind_eq_ok.mpr ⟨not_not.mpr rfl, ?_⟩
    apply failIf_bind_eq_ok.mpr ⟨by simp, ?_⟩
    apply failIf_bind_eq_ok.mpr ⟨by simp, ?_⟩
    apply failIf_bind_eq_ok.mpr ⟨?_, ?_⟩
    -- The selected method is one that the facilitator knows.
    · rw [hselected]
      rintro ⟨hseq, hticket⟩
      rcases hknown with rfl | rfl
      · exact hseq rfl
      · exact hticket rfl
    apply failIf_bind_eq_ok.mpr ⟨?_, ?_⟩
    -- It is the demanded one, where one is demanded.
    · rintro ⟨hpresent, hdiffers⟩
      rcases hdemanded with hnull | hsame
      · exact hpresent hnull
      · rw [hselected, hsame, Json.pyEq_iff.mpr rfl] at hdiffers
        cases hdiffers
    apply failIf_bind_eq_ok.mpr ⟨not_not.mpr hnetwork, ?_⟩
    apply failIf_bind_eq_ok.mpr ⟨not_not.mpr hpayTo, ?_⟩
    apply failIf_bind_eq_ok.mpr ⟨by simpa using hallowed, ?_⟩
    -- An amount in XRP is read once more for the minimum.
    apply bind_eq_ok.mpr ⟨false, belowMinimum_ok hminimum hwell, ?_⟩
    apply failIf_bind_eq_ok.mpr ⟨by simp, ?_⟩
    rfl

/-! ### The asset that is served -/

/-- The text of the issuer, before it was trimmed. -/
theorem rawIssuer_of_shape {extra : ExactXRPLExtra}
    (hshape : validateRequirementsShape env requirements = .ok extra) {issuer : String}
    (hissuer : extra.issuer = some issuer) :
    ∃ raw, Dict.get requirements.extraOr "issuer" = .str raw ∧ trim raw = issuer := by
  have hfields := (extraFields_of_ok (shapeOk_of_shape hshape).view).issuer
  rw [hissuer] at hfields
  obtain ⟨j, hj, haccept⟩ := optionalField_eq_some hfields
  cases j with
  | str raw =>
    have hget : Dict.get? requirements.extraOr "issuer" = some (.str raw) := by
      simpa [ExactXRPLExtra.lookup] using hj
    refine ⟨raw, by simp [Dict.get, hget], ?_⟩
    simpa [acceptStr] using haccept
  | _ => cases haccept

theorem get_issuer_of_native {extra : ExactXRPLExtra}
    (hshape : validateRequirementsShape env requirements = .ok extra)
    (hasset : requirements.asset = "XRP") : Dict.get requirements.extraOr "issuer" = .null := by
  have hok := shapeOk_of_shape hshape
  have hfields := (extraFields_of_ok hok.view).issuer
  rw [hok.noIssuer hasset] at hfields
  cases hget : Dict.get? requirements.extraOr "issuer" with
  | none => simp [Dict.get, hget]
  | some j =>
    have hlookup : ExactXRPLExtra.lookup requirements.extraOr "issuer" "issuer" = some j := by
      simp [ExactXRPLExtra.lookup, hget]
    -- For XRP the shape admits no issuer but a null.
    rw [hlookup] at hfields
    cases j with
    | null => simp [Dict.get, hget]
    | str s => simp [optionalField, acceptStr] at hfields
    | _ => simp [optionalField, acceptStr] at hfields

theorem native_supported : (⟨xrpCode, none⟩ : AssetKey) ∈ F.supportedAssets := by
  have hsupported := F.supported
  unfold supportedAssetKeys at hsupported
  obtain ⟨allowed, -, hsupported⟩ := bind_eq_ok.mp hsupported
  rw [← Except.ok.inj hsupported]
  refine mem_foldl_addAsset.mpr (.inl ?_)
  split
  · exact mem_addAsset.mpr (.inl (List.mem_singleton.mpr rfl))
  · exact List.mem_singleton.mpr rfl

theorem assetAllowed_native {extra : ExactXRPLExtra}
    (hshape : validateRequirementsShape env requirements = .ok extra)
    (hasset : requirements.asset = "XRP") : assetAllowed F requirements = true := by
  unfold assetAllowed
  rw [List.any_eq_true]
  refine ⟨⟨xrpCode, none⟩, native_supported, ?_⟩
  rw [get_issuer_of_native hshape hasset]
  simp [hasset, xrpCode, optStr]

/-- The issued asset is allowed when its issuer is written as it is configured
    and its name is read in one way. -/
theorem assetAllowed_issued_iff {extra : ExactXRPLExtra} {issuer : String}
    (hshape : validateRequirementsShape env requirements = .ok extra)
    (hserves : ServesOffer F requirements extra) (hasset : requirements.asset ≠ "XRP")
    (hissuer : extra.issuer = some issuer) :
    assetAllowed F requirements = true ↔ Dict.get requirements.extraOr "issuer" = .str issuer ∧
      normalizeCurrencyCode env requirements.asset =
        .ok (friendlyCurrency env requirements.asset) := by
  obtain ⟨⟨own, hown, hownIssuer⟩, hothers⟩ := hserves.configured issuer hasset hissuer
  obtain ⟨raw, hraw, htrim⟩ := rawIssuer_of_shape hshape hissuer
  unfold assetAllowed
  simp only [List.any_eq_true, Bool.and_eq_true, decide_eq_true_eq, if_neg hasset, hraw,
    Json.str.injEq]
  constructor
  -- The entry has the issuer as it was written, so the request wrote it without blanks.
  · rintro ⟨asset, hmem, hcode, hsame⟩
    have hkey : asset.issuer = some raw := by
      cases hi : asset.issuer with
      | none =>
        rw [hi] at hsame
        cases hsame
      | some other =>
        rw [hi] at hsame
        exact congrArg some (Json.str.inj hsame)
    obtain ⟨entry, hentry, hnamed, hnormalized⟩ := names_of_supported F hmem hkey
    have hentryIssuer : entry.issuer = raw := Option.some.inj (hnamed.symm.trans hkey)
    have hplain : raw = issuer := by
      rw [← htrim, ← hentryIssuer, trim_of_strip (strip_issuer_of_configured hentry)]
    refine ⟨hplain, ?_⟩
    rw [← hothers entry hentry (hentryIssuer.trans hplain), hnormalized, hcode]
  -- Conversely the entry of that issuer is found under the common name.
  · rintro ⟨hplain, hname⟩
    obtain ⟨asset, hmem, hnamed, hnormalized⟩ := supported_of_configured hown
    refine ⟨asset, hmem, ?_, ?_⟩
    · exact Except.ok.inj ((hnormalized.symm.trans (hothers own hown hownIssuer)).trans hname)
    · rw [hnamed, hplain, hownIssuer]
      rfl

/-! ## Section 4: The structure -/

theorem get_of_notMem {d : Dict} {k : String} (h : k ∉ Dict.keys d) : Dict.get d k = .null := by
  have hnone : Dict.get? d k = none := by
    apply List.lookup_eq_none_iff.mpr
    intro kv hkv
    simp only [bne_iff_ne, ne_eq]
    rintro rfl
    exact h (List.mem_map_of_mem hkv)
  rw [Dict.get, hnone]
  rfl

section Structure

variable {codec : CodecForms} {p : Payment} {tx : Dict}

theorem Renders.absent (h : Renders env codec p tx) {field : String} (hfield : field ∉ signedFields) :
    Dict.get tx field = .null :=
  get_of_notMem fun hmem => hfield (h.known field hmem)

theorem Renders.amountField (h : Renders env codec p tx) (payer : String) :
    Facilitator.amountField tx payer = .ok "Amount" := by
  have habsent : Dict.get tx "DeliverMax" = .null := h.absent (by decide)
  have hpresent : Dict.get tx "Amount" ≠ .null := by
    intro hnull
    have hamount := h.amount
    rw [hnull] at hamount
    generalize p.amount = amount at hamount
    cases hamount
  unfold Facilitator.amountField amountFields
  simp [habsent, hpresent]

theorem Renders.notPartial (h : Renders env codec p tx) : asksPartialPayment tx = false := by
  unfold asksPartialPayment
  rcases h.flags with hflags | hflags
  · rw [hflags]
    rfl
  · rw [hflags]
    rfl

theorem Renders.noUnexpected (h : Renders env codec p tx) : unexpectedFields tx = [] := by
  unfold unexpectedFields
  apply List.filter_eq_nil_iff.mpr
  intro field hfield
  have hmem := h.known field (List.mem_dedup.mp hfield)
  have hallowed : ∀ f ∈ signedFields, f ∈ allowedPaymentFields := by decide
  simpa using hallowed field hmem

theorem Renders.noForbidden (h : Renders env codec p tx) (payer : String) :
    checkForbiddenFields tx payer forbiddenFields = .ok () := by
  have hmemos : Dict.get tx "Memos" = .null := h.absent (by decide)
  have hdelegate : Dict.get tx "Delegate" = .null := h.absent (by decide)
  have hpaths : Dict.get tx "Paths" = .null := h.absent (by decide)
  have hdeliverMin : Dict.get tx "DeliverMin" = .null := h.absent (by decide)
  simp only [forbiddenFields, checkForbiddenFields, hmemos, hdelegate, hpaths, hdeliverMin]
  rfl

/-- What is left of the structure checks for a payment that was signed. -/
theorem verifyStructure_rendered (h : Renders env codec p tx) (payer : String)
    {invoice : Option String} {networkId drops : Int} {digits : String}
    (hdestination : Dict.get tx "Destination" = .str requirements.payTo)
    (hamount : verifyAmount env tx (Dict.get tx "Amount") requirements payer = .ok ())
    (htag : (Dict.get tx "DestinationTag").pyEq (Dict.get requirements.extraOr "destinationTag") =
      true)
    (hinvoice : expectedInvoice env requirements = .ok invoice)
    (hnormalized : normalizedInvoice env tx = invoice)
    (hnetwork : parseXrplNetworkId env requirements.network = .ok networkId)
    (hstandard : networkId ≤ 1024 → Dict.get tx "NetworkID" = .null)
    (hcustom : 1024 < networkId → Dict.get tx "NetworkID" = .int networkId)
    (hfee : Dict.get tx "Fee" = .str digits) (hdigits : env.unicode.isDigitStr digits = true)
    (hdrops : intOfStr env.unicode digits = .ok drops) (hmax : drops ≤ F.settings.maxFeeDrops) :
    verifyStructure F tx requirements payer = .ok () := by
  unfold verifyStructure
  -- The checks in their order: fields, destination, flags, amounts, tag, invoice, network, fee.
  apply failIf_bind_eq_ok.mpr ⟨not_not.mpr h.noUnexpected, ?_⟩
  apply failIf_bind_eq_ok.mpr ⟨not_not.mpr hdestination, ?_⟩
  apply bind_eq_ok.mpr ⟨(), h.noForbidden payer, ?_⟩
  apply failIf_bind_eq_ok.mpr ⟨by rw [h.notPartial]; decide, ?_⟩
  apply bind_eq_ok.mpr ⟨"Amount", h.amountField payer, ?_⟩
  apply bind_eq_ok.mpr ⟨(), hamount, ?_⟩
  apply failIf_bind_eq_ok.mpr ⟨by rw [htag]; decide, ?_⟩
  apply bind_eq_ok.mpr ⟨invoice, uncaught_eq_ok.mpr hinvoice, ?_⟩
  apply failIf_bind_eq_ok.mpr ⟨not_not.mpr hnormalized, ?_⟩
  apply bind_eq_ok.mpr ⟨networkId, uncaught_eq_ok.mpr hnetwork, ?_⟩
  apply failIf_bind_eq_ok.mpr ⟨fun hbad => hbad.2 (hstandard hbad.1), ?_⟩
  -- Above 1024 the network is written into the transaction.
  apply failIf_bind_eq_ok.mpr ⟨?_, ?_⟩
  · rintro ⟨hlt, hdiffers⟩
    rw [hcustom hlt, Json.pyEq_iff.mpr rfl] at hdiffers
    cases hdiffers
  unfold verifyFee
  apply bind_eq_ok.mpr ⟨digits, ?_, ?_⟩
  · unfold requireDigits
    rw [hfee]
    exact if_pos hdigits
  apply bind_eq_ok.mpr ⟨drops, uncaught_eq_ok.mpr hdrops, ?_⟩
  exact failIf_eq_ok.mpr (not_lt.mpr hmax)

end Structure

/-! ### The invoice -/

theorem str_text (s : String) : str env.unicode (.str s) = s := rfl

/-- The digest of an invoice is written in capitals. -/
theorem upperStr_invoice {invoiceId field : String}
    (h : invoiceIdToInvoiceIdField env invoiceId = .ok field) : env.unicode.upperStr field = field := by
  unfold invoiceIdToInvoiceIdField at h
  split at h
  · cases h
  · rw [← Except.ok.inj h]
    obtain ⟨-, hupper⟩ := upperHex_hexdigest env (env.sha256 (encodeUtf8 invoiceId))
    exact env.unicode.upperStr_of_upper fun c hc =>
      ⟨(upperHexDigit_plain (hupper c hc)).2.2.1, (upperHexDigit_plain (hupper c hc)).2.2.2.1⟩

theorem invoiceIdToInvoiceIdField_inj (hinj : Function.Injective env.sha256) {a b field : String}
    (ha : invoiceIdToInvoiceIdField env a = .ok field)
    (hb : invoiceIdToInvoiceIdField env b = .ok field) : a = b := by
  have hdigest : ∀ {s : String}, invoiceIdToInvoiceIdField env s = .ok field →
      env.unicode.upperStr (env.sha256Hex s) = field := by
    intro s hs
    unfold invoiceIdToInvoiceIdField at hs
    split at hs
    · cases hs
    · exact Except.ok.inj hs
  -- The capitals are only another spelling of the digits, so the digests agree.
  have hcaps := congrArg String.toList ((hdigest ha).trans (hdigest hb).symm)
  unfold Env.sha256Hex at hcaps
  rw [(upperHex_hexdigest env _).1, (upperHex_hexdigest env _).1] at hcaps
  have hread := congrArg fromHexChars (congrArg (· ++ []) hcaps)
  rw [fromHexChars_upper, fromHexChars_upper] at hread
  simp only [fromHexChars, Option.map_some, List.append_nil, Option.some.injEq] at hread
  exact encodeUtf8_injective (hinj hread)

theorem normalizedInvoice_rendered {tx : Dict} {extra : ExactXRPLExtra} {invoice : Option String}
    (hinvoice : invoiceField env extra = .ok invoice) (htx : Dict.get tx "InvoiceID" = optStr invoice) :
    normalizedInvoice env tx = invoice := by
  unfold normalizedInvoice
  unfold invoiceField at hinvoice
  rw [htx]
  cases hid : extra.invoiceId with
  | none =>
    rw [hid] at hinvoice
    obtain rfl := Except.ok.inj hinvoice
    rfl
  | some invoiceId =>
    rw [hid] at hinvoice
    cases hfield : invoiceIdToInvoiceIdField env invoiceId with
    | error e =>
      dsimp only at hinvoice
      rw [hfield] at hinvoice
      cases hinvoice
    | ok field =>
      dsimp only at hinvoice
      rw [hfield] at hinvoice
      obtain rfl := Except.ok.inj hinvoice
      exact congrArg some (upperStr_invoice hfield)

/-- The invoice is the expected one when `extra` has it as it was read. -/
theorem expectedInvoice_iff (hinj : Function.Injective env.sha256) {extra : ExactXRPLExtra}
    {invoice : Option String} (hview : exactXrplExtra env requirements = .ok extra)
    (hinvoice : invoiceField env extra = .ok invoice) :
    expectedInvoice env requirements = .ok invoice ↔
      Dict.get requirements.extraOr "invoiceId" = optStr extra.invoiceId := by
  have hread := (extraFields_of_ok hview).invoice
  unfold invoiceField at hinvoice
  unfold expectedInvoice
  -- Without an invoice nothing may be there; with one the digests must agree.
  cases hid : extra.invoiceId with
  | none =>
    rw [hid] at hinvoice
    obtain rfl := Except.ok.inj hinvoice
    constructor
    · intro h
      split at h
      · next hnull => exact hnull
      · obtain ⟨field, -, hfield⟩ := bind_eq_ok.mp h
        cases hfield
    · intro h
      rw [show Dict.get requirements.extraOr "invoiceId" = .null from h]
  | some invoiceId =>
    rw [hid] at hinvoice hread
    dsimp only at hinvoice
    -- The invoice has a digest, or the signer would have failed.
    cases hfield : invoiceIdToInvoiceIdField env invoiceId with
    | error e =>
      rw [hfield] at hinvoice
      cases hinvoice
    | ok field =>
      rw [hfield] at hinvoice
      obtain rfl := Except.ok.inj hinvoice
      constructor
      · intro h
        cases hget : Dict.get? requirements.extraOr "invoiceId" with
        | none =>
          rw [Dict.get, hget] at h
          cases h
        | some j =>
          have hlookup : ExactXRPLExtra.lookup requirements.extraOr "invoiceId" "invoice_id" =
              some j := by
            simp [ExactXRPLExtra.lookup, hget]
          rw [hlookup] at hread
          obtain ⟨j', hj', haccept⟩ := optionalField_eq_some hread
          obtain rfl := Option.some.inj hj'
          have hraw : Dict.get requirements.extraOr "invoiceId" = j := by
            rw [Dict.get, hget]
            rfl
          rw [hraw] at h ⊢
          -- Only a string passes for an invoice, and it has the digest of the one that was signed.
          cases j with
          | str raw =>
            obtain ⟨field', hfield', h⟩ := bind_eq_ok.mp h
            obtain rfl : field' = field := Option.some.inj (Except.ok.inj h)
            exact congrArg Json.str (invoiceIdToInvoiceIdField_inj hinj hfield' hfield)
          | _ => cases haccept
      · intro h
        rw [show Dict.get requirements.extraOr "invoiceId" = .str invoiceId from h]
        exact bind_eq_ok.mpr ⟨field, hfield, rfl⟩

/-! ### The amount -/

theorem isDigitStr_of_isIntegerAmount {amount : String} (h : isIntegerAmount amount = true) :
    env.unicode.isDigitStr amount = true := by
  -- A number without a sign consists of ASCII digits, and at least one.
  have hdigits : ∀ cs, isPlainNat cs = true → cs ≠ [] ∧ ∀ c ∈ cs, isAsciiDigit c = true := by
    intro cs hcs
    refine ⟨?_, ?_⟩
    · rintro rfl
      cases hcs
    · unfold isPlainNat at hcs
      split at hcs
      · cases hcs
      · simp [isAsciiDigit]
      · simp only [Bool.and_eq_true, List.all_eq_true] at hcs
        intro c hc
        rcases List.mem_cons.mp hc with rfl | hc
        · exact hcs.1.2
        · exact hcs.2 c hc
  obtain ⟨hne, hall⟩ := hdigits amount.toList h
  unfold UnicodeData.isDigitStr
  have hnonempty : amount ≠ "" := by
    rintro rfl
    exact hne rfl
  simp only [hnonempty, ne_eq, not_false_eq_true, decide_true, Bool.true_and, List.all_eq_true]
  intro c hc
  have hsmall : c.toNat < 128 := by
    have hrange := isAsciiDigit_range (hall c hc)
    omega
  rw [env.unicode.digit_ascii c hsmall]
  exact hall c hc

theorem compareDecimalStrings_same {a b : String} (h : SameValue env a b) :
    compareDecimalStrings env a b = .ok 0 := by
  obtain ⟨d, e, q, hd, he, hdq, heq⟩ := h
  unfold compareDecimalStrings decimalOrInvalid
  rw [hd, he]
  have hcmp : d.cmp e = some .eq := (Decimal.cmp_eq_iff heq).mpr hdq
  simp only [bind, Except.bind, hcmp]
  rfl

/-- The issued amount of the requirements. -/
def issuedAmount (requirements : PaymentRequirements) (issuer : String) : IssuedCurrencyAmount :=
  ⟨requirements.asset, issuer, requirements.amount⟩

/-- What `amounts` returns for requirements of the right shape. -/
theorem amounts_eq_ok {S : XRPLPaymentSigner} {extra : ExactXRPLExtra} {amount : PaymentAmount}
    {sendMax : Option IssuedCurrencyAmount}
    (hshape : validateRequirementsShape env requirements = .ok extra)
    (h : amounts env S requirements extra = .ok (amount, sendMax)) :
    (requirements.asset = "XRP" ∧ amount = .drops requirements.amount ∧ sendMax = none) ∨
      ∃ issuer, requirements.asset ≠ "XRP" ∧ extra.issuer = some issuer ∧
        amount = .issued (issuedAmount requirements issuer) ∧
        sendMax = some (issuedAmount requirements issuer) := by
  have hok := shapeOk_of_shape hshape
  unfold amounts at h
  split at h
  -- An issued asset is sent as it is asked for; `SendMax` is the amount itself.
  · next hasset =>
    obtain ⟨issuer, hissuer, -⟩ := hok.issuer hasset
    obtain ⟨currency, hcurrency, h⟩ := bind_eq_ok.mp h
    obtain ⟨_, _, h⟩ := bind_eq_ok.mp h
    obtain rfl := Except.ok.inj (hcurrency.symm.trans hok.wire)
    obtain ⟨rfl, rfl⟩ := Prod.mk.inj (Except.ok.inj h)
    rw [hissuer]
    exact .inr ⟨issuer, hasset, rfl, rfl, rfl⟩
  · next hasset =>
    obtain ⟨rfl, rfl⟩ := Prod.mk.inj (Except.ok.inj h)
    exact .inl ⟨not_not.mp hasset, rfl, rfl⟩

theorem verifyAmount_native {tx : Dict} {payer : String} (hwell : WellShaped env requirements)
    (hasset : requirements.asset = "XRP") (hamount : Dict.get tx "Amount" = .str requirements.amount)
    (hsendMax : Dict.get tx "SendMax" = .null) :
    verifyAmount env tx (Dict.get tx "Amount") requirements payer = .ok () := by
  obtain ⟨hinteger, drops, hdrops, -⟩ := hwell.native hasset
  unfold verifyAmount
  rw [if_pos hasset]
  unfold verifyXrpAmount
  apply bind_eq_ok.mpr ⟨requirements.amount, ?_, ?_⟩
  · rw [hamount]
    exact if_pos (isDigitStr_of_isIntegerAmount hinteger)
  apply bind_eq_ok.mpr ⟨drops, uncaught_eq_ok.mpr hdrops, ?_⟩
  apply bind_eq_ok.mpr ⟨drops, uncaught_eq_ok.mpr hdrops, ?_⟩
  apply failIf_bind_eq_ok.mpr ⟨not_not.mpr rfl, ?_⟩
  exact failIf_eq_ok.mpr (not_not.mpr hsendMax)

theorem compareValue_rendered {codec : CodecForms} {amount : IssuedCurrencyAmount} {d : Dict}
    (h : RendersIssued env codec amount d) (hvalue : amount.value = requirements.amount) :
    compareValue env d requirements = .ok 0 := by
  obtain ⟨text, htext, hsame⟩ := h.value
  unfold compareValue
  rw [uncaught_eq_ok, htext, str_text]
  rw [hvalue] at hsame
  exact compareDecimalStrings_same hsame

theorem verifyAmount_issued {codec : CodecForms} {tx : Dict} {payer issuer : String} {amount limit : Dict}
    {extra : ExactXRPLExtra} (hshape : validateRequirementsShape env requirements = .ok extra)
    (hasset : requirements.asset ≠ "XRP")
    (hissuer : Dict.get requirements.extraOr "issuer" = .str issuer)
    (haddress : codec.address issuer = issuer)
    (hcurrency : codec.currency requirements.asset = requirements.asset)
    (hamount : Dict.get tx "Amount" = .obj amount)
    (hpaid : RendersIssued env codec (issuedAmount requirements issuer) amount)
    (hsendMax : Dict.get tx "SendMax" = .obj limit)
    (hlimit : RendersIssued env codec (issuedAmount requirements issuer) limit) :
    verifyAmount env tx (Dict.get tx "Amount") requirements payer = .ok () := by
  -- The codec gives both amounts back with the currency and the issuer of the request.
  have hcode : ∀ {d : Dict}, RendersIssued env codec (issuedAmount requirements issuer) d →
      Dict.get d "currency" = .str requirements.asset ∧ Dict.get d "issuer" = .str issuer := by
    intro d hd
    refine ⟨?_, ?_⟩
    · rw [hd.currency]
      exact congrArg Json.str hcurrency
    · rw [hd.issuer]
      exact congrArg Json.str haddress
  obtain ⟨hpaidCurrency, hpaidIssuer⟩ := hcode hpaid
  obtain ⟨hlimitCurrency, hlimitIssuer⟩ := hcode hlimit
  unfold verifyAmount
  rw [if_neg hasset, hamount, hsendMax]
  unfold verifyIouAmount
  apply bind_eq_ok.mpr ⟨amount, rfl, ?_⟩
  apply bind_eq_ok.mpr ⟨requirements.asset, uncaught_eq_ok.mpr (shapeOk_of_shape hshape).wire, ?_⟩
  apply failIf_bind_eq_ok.mpr ⟨not_not.mpr hpaidCurrency, ?_⟩
  apply failIf_bind_eq_ok.mpr ⟨by simp [hissuer, hpaidIssuer, Json.pyEq], ?_⟩
  apply bind_eq_ok.mpr ⟨0, compareValue_rendered hpaid rfl, ?_⟩
  apply failIf_bind_eq_ok.mpr ⟨not_not.mpr rfl, ?_⟩
  apply bind_eq_ok.mpr ⟨limit, rfl, ?_⟩
  apply failIf_bind_eq_ok.mpr ⟨by simp [hissuer, hlimitIssuer, hlimitCurrency, Json.pyEq], ?_⟩
  apply bind_eq_ok.mpr ⟨0, compareValue_rendered hlimit rfl, ?_⟩
  exact failIf_eq_ok.mpr (by decide)

end XrplX402
