import XrplX402.Core.Shape
import XrplX402.Facilitator.Soundness
import XrplX402.Py.Decimal

/-! # Checks that refuse

    `verify` turns `PaymentVerificationError` into a response and passes every
    other exception on. The checks that need no ledger raise nothing else, with
    the exceptions that `Raises` lists.

    * `Refuses`: a check that fails with a refusal, if it fails.
    * `Raises`: the inputs on which something else is raised, now or once the
      node has answered. -/

namespace XrplX402.Facilitator

open Py Interaction Prog

variable {env : Env}

/-! ## Section 1: The codec and the keys -/

/-- What the codec and the key functions are relied on for. -/
structure CodecFacts (env : Env) : Prop where
  /-- Drops are decoded to numerals. -/
  drops : ∀ blob tx, env.decode blob = .ok tx → ∀ field s, Dict.get tx field = .str s →
    field ∈ ["Amount", "DeliverMax", "Fee"] → ∃ n, intOfStr env.unicode s = .ok n
  /-- Issued amounts are decoded with a decimal value in the range of the ledger. -/
  issued : ∀ blob tx, env.decode blob = .ok tx → ∀ field d, Dict.get tx field = .obj d →
    field ∈ ["Amount", "DeliverMax", "SendMax"] →
    ∃ text value q, Dict.get? d "value" = some (.str text) ∧
      decimalOfStr env.unicode text = some value ∧ value.Denotes q ∧ |q| < 10 ^ (97 : Int)
  /-- A canonical public key has an address. -/
  address : ∀ key, isCanonicalSigningPubKey key = true →
    ∃ address, env.deriveClassicAddress key = .ok address

/-! ## Section 2: Checks that refuse -/

/-- An exception that `verify` turns into a response. -/
def IsRefusal (e : FacilitatorExc) : Prop :=
  ∃ reason message payer, e = .verification reason message payer

/-- If the check fails, it fails with a refusal. -/
def Refuses {α : Type} (x : Check α) : Prop := ∀ e, x = .error e → IsRefusal e

section Refuses

variable {α β : Type}

theorem refuses_ok (a : α) : Refuses (.ok a : Check α) := by
  intro e h
  cases h

theorem refuses_error (reason : String) (message payer : Option String) :
    Refuses (.error (.verification reason message payer) : Check α) := by
  intro e h
  exact ⟨reason, message, payer, (Except.error.inj h).symm⟩

theorem refuses_failIf {bad : Prop} [Decidable bad] (reason : String)
    (message payer : Option String) : Refuses (failIf bad (.verification reason message payer)) := by
  unfold failIf
  split
  · exact refuses_error reason message payer
  · exact refuses_ok ()

theorem Refuses.bind {x : Check α} {f : α → Check β} (hx : Refuses x)
    (hf : ∀ a, x = .ok a → Refuses (f a)) : Refuses (x >>= f) := by
  cases x with
  | ok a => exact hf a rfl
  | error e' =>
    intro e h
    exact hx e (congrArg Except.error (Except.error.inj h))

/-- A passed check in front of others. -/
theorem Refuses.after_failIf {bad : Prop} [Decidable bad] {reason : String}
    {message payer : Option String} {f : Unit → Check β} (hf : ¬ bad → Refuses (f ())) :
    Refuses (failIf bad (.verification reason message payer) >>= f) := by
  apply (refuses_failIf reason message payer).bind
  intro u hu
  exact hf (failIf_eq_ok.mp hu)

theorem refuses_uncaught {x : Except Exc α} (h : ∃ a, x = .ok a) : Refuses (uncaught x) := by
  obtain ⟨a, rfl⟩ := h
  exact refuses_ok a

theorem refuses_shapeOrRefuse (reason : String) (r : PaymentRequirements) :
    Refuses (shapeOrRefuse env reason r) := by
  unfold shapeOrRefuse
  split
  · exact refuses_ok _
  · next e he =>
    rw [if_pos (onlyValueErrors_shape r e he)]
    exact refuses_error _ _ _

/-- The envelope check refuses what it does not accept. -/
theorem refuses_verifyEnvelope (F : ExactXRPLFacilitatorScheme env) (payload : PaymentPayload)
    (requirements : PaymentRequirements) : Refuses (verifyEnvelope F payload requirements) := by
  unfold verifyEnvelope
  apply (refuses_shapeOrRefuse _ _).bind
  intro _ hshape
  have hwell := shapeOrRefuse_eq_ok hshape
  apply Refuses.after_failIf
  intro _
  apply (refuses_shapeOrRefuse _ _).bind
  intro _ _
  apply Refuses.after_failIf
  intro _
  apply Refuses.after_failIf
  intro _
  apply Refuses.after_failIf
  intro _
  apply Refuses.after_failIf
  intro _
  apply Refuses.after_failIf
  intro _
  apply Refuses.after_failIf
  intro _
  apply Refuses.after_failIf
  intro _
  apply Refuses.after_failIf
  intro _
  apply Refuses.bind
  · apply refuses_uncaught
    unfold belowMinimum
    by_cases hasset : requirements.asset = "XRP"
    · obtain ⟨-, drops, hdrops, -⟩ := hwell.native hasset
      exact ⟨decide (drops < F.settings.minXrpDrops), by rw [if_pos hasset, hdrops]; rfl⟩
    · exact ⟨false, if_neg hasset⟩
  intro _ _
  apply Refuses.after_failIf
  intro _
  exact refuses_ok _

theorem refuses_decodeOrRefuse (blob : String) : Refuses (decodeOrRefuse env blob) := by
  unfold decodeOrRefuse
  split
  · exact refuses_ok _
  · exact refuses_error _ _ _

theorem refuses_requireStr (tx : Dict) (field : String) (ok : String → Bool)
    (reason payer : String) : Refuses (requireStr tx field ok reason payer) := by
  unfold requireStr
  split
  · split
    · exact refuses_ok _
    · exact refuses_error _ _ _
  · exact refuses_error _ _ _

theorem refuses_verifySignature (tx : Dict) (payer : String) :
    Refuses (verifySignature env tx payer) := by
  unfold verifySignature
  apply Refuses.after_failIf
  intro _
  apply Refuses.after_failIf
  intro _
  apply Refuses.after_failIf
  intro _
  apply (refuses_requireStr _ _ _ _ _).bind
  intro _ _
  apply (refuses_requireStr _ _ _ _ _).bind
  intro _ _
  apply Refuses.bind
  · unfold signatureOrRefuse
    split
    · exact refuses_ok _
    · exact refuses_error _ _ _
  intro _ _
  exact refuses_failIf _ _ _

theorem refuses_requireDigits (j : Json) (reason payer : String) :
    Refuses (requireDigits env j reason payer) := by
  unfold requireDigits
  split
  · split
    · exact refuses_ok _
    · exact refuses_error _ _ _
  · exact refuses_error _ _ _

theorem refuses_requireDict (j : Json) (reason payer : String) :
    Refuses (requireDict j reason payer) := by
  unfold requireDict
  split
  · exact refuses_ok _
  · exact refuses_error _ _ _

theorem refuses_amountField (tx : Dict) (payer : String) : Refuses (amountField tx payer) := by
  unfold amountField
  split
  · exact refuses_ok _
  · exact refuses_error _ _ _

theorem refuses_checkForbiddenFields (tx : Dict) (payer : String) (fields : List (String × String)) :
    Refuses (checkForbiddenFields tx payer fields) := by
  induction fields with
  | nil => exact refuses_ok ()
  | cons entry rest ih =>
    obtain ⟨field, reason⟩ := entry
    exact Refuses.after_failIf fun _ => ih

end Refuses

/-! ## Section 3: The structure -/

section Structure

variable {F : ExactXRPLFacilitatorScheme env} {blob : String} {tx : Dict} {r : PaymentRequirements}
  {extra : ExactXRPLExtra} {payer : String}

theorem refuses_verifyXrpAmount (hcodec : CodecFacts env) (hdecode : env.decode blob = .ok tx)
    {field : String} (hfield : field ∈ ["Amount", "DeliverMax", "Fee"]) (hshape : WellShaped env r)
    (hasset : r.asset = "XRP") : Refuses (verifyXrpAmount env tx (Dict.get tx field) r payer) := by
  unfold verifyXrpAmount
  apply (refuses_requireDigits _ _ _).bind
  intro digits hdigits
  apply Refuses.bind
  · exact refuses_uncaught (hcodec.drops blob tx hdecode field digits (requireDigits_eq_ok hdigits)
      hfield)
  intro _ _
  apply Refuses.bind
  · obtain ⟨-, drops, hdrops, -⟩ := hshape.native hasset
    exact refuses_uncaught ⟨drops, hdrops⟩
  intro _ _
  apply Refuses.after_failIf
  intro _
  exact refuses_failIf _ _ _

/-- A number, compared with a plain amount. -/
theorem compareDecimalStrings_ok {text amount : String} {value : Decimal} {q : ℚ}
    (hvalue : decimalOfStr env.unicode text = some value) (hq : value.Denotes q)
    (hamount : isDecimalAmount amount = true) :
    ∃ n, compareDecimalStrings env text amount = .ok n := by
  obtain ⟨p, required, hrequired, hp⟩ := decimalOfStr_of_isDecimalAmount env.unicode hamount
  obtain ⟨order, horder⟩ := Decimal.cmp_denotes hq hp
  refine ⟨orderInt order, ?_⟩
  unfold compareDecimalStrings decimalOrInvalid
  rw [hvalue, hrequired]
  apply bind_eq_ok.mpr
  refine ⟨value, rfl, bind_eq_ok.mpr ⟨required, rfl, ?_⟩⟩
  rw [horder]
  cases order <;> rfl

/-- An issued amount of a decoded transaction, compared with a plain one. -/
theorem compareValue_ok (hcodec : CodecFacts env) (hdecode : env.decode blob = .ok tx)
    {field : String} (hfield : field ∈ ["Amount", "DeliverMax", "SendMax"]) {d : Dict}
    (hd : Dict.get tx field = .obj d) (hamount : isDecimalAmount r.amount = true) :
    Refuses (compareValue env d r) := by
  obtain ⟨text, value, q, htext, hvalue, hq, -⟩ := hcodec.issued blob tx hdecode field d hd hfield
  apply refuses_uncaught
  have hget : str env.unicode (Dict.get d "value") = text := by
    unfold Dict.get
    rw [htext]
    rfl
  rw [hget]
  exact compareDecimalStrings_ok hvalue hq hamount

theorem refuses_verifyIouAmount (hcodec : CodecFacts env) (hdecode : env.decode blob = .ok tx)
    {field : String} (hfield : field ∈ ["Amount", "DeliverMax", "SendMax"])
    (hshape : WellShaped env r) (hwire : xrplCurrencyCode env r.asset = .ok r.asset)
    (hasset : r.asset ≠ "XRP") :
    Refuses (verifyIouAmount env (Dict.get tx field) (Dict.get tx "SendMax") r payer) := by
  have hdecimal := hshape.decimal hasset
  unfold verifyIouAmount
  apply (refuses_requireDict _ _ _).bind
  intro amount hamount
  apply (refuses_uncaught ⟨r.asset, hwire⟩).bind
  intro _ _
  apply Refuses.after_failIf
  intro _
  apply Refuses.after_failIf
  intro _
  apply (compareValue_ok hcodec hdecode hfield (requireDict_eq_ok hamount) hdecimal).bind
  intro _ _
  apply Refuses.after_failIf
  intro _
  apply (refuses_requireDict _ _ _).bind
  intro sendMax hsendMax
  apply Refuses.after_failIf
  intro _
  apply (compareValue_ok hcodec hdecode (by decide) (requireDict_eq_ok hsendMax) hdecimal).bind
  intro _ _
  exact refuses_failIf _ _ _

/-- The checks of `_verify_structure` in front of the invoice. -/
def structureBeforeInvoice (env : Env) (tx : Dict) (requirements : PaymentRequirements)
    (payer : String) : Check Unit := do
  failIf (unexpectedFields tx ≠ [])
    (.verification "invalid_exact_xrpl_payload_unexpected_fields"
      (some (", ".intercalate ((unexpectedFields tx).insertionSort (· ≤ ·)))) (some payer))
  failIf (Dict.get tx "Destination" ≠ .str requirements.payTo)
    (refusal "invalid_exact_xrpl_payload_destination_mismatch" payer)
  checkForbiddenFields tx payer forbiddenFields
  failIf (asksPartialPayment tx = true)
    (refusal "invalid_exact_xrpl_payload_partial_payment_not_allowed" payer)
  let field ← amountField tx payer
  verifyAmount env tx (Dict.get tx field) requirements payer
  failIf ((Dict.get tx "DestinationTag").pyEq (Dict.get requirements.extraOr "destinationTag") =
      false)
    (refusal "invalid_exact_xrpl_payload_destination_tag_mismatch" payer)

/-- The other checks: the invoice, the network and the fee. -/
def structureFromInvoice (F : ExactXRPLFacilitatorScheme env) (tx : Dict)
    (requirements : PaymentRequirements) (payer : String) : Check Unit := do
  let invoice ← uncaught (expectedInvoice env requirements)
  failIf (normalizedInvoice env tx ≠ invoice)
    (refusal "invalid_exact_xrpl_payload_invoice_id_mismatch" payer)
  let networkId ← uncaught (parseXrplNetworkId env requirements.network)
  failIf (networkId ≤ 1024 ∧ Dict.get tx "NetworkID" ≠ .null)
    (refusal "invalid_exact_xrpl_payload_network_id_for_standard_network" payer)
  failIf (1024 < networkId ∧ (Dict.get tx "NetworkID").pyEq (.int networkId) = false)
    (refusal "invalid_exact_xrpl_payload_network_id_mismatch" payer)
  verifyFee env F.settings tx payer

theorem verifyStructure_eq (tx : Dict) (r : PaymentRequirements) (payer : String) :
    verifyStructure F tx r payer =
      (structureBeforeInvoice env tx r payer >>= fun _ => structureFromInvoice F tx r payer) := by
  simp only [verifyStructure, structureBeforeInvoice, structureFromInvoice, LawfulMonad.bind_assoc]

theorem refuses_structureBeforeInvoice (hcodec : CodecFacts env)
    (hdecode : env.decode blob = .ok tx) (hshape : WellShaped env r)
    (hwire : xrplCurrencyCode env r.asset = .ok r.asset) :
    Refuses (structureBeforeInvoice env tx r payer) := by
  unfold structureBeforeInvoice
  apply Refuses.after_failIf
  intro _
  apply Refuses.after_failIf
  intro _
  apply (refuses_checkForbiddenFields _ _ _).bind
  intro _ _
  apply Refuses.after_failIf
  intro _
  apply (refuses_amountField _ _).bind
  intro field hfield
  have hpays : field = "Amount" ∨ field = "DeliverMax" := by
    obtain ⟨other, hpair, -⟩ := amountField_eq_ok hfield
    simp only [List.mem_cons, Prod.mk.injEq, List.not_mem_nil, or_false] at hpair
    exact hpair.imp And.left And.left
  apply Refuses.bind
  · unfold verifyAmount
    split
    · next hasset =>
      exact refuses_verifyXrpAmount hcodec hdecode (by rcases hpays with rfl | rfl <;> decide) hshape
        hasset
    · next hasset =>
      exact refuses_verifyIouAmount hcodec hdecode (by rcases hpays with rfl | rfl <;> decide) hshape
        hwire hasset
  intro _ _
  exact refuses_failIf _ _ _

/-- An invoice that the shape check accepts is missing, or a text. -/
theorem invoice_cases (hfields : ExtraFields env r.extraOr extra) :
    Dict.get r.extraOr "invoiceId" = .null ∨ ∃ s, Dict.get r.extraOr "invoiceId" = .str s := by
  have hinvoice := hfields.invoice
  unfold ExactXRPLExtra.lookup at hinvoice
  unfold Dict.get
  cases hget : Dict.get? r.extraOr "invoiceId" with
  | none => exact .inl rfl
  | some j =>
    rw [hget] at hinvoice
    cases j with
    | null => exact .inl rfl
    | str s => exact .inr ⟨s, rfl⟩
    | bool b => cases hinvoice
    | int n => cases hinvoice
    | float x => cases hinvoice
    | arr js => cases hinvoice
    | obj d => cases hinvoice

/-- Only an empty invoice has no hash. -/
theorem expectedInvoice_ok (hfields : ExtraFields env r.extraOr extra)
    (hempty : Dict.get r.extraOr "invoiceId" ≠ .str "") :
    ∃ invoice, expectedInvoice env r = .ok invoice := by
  unfold expectedInvoice
  rcases invoice_cases hfields with hnull | ⟨s, hs⟩
  · exact ⟨none, by rw [hnull]⟩
  · have hne : s ≠ "" := by
      intro heq
      rw [heq] at hs
      exact hempty hs
    refine ⟨some (env.unicode.upperStr (env.sha256Hex s)), ?_⟩
    rw [hs]
    apply bind_eq_ok.mpr
    exact ⟨_, if_neg hne, rfl⟩

theorem refuses_structureFromInvoice (hcodec : CodecFacts env) (hdecode : env.decode blob = .ok tx)
    (hfields : ExtraFields env r.extraOr extra)
    (hempty : Dict.get r.extraOr "invoiceId" ≠ .str "")
    (hnetwork : expectedInvoice env r = .ok (normalizedInvoice env tx) →
      ∃ n, parseXrplNetworkId env r.network = .ok n) :
    Refuses (structureFromInvoice F tx r payer) := by
  unfold structureFromInvoice
  apply (refuses_uncaught (expectedInvoice_ok hfields hempty)).bind
  intro invoice hinvoice
  apply Refuses.after_failIf
  intro hsame
  rw [uncaught_eq_ok, ← not_not.mp hsame] at hinvoice
  apply (refuses_uncaught (hnetwork hinvoice)).bind
  intro _ _
  apply Refuses.after_failIf
  intro _
  apply Refuses.after_failIf
  intro _
  unfold verifyFee
  apply (refuses_requireDigits _ _ _).bind
  intro fee hfee
  apply Refuses.bind
  · exact refuses_uncaught (hcodec.drops blob tx hdecode "Fee" fee (requireDigits_eq_ok hfee)
      (by decide))
  intro _ _
  exact refuses_failIf _ _ _

end Structure

/-! ## Section 4: The inputs that raise -/

/-- Everything in front of the invoice has passed. -/
structure ReachesInvoice (F : ExactXRPLFacilitatorScheme env) (payload : PaymentPayload)
    (r : PaymentRequirements) (tx : Dict) : Prop where
  envelope : ∃ method, verifyEnvelope F payload r = .ok method
  decoded : ∃ exact_, exactXrplPayload env payload = .ok exact_ ∧
    env.decode exact_.signedTxBlob = .ok tx
  signature : verifySignature env tx (payerOf env tx) = .ok ()
  structure_ : structureBeforeInvoice env tx r (payerOf env tx) = .ok ()

/-- What `verify` does not answer. -/
inductive Raises (F : ExactXRPLFacilitatorScheme env) (payload : PaymentPayload)
    (r : PaymentRequirements) : Prop where
  /-- The inner payload is not one of the scheme. -/
  | innerPayload (method : String) (e : Exc) (envelope : verifyEnvelope F payload r = .ok method)
      (invalid : exactXrplPayload env payload = .error e)
  /-- An empty invoice has no hash. -/
  | emptyInvoice (tx : Dict) (reached : ReachesInvoice F payload r tx)
      (empty : Dict.get r.extraOr "invoiceId" = .str "")
  /-- The reference of the network has too many digits for `int`. -/
  | longReference (tx : Dict) (e : Exc) (reached : ReachesInvoice F payload r tx)
      (invoice : expectedInvoice env r = .ok (normalizedInvoice env tx))
      (reference : parseXrplNetworkId env r.network = .error e)
  /-- A fifth of the timeout is no float. -/
  | hugeTimeout (checked : CheckedTransaction) (last : Int)
      (passed : checkTransaction F payload r = .ok checked)
      (isLast : (Dict.get checked.tx "LastLedgerSequence").asInt? = some last) (ahead : 1 < last)
      (huge : roundBinary64 (r.maxTimeoutSeconds / xrplLedgerCloseSeconds) = none)

section Raises

variable {F : ExactXRPLFacilitatorScheme env} {payload : PaymentPayload} {r : PaymentRequirements}

theorem shape_of_verifyEnvelope {method : String} (h : verifyEnvelope F payload r = .ok method) :
    ∃ extra, validateRequirementsShape env r = .ok extra := by
  unfold verifyEnvelope at h
  obtain ⟨extra, hshape, -⟩ := bind_eq_ok.mp h
  unfold shapeOrRefuse at hshape
  split at hshape
  · next extra' hok => exact ⟨extra', hok⟩
  · split at hshape <;> cases hshape

theorem decodeOrRefuse_eq_ok {blob : String} {tx : Dict} (h : decodeOrRefuse env blob = .ok tx) :
    env.decode blob = .ok tx := by
  unfold decodeOrRefuse at h
  split at h
  · next tx' htx => rw [htx, Except.ok.inj h]
  · cases h

/-- The checks without a ledger refuse what they do not accept. -/
theorem refuses_checkTransaction (hcodec : CodecFacts env) (hraises : ¬ Raises F payload r) :
    Refuses (checkTransaction F payload r) := by
  unfold checkTransaction
  apply (refuses_verifyEnvelope F payload r).bind
  intro method hmethod
  apply Refuses.bind
  · cases hinner : exactXrplPayload env payload with
    | ok exact_ => exact refuses_ok exact_
    | error e => exact absurd (.innerPayload method e hmethod hinner) hraises
  intro exact_ hexact
  apply (refuses_decodeOrRefuse _).bind
  intro tx htx
  have hdecode := decodeOrRefuse_eq_ok htx
  apply (refuses_verifySignature _ _).bind
  intro _ hsignature
  obtain ⟨extra, hshape⟩ := shape_of_verifyEnvelope hmethod
  have hok := shapeOk_of_shape hshape
  rw [verifyStructure_eq, LawfulMonad.bind_assoc]
  apply (refuses_structureBeforeInvoice hcodec hdecode (wellShaped_of_shape hshape) hok.wire).bind
  intro _ hbefore
  have hreached : ReachesInvoice F payload r tx :=
    ⟨⟨method, hmethod⟩, ⟨exact_, uncaught_eq_ok.mp hexact, hdecode⟩, hsignature, hbefore⟩
  apply Refuses.bind
  · apply refuses_structureFromInvoice hcodec hdecode (extraFields_of_ok hok.view)
    · intro hempty
      exact hraises (.emptyInvoice tx hreached hempty)
    · intro hinvoice
      cases hreference : parseXrplNetworkId env r.network with
      | ok n => exact ⟨n, rfl⟩
      | error e => exact absurd (.longReference tx e hreached hinvoice hreference) hraises
  intro _ _
  exact refuses_ok _

theorem shape_of_checkTransaction {checked : CheckedTransaction}
    (h : checkTransaction F payload r = .ok checked) :
    ∃ extra, validateRequirementsShape env r = .ok extra := by
  unfold checkTransaction at h
  obtain ⟨method, hmethod, -⟩ := bind_eq_ok.mp h
  exact shape_of_verifyEnvelope hmethod

/-! ### What is raised -/

theorem bind_of_ok {α β : Type} {x : Check α} {a : α} {f : α → Check β} (h : x = .ok a) :
    (x >>= f) = f a := by
  rw [h]
  rfl

theorem bind_of_error {α β : Type} {x : Check α} {e : FacilitatorExc} {f : α → Check β}
    (h : x = .error e) : (x >>= f) = .error e := by
  rw [h]
  rfl

theorem checkTransaction_of_innerPayload {method : String} {e : Exc}
    (henvelope : verifyEnvelope F payload r = .ok method)
    (hinvalid : exactXrplPayload env payload = .error e) :
    checkTransaction F payload r = .error (.other e) := by
  unfold checkTransaction
  rw [bind_of_ok henvelope]
  apply bind_of_error
  rw [hinvalid]
  rfl

theorem checkTransaction_of_reached {tx : Dict} {e : FacilitatorExc}
    (hreached : ReachesInvoice F payload r tx)
    (h : structureFromInvoice F tx r (payerOf env tx) = .error e) :
    checkTransaction F payload r = .error e := by
  obtain ⟨method, hmethod⟩ := hreached.envelope
  obtain ⟨exact_, hexact, hdecoded⟩ := hreached.decoded
  have htx : decodeOrRefuse env exact_.signedTxBlob = .ok tx := by
    unfold decodeOrRefuse
    rw [hdecoded]
  unfold checkTransaction
  rw [bind_of_ok hmethod, bind_of_ok (uncaught_eq_ok.mpr hexact), bind_of_ok htx]
  simp only
  rw [bind_of_ok hreached.signature]
  apply bind_of_error
  rw [verifyStructure_eq, bind_of_ok hreached.structure_]
  exact h

/-- An empty invoice and a long reference are found behind the same checks. -/
theorem structureFromInvoice_of_emptyInvoice (F : ExactXRPLFacilitatorScheme env) (tx : Dict)
    (payer : String)
    (hempty : Dict.get r.extraOr "invoiceId" = .str "") :
    ∃ e, structureFromInvoice F tx r payer = .error (.other e) := by
  refine ⟨valueError "extra.invoiceId must be non-empty", ?_⟩
  unfold structureFromInvoice
  apply bind_of_error
  unfold expectedInvoice
  rw [hempty]
  rfl

theorem structureFromInvoice_of_longReference (F : ExactXRPLFacilitatorScheme env) {tx : Dict}
    (payer : String) {e : Exc}
    (hinvoice : expectedInvoice env r = .ok (normalizedInvoice env tx))
    (hreference : parseXrplNetworkId env r.network = .error e) :
    structureFromInvoice F tx r payer = .error (.other e) := by
  unfold structureFromInvoice
  rw [bind_of_ok (uncaught_eq_ok.mpr hinvoice), bind_of_ok (a := ()) (failIf_eq_ok.mpr (by simp))]
  apply bind_of_error
  rw [hreference]
  rfl

end Raises

end XrplX402.Facilitator
