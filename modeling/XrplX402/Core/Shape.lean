import XrplX402.Core.Helpers

/-! # The shape check in detail

    * **The typed view**: every field that `exactXrplExtra` returns, with the
      entry of `extra` it was read from.
    * **Failures**: whatever is wrong with the requirements, the shape check
      raises a `ValueError`. -/

namespace XrplX402

open Py

variable {env : Env}

/-! ## Section 1: The typed view -/

/-- The typed view `extra` of the dictionary `d`, field by field. -/
structure ExtraFields (env : Env) (d : Dict) (extra : ExactXRPLExtra) : Prop where
  known : ∀ kv ∈ d, ExactXRPLExtra.unexpectedKey d kv.1 = false
  issuer : optionalField (acceptStr none) (ExactXRPLExtra.lookup d "issuer" "issuer") =
    some extra.issuer
  fees : acceptFees env (ExactXRPLExtra.lookup d "areFeesSponsored" "are_fees_sponsored") =
    some extra.areFeesSponsored
  method : optionalField (acceptStr none)
    (ExactXRPLExtra.lookup d "assetTransferMethod" "asset_transfer_method") =
      some extra.assetTransferMethod
  flow : optionalField acceptFlow (ExactXRPLExtra.lookup d "paymentFlow" "payment_flow") =
    some extra.paymentFlow
  invoice : optionalField (acceptStr (some invoiceIdMaxLength))
    (ExactXRPLExtra.lookup d "invoiceId" "invoice_id") = some extra.invoiceId
  tag : optionalField (acceptTag env)
    (ExactXRPLExtra.lookup d "destinationTag" "destination_tag") = some extra.destinationTag

theorem extraFields_of_ok {r : PaymentRequirements} {extra : ExactXRPLExtra}
    (h : exactXrplExtra env r = .ok extra) : ExtraFields env r.extraOr extra := by
  unfold exactXrplExtra ExactXRPLExtra.modelValidate at h
  simp only at h
  split at h
  · next extra' hparsed =>
    have hextra : extra' = extra := Except.ok.inj h
    rw [hextra] at hparsed
    split at hparsed
    · cases hparsed
    · next hknown =>
      unfold ExactXRPLExtra.parse at hparsed
      obtain ⟨issuer, hissuer, hparsed⟩ := Option.bind_eq_some_iff.mp hparsed
      obtain ⟨fees, hfees, hparsed⟩ := Option.bind_eq_some_iff.mp hparsed
      obtain ⟨method, hmethod, hparsed⟩ := Option.bind_eq_some_iff.mp hparsed
      obtain ⟨flow, hflow, hparsed⟩ := Option.bind_eq_some_iff.mp hparsed
      obtain ⟨invoice, hinvoice, hparsed⟩ := Option.bind_eq_some_iff.mp hparsed
      obtain ⟨tag, htag, hparsed⟩ := Option.bind_eq_some_iff.mp hparsed
      have hfields := Option.some.inj hparsed
      rw [← hfields]
      refine ⟨?_, hissuer, hfees, hmethod, hflow, hinvoice, htag⟩
      simpa using hknown
  · cases h

/-- What the shape check has established when it returns. -/
structure ShapeOk (env : Env) (r : PaymentRequirements) (extra : ExactXRPLExtra) : Prop where
  wire : xrplCurrencyCode env r.asset = .ok r.asset
  view : exactXrplExtra env r = .ok extra
  method : (extra.assetTransferMethod.filter (· ≠ "")).getD "sequence" = "sequence" ∨
    (extra.assetTransferMethod.filter (· ≠ "")).getD "sequence" = "ticketSequence"
  noIssuer : r.asset = "XRP" → extra.issuer = none
  issuer : r.asset ≠ "XRP" → ∃ issuer, extra.issuer = some issuer ∧ issuer ≠ ""

theorem shapeOk_of_shape {r : PaymentRequirements} {extra : ExactXRPLExtra}
    (h : validateRequirementsShape env r = .ok extra) : ShapeOk env r extra := by
  unfold validateRequirementsShape at h
  obtain ⟨_, h⟩ := failIf_bind_eq_ok.mp h
  obtain ⟨_, h⟩ := failIf_bind_eq_ok.mp h
  obtain ⟨_, h⟩ := failIf_bind_eq_ok.mp h
  obtain ⟨canonical, hcanonical, h⟩ := bind_eq_ok.mp h
  obtain ⟨hsame, h⟩ := failIf_bind_eq_ok.mp h
  obtain ⟨_, _, h⟩ := bind_eq_ok.mp h
  obtain ⟨_, h⟩ := failIf_bind_eq_ok.mp h
  obtain ⟨view, hview, h⟩ := bind_eq_ok.mp h
  obtain ⟨_, h⟩ := failIf_bind_eq_ok.mp h
  obtain ⟨hmethod, h⟩ := failIf_bind_eq_ok.mp h
  have hamount : (if r.asset = "XRP" then checkXrpAmount env r view
      else checkIouAmount env r view) = .ok () ∧ view = extra := by
    split at h
    · next hasset =>
      obtain ⟨_, hu, h⟩ := bind_eq_ok.mp h
      rw [if_pos hasset]
      exact ⟨hu, Except.ok.inj h⟩
    · next hasset =>
      obtain ⟨_, hu, h⟩ := bind_eq_ok.mp h
      rw [if_neg hasset]
      exact ⟨hu, Except.ok.inj h⟩
  obtain ⟨hamount, rfl⟩ := hamount
  refine ⟨?_, hview, ?_, ?_, ?_⟩
  · unfold canonicalAsset at hcanonical
    split at hcanonical
    · next code hcode => rw [hcode, Except.ok.inj hcanonical, ← not_not.mp hsame]
    · split at hcanonical <;> cases hcanonical
  · by_contra hneither
    push Not at hneither
    exact hmethod hneither
  · intro hasset
    rw [if_pos hasset] at hamount
    unfold checkXrpAmount at hamount
    obtain ⟨_, hamount⟩ := failIf_bind_eq_ok.mp hamount
    obtain ⟨_, _, hamount⟩ := bind_eq_ok.mp hamount
    obtain ⟨_, hamount⟩ := failIf_bind_eq_ok.mp hamount
    exact not_not.mp (failIf_eq_ok.mp hamount)
  · intro hasset
    rw [if_neg hasset] at hamount
    unfold checkIouAmount at hamount
    obtain ⟨hissuer, -⟩ := failIf_bind_eq_ok.mp hamount
    push Not at hissuer
    cases hi : view.issuer with
    | none => exact absurd hi hissuer.1
    | some issuer =>
      refine ⟨issuer, rfl, fun hempty => hissuer.2 ?_⟩
      rw [hi, hempty]

/-! ## Section 2: Failures -/

/-- If `x` raises, it raises a `ValueError`. -/
def OnlyValueErrors {α : Type} (x : Except Exc α) : Prop := ∀ e, x = .error e → e.kind = .valueError

section OnlyValueErrors

variable {α β : Type}

theorem onlyValueErrors_ok (a : α) : OnlyValueErrors (.ok a : Except Exc α) := by
  intro e h
  cases h

theorem onlyValueErrors_valueError (text : String) :
    OnlyValueErrors (.error (valueError text) : Except Exc α) := by
  intro e h
  rw [← Except.error.inj h]
  rfl

theorem OnlyValueErrors.bind {x : Except Exc α} {f : α → Except Exc β} (hx : OnlyValueErrors x)
    (hf : ∀ a, x = .ok a → OnlyValueErrors (f a)) : OnlyValueErrors (x >>= f) := by
  cases x with
  | ok a => exact hf a rfl
  | error e' =>
    intro e h
    exact hx e (congrArg Except.error (Except.error.inj h))

theorem onlyValueErrors_failIf {bad : Prop} [Decidable bad] (text : String) :
    OnlyValueErrors (failIf bad (valueError text)) := by
  unfold failIf
  split
  · exact onlyValueErrors_valueError text
  · exact onlyValueErrors_ok ()

theorem onlyValueErrors_ite {c : Prop} [Decidable c] {x y : Except Exc α} (hx : OnlyValueErrors x)
    (hy : OnlyValueErrors y) : OnlyValueErrors (if c then x else y) := by
  split
  · exact hx
  · exact hy

theorem onlyValueErrors_fromHex (s : String) : OnlyValueErrors (fromHex s) := by
  unfold fromHex
  split
  · exact onlyValueErrors_ok _
  · exact onlyValueErrors_valueError _

theorem onlyValueErrors_decodeAscii (bs : List UInt8) : OnlyValueErrors (decodeAscii bs) :=
  onlyValueErrors_ite (onlyValueErrors_ok _) (onlyValueErrors_valueError _)

theorem onlyValueErrors_encodeAscii (s : String) : OnlyValueErrors (encodeAscii s) :=
  onlyValueErrors_ite (onlyValueErrors_ok _) (onlyValueErrors_valueError _)

theorem onlyValueErrors_intOfStr (s : String) : OnlyValueErrors (intOfStr env.unicode s) := by
  unfold intOfStr
  simp only
  split
  · exact onlyValueErrors_valueError _
  · exact onlyValueErrors_ite (onlyValueErrors_valueError _) (onlyValueErrors_ok _)

theorem onlyValueErrors_normalizeCurrencyCode (currency : String) :
    OnlyValueErrors (normalizeCurrencyCode env currency) := by
  unfold normalizeCurrencyCode
  apply onlyValueErrors_ite
  · exact (onlyValueErrors_valueError _).bind fun _ h => by cases h
  · apply onlyValueErrors_ite
    · apply (onlyValueErrors_fromHex _).bind
      intro bytes _
      apply onlyValueErrors_ite
      · exact (onlyValueErrors_decodeAscii _).bind fun _ _ => onlyValueErrors_ok _
      · exact onlyValueErrors_ok _
    · exact onlyValueErrors_ok _

theorem onlyValueErrors_canonicalAsset (asset : String) :
    OnlyValueErrors (canonicalAsset env asset) := by
  unfold canonicalAsset
  split
  · exact onlyValueErrors_ok _
  · next e he =>
    split
    · exact onlyValueErrors_valueError _
    · next hkind =>
      have hcode : OnlyValueErrors (xrplCurrencyCode env asset) := by
        unfold xrplCurrencyCode
        apply onlyValueErrors_ite
        · exact (onlyValueErrors_valueError _).bind fun _ h => by cases h
        · apply onlyValueErrors_ite
          · exact onlyValueErrors_ok _
          · apply (onlyValueErrors_normalizeCurrencyCode _).bind
            intro name _
            apply onlyValueErrors_ite
            · exact onlyValueErrors_ok _
            · apply onlyValueErrors_ite
              · exact (onlyValueErrors_valueError _).bind fun _ h => by cases h
              · exact (onlyValueErrors_encodeAscii _).bind fun _ _ => onlyValueErrors_ok _
      exact absurd (hcode e he) hkind

theorem onlyValueErrors_exactXrplExtra (r : PaymentRequirements) :
    OnlyValueErrors (exactXrplExtra env r) := by
  unfold exactXrplExtra ExactXRPLExtra.modelValidate
  simp only
  split
  · exact onlyValueErrors_ok _
  · exact onlyValueErrors_valueError _

theorem onlyValueErrors_checkXrpAmount (r : PaymentRequirements) (extra : ExactXRPLExtra) :
    OnlyValueErrors (checkXrpAmount env r extra) := by
  unfold checkXrpAmount
  apply (onlyValueErrors_failIf _).bind
  intro _ _
  apply (onlyValueErrors_intOfStr _).bind
  intro _ _
  apply (onlyValueErrors_failIf _).bind
  intro _ _
  exact onlyValueErrors_failIf _

theorem onlyValueErrors_checkIouAmount (r : PaymentRequirements) (extra : ExactXRPLExtra) :
    OnlyValueErrors (checkIouAmount env r extra) := by
  unfold checkIouAmount
  apply (onlyValueErrors_failIf _).bind
  intro _ _
  apply OnlyValueErrors.bind
  · unfold checkDefaultIssuer
    split
    · exact onlyValueErrors_failIf _
    · exact onlyValueErrors_ok _
  intro _ _
  apply (onlyValueErrors_failIf _).bind
  intro _ hdecimal
  apply OnlyValueErrors.bind
  · -- A plain decimal amount is a number.
    have hplain : isDecimalAmount r.amount = true := by simpa using failIf_eq_ok.mp hdecimal
    obtain ⟨q, d, hd, -⟩ := decimalOfStr_of_isDecimalAmount env.unicode hplain
    unfold decimalNotPositive
    rw [hd]
    exact onlyValueErrors_ok _
  intro _ _
  exact onlyValueErrors_failIf _

/-- The shape check raises nothing but `ValueError`. -/
theorem onlyValueErrors_shape (r : PaymentRequirements) :
    OnlyValueErrors (validateRequirementsShape env r) := by
  unfold validateRequirementsShape
  apply (onlyValueErrors_failIf _).bind
  intro _ _
  apply (onlyValueErrors_failIf _).bind
  intro _ _
  apply (onlyValueErrors_failIf _).bind
  intro _ _
  apply (onlyValueErrors_canonicalAsset _).bind
  intro _ _
  apply (onlyValueErrors_failIf _).bind
  intro _ _
  apply OnlyValueErrors.bind
  · exact onlyValueErrors_ite (onlyValueErrors_ok _) (onlyValueErrors_normalizeCurrencyCode _)
  intro _ _
  apply (onlyValueErrors_failIf _).bind
  intro _ _
  apply (onlyValueErrors_exactXrplExtra _).bind
  intro extra _
  apply (onlyValueErrors_failIf _).bind
  intro _ _
  apply (onlyValueErrors_failIf _).bind
  intro _ _
  apply onlyValueErrors_ite
  · exact (onlyValueErrors_checkXrpAmount _ _).bind fun _ _ => onlyValueErrors_ok _
  · exact (onlyValueErrors_checkIouAmount _ _).bind fun _ _ => onlyValueErrors_ok _

end OnlyValueErrors

end XrplX402
