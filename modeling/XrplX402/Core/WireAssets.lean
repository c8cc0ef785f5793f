import XrplX402.Core.Currency
import XrplX402.Core.Shape

/-! # The names of wire assets

    The shape check accepts an asset that `xrplCurrencyCode` leaves as it is.
    Such an asset names a currency of the ledger, but a currency may have two
    accepted names, and three characters may be none of a currency.

    * `ledgerCurrency`: the 160 bits that a name stands for.
    * `ProperNames`: names determine currencies and currencies names.
    * `properNames_iff`: the names for which that holds. -/

namespace XrplX402

open Py

variable {env : Env}

/-! ## Section 1: Names and currencies -/

def isAsciiLetter (c : Char) : Bool := ('A' ≤ c && c ≤ 'Z') || ('a' ≤ c && c ≤ 'z')

/-- The characters that a three-character code may have. -/
def isCurrencyChar (c : Char) : Bool :=
  isAsciiLetter c || isAsciiDigit c || "?!@#$%^&*<>()\x7b\x7d[]|".toList.contains c

/-- The value of XRP. -/
def zeroValue : List Nat := List.replicate 20 0

/-- The value that a code of three characters has in the standard form. -/
def standardValue (code : String) : List Nat :=
  List.replicate 12 0 ++ code.toList.map Char.toNat ++ List.replicate 5 0

/-- The 160 bits that a name stands for. -/
def ledgerCurrency (asset : String) : Option (List Nat) :=
  if asset = xrpCode then some zeroValue
  else if asset.length = 3 then
    if asset.toList.all isCurrencyChar then some (standardValue asset) else none
  else currencyValue asset

/-- `XRP`, a code of three characters or 40 upper-case digits. -/
def IsLedgerName (asset : String) : Prop :=
  asset = xrpCode ∨ (asset.length = 3 ∧ ∀ c ∈ asset.toList, isCurrencyChar c = true) ∨
    (asset.length = 40 ∧ IsUpperHex asset.toList)

/-- The two names are names of currencies, neither is a disguise of XRP, and
    they are equal when their currencies are. -/
structure ProperNames (a b : String) : Prop where
  names : ∀ asset ∈ [a, b], IsLedgerName asset
  issued : ∀ asset ∈ [a, b], asset ≠ xrpCode →
    ledgerCurrency asset ≠ some zeroValue ∧ ledgerCurrency asset ≠ some (standardValue xrpCode)
  unique : ∀ value, ledgerCurrency a = some value → ledgerCurrency b = some value → a = b

/-- 40 zeros. -/
def zeroCode : String := String.ofList (List.replicate 40 '0')

/-- The name is neither three characters outside the alphabet of codes nor the
    digits of XRP. -/
structure PlainName (asset : String) : Prop where
  alphabet : asset.length = 3 → ∀ c ∈ asset.toList, isCurrencyChar c = true
  notZero : asset ≠ zeroCode
  notXrp : ¬ IsStandardForm xrpCode asset

/-! ## Section 2: Values -/

theorem standardValue_eq_iff {a b : String} : standardValue a = standardValue b ↔ a = b := by
  constructor
  · intro h
    have hinj : Function.Injective Char.toNat := fun c d hcd => by
      rw [← Char.ofNat_toNat c, hcd, Char.ofNat_toNat]
    have hmap := List.append_cancel_left (List.append_cancel_right h)
    exact String.ext (List.map_injective_iff.mpr hinj hmap)
  · rintro rfl
    rfl

theorem isStandardForm_iff {short long : String} :
    IsStandardForm short long ↔
      short.length = 3 ∧ long.length = 40 ∧ currencyValue long = some (standardValue short) := by
  unfold IsStandardForm standardValue
  constructor
  · rintro ⟨hshort, hlong, hbytes⟩
    exact ⟨hshort, hlong, (currencyValue_long hlong).mpr hbytes⟩
  · rintro ⟨hshort, hlong, hvalue⟩
    exact ⟨hshort, hlong, (currencyValue_long hlong).mp hvalue⟩

/-- A character of a code is not the zero byte. -/
theorem standardValue_ne_zero {code : String} (hlength : code.length = 3)
    (hchars : ∀ c ∈ code.toList, isCurrencyChar c = true) : standardValue code ≠ zeroValue := by
  intro h
  obtain ⟨c, hc⟩ : ∃ c, c ∈ code.toList := by
    apply List.exists_mem_of_ne_nil
    intro hnil
    have hzero := congrArg List.length hnil
    rw [String.length_toList, hlength] at hzero
    cases hzero
  have hmem : c.toNat ∈ standardValue code := by
    unfold standardValue
    exact List.mem_append_left _ (List.mem_append_right _ (List.mem_map_of_mem hc))
  rw [h] at hmem
  have hnul : c.toNat = 0 := List.eq_of_mem_replicate hmem
  have hallowed := hchars c hc
  rw [← Char.ofNat_toNat c, hnul] at hallowed
  exact absurd hallowed (by decide)

/-- Digits with the value of XRP are zeros. -/
theorem eq_zeroCode {asset : String} (hlength : asset.length = 40) (hupper : IsUpperHex asset.toList)
    (h : currencyValue asset = some zeroValue) : asset = zeroCode := by
  have hdigits : IsUpperHex zeroCode.toList := by
    intro c hc
    unfold zeroCode at hc
    rw [String.toList_ofList] at hc
    have hzero : c = '0' := List.eq_of_mem_replicate hc
    rw [hzero]
    decide
  have hlong : zeroCode.length = 40 := by decide +kernel
  have hzeros : IsWire zeroCode := Or.inr ⟨hlong, hdigits⟩
  have hvalue : currencyValue zeroCode = some zeroValue := by decide +kernel
  rcases (currencyValue_eq_iff (.inr ⟨hlength, hupper⟩) hzeros).mp (h.trans hvalue.symm) with
    heq | hform | hform
  · exact heq
  · exact absurd (hform.1.symm.trans hlength) (by decide)
  · exact absurd (hform.1.symm.trans hlong) (by decide)

theorem ledgerCurrency_xrp : ledgerCurrency xrpCode = some zeroValue := if_pos rfl

theorem ledgerCurrency_long {asset : String} (h : asset.length = 40) :
    ledgerCurrency asset = currencyValue asset := by
  have hxrp : asset ≠ xrpCode := by
    rintro rfl
    exact absurd h (by decide)
  rw [ledgerCurrency, if_neg hxrp, if_neg (by omega)]

theorem ledgerCurrency_code {asset : String} (hxrp : asset ≠ xrpCode) (hlength : asset.length = 3)
    (hchars : ∀ c ∈ asset.toList, isCurrencyChar c = true) :
    ledgerCurrency asset = some (standardValue asset) := by
  rw [ledgerCurrency, if_neg hxrp, if_pos hlength, if_pos (List.all_eq_true.mpr hchars)]

/-! ## Section 3: Plain names -/

section Plain

variable {a b : String}

theorem PlainName.isLedgerName (h : PlainName a) (hwire : IsWire a) : IsLedgerName a := by
  rcases hwire with hthree | hhex
  · exact .inr (.inl ⟨hthree, h.alphabet hthree⟩)
  · exact .inr (.inr hhex)

theorem PlainName.issued (h : PlainName a) (hwire : IsWire a) (hxrp : a ≠ xrpCode) :
    ledgerCurrency a ≠ some zeroValue ∧ ledgerCurrency a ≠ some (standardValue xrpCode) := by
  rcases hwire with hthree | ⟨hlong, hupper⟩
  · rw [ledgerCurrency_code hxrp hthree (h.alphabet hthree)]
    constructor
    · intro hzero
      exact standardValue_ne_zero hthree (h.alphabet hthree) (Option.some.inj hzero)
    · intro hsame
      exact hxrp (standardValue_eq_iff.mp (Option.some.inj hsame))
  · rw [ledgerCurrency_long hlong]
    constructor
    · intro hzero
      exact h.notZero (eq_zeroCode hlong hupper hzero)
    · intro hsame
      exact h.notXrp (isStandardForm_iff.mpr ⟨by decide, hlong, hsame⟩)

/-- Plain names other than XRP have the value that their characters give. -/
theorem PlainName.currency (h : PlainName a) (hwire : IsWire a) (hxrp : a ≠ xrpCode) :
    ledgerCurrency a = currencyValue a := by
  rcases hwire with hthree | ⟨hlong, -⟩
  · rw [ledgerCurrency_code hxrp hthree (h.alphabet hthree), currencyValue, if_pos hthree]
    rfl
  · exact ledgerCurrency_long hlong

theorem PlainName.unique (ha : PlainName a) (hb : PlainName b) (hwa : IsWire a) (hwb : IsWire b)
    (hab : ¬ IsStandardForm a b) (hba : ¬ IsStandardForm b a) {value : List Nat}
    (hva : ledgerCurrency a = some value) (hvb : ledgerCurrency b = some value) : a = b := by
  by_cases hxa : a = xrpCode
  · by_cases hxb : b = xrpCode
    · rw [hxa, hxb]
    · rw [hxa, ledgerCurrency_xrp] at hva
      rw [← Option.some.inj hva] at hvb
      exact absurd hvb (hb.issued hwb hxb).1
  · by_cases hxb : b = xrpCode
    · rw [hxb, ledgerCurrency_xrp] at hvb
      rw [← Option.some.inj hvb] at hva
      exact absurd hva (ha.issued hwa hxa).1
    · rw [ha.currency hwa hxa] at hva
      rw [hb.currency hwb hxb] at hvb
      rcases (currencyValue_eq_iff hwa hwb).mp (hva.trans hvb.symm) with heq | hform | hform
      · exact heq
      · exact absurd hform hab
      · exact absurd hform hba

/-- A name that is proper and no standard form of XRP or of the other is plain. -/
theorem plainName_of_proper (hname : IsLedgerName a)
    (hissued : a ≠ xrpCode → ledgerCurrency a ≠ some zeroValue ∧
      ledgerCurrency a ≠ some (standardValue xrpCode)) : PlainName a := by
  constructor
  · intro hthree
    rcases hname with rfl | ⟨-, hchars⟩ | ⟨hlong, -⟩
    · exact List.all_iff_forall_prop.mp (by decide)
    · exact hchars
    · omega
  · rintro rfl
    have hzero : ledgerCurrency zeroCode = some zeroValue := by decide +kernel
    exact (hissued (by decide)).1 hzero
  · intro hform
    obtain ⟨-, hlong, hvalue⟩ := isStandardForm_iff.mp hform
    have hxrp : a ≠ xrpCode := by
      rintro rfl
      exact absurd hlong (by decide)
    apply (hissued hxrp).2
    rw [ledgerCurrency_long hlong, hvalue]

/-- A proper pair holds no code beside its standard form. -/
theorem ProperNames.not_standardForm (h : ProperNames a b) : ¬ IsStandardForm a b := by
  intro hform
  obtain ⟨hthree, hlong, hvalue⟩ := isStandardForm_iff.mp hform
  have hb : ledgerCurrency b = some (standardValue a) := by rw [ledgerCurrency_long hlong, hvalue]
  have hne : a ≠ b := by
    rintro rfl
    omega
  by_cases hxrp : a = xrpCode
  · have hxb : b ≠ xrpCode := fun hxb => hne (hxrp.trans hxb.symm)
    apply (h.issued b (by simp) hxb).2
    rw [hb, hxrp]
  · have hplain := plainName_of_proper (h.names a (by simp)) (h.issued a (by simp))
    have ha := ledgerCurrency_code hxrp hthree (hplain.alphabet hthree)
    exact hne (h.unique _ ha hb)

theorem ProperNames.symm (h : ProperNames a b) : ProperNames b a := by
  have hmem : ∀ {x}, x ∈ [b, a] → x ∈ [a, b] := by
    intro x hx
    simpa [or_comm] using hx
  exact ⟨fun x hx => h.names x (hmem hx), fun x hx => h.issued x (hmem hx),
    fun value hb ha => (h.unique value ha hb).symm⟩

end Plain

theorem isWire_of_shape {r : PaymentRequirements} {extra : ExactXRPLExtra}
    (h : validateRequirementsShape env r = .ok extra) : IsWire r.asset :=
  (wireCode_of_xrplCurrencyCode (shapeOk_of_shape h).wire).isWire

/-- The assets of two accepted requirements are proper names exactly when both
    are plain and neither is the standard form of the other. -/
theorem properNames_iff (env : Env) (r s : PaymentRequirements) (extra extra' : ExactXRPLExtra)
    (hr : validateRequirementsShape env r = .ok extra)
    (hs : validateRequirementsShape env s = .ok extra') :
    ProperNames r.asset s.asset ↔
      PlainName r.asset ∧ PlainName s.asset ∧
        ¬ IsStandardForm r.asset s.asset ∧ ¬ IsStandardForm s.asset r.asset := by
  constructor
  · intro h
    exact ⟨plainName_of_proper (h.names _ (by simp)) (h.issued _ (by simp)),
      plainName_of_proper (h.names _ (by simp)) (h.issued _ (by simp)),
      h.not_standardForm, h.symm.not_standardForm⟩
  · rintro ⟨ha, hb, hab, hba⟩
    have hwa := isWire_of_shape hr
    have hwb := isWire_of_shape hs
    refine ⟨?_, ?_, fun value hva hvb => ha.unique hb hwa hwb hab hba hva hvb⟩
    · intro asset hmem
      rcases List.mem_pair.mp hmem with rfl | rfl
      · exact ha.isLedgerName hwa
      · exact hb.isLedgerName hwb
    · intro asset hmem
      rcases List.mem_pair.mp hmem with rfl | rfl
      · exact ha.issued hwa
      · exact hb.issued hwb

/-! ### Two names of one currency -/

namespace Sample

/-- No codec, no hash and no address is needed for the shape check. -/
def shapeEnv : Env where
  unicode := asciiData
  sha256 := tableHash []
  sha512 := fun _ => []
  decode := fun _ => .ok []
  encodeForSigning := fun _ => .ok ""
  isValidMessage := fun _ _ _ => .ok true
  isValidClassicAddress := fun _ => true
  deriveClassicAddress := fun _ => .ok ""
  paymentFromXrpl := fun tx => .ok tx
  extractPaymentIdentifier := fun _ => none
  extractAndValidatePaymentIdentifier := fun _ => .ok none
  validatePaymentIdentifierRequirement := fun _ => .ok ()
  laxBool := fun _ => none
  laxInt := fun _ => none
  serializable := fun _ => true
  validationText := fun model _ => "validation error for " ++ model

/-- Ten units of an asset of this issuer. -/
def tenOf (asset : String) : PaymentRequirements :=
  ⟨"exact", "xrpl:1", asset, "10", "rMerchant", 60,
    some [("issuer", .str "rIssuer"), ("areFeesSponsored", .bool false)]⟩

/-- The digits of the three characters `USD`. -/
def usdHex : String := "0000000000000000000000005553440000000000"

def tenOfExtra : ExactXRPLExtra := ⟨some "rIssuer", false, none, none, none, none⟩

end Sample

/-- A code and its digits are accepted, and are two names of one currency; zeros
    are accepted as an issued currency. -/
theorem accepts_two_names :
    validateRequirementsShape Sample.shapeEnv (Sample.tenOf "USD") = .ok Sample.tenOfExtra ∧
      validateRequirementsShape Sample.shapeEnv (Sample.tenOf Sample.usdHex) = .ok Sample.tenOfExtra ∧
      validateRequirementsShape Sample.shapeEnv (Sample.tenOf zeroCode) = .ok Sample.tenOfExtra ∧
      ¬ ProperNames "USD" Sample.usdHex ∧ ¬ ProperNames zeroCode zeroCode := by
  refine ⟨by decide +kernel, by decide +kernel, by decide +kernel, ?_, ?_⟩
  · intro h
    have hvalue : ledgerCurrency Sample.usdHex = ledgerCurrency "USD" := by decide +kernel
    exact absurd (h.unique (standardValue "USD") (by decide +kernel) (hvalue.trans (by decide +kernel)))
      (by decide)
  · intro h
    exact (h.issued zeroCode (by simp) (by decide)).1 (by decide +kernel)

theorem properNames_iff_sample : ProperNames "USD" "EUR" := by
  have hiff := properNames_iff Sample.shapeEnv (Sample.tenOf "USD") (Sample.tenOf "EUR")
    Sample.tenOfExtra Sample.tenOfExtra (by decide +kernel) (by decide +kernel)
  have hplain : ∀ code ∈ ["USD", "EUR"], PlainName code := by
    intro code hcode
    have hthree : code.length = 3 ∧ code.toList.all isCurrencyChar = true := by
      revert code
      exact List.all_iff_forall_prop.mp (by decide)
    refine ⟨fun _ => List.all_eq_true.mp hthree.2, ?_, fun hform => ?_⟩
    · rintro rfl
      exact absurd hthree.1 (by decide)
    · exact absurd (hform.2.1.symm.trans hthree.1) (by decide)
  exact hiff.mpr ⟨hplain "USD" (by simp), hplain "EUR" (by simp), fun h => absurd h.2.1 (by decide),
    fun h => absurd h.2.1 (by decide)⟩

end XrplX402
