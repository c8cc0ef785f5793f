import Mathlib.Data.List.ReduceOption
import XrplX402.Core.Shape
import XrplX402.Core.SpelledNames
import XrplX402.Facilitator.Soundness

/-! # The asset allow-list

    The facilitator compares assets by name: the configured codes and the asset
    of a request are decoded and capitalized before they are compared. A name
    does not determine a currency of the ledger, so the check admits more than
    what is configured.

    * `configuredAssets`: the entries as they are written.
    * `SameForm`: the written forms in which a name determines a currency.
    * `admits_configured_iff`: when the check admits a configured currency. -/

namespace XrplX402.Facilitator

open Py

variable {env : Env}

/-! ## Section 1: Configured assets -/

/-- An entry `CODE:ISSUER`, as it is written. -/
structure ConfiguredAsset where
  code : String
  issuer : String
  deriving DecidableEq

/-- One entry of `ALLOWED_ISSUED_ASSETS`; blank ones are no entries. -/
def writtenEntry (rawEntry : String) : Option ConfiguredAsset :=
  let entry := strip rawEntry
  if entry = "" then none
  else some ⟨(partition ':' entry).1, strip (partition ':' entry).2.2⟩

def writtenEntries (rawAssets : String) : List ConfiguredAsset :=
  (splitChars ',' rawAssets.toList).filterMap fun cs => writtenEntry (String.ofList cs)

/-- The built-in entry of a network. -/
def builtInEntries (networkId : String) : List ConfiguredAsset :=
  match networkRlusdIssuers.lookup networkId with
  | some issuer => [⟨rlusdCode, issuer⟩]
  | none => []

def configuredAssets (settings : Settings) : List ConfiguredAsset :=
  builtInEntries settings.networkId ++ writtenEntries settings.allowedIssuedAssets

/-- Entries and supported assets have one issuer and one name. -/
def ConfiguredAsset.Names (env : Env) (entry : ConfiguredAsset) (asset : AssetKey) : Prop :=
  asset.issuer = some entry.issuer ∧ normalizeCurrencyCode env entry.code = .ok asset.code

/-! ### Supported assets are configured -/

theorem mem_addAsset {assets : List AssetKey} {a b : AssetKey} :
    a ∈ addAsset assets b ↔ a ∈ assets ∨ a = b := by
  unfold addAsset
  split
  · next hb =>
    constructor
    · exact .inl
    · rintro (h | rfl)
      · exact h
      · exact hb
  · simp

theorem mem_foldl_addAsset {assets init : List AssetKey} {a : AssetKey} :
    a ∈ assets.foldl addAsset init ↔ a ∈ init ∨ a ∈ assets := by
  induction assets generalizing init with
  | nil => simp
  | cons b assets ih => rw [List.foldl_cons, ih, mem_addAsset, List.mem_cons, or_assoc]

theorem names_of_parseAllowedEntry {rawEntry : String} {asset : AssetKey}
    (h : parseAllowedEntry env rawEntry = .ok (some asset)) :
    ∃ entry, writtenEntry rawEntry = some entry ∧ entry.Names env asset := by
  unfold parseAllowedEntry at h
  by_cases hblank : strip rawEntry = ""
  · simp only [hblank, if_true] at h
    cases h
  · simp only [hblank, if_false] at h
    obtain ⟨code, hcode, h⟩ := bind_eq_ok.mp h
    refine ⟨⟨(partition ':' (strip rawEntry)).1, strip (partition ':' (strip rawEntry)).2.2⟩,
      by simp [writtenEntry, hblank], ?_⟩
    split at h
    · cases h
    · split at h
      · cases h
      · split at h
        · cases h
        · obtain rfl : (⟨code, some (strip (partition ':' (strip rawEntry)).2.2)⟩ : AssetKey) = asset :=
            Option.some.inj (Except.ok.inj h)
          exact ⟨rfl, hcode⟩

theorem names_of_parseAllowedIssuedAssets {rawAssets : String} {assets : List AssetKey}
    (h : parseAllowedIssuedAssets env rawAssets = .ok assets) {asset : AssetKey}
    (hmem : asset ∈ assets) : ∃ entry ∈ writtenEntries rawAssets, entry.Names env asset := by
  unfold parseAllowedIssuedAssets at h
  obtain ⟨entries, hentries, h⟩ := bind_eq_ok.mp h
  obtain rfl : entries.reduceOption.foldl addAsset [] = assets := Except.ok.inj h
  rcases mem_foldl_addAsset.mp hmem with hnil | hmem
  · cases hnil
  · rw [List.reduceOption_mem_iff] at hmem
    obtain ⟨cs, hcs, hparse⟩ := (mem_of_mapM hentries).2 _ hmem
    obtain ⟨entry, hwritten, hnames⟩ := names_of_parseAllowedEntry hparse
    exact ⟨entry, List.mem_filterMap.mpr ⟨cs, hcs, hwritten⟩, hnames⟩

theorem normalizeCurrencyCode_rlusd (env : Env) :
    normalizeCurrencyCode env rlusdCode = .ok rlusdCode := by
  have hstrip : strip rlusdCode = rlusdCode := by decide
  have hupper : env.unicode.upperStr rlusdCode = rlusdCode :=
    env.unicode.upperStr_of_upper (List.all_iff_forall_prop.mp (by decide))
  have hlen : ¬ (rlusdCode.length = 40 ∧ rlusdCode.toList.all isHexDigit = true) := by decide
  unfold normalizeCurrencyCode
  rw [hstrip, hupper]
  simp only [show rlusdCode ≠ "" by decide, if_false, hlen]
  rfl

/-- Every supported issued asset is named by an entry. -/
theorem names_of_supported (F : ExactXRPLFacilitatorScheme env) {asset : AssetKey} {issuer : String}
    (hmem : asset ∈ F.supportedAssets) (hissuer : asset.issuer = some issuer) :
    ∃ entry ∈ configuredAssets F.settings, entry.Names env asset := by
  have h := F.supported
  unfold supportedAssetKeys at h
  obtain ⟨allowed, hallowed, h⟩ := bind_eq_ok.mp h
  rw [← Except.ok.inj h] at hmem
  unfold configuredAssets builtInEntries
  rcases mem_foldl_addAsset.mp hmem with hdefault | hwritten
  · cases hlookup : networkRlusdIssuers.lookup F.settings.networkId with
    | none =>
      rw [hlookup, List.mem_singleton] at hdefault
      rw [hdefault] at hissuer
      cases hissuer
    | some rlusdIssuer =>
      rw [hlookup] at hdefault
      rcases mem_addAsset.mp hdefault with hnative | rfl
      · rw [List.mem_singleton] at hnative
        rw [hnative] at hissuer
        cases hissuer
      · exact ⟨⟨rlusdCode, rlusdIssuer⟩, by simp, rfl, normalizeCurrencyCode_rlusd env⟩
  · obtain ⟨entry, hentry, hnames⟩ := names_of_parseAllowedIssuedAssets hallowed hwritten
    exact ⟨entry, List.mem_append_right _ hentry, hnames⟩

/-! ## Section 2: Names and forms -/

section Forms

/-- Which characters of the text that digits spell are small letters. -/
def smallLetters (digits : String) : Option (List Bool) :=
  (asciiName digits).map fun name => name.toList.map Char.isLower

/-- The code and the asset are written in one form. -/
inductive SameForm (code asset : String) : Prop where
  /-- Both in digits, with the same small letters. -/
  | digits (hex : isHex40 (strip code) = true) (long : asset.length = 40)
      (letters : smallLetters (strip code) = smallLetters asset)
  /-- Both in letters. -/
  | letters (plain : isHex40 (strip code) = false) (three : asset.length = 3)
  /-- The digits of a name in capitals, for which there is no shorter form. -/
  | capitals {name : String} (plain : isHex40 (strip code) = false)
      (spelled : asciiName asset = some name) (notThree : name.length ≠ 3)
      (capitals : ∀ c ∈ name.toList, c.isLower = false)

/-- The code has the currency of the asset, but another name. -/
inductive OtherName (env : Env) (code asset : String) : Prop where
  /-- Digits that cannot be printed are a name for entries, not for requests. -/
  | digits (hex : isHex40 (strip code) = true) (same : env.unicode.upperStr (strip code) = asset)
  /-- Zero bytes at the end of a name are lost in its digits. -/
  | zeros {name : String} {bytes : List UInt8} (plain : isHex40 (strip code) = false)
      (normalized : normalizeCurrencyCode env (strip code) = .ok name) (notThree : name.length ≠ 3)
      (short : name.length ≤ 20) (ascii : encodeAscii name = .ok bytes)
      (zero : bytes.getLast? = some 0)
      (digits : ljustZero 40 (env.unicode.upperStr (hexdigest bytes)) = asset)
  /-- The standard form begins with zero bytes. -/
  | standardForm {wire : String} (code : xrplCurrencyCode env code = .ok wire)
      (form : IsStandardForm wire asset ∨ IsStandardForm asset wire)

theorem OtherName.spells {code asset : String} (h : OtherName env code asset) :
    Spells env code asset := by
  cases h with
  | digits hex same => exact .hexadecimal hex same
  | zeros plain normalized notThree short ascii zero digits =>
    exact .padded plain normalized notThree short ascii digits
  | standardForm code form => exact .standardForm code form

variable {code asset : String}

theorem friendlyCurrency_three (hwire : xrplCurrencyCode env asset = .ok asset)
    (hthree : asset.length = 3) : friendlyCurrency env asset = asset := by
  have hshort : asset.length ≠ 40 := by omega
  unfold friendlyCurrency
  rw [if_neg hshort]
  exact normalize_capitals (normalize_three hwire hthree)

theorem friendlyCurrency_long (hlength : asset.length = 40) (hupper : IsUpperHex asset.toList) :
    friendlyCurrency env asset = (asciiName asset).elim asset env.unicode.upperStr := by
  have hcaps : env.unicode.upperStr asset = asset :=
    env.unicode.upperStr_of_upper fun c hc =>
      ⟨(upperHexDigit_plain (hupper c hc)).2.2.1, (upperHexDigit_plain (hupper c hc)).2.2.2.1⟩
  obtain ⟨bytes, hbytes, -⟩ := isUpperHex_length hlength hupper
  unfold friendlyCurrency
  rw [if_pos hlength, fromHex_eq_ok.mpr hbytes, asciiName_of_bytes hbytes]
  dsimp only [bind, Except.bind]
  cases decodeAscii (rstripZero bytes) with
  | ok name => rfl
  | error e => exact hcaps

theorem length_upperStr (env : Env) {name : String} (h : ∀ c ∈ name.toList, c.toNat < 128) :
    (env.unicode.upperStr name).length = name.length := by
  rw [← String.length_toList, env.unicode.toList_upperStr h, List.length_map, String.length_toList]

theorem upper_letter {c : Char} (h : c.toNat < 128) :
    c.toUpper.toNat < 128 ∧ (c.toUpper = c ↔ c.isLower = false) ∧
      (c.isLower = true → c.toNat = c.toUpper.toNat + 32) :=
  forall_ascii (fun c => c.toUpper.toNat < 128 ∧ (c.toUpper = c ↔ c.isLower = false) ∧
    (c.isLower = true → c.toNat = c.toUpper.toNat + 32)) (by decide) h

/-- A letter is determined by its capital and its case. -/
theorem letter_ext {c d : Char} (hc : c.toNat < 128) (hd : d.toNat < 128) (hcaps : c.toUpper = d.toUpper)
    (hcase : c.isLower = d.isLower) : c = d := by
  by_cases hlower : c.isLower = true
  · have hcd : c.toNat = d.toNat := by
      rw [(upper_letter hc).2.2 hlower, (upper_letter hd).2.2 (hcase ▸ hlower), hcaps]
    rw [← Char.ofNat_toNat c, hcd, Char.ofNat_toNat]
  · have hcapital := Bool.eq_false_iff.mpr hlower
    rw [← (upper_letter hc).2.1.mpr hcapital, hcaps, (upper_letter hd).2.1.mpr (hcase ▸ hcapital)]

theorem letters_ext {cs ds : List Char} (hcs : ∀ c ∈ cs, c.toNat < 128) (hds : ∀ d ∈ ds, d.toNat < 128)
    (hcaps : cs.map Char.toUpper = ds.map Char.toUpper)
    (hcase : cs.map Char.isLower = ds.map Char.isLower) : cs = ds := by
  induction cs generalizing ds with
  | nil =>
    cases ds with
    | nil => rfl
    | cons d ds => cases hcaps
  | cons c cs ih =>
    cases ds with
    | nil => cases hcaps
    | cons d ds =>
      obtain ⟨hc, hcs⟩ := List.forall_mem_cons.mp hcs
      obtain ⟨hd, hds⟩ := List.forall_mem_cons.mp hds
      obtain ⟨hcap, hcaps⟩ := List.cons.inj hcaps
      obtain ⟨hlower, hcase⟩ := List.cons.inj hcase
      rw [letter_ext hc hd hcap hlower, ih hcs hds hcaps hcase]

/-- A name is its own capitals when it has no small letter. -/
theorem upperStr_eq_self_iff (env : Env) {name : String} (h : ∀ c ∈ name.toList, c.toNat < 128) :
    env.unicode.upperStr name = name ↔ ∀ c ∈ name.toList, c.isLower = false := by
  rw [← String.toList_inj, env.unicode.toList_upperStr h]
  conv_lhs =>
    rhs
    rw [← List.map_id name.toList]
  rw [List.map_inj_left]
  exact forall₂_congr fun c hc => (upper_letter (h c hc)).2.1

/-! ### An entry and an asset with one name -/

/-- A code in digits never has the currency of the three characters it spells. -/
theorem not_sameCurrency_three (hwire : xrplCurrencyCode env asset = .ok asset)
    (hthree : asset.length = 3) (hex : isHex40 (strip code) = true)
    (hname : normalizeCurrencyCode env code = .ok asset) : ¬ SameCurrency env code asset := by
  obtain ⟨hlength, hupper⟩ := isWire_of_isHex40 env hex
  have hdigits : xrplCurrencyCode env code = .ok (env.unicode.upperStr (strip code)) :=
    xrplCurrencyCode_eq_ok.mpr (.hexadecimal hex)
  rw [sameCurrency_of_wire hdigits (wireCode_of_xrplCurrencyCode hwire).isWire]
  rw [normalize_of_isHex40 hex] at hname
  rcases spelledName_cases hlength hupper with ⟨name, decoded, hspelled, h⟩ | ⟨hnone, -⟩
  · rw [hspelled] at hname
    have hcaps : env.unicode.upperStr name = asset := Except.ok.inj hname
    have hlen : name.length = 3 := by rw [← length_upperStr env h.ascii_of_mem, hcaps, hthree]
    rintro (heq | hform | hform)
    · rw [heq, hthree] at hlength
      cases hlength
    · have hshort := hform.1
      omega
    · exact h.not_standardForm hlen _ hform
  · rw [hnone] at hname
    have hdigits' : env.unicode.upperStr (strip code) = asset := Except.ok.inj hname
    rw [hdigits', hthree] at hlength
    cases hlength

/-- Two codes in digits with one name differ in small letters only. -/
theorem sameCurrency_digits (hlength : asset.length = 40) (hupper : IsUpperHex asset.toList)
    (hex : isHex40 (strip code) = true)
    (hname : normalizeCurrencyCode env code = .ok (friendlyCurrency env asset)) :
    SameCurrency env code asset ↔ smallLetters (strip code) = smallLetters asset := by
  obtain ⟨hlength', hupper'⟩ := isWire_of_isHex40 env hex
  have hdigits : xrplCurrencyCode env code = .ok (env.unicode.upperStr (strip code)) :=
    xrplCurrencyCode_eq_ok.mpr (.hexadecimal hex)
  -- The standard form is shorter than 40 digits.
  have hsame : SameCurrency env code asset ↔ env.unicode.upperStr (strip code) = asset := by
    rw [sameCurrency_of_wire hdigits (.inr ⟨hlength, hupper⟩)]
    constructor
    · rintro (heq | hform | hform)
      · exact heq
      · have hshort := hform.1
        omega
      · have hshort := hform.1
        omega
    · exact .inl
  rw [hsame, smallLetters, ← asciiName_upperStr env hex, ← smallLetters]
  -- Equal names and equal small letters are equal texts, so the digits are equal.
  refine ⟨fun heq => by rw [heq], fun hletters => ?_⟩
  rw [normalize_of_isHex40 hex, friendlyCurrency_long hlength hupper] at hname
  have hequal := Except.ok.inj hname
  rcases spelledName_cases hlength' hupper' with ⟨name, decoded, hspelled, h⟩ | ⟨hnone, -⟩
  · rcases asciiName_cases hlength hupper with ⟨name', decoded', hname', h'⟩ | hnone'
    · rw [hspelled, hname'] at hequal
      rw [smallLetters, h.asciiName_eq, smallLetters, hname'] at hletters
      have hcaps : name.toList.map Char.toUpper = name'.toList.map Char.toUpper := by
        rw [← env.unicode.toList_upperStr h.ascii_of_mem, ← env.unicode.toList_upperStr h'.ascii_of_mem]
        exact congrArg String.toList hequal
      have hnames : name = name' := String.toList_injective
        (letters_ext h.ascii_of_mem h'.ascii_of_mem hcaps (Option.some.inj hletters))
      have hdecoded : decoded = decoded' := by
        have hencode := h.encode
        rw [hnames, h'.encode] at hencode
        exact (Except.ok.inj hencode).symm
      rw [← h.packed env hupper', hdecoded, h'.packed env hupper]
    · rw [smallLetters, h.asciiName_eq, smallLetters, hnone'] at hletters
      cases hletters
  · rcases asciiName_cases hlength hupper with ⟨name', decoded', hname', h'⟩ | hnone'
    · rw [hnone, hname'] at hequal
      have hlen := congrArg String.length hequal
      rw [Option.elim_none, Option.elim_some, length_upperStr env h'.ascii_of_mem, hlength',
        h'.length_eq] at hlen
      have hshort := h'.short
      omega
    · rw [hnone, hnone'] at hequal
      exact hequal

/-- A code in letters has the currency of digits that spell its capitals, unless
    it has three characters. -/
theorem sameCurrency_letters (hlength : asset.length = 40) (hupper : IsUpperHex asset.toList)
    (hplain : isHex40 (strip code) = false)
    (hname : normalizeCurrencyCode env code = .ok (friendlyCurrency env asset)) :
    SameCurrency env code asset ↔ ∃ name, asciiName asset = some name ∧ name.length ≠ 3 ∧
      ∀ c ∈ name.toList, c.isLower = false := by
  have hasset : IsWire asset := .inr ⟨hlength, hupper⟩
  rw [← normalize_strip, friendlyCurrency_long hlength hupper] at hname
  rcases asciiName_cases hlength hupper with ⟨name, decoded, hascii, h⟩ | hnone
  · rw [hascii] at hname
    have hnormalized : normalizeCurrencyCode env (strip code) = .ok (env.unicode.upperStr name) := hname
    have hlen := length_upperStr env h.ascii_of_mem
    simp only [hascii, Option.some.injEq, exists_eq_left']
    by_cases hthree : name.length = 3
    · have hcode := xrplCurrencyCode_eq_ok.mpr (.standard hplain hnormalized (hlen.trans hthree))
      rw [sameCurrency_of_wire hcode hasset]
      refine ⟨?_, fun hcaps => absurd hthree hcaps.1⟩
      rintro (heq | hform | hform)
      · rw [← heq, hlen] at hlength
        omega
      · exact absurd hform (h.not_standardForm hthree _)
      · have hshort := hform.1
        omega
    · have hshort : name.length ≤ 20 := h.length_eq.trans_le h.short
      have hcapitals : ∀ c ∈ (env.unicode.upperStr name).toList, c.toNat < 128 := by
        intro c hc
        rw [env.unicode.toList_upperStr h.ascii_of_mem] at hc
        obtain ⟨d, hd, rfl⟩ := List.mem_map.mp hc
        exact (upper_letter (h.ascii_of_mem d hd)).1
      have hbytes := encodeAscii_of_ascii hcapitals
      have hcode := xrplCurrencyCode_eq_ok.mpr (.padded hplain hnormalized (by rwa [hlen])
        (by rwa [hlen]) hbytes)
      rw [sameCurrency_of_wire hcode hasset, ← upperStr_eq_self_iff env h.ascii_of_mem]
      constructor
      · rintro (heq | hform | hform)
        · refine ⟨hthree, ?_⟩
          -- the same digits stand for the same bytes
          have hdigits := h.digits
          rw [← heq, fromHexChars_packed (by rw [length_encodeAscii hbytes, hlen]; exact hshort)] at hdigits
          have hsplit := Option.some.inj hdigits
          have hdecoded := (List.append_inj hsplit (by
            rw [length_encodeAscii hbytes, hlen, h.length_eq])).1
          rw [hdecoded] at hbytes
          apply String.toList_injective
          rw [(chars_of_encodeAscii hbytes).2, h.chars]
        · have hfirst := hform.1
          rw [length_packed (by rw [length_encodeAscii hbytes, hlen]; exact hshort)] at hfirst
          cases hfirst
        · have hfirst := hform.1
          omega
      · rintro ⟨-, hcaps⟩
        rw [hcaps] at hbytes
        rw [h.encode] at hbytes
        rw [hcaps, ← Except.ok.inj hbytes]
        exact .inl (h.packed env hupper)
  · rw [hnone] at hname
    constructor
    · intro hsame
      obtain ⟨wire, value, hwire, -⟩ := hsame
      cases wireCode_of_xrplCurrencyCode hwire with
      | hexadecimal hex =>
        rw [hplain] at hex
        cases hex
      | standard plain normalized three =>
        obtain rfl := Except.ok.inj (hname.symm.trans normalized)
        rw [Option.elim_none, hlength] at three
        cases three
      | padded plain normalized notThree short ascii =>
        obtain rfl := Except.ok.inj (hname.symm.trans normalized)
        rw [Option.elim_none, hlength] at short
        omega
    · rintro ⟨name, hname', -⟩
      rw [hnone] at hname'
      cases hname'

/-- An entry and an asset with one name are one currency exactly when they are
    written in one form. -/
theorem sameCurrency_iff_sameForm (hwire : xrplCurrencyCode env asset = .ok asset)
    (hname : normalizeCurrencyCode env code = .ok (friendlyCurrency env asset)) :
    SameCurrency env code asset ↔ SameForm code asset := by
  rcases (wireCode_of_xrplCurrencyCode hwire).isWire with hthree | ⟨hlength, hupper⟩
  · rw [friendlyCurrency_three hwire hthree] at hname
    by_cases hex : isHex40 (strip code) = true
    · refine iff_of_false (not_sameCurrency_three hwire hthree hex hname) fun hform => ?_
      cases hform with
      | digits hex' long letters => omega
      | letters plain three => rw [hex] at plain; cases plain
      | capitals plain spelled notThree capitals => rw [hex] at plain; cases plain
    · have hplain := Bool.eq_false_iff.mpr hex
      rw [← normalize_strip] at hname
      have hcode := xrplCurrencyCode_eq_ok.mpr (.standard hplain hname hthree)
      exact iff_of_true ((sameCurrency_of_wire hcode (.inl hthree)).mpr (.inl rfl))
        (.letters hplain hthree)
  · by_cases hex : isHex40 (strip code) = true
    · rw [sameCurrency_digits hlength hupper hex hname]
      refine ⟨.digits hex hlength, fun hform => ?_⟩
      cases hform with
      | digits hex' long letters => exact letters
      | letters plain three => omega
      | capitals plain spelled notThree capitals => rw [hex] at plain; cases plain
    · have hplain := Bool.eq_false_iff.mpr hex
      rw [sameCurrency_letters hlength hupper hplain hname]
      constructor
      · rintro ⟨name, hspelled, hthree, hcapitals⟩
        exact .capitals hplain hspelled hthree hcapitals
      · intro hform
        cases hform with
        | digits hex' long letters => exact absurd hex' hex
        | letters plain three => omega
        | capitals plain spelled notThree capitals => exact ⟨_, spelled, notThree, capitals⟩

/-- An entry with the currency of an asset has its name, up to the bytes that
    names leave out. -/
theorem otherName_of_sameCurrency (hwire : xrplCurrencyCode env asset = .ok asset)
    (hsame : SameCurrency env code asset)
    (hname : normalizeCurrencyCode env code ≠ .ok (friendlyCurrency env asset)) :
    OtherName env code asset := by
  have hasset := (wireCode_of_xrplCurrencyCode hwire).isWire
  cases (sameCurrency_iff hasset).mp hsame with
  | hexadecimal hex digits => exact .digits hex digits
  | standard plain normalized three =>
    rw [friendlyCurrency_three hwire three, ← normalize_strip] at hname
    exact absurd normalized hname
  | @padded name bytes plain normalized notThree short ascii digits =>
    by_cases hzero : bytes.getLast? = some 0
    · exact .zeros plain normalized notThree short ascii hzero digits
    · -- the digits spell the name, and the name is in capitals
      have hbytes : bytes.length ≤ 20 := (length_encodeAscii ascii).trans_le short
      obtain ⟨hsmall, hchars⟩ := chars_of_encodeAscii ascii
      have hby : AsciiBy asset name bytes :=
        ⟨digits ▸ fromHexChars_packed hbytes, hbytes, hzero, hsmall, hchars⟩
      have hlong : asset.length = 40 := by rw [← digits, length_packed hbytes]
      rw [friendlyCurrency_long hlong (digits ▸ upperHex_packed env bytes), hby.asciiName_eq,
        Option.elim_some, normalize_capitals normalized, ← normalize_strip] at hname
      exact absurd normalized hname
  | standardForm hcode form => exact .standardForm hcode form

end Forms

/-! ## Section 3: Admitted currencies -/

section Admitted

variable (F : ExactXRPLFacilitatorScheme env) (requirements : PaymentRequirements)

/-- An entry for the issuer has the name of the asset. -/
def NamedByEntry : Prop :=
  ∃ entry ∈ configuredAssets F.settings,
    Dict.get requirements.extraOr "issuer" = .str entry.issuer ∧
      normalizeCurrencyCode env entry.code = .ok (friendlyCurrency env requirements.asset)

/-- An entry for the issuer has the 160-bit value of the asset. -/
def AsksForConfigured : Prop :=
  ∃ entry ∈ configuredAssets F.settings,
    Dict.get requirements.extraOr "issuer" = .str entry.issuer ∧
      SameCurrency env entry.code requirements.asset

/-- An entry for the issuer has the name of the asset and is written in its form. -/
def MatchedInForm : Prop :=
  ∃ entry ∈ configuredAssets F.settings,
    Dict.get requirements.extraOr "issuer" = .str entry.issuer ∧
      normalizeCurrencyCode env entry.code = .ok (friendlyCurrency env requirements.asset) ∧
        SameForm entry.code requirements.asset

/-- An entry for the issuer that the check passes over is another name of the
    asset. -/
def PassedOver : Prop :=
  ∃ entry ∈ configuredAssets F.settings,
    Dict.get requirements.extraOr "issuer" = .str entry.issuer ∧
      normalizeCurrencyCode env entry.code ≠ .ok (friendlyCurrency env requirements.asset) ∧
        OtherName env entry.code requirements.asset

variable {F requirements}

theorem namedByEntry_of_envelope {payload : PaymentPayload} {method : String}
    (h : EnvelopeOk F payload requirements method) (hasset : requirements.asset ≠ "XRP") :
    NamedByEntry F requirements := by
  obtain ⟨issuer, hissuer⟩ := h.shape.issuer hasset
  have hallowed := h.allowed
  simp only [assetAllowed, List.any_eq_true, Bool.and_eq_true, decide_eq_true_eq,
    if_neg hasset] at hallowed
  obtain ⟨asset, hmem, hcode, hsame⟩ := hallowed
  have hkey : asset.issuer = some issuer := by
    rw [hissuer] at hsame
    cases hi : asset.issuer with
    | none =>
      rw [hi] at hsame
      cases hsame
    | some issuer' =>
      rw [hi] at hsame
      exact congrArg some (Json.str.inj hsame)
  obtain ⟨entry, hentry, hnamed, hnormalized⟩ := names_of_supported F hmem hkey
  refine ⟨entry, hentry, ?_, ?_⟩
  · rw [hkey] at hnamed
    rw [hissuer, Option.some.inj hnamed]
  · rw [hnormalized, hcode]

theorem wire_of_envelope {payload : PaymentPayload} {method : String}
    (h : verifyEnvelope F payload requirements = .ok method) :
    xrplCurrencyCode env requirements.asset = .ok requirements.asset := by
  unfold verifyEnvelope at h
  obtain ⟨extra, hshape, -⟩ := bind_eq_ok.mp h
  have hvalid : validateRequirementsShape env requirements = .ok extra := by
    unfold shapeOrRefuse at hshape
    split at hshape
    · next extra' hextra => rw [hextra, Except.ok.inj hshape]
    · split at hshape <;> cases hshape
  exact (shapeOk_of_shape hvalid).wire

end Admitted

/-- The envelope check admits an issued asset when an entry has its name and
    issuer. The entry has its currency exactly when it is written in its form, and
    a configured currency is asked for exactly when that is so or the entry that
    has the currency goes by another name. -/
theorem admits_configured_iff (F : ExactXRPLFacilitatorScheme env) (payload : PaymentPayload)
    (requirements : PaymentRequirements) (method : String)
    (h : verifyEnvelope F payload requirements = .ok method) (hasset : requirements.asset ≠ "XRP") :
    NamedByEntry F requirements ∧
      (∀ entry ∈ configuredAssets F.settings,
        normalizeCurrencyCode env entry.code = .ok (friendlyCurrency env requirements.asset) →
          (SameCurrency env entry.code requirements.asset ↔ SameForm entry.code requirements.asset)) ∧
      (AsksForConfigured F requirements ↔ MatchedInForm F requirements ∨ PassedOver F requirements) := by
  have hwire := wire_of_envelope h
  have hforms : ∀ code, normalizeCurrencyCode env code = .ok (friendlyCurrency env requirements.asset) →
      (SameCurrency env code requirements.asset ↔ SameForm code requirements.asset) :=
    fun code hname => sameCurrency_iff_sameForm hwire hname
  refine ⟨namedByEntry_of_envelope (envelopeOk_of_verifyEnvelope h) hasset,
    fun entry _ => hforms entry.code, ?_, ?_⟩
  · rintro ⟨entry, hentry, hissuer, hsame⟩
    by_cases hname : normalizeCurrencyCode env entry.code = .ok (friendlyCurrency env requirements.asset)
    · have hform := (hforms entry.code hname).mp hsame
      exact .inl ⟨entry, hentry, hissuer, hname, hform⟩
    · have hother := otherName_of_sameCurrency hwire hsame hname
      exact .inr ⟨entry, hentry, hissuer, hname, hother⟩
  · rintro (⟨entry, hentry, hissuer, hname, hform⟩ | ⟨entry, hentry, hissuer, -, hother⟩)
    · exact ⟨entry, hentry, hissuer, (hforms entry.code hname).mpr hform⟩
    · have hspells := (sameCurrency_iff (wireCode_of_xrplCurrencyCode hwire).isWire).mpr hother.spells
      exact ⟨entry, hentry, hissuer, hspells⟩

/-! ### Two assets with one name -/

namespace Sample

/-- Ten units of an asset of the built-in issuer. -/
def issuedRequirements (asset : String) : PaymentRequirements :=
  ⟨"exact", "xrpl:1", asset, "10", "rMerchant", 60,
    some [("issuer", .str rlusdTestnetIssuer), ("areFeesSponsored", .bool false)]⟩

def issuedPayload (asset : String) : PaymentPayload :=
  { payload with accepted := issuedRequirements asset }

/-- The digits of the lower-case name. -/
def lowerCaseHex : String := "726C757364000000000000000000000000000000"

end Sample

/-- Nothing is configured but the built-in asset, and a currency whose digits
    spell its name in lower case is admitted. -/
theorem admits_lower_case :
    verifyEnvelope Sample.facilitator (Sample.issuedPayload Sample.lowerCaseHex)
        (Sample.issuedRequirements Sample.lowerCaseHex) = .ok "sequence" ∧
      configuredAssets Sample.facilitator.settings = [⟨rlusdCode, rlusdTestnetIssuer⟩] ∧
      ¬ AsksForConfigured Sample.facilitator (Sample.issuedRequirements Sample.lowerCaseHex) := by
  have hconfigured : configuredAssets Sample.facilitator.settings =
      [⟨rlusdCode, rlusdTestnetIssuer⟩] := by decide +kernel
  refine ⟨by decide +kernel, hconfigured, ?_⟩
  rintro ⟨entry, hentry, -, wire, value, hwire, hvalue, hvalue'⟩
  rw [hconfigured, List.mem_singleton] at hentry
  have hcode : xrplCurrencyCode Sample.sampleEnv rlusdCode = .ok rlusdHex := by decide +kernel
  rw [hentry, hcode] at hwire
  rw [← Except.ok.inj hwire, ← hvalue'] at hvalue
  exact absurd hvalue (by decide +kernel)

/-- The digits of `RLUSD` are in the form of the built-in code. -/
theorem admits_configured_sample :
    AsksForConfigured Sample.facilitator (Sample.issuedRequirements rlusdHex) := by
  have hiff := (admits_configured_iff Sample.facilitator (Sample.issuedPayload rlusdHex)
    (Sample.issuedRequirements rlusdHex) "sequence" (by decide +kernel) (by decide +kernel)).2.2
  refine hiff.mpr (.inl ⟨⟨rlusdCode, rlusdTestnetIssuer⟩, by decide +kernel, rfl, ?_, ?_⟩)
  · decide +kernel
  · have hplain : isHex40 (strip rlusdCode) = false := by decide +kernel
    have hspelled : asciiName rlusdHex = some "RLUSD" := by decide +kernel
    have hcapitals : "RLUSD".toList.all (fun c => !c.isLower) = true := by decide +kernel
    exact .capitals hplain hspelled (by decide +kernel) fun c hc => by
      simpa using List.all_eq_true.mp hcapitals c hc

end XrplX402.Facilitator
