import XrplX402.Core.SpelledNames
import XrplX402.Core.WireAssets
import XrplX402.Payer.Spend

/-! # The assets that spend limits name

    A limit is built from a wire asset, normalized, and turned back into a wire
    asset for the allow-list. The policy compares normalized names, reads the
    amount of a requirement once its name is that of a limit, and fails as a
    whole when it cannot read one.

    * `Grant`: the arguments that a limit is built from.
    * `Exact`: the limits admit what the grants cover, and nothing else.
    * `exact_iff`: the grants and challenges for which they do. -/

namespace XrplX402.Payer

open Py

variable {env : Env}

/-! ## Section 1: Grants -/

/-- An issued asset of an issuer, up to a cap. -/
structure Grant where
  network : String
  asset : String
  issuer : String
  cap : String
  deriving DecidableEq

/-- An issued asset that the shape check accepts in some requirements. -/
def CanonicalIssued (env : Env) (asset : String) : Prop :=
  asset ≠ xrpCode ∧ ∃ r extra, validateRequirementsShape env r = .ok extra ∧ r.asset = asset

/-- `_explicit_limit` builds this limit from the grant. -/
def Grant.Builds (env : Env) (g : Grant) (limit : XRPLAssetSpendLimit) : Prop :=
  explicitLimit env g.network (some g.asset) (some g.issuer) (some g.cap) = .ok (some limit)

/-- The requirement asks for the asset of the grant, and for no more. -/
def Grant.Covers (env : Env) (g : Grant) (r : PaymentRequirements) : Prop :=
  r.network = g.network ∧ r.asset = g.asset ∧ issuerOf r = .str g.issuer ∧
    decimalLe env r.amount g.cap = .ok true

instance (g : Grant) (r : PaymentRequirements) : Decidable (g.Covers env r) :=
  inferInstanceAs (Decidable (_ ∧ _ ∧ _ ∧ _))

/-- The allow-list names the assets of the grants, and the policy keeps what one
    of the grants covers. -/
structure Exact (env : Env) (grants : List Grant) (limits : List XRPLAssetSpendLimit)
    (challenge : List PaymentRequirements) : Prop where
  allowed : List.Forall₂ (fun g limit => ∃ entry, allowedAsset env limit = .ok entry ∧
    entry.asset = g.asset) grants limits
  kept : spendLimitPolicy env limits challenge =
    .ok (challenge.filter fun r => ∃ g ∈ grants, g.Covers env r)

/-- What the digits of the asset spell, if anything, is in capitals, has no
    blank at an end, and is not a three-character code. -/
def Survives (asset : String) : Prop :=
  ∀ name ∈ spelledName asset,
    (∀ c ∈ name.toList, c.toUpper = c) ∧ strip name = name ∧ name.length ≠ 3

instance (asset : String) : Decidable (Survives asset) :=
  inferInstanceAs (Decidable (∀ name ∈ spelledName asset, _))

/-- The requirement is on the network and of the issuer of the grant, and its
    asset has the normalized name of the asset of the grant. -/
def Grant.Names (env : Env) (g : Grant) (r : PaymentRequirements) : Prop :=
  r.network = g.network ∧ issuerOf r = .str g.issuer ∧
    normalizeCurrencyCode env r.asset = normalizeCurrencyCode env g.asset

instance (g : Grant) (r : PaymentRequirements) : Decidable (g.Names env r) :=
  inferInstanceAs (Decidable (_ ∧ _ ∧ _))

/-- The text is a number. -/
def IsNumber (env : Env) (s : String) : Prop :=
  ∃ d, decimalOfStr env.unicode s = some d ∧ ∀ signaling, d ≠ .nan signaling

/-- The asset is not blank. If a grant names the requirement then its amount is a
    number, and when that is not above the cap, the asset is spelled as in a
    grant that covers it. -/
structure WellOffered (env : Env) (grants : List Grant) (r : PaymentRequirements) : Prop where
  asset : env.unicode.upperStr (strip r.asset) ≠ ""
  amount : ∀ g ∈ grants, g.Names env r → IsNumber env r.amount
  spelling : ∀ g ∈ grants, g.Names env r → decimalLe env r.amount g.cap = .ok true →
    ∃ g' ∈ grants, g'.Covers env r

/-! ## Section 2: Limits -/

/-- What a limit has of the grant it was built from. -/
structure BuiltFrom (env : Env) (g : Grant) (limit : XRPLAssetSpendLimit) : Prop where
  network : limit.network = g.network
  issuer : limit.issuer = some g.issuer
  cap : limit.maxAmount = g.cap
  name : normalizeCurrencyCode env g.asset = .ok limit.asset
  compared : ∃ code, normalizeCurrencyCode env limit.asset = .ok code
  finite : ∃ neg coeff exp, decimalOfStr env.unicode g.cap = some (.finite neg coeff exp)

theorem builtFrom {g : Grant} {limit : XRPLAssetSpendLimit} (h : g.Builds env limit) :
    BuiltFrom env g limit := by
  unfold Grant.Builds explicitLimit at h
  obtain ⟨code, hcode, h⟩ := bind_eq_ok.mp h
  obtain ⟨-, h⟩ := failIf_bind_eq_ok.mp h
  obtain ⟨-, h⟩ := failIf_bind_eq_ok.mp h
  obtain ⟨limit', hnew, h⟩ := bind_eq_ok.mp h
  obtain rfl : limit' = limit := Option.some.inj (Except.ok.inj h)
  -- The limit is for the decoded code, and its cap is a finite number.
  unfold XRPLAssetSpendLimit.new at hnew
  cases hdecimal : decimalOfStr env.unicode g.cap with
  | none =>
    rw [hdecimal] at hnew
    cases hnew
  | some cap =>
    rw [hdecimal] at hnew
    obtain ⟨_, hcap, hnew⟩ := bind_eq_ok.mp hnew
    obtain rfl := Except.ok.inj hcap
    obtain ⟨hfinite, hnew⟩ := failIf_bind_eq_ok.mp hnew
    obtain ⟨compared, hcompared, hnew⟩ := bind_eq_ok.mp hnew
    obtain ⟨-, hnew⟩ := failIf_bind_eq_ok.mp hnew
    rw [← Except.ok.inj hnew]
    refine ⟨rfl, rfl, rfl, hcode, ⟨compared, hcompared⟩, ?_⟩
    cases cap with
    | finite neg coeff exp => exact ⟨neg, coeff, exp, hdecimal⟩
    | infinite neg => exact absurd rfl hfinite
    | nan signaling => exact absurd rfl hfinite

/-- Against a finite cap, an amount can be compared exactly when it is a number. -/
theorem isNumber_iff {amount cap : String}
    (hcap : ∃ neg coeff exp, decimalOfStr env.unicode cap = some (.finite neg coeff exp)) :
    IsNumber env amount ↔ ∃ b, decimalLe env amount cap = .ok b := by
  obtain ⟨neg, coeff, exp, hcap⟩ := hcap
  unfold decimalLe decimal IsNumber
  rw [hcap]
  -- A finite cap can be compared with everything but a NaN.
  cases decimalOfStr env.unicode amount with
  | none =>
    constructor
    · rintro ⟨d, hd, -⟩
      cases hd
    · rintro ⟨b, hb⟩
      cases hb
  | some d =>
    cases d with
    | finite n c e => exact ⟨fun _ => ⟨_, rfl⟩, fun _ => ⟨_, rfl, by simp⟩⟩
    | infinite n => exact ⟨fun _ => ⟨_, rfl⟩, fun _ => ⟨_, rfl, by simp⟩⟩
    | nan signaling =>
      constructor
      · rintro ⟨d, hd, hnan⟩
        exact absurd (Option.some.inj hd).symm (hnan signaling)
      · rintro ⟨b, hb⟩
        cases hb

/-! ## Section 3: Assets that survive -/

theorem stripChars_sublist (p : Char → Bool) (cs : List Char) : (stripChars p cs).Sublist cs := by
  unfold stripChars
  have htail : ((cs.dropWhile p).reverse.dropWhile p).reverse.Sublist (cs.dropWhile p) := by
    rw [← List.reverse_sublist, List.reverse_reverse]
    exact List.dropWhile_sublist p
  exact htail.trans (List.dropWhile_sublist p)

theorem strip_sublist (s : String) : (strip s).toList.Sublist s.toList := by
  rw [strip, String.toList_ofList]
  exact stripChars_sublist isSpace s.toList

/-- Stripping removes nothing from a text, or makes it shorter. -/
theorem strip_of_length {s : String} (h : (strip s).length = s.length) : strip s = s := by
  apply String.toList_injective
  apply (strip_sublist s).eq_of_length
  rw [String.length_toList, String.length_toList, h]

theorem toUpper_printable {n : Nat} (h : 32 ≤ n ∧ n ≤ 126) :
    (Char.ofNat n).toUpper.toUpper = (Char.ofNat n).toUpper ∧
      32 ≤ (Char.ofNat n).toUpper.toNat ∧ (Char.ofNat n).toUpper.toNat ≤ 126 := by
  have hall : ∀ n ∈ List.range 127, 32 ≤ n → (Char.ofNat n).toUpper.toUpper = (Char.ofNat n).toUpper ∧
      32 ≤ (Char.ofNat n).toUpper.toNat ∧ (Char.ofNat n).toUpper.toNat ≤ 126 :=
    List.all_iff_forall_prop.mp (by decide)
  exact hall n (List.mem_range.mpr (by omega)) h.1

section Spelled

variable {asset name : String} {decoded : List UInt8}

/-- The characters of a spelled name can be printed. -/
theorem printable_of_mem (h : SpelledBy asset name decoded) {c : Char} (hc : c ∈ name.toList) :
    32 ≤ c.toNat ∧ c.toNat ≤ 126 := by
  rw [h.chars] at hc
  obtain ⟨b, hb, rfl⟩ := List.mem_map.mp hc
  have hprint := h.printable b hb
  rwa [toNat_ofNat (h.ascii b hb)]

theorem upper_spelled (h : SpelledBy asset name decoded) :
    (env.unicode.upperStr name).toList = name.toList.map Char.toUpper :=
  env.unicode.toList_upperStr h.ascii_of_mem

/-- A short code is normalized by capitals alone. -/
theorem normalize_short {code : String} (hstrip : strip code = code)
    (hne : env.unicode.upperStr code ≠ "") (hshort : (env.unicode.upperStr code).length ≠ 40) :
    normalizeCurrencyCode env code = .ok (env.unicode.upperStr code) := by
  unfold normalizeCurrencyCode
  rw [hstrip]
  simp only [hne, if_false, hshort, false_and]
  rfl

theorem spelled_ne_empty (h : SpelledBy asset name decoded) : name ≠ "" := by
  rintro rfl
  have hlen := h.length_eq
  rw [show ("" : String).length = 0 from rfl] at hlen
  exact h.nonempty (List.length_eq_zero_iff.mp hlen.symm)

/-- A name in capitals without blanks at its ends is packed into its digits. -/
theorem wireCode_of_survives (h : SpelledBy asset name decoded) (hupper : IsUpperHex asset.toList)
    (hcaps : ∀ c ∈ name.toList, c.toUpper = c) (hstrip : strip name = name) (hthree : name.length ≠ 3) :
    WireCode env name asset := by
  -- The name is in capitals and without blanks, so normalizing leaves it alone.
  have hsame : env.unicode.upperStr name = name := by
    apply String.toList_injective
    rw [upper_spelled h, List.map_congr_left hcaps, List.map_id']
  have hlen : name.length ≤ 20 := h.length_eq.trans_le h.short
  have hplain : isHex40 (strip name) = false := by
    rw [← Bool.not_eq_true, isHex40_iff, hstrip]
    rintro ⟨hforty, -⟩
    omega
  have hnorm : normalizeCurrencyCode env (strip name) = .ok name := by
    have hshort : normalizeCurrencyCode env name = .ok (env.unicode.upperStr name) :=
      normalize_short hstrip (by rw [hsame]; exact spelled_ne_empty h) (by rw [hsame]; omega)
    rw [hstrip, hshort, hsame]
  have hpacked : ljustZero 40 (env.unicode.upperStr (hexdigest decoded)) = asset := h.packed env hupper
  rw [← hpacked]
  exact .padded hplain hnorm hthree hlen h.encode

/-- If the capitals of a name are packed into its digits, the name survives. -/
theorem survives_of_wireCode (h : SpelledBy asset name decoded) (hlength : asset.length = 40)
    (hwire : WireCode env (env.unicode.upperStr name) asset) :
    (∀ c ∈ name.toList, c.toUpper = c) ∧ strip name = name ∧ name.length ≠ 3 := by
  have hcapslen : (env.unicode.upperStr name).length = name.length := by
    rw [← String.length_toList, upper_spelled h, List.length_map, String.length_toList]
  have hshort : name.length ≤ 20 := h.length_eq.trans_le h.short
  have hstriplen : (strip (env.unicode.upperStr name)).length ≤ name.length := by
    have hle := (strip_sublist (env.unicode.upperStr name)).length_le
    rwa [String.length_toList, String.length_toList, hcapslen] at hle
  generalize hwired : asset = wire at hwire
  cases hwire with
  | hexadecimal hex =>
    have hforty := (isHex40_iff.mp hex).1
    omega
  | standard plain normalized three =>
    rw [hwired] at hlength
    omega
  | @padded packed bytes plain normalized notThree short ascii =>
    -- The packed name is made of capitals of the printable characters.
    have hchars : ∀ c ∈ (strip (env.unicode.upperStr name)).toList, c.toUpper = c ∧
        32 ≤ c.toNat ∧ c.toNat ≤ 126 := by
      intro c hc
      have hmem := (strip_sublist _).subset hc
      rw [upper_spelled h] at hmem
      obtain ⟨d, hd, rfl⟩ := List.mem_map.mp hmem
      have hup := toUpper_printable (printable_of_mem h hd)
      rwa [Char.ofNat_toNat] at hup
    have hkept : env.unicode.upperStr (strip (env.unicode.upperStr name)) =
        strip (env.unicode.upperStr name) :=
      env.unicode.upperStr_of_upper fun c hc =>
        ⟨Nat.lt_of_le_of_lt (hchars c hc).2.2 (by decide), (hchars c hc).1⟩
    have hpacked : packed = strip (env.unicode.upperStr name) := by
      have hne : env.unicode.upperStr (strip (env.unicode.upperStr name)) ≠ "" := by
        have hex := exists_normalize_iff.mp ⟨_, normalized⟩
        rwa [strip_strip] at hex
      have hnorm := normalize_short (strip_strip (env.unicode.upperStr name)) hne (by rw [hkept]; omega)
      rw [normalized, hkept] at hnorm
      exact Except.ok.inj hnorm
    have hbytes : bytes = decoded := by
      have hchar := (chars_of_encodeAscii ascii).2
      have hnonzero : ∀ b ∈ bytes, b ≠ 0 := by
        rintro b hb rfl
        have hmem : Char.ofNat (0 : UInt8).toNat ∈ packed.toList := by
          rw [hchar]
          exact List.mem_map_of_mem hb
        rw [hpacked] at hmem
        exact absurd (hchars _ hmem).2.1 (by decide)
      have hdigits := h.digits
      rw [hwired, fromHexChars_packed (by rw [length_encodeAscii ascii]; exact short)] at hdigits
      have hstripped := congrArg rstripZero (Option.some.inj hdigits)
      rwa [rstripZero_of_last (fun hlast => hnonzero 0 (List.mem_of_getLast? hlast) rfl),
        h.stripped] at hstripped
    have hname : strip (env.unicode.upperStr name) = name := by
      apply String.toList_injective
      rw [← hpacked, (chars_of_encodeAscii ascii).2, h.chars, hbytes]
    have hcaps : env.unicode.upperStr name = name := by
      have hlen := congrArg String.length hname
      rw [← hcapslen] at hlen
      rw [← strip_of_length hlen, hname]
    rw [hcaps] at hname
    refine ⟨fun c hc => ?_, hname, ?_⟩
    · rw [← hname, ← hcaps] at hc
      exact (hchars c hc).1
    · rwa [hpacked, hcaps, hname] at notThree

end Spelled

theorem isWire_of_canonical {asset : String} (h : CanonicalIssued env asset) :
    xrplCurrencyCode env asset = .ok asset ∧ IsWire asset := by
  obtain ⟨-, r, extra, hshape, rfl⟩ := h
  exact ⟨(shapeOk_of_shape hshape).wire, isWire_of_shape hshape⟩

section Allowed

variable {g : Grant} {limit : XRPLAssetSpendLimit}

theorem allowed_iff_wire (hb : BuiltFrom env g limit) :
    (∃ entry, allowedAsset env limit = .ok entry ∧ entry.asset = g.asset) ↔
      xrplCurrencyCode env limit.asset = .ok g.asset := by
  obtain ⟨code, hcode⟩ := hb.compared
  unfold allowedAsset
  rw [hcode]
  constructor
  · rintro ⟨entry, hentry, hasset⟩
    obtain ⟨asset, hwire, hentry⟩ := bind_eq_ok.mp hentry
    rw [hwire, ← hasset, ← Except.ok.inj hentry]
  · intro hwire
    rw [hwire]
    exact ⟨_, rfl, rfl⟩

/-- The allow-list names the asset of a grant exactly when the asset survives. -/
theorem allowed_iff (hg : CanonicalIssued env g.asset) (hb : BuiltFrom env g limit) :
    (∃ entry, allowedAsset env limit = .ok entry ∧ entry.asset = g.asset) ↔ Survives g.asset := by
  rw [allowed_iff_wire hb]
  -- Three characters are their own code; of 40 digits the text that they spell is packed again.
  obtain ⟨hwire, hthree | ⟨hlong, hupper⟩⟩ := isWire_of_canonical hg
  · have hname := hb.name
    rw [normalize_three hwire hthree] at hname
    have hnone : spelledName g.asset = none := by
      unfold spelledName
      rw [if_neg (by omega)]
    rw [← Except.ok.inj hname]
    refine ⟨fun _ name hname => ?_, fun _ => hwire⟩
    rw [hnone] at hname
    cases hname
  · have hname := hb.name
    rw [normalize_of_upperHex hlong hupper] at hname
    rw [← Except.ok.inj hname]
    rcases spelledName_cases hlong hupper with ⟨name, decoded, hspelled, h⟩ | ⟨hnone, -⟩
    · rw [hspelled]
      constructor
      · intro hcode name' hname'
        rw [hspelled] at hname'
        rw [← Option.some.inj hname']
        exact survives_of_wireCode h hlong (wireCode_of_xrplCurrencyCode hcode)
      · intro hsurvives
        obtain ⟨hcaps, hstrip, hthree⟩ := hsurvives name hspelled
        have hsame : env.unicode.upperStr name = name := by
          apply String.toList_injective
          rw [upper_spelled h, List.map_congr_left hcaps, List.map_id']
        show xrplCurrencyCode env (env.unicode.upperStr name) = _
        rw [hsame]
        exact xrplCurrencyCode_eq_ok.mpr (wireCode_of_survives h hupper hcaps hstrip hthree)
    -- Digits that spell nothing stay as they are.
    · rw [hnone]
      refine ⟨fun _ name hname' => ?_, fun _ => hwire⟩
      rw [hnone] at hname'
      cases hname'

/-- The name of a surviving asset is its own normal form. -/
theorem compared_of_survives (hg : CanonicalIssued env g.asset) (hb : BuiltFrom env g limit)
    (hs : Survives g.asset) : normalizeCurrencyCode env limit.asset = .ok limit.asset := by
  obtain ⟨hwire, hthree | ⟨hlong, hupper⟩⟩ := isWire_of_canonical hg
  · have hname := hb.name
    rw [normalize_three hwire hthree] at hname
    rw [← Except.ok.inj hname]
    exact normalize_three hwire hthree
  · have hname := hb.name
    rw [normalize_of_upperHex hlong hupper] at hname
    rw [← Except.ok.inj hname]
    rcases spelledName_cases hlong hupper with ⟨name, decoded, hspelled, h⟩ | ⟨hnone, -⟩
    · obtain ⟨hcaps, hstrip, -⟩ := hs name hspelled
      have hsame : env.unicode.upperStr name = name := by
        apply String.toList_injective
        rw [upper_spelled h, List.map_congr_left hcaps, List.map_id']
      have hshort : normalizeCurrencyCode env name = .ok (env.unicode.upperStr name) :=
        normalize_short hstrip (by rw [hsame]; exact spelled_ne_empty h)
          (by rw [hsame, h.length_eq]; have := h.short; omega)
      rw [hspelled]
      show normalizeCurrencyCode env (env.unicode.upperStr name) = .ok (env.unicode.upperStr name)
      rw [hsame, hshort, hsame]
    · have hself : normalizeCurrencyCode env g.asset =
          .ok ((spelledName g.asset).elim g.asset env.unicode.upperStr) := normalize_of_upperHex hlong hupper
      rw [hnone] at hself ⊢
      exact hself

end Allowed

/-! ## Section 4: The policy -/

section Policy

variable {r : PaymentRequirements} {code : String} {grants : List Grant}
variable {limits : List XRPLAssetSpendLimit}

/-- The limit has been built from the grant, whose asset survives. -/
def Made (env : Env) (g : Grant) (limit : XRPLAssetSpendLimit) : Prop :=
  BuiltFrom env g limit ∧ normalizeCurrencyCode env limit.asset = .ok limit.asset

/-- A limit that comes first is skipped, or decides with the amount. -/
theorem withinSome_cons {g : Grant} {limit : XRPLAssetSpendLimit} (hm : Made env g limit)
    (hcode : normalizeCurrencyCode env r.asset = .ok code) :
    withinSome env r code (limit :: limits) =
      if g.Names env r then do
        let affordable ← decimalLe env r.amount g.cap
        if affordable then return true else withinSome env r code limits
      else withinSome env r code limits := by
  obtain ⟨hb, hself⟩ := hm
  -- The policy compares what the grant names.
  have hnames : g.Names env r ↔ r.network = limit.network ∧ code = limit.asset ∧
      issuerOf r = optStr limit.issuer := by
    unfold Grant.Names
    rw [hb.network, hb.issuer, hcode, hb.name, Except.ok.injEq]
    exact ⟨fun ⟨hn, hi, hc⟩ => ⟨hn, hc, hi⟩, fun ⟨hn, hc, hi⟩ => ⟨hn, hi, hc⟩⟩
  rw [withinSome, hself, hb.cap]
  by_cases hnet : r.network = limit.network
  · rw [if_neg (not_not.mpr hnet)]
    show (if code ≠ limit.asset ∨ issuerOf r ≠ optStr limit.issuer then _ else _) = _
    by_cases hrest : code = limit.asset ∧ issuerOf r = optStr limit.issuer
    · have hnot : ¬ (code ≠ limit.asset ∨ issuerOf r ≠ optStr limit.issuer) :=
        fun h => h.elim (fun hc => hc hrest.1) (fun hi => hi hrest.2)
      rw [if_neg hnot, if_pos (hnames.mpr ⟨hnet, hrest⟩)]
    · rw [if_pos (not_and_or.mp hrest), if_neg fun h => hrest (hnames.mp h).2]
  · rw [if_pos hnet, if_neg fun h => hnet (hnames.mp h).1]

/-- Once the amount of a named requirement is a number, the first grant that
    names it and affords it decides. -/
theorem withinSome_eq (hm : List.Forall₂ (Made env) grants limits)
    (hcode : normalizeCurrencyCode env r.asset = .ok code)
    (hnumber : ∀ g ∈ grants, g.Names env r → IsNumber env r.amount) :
    withinSome env r code limits = .ok (decide (∃ g ∈ grants, g.Names env r ∧
      decimalLe env r.amount g.cap = .ok true)) := by
  induction hm with
  | nil => simp [withinSome]
  | @cons g limit grants limits hg _ ih =>
    have hrest := ih fun g' hg' => hnumber g' (List.mem_cons_of_mem _ hg')
    rw [withinSome_cons hg hcode, hrest]
    by_cases hnames : g.Names env r
    · obtain ⟨affordable, hle⟩ := (isNumber_iff hg.1.finite).mp (hnumber g List.mem_cons_self hnames)
      rw [if_pos hnames, hle]
      cases affordable with
      | true =>
        have hfound : ∃ g' ∈ g :: grants, g'.Names env r ∧ decimalLe env r.amount g'.cap = .ok true :=
          ⟨g, List.mem_cons_self, hnames, hle⟩
        rw [decide_eq_true hfound]
        rfl
      | false =>
        have hsame : (∃ g' ∈ g :: grants, g'.Names env r ∧ decimalLe env r.amount g'.cap = .ok true) ↔
            ∃ g' ∈ grants, g'.Names env r ∧ decimalLe env r.amount g'.cap = .ok true := by
          rw [List.exists_mem_cons_iff, hle]
          simp
        rw [decide_eq_decide.mpr hsame]
        rfl
    · simp [hnames]

theorem isNumber_of_withinSome (hm : List.Forall₂ (Made env) grants limits)
    (hcode : normalizeCurrencyCode env r.asset = .ok code) {b : Bool}
    (h : withinSome env r code limits = .ok b) {g : Grant} (hg : g ∈ grants) (hnames : g.Names env r) :
    IsNumber env r.amount := by
  induction hm with
  | nil => cases hg
  | @cons g₀ limit grants limits hg₀ _ ih =>
    rw [withinSome_cons hg₀ hcode] at h
    by_cases hnames₀ : g₀.Names env r
    · rw [if_pos hnames₀] at h
      obtain ⟨affordable, hle, -⟩ := bind_eq_ok.mp h
      exact (isNumber_iff hg₀.1.finite).mpr ⟨affordable, hle⟩
    · rw [if_neg hnames₀] at h
      rcases List.mem_cons.mp hg with rfl | hg
      · exact absurd hnames hnames₀
      · exact ih h hg

theorem Grant.Covers.names {g : Grant} (h : g.Covers env r) : g.Names env r := by
  obtain ⟨hnet, hasset, hissuer, -⟩ := h
  exact ⟨hnet, hissuer, by rw [hasset]⟩

/-- The test that the policy makes. -/
def keepsRequirement (env : Env) (limits : List XRPLAssetSpendLimit) (r : PaymentRequirements) :
    Except Exc Bool := do
  let code ← normalizeCurrencyCode env r.asset
  withinSome env r code limits

/-- A requirement is kept when a grant covers it and dropped otherwise, exactly
    when it is well offered. -/
theorem keepsRequirement_iff (hm : List.Forall₂ (Made env) grants limits) (r : PaymentRequirements) :
    keepsRequirement env limits r = .ok (decide (∃ g ∈ grants, g.Covers env r)) ↔
      WellOffered env grants r := by
  constructor
  · intro h
    obtain ⟨code, hcode, h⟩ := bind_eq_ok.mp h
    have hnumber : ∀ g ∈ grants, g.Names env r → IsNumber env r.amount :=
      fun g hg hnames => isNumber_of_withinSome hm hcode h hg hnames
    refine ⟨exists_normalize_iff.mp ⟨code, hcode⟩, hnumber, ?_⟩
    intro g hg hnames hle
    rw [withinSome_eq hm hcode hnumber] at h
    have hfound : ∃ g ∈ grants, g.Names env r ∧ decimalLe env r.amount g.cap = .ok true :=
      ⟨g, hg, hnames, hle⟩
    rw [decide_eq_true hfound] at h
    exact of_decide_eq_true (Except.ok.inj h).symm
  · intro h
    obtain ⟨code, hcode⟩ := exists_normalize_iff.mpr h.asset
    have hsame : (∃ g ∈ grants, g.Names env r ∧ decimalLe env r.amount g.cap = .ok true) ↔
        ∃ g ∈ grants, g.Covers env r := by
      constructor
      · rintro ⟨g, hg, hnames, hle⟩
        exact h.spelling g hg hnames hle
      · rintro ⟨g, hg, hcovers⟩
        exact ⟨g, hg, hcovers.names, hcovers.2.2.2⟩
    unfold keepsRequirement
    rw [hcode]
    show withinSome env r code limits = _
    rw [withinSome_eq hm hcode h.amount, decide_eq_decide.mpr hsame]

end Policy

/-- A filter of fallible tests is a plain filter when every test decides so. -/
theorem keepWhere_eq_filter_iff {α : Type} {test : α → Except Exc Bool} {p : α → Bool} {as : List α} :
    keepWhere test as = .ok (as.filter p) ↔ ∀ a ∈ as, test a = .ok (p a) := by
  constructor
  · intro h
    induction as with
    | nil => simp
    | cons a as ih =>
      obtain ⟨keep, hkeep, h⟩ := bind_eq_ok.mp h
      obtain ⟨rest, hrest, h⟩ := bind_eq_ok.mp h
      have hkept : (if keep then a :: rest else rest) = (a :: as).filter p := Except.ok.inj h
      have hsplit : keep = p a ∧ rest = as.filter p := by
        cases keep with
        | true =>
          cases hp : p a with
          | true =>
            rw [List.filter_cons_of_pos hp, if_pos rfl] at hkept
            exact ⟨rfl, (List.cons.inj hkept).2⟩
          | false =>
            -- The kept element would satisfy the filter.
            rw [List.filter_cons_of_neg (by simp [hp]), if_pos rfl] at hkept
            have hmem : a ∈ as.filter p := hkept ▸ List.mem_cons_self
            rw [(List.mem_filter.mp hmem).2] at hp
            cases hp
        | false =>
          cases hp : p a with
          | true =>
            -- The dropped element would be kept further on.
            rw [List.filter_cons_of_pos hp, if_neg (by simp)] at hkept
            have hmem : a ∈ rest := hkept ▸ List.mem_cons_self
            rw [of_mem_keepWhere hrest hmem] at hkeep
            cases hkeep
          | false =>
            rw [List.filter_cons_of_neg (by simp [hp]), if_neg (by simp)] at hkept
            exact ⟨rfl, hkept⟩
      obtain ⟨rfl, rfl⟩ := hsplit
      intro x hx
      rcases List.mem_cons.mp hx with rfl | hx
      · exact hkeep
      · exact ih hrest x hx
  · intro h
    induction as with
    | nil => rfl
    | cons a as ih =>
      have hrest := ih fun x hx => h x (List.mem_cons_of_mem _ hx)
      refine bind_eq_ok.mpr ⟨p a, h a List.mem_cons_self, bind_eq_ok.mpr ⟨_, hrest, ?_⟩⟩
      cases hp : p a <;> simp [hp, pure, Except.pure]

/-- Limits that are built from grants for canonical issued assets admit exactly
    what the grants cover if and only if the assets survive and the requirements
    of the challenge are well offered. -/
theorem exact_iff (env : Env) (grants : List Grant) (limits : List XRPLAssetSpendLimit)
    (challenge : List PaymentRequirements)
    (hcanonical : ∀ g ∈ grants, CanonicalIssued env g.asset)
    (hbuilds : List.Forall₂ (Grant.Builds env) grants limits) :
    Exact env grants limits challenge ↔
      (∀ g ∈ grants, Survives g.asset) ∧ ∀ r ∈ challenge, WellOffered env grants r := by
  have hmade : (∀ g ∈ grants, Survives g.asset) → List.Forall₂ (Made env) grants limits := by
    intro hsurvives
    induction hbuilds with
    | nil => exact .nil
    | @cons g limit grants limits hg _ ih =>
      have hb := builtFrom hg
      have hself := compared_of_survives (hcanonical g List.mem_cons_self) hb
        (hsurvives g List.mem_cons_self)
      exact .cons ⟨hb, hself⟩ (ih (fun x hx => hcanonical x (List.mem_cons_of_mem _ hx))
        fun x hx => hsurvives x (List.mem_cons_of_mem _ hx))
  have hallowed : List.Forall₂ (fun g limit => ∃ entry, allowedAsset env limit = .ok entry ∧
      entry.asset = g.asset) grants limits ↔ ∀ g ∈ grants, Survives g.asset := by
    clear hmade
    induction hbuilds with
    | nil => simp
    | @cons g limit grants limits hg _ ih =>
      have hfirst := allowed_iff (hcanonical g List.mem_cons_self) (builtFrom hg)
      rw [List.forall₂_cons, List.forall_mem_cons, hfirst,
        ih fun x hx => hcanonical x (List.mem_cons_of_mem _ hx)]
  constructor
  · rintro ⟨hallow, hkept⟩
    have hsurvives := hallowed.mp hallow
    refine ⟨hsurvives, fun r hr => ?_⟩
    exact (keepsRequirement_iff (hmade hsurvives) r).mp (keepWhere_eq_filter_iff.mp hkept r hr)
  · rintro ⟨hsurvives, hoffered⟩
    refine ⟨hallowed.mpr hsurvives, keepWhere_eq_filter_iff.mpr fun r hr => ?_⟩
    exact (keepsRequirement_iff (hmade hsurvives) r).mpr (hoffered r hr)

/-! ### Names in capitals and names that are not -/

namespace Sample

open XrplX402.Sample

/-- The digits of `GOLD` and of `gold`. -/
def goldHex : String := "474F4C4400000000000000000000000000000000"

def lowerGoldHex : String := "676F6C6400000000000000000000000000000000"

/-- Up to twenty units of an asset of the sample issuer. -/
def upToTwenty (asset : String) : Grant := ⟨"xrpl:1", asset, "rIssuer", "20"⟩

def goldLimit : XRPLAssetSpendLimit := ⟨"xrpl:1", "GOLD", "20", some "rIssuer"⟩

theorem canonical_gold : CanonicalIssued shapeEnv goldHex ∧ CanonicalIssued shapeEnv lowerGoldHex :=
  ⟨⟨by decide, tenOf goldHex, tenOfExtra, by decide +kernel, rfl⟩,
    ⟨by decide, tenOf lowerGoldHex, tenOfExtra, by decide +kernel, rfl⟩⟩

theorem builds_gold : (upToTwenty goldHex).Builds shapeEnv goldLimit ∧
    (upToTwenty lowerGoldHex).Builds shapeEnv goldLimit :=
  ⟨show explicitLimit _ _ _ _ _ = _ by decide +kernel, show explicitLimit _ _ _ _ _ = _ by decide +kernel⟩

theorem survives_gold : Survives goldHex := by
  have hname : spelledName goldHex = some "GOLD" := by decide +kernel
  intro name hmem
  rw [hname] at hmem
  rw [← Option.some.inj hmem]
  exact ⟨List.all_iff_forall_prop.mp (by decide), by decide, by decide⟩

end Sample

open XrplX402.Sample in
/-- The limit for `gold` allows `GOLD`; the limit for `GOLD` keeps a requirement
    for `gold`, and a blank asset beside it makes the policy fail. -/
theorem limit_names_another_asset :
    (Sample.upToTwenty Sample.lowerGoldHex).Builds shapeEnv Sample.goldLimit ∧
      CanonicalIssued shapeEnv Sample.lowerGoldHex ∧
      ¬ Exact shapeEnv [Sample.upToTwenty Sample.lowerGoldHex] [Sample.goldLimit] [] ∧
      (Sample.upToTwenty Sample.goldHex).Builds shapeEnv Sample.goldLimit ∧
      CanonicalIssued shapeEnv Sample.goldHex ∧
      ¬ Exact shapeEnv [Sample.upToTwenty Sample.goldHex] [Sample.goldLimit] [tenOf Sample.lowerGoldHex] ∧
      ¬ Exact shapeEnv [Sample.upToTwenty Sample.goldHex] [Sample.goldLimit]
        [tenOf "", tenOf Sample.goldHex] := by
  refine ⟨Sample.builds_gold.2, Sample.canonical_gold.2, fun h => ?_, Sample.builds_gold.1,
    Sample.canonical_gold.1, fun h => absurd h.kept (by decide +kernel),
    fun h => absurd h.kept (by decide +kernel)⟩
  obtain ⟨entry, hentry, hasset⟩ := (List.forall₂_cons.mp h.allowed).1
  have hallowed : allowedAsset shapeEnv Sample.goldLimit = .ok ⟨"xrpl:1", Sample.goldHex, none⟩ := by
    decide +kernel
  rw [hallowed] at hentry
  rw [← Except.ok.inj hentry] at hasset
  exact absurd hasset (by decide)

open XrplX402.Sample in
theorem exact_iff_sample :
    Exact shapeEnv [Sample.upToTwenty Sample.goldHex] [Sample.goldLimit] [tenOf Sample.goldHex] := by
  have hbuilds : List.Forall₂ (Grant.Builds shapeEnv) [Sample.upToTwenty Sample.goldHex]
      [Sample.goldLimit] := .cons Sample.builds_gold.1 .nil
  have hiff := exact_iff shapeEnv [Sample.upToTwenty Sample.goldHex] [Sample.goldLimit]
    [tenOf Sample.goldHex] (List.forall_mem_singleton.mpr Sample.canonical_gold.1) hbuilds
  refine hiff.mpr ⟨List.forall_mem_singleton.mpr Sample.survives_gold,
    List.forall_mem_singleton.mpr ?_⟩
  have hcovers : (Sample.upToTwenty Sample.goldHex).Covers shapeEnv (tenOf Sample.goldHex) :=
    ⟨rfl, rfl, rfl, by decide +kernel⟩
  refine ⟨by decide +kernel, fun _ _ _ => ⟨.finite false 10 0, by decide +kernel, by decide⟩, ?_⟩
  intro _ _ _ _
  exact ⟨_, List.mem_singleton_self _, hcovers⟩

end XrplX402.Payer
