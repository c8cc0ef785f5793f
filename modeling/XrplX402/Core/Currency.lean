import XrplX402.Core.Helpers
import XrplX402.Core.Hex

/-! # Currency codes on the ledger

    A wire code has three characters or 40 upper-case hexadecimal digits, and
    stands for a value of 160 bits.

    * `WireCode`: the three ways in which `xrplCurrencyCode` makes a wire code
      out of a written one.
    * `currencyValue`: the value of a wire code.
    * `Spells`: a written code and a wire code with one value, told from the
      texts alone. -/

namespace XrplX402

open Py

variable {env : Env}

/-! ## Section 1: Hexadecimal digits of either case -/

theorem hexDigit_upper {c : Char} (h : isHexDigit c = true) :
    c.toNat < 128 ∧ isUpperHexDigit c.toUpper = true ∧ isSpace c = false := by
  have hrange : c.toNat < 128 := by
    by_contra hlarge
    simp only [isHexDigit, hexValue?, Char.le_def, UInt32.le_iff_toNat_le] at h
    have hc : c.toNat = c.val.toNat := rfl
    have h9 : ('9' : Char).val.toNat = 57 := by decide
    have hf : ('f' : Char).val.toNat = 102 := by decide
    have hF : ('F' : Char).val.toNat = 70 := by decide
    rw [if_neg (by omega), if_neg (by omega), if_neg (by omega)] at h
    cases h
  have hall := forall_ascii (fun c => isHexDigit c = true →
    isUpperHexDigit c.toUpper = true ∧ isSpace c = false) (by decide) hrange
  exact ⟨hrange, hall h⟩

/-- Capitals of hexadecimal digits. -/
theorem upperStr_hex (u : UnicodeData) {s : String} (h : ∀ c ∈ s.toList, isHexDigit c = true) :
    (u.upperStr s).toList = s.toList.map Char.toUpper ∧ IsUpperHex (u.upperStr s).toList := by
  have hlist : (u.upperStr s).toList = s.toList.map Char.toUpper := by
    rw [UnicodeData.upperStr, String.toList_ofList,
      u.flatMap_upper fun c hc => (hexDigit_upper (h c hc)).1]
  refine ⟨hlist, ?_⟩
  intro c hc
  rw [hlist] at hc
  obtain ⟨d, hd, rfl⟩ := List.mem_map.mp hc
  exact (hexDigit_upper (h d hd)).2.1

theorem isHexDigit_hexDigitChars : ∀ c ∈ hexDigitChars, isHexDigit c = true :=
  List.all_iff_forall_prop.mp (by decide)

theorem length_hexChars (bs : List UInt8) : (hexChars bs).length = 2 * bs.length := by
  induction bs with
  | nil => rfl
  | cons b bs ih =>
    have hcons : hexChars (b :: bs) = hexDigitChar (b.toNat / 16) :: hexDigitChar (b.toNat % 16) ::
        hexChars bs := rfl
    rw [hcons, List.length_cons, List.length_cons, List.length_cons, ih]
    omega

/-! ## Section 2: Wire codes -/

/-- `len(s) == 40 and set(s) <= _HEX_DIGITS` -/
def isHex40 (s : String) : Bool := s.length = 40 && s.toList.all isHexDigit

theorem isHex40_iff {s : String} :
    isHex40 s = true ↔ s.length = 40 ∧ s.toList.all isHexDigit = true := by
  simp [isHex40]

/-- How a written code becomes a wire code. -/
inductive WireCode (env : Env) (code : String) : String → Prop where
  | hexadecimal (hex : isHex40 (strip code) = true) :
      WireCode env code (env.unicode.upperStr (strip code))
  | standard {name : String} (plain : isHex40 (strip code) = false)
      (normalized : normalizeCurrencyCode env (strip code) = .ok name) (three : name.length = 3) :
      WireCode env code name
  | padded {name : String} {bytes : List UInt8} (plain : isHex40 (strip code) = false)
      (normalized : normalizeCurrencyCode env (strip code) = .ok name) (notThree : name.length ≠ 3)
      (short : name.length ≤ 20) (ascii : encodeAscii name = .ok bytes) :
      WireCode env code (ljustZero 40 (env.unicode.upperStr (hexdigest bytes)))

theorem wireCode_of_xrplCurrencyCode {code wire : String}
    (h : xrplCurrencyCode env code = .ok wire) : WireCode env code wire := by
  unfold xrplCurrencyCode at h
  by_cases hempty : strip code = ""
  · simp [hempty] at h
    cases h
  by_cases hhex : (strip code).length = 40 ∧ (strip code).toList.all isHexDigit = true
  · simp only [hempty, if_false, hhex, and_self, if_true] at h
    have hwire : env.unicode.upperStr (strip code) = wire := Except.ok.inj h
    rw [← hwire]
    exact .hexadecimal (isHex40_iff.mpr hhex)
  have hplain : isHex40 (strip code) = false := by
    rw [← Bool.not_eq_true]
    exact fun hh => hhex (isHex40_iff.mp hh)
  simp only [hempty, if_false, hhex] at h
  obtain ⟨name, hname, h⟩ := bind_eq_ok.mp h
  by_cases hthree : name.length = 3
  · simp only [hthree, if_true] at h
    obtain rfl : name = wire := Except.ok.inj h
    exact .standard hplain hname hthree
  by_cases hlong : 20 < name.length
  · simp only [hthree, hlong, if_false, if_true] at h
    cases h
  · simp only [hthree, hlong, if_false] at h
    obtain ⟨bytes, hbytes, h⟩ := bind_eq_ok.mp h
    have hwire : ljustZero 40 (env.unicode.upperStr (hexdigest bytes)) = wire := Except.ok.inj h
    rw [← hwire]
    exact .padded hplain hname hthree (by omega) hbytes

/-- Three characters, or 40 upper-case digits. -/
def IsWire (wire : String) : Prop :=
  wire.length = 3 ∨ (wire.length = 40 ∧ IsUpperHex wire.toList)

theorem upperHex_hexdigest (env : Env) (bytes : List UInt8) :
    (env.unicode.upperStr (hexdigest bytes)).toList = (hexChars bytes).map Char.toUpper ∧
      IsUpperHex (env.unicode.upperStr (hexdigest bytes)).toList := by
  have hhex : ∀ c ∈ (hexdigest bytes).toList, isHexDigit c = true := by
    intro c hc
    rw [hexdigest, String.toList_ofList] at hc
    exact isHexDigit_hexDigitChars c (hexChars_mem hc)
  have hupper := upperStr_hex env.unicode hhex
  rwa [hexdigest, String.toList_ofList] at hupper

theorem toList_ljustZero (width : Nat) (s : String) :
    (ljustZero width s).toList = s.toList ++ List.replicate (width - s.length) '0' := by
  rw [ljustZero, String.toList_ofList]

theorem length_encodeAscii {s : String} {bytes : List UInt8} (h : encodeAscii s = .ok bytes) :
    bytes.length = s.length := by
  unfold encodeAscii at h
  split at h
  · rw [← Except.ok.inj h, List.length_map, String.length_toList]
  · cases h

theorem WireCode.isWire {code wire : String} (h : WireCode env code wire) : IsWire wire := by
  cases h with
  | hexadecimal hex =>
    obtain ⟨hlen, hall⟩ := isHex40_iff.mp hex
    obtain ⟨hlist, hupper⟩ := upperStr_hex env.unicode (List.all_eq_true.mp hall)
    refine .inr ⟨?_, hupper⟩
    rw [← String.length_toList, hlist, List.length_map, String.length_toList, hlen]
  | standard plain normalized three => exact .inl three
  | @padded name bytes plain normalized notThree short ascii =>
    obtain ⟨hlist, hupper⟩ := upperHex_hexdigest env bytes
    have hzero : IsUpperHex (List.replicate (40 - (env.unicode.upperStr (hexdigest bytes)).length)
        '0') := by
      intro c hc
      rw [List.eq_of_mem_replicate hc]
      decide
    refine .inr ⟨?_, ?_⟩
    · have hlen : (env.unicode.upperStr (hexdigest bytes)).length = 2 * bytes.length := by
        rw [← String.length_toList, hlist, List.length_map, length_hexChars]
      have hbytes := length_encodeAscii ascii
      rw [← String.length_toList, toList_ljustZero, List.length_append, List.length_replicate,
        String.length_toList]
      omega
    · rw [toList_ljustZero]
      exact hupper.append hzero

/-! ## Section 3: The value of a wire code -/

/-- The 20 bytes of a currency: twelve zero bytes, the three characters and five
    zero bytes; or the bytes that 40 digits stand for. -/
def currencyValue (wire : String) : Option (List Nat) :=
  if wire.length = 3 then
    some (List.replicate 12 0 ++ wire.toList.map Char.toNat ++ List.replicate 5 0)
  else if wire.length = 40 then (fromHexChars wire.toList).map (List.map UInt8.toNat)
  else none

/-- `long` is the hexadecimal form of the three-character code `short`. -/
def IsStandardForm (short long : String) : Prop :=
  short.length = 3 ∧ long.length = 40 ∧ ∃ bytes, fromHexChars long.toList = some bytes ∧
    bytes.map UInt8.toNat =
      List.replicate 12 0 ++ short.toList.map Char.toNat ++ List.replicate 5 0

theorem currencyValue_isWire {wire : String} (h : IsWire wire) :
    ∃ value, currencyValue wire = some value := by
  rcases h with h | ⟨h, hupper⟩
  · exact ⟨_, if_pos h⟩
  · have heven : wire.toList.length % 2 = 0 := by
      rw [String.length_toList, h]
    obtain ⟨bytes, hbytes, -⟩ := exists_fromHexChars hupper heven
    refine ⟨bytes.map UInt8.toNat, ?_⟩
    rw [currencyValue, if_neg (by omega), if_pos h, hbytes]
    rfl

theorem currencyValue_long {wire : String} (h : wire.length = 40) {value : List Nat} :
    currencyValue wire = some value ↔
      ∃ bytes, fromHexChars wire.toList = some bytes ∧ bytes.map UInt8.toNat = value := by
  rw [currencyValue, if_neg (by omega), if_pos h, Option.map_eq_some_iff]

/-- Two wire codes with one value are the same text, or one is the standard form
    of the other. -/
theorem currencyValue_eq_iff {a b : String} (ha : IsWire a) (hb : IsWire b) :
    currencyValue a = currencyValue b ↔ a = b ∨ IsStandardForm a b ∨ IsStandardForm b a := by
  constructor
  · intro h
    rcases ha with ha | ⟨ha, hupper⟩
    · rcases hb with hb | ⟨hb, -⟩
      · -- Both have three characters.
        have hlist : a.toList.map Char.toNat = b.toList.map Char.toNat := by
          simpa [currencyValue, ha, hb] using h
        have hinj : Function.Injective Char.toNat := fun c d hcd => by
          rw [← Char.ofNat_toNat c, hcd, Char.ofNat_toNat]
        exact .inl (String.ext (List.map_injective_iff.mpr hinj hlist))
      · rw [currencyValue, if_pos ha, eq_comm, currencyValue_long hb] at h
        exact .inr (.inl ⟨ha, hb, h⟩)
    · rcases hb with hb | ⟨hb, hupper'⟩
      · have h' := h
        rw [eq_comm, currencyValue, if_pos hb, eq_comm, currencyValue_long ha] at h'
        exact .inr (.inr ⟨hb, ha, h'⟩)
      · -- Both have 40 digits, which the bytes determine.
        obtain ⟨value, hvalue⟩ := currencyValue_isWire (.inr ⟨hb, hupper'⟩)
        obtain ⟨bytes, hbytes, hmap⟩ := (currencyValue_long ha).mp (h.trans hvalue)
        obtain ⟨bytes', hbytes', hmap'⟩ := (currencyValue_long hb).mp hvalue
        have hinj : Function.Injective UInt8.toNat := fun x y => UInt8.toNat_inj.mp
        have hsame : bytes = bytes' := List.map_injective_iff.mpr hinj (hmap.trans hmap'.symm)
        rw [hsame] at hbytes
        exact .inl (String.ext (fromHexChars_inj hupper hupper' hbytes hbytes'))
  · have hform : ∀ x y, IsStandardForm x y → currencyValue x = currencyValue y := by
      rintro x y ⟨hx, hy, hbytes⟩
      rw [(currencyValue_long hy).mpr hbytes, currencyValue, if_pos hx]
    rintro (rfl | h | h)
    · rfl
    · exact hform a b h
    · exact (hform b a h).symm

/-! ## Section 4: Written codes -/

/-- The wire code of a written code has the value of `asset`. -/
def SameCurrency (env : Env) (code asset : String) : Prop :=
  ∃ wire value, xrplCurrencyCode env code = .ok wire ∧ currencyValue wire = some value ∧
    currencyValue asset = some value

/-- The written code spells the wire code `asset`. -/
inductive Spells (env : Env) (code asset : String) : Prop where
  /-- The same 40 digits, in either case. -/
  | hexadecimal (hex : isHex40 (strip code) = true)
      (digits : env.unicode.upperStr (strip code) = asset)
  /-- The same three characters, once they are capitals. -/
  | standard (plain : isHex40 (strip code) = false)
      (normalized : normalizeCurrencyCode env (strip code) = .ok asset) (three : asset.length = 3)
  /-- A longer or shorter name, whose capitals are the digits of `asset`. -/
  | padded {name : String} {bytes : List UInt8} (plain : isHex40 (strip code) = false)
      (normalized : normalizeCurrencyCode env (strip code) = .ok name) (notThree : name.length ≠ 3)
      (short : name.length ≤ 20) (ascii : encodeAscii name = .ok bytes)
      (digits : ljustZero 40 (env.unicode.upperStr (hexdigest bytes)) = asset)
  /-- One is a three-character code, the other its standard form. -/
  | standardForm {wire : String} (code : xrplCurrencyCode env code = .ok wire)
      (form : IsStandardForm wire asset ∨ IsStandardForm asset wire)

theorem ne_empty_of_isHex40 {s : String} (h : isHex40 s = true) : s ≠ "" := by
  rintro rfl
  cases h

theorem xrplCurrencyCode_eq_ok {code wire : String} :
    xrplCurrencyCode env code = .ok wire ↔ WireCode env code wire := by
  refine ⟨wireCode_of_xrplCurrencyCode, ?_⟩
  have hplain : isHex40 (strip code) = false →
      ¬ ((strip code).length = 40 ∧ (strip code).toList.all isHexDigit = true) := by
    intro hp hh
    rw [isHex40_iff.mpr hh] at hp
    cases hp
  have hnonempty : ∀ {name}, normalizeCurrencyCode env (strip code) = .ok name →
      strip code ≠ "" := by
    intro name hname hempty
    rw [hempty] at hname
    cases hname
  intro h
  unfold xrplCurrencyCode
  cases h with
  | hexadecimal hex =>
    simp only [ne_empty_of_isHex40 hex, if_false, isHex40_iff.mp hex, and_self, if_true]
    rfl
  | standard plain normalized three =>
    simp only [hnonempty normalized, if_false, hplain plain, normalized]
    change (if _ then _ else _) = _
    rw [if_pos three]
    rfl
  | padded plain normalized notThree short ascii =>
    simp only [hnonempty normalized, if_false, hplain plain, normalized]
    change (if _ then _ else _) = _
    rw [if_neg notThree]
    simp only [show ¬ 20 < _ from not_lt.mpr short, if_false, ascii]
    rfl

theorem Spells.of_wireCode {code asset : String} (h : WireCode env code asset) :
    Spells env code asset := by
  cases h with
  | hexadecimal hex => exact Spells.hexadecimal hex (Eq.refl _)
  | standard plain normalized three => exact Spells.standard plain normalized three
  | padded plain normalized notThree short ascii =>
    exact Spells.padded plain normalized notThree short ascii (Eq.refl _)

theorem sameCurrency_of_wire {code asset wire : String} (hcode : xrplCurrencyCode env code = .ok wire)
    (hasset : IsWire asset) :
    SameCurrency env code asset ↔
      wire = asset ∨ IsStandardForm wire asset ∨ IsStandardForm asset wire := by
  have hwire := (wireCode_of_xrplCurrencyCode hcode).isWire
  rw [← currencyValue_eq_iff hwire hasset]
  constructor
  · rintro ⟨wire', value, hwire', hvalue, hvalue'⟩
    obtain rfl := Except.ok.inj (hcode.symm.trans hwire')
    exact hvalue.trans hvalue'.symm
  · intro hsame
    obtain ⟨value, hvalue⟩ := currencyValue_isWire hasset
    exact ⟨wire, value, hcode, hsame.trans hvalue, hvalue⟩

/-- The texts tell whether a written code has the value of a wire code. -/
theorem sameCurrency_iff {code asset : String} (hasset : IsWire asset) :
    SameCurrency env code asset ↔ Spells env code asset := by
  constructor
  · intro hsame
    have hsame' := hsame
    obtain ⟨wire, value, hwire, -⟩ := hsame'
    rcases (sameCurrency_of_wire hwire hasset).mp hsame with rfl | hform
    · exact .of_wireCode (wireCode_of_xrplCurrencyCode hwire)
    · exact .standardForm hwire hform
  · have hsame : ∀ {wire}, WireCode env code wire → wire = asset → SameCurrency env code asset :=
      fun hwire heq => (sameCurrency_of_wire (xrplCurrencyCode_eq_ok.mpr hwire) hasset).mpr (.inl heq)
    intro h
    cases h with
    | hexadecimal hex digits => exact hsame (.hexadecimal hex) digits
    | standard plain normalized three => exact hsame (.standard plain normalized three) rfl
    | padded plain normalized notThree short ascii digits =>
      exact hsame (.padded plain normalized notThree short ascii) digits
    | standardForm hcode form => exact (sameCurrency_of_wire hcode hasset).mpr (.inr form)

end XrplX402
