import XrplX402.Core.Currency

/-! # Names that digits spell

    Forty digits stand for 20 bytes. The normalization of currency codes and the
    facilitator read a name out of them: the bytes in front of the trailing
    zeros, as ASCII text.

    * `asciiName`, `AsciiBy`: the text, whatever its characters are.
    * `spelledName`, `SpelledBy`: the text, when it can be printed.
    * `normalize_of_upperHex`: what normalization makes of digits. -/

namespace XrplX402

open Py

variable {env : Env}

/-! ## Section 1: Digits and bytes -/

theorem hexValue?_toUpper : ∀ {n : Nat}, n < 16 →
    hexValue? (hexDigitChar n).toUpper = some n ∧ isAsciiSpace (hexDigitChar n).toUpper = false := by
  decide

/-- Capital digits are read as the bytes they were written from. -/
theorem fromHexChars_upper (bytes : List UInt8) (r : List Char) :
    fromHexChars ((hexChars bytes).map Char.toUpper ++ r) = (fromHexChars r).map (bytes ++ ·) := by
  induction bytes with
  | nil => cases h : fromHexChars r <;> simp [hexChars, h]
  | cons b bytes ih =>
    have hcons : hexChars (b :: bytes) =
        hexDigitChar (b.toNat / 16) :: hexDigitChar (b.toNat % 16) :: hexChars bytes := rfl
    have hb : b.toNat < 256 := b.toNat_lt
    obtain ⟨hhigh, hspace⟩ := hexValue?_toUpper (n := b.toNat / 16) (by omega)
    obtain ⟨hlow, -⟩ := hexValue?_toUpper (n := b.toNat % 16) (by omega)
    have hbyte : UInt8.ofNat (16 * (b.toNat / 16) + b.toNat % 16) = b := by
      rw [Nat.div_add_mod, UInt8.ofNat_toNat]
    rw [hcons, List.map_cons, List.map_cons, List.cons_append, List.cons_append, fromHexChars, hspace,
      if_neg (by simp), hhigh, hlow, ih]
    cases fromHexChars r with
    | none => rfl
    | some rest => simp [hbyte]

theorem fromHexChars_zeros (n : Nat) :
    fromHexChars (List.replicate (2 * n) '0') = some (List.replicate n 0) := by
  induction n with
  | zero => rfl
  | succ n ih =>
    have hzeros : List.replicate (2 * (n + 1)) '0' = '0' :: '0' :: List.replicate (2 * n) '0' := rfl
    rw [hzeros, fromHexChars, if_neg (by decide), ih]
    rfl

theorem rstripZero_append (bytes : List UInt8) :
    bytes = rstripZero bytes ++ List.replicate (bytes.length - (rstripZero bytes).length) 0 := by
  have hzeros : ∀ b ∈ bytes.reverse.takeWhile (· = 0), b = 0 := by
    intro b hb
    simpa using List.mem_takeWhile_imp hb
  have hsplit : bytes.reverse.takeWhile (· = 0) ++ bytes.reverse.dropWhile (· = 0) = bytes.reverse :=
    List.takeWhile_append_dropWhile
  have hbytes : bytes = rstripZero bytes ++ (bytes.reverse.takeWhile (· = 0)).reverse := by
    unfold rstripZero
    rw [← List.reverse_append, hsplit, List.reverse_reverse]
  have hlen := congrArg List.length hbytes
  rw [List.length_append, List.length_reverse] at hlen
  have htail : (bytes.reverse.takeWhile (· = 0)).reverse =
      List.replicate (bytes.length - (rstripZero bytes).length) 0 := by
    rw [List.eq_replicate_of_mem hzeros, List.reverse_replicate]
    congr 1
    omega
  rw [← htail]
  exact hbytes

theorem dropWhile_zeros (n : Nat) : (List.replicate n (0 : UInt8)).dropWhile (· = 0) = [] := by
  rw [List.dropWhile_eq_nil_iff]
  intro b hb
  simpa using List.eq_of_mem_replicate hb

/-- Zeros after bytes that do not end in one are stripped, and nothing else. -/
theorem rstripZero_of_last {bytes : List UInt8} (h : bytes.getLast? ≠ some 0) (n : Nat) :
    rstripZero (bytes ++ List.replicate n 0) = bytes := by
  have hkept : bytes.reverse.dropWhile (· = 0) = bytes.reverse := by
    rw [← List.head?_reverse] at h
    cases hr : bytes.reverse with
    | nil => rfl
    | cons b rest =>
      rw [hr, List.head?_cons] at h
      rw [List.dropWhile_cons_of_neg]
      simpa using fun hb => h (congrArg some hb)
  unfold rstripZero
  rw [List.reverse_append, List.reverse_replicate, List.dropWhile_append, dropWhile_zeros]
  simp [hkept]

/-- What is left does not end in a zero. -/
theorem getLast?_rstripZero (bytes : List UInt8) : (rstripZero bytes).getLast? ≠ some 0 := by
  rw [rstripZero, List.getLast?_reverse]
  intro h
  have hnonzero := List.head?_dropWhile_not (fun b : UInt8 => decide (b = 0)) bytes.reverse
  rw [h] at hnonzero
  simp at hnonzero

theorem isUpperHex_length {asset : String} (hlength : asset.length = 40)
    (hupper : IsUpperHex asset.toList) :
    ∃ bytes, fromHexChars asset.toList = some bytes ∧ bytes.length = 20 := by
  have hlen : asset.toList.length = 40 := by rw [String.length_toList, hlength]
  obtain ⟨bytes, hbytes, hbyteslen⟩ := exists_fromHexChars hupper (by omega)
  exact ⟨bytes, hbytes, by omega⟩

theorem toList_packed (env : Env) (bytes : List UInt8) :
    (ljustZero 40 (env.unicode.upperStr (hexdigest bytes))).toList =
      (hexChars bytes).map Char.toUpper ++ List.replicate (40 - 2 * bytes.length) '0' := by
  obtain ⟨hlist, -⟩ := upperHex_hexdigest env bytes
  have hlen : (env.unicode.upperStr (hexdigest bytes)).length = 2 * bytes.length := by
    rw [← String.length_toList, hlist, List.length_map, length_hexChars]
  rw [toList_ljustZero, hlist, hlen]

theorem length_packed {bytes : List UInt8} (h : bytes.length ≤ 20) :
    (ljustZero 40 (env.unicode.upperStr (hexdigest bytes))).length = 40 := by
  rw [← String.length_toList, toList_packed, List.length_append, List.length_map, length_hexChars,
    List.length_replicate]
  omega

theorem upperHex_packed (env : Env) (bytes : List UInt8) :
    IsUpperHex (ljustZero 40 (env.unicode.upperStr (hexdigest bytes))).toList := by
  rw [toList_packed, ← (upperHex_hexdigest env bytes).1]
  apply (upperHex_hexdigest env bytes).2.append
  intro c hc
  have hzero : c = '0' := List.eq_of_mem_replicate hc
  rw [hzero]
  decide

/-- The packed digits of at most 20 bytes are read as the bytes and zeros. -/
theorem fromHexChars_packed {bytes : List UInt8} (h : bytes.length ≤ 20) :
    fromHexChars (ljustZero 40 (env.unicode.upperStr (hexdigest bytes))).toList =
      some (bytes ++ List.replicate (20 - bytes.length) 0) := by
  have hpad : 40 - 2 * bytes.length = 2 * (20 - bytes.length) := by omega
  rw [toList_packed, hpad, fromHexChars_upper, fromHexChars_zeros]
  rfl

/-! ## Section 2: ASCII text -/

theorem toNat_ofNat {b : UInt8} (h : b.toNat < 128) : (Char.ofNat b.toNat).toNat = b.toNat := by
  have hvalid : b.toNat.isValidChar := Or.inl (by omega)
  rw [Char.ofNat, dif_pos hvalid]
  rfl

theorem decodeAscii_of_ascii {decoded : List UInt8} (h : ∀ b ∈ decoded, b.toNat < 128) :
    decodeAscii decoded = .ok (String.ofList (decoded.map fun b => Char.ofNat b.toNat)) := by
  have hsmall : decoded.all (fun b => b < 128) = true := by
    rw [List.all_eq_true]
    intro b hb
    rw [decide_eq_true_eq, UInt8.lt_iff_toNat_lt]
    exact h b hb
  unfold decodeAscii
  rw [if_pos hsmall]

theorem chars_of_encodeAscii {name : String} {bytes : List UInt8} (h : encodeAscii name = .ok bytes) :
    (∀ b ∈ bytes, b.toNat < 128) ∧ name.toList = bytes.map fun b => Char.ofNat b.toNat := by
  unfold encodeAscii at h
  split at h
  · next hsmall =>
    have hbyte : ∀ c ∈ name.toList, c.toNat < 128 ∧ (UInt8.ofNat c.toNat).toNat = c.toNat := by
      intro c hc
      have hlt : c.toNat < 128 := by simpa using List.all_eq_true.mp hsmall c hc
      rw [UInt8.toNat_ofNat']
      omega
    rw [← Except.ok.inj h, List.map_map]
    constructor
    · intro b hb
      obtain ⟨c, hc, rfl⟩ := List.mem_map.mp hb
      rw [(hbyte c hc).2]
      exact (hbyte c hc).1
    · conv_lhs => rw [← List.map_id name.toList]
      apply List.map_congr_left
      intro c hc
      simp only [id, Function.comp_apply, (hbyte c hc).2, Char.ofNat_toNat]
  · cases h

theorem encodeAscii_of_ascii {name : String} (h : ∀ c ∈ name.toList, c.toNat < 128) :
    encodeAscii name = .ok (name.toList.map fun c => UInt8.ofNat c.toNat) := by
  have hsmall : name.toList.all (fun c => c.toNat < 128) = true :=
    List.all_eq_true.mpr fun c hc => decide_eq_true (h c hc)
  unfold encodeAscii
  rw [if_pos hsmall]

/-- The ASCII text that digits spell, without the zero bytes at its end. -/
def asciiName (digits : String) : Option String :=
  match fromHexChars digits.toList with
  | none => none
  | some bytes => (decodeAscii (rstripZero bytes)).toOption

theorem asciiName_of_bytes {asset : String} {bytes : List UInt8}
    (h : fromHexChars asset.toList = some bytes) :
    asciiName asset = (decodeAscii (rstripZero bytes)).toOption := by
  unfold asciiName
  rw [h]

/-- `asset` is the digits of the ASCII text `name`, filled up with zeros. -/
structure AsciiBy (asset name : String) (decoded : List UInt8) : Prop where
  digits : fromHexChars asset.toList = some (decoded ++ List.replicate (20 - decoded.length) 0)
  short : decoded.length ≤ 20
  last : decoded.getLast? ≠ some 0
  ascii : ∀ b ∈ decoded, b.toNat < 128
  chars : name.toList = decoded.map fun b => Char.ofNat b.toNat

/-- The bytes of 40 digits are an ASCII text and zeros, or they are not ASCII. -/
theorem asciiName_cases {asset : String} (hlength : asset.length = 40)
    (hupper : IsUpperHex asset.toList) :
    (∃ name decoded, asciiName asset = some name ∧ AsciiBy asset name decoded) ∨
      asciiName asset = none := by
  obtain ⟨bytes, hbytes, hlen⟩ := isUpperHex_length hlength hupper
  have hname := asciiName_of_bytes hbytes
  -- Zero bytes at the end are dropped before the bytes are decoded.
  by_cases hascii : (rstripZero bytes).all (fun b => b < 128) = true
  · left
    have hsmall : ∀ b ∈ rstripZero bytes, b.toNat < 128 := by
      intro b hb
      have hlt := List.all_eq_true.mp hascii b hb
      rwa [decide_eq_true_eq, UInt8.lt_iff_toNat_lt] at hlt
    have hsplit := rstripZero_append bytes
    have hshort : (rstripZero bytes).length ≤ 20 := by
      have hle := congrArg List.length hsplit
      rw [List.length_append] at hle
      omega
    refine ⟨_, rstripZero bytes, by rw [hname, decodeAscii_of_ascii hsmall]; rfl, ?_, hshort,
      getLast?_rstripZero bytes, hsmall, String.toList_ofList⟩
    rw [hbytes, ← hlen, ← hsplit]
  · right
    rw [hname, decodeAscii, if_neg hascii]
    rfl

namespace AsciiBy

variable {asset name : String} {decoded : List UInt8}

theorem length_eq (h : AsciiBy asset name decoded) : name.length = decoded.length := by
  rw [← String.length_toList, h.chars, List.length_map]

theorem stripped (h : AsciiBy asset name decoded) :
    rstripZero (decoded ++ List.replicate (20 - decoded.length) 0) = decoded :=
  rstripZero_of_last h.last _

theorem ascii_of_mem (h : AsciiBy asset name decoded) : ∀ c ∈ name.toList, c.toNat < 128 := by
  intro c hc
  rw [h.chars] at hc
  obtain ⟨b, hb, rfl⟩ := List.mem_map.mp hc
  rw [toNat_ofNat (h.ascii b hb)]
  exact h.ascii b hb

theorem encode (h : AsciiBy asset name decoded) : encodeAscii name = .ok decoded := by
  have hbytes : name.toList.map (fun c => UInt8.ofNat c.toNat) = decoded := by
    rw [h.chars, List.map_map]
    conv_rhs => rw [← List.map_id decoded]
    apply List.map_congr_left
    intro b hb
    simp only [Function.comp_apply, toNat_ofNat (h.ascii b hb), UInt8.ofNat_toNat, id]
  rw [encodeAscii_of_ascii h.ascii_of_mem, hbytes]

theorem decode (h : AsciiBy asset name decoded) : decodeAscii decoded = .ok name := by
  rw [decodeAscii_of_ascii h.ascii, ← h.chars, String.ofList_toList]

theorem asciiName_eq (h : AsciiBy asset name decoded) : asciiName asset = some name := by
  rw [asciiName_of_bytes h.digits, h.stripped, h.decode]
  rfl

/-- The digits of the text, filled up with zeros, are the digits it was read
    from. -/
theorem packed (env : Env) (h : AsciiBy asset name decoded) (hupper : IsUpperHex asset.toList) :
    ljustZero 40 (env.unicode.upperStr (hexdigest decoded)) = asset := by
  apply String.toList_injective
  exact fromHexChars_inj (upperHex_packed env decoded) hupper (fromHexChars_packed h.short) h.digits

/-- A text of three characters is not in the standard form of a code. -/
theorem not_standardForm (h : AsciiBy asset name decoded) (hthree : name.length = 3)
    (short : String) : ¬ IsStandardForm short asset := by
  rintro ⟨-, -, bytes, hbytes, hform⟩
  rw [h.length_eq] at hthree
  obtain ⟨x, y, z, rfl⟩ := List.length_eq_three.mp hthree
  obtain rfl := Option.some.inj (h.digits.symm.trans hbytes)
  have hzero : ∀ b : UInt8, b.toNat = 0 → b = 0 := fun b hb => UInt8.toNat_inj.mp hb
  have hz : z = 0 := by
    apply hzero
    have hthird := congrArg (fun l => l[2]?) hform
    simpa using hthird
  exact h.last (by rw [hz]; rfl)

end AsciiBy

/-! ## Section 3: Printable text -/

/-- The text that 40 digits spell, when the bytes in front of their trailing
    zeros can be printed. -/
def spelledName (asset : String) : Option String :=
  if asset.length = 40 then
    (fromHexChars asset.toList).bind fun bytes =>
      let decoded := rstripZero bytes
      if decoded ≠ [] ∧ decoded.all (fun byte => 32 ≤ byte && byte ≤ 126) then
        some (String.ofList (decoded.map fun byte => Char.ofNat byte.toNat))
      else none
  else none

/-- The bytes `decoded` are printable, and `asset` is their digits, filled up with
    zeros, `name` their text. -/
structure SpelledBy (asset name : String) (decoded : List UInt8) : Prop
    extends AsciiBy asset name decoded where
  nonempty : decoded ≠ []
  printable : ∀ b ∈ decoded, 32 ≤ b.toNat ∧ b.toNat ≤ 126

theorem printable_iff {decoded : List UInt8} :
    decoded.all (fun byte => 32 ≤ byte && byte ≤ 126) = true ↔
      ∀ b ∈ decoded, 32 ≤ b.toNat ∧ b.toNat ≤ 126 := by
  simp [List.all_eq_true, UInt8.le_iff_toNat_le]

/-- The decoded bytes of 40 digits, and what is printed of them. -/
theorem spelledName_cases {asset : String} (hlength : asset.length = 40)
    (hupper : IsUpperHex asset.toList) :
    (∃ name decoded, spelledName asset = some name ∧ SpelledBy asset name decoded) ∨
      (spelledName asset = none ∧ ∃ bytes, fromHexChars asset.toList = some bytes ∧
        ¬ (rstripZero bytes ≠ [] ∧
          (rstripZero bytes).all (fun byte => 32 ≤ byte && byte ≤ 126) = true)) := by
  obtain ⟨bytes, hbytes, -⟩ := isUpperHex_length hlength hupper
  have hname : spelledName asset = if rstripZero bytes ≠ [] ∧
      (rstripZero bytes).all (fun byte => 32 ≤ byte && byte ≤ 126) = true then
        some (String.ofList ((rstripZero bytes).map fun byte => Char.ofNat byte.toNat)) else none := by
    -- The bytes are printable, or nothing is spelled.
    unfold spelledName
    rw [if_pos hlength, hbytes]
    rfl
  by_cases hprint : rstripZero bytes ≠ [] ∧
      (rstripZero bytes).all (fun byte => 32 ≤ byte && byte ≤ 126) = true
  · left
    have hprintable := printable_iff.mp hprint.2
    have hascii : ∀ b ∈ rstripZero bytes, b.toNat < 128 := fun b hb =>
      Nat.lt_of_le_of_lt (hprintable b hb).2 (by decide)
    rcases asciiName_cases hlength hupper with ⟨name, decoded, -, h⟩ | hnone
    · obtain rfl := Option.some.inj (h.digits.symm.trans hbytes)
      rw [h.stripped] at hname hprint hprintable
      rw [if_pos hprint, ← h.chars, String.ofList_toList] at hname
      exact ⟨name, decoded, hname, h, hprint.1, hprintable⟩
    · rw [asciiName_of_bytes hbytes, decodeAscii_of_ascii hascii] at hnone
      cases hnone
  · right
    exact ⟨by rw [hname, if_neg hprint], bytes, hbytes, hprint⟩

/-! ## Section 4: Normal forms -/

theorem noSpace_of_upperHex {asset : String} (hupper : IsUpperHex asset.toList) :
    strip asset = asset :=
  strip_of_noSpace fun c hc => (upperHexDigit_plain (hupper c hc)).2.1

/-- Of 40 digits, normalization leaves the capitals of what they spell, or the
    digits. -/
theorem normalize_of_upperHex {asset : String} (hlength : asset.length = 40)
    (hupper : IsUpperHex asset.toList) :
    normalizeCurrencyCode env asset =
      .ok ((spelledName asset).elim asset env.unicode.upperStr) := by
  have hcaps : env.unicode.upperStr asset = asset :=
    env.unicode.upperStr_of_upper fun c hc =>
      ⟨(upperHexDigit_plain (hupper c hc)).2.2.1, (upperHexDigit_plain (hupper c hc)).2.2.2.1⟩
  have hall : asset.toList.all isHexDigit = true :=
    List.all_eq_true.mpr fun c hc => (upperHexDigit_plain (hupper c hc)).2.2.2.2
  have hempty : asset ≠ "" := by
    rintro rfl
    exact absurd hlength (by decide)
  -- The code is 40 digits, which are decoded where they are printable.
  unfold normalizeCurrencyCode
  rw [noSpace_of_upperHex hupper, hcaps]
  simp only [hempty, if_false, hlength, hall, and_self, if_true]
  rcases spelledName_cases hlength hupper with ⟨name, decoded, hname, hspelled⟩ | ⟨hname, bytes, hbytes, hprint⟩
  · apply bind_eq_ok.mpr
    refine ⟨_, fromHex_eq_ok.mpr hspelled.digits, ?_⟩
    rw [hspelled.stripped, if_pos ⟨hspelled.nonempty, printable_iff.mpr hspelled.printable⟩,
      hspelled.decode, hname]
    rfl
  · apply bind_eq_ok.mpr
    refine ⟨bytes, fromHex_eq_ok.mpr hbytes, ?_⟩
    rw [if_neg hprint, hname]
    rfl

theorem isAsciiSpace_of_hexDigit {c : Char} (h : isHexDigit c = true) : isAsciiSpace c = false := by
  have hspace := (hexDigit_upper h).2.2
  by_contra hblank
  simp only [Bool.not_eq_false, isAsciiSpace, Bool.or_eq_true, Bool.and_eq_true, decide_eq_true_eq,
    beq_iff_eq] at hblank
  have hs : isSpace c = true := by
    simp only [isSpace, Bool.or_eq_true, Bool.and_eq_true, decide_eq_true_eq, beq_iff_eq]
    omega
  rw [hs] at hspace
  cases hspace

/-- Digits of either case, in pairs, are read. -/
theorem exists_fromHexChars_of_digits {cs : List Char} (h : ∀ c ∈ cs, isHexDigit c = true)
    (heven : cs.length % 2 = 0) : ∃ bytes, fromHexChars cs = some bytes := by
  induction cs using fromHexChars.induct with
  | case1 => exact ⟨[], rfl⟩
  | case2 c _ => simp at heven
  | case3 c _ => simp at heven
  | case4 c d cs hs _ =>
    rw [isAsciiSpace_of_hexDigit (h c (by simp))] at hs
    cases hs
  | case5 c d cs hs x y hx hy ih =>
    obtain ⟨rest, hrest⟩ := ih (fun e he => h e (by simp [he]))
      (by simp only [List.length_cons] at heven; omega)
    refine ⟨UInt8.ofNat (16 * x + y) :: rest, ?_⟩
    rw [fromHexChars, if_neg hs, hy, hx, hrest]
    rfl
  | case6 c d cs _ hnone =>
    obtain ⟨x, hx⟩ := Option.isSome_iff_exists.mp (h c (by simp))
    obtain ⟨y, hy⟩ := Option.isSome_iff_exists.mp (h d (by simp))
    exact absurd hy (hnone x y hx)

/-- Only a blank code has no normal form. -/
theorem exists_normalize_iff {code : String} :
    (∃ name, normalizeCurrencyCode env code = .ok name) ↔ env.unicode.upperStr (strip code) ≠ "" := by
  constructor
  · rintro ⟨name, hname⟩ hempty
    unfold normalizeCurrencyCode at hname
    simp only [hempty, if_true] at hname
    cases hname
  -- Digits decode, and any other text is kept.
  · intro hne
    unfold normalizeCurrencyCode
    simp only [hne, if_false]
    split
    · next hhex =>
      obtain ⟨bytes, hbytes⟩ := exists_fromHexChars_of_digits (List.all_eq_true.mp hhex.2)
        (by rw [String.length_toList, hhex.1])
      have hfrom := fromHex_eq_ok.mpr hbytes
      rw [hfrom]
      change ∃ name, (if rstripZero bytes ≠ [] ∧
        (rstripZero bytes).all (fun byte => 32 ≤ byte && byte ≤ 126) = true then _ else _) = Except.ok name
      split
      · next hprint =>
        rw [decodeAscii_of_ascii fun b hb =>
          Nat.lt_of_le_of_lt (printable_iff.mp hprint.2 b hb).2 (by decide)]
        exact ⟨_, rfl⟩
      · exact ⟨_, rfl⟩
    · exact ⟨_, rfl⟩

/-- Normalization reads a code through its capitals only. -/
theorem normalize_congr {a b : String}
    (h : env.unicode.upperStr (strip a) = env.unicode.upperStr (strip b)) :
    normalizeCurrencyCode env a = normalizeCurrencyCode env b := by
  unfold normalizeCurrencyCode
  rw [h]

theorem normalize_strip (code : String) :
    normalizeCurrencyCode env (strip code) = normalizeCurrencyCode env code :=
  normalize_congr (by rw [strip_strip])

/-- Normal forms are in capitals. -/
theorem normalize_capitals {code name : String} (h : normalizeCurrencyCode env code = .ok name) :
    env.unicode.upperStr name = name := by
  unfold normalizeCurrencyCode at h
  by_cases hempty : env.unicode.upperStr (strip code) = ""
  · simp only [hempty, if_true] at h
    cases h
  simp only [hempty, if_false] at h
  split at h
  · obtain ⟨bytes, -, h⟩ := bind_eq_ok.mp h
    split at h
    · obtain ⟨text, -, h⟩ := bind_eq_ok.mp h
      rw [← Except.ok.inj h, UnicodeData.upperStr_upperStr]
    · rw [← Except.ok.inj h, UnicodeData.upperStr_upperStr]
  · rw [← Except.ok.inj h, UnicodeData.upperStr_upperStr]

/-- The capitals of 40 digits of either case. -/
theorem isWire_of_isHex40 (env : Env) {s : String} (h : isHex40 s = true) :
    (env.unicode.upperStr s).length = 40 ∧ IsUpperHex (env.unicode.upperStr s).toList := by
  obtain ⟨hlength, hall⟩ := isHex40_iff.mp h
  obtain ⟨hlist, hupper⟩ := upperStr_hex env.unicode (List.all_eq_true.mp hall)
  refine ⟨?_, hupper⟩
  rw [← String.length_toList, hlist, List.length_map, String.length_toList, hlength]

theorem hexValue?_of_digit {c : Char} (h : isHexDigit c = true) :
    hexValue? c.toUpper = hexValue? c ∧ isAsciiSpace c.toUpper = isAsciiSpace c :=
  forall_ascii (fun c => isHexDigit c = true →
    hexValue? c.toUpper = hexValue? c ∧ isAsciiSpace c.toUpper = isAsciiSpace c) (by decide)
    (hexDigit_upper h).1 h

/-- Digits stand for the same bytes as their capitals. -/
theorem fromHexChars_map_toUpper {cs : List Char} (h : ∀ c ∈ cs, isHexDigit c = true) :
    fromHexChars (cs.map Char.toUpper) = fromHexChars cs := by
  induction cs using fromHexChars.induct with
  | case1 => rfl
  | case2 c _ | case3 c _ =>
    rw [List.map_singleton, fromHexChars, fromHexChars, (hexValue?_of_digit (h c (by simp))).2]
  | case4 c d cs hs ih =>
    rw [isAsciiSpace_of_hexDigit (h c (by simp))] at hs
    cases hs
  | case5 c d cs hs x y hx hy ih =>
    have hc := hexValue?_of_digit (h c (by simp))
    have hd := hexValue?_of_digit (h d (by simp))
    rw [List.map_cons, List.map_cons, fromHexChars, fromHexChars, hc.1, hc.2, hd.1,
      ih fun e he => h e (by simp [he]), if_neg hs, if_neg hs]
  | case6 c d cs hs hnone =>
    obtain ⟨x, hx⟩ := Option.isSome_iff_exists.mp (h c (by simp))
    obtain ⟨y, hy⟩ := Option.isSome_iff_exists.mp (h d (by simp))
    exact absurd hy (hnone x y hx)

theorem asciiName_upperStr (env : Env) {s : String} (h : isHex40 s = true) :
    asciiName (env.unicode.upperStr s) = asciiName s := by
  have hall := List.all_eq_true.mp (isHex40_iff.mp h).2
  unfold asciiName
  rw [(upperStr_hex env.unicode hall).1, fromHexChars_map_toUpper hall]

/-- A code in digits has the normal form of its capitals. -/
theorem normalize_of_isHex40 {code : String} (h : isHex40 (strip code) = true) :
    normalizeCurrencyCode env code = .ok ((spelledName (env.unicode.upperStr (strip code))).elim
      (env.unicode.upperStr (strip code)) env.unicode.upperStr) := by
  obtain ⟨hlength, hupper⟩ := isWire_of_isHex40 env h
  rw [← normalize_of_upperHex hlength hupper]
  apply normalize_congr
  rw [noSpace_of_upperHex hupper, UnicodeData.upperStr_upperStr]

theorem normalize_of_wireCode {code wire : String} (h : WireCode env code wire)
    (hthree : wire.length = 3) : normalizeCurrencyCode env code = .ok wire := by
  rw [← normalize_strip]
  cases h with
  | hexadecimal hex =>
    rw [(isWire_of_isHex40 env hex).1] at hthree
    cases hthree
  | standard plain normalized three => exact normalized
  | padded plain normalized notThree short ascii =>
    rw [length_packed ((length_encodeAscii ascii).trans_le short)] at hthree
    cases hthree

/-- A three-character asset is its own normal form. -/
theorem normalize_three {asset : String} (hwire : xrplCurrencyCode env asset = .ok asset)
    (hthree : asset.length = 3) : normalizeCurrencyCode env asset = .ok asset :=
  normalize_of_wireCode (wireCode_of_xrplCurrencyCode hwire) hthree

end XrplX402
