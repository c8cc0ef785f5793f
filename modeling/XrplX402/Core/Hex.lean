import XrplX402.Core.Models

/-! # Upper-case hexadecimal text

    Blobs, transaction ids and 160-bit currency codes are written with the
    digits `0-9A-F`. Among such texts, a sequence of bytes has exactly one. -/

namespace XrplX402

open Py

/-! ## Section 1: Digits -/

theorem isUpperHexDigit_iff {c : Char} :
    isUpperHexDigit c = true ↔ c ∈ "0123456789ABCDEF".toList := by
  simp [isUpperHexDigit]

theorem upperHexDigit_plain {c : Char} (h : isUpperHexDigit c = true) :
    isAsciiSpace c = false ∧ isSpace c = false ∧ c.toNat < 128 ∧ c.toUpper = c ∧
      isHexDigit c = true := by
  have hall : ∀ d ∈ "0123456789ABCDEF".toList, isAsciiSpace d = false ∧ isSpace d = false ∧
      d.toNat < 128 ∧ d.toUpper = d ∧ isHexDigit d = true :=
    List.all_iff_forall_prop.mp (by decide)
  exact hall c (isUpperHexDigit_iff.mp h)

theorem hexValue?_upper_inj {c d : Char} (hc : isUpperHexDigit c = true)
    (hd : isUpperHexDigit d = true) (h : hexValue? c = hexValue? d) : c = d := by
  have hall : ∀ x ∈ "0123456789ABCDEF".toList, ∀ y ∈ "0123456789ABCDEF".toList,
      hexValue? x = hexValue? y → x = y := by
    have hb : ("0123456789ABCDEF".toList.all fun x => "0123456789ABCDEF".toList.all fun y =>
        decide (hexValue? x = hexValue? y → x = y)) = true := by decide
    intro x hx y hy
    have hxy := List.all_eq_true.mp (List.all_eq_true.mp hb x hx) y hy
    exact of_decide_eq_true hxy
  exact hall c (isUpperHexDigit_iff.mp hc) d (isUpperHexDigit_iff.mp hd) h

theorem hexValue?_lt {c : Char} {n : Nat} (h : hexValue? c = some n) : n < 16 := by
  unfold hexValue? at h
  simp only [Char.le_def, UInt32.le_iff_toNat_le] at h
  have hc : c.toNat = c.val.toNat := rfl
  split at h
  · next hr =>
    have hn : c.toNat - 48 = n := Option.some.inj h
    have h9 : ('9' : Char).val.toNat = 57 := by decide
    omega
  · split at h
    · next hr =>
      have hn : c.toNat - 87 = n := Option.some.inj h
      have hf : ('f' : Char).val.toNat = 102 := by decide
      omega
    · split at h
      · next hr =>
        have hn : c.toNat - 55 = n := Option.some.inj h
        have hF : ('F' : Char).val.toNat = 70 := by decide
        omega
      · cases h

/-! ## Section 2: Texts -/

/-- Digits `0-9A-F` only. -/
def IsUpperHex (cs : List Char) : Prop := ∀ c ∈ cs, isUpperHexDigit c = true

theorem IsUpperHex.tail {c : Char} {cs : List Char} (h : IsUpperHex (c :: cs)) : IsUpperHex cs :=
  fun d hd => h d (List.mem_cons_of_mem _ hd)

theorem IsUpperHex.append {cs ds : List Char} (hc : IsUpperHex cs) (hd : IsUpperHex ds) :
    IsUpperHex (cs ++ ds) := by
  intro c h
  rcases List.mem_append.mp h with h | h
  · exact hc c h
  · exact hd c h

/-- Two digits and the rest of the text. -/
theorem fromHexChars_cons {c d : Char} {cs : List Char} {bs : List UInt8}
    (hc : isUpperHexDigit c = true) :
    fromHexChars (c :: d :: cs) = some bs ↔ ∃ h l rest, hexValue? c = some h ∧
      hexValue? d = some l ∧ fromHexChars cs = some rest ∧ bs = UInt8.ofNat (16 * h + l) :: rest := by
  rw [fromHexChars, if_neg (by simp [(upperHexDigit_plain hc).1])]
  cases hexValue? c with
  | none => simp
  | some h =>
    cases hexValue? d with
    | none => simp
    | some l => simp [eq_comm]

theorem byte_inj {h l h' l' : Nat} (hh : h < 16) (hl : l < 16) (hh' : h' < 16) (hl' : l' < 16)
    (heq : UInt8.ofNat (16 * h + l) = UInt8.ofNat (16 * h' + l')) : h = h' ∧ l = l' := by
  have hn := congrArg UInt8.toNat heq
  simp only [UInt8.toNat_ofNat'] at hn
  omega

/-- Bytes have one upper-case text. -/
theorem fromHexChars_inj {cs : List Char} (hc : IsUpperHex cs) {ds : List Char} {bs : List UInt8}
    (hd : IsUpperHex ds) (h : fromHexChars cs = some bs) (h' : fromHexChars ds = some bs) :
    cs = ds := by
  induction cs using fromHexChars.induct generalizing ds bs with
  | case1 =>
    obtain rfl : [] = bs := by simpa [fromHexChars] using h
    -- No pair of digits may follow.
    match ds, hd, h' with
    | [], _, _ => rfl
    | [d], hd, h' => simp [fromHexChars, (upperHexDigit_plain (hd d (by simp))).1] at h'
    | d :: e :: ds, hd, h' =>
      obtain ⟨_, _, _, _, _, _, hcon⟩ := (fromHexChars_cons (hd d (by simp))).mp h'
      cases hcon
  | case2 c hs => simp [(upperHexDigit_plain (hc c (by simp))).1] at hs
  | case3 c hs => simp [fromHexChars, hs] at h
  | case4 c d cs hs _ => simp [(upperHexDigit_plain (hc c (by simp))).1] at hs
  | case5 c d cs _ _ _ _ _ ih =>
    obtain ⟨x, y, rest, hx, hy, hrest, rfl⟩ := (fromHexChars_cons (hc c (by simp))).mp h
    match ds, hd, h' with
    | [], _, h' => simp [fromHexChars] at h'
    | [e], hd, h' => simp [fromHexChars, (upperHexDigit_plain (hd e (by simp))).1] at h'
    | e :: f :: ds, hd, h' =>
      obtain ⟨x', y', rest', hx', hy', hrest', heq⟩ :=
        (fromHexChars_cons (hd e (by simp))).mp h'
      obtain ⟨hbyte, rfl⟩ := List.cons.inj heq
      obtain ⟨rfl, rfl⟩ := byte_inj (hexValue?_lt hx) (hexValue?_lt hy) (hexValue?_lt hx')
        (hexValue?_lt hy') hbyte
      have hce := hexValue?_upper_inj (hc c (by simp)) (hd e (by simp)) (hx.trans hx'.symm)
      have hdf := hexValue?_upper_inj (hc d (by simp)) (hd f (by simp)) (hy.trans hy'.symm)
      rw [hce, hdf, ih hc.tail.tail hd.tail.tail hrest hrest']
  | case6 c d cs _ hnone =>
    obtain ⟨x, y, _, hx, hy, _, _⟩ := (fromHexChars_cons (hc c (by simp))).mp h
    exact absurd hy (hnone x y hx)

theorem fromHex_eq_ok {s : String} {bs : List UInt8} :
    fromHex s = .ok bs ↔ fromHexChars s.toList = some bs := by
  unfold fromHex
  cases fromHexChars s.toList <;> simp

/-- An upper-case text is determined by its bytes. -/
theorem fromHex_inj {s t : String} {bs : List UInt8} (hs : IsUpperHex s.toList)
    (ht : IsUpperHex t.toList) (h : fromHex s = .ok bs) (h' : fromHex t = .ok bs) : s = t :=
  String.ext (fromHexChars_inj hs ht (fromHex_eq_ok.mp h) (fromHex_eq_ok.mp h'))

/-- Upper-case texts of even length are read. -/
theorem exists_fromHexChars {cs : List Char} (h : IsUpperHex cs) (heven : cs.length % 2 = 0) :
    ∃ bs, fromHexChars cs = some bs ∧ 2 * bs.length = cs.length := by
  induction cs using fromHexChars.induct with
  | case1 => exact ⟨[], rfl, rfl⟩
  | case2 c _ => simp at heven
  | case3 c _ => simp at heven
  | case4 c d cs hs _ => simp [(upperHexDigit_plain (h c (by simp))).1] at hs
  | case5 c d cs _ x y hx hy ih =>
    obtain ⟨rest, hrest, hlen⟩ := ih h.tail.tail (by simp only [List.length_cons] at heven; omega)
    refine ⟨_, (fromHexChars_cons (h c (by simp))).mpr ⟨_, _, _, hy, hx, hrest, rfl⟩, ?_⟩
    simp only [List.length_cons]
    omega
  | case6 c d cs _ hnone =>
    obtain ⟨x, hx⟩ := Option.isSome_iff_exists.mp (upperHexDigit_plain (h c (by simp))).2.2.2.2
    obtain ⟨y, hy⟩ := Option.isSome_iff_exists.mp (upperHexDigit_plain (h d (by simp))).2.2.2.2
    exact absurd hy (hnone x y hx)

/-! ## Section 3: Signed blobs -/

theorem upperHex_of_isSignedTxBlob {blob : String} (h : isSignedTxBlob blob = true) :
    IsUpperHex blob.toList ∧ blob.toList.length % 2 = 0 := by
  simp only [isSignedTxBlob, Bool.and_eq_true, decide_eq_true_eq, List.all_eq_true] at h
  exact ⟨h.2, h.1.2⟩

theorem upperHex_prefixed {blob : String} (h : IsUpperHex blob.toList) :
    IsUpperHex ("54584E00" ++ blob).toList := by
  have hprefix : IsUpperHex "54584E00".toList := List.all_iff_forall_prop.mp (by decide)
  rw [String.toList_append]
  exact hprefix.append h

/-- What is hashed for the id of a blob can be read. -/
theorem exists_fromHex_prefixed {blob : String} (h : isSignedTxBlob blob = true) :
    ∃ x, fromHex ("54584E00" ++ blob) = .ok x := by
  obtain ⟨hupper, heven⟩ := upperHex_of_isSignedTxBlob h
  have hlen : ("54584E00" ++ blob).toList.length % 2 = 0 := by
    rw [String.toList_append, List.length_append]
    have h8 : "54584E00".toList.length = 8 := by decide
    omega
  obtain ⟨bs, hbs, -⟩ := exists_fromHexChars (upperHex_prefixed hupper) hlen
  exact ⟨bs, fromHex_eq_ok.mpr hbs⟩

end XrplX402
