import XrplX402.Py.Text

/-! # Base64

    `base64.b64encode`, its variant for URLs, and the reading of `binascii`:
    characters outside the alphabet are skipped unless the reading is strict,
    and a complete padding ends the text. What was encoded is read back. -/

namespace Py

/-! ## Section 1: Writing -/

def base64Alphabet : List Char :=
  "ABCDEFGHIJKLMNOPQRSTUVWXYZabcdefghijklmnopqrstuvwxyz0123456789+/".toList

def sextetChar (n : Nat) : Char := base64Alphabet.getD n 'A'

def sextet? (c : Char) : Option Nat :=
  if c ∈ base64Alphabet then some (base64Alphabet.idxOf c) else none

/-- Three bytes become four characters. -/
def b64encode : List UInt8 → List Char
  | [] => []
  | [a] => [sextetChar (a.toNat / 4), sextetChar (a.toNat % 4 * 16), '=', '=']
  | [a, b] =>
    [sextetChar (a.toNat / 4), sextetChar (a.toNat % 4 * 16 + b.toNat / 16),
      sextetChar (b.toNat % 16 * 4), '=']
  | a :: b :: c :: bytes =>
    sextetChar (a.toNat / 4) :: sextetChar (a.toNat % 4 * 16 + b.toNat / 16) ::
      sextetChar (b.toNat % 16 * 4 + c.toNat / 64) :: sextetChar (c.toNat % 64) :: b64encode bytes

/-! ## Section 2: Reading -/

/-- `binascii.a2b_base64`: `quad` characters of the current four were read, they
    left the bits `left`, and `pads` padding characters followed. -/
def a2bBase64 (strict : Bool) : Nat → Nat → Nat → List Char → Option (List UInt8)
  | quad, _, _, [] => if quad = 0 then some [] else none
  | quad, left, pads, c :: cs =>
    if c = '=' then
      if 2 ≤ quad then
        if 4 ≤ quad + (pads + 1) then
          if strict ∧ cs ≠ [] then none else some []
        else a2bBase64 strict quad left (pads + 1) cs
      else if strict then none
      else a2bBase64 strict quad left pads cs
    else
      match sextet? c with
      | none => if strict then none else a2bBase64 strict quad left pads cs
      | some v =>
        if strict ∧ pads ≠ 0 then none
        else
          match quad with
          | 0 => a2bBase64 strict 1 v 0 cs
          | 1 => (a2bBase64 strict 2 (v % 16) 0 cs).map (UInt8.ofNat (left * 4 + v / 16) :: ·)
          | 2 => (a2bBase64 strict 3 (v % 4) 0 cs).map (UInt8.ofNat (left * 16 + v / 4) :: ·)
          | _ => (a2bBase64 strict 0 0 0 cs).map (UInt8.ofNat (left * 64 + v) :: ·)

/-- `base64.b64decode(cs, validate=strict)` -/
def b64decode (strict : Bool) (cs : List Char) : Option (List UInt8) := a2bBase64 strict 0 0 0 cs

/-- `base64.urlsafe_b64encode` -/
def urlsafeB64encode (bytes : List UInt8) : List Char :=
  (b64encode bytes).map fun c => if c = '+' then '-' else if c = '/' then '_' else c

/-- `base64.urlsafe_b64decode` -/
def urlsafeB64decode (cs : List Char) : Option (List UInt8) :=
  b64decode false (cs.map fun c => if c = '-' then '+' else if c = '_' then '/' else c)

example : String.ofList (urlsafeB64encode [0x32, 0x30]) = "MjA=" := by decide

/-! ## Section 3: What was written is read back -/

theorem base64Alphabet_nodup : base64Alphabet.Nodup := by decide +kernel

theorem sextet?_sextetChar {n : Nat} (hn : n < 64) : sextet? (sextetChar n) = some n := by
  have hlength : n < base64Alphabet.length := hn
  have hchar : sextetChar n = base64Alphabet[n] := by
    rw [sextetChar, List.getD_eq_getElem?_getD, List.getElem?_eq_getElem hlength, Option.getD_some]
  rw [sextet?, hchar, if_pos (List.getElem_mem hlength),
    List.Nodup.idxOf_getElem base64Alphabet_nodup n hlength]

theorem sextetChar_mem (n : Nat) : sextetChar n ∈ base64Alphabet := by
  rw [sextetChar, List.getD_eq_getElem?_getD]
  cases h : base64Alphabet[n]? with
  | none => exact List.mem_cons_self
  | some c => exact List.mem_of_getElem? h

theorem sextetChar_ne_pad (n : Nat) : sextetChar n ≠ '=' := by
  intro h
  exact absurd (h ▸ sextetChar_mem n) (by decide)

section Read

variable {strict : Bool} {n left pads : Nat} {cs : List Char}

theorem a2bBase64_first (hn : n < 64) :
    a2bBase64 strict 0 left 0 (sextetChar n :: cs) = a2bBase64 strict 1 n 0 cs := by
  simp [a2bBase64, sextetChar_ne_pad n, sextet?_sextetChar hn]

theorem a2bBase64_second (hn : n < 64) :
    a2bBase64 strict 1 left 0 (sextetChar n :: cs) =
      (a2bBase64 strict 2 (n % 16) 0 cs).map (UInt8.ofNat (left * 4 + n / 16) :: ·) := by
  simp [a2bBase64, sextetChar_ne_pad n, sextet?_sextetChar hn]

theorem a2bBase64_third (hn : n < 64) :
    a2bBase64 strict 2 left 0 (sextetChar n :: cs) =
      (a2bBase64 strict 3 (n % 4) 0 cs).map (UInt8.ofNat (left * 16 + n / 4) :: ·) := by
  simp [a2bBase64, sextetChar_ne_pad n, sextet?_sextetChar hn]

theorem a2bBase64_fourth (hn : n < 64) :
    a2bBase64 strict 3 left 0 (sextetChar n :: cs) =
      (a2bBase64 strict 0 0 0 cs).map (UInt8.ofNat (left * 64 + n) :: ·) := by
  simp [a2bBase64, sextetChar_ne_pad n, sextet?_sextetChar hn]

end Read

theorem a2bBase64_pads (strict : Bool) (left : Nat) :
    a2bBase64 strict 2 left 0 ['=', '='] = some [] := by
  simp [a2bBase64]

theorem a2bBase64_pad (strict : Bool) (left : Nat) : a2bBase64 strict 3 left 0 ['='] = some [] := by
  simp [a2bBase64]

theorem ofNat_eq_of_toNat {b : UInt8} {n : Nat} (h : n = b.toNat) : UInt8.ofNat n = b := by
  rw [h, UInt8.ofNat_toNat]

theorem b64decode_b64encode (strict : Bool) (bytes : List UInt8) :
    b64decode strict (b64encode bytes) = some bytes := by
  unfold b64decode
  induction bytes using b64encode.induct with
  | case1 => rfl
  | case2 a =>
    have ha := a.toNat_lt
    rw [b64encode, a2bBase64_first (by omega), a2bBase64_second (by omega), a2bBase64_pads,
      Option.map_some, ofNat_eq_of_toNat (b := a) (by omega)]
  | case3 a b =>
    have ha := a.toNat_lt
    have hb := b.toNat_lt
    rw [b64encode, a2bBase64_first (by omega), a2bBase64_second (by omega), a2bBase64_third (by omega),
      a2bBase64_pad, Option.map_some, Option.map_some, ofNat_eq_of_toNat (b := a) (by omega),
      ofNat_eq_of_toNat (b := b) (by omega)]
  | case4 a b c bytes ih =>
    have ha := a.toNat_lt
    have hb := b.toNat_lt
    have hc := c.toNat_lt
    rw [b64encode, a2bBase64_first (by omega), a2bBase64_second (by omega), a2bBase64_third (by omega),
      a2bBase64_fourth (by omega), ih, Option.map_some, Option.map_some, Option.map_some,
      ofNat_eq_of_toNat (b := a) (by omega), ofNat_eq_of_toNat (b := b) (by omega),
      ofNat_eq_of_toNat (b := c) (by omega)]

theorem b64encode_chars (bytes : List UInt8) :
    ∀ c ∈ b64encode bytes, c = '=' ∨ c ∈ base64Alphabet := by
  induction bytes using b64encode.induct with
  | case1 =>
    intro c hc
    cases hc
  | case2 a => simp [b64encode, sextetChar_mem]
  | case3 a b => simp [b64encode, sextetChar_mem]
  | case4 a b c bytes ih =>
    simp only [b64encode, List.forall_mem_cons, sextetChar_mem, or_true, true_and]
    exact ih

theorem urlsafeB64decode_urlsafeB64encode (bytes : List UInt8) :
    urlsafeB64decode (urlsafeB64encode bytes) = some bytes := by
  have hsame : (urlsafeB64encode bytes).map
      (fun c => if c = '-' then '+' else if c = '_' then '/' else c) = b64encode bytes := by
    rw [urlsafeB64encode, List.map_map]
    apply (List.map_congr_left _).trans (List.map_id _)
    intro c hc
    have hother : c ≠ '-' ∧ c ≠ '_' := by
      rcases b64encode_chars bytes c hc with rfl | hmem
      · decide
      · constructor
        · rintro rfl
          exact absurd hmem (by decide)
        · rintro rfl
          exact absurd hmem (by decide)
    rw [Function.comp_apply, id_eq]
    by_cases hplus : c = '+'
    · rw [if_pos hplus, if_pos rfl, hplus]
    · by_cases hslash : c = '/'
      · rw [if_neg hplus, if_pos hslash, if_neg (by decide), if_pos rfl, hslash]
      · rw [if_neg hplus, if_neg hslash, if_neg hother.1, if_neg hother.2]
  rw [urlsafeB64decode, hsame, b64decode_b64encode]

end Py
