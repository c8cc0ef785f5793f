import XrplX402.Py.Serialize

/-! # Reading JSON text

    The readers behind `json.loads` and `model_validate_json`, on the text of
    a value. A member that stands twice in an object has its last value. The
    words `NaN` and `Infinity` are left out; the limits of the model reader on
    nesting and on the length of a number are added to this one afterwards.

    * **Reading**: one recursion over values, items and members, with fuel for
      every character.
    * **Writing**: `write` puts a value down with any way of escaping the
      characters of a string that can be read back.
    * **Round trip**: what is written is read back, whatever delimiter follows.
    * **Extension**: a text that closes with a bracket means the same whatever
      follows it, so no beginning of it can be read. -/

namespace Py

/-! ## Section 1: Strings -/

/-- The number that four hexadecimal digits stand for. -/
def hexUnit (a b c d : Char) : Option Nat := do
  let a ← hexValue? a
  let b ← hexValue? b
  let c ← hexValue? c
  let d ← hexValue? d
  return ((a * 16 + b) * 16 + c) * 16 + d

/-- `\uXXXX` at the head of a text. -/
def readUnit : List Char → Option (Nat × List Char)
  | '\\' :: 'u' :: a :: b :: c :: d :: r => (hexUnit a b c d).map (·, r)
  | _ => none

def shortEscape (c : Char) : Option Char :=
  if c = doubleQuote ∨ c = '\\' ∨ c = '/' then some c
  else if c = 'n' then some '\n'
  else if c = 'r' then some '\r'
  else if c = 't' then some '\t'
  else if c = 'f' then some (Char.ofNat 12)
  else if c = 'b' then some (Char.ofNat 8)
  else none

/-- A character that `\uXXXX` begins. The first half of a surrogate pair
    stands only before the second one. -/
def unitChar (n : Nat) (r : List Char) : Option (Char × List Char) :=
  if n < 0xd800 ∨ 0xe000 ≤ n then some (Char.ofNat n, r)
  else if n < 0xdc00 then
    match readUnit r with
    | some (m, r) =>
      if 0xdc00 ≤ m ∧ m < 0xe000 then
        some (Char.ofNat (0x10000 + (n - 0xd800) * 0x400 + (m - 0xdc00)), r)
      else none
    | none => none
  else none

/-- A character that is not written as `\uXXXX`. -/
def plainChar : List Char → Option (Char × List Char)
  | '\\' :: c :: r => (shortEscape c).map (·, r)
  | c :: r => if c = '\\' ∨ c = doubleQuote ∨ c.toNat < 32 then none else some (c, r)
  | [] => none

/-- One character of a string, and what is left. -/
def readChar (cs : List Char) : Option (Char × List Char) :=
  match readUnit cs with
  | some (n, r) => unitChar n r
  | none => plainChar cs

/-- The characters up to the closing quote. -/
def readChars : Nat → List Char → Option (List Char × List Char)
  | 0, _ => none
  | n + 1, cs =>
    if cs.head? = some doubleQuote then some ([], cs.tail)
    else (readChar cs).bind fun (c, r) => (readChars n r).map fun (s, t) => (c :: s, t)

/-! ## Section 2: Words -/

def isJsonSpace (c : Char) : Bool := c = ' ' || c = '\t' || c = '\n' || c = '\r'

def skip (cs : List Char) : List Char := cs.dropWhile isJsonSpace

/-- Characters of a number or a literal. -/
def isTokenChar (c : Char) : Bool := isWordChar c && !isJsonSpace c

/-- Digits without a leading zero. -/
def isIntPart (cs : List Char) : Bool :=
  cs = ['0'] || (cs ≠ [] && cs.head? ≠ some '0' && cs.all isAsciiDigit)

def isDigits (cs : List Char) : Bool := cs ≠ [] && cs.all isAsciiDigit

/-- Digits, with or without a sign. -/
def isExponent : List Char → Bool
  | '+' :: ds => isDigits ds
  | '-' :: ds => isDigits ds
  | ds => isDigits ds

def unsigned : List Char → List Char
  | '-' :: cs => cs
  | cs => cs

/-- A number with a fraction or an exponent. -/
def isJsonFloat (cs : List Char) : Bool :=
  let (mantissa, e) := (unsigned cs).span (· ≠ 'e')
  let (whole, dot) := mantissa.span (· ≠ '.')
  isIntPart whole && (dot = [] || isDigits dot.tail) && (e = [] || isExponent e.tail) &&
    (dot ≠ [] || e ≠ [])

def intValue : List Char → Int
  | '-' :: cs => -(Nat.ofDigitChars 10 cs 0)
  | cs => Nat.ofDigitChars 10 cs 0

/-- The value of a word. A float keeps its text, with a small `e`. -/
def literal (w : List Char) : Option Json :=
  if w = "null".toList then some .null
  else if w = "true".toList then some (.bool true)
  else if w = "false".toList then some (.bool false)
  else if isIntPart (unsigned w) then some (.int (intValue w))
  else
    let cs := w.map fun c => if c = 'E' then 'e' else c
    if h : isFloatText (String.ofList cs).toList = true then
      if isJsonFloat cs then some (.float ⟨String.ofList cs, h⟩) else none
    else none

/-! ## Section 3: Values -/

/-- The members of an object: the last value of every key, where the key
    stands first. -/
def lastValues : List (String × Json) → Dict
  | [] => []
  | (k, v) :: kvs =>
    let d := lastValues kvs
    (k, (d.get? k).getD v) :: d.pop k

/-- A comma stands before every member but the first. -/
def separator : Bool → List Char → Option (List Char)
  | true, cs => some cs
  | false, ',' :: cs => some cs
  | false, _ => none

/-- A key with its colon. -/
def readKey (n : Nat) (cs : List Char) : Option (String × List Char) :=
  let cs := skip cs
  if cs.head? = some doubleQuote then
    (readChars n cs.tail).bind fun (k, r) =>
      let r := skip r
      if r.head? = some ':' then some (String.ofList k, r.tail) else none
  else none

mutual

/-- The value at the head of a text, and what is left. -/
def readValue : Nat → List Char → Option (Json × List Char)
  | 0, _ => none
  | n + 1, cs =>
    let cs := skip cs
    if cs.head? = some doubleQuote then
      (readChars n cs.tail).map fun (s, r) => (.str (String.ofList s), r)
    else if cs.head? = some '[' then
      (readItems n true cs.tail).map fun (xs, r) => (.arr xs, r)
    else if cs.head? = some '\x7b' then
      (readMembers n true cs.tail).map fun (kvs, r) => (.obj (lastValues kvs), r)
    else (literal (cs.takeWhile isTokenChar)).map (·, cs.dropWhile isTokenChar)

def readItems : Nat → Bool → List Char → Option (List Json × List Char)
  | 0, _, _ => none
  | n + 1, first, cs =>
    let cs := skip cs
    if cs.head? = some ']' then some ([], cs.tail)
    else
      (separator first cs).bind fun cs => (readValue n cs).bind fun (x, r) =>
        (readItems n false r).map fun (xs, t) => (x :: xs, t)

def readMembers : Nat → Bool → List Char → Option (List (String × Json) × List Char)
  | 0, _, _ => none
  | n + 1, first, cs =>
    let cs := skip cs
    if cs.head? = some '\x7d' then some ([], cs.tail)
    else
      (separator first cs).bind fun cs => (readKey n cs).bind fun (k, r) =>
        (readValue n r).bind fun (v, r) =>
          (readMembers n false r).map fun (kvs, t) => ((k, v) :: kvs, t)

end

/-- The value that a whole text stands for. Every character is worth two steps. -/
def parse (cs : List Char) : Option Json :=
  (readValue (2 * cs.length) cs).bind fun (j, r) => if skip r = [] then some j else none

/-- `json.loads(s)`. -/
def loads (s : String) : Option Json := parse s.toList

example : loads " \x7b\"a\": [1, -2.50E+3, \"\\ud83d\\ude00\"], \"b\": null, \"a\": true\x7d\n" =
    some (.obj [("a", .bool true), ("b", .null)]) := by decide +kernel

/-! ## Section 4: Writing -/

/-- One character of a string without `ensure_ascii`. -/
def escapeControl (c : Char) : List Char :=
  if c = doubleQuote then ['\\', doubleQuote]
  else if c = '\\' then ['\\', '\\']
  else if c = '\n' then ['\\', 'n']
  else if c = '\r' then ['\\', 'r']
  else if c = '\t' then ['\\', 't']
  else if c.toNat = 12 then ['\\', 'f']
  else if c.toNat = 8 then ['\\', 'b']
  else if 32 ≤ c.toNat then [c]
  else unicodeEscape c.toNat

section Writing

variable (esc : Char → List Char)

def writeStr (s : String) : List Char :=
  doubleQuote :: s.toList.flatMap esc ++ [doubleQuote]

mutual

/-- The text of a value whose strings are escaped by `esc`. -/
def write : Json → List Char
  | .str s => writeStr esc s
  | .arr xs => '[' :: writeItems true xs
  | .obj kvs => '\x7b' :: writeMembers true kvs
  | .null => "null".toList
  | .bool b => if b then "true".toList else "false".toList
  | .int n => intChars n
  | .float x => x.text.toList

/-- The members and the closing bracket. -/
def writeItems : Bool → List Json → List Char
  | _, [] => [']']
  | first, x :: xs => (if first then [] else [',']) ++ (write x ++ writeItems false xs)

def writeMembers : Bool → List (String × Json) → List Char
  | _, [] => ['\x7d']
  | first, (k, v) :: d =>
    (if first then [] else [',']) ++ (writeStr esc k ++ ':' :: (write v ++ writeMembers false d))

end

end Writing

/-- `json.dumps` writes in this way. -/
theorem write_escapeChar (j : Json) : write escapeChar j = dump j := by
  induction j using Json.induct with
  | arr xs ih =>
    rw [write, dump]
    congr 1
    generalize true = first
    induction xs generalizing first with
    | nil => rfl
    | cons x xs ihxs =>
      rw [writeItems, dumpArr, ih x (by simp), ihxs fun y hy => ih y (by simp [hy])]
  | obj kvs ih =>
    rw [write, dump]
    congr 1
    generalize true = first
    induction kvs generalizing first with
    | nil => rfl
    | cons kv kvs ihkvs =>
      obtain ⟨k, v⟩ := kv
      rw [writeMembers, dumpObj, ih (k, v) (by simp), ihkvs fun y hy => ih y (by simp [hy])]
      rfl
  | _ => rfl

/-- `esc` can be read back. -/
def ReadsBack (esc : Char → List Char) : Prop := ∀ c r, readChar (esc c ++ r) = some (c, r)

/-! ## Section 5: Characters are read back -/

theorem hexUnit_digits {n : Nat} (h : n < 0x10000) :
    hexUnit (hexDigitChar (n / 4096 % 16)) (hexDigitChar (n / 256 % 16))
      (hexDigitChar (n / 16 % 16)) (hexDigitChar (n % 16)) = some n := by
  have digit : ∀ m, hexValue? (hexDigitChar (m % 16)) = some (m % 16) := fun m =>
    hexValue?_hexDigitChar (Nat.mod_lt m (by omega))
  have hn : ((n / 4096 % 16 * 16 + n / 256 % 16) * 16 + n / 16 % 16) * 16 + n % 16 = n := by omega
  simp only [hexUnit, digit, Option.bind_eq_bind, Option.bind_some, Option.pure_def, hn]

@[simp] theorem readUnit_unicodeEscape {n : Nat} (h : n < 0x10000) (r : List Char) :
    readUnit (unicodeEscape n ++ r) = some (n, r) := by
  simp only [unicodeEscape, hexPadded_four, List.cons_append, List.nil_append, readUnit,
    hexUnit_digits h, Option.map_some]

theorem readChar_unicodeEscape {n : Nat} (h : n < 0xd800 ∨ 0xe000 ≤ n ∧ n < 0x10000)
    (r : List Char) : readChar (unicodeEscape n ++ r) = some (Char.ofNat n, r) := by
  have hn : n < 0x10000 := by omega
  have hplain : n < 0xd800 ∨ 0xe000 ≤ n := by omega
  rw [readChar, readUnit_unicodeEscape hn]
  simp only [unitChar, if_pos hplain]

/-- A pair of surrogates stands for one character. -/
theorem readChar_surrogates {c : Char} (h : 0x10000 ≤ c.toNat) (r : List Char) :
    readChar (unicodeEscape (0xd800 + (c.toNat - 0x10000) / 0x400) ++
      unicodeEscape (0xdc00 + (c.toNat - 0x10000) % 0x400) ++ r) = some (c, r) := by
  have hc := char_toNat_valid c
  obtain ⟨hi, hhi⟩ : ∃ hi, hi = 0xd800 + (c.toNat - 0x10000) / 0x400 := ⟨_, rfl⟩
  obtain ⟨lo, hlo⟩ : ∃ lo, lo = 0xdc00 + (c.toNat - 0x10000) % 0x400 := ⟨_, rfl⟩
  have hfirst : ¬ (hi < 0xd800 ∨ 0xe000 ≤ hi) := by omega
  have hhalf : hi < 0xdc00 := by omega
  have hsecond : 0xdc00 ≤ lo ∧ lo < 0xe000 := by omega
  have hvalue : 0x10000 + (hi - 0xd800) * 0x400 + (lo - 0xdc00) = c.toNat := by omega
  rw [← hhi, ← hlo, List.append_assoc, readChar, readUnit_unicodeEscape (by omega)]
  simp only [unitChar, if_neg hfirst, if_pos hhalf]
  rw [readUnit_unicodeEscape (by omega)]
  simp only [if_pos hsecond, hvalue, Char.ofNat_toNat]

theorem readUnit_eq_none {cs : List Char} (h : ∀ r, cs ≠ '\\' :: 'u' :: r) : readUnit cs = none := by
  unfold readUnit
  split
  · exact absurd rfl (h _)
  · rfl

theorem readChar_short {c d : Char} (h : shortEscape c = some d) (r : List Char) :
    readChar ('\\' :: c :: r) = some (d, r) := by
  have hunit : ∀ s, '\\' :: c :: r ≠ '\\' :: 'u' :: s := by
    intro s heq
    obtain ⟨rfl, -⟩ := List.cons.inj (List.cons.inj heq).2
    have hnone : shortEscape 'u' = none := by decide
    rw [hnone] at h
    cases h
  rw [readChar, readUnit_eq_none hunit]
  simp only [plainChar, h, Option.map_some]

theorem readChar_plain {c : Char} (hb : c ≠ '\\') (hq : c ≠ doubleQuote) (hc : 32 ≤ c.toNat)
    (r : List Char) : readChar (c :: r) = some (c, r) := by
  have hunit : ∀ s, c :: r ≠ '\\' :: 'u' :: s := fun s heq => hb (List.cons.inj heq).1
  have hok : ¬ (c = '\\' ∨ c = doubleQuote ∨ c.toNat < 32) := by
    rintro (h | h | h)
    · exact hb h
    · exact hq h
    · omega
  rw [readChar, readUnit_eq_none hunit]
  show plainChar (c :: r) = some (c, r)
  unfold plainChar
  split
  · next heq => exact absurd (List.cons.inj heq).1 hb
  · next heq =>
    obtain ⟨rfl, rfl⟩ := List.cons.inj heq
    rw [if_neg hok]
  · next heq => cases heq

theorem readsBack_escapeChar : ReadsBack escapeChar := by
  intro c r
  unfold escapeChar
  split
  · next h =>
    subst h
    exact readChar_short rfl r
  split
  · next h =>
    subst h
    exact readChar_short rfl r
  split
  · next h =>
    subst h
    exact readChar_short rfl r
  split
  · next h =>
    subst h
    exact readChar_short rfl r
  split
  · next h =>
    subst h
    exact readChar_short rfl r
  split
  · next h =>
    obtain rfl : c = Char.ofNat 12 := Char.toNat_inj.mp h
    exact readChar_short rfl r
  split
  · next h =>
    obtain rfl : c = Char.ofNat 8 := Char.toNat_inj.mp h
    exact readChar_short rfl r
  split
  · next hq hb _ _ _ _ _ h => exact readChar_plain hb hq h.1 r
  have hc := char_toNat_valid c
  split
  · next h => rw [readChar_unicodeEscape (by omega), Char.ofNat_toNat]
  · next h => exact readChar_surrogates (by omega) r

/-- The two ways of escaping differ in characters that may stand as they are. -/
theorem escapeControl_cases (c : Char) : escapeControl c = escapeChar c ∨
    escapeControl c = [c] ∧ c ≠ '\\' ∧ c ≠ doubleQuote ∧ 32 ≤ c.toNat := by
  unfold escapeControl escapeChar
  iterate 7
    split
    · exact .inl rfl
  split
  · next hq hb _ _ _ _ _ h => exact .inr ⟨rfl, hb, hq, h⟩
  · next h =>
    rw [if_neg (by omega), if_pos (by omega)]
    exact .inl rfl

theorem readsBack_escapeControl : ReadsBack escapeControl := by
  intro c r
  rcases escapeControl_cases c with h | ⟨h, hb, hq, hc⟩
  · rw [h]
    exact readsBack_escapeChar c r
  · rw [h]
    exact readChar_plain hb hq hc r

theorem readChar_quote (r : List Char) : readChar (doubleQuote :: r) = none := by
  have hunit : ∀ s, doubleQuote :: r ≠ '\\' :: 'u' :: s := by
    intro s h
    exact absurd (List.cons.inj h).1 (by decide)
  rw [readChar, readUnit_eq_none hunit]
  show plainChar (doubleQuote :: r) = none
  unfold plainChar
  split
  · next heq => exact absurd (List.cons.inj heq).1 (by decide)
  · next heq =>
    obtain ⟨rfl, rfl⟩ := List.cons.inj heq
    exact if_pos (.inr (.inl rfl))
  · rfl

section RoundTrip

variable {esc : Char → List Char}

theorem ReadsBack.head_ne_quote (h : ReadsBack esc) (c : Char) (r : List Char) :
    (esc c ++ r).head? ≠ some doubleQuote := by
  intro hhead
  have hread := h c r
  cases hcs : esc c ++ r with
  | nil => rw [hcs] at hhead; cases hhead
  | cons d s =>
    rw [hcs] at hhead hread
    obtain rfl : d = doubleQuote := Option.some.inj hhead
    rw [readChar_quote] at hread
    cases hread

theorem ReadsBack.length_le (h : ReadsBack esc) (cs : List Char) :
    cs.length ≤ (cs.flatMap esc).length := by
  induction cs with
  | nil => simp
  | cons c cs ih =>
    have hc : esc c ≠ [] := by
      intro hnil
      have hread := h c []
      rw [hnil] at hread
      cases hread
    have hpos := List.length_pos_iff.mpr hc
    simp only [List.flatMap_cons, List.length_append, List.length_cons]
    omega

theorem readChars_write (h : ReadsBack esc) {n : Nat} {cs : List Char} (r : List Char)
    (hn : cs.length < n) :
    readChars n (cs.flatMap esc ++ doubleQuote :: r) = some (cs, r) := by
  induction cs generalizing n with
  | nil =>
    obtain ⟨m, rfl⟩ := Nat.exists_eq_add_of_lt hn
    rfl
  | cons c cs ih =>
    obtain ⟨m, rfl⟩ := Nat.exists_eq_add_of_lt hn
    have hm : cs.length < (c :: cs).length + m := by simp only [List.length_cons]; omega
    rw [List.flatMap_cons, List.append_assoc, readChars, if_neg (h.head_ne_quote c _), h c,
      Option.bind_some]
    show (readChars ((c :: cs).length + m) _).map _ = _
    rw [ih hm]
    rfl

/-! ## Section 6: Words are read back -/

theorem toDigits_head {n : Nat} (hn : 0 < n) : (Nat.toDigits 10 n).head? ≠ some '0' := by
  induction n using Nat.strongRecOn with
  | ind n ih =>
    by_cases h : n < 10
    · rw [Nat.toDigits_of_lt_base h]
      have hall : ∀ m < 10, 0 < m → [m.digitChar].head? ≠ some '0' := by decide
      exact hall n h hn
    · rw [Nat.toDigits_of_base_le (by omega) (by omega), List.head?_append_of_ne_nil _ Nat.toDigits_ne_nil]
      exact ih (n / 10) (by omega) (by omega)

theorem isIntPart_toDigits (n : Nat) : isIntPart (Nat.toDigits 10 n) = true := by
  rcases Nat.eq_zero_or_pos n with rfl | hn
  · rfl
  · have hdigits : (Nat.toDigits 10 n).all isAsciiDigit = true :=
      List.all_eq_true.mpr fun c hc => isAsciiDigit_of_mem_toDigits hc
    have hnil : Nat.toDigits 10 n ≠ [] := Nat.toDigits_ne_nil
    have hhead := toDigits_head hn
    simp only [isIntPart, hdigits, hnil, hhead, ne_eq, not_false_eq_true, decide_true, Bool.and_self,
      Bool.or_true]

theorem unsigned_of_digits {cs : List Char} (h : ∀ c ∈ cs, isAsciiDigit c = true) :
    unsigned cs = cs ∧ intValue cs = Nat.ofDigitChars 10 cs 0 := by
  have hhead : ∀ r, cs ≠ '-' :: r := by
    rintro r rfl
    exact absurd (h '-' (by simp)) (by decide)
  constructor
  · unfold unsigned
    split
    · exact absurd rfl (hhead _)
    · rfl
  · unfold intValue
    split
    · exact absurd rfl (hhead _)
    · rfl

theorem intPart_intChars (n : Int) : isIntPart (unsigned (intChars n)) = true ∧
    intValue (intChars n) = n := by
  unfold intChars
  split
  · next h =>
    refine ⟨isIntPart_toDigits _, ?_⟩
    show -(Nat.ofDigitChars 10 (Nat.toDigits 10 n.natAbs) 0 : Int) = n
    rw [Nat.ofDigitChars_ten_toDigits]
    omega
  · next h =>
    obtain ⟨hu, hv⟩ := unsigned_of_digits fun c hc => isAsciiDigit_of_mem_toDigits hc
      (n := n.natAbs)
    rw [hu, hv, Nat.ofDigitChars_ten_toDigits]
    exact ⟨isIntPart_toDigits _, by omega⟩

end RoundTrip

mutual

/-- The keys of every dictionary differ, and every float is a JSON number. -/
def Json.proper : Json → Bool
  | .float x => isJsonFloat x.text.toList
  | .arr xs => properItems xs
  | .obj kvs => decide (kvs.map Prod.fst).Nodup && properMembers kvs
  | .null => true
  | .bool _ => true
  | .int _ => true
  | .str _ => true

def Json.properItems : List Json → Bool
  | [] => true
  | x :: xs => x.proper && properItems xs

def Json.properMembers : List (String × Json) → Bool
  | [] => true
  | (_, v) :: kvs => v.proper && properMembers kvs

end

theorem proper_arr {xs : List Json} : (Json.arr xs).proper = true ↔ ∀ x ∈ xs, x.proper = true := by
  rw [Json.proper]
  induction xs with
  | nil => simp [Json.properItems]
  | cons x xs ih => simp [Json.properItems, ih]

theorem proper_obj {kvs : Dict} : (Json.obj kvs).proper = true ↔
    (kvs.map Prod.fst).Nodup ∧ ∀ kv ∈ kvs, kv.2.proper = true := by
  have hmembers : Json.properMembers kvs = true ↔ ∀ kv ∈ kvs, kv.2.proper = true := by
    induction kvs with
    | nil => simp [Json.properMembers]
    | cons kv kvs ih => simp [Json.properMembers, ih]
  rw [Json.proper, Bool.and_eq_true, decide_eq_true_eq, hmembers]

/-- A word contains no blanks. -/
theorem dump_token_chars {j : Json} (hj : j.isWord = true) : ∀ c ∈ dump j, isTokenChar c = true := by
  have digit : ∀ c, isAsciiDigit c = true → isJsonSpace c = false := by
    intro c hc
    have hrange : 48 ≤ c.toNat := by
      have h : 48 ≤ c.toNat ∧ c.toNat ≤ 57 := by
        simpa [isAsciiDigit, Char.le_def, UInt32.le_iff_toNat_le] using hc
      exact h.1
    have ne : ∀ d : Char, d.toNat < 48 → c ≠ d := by
      rintro d hd rfl
      omega
    simp [isJsonSpace, ne]
  intro c hc
  rw [isTokenChar, dump_word_chars hj c hc, Bool.true_and, Bool.not_eq_true']
  cases j with
  | null => exact (List.all_iff_forall_prop.mp (by decide) :
      ∀ c ∈ "null".toList, isJsonSpace c = false) c hc
  | bool b =>
    cases b
    · exact (List.all_iff_forall_prop.mp (by decide) :
        ∀ c ∈ "false".toList, isJsonSpace c = false) c hc
    · exact (List.all_iff_forall_prop.mp (by decide) :
        ∀ c ∈ "true".toList, isJsonSpace c = false) c hc
  | int n =>
    simp only [dump, intChars] at hc
    split at hc
    · rcases List.mem_cons.mp hc with rfl | hc
      · decide
      · exact digit c (isAsciiDigit_of_mem_toDigits hc)
    · exact digit c (isAsciiDigit_of_mem_toDigits hc)
  | float x =>
    rcases isFloatText_chars x.isFloat c hc with h | h
    · exact digit c h
    · exact (List.all_iff_forall_prop.mp (by decide) :
        ∀ c ∈ "+-.eIinfty".toList, isJsonSpace c = false) c h
  | str s => cases hj
  | arr xs => cases hj
  | obj d => cases hj

theorem mem_unsigned {c : Char} {cs : List Char} (h : c ∈ cs) : c = '-' ∨ c ∈ unsigned cs := by
  unfold unsigned
  split
  · exact List.mem_cons.mp h
  · exact .inr h

/-- The text of a float is not that of an integer. -/
theorem isIntPart_of_isFloatText {cs : List Char} (h : isFloatText cs = true) :
    isIntPart (unsigned cs) = false := by
  by_contra hcon
  have hdigits : ∀ c ∈ unsigned cs, isAsciiDigit c = true := by
    intro c hc
    rw [Bool.not_eq_false, isIntPart, Bool.or_eq_true, decide_eq_true_eq] at hcon
    rcases hcon with hzero | hcon
    · rw [hzero, List.mem_singleton] at hc
      exact hc ▸ by decide
    · simp only [Bool.and_eq_true, List.all_eq_true] at hcon
      exact hcon.2 c hc
  obtain ⟨c, hc, hmark⟩ := List.any_eq_true.mp (Bool.and_eq_true .. ▸ h :).2
  have hmarks : ∀ d ∈ ".en".toList, d ≠ '-' ∧ isAsciiDigit d = false :=
    List.all_iff_forall_prop.mp (by decide)
  obtain ⟨hminus, hno⟩ := hmarks c (List.contains_iff_mem.mp hmark)
  rcases mem_unsigned hc with heq | hin
  · exact hminus heq
  · rw [hdigits c hin] at hno
    cases hno

theorem literal_float {x : FloatLit} (hx : isJsonFloat x.text.toList = true) :
    literal x.text.toList = some (.float x) := by
  have hfloat := x.isFloat
  have hword : ∀ w, isFloatText w = false → x.text.toList ≠ w := by
    intro w hw heq
    rw [heq, hw] at hfloat
    cases hfloat
  have hmap : x.text.toList.map (fun c => if c = 'E' then 'e' else c) = x.text.toList := by
    refine (List.map_congr_left fun c hc => ?_).trans (List.map_id _)
    have hE : c ≠ 'E' := by
      rintro rfl
      rcases isFloatText_chars hfloat 'E' hc with h | h <;> revert h <;> decide
    exact if_neg hE
  rw [literal, if_neg (hword _ (by decide)), if_neg (hword _ (by decide)),
    if_neg (hword _ (by decide)), isIntPart_of_isFloatText hfloat]
  simp only [hmap, String.ofList_toList, hfloat, hx, Bool.false_eq_true, if_false, dif_pos, if_true]

theorem literal_dump {j : Json} (hj : j.isWord = true) (hp : j.proper = true) :
    literal (dump j) = some j := by
  cases j with
  | null => rfl
  | bool b => cases b <;> rfl
  | int n =>
    obtain ⟨hint, hvalue⟩ := intPart_intChars n
    have hword : ∀ w, w = "null".toList ∨ w = "true".toList ∨ w = "false".toList →
        intChars n ≠ w := fun w hw heq => (literal_ne_number hw).2 n heq.symm
    rw [dump, literal, if_neg (hword _ (.inl rfl)), if_neg (hword _ (.inr (.inl rfl))),
      if_neg (hword _ (.inr (.inr rfl))), if_pos hint, hvalue]
  | float x => exact literal_float hp
  | str s => cases hj
  | arr xs => cases hj
  | obj d => cases hj

/-! ## Section 7: Values are read back -/

theorem skip_of_head {cs : List Char} (h : ∀ c ∈ cs.head?, isJsonSpace c = false) : skip cs = cs := by
  cases cs with
  | nil => rfl
  | cons c cs =>
    have hc : isJsonSpace c = false := h c rfl
    rw [skip, List.dropWhile_cons_of_neg (by rw [hc]; exact Bool.false_ne_true)]

theorem skip_cons {c : Char} (h : isJsonSpace c = false) (r : List Char) : skip (c :: r) = c :: r :=
  skip_of_head fun _ hd => Option.some.inj hd ▸ h

theorem token_split {w r : List Char} (hw : ∀ c ∈ w, isTokenChar c = true) (hr : Delimited r) :
    (w ++ r).takeWhile isTokenChar = w ∧ (w ++ r).dropWhile isTokenChar = r := by
  rw [List.takeWhile_append_of_pos hw, List.dropWhile_append_of_pos hw]
  cases r with
  | nil => simp
  | cons c r =>
    have hc : isTokenChar c = false := by
      have hdelim : isDelimiter c = true := hr c rfl
      rw [isTokenChar, isWordChar, hdelim]
      rfl
    simp [hc]

section RoundTrip

variable {esc : Char → List Char}

theorem lastValues_of_nodup {kvs : List (String × Json)} (h : (kvs.map Prod.fst).Nodup) :
    lastValues kvs = kvs := by
  induction kvs with
  | nil => rfl
  | cons kv kvs ih =>
    obtain ⟨k, v⟩ := kv
    have hk : k ∉ kvs.map Prod.fst := (List.nodup_cons.mp h).1
    have habsent : Dict.get? kvs k = none := by
      refine List.lookup_eq_none_iff.mpr fun kv hkv => ?_
      have hne : k ≠ kv.1 := by
        rintro rfl
        exact hk (List.mem_map_of_mem hkv)
      simpa using hne
    have hpop : Dict.pop kvs k = kvs := by
      refine List.filter_eq_self.mpr fun kv hkv => ?_
      have hne : kv.1 ≠ k := by
        rintro rfl
        exact hk (List.mem_map_of_mem hkv)
      simpa using hne
    rw [lastValues, ih (List.nodup_cons.mp h).2, habsent, hpop, Option.getD_none]

/-- A value starts with a character that is neither a blank nor a delimiter. -/
theorem write_head (esc : Char → List Char) (j : Json) : ∃ c t, write esc j = c :: t ∧
    isJsonSpace c = false ∧ isDelimiter c = false := by
  have word : ∀ {i : Json}, i.isWord = true → ∃ c t, dump i = c :: t ∧ isJsonSpace c = false ∧
      isDelimiter c = false := by
    intro i hi
    cases hd : dump i with
    | nil => exact absurd hd (dump_word_ne_nil hi)
    | cons c t =>
      have hc : isTokenChar c = true := dump_token_chars hi c (hd ▸ List.mem_cons_self)
      simp only [isTokenChar, isWordChar, Bool.and_eq_true, Bool.not_eq_true'] at hc
      exact ⟨c, t, rfl, hc.2, hc.1.1.1.1⟩
  cases j with
  | str s => exact ⟨_, _, rfl, by decide, by decide⟩
  | arr xs => exact ⟨_, _, rfl, by decide, by decide⟩
  | obj kvs => exact ⟨_, _, rfl, by decide, by decide⟩
  | null => exact word (i := .null) rfl
  | bool b => exact word (i := .bool b) rfl
  | int n => exact word (i := .int n) rfl
  | float x => exact word (i := .float x) rfl

theorem skip_write (j : Json) (r : List Char) : skip (write esc j ++ r) = write esc j ++ r := by
  obtain ⟨c, t, hct, hspace, -⟩ := write_head esc j
  refine skip_of_head fun d hd => ?_
  rw [hct] at hd
  exact Option.some.inj hd ▸ hspace

theorem head_write_ne (j : Json) (r : List Char) {d : Char} (hd : isDelimiter d = true) :
    (write esc j ++ r).head? ≠ some d := by
  obtain ⟨c, t, hct, -, hdelim⟩ := write_head esc j
  rw [hct]
  intro h
  rw [Option.some.inj h, hd] at hdelim
  cases hdelim

/-- `j` is read back from its text, whatever delimiter follows. -/
def ReadsValue (esc : Char → List Char) (j : Json) : Prop :=
  ∀ n r, 2 * (write esc j).length ≤ n → Delimited r → readValue n (write esc j ++ r) = some (j, r)

theorem readsValue_word {j : Json} (hj : j.isWord = true) (hp : j.proper = true) :
    ReadsValue esc j := by
  intro n r hn hr
  have hwrite : write esc j = dump j := by cases j <;> first | rfl | cases hj
  obtain ⟨c, t, hct, -, -⟩ := write_head esc j
  obtain ⟨m, rfl⟩ : ∃ m, n = m + 1 := ⟨n - 1, by rw [hct, List.length_cons] at hn; omega⟩
  have hc : isTokenChar c = true := dump_token_chars hj c (hwrite ▸ hct ▸ List.mem_cons_self)
  have hopen : ∀ d, isTokenChar d = false → (write esc j ++ r).head? ≠ some d := by
    intro d hd heq
    rw [hct] at heq
    rw [Option.some.inj heq, hd] at hc
    cases hc
  obtain ⟨htake, hdrop⟩ := token_split (dump_token_chars hj) hr
  rw [readValue, skip_write, if_neg (hopen _ (by decide)), if_neg (hopen _ (by decide)),
    if_neg (hopen _ (by decide)), hwrite, htake, hdrop, literal_dump hj hp]
  rfl

theorem writeItems_delimited (xs : List Json) (r : List Char) :
    Delimited (writeItems esc false xs ++ r) := by
  cases xs with
  | nil => exact .cons (by decide) _
  | cons x xs => exact .cons (by decide) _

theorem writeMembers_delimited (kvs : Dict) (r : List Char) :
    Delimited (writeMembers esc false kvs ++ r) := by
  cases kvs with
  | nil => exact .cons (by decide) _
  | cons kv kvs => exact .cons (by decide) _

theorem length_write_pos (esc : Char → List Char) (j : Json) : 0 < (write esc j).length := by
  obtain ⟨c, t, hct, -, -⟩ := write_head esc j
  rw [hct]
  exact Nat.succ_pos _

theorem readItems_write {xs : List Json} (ih : ∀ x ∈ xs, ReadsValue esc x) :
    ∀ first n r, 2 * (writeItems esc first xs).length < n →
      readItems n first (writeItems esc first xs ++ r) = some (xs, r) := by
  induction xs with
  | nil =>
    intro first n r hn
    obtain ⟨m, rfl⟩ := Nat.exists_eq_add_of_lt hn
    rfl
  | cons x xs ihxs =>
    intro first n r hn
    obtain ⟨m, rfl⟩ : ∃ m, n = m + 1 := ⟨n - 1, by omega⟩
    have hpos := length_write_pos esc x
    have hvalue : readValue m (write esc x ++ (writeItems esc false xs ++ r)) =
        some (x, writeItems esc false xs ++ r) := by
      refine ih x List.mem_cons_self m _ ?_ (writeItems_delimited xs r)
      simp only [writeItems, List.length_append] at hn
      omega
    have hrest : readItems m false (writeItems esc false xs ++ r) = some (xs, r) := by
      refine ihxs (fun y hy => ih y (List.mem_cons_of_mem _ hy)) false m r ?_
      simp only [writeItems, List.length_append] at hn
      omega
    cases first with
    | true =>
      show readItems (m + 1) true (write esc x ++ writeItems esc false xs ++ r) = _
      rw [List.append_assoc, readItems, skip_write, if_neg (head_write_ne x _ (by decide))]
      show (readValue m (write esc x ++ (writeItems esc false xs ++ r))).bind _ = _
      rw [hvalue]
      show (readItems m false _).map _ = _
      rw [hrest]
      rfl
    | false =>
      show readItems (m + 1) false (',' :: (write esc x ++ writeItems esc false xs ++ r)) = _
      rw [List.append_assoc, readItems, skip_cons (by decide),
        if_neg (by simp)]
      show (readValue m (write esc x ++ (writeItems esc false xs ++ r))).bind _ = _
      rw [hvalue]
      show (readItems m false _).map _ = _
      rw [hrest]
      rfl

theorem readKey_write (hesc : ReadsBack esc) {n : Nat} (k : String) (r : List Char)
    (hn : (writeStr esc k).length ≤ n) :
    readKey n (writeStr esc k ++ ':' :: r) = some (k, r) := by
  have hlen : k.toList.length < n := by
    have hle := hesc.length_le k.toList
    simp only [writeStr, List.length_cons, List.length_append] at hn
    omega
  have hchars : readChars n (k.toList.flatMap esc ++ doubleQuote :: ':' :: r) =
      some (k.toList, ':' :: r) := readChars_write hesc _ hlen
  have htext : writeStr esc k ++ ':' :: r =
      doubleQuote :: (k.toList.flatMap esc ++ doubleQuote :: ':' :: r) := by
    simp [writeStr]
  rw [readKey, htext, skip_cons (by decide)]
  show (readChars n (k.toList.flatMap esc ++ doubleQuote :: ':' :: r)).bind _ = _
  rw [hchars]
  have hcolon : skip (':' :: r) = ':' :: r := skip_cons (by decide) r
  simp only [Option.bind_some, hcolon, List.head?_cons, if_true, List.tail_cons, String.ofList_toList]

theorem readMembers_write (hesc : ReadsBack esc) {kvs : Dict}
    (ih : ∀ kv ∈ kvs, ReadsValue esc kv.2) :
    ∀ first n r, 2 * (writeMembers esc first kvs).length < n →
      readMembers n first (writeMembers esc first kvs ++ r) = some (kvs, r) := by
  induction kvs with
  | nil =>
    intro first n r hn
    obtain ⟨m, rfl⟩ := Nat.exists_eq_add_of_lt hn
    rfl
  | cons kv kvs ihkvs =>
    intro first n r hn
    obtain ⟨k, v⟩ := kv
    obtain ⟨m, rfl⟩ : ∃ m, n = m + 1 := ⟨n - 1, by omega⟩
    simp only [writeMembers, List.length_append, List.length_cons] at hn
    obtain ⟨rest, htail⟩ : ∃ rest, rest = writeMembers esc false kvs ++ r := ⟨_, rfl⟩
    have hkey : readKey m (writeStr esc k ++ ':' :: (write esc v ++ rest)) =
        some (k, write esc v ++ rest) := readKey_write hesc k _ (by omega)
    have hvalue : readValue m (write esc v ++ rest) = some (v, rest) :=
      ih (k, v) List.mem_cons_self m _ (by show 2 * (write esc v).length ≤ m; omega)
        (htail ▸ writeMembers_delimited kvs r)
    have hrest : readMembers m false rest = some (kvs, r) := by
      rw [htail]
      exact ihkvs (fun y hy => ih y (List.mem_cons_of_mem _ hy)) false m r (by omega)
    have hstep : (readKey m (writeStr esc k ++ ':' :: (write esc v ++ rest))).bind (fun (k, r) =>
        (readValue m r).bind fun (v, r) =>
          (readMembers m false r).map fun (kvs, t) => ((k, v) :: kvs, t)) = some ((k, v) :: kvs, r) := by
      rw [hkey]
      show (readValue m (write esc v ++ rest)).bind _ = _
      rw [hvalue]
      show (readMembers m false rest).map _ = _
      rw [hrest]
      rfl
    cases first with
    | true =>
      have htext : writeMembers esc true ((k, v) :: kvs) ++ r =
          doubleQuote :: (k.toList.flatMap esc ++ doubleQuote :: ':' :: (write esc v ++ rest)) := by
        simp [writeMembers, writeStr, htail]
      have hstr : writeStr esc k ++ ':' :: (write esc v ++ rest) =
          doubleQuote :: (k.toList.flatMap esc ++ doubleQuote :: ':' :: (write esc v ++ rest)) := by
        simp [writeStr]
      rw [hstr] at hstep
      rw [htext, readMembers, skip_cons (by decide), if_neg (by simp [doubleQuote])]
      exact hstep
    | false =>
      have htext : writeMembers esc false ((k, v) :: kvs) ++ r =
          ',' :: (writeStr esc k ++ ':' :: (write esc v ++ rest)) := by
        simp [writeMembers, htail]
      rw [htext, readMembers, skip_cons (by decide), if_neg (by simp)]
      exact hstep

/-- What is written is read back. -/
theorem readsValue (hesc : ReadsBack esc) (j : Json) (hp : j.proper = true) : ReadsValue esc j := by
  induction j using Json.induct with
  | null => exact readsValue_word rfl hp
  | bool b => exact readsValue_word rfl hp
  | int n => exact readsValue_word rfl hp
  | float x => exact readsValue_word rfl hp
  | str s =>
    intro n r hn _
    have hpos := length_write_pos esc (.str s)
    obtain ⟨m, rfl⟩ : ∃ m, n = m + 1 := ⟨n - 1, by omega⟩
    have hle := hesc.length_le s.toList
    simp only [write, writeStr, List.length_cons, List.length_append] at hn
    have htext : write esc (.str s) ++ r = doubleQuote :: (s.toList.flatMap esc ++ doubleQuote :: r) := by
      simp [write, writeStr]
    rw [htext, readValue, skip_cons (by decide), if_pos (List.head?_cons ..)]
    show (readChars m (s.toList.flatMap esc ++ doubleQuote :: r)).map _ = _
    rw [readChars_write hesc _ (by omega)]
    show some (Json.str (String.ofList s.toList), r) = _
    rw [String.ofList_toList]
  | arr xs ih =>
    intro n r hn _
    have hitems := proper_arr.mp hp
    have hpos := length_write_pos esc (.arr xs)
    obtain ⟨m, rfl⟩ : ∃ m, n = m + 1 := ⟨n - 1, by omega⟩
    simp only [write, List.length_cons] at hn
    rw [write, List.cons_append, readValue, skip_cons (by decide),
      if_neg (by simp [doubleQuote]), if_pos (List.head?_cons ..)]
    show (readItems m true (writeItems esc true xs ++ r)).map _ = _
    rw [readItems_write (fun x hx => ih x hx (hitems x hx)) true m r (by omega)]
    rfl
  | obj kvs ih =>
    intro n r hn _
    obtain ⟨hkeys, hmembers⟩ := proper_obj.mp hp
    have hpos := length_write_pos esc (.obj kvs)
    obtain ⟨m, rfl⟩ : ∃ m, n = m + 1 := ⟨n - 1, by omega⟩
    simp only [write, List.length_cons] at hn
    rw [write, List.cons_append, readValue, skip_cons (by decide),
      if_neg (by simp [doubleQuote]), if_neg (by simp), if_pos (List.head?_cons ..)]
    show (readMembers m true (writeMembers esc true kvs ++ r)).map _ = _
    rw [readMembers_write hesc (fun kv hkv => ih kv hkv (hmembers kv hkv)) true m r (by omega)]
    show some (Json.obj (lastValues kvs), r) = _
    rw [lastValues_of_nodup hkeys]

theorem parse_write (hesc : ReadsBack esc) {j : Json} (hp : j.proper = true) :
    parse (write esc j) = some j := by
  have hnil : Delimited [] := by simp [Delimited]
  have hread := readsValue hesc j hp _ [] (le_refl _) hnil
  rw [List.append_nil] at hread
  rw [parse, hread]
  rfl

end RoundTrip

/-! ## Section 8: What follows a text -/

section Extension

variable {s : List Char}

theorem readUnit_append {p r : List Char} {n : Nat} (h : readUnit p = some (n, r)) :
    readUnit (p ++ s) = some (n, r ++ s) := by
  unfold readUnit at h
  split at h
  · next a b c d r' =>
    obtain ⟨m, hm, heq⟩ := Option.map_eq_some_iff.mp h
    obtain ⟨rfl, rfl⟩ := Prod.mk.inj heq
    show (hexUnit a b c d).map _ = _
    rw [hm]
    rfl
  · cases h

theorem unitChar_append {r t : List Char} {n : Nat} {c : Char} (h : unitChar n r = some (c, t)) :
    unitChar n (r ++ s) = some (c, t ++ s) := by
  unfold unitChar at h ⊢
  split at h
  · next hplain =>
    obtain ⟨rfl, rfl⟩ := Prod.mk.inj (Option.some.inj h)
    rw [if_pos hplain]
  · next hplain =>
    rw [if_neg hplain]
    split at h
    · next hhalf =>
      rw [if_pos hhalf]
      split at h
      · next m r' hunit =>
        rw [readUnit_append hunit]
        split at h
        · next hsecond =>
          obtain ⟨rfl, rfl⟩ := Prod.mk.inj (Option.some.inj h)
          exact if_pos hsecond
        · cases h
      · cases h
    · cases h

theorem readChar_append {p r : List Char} {c : Char} (h : readChar p = some (c, r)) :
    readChar (p ++ s) = some (c, r ++ s) := by
  unfold readChar at h
  split at h
  · next n t hunit =>
    rw [readChar, readUnit_append hunit]
    exact unitChar_append h
  · unfold plainChar at h
    split at h
    · next d t =>
      obtain ⟨e, he, heq⟩ := Option.map_eq_some_iff.mp h
      obtain ⟨rfl, rfl⟩ := Prod.mk.inj heq
      exact readChar_short he _
    · next d t _ =>
      split at h
      · cases h
      · next hok =>
        obtain ⟨rfl, rfl⟩ := Prod.mk.inj (Option.some.inj h)
        exact readChar_plain (fun hb => hok (.inl hb)) (fun hq => hok (.inr (.inl hq)))
          (by by_contra hc; exact hok (.inr (.inr (by omega)))) _
    · cases h

/-- A string means the same whatever follows its closing quote. -/
theorem readChars_append {n m : Nat} {p r cs : List Char} (h : readChars n p = some (cs, r))
    (hnm : n ≤ m) : readChars m (p ++ s) = some (cs, r ++ s) := by
  induction n generalizing m p cs with
  | zero => cases h
  | succ n ih =>
    obtain ⟨m, rfl⟩ : ∃ k, m = k + 1 := ⟨m - 1, by omega⟩
    rw [readChars] at h ⊢
    cases p with
    | nil => cases h
    | cons c p =>
      by_cases hq : c = doubleQuote
      · subst hq
        obtain ⟨rfl, rfl⟩ := Prod.mk.inj (Option.some.inj h)
        rfl
      · have hhead : ∀ t : List Char, (c :: t).head? ≠ some doubleQuote :=
          fun t heq => hq (Option.some.inj heq)
        rw [if_neg (hhead _)] at h
        obtain ⟨⟨d, t⟩, hd, ht⟩ := Option.bind_eq_some_iff.mp h
        obtain ⟨⟨ds, u⟩, hds, heq⟩ := Option.map_eq_some_iff.mp ht
        obtain ⟨rfl, rfl⟩ := Prod.mk.inj heq
        rw [List.cons_append, if_neg (hhead _), ← List.cons_append, readChar_append hd, Option.bind_some]
        show (readChars m (t ++ s)).map _ = _
        rw [ih hds (by omega)]
        rfl

theorem skip_append {p : List Char} (h : skip p ≠ []) : skip (p ++ s) = skip p ++ s := by
  rw [skip, List.dropWhile_append, if_neg (by simpa [skip] using h)]
  rfl

theorem separator_append {first : Bool} {p r : List Char} (h : separator first p = some r) :
    separator first (p ++ s) = some (r ++ s) := by
  unfold separator at h
  split at h
  · exact congrArg (some <| · ++ s) (Option.some.inj h)
  · obtain rfl := Option.some.inj h
    rfl
  · cases h

theorem head_append {p : List Char} (h : p ≠ []) : (p ++ s).head? = p.head? :=
  List.head?_append_of_ne_nil _ h

theorem readKey_append {n m : Nat} {p r : List Char} {k : String} (h : readKey n p = some (k, r))
    (hnm : n ≤ m) : readKey m (p ++ s) = some (k, r ++ s) := by
  unfold readKey at h ⊢
  by_cases hp : skip p = []
  · rw [hp] at h
    cases h
  obtain ⟨c, t, hct⟩ := List.exists_cons_of_ne_nil hp
  rw [skip_append hp, hct]
  rw [hct] at h
  by_cases hc : c = doubleQuote
  · subst hc
    obtain ⟨⟨cs, u⟩, hcs, hu⟩ := Option.bind_eq_some_iff.mp h
    have hchars : readChars m ((doubleQuote :: t ++ s).tail) = some (cs, u ++ s) :=
      readChars_append (p := t) hcs hnm
    have hcolon : (skip u).head? = some ':' ∧ (String.ofList cs, (skip u).tail) = (k, r) := by
      by_cases hcolon : (skip u).head? = some ':'
      · exact ⟨hcolon, Option.some.inj ((if_pos hcolon).symm.trans hu)⟩
      · exact absurd ((if_neg hcolon).symm.trans hu) (by simp)
    obtain ⟨d, v, hdv⟩ := List.exists_cons_of_ne_nil
      (show skip u ≠ [] by intro hnil; rw [hnil] at hcolon; exact absurd hcolon.1 (by simp))
    show (readChars m ((doubleQuote :: t ++ s).tail)).bind _ = _
    rw [hchars]
    show (if (skip (u ++ s)).head? = some ':' then
      some (String.ofList cs, (skip (u ++ s)).tail) else none) = _
    rw [skip_append (by rw [hdv]; exact List.cons_ne_nil _ _)]
    rw [hdv] at hcolon ⊢
    obtain ⟨rfl, rfl⟩ := Prod.mk.inj hcolon.2
    exact if_pos hcolon.1
  · exact absurd ((if_neg fun heq => hc (Option.some.inj heq)).symm.trans h) (by simp)

theorem isWord_of_literal {w : List Char} {j : Json} (h : literal w = some j) : j.isWord = true := by
  unfold literal at h
  split at h
  · obtain rfl := Option.some.inj h; rfl
  split at h
  · obtain rfl := Option.some.inj h; rfl
  split at h
  · obtain rfl := Option.some.inj h; rfl
  split at h
  · obtain rfl := Option.some.inj h; rfl
  dsimp only at h
  split at h
  · split at h
    · obtain rfl := Option.some.inj h; rfl
    · cases h
  · cases h

/-- A value with brackets or quotes, or before some other text, means the same
    whatever follows. -/
def ExtendsValue (s : List Char) (n : Nat) : Prop :=
  ∀ m p j r, readValue n p = some (j, r) → n ≤ m → r ≠ [] ∨ j.isWord = false →
    readValue m (p ++ s) = some (j, r ++ s)

def ExtendsItems (s : List Char) (n : Nat) : Prop :=
  ∀ m first p xs r, readItems n first p = some (xs, r) → n ≤ m →
    readItems m first (p ++ s) = some (xs, r ++ s)

def ExtendsMembers (s : List Char) (n : Nat) : Prop :=
  ∀ m first p kvs r, readMembers n first p = some (kvs, r) → n ≤ m →
    readMembers m first (p ++ s) = some (kvs, r ++ s)

theorem readValue_of_skip_nil {n : Nat} {p : List Char} (h : skip p = []) : readValue n p = none := by
  cases n with
  | zero => rfl
  | succ n => rw [readValue, h]; rfl

theorem readItems_nil (n : Nat) : readItems n false [] = none := by
  cases n <;> rfl

theorem readMembers_nil (n : Nat) : readMembers n false [] = none := by
  cases n <;> rfl

theorem extendsValue_succ {n : Nat} (hitems : ExtendsItems s n) (hmembers : ExtendsMembers s n) :
    ExtendsValue s (n + 1) := by
  intro m p j r h hnm hend
  obtain ⟨m, rfl⟩ : ∃ k, m = k + 1 := ⟨m - 1, by omega⟩
  by_cases hp : skip p = []
  · rw [readValue_of_skip_nil hp] at h
    cases h
  rw [readValue] at h ⊢
  rw [skip_append hp, head_append hp]
  have htail : (skip p ++ s).tail = (skip p).tail ++ s := List.tail_append_of_ne_nil hp
  by_cases hq : (skip p).head? = some doubleQuote
  · rw [if_pos hq] at h ⊢
    obtain ⟨⟨cs, t⟩, hcs, heq⟩ := Option.map_eq_some_iff.mp h
    obtain ⟨rfl, rfl⟩ := Prod.mk.inj heq
    rw [htail, readChars_append hcs (by omega)]
    rfl
  rw [if_neg hq] at h ⊢
  by_cases ha : (skip p).head? = some '['
  · rw [if_pos ha] at h ⊢
    obtain ⟨⟨xs, t⟩, hxs, heq⟩ := Option.map_eq_some_iff.mp h
    obtain ⟨rfl, rfl⟩ := Prod.mk.inj heq
    rw [htail, hitems m true _ xs t hxs (by omega)]
    rfl
  rw [if_neg ha] at h ⊢
  by_cases ho : (skip p).head? = some '\x7b'
  · rw [if_pos ho] at h ⊢
    obtain ⟨⟨kvs, t⟩, hkvs, heq⟩ := Option.map_eq_some_iff.mp h
    obtain ⟨rfl, rfl⟩ := Prod.mk.inj heq
    rw [htail, hmembers m true _ kvs t hkvs (by omega)]
    rfl
  rw [if_neg ho] at h ⊢
  obtain ⟨i, hi, heq⟩ := Option.map_eq_some_iff.mp h
  obtain ⟨rfl, rfl⟩ := Prod.mk.inj heq
  -- a word ends before the text does, so nothing that follows belongs to it
  have hrest : (skip p).dropWhile isTokenChar ≠ [] := by
    rcases hend with hr | hj
    · exact hr
    · rw [isWord_of_literal hi] at hj
      cases hj
  have hlen : ((skip p).takeWhile isTokenChar).length ≠ (skip p).length := by
    intro hlen
    have hsplit := congrArg List.length (List.takeWhile_append_dropWhile (p := isTokenChar) (l := skip p))
    rw [List.length_append] at hsplit
    exact hrest (List.length_eq_zero_iff.mp (by omega))
  rw [List.takeWhile_append, if_neg hlen, List.dropWhile_append, if_neg (by simpa using hrest), hi]
  rfl

theorem extendsItems_succ {n : Nat} (hvalue : ExtendsValue s n) (hitems : ExtendsItems s n) :
    ExtendsItems s (n + 1) := by
  intro m first p xs r h hnm
  obtain ⟨m, rfl⟩ : ∃ k, m = k + 1 := ⟨m - 1, by omega⟩
  rw [readItems] at h ⊢
  by_cases hp : skip p = []
  · rw [hp] at h
    cases first with
    | true =>
      have hnone : readValue n [] = none := readValue_of_skip_nil rfl
      exact absurd h (by simp [separator, hnone])
    | false => cases h
  rw [skip_append hp, head_append hp]
  by_cases hc : (skip p).head? = some ']'
  · rw [if_pos hc] at h ⊢
    obtain ⟨rfl, rfl⟩ := Prod.mk.inj (Option.some.inj h)
    rw [List.tail_append_of_ne_nil hp]
  rw [if_neg hc] at h ⊢
  obtain ⟨cs, hcs, h₁⟩ := Option.bind_eq_some_iff.mp h
  obtain ⟨⟨x, t⟩, hx, h₂⟩ := Option.bind_eq_some_iff.mp h₁
  obtain ⟨⟨ys, u⟩, hys, heq⟩ := Option.map_eq_some_iff.mp h₂
  obtain ⟨rfl, rfl⟩ := Prod.mk.inj heq
  have ht : t ≠ [] := by
    rintro rfl
    rw [readItems_nil] at hys
    cases hys
  rw [separator_append hcs, Option.bind_some, hvalue m _ x t hx (by omega) (.inl ht)]
  show (readItems m false (t ++ s)).map _ = _
  rw [hitems m false _ ys u hys (by omega)]
  rfl

theorem extendsMembers_succ {n : Nat} (hvalue : ExtendsValue s n) (hmembers : ExtendsMembers s n) :
    ExtendsMembers s (n + 1) := by
  intro m first p kvs r h hnm
  obtain ⟨m, rfl⟩ : ∃ k, m = k + 1 := ⟨m - 1, by omega⟩
  rw [readMembers] at h ⊢
  by_cases hp : skip p = []
  · rw [hp] at h
    cases first <;> cases h
  rw [skip_append hp, head_append hp]
  by_cases hc : (skip p).head? = some '\x7d'
  · rw [if_pos hc] at h ⊢
    obtain ⟨rfl, rfl⟩ := Prod.mk.inj (Option.some.inj h)
    rw [List.tail_append_of_ne_nil hp]
  rw [if_neg hc] at h ⊢
  obtain ⟨cs, hcs, h₁⟩ := Option.bind_eq_some_iff.mp h
  obtain ⟨⟨k, q⟩, hk, h₂⟩ := Option.bind_eq_some_iff.mp h₁
  obtain ⟨⟨v, t⟩, hv, h₃⟩ := Option.bind_eq_some_iff.mp h₂
  obtain ⟨⟨rest, u⟩, hrest, heq⟩ := Option.map_eq_some_iff.mp h₃
  obtain ⟨rfl, rfl⟩ := Prod.mk.inj heq
  have ht : t ≠ [] := by
    rintro rfl
    rw [readMembers_nil] at hrest
    cases hrest
  rw [separator_append hcs, Option.bind_some, readKey_append hk (by omega), Option.bind_some]
  show (readValue m (q ++ s)).bind _ = _
  rw [hvalue m _ v t hv (by omega) (.inl ht)]
  show (readMembers m false (t ++ s)).map _ = _
  rw [hmembers m false _ rest u hrest (by omega)]
  rfl

theorem extendsValue (s : List Char) (n : Nat) : ExtendsValue s n := by
  have hall : ExtendsValue s n ∧ ExtendsItems s n ∧ ExtendsMembers s n := by
    induction n with
    | zero =>
      refine ⟨?_, ?_, ?_⟩
      · intro m p j r h
        cases h
      · intro m first p xs r h
        cases h
      · intro m first p kvs r h
        cases h
    | succ n ih =>
      obtain ⟨hvalue, hitems, hmembers⟩ := ih
      exact ⟨extendsValue_succ hitems hmembers, extendsItems_succ hvalue hitems,
        extendsMembers_succ hvalue hmembers⟩
  exact hall.1

/-- A text in brackets or quotes can be followed by blanks only. -/
theorem parse_append {p : List Char} {j : Json} (h : parse p = some j) (hj : j.isWord = false)
    (s : List Char) : parse (p ++ s) = if skip s = [] then some j else none := by
  obtain ⟨⟨i, r⟩, hread, hr⟩ := Option.bind_eq_some_iff.mp h
  have hblank : skip r = [] ∧ i = j := by
    by_cases hr' : skip r = []
    · exact ⟨hr', Option.some.inj ((if_pos hr').symm.trans hr)⟩
    · exact absurd ((if_neg hr').symm.trans hr) (by simp)
  obtain ⟨hblank, rfl⟩ := hblank
  have hskip : skip (r ++ s) = skip s := by
    have hempty : (r.dropWhile isJsonSpace).isEmpty = true := by
      rw [show r.dropWhile isJsonSpace = [] from hblank]
      rfl
    rw [skip, List.dropWhile_append, if_pos hempty]
    rfl
  have hmore := extendsValue s _ (2 * (p ++ s).length) p i r hread
    (by rw [List.length_append]; omega) (.inr hj)
  rw [parse, hmore]
  show (if skip (r ++ s) = [] then some i else none) = _
  rw [hskip]

theorem isWord_of_readValue_brace {n : Nat} {p r : List Char} {j : Json}
    (h : readValue n ('\x7b' :: p) = some (j, r)) : j.isWord = false := by
  cases n with
  | zero => cases h
  | succ n =>
    rw [readValue, skip_cons (by decide), if_neg (by simp [doubleQuote]), if_neg (by simp),
      if_pos (List.head?_cons ..)] at h
    obtain ⟨⟨kvs, t⟩, -, heq⟩ := Option.map_eq_some_iff.mp h
    obtain ⟨rfl, -⟩ := Prod.mk.inj heq
    rfl

/-- No beginning of the text of an object can be read. -/
theorem parse_beginning {p s : List Char} {j : Json} (h : parse ('\x7b' :: p ++ s) = some j)
    (hs : skip s ≠ []) : parse ('\x7b' :: p) = none := by
  cases hp : parse ('\x7b' :: p) with
  | none => rfl
  | some i =>
    obtain ⟨⟨i', r⟩, hread, hr⟩ := Option.bind_eq_some_iff.mp hp
    have hi : i.isWord = false := by
      have hi' := isWord_of_readValue_brace hread
      by_cases hblank : skip r = []
      · rw [← Option.some.inj ((if_pos hblank).symm.trans hr)]
        exact hi'
      · exact absurd ((if_neg hblank).symm.trans hr) (by simp)
    rw [parse_append hp hi, if_neg hs] at h
    cases h

end Extension

end Py
