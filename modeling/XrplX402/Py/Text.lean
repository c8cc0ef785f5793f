import XrplX402.Py.Json
import Mathlib.Data.Bool.AllAny

/-! # Strings, conversions and exceptions of the interpreter

    * **Unicode**: which letters have which capitals and which characters are
      digits depends on the Unicode tables of the running interpreter, so they
      are a parameter that is only fixed on ASCII.
    * **Conversions**: `int()`, `str()`, `repr()`, `Decimal()` and
      `bytes.fromhex()`, with the exceptions they raise. -/

namespace Py

/-! ## Section 1: Exceptions -/

inductive ExcKind where
  | valueError
  | typeError
  | keyError
  | attributeError
  | overflowError
  | runtimeError
  | decimalException
  | other
  deriving DecidableEq

/-- A raised exception: its class, subclasses counted with their base, and its
    text. -/
structure Exc where
  kind : ExcKind
  text : String
  deriving DecidableEq

def valueError (text : String) : Exc := ⟨.valueError, text⟩

def typeError (text : String) : Exc := ⟨.typeError, text⟩

def runtimeError (text : String) : Exc := ⟨.runtimeError, text⟩

/-- `if bad: raise e` -/
def failIf {ε : Type} (bad : Prop) [Decidable bad] (e : ε) : Except ε Unit :=
  if bad then .error e else .ok ()

@[simp] theorem failIf_eq_ok {ε : Type} {bad : Prop} [Decidable bad] {e : ε} {u : Unit} :
    failIf bad e = .ok u ↔ ¬ bad := by
  unfold failIf
  split <;> simp_all

/-- A block succeeds when its first step does and the rest does after it. -/
theorem bind_eq_ok {ε α β : Type} {x : Except ε α} {f : α → Except ε β} {b : β} :
    (x >>= f) = .ok b ↔ ∃ a, x = .ok a ∧ f a = .ok b := by
  cases x with
  | error e =>
    constructor
    · intro h
      cases h
    · rintro ⟨a, h, -⟩
      cases h
  | ok a =>
    constructor
    · intro h
      exact ⟨a, rfl, h⟩
    · rintro ⟨a', h, hf⟩
      cases h
      exact hf

/-- A passed check in front of a block. -/
theorem failIf_bind_eq_ok {ε β : Type} {bad : Prop} [Decidable bad] {e : ε} {f : Unit → Except ε β}
    {b : β} : (failIf bad e >>= f) = .ok b ↔ ¬ bad ∧ f () = .ok b := by
  rw [bind_eq_ok]
  constructor
  · rintro ⟨u, hu, hf⟩
    exact ⟨failIf_eq_ok.mp hu, hf⟩
  · rintro ⟨hbad, hf⟩
    exact ⟨(), failIf_eq_ok.mpr hbad, hf⟩

/-- Every element has a result, and every result an element. -/
theorem mem_of_mapM {ε α β : Type} {f : α → Except ε β} {as : List α} {bs : List β}
    (h : as.mapM f = .ok bs) :
    (∀ a ∈ as, ∃ b ∈ bs, f a = .ok b) ∧ ∀ b ∈ bs, ∃ a ∈ as, f a = .ok b := by
  induction as generalizing bs with
  | nil =>
    obtain rfl : [] = bs := by simpa [pure, Except.pure] using h
    exact ⟨List.forall_mem_nil _, List.forall_mem_nil _⟩
  | cons a as ih =>
    rw [List.mapM_cons] at h
    obtain ⟨b, hb, h⟩ := bind_eq_ok.mp h
    obtain ⟨bs', hbs', h⟩ := bind_eq_ok.mp h
    obtain rfl : b :: bs' = bs := Except.ok.inj h
    obtain ⟨hresults, helements⟩ := ih hbs'
    refine ⟨List.forall_mem_cons.mpr ⟨⟨b, List.mem_cons_self, hb⟩, ?_⟩,
      List.forall_mem_cons.mpr ⟨⟨a, List.mem_cons_self, hb⟩, ?_⟩⟩
    · intro x hx
      obtain ⟨y, hy, hxy⟩ := hresults x hx
      exact ⟨y, List.mem_cons_of_mem _ hy, hxy⟩
    · intro y hy
      obtain ⟨x, hx, hxy⟩ := helements y hy
      exact ⟨x, List.mem_cons_of_mem _ hx, hxy⟩

/-! ## Section 2: Unicode -/

/-- What holds of the first 128 characters holds of every ASCII character. -/
theorem forall_ascii (p : Char → Prop) (h : ∀ n < 128, p (Char.ofNat n)) {c : Char}
    (hc : c.toNat < 128) : p c := by
  have hp := h c.toNat hc
  rwa [Char.ofNat_toNat] at hp

theorem toUpper_toUpper {c : Char} (h : c.toNat < 128) : c.toUpper.toUpper = c.toUpper :=
  forall_ascii (fun c => c.toUpper.toUpper = c.toUpper) (by decide) h

/-- The character tables of the running interpreter. -/
structure UnicodeData where
  /-- The full upper-case mapping. -/
  upper : Char → List Char
  /-- The full lower-case mapping. -/
  lower : Char → List Char
  /-- The value of a decimal digit. -/
  decimal : Char → Option Nat
  /-- `str.isdigit` on one character. -/
  digit : Char → Bool
  /-- `str.isprintable` on one character. -/
  printable : Char → Bool
  upper_ascii : ∀ c, c.toNat < 128 → upper c = [c.toUpper]
  upper_upper : ∀ c, ∀ d ∈ upper c, upper d = [d]
  lower_ascii : ∀ c, c.toNat < 128 → lower c = [c.toLower]
  decimal_ascii : ∀ c, c.toNat < 128 →
    decimal c = if isAsciiDigit c then some (asciiDigitValue c) else none
  decimal_lt : ∀ c n, decimal c = some n → n < 10
  digit_ascii : ∀ c, c.toNat < 128 → digit c = isAsciiDigit c
  digit_of_decimal : ∀ c n, decimal c = some n → digit c = true
  printable_ascii : ∀ c, c.toNat < 128 → printable c = decide (32 ≤ c.toNat ∧ c.toNat < 127)

/-- `str.isspace` on one character. -/
def isSpace (c : Char) : Bool :=
  let n := c.toNat
  (9 ≤ n && n ≤ 13) || (28 ≤ n && n ≤ 32) || n == 0x85 || n == 0xa0 || n == 0x1680 ||
    (0x2000 ≤ n && n ≤ 0x200a) || n == 0x2028 || n == 0x2029 || n == 0x202f || n == 0x205f ||
    n == 0x3000

def stripChars (p : Char → Bool) (cs : List Char) : List Char :=
  ((cs.dropWhile p).reverse.dropWhile p).reverse

/-- `s.strip()`. -/
def strip (s : String) : String := String.ofList (stripChars isSpace s.toList)

theorem dropWhile_idem (p : Char → Bool) (cs : List Char) :
    (cs.dropWhile p).dropWhile p = cs.dropWhile p := by
  induction cs with
  | nil => rfl
  | cons c cs ih =>
    by_cases h : p c = true
    · simp [h, ih]
    · simp [h]

/-- What is left of a stripped list starts with a character to keep. -/
theorem dropWhile_reverse_stable (p : Char → Bool) (cs : List Char) (h : cs.dropWhile p = cs) :
    ((cs.reverse.dropWhile p).reverse).dropWhile p = (cs.reverse.dropWhile p).reverse := by
  cases cs with
  | nil => rfl
  | cons c cs =>
    have hc : p c = false := by
      by_contra hcon
      have hlen := congrArg List.length h
      have hle := (List.dropWhile_suffix p (l := cs)).length_le
      simp only [Bool.not_eq_false] at hcon
      simp only [List.dropWhile_cons, hcon, if_true, List.length_cons] at hlen
      omega
    have hsnoc : ∃ ds, (c :: cs).reverse.dropWhile p = ds ++ [c] := by
      rw [List.reverse_cons, List.dropWhile_append]
      split
      · exact ⟨[], by simp [hc]⟩
      · exact ⟨_, rfl⟩
    obtain ⟨ds, hds⟩ := hsnoc
    rw [hds]
    simp [hc]

theorem stripChars_idem (p : Char → Bool) (cs : List Char) :
    stripChars p (stripChars p cs) = stripChars p cs := by
  unfold stripChars
  rw [dropWhile_reverse_stable p _ (dropWhile_idem p cs), List.reverse_reverse, dropWhile_idem]

@[simp] theorem strip_strip (s : String) : strip (strip s) = strip s := by
  simp [strip, stripChars_idem]

theorem stripChars_of_none {p : Char → Bool} {cs : List Char} (h : ∀ c ∈ cs, p c = false) :
    stripChars p cs = cs := by
  have hdrop : ∀ ds : List Char, (∀ c ∈ ds, p c = false) → ds.dropWhile p = ds := by
    intro ds hds
    cases ds with
    | nil => rfl
    | cons d ds => simp [hds d (by simp)]
  unfold stripChars
  rw [hdrop cs h, hdrop cs.reverse (by simpa using h), List.reverse_reverse]

theorem strip_of_noSpace {s : String} (h : ∀ c ∈ s.toList, isSpace c = false) : strip s = s := by
  rw [strip, stripChars_of_none h, String.ofList_toList]

/-- White space of the Unicode standard, to which the separators `\x1c` to
    `\x1f` do not belong. -/
def isWhiteSpace (c : Char) : Bool := isSpace c && !(28 ≤ c.toNat && c.toNat ≤ 31)

/-- What `str_strip_whitespace` makes of a string. -/
def trim (s : String) : String := String.ofList (stripChars isWhiteSpace s.toList)

@[simp] theorem trim_trim (s : String) : trim (trim s) = trim s := by
  simp [trim, stripChars_idem]

theorem isSpace_of_isWhiteSpace (c : Char) (h : isWhiteSpace c = true) : isSpace c = true :=
  (Bool.and_eq_true_iff.mp h).1

theorem trim_of_noSpace {s : String} (h : ∀ c ∈ s.toList, isSpace c = false) : trim s = s := by
  have hnone : ∀ c ∈ s.toList, isWhiteSpace c = false := by
    intro c hc
    rw [isWhiteSpace, h c hc, Bool.false_and]
  rw [trim, stripChars_of_none hnone, String.ofList_toList]

/-- A text that begins and ends with other characters is not changed. -/
theorem stripChars_eq_self {p q : Char → Bool} (hpq : ∀ c, q c = true → p c = true) {cs : List Char}
    (h : stripChars p cs = cs) : stripChars q cs = cs := by
  have hlength := congrArg List.length h
  have hfront := (List.dropWhile_suffix p (l := cs)).length_le
  have hback := (List.dropWhile_suffix p (l := (cs.dropWhile p).reverse)).length_le
  simp only [stripChars, List.length_reverse] at hlength hback
  have hdrop : cs.dropWhile p = cs := (List.dropWhile_suffix p).eq_of_length (by omega)
  have hdrop' : cs.reverse.dropWhile p = cs.reverse := by
    rw [hdrop] at hlength
    exact (List.dropWhile_suffix p).eq_of_length (by rw [List.length_reverse]; exact hlength)
  have hkeep : ∀ ds : List Char, ds.dropWhile p = ds → ds.dropWhile q = ds := by
    intro ds hds
    cases ds with
    | nil => rfl
    | cons d ds =>
      have hd : q d = false := by
        by_contra hcon
        have hp := hpq d (Bool.eq_true_of_not_eq_false hcon)
        have hle := (List.dropWhile_suffix p (l := ds)).length_le
        rw [List.dropWhile_cons, if_pos hp] at hds
        have hlen := congrArg List.length hds
        rw [List.length_cons] at hlen
        omega
      rw [List.dropWhile_cons, hd, if_neg Bool.false_ne_true]
  rw [stripChars, hkeep cs hdrop, hkeep cs.reverse hdrop', List.reverse_reverse]

theorem trim_of_strip {s : String} (h : strip s = s) : trim s = s := by
  have hchars : stripChars isSpace s.toList = s.toList := by
    have hlist := congrArg String.toList h
    rwa [strip, String.toList_ofList] at hlist
  rw [trim, stripChars_eq_self isSpace_of_isWhiteSpace hchars, String.ofList_toList]

/-- `s.partition(sep)` for a one-character separator: the part before it, whether
    it occurs, and the part after it. -/
def partition (sep : Char) (s : String) : String × Bool × String :=
  let cs := s.toList
  (String.ofList (cs.takeWhile (· ≠ sep)), cs.contains sep,
    String.ofList ((cs.dropWhile (· ≠ sep)).drop 1))

/-- A text is split where the separator is first met. -/
theorem partition_append {sep : Char} {front back : String} (h : sep ∉ front.toList) :
    partition sep (front ++ String.singleton sep ++ back) = (front, true, back) := by
  have hne : ∀ c ∈ front.toList, decide (c ≠ sep) = true := by
    intro c hc
    simpa using fun heq : c = sep => h (heq ▸ hc)
  have hlist : (front ++ String.singleton sep ++ back).toList =
      front.toList ++ sep :: back.toList := by
    simp [String.toList_append]
  unfold partition
  dsimp only
  rw [hlist, List.takeWhile_append_of_pos hne, List.dropWhile_append_of_pos hne]
  simp

/-- `s.split(sep)` for a one-character separator. -/
def splitChars (sep : Char) : List Char → List (List Char)
  | [] => [[]]
  | c :: cs =>
    if c = sep then [] :: splitChars sep cs
    else match splitChars sep cs with
      | w :: ws => (c :: w) :: ws
      | [] => [[c]]

namespace UnicodeData

variable (u : UnicodeData)

/-- `s.upper()`. -/
def upperStr (s : String) : String := String.ofList (s.toList.flatMap u.upper)

/-- `s.lower()`. -/
def lowerStr (s : String) : String := String.ofList (s.toList.flatMap u.lower)

theorem flatMap_upper {cs : List Char} (h : ∀ c ∈ cs, c.toNat < 128) :
    cs.flatMap u.upper = cs.map Char.toUpper := by
  induction cs with
  | nil => rfl
  | cons c cs ih =>
    rw [List.flatMap_cons, u.upper_ascii c (h c (by simp)), ih fun d hd => h d (by simp [hd])]
    rfl

theorem upperStr_upperStr (s : String) : u.upperStr (u.upperStr s) = u.upperStr s := by
  have hcaps : ∀ c ∈ s.toList.flatMap u.upper, u.upper c = [c] := by
    intro c hc
    obtain ⟨d, -, hcd⟩ := List.mem_flatMap.mp hc
    exact u.upper_upper d c hcd
  have hflat : ∀ {cs : List Char}, (∀ c ∈ cs, u.upper c = [c]) → cs.flatMap u.upper = cs := by
    intro cs hcs
    induction cs with
    | nil => rfl
    | cons c cs ih =>
      rw [List.flatMap_cons, hcs c List.mem_cons_self,
        ih fun d hd => hcs d (List.mem_cons_of_mem _ hd)]
      rfl
  rw [upperStr, upperStr, String.toList_ofList, hflat hcaps]

/-- Capitals of an ASCII text are taken letter by letter. -/
theorem toList_upperStr {s : String} (h : ∀ c ∈ s.toList, c.toNat < 128) :
    (u.upperStr s).toList = s.toList.map Char.toUpper := by
  rw [upperStr, String.toList_ofList, u.flatMap_upper h]

theorem upperStr_of_upper {s : String} (h : ∀ c ∈ s.toList, c.toNat < 128 ∧ c.toUpper = c) :
    u.upperStr s = s := by
  have hmap : s.toList.map Char.toUpper = s.toList := by
    rw [List.map_congr_left fun c hc => (h c hc).2, List.map_id']
  rw [upperStr, u.flatMap_upper fun c hc => (h c hc).1, hmap, String.ofList_toList]

/-- `s.isdigit()`. -/
def isDigitStr (s : String) : Bool := s ≠ "" && s.toList.all u.digit

end UnicodeData

/-- Tables that know ASCII only. -/
def asciiData : UnicodeData where
  upper c := [if c.toNat < 128 then c.toUpper else c]
  lower c := [if c.toNat < 128 then c.toLower else c]
  decimal c := if isAsciiDigit c then some (asciiDigitValue c) else none
  digit c := isAsciiDigit c
  printable c := decide (32 ≤ c.toNat ∧ c.toNat < 127)
  upper_ascii c h := by simp [h]
  upper_upper c d h := by
    rw [List.mem_singleton] at h
    by_cases hc : c.toNat < 128
    · rw [if_pos hc] at h
      rw [h, toUpper_toUpper hc, ite_self]
    · rw [if_neg hc] at h
      rw [h, if_neg hc]
  lower_ascii c h := by simp [h]
  decimal_ascii c _ := rfl
  decimal_lt c n h := by
    split at h
    · next hd =>
      have hrange : 48 ≤ c.toNat ∧ c.toNat ≤ 57 := by
        simpa [isAsciiDigit, Char.le_def, UInt32.le_iff_toNat_le] using hd
      have hn : asciiDigitValue c = n := Option.some.inj h
      unfold asciiDigitValue at hn
      omega
    · cases h
  digit_ascii c _ := rfl
  digit_of_decimal c n h := by
    by_contra hd
    simp [hd] at h
  printable_ascii c _ := rfl

/-! ## Section 3: Hexadecimal -/

def hexDigitChars : List Char := "0123456789abcdef".toList

def hexDigitChar (n : Nat) : Char := hexDigitChars.getD n '0'

def hexValue? (c : Char) : Option Nat :=
  if '0' ≤ c ∧ c ≤ '9' then some (c.toNat - 48)
  else if 'a' ≤ c ∧ c ≤ 'f' then some (c.toNat - 87)
  else if 'A' ≤ c ∧ c ≤ 'F' then some (c.toNat - 55)
  else none

/-- `c in string.hexdigits`. -/
def isHexDigit (c : Char) : Bool := (hexValue? c).isSome

/-- `bs.hex()`. -/
def hexChars (bs : List UInt8) : List Char :=
  bs.flatMap fun b => [hexDigitChar (b.toNat / 16), hexDigitChar (b.toNat % 16)]

def hexdigest (bs : List UInt8) : String := String.ofList (hexChars bs)

theorem hexDigitChar_mem (n : Nat) : hexDigitChar n ∈ hexDigitChars := by
  rw [hexDigitChar, List.getD_eq_getElem?_getD]
  cases h : hexDigitChars[n]? with
  | none => decide
  | some c => exact List.mem_of_getElem? h

theorem hexChars_mem {bs : List UInt8} {c : Char} (h : c ∈ hexChars bs) : c ∈ hexDigitChars := by
  obtain ⟨b, -, hb⟩ := List.mem_flatMap.mp h
  simp only [List.mem_cons, List.not_mem_nil, or_false] at hb
  rcases hb with rfl | rfl <;> exact hexDigitChar_mem _

@[simp] theorem strip_hexdigest (bs : List UInt8) : strip (hexdigest bs) = hexdigest bs := by
  apply strip_of_noSpace
  intro c hc
  have hall : ∀ d ∈ hexDigitChars, isSpace d = false :=
    List.all_iff_forall_prop.mp (by decide)
  rw [hexdigest, String.toList_ofList] at hc
  exact hall c (hexChars_mem hc)

@[simp] theorem trim_hexdigest (bs : List UInt8) : trim (hexdigest bs) = hexdigest bs :=
  trim_of_strip (strip_hexdigest bs)

/-- ASCII whitespace, which `bytes.fromhex` skips between bytes. -/
def isAsciiSpace (c : Char) : Bool := (9 ≤ c.toNat && c.toNat ≤ 13) || c.toNat == 32

def fromHexChars : List Char → Option (List UInt8)
  | [] => some []
  | [c] => if isAsciiSpace c then some [] else none
  | c :: d :: cs =>
    if isAsciiSpace c then fromHexChars (d :: cs)
    else match hexValue? c, hexValue? d with
      | some h, some l => (fromHexChars cs).map fun bs => UInt8.ofNat (16 * h + l) :: bs
      | _, _ => none

/-- `bytes.fromhex(s)`. -/
def fromHex (s : String) : Except Exc (List UInt8) :=
  match fromHexChars s.toList with
  | some bs => .ok bs
  | none => .error (valueError "non-hexadecimal number found in fromhex() arg")

/-- `bs.rstrip(b"\0")`. -/
def rstripZero (bs : List UInt8) : List UInt8 := (bs.reverse.dropWhile (· = 0)).reverse

/-- `bs.decode("ascii")`. -/
def decodeAscii (bs : List UInt8) : Except Exc String :=
  if bs.all (fun b => b < 128) then .ok (String.ofList (bs.map fun b => Char.ofNat b.toNat))
  else .error (valueError "'ascii' codec can't decode byte: ordinal not in range(128)")

/-- `s.encode("ascii")`. -/
def encodeAscii (s : String) : Except Exc (List UInt8) :=
  if s.toList.all (fun c => c.toNat < 128) then .ok (s.toList.map fun c => UInt8.ofNat c.toNat)
  else .error (valueError "'ascii' codec can't encode character: ordinal not in range(128)")

/-- `s.encode("utf-8")`. -/
def encodeUtf8 (s : String) : List UInt8 := s.toUTF8.data.toList

theorem encodeUtf8_injective : Function.Injective encodeUtf8 := by
  intro s t h
  have hdata : s.toUTF8.data = t.toUTF8.data := Array.toList_inj.mp h
  exact String.toByteArray_inj.mp (ByteArray.ext hdata)

/-- The text in front of the first separator, and the text behind it. -/
theorem eq_of_append_cons {a : Char} {x₁ x₂ z₁ z₂ : List Char} (h₁ : a ∉ x₁) (h₂ : a ∉ x₂)
    (h : x₁ ++ a :: z₁ = x₂ ++ a :: z₂) : x₁ = x₂ ∧ z₁ = z₂ := by
  induction x₁ generalizing x₂ with
  | nil =>
    cases x₂ with
    | nil => exact ⟨rfl, (List.cons.inj h).2⟩
    | cons b x₂ => exact absurd ((List.cons.inj h).1 ▸ List.mem_cons_self) h₂
  | cons b x₁ ih =>
    cases x₂ with
    | nil => exact absurd ((List.cons.inj h).1 ▸ List.mem_cons_self) h₁
    | cons b' x₂ =>
      obtain ⟨rfl, htail⟩ := List.cons.inj h
      have hrest := ih (fun hmem => h₁ (List.mem_cons_of_mem _ hmem))
        (fun hmem => h₂ (List.mem_cons_of_mem _ hmem)) htail
      exact ⟨by rw [hrest.1], hrest.2⟩

/-! ## Section 4: `repr` of a string -/

def hexPadded (width n : Nat) : List Char :=
  (List.range width).reverse.map fun i => hexDigitChar (n / 16 ^ i % 16)

def reprChar (u : UnicodeData) (quote c : Char) : List Char :=
  if c = quote ∨ c = '\\' then ['\\', c]
  else if c = '\t' then "\\t".toList
  else if c = '\n' then "\\n".toList
  else if c = '\r' then "\\r".toList
  else if u.printable c then [c]
  else if c.toNat < 0x100 then "\\x".toList ++ hexPadded 2 c.toNat
  else if c.toNat < 0x10000 then "\\u".toList ++ hexPadded 4 c.toNat
  else "\\U".toList ++ hexPadded 8 c.toNat

def singleQuote : Char := Char.ofNat 39

def doubleQuote : Char := Char.ofNat 34

def reprStr (u : UnicodeData) (s : String) : String :=
  let cs := s.toList
  let quote :=
    if cs.contains singleQuote && !cs.contains doubleQuote then doubleQuote else singleQuote
  String.ofList (quote :: cs.flatMap (reprChar u quote) ++ [quote])

/-! ## Section 5: Numbers from strings -/

/-- Longest digit string that `int()` converts. -/
def intMaxStrDigits : Nat := 4300

/-- Digits with single underscores between them; `prev` says whether the last
    character was a digit. -/
def digitRun (u : UnicodeData) : Bool → List Char → Option (List Nat)
  | prev, [] => if prev then some [] else none
  | prev, c :: cs =>
    if c = '_' then if prev then digitRun u false cs else none
    else match u.decimal c with
      | some d => (digitRun u true cs).map (d :: ·)
      | none => none

/-- `int(s)` for a string. -/
def intOfStr (u : UnicodeData) (s : String) : Except Exc Int :=
  let cs := stripChars isSpace s.toList
  let (neg, ds) := match cs with
    | '-' :: r => (true, r)
    | '+' :: r => (false, r)
    | r => (false, r)
  match digitRun u false ds with
  | none =>
    .error (valueError ("invalid literal for int() with base 10: " ++
      String.ofList ((reprStr u s).toList.take 200)))
  | some ds =>
    if intMaxStrDigits < ds.length then
      .error (valueError ("Exceeds the limit (4300 digits) for integer string conversion: value has " ++
        toString ds.length ++
        " digits; use sys.set_int_max_str_digits() to increase the limit"))
    else .ok (if neg then -(natOfDigits ds : Int) else natOfDigits ds)

/-- `int(j)`. -/
def toInt (u : UnicodeData) : Json → Except Exc Int
  | .int n => .ok n
  | .bool b => .ok (if b then 1 else 0)
  | .str s => intOfStr u s
  | .float x =>
    match x.value with
    | some q => .ok (if q < 0 then ⌈q⌉ else ⌊q⌋)
    | none => .error ⟨.overflowError, "cannot convert float infinity to integer"⟩
  | _ => .error (typeError
      "int() argument must be a string, a bytes-like object or a real number")

/-- A character of a number literal, with other decimal digits made ASCII. -/
def asciiNumberChar (u : UnicodeData) (c : Char) : Option Char :=
  match u.decimal c with
  | some d => some (Char.ofNat (48 + d))
  | none => if c.toNat < 128 then some c else none

/-- An exponent part: without one, only a text of 10^18 digits would stand for
    a number beyond the limits. -/
def hasExponent (cs : List Char) : Bool := cs.any fun c => c = 'e' || c = 'E'

/-- `Decimal(s)`; `none` is the `InvalidOperation` of the constructor. -/
def decimalOfStr (u : UnicodeData) (s : String) : Option Decimal :=
  match ((stripChars isSpace s.toList).filter (· ≠ '_')).mapM (asciiNumberChar u) with
  | none => none
  | some cs =>
    let (neg, body) := match cs with
      | '-' :: r => (true, r)
      | '+' :: r => (false, r)
      | r => (false, r)
    let word := body.map Char.toLower
    if word = "inf".toList ∨ word = "infinity".toList then some (.infinite neg)
    else if word.take 3 = "nan".toList ∧ (word.drop 3).all isAsciiDigit then some (.nan false)
    else if word.take 4 = "snan".toList ∧ (word.drop 4).all isAsciiDigit then some (.nan true)
    else
      (parseUnsigned body).bind fun (c, e) =>
        if hasExponent body && !Decimal.representable c e then none else some (.finite neg c e)

/-! ## Section 6: `str` and `repr` -/

/-- `repr` of a float; JSON spells the infinities differently. -/
def reprFloat (x : FloatLit) : String :=
  if x.text = "Infinity" then "inf" else if x.text = "-Infinity" then "-inf" else x.text

mutual

/-- `repr(j)`. -/
def repr (u : UnicodeData) : Json → String
  | .null => "None"
  | .bool b => if b then "True" else "False"
  | .int n => toString n
  | .float x => reprFloat x
  | .str s => reprStr u s
  | .arr xs => "[" ++ ", ".intercalate (reprArr u xs) ++ "]"
  | .obj kvs => "\x7b" ++ ", ".intercalate (reprObj u kvs) ++ "\x7d"

def reprArr (u : UnicodeData) : List Json → List String
  | [] => []
  | x :: xs => repr u x :: reprArr u xs

def reprObj (u : UnicodeData) : List (String × Json) → List String
  | [] => []
  | (k, v) :: d => (reprStr u k ++ ": " ++ repr u v) :: reprObj u d

end

/-- `str(j)`. -/
def str (u : UnicodeData) : Json → String
  | .str s => s
  | j => repr u j

/-- `j[key]` for a string key. -/
def subscript (j : Json) (key : String) : Except Exc Json :=
  match j with
  | .obj d =>
    match Dict.get? d key with
    | some v => .ok v
    | none => .error ⟨.keyError, key⟩
  | _ => .error (typeError "object is not subscriptable with a string")

theorem subscript_obj_eq_ok {d : Dict} {k : String} {v : Json}
    (h : subscript (.obj d) k = .ok v) : Dict.get? d k = some v := by
  unfold subscript at h
  simp only at h
  split at h
  · next v' hv =>
    rw [hv, Except.ok.inj h]
  · cases h

/-- `j.get(key)`. -/
def getAttr (j : Json) (key : String) : Except Exc Json :=
  match j with
  | .obj d => .ok (Dict.get d key)
  | _ => .error ⟨.attributeError, "object has no attribute 'get'"⟩

end Py
