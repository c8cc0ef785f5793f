import XrplX402.Py.Text

/-! # `json.dumps` and digests

    Requests are identified by the digest of a canonical JSON text, as in
    `sha256(json.dumps(v, sort_keys=True, separators=(",", ":")))`.

    * **Text**: `dumps` writes a value with sorted keys, no blanks and every
      character outside printable ASCII escaped.
    * **Unambiguity**: the text determines the value up to the order of the
      keys. Every value is written so that no other value is written as a
      prefix of it, once what follows starts with a delimiter.
    * **Digests**: `hexdigest` is injective, so two equal fingerprints stand
      for equal values whenever the digest has no collision. -/

namespace Py

/-! ## Section 1: Writing -/

/-- `\uXXXX`. -/
def unicodeEscape (n : Nat) : List Char := '\\' :: 'u' :: hexPadded 4 n

/-- One character of a JSON string with `ensure_ascii`. -/
def escapeChar (c : Char) : List Char :=
  if c = doubleQuote then ['\\', doubleQuote]
  else if c = '\\' then ['\\', '\\']
  else if c = '\n' then ['\\', 'n']
  else if c = '\r' then ['\\', 'r']
  else if c = '\t' then ['\\', 't']
  else if c.toNat = 12 then ['\\', 'f']
  else if c.toNat = 8 then ['\\', 'b']
  else if 32 ≤ c.toNat ∧ c.toNat < 127 then [c]
  else if c.toNat < 0x10000 then unicodeEscape c.toNat
  else unicodeEscape (0xd800 + (c.toNat - 0x10000) / 0x400) ++
    unicodeEscape (0xdc00 + (c.toNat - 0x10000) % 0x400)

def dumpStr (s : String) : List Char :=
  doubleQuote :: s.toList.flatMap escapeChar ++ [doubleQuote]

def intChars (n : Int) : List Char :=
  if n < 0 then '-' :: Nat.toDigits 10 n.natAbs else Nat.toDigits 10 n.natAbs

mutual

/-- The text of a value, its keys in the order in which they stand. -/
def dump : Json → List Char
  | .null => "null".toList
  | .bool b => if b then "true".toList else "false".toList
  | .int n => intChars n
  | .float x => x.text.toList
  | .str s => dumpStr s
  | .arr xs => '[' :: dumpArr true xs
  | .obj kvs => '\x7b' :: dumpObj true kvs

/-- The members and the closing bracket; a comma stands before every member
    but the first. -/
def dumpArr : Bool → List Json → List Char
  | _, [] => [']']
  | first, x :: xs => (if first then [] else [',']) ++ (dump x ++ dumpArr false xs)

def dumpObj : Bool → List (String × Json) → List Char
  | _, [] => ['\x7d']
  | first, (k, v) :: d =>
    (if first then [] else [',']) ++ (dumpStr k ++ ':' :: (dump v ++ dumpObj false d))

end

/-- `json.dumps(j, sort_keys=True, separators=(",", ":"), ensure_ascii=True)`. -/
def dumps (j : Json) : String := String.ofList (dump j.sortKeys)

example : dumps (.obj [("b", .arr [.int (-12), .null]), ("a", .str "x\n\x7f")]) =
    "\x7b\"a\":\"x\\n\\u007f\",\"b\":[-12,null]\x7d" := by decide

/-! ## Section 2: Strings -/

theorem hexValue?_hexDigitChar : ∀ {n : Nat}, n < 16 → hexValue? (hexDigitChar n) = some n := by
  decide

theorem hexDigitChar_inj {m n : Nat} (hm : m < 16) (hn : n < 16)
    (h : hexDigitChar m = hexDigitChar n) : m = n := by
  have h' := congrArg hexValue? h
  rw [hexValue?_hexDigitChar hm, hexValue?_hexDigitChar hn] at h'
  exact Option.some.inj h'

theorem hexPadded_four (n : Nat) : hexPadded 4 n = [hexDigitChar (n / 4096 % 16),
    hexDigitChar (n / 256 % 16), hexDigitChar (n / 16 % 16), hexDigitChar (n % 16)] := by
  simp [hexPadded, List.range_succ]

theorem unicodeEscape_inj {m n : Nat} {r s : List Char} (hm : m < 0x10000) (hn : n < 0x10000)
    (h : unicodeEscape m ++ r = unicodeEscape n ++ s) : m = n ∧ r = s := by
  simp only [unicodeEscape, hexPadded_four, List.cons_append, List.nil_append, List.cons.injEq,
    true_and] at h
  obtain ⟨h₃, h₂, h₁, h₀, hr⟩ := h
  have e₃ := hexDigitChar_inj (Nat.mod_lt _ (by omega)) (Nat.mod_lt _ (by omega)) h₃
  have e₂ := hexDigitChar_inj (Nat.mod_lt _ (by omega)) (Nat.mod_lt _ (by omega)) h₂
  have e₁ := hexDigitChar_inj (Nat.mod_lt _ (by omega)) (Nat.mod_lt _ (by omega)) h₁
  have e₀ := hexDigitChar_inj (Nat.mod_lt _ (by omega)) (Nat.mod_lt _ (by omega)) h₀
  exact ⟨by omega, hr⟩

/-- How a character is written. -/
inductive Escape where
  /-- A backslash and one more character. -/
  | short (c : Char)
  | plain (c : Char)
  | unit (n : Nat)
  | surrogates (hi lo : Nat)

def Escape.chars : Escape → List Char
  | short c => ['\\', c]
  | plain c => [c]
  | unit n => unicodeEscape n
  | surrogates hi lo => unicodeEscape hi ++ unicodeEscape lo

/-- The forms that `escapeChar` produces. -/
def Escape.Valid : Escape → Prop
  | short c => c ≠ 'u'
  | plain c => c ≠ '\\' ∧ c ≠ doubleQuote
  | unit n => n < 0xd800 ∨ 0xe000 ≤ n ∧ n < 0x10000
  | surrogates hi lo => 0xd800 ≤ hi ∧ hi < 0xdc00 ∧ lo < 0x10000

/-- The character that is written so. -/
def Escape.value : Escape → Nat
  | short c => if c = 'n' then 10 else if c = 'r' then 13 else if c = 't' then 9
      else if c = 'f' then 12 else if c = 'b' then 8 else c.toNat
  | plain c => c.toNat
  | unit n => n
  | surrogates hi lo => 0x10000 + (hi - 0xd800) * 0x400 + (lo - 0xdc00)

theorem char_toNat_valid (c : Char) : c.toNat < 0xd800 ∨ 0xe000 ≤ c.toNat ∧ c.toNat < 0x110000 := by
  have h := c.valid
  simp only [UInt32.isValidChar, Nat.isValidChar] at h
  have hc : c.val.toNat = c.toNat := rfl
  omega

theorem escapeChar_form (c : Char) :
    ∃ e : Escape, e.Valid ∧ escapeChar c = e.chars ∧ e.value = c.toNat := by
  unfold escapeChar
  split
  · next h => exact ⟨.short doubleQuote, by simp [Escape.Valid, doubleQuote], rfl, by subst h; rfl⟩
  split
  · next h => exact ⟨.short '\\', by simp [Escape.Valid], rfl, by subst h; rfl⟩
  split
  · next h => exact ⟨.short 'n', by simp [Escape.Valid], rfl, by subst h; rfl⟩
  split
  · next h => exact ⟨.short 'r', by simp [Escape.Valid], rfl, by subst h; rfl⟩
  split
  · next h => exact ⟨.short 't', by simp [Escape.Valid], rfl, by subst h; rfl⟩
  split
  · next h => exact ⟨.short 'f', by simp [Escape.Valid], rfl, h.symm⟩
  split
  · next h => exact ⟨.short 'b', by simp [Escape.Valid], rfl, h.symm⟩
  split
  · next hq hb _ _ _ _ _ _ => exact ⟨.plain c, ⟨hb, hq⟩, rfl, rfl⟩
  -- What is left is one unit or a pair of surrogates.
  have hc := char_toNat_valid c
  split
  · next h => exact ⟨.unit c.toNat, by simp only [Escape.Valid]; omega, rfl, rfl⟩
  · next h =>
    obtain ⟨hi, hhi⟩ : ∃ hi, hi = 0xd800 + (c.toNat - 0x10000) / 0x400 := ⟨_, rfl⟩
    obtain ⟨lo, hlo⟩ : ∃ lo, lo = 0xdc00 + (c.toNat - 0x10000) % 0x400 := ⟨_, rfl⟩
    rw [← hhi, ← hlo]
    have hvalid : (Escape.surrogates hi lo).Valid := by
      simp only [Escape.Valid]
      omega
    have hvalue : 0x10000 + (hi - 0xd800) * 0x400 + (lo - 0xdc00) = c.toNat := by omega
    exact ⟨.surrogates hi lo, hvalid, rfl, hvalue⟩

/-- No form is the beginning of another one. -/
theorem Escape.chars_inj {e f : Escape} {r s : List Char} (he : e.Valid) (hf : f.Valid)
    (h : e.chars ++ r = f.chars ++ s) : e = f ∧ r = s := by
  -- The two characters at the front tell the kinds apart.
  cases e with
  | short c => cases f <;> grind [Escape.chars, Escape.Valid, unicodeEscape]
  | plain c => cases f <;> grind [Escape.chars, Escape.Valid, unicodeEscape]
  | unit n =>
    cases f with
    | short d => grind [Escape.chars, Escape.Valid, unicodeEscape]
    | plain d => grind [Escape.chars, Escape.Valid, unicodeEscape]
    | unit m =>
      simp only [Escape.Valid] at he hf
      obtain ⟨rfl, rfl⟩ := unicodeEscape_inj (by omega) (by omega) h
      exact ⟨rfl, rfl⟩
    | surrogates hi lo =>
      simp only [Escape.Valid] at he hf
      simp only [Escape.chars, List.append_assoc] at h
      obtain ⟨rfl, -⟩ := unicodeEscape_inj (by omega) (by omega) h
      omega
  | surrogates hi lo =>
    cases f with
    | short d => grind [Escape.chars, Escape.Valid, unicodeEscape]
    | plain d => grind [Escape.chars, Escape.Valid, unicodeEscape]
    | unit m =>
      simp only [Escape.Valid] at he hf
      simp only [Escape.chars, List.append_assoc] at h
      obtain ⟨rfl, -⟩ := unicodeEscape_inj (by omega) (by omega) h
      omega
    | surrogates hi' lo' =>
      simp only [Escape.Valid] at he hf
      simp only [Escape.chars, List.append_assoc] at h
      obtain ⟨rfl, h'⟩ := unicodeEscape_inj (by omega) (by omega) h
      obtain ⟨rfl, rfl⟩ := unicodeEscape_inj (by omega) (by omega) h'
      exact ⟨rfl, rfl⟩

theorem escapeChar_inj {c d : Char} {r s : List Char}
    (h : escapeChar c ++ r = escapeChar d ++ s) : c = d ∧ r = s := by
  obtain ⟨e, he, hce, hve⟩ := escapeChar_form c
  obtain ⟨f, hf, hdf, hvf⟩ := escapeChar_form d
  rw [hce, hdf] at h
  obtain ⟨rfl, rfl⟩ := Escape.chars_inj he hf h
  have hcd : c.toNat = d.toNat := hve.symm.trans hvf
  exact ⟨Char.toNat_inj.mp hcd, rfl⟩

theorem escapeChar_ne_quote (c : Char) (r s : List Char) :
    escapeChar c ++ r ≠ doubleQuote :: s := by
  obtain ⟨e, he, hce, -⟩ := escapeChar_form c
  rw [hce]
  cases e <;> simp_all [Escape.chars, Escape.Valid, unicodeEscape, doubleQuote]

theorem dumpStr_inj {s t : String} {r r' : List Char} (h : dumpStr s ++ r = dumpStr t ++ r') :
    s = t ∧ r = r' := by
  -- The first quote without a backslash closes both strings.
  have key : ∀ cs ds : List Char, cs.flatMap escapeChar ++ doubleQuote :: r =
      ds.flatMap escapeChar ++ doubleQuote :: r' → cs = ds ∧ r = r' := by
    intro cs
    induction cs with
    | nil =>
      intro ds hds
      cases ds with
      | nil => simpa using hds
      | cons d ds =>
        simp only [List.flatMap_cons, List.append_assoc] at hds
        exact absurd hds.symm (escapeChar_ne_quote d _ _)
    | cons c cs ih =>
      intro ds hds
      cases ds with
      | nil =>
        simp only [List.flatMap_cons, List.append_assoc] at hds
        exact absurd hds (escapeChar_ne_quote c _ _)
      | cons d ds =>
        simp only [List.flatMap_cons, List.append_assoc] at hds
        obtain ⟨rfl, hrest⟩ := escapeChar_inj hds
        obtain ⟨rfl, hr⟩ := ih ds hrest
        exact ⟨rfl, hr⟩
  simp only [dumpStr, List.cons_append, List.append_assoc, List.cons.injEq, true_and,
    List.nil_append] at h
  obtain ⟨hst, hr⟩ := key _ _ h
  exact ⟨String.toList_inj.mp hst, hr⟩

/-! ## Section 3: Numbers and words -/

/-- A character that ends a number or a word. -/
def isDelimiter (c : Char) : Bool := c = ',' || c = ']' || c = '\x7d' || c = ':'

/-- Nothing follows, or a delimiter does. -/
def Delimited (r : List Char) : Prop := ∀ c ∈ r.head?, isDelimiter c = true

theorem Delimited.cons {c : Char} (h : isDelimiter c = true) (r : List Char) : Delimited (c :: r) := by
  simpa [Delimited] using h

/-- Values that are written as one word without delimiters or brackets. -/
def Json.isWord : Json → Bool
  | .str _ => false
  | .arr _ => false
  | .obj _ => false
  | _ => true

def isWordChar (c : Char) : Bool :=
  !isDelimiter c && c ≠ doubleQuote && c ≠ '[' && c ≠ '\x7b'

theorem isAsciiDigit_of_mem_toDigits {n : Nat} {c : Char} (h : c ∈ Nat.toDigits 10 n) :
    isAsciiDigit c = true := by
  have hd := Nat.isDigit_of_mem_toDigits (by omega) (by omega) h
  simpa [isAsciiDigit, Char.isDigit, Char.le_def] using hd

theorem isWordChar_of_isAsciiDigit {c : Char} (h : isAsciiDigit c = true) : isWordChar c = true := by
  have hc : 48 ≤ c.toNat ∧ c.toNat ≤ 57 := by
    simpa [isAsciiDigit, Char.le_def, UInt32.le_iff_toNat_le] using h
  have ne : ∀ d : Char, d.toNat < 48 ∨ 57 < d.toNat → c ≠ d := by
    rintro d hd rfl
    omega
  simp [isWordChar, isDelimiter, doubleQuote, ne]

theorem isFloatText_chars {cs : List Char} (h : isFloatText cs = true) :
    ∀ c ∈ cs, isAsciiDigit c = true ∨ c ∈ "+-.eIinfty".toList := by
  intro c hc
  simp only [isFloatText, Bool.and_eq_true, List.all_eq_true, Bool.or_eq_true] at h
  simpa using h.1 c hc

theorem dump_word_chars {j : Json} (hj : j.isWord = true) : ∀ c ∈ dump j, isWordChar c = true := by
  intro c hc
  cases j with
  | null => exact List.all_eq_true.mp (by decide) c hc
  | bool b => cases b <;> exact List.all_eq_true.mp (by decide) c hc
  | int n =>
    simp only [dump, intChars] at hc
    split at hc
    · rcases List.mem_cons.mp hc with rfl | hc
      · decide
      · exact isWordChar_of_isAsciiDigit (isAsciiDigit_of_mem_toDigits hc)
    · exact isWordChar_of_isAsciiDigit (isAsciiDigit_of_mem_toDigits hc)
  | float x =>
    rcases isFloatText_chars x.isFloat c hc with h | h
    · exact isWordChar_of_isAsciiDigit h
    · have hall : ∀ d ∈ "+-.eIinfty".toList, isWordChar d = true :=
        List.all_eq_true.mp (by decide)
      exact hall c h
  | str s => cases hj
  | arr xs => cases hj
  | obj d => cases hj

theorem dump_word_ne_nil {j : Json} (hj : j.isWord = true) : dump j ≠ [] := by
  cases j with
  | null => decide
  | bool b => cases b <;> decide
  | int n =>
    simp only [dump, intChars]
    split
    · simp
    · exact Nat.toDigits_ne_nil
  | float x =>
    intro h
    have hx := x.isFloat
    rw [show x.text.toList = [] from h] at hx
    exact absurd hx (by decide)
  | str s => cases hj
  | arr xs => cases hj
  | obj d => cases hj

/-- Where a word ends is visible in what follows it. -/
theorem takeWhile_word {w r : List Char} (hw : ∀ c ∈ w, isWordChar c = true) (hr : Delimited r) :
    (w ++ r).takeWhile isWordChar = w := by
  rw [List.takeWhile_append_of_pos hw]
  cases r with
  | nil => simp
  | cons c r =>
    have hc : isDelimiter c = true := hr c (by simp)
    simp [isWordChar, hc]

theorem intChars_inj {m n : Int} (h : intChars m = intChars n) : m = n := by
  have key : ∀ a b : Nat, Nat.toDigits 10 a = Nat.toDigits 10 b → a = b := by
    intro a b hab
    have hc := congrArg (fun cs => Nat.ofDigitChars 10 cs 0) hab
    simpa using hc
  have minus : ∀ a : Nat, '-' ∉ Nat.toDigits 10 a := fun a ha =>
    absurd (isAsciiDigit_of_mem_toDigits ha) (by decide)
  unfold intChars at h
  split at h <;> split at h
  · have := key _ _ (List.cons.inj h).2
    omega
  · exact absurd (h ▸ List.mem_cons_self) (minus n.natAbs)
  · exact absurd (h ▸ List.mem_cons_self) (minus m.natAbs)
  · have := key _ _ h
    omega

theorem not_isFloatText_intChars (n : Int) : isFloatText (intChars n) = false := by
  have hd : ∀ c, isAsciiDigit c = true → ".en".toList.contains c = false := by
    intro c hc
    have hne : ∀ d ∈ ".en".toList, isAsciiDigit d = false :=
      List.all_iff_forall_prop.mp (by decide)
    by_contra hcon
    have hmem : c ∈ ".en".toList := List.contains_iff_mem.mp (by simpa only [Bool.not_eq_false] using hcon)
    rw [hne c hmem] at hc
    cases hc
  have hany : (intChars n).any (fun c => ".en".toList.contains c) = false := by
    rw [List.any_eq_false]
    intro c hc
    simp only [intChars] at hc
    split at hc
    · rcases List.mem_cons.mp hc with rfl | hc
      · decide
      · rw [hd c (isAsciiDigit_of_mem_toDigits hc)]
        exact Bool.false_ne_true
    · rw [hd c (isAsciiDigit_of_mem_toDigits hc)]
      exact Bool.false_ne_true
  rw [isFloatText, hany, Bool.and_false]

/-- The word of a value that is neither an integer nor a float. -/
theorem literal_ne_number {w : List Char}
    (hw : w = "null".toList ∨ w = "true".toList ∨ w = "false".toList) :
    isFloatText w = false ∧ ∀ n, w ≠ intChars n := by
  have hhead : ∀ n, ∃ c ∈ (intChars n).head?, c = '-' ∨ isAsciiDigit c = true := by
    intro n
    unfold intChars
    split
    · exact ⟨'-', rfl, .inl rfl⟩
    · cases hds : Nat.toDigits 10 n.natAbs with
      | nil => exact absurd hds Nat.toDigits_ne_nil
      | cons c cs =>
        exact ⟨c, rfl, .inr (isAsciiDigit_of_mem_toDigits (hds ▸ List.mem_cons_self))⟩
  constructor
  · rcases hw with rfl | rfl | rfl <;> decide
  · rintro n rfl
    obtain ⟨c, hc, hcd⟩ := hhead n
    rcases hw with h | h | h <;> rw [h] at hc <;> cases hc <;> revert hcd <;> decide

theorem dump_word_inj {a b : Json} (ha : a.isWord = true) (hb : b.isWord = true)
    (h : dump a = dump b) : a = b := by
  -- A literal is no number, and an integer no float.
  have lit : ∀ {j : Json}, (j = .null ∨ ∃ x, j = .bool x) →
      dump j = "null".toList ∨ dump j = "true".toList ∨ dump j = "false".toList := by
    rintro j (rfl | ⟨x, rfl⟩)
    · exact .inl rfl
    · cases x
      · exact .inr (.inr rfl)
      · exact .inr (.inl rfl)
  have apart : ∀ {i j : Json}, (i = .null ∨ ∃ x, i = .bool x) → dump i = dump j →
      (∀ n, j ≠ .int n) ∧ ∀ x, j ≠ .float x := by
    intro i j hi hij
    have hn := literal_ne_number (lit hi)
    refine ⟨fun n hj => hn.2 n (hij.trans (by rw [hj, dump])), fun x hj => ?_⟩
    have hx := x.isFloat
    rw [hij, hj, dump, hx] at hn
    cases hn.1
  have num : ∀ {n : Int} {x : FloatLit}, dump (.int n) ≠ dump (.float x) := by
    intro n x hnx
    have hx := x.isFloat
    rw [← dump, ← hnx, dump, not_isFloatText_intChars] at hx
    cases hx
  cases a with
  | null =>
    cases b with
    | null => rfl
    | bool y => cases y <;> exact absurd h (by decide)
    | int n => exact absurd rfl ((apart (.inl rfl) h).1 n)
    | float y => exact absurd rfl ((apart (.inl rfl) h).2 y)
    | _ => cases hb
  | bool x =>
    cases b with
    | null => cases x <;> exact absurd h (by decide)
    | bool y => cases x <;> cases y <;> first | rfl | exact absurd h (by decide)
    | int n => exact absurd rfl ((apart (.inr ⟨x, rfl⟩) h).1 n)
    | float y => exact absurd rfl ((apart (.inr ⟨x, rfl⟩) h).2 y)
    | _ => cases hb
  | int m =>
    cases b with
    | null => exact absurd rfl ((apart (.inl rfl) h.symm).1 m)
    | bool y => exact absurd rfl ((apart (.inr ⟨y, rfl⟩) h.symm).1 m)
    | int n => rw [intChars_inj h]
    | float y => exact absurd h num
    | _ => cases hb
  | float x =>
    cases b with
    | null => exact absurd rfl ((apart (.inl rfl) h.symm).2 x)
    | bool y => exact absurd rfl ((apart (.inr ⟨y, rfl⟩) h.symm).2 x)
    | int n => exact absurd h.symm num
    | float y =>
      obtain ⟨s, hs⟩ := x
      obtain ⟨t, ht⟩ := y
      obtain rfl : s = t := String.toList_inj.mp h
      rfl
    | _ => cases hb
  | str s => cases ha
  | arr xs => cases ha
  | obj d => cases ha

/-! ## Section 4: Unambiguity -/

theorem dump_head_not_delimiter (j : Json) (r s : List Char) {c : Char} (hc : isDelimiter c = true) :
    dump j ++ r ≠ c :: s := by
  intro h
  -- A word does not begin with a delimiter, and neither does a quote or an opening bracket.
  have first : ∀ {d : Char} {t : List Char}, dump j = d :: t → isDelimiter d = false → False := by
    intro d t hd hf
    rw [hd, List.cons_append, List.cons.injEq] at h
    rw [← h.1, hf] at hc
    cases hc
  by_cases hj : j.isWord = true
  · cases hd : dump j with
    | nil => exact dump_word_ne_nil hj hd
    | cons d t =>
      have hw := dump_word_chars hj d (hd ▸ List.mem_cons_self)
      refine first hd ?_
      simp only [isWordChar, Bool.and_eq_true, Bool.not_eq_true'] at hw
      exact hw.1.1.1
  · cases j with
    | str t => exact first rfl (by decide)
    | arr xs => exact first rfl (by decide)
    | obj d => exact first rfl (by decide)
    | _ => exact hj rfl

theorem dumpArr_delimited (xs : List Json) (r : List Char) : Delimited (dumpArr false xs ++ r) := by
  cases xs with
  | nil => exact .cons (by decide) _
  | cons x xs => exact .cons (by decide) _

theorem dumpObj_delimited (d : Dict) (r : List Char) : Delimited (dumpObj false d ++ r) := by
  cases d with
  | nil => exact .cons (by decide) _
  | cons kv d => exact .cons (by decide) _

/-- `a` is read back from its text whatever delimiter follows. -/
def Readable (a : Json) : Prop :=
  ∀ b r s, Delimited r → Delimited s → dump a ++ r = dump b ++ s → a = b ∧ r = s

theorem dumpArr_inj {xs : List Json} (ih : ∀ x ∈ xs, Readable x) {first : Bool} {ys : List Json}
    {r s : List Char} (h : dumpArr first xs ++ r = dumpArr first ys ++ s) : xs = ys ∧ r = s := by
  induction xs generalizing first ys with
  | nil =>
    cases ys with
    | nil => simpa [dumpArr] using h
    | cons y ys =>
      cases first with
      | true =>
        simp only [dumpArr, if_true, List.nil_append, List.append_assoc] at h
        exact absurd h.symm (dump_head_not_delimiter y _ _ (by decide))
      | false => simp [dumpArr] at h
  | cons x xs ihxs =>
    cases ys with
    | nil =>
      cases first with
      | true =>
        simp only [dumpArr, if_true, List.nil_append, List.append_assoc] at h
        exact absurd h (dump_head_not_delimiter x _ _ (by decide))
      | false => simp [dumpArr] at h
    | cons y ys =>
      -- The same separator stands before both elements.
      have h' : dump x ++ (dumpArr false xs ++ r) = dump y ++ (dumpArr false ys ++ s) := by
        cases first <;> simpa [dumpArr] using h
      obtain ⟨rfl, hrest⟩ := ih x (by simp) y _ _ (dumpArr_delimited xs r) (dumpArr_delimited ys s) h'
      obtain ⟨rfl, hr⟩ := ihxs (fun z hz => ih z (by simp [hz])) hrest
      exact ⟨rfl, hr⟩

theorem dumpObj_inj {d : Dict} (ih : ∀ kv ∈ d, Readable kv.2) {first : Bool} {e : Dict}
    {r s : List Char} (h : dumpObj first d ++ r = dumpObj first e ++ s) : d = e ∧ r = s := by
  induction d generalizing first e with
  | nil =>
    cases e with
    | nil => simpa [dumpObj] using h
    | cons kv e => cases first <;> simp [dumpObj, dumpStr, doubleQuote] at h
  | cons kv d ihd =>
    obtain ⟨k, v⟩ := kv
    cases e with
    | nil => cases first <;> simp [dumpObj, dumpStr, doubleQuote] at h
    | cons lw e =>
      obtain ⟨l, w⟩ := lw
      -- Key, value and rest are read one after the other.
      have h' : dumpStr k ++ ':' :: (dump v ++ (dumpObj false d ++ r)) =
          dumpStr l ++ ':' :: (dump w ++ (dumpObj false e ++ s)) := by
        cases first <;> simpa [dumpObj] using h
      obtain ⟨rfl, hv⟩ := dumpStr_inj h'
      obtain ⟨rfl, hrest⟩ := ih (k, v) (by simp) w _ _ (dumpObj_delimited d r)
        (dumpObj_delimited e s) (List.cons.inj hv).2
      obtain ⟨rfl, hr⟩ := ihd (fun z hz => ih z (by simp [hz])) hrest
      exact ⟨rfl, hr⟩

/-- A word is not the beginning of anything that starts with a bracket or quote. -/
theorem word_ne_opened {a : Json} (ha : a.isWord = true) {c : Char} (hc : isWordChar c = false)
    (r s : List Char) : dump a ++ r ≠ c :: s := by
  intro h
  cases hd : dump a with
  | nil => exact dump_word_ne_nil ha hd
  | cons d t =>
    rw [hd, List.cons_append, List.cons.injEq] at h
    have hw := dump_word_chars ha d (hd ▸ List.mem_cons_self)
    rw [h.1, hc] at hw
    cases hw

theorem readable_word {a : Json} (ha : a.isWord = true) : Readable a := by
  intro b r s hr hs h
  by_cases hb : b.isWord = true
  · have hab : dump a = dump b := by
      rw [← takeWhile_word (dump_word_chars ha) hr, h, takeWhile_word (dump_word_chars hb) hs]
    rw [hab, List.append_cancel_left_eq] at h
    exact ⟨dump_word_inj ha hb hab, h⟩
  · cases b with
    | str t => exact absurd h (word_ne_opened ha (by decide) r _)
    | arr ys => exact absurd h (word_ne_opened ha (by decide) r _)
    | obj e => exact absurd h (word_ne_opened ha (by decide) r _)
    | _ => exact absurd rfl hb

theorem readable (a : Json) : Readable a := by
  induction a using Json.induct with
  | null => exact readable_word rfl
  | bool b => exact readable_word rfl
  | int n => exact readable_word rfl
  | float x => exact readable_word rfl
  -- Strings, arrays and objects begin with characters of their own.
  | str t =>
    intro b r s _ _ h
    cases b with
    | str u =>
      obtain ⟨rfl, hr⟩ := dumpStr_inj h
      exact ⟨rfl, hr⟩
    | arr ys => simp [dump, dumpStr, doubleQuote] at h
    | obj e => simp [dump, dumpStr, doubleQuote] at h
    | _ => exact absurd h.symm (word_ne_opened rfl (by decide) s _)
  | arr xs ih =>
    intro b r s _ _ h
    cases b with
    | str u => simp [dump, dumpStr, doubleQuote] at h
    | arr ys =>
      obtain ⟨rfl, hr⟩ := dumpArr_inj ih (List.cons.inj h).2
      exact ⟨rfl, hr⟩
    | obj e => simp [dump] at h
    | _ => exact absurd h.symm (word_ne_opened rfl (by decide) s _)
  | obj d ih =>
    intro b r s _ _ h
    cases b with
    | str u => simp [dump, dumpStr, doubleQuote] at h
    | arr ys => simp [dump] at h
    | obj e =>
      obtain ⟨rfl, hr⟩ := dumpObj_inj ih (List.cons.inj h).2
      exact ⟨rfl, hr⟩
    | _ => exact absurd h.symm (word_ne_opened rfl (by decide) s _)

/-- Equal texts stand for values that are equal up to the order of their keys. -/
theorem sortKeys_eq_of_dumps_eq {a b : Json} (h : dumps a = dumps b) : a.sortKeys = b.sortKeys := by
  have hnil : Delimited [] := by simp [Delimited]
  have hd : dump a.sortKeys = dump b.sortKeys := String.ofList_inj.mp h
  exact (readable a.sortKeys b.sortKeys [] [] hnil hnil (by rw [hd])).1

/-! ## Section 5: Digests -/

theorem hexChars_injective : Function.Injective hexChars := by
  intro as
  induction as with
  | nil =>
    intro bs h
    cases bs with
    | nil => rfl
    | cons b bs => simp [hexChars] at h
  | cons a as ih =>
    intro bs h
    cases bs with
    | nil => simp [hexChars] at h
    | cons b bs =>
      simp only [hexChars, List.flatMap_cons, List.cons_append, List.nil_append,
        List.cons.injEq] at h
      obtain ⟨hhi, hlo, hrest⟩ := h
      have ha := a.toNat_lt
      have hb := b.toNat_lt
      have ehi := hexDigitChar_inj (by omega) (by omega) hhi
      have elo := hexDigitChar_inj (by omega) (by omega) hlo
      have hab : a = b := UInt8.toNat_inj.mp (by omega)
      rw [hab, ih hrest]

theorem hexdigest_injective : Function.Injective hexdigest := fun _ _ h =>
  hexChars_injective (String.ofList_inj.mp h)

/-- `sha256(dumps(j)).hexdigest()` determines `j` up to the order of its keys. -/
theorem sortKeys_eq_of_digest_eq {hash : List UInt8 → List UInt8} (hinj : Function.Injective hash)
    {a b : Json} (h : hexdigest (hash (encodeUtf8 (dumps a))) =
      hexdigest (hash (encodeUtf8 (dumps b)))) : a.sortKeys = b.sortKeys :=
  sortKeys_eq_of_dumps_eq (encodeUtf8_injective (hinj (hexdigest_injective h)))

end Py
