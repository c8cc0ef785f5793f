import Mathlib.Data.List.Infix
import XrplX402.Py.Serialize

/-! # `json.dumps` with its own separators

    Without `separators` the writer puts a blank behind every comma and colon.
    Here matter the characters of such a text, and that every string of the value
    stands in it as `json.dumps` writes a string. -/

namespace Py

/-! ## Section 1: Writing -/

mutual

def spaced : Json → List Char
  | .str s => dumpStr s
  | .arr xs => '[' :: spacedArr true xs
  | .obj kvs => '\x7b' :: spacedObj true kvs
  | .null => "null".toList
  | .bool b => if b then "true".toList else "false".toList
  | .int n => intChars n
  | .float x => x.text.toList

def spacedArr : Bool → List Json → List Char
  | _, [] => [']']
  | first, x :: xs => (if first then [] else [',', ' ']) ++ (spaced x ++ spacedArr false xs)

def spacedObj : Bool → List (String × Json) → List Char
  | _, [] => ['\x7d']
  | first, (k, v) :: d =>
    (if first then [] else [',', ' ']) ++ (dumpStr k ++ ':' :: ' ' :: (spaced v ++ spacedObj false d))

end

/-- `json.dumps(j, sort_keys=True)` -/
def spacedDumps (j : Json) : String := String.ofList (spaced j.sortKeys)

example : spacedDumps (.obj [("b", .arr [.int 1, .null]), ("a", .str "x")]) =
    "\x7b\"a\": \"x\", \"b\": [1, null]\x7d" := by decide

/-! ## Section 2: The strings of a value -/

mutual

/-- The string values inside a value; keys are not among them. -/
def Json.strings : Json → List String
  | .str s => [s]
  | .arr xs => Json.stringsArr xs
  | .obj kvs => Json.stringsObj kvs
  | .null => []
  | .bool _ => []
  | .int _ => []
  | .float _ => []

def Json.stringsArr : List Json → List String
  | [] => []
  | x :: xs => x.strings ++ Json.stringsArr xs

def Json.stringsObj : List (String × Json) → List String
  | [] => []
  | (_, v) :: d => v.strings ++ Json.stringsObj d

end

namespace Json

theorem mem_strings_arr {xs : List Json} {s : String} :
    s ∈ (Json.arr xs).strings ↔ ∃ x ∈ xs, s ∈ x.strings := by
  rw [strings]
  induction xs with
  | nil => simp [stringsArr]
  | cons x xs ih => simp [stringsArr, ih]

theorem mem_strings_obj {kvs : Dict} {s : String} :
    s ∈ (Json.obj kvs).strings ↔ ∃ kv ∈ kvs, s ∈ kv.2.strings := by
  rw [strings]
  induction kvs with
  | nil => simp [stringsObj]
  | cons kv kvs ih => simp [stringsObj, ih]

theorem mem_insertKV {k : String} {v : Json} {d : Dict} {kv : String × Json} :
    kv ∈ insertKV k v d ↔ kv = (k, v) ∨ kv ∈ d := by
  induction d with
  | nil => simp [insertKV]
  | cons lw d ih =>
    obtain ⟨l, w⟩ := lw
    rw [insertKV]
    split
    · rw [List.mem_cons, ih, List.mem_cons]
      exact or_left_comm
    · rw [List.mem_cons]

theorem mem_sortObj_of_mem {d : Dict} {kv : String × Json} (h : kv ∈ d) :
    (kv.1, kv.2.sortKeys) ∈ sortObj d := by
  induction d with
  | nil => cases h
  | cons lw d ih =>
    obtain ⟨l, w⟩ := lw
    rw [sortObj, mem_insertKV]
    rcases List.mem_cons.mp h with rfl | hmem
    · exact .inl rfl
    · exact .inr (ih hmem)

theorem mem_sortArr_of_mem {xs : List Json} {x : Json} (h : x ∈ xs) : x.sortKeys ∈ sortArr xs := by
  induction xs with
  | nil => cases h
  | cons y xs ih =>
    rw [sortArr]
    rcases List.mem_cons.mp h with rfl | hmem
    · exact List.mem_cons_self
    · exact List.mem_cons_of_mem _ (ih hmem)

/-- Sorting the keys keeps the strings. -/
theorem mem_strings_sortKeys {j : Json} {s : String} (h : s ∈ j.strings) : s ∈ j.sortKeys.strings := by
  induction j using Json.induct with
  | arr xs ih =>
    obtain ⟨x, hx, hs⟩ := mem_strings_arr.mp h
    exact mem_strings_arr.mpr ⟨_, mem_sortArr_of_mem hx, ih x hx hs⟩
  | obj kvs ih =>
    obtain ⟨kv, hkv, hs⟩ := mem_strings_obj.mp h
    exact mem_strings_obj.mpr ⟨_, mem_sortObj_of_mem hkv, ih kv hkv hs⟩
  | str t => exact h
  | null => exact h
  | bool b => exact h
  | int n => exact h
  | float x => exact h

end Json

theorem spaced_infix_spacedArr {xs : List Json} {x : Json} (h : x ∈ xs) (first : Bool) :
    spaced x <:+: spacedArr first xs := by
  induction xs generalizing first with
  | nil => cases h
  | cons y xs ih =>
    rw [spacedArr]
    apply List.IsInfix.trans _ (List.suffix_append _ _).isInfix
    rcases List.mem_cons.mp h with rfl | hmem
    · exact (List.prefix_append _ _).isInfix
    · exact (ih hmem false).trans (List.suffix_append _ _).isInfix

theorem spaced_infix_spacedObj {kvs : Dict} {kv : String × Json} (h : kv ∈ kvs) (first : Bool) :
    spaced kv.2 <:+: spacedObj first kvs := by
  induction kvs generalizing first with
  | nil => cases h
  | cons lw kvs ih =>
    obtain ⟨l, w⟩ := lw
    rw [spacedObj]
    have htail : spaced w ++ spacedObj false kvs <:+:
        (if first then [] else [',', ' ']) ++
          (dumpStr l ++ ':' :: ' ' :: (spaced w ++ spacedObj false kvs)) := by
      refine ⟨(if first then [] else [',', ' ']) ++ dumpStr l ++ [':', ' '], [], ?_⟩
      simp
    rcases List.mem_cons.mp h with rfl | hmem
    · exact (List.prefix_append _ _).isInfix.trans htail
    · exact (ih hmem false).trans ((List.suffix_append _ _).isInfix.trans htail)

/-- Every string of a value stands in its text as `json.dumps` writes it. -/
theorem dumpStr_infix_spaced {j : Json} {s : String} (h : s ∈ j.strings) :
    dumpStr s <:+: spaced j := by
  induction j using Json.induct with
  | arr xs ih =>
    obtain ⟨x, hx, hs⟩ := Json.mem_strings_arr.mp h
    rw [spaced]
    exact (ih x hx hs).trans ((spaced_infix_spacedArr hx true).trans (List.suffix_cons _ _).isInfix)
  | obj kvs ih =>
    obtain ⟨kv, hkv, hs⟩ := Json.mem_strings_obj.mp h
    rw [spaced]
    exact (ih kv hkv hs).trans ((spaced_infix_spacedObj hkv true).trans (List.suffix_cons _ _).isInfix)
  | str t =>
    obtain rfl := List.mem_singleton.mp h
    exact List.infix_rfl
  | null => cases h
  | bool b => cases h
  | int n => cases h
  | float x => cases h

theorem dumpStr_infix_spacedDumps {j : Json} {s : String} (h : s ∈ j.strings) :
    dumpStr s <:+: (spacedDumps j).toList := by
  rw [spacedDumps, String.toList_ofList]
  exact dumpStr_infix_spaced (Json.mem_strings_sortKeys h)

/-! ## Section 3: The characters of a text -/

/-- Printable characters of ASCII. -/
def isPrintableAscii (c : Char) : Bool := 32 ≤ c.toNat ∧ c.toNat < 127

/-- Characters that `json.dumps` writes as they are. -/
def isPlain (c : Char) : Bool := isPrintableAscii c ∧ c ≠ doubleQuote ∧ c ≠ '\\'

theorem escapeChar_plain {c : Char} (h : isPlain c = true) : escapeChar c = [c] := by
  simp only [isPlain, isPrintableAscii, decide_eq_true_eq] at h
  obtain ⟨hrange, hquote, hslash⟩ := h
  have hother : ∀ d : Char, d.toNat < 32 → c ≠ d := by
    rintro d hd rfl
    omega
  rw [escapeChar, if_neg hquote, if_neg hslash, if_neg (hother _ (by decide)),
    if_neg (hother _ (by decide)), if_neg (hother _ (by decide)), if_neg (by omega), if_neg (by omega),
    if_pos hrange]

theorem flatMap_escapeChar_plain {cs : List Char} (h : ∀ c ∈ cs, isPlain c = true) :
    cs.flatMap escapeChar = cs := by
  induction cs with
  | nil => rfl
  | cons c cs ih =>
    rw [List.flatMap_cons, escapeChar_plain (h c List.mem_cons_self),
      ih fun d hd => h d (List.mem_cons_of_mem _ hd)]
    rfl

theorem unicodeEscape_printable (n : Nat) : ∀ d ∈ unicodeEscape n, isPrintableAscii d = true := by
  have hhex : ∀ d ∈ hexDigitChars, isPrintableAscii d = true :=
    List.all_eq_true.mp (by decide)
  rw [unicodeEscape, hexPadded_four]
  simp only [List.forall_mem_cons, hhex _ (hexDigitChar_mem _), List.not_mem_nil, false_imp_iff,
    implies_true, and_true]
  decide

theorem escapeChar_printable (c : Char) : ∀ d ∈ escapeChar c, isPrintableAscii d = true := by
  unfold escapeChar
  split
  · exact List.all_eq_true.mp (by decide)
  split
  · exact List.all_eq_true.mp (by decide)
  split
  · exact List.all_eq_true.mp (by decide)
  split
  · exact List.all_eq_true.mp (by decide)
  split
  · exact List.all_eq_true.mp (by decide)
  split
  · exact List.all_eq_true.mp (by decide)
  split
  · exact List.all_eq_true.mp (by decide)
  split
  · next hrange =>
    intro d hd
    obtain rfl := List.mem_singleton.mp hd
    exact decide_eq_true hrange
  · split
    · exact unicodeEscape_printable _
    · intro d hd
      rcases List.mem_append.mp hd with hd | hd
      · exact unicodeEscape_printable _ d hd
      · exact unicodeEscape_printable _ d hd

theorem dumpStr_printable (s : String) : ∀ c ∈ dumpStr s, isPrintableAscii c = true := by
  have hquote : isPrintableAscii doubleQuote = true := by decide
  intro c hc
  rw [dumpStr, List.cons_append, List.mem_cons, List.mem_append, List.mem_flatMap,
    List.mem_singleton] at hc
  rcases hc with rfl | ⟨d, -, hd⟩ | rfl
  · exact hquote
  · exact escapeChar_printable d c hd
  · exact hquote

theorem isPrintableAscii_digit {c : Char} (h : isAsciiDigit c = true) : isPrintableAscii c = true := by
  have hrange : 48 ≤ c.toNat ∧ c.toNat ≤ 57 := by
    simpa [isAsciiDigit, Char.le_def, UInt32.le_iff_toNat_le] using h
  exact decide_eq_true ⟨by omega, by omega⟩

theorem intChars_printable (n : Int) : ∀ c ∈ intChars n, isPrintableAscii c = true := by
  have hdigits : ∀ c ∈ Nat.toDigits 10 n.natAbs, isPrintableAscii c = true := fun c hc =>
    isPrintableAscii_digit (isAsciiDigit_of_mem_toDigits hc)
  unfold intChars
  split
  · exact List.forall_mem_cons.mpr ⟨by decide, hdigits⟩
  · exact hdigits

theorem floatLit_printable (x : FloatLit) : ∀ c ∈ x.text.toList, isPrintableAscii c = true := by
  have hother : ∀ c ∈ "+-.eIinfty".toList, isPrintableAscii c = true :=
    List.all_eq_true.mp (by decide)
  intro c hc
  have hfloat := x.isFloat
  rw [isFloatText, Bool.and_eq_true, List.all_eq_true] at hfloat
  rcases Bool.or_eq_true_iff.mp (hfloat.1 c hc) with hdigit | hmem
  · exact isPrintableAscii_digit hdigit
  · exact hother c (List.contains_iff_mem.mp hmem)

theorem spacedArr_printable {xs : List Json}
    (ih : ∀ x ∈ xs, ∀ c ∈ spaced x, isPrintableAscii c = true) (first : Bool) :
    ∀ c ∈ spacedArr first xs, isPrintableAscii c = true := by
  induction xs generalizing first with
  | nil =>
    rw [spacedArr]
    exact List.all_eq_true.mp (by decide)
  | cons x xs ihs =>
    have hcomma : ∀ c ∈ (if first then [] else [',', ' ']), isPrintableAscii c = true := by
      cases first <;> exact List.all_eq_true.mp (by decide)
    intro c hc
    rw [spacedArr, List.mem_append, List.mem_append] at hc
    rcases hc with hc | hc | hc
    · exact hcomma c hc
    · exact ih x List.mem_cons_self c hc
    · exact ihs (fun y hy => ih y (List.mem_cons_of_mem _ hy)) false c hc

theorem spacedObj_printable {kvs : Dict}
    (ih : ∀ kv ∈ kvs, ∀ c ∈ spaced kv.2, isPrintableAscii c = true) (first : Bool) :
    ∀ c ∈ spacedObj first kvs, isPrintableAscii c = true := by
  induction kvs generalizing first with
  | nil =>
    rw [spacedObj]
    exact List.all_eq_true.mp (by decide)
  | cons kv kvs ihs =>
    obtain ⟨k, v⟩ := kv
    have hcomma : ∀ c ∈ (if first then [] else [',', ' ']), isPrintableAscii c = true := by
      cases first <;> exact List.all_eq_true.mp (by decide)
    have hcolon : ∀ c ∈ [':', ' '], isPrintableAscii c = true :=
      List.all_eq_true.mp (by decide)
    intro c hc
    have hparts : spacedObj first ((k, v) :: kvs) = (if first then [] else [',', ' ']) ++
        (dumpStr k ++ ([':', ' '] ++ (spaced v ++ spacedObj false kvs))) := by
      rw [spacedObj]
      rfl
    rw [hparts, List.mem_append, List.mem_append, List.mem_append, List.mem_append] at hc
    rcases hc with hc | hc | hc | hc | hc
    · exact hcomma c hc
    · exact dumpStr_printable k c hc
    · exact hcolon c hc
    · exact ih (k, v) List.mem_cons_self c hc
    · exact ihs (fun y hy => ih y (List.mem_cons_of_mem _ hy)) false c hc

theorem spaced_printable (j : Json) : ∀ c ∈ spaced j, isPrintableAscii c = true := by
  induction j using Json.induct with
  | arr xs ih => exact List.forall_mem_cons.mpr ⟨by decide, spacedArr_printable ih true⟩
  | obj kvs ih => exact List.forall_mem_cons.mpr ⟨by decide, spacedObj_printable ih true⟩
  | str s => exact dumpStr_printable s
  | null => exact List.all_eq_true.mp (by decide)
  | bool b => cases b <;> exact List.all_eq_true.mp (by decide)
  | int n => exact intChars_printable n
  | float x => exact floatLit_printable x

end Py
