import Mathlib.Data.List.TakeWhile
import XrplX402.Py.Parse

/-! # The limits of the model reader

    `model_validate_json` refuses texts that `json.loads` takes: no more than
    `maxLevels` lists and objects with members may be open at a place, and the
    whole part of a number has at most `maxDigits` characters.

    * `withinLimits`: the check on a text, whether it is JSON or not.
    * `Json.fits`: the check on a value.
    * `withinLimits_write`: they agree on what is written.
    * `readJson_write`: what is written and fits is read back. -/

namespace Py

/-! ## Section 1: Texts -/

def maxLevels : Nat := 200

def maxDigits : Nat := 4300

/-- Where a reader stands in a text. -/
inductive Place where
  | between
  | word
  | string
  | escaped
  deriving DecidableEq

/-- The length of the whole part of a number, with its sign. -/
def wholeLength : List Char → Nat
  | '-' :: cs => 1 + (cs.takeWhile isAsciiDigit).length
  | cs => (cs.takeWhile isAsciiDigit).length

/-- A bracket closes what has just been opened. -/
def closesAtOnce (cs : List Char) : Bool := (skip cs).head?.any fun c => c = ']' || c = '\x7d'

/-- `level` lists and objects are open. -/
def withinLimits : Place → Nat → List Char → Bool
  | _, _, [] => true
  | place, level, c :: cs =>
    if place = .escaped then withinLimits .string level cs
    else if place = .string then
      if c = '\\' then withinLimits .escaped level cs
      else if c = doubleQuote then withinLimits .between level cs
      else withinLimits .string level cs
    else if c = doubleQuote then withinLimits .string level cs
    else if c = '[' ∨ c = '\x7b' then
      (closesAtOnce cs || decide (level < maxLevels)) && withinLimits .between (level + 1) cs
    else if c = ']' ∨ c = '\x7d' then withinLimits .between (level - 1) cs
    else if isTokenChar c then
      (decide (place = .word) || decide (wholeLength (c :: cs) ≤ maxDigits)) &&
        withinLimits .word level cs
    else withinLimits .between level cs

/-- The reader of `model_validate_json`. -/
def readJson (s : String) : Option Json :=
  if withinLimits .between 0 s.toList then loads s else none

/-! ## Section 2: Values -/

mutual

/-- The value may stand where `level` lists and objects are open. -/
def Json.fits (level : Nat) : Json → Bool
  | .int n => decide ((intChars n).length ≤ maxDigits)
  | .float x => decide (wholeLength x.text.toList ≤ maxDigits)
  | .arr xs => (xs.isEmpty || decide (level < maxLevels)) && fitsItems (level + 1) xs
  | .obj kvs => (kvs.isEmpty || decide (level < maxLevels)) && fitsMembers (level + 1) kvs
  | .null => true
  | .bool _ => true
  | .str _ => true

def Json.fitsItems (level : Nat) : List Json → Bool
  | [] => true
  | x :: xs => x.fits level && fitsItems level xs

def Json.fitsMembers (level : Nat) : List (String × Json) → Bool
  | [] => true
  | (_, v) :: kvs => v.fits level && fitsMembers level kvs

end

theorem fitsMembers_iff {level : Nat} {kvs : Dict} :
    Json.fitsMembers level kvs = true ↔ ∀ kv ∈ kvs, kv.2.fits level = true := by
  induction kvs with
  | nil => simp [Json.fitsMembers]
  | cons kv kvs ih => simp [Json.fitsMembers, ih]

/-- A list of `n` lists, one in the other, around a value. -/
def nested : Nat → Json → Json
  | 0, j => j
  | n + 1, j => .arr [nested n j]

/-- Only as many lists fit as levels are left. -/
theorem fits_nested_iff {j : Json} (hj : ∀ level, j.fits level = true) (n level : Nat) :
    (nested n j).fits level = true ↔ n = 0 ∨ level + n ≤ maxLevels := by
  induction n generalizing level with
  | zero => simp [nested, hj]
  | succ n ih =>
    have hitems : (nested (n + 1) j).fits level =
        (decide (level < maxLevels) && (nested n j).fits (level + 1)) := by
      simp [nested, Json.fits, Json.fitsItems]
    rw [hitems, Bool.and_eq_true, decide_eq_true_eq, ih]
    omega

theorem proper_nested (n : Nat) (j : Json) : (nested n j).proper = j.proper := by
  induction n with
  | zero => rfl
  | succ n ih => simp [nested, Json.proper, Json.properItems, ih]

/-! ## Section 3: What is written -/

section Scanning

variable {esc : Char → List Char} {level : Nat}

/-- Escaped characters are passed over. -/
def PassesOver (esc : Char → List Char) : Prop :=
  ∀ c level r, withinLimits .string level (esc c ++ r) = withinLimits .string level r

theorem withinLimits_plain {c : Char} (hb : c ≠ '\\') (hq : c ≠ doubleQuote) (r : List Char) :
    withinLimits .string level (c :: r) = withinLimits .string level r := by
  simp [withinLimits, hb, hq]

theorem withinLimits_escape (c : Char) (r : List Char) :
    withinLimits .string level ('\\' :: c :: r) = withinLimits .string level r := by
  simp [withinLimits]

theorem withinLimits_hexPadded (n : Nat) (r : List Char) :
    withinLimits .string level (hexPadded 4 n ++ r) = withinLimits .string level r := by
  have hdigit : ∀ {m}, m < 16 → hexDigitChar m ≠ '\\' ∧ hexDigitChar m ≠ doubleQuote := by decide
  have hskip : ∀ m (r : List Char), withinLimits .string level (hexDigitChar (m % 16) :: r) =
      withinLimits .string level r := fun m r =>
    have hm := hdigit (Nat.mod_lt m (by decide))
    withinLimits_plain hm.1 hm.2 r
  simp only [hexPadded_four, List.cons_append, List.nil_append, hskip]

theorem passesOver_escapeControl : PassesOver escapeControl := by
  intro c level r
  unfold escapeControl
  iterate 7
    split
    · exact withinLimits_escape _ r
  split
  · next hq hb _ _ _ _ _ _ => exact withinLimits_plain hb hq r
  · rw [unicodeEscape, List.cons_append, List.cons_append, withinLimits_escape,
      withinLimits_hexPadded]

theorem withinLimits_writeStr (hesc : PassesOver esc) (s : String) {place : Place}
    (hplace : place = .between ∨ place = .word) (r : List Char) :
    withinLimits place level (writeStr esc s ++ r) = withinLimits .between level r := by
  have hchars : ∀ cs : List Char, withinLimits .string level (cs.flatMap esc ++ doubleQuote :: r) =
      withinLimits .between level r := by
    intro cs
    induction cs with
    | nil => simp [withinLimits, doubleQuote]
    | cons c cs ih => rw [List.flatMap_cons, List.append_assoc, hesc, ih]
  have hopen : withinLimits place level (doubleQuote :: (s.toList.flatMap esc ++ doubleQuote :: r)) =
      withinLimits .string level (s.toList.flatMap esc ++ doubleQuote :: r) := by
    rcases hplace with rfl | rfl <;> simp [withinLimits]
  rw [writeStr, List.append_assoc, List.cons_append, List.cons_append, List.nil_append, hopen, hchars]

theorem wholeLength_append {w r : List Char} (hw : w ≠ []) (hr : Delimited r) :
    wholeLength (w ++ r) = wholeLength w := by
  -- A delimiter ends the digits.
  have hdigits : ∀ ds : List Char, (ds ++ r).takeWhile isAsciiDigit = ds.takeWhile isAsciiDigit := by
    intro ds
    induction ds with
    | nil =>
      cases r with
      | nil => rfl
      | cons c r =>
        have hc : isDelimiter c = true := hr c (by simp)
        have hdigit : isAsciiDigit c = false := by
          by_contra hcon
          have hword := isWordChar_of_isAsciiDigit (Bool.eq_true_of_not_eq_false hcon)
          simp [isWordChar, hc] at hword
        simp [hdigit]
    | cons d ds ih => rw [List.cons_append, List.takeWhile_cons, List.takeWhile_cons, ih]
  cases w with
  | nil => exact absurd rfl hw
  | cons c w =>
    by_cases hminus : c = '-'
    · subst hminus
      simp only [List.cons_append, wholeLength, hdigits]
    · have hwhole : ∀ cs, wholeLength (c :: cs) = ((c :: cs).takeWhile isAsciiDigit).length := by
        intro cs
        unfold wholeLength
        split
        · next heq => exact absurd (List.cons.inj heq).1 hminus
        · rfl
      rw [List.cons_append, hwhole, hwhole, ← List.cons_append, hdigits]

theorem withinLimits_token {c : Char} (hc : isTokenChar c = true) {place : Place}
    (hplace : place = .between ∨ place = .word) (cs : List Char) :
    withinLimits place level (c :: cs) =
      ((decide (place = .word) || decide (wholeLength (c :: cs) ≤ maxDigits)) &&
        withinLimits .word level cs) := by
  have hword := hc
  simp only [isTokenChar, isWordChar, isDelimiter, Bool.and_eq_true, Bool.not_eq_true', Bool.or_eq_false_iff,
    decide_eq_true_eq, decide_eq_false_iff_not, ne_eq] at hword
  obtain ⟨⟨⟨⟨⟨⟨⟨-, hlist⟩, hobj⟩, -⟩, hquote⟩, hopen⟩, hbrace⟩, -⟩ := hword
  rcases hplace with rfl | rfl
  · simp [withinLimits, hquote, hopen, hbrace, hlist, hobj, hc]
  · simp [withinLimits, hquote, hopen, hbrace, hlist, hobj, hc]

theorem withinLimits_word {w : List Char} (hw : ∀ c ∈ w, isTokenChar c = true) (r : List Char) :
    withinLimits .word level (w ++ r) = withinLimits .word level r := by
  induction w with
  | nil => rfl
  | cons c w ih =>
    rw [List.cons_append, withinLimits_token (hw c List.mem_cons_self) (.inr rfl),
      ih fun d hd => hw d (List.mem_cons_of_mem _ hd)]
    rfl

/-- A delimiter ends a word. -/
theorem withinLimits_delimited {r : List Char} (hr : Delimited r) :
    withinLimits .word level r = withinLimits .between level r := by
  cases r with
  | nil => rfl
  | cons c r =>
    have hc : isDelimiter c = true := hr c (by simp)
    have htoken : isTokenChar c = false := by simp [isTokenChar, isWordChar, hc]
    simp [withinLimits, htoken]

/-- A delimiter that opens or closes nothing. -/
theorem withinLimits_separator {c : Char} (hc : c = ',' ∨ c = ':') (r : List Char) :
    withinLimits .between level (c :: r) = withinLimits .between level r := by
  rcases hc with rfl | rfl
  · simp [withinLimits, doubleQuote, isTokenChar, isWordChar, isDelimiter]
  · simp [withinLimits, doubleQuote, isTokenChar, isWordChar, isDelimiter]

theorem withinLimits_close {c : Char} (hc : c = ']' ∨ c = '\x7d') (r : List Char) :
    withinLimits .between level (c :: r) = withinLimits .between (level - 1) r := by
  rcases hc with rfl | rfl
  · simp [withinLimits, doubleQuote]
  · simp [withinLimits, doubleQuote]

theorem withinLimits_open {c : Char} (hc : c = '[' ∨ c = '\x7b') (r : List Char) :
    withinLimits .between level (c :: r) =
      ((closesAtOnce r || decide (level < maxLevels)) && withinLimits .between (level + 1) r) := by
  rcases hc with rfl | rfl
  · simp [withinLimits, doubleQuote]
  · simp [withinLimits, doubleQuote]

/-- The text of `j` is within the limits where `j` fits. -/
def Scans (esc : Char → List Char) (j : Json) : Prop :=
  ∀ level r, Delimited r → withinLimits .between level (write esc j ++ r) =
    (j.fits level && withinLimits .between level r)

theorem wholeLength_intChars (n : Int) : wholeLength (intChars n) = (intChars n).length := by
  have hdigits : (Nat.toDigits 10 n.natAbs).takeWhile isAsciiDigit = Nat.toDigits 10 n.natAbs :=
    List.takeWhile_eq_self_iff.mpr fun c hc => isAsciiDigit_of_mem_toDigits hc
  unfold intChars
  split
  · rw [wholeLength, hdigits, List.length_cons, Nat.add_comm]
  · cases hcs : Nat.toDigits 10 n.natAbs with
    | nil => rfl
    | cons c cs =>
      have hc : isAsciiDigit c = true := isAsciiDigit_of_mem_toDigits (hcs ▸ List.mem_cons_self)
      rw [hcs] at hdigits
      unfold wholeLength
      split
      · next heq =>
        obtain ⟨rfl, -⟩ := List.cons.inj heq
        exact absurd hc (by decide)
      · rw [hdigits]

/-- A word fits when its whole part is short enough. -/
theorem scans_word {j : Json} (hj : j.isWord = true) : Scans esc j := by
  intro level r hr
  have hwrite : write esc j = dump j := by cases j <;> first | rfl | cases hj
  have hfits : j.fits level = decide (wholeLength (dump j) ≤ maxDigits) := by
    cases j with
    | null => rfl
    | bool b => cases b <;> rfl
    | int n => rw [Json.fits, dump, wholeLength_intChars]
    | float x => rfl
    | str s => cases hj
    | arr xs => cases hj
    | obj kvs => cases hj
  have hne := dump_word_ne_nil hj
  have htokens := dump_token_chars hj
  have hwhole := wholeLength_append hne hr
  rw [hwrite, hfits]
  obtain ⟨c, w, hcw⟩ := List.exists_cons_of_ne_nil hne
  rw [hcw] at htokens hwhole ⊢
  rw [List.cons_append, withinLimits_token (htokens c List.mem_cons_self) (.inl rfl),
    withinLimits_word fun d hd => htokens d (List.mem_cons_of_mem _ hd), withinLimits_delimited hr,
    ← List.cons_append, hwhole]
  simp

theorem closesAtOnce_write (j : Json) (r : List Char) : closesAtOnce (write esc j ++ r) = false := by
  have hlist : (write esc j ++ r).head? ≠ some ']' := head_write_ne j r (by decide)
  have hobj : (write esc j ++ r).head? ≠ some '\x7d' := head_write_ne j r (by decide)
  rw [closesAtOnce, skip_write]
  cases hhead : (write esc j ++ r).head? with
  | none => rfl
  | some c =>
    rw [hhead] at hlist hobj
    simpa using ⟨fun h => hlist (congrArg some h), fun h => hobj (congrArg some h)⟩

theorem scans_items {xs : List Json} (ih : ∀ x ∈ xs, Scans esc x) (first : Bool) (r : List Char) :
    withinLimits .between level (writeItems esc first xs ++ r) =
      (Json.fitsItems level xs && withinLimits .between (level - 1) r) := by
  induction xs generalizing first with
  | nil => exact withinLimits_close (.inl rfl) r
  | cons x xs ihxs =>
    have hx := ih x List.mem_cons_self level (writeItems esc false xs ++ r) (writeItems_delimited xs r)
    have hrest := ihxs (fun y hy => ih y (List.mem_cons_of_mem _ hy)) false
    have htext : withinLimits .between level (writeItems esc first (x :: xs) ++ r) =
        withinLimits .between level (write esc x ++ (writeItems esc false xs ++ r)) := by
      rw [writeItems, List.append_assoc, List.append_assoc]
      cases first with
      | true => rfl
      | false => exact withinLimits_separator (.inl rfl) _
    rw [htext, hx, hrest, Json.fitsItems, Bool.and_assoc]

theorem scans_members (hesc : PassesOver esc) {kvs : Dict} (ih : ∀ kv ∈ kvs, Scans esc kv.2)
    (first : Bool) (r : List Char) :
    withinLimits .between level (writeMembers esc first kvs ++ r) =
      (Json.fitsMembers level kvs && withinLimits .between (level - 1) r) := by
  induction kvs generalizing first with
  | nil => exact withinLimits_close (.inr rfl) r
  | cons kv kvs ihkvs =>
    -- The key is a string, and a scan passes over it.
    obtain ⟨k, v⟩ := kv
    have hv := ih (k, v) List.mem_cons_self level (writeMembers esc false kvs ++ r) (writeMembers_delimited kvs r)
    have hrest := ihkvs (fun y hy => ih y (List.mem_cons_of_mem _ hy)) false
    have htext : withinLimits .between level (writeMembers esc first ((k, v) :: kvs) ++ r) =
        withinLimits .between level (write esc v ++ (writeMembers esc false kvs ++ r)) := by
      have hkey : withinLimits .between level
          (writeStr esc k ++ ':' :: (write esc v ++ (writeMembers esc false kvs ++ r))) =
          withinLimits .between level (write esc v ++ (writeMembers esc false kvs ++ r)) := by
        rw [withinLimits_writeStr hesc k (.inl rfl), withinLimits_separator (.inr rfl)]
      have hsplit : writeMembers esc first ((k, v) :: kvs) ++ r =
          (if first then [] else [',']) ++
            (writeStr esc k ++ ':' :: (write esc v ++ (writeMembers esc false kvs ++ r))) := by
        simp [writeMembers]
      rw [hsplit]
      cases first with
      | true => exact hkey
      | false => exact (withinLimits_separator (.inl rfl) _).trans hkey
    rw [htext, hv, hrest, Json.fitsMembers, Bool.and_assoc]

theorem scans (hesc : PassesOver esc) (j : Json) : Scans esc j := by
  induction j using Json.induct with
  | null => exact scans_word rfl
  | bool b => exact scans_word rfl
  | int n => exact scans_word rfl
  | float x => exact scans_word rfl
  | str s => exact fun level r _ => withinLimits_writeStr hesc s (.inl rfl) r
  | arr xs ih =>
    intro level r _
    -- The list opens a level unless it is empty.
    have hclose : closesAtOnce (writeItems esc true xs ++ r) = xs.isEmpty := by
      cases xs with
      | nil => rfl
      | cons x xs =>
        rw [writeItems, if_pos rfl, List.nil_append, List.append_assoc]
        exact closesAtOnce_write x _
    rw [write, List.cons_append, withinLimits_open (.inl rfl), hclose, scans_items ih, Json.fits,
      Nat.add_sub_cancel, Bool.and_assoc]
  | obj kvs ih =>
    intro level r _
    -- So does an object.
    have hclose : closesAtOnce (writeMembers esc true kvs ++ r) = kvs.isEmpty := by
      cases kvs with
      | nil => rfl
      | cons kv kvs => rfl
    rw [write, List.cons_append, withinLimits_open (.inr rfl), hclose, scans_members hesc ih, Json.fits,
      Nat.add_sub_cancel, Bool.and_assoc]

end Scanning

theorem withinLimits_write (j : Json) :
    withinLimits .between 0 (write escapeControl j) = j.fits 0 := by
  have hscan := scans passesOver_escapeControl j 0 [] (by simp [Delimited])
  rwa [List.append_nil, withinLimits, Bool.and_true] at hscan

/-! ## Section 4: What is read back -/

/-- What is written and fits is read back. -/
theorem readJson_write {j : Json} (hp : j.proper = true) (hfits : j.fits 0 = true) :
    readJson (String.ofList (write escapeControl j)) = some j := by
  rw [readJson, String.toList_ofList, withinLimits_write, if_pos hfits, loads, String.toList_ofList]
  exact parse_write readsBack_escapeControl hp

/-- What does not fit is refused. -/
theorem readJson_of_not_fits {j : Json} (h : j.fits 0 = false) :
    readJson (String.ofList (write escapeControl j)) = none := by
  rw [readJson, String.toList_ofList, withinLimits_write, h, if_neg Bool.false_ne_true]

theorem readJson_of_not_json {cs : List Char} (h : parse cs = none) :
    readJson (String.ofList cs) = none := by
  rw [readJson, loads, String.toList_ofList, h, ite_self]

end Py
