import XrplX402.Py.Parse

/-! # Text files

    Bytes that are read as UTF-8 text with universal newlines, line by line.

    * `decodeUtf8`: strict decoding, the inverse of `encodeUtf8`.
    * `textLines`: the lines that are not blank. Text behind a newline adds its
      own lines and changes none before it.
    * `exists_of_encodeUtf8_append`: bytes that decode and begin the bytes of a
      text are the bytes of a beginning of it. -/

namespace Py

/-! ## Section 1: UTF-8 -/

/-- `bs.decode("utf-8")` -/
def decodeUtf8 (bs : List UInt8) : Option String := String.fromUTF8? ⟨bs.toArray⟩

/-- Bytes that may follow the first bytes of a character. -/
def completions : List (List UInt8) :=
  [0x80, 0x90, 0xa0].flatMap fun b => [[b], [b, 0x80], [b, 0x80, 0x80]]

/-- The beginning of a character, which more bytes complete. -/
def isTornChar (bs : List UInt8) : Bool :=
  bs ≠ [] && completions.any fun rest => (decodeUtf8 (bs ++ rest)).any fun s => s.length = 1

/-- What the incremental decoder makes of bytes: their characters, and the bytes
    of a character that is not complete. -/
def decodeIncremental (bs : List UInt8) : Option (String × List UInt8) :=
  [0, 1, 2, 3].findSome? fun torn =>
    let n := bs.length - torn
    match decodeUtf8 (bs.take n) with
    | some s => if torn = 0 || isTornChar (bs.drop n) then some (s, bs.drop n) else none
    | none => none

def chunkSize : Nat := 8192

/-- The characters of the chunks before the one that cannot be decoded. -/
def decodeChunks : Nat → List UInt8 → List UInt8 → List Char
  | 0, _, _ => []
  | n + 1, torn, bs =>
    if bs = [] then []
    else
      match decodeIncremental (torn ++ bs.take chunkSize) with
      | some (s, torn) => s.toList ++ decodeChunks n torn (bs.drop chunkSize)
      | none => []

theorem decodeUtf8_encodeUtf8 (s : String) : decodeUtf8 (encodeUtf8 s) = some s := by
  have hbytes : (⟨(encodeUtf8 s).toArray⟩ : ByteArray) = s.toByteArray := rfl
  rw [decodeUtf8, hbytes, String.fromUTF8?, dif_pos s.isValidUTF8]
  exact congrArg some (String.toByteArray_inj.mp rfl)

theorem encodeUtf8_of_decodeUtf8 {bs : List UInt8} {s : String} (h : decodeUtf8 bs = some s) :
    encodeUtf8 s = bs := by
  unfold decodeUtf8 String.fromUTF8? at h
  split at h
  · obtain rfl := Option.some.inj h
    rfl
  · cases h

theorem encodeUtf8_append (s t : String) : encodeUtf8 (s ++ t) = encodeUtf8 s ++ encodeUtf8 t := by
  simp [encodeUtf8]

theorem encodeUtf8_ne_nil {s : String} (h : s ≠ "") : encodeUtf8 s ≠ [] := by
  intro hnil
  exact h (encodeUtf8_injective hnil)

/-- No character is encoded as the beginning of another one. -/
theorem utf8EncodeChar_prefix {c d : Char} {x y : List UInt8}
    (h : String.utf8EncodeChar c ++ x = String.utf8EncodeChar d ++ y) : c = d ∧ x = y := by
  have hdecode : ∀ (e : Char) (z : List UInt8),
      ByteArray.utf8DecodeChar? ⟨(String.utf8EncodeChar e ++ z).toArray⟩ 0 = some e := by
    intro e z
    have hsplit : (⟨(String.utf8EncodeChar e ++ z).toArray⟩ : ByteArray) =
        (String.utf8EncodeChar e).toByteArray ++ ⟨z.toArray⟩ := by
      apply ByteArray.ext
      simp
    rw [hsplit]
    exact ByteArray.utf8DecodeChar?_utf8EncodeChar_append
  have hcd : c = d := by
    have hc := hdecode c x
    rw [h, hdecode d y] at hc
    exact (Option.some.inj hc).symm
  subst hcd
  exact ⟨rfl, List.append_cancel_left h⟩

theorem encodeUtf8_toList (s : String) : encodeUtf8 s = s.toList.flatMap String.utf8EncodeChar := by
  have hbytes : s.toByteArray = s.toList.utf8Encode := by
    rw [← String.toByteArray_ofList, String.ofList_toList]
  show s.toByteArray.data.toList = _
  rw [hbytes, List.utf8Encode]
  simp

/-- What begins with the bytes of `s` begins with `s`. -/
theorem exists_of_encodeUtf8_append {s u : String} {x : List UInt8}
    (h : encodeUtf8 s ++ x = encodeUtf8 u) : ∃ t, u = s ++ t ∧ x = encodeUtf8 t := by
  have hlist : ∀ cs ds : List Char,
      cs.flatMap String.utf8EncodeChar ++ x = ds.flatMap String.utf8EncodeChar →
        ∃ es, ds = cs ++ es ∧ x = es.flatMap String.utf8EncodeChar := by
    intro cs
    induction cs with
    | nil => exact fun ds hds => ⟨ds, rfl, hds⟩
    | cons c cs ih =>
      intro ds hds
      cases ds with
      | nil =>
        simp only [List.flatMap_cons, List.flatMap_nil, List.append_eq_nil_iff] at hds
        exact absurd hds.1.1 String.utf8EncodeChar_ne_nil
      | cons d ds =>
        simp only [List.flatMap_cons, List.append_assoc] at hds
        obtain ⟨rfl, hrest⟩ := utf8EncodeChar_prefix hds
        obtain ⟨es, rfl, hx⟩ := ih ds hrest
        exact ⟨es, rfl, hx⟩
  rw [encodeUtf8_toList, encodeUtf8_toList] at h
  obtain ⟨es, hu, hx⟩ := hlist _ _ h
  refine ⟨String.ofList es, ?_, ?_⟩
  · apply String.toList_inj.mp
    rw [hu, String.toList_append, String.toList_ofList]
  · rw [hx, encodeUtf8_toList, String.toList_ofList]

/-! ## Section 2: Lines -/

def isNewline (c : Char) : Bool := c = '\n' || c = '\r'

/-- The pieces between newlines. Of `"\r\n"` this makes a blank piece more. -/
def pieces : List Char → List (List Char)
  | [] => [[]]
  | c :: cs =>
    if isNewline c then [] :: pieces cs
    else
      match pieces cs with
      | [] => [[c]]
      | piece :: rest => (c :: piece) :: rest

/-- `line.strip() == ""` -/
def isBlank (cs : List Char) : Bool := cs.all isSpace

/-- The lines of a text that are not blank. -/
def textLines (cs : List Char) : List (List Char) := (pieces cs).filter fun line => !isBlank line

/-- The text up to its last newline. -/
def completeLines (cs : List Char) : List Char :=
  (cs.reverse.dropWhile fun c => !isNewline c).reverse

theorem pieces_ne_nil (cs : List Char) : pieces cs ≠ [] := by
  cases cs with
  | nil => exact List.cons_ne_nil _ _
  | cons c cs =>
    rw [pieces]
    split
    · exact List.cons_ne_nil _ _
    · split <;> exact List.cons_ne_nil _ _

theorem pieces_append_newline (cs ds : List Char) :
    pieces (cs ++ '\n' :: ds) = pieces cs ++ pieces ds := by
  induction cs with
  | nil => rfl
  | cons c cs ih =>
    rw [List.cons_append, pieces, ih, pieces]
    split
    · rfl
    · cases hp : pieces cs with
      | nil => exact absurd hp (pieces_ne_nil cs)
      | cons piece rest => rfl

theorem pieces_of_no_newline {cs : List Char} (h : ∀ c ∈ cs, isNewline c = false) :
    pieces cs = [cs] := by
  induction cs with
  | nil => rfl
  | cons c cs ih =>
    rw [pieces, h c List.mem_cons_self, ih fun d hd => h d (List.mem_cons_of_mem _ hd)]
    rfl

/-- The text is empty or its last line is complete. -/
def Terminated (cs : List Char) : Prop := cs = [] ∨ ∃ ds, cs = ds ++ ['\n']

/-- What is appended to complete lines adds its own lines. -/
theorem textLines_append {cs : List Char} (h : Terminated cs) (ds : List Char) :
    textLines (cs ++ ds) = textLines cs ++ textLines ds := by
  rcases h with rfl | ⟨es, rfl⟩
  · rfl
  · have hall : pieces (es ++ ['\n'] ++ ds) = pieces es ++ pieces ds := by
      rw [List.append_assoc]
      exact pieces_append_newline es ds
    have hhead : pieces (es ++ ['\n']) = pieces es ++ [[]] := pieces_append_newline es []
    rw [textLines, textLines, textLines, hall, hhead, List.filter_append, List.filter_append]
    simp [isBlank]

/-- A line without newlines, whether or not it is complete. -/
theorem textLines_line {cs : List Char} (h : ∀ c ∈ cs, isNewline c = false)
    (hblank : isBlank cs = false) :
    textLines cs = [cs] ∧ textLines (cs ++ ['\n']) = [cs] := by
  have hkept : [cs].filter (fun line => !isBlank line) = [cs] := by simp [hblank]
  refine ⟨?_, ?_⟩
  · rw [textLines, pieces_of_no_newline h, hkept]
  · have hpieces : pieces (cs ++ ['\n']) = [cs] ++ [[]] := by
      rw [pieces_append_newline, pieces_of_no_newline h]
      rfl
    rw [textLines, hpieces, List.filter_append, hkept]
    rfl

/-! ## Section 3: JSON texts are lines -/

theorem isNewline_of_isJsonSpace {c : Char} (h : isJsonSpace c = false) : isNewline c = false := by
  simp only [isJsonSpace, Bool.or_eq_false_iff] at h
  simp [isNewline, h.1.2, h.2]

section Write

variable {esc : Char → List Char}

theorem write_no_newline (hesc : ∀ c, ∀ d ∈ esc c, isNewline d = false) (j : Json) :
    ∀ c ∈ write esc j, isNewline c = false := by
  have hstr : ∀ s, ∀ c ∈ writeStr esc s, isNewline c = false := by
    intro s c hc
    simp only [writeStr, List.cons_append, List.mem_cons, List.mem_append, List.mem_flatMap,
      List.not_mem_nil, or_false] at hc
    rcases hc with rfl | ⟨d, -, hd⟩ | rfl
    · rfl
    · exact hesc d c hd
    · rfl
  have hword : ∀ i : Json, i.isWord = true → ∀ c ∈ dump i, isNewline c = false := by
    intro i hi c hc
    have htoken := dump_token_chars hi c hc
    simp only [isTokenChar, Bool.and_eq_true, Bool.not_eq_true'] at htoken
    exact isNewline_of_isJsonSpace htoken.2
  induction j using Json.induct with
  | null => exact hword .null rfl
  | bool b => exact hword (.bool b) rfl
  | int n => exact hword (.int n) rfl
  | float x => exact hword (.float x) rfl
  | str s => exact hstr s
  | arr xs ih =>
    have hitems : ∀ first, ∀ c ∈ writeItems esc first xs, isNewline c = false := by
      induction xs with
      | nil =>
        intro first c hc
        rw [List.mem_singleton.mp hc]
        rfl
      | cons x xs ihxs =>
        intro first c hc
        have hcomma : ∀ d ∈ (if first then [] else [',']), isNewline d = false := by
          cases first
          · exact List.forall_mem_singleton.mpr rfl
          · exact fun d hd => by cases hd
        rcases List.mem_append.mp hc with hc | hc
        · exact hcomma c hc
        rcases List.mem_append.mp hc with hc | hc
        · exact ih x List.mem_cons_self c hc
        · exact ihxs (fun y hy => ih y (List.mem_cons_of_mem _ hy)) false c hc
    intro c hc
    rcases List.mem_cons.mp hc with rfl | hc
    · rfl
    · exact hitems true c hc
  | obj kvs ih =>
    have hmembers : ∀ first, ∀ c ∈ writeMembers esc first kvs, isNewline c = false := by
      induction kvs with
      | nil =>
        intro first c hc
        rw [List.mem_singleton.mp hc]
        rfl
      | cons kv kvs ihkvs =>
        obtain ⟨k, v⟩ := kv
        intro first c hc
        have hcomma : ∀ d ∈ (if first then [] else [',']), isNewline d = false := by
          cases first
          · exact List.forall_mem_singleton.mpr rfl
          · exact fun d hd => by cases hd
        rcases List.mem_append.mp hc with hc | hc
        · exact hcomma c hc
        rcases List.mem_append.mp hc with hc | hc
        · exact hstr k c hc
        rcases List.mem_cons.mp hc with rfl | hc
        · rfl
        rcases List.mem_append.mp hc with hc | hc
        · exact ih (k, v) List.mem_cons_self c hc
        · exact ihkvs (fun y hy => ih y (List.mem_cons_of_mem _ hy)) false c hc
    intro c hc
    rcases List.mem_cons.mp hc with rfl | hc
    · rfl
    · exact hmembers true c hc

theorem write_last (esc : Char → List Char) (kvs : Dict) (first : Bool) :
    ∃ cs, writeMembers esc first kvs = cs ++ ['\x7d'] := by
  induction kvs generalizing first with
  | nil => exact ⟨[], rfl⟩
  | cons kv kvs ih =>
    obtain ⟨k, v⟩ := kv
    obtain ⟨cs, hcs⟩ := ih false
    refine ⟨(if first then [] else [',']) ++ (writeStr esc k ++ ':' :: (write esc v ++ cs)), ?_⟩
    rw [writeMembers, hcs]
    simp

end Write

theorem escapeControl_no_newline (c : Char) : ∀ d ∈ escapeControl c, isNewline d = false := by
  have hex : ∀ n, ∀ d ∈ unicodeEscape n, isNewline d = false := by
    intro n d hd
    have hdigits : ∀ e ∈ hexDigitChars, isNewline e = false := List.all_iff_forall_prop.mp (by decide)
    rw [unicodeEscape, hexPadded_four] at hd
    simp only [List.mem_cons, List.not_mem_nil, or_false] at hd
    rcases hd with rfl | rfl | rfl | rfl | rfl | rfl
    · rfl
    · rfl
    all_goals exact hdigits _ (hexDigitChar_mem _)
  have short : ∀ e, isNewline e = false → ∀ d ∈ ['\\', e], isNewline d = false := by
    intro e he d hd
    simp only [List.mem_cons, List.not_mem_nil, or_false] at hd
    rcases hd with rfl | rfl
    · rfl
    · exact he
  unfold escapeControl
  iterate 7
    split
    · exact short _ (by decide)
  split
  · next hn hr _ _ _ _ =>
    refine List.forall_mem_singleton.mpr ?_
    simp [isNewline, hn, hr]
  · exact hex _

end Py
