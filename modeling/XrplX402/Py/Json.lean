import Mathlib.Data.String.Basic
import XrplX402.Py.Number

/-! # JSON values as the interpreter holds them

    Requirements, payloads and the node's answers are untyped JSON values:
    `None`, booleans, unbounded integers, floats, strings, lists and
    dictionaries with string keys in insertion order.

    * **Dictionaries**: `get?`, `get`, `pop` and `set`.
    * **Sorting**: `sortKeys` orders every dictionary by key, which is all that
      `json.dumps(..., sort_keys=True)` can see of a value.
    * **Equality**: `pyEq` is the interpreter's `==`, for which dictionary
      order does not matter and `1 == 1.0 == True`. -/

namespace Py

/-- Is `cs` the text of a JSON number that is read as a float? -/
def isFloatText (cs : List Char) : Bool :=
  cs.all (fun c => isAsciiDigit c || "+-.eIinfty".toList.contains c) &&
    cs.any (fun c => ".en".toList.contains c)

/-- A float, by the text that `repr` gives for it. -/
structure FloatLit where
  text : String
  isFloat : isFloatText text.toList = true
  deriving DecidableEq

/-- The number a float stands for; `none` for the infinities. -/
def FloatLit.value (x : FloatLit) : Option ℚ :=
  match x.text.toList with
  | '-' :: cs => (parseUnsigned cs).bind fun (c, e) => roundBinary64 (Decimal.ratValue true c e)
  | cs => (parseUnsigned cs).bind fun (c, e) => roundBinary64 (Decimal.ratValue false c e)

inductive Json where
  | null
  | bool (b : Bool)
  | int (n : Int)
  | float (x : FloatLit)
  | str (s : String)
  | arr (xs : List Json)
  | obj (kvs : List (String × Json))

/-- A dictionary with string keys, in insertion order. -/
abbrev Dict := List (String × Json)

namespace Json

instance : Inhabited Json := ⟨null⟩

/-- Structural induction, with the hypothesis for the members of a list or
    dictionary. -/
theorem induct {P : Json → Prop} (null : P null) (bool : ∀ b, P (bool b)) (int : ∀ n, P (int n))
    (float : ∀ x, P (float x)) (str : ∀ s, P (str s))
    (arr : ∀ xs, (∀ x ∈ xs, P x) → P (arr xs))
    (obj : ∀ kvs, (∀ kv ∈ kvs, P kv.2) → P (obj kvs)) (j : Json) : P j := by
  refine Json.rec (motive_1 := P) (motive_2 := fun xs => ∀ x ∈ xs, P x)
    (motive_3 := fun kvs => ∀ kv ∈ kvs, P kv.2) (motive_4 := fun kv => P kv.2)
    null bool int float str arr obj ?_ ?_ ?_ ?_ ?_ j
  · exact fun _ h => by cases h
  · intro x xs hx hxs y hy
    rcases List.mem_cons.mp hy with rfl | hy
    · exact hx
    · exact hxs y hy
  · exact fun _ h => by cases h
  · intro kv kvs hkv hkvs y hy
    rcases List.mem_cons.mp hy with rfl | hy
    · exact hkv
    · exact hkvs y hy
  · exact fun _ _ h => h

/-! ## Section 1: Decidable identity -/

mutual

def beq : Json → Json → Bool
  | null, null => true
  | bool a, bool b => a == b
  | int a, int b => a == b
  | float a, float b => decide (a = b)
  | str a, str b => a == b
  | arr a, arr b => beqArr a b
  | obj a, obj b => beqObj a b
  | _, _ => false

def beqArr : List Json → List Json → Bool
  | [], [] => true
  | a :: as, b :: bs => beq a b && beqArr as bs
  | _, _ => false

def beqObj : List (String × Json) → List (String × Json) → Bool
  | [], [] => true
  | (k, a) :: as, (l, b) :: bs => k == l && beq a b && beqObj as bs
  | _, _ => false

end

theorem beqArr_iff {as : List Json} (h : ∀ a ∈ as, ∀ b, beq a b = true ↔ a = b) :
    ∀ bs, beqArr as bs = true ↔ as = bs := by
  induction as with
  | nil => intro bs; cases bs <;> simp [beqArr]
  | cons a as ih =>
    intro bs
    cases bs with
    | nil => simp [beqArr]
    | cons b bs =>
      have ha := h a (by simp) b
      have has := ih (fun x hx => h x (by simp [hx])) bs
      simp [beqArr, ha, has]

theorem beqObj_iff {as : List (String × Json)} (h : ∀ a ∈ as, ∀ b, beq a.2 b = true ↔ a.2 = b) :
    ∀ bs, beqObj as bs = true ↔ as = bs := by
  induction as with
  | nil => intro bs; cases bs <;> simp [beqObj]
  | cons a as ih =>
    intro bs
    obtain ⟨k, a⟩ := a
    cases bs with
    | nil => simp [beqObj]
    | cons b bs =>
      obtain ⟨l, b⟩ := b
      have ha := h (k, a) (by simp) b
      have has := ih (fun x hx => h x (by simp [hx])) bs
      simp [beqObj, ha, has]

theorem beq_iff (a b : Json) : beq a b = true ↔ a = b := by
  induction a using induct generalizing b with
  | null => cases b <;> simp [beq]
  | bool x => cases b <;> simp [beq]
  | int n => cases b <;> simp [beq]
  | float x => cases b <;> simp [beq]
  | str s => cases b <;> simp [beq]
  | arr xs ih => cases b <;> simp [beq, beqArr_iff ih]
  | obj kvs ih => cases b <;> simp [beq, beqObj_iff ih]

instance : DecidableEq Json := fun a b => decidable_of_iff (beq a b = true) (beq_iff a b)

/-! ## Section 2: Dictionaries -/

end Json

namespace Dict

/-- `d[k]`, `none` when the key is missing. -/
def get? (d : Dict) (k : String) : Option Json := d.lookup k

/-- `d.get(k)`: a missing key reads like `None`. -/
def get (d : Dict) (k : String) : Json := (d.get? k).getD .null

/-- `k in d`. -/
def has (d : Dict) (k : String) : Bool := (d.get? k).isSome

/-- What is left of `d` after `d.pop(k, None)`. -/
def pop (d : Dict) (k : String) : Dict := d.filter fun kv => kv.1 ≠ k

def keys (d : Dict) : List String := d.map Prod.fst

@[simp] theorem get?_nil (k : String) : get? [] k = none := rfl

theorem get?_cons (k l : String) (v : Json) (d : Dict) :
    get? ((k, v) :: d) l = if l = k then some v else get? d l := by
  simp only [get?, List.lookup_cons]
  split <;> simp_all

theorem get?_pop {k l : String} (h : l ≠ k) (d : Dict) : get? (pop d k) l = get? d l := by
  induction d with
  | nil => rfl
  | cons kv d ih =>
    obtain ⟨m, v⟩ := kv
    unfold pop at ih ⊢
    rw [get?_cons, List.filter_cons]
    by_cases hm : m = k
    · rw [if_neg (by simpa using hm), ih, if_neg fun heq => h (heq.trans hm)]
    · rw [if_pos (by simpa using hm), get?_cons, ih]

end Dict

namespace Json

/-! ## Section 3: Sorting by key -/

/-- Put an entry before the first entry whose key is not smaller. -/
def insertKV (k : String) (v : Json) : Dict → Dict
  | [] => [(k, v)]
  | (l, w) :: d => if l < k then (l, w) :: insertKV k v d else (k, v) :: (l, w) :: d

mutual

def sortKeys : Json → Json
  | arr xs => arr (sortArr xs)
  | obj kvs => obj (sortObj kvs)
  | null => null
  | bool b => bool b
  | int n => int n
  | float x => float x
  | str s => str s

def sortArr : List Json → List Json
  | [] => []
  | x :: xs => sortKeys x :: sortArr xs

def sortObj : List (String × Json) → List (String × Json)
  | [] => []
  | (k, v) :: d => insertKV k (sortKeys v) (sortObj d)

end

theorem get?_insertKV (k l : String) (v : Json) (d : Dict) :
    Dict.get? (insertKV k v d) l = if l = k then some v else d.get? l := by
  induction d with
  | nil => simp [insertKV, Dict.get?_cons]
  | cons kv d ih =>
    obtain ⟨m, w⟩ := kv
    simp only [insertKV]
    split
    · next hlt =>
      rw [Dict.get?_cons, ih, Dict.get?_cons]
      by_cases hl : l = m
      · subst hl
        have hne : ¬ l = k := fun h => absurd hlt (by rw [h]; exact lt_irrefl k)
        simp [hne]
      · simp [hl]
    · rw [Dict.get?_cons]

/-- Sorting changes where an entry stands, not what it is. -/
theorem get?_sortObj (d : Dict) (k : String) :
    Dict.get? (sortObj d) k = (d.get? k).map sortKeys := by
  induction d with
  | nil => rfl
  | cons kv d ih =>
    obtain ⟨l, v⟩ := kv
    rw [sortObj, get?_insertKV, ih, Dict.get?_cons]
    split <;> rfl

/-- Dictionaries that are equal up to the order of their keys have the same keys. -/
theorem sortKeys_get? {d e : Dict} (h : (obj d).sortKeys = (obj e).sortKeys) (k : String) :
    (d.get? k).map sortKeys = (e.get? k).map sortKeys := by
  have hde : sortObj d = sortObj e := by simpa [sortKeys] using h
  rw [← get?_sortObj, ← get?_sortObj, hde]

/-- Dictionaries that are equal up to the order of their keys read alike. -/
theorem sortKeys_get {d e : Dict} (h : (obj d).sortKeys = (obj e).sortKeys) (k : String) :
    (d.get k).sortKeys = (e.get k).sortKeys := by
  have hk := sortKeys_get? h k
  have hget : ∀ x : Dict, (x.get k).sortKeys = ((x.get? k).map sortKeys).getD null := by
    intro x
    unfold Dict.get
    cases Dict.get? x k <;> rfl
  rw [hget, hget, hk]

@[simp] theorem sortKeys_str {j : Json} {s : String} : j.sortKeys = str s ↔ j = str s := by
  cases j <;> simp [sortKeys]

@[simp] theorem sortKeys_int {j : Json} {n : Int} : j.sortKeys = int n ↔ j = int n := by
  cases j <;> simp [sortKeys]

@[simp] theorem sortKeys_bool {j : Json} {b : Bool} : j.sortKeys = bool b ↔ j = bool b := by
  cases j <;> simp [sortKeys]

@[simp] theorem sortKeys_null {j : Json} : j.sortKeys = null ↔ j = null := by
  cases j <;> simp [sortKeys]

/-! ## Section 4: The interpreter's equality -/

/-- Numbers that compare equal get one representation. -/
def canonFloat (x : FloatLit) : Json :=
  match x.value with
  | some q => if q.den = 1 then int q.num else float x
  | none => float x

mutual

def canon : Json → Json
  | arr xs => arr (canonArr xs)
  | obj kvs => obj (canonObj kvs)
  | null => null
  | bool b => int (if b then 1 else 0)
  | int n => int n
  | float x => canonFloat x
  | str s => str s

def canonArr : List Json → List Json
  | [] => []
  | x :: xs => canon x :: canonArr xs

def canonObj : List (String × Json) → List (String × Json)
  | [] => []
  | (k, v) :: d => insertKV k (canon v) (canonObj d)

end

/-- `a == b`. -/
def pyEq (a b : Json) : Bool := decide (a.canon = b.canon)

@[simp] theorem pyEq_iff {a b : Json} : pyEq a b = true ↔ a.canon = b.canon := by
  simp [pyEq]

theorem canonFloat_ne_str (x : FloatLit) (s : String) : canonFloat x ≠ str s := by
  unfold canonFloat
  split
  · split <;> simp
  · simp

theorem canonFloat_ne_null (x : FloatLit) : canonFloat x ≠ null := by
  unfold canonFloat
  split
  · split <;> simp
  · simp

@[simp] theorem canon_eq_str {j : Json} {s : String} : j.canon = str s ↔ j = str s := by
  cases j with
  | float x => simp [canon, canonFloat_ne_str]
  | _ => simp [canon]

@[simp] theorem canon_eq_null {j : Json} : j.canon = null ↔ j = null := by
  cases j with
  | float x => simp [canon, canonFloat_ne_null]
  | _ => simp [canon]

@[simp] theorem canon_str (s : String) : (str s).canon = str s := rfl

@[simp] theorem canon_null : null.canon = null := rfl

@[simp] theorem canon_int (n : Int) : (int n).canon = int n := rfl

/-- Equal dictionaries agree on every key. -/
theorem get?_canonObj (d : Dict) (k : String) :
    Dict.get? (canonObj d) k = (d.get? k).map canon := by
  induction d with
  | nil => rfl
  | cons kv d ih =>
    obtain ⟨l, v⟩ := kv
    rw [canonObj, get?_insertKV, ih, Dict.get?_cons]
    split <;> rfl

theorem get?_canon_of_pyEq {d e : Dict} (h : (obj d).pyEq (obj e) = true) (k : String) :
    (d.get? k).map canon = (e.get? k).map canon := by
  have hobj : canonObj d = canonObj e := by simpa [canon] using h
  rw [← get?_canonObj, ← get?_canonObj, hobj]

theorem canonArr_sort {xs : List Json} (h : ∀ x ∈ xs, x.sortKeys.canon = x.canon) :
    canonArr (sortArr xs) = canonArr xs := by
  induction xs with
  | nil => rfl
  | cons x xs ih =>
    rw [sortArr, canonArr, canonArr, h x (by simp), ih fun y hy => h y (by simp [hy])]

theorem insertKV_comm {k l : String} (hkl : k ≠ l) (v w : Json) (d : Dict) :
    insertKV k v (insertKV l w d) = insertKV l w (insertKV k v d) := by
  induction d with
  | nil =>
    rcases lt_or_gt_of_ne hkl with h | h
    · simp only [insertKV, h, not_lt_of_gt h, if_true, if_false]
    · simp only [insertKV, h, not_lt_of_gt h, if_true, if_false]
  | cons kv d ih =>
    obtain ⟨m, u⟩ := kv
    by_cases hm : m < k <;> by_cases hn : m < l
    · simp only [insertKV, hm, hn, if_true, ih]
    · have hlk : l < k := lt_of_le_of_lt (not_lt.mp hn) hm
      simp only [insertKV, hm, hn, hlk, if_true, if_false]
    · have hkl' : k < l := lt_of_le_of_lt (not_lt.mp hm) hn
      simp only [insertKV, hm, hn, hkl', if_true, if_false]
    · rcases lt_or_gt_of_ne hkl with h | h
      · simp only [insertKV, hm, hn, h, not_lt_of_gt h, if_true, if_false]
      · simp only [insertKV, hm, hn, h, not_lt_of_gt h, if_true, if_false]

theorem canonObj_insertKV (k : String) (v : Json) (d : Dict) :
    canonObj (insertKV k v d) = insertKV k v.canon (canonObj d) := by
  induction d with
  | nil => rfl
  | cons kv d ih =>
    obtain ⟨l, w⟩ := kv
    simp only [insertKV]
    split
    · next hlt =>
      have hne : l ≠ k := fun h => absurd hlt (by rw [h]; exact lt_irrefl k)
      rw [canonObj, ih, canonObj, insertKV_comm hne]
    · rw [canonObj]

/-- Two values that serialize alike are equal for the interpreter. -/
theorem canon_sortKeys (j : Json) : j.sortKeys.canon = j.canon := by
  induction j using induct with
  | arr xs ih => rw [sortKeys, canon, canon, canonArr_sort ih]
  | obj kvs ih =>
    rw [sortKeys, canon, canon]
    congr 1
    induction kvs with
    | nil => rfl
    | cons kv d ihd =>
      obtain ⟨k, v⟩ := kv
      rw [sortObj, canonObj_insertKV, canonObj, ih (k, v) (by simp),
        ihd fun y hy => ih y (by simp [hy])]
  | _ => rfl

theorem canon_eq_of_sortKeys_eq {a b : Json} (h : a.sortKeys = b.sortKeys) : a.canon = b.canon := by
  rw [← canon_sortKeys a, ← canon_sortKeys b, h]

/-! ## Section 5: Truth and types -/

/-- `bool(j)`. -/
def truthy : Json → Bool
  | null => false
  | bool b => b
  | int n => n ≠ 0
  | float x => x.value ≠ some 0
  | str s => s ≠ ""
  | arr xs => !xs.isEmpty
  | obj kvs => !kvs.isEmpty

/-- `isinstance(j, int)`, with the integer: booleans are integers. -/
def asInt? : Json → Option Int
  | int n => some n
  | bool b => some (if b then 1 else 0)
  | _ => none

/-- `isinstance(j, str)`, with the string. -/
def asStr? : Json → Option String
  | str s => some s
  | _ => none

/-- `isinstance(j, dict)`, with the dictionary. -/
def asDict? : Json → Option Dict
  | obj d => some d
  | _ => none

/-- `a or b`. -/
def or (a b : Json) : Json := if a.truthy then a else b

end Json

end Py
