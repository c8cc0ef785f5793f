import Mathlib.Data.List.Sort
import Mathlib.Data.String.Basic
import XrplX402.Py.Parse

/-! # Texts with sorted keys

    `json.dumps(..., sort_keys=True)` sorts the entries of every dictionary by
    insertion. Reading the text gives the value with its keys in that order. -/

namespace Py

namespace Json

/-- Entries are compared by their keys. -/
def keyLe (a b : String × Json) : Prop := a.1 ≤ b.1

instance : DecidableRel keyLe := fun a b => inferInstanceAs (Decidable (a.1 ≤ b.1))

instance : Std.Total keyLe := ⟨fun a b => le_total a.1 b.1⟩

instance : IsTrans (String × Json) keyLe := ⟨fun _ _ _ hab hbc => le_trans hab hbc⟩

theorem insertKV_eq (k : String) (v : Json) (d : Dict) :
    insertKV k v d = d.orderedInsert keyLe (k, v) := by
  induction d with
  | nil => rfl
  | cons kv d ih =>
    obtain ⟨l, w⟩ := kv
    rw [insertKV, List.orderedInsert_cons, ih]
    by_cases hlt : l < k
    · have hnot : ¬ keyLe (k, v) (l, w) := not_le.mpr hlt
      rw [if_pos hlt, if_neg hnot]
    · have hle : keyLe (k, v) (l, w) := not_lt.mp hlt
      rw [if_neg hlt, if_pos hle]

/-- The entries of `d`, each with sorted keys inside. -/
def sortedEntries (d : Dict) : Dict := d.map fun kv => (kv.1, kv.2.sortKeys)

theorem sortObj_eq (d : Dict) : sortObj d = (sortedEntries d).insertionSort keyLe := by
  induction d with
  | nil => rfl
  | cons kv d ih =>
    obtain ⟨k, v⟩ := kv
    rw [sortObj, insertKV_eq, ih]
    rfl

theorem sortObj_perm (d : Dict) : (sortObj d).Perm (sortedEntries d) := by
  rw [sortObj_eq]
  exact List.perm_insertionSort keyLe _

theorem keys_sortedEntries (d : Dict) : (sortedEntries d).map Prod.fst = d.map Prod.fst := by
  rw [sortedEntries, List.map_map]
  rfl

theorem sortObj_nodup {d : Dict} (h : (d.map Prod.fst).Nodup) :
    ((sortObj d).map Prod.fst).Nodup := by
  apply ((sortObj_perm d).map Prod.fst).nodup_iff.mpr
  rw [keys_sortedEntries]
  exact h

/-- The keys of a dictionary increase after sorting. -/
theorem sortObj_increasing {d : Dict} (h : (d.map Prod.fst).Nodup) :
    ((sortObj d).map Prod.fst).Pairwise (· < ·) := by
  have hle : ((sortObj d).map Prod.fst).Pairwise (· ≤ ·) := by
    rw [sortObj_eq, List.pairwise_map]
    exact List.pairwise_insertionSort keyLe _
  apply (hle.and (sortObj_nodup h)).imp
  rintro a b ⟨hab, hne⟩
  exact lt_of_le_of_ne hab hne

theorem proper_sortKeys (j : Json) (h : j.proper = true) : j.sortKeys.proper = true := by
  induction j using Json.induct with
  | null => rfl
  | bool b => rfl
  | int n => rfl
  | float x => exact h
  | str s => rfl
  | arr xs ih =>
    have hitems := proper_arr.mp h
    have hsort : ∀ ys : List Json, sortArr ys = ys.map sortKeys := by
      intro ys
      induction ys with
      | nil => rfl
      | cons y ys ihys => rw [sortArr, ihys, List.map_cons]
    rw [sortKeys, hsort]
    apply proper_arr.mpr
    intro y hy
    obtain ⟨x, hx, rfl⟩ := List.mem_map.mp hy
    exact ih x hx (hitems x hx)
  | obj kvs ih =>
    obtain ⟨hkeys, hmembers⟩ := proper_obj.mp h
    rw [sortKeys]
    apply proper_obj.mpr
    refine ⟨sortObj_nodup hkeys, ?_⟩
    intro kv hkv
    obtain ⟨kv', hkv', rfl⟩ := List.mem_map.mp ((sortObj_perm kvs).mem_iff.mp hkv)
    exact ih kv' hkv' (hmembers kv' hkv')

end Json

/-- What was written with sorted keys is read back in that order. -/
theorem loads_dumps {j : Json} (h : j.proper = true) : loads (dumps j) = some j.sortKeys := by
  unfold loads dumps
  rw [String.toList_ofList, ← write_escapeChar]
  exact parse_write readsBack_escapeChar (Json.proper_sortKeys j h)

end Py
