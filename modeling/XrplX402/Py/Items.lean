import Mathlib.Data.List.Nodup
import Mathlib.Data.List.Perm.Basic

/-! # Dictionaries in the order of insertion

    A dictionary is the list of its entries, with distinct keys. An assignment
    to a key that is there keeps its place, any other one goes to the end.

    * `set`, `update`: assignments.
    * `firsts`: the first pair of every key, which is what reading each key of a
      list of pairs by the key collects. -/

namespace Items

variable {κ ν : Type} [DecidableEq κ]

/-! ## Section 1: Assignments -/

/-- `d[key] = value` -/
def set (key : κ) (value : ν) : List (κ × ν) → List (κ × ν)
  | [] => [(key, value)]
  | (k, v) :: d => if k = key then (k, value) :: d else (k, v) :: set key value d

/-- `d.update(pairs)` -/
def update (d pairs : List (κ × ν)) : List (κ × ν) :=
  pairs.foldl (fun d kv => set kv.1 kv.2 d) d

section Assignments

variable {d pairs : List (κ × ν)} {key : κ} {value : ν}

@[simp] theorem update_nil : update d [] = d := rfl

theorem update_cons (kv : κ × ν) : update d (kv :: pairs) = update (set kv.1 kv.2 d) pairs := rfl

theorem set_of_notMem (h : key ∉ d.map Prod.fst) : set key value d = d ++ [(key, value)] := by
  induction d with
  | nil => rfl
  | cons kv d ih =>
    obtain ⟨k, v⟩ := kv
    rw [List.map_cons, List.mem_cons, not_or] at h
    rw [set, if_neg (Ne.symm h.1), ih h.2]
    rfl

/-- An assignment of the value that the key has. -/
theorem set_of_mem (hd : (d.map Prod.fst).Nodup) (h : (key, value) ∈ d) : set key value d = d := by
  induction d with
  | nil => cases h
  | cons kv d ih =>
    obtain ⟨k, v⟩ := kv
    rw [List.map_cons, List.nodup_cons] at hd
    rw [set]
    by_cases hk : k = key
    · subst hk
      rw [if_pos rfl]
      rcases List.mem_cons.mp h with heq | hmem
      · rw [heq]
      · exact absurd (List.mem_map_of_mem hmem) hd.1
    · rw [if_neg hk]
      rcases List.mem_cons.mp h with heq | hmem
      · exact absurd (congrArg Prod.fst heq).symm hk
      · rw [ih hd.2 hmem]

theorem keys_set : (set key value d).map Prod.fst =
    if key ∈ d.map Prod.fst then d.map Prod.fst else d.map Prod.fst ++ [key] := by
  induction d with
  | nil => rfl
  | cons kv d ih =>
    obtain ⟨k, v⟩ := kv
    rw [set]
    by_cases hk : k = key
    · subst hk
      simp
    · rw [if_neg hk, List.map_cons, ih]
      by_cases hmem : key ∈ d.map Prod.fst
      · simp [hmem]
      · simp [hmem, Ne.symm hk]

theorem nodup_set (h : (d.map Prod.fst).Nodup) : ((set key value d).map Prod.fst).Nodup := by
  rw [keys_set]
  by_cases hmem : key ∈ d.map Prod.fst
  · rw [if_pos hmem]
    exact h
  · rw [if_neg hmem, List.nodup_append]
    refine ⟨h, List.nodup_singleton _, ?_⟩
    intro k hk k' hk' heq
    rw [List.mem_singleton] at hk'
    exact hmem (hk' ▸ heq ▸ hk)

theorem mem_keys_update {k : κ} (h : k ∈ (update d pairs).map Prod.fst) :
    k ∈ d.map Prod.fst ∨ k ∈ pairs.map Prod.fst := by
  induction pairs generalizing d with
  | nil => exact .inl h
  | cons kv pairs ih =>
    rcases ih h with hset | hrest
    · rw [keys_set] at hset
      by_cases hmem : kv.1 ∈ d.map Prod.fst
      · rw [if_pos hmem] at hset
        exact .inl hset
      · rw [if_neg hmem, List.mem_append, List.mem_singleton] at hset
        rcases hset with hold | rfl
        · exact .inl hold
        · exact .inr (by simp)
    · exact .inr (List.mem_cons_of_mem _ hrest)

/-- New keys go to the end. -/
theorem update_of_disjoint (hpairs : (pairs.map Prod.fst).Nodup)
    (h : ∀ k ∈ pairs.map Prod.fst, k ∉ d.map Prod.fst) : update d pairs = d ++ pairs := by
  induction pairs generalizing d with
  | nil => rw [update_nil, List.append_nil]
  | cons kv pairs ih =>
    rw [List.map_cons, List.nodup_cons] at hpairs
    have hnew : kv.1 ∉ d.map Prod.fst := h kv.1 (by simp)
    rw [update_cons, set_of_notMem hnew, ih hpairs.2, List.append_assoc]
    · rfl
    · intro k hk hmem
      rw [List.map_append, List.mem_append] at hmem
      rcases hmem with hold | hlast
      · exact h k (by simp [List.mem_map.mp hk]) hold
      · obtain rfl : k = kv.1 := by simpa using hlast
        exact hpairs.1 hk

theorem update_nil_of_nodup (hpairs : (pairs.map Prod.fst).Nodup) : update [] pairs = pairs :=
  update_of_disjoint hpairs fun _ _ => List.not_mem_nil

end Assignments

/-! ## Section 2: The first pair of every key -/

def firsts : List (κ × ν) → List (κ × ν)
  | [] => []
  | (k, v) :: pairs => (k, v) :: (firsts pairs).filter fun kv => kv.1 ≠ k

section Firsts

variable {d pairs : List (κ × ν)} {key : κ} {value : ν}

theorem mem_keys_firsts : key ∈ (firsts pairs).map Prod.fst ↔ key ∈ pairs.map Prod.fst := by
  induction pairs with
  | nil => rfl
  | cons kv pairs ih =>
    obtain ⟨k, v⟩ := kv
    rw [firsts, List.map_cons, List.map_cons, List.mem_cons, List.mem_cons, ← ih]
    by_cases hk : key = k
    · simp [hk]
    · simp [hk]

theorem firsts_nodup (pairs : List (κ × ν)) : ((firsts pairs).map Prod.fst).Nodup := by
  induction pairs with
  | nil => exact List.nodup_nil
  | cons kv pairs ih =>
    obtain ⟨k, v⟩ := kv
    rw [firsts, List.map_cons, List.nodup_cons]
    refine ⟨?_, ih.sublist (List.filter_sublist.map Prod.fst)⟩
    intro hmem
    obtain ⟨kv, hkv, hk⟩ := List.mem_map.mp hmem
    exact absurd hk (by simpa using (List.mem_filter.mp hkv).2)

theorem firsts_of_nodup (h : (pairs.map Prod.fst).Nodup) : firsts pairs = pairs := by
  induction pairs with
  | nil => rfl
  | cons kv pairs ih =>
    obtain ⟨k, v⟩ := kv
    rw [List.map_cons, List.nodup_cons] at h
    rw [firsts, ih h.2, List.filter_eq_self.mpr]
    intro kv hkv
    have hkey : kv.1 ∈ pairs.map Prod.fst := List.mem_map_of_mem hkv
    have hne : kv.1 ≠ k := by
      intro heq
      rw [heq] at hkey
      exact h.1 hkey
    simpa using hne

theorem firsts_eq_self_iff : firsts pairs = pairs ↔ (pairs.map Prod.fst).Nodup := by
  constructor
  · intro h
    rw [← h]
    exact firsts_nodup pairs
  · exact firsts_of_nodup

theorem firsts_filter (p : κ → Bool) :
    firsts (pairs.filter fun kv => p kv.1) = (firsts pairs).filter fun kv => p kv.1 := by
  induction pairs with
  | nil => rfl
  | cons kv pairs ih =>
    obtain ⟨k, v⟩ := kv
    rw [firsts, List.filter_cons, List.filter_cons]
    by_cases hk : p k = true
    · rw [if_pos hk, if_pos hk, firsts, ih, List.filter_filter, List.filter_filter]
      congr 2
      funext kv
      exact Bool.and_comm _ _
    · rw [if_neg hk, if_neg hk, ih, List.filter_filter]
      apply List.filter_congr
      intro kv _
      by_cases heq : kv.1 = k
      · simp [heq, hk]
      · simp [heq]

theorem lookup_cons_ne {k : κ} {v : ν} (h : key ≠ k) :
    ((k, v) :: pairs).lookup key = pairs.lookup key := by
  rw [List.lookup_cons, beq_false_of_ne h]

/-- A key that a filter lets through reads the same. -/
theorem lookup_filter {p : κ → Bool} (h : p key = true) :
    (pairs.filter fun kv => p kv.1).lookup key = pairs.lookup key := by
  induction pairs with
  | nil => rfl
  | cons kv pairs ih =>
    obtain ⟨k, v⟩ := kv
    rw [List.filter_cons]
    by_cases hk : p k = true
    · rw [if_pos hk, List.lookup_cons, List.lookup_cons, ih]
    · have hne : key ≠ k := by
        rintro rfl
        exact hk h
      rw [if_neg hk, ih, lookup_cons_ne hne]

theorem lookup_firsts : (firsts pairs).lookup key = pairs.lookup key := by
  induction pairs with
  | nil => rfl
  | cons kv pairs ih =>
    obtain ⟨k, v⟩ := kv
    rw [firsts]
    by_cases hk : key = k
    · subst hk
      rw [List.lookup_cons_self, List.lookup_cons_self]
    · rw [lookup_cons_ne hk, lookup_cons_ne hk, ← ih]
      exact lookup_filter (p := fun k' => k' ≠ k) (by simpa using hk)

theorem lookup_of_mem (h : (pairs.map Prod.fst).Nodup) (hmem : (key, value) ∈ pairs) :
    pairs.lookup key = some value := by
  induction pairs with
  | nil => cases hmem
  | cons kv pairs ih =>
    obtain ⟨k, v⟩ := kv
    rw [List.map_cons, List.nodup_cons] at h
    rcases List.mem_cons.mp hmem with heq | hmem
    · rw [← heq, List.lookup_cons_self]
    · have hkey : key ∈ pairs.map Prod.fst := List.mem_map_of_mem hmem
      have hne : key ≠ k := by
        rintro rfl
        exact h.1 hkey
      rw [lookup_cons_ne hne, ih h.2 hmem]

/-- A pair that is collected has the value that its key reads. -/
theorem lookup_of_mem_firsts (h : (key, value) ∈ firsts pairs) : pairs.lookup key = some value := by
  rw [← lookup_firsts]
  exact lookup_of_mem (firsts_nodup pairs) h

theorem firsts_map (f : κ → ν) : firsts (pairs.map fun kv => (kv.1, f kv.1)) =
    (firsts pairs).map fun kv => (kv.1, f kv.1) := by
  induction pairs with
  | nil => rfl
  | cons kv pairs ih =>
    obtain ⟨k, v⟩ := kv
    rw [List.map_cons, firsts, ih, firsts, List.map_cons, List.filter_map]
    rfl

/-- Assigning to every key what it reads collects the first pairs. -/
theorem update_firsts (hd : (d.map Prod.fst).Nodup) {f : κ → ν}
    (hread : ∀ kv ∈ d, kv.2 = f kv.1) (hpairs : ∀ kv ∈ pairs, kv.2 = f kv.1) :
    update d pairs = d ++ (firsts pairs).filter fun kv => kv.1 ∉ d.map Prod.fst := by
  induction pairs generalizing d with
  | nil => simp [firsts]
  | cons kv pairs ih =>
    obtain ⟨k, v⟩ := kv
    have hv : v = f k := hpairs (k, v) List.mem_cons_self
    have hrest : ∀ kv ∈ pairs, kv.2 = f kv.1 := fun kv hkv => hpairs kv (List.mem_cons_of_mem _ hkv)
    rw [update_cons, firsts, List.filter_cons]
    by_cases hk : k ∈ d.map Prod.fst
    · -- the key has its value already
      obtain ⟨kv, hkv, rfl⟩ := List.mem_map.mp hk
      have hmem : (kv.1, v) ∈ d := by
        rw [hv, ← hread kv hkv]
        exact hkv
      rw [set_of_mem hd hmem, ih hd hread hrest, if_neg (by simpa using hk), List.filter_filter]
      congr 1
      apply List.filter_congr
      intro kv' _
      by_cases heq : kv'.1 = kv.1
      · rw [heq]
        simp [hk]
      · simp [heq]
    · have hnodup : ((d ++ [(k, v)]).map Prod.fst).Nodup := by
        have hset : set k v d = d ++ [(k, v)] := set_of_notMem hk
        rw [← hset]
        exact nodup_set hd
      have hread' : ∀ kv ∈ d ++ [(k, v)], kv.2 = f kv.1 := by
        intro kv hkv
        rcases List.mem_append.mp hkv with hold | hlast
        · exact hread kv hold
        · rw [List.mem_singleton.mp hlast]
          exact hv
      rw [set_of_notMem hk, ih hnodup hread' hrest, if_pos (by simpa using hk), List.filter_filter,
        List.append_assoc]
      congr 1
      show (k, v) :: _ = _
      congr 1
      apply List.filter_congr
      intro kv _
      by_cases heq : kv.1 = k
      · simp [heq]
      · simp [heq]

end Firsts

end Items
