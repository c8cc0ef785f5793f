import Mathlib.Algebra.Order.Floor.Div
import XrplX402.Core.WireAssets
import XrplX402.Facilitator.Catalog
import XrplX402.Py.Integers

/-! # Searching page by page

    A client that follows the cursors of `/discovery/search` gets every matching
    entry of a catalogue that does not change, once and in order.

    * **Listing alone**: what a listing returns and leaves in a given state.
    * **Cursors**: a cursor is read back as the offset it was made from.
    * **Following**: the responses up to the first one without a cursor. -/

namespace XrplX402.Facilitator

open Py Interaction

variable (env : CatalogEnv)

/-! ## Section 1: A listing on its own -/

namespace CatalogState

/-- The items of the keys that have an entry. -/
def itemsOf (s : CatalogState) (keys : List String) : List Dict :=
  keys.filterMap fun key => (s.entries key).map CatalogEntry.item

/-- The items that a listing selects, in the order of their keys. -/
def matching (s : CatalogState) (filters : BazaarCatalog.Filters) : List Dict :=
  (s.itemsOf s.index).filter (BazaarCatalog.selects env filters)

/-- The keys without an entry are removed. -/
def swept (s : CatalogState) : CatalogState :=
  { s with index := s.index.filter fun key => (s.entries key).isSome }

theorem matching_swept (s : CatalogState) (filters : BazaarCatalog.Filters) :
    s.swept.matching env filters = s.matching env filters := by
  have hitems : s.swept.itemsOf s.swept.index = s.itemsOf s.index := by
    unfold itemsOf swept
    dsimp only
    induction s.index with
    | nil => rfl
    | cons key keys ih =>
      cases hentry : s.entries key with
      | none => simp [hentry, ih]
      | some entry => simp [hentry, ih]
  rw [matching, hitems, matching]

end CatalogState

namespace BazaarCatalog

variable {s : CatalogState} {filters : Filters} {limit offset : Nat}

theorem readEntries_runOn (keys : List String) (items : List Dict) (stale : List String) :
    (readEntries env filters keys items stale).runOn (CatalogState.perform env.isoformat) s =
      (some (.ok (items ++ (s.itemsOf keys).filter (selects env filters),
        stale ++ keys.filter fun key => (s.entries key).isNone)), s) := by
  induction keys generalizing items stale with
  | nil => simp [readEntries, CatalogState.itemsOf]
  | cons key keys ih =>
    rw [readEntries, Prog.runOn_call]
    cases hentry : s.entries key with
    | none =>
      simp only [CatalogState.perform, hentry, Option.map_none]
      rw [ih]
      simp [CatalogState.itemsOf, hentry]
    | some entry =>
      simp only [CatalogState.perform, hentry, Option.map_some]
      rw [ih]
      by_cases hselected : selects env filters entry.item = true
      · simp [CatalogState.itemsOf, hentry, hselected]
      · simp [CatalogState.itemsOf, hentry, hselected]

theorem finishList_runOn (items : List Dict) :
    (finishList env limit offset items (s.index.filter fun key => (s.entries key).isNone)).runOn
        (CatalogState.perform env.isoformat) s =
      (some (.ok (page limit offset (sortItems env items))), s.swept) := by
  by_cases hstale : (s.index.filter fun key => (s.entries key).isNone) = []
  · have hpresent : s.index.filter (fun key => (s.entries key).isSome) = s.index := by
      apply List.filter_eq_self.mpr
      intro key hkey
      have hnone := List.filter_eq_nil_iff.mp hstale key hkey
      simpa [Option.isSome_iff_ne_none] using hnone
    rw [finishList, if_pos hstale, CatalogState.swept, hpresent]
    rfl
  · have hremoved : (s.index.filter fun key =>
        decide (key ∉ s.index.filter fun key => (s.entries key).isNone)) =
        s.index.filter fun key => (s.entries key).isSome := by
      apply List.filter_congr
      intro key hkey
      cases hentry : s.entries key <;> simp [hkey, hentry]
    rw [finishList, if_neg hstale, Prog.runOn_call]
    simp only [CatalogState.perform, Prog.runOn_ret, CatalogState.swept]
    rw [hremoved]

theorem list_runOn :
    (list env filters limit offset).runOn (CatalogState.perform env.isoformat) s =
      (some (.ok (page limit offset (sortItems env (s.matching env filters)))), s.swept) := by
  rw [list, Prog.runOn_call]
  simp only [CatalogState.perform]
  rw [Prog.runOn_bind (readEntries_runOn env s.index [] [])]
  exact finishList_runOn env (s.matching env filters)

theorem sortItems_perm (items : List Dict) : (sortItems env items).Perm items :=
  List.mergeSort_perm items _

theorem sortItems_sorted (items : List Dict) :
    (sortItems env items).Pairwise fun a b => sortKey env a ≤ sortKey env b := by
  have hpairs := @List.pairwise_mergeSort _ (fun a b => decide (sortKey env a ≤ sortKey env b))
    ?_ ?_ items
  · exact hpairs.imp fun h => of_decide_eq_true h
  · intro a b c hab hbc
    exact decide_eq_true (le_trans (of_decide_eq_true hab) (of_decide_eq_true hbc))
  · intro a b
    rcases le_total (sortKey env a) (sortKey env b) with h | h
    · rw [decide_eq_true h, Bool.true_or]
    · rw [decide_eq_true h, Bool.or_true]

end BazaarCatalog

/-! ## Section 2: Cursors -/

theorem decodeCursor_encodeCursor (u : UnicodeData) {n : Nat} (h : n < 10 ^ intMaxStrDigits) :
    decodeCursor u (some (encodeCursor n)) = .ok n := by
  have hread : cursorInt? u (encodeCursor n) = some (n : Int) := by
    rw [cursorInt?, encodeCursor, String.toList_ofList, urlsafeB64decode_urlsafeB64encode]
    dsimp only [Option.bind_some]
    rw [decodeUtf8_encodeUtf8]
    dsimp only [Option.bind_some]
    rw [intOfStr_toString u h]
    rfl
  have hne : encodeCursor n ≠ "" := by
    intro hempty
    rw [hempty] at hread
    cases hread
  rw [decodeCursor, Option.getD_some, if_neg hne, hread]
  rfl

/-! ## Section 3: Following the cursors -/

/-- The responses that a client gets when it starts with `cursor` and goes on
    until a response has none. -/
inductive Follows (filters : BazaarCatalog.Filters) (limit : Nat) :
    CatalogState → Option String → List SearchResponse → Prop
  | last {s s' : CatalogState} {cursor : Option String} {r : SearchResponse}
      (answered : (discoverySearch env true filters limit cursor).runOn
        (CatalogState.perform env.isoformat) s = (some (.ok r), s'))
      (ended : r.cursor = none) : Follows filters limit s cursor [r]
  | next {s s' : CatalogState} {cursor : Option String} {r : SearchResponse} {next : String}
      {rs : List SearchResponse}
      (answered : (discoverySearch env true filters limit cursor).runOn
        (CatalogState.perform env.isoformat) s = (some (.ok r), s'))
      (goesOn : r.cursor = some next) (rest : Follows filters limit s' (some next) rs) :
      Follows filters limit s cursor (r :: rs)

section Follow

variable {s : CatalogState} {filters : BazaarCatalog.Filters} {items : List Dict} {limit : Nat}

/-- The response at an offset when `items` are the selected ones. -/
def responseAt (items : List Dict) (limit offset : Nat) : SearchResponse :=
  searchResponse offset (BazaarCatalog.page limit offset (BazaarCatalog.sortItems env items))

theorem discoverySearch_runOn {cursor : Option String} {offset : Nat}
    (h : decodeCursor env.unicode cursor = .ok offset) :
    (discoverySearch env true filters limit cursor).runOn (CatalogState.perform env.isoformat) s =
      (some (.ok (responseAt env (s.matching env filters) limit offset)), s.swept) := by
  rw [discoverySearch, if_neg (by decide), h, Prog.ofExcept_ok, Prog.ret_bind,
    Prog.runOn_bind (BazaarCatalog.list_runOn env)]
  rfl

theorem length_responseAt (offset : Nat) :
    (responseAt env items limit offset).resources.length = min limit (items.length - offset) := by
  show (((BazaarCatalog.sortItems env items).drop offset).take limit).length = _
  rw [List.length_take, List.length_drop, (BazaarCatalog.sortItems_perm env items).length_eq]

/-- Items are left behind a page exactly if it is full and does not reach the end. -/
theorem behind_page {offset : Nat} (hoffset : offset ≤ items.length) :
    offset + (responseAt env items limit offset).resources.length < items.length ↔
      offset + limit < items.length := by
  rw [length_responseAt]
  omega

theorem partialResults_responseAt {offset : Nat} (hoffset : offset ≤ items.length) :
    (responseAt env items limit offset).partialResults = decide (offset + limit < items.length) := by
  rw [← decide_eq_decide.mpr (behind_page env hoffset)]
  show decide (_ < (BazaarCatalog.sortItems env items).length) = _
  rw [(BazaarCatalog.sortItems_perm env items).length_eq]
  rfl

theorem cursor_responseAt {offset : Nat} (hoffset : offset ≤ items.length) :
    (responseAt env items limit offset).cursor =
      if offset + limit < items.length then some (encodeCursor (offset + limit)) else none := by
  have hbehind : offset + (responseAt env items limit offset).resources.length < items.length ↔
      offset + limit < items.length := behind_page env hoffset
  show (if offset + (responseAt env items limit offset).resources.length <
    (BazaarCatalog.sortItems env items).length then _ else _) = _
  rw [(BazaarCatalog.sortItems_perm env items).length_eq]
  by_cases hmore : offset + limit < items.length
  · have hfull : (responseAt env items limit offset).resources.length = limit := by
      rw [length_responseAt]
      omega
    rw [if_pos (hbehind.mpr hmore), if_pos hmore]
    exact congrArg (fun n => some (encodeCursor (offset + n))) hfull
  · rw [if_neg fun h => hmore (hbehind.mp h), if_neg hmore]

/-- The number of pages. -/
def pageCount (total limit : Nat) : Nat := max 1 (total ⌈/⌉ limit)

theorem succ_lt_pageCount (hlimit : 1 ≤ limit) {total i : Nat} :
    i + 1 < pageCount total limit ↔ (i + 1) * limit < total := by
  rw [pageCount, lt_max_iff, ← not_le (a := total ⌈/⌉ limit), ceilDiv_le_iff_le_mul hlimit, not_le,
    Nat.mul_comm]
  constructor
  · rintro (h | h)
    · omega
    · exact h
  · exact .inr

/-- The step of a client at the page `i`. -/
theorem follows_step (hlimit : 1 ≤ limit) {i : Nat} (hi : i < pageCount items.length limit)
    {cursor : Option String} (hcursor : decodeCursor env.unicode cursor = .ok (i * limit))
    (hitems : s.matching env filters = items) (rs : List SearchResponse) :
    Follows env filters limit s cursor rs ↔
      if (i + 1) * limit < items.length then
        ∃ rest, rs = responseAt env items limit (i * limit) :: rest ∧
          Follows env filters limit s.swept (some (encodeCursor ((i + 1) * limit))) rest
      else rs = [responseAt env items limit (i * limit)] := by
  have hanswer : (discoverySearch env true filters limit cursor).runOn
      (CatalogState.perform env.isoformat) s =
        (some (.ok (responseAt env items limit (i * limit))), s.swept) := by
    rw [discoverySearch_runOn env hcursor, hitems]
  have hsame : ∀ {r s'}, (discoverySearch env true filters limit cursor).runOn
      (CatalogState.perform env.isoformat) s = (some (.ok r), s') →
        r = responseAt env items limit (i * limit) ∧ s' = s.swept := by
    intro r s' h
    obtain ⟨hr, hs'⟩ := Prod.mk.inj (h.symm.trans hanswer)
    exact ⟨Except.ok.inj (Option.some.inj hr), hs'⟩
  have hoffset : i * limit ≤ items.length := by
    cases i with
    | zero => omega
    | succ i => exact le_of_lt ((succ_lt_pageCount hlimit).mp (by omega))
  have hnext : (responseAt env items limit (i * limit)).cursor =
      if (i + 1) * limit < items.length then some (encodeCursor ((i + 1) * limit)) else none := by
    rw [cursor_responseAt env hoffset, ← Nat.succ_mul]
  by_cases hmore : (i + 1) * limit < items.length
  · rw [if_pos hmore] at hnext ⊢
    constructor
    · intro h
      cases h with
      | last answered ended =>
        obtain ⟨rfl, -⟩ := hsame answered
        cases hnext.symm.trans ended
      | next answered goesOn rest =>
        obtain ⟨rfl, rfl⟩ := hsame answered
        obtain rfl := Option.some.inj (hnext.symm.trans goesOn)
        exact ⟨_, rfl, rest⟩
    · rintro ⟨rest, rfl, hrest⟩
      exact .next hanswer hnext hrest
  · rw [if_neg hmore] at hnext ⊢
    constructor
    · intro h
      cases h with
      | last answered ended => rw [(hsame answered).1]
      | next answered goesOn rest =>
        obtain ⟨rfl, -⟩ := hsame answered
        cases hnext.symm.trans goesOn
    · rintro rfl
      exact .last hanswer hnext

/-- From the page `i` on the responses are those of the pages that are left. -/
theorem follows_iff (hlimit : 1 ≤ limit) (hsmall : items.length < 10 ^ intMaxStrDigits) {i j : Nat}
    (hpages : i + (j + 1) = pageCount items.length limit) {cursor : Option String}
    (hcursor : decodeCursor env.unicode cursor = .ok (i * limit))
    (hitems : s.matching env filters = items) (rs : List SearchResponse) :
    Follows env filters limit s cursor rs ↔
      rs = (List.range' i (j + 1)).map fun k => responseAt env items limit (k * limit) := by
  induction j generalizing i s cursor rs with
  | zero =>
    have hend : ¬ (i + 1) * limit < items.length := by
      intro hlt
      have hmore := (succ_lt_pageCount hlimit).mpr hlt
      omega
    rw [follows_step env hlimit (by omega) hcursor hitems, if_neg hend]
    rfl
  | succ j ih =>
    have hmore : i + 1 < pageCount items.length limit := by omega
    have hlt := (succ_lt_pageCount hlimit).mp hmore
    have hrest := fun rest => ih (s := s.swept) (i := i + 1) (by omega)
      (decodeCursor_encodeCursor env.unicode (lt_trans hlt hsmall))
      ((s.matching_swept env filters).trans hitems) rest
    rw [follows_step env hlimit (by omega) hcursor hitems, if_pos hlt]
    constructor
    · rintro ⟨rest, rfl, hfollows⟩
      rw [(hrest rest).mp hfollows]
      rfl
    · intro h
      exact ⟨_, h, (hrest _).mpr rfl⟩

/-- The pages together are the sorted items. -/
theorem flatMap_responseAt (limit n : Nat) :
    ((List.range n).map fun k => responseAt env items limit (k * limit)).flatMap
        SearchResponse.resources =
      (BazaarCatalog.sortItems env items).take (n * limit) := by
  induction n with
  | zero => simp
  | succ n ih =>
    rw [List.range_succ, List.map_append, List.flatMap_append, ih, Nat.succ_mul, List.take_add]
    simp [responseAt, searchResponse, BazaarCatalog.page]

theorem length_le_pageCount (hlimit : 1 ≤ limit) (total : Nat) :
    total ≤ pageCount total limit * limit := by
  have hceil : total ≤ limit * (total ⌈/⌉ limit) := (ceilDiv_le_iff_le_mul hlimit).mp le_rfl
  calc total ≤ limit * (total ⌈/⌉ limit) := hceil
    _ ≤ limit * pageCount total limit := Nat.mul_le_mul_left _ (le_max_right _ _)
    _ = pageCount total limit * limit := Nat.mul_comm _ _

end Follow

/-- For every catalogue that does not change, every choice of filters and query
    and every limit: following the cursors ends after as many pages as the
    matching entries need, and gives these entries sorted, each once. -/
theorem search_enumerates (s : CatalogState) (filters : BazaarCatalog.Filters) (limit : Nat)
    (hlimit : 1 ≤ limit) (hredis : s.index.length < 2 ^ 32) :
    ∃ responses : List SearchResponse,
      (∀ rs, Follows env filters limit s none rs ↔ rs = responses) ∧
      responses.length = max 1 ((s.matching env filters).length ⌈/⌉ limit) ∧
      responses.flatMap SearchResponse.resources =
        BazaarCatalog.sortItems env (s.matching env filters) ∧
      (BazaarCatalog.sortItems env (s.matching env filters)).Perm (s.matching env filters) ∧
      (BazaarCatalog.sortItems env (s.matching env filters)).Pairwise
        (fun a b => BazaarCatalog.sortKey env a ≤ BazaarCatalog.sortKey env b) ∧
      ∀ (k : Nat) (hk : k < responses.length),
        responses[k].partialResults = decide (k + 1 < responses.length) := by
  let count := pageCount (s.matching env filters).length limit
  have hcount : 0 < count := lt_of_lt_of_le Nat.zero_lt_one (le_max_left _ _)
  have hsmall : (s.matching env filters).length < 10 ^ intMaxStrDigits := by
    have hindex : (s.matching env filters).length ≤ s.index.length :=
      (List.length_filter_le _ _).trans (List.length_filterMap_le _ _)
    have hpower : 10 ^ 10 ≤ 10 ^ intMaxStrDigits := Nat.pow_le_pow_right (by decide) (by decide)
    exact lt_of_le_of_lt hindex (lt_of_lt_of_le (hredis.trans (by norm_num)) hpower)
  refine ⟨(List.range count).map fun k => responseAt env (s.matching env filters) limit (k * limit),
    ?_, ?_, ?_, BazaarCatalog.sortItems_perm env _, BazaarCatalog.sortItems_sorted env _, ?_⟩
  · intro rs
    obtain ⟨j, hj⟩ : ∃ j, count = j + 1 := ⟨count - 1, by omega⟩
    have hstart : decodeCursor env.unicode none = .ok (0 * limit) := by
      rw [Nat.zero_mul]
      rfl
    rw [follows_iff env hlimit hsmall (i := 0) (j := j) (by omega) hstart rfl, List.range_eq_range', hj]
  · rw [List.length_map, List.length_range]
    rfl
  · rw [flatMap_responseAt]
    apply List.take_of_length_le
    rw [(BazaarCatalog.sortItems_perm env _).length_eq]
    exact length_le_pageCount hlimit _
  · intro k hk
    rw [List.length_map, List.length_range] at hk ⊢
    have hoffset : k * limit ≤ (s.matching env filters).length := by
      cases k with
      | zero => omega
      | succ k => exact le_of_lt ((succ_lt_pageCount hlimit).mp hk)
    rw [List.getElem_map, List.getElem_range, partialResults_responseAt env hoffset, ← Nat.succ_mul]
    exact decide_eq_decide.mpr (succ_lt_pageCount hlimit).symm

namespace Sample

open XrplX402.Sample

theorem casefold_ascii_toLower (c : Char) (h : c.toNat < 128) :
    [if c.toNat < 128 then c.toLower else c] = [c.toLower] := by rw [if_pos h]

def catalogEnv : CatalogEnv where
  toEnv := shapeEnv
  casefold c := [if c.toNat < 128 then c.toLower else c]
  casefold_ascii := casefold_ascii_toLower
  extractDiscoveryInfo _ _ := .ok none
  toDict d := [("resource", .str d.resourceUrl), ("type", .str d.type)]
  isoformat := toString

/-- Two entries, and a key whose entry has expired. -/
def catalogOfTwo : CatalogState where
  index := ["first", "second", "third"]
  entries key :=
    if key = "first" then some ⟨[("resource", .str "b")], 100⟩
    else if key = "third" then some ⟨[("resource", .str "a")], 100⟩
    else none
  clock := 0

end Sample

theorem search_enumerates_sample : ∃ responses : List SearchResponse,
    Follows Sample.catalogEnv .none 1 Sample.catalogOfTwo none responses ∧ responses.length = 2 := by
  obtain ⟨responses, hfollows, hlength, -⟩ :=
    search_enumerates Sample.catalogEnv Sample.catalogOfTwo .none 1 (by decide) (by decide)
  exact ⟨responses, (hfollows _).mpr rfl, hlength.trans (by decide)⟩

end XrplX402.Facilitator
