import XrplX402.Facilitator.Discovery

/-! # What a search finds

    A query is looked for in a JSON text of the searched fields, not in the
    fields themselves. `json.dumps` rewrites quotation marks, backslashes and all
    characters outside printable ASCII.

    * **Matching**: what a query should find.
    * **Plain stretches**: a match inside characters that are written as they are
      is found.
    * **Rewritten characters**: a query with a character outside printable ASCII
      finds nothing. -/

namespace XrplX402.Facilitator

open Py Interaction

variable (env : CatalogEnv)

namespace BazaarCatalog

/-! ## Section 1: Matching -/

/-- The texts of an item in which a query is to be found. -/
def texts (item : Dict) : List String :=
  (["resource", "description", "mimeType", "serviceName"].filterMap fun field =>
    (Dict.get item field).asStr?) ++
  (match Dict.get item "tags" with
    | .arr tags => tags.filterMap Json.asStr?
    | _ => []) ++
  (Dict.get item "extensions").strings

/-- The folded query occurs in a folded text of the item. -/
def Matches (query : Option String) (item : Dict) : Prop :=
  ∃ text ∈ texts item, (needle env query).toList <:+: (env.casefoldStr text).toList

/-- It occurs in a stretch of a text that `json.dumps` does not rewrite. -/
def MatchesPlainly (query : Option String) (item : Dict) : Prop :=
  ∃ text ∈ texts item, ∃ stretch, stretch <:+: text.toList ∧ (∀ c ∈ stretch, isPlain c = true) ∧
    (needle env query).toList <:+: stretch.flatMap env.casefold

instance (query : Option String) (item : Dict) : Decidable (Matches env query item) :=
  inferInstanceAs (Decidable (∃ text ∈ texts item, _))

/-! ## Section 2: Plain stretches -/

theorem flatMap_stretch {α β : Type} (f : α → List β) {t s : List α} (h : t <:+: s) :
    t.flatMap f <:+: s.flatMap f := by
  obtain ⟨before, behind, rfl⟩ := h
  refine ⟨before.flatMap f, behind.flatMap f, ?_⟩
  rw [List.flatMap_append, List.flatMap_append]

theorem mem_strings_of_field {item : Dict} (field : String) {text : String}
    (hfield : (field, Dict.get item field) ∈
      [("resource", Dict.get item "resource"), ("description", Dict.get item "description"),
        ("mimeType", Dict.get item "mimeType"), ("serviceName", Dict.get item "serviceName"),
        ("tags", Dict.get item "tags"), ("extensions", Dict.get item "extensions")])
    (htext : text ∈ (Dict.get item field).strings) : text ∈ (searchedFields item).strings :=
  Json.mem_strings_obj.mpr ⟨_, hfield, htext⟩

theorem mem_strings_of_asStr? {j : Json} {text : String} (h : j.asStr? = some text) :
    text ∈ j.strings := by
  cases j with
  | str s =>
    obtain rfl := Option.some.inj h
    exact List.mem_singleton_self _
  | _ => cases h

/-- The texts of an item are among the strings of the searched fields. -/
theorem mem_strings_of_texts {item : Dict} {text : String} (h : text ∈ texts item) :
    text ∈ (searchedFields item).strings := by
  rcases List.mem_append.mp h with h | h
  · rcases List.mem_append.mp h with h | h
    · obtain ⟨field, hfield, htext⟩ := List.mem_filterMap.mp h
      apply mem_strings_of_field field _ (mem_strings_of_asStr? htext)
      simp only [List.mem_cons, List.not_mem_nil, or_false] at hfield
      rcases hfield with rfl | rfl | rfl | rfl <;> simp
    · apply mem_strings_of_field "tags" (by simp)
      cases htags : Dict.get item "tags" with
      | arr tags =>
        rw [htags] at h
        obtain ⟨tag, htag, htext⟩ := List.mem_filterMap.mp h
        exact Json.mem_strings_arr.mpr ⟨tag, htag, mem_strings_of_asStr? htext⟩
      | _ =>
        rw [htags] at h
        cases h
  · exact mem_strings_of_field "extensions" (by simp) h

theorem passesQuery_of_plain {query : Option String} {item : Dict}
    (h : MatchesPlainly env query item) : passesQuery env query item = true := by
  obtain ⟨text, htext, stretch, hstretch, hplain, hneedle⟩ := h
  have hwritten : stretch <:+: (spacedDumps (searchedFields item)).toList := by
    have hescaped := flatMap_stretch escapeChar hstretch
    rw [flatMap_escapeChar_plain hplain] at hescaped
    have hquoted : text.toList.flatMap escapeChar <:+: dumpStr text :=
      ⟨[doubleQuote], [doubleQuote], rfl⟩
    exact hescaped.trans (hquoted.trans (dumpStr_infix_spacedDumps (mem_strings_of_texts htext)))
  have hfound : (needle env query).toList <:+: (searchable env item).toList := by
    rw [searchable, CatalogEnv.casefoldStr, String.toList_ofList]
    exact hneedle.trans (flatMap_stretch env.casefold hwritten)
  rw [passesQuery, decide_eq_true hfound, Bool.or_true]

/-! ## Section 3: Rewritten characters -/

theorem isPrintableAscii_toLower {c : Char} (h : isPrintableAscii c = true) :
    isPrintableAscii c.toLower = true := by
  have hrange := of_decide_eq_true h
  exact forall_ascii (fun c => isPrintableAscii c = true → isPrintableAscii c.toLower = true)
    (by decide +kernel) (by omega) h

/-- The searched text holds printable characters of ASCII only. -/
theorem searchable_printable (item : Dict) :
    ∀ c ∈ (searchable env item).toList, isPrintableAscii c = true := by
  intro c hc
  rw [searchable, CatalogEnv.casefoldStr, String.toList_ofList, List.mem_flatMap] at hc
  obtain ⟨d, hd, hc⟩ := hc
  rw [spacedDumps, String.toList_ofList] at hd
  have hprintable := spaced_printable _ d hd
  have hrange := of_decide_eq_true hprintable
  rw [env.casefold_ascii d (by omega)] at hc
  obtain rfl := List.mem_singleton.mp hc
  exact isPrintableAscii_toLower hprintable

theorem passesQuery_of_not_printable {query : Option String} {item : Dict} {c : Char}
    (hc : c ∈ (needle env query).toList) (hprintable : isPrintableAscii c = false) :
    passesQuery env query item = false := by
  have hne : needle env query ≠ "" := by
    intro hempty
    rw [hempty] at hc
    cases hc
  have habsent : ¬ (needle env query).toList <:+: (searchable env item).toList := by
    intro hfound
    rw [searchable_printable env item c (hfound.subset hc)] at hprintable
    cases hprintable
  rw [passesQuery, decide_eq_false hne, decide_eq_false habsent]
  rfl

/-! ## Section 4: The results -/

/-- Of the live items that pass the other filters, a listing finds those that
    match the query in a plain stretch of a text, and for a query with a
    character outside printable ASCII it finds none. -/
theorem list_finds_plain_matches (s : CatalogState) (filters : Filters) (item : Dict)
    (hlive : item ∈ s.itemsOf s.index) (hfilters : passesFilters filters item = true) :
    ∃ results : List Dict,
      (∀ limit offset, (list env filters limit offset).runOn (CatalogState.perform env.isoformat) s =
        (some (.ok (page limit offset results)), s.swept)) ∧
      (¬ Matches env filters.query item ∨ MatchesPlainly env filters.query item →
        (Matches env filters.query item → item ∈ results)) ∧
      ((∃ c ∈ (needle env filters.query).toList, isPrintableAscii c = false) →
        ((Matches env filters.query item → item ∈ results) ↔ ¬ Matches env filters.query item)) := by
  refine ⟨sortItems env (s.matching env filters), fun limit offset => list_runOn env, ?_, ?_⟩
  · rintro (hno | hplain) hmatches
    · exact absurd hmatches hno
    · apply (sortItems_perm env _).mem_iff.mpr
      apply List.mem_filter.mpr ⟨hlive, ?_⟩
      rw [selects, hfilters, passesQuery_of_plain env hplain]
      rfl
  · rintro ⟨c, hc, hprintable⟩
    have habsent : item ∉ sortItems env (s.matching env filters) := by
      intro hmem
      have hselected := (List.mem_filter.mp ((sortItems_perm env _).mem_iff.mp hmem)).2
      rw [selects, passesQuery_of_not_printable env hc hprintable, Bool.and_false] at hselected
      cases hselected
    constructor
    · intro h hmatches
      exact habsent (h hmatches)
    · intro hno hmatches
      exact absurd hmatches hno

end BazaarCatalog

namespace Sample

/-- One entry whose text has a letter outside ASCII. -/
def cafeItem : Dict := [("resource", .str "https://shop.example/caf\u00e9")]

def cafeCatalog : CatalogState where
  index := ["cafe"]
  entries _ := some ⟨cafeItem, 100⟩
  clock := 0

def cafeQuery : BazaarCatalog.Filters := { BazaarCatalog.Filters.none with query := some "caf\u00e9" }

def shopQuery : BazaarCatalog.Filters := { BazaarCatalog.Filters.none with query := some "SHOP" }

end Sample

/-- The query is a word of the resource, but the search finds nothing. -/
theorem search_misses_latin1 :
    BazaarCatalog.Matches Sample.catalogEnv Sample.cafeQuery.query Sample.cafeItem ∧
      ((BazaarCatalog.list Sample.catalogEnv Sample.cafeQuery 20 0).runOn
        (CatalogState.perform Sample.catalogEnv.isoformat) Sample.cafeCatalog).1 =
        some (.ok ⟨[], 20, 0, 0⟩) := by
  constructor
  · decide +kernel
  · have hletter : '\u00e9' ∈ (BazaarCatalog.needle Sample.catalogEnv Sample.cafeQuery.query).toList := by
      decide +kernel
    have hnone : Sample.cafeCatalog.matching Sample.catalogEnv Sample.cafeQuery = [] := by
      apply List.filter_eq_nil_iff.mpr
      intro item _
      rw [BazaarCatalog.selects,
        BazaarCatalog.passesQuery_of_not_printable Sample.catalogEnv hletter (by decide), Bool.and_false]
      decide
    rw [BazaarCatalog.list_runOn, hnone, BazaarCatalog.sortItems, List.mergeSort_nil]
    rfl

theorem list_finds_plain_matches_sample : ∃ results,
    (BazaarCatalog.list Sample.catalogEnv Sample.shopQuery 20 0).runOn
        (CatalogState.perform Sample.catalogEnv.isoformat) Sample.cafeCatalog =
      (some (.ok (BazaarCatalog.page 20 0 results)), Sample.cafeCatalog.swept) ∧
    Sample.cafeItem ∈ results := by
  obtain ⟨results, hrun, hfinds, -⟩ := BazaarCatalog.list_finds_plain_matches Sample.catalogEnv
    Sample.cafeCatalog Sample.shopQuery Sample.cafeItem (by decide) (by decide)
  refine ⟨results, hrun 20 0, hfinds (.inr ?_) (by decide +kernel)⟩
  exact ⟨"https://shop.example/caf\u00e9", by decide, "shop".toList, by decide,
    List.all_eq_true.mp (by decide), by decide⟩

end XrplX402.Facilitator
