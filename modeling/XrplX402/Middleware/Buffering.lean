import XrplX402.Facilitator.Soundness
import XrplX402.Middleware.ResponseStore

/-! # What buffering and replay keep of a response

    The client of a settled payment gets the response of the handler around the
    settlement, and every later time from the store.

    * **`Settlement`**: what the x402 middleware makes of a settled response.
    * **Deliveries**: the first one and those from the store.
    * Status and body survive both. The list of headers survives the first one
      exactly when no name is repeated, and the way through the store only in the
      order that the store gives it. -/

namespace XrplX402.Middleware

open Py Interaction Prog

variable {env : Env}

/-! ## Section 1: What is compared -/

/-- Headers that a delivery adds or computes. -/
def addedNames : List String := ["content-length", "cache-control", "payment-response"]

def comparable (headers : HeaderList) : HeaderList := headers.filter fun h => h.1 ∉ addedNames

/-- Equal status, body and headers, where `same` compares the headers. -/
structure SameResponse (same : HeaderList → HeaderList → Prop) (r : HandlerResponse)
    (delivered : Response) : Prop where
  status : delivered.status = r.status
  body : delivered.chunks.flatten = r.chunks.flatten
  headers : same (comparable delivered.headers) (comparable r.headers)

/-- No name is repeated. -/
def Unrepeated (r : HandlerResponse) : Prop := ((comparable r.headers).map Prod.fst).Nodup

/-- The response says what type it has. -/
def Typed (r : HandlerResponse) : Prop := "content-type" ∈ (comparable r.headers).map Prod.fst

/-- The names increase, and the content type comes last. -/
def InStoredOrder (r : HandlerResponse) : Prop :=
  ∃ front type, comparable r.headers = front ++ [("content-type", type)] ∧
    (front.map Prod.fst).Pairwise (· < ·) ∧ "content-type" ∉ front.map Prod.fst

/-! ## Section 2: Deliveries -/

/-- What the skipped handler is replaced with. -/
structure SkipHandlerDirective where
  contentType : String
  body : Json

def skipHandlerDirective (cached : StoredResourceResponse) : SkipHandlerDirective where
  contentType := cached.contentType
  body :=
    match cached.body with
    | .bytes _ => .obj []
    | .value content => content

/-- What the x402 middleware returns after a successful settlement. -/
structure Settlement where
  /-- For the response of the handler. -/
  deliver : Response → Response
  /-- For a handler that was skipped. -/
  replay : SkipHandlerDirective → Response

/-- The settlement adds its own headers to a response that it leaves alone
    otherwise, and to one that it makes of the directive. -/
structure Settlement.Lawful (s : Settlement) : Prop where
  status : ∀ r, (s.deliver r).status = r.status
  body : ∀ r, (s.deliver r).chunks.flatten = r.chunks.flatten
  headers : ∀ r, comparable (s.deliver r).headers = comparable r.headers
  replayStatus : ∀ d, 200 ≤ (s.replay d).status ∧ (s.replay d).status < 400
  replayHeaders : ∀ d, ∀ h ∈ (s.replay d).headers, h.1 ∈ deliveryNames

/-- Handlers of which the HTTP application returns `r`. -/
def returning (r : HandlerResponse) : Handlers := ⟨.ok r, .ok none⟩

/-- What a paid request reads and writes while it is served alone. -/
structure Delivery where
  env : Env
  settlement : Settlement
  store : Option RedisResourceResponseStore
  method : String
  request : PaidRequest

namespace Delivery

variable (d : Delivery)

def first (r : HandlerResponse) (db : Redis.Db) : Option (Except Exc Response) × Redis.Db :=
  ((bufferedCallNext d.env d.store d.method d.request).runOn (onDatabase (returning r)) db).map
    (fun outcome => outcome.map (Except.map d.settlement.deliver)) id

/-- A delivery from the store, `none` when the store has no response. -/
def later (r : HandlerResponse) (db : Redis.Db) : Option (Except Exc Response) :=
  match ((RedisResourceResponseStore.get d.env d.request).runOn
    (onDatabase (returning r)) db).1 with
  | some (.ok (some cached)) =>
    some (deliverCached d.env (d.settlement.replay (skipHandlerDirective cached)) cached)
  | _ => none

/-- The request has an identifier, its method is unsafe, and what stands under
    its key is its own. -/
structure Stored (identifier : String) (db : Redis.Db) : Prop where
  store : d.store.isSome
  identified : d.env.extractAndValidatePaymentIdentifier d.request.payload = .ok (some identifier)
  method : d.env.unicode.upperStr d.method ∉ safeMethods
  authoritative : d.request.authoritative ≠ none
  own : ∀ entry, db (d.request.keyOf d.env identifier) = some entry →
    OwnRecord d.env d.request entry.value

/-- Every delivery of `r` is the same response. -/
structure Preserves (same : HeaderList → HeaderList → Prop) (identifier : String)
    (r : HandlerResponse) (db : Redis.Db) : Prop where
  first : ∃ delivered, (d.first r db).1 = some (.ok delivered) ∧ SameResponse same r delivered
  later : ∀ db', db' (d.request.keyOf d.env identifier) =
      (d.first r db).2 (d.request.keyOf d.env identifier) →
    ∃ delivered, d.later r db' = some (.ok delivered) ∧ SameResponse same r delivered

end Delivery

/-! ## Section 3: What a delivery has -/

section Delivered

variable {r : HandlerResponse} {settled : Response}

theorem comparable_append (a b : HeaderList) : comparable (a ++ b) = comparable a ++ comparable b :=
  List.filter_append ..

theorem comparable_firsts (headers : HeaderList) :
    comparable (Items.firsts headers) = Items.firsts (comparable headers) :=
  (Items.firsts_filter fun name => decide (name ∉ addedNames)).symm

theorem proper_stored (r : HandlerResponse) (body : List UInt8) :
    (toStoredResponse env r.rebuilt body).Proper := by
  rw [toStoredResponse_rebuilt]
  exact ⟨trivial, proper_textDict (nodup_storedHeaders r)⟩

/-- Names that are neither added nor the content type. -/
theorem filter_names (l : HeaderList) :
    (comparable l).filter (fun h => h.1 ≠ "content-type") = l.filter fun h => h.1 ∉ deliveryNames := by
  unfold comparable
  rw [List.filter_filter]
  apply List.filter_congr
  intro h _
  simp only [addedNames, deliveryNames, List.mem_cons, List.not_mem_nil, or_false, ← Bool.decide_and,
    decide_eq_decide]
  tauto

theorem filter_storedHeaders (r : HandlerResponse) :
    (r.storedHeaders.filter fun h => h.1 ∉ deliveryNames) =
      (Items.firsts (comparable r.headers)).filter fun h => h.1 ≠ "content-type" := by
  rw [← comparable_firsts, filter_names]
  unfold HandlerResponse.storedHeaders
  rw [List.filter_filter]
  apply List.filter_congr
  intro h _
  simp only [deliveryNames, List.mem_cons, List.not_mem_nil, or_false, ← Bool.decide_and,
    decide_eq_decide]
  tauto

/-- A response from the store has the status and the body of the handler's, its
    headers in increasing order, and a content type at the end. -/
theorem restore_stored (env : Env) (r : HandlerResponse) (hsettled : ∀ h ∈ settled.headers, h.1 ∈ deliveryNames) :
    ∃ kept delivered,
      restoreCachedResponse env settled
        (toStoredResponse env r.rebuilt r.chunks.flatten).sorted = .ok delivered ∧
      delivered.status = r.status ∧ delivered.chunks.flatten = r.chunks.flatten ∧
      comparable delivered.headers = kept ++
        [("content-type", (r.headers.lookup "content-type").getD "application/octet-stream")] ∧
      kept.Perm ((Items.firsts (comparable r.headers)).filter fun h => h.1 ≠ "content-type") ∧
      (kept.map Prod.fst).Pairwise (· < ·) := by
  -- The stored headers come back in the order of their names.
  obtain ⟨stored, hsort, hperm, hincreasing⟩ := exists_sorted (nodup_storedHeaders r)
  have hlower : LowerNames stored :=
    (lower_storedHeaders r).sublist fun h hmem => hperm.mem_iff.mp hmem
  obtain ⟨cached, hcached⟩ : ∃ cached,
      cached = (toStoredResponse env r.rebuilt r.chunks.flatten).sorted := ⟨_, rfl⟩
  have hheaders : cached.headers = textDict stored := by
    rw [hcached, toStoredResponse_rebuilt]
    exact hsort
  have htype : cached.contentType =
      (r.headers.lookup "content-type").getD "application/octet-stream" := by
    rw [hcached, toStoredResponse_rebuilt]
    rfl
  have hstatus : cached.statusCode = r.status := by
    rw [hcached, toStoredResponse_rebuilt]
    rfl
  have hbody : storedBodyBytes cached = r.chunks.flatten := by
    rw [hcached, toStoredResponse_rebuilt]
    rfl
  -- The headers of the settlement and the content type are set around those that are kept.
  obtain ⟨kept, hkept⟩ : ∃ kept, kept = stored.filter fun h => h.1 ∉ deliveryNames := ⟨_, rfl⟩
  obtain ⟨items, hitems⟩ : ∃ items, items = settledItems settled ++ kept ++
      [("content-type", cached.contentType)] := ⟨_, rfl⟩
  have hlowerItems : LowerNames items := by
    intro h hmem
    rw [hitems, List.mem_append, List.mem_append, List.mem_singleton] at hmem
    rcases hmem with (hsettledItem | hstored) | rfl
    · rcases mem_keys_settledItems hsettled (List.mem_map_of_mem hsettledItem) with heq | heq
      · rw [heq]
        exact isLower_deliveryNames _ (by decide)
      · rw [heq]
        exact isLower_deliveryNames _ (by decide)
    · rw [hkept] at hstored
      exact hlower h (List.mem_filter.mp hstored).1
    · exact isLower_deliveryNames "content-type" (by decide)
  have hrestored : restoreCachedResponse env settled cached =
      .ok (plainResponse env (storedBodyBytes cached) cached.statusCode items) := by
    unfold restoreCachedResponse
    rw [restoredHeaders_eq hsettled hheaders hlower (hincreasing.imp ne_of_lt), ← hkept, ← hitems,
      headerTexts_textDict]
    rfl
  -- The settlement adds only headers that are not compared.
  have hsettledNone : comparable (settledItems settled) = [] := by
    apply List.filter_eq_nil_iff.mpr
    intro h hmem
    rcases mem_keys_settledItems hsettled (List.mem_map_of_mem hmem) with heq | heq
    · simp [heq, addedNames]
    · simp [heq, addedNames]
  have hkeptAll : comparable kept = kept := by
    apply List.filter_eq_self.mpr
    intro h hmem
    rw [hkept] at hmem
    have hnot := (List.mem_filter.mp hmem).2
    simp only [deliveryNames, addedNames, List.mem_cons, List.not_mem_nil, or_false,
      decide_eq_true_eq] at hnot ⊢
    tauto
  have hlength : ∀ l : HeaderList,
      comparable (contentLengthHeader cached.statusCode (some (storedBodyBytes cached)) l) = [] := by
    intro l
    unfold contentLengthHeader
    dsimp only
    split
    · rfl
    · rfl
  -- The content type is the one added header that is compared.
  have htypeAlone : ∀ type : String, comparable [("content-type", type)] = [("content-type", type)] :=
    fun _ => rfl
  have hnoType : ∀ l : HeaderList, comparable (contentTypeHeader env none l) = [] := fun _ => rfl
  refine ⟨kept, plainResponse env (storedBodyBytes cached) cached.statusCode items, ?_, hstatus, ?_,
    ?_, ?_, ?_⟩
  · rw [← hcached]
    exact hrestored
  · show [storedBodyBytes cached].flatten = _
    rw [hbody, List.flatten_singleton]
  · show comparable (initHeaders env cached.statusCode items (some (storedBodyBytes cached)) none) = _
    rw [initHeaders, lowerNames_eq hlowerItems, comparable_append, comparable_append, hlength, hitems,
      comparable_append, comparable_append, hsettledNone, hkeptAll, htype, htypeAlone, hnoType,
      List.nil_append, List.append_nil, List.append_nil]
  · rw [hkept, ← filter_storedHeaders]
    exact hperm.filter _
  · rw [hkept]
    exact hincreasing.sublist (List.filter_sublist.map Prod.fst)

end Delivered

/-! ## Section 4: When it has the headers of the handler -/

section Lists

variable {headers kept : HeaderList}

theorem nodup_pairs {l : HeaderList} (h : (l.map Prod.fst).Nodup) : l.Nodup := h.of_map _

/-- A permutation of a list with distinct names has distinct names. -/
theorem firsts_perm_iff : (Items.firsts headers).Perm headers ↔ (headers.map Prod.fst).Nodup := by
  constructor
  · intro h
    exact (h.map Prod.fst).nodup_iff.mp (Items.firsts_nodup headers)
  · intro h
    rw [Items.firsts_of_nodup h]

/-- The value that stands behind the kept headers. -/
def typeOf (headers : HeaderList) : String :=
  (headers.lookup "content-type").getD "application/octet-stream"

theorem typeOf_of_mem (h : (headers.map Prod.fst).Nodup) {type : String}
    (hmem : ("content-type", type) ∈ headers) : typeOf headers = type := by
  rw [typeOf, Items.lookup_of_mem h hmem]
  rfl

/-- Names that increase, and a content type behind them. -/
theorem nodup_append_type {front : HeaderList} (type : String)
    (hfront : (front.map Prod.fst).Pairwise (· < ·)) (hnotMem : "content-type" ∉ front.map Prod.fst) :
    ((front ++ [("content-type", type)]).map Prod.fst).Nodup := by
  rw [List.map_append, List.map_singleton, List.nodup_append]
  refine ⟨hfront.imp ne_of_lt, List.nodup_singleton _, ?_⟩
  intro name hname last hlast heq
  rw [List.mem_singleton.mp hlast] at heq
  rw [heq] at hname
  exact hnotMem hname

section Kept

variable (hkept : kept.Perm ((Items.firsts headers).filter fun h => h.1 ≠ "content-type"))
include hkept

theorem contentType_notMem_kept : "content-type" ∉ kept.map Prod.fst := by
  intro hmem
  obtain ⟨h, hh, hname⟩ := List.mem_map.mp hmem
  exact absurd hname (by simpa using (List.mem_filter.mp (hkept.mem_iff.mp hh)).2)

/-- What comes from the store is a permutation of the handler's headers exactly
    when these have distinct names and a content type. -/
theorem restored_perm_iff (hincreasing : (kept.map Prod.fst).Pairwise (· < ·)) :
    (kept ++ [("content-type", typeOf headers)]).Perm headers ↔
      (headers.map Prod.fst).Nodup ∧ "content-type" ∈ headers.map Prod.fst := by
  have hnodup : ((kept ++ [("content-type", typeOf headers)]).map Prod.fst).Nodup :=
    nodup_append_type _ hincreasing (contentType_notMem_kept hkept)
  constructor
  · intro h
    refine ⟨(h.map Prod.fst).nodup_iff.mp hnodup, (h.map Prod.fst).mem_iff.mp ?_⟩
    rw [List.map_append, List.mem_append]
    exact .inr (List.mem_singleton.mpr rfl)
  · rintro ⟨hdistinct, htyped⟩
    rw [Items.firsts_of_nodup hdistinct] at hkept
    obtain ⟨⟨name, type⟩, hmem, rfl⟩ := List.mem_map.mp htyped
    apply (List.perm_ext_iff_of_nodup (nodup_pairs hnodup) (nodup_pairs hdistinct)).mpr
    rintro ⟨name', value⟩
    rw [List.mem_append, List.mem_singleton, hkept.mem_iff, List.mem_filter]
    constructor
    · rintro (⟨hin, -⟩ | heq)
      · exact hin
      · rw [heq, typeOf_of_mem hdistinct hmem]
        exact hmem
    · intro hin
      by_cases hname : name' = "content-type"
      · subst hname
        rw [typeOf_of_mem hdistinct hin]
        exact .inr rfl
      · exact .inl ⟨hin, by simpa using hname⟩

/-- It is the list itself exactly when the names increase up to a content type at
    the end. -/
theorem restored_eq_iff (hincreasing : (kept.map Prod.fst).Pairwise (· < ·)) :
    kept ++ [("content-type", typeOf headers)] = headers ↔
      ∃ front type, headers = front ++ [("content-type", type)] ∧
        (front.map Prod.fst).Pairwise (· < ·) ∧ "content-type" ∉ front.map Prod.fst := by
  constructor
  · intro h
    exact ⟨kept, typeOf headers, h.symm, hincreasing, contentType_notMem_kept hkept⟩
  · rintro ⟨front, type, rfl, hfront, hnotMem⟩
    have hdistinct := nodup_append_type type hfront hnotMem
    have hfilter : (front ++ [("content-type", type)]).filter (fun h => h.1 ≠ "content-type") = front := by
      rw [List.filter_append, List.filter_eq_self.mpr]
      · exact List.append_nil front
      · intro h hmem
        have hname : h.1 ≠ "content-type" := by
          intro heq
          exact hnotMem (heq ▸ List.mem_map_of_mem hmem)
        simpa using hname
    rw [Items.firsts_of_nodup hdistinct, hfilter] at hkept
    -- both lists have the same pairs in increasing order
    have hsame : kept = front :=
      List.Perm.eq_of_pairwise (fun a b _ _ hab hba => absurd (lt_trans hab hba) (lt_irrefl _))
        (List.pairwise_map.mp hincreasing) (List.pairwise_map.mp hfront) hkept
    rw [hsame, typeOf_of_mem hdistinct (List.mem_append_right _ (List.mem_singleton.mpr rfl))]

end Kept

end Lists

/-! ## Section 5: Deliveries that preserve the response -/

namespace Delivery

variable {d : Delivery} {same : HeaderList → HeaderList → Prop} {r : HandlerResponse}
variable {identifier : String} {db : Redis.Db}

/-- The settlement of the rebuilt response. -/
theorem same_deliver_iff (hlawful : d.settlement.Lawful) :
    SameResponse same r (d.settlement.deliver r.rebuilt) ↔
      same (Items.firsts (comparable r.headers)) (comparable r.headers) := by
  have hheaders : comparable (d.settlement.deliver r.rebuilt).headers =
      Items.firsts (comparable r.headers) := by
    rw [hlawful.headers, ← comparable_firsts]
    rfl
  constructor
  · intro h
    rw [← hheaders]
    exact h.headers
  · intro h
    refine ⟨hlawful.status _, ?_, by rw [hheaders]; exact h⟩
    rw [hlawful.body]
    show [r.chunks.flatten].flatten = _
    rw [List.flatten_singleton]

/-- Without a store, and for a safe method, nothing is kept. -/
theorem first_unstored (h : d.store = none ∨ d.env.unicode.upperStr d.method ∈ safeMethods)
    (hstatus : r.status < 400) : d.first r db = (some (.ok (d.settlement.deliver r.rebuilt)), db) := by
  have hkeep : keepResponse d.env d.store d.method d.request r.rebuilt r.chunks.flatten = .ret () := by
    unfold keepResponse
    cases hstore : d.store with
    | none => rfl
    | some store =>
      rcases h with hnone | hsafe
      · rw [hnone] at hstore
        cases hstore
      · exact if_pos hsafe
  have hrun : (bufferedCallNext d.env d.store d.method d.request).runOn
      (onDatabase (returning r)) db = (some (.ok r.rebuilt), db) := by
    unfold bufferedCallNext
    show Prog.runOn _ (if 400 ≤ r.status then .ret (callNext r) else _) db = _
    rw [if_neg (by omega), rebuild_callNext]
    show Prog.runOn _ (keepResponse d.env d.store d.method d.request r.rebuilt r.chunks.flatten >>= _)
      db = _
    rw [hkeep]
    rfl
  unfold first
  rw [hrun]
  rfl

/-- What the first delivery of a stored response leaves under the key. -/
theorem first_stored (h : d.Stored identifier db) (hstatus : r.status < 400) :
    (d.first r db).1 = some (.ok (d.settlement.deliver r.rebuilt)) ∧
      ∃ expiry, (d.first r db).2 (d.request.keyOf d.env identifier) =
        some ⟨dumps (.obj (storedRecord (d.request.fingerprint d.env)
          (toStoredResponse d.env r.rebuilt r.chunks.flatten))), expiry⟩ := by
  obtain ⟨store, hstore⟩ := Option.isSome_iff_exists.mp h.store
  obtain ⟨after, hrun, hafter⟩ : ∃ after, (bufferedCallNext d.env (some store) d.method
      d.request).runOn (onDatabase (returning r)) db = (some (.ok r.rebuilt), after) ∧
        after = Function.update db (d.request.keyOf d.env identifier) _ :=
    ⟨_, bufferedCallNext_alone h.identified h.method h.authoritative h.own rfl hstatus
      (rebuild_callNext r), rfl⟩
  unfold first
  rw [hstore, hrun, hafter]
  exact ⟨rfl, _, Function.update_self ..⟩

/-- The deliveries from the store are one response. -/
theorem later_stored (hlawful : d.settlement.Lawful) (h : d.Stored identifier db)
    (hstatus : r.status < 400) : ∃ kept delivered,
      (∀ db', db' (d.request.keyOf d.env identifier) =
        (d.first r db).2 (d.request.keyOf d.env identifier) → d.later r db' = some (.ok delivered)) ∧
      delivered.status = r.status ∧ delivered.chunks.flatten = r.chunks.flatten ∧
      comparable delivered.headers =
        kept ++ [("content-type", typeOf (comparable r.headers))] ∧
      kept.Perm ((Items.firsts (comparable r.headers)).filter fun h => h.1 ≠ "content-type") ∧
      (kept.map Prod.fst).Pairwise (· < ·) := by
  obtain ⟨-, expiry, hentry⟩ := first_stored h hstatus
  obtain ⟨cached, hcached⟩ : ∃ cached,
      cached = (toStoredResponse d.env r.rebuilt r.chunks.flatten).sorted := ⟨_, rfl⟩
  obtain ⟨kept, delivered, hrestore, hfacts⟩ :=
    restore_stored d.env r (hlawful.replayHeaders (skipHandlerDirective cached))
  have htype : (r.headers.lookup "content-type").getD "application/octet-stream" =
      typeOf (comparable r.headers) := by
    unfold typeOf comparable
    rw [Items.lookup_filter (p := fun name => decide (name ∉ addedNames)) (by decide)]
  rw [htype] at hfacts
  rw [← hcached] at hrestore
  refine ⟨kept, delivered, ?_, hfacts⟩
  intro db' hdb
  rw [hentry] at hdb
  have hget : ((RedisResourceResponseStore.get d.env d.request).runOn
      (onDatabase (returning r)) db').1 = some (.ok (some cached)) := by
    rw [get_alone h.identified (proper_stored r _) hdb rfl, hcached]
  unfold later
  rw [hget]
  dsimp only
  rw [deliverCached, if_pos (hlawful.replayStatus _), hrestore]

/-- Both deliveries, compared by their headers. -/
theorem preserves_iff (hlawful : d.settlement.Lawful) (h : d.Stored identifier db)
    (hstatus : r.status < 400) : ∃ kept : HeaderList,
      kept.Perm ((Items.firsts (comparable r.headers)).filter fun h => h.1 ≠ "content-type") ∧
      (kept.map Prod.fst).Pairwise (· < ·) ∧
      ∀ same, d.Preserves same identifier r db ↔
        same (Items.firsts (comparable r.headers)) (comparable r.headers) ∧
        same (kept ++ [("content-type", typeOf (comparable r.headers))]) (comparable r.headers) := by
  obtain ⟨hfirst, -⟩ := first_stored h hstatus
  obtain ⟨kept, delivered, hlater, hstatus', hbody, hheaders, hperm, hincreasing⟩ :=
    later_stored hlawful h hstatus
  refine ⟨kept, hperm, hincreasing, fun same => ?_⟩
  have hsame : SameResponse same r (d.settlement.deliver r.rebuilt) ↔
      same (Items.firsts (comparable r.headers)) (comparable r.headers) := same_deliver_iff hlawful
  rw [← hsame, ← hheaders]
  constructor
  · intro hpreserves
    obtain ⟨delivered₁, hdelivered₁, hsame₁⟩ := hpreserves.first
    obtain ⟨delivered₂, hdelivered₂, hsame₂⟩ := hpreserves.later _ rfl
    rw [hfirst] at hdelivered₁
    rw [hlater _ rfl] at hdelivered₂
    obtain rfl := Except.ok.inj (Option.some.inj hdelivered₁)
    obtain rfl := Except.ok.inj (Option.some.inj hdelivered₂)
    exact ⟨hsame₁, hsame₂.headers⟩
  · rintro ⟨hsame₁, hsame₂⟩
    exact ⟨⟨_, hfirst, hsame₁⟩, fun db' hdb =>
      ⟨delivered, hlater db' hdb, hstatus', hbody, hsame₂⟩⟩

end Delivery

/-! ### A response with two cookies -/

namespace Sample

open Facilitator.Sample

def authoritativeResource : AuthoritativeResource where
  resource := ⟨"https://shop.example/order", some "", some "", none, none, none⟩
  identity := "http:POST:00"

def paidRequest : PaidRequest := ⟨identifiedPayload, requirements, some authoritativeResource⟩

/-- The settlement adds its receipt. -/
def settlement : Settlement where
  deliver r := { r with headers := r.headers ++ [("payment-response", "e30=")] }
  replay d := ⟨200, [("content-length", "2"), ("content-type", d.contentType),
    ("payment-response", "e30="), ("cache-control", "no-store")], [[123, 125]], none⟩

theorem settlement_lawful : settlement.Lawful where
  status _ := rfl
  body _ := rfl
  headers r := by
    show comparable (r.headers ++ _) = _
    rw [comparable_append]
    exact List.append_nil _
  replayStatus _ := by
    show (200 : Int) ≤ 200 ∧ (200 : Int) < 400
    decide
  replayHeaders d := by
    intro h hmem
    simp only [settlement, List.mem_cons, List.not_mem_nil, or_false] at hmem
    rcases hmem with rfl | rfl | rfl | rfl
    · decide
    · show "content-type" ∈ deliveryNames
      decide
    · decide
    · decide

def responseStore : RedisResourceResponseStore := ⟨600, 60, by decide, by decide⟩

def delivery : Delivery := ⟨sampleEnv, settlement, some responseStore, "POST", paidRequest⟩

def emptyDb : Redis.Db := fun _ => none

theorem delivery_stored : delivery.Stored "order-0000000000001" emptyDb where
  store := rfl
  identified := rfl
  method := by decide +kernel
  authoritative := by decide
  own _ h := by cases h

def cookies : HandlerResponse where
  status := 200
  headers := [("set-cookie", "session=1"), ("set-cookie", "theme=dark"), ("content-type", "text/plain")]
  chunks := [[111], [107]]
  lower := by decide +kernel

def plain : HandlerResponse where
  status := 206
  headers := [("content-disposition", "attachment"), ("x-resource-version", "7"),
    ("content-type", "application/octet-stream")]
  chunks := [[0, 255], [128]]
  lower := by decide +kernel

theorem plain_unrepeated : Unrepeated plain := by
  show ((comparable plain.headers).map Prod.fst).Nodup
  decide +kernel

theorem plain_inStoredOrder : InStoredOrder plain :=
  ⟨[("content-disposition", "attachment"), ("x-resource-version", "7")], "application/octet-stream",
    by decide +kernel, by decide +kernel, by decide +kernel⟩

end Sample

/-- The second of two cookies is lost. -/
theorem second_cookie_lost :
    Sample.settlement.Lawful ∧ Sample.delivery.Stored "order-0000000000001" Sample.emptyDb ∧
      Sample.cookies.status < 400 ∧
      (∃ delivered, (Sample.delivery.first Sample.cookies Sample.emptyDb).1 = some (.ok delivered) ∧
        comparable delivered.headers = [("set-cookie", "session=1"), ("content-type", "text/plain")]) ∧
      ¬ Sample.delivery.Preserves Eq "order-0000000000001" Sample.cookies Sample.emptyDb ∧
      ¬ Sample.delivery.Preserves List.Perm "order-0000000000001" Sample.cookies Sample.emptyDb := by
  have hstatus : Sample.cookies.status < 400 := by decide
  obtain ⟨kept, -, -, hiff⟩ :=
    Delivery.preserves_iff Sample.settlement_lawful Sample.delivery_stored hstatus
  have hfirst := (Delivery.first_stored Sample.delivery_stored hstatus).1
  refine ⟨Sample.settlement_lawful, Sample.delivery_stored, hstatus, ⟨_, hfirst, ?_⟩, ?_, ?_⟩
  · decide +kernel
  · rw [hiff]
    rintro ⟨hsame, -⟩
    exact absurd hsame (by decide +kernel)
  · rw [hiff]
    rintro ⟨hsame, -⟩
    exact absurd hsame (by decide +kernel)

/-- The client of a settled payment receives the list of headers of the handler
    exactly when no name is repeated and, from the store, the names stand in the
    order that the store gives them; up to order, when no name is repeated and
    there is a content type. Status and body are kept by both deliveries. -/
theorem deliveries_preserve_iff (d : Delivery) (hlawful : d.settlement.Lawful) (r : HandlerResponse)
    (hstatus : r.status < 400) (identifier : String) (db : Redis.Db) :
    (d.store = none ∨ d.env.unicode.upperStr d.method ∈ safeMethods →
      ∃ delivered, (d.first r db).1 = some (.ok delivered) ∧
        (SameResponse Eq r delivered ↔ Unrepeated r)) ∧
    (d.Stored identifier db →
      (d.Preserves Eq identifier r db ↔ Unrepeated r ∧ InStoredOrder r) ∧
      (d.Preserves List.Perm identifier r db ↔ Unrepeated r ∧ Typed r) ∧
      ∃ first later, (d.first r db).1 = some (.ok first) ∧
        (∀ db', db' (d.request.keyOf d.env identifier) =
          (d.first r db).2 (d.request.keyOf d.env identifier) → d.later r db' = some (.ok later)) ∧
        first.status = r.status ∧ later.status = r.status ∧
        first.chunks.flatten = r.chunks.flatten ∧ later.chunks.flatten = r.chunks.flatten) := by
  refine ⟨fun hunstored => ?_, fun hstored => ⟨?_, ?_, ?_⟩⟩
  · refine ⟨_, congrArg Prod.fst (Delivery.first_unstored hunstored hstatus), ?_⟩
    rw [Delivery.same_deliver_iff hlawful]
    exact Items.firsts_eq_self_iff
  · obtain ⟨kept, hkept, hincreasing, hiff⟩ := Delivery.preserves_iff hlawful hstored hstatus
    rw [hiff, restored_eq_iff hkept hincreasing]
    exact and_congr_left' Items.firsts_eq_self_iff
  · obtain ⟨kept, hkept, hincreasing, hiff⟩ := Delivery.preserves_iff hlawful hstored hstatus
    rw [hiff, restored_perm_iff hkept hincreasing, firsts_perm_iff]
    constructor
    · rintro ⟨hdistinct, -, htyped⟩
      exact ⟨hdistinct, htyped⟩
    · rintro ⟨hdistinct, htyped⟩
      exact ⟨hdistinct, hdistinct, htyped⟩
  · obtain ⟨hfirst, -⟩ := Delivery.first_stored hstored hstatus
    obtain ⟨kept, delivered, hlater, hlaterStatus, hlaterBody, -⟩ :=
      Delivery.later_stored hlawful hstored hstatus
    refine ⟨_, delivered, hfirst, hlater, hlawful.status _, hlaterStatus, ?_, hlaterBody⟩
    rw [hlawful.body]
    show [r.chunks.flatten].flatten = _
    rw [List.flatten_singleton]

theorem deliveries_preserve_iff_sample :
    Sample.delivery.Preserves Eq "order-0000000000001" Sample.plain Sample.emptyDb := by
  have hiff := deliveries_preserve_iff Sample.delivery Sample.settlement_lawful Sample.plain (by decide)
    "order-0000000000001" Sample.emptyDb
  exact (hiff.2 Sample.delivery_stored).1.mpr
    ⟨Sample.plain_unrepeated, Sample.plain_inStoredOrder⟩

end XrplX402.Middleware
