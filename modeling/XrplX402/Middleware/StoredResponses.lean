import XrplX402.Middleware.Resource
import XrplX402.Py.Base64
import XrplX402.Py.Items
import XrplX402.Py.SortedKeys

/-! # Responses, rebuilt and stored

    A response of a protected handler is rebuilt before its first delivery, and
    a copy of it is written to a record from which later deliveries are made.

    * Header names and values stand for their bytes, read as Latin-1.
    * `rebuild`: `buffered_call_next` on a response below 400.
    * `recordText`, `readRecord`: the record of a response, there and back.
    * `restoreCachedResponse`: a stored response behind a settlement. -/

namespace XrplX402.Middleware

open Py

/-! ## Section 1: Responses -/

abbrev HeaderList := List (String × String)

/-- ASGI asks for header names in lower case. -/
def IsLower (name : String) : Prop := ∀ c ∈ name.toList, c.toNat < 128 ∧ c.toLower = c

instance (name : String) : Decidable (IsLower name) :=
  decidable_of_iff (name.toList.all (fun c => c.toNat < 128 ∧ c.toLower = c) = true)
    (by simp [IsLower])

/-- What the protected application sends. -/
structure HandlerResponse where
  status : Int
  headers : HeaderList
  chunks : List (List UInt8)
  lower : ∀ h ∈ headers, IsLower h.1

/-- A response object; `headers` is its `raw_headers`. -/
structure Response where
  status : Int
  headers : HeaderList
  chunks : List (List UInt8)
  mediaType : Option String

/-- `await call_next(request)` -/
def callNext (r : HandlerResponse) : Response := ⟨r.status, r.headers, r.chunks, none⟩

/-- `response.headers.get(key)`: the first value. -/
def getHeader (env : Env) (headers : HeaderList) (key : String) : Option String :=
  headers.lookup (env.unicode.lowerStr key)

/-- `response.headers[key]` -/
def headerItem (env : Env) (headers : HeaderList) (key : String) : Except Exc String :=
  match getHeader env headers key with
  | some value => .ok value
  | none => .error ⟨.keyError, key⟩

/-- `dict(response.headers)` looks every name up. -/
def dictOfHeaders (env : Env) (headers : HeaderList) : Except Exc HeaderList :=
  headers.foldlM (fun d h => do return Items.set h.1 (← headerItem env headers h.1) d) []

/-- The type of a text without a charset gets one. -/
def withCharset (env : Env) (mediaType : String) : String :=
  if mediaType.startsWith "text/" ∧
      ¬ "charset=".toList <:+: (env.unicode.lowerStr mediaType).toList then
    mediaType ++ "; charset=utf-8"
  else mediaType

def contentLengthHeader (status : Int) (body : Option (List UInt8)) (headers : HeaderList) :
    HeaderList :=
  match body with
  | none => []
  | some bytes =>
    if "content-length" ∈ headers.map Prod.fst ∨ status < 200 ∨ status = 204 ∨ status = 304 then []
    else [("content-length", toString bytes.length)]

def contentTypeHeader (env : Env) (mediaType : Option String) (headers : HeaderList) : HeaderList :=
  match mediaType with
  | none => []
  | some type =>
    if "content-type" ∈ headers.map Prod.fst then [] else [("content-type", withCharset env type)]

def lowerNames (env : Env) (headers : HeaderList) : HeaderList :=
  headers.map fun h => (env.unicode.lowerStr h.1, h.2)

/-- `Response.init_headers` -/
def initHeaders (env : Env) (status : Int) (headers : HeaderList) (body : Option (List UInt8))
    (mediaType : Option String) : HeaderList :=
  lowerNames env headers ++ contentLengthHeader status body (lowerNames env headers) ++
    contentTypeHeader env mediaType (lowerNames env headers)

/-- `StreamingResponse(iter(chunks), status_code=..., headers=..., media_type=...)` -/
def streamingResponse (env : Env) (chunks : List (List UInt8)) (status : Int)
    (headers : HeaderList) (mediaType : Option String) : Response :=
  ⟨status, initHeaders env status headers none mediaType, chunks, mediaType⟩

/-- `Response(content=..., status_code=..., headers=...)` -/
def plainResponse (env : Env) (content : List UInt8) (status : Int) (headers : HeaderList) : Response :=
  ⟨status, initHeaders env status headers (some content) none, [content], none⟩

/-- The response that `buffered_call_next` builds. -/
def rebuild (env : Env) (response : Response) : Except Exc Response := do
  let headers ← dictOfHeaders env response.headers
  return streamingResponse env [response.chunks.flatten] response.status headers response.mediaType

/-! ## Section 2: Stored responses -/

inductive StoredBody where
  | bytes (content : List UInt8)
  | value (content : Json)
  deriving DecidableEq

structure StoredResourceResponse where
  statusCode : Int
  contentType : String
  body : StoredBody
  headers : Dict
  deriving DecidableEq

/-- A dictionary of texts as JSON. -/
def textDict (headers : HeaderList) : Dict := headers.map fun h => (h.1, .str h.2)

/-- `_to_stored_response` -/
def toStoredResponse (env : Env) (response : Response) (body : List UInt8) : StoredResourceResponse where
  statusCode := response.status
  contentType := (getHeader env response.headers "content-type").getD "application/octet-stream"
  body := .bytes body
  headers := textDict (Items.update [] (response.headers.filter fun h =>
    env.unicode.lowerStr h.1 ∉ ["content-length", "payment-response"]))

/-- `_stored_body_bytes` -/
def storedBodyBytes (cached : StoredResourceResponse) : List UInt8 :=
  match cached.body with
  | .bytes content => content
  | .value (.str s) => encodeUtf8 s
  | .value content => encodeUtf8 (String.ofList (write escapeControl content))

/-- A header value is encoded. -/
def headerText : Json → Except Exc String
  | .str s => .ok s
  | _ => .error ⟨.attributeError, "object has no attribute 'encode'"⟩

/-- The header pairs of a dictionary whose values have to be texts. -/
def headerTexts (d : Dict) : Except Exc HeaderList :=
  d.mapM fun kv => do return (kv.1, ← headerText kv.2)

/-- The headers of a restored response, before they are encoded. -/
def restoredHeaders (env : Env) (settled : Response) (cached : StoredResourceResponse) : Dict :=
  Items.set "content-type" (.str cached.contentType) (Items.update
    (Items.update [] (textDict (settled.headers.filter fun h =>
      env.unicode.lowerStr h.1 ∉ ["content-length", "content-type"])))
    (cached.headers.filter fun kv => env.unicode.lowerStr kv.1 ∉
      ["cache-control", "content-length", "content-type", "payment-response"]))

/-- `_restore_cached_response` -/
def restoreCachedResponse (env : Env) (settled : Response) (cached : StoredResourceResponse) :
    Except Exc Response := do
  let headers ← headerTexts (restoredHeaders env settled cached)
  return plainResponse env (storedBodyBytes cached) cached.statusCode headers

/-! ## Section 3: Records -/

/-- `_encode_body` -/
def encodeBody : StoredBody → Json × String
  | .bytes content => (.str (String.ofList (b64encode content)), "base64")
  | .value content => (content, "json")

def storedRecord (fingerprint : String) (response : StoredResourceResponse) : Dict :=
  [("fingerprint", .str fingerprint), ("state", .str "response"),
    ("statusCode", .int response.statusCode), ("contentType", .str response.contentType),
    ("body", (encodeBody response.body).1), ("bodyEncoding", .str (encodeBody response.body).2),
    ("headers", .obj response.headers)]

def boundRecord (fingerprint : String) : Dict :=
  [("fingerprint", .str fingerprint), ("state", .str "bound")]

/-- `_decode_body` -/
def decodeBody (env : Env) (record : Dict) : Except Exc StoredBody :=
  match Dict.get record "bodyEncoding" with
  | .null => .ok (.value (Dict.get record "body"))
  | .str "json" => .ok (.value (Dict.get record "body"))
  | .str "base64" =>
    match Dict.get record "body" with
    | .str encoded =>
      match b64decode true encoded.toList with
      | some content => .ok (.bytes content)
      | none => .error (valueError "cached response body is not valid base64")
    | _ => .error (valueError "cached base64 response body must be a string")
  | .arr _ => .error (typeError "unhashable type: 'list'")
  | .obj _ => .error (typeError "unhashable type: 'dict'")
  | encoding => .error (valueError
      ("unsupported cached response body encoding: " ++ str env.unicode encoding))

/-- `dict(j or {})` -/
def dictOr (j : Json) : Except Exc Dict :=
  match j with
  | .obj d => .ok d
  | j => if j.truthy then .error (typeError "cannot convert to a dictionary") else .ok []

/-- `_validate_fingerprint` -/
def validateFingerprint (record : Json) (expected : String) : Except Exc Unit := do
  let fingerprint ← getAttr record "fingerprint"
  failIf (fingerprint ≠ .str expected)
    (valueError "payment-identifier was reused with different payment or resource context")

/-- `json.loads(raw)` -/
def loadRecord (raw : String) : Except Exc Json :=
  match loads raw with
  | some record => .ok record
  | none => .error (valueError "not a JSON text")

/-- The response in a record, if it has one. -/
def decodeRecord (env : Env) (record : Dict) : Except Exc (Option StoredResourceResponse) :=
  if Dict.get record "state" = .str "bound" ∨ Dict.has record "statusCode" = false then .ok none
  else do
    let statusCode ← toInt env.unicode (Dict.get record "statusCode")
    let contentType ← subscript (.obj record) "contentType"
    let body ← decodeBody env record
    let headers ← dictOr (Dict.get record "headers")
    return some ⟨statusCode, str env.unicode contentType, body, headers⟩

/-- What `get` makes of the text under its key. -/
def readRecord (env : Env) (fingerprint raw : String) : Except Exc (Option StoredResourceResponse) := do
  let record ← loadRecord raw
  validateFingerprint record fingerprint
  match record with
  | .obj d => decodeRecord env d
  | _ => .ok none

/-! ## Section 4: A record is read back -/

section Records

variable {env : Env} {fingerprint : String} {response : StoredResourceResponse}

/-- A body that JSON can hold. -/
def StoredBody.Proper : StoredBody → Prop
  | .bytes _ => True
  | .value content => content.proper = true

/-- A response that JSON can hold. -/
structure StoredResourceResponse.Proper (response : StoredResourceResponse) : Prop where
  body : response.body.Proper
  headers : (Json.obj response.headers).proper = true

/-- A response as its record gives it back: keys are in order. -/
def StoredResourceResponse.sorted (response : StoredResourceResponse) : StoredResourceResponse where
  statusCode := response.statusCode
  contentType := response.contentType
  body :=
    match response.body with
    | .bytes content => .bytes content
    | .value content => .value content.sortKeys
  headers := Json.sortObj response.headers

theorem proper_storedRecord (h : response.Proper) :
    (Json.obj (storedRecord fingerprint response)).proper = true := by
  apply proper_obj.mpr
  refine ⟨by simp [storedRecord], ?_⟩
  -- A body is either base64 text or JSON that came from a handler.
  have hbody : (encodeBody response.body).1.proper = true := by
    cases hb : response.body with
    | bytes content => rfl
    | value content =>
      have hproper := h.body
      rw [hb] at hproper
      exact hproper
  intro kv hkv
  simp only [storedRecord, List.mem_cons, List.not_mem_nil, or_false] at hkv
  rcases hkv with rfl | rfl | rfl | rfl | rfl | rfl | rfl
  · rfl
  · rfl
  · rfl
  · rfl
  · exact hbody
  · rfl
  · exact h.headers

theorem proper_boundRecord : (Json.obj (boundRecord fingerprint)).proper = true := by
  apply proper_obj.mpr
  refine ⟨by simp [boundRecord], ?_⟩
  intro kv hkv
  simp only [boundRecord, List.mem_cons, List.not_mem_nil, or_false] at hkv
  rcases hkv with rfl | rfl
  · rfl
  · rfl

/-- Reading a field of a sorted dictionary. -/
theorem get_sortObj (d : Dict) (key : String) :
    Dict.get (Json.sortObj d) key = (Dict.get d key).sortKeys := by
  unfold Dict.get
  rw [Json.get?_sortObj]
  cases Dict.get? d key with
  | none => rfl
  | some v => rfl

theorem readRecord_other {d : Dict} {other : String} (hproper : (Json.obj d).proper = true)
    (hfingerprint : Dict.get d "fingerprint" = .str fingerprint) (hne : fingerprint ≠ other) :
    readRecord env other (dumps (.obj d)) = .error
      (valueError "payment-identifier was reused with different payment or resource context") := by
  have hvalidate : validateFingerprint (.obj (Json.sortObj d)) other = .error
      (valueError "payment-identifier was reused with different payment or resource context") := by
    unfold validateFingerprint getAttr
    dsimp only
    rw [get_sortObj, hfingerprint]
    exact if_pos fun heq => hne (Json.str.inj heq)
  unfold readRecord loadRecord
  rw [loads_dumps hproper]
  show (validateFingerprint (.obj (Json.sortObj d)) other >>= _) = _
  rw [hvalidate]
  rfl

theorem readRecord_own {d : Dict} (hproper : (Json.obj d).proper = true)
    (hfingerprint : Dict.get d "fingerprint" = .str fingerprint) :
    readRecord env fingerprint (dumps (.obj d)) = decodeRecord env (Json.sortObj d) := by
  have hvalidate : validateFingerprint (.obj (Json.sortObj d)) fingerprint = .ok () := by
    unfold validateFingerprint getAttr
    dsimp only
    rw [get_sortObj, hfingerprint]
    exact if_neg fun hne => hne rfl
  unfold readRecord loadRecord
  rw [loads_dumps hproper]
  show (validateFingerprint (.obj (Json.sortObj d)) fingerprint >>= _) = _
  rw [hvalidate]
  rfl

/-- A bound record has no response. -/
theorem readRecord_bound :
    readRecord env fingerprint (dumps (.obj (boundRecord fingerprint))) = .ok none := by
  rw [readRecord_own proper_boundRecord rfl]
  unfold decodeRecord
  rw [get_sortObj]
  exact if_pos (.inl rfl)

theorem decodeBody_storedRecord :
    decodeBody env (Json.sortObj (storedRecord fingerprint response)) = .ok response.sorted.body := by
  unfold decodeBody StoredResourceResponse.sorted
  rw [get_sortObj, get_sortObj]
  cases hbody : response.body with
  | bytes content =>
    have hencoding : Dict.get (storedRecord fingerprint response) "bodyEncoding" = .str "base64" := by
      simp [storedRecord, Dict.get, Dict.get?_cons, hbody, encodeBody]
    have hfield : Dict.get (storedRecord fingerprint response) "body" =
        .str (String.ofList (b64encode content)) := by
      simp [storedRecord, Dict.get, Dict.get?_cons, hbody, encodeBody]
    rw [hencoding, hfield]
    dsimp only [Json.sortKeys]
    rw [String.toList_ofList, b64decode_b64encode]
    rfl
  | value content =>
    have hencoding : Dict.get (storedRecord fingerprint response) "bodyEncoding" = .str "json" := by
      simp [storedRecord, Dict.get, Dict.get?_cons, hbody, encodeBody]
    have hfield : Dict.get (storedRecord fingerprint response) "body" = content := by
      simp [storedRecord, Dict.get, Dict.get?_cons, hbody, encodeBody]
    rw [hencoding, hfield]
    rfl

/-- What is stored is read back. -/
theorem readRecord_stored (h : response.Proper) :
    readRecord env fingerprint (dumps (.obj (storedRecord fingerprint response))) =
      .ok (some response.sorted) := by
  have hfields : ∀ name value, Dict.get? (storedRecord fingerprint response) name = some value →
      Dict.get? (Json.sortObj (storedRecord fingerprint response)) name = some value.sortKeys := by
    intro name value hvalue
    rw [Json.get?_sortObj, hvalue]
    rfl
  have hstate := hfields "state" (.str "response") rfl
  have hstatus := hfields "statusCode" (.int response.statusCode) rfl
  have htype := hfields "contentType" (.str response.contentType) rfl
  have hheaders := hfields "headers" (.obj response.headers) rfl
  have hresponse : ¬ (Dict.get (Json.sortObj (storedRecord fingerprint response)) "state" = .str "bound" ∨
      Dict.has (Json.sortObj (storedRecord fingerprint response)) "statusCode" = false) := by
    simp [Dict.get, Dict.has, hstate, hstatus, Json.sortKeys]
  rw [readRecord_own (proper_storedRecord h) rfl, decodeRecord, if_neg hresponse,
    decodeBody_storedRecord]
  simp only [Dict.get, subscript, hstatus, htype, hheaders]
  rfl

end Records

/-! ## Section 5: Rebuilt headers -/

section Headers

variable {env : Env} {headers : HeaderList}

def LowerNames (headers : HeaderList) : Prop := ∀ h ∈ headers, IsLower h.1

theorem lowerStr_of_isLower {name : String} (h : IsLower name) : env.unicode.lowerStr name = name := by
  have hflat : ∀ cs : List Char, (∀ c ∈ cs, c.toNat < 128 ∧ c.toLower = c) →
      cs.flatMap env.unicode.lower = cs := by
    intro cs hcs
    induction cs with
    | nil => rfl
    | cons c cs ih =>
      obtain ⟨hascii, hlow⟩ := hcs c List.mem_cons_self
      rw [List.flatMap_cons, env.unicode.lower_ascii c hascii, hlow,
        ih fun d hd => hcs d (List.mem_cons_of_mem _ hd)]
      rfl
  rw [UnicodeData.lowerStr, hflat _ h, String.ofList_toList]

theorem lowerNames_eq (h : LowerNames headers) : lowerNames env headers = headers := by
  unfold lowerNames
  apply (List.map_congr_left _).trans (List.map_id _)
  intro header hmem
  rw [lowerStr_of_isLower (h header hmem)]
  rfl

/-- The names that a comparison leaves alone are compared as they stand. -/
theorem filter_lower (h : LowerNames headers) (names : List String) :
    (headers.filter fun header => env.unicode.lowerStr header.1 ∉ names) =
      headers.filter fun header => header.1 ∉ names := by
  apply List.filter_congr
  intro header hmem
  rw [lowerStr_of_isLower (h header hmem)]

theorem LowerNames.sublist {part : HeaderList} (h : LowerNames headers) (hpart : part ⊆ headers) :
    LowerNames part := fun header hmem => h header (hpart hmem)

theorem firsts_subset : Items.firsts headers ⊆ headers := by
  induction headers with
  | nil => exact fun _ h => h
  | cons header headers ih =>
    intro kv hkv
    rcases List.mem_cons.mp hkv with rfl | hrest
    · exact List.mem_cons_self
    · exact List.mem_cons_of_mem _ (ih (List.mem_filter.mp hrest).1)

/-- The dictionary of a response's headers has the first value of every name. -/
theorem dictOfHeaders_eq (h : LowerNames headers) :
    dictOfHeaders env headers = .ok (Items.firsts headers) := by
  obtain ⟨f, hf⟩ : ∃ f : String → String, f = fun name => (headers.lookup name).getD "" := ⟨_, rfl⟩
  -- What is read for a name is its first value.
  have hitem : ∀ header ∈ headers, headerItem env headers header.1 = .ok (f header.1) := by
    intro header hmem
    have hkey : header.1 ∈ (Items.firsts headers).map Prod.fst :=
      Items.mem_keys_firsts.mpr (List.mem_map_of_mem hmem)
    obtain ⟨⟨name, value⟩, hvalue, hname⟩ := List.mem_map.mp hkey
    dsimp only at hname
    rw [hname] at hvalue
    have hlookup := Items.lookup_of_mem_firsts hvalue
    have hread : f header.1 = value := by
      rw [hf]
      dsimp only
      rw [hlookup]
      rfl
    unfold headerItem getHeader
    rw [lowerStr_of_isLower (h header hmem), hlookup, hread]
  -- Every step sets the name to that value again, and a name keeps its first place.
  have hfold : ∀ (l : HeaderList) (d : HeaderList), l ⊆ headers →
      l.foldlM (fun d h => do return Items.set h.1 (← headerItem env headers h.1) d) d =
        Except.ok (Items.update d (l.map fun kv => (kv.1, f kv.1))) := by
    intro l
    induction l with
    | nil => exact fun d _ => rfl
    | cons header l ih =>
      intro d hl
      rw [List.foldlM_cons, hitem header (hl List.mem_cons_self)]
      exact ih _ fun kv hkv => hl (List.mem_cons_of_mem _ hkv)
  have hvalues : (Items.firsts headers).map (fun kv => (kv.1, f kv.1)) = Items.firsts headers := by
    apply (List.map_congr_left _).trans (List.map_id _)
    rintro ⟨name, value⟩ hmem
    rw [hf]
    dsimp only
    rw [Items.lookup_of_mem_firsts hmem]
    rfl
  have hread : ∀ kv ∈ headers.map (fun kv => (kv.1, f kv.1)), kv.2 = f kv.1 := by
    intro kv hkv
    obtain ⟨header, -, rfl⟩ := List.mem_map.mp hkv
    rfl
  have hempty : (([] : HeaderList).map Prod.fst).Nodup := List.nodup_nil
  -- So the dictionary holds the first of the headers with each name.
  have hupdate : Items.update [] (headers.map fun kv => (kv.1, f kv.1)) = Items.firsts headers := by
    rw [Items.update_firsts hempty (fun kv hkv => absurd hkv List.not_mem_nil) hread,
      Items.firsts_map, hvalues]
    exact List.filter_eq_self.mpr fun kv _ => by simp
  unfold dictOfHeaders
  rw [hfold headers [] fun _ hmem => hmem, hupdate]

/-- The response in one chunk, with the first value of every header. -/
def HandlerResponse.rebuilt (r : HandlerResponse) : Response :=
  ⟨r.status, Items.firsts r.headers, [r.chunks.flatten], none⟩

theorem rebuild_callNext (r : HandlerResponse) : rebuild env (callNext r) = .ok r.rebuilt := by
  have hlower : LowerNames (Items.firsts r.headers) := LowerNames.sublist r.lower firsts_subset
  have hinit : initHeaders env r.status (Items.firsts r.headers) none none = Items.firsts r.headers := by
    rw [initHeaders, lowerNames_eq hlower]
    show Items.firsts r.headers ++ [] ++ [] = _
    rw [List.append_nil, List.append_nil]
  unfold rebuild
  show (dictOfHeaders env r.headers >>= _) = _
  rw [dictOfHeaders_eq r.lower]
  show Except.ok (streamingResponse env [r.chunks.flatten] r.status (Items.firsts r.headers) none) = _
  rw [streamingResponse, hinit]
  rfl

/-- The headers of a rebuilt response that are stored. -/
def HandlerResponse.storedHeaders (r : HandlerResponse) : HeaderList :=
  (Items.firsts r.headers).filter fun h => h.1 ∉ ["content-length", "payment-response"]

theorem lower_storedHeaders (r : HandlerResponse) : LowerNames r.storedHeaders :=
  LowerNames.sublist r.lower fun _ h => firsts_subset (List.mem_filter.mp h).1

theorem nodup_storedHeaders (r : HandlerResponse) : (r.storedHeaders.map Prod.fst).Nodup :=
  (Items.firsts_nodup r.headers).sublist (List.filter_sublist.map Prod.fst)

/-- What is stored of a rebuilt response. -/
theorem toStoredResponse_rebuilt (r : HandlerResponse) (body : List UInt8) :
    toStoredResponse env r.rebuilt body = {
      statusCode := r.status
      contentType := (r.headers.lookup "content-type").getD "application/octet-stream"
      body := .bytes body
      headers := textDict r.storedHeaders } := by
  have hlower : LowerNames (Items.firsts r.headers) := LowerNames.sublist r.lower firsts_subset
  have htype : getHeader env (Items.firsts r.headers) "content-type" =
      r.headers.lookup "content-type" := by
    rw [getHeader, lowerStr_of_isLower (by decide +kernel), Items.lookup_firsts]
  have hheaders : Items.update [] ((Items.firsts r.headers).filter fun h =>
      env.unicode.lowerStr h.1 ∉ ["content-length", "payment-response"]) = r.storedHeaders := by
    rw [filter_lower hlower]
    exact Items.update_nil_of_nodup (nodup_storedHeaders r)
  unfold toStoredResponse HandlerResponse.rebuilt
  dsimp only
  rw [htype, hheaders]

end Headers

/-! ## Section 6: Restored headers -/

section Texts

variable {d pairs : HeaderList}

theorem set_textDict (name value : String) :
    Items.set name (.str value) (textDict d) = textDict (Items.set name value d) := by
  induction d with
  | nil => rfl
  | cons h d ih =>
    obtain ⟨k, v⟩ := h
    show Items.set name (.str value) ((k, .str v) :: textDict d) = _
    rw [Items.set, Items.set]
    by_cases hk : k = name
    · rw [if_pos hk, if_pos hk]
      rfl
    · rw [if_neg hk, if_neg hk, ih]
      rfl

theorem update_textDict :
    Items.update (textDict d) (textDict pairs) = textDict (Items.update d pairs) := by
  induction pairs generalizing d with
  | nil => rfl
  | cons h pairs ih =>
    show Items.update (Items.set h.1 (.str h.2) (textDict d)) (textDict pairs) = _
    rw [set_textDict, ih]
    rfl

theorem filter_textDict (p : String → Bool) :
    ((textDict d).filter fun kv => p kv.1) = textDict (d.filter fun h => p h.1) := by
  unfold textDict
  rw [List.filter_map]
  rfl

theorem keys_textDict : (textDict d).map Prod.fst = d.map Prod.fst := by
  unfold textDict
  rw [List.map_map]
  rfl

theorem headerTexts_textDict (d : HeaderList) : headerTexts (textDict d) = .ok d := by
  induction d with
  | nil => rfl
  | cons h d ih =>
    unfold headerTexts at ih ⊢
    show (List.mapM _ ((h.1, Json.str h.2) :: textDict d)) = _
    rw [List.mapM_cons, ih]
    rfl

theorem proper_textDict (h : (d.map Prod.fst).Nodup) : (Json.obj (textDict d)).proper = true := by
  apply proper_obj.mpr
  refine ⟨by rw [keys_textDict]; exact h, ?_⟩
  intro kv hkv
  obtain ⟨header, -, rfl⟩ := List.mem_map.mp hkv
  rfl

/-- Sorting a dictionary of texts. -/
theorem exists_sorted (h : (d.map Prod.fst).Nodup) : ∃ sorted : HeaderList,
    Json.sortObj (textDict d) = textDict sorted ∧ sorted.Perm d ∧
      (sorted.map Prod.fst).Pairwise (· < ·) := by
  -- All values are texts, so sorting the values changes nothing.
  have hentries : Json.sortedEntries (textDict d) = textDict d := by
    unfold Json.sortedEntries textDict
    rw [List.map_map]
    rfl
  have hperm : (Json.sortObj (textDict d)).Perm (textDict d) := by
    have hsort := Json.sortObj_perm (textDict d)
    rw [hentries] at hsort
    exact hsort
  -- A permutation of texts is again a list of texts.
  obtain ⟨sorted, hsorted, hd⟩ : Relation.Comp (· = List.map (fun h => (h.1, Json.str h.2)) ·)
      List.Perm (Json.sortObj (textDict d)) d := by
    rw [List.eq_map_comp_perm]
    exact hperm
  refine ⟨sorted, hsorted, hd, ?_⟩
  have hkeys : ((textDict d).map Prod.fst).Nodup := by
    rw [keys_textDict]
    exact h
  have hincreasing := Json.sortObj_increasing hkeys
  rw [hsorted] at hincreasing
  rw [← keys_textDict]
  exact hincreasing

end Texts

section Restored

variable {env : Env} {settled : Response} {cached : StoredResourceResponse}

/-- The headers that a delivery may set itself. -/
def deliveryNames : List String :=
  ["cache-control", "content-length", "content-type", "payment-response"]

theorem isLower_deliveryNames : ∀ name ∈ deliveryNames, IsLower name := by
  decide +kernel

/-- What the response of a settlement contributes. -/
def settledItems (settled : Response) : HeaderList :=
  Items.update [] (settled.headers.filter fun h => h.1 ∉ ["content-length", "content-type"])

theorem mem_keys_settledItems (hsettled : ∀ h ∈ settled.headers, h.1 ∈ deliveryNames) {name : String}
    (h : name ∈ (settledItems settled).map Prod.fst) :
    name = "cache-control" ∨ name = "payment-response" := by
  rcases Items.mem_keys_update h with hnil | hmem
  · cases hnil
  · obtain ⟨header, hheader, rfl⟩ := List.mem_map.mp hmem
    obtain ⟨hin, hnot⟩ := List.mem_filter.mp hheader
    have hname := hsettled header hin
    simp only [deliveryNames, List.mem_cons, List.not_mem_nil, or_false] at hname
    simp only [List.mem_cons, List.not_mem_nil, or_false, decide_eq_true_eq, not_or] at hnot
    rcases hname with h₁ | h₂ | h₃ | h₄
    · exact .inl h₁
    · exact absurd h₂ hnot.1
    · exact absurd h₃ hnot.2
    · exact .inr h₄

/-- The headers of the settlement, the stored ones that it leaves alone, and the
    stored content type. -/
theorem restoredHeaders_eq (hsettled : ∀ h ∈ settled.headers, h.1 ∈ deliveryNames)
    {stored : HeaderList} (hcached : cached.headers = textDict stored) (hlower : LowerNames stored)
    (hnodup : (stored.map Prod.fst).Nodup) : restoredHeaders env settled cached =
      textDict (settledItems settled ++ (stored.filter fun h => h.1 ∉ deliveryNames) ++
        [("content-type", cached.contentType)]) := by
  -- Of the stored headers those are dropped that the delivery adds itself.
  obtain ⟨kept, hkept⟩ : ∃ kept, kept = stored.filter fun h => h.1 ∉ deliveryNames := ⟨_, rfl⟩
  -- All names are in lower case, so lowering them changes none.
  have hfirst : (settled.headers.filter fun h =>
      env.unicode.lowerStr h.1 ∉ ["content-length", "content-type"]) =
      settled.headers.filter fun h => h.1 ∉ ["content-length", "content-type"] :=
    filter_lower (fun h hmem => isLower_deliveryNames _ (hsettled h hmem)) _
  have hsecond : (cached.headers.filter fun kv => env.unicode.lowerStr kv.1 ∉
      ["cache-control", "content-length", "content-type", "payment-response"]) = textDict kept := by
    rw [hcached, hkept]
    have hlowered : (stored.filter fun h => env.unicode.lowerStr h.1 ∉ deliveryNames) =
        stored.filter fun h => h.1 ∉ deliveryNames := filter_lower hlower _
    rw [← hlowered]
    exact filter_textDict fun name => env.unicode.lowerStr name ∉ deliveryNames
  have hkeptNames : ∀ name ∈ kept.map Prod.fst, name ∉ deliveryNames := by
    intro name hname
    obtain ⟨header, hheader, rfl⟩ := List.mem_map.mp hname
    rw [hkept] at hheader
    simpa using (List.mem_filter.mp hheader).2
  have hkeptNodup : (kept.map Prod.fst).Nodup := by
    rw [hkept]
    exact hnodup.sublist (List.filter_sublist.map Prod.fst)
  -- The three parts have no name in common, so nothing is overwritten.
  have hdisjoint : ∀ name ∈ kept.map Prod.fst, name ∉ (settledItems settled).map Prod.fst := by
    intro name hname hmem
    apply hkeptNames name hname
    rcases mem_keys_settledItems hsettled hmem with rfl | rfl
    · decide
    · decide
  have htype : "content-type" ∉ (settledItems settled ++ kept).map Prod.fst := by
    rw [List.map_append, List.mem_append, not_or]
    constructor
    · intro hmem
      rcases mem_keys_settledItems hsettled hmem with heq | heq
      · exact absurd heq (by decide)
      · exact absurd heq (by decide)
    · intro hmem
      exact hkeptNames _ hmem (by decide)
  unfold restoredHeaders
  rw [hfirst, hsecond]
  show Items.set _ _ (Items.update (Items.update (textDict []) (textDict _)) (textDict kept)) = _
  rw [update_textDict, update_textDict, set_textDict]
  show textDict (Items.set _ _ (Items.update (settledItems settled) kept)) = _
  rw [Items.update_of_disjoint hkeptNodup hdisjoint, Items.set_of_notMem htype, hkept]

end Restored

end XrplX402.Middleware
