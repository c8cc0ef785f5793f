import Mathlib.Data.List.Infix
import Mathlib.Data.List.Sort
import Mathlib.Data.Prod.Lex
import Mathlib.Data.String.Basic
import XrplX402.Facilitator.Rpc
import XrplX402.Interaction.Sequential
import XrplX402.Py.Base64
import XrplX402.Py.Files
import XrplX402.Py.Spaced

/-! # The catalogue of discovered resources

    `BazaarCatalog` keeps one entry for each resource in Redis, and a sorted set
    of the keys of all entries.

    * **Operations**: the commands to Redis, each atomic.
    * **Indexing and listing**: the programs over these commands.
    * **Search**: the endpoint that lists the matching entries in pages. -/

namespace XrplX402.Facilitator

open Py Interaction

/-! ## Section 1: Operations -/

/-- Entries hold JSON texts, represented by the dictionary they are read as. -/
inductive CatalogOp where
  /-- `SET key item EX seconds` -/
  | set (key : String) (item : Dict) (seconds : Nat)
  /-- `ZADD facilitator:bazaar:index 0 key` -/
  | zadd (key : String)
  /-- `ZRANGE facilitator:bazaar:index 0 -1` -/
  | zrange
  | get (key : String)
  /-- `ZREM facilitator:bazaar:index keys...` -/
  | zrem (keys : List String)
  /-- `datetime.now(UTC)`, as the text of an entry. -/
  | now
  deriving DecidableEq

abbrev CatalogRet : CatalogOp → Type
  | .set _ _ _ => Unit
  | .zadd _ => Unit
  | .zrange => List String
  | .get _ => Option Dict
  | .zrem _ => Unit
  | .now => String

abbrev CatalogProg (α : Type) := Prog CatalogOp CatalogRet FacilitatorExc α

/-- An entry with the time at which it expires. -/
structure CatalogEntry where
  item : Dict
  expiresAt : Nat

/-- All members of the sorted set have the score 0, so that they stand in the
    order of their bytes. -/
structure CatalogState where
  index : List String
  entries : String → Option CatalogEntry
  clock : Nat

/-- One command; `isoformat` writes the clock. -/
def CatalogState.perform (isoformat : Nat → String) (s : CatalogState) :
    (o : CatalogOp) → CatalogRet o × CatalogState
  | .set key item seconds =>
    ((), { s with entries := Function.update s.entries key (some ⟨item, s.clock + seconds⟩) })
  | .zadd key =>
    ((), { s with index := if key ∈ s.index then s.index else s.index.orderedInsert (· ≤ ·) key })
  | .zrange => (s.index, s)
  | .get key => ((s.entries key).map CatalogEntry.item, s)
  | .zrem keys => ((), { s with index := s.index.filter fun key => key ∉ keys })
  | .now => (isoformat s.clock, s)

/-! ## Section 2: Indexing -/

/-- What `extract_discovery_info` finds in a payment. -/
structure DiscoveryInfo where
  resourceUrl : String
  method : String
  toolName : Option String
  x402Version : Int
  description : Option String
  mimeType : Option String
  serviceName : Option String
  tags : Option (List String)
  iconUrl : Option String
  extensions : Option Dict

/-- The fields of a `DiscoveryResource`. -/
structure DiscoveryResource extends DiscoveryInfo where
  type : String
  accepts : List Dict
  lastUpdated : String

/-- Third-party functions that the catalogue uses, and the case folding of the
    running interpreter. -/
structure CatalogEnv extends Env where
  casefold : Char → List Char
  casefold_ascii : ∀ c, c.toNat < 128 → casefold c = [c.toLower]
  extractDiscoveryInfo : PaymentPayload → PaymentRequirements → Except Exc (Option DiscoveryInfo)
  /-- `DiscoveryResource.to_dict()` -/
  toDict : DiscoveryResource → Dict
  isoformat : Nat → String

variable (env : CatalogEnv)

/-- `s.casefold()` -/
def CatalogEnv.casefoldStr (s : String) : String := String.ofList (s.toList.flatMap env.casefold)

namespace BazaarCatalog

def entryKey (identity : String) : String :=
  "facilitator:bazaar:entry:" ++ env.sha256Hex identity

/-- `discovered.tool_name or ""` -/
def toolNameOf (discovered : DiscoveryInfo) : String := discovered.toolName.getD ""

def identityOf (discovered : DiscoveryInfo) : String :=
  if toolNameOf discovered ≠ "" then
    discovered.resourceUrl ++ "|tool:" ++ toolNameOf discovered
  else discovered.resourceUrl ++ "|" ++ env.unicode.upperStr discovered.method

/-- The entry of a resource. -/
def entryOf (discovered : DiscoveryInfo) (requirements : PaymentRequirements) (lastUpdated : String) :
    Dict :=
  env.toDict {
    toDiscoveryInfo := discovered
    type := if toolNameOf discovered ≠ "" then "mcp" else "http"
    accepts := [requirements.modelDump]
    lastUpdated := lastUpdated }

/-- What a payment discovers, if it can be indexed. -/
def discoveredIn (payload : PaymentPayload) (requirements : PaymentRequirements) :
    Option DiscoveryInfo :=
  match env.extractDiscoveryInfo payload requirements with
  | .ok (some discovered) => if discovered.resourceUrl = "" then none else some discovered
  | _ => none

def index (retentionSeconds : Nat) (payload : PaymentPayload) (requirements : PaymentRequirements) :
    CatalogProg Bool :=
  match discoveredIn env payload requirements with
  | none => .ret false
  | some discovered =>
    .call .now fun lastUpdated =>
    .call (.set (entryKey env (identityOf env discovered))
      (entryOf env discovered requirements lastUpdated) retentionSeconds) fun _ =>
    .call (.zadd (entryKey env (identityOf env discovered))) fun _ => .ret true

/-! ## Section 3: Listing -/

/-- The arguments of `list` apart from the page. -/
structure Filters where
  resourceType : Option String
  payTo : Option String
  scheme : Option String
  network : Option String
  extension : Option String
  query : Option String

def Filters.none : Filters := ⟨.none, .none, .none, .none, .none, .none⟩

/-- Is a filter given? An empty text is none. -/
def given (filter : Option String) : Bool := filter.getD "" ≠ ""

/-- `not filter or value == filter` -/
def passes (filter : Option String) (value : Json) : Bool :=
  given filter = false || value = .str (filter.getD "")

def acceptedPasses (filters : Filters) (accepted : Json) : Bool :=
  accepted.asDict?.any fun d =>
    passes filters.payTo (Dict.get d "payTo") && passes filters.scheme (Dict.get d "scheme") &&
      passes filters.network (Dict.get d "network")

/-- `item.get("accepts")` if it is a list. -/
def acceptsOf (item : Dict) : List Json :=
  match Dict.get item "accepts" with
  | .arr accepts => accepts
  | _ => []

/-- The filters apart from the query. -/
def passesFilters (filters : Filters) (item : Dict) : Bool :=
  passes filters.resourceType (Dict.get item "type") &&
    (!(given filters.payTo || given filters.scheme || given filters.network) ||
      (acceptsOf item).any (acceptedPasses filters)) &&
    (!given filters.extension ||
      (Dict.get item "extensions").asDict?.any fun d => Dict.has d (filters.extension.getD ""))

def searchedFields (item : Dict) : Json :=
  .obj [("resource", Dict.get item "resource"), ("description", Dict.get item "description"),
    ("mimeType", Dict.get item "mimeType"), ("serviceName", Dict.get item "serviceName"),
    ("tags", Dict.get item "tags"), ("extensions", Dict.get item "extensions")]

def searchable (item : Dict) : String := env.casefoldStr (spacedDumps (searchedFields item))

def needle (query : Option String) : String := env.casefoldStr (strip (query.getD ""))

/-- `not needle or needle in searchable` -/
def passesQuery (query : Option String) (item : Dict) : Bool :=
  needle env query = "" || decide ((needle env query).toList <:+: (searchable env item).toList)

def selects (filters : Filters) (item : Dict) : Bool :=
  passesFilters filters item && passesQuery env filters.query item

/-- The key by which the items are sorted. -/
def sortKey (item : Dict) : String ×ₗ String ×ₗ String :=
  toLex (env.casefoldStr (str env.unicode ((Dict.get? item "resource").getD (.str ""))),
    toLex (env.casefoldStr (str env.unicode ((Dict.get? item "type").getD (.str ""))),
      spacedDumps (Dict.get item "extensions")))

def sortItems (items : List Dict) : List Dict :=
  items.mergeSort fun a b => sortKey env a ≤ sortKey env b

structure Listing where
  items : List Dict
  limit : Nat
  offset : Nat
  total : Nat

/-- `items[offset : offset + limit]` and the pagination. -/
def page (limit offset : Nat) (items : List Dict) : Listing where
  items := (items.drop offset).take limit
  limit := limit
  offset := offset
  total := items.length

/-- Reads the entries of the keys; the items that are selected, and the keys
    without an entry. -/
def readEntries (filters : Filters) :
    List String → List Dict → List String → CatalogProg (List Dict × List String)
  | [], items, stale => .ret (items, stale)
  | key :: keys, items, stale =>
    .call (.get key) fun
      | none => readEntries filters keys items (stale ++ [key])
      | some item =>
        readEntries filters keys (if selects env filters item then items ++ [item] else items) stale

/-- The end of a listing: stale keys are removed. -/
def finishList (limit offset : Nat) (items : List Dict) (stale : List String) : CatalogProg Listing :=
  if stale = [] then .ret (page limit offset (sortItems env items))
  else .call (.zrem stale) fun _ => .ret (page limit offset (sortItems env items))

def list (filters : Filters) (limit offset : Nat) : CatalogProg Listing :=
  .call .zrange fun keys => do
    let read ← readEntries env filters keys [] []
    finishList env limit offset read.1 read.2

end BazaarCatalog

/-! ## Section 4: Search -/

/-- `_encode_cursor(offset)` -/
def encodeCursor (offset : Nat) : String :=
  String.ofList (urlsafeB64encode (encodeUtf8 (toString offset)))

def invalidCursor : FacilitatorExc := .http 400 "Invalid discovery cursor"

/-- `int(base64.urlsafe_b64decode(cursor.encode()).decode())` -/
def cursorInt? (unicode : UnicodeData) (cursor : String) : Option Int :=
  (urlsafeB64decode cursor.toList).bind fun bytes =>
    (decodeUtf8 bytes).bind fun text => (intOfStr unicode text).toOption

/-- `_decode_cursor(cursor)` -/
def decodeCursor (unicode : UnicodeData) (cursor : Option String) : Except FacilitatorExc Nat :=
  if cursor.getD "" = "" then .ok 0
  else
    match cursorInt? unicode (cursor.getD "") with
    | some offset => .ok offset.toNat
    | none => .error invalidCursor

structure SearchResponse where
  resources : List Dict
  partialResults : Bool
  limit : Nat
  cursor : Option String

/-- The answer of a search whose page starts at `offset`. -/
def searchResponse (offset : Nat) (listing : BazaarCatalog.Listing) : SearchResponse where
  resources := listing.items
  partialResults := offset + listing.items.length < listing.total
  limit := listing.limit
  cursor :=
    if offset + listing.items.length < listing.total then
      some (encodeCursor (offset + listing.items.length))
    else none

/-- `GET /discovery/search` with parameters that the framework has accepted. -/
def discoverySearch (enableBazaar : Bool) (filters : BazaarCatalog.Filters) (limit : Nat)
    (cursor : Option String) : CatalogProg SearchResponse :=
  if enableBazaar = false then .raise (.http 404 "Bazaar discovery is disabled")
  else do
    let offset ← .ofExcept (decodeCursor env.unicode cursor)
    let listing ← BazaarCatalog.list env filters limit offset
    return searchResponse offset listing

end XrplX402.Facilitator
