import XrplX402.Middleware.Resource
import XrplX402.Payer.OnePayload

/-! # Canonical identities

    Every identity is a digest of a canonical JSON text. Two inputs have one
    identity exactly when they agree after the normalization of the caller.

    * `SameJson`: equal up to the order of object keys.
    * `identities_eq_iff`: the five identities.
    * `httpIdentity_ignores_body`: reads of one address share an identity. -/

namespace XrplX402

open Py Payer Middleware

variable {env : Env}

/-! ## Section 1: Values up to the order of keys -/

def SameJson (a b : Json) : Prop := a.sortKeys = b.sortKeys

/-- Entries under the same keys, with the same values. -/
def SameEntries : Dict → Dict → Prop :=
  List.Forall₂ fun a b => a.1 = b.1 ∧ SameJson a.2 b.2

theorem sameJson_iff_of_digest (hinj : Function.Injective env.sha256) {a b : Json} :
    env.sha256Hex (dumps a) = env.sha256Hex (dumps b) ↔ SameJson a b := by
  constructor
  · exact sha256Hex_dumps_inj hinj
  · intro h
    unfold dumps
    rw [h]

theorem sameJson_of_entries {d e : Dict} (h : SameEntries d e) : SameJson (.obj d) (.obj e) := by
  unfold SameJson Json.sortKeys
  congr 1
  induction h with
  | nil => rfl
  | @cons a b d e hab _ ih =>
    obtain ⟨k, v⟩ := a
    obtain ⟨l, w⟩ := b
    obtain ⟨hkl, hvw⟩ := hab
    unfold Json.sortObj
    rw [ih, show k = l from hkl, show v.sortKeys = w.sortKeys from hvw]

theorem sameJson_null_iff {v w : Json} (h : SameJson v w) : v = .null ↔ w = .null := by
  rw [← Json.sortKeys_null, ← Json.sortKeys_null (j := w), show v.sortKeys = w.sortKeys from h]

/-- Fields that are `None` are the same as absent ones on both sides. -/
theorem sameEntries_excludeNone {d e : Dict} (h : SameEntries d e) :
    SameEntries (excludeNone d) (excludeNone e) := by
  unfold excludeNone
  induction h with
  | nil => exact .nil
  | @cons a b d e hab _ ih =>
    by_cases hnull : a.2 = .null
    · have hnull' : b.2 = .null := (sameJson_null_iff hab.2).mp hnull
      rw [List.filter_cons_of_neg (by simpa using hnull), List.filter_cons_of_neg (by simpa using hnull')]
      exact ih
    · have hnull' : b.2 ≠ .null := fun hb => hnull ((sameJson_null_iff hab.2).mpr hb)
      rw [List.filter_cons_of_pos (by simpa using hnull), List.filter_cons_of_pos (by simpa using hnull')]
      exact .cons hab ih

theorem sameJson_of_requirements {r s : PaymentRequirements} (h : SameRequirements r s) :
    SameJson (.obj r.modelDump) (.obj s.modelDump) := by
  apply sameJson_of_entries
  apply sameEntries_excludeNone
  rw [h.scheme, h.network, h.asset, h.amount, h.payTo, h.maxTimeoutSeconds]
  exact .cons ⟨rfl, rfl⟩ (.cons ⟨rfl, rfl⟩ (.cons ⟨rfl, rfl⟩ (.cons ⟨rfl, rfl⟩ (.cons ⟨rfl, rfl⟩
    (.cons ⟨rfl, rfl⟩ (.cons ⟨rfl, h.extra⟩ .nil))))))

/-! ## Section 2: Requests -/

/-- The method of a request in capital letters; an empty one is the same as none. -/
def normalMethod (env : Env) (method : Option String) : Option String :=
  (method.filter (· ≠ "")).map env.unicode.upperStr

/-- What `requirements_fingerprint` distinguishes. -/
structure SameRequest (env : Env) (p q : PaymentPayload) (r s : PaymentRequirements)
    (m n : Option String) (a b : Option ResourceInfo) (i j : Option String) : Prop where
  requirements : SameRequirements r s
  payload : SameJson (.obj p.payload) (.obj q.payload)
  resource : a.or p.resource = b.or q.resource
  extensions : SameJson (optDict p.extensions) (optDict q.extensions)
  method : normalMethod env m = normalMethod env n
  identity : i = j

theorem method_of_fingerprint (hinj : Function.Injective env.sha256) {p q : PaymentPayload}
    {r s : PaymentRequirements} {m n : Option String} {a b : Option ResourceInfo}
    {i j : Option String}
    (h : requirementsFingerprint env p r m a i = requirementsFingerprint env q s n b j) :
    normalMethod env m = normalMethod env n := by
  have hget := Json.sortKeys_get (sha256Hex_dumps_inj hinj h) "method"
  have entry : ∀ (p : PaymentPayload) (r : PaymentRequirements) m a i,
      Dict.get (normalizedRequest env p r m a i) "method" = optStr (normalMethod env m) := by
    intro p r m a i
    cases i <;> simp [normalizedRequest, normalMethod, Dict.get, Dict.get?_cons]
  rw [entry, entry] at hget
  exact optStr_injective (by simpa using hget)

theorem requirementsFingerprint_eq_iff (hinj : Function.Injective env.sha256) {p q : PaymentPayload}
    {r s : PaymentRequirements} {m n : Option String} {a b : Option ResourceInfo}
    {i j : Option String} :
    requirementsFingerprint env p r m a i = requirementsFingerprint env q s n b j ↔
      SameRequest env p q r s m n a b i j := by
  constructor
  · intro h
    obtain ⟨hreq, hpayload, hresource, hextensions, hidentity⟩ := request_eq_of_fingerprint hinj h
    exact ⟨hreq, hpayload, hresource, hextensions, method_of_fingerprint hinj h, hidentity⟩
  · intro h
    apply (sameJson_iff_of_digest hinj).mpr
    apply sameJson_of_entries
    have hmethod : (m.filter (· ≠ "")).map env.unicode.upperStr =
        (n.filter (· ≠ "")).map env.unicode.upperStr := h.method
    unfold normalizedRequest
    rw [h.identity, h.resource, hmethod]
    apply List.rel_append
    · exact .cons ⟨rfl, sameJson_of_requirements h.requirements⟩ (.cons ⟨rfl, h.payload⟩
        (.cons ⟨rfl, rfl⟩ (.cons ⟨rfl, h.extensions⟩ (.cons ⟨rfl, rfl⟩ .nil))))
    · cases j with
      | none => exact .nil
      | some j => exact .cons ⟨rfl, rfl⟩ .nil

/-! ## Section 3: Headers -/

instance : Std.Antisymm pairLe where
  antisymm a b hab hba := by
    rcases hab with hlt | ⟨heq, hle⟩
    · rcases hba with hlt' | ⟨heq', -⟩
      · exact absurd (hlt.trans hlt') (lt_irrefl _)
      · exact absurd (heq' ▸ hlt) (lt_irrefl _)
    · rcases hba with hlt' | ⟨-, hle'⟩
      · exact absurd (heq ▸ hlt') (lt_irrefl _)
      · exact Prod.ext heq (le_antisymm hle hle')

instance : Std.Total pairLe where
  total a b := by
    rcases lt_trichotomy a.1 b.1 with hlt | heq | hgt
    · exact .inl (.inl hlt)
    · rcases le_total a.2 b.2 with hle | hle
      · exact .inl (.inr ⟨heq, hle⟩)
      · exact .inr (.inr ⟨heq.symm, hle⟩)
    · exact .inr (.inl hgt)

instance : IsTrans (String × String) pairLe where
  trans a b c hab hbc := by
    rcases hab with hlt | ⟨heq, hle⟩
    · rcases hbc with hlt' | ⟨heq', -⟩
      · exact .inl (hlt.trans hlt')
      · exact .inl (heq' ▸ hlt)
    · rcases hbc with hlt' | ⟨heq', hle'⟩
      · exact .inl (heq ▸ hlt')
      · exact .inr ⟨heq.trans heq', hle.trans hle'⟩

/-- The headers of a request, their names in small letters and without the two
    payment headers. -/
def normalHeaders (E : PayerEnv) (headers : List (String × String)) : List (String × String) :=
  (headers.map fun kv => (E.unicode.lowerStr kv.1, kv.2)).filter fun kv => ¬ isPaymentHeader kv.1

/-- Sorting forgets the order and nothing else. -/
theorem fingerprintHeaders_eq_iff {E : PayerEnv} {headers headers' : List (String × String)} :
    fingerprintHeaders E headers = fingerprintHeaders E headers' ↔
      (normalHeaders E headers).Perm (normalHeaders E headers') := by
  unfold fingerprintHeaders
  constructor
  · intro h
    have hsorted := List.perm_insertionSort pairLe (normalHeaders E headers)
    exact hsorted.symm.trans (List.Perm.trans (.of_eq h) (List.perm_insertionSort pairLe _))
  · intro h
    apply List.Perm.eq_of_pairwise' (r := pairLe)
    · exact List.pairwise_insertionSort pairLe _
    · exact List.pairwise_insertionSort pairLe _
    · exact (List.perm_insertionSort pairLe _).trans (h.trans (List.perm_insertionSort pairLe _).symm)

def headersJson (headers : List (String × String)) : Json :=
  .arr (headers.map fun kv => .arr [.str kv.1, .str kv.2])

theorem headersJson_inj {headers headers' : List (String × String)} :
    SameJson (headersJson headers) (headersJson headers') ↔ headers = headers' := by
  have hsort : ∀ hs : List (String × String), Json.sortArr (hs.map fun kv => .arr [.str kv.1, .str kv.2]) =
      hs.map fun kv => .arr [.str kv.1, .str kv.2] := by
    intro hs
    induction hs with
    | nil => rfl
    | cons kv hs ih =>
      rw [List.map_cons, Json.sortArr, ih]
      rfl
  have hinj : Function.Injective (List.map fun kv : String × String => Json.arr [.str kv.1, .str kv.2]) := by
    apply List.map_injective_iff.mpr
    intro kv kv' h
    simp only [Json.arr.injEq, List.cons.injEq, Json.str.injEq, and_true] at h
    exact Prod.ext h.1 h.2
  unfold SameJson headersJson Json.sortKeys
  rw [Json.arr.injEq, hsort, hsort]
  exact hinj.eq_iff

/-! ## Section 4: Paid requests and tool calls -/

/-- What `_request_fingerprint` distinguishes. -/
structure SameHttpRequest (E : PayerEnv) (payer payer' url url' : String) (a b : PayArgs) : Prop where
  payer : payer = payer'
  url : url = url'
  method : E.unicode.upperStr a.method = E.unicode.upperStr b.method
  body : a.content.getD [] = b.content.getD []
  headers : (normalHeaders E a.headers).Perm (normalHeaders E b.headers)

theorem bodyDigest_eq_iff (hinj : Function.Injective env.sha256) {body body' : List UInt8} :
    hexdigest (env.sha256 body) = hexdigest (env.sha256 body') ↔ body = body' :=
  (hexdigest_injective.comp hinj).eq_iff

theorem canonicalRequest_eq_iff {E : PayerEnv} (hinj : Function.Injective E.sha256)
    {payer payer' url url' : String} {a b : PayArgs} :
    SameJson (.obj (canonicalRequest E payer url a)) (.obj (canonicalRequest E payer' url' b)) ↔
      SameHttpRequest E payer payer' url url' a b := by
  constructor
  · intro h
    have hget := Json.sortKeys_get h
    constructor
    · simpa [canonicalRequest, Dict.get, Dict.get?_cons] using hget "payer"
    · simpa [canonicalRequest, Dict.get, Dict.get?_cons] using hget "url"
    · simpa [canonicalRequest, Dict.get, Dict.get?_cons] using hget "method"
    · apply (bodyDigest_eq_iff hinj).mp
      simpa [canonicalRequest, Dict.get, Dict.get?_cons] using hget "bodySha256"
    · apply fingerprintHeaders_eq_iff.mp
      apply headersJson_inj.mp
      simpa [canonicalRequest, headersJson, Dict.get, Dict.get?_cons, SameJson] using hget "headers"
  · intro h
    have hheaders := fingerprintHeaders_eq_iff.mpr h.headers
    unfold canonicalRequest
    rw [h.payer, h.url, h.method, h.body, hheaders]
    rfl

theorem requestFingerprint_eq_iff {E : PayerEnv} (hinj : Function.Injective E.sha256)
    {payer payer' url url' : String} {a b : PayArgs} (ha : E.canonicalUrl a.url = .ok url)
    (hb : E.canonicalUrl b.url = .ok url') :
    requestFingerprint E payer a = requestFingerprint E payer' b ↔
      SameHttpRequest E payer payer' url url' a b := by
  unfold requestFingerprint
  rw [ha, hb]
  show (Except.ok _ : Except Exc String) = Except.ok _ ↔ _
  rw [Except.ok.injEq]
  exact (sameJson_iff_of_digest hinj).trans (canonicalRequest_eq_iff hinj)

/-- What `_mcp_request_fingerprint` distinguishes. -/
structure SameToolCall (client client' : XRPLMCPClient) (name name' : String) (args args' : Dict)
    (resource resource' : Option ResourceInfo) : Prop where
  payer : client.payerAccount = client'.payerAccount
  recoveryScope : client.recoveryScope = client'.recoveryScope
  tool : name = name'
  arguments : SameJson (.obj args) (.obj args')
  resource : resource = resource'

theorem mcpRequestFingerprint_eq_iff (hinj : Function.Injective env.sha256)
    {client client' : XRPLMCPClient} {name name' : String} {args args' : Dict}
    {resource resource' : Option ResourceInfo} :
    mcpRequestFingerprint env client name args resource =
        mcpRequestFingerprint env client' name' args' resource' ↔
      SameToolCall client client' name name' args args' resource resource' := by
  apply (sameJson_iff_of_digest hinj).trans
  constructor
  · intro h
    have hget := Json.sortKeys_get h
    constructor
    · simpa [Dict.get, Dict.get?_cons] using hget "payer"
    · simpa [Dict.get, Dict.get?_cons] using hget "recoveryScopeSha256"
    · simpa [Dict.get, Dict.get?_cons] using hget "tool"
    · simpa [Dict.get, Dict.get?_cons, SameJson] using hget "arguments"
    · apply resource_eq_of_optDict
      simpa [Dict.get, Dict.get?_cons] using hget "resource"
  · intro h
    rw [h.payer, h.recoveryScope, h.tool, h.resource]
    apply sameJson_of_entries
    exact .cons ⟨rfl, h.arguments⟩ (.cons ⟨rfl, rfl⟩ (.cons ⟨rfl, rfl⟩ (.cons ⟨rfl, rfl⟩
      (.cons ⟨rfl, rfl⟩ .nil))))

/-! ## Section 5: Invocations of paid resources -/

/-- What the identity of an HTTP invocation distinguishes. -/
structure SameInvocation (env : Env) (x y : Request) : Prop where
  method : x.upperMethod env = y.upperMethod env
  url : x.url = y.url
  /-- The body of a request with a safe method does not belong to it. -/
  body : x.upperMethod env ∉ safeMethods → x.body = y.body

theorem httpInvocation_eq_iff (hinj : Function.Injective env.sha256) {x y : Request} :
    SameJson (.obj (httpInvocation env x)) (.obj (httpInvocation env y)) ↔
      SameInvocation env x y := by
  constructor
  · intro h
    have hget := Json.sortKeys_get h
    have hmethod : x.upperMethod env = y.upperMethod env := by
      simpa [httpInvocation, Dict.get, Dict.get?_cons] using hget "method"
    have hbody : x.identityBody env = y.identityBody env := by
      apply (bodyDigest_eq_iff hinj).mp
      simpa [httpInvocation, Dict.get, Dict.get?_cons] using hget "bodySha256"
    refine ⟨hmethod, ?_, fun heffects => ?_⟩
    · simpa [httpInvocation, Dict.get, Dict.get?_cons] using hget "url"
    · unfold Request.identityBody at hbody
      rwa [if_pos heffects, if_pos (hmethod ▸ heffects)] at hbody
  · intro h
    have hbody : x.identityBody env = y.identityBody env := by
      unfold Request.identityBody
      rw [← h.method]
      split
      · next heffects => exact h.body heffects
      · rfl
    unfold httpInvocation
    rw [hbody, h.method, h.url]
    rfl

theorem httpIdentity_eq_iff (hinj : Function.Injective env.sha256) {x y : Request} :
    httpIdentity env x = httpIdentity env y ↔ SameInvocation env x y := by
  constructor
  · intro h
    obtain ⟨-, hdigest⟩ := eq_of_lastColon (colon_notMem_sha256Hex env _)
      (colon_notMem_sha256Hex env _) h
    exact (httpInvocation_eq_iff hinj).mp ((sameJson_iff_of_digest hinj).mp hdigest)
  · intro h
    have hdigest := (sameJson_iff_of_digest hinj).mpr ((httpInvocation_eq_iff hinj).mpr h)
    unfold httpIdentity
    rw [hdigest, h.method]

theorem mcpIdentity_eq_iff (hinj : Function.Injective env.sha256) {tool tool' : String}
    {configured configured' : Option ResourceInfo} {kwargs kwargs' : Dict} :
    mcpIdentity env tool configured kwargs = mcpIdentity env tool' configured' kwargs' ↔
      tool = tool' ∧ SameJson (.obj (mcpArguments kwargs)) (.obj (mcpArguments kwargs')) := by
  constructor
  · intro h
    obtain ⟨hname, hdigest⟩ := eq_of_lastColon (colon_notMem_sha256Hex env _)
      (colon_notMem_sha256Hex env _) h
    refine ⟨?_, (sameJson_iff_of_digest hinj).mp hdigest⟩
    have hlist := congrArg String.toList hname
    simp only [mcpAuthoritativeResource, String.toList_append] at hlist
    exact String.toList_injective (List.append_cancel_left hlist)
  · rintro ⟨rfl, hargs⟩
    have hdigest := (sameJson_iff_of_digest hinj).mpr hargs
    unfold mcpIdentity mcpInvocationResource
    rw [hdigest]
    rfl

/-! ## Section 6: All identities -/

/-- Each identity distinguishes what it is meant to distinguish, and nothing else. -/
theorem identities_eq_iff (E : PayerEnv) (hinj : Function.Injective E.sha256) :
    (∀ p q r s m n a b i j,
      requirementsFingerprint E.toEnv p r m a i = requirementsFingerprint E.toEnv q s n b j ↔
        SameRequest E.toEnv p q r s m n a b i j) ∧
    (∀ payer payer' url url' a b, E.canonicalUrl a.url = .ok url → E.canonicalUrl b.url = .ok url' →
      (requestFingerprint E payer a = requestFingerprint E payer' b ↔
        SameHttpRequest E payer payer' url url' a b)) ∧
    (∀ client client' name name' args args' resource resource',
      mcpRequestFingerprint E.toEnv client name args resource =
          mcpRequestFingerprint E.toEnv client' name' args' resource' ↔
        SameToolCall client client' name name' args args' resource resource') ∧
    (∀ x y, httpIdentity E.toEnv x = httpIdentity E.toEnv y ↔ SameInvocation E.toEnv x y) ∧
    (∀ tool tool' configured configured' kwargs kwargs',
      mcpIdentity E.toEnv tool configured kwargs = mcpIdentity E.toEnv tool' configured' kwargs' ↔
        tool = tool' ∧ SameJson (.obj (mcpArguments kwargs)) (.obj (mcpArguments kwargs'))) := by
  refine ⟨fun p q r s m n a b i j => requirementsFingerprint_eq_iff hinj,
    fun payer payer' url url' a b ha hb => requestFingerprint_eq_iff hinj ha hb,
    fun client client' name name' args args' resource resource' => mcpRequestFingerprint_eq_iff hinj,
    fun x y => httpIdentity_eq_iff hinj,
    fun tool tool' configured configured' kwargs kwargs' => mcpIdentity_eq_iff hinj⟩

namespace Sample

open Payer.Sample

def orderUrl : String := "https://merchant.example/order"

/-- The text of an invocation that is hashed. -/
def invocationText (bodySha256 method : String) : String :=
  "\x7b\"bodySha256\":\"" ++ bodySha256 ++ "\",\"method\":\"" ++ method ++ "\",\"url\":\"" ++ orderUrl ++
    "\"\x7d"

def firstBody : String := "\x7b\"n\":1\x7d"

def secondBody : String := "\x7b\"n\":2\x7d"

/-- SHA-256 digests of the two bodies and of their invocations. -/
def orderDigests : List (String × List UInt8) :=
  [(firstBody,
      [43, 253, 20, 244, 61, 23, 252, 124, 234, 36, 224, 145, 122, 136, 121, 180, 178, 248, 128, 184,
        186, 238, 193, 185, 217, 15, 186, 173, 101, 94, 113, 189]),
    (secondBody,
      [54, 51, 121, 116, 47, 128, 181, 27, 219, 146, 6, 87, 154, 247, 117, 73, 17, 84, 48, 121, 185,
        57, 156, 179, 252, 49, 95, 177, 153, 244, 118, 232]),
    (invocationText "2bfd14f43d17fc7cea24e0917a8879b4b2f880b8baeec1b9d90fbaad655e71bd" "POST",
      [33, 170, 113, 231, 195, 76, 123, 0, 34, 139, 45, 43, 93, 87, 176, 199, 67, 164, 31, 139, 226,
        227, 155, 83, 128, 103, 75, 51, 97, 57, 205, 222]),
    (invocationText "363379742f80b51bdb9206579af7754911543079b9399cb3fc315fb199f476e8" "POST",
      [111, 187, 57, 101, 12, 86, 212, 86, 173, 187, 173, 98, 34, 193, 251, 216, 100, 165, 45, 162,
        66, 104, 126, 194, 14, 215, 192, 138, 78, 90, 236, 190])]

def orderEnv : PayerEnv := { sampleEnv with sha256 := tableHash orderDigests }

theorem orderEnv_injective : Function.Injective orderEnv.sha256 :=
  tableHash_injective (by decide) (by decide +kernel)

/-- The request for the order, with this method and this body. -/
def order (method body : String) : Request := ⟨method, orderUrl, encodeUtf8 body⟩

end Sample

/-- The body of a read is left out of its identity, whatever it says. -/
theorem httpIdentity_ignores_body :
    ∃ env : Env, Function.Injective env.sha256 ∧
      httpIdentity env (Sample.order "GET" Sample.firstBody) =
        httpIdentity env (Sample.order "GET" Sample.secondBody) ∧
      Sample.order "GET" Sample.firstBody ≠ Sample.order "GET" Sample.secondBody := by
  refine ⟨Sample.orderEnv.toEnv, Sample.orderEnv_injective, ?_, by decide +kernel⟩
  apply (httpIdentity_eq_iff Sample.orderEnv_injective).mpr
  have hsafe : (Sample.order "GET" Sample.firstBody).upperMethod Sample.orderEnv.toEnv ∈ safeMethods := by
    decide +kernel
  exact ⟨rfl, rfl, fun heffects => absurd hsafe heffects⟩

/-- Two orders with different bodies have different identities. -/
theorem identities_eq_iff_sample :
    httpIdentity Sample.orderEnv.toEnv (Sample.order "POST" Sample.firstBody) ≠
      httpIdentity Sample.orderEnv.toEnv (Sample.order "POST" Sample.secondBody) := by
  intro h
  have hiff := (identities_eq_iff Sample.orderEnv Sample.orderEnv_injective).2.2.2.1
  have hsame := (hiff (Sample.order "POST" Sample.firstBody) (Sample.order "POST" Sample.secondBody)).mp h
  have hbody : (Sample.order "POST" Sample.firstBody).body = (Sample.order "POST" Sample.secondBody).body :=
    hsame.body (by decide +kernel)
  exact absurd hbody (by decide +kernel)

end XrplX402
