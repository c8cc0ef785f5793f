import XrplX402.Core.Helpers

/-! # Authoritative resources

    A paid invocation is tied to the resource that the server protects and to an
    identity: for HTTP the method, the address and the body, for a tool its name
    and its arguments.

    * `resolveHttpAuthoritativeResource`: a request that matches a paid route.
    * `mcpInvocationResource`: a call of a paid tool. -/

namespace XrplX402.Middleware

open Py

variable {env : Env}

def safeMethods : List String := ["GET", "HEAD", "OPTIONS"]

structure AuthoritativeResource where
  resource : ResourceInfo
  identity : String
  deriving DecidableEq

/-! ## Section 1: HTTP -/

/-- The part of an incoming request that its identity is made of. -/
structure Request where
  method : String
  /-- `str(request.url)` -/
  url : String
  body : List UInt8
  deriving DecidableEq

/-- What a route says about its resource. -/
structure RouteConfig where
  resource : Option String
  description : Option String
  mimeType : Option String
  serviceName : Option String
  tags : Option (List String)
  iconUrl : Option String

/-- `a or b` for strings. -/
def orElse (a : Option String) (b : String) : String := (a.filter (· ≠ "")).getD b

def Request.upperMethod (env : Env) (request : Request) : String :=
  env.unicode.upperStr request.method

/-- The body of a request with a safe method is not read. -/
def Request.identityBody (env : Env) (request : Request) : List UInt8 :=
  if request.upperMethod env ∉ safeMethods then request.body else []

def httpInvocation (env : Env) (request : Request) : Dict :=
  [("bodySha256", .str (hexdigest (env.sha256 (request.identityBody env)))),
    ("method", .str (request.upperMethod env)), ("url", .str request.url)]

def httpIdentity (env : Env) (request : Request) : String :=
  "http:" ++ request.upperMethod env ++ ":" ++ env.sha256Hex (dumps (.obj (httpInvocation env request)))

/-- `_resolve_http_authoritative_resource`, with the route that matched. -/
def resolveHttpAuthoritativeResource (env : Env) (request : Request) (route : Option RouteConfig) :
    Option AuthoritativeResource :=
  route.map fun config => {
    resource := {
      url := orElse config.resource request.url
      description := some (orElse config.description "")
      mimeType := some (orElse config.mimeType "")
      serviceName := config.serviceName
      tags := config.tags
      iconUrl := config.iconUrl }
    identity := httpIdentity env request }

/-! ## Section 2: Tools -/

/-- `_mcp_authoritative_resource` -/
def mcpAuthoritativeResource (toolName : String) (configured : Option ResourceInfo) :
    AuthoritativeResource where
  resource := configured.getD {
    url := "mcp://tool/" ++ toolName
    description := some ("Tool: " ++ toolName)
    mimeType := some "application/json"
    serviceName := none
    tags := none
    iconUrl := none }
  identity := "mcp:" ++ toolName

/-- The arguments of a call without its context. -/
def mcpArguments (kwargs : Dict) : Dict := Dict.pop kwargs "ctx"

/-- `_mcp_invocation_resource` -/
def mcpInvocationResource (env : Env) (authoritative : AuthoritativeResource) (kwargs : Dict) :
    AuthoritativeResource where
  resource := authoritative.resource
  identity := authoritative.identity ++ ":" ++ env.sha256Hex (dumps (.obj (mcpArguments kwargs)))

/-- The identity of a call of a tool. -/
def mcpIdentity (env : Env) (toolName : String) (configured : Option ResourceInfo) (kwargs : Dict) :
    String :=
  (mcpInvocationResource env (mcpAuthoritativeResource toolName configured) kwargs).identity

/-! ## Section 3: Digests inside identities -/

/-- A digest contains no colon. -/
theorem colon_notMem_sha256Hex (env : Env) (s : String) : ':' ∉ (env.sha256Hex s).toList := by
  have hall : ∀ c ∈ hexDigitChars, c ≠ ':' := List.all_iff_forall_prop.mp (by decide)
  intro hmem
  unfold Env.sha256Hex hexdigest at hmem
  rw [String.toList_ofList] at hmem
  exact hall ':' (hexChars_mem hmem) rfl

/-- What stands before the last colon, and what stands after it. -/
theorem eq_of_lastColon {a b d e : String} (hd : ':' ∉ d.toList) (he : ':' ∉ e.toList)
    (h : a ++ ":" ++ d = b ++ ":" ++ e) : a = b ∧ d = e := by
  have hlist : d.toList.reverse ++ ':' :: a.toList.reverse = e.toList.reverse ++ ':' :: b.toList.reverse := by
    have htexts := congrArg (fun s : String => s.toList.reverse) h
    simpa [String.toList_append] using htexts
  obtain ⟨hdigest, hname⟩ := eq_of_append_cons (by simpa using hd) (by simpa using he) hlist
  exact ⟨String.toList_injective (List.reverse_injective hname),
    String.toList_injective (List.reverse_injective hdigest)⟩

theorem sha256Hex_dumps_inj (hinj : Function.Injective env.sha256) {a b : Json}
    (h : env.sha256Hex (dumps a) = env.sha256Hex (dumps b)) : a.sortKeys = b.sortKeys :=
  sortKeys_eq_of_digest_eq hinj h

end XrplX402.Middleware
