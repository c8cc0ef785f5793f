import XrplX402.Middleware.Buffering

/-! # Paid requests with a response store

    The hooks that surround a protected handler, for HTTP and for tools, as one
    program for each request: what follows the verification of its payment, up
    to the settlement.

    * `recoverCachedAuthorization`, `recoverHandler`: the hooks of the HTTP server.
    * `loadCachedResponse`, `recoverable`: those of the tool wrapper.
    * `PaidCall.run`: a request after its verification. -/

namespace XrplX402.Middleware

open Py Interaction Prog

variable {env : Env}

/-! ## Section 1: Hooks of the HTTP server -/

/-- `_STALE_AUTHORIZATION_FAILURES` -/
def staleAuthorizationFailures : List String :=
  ["invalid_exact_xrpl_payload_sequence_not_current",
    "invalid_exact_xrpl_payload_ticket_not_available"]

/-- `_is_stale_authorization_failure` -/
def isStaleAuthorizationFailure (reason : Option String) : Bool :=
  reason.any fun reason => reason ∈ staleAuthorizationFailures

/-- `_requires_response_recovery`: the identity of an HTTP resource has three
    parts. -/
def requiresResponseRecovery : Option AuthoritativeResource → Except Exc Bool
  | none => .ok false
  | some authoritative =>
    if authoritative.identity.startsWith "http:" then
      match partition ':' (partition ':' authoritative.identity).2.2 with
      | (method, true, _) => .ok (method ∉ safeMethods)
      | (_, false, _) => .error (valueError "not enough values to unpack (expected 3, got 2)")
    else .ok false

/-- `response_store.get`, or the text of its `ValueError`. -/
def lookupCached (env : Env) (q : PaidRequest) :
    Service (Except String (Option StoredResourceResponse)) :=
  catchValueError (do return .ok (← RedisResourceResponseStore.get env q)) fun e =>
    .ret (.error e.text)

/-- `response_store.bind`, or the text of its `ValueError`. -/
def acquireBinding (env : Env) (store : RedisResourceResponseStore) (q : PaidRequest) :
    Service (Except String Bool) :=
  catchValueError (do return .ok (← store.bind env q)) fun e => .ret (.error e.text)

/-- What the hooks after a verification decide. -/
inductive AfterVerify where
  | proceed
  | skip (cached : StoredResourceResponse)
  /-- The identifier belongs to another request. -/
  | conflict (message : String)
  | abort (reason : String)

/-- `require_declared_payment_identifier` on a route that declares it required. -/
def requireDeclaredPaymentIdentifier (env : Env) (payload : PaymentPayload) : Option String :=
  match env.validatePaymentIdentifierRequirement payload with
  | .error _ => some "invalid_payment_identifier"
  | .ok () =>
    match env.extractAndValidatePaymentIdentifier payload with
    | .ok (some _) => none
    | _ => some "invalid_payment_identifier"

/-- `recover_handler` -/
def recoverHandler (env : Env) (store : RedisResourceResponseStore) (q : PaidRequest) :
    Service AfterVerify := do
  if ← check (requiresResponseRecovery q.authoritative) then
    match ← lookupCached env q with
    | .error message => return .conflict message
    | .ok (some cached) => return .skip cached
    | .ok none =>
      match ← acquireBinding env store q with
      | .error message => return .conflict message
      | .ok true => return .proceed
      | .ok false => return .abort "payment_identifier_in_progress"
  else return .proceed

/-- What `recover_cached_authorization` makes of a failed verification. -/
inductive Recovery where
  | recovered
  | conflict (message : String)
  | failed

/-- `recover_cached_authorization` -/
def recoverCachedAuthorization (env : Env) (q : PaidRequest) (error : String) : Service Recovery := do
  if isStaleAuthorizationFailure (some error) then
    if ← check (requiresResponseRecovery q.authoritative) then
      match ← lookupCached env q with
      | .error message => return .conflict message
      | .ok none => return .failed
      | .ok (some _) => return .recovered
    else return .failed
  else return .failed

/-! ## Section 2: Hooks of the tool wrapper -/

/-- `load_cached_response`: `none` when the tool must not run. -/
def loadCachedResponse (env : Env) (store : RedisResourceResponseStore) (q : PaidRequest) :
    Service (Option (Option StoredResourceResponse)) := do
  if q.authoritative = none then return none
  else
    match ← lookupCached env q with
    | .error _ => return none
    | .ok (some cached) => return some (some cached)
    | .ok none =>
      match ← acquireBinding env store q with
      | .ok true => return some none
      | _ => return none

def toolResponse (result : ToolResult) : StoredResourceResponse where
  statusCode := 200
  contentType := if result.value.asDict?.isSome then "application/json" else "text/plain"
  body := .value result.value
  headers := []

/-- `recoverable` without a cached response. -/
def runTool (env : Env) (store : RedisResourceResponseStore) (q : PaidRequest) : Service Json := do
  match ← check (← perform .tool) with
  | none => throw (typeError "recoverable paid MCP tools must return a dict or string")
  | some result =>
    store.put env q (toolResponse result)
    return result.value

/-! ## Section 3: Requests -/

/-- How a request has ended before its settlement. -/
inductive Outcome where
  /-- The payment is refused, or its handler is running. -/
  | refused
  /-- 409 -/
  | conflict (message : String)
  /-- The response of the HTTP application. -/
  | responded (response : Response)
  /-- The result of the tool. -/
  | returned (result : Json)
  /-- The handler is skipped in favour of a stored response. -/
  | replayed (cached : StoredResourceResponse)

/-- The hooks after the verification of an HTTP request, and its handler. -/
def afterVerifyHttp (env : Env) (store : RedisResourceResponseStore) (method : String)
    (q : PaidRequest) : Service Outcome :=
  match requireDeclaredPaymentIdentifier env q.payload with
  | some _ => .ret .refused
  | none => do
    match ← recoverHandler env store q with
    | .proceed => return .responded (← bufferedCallNext env (some store) method q)
    | .skip cached => return .replayed cached
    | .conflict message => return .conflict message
    | .abort _ => return .refused

/-- An HTTP request whose verification has failed for the given reason, if it
    has. -/
def httpCall (env : Env) (store : RedisResourceResponseStore) (failure : Option String)
    (method : String) (q : PaidRequest) : Service Outcome :=
  match failure with
  | none => afterVerifyHttp env store method q
  | some reason => do
    match ← recoverCachedAuthorization env q reason with
    | .recovered => afterVerifyHttp env store method q
    | .conflict message => return .conflict message
    | .failed => return .refused

/-- The hook before a tool, and the tool. -/
def executeTool (env : Env) (store : RedisResourceResponseStore) (q : PaidRequest) :
    Service Outcome := do
  match ← loadCachedResponse env store q with
  | none => return .refused
  | some (some cached) => return .replayed cached
  | some none => return .returned (← runTool env store q)

/-- A call of a tool, with `verify_payment` of the capturing server. -/
def toolCall (env : Env) (store : RedisResourceResponseStore) (failure : Option String)
    (q : PaidRequest) : Service Outcome :=
  match failure with
  | none => executeTool env store q
  | some reason =>
    if isStaleAuthorizationFailure (some reason) ∧ q.authoritative ≠ none then do
      match ← lookupCached env q with
      | .ok (some _) => executeTool env store q
      | _ => return .refused
    else .ret .refused

/-- What is paid for. -/
inductive Invocation where
  | http (request : Request) (route : RouteConfig)
  | tool (toolName : String) (configured : Option ResourceInfo) (kwargs : Dict)

namespace Invocation

def authoritative (env : Env) : Invocation → Option AuthoritativeResource
  | http request route => resolveHttpAuthoritativeResource env request (some route)
  | tool toolName configured kwargs =>
    some (mcpInvocationResource env (mcpAuthoritativeResource toolName configured) kwargs)

/-- An HTTP request with an unsafe method; a method is a token and has no colon. -/
def Unsafe (env : Env) : Invocation → Prop
  | http request _ =>
    request.upperMethod env ∉ safeMethods ∧ ':' ∉ (request.upperMethod env).toList
  | tool .. => True

end Invocation

/-- A request for an invocation with possible side effects. -/
structure PaidCall (env : Env) where
  payload : PaymentPayload
  requirements : PaymentRequirements
  invocation : Invocation
  unsafe_ : invocation.Unsafe env
  /-- The reason of a failed verification. -/
  failure : Option String

namespace PaidCall

def paid (c : PaidCall env) : PaidRequest := ⟨c.payload, c.requirements, c.invocation.authoritative env⟩

/-- The request after its verification. -/
def run (store : RedisResourceResponseStore) (c : PaidCall env) : Service Outcome :=
  match c.invocation with
  | .http request _ => httpCall env store c.failure request.method c.paid
  | .tool .. => toolCall env store c.failure c.paid

end PaidCall

end XrplX402.Middleware
