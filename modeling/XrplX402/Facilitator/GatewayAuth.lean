import XrplX402.Core.WireAssets
import XrplX402.Facilitator.Endpoint

/-! # Who may call the payment endpoints

    A middleware reads the `Authorization` header of a payment request and
    records the gateway that it belongs to, or that it belongs to none. The
    endpoint refuses a request without a gateway before it does anything.

    * **Authenticators**: one configured token, or a table of token hashes.
    * **The guard**: what the middleware records and the endpoint requires.
    * **Clean refusals**: exactly when every other request gets a 401. -/

namespace XrplX402.Facilitator

open Py Interaction

/-! ## Section 1: Authenticators -/

def isAsciiStr (s : String) : Bool := s.toList.all fun c => c.toNat < 128

def notComparable : Exc :=
  typeError "comparing strings with non-ASCII characters is not supported"

/-- `secrets.compare_digest(a, b)` for two strings. -/
def compareDigest (a b : String) : Except Exc Bool :=
  if isAsciiStr a ∧ isAsciiStr b then .ok (a = b) else .error notComparable

inductive AuthExc where
  /-- `GatewayAuthenticationError` -/
  | authentication (text : String)
  | other (e : Exc)
  deriving DecidableEq

structure AuthenticatedGateway where
  gatewayId : String
  deriving DecidableEq

inductive GatewayAuthenticator where
  | singleToken (token gatewayId : String)
  /-- `records key` is what `HGETALL` finds under `key`. -/
  | redis (records : String → Dict)

namespace GatewayAuthenticator

def recordKey (env : Env) (token : String) : String :=
  "facilitator:gateway_token:" ++ env.sha256Hex token

/-- The status of a record, and the gateway it names. -/
def statusOf (env : Env) (record : Dict) : String :=
  env.unicode.lowerStr (strip (str env.unicode ((Dict.get? record "status").getD (.str ""))))

def gatewayIdOf (env : Env) (record : Dict) : String :=
  strip (str env.unicode ((Dict.get? record "gateway_id").getD (.str "")))

def authenticate (env : Env) (bearerToken : String) :
    GatewayAuthenticator → Except AuthExc AuthenticatedGateway
  | singleToken token gatewayId =>
    match compareDigest bearerToken token with
    | .error e => .error (.other e)
    | .ok false => .error (.authentication "invalid token")
    | .ok true => .ok ⟨gatewayId⟩
  | redis records =>
    let record := records (recordKey env bearerToken)
    if record = [] then .error (.authentication "unknown token")
    else if statusOf env record ≠ "active" ∨ gatewayIdOf env record = "" then
      .error (.authentication "inactive token")
    else .ok ⟨gatewayIdOf env record⟩

/-- The token is the configured one, or belongs to an active record. -/
def Knows (env : Env) (token : String) : GatewayAuthenticator → Prop
  | singleToken configured _ => token = configured
  | redis records => statusOf env (records (recordKey env token)) = "active" ∧
      gatewayIdOf env (records (recordKey env token)) ≠ ""

/-- The token can be compared. -/
def Compares (token : String) : GatewayAuthenticator → Prop
  | singleToken configured _ => isAsciiStr token ∧ isAsciiStr configured
  | redis _ => True

end GatewayAuthenticator

/-! ## Section 2: The guard -/

/-- What the middleware records about a request. -/
structure RequestState where
  authFailed : Bool
  gateway : Option AuthenticatedGateway

/-- Scheme and token of an `Authorization` header. -/
def credentials (authorization : Option String) : String × String :=
  ((partition ' ' (authorization.getD "")).1, (partition ' ' (authorization.getD "")).2.2)

/-- What becomes of a token once the scheme is known to be right. -/
def authenticated (env : Env) (auth : GatewayAuthenticator) (token : String) :
    Except Exc RequestState :=
  match auth.authenticate env (strip token) with
  | .ok gateway => .ok ⟨false, some gateway⟩
  | .error (.authentication _) => .ok ⟨true, none⟩
  | .error (.other e) => .error e

/-- `request_context` for a request to a payment endpoint. -/
def requestContext (env : Env) (auth : GatewayAuthenticator) (authorization : Option String) :
    Except Exc RequestState :=
  if (credentials authorization).2 = "" then .ok ⟨true, none⟩
  else
    match compareDigest (env.unicode.lowerStr (credentials authorization).1) "bearer" with
    | .error e => .error e
    | .ok false => .ok ⟨true, none⟩
    | .ok true => authenticated env auth (credentials authorization).2

def unauthorized : FacilitatorExc := .http 401 "Invalid authentication credentials"

/-- `require_gateway(request)` -/
def requireGateway (state : RequestState) : Check AuthenticatedGateway :=
  match state.gateway with
  | none => .error unauthorized
  | some gateway => if state.authFailed then .error unauthorized else .ok gateway

/-- The gateway of a request that reaches the handler. -/
def gatewayOf (env : Env) (auth : GatewayAuthenticator) (authorization : Option String) :
    Check AuthenticatedGateway := do
  let state ← uncaught (requestContext env auth authorization)
  requireGateway state

/-- A payment endpoint: the guard, and then its handler. -/
def paymentEndpoint {α : Type} (env : Env) (auth : GatewayAuthenticator)
    (authorization : Option String) (handler : Service α) : Service α := do
  let _ ← check (gatewayOf env auth authorization)
  handler

variable {env : Env} (F : ExactXRPLFacilitatorScheme env)

/-- `POST /verify` behind the guard. -/
def verifyEndpoint (auth : GatewayAuthenticator) (authorization : Option String) (pages : Nat)
    (payload : PaymentPayload) (requirements : PaymentRequirements) : Service VerifyResponse :=
  paymentEndpoint env auth authorization do
    let _ ← PaymentIdentifierStore.bind env payload requirements
    verify F pages payload requirements

/-- `POST /settle` behind the guard. -/
def settleEndpoint (auth : GatewayAuthenticator) (authorization : Option String) (pages : Nat)
    (payload : PaymentPayload) (requirements : PaymentRequirements) : Service SettleResponse :=
  paymentEndpoint env auth authorization (postSettle F pages payload requirements)

/-! ## Section 3: Clean refusals -/

/-- The header names a gateway that is known. -/
def Authorized (env : Env) (auth : GatewayAuthenticator) (authorization : Option String) : Prop :=
  (credentials authorization).2 ≠ "" ∧
    env.unicode.lowerStr (credentials authorization).1 = "bearer" ∧
    auth.Knows env (strip (credentials authorization).2)

/-- Every comparison that the request leads to is one of ASCII texts. -/
def ComparesAscii (env : Env) (auth : GatewayAuthenticator) (authorization : Option String) : Prop :=
  (credentials authorization).2 = "" ∨
    isAsciiStr (env.unicode.lowerStr (credentials authorization).1) ∧
      (env.unicode.lowerStr (credentials authorization).1 = "bearer" →
        auth.Compares (strip (credentials authorization).2))

section Cases

variable {env : Env} {auth : GatewayAuthenticator} {authorization : Option String} {token : String}

theorem statusOf_nil (env : Env) : GatewayAuthenticator.statusOf env [] ≠ "active" := by
  have hempty : GatewayAuthenticator.statusOf env [] = "" := by
    simp [GatewayAuthenticator.statusOf, Dict.get?, str, strip, stripChars, UnicodeData.lowerStr]
  rw [hempty]
  decide

/-- Everything that can become of a token. -/
theorem authenticate_cases (env : Env) (auth : GatewayAuthenticator) (token : String) :
    (auth.Compares token ∧ auth.Knows env token ∧ ∃ gateway, auth.authenticate env token = .ok gateway) ∨
      (auth.Compares token ∧ ¬ auth.Knows env token ∧
        ∃ text, auth.authenticate env token = .error (.authentication text)) ∨
      (¬ auth.Compares token ∧ ∃ e, auth.authenticate env token = .error (.other e)) := by
  cases auth with
  | singleToken configured gatewayId =>
    by_cases hascii : isAsciiStr token ∧ isAsciiStr configured
    · by_cases hequal : token = configured
      · refine .inl ⟨hascii, hequal, ⟨gatewayId⟩, ?_⟩
        rw [GatewayAuthenticator.authenticate, compareDigest, if_pos hascii, decide_eq_true hequal]
      · refine .inr (.inl ⟨hascii, hequal, "invalid token", ?_⟩)
        rw [GatewayAuthenticator.authenticate, compareDigest, if_pos hascii, decide_eq_false hequal]
    · refine .inr (.inr ⟨hascii, notComparable, ?_⟩)
      rw [GatewayAuthenticator.authenticate, compareDigest, if_neg hascii]
  | redis records =>
    by_cases hactive : GatewayAuthenticator.Knows env token (.redis records)
    · have hfound : records (GatewayAuthenticator.recordKey env token) ≠ [] := by
        intro hnil
        have hstatus := hactive.1
        rw [hnil] at hstatus
        exact statusOf_nil env hstatus
      refine .inl ⟨trivial, hactive, ⟨GatewayAuthenticator.gatewayIdOf env
        (records (GatewayAuthenticator.recordKey env token))⟩, ?_⟩
      rw [GatewayAuthenticator.authenticate, if_neg hfound,
        if_neg (not_or.mpr ⟨not_not.mpr hactive.1, hactive.2⟩)]
    · refine .inr (.inl ⟨trivial, hactive, ?_⟩)
      by_cases hnil : records (GatewayAuthenticator.recordKey env token) = []
      · refine ⟨"unknown token", ?_⟩
        rw [GatewayAuthenticator.authenticate, if_pos hnil]
      · refine ⟨"inactive token", ?_⟩
        rw [GatewayAuthenticator.authenticate, if_neg hnil, if_pos]
        by_contra hneither
        obtain ⟨hstatus, hid⟩ := not_or.mp hneither
        exact hactive ⟨not_not.mp hstatus, hid⟩

/-- Everything that can become of a request. -/
theorem gatewayOf_cases (env : Env) (auth : GatewayAuthenticator) (authorization : Option String) :
    (ComparesAscii env auth authorization ∧ Authorized env auth authorization ∧
        ∃ gateway, gatewayOf env auth authorization = .ok gateway) ∨
      (ComparesAscii env auth authorization ∧ ¬ Authorized env auth authorization ∧
        gatewayOf env auth authorization = .error unauthorized) ∨
      (¬ ComparesAscii env auth authorization ∧
        ∃ e, gatewayOf env auth authorization = .error (.other e)) := by
  by_cases htoken : (credentials authorization).2 = ""
  · refine .inr (.inl ⟨.inl htoken, fun h => h.1 htoken, ?_⟩)
    rw [gatewayOf, requestContext, if_pos htoken]
    rfl
  · by_cases hscheme : isAsciiStr (env.unicode.lowerStr (credentials authorization).1) = true
    · have hboth : isAsciiStr (env.unicode.lowerStr (credentials authorization).1) ∧
          isAsciiStr "bearer" := ⟨hscheme, by decide⟩
      by_cases hbearer : env.unicode.lowerStr (credentials authorization).1 = "bearer"
      · have hcontext : requestContext env auth authorization =
            authenticated env auth (credentials authorization).2 := by
          rw [requestContext, if_neg htoken, compareDigest, if_pos hboth, decide_eq_true hbearer]
        rw [gatewayOf, hcontext, authenticated]
        rcases authenticate_cases env auth (strip (credentials authorization).2) with
          ⟨hcompares, hknows, gateway, hok⟩ | ⟨hcompares, hunknown, text, herror⟩ |
            ⟨hraises, e, herror⟩
        · rw [hok]
          exact .inl ⟨.inr ⟨hscheme, fun _ => hcompares⟩, ⟨htoken, hbearer, hknows⟩, gateway, rfl⟩
        · rw [herror]
          exact .inr (.inl ⟨.inr ⟨hscheme, fun _ => hcompares⟩, fun h => hunknown h.2.2, rfl⟩)
        · rw [herror]
          refine .inr (.inr ⟨?_, e, rfl⟩)
          rintro (hempty | ⟨-, hcompares⟩)
          · exact htoken hempty
          · exact hraises (hcompares hbearer)
      · refine .inr (.inl ⟨.inr ⟨hscheme, fun h => absurd h hbearer⟩, fun h => hbearer h.2.1, ?_⟩)
        rw [gatewayOf, requestContext, if_neg htoken, compareDigest, if_pos hboth,
          decide_eq_false hbearer]
        rfl
    · refine .inr (.inr ⟨?_, notComparable, ?_⟩)
      · rintro (hempty | ⟨hascii, -⟩)
        · exact htoken hempty
        · exact hscheme hascii
      · rw [gatewayOf, requestContext, if_neg htoken, compareDigest, if_neg fun h => hscheme h.1]
        rfl

end Cases

/-- A request that names no known gateway is refused with a 401 and no exception
    escapes exactly when it leads to no comparison of other than ASCII texts;
    its handler runs in no case. -/
theorem refused_cleanly_iff (env : Env) (auth : GatewayAuthenticator) (authorization : Option String) :
    ((∀ gateway, gatewayOf env auth authorization = .ok gateway → Authorized env auth authorization) ∧
      (∀ (α : Type) (handler : Service α), ¬ Authorized env auth authorization →
        paymentEndpoint env auth authorization handler = .raise unauthorized) ∧
      ∀ e, gatewayOf env auth authorization ≠ .error (.other e)) ↔
    ComparesAscii env auth authorization := by
  constructor
  · rintro ⟨-, -, hclean⟩
    rcases gatewayOf_cases env auth authorization with ⟨hascii, -⟩ | ⟨hascii, -⟩ | ⟨-, e, he⟩
    · exact hascii
    · exact hascii
    · exact absurd he (hclean e)
  · intro hascii
    rcases gatewayOf_cases env auth authorization with
      ⟨-, hauthorized, gateway, hok⟩ | ⟨-, hunauthorized, herror⟩ | ⟨hraises, -⟩
    · refine ⟨fun _ _ => hauthorized, fun _ _ h => absurd hauthorized h, fun e he => ?_⟩
      rw [hok] at he
      cases he
    · refine ⟨fun gateway h => ?_, fun α handler _ => ?_, fun e he => ?_⟩
      · rw [herror] at h
        cases h
      · rw [paymentEndpoint, herror]
        rfl
      · rw [herror] at he
        cases Except.error.inj he
    · exact absurd hascii hraises

open XrplX402.Sample in
/-- A token with a letter outside ASCII is no token, but the comparison raises. -/
theorem latin1_token_escapes :
    ¬ Authorized shapeEnv (.singleToken "secret" "default-gateway") (some "Bearer \u00e9") ∧
      gatewayOf shapeEnv (.singleToken "secret" "default-gateway") (some "Bearer \u00e9") =
        .error (.other notComparable) := by
  constructor
  · rintro ⟨-, -, hknown⟩
    have hequal : strip (credentials (some "Bearer \u00e9")).2 = "secret" := hknown
    exact absurd hequal (by decide)
  · rfl

end XrplX402.Facilitator
