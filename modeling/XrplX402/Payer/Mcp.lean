import XrplX402.Payer.Pay

/-! # Paying for tools

    `XRPLMCPClient` as programs over the same journal. The upstream client calls
    a tool, hands a challenge to the hook of this client, selects a payment and
    calls the tool again through `callToolWithPayment`.

    * `resumePending`: the hook.
    * `callToolWithPayment`: the paid call, inside a tool call or on its own.
    * `callTool`: the whole lifecycle. -/

namespace XrplX402.Payer

open Py Interaction

structure XRPLMCPClient where
  payerAccount : String
  /-- The digest of the scope that the caller gave. -/
  recoveryScope : String

/-- `XRPLMCPClient(..., payer_account=..., recovery_scope=...)` -/
def XRPLMCPClient.new (env : Env) (payerAccount recoveryScope : String) : Except Exc XRPLMCPClient := do
  failIf (strip payerAccount = "") (valueError "payer_account must be non-empty")
  failIf (strip recoveryScope = "") (valueError "recovery_scope must be non-empty")
  return ⟨payerAccount, env.sha256Hex recoveryScope⟩

/-- What a tool call remembers of its claim. -/
structure AttemptContext where
  fingerprint : String
  claim : AttemptClaim
  challenge : PaymentRequired

/-- `_mcp_request_fingerprint` -/
def mcpRequestFingerprint (env : Env) (client : XRPLMCPClient) (name : String) (args : Dict)
    (resource : Option ResourceInfo) : String :=
  env.sha256Hex (dumps (.obj [("arguments", .obj args), ("payer", .str client.payerAccount),
    ("recoveryScopeSha256", .str client.recoveryScope),
    ("resource", optDict (resource.map ResourceInfo.modelDump)), ("tool", .str name)]))

/-- `_record_mcp_outcome` -/
def recordMcpOutcome (name : String) (payload : PaymentPayload) (fingerprint : String)
    (settlement : SettleResponse) (statusCode : Int) : PayProg Bool :=
  recordReceipt {
    url := (payload.resource.map ResourceInfo.url).getD ("mcp://tool/" ++ name)
    method := "MCP:" ++ name
    statusCode := statusCode
    state := receiptState settlement
    settlement := settlement
    accepted := payload.accepted
    requestFingerprint := some fingerprint }

def contextMismatch : Exc := valueError "MCP payment attempt context mismatch"

/-- The fingerprint and the claim of a paid call: those of the tool call around
    it, or its own. -/
def claimForCall (env : Env) (client : XRPLMCPClient) (waits : Nat) (current : Option AttemptContext)
    (name : String) (args : Dict) (payload : PaymentPayload) : PayProg (String × AttemptClaim) :=
  match current with
  | some current => do
    let expected := mcpRequestFingerprint env client name args current.challenge.resource
    Prog.ofExcept (failIf (expected ≠ current.fingerprint) contextMismatch)
    Prog.ofExcept (validatePayloadForChallenge payload current.challenge)
    return (current.fingerprint, current.claim)
  | none => do
    let fingerprint := mcpRequestFingerprint env client name args payload.resource
    let claim ← claimOrWait fingerprint client.payerAccount client.recoveryScope waits
    return (fingerprint, claim)

/-- The payload that the call is bound to. -/
def bindPayload (env : Env) (fingerprint : String) (claim : AttemptClaim) (payload : PaymentPayload) :
    PayProg PaymentPayload :=
  match claim.attempt.paymentPayload with
  | none =>
    persist env fingerprint claim payload (runtimeError "Persisted MCP payment payload disappeared")
  | some winner => do
    Prog.ofExcept (failIf (payloadEq winner payload = false)
      (valueError "A different signed payload is already bound to this MCP request"))
    return winner

/-- The result without what was not paid for. -/
def ToolResult.withheld (result : ToolResult) : ToolResult :=
  { result with content := [], isError := true, rawResult := none }

/-- `call_tool_with_payment`; `current` is the context of the tool call around it. -/
def callToolWithPayment (env : Env) (client : XRPLMCPClient) (waits : Nat)
    (current : Option AttemptContext) (name : String) (args : Dict) (payload : PaymentPayload) :
    PayProg ToolResult := do
  let (fingerprint, claim) ← claimForCall env client waits current name args payload
  let winner ← bindPayload env fingerprint claim payload
  let result ← tryCatch (.call (.callToolPaid name args winner) Prog.ofExcept) fun e => do
    let settlement ← Prog.ofExcept (pendingSettlement env winner)
    let _ ← recordMcpOutcome name winner fingerprint settlement 0
    throw e
  let settlement ← match result.paymentResponse with
    | some settlement => pure settlement
    | none => Prog.ofExcept (pendingSettlement env winner)
  let result := { result with paymentResponse := some settlement }
  let _ ← recordMcpOutcome name winner fingerprint settlement (if settlement.success then 200 else 402)
  return if settlement.success then result else result.withheld

/-- `_resume_pending`, up to the point where the context is set. -/
def resumePending (env : Env) (client : XRPLMCPClient) (waits : Nat) (name : String) (args : Dict)
    (challenge : PaymentRequired) : PayProg AttemptContext := do
  let fingerprint := mcpRequestFingerprint env client name args challenge.resource
  let claim ← claimOrWait fingerprint client.payerAccount client.recoveryScope waits
  return ⟨fingerprint, claim, challenge⟩

/-- What the hook returns: a stored payload that answers the challenge. -/
def resumedPayment (current : AttemptContext) : Except Exc (Option PaymentPayload) :=
  match current.claim.attempt.paymentPayload with
  | none => .ok none
  | some payload => do
    validatePayloadForChallenge payload current.challenge
    return some payload

/-- `call_tool` with the lifecycle of the upstream client. -/
def callTool (env : Env) (client : XRPLMCPClient) (waits : Nat) (name : String) (args : Dict) :
    PayProg ToolResult := do
  let answer ← .call (.callTool name args) Prog.ofExcept
  match answer with
  | .inl result => return result
  | .inr challenge => do
    let current ← resumePending env client waits name args challenge
    tryCatch (do
      let resumed ← Prog.ofExcept (resumedPayment current)
      let payment ← .call (.selectPayment challenge resumed) Prog.ofExcept
      callToolWithPayment env client waits (some current) name args payment) fun e => do
      release current.fingerprint current.claim
      throw e

end XrplX402.Payer
