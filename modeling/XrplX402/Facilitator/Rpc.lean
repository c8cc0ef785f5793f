import XrplX402.Core.Helpers
import XrplX402.Interaction.System

/-! # What a facilitator does to the outside

    * **Settings**: the configuration of one facilitator instance.
    * **Operations**: the requests to the ledger node, and the commands to the
      settlement store and the payment-identifier cache. Each is one atomic
      operation of a `Prog`.
    * **Exceptions**: `PaymentVerificationError` is told apart from everything
      else, since only it is turned into an answer. -/

namespace XrplX402.Facilitator

open Py Interaction

/-! ## Section 1: Settings -/

structure Settings where
  networkId : String
  myDestinationAddress : String
  validationTimeout : Int
  minXrpDrops : Int
  maxFeeDrops : Int
  allowedIssuedAssets : String
  enableBazaar : Bool
  replayProcessedTtlSeconds : Int
  positive : 0 < validationTimeout ∧ 0 < maxFeeDrops ∧ 0 < replayProcessedTtlSeconds
  nonNegative : 0 ≤ minXrpDrops

/-- One facilitator instance. Its supported assets were read from its settings
    when it was built. -/
structure ExactXRPLFacilitatorScheme (env : Env) where
  settings : Settings
  supportedAssets : List AssetKey
  supported : supportedAssetKeys env settings.networkId settings.allowedIssuedAssets =
    .ok supportedAssets

/-! ## Section 2: Operations -/

/-- Requests to the ledger node; all account and ledger queries read the last
    validated ledger. -/
inductive RpcRequest where
  | ledger
  | accountInfo (account : String)
  | accountObjects (account : String) (marker : Json)
  | accountLines (account : String) (peer marker : Json)
  | serverState
  | simulate (transaction : Dict)
  | submitOnly (txBlob : String)
  | tx (transaction : String) (minLedger maxLedger : Int)
  deriving DecidableEq

inductive Op where
  | rpc (request : RpcRequest)
  /-- `SettlementStore.get` -/
  | get (transaction : String)
  /-- `SettlementStore.reserve` -/
  | reserve (state : XRPLSettlementState) (ttlSeconds : Int)
  /-- `SettlementStore.update` -/
  | update (state : XRPLSettlementState) (ttlSeconds : Int)
  /-- Hash fields hold JSON texts, represented by the value they are read as. -/
  | hsetnx (key field : String) (value : Json)
  | hget (key field : String)
  | hset (key field : String) (value : Json)
  | expire (key : String)
  /-- `catalog.index`, which touches neither of the two stores. -/
  | catalogIndex (payload : PaymentPayload) (requirements : PaymentRequirements)
  deriving DecidableEq

/-- Answers; a node can answer with any JSON value or with an exception. -/
abbrev Ret : Op → Type
  | .rpc _ => Except Exc Json
  | .get _ => Option XRPLSettlementState
  | .reserve _ _ => Bool
  | .update _ _ => Unit
  | .hsetnx _ _ _ => Bool
  | .hget _ _ => Option Json
  | .hset _ _ _ => Unit
  | .expire _ => Unit
  | .catalogIndex _ _ => Except Exc Bool

/-! ## Section 3: Exceptions -/

inductive FacilitatorExc where
  /-- `PaymentVerificationError(reason, message, payer)` -/
  | verification (reason : String) (message payer : Option String)
  /-- `HTTPException(status_code, detail)` -/
  | http (statusCode : Nat) (detail : String)
  | other (e : Exc)
  deriving DecidableEq

/-- A refusal without a message. -/
def refusal (reason payer : String) : FacilitatorExc := .verification reason none (some payer)

/-- A refusal before the payer is known. -/
def envelopeRefusal (reason : String) : FacilitatorExc := .verification reason none none

abbrev Check (α : Type) := Except FacilitatorExc α

abbrev Service (α : Type) := Prog Op Ret FacilitatorExc α

/-- An exception of a helper that is not caught. -/
def uncaught {α : Type} : Except Exc α → Check α
  | .ok a => .ok a
  | .error e => .error (.other e)

@[simp] theorem uncaught_eq_ok {α : Type} {x : Except Exc α} {a : α} :
    uncaught x = .ok a ↔ x = .ok a := by
  cases x <;> simp [uncaught]

def lift {α : Type} (x : Except Exc α) : Service α := .ofExcept (uncaught x)

/-- `self.client.request(r).result` -/
def request (r : RpcRequest) : Service Json := .call (.rpc r) lift

end XrplX402.Facilitator
