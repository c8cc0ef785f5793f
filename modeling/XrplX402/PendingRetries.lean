import XrplX402.Interaction.Embed
import XrplX402.Middleware.Completed
import XrplX402.Revalidation

/-! # A pending payment that is sent again

    A paid request whose settlement was answered as pending, and the same request
    after the payment has been validated: what it gets is decided by the
    facilitator's verification, the hooks of the middleware, its response store
    and the facilitator's settlement, in this order.

    * `serve`: one paid HTTP request over both components.
    * `PaidPending`: a request that was verified, handled and left pending.
    * **`pending_payment_resumes_iff`**: when its repetition is answered with the
      handler's response and a successful settlement. -/

namespace XrplX402

open Py Interaction Prog Facilitator

variable {env : Env}

/-! ## Section 1: A paid HTTP request -/

/-- The operations of the facilitator and those of the middleware. -/
abbrev ServeOp := Facilitator.Op ⊕ Middleware.Op

abbrev ServeRet : ServeOp → Type
  | .inl o => Facilitator.Ret o
  | .inr o => Middleware.Ret o

abbrev ServeExc := FacilitatorExc ⊕ Exc

abbrev Serve (α : Type) := Prog ServeOp ServeRet ServeExc α

def atFacilitator {α : Type} (p : Facilitator.Service α) : Serve α :=
  p.embed Sum.inl (fun _ r => r) Sum.inl

def atMiddleware {α : Type} (p : Middleware.Service α) : Serve α :=
  p.embed Sum.inr (fun _ r => r) Sum.inr

/-- How a paid request is answered. -/
inductive Answer where
  /-- 402 -/
  | paymentRequired
  /-- 409 -/
  | conflict (message : String)
  /-- An error of the handler, which is not settled. -/
  | unsettled (response : Middleware.Response)
  | settled (response : Middleware.Response) (settlement : SettleResponse)
  /-- 402 with the settlement that did not succeed. -/
  | failed (settlement : SettleResponse)

/-- The reason of a failed verification. -/
def failureOf (v : VerifyResponse) : Option String :=
  if v.isValid then none else some (v.invalidReason.getD "")

section Serve

variable (F : ExactXRPLFacilitatorScheme env) (pages : Nat) (payload : PaymentPayload)
  (requirements : PaymentRequirements)

/-- A settlement that is answered as pending is tried once more. -/
def settleTwice : Serve SettleResponse := do
  let s ← atFacilitator (settle F pages payload requirements)
  if s.errorReason = some "settlement_pending" then
    atFacilitator (settle F pages payload requirements)
  else return s

/-- Settle, and deliver the response if that succeeds. -/
def settleAndDeliver (delivered : Except Exc Middleware.Response) : Serve Answer := do
  let s ← settleTwice F pages payload requirements
  if s.success then
    let response ← atMiddleware (Middleware.check delivered)
    return .settled response s
  else return .failed s

end Serve

/-- Verify, run the hooks and the handler, settle, respond. -/
def serve (F : ExactXRPLFacilitatorScheme env) (pages : Nat)
    (store : Middleware.RedisResourceResponseStore) (settlement : Middleware.Settlement)
    (method : String) (q : Middleware.PaidRequest) : Serve Answer := do
  let v ← atFacilitator (verify F pages q.payload q.requirements)
  match ← atMiddleware (Middleware.httpCall env store (failureOf v) method q) with
  | .refused => return .paymentRequired
  | .conflict message => return .conflict message
  | .responded response =>
    if 400 ≤ response.status then return .unsettled response
    else settleAndDeliver F pages q.payload q.requirements (.ok (settlement.deliver response))
  | .returned _ => return .paymentRequired
  | .replayed cached =>
    settleAndDeliver F pages q.payload q.requirements
      (Middleware.deliverCached env (settlement.replay (Middleware.skipHandlerDirective cached)) cached)

/-! ## Section 2: The hooks of a repeated request -/

section Hooks

open Middleware

variable {κ : Type} {store : RedisResourceResponseStore} {requests : κ → PaidCall env}
  {c : Config κ Middleware.Op Middleware.Ret Exc Outcome Redis.Db} {k : κ}
  {response : StoredResourceResponse} {q : PaidRequest} {method reason : String}

/-- The identity of an HTTP request says whether its response is kept. -/
theorem requiresResponseRecovery_safe {request : Middleware.Request} (route : RouteConfig)
    (h : request.upperMethod env ∈ safeMethods) :
    requiresResponseRecovery ((Invocation.http request route).authoritative env) = .ok false := by
  have hcolon : ':' ∉ (request.upperMethod env).toList := by
    have hall : ∀ m ∈ safeMethods, ':' ∉ m.toList := by decide
    exact hall _ h
  rw [requiresResponseRecovery_method request route hcolon, decide_eq_false (not_not.mpr h)]

/-- The response of a safe method is not kept. -/
theorem path_bufferedCallNext_safe {r : HandlerResponse}
    (hmethod : env.unicode.upperStr method ∈ safeMethods) (hstatus : r.status < 400) :
    (bufferedCallNext env (some store) method q).Path [⟨.endpoint, .ok r⟩] (.ok r.rebuilt) := by
  refine ⟨.ok r, [], rfl, ?_⟩
  show Path (if 400 ≤ r.status then _ else _ : Middleware.Service Response) _ _
  rw [if_neg (not_le.mpr hstatus), rebuild_callNext]
  show Path (keepResponse env (some store) method q r.rebuilt r.chunks.flatten >>= _) _ _
  unfold keepResponse
  dsimp only
  rw [if_pos hmethod]
  exact ⟨rfl, rfl⟩

/-- A request that is refused for another reason, or with a safe method, is not
    recovered. -/
theorem httpCall_refused
    (h : reason ∉ staleAuthorizationFailures ∨ requiresResponseRecovery q.authoritative = .ok false) :
    httpCall env store (some reason) method q = .ret .refused := by
  have hfailed : recoverCachedAuthorization env q reason = .ret .failed := by
    unfold recoverCachedAuthorization
    -- Another reason is not looked up at all; a stale one is, unless the method is safe.
    by_cases hstale : isStaleAuthorizationFailure (some reason) = true
    · rw [if_pos hstale]
      rcases h with hother | hsafe
      · unfold isStaleAuthorizationFailure at hstale
        rw [Option.any_some] at hstale
        exact absurd (of_decide_eq_true hstale) hother
      · rw [hsafe]
        rfl
    · rw [if_neg hstale]
      rfl
  unfold httpCall
  dsimp only
  rw [hfailed]
  rfl

variable [DecidableEq κ]

/-- The response store, at any later time. -/
def StoreAnswers (store : RedisResourceResponseStore) (requests : κ → PaidCall env)
    (c : Config κ Middleware.Op Middleware.Ret Exc Outcome Redis.Db) :
    (o : Middleware.Op) → Middleware.Ret o → Prop
  | .get key, raw => ∃ c', Run (paidSystem store requests) anyStep c c' ∧
      raw = Redis.get key c'.state.shared
  | _, _ => True

variable {db : Redis.Db} (hfree : ∀ i key, (requests i).key = some key → db key = none)
  (hrun : Run (paidSystem store requests) anyStep (Config.init db) c)

include hfree hrun

theorem total_lookupCached (hkept : Kept requests k response c.state.log)
    (hpaid : q = (requests k).paid) :
    (lookupCached env q).Total (StoreAnswers store requests c)
      (· = .ok (.ok (some response.sorted))) := by
  have hbound : Bound requests c.state := (good_of_run hfree hrun).inv
  -- The response has been written, so its request has the key that it was written under.
  obtain ⟨key, hkey⟩ : ∃ key, (requests k).key = some key := by
    obtain ⟨key, value, ex, hwrite⟩ := hkept.written
    exact ⟨key, hbound.own (hbound.writes _ hwrite key value ex false rfl)⟩
  obtain ⟨identifier, hidentifier, hkeyOf⟩ : ∃ identifier,
      identifierOf env (requests k).payload = .ok (some identifier) ∧
      key = RedisResourceResponseStore.key env identifier (requests k).requirements := by
    unfold PaidCall.key at hkey
    split at hkey
    · next identifier hid => exact ⟨identifier, hid, (Option.some.inj hkey).symm⟩
    · cases hkey
  have hget : (RedisResourceResponseStore.get env q).Total (StoreAnswers store requests c)
      (· = .ok (some response.sorted)) := by
    unfold RedisResourceResponseStore.get
    rw [hpaid, show identifierOf env (requests k).paid.payload = .ok (some identifier) from hidentifier]
    -- The record is read at some later time, when it still stands.
    intro raw hraw
    obtain ⟨c', hlater, rfl⟩ := hraw
    have hbound' : Bound requests c'.state := (good_of_run hfree (hrun.trans hlater)).inv
    have hkept' := hkept.mono hlater.log_suffix.subset
    obtain ⟨expiry, hstored⟩ := hbound'.stored hkept' hkey
    rw [hkeyOf] at hstored
    have hraw : RedisResourceResponseStore.nonempty (Redis.get (RedisResourceResponseStore.key env
        identifier (requests k).paid.requirements) c'.state.shared) =
        some (dumps (.obj (storedRecord (requests k).fingerprint response))) := by
      have hget := Redis.get_of_entry hstored
      rw [show (requests k).paid.requirements = (requests k).requirements from rfl, hget,
        nonempty_dumps]
    simp only [Prog.bind, hraw]
    show Total _ _ (Middleware.check (readRecord env (requests k).fingerprint _))
    rw [readRecord_stored hkept'.produced.proper]
    rfl
  -- No exception is raised, so nothing is caught.
  unfold lookupCached catchValueError
  apply Total.tryCatch (hget.bind (fun found h => ?_) fun e he => ?_) (fun _ h => h)
  · intro e he
    cases he
  · obtain rfl := Except.ok.inj h
    exact rfl
  · cases he

/-- The stored response is replayed for a stale authorization. -/
theorem total_httpCall (hkept : Kept requests k response c.state.log)
    (hpaid : q = (requests k).paid)
    (hdeclared : requireDeclaredPaymentIdentifier env (requests k).payload = none)
    (hrecovers : requiresResponseRecovery q.authoritative = .ok true)
    (hstale : reason ∈ staleAuthorizationFailures) :
    (httpCall env store (some reason) method q).Total (StoreAnswers store requests c)
      (· = .ok (.replayed response.sorted)) := by
  have hlookup := total_lookupCached hfree hrun hkept hpaid
  have hreason : isStaleAuthorizationFailure (some reason) = true := by
    unfold isStaleAuthorizationFailure
    rw [Option.any_some]
    exact decide_eq_true hstale
  have hnone : requireDeclaredPaymentIdentifier env q.payload = none := by
    rw [hpaid]
    exact hdeclared
  -- The refusal counts as stale: the stored response is found once before the verification.
  have hrecovered : (recoverCachedAuthorization env q reason).Total (StoreAnswers store requests c)
      (fun x => ∃ recovery, x = .ok recovery ∧ recovery = .recovered) := by
    unfold recoverCachedAuthorization
    rw [if_pos hreason, hrecovers]
    refine hlookup.bind (fun found h => ?_) fun e he => by cases he
    obtain rfl := Except.ok.inj h
    exact ⟨_, rfl, rfl⟩
  refine hrecovered.bind (fun recovery h => ?_) fun e he => by
    obtain ⟨_, h, -⟩ := he
    cases h
  obtain ⟨_, heq, rfl⟩ := h
  obtain rfl := Except.ok.inj heq
  show Total _ _ (afterVerifyHttp env store method q)
  unfold afterVerifyHttp recoverHandler
  rw [hnone, hrecovers]
  -- And once more after it, as the middleware does not keep what it has found.
  refine Total.bind (Q := (· = .ok (.skip response.sorted))) ?_ (fun after h => ?_)
    fun e he => by cases he
  · refine hlookup.bind (fun found h => ?_) fun e he => by cases he
    obtain rfl := Except.ok.inj h
    rfl
  · obtain rfl := Except.ok.inj h
    rfl

end Hooks

/-! ## Section 3: A pending payment -/

/-- A paid HTTP request, the components that serve it, and what shares their
    stores. -/
structure Exchange (env : Env) (κ ι : Type) where
  facilitator : ExactXRPLFacilitatorScheme env
  store : Middleware.RedisResourceResponseStore
  settlement : Middleware.Settlement
  payload : PaymentPayload
  requirements : PaymentRequirements
  request : Middleware.Request
  route : Middleware.RouteConfig
  /-- The requests on the response store. -/
  requests : κ → Middleware.PaidCall env
  /-- The calls on the settlement store. -/
  calls : ι → Call env
  /-- The payment, once it has been validated. -/
  inclusion : Inclusion env requirements

/-- A run of the middleware. -/
abbrev PaidConfig (κ : Type) :=
  Config κ Middleware.Op Middleware.Ret Exc Middleware.Outcome Redis.Db

namespace Exchange

variable {κ ι : Type} (x : Exchange env κ ι)

def invocation : Middleware.Invocation := .http x.request x.route

def paid : Middleware.PaidRequest := ⟨x.payload, x.requirements, x.invocation.authoritative env⟩

/-- The request is sent again. -/
def again (pages : Nat) : Serve Answer :=
  serve x.facilitator pages x.store x.settlement x.request.method x.paid

/-- The handler of the request has succeeded with `r`: as one of the requests on
    the response store, or with a safe method. -/
inductive HandlerSucceeded (c : PaidConfig κ) (r : Middleware.HandlerResponse) : Prop where
  | recoverable (k : κ) (delivered : Middleware.Response)
      (payload : (x.requests k).payload = x.payload)
      (requirements : (x.requests k).requirements = x.requirements)
      (invocation : (x.requests k).invocation = x.invocation)
      (ran : ⟨⟨.endpoint, .ok r⟩, k⟩ ∈ c.state.log) (success : r.status < 400)
      (ended : c.outcome k = some (.ok (.responded delivered)))
  | safe (t : List (Event Middleware.Op Middleware.Ret)) (delivered : Middleware.Response)
      (method : x.request.upperMethod env ∈ Middleware.safeMethods)
      (served : (Middleware.bufferedCallNext env (some x.store) x.request.method x.paid).Path t
        (.ok delivered))
      (ran : ⟨.endpoint, .ok r⟩ ∈ t) (success : r.status < 400)

variable [DecidableEq κ] [DecidableEq ι]

/-- The request was verified along `t`, its handler has succeeded with `r`, and
    its settlement was answered as pending. -/
structure Pending (db : Redis.Db) (cp : PaidConfig κ) (cs : SettleConfig ι) (t : List (Event Op Ret))
    (r : Middleware.HandlerResponse) (tx : Dict) : Prop where
  transaction : ∃ blob, payloadHash env x.payload = .ok (blob, x.inclusion.transaction) ∧
    env.decode blob = .ok tx
  verified : ∃ pages v, (verify x.facilitator pages x.payload x.requirements).Path t (.ok v) ∧
    v.isValid = true
  free : ∀ k key, (x.requests k).key = some key → db key = none
  served : Run (Middleware.paidSystem x.store x.requests) anyStep (Config.init db) cp
  handled : x.HandlerSucceeded cp r
  settled : Run (settleSystem env x.calls) x.inclusion.Allows (Config.init Stores.empty) cs
  pending : ∃ i s, (x.calls i).facilitator = x.facilitator ∧ (x.calls i).payload = x.payload ∧
    (x.calls i).requirements = x.requirements ∧ cs.threads i = some (.ret s) ∧ s.IsPending ∧
    s.transaction ≠ ""

/-- The answers to the repetition: `now` is the validated ledger, `data` the
    account of the payer, and the stores may have moved on. -/
def Answers (cp : PaidConfig κ) (cs : SettleConfig ι) (server : TicketServer env) (payer : String)
    (data : Dict) (now : Int) : (o : ServeOp) → ServeRet o → Prop
  | .inl o, r => x.inclusion.RetryAnswers x.calls cs server payer data now o r
  | .inr o, r => StoreAnswers x.store x.requests cp o r

omit [DecidableEq κ] [DecidableEq ι] in
/-- When the repetition of a pending payment resumes it. -/
structure Resumes (tx data : Dict) (st : XRPLSettlementState) (last now : Int) : Prop where
  /-- Only the responses of unsafe methods are kept. -/
  method : x.request.upperMethod env ∉ Middleware.safeMethods
  open_ : now < last
  signer : checkSigner env tx (payerOf env tx) data = .ok ()
  /-- The reserved window finds the payment. -/
  searched : x.inclusion.Searched st.firstLedgerSequence st.lastLedgerSequence

end Exchange

/-- The response of the handler with a successful settlement of the transaction;
    `same` compares the headers. -/
def AnsweredWith (same : Middleware.HeaderList → Middleware.HeaderList → Prop)
    (r : Middleware.HandlerResponse) (transaction : String) : Except ServeExc Answer → Prop
  | .ok (.settled delivered s) =>
    Middleware.SameResponse same r delivered ∧ s.success = true ∧ s.transaction = transaction
  | _ => False

/-! ## Section 4: What can be answered -/

/-- Every operation of a repetition has an answer. -/
theorem Inclusion.exists_retryAnswer {requirements : PaymentRequirements} {ι : Type} [DecidableEq ι]
    (I : Inclusion env requirements) (calls : ι → Call env) (c : SettleConfig ι)
    (server : TicketServer env) (payer : String) (data : Dict) (now : Int) (o : Op) :
    ∃ r, I.RetryAnswers calls c server payer data now o r := by
  cases o with
  | get id => exact ⟨_, c, .refl, rfl⟩
  | rpc q =>
    cases q with
    | ledger => exact ⟨.ok (.obj [("ledger_index", .int now)]), rfl⟩
    | accountInfo account =>
      exact ⟨.ok (.obj [("account_data", .obj data)]), fun _ => ⟨_, rfl, rfl⟩⟩
    | accountObjects account marker => exact ⟨_, rfl⟩
    | tx transaction minLedger maxLedger =>
      -- The node shows the transaction to a search over its ledger, and fails any other.
      by_cases hsearched : I.Searched minLedger maxLedger
      · have hlookup := lookupOf_transaction I.isTransaction
        refine ⟨.ok (.obj I.shown), fun _ => ⟨⟨fun d hd _ => ?_, fun habsent => ?_⟩,
          fun _ => ⟨_, rfl, I.isTransaction⟩⟩⟩
        · rw [hlookup] at hd
          rw [Option.some.inj hd]
          exact ⟨hsearched, rfl⟩
        · rw [hlookup] at habsent
          cases habsent
      · refine ⟨.error ⟨.other, "timeout"⟩, fun _ => ⟨⟨fun d hd => ?_, fun habsent => ?_⟩,
          fun h => absurd h hsearched⟩⟩
        · cases hd
        · cases habsent
    | accountLines account peer marker => exact ⟨.ok .null, trivial⟩
    | serverState => exact ⟨.ok .null, trivial⟩
    | simulate transaction => exact ⟨.ok .null, trivial⟩
    | submitOnly txBlob => exact ⟨.ok .null, trivial⟩
  | reserve state ttl => exact ⟨false, trivial⟩
  | update state ttl => exact ⟨(), trivial⟩
  | hsetnx key field value => exact ⟨false, trivial⟩
  | hget key field => exact ⟨none, trivial⟩
  | hset key field value => exact ⟨(), trivial⟩
  | expire key => exact ⟨(), trivial⟩
  | catalogIndex key member => exact ⟨.ok false, trivial⟩

section Resumption

variable {κ ι : Type} [DecidableEq κ] [DecidableEq ι] {x : Exchange env κ ι}
variable {cp : PaidConfig κ} {cs : SettleConfig ι} {server : TicketServer env} {data tx : Dict}
variable {payer method : String} {last now : Int} {pages : Nat} {r : Middleware.HandlerResponse}

theorem Exchange.exists_answer (o : ServeOp) : ∃ r, x.Answers cp cs server payer data now o r := by
  cases o with
  | inl o => exact x.inclusion.exists_retryAnswer x.calls cs server payer data now o
  | inr o =>
    cases o with
    | get key => exact ⟨_, cp, .refl, rfl⟩
    | set key value ex nx => exact ⟨.ok true, trivial⟩
    | endpoint => exact ⟨.error ⟨.other, ""⟩, trivial⟩
    | tool => exact ⟨.ok none, trivial⟩

theorem total_atFacilitator {α : Type} {p : Facilitator.Service α} {Q : Except ServeExc α → Prop}
    (h : p.Total (x.inclusion.RetryAnswers x.calls cs server payer data now)
      (fun a => Q (a.mapError Sum.inl))) :
    (atFacilitator p).Total (x.Answers cp cs server payer data now) Q :=
  Total.embed (fun _ _ h => h) h

theorem total_atMiddleware {α : Type} {p : Middleware.Service α} {Q : Except ServeExc α → Prop}
    (h : p.Total (StoreAnswers x.store x.requests cp) (fun a => Q (a.mapError Sum.inr))) :
    (atMiddleware p).Total (x.Answers cp cs server payer data now) Q :=
  Total.embed (fun _ _ h => h) h

/-- Of the refusals, those for the sequence and for the ticket are recovered. -/
theorem stale_refusalAfter_iff :
    refusalAfter env tx data payer method last now ∈ Middleware.staleAuthorizationFailures ↔
      now < last ∧ checkSigner env tx payer data = .ok () := by
  unfold refusalAfter
  -- An expired payment is refused for a reason that the middleware does not count as stale.
  by_cases hpassed : last ≤ now
  · rw [if_pos hpassed]
    exact iff_of_false (by decide) fun h => absurd h.1 (not_lt.mpr hpassed)
  rw [if_neg hpassed]
  cases hsigner : checkSigner env tx payer data with
  | error e =>
    refine iff_of_false ?_ fun h => by cases h.2
    dsimp only
    decide
  -- With the signer in order only the sequence or the ticket is left.
  | ok _ =>
    refine iff_of_true ?_ ⟨not_le.mp hpassed, rfl⟩
    dsimp only
    split
    · exact List.mem_cons_self
    · exact List.mem_cons_of_mem _ List.mem_cons_self

/-- The request is refused, and no hook recovers it. -/
theorem total_serve_refused {F : ExactXRPLFacilitatorScheme env}
    {store : Middleware.RedisResourceResponseStore} {settlement : Middleware.Settlement}
    {method : String} {q : Middleware.PaidRequest} {reason : String} {payer' : Option String}
    (hverify : (verify F pages q.payload q.requirements).Total
      (x.inclusion.RetryAnswers x.calls cs server payer data now)
      (· = .ok ⟨false, some reason, none, payer', none⟩))
    (hcall : Middleware.httpCall env store (some reason) method q = .ret .refused) :
    (serve F pages store settlement method q).Total (x.Answers cp cs server payer data now)
      (· = .ok .paymentRequired) := by
  unfold serve
  refine (total_atFacilitator (Q := (· = .ok ⟨false, some reason, none, payer', none⟩))
    (hverify.mono ?_)).bind (fun v hv => ?_) fun e he => by cases he
  · rintro _ rfl
    rfl
  · obtain rfl := Except.ok.inj hv
    show Total _ _ (atMiddleware (Middleware.httpCall env store (some reason) method q) >>= _)
    rw [hcall]
    rfl

/-- A settlement that is answered once more. -/
theorem total_settleTwice {F : ExactXRPLFacilitatorScheme env} {payload : PaymentPayload}
    {requirements : PaymentRequirements} {good : SettleResponse → Prop}
    (h : (settle F pages payload requirements).Total
      (x.inclusion.RetryAnswers x.calls cs server payer data now) fun a => ∃ s, a = .ok s ∧ good s) :
    (settleTwice F pages payload requirements).Total (x.Answers cp cs server payer data now)
      fun a => ∃ s, a = .ok s ∧ good s := by
  -- Both attempts meet the same answers, so what holds of one settlement holds of two.
  have hsettle : (atFacilitator (settle F pages payload requirements)).Total
      (x.Answers cp cs server payer data now) fun a => ∃ s, a = .ok s ∧ good s := by
    refine total_atFacilitator (h.mono ?_)
    rintro _ ⟨s, rfl, hs⟩
    exact ⟨s, rfl, hs⟩
  unfold settleTwice
  refine hsettle.bind (fun s hs => ?_) fun e ⟨_, he, _⟩ => by cases he
  split
  · exact hsettle
  · exact hs

/-- The stored response is delivered when the settlement succeeds. -/
theorem total_serve_replayed {F : ExactXRPLFacilitatorScheme env}
    {store : Middleware.RedisResourceResponseStore} {settlement : Middleware.Settlement}
    {method : String} {q : Middleware.PaidRequest} {reason : String} {payer' : Option String}
    {cached : Middleware.StoredResourceResponse} {delivered : Middleware.Response}
    {good : SettleResponse → Prop}
    (hverify : (verify F pages q.payload q.requirements).Total
      (x.inclusion.RetryAnswers x.calls cs server payer data now)
      (· = .ok ⟨false, some reason, none, payer', none⟩))
    (hcall : (Middleware.httpCall env store (some reason) method q).Total
      (StoreAnswers x.store x.requests cp) (· = .ok (.replayed cached)))
    (hdelivered : Middleware.deliverCached env
      (settlement.replay (Middleware.skipHandlerDirective cached)) cached = .ok delivered)
    (hsettle : (settle F pages q.payload q.requirements).Total
      (x.inclusion.RetryAnswers x.calls cs server payer data now) fun a => ∃ s, a = .ok s ∧ good s) :
    (serve F pages store settlement method q).Total (x.Answers cp cs server payer data now)
      fun a => ∃ s, good s ∧ a = .ok (if s.success then .settled delivered s else .failed s) := by
  -- Verification refuses the payment, recovery replays the response, and it is settled again.
  unfold serve
  refine (total_atFacilitator (Q := (· = .ok ⟨false, some reason, none, payer', none⟩))
    (hverify.mono ?_)).bind (fun v hv => ?_) fun e he => by cases he
  · rintro _ rfl
    rfl
  obtain rfl := Except.ok.inj hv
  show Total _ _ (atMiddleware (Middleware.httpCall env store (some reason) method q) >>= _)
  refine (total_atMiddleware (Q := (· = .ok (.replayed cached))) (hcall.mono ?_)).bind
    (fun outcome h => ?_) fun e he => by cases he
  · rintro _ rfl
    rfl
  obtain rfl := Except.ok.inj h
  show Total _ _ (settleAndDeliver F pages q.payload q.requirements _)
  rw [hdelivered]
  unfold settleAndDeliver
  refine (total_settleTwice hsettle).bind (fun s hs => ?_) fun e ⟨_, he, _⟩ => by cases he
  obtain ⟨_, heq, hgood⟩ := hs
  obtain rfl := Except.ok.inj heq
  split
  · next hsuccess => exact ⟨s, hgood, by rw [if_pos hsuccess]⟩
  · next hfailed => exact ⟨s, hgood, by rw [if_neg hfailed]⟩

/-! ## Section 5: Resumption -/

omit [DecidableEq ι] in
/-- The handler of a request whose responses are kept has stored its response. -/
theorem Exchange.HandlerSucceeded.stored {db : Redis.Db}
    (hfree : ∀ k key, (x.requests k).key = some key → db key = none)
    (hrun : Run (Middleware.paidSystem x.store x.requests) anyStep (Config.init db) cp)
    (h : x.HandlerSucceeded cp r) (hmethod : x.request.upperMethod env ∉ Middleware.safeMethods) :
    ∃ k, x.paid = (x.requests k).paid ∧
      Middleware.Kept x.requests k
        (Middleware.toStoredResponse env r.rebuilt r.chunks.flatten) cp.state.log ∧
      Middleware.requireDeclaredPaymentIdentifier env (x.requests k).payload = none ∧
      Middleware.requiresResponseRecovery x.paid.authoritative = .ok true := by
  cases h with
  -- Safe methods are excluded.
  | safe t delivered method served ran success => exact absurd method hmethod
  | recoverable k delivered payload requirements invocation ran success ended =>
    -- The request has ended, so its response was stored.
    have hcompleted : Middleware.Completed x.requests cp k
        (Middleware.toStoredResponse env r.rebuilt r.chunks.flatten) :=
      Middleware.completed_of_responded ran success ended
    have hpaid : x.paid = (x.requests k).paid := by
      unfold Exchange.paid Middleware.PaidCall.paid
      rw [payload, requirements, invocation]
    have heffects := (x.requests k).unsafe_
    rw [invocation] at heffects
    exact ⟨k, hpaid, hcompleted.kept (Middleware.good_of_run hfree hrun),
      hcompleted.declared hrun invocation,
      Middleware.requiresResponseRecovery_http x.request x.route heffects⟩

section Again

variable (x cp cs) {t : List (Event Op Ret)}
variable (hlater : ∀ result n, Answered t .ledger result →
  ledgerIndex env (.ok result) = .ok n → n ≤ now)
variable (hconsumed : Consumed env server pages data tx)
variable (hadmitted : Admitted x.facilitator x.payload x.requirements t tx method last)
include hlater hconsumed hadmitted

omit [DecidableEq κ] in
theorem Exchange.total_verify : (verify x.facilitator pages x.paid.payload x.paid.requirements).Total
    (x.inclusion.RetryAnswers x.calls cs server (payerOf env tx) data now)
    (· = .ok ⟨false, some (refusalAfter env tx data (payerOf env tx) method last now), none,
      some (payerOf env tx), none⟩) := verify_after hadmitted hlater hconsumed

/-- The reason is not one that is recovered, or no response is kept. -/
theorem Exchange.total_again_refused
    (h : refusalAfter env tx data (payerOf env tx) method last now ∉
        Middleware.staleAuthorizationFailures ∨
      Middleware.requiresResponseRecovery x.paid.authoritative = .ok false) :
    (x.again pages).Total (x.Answers cp cs server (payerOf env tx) data now)
      (· = .ok .paymentRequired) :=
  total_serve_refused (x.total_verify cs hlater hconsumed hadmitted) (httpCall_refused h)

end Again

/-- A refused request is not answered with the response of the handler. -/
theorem not_answeredWith_of_refused {p : Serve Answer}
    (h : p.Total (x.Answers cp cs server payer data now) (· = .ok .paymentRequired))
    (same : Middleware.HeaderList → Middleware.HeaderList → Prop) (transaction : String) :
    ¬ p.Total (x.Answers cp cs server payer data now) (AnsweredWith same r transaction) := by
  apply Total.not_total Exchange.exists_answer
  apply h.mono
  rintro _ rfl hanswered
  exact hanswered

/-- A pending payment is validated with the exact amount, and the same request is
    sent again. It is answered with the handler's response and a successful
    settlement exactly when its method is unsafe, its ledger window is still open,
    its key is still authorized, and the reserved window finds the payment. The
    headers are those of the handler as far as the store keeps them. -/
theorem pending_payment_resumes_iff (hinj : Function.Injective env.sha256)
    (x : Exchange env κ ι) (hlawful : x.settlement.Lawful) {db : Redis.Db}
    {t : List (Event Op Ret)} (h : x.Pending db cp cs t r tx)
    (hlater : ∀ result n, Answered t .ledger result → ledgerIndex env (.ok result) = .ok n → n ≤ now)
    (hconsumed : Consumed env server pages data tx) :
    ∃ last st, (Dict.get tx "LastLedgerSequence").asInt? = some last ∧ Wrote cs.state.log st ∧
      st.transaction = x.inclusion.transaction ∧
      ((x.again pages).Total (x.Answers cp cs server (payerOf env tx) data now)
          (AnsweredWith (fun _ _ => True) r x.inclusion.transaction) ↔ x.Resumes tx data st last now) ∧
      ((x.again pages).Total (x.Answers cp cs server (payerOf env tx) data now)
          (AnsweredWith Eq r x.inclusion.transaction) ↔
        x.Resumes tx data st last now ∧ Middleware.InStoredOrder r) ∧
      ((x.again pages).Total (x.Answers cp cs server (payerOf env tx) data now)
          (AnsweredWith List.Perm r x.inclusion.transaction) ↔
        x.Resumes tx data st last now ∧ Middleware.Unrepeated r ∧ Middleware.Typed r) := by
  obtain ⟨blob, hpays, htx⟩ := h.transaction
  obtain ⟨_, v, hpath, hv⟩ := h.verified
  obtain ⟨method, last, hadmitted⟩ := admitted_of_verified hpath hv hpays htx
  obtain ⟨i, s, hfacilitator, hpayload, hrequirements, hthread, hpending, hnamed⟩ := h.pending
  obtain ⟨st, hwrote, hhash, hfingerprint⟩ := hasRecord_of_pending h.settled hthread hpending hnamed
  have hpaysCall : (x.calls i).Pays blob x.inclusion.transaction := by
    unfold Call.Pays
    rw [hpayload]
    exact hpays
  have htransaction : st.transaction = x.inclusion.transaction := by
    obtain ⟨blob', hpaysRecord⟩ := hhash
    exact congrArg Prod.snd (Except.ok.inj (hpaysRecord.symm.trans hpaysCall))
  refine ⟨last, st, hadmitted.last, hwrote, htransaction, ?_⟩
  -- The headers are compared once the response has been delivered.
  suffices hall : ∀ (same : Middleware.HeaderList → Middleware.HeaderList → Prop) (kept : Prop),
      (∀ delivered, Middleware.deliverCached env (x.settlement.replay (Middleware.skipHandlerDirective
          (Middleware.toStoredResponse env r.rebuilt r.chunks.flatten).sorted))
          (Middleware.toStoredResponse env r.rebuilt r.chunks.flatten).sorted = .ok delivered →
        (Middleware.SameResponse same r delivered ↔ kept)) →
      ((x.again pages).Total (x.Answers cp cs server (payerOf env tx) data now)
        (AnsweredWith same r x.inclusion.transaction) ↔ x.Resumes tx data st last now ∧ kept) by
    obtain ⟨delivered, hdelivered, hstatus, hbody, hequal, hperm⟩ :=
      Middleware.deliverCached_stored hlawful r rfl
    have hunique : ∀ delivered', Middleware.deliverCached env _ _ = .ok delivered' → delivered = delivered' :=
      fun delivered' h => Except.ok.inj (hdelivered.symm.trans h)
    refine ⟨?_, hall Eq _ fun delivered' h => ?_, hall List.Perm _ fun delivered' h => ?_⟩
    · have hanswered := hall (fun _ _ => True) True fun delivered' h => by
        rw [← hunique delivered' h]
        exact iff_of_true ⟨hstatus, hbody, trivial⟩ trivial
      rwa [and_true] at hanswered
    · rwa [← hunique delivered' h]
    · rwa [← hunique delivered' h]
  intro same kept hheaders
  have hsettle : (settle x.facilitator pages x.paid.payload x.paid.requirements).Total
      (x.inclusion.RetryAnswers x.calls cs server (payerOf env tx) data now)
      fun a => ∃ s, a = .ok s ∧ x.inclusion.Resolves st.firstLedgerSequence
        st.lastLedgerSequence s := by
    have hcall : (settle (x.calls i).facilitator pages (x.calls i).payload x.requirements).Total
        (x.inclusion.RetryAnswers x.calls cs server (payerOf env tx) data now)
        (x.inclusion.Resolved st.firstLedgerSequence st.lastLedgerSequence) :=
      Inclusion.total_settle_after hinj h.settled pages hrequirements hwrote ⟨blob, hpaysCall⟩
        htransaction hfingerprint
    rw [hfacilitator, hpayload] at hcall
    exact hcall
  have hanswers : ∀ o, ∃ a, x.Answers cp cs server (payerOf env tx) data now o a :=
    Exchange.exists_answer
  -- The reason decides whether the stored response is looked up.
  have hrefused : (refusalAfter env tx data (payerOf env tx) method last now ∉
        Middleware.staleAuthorizationFailures ∨
      Middleware.requiresResponseRecovery x.paid.authoritative = .ok false) →
      ¬ (x.again pages).Total (x.Answers cp cs server (payerOf env tx) data now)
        (AnsweredWith same r x.inclusion.transaction) := fun hcase =>
    not_answeredWith_of_refused (x.total_again_refused cp cs hlater hconsumed hadmitted hcase) same _
  by_cases hmethod : x.request.upperMethod env ∈ Middleware.safeMethods
  · refine iff_of_false (hrefused (.inr ?_)) fun hresumes => hresumes.1.method hmethod
    exact requiresResponseRecovery_safe x.route hmethod
  by_cases hstale : refusalAfter env tx data (payerOf env tx) method last now ∈
      Middleware.staleAuthorizationFailures
  · obtain ⟨hopen, hsigner⟩ := stale_refusalAfter_iff.mp hstale
    obtain ⟨k, hpaid, hkept, hdeclared, hrecovers⟩ := h.handled.stored h.free h.served hmethod
    obtain ⟨delivered, hdelivered, -⟩ := Middleware.deliverCached_stored hlawful r rfl
    have hsame := hheaders delivered hdelivered
    have hcall : (Middleware.httpCall env x.store (some (refusalAfter env tx data (payerOf env tx)
        method last now)) x.request.method x.paid).Total (StoreAnswers x.store x.requests cp)
        (· = .ok (.replayed (Middleware.toStoredResponse env r.rebuilt r.chunks.flatten).sorted)) :=
      total_httpCall h.free h.served hkept hpaid hdeclared hrecovers hstale
    have hserved : (x.again pages).Total (x.Answers cp cs server (payerOf env tx) data now)
        fun a => ∃ s, x.inclusion.Resolves st.firstLedgerSequence
        st.lastLedgerSequence s ∧
          a = .ok (if s.success then .settled delivered s else .failed s) :=
      total_serve_replayed (x.total_verify cs hlater hconsumed hadmitted) hcall hdelivered hsettle
    by_cases hsearched : x.inclusion.Searched st.firstLedgerSequence st.lastLedgerSequence
    · by_cases hsameResponse : Middleware.SameResponse same r delivered
      · refine iff_of_true (hserved.mono ?_) ⟨⟨hmethod, hopen, hsigner, hsearched⟩, hsame.mp hsameResponse⟩
        rintro _ ⟨s, ⟨hs, hsuccess⟩, rfl⟩
        rw [if_pos (hsuccess.mpr hsearched)]
        exact ⟨hsameResponse, hsuccess.mpr hsearched, hs⟩
      · refine iff_of_false (Total.not_total hanswers (hserved.mono ?_)) fun hresumes =>
          hsameResponse (hsame.mpr hresumes.2)
        rintro _ ⟨s, ⟨-, hsuccess⟩, rfl⟩ hanswered
        rw [if_pos (hsuccess.mpr hsearched)] at hanswered
        exact hsameResponse hanswered.1
    · refine iff_of_false (Total.not_total hanswers (hserved.mono ?_)) fun hresumes =>
        hsearched hresumes.1.searched
      rintro _ ⟨s, ⟨hs, hsuccess⟩, rfl⟩ hanswered
      rw [if_neg fun hs' => hsearched (hsuccess.mp hs')] at hanswered
      exact hanswered
  · refine iff_of_false (hrefused (.inl hstale)) fun hresumes => hstale ?_
    exact stale_refusalAfter_iff.mpr ⟨hresumes.1.open_, hresumes.1.signer⟩

end Resumption

/-! ### A pending order -/

namespace PaidOrder

open Middleware.Sample (orderEnv orders order orderRequest plain emptyDb responseStore)
open Facilitator.Sample (hash paid requirements identifiedPayload verification)

def scheme : ExactXRPLFacilitatorScheme orderEnv where
  settings := Facilitator.Sample.settings
  supportedAssets := [⟨xrpCode, none⟩, ⟨rlusdCode, some rlusdTestnetIssuer⟩]
  supported := by decide +kernel

/-- Ledger 101 includes the payment. -/
def inclusion : Inclusion orderEnv requirements where
  transaction := hash
  ledger := 101
  shown := paid
  isTransaction := ⟨rfl, rfl, _, rfl, .drops "1000" 1000 (by decide +kernel)⟩
  succeeded := by decide +kernel
  delivered := by decide +kernel

/-- An order, and the payer sends it once. -/
def exchange (request : Middleware.Request) : Exchange orderEnv Bool Unit where
  facilitator := scheme
  store := responseStore
  settlement := Middleware.Sample.settlement
  payload := identifiedPayload
  requirements := requirements
  request := request
  route := ⟨none, none, none, none, none, none⟩
  requests := orders
  calls := fun _ => ⟨scheme, 1, identifiedPayload, requirements⟩
  inclusion := inclusion

/-- The account, after the payment. -/
def accountAfter : Dict := [("Flags", .int 0), ("Sequence", .int 8)]

def noPage (_ : Json) : Page := ⟨[], .null⟩

/-- No tickets. -/
def noTickets : TicketServer orderEnv where
  answer _ := .obj []
  page := noPage
  pages _ := rfl
  sequences _ _ h := by cases h
  finite := (Set.finite_singleton Json.null).subset fun _ ⟨_, h⟩ => h.symm
  distinct := by
    rintro _ ⟨_, rfl⟩ _ ⟨_, rfl⟩ _
    rfl

theorem consumed : Consumed orderEnv noTickets 1 accountAfter Facilitator.Sample.tx where
  flags := ⟨0, by decide +kernel⟩
  sequence _ := by decide +kernel
  ticket n h := by cases h

/-- The settlement on ledger 100. Its only lookup is not answered. -/
def schedule : List (Label Unit Op Ret Stores) :=
  .start () :: List.replicate 8
    (.call () fun s => answers orderEnv (Facilitator.Sample.node 100) s.shared)

def sameWindow : Op → Bool
  | .reserve st _ => st.firstLedgerSequence = 100 && st.lastLedgerSequence = 110
  | .update st _ => st.firstLedgerSequence = 100 && st.lastLedgerSequence = 110
  | _ => true

def leftPending (c : SettleConfig Unit) : Bool :=
  c.state.log.all (fun e => sameWindow e.op) &&
    c.outcome () = some (.ok (pendingResponse hash "xrpl:1" "rPayer" "1000"))

theorem replay_schedule : ((settleSystem orderEnv fun _ : Unit =>
    ⟨scheme, 1, identifiedPayload, requirements⟩).replay schedule
      (Config.init Stores.empty)).any leftPending = true := by decide +kernel

theorem schedule_obeys : ∀ l ∈ schedule, l.Obeys inclusion.Allows := by
  intro l hl
  rcases List.mem_cons.mp hl with rfl | hl
  · trivial
  · rw [List.eq_of_mem_replicate hl]
    intro s o
    cases o with
    | rpc q =>
      cases q with
      | tx transaction minLedger maxLedger =>
        intro _
        exact ⟨fun d hd => (by cases hd), fun habsent => (by cases habsent)⟩
      | _ => trivial
    | _ => trivial

theorem exists_settled : ∃ cs : SettleConfig Unit,
    Run (settleSystem orderEnv (exchange orderRequest).calls) inclusion.Allows
      (Config.init Stores.empty) cs ∧
    cs.threads () = some (.ret (pendingResponse hash "xrpl:1" "rPayer" "1000")) ∧
    ∀ st, Wrote cs.state.log st → st.firstLedgerSequence = 100 ∧ st.lastLedgerSequence = 110 := by
  obtain ⟨cs, hrun, hcs⟩ := System.exists_run schedule_obeys replay_schedule
  simp only [leftPending, Bool.and_eq_true, decide_eq_true_eq, List.all_eq_true] at hcs
  obtain ⟨hwindow, houtcome⟩ := hcs
  refine ⟨cs, hrun, Config.outcome_eq_ok.mp houtcome, ?_⟩
  rintro st ⟨j, ⟨ttl, hmem⟩ | ⟨ttl, hmem⟩⟩
  · simpa [sameWindow] using hwindow _ hmem
  · simpa [sameWindow] using hwindow _ hmem

theorem payloadHash_order :
    payloadHash orderEnv identifiedPayload = .ok ("12000022", hash) := by decide +kernel

theorem exists_verified (request : Middleware.Request) : ∃ pages v,
    (verify (exchange request).facilitator pages (exchange request).payload
      (exchange request).requirements).Path verification (.ok v) ∧ v.isValid = true := by
  refine ⟨1, Facilitator.Sample.verified, ?_, rfl⟩
  have hverify : verify (exchange request).facilitator 1 (exchange request).payload
      (exchange request).requirements = verify scheme 1 identifiedPayload requirements := rfl
  rw [hverify]
  exact path_of_replay (by decide +kernel)

theorem answered_ledger (result : Json) (n : Int) (h : Answered verification .ledger result)
    (hn : ledgerIndex orderEnv (.ok result) = .ok n) : n ≤ 101 := by
  have hresult : result = .obj [("ledger_index", .int 100)] := by
    rcases List.mem_cons.mp h with heq | h
    · cases heq
      rfl
    · simp at h
  subst hresult
  have hledger : ledgerIndex orderEnv (.ok (.obj [("ledger_index", .int 100)])) = .ok 100 := by
    decide +kernel
  rw [hledger] at hn
  rw [← Except.ok.inj hn]
  decide

theorem pending_of_handled {request : Middleware.Request} {cp : PaidConfig Bool}
    {cs : SettleConfig Unit} {r : Middleware.HandlerResponse}
    (hserved : Run (Middleware.paidSystem responseStore orders) anyStep (Config.init emptyDb) cp)
    (hhandled : (exchange request).HandlerSucceeded cp r)
    (hsettled : Run (settleSystem orderEnv (exchange request).calls) inclusion.Allows
      (Config.init Stores.empty) cs)
    (hthread : cs.threads () = some (.ret (pendingResponse hash "xrpl:1" "rPayer" "1000"))) :
    (exchange request).Pending emptyDb cp cs verification r Facilitator.Sample.tx where
  transaction := ⟨"12000022", payloadHash_order, rfl⟩
  verified := exists_verified request
  free _ _ _ := rfl
  served := hserved
  handled := hhandled
  settled := hsettled
  pending := ⟨(), pendingResponse hash "xrpl:1" "rPayer" "1000", rfl, rfl, rfl, hthread, rfl, by decide⟩

/-- The order with a method whose responses are not kept. -/
def getRequest : Middleware.Request := ⟨"GET", "https://shop.example/order", []⟩

theorem get_handled (cp : PaidConfig Bool) : (exchange getRequest).HandlerSucceeded cp plain := by
  have hsafe : getRequest.upperMethod orderEnv ∈ Middleware.safeMethods := by decide +kernel
  exact .safe _ _ hsafe (path_bufferedCallNext_safe hsafe (by decide)) List.mem_cons_self
    (by decide)

end PaidOrder

/-- The order is resumed on ledger 101. -/
theorem pending_order_resumes : ∃ cp cs,
    (PaidOrder.exchange Middleware.Sample.orderRequest).Pending Middleware.Sample.emptyDb cp cs
      Facilitator.Sample.verification Middleware.Sample.plain Facilitator.Sample.tx ∧
    ((PaidOrder.exchange Middleware.Sample.orderRequest).again 1).Total
      ((PaidOrder.exchange Middleware.Sample.orderRequest).Answers cp cs PaidOrder.noTickets
        (payerOf Middleware.Sample.orderEnv Facilitator.Sample.tx) PaidOrder.accountAfter 101)
      (AnsweredWith Eq Middleware.Sample.plain Facilitator.Sample.hash) := by
  obtain ⟨cp, hrun, hran, hresponded, -, -⟩ := Middleware.exists_responded
    Middleware.Sample.responseStore Middleware.Sample.orders Middleware.Sample.plain
    Middleware.Sample.emptyDb rfl rfl Middleware.Sample.order_identified (by decide) (fun _ _ _ => rfl)
  obtain ⟨cs, hsettled, hthread, hwindow⟩ := PaidOrder.exists_settled
  have hpending := PaidOrder.pending_of_handled (hrun.mono fun _ _ _ => trivial)
    (.recoverable false _ rfl rfl rfl hran (by decide) hresponded) hsettled hthread
  obtain ⟨last, st, hlast, hwrote, -, -, hiff, -⟩ := pending_payment_resumes_iff
    Middleware.Sample.orderEnv_injective (PaidOrder.exchange Middleware.Sample.orderRequest)
    Middleware.Sample.settlement_lawful hpending PaidOrder.answered_ledger PaidOrder.consumed
  obtain ⟨hfirst, hend⟩ := hwindow st hwrote
  obtain rfl : 110 = last := Option.some.inj hlast
  refine ⟨cp, cs, hpending, hiff.mpr ⟨⟨by decide +kernel, by decide, by decide +kernel, ?_⟩,
    Middleware.Sample.plain_inStoredOrder⟩⟩
  rw [hfirst, hend]
  exact ⟨by decide, by decide, by decide⟩

/-- The same order with a safe method is refused: it has been paid. -/
theorem pending_get_is_refused : ∃ cp cs,
    (PaidOrder.exchange PaidOrder.getRequest).Pending Middleware.Sample.emptyDb cp cs
      Facilitator.Sample.verification Middleware.Sample.plain Facilitator.Sample.tx ∧
    ((PaidOrder.exchange PaidOrder.getRequest).again 1).Total
      ((PaidOrder.exchange PaidOrder.getRequest).Answers cp cs PaidOrder.noTickets
        (payerOf Middleware.Sample.orderEnv Facilitator.Sample.tx) PaidOrder.accountAfter 101)
      (· = .ok .paymentRequired) ∧
    ¬ ((PaidOrder.exchange PaidOrder.getRequest).again 1).Total
      ((PaidOrder.exchange PaidOrder.getRequest).Answers cp cs PaidOrder.noTickets
        (payerOf Middleware.Sample.orderEnv Facilitator.Sample.tx) PaidOrder.accountAfter 101)
      (AnsweredWith (fun _ _ => True) Middleware.Sample.plain Facilitator.Sample.hash) := by
  obtain ⟨cs, hsettled, hthread, -⟩ := PaidOrder.exists_settled
  have hpending := PaidOrder.pending_of_handled .refl
    (PaidOrder.get_handled (Config.init Middleware.Sample.emptyDb)) hsettled hthread
  obtain ⟨blob, hpays, htx⟩ := hpending.transaction
  obtain ⟨_, v, hpath, hv⟩ := hpending.verified
  obtain ⟨method, last, hadmitted⟩ := admitted_of_verified hpath hv hpays htx
  have hsafe : Middleware.requiresResponseRecovery
      (PaidOrder.exchange PaidOrder.getRequest).paid.authoritative = .ok false :=
    requiresResponseRecovery_safe _ (by decide +kernel)
  have hrefused := (PaidOrder.exchange PaidOrder.getRequest).total_again_refused
    (Config.init Middleware.Sample.emptyDb) cs PaidOrder.answered_ledger PaidOrder.consumed hadmitted
    (.inr hsafe)
  exact ⟨_, cs, hpending, hrefused, not_answeredWith_of_refused hrefused _ _⟩

end XrplX402
