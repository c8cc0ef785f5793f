import XrplX402.Payer.Mcp

/-! # One payload per request

    Any number of payers, and anybody else who works on the journal.

    * `Hands`: the answers through which the journal hands out a payload.
    * `follows_program`: payers dispatch only what the journal has handed out.
    * `one_payload_per_fingerprint`: a stored payload stays the only one for its
      fingerprint until the fingerprint is freed. -/

namespace XrplX402.Payer

open Py Interaction

/-! ## Section 1: Callers -/

/-- What a caller returns. -/
inductive CallResult where
  | paid (result : PayResult)
  | called (result : ToolResult)
  | done
  deriving DecidableEq

inductive Caller where
  | pay (payer : XRPLPayer) (waits : Nat) (args : PayArgs)
  | callTool (client : XRPLMCPClient) (waits : Nat) (name : String) (args : Dict)
  | callToolWithPayment (client : XRPLMCPClient) (waits : Nat) (name : String) (args : Dict)
      (payload : PaymentPayload)
  /-- Anything else that works on the journal. -/
  | operations (p : PayProg CallResult)

def Caller.program (E : PayerEnv) : Caller → PayProg CallResult
  | .pay payer waits args => do
    let result ← Payer.pay E payer waits args
    return .paid result
  | .callTool client waits name args => do
    let result ← Payer.callTool E.toEnv client waits name args
    return .called result
  | .callToolWithPayment client waits name args payload => do
    let result ← Payer.callToolWithPayment E.toEnv client waits none name args payload
    return .called result
  | .operations p => p

/-- The callers that pay. -/
def Caller.Pays : Caller → Prop
  | .operations _ => False
  | _ => True

abbrev PayConfig (ι : Type) := Config ι Op Ret Exc CallResult Journal

/-! ## Section 2: What payers dispatch -/

/-- The answer hands out a payload that is stored for a fingerprint. -/
def Hands (payload : PaymentPayload) : Event Op Ret → Prop
  | ⟨.claimAttempt _ _ _ _, r⟩ =>
    ∃ claim, r.result = .ok claim ∧ claim.attempt.paymentPayload = some payload
  | ⟨.persistAttemptPayload _ _ _ _, r⟩ => ∃ a, r = .ok a ∧ a.paymentPayload = some payload
  | ⟨.getAttempt _, r⟩ => ∃ a, r = .ok (some a) ∧ a.paymentPayload = some payload
  | _ => False

/-- The operation sends the payload to a server. -/
def Dispatches (payload : PaymentPayload) (o : Op) : Prop :=
  (∃ request, o = .httpRequest request (some payload)) ∨
    ∃ name args, o = .callToolPaid name args payload

/-- What is dispatched was handed out before. -/
def HandedOut (past : List (Event Op Ret)) (o : Op) : Prop :=
  ∀ payload, Dispatches payload o → ∃ e ∈ past, Hands payload e

/-- Operations that send no payload. -/
def Op.isSilent : Op → Bool
  | .httpRequest _ (some _) => false
  | .callToolPaid _ _ _ => false
  | _ => true

theorem handedOut_of_isSilent (past : List (Event Op Ret)) (o : Op) (ho : o.isSilent = true) :
    HandedOut past o := by
  intro payload hdispatch
  rcases hdispatch with ⟨request, rfl⟩ | ⟨name, args, rfl⟩
  · cases ho
  · cases ho

section Follows

variable {α : Type} {E : PayerEnv} {env : Env} {payer : XRPLPayer} {limit : Option XRPLAssetSpendLimit}
variable {challenge : PaymentRequired} {f account scope name : String} {claim : AttemptClaim}
variable {a : PayArgs} {args : Dict} {payload : PaymentPayload} {client : XRPLMCPClient}
variable {past t : List (Event Op Ret)}

theorem follows_of_silent {p : PayProg α} (hp : p.Uses fun o => o.isSilent = true) :
    p.Follows HandedOut past :=
  hp.follows handedOut_of_isSilent

theorem silent_of_waits {p : PayProg α} (hp : p.Uses fun o => o.waits = true) :
    p.Uses fun o => o.isSilent = true := by
  refine hp.mono fun o ho => ?_
  cases o with
  | httpRequest request signature => cases ho
  | callToolPaid name args payload => cases ho
  | _ => rfl

theorem silent_of_signs {p : PayProg α} (hp : p.Uses fun o => o.signs = true) :
    p.Uses fun o => o.isSilent = true := by
  refine hp.mono fun o ho => ?_
  cases o with
  | httpRequest request signature => cases ho
  | callToolPaid name args payload => cases ho
  | _ => rfl

theorem silent_of_concludes {p : PayProg α} (hp : p.Uses fun o => o.concludes = true) :
    p.Uses fun o => o.isSilent = true := by
  refine hp.mono fun o ho => ?_
  cases o with
  | httpRequest request signature => cases ho
  | callToolPaid name args payload => cases ho
  | _ => rfl

/-- A claim that came with a payload was handed it. -/
theorem hands_of_claimOrWait {waits : Nat} (h : (claimOrWait f account scope waits).Path t (.ok claim))
    (hp : claim.attempt.paymentPayload = some payload) : ∃ e ∈ t, Hands payload e := by
  induction waits generalizing t with
  | zero => exact h.elim
  | succ waits ih =>
    obtain ⟨r, t', rfl, hclaimed⟩ := h
    obtain ⟨got, hgot, hrest⟩ := Prog.path_ofExcept_bind_ok.mp hclaimed
    split at hrest
    · obtain rfl := Except.ok.inj hrest.2
      exact ⟨_, List.mem_cons_self, claim, hgot, hp⟩
    · obtain ⟨r', t'', rfl, hslept⟩ := hrest
      obtain ⟨-, -, hagain⟩ := Prog.path_ofExcept_bind_ok.mp hslept
      obtain ⟨e, he, hands⟩ := ih hagain
      exact ⟨e, List.mem_cons_of_mem _ (List.mem_cons_of_mem _ he), hands⟩

theorem hands_of_persist {created : PaymentPayload} {disappeared : Exc}
    (h : (persist env f claim created disappeared).Path t (.ok payload)) :
    ∃ e ∈ t, Hands payload e := by
  obtain ⟨r, t', rfl, h⟩ := h
  obtain ⟨attempt, hattempt, h⟩ := Prog.path_ofExcept_bind_ok.mp h
  cases hstored : attempt.paymentPayload with
  | none =>
    rw [hstored] at h
    cases h.2
  | some stored =>
    rw [hstored] at h
    obtain rfl := Except.ok.inj h.2
    exact ⟨_, List.mem_cons_self, attempt, hattempt, hstored⟩

/-- What a call sends came with its claim or was handed to it when it persisted. -/
theorem hands_of_obtainPayload
    (h : (obtainPayload E payer limit challenge f claim).Path t (.ok payload)) :
    claim.attempt.paymentPayload = some payload ∨ ∃ e ∈ t, Hands payload e := by
  unfold obtainPayload at h
  split at h
  · next stored hstored =>
    obtain ⟨-, -, h⟩ := Prog.path_ofExcept_bind_ok.mp h
    obtain rfl := Except.ok.inj h.2
    exact .inl hstored
  · obtain ⟨-, -, h⟩ := Prog.path_ofExcept_bind_ok.mp h
    obtain ⟨client, -, h⟩ := Prog.path_ofExcept_bind_ok.mp h
    obtain ⟨t₁, t₂, created, rfl, -, hpersist⟩ := Prog.path_bind_ok.mp h
    obtain ⟨e, he, hands⟩ := hands_of_persist hpersist
    exact .inr ⟨e, List.mem_append_right t₁ he, hands⟩

theorem hands_of_bindPayload {winner : PaymentPayload}
    (h : (bindPayload env f claim payload).Path t (.ok winner)) :
    claim.attempt.paymentPayload = some winner ∨ ∃ e ∈ t, Hands winner e := by
  unfold bindPayload at h
  split at h
  · exact .inr (hands_of_persist h)
  · next stored hstored =>
    obtain ⟨-, -, h⟩ := Prog.path_ofExcept_bind_ok.mp h
    obtain rfl := Except.ok.inj h.2
    exact .inl hstored

/-- The payload that came with a claim was handed out in the past. -/
def Covers (past : List (Event Op Ret)) (claim : AttemptClaim) : Prop :=
  ∀ payload, claim.attempt.paymentPayload = some payload → ∃ e ∈ past, Hands payload e

theorem Covers.append (h : Covers past claim) (t : List (Event Op Ret)) : Covers (past ++ t) claim := by
  intro payload hp
  obtain ⟨e, he, hands⟩ := h payload hp
  exact ⟨e, List.mem_append_left t he, hands⟩

theorem covers_of_claimOrWait {waits : Nat}
    (h : (claimOrWait f account scope waits).Path t (.ok claim)) : Covers (past ++ t) claim := by
  intro payload hp
  obtain ⟨e, he, hands⟩ := hands_of_claimOrWait h hp
  exact ⟨e, List.mem_append_right past he, hands⟩

/-- A payload with its origin may be dispatched. -/
theorem handedOut_of_origin {o : Op} (hcovers : Covers past claim)
    (horigin : claim.attempt.paymentPayload = some payload ∨ ∃ e ∈ t, Hands payload e)
    (ho : ∀ p, Dispatches p o → p = payload) : HandedOut (past ++ t) o := by
  intro p hp
  rw [ho p hp]
  rcases horigin with hclaim | ⟨e, he, hands⟩
  · exact hcovers.append t payload hclaim
  · exact ⟨e, List.mem_append_right past he, hands⟩

theorem follows_sendRequest {stored : PaymentPayload} (request : HttpRequest)
    (h : HandedOut past (.httpRequest request (some stored))) :
    (sendRequest request (some stored)).Follows HandedOut past :=
  ⟨h, fun _ => follows_of_silent (Prog.uses_ofExcept _)⟩

theorem dispatches_httpRequest {request : HttpRequest} {p : PaymentPayload}
    (h : Dispatches p (.httpRequest request (some payload))) : p = payload := by
  rcases h with ⟨request', heq⟩ | ⟨name, args, heq⟩
  · cases heq
    rfl
  · cases heq

theorem dispatches_callToolPaid {p : PaymentPayload}
    (h : Dispatches p (.callToolPaid name args payload)) : p = payload := by
  rcases h with ⟨request', heq⟩ | ⟨name', args', heq⟩
  · cases heq
  · cases heq
    rfl

theorem follows_payClaimed (hcovers : Covers past claim) :
    (payClaimed E payer limit a challenge f claim).Follows HandedOut past := by
  have hobtain : (tryCatch (obtainPayload E payer limit challenge f claim)
      (abandon E a f claim claim.attempt.paymentPayload)).Follows HandedOut past :=
    (follows_of_silent (silent_of_signs uses_obtainPayload)).tryCatch fun t e _ =>
      follows_of_silent (silent_of_concludes (uses_abandon e))
  refine hobtain.bind fun t payload ht => ?_
  have horigin := hands_of_obtainPayload (path_of_abandoned ht)
  have hsend := follows_sendRequest a.request
    (handedOut_of_origin hcovers horigin fun p => dispatches_httpRequest)
  refine (hsend.tryCatch fun t' e _ => follows_of_silent (silent_of_concludes (uses_abandon e))).bind fun t' response _ => ?_
  exact follows_of_silent (silent_of_concludes uses_concludePayment)

/-- `pay` sends what the journal has handed it, and nothing else. -/
theorem follows_pay (waits : Nat) : (pay E payer waits a).Follows HandedOut past := by
  -- The request without a payment hands nothing out.
  have hrequest : (sendRequest a.request none).Uses fun o => o.isSilent = true :=
    ⟨rfl, fun _ => Prog.uses_ofExcept _⟩
  unfold pay
  refine Prog.follows_ofExcept_bind fun limit _ => ?_
  split
  · refine follows_of_silent (hrequest.bind fun response => ?_)
    exact (Prog.uses_ofExcept _).bind fun _ => (Prog.uses_ofExcept _).bind fun _ => trivial
  · cases payer.payerAccount with
    | none => trivial
    | some account =>
      refine Prog.follows_ofExcept_bind fun f _ => ?_
      refine (follows_of_silent hrequest).bind fun t response _ => ?_
      split
      · trivial
      · refine Prog.follows_ofExcept_bind fun challenge _ => ?_
        refine (follows_of_silent (silent_of_waits (uses_claimOrWait waits))).bind fun t' claim ht' => ?_
        exact follows_payClaimed (covers_of_claimOrWait ht')

/-- The claim around a tool call, when there is one, was handed its payload. -/
def CoversContext (past : List (Event Op Ret)) (current : Option AttemptContext) : Prop :=
  ∀ c ∈ current, Covers past c.claim

theorem covers_of_claimForCall {waits : Nat} {current : Option AttemptContext}
    (hcurrent : CoversContext past current)
    (h : (claimForCall env client waits current name args payload).Path t (.ok (f, claim))) :
    Covers (past ++ t) claim := by
  unfold claimForCall at h
  cases current with
  | none =>
    obtain ⟨t₁, t₂, got, rfl, hgot, hret⟩ := Prog.path_bind_ok.mp h
    obtain ⟨rfl, hr⟩ := hret
    obtain ⟨-, rfl⟩ := Prod.mk.inj (Except.ok.inj hr)
    rw [List.append_nil]
    exact covers_of_claimOrWait hgot
  | some current =>
    obtain ⟨-, -, hvalidate⟩ := Prog.path_ofExcept_bind_ok.mp h
    obtain ⟨-, -, hret⟩ := Prog.path_ofExcept_bind_ok.mp hvalidate
    obtain ⟨-, rfl⟩ := Prod.mk.inj (Except.ok.inj hret.2)
    exact (hcurrent current rfl).append t

theorem silent_claimForCall {waits : Nat} {current : Option AttemptContext} :
    (claimForCall env client waits current name args payload).Uses fun o => o.isSilent = true := by
  unfold claimForCall
  cases current with
  | none => exact (silent_of_waits (uses_claimOrWait waits)).bind fun _ => trivial
  | some current =>
    exact (Prog.uses_ofExcept _).bind fun _ => (Prog.uses_ofExcept _).bind fun _ => trivial

theorem silent_bindPayload : (bindPayload env f claim payload).Uses fun o => o.isSilent = true := by
  unfold bindPayload
  split
  · exact silent_of_signs uses_persist
  · exact (Prog.uses_ofExcept _).bind fun _ => trivial

theorem follows_callToolWithPayment {waits : Nat} {current : Option AttemptContext}
    (hcurrent : CoversContext past current) :
    (callToolWithPayment env client waits current name args payload).Follows HandedOut past := by
  refine (follows_of_silent silent_claimForCall).bind fun t claimed ht => ?_
  obtain ⟨f, claim⟩ := claimed
  refine (follows_of_silent silent_bindPayload).bind fun t' winner ht' => ?_
  -- What is sent is what the journal gave back.
  have hdispatch : HandedOut (past ++ t ++ t') (.callToolPaid name args winner) :=
    handedOut_of_origin (covers_of_claimForCall hcurrent ht) (hands_of_bindPayload ht')
      fun p => dispatches_callToolPaid
  have hcall : (Prog.call (.callToolPaid name args winner) Prog.ofExcept :
      PayProg ToolResult).Follows HandedOut (past ++ t ++ t') :=
    ⟨hdispatch, fun _ => follows_of_silent (Prog.uses_ofExcept _)⟩
  refine (hcall.tryCatch fun t'' e _ => follows_of_silent ?_).bind fun t'' result _ => ?_
  · exact (Prog.uses_ofExcept _).bind fun _ => (silent_of_concludes (uses_recordReceipt _)).bind fun _ =>
      Prog.uses_raise e
  · refine follows_of_silent ?_
    cases result.paymentResponse with
    | some settlement => exact (silent_of_concludes (uses_recordReceipt _)).bind fun _ => trivial
    | none => exact (Prog.uses_ofExcept _).bind fun _ => (silent_of_concludes (uses_recordReceipt _)).bind fun _ => trivial

theorem follows_callTool (waits : Nat) :
    (callTool env client waits name args).Follows HandedOut past := by
  have hcall : (Prog.call (.callTool name args) Prog.ofExcept :
      PayProg (ToolResult ⊕ PaymentRequired)).Uses fun o => o.isSilent = true :=
    ⟨rfl, fun _ => Prog.uses_ofExcept _⟩
  refine (follows_of_silent hcall).bind fun t answer _ => ?_
  cases answer with
  | inl result => trivial
  | inr challenge =>
    -- The attempt is claimed before a payment is selected.
    have hresume : (resumePending env client waits name args challenge).Uses
        fun o => o.isSilent = true := (silent_of_waits (uses_claimOrWait waits)).bind fun _ => trivial
    refine (follows_of_silent hresume).bind fun t' current ht' => ?_
    have hcovers : Covers (past ++ t ++ t') current.claim := by
      obtain ⟨t₁, t₂, claim, rfl, hclaim, hret⟩ := Prog.path_bind_ok.mp ht'
      obtain ⟨rfl, hr⟩ := hret
      rw [Except.ok.inj hr, List.append_nil]
      exact covers_of_claimOrWait hclaim
    -- A call that fails gives its claim back.
    refine Prog.Follows.tryCatch ?_ fun t'' e _ =>
      follows_of_silent ((silent_of_concludes uses_release).bind fun _ => Prog.uses_raise e)
    refine Prog.follows_ofExcept_bind fun resumed _ => ?_
    have hselect : (Prog.call (.selectPayment challenge resumed) Prog.ofExcept :
        PayProg PaymentPayload).Uses fun o => o.isSilent = true :=
      ⟨rfl, fun _ => Prog.uses_ofExcept _⟩
    refine (follows_of_silent hselect).bind fun t'' payment _ => follows_callToolWithPayment ?_
    intro c hc
    obtain rfl := Option.some.inj hc
    exact hcovers.append t''

/-- Every payer dispatches only what the journal has handed it. -/
theorem follows_program {caller : Caller} (h : caller.Pays) :
    (caller.program E).Follows HandedOut past := by
  cases caller with
  | pay payer waits args => exact (follows_pay waits).bind fun _ _ _ => trivial
  | callTool client waits name args => exact (follows_callTool waits).bind fun _ _ _ => trivial
  | callToolWithPayment client waits name args payload =>
    refine (follows_callToolWithPayment ?_).bind fun _ _ _ => trivial
    intro c hc
    cases hc
  | operations p => exact h.elim

end Follows

/-! ## Section 3: What one step hands out -/

section System

variable {ι : Type} {E : PayerEnv} {env : Env} {callers : ι → Caller} {s : JournalState ι} {i : ι}

/-- Every caller runs its program on the one journal. -/
def callerSystem (E : PayerEnv) (callers : ι → Caller) : System ι Op Ret Exc CallResult Journal :=
  payerSystem E.toEnv fun i => (callers i).program E

/-- Whatever an answer hands out is stored. -/
def HandsPersisted (e : Entry ι Op Ret) (older : List (Entry ι Op Ret)) : Prop :=
  ∀ payload, Hands payload e.toEvent → ∃ f, PersistedIn (e :: older) f payload

theorem handsPersisted_of_step {o : Op} {r : Ret o} {j' : Journal} (h : JournalInvariant env s)
    (hx : exec env s.shared o r = some j') : HandsPersisted ⟨⟨o, r⟩, i⟩ s.log := by
  intro payload hands
  have hstored : ∀ {f a}, s.shared.attempt f = some a → a.paymentPayload = some payload →
      ∃ f, PersistedIn (⟨⟨o, r⟩, i⟩ :: s.log) f payload := by
    intro f a ha hp
    exact ⟨f, (h.persisted f payload ⟨a, ha, hp⟩).mono (List.suffix_cons _ _)⟩
  -- What an operation hands out is stored in the attempt that it read.
  cases o with
  | claimAttempt f payer scope lease =>
    obtain ⟨now, token, result⟩ := r
    obtain ⟨claim, rfl, hp⟩ := hands
    have houtcome := exec_claimAttempt h.sound hx
    cases houtcome with
    | found attempt stored live allowed held => exact hstored stored hp
    | granted nonempty free => cases hp
  | persistAttemptPayload f token created identifier =>
    obtain ⟨a, rfl, hp⟩ := hands
    have houtcome := exec_persistAttemptPayload h.sound hx
    cases houtcome with
    | held attempt stored held => exact hstored stored hp
    | persisted attempt stored free owner =>
      obtain rfl : created = payload := Option.some.inj hp
      exact ⟨f, i, token, identifier, _, hp, List.mem_cons_self⟩
  | getAttempt f =>
    obtain ⟨a, rfl, hp⟩ := hands
    have hget := (performed_eq_some.mp hx).1
    rw [getAttempt, h.sound.read] at hget
    exact hstored (Except.ok.inj hget).symm hp
  | _ => exact hands.elim

theorem stored_of_releaseClaim {f f' : String} {token : Option String} {payload : PaymentPayload}
    {r : Except Exc Unit} {j' : Journal} (h : s.shared.Sound env) (hs : Stored s.shared f payload)
    (hx : exec env s.shared (.releaseClaim f' token) r = some j') : Stored j' f payload := by
  obtain ⟨-, rfl⟩ := performed_eq_some.mp hx
  obtain ⟨a, ha, hp⟩ := hs
  rcases releaseClaim_outcome (f := f') h with hsame | ⟨attempt, stored, -, hnone, hpop⟩
  · exact ⟨a, by rw [hsame, ha], hp⟩
  · have hf : ¬ f = f' := by
      rintro rfl
      rw [ha] at stored
      obtain rfl := Option.some.inj stored
      rw [hnone] at hp
      cases hp
    exact ⟨a, by rw [hpop, attempt_pop, if_neg hf, ha], hp⟩

/-- The fingerprint is bound to the payload of this attempt: nobody becomes an
    owner, and every answer about the fingerprint has the payload. A claim of
    somebody else is refused. -/
structure Bound (env : Env) (f : String) (a : PaymentAttempt) (payload : PaymentPayload)
    (s : JournalState ι) : Prop where
  stored : ∀ other, Stored s.shared f other ↔ other = payload
  claim : ∀ payer scope lease r j', exec env s.shared (.claimAttempt f payer scope lease) r = some j' →
    ¬ Ended s.shared f r.now →
      (ClaimRefused a payer scope → ∃ e, r.result = .error e) ∧
      (¬ ClaimRefused a payer scope →
        ∃ b, r.result = .ok ⟨b, none⟩ ∧ b.paymentPayload = some payload)
  persist : ∀ token other identifier r j',
    exec env s.shared (.persistAttemptPayload f token other identifier) r = some j' →
      j' = s.shared ∧ ∃ b, r = .ok b ∧ b.paymentPayload = some payload
  get : ∀ r j', exec env s.shared (.getAttempt f) r = some j' →
    ∃ b, r = .ok (some b) ∧ b.paymentPayload = some payload

theorem SameAttempt.claimRefused {a b : PaymentAttempt} (h : SameAttempt a b) {payer scope : String} :
    ClaimRefused b payer scope ↔ ClaimRefused a payer scope := by
  unfold ClaimRefused
  rw [h.payer, h.recoveryScope]

theorem bound_of_stored {f : String} {a b : PaymentAttempt} {payload : PaymentPayload}
    (h : JournalInvariant env s) (hb : s.shared.attempt f = some b) (hsame : SameAttempt a b)
    (hp : a.paymentPayload = some payload) : Bound env f a payload s := by
  have hbp : b.paymentPayload = some payload := hsame.payload.trans hp
  -- No other payload is stored, handed to a claim, persisted or read.
  refine ⟨?_, ?_, ?_, ?_⟩
  · intro other
    constructor
    · rintro ⟨attempt, hattempt, hother⟩
      rw [hb] at hattempt
      obtain rfl := Option.some.inj hattempt
      exact Option.some.inj (hother.symm.trans hbp)
    · rintro rfl
      exact ⟨b, hb, hbp⟩
  · intro payer scope lease r j' hx hlive
    obtain ⟨now, token, result⟩ := r
    have houtcome := exec_claimAttempt h.sound hx
    cases houtcome with
    | refused e reason =>
      have hrefused : ClaimRefused a payer scope := by
        rcases reason with hblank | ⟨attempt, hattempt, hrefused⟩
        · exact .inl hblank
        · rw [hb] at hattempt
          obtain rfl := Option.some.inj hattempt
          exact hsame.claimRefused.mp hrefused
      exact ⟨fun _ => ⟨e, rfl⟩, fun hallowed => absurd hrefused hallowed⟩
    | found attempt stored live hallowed held =>
      rw [hb] at stored
      obtain rfl := Option.some.inj stored
      exact ⟨fun hr => absurd (hsame.claimRefused.mpr hr) hallowed, fun _ => ⟨b, rfl, hbp⟩⟩
    | granted nonempty free =>
      have hnone := (free b hb fun hexpired => hlive ⟨b, hb, hexpired⟩).1
      rw [hbp] at hnone
      cases hnone
  · intro token other identifier r j' hx
    have houtcome := exec_persistAttemptPayload h.sound hx
    cases houtcome with
    | refused e reason =>
      have hnone := (reason b hb).1
      rw [hbp] at hnone
      cases hnone
    | held attempt stored held =>
      rw [hb] at stored
      obtain rfl := Option.some.inj stored
      exact ⟨rfl, b, rfl, hbp⟩
    | persisted attempt stored free owner =>
      rw [hb] at stored
      obtain rfl := Option.some.inj stored
      rw [hbp] at free
      cases free
  · intro r j' hx
    have hget := (performed_eq_some.mp hx).1
    rw [getAttempt, h.sound.read, hb] at hget
    exact ⟨b, hget, hbp⟩

/-! ## Section 4: One payload per fingerprint -/

variable [DecidableEq ι] {c c' : PayConfig ι}
variable {allowed : JournalState ι → Entry ι Op Ret → Prop}

theorem handsPersisted_of_run (hlaw : ∀ s e, allowed s e → Lawful E.toEnv s e)
    (h : Run (callerSystem E callers) allowed (Config.init Journal.empty) c) :
    JournalInvariant E.toEnv c.state ∧ EveryEntry HandsPersisted c.state.log := by
  refine h.keep (I := fun s => JournalInvariant E.toEnv s ∧ EveryEntry HandsPersisted s.log) ?_
    ⟨journalInvariant_init, trivial⟩
  rintro s i o r t ⟨hinv, hlog⟩ hx ha
  exact ⟨hinv.step hx (hlaw s _ ha), handsPersisted_of_step hinv hx, hlog⟩

/-- What a payer dispatched had been persisted before. -/
theorem persisted_of_dispatch (hlaw : ∀ s e, allowed s e → Lawful E.toEnv s e)
    (h : Run (callerSystem E callers) allowed (Config.init Journal.empty) c)
    {newer older : List (Entry ι Op Ret)} {e : Entry ι Op Ret}
    (hlog : c.state.log = newer ++ e :: older) (hpays : (callers e.who).Pays)
    {payload : PaymentPayload} (hd : Dispatches payload e.op) : ∃ f, PersistedIn older f payload := by
  obtain ⟨e, i⟩ := e
  have hfollows : ((callers i).program E).Follows HandedOut [] := follows_program hpays
  obtain ⟨e', he', hands⟩ := h.own_follows hfollows hlog payload hd
  -- The answer that handed the payload out is an older entry of the log.
  have hevery := (handsPersisted_of_run hlaw h).2
  rw [hlog] at hevery
  have hmem : (⟨e', i⟩ : Entry ι Op Ret) ∈ older := mem_own.mp he'
  obtain ⟨newer', older', hsplit, hpersisted⟩ := hevery.suffix.2.of_mem hmem
  obtain ⟨f, hf⟩ := hpersisted payload hands
  exact ⟨f, hf.mono ⟨newer', hsplit.symm⟩⟩

/-- What holds of every journal that payers and others have worked on. -/
structure OnePayload (E : PayerEnv) (callers : ι → Caller) (c : PayConfig ι) : Prop where
  /-- A stored payload stays the only one until its fingerprint is freed. -/
  bound : ∀ {f a payload c'}, c.state.shared.attempt f = some a → a.paymentPayload = some payload →
    Run (callerSystem E callers) (fun s e => Lawful E.toEnv s e ∧ ¬ Frees f s e) c c' →
      Bound E.toEnv f a payload c'.state
  /-- A signer whose lease was taken over stores nothing. -/
  takenOver : ∀ {f token payload identifier r j'}, TakenOver f token c.state.log →
    exec E.toEnv c.state.shared (.persistAttemptPayload f (some token) payload identifier) r = some j' →
      j' = c.state.shared
  /-- A release removes no payload. -/
  released : ∀ {f f' token payload r j'}, Stored c.state.shared f payload →
    exec E.toEnv c.state.shared (.releaseClaim f' token) r = some j' → Stored j' f payload
  /-- What a payer dispatched was stored before. -/
  dispatched : ∀ {newer older e payload}, c.state.log = newer ++ e :: older →
    (callers e.who).Pays → Dispatches payload e.op → ∃ f, PersistedIn older f payload

/-- One signed payload per request fingerprint. -/
theorem one_payload_per_fingerprint
    (h : Run (callerSystem E callers) (Lawful E.toEnv) (Config.init Journal.empty) c) :
    OnePayload E callers c := by
  have hinv : JournalInvariant E.toEnv c.state := (handsPersisted_of_run (fun _ _ ha => ha) h).1
  refine ⟨?_, ?_, ?_, ?_⟩
  · intro f a payload c' ha hp hrun
    have hsome : a.paymentPayload.isSome := by rw [hp]; rfl
    obtain ⟨b, hb, hsame⟩ := kept_of_run (fun _ _ hs => hs) hrun hinv ha hsome
    exact bound_of_stored (hinv.run (fun _ _ hs => hs.1) hrun) hb hsame hp
  · intro f token payload identifier r j' htaken hx
    have houtcome := exec_persistAttemptPayload hinv.sound hx
    cases houtcome with
    | refused e reason => rfl
    | held attempt stored held => rfl
    | persisted attempt stored free owner =>
      exact absurd (Option.some.inj owner).symm (hinv.takenOver f token htaken attempt stored)
  · intro f f' token payload r j' hs hx
    exact stored_of_releaseClaim hinv.sound hs hx
  · intro newer older e payload hlog hpays hd
    exact persisted_of_dispatch (fun _ _ ha => ha) h hlog hpays hd

end System

/-! ## Section 5: A run -/

namespace Sample

def requirements : PaymentRequirements :=
  ⟨"exact", "xrpl:1", "XRP", "5000", "rMerchant", 60, some [("areFeesSponsored", .bool false)]⟩

/-- A payload with this blob. -/
def signed (blob : String) : PaymentPayload :=
  ⟨2, [("signedTxBlob", .str blob)], requirements, none, none⟩

def challenge : PaymentRequired := ⟨2, none, [requirements], none⟩

/-- The `PAYMENT-REQUIRED` header of the challenge. -/
def challengeHeader : String :=
  "eyJ4NDAyVmVyc2lvbiI6MiwiYWNjZXB0cyI6W3sic2NoZW1lIjoiZXhhY3QiLCJuZXR3b3JrIjoieHJwbDoxIiwiYXNzZXQi" ++
    "OiJYUlAiLCJhbW91bnQiOiI1MDAwIiwicGF5VG8iOiJyTWVyY2hhbnQiLCJtYXhUaW1lb3V0U2Vjb25kcyI6NjAsImV4dHJh" ++
    "Ijp7ImFyZUZlZXNTcG9uc29yZWQiOmZhbHNlfX1dfQ=="

/-- A failure of the payment with this transaction. -/
def failure (reason transaction : String) : SettleResponse :=
  ⟨false, some reason, none, some "rPayer", transaction, "xrpl:1", none, none, none⟩

/-- The facilitator refused the payload and names no transaction. -/
def refused : SettleResponse := failure "invalid_exact_xrpl_payload_sequence_not_current" ""

def refusedHeader : String :=
  "eyJzdWNjZXNzIjpmYWxzZSwiZXJyb3JSZWFzb24iOiJpbnZhbGlkX2V4YWN0X3hycGxfcGF5bG9hZF9zZXF1ZW5jZV9ub3Rf" ++
    "Y3VycmVudCIsInBheWVyIjoiclBheWVyIiwidHJhbnNhY3Rpb24iOiIiLCJuZXR3b3JrIjoieHJwbDoxIn0="

/-- The transaction has expired. -/
def expired : SettleResponse := failure "transaction_expired" "A1"

def expiredHeader : String :=
  "eyJzdWNjZXNzIjpmYWxzZSwiZXJyb3JSZWFzb24iOiJ0cmFuc2FjdGlvbl9leHBpcmVkIiwicGF5ZXIiOiJyUGF5ZXIiLCJ0" ++
    "cmFuc2FjdGlvbiI6IkExIiwibmV0d29yayI6InhycGw6MSJ9"

/-- The text of the request that is hashed. -/
def requestText : String :=
  "\x7b\"bodySha256\":\"e3b0c44298fc1c149afbf4c8996fb92427ae41e4649b934ca495991b7852b855\"," ++
    "\"headers\":[],\"method\":\"GET\",\"payer\":\"rPayer\"," ++
    "\"url\":\"https://merchant.example/premium\"\x7d"

def fingerprint : String := "d7447c8179053885e5bdf3cb9a0a3b32fdbfeddd5d20b3ede239335039478202"

/-- SHA-256 digests of the texts that are hashed below. -/
def digests : List (String × List UInt8) :=
  [("",
      [227, 176, 196, 66, 152, 252, 28, 20, 154, 251, 244, 200, 153, 111, 185, 36, 39, 174, 65, 228,
        100, 155, 147, 76, 164, 149, 153, 27, 120, 82, 184, 85]),
    (requestText,
      [215, 68, 124, 129, 121, 5, 56, 133, 229, 189, 243, 203, 154, 10, 59, 50, 253, 191, 237, 221,
        93, 32, 179, 237, 226, 57, 51, 80, 57, 71, 130, 2])]

def sampleEnv : PayerEnv where
  unicode := asciiData
  sha256 := tableHash digests
  sha512 := fun _ => []
  decode := fun _ => .ok []
  encodeForSigning := fun _ => .ok "53545800"
  isValidMessage := fun _ _ _ => .ok true
  isValidClassicAddress := fun _ => true
  deriveClassicAddress := fun _ => .ok "rPayer"
  paymentFromXrpl := fun tx => .ok tx
  extractPaymentIdentifier := fun _ => none
  extractAndValidatePaymentIdentifier := fun _ => .ok none
  validatePaymentIdentifierRequirement := fun _ => .ok ()
  laxBool := fun _ => none
  laxInt := fun _ => none
  serializable := fun _ => true
  validationText := fun model _ => "validation error for " ++ model
  canonicalUrl := fun url => .ok url
  decodePaymentRequired := fun raw =>
    if raw = challengeHeader then .ok challenge else .error (valueError "invalid header")
  decodePaymentResponseHeader := fun raw =>
    if raw = refusedHeader then .ok (some refused)
    else if raw = expiredHeader then .ok (some expired)
    else .error (valueError "invalid header")

def payer : XRPLPayer := ⟨some "rPayer", some "rPayer", "xrpl:1"⟩

/-- The arguments of one call with this cap. -/
def upTo (cap : String) : PayArgs :=
  ⟨"https://merchant.example/premium", some "XRP", none, some cap, false, "GET", [], none⟩

/-- The 402 answer. -/
def unpaid : HttpResponse := ⟨402, [("payment-required", challengeHeader)], []⟩

def answeredBy (header : String) : HttpResponse := ⟨402, [("payment-response", header)], []⟩

abbrev Step := Label (Fin 4) Op Ret Journal

/-- The next step of caller `i`: the journal answers as it does at this time,
    the server and the upstream client as given. -/
def step (i : Fin 4) (now : ℚ) (token : String) (response : HttpResponse)
    (created : PaymentPayload) : Step :=
  .call i fun s o =>
    match o with
    | .claimAttempt f payer scope lease =>
      ⟨now, token, (claimAttempt sampleEnv.toEnv f payer scope lease now token s.shared).1⟩
    | .persistAttemptPayload f owner payload identifier =>
      (persistAttemptPayload sampleEnv.toEnv f owner payload identifier s.shared).1
    | .releaseClaim f owner => (releaseClaim sampleEnv.toEnv f owner s.shared).1
    | .recordOutcome receipt reuse =>
      ⟨now, (recordOutcome sampleEnv.toEnv receipt reuse now s.shared).1⟩
    | .pruneExpiredAttempts => ⟨now, (pruneExpiredAttempts now s.shared).1⟩
    | .getAttempt f => getAttempt sampleEnv.toEnv f s.shared
    | .httpRequest _ _ => .ok response
    | .createPaymentPayload _ _ => .ok created
    | .callTool _ _ => .error (runtimeError "no tool")
    | .selectPayment _ _ => .error (runtimeError "no tool")
    | .callToolPaid _ _ _ => .error (runtimeError "no tool")
    | .sleep => .ok ()

/-- Steps of a caller that signs this payload, when it has to, with this token:
    the request, the claim, and the payload stored. -/
def obtains (i : Fin 4) (token : String) (created : PaymentPayload) : List Step :=
  .start i :: List.replicate 4 (step i 0 token unpaid created)

/-- A caller that finds a stored payload. -/
def finds (i : Fin 4) (token : String) : List Step :=
  .start i :: List.replicate 2 (step i 0 token unpaid (signed ""))

/-- The paid request is answered by this header, and the outcome is recorded. -/
def concludes (i : Fin 4) (header : String) : List Step :=
  List.replicate 2 (step i 0 "" (answeredBy header) (signed ""))

/-- The cap of caller 1 is lower than those of the others. -/
def callers (i : Fin 4) : Caller := .pay payer 1 (upTo (if i = 1 then "1000" else "5000"))

abbrev system : System (Fin 4) Op Ret Exc CallResult Journal := callerSystem sampleEnv callers

theorem step_obeys {ls : List Step} : ∀ l ∈ ls, l.Obeys (anyStep : JournalState (Fin 4) → _ → Prop) := by
  intro l _
  cases l with
  | start i => trivial
  | call i answer => exact fun _ _ => trivial

/-- Where a schedule leads, and what can be evaluated there. -/
theorem exists_lawful_run (ls : List Step) (f : PayConfig (Fin 4) → Bool)
    (h : (system.replay ls (Config.init Journal.empty)).any
      (fun c => isLawfulLog sampleEnv.toEnv c.state.log && f c) = true) :
    ∃ c, Run system (Lawful sampleEnv.toEnv) (Config.init Journal.empty) c ∧ f c = true := by
  obtain ⟨c, hrun, hc⟩ := System.exists_run step_obeys h
  obtain ⟨hlog, hf⟩ := Bool.and_eq_true_iff.mp hc
  have hlawful := hrun.of_every_entry (everyEntry_of_isLawfulLog (j := Journal.empty) hlog)
  exact ⟨c, hlawful.mono fun s e ha => ha.2, hf⟩

/-- The payload that is stored for the request. -/
def storedPayload (c : PayConfig (Fin 4)) : Option PaymentPayload :=
  (c.state.shared.attempt fingerprint).bind PaymentAttempt.paymentPayload

/-- What a claim of another payer gets. -/
def claimOfOther (c : PayConfig (Fin 4)) : Except Exc AttemptClaim :=
  (claimAttempt sampleEnv.toEnv fingerprint "rOther" "http" 30 1 "t1" c.state.shared).1

theorem run_stored : ∃ c, Run system (Lawful sampleEnv.toEnv) (Config.init Journal.empty) c ∧
    storedPayload c = some (signed "AA") ∧ claimOfOther c = .error scopeMismatch := by
  obtain ⟨c, hrun, hc⟩ := exists_lawful_run (obtains 0 "t0" (signed "AA"))
    (fun c => storedPayload c = some (signed "AA") && claimOfOther c = .error scopeMismatch)
    (by decide +kernel)
  simp only [Bool.and_eq_true, decide_eq_true_eq] at hc
  exact ⟨c, hrun, hc⟩

end Sample

/-- A claim of another payer is refused, although a payload is stored. -/
theorem claim_of_another_payer_refused : ∃ c,
    Run Sample.system (Lawful Sample.sampleEnv.toEnv) (Config.init Journal.empty) c ∧
      Stored c.state.shared Sample.fingerprint (Sample.signed "AA") ∧
        Sample.claimOfOther c = .error scopeMismatch := by
  obtain ⟨c, hrun, hstored, hother⟩ := Sample.run_stored
  exact ⟨c, hrun, Option.bind_eq_some_iff.mp hstored, hother⟩

theorem one_payload_per_fingerprint_sample : ∃ c : PayConfig (Fin 4),
    Stored c.state.shared Sample.fingerprint (Sample.signed "AA") ∧
      OnePayload Sample.sampleEnv Sample.callers c := by
  obtain ⟨c, hrun, hstored, -⟩ := Sample.run_stored
  exact ⟨c, Option.bind_eq_some_iff.mp hstored, one_payload_per_fingerprint hrun⟩

end XrplX402.Payer
