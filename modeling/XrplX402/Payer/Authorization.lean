import XrplX402.Payer.OnePayload

/-! # The authorization of the current call

    What one call of `pay` sends, against the limit that this call was given.

    * `PayCourse`: the events of a whole call.
    * `within_authorization_iff`: the call stays within its limit exactly when
      what the journal hands back to it is within it.
    * `recovers_beyond_limit`: a call that sends five times its cap. -/

namespace XrplX402.Payer

open Py Interaction

/-! ## Section 1: What a call sends and gets back -/

/-- The call sent the payload in a `PAYMENT-SIGNATURE` header. -/
def Sent (t : List (Event Op Ret)) (payload : PaymentPayload) : Prop :=
  ∃ request r, (⟨.httpRequest request (some payload), r⟩ : Event Op Ret) ∈ t

/-- The server's challenge in the answer to the first request. -/
def Challenged (E : PayerEnv) (t : List (Event Op Ret)) (challenge : PaymentRequired) : Prop :=
  ∃ request response, (⟨.httpRequest request none, .ok response⟩ : Event Op Ret) ∈ t ∧
    canonicalChallenge E response = .ok challenge

/-- The call claimed the request, and was given this claim. -/
def Claimed (t : List (Event Op Ret)) (claim : AttemptClaim) : Prop :=
  ∃ f payer scope lease r, (⟨.claimAttempt f payer scope lease, r⟩ : Event Op Ret) ∈ t ∧
    r.result = .ok claim

/-- The call asked to store `created` and was told that `payload` is stored. -/
def Persisted (t : List (Event Op Ret)) (created payload : PaymentPayload) : Prop :=
  ∃ f token identifier a,
    (⟨.persistAttemptPayload f token created identifier, .ok a⟩ : Event Op Ret) ∈ t ∧
      a.paymentPayload = some payload

/-- The journal hands back a payload of an earlier call: its claim finds it and
    it answers the challenge, or it is stored already when the call persists
    its own. -/
def Recovered (E : PayerEnv) (t : List (Event Op Ret)) (payload : PaymentPayload) : Prop :=
  (∃ claim challenge, Claimed t claim ∧ claim.attempt.paymentPayload = some payload ∧
    Challenged E t challenge ∧ validatePayloadForChallenge payload challenge = .ok ()) ∨
  ∃ created, Persisted t created payload ∧ created ≠ payload

/-- The upstream client pays what it is configured to pay. -/
def SelectsAsConfigured (env : Env) (t : List (Event Op Ret)) : Prop :=
  ∀ client challenge created,
    (⟨.createPaymentPayload client challenge, .ok created⟩ : Event Op Ret) ∈ t →
      Selected env client challenge created.accepted

/-- The requirement is within the limit of this call. -/
def Authorized (E : PayerEnv) (payer : XRPLPayer) (a : PayArgs) (r : PaymentRequirements) : Prop :=
  ∃ limit, explicitLimit E.toEnv payer.network a.asset a.issuer a.maxSpend = .ok limit ∧
    WithinLimit E.toEnv payer.network limit r

/-! ## Section 2: The course of a call -/

section Course

variable {α : Type} {E : PayerEnv} {env : Env} {payer : XRPLPayer} {limit : Option XRPLAssetSpendLimit}
variable {challenge : PaymentRequired} {f account scope : String} {claim : AttemptClaim} {a : PayArgs}
variable {payload : PaymentPayload} {t : List (Event Op Ret)}

/-- Only the last claim of a waiting caller has a payload. -/
theorem claimed_of_claimOrWait {waits : Nat} {res : Except Exc AttemptClaim} {got : AttemptClaim}
    (h : (claimOrWait f account scope waits).Path t res) (hgot : Claimed t got)
    (hp : got.attempt.paymentPayload = some payload) : res = .ok got := by
  obtain ⟨f', payer', scope', lease, r, hmem, hr⟩ := hgot
  induction waits generalizing t with
  | zero => exact h.elim
  | succ waits ih =>
    obtain ⟨r', t', rfl, hclaimed⟩ := h
    rcases Prog.path_ofExcept_bind.mp hclaimed with ⟨first, hfirst, hrest⟩ | ⟨e, he, rfl, rfl⟩
    -- The claim ends the waiting if it is this caller's own or has a payload.
    · split at hrest
      · obtain ⟨rfl, rfl⟩ := hrest
        obtain heq := List.mem_singleton.mp hmem
        cases heq
        rw [hfirst] at hr
        exact hr
      · next hwait =>
        obtain ⟨r'', t'', rfl, hslept⟩ := hrest
        rcases List.mem_cons.mp hmem with heq | hmem
        · cases heq
          rw [hfirst] at hr
          cases hr
          -- A claim with a payload is not waited for.
          rw [hp] at hwait
          exact absurd (.inr rfl) hwait
        · have hmem' : (⟨.claimAttempt f' payer' scope' lease, r⟩ : Event Op Ret) ∈ t'' := by
            rcases List.mem_cons.mp hmem with heq | hmem
            · cases heq
            · exact hmem
          rcases Prog.path_ofExcept_bind.mp hslept with ⟨-, -, hagain⟩ | ⟨e, -, rfl, -⟩
          · exact ih hagain hmem'
          · cases hmem'
    · obtain heq := List.mem_singleton.mp hmem
      cases heq
      rw [he] at hr
      cases hr

/-- A payload that is stored when the call persists is the one it goes on with. -/
theorem obtained_of_persisted {res : Except Exc PaymentPayload} {created : PaymentPayload}
    (h : (obtainPayload E payer limit challenge f claim).Path t res)
    (hpersisted : Persisted t created payload) : res = .ok payload := by
  obtain ⟨f', token, identifier, attempt, hmem, hp⟩ := hpersisted
  unfold obtainPayload at h
  split at h
  -- A stored payload is checked only; nothing is persisted then.
  · rcases Prog.path_ofExcept_bind.mp h with ⟨-, -, hret⟩ | ⟨e, -, rfl, -⟩
    · rw [hret.1] at hmem
      cases hmem
    · cases hmem
  · rcases Prog.path_ofExcept_bind.mp h with ⟨-, -, hclient⟩ | ⟨e, -, rfl, -⟩
    · rcases Prog.path_ofExcept_bind.mp hclient with ⟨client, -, hcreate⟩ | ⟨e, -, rfl, -⟩
      · obtain ⟨r, t', rfl, hcreated⟩ := hcreate
        have hmem' : (⟨.persistAttemptPayload f' token created identifier, .ok attempt⟩ :
            Event Op Ret) ∈ t' := by
          rcases List.mem_cons.mp hmem with heq | hmem
          · cases heq
          · exact hmem
        rcases Prog.path_ofExcept_bind.mp hcreated with ⟨own, -, hpersist⟩ | ⟨e, -, rfl, -⟩
        · obtain ⟨r', t'', rfl, hstored⟩ := hpersist
          rcases Prog.path_ofExcept_bind.mp hstored with ⟨stored, rfl, hlast⟩ | ⟨e, he, rfl, -⟩
          -- What has been persisted is what the call goes on with.
          · have ht : t'' = [] := by
              cases hs : stored.paymentPayload <;> rw [hs] at hlast <;> exact hlast.1
            subst ht
            cases List.mem_singleton.mp hmem'
            rw [hp] at hlast
            exact hlast.2
          · cases List.mem_singleton.mp hmem'
            cases he
        · cases hmem'
      · cases hmem
    · cases hmem

/-- What a call goes on with was claimed and answers the challenge, or was
    stored when it persisted what the client had created. -/
theorem origin_of_obtained (h : (obtainPayload E payer limit challenge f claim).Path t (.ok payload)) :
    (claim.attempt.paymentPayload = some payload ∧
      validatePayloadForChallenge payload challenge = .ok ()) ∨
    ∃ client created, configuredClient E.toEnv payer.network limit = .ok client ∧
      (⟨.createPaymentPayload client challenge, .ok created⟩ : Event Op Ret) ∈ t ∧
        Persisted t created payload := by
  unfold obtainPayload at h
  split at h
  · next stored hstored =>
    -- The stored payload is handed back after it has been checked.
    obtain ⟨⟨⟩, hvalid, hret⟩ := Prog.path_ofExcept_bind_ok.mp h
    obtain rfl := Except.ok.inj hret.2
    exact .inl ⟨hstored, hvalid⟩
  -- Otherwise a new payload is created and persisted, and the stored one is handed back.
  · obtain ⟨-, -, hclient⟩ := Prog.path_ofExcept_bind_ok.mp h
    obtain ⟨client, hconfigured, hcreate⟩ := Prog.path_ofExcept_bind_ok.mp hclient
    obtain ⟨r, t', rfl, hcreated⟩ := hcreate
    obtain ⟨created, rfl, hpersist⟩ := Prog.path_ofExcept_bind_ok.mp hcreated
    obtain ⟨r', t'', rfl, hstored⟩ := hpersist
    obtain ⟨attempt, rfl, hlast⟩ := Prog.path_ofExcept_bind_ok.mp hstored
    have hp : attempt.paymentPayload = some payload := by
      cases hs : attempt.paymentPayload with
      | none =>
        rw [hs] at hlast
        cases hlast.2
      | some stored =>
        rw [hs] at hlast
        rw [Except.ok.inj hlast.2]
    exact .inr ⟨client, created, hconfigured, List.mem_cons_self, f, claim.ownerToken, _, attempt,
      List.mem_cons_of_mem _ List.mem_cons_self, hp⟩

/-- The course of the part of a call that holds a claim. -/
theorem course_of_payClaimed {r : Except Exc PayResult}
    (h : (payClaimed E payer limit a challenge f claim).Path t r) :
    ∃ t₁ t₂ res, (obtainPayload E payer limit challenge f claim).Path t₁ res ∧
      match res with
      | .error _ => t = t₁ ++ t₂ ∧ ∀ e ∈ t₂, e.op.concludes = true
      | .ok payload => ∃ answer, t = t₁ ++ ⟨.httpRequest a.request (some payload), answer⟩ :: t₂ ∧
          ∀ e ∈ t₂, e.op.concludes = true := by
  -- After a failure the call only concludes.
  have hfailed : ∀ {p : PayProg PaymentPayload} {stored : Option PaymentPayload} {e : Exc},
      (tryCatch p (abandon E a f claim stored)).Path t (.error e) → ∃ t₁ t₂ e', t = t₁ ++ t₂ ∧
        p.Path t₁ (.error e') ∧ ∀ ev ∈ t₂, ev.op.concludes = true := by
    intro p stored e hp
    rcases Prog.path_tryCatch.mp hp with ⟨y, hy, -⟩ | ⟨t₁, t₂, e', rfl, hp', habandon⟩
    · cases hy
    · exact ⟨t₁, t₂, e', rfl, hp', (uses_abandon e').of_path habandon⟩
  rcases Prog.path_bind.mp h with ⟨t₁, t₂, payload, rfl, hobtain, hsend⟩ | ⟨e, -, hobtain⟩
  -- The payload is sent once, whether or not an answer comes.
  · have hsent : ∃ answer t₃, t₂ = ⟨.httpRequest a.request (some payload), answer⟩ :: t₃ ∧
        ∀ e ∈ t₃, e.op.concludes = true := by
      rcases Prog.path_bind.mp hsend with ⟨t₃, t₄, response, rfl, hrequest, hlast⟩ | ⟨e, -, hrequest⟩
      · obtain ⟨answer, t₅, rfl, hanswer⟩ := path_of_abandoned hrequest
        obtain ⟨rfl, -⟩ := Prog.path_ofExcept.mp hanswer
        exact ⟨answer, t₄, rfl, uses_concludePayment.of_path hlast⟩
      · rcases Prog.path_tryCatch.mp hrequest with ⟨y, hy, -⟩ | ⟨t₃, t₄, e', rfl, hp', habandon⟩
        · cases hy
        · obtain ⟨answer, t₅, rfl, hanswer⟩ := hp'
          obtain ⟨rfl, -⟩ := Prog.path_ofExcept.mp hanswer
          exact ⟨answer, t₄, rfl, (uses_abandon e').of_path habandon⟩
    obtain ⟨answer, t₃, rfl, hlast⟩ := hsent
    exact ⟨t₁, t₃, .ok payload, path_of_abandoned hobtain, answer, rfl, hlast⟩
  · obtain ⟨t₁, t₂, e', rfl, hp', hlast⟩ := hfailed hobtain
    exact ⟨t₁, t₂, .error e', hp', rfl, hlast⟩

/-- The events in which the obtained payload is sent, if there is one. -/
def SendsResult (a : PayArgs) (sent : List (Event Op Ret)) : Except Exc PaymentPayload → Prop
  | .error _ => sent = []
  | .ok payload => ∃ answer, sent = [⟨.httpRequest a.request (some payload), answer⟩]

/-- What a call has done by its end. -/
inductive PayCourse (E : PayerEnv) (payer : XRPLPayer) (a : PayArgs) : List (Event Op Ret) → Prop
  /-- It got no further than its claim. -/
  | stopped (t : List (Event Op Ret)) (waiting : ∀ e ∈ t, e.op.waits = true ∨
        ∃ request, e.op = .httpRequest request none)
      (empty : ∀ claim, Claimed t claim → claim.attempt.paymentPayload = none) : PayCourse E payer a t
  /-- It claimed the request, obtained a payload or failed to, and concluded. -/
  | claimed (limit : Option XRPLAssetSpendLimit)
      (limited : explicitLimit E.toEnv payer.network a.asset a.issuer a.maxSpend = .ok limit)
      (response : HttpResponse) (challenge : PaymentRequired)
      (challenged : canonicalChallenge E response = .ok challenge)
      (account f : String) (waits : Nat) (claim : AttemptClaim) (waited obtained sent concluded :
        List (Event Op Ret))
      (claiming : (claimOrWait f account "http" waits).Path waited (.ok claim))
      (res : Except Exc PaymentPayload)
      (obtaining : (obtainPayload E payer limit challenge f claim).Path obtained res)
      (sending : SendsResult a sent res)
      (concluding : ∀ e ∈ concluded, e.op.concludes = true) :
      PayCourse E payer a (⟨.httpRequest a.request none, .ok response⟩ ::
        (waited ++ (obtained ++ (sent ++ concluded))))

theorem course_of_claiming {waits : Nat} {r : Except Exc PayResult} {response : HttpResponse}
    (hlimit : explicitLimit E.toEnv payer.network a.asset a.issuer a.maxSpend = .ok limit)
    (hchallenge : canonicalChallenge E response = .ok challenge)
    (h : (claimOrWait f account "http" waits >>= fun claim =>
      payClaimed E payer limit a challenge f claim).Path t r) :
    PayCourse E payer a (⟨.httpRequest a.request none, .ok response⟩ :: t) := by
  rcases Prog.path_bind.mp h with ⟨waited, t', claim, rfl, hwait, hpay⟩ | ⟨e, -, hwait⟩
  · obtain ⟨obtained, concluded, res, hobtain, hcourse⟩ := course_of_payClaimed hpay
    cases res with
    | error e =>
      obtain ⟨rfl, hconcluded⟩ := hcourse
      exact .claimed limit hlimit response challenge hchallenge account f waits claim waited obtained
        [] concluded hwait (.error e) hobtain rfl hconcluded
    | ok payload =>
      obtain ⟨answer, rfl, hconcluded⟩ := hcourse
      exact .claimed limit hlimit response challenge hchallenge account f waits claim waited obtained
        [⟨.httpRequest a.request (some payload), answer⟩] concluded hwait (.ok payload) hobtain
        ⟨answer, rfl⟩ hconcluded
  -- The call ended while it was waiting for its claim.
  · refine .stopped _ (fun ev hev => ?_) fun claim hclaim => ?_
    · rcases List.mem_cons.mp hev with rfl | hev
      · exact .inr ⟨a.request, rfl⟩
      · exact .inl ((uses_claimOrWait waits).of_path hwait ev hev)
    · obtain ⟨f', payer', scope', lease, r', hmem, hr⟩ := hclaim
      have hmem' : (⟨.claimAttempt f' payer' scope' lease, r'⟩ : Event Op Ret) ∈ t := by
        rcases List.mem_cons.mp hmem with heq | hmem
        · cases heq
        · exact hmem
      cases hp : claim.attempt.paymentPayload with
      | none => rfl
      | some payload =>
        have herror := claimed_of_claimOrWait hwait ⟨f', payer', scope', lease, r', hmem', hr⟩ hp
        cases herror

theorem course_of_pay {waits : Nat} {r : Except Exc PayResult} (h : (pay E payer waits a).Path t r) :
    PayCourse E payer a t := by
  -- Before its first request a call has done nothing, and after it only this one request.
  have hnothing : PayCourse E payer a [] := by
    refine .stopped _ (fun e he => by cases he) ?_
    rintro claim ⟨f, payer', scope, lease, r, hmem, -⟩
    cases hmem
  have hfirst : ∀ answer, PayCourse E payer a [⟨.httpRequest a.request none, answer⟩] := by
    refine fun answer => .stopped _ (fun e he => .inr ⟨a.request, ?_⟩) ?_
    · rw [List.mem_singleton.mp he]
    · rintro claim ⟨f, payer', scope, lease, r, hmem, -⟩
      cases List.mem_singleton.mp hmem
  unfold pay at h
  rcases Prog.path_ofExcept_bind.mp h with ⟨limit, hlimit, hrest⟩ | ⟨e, -, rfl, -⟩
  · split at hrest
    · -- The dry run sends one request.
      rcases Prog.path_bind.mp hrest with ⟨t₁, t₂, response, rfl, hrequest, hshow⟩ | ⟨e, -, hrequest⟩
      · obtain ⟨answer, t₃, rfl, hanswer⟩ := hrequest
        obtain ⟨rfl, -⟩ := Prog.path_ofExcept.mp hanswer
        have ht₂ : t₂ = [] := by
          rcases Prog.path_ofExcept_bind.mp hshow with ⟨challenge, -, hshown⟩ | ⟨e, -, ht, -⟩
          · rcases Prog.path_ofExcept_bind.mp hshown with ⟨shown, -, hret⟩ | ⟨e, -, ht, -⟩
            · exact hret.1
            · exact ht
          · exact ht
        rw [ht₂]
        exact hfirst answer
      · obtain ⟨answer, t₃, rfl, hanswer⟩ := hrequest
        obtain ⟨rfl, -⟩ := Prog.path_ofExcept.mp hanswer
        exact hfirst answer
    -- Without an account nothing is sent.
    · cases hpayer : payer.payerAccount with
      | none =>
        rw [hpayer] at hrest
        rw [hrest.1]
        exact hnothing
      | some account =>
        rw [hpayer] at hrest
        rcases Prog.path_ofExcept_bind.mp hrest with ⟨f, hf, hrequest⟩ | ⟨e, -, rfl, -⟩
        · obtain ⟨answer, t', rfl, hanswered⟩ := hrequest
          rcases Prog.path_ofExcept_bind.mp hanswered with ⟨response, rfl, hpaying⟩ | ⟨e, -, rfl, -⟩
          · split at hpaying
            -- Only status 402 is paid for.
            · rw [hpaying.1]
              exact hfirst _
            · rcases Prog.path_ofExcept_bind.mp hpaying with
                ⟨challenge, hchallenge, hclaiming⟩ | ⟨e, -, rfl, -⟩
              · exact course_of_claiming hlimit hchallenge hclaiming
              · exact hfirst _
          · exact hfirst _
        · exact hnothing
  · exact hnothing

theorem claimed_of_path {waits : Nat} (h : (claimOrWait f account scope waits).Path t (.ok claim)) :
    Claimed t claim := by
  induction waits generalizing t with
  | zero => exact h.elim
  | succ waits ih =>
    obtain ⟨r, t', rfl, hclaimed⟩ := h
    obtain ⟨first, hfirst, hrest⟩ := Prog.path_ofExcept_bind_ok.mp hclaimed
    split at hrest
    · obtain rfl := Except.ok.inj hrest.2
      exact ⟨f, account, scope, attemptLeaseSeconds, r, List.mem_cons_self, hfirst⟩
    · obtain ⟨r', t'', rfl, hslept⟩ := hrest
      obtain ⟨u, -, hagain⟩ := Prog.path_ofExcept_bind_ok.mp hslept
      obtain ⟨f', payer', scope', lease, r'', hmem, hr⟩ := ih hagain
      exact ⟨f', payer', scope', lease, r'',
        List.mem_cons_of_mem _ (List.mem_cons_of_mem _ hmem), hr⟩

theorem obtained_of_claimed {res : Except Exc PaymentPayload}
    (h : (obtainPayload E payer limit challenge f claim).Path t res)
    (hp : claim.attempt.paymentPayload = some payload)
    (hvalid : validatePayloadForChallenge payload challenge = .ok ()) : res = .ok payload := by
  unfold obtainPayload at h
  rw [hp] at h
  simp only [hvalid] at h
  exact h.2

end Course

/-! ## Section 3: The limit of the call -/

/-- The client created the payload under the limit of the call. -/
def Created (E : PayerEnv) (payer : XRPLPayer) (a : PayArgs) (t : List (Event Op Ret))
    (payload : PaymentPayload) : Prop :=
  ∃ limit client challenge, explicitLimit E.toEnv payer.network a.asset a.issuer a.maxSpend = .ok limit ∧
    configuredClient E.toEnv payer.network limit = .ok client ∧
      (⟨.createPaymentPayload client challenge, .ok payload⟩ : Event Op Ret) ∈ t

/-- What is sent was handed back by the journal or created under the limit. -/
def SendsOrigin (E : PayerEnv) (payer : XRPLPayer) (a : PayArgs) (past : List (Event Op Ret)) (o : Op) :
    Prop :=
  ∀ request payload, o = .httpRequest request (some payload) →
    Recovered E past payload ∨ Created E payer a past payload

theorem Claimed.mono {t t' : List (Event Op Ret)} {claim : AttemptClaim} (hsub : t ⊆ t')
    (h : Claimed t claim) : Claimed t' claim := by
  obtain ⟨f, payer, scope, lease, r, hmem, hr⟩ := h
  exact ⟨f, payer, scope, lease, r, hsub hmem, hr⟩

theorem Persisted.mono {t t' : List (Event Op Ret)} {created payload : PaymentPayload} (hsub : t ⊆ t')
    (h : Persisted t created payload) : Persisted t' created payload := by
  obtain ⟨f, token, identifier, a, hmem, hp⟩ := h
  exact ⟨f, token, identifier, a, hsub hmem, hp⟩

theorem Recovered.mono {E : PayerEnv} {t t' : List (Event Op Ret)} {payload : PaymentPayload}
    (hsub : t ⊆ t') (h : Recovered E t payload) : Recovered E t' payload := by
  rcases h with ⟨claim, challenge, hclaim, hp, ⟨request, response, hmem, hr⟩, hvalid⟩ |
    ⟨created, hpersisted, hne⟩
  · exact .inl ⟨claim, challenge, hclaim.mono hsub, hp, ⟨request, response, hsub hmem, hr⟩, hvalid⟩
  · exact .inr ⟨created, hpersisted.mono hsub, hne⟩

section Origin

variable {α : Type} {E : PayerEnv} {payer : XRPLPayer} {a : PayArgs} {past : List (Event Op Ret)}

theorem follows_origin_of_silent {p : PayProg α} (hp : p.Uses fun o => o.isSilent = true) :
    p.Follows (SendsOrigin E payer a) past := by
  refine hp.follows fun past o ho => ?_
  rintro request payload rfl
  cases ho

/-- Whatever a call sends has an origin. -/
theorem follows_origin (waits : Nat) : (pay E payer waits a).Follows (SendsOrigin E payer a) [] := by
  have hrequest : (sendRequest a.request none).Uses fun o => o.isSilent = true :=
    ⟨rfl, fun _ => Prog.uses_ofExcept _⟩
  unfold pay
  refine Prog.follows_ofExcept_bind fun limit hlimit => ?_
  split
  · refine follows_origin_of_silent (hrequest.bind fun response => ?_)
    exact (Prog.uses_ofExcept _).bind fun _ => (Prog.uses_ofExcept _).bind fun _ => trivial
  · cases payer.payerAccount with
    | none => trivial
    | some account =>
      refine Prog.follows_ofExcept_bind fun f _ => ?_
      refine (follows_origin_of_silent hrequest).bind fun first response hfirst => ?_
      split
      · trivial
      · refine Prog.follows_ofExcept_bind fun challenge hchallenge => ?_
        refine (follows_origin_of_silent (silent_of_waits (uses_claimOrWait waits))).bind
          fun waited claim hwaited => ?_
        have hobtain : (tryCatch (obtainPayload E payer limit challenge f claim)
            (abandon E a f claim claim.attempt.paymentPayload)).Follows (SendsOrigin E payer a)
              ([] ++ first ++ waited) :=
          (follows_origin_of_silent (silent_of_signs uses_obtainPayload)).tryCatch fun t e _ =>
            follows_origin_of_silent (silent_of_concludes (uses_abandon e))
        -- The payload is sent after it has been obtained, so its origin lies in the past.
        refine hobtain.bind fun obtained payload hobtained => ?_
        have horigin : SendsOrigin E payer a ([] ++ first ++ waited ++ obtained)
            (.httpRequest a.request (some payload)) := by
          rintro request payload' heq
          obtain ⟨-, hsome⟩ := Op.httpRequest.inj heq
          obtain rfl := Option.some.inj hsome
          have hwaitedSub : waited ⊆ [] ++ first ++ waited ++ obtained :=
            fun ev hev => List.mem_append_left _ (List.mem_append_right _ hev)
          have hobtainedSub : obtained ⊆ [] ++ first ++ waited ++ obtained :=
            fun ev hev => List.mem_append_right _ hev
          rcases origin_of_obtained (path_of_abandoned hobtained) with
            ⟨hp, hvalid⟩ | ⟨client, created, hclient, hcreate, hpersisted⟩
          -- It was stored when the call claimed its request.
          · obtain ⟨answer, t', rfl, hanswer⟩ := hfirst
            obtain ⟨rfl, rfl⟩ := Prog.path_ofExcept.mp hanswer
            exact .inl (.inl ⟨claim, challenge, (claimed_of_path hwaited).mono hwaitedSub, hp,
              ⟨a.request, response, by simp, hchallenge⟩, hvalid⟩)
          -- It was created by this call, or another caller's payload was stored in its place.
          · by_cases hown : created = payload
            · subst hown
              exact .inr ⟨limit, client, challenge, hlimit, hclient, hobtainedSub hcreate⟩
            · exact .inl (.inr ⟨created, hpersisted.mono hobtainedSub, hown⟩)
        have hsend : (sendRequest a.request (some payload)).Follows (SendsOrigin E payer a)
            ([] ++ first ++ waited ++ obtained) :=
          ⟨horigin, fun _ => follows_origin_of_silent (Prog.uses_ofExcept _)⟩
        refine (hsend.tryCatch fun t e _ =>
          follows_origin_of_silent (silent_of_concludes (uses_abandon e))).bind fun t response _ => ?_
        exact follows_origin_of_silent (silent_of_concludes uses_concludePayment)

end Origin

/-- Where an event of a call that got a claim belongs, by its operation. -/
structure Segments (response : HttpResponse) (waited obtained t : List (Event Op Ret))
    (res : Except Exc PaymentPayload) : Prop where
  claims : ∀ f payer scope lease r, (⟨.claimAttempt f payer scope lease, r⟩ : Event Op Ret) ∈ t →
    ⟨.claimAttempt f payer scope lease, r⟩ ∈ waited
  persists : ∀ f token payload identifier r,
    (⟨.persistAttemptPayload f token payload identifier, r⟩ : Event Op Ret) ∈ t →
      ⟨.persistAttemptPayload f token payload identifier, r⟩ ∈ obtained
  unsigned : ∀ request r, (⟨.httpRequest request none, r⟩ : Event Op Ret) ∈ t → r = .ok response
  signed : ∀ payload, Sent t payload ↔ res = .ok payload
  parts : waited ⊆ t ∧ obtained ⊆ t

theorem segments_of_claimed {a : PayArgs} (response : HttpResponse)
    {waited obtained sent concluded : List (Event Op Ret)} {res : Except Exc PaymentPayload}
    (hwaited : ∀ e ∈ waited, e.op.waits = true) (hobtained : ∀ e ∈ obtained, e.op.signs = true)
    (hsent : SendsResult a sent res)
    (hconcluded : ∀ e ∈ concluded, e.op.concludes = true) :
    Segments response waited obtained (⟨.httpRequest a.request none, .ok response⟩ ::
      (waited ++ (obtained ++ (sent ++ concluded)))) res := by
  have hsigned : ∀ ev ∈ sent, ∃ payload, res = .ok payload ∧
      ev.op = .httpRequest a.request (some payload) := by
    intro ev hev
    cases res with
    | error e =>
      rw [hsent] at hev
      cases hev
    | ok payload =>
      obtain ⟨answer, rfl⟩ := hsent
      rw [List.mem_singleton.mp hev]
      exact ⟨payload, rfl, rfl⟩
  constructor
  · intro f payer scope lease r hmem
    simp only [List.mem_cons, List.mem_append] at hmem
    rcases hmem with heq | hw | ho | hs | hc
    · cases heq
    · exact hw
    · cases hobtained _ ho
    · obtain ⟨payload, -, hop⟩ := hsigned _ hs
      cases hop
    · cases hconcluded _ hc
  · intro f token payload identifier r hmem
    simp only [List.mem_cons, List.mem_append] at hmem
    rcases hmem with heq | hw | ho | hs | hc
    · cases heq
    · cases hwaited _ hw
    · exact ho
    · obtain ⟨payload, -, hop⟩ := hsigned _ hs
      cases hop
    · cases hconcluded _ hc
  · intro request r hmem
    simp only [List.mem_cons, List.mem_append] at hmem
    rcases hmem with heq | hw | ho | hs | hc
    · cases heq
      rfl
    · cases hwaited _ hw
    · cases hobtained _ ho
    · obtain ⟨payload, -, hop⟩ := hsigned _ hs
      cases hop
    · cases hconcluded _ hc
  · intro payload
    constructor
    · rintro ⟨request, r, hmem⟩
      simp only [List.mem_cons, List.mem_append] at hmem
      rcases hmem with heq | hw | ho | hs | hc
      · cases heq
      · cases hwaited _ hw
      · cases hobtained _ ho
      · obtain ⟨payload', hres, hop⟩ := hsigned _ hs
        cases hop
        exact hres
      · cases hconcluded _ hc
    · rintro rfl
      obtain ⟨answer, rfl⟩ := hsent
      exact ⟨a.request, answer, by simp⟩
  · constructor
    · intro ev hev
      exact List.mem_cons_of_mem _ (List.mem_append_left _ hev)
    · intro ev hev
      exact List.mem_cons_of_mem _ (List.mem_append_right _ (List.mem_append_left _ hev))

/-- What the journal hands back in a whole call is sent. -/
theorem sent_of_recovered {E : PayerEnv} {payer : XRPLPayer} {a : PayArgs} {t : List (Event Op Ret)}
    (h : PayCourse E payer a t) {payload : PaymentPayload} (hrecovered : Recovered E t payload) :
    Sent t payload := by
  cases h with
  | stopped t waiting empty =>
    rcases hrecovered with ⟨claim, challenge, hclaim, hp, -, -⟩ | ⟨created, hpersisted, -⟩
    · rw [empty claim hclaim] at hp
      cases hp
    · obtain ⟨f, token, identifier, attempt, hmem, -⟩ := hpersisted
      rcases waiting _ hmem with hw | ⟨request, hr⟩
      · cases hw
      · cases hr
  | claimed limit limited response challenge challenged account f waits claim waited obtained sent
      concluded claiming res obtaining sending concluding =>
    have hseg := segments_of_claimed response ((uses_claimOrWait waits).of_path claiming)
      (uses_obtainPayload.of_path obtaining) sending concluding
    rw [hseg.signed payload]
    rcases hrecovered with ⟨got, challenge', hgot, hp, hchallenge, hvalid⟩ | ⟨created, hpersisted, -⟩
    · obtain ⟨f', payer', scope', lease, r, hmem, hr⟩ := hgot
      have hlast := claimed_of_claimOrWait claiming
        ⟨f', payer', scope', lease, r, hseg.claims f' payer' scope' lease r hmem, hr⟩ hp
      obtain rfl := Except.ok.inj hlast
      obtain ⟨request, response', hmem', hchallenge⟩ := hchallenge
      obtain rfl := Except.ok.inj (hseg.unsigned request _ hmem')
      rw [challenged] at hchallenge
      obtain rfl := Except.ok.inj hchallenge
      exact obtained_of_claimed obtaining hp hvalid
    · obtain ⟨f', token, identifier, attempt, hmem, hp⟩ := hpersisted
      exact obtained_of_persisted obtaining
        ⟨f', token, identifier, attempt, hseg.persists f' token created identifier _ hmem, hp⟩

/-- What a call has sent is within its limit when what the journal has handed
    back to it is. -/
theorem authorized_of_recovered {E : PayerEnv} {payer : XRPLPayer} {waits : Nat} {a : PayArgs}
    {t : List (Event Op Ret)} {q : PayProg PayResult} (h : (pay E payer waits a).Steps t q)
    (hselects : SelectsAsConfigured E.toEnv t)
    (hall : ∀ payload, Recovered E t payload → Authorized E payer a payload.accepted)
    {payload : PaymentPayload} (hsent : Sent t payload) : Authorized E payer a payload.accepted := by
  obtain ⟨request, r, hmem⟩ := hsent
  obtain ⟨past, later, rfl⟩ := List.append_of_mem hmem
  have hsub : past ⊆ past ++ ⟨.httpRequest request (some payload), r⟩ :: later :=
    List.subset_append_left _ _
  rcases (follows_origin waits).of_steps h request payload rfl with hrecovered |
    ⟨limit, client, challenge, hlimit, hclient, hcreate⟩
  · exact hall payload (hrecovered.mono hsub)
  · have hselected := hselects client challenge payload (hsub hcreate)
    exact ⟨limit, hlimit, withinLimit_of_selected hclient hselected⟩

/-- A call that has ended was within its limit exactly when what the journal
    handed back to it was; on the way that is enough. -/
theorem within_authorization_iff (E : PayerEnv) (payer : XRPLPayer) (waits : Nat) (a : PayArgs) :
    (∀ t q, (pay E payer waits a).Steps t q → SelectsAsConfigured E.toEnv t →
      (∀ payload, Recovered E t payload → Authorized E payer a payload.accepted) →
        ∀ payload, Sent t payload → Authorized E payer a payload.accepted) ∧
    ∀ t r, (pay E payer waits a).Path t r → SelectsAsConfigured E.toEnv t →
      ((∀ payload, Sent t payload → Authorized E payer a payload.accepted) ↔
        ∀ payload, Recovered E t payload → Authorized E payer a payload.accepted) := by
  refine ⟨fun t q h hselects hall payload => authorized_of_recovered h hselects hall, ?_⟩
  intro t r h hselects
  constructor
  · intro hall payload hrecovered
    exact hall payload (sent_of_recovered (course_of_pay h) hrecovered)
  · intro hall payload
    obtain ⟨q, hq⟩ := Prog.steps_of_path h
    exact authorized_of_recovered hq hselects hall

/-! ## Section 4: A call beyond its limit -/

namespace Sample

/-- The numerals of the run below. -/
local instance fourCallers : NeZero 4 := ⟨by decide⟩

/-- What caller 1 sends. -/
def sendsFirst (c : PayConfig (Fin 4)) : Bool :=
  c.state.log.any fun e => e.who = 1 && e.op = .httpRequest (upTo "1000").request (some (signed "AA"))

theorem not_authorized : ¬ Authorized sampleEnv payer (upTo "1000") (signed "AA").accepted := by
  rintro ⟨limit, hlimit, hwithin⟩
  have hactual : explicitLimit sampleEnv.toEnv payer.network (upTo "1000").asset (upTo "1000").issuer
      (upTo "1000").maxSpend = .ok (some ⟨"xrpl:1", "XRP", "1000", none⟩) := by decide +kernel
  rw [hactual] at hlimit
  obtain rfl := Except.ok.inj hlimit
  have hle : decimalLe sampleEnv.toEnv "5000" "1000" = .ok false := by decide +kernel
  have hamount := hwithin.2.2.2
  rw [show (signed "AA").accepted.amount = "5000" from rfl, hle] at hamount
  cases hamount

def client : PaymentClient :=
  ⟨"xrpl:1", .allowedAssets [⟨"xrpl:1", "XRP", some "5000"⟩], [⟨"xrpl:1", "XRP", "5000", none⟩]⟩

def firstClaim : PaymentAttempt := newClaim fingerprint "rPayer" "http" "t0" 30

/-- The events of a caller that signs `AA` and finds `BB` stored. -/
def recovering : List (Event Op Ret) :=
  [⟨.httpRequest (upTo "5000").request none, .ok unpaid⟩,
    ⟨.claimAttempt fingerprint "rPayer" "http" attemptLeaseSeconds,
      ⟨0, "t0", .ok ⟨firstClaim, some "t0"⟩⟩⟩,
    ⟨.createPaymentPayload client challenge, .ok (signed "AA")⟩,
    ⟨.persistAttemptPayload fingerprint (some "t0") (signed "AA") none,
      .ok (firstClaim.ready (signed "BB") none)⟩,
    ⟨.httpRequest (upTo "5000").request (some (signed "BB")), .ok (answeredBy refusedHeader)⟩,
    ⟨.recordOutcome ((upTo "5000").receipt sampleEnv fingerprint (signed "BB") 402 .failed refused)
      terminalReuseSeconds, ⟨0, .ok true⟩⟩]

theorem path_recovering : ∃ r, (pay sampleEnv payer 1 (upTo "5000")).Path recovering r := by
  have hreplay : ((pay sampleEnv payer 1 (upTo "5000")).replay recovering).isSome = true := by
    decide +kernel
  obtain ⟨r, hr⟩ := Option.isSome_iff_exists.mp hreplay
  exact ⟨r, Prog.path_of_replay hr⟩

theorem sent_recovering : Sent recovering (signed "BB") :=
  ⟨(upTo "5000").request, .ok (answeredBy refusedHeader), by simp [recovering]⟩

theorem selected_recovering : Selected sampleEnv.toEnv client challenge requirements where
  offered := List.mem_singleton.mpr rfl
  registered := ⟨rfl, rfl⟩
  issuers := ⟨[requirements], [requirements], by decide +kernel, List.mem_singleton.mpr rfl⟩
  limits _ := ⟨[requirements], [requirements], by decide +kernel, List.mem_singleton.mpr rfl⟩
  controls cap h := by cases h

theorem selects_recovering : SelectsAsConfigured sampleEnv.toEnv recovering := by
  intro client' challenge' created hmem
  simp only [recovering, List.mem_cons, List.not_mem_nil, or_false] at hmem
  rcases hmem with h | h | h | h | h | h
  · cases h
  · cases h
  · cases h
    exact selected_recovering
  · cases h
  · cases h
  · cases h

theorem recovered_recovering (payload : PaymentPayload) :
    Recovered sampleEnv recovering payload ↔ signed "BB" = payload := by
  -- The payload of another caller comes back from persisting.
  have hpersisted : Persisted recovering (signed "AA") (signed "BB") :=
    ⟨fingerprint, some "t0", none, firstClaim.ready (signed "BB") none, by simp [recovering], rfl⟩
  refine ⟨?_, fun h => h ▸ .inr ⟨_, hpersisted, by decide⟩⟩
  rintro (⟨claim, challenge', ⟨f, payer', scope, lease, r, hmem, hr⟩, hp, -, -⟩ |
    ⟨created, ⟨f, token, identifier, a, hmem, hp⟩, hne⟩)
  · simp only [recovering, List.mem_cons, List.not_mem_nil, or_false] at hmem
    rcases hmem with h | h | h | h | h | h
    · cases h
    · cases h
      cases hr
      cases hp
    · cases h
    · cases h
    · cases h
    · cases h
  · simp only [recovering, List.mem_cons, List.not_mem_nil, or_false] at hmem
    rcases hmem with h | h | h | h | h | h
    · cases h
    · cases h
    · cases h
    · cases h
      exact Option.some.inj hp
    · cases h
    · cases h

theorem authorized_requirements : Authorized sampleEnv payer (upTo "5000") requirements :=
  ⟨some ⟨"xrpl:1", "XRP", "5000", none⟩, by decide +kernel, rfl,
    ⟨"XRP", by decide +kernel, by decide +kernel⟩, rfl, by decide +kernel⟩

end Sample

/-- Caller 1 sends the stored payload for 5000 drops, although its cap is 1000. -/
theorem recovers_beyond_limit : ∃ c,
    Run Sample.system (Lawful Sample.sampleEnv.toEnv) (Config.init Journal.empty) c ∧
      Sample.callers 1 = .pay Sample.payer 1 (Sample.upTo "1000") ∧
      (∃ e ∈ c.state.log, e.who = 1 ∧
        e.op = .httpRequest (Sample.upTo "1000").request (some (Sample.signed "AA"))) ∧
      ¬ Authorized Sample.sampleEnv Sample.payer (Sample.upTo "1000") (Sample.signed "AA").accepted := by
  obtain ⟨c, hrun, hc⟩ := Sample.exists_lawful_run
    (Sample.obtains 0 "t0" (Sample.signed "AA") ++ Sample.finds 1 "t1" ++
      Sample.concludes 1 Sample.refusedHeader) Sample.sendsFirst (by decide +kernel)
  obtain ⟨e, he, hsend⟩ := List.any_eq_true.mp hc
  simp only [Bool.and_eq_true, decide_eq_true_eq] at hsend
  exact ⟨c, hrun, rfl, ⟨e, he, hsend⟩, Sample.not_authorized⟩

theorem within_authorization_iff_sample : ∃ t,
    Recovered Sample.sampleEnv t (Sample.signed "BB") ∧ Sent t (Sample.signed "BB") ∧
      ∀ payload, Sent t payload →
        Authorized Sample.sampleEnv Sample.payer (Sample.upTo "5000") payload.accepted := by
  obtain ⟨r, hpath⟩ := Sample.path_recovering
  have hiff := (within_authorization_iff Sample.sampleEnv Sample.payer 1 (Sample.upTo "5000")).2
    Sample.recovering r hpath Sample.selects_recovering
  refine ⟨Sample.recovering, (Sample.recovered_recovering _).mpr rfl, Sample.sent_recovering,
    hiff.mpr fun payload hrecovered => ?_⟩
  rw [← (Sample.recovered_recovering payload).mp hrecovered]
  exact Sample.authorized_requirements

end XrplX402.Payer
