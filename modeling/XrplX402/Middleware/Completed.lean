import XrplX402.Middleware.AtMostOnce

/-! # Completed work is replayed

    The other direction of at most one execution: once a request has ended with
    what its handler produced, the same request sent again never runs a handler
    and never ends in a refusal. It ends with the stored response, also when its
    authorization has become stale meanwhile, whatever the other requests do.

    * **`Completed`**: a request has ended with what its handler produced.
    * **`Again`**: the same request, sent again. -/

namespace XrplX402.Middleware

open Py Interaction Prog

variable {env : Env} {ι : Type}

/-! ## Section 1: What is stored for completed work -/

/-- Request `i` has written what its handler has produced. -/
structure Kept (calls : ι → PaidCall env) (i : ι) (response : StoredResourceResponse)
    (log : Log ι) : Prop where
  produced : Produced env log i response
  written : Written log i

theorem Kept.mono {calls : ι → PaidCall env} {i : ι} {response : StoredResourceResponse}
    {log log' : Log ι} (h : Kept calls i response log) (hsub : log ⊆ log') :
    Kept calls i response log' := by
  obtain ⟨key, value, ex, hmem⟩ := h.written
  exact ⟨h.produced.mono hsub, key, value, ex, hsub hmem⟩

section Stored

variable {calls : ι → PaidCall env} {s : State ι Op Ret Redis.Db} {i : ι}

/-- A request has one product only. -/
theorem Bound.produced_unique (h : Bound calls s) {response response' : StoredResourceResponse}
    (hproduced : Produced env s.log i response) (hproduced' : Produced env s.log i response') :
    response = response' := by
  -- A request runs one handler, and that once.
  cases hproduced with
  | response r hran =>
    cases hproduced' with
    | response r' hran' =>
      cases h.handler_unique hran hran' rfl rfl rfl
      rfl
    | result t hran' => cases h.handler_unique hran hran' rfl rfl rfl
  | result t hran =>
    cases hproduced' with
    | response r hran' => cases h.handler_unique hran hran' rfl rfl rfl
    | result t' hran' =>
      cases h.handler_unique hran hran' rfl rfl rfl
      rfl

/-- What was written stands under the key of the request. -/
theorem Bound.stored (h : Bound calls s) {response : StoredResourceResponse}
    (hkept : Kept calls i response s.log) {key : String} (hkey : (calls i).key = some key) :
    ∃ expiry, s.shared key =
      some ⟨dumps (.obj (storedRecord (calls i).fingerprint response)), expiry⟩ := by
  obtain ⟨key', value, ex, hwrite⟩ := hkept.written
  have hown : (calls i).key = some key' :=
    h.own (h.writes _ hwrite key' value ex false rfl)
  obtain rfl : key = key' := Option.some.inj (hkey.symm.trans hown)
  obtain ⟨stored, expiry, hproduced, hstored⟩ := h.kept hwrite
  obtain rfl := h.produced_unique hproduced hkept.produced
  exact ⟨expiry, hstored⟩

end Stored

/-! ## Section 2: The same request again -/

/-- The same request sent again: verified, or refused because the transaction of
    the first one has been validated meanwhile. -/
structure Again (first again : PaidCall env) : Prop where
  payload : again.payload = first.payload
  requirements : again.requirements = first.requirements
  invocation : again.invocation = first.invocation
  stale : ∀ reason ∈ again.failure, reason ∈ staleAuthorizationFailures

theorem Again.paid {first again : PaidCall env} (h : Again first again) : again.paid = first.paid := by
  unfold PaidCall.paid
  rw [h.payload, h.requirements, h.invocation]

/-- A request without a declared identifier ends in a refusal. -/
theorem refused_of_undeclared {store : RedisResourceResponseStore} {q : PaidRequest} {reason : String}
    (hundeclared : requireDeclaredPaymentIdentifier env q.payload = some reason)
    {failure : Option String} {method : String} {t : List (Event Op Ret)} {outcome : Outcome}
    (h : (httpCall env store failure method q).Path t (.ok outcome)) :
    outcome = .refused ∨ ∃ message, outcome = .conflict message := by
  -- Without a declared identifier the verified request ends at once.
  have hverified : afterVerifyHttp env store method q = .ret .refused := by
    unfold afterVerifyHttp
    rw [hundeclared]
  unfold httpCall at h
  rw [hverified] at h
  cases failure with
  | none => exact .inl (Except.ok.inj (path_ret.mp h).2)
  | some reason =>
    obtain ⟨t₁, t₂, recovery, -, -, h₂⟩ := path_bind_ok.mp h
    cases recovery with
    | recovered => exact .inl (Except.ok.inj (path_ret.mp h₂).2)
    | conflict message => exact .inr ⟨message, Except.ok.inj (path_ret.mp h₂).2⟩
    | failed => exact .inl (Except.ok.inj (path_ret.mp h₂).2)

section Holds

variable [DecidableEq ι] {store : RedisResourceResponseStore} {calls : ι → PaidCall env} {i j : ι}
variable {allowed : State ι Op Ret Redis.Db → Entry ι Op Ret → Prop} {s : State ι Op Ret Redis.Db}
variable {response : StoredResourceResponse}

/-- What is found under the key of request `i`. -/
def Finds (calls : ι → PaidCall env) (i : ι) (response : StoredResourceResponse)
    (s : State ι Op Ret Redis.Db) :
    Except Exc (Except String (Option StoredResourceResponse)) → Prop
  | .ok (.ok (some cached)) => Kept calls i response s.log ∧ cached = response.sorted
  | _ => False

/-- The stored response is found, whatever the others do. -/
theorem holds_lookupCached_kept (hagain : Again (calls i) (calls j)) {key : String}
    (hkey : (calls i).key = some key) (hkept : Kept calls i response s.log) :
    (bindingContract store calls allowed).Holds j (lookupCached env (calls j).paid)
      (Finds calls i response) s := by
  -- The two requests look under one key.
  have hpaid := hagain.paid
  obtain ⟨identifier, hidentifier, hkeyOf⟩ : ∃ identifier,
      identifierOf env (calls i).payload = .ok (some identifier) ∧
      key = RedisResourceResponseStore.key env identifier (calls i).requirements := by
    unfold PaidCall.key at hkey
    split at hkey
    · next identifier hid => exact ⟨identifier, hid, (Option.some.inj hkey).symm⟩
    · cases hkey
  rw [hpaid]
  refine holds_catchValueError ?_ fun s' e h => h.elim
  refine Contract.holds_bind.mpr ?_
  unfold RedisResourceResponseStore.get
  refine holds_check (fun e he => ?_) fun found hfound => ?_
  · rw [show identifierOf env (calls i).paid.payload = .ok (some identifier) from hidentifier] at he
    cases he
  · rw [show identifierOf env (calls i).paid.payload = .ok (some identifier) from hidentifier] at hfound
    obtain rfl := Except.ok.inj hfound
    show (bindingContract store calls allowed).Holds j (perform (.get (RedisResourceResponseStore.key
      env identifier (calls i).requirements)) >>= _) _ s
    rw [← hkeyOf]
    -- The record is still there when it is read, and it reads back as what was written.
    refine holds_command (fun _ _ _ _ => trivial) fun s' raw db hinv hsub _ hx => ?_
    obtain ⟨rfl, rfl⟩ := execStore_get.mp hx
    have hkept' := hkept.mono hsub
    obtain ⟨expiry, hstored⟩ := hinv.stored hkept' hkey
    rw [Redis.get_of_entry hstored, nonempty_dumps]
    show (bindingContract store calls allowed).Holds j
      (check (readRecord env (calls i).fingerprint (dumps _))) _ _
    rw [readRecord_stored hkept'.produced.proper]
    exact ⟨hkept'.mono (log_subset_push s' j _ _ _), rfl⟩

/-- Request `i` is replayed. -/
def Replayed (calls : ι → PaidCall env) (i : ι) (response : StoredResourceResponse)
    (s : State ι Op Ret Redis.Db) (r : Except Exc Outcome) : Prop :=
  Kept calls i response s.log ∧ r = .ok (.replayed response.sorted)

variable (hagain : Again (calls i) (calls j)) {key : String} (hkey : (calls i).key = some key)
include hagain hkey

theorem holds_afterVerifyHttp_kept (hkept : Kept calls i response s.log) {method : String}
    (hdeclared : requireDeclaredPaymentIdentifier env (calls i).payload = none)
    (heffects : requiresResponseRecovery (calls j).paid.authoritative = .ok true) :
    (bindingContract store calls allowed).Holds j (afterVerifyHttp env store method (calls j).paid)
      (Replayed calls i response) s := by
  -- The identifier was declared by the first request too.
  have hnone : requireDeclaredPaymentIdentifier env (calls j).paid.payload = none := by
    rw [hagain.paid]
    exact hdeclared
  unfold afterVerifyHttp
  rw [hnone]
  unfold recoverHandler
  rw [heffects]
  refine Contract.holds_bind.mpr (holds_check (fun e h => by cases h) fun required hrequired => ?_)
  obtain rfl := Except.ok.inj hrequired
  refine Contract.holds_bind.mpr ((holds_lookupCached_kept hagain hkey hkept).mono fun s₁ r₁ h₁ => ?_)
  -- Only the record that was kept can be found.
  match r₁ with
  | .error e => exact h₁.elim
  | .ok (.error message) => exact h₁.elim
  | .ok (.ok none) => exact h₁.elim
  | .ok (.ok (some cached)) =>
    obtain ⟨hkept₁, rfl⟩ := h₁
    exact ⟨hkept₁, rfl⟩

theorem holds_httpCall_kept (hkept : Kept calls i response s.log) {method : String}
    (hdeclared : requireDeclaredPaymentIdentifier env (calls i).payload = none)
    (heffects : requiresResponseRecovery (calls j).paid.authoritative = .ok true) :
    (bindingContract store calls allowed).Holds j
      (httpCall env store (calls j).failure method (calls j).paid) (Replayed calls i response) s := by
  have hverified : ∀ s', Kept calls i response s'.log →
      (bindingContract store calls allowed).Holds j (afterVerifyHttp env store method (calls j).paid)
        (Replayed calls i response) s' :=
    fun s' hkept' => holds_afterVerifyHttp_kept hagain hkey hkept' hdeclared heffects
  -- A verified request goes on; a refused one is looked up first, if the reason is stale.
  have hstale := hagain.stale
  cases hfailure : (calls j).failure with
  | none => exact hverified s hkept
  | some reason =>
    rw [hfailure] at hstale
    -- The same request is only refused as stale.
    have hreason : isStaleAuthorizationFailure (some reason) = true := by
      unfold isStaleAuthorizationFailure
      rw [Option.any_some]
      exact decide_eq_true (hstale reason rfl)
    show (bindingContract store calls allowed).Holds j
      (recoverCachedAuthorization env (calls j).paid reason >>= _) _ s
    unfold recoverCachedAuthorization
    rw [if_pos hreason, heffects]
    refine Contract.holds_bind.mpr (holds_check (fun e h => by cases h) fun required hrequired => ?_)
    obtain rfl := Except.ok.inj hrequired
    refine Contract.holds_bind.mpr
      ((holds_lookupCached_kept hagain hkey hkept).mono fun s₁ r₁ h₁ => ?_)
    match r₁ with
    | .error e => exact h₁.elim
    | .ok (.error message) => exact h₁.elim
    | .ok (.ok none) => exact h₁.elim
    -- The response is looked up again by what follows.
    | .ok (.ok (some cached)) => exact hverified s₁ h₁.1

theorem holds_executeTool_kept (hkept : Kept calls i response s.log)
    (hauthoritative : (calls j).paid.authoritative ≠ none) :
    (bindingContract store calls allowed).Holds j (executeTool env store (calls j).paid)
      (Replayed calls i response) s := by
  unfold executeTool loadCachedResponse
  rw [if_neg hauthoritative]
  refine Contract.holds_bind.mpr (Contract.holds_bind.mpr
    ((holds_lookupCached_kept hagain hkey hkept).mono fun s₁ r₁ h₁ => ?_))
  match r₁ with
  | .error e => exact h₁.elim
  | .ok (.error message) => exact h₁.elim
  | .ok (.ok none) => exact h₁.elim
  | .ok (.ok (some cached)) =>
    obtain ⟨hkept₁, rfl⟩ := h₁
    exact ⟨hkept₁, rfl⟩

theorem holds_toolCall_kept (hkept : Kept calls i response s.log)
    (hauthoritative : (calls j).paid.authoritative ≠ none) :
    (bindingContract store calls allowed).Holds j
      (toolCall env store (calls j).failure (calls j).paid) (Replayed calls i response) s := by
  have hstale := hagain.stale
  unfold toolCall
  split
  · exact holds_executeTool_kept hagain hkey hkept hauthoritative
  · next reason hfailure =>
    rw [hfailure] at hstale
    have hreason : isStaleAuthorizationFailure (some reason) = true := by
      unfold isStaleAuthorizationFailure
      rw [Option.any_some]
      exact decide_eq_true (hstale reason rfl)
    rw [if_pos ⟨hreason, hauthoritative⟩]
    refine Contract.holds_bind.mpr
      ((holds_lookupCached_kept hagain hkey hkept).mono fun s₁ r₁ h₁ => ?_)
    match r₁ with
    | .error e => exact h₁.elim
    | .ok (.error message) => exact h₁.elim
    | .ok (.ok none) => exact h₁.elim
    | .ok (.ok (some cached)) =>
      exact holds_executeTool_kept hagain hkey h₁.1 hauthoritative

/-- The same request ends with the stored response only. -/
theorem holds_run_kept (hkept : Kept calls i response s.log)
    (hdeclared : ∀ request route, (calls i).invocation = .http request route →
      requireDeclaredPaymentIdentifier env (calls i).payload = none) :
    (bindingContract store calls allowed).Holds j ((calls j).run store)
      (Replayed calls i response) s := by
  have hpaid : (calls j).paid.authoritative = (calls j).invocation.authoritative env := rfl
  have heffects := (calls j).unsafe_
  have hsame := hagain.invocation
  unfold PaidCall.run
  cases hinvocation : (calls j).invocation with
  | http request route =>
    rw [hinvocation] at hpaid heffects hsame
    exact holds_httpCall_kept hagain hkey hkept (hdeclared request route hsame.symm)
      (hpaid ▸ requiresResponseRecovery_http request route heffects)
  | tool name configured kwargs =>
    rw [hinvocation] at hpaid
    refine holds_toolCall_kept hagain hkey hkept ?_
    rw [hpaid]
    exact fun h => by cases h

end Holds

/-! ## Section 3: Runs -/

/-- Request `i` has ended with what its handler has produced, and that was no
    error. -/
structure Completed (calls : ι → PaidCall env) (c : Config ι Op Ret Exc Outcome Redis.Db) (i : ι)
    (response : StoredResourceResponse) : Prop where
  produced : Produced env c.state.log i response
  success : response.statusCode < 400
  ended : (∃ delivered, c.outcome i = some (.ok (.responded delivered))) ∨
    ∃ result, c.outcome i = some (.ok (.returned result))

section Runs

variable [DecidableEq ι] {store : RedisResourceResponseStore} {calls : ι → PaidCall env}
variable {db : Redis.Db} {c c' : Config ι Op Ret Exc Outcome Redis.Db} {i j : ι}
variable {response : StoredResourceResponse}

omit [DecidableEq ι] in
theorem completed_of_responded {r : HandlerResponse} {delivered : Response}
    (hran : ⟨⟨.endpoint, .ok r⟩, i⟩ ∈ c.state.log) (hstatus : r.status < 400)
    (houtcome : c.outcome i = some (.ok (.responded delivered))) :
    Completed calls c i (toStoredResponse env r.rebuilt r.chunks.flatten) :=
  ⟨.response r hran, hstatus, .inl ⟨delivered, houtcome⟩⟩

/-- Completed work has been written. -/
theorem Completed.kept (h : Completed calls c i response)
    (hgood : (bindingContract store calls anyStep).Good (Ends calls) c) :
    Kept calls i response c.state.log := by
  have hbound : Bound calls c.state := hgood.inv
  refine ⟨h.produced, ?_⟩
  rcases h.ended with ⟨delivered, houtcome⟩ | ⟨result, houtcome⟩
  -- An endpoint stores only what it has answered with success.
  · have hthread := Config.outcome_eq_ok.mp houtcome
    obtain ⟨s, -, hrely, -, r, hran, hwritten⟩ :=
      hgood.ended hthread (r := .ok (.responded delivered)) ⟨rfl, rfl⟩
    have hsub : s.log ⊆ c.state.log := fun e he => hrely.evolve.mem_log he
    have hresponse := hbound.produced_unique h.produced (.response r (hsub hran))
    have hstatus : r.status < 400 := by
      have hsuccess := h.success
      rw [hresponse] at hsuccess
      exact hsuccess
    obtain ⟨key, value, ex, hwrite⟩ := hwritten hstatus
    exact ⟨key, value, ex, hsub hwrite⟩
  -- A tool's result is stored before it is returned.
  · have hthread := Config.outcome_eq_ok.mp houtcome
    obtain ⟨s, -, hrely, -, key, value, ex, hwrite⟩ :=
      hgood.ended hthread (r := .ok (.returned result)) ⟨rfl, rfl⟩
    exact ⟨key, value, ex, hrely.evolve.mem_log hwrite⟩

/-- A completed HTTP request has declared its identifier. -/
theorem Completed.declared (h : Completed calls c i response)
    (hrun : Run (paidSystem store calls) anyStep (Config.init db) c) {request : Request}
    {route : RouteConfig} (hinvocation : (calls i).invocation = .http request route) :
    requireDeclaredPaymentIdentifier env (calls i).payload = none := by
  -- A request without the identifier would have been refused.
  by_contra hundeclared
  obtain ⟨reason, hreason⟩ := Option.ne_none_iff_exists'.mp hundeclared
  have hrefused : ∀ outcome, c.outcome i = some (.ok outcome) →
      outcome = .refused ∨ ∃ message, outcome = .conflict message := by
    intro outcome houtcome
    have hpath := hrun.own_path (Config.outcome_eq_ok.mp houtcome) (r := .ok outcome) ⟨rfl, rfl⟩
    change ((calls i).run store).Path _ _ at hpath
    unfold PaidCall.run at hpath
    rw [hinvocation] at hpath
    exact refused_of_undeclared hreason hpath
  rcases h.ended with ⟨delivered, houtcome⟩ | ⟨result, houtcome⟩
  · rcases hrefused _ houtcome with heq | ⟨message, heq⟩ <;> cases heq
  · rcases hrefused _ houtcome with heq | ⟨message, heq⟩ <;> cases heq

omit [DecidableEq ι] in
/-- What is delivered for the product of request `i`. -/
theorem Produced.delivers {settlement : Settlement} (hlawful : settlement.Lawful)
    {s : State ι Op Ret Redis.Db} (hbound : Bound calls s) (h : Produced env s.log i response) :
    DeliversWorkOf env settlement (fun _ _ => True) s.log i response.sorted
      (calls i).invocation := by
  cases h with
  | response r hran =>
    obtain ⟨x, route, hi⟩ := exists_http (hbound.handlers _ hran rfl).1.symm
    rw [hi]
    obtain ⟨delivered, hdelivered, hstatus, hbody, -⟩ := deliverCached_stored hlawful r rfl
    exact ⟨r, delivered, hran, hdelivered, hstatus, hbody, trivial⟩
  | result t hran =>
    obtain ⟨name, configured, kwargs, hi⟩ := exists_tool (hbound.handlers _ hran rfl).1.symm
    rw [hi]
    exact ⟨t, hran, rfl⟩

/-- Once a request has ended with what its handler produced, the same request
    sent again, verified or with a stale authorization, starts no handler and
    writes nothing. It ends in no other way than with the stored response, whose
    status and body are those of the handler, whatever the other requests do
    meanwhile. -/
theorem completed_work_is_replayed {ι : Type} [DecidableEq ι] (env : Env)
    (store : RedisResourceResponseStore) (calls : ι → PaidCall env) (settlement : Settlement)
    (hlawful : settlement.Lawful) (db : Redis.Db)
    (hfree : ∀ i key, (calls i).key = some key → db key = none)
    (c c' : Config ι Op Ret Exc Outcome Redis.Db)
    (h : Run (paidSystem store calls) anyStep (Config.init db) c) (i j : ι)
    (response : StoredResourceResponse) (hcompleted : Completed calls c i response)
    (hagain : Again (calls i) (calls j)) (hnew : c.threads j = none)
    (h' : Run (paidSystem store calls) anyStep c c') :
    (∀ e ∈ c'.state.log, e.who = j → Passive e.toEvent) ∧
    (∀ r, c'.outcome j = some r → r = .ok (.replayed response.sorted)) ∧
    Finishes ((calls j).run store) ∧
    DeliversWorkOf env settlement (fun _ _ => True) c'.state.log i response.sorted
      (calls j).invocation := by
  have hgood := good_of_run hfree h
  have hkept := hcompleted.kept hgood
  have hlog : c.state.log ⊆ c'.state.log := h'.log_suffix.subset
  have hbound' : Bound calls c'.state := (good_of_run hfree (h.trans h')).inv
  -- The first request wrote its response, so it had acquired its key.
  obtain ⟨key, hacquired⟩ : ∃ key, Acquired c.state.log i key := by
    obtain ⟨key, value, ex, hwrite⟩ := hkept.written
    exact ⟨key, hgood.inv.writes _ hwrite key value ex false rfl⟩
  have hkey : (calls i).key = some key := hgood.inv.own hacquired
  have hkeyAgain : (calls j).key = some key := by
    unfold PaidCall.key at hkey ⊢
    rw [hagain.payload, hagain.requirements]
    exact hkey
  -- The first request has begun and the second has not.
  have hne : i ≠ j := by
    rintro rfl
    have hidle := hgood.idle i hnew
    obtain ⟨record, ex, hmem⟩ := hacquired
    have hown := mem_own.mpr hmem
    rw [hidle] at hown
    cases hown
  refine ⟨fun e he hwho => ?_, fun r hr => ?_, finishes_run (calls j), ?_⟩
  -- The key is taken, so the second request acquires none and neither runs nor writes.
  · have hnone : ∀ key', ¬ Acquired c'.state.log e.who key' := by
      intro key' hother
      have hsame : (calls j).key = some key' := hwho ▸ hbound'.own hother
      obtain rfl := Option.some.inj (hkeyAgain.symm.trans hsame)
      exact hne ((hbound'.unique (hacquired.mono hlog) hother).trans hwho)
    apply passive_of_not_write
    · by_contra hhandler
      obtain ⟨-, key', hother⟩ := hbound'.handlers e he (by simpa using hhandler)
      exact hnone key' hother
    · intro key' value ex nx hevent
      exact hnone key' (hbound'.writes e he key' value ex nx hevent)
  · have hlater : ∀ s, Bound calls s → (bindingContract store calls anyStep).Evolve c.state s →
        Interaction.own j s.log = [] →
        (bindingContract store calls anyStep).Holds j ((calls j).run store)
          (Replayed calls i response) s := by
      intro s _ hevolve _
      have hkept' := hkept.mono fun e he => hevolve.mem_log he
      exact holds_run_kept hagain hkey hkept' fun _ _ hinvocation => hcompleted.declared h hinvocation
    obtain ⟨p, hp, hended⟩ : ∃ p, c'.threads j = some p ∧ p.Path [] r := by
      unfold Config.outcome at hr
      split at hr
      · next a hthread => exact ⟨_, hthread, rfl, (Option.some.inj hr).symm⟩
      · next e hthread => exact ⟨_, hthread, rfl, (Option.some.inj hr).symm⟩
      · cases hr
    obtain ⟨s, -, -, hholds⟩ := Contract.Good.started_later
      (fun _ _ _ hown => holds_run hown) hgood h' hnew hlater hp
    cases p with
    | ret a =>
      obtain ⟨-, rfl⟩ := hended
      exact hholds.2
    | raise e =>
      obtain ⟨-, rfl⟩ := hended
      exact hholds.2
    | spin => exact hended.elim
    | call o k =>
      obtain ⟨_, _, hcons, _⟩ := hended
      cases hcons
  · rw [hagain.invocation]
    exact (hkept.produced.mono hlog).delivers hlawful hbound'

end Runs

/-! ### An order that is sent again after its transaction was validated -/

/-- A request that is served alone ends with the response of its handler. -/
theorem exists_responded (store : RedisResourceResponseStore) (calls : Bool → PaidCall env)
    (r : HandlerResponse) (db : Redis.Db) {identifier : String} {request : Request} {route : RouteConfig}
    (hinvocation : (calls false).invocation = .http request route)
    (hverified : (calls false).failure = none)
    (hidentified : (calls false).paid.Identified env identifier) (hstatus : r.status < 400)
    (hfree : ∀ i key, (calls i).key = some key → db key = none) :
    ∃ c, Run (paidSystem store calls) (AnsweredBy (onDatabase (returning r))) (Config.init db) c ∧
      ⟨⟨.endpoint, .ok r⟩, false⟩ ∈ c.state.log ∧ c.outcome false = some (.ok (.responded r.rebuilt)) ∧
      c.threads true = none ∧
      c.state.shared ((calls false).paid.keyOf env identifier) =
        some (keptEntry env store (calls false).paid r) := by
  have hkey : (calls false).key = some ((calls false).paid.keyOf env identifier) := by
    apply key_of_identifier
    unfold identifierOf
    rw [hidentified.extracted]
  have hprog : (paidSystem store calls).prog false =
      httpCall env store none request.method (calls false).paid := by
    show (calls false).run store = _
    unfold PaidCall.run
    rw [hinvocation, hverified]
  have hmethod : env.unicode.upperStr request.method ∉ safeMethods := by
    have heffects := (calls false).unsafe_
    rw [hinvocation] at heffects
    exact heffects.1
  have hinit : Run (paidSystem store calls) (AnsweredBy (onDatabase (returning r)))
      (Config.init db) (Config.init db) := .refl
  obtain ⟨c, hrun, hshared, houtcome, hothers⟩ :=
    hinit.start_runOn (execStore_onDatabase (returning r)) (i := false) rfl (by
      rw [hprog]
      exact afterVerifyHttp_first hidentified hmethod (hfree false _ hkey) hstatus)
  have hplain : Run (paidSystem store calls) anyStep (Config.init db) c :=
    hrun.mono fun _ _ _ => trivial
  have hgood := good_of_run hfree hplain
  obtain ⟨s, -, hrely, -, r', hran', -⟩ := hgood.ended (Config.outcome_eq_ok.mp houtcome)
    (r := .ok (.responded r.rebuilt)) ⟨rfl, rfl⟩
  have hran := hrely.evolve.mem_log hran'
  have hanswers := hrun.every_entry (P := fun e _ => ∀ db, e.op.isHandler = true →
    e.ans = (onDatabase (returning r) db e.op).1) (by
      rintro s ⟨⟨o, a⟩, i⟩ ha db hop
      have ha' : a = (onDatabase (returning r) s.shared o).1 := ha
      rw [ha']
      cases o with
      | get key => cases hop
      | set key value ex nx => cases hop
      | endpoint => rfl
      | tool => rfl)
  obtain ⟨_, _, _, hanswer⟩ := hanswers.of_mem hran
  have hr : r' = r := Except.ok.inj (hanswer db rfl)
  subst hr
  refine ⟨c, hrun, hran, houtcome, hothers true (by decide), ?_⟩
  rw [hshared]
  exact Function.update_self ..

namespace Sample

/-- The order, and the order sent again with a sequence that is no longer
    current. -/
def orders : Bool → PaidCall orderEnv
  | false => order
  | true => { order with failure := some "invalid_exact_xrpl_payload_sequence_not_current" }

theorem orders_again : Again (orders false) (orders true) where
  payload := rfl
  requirements := rfl
  invocation := rfl
  stale reason h := by
    obtain rfl := Option.some.inj h
    exact List.mem_cons_self

end Sample

theorem completed_order_is_replayed :
    ∃ c, Run (paidSystem Sample.responseStore Sample.orders) anyStep (Config.init Sample.emptyDb) c ∧
      (∀ e ∈ c.state.log, e.who = true → Passive e.toEvent) ∧
      c.outcome true = some (.ok (.replayed (toStoredResponse Sample.orderEnv Sample.plain.rebuilt
        Sample.plain.chunks.flatten).sorted)) := by
  obtain ⟨c₁, hrun₁, hran, hresponded, hnew, hkept⟩ := exists_responded Sample.responseStore
    Sample.orders Sample.plain Sample.emptyDb rfl rfl Sample.order_identified (by decide)
    (fun _ _ _ => rfl)
  have hcompleted : Completed Sample.orders c₁ false (toStoredResponse Sample.orderEnv
      Sample.plain.rebuilt Sample.plain.chunks.flatten) :=
    completed_of_responded hran (by decide) hresponded
  have hprog : (paidSystem Sample.responseStore Sample.orders).prog true =
      httpCall Sample.orderEnv Sample.responseStore (Sample.orders true).failure "POST"
        (Sample.orders false).paid := rfl
  have hstart : Run (paidSystem Sample.responseStore Sample.orders)
      (AnsweredBy (onDatabase (returning Sample.plain))) c₁ c₁ := .refl
  obtain ⟨c₂, hrun₂, -, houtcome, -⟩ :=
    hstart.start_runOn (execStore_onDatabase (returning Sample.plain)) (i := true) hnew (by
      rw [hprog]
      exact httpCall_again Sample.order_identified Sample.orders_again.stale hkept)
  have hplain₁ : Run (paidSystem Sample.responseStore Sample.orders) anyStep
      (Config.init Sample.emptyDb) c₁ := hrun₁.mono fun _ _ _ => trivial
  have hplain₂ : Run (paidSystem Sample.responseStore Sample.orders) anyStep c₁ c₂ :=
    hrun₂.mono fun _ _ _ => trivial
  obtain ⟨hpassive, hreplayed, -, -⟩ := completed_work_is_replayed Sample.orderEnv
    Sample.responseStore Sample.orders Sample.settlement Sample.settlement_lawful Sample.emptyDb
    (fun _ _ _ => rfl) c₁ c₂ hplain₁ false true _ hcompleted Sample.orders_again hnew hplain₂
  have hr := Except.ok.inj (hreplayed _ houtcome)
  rw [hr] at houtcome
  exact ⟨c₂, hplain₁.trans hplain₂, hpassive, houtcome⟩

end XrplX402.Middleware
