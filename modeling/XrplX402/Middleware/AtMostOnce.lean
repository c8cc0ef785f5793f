import XrplX402.Identities
import XrplX402.Middleware.Retries
import XrplX402.Middleware.Serving

/-! # At most one execution for each identifier

    A handler starts at most once for each key, and what is replayed is what the
    request with the binding has produced.

    * `Repeats`: a request for the work of another one.
    * **`AtMostOnce`**: what holds in every state of every run.
    * The replayed response has the headers of the handler's exactly as far as
      the store keeps them. -/

namespace XrplX402.Middleware

open Py Interaction Prog

variable {env : Env} {ι : Type}

/-! ## Section 1: What is replayed -/

/-- The same method, address and body, or the same tool and arguments. -/
def SameWork (env : Env) : Invocation → Invocation → Prop
  | .http x _, .http y _ => SameInvocation env x y
  | .tool name _ kwargs, .tool name' _ kwargs' =>
    name = name' ∧ SameJson (.obj (mcpArguments kwargs)) (.obj (mcpArguments kwargs'))
  | _, _ => False

theorem SameWork.handler_eq {v w : Invocation} (h : SameWork env v w) : v.handler = w.handler := by
  cases v with
  | http x route =>
    cases w with
    | http y route' => rfl
    | tool name configured kwargs => exact h.elim
  | tool name configured kwargs =>
    cases w with
    | http y route' => exact h.elim
    | tool name' configured' kwargs' => rfl

theorem exists_http {v : Invocation} (h : v.handler = .endpoint) : ∃ x route, v = .http x route := by
  cases v with
  | http x route => exact ⟨x, route, rfl⟩
  | tool name configured kwargs => cases h

theorem exists_tool {v : Invocation} (h : v.handler = .tool) :
    ∃ name configured kwargs, v = .tool name configured kwargs := by
  cases v with
  | http x route => cases h
  | tool name configured kwargs => exact ⟨name, configured, kwargs, rfl⟩

/-- Request `i` asks for the work of request `j`, which has acquired the binding. -/
structure Repeats (calls : ι → PaidCall env) (log : Log ι) (i j : ι) : Prop where
  binding : ∃ key, (calls i).key = some key ∧ Acquired log j key
  request : SameRequest env (calls i).payload (calls j).payload (calls i).requirements
    (calls j).requirements none none
    ((calls i).paid.authoritative.map AuthoritativeResource.resource)
    ((calls j).paid.authoritative.map AuthoritativeResource.resource)
    ((calls i).paid.authoritative.map AuthoritativeResource.identity)
    ((calls j).paid.authoritative.map AuthoritativeResource.identity)
  work : SameWork env (calls i).invocation (calls j).invocation

/-- What is delivered for a stored response is what the handler of `j` produced. -/
def DeliversWorkOf (env : Env) (settlement : Settlement) (same : HeaderList → HeaderList → Prop)
    (log : Log ι) (j : ι) (cached : StoredResourceResponse) : Invocation → Prop
  | .http .. => ∃ r delivered, ⟨⟨.endpoint, .ok r⟩, j⟩ ∈ log ∧
      deliverCached env (settlement.replay (skipHandlerDirective cached)) cached = .ok delivered ∧
      SameResponse same r delivered
  | .tool .. => ∃ t, ⟨⟨.tool, .ok (some t)⟩, j⟩ ∈ log ∧ cached.body = .value t.value.sortKeys

/-- The identities of an HTTP request and of a tool differ. -/
theorem sameWork_of_identity (hinj : Function.Injective env.sha256) {v w : Invocation}
    (h : (v.authoritative env).map AuthoritativeResource.identity =
      (w.authoritative env).map AuthoritativeResource.identity) : SameWork env v w := by
  -- The identity of a tool call begins with another letter than that of an HTTP request.
  have hkinds : ∀ (request : Request) (name : String) (configured : Option ResourceInfo) (kwargs : Dict),
      httpIdentity env request ≠ mcpIdentity env name configured kwargs := by
    intro request name configured kwargs heq
    have hlist := congrArg String.toList heq
    simp only [httpIdentity, mcpIdentity, mcpInvocationResource, mcpAuthoritativeResource,
      String.toList_append] at hlist
    have hhead := congrArg List.head? hlist
    simp at hhead
  cases v with
  | http x route =>
    cases w with
    | http y route' => exact (httpIdentity_eq_iff hinj).mp (Option.some.inj h)
    | tool name configured kwargs => exact absurd (Option.some.inj h) (hkinds x name configured kwargs)
  | tool name configured kwargs =>
    cases w with
    | http y route' => exact absurd (Option.some.inj h).symm (hkinds y name configured kwargs)
    | tool name' configured' kwargs' => exact (mcpIdentity_eq_iff hinj).mp (Option.some.inj h)

theorem ReplaysFrom.repeats {calls : ι → PaidCall env} {log : Log ι} {i j : ι} {key : String}
    {response cached : StoredResourceResponse} (hinj : Function.Injective env.sha256)
    (h : ReplaysFrom calls log i j key response cached) : Repeats calls log i j := by
  have hrequest := (requirementsFingerprint_eq_iff hinj).mp h.fingerprint
  exact ⟨⟨key, h.hasKey, h.acquired⟩, hrequest, sameWork_of_identity hinj hrequest.identity⟩

/-- The response of a handler comes from the store with its status and its body,
    and with its headers as far as the store keeps them. -/
theorem deliverCached_stored {settlement : Settlement} (hlawful : settlement.Lawful)
    (r : HandlerResponse) {cached : StoredResourceResponse}
    (hcached : cached = (toStoredResponse env r.rebuilt r.chunks.flatten).sorted) :
    ∃ delivered, deliverCached env (settlement.replay (skipHandlerDirective cached)) cached =
        .ok delivered ∧
      delivered.status = r.status ∧ delivered.chunks.flatten = r.chunks.flatten ∧
      (SameResponse Eq r delivered ↔ InStoredOrder r) ∧
      (SameResponse List.Perm r delivered ↔ Unrepeated r ∧ Typed r) := by
  obtain ⟨kept, delivered, hrestore, hstatus, hbody, hheaders, hkept, hincreasing⟩ :=
    restore_stored env r (hlawful.replayHeaders (skipHandlerDirective cached))
  rw [← hcached] at hrestore
  -- The content type is compared with the headers that the response had, not with those added.
  have htype : (r.headers.lookup "content-type").getD "application/octet-stream" =
      typeOf (comparable r.headers) := by
    unfold typeOf comparable
    rw [Items.lookup_filter (p := fun name => decide (name ∉ addedNames)) (by decide)]
  rw [htype] at hheaders
  have hsame : ∀ same : HeaderList → HeaderList → Prop, SameResponse same r delivered ↔
      same (kept ++ [("content-type", typeOf (comparable r.headers))]) (comparable r.headers) := by
    intro same
    rw [← hheaders]
    exact ⟨fun h => h.headers, fun h => ⟨hstatus, hbody, h⟩⟩
  refine ⟨delivered, ?_, hstatus, hbody, ?_, ?_⟩
  · rw [deliverCached, if_pos (hlawful.replayStatus _), hrestore]
  · rw [hsame, restored_eq_iff hkept hincreasing]
    rfl
  · rw [hsame, restored_perm_iff hkept hincreasing]
    rfl

/-! ## Section 2: Runs -/

/-- An event that starts no handler and leaves every database as it is. -/
def Passive (e : Event Op Ret) : Prop :=
  e.op.isHandler = false ∧ ∀ db db', execStore db e.op e.ans = some db' → db' = db

theorem set_unwritten {condition : Redis.Condition} {ex : Option Int} {key value : String}
    {db : Redis.Db} (h : (Redis.set condition ex key value db).1 ≠ .ok true) :
    (Redis.set condition ex key value db).2 = db := by
  unfold Redis.set at h ⊢
  split
  · rfl
  · next hexpiry =>
    rw [if_neg hexpiry] at h
    split
    · next hpermitted =>
      rw [if_pos hpermitted] at h
      exact absurd rfl h
    · rfl

/-- Only a successful write changes the database. -/
theorem passive_of_not_write {e : Event Op Ret} (hop : e.op.isHandler = false)
    (hwrite : ∀ key value ex nx, e ≠ ⟨.set key value ex nx, .ok true⟩) : Passive e := by
  refine ⟨hop, fun db db' hx => ?_⟩
  obtain ⟨o, r⟩ := e
  cases o with
  | get key => exact (execStore_get.mp hx).2
  | endpoint => cases hop
  | tool => cases hop
  | set key value ex nx =>
    have hx' : (if r = (Redis.set (if nx then .nx else .always) (some ex) key value db).1 then
        some (Redis.set (if nx then .nx else .always) (some ex) key value db).2 else none) =
          some db' := hx
    rw [Option.ite_none_right_eq_some, Option.some.injEq] at hx'
    obtain ⟨hr, rfl⟩ := hx'
    -- A `SET` that was not carried out leaves the database as it is.
    apply set_unwritten
    intro hwritten
    rw [hwritten] at hr
    exact hwrite key value ex nx (congrArg (Event.mk (Op.set key value ex nx)) hr)

/-- Every program ends after finitely many commands, however they are answered. -/
abbrev Finishes {α : Type} (p : Service α) : Prop := p.Total (fun _ _ => True) fun _ => True

section Finishes

variable {α β : Type}

theorem finishes_bind {p : Service α} {f : α → Service β} (hp : Finishes p)
    (hf : ∀ a, Finishes (f a)) : Finishes (p >>= f) :=
  Prog.Total.bind hp (fun a _ => hf a) fun _ _ => trivial

theorem finishes_check (x : Except Exc α) : Finishes (check x) := Prog.total_ofExcept.mpr trivial

theorem finishes_perform (o : Op) : Finishes (perform o) := fun _ _ => trivial

theorem finishes_catchValueError {p : Service α} {f : Exc → α} (hp : Finishes p) :
    Finishes (catchValueError p fun e => .ret (f e)) := by
  refine Prog.Total.tryCatch hp (fun _ _ => trivial) fun e _ => ?_
  split
  · trivial
  · trivial

variable {store : RedisResourceResponseStore} {q : PaidRequest}

theorem finishes_lookupCached : Finishes (lookupCached env q) := by
  refine finishes_catchValueError (finishes_bind ?_ fun _ => trivial)
  refine finishes_bind (finishes_check _) fun identifier => ?_
  cases identifier with
  | none => trivial
  | some identifier =>
    refine finishes_bind (finishes_perform _) fun raw => ?_
    split
    · trivial
    · exact finishes_check _

theorem finishes_bindAttempts {key record fingerprint : String} {ex : Int} (attempts : Nat) :
    Finishes (RedisResourceResponseStore.bindAttempts key record fingerprint ex attempts) := by
  induction attempts with
  | zero => trivial
  | succ attempts ih =>
    refine finishes_bind (finishes_perform _) fun r => finishes_bind (finishes_check r) fun acquired => ?_
    split
    · trivial
    · refine finishes_bind (finishes_perform _) fun raw => ?_
      split
      · exact finishes_bind (finishes_check _) fun _ => finishes_bind (finishes_check _) fun _ => trivial
      · exact ih

theorem finishes_acquireBinding : Finishes (acquireBinding env store q) := by
  refine finishes_catchValueError (finishes_bind ?_ fun _ => trivial)
  refine finishes_bind (finishes_check _) fun identifier => ?_
  cases identifier with
  | none => trivial
  | some identifier => exact finishes_bindAttempts 2

theorem finishes_put (response : StoredResourceResponse) : Finishes (store.put env q response) := by
  refine finishes_bind (finishes_check _) fun identifier => ?_
  cases identifier with
  | none => trivial
  | some identifier =>
    refine finishes_bind (finishes_perform _) fun raw => finishes_bind (finishes_check _) fun _ => ?_
    exact finishes_bind (finishes_perform _) fun r => finishes_bind (finishes_check r) fun _ => trivial

theorem finishes_recoverHandler : Finishes (recoverHandler env store q) := by
  refine finishes_bind (finishes_check _) fun required => ?_
  split
  · refine finishes_bind finishes_lookupCached fun found => ?_
    match found with
    | .error message => trivial
    | .ok (some cached) => trivial
    | .ok none =>
      refine finishes_bind finishes_acquireBinding fun bound => ?_
      match bound with
      | .error message => trivial
      | .ok true => trivial
      | .ok false => trivial
  · trivial

theorem finishes_bufferedCallNext (method : String) :
    Finishes (bufferedCallNext env (some store) method q) := by
  refine finishes_bind (finishes_perform _) fun r => finishes_bind (finishes_check r) fun response => ?_
  split
  · trivial
  · refine finishes_bind (finishes_check _) fun rebuilt => finishes_bind ?_ fun _ => trivial
    unfold keepResponse
    dsimp only
    split
    · trivial
    · split
      · trivial
      · exact finishes_put _

theorem finishes_afterVerifyHttp (method : String) : Finishes (afterVerifyHttp env store method q) := by
  unfold afterVerifyHttp
  split
  · trivial
  · refine finishes_bind finishes_recoverHandler fun decision => ?_
    cases decision with
    | proceed => exact finishes_bind (finishes_bufferedCallNext method) fun _ => trivial
    | skip cached => trivial
    | conflict message => trivial
    | abort reason => trivial

theorem finishes_httpCall (failure : Option String) (method : String) :
    Finishes (httpCall env store failure method q) := by
  cases failure with
  | none => exact finishes_afterVerifyHttp method
  | some reason =>
    refine finishes_bind ?_ fun recovery => ?_
    -- Recovery looks up once, and only for a stale refusal.
    · unfold recoverCachedAuthorization
      split
      · refine finishes_bind (finishes_check _) fun required => ?_
        split
        · refine finishes_bind finishes_lookupCached fun found => ?_
          match found with
          | .error message => trivial
          | .ok none => trivial
          | .ok (some cached) => trivial
        · trivial
      · trivial
    · cases recovery with
      | recovered => exact finishes_afterVerifyHttp method
      | conflict message => trivial
      | failed => trivial

theorem finishes_executeTool : Finishes (executeTool env store q) := by
  refine finishes_bind ?_ fun loaded => ?_
  · unfold loadCachedResponse
    split
    · trivial
    · refine finishes_bind finishes_lookupCached fun found => ?_
      match found with
      | .error message => trivial
      | .ok (some cached) => trivial
      | .ok none =>
        refine finishes_bind finishes_acquireBinding fun bound => ?_
        match bound with
        | .error message => trivial
        | .ok true => trivial
        | .ok false => trivial
  · match loaded with
    | none => trivial
    | some (some cached) => trivial
    | some none =>
      refine finishes_bind (finishes_bind (finishes_perform _) fun r => ?_) fun _ => trivial
      refine finishes_bind (finishes_check r) fun result => ?_
      cases result with
      | none => trivial
      | some result => exact finishes_bind (finishes_put _) fun _ => trivial

theorem finishes_toolCall (failure : Option String) : Finishes (toolCall env store failure q) := by
  cases failure with
  | none => exact finishes_executeTool
  | some reason =>
    show Finishes (if _ then _ else _)
    split
    · refine finishes_bind finishes_lookupCached fun found => ?_
      match found with
      | .error message => trivial
      | .ok none => trivial
      | .ok (some cached) => exact finishes_executeTool
    · trivial

theorem finishes_run (c : PaidCall env) : Finishes (c.run store) := by
  unfold PaidCall.run
  split
  · exact finishes_httpCall _ _
  · exact finishes_toolCall _

end Finishes

section Runs

variable [DecidableEq ι] {store : RedisResourceResponseStore} {calls : ι → PaidCall env}
variable {settlement : Settlement} {same : HeaderList → HeaderList → Prop}
variable {db : Redis.Db} {c : Config ι Op Ret Exc Outcome Redis.Db}

/-- What holds of any number of requests, in whatever order they take their steps. -/
structure AtMostOnce (settlement : Settlement) (same : HeaderList → HeaderList → Prop)
    (calls : ι → PaidCall env) (c : Config ι Op Ret Exc Outcome Redis.Db) : Prop where
  /-- No two handlers have started under one key. -/
  once : (handlerStarts c.state.log).Pairwise fun e e' => (calls e.who).key ≠ (calls e'.who).key
  binding : ∀ {i j key}, Acquired c.state.log i key → Acquired c.state.log j key → i = j
  /-- A request without the binding starts no handler and changes nothing. -/
  others : ∀ e ∈ c.state.log, (∃ key, Acquired c.state.log e.who key) ∨ Passive e.toEvent
  replayed : ∀ i cached, c.outcome i = some (.ok (.replayed cached)) → ∃ j,
    Repeats calls c.state.log i j ∧
      DeliversWorkOf env settlement same c.state.log j cached (calls i).invocation

/-- Request `i` has ended with the response that a handler has produced as `r`. -/
def RepliesWith (calls : ι → PaidCall env) (c : Config ι Op Ret Exc Outcome Redis.Db) (i : ι)
    (r : HandlerResponse) : Prop :=
  ∃ cached j key, c.outcome i = some (.ok (.replayed cached)) ∧ (calls i).key = some key ∧
    Acquired c.state.log j key ∧ ⟨⟨.endpoint, .ok r⟩, j⟩ ∈ c.state.log

omit [DecidableEq ι] in
/-- Under one key there is one response to reply with. -/
theorem replies_unique (hbound : Bound calls c.state) {i j : ι} {r r' : HandlerResponse}
    (hkeys : (calls i).key = (calls j).key) (h : RepliesWith calls c i r) (h' : RepliesWith calls c j r') :
    r = r' := by
  obtain ⟨_, k, key, -, hkey, hacquired, hran⟩ := h
  obtain ⟨_, k', key', -, hkey', hacquired', hran'⟩ := h'
  obtain rfl : key = key' := Option.some.inj (hkey.symm.trans (hkeys.trans hkey'))
  obtain rfl := hbound.unique hacquired hacquired'
  cases hbound.handler_unique hran hran' rfl rfl rfl
  rfl

omit [DecidableEq ι] in
/-- A replayed response is delivered as the handler produced it exactly when the
    store keeps its headers; the result of a tool always is. -/
theorem delivers_iff (hbound : Bound calls c.state)
    {kept : HandlerResponse → Prop}
    (hkept : ∀ (r : HandlerResponse) (cached : StoredResourceResponse),
      cached = (toStoredResponse env r.rebuilt r.chunks.flatten).sorted →
      ∃ delivered, deliverCached env (settlement.replay (skipHandlerDirective cached)) cached =
        .ok delivered ∧ (SameResponse same r delivered ↔ kept r))
    (hreplays : ∀ i cached, c.outcome i = some (.ok (.replayed cached)) →
      Replays calls c.state.log i cached) (hinj : Function.Injective env.sha256) :
    AtMostOnce settlement same calls c ↔ ∀ i r, RepliesWith calls c i r → kept r := by
  constructor
  · rintro h i r ⟨cached, j, key, houtcome, hkey, hj, hran⟩
    obtain ⟨j', hrepeats, hdelivers⟩ := h.replayed i cached houtcome
    obtain ⟨key', hkey', hj'⟩ := hrepeats.binding
    rw [hkey] at hkey'
    obtain rfl := Option.some.inj hkey'
    obtain rfl := hbound.unique hj hj'
    obtain ⟨x, route, hi⟩ := exists_http
      (hrepeats.work.handler_eq.trans (hbound.handlers _ hran rfl).1.symm)
    rw [hi] at hdelivers
    obtain ⟨r', delivered, hran', hdelivered, hsame⟩ := hdelivers
    -- Both are what the handler of the binding's owner returned.
    have hr : r = r' := by
      cases hbound.handler_unique hran hran' rfl rfl rfl
      rfl
    subst hr
    obtain ⟨j', key', response, hfrom⟩ := hreplays i cached houtcome
    obtain rfl := hbound.unique (Option.some.inj (hkey.symm.trans hfrom.hasKey) ▸ hfrom.acquired) hj'
    have hproduced := hfrom.produced
    -- What is replayed is that response in its stored form.
    have hcached : cached = (toStoredResponse env r.rebuilt r.chunks.flatten).sorted := by
      rw [hfrom.sorted]
      cases hproduced with
      | response r'' hran'' =>
        cases hbound.handler_unique hran hran'' rfl rfl rfl
        rfl
      | result t hran'' => cases hbound.handler_unique hran hran'' rfl rfl rfl
    obtain ⟨delivered', hdelivered', hiff⟩ := hkept r cached hcached
    rw [hdelivered] at hdelivered'
    obtain rfl := Except.ok.inj hdelivered'
    exact hiff.mp hsame
  · intro h
    refine ⟨hbound.once, hbound.unique, fun e he => ?_, fun i cached houtcome => ?_⟩
    -- Who has no key neither runs a handler nor writes.
    · by_cases hacquired : ∃ key, Acquired c.state.log e.who key
      · exact .inl hacquired
      · refine .inr (passive_of_not_write ?_ fun key value ex nx hevent => ?_)
        · by_contra hhandler
          exact hacquired (hbound.handlers e he (by simpa using hhandler)).2
        · exact hacquired ⟨key, hbound.writes e he key value ex nx hevent⟩
    · obtain ⟨j, key, response, hfrom⟩ := hreplays i cached houtcome
      have hrepeats := hfrom.repeats hinj
      refine ⟨j, hrepeats, ?_⟩
      have hproduced := hfrom.produced
      -- The owner's handler was an endpoint or a tool, and so is the retry.
      cases hproduced with
      | response r hran =>
        obtain ⟨x, route, hi⟩ := exists_http
          (hrepeats.work.handler_eq.trans (hbound.handlers _ hran rfl).1.symm)
        rw [hi]
        obtain ⟨delivered, hdelivered, hiff⟩ := hkept r cached hfrom.sorted
        have hr := h i r ⟨cached, j, key, houtcome, hfrom.hasKey, hfrom.acquired, hran⟩
        exact ⟨r, delivered, hran, hdelivered, hiff.mpr hr⟩
      | result t hran =>
        obtain ⟨name, configured, kwargs, hi⟩ := exists_tool
          (hrepeats.work.handler_eq.trans (hbound.handlers _ hran rfl).1.symm)
        rw [hi]
        refine ⟨t, hran, ?_⟩
        rw [hfrom.sorted]
        rfl

variable (hlawful : settlement.Lawful) (hbound : Bound calls c.state)
variable (hreplays : ∀ i cached, c.outcome i = some (.ok (.replayed cached)) →
  Replays calls c.state.log i cached) (hinj : Function.Injective env.sha256)
include hlawful hbound hreplays hinj

omit [DecidableEq ι] in
/-- Status and body are always those of the handler. -/
theorem atMostOnce_body : AtMostOnce settlement (fun _ _ => True) calls c := by
  have hiff : AtMostOnce settlement (fun _ _ => True) calls c ↔
      ∀ i r, RepliesWith calls c i r → True := by
    apply delivers_iff hbound ?_ hreplays hinj
    intro r cached hcached
    obtain ⟨delivered, hdelivered, hstatus, hbody, -⟩ := deliverCached_stored hlawful r hcached
    exact ⟨delivered, hdelivered, fun _ => trivial, fun _ => ⟨hstatus, hbody, trivial⟩⟩
  exact hiff.mpr fun _ _ _ => trivial

omit [DecidableEq ι] in
theorem atMostOnce_eq_iff :
    AtMostOnce settlement Eq calls c ↔ ∀ i r, RepliesWith calls c i r → InStoredOrder r := by
  apply delivers_iff hbound ?_ hreplays hinj
  intro r cached hcached
  obtain ⟨delivered, hdelivered, -, -, heq, -⟩ := deliverCached_stored hlawful r hcached
  exact ⟨delivered, hdelivered, heq⟩

omit [DecidableEq ι] in
theorem atMostOnce_perm_iff : AtMostOnce settlement List.Perm calls c ↔
    ∀ i r, RepliesWith calls c i r → Unrepeated r ∧ Typed r := by
  apply delivers_iff hbound ?_ hreplays hinj
  intro r cached hcached
  obtain ⟨delivered, hdelivered, -, -, -, hperm⟩ := deliverCached_stored hlawful r hcached
  exact ⟨delivered, hdelivered, hperm⟩

end Runs

/-! ## Section 3: A request that is sent again -/

theorem execStore_onDatabase (handlers : Handlers) (db : Redis.Db) (o : Op) :
    execStore db o (onDatabase handlers db o).1 = some (onDatabase handlers db o).2 := by
  cases o with
  | get key => exact if_pos rfl
  | set key value ex nx => exact if_pos rfl
  | endpoint => rfl
  | tool => rfl

/-- A run in which a request is served and then sent again. -/
theorem exists_replay (store : RedisResourceResponseStore) (r : HandlerResponse) (db : Redis.Db)
    {call : PaidCall env} {identifier : String} {request : Request} {route : RouteConfig}
    (hinvocation : call.invocation = .http request route) (hverified : call.failure = none)
    (hidentified : call.paid.Identified env identifier) (hstatus : r.status < 400)
    (hfree : db (call.paid.keyOf env identifier) = none) :
    ∃ c, Run (paidSystem store fun _ : Bool => call) anyStep (Config.init db) c ∧
      RepliesWith (fun _ => call) c true r := by
  obtain ⟨system, hsystem⟩ : ∃ system, system = paidSystem store fun _ : Bool => call := ⟨_, rfl⟩
  have hexec : ∀ s o, system.world.exec s o (onDatabase (returning r) s o).1 =
      some (onDatabase (returning r) s o).2 := by
    rw [hsystem]
    exact execStore_onDatabase (returning r)
  have hprog : ∀ i, system.prog i = httpCall env store none request.method call.paid := by
    intro i
    rw [hsystem]
    show call.run store = _
    unfold PaidCall.run
    rw [hinvocation, hverified]
  have hmethod : env.unicode.upperStr request.method ∉ safeMethods := by
    have heffects := call.unsafe_
    rw [hinvocation] at heffects
    exact heffects.1
  have hinit : Run system (AnsweredBy (onDatabase (returning r))) (Config.init db)
      (Config.init db) := .refl
  -- The first call finds the key free, runs the handler and stores its response.
  obtain ⟨c₁, hrun₁, hshared₁, -, hothers₁⟩ := hinit.start_runOn hexec (i := false) rfl (by
    rw [hprog]
    exact afterVerifyHttp_first hidentified hmethod hfree hstatus)
  -- The second call reads the record.
  obtain ⟨c₂, hrun₂, -, houtcome₂, -⟩ := hrun₁.start_runOn hexec (i := true)
    (hothers₁ true (by decide)) (by
      rw [hprog, hshared₁]
      exact httpCall_again hidentified (fun _ h => by cases h) (Function.update_self ..))
  rw [hsystem] at hrun₂
  have hplain := hrun₂.mono fun _ _ _ => trivial
  have hkeys : ∀ (i : Bool) key, ((fun _ : Bool => call) i).key = some key → db key = none := by
    intro i key hkey
    have hid : identifierOf env call.paid.payload = .ok (some identifier) := by
      unfold identifierOf
      rw [hidentified.extracted]
    rw [show call.key = _ from key_of_identifier hid] at hkey
    rw [← Option.some.inj hkey]
    exact hfree
  obtain ⟨-, hreplays⟩ := bound_of_run hkeys hplain
  obtain ⟨j, key, response, hfrom⟩ := hreplays true _ houtcome₂
  -- The handler that ran gave `r`, by the answers that were chosen.
  have hanswers := hrun₂.every_entry (P := fun e _ => ∀ db, e.op.isHandler = true →
    e.ans = (onDatabase (returning r) db e.op).1) (by
      rintro s ⟨⟨o, a⟩, i⟩ ha db hop
      have ha' : a = (onDatabase (returning r) s.shared o).1 := ha
      rw [ha']
      cases o with
      | get key => cases hop
      | set key value ex nx => cases hop
      | endpoint => rfl
      | tool => rfl)
  have hproduced := hfrom.produced
  cases hproduced with
  | response r' hran =>
    obtain ⟨_, _, _, hanswer⟩ := hanswers.of_mem hran
    have hr : r' = r := Except.ok.inj (hanswer db rfl)
    subst hr
    exact ⟨c₂, hplain, _, j, key, houtcome₂, hfrom.hasKey, hfrom.acquired, hran⟩
  | result t hran =>
    obtain ⟨_, _, _, hanswer⟩ := hanswers.of_mem hran
    cases Except.ok.inj (hanswer db rfl)

/-! ### An order with two cookies -/

namespace Sample

open Facilitator.Sample

/-- The text of the order's invocation. -/
def invocationText : String :=
  "\x7b\"bodySha256\":\"e3b0c44298fc1c149afbf4c8996fb92427ae41e4649b934ca495991b7852b855\"," ++
    "\"method\":\"POST\",\"url\":\"https://shop.example/order\"\x7d"

/-- The serialized order. -/
def orderText : String :=
  "\x7b\"accepted\":\x7b\"amount\":\"1000\",\"asset\":\"XRP\",\"extra\":" ++
    "\x7b\"areFeesSponsored\":false\x7d,\"maxTimeoutSeconds\":60,\"network\":\"xrpl:1\"," ++
    "\"payTo\":\"rMerchant\",\"scheme\":\"exact\"\x7d,\"extensions\":" ++
    "\x7b\"payment-identifier\":\x7b\"info\":\x7b\"id\":\"order-0000000000001\"," ++
    "\"required\":true\x7d\x7d\x7d,\"method\":null," ++
    "\"payload\":\x7b\"signedTxBlob\":\"12000022\"\x7d,\"resource\":" ++
    "\x7b\"description\":\"\",\"mimeType\":\"\",\"url\":\"https://shop.example/order\"\x7d," ++
    "\"resourceIdentity\":\"http:POST:fda435f472e0f800e4f4fac620c4965a8b7bd9c4eb12304129714d9aee976641\"\x7d"

/-- SHA-256 digests of the empty body and of the two texts. -/
def orderDigests : List (String × List UInt8) :=
  [("",
      [227, 176, 196, 66, 152, 252, 28, 20, 154, 251, 244, 200, 153, 111, 185, 36, 39, 174, 65,
        228, 100, 155, 147, 76, 164, 149, 153, 27, 120, 82, 184, 85]),
    (invocationText,
      [253, 164, 53, 244, 114, 224, 248, 0, 228, 244, 250, 198, 32, 196, 150, 90, 139, 123, 217,
        196, 235, 18, 48, 65, 41, 113, 77, 154, 238, 151, 102, 65]),
    (orderText,
      [137, 195, 92, 204, 239, 194, 126, 221, 247, 190, 220, 233, 174, 103, 135, 23, 167, 134,
        103, 149, 244, 107, 14, 87, 248, 200, 187, 78, 76, 236, 228, 137]),
    ("xrpl:1|rMerchant|order-0000000000001",
      [151, 45, 217, 15, 20, 2, 247, 172, 251, 168, 243, 243, 74, 202, 36, 205, 32, 178, 133,
        155, 65, 207, 177, 39, 153, 133, 183, 239, 116, 17, 78, 77])]

def orderEnv : Env := { sampleEnv with sha256 := tableHash orderDigests }

theorem orderEnv_injective : Function.Injective orderEnv.sha256 :=
  tableHash_injective (by decide) (by decide +kernel)

def orderRequest : Request := ⟨"POST", "https://shop.example/order", []⟩

/-- A verified order. -/
def order : PaidCall orderEnv where
  payload := identifiedPayload
  requirements := requirements
  invocation := .http orderRequest ⟨none, none, none, none, none, none⟩
  unsafe_ := by
    constructor
    · decide +kernel
    · decide +kernel
  failure := none

theorem order_identified : order.paid.Identified orderEnv "order-0000000000001" where
  extracted := rfl
  declared := rfl
  authoritative := fun h => by cases h
  recovers := requiresResponseRecovery_http _ _ order.unsafe_

end Sample

/-- Names in the order of the store are not repeated. -/
theorem unrepeated_of_inStoredOrder {r : HandlerResponse} (h : InStoredOrder r) : Unrepeated r := by
  obtain ⟨front, type, hheaders, hfront, hnotMem⟩ := h
  unfold Unrepeated
  rw [hheaders]
  exact nodup_append_type type hfront hnotMem

/-- The second of two cookies is missing when the order is sent again. -/
theorem retried_order_loses_cookie :
    ∃ c, Run (paidSystem Sample.responseStore fun _ : Bool => Sample.order) anyStep
        (Config.init Sample.emptyDb) c ∧
      RepliesWith (fun _ => Sample.order) c true Sample.cookies ∧
      ¬ AtMostOnce Sample.settlement Eq (fun _ => Sample.order) c ∧
      ¬ AtMostOnce Sample.settlement List.Perm (fun _ => Sample.order) c := by
  obtain ⟨c, hrun, hreplies⟩ := exists_replay Sample.responseStore Sample.cookies
    Sample.emptyDb rfl rfl Sample.order_identified (by decide) rfl
  obtain ⟨hbound, hreplays⟩ := bound_of_run (fun _ _ _ => rfl) hrun
  have hrepeated : ¬ Unrepeated Sample.cookies := by
    show ¬ ((comparable Sample.cookies.headers).map Prod.fst).Nodup
    decide +kernel
  -- The cookies share a name, and neither comparison is indifferent to that.
  refine ⟨c, hrun, hreplies, fun h => ?_, fun h => ?_⟩
  · have horder := (atMostOnce_eq_iff Sample.settlement_lawful hbound hreplays
      Sample.orderEnv_injective).mp h true Sample.cookies hreplies
    exact hrepeated (unrepeated_of_inStoredOrder horder)
  · have hkept := (atMostOnce_perm_iff Sample.settlement_lawful hbound hreplays
      Sample.orderEnv_injective).mp h true Sample.cookies hreplies
    exact hrepeated hkept.1

/-- However many requests share the store, and in whatever order they take their
    steps, every one of them finishes, a handler starts at most once for each
    key, a request without the binding changes nothing, and a stored response is
    delivered to requests with the same fingerprint only. It is delivered as the
    handler produced it exactly when the store keeps its headers. -/
theorem paid_work_at_most_once {ι : Type} [DecidableEq ι] (env : Env)
    (hinj : Function.Injective env.sha256) (store : RedisResourceResponseStore)
    (calls : ι → PaidCall env) (settlement : Settlement) (hlawful : settlement.Lawful)
    (db : Redis.Db) (hfree : ∀ i key, (calls i).key = some key → db key = none)
    (c : Config ι Op Ret Exc Outcome Redis.Db)
    (h : Run (paidSystem store calls) anyStep (Config.init db) c) :
    (∀ i, Finishes ((calls i).run store)) ∧
    AtMostOnce settlement (fun _ _ => True) calls c ∧
    (AtMostOnce settlement Eq calls c ↔ ∀ i r, RepliesWith calls c i r → InStoredOrder r) ∧
    (AtMostOnce settlement List.Perm calls c ↔
      ∀ i r, RepliesWith calls c i r → Unrepeated r ∧ Typed r) := by
  obtain ⟨hbound, hreplays⟩ := bound_of_run hfree h
  exact ⟨fun i => finishes_run (calls i), atMostOnce_body hlawful hbound hreplays hinj,
    atMostOnce_eq_iff hlawful hbound hreplays hinj, atMostOnce_perm_iff hlawful hbound hreplays hinj⟩

theorem paid_work_at_most_once_plain :
    ∃ c, Run (paidSystem Sample.responseStore fun _ : Bool => Sample.order) anyStep
        (Config.init Sample.emptyDb) c ∧
      RepliesWith (fun _ => Sample.order) c true Sample.plain ∧
      AtMostOnce Sample.settlement Eq (fun _ => Sample.order) c := by
  obtain ⟨c, hrun, hreplies⟩ := exists_replay Sample.responseStore Sample.plain
    Sample.emptyDb rfl rfl Sample.order_identified (by decide) rfl
  obtain ⟨-, -, hequal, -⟩ := paid_work_at_most_once Sample.orderEnv Sample.orderEnv_injective
    Sample.responseStore (fun _ => Sample.order) Sample.settlement Sample.settlement_lawful
    Sample.emptyDb (fun _ _ _ => rfl) c hrun
  refine ⟨c, hrun, hreplies, hequal.mpr fun i r hr => ?_⟩
  rw [replies_unique (bound_of_run (fun _ _ _ => rfl) hrun).1 rfl hr hreplies]
  exact Sample.plain_inStoredOrder

end XrplX402.Middleware
