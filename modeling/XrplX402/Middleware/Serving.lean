import XrplX402.Middleware.Bindings

/-! # Serving paid requests

    Every paid request keeps its promises, whatever the others do, and ends in
    one of a few ways: it is refused, its handler has run, or it has found the
    response of a request with the same fingerprint.

    * **`Replays`**: what a request may read from the store.
    * **`Ends`**: how a request ends. -/

namespace XrplX402.Middleware

open Py Interaction Prog

variable {env : Env} {ι : Type}

/-! ## Section 1: What a request reads -/

/-- A stored response under the key of request `i`, and the request that has
    produced it. -/
structure ReplaysFrom (calls : ι → PaidCall env) (log : Log ι) (i j : ι) (key : String)
    (response cached : StoredResourceResponse) : Prop where
  hasKey : (calls i).key = some key
  acquired : Acquired log j key
  fingerprint : (calls i).fingerprint = (calls j).fingerprint
  produced : Produced env log j response
  sorted : cached = response.sorted

def Replays (calls : ι → PaidCall env) (log : Log ι) (i : ι) (cached : StoredResourceResponse) : Prop :=
  ∃ j key response, ReplaysFrom calls log i j key response cached

theorem Replays.mono {calls : ι → PaidCall env} {log log' : Log ι} {i : ι}
    {cached : StoredResourceResponse} (h : Replays calls log i cached) (hsub : log ⊆ log') :
    Replays calls log' i cached := by
  obtain ⟨j, key, response, hfrom⟩ := h
  exact ⟨j, key, response, hfrom.hasKey, hfrom.acquired.mono hsub, hfrom.fingerprint,
    hfrom.produced.mono hsub, hfrom.sorted⟩

/-- What stands under the key of a request is refused, or has no response yet, or
    the response of a request with the same fingerprint. -/
theorem Bound.read {calls : ι → PaidCall env} {s : State ι Op Ret Redis.Db} {i : ι} {key raw : String}
    (h : Bound calls s) (hkey : (calls i).key = some key)
    (hraw : RedisResourceResponseStore.nonempty (Redis.get key s.shared) = some raw) :
    ∀ cached, readRecord env (calls i).fingerprint raw = .ok (some cached) →
      Replays calls s.log i cached := by
  intro cached hcached
  -- Where a record stands somebody has acquired the key.
  have howned : ∃ j, Acquired s.log j key := by
    by_contra hnone
    have hfree := h.free hkey fun j hj => hnone ⟨j, hj⟩
    rw [Redis.get, hfree] at hraw
    cases hraw
  obtain ⟨j, hj⟩ := howned
  obtain ⟨text, expiry, hstored, hrecord⟩ := h.record hj
  rw [Redis.get_of_entry hstored] at hraw
  -- A record of another fingerprint raises a conflict, so what is found is the caller's own.
  by_cases hsame : (calls i).fingerprint = (calls j).fingerprint
  -- A record that is only bound holds no response.
  · cases hrecord with
    | bound =>
      rw [nonempty_dumps] at hraw
      obtain rfl := Option.some.inj hraw
      rw [hsame, readRecord_bound] at hcached
      cases hcached
    | stored response hproduced =>
      rw [nonempty_dumps] at hraw
      obtain rfl := Option.some.inj hraw
      rw [hsame, readRecord_stored hproduced.proper] at hcached
      exact ⟨j, key, response, hkey, hj, hsame, hproduced,
        (Option.some.inj (Except.ok.inj hcached)).symm⟩
  · have hrefused : ∀ d : Dict, (Json.obj d).proper = true →
        Dict.get d "fingerprint" = .str (calls j).fingerprint →
        readRecord env (calls i).fingerprint (dumps (.obj d)) ≠ .ok (some cached) := by
      intro d hproper hfingerprint heq
      rw [readRecord_other hproper hfingerprint (Ne.symm hsame)] at heq
      cases heq
    cases hrecord with
    | bound =>
      rw [nonempty_dumps] at hraw
      obtain rfl := Option.some.inj hraw
      exact absurd hcached (hrefused _ proper_boundRecord rfl)
    | stored response hproduced =>
      rw [nonempty_dumps] at hraw
      obtain rfl := Option.some.inj hraw
      exact absurd hcached (hrefused _ (proper_storedRecord hproduced.proper) rfl)

theorem key_of_identifier {c : PaidCall env} {identifier : String}
    (hid : identifierOf env c.paid.payload = .ok (some identifier)) :
    c.key = some (RedisResourceResponseStore.key env identifier c.paid.requirements) := by
  unfold PaidCall.key
  rw [show identifierOf env c.payload = .ok (some identifier) from hid]
  rfl

/-! ## Section 2: The contract -/

section Holds

variable [DecidableEq ι] {store : RedisResourceResponseStore} {calls : ι → PaidCall env} {i : ι}
variable {allowed : State ι Op Ret Redis.Db → Entry ι Op Ret → Prop} {s : State ι Op Ret Redis.Db}

def bindingContract (store : RedisResourceResponseStore) (calls : ι → PaidCall env)
    (allowed : State ι Op Ret Redis.Db → Entry ι Op Ret → Prop) :
    Contract ι (paidSystem store calls).world allowed where
  inv := Bound calls
  pre i s o := Promise (calls i) i s.log o
  step h hp hx _ := h.step hp hx

/-- The request has not started its handler. -/
def NotStarted (i : ι) (s : State ι Op Ret Redis.Db) : Prop :=
  ∀ e ∈ Interaction.own i s.log, e.op.isHandler = false

/-- The request has written a response to the store. -/
def Written (log : Log ι) (i : ι) : Prop :=
  ∃ key value ex, ⟨⟨.set key value ex false, .ok true⟩, i⟩ ∈ log

/-- The HTTP handler has run, and its response is stored unless it is an error. -/
def HandlerServed (log : Log ι) (i : ι) : Prop :=
  ∃ r, ⟨⟨.endpoint, .ok r⟩, i⟩ ∈ log ∧ (r.status < 400 → Written log i)

/-- A request that runs its handler has acquired the binding of its key, and one
    that replays a response may read it. -/
def Ends (calls : ι → PaidCall env) (i : ι) (s : State ι Op Ret Redis.Db) :
    Except Exc Outcome → Prop
  | .ok (.replayed cached) => Replays calls s.log i cached
  | .ok (.responded _) => (∃ key, Acquired s.log i key) ∧ HandlerServed s.log i
  | .ok (.returned _) => (∃ key, Acquired s.log i key) ∧ Written s.log i
  | _ => True

/-- One command, and what is known after it. -/
theorem holds_command {α : Type} {o : Op} {k : Ret o → Service α}
    {Q : State ι Op Ret Redis.Db → Except Exc α → Prop}
    (hpromise : ∀ s' : State ι Op Ret Redis.Db, Bound calls s' → s.log ⊆ s'.log → Interaction.own i s'.log = Interaction.own i s.log →
      Promise (calls i) i s'.log o)
    (h : ∀ (s' : State ι Op Ret Redis.Db) r db, Bound calls s' → s.log ⊆ s'.log →
      Interaction.own i s'.log = Interaction.own i s.log → execStore s'.shared o r = some db →
      (bindingContract store calls allowed).Holds i (k r) Q (s'.push i o r db)) :
    (bindingContract store calls allowed).Holds i (perform o >>= k) Q s := by
  intro s' hrely hinv
  have hsub : s.log ⊆ s'.log := fun e he => hrely.evolve.mem_log he
  refine ⟨hpromise s' hinv hsub hrely.own_eq, fun r db hx _ _ => ?_⟩
  exact h s' r db hinv hsub hrely.own_eq hx

omit [DecidableEq ι] in
theorem log_subset_push (s : State ι Op Ret Redis.Db) (i : ι) (o : Op) (r : Ret o) (db : Redis.Db) :
    s.log ⊆ (s.push i o r db).log := fun _ hmem => List.mem_cons_of_mem _ hmem

theorem NotStarted.push {s' : State ι Op Ret Redis.Db} (h : NotStarted i s)
    (hown : Interaction.own i s'.log = Interaction.own i s.log) {o : Op} {r : Ret o} {db : Redis.Db}
    (hop : o.isHandler = false) : NotStarted i (s'.push i o r db) := by
  intro e he
  rw [State.push_log, own_cons_self, List.mem_append, List.mem_singleton, hown] at he
  rcases he with hbefore | rfl
  · exact h e hbefore
  · exact hop

/-- A computation that performs nothing, in front of the rest. -/
theorem holds_check {α β : Type} {x : Except Exc α} {k : α → Service β}
    {Q : State ι Op Ret Redis.Db → Except Exc β → Prop} (herror : ∀ e, x = .error e → Q s (.error e))
    (hok : ∀ a, x = .ok a → (bindingContract store calls allowed).Holds i (k a) Q s) :
    (bindingContract store calls allowed).Holds i (check x >>= k) Q s := by
  cases x with
  | error e => exact herror e rfl
  | ok a => exact hok a rfl

theorem holds_catchValueError {α : Type} {p : Service α} {f : Exc → α}
    {Q : State ι Op Ret Redis.Db → Except Exc α → Prop}
    (h : (bindingContract store calls allowed).Holds i p Q s)
    (hcaught : ∀ s' e, Q s' (.error e) → Q s' (.ok (f e))) :
    (bindingContract store calls allowed).Holds i (catchValueError p fun e => .ret (f e)) Q s := by
  refine Contract.holds_tryCatch.mpr (h.mono fun s' r hr => ?_)
  cases r with
  | ok a => exact hr
  | error e =>
    show (bindingContract store calls allowed).Holds i (if _ then _ else _) Q s'
    split
    · exact hcaught s' e hr
    · exact hr

/-! ## Section 3: Reads and bindings -/

/-- A read of the store. -/
theorem holds_get (hstarted : NotStarted i s) :
    (bindingContract store calls allowed).Holds i
      (RedisResourceResponseStore.get env (calls i).paid)
      (fun s' r => NotStarted i s' ∧ ∀ cached, r = .ok (some cached) → Replays calls s'.log i cached)
      s := by
  unfold RedisResourceResponseStore.get
  refine holds_check (fun e _ => ⟨hstarted, fun _ h => by cases h⟩) fun identifier hid => ?_
  -- Without an identifier nothing is looked up.
  cases identifier with
  | none => exact ⟨hstarted, fun _ h => by cases h⟩
  | some identifier =>
    have hkey := key_of_identifier hid
    refine holds_command (fun _ _ _ _ => trivial) fun s' r db hinv hsub hown hx => ?_
    obtain ⟨rfl, rfl⟩ := execStore_get.mp hx
    obtain ⟨s₁, hs₁⟩ : ∃ s₁, s₁ = s'.push i (.get (RedisResourceResponseStore.key env identifier
        (calls i).paid.requirements)) (Redis.get (RedisResourceResponseStore.key env identifier
        (calls i).paid.requirements) s'.shared) s'.shared := ⟨_, rfl⟩
    have hstarted' : NotStarted i s₁ := hs₁ ▸ hstarted.push hown rfl
    have hsub' : s'.log ⊆ s₁.log := hs₁ ▸ log_subset_push s' i _ _ _
    rw [← hs₁]
    split
    · exact ⟨hstarted', fun _ h => by cases h⟩
    · next raw hraw =>
      show (bindingContract store calls allowed).Holds i (Prog.ofExcept _) _ _
      cases hrecord : readRecord env ((calls i).paid.fingerprint env) raw with
      | error e => exact ⟨hstarted', fun _ h => by cases h⟩
      | ok cached =>
        refine ⟨hstarted', fun response h => ?_⟩
        obtain rfl := Except.ok.inj h
        exact (hinv.read hkey hraw response hrecord).mono hsub'

theorem holds_lookupCached (hstarted : NotStarted i s) :
    (bindingContract store calls allowed).Holds i (lookupCached env (calls i).paid)
      (fun s' r => NotStarted i s' ∧
        ∀ cached, r = .ok (.ok (some cached)) → Replays calls s'.log i cached) s := by
  refine holds_catchValueError ?_ fun s' e hstarted' => ⟨hstarted'.1, fun _ h => by cases h⟩
  refine Contract.holds_bind.mpr ((holds_get hstarted).mono fun s' r hr => ?_)
  cases r with
  | error e => exact ⟨hr.1, fun _ h => by cases h⟩
  | ok found =>
    refine ⟨hr.1, fun cached h => ?_⟩
    obtain rfl := Except.ok.inj (Except.ok.inj h)
    exact hr.2 cached rfl

/-- The attempts to bind a key that belongs to the request. -/
theorem holds_bindAttempts {key : String} {ex : Int} (hkey : (calls i).key = some key) (hex : 0 < ex)
    (attempts : Nat) (hstarted : NotStarted i s) :
    (bindingContract store calls allowed).Holds i
      (RedisResourceResponseStore.bindAttempts key
        (dumps (.obj (boundRecord (calls i).fingerprint))) (calls i).fingerprint ex attempts)
      (fun s' r => NotStarted i s' ∧ (r = .ok true → ∃ key, Acquired s'.log i key)) s := by
  -- By induction on the number of attempts that are left.
  induction attempts generalizing s with
  | zero => exact ⟨hstarted, fun h => by cases h⟩
  | succ attempts ih =>
    unfold RedisResourceResponseStore.bindAttempts
    refine holds_command (fun _ _ _ _ => ⟨hex, hkey, rfl⟩) fun s' r db hinv hsub hown hx => ?_
    have hstarted' : NotStarted i (s'.push i (.set key (dumps (.obj (boundRecord
        (calls i).fingerprint))) ex true) r db) := hstarted.push hown rfl
    rcases (execStore_setNx hex).mp hx with ⟨-, rfl, -⟩ | ⟨-, rfl, -⟩
    · exact ⟨hstarted', fun _ => ⟨key, _, _, List.mem_cons_self⟩⟩
    -- The key was taken, so the record is read; if it has gone meanwhile, it is tried again.
    · refine holds_command (fun _ _ _ _ => trivial) fun s₂ raw db₂ hinv₂ hsub₂ hown₂ _ => ?_
      have hstarted₂ : NotStarted i (s₂.push i (.get key) raw db₂) := hstarted'.push hown₂ rfl
      split
      · next text _ =>
        refine holds_check (fun e _ => ⟨hstarted₂, fun h => by cases h⟩) fun record _ => ?_
        refine holds_check (fun e _ => ⟨hstarted₂, fun h => by cases h⟩) fun _ _ => ?_
        exact ⟨hstarted₂, fun h => by cases h⟩
      · exact ih hstarted₂

theorem holds_acquireBinding (hstarted : NotStarted i s) :
    (bindingContract store calls allowed).Holds i (acquireBinding env store (calls i).paid)
      (fun s' r => NotStarted i s' ∧ (r = .ok (.ok true) → ∃ key, Acquired s'.log i key)) s := by
  refine holds_catchValueError ?_ fun s' e h => ⟨h.1, fun h => by cases h⟩
  refine Contract.holds_bind.mpr ?_
  unfold RedisResourceResponseStore.bind
  refine holds_check (fun e _ => ⟨hstarted, fun h => by cases h⟩) fun identifier hid => ?_
  cases identifier with
  | none => exact ⟨hstarted, fun h => by cases h⟩
  | some identifier =>
    have hex := store.ttl_positive (calls i).paid.requirements _ rfl
    refine (holds_bindAttempts (key_of_identifier hid) hex 2 hstarted).mono fun s' r hr => ?_
    cases r with
    | error e => exact ⟨hr.1, fun h => by cases h⟩
    | ok acquired =>
      refine ⟨hr.1, fun h => ?_⟩
      obtain rfl := Except.ok.inj (Except.ok.inj h)
      exact hr.2 rfl

/-- The response of the own handler is written. -/
theorem holds_put {response : StoredResourceResponse} (hacquired : ∃ key, Acquired s.log i key)
    (hproduced : Produced env s.log i response) :
    (bindingContract store calls allowed).Holds i (store.put env (calls i).paid response)
      (fun s' r => (∃ key, Acquired s'.log i key) ∧ s.log ⊆ s'.log ∧ (r = .ok () → Written s'.log i))
      s := by
  obtain ⟨key, hkey⟩ := hacquired
  unfold RedisResourceResponseStore.put
  refine holds_check (fun e _ => ⟨⟨key, hkey⟩, List.Subset.refl _, fun h => by cases h⟩)
    fun identifier hid => ?_
  cases identifier with
  | none => exact ⟨⟨key, hkey⟩, List.Subset.refl _, fun h => by cases h⟩
  | some identifier =>
    have hex := store.ttl_positive (calls i).paid.requirements _ rfl
    refine holds_command (fun _ _ _ _ => trivial) fun s₁ raw db₁ _ hsub₁ _ _ => ?_
    have hsub₁' := List.Subset.trans hsub₁ (log_subset_push s₁ i (.get _) raw db₁)
    have hkey₁ := hkey.mono hsub₁'
    have hproduced₁ := hproduced.mono hsub₁'
    refine holds_check (fun e _ => ⟨⟨key, hkey₁⟩, hsub₁', fun h => by cases h⟩) fun _ _ => ?_
    -- The key is still the caller's when it writes.
    refine holds_command (fun s₂ hinv₂ hsub₂ _ => ?_) fun s₂ r db₂ _ hsub₂ _ hx => ?_
    · have hkey₂ := hkey₁.mono hsub₂
      have hown := hinv₂.own hkey₂
      rw [key_of_identifier hid] at hown
      obtain rfl := Option.some.inj hown
      exact ⟨hex, hkey₂, response, hproduced₁.mono hsub₂, rfl⟩
    · have hsub₂' := List.Subset.trans hsub₂ (log_subset_push s₂ i (.set ..) r db₂)
      obtain ⟨rfl, -⟩ := (execStore_set hex).mp hx
      exact ⟨⟨key, hkey₁.mono hsub₂'⟩, List.Subset.trans hsub₁' hsub₂',
        fun _ => ⟨_, _, _, List.mem_cons_self⟩⟩

/-! ## Section 4: Handlers -/

/-- The request starts its handler, which has not run before. -/
theorem holds_handler {α : Type} {o : Op} {k : Ret o → Service α}
    {Q : State ι Op Ret Redis.Db → Except Exc α → Prop} (hop : (calls i).invocation.handler = o)
    (hacquired : ∃ key, Acquired s.log i key) (hstarted : NotStarted i s)
    (h : ∀ s' r, (∃ key, Acquired s'.log i key) → ⟨⟨o, r⟩, i⟩ ∈ s'.log →
      (bindingContract store calls allowed).Holds i (k r) Q s') :
    (bindingContract store calls allowed).Holds i (perform o >>= k) Q s := by
  obtain ⟨key, hkey⟩ := hacquired
  refine holds_command (fun s' _ hsub hown => ?_) fun s' r db _ hsub _ _ => ?_
  · have hfirst : ∀ e ∈ Interaction.own i s'.log, e.op.isHandler = false := by
      rw [hown]
      exact hstarted
    subst hop
    cases hinvocation : (calls i).invocation with
    | http request route => exact ⟨by rw [hinvocation]; rfl, ⟨key, hkey.mono hsub⟩, hfirst⟩
    | tool name configured kwargs => exact ⟨by rw [hinvocation]; rfl, ⟨key, hkey.mono hsub⟩, hfirst⟩
  · have hkey' := hkey.mono (List.Subset.trans hsub (log_subset_push s' i o r db))
    exact h _ r ⟨key, hkey'⟩ List.mem_cons_self

theorem holds_bufferedCallNext {method : String} (hmethod : env.unicode.upperStr method ∉ safeMethods)
    (hop : (calls i).invocation.handler = .endpoint)
    (hacquired : ∃ key, Acquired s.log i key) (hstarted : NotStarted i s) :
    (bindingContract store calls allowed).Holds i
      (bufferedCallNext env (some store) method (calls i).paid)
      (fun s' r => ∀ response, r = .ok response →
        (∃ key, Acquired s'.log i key) ∧ HandlerServed s'.log i) s := by
  refine holds_handler hop hacquired hstarted fun s' r hacquired' hran => ?_
  refine holds_check (fun e _ _ h => by cases h) fun response hresponse => ?_
  rw [hresponse] at hran
  split
  -- A failed answer is delivered and not stored.
  · next herror =>
    intro _ _
    exact ⟨hacquired', response, hran, fun hok => absurd herror (by omega)⟩
  · refine holds_check (fun e _ _ h => by cases h) fun rebuilt hrebuilt => ?_
    rw [rebuild_callNext] at hrebuilt
    obtain rfl := Except.ok.inj hrebuilt
    refine Contract.holds_bind.mpr ?_
    unfold keepResponse
    dsimp only
    -- The method is unsafe, so the response is stored before it is delivered.
    rw [if_neg hmethod]
    split
    · intro _ h
      cases h
    · refine (holds_put hacquired' (.response response hran)).mono fun s'' r h => ?_
      obtain ⟨hacquired'', hsub, hwritten⟩ := h
      cases r with
      | error e =>
        intro _ h
        cases h
      | ok _ =>
        intro _ _
        exact ⟨hacquired'', response, hsub hran, fun _ => hwritten rfl⟩

theorem holds_runTool (hop : (calls i).invocation.handler = .tool)
    (hacquired : ∃ key, Acquired s.log i key) (hstarted : NotStarted i s) :
    (bindingContract store calls allowed).Holds i (runTool env store (calls i).paid)
      (fun s' r => ∀ result, r = .ok result → (∃ key, Acquired s'.log i key) ∧ Written s'.log i)
      s := by
  refine holds_handler hop hacquired hstarted fun s' r hacquired' hran => ?_
  refine holds_check (fun e _ _ h => by cases h) fun found hfound => ?_
  cases found with
  | none =>
    intro _ h
    cases h
  | some result =>
    rw [hfound] at hran
    -- The result is stored before it is returned.
    refine Contract.holds_bind.mpr ((holds_put hacquired' (.result result hran)).mono fun s'' r h => ?_)
    obtain ⟨hacquired'', -, hwritten⟩ := h
    cases r with
    | error e =>
      intro _ h
      cases h
    | ok _ =>
      intro _ _
      exact ⟨hacquired'', hwritten rfl⟩

/-! ## Section 5: Requests -/

omit [DecidableEq ι] in
/-- The method in the identity of an HTTP request says whether it needs the
    store. -/
theorem requiresResponseRecovery_method (request : Request) (route : RouteConfig)
    (hcolon : ':' ∉ (request.upperMethod env).toList) :
    requiresResponseRecovery ((Invocation.http request route).authoritative env) =
      .ok (decide (request.upperMethod env ∉ safeMethods)) := by
  obtain ⟨digest, hdigest⟩ : ∃ digest, httpIdentity env request =
      "http:" ++ request.upperMethod env ++ ":" ++ digest := ⟨_, rfl⟩
  have hprefix : (httpIdentity env request).startsWith "http:" = true := by
    rw [hdigest, String.startsWith_string_iff]
    simp [String.toList_append]
  have hrest : (partition ':' (httpIdentity env request)).2.2 =
      request.upperMethod env ++ ":" ++ digest := by
    rw [hdigest, String.append_assoc, String.append_assoc]
    show (partition ':' ("http" ++ ":" ++ _)).2.2 = _
    rw [show (":" : String) = String.singleton ':' from rfl, partition_append (by decide)]
    exact (String.append_assoc ..).symm
  show (if (httpIdentity env request).startsWith "http:" then _ else _) = _
  rw [if_pos hprefix, hrest, show (":" : String) = String.singleton ':' from rfl, partition_append hcolon]

omit [DecidableEq ι] in
/-- An unsafe HTTP request needs the store. -/
theorem requiresResponseRecovery_http (request : Request) (route : RouteConfig)
    (h : (Invocation.http request route).Unsafe env) :
    requiresResponseRecovery ((Invocation.http request route).authoritative env) = .ok true := by
  rw [requiresResponseRecovery_method request route h.2, decide_eq_true h.1]

/-- What is known after the hook before a handler. -/
def Decided (calls : ι → PaidCall env) (i : ι) (s : State ι Op Ret Redis.Db) :
    Except Exc AfterVerify → Prop
  | .ok .proceed => NotStarted i s ∧ ∃ key, Acquired s.log i key
  | .ok (.skip cached) => Replays calls s.log i cached
  | _ => True

theorem holds_recoverHandler (heffects : requiresResponseRecovery (calls i).paid.authoritative = .ok true)
    (hstarted : NotStarted i s) :
    (bindingContract store calls allowed).Holds i (recoverHandler env store (calls i).paid)
      (Decided calls i) s := by
  unfold recoverHandler
  refine holds_check (fun e _ => trivial) fun required hrequired => ?_
  rw [heffects] at hrequired
  obtain rfl := Except.ok.inj hrequired
  rw [if_pos rfl]
  -- Recovery looks for a response first, and only without one acquires the binding.
  refine Contract.holds_bind.mpr ((holds_lookupCached hstarted).mono fun s₁ r₁ h₁ => ?_)
  obtain ⟨hstarted₁, hcached⟩ := h₁
  match r₁ with
  | .error e => trivial
  | .ok (.error message) => trivial
  | .ok (.ok (some cached)) => exact hcached cached rfl
  | .ok (.ok none) =>
    refine Contract.holds_bind.mpr ((holds_acquireBinding hstarted₁).mono fun s₂ r₂ h₂ => ?_)
    obtain ⟨hstarted₂, hacquired⟩ := h₂
    match r₂ with
    | .error e => trivial
    | .ok (.error message) => trivial
    | .ok (.ok false) => trivial
    | .ok (.ok true) => exact ⟨hstarted₂, hacquired rfl⟩

theorem holds_afterVerifyHttp {method : String} (hmethod : env.unicode.upperStr method ∉ safeMethods)
    (hop : (calls i).invocation.handler = .endpoint)
    (heffects : requiresResponseRecovery (calls i).paid.authoritative = .ok true)
    (hstarted : NotStarted i s) :
    (bindingContract store calls allowed).Holds i (afterVerifyHttp env store method (calls i).paid)
      (Ends calls i) s := by
  unfold afterVerifyHttp
  split
  · trivial
  · refine Contract.holds_bind.mpr ((holds_recoverHandler heffects hstarted).mono fun s₁ r₁ h₁ => ?_)
    cases r₁ with
    | error e => trivial
    | ok decision =>
      cases decision with
      | conflict message => trivial
      | abort reason => trivial
      | skip cached => exact h₁
      | proceed =>
        refine Contract.holds_bind.mpr
          ((holds_bufferedCallNext hmethod hop h₁.2 h₁.1).mono fun s₂ r₂ h₂ => ?_)
        cases r₂ with
        | error e => trivial
        | ok response => exact h₂ response rfl

theorem holds_httpCall {failure : Option String} {method : String}
    (hmethod : env.unicode.upperStr method ∉ safeMethods)
    (hop : (calls i).invocation.handler = .endpoint)
    (heffects : requiresResponseRecovery (calls i).paid.authoritative = .ok true)
    (hstarted : NotStarted i s) :
    (bindingContract store calls allowed).Holds i (httpCall env store failure method (calls i).paid)
      (Ends calls i) s := by
  unfold httpCall
  split
  · exact holds_afterVerifyHttp hmethod hop heffects hstarted
  · next reason =>
    -- The look after a refusal starts no handler.
    have hrecovery : (bindingContract store calls allowed).Holds i
        (recoverCachedAuthorization env (calls i).paid reason) (fun s' _ => NotStarted i s') s := by
      unfold recoverCachedAuthorization
      split
      · refine holds_check (fun e _ => hstarted) fun required _ => ?_
        split
        · refine Contract.holds_bind.mpr ((holds_lookupCached hstarted).mono fun s₁ r₁ h₁ => ?_)
          match r₁ with
          | .error e => exact h₁.1
          | .ok (.error message) => exact h₁.1
          | .ok (.ok none) => exact h₁.1
          | .ok (.ok (some cached)) => exact h₁.1
        · exact hstarted
      · exact hstarted
    refine Contract.holds_bind.mpr (hrecovery.mono fun s₁ r₁ hstarted₁ => ?_)
    cases r₁ with
    | error e => trivial
    | ok recovery =>
      cases recovery with
      | recovered => exact holds_afterVerifyHttp hmethod hop heffects hstarted₁
      | conflict message => trivial
      | failed => trivial

/-- What is known after the hook before a tool. -/
def Loaded (calls : ι → PaidCall env) (i : ι) (s : State ι Op Ret Redis.Db) :
    Except Exc (Option (Option StoredResourceResponse)) → Prop
  | .ok (some none) => NotStarted i s ∧ ∃ key, Acquired s.log i key
  | .ok (some (some cached)) => Replays calls s.log i cached
  | _ => True

theorem holds_loadCachedResponse (hstarted : NotStarted i s) :
    (bindingContract store calls allowed).Holds i (loadCachedResponse env store (calls i).paid)
      (Loaded calls i) s := by
  unfold loadCachedResponse
  split
  · trivial
  · refine Contract.holds_bind.mpr ((holds_lookupCached hstarted).mono fun s₁ r₁ h₁ => ?_)
    obtain ⟨hstarted₁, hcached⟩ := h₁
    match r₁ with
    | .error e => trivial
    | .ok (.error message) => trivial
    | .ok (.ok (some cached)) => exact hcached cached rfl
    | .ok (.ok none) =>
      refine Contract.holds_bind.mpr ((holds_acquireBinding hstarted₁).mono fun s₂ r₂ h₂ => ?_)
      obtain ⟨hstarted₂, hacquired⟩ := h₂
      match r₂ with
      | .error e => trivial
      | .ok (.error message) => trivial
      | .ok (.ok false) => trivial
      | .ok (.ok true) => exact ⟨hstarted₂, hacquired rfl⟩

theorem holds_executeTool (hop : (calls i).invocation.handler = .tool) (hstarted : NotStarted i s) :
    (bindingContract store calls allowed).Holds i (executeTool env store (calls i).paid)
      (Ends calls i) s := by
  refine Contract.holds_bind.mpr ((holds_loadCachedResponse hstarted).mono fun s₁ r₁ h₁ => ?_)
  match r₁ with
  | .error e => trivial
  | .ok none => trivial
  | .ok (some (some cached)) => exact h₁
  | .ok (some none) =>
    refine Contract.holds_bind.mpr ((holds_runTool hop h₁.2 h₁.1).mono fun s₂ r₂ h₂ => ?_)
    cases r₂ with
    | error e => trivial
    | ok result => exact h₂ result rfl

theorem holds_toolCall {failure : Option String} (hop : (calls i).invocation.handler = .tool)
    (hstarted : NotStarted i s) :
    (bindingContract store calls allowed).Holds i (toolCall env store failure (calls i).paid)
      (Ends calls i) s := by
  unfold toolCall
  split
  · exact holds_executeTool hop hstarted
  · split
    · refine Contract.holds_bind.mpr ((holds_lookupCached hstarted).mono fun s₁ r₁ h₁ => ?_)
      match r₁ with
      | .error e => trivial
      | .ok (.error message) => trivial
      | .ok (.ok none) => trivial
      | .ok (.ok (some cached)) => exact holds_executeTool hop h₁.1
    · trivial

/-- Every request keeps its promises. -/
theorem holds_run (hown : Interaction.own i s.log = []) :
    (bindingContract store calls allowed).Holds i ((calls i).run store) (Ends calls i) s := by
  have hstarted : NotStarted i s := by
    intro e he
    rw [hown] at he
    cases he
  have hpaid : (calls i).paid.authoritative = (calls i).invocation.authoritative env := rfl
  have heffects := (calls i).unsafe_
  unfold PaidCall.run
  cases hinvocation : (calls i).invocation with
  | http request route =>
    rw [hinvocation] at hpaid heffects
    have hop : (calls i).invocation.handler = .endpoint := by rw [hinvocation]; rfl
    exact holds_httpCall heffects.1 hop (hpaid ▸ requiresResponseRecovery_http request route heffects) hstarted
  | tool name configured kwargs =>
    have hop : (calls i).invocation.handler = .tool := by rw [hinvocation]; rfl
    exact holds_toolCall hop hstarted

end Holds

/-! ## Section 6: Runs -/

section Runs

variable [DecidableEq ι] {store : RedisResourceResponseStore} {calls : ι → PaidCall env}
variable {db : Redis.Db} {c : Config ι Op Ret Exc Outcome Redis.Db}

omit [DecidableEq ι] in
theorem Bound.handler_unique {s : State ι Op Ret Redis.Db} (h : Bound calls s) {e e' : Entry ι Op Ret}
    (he : e ∈ s.log) (he' : e' ∈ s.log) (hop : e.op.isHandler = true) (hop' : e'.op.isHandler = true)
    (hwho : e.who = e'.who) : e = e' := by
  by_contra hne
  have hsymm : Std.Symm fun e e' : Entry ι Op Ret => (calls e.who).key ≠ (calls e'.who).key :=
    ⟨fun _ _ hkeys => hkeys.symm⟩
  have hkeys := h.once.forall (List.mem_filter.mpr ⟨he, hop⟩) (List.mem_filter.mpr ⟨he', hop'⟩) hne
  exact hkeys (by rw [hwho])

theorem good_of_run (hfree : ∀ i key, (calls i).key = some key → db key = none)
    (h : Run (paidSystem store calls) anyStep (Config.init db) c) :
    (bindingContract store calls anyStep).Good (Ends calls) c :=
  Contract.sound (fun _ _ _ hown => holds_run hown) (bound_init hfree) h

/-- Every run keeps the invariant, and what is replayed may be read. -/
theorem bound_of_run (hfree : ∀ i key, (calls i).key = some key → db key = none)
    (h : Run (paidSystem store calls) anyStep (Config.init db) c) :
    Bound calls c.state ∧ ∀ i cached, c.outcome i = some (.ok (.replayed cached)) →
      Replays calls c.state.log i cached := by
  have hgood := good_of_run hfree h
  refine ⟨hgood.inv, fun i cached houtcome => ?_⟩
  have hthread := Config.outcome_eq_ok.mp houtcome
  obtain ⟨s, -, hrely, hends⟩ := hgood.ended hthread (r := .ok (.replayed cached)) ⟨rfl, rfl⟩
  exact Replays.mono hends fun e he => hrely.evolve.mem_log he

/-- The response of a handler that has succeeded stands in the store. -/
theorem stored_of_run (hfree : ∀ i key, (calls i).key = some key → db key = none)
    (h : Run (paidSystem store calls) anyStep (Config.init db) c) {i : ι} {response : Response}
    (houtcome : c.outcome i = some (.ok (.responded response))) {r : HandlerResponse}
    (hran : ⟨⟨.endpoint, .ok r⟩, i⟩ ∈ c.state.log) (hstatus : r.status < 400) :
    ∃ key expiry, (calls i).key = some key ∧ c.state.shared key =
      some ⟨dumps (.obj (storedRecord (calls i).fingerprint
        (toStoredResponse env r.rebuilt r.chunks.flatten))), expiry⟩ := by
  have hgood := good_of_run hfree h
  have hthread := Config.outcome_eq_ok.mp houtcome
  obtain ⟨s, -, hrely, hends⟩ := hgood.ended hthread (r := .ok (.responded response)) ⟨rfl, rfl⟩
  obtain ⟨-, r', hran', hwritten⟩ := hends
  have hsub : s.log ⊆ c.state.log := fun e he => hrely.evolve.mem_log he
  have hbound : Bound calls c.state := hgood.inv
  have hr : r = r' := by
    -- The handler ran once, so the response that was stored is the one it returned.
    cases hbound.handler_unique hran (hsub hran') rfl rfl rfl
    rfl
  obtain ⟨key, value, ex, hwrite⟩ := hwritten (hr ▸ hstatus)
  -- A written record is kept.
  obtain ⟨stored, expiry, hproduced, hstored⟩ := hbound.kept (hsub hwrite)
  refine ⟨key, expiry, hbound.own (hbound.writes _ (hsub hwrite) key value ex false rfl), ?_⟩
  rw [hstored]
  cases hproduced with
  | response r'' hran'' =>
    cases hbound.handler_unique hran hran'' rfl rfl rfl
    rfl
  | result t hran'' => cases hbound.handler_unique hran hran'' rfl rfl rfl

end Runs

end XrplX402.Middleware
