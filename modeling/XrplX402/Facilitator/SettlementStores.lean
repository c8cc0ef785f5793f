import XrplX402.Core.SettlementState
import XrplX402.Core.WireAssets
import XrplX402.Facilitator.Store
import XrplX402.Interaction.Machine
import XrplX402.Redis

/-! # The two settlement stores

    * `redisStore`: JSON texts under prefixed keys, replaced by a script that
      decodes both texts and compares their ranks.
    * `inMemoryStore`: a dictionary of states.
    * `Mirrors`: what a Redis server holds when a dictionary holds `values`.
      Every call keeps it, so no history tells the stores apart.
    * `highest`: the status that a record has after any updates. -/

namespace XrplX402.Facilitator

open Py Interaction

/-! ## Section 1: The Redis store -/

/-- `cjson.decode(text).status` -/
def decodedStatus (text : String) : Option Json :=
  ((loads text).bind Json.asDict?).map fun d => Dict.get d "status"

/-- `ranks[status]` -/
def ranks (status : Json) : Option Nat := (status.asStr?.bind Status.ofText?).map Status.rank

/-- The script returns 1 after it has written. -/
def written (reply : Except Exc Bool × Redis.Db) : Except Exc Int × Redis.Db :=
  (reply.1.map fun _ => 1, reply.2)

/-- `_MONOTONIC_UPDATE_SCRIPT` with `KEYS[1]`, `ARGV[1]` and `ARGV[2]`. -/
def monotonicUpdateScript (key candidateJson : String) (ttl : Int) (db : Redis.Db) :
    Except Exc Int × Redis.Db :=
  match Redis.get key db with
  | none => (.ok 0, db)
  | some currentJson =>
    match decodedStatus currentJson, decodedStatus candidateJson with
    | some current, some candidate =>
      match ranks current, ranks candidate with
      | some currentRank, some candidateRank =>
        if current = .str "pending" ∧ candidate = .str "pending" then
          written (Redis.set .xx none key candidateJson db)
        else if currentRank < candidateRank then
          written (Redis.set .xx (some ttl) key candidateJson db)
        else if current ≠ .str "pending" then (.ok 0, Redis.expire key ttl db)
        else (.ok 0, db)
      | _, _ => (.error (Redis.responseError "invalid settlement state"), db)
    | _, _ => (.error (Redis.responseError "Error running script"), db)

namespace RedisSettlementStore

def prefixed (name : String) : String := "facilitator:settlement:" ++ name

/-- `_key(transaction)` -/
def key (env : Env) (transaction : String) : String := prefixed (storeKey env transaction)

def get (env : Env) (transaction : String) (db : Redis.Db) :
    Except Exc (Option XRPLSettlementState) :=
  match Redis.get (key env transaction) db with
  | some raw => (XRPLSettlementState.modelValidateJson env raw).map some
  | none => .ok none

def reserve (env : Env) (state : XRPLSettlementState) (ttlSeconds : Int) (db : Redis.Db) :
    Except Exc Bool × Redis.Db :=
  let ex := if state.status = .pending then none else some ttlSeconds
  if env.serializable (.obj state.modelDump) then
    Redis.set .nx ex (key env state.transaction) state.modelDumpJson db
  else (.error serializationError, db)

def update (env : Env) (state : XRPLSettlementState) (ttlSeconds : Int) (db : Redis.Db) :
    Except Exc Unit × Redis.Db :=
  if env.serializable (.obj state.modelDump) then
    let reply := monotonicUpdateScript (key env state.transaction) state.modelDumpJson ttlSeconds db
    (reply.1.map fun _ => (), reply.2)
  else (.error serializationError, db)

end RedisSettlementStore

/-! ## Section 2: The store in memory -/

abbrev Values := String → Option XRPLSettlementState

namespace InMemorySettlementStore

def get (env : Env) (transaction : String) (values : Values) : Option XRPLSettlementState :=
  values (storeKey env transaction)

def reserve (env : Env) (state : XRPLSettlementState) (values : Values) : Bool × Values :=
  let key := storeKey env state.transaction
  match values key with
  | some _ => (false, values)
  | none => (true, Function.update values key (some state))

def update (env : Env) (state : XRPLSettlementState) (values : Values) : Values :=
  let key := storeKey env state.transaction
  match values key with
  | none => values
  | some current =>
    if (current.status = .pending ∧ state.status = .pending) ∨
        current.status.rank < state.status.rank then
      Function.update values key (some state)
    else values

end InMemorySettlementStore

/-! ## Section 3: Histories of calls -/

inductive SettlementCall where
  | get (transaction : String)
  | reserve (state : XRPLSettlementState) (ttlSeconds : Int)
  | update (state : XRPLSettlementState) (ttlSeconds : Int)

inductive SettlementAnswer where
  | record (state : Option XRPLSettlementState)
  | reserved (created : Bool)
  | done
  deriving DecidableEq

/-- A state that the validator has built and JSON can hold, with a positive time
    to live. -/
def SettlementCall.Admissible (env : Env) : SettlementCall → Prop
  | get _ => True
  | reserve state ttlSeconds => state.Storable env ∧ 0 < ttlSeconds
  | update state ttlSeconds => state.Storable env ∧ 0 < ttlSeconds

def redisStore (env : Env) : Machine Redis.Db SettlementCall (Except Exc SettlementAnswer) where
  step db call :=
    match call with
    | .get transaction => ((RedisSettlementStore.get env transaction db).map .record, db)
    | .reserve state ttlSeconds =>
      let reply := RedisSettlementStore.reserve env state ttlSeconds db
      (reply.1.map .reserved, reply.2)
    | .update state ttlSeconds =>
      let reply := RedisSettlementStore.update env state ttlSeconds db
      (reply.1.map fun _ => .done, reply.2)

def inMemoryStore (env : Env) : Machine Values SettlementCall SettlementAnswer where
  step values call :=
    match call with
    | .get transaction => (.record (InMemorySettlementStore.get env transaction values), values)
    | .reserve state _ =>
      let reply := InMemorySettlementStore.reserve env state values
      (.reserved reply.1, reply.2)
    | .update state _ => (.done, InMemorySettlementStore.update env state values)

/-! ## Section 4: What the server holds -/

/-- An expiry that a state of this status has: none while it is pending. -/
def Expires (status : Status) (expiry : Option Nat) : Prop := expiry = none ↔ status = .pending

/-- The records of the server are the texts of `values`. -/
structure Mirrors (env : Env) (db : Redis.Db) (values : Values) : Prop where
  valid : ∀ {key state}, values key = some state → state.Storable env
  absent : ∀ {key}, values key = none → db (RedisSettlementStore.prefixed key) = none
  present : ∀ {key state}, values key = some state → ∃ expiry, Expires state.status expiry ∧
    db (RedisSettlementStore.prefixed key) = some ⟨state.modelDumpJson, expiry⟩

theorem prefixed_inj {a b : String} :
    RedisSettlementStore.prefixed a = RedisSettlementStore.prefixed b ↔ a = b :=
  String.append_right_inj _

section Step

variable {env : Env} {db : Redis.Db} {values : Values} {state current : XRPLSettlementState}

/-- Writing a state on both sides. -/
theorem Mirrors.write (h : Mirrors env db values) {key : String} {expiry : Option Nat}
    (hvalid : state.Storable env) (hexpires : Expires state.status expiry) :
    Mirrors env (Function.update db (RedisSettlementStore.prefixed key) (some ⟨state.modelDumpJson, expiry⟩))
      (Function.update values key (some state)) := by
  -- Another key has another entry.
  have other : ∀ {k}, k ≠ key → Function.update db (RedisSettlementStore.prefixed key)
      (some ⟨state.modelDumpJson, expiry⟩) (RedisSettlementStore.prefixed k) =
        db (RedisSettlementStore.prefixed k) := fun hk =>
    Function.update_of_ne (fun heq => hk (prefixed_inj.mp heq)) _ _
  refine ⟨?_, ?_, ?_⟩
  · intro k s hs
    by_cases hk : k = key
    · subst hk
      rw [Function.update_self] at hs
      exact Option.some.inj hs ▸ hvalid
    · rw [Function.update_of_ne hk] at hs
      exact h.valid hs
  · intro k hs
    by_cases hk : k = key
    · subst hk
      rw [Function.update_self] at hs
      cases hs
    · rw [Function.update_of_ne hk] at hs
      rw [other hk]
      exact h.absent hs
  · intro k s hs
    by_cases hk : k = key
    · subst hk
      rw [Function.update_self] at hs
      obtain rfl := Option.some.inj hs
      exact ⟨expiry, hexpires, Function.update_self ..⟩
    · rw [Function.update_of_ne hk] at hs
      rw [other hk]
      exact h.present hs

/-- Setting another expiry of the same kind. -/
theorem Mirrors.expire (h : Mirrors env db values) {key : String} {expiry : Option Nat}
    (hcurrent : values key = some current) (hexpires : Expires current.status expiry) :
    Mirrors env (Function.update db (RedisSettlementStore.prefixed key)
      (some ⟨current.modelDumpJson, expiry⟩)) values := by
  have hsame : Function.update values key (some current) = values := by
    rw [← hcurrent, Function.update_eq_self]
  have hwrite : Mirrors env (Function.update db (RedisSettlementStore.prefixed key)
      (some ⟨current.modelDumpJson, expiry⟩)) (Function.update values key (some current)) :=
    h.write (h.valid hcurrent) hexpires
  rwa [hsame] at hwrite

theorem decodedStatus_modelDumpJson (h : state.Valid) :
    decodedStatus state.modelDumpJson = some (.str state.status.text) := by
  rw [decodedStatus, loads_modelDumpJson h]
  rfl

theorem ranks_text (status : Status) : ranks (.str status.text) = some status.rank := by
  cases status <;> rfl

theorem text_eq_pending {status : Status} :
    Json.str status.text = .str "pending" ↔ status = .pending := by
  cases status <;> decide

theorem get_of_mirrors (h : Mirrors env db values) (transaction : String) :
    RedisSettlementStore.get env transaction db =
      .ok (InMemorySettlementStore.get env transaction values) := by
  unfold RedisSettlementStore.get InMemorySettlementStore.get RedisSettlementStore.key
  cases hs : values (storeKey env transaction) with
  | none =>
    rw [Redis.get, h.absent hs]
    rfl
  | some state =>
    obtain ⟨expiry, -, hentry⟩ := h.present hs
    rw [Redis.get_of_entry hentry]
    show (XRPLSettlementState.modelValidateJson env state.modelDumpJson).map some = _
    rw [modelValidateJson_modelDumpJson (h.valid hs)]
    rfl

/-- The expiry of a reservation is one that `SET` accepts. -/
theorem positive_reserve (state : XRPLSettlementState) {ttlSeconds : Int} (httl : 0 < ttlSeconds) :
    Redis.Positive (if state.status = .pending then none else some ttlSeconds) := by
  intro seconds hseconds
  split at hseconds
  · cases hseconds
  · exact Option.some.inj hseconds ▸ httl

theorem reserve_of_mirrors (h : Mirrors env db values) (hvalid : state.Storable env) {ttlSeconds : Int}
    (httl : 0 < ttlSeconds) :
    (RedisSettlementStore.reserve env state ttlSeconds db).1 =
        .ok (InMemorySettlementStore.reserve env state values).1 ∧
      Mirrors env (RedisSettlementStore.reserve env state ttlSeconds db).2
        (InMemorySettlementStore.reserve env state values).2 := by
  unfold RedisSettlementStore.reserve InMemorySettlementStore.reserve RedisSettlementStore.key
  dsimp only
  rw [if_pos hvalid.serializable, Redis.set_nx (positive_reserve state httl)]
  cases hs : values (storeKey env state.transaction) with
  | none =>
    rw [h.absent hs]
    refine ⟨rfl, h.write hvalid ?_⟩
    unfold Expires
    by_cases hp : state.status = .pending <;> simp [hp]
  | some current =>
    obtain ⟨expiry, -, hentry⟩ := h.present hs
    rw [hentry]
    exact ⟨rfl, h⟩

theorem update_of_mirrors (h : Mirrors env db values) (hvalid : state.Storable env) {ttlSeconds : Int}
    (httl : 0 < ttlSeconds) :
    (RedisSettlementStore.update env state ttlSeconds db).1 = .ok () ∧
      Mirrors env (RedisSettlementStore.update env state ttlSeconds db).2
        (InMemorySettlementStore.update env state values) := by
  unfold RedisSettlementStore.update InMemorySettlementStore.update RedisSettlementStore.key
    monotonicUpdateScript
  dsimp only
  rw [if_pos hvalid.serializable]
  cases hs : values (storeKey env state.transaction) with
  | none =>
    rw [Redis.get, h.absent hs]
    exact ⟨rfl, h⟩
  | some current =>
    obtain ⟨expiry, hexpires, hentry⟩ := h.present hs
    have hpermits : Redis.Condition.xx.permits
        (db (RedisSettlementStore.prefixed (storeKey env state.transaction))) = true := by
      rw [hentry]
      rfl
    have hpositive : Redis.Positive (some ttlSeconds) := fun _ hs => Option.some.inj hs ▸ httl
    rw [Redis.get_of_entry hentry]
    dsimp only
    rw [decodedStatus_modelDumpJson (h.valid hs).valid, decodedStatus_modelDumpJson hvalid.valid]
    dsimp only
    rw [ranks_text, ranks_text]
    simp only [text_eq_pending, ne_eq]
    by_cases hpending : current.status = .pending ∧ state.status = .pending
    · -- a pending record takes another pending state, still without expiry
      rw [if_pos hpending, if_pos (.inl hpending), Redis.set_permitted (fun _ hs => by cases hs) hpermits]
      refine ⟨rfl, h.write hvalid ?_⟩
      simp [Expires, hpending.2]
    rw [if_neg hpending]
    by_cases hrank : current.status.rank < state.status.rank
    · -- only a terminal state has a higher rank, and it gets the expiry
      rw [if_pos hrank, if_pos (.inr hrank), Redis.set_permitted hpositive hpermits]
      refine ⟨rfl, h.write hvalid ?_⟩
      have hterminal : state.status ≠ .pending := by
        intro hp
        rw [hp] at hrank
        exact Nat.not_lt_zero _ hrank
      simp [Expires, hterminal]
    rw [if_neg hrank, if_neg (not_or.mpr ⟨hpending, hrank⟩)]
    by_cases hcurrent : current.status = .pending
    · rw [if_neg (not_not.mpr hcurrent)]
      exact ⟨rfl, h⟩
    · -- a terminal record stays and lives on
      rw [if_pos hcurrent, Redis.expire_some hentry httl]
      refine ⟨rfl, h.expire hs ?_⟩
      simp [Expires, hcurrent]

end Step

/-- The stores answer alike, call by call. -/
theorem redisStore_simulates (env : Env) :
    Machine.Simulates (redisStore env) (inMemoryStore env) .ok (SettlementCall.Admissible env) (Mirrors env) where
  answer := by
    intro db values call h hcall
    cases call with
    | get transaction =>
      show (RedisSettlementStore.get env transaction db).map _ = _
      rw [get_of_mirrors h]
      rfl
    | reserve state ttlSeconds =>
      show (RedisSettlementStore.reserve env state ttlSeconds db).1.map _ = _
      rw [(reserve_of_mirrors h hcall.1 hcall.2).1]
      rfl
    | update state ttlSeconds =>
      show (RedisSettlementStore.update env state ttlSeconds db).1.map _ = _
      rw [(update_of_mirrors h hcall.1 hcall.2).1]
      rfl
  state := by
    intro db values call h hcall
    cases call with
    | get transaction => exact h
    | reserve state ttlSeconds => exact (reserve_of_mirrors h hcall.1 hcall.2).2
    | update state ttlSeconds => exact (update_of_mirrors h hcall.1 hcall.2).2

/-! ## Section 5: The status after any updates -/

/-- The later of two statuses in the order of their ranks. -/
def laterStatus (a b : Status) : Status := if a.rank < b.rank then b else a

/-- A status of the list that none of them exceeds. -/
def IsHighest (status : Status) (statuses : List Status) : Prop :=
  status ∈ statuses ∧ ∀ other ∈ statuses, other.rank ≤ status.rank

def highest (status : Status) (others : List Status) : Status := others.foldl laterStatus status

theorem isHighest_highest (status : Status) (others : List Status) :
    IsHighest (highest status others) (status :: others) := by
  induction others generalizing status with
  | nil => exact ⟨List.mem_cons_self, by simp [highest]⟩
  | cons other others ih =>
    -- The later of the first two is at least as high as both.
    obtain ⟨hmem, hle⟩ := ih (laterStatus status other)
    have hlater : (laterStatus status other = status ∨ laterStatus status other = other) ∧
        status.rank ≤ (laterStatus status other).rank ∧
        other.rank ≤ (laterStatus status other).rank := by
      unfold laterStatus
      split
      · next h => exact ⟨.inr rfl, h.le, le_refl _⟩
      · next h => exact ⟨.inl rfl, le_refl _, not_lt.mp h⟩
    obtain ⟨hcases, hstatus, hother⟩ := hlater
    have htop := hle _ List.mem_cons_self
    constructor
    · rcases List.mem_cons.mp hmem with heq | hin
      · show highest (laterStatus status other) others ∈ _
        rw [heq]
        rcases hcases with h | h <;> rw [h] <;> simp
      · exact List.mem_cons_of_mem _ (List.mem_cons_of_mem _ hin)
    · intro x hx
      rcases List.mem_cons.mp hx with rfl | hx
      · exact hstatus.trans htop
      rcases List.mem_cons.mp hx with rfl | hx
      · exact hother.trans htop
      · exact hle x (List.mem_cons_of_mem _ hx)

theorem rank_inj {a b : Status} (h : a.rank = b.rank) : a = b := by
  cases a <;> cases b <;> first | rfl | cases h

/-- There is one highest status, whatever the order. -/
theorem IsHighest.unique {a b : Status} {statuses statuses' : List Status}
    (ha : IsHighest a statuses) (hb : IsHighest b statuses') (hperm : statuses.Perm statuses') :
    a = b := by
  have hab : a.rank ≤ b.rank := hb.2 a (hperm.mem_iff.mp ha.1)
  have hba : b.rank ≤ a.rank := ha.2 b (hperm.mem_iff.mpr hb.1)
  exact rank_inj (Nat.le_antisymm hab hba)

/-- A state and the time to live that it is written with. -/
abbrev Update := XRPLSettlementState × Int

def Update.call (u : Update) : SettlementCall := .update u.1 u.2

/-- An admissible update of the record of `transaction`. -/
def Update.Of (env : Env) (transaction : String) (u : Update) : Prop :=
  u.call.Admissible env ∧ storeKey env u.1.transaction = storeKey env transaction

section Updates

variable {env : Env} {values : Values} {current : XRPLSettlementState} {transaction : String}

theorem update_eq_monotonicUpdate {state : XRPLSettlementState}
    (h : values (storeKey env state.transaction) = some current) :
    InMemorySettlementStore.update env state values =
      Function.update values (storeKey env state.transaction) (some (monotonicUpdate current state)) := by
  unfold InMemorySettlementStore.update monotonicUpdate
  simp only [h]
  split
  · rfl
  · rw [← h, Function.update_eq_self]

theorem status_monotonicUpdate (current state : XRPLSettlementState) :
    (monotonicUpdate current state).status = laterStatus current.status state.status := by
  unfold monotonicUpdate laterStatus
  by_cases hrank : current.status.rank < state.status.rank
  · rw [if_pos (.inr hrank), if_pos hrank]
  · rw [if_neg hrank]
    split
    · next h =>
      obtain ⟨hcurrent, hstate⟩ := h.resolve_right hrank
      rw [hcurrent, hstate]
    · rfl

theorem inMemory_updates {updates : List Update} (hupdates : ∀ u ∈ updates, u.Of env transaction)
    (h : values (storeKey env transaction) = some current) :
    ∃ final, (inMemoryStore env).after values (updates.map Update.call) (storeKey env transaction) =
        some final ∧ final.status = highest current.status (updates.map fun u => u.1.status) := by
  induction updates generalizing values current with
  | nil => exact ⟨current, h, rfl⟩
  | cons u updates ih =>
    have hkey := (hupdates u List.mem_cons_self).2
    have hfirst : InMemorySettlementStore.update env u.1 values (storeKey env transaction) =
        some (monotonicUpdate current u.1) := by
      rw [← hkey] at h ⊢
      rw [update_eq_monotonicUpdate h, Function.update_self]
    obtain ⟨final, hfinal, hstatus⟩ := ih (fun v hv => hupdates v (List.mem_cons_of_mem _ hv)) hfirst
    rw [status_monotonicUpdate] at hstatus
    exact ⟨final, hfinal, hstatus⟩

end Updates

/-! ### The store of the settle model -/

/-- The records that settle calls share are answered and changed as in memory. -/
theorem exec_of_inMemory (env : Env) (s : Stores) (transaction : String)
    (state : XRPLSettlementState) (ttl : Int) :
    exec env s (.get transaction) (InMemorySettlementStore.get env transaction s.settlements) =
        some s ∧
      exec env s (.reserve state ttl) (InMemorySettlementStore.reserve env state s.settlements).1 =
        some { s with settlements := (InMemorySettlementStore.reserve env state s.settlements).2 } ∧
      exec env s (.update state ttl) () =
        some { s with settlements := InMemorySettlementStore.update env state s.settlements } := by
  refine ⟨exec_get.mpr ⟨rfl, rfl⟩, ?_, ?_⟩
  · unfold InMemorySettlementStore.reserve
    dsimp only
    cases hs : s.settlements (storeKey env state.transaction) with
    | none => exact exec_reserve_true.mpr ⟨hs, rfl⟩
    | some current => exact exec_reserve_false.mpr ⟨⟨current, hs⟩, rfl⟩
  · cases hs : s.settlements (storeKey env state.transaction) with
    | none =>
      simp only [exec, hs, InMemorySettlementStore.update]
    | some current =>
      rw [update_eq_monotonicUpdate hs]
      simp only [exec, hs]
      rfl

/-! ## Section 6: The stores are interchangeable -/

/-- The server holds no settlement record. -/
def Fresh (db : Redis.Db) : Prop := ∀ name, db (RedisSettlementStore.prefixed name) = none

theorem Fresh.mirrors {env : Env} {db : Redis.Db} (h : Fresh db) : Mirrors env db fun _ => none where
  valid hs := by cases hs
  absent _ := h _
  present hs := by cases hs

/-- No history of calls tells the stores apart, only pending records have no
    expiry, and updates in any order leave the highest status. -/
theorem stores_interchangeable (env : Env) (db : Redis.Db) (calls : List SettlementCall)
    (hdb : Fresh db) (hcalls : ∀ call ∈ calls, call.Admissible env) :
    (redisStore env).answers db calls =
        ((inMemoryStore env).answers (fun _ => none) calls).map .ok ∧
      (∀ name entry,
        (redisStore env).after db calls (RedisSettlementStore.prefixed name) = some entry →
          ∃ state, XRPLSettlementState.modelValidateJson env entry.value = .ok state ∧
            (entry.expiry = none ↔ state.status = .pending)) ∧
      ∀ transaction current updates,
        RedisSettlementStore.get env transaction ((redisStore env).after db calls) =
            .ok (some current) →
          (∀ u ∈ updates, Update.Of env transaction u) →
            ∃ status, IsHighest status (current.status :: updates.map fun u => u.1.status) ∧
              ∀ order : List Update, order.Perm updates → ∃ final,
                RedisSettlementStore.get env transaction ((redisStore env).after
                  ((redisStore env).after db calls) (order.map Update.call)) = .ok (some final) ∧
                final.status = status := by
  obtain ⟨hanswers, hmirrors⟩ := (redisStore_simulates env).run hcalls hdb.mirrors
  refine ⟨hanswers, ?_, ?_⟩
  -- An entry mirrors a record, and its expiry tells whether it is pending.
  · intro name entry hentry
    cases hs : (inMemoryStore env).after (fun _ => none) calls name with
    | none =>
      rw [hmirrors.absent hs] at hentry
      cases hentry
    | some state =>
      obtain ⟨expiry, hexpires, hpresent⟩ := hmirrors.present hs
      rw [hpresent] at hentry
      obtain rfl := Option.some.inj hentry
      exact ⟨state, modelValidateJson_modelDumpJson (hmirrors.valid hs), hexpires⟩
  -- In whatever order the updates come, the highest status remains.
  · intro transaction current updates hget hupdates
    rw [get_of_mirrors hmirrors] at hget
    have hcurrent := Except.ok.inj hget
    refine ⟨highest current.status (updates.map fun u => u.1.status), isHighest_highest _ _, ?_⟩
    intro order horder
    have horders : ∀ u ∈ order, Update.Of env transaction u := fun u hu =>
      hupdates u (horder.mem_iff.mp hu)
    have hadmissible : ∀ call ∈ order.map Update.call, call.Admissible env := by
      intro call hcall
      obtain ⟨u, hu, rfl⟩ := List.mem_map.mp hcall
      exact (horders u hu).1
    have hafter := ((redisStore_simulates env).run hadmissible hmirrors).2
    obtain ⟨final, hfinal, hstatus⟩ := inMemory_updates horders hcurrent
    refine ⟨final, ?_, ?_⟩
    · rw [get_of_mirrors hafter]
      exact congrArg Except.ok hfinal
    · rw [hstatus]
      apply (isHighest_highest _ _).unique (isHighest_highest _ _)
      exact (horder.map fun u => u.1.status).cons _

section Unreadable

variable {env : Env} {state : XRPLSettlementState} {transaction : String}

theorem inMemory_reserve_get (hkey : storeKey env transaction = storeKey env state.transaction)
    (ttl : Int) :
    (inMemoryStore env).answers (fun _ => none) [.reserve state ttl, .get transaction] =
      [.reserved true, .record (some state)] := by
  have hget : InMemorySettlementStore.get env transaction
      (Function.update (fun _ => none) (storeKey env state.transaction) (some state)) = some state := by
    rw [InMemorySettlementStore.get, hkey, Function.update_self]
  exact congrArg (fun found => [SettlementAnswer.reserved true, .record found]) hget

/-- A record that the reader refuses is written all the same. -/
theorem redis_reserve_get (hkey : storeKey env transaction = storeKey env state.transaction)
    (hserializable : env.serializable (.obj state.modelDump) = true) {ttl : Int} (httl : 0 < ttl)
    {e : Exc} (he : XRPLSettlementState.modelValidateJson env state.modelDumpJson = .error e) :
    (redisStore env).answers (fun _ => none) [.reserve state ttl, .get transaction] =
      [.ok (.reserved true), .error e] := by
  have hreserve : RedisSettlementStore.reserve env state ttl (fun _ => none) =
      (.ok true, Function.update (fun _ => none) (RedisSettlementStore.key env state.transaction)
        (some ⟨state.modelDumpJson,
          (if state.status = .pending then none else some ttl).map Int.toNat⟩)) := by
    rw [RedisSettlementStore.reserve, if_pos hserializable]
    exact Redis.set_nx (positive_reserve state httl)
  have hget : RedisSettlementStore.get env transaction
      (RedisSettlementStore.reserve env state ttl (fun _ => none)).2 = .error e := by
    rw [hreserve, RedisSettlementStore.get, RedisSettlementStore.key, hkey, RedisSettlementStore.key,
      Redis.get_of_entry (Function.update_self ..)]
    dsimp only
    rw [he]
    rfl
  show [(RedisSettlementStore.reserve env state ttl (fun _ => none)).1.map SettlementAnswer.reserved,
    (RedisSettlementStore.get env transaction
      (RedisSettlementStore.reserve env state ttl (fun _ => none)).2).map SettlementAnswer.record] = _
  rw [hget, hreserve]
  rfl

end Unreadable

theorem strippedKeys_errorResult (reason : String) : StrippedKeys (errorResult reason) :=
  ⟨rfl, List.forall_mem_singleton.mpr (show trim "errorReason" = "errorReason" by decide)⟩

theorem strippedKeys_amountResult (amount : String) : StrippedKeys (amountResult amount) :=
  ⟨rfl, List.forall_mem_singleton.mpr (show trim "amount" = "amount" by decide)⟩

theorem fits_errorResult (reason : String) : (Json.obj (errorResult reason)).fits 1 = true := rfl

theorem fits_amountResult (amount : String) : (Json.obj (amountResult amount)).fits 1 = true := rfl

namespace Sample

open XrplX402.Sample

def pendingRecord : XRPLSettlementState := .new "ab" "xrpl:1" (some "rPayer") 100 110 "fingerprint" .pending

def expiredRecord : XRPLSettlementState :=
  pendingRecord.withResult .failed (errorResult "transaction_expired")

def paidRecord : XRPLSettlementState := pendingRecord.withResult .validated (amountResult "1000")

/-- The payment validates and a late answer says that it has expired. -/
def lateExpiry : List SettlementCall :=
  [.reserve pendingRecord 600, .update paidRecord 600, .update expiredRecord 900, .get "AB"]

theorem lateExpiry_admissible : ∀ call ∈ lateExpiry, call.Admissible shapeEnv := by
  have hreserved : pendingRecord.Storable shapeEnv :=
    ⟨XRPLSettlementState.valid_new _ _ _ _ _ _ _, rfl,
      fits_modelDump_iff.mpr ⟨by decide, by decide, rfl⟩⟩
  have hpaid : paidRecord.Storable shapeEnv :=
    ⟨pendingRecord.valid_withResult _ (strippedKeys_amountResult _), rfl,
      fits_modelDump_iff.mpr ⟨by decide, by decide, fits_amountResult _⟩⟩
  have hexpired : expiredRecord.Storable shapeEnv :=
    ⟨pendingRecord.valid_withResult _ (strippedKeys_errorResult _), rfl,
      fits_modelDump_iff.mpr ⟨by decide, by decide, fits_errorResult _⟩⟩
  simp only [lateExpiry, List.forall_mem_cons, SettlementCall.Admissible, List.not_mem_nil, false_implies,
    implies_true, and_true]
  exact ⟨⟨hreserved, by decide⟩, ⟨hpaid, by decide⟩, ⟨hexpired, by decide⟩⟩

/-- 199 lists, one in the other, as the details of a failure. -/
def deepResult : Dict := [("details", nested 199 (.int 1))]

def deepRecord : XRPLSettlementState := pendingRecord.withResult .failed deepResult

theorem strippedKeys_deepResult : StrippedKeys deepResult := by
  refine ⟨proper_obj.mpr ⟨by decide, ?_⟩, ?_⟩
  · exact List.forall_mem_singleton.mpr (proper_nested 199 (.int 1))
  · exact List.forall_mem_singleton.mpr (show trim "details" = "details" by decide)

/-- The record is one level deeper than the reader goes. -/
theorem not_fits_deepRecord : (Json.obj deepRecord.modelDump).fits 0 = false := by
  have hone : ∀ level, (Json.int 1).fits level = true := by
    intro level
    rw [Json.fits]
    decide
  have hnested : (nested 199 (.int 1)).fits 2 = false := by
    rw [Bool.eq_false_iff, ne_eq, fits_nested_iff hone, maxLevels]
    decide
  rw [Bool.eq_false_iff]
  intro hfits
  have hresult : (Json.obj deepResult).fits 1 = true := (fits_modelDump_iff.mp hfits).2.2
  rw [deepResult, Json.fits, Bool.and_eq_true] at hresult
  rw [fitsMembers_iff.mp hresult.2 ("details", nested 199 (.int 1)) List.mem_cons_self] at hnested
  cases hnested

end Sample

open XrplX402.Sample in
/-- The store in memory returns a deeply nested state, and the Redis store raises. -/
theorem deep_record_tells_stores_apart :
    Sample.deepRecord.Valid ∧
      (inMemoryStore shapeEnv).answers (fun _ => none) [.reserve Sample.deepRecord 600, .get "AB"] =
        [.reserved true, .record (some Sample.deepRecord)] ∧
      ∃ e, (redisStore shapeEnv).answers (fun _ => none) [.reserve Sample.deepRecord 600, .get "AB"] =
        [.ok (.reserved true), .error e] := by
  have hkey : storeKey shapeEnv "AB" = storeKey shapeEnv Sample.deepRecord.transaction := by decide
  obtain ⟨e, he⟩ := modelValidateJson_of_not_fits shapeEnv Sample.not_fits_deepRecord
  exact ⟨Sample.pendingRecord.valid_withResult _ Sample.strippedKeys_deepResult,
    inMemory_reserve_get hkey 600, e, redis_reserve_get hkey rfl (by decide) he⟩

open XrplX402.Sample in
theorem stores_interchangeable_sample :
    (redisStore shapeEnv).answers (fun _ => none) Sample.lateExpiry =
      [.ok (.reserved true), .ok .done, .ok .done, .ok (.record (some Sample.paidRecord))] := by
  have hanswers := (stores_interchangeable shapeEnv (fun _ => none) Sample.lateExpiry (fun _ => rfl)
    Sample.lateExpiry_admissible).1
  rw [hanswers]
  decide +kernel

end XrplX402.Facilitator
