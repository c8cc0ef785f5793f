import XrplX402.Interaction.System
import XrplX402.Middleware.Recovery

/-! # One binding for each key

    Any number of paid requests share one response store. The first of them that
    sets the record of its key has acquired the binding; only this one runs a
    handler and writes the record again.

    * **`paidSystem`**: requests over one database without expiry.
    * **`Bound`**: the invariant.
    * **`Promise`**: when a request sends which command. -/

namespace XrplX402.Middleware

open Py Interaction Prog

variable {env : Env} {ι : Type}

/-! ## Section 1: The system -/

/-- Redis answers its commands, the handlers answer as they like. -/
def execStore (db : Redis.Db) : (o : Op) → Ret o → Option Redis.Db
  | .get key, r => if r = Redis.get key db then some db else none
  | .set key value ex nx, r =>
    let written := Redis.set (if nx then .nx else .always) (some ex) key value db
    if r = written.1 then some written.2 else none
  | .endpoint, _ => some db
  | .tool, _ => some db

theorem execStore_get {db db' : Redis.Db} {key : String} {r : Option String} :
    execStore db (.get key) r = some db' ↔ r = Redis.get key db ∧ db' = db := by
  show (if r = Redis.get key db then some db else none) = some db' ↔ _
  rw [Option.ite_none_right_eq_some, Option.some.injEq]
  exact and_congr_right' eq_comm

/-- `SET NX` writes where there is nothing. -/
theorem execStore_setNx {db db' : Redis.Db} {key value : String} {ex : Int} {r : Except Exc Bool}
    (hex : 0 < ex) : execStore db (.set key value ex true) r = some db' ↔
      (db key = none ∧ r = .ok true ∧
        db' = Function.update db key (some ⟨value, some ex.toNat⟩)) ∨
      ((db key).isSome ∧ r = .ok false ∧ db' = db) := by
  have hpositive : Redis.Positive (some ex) := fun seconds hseconds => Option.some.inj hseconds ▸ hex
  have hset : Redis.set .nx (some ex) key value db = _ := Redis.set_nx hpositive
  show (if r = (Redis.set .nx (some ex) key value db).1 then
    some (Redis.set .nx (some ex) key value db).2 else none) = some db' ↔ _
  rw [hset, Option.ite_none_right_eq_some, Option.some.injEq]
  cases hkey : db key with
  | none => simp [eq_comm]
  | some entry => simp [eq_comm]

theorem execStore_set {db db' : Redis.Db} {key value : String} {ex : Int} {r : Except Exc Bool}
    (hex : 0 < ex) : execStore db (.set key value ex false) r = some db' ↔
      r = .ok true ∧ db' = Function.update db key (some ⟨value, some ex.toNat⟩) := by
  have hpositive : Redis.Positive (some ex) := fun seconds hseconds => Option.some.inj hseconds ▸ hex
  have hset : Redis.set .always (some ex) key value db = _ := Redis.set_permitted hpositive rfl
  show (if r = (Redis.set .always (some ex) key value db).1 then
    some (Redis.set .always (some ex) key value db).2 else none) = some db' ↔ _
  rw [hset, Option.ite_none_right_eq_some, Option.some.injEq]
  exact and_congr_right' eq_comm

/-- Every request runs on its own, on the same database. -/
def paidSystem (store : RedisResourceResponseStore) (calls : ι → PaidCall env) :
    System ι Op Ret Exc Outcome Redis.Db where
  world := ⟨execStore⟩
  prog i := (calls i).run store

/-- The key that a request reads and writes. -/
def PaidCall.key (c : PaidCall env) : Option String :=
  match identifierOf env c.payload with
  | .ok (some identifier) => some (RedisResourceResponseStore.key env identifier c.requirements)
  | _ => none

def PaidCall.fingerprint (c : PaidCall env) : String := c.paid.fingerprint env

/-- The start of a handler. -/
def Op.isHandler : Op → Bool
  | .endpoint => true
  | .tool => true
  | _ => false

/-- The handler that belongs to what is paid for. -/
def Invocation.handler : Invocation → Op
  | .http .. => .endpoint
  | .tool .. => .tool

/-! ## Section 2: What the log says -/

abbrev Log (ι : Type) := List (Entry ι Op Ret)

/-- Request `i` has acquired the binding of the key. -/
def Acquired (log : Log ι) (i : ι) (key : String) : Prop :=
  ∃ record ex, ⟨⟨.set key record ex true, .ok true⟩, i⟩ ∈ log

/-- What is stored for the outcome of the handler that `i` ran. -/
inductive Produced (env : Env) (log : Log ι) (i : ι) : StoredResourceResponse → Prop where
  | response (r : HandlerResponse) (h : ⟨⟨.endpoint, .ok r⟩, i⟩ ∈ log) :
      Produced env log i (toStoredResponse env r.rebuilt r.chunks.flatten)
  | result (t : ToolResult) (h : ⟨⟨.tool, .ok (some t)⟩, i⟩ ∈ log) :
      Produced env log i (toolResponse t)

/-- The record of a request that has acquired the binding. -/
inductive RecordOf (c : PaidCall env) (log : Log ι) (i : ι) : String → Prop where
  | bound : RecordOf c log i (dumps (.obj (boundRecord c.fingerprint)))
  | stored (response : StoredResourceResponse) (h : Produced env log i response) :
      RecordOf c log i (dumps (.obj (storedRecord c.fingerprint response)))

section Log

variable {log log' : Log ι} {i : ι} {key : String}

theorem Acquired.mono (h : Acquired log i key) (hsub : log ⊆ log') : Acquired log' i key := by
  obtain ⟨record, ex, hmem⟩ := h
  exact ⟨record, ex, hsub hmem⟩

theorem Produced.mono {response : StoredResourceResponse} (h : Produced env log i response)
    (hsub : log ⊆ log') : Produced env log' i response := by
  cases h with
  | response r hmem => exact .response r (hsub hmem)
  | result t hmem => exact .result t (hsub hmem)

theorem RecordOf.mono {c : PaidCall env} {text : String} (h : RecordOf c log i text)
    (hsub : log ⊆ log') : RecordOf c log' i text := by
  cases h with
  | bound => exact .bound
  | stored response hproduced => exact .stored response (hproduced.mono hsub)

/-- What a handler produces can be stored. -/
theorem Produced.proper {response : StoredResourceResponse} (h : Produced env log i response) :
    response.Proper := by
  cases h with
  | response r _ => exact proper_stored r _
  | result t _ =>
    refine ⟨t.proper, ?_⟩
    show (Json.obj []).proper = true
    rfl

/-- A step that acquires nothing. -/
theorem acquired_cons {e : Entry ι Op Ret}
    (he : ∀ key record ex, e.toEvent ≠ ⟨.set key record ex true, .ok true⟩) :
    Acquired (e :: log) i key ↔ Acquired log i key := by
  constructor
  · rintro ⟨record, ex, hmem⟩
    rcases List.mem_cons.mp hmem with rfl | hrest
    · exact absurd rfl (he key record ex)
    · exact ⟨record, ex, hrest⟩
  · intro h
    exact h.mono fun _ hmem => List.mem_cons_of_mem _ hmem

/-- A step that acquires a binding. -/
theorem acquired_cons_self {j : ι} {key' record : String} {ex : Int} :
    Acquired (⟨⟨.set key' record ex true, .ok true⟩, j⟩ :: log) i key ↔
      (i = j ∧ key = key') ∨ Acquired log i key := by
  constructor
  · rintro ⟨record', ex', hmem⟩
    rcases List.mem_cons.mp hmem with heq | hrest
    · cases heq
      exact .inl ⟨rfl, rfl⟩
    · exact .inr ⟨record', ex', hrest⟩
  · rintro (⟨rfl, rfl⟩ | h)
    · exact ⟨record, ex, List.mem_cons_self⟩
    · exact h.mono fun _ hmem => List.mem_cons_of_mem _ hmem

end Log

/-! ## Section 3: The invariant -/

/-- The handlers that have started. -/
def handlerStarts (log : Log ι) : Log ι := log.filter fun e => e.op.isHandler

/-- A response of request `i` is stored under the key. -/
def KeepsResponse (c : PaidCall env) (s : State ι Op Ret Redis.Db) (i : ι) (key : String) : Prop :=
  ∃ response expiry, Produced env s.log i response ∧
    s.shared key = some ⟨dumps (.obj (storedRecord c.fingerprint response)), expiry⟩

structure Bound (calls : ι → PaidCall env) (s : State ι Op Ret Redis.Db) : Prop where
  own : ∀ {i key}, Acquired s.log i key → (calls i).key = some key
  unique : ∀ {i j key}, Acquired s.log i key → Acquired s.log j key → i = j
  record : ∀ {i key}, Acquired s.log i key →
    ∃ text expiry, s.shared key = some ⟨text, expiry⟩ ∧ RecordOf (calls i) s.log i text
  free : ∀ {i key}, (calls i).key = some key → (∀ j, ¬ Acquired s.log j key) → s.shared key = none
  handlers : ∀ e ∈ s.log, e.op.isHandler = true →
    e.op = (calls e.who).invocation.handler ∧ ∃ key, Acquired s.log e.who key
  writes : ∀ e ∈ s.log, ∀ key value ex nx, e.toEvent = ⟨.set key value ex nx, .ok true⟩ →
    Acquired s.log e.who key
  once : (handlerStarts s.log).Pairwise fun e e' => (calls e.who).key ≠ (calls e'.who).key
  /-- A response that was written stands in the store. -/
  kept : ∀ {i key value ex}, ⟨⟨.set key value ex false, .ok true⟩, i⟩ ∈ s.log →
    KeepsResponse (calls i) s i key

/-- What a request promises before a command. -/
def Promise [DecidableEq ι] (c : PaidCall env) (i : ι) (log : Log ι) : Op → Prop
  | .get _ => True
  | .set key value ex true =>
    0 < ex ∧ c.key = some key ∧ value = dumps (.obj (boundRecord c.fingerprint))
  | .set key value ex false =>
    0 < ex ∧ Acquired log i key ∧ ∃ response, Produced env log i response ∧
      value = dumps (.obj (storedRecord c.fingerprint response))
  | .endpoint =>
    c.invocation.handler = .endpoint ∧ (∃ key, Acquired log i key) ∧
      ∀ e ∈ Interaction.own i log, e.op.isHandler = false
  | .tool =>
    c.invocation.handler = .tool ∧ (∃ key, Acquired log i key) ∧
      ∀ e ∈ Interaction.own i log, e.op.isHandler = false

section Step

variable {calls : ι → PaidCall env} {s : State ι Op Ret Redis.Db} {i : ι}

/-- Before the first request the keys are free. -/
theorem bound_init {db : Redis.Db} (h : ∀ i key, (calls i).key = some key → db key = none) :
    Bound calls ⟨db, []⟩ where
  own h := by
    obtain ⟨_, _, hmem⟩ := h
    cases hmem
  unique h := by
    obtain ⟨_, _, hmem⟩ := h
    cases hmem
  record h := by
    obtain ⟨_, _, hmem⟩ := h
    cases hmem
  free hkey _ := h _ _ hkey
  handlers e he := by cases he
  writes e he := by cases he
  once := List.Pairwise.nil
  kept h := by cases h

/-- A step that acquires nothing. -/
theorem Bound.later (h : Bound calls s) {e : Entry ι Op Ret} {db : Redis.Db}
    (hnew : ∀ key record ex, e.toEvent ≠ ⟨.set key record ex true, .ok true⟩)
    (hrecord : ∀ {j key}, Acquired s.log j key →
      ∃ text expiry, db key = some ⟨text, expiry⟩ ∧ RecordOf (calls j) (e :: s.log) j text)
    (hfree : ∀ {key}, (∀ j, ¬ Acquired s.log j key) → db key = s.shared key)
    (hhandler : e.op.isHandler = true →
      e.op = (calls e.who).invocation.handler ∧ ∃ key, Acquired s.log e.who key)
    (hwrite : ∀ key value ex nx, e.toEvent = ⟨.set key value ex nx, .ok true⟩ →
      Acquired s.log e.who key)
    (honce : (handlerStarts (e :: s.log)).Pairwise fun e e' =>
      (calls e.who).key ≠ (calls e'.who).key)
    (hkept : ∀ {j key value ex}, ⟨⟨.set key value ex false, .ok true⟩, j⟩ ∈ e :: s.log →
      KeepsResponse (calls j) ⟨db, e :: s.log⟩ j key) : Bound calls ⟨db, e :: s.log⟩ := by
  have hacquired : ∀ {j key}, Acquired (e :: s.log) j key ↔ Acquired s.log j key :=
    acquired_cons hnew
  constructor
  · intro j key hj
    exact h.own (hacquired.mp hj)
  · intro j k key hj hk
    exact h.unique (hacquired.mp hj) (hacquired.mp hk)
  · intro j key hj
    exact hrecord (hacquired.mp hj)
  · intro j key hkey hnone
    have hnone' : ∀ k, ¬ Acquired s.log k key := fun k hk => hnone k (hacquired.mpr hk)
    exact (hfree hnone').trans (h.free hkey hnone')
  · intro e' he' hop
    rcases List.mem_cons.mp he' with rfl | hrest
    · obtain ⟨hown, key, hkey⟩ := hhandler hop
      exact ⟨hown, key, hacquired.mpr hkey⟩
    · obtain ⟨hown, key, hkey⟩ := h.handlers e' hrest hop
      exact ⟨hown, key, hacquired.mpr hkey⟩
  · intro e' he' key value ex nx hevent
    rcases List.mem_cons.mp he' with rfl | hrest
    · exact hacquired.mpr (hwrite key value ex nx hevent)
    · exact hacquired.mpr (h.writes e' hrest key value ex nx hevent)
  · exact honce
  · exact hkept

/-- The records of the acquired keys, when nothing is written. -/
theorem Bound.records (h : Bound calls s) (e : Entry ι Op Ret) {j : ι} {key : String}
    (hj : Acquired s.log j key) : ∃ text expiry, s.shared key = some ⟨text, expiry⟩ ∧
      RecordOf (calls j) (e :: s.log) j text := by
  obtain ⟨text, expiry, hstored, hrecord⟩ := h.record hj
  exact ⟨text, expiry, hstored, hrecord.mono fun _ hmem => List.mem_cons_of_mem _ hmem⟩

/-- The responses that stand in the store, when nothing is written. -/
theorem Bound.keeps (h : Bound calls s) {e : Entry ι Op Ret}
    (hwrite : ∀ key value ex nx, e.toEvent ≠ ⟨.set key value ex nx, .ok true⟩) {j : ι}
    {key value : String} {ex : Int}
    (hj : ⟨⟨.set key value ex false, .ok true⟩, j⟩ ∈ e :: s.log) :
    KeepsResponse (calls j) ⟨s.shared, e :: s.log⟩ j key := by
  rcases List.mem_cons.mp hj with rfl | hrest
  · exact absurd rfl (hwrite key value ex false)
  · obtain ⟨response, expiry, hproduced, hstored⟩ := h.kept hrest
    exact ⟨response, expiry, hproduced.mono fun _ hmem => List.mem_cons_of_mem _ hmem, hstored⟩

/-- A command that neither writes nor runs a handler. -/
theorem Bound.idle (h : Bound calls s) {o : Op} {r : Ret o} (hop : o.isHandler = false)
    (hwrite : ∀ key value ex nx, (⟨o, r⟩ : Event Op Ret) ≠ ⟨.set key value ex nx, .ok true⟩) :
    Bound calls (s.push i o r s.shared) := by
  apply h.later
  · exact fun key record ex => hwrite key record ex true
  · exact h.records _
  · exact fun _ => rfl
  · intro hhandler
    rw [show o.isHandler = true from hhandler] at hop
    cases hop
  · exact fun key value ex nx heq => absurd heq (hwrite key value ex nx)
  · show ((⟨⟨o, r⟩, i⟩ :: s.log).filter _).Pairwise _
    rw [List.filter_cons_of_neg (by simpa using hop)]
    exact h.once
  · exact h.keeps hwrite

/-- A free key is bound. -/
theorem Bound.acquire (h : Bound calls s) {key : String} {ex : Int} (hfree : s.shared key = none)
    (hkey : (calls i).key = some key) :
    Bound calls (s.push i
      (.set key (dumps (.obj (boundRecord (calls i).fingerprint))) ex true) (.ok true)
      (Function.update s.shared key
        (some ⟨dumps (.obj (boundRecord (calls i).fingerprint)), some ex.toNat⟩))) := by
  have hnone : ∀ j, ¬ Acquired s.log j key := by
    intro j hj
    obtain ⟨text, expiry, hstored, -⟩ := h.record hj
    rw [hfree] at hstored
    cases hstored
  constructor
  · intro j key' hj
    rcases acquired_cons_self.mp hj with ⟨rfl, rfl⟩ | hold
    · exact hkey
    · exact h.own hold
  · intro j k key' hj hk
    rcases acquired_cons_self.mp hj with ⟨rfl, rfl⟩ | hold
    · rcases acquired_cons_self.mp hk with ⟨rfl, -⟩ | hold'
      · rfl
      · exact absurd hold' (hnone k)
    · rcases acquired_cons_self.mp hk with ⟨rfl, rfl⟩ | hold'
      · exact absurd hold (hnone j)
      · exact h.unique hold hold'
  · intro j key' hj
    rcases acquired_cons_self.mp hj with ⟨rfl, rfl⟩ | hold
    · exact ⟨_, _, Function.update_self .., .bound⟩
    · have hne : key' ≠ key := fun heq => hnone j (heq ▸ hold)
      obtain ⟨text, expiry, hstored, hrecord⟩ := h.record hold
      refine ⟨text, expiry, ?_, hrecord.mono fun _ hmem => List.mem_cons_of_mem _ hmem⟩
      rw [State.push_shared, Function.update_of_ne hne]
      exact hstored
  · intro j key' hkey' hfree'
    have hne : key' ≠ key := by
      rintro rfl
      exact hfree' i (acquired_cons_self.mpr (.inl ⟨rfl, rfl⟩))
    rw [State.push_shared, Function.update_of_ne hne]
    exact h.free hkey' fun k hk => hfree' k (acquired_cons_self.mpr (.inr hk))
  · intro e he hhandler
    rcases List.mem_cons.mp he with rfl | hrest
    · cases hhandler
    · obtain ⟨hown, key', hkey'⟩ := h.handlers e hrest hhandler
      exact ⟨hown, key', acquired_cons_self.mpr (.inr hkey')⟩
  · intro e he key' value ex' nx hevent
    rcases List.mem_cons.mp he with rfl | hrest
    · cases hevent
      exact acquired_cons_self.mpr (.inl ⟨rfl, rfl⟩)
    · exact acquired_cons_self.mpr (.inr (h.writes e hrest key' value ex' nx hevent))
  · exact h.once
  · intro j key' value ex' hj
    rcases List.mem_cons.mp hj with heq | hrest
    · cases heq
    · have hne : key' ≠ key := by
        rintro rfl
        exact hnone j (h.writes _ hrest key' value ex' false rfl)
      obtain ⟨response, expiry, hproduced, hstored⟩ := h.kept hrest
      refine ⟨response, expiry, hproduced.mono fun _ hmem => List.mem_cons_of_mem _ hmem, ?_⟩
      rw [State.push_shared, Function.update_of_ne hne]
      exact hstored

/-- The request that has acquired the binding writes its record. -/
theorem Bound.write (h : Bound calls s) {key : String} {ex : Int}
    {response : StoredResourceResponse} (hkey : Acquired s.log i key)
    (hproduced : Produced env s.log i response) :
    Bound calls (s.push i
      (.set key (dumps (.obj (storedRecord (calls i).fingerprint response))) ex false) (.ok true)
      (Function.update s.shared key
        (some ⟨dumps (.obj (storedRecord (calls i).fingerprint response)), some ex.toNat⟩))) := by
  apply h.later
  · intro key' record ex' heq
    cases heq
  · intro j key' hj
    by_cases hname : key' = key
    · subst hname
      obtain rfl := h.unique hj hkey
      refine ⟨_, _, Function.update_self .., .stored response ?_⟩
      exact hproduced.mono fun _ hmem => List.mem_cons_of_mem _ hmem
    · rw [Function.update_of_ne hname]
      exact h.records _ hj
  · intro key' hnone
    have hname : key' ≠ key := by
      rintro rfl
      exact hnone i hkey
    exact Function.update_of_ne hname _ _
  · intro hhandler
    cases hhandler
  · intro key' value ex' nx heq
    cases heq
    exact hkey
  · exact h.once
  · intro j key' value ex' hj
    have hown : Acquired s.log j key' := by
      rcases List.mem_cons.mp hj with heq | hrest
      · cases heq
        exact hkey
      · exact h.writes _ hrest key' value ex' false rfl
    by_cases hname : key' = key
    · subst hname
      obtain rfl := h.unique hown hkey
      refine ⟨response, _, ?_, Function.update_self ..⟩
      exact hproduced.mono fun _ hmem => List.mem_cons_of_mem _ hmem
    · have hrest : ⟨⟨.set key' value ex' false, .ok true⟩, j⟩ ∈ s.log := by
        rcases List.mem_cons.mp hj with heq | hrest
        · cases heq
          exact absurd rfl hname
        · exact hrest
      obtain ⟨response', expiry, hproduced', hstored⟩ := h.kept hrest
      refine ⟨response', expiry, hproduced'.mono fun _ hmem => List.mem_cons_of_mem _ hmem, ?_⟩
      show Function.update s.shared key _ key' = _
      rw [Function.update_of_ne hname]
      exact hstored

/-- It runs its handler, for the first time. -/
theorem Bound.run [DecidableEq ι] (h : Bound calls s) {o : Op} {r : Ret o}
    (hop : o.isHandler = true) (hown : (calls i).invocation.handler = o)
    (hkey : ∃ key, Acquired s.log i key)
    (hfirst : ∀ e ∈ Interaction.own i s.log, e.op.isHandler = false) :
    Bound calls (s.push i o r s.shared) := by
  have hwrite : ∀ key value ex nx, (⟨o, r⟩ : Event Op Ret) ≠ ⟨.set key value ex nx, .ok true⟩ := by
    intro key value ex nx heq
    cases heq
    cases hop
  apply h.later
  · exact fun key record ex => hwrite key record ex true
  · exact h.records _
  · exact fun _ => rfl
  · exact fun _ => ⟨hown.symm, hkey⟩
  · exact fun key value ex nx heq => absurd heq (hwrite key value ex nx)
  · show ((⟨⟨o, r⟩, i⟩ :: s.log).filter _).Pairwise _
    rw [List.filter_cons_of_pos (by simpa using hop)]
    refine List.pairwise_cons.mpr ⟨fun e he hsame => ?_, h.once⟩
    -- another handler under this key would have been started by the same request
    obtain ⟨hmem, hhandler⟩ := List.mem_filter.mp he
    obtain ⟨key, hkey⟩ := hkey
    obtain ⟨-, key', hkey'⟩ := h.handlers e hmem hhandler
    rw [h.own hkey, h.own hkey'] at hsame
    obtain rfl := Option.some.inj hsame
    obtain rfl := h.unique hkey' hkey
    exact absurd hhandler (by simpa using hfirst e.toEvent (mem_own.mpr hmem))
  · exact h.keeps hwrite

/-- What is promised keeps the invariant. -/
theorem Bound.step [DecidableEq ι] (h : Bound calls s) {o : Op} {r : Ret o} {db : Redis.Db}
    (hpromise : Promise (calls i) i s.log o) (hx : execStore s.shared o r = some db) :
    Bound calls (s.push i o r db) := by
  cases o with
  | get key =>
    obtain ⟨-, rfl⟩ := execStore_get.mp hx
    exact h.idle rfl fun _ _ _ _ heq => by cases heq
  | set key value ex nx =>
    cases nx with
    | true =>
      obtain ⟨hex, hkey, rfl⟩ := hpromise
      rcases (execStore_setNx hex).mp hx with ⟨hfree, rfl, rfl⟩ | ⟨-, rfl, rfl⟩
      · exact h.acquire hfree hkey
      · exact h.idle rfl fun _ _ _ _ heq => by cases heq
    | false =>
      obtain ⟨hex, hkey, response, hproduced, rfl⟩ := hpromise
      obtain ⟨rfl, rfl⟩ := (execStore_set hex).mp hx
      exact h.write hkey hproduced
  | endpoint =>
    obtain ⟨hown, hkey, hfirst⟩ := hpromise
    obtain rfl := Option.some.inj hx
    exact h.run rfl hown hkey hfirst
  | tool =>
    obtain ⟨hown, hkey, hfirst⟩ := hpromise
    obtain rfl := Option.some.inj hx
    exact h.run rfl hown hkey hfirst

end Step

end XrplX402.Middleware
