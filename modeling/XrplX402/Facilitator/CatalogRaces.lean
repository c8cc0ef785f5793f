import XrplX402.Facilitator.Discovery
import XrplX402.Interaction.Environment

/-! # Indexing while others list

    A listing reads the sorted set, then each entry, and removes at its end the
    keys that it saw without an entry. Between these commands the other calls do
    theirs, time passes, and entries run out.

    * **Calls**: any number of calls of `index` and `list`, beside time.
    * **Writes**: which entries a log has written, and until when they are kept.
    * **Sparing**: a removal spares what an indexing call has finished.
    * **Races**: if every removal does, every listing has every kept entry. -/

namespace XrplX402.Facilitator

open Py Interaction Prog

/-! ## Section 1: Calls -/

inductive CatalogCall where
  | index (payload : PaymentPayload) (requirements : PaymentRequirements)
  | list (filters : BazaarCatalog.Filters) (limit offset : Nat)

inductive CatalogAnswer where
  | indexed (found : Bool)
  | listed (listing : BazaarCatalog.Listing)

def CatalogCall.run (env : CatalogEnv) (retentionSeconds : Nat) :
    CatalogCall → CatalogProg CatalogAnswer
  | .index payload requirements => do
    let found ← BazaarCatalog.index env retentionSeconds payload requirements
    return .indexed found
  | .list filters limit offset => do
    let listing ← BazaarCatalog.list env filters limit offset
    return .listed listing

/-- What happens to the catalogue without a command. -/
inductive CatalogPassing where
  | wait (seconds : Nat)
  | expires (key : String)

/-- An entry may vanish at any time after its retention period. -/
def CatalogState.happens (s : CatalogState) : CatalogPassing → Option CatalogState
  | .wait seconds => some { s with clock := s.clock + seconds }
  | .expires key =>
    match s.entries key with
    | some entry =>
      if entry.expiresAt ≤ s.clock then some { s with entries := Function.update s.entries key none }
      else none
    | none => none

theorem CatalogState.happens_expires {s t : CatalogState} {key : String} :
    s.happens (.expires key) = some t ↔
      t = { s with entries := Function.update s.entries key none } ∧
        ∃ entry, s.entries key = some entry ∧ entry.expiresAt ≤ s.clock := by
  show (match s.entries key with
    | some entry =>
      if entry.expiresAt ≤ s.clock then some { s with entries := Function.update s.entries key none }
      else none
    | none => none) = some t ↔ _
  cases hentry : s.entries key with
  | none => simp
  | some entry =>
    simp only [Option.ite_none_right_eq_some, Option.some.injEq, exists_eq_left']
    exact ⟨fun ⟨hle, heq⟩ => ⟨heq.symm, hle⟩, fun ⟨heq, hle⟩ => ⟨hle, heq.symm⟩⟩

instance (o : CatalogOp) : DecidableEq (CatalogRet o) :=
  match o with
  | .set _ _ _ => inferInstanceAs (DecidableEq Unit)
  | .zadd _ => inferInstanceAs (DecidableEq Unit)
  | .zrange => inferInstanceAs (DecidableEq (List String))
  | .get _ => inferInstanceAs (DecidableEq (Option Dict))
  | .zrem _ => inferInstanceAs (DecidableEq Unit)
  | .now => inferInstanceAs (DecidableEq String)

abbrev CatalogEvent (ι κ : Type) :=
  Entry (ι ⊕ κ) (Act CatalogOp CatalogPassing) (Act.Answer CatalogRet)

abbrev CatalogRunState (ι κ : Type) :=
  State (ι ⊕ κ) (Act CatalogOp CatalogPassing) (Act.Answer CatalogRet) CatalogState

abbrev CatalogConfig (ι κ : Type) :=
  Config (ι ⊕ κ) (Act CatalogOp CatalogPassing) (Act.Answer CatalogRet) FacilitatorExc CatalogAnswer
    CatalogState

/-- All calls on one catalogue, beside the passing of time. -/
def catalogSystem {ι κ : Type} (env : CatalogEnv) (retentionSeconds : Nat) (calls : ι → CatalogCall)
    (passing : κ → CatalogPassing) :
    System (ι ⊕ κ) (Act CatalogOp CatalogPassing) (Act.Answer CatalogRet) FacilitatorExc CatalogAnswer
      CatalogState :=
  System.beside ⟨World.ofPerform (CatalogState.perform env.isoformat),
    fun i => (calls i).run env retentionSeconds⟩ CatalogState.happens passing

/-! ## Section 2: Writes -/

section Writes

variable {ι κ : Type}

def waited : Act CatalogOp CatalogPassing → Nat
  | .event (.wait seconds) => seconds
  | _ => 0

/-- The time that has passed during a log. -/
def elapsed : List (CatalogEvent ι κ) → Nat
  | [] => 0
  | e :: older => waited e.op + elapsed older

/-- An entry that a call has written, and when its retention period ends. -/
structure Write (ι κ : Type) where
  who : ι ⊕ κ
  key : String
  item : Dict
  expiresAt : Nat

def writtenBy (now : Nat) (e : CatalogEvent ι κ) : List (Write ι κ) :=
  match e.op with
  | .op (.set key item seconds) => [⟨e.who, key, item, now + seconds⟩]
  | _ => []

/-- The entries that a log has written, when its clock started at `start`. -/
def writes (start : Nat) : List (CatalogEvent ι κ) → List (Write ι κ)
  | [] => []
  | e :: older => writtenBy (start + elapsed older) e ++ writes start older

/-- The call that wrote an entry has then put its key into the sorted set. -/
def Write.Finished (start : Nat) (log : List (CatalogEvent ι κ)) (w : Write ι κ) : Prop :=
  ∃ newer older, log = newer ++ ⟨⟨.op (.zadd w.key), ()⟩, w.who⟩ :: older ∧ w ∈ writes start older

variable {start : Nat} {older log : List (CatalogEvent ι κ)}

theorem writes_suffix (h : older <:+ log) {w : Write ι κ} (hw : w ∈ writes start older) :
    w ∈ writes start log := by
  obtain ⟨newer, rfl⟩ := h
  induction newer with
  | nil => exact hw
  | cons e newer ih => exact List.mem_append_right _ ih

theorem elapsed_suffix (h : older <:+ log) : elapsed older ≤ elapsed log := by
  obtain ⟨newer, rfl⟩ := h
  induction newer with
  | nil => exact le_rfl
  | cons e newer ih => exact le_trans ih (Nat.le_add_left _ _)

theorem Write.Finished.suffix (h : older <:+ log) {w : Write ι κ} (hw : w.Finished start older) :
    w.Finished start log := by
  obtain ⟨newest, rfl⟩ := h
  obtain ⟨newer, oldest, rfl, hwrite⟩ := hw
  exact ⟨newest ++ newer, oldest, by rw [List.append_assoc], hwrite⟩

theorem Write.Finished.mem {w : Write ι κ} (h : w.Finished start log) : w ∈ writes start log := by
  obtain ⟨newer, older, rfl, hw⟩ := h
  exact writes_suffix ⟨newer ++ [_], by rw [List.append_assoc]; rfl⟩ hw

/-- An event finishes the writes of its caller if it is a `ZADD`. -/
theorem finished_cons {e : CatalogEvent ι κ} {w : Write ι κ} (h : w.Finished start (e :: older)) :
    w.Finished start older ∨
      (e = ⟨⟨.op (.zadd w.key), ()⟩, w.who⟩ ∧ w ∈ writes start older) := by
  obtain ⟨newer, oldest, heq, hw⟩ := h
  cases newer with
  | nil =>
    obtain ⟨rfl, rfl⟩ := List.cons.inj heq
    exact .inr ⟨rfl, hw⟩
  | cons e' newer =>
    obtain ⟨rfl, rfl⟩ := List.cons.inj heq
    exact .inl ⟨newer, oldest, rfl, hw⟩

/-- The write of a `SET` in the log. -/
theorem exists_write {i : ι ⊕ κ} {key : String} {item : Dict} {seconds : Nat}
    {r : Act.Answer CatalogRet (.op (.set key item seconds) : Act CatalogOp CatalogPassing)}
    (h : ⟨⟨.op (.set key item seconds), r⟩, i⟩ ∈ log) :
    ∃ w ∈ writes start log, w.who = i ∧ w.key = key ∧ w.item = item := by
  induction log with
  | nil => cases h
  | cons e older ih =>
    rcases List.mem_cons.mp h with rfl | h
    · exact ⟨_, List.mem_append_left _ List.mem_cons_self, rfl, rfl, rfl⟩
    · obtain ⟨w, hw, hfacts⟩ := ih h
      exact ⟨w, List.mem_append_right _ hw, hfacts⟩

end Writes

/-! ## Section 3: Sparing removals -/

section Invariant

variable {ι κ : Type}

/-- A removal spares every key that an indexing call has finished with and whose
    retention period has not ended. -/
def Spares (start : Nat) (s : CatalogRunState ι κ) (e : CatalogEvent ι κ) : Prop :=
  ∀ keys, e.op = .op (.zrem keys) → ∀ w : Write ι κ, w.Finished start s.log →
    s.shared.clock < w.expiresAt → w.key ∉ keys

/-- `w'` is an entry of the same key that is kept at least as long. -/
def Write.OutlastedBy (w w' : Write ι κ) : Prop := w'.key = w.key ∧ w.expiresAt ≤ w'.expiresAt

/-- What a listing is told about the entries that are kept. -/
def Answers (start : Nat) (e : CatalogEvent ι κ) (older : List (CatalogEvent ι κ)) : Prop :=
  ∀ w : Write ι κ, w.Finished start older → start + elapsed older < w.expiresAt →
    (∀ keys : List String, e.toEvent = ⟨.op .zrange, keys⟩ → w.key ∈ keys) ∧
    (∀ answer : Option Dict, e.toEvent = ⟨.op (.get w.key), answer⟩ →
      ∃ w' ∈ writes start older, w.OutlastedBy w' ∧ answer = some w'.item)

structure CatalogInvariant (start retentionSeconds : Nat) (s : CatalogRunState ι κ) : Prop where
  clock : s.shared.clock = start + elapsed s.log
  fresh : ∀ w ∈ writes start s.log, w.expiresAt ≤ s.shared.clock + retentionSeconds
  kept : ∀ w ∈ writes start s.log, s.shared.clock < w.expiresAt →
    ∃ w' ∈ writes start s.log, w.OutlastedBy w' ∧
      s.shared.entries w.key = some ⟨w'.item, w'.expiresAt⟩
  listed : ∀ w : Write ι κ, w.Finished start s.log → s.shared.clock < w.expiresAt →
    w.key ∈ s.shared.index
  answers : EveryEntry (Answers start) s.log

variable {env : CatalogEnv} {retentionSeconds start : Nat} {calls : ι → CatalogCall}
variable {passing : κ → CatalogPassing} {s : CatalogRunState ι κ} {i : ι ⊕ κ}

/-- A command has the answer and the effect that it performs. -/
theorem catalogSystem_exec {s t : CatalogState} {o : CatalogOp} {r : CatalogRet o} :
    (catalogSystem env retentionSeconds calls passing).world.exec s (.op o) r = some t ↔
      r = (s.perform env.isoformat o).1 ∧ t = (s.perform env.isoformat o).2 := by
  show (if (s.perform env.isoformat o).1 = r then some (s.perform env.isoformat o).2 else none) =
    some t ↔ _
  rw [Option.ite_none_right_eq_some, Option.some.injEq, eq_comm, @eq_comm _ _ t]

/-- Only a listing gets answers that matter. -/
theorem answers_of_other {e : CatalogEvent ι κ} {older : List (CatalogEvent ι κ)}
    (hzrange : e.op ≠ .op .zrange) (hget : ∀ key, e.op ≠ .op (.get key)) :
    Answers start e older := by
  intro w _ _
  constructor
  · intro keys he
    exact absurd (congrArg Event.op he) hzrange
  · intro answer he
    exact absurd (congrArg Event.op he) (hget w.key)

namespace CatalogInvariant

/-- What a step keeps that writes nothing and takes no time. -/
theorem push (h : CatalogInvariant start retentionSeconds s) {o : Act CatalogOp CatalogPassing}
    {r : Act.Answer CatalogRet o} {t : CatalogState}
    (hwrites : writes start (s.push i o r t).log = writes start s.log) (hwaited : waited o = 0)
    (hclock : t.clock = s.shared.clock) (hentries : t.entries = s.shared.entries)
    (hlisted : ∀ w : Write ι κ, w.Finished start (s.push i o r t).log →
      s.shared.clock < w.expiresAt → w.key ∈ t.index)
    (hanswers : Answers start ⟨⟨o, r⟩, i⟩ s.log) :
    CatalogInvariant start retentionSeconds (s.push i o r t) := by
  refine ⟨?_, ?_, ?_, ?_, hanswers, h.answers⟩
  · rw [State.push_log, elapsed, hwaited, Nat.zero_add, State.push_shared, hclock]
    exact h.clock
  · rw [hwrites, State.push_shared, hclock]
    exact h.fresh
  · rw [hwrites, State.push_shared, hclock, hentries]
    exact h.kept
  · rw [State.push_shared, hclock]
    exact hlisted

/-- A command that only reads. -/
theorem read (h : CatalogInvariant start retentionSeconds s) {o : CatalogOp} {r : CatalogRet o}
    (ho : o = .zrange ∨ (∃ key, o = .get key) ∨ o = .now)
    (hanswers : Answers start ⟨⟨.op o, r⟩, i⟩ s.log) :
    CatalogInvariant start retentionSeconds (s.push i (.op o) r s.shared) := by
  have hwrites : writes start (s.push i (.op o) r s.shared).log = writes start s.log := by
    rcases ho with rfl | ⟨key, rfl⟩ | rfl <;> rfl
  apply h.push hwrites rfl rfl rfl ?_ hanswers
  intro w hfinished
  rcases finished_cons hfinished with hbefore | ⟨heq, -⟩
  · exact h.listed w hbefore
  · have hop := congrArg (fun e => e.op) heq
    rcases ho with rfl | ⟨key, rfl⟩ | rfl <;> cases hop

theorem zrange (h : CatalogInvariant start retentionSeconds s) :
    CatalogInvariant start retentionSeconds (s.push i (.op .zrange) s.shared.index s.shared) := by
  apply h.read (.inl rfl)
  intro w hw hlt
  rw [← h.clock] at hlt
  constructor
  · intro keys heq
    obtain rfl : s.shared.index = keys := eq_of_heq (Event.mk.inj heq).2
    exact h.listed w hw hlt
  · intro answer heq
    cases congrArg Event.op heq

theorem get (h : CatalogInvariant start retentionSeconds s) {key : String} :
    CatalogInvariant start retentionSeconds
      (s.push i (.op (.get key)) ((s.shared.entries key).map CatalogEntry.item) s.shared) := by
  apply h.read (.inr (.inl ⟨key, rfl⟩))
  intro w hw hlt
  rw [← h.clock] at hlt
  constructor
  · intro keys heq
    cases congrArg Event.op heq
  · intro answer heq
    have hop : (Act.op (.get key) : Act CatalogOp CatalogPassing) = .op (.get w.key) :=
      congrArg Event.op heq
    obtain rfl : key = w.key := CatalogOp.get.inj (Act.op.inj hop)
    obtain rfl : (s.shared.entries w.key).map CatalogEntry.item = answer :=
      eq_of_heq (Event.mk.inj heq).2
    obtain ⟨w', hw', hlasts, hentry⟩ := h.kept w hw.mem hlt
    exact ⟨w', hw', hlasts, by rw [hentry]; rfl⟩

theorem set (h : CatalogInvariant start retentionSeconds s) {key : String} {item : Dict} :
    CatalogInvariant start retentionSeconds (s.push i (.op (.set key item retentionSeconds)) ()
      (s.shared.perform env.isoformat (.set key item retentionSeconds)).2) := by
  have hwrites : writes start (s.push i (.op (.set key item retentionSeconds)) ()
      (s.shared.perform env.isoformat (.set key item retentionSeconds)).2).log =
      ⟨i, key, item, s.shared.clock + retentionSeconds⟩ :: writes start s.log := by
    rw [h.clock]
    rfl
  refine ⟨?_, ?_, ?_, ?_, answers_of_other (fun h => by cases h) (fun _ h => by cases h), h.answers⟩
  · show s.shared.clock = start + (0 + elapsed s.log)
    rw [Nat.zero_add]
    exact h.clock
  · rw [hwrites]
    intro w hw
    rcases List.mem_cons.mp hw with rfl | hw
    · exact le_rfl
    · exact h.fresh w hw
  · rw [hwrites]
    intro w hw hlt
    by_cases hkey : w.key = key
    · -- The new entry is kept at least as long as every earlier one.
      refine ⟨_, List.mem_cons_self, ⟨hkey.symm, ?_⟩, ?_⟩
      · rcases List.mem_cons.mp hw with rfl | hw
        · exact le_rfl
        · exact h.fresh w hw
      · rw [hkey]
        exact Function.update_self _ _ _
    · rcases List.mem_cons.mp hw with rfl | hw
      · exact absurd rfl hkey
      · obtain ⟨w', hw', hlasts, hentry⟩ := h.kept w hw hlt
        refine ⟨w', List.mem_cons_of_mem _ hw', hlasts, ?_⟩
        exact (Function.update_of_ne hkey _ _).trans hentry
  · intro w hfinished hlt
    rcases finished_cons hfinished with hbefore | ⟨heq, -⟩
    · exact h.listed w hbefore hlt
    · cases congrArg (fun e => e.op) heq

theorem zadd (h : CatalogInvariant start retentionSeconds s) {key : String} :
    CatalogInvariant start retentionSeconds (s.push i (.op (.zadd key)) ()
      (s.shared.perform env.isoformat (.zadd key)).2) := by
  have hindex : ∀ k, k ∈ (s.shared.perform env.isoformat (.zadd key)).2.index ↔
      k = key ∨ k ∈ s.shared.index := by
    intro k
    show k ∈ (if key ∈ s.shared.index then s.shared.index
      else s.shared.index.orderedInsert (· ≤ ·) key) ↔ _
    by_cases hkey : key ∈ s.shared.index
    · rw [if_pos hkey]
      exact ⟨.inr, fun h => h.elim (fun heq => heq ▸ hkey) id⟩
    · rw [if_neg hkey]
      exact List.mem_orderedInsert _
  refine h.push (by rfl) rfl (by rfl) (by rfl) ?_
    (answers_of_other (fun h => by cases h) (fun _ h => by cases h))
  -- Finished writes stay listed, and the one that this command finishes becomes listed.
  intro w hfinished hlt
  rw [hindex]
  rcases finished_cons hfinished with hbefore | ⟨heq, -⟩
  · exact .inr (h.listed w hbefore hlt)
  · have hop : (Act.op (.zadd key) : Act CatalogOp CatalogPassing) = .op (.zadd w.key) :=
      congrArg (fun e => e.op) heq
    exact .inl (CatalogOp.zadd.inj (Act.op.inj hop)).symm

theorem zrem (h : CatalogInvariant start retentionSeconds s) {keys : List String}
    (hspares : Spares start s ⟨⟨.op (.zrem keys), ()⟩, i⟩) :
    CatalogInvariant start retentionSeconds (s.push i (.op (.zrem keys)) ()
      (s.shared.perform env.isoformat (.zrem keys)).2) := by
  refine h.push (by rfl) rfl (by rfl) (by rfl) ?_
    (answers_of_other (fun h => by cases h) (fun _ h => by cases h))
  intro w hfinished hlt
  rcases finished_cons hfinished with hbefore | ⟨heq, -⟩
  · have hkey := hspares keys rfl w hbefore hlt
    exact List.mem_filter.mpr ⟨h.listed w hbefore hlt, decide_eq_true hkey⟩
  · cases congrArg (fun e => e.op) heq

theorem wait (h : CatalogInvariant start retentionSeconds s) {seconds : Nat} :
    CatalogInvariant start retentionSeconds (s.push i (.event (.wait seconds)) ()
      { s.shared with clock := s.shared.clock + seconds }) := by
  refine ⟨?_, ?_, ?_, ?_, answers_of_other (fun h => by cases h) (fun _ h => by cases h), h.answers⟩
  · show s.shared.clock + seconds = start + (seconds + elapsed s.log)
    rw [h.clock]
    omega
  · intro w hw
    have hfresh := h.fresh w hw
    show w.expiresAt ≤ s.shared.clock + seconds + retentionSeconds
    omega
  · intro w hw hlt
    have hbefore : s.shared.clock < w.expiresAt := lt_of_le_of_lt (Nat.le_add_right _ _) hlt
    exact h.kept w hw hbefore
  · intro w hfinished hlt
    have hbefore : s.shared.clock < w.expiresAt := lt_of_le_of_lt (Nat.le_add_right _ _) hlt
    rcases finished_cons hfinished with hfinished | ⟨heq, -⟩
    · exact h.listed w hfinished hbefore
    · cases congrArg (fun e => e.op) heq

theorem expires (h : CatalogInvariant start retentionSeconds s) {key : String} {entry : CatalogEntry}
    (hentry : s.shared.entries key = some entry) (hover : entry.expiresAt ≤ s.shared.clock) :
    CatalogInvariant start retentionSeconds (s.push i (.event (.expires key)) ()
      { s.shared with entries := Function.update s.shared.entries key none }) := by
  refine ⟨?_, h.fresh, ?_, ?_, answers_of_other (fun h => by cases h) (fun _ h => by cases h),
    h.answers⟩
  · show s.shared.clock = start + (0 + elapsed s.log)
    rw [Nat.zero_add]
    exact h.clock
  · intro w hw hlt
    obtain ⟨w', hw', hlasts, hkept⟩ := h.kept w hw hlt
    -- The entry that vanishes is not one that is kept.
    have hkey : w.key ≠ key := by
      rintro rfl
      obtain rfl := Option.some.inj (hentry.symm.trans hkept)
      exact absurd hover (not_le.mpr (lt_of_lt_of_le hlt hlasts.2))
    exact ⟨w', hw', hlasts, (Function.update_of_ne hkey _ _).trans hkept⟩
  · intro w hfinished hlt
    rcases finished_cons hfinished with hbefore | ⟨heq, -⟩
    · exact h.listed w hbefore hlt
    · cases congrArg (fun e => e.op) heq

/-- Every step keeps the invariant if it spares what is finished. -/
theorem step (h : CatalogInvariant start retentionSeconds s) {o : Act CatalogOp CatalogPassing}
    {r : Act.Answer CatalogRet o} {t : CatalogState}
    (hseconds : ∀ key item seconds, o = .op (.set key item seconds) → seconds = retentionSeconds)
    (hspares : Spares start s ⟨⟨o, r⟩, i⟩)
    (hx : (catalogSystem env retentionSeconds calls passing).world.exec s.shared o r = some t) :
    CatalogInvariant start retentionSeconds (s.push i o r t) := by
  cases o with
  | event e =>
    cases e with
    | wait seconds =>
      obtain rfl : _ = t := Option.some.inj hx
      exact h.wait
    | expires key =>
      obtain ⟨rfl, entry, hentry, hover⟩ := CatalogState.happens_expires.mp hx
      exact h.expires hentry hover
  | op o =>
    obtain ⟨rfl, rfl⟩ := catalogSystem_exec.mp hx
    cases o with
    | set key item seconds =>
      obtain rfl := hseconds key item seconds rfl
      exact h.set
    | zadd key => exact h.zadd
    | zrange => exact h.zrange
    | get key => exact h.get
    | zrem keys => exact h.zrem hspares
    | now =>
      apply h.read (.inr (.inr rfl))
      exact answers_of_other (fun h => by cases h) (fun _ h => by cases h)

end CatalogInvariant

/-! ## Section 4: What the calls do -/

/-- The only `SET`s are those of `index`, with the retention period. -/
def Retains (retentionSeconds : Nat) : Act CatalogOp CatalogPassing → Prop
  | .op (.set _ _ seconds) => seconds = retentionSeconds
  | _ => True

theorem uses_readEntries {P : CatalogOp → Prop} (hP : ∀ key, P (.get key))
    {filters : BazaarCatalog.Filters} (keys : List String) (items : List Dict) (stale : List String) :
    (BazaarCatalog.readEntries env filters keys items stale).Uses P := by
  induction keys generalizing items stale with
  | nil => exact uses_ret _
  | cons key keys ih =>
    refine ⟨hP key, fun answer => ?_⟩
    cases answer with
    | none => exact ih items _
    | some item => exact ih _ stale

theorem CatalogCall.uses_run (call : CatalogCall) :
    (call.run env retentionSeconds).Uses fun o => Retains retentionSeconds (.op o) := by
  cases call with
  | index payload requirements =>
    refine Uses.bind ?_ fun _ => uses_ret _
    unfold BazaarCatalog.index
    split
    · exact uses_ret _
    · exact ⟨trivial, fun _ => ⟨rfl, fun _ => ⟨trivial, fun _ => uses_ret _⟩⟩⟩
  | list filters limit offset =>
    refine Uses.bind ⟨trivial, fun keys => ?_⟩ fun _ => uses_ret _
    refine Uses.bind (uses_readEntries (fun _ => trivial) _ _ _) fun read => ?_
    unfold BazaarCatalog.finishList
    split
    · exact uses_ret _
    · exact ⟨trivial, fun _ => uses_ret _⟩

theorem uses_catalogSystem (a : ι ⊕ κ) :
    ((catalogSystem env retentionSeconds calls passing).prog a).Uses (Retains retentionSeconds) := by
  cases a with
  | inl i => exact (CatalogCall.uses_run (calls i)).acts fun _ h => h
  | inr j => exact ⟨trivial, fun _ => uses_spin⟩

theorem catalogInvariant_run [DecidableEq ι] [DecidableEq κ] {s₀ : CatalogState}
    {c : CatalogConfig ι κ}
    (h : Run (catalogSystem env retentionSeconds calls passing) (Spares s₀.clock) (Config.init s₀) c) :
    CatalogInvariant s₀.clock retentionSeconds c.state := by
  have hrun := (h.footprint (P := fun _ => Retains retentionSeconds) uses_catalogSystem
    fun _ _ hp => by cases hp).1
  apply hrun.keep (I := CatalogInvariant s₀.clock retentionSeconds)
  · intro s i o r t hs hx hallowed
    apply hs.step _ hallowed.1 hx
    rintro key item seconds rfl
    exact hallowed.2
  · exact ⟨rfl, fun _ hw => (by cases hw), fun _ hw => (by cases hw),
      fun _ hw => (by cases hw.mem), trivial⟩

end Invariant

/-! ## Section 5: What a listing has -/

/-- No filter is given. -/
def BazaarCatalog.Filters.Absent (filters : BazaarCatalog.Filters) : Prop :=
  BazaarCatalog.given filters.resourceType = false ∧ BazaarCatalog.given filters.payTo = false ∧
    BazaarCatalog.given filters.scheme = false ∧ BazaarCatalog.given filters.network = false ∧
    BazaarCatalog.given filters.extension = false ∧ BazaarCatalog.given filters.query = false

theorem absent_none : BazaarCatalog.Filters.none.Absent := by
  unfold BazaarCatalog.Filters.Absent
  decide

section Listing

variable {env : CatalogEnv} {filters : BazaarCatalog.Filters} {limit offset : Nat}

theorem selects_of_absent (h : filters.Absent) (item : Dict) :
    BazaarCatalog.selects env filters item = true := by
  obtain ⟨htype, hpayTo, hscheme, hnetwork, hextension, hquery⟩ := h
  have hneedle : BazaarCatalog.needle env filters.query = "" := by
    have hempty : filters.query.getD "" = "" := by
      simpa [BazaarCatalog.given] using hquery
    rw [BazaarCatalog.needle, hempty]
    rfl
  simp [BazaarCatalog.selects, BazaarCatalog.passesFilters, BazaarCatalog.passes,
    BazaarCatalog.passesQuery, htype, hpayTo, hscheme, hnetwork, hextension, hneedle]

/-- The item that a command has read. -/
def itemRead (e : Event CatalogOp CatalogRet) : Option Dict :=
  match e with
  | ⟨.get _, item⟩ => item
  | _ => none

theorem path_readEntries (h : filters.Absent) {keys : List String} {items : List Dict}
    {stale : List String} {t : List (Event CatalogOp CatalogRet)} {read : List Dict × List String}
    (hpath : Path (BazaarCatalog.readEntries env filters keys items stale) t (.ok read)) :
    read.1 = items ++ t.filterMap itemRead ∧ ∀ key ∈ keys, ∃ item, ⟨.get key, item⟩ ∈ t := by
  -- The keys are read in their order, and every entry is passed on.
  induction keys generalizing items stale t with
  | nil =>
    obtain ⟨rfl, hread⟩ := hpath
    obtain rfl := Except.ok.inj hread
    simp
  | cons key keys ih =>
    obtain ⟨item, t', rfl, hrest⟩ := hpath
    have hread : read.1 = items ++ (itemRead ⟨.get key, item⟩).toList ++ t'.filterMap itemRead ∧
        ∀ key ∈ keys, ∃ item, ⟨.get key, item⟩ ∈ t' := by
      cases item with
      | none =>
        have hlater := ih hrest
        simpa [itemRead] using hlater
      | some item =>
        simp only [selects_of_absent h, if_true] at hrest
        exact ih hrest
    constructor
    · rw [hread.1, List.filterMap_cons]
      cases itemRead ⟨.get key, item⟩ <;> simp
    · intro k hk
      rcases List.mem_cons.mp hk with rfl | hk
      · exact ⟨item, List.mem_cons_self⟩
      · obtain ⟨answer, hanswer⟩ := hread.2 k hk
        exact ⟨answer, List.mem_cons_of_mem _ hanswer⟩

/-- A listing without filters is the page of all items that it has read, and it
    reads every key of the index. -/
theorem path_catalogList (h : filters.Absent) {t : List (Event CatalogOp CatalogRet)}
    {listing : BazaarCatalog.Listing}
    (hpath : Path (BazaarCatalog.list env filters limit offset) t (.ok listing)) :
    listing = BazaarCatalog.page limit offset (BazaarCatalog.sortItems env (t.filterMap itemRead)) ∧
      ∃ keys : List String, ⟨.zrange, keys⟩ ∈ t ∧ ∀ key ∈ keys, ∃ item, ⟨.get key, item⟩ ∈ t := by
  obtain ⟨keys, t', rfl, hrest⟩ := hpath
  obtain ⟨reads, last, read, rfl, hreads, hend⟩ := path_bind_ok.mp hrest
  obtain ⟨hitems, hkeys⟩ := path_readEntries h hreads
  -- After the reads only stale keys are removed.
  have hlast : last.filterMap itemRead = [] ∧
      listing = BazaarCatalog.page limit offset (BazaarCatalog.sortItems env read.1) := by
    unfold BazaarCatalog.finishList at hend
    split at hend
    · obtain ⟨rfl, heq⟩ := hend
      exact ⟨rfl, Except.ok.inj heq⟩
    · obtain ⟨r, rest, rfl, rfl, heq⟩ := hend
      exact ⟨rfl, Except.ok.inj heq⟩
  constructor
  · have hall : ((⟨.zrange, keys⟩ : Event CatalogOp CatalogRet) :: (reads ++ last)).filterMap itemRead =
        read.1 := by
      rw [List.filterMap_cons_none (by rfl), List.filterMap_append, hlast.1, List.append_nil, hitems,
        List.nil_append]
    rw [hall]
    exact hlast.2
  · refine ⟨keys, List.mem_cons_self, fun key hkey => ?_⟩
    obtain ⟨item, hitem⟩ := hkeys key hkey
    exact ⟨item, List.mem_cons_of_mem _ (List.mem_append_left _ hitem)⟩

theorem path_catalogIndex {retentionSeconds : Nat} {payload : PaymentPayload}
    {requirements : PaymentRequirements} {t : List (Event CatalogOp CatalogRet)}
    (hpath : Path (BazaarCatalog.index env retentionSeconds payload requirements) t (.ok true)) :
    ∃ discovered lastUpdated,
      BazaarCatalog.discoveredIn env payload requirements = some discovered ∧
      t = [⟨.now, lastUpdated⟩,
        ⟨.set (BazaarCatalog.entryKey env (BazaarCatalog.identityOf env discovered))
          (BazaarCatalog.entryOf env discovered requirements lastUpdated) retentionSeconds, ()⟩,
        ⟨.zadd (BazaarCatalog.entryKey env (BazaarCatalog.identityOf env discovered)), ()⟩] := by
  unfold BazaarCatalog.index at hpath
  split at hpath
  · cases hpath.2
  · next discovered hdiscovered =>
    obtain ⟨lastUpdated, t₁, rfl, _, t₂, rfl, _, t₃, rfl, rfl, -⟩ := hpath
    exact ⟨discovered, lastUpdated, hdiscovered, rfl⟩

end Listing

/-! ## Section 6: Races -/

section Races

variable {ι κ : Type}

def itemOf (e : Event (Act CatalogOp CatalogPassing) (Act.Answer CatalogRet)) : Option Dict :=
  match e with
  | ⟨.op (.get _), item⟩ => item
  | _ => none

theorem filterMap_itemOf (t : List (Event CatalogOp CatalogRet)) :
    (t.map (Event.act CatalogPassing)).filterMap itemOf = t.filterMap itemRead := by
  rw [List.filterMap_map]
  congr 1
  funext e
  obtain ⟨o, r⟩ := e
  cases o <;> rfl

variable [DecidableEq ι] [DecidableEq κ]

/-- The items that a call has read. -/
def itemsRead (j : ι) (log : List (CatalogEvent ι κ)) : List Dict := (own (.inl j) log).filterMap itemOf

/-- If an indexing call has returned true in `c`, then every listing without
    filters that begins later and has ended in `c'`, before the retention period
    of the entry ends, is a page of items among which is this entry or a later
    one of the same resource. -/
def IndexedStaysListed (env : CatalogEnv) (calls : ι → CatalogCall) (start : Nat)
    (c c' : CatalogConfig ι κ) : Prop :=
  ∀ i payload requirements, calls i = .index payload requirements →
    c.threads (.inl i) = some (.ret (.indexed true)) →
    ∃ (discovered : DiscoveryInfo) (w : Write ι κ),
      BazaarCatalog.discoveredIn env payload requirements = some discovered ∧
      w ∈ writes start c.state.log ∧ w.who = .inl i ∧
      w.key = BazaarCatalog.entryKey env (BazaarCatalog.identityOf env discovered) ∧
      ∀ j filters limit offset listing, calls j = .list filters limit offset → filters.Absent →
        c.threads (.inl j) = none → c'.threads (.inl j) = some (.ret (.listed listing)) →
        c'.state.shared.clock < w.expiresAt →
        listing = BazaarCatalog.page limit offset
          (BazaarCatalog.sortItems env (itemsRead j c'.state.log)) ∧
        ∃ w' ∈ writes start c'.state.log, w.OutlastedBy w' ∧ w'.item ∈ itemsRead j c'.state.log

variable {env : CatalogEnv} {retentionSeconds : Nat} {calls : ι → CatalogCall}
variable {passing : κ → CatalogPassing} {s₀ : CatalogState} {c c' : CatalogConfig ι κ}
variable {allowed : CatalogRunState ι κ → CatalogEvent ι κ → Prop}

/-- The commands of a call that has ended. -/
theorem path_of_ended (h : Run (catalogSystem env retentionSeconds calls passing) allowed
    (Config.init s₀) c) {i : ι} {answer : CatalogAnswer}
    (hi : c.threads (.inl i) = some (.ret answer)) :
    ∃ t, Path ((calls i).run env retentionSeconds) t (.ok answer) ∧
      own (.inl i) c.state.log = t.map (Event.act CatalogPassing) := by
  have hpath := h.own_path hi (r := .ok answer) ⟨rfl, rfl⟩
  exact path_acts hpath

/-- An indexing call that has returned true has finished its entry. -/
theorem finished_of_indexed (h : Run (catalogSystem env retentionSeconds calls passing) allowed
    (Config.init s₀) c) {i : ι} {payload : PaymentPayload} {requirements : PaymentRequirements}
    (hcall : calls i = .index payload requirements)
    (hi : c.threads (.inl i) = some (.ret (.indexed true))) (start : Nat) :
    ∃ (discovered : DiscoveryInfo) (w : Write ι κ),
      BazaarCatalog.discoveredIn env payload requirements = some discovered ∧
      w.Finished start c.state.log ∧ w.who = .inl i ∧
      w.key = BazaarCatalog.entryKey env (BazaarCatalog.identityOf env discovered) := by
  obtain ⟨t, hpath, hown⟩ := path_of_ended h hi
  rw [hcall] at hpath
  obtain ⟨t₁, t₂, found, rfl, hindex, rfl, hanswer⟩ := path_bind_ok.mp hpath
  obtain rfl := CatalogAnswer.indexed.inj (Except.ok.inj hanswer)
  obtain ⟨discovered, lastUpdated, hdiscovered, rfl⟩ := path_catalogIndex hindex
  rw [List.append_nil] at hown
  obtain ⟨key, hkey⟩ : ∃ key,
      key = BazaarCatalog.entryKey env (BazaarCatalog.identityOf env discovered) := ⟨_, rfl⟩
  rw [← hkey] at hown
  obtain ⟨newer, older, hlog⟩ := List.append_of_mem (mem_own.mp (by rw [hown]; simp [Event.act]) :
    (⟨⟨.op (.zadd key), ()⟩, .inl i⟩ : CatalogEvent ι κ) ∈ c.state.log)
  -- Before the `ZADD` the call has done its `SET`.
  have hset : ∃ item seconds, (⟨.op (.set key item seconds), ()⟩ :
      Event (Act CatalogOp CatalogPassing) (Act.Answer CatalogRet)) ∈ own (.inl i) older := by
    rw [hlog, own_append, own_cons_self, List.append_assoc] at hown
    rcases hbefore : own (.inl i) older with _ | ⟨e₁, _ | ⟨e₂, rest⟩⟩
    · rw [hbefore] at hown
      cases congrArg Event.op (List.cons.inj hown).1
    · rw [hbefore] at hown
      cases congrArg Event.op (List.cons.inj (List.cons.inj hown).2).1
    · rw [hbefore] at hown
      obtain rfl := (List.cons.inj (List.cons.inj hown).2).1
      rw [hbefore]
      exact ⟨_, _, List.mem_cons_of_mem _ List.mem_cons_self⟩
  obtain ⟨item, seconds, hset⟩ := hset
  obtain ⟨w, hw, hwho, hwkey, -⟩ :
      ∃ w ∈ writes start older, w.who = .inl i ∧ w.key = key ∧ w.item = item :=
    exists_write (mem_own.mp hset)
  exact ⟨discovered, w, hdiscovered, ⟨newer, older, by rw [hlog, hwho, hwkey], hw⟩, hwho,
    hwkey.trans hkey⟩

/-- In every run whose removals spare what is finished and kept, an indexed
    entry stays listed. -/
theorem indexed_stays_listed (env : CatalogEnv) (retentionSeconds : Nat) (calls : ι → CatalogCall)
    (passing : κ → CatalogPassing) (s₀ : CatalogState) (c c' : CatalogConfig ι κ)
    (hc : Run (catalogSystem env retentionSeconds calls passing) (Spares s₀.clock)
      (Config.init s₀) c)
    (h : Run (catalogSystem env retentionSeconds calls passing) (Spares s₀.clock) c c') :
    IndexedStaysListed env calls s₀.clock c c' := by
  intro i payload requirements hcall hi
  obtain ⟨discovered, w, hdiscovered, hfinished, hwho, hkey⟩ :=
    finished_of_indexed hc hcall hi s₀.clock
  refine ⟨discovered, w, hdiscovered, hfinished.mem, hwho, hkey, ?_⟩
  intro j filters limit offset listing hlist habsent hidle hended hlt
  have hinv := catalogInvariant_run (hc.trans h)
  have hnone : own (.inl j) c.state.log = [] := by
    have hsteps := hc.own_steps (.inl j)
    rw [hidle] at hsteps
    exact hsteps
  obtain ⟨t, hpath, hown⟩ := path_of_ended (hc.trans h) hended
  rw [hlist] at hpath
  obtain ⟨t₁, t₂, answer, rfl, hread, rfl, hanswer⟩ := path_bind_ok.mp hpath
  obtain rfl := CatalogAnswer.listed.inj (Except.ok.inj hanswer)
  rw [List.append_nil] at hown
  obtain ⟨hpage, keys, hzrange, hgets⟩ := path_catalogList habsent hread
  have hitems : itemsRead j c'.state.log = t₁.filterMap itemRead := by
    rw [itemsRead, hown, filterMap_itemOf]
  rw [hitems]
  refine ⟨hpage, ?_⟩
  -- Every command of the listing comes after the call has finished.
  have hlater : ∀ e ∈ t₁, ∃ older, w.Finished s₀.clock older ∧
      s₀.clock + elapsed older < w.expiresAt ∧ older <:+ c'.state.log ∧
      Answers s₀.clock ⟨e.act CatalogPassing, .inl j⟩ older := by
    intro e he
    have hmem : (⟨e.act CatalogPassing, .inl j⟩ : CatalogEvent ι κ) ∈ c'.state.log := by
      apply mem_own.mp
      rw [hown]
      exact List.mem_map_of_mem he
    obtain ⟨newer, older, hlog, hans⟩ := hinv.answers.of_mem hmem
    have hsuffix : older <:+ c'.state.log := ⟨newer ++ [_], by rw [hlog, List.append_assoc]; rfl⟩
    have hafter : c.state.log <:+ older := by
      rcases List.suffix_or_suffix_of_suffix h.log_suffix
        (⟨newer, hlog.symm⟩ : _ :: older <:+ c'.state.log) with hin | hin
      · rcases List.suffix_cons_iff.mp hin with heq | hin
        · have hown' := mem_own.mpr (heq ▸ List.mem_cons_self : _ ∈ c.state.log)
          rw [hnone] at hown'
          cases hown'
        · exact hin
      · have hown' := mem_own.mpr (hin.subset List.mem_cons_self)
        rw [hnone] at hown'
        cases hown'
    refine ⟨older, hfinished.suffix hafter, ?_, hsuffix, hans⟩
    have htime := elapsed_suffix hsuffix
    have hclock := hinv.clock
    omega
  obtain ⟨older, hbefore, htime, -, hans⟩ := hlater _ hzrange
  have hlisted : w.key ∈ keys := (hans w hbefore htime).1 keys rfl
  obtain ⟨item, hget⟩ := hgets w.key hlisted
  obtain ⟨older', hbefore', htime', hsuffix, hans'⟩ := hlater _ hget
  obtain ⟨w', hw', hlasts, hitem⟩ := (hans' w hbefore' htime').2 item rfl
  exact ⟨w', writes_suffix hsuffix hw', hlasts, List.mem_filterMap.mpr ⟨_, hget, hitem⟩⟩

end Races

/-! ### Runs with and without an overlap -/

namespace Sample

open XrplX402.Sample

/-- The numerals of the runs below. -/
local instance fourShopCalls : NeZero 4 := ⟨by decide⟩

local instance twoPassings : NeZero 2 := ⟨by decide⟩

/-- Every payment discovers one resource. -/
def shopEnv : CatalogEnv :=
  { catalogEnv with
    extractDiscoveryInfo := fun _ _ => .ok (some
      ⟨"https://shop.example/menu", "GET", none, 2, none, none, none, none, none, none⟩) }

def shopKey : String := BazaarCatalog.entryKey shopEnv "https://shop.example/menu|GET"

def shopRequirements : PaymentRequirements := tenOf usdHex

def shopPayment : PaymentPayload := ⟨2, [], shopRequirements, none, none⟩

/-- Calls 0 and 2 index the resource, calls 1 and 3 list. -/
def shopCalls (i : Fin 4) : CatalogCall :=
  if i = 0 ∨ i = 2 then .index shopPayment shopRequirements else .list .none 20 0

/-- The retention period ends, and the entry vanishes. -/
def shopPassing (j : Fin 2) : CatalogPassing := if j = 0 then .wait 10 else .expires shopKey

def shopSystem := catalogSystem shopEnv 10 shopCalls shopPassing

def noEntries : CatalogState := ⟨[], fun _ => none, 0⟩

abbrev ShopStep :=
  Label (Fin 4 ⊕ Fin 2) (Act CatalogOp CatalogPassing) (Act.Answer CatalogRet) CatalogState

/-- The answer that the catalogue has. -/
def catalogAnswer (s : CatalogRunState (Fin 4) (Fin 2)) :
    (o : Act CatalogOp CatalogPassing) → Act.Answer CatalogRet o
  | .op o => (s.shared.perform shopEnv.isoformat o).1
  | .event _ => ()

def shopStep (i : Fin 4 ⊕ Fin 2) : ShopStep := .call i catalogAnswer

/-- The entry of call 0 vanishes; call 1 finds its key without an entry; call 2
    indexes the resource again; call 1 removes the key. -/
def lostUpdate : List ShopStep :=
  [.start (.inl 0), shopStep (.inl 0), shopStep (.inl 0), shopStep (.inl 0),
    .start (.inr 0), shopStep (.inr 0), .start (.inr 1), shopStep (.inr 1),
    .start (.inl 1), shopStep (.inl 1), shopStep (.inl 1),
    .start (.inl 2), shopStep (.inl 2), shopStep (.inl 2), shopStep (.inl 2), shopStep (.inl 1)]

/-- Call 3 lists. -/
def emptyListing : List ShopStep := [.start (.inl 3), shopStep (.inl 3)]

def shopIndexed (i : Fin 4) (c : CatalogConfig (Fin 4) (Fin 2)) : Bool :=
  match c.threads (.inl i) with
  | some (.ret (.indexed true)) => (c.threads (.inl 3)).isNone
  | _ => false

def shopListed (j : Fin 4) (c : CatalogConfig (Fin 4) (Fin 2)) : Bool :=
  match c.threads (.inl j) with
  | some (.ret (.listed _)) => true
  | _ => false

/-- The retention period of the entry of call `i` has not ended. -/
def shopKept (i : Fin 4) (c : CatalogConfig (Fin 4) (Fin 2)) : Bool :=
  (writes 0 c.state.log).all fun w =>
    decide (w.who ≠ .inl i) || decide (c.state.shared.clock < w.expiresAt)

theorem replay_lostUpdate : (shopSystem.replay lostUpdate (Config.init noEntries)).any
    (fun c => shopIndexed 2 c && (shopSystem.replay emptyListing c).any fun c' =>
      shopListed 3 c' && shopKept 2 c' && decide (itemsRead 3 c'.state.log = [])) = true := by
  decide +kernel

/-- The key of an entry that has vanished. -/
def staleKey : String := "x402:bazaar:vanished"

def staleIndex : CatalogState := ⟨[staleKey], fun _ => none, 0⟩

/-- Call 1 finds the stale key without an entry; then call 0 indexes. -/
def indexDuring : List ShopStep :=
  [.start (.inl 1), shopStep (.inl 1), shopStep (.inl 1),
    .start (.inl 0), shopStep (.inl 0), shopStep (.inl 0), shopStep (.inl 0)]

/-- Call 1 removes the stale key, and then call 3 lists. -/
def removeAndList : List ShopStep :=
  [shopStep (.inl 1), .start (.inl 3), shopStep (.inl 3), shopStep (.inl 3)]

/-- A removal takes no key that was written before it. -/
def removalSpares (e : CatalogEvent (Fin 4) (Fin 2)) (older : List (CatalogEvent (Fin 4) (Fin 2))) :
    Bool :=
  match e.op with
  | .op (.zrem keys) => (writes 0 older).all fun w => w.key ∉ keys
  | _ => true

def removesStale (e : CatalogEvent (Fin 4) (Fin 2)) : Bool :=
  match e.op with
  | .op (.zrem keys) => decide (e.who = .inl 1) && decide (keys = [staleKey])
  | _ => false

theorem replay_removeAndList : (shopSystem.replay indexDuring (Config.init staleIndex)).any
    (fun c => shopIndexed 0 c && (shopSystem.replay removeAndList c).any fun c' =>
      shopListed 3 c' && shopKept 0 c' && c'.state.log.any removesStale &&
        decide (EveryEntry (fun e older => removalSpares e older = true) c'.state.log)) = true := by
  decide +kernel

variable {c : CatalogConfig (Fin 4) (Fin 2)}

theorem threads_of_shopIndexed {i : Fin 4} (h : shopIndexed i c = true) :
    c.threads (.inl i) = some (.ret (.indexed true)) ∧ c.threads (.inl 3) = none := by
  unfold shopIndexed at h
  split at h
  · next hi => exact ⟨hi, Option.isNone_iff_eq_none.mp h⟩
  · cases h

theorem threads_of_shopListed {j : Fin 4} (h : shopListed j c = true) :
    ∃ listing, c.threads (.inl j) = some (.ret (.listed listing)) := by
  unfold shopListed at h
  split at h
  · next listing hj => exact ⟨listing, hj⟩
  · cases h

theorem kept_of_shopKept {i : Fin 4} (h : shopKept i c = true) {w : Write (Fin 4) (Fin 2)}
    (hw : w ∈ writes 0 c.state.log) (hwho : w.who = .inl i) : c.state.shared.clock < w.expiresAt := by
  have hall := List.all_eq_true.mp h w hw
  simpa [hwho] using hall

theorem spares_of_removalSpares {s : CatalogRunState (Fin 4) (Fin 2)} {e : CatalogEvent (Fin 4) (Fin 2)}
    (h : removalSpares e s.log = true) : Spares 0 s e := by
  intro keys he w hw _
  rw [removalSpares, he] at h
  exact of_decide_eq_true (List.all_eq_true.mp h w hw.mem)

theorem removal_of_removesStale {e : CatalogEvent (Fin 4) (Fin 2)} (h : removesStale e = true) :
    e.who = .inl 1 ∧ e.op = .op (.zrem [staleKey]) := by
  unfold removesStale at h
  split at h
  · next keys hop =>
    rw [Bool.and_eq_true, decide_eq_true_eq, decide_eq_true_eq] at h
    exact ⟨h.1, hop.trans (by rw [h.2])⟩
  · cases h

theorem obeys_anyStep (steps : List ShopStep) :
    ∀ l ∈ steps, l.Obeys (anyStep : CatalogRunState (Fin 4) (Fin 2) → _ → Prop) := by
  intro l _
  cases l with
  | start i => trivial
  | call i answer => exact fun _ _ => trivial

end Sample

/-- A listing has found a key without an entry; the resource is indexed again,
    and then the listing removes its key. The next listing is empty. -/
theorem indexed_entry_lost : ∃ c c' : CatalogConfig (Fin 4) (Fin 2),
    Run Sample.shopSystem anyStep (Config.init Sample.noEntries) c ∧ Run Sample.shopSystem anyStep c c' ∧
    (∃ listing, c'.threads (.inl 3) = some (.ret (.listed listing)) ∧
      itemsRead 3 c'.state.log = []) ∧
    ¬ IndexedStaysListed Sample.shopEnv Sample.shopCalls 0 c c' := by
  obtain ⟨c, hc, hfirst⟩ := System.exists_run
    (Sample.obeys_anyStep Sample.lostUpdate) Sample.replay_lostUpdate
  rw [Bool.and_eq_true] at hfirst
  obtain ⟨c', h, hsecond⟩ := System.exists_run (Sample.obeys_anyStep Sample.emptyListing) hfirst.2
  simp only [Bool.and_eq_true, decide_eq_true_eq] at hsecond
  obtain ⟨⟨hlisted, hkept⟩, hempty⟩ := hsecond
  obtain ⟨listing, hended⟩ := Sample.threads_of_shopListed hlisted
  obtain ⟨hindexed, hidle⟩ := Sample.threads_of_shopIndexed hfirst.1
  refine ⟨c, c', hc, h, ⟨listing, hended, hempty⟩, fun hstays => ?_⟩
  -- Otherwise the listing would have read the entry.
  obtain ⟨discovered, w, -, hw, hwho, -, hlistings⟩ :=
    hstays 2 Sample.shopPayment Sample.shopRequirements rfl hindexed
  have hlt := Sample.kept_of_shopKept hkept (writes_suffix h.log_suffix hw) hwho
  obtain ⟨-, w', -, -, hread⟩ := hlistings 3 .none 20 0 listing rfl absent_none hidle hended hlt
  rw [hempty] at hread
  cases hread

/-- A listing removes a stale key while the resource is indexed, and the next
    listing has the entry. -/
theorem indexed_stays_listed_sample : ∃ c c' : CatalogConfig (Fin 4) (Fin 2),
    c.threads (.inl 0) = some (.ret (.indexed true)) ∧
    (∃ e ∈ c'.state.log, e.who = .inl 1 ∧ e.op = .op (.zrem [Sample.staleKey])) ∧
    IndexedStaysListed Sample.shopEnv Sample.shopCalls 0 c c' ∧
    ∃ item, item ∈ itemsRead 3 c'.state.log := by
  obtain ⟨c, hc, hfirst⟩ := System.exists_run
    (Sample.obeys_anyStep Sample.indexDuring) Sample.replay_removeAndList
  rw [Bool.and_eq_true] at hfirst
  obtain ⟨c', h, hsecond⟩ := System.exists_run (Sample.obeys_anyStep Sample.removeAndList) hfirst.2
  simp only [Bool.and_eq_true, decide_eq_true_eq] at hsecond
  obtain ⟨⟨⟨hlisted, hkept⟩, hremoved⟩, hspared⟩ := hsecond
  obtain ⟨e, he, hremoves⟩ := List.any_eq_true.mp hremoved
  obtain ⟨listing, hended⟩ := Sample.threads_of_shopListed hlisted
  obtain ⟨hindexed, hidle⟩ := Sample.threads_of_shopIndexed hfirst.1
  -- The removal spares the entry, in the first part of the run as in the second.
  have hbefore : EveryEntry (fun e older => Sample.removalSpares e older = true) c.state.log := by
    obtain ⟨newer, hlog⟩ := h.log_suffix
    rw [← hlog] at hspared
    exact hspared.suffix
  have hspares : ∀ s e, anyStep s e ∧ Sample.removalSpares e s.log = true → Spares 0 s e :=
    fun s e he => Sample.spares_of_removalSpares he.2
  have hstays : IndexedStaysListed Sample.shopEnv Sample.shopCalls 0 c c' :=
    indexed_stays_listed Sample.shopEnv 10 Sample.shopCalls Sample.shopPassing Sample.staleIndex c c'
      ((hc.of_every_entry hbefore).mono hspares) ((h.of_every_entry hspared).mono hspares)
  refine ⟨c, c', hindexed, ⟨e, he, Sample.removal_of_removesStale hremoves⟩, hstays, ?_⟩
  obtain ⟨discovered, w, -, hw, hwho, -, hlistings⟩ :=
    hstays 0 Sample.shopPayment Sample.shopRequirements rfl hindexed
  have hlt := Sample.kept_of_shopKept hkept (writes_suffix h.log_suffix hw) hwho
  obtain ⟨-, w', -, -, hread⟩ := hlistings 3 .none 20 0 listing rfl absent_none hidle hended hlt
  exact ⟨w'.item, hread⟩

end XrplX402.Facilitator
