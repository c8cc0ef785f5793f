import XrplX402.Py.Text

/-! # Redis commands

    One server as its clients see it: strings under keys, each with or without
    an expiry. Every command is atomic. Time does not pass, so no key runs out
    by itself. -/

namespace Redis

open Py

/-! ## Section 1: Commands -/

structure Entry where
  value : String
  /-- Seconds to live; `none` when the key does not expire. -/
  expiry : Option Nat
  deriving DecidableEq

abbrev Db := String → Option Entry

/-- When `SET` writes. -/
inductive Condition where
  | always
  /-- The key does not exist. -/
  | nx
  /-- The key exists. -/
  | xx
  deriving DecidableEq

def Condition.permits : Condition → Option Entry → Bool
  | always, _ => true
  | nx, entry => entry.isNone
  | xx, entry => entry.isSome

def responseError (text : String) : Exc := ⟨.other, text⟩

/-- `GET key` -/
def get (key : String) (db : Db) : Option String := (db key).map Entry.value

/-- `SET key value [NX | XX] [EX seconds]`, and whether it has written. An old
    expiry is dropped. -/
def set (condition : Condition) (ex : Option Int) (key value : String) (db : Db) :
    Except Exc Bool × Db :=
  if ex.any (· ≤ 0) then (.error (responseError "invalid expire time in 'set' command"), db)
  else if condition.permits (db key) then
    (.ok true, Function.update db key (some ⟨value, ex.map Int.toNat⟩))
  else (.ok false, db)

/-- `EXPIRE key seconds`: a key whose time is over is gone. -/
def expire (key : String) (seconds : Int) (db : Db) : Db :=
  match db key with
  | none => db
  | some entry =>
    if seconds ≤ 0 then Function.update db key none
    else Function.update db key (some { entry with expiry := some seconds.toNat })

/-! ## Section 2: What a command can do -/

section Commands

variable {db : Db} {key value : String} {ex : Option Int}

/-- An expiry that `SET` accepts. -/
def Positive (ex : Option Int) : Prop := ∀ seconds ∈ ex, 0 < seconds

theorem any_of_positive (h : Positive ex) : ex.any (· ≤ 0) = false := by
  cases ex with
  | none => rfl
  | some seconds =>
    have hpos := h seconds rfl
    simpa using hpos

theorem set_permitted {condition : Condition} (hex : Positive ex)
    (h : condition.permits (db key) = true) : set condition ex key value db =
      (.ok true, Function.update db key (some ⟨value, ex.map Int.toNat⟩)) := by
  rw [set, any_of_positive hex, h]
  rfl

theorem set_refused {condition : Condition} (hex : Positive ex)
    (h : condition.permits (db key) = false) : set condition ex key value db = (.ok false, db) := by
  rw [set, any_of_positive hex, h]
  rfl

theorem set_nx (hex : Positive ex) : set .nx ex key value db =
    match db key with
    | none => (.ok true, Function.update db key (some ⟨value, ex.map Int.toNat⟩))
    | some _ => (.ok false, db) := by
  cases h : db key with
  | none => exact set_permitted hex (by rw [h]; rfl)
  | some entry => exact set_refused hex (by rw [h]; rfl)

theorem expire_some {entry : Entry} {seconds : Int} (h : db key = some entry) (hs : 0 < seconds) :
    expire key seconds db =
      Function.update db key (some { entry with expiry := some seconds.toNat }) := by
  rw [expire, h]
  exact if_neg (by omega)

theorem get_of_entry {entry : Entry} (h : db key = some entry) : get key db = some entry.value := by
  rw [get, h]
  rfl

end Commands

end Redis
