import Mathlib.Data.List.Infix
import Mathlib.Data.List.Sort
import XrplX402.Core.Models
import XrplX402.Interaction.Total

/-! # The tickets of a signer

    A signer that pays with tickets lists the tickets of its account, page by
    page, and takes the smallest one; it may create tickets first.

    * `availableTicketSequences`: the paginated listing.
    * `availableTicket`: the ticket of one payment. -/

namespace XrplX402.Client

open Py Interaction

/-! ## Section 1: Operations -/

/-- What a signer asks of the ledger node. -/
inductive Op where
  /-- The tickets of an account in the last validated ledger. -/
  | accountObjects (account : String) (marker : Json)
  /-- `submit_and_wait(TicketCreate(...))` -/
  | ticketCreate (account : String) (ticketCount : Int)
  deriving DecidableEq

/-- Results of the node, or an exception of the client library. -/
abbrev Ret : Op → Type
  | .accountObjects _ _ => Except Exc Json
  | .ticketCreate _ _ => Except Exc Json

abbrev SignerProg (α : Type) := Prog Op Ret Exc α

/-! ## Section 2: The listing -/

/-- One page: its objects, and the marker of the next page. -/
structure TicketPage where
  objects : List Json
  marker : Json

def ticketPage (result : Json) : Except Exc TicketPage :=
  match result with
  | .obj d =>
    match (Dict.get? d "account_objects").getD (.arr []) with
    | .arr objects => .ok ⟨objects, Dict.get d "marker"⟩
    | _ => .error (valueError "AccountObjects returned malformed account_objects")
  | _ => .error (valueError "AccountObjects returned a malformed result")

/-- `obj["TicketSequence"]`, if `obj` is a dictionary that has it. -/
def ticketSequence? (object : Json) : Option Json :=
  object.asDict?.bind fun d => Dict.get? d "TicketSequence"

/-- `int(obj["TicketSequence"]) for obj in objects if ...` -/
def ticketSequences (env : Env) (objects : List Json) : Except Exc (List Int) :=
  (objects.filterMap ticketSequence?).mapM (toInt env.unicode)

def repeatedMarker : Exc := valueError "AccountObjects returned a repeated pagination marker"

/-- `marker_key = repr(marker)`, which must not have been seen before. -/
def markerKey (env : Env) (seen : List String) (marker : Json) : Except Exc String :=
  if repr env.unicode marker ∈ seen then .error repeatedMarker else .ok (repr env.unicode marker)

/-- `sorted(set(tickets))` -/
def sortedSet (tickets : List Int) : List Int := tickets.dedup.mergeSort (· ≤ ·)

def availableTicketSequencesFrom (env : Env) (account : String) :
    Nat → Json → List String → List Int → SignerProg (List Int)
  | 0, _, _, _ => .spin
  | pages + 1, marker, seen, tickets =>
    .call (.accountObjects account marker) fun answer => do
      let result ← .ofExcept answer
      let page ← .ofExcept (ticketPage result)
      let listed ← .ofExcept (ticketSequences env page.objects)
      if page.marker = .null then return sortedSet (tickets ++ listed)
      else do
        let key ← .ofExcept (markerKey env seen page.marker)
        availableTicketSequencesFrom env account pages page.marker (key :: seen) (tickets ++ listed)

/-- `_available_ticket_sequences()`, reading at most `pages` pages. -/
def availableTicketSequences (env : Env) (pages : Nat) (account : String) : SignerProg (List Int) :=
  availableTicketSequencesFrom env account pages .null [] []

/-! ## Section 3: The ticket of a payment -/

structure TicketSettings where
  inventoryTarget : Int
  bounded : 0 ≤ inventoryTarget ∧ inventoryTarget ≤ 250

/-- `"TicketSequence" in fields` and then `int(fields["TicketSequence"])` -/
def newTicket (env : Env) (fields : Json) : Except Exc (Option Int) :=
  let indices : Exc := typeError "indices must be integers or slices, not str"
  match fields with
  | .obj d =>
    match Dict.get? d "TicketSequence" with
    | some sequence => (toInt env.unicode sequence).map some
    | none => .ok none
  | .arr xs => if xs.contains (.str "TicketSequence") then .error indices else .ok none
  | .str s => if "TicketSequence".toList <:+: s.toList then .error indices else .ok none
  | _ => .error (typeError "argument is not a container or iterable")

/-- The sequence of the ticket that a transaction created, if this node is one. -/
def createdTicket (env : Env) (node : Json) : Except Exc (Option Int) :=
  match (node.asDict?.bind fun d => Dict.get? d "CreatedNode").getD (.obj []) with
  | .obj created =>
    if Dict.get created "LedgerEntryType" = .str "Ticket" then
      newTicket env ((Dict.get? created "NewFields").getD (.obj []))
    else .ok none
  | _ => .error ⟨.attributeError, "object has no attribute get"⟩

/-- `_ticket_sequences_from_metadata(meta)`; iterating over a dictionary or a
    string gives strings, which are no nodes. -/
def ticketSequencesFromMetadata (env : Env) (metadata : Json) : Except Exc (List Int) :=
  match metadata with
  | .obj d =>
    match (Dict.get? d "AffectedNodes").getD (.arr []) with
    | .arr nodes => (nodes.mapM (createdTicket env)).map fun created => created.filterMap id
    | .obj _ => .ok []
    | .str _ => .ok []
    | _ => .error (typeError "object is not iterable")
  | _ => .ok []

/-- `response.result.get("meta")` of a created batch. -/
def createdTickets (env : Env) (account : String) (missing : Int) : SignerProg (List Int) :=
  if 0 < missing then
    .call (.ticketCreate account missing) fun answer => do
      let result ← .ofExcept answer
      let metadata ← .ofExcept (getAttr result "meta")
      .ofExcept (ticketSequencesFromMetadata env metadata)
  else .ret []

def noTicket : Exc :=
  valueError "No available XRPL ticket; automatic ticket creation is disabled"

/-- `min(tickets)`, or why there is none. -/
def smallestTicket (settings : TicketSettings) (tickets : List Int) : Except Exc Int :=
  match tickets.min? with
  | some ticket => .ok ticket
  | none =>
    .error (if settings.inventoryTarget = 0 then noTicket
      else valueError "TicketCreate returned no tickets")

/-- `_available_ticket(network)` without a caller's own source of tickets. -/
def availableTicket (env : Env) (settings : TicketSettings) (pages : Nat) (account : String) :
    SignerProg Int := do
  let tickets ← availableTicketSequences env pages account
  let created ← createdTickets env account (settings.inventoryTarget - tickets.length)
  .ofExcept (smallestTicket settings (tickets ++ created))

/-! ## Section 4: What a sorted set holds -/

theorem mem_sortedSet {tickets : List Int} {ticket : Int} :
    ticket ∈ sortedSet tickets ↔ ticket ∈ tickets := by
  rw [sortedSet, List.mem_mergeSort, List.mem_dedup]

theorem sortedSet_sorted (tickets : List Int) : (sortedSet tickets).Pairwise (· < ·) := by
  have hsorted : (sortedSet tickets).Pairwise (· ≤ ·) := List.pairwise_mergeSort' (· ≤ ·) _
  have hnodup : (sortedSet tickets).Nodup :=
    (List.mergeSort_perm tickets.dedup _).nodup_iff.mpr (List.nodup_dedup tickets)
  exact (hsorted.and hnodup).imp fun h => lt_of_le_of_ne h.1 h.2

end XrplX402.Client
