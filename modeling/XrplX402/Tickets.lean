import XrplX402.Client.Tickets
import XrplX402.Core.WireAssets
import XrplX402.Facilitator.Verify
import XrplX402.Paging

/-! # The tickets that a signer lists and a facilitator accepts

    Both sides read the same paginated listing of a ledger server. The signer
    reads it to the end, the facilitator stops at the ticket it looks for.

    * `TicketServer`: a server as a function from markers to pages.
    * Each side's loop is `Listing.read` with a step of its own.
    * `ticket_pagination`: both end, and agree on every listing that ends. -/

namespace XrplX402

open Py Interaction Paging

/-! ## Section 1: A ledger server -/

/-- A server that answers each marker with a page. An object with a
    `TicketSequence` has an integer there, and only finitely many markers with
    distinct representations occur. -/
structure TicketServer (env : Env) where
  answer : Json → Json
  page : Json → Facilitator.Page
  pages : ∀ marker, Facilitator.objectsPage (answer marker) = .ok (page marker)
  sequences : ∀ marker, ∀ object ∈ (page marker).items, ∀ v,
    Client.ticketSequence? object = some v → ∃ n, v = .int n
  finite : {marker | ∃ m, (page m).marker = marker}.Finite
  distinct : Set.InjOn (repr env.unicode) {marker | ∃ m, (page m).marker = marker}

namespace TicketServer

variable {env : Env} (server : TicketServer env)

def listing : Listing Json (List Json) where
  items marker := (server.page marker).items
  next marker := if (server.page marker).marker = .null then none else some (server.page marker).marker

/-- The ticket sequences on one page. -/
def listed (objects : List Json) : List Int :=
  objects.filterMap fun object => (Client.ticketSequence? object).bind Json.asInt?

/-- The ticket sequences on the pages of a chain. -/
def ticketsOn (markers : List Json) : List Int :=
  markers.flatMap fun marker => listed (server.page marker).items

/-- What the facilitator gets from the server. -/
def Answers : (o : Facilitator.Op) → Facilitator.Ret o → Prop
  | .rpc (.accountObjects _ marker), r => r = .ok (server.answer marker)
  | _, _ => True

/-- What the signer gets from the server. -/
def SignerAnswers : (o : Client.Op) → Client.Ret o → Prop
  | .accountObjects _ marker, r => r = .ok (server.answer marker)
  | _, _ => True

variable {server}

theorem markers_subset : server.listing.markers ⊆ {marker | ∃ m, (server.page m).marker = marker} := by
  rintro marker ⟨m, hm⟩
  refine ⟨m, ?_⟩
  by_cases hnull : (server.page m).marker = .null
  · rw [listing] at hm
    dsimp only at hm
    rw [if_pos hnull] at hm
    cases hm
  · rw [listing] at hm
    dsimp only at hm
    rw [if_neg hnull] at hm
    exact Option.some.inj hm

theorem ticketPage_of_objectsPage {result : Json} {page : Facilitator.Page}
    (h : Facilitator.objectsPage result = .ok page) :
    Client.ticketPage result = .ok ⟨page.items, page.marker⟩ := by
  cases result with
  | obj d =>
    unfold Facilitator.objectsPage at h
    unfold Client.ticketPage
    dsimp only at h ⊢
    cases hobjects : (Dict.get? d "account_objects").getD (.arr []) with
    | arr objects =>
      rw [hobjects] at h
      rw [← Except.ok.inj h]
    | _ =>
      rw [hobjects] at h
      cases h
  | _ => cases h

theorem ticketSequences_of_integers {objects : List Json}
    (h : ∀ object ∈ objects, ∀ v, Client.ticketSequence? object = some v → ∃ n, v = .int n) :
    Client.ticketSequences env objects = .ok (listed objects) := by
  induction objects with
  | nil => rfl
  | cons object objects ih =>
    have hrest := ih fun o ho => h o (List.mem_cons_of_mem _ ho)
    unfold Client.ticketSequences listed at hrest ⊢
    cases hobject : Client.ticketSequence? object with
    | none =>
      rw [List.filterMap_cons_none hobject, List.filterMap_cons_none (by rw [hobject]; rfl)]
      exact hrest
    | some v =>
      obtain ⟨n, rfl⟩ := h object List.mem_cons_self v hobject
      rw [List.filterMap_cons_some hobject,
        List.filterMap_cons_some (b := n) (by rw [hobject]; rfl), List.mapM_cons, hrest]
      rfl

theorem isTicket_iff {ticket : Int} {object : Json} :
    Facilitator.isTicket ticket object = true ↔
      ∃ v, Client.ticketSequence? object = some v ∧ v.pyEq (.int ticket) = true := by
  unfold Facilitator.isTicket Client.ticketSequence?
  cases object with
  | obj d =>
    dsimp only [Json.asDict?, Option.any_some, Option.bind_some]
    rw [Dict.get]
    cases Dict.get? d "TicketSequence" with
    | none => simp [Json.pyEq, Json.canon]
    | some v => simp
  | _ => simp [Json.asDict?]

theorem any_isTicket {objects : List Json} {ticket : Int}
    (h : ∀ object ∈ objects, ∀ v, Client.ticketSequence? object = some v → ∃ n, v = .int n) :
    objects.any (Facilitator.isTicket ticket) = decide (ticket ∈ listed objects) := by
  rw [Bool.eq_iff_iff, List.any_eq_true, decide_eq_true_eq, listed, List.mem_filterMap]
  apply exists_congr
  intro object
  apply and_congr_right
  intro hobject
  rw [isTicket_iff]
  constructor
  · rintro ⟨v, hv, heq⟩
    obtain ⟨n, rfl⟩ := h object hobject v hv
    have hn : n = ticket := by simpa [Json.pyEq] using heq
    rw [hv, hn]
    rfl
  · intro hbind
    obtain ⟨v, hv, hint⟩ := Option.bind_eq_some_iff.mp hbind
    obtain ⟨n, rfl⟩ := h object hobject v hv
    exact ⟨_, hv, by rw [Option.some.inj hint]; simp [Json.pyEq]⟩

/-! ## Section 2: Both sides read the listing -/

/-- The facilitator answers at the first page with the ticket. -/
def findTicket (ticket : Int) (_ : Unit) (objects : List Json) :
    Except Facilitator.FacilitatorExc (Bool ⊕ Unit) :=
  if objects.any (Facilitator.isTicket ticket) then .ok (.inl true) else .ok (.inr ())

/-- The signer collects the tickets of all pages. -/
def collectTickets (env : Env) (tickets : List Int) (objects : List Json) :
    Except Exc (List Int ⊕ List Int) :=
  (Client.ticketSequences env objects).map fun listed => .inr (tickets ++ listed)

def facilitatorRepeated : Facilitator.FacilitatorExc :=
  .other (runtimeError "AccountObjects returned a repeated pagination marker")

variable {account : String} {pages : Nat} {marker : Json} {seen : List String}

theorem ticketIsAvailableFrom_read {ticket : Int} {r : Except Facilitator.FacilitatorExc Bool}
    (h : server.listing.read (repr env.unicode) (findTicket ticket) (fun _ => .ok false)
      facilitatorRepeated pages marker seen () = some r) :
    (Facilitator.ticketIsAvailableFrom env account ticket pages marker seen).Total server.Answers
      (· = r) := by
  induction pages generalizing marker seen with
  | zero => cases h
  | succ pages ih =>
    unfold Facilitator.ticketIsAvailableFrom
    rw [Facilitator.request, Prog.call_bind, Prog.total_call]
    intro answer hanswer
    obtain rfl : answer = .ok (server.answer marker) := hanswer
    rw [Facilitator.lift, Facilitator.uncaught, Prog.ofExcept_ok, Prog.ret_bind, server.pages,
      Facilitator.lift, Facilitator.uncaught, Prog.ofExcept_ok, Prog.ret_bind]
    rw [Listing.read, findTicket] at h
    by_cases hfound : (server.page marker).items.any (Facilitator.isTicket ticket) = true
    · rw [if_pos hfound]
      have hfound' : (server.listing.items marker).any (Facilitator.isTicket ticket) = true := hfound
      rw [if_pos hfound'] at h
      exact Option.some.inj h
    · rw [if_neg hfound]
      have hfound' : ¬ (server.listing.items marker).any (Facilitator.isTicket ticket) = true := hfound
      rw [if_neg hfound'] at h
      by_cases hnull : (server.page marker).marker = .null
      · rw [if_pos hnull]
        rw [show server.listing.next marker = none from if_pos hnull] at h
        exact Option.some.inj h
      · rw [if_neg hnull]
        rw [show server.listing.next marker = some (server.page marker).marker from if_neg hnull] at h
        dsimp only at h
        rw [Facilitator.markerKey]
        by_cases hseen : repr env.unicode (server.page marker).marker ∈ seen
        · rw [if_pos hseen] at h ⊢
          exact Option.some.inj h
        · rw [if_neg hseen] at h ⊢
          exact ih h

theorem availableTicketSequencesFrom_read {tickets : List Int} {r : Except Exc (List Int)}
    (h : server.listing.read (repr env.unicode) (collectTickets env)
      (fun tickets => .ok (Client.sortedSet tickets)) Client.repeatedMarker pages marker seen tickets =
        some r) :
    (Client.availableTicketSequencesFrom env account pages marker seen tickets).Total
      server.SignerAnswers (· = r) := by
  induction pages generalizing marker seen tickets with
  | zero => cases h
  | succ pages ih =>
    unfold Client.availableTicketSequencesFrom
    rw [Prog.total_call]
    intro answer hanswer
    obtain rfl : answer = .ok (server.answer marker) := hanswer
    rw [Prog.ofExcept_ok, Prog.ret_bind, ticketPage_of_objectsPage (server.pages marker),
      Prog.ofExcept_ok, Prog.ret_bind]
    have hlisted : Client.ticketSequences env (server.page marker).items =
      .ok (listed (server.page marker).items) := ticketSequences_of_integers (server.sequences marker)
    have hlisted' : Client.ticketSequences env (server.listing.items marker) =
      .ok (listed (server.page marker).items) := hlisted
    rw [hlisted, Prog.ofExcept_ok, Prog.ret_bind]
    rw [Listing.read, collectTickets, hlisted'] at h
    dsimp only [Except.map] at h
    by_cases hnull : (server.page marker).marker = .null
    · rw [if_pos hnull]
      rw [show server.listing.next marker = none from if_pos hnull] at h
      exact Option.some.inj h
    · rw [if_neg hnull]
      rw [show server.listing.next marker = some (server.page marker).marker from if_neg hnull] at h
      dsimp only at h
      rw [Client.markerKey]
      by_cases hseen : repr env.unicode (server.page marker).marker ∈ seen
      · rw [if_pos hseen] at h ⊢
        exact Option.some.inj h
      · rw [if_neg hseen] at h ⊢
        exact ih h

/-! ## Section 3: What they make of a chain -/

theorem readAll_findTicket {ticket : Int} (rest : Unit → Except Facilitator.FacilitatorExc Bool)
    (markers : List Json) :
    Listing.readAll (findTicket ticket) rest () (markers.map server.listing.items) =
      if ticket ∈ server.ticketsOn markers then .ok true else rest () := by
  induction markers with
  | nil => rfl
  | cons marker markers ih =>
    have hany : (server.listing.items marker).any (Facilitator.isTicket ticket) =
      decide (ticket ∈ listed (server.page marker).items) := any_isTicket (server.sequences marker)
    rw [List.map_cons, Listing.readAll, findTicket, hany, ticketsOn, List.flatMap_cons]
    by_cases hfound : ticket ∈ listed (server.page marker).items
    · rw [if_pos (decide_eq_true hfound), if_pos (List.mem_append_left _ hfound)]
    · rw [if_neg (by simpa using hfound)]
      dsimp only
      rw [ih, ticketsOn]
      simp only [List.mem_append, hfound, false_or]

theorem readAll_collectTickets (rest : List Int → Except Exc (List Int)) (markers : List Json)
    (tickets : List Int) :
    Listing.readAll (collectTickets env) rest tickets (markers.map server.listing.items) =
      rest (tickets ++ server.ticketsOn markers) := by
  induction markers generalizing tickets with
  | nil =>
    show rest tickets = rest (tickets ++ [])
    rw [List.append_nil]
  | cons marker markers ih =>
    have hlisted : Client.ticketSequences env (server.listing.items marker) =
      .ok (listed (server.page marker).items) := ticketSequences_of_integers (server.sequences marker)
    rw [List.map_cons, Listing.readAll, collectTickets, hlisted]
    dsimp only [Except.map]
    rw [ih, ticketsOn, ticketsOn, List.flatMap_cons, List.append_assoc]

section Chain

variable {markers : List Json}

theorem distinct_markers (server : TicketServer env) :
    Set.InjOn (repr env.unicode) server.listing.markers := server.distinct.mono markers_subset

theorem availableTicketSequences_of_ends (hends : server.listing.Ends .null markers)
    (hpages : markers.length < pages) :
    (Client.availableTicketSequences env pages account).Total server.SignerAnswers
      (· = .ok (Client.sortedSet (server.ticketsOn (.null :: markers)))) := by
  apply availableTicketSequencesFrom_read
  rw [Listing.read_of_ends (distinct_markers server) hends hpages, readAll_collectTickets]
  rfl

theorem ticketIsAvailable_of_ends (hends : server.listing.Ends .null markers)
    (hpages : markers.length < pages) (ticket : Int) :
    (Facilitator.ticketIsAvailable env pages account ticket).Total server.Answers
      (· = .ok (decide (ticket ∈ server.ticketsOn (.null :: markers)))) := by
  apply ticketIsAvailableFrom_read
  rw [Listing.read_of_ends (distinct_markers server) hends hpages, readAll_findTicket]
  by_cases hlisted : ticket ∈ server.ticketsOn (.null :: markers)
  · rw [if_pos hlisted, decide_eq_true hlisted]
  · rw [if_neg hlisted, decide_eq_false hlisted]

theorem availableTicketSequences_of_repeats (hrepeats : server.listing.Repeats .null markers)
    (hpages : markers.length < pages) :
    (Client.availableTicketSequences env pages account).Total server.SignerAnswers
      (· = .error Client.repeatedMarker) := by
  apply availableTicketSequencesFrom_read
  rw [Listing.read_of_repeats (distinct_markers server) hrepeats hpages, readAll_collectTickets]

theorem ticketIsAvailable_of_repeats (hrepeats : server.listing.Repeats .null markers)
    (hpages : markers.length < pages) (ticket : Int) :
    (Facilitator.ticketIsAvailable env pages account ticket).Total server.Answers
      (· = if ticket ∈ server.ticketsOn (.null :: markers) then .ok true
        else .error facilitatorRepeated) := by
  apply ticketIsAvailableFrom_read
  rw [Listing.read_of_repeats (distinct_markers server) hrepeats hpages, readAll_findTicket]

/-- A signer that creates no tickets picks one that the facilitator accepts. -/
theorem availableTicket_is_available {settings : Client.TicketSettings}
    (hends : server.listing.Ends .null markers) (hpages : markers.length < pages)
    (hnone : settings.inventoryTarget = 0) :
    (Client.availableTicket env settings pages account).Total server.SignerAnswers fun r =>
      ∀ ticket, r = .ok ticket →
        (Facilitator.ticketIsAvailable env pages account ticket).Total server.Answers
          (· = .ok true) := by
  apply (availableTicketSequences_of_ends hends hpages).bind
  · intro tickets htickets
    obtain rfl := Except.ok.inj htickets
    rw [Client.createdTickets, if_neg (by omega), Prog.ret_bind, List.append_nil,
      Prog.total_ofExcept]
    intro ticket hticket
    rw [Client.smallestTicket] at hticket
    cases hmin : (Client.sortedSet (server.ticketsOn (.null :: markers))).min? with
    | none =>
      rw [hmin] at hticket
      cases hticket
    | some smallest =>
      rw [hmin] at hticket
      obtain rfl := Except.ok.inj hticket
      have hlisted := Client.mem_sortedSet.mp (List.min?_mem hmin)
      rw [← decide_eq_true hlisted]
      exact ticketIsAvailable_of_ends hends hpages smallest
  · intro e he
    cases he

end Chain

/-- Both loops end on every server. On a listing that ends the signer gets the
    sorted tickets of all pages, and the facilitator accepts exactly those; on
    one that leads in circles the signer raises, and the facilitator does unless
    a page before lists the ticket. -/
theorem ticket_pagination (server : TicketServer env) (account : String) :
    ((∃ markers, server.listing.Ends .null markers) ∨
      ∃ markers, server.listing.Repeats .null markers) ∧
    (∀ markers, server.listing.Ends .null markers →
      ∃ tickets : List Int, tickets.Pairwise (· < ·) ∧
        (∀ ticket, ticket ∈ tickets ↔ ticket ∈ server.ticketsOn (.null :: markers)) ∧
        ∀ pages, markers.length < pages →
          (Client.availableTicketSequences env pages account).Total server.SignerAnswers
            (· = .ok tickets) ∧
          ∀ ticket, (Facilitator.ticketIsAvailable env pages account ticket).Total server.Answers
            (· = .ok (decide (ticket ∈ tickets)))) ∧
    ∀ markers, server.listing.Repeats .null markers → ∀ pages, markers.length < pages →
      (Client.availableTicketSequences env pages account).Total server.SignerAnswers
        (· = .error Client.repeatedMarker) ∧
      ∀ ticket, (Facilitator.ticketIsAvailable env pages account ticket).Total server.Answers
        (· = if ticket ∈ server.ticketsOn (.null :: markers) then .ok true
          else .error facilitatorRepeated) := by
  refine ⟨Listing.ends_or_repeats (server.finite.subset markers_subset) .null, ?_, ?_⟩
  · intro markers hends
    refine ⟨Client.sortedSet (server.ticketsOn (.null :: markers)), Client.sortedSet_sorted _,
      fun ticket => Client.mem_sortedSet, fun pages hpages => ⟨?_, fun ticket => ?_⟩⟩
    · exact availableTicketSequences_of_ends hends hpages
    · rw [decide_eq_decide.mpr Client.mem_sortedSet]
      exact ticketIsAvailable_of_ends hends hpages ticket
  · intro markers hrepeats pages hpages
    constructor
    · exact availableTicketSequences_of_repeats hrepeats hpages
    · intro ticket
      exact ticketIsAvailable_of_repeats hrepeats hpages ticket

end TicketServer

namespace Sample

def ticketObject (sequence : Int) : Json := .obj [("TicketSequence", .int sequence)]

/-- An empty page, and one with ticket 55. -/
def twoPages (marker : Json) : Facilitator.Page :=
  if marker = .null then ⟨[], .str "next"⟩ else ⟨[ticketObject 55], .null⟩

theorem twoPages_marker {marker : Json} (h : ∃ m, (twoPages m).marker = marker) :
    marker = .str "next" ∨ marker = .null := by
  obtain ⟨m, rfl⟩ := h
  rw [twoPages]
  split
  · exact .inl rfl
  · exact .inr rfl

def ticketServer : TicketServer shapeEnv where
  answer marker :=
    .obj [("account_objects", .arr (twoPages marker).items), ("marker", (twoPages marker).marker)]
  page := twoPages
  pages marker := rfl
  sequences := by
    intro marker object hobject v hv
    rw [twoPages] at hobject
    split at hobject
    · cases hobject
    · obtain rfl := List.mem_singleton.mp hobject
      exact ⟨55, (Option.some.inj hv).symm⟩
  finite := by
    apply (Set.toFinite {Json.str "next", Json.null}).subset
    intro marker hmarker
    exact twoPages_marker hmarker
  distinct := by
    intro marker hmarker marker' hmarker' heq
    rcases twoPages_marker hmarker with rfl | rfl <;> rcases twoPages_marker hmarker' with rfl | rfl
    · rfl
    · exact absurd heq (by decide)
    · exact absurd heq (by decide)
    · rfl

end Sample

/-- Both sides read both pages: the signer gets ticket 55, and the facilitator
    accepts no other. -/
theorem ticket_pagination_twoPages : ∃ tickets : List Int, (∀ ticket, ticket ∈ tickets ↔ ticket = 55) ∧
    (Client.availableTicketSequences Sample.shapeEnv 2 "rPayer").Total Sample.ticketServer.SignerAnswers
      (· = .ok tickets) ∧
    (Facilitator.ticketIsAvailable Sample.shapeEnv 2 "rPayer" 55).Total Sample.ticketServer.Answers (· = .ok true) ∧
    (Facilitator.ticketIsAvailable Sample.shapeEnv 2 "rPayer" 54).Total Sample.ticketServer.Answers
      (· = .ok false) := by
  have hends : Sample.ticketServer.listing.Ends .null [.str "next"] := ⟨⟨rfl, trivial⟩, rfl⟩
  have htickets : Sample.ticketServer.ticketsOn [.null, .str "next"] = [55] := rfl
  obtain ⟨-, hlisted, -⟩ := TicketServer.ticket_pagination Sample.ticketServer "rPayer"
  obtain ⟨tickets, -, hmem, hboth⟩ := hlisted [.str "next"] hends
  obtain ⟨hsigner, haccepts⟩ := hboth 2 (by decide)
  have honly : ∀ ticket, ticket ∈ tickets ↔ ticket = 55 := by
    intro ticket
    rw [hmem, htickets, List.mem_singleton]
  refine ⟨tickets, honly, hsigner, ?_, ?_⟩
  · have hgiven := haccepts 55
    rwa [decide_eq_true ((honly 55).mpr rfl)] at hgiven
  · have hgiven := haccepts 54
    rwa [decide_eq_false fun h => absurd ((honly 54).mp h) (by decide)] at hgiven

end XrplX402
