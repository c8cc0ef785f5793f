import XrplX402.Core.WireAssets
import XrplX402.Devtools.RlusdFund
import XrplX402.Interaction.Sessions

/-! # Journaled funding

    Any number of runs of the funding command on one state file, one after the
    other; each may be cut off, and ledgers close at any time.

    * **World**: the state file and the validated ledgers, and which answers of a
      node are consistent with them.
    * **Discipline**: every journaled transaction is resolved, or it is the one
      that the state file holds.
    * **Programs**: each function keeps the discipline.
    * **Safety**: no transaction is signed over an unresolved one. -/

namespace XrplX402.Devtools

open Py Interaction

/-! ## Section 1: The world -/

/-- The state file, and the transactions of the validated ledgers, oldest first. -/
structure FundingWorld where
  file : Option RlusdFundingState
  ledgers : List (List String)

namespace FundingWorld

def validatedIndex (s : FundingWorld) : Int := s.ledgers.length - 1

/-- The transactions of a ledger. -/
def ledger (s : FundingWorld) (n : Int) : List String :=
  if 0 ≤ n then s.ledgers.getD n.toNat [] else []

/-- A validated ledger holds the transaction. -/
def Holds (s : FundingWorld) (txHash : String) : Prop :=
  ∃ transactions ∈ s.ledgers, txHash ∈ transactions

/-- A validated ledger of the range holds it. -/
def HoldsIn (s : FundingWorld) (minLedger maxLedger : Int) (txHash : String) : Prop :=
  ∃ n < s.ledgers.length, minLedger ≤ n ∧ n ≤ maxLedger ∧ txHash ∈ s.ledger n

instance (s : FundingWorld) (txHash : String) : Decidable (s.Holds txHash) :=
  inferInstanceAs (Decidable (∃ transactions ∈ s.ledgers, txHash ∈ transactions))

instance (s : FundingWorld) (minLedger maxLedger : Int) (txHash : String) :
    Decidable (s.HoldsIn minLedger maxLedger txHash) :=
  inferInstanceAs (Decidable (∃ n < s.ledgers.length,
    minLedger ≤ n ∧ n ≤ maxLedger ∧ txHash ∈ s.ledger n))

/-- The transaction that the state file holds. -/
def pending (s : FundingWorld) : Option PendingTransaction := s.file.bind (·.pendingTransaction)

/-- A transaction is on a validated ledger, or it can never be: all ledgers up to
    its `LastLedgerSequence` are validated, and none holds it. -/
def Resolved (s : FundingWorld) (p : PendingTransaction) : Prop :=
  s.Holds p.txHash ∨
    (p.lastLedgerSequence ≤ s.validatedIndex ∧ ∀ n ≤ p.lastLedgerSequence, p.txHash ∉ s.ledger n)

/-- An answer is consistent with the state file and the ledgers. -/
def consistent (env : FundingEnv) (s : FundingWorld) : (o : FundingOp) → FundingRet o → Bool
  | .readState, .ok found => found = s.file
  | .tx txHash minLedger maxLedger, .ok result =>
    (!isValidated result || s.Holds txHash) &&
      (!isAuthoritativelyAbsent result || !decide (s.HoldsIn minLedger maxLedger txHash))
  | .currentValidatedLedgerIndex, .ok n => n ≤ s.validatedIndex
  | .submitAndWait blob, .ok result => !isValidated result || s.Holds (env.hashOf blob)
  | .sign prepared, .ok signed =>
    signed.txHash = env.hashOf signed.txBlob &&
      prepared.lastLedgerSequence = some signed.lastLedgerSequence
  | _, _ => true

/-- Only a replacement changes the file. -/
def after (s : FundingWorld) : (o : FundingOp) → FundingRet o → FundingWorld
  | .replace state, .ok _ => { s with file := some state }
  | _, _ => s

/-- A ledger closes. -/
def happens (s : FundingWorld) (transactions : List String) : Option FundingWorld :=
  some { s with ledgers := s.ledgers ++ [transactions] }

end FundingWorld

def fundingWorld (env : FundingEnv) : World FundingOp FundingRet FundingWorld where
  exec s o r := if s.consistent env o r then some (s.after o r) else none

abbrev FundingHistory := History FundingOp FundingRet FundingWorld

/-- The runs of the command on one state file. -/
abbrev FundingSessions (env : FundingEnv) (ledgers : List (List String)) :
    FundingHistory → Option (FundingProg FundingResult) → Prop :=
  Sessions (fundingWorld env) FundingWorld.happens (fun p => ∃ run, p = fundRlusdWallet env run)
    ⟨none, ledgers⟩

/-! ## Section 2: What persists -/

/-- The transaction was in the state file. -/
def Journaled (log : List (Event FundingOp FundingRet)) (p : PendingTransaction) : Prop :=
  ∃ state, ⟨.replace state, .ok ()⟩ ∈ log ∧ state.pendingTransaction = some p

/-- The transaction is one that was signed. -/
def WasSigned (log : List (Event FundingOp FundingRet)) (p : PendingTransaction) : Prop :=
  ∃ prepared signed, ⟨.sign prepared, .ok signed⟩ ∈ log ∧ p.txHash = signed.txHash ∧
    p.signedTxBlob = signed.txBlob ∧ p.lastLedgerSequence = signed.lastLedgerSequence

/-- The file is the same, ledgers have closed, and more was performed. -/
structure Later (m m' : FundingHistory) : Prop where
  file : m'.shared.file = m.shared.file
  ledgers : m.shared.ledgers <+: m'.shared.ledgers
  log : m.log <:+ m'.log

def Persists (A : FundingHistory → Prop) : Prop := ∀ {m m'}, Later m m' → A m → A m'

section Persists

variable {m m' : FundingHistory} {p : PendingTransaction}

theorem later_event {t : FundingWorld} {transactions : List String}
    (h : m.shared.happens transactions = some t) : Later m ⟨t, m.log⟩ := by
  obtain rfl := Option.some.inj h
  exact ⟨rfl, List.prefix_append _ _, List.suffix_refl _⟩

theorem Persists.steady {A : FundingHistory → Prop} (hA : Persists A) :
    Steady FundingWorld.happens A := fun h hm => hA (later_event h) hm

theorem Persists.and {A B : FundingHistory → Prop} (hA : Persists A) (hB : Persists B) :
    Persists fun m => A m ∧ B m := fun h hm => ⟨hA h hm.1, hB h hm.2⟩

theorem persists_pure (P : Prop) : Persists fun _ => P := fun _ hm => hm

theorem Later.pending (h : Later m m') : m'.shared.pending = m.shared.pending := by
  rw [FundingWorld.pending, h.file, FundingWorld.pending]

theorem Later.holds (h : Later m m') {txHash : String} (hm : m.shared.Holds txHash) :
    m'.shared.Holds txHash := by
  obtain ⟨transactions, hin, htx⟩ := hm
  exact ⟨transactions, h.ledgers.subset hin, htx⟩

theorem Later.validatedIndex (h : Later m m') : m.shared.validatedIndex ≤ m'.shared.validatedIndex := by
  have hlength := h.ledgers.length_le
  unfold FundingWorld.validatedIndex
  omega

/-- A validated ledger does not change. -/
theorem Later.ledger (h : Later m m') {n : Int} (hn : n ≤ m.shared.validatedIndex) :
    m'.shared.ledger n = m.shared.ledger n := by
  obtain ⟨newer, hnewer⟩ := h.ledgers
  unfold FundingWorld.validatedIndex at hn
  unfold FundingWorld.ledger
  by_cases hpos : 0 ≤ n
  · rw [if_pos hpos, if_pos hpos, ← hnewer, List.getD_eq_getElem?_getD, List.getD_eq_getElem?_getD,
      List.getElem?_append_left (by omega)]
  · rw [if_neg hpos, if_neg hpos]

theorem Later.resolved (h : Later m m') (hm : m.shared.Resolved p) : m'.shared.Resolved p := by
  rcases hm with hholds | ⟨hreached, habsent⟩
  · exact .inl (h.holds hholds)
  · refine .inr ⟨le_trans hreached h.validatedIndex, fun n hn => ?_⟩
    rw [h.ledger (le_trans hn hreached)]
    exact habsent n hn

theorem Later.journaled (h : Later m m') (hm : Journaled m.log p) : Journaled m'.log p := by
  obtain ⟨state, hin, hp⟩ := hm
  exact ⟨state, h.log.subset hin, hp⟩

theorem Later.wasSigned (h : Later m m') (hm : WasSigned m.log p) : WasSigned m'.log p := by
  obtain ⟨prepared, signed, hin, hp⟩ := hm
  exact ⟨prepared, signed, h.log.subset hin, hp⟩

/-- A transaction of a ledger is held. -/
theorem FundingWorld.holds_of_mem_ledger {s : FundingWorld} {txHash : String} {n : Int}
    (h : txHash ∈ s.ledger n) : s.Holds txHash := by
  unfold FundingWorld.ledger at h
  split at h
  · rw [List.getD_eq_getElem?_getD] at h
    cases hn : s.ledgers[n.toNat]? with
    | none =>
      rw [hn] at h
      cases h
    | some transactions =>
      rw [hn] at h
      exact ⟨transactions, List.mem_of_getElem? hn, h⟩
  · cases h

/-- A transaction whose `LastLedgerSequence` is validated is resolved. -/
theorem FundingWorld.resolved_of_reached {s : FundingWorld} {p : PendingTransaction}
    (h : p.lastLedgerSequence ≤ s.validatedIndex) : s.Resolved p := by
  by_cases hholds : s.Holds p.txHash
  · exact .inl hholds
  · exact .inr ⟨h, fun n _ hmem => hholds (FundingWorld.holds_of_mem_ledger hmem)⟩

end Persists

/-! ## Section 3: The discipline -/

variable {env : FundingEnv}

structure FundingInvariant (env : FundingEnv) (m : FundingHistory) : Prop where
  /-- Every journaled transaction is resolved, or the state file holds it. -/
  resolved : ∀ p, Journaled m.log p → m.shared.Resolved p ∨ m.shared.pending = some p
  journaled : ∀ p, m.shared.pending = some p → Journaled m.log p
  signed : ∀ p, Journaled m.log p → WasSigned m.log p ∧ p.txHash = env.hashOf p.signedTxBlob

/-- A state may replace the file: the transaction in the file is kept, or it is
    resolved; and a new one was signed. -/
def MayReplace (env : FundingEnv) (state : RlusdFundingState) (m : FundingHistory) : Prop :=
  (∀ p, m.shared.pending = some p → state.pendingTransaction = some p ∨ m.shared.Resolved p) ∧
    ∀ p, state.pendingTransaction = some p →
      WasSigned m.log p ∧ p.txHash = env.hashOf p.signedTxBlob

def mayPerform (env : FundingEnv) (m : FundingHistory) : FundingOp → Prop
  | .sign _ => m.shared.pending = none
  | .submitAndWait blob => ∃ p, m.shared.pending = some p ∧ p.signedTxBlob = blob
  | .replace state => MayReplace env state m
  | _ => True

theorem FundingInvariant.later {m m' : FundingHistory} (h : FundingInvariant env m)
    (hlater : Later m m')
    (hjournaled : ∀ p, Journaled m'.log p → Journaled m.log p) : FundingInvariant env m' := by
  refine ⟨fun p hp => ?_, fun p hp => ?_, fun p hp => ?_⟩
  · rw [hlater.pending]
    exact (h.resolved p (hjournaled p hp)).imp_left hlater.resolved
  · rw [hlater.pending] at hp
    exact hlater.journaled (h.journaled p hp)
  · obtain ⟨hsigned, hhash⟩ := h.signed p (hjournaled p hp)
    exact ⟨hlater.wasSigned hsigned, hhash⟩

/-- Everything but a replacement leaves the world. -/
theorem exec_of_other {s t : FundingWorld} {o : FundingOp} {r : FundingRet o}
    (h : (fundingWorld env).exec s o r = some t)
    (ho : ∀ state, (⟨o, r⟩ : Event FundingOp FundingRet) ≠ ⟨.replace state, .ok ()⟩) :
    s.consistent env o r = true ∧ t = s := by
  obtain ⟨hconsistent, ht⟩ := Option.ite_none_right_eq_some.mp h
  refine ⟨hconsistent, (Option.some.inj ht).symm.trans ?_⟩
  unfold FundingWorld.after
  split
  · next state u => exact absurd rfl (ho state)
  · rfl

theorem later_push {m : FundingHistory} {o : FundingOp} {r : FundingRet o} {t : FundingWorld}
    (h : (fundingWorld env).exec m.shared o r = some t)
    (ho : ∀ state, (⟨o, r⟩ : Event FundingOp FundingRet) ≠ ⟨.replace state, .ok ()⟩) :
    Later m (m.push o r t) ∧ ∀ p, Journaled (m.push o r t).log p → Journaled m.log p := by
  obtain ⟨-, rfl⟩ := exec_of_other h ho
  refine ⟨⟨rfl, List.prefix_refl _, List.suffix_cons _ _⟩, fun p hp => ?_⟩
  obtain ⟨state, hin, hstate⟩ := hp
  rcases List.mem_cons.mp hin with heq | hin
  · exact absurd heq.symm (ho state)
  · exact ⟨state, hin, hstate⟩

/-- The file is replaced as it may be. -/
theorem FundingInvariant.replace {m : FundingHistory} {state : RlusdFundingState}
    (h : FundingInvariant env m) (hmay : MayReplace env state m) :
    FundingInvariant env (m.push (.replace state) (.ok ()) { m.shared with file := some state }) := by
  have hsigned : ∀ p, WasSigned m.log p →
      WasSigned (m.push (.replace state) (.ok ()) { m.shared with file := some state }).log p := by
    rintro p ⟨prepared, signed, hin, hp⟩
    exact ⟨prepared, signed, List.mem_cons_of_mem _ hin, hp⟩
  have hcases : ∀ p,
      Journaled (m.push (.replace state) (.ok ()) { m.shared with file := some state }).log p →
        state.pendingTransaction = some p ∨ Journaled m.log p := by
    rintro p ⟨journal, hin, hp⟩
    rcases List.mem_cons.mp hin with heq | hin
    · obtain rfl : journal = state := by
        have hop := congrArg Event.op heq
        exact FundingOp.replace.inj hop
      exact .inl hp
    · exact .inr ⟨journal, hin, hp⟩
  refine ⟨fun p hp => ?_, fun p hp => ?_, fun p hp => ?_⟩
  · rcases hcases p hp with hnew | hold
    · exact .inr hnew
    · rcases h.resolved p hold with hresolved | hpending
      · exact .inl hresolved
      · exact (hmay.1 p hpending).symm
  · exact ⟨state, List.mem_cons_self, hp⟩
  · rcases hcases p hp with hnew | hold
    · obtain ⟨hwas, hhash⟩ := hmay.2 p hnew
      exact ⟨hsigned p hwas, hhash⟩
    · obtain ⟨hwas, hhash⟩ := h.signed p hold
      exact ⟨hsigned p hwas, hhash⟩

def fundingDiscipline (env : FundingEnv) : Discipline (fundingWorld env) FundingWorld.happens where
  inv := FundingInvariant env
  pre := mayPerform env
  step := by
    intro m o r t hinv hpre hx
    by_cases ho : ∃ state, (⟨o, r⟩ : Event FundingOp FundingRet) = ⟨.replace state, .ok ()⟩
    · obtain ⟨state, heq⟩ := ho
      cases heq
      obtain rfl : { m.shared with file := some state } = t := Option.some.inj hx
      exact hinv.replace hpre
    · obtain ⟨hlater, hjournaled⟩ := later_push hx fun state heq => ho ⟨state, heq⟩
      exact hinv.later hlater hjournaled
  event := by
    intro m transactions t hinv hx
    exact hinv.later (later_event hx) fun p hp => hp

/-! ## Section 4: Rules for the programs -/

/-- What an answer says, for good. -/
def Learned (env : FundingEnv) : (o : FundingOp) → FundingRet o → FundingHistory → Prop
  | .readState, .ok found, m => m.shared.file = found
  | .tx txHash _ _, .ok result, m => isValidated result = true → m.shared.Holds txHash
  | .currentValidatedLedgerIndex, .ok n, m => n ≤ m.shared.validatedIndex
  | .submitAndWait blob, .ok result, m => isValidated result = true → m.shared.Holds (env.hashOf blob)
  | .sign prepared, .ok signed, m =>
    ⟨.sign prepared, .ok signed⟩ ∈ m.log ∧ signed.txHash = env.hashOf signed.txBlob
  | _, _, _ => True

/-- The state of a run is that of the file. -/
def InSync (state : RlusdFundingState) (m : FundingHistory) : Prop :=
  m.shared.pending = state.pendingTransaction

/-- A part of a run that returns leaves its state in the file. -/
abbrev Leaves {α : Type} (f : α → RlusdFundingState) : Except FundingExc α → FundingHistory → Prop :=
  Discipline.Ends (fun a => InSync (f a)) fun _ _ => True

theorem persists_inSync (state : RlusdFundingState) : Persists (InSync state) :=
  fun h hm => h.pending.trans hm

theorem persists_mayReplace (state : RlusdFundingState) : Persists (MayReplace env state) := by
  intro m m' h hm
  constructor
  · intro p hp
    rw [h.pending] at hp
    exact (hm.1 p hp).imp_right h.resolved
  · intro p hp
    obtain ⟨hsigned, hhash⟩ := hm.2 p hp
    exact ⟨h.wasSigned hsigned, hhash⟩

variable {α β : Type} {A : FundingHistory → Prop} {Q : Except FundingExc α → FundingHistory → Prop}

/-- An operation other than a replacement, with what its answer says. -/
theorem triple_ask {o : FundingOp} {k : FundingRet o → FundingProg α} (hA : Persists A)
    (ho : ∀ state, o ≠ .replace state)
    (hpre : ∀ m, FundingInvariant env m → A m → mayPerform env m o)
    (hk : ∀ r, (fundingDiscipline env).Triple (fun m => A m ∧ Learned env o r m) (k r) Q) :
    (fundingDiscipline env).Triple A (.call o k) Q := by
  refine Discipline.Triple.call hA.steady hpre ?_ hk
  intro m r t _ hm hx
  have hreplace : ∀ state, (⟨o, r⟩ : Event FundingOp FundingRet) ≠ ⟨.replace state, .ok ()⟩ :=
    fun state heq => ho state (congrArg Event.op heq)
  obtain ⟨hlater, -⟩ := later_push hx hreplace
  refine ⟨hA hlater hm, ?_⟩
  obtain ⟨hconsistent, rfl⟩ := exec_of_other hx hreplace
  cases o with
  | replace state => exact absurd rfl (ho state)
  | readState =>
    cases r with
    | error e => trivial
    | ok found =>
      have hfound : found = m.shared.file := by simpa [FundingWorld.consistent] using hconsistent
      exact hfound.symm
  | tx txHash minLedger maxLedger =>
    cases r with
    | error e => trivial
    | ok result =>
      intro hvalidated
      have hboth := Bool.and_eq_true_iff.mp hconsistent
      simpa [hvalidated] using hboth.1
  | currentValidatedLedgerIndex =>
    cases r with
    | error e => trivial
    | ok n =>
      show n ≤ m.shared.validatedIndex
      exact of_decide_eq_true hconsistent
  | submitAndWait blob =>
    cases r with
    | error e => trivial
    | ok result =>
      intro hvalidated
      simpa [FundingWorld.consistent, hvalidated] using hconsistent
  | sign prepared =>
    cases r with
    | error e => trivial
    | ok signed =>
      have hboth := Bool.and_eq_true_iff.mp hconsistent
      exact ⟨List.mem_cons_self, of_decide_eq_true hboth.1⟩
  | _ => trivial

/-- Operations that no rule of the discipline is about. -/
def isPlain : FundingOp → Bool
  | .sign _ | .submitAndWait _ | .replace _ => false
  | _ => true

theorem triple_plain {o : FundingOp} {k : FundingRet o → FundingProg α} (hA : Persists A)
    (ho : isPlain o = true)
    (hk : ∀ r, (fundingDiscipline env).Triple (fun m => A m ∧ Learned env o r m) (k r) Q) :
    (fundingDiscipline env).Triple A (.call o k) Q := by
  refine triple_ask hA ?_ ?_ hk
  · rintro state rfl
    cases ho
  · intro m _ _
    cases o <;> trivial

/-- The answer of an operation does not matter. -/
theorem triple_skip {o : FundingOp} {k : FundingRet o → FundingProg α} (hA : Persists A)
    (ho : isPlain o = true) (hk : ∀ r, (fundingDiscipline env).Triple A (k r) Q) :
    (fundingDiscipline env).Triple A (.call o k) Q :=
  triple_plain hA ho fun r => (hk r).mono (fun _ _ hm => hm.1) fun _ _ _ hx => hx

variable {B : β → FundingHistory → Prop}

/-- A check that passes, in front of the rest. -/
theorem triple_check {x : Except FundingExc α} {f : α → FundingProg β}
    (hok : ∀ a, x = .ok a →
      (fundingDiscipline env).Triple A (f a) (Discipline.Ends B fun _ _ => True)) :
    (fundingDiscipline env).Triple A (.ofExcept x >>= f) (Discipline.Ends B fun _ _ => True) :=
  Discipline.Triple.ofExcept_bind hok fun _ _ _ _ => trivial

/-- A part that leaves its state in the file, in front of the rest. -/
theorem triple_leaves_bind {f : α → RlusdFundingState} {p : FundingProg α} {k : α → FundingProg β}
    (hp : (fundingDiscipline env).Triple A p (Leaves f))
    (hk : ∀ a, (fundingDiscipline env).Triple (InSync (f a)) (k a)
      (Discipline.Ends B fun _ _ => True)) :
    (fundingDiscipline env).Triple A (p >>= k) (Discipline.Ends B fun _ _ => True) :=
  Discipline.Triple.bind hp hk

/-- The state file is written. -/
theorem triple_writeFundingState (state : RlusdFundingState) :
    (fundingDiscipline env).Triple (MayReplace env state) (writeFundingState state)
      (Leaves fun _ => state) := by
  refine triple_skip (persists_mayReplace state) rfl fun written => ?_
  refine triple_check fun _ _ => ?_
  -- The file is replaced before its directory is synchronised.
  have hafter : ∀ replaced, (fundingDiscipline env).Triple
      (fun m => replaced = .ok () → InSync state m)
      (.ofExcept replaced >>= fun _ => .call .syncDirectory Prog.ofExcept) (Leaves fun _ => state) := by
    intro replaced
    refine triple_check fun _ hok => ?_
    have hpersists : Persists fun m => replaced = .ok () → InSync state m :=
      fun h hm hreplaced => persists_inSync state h (hm hreplaced)
    refine triple_skip hpersists rfl fun synced => ?_
    refine Discipline.Triple.ofExcept fun m hm => ?_
    cases synced with
    | ok _ => exact hm hok
    | error e => trivial
  -- A ledger that closes meanwhile does not touch the file.
  have hsteady : Steady FundingWorld.happens (MayReplace env state) :=
    Persists.steady (persists_mayReplace state)
  refine Discipline.Triple.call hsteady (fun m _ hm => hm) ?_ hafter
  rintro m r t _ _ hx rfl
  obtain rfl : { m.shared with file := some state } = t := Option.some.inj hx
  rfl

/-! ## Section 5: Results -/

/-- Exceptions that say that a transaction has a final result. -/
def IsTerminal : FundingExc → Prop
  | .settlementPending _ | .other _ => False
  | _ => True

/-- A check that passes, or fails for good, has seen a validated result. -/
def ConfirmsValidated (confirm : Dict → Except FundingExc Unit) : Prop :=
  ∀ result, (confirm result = .ok () ∨ ∃ e, confirm result = .error e ∧ IsTerminal e) →
    isValidated result = true

theorem confirms_validatedSuccess (purpose issuer : String) (expected : Option Decimal) :
    ConfirmsValidated fun result => validatedSuccess env result purpose issuer expected := by
  intro result h
  by_contra hnot
  have hpending : validatedSuccess env result purpose issuer expected =
      .error (.settlementPending (purpose ++ " has not validated")) := by
    unfold validatedSuccess
    exact if_pos (Bool.not_eq_true _ |>.mp hnot)
  simp only [hpending] at h
  rcases h with h | ⟨e, h, hterminal⟩
  · cases h
  · cases h
    exact hterminal

theorem confirms_confirmPending (state : RlusdFundingState) (p : PendingTransaction) :
    ConfirmsValidated (confirmPending env state p) := by
  intro result h
  unfold confirmPending at h
  -- The expected amount is read first; where that fails, nothing definite has been found out.
  cases hexpected : expectedAmount env p with
  | ok expected =>
    rw [hexpected] at h
    exact confirms_validatedSuccess p.purpose state.issuer expected result h
  | error e =>
    rw [hexpected] at h
    have hother : ∃ other, e = .other other := by
      unfold expectedAmount at hexpected
      split at hexpected
      · cases hexpected
      · split at hexpected
        · cases hexpected
        · exact ⟨_, (Except.error.inj hexpected).symm⟩
    obtain ⟨other, rfl⟩ := hother
    rcases h with h | ⟨e, h, hterminal⟩
    · cases h
    · cases h
      exact hterminal.elim

/-! ## Section 6: The programs -/

section Programs

variable {state : RlusdFundingState} {p : PendingTransaction}

/-- The file may be replaced by a state without a transaction once the one that
    it holds is resolved. -/
theorem mayReplace_of_resolved {new : RlusdFundingState} (hnew : new.pendingTransaction = none)
    (hp : state.pendingTransaction = some p) {m : FundingHistory} (hsync : InSync state m)
    (hresolved : m.shared.Resolved p) : MayReplace env new m := by
  constructor
  · intro q hq
    rw [hsync, hp] at hq
    obtain rfl := Option.some.inj hq
    exact .inr hresolved
  · intro q hq
    rw [hnew] at hq
    cases hq

theorem triple_write_resolved {new : RlusdFundingState} (hnew : new.pendingTransaction = none)
    (hp : state.pendingTransaction = some p) :
    (fundingDiscipline env).Triple (fun m => InSync state m ∧ m.shared.Resolved p)
      (writeFundingState new) (Leaves fun _ => new) :=
  (triple_writeFundingState new).mono
    (fun _ _ hm => mayReplace_of_resolved hnew hp hm.1 hm.2) fun _ _ _ hx => hx

theorem triple_recordTerminal (hp : state.pendingTransaction = some p) (txHash : String) :
    (fundingDiscipline env).Triple (fun m => InSync state m ∧ m.shared.Resolved p)
      (recordTerminalTransaction state txHash) (Leaves id) := by
  refine triple_leaves_bind (triple_write_resolved rfl hp) fun _ => ?_
  exact Discipline.Triple.ret fun m hm => hm

/-- The journal is cleared, and the exception raised again. -/
theorem triple_clear (hp : state.pendingTransaction = some p) {B : α → FundingHistory → Prop}
    (e : FundingExc) :
    (fundingDiscipline env).Triple (fun m => InSync state m ∧ m.shared.Resolved p)
      (writeFundingState state.cleared >>= fun _ => (.raise e : FundingProg α))
      (Discipline.Ends B fun _ _ => True) :=
  Discipline.Triple.bind (triple_write_resolved rfl hp) fun _ =>
    Discipline.Triple.raise fun _ _ => trivial

/-- When a submission returns, its transaction is on a validated ledger. -/
abbrev Settles (state : RlusdFundingState) (p : PendingTransaction) :
    Except FundingExc Unit → FundingHistory → Prop :=
  Discipline.Ends (fun _ m => InSync state m ∧ m.shared.Resolved p) fun _ _ => True

theorem triple_clearOnFailure (hp : state.pendingTransaction = some p) (uncertain e : FundingExc) :
    (fundingDiscipline env).Triple
      (fun m => InSync state m ∧ (IsTerminal e → m.shared.Resolved p))
      (clearOnFailure state uncertain e) (Settles state p) := by
  have hcleared : ∀ e, IsTerminal e → (fundingDiscipline env).Triple
      (fun m => InSync state m ∧ (IsTerminal e → m.shared.Resolved p))
      (writeFundingState state.cleared >>= fun _ => (.raise e : FundingProg Unit))
      (Settles state p) := by
    intro e hterminal
    exact (triple_clear hp e).mono (fun _ _ hm => ⟨hm.1, hm.2 hterminal⟩) fun _ _ _ hx => hx
  -- An uncertain end keeps the journal; a definite one clears it.
  cases e with
  | settlementPending text => exact Discipline.Triple.raise fun _ _ => trivial
  | other e => exact Discipline.Triple.raise fun _ _ => trivial
  | funding text => exact hcleared _ trivial
  | liquidityUnavailable text => exact hcleared _ trivial
  | spendLimitExceeded text => exact hcleared _ trivial

theorem triple_submitJournaledBlob (hp : state.pendingTransaction = some p)
    {confirm : Dict → Except FundingExc Unit} (hconfirm : ConfirmsValidated confirm)
    (uncertain : FundingExc) :
    (fundingDiscipline env).Triple (InSync state)
      (submitJournaledBlob state p.signedTxBlob confirm uncertain) (Settles state p) := by
  intro m₀ hinv₀ hm₀
  -- The pending transaction has the hash of its blob.
  have hhash : p.txHash = env.hashOf p.signedTxBlob :=
    (hinv₀.signed p (hinv₀.journaled p (hm₀.trans hp))).2
  have hsubmit : (fundingDiscipline env).Triple (InSync state)
      (.call (.submitAndWait p.signedTxBlob) fun submitted =>
        .ofExcept ((foreign submitted).bind confirm))
      (Discipline.Ends (fun _ m => InSync state m ∧ m.shared.Resolved p)
        fun e m => InSync state m ∧ (IsTerminal e → m.shared.Resolved p)) := by
    -- Nothing is submitted but the journaled blob.
    refine triple_ask (persists_inSync state) nofun ?_ fun submitted => ?_
    · intro m _ hm
      exact ⟨p, hm.trans hp, rfl⟩
    refine Discipline.Triple.ofExcept fun m hm => ?_
    cases submitted with
    | error e => exact ⟨hm.1, fun hterminal => hterminal.elim⟩
    -- A validated answer resolves the transaction, whether it is a success or not.
    | ok result =>
      have hresolved : isValidated result = true → m.shared.Resolved p := by
        intro hvalidated
        rw [FundingWorld.Resolved, hhash]
        exact .inl (hm.2 hvalidated)
      show Discipline.Ends _ _ (confirm result) m
      cases hresult : confirm result with
      | ok _ => exact ⟨hm.1, hresolved (hconfirm result (.inl hresult))⟩
      | error e =>
        exact ⟨hm.1, fun hterminal => hresolved (hconfirm result (.inr ⟨e, hresult, hterminal⟩))⟩
  exact Discipline.Triple.tryCatch hsubmit (triple_clearOnFailure hp uncertain) m₀ hinv₀ hm₀

theorem triple_reconcileValidated (hp : state.pendingTransaction = some p) (result : Dict) :
    (fundingDiscipline env).Triple (fun m => InSync state m ∧ m.shared.Resolved p)
      (reconcileValidated env state p result) (Leaves Prod.snd) := by
  refine Discipline.Triple.bind (B := fun _ m => InSync state m ∧ m.shared.Resolved p)
    (Discipline.Triple.tryCatch (B := fun _ m => InSync state m ∧ m.shared.Resolved p)
      (Discipline.Triple.ofExcept fun m hm => ?_) fun e => ?_) fun _ => ?_
  · cases confirmPending env state p result <;> exact hm
  · cases e with
    | other e => exact Discipline.Triple.raise fun _ _ => trivial
    | _ => exact triple_clear hp _
  refine triple_leaves_bind (triple_recordTerminal hp p.txHash) fun _ => ?_
  exact Discipline.Triple.ret fun m hm => hm

theorem triple_reconcileExpired (hp : state.pendingTransaction = some p) (result : Dict) :
    (fundingDiscipline env).Triple (fun m => InSync state m ∧ m.shared.Resolved p)
      (reconcileExpired state p result) (Leaves Prod.snd) := by
  unfold reconcileExpired
  split
  · refine triple_leaves_bind (triple_write_resolved rfl hp) fun _ => ?_
    exact Discipline.Triple.ret fun m hm => hm
  · exact Discipline.Triple.raise fun _ _ => trivial

theorem triple_rebroadcast (hp : state.pendingTransaction = some p) :
    (fundingDiscipline env).Triple (InSync state) (rebroadcast env state p) (Leaves Prod.snd) := by
  refine Discipline.Triple.bind
    (triple_submitJournaledBlob hp (confirms_confirmPending state p) _) fun _ => ?_
  refine triple_leaves_bind (triple_recordTerminal hp p.txHash) fun _ => ?_
  exact Discipline.Triple.ret fun m hm => hm

/-- After a reconciliation that returns, the file holds what the run goes on
    with. -/
theorem triple_reconcilePendingTransaction (state : RlusdFundingState) :
    (fundingDiscipline env).Triple (InSync state) (reconcilePendingTransaction env state)
      (Leaves Prod.snd) := by
  unfold reconcilePendingTransaction
  split
  -- Nothing is pending.
  · exact Discipline.Triple.ret fun m hm => hm
  · next p hp =>
    refine triple_plain (persists_inSync state) rfl fun answer => ?_
    cases answer with
    | error e => exact triple_check nofun
    | ok result =>
      refine triple_check fun a ha => ?_
      obtain rfl : result = a := Except.ok.inj ha
      -- Validated, expired and neither are the three ways on.
      split
      · next hvalidated =>
        exact (triple_reconcileValidated hp result).mono
          (fun m _ hm => ⟨hm.1, .inl (hm.2 hvalidated)⟩) fun _ _ _ hx => hx
      · -- What matters is that the `LastLedgerSequence` is validated.
        refine (triple_plain (persists_inSync state) rfl fun answer => ?_).mono
          (fun _ _ hm => hm.1) fun _ _ _ hx => hx
        cases answer with
        | error e => exact triple_check nofun
        | ok currentLedger =>
          refine triple_check fun a ha => ?_
          obtain rfl : currentLedger = a := Except.ok.inj ha
          split
          · next hreached =>
            exact (triple_reconcileExpired hp result).mono
              (fun m _ hm => ⟨hm.1, FundingWorld.resolved_of_reached (le_trans hreached hm.2)⟩)
              fun _ _ _ hx => hx
          · exact (triple_rebroadcast hp).mono (fun _ _ hm => hm.1) fun _ _ _ hx => hx

theorem triple_journalAndSubmit (hnone : state.pendingTransaction = none) (submission : Submission)
    (first : Int) {prepared : PreparedTransaction} (signed : SignedTransaction) :
    (fundingDiscipline env).Triple
      (fun m => InSync state m ∧ Learned env (.sign prepared) (.ok signed) m)
      (journalAndSubmit env state submission first signed) (Leaves Prod.snd) := by
  have hpersists : Persists fun m => InSync state m ∧ Learned env (.sign prepared) (.ok signed) m :=
    fun h hm => ⟨persists_inSync state h hm.1, h.log.subset hm.2.1, hm.2.2⟩
  refine triple_skip hpersists rfl fun createdAt => ?_
  refine triple_check fun expected _ => ?_
  -- What is written down is what was signed.
  obtain ⟨p, hp⟩ : ∃ p : PendingTransaction, p = ⟨submission.purpose, signed.txHash, signed.txBlob,
    first, signed.lastLedgerSequence, env.isoformat createdAt, expected⟩ := ⟨_, rfl⟩
  have hwrite : (fundingDiscipline env).Triple
      (fun m => InSync state m ∧ Learned env (.sign prepared) (.ok signed) m)
      (writeFundingState (state.journaled p)) (Leaves fun _ => state.journaled p) := by
    refine (triple_writeFundingState (state.journaled p)).mono (fun m _ hm => ⟨?_, ?_⟩)
      fun _ _ _ hx => hx
    · intro q hq
      rw [hm.1, hnone] at hq
      cases hq
    · intro q hq
      obtain rfl : p = q := Option.some.inj hq
      subst hp
      exact ⟨⟨prepared, signed, hm.2.1, rfl, rfl, rfl⟩, hm.2.2⟩
  simp only [← hp]
  refine triple_leaves_bind hwrite fun _ => ?_
  have hblob : signed.txBlob = p.signedTxBlob := by rw [hp]
  rw [hblob]
  refine Discipline.Triple.bind (triple_submitJournaledBlob rfl (confirms_validatedSuccess _ _ _) _)
    fun _ => ?_
  refine triple_leaves_bind (triple_recordTerminal rfl signed.txHash) fun _ => ?_
  exact Discipline.Triple.ret fun m hm => hm

theorem triple_submitJournaledTransaction (state : RlusdFundingState) (submission : Submission) :
    (fundingDiscipline env).Triple (InSync state) (submitJournaledTransaction env state submission)
      (Leaves Prod.snd) := by
  unfold submitJournaledTransaction
  split
  -- With a pending transaction no other is signed.
  · exact Discipline.Triple.raise fun _ _ => trivial
  · next hsome =>
    have hnone : state.pendingTransaction = none := not_not.mp hsome
    have hsync : Persists (InSync state) := persists_inSync state
    -- Between here and the signature nothing writes the journal.
    have hsign : ∀ prepared first, (fundingDiscipline env).Triple (InSync state)
        (.call (.sign prepared) fun answer => do
          let signed ← .ofExcept (foreign answer)
          journalAndSubmit env state submission first signed) (Leaves Prod.snd) := by
      intro prepared first
      refine triple_ask hsync nofun (fun m _ hm => hm.trans hnone) fun answer => ?_
      cases answer with
      | error e => exact triple_check nofun
      | ok signed =>
        refine triple_check fun a ha => ?_
        obtain rfl : signed = a := Except.ok.inj ha
        exact triple_journalAndSubmit hnone submission first signed
    refine triple_skip hsync rfl fun answer => triple_check fun first _ => ?_
    refine triple_skip hsync rfl fun answer => triple_check fun prepared _ => ?_
    refine triple_check fun _ _ => ?_
    refine triple_leaves_bind ?_ fun _ => hsign prepared first
    unfold simulateExactPayment
    split
    · exact Discipline.Triple.ret fun m hm => hm
    · refine triple_skip hsync rfl fun answer => Discipline.Triple.ofExcept fun m hm => ?_
      cases checkSimulation env state.issuer submission.expectedRlusdAmount answer with
      | ok _ => exact hm
      | error e => trivial

/-- A state with the same transaction may replace the file. -/
theorem triple_write_same {new : RlusdFundingState}
    (hnew : new.pendingTransaction = state.pendingTransaction) :
    (fundingDiscipline env).Triple (InSync state) (writeFundingState new) (Leaves fun _ => new) := by
  intro m hinv hm
  refine triple_writeFundingState new m hinv ⟨fun p hp => .inl ?_, fun p hp => ?_⟩
  · rw [hnew, ← hp]
    exact hm.symm
  · rw [hnew] at hp
    exact hinv.signed p (hinv.journaled p (hm.trans hp))

theorem triple_ensureTestnetXrp (minimumDrops : Int) (state : RlusdFundingState) :
    (fundingDiscipline env).Triple (InSync state) (ensureTestnetXrp env minimumDrops state)
      (Leaves id) := by
  refine triple_skip (persists_inSync state) rfl fun answer => ?_
  split
  · exact Discipline.Triple.ret fun m hm => hm
  · refine triple_skip (persists_inSync state) rfl fun now => ?_
    refine triple_check fun _ _ => ?_
    refine triple_leaves_bind (triple_write_same rfl) fun _ => ?_
    refine triple_skip (persists_inSync _) rfl fun asked => ?_
    refine triple_skip (persists_inSync _) rfl fun funded => ?_
    refine triple_check fun _ _ => ?_
    exact Discipline.Triple.ret fun m hm => hm

theorem triple_ensureRlusdTrustline (run : FundingRun) (state : RlusdFundingState) :
    (fundingDiscipline env).Triple (InSync state) (ensureRlusdTrustline env run state) (Leaves id) := by
  refine triple_skip (persists_inSync state) rfl fun answer => triple_check fun sufficient _ => ?_
  split
  · exact Discipline.Triple.ret fun m hm => hm
  · refine triple_leaves_bind (triple_submitJournaledTransaction state _) fun _ => ?_
    exact Discipline.Triple.ret fun m hm => hm

theorem triple_buyShortfall (run : FundingRun) (current : Decimal) (state : RlusdFundingState) :
    (fundingDiscipline env).Triple (InSync state) (buyShortfall env run current state) (Leaves id) := by
  refine triple_check fun needed _ => ?_
  refine triple_skip (persists_inSync state) rfl fun quote => ?_
  refine triple_check fun sendMax _ => triple_check fun _ _ => triple_check fun amount _ => ?_
  refine triple_skip (persists_inSync state) rfl fun spendable => triple_check fun _ _ => ?_
  refine triple_leaves_bind (triple_submitJournaledTransaction state _) fun _ => ?_
  exact Discipline.Triple.ret fun m hm => hm

/-- The end of a run. -/
abbrev Returns : Except FundingExc FundingResult → FundingHistory → Prop :=
  Discipline.Ends (fun _ _ => True) fun _ _ => True

theorem triple_finishFunding (run : FundingRun) (starting : Decimal) (state : RlusdFundingState) :
    (fundingDiscipline env).Triple (InSync state) (finishFunding run starting state) Returns := by
  refine triple_skip (persists_inSync state) rfl fun answer => triple_check fun final _ => ?_
  refine triple_check fun short _ => triple_check fun _ _ => triple_check fun more _ => ?_
  refine triple_skip (persists_inSync state) rfl fun answer => triple_check fun drops _ => ?_
  exact Discipline.Triple.ret fun _ _ => trivial

theorem triple_fundShortfall (run : FundingRun) (starting : Decimal) (state : RlusdFundingState) :
    (fundingDiscipline env).Triple (InSync state) (fundShortfall env run starting state) Returns := by
  refine triple_leaves_bind (triple_ensureTestnetXrp _ state) fun state => ?_
  refine triple_leaves_bind (triple_ensureRlusdTrustline run _) fun state => ?_
  refine triple_skip (persists_inSync _) rfl fun answer => ?_
  refine triple_check fun current _ => triple_check fun short _ => ?_
  split
  · refine triple_leaves_bind (triple_buyShortfall run current _) fun state => ?_
    exact triple_finishFunding run starting _
  · exact triple_finishFunding run starting _

/-- The state that is loaded is that of the file. -/
theorem triple_loadFundingState (address issuer : String) :
    (fundingDiscipline env).Triple (fun _ => True) (loadFundingState address issuer) (Leaves id) := by
  refine triple_plain (persists_pure True) rfl fun found => ?_
  cases found with
  | error e => exact triple_check nofun
  | ok found =>
    refine triple_check fun a ha => ?_
    obtain rfl : found = a := Except.ok.inj ha
    cases found with
    | none =>
      refine Discipline.Triple.ret fun m hm => ?_
      show m.shared.file.bind _ = none
      rw [show m.shared.file = none from hm.2]
      rfl
    | some state =>
      refine triple_check fun _ _ => Discipline.Triple.ret fun m hm => ?_
      show m.shared.file.bind _ = state.pendingTransaction
      rw [show m.shared.file = some state from hm.2]
      rfl

theorem triple_fundRlusdWallet (run : FundingRun) :
    (fundingDiscipline env).Triple (fun _ => True) (fundRlusdWallet env run) Returns := by
  refine triple_check fun _ _ => ?_
  refine triple_leaves_bind (triple_loadFundingState _ _) fun loaded => ?_
  refine triple_leaves_bind (triple_reconcilePendingTransaction loaded) fun reconciled => ?_
  refine triple_skip (persists_inSync _) rfl fun answer => triple_check fun short _ => ?_
  split
  · exact triple_fundShortfall run _ reconciled.2
  · refine triple_skip (persists_inSync _) rfl fun answer => ?_
    exact Discipline.Triple.ret fun _ _ => trivial

end Programs

/-! ## Section 7: Safety -/

theorem fundingInvariant_init (ledgers : List (List String)) :
    FundingInvariant env ⟨⟨none, ledgers⟩, []⟩ := by
  refine ⟨fun p hp => ?_, fun p hp => ?_, fun p hp => ?_⟩
  · obtain ⟨_, hin, _⟩ := hp
    cases hin
  · cases hp
  · obtain ⟨_, hin, _⟩ := hp
    cases hin

theorem keeps_discipline (p : FundingProg FundingResult) (hp : ∃ run, p = fundRlusdWallet env run) :
    (fundingDiscipline env).Triple (fun _ => True) p fun _ _ => True := by
  obtain ⟨run, rfl⟩ := hp
  exact (triple_fundRlusdWallet run).mono (fun _ _ _ => trivial) fun _ _ _ _ => trivial

/-- In every history of runs, however they are cut off, whenever ledgers close
    and whatever a node answers that is consistent with them: a run is about to
    sign only when every journaled transaction is resolved, and to submit only
    the blob that the state file holds, which is a signed one. -/
theorem never_signs_over_unresolved (env : FundingEnv) (ledgers : List (List String))
    (m : FundingHistory) (active : Option (FundingProg FundingResult))
    (h : FundingSessions env ledgers m active) :
    (∀ prepared k, active = some (.call (.sign prepared) k) →
      ∀ p, Journaled m.log p → m.shared.Resolved p) ∧
    (∀ blob k, active = some (.call (.submitAndWait blob) k) →
      ∃ p, m.shared.pending = some p ∧ p.signedTxBlob = blob ∧ Journaled m.log p) ∧
    (∀ p, Journaled m.log p → WasSigned m.log p) := by
  obtain ⟨hinv, -⟩ :=
    (fundingDiscipline env).sessions (fundingInvariant_init ledgers) keeps_discipline h
  refine ⟨fun prepared k hactive p hp => ?_, fun blob k hactive => ?_, fun p hp => (hinv.signed p hp).1⟩
  · subst hactive
    have hnone := (fundingDiscipline env).pre_of_sessions (fundingInvariant_init ledgers)
      keeps_discipline h
    -- The file names no transaction at that point, so every journaled one is resolved.
    rcases hinv.resolved p hp with hresolved | hpending
    · exact hresolved
    · cases hnone.symm.trans hpending
  · subst hactive
    obtain ⟨p, hp, hblob⟩ := (fundingDiscipline env).pre_of_sessions (fundingInvariant_init ledgers)
      keeps_discipline h
    exact ⟨p, hp, hblob, hinv.journaled p hp⟩

namespace Sample

open XrplX402.Sample

def fundingEnv : FundingEnv where
  toEnv := shapeEnv
  isoformat := toString
  fromisoformat _ := .error (valueError "Invalid isoformat string")
  hashOf := id

def sampleRun : FundingRun := ⟨"rWallet", .finite false 10 0, 35000000, 500, 100⟩

def validatedResult : Dict :=
  [("validated", .bool true), ("meta", .obj [("TransactionResult", .str "tesSUCCESS")])]

/-- The answers of a node to a wallet without a trust line. -/
def nodeAnswer (s : FundingWorld) : (o : FundingOp) → FundingRet o
  | .readState => .ok s.file
  | .writeTemporary _ => .ok ()
  | .replace _ => .ok ()
  | .syncDirectory => .ok ()
  | .tx txHash _ _ => .ok (if s.Holds txHash then validatedResult else [("error", .str "txnNotFound")])
  | .currentValidatedLedgerIndex => .ok s.validatedIndex
  | .submitAndWait blob => if s.Holds blob then .ok validatedResult else .error (runtimeError "timeout")
  | .autofill transaction => .ok ⟨transaction, some "12", some (s.validatedIndex + 20)⟩
  | .simulate _ => .ok validatedResult
  | .sign prepared =>
    if s.ledgers = [] then .ok ⟨"A1", "A1", prepared.lastLedgerSequence.getD 0⟩
    else .ok ⟨"B2", "B2", prepared.lastLedgerSequence.getD 0⟩
  | .trustlineBalance => .ok (.finite false 0 0)
  | .trustlineLimitIsSufficient _ => .ok false
  | .xrpBalance => .ok 99000000
  | .waitForXrpBalance _ => 99000000
  | .now => 0
  | .requestTestnetXrp => .ok ()
  | .quoteRlusdPath _ => .ok 26000000
  | .assertSpendableXrp _ _ => .ok ()

abbrev FundingMove := Move FundingOp (List String) FundingRet FundingExc FundingResult FundingWorld

def runs (n : Nat) : List FundingMove :=
  .begins (fundRlusdWallet fundingEnv sampleRun) :: List.replicate n (.answer nodeAnswer)

/-- A run is cut off after it has journaled a trust line; its transaction gets
    into a ledger all the same; the next run goes on until it signs. -/
def cutOff : List FundingMove := runs 11 ++ [.ends, .event ["A1"]] ++ runs 10

def journaledBy (e : Event FundingOp FundingRet) : Option PendingTransaction :=
  match e with
  | ⟨.replace state, .ok ()⟩ => state.pendingTransaction
  | _ => none

def aboutToSign (c : FundingHistory × Option (FundingProg FundingResult)) : Bool :=
  (match c.2 with
  | some (.call (.sign _) _) => true
  | _ => false) && (c.1.log.any fun e => (journaledBy e).any (·.txHash = "A1"))

theorem replay_cutOff : (replayMoves (fundingWorld fundingEnv) FundingWorld.happens cutOff
    (⟨⟨none, []⟩, []⟩, none)).any aboutToSign = true := by
  decide +kernel

theorem journaled_of_any {log : List (Event FundingOp FundingRet)}
    (h : (log.any fun e => (journaledBy e).any (·.txHash = "A1")) = true) :
    ∃ p, Journaled log p ∧ p.txHash = "A1" := by
  obtain ⟨e, hin, he⟩ := List.any_eq_true.mp h
  unfold journaledBy at he
  split at he
  · next state =>
    cases hp : state.pendingTransaction with
    | none =>
      rw [hp] at he
      cases he
    | some p =>
      rw [hp] at he
      exact ⟨p, ⟨state, hin, hp⟩, of_decide_eq_true he⟩
  · cases he

end Sample

/-- The second run signs over the transaction of the first, which is resolved. -/
theorem never_signs_over_unresolved_sample : ∃ m prepared k p,
    FundingSessions Sample.fundingEnv [] m (some (.call (.sign prepared) k)) ∧
      Journaled m.log p ∧ p.txHash = "A1" ∧ m.shared.Resolved p := by
  cases hreplay : replayMoves (fundingWorld Sample.fundingEnv) FundingWorld.happens Sample.cutOff
    (⟨⟨none, []⟩, []⟩, none) with
  | none =>
    have hany := Sample.replay_cutOff
    rw [hreplay] at hany
    cases hany
  | some c =>
    have hany := Sample.replay_cutOff
    rw [hreplay] at hany
    obtain ⟨hsign, hjournaled⟩ := Bool.and_eq_true_iff.mp hany
    obtain ⟨p, hp, hhash⟩ := Sample.journaled_of_any hjournaled
    have hruns : ∀ move ∈ Sample.cutOff, ∀ p, move = .begins p →
        ∃ run, p = fundRlusdWallet Sample.fundingEnv run := by
      intro move hin p hp
      subst hp
      refine ⟨Sample.sampleRun, ?_⟩
      simpa [Sample.cutOff, Sample.runs] using hin
    have hsessions : FundingSessions Sample.fundingEnv [] c.1 c.2 :=
      Sessions.replayMoves .init hruns hreplay
    split at hsign
    · next prepared k hactive =>
      rw [hactive] at hsessions
      have hresolved := (never_signs_over_unresolved Sample.fundingEnv [] c.1 _ hsessions).1 prepared k
        rfl p hp
      exact ⟨c.1, prepared, k, p, hsessions, hp, hhash, hresolved⟩
    · cases hsign

end XrplX402.Devtools
