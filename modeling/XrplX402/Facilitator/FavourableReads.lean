import XrplX402.Facilitator.Balances
import XrplX402.Facilitator.Refusals

/-! # Favourable reads

    Soundness says what an accepted verification has read. Here is the other
    half: a refusal names a check that failed, and so something in the settings
    or in the node's answers that speaks against the payment.

    * `Admits`: the settings of an instance let the payment pass.
    * `Favours`: so do the answers that a verification has read.
    * **`valid_of_favours`**: where both hold, a verification that returns does
      not refuse. -/

namespace XrplX402.Facilitator

open Py Interaction Prog

variable {env : Env}

/-! ## Section 1: Paths that end in a refusal -/

/-- `PaymentVerificationError`, which is turned into an answer. -/
def FacilitatorExc.IsRefusal : FacilitatorExc → Prop
  | .verification _ _ _ => True
  | _ => False

section Paths

variable {α β : Type} {e : FacilitatorExc} {t : List (Event Op Ret)}

theorem uncaught_ne_refusal {x : Except Exc α} (he : e.IsRefusal) : uncaught x ≠ .error e := by
  rintro h
  cases x with
  | ok a => cases h
  | error e' =>
    rw [← Except.error.inj h] at he
    exact he

theorem path_lift_bind_refused {x : Except Exc α} {k : α → Service β} (he : e.IsRefusal)
    (h : Path (lift x >>= k) t (.error e)) : ∃ a, x = .ok a ∧ Path (k a) t (.error e) := by
  unfold lift at h
  rcases path_ofExcept_bind.mp h with ⟨a, ha, h⟩ | ⟨e', hx, -, h⟩
  · exact ⟨a, uncaught_eq_ok.mp ha, h⟩
  · rw [← Except.error.inj h] at hx
    exact absurd hx (uncaught_ne_refusal he)

theorem not_path_lift_refused {x : Except Exc α} (he : e.IsRefusal) : ¬ Path (lift x) t (.error e) := by
  intro h
  unfold lift at h
  exact uncaught_ne_refusal he (path_ofExcept.mp h).2.symm

theorem path_check_bind_refused {x : Check α} {k : α → Service β}
    (h : Path (check x >>= k) t (.error e)) :
    (x = .error e ∧ t = []) ∨ ∃ a, x = .ok a ∧ Path (k a) t (.error e) := by
  unfold check at h
  rcases path_ofExcept_bind.mp h with hok | ⟨e', hx, ht, h⟩
  · exact .inr hok
  · exact .inl ⟨hx.trans (congrArg Except.error (Except.error.inj h).symm), ht⟩

theorem path_request_bind_refused {q : RpcRequest} {k : Json → Service β} (he : e.IsRefusal)
    (h : Path (request q >>= k) t (.error e)) :
    ∃ result t', t = ⟨.rpc q, .ok result⟩ :: t' ∧ Path (k result) t' (.error e) := by
  unfold request at h
  rw [call_bind, path_call] at h
  obtain ⟨answer, t', rfl, h⟩ := h
  obtain ⟨result, rfl, h⟩ := path_lift_bind_refused he h
  exact ⟨result, t', rfl, h⟩

theorem path_currentLedger_bind_refused {k : Int → Service β} (he : e.IsRefusal)
    (h : Path (currentLedger env >>= k) t (.error e)) :
    ∃ answer n t', t = ⟨.rpc .ledger, answer⟩ :: t' ∧ ledgerIndex env answer = .ok n ∧
      Path (k n) t' (.error e) := by
  unfold currentLedger at h
  rw [call_bind] at h
  obtain ⟨answer, t', ht, h⟩ := h
  obtain ⟨n, hn, hrest⟩ := path_lift_bind_refused he h
  exact ⟨answer, n, t', ht, hn, hrest⟩

/-- The node shows the account, unless the refusal is that there is none. -/
theorem path_accountData_bind_refused {account : String} {k : Dict → Service β} (he : e.IsRefusal)
    (h : Path (accountData account >>= k) t (.error e)) :
    ∃ result data t', t = ⟨.rpc (.accountInfo account), .ok result⟩ :: t' ∧
      getAttr result "account_data" = .ok data ∧
      ∀ d, data = .obj d → Path (k d) t' (.error e) := by
  unfold accountData at h
  rw [Prog.bind_assoc] at h
  obtain ⟨result, t', ht, h⟩ := path_request_bind_refused he h
  rw [Prog.bind_assoc] at h
  obtain ⟨data, hdata, h⟩ := path_lift_bind_refused he h
  refine ⟨result, data, t', ht, hdata, ?_⟩
  rintro d rfl
  rcases path_check_bind_refused h with ⟨hx, -⟩ | ⟨d', hd, h⟩
  · cases hx
  · rw [Except.ok.inj hd]
    exact h

theorem path_xrpReserveParameters_bind_refused {k : Int × Int → Service β} (he : e.IsRefusal)
    (h : Path (xrpReserveParameters env >>= k) t (.error e)) :
    ∃ state validated values t', t = ⟨.rpc .serverState, .ok state⟩ :: t' ∧
      validatedLedgerOf state = .ok validated ∧ reserveValues env validated = .ok values ∧
      Path (k values) t' (.error e) := by
  unfold xrpReserveParameters at h
  rw [Prog.bind_assoc] at h
  obtain ⟨state, t', rfl, hrest⟩ := path_request_bind_refused he h
  rw [Prog.bind_assoc] at hrest
  obtain ⟨validated, hvalidated, hrest⟩ := path_lift_bind_refused he hrest
  obtain ⟨values, hvalues, hrest⟩ := path_lift_bind_refused he hrest
  exact ⟨state, validated, values, t', rfl, hvalidated, hvalues, hrest⟩

theorem failIf_eq_error {bad : Prop} [Decidable bad] {e e' : FacilitatorExc}
    (h : failIf bad e' = .error e) : bad := by
  by_contra hnot
  rw [failIf, if_neg hnot] at h
  cases h

/-! ### Listings do not refuse -/

theorem not_path_ticketIsAvailableFrom_refused {payer : String} {ticket : Int} {pages : Nat}
    {marker : Json} {seen : List String} (he : e.IsRefusal) :
    ¬ Path (ticketIsAvailableFrom env payer ticket pages marker seen) t (.error e) := by
  induction pages generalizing marker seen t with
  | zero => exact fun h => h
  | succ pages ih =>
    intro h
    unfold ticketIsAvailableFrom at h
    obtain ⟨result, t', -, hrest⟩ := path_request_bind_refused he h
    obtain ⟨page, -, hrest⟩ := path_lift_bind_refused he hrest
    split at hrest
    · cases hrest.2
    · split at hrest
      · cases hrest.2
      · obtain ⟨key, -, hrest⟩ := path_lift_bind_refused he hrest
        exact ih hrest

/-- A ticket that is not found is not on the last page. -/
theorem ticket_missed {payer : String} {ticket : Int} {pages : Nat} {marker : Json}
    {seen : List String}
    (h : Path (ticketIsAvailableFrom env payer ticket pages marker seen) t (.ok false)) :
    ∃ marker result page, Answered t (.accountObjects payer marker) result ∧
      objectsPage result = .ok page ∧ page.marker = .null ∧
      page.items.any (isTicket ticket) = false := by
  induction pages generalizing marker seen t with
  | zero => exact h.elim
  | succ pages ih =>
    unfold ticketIsAvailableFrom at h
    obtain ⟨result, t', rfl, hrest⟩ := path_request_bind_ok.mp h
    obtain ⟨page, hpage, hrest⟩ := path_lift_bind_ok.mp hrest
    split at hrest
    · cases hrest.2
    · next hmissing =>
      split at hrest
      · next hlast =>
        exact ⟨marker, result, page, List.mem_cons_self, hpage, hlast, by simpa using hmissing⟩
      · obtain ⟨key, _, hrest⟩ := path_lift_bind_ok.mp hrest
        obtain ⟨marker', result', page', ha, hpage', hmissed⟩ := ih hrest
        exact ⟨marker', result', page', List.mem_cons_of_mem _ ha, hpage', hmissed⟩

theorem not_path_accountLinesFrom_refused {payer : String} {peer : Json} {pages : Nat} {marker : Json}
    {seen : List String} {acc : List Dict} (he : e.IsRefusal) :
    ¬ Path (accountLinesFrom env payer peer pages marker seen acc) t (.error e) := by
  induction pages generalizing marker seen acc t with
  | zero => exact fun h => h
  | succ pages ih =>
    intro h
    unfold accountLinesFrom at h
    obtain ⟨result, t', -, hrest⟩ := path_request_bind_refused he h
    obtain ⟨page, -, hrest⟩ := path_lift_bind_refused he hrest
    simp only at hrest
    split at hrest
    · cases hrest.2
    · obtain ⟨key, -, hrest⟩ := path_lift_bind_refused he hrest
      exact ih hrest

end Paths

/-! ## Section 2: The settings -/

/-- The settings of the instance let the payment pass. -/
structure Admits (F : ExactXRPLFacilitatorScheme env) (tx : Dict) (r : PaymentRequirements) : Prop where
  network : r.network = F.settings.networkId
  payTo : r.payTo = F.settings.myDestinationAddress
  asset : assetAllowed F r = true
  minimum : r.asset = "XRP" → ∀ drops, intOfStr env.unicode r.amount = .ok drops →
    F.settings.minXrpDrops ≤ drops
  fee : ∀ fee, FeeOf env tx fee → fee ≤ F.settings.maxFeeDrops

section Settings

variable {F F' : ExactXRPLFacilitatorScheme env} {payload : PaymentPayload} {r : PaymentRequirements}
  {tx : Dict} {method payer : String}

theorem belowMinimum_of_admits (hadmits : Admits F' tx r) {below : Bool}
    (h : belowMinimum env F.settings r = .ok below) : belowMinimum env F'.settings r = .ok false := by
  unfold belowMinimum at h ⊢
  split at h
  · next hasset =>
    obtain ⟨drops, hdrops, -⟩ := bind_eq_ok.mp h
    rw [if_pos hasset]
    refine bind_eq_ok.mpr ⟨drops, hdrops, ?_⟩
    exact congrArg Except.ok (decide_eq_false (not_lt.mpr (hadmits.minimum hasset drops hdrops)))
  · next hasset => rw [if_neg hasset]

/-- What one instance lets pass, another whose settings admit it does too. -/
theorem verifyEnvelope_of_admits (hadmits : Admits F' tx r) (h : verifyEnvelope F payload r = .ok method) :
    verifyEnvelope F' payload r = .ok method := by
  unfold verifyEnvelope at h ⊢
  obtain ⟨extra, hshape, h⟩ := bind_eq_ok.mp h
  obtain ⟨hversion, h⟩ := failIf_bind_eq_ok.mp h
  obtain ⟨accepted, haccepted, h⟩ := bind_eq_ok.mp h
  obtain ⟨hfields, h⟩ := failIf_bind_eq_ok.mp h
  obtain ⟨hflow, h⟩ := failIf_bind_eq_ok.mp h
  obtain ⟨hextra, h⟩ := failIf_bind_eq_ok.mp h
  obtain ⟨hmethod, h⟩ := failIf_bind_eq_ok.mp h
  obtain ⟨hrequired, h⟩ := failIf_bind_eq_ok.mp h
  obtain ⟨-, h⟩ := failIf_bind_eq_ok.mp h
  obtain ⟨-, h⟩ := failIf_bind_eq_ok.mp h
  obtain ⟨-, h⟩ := failIf_bind_eq_ok.mp h
  obtain ⟨below, hbelow, h⟩ := bind_eq_ok.mp h
  obtain ⟨-, h⟩ := failIf_bind_eq_ok.mp h
  refine bind_eq_ok.mpr ⟨extra, hshape, failIf_bind_eq_ok.mpr ⟨hversion, ?_⟩⟩
  refine bind_eq_ok.mpr ⟨accepted, haccepted, failIf_bind_eq_ok.mpr ⟨hfields, ?_⟩⟩
  refine failIf_bind_eq_ok.mpr ⟨hflow, failIf_bind_eq_ok.mpr ⟨hextra, ?_⟩⟩
  refine failIf_bind_eq_ok.mpr ⟨hmethod, failIf_bind_eq_ok.mpr ⟨hrequired, ?_⟩⟩
  refine failIf_bind_eq_ok.mpr ⟨not_not.mpr hadmits.network, failIf_bind_eq_ok.mpr ⟨?_, ?_⟩⟩
  · exact not_not.mpr hadmits.payTo
  · refine failIf_bind_eq_ok.mpr ⟨by simp [hadmits.asset], bind_eq_ok.mpr ⟨false, ?_, ?_⟩⟩
    · exact uncaught_eq_ok.mpr (belowMinimum_of_admits hadmits (uncaught_eq_ok.mp hbelow))
    · exact failIf_bind_eq_ok.mpr ⟨by decide, h⟩

theorem verifyStructure_of_admits (hadmits : Admits F' tx r) (h : verifyStructure F tx r payer = .ok ()) :
    verifyStructure F' tx r payer = .ok () := by
  unfold verifyStructure at h ⊢
  -- Nothing before the fee depends on the settings.
  obtain ⟨hunexpected, h⟩ := failIf_bind_eq_ok.mp h
  obtain ⟨hdestination, h⟩ := failIf_bind_eq_ok.mp h
  obtain ⟨_, hforbidden, h⟩ := bind_eq_ok.mp h
  obtain ⟨hwhole, h⟩ := failIf_bind_eq_ok.mp h
  obtain ⟨field, hfield, h⟩ := bind_eq_ok.mp h
  obtain ⟨_, hamount, h⟩ := bind_eq_ok.mp h
  obtain ⟨htag, h⟩ := failIf_bind_eq_ok.mp h
  obtain ⟨invoice, hinvoice, h⟩ := bind_eq_ok.mp h
  obtain ⟨hsame, h⟩ := failIf_bind_eq_ok.mp h
  obtain ⟨networkId, hnetwork, h⟩ := bind_eq_ok.mp h
  obtain ⟨hstandard, h⟩ := failIf_bind_eq_ok.mp h
  obtain ⟨hcustom, h⟩ := failIf_bind_eq_ok.mp h
  refine failIf_bind_eq_ok.mpr ⟨hunexpected, failIf_bind_eq_ok.mpr ⟨hdestination, ?_⟩⟩
  refine bind_eq_ok.mpr ⟨_, hforbidden, failIf_bind_eq_ok.mpr ⟨hwhole, ?_⟩⟩
  refine bind_eq_ok.mpr ⟨field, hfield, bind_eq_ok.mpr ⟨_, hamount, ?_⟩⟩
  refine failIf_bind_eq_ok.mpr ⟨htag, bind_eq_ok.mpr ⟨invoice, hinvoice, ?_⟩⟩
  refine failIf_bind_eq_ok.mpr ⟨hsame, bind_eq_ok.mpr ⟨networkId, hnetwork, ?_⟩⟩
  refine failIf_bind_eq_ok.mpr ⟨hstandard, failIf_bind_eq_ok.mpr ⟨hcustom, ?_⟩⟩
  -- The fee is within the cap of the other instance too.
  unfold verifyFee at h ⊢
  obtain ⟨digits, hdigits, h⟩ := bind_eq_ok.mp h
  obtain ⟨drops, hdrops, -⟩ := bind_eq_ok.mp h
  have hfee : FeeOf env tx drops :=
    ⟨digits, requireDigits_eq_ok hdigits, uncaught_eq_ok.mp hdrops⟩
  refine bind_eq_ok.mpr ⟨digits, hdigits, bind_eq_ok.mpr ⟨drops, hdrops, ?_⟩⟩
  exact failIf_eq_ok.mpr (not_lt.mpr (hadmits.fee drops hfee))

theorem checkTransaction_of_admits {checked : CheckedTransaction}
    (h : checkTransaction F payload r = .ok checked) (hadmits : Admits F' checked.tx r) :
    checkTransaction F' payload r = .ok checked := by
  unfold checkTransaction at h ⊢
  obtain ⟨method, hmethod, h⟩ := bind_eq_ok.mp h
  obtain ⟨exact_, hexact, h⟩ := bind_eq_ok.mp h
  obtain ⟨tx, htx, h⟩ := bind_eq_ok.mp h
  obtain ⟨_, hsignature, h⟩ := bind_eq_ok.mp h
  obtain ⟨_, hstructure, h⟩ := bind_eq_ok.mp h
  have hsame : checked.tx = tx := congrArg CheckedTransaction.tx (Except.ok.inj h).symm
  rw [hsame] at hadmits
  refine bind_eq_ok.mpr ⟨method, verifyEnvelope_of_admits hadmits hmethod, ?_⟩
  refine bind_eq_ok.mpr ⟨exact_, hexact, bind_eq_ok.mpr ⟨tx, htx, ?_⟩⟩
  refine bind_eq_ok.mpr ⟨(), hsignature, bind_eq_ok.mpr ⟨(), ?_, h⟩⟩
  exact verifyStructure_of_admits hadmits hstructure

end Settings

/-! ## Section 3: The answers -/

/-- `SendMax` has this value. -/
def LimitOf (env : Env) (tx : Dict) (source : Decimal) : Prop :=
  ∃ sendMax value, subscript (.obj tx) "SendMax" = .ok sendMax ∧ subscript sendMax "value" = .ok value ∧
    decimalOf env (str env.unicode value) = .ok source

/-- The drops above the reserve are enough for what the payer spends in drops. -/
def AffordsDrops (env : Env) (tx : Dict) (r : PaymentRequirements) (funds : Funds) : Prop :=
  ∀ fee, FeeOf env tx fee →
    if r.asset = "XRP" then ∀ amount, intOfStr env.unicode r.amount = .ok amount →
      amount + fee ≤ funds.spendable
    else fee ≤ funds.spendable

/-- The destination exists or is created, and a trust line holds the amount and
    the transfer fee. -/
structure Affords (env : Env) (tx : Dict) (r : PaymentRequirements) (payer : String) (funds : Funds) :
    Prop where
  created : r.asset = "XRP" → ∀ amount, intOfStr env.unicode r.amount = .ok amount →
    funds.destinationExists = true ∨ funds.reserveBase ≤ amount
  transfer : r.asset ≠ "XRP" → ∀ source amount, LimitOf env tx source →
    decimalOf env r.amount = .ok amount →
    feeDue env payer r (Dict.get r.extraOr "issuer") source amount funds.transferRate ≠ .ok false
  holds : r.asset ≠ "XRP" → ∀ source, LimitOf env tx source →
    trustlineCovers env source
      (matchingLines env (Dict.get r.extraOr "issuer") r.asset funds.lines) ≠ .ok false

/-- The answers on `t` let the payment pass. The first two are the ledger and
    the account; a simulation follows, and where there is none the balances. -/
structure Favours (env : Env) (tx : Dict) (r : PaymentRequirements) (payer : String)
    (t : List (Event Op Ret)) : Prop where
  /-- `LastLedgerSequence` lies after the ledger that is read, and not too far. -/
  window : ∀ answer rest n, t = ⟨.rpc .ledger, answer⟩ :: rest → ledgerIndex env answer = .ok n →
    ∃ last limit, (Dict.get tx "LastLedgerSequence").asInt? = some last ∧ n < last ∧
      getMaxLastLedgerSequence n r = .ok limit ∧ last ≤ limit
  exists_ : ∀ answer data, Answered t (.accountInfo payer) answer →
    getAttr answer "account_data" = .ok data → ∃ d, data = .obj d
  /-- The account authorizes the key, and a sequence that is spent is its current
      one. -/
  current : ∀ first answer rest d, t = first :: ⟨.rpc (.accountInfo payer), .ok answer⟩ :: rest →
    getAttr answer "account_data" = .ok (.obj d) → SignerOk env tx payer d ∧
      (Dict.get tx "TicketSequence" = .null →
        (Dict.get tx "Sequence").canon = (Dict.get d "Sequence").canon)
  /-- A ticket that is spent is listed. -/
  listed : ∀ marker answer page ticket, Answered t (.accountObjects payer marker) answer →
    objectsPage answer = .ok page → page.marker = .null →
    (Dict.get tx "TicketSequence").asInt? = some ticket → page.items.any (isTicket ticket) = true
  simulated : ∀ transaction answer, Answered t (.simulate transaction) answer →
    isSimulationUnavailableResult env (answer.asDict?.getD []) = true ∨
      Dict.get (answer.asDict?.getD []) "engine_result" = .str "tesSUCCESS"
  drops : ∀ pre account state rest funds, t = pre ++ ⟨.rpc (.accountInfo payer), .ok account⟩ ::
    ⟨.rpc .serverState, .ok state⟩ :: rest → AccountReported env funds account state →
    AffordsDrops env tx r funds
  issuer : ∀ issuer info, Dict.get r.extraOr "issuer" = .str issuer →
    Answered t (.accountInfo issuer) info → ∃ d, accountDataOf info = .obj d
  funds : ∀ pre rest funds, t = pre ++ rest → Reports env r payer rest funds → Affords env tx r payer funds

section Refusals

variable {tx : Dict} {r : PaymentRequirements} {payer method : String} {pages : Nat}
  {t : List (Event Op Ret)} {e : FacilitatorExc}

theorem not_refused_checkLastLedger {n last limit : Int}
    (hlast : (Dict.get tx "LastLedgerSequence").asInt? = some last) (hlt : n < last)
    (hlimit : getMaxLastLedgerSequence n r = .ok limit) (hle : last ≤ limit) :
    checkLastLedger tx r payer n ≠ .error e := by
  have hok : checkLastLedger tx r payer n = .ok () := by
    unfold checkLastLedger
    rw [hlast]
    refine failIf_bind_eq_ok.mpr ⟨not_le.mpr hlt, bind_eq_ok.mpr ⟨limit, ?_, ?_⟩⟩
    · exact uncaught_eq_ok.mpr hlimit
    · exact failIf_eq_ok.mpr (not_lt.mpr hle)
  simp [hok]

theorem not_refused_checkSigner {account : Dict} (he : e.IsRefusal)
    (hsigner : SignerOk env tx payer account) : checkSigner env tx payer account ≠ .error e := by
  intro h
  obtain ⟨key, address, hkey, haddress, hauthorized⟩ := hsigner
  have hkeyOf : subscript (.obj tx) "SigningPubKey" = .ok key := by
    simp [subscript, hkey]
  unfold checkSigner at h
  rw [hkeyOf] at h
  change (uncaught (env.deriveClassicAddress _) >>= _) = _ at h
  rw [haddress] at h
  change (uncaught (toInt env.unicode _) >>= _) = _ at h
  cases hflags : toInt env.unicode ((Dict.get? account "Flags").getD (.int 0)) with
  | error e' =>
    rw [hflags] at h
    exact uncaught_ne_refusal (α := Unit) (x := .error e') he h
  | ok flags =>
    rw [hflags] at h
    obtain ⟨hregular, hmaster⟩ := failIf_eq_error h
    rcases hauthorized with hauthorized | ⟨heq, flags', hflags', henabled⟩
    · exact hregular hauthorized
    · rw [hflags, Except.ok.injEq] at hflags'
      exact hmaster ⟨heq, by rw [hflags', hasFlag_disableMaster, henabled]⟩

/-- The ledger and the account do not refuse a transaction with the method of
    one that was accepted. -/
theorem not_refused_ledger {account : Dict} {s : List (Event Op Ret)} (he : e.IsRefusal)
    (hpassed : SequenceOk tx payer method account s) (hfavours : Favours env tx r payer t) :
    ¬ Path (verifyLedgerAndAccountState env pages tx r payer method) t (.error e) := by
  intro h
  unfold verifyLedgerAndAccountState at h
  obtain ⟨answer, n, t₁, rfl, hn, h⟩ := path_currentLedger_bind_refused he h
  -- The window, the account and the signer are judged on answers that favour the payment.
  obtain ⟨last, limit, hlast, hlt, hlimit, hle⟩ := hfavours.window answer t₁ n rfl hn
  rcases path_check_bind_refused h with ⟨hwindow, -⟩ | ⟨_, -, h⟩
  · exact not_refused_checkLastLedger hlast hlt hlimit hle hwindow
  obtain ⟨result, data, t₂, rfl, hdata, h⟩ := path_accountData_bind_refused he h
  obtain ⟨d, rfl⟩ := hfavours.exists_ result data
    (List.mem_cons_of_mem _ List.mem_cons_self) hdata
  obtain ⟨hsigner, hcurrent⟩ := hfavours.current _ result t₂ d rfl hdata
  rcases path_check_bind_refused (h d rfl) with ⟨hrefused, -⟩ | ⟨_, -, h⟩
  · exact not_refused_checkSigner he hsigner hrefused
  -- What remains is the sequence or the ticket.
  cases hpassed with
  | sequence chosen noTicket _ =>
    rw [if_pos chosen] at h
    unfold check at h
    have hrefused := (path_ofExcept.mp h).2.symm
    have hok : checkSequence tx payer d = .ok () := by
      refine failIf_bind_eq_ok.mpr ⟨not_not.mpr noTicket, failIf_eq_ok.mpr ?_⟩
      rw [Json.pyEq_iff.mpr (hcurrent noTicket)]
      decide
    rw [hok] at hrefused
    cases hrefused
  | ticket chosen ticket _ _ _ noSequence isTicketOf _ _ _ =>
    rw [if_neg (by rw [chosen]; decide)] at h
    have hticket : ticketOf tx payer = .ok ticket := by
      unfold ticketOf
      simp only [isTicketOf, Json.pyEq_iff.mpr (noSequence.trans (Json.canon_int 0).symm), if_true]
    rw [hticket] at h
    rcases path_check_bind_refused h with ⟨hrefused, -⟩ | ⟨ticket', hsame, h⟩
    · cases hrefused
    rw [← Except.ok.inj hsame] at h
    -- The listing is read to its end without the ticket, or its reading is refused.
    rcases path_bind.mp h with ⟨t₃, t₄, available, rfl, hlisting, h⟩ | ⟨e', he', hlisting⟩
    · unfold check at h
      have hmissing : available = false := failIf_eq_error (path_ofExcept.mp h).2.symm
      rw [hmissing] at hlisting
      obtain ⟨marker, answer', page, hanswered, hpage, hlast', hmissed⟩ := ticket_missed hlisting
      have hmem : Answered (⟨.rpc .ledger, answer⟩ :: ⟨.rpc (.accountInfo payer), .ok result⟩ ::
          (t₃ ++ t₄)) (.accountObjects payer marker) answer' :=
        List.mem_cons_of_mem _ (List.mem_cons_of_mem _ (List.mem_append_left _ hanswered))
      rw [hfavours.listed marker answer' page ticket hmem hpage hlast' isTicketOf] at hmissed
      cases hmissed
    · rw [← Except.error.inj he'] at hlisting
      exact not_path_ticketIsAvailableFrom_refused he hlisting

/-- The trust lines and the issuer do not refuse. -/
theorem not_refused_targetedIouCheck {account state : Json} {pre : List (Event Op Ret)} {funds : Funds}
    {issuer : String} (he : e.IsRefusal) (hasset : r.asset ≠ "XRP")
    (hwire : xrplCurrencyCode env r.asset = .ok r.asset)
    (hissuer : Dict.get r.extraOr "issuer" = .str issuer)
    (hreported : AccountReported env funds account state)
    (hfavours : Favours env tx r payer (pre ++ ⟨.rpc (.accountInfo payer), .ok account⟩ ::
      ⟨.rpc .serverState, .ok state⟩ :: t)) :
    ¬ Path (targetedIouCheck env pages tx r payer) t (.error e) := by
  intro h
  unfold targetedIouCheck at h
  simp only [hissuer] at h
  obtain ⟨currency, hcurrency, h⟩ := path_lift_bind_refused he h
  have hcode : currency = r.asset := Except.ok.inj (hcurrency.symm.trans hwire)
  rcases path_bind.mp h with ⟨t₁, t₂, lines, ht, hlines, h⟩ | ⟨e', he', hlines⟩
  swap
  · rw [← Except.error.inj he'] at hlines
    exact not_path_accountLinesFrom_refused he hlines
  have hlisted : lines = reportedLines t₁ := by simpa using path_accountLinesFrom hlines
  obtain ⟨sendMax, hsendMax, h⟩ := path_lift_bind_refused he h
  obtain ⟨value, hvalue, h⟩ := path_lift_bind_refused he h
  obtain ⟨source, hsource, h⟩ := path_lift_bind_refused he h
  obtain ⟨amount, hamount, h⟩ := path_lift_bind_refused he h
  have hlimit : LimitOf env tx source := ⟨sendMax, value, hsendMax, hvalue, hsource⟩
  have hshown : ∀ info rest, t₂ = ⟨.rpc (.accountInfo issuer), .ok info⟩ :: rest →
      ∃ d, accountDataOf info = .obj d := by
    intro info rest ht₂
    refine hfavours.issuer issuer info hissuer ?_
    simp [Answered, ht, ht₂]
  rcases path_bind.mp h with ⟨t₃, t₄, rate, ht₂, hrate, h⟩ | ⟨e', he', hrate⟩
  swap
  · rw [← Except.error.inj he'] at hrate
    unfold issuerTransferRate at hrate
    obtain ⟨info, t₅, ht₂, hrate⟩ := path_request_bind_refused he hrate
    obtain ⟨d, hd⟩ := hshown info t₅ ht₂
    rw [hd] at hrate
    rcases path_check_bind_refused hrate with ⟨hrefused, -⟩ | ⟨_, -, hrate⟩
    · cases hrefused
    · exact not_path_lift_refused he hrate
  unfold issuerTransferRate at hrate
  obtain ⟨info, t₅, ht₃, hrate⟩ := path_request_bind_ok.mp hrate
  obtain ⟨data, hdata, hrate⟩ := path_check_bind_ok.mp hrate
  obtain ⟨ht₅, hrate⟩ := path_lift_ok.mp hrate
  have hdataOf : accountDataOf info = .obj data := by
    unfold requireAccountData at hdata
    split at hdata
    · next d hd => rw [hd, Except.ok.inj hdata]
    · cases hdata
  -- Whatever refuses from here on has nothing more to read.
  have haffords : t₄ = [] → Affords env tx r payer
      ⟨funds.balance, funds.ownerCount, funds.reserveBase, funds.reserveIncrement, false, lines, rate⟩ := by
    intro ht₄
    refine hfavours.funds pre _ _ rfl ?_
    rw [ht, ht₂, ht₃, ht₅, ht₄]
    exact .issued account state info issuer data t₁ hasset ⟨hreported.account, hreported.reserves⟩ hissuer
      hlisted hdataOf hrate
  obtain ⟨covered, hcovered, h⟩ := path_lift_bind_refused he h
  rcases path_check_bind_refused h with ⟨hrefused, ht₄⟩ | ⟨_, -, h⟩
  · rw [failIf_eq_error hrefused] at hcovered
    refine (haffords ht₄).transfer hasset source amount hlimit hamount ?_
    rw [hissuer]
    exact hcovered
  · obtain ⟨funded, hfunded, h⟩ := path_lift_bind_refused he h
    unfold check at h
    obtain ⟨ht₄, hrefused⟩ := path_ofExcept.mp h
    rw [failIf_eq_error hrefused.symm, hcode] at hfunded
    refine (haffords ht₄).holds hasset source hlimit ?_
    rw [hissuer]
    exact hfunded

theorem not_refused_targetedBalanceCheck {F : ExactXRPLFacilitatorScheme env} {pre : List (Event Op Ret)}
    (he : e.IsRefusal) (hwire : xrplCurrencyCode env r.asset = .ok r.asset) (hshape : WellShaped env r)
    (hstructure : StructureOk F tx r) (hfavours : Favours env tx r payer (pre ++ t)) :
    ¬ Path (targetedBalanceCheck env pages tx r payer) t (.error e) := by
  intro h
  unfold targetedBalanceCheck at h
  -- The account and the reserve are read as funds.
  obtain ⟨account, data, t₁, rfl, hdata, h⟩ := path_accountData_bind_refused he h
  obtain ⟨d, rfl⟩ := hfavours.exists_ account data (by simp [Answered]) hdata
  have h := h d rfl
  obtain ⟨balanceJson, hbalanceJson, h⟩ := path_lift_bind_refused he h
  obtain ⟨balance, hbalance, h⟩ := path_lift_bind_refused he h
  obtain ⟨state, validated, ⟨base, increment⟩, t₂, rfl, hvalidated, hvalues, h⟩ :=
    path_xrpReserveParameters_bind_refused he h
  simp only at h
  obtain ⟨reserve, hreserve, h⟩ := path_lift_bind_refused he h
  obtain ⟨ownerCount, hcount, hnonneg, rfl⟩ := reserve_of_xrpAccountReserve hreserve
  obtain ⟨feeJson, hfeeJson, h⟩ := path_lift_bind_refused he h
  obtain ⟨fee, hfee, h⟩ := path_lift_bind_refused he h
  have hfeeOf : FeeOf env tx fee := feeOf_of_structureOk hstructure hfeeJson hfee
  have hreported : ∀ funds : Funds, funds.balance = balance → funds.ownerCount = ownerCount →
      funds.reserveBase = base → funds.reserveIncrement = increment →
      AccountReported env funds account state := by
    rintro funds rfl rfl rfl rfl
    exact ⟨⟨d, balanceJson, hdata, hbalanceJson, hbalance, hcount, hnonneg⟩, validated, hvalidated, hvalues⟩
  -- What is still unknown of the funds does not matter for the drops.
  let funds : Funds := ⟨balance, ownerCount, base, increment, false, [], 0⟩
  have hdrops := hfavours.drops pre account state t₂ funds rfl (hreported _ rfl rfl rfl rfl) fee hfeeOf
  split at h
  · next hasset =>
    rw [if_pos hasset] at hdrops
    obtain ⟨amount, hamount, h⟩ := path_lift_bind_refused he h
    -- The drops suffice, so only the missing destination can be refused.
    rcases path_check_bind_refused h with ⟨hrefused, -⟩ | ⟨_, -, h⟩
    · exact absurd (hdrops amount hamount) (not_le.mpr (failIf_eq_error hrefused))
    · unfold accountExists at h
      rw [Prog.bind_assoc] at h
      obtain ⟨destination, t₃, rfl, hrest⟩ := path_request_bind_refused he h
      obtain ⟨destinationExists, hexists, hrest⟩ := path_lift_bind_refused he hrest
      unfold check at hrest
      obtain ⟨rfl, hrefused⟩ := path_ofExcept.mp hrest
      obtain ⟨hmissing, hlow⟩ := failIf_eq_error hrefused.symm
      have haffords := hfavours.funds pre _ ⟨balance, ownerCount, base, increment, destinationExists, [], 0⟩
        rfl (.native account state destination hasset (hreported _ rfl rfl rfl rfl) hexists)
      rcases haffords.created hasset amount hamount with hthere | hhigh
      · exact absurd (hmissing.symm.trans hthere) (by decide)
      · exact absurd hhigh (not_le.mpr hlow)
  · next hasset =>
    rw [if_neg hasset] at hdrops
    obtain ⟨issuer, hissuer⟩ := hshape.issuer hasset
    -- The drops pay the fee, so only the trust line can be refused.
    rcases path_check_bind_refused h with ⟨hrefused, -⟩ | ⟨_, -, h⟩
    · exact absurd hdrops (not_le.mpr (failIf_eq_error hrefused))
    · exact not_refused_targetedIouCheck he hasset hwire hissuer (hreported funds rfl rfl rfl rfl) hfavours h

theorem not_refused_funds {F : ExactXRPLFacilitatorScheme env} {pre : List (Event Op Ret)}
    (he : e.IsRefusal) (hwire : xrplCurrencyCode env r.asset = .ok r.asset) (hshape : WellShaped env r)
    (hstructure : StructureOk F tx r) (hfavours : Favours env tx r payer (pre ++ t)) :
    ¬ Path (verifySimulationOrBalances env pages tx r payer) t (.error e) := by
  -- The balances are checked after the simulation, or instead of it.
  have hbalances : ∀ pre' t', pre' ++ t' = pre ++ t → ¬ Path (do
      targetedBalanceCheck env pages tx r payer
      return "targetedChecks" : Service String) t' (.error e) := by
    intro pre' t' ht h
    rw [← ht] at hfavours
    rcases path_bind.mp h with ⟨t₁, t₂, _, rfl, -, h⟩ | ⟨e', he', h⟩
    · cases h.2
    · rw [← Except.error.inj he'] at h
      exact not_refused_targetedBalanceCheck he hwire hshape hstructure hfavours h
  -- A refusal of the simulation ends the check.
  have hsimulation : ∀ t₁ t₂, t = t₁ ++ t₂ →
      ¬ Path (verifySimulation env pages tx r payer) t₁ (.error e) ∨ t₂ ≠ [] := by
    intro t₁ t₂ ht
    by_cases hnil : t₂ = []
    · rw [hnil, List.append_nil] at ht
      subst ht
      refine .inl fun h => ?_
      unfold verifySimulation at h
      obtain ⟨transaction, -, h⟩ := path_lift_bind_refused he h
      obtain ⟨answer, t', rfl, hrest⟩ := path_request_bind_refused he h
      have hsimulated := hfavours.simulated transaction answer (by simp [Answered])
      simp only at hrest
      split at hrest
      · exact hbalances (pre ++ [⟨.rpc (.simulate transaction), .ok answer⟩]) t' (by simp) hrest
      · next havailable =>
        rcases path_check_bind_refused hrest with ⟨hrefused, -⟩ | ⟨_, -, hrest⟩
        · exact failIf_eq_error hrefused (hsimulated.resolve_left havailable)
        · cases hrest.2
    · exact .inr hnil
  intro h
  unfold verifySimulationOrBalances at h
  rcases path_tryCatch.mp h with ⟨a, hr, -⟩ | ⟨t₁, t₂, e', rfl, hfirst, h⟩
  · cases hr
  · cases e' with
    | other e' => exact hbalances (pre ++ t₁) t₂ (by simp) h
    | verification reason message refused =>
      obtain ⟨hnil, heq⟩ := h
      rw [← Except.error.inj heq] at hfirst
      rcases hsimulation t₁ t₂ rfl with hnot | hne
      · exact hnot hfirst
      · exact hne hnil
    | http statusCode detail =>
      obtain ⟨-, heq⟩ := h
      rw [Except.error.inj heq] at he
      exact he

end Refusals

/-- A verification whose instance admits the payment and whose answers favour it
    is passed, if another one was. -/
theorem valid_of_favours {F F' : ExactXRPLFacilitatorScheme env} {pages : Nat} {payload : PaymentPayload}
    {r : PaymentRequirements} {t s : List (Event Op Ret)} {v : VerifyResponse}
    {checked : CheckedTransaction} {account : Dict}
    (hchecked : checkTransaction F payload r = .ok checked)
    (hpassed : SequenceOk checked.tx checked.payer checked.selectedMethod account s)
    (hadmits : Admits F' checked.tx r) (hfavours : Favours env checked.tx r checked.payer t)
    (h : Path (verify F' pages payload r) t (.ok v)) : v.isValid = true := by
  obtain ⟨-, -, -, -, -, hstructure⟩ := checkTransaction_eq_ok hchecked
  obtain ⟨extra, hshape⟩ := shape_of_checkTransaction hchecked
  have hwire := (shapeOk_of_shape hshape).wire
  have hwellShaped := wellShaped_of_shape hshape
  unfold verify at h
  -- A refused verification was refused by one of its three parts.
  rcases path_tryCatch.mp h with ⟨v', hv, h⟩ | ⟨t₁, t₂, e, rfl, hrefused, h⟩
  · obtain ⟨t₁, t₂, verified, -, -, hret⟩ := path_bind_ok.mp h
    rw [Except.ok.inj hv, Except.ok.inj hret.2]
    rfl
  · cases e with
    | verification reason message payer =>
      exfalso
      obtain ⟨rfl, -⟩ := h
      rw [List.append_nil] at hfavours
      have he : (FacilitatorExc.verification reason message payer).IsRefusal := trivial
      -- The transaction itself passes under the other settings.
      rcases path_bind.mp hrefused with ⟨_, _, _, -, -, hret⟩ | ⟨e, he', hrefused⟩
      · cases hret.2
      rw [← Except.error.inj he'] at hrefused
      unfold verifyTransaction at hrefused
      rw [checkTransaction_of_admits hchecked hadmits] at hrefused
      rcases path_check_bind_refused hrefused with ⟨hx, -⟩ | ⟨checked', hx, hrefused⟩
      · cases hx
      rw [← Except.ok.inj hx] at hrefused
      rcases path_bind.mp hrefused with ⟨t₃, t₄, _, rfl, -, hrefused⟩ | ⟨e, he', hrefused⟩
      swap
      · rw [← Except.error.inj he'] at hrefused
        exact not_refused_ledger he hpassed hfavours hrefused
      -- The hash is computed last, and is not refused.
      rcases path_bind.mp hrefused with ⟨t₅, t₆, path, rfl, -, hrefused⟩ | ⟨e, he', hrefused⟩
      · obtain ⟨hash, -, hrefused⟩ := path_lift_bind_refused he hrefused
        cases hrefused.2
      · rw [← Except.error.inj he'] at hrefused
        exact not_refused_funds he hwire hwellShaped hstructure hfavours hrefused
    | other e =>
      obtain ⟨-, h⟩ := h
      cases h
    | http statusCode detail =>
      obtain ⟨-, h⟩ := h
      cases h

end XrplX402.Facilitator
