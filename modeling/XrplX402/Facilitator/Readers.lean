import XrplX402.Facilitator.Outcome
import XrplX402.Facilitator.Soundness
import XrplX402.Py.Integers

/-! # The two readers of a transaction lookup

    Polling and reconciliation interpret the answer to a lookup, each with code
    of its own.

    * `ShowsValidated`, `ShowsSettled`, `ShowsAbsence`: what an answer of the
      node says, field by field.
    * `RaisingAnswer`: the successes whose delivered amount cannot be judged.
    * `readers_agree`, `readers_raise`, `readers_not_validated`: what the two do
      with any answer. -/

namespace XrplX402.Facilitator

open Py Interaction Prog

variable {env : Env}

/-! ## Section 1: What an answer shows -/

/-- The node answers with a transaction that is validated. -/
structure ShowsValidated (answer : Except Exc Json) (d : Dict) : Prop where
  answer : answer = .ok (.obj d)
  noError : Dict.get d "error" = .null
  validated : (Dict.get d "validated").truthy = true

/-- `delivered` is the required amount: the same number of drops, or the same
    currency, issuer and decimal value. -/
def IsRequiredAmount (env : Env) (delivered : Json) (r : PaymentRequirements) : Prop :=
  if r.asset = "XRP" then
    ∃ s drops, delivered = .str s ∧ intOfStr env.unicode s = .ok drops ∧
      intOfStr env.unicode r.amount = .ok drops
  else
    ∃ amount currency issuer value required q, delivered = .obj amount ∧
      xrplCurrencyCode env r.asset = .ok currency ∧ Dict.get amount "currency" = .str currency ∧
      Dict.get r.extraOr "issuer" = .str issuer ∧ Dict.get amount "issuer" = .str issuer ∧
      decimalOfStr env.unicode (str env.unicode (Dict.get amount "value")) = some value ∧
      decimalOfStr env.unicode r.amount = some required ∧ value.Denotes q ∧ required.Denotes q

/-- The answer shows the required payment: validated, with the success code and
    the exact amount in its metadata, under any of the keys in use. -/
structure ShowsSettled (env : Env) (answer : Except Exc Json) (r : PaymentRequirements)
    (d metadata : Dict) (delivered : Json) : Prop extends ShowsValidated answer d where
  metadata_ : Dict.get d "meta" = .obj metadata ∨ Dict.get d "metaData" = .obj metadata
  result : Dict.get metadata "TransactionResult" = .str "tesSUCCESS" ∨
    Dict.get metadata "transaction_result" = .str "tesSUCCESS"
  delivered_ : Dict.get metadata "delivered_amount" = delivered ∨
    Dict.get metadata "DeliveredAmount" = delivered
  required : IsRequiredAmount env delivered r

theorem showsValidated_iff {answer : Except Exc Json} {d : Dict} :
    ShowsValidated answer d ↔ (lookupOf answer).transaction = some d ∧ isValidated d = true := by
  constructor
  · rintro ⟨rfl, hnone, hvalidated⟩
    have hne : d ≠ [] := by
      rintro rfl
      cases hvalidated
    exact ⟨by simp [lookupOf, hnone, hne], hvalidated⟩
  · rintro ⟨hd, hvalidated⟩
    unfold lookupOf at hd
    split at hd
    · next result =>
      split at hd
      · cases hd
      · next hnone =>
        split at hd
        · cases hd
        · obtain rfl := Option.some.inj hd
          exact ⟨rfl, not_not.mp hnone, hvalidated⟩
    · cases hd

/-- Only the string itself is printed as the success code. -/
theorem eq_str_of_str_eq {u : UnicodeData} {j : Json} (h : str u j = "tesSUCCESS") :
    j = .str "tesSUCCESS" := by
  have head : ∀ {c : Char}, (str u j).toList.head? = some c → c = 't' := by
    intro c hc
    rw [h] at hc
    exact (Option.some.inj hc).symm
  cases j with
  | null =>
    have hword : "None" = "tesSUCCESS" := by rw [← h, str, Py.repr]; simp
    exact absurd hword (by decide)
  | bool b =>
    have hword : (if b then "True" else "False") = "tesSUCCESS" := by rw [← h, str, Py.repr]; simp
    cases b <;> exact absurd hword (by decide)
  | int n =>
    cases n with
    | ofNat m =>
      have hdigits : 't' ∈ Nat.toDigits 10 m := by
        rw [← toList_toString, show toString m = "tesSUCCESS" from h]
        decide
      exact absurd (isAsciiDigit_of_mem_toDigits hdigits) (by decide)
    | negSucc m =>
      have hminus : (str u (.int (.negSucc m))).toList.head? = some '-' := by
        show ("-" ++ Nat.repr (m + 1)).toList.head? = _
        rw [String.toList_append]
        rfl
      exact absurd (head hminus) (by decide)
  | float x =>
    have htext : x.text = "tesSUCCESS" := by
      have hrepr : reprFloat x = "tesSUCCESS" := h
      unfold reprFloat at hrepr
      split at hrepr
      · exact absurd hrepr (by decide)
      · split at hrepr
        · exact absurd hrepr (by decide)
        · exact hrepr
    have hfloat := x.isFloat
    rw [htext] at hfloat
    exact absurd hfloat (by decide)
  | str s => exact congrArg Json.str h
  | arr xs =>
    have hbracket : (str u (.arr xs)).toList.head? = some '[' := by simp [str, Py.repr]
    exact absurd (head hbracket) (by decide)
  | obj kvs =>
    have hbrace : (str u (.obj kvs)).toList.head? = some '\x7b' := by simp [str, Py.repr]
    exact absurd (head hbrace) (by decide)

theorem eq_or_eq_of_or {a b j : Json} (h : a.or b = j) : a = j ∨ b = j := by
  unfold Json.or at h
  split at h
  · exact .inl h
  · exact .inr h

/-- The success code stands in metadata of the answer. -/
theorem metadata_of_succeeded {d metadata : Dict} (hmeta : metaOf d = .obj metadata)
    (h : transactionResult env d = "tesSUCCESS") :
    (Dict.get d "meta" = .obj metadata ∨ Dict.get d "metaData" = .obj metadata) ∧
      (Dict.get metadata "TransactionResult" = .str "tesSUCCESS" ∨
        Dict.get metadata "transaction_result" = .str "tesSUCCESS") := by
  have hresult : Dict.get metadata "TransactionResult" = .str "tesSUCCESS" ∨
      Dict.get metadata "transaction_result" = .str "tesSUCCESS" := by
    unfold transactionResult at h
    rw [hmeta] at h
    rcases eq_or_eq_of_or (eq_str_of_str_eq h) with hupper | hrest
    · exact .inl hupper
    · rcases eq_or_eq_of_or hrest with hlower | hunknown
      · exact .inr hlower
      · exact absurd hunknown (by decide)
  refine ⟨?_, hresult⟩
  rcases eq_or_eq_of_or hmeta with hshort | hrest
  · exact .inl hshort
  · rcases eq_or_eq_of_or hrest with hlong | hempty
    · exact .inr hlong
    · -- Empty metadata has no code.
      obtain rfl : [] = metadata := Json.obj.inj hempty
      rcases hresult with hcode | hcode <;> cases hcode

/-- The delivered amount in the answer `d` is the required one. -/
def DeliversExactly (env : Env) (d : Dict) (r : PaymentRequirements) : Prop :=
  ∃ metadata, metaOf d = .obj metadata ∧ IsRequiredAmount env (deliveredAmount metadata) r

theorem showsSettled_of_deliversExactly {answer : Except Exc Json} {d : Dict} {r : PaymentRequirements}
    (hanswer : ShowsValidated answer d) (hcode : transactionResult env d = "tesSUCCESS")
    (h : DeliversExactly env d r) :
    ∃ metadata delivered, ShowsSettled env answer r d metadata delivered := by
  obtain ⟨metadata, hmeta, hrequired⟩ := h
  obtain ⟨hmetadata, hresult⟩ := metadata_of_succeeded hmeta hcode
  refine ⟨metadata, deliveredAmount metadata, hanswer, hmetadata, hresult, ?_, hrequired⟩
  unfold deliveredAmount Dict.get
  cases Dict.get? metadata "delivered_amount" with
  | none => exact .inr rfl
  | some delivered => exact .inl rfl

theorem deliversExactly_xrp {metadata d : Dict} {r : PaymentRequirements}
    (hm : metaOf d = .obj metadata) (hasset : r.asset = "XRP")
    (h : xrpDelivered env (deliveredAmount metadata) r = .ok true) : DeliversExactly env d r := by
  refine ⟨metadata, hm, ?_⟩
  unfold IsRequiredAmount
  rw [if_pos hasset]
  unfold xrpDelivered at h
  split at h
  · next s hs =>
    split at h
    · obtain ⟨drops, hdrops, h⟩ := bind_eq_ok.mp h
      obtain ⟨required, hrequired, h⟩ := bind_eq_ok.mp h
      have heq : drops = required := by simpa using Except.ok.inj h
      exact ⟨s, drops, hs, hdrops, heq ▸ hrequired⟩
    · cases h
  · cases h

theorem deliversExactly_iou {metadata d : Dict} {r : PaymentRequirements} (hr : WellShaped env r)
    (hm : metaOf d = .obj metadata) (hasset : r.asset ≠ "XRP")
    (h : iouDelivered env (deliveredAmount metadata) r = .ok true) : DeliversExactly env d r := by
  -- An accepted IOU is an amount of the issuer whose value compares equal.
  obtain ⟨issuer, hissuer⟩ := hr.issuer hasset
  refine ⟨metadata, hm, ?_⟩
  unfold IsRequiredAmount
  rw [if_neg hasset]
  unfold iouDelivered at h
  split at h
  · next amount hamount =>
    obtain ⟨currency, hcurrency, h⟩ := bind_eq_ok.mp h
    split at h
    · cases h
    · next hsame =>
      obtain ⟨hcode, hsameIssuer⟩ := not_or.mp hsame
      have hactual : Dict.get amount "issuer" = .str issuer := by
        have heq : (Dict.get amount "issuer").pyEq (.str issuer) = true := by
          rw [← hissuer]
          simpa using hsameIssuer
        simpa using heq
      -- The comparison is exact: no rounding hides a difference.
      obtain ⟨order, horder, h⟩ := bind_eq_ok.mp h
      have hzero : order = 0 := by simpa using Except.ok.inj h
      obtain ⟨value, required, q, hvalue, hrequired, hq, hexact, -⟩ :=
        compareDecimalStrings_amount (hr.decimal hasset) horder
      exact ⟨amount, currency, issuer, value, required, q, hamount, hcurrency, not_not.mp hcode,
        hissuer, hactual, hvalue, hrequired, hexact hzero, hq⟩
  · cases h

theorem deliversExactly_of_showsPayment {d : Dict} {r : PaymentRequirements} (hr : WellShaped env r)
    (h : ShowsPayment env d r) : DeliversExactly env d r := by
  have hd := h.delivered
  unfold deliveredAmountError at hd
  split at hd
  · next metadata hm =>
    simp only at hd
    split at hd
    · cases hd
    · obtain ⟨equal, heq, hd⟩ := bind_eq_ok.mp hd
      cases equal with
      | false => cases hd
      | true =>
        unfold amountDelivered at heq
        split at heq
        · next hasset => exact deliversExactly_xrp hm hasset heq
        · next hasset => exact deliversExactly_iou hr hm hasset heq
  · cases hd

/-! ## Section 2: Amounts that cannot be judged -/

/-- The text is a number that can be compared. -/
def Comparable (env : Env) (s : String) : Prop :=
  ∃ d, decimalOfStr env.unicode s = some d ∧ ∀ signaling, d ≠ .nan signaling

/-- The comparison of the delivered amount with the required one raises. -/
inductive Unreadable (env : Env) (r : PaymentRequirements) : Json → Prop where
  /-- Drops in digits that `int()` does not read, as superscripts are. -/
  | drops {s : String} (asset : r.asset = "XRP") (digits : env.unicode.isDigitStr s = true)
      (number : ¬ ((∃ n, intOfStr env.unicode s = .ok n) ∧ ∃ n, intOfStr env.unicode r.amount = .ok n)) :
      Unreadable env r (.str s)
  /-- An amount, where the required asset has no wire code. -/
  | asset {amount : Dict} (asset : r.asset ≠ "XRP") (wire : ∀ wire, xrplCurrencyCode env r.asset ≠ .ok wire) :
      Unreadable env r (.obj amount)
  /-- An amount of the required currency and issuer whose value is not a number. -/
  | value {amount : Dict} {wire : String} (asset : r.asset ≠ "XRP")
      (wireCode : xrplCurrencyCode env r.asset = .ok wire)
      (currency : Dict.get amount "currency" = .str wire)
      (issuer : (Dict.get amount "issuer").pyEq (Dict.get r.extraOr "issuer") = true)
      (number : ¬ (Comparable env (str env.unicode (Dict.get amount "value")) ∧ Comparable env r.amount)) :
      Unreadable env r (.obj amount)

/-- A success that neither reader can judge. -/
def RaisingAnswer (env : Env) (d : Dict) (r : PaymentRequirements) : Prop :=
  transactionResult env d = "tesSUCCESS" ∧
    ∃ metadata, metaOf d = .obj metadata ∧ Unreadable env r (deliveredAmount metadata)

section Amounts

variable {r : PaymentRequirements} {d : Dict}

theorem exists_bind_eq_error {α β : Type} {x : Except Exc α} {f : α → Except Exc β} :
    (∃ e, (x >>= f) = .error e) ↔ (∀ a, x ≠ .ok a) ∨ ∃ a, x = .ok a ∧ ∃ e, f a = .error e := by
  cases x with
  | error e =>
    have hnone : ∀ a : α, (.error e : Except Exc α) ≠ .ok a := by simp
    exact ⟨fun _ => .inl hnone, fun _ => ⟨e, rfl⟩⟩
  | ok a =>
    refine ⟨fun ⟨e, h⟩ => .inr ⟨a, rfl, e, h⟩, ?_⟩
    rintro (h | ⟨a', ha, e, h⟩)
    · exact absurd rfl (h a)
    · obtain rfl := Except.ok.inj ha
      exact ⟨e, h⟩

theorem compareDecimalStrings_raises_iff_cmp {left right : String} {a b : Decimal}
    (hleft : decimalOfStr env.unicode left = some a) (hright : decimalOfStr env.unicode right = some b) :
    (∃ e, compareDecimalStrings env left right = .error e) ↔ Decimal.cmp a b = none := by
  unfold compareDecimalStrings decimalOrInvalid
  rw [hleft, hright]
  cases hcmp : Decimal.cmp a b with
  | none => simp [exists_bind_eq_error, hcmp, throw, throwThe, MonadExceptOf.throw]
  | some order => cases order <;> simp [exists_bind_eq_error, hcmp, pure, Except.pure]

theorem compareDecimalStrings_raises_iff {left right : String} :
    (∃ e, compareDecimalStrings env left right = .error e) ↔
      ¬ (Comparable env left ∧ Comparable env right) := by
  unfold Comparable
  cases hleft : decimalOfStr env.unicode left with
  | none => simp [compareDecimalStrings, decimalOrInvalid, hleft, exists_bind_eq_error]
  | some a =>
    cases hright : decimalOfStr env.unicode right with
    | none => simp [compareDecimalStrings, decimalOrInvalid, hleft, hright, exists_bind_eq_error]
    | some b =>
      rw [compareDecimalStrings_raises_iff_cmp hleft hright]
      cases a <;> cases b <;> simp [Decimal.cmp]

theorem xrpDelivered_raises_iff (hasset : r.asset = "XRP") {delivered : Json} :
    (∃ e, xrpDelivered env delivered r = .error e) ↔ Unreadable env r delivered := by
  constructor
  · rintro ⟨e, h⟩
    unfold xrpDelivered at h
    split at h
    · next s =>
      split at h
      · next hdigits =>
        refine .drops hasset hdigits fun ⟨⟨n, hn⟩, m, hm⟩ => ?_
        rw [hn, hm] at h
        cases h
      · cases h
    · cases h
  · intro h
    cases h with
    | @drops s _ digits number =>
      rw [xrpDelivered, if_pos digits, exists_bind_eq_error]
      by_cases hs : ∃ n, intOfStr env.unicode s = .ok n
      · obtain ⟨n, hn⟩ := hs
        exact .inr ⟨n, hn, exists_bind_eq_error.mpr (.inl fun m hm => number ⟨⟨n, hn⟩, m, hm⟩)⟩
      · exact .inl fun n hn => hs ⟨n, hn⟩
    | asset hne => exact absurd hasset hne
    | value hne => exact absurd hasset hne

theorem iouDelivered_raises_iff (hasset : r.asset ≠ "XRP") {delivered : Json} :
    (∃ e, iouDelivered env delivered r = .error e) ↔ Unreadable env r delivered := by
  constructor
  -- Only the wire code of the asset and the comparison raise.
  · rintro ⟨e, h⟩
    unfold iouDelivered at h
    split at h
    · next amount =>
      rcases exists_bind_eq_error.mp ⟨e, h⟩ with hnone | ⟨wire, hwire, e', h⟩
      · exact .asset hasset hnone
      · split at h
        · cases h
        · next hsame =>
          obtain ⟨hcurrency, hissuer⟩ := not_or.mp hsame
          refine .value hasset hwire (not_not.mp hcurrency) (by simpa using hissuer) ?_
          rw [← compareDecimalStrings_raises_iff]
          rcases exists_bind_eq_error.mp ⟨e', h⟩ with hnone | ⟨order, _, _, hraise⟩
          · cases hcompare : compareDecimalStrings env (str env.unicode (Dict.get amount "value")) r.amount with
            | error e' => exact ⟨e', rfl⟩
            | ok order => exact absurd hcompare (hnone order)
          · cases hraise
    · cases h
  · intro h
    cases h with
    | drops heq => exact absurd heq hasset
    | asset _ wire => exact exists_bind_eq_error.mpr (.inl wire)
    | value _ wireCode currency issuer number =>
      refine exists_bind_eq_error.mpr (.inr ⟨_, wireCode, ?_⟩)
      rw [if_neg (by simp [currency, issuer])]
      obtain ⟨e, he⟩ := compareDecimalStrings_raises_iff.mpr number
      exact exists_bind_eq_error.mpr (.inl fun order horder => by cases he.symm.trans horder)

/-- What the metadata must deliver for the judgement to raise. -/
theorem deliveredAmountError_raises_iff :
    (∃ e, deliveredAmountError env d r = .error e) ↔
      ∃ metadata, metaOf d = .obj metadata ∧ Unreadable env r (deliveredAmount metadata) := by
  -- The two kinds of amounts raise on what is unreadable for them.
  have hamount : ∀ delivered, (∃ e, amountDelivered env delivered r = .error e) ↔
      Unreadable env r delivered := by
    intro delivered
    unfold amountDelivered
    split
    · next hasset => exact xrpDelivered_raises_iff hasset
    · next hasset => exact iouDelivered_raises_iff hasset
  constructor
  · rintro ⟨e, h⟩
    unfold deliveredAmountError at h
    split at h
    · next metadata hmeta =>
      simp only at h
      split at h
      · cases h
      · refine ⟨metadata, hmeta, (hamount _).mp ?_⟩
        rcases exists_bind_eq_error.mp ⟨e, h⟩ with hnone | ⟨equal, _, _, hraise⟩
        · cases heq : amountDelivered env (deliveredAmount metadata) r with
          | error e' => exact ⟨e', rfl⟩
          | ok equal => exact absurd heq (hnone equal)
        · cases hraise
    · cases h
  · rintro ⟨metadata, hmeta, hunreadable⟩
    -- Unreadable amounts are known ones.
    have hknown : ¬ (deliveredAmount metadata = .null ∨ deliveredAmount metadata = .str "unavailable") := by
      rintro (hnull | hword)
      · rw [hnull] at hunreadable
        cases hunreadable
      · rw [hword] at hunreadable
        cases hunreadable with
        | drops _ digits =>
          have hletter : env.unicode.digit 'u' = isAsciiDigit 'u' := env.unicode.digit_ascii 'u' (by decide)
          simp [UnicodeData.isDigitStr, hletter, isAsciiDigit] at digits
    obtain ⟨e, he⟩ := (hamount _).mpr hunreadable
    unfold deliveredAmountError
    rw [hmeta]
    simp only [if_neg hknown]
    exact exists_bind_eq_error.mpr (.inl fun equal hequal => by cases he.symm.trans hequal)

end Amounts

/-! ## Section 3: What the readers do -/

/-- The lookup of the transaction of `st`, with its answer. -/
def lookupEvent (st : XRPLSettlementState) (answer : Except Exc Json) : Event Op Ret :=
  ⟨.rpc (.tx st.transaction st.firstLedgerSequence st.lastLedgerSequence), answer⟩

/-- Store a verdict on `st` and answer with it. -/
def StoresVerdict (env : Env) (st : XRPLSettlementState) (r : PaymentRequirements) (ttl : Int)
    (p : Service SettleResponse) : Prop :=
  ∃ status result, status ≠ .pending ∧
    p = .call (.update (st.withResult status result) ttl) fun _ =>
      .ret (stateResponse env (st.withResult status result) r.amount)

/-- The node answers that it searched the whole window and found nothing. -/
def ShowsAbsence (answer : Except Exc Json) : Prop :=
  ∃ d, answer = .ok (.obj d) ∧ Dict.get d "error" = .str "txnNotFound" ∧
    Dict.get d "searched_all" = .bool true

/-- Store nothing, or an expiry if the answer shows the transaction's absence. -/
def StoresAtMostExpiry (st : XRPLSettlementState) (answer : Except Exc Json) (o : Op) : Prop :=
  o.isReserve = false ∧ ∀ st' ttl, o = .update st' ttl →
    ShowsAbsence answer ∧ st' = st.withResult .failed (errorResult "transaction_expired")

/-- Both readers of the answer go on with `p`. -/
def BothGoOn (env : Env) (st : XRPLSettlementState) (r : PaymentRequirements) (ttl : Int) (n : Nat)
    (answer : Except Exc Json) (p : Service SettleResponse) : Prop :=
  Steps (waitForValidation env st r ttl (n + 1)) [lookupEvent st answer] p ∧
    Steps (reconcile env st r ttl) [lookupEvent st answer] p

section Readers

variable {st : XRPLSettlementState} {r : PaymentRequirements} {ttl : Int} {n : Nat}
variable {answer : Except Exc Json} {d : Dict}

theorem deliveredAmountError_ne_empty {e : String}
    (h : deliveredAmountError env d r = .ok (some e)) : e ≠ "" := by
  unfold deliveredAmountError at h
  split at h
  · simp only at h
    split at h
    · rw [← Option.some.inj (Except.ok.inj h)]
      decide
    · obtain ⟨equal, _, h⟩ := bind_eq_ok.mp h
      cases equal with
      | true => cases h
      | false =>
        rw [← Option.some.inj (Except.ok.inj h)]
        decide
  · rw [← Option.some.inj (Except.ok.inj h)]
    decide

/-- An amount that cannot be judged makes both raise. -/
theorem readers_raise (hst : st.status = .pending) (h : ShowsValidated answer d)
    (hraising : RaisingAnswer env d r) : ∃ e, BothGoOn env st r ttl n answer (.raise e) := by
  obtain ⟨hd, hv⟩ := showsValidated_iff.mp h
  obtain ⟨hcode, hunreadable⟩ := hraising
  obtain ⟨e, hde⟩ := deliveredAmountError_raises_iff.mpr hunreadable
  have hfilter : (lookupOf answer).transaction.filter isValidated = some d := by
    rw [hd, Option.filter_some, if_pos hv]
  refine ⟨.other e, ⟨answer, rfl, ?_⟩, ?_⟩
  · simp only [Steps, Prog.bind, hd, hv, hcode, and_self, if_true, hde]
    rfl
  · unfold reconcile
    rw [if_neg (not_not.mpr hst)]
    refine ⟨answer, rfl, ?_⟩
    simp only [Steps, Prog.bind, hfilter, reconcileDeliveredError, hcode, if_true, hde]
    rfl

/-- Every other validated answer is read alike by the two. -/
theorem readers_agree (hst : st.status = .pending) (h : ShowsValidated answer d)
    (hreadable : ¬ RaisingAnswer env d r) :
    ∃ p, BothGoOn env st r ttl n answer p ∧ StoresVerdict env st r ttl p := by
  obtain ⟨hd, hv⟩ := showsValidated_iff.mp h
  -- Both readers see the same validated transaction.
  have hfilter : (lookupOf answer).transaction.filter isValidated = some d := by
    rw [hd, Option.filter_some, if_pos hv]
  unfold BothGoOn reconcile
  rw [if_neg (not_not.mpr hst)]
  by_cases hcode : transactionResult env d = "tesSUCCESS"
  -- A success is judged by its delivered amount.
  · cases hde : deliveredAmountError env d r with
    | error e => exact absurd ⟨hcode, deliveredAmountError_raises_iff.mp ⟨e, hde⟩⟩ hreadable
    | ok error =>
      cases error with
      | none =>
        refine ⟨_, ⟨⟨answer, rfl, ?_⟩, answer, rfl, ?_⟩, .validated, amountResult r.amount, by decide, rfl⟩
        · simp only [Steps, Prog.bind, hd, hv, hcode, and_self, if_true, hde]
          rfl
        · simp only [Steps, Prog.bind, hfilter, reconcileDeliveredError, hcode, if_true, hde]
          rfl
      | some error =>
        have hne := deliveredAmountError_ne_empty hde
        refine ⟨_, ⟨⟨answer, rfl, ?_⟩, answer, rfl, ?_⟩, .failed, errorResult error, by decide, rfl⟩
        · simp only [Steps, Prog.bind, hd, hv, hcode, and_self, if_true, hde]
          rfl
        · have hverdict : reconcileVerdict st (transactionResult env d) (some error) r =
              st.withResult .failed (errorResult error) := by
            simp [reconcileVerdict, Option.filter_some, hne]
          simp only [Steps, Prog.bind, hfilter, reconcileDeliveredError, hcode, if_true, hde]
          rw [← hverdict, hcode]
          rfl
  -- Any other code is a failure with this code.
  · have hverdict : reconcileVerdict st (transactionResult env d) none r =
        st.withResult .failed (errorResult ("transaction_failed: " ++ transactionResult env d)) := by
      simp [reconcileVerdict, hcode]
    refine ⟨_, ⟨⟨answer, rfl, ?_⟩, answer, rfl, ?_⟩, .failed,
      errorResult ("transaction_failed: " ++ transactionResult env d), by decide, rfl⟩
    · simp only [Steps, Prog.bind, hd, hv, hcode, and_false, if_false, if_true]
      rfl
    · simp only [Steps, Prog.bind, hfilter, reconcileDeliveredError, hcode, if_false]
      rw [← hverdict]
      rfl

theorem showsAbsence_of_lookupOf (h : (lookupOf answer).authoritativeAbsence = true) :
    ShowsAbsence answer := by
  unfold lookupOf at h
  split at h
  · next result =>
    split at h
    · simp only [Bool.and_eq_true, decide_eq_true_eq] at h
      exact ⟨result, rfl, h⟩
    · split at h <;> cases h
  · cases h

/-- On any other answer polling goes on, and reconciliation may store an expiry. -/
theorem readers_not_validated (hst : st.status = .pending) (hnone : ∀ d, ¬ ShowsValidated answer d) :
    Steps (waitForValidation env st r ttl (n + 1)) [lookupEvent st answer]
        (waitForValidation env st r ttl n) ∧
      ∃ p, Steps (reconcile env st r ttl) [lookupEvent st answer] p ∧
        p.Uses (StoresAtMostExpiry st answer) := by
  have hv : (lookupOf answer).transaction.filter isValidated = none := by
    rw [Option.filter_eq_none_iff]
    intro d hd hvalidated
    exact hnone d (showsValidated_iff.mpr ⟨hd, hvalidated⟩)
  -- Polling goes on.
  constructor
  · refine ⟨answer, rfl, ?_⟩
    cases hd : (lookupOf answer).transaction with
    | none =>
      simp only [Steps, Prog.bind, hd]
    | some d =>
      have hnot : isValidated d = false := by
        simpa [hd, Option.filter_some] using hv
      simp only [Steps, Prog.bind, hd, hnot, Bool.false_eq_true, false_and, if_false]
  -- Reconciliation looks at the absence of the transaction.
  · unfold reconcile
    rw [if_neg (not_not.mpr hst)]
    refine ⟨_, ⟨answer, rfl, rfl⟩, ?_⟩
    simp only [Prog.bind, hv]
    split
    · next habsent =>
      unfold reconcileAbsence
      rw [currentLedgerOrNone_eq]
      refine ⟨⟨rfl, fun _ _ h => by cases h⟩, fun a => ?_⟩
      simp only [Prog.bind]
      split
      · refine ⟨⟨rfl, fun st' ttl' h => ?_⟩, fun _ => trivial⟩
        cases h
        exact ⟨showsAbsence_of_lookupOf habsent, rfl⟩
      · trivial
    · trivial

end Readers

end XrplX402.Facilitator
