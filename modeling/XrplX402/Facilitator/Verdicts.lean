import XrplX402.Core.Hex
import XrplX402.Facilitator.Refusals
import XrplX402.Interaction.Total

/-! # Malformed input is a verdict

    Where the node answers in the documented form, nothing but the input can make
    the verification raise something that is not a refusal.

    * `WellFormed`: the documented answers of a node.
    * `Serves`: a program that ends, with a value or a refusal, on such answers.
    * `verify` returns a response exactly when its input is not one of `Raises`. -/

namespace XrplX402.Facilitator

open Py Interaction Prog

variable {env : Env}

/-! ## Section 1: Documented answers -/

/-- Where the pages of a listing stand; no marker comes twice. -/
structure Paging where
  position : String → Nat
  last : Nat

def Paging.at (P : Paging) (env : Env) (marker : Json) : Nat :=
  if marker = .null then 0 else P.position (repr env.unicode marker) + 1

/-- The page after `marker` ends the listing, or names a later page. -/
def Paging.Leads (P : Paging) (env : Env) (marker next : Json) : Prop :=
  next ≠ .null → P.at env marker < P.at env next ∧ P.at env next ≤ P.last

/-- The fields of an account root. -/
structure AccountData (env : Env) (data : Dict) : Prop where
  flags : ∃ n, Dict.get? data "Flags" = some (.int n)
  balance : ∃ s n, Dict.get? data "Balance" = some (.str s) ∧ intOfStr env.unicode s = .ok n
  ownerCount : ∃ n, Dict.get data "OwnerCount" = .int n ∧ 0 ≤ n
  transferRate : ∃ n, (Dict.get? data "TransferRate").getD (.int 1000000000) = .int n ∧
    1000000000 ≤ n ∧ n ≤ 2000000000

/-- The account, or that there is none. -/
def IsAccount (env : Env) (result : Dict) : Prop :=
  (∃ data, Dict.get result "account_data" = .obj data ∧ AccountData env data) ∨
    (Dict.get result "account_data" = .null ∧ Dict.get result "error" = .str "actNotFound")

structure Reserves (result : Dict) : Prop where
  values : ∃ state validated base increment, Dict.get result "state" = .obj state ∧
    Dict.get state "validated_ledger" = .obj validated ∧
    Dict.get? validated "reserve_base" = some (.int base) ∧ 0 ≤ base ∧
    Dict.get? validated "reserve_inc" = some (.int increment) ∧ 0 ≤ increment

/-- A trust line with a decimal balance. -/
def IsTrustLine (env : Env) (line : Dict) : Prop :=
  ∃ value q, decimalOfStr env.unicode
    (str env.unicode ((Dict.get? line "balance").getD (.str "0"))) = some value ∧ value.Denotes q

/-- The answers of a node that works. The simulation may answer anything, or
    fail. -/
def WellFormed (env : Env) (P : Paging) : (o : Op) → Ret o → Prop
  | .rpc .ledger, answer => ∃ d n, answer = .ok (.obj d) ∧
      Dict.get? d "ledger_index" = some (.int n) ∧ 0 < n
  | .rpc (.accountInfo _), answer => ∃ d, answer = .ok (.obj d) ∧ IsAccount env d
  | .rpc (.accountObjects _ marker), answer => ∃ d objects, answer = .ok (.obj d) ∧
      (Dict.get? d "account_objects").getD (.arr []) = .arr objects ∧
      P.Leads env marker (Dict.get d "marker")
  | .rpc (.accountLines _ _ marker), answer => ∃ d lines, answer = .ok (.obj d) ∧
      (Dict.get? d "lines").getD (.arr []) = .arr lines ∧
      (∀ line, .obj line ∈ lines → IsTrustLine env line) ∧ P.Leads env marker (Dict.get d "marker")
  | .rpc .serverState, answer => ∃ d, answer = .ok (.obj d) ∧ Reserves d
  | _, _ => True

/-! ## Section 2: Programs that serve -/

/-- A value as `V` says, or a refusal. -/
def Yields {α : Type} (V : α → Prop) : Check α → Prop
  | .ok a => V a
  | .error e => IsRefusal e

/-- On well-formed answers the program ends, with a value as `V` says or with a
    refusal. -/
structure Serves {α : Type} (env : Env) (P : Paging) (V : α → Prop) (p : Service α) : Prop where
  total : Total (WellFormed env P) (Yields V) p

section Serves

variable {α β : Type} {P : Paging} {V : α → Prop} {W : β → Prop}

theorem Serves.bind {p : Service α} {f : α → Service β} (hp : Serves env P V p)
    (hf : ∀ a, V a → Serves env P W (f a)) : Serves env P W (p >>= f) := by
  constructor
  apply hp.total.bind
  · intro a ha
    exact (hf a ha).total
  · intro e he
    exact he

theorem serves_ret {a : α} (h : V a) : Serves env P V (return a) := ⟨h⟩

theorem serves_check {x : Check α} (hx : Refuses x) (hV : ∀ a, x = .ok a → V a) :
    Serves env P V (check x) := by
  constructor
  apply total_ofExcept.mpr
  cases x with
  | ok a => exact hV a rfl
  | error e => exact hx e rfl

theorem serves_refuses {x : Check α} (hx : Refuses x) : Serves env P (fun _ => True) (check x) :=
  serves_check hx fun _ _ => trivial

theorem serves_lift {x : Except Exc α} (h : ∃ a, x = .ok a ∧ V a) : Serves env P V (lift x) := by
  obtain ⟨a, rfl, ha⟩ := h
  exact ⟨ha⟩

/-- A request whose well-formed answers are values. -/
theorem serves_request {q : RpcRequest} {V : Json → Prop}
    (h : ∀ answer, WellFormed env P (.rpc q) answer → ∃ result, answer = .ok result ∧ V result) :
    Serves env P V (request q) := by
  constructor
  intro answer hanswer
  obtain ⟨result, rfl, hresult⟩ := h answer hanswer
  exact hresult

/-! ### Single queries -/

theorem subscript_obj {d : Dict} {k : String} {v : Json} (h : Dict.get? d k = some v) :
    subscript (.obj d) k = .ok v := by
  simp only [subscript, h]

theorem serves_currentLedger : Serves env P (0 < ·) (currentLedger env) := by
  constructor
  intro answer hanswer
  obtain ⟨d, n, rfl, hindex, hpos⟩ := hanswer
  apply (serves_lift ?_).total
  refine ⟨n, ?_, hpos⟩
  apply bind_eq_ok.mpr
  refine ⟨.obj d, rfl, bind_eq_ok.mpr ⟨.int n, subscript_obj hindex, rfl⟩⟩

theorem serves_accountInfo (account : String) :
    Serves env P (fun result => ∃ d, result = .obj d ∧ IsAccount env d)
      (request (.accountInfo account)) := by
  apply serves_request
  intro answer hanswer
  obtain ⟨d, rfl, hd⟩ := hanswer
  exact ⟨.obj d, rfl, d, rfl, hd⟩

theorem serves_requireAccountData {d : Dict} {reason payer : String} (hd : IsAccount env d) :
    Serves env P (AccountData env)
      (check (requireAccountData (Dict.get d "account_data") reason payer)) := by
  unfold requireAccountData
  rcases hd with ⟨data, hdata, hfields⟩ | ⟨hnull, -⟩
  · rw [hdata]
    apply serves_check
    · exact refuses_ok data
    · intro a ha
      rw [← Except.ok.inj ha]
      exact hfields
  -- A node that does not know the account is refused.
  · rw [hnull]
    apply serves_check
    · exact refuses_error _ _ _
    · intro a ha
      cases ha

theorem serves_accountData (account : String) :
    Serves env P (AccountData env) (accountData account) := by
  unfold accountData
  apply (serves_accountInfo account).bind
  intro result hresult
  obtain ⟨d, rfl, hd⟩ := hresult
  exact serves_requireAccountData hd

theorem serves_issuerTransferRate (issuer payer : String) :
    Serves env P (fun rate => 1000000000 ≤ rate ∧ rate ≤ 2000000000)
      (issuerTransferRate issuer payer) := by
  unfold issuerTransferRate
  apply (serves_accountInfo issuer).bind
  intro result hresult
  obtain ⟨d, rfl, hd⟩ := hresult
  apply (serves_requireAccountData hd).bind
  intro data hdata
  obtain ⟨n, hn, hlow, hhigh⟩ := hdata.transferRate
  apply serves_lift
  refine ⟨n, ?_, hlow, hhigh⟩
  unfold transferRateOf
  rw [hn]
  exact if_pos ⟨hlow, hhigh⟩

theorem serves_accountExists (account : String) :
    Serves env P (fun _ => True) (accountExists account) := by
  unfold accountExists
  apply (serves_accountInfo account).bind
  intro result hresult
  obtain ⟨d, rfl, hd⟩ := hresult
  apply serves_lift
  rcases hd with ⟨data, hdata, -⟩ | ⟨hnull, herror⟩
  · exact ⟨true, by simp only [accountExistsIn, hdata], trivial⟩
  · exact ⟨false, by simp [accountExistsIn, hnull, herror], trivial⟩

theorem serves_xrpReserveParameters :
    Serves env P (fun _ => True) (xrpReserveParameters env) := by
  unfold xrpReserveParameters
  have hanswers : Serves env P (fun result => ∃ d, result = .obj d ∧ Reserves d)
      (request .serverState) := by
    apply serves_request
    intro answer hanswer
    obtain ⟨d, rfl, hd⟩ := hanswer
    exact ⟨.obj d, rfl, d, rfl, hd⟩
  apply hanswers.bind
  intro result hresult
  -- Both reserves are there and positive in every well-formed answer.
  obtain ⟨d, rfl, ⟨state, validated, base, increment, hstate, hvalidated, hbase, hpos, hincrement,
    hpos'⟩⟩ := hresult
  apply Serves.bind (V := (· = validated))
  · apply serves_lift
    refine ⟨validated, ?_, rfl⟩
    unfold validatedLedgerOf
    simp only [Json.asDict?, Option.bind_some, hstate, hvalidated]
  intro data hdata
  rw [hdata]
  apply serves_lift
  refine ⟨(base, increment), ?_, trivial⟩
  unfold reserveValues
  rw [subscript_obj hbase, subscript_obj hincrement]
  show (if base < 0 ∨ increment < 0 then _ else Except.ok (base, increment)) = _
  apply if_neg
  omega

/-! ### Listings -/

/-- A marker that leads on has not been seen. -/
theorem markerKey_ok {method : String} {seen : List String} {marker next : Json}
    (hseen : ∀ key ∈ seen, P.position key < P.at env marker) (hnext : next ≠ .null)
    (hleads : P.Leads env marker next) :
    ∃ key, markerKey env method seen next = .ok key ∧
      ∀ key' ∈ key :: seen, P.position key' < P.at env next := by
  obtain ⟨hlt, -⟩ := hleads hnext
  have hposition : P.position (repr env.unicode next) + 1 = P.at env next := by
    unfold Paging.at
    rw [if_neg hnext]
  -- The new marker lies further on than all that were seen, so it is not among them.
  have hnew : repr env.unicode next ∉ seen := by
    intro hmem
    have hbefore := hseen _ hmem
    omega
  refine ⟨repr env.unicode next, if_neg hnew, ?_⟩
  intro key hkey
  rcases List.mem_cons.mp hkey with rfl | hkey
  · omega
  · have hbefore := hseen key hkey
    omega

/-- What is left of the listing is less than the pages that may be asked for. -/
theorem serves_ticketIsAvailableFrom (payer : String) (ticket : Int) {pages : Nat} {marker : Json}
    {seen : List String} (hseen : ∀ key ∈ seen, P.position key < P.at env marker)
    (hmarker : P.at env marker ≤ P.last) (hpages : P.last < pages + P.at env marker) :
    Serves env P (fun _ => True) (ticketIsAvailableFrom env payer ticket pages marker seen) := by
  induction pages generalizing marker seen with
  | zero => omega
  -- There is always a page left, as every marker moves on by at least one position.
  | succ pages ih =>
    unfold ticketIsAvailableFrom
    have hanswers : Serves env P (fun result => ∃ page, objectsPage result = .ok page ∧
        P.Leads env marker page.marker) (request (.accountObjects payer marker)) := by
      apply serves_request
      intro answer hanswer
      obtain ⟨d, objects, rfl, hobjects, hleads⟩ := hanswer
      exact ⟨.obj d, rfl, ⟨objects, Dict.get d "marker"⟩, by simp [objectsPage, hobjects], hleads⟩
    apply hanswers.bind
    intro result hresult
    obtain ⟨page, hpage, hleads⟩ := hresult
    apply (serves_lift (V := (· = page)) ⟨page, hpage, rfl⟩).bind
    intro page' hpage'
    rw [hpage']
    split
    · exact serves_ret trivial
    · split
      · exact serves_ret trivial
      -- No ticket on this page: the listing goes on at the next marker.
      · next hnext =>
        obtain ⟨key, hkey, hseen'⟩ := markerKey_ok hseen hnext hleads
        obtain ⟨hlt, hle⟩ := hleads hnext
        apply (serves_lift (V := (· = key)) ⟨key, hkey, rfl⟩).bind
        intro key' hkey'
        rw [hkey']
        exact ih hseen' hle (by omega)

theorem serves_ticketIsAvailable (payer : String) (ticket : Int) {pages : Nat}
    (hpages : P.last < pages) :
    Serves env P (fun _ => True) (ticketIsAvailable env pages payer ticket) := by
  apply serves_ticketIsAvailableFrom
  · intro key hkey
    cases hkey
  · exact Nat.zero_le _
  · exact hpages

theorem serves_accountLinesFrom (payer : String) (peer : Json) {pages : Nat} {marker : Json}
    {seen : List String} {lines : List Dict} (hlines : ∀ line ∈ lines, IsTrustLine env line)
    (hseen : ∀ key ∈ seen, P.position key < P.at env marker)
    (hmarker : P.at env marker ≤ P.last) (hpages : P.last < pages + P.at env marker) :
    Serves env P (fun lines => ∀ line ∈ lines, IsTrustLine env line)
      (accountLinesFrom env payer peer pages marker seen lines) := by
  induction pages generalizing marker seen lines with
  | zero => omega
  | succ pages ih =>
    unfold accountLinesFrom
    have hanswers : Serves env P (fun result => ∃ page, linesPage result = .ok page ∧
        (∀ line, .obj line ∈ page.items → IsTrustLine env line) ∧
        P.Leads env marker page.marker) (request (.accountLines payer peer marker)) := by
      apply serves_request
      intro answer hanswer
      obtain ⟨d, items, rfl, hitems, htrust, hleads⟩ := hanswer
      exact ⟨.obj d, rfl, ⟨items, Dict.get d "marker"⟩, by simp [linesPage, hitems], htrust, hleads⟩
    apply hanswers.bind
    intro result hresult
    obtain ⟨page, hpage, htrust, hleads⟩ := hresult
    apply (serves_lift (V := (· = page)) ⟨page, hpage, rfl⟩).bind
    intro page' hpage'
    rw [hpage']
    -- Only dictionaries are kept of a page, and each of them is a trust line.
    have hall : ∀ line ∈ lines ++ page.items.filterMap Json.asDict?, IsTrustLine env line := by
      intro line hline
      rcases List.mem_append.mp hline with hline | hline
      · exact hlines line hline
      · obtain ⟨j, hj, hdict⟩ := List.mem_filterMap.mp hline
        apply htrust line
        cases j with
        | obj d =>
          rw [← Option.some.inj hdict]
          exact hj
        | null => cases hdict
        | bool b => cases hdict
        | int n => cases hdict
        | float x => cases hdict
        | str s => cases hdict
        | arr js => cases hdict
    simp only
    split
    -- The last page ends the listing.
    · exact serves_ret hall
    · next hnext =>
      obtain ⟨key, hkey, hseen'⟩ := markerKey_ok hseen hnext hleads
      obtain ⟨hlt, hle⟩ := hleads hnext
      apply (serves_lift (V := (· = key)) ⟨key, hkey, rfl⟩).bind
      intro key' hkey'
      rw [hkey']
      exact ih hall hseen' hle (by omega)

end Serves

/-! ## Section 3: The ledger and the account -/

section Ledger

variable {P : Paging} {tx account : Dict} {r : PaymentRequirements} {payer : String}

theorem get?_of_get {d : Dict} {k : String} {j : Json} (h : Dict.get d k = j) (hj : j ≠ .null) :
    Dict.get? d k = some j := by
  unfold Dict.get at h
  cases hentry : Dict.get? d k with
  | none =>
    rw [hentry] at h
    exact absurd h.symm hj
  | some v =>
    rw [hentry] at h
    exact congrArg some h

/-- A fifth of the timeout is needed as a float once the window lies ahead. -/
def TimeoutFits (tx : Dict) (r : PaymentRequirements) : Prop :=
  ∀ last, (Dict.get tx "LastLedgerSequence").asInt? = some last → 1 < last →
    roundBinary64 (r.maxTimeoutSeconds / xrplLedgerCloseSeconds) ≠ none

theorem refuses_checkLastLedger {current : Int} (hpos : 0 < current) (htimeout : TimeoutFits tx r) :
    Refuses (checkLastLedger tx r payer current) := by
  unfold checkLastLedger
  split
  · exact refuses_error _ _ _
  · next last hlast =>
    apply Refuses.after_failIf
    intro hahead
    apply Refuses.bind
    · apply refuses_uncaught
      -- The limit is a number unless the timeout overflows a float.
      unfold getMaxLastLedgerSequence
      split
      · next q _ => exact ⟨_, rfl⟩
      · next hnone => exact absurd hnone (htimeout last hlast (by omega))
    intro _ _
    exact refuses_failIf _ _ _

theorem refuses_checkSigner (hcodec : CodecFacts env) (hsignature : SignatureOk env tx payer)
    (hdata : AccountData env account) : Refuses (checkSigner env tx payer account) := by
  obtain ⟨publicKey, -, -, -, -, hkey, hcanonical, -⟩ := hsignature.signed
  obtain ⟨flags, hflags⟩ := hdata.flags
  have hget := get?_of_get hkey (by simp)
  unfold checkSigner
  -- The key is in the signature that has been checked, and an address belongs to it.
  apply Refuses.bind
  · exact refuses_uncaught ⟨.str publicKey, subscript_obj hget⟩
  intro key hfound
  rw [uncaught_eq_ok, subscript_obj hget] at hfound
  rw [← Except.ok.inj hfound]
  apply (refuses_uncaught (hcodec.address publicKey hcanonical)).bind
  intro _ _
  apply Refuses.bind
  · apply refuses_uncaught
    exact ⟨flags, by rw [hflags]; rfl⟩
  intro _ _
  exact refuses_failIf _ _ _

theorem refuses_checkSequence : Refuses (checkSequence tx payer account) := by
  unfold checkSequence
  apply Refuses.after_failIf
  intro _
  exact refuses_failIf _ _ _

theorem refuses_ticketOf : Refuses (ticketOf tx payer) := by
  unfold ticketOf
  simp only
  split
  · split
    · exact refuses_ok _
    · exact refuses_error _ _ _
  · exact refuses_error _ _ _

theorem serves_verifyLedgerAndAccountState {method : String} {pages : Nat} (hpages : P.last < pages)
    (hcodec : CodecFacts env) (hsignature : SignatureOk env tx payer)
    (htimeout : TimeoutFits tx r) :
    Serves env P (fun _ => True) (verifyLedgerAndAccountState env pages tx r payer method) := by
  unfold verifyLedgerAndAccountState
  apply serves_currentLedger.bind
  intro current hpos
  apply (serves_refuses (refuses_checkLastLedger hpos htimeout)).bind
  intro _ _
  apply (serves_accountData payer).bind
  intro data hdata
  apply (serves_refuses (refuses_checkSigner hcodec hsignature hdata)).bind
  intro _ _
  split
  -- With a sequence the account's own is compared; with a ticket the listing is read.
  · exact serves_refuses refuses_checkSequence
  · apply (serves_refuses refuses_ticketOf).bind
    intro ticket _
    apply (serves_ticketIsAvailable payer ticket hpages).bind
    intro available _
    exact serves_refuses (refuses_failIf _ _ _)

end Ledger

/-! ## Section 4: Simulation and balances -/

section Balances

variable {P : Paging} {tx : Dict} {r : PaymentRequirements} {payer blob : String} {pages : Nat}

/-- A transfer rate is read as the number it stands for. -/
theorem decimalOf_rate (env : Env) {rate : Int} (hlow : 1000000000 ≤ rate) (hhigh : rate ≤ 2000000000) :
    ∃ d q, decimalOf env (toString rate) = .ok d ∧ d.Denotes q ∧ |q| < 10 ^ (10 : Int) := by
  obtain ⟨n, rfl⟩ : ∃ n : Nat, rate = n := ⟨rate.toNat, by omega⟩
  -- The rate is printed in at most ten digits, all of them ASCII.
  have hlist : (toString (n : Int)).toList = Nat.toDigits 10 n := by
    show (String.ofList (Nat.toDigits 10 n)).toList = _
    exact String.toList_ofList
  have hdigits : ∀ c ∈ Nat.toDigits 10 n, isAsciiDigit c = true :=
    fun c hc => isAsciiDigit_of_mem_toDigits hc
  have hlength : (Nat.toDigits 10 n).length ≤ 10 :=
    (Nat.length_toDigits_le_iff (by decide) (by decide)).mpr (by omega)
  have hcoeff : natOfDigits ((Nat.toDigits 10 n).map asciiDigitValue) < 10 ^ 10 := by
    have hsmall : ∀ d ∈ (Nat.toDigits 10 n).map asciiDigitValue, d < 10 := by
      intro d hd
      obtain ⟨c, hc, rfl⟩ := List.mem_map.mp hd
      have hrange := hdigits c hc
      simp only [isAsciiDigit, Bool.and_eq_true, decide_eq_true_eq] at hrange
      obtain ⟨-, hle⟩ := hrange
      have hnat : c.toNat ≤ 57 := hle
      unfold asciiDigitValue
      omega
    have hlt := natOfDigits_lt hsmall
    rw [List.length_map] at hlt
    exact hlt.trans_le (Nat.pow_le_pow_right (by decide) hlength)
  -- The text is therefore read back as an integer without an exponent.
  have hparse := parseUnsigned_of_digits Nat.toDigits_ne_nil hdigits
  rw [← hlist] at hparse hdigits
  have hvalue := decimalOfStr_of_parseUnsigned env.unicode
    (fun c hc => by simp [isAmountChar, hdigits c hc]) hparse
  rw [hlist] at hvalue
  generalize natOfDigits ((Nat.toDigits 10 n).map asciiDigitValue) = coeff at hvalue hcoeff
  refine ⟨.finite false coeff 0, Decimal.ratValue false coeff 0, ?_, ⟨_, _, _, rfl, rfl⟩, ?_⟩
  · simp only [decimalOf, hvalue]
  rw [Decimal.abs_ratValue, zpow_zero, mul_one]
  exact_mod_cast hcoeff

/-- Comparing the scaled amounts stays in the range of the context. -/
theorem sendMaxCoversFee_ok {source destination : Decimal} {p q : ℚ} {rate : Int}
    (hsource : source.Denotes p) (hp : |p| < 10 ^ (97 : Int)) (hdestination : destination.Denotes q)
    (hq : |q| < 10 ^ (97 : Int)) (hlow : 1000000000 ≤ rate) (hhigh : rate ≤ 2000000000) :
    ∃ covers, sendMaxCoversFee env source destination rate = .ok covers := by
  obtain ⟨factor, x, hfactor, hx, hxlt⟩ := decimalOf_rate env hlow hhigh
  have hunit : (Decimal.finite false 1000000000 0).Denotes (Decimal.ratValue false 1000000000 0) :=
    ⟨_, _, _, rfl, rfl⟩
  -- The products stay below the largest exponent of the context, so none overflows.
  have hmul : ∀ {a b : ℚ}, |a| < 10 ^ (97 : Int) → |b| < 10 ^ (10 : Int) →
      |a * b| < 10 ^ (107 : Int) := by
    intro a b ha hb
    rw [abs_mul]
    calc |a| * |b| < 10 ^ (97 : Int) * 10 ^ (10 : Int) :=
          mul_lt_mul'' ha hb (abs_nonneg a) (abs_nonneg b)
      _ = 10 ^ (107 : Int) := by norm_num
  have hunitlt : |Decimal.ratValue false 1000000000 0| < 10 ^ (10 : Int) := by
    rw [Decimal.abs_ratValue]
    norm_num
  obtain ⟨sent, a, hsent, ha⟩ := Decimal.mul_eq_some hsource hunit (by decide) (hmul hp hunitlt)
  obtain ⟨needed, b, hneeded, hb⟩ := Decimal.mul_eq_some hdestination hx (by decide) (hmul hq hxlt)
  obtain ⟨order, horder⟩ := Decimal.cmp_denotes ha hb
  refine ⟨!decide (order = .lt), ?_⟩
  unfold sendMaxCoversFee
  apply bind_eq_ok.mpr
  refine ⟨factor, hfactor, bind_eq_ok.mpr ⟨sent, by simp only [decimalMul, hsent], ?_⟩⟩
  apply bind_eq_ok.mpr
  refine ⟨needed, by simp only [decimalMul, hneeded], bind_eq_ok.mpr ⟨decide (order = .lt), ?_, rfl⟩⟩
  simp only [decimalLt, horder]

theorem trustlineCovers_ok {source : Decimal} {p : ℚ} (hsource : source.Denotes p)
    {lines : List Dict} (hlines : ∀ line ∈ lines, IsTrustLine env line) :
    ∃ funded, trustlineCovers env source lines = .ok funded := by
  cases lines with
  | nil => exact ⟨false, rfl⟩
  | cons line rest =>
    obtain ⟨balance, q, hbalance, hq⟩ := hlines line List.mem_cons_self
    obtain ⟨order, horder⟩ := Decimal.cmp_denotes hq hsource
    refine ⟨!decide (order = .lt), ?_⟩
    unfold trustlineCovers
    apply bind_eq_ok.mpr
    refine ⟨balance, by simp only [decimalOf, hbalance], ?_⟩
    exact bind_eq_ok.mpr ⟨decide (order = .lt), by simp only [decimalLt, horder], rfl⟩

/-- The paid amount and its limit are the ones that the structure checks saw. -/
theorem serves_targetedIouCheck (hpages : P.last < pages) (hcodec : CodecFacts env)
    (hdecode : env.decode blob = .ok tx) (hwire : xrplCurrencyCode env r.asset = .ok r.asset)
    {field : String} (hfield : field ∈ ["Amount", "DeliverMax", "SendMax"])
    (hamount : AmountOk env tx (Dict.get tx field) r) (hasset : r.asset ≠ "XRP") :
    Serves env P (fun _ => True) (targetedIouCheck env pages tx r payer) := by
  cases hamount with
  -- A native amount is refused for an asset other than XRP.
  | native asset digits drops isPaid value required noConversion => exact absurd asset hasset
  | issued asset amount sendMax currency issuer required value limit q isPaid isLimit code issuerOf
      paidCurrency paidIssuer limitCurrency limitIssuer requiredValue paidValue limitValue exact_
      covers =>
    obtain ⟨hrequired, hvalue⟩ := exact_
    -- What the codec gives has a value that is a number, and one within bounds.
    obtain ⟨text, source, p, htext, hsource, hp, hplt⟩ :=
      hcodec.issued blob tx hdecode "SendMax" sendMax isLimit (by decide)
    have hqlt : |q| < 10 ^ (97 : Int) := by
      obtain ⟨text', value', q', htext', hvalue', hq', hlt⟩ :=
        hcodec.issued blob tx hdecode field amount isPaid hfield
      have hstr : str env.unicode (Dict.get amount "value") = text' := by
        unfold Dict.get
        rw [htext']
        rfl
      rw [hstr] at paidValue
      have hsame : value' = value := Option.some.inj (hvalue'.symm.trans paidValue)
      rw [hsame] at hq'
      rwa [hvalue.unique hq']
    unfold targetedIouCheck
    simp only
    apply (serves_lift (V := fun _ => True) ⟨r.asset, hwire, trivial⟩).bind
    intro _ _
    -- The pages are read to the end; every line of them is a trust line.
    have hlines : Serves env P (fun lines => ∀ line ∈ lines, IsTrustLine env line)
        (accountLinesFrom env payer (Dict.get r.extraOr "issuer") pages .null [] []) := by
      apply serves_accountLinesFrom
      · simp
      · simp
      · exact Nat.zero_le _
      · exact hpages
    apply hlines.bind
    intro lines hlines
    -- `SendMax` is there: the structural checks have read it.
    have hsendMax := get?_of_get isLimit (by simp)
    apply (serves_lift (V := (· = .obj sendMax)) ⟨_, subscript_obj hsendMax, rfl⟩).bind
    intro j hj
    rw [hj]
    apply (serves_lift (V := (· = .str text)) ⟨_, subscript_obj htext, rfl⟩).bind
    intro j hj
    rw [hj]
    apply (serves_lift (V := (· = source)) ⟨source, by
      show decimalOf env text = .ok source
      simp only [decimalOf, hsource], rfl⟩).bind
    intro d hd
    rw [hd]
    apply (serves_lift (V := (· = required)) ⟨required, by simp only [decimalOf, requiredValue],
      rfl⟩).bind
    intro d hd
    rw [hd]
    apply (serves_issuerTransferRate _ _).bind
    intro rate hrate
    -- The transfer fee is due only where neither side is the issuer.
    have hfee : ∃ covered, feeDue env payer r (Dict.get r.extraOr "issuer") source required rate =
        .ok covered := by
      unfold feeDue
      split
      · exact sendMaxCoversFee_ok hp hplt hrequired hqlt hrate.1 hrate.2
      · exact ⟨true, rfl⟩
    obtain ⟨covered, hcovered⟩ := hfee
    apply (serves_lift (V := fun _ => True) ⟨covered, hcovered, trivial⟩).bind
    intro _ _
    apply (serves_refuses (refuses_failIf _ _ _)).bind
    intro _ _
    have hmatching : ∀ (issuer : Json) (code : String), ∀ line ∈ matchingLines env issuer code lines,
        IsTrustLine env line :=
      fun _ _ line hline => hlines line (List.mem_of_mem_filter hline)
    obtain ⟨funded, hfunded⟩ := trustlineCovers_ok hp (hmatching (Dict.get r.extraOr "issuer") _)
    apply (serves_lift (V := fun _ => True) ⟨funded, hfunded, trivial⟩).bind
    intro _ _
    exact serves_refuses (refuses_failIf _ _ _)

/-- What is known of the payment when balances are asked for. -/
structure Payable (F : ExactXRPLFacilitatorScheme env) (blob : String) (tx : Dict)
    (r : PaymentRequirements) : Prop where
  decoded : env.decode blob = .ok tx
  shape : WellShaped env r
  wire : xrplCurrencyCode env r.asset = .ok r.asset
  structure_ : StructureOk F tx r

variable {F : ExactXRPLFacilitatorScheme env}

theorem serves_targetedBalanceCheck (hpages : P.last < pages) (hcodec : CodecFacts env)
    (h : Payable F blob tx r) :
    Serves env P (fun _ => True) (targetedBalanceCheck env pages tx r payer) := by
  unfold targetedBalanceCheck
  apply (serves_accountData payer).bind
  -- The balance, the reserves and the owner count are there in a well-formed answer.
  intro account haccount
  obtain ⟨text, balance, hget, hbalance⟩ := haccount.balance
  apply (serves_lift (V := (· = .str text)) ⟨_, subscript_obj hget, rfl⟩).bind
  intro j hj
  rw [hj]
  apply (serves_lift (V := fun _ => True) ⟨balance, hbalance, trivial⟩).bind
  intro _ _
  apply serves_xrpReserveParameters.bind
  intro reserves _
  obtain ⟨reserveBase, reserveIncrement⟩ := reserves
  obtain ⟨owned, howned, hnonneg⟩ := haccount.ownerCount
  apply (serves_lift (V := fun _ => True) ⟨reserveBase + owned * reserveIncrement, by
    unfold xrpAccountReserve
    rw [howned]
    exact if_neg (by omega), trivial⟩).bind
  intro _ _
  -- The fee was read when the structure was checked.
  obtain ⟨digits, drops, hdigits, hdrops, -⟩ := h.structure_.fee
  apply (serves_lift (V := (· = .str digits))
    ⟨_, subscript_obj (get?_of_get hdigits (by simp)), rfl⟩).bind
  intro j hj
  rw [hj]
  apply (serves_lift (V := fun _ => True) ⟨drops, hdrops, trivial⟩).bind
  intro _ _
  split
  -- XRP: drops are compared, and the destination has to exist.
  · next hasset =>
    obtain ⟨-, amount, hamount, -⟩ := h.shape.native hasset
    apply (serves_lift (V := fun _ => True) ⟨amount, hamount, trivial⟩).bind
    intro _ _
    apply (serves_refuses (refuses_failIf _ _ _)).bind
    intro _ _
    apply (serves_accountExists r.payTo).bind
    intro _ _
    exact serves_refuses (refuses_failIf _ _ _)
  -- Issued: the trust lines of the payer are read.
  · next hasset =>
    apply (serves_refuses (refuses_failIf _ _ _)).bind
    intro _ _
    obtain ⟨field, other, hpair, -, -, hamount⟩ := h.structure_.amount
    have hfield : field ∈ ["Amount", "DeliverMax", "SendMax"] := by
      simp only [List.mem_cons, Prod.mk.injEq, List.not_mem_nil, or_false] at hpair
      rcases hpair with ⟨rfl, -⟩ | ⟨rfl, -⟩ <;> decide
    exact serves_targetedIouCheck hpages hcodec h.decoded h.wire hfield hamount hasset

/-- The simulation may fail in any way; the balances then decide. -/
theorem serves_verifySimulationOrBalances (hpages : P.last < pages) (hcodec : CodecFacts env)
    (h : Payable F blob tx r) :
    Serves env P (fun _ => True) (verifySimulationOrBalances env pages tx r payer) := by
  have hbalances : Serves env P (fun _ : String => True) (do
      targetedBalanceCheck env pages tx r payer
      return "targetedChecks") :=
    (serves_targetedBalanceCheck hpages hcodec h).bind fun _ _ => serves_ret trivial
  have hsimulation : Total (WellFormed env P) (fun x : Check String => ∀ e, x = .error e →
      IsRefusal e ∨ ∃ e', e = .other e') (verifySimulation env pages tx r payer) := by
    -- What the checks raise is either a refusal or an exception of another kind.
    have hother : ∀ {α : Type} {x : Except Exc α} {e : FacilitatorExc}, uncaught x = .error e →
        IsRefusal e ∨ ∃ e', e = .other e' := by
      intro α x e he
      cases x with
      | ok a => cases he
      | error e' => exact .inr ⟨e', (Except.error.inj he).symm⟩
    have hyields : ∀ {x : Check String}, Yields (fun _ => True) x → ∀ e, x = .error e →
        IsRefusal e ∨ ∃ e', e = .other e' := by
      intro x hx e he
      rw [he] at hx
      exact .inl hx
    unfold verifySimulation
    apply total_ofExcept_bind
    · intro transaction _ answer _
      apply total_ofExcept_bind
      · intro result _
        simp only
        split
        -- The node does not know the method: the balances are checked in its place.
        · exact hbalances.total.mono fun x hx => hyields hx
        · have hcheck : Serves env P (fun _ : String => True) (do
              check (failIf (Dict.get (result.asDict?.getD []) "engine_result" ≠ .str "tesSUCCESS")
                (refusal ("invalid_exact_xrpl_payload_simulation_failed: " ++ str env.unicode
                  ((Dict.get (result.asDict?.getD []) "engine_result").or (.str "unknown"))) payer))
              return "simulation") :=
            (serves_refuses (refuses_failIf _ _ _)).bind fun _ _ => serves_ret trivial
          exact hcheck.total.mono fun x hx => hyields hx
      · intro e he e' he'
        rw [← Except.error.inj he']
        exact hother he
    · intro e he e' he'
      rw [← Except.error.inj he']
      exact hother he
  constructor
  unfold verifySimulationOrBalances
  apply hsimulation.tryCatch
  · intro _ _
    trivial
  -- A refusal stands; after any other exception the balances are checked.
  · intro e he
    rcases he e rfl with hrefusal | ⟨e', rfl⟩
    · obtain ⟨reason, message, payer', rfl⟩ := hrefusal
      exact ⟨reason, message, payer', rfl⟩
    · exact hbalances.total

end Balances

/-! ## Section 5: Malformed input -/

section Main

variable {F : ExactXRPLFacilitatorScheme env} {payload : PaymentPayload} {r : PaymentRequirements}

/-- A response that accepts, or that refuses with a reason. -/
def IsVerdict (x : Check VerifyResponse) : Prop :=
  ∃ v, x = .ok v ∧ (v.isValid = true ∨ v.isValid = false ∧ v.invalidReason.isSome)

/-- On well-formed answers `verify` returns a verdict, whatever the listing is
    and as soon as all of its pages may be asked for. -/
def AlwaysAnswers (F : ExactXRPLFacilitatorScheme env) (payload : PaymentPayload)
    (r : PaymentRequirements) : Prop :=
  ∀ (P : Paging) (pages : Nat), P.last < pages →
    Total (WellFormed env P) IsVerdict (verify F pages payload r)

/-- A blob that is decoded has a hash. -/
theorem exists_signedTransactionHash {blob : String} {tx : Dict} (hblob : isSignedTxBlob blob = true)
    (h : env.decode blob = .ok tx) : ∃ hash, signedTransactionHash env blob = .ok hash := by
  obtain ⟨bytes, hbytes⟩ := exists_fromHex_prefixed hblob
  refine ⟨transactionId env bytes, ?_⟩
  unfold signedTransactionHash
  apply bind_eq_ok.mpr
  exact ⟨tx, h, bind_eq_ok.mpr ⟨bytes, hbytes, rfl⟩⟩

theorem serves_verifyTransaction {P : Paging} {pages : Nat} (hpages : P.last < pages)
    (hcodec : CodecFacts env) (hraises : ¬ Raises F payload r) :
    Serves env P (fun _ => True) (verifyTransaction F pages payload r) := by
  unfold verifyTransaction
  apply (serves_check (V := fun checked => checkTransaction F payload r = .ok checked)
    (refuses_checkTransaction hcodec hraises) fun _ h => h).bind
  intro checked hchecked
  obtain ⟨henvelope, ⟨exact_, -, hblob⟩, hdecoded, -, hsignature, hstructure⟩ :=
    checkTransaction_eq_ok hchecked
  obtain ⟨extra, hshape⟩ := shape_of_checkTransaction hchecked
  -- The timeout is the only thing that can still go wrong after the structure has passed.
  have htimeout : TimeoutFits checked.tx r := by
    intro last hlast hahead hhuge
    exact hraises (.hugeTimeout checked last hchecked hlast hahead hhuge)
  apply (serves_verifyLedgerAndAccountState hpages hcodec hsignature htimeout).bind
  intro _ _
  have hpayable : Payable F checked.blob checked.tx r :=
    ⟨hdecoded, henvelope.shape, (shapeOk_of_shape hshape).wire, hstructure⟩
  apply (serves_verifySimulationOrBalances hpages hcodec hpayable).bind
  intro path _
  -- The hash can be computed, as the blob was decoded.
  have hwell := exact_.wellFormed
  rw [hblob] at hwell
  obtain ⟨hash, hhash⟩ := exists_signedTransactionHash hwell hdecoded
  apply (serves_lift (V := fun _ => True) ⟨hash, hhash, trivial⟩).bind
  intro _ _
  exact serves_ret trivial

theorem verify_total {P : Paging} {pages : Nat} (hpages : P.last < pages) (hcodec : CodecFacts env)
    (hraises : ¬ Raises F payload r) :
    Total (WellFormed env P) IsVerdict (verify F pages payload r) := by
  unfold verify
  have haccepted : Serves env P (fun v : VerifyResponse => v.isValid = true) (do
      return accepted (← verifyTransaction F pages payload r)) :=
    (serves_verifyTransaction hpages hcodec hraises).bind fun _ _ => serves_ret rfl
  apply haccepted.total.tryCatch
  · intro v hv
    exact ⟨v, rfl, .inl hv⟩
  · intro e he
    obtain ⟨reason, message, payer, rfl⟩ := he
    exact ⟨_, rfl, .inr ⟨rfl, rfl⟩⟩

/-! ### What is raised reaches the caller -/

theorem path_verify_other {pages : Nat} {t : List (Event Op Ret)} {e : Exc}
    (h : Path (verifyTransaction F pages payload r) t (.error (.other e))) :
    Path (verify F pages payload r) t (.error (.other e)) := by
  apply path_tryCatch.mpr
  refine .inr ⟨t, [], .other e, by simp, ?_, rfl, rfl⟩
  exact path_bind.mpr (.inr ⟨.other e, rfl, h⟩)

theorem not_isVerdict_error (e : FacilitatorExc) : ¬ IsVerdict (.error e) := by
  rintro ⟨v, hv, -⟩
  cases hv

theorem path_verify_of_checkTransaction {pages : Nat} {e : Exc}
    (h : checkTransaction F payload r = .error (.other e)) :
    Path (verify F pages payload r) [] (.error (.other e)) := by
  apply path_verify_other
  unfold verifyTransaction
  exact path_ofExcept_bind.mpr (.inr ⟨.other e, h, rfl, rfl⟩)

/-- The first validated ledger, which no window that lies ahead has passed. -/
def firstLedger : Event Op Ret := ⟨.rpc .ledger, .ok (.obj [("ledger_index", .int 1)])⟩

theorem path_verify_of_hugeTimeout (pages : Nat) {checked : CheckedTransaction} {last : Int}
    (hpassed : checkTransaction F payload r = .ok checked)
    (hlast : (Dict.get checked.tx "LastLedgerSequence").asInt? = some last) (hahead : 1 < last)
    (hhuge : roundBinary64 (r.maxTimeoutSeconds / xrplLedgerCloseSeconds) = none) :
    ∃ e, Path (verify F pages payload r) [firstLedger] (.error (.other e)) := by
  refine ⟨⟨.overflowError, "integer division result too large for a float"⟩, ?_⟩
  apply path_verify_other
  unfold verifyTransaction
  apply path_ofExcept_bind.mpr
  -- The transaction passes, and the ledger is read before the window is computed.
  refine .inl ⟨checked, hpassed, path_bind.mpr (.inr ⟨_, rfl, ?_⟩)⟩
  unfold verifyLedgerAndAccountState currentLedger
  rw [call_bind]
  refine ⟨.ok (.obj [("ledger_index", .int 1)]), [], rfl, ?_⟩
  apply path_ofExcept_bind.mpr
  refine .inl ⟨1, rfl, path_ofExcept_bind.mpr (.inr ⟨_, ?_, rfl, rfl⟩)⟩
  unfold checkLastLedger
  rw [hlast]
  show (failIf (last ≤ 1) _ >>= _) = _
  rw [bind_of_ok (a := ()) (failIf_eq_ok.mpr (by omega))]
  apply bind_of_error
  unfold getMaxLastLedgerSequence
  rw [hhuge]
  rfl

/-- An input of `Raises` raises before the node is asked, or on its first
    answer. -/
theorem path_verify_of_raises (pages : Nat) (h : Raises F payload r) :
    ∃ t e, (t = [] ∨ t = [firstLedger]) ∧ Path (verify F pages payload r) t (.error (.other e)) := by
  cases h with
  | innerPayload method e envelope invalid =>
    exact ⟨[], e, .inl rfl,
      path_verify_of_checkTransaction (checkTransaction_of_innerPayload envelope invalid)⟩
  | emptyInvoice tx reached empty =>
    obtain ⟨e, he⟩ := structureFromInvoice_of_emptyInvoice F tx (payerOf env tx) empty
    exact ⟨[], e, .inl rfl, path_verify_of_checkTransaction (checkTransaction_of_reached reached he)⟩
  | longReference tx e reached invoice reference =>
    have he := structureFromInvoice_of_longReference F (payerOf env tx) invoice reference
    exact ⟨[], e, .inl rfl, path_verify_of_checkTransaction (checkTransaction_of_reached reached he)⟩
  | hugeTimeout checked last passed isLast ahead huge =>
    obtain ⟨e, he⟩ := path_verify_of_hugeTimeout pages passed isLast ahead huge
    exact ⟨[firstLedger], e, .inr rfl, he⟩

/-- `verify` answers every input but those of `Raises`. -/
theorem malformed_input_is_a_verdict_iff (F : ExactXRPLFacilitatorScheme env)
    (hcodec : CodecFacts env) (payload : PaymentPayload) (requirements : PaymentRequirements) :
    AlwaysAnswers F payload requirements ↔ ¬ Raises F payload requirements := by
  constructor
  · intro hanswers hraises
    -- A node that answers ledger 1 is enough, since such an input reads no more of it.
    have htotal := hanswers ⟨fun _ => 0, 0⟩ 1 (by decide)
    obtain ⟨t, e, ht, hpath⟩ := path_verify_of_raises 1 hraises
    apply not_isVerdict_error (.other e)
    apply htotal.of_path hpath
    intro event hevent
    rcases ht with rfl | rfl
    · cases hevent
    · rw [List.mem_singleton.mp hevent]
      exact ⟨_, 1, rfl, rfl, by decide⟩
  -- No other input raises, whatever the node answers.
  · intro hraises P pages hpages
    exact verify_total hpages hcodec hraises

end Main

/-! ### Payloads that are not of the scheme -/

namespace Sample

/-- An inner payload without a blob. -/
def emptyPayload : PaymentPayload := { payload with payload := [] }

theorem codecFacts : CodecFacts sampleEnv := by
  have hamount : Dict.get tx "Amount" = .str "1000" := rfl
  have hfee : Dict.get tx "Fee" = .str "12" := rfl
  have hdeliver : Dict.get tx "DeliverMax" = .null := rfl
  have hlimit : Dict.get tx "SendMax" = .null := rfl
  constructor
  · intro blob d hd field s hs hfield
    rw [← Except.ok.inj hd] at hs
    simp only [List.mem_cons, List.not_mem_nil, or_false] at hfield
    rcases hfield with rfl | rfl | rfl
    · rw [hamount] at hs
      rw [← Json.str.inj hs]
      exact ⟨1000, by decide +kernel⟩
    · rw [hdeliver] at hs
      cases hs
    · rw [hfee] at hs
      rw [← Json.str.inj hs]
      exact ⟨12, by decide +kernel⟩
  · intro blob d hd field amount hget hfield
    rw [← Except.ok.inj hd] at hget
    simp only [List.mem_cons, List.not_mem_nil, or_false] at hfield
    rcases hfield with rfl | rfl | rfl
    · rw [hamount] at hget
      cases hget
    · rw [hdeliver] at hget
      cases hget
    · rw [hlimit] at hget
      cases hget
  · intro key _
    exact ⟨"rPayer", rfl⟩

end Sample

/-- The inner payload is parsed outside of every guard. -/
theorem empty_payload_raises :
    ¬ AlwaysAnswers Sample.facilitator Sample.emptyPayload Sample.requirements := by
  intro hanswers
  have htotal := hanswers ⟨fun _ => 0, 0⟩ 1 (by decide)
  have hpath : Path (verify Sample.facilitator 1 Sample.emptyPayload Sample.requirements) []
      (.error (.other (validationError Sample.sampleEnv "ExactXRPLPayload" (.obj [])))) :=
    path_of_replay (by decide +kernel)
  apply not_isVerdict_error _ (htotal.of_path hpath _)
  intro event hevent
  cases hevent

/-- A well-formed payment is answered. -/
theorem malformed_input_is_a_verdict_sample :
    AlwaysAnswers Sample.facilitator Sample.payload Sample.requirements := by
  refine (malformed_input_is_a_verdict_iff Sample.facilitator Sample.codecFacts Sample.payload
    Sample.requirements).mpr fun hraises => ?_
  cases hraises with
  | innerPayload method e envelope invalid =>
    have hvalid : (exactXrplPayload Sample.sampleEnv Sample.payload).toOption.isSome = true := by
      decide +kernel
    rw [invalid] at hvalid
    cases hvalid
  | emptyInvoice tx reached empty => cases empty
  | longReference tx e reached invoice reference =>
    have hnetwork : parseXrplNetworkId Sample.sampleEnv Sample.requirements.network = .ok 1 := by
      decide +kernel
    rw [hnetwork] at reference
    cases reference
  | hugeTimeout checked last passed isLast ahead huge =>
    have hfifth : (roundBinary64 (Sample.requirements.maxTimeoutSeconds / xrplLedgerCloseSeconds)).isSome =
        true := by decide +kernel
    rw [huge] at hfifth
    cases hfifth

end XrplX402.Facilitator
