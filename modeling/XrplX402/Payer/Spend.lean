import XrplX402.Core.Helpers

/-! # Spend limits

    What a payment call is allowed to spend, and how it configures the upstream
    client: a registered network, policies over the offered requirements, and
    spend controls. The client itself is third-party code; `Selected` is what is
    assumed of it.

    * `explicitLimit`: the limit of one call.
    * `spendLimitPolicy`, `enforceDefaultAssetIssuers`: the policies.
    * `withinLimit_of_selected`: what the client selects is within the limit. -/

namespace XrplX402.Payer

open Py

/-! ## Section 1: Limits -/

structure PaymentRequired where
  x402Version : Int
  resource : Option ResourceInfo
  accepts : List PaymentRequirements
  extensions : Option Dict
  deriving DecidableEq

/-- Explicit opt-in and per-payment cap for a non-default asset. -/
structure XRPLAssetSpendLimit where
  network : String
  asset : String
  maxAmount : String
  issuer : Option String
  deriving DecidableEq

/-- `Decimal(s)` -/
def decimal (env : Env) (s : String) : Except Exc Decimal :=
  match decimalOfStr env.unicode s with
  | some d => .ok d
  | none => .error ⟨.decimalException, "invalid decimal literal"⟩

/-- `Decimal(left) <= Decimal(right)` -/
def decimalLe (env : Env) (left right : String) : Except Exc Bool := do
  let l ← decimal env left
  let r ← decimal env right
  match Decimal.cmp l r with
  | some o => return decide (o ≠ .gt)
  | none => throw ⟨.decimalException, "comparison involving NaN"⟩

/-- `cap.is_finite() and cap > 0` -/
def isPositiveFinite : Decimal → Bool
  | .finite neg coeff _ => !neg && decide (coeff ≠ 0)
  | _ => false

/-- `not issuer` -/
def isMissing (issuer : Option String) : Bool := (issuer.getD "") = ""

/-- `XRPLAssetSpendLimit(...)` with its `__post_init__`. -/
def XRPLAssetSpendLimit.new (env : Env) (network asset maxAmount : String) (issuer : Option String) :
    Except Exc XRPLAssetSpendLimit := do
  let cap ← match decimalOfStr env.unicode maxAmount with
    | some cap => .ok cap
    | none => .error (valueError "max_amount must be a decimal string")
  failIf (isPositiveFinite cap = false) (valueError "max_amount must be positive and finite")
  let code ← normalizeCurrencyCode env asset
  failIf (code ≠ "XRP" ∧ isMissing issuer = true)
    (valueError "Non-XRP spend limits require an explicit issuer")
  return ⟨network, asset, maxAmount, issuer⟩

/-- `_explicit_limit`; `maxSpend` is `str(max_spend)`. -/
def explicitLimit (env : Env) (network : String) (asset issuer maxSpend : Option String) :
    Except Exc (Option XRPLAssetSpendLimit) :=
  match asset with
  | none =>
    if issuer.isSome ∨ maxSpend.isSome then
      .error (valueError "asset is required when issuer or max_spend is configured")
    else .ok none
  | some asset => do
    let code ← normalizeCurrencyCode env asset
    match maxSpend with
    | none =>
      throw (valueError "XRP, USDC, and custom IOUs require an explicit per-payment cap")
    | some maxSpend => do
      failIf (code ≠ "XRP" ∧ isMissing issuer = true)
        (valueError "explicit IOU payments require an issuer")
      failIf (code = "XRP" ∧ issuer.isSome = true) (valueError "XRP does not have an issuer")
      return some (← XRPLAssetSpendLimit.new env network code maxSpend issuer)

/-! ## Section 2: The configured client -/

structure AllowedAsset where
  network : String
  asset : String
  maxAmountPerPayment : Option String
  deriving DecidableEq

inductive SpendControls where
  /-- `{"max_amount_per_payment": "$" + cap}` -/
  | maxAmountPerPayment (cap : String)
  /-- `{"max_amount_per_payment": False, "allowed_assets": assets}` -/
  | allowedAssets (assets : List AllowedAsset)
  deriving DecidableEq

/-- An upstream client with the scheme registered for one network. The policy
    of the spend limits is registered when there are any. -/
structure PaymentClient where
  network : String
  controls : SpendControls
  limits : List XRPLAssetSpendLimit
  deriving DecidableEq

def allowedAsset (env : Env) (limit : XRPLAssetSpendLimit) : Except Exc AllowedAsset := do
  let asset ← xrplCurrencyCode env limit.asset
  let code ← normalizeCurrencyCode env limit.asset
  return ⟨limit.network, asset, if code = "XRP" then some limit.maxAmount else none⟩

/-- `register_exact_xrpl_client`, then `apply_xrpl_spend_limits(client, [limit])`
    or the default spend controls. -/
def configuredClient (env : Env) (network : String) (limit : Option XRPLAssetSpendLimit) :
    Except Exc PaymentClient :=
  match limit with
  | some limit => do
    let asset ← allowedAsset env limit
    return ⟨network, .allowedAssets [asset], [limit]⟩
  | none => .ok ⟨network, .maxAmountPerPayment "1", []⟩

/-- `(requirement.extra or {}).get("issuer")` -/
def issuerOf (r : PaymentRequirements) : Json := Dict.get r.extraOr "issuer"

/-- The elements that a test keeps. -/
def keepWhere {α : Type} (test : α → Except Exc Bool) : List α → Except Exc (List α)
  | [] => .ok []
  | a :: as => do
    let keep ← test a
    let rest ← keepWhere test as
    return if keep then a :: rest else rest

/-- Is the requirement, with its normalized code, within one of the limits? -/
def withinSome (env : Env) (r : PaymentRequirements) (code : String) :
    List XRPLAssetSpendLimit → Except Exc Bool
  | [] => .ok false
  | limit :: limits =>
    if r.network ≠ limit.network then withinSome env r code limits
    else do
      let wanted ← normalizeCurrencyCode env limit.asset
      if code ≠ wanted ∨ issuerOf r ≠ optStr limit.issuer then withinSome env r code limits
      else do
        let affordable ← decimalLe env r.amount limit.maxAmount
        if affordable then return true else withinSome env r code limits

/-- The policy that `apply_xrpl_spend_limits` registers. -/
def spendLimitPolicy (env : Env) (limits : List XRPLAssetSpendLimit) :
    List PaymentRequirements → Except Exc (List PaymentRequirements) :=
  keepWhere fun r => do
    let code ← normalizeCurrencyCode env r.asset
    withinSome env r code limits

/-- `paymentFlow in {None, "authorization"}`; a list or dictionary has no hash. -/
def isAuthorizationFlow (r : PaymentRequirements) : Except Exc Bool :=
  match Dict.get r.extraOr "paymentFlow" with
  | .null => .ok true
  | .str s => .ok (s = "authorization")
  | .arr _ => .error (typeError "unhashable type: list")
  | .obj _ => .error (typeError "unhashable type: dict")
  | _ => .ok false

def keepsIssuer (env : Env) (r : PaymentRequirements) : Except Exc Bool :=
  if r.scheme = "exact" ∧ isValidXrplNetwork r.network = true then do
    let flow ← isAuthorizationFlow r
    if flow = false then return false
    match findDefaultAsset env r.asset r.network with
    | none => return true
    | some asset => return decide (issuerOf r = .str asset.issuer)
  else .ok true

/-- The policy that `register_exact_xrpl_client` registers. -/
def enforceDefaultAssetIssuers (env : Env) :
    List PaymentRequirements → Except Exc (List PaymentRequirements) :=
  keepWhere (keepsIssuer env)

/-! ## Section 3: What the client selects -/

/-- The upstream client pays offered requirements only, those that its scheme is
    registered for, that every policy has kept, and that the spend controls
    permit: by default recognized assets, up to the cap. -/
structure Selected (env : Env) (client : PaymentClient) (challenge : PaymentRequired)
    (r : PaymentRequirements) : Prop where
  offered : r ∈ challenge.accepts
  registered : r.scheme = "exact" ∧ r.network = client.network
  issuers : ∃ offers kept, enforceDefaultAssetIssuers env offers = .ok kept ∧ r ∈ kept
  limits : client.limits ≠ [] →
    ∃ offers kept, spendLimitPolicy env client.limits offers = .ok kept ∧ r ∈ kept
  controls : ∀ cap, client.controls = .maxAmountPerPayment cap →
    (findDefaultAsset env r.asset r.network).isSome ∧ decimalLe env r.amount cap = .ok true

/-- What a call with this limit may pay for. -/
def WithinLimit (env : Env) (network : String) (limit : Option XRPLAssetSpendLimit)
    (r : PaymentRequirements) : Prop :=
  r.network = network ∧
    match limit with
    | some limit =>
      (∃ code, normalizeCurrencyCode env r.asset = .ok code ∧
        normalizeCurrencyCode env limit.asset = .ok code) ∧
      issuerOf r = optStr limit.issuer ∧ decimalLe env r.amount limit.maxAmount = .ok true
    | none =>
      ∃ asset, findDefaultAsset env r.asset network = some asset ∧
        issuerOf r = .str asset.issuer ∧ decimalLe env r.amount "1" = .ok true

theorem of_mem_keepWhere {α : Type} {test : α → Except Exc Bool} {as kept : List α} {a : α}
    (h : keepWhere test as = .ok kept) (ha : a ∈ kept) : test a = .ok true := by
  induction as generalizing kept with
  | nil =>
    cases h
    cases ha
  | cons b as ih =>
    obtain ⟨keep, hkeep, h⟩ := bind_eq_ok.mp h
    obtain ⟨rest, hrest, h⟩ := bind_eq_ok.mp h
    rw [← Except.ok.inj h] at ha
    cases keep with
    | true =>
      rcases List.mem_cons.mp ha with rfl | ha
      · exact hkeep
      · exact ih hrest ha
    | false => exact ih hrest ha

theorem withinSome_eq_true {env : Env} {r : PaymentRequirements} {code : String}
    {limits : List XRPLAssetSpendLimit} (h : withinSome env r code limits = .ok true) :
    ∃ limit ∈ limits, r.network = limit.network ∧ normalizeCurrencyCode env limit.asset = .ok code ∧
      issuerOf r = optStr limit.issuer ∧ decimalLe env r.amount limit.maxAmount = .ok true := by
  induction limits with
  | nil => cases h
  | cons limit limits ih =>
    have hrest : withinSome env r code limits = .ok true → ∃ l ∈ limit :: limits,
        r.network = l.network ∧ normalizeCurrencyCode env l.asset = .ok code ∧
          issuerOf r = optStr l.issuer ∧ decimalLe env r.amount l.maxAmount = .ok true := by
      intro hr
      obtain ⟨l, hl, hwithin⟩ := ih hr
      exact ⟨l, List.mem_cons_of_mem limit hl, hwithin⟩
    unfold withinSome at h
    split at h
    · exact hrest h
    · next hnetwork =>
      obtain ⟨wanted, hwanted, h⟩ := bind_eq_ok.mp h
      split at h
      · exact hrest h
      · next hmatch =>
        obtain ⟨affordable, hle, h⟩ := bind_eq_ok.mp h
        cases affordable with
        | true =>
          rw [not_or, not_not, not_not] at hmatch
          refine ⟨limit, List.mem_cons_self, not_not.mp hnetwork, ?_, hmatch.2, hle⟩
          rw [hmatch.1]
          exact hwanted
        | false => exact hrest h

/-- Default assets are configured for networks of the ledger only. -/
theorem isValidXrplNetwork_of_default {env : Env} {asset network : String} {default : DefaultAsset}
    (h : findDefaultAsset env asset network = some default) : isValidXrplNetwork network = true := by
  have hlookup : (defaultAssets.lookup network).isSome = true := by
    unfold findDefaultAsset at h
    cases hl : defaultAssets.lookup network with
    | none =>
      rw [hl] at h
      cases h
    | some entries => rfl
  obtain ⟨entry, hmem, heq⟩ := List.lookup_isSome_iff.mp hlookup
  have hvalid : ∀ entry ∈ defaultAssets, isValidXrplNetwork entry.1 = true := by decide
  rw [beq_iff_eq.mp heq]
  exact hvalid entry hmem

/-- What the configured client selects is within the limit of the call. -/
theorem withinLimit_of_selected {env : Env} {network : String} {limit : Option XRPLAssetSpendLimit}
    {client : PaymentClient} {challenge : PaymentRequired} {r : PaymentRequirements}
    (hclient : configuredClient env network limit = .ok client)
    (h : Selected env client challenge r) : WithinLimit env network limit r := by
  cases limit with
  | some limit =>
    obtain ⟨asset, -, hclient⟩ := bind_eq_ok.mp hclient
    obtain rfl := Except.ok.inj hclient
    obtain ⟨offers, kept, hpolicy, hmem⟩ := h.limits (by simp)
    have hkept := of_mem_keepWhere (show keepWhere _ offers = .ok kept from hpolicy) hmem
    obtain ⟨code, hcode, hwithin⟩ := bind_eq_ok.mp hkept
    obtain ⟨l, hl, -, hwanted, hissuer, hle⟩ := withinSome_eq_true hwithin
    obtain rfl := List.mem_singleton.mp hl
    exact ⟨h.registered.2, ⟨code, hcode, hwanted⟩, hissuer, hle⟩
  | none =>
    obtain rfl := Except.ok.inj hclient
    obtain ⟨hscheme, hnetwork⟩ := h.registered
    obtain ⟨hsome, hle⟩ := h.controls "1" rfl
    obtain ⟨asset, hasset⟩ := Option.isSome_iff_exists.mp hsome
    obtain ⟨offers, kept, hpolicy, hmem⟩ := h.issuers
    have hkeeps := of_mem_keepWhere hpolicy hmem
    have hnet : r.network = network := hnetwork
    refine ⟨hnet, asset, by rw [← hnet]; exact hasset, ?_, hle⟩
    unfold keepsIssuer at hkeeps
    rw [if_pos ⟨hscheme, isValidXrplNetwork_of_default hasset⟩] at hkeeps
    obtain ⟨flow, -, hkeeps⟩ := bind_eq_ok.mp hkeeps
    cases flow with
    | false => cases hkeeps
    | true =>
      rw [if_neg (by simp), hasset] at hkeeps
      simpa using Except.ok.inj hkeeps

end XrplX402.Payer
