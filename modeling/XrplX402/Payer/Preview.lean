import XrplX402.Payer.Pay
import XrplX402.Payer.SpendAssets

/-! # The dry run and the payment

    A payment leaves the choice of the requirements to the upstream client: it
    keeps what it is registered for, applies the policies and the spend controls,
    and pays the first that is left. The dry run makes its own choice.

    * `selectRequirements`: the choice of the configured client.
    * `payTest`, `offerTest`: the two choices, one requirement at a time.
    * `Foreseeable`: the challenges, by the order, the prices and the issuers of
      their offers, for which the choices are the same.
    * `preview_predicts_iff`: when the dry run shows what is going to be paid. -/

namespace XrplX402.Payer

open Py

variable {env : Env}

/-! ## Section 1: The choice of the client -/

/-- The policy of the spend limits, when there are any. -/
def applyLimits (env : Env) (limits : List XRPLAssetSpendLimit) (offers : List PaymentRequirements) :
    Except Exc (List PaymentRequirements) :=
  if limits = [] then .ok offers else spendLimitPolicy env limits offers

theorem applyLimits_nil (offers : List PaymentRequirements) :
    applyLimits env [] offers = .ok offers := if_pos rfl

theorem applyLimits_of_ne {limits : List XRPLAssetSpendLimit} (h : limits ≠ [])
    (offers : List PaymentRequirements) :
    applyLimits env limits offers = spendLimitPolicy env limits offers := if_neg h

/-- The choice of a client with these registrations, policies and spend
    controls; `permits` is the upstream test of the spend controls. -/
def selectRequirements (env : Env) (permits : SpendControls → PaymentRequirements → Except Exc Bool)
    (client : PaymentClient) (challenge : PaymentRequired) :
    Except Exc (Option PaymentRequirements) := do
  let registered := challenge.accepts.filter fun r => r.scheme = "exact" ∧ r.network = client.network
  let official ← enforceDefaultAssetIssuers env registered
  let limited ← applyLimits env client.limits official
  let permitted ← keepWhere (permits client.controls) limited
  return permitted.head?

/-- What a payment under this limit selects from the challenge. -/
def paymentSelection (env : Env) (permits : SpendControls → PaymentRequirements → Except Exc Bool)
    (challenge : PaymentRequired) (network : String) (limit : Option XRPLAssetSpendLimit) :
    Except Exc (Option PaymentRequirements) := do
  let client ← configuredClient env network limit
  selectRequirements env permits client challenge

/-- The dry run reports that it would pay some requirements exactly when the
    payment selects them. -/
def Predicts (env : Env) (permits : SpendControls → PaymentRequirements → Except Exc Bool)
    (challenge : PaymentRequired) (network : String) (limit : Option XRPLAssetSpendLimit) : Prop :=
  ∀ r, previewSelection env challenge network limit = .ok (r, true) ↔
    paymentSelection env permits challenge network limit = .ok (some r)

/-! ## Section 2: One requirement at a time -/

/-- Both tests, the second one only after the first. -/
def andThen {α : Type} (first second : α → Except Exc Bool) (a : α) : Except Exc Bool := do
  if ← first a then second a else return false

/-- The tests that the client makes. -/
def payTest (env : Env) (permits : SpendControls → PaymentRequirements → Except Exc Bool)
    (client : PaymentClient) : PaymentRequirements → Except Exc Bool :=
  andThen (fun r => .ok (r.scheme = "exact" ∧ r.network = client.network))
    (andThen (keepsIssuer env) (andThen
      (fun r => if client.limits = [] then .ok true else keepsRequirement env client.limits r)
      (permits client.controls)))

/-- The tests that the dry run makes. -/
def offerTest (env : Env) (network : String) :
    Option XRPLAssetSpendLimit → PaymentRequirements → Except Exc Bool
  | some limit => andThen isPayable (andThen (fun r => .ok (r.network = network))
      (andThen (fun r => do hasAsset env (← normalizeCurrencyCode env limit.asset) r)
        fun r => .ok (∀ i ∈ limit.issuer, issuerOf r = .str i)))
  | none => fun r => .ok (isDefaultOffer env network r)

/-- The cap of the dry run. -/
def capOf : Option XRPLAssetSpendLimit → String
  | some limit => limit.maxAmount
  | none => "1"

/-- Every element can be tested, and this is the first that passes. -/
def FirstThat {α : Type} (test : α → Except Exc Bool) (as : List α) (a : α) : Prop :=
  (∀ b ∈ as, ∃ passes, test b = .ok passes) ∧ as.find? (fun b => test b = .ok true) = some a

/-- The requirements are the first that the dry run matches, and within the cap. -/
def Offered (env : Env) (challenge : PaymentRequired) (network : String)
    (limit : Option XRPLAssetSpendLimit) (r : PaymentRequirements) : Prop :=
  FirstThat (offerTest env network limit) challenge.accepts r ∧
    decimalLe env r.amount (capOf limit) = .ok true

/-! ### What decides between the two -/

/-- The flow is omitted, or it is the default. -/
def AuthorizationFlow (r : PaymentRequirements) : Prop :=
  Dict.get r.extraOr "paymentFlow" = .null ∨ Dict.get r.extraOr "paymentFlow" = .str "authorization"

/-- The requirement is one for the limit, or for the default asset where there is
    none. Its price does not matter. -/
inductive Matches (env : Env) (network : String) :
    Option XRPLAssetSpendLimit → PaymentRequirements → Prop where
  | limited {l : XRPLAssetSpendLimit} {r : PaymentRequirements} (scheme : r.scheme = "exact")
      (network_ : r.network = network) (flow : isValidXrplNetwork network = true → AuthorizationFlow r)
      (code : ∃ code, normalizeCurrencyCode env r.asset = .ok code ∧
        normalizeCurrencyCode env l.asset = .ok code)
      (issuer : ∀ i ∈ l.issuer, issuerOf r = .str i) : Matches env network (some l) r
  | unlimited {r : PaymentRequirements} (default : DefaultAsset)
      (asset : findDefaultAsset env r.asset network = some default) (network_ : r.network = network)
      (issuer : issuerOf r = .str default.issuer) : Matches env network none r

/-- The price is within the cap. -/
def WithinCap (env : Env) (limit : Option XRPLAssetSpendLimit) (r : PaymentRequirements) : Prop :=
  decimalLe env r.amount (capOf limit) = .ok true

/-- A match that no other stands before. -/
def FirstMatch (env : Env) (challenge : PaymentRequired) (network : String)
    (limit : Option XRPLAssetSpendLimit) (m : PaymentRequirements) : Prop :=
  ∃ pre post, challenge.accepts = pre ++ m :: post ∧ Matches env network limit m ∧
    ∀ b ∈ pre, ¬ Matches env network limit b

/-- Why a payment leaves a match out. -/
inductive Declined (env : Env) (permits : SpendControls → PaymentRequirements → Except Exc Bool)
    (network : String) : Option XRPLAssetSpendLimit → PaymentRequirements → Prop where
  /-- It is above the cap of the limit. -/
  | price {l : XRPLAssetSpendLimit} {r : PaymentRequirements}
      (dear : decimalLe env r.amount l.maxAmount = .ok false) : Declined env permits network (some l) r
  /-- It names an issuer, and the limit names none. -/
  | unnamed {l : XRPLAssetSpendLimit} {r : PaymentRequirements} (differs : issuerOf r ≠ optStr l.issuer) :
      Declined env permits network (some l) r
  | elsewhere {l : XRPLAssetSpendLimit} {r : PaymentRequirements} (differs : r.network ≠ l.network) :
      Declined env permits network (some l) r
  | scheme {r : PaymentRequirements} (differs : r.scheme ≠ "exact") : Declined env permits network none r
  | flow {r : PaymentRequirements} (other : ¬ AuthorizationFlow r) : Declined env permits network none r
  /-- It is a default asset of the network, from a foreign issuer. -/
  | foreign {limit : Option XRPLAssetSpendLimit} {r : PaymentRequirements} (default : DefaultAsset)
      (asset : findDefaultAsset env r.asset network = some default)
      (differs : issuerOf r ≠ .str default.issuer) : Declined env permits network limit r
  /-- The spend controls do not permit it. -/
  | controls {limit : Option XRPLAssetSpendLimit} {r : PaymentRequirements} (client : PaymentClient)
      (configured : configuredClient env network limit = .ok client)
      (refused : permits client.controls r = .ok false) : Declined env permits network limit r

/-- The flow is neither a list nor an object, which cannot be looked up. -/
def FlowReads (r : PaymentRequirements) : Prop :=
  (∀ items, Dict.get r.extraOr "paymentFlow" ≠ .arr items) ∧
    ∀ d, Dict.get r.extraOr "paymentFlow" ≠ .obj d

def HasCode (env : Env) (asset : String) : Prop := ∃ code, normalizeCurrencyCode env asset = .ok code

/-- An amount that can be compared with the cap. -/
def Comparable (env : Env) (amount cap : String) : Prop := ∃ within, decimalLe env amount cap = .ok within

/-- The dry run can read what it looks at: under a limit, the flow of every exact
    offer, and the asset of those on the network. -/
def Surveyed (env : Env) (challenge : PaymentRequired) (network : String)
    (limit : Option XRPLAssetSpendLimit) : Prop :=
  ∀ l ∈ limit, ∀ b ∈ challenge.accepts, b.scheme = "exact" → isValidXrplNetwork b.network = true →
    FlowReads b ∧ (b.network = network → AuthorizationFlow b → HasCode env l.asset ∧ HasCode env b.asset)

/-- On networks of the ledger, the flow is the default one, and default assets are
    of their own issuer. -/
def Official (env : Env) (r : PaymentRequirements) : Prop :=
  isValidXrplNetwork r.network = true → AuthorizationFlow r ∧
    ∀ default, findDefaultAsset env r.asset r.network = some default → issuerOf r = .str default.issuer

/-- The limit is for this requirement, whatever its price. -/
structure Limits (env : Env) (l : XRPLAssetSpendLimit) (r : PaymentRequirements) : Prop where
  network : r.network = l.network
  code : ∃ code, normalizeCurrencyCode env r.asset = .ok code ∧ normalizeCurrencyCode env l.asset = .ok code
  issuer : issuerOf r = optStr l.issuer

/-- The client can read what it looks at in the requirement. -/
structure Readable (env : Env) (permits : SpendControls → PaymentRequirements → Except Exc Bool)
    (controls : SpendControls) (limit : Option XRPLAssetSpendLimit) (r : PaymentRequirements) : Prop where
  flow : isValidXrplNetwork r.network = true → FlowReads r
  code : Official env r → ∀ l ∈ limit, HasCode env r.asset
  price : Official env r → ∀ l ∈ limit, Limits env l r → Comparable env r.amount l.maxAmount
  controls : Official env r →
    (∀ l ∈ limit, Limits env l r ∧ decimalLe env r.amount l.maxAmount = .ok true) →
      ∃ permitted, permits controls r = .ok permitted

/-- The client can be configured, and can read the offers that it is registered for. -/
def Testable (env : Env) (permits : SpendControls → PaymentRequirements → Except Exc Bool)
    (challenge : PaymentRequired) (network : String) (limit : Option XRPLAssetSpendLimit) : Prop :=
  ∃ client, configuredClient env network limit = .ok client ∧
    ∀ b ∈ challenge.accepts, b.scheme = "exact" → b.network = network →
      Readable env permits client.controls limit b

/-- The order, the prices and the issuers of the offers leave the dry run and the
    payment no difference. -/
structure Foreseeable (env : Env) (permits : SpendControls → PaymentRequirements → Except Exc Bool)
    (challenge : PaymentRequired) (network : String) (limit : Option XRPLAssetSpendLimit) : Prop where
  /-- A first match within the cap is not left out. -/
  cheap : ∀ m, isValidXrplNetwork network = true → Surveyed env challenge network limit →
    FirstMatch env challenge network limit m → WithinCap env limit m →
    Testable env permits challenge network limit ∧ ¬ Declined env permits network limit m
  /-- Behind a first match above the cap every match is left out, and so is every
      match that the dry run does not come to see. -/
  dear : Testable env permits challenge network limit →
    (isValidXrplNetwork network = false ∨ ¬ Surveyed env challenge network limit ∨
      ∃ m, FirstMatch env challenge network limit m ∧ ¬ WithinCap env limit m) →
    ∀ b ∈ challenge.accepts, Matches env network limit b → Declined env permits network limit b

section Tests

variable {α : Type} {test first second : α → Except Exc Bool} {as : List α}

theorem ok_bind {β : Type} (a : α) (f : α → Except Exc β) : (Except.ok a >>= f) = f a := rfl

theorem andThen_eq_true {a : α} :
    andThen first second a = .ok true ↔ first a = .ok true ∧ second a = .ok true := by
  unfold andThen
  constructor
  · intro h
    obtain ⟨passes, hfirst, h⟩ := bind_eq_ok.mp h
    cases passes with
    | true => exact ⟨hfirst, h⟩
    | false => cases h
  · rintro ⟨hfirst, hsecond⟩
    rw [hfirst]
    exact hsecond

theorem andThen_reads {a : α} : (∃ b, andThen first second a = .ok b) ↔
    (∃ b, first a = .ok b) ∧ (first a = .ok true → ∃ c, second a = .ok c) := by
  unfold andThen
  constructor
  · rintro ⟨b, h⟩
    obtain ⟨passes, hfirst, h⟩ := bind_eq_ok.mp h
    refine ⟨⟨passes, hfirst⟩, fun htrue => ?_⟩
    obtain rfl := Except.ok.inj (hfirst.symm.trans htrue)
    exact ⟨b, h⟩
  · rintro ⟨⟨b, hfirst⟩, hsecond⟩
    rw [hfirst] at hsecond ⊢
    cases b with
    | true => exact hsecond rfl
    | false => exact ⟨false, rfl⟩

theorem andThen_plain_reads {p : α → Bool} {a : α} :
    (∃ b, andThen (fun a => .ok (p a)) second a = .ok b) ↔ (p a = true → ∃ c, second a = .ok c) := by
  rw [andThen_reads, Except.ok.injEq]
  exact and_iff_right ⟨p a, rfl⟩

theorem keepWhere_eq_ok {kept : List α} : keepWhere test as = .ok kept ↔
    (∀ a ∈ as, ∃ b, test a = .ok b) ∧ kept = as.filter fun a => test a = .ok true := by
  have hfilter : (∀ a ∈ as, ∃ b, test a = .ok b) →
      keepWhere test as = .ok (as.filter fun a => test a = .ok true) := by
    intro hreads
    apply keepWhere_eq_filter_iff.mpr
    intro a ha
    obtain ⟨b, hb⟩ := hreads a ha
    rw [hb]
    cases b <;> rfl
  constructor
  · intro h
    have hreads : ∀ a ∈ as, ∃ b, test a = .ok b := by
      clear hfilter
      induction as generalizing kept with
      | nil => simp
      | cons a as ih =>
        obtain ⟨b, hb, h⟩ := bind_eq_ok.mp h
        obtain ⟨rest, hrest, -⟩ := bind_eq_ok.mp h
        exact List.forall_mem_cons.mpr ⟨⟨b, hb⟩, ih hrest⟩
    rw [hfilter hreads] at h
    exact ⟨hreads, (Except.ok.inj h).symm⟩
  · rintro ⟨hreads, rfl⟩
    exact hfilter hreads

/-- Two rounds of a fallible filter are one with both tests. -/
theorem keepWhere_andThen {kept : List α} : keepWhere (andThen first second) as = .ok kept ↔
    ∃ passed, keepWhere first as = .ok passed ∧ keepWhere second passed = .ok kept := by
  have hfilter : (as.filter fun a => andThen first second a = .ok true) =
      (as.filter fun a => first a = .ok true).filter fun a => second a = .ok true := by
    rw [List.filter_filter]
    apply List.filter_congr
    intro a _
    rw [← Bool.decide_and]
    exact decide_eq_decide.mpr (andThen_eq_true.trans and_comm)
  constructor
  · intro h
    obtain ⟨hreads, rfl⟩ := keepWhere_eq_ok.mp h
    refine ⟨_, keepWhere_eq_ok.mpr ⟨?_, rfl⟩, keepWhere_eq_ok.mpr ⟨?_, hfilter⟩⟩
    · exact fun a ha => (andThen_reads.mp (hreads a ha)).1
    · intro a ha
      obtain ⟨hmem, hpass⟩ := List.mem_filter.mp ha
      exact (andThen_reads.mp (hreads a hmem)).2 (of_decide_eq_true hpass)
  · rintro ⟨passed, hfirst, hsecond⟩
    obtain ⟨hreads, rfl⟩ := keepWhere_eq_ok.mp hfirst
    obtain ⟨hreads', rfl⟩ := keepWhere_eq_ok.mp hsecond
    refine keepWhere_eq_ok.mpr ⟨?_, hfilter.symm⟩
    intro a ha
    refine andThen_reads.mpr ⟨hreads a ha, fun hpass => ?_⟩
    exact hreads' a (List.mem_filter.mpr ⟨ha, decide_eq_true hpass⟩)

theorem keepWhere_rounds {t₁ t₂ t₃ t₄ : α → Except Exc Bool} {kept : List α} :
    keepWhere (andThen t₁ (andThen t₂ (andThen t₃ t₄))) as = .ok kept ↔
      ∃ first second third, keepWhere t₁ as = .ok first ∧ keepWhere t₂ first = .ok second ∧
        keepWhere t₃ second = .ok third ∧ keepWhere t₄ third = .ok kept := by
  rw [keepWhere_andThen]
  constructor
  · rintro ⟨first, hfirst, h⟩
    obtain ⟨second, hsecond, h⟩ := keepWhere_andThen.mp h
    obtain ⟨third, hthird, hkept⟩ := keepWhere_andThen.mp h
    exact ⟨first, second, third, hfirst, hsecond, hthird, hkept⟩
  · rintro ⟨first, second, third, hfirst, hsecond, hthird, hkept⟩
    exact ⟨first, hfirst, keepWhere_andThen.mpr ⟨second, hsecond,
      keepWhere_andThen.mpr ⟨third, hthird, hkept⟩⟩⟩

/-- A plain filter in front of a fallible one. -/
theorem keepWhere_plain {p : α → Bool} {kept : List α} :
    keepWhere (fun a => .ok (p a)) as = .ok kept ↔ kept = as.filter p := by
  have hfilter : keepWhere (fun a => .ok (p a)) as = .ok (as.filter p) :=
    keepWhere_eq_filter_iff.mpr fun _ _ => rfl
  rw [hfilter, Except.ok.injEq]
  exact eq_comm

theorem firstThat_iff {a : α} :
    FirstThat test as a ↔ ∃ kept, keepWhere test as = .ok kept ∧ kept.head? = some a := by
  constructor
  · rintro ⟨hreads, hfind⟩
    exact ⟨_, keepWhere_eq_ok.mpr ⟨hreads, rfl⟩, by rw [List.head?_filter, hfind]⟩
  · rintro ⟨kept, hkept, hhead⟩
    obtain ⟨hreads, rfl⟩ := keepWhere_eq_ok.mp hkept
    exact ⟨hreads, by rw [← List.head?_filter, hhead]⟩

end Tests

/-! ## Section 3: Both choices, element by element -/

section Choices

variable {permits : SpendControls → PaymentRequirements → Except Exc Bool} {challenge : PaymentRequired}
variable {network : String} {limit : Option XRPLAssetSpendLimit} {r : PaymentRequirements}

theorem selectRequirements_eq_some {client : PaymentClient} :
    selectRequirements env permits client challenge = .ok (some r) ↔
      FirstThat (payTest env permits client) challenge.accepts r := by
  -- The rounds of the client are the tests, one after the other.
  have hlimits : ∀ {official limited : List PaymentRequirements},
      applyLimits env client.limits official = .ok limited ↔
        keepWhere (fun r => if client.limits = [] then .ok true else keepsRequirement env client.limits r)
          official = .ok limited := by
    intro official limited
    by_cases hnone : client.limits = []
    · have hall : official.filter (fun _ => true) = official := List.filter_true official
      simp only [hnone, applyLimits_nil, if_true, keepWhere_plain, Except.ok.injEq, hall]
      exact eq_comm
    · simp only [applyLimits_of_ne hnone, hnone, if_false]
      exact Iff.rfl
  rw [firstThat_iff]
  unfold payTest
  simp only [keepWhere_rounds]
  constructor
  · intro h
    obtain ⟨official, hofficial, h⟩ := bind_eq_ok.mp h
    obtain ⟨limited, hlimited, h⟩ := bind_eq_ok.mp h
    obtain ⟨permitted, hpermitted, h⟩ := bind_eq_ok.mp h
    exact ⟨permitted, ⟨_, official, limited, keepWhere_plain.mpr rfl, hofficial, hlimits.mp hlimited,
      hpermitted⟩, Except.ok.inj h⟩
  · rintro ⟨permitted, ⟨registered, official, limited, hregistered, hofficial, hlimited, hpermitted⟩, hhead⟩
    rw [keepWhere_plain] at hregistered
    subst hregistered
    exact bind_eq_ok.mpr ⟨official, hofficial, bind_eq_ok.mpr ⟨limited, hlimits.mpr hlimited,
      bind_eq_ok.mpr ⟨permitted, hpermitted, congrArg Except.ok hhead⟩⟩⟩

theorem paymentSelection_eq_some :
    paymentSelection env permits challenge network limit = .ok (some r) ↔
      ∃ client, configuredClient env network limit = .ok client ∧
        FirstThat (payTest env permits client) challenge.accepts r := by
  unfold paymentSelection
  rw [bind_eq_ok]
  simp only [selectRequirements_eq_some]

/-- The offers of the dry run under a limit, in rounds. -/
theorem selectPaymentOption_eq_ok {l : XRPLAssetSpendLimit} :
    selectPaymentOption env challenge (some network) (some l.asset) l.issuer = .ok r ↔
      ∃ payable wanted ofAsset, keepWhere isPayable challenge.accepts = .ok payable ∧
        normalizeCurrencyCode env l.asset = .ok wanted ∧
        keepWhere (hasAsset env wanted) (payable.filter fun item => item.network = network) =
          .ok ofAsset ∧
        (ofAsset.filter fun item => ∀ i ∈ l.issuer, issuerOf item = .str i).head? = some r := by
  -- A given network filters by itself.
  have hnetwork : ∀ payable : List PaymentRequirements,
      (payable.filter fun item => ∀ n ∈ some network, item.network = n) =
        payable.filter fun item => item.network = network := by
    intro payable
    apply List.filter_congr
    intro item _
    simp
  unfold selectPaymentOption
  rw [bind_eq_ok]
  constructor
  · rintro ⟨payable, hpayable, h⟩
    simp only [hnetwork] at h
    obtain ⟨wanted, hwanted, h⟩ := bind_eq_ok.mp h
    obtain ⟨ofAsset, hasset, h⟩ := bind_eq_ok.mp h
    refine ⟨payable, wanted, ofAsset, hpayable, hwanted, hasset, ?_⟩
    -- The selection raises where the filter is empty, and takes its first offer elsewhere.
    cases hof : ofAsset.filter fun item => ∀ i ∈ l.issuer, issuerOf item = .str i with
    | nil =>
      simp only [hof] at h
      cases h
    | cons item rest =>
      simp only [hof] at h
      rw [← Except.ok.inj h]
      rfl
  · rintro ⟨payable, wanted, ofAsset, hpayable, hwanted, hasset, hhead⟩
    refine ⟨payable, hpayable, ?_⟩
    simp only [hnetwork]
    refine bind_eq_ok.mpr ⟨wanted, hwanted, bind_eq_ok.mpr ⟨ofAsset, hasset, ?_⟩⟩
    obtain ⟨rest, hrest⟩ := List.head?_eq_some_iff.mp hhead
    simp only [hrest]
    rfl

theorem offerTest_some {l : XRPLAssetSpendLimit} :
    offerTest env network (some l) = andThen isPayable (andThen (fun r => .ok (r.network = network))
      (andThen (fun r => normalizeCurrencyCode env l.asset >>= fun wanted => hasAsset env wanted r)
        fun r => .ok (∀ i ∈ l.issuer, issuerOf r = .str i))) := rfl

theorem firstOffer_iff {l : XRPLAssetSpendLimit} :
    selectPaymentOption env challenge (some network) (some l.asset) l.issuer = .ok r ↔
      FirstThat (offerTest env network (some l)) challenge.accepts r := by
  have hbind : ∀ wanted : String, (fun r => (Except.ok wanted : Except Exc String) >>= fun wanted =>
      hasAsset env wanted r) = hasAsset env wanted := fun wanted => funext fun r => ok_bind wanted _
  rw [selectPaymentOption_eq_ok, firstThat_iff, offerTest_some]
  simp only [keepWhere_rounds]
  constructor
  · rintro ⟨payable, wanted, ofAsset, hpayable, hwanted, hasset, hhead⟩
    refine ⟨_, ⟨payable, _, ofAsset, hpayable, keepWhere_plain.mpr rfl, ?_, keepWhere_plain.mpr rfl⟩, hhead⟩
    rw [hwanted, hbind]
    exact hasset
  · rintro ⟨kept, ⟨payable, onNetwork, ofAsset, hpayable, honNetwork, hasset, hissuer⟩, hhead⟩
    rw [keepWhere_plain] at honNetwork hissuer
    subst honNetwork hissuer
    -- Something was kept, so the asset of the limit has a name.
    have hmem : r ∈ ofAsset := (List.mem_filter.mp (List.mem_of_mem_head? hhead)).1
    have htest := of_mem_keepWhere hasset hmem
    obtain ⟨wanted, hwanted, -⟩ := bind_eq_ok.mp htest
    rw [hwanted, hbind] at hasset
    exact ⟨payable, wanted, ofAsset, hpayable, hwanted, hasset, hhead⟩

/-- The dry run reports that it would pay what it offers. -/
theorem previewSelection_eq_ok :
    previewSelection env challenge network limit = .ok (r, true) ↔
      Offered env challenge network limit r := by
  unfold Offered
  cases limit with
  | some l =>
    rw [← firstOffer_iff]
    constructor
    · intro h
      obtain ⟨selected, hselected, h⟩ := bind_eq_ok.mp h
      obtain ⟨permitted, hpermitted, h⟩ := bind_eq_ok.mp h
      obtain ⟨rfl, rfl⟩ := Prod.mk.inj (Except.ok.inj h)
      exact ⟨hselected, hpermitted⟩
    · rintro ⟨hselected, hpermitted⟩
      exact bind_eq_ok.mpr ⟨r, hselected, bind_eq_ok.mpr ⟨true, hpermitted, rfl⟩⟩
  | none =>
    -- Without a limit no test raises, so the survey is a plain filter.
    have hfirst : FirstThat (offerTest env network none) challenge.accepts r ↔
        (challenge.accepts.filter (isDefaultOffer env network)).head? = some r := by
      rw [firstThat_iff]
      constructor
      · rintro ⟨kept, hkept, hhead⟩
        rwa [keepWhere_plain.mp hkept] at hhead
      · intro hhead
        exact ⟨_, keepWhere_plain.mpr rfl, hhead⟩
    rw [hfirst]
    unfold previewSelection
    cases hoffers : challenge.accepts.filter (isDefaultOffer env network) with
    | nil => simp
    | cons selected rest =>
      constructor
      · intro h
        obtain ⟨permitted, hpermitted, h⟩ := bind_eq_ok.mp h
        obtain ⟨rfl, rfl⟩ := Prod.mk.inj (Except.ok.inj h)
        exact ⟨rfl, hpermitted⟩
      · rintro ⟨hhead, hpermitted⟩
        obtain rfl : selected = r := Option.some.inj hhead
        exact bind_eq_ok.mpr ⟨true, hpermitted, rfl⟩

/-! ## Section 4: What is paid is offered -/

variable {client : PaymentClient}

/-- The spend controls permit no asset but a default one unless told to. -/
def DefaultsOnly (env : Env) (permits : SpendControls → PaymentRequirements → Except Exc Bool) : Prop :=
  ∀ cap r, permits (.maxAmountPerPayment cap) r = .ok true →
    (findDefaultAsset env r.asset r.network).isSome = true

theorem payTest_eq_true : payTest env permits client r = .ok true ↔
    (r.scheme = "exact" ∧ r.network = client.network) ∧ keepsIssuer env r = .ok true ∧
      (client.limits ≠ [] → keepsRequirement env client.limits r = .ok true) ∧
      permits client.controls r = .ok true := by
  unfold payTest
  rw [andThen_eq_true, andThen_eq_true, andThen_eq_true]
  have hplain : ∀ p : Bool, (Except.ok p : Except Exc Bool) = .ok true ↔ p = true :=
    fun p => by rw [Except.ok.injEq]
  rw [hplain, decide_eq_true_eq]
  by_cases hnone : client.limits = [] <;> simp [hnone]

theorem isAuthorizationFlow_reads : (∃ flow, isAuthorizationFlow r = .ok flow) ↔ FlowReads r := by
  unfold isAuthorizationFlow FlowReads
  split <;> simp_all

theorem isAuthorizationFlow_eq_true : isAuthorizationFlow r = .ok true ↔ AuthorizationFlow r := by
  unfold isAuthorizationFlow AuthorizationFlow
  split <;> simp_all

theorem keepsIssuer_reads (hscheme : r.scheme = "exact") :
    (∃ b, keepsIssuer env r = .ok b) ↔ (isValidXrplNetwork r.network = true → FlowReads r) := by
  unfold keepsIssuer
  by_cases hvalid : isValidXrplNetwork r.network = true
  · rw [if_pos ⟨hscheme, hvalid⟩, ← isAuthorizationFlow_reads]
    constructor
    · rintro ⟨b, h⟩ -
      obtain ⟨flow, hflow, -⟩ := bind_eq_ok.mp h
      exact ⟨flow, hflow⟩
    · intro h
      obtain ⟨flow, hflow⟩ := h hvalid
      rw [hflow, ok_bind]
      cases flow with
      | false => exact ⟨false, rfl⟩
      | true =>
        rw [if_neg (by simp)]
        cases findDefaultAsset env r.asset r.network with
        | none => exact ⟨true, rfl⟩
        | some default => exact ⟨_, rfl⟩
  · rw [if_neg (fun h => hvalid h.2)]
    exact ⟨fun _ h => absurd h hvalid, fun _ => ⟨true, rfl⟩⟩

/-- The issuer policy keeps the official requirements of the scheme. -/
theorem keepsIssuer_eq_true (hscheme : r.scheme = "exact") :
    keepsIssuer env r = .ok true ↔ Official env r := by
  unfold keepsIssuer Official
  by_cases hvalid : isValidXrplNetwork r.network = true
  · rw [if_pos ⟨hscheme, hvalid⟩, ← isAuthorizationFlow_eq_true]
    constructor
    · intro h _
      obtain ⟨flow, hflow, h⟩ := bind_eq_ok.mp h
      cases flow with
      | false => cases h
      | true =>
        refine ⟨hflow, fun default hdefault => ?_⟩
        rw [if_neg (by simp), hdefault] at h
        exact of_decide_eq_true (Except.ok.inj h)
    · intro h
      obtain ⟨hflow, hissuer⟩ := h hvalid
      rw [hflow, ok_bind, if_neg (by simp)]
      cases hdefault : findDefaultAsset env r.asset r.network with
      | none => rfl
      | some default =>
        show Except.ok (decide (issuerOf r = .str default.issuer)) = _
        rw [decide_eq_true (hissuer default hdefault)]
  · rw [if_neg (fun h => hvalid h.2)]
    exact ⟨fun _ h => absurd h hvalid, fun _ => rfl⟩

theorem keepsRequirement_reads {l : XRPLAssetSpendLimit} (hl : HasCode env l.asset) :
    (∃ b, keepsRequirement env [l] r = .ok b) ↔
      HasCode env r.asset ∧ (Limits env l r → Comparable env r.amount l.maxAmount) := by
  obtain ⟨wanted, hwanted⟩ := hl
  constructor
  · rintro ⟨b, h⟩
    obtain ⟨code, hcode, h⟩ := bind_eq_ok.mp h
    refine ⟨⟨code, hcode⟩, ?_⟩
    -- An amount is read only on the limit's network, in its code and of its issuer.
    rintro ⟨hnetwork, ⟨code', hcode', hwanted'⟩, hissuer⟩
    obtain rfl := Except.ok.inj (hcode'.symm.trans hcode)
    unfold withinSome at h
    rw [if_neg (not_not.mpr hnetwork), hwanted', ok_bind, if_neg (by simp [hissuer])] at h
    obtain ⟨within, hwithin, -⟩ := bind_eq_ok.mp h
    exact ⟨within, hwithin⟩
  · rintro ⟨⟨code, hcode⟩, hprice⟩
    unfold keepsRequirement
    rw [hcode, ok_bind]
    unfold withinSome
    split
    · exact ⟨false, rfl⟩
    · next hnetwork =>
      rw [hwanted, ok_bind]
      split
      · exact ⟨false, rfl⟩
      · next hother =>
        obtain ⟨heq, hissuer⟩ := not_or.mp hother
        have hlimits : Limits env l r :=
          ⟨not_not.mp hnetwork, ⟨code, hcode, not_not.mp heq ▸ hwanted⟩, not_not.mp hissuer⟩
        obtain ⟨within, hwithin⟩ := hprice hlimits
        rw [hwithin, ok_bind]
        cases within with
        | true => exact ⟨true, rfl⟩
        | false => exact ⟨false, rfl⟩

/-- The policy of one limit keeps what the limit is for, within its cap. -/
theorem keepsRequirement_eq_true {l : XRPLAssetSpendLimit} : keepsRequirement env [l] r = .ok true ↔
    Limits env l r ∧ decimalLe env r.amount l.maxAmount = .ok true := by
  constructor
  · intro h
    obtain ⟨code, hcode, hwithin⟩ := bind_eq_ok.mp h
    obtain ⟨l', hl', hnetwork, hwanted, hissuer, hprice⟩ := withinSome_eq_true hwithin
    obtain rfl := List.mem_singleton.mp hl'
    exact ⟨⟨hnetwork, ⟨code, hcode, hwanted⟩, hissuer⟩, hprice⟩
  · rintro ⟨⟨hnetwork, ⟨code, hcode, hwanted⟩, hissuer⟩, hprice⟩
    unfold keepsRequirement
    rw [hcode, ok_bind]
    unfold withinSome
    rw [if_neg (not_not.mpr hnetwork), hwanted, ok_bind, if_neg (by simp [hissuer]), hprice]
    rfl

theorem network_of_configured (h : configuredClient env network limit = .ok client) :
    client.network = network := by
  cases limit with
  | some l =>
    obtain ⟨asset, -, h⟩ := bind_eq_ok.mp h
    rw [← Except.ok.inj h]
  | none => rw [← Except.ok.inj h]

/-- The dry run matches offers on networks of the ledger only. -/
theorem offerTest_iff : offerTest env network limit r = .ok true ↔
    isValidXrplNetwork network = true ∧ Matches env network limit r := by
  cases limit with
  -- The four tests of the survey, in the order in which they are made.
  | some l =>
    rw [offerTest_some, andThen_eq_true, andThen_eq_true, andThen_eq_true]
    constructor
    · rintro ⟨hpayable, hnetwork, hasset, hissuer⟩
      have hsame : r.network = network := of_decide_eq_true (Except.ok.inj hnetwork)
      unfold isPayable at hpayable
      split at hpayable
      · next hexact =>
        obtain ⟨wanted, hwanted, hasset⟩ := bind_eq_ok.mp hasset
        obtain ⟨code, hcode, hasset⟩ := bind_eq_ok.mp hasset
        have heq : code = wanted := of_decide_eq_true (Except.ok.inj hasset)
        refine ⟨hsame ▸ hexact.2, .limited hexact.1 hsame (fun _ => ?_) ⟨wanted, heq ▸ hcode, hwanted⟩ ?_⟩
        · exact isAuthorizationFlow_eq_true.mp hpayable
        · exact of_decide_eq_true (Except.ok.inj hissuer)
      · cases hpayable
    · rintro ⟨hvalid, hmatches⟩
      cases hmatches with
      | limited scheme network_ flow code issuer =>
        obtain ⟨wanted, hcode, hwanted⟩ := code
        refine ⟨?_, by rw [decide_eq_true network_], ?_, by rw [decide_eq_true issuer]⟩
        · unfold isPayable
          rw [if_pos ⟨scheme, by rw [network_]; exact hvalid⟩]
          exact isAuthorizationFlow_eq_true.mpr (flow hvalid)
        · rw [hwanted, ok_bind]
          unfold hasAsset
          rw [hcode, ok_bind, decide_eq_true rfl]
          rfl
  | none =>
    show (Except.ok (isDefaultOffer env network r) : Except Exc Bool) = .ok true ↔ _
    rw [Except.ok.injEq]
    unfold isDefaultOffer
    constructor
    · intro h
      -- Without a limit the offer is looked up among the default assets.
      cases hd : findDefaultAsset env r.asset network with
      | none =>
        rw [hd] at h
        cases h
      | some default =>
        rw [hd] at h
        obtain ⟨hnetwork, hissuer⟩ : r.network = network ∧ issuerOf r = .str default.issuer := by
          simpa using h
        exact ⟨isValidXrplNetwork_of_default hd, .unlimited default hd hnetwork hissuer⟩
    · rintro ⟨-, hmatches⟩
      cases hmatches with
      | unlimited default asset network_ issuer =>
        rw [asset]
        simp [network_, issuer]

theorem surveyed_iff : Surveyed env challenge network limit ↔
    ∀ b ∈ challenge.accepts, ∃ passes, offerTest env network limit b = .ok passes := by
  cases limit with
  | none => exact ⟨fun _ b _ => ⟨_, rfl⟩, fun _ l hl => by cases hl⟩
  | some l =>
    -- The offers are read one by one, and each test ends at the first mismatch.
    have hone : ∀ b, (∃ passes, offerTest env network (some l) b = .ok passes) ↔
        (b.scheme = "exact" → isValidXrplNetwork b.network = true → FlowReads b ∧
          (b.network = network → AuthorizationFlow b → HasCode env l.asset ∧ HasCode env b.asset)) := by
      intro b
      rw [offerTest_some, andThen_reads, andThen_plain_reads, andThen_reads, decide_eq_true_eq]
      have hasset : (∃ passes, (normalizeCurrencyCode env l.asset >>= fun wanted => hasAsset env wanted b) =
          .ok passes) ↔ HasCode env l.asset ∧ HasCode env b.asset := by
        constructor
        · rintro ⟨passes, h⟩
          obtain ⟨wanted, hwanted, h⟩ := bind_eq_ok.mp h
          obtain ⟨code, hcode, -⟩ := bind_eq_ok.mp h
          exact ⟨⟨wanted, hwanted⟩, ⟨code, hcode⟩⟩
        · rintro ⟨⟨wanted, hwanted⟩, ⟨code, hcode⟩⟩
          unfold hasAsset
          rw [hwanted, ok_bind, hcode]
          exact ⟨_, rfl⟩
      rw [hasset]
      unfold isPayable
      by_cases hexact : b.scheme = "exact" ∧ isValidXrplNetwork b.network = true
      · rw [if_pos hexact, isAuthorizationFlow_reads, isAuthorizationFlow_eq_true]
        constructor
        · rintro ⟨hflow, hcodes⟩ - -
          exact ⟨hflow, fun hnetwork hauthorized => (hcodes hauthorized hnetwork).1⟩
        · intro h
          obtain ⟨hflow, hcodes⟩ := h hexact.1 hexact.2
          exact ⟨hflow, fun hauthorized hnetwork => ⟨hcodes hnetwork hauthorized, fun _ => ⟨_, rfl⟩⟩⟩
      · rw [if_neg hexact]
        exact ⟨fun _ hscheme hvalid => absurd ⟨hscheme, hvalid⟩ hexact,
          fun _ => ⟨⟨false, rfl⟩, fun h => by cases h⟩⟩
    simp only [hone]
    exact ⟨fun h b hb => h l rfl b hb, fun h l' hl' b hb => Option.some.inj hl' ▸ h b hb⟩

theorem hasCode_of_configured {l : XRPLAssetSpendLimit}
    (h : configuredClient env network (some l) = .ok client) : HasCode env l.asset := by
  obtain ⟨asset, hasset, hclient⟩ := bind_eq_ok.mp h
  obtain ⟨currency, hcurrency, hrest⟩ := bind_eq_ok.mp hasset
  obtain ⟨code, hcode, hallowed⟩ := bind_eq_ok.mp hrest
  exact ⟨code, hcode⟩

theorem configured_some {l : XRPLAssetSpendLimit}
    (h : configuredClient env network (some l) = .ok client) : client.limits = [l] := by
  obtain ⟨asset, -, hclient⟩ := bind_eq_ok.mp h
  rw [← Except.ok.inj hclient]

theorem configured_none (h : configuredClient env network none = .ok client) : client.limits = [] := by
  rw [← Except.ok.inj h]

/-- The client can read a requirement exactly when none of its tests raises. -/
theorem readable_iff (hclient : configuredClient env network limit = .ok client) :
    (r.scheme = "exact" → r.network = network → Readable env permits client.controls limit r) ↔
      ∃ passes, payTest env permits client r = .ok passes := by
  unfold payTest
  rw [andThen_plain_reads, decide_eq_true_eq, network_of_configured hclient, and_imp]
  -- What the client reads of an offer depends on the tests before.
  refine forall_congr' fun hscheme => forall_congr' fun _ => ?_
  rw [andThen_reads, andThen_reads, keepsIssuer_reads hscheme, keepsIssuer_eq_true hscheme]
  cases limit with
  | some l =>
    have hl := hasCode_of_configured hclient
    rw [configured_some hclient]
    simp only [List.cons_ne_nil, if_false]
    rw [keepsRequirement_reads hl, keepsRequirement_eq_true]
    constructor
    · rintro ⟨hflow, hcode, hprice, hcontrols⟩
      exact ⟨hflow, fun hofficial => ⟨⟨hcode hofficial l rfl, hprice hofficial l rfl⟩, fun hkept =>
        hcontrols hofficial fun l' hl' => Option.some.inj hl' ▸ hkept⟩⟩
    · rintro ⟨hflow, h⟩
      exact ⟨hflow, fun hofficial _ _ => (h hofficial).1.1,
        fun hofficial l' hl' => Option.some.inj hl' ▸ (h hofficial).1.2,
        fun hofficial hkept => (h hofficial).2 (hkept l rfl)⟩
  | none =>
    rw [configured_none hclient]
    simp only [if_true]
    constructor
    · rintro ⟨hflow, -, -, hcontrols⟩
      exact ⟨hflow, fun hofficial => ⟨⟨true, rfl⟩, fun _ => hcontrols hofficial fun l hl => by cases hl⟩⟩
    · rintro ⟨hflow, h⟩
      exact ⟨hflow, fun _ l hl => (by cases hl), fun _ l hl => (by cases hl),
        fun hofficial _ => (h hofficial).2 trivial⟩

theorem selected_iff : paymentSelection env permits challenge network limit = .ok (some r) ↔
    ∃ client, configuredClient env network limit = .ok client ∧
      (∀ b ∈ challenge.accepts, b.scheme = "exact" → b.network = network →
        Readable env permits client.controls limit b) ∧
      challenge.accepts.find? (fun b => payTest env permits client b = .ok true) = some r := by
  rw [paymentSelection_eq_some]
  refine exists_congr fun client => and_congr_right fun hclient => and_congr_left fun _ => ?_
  exact forall₂_congr fun b _ => (readable_iff hclient).symm

/-- What the client pays matches, and is not declined. -/
theorem matches_of_payTest (hdefaults : DefaultsOnly env permits)
    (hclient : configuredClient env network limit = .ok client)
    (h : payTest env permits client r = .ok true) :
    Matches env network limit r ∧ ¬ Declined env permits network limit r := by
  obtain ⟨⟨hscheme, hnetwork⟩, hissuer, hlimits, hpermits⟩ := payTest_eq_true.mp h
  rw [network_of_configured hclient] at hnetwork
  -- The offer has passed the issuer policy, which reads its flow and its issuer.
  have hpolicy : isValidXrplNetwork network = true → AuthorizationFlow r ∧
      ∀ default, findDefaultAsset env r.asset network = some default → issuerOf r = .str default.issuer := by
    have hofficial := (keepsIssuer_eq_true hscheme).mp hissuer
    unfold Official at hofficial
    rwa [hnetwork] at hofficial
  have hforeign : ∀ default, findDefaultAsset env r.asset network = some default →
      issuerOf r = .str default.issuer := fun default hd => (hpolicy (isValidXrplNetwork_of_default hd)).2 default hd
  have hcontrols : ∀ client', configuredClient env network limit = .ok client' →
      permits client'.controls r ≠ .ok false := by
    intro client' hclient'
    rw [← Except.ok.inj (hclient.symm.trans hclient'), hpermits]
    simp
  cases limit with
  | some l =>
    obtain ⟨asset, -, hclient'⟩ := bind_eq_ok.mp hclient
    obtain rfl := Except.ok.inj hclient'
    obtain ⟨⟨hsameNetwork, hcode, hsame⟩, hprice⟩ := keepsRequirement_eq_true.mp (hlimits (by simp))
    have hnamed : ∀ i ∈ l.issuer, issuerOf r = .str i := by
      intro i hi
      rw [hsame, Option.mem_def.mp hi]
      rfl
    refine ⟨.limited hscheme hnetwork (fun hvalid => (hpolicy hvalid).1) hcode hnamed, ?_⟩
    intro hdeclined
    cases hdeclined with
    | price dear =>
      rw [hprice] at dear
      cases dear
    | unnamed differs => exact differs hsame
    | elsewhere differs => exact differs hsameNetwork
    | foreign default asset differs => exact differs (hforeign default asset)
    | controls client' configured refused => exact hcontrols client' configured refused
  | none =>
    -- Without a limit only the spend controls choose, and they permit default assets alone.
    have hcap : client.controls = .maxAmountPerPayment "1" := by rw [← Except.ok.inj hclient]
    rw [hcap] at hpermits
    obtain ⟨default, hsome⟩ := Option.isSome_iff_exists.mp (hdefaults "1" r hpermits)
    rw [hnetwork] at hsome
    have hvalid := isValidXrplNetwork_of_default hsome
    refine ⟨.unlimited default hsome hnetwork (hforeign default hsome), ?_⟩
    intro hdeclined
    cases hdeclined with
    | scheme differs => exact differs hscheme
    | flow other => exact other (hpolicy hvalid).1
    | foreign default asset differs => exact differs (hforeign default asset)
    | controls client' configured refused => exact hcontrols client' configured refused

/-- A match that is tested and not paid is declined for one of the reasons. -/
theorem declined_of_payTest (hclient : configuredClient env network limit = .ok client)
    (hmatches : Matches env network limit r) (h : payTest env permits client r = .ok false) :
    Declined env permits network limit r := by
  have hnetwork := network_of_configured hclient
  -- The tests are made in order, and the first that fails gives the reason.
  have hsplit : ∀ {first second : PaymentRequirements → Except Exc Bool},
      andThen first second r = .ok false → first r = .ok false ∨ second r = .ok false := by
    intro first second h
    obtain ⟨passes, hfirst, h⟩ := bind_eq_ok.mp h
    cases passes with
    | true => exact .inr h
    | false => exact .inl hfirst
  -- The issuer policy drops an offer for its flow or for its issuer.
  have hpolicy : keepsIssuer env r = .ok false → r.network = network →
      (isValidXrplNetwork network = true ∧ ¬ AuthorizationFlow r) ∨
        ∃ default, findDefaultAsset env r.asset network = some default ∧ issuerOf r ≠ .str default.issuer := by
    intro hkeeps hsame
    unfold keepsIssuer at hkeeps
    split at hkeeps
    · next hexact =>
      obtain ⟨flow, hflow, hkeeps⟩ := bind_eq_ok.mp hkeeps
      cases flow with
      | false => exact .inl ⟨hsame ▸ hexact.2, fun hauthorized =>
          absurd (hflow.symm.trans (isAuthorizationFlow_eq_true.mpr hauthorized)) (by simp)⟩
      | true =>
        rw [if_neg (by simp)] at hkeeps
        cases hd : findDefaultAsset env r.asset r.network with
        | none =>
          rw [hd] at hkeeps
          cases hkeeps
        | some default =>
          rw [hd] at hkeeps
          exact .inr ⟨default, hsame ▸ hd, of_decide_eq_false (Except.ok.inj hkeeps)⟩
    · cases hkeeps
  unfold payTest at h
  rcases hsplit h with hregistered | h
  · -- Only without a limit is the scheme not looked at.
    have hother : ¬ (r.scheme = "exact" ∧ r.network = client.network) :=
      of_decide_eq_false (Except.ok.inj hregistered)
    rw [hnetwork] at hother
    cases hmatches with
    | limited scheme network_ => exact absurd ⟨scheme, network_⟩ hother
    | unlimited default asset network_ => exact .scheme fun hscheme => hother ⟨hscheme, network_⟩
  rcases hsplit h with hkeeps | h
  · cases hmatches with
    | limited scheme network_ flow =>
      rcases hpolicy hkeeps network_ with ⟨hvalid, hflow⟩ | ⟨default, hd, hissuer⟩
      · exact absurd (flow hvalid) hflow
      · exact .foreign default hd hissuer
    | unlimited default asset network_ issuer =>
      rcases hpolicy hkeeps network_ with ⟨-, hflow⟩ | ⟨default', hd, hissuer⟩
      · exact .flow hflow
      · exact .foreign default' hd hissuer
  rcases hsplit h with hlimit | hcontrols
  · cases hmatches with
    | limited scheme network_ flow code issuer =>
      obtain ⟨asset, -, hclient'⟩ := bind_eq_ok.mp hclient
      obtain rfl := Except.ok.inj hclient'
      rw [if_neg (by simp)] at hlimit
      obtain ⟨code', hcode', hwithin⟩ := bind_eq_ok.mp hlimit
      obtain ⟨wanted, hcode, hwanted⟩ := code
      unfold withinSome at hwithin
      split at hwithin
      · next hdiffers => exact .elsewhere hdiffers
      · rw [hwanted, ok_bind] at hwithin
        split at hwithin
        · next hdiffers =>
          have heq : code' = wanted := Except.ok.inj (hcode'.symm.trans hcode)
          exact .unnamed (hdiffers.resolve_left (not_not.mpr heq))
        · obtain ⟨affordable, hle, hwithin⟩ := bind_eq_ok.mp hwithin
          cases affordable with
          | true => cases hwithin
          | false => exact .price hle
    | unlimited default asset network_ issuer =>
      have hnone : client.limits = [] := by rw [← Except.ok.inj hclient]
      rw [if_pos hnone] at hlimit
      cases hlimit
  · exact .controls client hclient hcontrols

/-- The client pays a match that it can read and that nothing declines. -/
theorem payTest_of_matches (hclient : configuredClient env network limit = .ok client)
    (hreads : r.scheme = "exact" → r.network = network → Readable env permits client.controls limit r)
    (hmatches : Matches env network limit r) (hkept : ¬ Declined env permits network limit r) :
    payTest env permits client r = .ok true := by
  obtain ⟨passes, htest⟩ := (readable_iff hclient).mp hreads
  cases passes with
  | true => exact htest
  | false => exact absurd (declined_of_payTest hclient hmatches htest) hkept

/-- The first match is the first that the dry run matches. -/
theorem find_offerTest (hvalid : isValidXrplNetwork network = true) :
    (challenge.accepts.find? fun b => offerTest env network limit b = .ok true) = some r ↔
      FirstMatch env challenge network limit r := by
  rw [List.find?_eq_some_iff_append]
  simp only [FirstMatch, decide_eq_true_eq, Bool.not_eq_true', decide_eq_false_iff_not, offerTest_iff,
    hvalid, true_and]
  constructor
  · rintro ⟨hmatches, pre, post, hsplit, hbefore⟩
    exact ⟨pre, post, hsplit, hmatches, hbefore⟩
  · rintro ⟨pre, post, hsplit, hmatches, hbefore⟩
    exact ⟨hmatches, pre, post, hsplit, hbefore⟩

theorem offered_iff : Offered env challenge network limit r ↔
    isValidXrplNetwork network = true ∧ Surveyed env challenge network limit ∧
      FirstMatch env challenge network limit r ∧ WithinCap env limit r := by
  constructor
  · rintro ⟨⟨hreads, hfind⟩, hcap⟩
    rw [← surveyed_iff] at hreads
    have htest : offerTest env network limit r = .ok true := by simpa using List.find?_some hfind
    have hvalid := (offerTest_iff.mp htest).1
    exact ⟨hvalid, hreads, (find_offerTest hvalid).mp hfind, hcap⟩
  · rintro ⟨hvalid, hsurveyed, hfirst, hcap⟩
    exact ⟨⟨surveyed_iff.mp hsurveyed, (find_offerTest hvalid).mpr hfirst⟩, hcap⟩

/-- The first match is the first that the client pays, if it pays it at all. -/
theorem first_of_firstMatch (hdefaults : DefaultsOnly env permits)
    (hclient : configuredClient env network limit = .ok client)
    (hfirst : FirstMatch env challenge network limit r)
    (htest : payTest env permits client r = .ok true) :
    challenge.accepts.find? (fun b => payTest env permits client b = .ok true) = some r := by
  obtain ⟨pre, post, hsplit, -, hbefore⟩ := hfirst
  refine List.find?_eq_some_iff_append.mpr ⟨decide_eq_true htest, pre, post, hsplit, fun b hb => ?_⟩
  -- What is paid matches, so that it does not stand in front.
  by_contra hpay
  have hpays : payTest env permits client b = .ok true := by simpa using hpay
  exact hbefore b hb (matches_of_payTest hdefaults hclient hpays).1

theorem FirstMatch.mem (h : FirstMatch env challenge network limit r) : r ∈ challenge.accepts := by
  obtain ⟨pre, post, hsplit, -⟩ := h
  rw [hsplit]
  exact List.mem_append_right _ List.mem_cons_self

theorem FirstMatch.matches (h : FirstMatch env challenge network limit r) : Matches env network limit r := by
  obtain ⟨pre, post, -, hmatches, -⟩ := h
  exact hmatches

theorem exists_firstMatch {b : PaymentRequirements} (hb : b ∈ challenge.accepts)
    (hmatches : Matches env network limit b) : ∃ m, FirstMatch env challenge network limit m := by
  classical
  cases hfind : challenge.accepts.find? fun b => decide (Matches env network limit b) with
  | none => exact absurd (decide_eq_true hmatches) (List.find?_eq_none.mp hfind b hb)
  | some m =>
    obtain ⟨hm, pre, post, hsplit, hbefore⟩ := List.find?_eq_some_iff_append.mp hfind
    exact ⟨m, pre, post, hsplit, of_decide_eq_true hm, fun b hb => by simpa using hbefore b hb⟩

end Choices

theorem preview_predicts_iff (env : Env)
    (permits : SpendControls → PaymentRequirements → Except Exc Bool)
    (hdefaults : DefaultsOnly env permits) (challenge : PaymentRequired) (network : String)
    (limit : Option XRPLAssetSpendLimit) :
    Predicts env permits challenge network limit ↔ Foreseeable env permits challenge network limit := by
  unfold Predicts
  simp only [previewSelection_eq_ok, selected_iff]
  constructor
  · intro h
    constructor
    -- The dry run offers the first match, so the client selects it.
    · intro m hvalid hsurveyed hfirst hcap
      obtain ⟨client, hclient, hreads, hfind⟩ := (h m).mp (offered_iff.mpr ⟨hvalid, hsurveyed, hfirst, hcap⟩)
      have htest : payTest env permits client m = .ok true := by simpa using List.find?_some hfind
      exact ⟨⟨client, hclient, hreads⟩, (matches_of_payTest hdefaults hclient htest).2⟩
    · rintro ⟨client, hclient, hreads⟩ hblind b hb hmatches
      -- Otherwise the client selects an offer while the dry run sees none.
      by_contra hkept
      have htest := payTest_of_matches hclient (hreads b hb) hmatches hkept
      obtain ⟨p, hfind⟩ : ∃ p, challenge.accepts.find?
          (fun b => payTest env permits client b = .ok true) = some p := by
        rw [← Option.isSome_iff_exists, List.find?_isSome]
        exact ⟨b, hb, decide_eq_true htest⟩
      obtain ⟨hvalid, hsurveyed, hfirst, hcap⟩ := offered_iff.mp ((h p).mpr ⟨client, hclient, hreads, hfind⟩)
      rcases hblind with hinvalid | hunread | ⟨m, hfirst', hdear⟩
      · rw [hvalid] at hinvalid
        cases hinvalid
      · exact hunread hsurveyed
      · rw [← find_offerTest hvalid] at hfirst hfirst'
        rw [Option.some.inj (hfirst'.symm.trans hfirst)] at hdear
        exact hdear hcap
  · rintro ⟨hcheap, hdear⟩ r
    constructor
    -- The first match is not declined, so it is the first that the client keeps.
    · intro hoffered
      obtain ⟨hvalid, hsurveyed, hfirst, hcap⟩ := offered_iff.mp hoffered
      obtain ⟨⟨client, hclient, hreads⟩, hkept⟩ := hcheap r hvalid hsurveyed hfirst hcap
      have htest := payTest_of_matches hclient (hreads r hfirst.mem) hfirst.matches hkept
      exact ⟨client, hclient, hreads, first_of_firstMatch hdefaults hclient hfirst htest⟩
    · rintro ⟨client, hclient, hreads, hfind⟩
      have htest : payTest env permits client r = .ok true := by simpa using List.find?_some hfind
      obtain ⟨hmatches, hkept⟩ := matches_of_payTest hdefaults hclient htest
      have hr := List.mem_of_find?_eq_some hfind
      -- What the client keeps is not declined, so the dry run was not blind.
      have hclear : ¬ (isValidXrplNetwork network = false ∨ ¬ Surveyed env challenge network limit ∨
          ∃ m, FirstMatch env challenge network limit m ∧ ¬ WithinCap env limit m) :=
        fun hblind => hkept (hdear ⟨client, hclient, hreads⟩ hblind r hr hmatches)
      push Not at hclear
      obtain ⟨hvalid, hsurveyed, hcaps⟩ := hclear
      have hvalid : isValidXrplNetwork network = true := by simpa using hvalid
      obtain ⟨m, hfirst⟩ := exists_firstMatch hr hmatches
      obtain ⟨-, hmkept⟩ := hcheap m hvalid hsurveyed hfirst (hcaps m hfirst)
      have hmtest := payTest_of_matches hclient (hreads m hfirst.mem) hfirst.matches hmkept
      have hfind' := first_of_firstMatch hdefaults hclient hfirst hmtest
      obtain rfl : m = r := Option.some.inj (hfind'.symm.trans hfind)
      exact offered_iff.mpr ⟨hvalid, hsurveyed, hfirst, hcaps m hfirst⟩

/-- The choice of the client is one that payments rely on, when its spend controls
    recognize the default assets and respect the cap. -/
theorem selected_of_selectRequirements {permits : SpendControls → PaymentRequirements → Except Exc Bool}
    (hdefaults : DefaultsOnly env permits)
    (hcap : ∀ cap r, permits (.maxAmountPerPayment cap) r = .ok true → decimalLe env r.amount cap = .ok true)
    {client : PaymentClient} {challenge : PaymentRequired} {r : PaymentRequirements}
    (h : selectRequirements env permits client challenge = .ok (some r)) :
    Selected env client challenge r := by
  -- The policies only drop offers, so the selected one is in every list before.
  have hfirst := selectRequirements_eq_some.mp h
  obtain ⟨official, hofficial, h⟩ := bind_eq_ok.mp h
  obtain ⟨limited, hlimited, h⟩ := bind_eq_ok.mp h
  obtain ⟨permitted, hpermitted, h⟩ := bind_eq_ok.mp h
  have hmem : r ∈ permitted := List.mem_of_head? (Except.ok.inj h)
  have hoffer := of_mem_keepWhere hpermitted hmem
  have hkept : ∀ {test : PaymentRequirements → Except Exc Bool} {as kept : List PaymentRequirements},
      keepWhere test as = .ok kept → r ∈ kept → r ∈ as := by
    intro test as kept hkeep hr
    rw [(keepWhere_eq_ok.mp hkeep).2] at hr
    exact (List.mem_filter.mp hr).1
  have hin : r ∈ limited := hkept hpermitted hmem
  have hlimits : client.limits ≠ [] → spendLimitPolicy env client.limits official = .ok limited := by
    intro hsome
    exact (applyLimits_of_ne hsome official).symm.trans hlimited
  have hof : r ∈ official := by
    by_cases hnone : client.limits = []
    · rw [hnone, applyLimits_nil] at hlimited
      rwa [Except.ok.inj hlimited]
    · have hkeep : keepWhere (keepsRequirement env client.limits) official = .ok limited := hlimits hnone
      exact hkept hkeep hin
  have htest : payTest env permits client r = .ok true := by simpa using List.find?_some hfirst.2
  refine ⟨List.mem_of_find?_eq_some hfirst.2, (payTest_eq_true.mp htest).1, ⟨_, official, hofficial, hof⟩,
    fun hsome => ⟨official, limited, hlimits hsome, hin⟩, ?_⟩
  intro cap hcontrols
  rw [hcontrols] at hoffer
  exact ⟨hdefaults cap r hoffer, hcap cap r hoffer⟩

/-! ### Two offers of one asset -/

namespace Sample

open XrplX402.Sample

/-- Spend controls that know the default assets and compare amounts with caps. -/
def permits : SpendControls → PaymentRequirements → Except Exc Bool
  | .maxAmountPerPayment cap, r =>
    if (findDefaultAsset shapeEnv r.asset r.network).isSome then decimalLe shapeEnv r.amount cap
    else .ok false
  | .allowedAssets assets, r =>
    match assets.find? fun entry => entry.network = r.network ∧ entry.asset = r.asset with
    | none => .ok false
    | some entry =>
      match entry.maxAmountPerPayment with
      | none => .ok true
      | some cap => decimalLe shapeEnv r.amount cap

theorem permits_defaultsOnly : DefaultsOnly shapeEnv permits := by
  intro cap r h
  by_contra hnone
  have hrefused : permits (.maxAmountPerPayment cap) r = .ok false := if_neg hnone
  rw [hrefused] at h
  cases h

/-- A number of drops. -/
def drops (amount : String) : PaymentRequirements :=
  ⟨"exact", "xrpl:1", "XRP", amount, "rMerchant", 60, some [("areFeesSponsored", .bool false)]⟩

def offering (accepts : List PaymentRequirements) : PaymentRequired := ⟨2, none, accepts, none⟩

def upToFiveDrops : XRPLAssetSpendLimit := ⟨"xrpl:1", "XRP", "5", none⟩

/-- A limit for the default asset, from an issuer that is not its own. -/
def upToTwentyForeign : XRPLAssetSpendLimit := ⟨"xrpl:1", "RLUSD", "20", some "rIssuer"⟩

end Sample

open XrplX402.Sample in
/-- The dry run stops at the first offer, which is too dear; the payment takes the
    second. And the dry run offers a foreign issuer that the payment refuses. -/
theorem preview_misleads :
    explicitLimit shapeEnv "xrpl:1" (some "XRP") none (some "5") = .ok (some Sample.upToFiveDrops) ∧
      explicitLimit shapeEnv "xrpl:1" (some rlusdHex) (some "rIssuer") (some "20") =
        .ok (some Sample.upToTwentyForeign) ∧
      ¬ Predicts shapeEnv Sample.permits (Sample.offering [Sample.drops "10", Sample.drops "1"]) "xrpl:1"
        (some Sample.upToFiveDrops) ∧
      ¬ Predicts shapeEnv Sample.permits (Sample.offering [tenOf rlusdHex]) "xrpl:1"
        (some Sample.upToTwentyForeign) := by
  refine ⟨by decide +kernel, by decide +kernel, fun h => ?_, fun h => ?_⟩
  · have hpaid : paymentSelection shapeEnv Sample.permits
        (Sample.offering [Sample.drops "10", Sample.drops "1"]) "xrpl:1" (some Sample.upToFiveDrops) =
          .ok (some (Sample.drops "1")) := by decide +kernel
    exact absurd ((h (Sample.drops "1")).mpr hpaid) (by decide +kernel)
  · have hshown : previewSelection shapeEnv (Sample.offering [tenOf rlusdHex]) "xrpl:1"
        (some Sample.upToTwentyForeign) = .ok (tenOf rlusdHex, true) := by decide +kernel
    exact absurd ((h (tenOf rlusdHex)).mp hshown) (by decide +kernel)

open XrplX402.Sample in
theorem preview_predicts_iff_sample :
    Predicts shapeEnv Sample.permits (Sample.offering [Sample.drops "4", Sample.drops "1"]) "xrpl:1"
      (some Sample.upToFiveDrops) := by
  have hclient : configuredClient shapeEnv "xrpl:1" (some Sample.upToFiveDrops) =
      .ok ⟨"xrpl:1", .allowedAssets [⟨"xrpl:1", "XRP", some "5"⟩], [Sample.upToFiveDrops]⟩ := by
    decide +kernel
  have hvalid : isValidXrplNetwork "xrpl:1" = true := by decide +kernel
  have hsurveyed : Surveyed shapeEnv (Sample.offering [Sample.drops "4", Sample.drops "1"]) "xrpl:1"
      (some Sample.upToFiveDrops) := by
    rw [surveyed_iff]
    intro b hb
    rcases List.mem_pair.mp hb with rfl | rfl <;> exact ⟨true, by decide +kernel⟩
  -- The first offer matches, so no later one is the first match.
  have honly : ∀ m, FirstMatch shapeEnv (Sample.offering [Sample.drops "4", Sample.drops "1"]) "xrpl:1"
      (some Sample.upToFiveDrops) m → Sample.drops "4" = m := by
    intro m hfirst
    have hfind : ((Sample.offering [Sample.drops "4", Sample.drops "1"]).accepts.find? fun b =>
        offerTest shapeEnv "xrpl:1" (some Sample.upToFiveDrops) b = .ok true) = some (Sample.drops "4") := by
      decide +kernel
    exact Option.some.inj (hfind.symm.trans ((find_offerTest hvalid).mpr hfirst))
  refine (preview_predicts_iff shapeEnv Sample.permits Sample.permits_defaultsOnly
    (Sample.offering [Sample.drops "4", Sample.drops "1"]) "xrpl:1" (some Sample.upToFiveDrops)).mpr ⟨?_, ?_⟩
  · intro m _ _ hfirst _
    rw [← honly m hfirst]
    refine ⟨⟨_, hclient, fun b hb => (readable_iff hclient).mpr ?_⟩, ?_⟩
    · rcases List.mem_pair.mp hb with rfl | rfl <;> exact ⟨true, by decide +kernel⟩
    · exact (matches_of_payTest Sample.permits_defaultsOnly hclient (by decide +kernel)).2
  · intro _ hblind
    rcases hblind with hinvalid | hunread | ⟨m, hfirst, hdear⟩
    · rw [hvalid] at hinvalid
      cases hinvalid
    · exact absurd hsurveyed hunread
    · have hcap : WithinCap shapeEnv (some Sample.upToFiveDrops) (Sample.drops "4") := by
        unfold WithinCap
        decide +kernel
      rw [← honly m hfirst] at hdear
      exact absurd hcap hdear

end XrplX402.Payer
