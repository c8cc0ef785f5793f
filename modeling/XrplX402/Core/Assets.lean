import XrplX402.Core.Models

/-! # Assets

    Currency codes in their wire form (`XRP`, three upper-case characters or 40
    upper-case hexadecimal digits), and the assets a facilitator supports. -/

namespace XrplX402

open Py

def xrpCode : String := "XRP"

def rlusdCode : String := "RLUSD"

def rlusdHex : String := "524C555344000000000000000000000000000000"

def rlusdMainnetIssuer : String := "rMxCKbEDwqr76QuheSUMdEGf4B9xJ8m5De"

def rlusdTestnetIssuer : String := "rQhWct2fv4Vc4KRjRgMrxa8xPN9Zx9iLKV"

def legacyRlusdTestnetIssuer : String := "rnEVYfAWYP5HpPaWQiPSJMyDeUiEJ6zhy2"

def tfPartialPayment : Int := 0x00020000

def networkRlusdIssuers : List (String × String) :=
  [("xrpl:0", rlusdMainnetIssuer), ("xrpl:1", rlusdTestnetIssuer)]

structure DefaultAsset where
  asset : String
  decimals : Nat
  symbol : String
  issuer : String
  deriving DecidableEq

def defaultAssets : List (String × List DefaultAsset) :=
  [("xrpl:0", [⟨rlusdHex, 15, rlusdCode, rlusdMainnetIssuer⟩]),
    ("xrpl:1", [⟨rlusdHex, 15, rlusdCode, rlusdTestnetIssuer⟩])]

def findDefaultAsset (env : Env) (asset network : String) : Option DefaultAsset :=
  ((defaultAssets.lookup network).getD []).find? fun entry =>
    env.unicode.upperStr entry.asset = env.unicode.upperStr asset

structure AssetKey where
  code : String
  issuer : Option String
  deriving DecidableEq

def normalizeCurrencyCode (env : Env) (currency : String) : Except Exc String := do
  let normalized := env.unicode.upperStr (strip currency)
  if normalized = "" then throw (valueError "Asset code is required")
  if normalized.length = 40 ∧ normalized.toList.all isHexDigit then
    let decoded := rstripZero (← fromHex normalized)
    if decoded ≠ [] ∧ decoded.all (fun byte => 32 ≤ byte && byte ≤ 126) then
      return env.unicode.upperStr (← decodeAscii decoded)
  return normalized

/-- `s.ljust(width, "0")`. -/
def ljustZero (width : Nat) (s : String) : String :=
  String.ofList (s.toList ++ List.replicate (width - s.length) '0')

def xrplCurrencyCode (env : Env) (code : String) : Except Exc String := do
  let rawCode := strip code
  if rawCode = "" then throw (valueError "Asset code is required")
  if rawCode.length = 40 ∧ rawCode.toList.all isHexDigit then
    return env.unicode.upperStr rawCode
  let normalized ← normalizeCurrencyCode env rawCode
  if normalized.length = 3 then return normalized
  if 20 < normalized.length then
    throw (valueError "Issued currency codes must be 20 ASCII bytes or fewer")
  return ljustZero 40 (env.unicode.upperStr (hexdigest (← encodeAscii normalized)))

/-- One entry of `ALLOWED_ISSUED_ASSETS`; blank entries are skipped. -/
def parseAllowedEntry (env : Env) (rawEntry : String) : Except Exc (Option AssetKey) := do
  let entry := strip rawEntry
  if entry = "" then return none
  let (code, separator, issuer) := partition ':' entry
  let normalizedCode ← normalizeCurrencyCode env code
  let normalizedIssuer := strip issuer
  if separator = false ∨ normalizedIssuer = "" then
    throw (valueError "ALLOWED_ISSUED_ASSETS entries must use CODE:ISSUER format")
  if normalizedCode = xrpCode then
    throw (valueError "ALLOWED_ISSUED_ASSETS cannot include XRP")
  if normalizedCode = rlusdCode ∧ normalizedIssuer = legacyRlusdTestnetIssuer then
    throw (valueError
      "The former XRPL Testnet RLUSD issuer is not canonical; update the issuer explicitly")
  return some ⟨normalizedCode, some normalizedIssuer⟩

def addAsset (assets : List AssetKey) (asset : AssetKey) : List AssetKey :=
  if asset ∈ assets then assets else assets ++ [asset]

def parseAllowedIssuedAssets (env : Env) (rawAssets : String) : Except Exc (List AssetKey) := do
  let entries ← (splitChars ',' rawAssets.toList).mapM fun cs =>
    parseAllowedEntry env (String.ofList cs)
  return entries.reduceOption.foldl addAsset []

def supportedAssetKeys (env : Env) (networkId rawAssets : String) : Except Exc (List AssetKey) := do
  let native : List AssetKey := [⟨xrpCode, none⟩]
  let defaults := match networkRlusdIssuers.lookup networkId with
    | some issuer => addAsset native ⟨rlusdCode, some issuer⟩
    | none => native
  let allowed ← parseAllowedIssuedAssets env rawAssets
  return allowed.foldl addAsset defaults

end XrplX402
