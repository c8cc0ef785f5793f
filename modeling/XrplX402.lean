import XrplX402.Devtools.JournaledFunding
import XrplX402.Facilitator.Balances
import XrplX402.Facilitator.CatalogRaces
import XrplX402.Facilitator.CatalogSearch
import XrplX402.Facilitator.GatewayAuth
import XrplX402.Facilitator.Identifiers
import XrplX402.Facilitator.ReplayKey
import XrplX402.Facilitator.SettlementStores
import XrplX402.HonestSettlement
import XrplX402.Middleware.Prices
import XrplX402.Payer.Accounted
import XrplX402.Payer.Authorization
import XrplX402.Payer.Outcomes
import XrplX402.Payer.Preview
import XrplX402.Payer.ReceiptFile
import XrplX402.PendingRetries
