import Liratek.Offline.MergeOrder
import Liratek.Offline.ReviewInStep
import Liratek.Offline.GapFree
import Liratek.Money.AccountReport
import Liratek.Money.DebtRouting
import Liratek.Money.DebtPlan
import Liratek.Exchange.LotLedger
import Liratek.Stock.BatchLedger
import Liratek.Carrier.LineLedger
import Liratek.Carrier.LineUndo
import Liratek.Basket.MemberCoverage
import Liratek.Basket.Checkout
import Liratek.Offline.OfflineIds
import Liratek.Supplier.SharesOnce
import Liratek.Drawer.CountedOnce
import Liratek.Tenant.SubscriptionRuns
import Liratek.Loto.CheckpointTotals
import Liratek.Carrier.ResaleChanges
import Liratek.Lib.Groups
import Liratek.Tenant.Split
import Liratek.Tenant.SplitSeparation
import Liratek.Voucher.Vouchers
import Liratek.Voucher.VoucherValue
import Liratek.Voucher.VoucherRuns
import Liratek.Money.OmtSmsSettlement
import Liratek.Money.SmsCloses
import Liratek.Basket.BasketClosed
import Liratek.Tenant.TrialDays
import Liratek.Money.CommissionSplit
import Liratek.Settle.SettleCalendar
import Liratek.Till.Matching
import Liratek.Refund.CustomerCash
import Liratek.Settle.BoxSplit
import Liratek.Basket.TransferCash
import Liratek.Lib.Drift
import Liratek.Till.KeptFunding
import Liratek.Hold.PickupRuns
import Liratek.Email.OutboxRuns
import Liratek.Signin.CodeLimits
import Liratek.Tenant.PoolRuns
import Liratek.Warranty.ClaimRuns
import Liratek.Basket.ExtraReturned
import Liratek.Refund.ReturnedMoney
import Liratek.Refund.ReturnLines
import Liratek.Money.Apportionment
import Liratek.Carrier.GiveBack
import Liratek.Carrier.SmsCredit
import Liratek.Exchange.Converter
import Liratek.Offline.SchemaShape
import Liratek.Offline.IdPositions
import Liratek.Till.CustomerLegs
import Liratek.Basket.GiftCards
