import SubscriptionVault.Accounts.Gate
import SubscriptionVault.Accounts.Normalization
import SubscriptionVault.Accounts.PayoutRuns
import SubscriptionVault.Accounts.PrepaidPages
import SubscriptionVault.Accounts.Recoveries
import SubscriptionVault.Accounts.SubAccounts
import SubscriptionVault.Charging.Aborts
import SubscriptionVault.Charging.Forecast
import SubscriptionVault.Charging.KeyWindow
import SubscriptionVault.Charging.MedianPrice
import SubscriptionVault.Charging.PauseRuns
import SubscriptionVault.Charging.Proration
import SubscriptionVault.Charging.Replay
import SubscriptionVault.Charging.Routes
import SubscriptionVault.Charging.UsageHonesty
import SubscriptionVault.Charging.UsageQuotas
import SubscriptionVault.Charging.Vacation
import SubscriptionVault.Disputes.Chargeback
import SubscriptionVault.Disputes.RemovalGuard
import SubscriptionVault.Governance.Carriage
import SubscriptionVault.Governance.TokenRemoval
import SubscriptionVault.Lifecycle.BlocklistRemoval
import SubscriptionVault.Lifecycle.BulkCalls
import SubscriptionVault.Lifecycle.ChargeAuthority
import SubscriptionVault.Lifecycle.CouponGrants
import SubscriptionVault.Lifecycle.CreationRate
import SubscriptionVault.Lifecycle.DepositPaths
import SubscriptionVault.Lifecycle.EmergencyStop
import SubscriptionVault.Lifecycle.EmergencyWithdrawals
import SubscriptionVault.Lifecycle.Expiry
import SubscriptionVault.Lifecycle.GraceBuyouts
import SubscriptionVault.Lifecycle.GraceEpisodes
import SubscriptionVault.Lifecycle.Grants
import SubscriptionVault.Lifecycle.IndexListings
import SubscriptionVault.Lifecycle.LimitOwners
import SubscriptionVault.Lifecycle.MerchantTerms
import SubscriptionVault.Lifecycle.MetadataStore
import SubscriptionVault.Lifecycle.MetadataTexts
import SubscriptionVault.Lifecycle.NonceSequences
import SubscriptionVault.Lifecycle.OneOffCharges
import SubscriptionVault.Lifecycle.PaidIn
import SubscriptionVault.Lifecycle.Renewal
import SubscriptionVault.Lifecycle.ScheduledCancellation
import SubscriptionVault.Lifecycle.SnapshotLog
import SubscriptionVault.Lifecycle.StatementPages
import SubscriptionVault.Lifecycle.SubscriberListing
import SubscriptionVault.Migration.DryRun
import SubscriptionVault.Migration.Snapshot
import SubscriptionVault.Migration.Verification
