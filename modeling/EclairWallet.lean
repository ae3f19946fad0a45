import EclairWallet.Library.Runs
import EclairWallet.Library.KeyedTable
import EclairWallet.Library.JavaText
import EclairWallet.Payment.Entity
import EclairWallet.Payment.LightningPaymentError
import EclairWallet.Payment.Supervisor
import EclairWallet.Payment.SendScreen
import EclairWallet.Payment.Lightning
import EclairWallet.Payment.OneAttempt
import EclairWallet.Payment.PaidStaysPaid
import EclairWallet.Payment.FailureRecorded
import EclairWallet.Channel.Entity
import EclairWallet.Channel.Supervisor
import EclairWallet.Channel.Writes
import EclairWallet.Channel.History
import EclairWallet.Channel.Agreement
import EclairWallet.Screens.ConfirmPayment
import EclairWallet.Screens.OneCallPerTap
import EclairWallet.Crypto.EncryptedData
import EclairWallet.Crypto.Container
import EclairWallet.Crypto.ChannelsBackup
import EclairWallet.Crypto.BackupRoundTrip
import EclairWallet.Startup.Activity
import EclairWallet.Startup.Consistency
import EclairWallet.Uri.BitcoinURI
import EclairWallet.Uri.PayeeSoundness
import EclairWallet.Library.Crash
import EclairWallet.Seed.Files
import EclairWallet.Seed.NeverLost
import EclairWallet.Actors.RefreshScheduler
import EclairWallet.Channel.Balance
import EclairWallet.Crypto.Accepted
import EclairWallet.Payment.HtlcsTracked
import EclairWallet.Channel.Identifiable
import EclairWallet.Screens.PinEntry
import EclairWallet.Library.JavaLong
import EclairWallet.Payment.ElectrumSupervisor
import EclairWallet.Payment.OnchainBalance
import EclairWallet.Library.SqlTable
import EclairWallet.Storage.Daos
import EclairWallet.Storage.Migration
import EclairWallet.Backup.Access
import EclairWallet.Backup.ChoiceRespected
import EclairWallet.Payment.InvoiceId
import EclairWallet.Payment.InvoiceIdDecoded
import EclairWallet.Payment.IncomingHtlcs
import EclairWallet.Library.Parcel
import EclairWallet.Payment.ErrorParcel
import EclairWallet.Payment.PrefixStripped
import EclairWallet.Payment.FailureFrame
import EclairWallet.Payment.TimestampKept
import EclairWallet.Crypto.WholeBackup
import EclairWallet.Channel.BalanceCheck
import EclairWallet.Payment.RealFees
import EclairWallet.Backup.Restore
import EclairWallet.Backup.FailureVisible
import EclairWallet.Library.JavaNumber
import EclairWallet.Library.AndroidJson
import EclairWallet.Library.JavaUri
import EclairWallet.Payment.FailureRoute
import EclairWallet.Payment.FeeLabel
import EclairWallet.Uri.ParameterMap
import EclairWallet.Uri.OrderIndependence
import EclairWallet.Schedule.NewRegularPayment
import EclairWallet.Schedule.RowsApart
import EclairWallet.Schedule.SummaryPurchase
import EclairWallet.Schedule.SummarySafe
import EclairWallet.Schedule.Confirmation
import EclairWallet.Schedule.NextPayment
import EclairWallet.Schedule.ManageRegularPayment
import EclairWallet.Schedule.CancelledAsShown
import EclairWallet.Schedule.NotificationAdapter
import EclairWallet.Seed.CreateSeed
import EclairWallet.Seed.CheckedBackup
import EclairWallet.Library.RecentFirst
import EclairWallet.Payment.Lifecycle
import EclairWallet.Backup.Pipeline
import EclairWallet.Backup.Freshness
import EclairWallet.Backup.OneFile
import EclairWallet.Backup.RestoreOutcome
import EclairWallet.Startup.FirstStart
import EclairWallet.Startup.FirstDatabase
import EclairWallet.Library.Settling
import EclairWallet.Screens.HomeActivity
import EclairWallet.Screens.BalanceSources
import EclairWallet.Screens.RefreshDue
import EclairWallet.Screens.HomeSettles
import EclairWallet.Screens.OpenChannel
import EclairWallet.Screens.ChannelRequested
import EclairWallet.Screens.PinLock
import EclairWallet.Seed.Opened
import EclairWallet.Startup.PinHeld
import EclairWallet.Screens.WithoutPin
import EclairWallet.Screens.PinOpensSeed
import EclairWallet.Screens.ChannelsList
import EclairWallet.Channel.Closed
import EclairWallet.Screens.ListedChannels
import EclairWallet.Screens.CloseChannel
import EclairWallet.Seed.RestoreSeed
import EclairWallet.Seed.Imported
