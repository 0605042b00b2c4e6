import Gatecoin.Contracts.OldProof
import Gatecoin.Client.WithdrawExchange
import Gatecoin.Client.TransferExchange
import Gatecoin.Client.CoopSettle
import Gatecoin.Client.WithdrawTimes
import Gatecoin.Client.Rejection
import Gatecoin.Chain.SettleEvent
import Gatecoin.Chain.UpdateTransfer
import Gatecoin.Chain.OnchainUnlock
import Gatecoin.Chain.Delivery
import Gatecoin.Chain.Packing
import Gatecoin.Storage.Wal
import Gatecoin.Storage.Snapshot
import Gatecoin.Client.Outcomes
import Gatecoin.Client.PendingTransactions
import Gatecoin.Micro.SenderExit
import Gatecoin.Micro.ClosedChannels
import Gatecoin.Micro.Paywall
import Gatecoin.Micro.Sync
import Gatecoin.Micro.ChannelStore
import Gatecoin.Micro.Session
import Gatecoin.Services.ServiceRegistry
import Gatecoin.Client.TargetReports
import Gatecoin.Network.MessageBatches
import Gatecoin.Services.MonitoringService
