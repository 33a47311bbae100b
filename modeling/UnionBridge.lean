import UnionBridge.CheckFork.Journal
import UnionBridge.Coordinator.ViewObservers
import UnionBridge.Coordinator.LogTracking
import UnionBridge.BlockIndexer.CachedStore
import UnionBridge.LogIndexer.Recovery
import UnionBridge.LogIndexer.Notifications
import UnionBridge.LogIndexer.Checkpoint
import UnionBridge.LogIndexer.Notifier
import UnionBridge.BlockIndexer.Delivery
import UnionBridge.Pipeline.ViewSync
import UnionBridge.Coordinator.SchedulerRuns
import UnionBridge.Coordinator.SignatureOrder
import UnionBridge.Pegin.Persistence
import UnionBridge.Pegin.Completion
import UnionBridge.Pegin.Ownership
import UnionBridge.Pegout.Payouts
import UnionBridge.Pegout.Evidence
import UnionBridge.Pegout.Timeouts
import UnionBridge.Pegout.Registration
import UnionBridge.AdvanceFunds.Flags
import UnionBridge.AdvanceFunds.EventOrder
import UnionBridge.CommitteeSetup.Addresses
import UnionBridge.CommitteeSetup.Agreement
import UnionBridge.CommitteeSetup.Membership
import UnionBridge.CommitteeSetup.Funding
import UnionBridge.BitcoinWallet.Replacement
import UnionBridge.TransactionDispatcher.GasBump
import UnionBridge.Node.Submissions
import UnionBridge.Node.ProtocolIds
