import UnionBridge.Contracts.Events
import UnionBridge.Lib.Machine
import UnionBridge.Lib.Table

/-!
# The log indexer (`log-indexer/src/indexer.rs`, `log-indexer/src/store.rs`)

The indexer stores the logs of the managed contracts, each under its address, transaction and index,
and a checkpoint: the log that it stored last. When it starts it fetches the logs from some blocks
below its checkpoint up to the best block, in batches, and then follows a subscription.

It is modelled as a machine together with its provider. The provider has a chain, from which it answers
and which may be reorganised at any time, and the queue of the open subscription. A state of the indexer
is the point of the program at which it is about to read, write or wait (`Phase`), so that the process
can be killed, or run into an error, between any two operations.

`sent` is everything that was sent to the notifier channel, and `persisted` everything that was ever
stored, in all processes; `top` is the highest best block that the provider has had.
-/

namespace UnionBridge.LogIndexer

open Chain Contracts

/-! ## Logs -/

structure LogInfo where
  address : Address
  blockHash : BlockHash
  blockNumber : Nat
  txHash : U256
  logIndex : Nat
  removed : Bool
deriving DecidableEq

structure LogEvent where
  data : Bytes
  topics : List U256
deriving DecidableEq

structure RskLog where
  info : LogInfo
  event : LogEvent
deriving DecidableEq

/-- `StoreKey::LogId`. -/
structure LogId where
  address : Address
  txHash : U256
  logIndex : Nat
deriving DecidableEq

namespace RskLog

def id (log : RskLog) : LogId := ⟨log.info.address, log.info.txHash, log.info.logIndex⟩

def block (log : RskLog) : Nat := log.info.blockNumber

/-- The log as a subscription reports it after its block was reorganised. -/
def remove (log : RskLog) : RskLog := { log with info := { log.info with removed := true } }

@[simp] theorem block_remove (log : RskLog) : log.remove.block = log.block := rfl

end RskLog

/-! ## The store -/

/-- The logs are stored under their ids. -/
structure LogStore where
  logs : Table LogId RskLog
  syncCheckpoint : Option RskLog
  keyed : ∀ id log, logs.lookup id = some log → log.id = id

namespace LogStore

def empty : LogStore := ⟨∅, none, fun _ _ h => nomatch h⟩

def saveLog (store : LogStore) (log : RskLog) : LogStore where
  logs := store.logs.insert log.id log
  syncCheckpoint := store.syncCheckpoint
  keyed id other h := by
    rcases Table.lookup_insert_eq_some.mp h with ⟨rfl, rfl⟩ | ⟨-, hother⟩
    · rfl
    · exact store.keyed id other hother

def setSyncCheckpoint (store : LogStore) (log : RskLog) : LogStore :=
  { store with syncCheckpoint := some log }

def Has (store : LogStore) (log : RskLog) : Prop := store.logs.lookup log.id = some log

instance (store : LogStore) : DecidablePred store.Has := fun log =>
  inferInstanceAs (Decidable (store.logs.lookup log.id = some log))

section Has

variable {store : LogStore} {log other : RskLog}

theorem not_has_empty : ¬ empty.Has log := nofun

@[simp] theorem has_setSyncCheckpoint : (store.setSyncCheckpoint log).Has other ↔ store.Has other :=
  Iff.rfl

theorem has_saveLog : (store.saveLog log).Has other ↔ other = log ∨ other.id ≠ log.id ∧ store.Has other := by
  unfold Has saveLog
  by_cases heq : other.id = log.id
  · rw [heq, AList.lookup_insert, Option.some_inj]
    simp [eq_comm]
  · rw [AList.lookup_insert_ne heq]
    constructor
    · exact fun h => .inr ⟨heq, h⟩
    · rintro (rfl | ⟨-, h⟩)
      · exact absurd rfl heq
      · exact h

theorem Has.eq_of_id (h : store.Has log) (h' : store.Has other) (hid : log.id = other.id) :
    log = other := by
  unfold Has at h h'
  rw [hid, h'] at h
  exact (Option.some.inj h).symm

end Has

end LogStore

/-! ## The provider -/

/-- The chain of the provider: its logs by rising block, each with an id of its own. -/
structure ProviderChain where
  best : Nat
  logs : List RskLog
  nodup : (logs.map RskLog.id).Nodup
  sorted : logs.Pairwise fun a b => a.block ≤ b.block
  le_best : ∀ log ∈ logs, log.block ≤ best
  valid : ∀ log ∈ logs, log.info.removed = false

namespace ProviderChain

variable (chain : ProviderChain)

/-- The logs of some contracts in a range of blocks. -/
def getLogs (first last : Nat) (addresses : List Address) : List RskLog :=
  chain.logs.filter fun log => first ≤ log.block ∧ log.block ≤ last ∧ log.info.address ∈ addresses

def kept (fork : Nat) : List RskLog := chain.logs.filter fun log => log.block ≤ fork

def dropped (fork : Nat) : List RskLog := chain.logs.filter fun log => fork < log.block

/-- What the blocks above a fork can be: logs above the fork in their order, under ids that are free. -/
def CanFollow (fork : Nat) (logs : List RskLog) (best : Nat) : Prop :=
  fork ≤ chain.best ∧ fork ≤ best
    ∧ (∀ log ∈ logs, fork < log.block ∧ log.block ≤ best ∧ log.info.removed = false)
    ∧ (logs.Pairwise fun a b => a.block ≤ b.block) ∧ ((chain.kept fork ++ logs).map RskLog.id).Nodup

instance (fork : Nat) (logs : List RskLog) (best : Nat) : Decidable (chain.CanFollow fork logs best) := by
  unfold CanFollow
  infer_instance

/-- The chain with other blocks above the fork. -/
def reorg (fork : Nat) (logs : List RskLog) (best : Nat) (h : chain.CanFollow fork logs best) :
    ProviderChain where
  best
  logs := chain.kept fork ++ logs
  nodup := h.2.2.2.2
  sorted := by
    obtain ⟨-, -, hlogs, hsorted, -⟩ := h
    refine List.pairwise_append.mpr ⟨chain.sorted.filter _, hsorted, fun a ha b hb => ?_⟩
    have hkept : a.block ≤ fork := by simpa using (List.mem_filter.mp ha).2
    have hnew := (hlogs b hb).1
    omega
  le_best := by
    obtain ⟨-, hbest, hlogs, -, -⟩ := h
    intro log hlog
    rcases List.mem_append.mp hlog with hkept | hnew
    · have hle : log.block ≤ fork := by simpa using (List.mem_filter.mp hkept).2
      omega
    · exact (hlogs log hnew).2.1
  valid := by
    intro log hlog
    rcases List.mem_append.mp hlog with hkept | hnew
    · exact chain.valid log (List.mem_filter.mp hkept).1
    · exact (h.2.2.1 log hnew).2.2

section

variable {chain} {first last : Nat} {addresses : List Address} {log other : RskLog}

theorem mem_getLogs : log ∈ chain.getLogs first last addresses
    ↔ log ∈ chain.logs ∧ first ≤ log.block ∧ log.block ≤ last ∧ log.info.address ∈ addresses := by
  simp [getLogs]

theorem eq_of_id (h : log ∈ chain.logs) (h' : other ∈ chain.logs) (hid : log.id = other.id) :
    log = other :=
  List.inj_on_of_nodup_map chain.nodup h h' hid

end

end ProviderChain

/-! ## The program points -/

inductive IndexerStartFrom where
  | best | hash
deriving DecidableEq

/-- The managed contracts are stored under their own addresses, so the addresses are kept alone. -/
structure Config where
  startFrom : IndexerStartFrom
  /-- The number of the block with the configured hash. -/
  initialBlock : Nat
  syncBatchSize : Nat
  syncFinalityDepth : Nat
  managedContracts : List Address
  /-- The indexer was built with a notifier channel. -/
  notifier : Bool
deriving DecidableEq

def maxAttempts : Nat := 10

inductive Phase where
  /-- No process is running. -/
  | stopped
  /-- `run` is about to look at the shutdown flag. -/
  | begin
  /-- `recover_logs` is about to read the checkpoint and the best block. -/
  | recover
  /-- The head of the loop of `recover_logs`. -/
  | fetch (start finish attempt : Nat)
  /-- `save_logs_and_checkpoint` still has to save `rest` of its logs. -/
  | saveLogs (rest logs : List RskLog) (last finish attempt : Nat)
  /-- A batch is stored; the loop of `recover_logs` looks for a new best block. -/
  | checkBest (last finish attempt : Nat)
  /-- `run` is about to subscribe from a block on. -/
  | subscribe (lastBlockNumber : Nat)
  /-- The head of the loop of `listen_logs`. -/
  | listen
  /-- The loop waits for an item. -/
  | awaitItem
  /-- A log is about to be saved, to become the checkpoint, and to be sent. -/
  | saveLog (log : RskLog)
  | setCheckpoint (log : RskLog)
  | notify (log : RskLog)
deriving DecidableEq

structure Indexer where
  store : LogStore
  phase : Phase
  shutdownFlag : Bool
  initialBlockNumber : Nat
  chain : ProviderChain
  top : Nat
  /-- What the open subscription has not yielded yet. -/
  pending : List RskLog
  sent : List RskLog
  persisted : List RskLog

inductive Input where
  | start
  | kill
  | requestShutdown
  /-- The program goes on, with the answer of the provider if it asks for one. -/
  | tick
  /-- The operation at hand returns an error, and so does `run`. -/
  | fail
  /-- The channel has no receiver any more. -/
  | sendFails
  /-- What the subscription yields: its next log, or an error in the place of one or more of them. -/
  | next
  | transient
  | lagged (skipped : Nat)
  | closedConnection
  | unexpected
  /-- The chain of the provider changes above a fork. -/
  | reorg (fork : Nat) (logs : List RskLog) (best : Nat)
deriving DecidableEq

namespace Indexer

def init (chain : ProviderChain) : Indexer where
  store := .empty
  phase := .stopped
  shutdownFlag := false
  initialBlockNumber := 0
  chain
  top := chain.best
  pending := []
  sent := []
  persisted := []

variable (cfg : Config) (s : Indexer)

/-- `run` ends, or the process; an open subscription ends with it. -/
def stop : Indexer := { s with phase := .stopped, pending := [] }

/-- A new process: `resolve_initial_block`, and a fresh shutdown flag. -/
def start : Indexer :=
  { s with
    phase := .begin
    shutdownFlag := false
    initialBlockNumber := match cfg.startFrom with
      | .best => s.chain.best
      | .hash => cfg.initialBlock }

/-- The block from which `recover_logs` starts. -/
def recoverFrom : Nat :=
  (match s.store.syncCheckpoint with
    | some log => log.block
    | none => s.initialBlockNumber) - cfg.syncFinalityDepth

/-- The end of the next batch, in 64-bit words. -/
def batchEnd (start finish : Nat) : Nat :=
  if (start + cfg.syncBatchSize) % 2 ^ 64 < finish then (start + cfg.syncBatchSize) % 2 ^ 64 else finish

theorem batchEnd_le {cfg : Config} {start finish : Nat} : batchEnd cfg start finish ≤ finish := by
  unfold batchEnd
  split <;> omega

/-- The logs that the loop of `listen_logs` does not skip. -/
def accepts (log : RskLog) : Prop :=
  s.initialBlockNumber ≤ log.block ∧ log.info.address ∈ cfg.managedContracts

instance (log : RskLog) : Decidable (s.accepts cfg log) := by
  unfold accepts
  infer_instance

def tick : Indexer :=
  match s.phase with
  | .stopped => s
  | .begin =>
    if s.shutdownFlag then s.stop
    else match cfg.startFrom with
      | .best => { s with phase := .subscribe s.initialBlockNumber }
      | .hash => { s with phase := .recover }
  | .recover => { s with phase := .fetch (s.recoverFrom cfg) s.chain.best 1 }
  | .fetch start finish attempt =>
    if s.shutdownFlag = false ∧ start ≤ finish then
      if maxAttempts < attempt then s.stop
      else
        let last := batchEnd cfg start finish
        let logs := s.chain.getLogs start last cfg.managedContracts
        { s with phase := .saveLogs logs logs last finish attempt }
    else { s with phase := .subscribe finish }
  | .saveLogs (log :: rest) logs last finish attempt =>
    { s with
      store := s.store.saveLog log
      persisted := log :: s.persisted
      phase := .saveLogs rest logs last finish attempt }
  | .saveLogs [] logs last finish attempt =>
    { s with
      store := match logs.getLast? with
        | some lastLog => s.store.setSyncCheckpoint lastLog
        | none => s.store
      phase := .checkBest last finish attempt }
  | .checkBest last finish attempt =>
    if last = finish ∧ finish < s.chain.best then
      { s with phase := .fetch ((last + 1) % 2 ^ 64) s.chain.best (attempt + 1) }
    else { s with phase := .fetch ((last + 1) % 2 ^ 64) finish attempt }
  | .subscribe lastBlockNumber =>
    -- the filter of the subscription starts at this block
    { s with
      pending := s.chain.logs.filter fun log => lastBlockNumber ≤ log.block
      phase := .listen }
  | .listen => if s.shutdownFlag then s.stop else { s with phase := .awaitItem }
  | .awaitItem => s
  | .saveLog log =>
    { s with
      store := s.store.saveLog log
      persisted := log :: s.persisted
      phase := .setCheckpoint log }
  | .setCheckpoint log => { s with store := s.store.setSyncCheckpoint log, phase := .notify log }
  | .notify log =>
    { s with sent := if cfg.notifier then log :: s.sent else s.sent, phase := .listen }

/-- An item arrives while the loop waits for one. -/
def onItem (item : Indexer) : Indexer := if s.phase = .awaitItem then item else s

/-- The next log of the subscription. -/
def next : Indexer :=
  match s.pending with
  | [] => s
  | log :: pending =>
    { s with pending, phase := if s.accepts cfg log then .saveLog log else .listen }

/-- Logs of the subscription are lost, and the loop goes on. -/
def skip (n : Nat) : Indexer := { s with pending := s.pending.drop n, phase := .listen }

def isSubscribed : Bool :=
  match s.phase with
  | .listen | .awaitItem | .saveLog _ | .setCheckpoint _ | .notify _ => true
  | _ => false

/-- The subscription reports the logs that were removed, and then the new ones. -/
def reorg (fork : Nat) (logs : List RskLog) (best : Nat) : Indexer :=
  if h : s.chain.CanFollow fork logs best then
    { s with
      chain := s.chain.reorg fork logs best h
      top := max s.top best
      pending := if s.isSubscribed then
          s.pending ++ (s.chain.dropped fork).map RskLog.remove ++ logs
        else s.pending }
  else s

def step : Input → Indexer
  | .start => if s.phase = .stopped then s.start cfg else s
  | .kill => s.stop
  | .requestShutdown => { s with shutdownFlag := true }
  | .tick => s.tick cfg
  | .fail => s.stop
  | .sendFails =>
    match s.phase with
    | .notify _ => { s with phase := .listen }
    | _ => s
  | .next => s.onItem (s.next cfg)
  | .transient => s.onItem (s.skip 1)
  | .lagged skipped => s.onItem (s.skip skipped)
  -- the loop ends, with an error or because of a shutdown
  | .closedConnection => s.onItem s.stop
  | .unexpected => s.onItem s.stop
  | .reorg fork logs best => s.reorg fork logs best

end Indexer

/-! ## A sample -/

/-- One managed contract, batches of 100 blocks and a finality depth of three. -/
def sampleConfig : Config where
  startFrom := .hash
  initialBlock := 5
  syncBatchSize := 100
  syncFinalityDepth := 3
  managedContracts := [1]
  notifier := true

def sampleLog (block : Nat) : RskLog where
  info := ⟨1, .ofNat 256 block, block, .ofNat 256 block, 0, false⟩
  event := ⟨[], []⟩

def sampleChain : ProviderChain where
  best := 10
  logs := [sampleLog 9]
  nodup := by decide
  sorted := by decide
  le_best := by decide
  valid := by decide

end UnionBridge.LogIndexer
