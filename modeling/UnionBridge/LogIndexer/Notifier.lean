import UnionBridge.LogIndexer.Indexer
import Mathlib.Data.Finset.Basic

/-!
# The notifier of the log indexer (`log-indexer/src/notifier.rs`)

Consumers subscribe to the logs of a contract, and the notifier sends them what the indexer reports. It
keeps a set of consumers for each contract that has some. Who is in it can be read off the requests
alone: those whose latest request about the contract was to subscribe.
-/

namespace UnionBridge.LogIndexer

open Contracts

/-- A request; those that are not for a log indexer are one here. -/
inductive ToServer where
  | subscribeLogs (address : Address)
  | unsubscribeLogs (address : Address)
  | unexpected

structure Notifier (ι : Type) where
  monitoredContracts : List Address
  contractsWithConsumers : Table Address (Finset ι)

namespace Notifier

variable {ι : Type} [DecidableEq ι] (self : Notifier ι) (address : Address) (consumerId : ι)

def new (monitoredContracts : List Address) : Notifier ι := ⟨monitoredContracts, ∅⟩

/-- Nothing is done for a contract that is not monitored, or a consumer that is subscribed already. -/
def subscribeConsumerToContract : Notifier ι :=
  let consumers := (self.contractsWithConsumers.lookup address).getD ∅
  { self with
    contractsWithConsumers := if self.monitoredContracts.contains address ∧ consumerId ∉ consumers then
        self.contractsWithConsumers.insert address (insert consumerId consumers)
      else self.contractsWithConsumers }

def unsubscribeConsumerFromContract : Notifier ι :=
  { self with
    contractsWithConsumers := match self.contractsWithConsumers.lookup address with
      | some consumers =>
        let rest := consumers.erase consumerId
        if rest = ∅ then self.contractsWithConsumers.erase address
        else self.contractsWithConsumers.insert address rest
      | none => self.contractsWithConsumers }

def unsubscribeConsumerFromAllContracts : Notifier ι :=
  { self with
    contractsWithConsumers := (self.contractsWithConsumers.mapValues (·.erase consumerId)).retain
      fun _ consumers => consumers ≠ ∅ }

/-- One request with its sender. -/
def updateConsumers : ToServer × ι → Notifier ι
  | (.subscribeLogs address, consumerId) => self.subscribeConsumerToContract address consumerId
  | (.unsubscribeLogs address, consumerId) => self.unsubscribeConsumerFromContract address consumerId
  | (.unexpected, consumerId) => self.unsubscribeConsumerFromAllContracts consumerId

/-- What the broker is given, and for whom; `run` ends at a message that it refuses. The table is only
read, so logs between the requests change nothing. -/
def notifyConsumers (newLog : RskLog) : Multiset (RskLog × ι) :=
  match self.contractsWithConsumers.lookup newLog.info.address with
  | some consumers => consumers.val.map fun cId => (newLog, cId)
  | none => 0

def consumersOf : Finset ι := (self.contractsWithConsumers.lookup address).getD ∅

end Notifier

/-- The request is about the contract. -/
def ToServer.affects (address : Address) : ToServer → Bool
  | subscribeLogs a => a = address
  | unsubscribeLogs a => a = address
  | unexpected => true

section Subscribed

variable {ι : Type} [DecidableEq ι]

/-- The latest request of a consumer about a contract, in a list that starts with the latest one. -/
def latestRequest (address : Address) (consumerId : ι) (history : List (ToServer × ι)) :
    Option (ToServer × ι) :=
  history.find? fun request => request.2 = consumerId ∧ request.1.affects address

/-- It is a subscription, and the contract is monitored. -/
def Subscribed (contracts : List Address) (history : List (ToServer × ι)) (address : Address)
    (consumerId : ι) : Prop :=
  address ∈ contracts
    ∧ latestRequest address consumerId history = some (.subscribeLogs address, consumerId)

namespace Notifier

/-- The sets are those of the requests, and none is empty. -/
structure Agrees (contracts : List Address) (history : List (ToServer × ι)) (n : Notifier ι) :
    Prop where
  monitored : n.monitoredContracts = contracts
  mem_iff : ∀ address c, c ∈ n.consumersOf address ↔ Subscribed contracts history address c
  nonempty : ∀ address, n.contractsWithConsumers.lookup address ≠ some ∅

variable {n : Notifier ι} {address other : Address} {consumerId : ι}
  {contracts : List Address} {history : List (ToServer × ι)}

theorem consumersOf_subscribe :
    (n.subscribeConsumerToContract address consumerId).consumersOf other
      = if other = address ∧ address ∈ n.monitoredContracts then insert consumerId (n.consumersOf other)
        else n.consumersOf other := by
  unfold subscribeConsumerToContract consumersOf
  by_cases haddress : other = address <;>
    grind [AList.lookup_insert, AList.lookup_insert_ne, List.contains_iff_mem]

theorem consumersOf_unsubscribe :
    (n.unsubscribeConsumerFromContract address consumerId).consumersOf other
      = if other = address then (n.consumersOf other).erase consumerId else n.consumersOf other := by
  unfold unsubscribeConsumerFromContract consumersOf
  by_cases haddress : other = address <;>
    grind [AList.lookup_insert, AList.lookup_insert_ne, AList.lookup_erase, AList.lookup_erase_ne]

theorem consumersOf_unsubscribeAll :
    (n.unsubscribeConsumerFromAllContracts consumerId).consumersOf other
      = (n.consumersOf other).erase consumerId := by
  unfold unsubscribeConsumerFromAllContracts consumersOf
  rw [Table.lookup_retain, Table.lookup_mapValues]
  cases n.contractsWithConsumers.lookup other with
  | none => rfl
  | some consumers =>
    simp only [Option.map_some, Option.filter, Option.getD_some]
    split <;> simp_all

/-- **One request** leaves the sets as the requests have them. -/
theorem Agrees.request (h : Agrees contracts history n) (request : ToServer × ι) :
    Agrees contracts (request :: history) (n.updateConsumers request) := by
  obtain ⟨message, consumerId⟩ := request
  refine ⟨?_, fun other c => ?_, fun other hlookup => ?_⟩
  · rw [← h.monitored]
    cases message <;> rfl
  · have hmem := h.mem_iff other c
    have hmonitored := h.monitored
    cases message <;>
      simp only [updateConsumers, consumersOf_subscribe, consumersOf_unsubscribe,
        consumersOf_unsubscribeAll, Subscribed, latestRequest, List.find?_cons,
        ToServer.affects] at hmem ⊢ <;>
      grind
  · have hold := h.nonempty other
    cases message with
    | subscribeLogs address =>
      simp only [updateConsumers, subscribeConsumerToContract] at hlookup
      grind [Table.lookup_insert_eq_some, Finset.insert_ne_empty]
    | unsubscribeLogs address =>
      simp only [updateConsumers, unsubscribeConsumerFromContract] at hlookup
      grind [Table.lookup_insert_eq_some, Table.lookup_erase_eq_some]
    | unexpected =>
      simp only [updateConsumers, unsubscribeConsumerFromAllContracts, Table.lookup_retain] at hlookup
      simpa using (Option.filter_eq_some_iff.mp hlookup).2

theorem Agrees.run (h : Agrees contracts history n) (requests : List (ToServer × ι)) :
    Agrees contracts (requests.reverse ++ history) (Machine.run updateConsumers n requests) := by
  induction requests generalizing n history with
  | nil => exact h
  | cons request requests ih =>
    rw [List.reverse_cons, List.append_assoc]
    exact ih (h.request request)

/-- **Each log goes once to each subscriber of its contract**, after any requests, and to nobody else;
and no set of consumers is empty. -/
theorem each_log_sent_once (contracts : List Address) (requests : List (ToServer × ι)) :
    let n := Machine.run updateConsumers (new contracts) requests
    (∀ address, n.contractsWithConsumers.lookup address ≠ some ∅)
      ∧ ∀ newLog, ∃ receivers : Finset ι,
        n.notifyConsumers newLog = receivers.val.map (fun cId => (newLog, cId))
        ∧ ∀ cId, cId ∈ receivers ↔ Subscribed contracts requests.reverse newLog.info.address cId := by
  intro n
  have hnew : Agrees contracts [] (new contracts : Notifier ι) :=
    ⟨rfl, fun _ _ => iff_of_false (Finset.notMem_empty _) nofun, fun _ => nofun⟩
  have hagrees := hnew.run requests
  rw [List.append_nil] at hagrees
  refine ⟨hagrees.nonempty, fun newLog => ⟨n.consumersOf newLog.info.address, ?_, hagrees.mem_iff _⟩⟩
  unfold notifyConsumers consumersOf
  split
  · next hlookup => rw [hlookup]; rfl
  · next hlookup => rw [hlookup]; rfl

end Notifier

end Subscribed

end UnionBridge.LogIndexer
