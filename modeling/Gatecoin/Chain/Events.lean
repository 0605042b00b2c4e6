/-
Fetching the logs of the followed contracts (blockchain/events.py, blockchain/filters.py).

A batch is a range of blocks. It is queried in rounds: the first round asks for everything that is followed already, and
every further round for the token networks and channels that the round before it has found. The filter of the node grows
with every round, also when a later request of the same batch times out and the batch is fetched again.

MODEL ONLY: sets are finite sets, a log has its position in the chain, decoding checks only that the contract is known, and
the size of a batch is an input of every call (the size adjuster computes it from request durations). What raises after the
logs were fetched (the adjuster, or the request for the confirmed block) is the input `failure`. Block hashes, gas limits
and listeners are left out.
-/
import Mathlib.Data.List.Sort
import Gatecoin.Core.Dict
import Gatecoin.Core.Fault
import Gatecoin.Core.Run

namespace Gatecoin.Chain

open Gatecoin.Core

abbrev Address := BitVec 160

/-! ## Logs -/

inductive ChannelEvent where
  | closed
  | settled
  | deposit
  | withdraw
  | unlocked
  | balanceProofUpdated
deriving DecidableEq, Repr

inductive LogData where
  | tokenNetworkCreated (tokenNetworkAddress : Address)
  | channelOpened (channelIdentifier : ℕ) (participant1 participant2 : Address)
  | channelEvent (event : ChannelEvent) (channelIdentifier : ℕ)
  | secretRevealed
  | registeredService
  | other
deriving DecidableEq, Repr

structure LogEntry where
  index : ℕ
  blockNumber : ℕ
  address : Address
  data : LogData
deriving DecidableEq, Repr

/-- the logs of a chain, as the contracts write them: a network is created once, a channel is opened once, by two
participants, and neither has logs before -/
structure LogChain where
  logs : List LogEntry
  ordered : logs.Pairwise fun a b => a.index < b.index ∧ a.blockNumber ≤ b.blockNumber
  created_once : ∀ x ∈ logs, ∀ y ∈ logs, ∀ tn, x.data = .tokenNetworkCreated tn → y.data = .tokenNetworkCreated tn → x = y
  opened_once : ∀ x ∈ logs, ∀ y ∈ logs, ∀ id p1 p2 q1 q2, x.data = .channelOpened id p1 p2 →
    y.data = .channelOpened id q1 q2 → x.address = y.address → x = y
  participants_ne : ∀ x ∈ logs, ∀ id p1 p2, x.data = .channelOpened id p1 p2 → p1 ≠ p2
  opened_after : ∀ x ∈ logs, ∀ y ∈ logs, ∀ id p1 p2, x.data = .channelOpened id p1 p2 →
    y.data = .tokenNetworkCreated x.address → y.index < x.index
  event_after : ∀ x ∈ logs, ∀ y ∈ logs, ∀ e id p1 p2, x.data = .channelEvent e id → y.data = .channelOpened id p1 p2 →
    y.address = x.address → y.index < x.index

/-! ## Filters -/

inductive Topics where
  | tokenNetworkCreated
  | secretRevealed
  | openedByParticipant1 (participant : Address)
  | openedByParticipant2 (participant : Address)
  | channel (events : List ChannelEvent) (identifiers : Finset ℕ)
  | registeredService
deriving DecidableEq

def Topics.accept : Topics → LogData → Bool
  | tokenNetworkCreated, .tokenNetworkCreated _ => true
  | secretRevealed, .secretRevealed => true
  | openedByParticipant1 p, .channelOpened _ p1 _ => p1 = p
  | openedByParticipant2 p, .channelOpened _ _ p2 => p2 = p
  | channel events ids, .channelEvent e id => e ∈ events ∧ id ∈ ids
  | registeredService, .registeredService => true
  | _, _ => false

structure FilterParams where
  name : String
  fromBlock : ℕ
  toBlock : ℕ
  address : Finset Address
  topics : Topics
deriving DecidableEq

def FilterParams.accept (p : FilterParams) (x : LogEntry) : Bool :=
  x.address ∈ p.address ∧ p.fromBlock ≤ x.blockNumber ∧ x.blockNumber ≤ p.toBlock ∧ p.topics.accept x.data = true

/-- `eth_getLogs` -/
def ethGetLogs (chain : LogChain) (p : FilterParams) : List LogEntry := chain.logs.filter p.accept

structure GatecoinContractFilter where
  tokenNetworkRegistryAddresses : Finset Address
  tokenNetworkAddresses : Finset Address
  channelsOfTokenNetwork : Dict Address (Finset ℕ)
  secretRegistryAddress : Option Address
  ignoreSecretRegistryUntilChannelFound : Bool
  serviceRegistry : Option Address
deriving DecidableEq

namespace GatecoinContractFilter

/-- the channels of a network that are followed -/
def channels (f : GatecoinContractFilter) (tn : Address) : Finset ℕ := (f.channelsOfTokenNetwork.get? tn).getD ∅

/-- `__bool__` -/
def nonempty (f : GatecoinContractFilter) : Bool :=
  f.tokenNetworkRegistryAddresses ≠ ∅ ∨ f.tokenNetworkAddresses ≠ ∅ ∨
    (∃ cs ∈ f.channelsOfTokenNetwork.values, cs ≠ ∅) ∨ f.secretRegistryAddress.isSome

def channelTopics : List ChannelEvent := [.closed, .settled, .deposit, .withdraw, .unlocked]

section Requests

variable (f : GatecoinContractFilter) (fromBlock toBlock : ℕ)

def registryFilters : List FilterParams :=
  if f.tokenNetworkRegistryAddresses ≠ ∅ then
    [⟨"token_network_registry", fromBlock, toBlock, f.tokenNetworkRegistryAddresses, .tokenNetworkCreated⟩]
  else []

def secretFilters : List FilterParams :=
  match f.secretRegistryAddress with
  | some a =>
    if f.ignoreSecretRegistryUntilChannelFound then []
    else [⟨"secret_registry", fromBlock, toBlock, {a}, .secretRevealed⟩]
  | none => []

def networkFilters (nodeAddress : Address) : List FilterParams :=
  if f.tokenNetworkAddresses ≠ ∅ then
    [⟨"token_network", fromBlock, toBlock, f.tokenNetworkAddresses, .openedByParticipant1 nodeAddress⟩,
      ⟨"token_network", fromBlock, toBlock, f.tokenNetworkAddresses, .openedByParticipant2 nodeAddress⟩]
  else []

def channelFilters : List FilterParams :=
  f.channelsOfTokenNetwork.entries.map fun e => ⟨"channel", fromBlock, toBlock, {e.1}, .channel channelTopics e.2⟩

def serviceFilters : List FilterParams :=
  match f.serviceRegistry with
  | some a => [⟨"service_registered", fromBlock, toBlock, {a}, .registeredService⟩]
  | none => []

def toWeb3Filters (nodeAddress : Address) : List FilterParams :=
  f.registryFilters fromBlock toBlock ++ f.secretFilters fromBlock toBlock ++
    f.networkFilters fromBlock toBlock nodeAddress ++ f.channelFilters fromBlock toBlock ++
    f.serviceFilters fromBlock toBlock

end Requests

/-- the contracts whose interface is known -/
def abiOfContractAddress (f : GatecoinContractFilter) : Finset Address :=
  f.tokenNetworkRegistryAddresses ∪ f.tokenNetworkAddresses ∪ f.secretRegistryAddress.toFinset ∪ f.serviceRegistry.toFinset

/-- the channels of one entry, added to those that are followed -/
def addChannels (d : Dict Address (Finset ℕ)) (e : Address × Finset ℕ) : Dict Address (Finset ℕ) :=
  d.set e.1 ((d.get? e.1).getD ∅ ∪ e.2)

def union (f other : GatecoinContractFilter) : Except Fault GatecoinContractFilter := do
  ensure (f.secretRegistryAddress = none ∨ other.secretRegistryAddress = none ∨
    f.secretRegistryAddress = other.secretRegistryAddress) "Mismatching secret_registry_address"
  return { tokenNetworkRegistryAddresses := f.tokenNetworkRegistryAddresses ∪ other.tokenNetworkRegistryAddresses
           tokenNetworkAddresses := f.tokenNetworkAddresses ∪ other.tokenNetworkAddresses
           channelsOfTokenNetwork := other.channelsOfTokenNetwork.entries.foldl addChannels f.channelsOfTokenNetwork
           secretRegistryAddress := f.secretRegistryAddress.or other.secretRegistryAddress
           ignoreSecretRegistryUntilChannelFound :=
             f.ignoreSecretRegistryUntilChannelFound && other.ignoreSecretRegistryUntilChannelFound
           serviceRegistry := f.serviceRegistry.or other.serviceRegistry }

end GatecoinContractFilter

open GatecoinContractFilter

/-! ## New filters -/

def LogEntry.createdNetwork? (x : LogEntry) : Option Address :=
  match x.data with
  | .tokenNetworkCreated tn => some tn
  | _ => none

def LogEntry.openedChannel? (x : LogEntry) : Option (Address × Finset ℕ) :=
  match x.data with
  | .channelOpened id _ _ => some (x.address, {id})
  | _ => none

def newFiltersFromEvents (events : List LogEntry) : GatecoinContractFilter where
  tokenNetworkRegistryAddresses := ∅
  tokenNetworkAddresses := (events.filterMap LogEntry.createdNetwork?).toFinset
  channelsOfTokenNetwork := (events.filterMap LogEntry.openedChannel?).foldl addChannels Dict.empty
  secretRegistryAddress := none
  ignoreSecretRegistryUntilChannelFound := (events.filterMap LogEntry.openedChannel?).isEmpty
  serviceRegistry := none

/-- a stable sort -/
def sortEvents (events : List LogEntry) : List LogEntry := events.insertionSort fun a b => a.blockNumber ≤ b.blockNumber

/-! ## Batches -/

structure BlockchainEvents where
  lastFetchedBlock : ℕ
  eventFilter : GatecoinContractFilter
  addressToAbi : Finset Address
  nodeAddress : Address
deriving DecidableEq

inductive FetchError where
  | ethGetLogsTimeout
  | raised (fault : Fault)
deriving DecidableEq, Repr

/-- the requests of a round, in order; `timeout` says which of them time out -/
def requestAll (chain : LogChain) (timeout : ℕ → Bool) : ℕ → List FilterParams → Except FetchError (List LogEntry)
  | _, [] => .ok []
  | i, p :: rest =>
    if timeout i then .error .ethGetLogsTimeout
    else do
      let later ← requestAll chain timeout (i + 1) rest
      return ethGetLogs chain p ++ later

/-- the loop over the new filters; what was found before an error stays in the filter. There are at most three rounds with
logs (`queryAndTrack_rounds`), `rounds` counts down from more. -/
def queryAndTrack (chain : LogChain) (timeout : ℕ → ℕ → Bool) (fromBlock toBlock : ℕ) :
    ℕ → GatecoinContractFilter → List LogEntry → BlockchainEvents → BlockchainEvents × Except FetchError (List LogEntry)
  | 0, _, _, s => (s, .error .ethGetLogsTimeout)
  | rounds + 1, f, result, s =>
    if f.nonempty then
      match requestAll chain (timeout rounds) 0 (f.toWeb3Filters fromBlock toBlock s.nodeAddress) with
      | .error e => (s, .error e)
      | .ok [] => (s, .ok result)
      | .ok (x :: xs) =>
        if ∀ y ∈ x :: xs, y.address ∈ s.addressToAbi then
          let decoded := sortEvents (x :: xs)
          let child := newFiltersFromEvents decoded
          match s.eventFilter.union child with
          | .error e => (s, .error (.raised e))
          | .ok eventFilter =>
            queryAndTrack chain timeout fromBlock toBlock rounds child (result ++ decoded)
              { s with eventFilter := eventFilter, addressToAbi := s.addressToAbi ∪ child.abiOfContractAddress }
        else (s, .error (.raised .key))
    else (s, .ok result)

structure PollResult where
  polledBlockNumber : ℕ
  events : List LogEntry
deriving DecidableEq, Repr

/-- one call: the target, the current batch size, the requests that time out (by the rounds left and their number in the
round) and what raises after the logs were fetched -/
structure FetchCall where
  targetBlockNumber : ℕ
  batchSize : ℕ
  timeout : ℕ → ℕ → Bool
  failure : Option Fault

def fetchRounds : ℕ := 4

def fetchLogsInBatch (chain : LogChain) (s : BlockchainEvents) (c : FetchCall) :
    BlockchainEvents × Except FetchError PollResult :=
  if c.targetBlockNumber ≤ s.lastFetchedBlock then
    (s, .error (.raised (.value (s!"target {c.targetBlockNumber} is in the past, the block has " ++
      s!"been fetched already. Current {s.lastFetchedBlock}"))))
  else
    let fromBlock := s.lastFetchedBlock + 1
    let toBlock := min (fromBlock + c.batchSize) c.targetBlockNumber
    match queryAndTrack chain c.timeout fromBlock toBlock fetchRounds s.eventFilter [] s with
    | (s, .error e) => (s, .error e)
    | (s, .ok events) =>
      match c.failure with
      | some e => (s, .error (.raised e))
      | none => ({ s with lastFetchedBlock := toBlock }, .ok ⟨toBlock, events⟩)

/-! ## Runs -/

/-- a poller with the events of all results it has returned -/
structure Poller where
  state : BlockchainEvents
  delivered : List LogEntry

def pollStep (chain : LogChain) (p : Poller) (c : FetchCall) : Poller :=
  match fetchLogsInBatch chain p.state c with
  | (s, .error _) => ⟨s, p.delivered⟩
  | (s, .ok r) => ⟨s, p.delivered ++ r.events⟩

end Gatecoin.Chain
