/-
The node (`transfer/node.py`, `transfer/token_network.py`): the state of a node, and how a state change reaches its
channels and its payments.

A state change goes to one channel, to the task of one secrethash, or, if it is a block, to all channels and then to all
tasks. What the machines send is put into queues: messages wait in the queue of their recipient and channel until they are
acknowledged, transactions wait until an event of the chain has their effect or makes them invalid.

Token networks are kept in one map; the registries they belong to, and the map from partners to channels that can be
computed from the channels, are left out. Message identifiers are random; an acknowledgement says which messages carry its
identifier.
-/
import Gatecoin.Client.ChannelRun
import Gatecoin.Client.Payment
import Gatecoin.Client.Mediator
import Gatecoin.Client.Target

namespace Gatecoin.Client

open Gatecoin.Core

variable (env : Env)

/-! ## Queued events -/

structure QueueIdentifier where
  recipient : Address
  canonicalIdentifier : CanonicalIdentifier
deriving DecidableEq, Repr

namespace Event

/-- the queue of a `SendMessageEvent`; any other event has none -/
def queueIdentifier? : Event → Option QueueIdentifier
  | sendWithdrawRequest recipient ci _ _ _ _ _ => some ⟨recipient, ci⟩
  | sendWithdrawConfirmation recipient ci _ _ _ _ _ => some ⟨recipient, ci⟩
  | sendWithdrawExpired recipient ci _ _ _ _ => some ⟨recipient, ci⟩
  | sendProcessed recipient _ => some ⟨recipient, canonicalIdentifierUnorderedQueue⟩
  | sendLockedTransfer recipient ci _ => some ⟨recipient, ci⟩
  | sendUnlock recipient ci _ _ _ _ => some ⟨recipient, ci⟩
  | sendLockExpired recipient ci _ _ => some ⟨recipient, ci⟩
  | sendSecretRequest recipient _ _ _ _ => some ⟨recipient, canonicalIdentifierUnorderedQueue⟩
  | sendSecretReveal recipient _ => some ⟨recipient, canonicalIdentifierUnorderedQueue⟩
  | _ => none

def isContractSend : Event → Bool
  | contractSendChannelWithdraw _ _ _ _ _ => true
  | contractSendChannelCoopSettle _ _ _ _ _ _ _ => true
  | contractSendChannelClose _ _ _ => true
  | contractSendChannelSettle _ _ => true
  | contractSendChannelUpdateTransfer _ _ _ => true
  | contractSendChannelBatchUnlock _ _ _ => true
  | contractSendSecretReveal _ _ _ => true
  | _ => false

def isWithdrawRequest : Event → Bool
  | sendWithdrawRequest _ _ _ _ _ _ _ => true
  | _ => false

end Event

/-- a message that a node sends -/
abbrev SendMessageEvent := { e : Event // e.queueIdentifier?.isSome = true }

/-- a transaction that a node sends -/
abbrev ContractSendEvent := { e : Event // e.isContractSend = true }

def SendMessageEvent.queueIdentifier (m : SendMessageEvent) : QueueIdentifier := m.1.queueIdentifier?.get m.2

/-! ## The state of a node -/

/-- `MediatorTask` -/
structure MediatorTask where
  tokenNetworkAddress : Address
  mediatorState : MediatorTransferState

/-- `TargetTask`; the token network and the channel are those of the identifier -/
structure TargetTask where
  canonicalIdentifier : CanonicalIdentifier
  targetState : TargetTransferState

inductive TransferTask where
  | initiator (task : InitiatorTask)
  | mediator (task : MediatorTask)
  | target (task : TargetTask)

structure ChainState where
  blockNumber : ℕ
  blockHash : Bytes
  ourAddress : Address
  chainId : ℕ
  networks : Networks
  secrethashesToTask : Dict Bytes TransferTask
  pendingTransactions : List ContractSendEvent
  queueidsToQueues : Dict QueueIdentifier (List SendMessageEvent)

/-- the state of a node that has never run -/
def ChainState.initial (ourAddress : Address) (chainId blockNumber : ℕ) (blockHash : Bytes) : ChainState :=
  ⟨blockNumber, blockHash, ourAddress, chainId, Dict.empty, Dict.empty, [], Dict.empty⟩

/-! ## State changes -/

/-- the state changes that `handle_state_change` knows -/
inductive StateChange where
  | block (blockNumber : ℕ) (blockHash : Bytes)
  | actionChannelClose (canonicalIdentifier : CanonicalIdentifier)
  | actionChannelSetRevealTimeout (canonicalIdentifier : CanonicalIdentifier) (revealTimeout : ℕ)
  | actionChannelWithdraw (canonicalIdentifier : CanonicalIdentifier) (totalWithdraw : ℤ)
  | actionChannelCoopSettle (canonicalIdentifier : CanonicalIdentifier)
  | actionInitInitiator (transfer : TransferDescriptionWithSecret) (routes : List RouteState)
  | actionInitMediator (fromHop : HopState) (candidateRouteStates : List RouteState) (fromTransfer : LockedTransferSigned)
  | actionInitTarget (fromHop : HopState) (transfer : LockedTransferSigned) (receivedValidSecret : Bool)
  | actionTransferReroute (transfer : LockedTransferSigned) (secret : Bytes)
  | contractReceiveNewTokenNetwork (tokenNetworkAddress : Address)
  | contractReceiveChannelNew (details : NewChannelDetails)
  | contractReceiveChannelClosed (canonicalIdentifier : CanonicalIdentifier) (transactionFrom : Address) (blockNumber : ℕ)
      (blockHash : Bytes)
  | contractReceiveUpdateTransfer (canonicalIdentifier : CanonicalIdentifier) (nonce : ℕ)
  | contractReceiveChannelSettled (canonicalIdentifier : CanonicalIdentifier) (ourOnchainLocksroot : Bytes)
      (ourTransferredAmount : ℕ) (partnerOnchainLocksroot : Bytes) (partnerTransferredAmount : ℕ) (blockNumber : ℕ)
      (blockHash : Bytes)
  | contractReceiveChannelDeposit (canonicalIdentifier : CanonicalIdentifier) (participantAddress : Address)
      (contractBalance : ℕ) (feeConfig : FeeConfig)
  | contractReceiveChannelWithdraw (canonicalIdentifier : CanonicalIdentifier) (participant : Address) (totalWithdraw : ℕ)
      (feeConfig : FeeConfig)
  | contractReceiveChannelBatchUnlock (canonicalIdentifier : CanonicalIdentifier) (receiver sender : Address)
  | contractReceiveSecretReveal (stateChange : ContractReceiveSecretReveal)
  | receiveTransferCancelRoute (transfer : LockedTransferSigned)
  | receiveTransferRefund (stateChange : ReceiveTransferRefund)
  | receiveSecretRequest (stateChange : ReceiveSecretRequest)
  | receiveSecretReveal (stateChange : ReceiveSecretReveal)
  | receiveUnlock (stateChange : ReceiveUnlock)
  | receiveLockExpired (stateChange : ReceiveLockExpired)
  | receiveWithdrawRequest (stateChange : ReceiveWithdrawRequest)
  | receiveWithdrawConfirmation (stateChange : ReceiveWithdrawConfirmation) (identified : Event → Bool)
  | receiveWithdrawExpired (stateChange : ReceiveWithdrawExpired)
  | receiveDelivered (sender : Address) (identified : Event → Bool)
  | receiveProcessed (sender : Address) (identified : Event → Bool)
  | other

namespace StateChange

/-- the channel that a state change is for, and what the channel makes of it -/
def toChannel : StateChange → Option (CanonicalIdentifier × ChannelStateChange)
  | actionChannelClose ci => some (ci, .actionChannelClose ci.channelIdentifier)
  | actionChannelSetRevealTimeout ci revealTimeout => some (ci, .actionChannelSetRevealTimeout revealTimeout)
  | actionChannelWithdraw ci totalWithdraw => some (ci, .actionChannelWithdraw totalWithdraw)
  | actionChannelCoopSettle ci => some (ci, .actionChannelCoopSettle)
  | contractReceiveChannelClosed ci transactionFrom number hash =>
    some (ci, .contractReceiveChannelClosed ci.channelIdentifier transactionFrom number hash)
  | contractReceiveUpdateTransfer ci _ => some (ci, .contractReceiveUpdateTransfer ci.channelIdentifier)
  | contractReceiveChannelSettled ci ourRoot ourAmount partnerRoot partnerAmount number hash =>
    some (ci, .contractReceiveChannelSettled ci.channelIdentifier ourRoot ourAmount partnerRoot partnerAmount number hash)
  | contractReceiveChannelDeposit ci participant balance feeConfig =>
    some (ci, .contractReceiveChannelDeposit participant balance feeConfig)
  | contractReceiveChannelWithdraw ci participant total feeConfig =>
    some (ci, .contractReceiveChannelWithdraw participant total feeConfig)
  | contractReceiveChannelBatchUnlock ci _ sender => some (ci, .contractReceiveChannelBatchUnlock sender)
  | receiveWithdrawRequest r => some (r.canonicalIdentifier, .receiveWithdrawRequest r)
  | receiveWithdrawConfirmation r _ => some (r.canonicalIdentifier, .receiveWithdrawConfirmation r)
  | receiveWithdrawExpired r => some (r.canonicalIdentifier, .receiveWithdrawExpired r)
  | _ => none

def toInitiator : StateChange → InitiatorStateChange
  | block number _ => .block number
  | actionInitInitiator transfer routes => .actionInitInitiator transfer routes
  | actionTransferReroute transfer secret => .actionTransferReroute transfer secret
  | receiveTransferCancelRoute transfer => .receiveTransferCancelRoute transfer
  | receiveSecretRequest r => .receiveSecretRequest r
  | receiveSecretReveal r => .receiveSecretReveal r
  | receiveLockExpired m => .receiveLockExpired m
  | contractReceiveSecretReveal r => .contractReceiveSecretReveal r
  | _ => .other

def toMediator : StateChange → MediatorStateChange
  | block number hash => .block number hash
  | actionInitMediator fromHop routes transfer => .actionInitMediator fromHop routes transfer
  | receiveTransferRefund r => .receiveTransferRefund r
  | receiveSecretReveal r => .receiveSecretReveal r
  | contractReceiveSecretReveal r => .contractReceiveSecretReveal r
  | receiveUnlock u => .receiveUnlock u
  | receiveLockExpired m => .receiveLockExpired m
  | _ => .other

def toTarget : StateChange → TargetStateChange
  | block number hash => .block number hash
  | actionInitTarget fromHop transfer receivedValidSecret => .actionInitTarget fromHop transfer receivedValidSecret
  | receiveSecretReveal r => .receiveSecretReveal r
  | contractReceiveSecretReveal r => .contractReceiveSecretReveal r
  | receiveUnlock u => .receiveUnlock u
  | receiveLockExpired m => .receiveLockExpired m
  | _ => .other

/-- `ContractReceiveStateChange` -/
def isContractReceive : StateChange → Bool
  | contractReceiveNewTokenNetwork _ => true
  | contractReceiveChannelNew _ => true
  | contractReceiveChannelClosed _ _ _ _ => true
  | contractReceiveUpdateTransfer _ _ => true
  | contractReceiveChannelSettled _ _ _ _ _ _ _ => true
  | contractReceiveChannelDeposit _ _ _ _ => true
  | contractReceiveChannelWithdraw _ _ _ _ => true
  | contractReceiveChannelBatchUnlock _ _ _ => true
  | contractReceiveSecretReveal _ => true
  | _ => false

end StateChange

/-- the channel is gone from its network -/
def Networks.removeChannel (nets : Networks) (tokenNetworkAddress : Address) (channelIdentifier : ℕ) : Networks :=
  match nets.get? tokenNetworkAddress with
  | none => nets
  | some channels => nets.set tokenNetworkAddress (channels.erase channelIdentifier)

namespace Node

abbrev Result := Except Fault (ChainState × List Event)

/-- what a channel's transition leaves of it -/
def replaceChannel (nets : Networks) (tokenNetworkAddress : Address) (channelIdentifier : ℕ) :
    Option NettingChannelState → Networks
  | none => nets.removeChannel tokenNetworkAddress channelIdentifier
  | some c => nets.setChannel tokenNetworkAddress channelIdentifier c

/-! ## Channels -/

/-- `subdispatch_by_canonical_id` and `handle_token_network_action`, for a channel that is there -/
def subdispatchToChannel (s : ChainState) (ci : CanonicalIdentifier) (stateChange : ChannelStateChange) :
    Result :=
  match s.networks.channel ci.tokenNetworkAddress ci.channelIdentifier with
  | none => .ok (s, [])
  | some c => do
    let (newState, events) ← Client.stateTransition env c stateChange s.blockNumber s.blockHash
    return ({ s with networks := replaceChannel s.networks ci.tokenNetworkAddress ci.channelIdentifier newState }, events)

/-- `handle_channelnew`: an identifier that is known is left alone -/
def handleChannelnew (s : ChainState) (details : NewChannelDetails) : ChainState :=
  let ci := details.canonicalIdentifier
  match s.networks.channel ci.tokenNetworkAddress ci.channelIdentifier with
  | some _ => s
  | none => { s with
    networks := s.networks.setChannel ci.tokenNetworkAddress ci.channelIdentifier (newChannel env details) }

/-- the keys of all channels, in the order of the loops of `subdispatch_to_all_channels` -/
def channelKeys (nets : Networks) : List (Address × ℕ) :=
  nets.entries.flatMap fun network => network.2.keys.map fun id => (network.1, id)

/-- the loop of `subdispatch_to_all_channels` -/
def subdispatchToChannels (env : Env) (blockNumber : ℕ) (blockHash : Bytes) (s : ChainState) :
    List (Address × ℕ) → Result
  | [] => .ok (s, [])
  | (tokenNetworkAddress, channelIdentifier) :: rest => do
    let (s, events) ← subdispatchToChannel env s ⟨s.chainId, tokenNetworkAddress, channelIdentifier⟩
      (.block blockNumber blockHash)
    let (s, restEvents) ← subdispatchToChannels env blockNumber blockHash s rest
    return (s, events ++ restEvents)

/-! ## Payments -/

/-- the task of a secrethash with its new state; a finished task is removed -/
def setTask (s : ChainState) (secrethash : Bytes) : Option TransferTask → ChainState
  | none => { s with secrethashesToTask := s.secrethashesToTask.erase secrethash }
  | some task => { s with secrethashesToTask := (s.secrethashesToTask.set secrethash task) }

def subdispatchToPaymenttask (s : ChainState) (stateChange : StateChange) (secrethash : Bytes) : Result :=
  match s.secrethashesToTask.get? secrethash with
  | none => .ok (s, [])
  | some (.initiator task) =>
    if s.networks.contains task.tokenNetworkAddress then do
      let (newState, networks, events) ← InitiatorManager.stateTransition env task.managerState stateChange.toInitiator
        s.networks task.tokenNetworkAddress s.blockNumber
      return (setTask { s with networks := networks } secrethash
        (newState.map fun p => .initiator ⟨task.tokenNetworkAddress, p⟩), events)
    else .ok (s, [])
  | some (.mediator task) =>
    if s.networks.contains task.tokenNetworkAddress then do
      let iteration ← Mediator.stateTransition env (some task.mediatorState) s.networks task.tokenNetworkAddress
        s.blockNumber s.blockHash stateChange.toMediator
      return (setTask { s with networks := iteration.networks } secrethash
        (iteration.newState.map fun m => .mediator ⟨task.tokenNetworkAddress, m⟩), iteration.events)
    else .ok (s, [])
  | some (.target task) =>
    let ci := task.canonicalIdentifier
    match s.networks.channel ci.tokenNetworkAddress ci.channelIdentifier with
    | none => .ok (s, [])
    | some c => do
      let iteration ← Target.stateTransition env (some task.targetState) c s.blockNumber stateChange.toTarget
      return (setTask { s with
          networks := s.networks.setChannel ci.tokenNetworkAddress ci.channelIdentifier iteration.channel } secrethash
        (iteration.newState.map fun t => .target ⟨ci, t⟩), iteration.events)

/-- the loop of `subdispatch_to_all_lockedtransfers` -/
def subdispatchToTasks (env : Env) (stateChange : StateChange) (s : ChainState) : List Bytes → Result
  | [] => .ok (s, [])
  | secrethash :: rest => do
    let (s, events) ← subdispatchToPaymenttask env s stateChange secrethash
    let (s, restEvents) ← subdispatchToTasks env stateChange s rest
    return (s, events ++ restEvents)

/-- `handle_action_init_initiator`; a payment that is there ignores it -/
def subdispatchInitiatortask (s : ChainState) (d : TransferDescriptionWithSecret) (routes : List RouteState) :
    Result :=
  if s.networks.contains d.tokenNetworkAddress then
    match s.secrethashesToTask.get? d.secrethash with
    | none => do
      let (newState, networks, events) ← InitiatorManager.handleInit env none d routes s.networks s.blockNumber
      return (setTask { s with networks := networks } d.secrethash
        ((InitiatorManager.clearIfFinalized newState).map fun p => .initiator ⟨d.tokenNetworkAddress, p⟩), events)
    | some (.initiator task) =>
      if d.tokenNetworkAddress = task.tokenNetworkAddress then do
        let (newState, networks, events) ← InitiatorManager.stateTransition env task.managerState
          (.actionInitInitiator d routes) s.networks d.tokenNetworkAddress s.blockNumber
        return (setTask { s with networks := networks } d.secrethash
          (newState.map fun p => .initiator ⟨d.tokenNetworkAddress, p⟩), events)
      else .ok (s, [])
    | some _ => .ok (s, [])
  else .ok (s, [])

/-- the state of a mediator task, or `none` if the secrethash has a task of another kind or for another network -/
def mediatorStateFor (s : ChainState) (tokenNetworkAddress : Address) (secrethash : Bytes) :
    Option (Option MediatorTransferState) :=
  match s.secrethashesToTask.get? secrethash with
  | none => some none
  | some (.mediator task) => if tokenNetworkAddress = task.tokenNetworkAddress then some (some task.mediatorState) else none
  | some _ => none

/-- `handle_action_init_mediator` -/
def subdispatchMediatortask (s : ChainState) (fromHop : HopState) (routes : List RouteState)
    (fromTransfer : LockedTransferSigned) : Result :=
  let tokenNetworkAddress := fromTransfer.balanceProof.canonicalIdentifier.tokenNetworkAddress
  let secrethash := fromTransfer.lock.secrethash
  match mediatorStateFor s tokenNetworkAddress secrethash with
  | none => .ok (s, [])
  | some state =>
    if s.networks.contains tokenNetworkAddress then do
      let iteration ← Mediator.stateTransition env state s.networks tokenNetworkAddress s.blockNumber s.blockHash
        (.actionInitMediator fromHop routes fromTransfer)
      return (setTask { s with networks := iteration.networks } secrethash
        (iteration.newState.map fun m => .mediator ⟨tokenNetworkAddress, m⟩), iteration.events)
    else .ok (s, [])

/-- the state of a target task, or `none` if the secrethash has a task of another kind or for another network -/
def targetStateFor (s : ChainState) (tokenNetworkAddress : Address) (secrethash : Bytes) :
    Option (Option TargetTransferState) :=
  match s.secrethashesToTask.get? secrethash with
  | none => some none
  | some (.target task) =>
    if tokenNetworkAddress = task.canonicalIdentifier.tokenNetworkAddress then some (some task.targetState) else none
  | some _ => none

/-- `handle_action_init_target`: the channel is that of the transfer, also if the task has another one -/
def subdispatchTargettask (s : ChainState) (fromHop : HopState) (transfer : LockedTransferSigned)
    (receivedValidSecret : Bool) : Result :=
  let ci := transfer.balanceProof.canonicalIdentifier
  let secrethash := transfer.lock.secrethash
  match targetStateFor s ci.tokenNetworkAddress secrethash,
      s.networks.channel ci.tokenNetworkAddress ci.channelIdentifier with
  | some state, some c => do
    let iteration ← Target.stateTransition env state c s.blockNumber (.actionInitTarget fromHop transfer receivedValidSecret)
    return (setTask { s with
        networks := s.networks.setChannel ci.tokenNetworkAddress ci.channelIdentifier iteration.channel } secrethash
      (iteration.newState.map fun t => .target ⟨c.canonicalIdentifier, t⟩), iteration.events)
  | _, _ => .ok (s, [])

def handleActionTransferReroute (s : ChainState) (transfer : LockedTransferSigned) (secret : Bytes) : Result :=
  match s.secrethashesToTask.get? transfer.lock.secrethash with
  | none => .error .key
  | some currentPaymentTask =>
    let newSecrethash := env.sha256 secret
    subdispatchToPaymenttask env (setTask s newSecrethash (some currentPaymentTask)) (.actionTransferReroute transfer secret)
      newSecrethash

/-! ## Queues -/

/-- `inplace_delete_message`: a withdraw request is only deleted by its confirmation -/
def deletesMessage (isWithdrawConfirmation : Bool) (sender : Address) (identified : Event → Bool) (m : SendMessageEvent) :
    Bool :=
  (!m.1.isWithdrawRequest || isWithdrawConfirmation) && identified m.1 && m.queueIdentifier.recipient = sender

/-- `inplace_delete_message_queue`: an empty queue is removed -/
def deleteMessageQueue (deletes : SendMessageEvent → Bool) (queues : Dict QueueIdentifier (List SendMessageEvent))
    (queueid : QueueIdentifier) : Dict QueueIdentifier (List SendMessageEvent) :=
  match queues.get? queueid with
  | none => queues
  | some queue =>
    let queue := queue.filter fun m => !deletes m
    if queue = [] then queues.erase queueid else queues.set queueid queue

def deleteMessages (s : ChainState) (deletes : SendMessageEvent → Bool) : ChainState :=
  { s with queueidsToQueues := s.queueidsToQueues.keys.foldl (deleteMessageQueue deletes) s.queueidsToQueues }

/-! ## State changes -/

def handleBlock (s : ChainState) (blockNumber : ℕ) (blockHash : Bytes) : Result := do
  let s := { s with blockNumber := blockNumber, blockHash := blockHash }
  let (s, channelEvents) ← subdispatchToChannels env blockNumber blockHash s (channelKeys s.networks)
  let (s, transferEvents) ← subdispatchToTasks env (.block blockNumber blockHash) s s.secrethashesToTask.keys
  return (s, channelEvents ++ transferEvents)

/-- the queue of a closed channel is dropped -/
def dropChannelQueue (s : ChainState) (ci : CanonicalIdentifier) : ChainState :=
  match s.networks.channel ci.tokenNetworkAddress ci.channelIdentifier with
  | none => s
  | some c =>
    let queueid : QueueIdentifier :=
      ⟨c.partnerState.address, ⟨s.chainId, ci.tokenNetworkAddress, ci.channelIdentifier⟩⟩
    { s with queueidsToQueues := s.queueidsToQueues.erase queueid }

/-- the state changes of one channel -/
def handleChannelStateChange (s : ChainState) (stateChange : StateChange) : Result :=
  match stateChange.toChannel with
  | none => .ok (s, [])
  | some (ci, change) => subdispatchToChannel env s ci change

def handleStateChange (s : ChainState) : StateChange → Result
  | .block number hash => handleBlock env s number hash
  | .actionInitInitiator transfer routes => subdispatchInitiatortask env s transfer routes
  | .actionInitMediator fromHop routes transfer => subdispatchMediatortask env s fromHop routes transfer
  | .actionInitTarget fromHop transfer receivedValidSecret =>
    subdispatchTargettask env s fromHop transfer receivedValidSecret
  | .actionTransferReroute transfer secret => handleActionTransferReroute env s transfer secret
  | .contractReceiveNewTokenNetwork tokenNetworkAddress =>
    .ok (if s.networks.contains tokenNetworkAddress then s
      else { s with networks := (s.networks.set tokenNetworkAddress Dict.empty) }, [])
  | .contractReceiveChannelNew details => .ok (handleChannelnew env s details, [])
  | .contractReceiveSecretReveal r =>
    subdispatchToPaymenttask env s (.contractReceiveSecretReveal r) r.secrethash
  | .receiveTransferCancelRoute transfer =>
    subdispatchToPaymenttask env s (.receiveTransferCancelRoute transfer) transfer.lock.secrethash
  | .receiveTransferRefund r => subdispatchToPaymenttask env s (.receiveTransferRefund r) r.transfer.lock.secrethash
  | .receiveSecretRequest r => subdispatchToPaymenttask env s (.receiveSecretRequest r) r.secrethash
  | .receiveSecretReveal r => subdispatchToPaymenttask env s (.receiveSecretReveal r) (r.secrethash env)
  | .receiveUnlock u => subdispatchToPaymenttask env s (.receiveUnlock u) (u.secrethash env)
  | .receiveLockExpired m => subdispatchToPaymenttask env s (.receiveLockExpired m) m.secrethash
  | .contractReceiveChannelClosed ci transactionFrom number hash =>
    handleChannelStateChange env (dropChannelQueue s ci) (.contractReceiveChannelClosed ci transactionFrom number hash)
  | .receiveWithdrawConfirmation r identified => do
    let (s, events) ← handleChannelStateChange env s (.receiveWithdrawConfirmation r identified)
    return (deleteMessages s (deletesMessage true r.sender identified), events)
  | .receiveDelivered sender identified =>
    let queues := deleteMessageQueue (deletesMessage false sender identified) s.queueidsToQueues
      ⟨sender, canonicalIdentifierUnorderedQueue⟩
    .ok ({ s with queueidsToQueues := queues }, [])
  | .receiveProcessed sender identified => .ok (deleteMessages s (deletesMessage false sender identified), [])
  | stateChange => handleChannelStateChange env s stateChange

/-! ## Transactions -/

/-- `get_channelstate_by_token_network_and_partner`: of several usable channels the last one -/
def channelWithPartner (s : ChainState) (tokenNetworkAddress partnerAddress : Address) : Option NettingChannelState :=
  (s.networks.get? tokenNetworkAddress).bind fun channels =>
    (channels.values.filter fun c => c.partnerState.address = partnerAddress && getStatus c ≠ .unusable).getLast?

/-- a state change of the chain has the effect of a transaction, whoever sent it -/
def isTransactionEffectSatisfied (s : ChainState) : Event → StateChange → Bool
  | .contractSendChannelUpdateTransfer _ b _, .contractReceiveUpdateTransfer ci nonce =>
    ci.tokenNetworkAddress = b.canonicalIdentifier.tokenNetworkAddress &&
      ci.channelIdentifier = b.canonicalIdentifier.channelIdentifier && nonce = b.nonce
  | .contractSendChannelClose own _ _, .contractReceiveChannelClosed ci _ _ _ =>
    ci.tokenNetworkAddress = own.tokenNetworkAddress && ci.channelIdentifier = own.channelIdentifier
  | .contractSendChannelSettle own _, .contractReceiveChannelSettled ci _ _ _ _ _ _ =>
    ci.tokenNetworkAddress = own.tokenNetworkAddress && ci.channelIdentifier = own.channelIdentifier
  | .contractSendSecretReveal _ secret _, .contractReceiveSecretReveal r => r.secret = secret
  | .contractSendChannelBatchUnlock _ _ _, .contractReceiveChannelBatchUnlock ci receiver sender =>
    let partnerAddress := if receiver = s.ourAddress then some sender
      else if sender = s.ourAddress then some receiver else none
    match partnerAddress with
    | none => false
    | some partner => (channelWithPartner s ci.tokenNetworkAddress partner).isNone
  | _, _ => false

/-- a state change of the chain makes a transaction impossible -/
def isTransactionInvalidated : Event → StateChange → Bool
  | .contractSendChannelUpdateTransfer _ b _, .contractReceiveChannelSettled ci _ _ _ _ _ _ =>
    ci.tokenNetworkAddress = b.canonicalIdentifier.tokenNetworkAddress &&
      ci.channelIdentifier = b.canonicalIdentifier.channelIdentifier
  | .contractSendChannelWithdraw own _ _ _ _, .contractReceiveChannelClosed ci _ _ _ =>
    ci.tokenNetworkAddress = own.tokenNetworkAddress && ci.channelIdentifier = own.channelIdentifier
  | _, _ => false

/-- an update or a registration that comes too late -/
def isTransactionExpired (blockNumber : ℕ) : Event → Bool
  | .contractSendChannelUpdateTransfer expiration _ _ => expiration < blockNumber
  | .contractSendSecretReveal expiration _ _ => expiration < blockNumber
  | _ => false

def isTransactionPending (s : ChainState) (stateChange : StateChange) (transaction : ContractSendEvent) : Bool :=
  !(isTransactionEffectSatisfied s transaction.1 stateChange || isTransactionInvalidated transaction.1 stateChange ||
    isTransactionExpired s.blockNumber transaction.1)

/-- one event of the loop of `update_queues` -/
def enqueue (s : ChainState) (e : Event) : ChainState :=
  let s := if h : e.queueIdentifier?.isSome = true then
      let message : SendMessageEvent := ⟨e, h⟩
      let queueid := message.queueIdentifier
      { s with queueidsToQueues :=
        (s.queueidsToQueues.set queueid ((s.queueidsToQueues.get? queueid).getD [] ++ [message])) }
    else s
  if h : e.isContractSend = true then { s with pendingTransactions := s.pendingTransactions ++ [⟨e, h⟩] } else s

/-- `update_queues` -/
def updateQueues (s : ChainState) (stateChange : StateChange) (events : List Event) : ChainState :=
  let s := if stateChange.isContractReceive then
      { s with pendingTransactions := s.pendingTransactions.filter (isTransactionPending s stateChange) }
    else s
  events.foldl enqueue s

def stateTransition (s : ChainState) (stateChange : StateChange) : Result := do
  let (s, events) ← handleStateChange env s stateChange
  return (updateQueues s stateChange events, events)

end Node

end Gatecoin.Client
