/-
The tasks of a payment in the node (`transfer/node.py`) and the runs of a payment.

The node keeps one task for every secrethash. A reroute copies the whole task of the refunded transfer to the new
secrethash and dispatches to the copy. From then on the two tasks have their own state of the refunded transfer: messages
reach the task that is stored under their secrethash, blocks reach both.

A run belongs to one payment. Whatever else the node does is a change of its channels.
-/
import Gatecoin.Core.Run
import Gatecoin.Client.InitiatorManager

namespace Gatecoin.Client

open Gatecoin.Core

variable (env : Env)

/-! ## Tasks -/

structure InitiatorTask where
  tokenNetworkAddress : Address
  managerState : InitiatorPaymentState

/-- the part of the chain state that a payment reads -/
structure PaymentNode where
  secrethashesToTask : Dict Bytes InitiatorTask
  networks : Networks
  blockNumber : ℕ

inductive PaymentInput where
  /-- another payment, a message of a partner or an event of the chain changes channels -/
  | channels (networks : Networks)
  | block (blockNumber : ℕ)
  | actionTransferReroute (transfer : LockedTransferSigned) (secret : Bytes)
  | receiveTransferCancelRoute (transfer : LockedTransferSigned)
  | receiveSecretRequest (stateChange : ReceiveSecretRequest)
  | receiveSecretReveal (stateChange : ReceiveSecretReveal)
  | receiveLockExpired (stateChange : ReceiveLockExpired)
  | contractReceiveSecretReveal (stateChange : ContractReceiveSecretReveal)

namespace PaymentNode

/-- the task with its new state; a finished task is removed -/
def setTask (s : PaymentNode) (secrethash : Bytes) (tokenNetworkAddress : Address) : Option InitiatorPaymentState → PaymentNode
  | none => { s with secrethashesToTask := s.secrethashesToTask.erase secrethash }
  | some p => { s with secrethashesToTask := (s.secrethashesToTask.set secrethash ⟨tokenNetworkAddress, p⟩) }

def subdispatchToPaymenttask (s : PaymentNode) (stateChange : InitiatorStateChange) (secrethash : Bytes) :
    Except Fault (PaymentNode × List Event) :=
  match s.secrethashesToTask.get? secrethash with
  | none => .ok (s, [])
  | some task =>
    if s.networks.contains task.tokenNetworkAddress then do
      let (newState, networks, events) ← InitiatorManager.stateTransition env task.managerState stateChange s.networks
        task.tokenNetworkAddress s.blockNumber
      return (setTask { s with networks := networks } secrethash task.tokenNetworkAddress newState, events)
    else .ok (s, [])

/-- the loop of `subdispatch_to_all_lockedtransfers` -/
def subdispatchToTasks (env : Env) (stateChange : InitiatorStateChange) (s : PaymentNode) :
    List Bytes → Except Fault (PaymentNode × List Event)
  | [] => .ok (s, [])
  | secrethash :: rest => do
    let (s, events) ← subdispatchToPaymenttask env s stateChange secrethash
    let (s, restEvents) ← subdispatchToTasks env stateChange s rest
    return (s, events ++ restEvents)

def subdispatchToAllLockedtransfers (s : PaymentNode) (stateChange : InitiatorStateChange) :
    Except Fault (PaymentNode × List Event) :=
  subdispatchToTasks env stateChange s s.secrethashesToTask.keys

def handleBlock (s : PaymentNode) (blockNumber : ℕ) : Except Fault (PaymentNode × List Event) :=
  subdispatchToAllLockedtransfers env { s with blockNumber := blockNumber } (.block blockNumber)

def handleActionTransferReroute (s : PaymentNode) (transfer : LockedTransferSigned) (secret : Bytes) :
    Except Fault (PaymentNode × List Event) :=
  match s.secrethashesToTask.get? transfer.lock.secrethash with
  | none => .error .key
  | some currentPaymentTask =>
    let newSecrethash := env.sha256 secret
    let s := { s with secrethashesToTask := (s.secrethashesToTask.set newSecrethash currentPaymentTask) }
    subdispatchToPaymenttask env s (.actionTransferReroute transfer secret) newSecrethash

/-- `handle_action_init_initiator` for a payment that the node does not have yet -/
def handleActionInitInitiator (s : PaymentNode) (d : TransferDescriptionWithSecret) (routes : List RouteState) :
    Except Fault (PaymentNode × List Event) :=
  if s.networks.contains d.tokenNetworkAddress then do
    let (newState, networks, events) ← InitiatorManager.handleInit env none d routes s.networks s.blockNumber
    return (setTask { s with networks := networks } d.secrethash d.tokenNetworkAddress
      (InitiatorManager.clearIfFinalized newState), events)
  else .ok (s, [])

def handleStateChange (s : PaymentNode) : PaymentInput → Except Fault (PaymentNode × List Event)
  | .channels networks => .ok ({ s with networks := networks }, [])
  | .block blockNumber => handleBlock env s blockNumber
  | .actionTransferReroute transfer secret => handleActionTransferReroute env s transfer secret
  | .receiveTransferCancelRoute transfer =>
    subdispatchToPaymenttask env s (.receiveTransferCancelRoute transfer) transfer.lock.secrethash
  | .receiveSecretRequest r => subdispatchToPaymenttask env s (.receiveSecretRequest r) r.secrethash
  | .receiveSecretReveal r => subdispatchToPaymenttask env s (.receiveSecretReveal r) (r.secrethash env)
  | .receiveLockExpired m => subdispatchToPaymenttask env s (.receiveLockExpired m) m.secrethash
  | .contractReceiveSecretReveal r => subdispatchToPaymenttask env s (.contractReceiveSecretReveal r) r.secrethash

end PaymentNode

/-- `handle_message_refundtransfer` for the initiator: the route is cancelled, and if the old secret is known the payment is
rerouted with a new one -/
def handleMessageRefundtransfer (s : PaymentNode) (transfer : LockedTransferSigned) (randomSecret : Bytes) :
    List PaymentInput :=
  let oldSecret := (s.secrethashesToTask.get? transfer.lock.secrethash).bind fun task =>
    (task.managerState.initiatorTransfers.get? transfer.lock.secrethash).map fun t => t.transferDescription.secret
  .receiveTransferCancelRoute transfer ::
    match oldSecret with
    | none => []
    | some secret => if secret = absentSecret then [] else [.actionTransferReroute transfer randomSecret]

/-! ## Runs -/

/-- a payment with what it has sent, the secrethashes whose secret request was answered and those that were rerouted -/
structure PaymentRun where
  node : PaymentNode
  sent : List Event
  revealed : List Bytes
  rerouted : List Bytes

/-- the secrethash that a secret request reveals -/
def revealedBy (events : List Event) : PaymentInput → List Bytes
  | .receiveSecretRequest r => if events.any Event.isSecretReveal then [r.secrethash] else []
  | _ => []

/-- the secrethash whose transfer is replaced by a new one -/
def reroutedBy (events : List Event) : PaymentInput → List Bytes
  | .actionTransferReroute transfer _ => if events.any Event.isLockedTransfer then [transfer.lock.secrethash] else []
  | _ => []

def paymentStep (s : PaymentRun) (i : PaymentInput) : PaymentRun :=
  match s.node.handleStateChange env i with
  | .error _ => s
  | .ok (node, events) =>
    ⟨node, s.sent ++ events, revealedBy events i ++ s.revealed, reroutedBy events i ++ s.rerouted⟩

/-- the payment is started in a node with any channels -/
def startPayment (networks : Networks) (blockNumber : ℕ) (d : TransferDescriptionWithSecret)
    (routes : List RouteState) : PaymentRun :=
  let node : PaymentNode := ⟨Dict.empty, networks, blockNumber⟩
  match node.handleActionInitInitiator env d routes with
  | .error _ => ⟨node, [], [], []⟩
  | .ok (node, events) => ⟨node, events, [], []⟩

end Gatecoin.Client
