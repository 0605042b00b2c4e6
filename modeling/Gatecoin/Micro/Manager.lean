/-
The channel manager of a microcoin receiver (`channel_manager/manager.py`, `channel_manager/channel.py`) and the paywall in
front of its resources (`proxy/resources/paywall_decorator.py`).

The manager keeps the channels to its receiver in a table under sender and opening block. Every read of the table builds a
new object; a handler changes its object and writes it back as a whole. So a handler that calls another one in between writes
its own, older object over what the other one has written.

A handler returns the state and what it raises; what was written before an exception stays. The result of sending the closing
transaction is an input. Times are left out. Three records are kept for the proofs: `marked`, the channels that have been
marked as closed since they were stored, and of each channel the balance proofs that were accepted, the prices of the requests
that were served and the closing signatures.

`step_changes` says what a call can do: a sequence of the changes of `Change`. Only a close request that the manager answers
with a challenge writes a channel back as it was before it was closed.
-/
import Gatecoin.Contracts.TokenNetwork

namespace Gatecoin.Micro.Manager

open Gatecoin.Core

variable (env : Env)
open Contracts (Address)

/-- the sender and the block in which the channel was opened -/
abbrev Key := Address × ℕ

inductive ChannelState where
  | opened
  | closed
  | closePending
  | undefined
deriving DecidableEq, Repr

structure Channel where
  deposit : ℕ
  balance : ℕ
  state : ChannelState
  lastSignature : Option String
  settleTimeout : ℤ
  confirmed : Bool
  /-- transaction hash to added deposit -/
  unconfirmedTopups : Dict String ℕ

namespace Channel

/-- the constructor -/
def new (deposit : ℕ) : Channel := ⟨deposit, 0, .undefined, none, -1, false, Dict.empty⟩

def isClosed (c : Channel) : Bool := c.state = .closed ∨ c.state = .closePending

end Channel

/-- what the manager uses and does not define -/
structure Env where
  /-- the signer of a balance proof over an opening block and a balance; none if the recovery raises -/
  recover : ℕ → ℕ → String → Option Address
  /-- the receiver's closing signature for a sender, an opening block and a balance -/
  signClose : Address → ℕ → ℕ → String
  checksum : Address → String

/-- what happens to the transaction that closes a channel -/
inductive TxOutcome where
  | sent
  | insufficientBalance
  /-- it cannot be created -/
  | unsigned
  /-- sending it raises something else -/
  | failed
deriving DecidableEq, Repr

inductive Exn where
  | insufficientConfirmations (text : String)
  | noOpenChannel (text : String)
  | invalidBalanceProof (text : String)
  | invalidBalanceAmount (text : String)
  | noBalanceProofReceived (text : String)
  | insufficientBalance
  | assertion
  | transaction
  | signature
  | typeError
deriving DecidableEq, Repr

/-- a closing signature, with the proofs that were accepted before it -/
structure Closing where
  balance : ℕ
  signature : String
  accepted : List (ℕ × String)

/-- what happened in the lifetime of a channel -/
structure Record where
  accepted : List (ℕ × String)
  prices : List ℕ
  closings : List Closing

structure State where
  channels : Dict Key Channel
  marked : List Key
  records : Dict Key Record

namespace State

/-- `self.channels[key]` -/
def confirmedChannel (s : State) (key : Key) : Option Channel :=
  (s.channels.get? key).filter fun c => c.confirmed

/-- `self.unconfirmed_channels[key]` -/
def unconfirmedChannel (s : State) (key : Key) : Option Channel :=
  (s.channels.get? key).filter fun c => !c.confirmed

def record (s : State) (key : Key) : Record := (s.records.get? key).getD ⟨[], [], []⟩

def setChannel (s : State) (key : Key) (c : Channel) : State := { s with channels := s.channels.set key c }

/-- a channel is stored for the first time -/
def create (s : State) (key : Key) (c : Channel) : State :=
  { s with channels := s.channels.set key c, records := s.records.set key ⟨[], [], []⟩ }

/-- a channel is stored as closed -/
def storeClosed (s : State) (key : Key) (c : Channel) : State :=
  { s with channels := s.channels.set key c, marked := key :: s.marked }

def delete (s : State) (key : Key) : State :=
  { channels := s.channels.erase key
    marked := s.marked.filter (· ≠ key)
    records := s.records.erase key }

def accept (s : State) (key : Key) (balance : ℕ) (signature : String) : State :=
  { s with records := s.records.set key { s.record key with accepted := (s.record key).accepted ++ [(balance, signature)] } }

/-- a payment is stored and its proof accepted -/
def pay (s : State) (key : Key) (c : Channel) (balance : ℕ) (signature : String) : State :=
  (s.setChannel key { c with balance := balance, lastSignature := some signature }).accept key balance signature

def serve (s : State) (key : Key) (price : ℕ) : State :=
  { s with records := s.records.set key { s.record key with prices := (s.record key).prices ++ [price] } }

def addClosing (s : State) (key : Key) (balance : ℕ) (signature : String) : State :=
  { s with records := s.records.set key { s.record key with
      closings := (s.record key).closings ++ [⟨balance, signature, (s.record key).accepted⟩] } }

end State

abbrev Outcome (α : Type) := State × Except Exn α

/-! ## Blockchain events -/

def eventChannelOpened (s : State) (key : Key) (deposit : ℕ) : Outcome Unit :=
  match s.confirmedChannel key with
  | some _ => (s, .ok ())
  | none =>
    if key.2 = 0 then (s, .error .assertion)
    else (s.create key { Channel.new deposit with confirmed := true, state := .opened }, .ok ())

def unconfirmedEventChannelOpened (s : State) (key : Key) (deposit : ℕ) : Outcome Unit :=
  if key.2 = 0 then (s, .error .assertion)
  else
    match s.channels.get? key with
    | some _ => (s, .ok ())
    | none => (s.create key { Channel.new deposit with confirmed := false, state := .opened }, .ok ())

def unconfirmedEventChannelTopup (s : State) (key : Key) (txhash : String) (addedDeposit : ℕ) : Outcome Unit :=
  match s.confirmedChannel key with
  | none => if (s.unconfirmedChannel key).isSome then (s, .ok ()) else (s, .error .assertion)
  | some c => (s.setChannel key { c with unconfirmedTopups := c.unconfirmedTopups.set txhash addedDeposit }, .ok ())

def eventChannelTopup (s : State) (key : Key) (txhash : String) (addedDeposit : ℕ) : Outcome Unit :=
  match s.confirmedChannel key with
  | none => (s, .error .assertion)
  | some c =>
    if c.isClosed then (s, .ok ())
    else (s.setChannel key { c with
        deposit := c.deposit + addedDeposit
        unconfirmedTopups := c.unconfirmedTopups.erase txhash }, .ok ())

def eventChannelSettled (s : State) (key : Key) : Outcome Unit :=
  match s.channels.get? key with
  | none => (s, .error .assertion)
  | some _ => (s.delete key, .ok ())

/-! ## Closing -/

/-- the part of `close_channel` that signs and sends -/
def sendClose (s : State) (key : Key) (c : Channel) (tx : TxOutcome) : Outcome Unit :=
  let closingSig := env.signClose key.1 key.2 c.balance
  let closed := (s.addClosing key c.balance closingSig).storeClosed key { c with state := .closed }
  match tx with
  | .unsigned => (s, .error .transaction)
  | .sent => (closed, .ok ())
  | .failed => (closed, .error .transaction)
  | .insufficientBalance => (closed.storeClosed key { c with state := .closePending }, .error .insufficientBalance)

def closeChannel (s : State) (key : Key) (tx : TxOutcome) : Outcome Unit :=
  match s.confirmedChannel key with
  | none => (s, .ok ())
  | some c =>
    if c.lastSignature.isNone then
      (s, .error (.noBalanceProofReceived "Cannot close a channel without a balance proof."))
    else sendClose env s key c tx

def forceCloseChannel (s : State) (key : Key) (tx : TxOutcome) : Outcome Unit :=
  match closeChannel env s key tx with
  | (s, .error (.noBalanceProofReceived _)) =>
    match s.confirmedChannel key with
    | none => (s, .error .assertion)
    | some c => (s.storeClosed key { c with state := .closed }, .ok ())
  | outcome => outcome

/-- the challenge writes back the object that was read before the channel was closed -/
def eventChannelCloseRequested (s : State) (key : Key) (balance settleTimeout : ℕ) (tx : TxOutcome) :
    Outcome Unit :=
  match s.confirmedChannel key with
  | none => (s, .ok ())
  | some c =>
    if balance < c.balance then
      match closeChannel env s key tx with
      | (s, .ok ()) => (s.setChannel key c, .ok ())
      | outcome => outcome
    else (s.storeClosed key { c with settleTimeout := settleTimeout, state := .closed, confirmed := true }, .ok ())

def signClose (env : Env) (s : State) (key : Key) (balance : ℤ) : Outcome String :=
  match s.confirmedChannel key with
  | none => (s, .error (.noOpenChannel ("Channel does not exist or has been closed(sender=" ++ env.checksum key.1 ++
      ", open_block_number=" ++ toString key.2 ++ ")")))
  | some c =>
    if c.isClosed then (s, .error (.noOpenChannel "Channel closing has been requested already."))
    else if c.lastSignature.isNone then (s, .error (.noBalanceProofReceived "Payment has not been registered."))
    else if balance ≠ c.balance then
      (s, .error (.invalidBalanceProof "Requested closing balance does not match latest one."))
    else
      let receiverSig := env.signClose key.1 key.2 c.balance
      ((s.addClosing key c.balance receiverSig).storeClosed key { c with state := .closed }, .ok receiverSig)

/-- `close_pending_channels` over the keys that are left -/
def closePendingFrom (env : Env) (tx : Key → TxOutcome) : List Key → State → Outcome Unit
  | [], s => (s, .ok ())
  | key :: keys, s =>
    match closeChannel env s key (tx key) with
    | (s, .ok ()) => closePendingFrom env tx keys s
    | outcome => outcome

def pendingKeys (s : State) : List Key :=
  s.channels.keys.filter fun key => (s.channels.get? key).any fun c => c.state = .closePending

def closePendingChannels (s : State) (tx : Key → TxOutcome) : Outcome Unit :=
  closePendingFrom env tx (pendingKeys s) s

/-! ## Payments -/

def verifyBalanceProof (s : State) (key : Key) (balance : Option ℕ) (signature : String) :
    Except Exn Channel :=
  if (s.unconfirmedChannel key).isSome then
    .error (.insufficientConfirmations ("Insufficient confirmations for the channel (sender=" ++ env.checksum key.1 ++
      ", open_block_number=" ++ toString key.2 ++ ")"))
  else
    match s.confirmedChannel key with
    | none => .error (.noOpenChannel ("Channel does not exist or has been closed(sender=" ++ env.checksum key.1 ++
        ", open_block_number=" ++ toString key.2 ++ ")"))
    | some c =>
      if c.isClosed then .error (.noOpenChannel "Channel closing has been requested already.")
      else
        match balance with
        | none => .error .assertion
        | some balance =>
          match env.recover key.2 balance signature with
          | none => .error .signature
          | some signer =>
            if signer = key.1 then .ok c else .error (.invalidBalanceProof "Recovered signer does not match the sender")

def registerPayment (s : State) (key : Key) (balance : ℕ) (signature : String) : Outcome (Address × ℕ) :=
  match verifyBalanceProof env s key (some balance) signature with
  | .error e => (s, .error e)
  | .ok c =>
    if balance ≤ c.balance then (s, .error (.invalidBalanceAmount "The balance must not decrease."))
    else if c.deposit < balance then (s, .error (.invalidBalanceProof "Balance must not be greater than deposit"))
    else (s.pay key c balance signature, .ok (key.1, balance - c.balance))

/-- `RequestData`: what a request says about its payment -/
structure RequestData where
  senderAddress : Option Address
  openBlockNumber : Option ℕ
  balance : Option ℕ
  balanceSignature : String

/-- the headers of the reply that depend on the payment -/
structure Headers where
  price : ℕ
  insufConfs : Bool
  nonexistingChannel : Bool
  invalidProof : Bool
  invalidAmount : Bool
  senderAddress : Option Address
  senderBalance : Option ℕ
  balanceSignature : Option String
deriving DecidableEq, Repr

def generateHeaders (price : ℕ) : Headers := ⟨price, false, false, false, false, none, none, none⟩

/-- the part of `paywall_check` after the channel has been found -/
def paywallPayment (s : State) (key : Key) (price : ℕ) (data : RequestData) (channel : Channel) :
    Outcome (Bool × Headers) :=
  let headers := { generateHeaders price with
    senderAddress := some key.1
    senderBalance := some channel.balance
    balanceSignature := channel.lastSignature }
  match data.balance with
  | none => (s, .error .typeError)
  | some balance =>
    let amountSent : ℤ := balance - channel.balance
    if amountSent ≠ 0 ∧ amountSent ≠ price then (s, .ok (true, { headers with invalidAmount := true }))
    else
      match registerPayment env s key balance data.balanceSignature with
      | (s, .ok _) => (s, .ok (false, headers))
      | (s, .error (.invalidBalanceAmount _)) => (s, .ok (true, headers))
      | (s, .error (.invalidBalanceProof _)) => (s, .ok (true, headers))
      | (s, .error e) => (s, .error e)

/-- whether the resource is paywalled, and the headers -/
def paywallCheck (s : State) (price : ℕ) (data : RequestData) : Outcome (Bool × Headers) :=
  if price = 0 then (s, .error .assertion)
  else if data.balanceSignature = "" then (s, .ok (true, generateHeaders price))
  else
    match data.senderAddress, data.openBlockNumber with
    | none, _ => (s, .error .assertion)
    -- no channel is stored without an opening block, and the log line of the refusal formats it as a number
    | some _, none => (s, .error .typeError)
    | some sender, some openBlockNumber =>
      match verifyBalanceProof env s (sender, openBlockNumber) data.balance data.balanceSignature with
      | .error (.insufficientConfirmations _) => (s, .ok (true, { generateHeaders price with insufConfs := true }))
      | .error (.noOpenChannel _) => (s, .ok (true, { generateHeaders price with nonexistingChannel := true }))
      | .error (.invalidBalanceAmount _) => (s, .ok (true, { generateHeaders price with invalidProof := true }))
      | .error (.invalidBalanceProof _) => (s, .ok (true, { generateHeaders price with invalidProof := true }))
      | .error e => (s, .error e)
      | .ok channel => paywallPayment env s (sender, openBlockNumber) price data channel

/-- a request for a resource with a price: the content is served when it is not paywalled -/
def request (s : State) (price : ℕ) (data : RequestData) : Outcome (Bool × Headers) :=
  match paywallCheck env s price data, data.senderAddress, data.openBlockNumber with
  | (s, .ok (false, headers)), some sender, some openBlockNumber =>
    (s.serve (sender, openBlockNumber) price, .ok (false, headers))
  | outcome, _, _ => outcome

/-! ## Calls -/

/-- `reset_unconfirmed`, without the heads of the chain: the unconfirmed channels are deleted, and the confirmed ones are
written back without unconfirmed top ups -/
def resetChannel (s : State) (key : Key) : State :=
  match s.channels.get? key with
  | none => s
  | some c => if c.confirmed then s.setChannel key { c with unconfirmedTopups := Dict.empty } else s.delete key

def resetUnconfirmed (s : State) : State := s.channels.keys.foldl resetChannel s

inductive Input where
  | opened (key : Key) (deposit : ℕ)
  | unconfirmedOpened (key : Key) (deposit : ℕ)
  | closeRequested (key : Key) (balance settleTimeout : ℕ) (tx : TxOutcome)
  | settled (key : Key)
  | unconfirmedTopup (key : Key) (txhash : String) (addedDeposit : ℕ)
  | topup (key : Key) (txhash : String) (addedDeposit : ℕ)
  | closeChannel (key : Key) (tx : TxOutcome)
  | forceCloseChannel (key : Key) (tx : TxOutcome)
  | signClose (key : Key) (balance : ℤ)
  | closePendingChannels (tx : Key → TxOutcome)
  | resetUnconfirmed
  | registerPayment (key : Key) (balance : ℕ) (signature : String)
  | request (price : ℕ) (data : RequestData)

def step (s : State) : Input → State
  | .opened key deposit => (eventChannelOpened s key deposit).1
  | .unconfirmedOpened key deposit => (unconfirmedEventChannelOpened s key deposit).1
  | .closeRequested key balance settleTimeout tx => (eventChannelCloseRequested env s key balance settleTimeout tx).1
  | .settled key => (eventChannelSettled s key).1
  | .unconfirmedTopup key txhash added => (unconfirmedEventChannelTopup s key txhash added).1
  | .topup key txhash added => (eventChannelTopup s key txhash added).1
  | .closeChannel key tx => (closeChannel env s key tx).1
  | .forceCloseChannel key tx => (forceCloseChannel env s key tx).1
  | .signClose key balance => (signClose env s key balance).1
  | .closePendingChannels tx => (closePendingChannels env s tx).1
  | .resetUnconfirmed => resetUnconfirmed s
  | .registerPayment key balance signature => (registerPayment env s key balance signature).1
  | .request price data => (request env s price data).1

/-- the manager with an empty table -/
def State.empty : State := ⟨Dict.empty, [], Dict.empty⟩

/-! ## What a call can do -/

/-- the close request for an open channel is answered with a challenge, and the transaction is sent -/
def Challenge (s : State) : Input → Prop
  | .closeRequested key balance _ tx => ∃ c, s.confirmedChannel key = some c ∧ c.isClosed = false ∧ balance < c.balance ∧
      c.lastSignature.isSome = true ∧ tx = .sent
  | _ => False

/-- a payment that is registered by no request -/
def Direct : Input → Prop
  | .registerPayment _ _ _ => True
  | _ => False

/-- an opening or a top up on the chain -/
def Funding : Input → Prop
  | .opened _ _ | .unconfirmedOpened _ _ | .topup _ _ _ => True
  | _ => False

/-- what only some calls can do: write an object from before the channel was closed, store a payment without a request, forget
a confirmed channel, and store a new channel or a higher deposit -/
structure Allowed where
  stale : Prop
  direct : Prop
  settled : Key → Prop
  funding : Prop

def allowed (s : State) (i : Input) : Allowed := ⟨Challenge s i, Direct i, fun key => i = .settled key, Funding i⟩

/-- one write -/
inductive Change (env : Env) (a : Allowed) (s : State) : State → Prop
  | created (key : Key) (deposit : ℕ) (confirmed : Bool) (hfunding : a.funding)
      (hnew : ∀ c, s.channels.get? key = some c → c.confirmed = false) :
      Change env a s (s.create key { Channel.new deposit with confirmed := confirmed, state := .opened })
  | topups (key : Key) (c : Channel) (topups : Dict String ℕ) (hc : s.channels.get? key = some c)
      (hconfirmed : c.confirmed = true) :
      Change env a s (s.setChannel key { c with unconfirmedTopups := topups })
  | toppedUp (key : Key) (c : Channel) (added : ℕ) (topups : Dict String ℕ) (hfunding : a.funding)
      (hc : s.channels.get? key = some c) (hconfirmed : c.confirmed = true) (hopen : c.isClosed = false) :
      Change env a s (s.setChannel key { c with deposit := c.deposit + added, unconfirmedTopups := topups })
  | paid (key : Key) (c : Channel) (balance : ℕ) (signature : String) (hdirect : a.direct)
      (hc : s.channels.get? key = some c) (hconfirmed : c.confirmed = true) (hopen : c.isClosed = false)
      (hvalid : env.recover key.2 balance signature = some key.1) (hmore : c.balance < balance)
      (hcovered : balance ≤ c.deposit) :
      Change env a s (s.pay key c balance signature)
  | served (key : Key) (c : Channel) (price : ℕ) (signature : String) (hc : s.channels.get? key = some c)
      (hconfirmed : c.confirmed = true) (hopen : c.isClosed = false) (hprice : 0 < price)
      (hvalid : env.recover key.2 (c.balance + price) signature = some key.1) (hcovered : c.balance + price ≤ c.deposit) :
      Change env a s ((s.pay key c (c.balance + price) signature).serve key price)
  | signed (key : Key) (c : Channel) (hc : s.channels.get? key = some c) (hproof : c.lastSignature.isSome = true) :
      Change env a s (s.addClosing key c.balance (env.signClose key.1 key.2 c.balance))
  | closed (key : Key) (c : Channel) (state : ChannelState) (settleTimeout : ℤ) (hc : s.channels.get? key = some c)
      (hconfirmed : c.confirmed = true) (hclosed : state = .closed ∨ state = .closePending) :
      Change env a s (s.storeClosed key { c with state := state, settleTimeout := settleTimeout })
  | restored (key : Key) (c : Channel) (hstale : c.isClosed = false → a.stale)
      (hc : s.channels.get? key = some { c with state := .closed }) (hconfirmed : c.confirmed = true) :
      Change env a s (s.setChannel key c)
  | deleted (key : Key) (hknown : ∀ c, s.channels.get? key = some c → c.confirmed = true → a.settled key) :
      Change env a s (s.delete key)

abbrev Changes (env : Env) (a : Allowed) := Relation.ReflTransGen (Change env a)

section Changes

variable {env : Env} {a : Allowed} {s s' : State} {key : Key} {c : Channel} {tx : TxOutcome}

theorem confirmedChannel_some : s.confirmedChannel key = some c ↔ s.channels.get? key = some c ∧ c.confirmed = true := by
  unfold State.confirmedChannel
  cases s.channels.get? key with
  | none => simp
  | some c' =>
    rw [Option.filter_eq_some_iff, Option.some.injEq]

theorem confirmedChannel_none (h : s.confirmedChannel key = none) (hc : s.channels.get? key = some c) :
    c.confirmed = false := by
  cases hconfirmed : c.confirmed with
  | false => rfl
  | true => exact absurd (confirmedChannel_some.2 ⟨hc, hconfirmed⟩) (by simp [h])

theorem eventChannelOpened_changes (ha : a.funding) (s : State) (key : Key) (deposit : ℕ) :
    Changes env a s (eventChannelOpened s key deposit).1 := by
  unfold eventChannelOpened
  cases h : s.confirmedChannel key with
  | some c => exact .refl
  | none =>
    dsimp only
    split_ifs
    · exact .refl
    · exact .single (.created key deposit true ha fun c hc => confirmedChannel_none h hc)

theorem unconfirmedEventChannelOpened_changes (ha : a.funding) (s : State) (key : Key) (deposit : ℕ) :
    Changes env a s (unconfirmedEventChannelOpened s key deposit).1 := by
  unfold unconfirmedEventChannelOpened
  split_ifs
  · exact .refl
  · cases h : s.channels.get? key with
    | some c => exact .refl
    | none => exact .single (.created key deposit false ha fun c hc => absurd (h.symm.trans hc) (by simp))

theorem unconfirmedEventChannelTopup_changes (s : State) (key : Key) (txhash : String) (added : ℕ) :
    Changes env a s (unconfirmedEventChannelTopup s key txhash added).1 := by
  unfold unconfirmedEventChannelTopup
  cases h : s.confirmedChannel key with
  | some c =>
    obtain ⟨hc, hconfirmed⟩ := confirmedChannel_some.1 h
    exact .single (.topups key c _ hc hconfirmed)
  | none =>
    dsimp only
    split_ifs <;> exact .refl

theorem eventChannelTopup_changes (ha : a.funding) (s : State) (key : Key) (txhash : String) (added : ℕ) :
    Changes env a s (eventChannelTopup s key txhash added).1 := by
  unfold eventChannelTopup
  cases h : s.confirmedChannel key with
  | none => exact .refl
  | some c =>
    obtain ⟨hc, hconfirmed⟩ := confirmedChannel_some.1 h
    dsimp only
    split_ifs with hclosed
    · exact .refl
    · exact .single (.toppedUp key c added _ ha hc hconfirmed (by simpa using hclosed))

theorem eventChannelSettled_changes (s : State) (key : Key) (hsettled : a.settled key) :
    Changes env a s (eventChannelSettled s key).1 := by
  unfold eventChannelSettled
  cases s.channels.get? key with
  | none => exact .refl
  | some c => exact .single (.deleted key fun _ _ _ => hsettled)

/-- a channel is signed for and stored as closed -/
theorem changes_closed (hc : s.channels.get? key = some c) (hconfirmed : c.confirmed = true)
    (hproof : c.lastSignature.isSome = true) : Changes env a s
      ((s.addClosing key c.balance (env.signClose key.1 key.2 c.balance)).storeClosed key { c with state := .closed }) :=
  .tail (.single (.signed key c hc hproof)) (.closed key c .closed c.settleTimeout hc hconfirmed (.inl rfl))

theorem sendClose_changes (hc : s.channels.get? key = some c) (hconfirmed : c.confirmed = true)
    (hproof : c.lastSignature.isSome = true) (tx : TxOutcome) : Changes env a s (sendClose env s key c tx).1 := by
  have hclosed : Changes env a s _ := changes_closed hc hconfirmed hproof
  cases tx with
  | unsigned => exact .refl
  | sent => exact hclosed
  | failed => exact hclosed
  | insufficientBalance =>
    exact hclosed.tail (.closed key { c with state := .closed } .closePending c.settleTimeout
      (Dict.get?_set_self s.channels key { c with state := .closed }) hconfirmed (.inr rfl))

theorem closeChannel_changes (env : Env) (s : State) (key : Key) (tx : TxOutcome) :
    Changes env a s (closeChannel env s key tx).1 := by
  unfold closeChannel
  cases h : s.confirmedChannel key with
  | none => exact .refl
  | some c =>
    obtain ⟨hc, hconfirmed⟩ := confirmedChannel_some.1 h
    dsimp only
    split_ifs with hproof
    · exact .refl
    · exact sendClose_changes hc hconfirmed (by simpa [Option.isSome_iff_ne_none] using hproof) tx

theorem forceCloseChannel_changes (env : Env) (s : State) (key : Key) (tx : TxOutcome) :
    Changes env a s (forceCloseChannel env s key tx).1 := by
  have hclose : Changes env a s _ := closeChannel_changes env s key tx
  unfold forceCloseChannel
  split
  · rename_i s' text heq
    rw [heq] at hclose
    cases h : s'.confirmedChannel key with
    | none => exact hclose
    | some c =>
      obtain ⟨hc, hconfirmed⟩ := confirmedChannel_some.1 h
      exact hclose.tail (.closed key c .closed c.settleTimeout hc hconfirmed (.inl rfl))
  · exact hclose

/-- a close that returns has left the channels alone or stored this one as closed -/
theorem closeChannel_ok (h : closeChannel env s key tx = (s', .ok ())) (hc : s.confirmedChannel key = some c) :
    c.lastSignature.isSome = true ∧ tx = .sent ∧
      s' = (s.addClosing key c.balance (env.signClose key.1 key.2 c.balance)).storeClosed key
        { c with state := .closed } := by
  unfold closeChannel at h
  rw [hc] at h
  dsimp only at h
  split_ifs at h with hproof
  · cases h
  · cases tx with
    | unsigned | failed | insufficientBalance => cases h
    | sent =>
      cases h
      exact ⟨by simpa [Option.isSome_iff_ne_none] using hproof, rfl, rfl⟩

theorem eventChannelCloseRequested_changes (env : Env) (s : State) (key : Key) (balance timeout : ℕ) (tx : TxOutcome) :
    Changes env (allowed s (.closeRequested key balance timeout tx)) s
      (eventChannelCloseRequested env s key balance timeout tx).1 := by
  unfold eventChannelCloseRequested
  cases h : s.confirmedChannel key with
  | none => exact .refl
  | some c =>
    obtain ⟨hc, hconfirmed⟩ := confirmedChannel_some.1 h
    dsimp only
    split_ifs with hcheat
    · have hclose : Changes env (allowed s (.closeRequested key balance timeout tx)) s _ :=
        closeChannel_changes env s key tx
      split
      · rename_i s' heq
        rw [heq] at hclose
        obtain ⟨hproof, hsent, rfl⟩ := closeChannel_ok heq h
        exact hclose.tail (.restored key c (fun hopen => ⟨c, h, hopen, hcheat, hproof, hsent⟩) (Dict.get?_set_self _ _ _)
          hconfirmed)
      · exact hclose
    · have hsame : ({ c with settleTimeout := (timeout : ℤ), state := .closed, confirmed := true } : Channel) =
          { c with state := .closed, settleTimeout := (timeout : ℤ) } := by rw [← hconfirmed]
      rw [hsame]
      exact .single (.closed key c .closed timeout hc hconfirmed (.inl rfl))

theorem signClose_changes (env : Env) (s : State) (key : Key) (balance : ℤ) :
    Changes env a s (signClose env s key balance).1 := by
  unfold signClose
  cases h : s.confirmedChannel key with
  | none => exact .refl
  | some c =>
    obtain ⟨hc, hconfirmed⟩ := confirmedChannel_some.1 h
    dsimp only
    split_ifs with h1 hproof
    · exact .refl
    · exact .refl
    · exact .refl
    · exact changes_closed hc hconfirmed (by simpa [Option.isSome_iff_ne_none] using hproof)

theorem closePendingFrom_changes (env : Env) (tx : Key → TxOutcome) (keys : List Key) :
    ∀ s, Changes env a s (closePendingFrom env tx keys s).1 := by
  induction keys with
  | nil => exact fun s => .refl
  | cons key keys ih =>
    intro s
    have hclose : Changes env a s _ := closeChannel_changes env s key (tx key)
    unfold closePendingFrom
    split
    · rename_i s' heq
      rw [heq] at hclose
      exact hclose.trans (ih s')
    · exact hclose

theorem resetUnconfirmed_changes (s : State) : Changes env a s (resetUnconfirmed s) := by
  unfold resetUnconfirmed
  generalize s.channels.keys = keys
  induction keys generalizing s with
  | nil => exact .refl
  | cons key keys ih =>
    refine Relation.ReflTransGen.trans ?_ (ih (resetChannel s key))
    unfold resetChannel
    cases hc : s.channels.get? key with
    | none => exact .refl
    | some c =>
      dsimp only
      split_ifs with hconfirmed
      · exact .single (.topups key c _ hc hconfirmed)
      · refine .single (.deleted key fun d hd hd' => ?_)
        obtain rfl := Option.some.inj (hc.symm.trans hd)
        exact absurd hd' hconfirmed

/-! Payments -/

theorem verifyBalanceProof_ok {balance : Option ℕ} {signature : String}
    (h : verifyBalanceProof env s key balance signature = .ok c) : s.channels.get? key = some c ∧ c.confirmed = true ∧
      c.isClosed = false ∧ ∃ b, balance = some b ∧ env.recover key.2 b signature = some key.1 := by
  unfold verifyBalanceProof at h
  split_ifs at h
  split at h
  · cases h
  rename_i c' hc'
  split_ifs at h with hclosed
  cases balance with
  | none => cases h
  | some b =>
    dsimp only at h
    split at h
    · cases h
    rename_i signer hsigner
    split_ifs at h with hsender
    cases h
    obtain ⟨hc, hconfirmed⟩ := confirmedChannel_some.1 hc'
    exact ⟨hc, hconfirmed, by simpa using hclosed, b, rfl, hsender ▸ hsigner⟩

theorem registerPayment_cases (env : Env) (s : State) (key : Key) (balance : ℕ) (signature : String) :
    (∃ e, registerPayment env s key balance signature = (s, .error e)) ∨
      ∃ c, verifyBalanceProof env s key (some balance) signature = .ok c ∧ c.balance < balance ∧ balance ≤ c.deposit ∧
        registerPayment env s key balance signature = (s.pay key c balance signature, .ok (key.1, balance - c.balance)) := by
  unfold registerPayment
  cases h : verifyBalanceProof env s key (some balance) signature with
  | error e => exact .inl ⟨e, rfl⟩
  | ok c =>
    dsimp only
    split_ifs with h1 h2
    · exact .inl ⟨_, rfl⟩
    · exact .inl ⟨_, rfl⟩
    · exact .inr ⟨c, rfl, by omega, by omega, rfl⟩

/-- the paywall lets a request through after a payment of its price -/
theorem paywallPayment_cases (env : Env) (s : State) (key : Key) (price : ℕ) (data : RequestData)
    (hc : s.channels.get? key = some c) : ((paywallPayment env s key price data c).1 = s ∧
        ∀ headers, (paywallPayment env s key price data c).2 ≠ .ok (false, headers)) ∨
      ∃ headers, data.balance = some (c.balance + price) ∧
        env.recover key.2 (c.balance + price) data.balanceSignature = some key.1 ∧ c.confirmed = true ∧ c.isClosed = false ∧
        0 < price ∧ c.balance + price ≤ c.deposit ∧ paywallPayment env s key price data c =
          (s.pay key c (c.balance + price) data.balanceSignature, .ok (false, headers)) := by
  unfold paywallPayment
  cases hb : data.balance with
  | none => exact .inl ⟨rfl, fun _ h => by cases h⟩
  | some balance =>
    dsimp only
    split_ifs with hamount
    · exact .inl ⟨rfl, fun _ h => by cases h⟩
    · obtain ⟨e, heq⟩ | ⟨c', hverify, hmore, hcovered, heq⟩ := registerPayment_cases env s key balance data.balanceSignature
      · rw [heq]
        refine .inl ?_
        cases e <;> exact ⟨rfl, fun _ h => by cases h⟩
      · obtain ⟨hc', hconfirmed, hopen, b, hb', hvalid⟩ := verifyBalanceProof_ok hverify
        obtain rfl := Option.some.inj hb'
        obtain rfl := Option.some.inj (hc.symm.trans hc')
        have hprice : balance = c.balance + price := by omega
        subst hprice
        rw [heq]
        exact .inr ⟨_, rfl, hvalid, hconfirmed, hopen, by omega, hcovered, rfl⟩

/-- a request leaves the channels alone, or is served after a payment of its price -/
theorem request_cases (env : Env) (s : State) (price : ℕ) (data : RequestData) :
    ((request env s price data).1 = s ∧ ∀ headers, (request env s price data).2 ≠ .ok (false, headers)) ∨
      ∃ key c, (data.senderAddress = some key.1 ∧ data.openBlockNumber = some key.2 ∧ data.balance = some (c.balance + price)) ∧
        s.channels.get? key = some c ∧ c.confirmed = true ∧ c.isClosed = false ∧ 0 < price ∧
        env.recover key.2 (c.balance + price) data.balanceSignature = some key.1 ∧ c.balance + price ≤ c.deposit ∧
        (request env s price data).1 = (s.pay key c (c.balance + price) data.balanceSignature).serve key price := by
  unfold request paywallCheck
  split_ifs
  · exact .inl ⟨rfl, fun _ h => by cases h⟩
  · exact .inl ⟨rfl, fun _ h => by cases h⟩
  cases hsender : data.senderAddress with
  | none => exact .inl ⟨rfl, fun _ h => by cases h⟩
  | some sender =>
    cases hblock : data.openBlockNumber with
    | none => exact .inl ⟨rfl, fun _ h => by cases h⟩
    | some openBlockNumber =>
      dsimp only
      cases hverify : verifyBalanceProof env s (sender, openBlockNumber) data.balance data.balanceSignature with
      | error e => cases e <;> exact .inl ⟨rfl, fun _ h => by cases h⟩
      | ok c =>
        obtain ⟨hc, -⟩ := verifyBalanceProof_ok hverify
        dsimp only
        obtain ⟨hsame, hpaywalled⟩ | ⟨headers, hbalance, hvalid, hconfirmed, hopen, hprice, hcovered, heq⟩ :=
          paywallPayment_cases env s (sender, openBlockNumber) price data hc
        · generalize paywallPayment env s (sender, openBlockNumber) price data c = outcome at hsame hpaywalled
          obtain ⟨s', result⟩ := outcome
          refine .inl ?_
          split
          · rename_i headers _ _ heq _ _
            exact absurd (congrArg Prod.snd heq) (hpaywalled headers)
          · exact ⟨hsame, hpaywalled⟩
        · rw [heq]
          exact .inr ⟨(sender, openBlockNumber), c, ⟨rfl, rfl, hbalance⟩, hc, hconfirmed, hopen, hprice, hvalid, hcovered, rfl⟩

/-- **What a call can do.** Every call is a sequence of changes; only a challenge writes a stale object, only a direct payment
pays without a request, and only the settlement forgets a confirmed channel. -/
theorem step_changes (env : Env) (s : State) (i : Input) : Changes env (allowed s i) s (step env s i) := by
  cases i with
  | opened key deposit => exact eventChannelOpened_changes trivial s key deposit
  | unconfirmedOpened key deposit => exact unconfirmedEventChannelOpened_changes trivial s key deposit
  | closeRequested key balance timeout tx => exact eventChannelCloseRequested_changes env s key balance timeout tx
  | settled key => exact eventChannelSettled_changes s key rfl
  | unconfirmedTopup key txhash added => exact unconfirmedEventChannelTopup_changes s key txhash added
  | topup key txhash added => exact eventChannelTopup_changes trivial s key txhash added
  | closeChannel key tx => exact closeChannel_changes env s key tx
  | forceCloseChannel key tx => exact forceCloseChannel_changes env s key tx
  | signClose key balance => exact signClose_changes env s key balance
  | closePendingChannels tx => exact closePendingFrom_changes env tx _ s
  | resetUnconfirmed => exact resetUnconfirmed_changes s
  | registerPayment key balance signature =>
    obtain ⟨e, heq⟩ | ⟨c, hverify, hmore, hcovered, heq⟩ := registerPayment_cases env s key balance signature
    · simp only [step, heq]
      exact .refl
    · obtain ⟨hc, hconfirmed, hopen, b, hb, hvalid⟩ := verifyBalanceProof_ok hverify
      obtain rfl := Option.some.inj hb
      rw [step, heq]
      exact .single (.paid key c balance signature trivial hc hconfirmed hopen hvalid hmore hcovered)
  | request price data =>
    obtain ⟨hsame, -⟩ | ⟨key, c, -, hc, hconfirmed, hopen, hprice, hvalid, hcovered, heq⟩ := request_cases env s price data
    · simp only [step, hsame]
      exact .refl
    · rw [step, heq]
      exact .single (.served key c price data.balanceSignature hc hconfirmed hopen hprice hvalid hcovered)

end Changes

/-- every signature is one of the sender 3 -/
def sampleEnv : Env := ⟨fun _ _ _ => some 3, fun _ _ _ => "closing", fun _ => "0x3"⟩

end Gatecoin.Micro.Manager
