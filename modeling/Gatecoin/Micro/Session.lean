/-
The paying client of microcoin (`client/session.py`, `client/channel.py`, `client/client.py`).

`Session.request` repeats a request until the server delivers, the client gives up or something raises. A reply that asks for
payment makes the client sign a balance proof over its balance and the price; with the header for an invalid amount it first
adopts the balance that the server has a proof for, or goes back to 0. The replies and their headers are inputs, and so is what
the chain answers to a top up or a new channel.

Every balance that is signed is kept in a ledger. A call should not raise the highest one by more than one price. It does:
every further reply that asks for payment adds the price once more to the balance that was signed last.

- `respond_pays`: what one reply can make the client sign.
- `one_price_per_call`: no balance above the deposit is signed, and when a call raises the highest one by at most one price.
- `repeated_requests_drain_channel`: a server that asks three times and never delivers has proofs over three prices.
-/
import Gatecoin.Core.Run
import Gatecoin.Core.Stateful
import Gatecoin.Contracts.TokenNetwork

namespace Gatecoin.Micro.Payer

open Gatecoin.Core

variable (env : Env)
open Contracts (Address)
open List Dict

/-! ## Channels -/

/-- the receiver and the block in which the channel was opened -/
abbrev ChannelId := Address × ℕ

inductive ChannelState where
  | opened
  | settling
  | closed
deriving DecidableEq, Repr

structure Channel where
  deposit : ℤ
  balance : ℤ
  state : ChannelState
deriving DecidableEq, Repr

/-- `deposit - balance` -/
def Channel.capacity (c : Channel) : ℤ := c.deposit - c.balance

structure Session where
  channel : Option ChannelId
  /-- `client.channels` -/
  channels : Dict ChannelId Channel
  /-- the balances that have been signed -/
  signed : List (ChannelId × ℤ)
  /-- those signed before the call -/
  before : List (ChannelId × ℤ)
  /-- the prices asked for in the call -/
  asked : List ℤ
  /-- the call has returned or raised -/
  finished : Bool

/-- what the session is set up with, and the signer of a balance proof; none if the recovery raises -/
structure Env where
  address : Address
  contractAddress : Address
  initialDeposit : ℤ → ℤ
  topupDeposit : ℤ → ℤ
  recover : ChannelId → ℤ → String → Option Address

/-- what the chain answers: whether a top up is confirmed, and the block and deposit of a new channel -/
structure ChainAnswer where
  toppedUp : Bool
  opened : Option (ℕ × ℕ)

/-- the headers of a reply with status 402. A missing value and one that cannot be parsed are none; the receiver may be the
empty text, which stands for every receiver; a missing or empty signature is none. -/
structure Headers where
  nonexistingChannel : Bool
  insufConfs : Bool
  invalidProof : Bool
  contractAddress : Option Address
  invalidAmount : Bool
  balanceSignature : Option String
  senderBalance : Option ℤ
  receiverAddress : Option (Option Address)
  price : Option ℤ

inductive Response where
  | ok
  | paymentRequired (headers : Headers)
  | error

inductive SessionError where
  | missingHeader
  | assertion
  | noChannel
  | signature
  | encoding
deriving DecidableEq, Repr

abbrev Handler := EStateM SessionError Session

/-! ## Payments -/

/-- the balance is written and signed -/
def updateBalance (id : ChannelId) (c : Channel) (value : ℤ) : Handler Unit :=
  modify fun s => { s with
    channels := s.channels.set id { c with balance := value }
    signed := s.signed ++ [(id, value)] }

/-- whether the top up was confirmed; a negative amount cannot be encoded -/
def topup (answer : ChainAnswer) (id : ChannelId) (c : Channel) (deposit : ℤ) : Handler Bool := do
  if c.state ≠ .opened then return false
  else if deposit < 0 then throw .encoding
  else if answer.toppedUp then
    modify fun s => { s with channels := s.channels.set id { c with deposit := c.deposit + deposit } }
    return true
  else return false

/-- `create_transfer`: a transfer that is not covered is not signed -/
def createTransfer (id : ChannelId) (value : ℤ) : Handler Unit := do
  match (← get).channels.get? id with
  | none => throw .noChannel
  | some c =>
    if value < 0 then throw .assertion
    else if c.capacity < value ∨ c.state = .closed then pure ()
    else updateBalance id c (c.balance + value)

def openChannel (answer : ChainAnswer) (receiver : Option Address) (deposit : ℤ) : Handler (Option ChannelId) := do
  if deposit ≤ 0 then throw .assertion
  else
    match receiver, answer.opened with
    | none, _ => throw .encoding
    | some _, none => return none
    | some receiver, some (block, deposit) =>
      updateBalance (receiver, block) ⟨deposit, 0, .opened⟩ 0
      return some (receiver, block)

def openChannels (s : Session) (receiver : Option Address) : List (ChannelId × Channel) :=
  s.channels.entries.filter fun e => (receiver = none ∨ receiver = some e.1.1) ∧ e.2.state = .opened

/-- the first element that no other one beats -/
def best {α : Type} (beats : α → α → Bool) : List α → Option α
  | [] => none
  | a :: l =>
    match best beats l with
    | none => some a
    | some b => if beats b a then some b else some a

/-- a suitable channel with the least capacity, or the one with the most, topped up, or a new one -/
def getSuitableChannel (answer : ChainAnswer) (receiver : Option Address) (value : ℤ) :
    Handler (Option ChannelId) := do
  let channels := openChannels (← get) receiver
  match best (fun a b => a.2.capacity < b.2.capacity) (channels.filter fun e => value ≤ e.2.capacity),
      best (fun a b => b.2.capacity < a.2.capacity) channels with
  | some e, _ => return some e.1
  | none, some e =>
    if ← topup answer e.1 e.2 (max value (env.topupDeposit value) - e.2.capacity) then return some e.1 else return none
  | none, none => openChannel answer receiver (max value (env.initialDeposit value))

/-- the session's channel, if it is open -/
def currentChannel (s : Session) : Option (ChannelId × Channel) :=
  s.channel.bind fun id => (s.channels.get? id).bind fun c => if c.state = .opened then some (id, c) else none

/-- the session has a channel that can take the payment, as far as one could be had -/
def prepareChannel (answer : ChainAnswer) (receiver : Option Address) (price : ℤ) : Handler Unit := do
  match currentChannel (← get) with
  | none =>
    let channel ← getSuitableChannel env answer receiver price
    modify fun s => { s with channel := channel }
  | some (id, c) =>
    if c.capacity < price then
      let _ ← topup answer id c (env.topupDeposit price)
    else pure ()

def onPaymentRequested (headers : Headers) (answer : ChainAnswer) : Handler Bool := do
  match headers.receiverAddress, headers.price with
  | some receiver, some price =>
    if price ≤ 0 then throw .assertion
    else
      modify fun s => { s with asked := s.asked ++ [price] }
      prepareChannel env answer receiver price
      match (← get).channel with
      | none => return false
      | some id =>
        createTransfer id price
        return true
  | _, _ => throw .missingHeader

/-- the proof is one of the client's own over this balance; none if the recovery raises -/
def verified (id : ChannelId) (balance : ℤ) : Option String → Option Bool
  | none => some false
  | some signature => (env.recover id balance signature).map (· = env.address)

def onInvalidAmount (headers : Headers) (answer : ChainAnswer) : Handler Bool := do
  let s ← get
  match headers.senderBalance, s.channel.bind fun id => (s.channels.get? id).map fun c => (id, c) with
  | none, _ => throw .missingHeader
  | some _, none => throw .noChannel
  | some lastBalance, some (id, c) =>
    match verified env id lastBalance headers.balanceSignature with
    | none => throw .signature
    | some true =>
      if lastBalance = c.balance then return false
      else
        updateBalance id c lastBalance
        onPaymentRequested env headers answer
    | some false =>
      updateBalance id c 0
      onPaymentRequested env headers answer

/-- the part of `_request_resource` after the reply: whether the request is repeated -/
def respond (answer : ChainAnswer) : Response → Handler Bool
  | .ok => return false
  | .error => return false
  | .paymentRequired headers =>
    if headers.nonexistingChannel ∨ headers.insufConfs ∨ headers.invalidProof then return true
    else if headers.contractAddress ≠ some env.contractAddress then return false
    else if headers.invalidAmount then onInvalidAmount env headers answer
    else onPaymentRequested env headers answer

/-! ## Calls -/

inductive Input where
  /-- `Session.request` is called -/
  | request
  | reply (response : Response) (answer : ChainAnswer)

def step (s : Session) : Input → Session
  | .request => { s with before := s.signed, asked := [], finished := false }
  | .reply response answer =>
    if s.finished then s
    else
      match (respond env answer response).run s with
      | .ok retry s => { s with finished := !retry }
      | .error _ s => { s with finished := true }

/-- a client with the channels it found on the chain, over which it has signed the balance 0 -/
def Session.new (deposits : Dict ChannelId ℕ) : Session :=
  let signed := deposits.keys.map fun id => (id, 0)
  ⟨none, ofList (deposits.entries.map fun e => (e.1, ⟨e.2, 0, .opened⟩)), signed, signed, [], false⟩

/-! ## What a reply can do -/

/-- every channel has a proof over its balance, and no proof exceeds the deposit -/
structure Sound (s : Session) : Prop where
  balances : ∀ id c, s.channels.get? id = some c → (id, c.balance) ∈ s.signed
  deposits : ∀ id b, (id, b) ∈ s.signed → ∃ c, s.channels.get? id = some c ∧ b ≤ c.deposit
  nonneg : ∀ id c, s.channels.get? id = some c → 0 ≤ c.deposit

def Session.balance (s : Session) (id : ChannelId) : ℤ := ((s.channels.get? id).map Channel.balance).getD 0

/-- the reply goes to `on_invalid_amount` -/
def Headers.adopts (headers : Headers) : Prop :=
  ¬ (headers.nonexistingChannel ∨ headers.insufConfs ∨ headers.invalidProof) ∧
    headers.contractAddress = some env.contractAddress ∧ headers.invalidAmount

instance (env : Env) (headers : Headers) : Decidable (headers.adopts env) := by
  unfold Headers.adopts
  infer_instance

/-- the balance that `on_invalid_amount` gives to a channel; none if it raises -/
def adopted (headers : Headers) (id : ChannelId) : Option ℤ := do
  let balance ← headers.senderBalance
  let valid ← verified env id balance headers.balanceSignature
  return if valid then balance else 0

/-- the balance of a channel from which the payment for a reply starts -/
def startBalance (headers : Headers) (s : Session) (id : ChannelId) : ℤ :=
  if headers.adopts env ∧ s.channel = some id ∧ (s.channels.get? id).isSome then (adopted env headers id).getD (s.balance id)
  else s.balance id

/-- a new channel to the receiver is none of the client's -/
def Fresh (receiver : Option Address) (answer : ChainAnswer) (s : Session) : Prop :=
  ∀ address ∈ receiver, ∀ opened ∈ answer.opened, s.channels.get? (address, opened.1) = none

/-- a proof over the session's channel that verifies as the client's own is one it has signed -/
def Unforged (s : Session) (headers : Headers) : Prop :=
  ∀ id ∈ s.channel, ∀ balance ∈ headers.senderBalance, ∀ signature ∈ headers.balanceSignature,
    env.recover id balance signature = some env.address → (id, balance) ∈ s.signed

/-- what a reply can make the client sign: balances signed before, 0, and one over a price that was asked -/
structure Pays (start : ChannelId → ℤ) (s s' : Session) : Prop where
  before : s'.before = s.before
  asked : ∀ price ∈ s.asked, price ∈ s'.asked
  signed : ∀ id b, (id, b) ∈ s'.signed → (id, b) ∈ s.signed ∨ b = 0 ∨ s'.channel = some id ∧ s'.balance id = b ∧
    ∃ price ∈ s'.asked, 0 < price ∧ b = start id + price

/-- the session before the transfer: at most a new channel with the balance 0 has been signed -/
structure Prepared (s s' : Session) : Prop where
  sound : Sound s'
  before : s'.before = s.before
  asked : s'.asked = s.asked
  signed : ∀ id b, (id, b) ∈ s'.signed → (id, b) ∈ s.signed ∨ b = 0
  balance : s'.balance = s.balance

section Steps

variable {env : Env} {answer : ChainAnswer} {s s' : Session} {id : ChannelId} {c d : Channel} {value : ℤ}
  {receiver : Option Address} {start : ChannelId → ℤ}

theorem balance_of_get (hc : s.channels.get? id = some c) : s.balance id = c.balance := by
  rw [Session.balance, hc]
  rfl

theorem balance_set (hchannels : s'.channels = s.channels.set id c) :
    s'.balance = Function.update s.balance id c.balance := by
  funext k
  rw [Session.balance, hchannels, get?_set, Function.update_apply]
  split_ifs <;> rfl

/-- **Signing.** A channel has a signed balance that its deposit covers, and the deposit has not become less. -/
theorem Sound.sign (h : Sound s) (hchannels : s'.channels = s.channels.set id c)
    (hsigned : ∀ k b, (k, b) ∈ s'.signed ↔ (k, b) ∈ s.signed ∨ k = id ∧ b = c.balance) (hcovered : c.balance ≤ c.deposit)
    (hnonneg : 0 ≤ c.deposit) (hdeposit : ∀ d, s.channels.get? id = some d → d.deposit ≤ c.deposit) : Sound s' := by
  have hget (k : ChannelId) : s'.channels.get? k = if k = id then some c else s.channels.get? k := by
    rw [hchannels, get?_set]
  refine ⟨fun k d hd => ?_, fun k b hb => ?_, fun k d hd => ?_⟩
  · rw [hget] at hd
    rw [hsigned]
    split_ifs at hd with hk
    · cases hd
      exact .inr ⟨hk, rfl⟩
    · exact .inl (h.balances k d hd)
  · rw [hget]
    rcases (hsigned k b).1 hb with hb | ⟨rfl, rfl⟩
    · obtain ⟨d, hd, hle⟩ := h.deposits k b hb
      split_ifs with hk
      · subst hk
        exact ⟨c, rfl, hle.trans (hdeposit d hd)⟩
      · exact ⟨d, hd, hle⟩
    · exact ⟨c, if_pos rfl, hcovered⟩
  · rw [hget] at hd
    split_ifs at hd with hk
    · cases hd
      exact hnonneg
    · exact h.nonneg k d hd

/-- the deposit of a channel grows -/
theorem Sound.topup (h : Sound s) (hc : s.channels.get? id = some c) (hvalue : 0 ≤ value) :
    Sound { s with channels := s.channels.set id { c with deposit := c.deposit + value } } := by
  have hsigned := h.balances id c hc
  have hdeposit {d : Channel} (hd : s.channels.get? id = some d) : d.deposit ≤ c.deposit + value := by
    obtain rfl := Option.some.inj (hc.symm.trans hd)
    omega
  obtain ⟨d, hd, hle⟩ := h.deposits id _ hsigned
  refine h.sign rfl (fun k b => (or_iff_left_of_imp ?_).symm) (hle.trans (hdeposit hd))
    ((h.nonneg id c hc).trans (hdeposit hc)) fun d hd => hdeposit hd
  rintro ⟨rfl, rfl⟩
  exact hsigned

theorem Prepared.refl (h : Sound s) : Prepared s s := ⟨h, rfl, rfl, fun _ _ => .inl, rfl⟩

theorem topup_prepared (h : Sound s) (hc : s.channels.get? id = some c) :
    Ensures (topup answer id c value) s fun _ s' => Prepared s s' := by
  unfold topup
  split_ifs
  · exact .refl h
  · exact .refl h
  · refine ⟨h.topup hc (by omega), rfl, rfl, fun _ _ => .inl, ?_⟩
    rw [balance_set rfl, ← balance_of_get hc, Function.update_eq_self]
  · exact .refl h

/-- the only step before a transfer that needs the answer of the chain to be fresh -/
theorem openChannel_prepared (h : Sound s) (hfresh : Fresh receiver answer s) :
    Ensures (openChannel answer receiver value) s fun _ s' => Prepared s s' := by
  unfold openChannel
  split_ifs
  · exact .refl h
  · cases receiver with
    | none => exact .refl h
    | some receiver =>
      cases hopened : answer.opened with
      | none => exact .refl h
      | some opened =>
        obtain ⟨block, deposit⟩ := opened
        have hnone : s.channels.get? (receiver, block) = none := hfresh receiver rfl _ hopened
        refine ⟨h.sign (c := ⟨deposit, 0, .opened⟩) rfl (by simp) (Int.natCast_nonneg deposit) (Int.natCast_nonneg deposit)
          fun d hd => ?_, rfl, rfl, fun k b hb => ?_, ?_⟩
        · rw [hnone] at hd
          cases hd
        · rcases mem_append.1 hb with hb | hb
          · exact .inl hb
          · exact .inr (Prod.mk.inj (mem_singleton.1 hb)).2
        · have hzero : s.balance (receiver, block) = 0 := by
            rw [Session.balance, hnone]
            rfl
          rw [balance_set rfl, ← hzero, Function.update_eq_self]

theorem best_mem {α : Type} {beats : α → α → Bool} {l : List α} {a : α} (h : best beats l = some a) : a ∈ l := by
  induction l with
  | nil => cases h
  | cons b l ih =>
    unfold best at h
    cases hl : best beats l with
    | none =>
      rw [hl] at h
      cases h
      exact mem_cons_self
    | some b' =>
      rw [hl] at h
      dsimp only at h
      split_ifs at h
      · cases h
        exact mem_cons_of_mem _ (ih hl)
      · cases h
        exact mem_cons_self

theorem mem_openChannels {e : ChannelId × Channel} (h : e ∈ openChannels s receiver) :
    s.channels.get? e.1 = some e.2 := get?_eq_some.2 (mem_of_mem_filter h)

theorem getSuitableChannel_prepared (h : Sound s) (hfresh : Fresh receiver answer s) :
    Ensures (getSuitableChannel env answer receiver value) s fun _ s' => Prepared s s' := by
  unfold getSuitableChannel
  rw [ensures_get_bind]
  dsimp only
  split
  · exact .refl h
  · rename_i e _ hbest
    refine (topup_prepared h (mem_openChannels (best_mem hbest))).bind (fun _ h' => h') fun confirmed s' h' => ?_
    cases confirmed with
    | true | false => exact h'
  · exact openChannel_prepared h hfresh

theorem currentChannel_some (h : currentChannel s = some (id, c)) : s.channels.get? id = some c := by
  unfold currentChannel at h
  obtain ⟨id', -, h⟩ := Option.bind_eq_some_iff.1 h
  obtain ⟨c', hc', h⟩ := Option.bind_eq_some_iff.1 h
  split_ifs at h
  cases h
  exact hc'

theorem prepareChannel_prepared (h : Sound s) (hfresh : Fresh receiver answer s) :
    Ensures (prepareChannel env answer receiver value) s fun _ s' => Prepared s s' := by
  unfold prepareChannel
  rw [ensures_get_bind]
  cases hcurrent : currentChannel s with
  | none =>
    refine (getSuitableChannel_prepared h hfresh).bind (fun _ h' => h') fun channel s' h' => ?_
    exact ⟨⟨h'.sound.balances, h'.sound.deposits, h'.sound.nonneg⟩, h'.before, h'.asked, h'.signed, h'.balance⟩
  | some e =>
    obtain ⟨id, c⟩ := e
    dsimp only
    split_ifs
    · exact (topup_prepared h (currentChannel_some hcurrent)).bind (fun _ h' => h') fun _ _ h' => h'
    · exact .refl h

theorem Prepared.pays (h : Prepared s s') : Pays start s s' :=
  ⟨h.before, fun _ hprice => h.asked ▸ hprice, fun id b hb => (h.signed id b hb).imp_right .inl⟩

/-- the transfer, after the channel has been prepared -/
theorem createTransfer_pays (h : Prepared s s') (hchannel : s'.channel = some id) (hprice : value ∈ s.asked)
    (hpositive : 0 < value) : Ensures (createTransfer id value) s' fun _ s'' => Sound s'' ∧ Pays s.balance s s'' := by
  unfold createTransfer
  rw [ensures_get_bind]
  cases hc : s'.channels.get? id with
  | none => exact ⟨h.sound, h.pays⟩
  | some c =>
    dsimp only
    split_ifs with hneg hcapacity
    · exact ⟨h.sound, h.pays⟩
    · exact ⟨h.sound, h.pays⟩
    · have hcovered : c.balance + value ≤ c.deposit := by
        unfold Channel.capacity at hcapacity
        omega
      have hstart : c.balance = s.balance id := by rw [← h.balance, balance_of_get hc]
      refine ⟨h.sound.sign (c := { c with balance := c.balance + value }) rfl (by simp) hcovered (h.sound.nonneg id c hc)
        (fun d hd => (Option.some.inj (hc.symm.trans hd)) ▸ le_rfl),
        ⟨h.before, fun _ hold => h.asked ▸ hold, fun k b hb => ?_⟩⟩
      rcases mem_append.1 hb with hb | hb
      · exact (h.signed k b hb).imp_right .inl
      · cases mem_singleton.1 hb
        refine .inr (.inr ⟨hchannel, ?_, value, h.asked ▸ hprice, hpositive, by rw [hstart]⟩)
        rw [balance_set rfl, Function.update_self]

theorem onPaymentRequested_pays (h : Sound s) {headers : Headers}
    (hfresh : ∀ receiver ∈ headers.receiverAddress, Fresh receiver answer s) :
    Ensures (onPaymentRequested env headers answer) s fun _ s' => Sound s' ∧ Pays s.balance s s' := by
  have hself : Pays s.balance s s := (Prepared.refl h).pays
  unfold onPaymentRequested
  split
  · rename_i receiver price hreceiver _
    split_ifs with hprice
    · exact ⟨h, hself⟩
    · -- the price has been asked, so that its payment is accounted for
      let s₁ : Session := { s with asked := s.asked ++ [price] }
      have hsound₁ : Sound s₁ := ⟨h.balances, h.deposits, h.nonneg⟩
      have hasked {s' : Session} (h' : Sound s' ∧ Pays s.balance s₁ s') : Sound s' ∧ Pays s.balance s s' :=
        ⟨h'.1, h'.2.before, fun p hp => h'.2.asked p (mem_append_left _ hp), h'.2.signed⟩
      refine Ensures.bind (Q := fun _ s' => s' = s₁) rfl (fun _ h' => h' ▸ hasked ⟨hsound₁, (Prepared.refl hsound₁).pays⟩) ?_
      rintro _ _ rfl
      refine (prepareChannel_prepared hsound₁ (hfresh receiver hreceiver)).bind (fun _ h' => hasked ⟨h'.sound, h'.pays⟩)
        fun _ s₂ h₂ => ?_
      rw [ensures_get_bind]
      cases hchannel : s₂.channel with
      | none => exact hasked ⟨h₂.sound, h₂.pays⟩
      | some id =>
        exact (createTransfer_pays h₂ hchannel (mem_append_right _ mem_cons_self) (not_le.1 hprice)).bind
          (fun _ h' => hasked h') fun _ _ h' => hasked h'
  · exact ⟨h, hself⟩

/-- a balance of the session's own channel is signed again -/
theorem updateBalance_sound (h : Sound s) (hc : s.channels.get? id = some c) (hvalue : (id, value) ∈ s.signed ∨ value = 0) :
    Sound { s with channels := s.channels.set id { c with balance := value }, signed := s.signed ++ [(id, value)] } := by
  have hcovered : value ≤ c.deposit := by
    rcases hvalue with hvalue | rfl
    · obtain ⟨d, hd, hle⟩ := h.deposits id value hvalue
      exact (Option.some.inj (hc.symm.trans hd)) ▸ hle
    · exact h.nonneg id c hc
  refine h.sign (c := { c with balance := value }) rfl (by simp) hcovered (h.nonneg id c hc) fun d hd => ?_
  exact (Option.some.inj (hc.symm.trans hd)) ▸ le_rfl

theorem Fresh.set (h : Fresh receiver answer s) (hc : s.channels.get? id = some c)
    (hchannels : s'.channels = s.channels.set id d) : Fresh receiver answer s' := by
  intro address haddress opened hopened
  have hnone := h address haddress opened hopened
  rw [hchannels, get?_set_ne]
  · exact hnone
  · rintro rfl
    rw [hc] at hnone
    cases hnone

/-- the payment after a balance has been adopted -/
theorem adopt_pays (h : Sound s) {headers : Headers} (hfresh : ∀ receiver ∈ headers.receiverAddress, Fresh receiver answer s)
    (hadopts : headers.adopts env) (hchannel : s.channel = some id) (hc : s.channels.get? id = some c)
    (hadopted : adopted env headers id = some value) (hvalue : (id, value) ∈ s.signed ∨ value = 0) :
    Ensures (do updateBalance id c value; onPaymentRequested env headers answer) s
      fun _ s' => Sound s' ∧ Pays (startBalance env headers s) s s' := by
  let s₁ : Session :=
    { s with channels := s.channels.set id { c with balance := value }, signed := s.signed ++ [(id, value)] }
  have hsound₁ : Sound s₁ := updateBalance_sound h hc hvalue
  have hfresh₁ : ∀ receiver ∈ headers.receiverAddress, Fresh receiver answer s₁ := fun receiver hreceiver =>
    (hfresh receiver hreceiver).set hc rfl
  have hstart : s₁.balance = startBalance env headers s := by
    funext k
    rw [balance_set (s := s) rfl, Function.update_apply, startBalance]
    by_cases hk : k = id
    · subst hk
      rw [if_pos rfl, if_pos ⟨hadopts, hchannel, by rw [hc]; rfl⟩, hadopted]
      rfl
    · rw [if_neg hk, if_neg fun hid => hk (Option.some.inj (hid.2.1.symm.trans hchannel))]
  have hpays {s' : Session} (h' : Sound s' ∧ Pays s₁.balance s₁ s') : Sound s' ∧ Pays (startBalance env headers s) s s' := by
    refine ⟨h'.1, h'.2.before, h'.2.asked, fun k b hb => ?_⟩
    rcases hstart ▸ h'.2.signed k b hb with hb | hb
    · rcases mem_append.1 hb with hb | hb
      · exact .inl hb
      · cases mem_singleton.1 hb
        exact hvalue.imp_right .inl
    · exact .inr hb
  refine Ensures.bind (Q := fun _ s' => s' = s₁) rfl
    (fun _ h' => h' ▸ hpays ⟨hsound₁, (Prepared.refl hsound₁).pays⟩) ?_
  rintro _ _ rfl
  have hrequested : Ensures (onPaymentRequested env headers answer) s₁ _ := onPaymentRequested_pays hsound₁ hfresh₁
  unfold Ensures at hrequested ⊢
  split at hrequested <;> exact hpays hrequested

theorem onInvalidAmount_pays (h : Sound s) {headers : Headers}
    (hfresh : ∀ receiver ∈ headers.receiverAddress, Fresh receiver answer s) (hunforged : Unforged env s headers)
    (hadopts : headers.adopts env) : Ensures (onInvalidAmount env headers answer) s
      fun _ s' => Sound s' ∧ Pays (startBalance env headers s) s s' := by
  have hself : Sound s ∧ Pays (startBalance env headers s) s s := ⟨h, (Prepared.refl h).pays⟩
  unfold onInvalidAmount
  rw [ensures_get_bind]
  split
  · exact hself
  · exact hself
  · rename_i lastBalance id c hbalance hsession
    obtain ⟨id', hchannel, hid⟩ := Option.bind_eq_some_iff.1 hsession
    obtain ⟨c', hc, heq⟩ := Option.map_eq_some_iff.1 hid
    cases heq
    have hadopted (valid : Bool) (hverified : verified env id lastBalance headers.balanceSignature = some valid) :
        adopted env headers id = some (if valid then lastBalance else 0) := by
      simp [adopted, hbalance, hverified]
    cases hverified : verified env id lastBalance headers.balanceSignature with
    | none => exact hself
    | some valid =>
      cases valid with
      | false => exact adopt_pays h hfresh hadopts hchannel hc (hadopted false hverified) (.inr rfl)
      | true =>
        dsimp only
        split_ifs
        · exact hself
        · refine adopt_pays h hfresh hadopts hchannel hc (hadopted true hverified) (.inl ?_)
          unfold verified at hverified
          split at hverified
          · cases hverified
          · rename_i signature hsignature
            obtain ⟨signer, hsigner, hsame⟩ := Option.map_eq_some_iff.1 hverified
            rw [of_decide_eq_true hsame] at hsigner
            exact hunforged id hchannel lastBalance hbalance signature hsignature hsigner

/-- what the chain and the cryptography guarantee for a reply -/
def Honest (env : Env) (s : Session) : Input → Prop
  | .reply (.paymentRequired headers) answer =>
    (∀ receiver ∈ headers.receiverAddress, Fresh receiver answer s) ∧ Unforged env s headers
  | _ => True

/-- **One reply.** -/
theorem respond_pays (h : Sound s) {headers : Headers} (hhonest : Honest env s (.reply (.paymentRequired headers) answer)) :
    Ensures (respond env answer (.paymentRequired headers)) s
      fun _ s' => Sound s' ∧ Pays (startBalance env headers s) s s' := by
  have hself : Sound s ∧ Pays (startBalance env headers s) s s := ⟨h, (Prepared.refl h).pays⟩
  unfold respond
  dsimp only
  split_ifs with hretry haddress hamount
  · exact hself
  · exact hself
  · exact onInvalidAmount_pays h hhonest.1 hhonest.2 ⟨hretry, not_not.1 haddress, hamount⟩
  · have hstart : startBalance env headers s = s.balance := funext fun _ => if_neg fun hadopts => hamount hadopts.1.2.2
    rw [hstart]
    exact onPaymentRequested_pays h hhonest.1

theorem step_pays (h : Sound s) {headers : Headers} (hhonest : Honest env s (.reply (.paymentRequired headers) answer))
    (hrunning : s.finished = false) : Sound (step env s (.reply (.paymentRequired headers) answer)) ∧
      Pays (startBalance env headers s) s (step env s (.reply (.paymentRequired headers) answer)) := by
  have hrespond := respond_pays h hhonest
  have hfinish (s' : Session) (finished : Bool) (h' : Sound s' ∧ Pays (startBalance env headers s) s s') :
      Sound { s' with finished := finished } ∧ Pays (startBalance env headers s) s { s' with finished := finished } :=
    ⟨⟨h'.1.balances, h'.1.deposits, h'.1.nonneg⟩, ⟨h'.2.before, h'.2.asked, h'.2.signed⟩⟩
  unfold Ensures at hrespond
  rw [step, hrunning, if_neg Bool.false_ne_true]
  split at hrespond <;> rename_i hrun <;> rw [hrun] <;> exact hfinish _ _ hrespond

theorem step_sound {i : Input} (h : Sound s) (hhonest : Honest env s i) : Sound (step env s i) := by
  have hsame {s' : Session} (hchannels : s'.channels = s.channels) (hsigned : s'.signed = s.signed) : Sound s' := by
    obtain ⟨hbalances, hdeposits, hnonneg⟩ := h
    rw [← hchannels, ← hsigned] at *
    exact ⟨hbalances, hdeposits, hnonneg⟩
  cases i with
  | request => exact hsame rfl rfl
  | reply response answer =>
    by_cases hfinished : s.finished = true
    · rw [step, if_pos hfinished]
      exact h
    · cases response with
      | ok | error =>
        rw [step, if_neg hfinished]
        exact hsame rfl rfl
      | paymentRequired headers => exact (step_pays h hhonest (Bool.eq_false_iff.2 hfinished)).1

end Steps

/-! ## Runs -/

/-- the highest balance of a channel in a ledger -/
def highest (ledger : List (ChannelId × ℤ)) (id : ChannelId) : ℤ :=
  ((ledger.filter fun e => e.1 = id).map Prod.snd).foldr max 0

def largest (prices : List ℤ) : ℤ := prices.foldr max 0

theorem le_largest {prices : List ℤ} {price : ℤ} (h : price ∈ prices) : price ≤ largest prices := le_foldr_max h

theorem le_highest {ledger : List (ChannelId × ℤ)} {id : ChannelId} {b : ℤ} (h : (id, b) ∈ ledger) : b ≤ highest ledger id :=
  le_foldr_max (mem_map.2 ⟨(id, b), mem_filter.2 ⟨h, by simp⟩, rfl⟩)

theorem foldr_max_nonneg (l : List ℤ) : 0 ≤ l.foldr max 0 := by
  induction l with
  | nil => exact le_rfl
  | cons a l ih => exact le_max_of_le_right ih

theorem new_sound (deposits : Dict ChannelId ℕ) : Sound (Session.new deposits) := by
  have hkeys : ((deposits.entries.map fun e => (e.1, (⟨(e.2 : ℤ), 0, .opened⟩ : Channel))).map Prod.fst).Nodup := by
    rw [map_map]
    exact deposits.nodup
  have hget (id : ChannelId) (c : Channel) : (Session.new deposits).channels.get? id = some c ↔
      ∃ deposit, (id, deposit) ∈ deposits.entries ∧ c = ⟨deposit, 0, .opened⟩ := by
    unfold Session.new
    dsimp only
    rw [get?_ofList hkeys, mem_map]
    constructor
    · rintro ⟨e, he, heq⟩
      cases heq
      exact ⟨e.2, he, rfl⟩
    · rintro ⟨deposit, hmem, rfl⟩
      exact ⟨_, hmem, rfl⟩
  have hsigned (id : ChannelId) (b : ℤ) : (id, b) ∈ (Session.new deposits).signed ↔
      (∃ deposit, (id, deposit) ∈ deposits.entries) ∧ b = 0 := by
    unfold Session.new
    dsimp only
    rw [mem_map]
    constructor
    · rintro ⟨k, hk, heq⟩
      cases heq
      obtain ⟨e, he, rfl⟩ := mem_map.1 hk
      exact ⟨⟨e.2, he⟩, rfl⟩
    · rintro ⟨⟨deposit, hmem⟩, rfl⟩
      exact ⟨id, mem_map.2 ⟨_, hmem, rfl⟩, rfl⟩
  refine ⟨fun id c hc => ?_, fun id b hb => ?_, fun id c hc => ?_⟩
  · obtain ⟨deposit, hmem, rfl⟩ := (hget id c).1 hc
    exact (hsigned id 0).2 ⟨⟨deposit, hmem⟩, rfl⟩
  · obtain ⟨⟨deposit, hmem⟩, rfl⟩ := (hsigned id b).1 hb
    exact ⟨_, (hget id _).2 ⟨deposit, hmem, rfl⟩, Int.natCast_nonneg deposit⟩
  · obtain ⟨deposit, -, rfl⟩ := (hget id c).1 hc
    exact Int.natCast_nonneg deposit

/-- a reply that raises the balance of the session's channel raises it from one that is not above those signed before the
call -/
def Cautious (s : Session) (i : Input) : Prop :=
  match i with
  | .reply (.paymentRequired headers) _ => s.finished = false → ∀ id ∈ (step env s i).channel,
    (step env s i).balance id ≠ startBalance env headers s id → startBalance env headers s id ≤ highest s.before id
  | _ => True

instance (env : Env) (s : Session) (i : Input) : Decidable (Cautious env s i) := by
  unfold Cautious
  split <;> infer_instance

/-- the call has raised no balance by more than the largest price asked -/
def Bounded (s : Session) : Prop := ∀ id b, (id, b) ∈ s.signed → b ≤ highest s.before id + largest s.asked

theorem request_bounded (env : Env) (s : Session) : Bounded (step env s .request) := fun id b hb => by
  have hle : b ≤ highest s.signed id := le_highest hb
  simpa [step, largest] using hle

theorem step_bounded {env : Env} {s : Session} {i : Input} (hsound : Sound s) (h : Bounded s) (hhonest : Honest env s i)
    (hcautious : Cautious env s i) : Bounded (step env s i) := by
  cases i with
  | request => exact request_bounded env s
  | reply response answer =>
    by_cases hfinished : s.finished = true
    · rw [step, if_pos hfinished]
      exact h
    · cases response with
      | ok | error =>
        rw [step, if_neg hfinished]
        exact h
      | paymentRequired headers =>
        have hrunning := Bool.eq_false_iff.2 hfinished
        have hpays := (step_pays hsound hhonest hrunning).2
        have hcautious' := hcautious hrunning
        generalize step env s (.reply (.paymentRequired headers) answer) = s' at hpays hcautious'
        have hlargest : largest s.asked ≤ largest s'.asked :=
          foldr_max_le (foldr_max_nonneg _) fun price hprice => le_largest (hpays.asked price hprice)
        intro id b hb
        rw [hpays.before]
        rcases hpays.signed id b hb with hb | rfl | ⟨hchannel, hbalance, price, hprice, hpositive, rfl⟩
        · have := h id b hb
          omega
        · exact add_nonneg (foldr_max_nonneg _) (foldr_max_nonneg _)
        · have hstart := hcautious' id hchannel (by omega)
          have := le_largest hprice
          omega

/-- **One price per call.** A client starts a call, in any sound state, and any replies and further calls follow. No signed
balance exceeds the deposit of its channel. If every reply of the last call that is paid is paid from a balance that is not
above those signed before the call, the call has raised the highest signed balance of every channel by at most the largest
price asked. -/
theorem one_price_per_call (env : Env) {s₀ s : Session} (hsound : Sound s₀) {is : List Input}
    (hhonest : Along (step env) (Honest env) s₀ (.request :: is)) (hs : s = runFrom (step env) s₀ (.request :: is)) :
    (∀ id b, (id, b) ∈ s.signed → ∃ c, s.channels.get? id = some c ∧ b ≤ c.deposit) ∧
      ∀ calls replies, .request :: is = calls ++ .request :: replies →
        Along (step env) (Cautious env) (step env (runFrom (step env) s₀ calls) .request) replies →
          ∀ id, highest s.signed id ≤ highest s.before id + largest s.asked := by
  have hrun {s : Session} {is : List Input} (h : Sound s) (hhonest : Along (step env) (Honest env) s is) :
      Sound (runFrom (step env) s is) := run_invariant (step env) (fun _ _ h hi => step_sound h hi) h hhonest
  subst hs
  refine ⟨(hrun hsound hhonest).deposits, fun calls replies hsplit hcautious id => ?_⟩
  rw [hsplit] at hhonest ⊢
  obtain ⟨hcalls, -, hreplies⟩ := (along_append _).1 hhonest
  rw [runFrom_append]
  change highest (runFrom (step env) (step env (runFrom (step env) s₀ calls) .request) replies).signed id ≤ _
  set s₁ := step env (runFrom (step env) s₀ calls) .request
  have hstart : Sound s₁ ∧ Bounded s₁ := ⟨step_sound (hrun hsound hcalls) trivial, request_bounded env _⟩
  have hbounded := (run_invariant (step env) (P := fun s => Sound s ∧ Bounded s)
    (fun s i h hi => ⟨step_sound h.1 hi.1, step_bounded h.1 h.2 hi.1 hi.2⟩) hstart
    ((along_and _).2 ⟨hreplies, hcautious⟩)).2
  refine foldr_max_le (add_nonneg (foldr_max_nonneg _) (foldr_max_nonneg _)) fun b hb => ?_
  obtain ⟨⟨id', b⟩, he, rfl⟩ := mem_map.1 hb
  obtain ⟨hmem, hid⟩ := mem_filter.1 he
  obtain rfl : id' = id := of_decide_eq_true hid
  exact hbounded id' b hmem

/-- the client 3 recovers its own proofs over 0 only -/
def payer : Env :=
  ⟨3, 9, fun price => 10 * price, fun price => 5 * price, fun _ balance _ => if balance = 0 then some 3 else none⟩

/-- a reply of the receiver 4 that asks for a price -/
def ask (price : ℤ) : Input :=
  .reply (.paymentRequired ⟨false, false, false, some 9, false, none, none, some (some 4), some price⟩) ⟨true, none⟩

/-- a channel to the receiver 4 with a deposit of 10 -/
def deposits : Dict ChannelId ℕ := empty.set (4, 7) 10

theorem honest_ask (s : Session) (price : ℤ) : Honest payer s (ask price) :=
  ⟨fun _ _ _ _ _ h => (by cases h), fun _ _ _ h => (by cases h)⟩

/-- the session after a call with these replies -/
def afterCall (replies : List Input) : Session := runFrom (step payer) (Session.new deposits) (.request :: replies)

/-- one payment of 2, and the resource -/
theorem one_price_per_call_of_delivery :
    Along (step payer) (Cautious payer) (step payer (Session.new deposits) .request) [ask 2, .reply .ok ⟨true, none⟩] ∧
    ∀ id, highest (afterCall [ask 2, .reply .ok ⟨true, none⟩]).signed id ≤
      highest (afterCall [ask 2, .reply .ok ⟨true, none⟩]).before id +
        largest (afterCall [ask 2, .reply .ok ⟨true, none⟩]).asked := by
  have hcautious : Along (step payer) (Cautious payer) (step payer (Session.new deposits) .request)
      [ask 2, .reply .ok ⟨true, none⟩] := by decide +kernel
  have hhonest : Along (step payer) (Honest payer) (Session.new deposits) [.request, ask 2, .reply .ok ⟨true, none⟩] :=
    ⟨trivial, honest_ask _ 2, trivial, trivial⟩
  exact ⟨hcautious, (one_price_per_call payer (new_sound deposits) hhonest rfl).2 [] _ rfl hcautious⟩

/-- A server that asks for the price 2 three times in one call and delivers nothing gets a proof over 6. -/
theorem repeated_requests_drain_channel : Sound (Session.new deposits) ∧
    Along (step payer) (Honest payer) (Session.new deposits) [.request, ask 2, ask 2, ask 2] ∧
      highest (afterCall [ask 2, ask 2, ask 2]).before (4, 7) = 0 ∧ largest (afterCall [ask 2, ask 2, ask 2]).asked = 2 ∧
      highest (afterCall [ask 2, ask 2, ask 2]).signed (4, 7) = 6 :=
  ⟨new_sound deposits, ⟨trivial, honest_ask _ 2, honest_ask _ 2, honest_ask _ 2, trivial⟩, by decide +kernel, by decide +kernel,
    by decide +kernel⟩

end Gatecoin.Micro.Payer
