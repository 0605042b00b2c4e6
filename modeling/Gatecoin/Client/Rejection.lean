/-
Messages that are rejected.

A handler of the channel answers a message with `SendProcessed` or a withdraw confirmation, or rejects it with an event that
says why. The states are changed in place. A handler that changes a state before its last check leaves the change behind
when the check fails. There are two such places:

- A withdraw request is stored, with its nonce, before it is compared with the balances of a cooperative settle.
- The initiator hands a refund to the channel before it compares the refund with the transfer that it returns. If they
  differ, the refund stays in the channel and nothing is answered.

Results:
- `message_cases`: what a handler of the channel can do with a message.
- `rejected_unchanged_iff`: a rejected message leaves the channels unchanged if and only if it is in neither place.
- `rejected_changes_channel`: one run for each place.
-/
import Gatecoin.Client.NodeChannels
import Gatecoin.Client.Nonces
import Gatecoin.Client.OneSecret

namespace Gatecoin.Client

open Gatecoin.Core

/-! ## Answers -/

/-- the events that report a message of the partner as invalid -/
def Event.isInvalidReceived : Event → Bool
  | .eventInvalidReceivedWithdrawRequest _ _ => true
  | .eventInvalidReceivedWithdraw _ _ => true
  | .eventInvalidReceivedWithdrawExpired _ _ => true
  | .eventInvalidReceivedLockedTransfer _ _ => true
  | .eventInvalidReceivedTransferRefund _ _ => true
  | .eventInvalidReceivedLockExpired _ _ => true
  | .eventInvalidReceivedUnlock _ _ => true
  | _ => false

/-- the messages that tell the partner that its message was accepted -/
def Event.isAnswer : Event → Bool
  | .sendProcessed _ _ => true
  | .sendWithdrawConfirmation _ _ _ _ _ _ _ => true
  | _ => false

/-- a message is reported as invalid, or not answered -/
def Rejected (events : List Event) : Prop := events.any Event.isInvalidReceived = true ∨ events.any Event.isAnswer = false

instance (events : List Event) : Decidable (Rejected events) := inferInstanceAs (Decidable (_ ∨ _))

/-- the operations that handle a message of the partner -/
def ChannelOp.isMessage : ChannelOp → Bool
  | .transition (.receiveWithdrawRequest _) => true
  | .transition (.receiveWithdrawConfirmation _) => true
  | .transition (.receiveWithdrawExpired _) => true
  | .receiveLockedtransfer _ => true
  | .refundtransfer _ _ => true
  | .receiveLockExpired _ => true
  | .unlock _ => true
  | _ => false

/-- a withdraw request that is stored, and then refused as part of a cooperative settle -/
def storedThenRefused (env : Env) (c : NettingChannelState) : ChannelOp → Bool
  | .transition (.receiveWithdrawRequest r) =>
    decide (isValidWithdrawRequest env c r = .ok (.ok ())) && (c.ourState.initiatedCoopSettle.isSome || r.coopSettle) &&
      (coopSettleRefusal (storeWithdrawRequest c r) r).isSome
  | _ => false

/-! ## The channel -/

section Channel

variable {env : Env} {c c' : NettingChannelState} {o : Option NettingChannelState} {blockNumber : ℕ} {blockHash : Bytes}
  {events : List Event} {r : ReceiveWithdrawRequest} {op : ChannelOp}

theorem not_rejected (hinvalid : events.any Event.isInvalidReceived = false) (hanswer : events.any Event.isAnswer = true) :
    ¬ Rejected events := by
  rintro (h | h)
  · rw [hinvalid] at h
    cases h
  · rw [hanswer] at h
    cases h

/-- what a handler does with a message: it answers it, or reports it and leaves the channel alone -/
def AnsweredOrKept (c : NettingChannelState) (newState : Option NettingChannelState) (events : List Event) : Prop :=
  ¬ Rejected events ∨ newState = some c

theorem confirmWithdraw_answers (h : events.any Event.isInvalidReceived = false) :
    ¬ Rejected (confirmWithdraw c r events).2 := by
  refine not_rejected ?_ ?_
  · simp [confirmWithdraw, h, Event.isInvalidReceived]
  · simp [confirmWithdraw, Event.isAnswer]

theorem sendWithdrawRequest_valid (c : NettingChannelState) (total : ℤ) (expiration : ℕ) (coopSettle : Bool) :
    (sendWithdrawRequest c total expiration coopSettle).2.any Event.isInvalidReceived = false := by
  unfold sendWithdrawRequest
  split_ifs <;> rfl

theorem CoopSettleMove.valid {s : CoopSettleState} (h : CoopSettleMove c s blockNumber blockHash c' events) :
    events.any Event.isInvalidReceived = false := by
  cases h <;> rfl

/-- the nonce of a stored request is a new one -/
theorem storeWithdrawRequest_ne (hvalid : isValidWithdrawRequest env c r = .ok (.ok ())) : storeWithdrawRequest c r ≠ c := by
  have hchecks := (isValidWithdrawRequest_ok_iff.1 hvalid).1
  unfold withdrawRequestError at hchecks
  dsimp only at hchecks
  split_ifs at hchecks with h1 h2 h3 h4 h5 h6
  intro heq
  have hnonce : r.nonce = c.partnerState.nonce := congrArg (fun x => x.partnerState.nonce) heq
  rw [not_not.1 h6] at hnonce
  exact Nat.succ_ne_self _ hnonce

theorem storedThenRefused_false (h : op.isWithdrawRequest = false) : storedThenRefused env c op = false := by
  unfold storedThenRefused
  split
  · cases h
  · rfl

/-- **What the channel does with a message.** It answers it or leaves the channel unchanged, unless a withdraw request is
stored and then refused: that one is reported and changes the channel. -/
theorem message_cases (hm : op.isMessage = true) (h : applyOp env c blockNumber blockHash op = .ok (o, events)) :
    (storedThenRefused env c op = false ∧ AnsweredOrKept c o events) ∨
      (storedThenRefused env c op = true ∧ Rejected events ∧ o ≠ some c) := by
  cases applyOp_move h with
  | idle hop | reported hop => exact .inl ⟨storedThenRefused_false hop, .inr rfl⟩
  | requestInvalid hvalid =>
    exact .inl ⟨by simp [storedThenRefused, hvalid], .inr rfl⟩
  | requestRefused hvalid hcoop hrefusal =>
    refine .inr ⟨?_, .inl rfl, fun heq => storeWithdrawRequest_ne hvalid (Option.some.inj heq)⟩
    simpa [storedThenRefused, hvalid, hrefusal, Except.isOk, Except.toBool] using hcoop
  | requestAnswers _ _ hrefusal hsettle =>
    exact .inl ⟨by simp [storedThenRefused, hrefusal], .inl (confirmWithdraw_answers hsettle.valid)⟩
  | requestJoined _ _ _ hrefusal =>
    refine .inl ⟨by simp [storedThenRefused, hrefusal], .inl (confirmWithdraw_answers ?_)⟩
    rw [List.any_append, sendWithdrawRequest_valid]
    rfl
  | requestConfirmed _ hcoop hown =>
    exact .inl ⟨by simp [storedThenRefused, hcoop, hown], .inl (confirmWithdraw_answers rfl)⟩
  | coopSettleConfirmed _ _ hsettle =>
    refine .inl ⟨rfl, .inl (not_rejected ?_ rfl)⟩
    rw [List.any_cons, hsettle.valid]
    rfl
  | confirmed | withdrawConfirmed | withdrawDropped | lockReceived | refundReceived | lockExpired | unlockReceived =>
    exact .inl ⟨rfl, .inl (not_rejected rfl rfl)⟩
  | _ => cases hm

end Channel

/-! ## The reroute of the initiator -/

section Reroute

variable {env : Env} {c : NettingChannelState} {p : InitiatorPaymentState} {t : LockedTransferSigned} {secret : Bytes}
  {nets : Networks} {tokenNetworkAddress : Address} {blockNumber : ℕ} {it : InitiatorManager.Iteration}

/-- a refund that the channel accepts and that does not match the transfer it returns -/
def acceptedThenRefused (env : Env) (p : InitiatorPaymentState) (t : LockedTransferSigned) (nets : Networks)
    (tokenNetworkAddress : Address) : Bool :=
  match p.initiatorTransfers.get? t.lock.secrethash with
  | none => false
  | some original =>
    match nets.channel tokenNetworkAddress original.channelIdentifier with
    | none => false
    | some c => (handleReceiveLockedtransfer env c t).isValid && !refundTransferMatchesTransfer t original.transfer

/-- a refund that matches the transfer has its lock -/
theorem lock_of_matches {original : LockedTransferUnsigned} (h : refundTransferMatchesTransfer t original = true) :
    t.lock.secrethash = original.lock.secrethash ∧ t.lock.amount = original.lock.amount ∧
      t.lock.expiration = original.lock.expiration := by
  simp only [refundTransferMatchesTransfer, Bool.and_eq_true, decide_eq_true_eq] at h
  exact ⟨h.1.1.1.2.symm, h.1.1.1.1.2.symm, h.1.2.symm⟩

/-- an accepted transfer has a new nonce -/
theorem handleReceiveLockedtransfer_ne (h : (handleReceiveLockedtransfer env c t).isValid = true) :
    (handleReceiveLockedtransfer env c t).channel ≠ c := by
  unfold handleReceiveLockedtransfer at h ⊢
  cases hvalid : isValidLockedtransfer env t c c.partnerState c.ourState with
  | error msg =>
    rw [hvalid] at h
    cases h
  | ok locks =>
    have hnonce : t.balanceProof.nonce = c.partnerState.nonce + 1 := (usable_ok (validLockedtransferCheck_ok hvalid).1).2.1
    intro heq
    have hsame : t.balanceProof.nonce = c.partnerState.nonce := congrArg (fun x => x.partnerState.nonce) heq
    omega

theorem tryNewRoute_valid {candidates : List RouteState} {d : TransferDescriptionWithSecret}
    {new : Option InitiatorTransferState} {nets' : Networks} {events : List Event}
    (h : Initiator.tryNewRoute env nets candidates d blockNumber = .ok (new, nets', events)) :
    events.any Event.isInvalidReceived = false := by
  simp only [Initiator.tryNewRoute] at h
  split at h
  · cases h
    rfl
  · simp only [do_ok, Prod.exists, Prod.mk.injEq] at h
    obtain ⟨c1, transfer, -, -, -, rfl⟩ := h
    rfl

/-- **What the initiator does with a refund.** It answers it or leaves the channels unchanged, unless the channel accepts a
refund that does not match: that one is not answered and changes the channel. -/
theorem reroute_cases
    (h : InitiatorManager.handleTransferreroute env p t secret nets tokenNetworkAddress blockNumber = .ok it) :
    (acceptedThenRefused env p t nets tokenNetworkAddress = false ∧
      (¬ Rejected it.events ∨ ∀ tn id, it.networks.channel tn id = nets.channel tn id)) ∨
    (acceptedThenRefused env p t nets tokenNetworkAddress = true ∧ Rejected it.events ∧
      ¬ ∀ tn id, it.networks.channel tn id = nets.channel tn id) := by
  unfold InitiatorManager.handleTransferreroute at h
  unfold acceptedThenRefused
  cases horiginal : p.initiatorTransfers.get? t.lock.secrethash with
  | none =>
    rw [horiginal] at h
    cases h
    exact .inl ⟨rfl, .inr fun _ _ => rfl⟩
  | some original =>
    rw [horiginal] at h
    dsimp only at h ⊢
    cases hc : nets.channel tokenNetworkAddress original.channelIdentifier with
    | none =>
      rw [hc] at h
      cases h
      exact .inl ⟨rfl, .inr fun _ _ => rfl⟩
    | some c =>
      rw [hc] at h
      dsimp only at h ⊢
      cases hvalid : (handleReceiveLockedtransfer env c t).isValid with
      | false =>
        rw [if_pos (.inr (.inr hvalid))] at h
        cases h
        refine .inl ⟨rfl, .inr fun tn id => ?_⟩
        -- the channel that is put back is the one that was there
        have hkept : (handleReceiveLockedtransfer env c t).channel = c := by
          unfold handleReceiveLockedtransfer at hvalid ⊢
          split at hvalid
          · rfl
          · cases hvalid
        rw [hkept, Networks.channel_setChannel hc]
        split_ifs with heq
        · rw [heq.1, heq.2, hc]
        · rfl
      | true =>
        cases hmatch : refundTransferMatchesTransfer t original.transfer with
        | false =>
          rw [if_pos (.inr (.inl hmatch))] at h
          cases h
          refine .inr ⟨rfl, .inr rfl, fun hsame => ?_⟩
          have hput := hsame tokenNetworkAddress original.channelIdentifier
          rw [Networks.channel_setChannel_self hc, hc] at hput
          exact handleReceiveLockedtransfer_ne hvalid (Option.some.inj hput)
        | true =>
          have hlock := lock_of_matches hmatch
          rw [if_neg (by simp [hlock, hmatch, hvalid])] at h
          simp only [bind_ok, Prod.exists] at h
          obtain ⟨new, nets', events, hroute, h⟩ := h
          refine .inl ⟨rfl, .inl ?_⟩
          have hevents : it.events = (handleReceiveLockedtransfer env c t).events ++ events := by
            cases new <;> cases h <;> rfl
          have hanswer : (handleReceiveLockedtransfer env c t).events.any Event.isAnswer = true ∧
              (handleReceiveLockedtransfer env c t).events.any Event.isInvalidReceived = false := by
            unfold handleReceiveLockedtransfer at hvalid ⊢
            split at hvalid
            · cases hvalid
            · exact ⟨rfl, rfl⟩
          rw [hevents]
          refine not_rejected ?_ ?_
          · rw [List.any_append, hanswer.2, tryNewRoute_valid hroute]
            rfl
          · rw [List.any_append, hanswer.1]
            rfl

end Reroute

/-! ## Rejected messages -/

/-- **Rejected messages.** For every state and message: if the channel rejects the message, it is unchanged, if and only if
the message is no withdraw request that was stored before it was refused; and if the initiator does not answer a refund,
all channels are unchanged, if and only if the refund was not accepted by the channel before it was refused. -/
theorem rejected_unchanged_iff (env : Env) :
    (∀ c blockNumber blockHash op newState events, op.isMessage = true →
      applyOp env c blockNumber blockHash op = .ok (newState, events) →
      ((Rejected events → newState = some c) ↔ storedThenRefused env c op = false)) ∧
    (∀ p t secret nets tokenNetworkAddress blockNumber it,
      InitiatorManager.handleTransferreroute env p t secret nets tokenNetworkAddress blockNumber = .ok it →
      ((Rejected it.events → ∀ tn id, it.networks.channel tn id = nets.channel tn id) ↔
        acceptedThenRefused env p t nets tokenNetworkAddress = false)) := by
  constructor
  · intro c blockNumber blockHash op newState events hm h
    rcases message_cases hm h with ⟨hstored, hkept⟩ | ⟨hstored, hrejected, hne⟩
    · refine iff_of_true (fun hrejected => ?_) hstored
      exact hkept.resolve_left (not_not.2 hrejected)
    · refine iff_of_false (fun hall => hne (hall hrejected)) ?_
      rw [hstored]
      decide
  · intro p t secret nets tokenNetworkAddress blockNumber it h
    rcases reroute_cases h with ⟨haccepted, hkept⟩ | ⟨haccepted, hrejected, hne⟩
    · refine iff_of_true (fun hrejected => ?_) haccepted
      exact hkept.resolve_left (not_not.2 hrejected)
    · refine iff_of_false (fun hall => hne (hall hrejected)) ?_
      rw [haccepted]
      decide

/-- a transfer of 10 tokens in a channel without deposits is rejected and changes nothing -/
theorem rejected_unchanged_unfunded :
    let c := newChannel sampleEnv sampleDetails
    let handled := handleReceiveLockedtransfer sampleEnv c (partnerTransfer lockOfTen (partnerProof 1 0 10 [lockOfTen]))
    Rejected handled.events ∧ some handled.channel = some c :=
  have hrejected : Rejected (handleReceiveLockedtransfer sampleEnv (newChannel sampleEnv sampleDetails)
    (partnerTransfer lockOfTen (partnerProof 1 0 10 [lockOfTen]))).events := by decide +kernel
  ⟨hrejected, ((rejected_unchanged_iff sampleEnv).1 (newChannel sampleEnv sampleDetails) 1 []
    (.receiveLockedtransfer (partnerTransfer lockOfTen (partnerProof 1 0 10 [lockOfTen]))) _ _ rfl rfl).2 rfl hrejected⟩

/-- a request of half the partner's balance, with which it initiates a cooperative settle -/
def halfCoopSettle : ChannelOp :=
  .transition (.receiveWithdrawRequest ⟨2, 1, sampleDetails.canonicalIdentifier, 5, 1, 100, [2], 2, true⟩)

/-- a refund of half the transfer -/
def halfRefund : LockedTransferSigned :=
  let lock : HashTimeLock := ⟨5, 109, secretOne, five_le_uint256Max, sampleRefund.lock.expiration_le, sampleRefund.lock.size⟩
  ⟨1, 4, lock, 1, 7, 1, [], partnerProof 1 0 5 [lock], none⟩

/-- the nonce that is stored for the partner of a channel -/
def partnerNonce (c : Option NettingChannelState) : Option ℕ := c.map fun c => c.partnerState.nonce

/-- The partner's nonce moves although the message is rejected: where withdraws are packed, a withdraw request that is
reported as invalid, and a refund that is not answered. -/
theorem rejected_changes_channel : sampleEnv.PacksWithdraws ∧
    (let s := runFrom (nodeStep sampleEnv) sampleStart [sampleDeposit 1 10, sampleDeposit 2 10]
    let s' := nodeStep sampleEnv s halfCoopSettle
    Rejected s'.sent ∧ partnerNonce s.channel = some 0 ∧ partnerNonce s'.channel = some 1) ∧
    (let s := runFrom (paymentStep shippedEnv) samplePayment
      (handleMessageRefundtransfer samplePayment.node halfRefund secretTwo)
    Rejected s.sent ∧ partnerNonce (samplePayment.node.networks.channel 3 5) = some 0 ∧
      partnerNonce (s.node.networks.channel 3 5) = some 1) :=
  ⟨sampleEnv_packs, by decide +kernel⟩

end Gatecoin.Client
