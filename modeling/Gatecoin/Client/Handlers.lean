/-
What an operation on a channel does besides its effect on the ends.

- The identity of the channel stays.
- A channel sends messages and transactions about itself; what concerns a payment comes from the payment machines
  (`Event.ofChannel`). A close is sent for the user, a settlement after its timeout, an update when the partner has closed
  the channel, an unlock when it has been settled, and a withdraw or a cooperative settlement when the partner's
  signatures have arrived.
- The messages are numbered from the nonce of our end on, which is left at the last number. There is one exception: a
  node that joins a cooperative settle of its partner sends its withdraw request twice, since the handler extends its list
  of events by itself.
- Only closes, settlements, updates and blocks touch the transactions that end the channel, and only a settlement and an
  unlock remove it.

`Does` says all of this of one move, and `op_does` of every operation.
-/
import Gatecoin.Client.Effects

namespace Gatecoin.Client

open Gatecoin.Core List

/-! ## Nonces -/

/-- the balance proof that a message of this node carries -/
def Event.ownProof? : Event → Option BalanceProof
  | .sendLockedTransfer _ _ transfer => some transfer.balanceProof
  | .sendUnlock _ _ _ _ _ balanceProof => some balanceProof
  | .sendLockExpired _ _ balanceProof _ => some balanceProof
  | _ => none

/-- the nonce of a message of this node -/
def Event.nonce? : Event → Option ℕ
  | .sendWithdrawRequest _ _ _ _ nonce _ _ => some nonce
  | .sendWithdrawConfirmation _ _ _ _ _ nonce _ => some nonce
  | .sendWithdrawExpired _ _ _ _ nonce _ => some nonce
  | e => e.ownProof?.map BalanceProof.nonce

def nonces (events : List Event) : List ℕ := events.filterMap Event.nonce?

@[simp] theorem nonces_append (xs ys : List Event) : nonces (xs ++ ys) = nonces xs ++ nonces ys := filterMap_append

/-- the messages are numbered from the nonce of our end on, and the last number is its new nonce -/
def Counts (c : NettingChannelState) (newState : Option NettingChannelState) (events : List Event) : Prop :=
  ∃ n, nonces events = range' (c.ourState.nonce + 1) n ∧ ∀ c' ∈ newState, c'.ourState.nonce = c.ourState.nonce + n

/-- the request is accepted and starts a cooperative settle that this node takes part in -/
def joinsCoopSettle (env : Env) (c : NettingChannelState) : ChannelOp → Bool
  | .transition (.receiveWithdrawRequest r) =>
    r.coopSettle && c.ourState.initiatedCoopSettle.isNone && (getStatus c).priorToClosed &&
      decide (isValidWithdrawRequest env c r = .ok (.ok ())) && (coopSettleRefusal (storeWithdrawRequest c r) r).isNone
  | _ => false

/-! ## Transactions -/

inductive TransactionKind where
  | close
  | settle
  | update
  | batchUnlock
  | withdraw
  | coopSettle
deriving DecidableEq

def Event.transaction? : Event → Option TransactionKind
  | .contractSendChannelClose .. => some .close
  | .contractSendChannelSettle .. => some .settle
  | .contractSendChannelUpdateTransfer .. => some .update
  | .contractSendChannelBatchUnlock .. => some .batchUnlock
  | .contractSendChannelWithdraw .. => some .withdraw
  | .contractSendChannelCoopSettle .. => some .coopSettle
  | _ => none

def CanonicalIdentifier.key (ci : CanonicalIdentifier) : Address × ℕ := (ci.tokenNetworkAddress, ci.channelIdentifier)

/-- the channel of a transaction; the registration of a secret has none -/
def Event.channel? : Event → Option (Address × ℕ)
  | .contractSendChannelWithdraw ci _ _ _ _ => some ci.key
  | .contractSendChannelCoopSettle ci _ _ _ _ _ _ => some ci.key
  | .contractSendChannelClose ci _ _ => some ci.key
  | .contractSendChannelSettle ci _ => some ci.key
  | .contractSendChannelUpdateTransfer _ b _ => some b.canonicalIdentifier.key
  | .contractSendChannelBatchUnlock ci _ _ => some ci.key
  | _ => none

/-- the events that a channel sends; any other one is about a payment -/
def Event.ofChannel : Event → Bool
  | .sendSecretRequest .. | .sendSecretReveal .. | .contractSendSecretReveal .. => false
  | .eventUnlockSuccess .. | .eventUnlockFailed .. | .eventUnlockClaimSuccess .. | .eventUnlockClaimFailed .. => false
  | .eventPaymentReceivedSuccess .. | .eventPaymentSentSuccess .. | .eventPaymentSentFailed .. => false
  | .eventRouteFailed .. | .eventInvalidSecretRequest .. | .eventUnexpectedSecretReveal .. => false
  | _ => true

/-- the transactions that an operation can send -/
def ChannelOp.transactions : ChannelOp → List TransactionKind
  | .transition (.actionChannelClose _) => [.close]
  | .transition (.receiveWithdrawRequest _) => [.coopSettle]
  | .transition (.receiveWithdrawConfirmation _) => [.coopSettle, .withdraw]
  | .transition (.block _ _) => [.settle]
  | .transition (.contractReceiveChannelClosed _ _ _ _) => [.update]
  | .transition (.contractReceiveChannelSettled _ _ _ _ _ _ _) => [.batchUnlock]
  | _ => []

/-- the operations that are not about the end of the channel -/
def ChannelOp.plain : ChannelOp → Bool
  | .transition (.actionChannelClose _) | .transition (.block _ _) => false
  | .transition (.contractReceiveChannelClosed _ _ _ _) | .transition (.contractReceiveUpdateTransfer _) => false
  | .transition (.contractReceiveChannelSettled _ _ _ _ _ _ _) => false
  | _ => true

/-- the operations that can remove the channel -/
def ChannelOp.removes : ChannelOp → Bool
  | .transition (.contractReceiveChannelSettled _ _ _ _ _ _ _) => true
  | .transition (.contractReceiveChannelBatchUnlock _) => true
  | _ => false

variable {e : Event} {ci : CanonicalIdentifier} {kinds : List TransactionKind}

theorem channel?_of_transaction (h : e.transaction? = none) : e.channel? = none := by
  cases e <;> first | rfl | cases h

/-- an event of the channel: a transaction is of one of the kinds and, unless it is an update, about the channel -/
structure Event.Of (ci : CanonicalIdentifier) (kinds : List TransactionKind) (e : Event) : Prop where
  ofChannel : e.ofChannel = true
  kind : ∀ k, e.transaction? = some k → k ∈ kinds
  about : e.transaction? ≠ some .update → ∀ key ∈ e.channel?, key = ci.key

theorem Event.Of.message (h : e.ofChannel = true) (hnone : e.transaction? = none) : e.Of ci kinds :=
  ⟨h, by simp [hnone], by simp [channel?_of_transaction hnone]⟩

theorem Event.Of.transaction {k : TransactionKind}
    (h : e.ofChannel = true) (hkind : e.transaction? = some k) (hk : k ∈ kinds) (hkey : e.channel? = some ci.key) :
    e.Of ci kinds :=
  ⟨h, by rw [hkind]; rintro _ ⟨⟩; exact hk, by rw [hkey]; rintro - _ ⟨⟩; rfl⟩

/-! ## The end of a channel -/

/-- the fields of a channel that never change -/
def NettingChannelState.fixed (c : NettingChannelState) : CanonicalIdentifier × Address :=
  (c.canonicalIdentifier, c.tokenAddress)

/-- the transactions that end a channel -/
def NettingChannelState.ending (c : NettingChannelState) :
    Option TransactionExecutionStatus × Option TransactionExecutionStatus := (c.closeTransaction, c.settleTransaction)

/-- the transactions of a channel that its end depends on, and its settle timeout -/
def NettingChannelState.lifecycle (c : NettingChannelState) :
    (Option TransactionExecutionStatus × Option TransactionExecutionStatus) × Option TransactionExecutionStatus × ℕ :=
  (c.ending, c.updateTransaction, c.settleTimeout)

/-! ## What a handler does -/

/-- what can be said of a handler: the transactions that it sends, whether it repeats a nonce, whether it leaves the end of
the channel alone, and whether it can remove the channel -/
structure Manner where
  kinds : List TransactionKind
  repeats : Bool
  plain : Bool
  removes : Bool

def ChannelOp.manner (env : Env) (c : NettingChannelState) (op : ChannelOp) : Manner where
  kinds := op.transactions
  repeats := joinsCoopSettle env c op
  plain := op.plain
  removes := op.removes

structure Does (m : Manner) (c : NettingChannelState) (o : Option NettingChannelState) (events : List Event) : Prop where
  fixed : ∀ c' ∈ o, c'.fixed = c.fixed
  sent : ∀ e ∈ events, e.Of c.canonicalIdentifier m.kinds
  counts : m.repeats = false → Counts c o events
  lifecycle : m.plain = true → ∀ c' ∈ o, c'.lifecycle = c.lifecycle
  removed : o = none → m.removes = true ∧ events = []

/-- the parts of a channel that most handlers leave as they are -/
def NettingChannelState.frame (c : NettingChannelState) :
    (CanonicalIdentifier × Address) × ((Option TransactionExecutionStatus × Option TransactionExecutionStatus) ×
      Option TransactionExecutionStatus × ℕ) × ℕ :=
  (c.fixed, c.lifecycle, c.ourState.nonce)

section Does

variable {m : Manner} {c c' c1 : NettingChannelState} {o : Option NettingChannelState} {e : Event}
  {events ev1 ev2 : List Event} {n : ℕ}

theorem forall_mem_some {p : NettingChannelState → Prop} (h : p c') : ∀ x ∈ some c', p x :=
  fun _ hx => Option.mem_some_iff.1 hx ▸ h

/-- nothing but the end of the channel changes -/
theorem Does.ends (hfixed : c'.fixed = c.fixed) (hnonce : c'.ourState.nonce = c.ourState.nonce) (hplain : m.plain = false)
    (hsent : ∀ e ∈ events, e.Of c.canonicalIdentifier m.kinds) (hnone : nonces events = []) : Does m c (some c') events :=
  ⟨forall_mem_some hfixed, hsent, fun _ => ⟨0, hnone, forall_mem_some hnonce⟩,
    fun h => absurd (hplain.symm.trans h) (by decide), by simp⟩

theorem Does.sends (h : c'.frame = c.frame) (hsent : ∀ e ∈ events, e.Of c.canonicalIdentifier m.kinds)
    (hnone : nonces events = []) : Does m c (some c') events := by
  simp only [NettingChannelState.frame, Prod.mk.injEq] at h
  obtain ⟨hfixed, hlife, hnonce⟩ := h
  exact ⟨forall_mem_some hfixed, hsent, fun _ => ⟨0, hnone, forall_mem_some hnonce⟩, fun _ => forall_mem_some hlife, by simp⟩

theorem Does.nothing (h : c'.frame = c.frame) : Does m c (some c') [] := .sends h (by simp) rfl

/-- a report or a message without a nonce -/
theorem Does.reports (h : c'.frame = c.frame) (he : e.ofChannel = true) (hkind : e.transaction? = none)
    (hnone : e.nonce? = none) : Does m c (some c') [e] :=
  .sends h (forall_mem_singleton.2 (.message he hkind)) (by simp [nonces, hnone])

/-- a message that takes the next nonce -/
theorem Does.numbers (hfixed : c'.fixed = c.fixed) (hlife : c'.lifecycle = c.lifecycle) (he : e.ofChannel = true)
    (hkind : e.transaction? = none) (hevent : e.nonce? = some n) (hn : n = c.ourState.nonce + 1)
    (hnonce : c'.ourState.nonce = n) : Does m c (some c') [e] := by
  subst hn
  exact ⟨forall_mem_some hfixed, forall_mem_singleton.2 (.message he hkind),
    fun _ => ⟨1, by simp [nonces, hevent], forall_mem_some hnonce⟩, fun _ => forall_mem_some hlife, by simp⟩

theorem Does.gone (h : m.removes = true) : Does m c none [] :=
  ⟨by simp, by simp, fun _ => ⟨0, rfl, by simp⟩, by simp, fun _ => ⟨h, rfl⟩⟩

theorem Counts.append (h1 : Counts c (some c1) ev1) (h2 : Counts c1 o ev2) : Counts c o (ev1 ++ ev2) := by
  obtain ⟨n1, hn1, hc1⟩ := h1
  obtain ⟨n2, hn2, hc2⟩ := h2
  have hnonce := hc1 c1 rfl
  refine ⟨n1 + n2, ?_, fun c' hc' => ?_⟩
  · rw [nonces_append, hn1, hn2, hnonce, ← range'_append, one_mul]
    congr 2
    omega
  · rw [hc2 c' hc', hnonce, Nat.add_assoc]

/-- one handler after the other -/
theorem Does.append (h1 : Does m c (some c1) ev1) (h2 : Does m c1 (some c') ev2) : Does m c (some c') (ev1 ++ ev2) := by
  have hfixed := h1.fixed c1 rfl
  have hci : c1.canonicalIdentifier = c.canonicalIdentifier := congrArg Prod.fst hfixed
  refine ⟨forall_mem_some ((h2.fixed c' rfl).trans hfixed), forall_mem_append.2 ⟨h1.sent, hci ▸ h2.sent⟩, fun hr => ?_,
    fun hp => forall_mem_some ?_, by simp⟩
  · exact (h1.counts hr).append (h2.counts hr)
  · exact (h2.lifecycle hp c' rfl).trans (h1.lifecycle hp c1 rfl)

/-- a change that the frame does not see comes first -/
theorem Does.congr (h : Does m c1 (some c') events) (hframe : c1.frame = c.frame) : Does m c (some c') events := by
  have hfirst : Does m c (some c1) [] := .nothing hframe
  exact hfirst.append h

end Does

/-! ## Moves -/

section Moves

variable {m : Manner} {env : Env} {c c' c1 : NettingChannelState} {o : Option NettingChannelState} {blockNumber : ℕ}
  {blockHash : Bytes} {events : List Event} {op : ChannelOp}

theorem sendWithdrawRequest_does (c : NettingChannelState) (total : ℤ) (expiration : ℕ) (coopSettle : Bool) :
    Does m c (some (sendWithdrawRequest c total expiration coopSettle).1)
      (sendWithdrawRequest c total expiration coopSettle).2 := by
  unfold sendWithdrawRequest
  split_ifs
  · exact .nothing rfl
  · exact .numbers rfl rfl rfl rfl rfl rfl rfl

theorem CoopSettleMove.does {s : CoopSettleState} (hk : .coopSettle ∈ m.kinds)
    (h : CoopSettleMove c s blockNumber blockHash c' events) : Does m c (some c') events := by
  cases h with
  | waits => exact .nothing rfl
  | sends => exact .sends rfl (forall_mem_singleton.2 (.transaction rfl rfl hk rfl)) rfl

theorem confirmWithdraw_does {r : ReceiveWithdrawRequest} (h : Does m c (some c1) events) :
    Does m c (some (confirmWithdraw c1 r events).1) (confirmWithdraw c1 r events).2 :=
  h.append (.numbers rfl rfl rfl rfl rfl rfl rfl)

/-- a node that joins a cooperative settle sends its request twice, unless the channel is closed -/
theorem joinCoopSettle_does (r : ReceiveWithdrawRequest) (hopen : m.repeats = false → (getStatus c).priorToClosed = false) :
    Does m c (some (joinCoopSettle c r).1) (joinCoopSettle c r).2 := by
  unfold joinCoopSettle
  refine confirmWithdraw_does ?_
  generalize hc1 : ({ c with partnerState := _ } : NettingChannelState) = c1
  have hframe : c1.frame = c.frame := hc1 ▸ rfl
  have hstatus : getStatus c1 = getStatus c := hc1 ▸ rfl
  have hrequest := (sendWithdrawRequest_does (m := m) c1 (getMaxWithdrawAmount c.ourState c.partnerState) r.expiration
    false).congr hframe
  refine { hrequest with
    sent := forall_mem_append.2 ⟨hrequest.sent, hrequest.sent⟩, counts := fun hr => ?_, removed := by simp }
  have hclosed : sendWithdrawRequest c1 (getMaxWithdrawAmount c.ourState c.partnerState) r.expiration false = (c1, []) := by
    rw [sendWithdrawRequest, hstatus, if_pos (hopen hr)]
  have hcounts := hrequest.counts hr
  rw [hclosed] at hcounts ⊢
  exact hcounts

theorem isValidWithdrawConfirmation_channel {r : ReceiveWithdrawConfirmation}
    (h : isValidWithdrawConfirmation env c r = .ok (.ok ())) :
    r.canonicalIdentifier = c.canonicalIdentifier := by
  have hchecks := (isValidWithdrawConfirmation_ok_iff.1 h).1
  unfold withdrawConfirmationError at hchecks
  dsimp only at hchecks
  split at hchecks
  · cases hchecks
  · split_ifs at hchecks with hci
    exact (not_not.1 hci).symm

/-- every expired withdraw takes one nonce -/
theorem expireWithdraws_does (blockNumber : ℕ) (ws : List WithdrawState) (c : NettingChannelState) :
    Does m c (some (expireWithdraws c blockNumber ws).1) (expireWithdraws c blockNumber ws).2 := by
  induction ws generalizing c with
  | nil => exact .nothing rfl
  | cons w ws ih =>
    unfold expireWithdraws
    split_ifs
    · exact .nothing rfl
    · have hfirst : Does m c (some { c with ourState := expireWithdraw c.ourState w })
          [.sendWithdrawExpired c.partnerState.address c.canonicalIdentifier w.totalWithdraw
            (expireWithdraw c.ourState w).address (expireWithdraw c.ourState w).nonce w.expiration] :=
        .numbers rfl rfl rfl rfl rfl rfl rfl
      exact hfirst.append (ih _)

theorem report_plain {e : Event} (h : e.isReport = true) : e.ofChannel = true ∧ e.transaction? = none ∧ e.nonce? = none := by
  cases e <;> first | exact ⟨rfl, rfl, rfl⟩ | cases h

/-- **What a move does.** -/
theorem ChannelMove.does (h : ChannelMove env blockNumber blockHash c op o events) : Does (op.manner env c) c o events := by
  cases h with
  | idle | timeoutSet | withdrawn | partnerWithdrawn => exact .nothing rfl
  | reported _ he =>
    obtain ⟨h1, h2, h3⟩ := report_plain he
    exact .reports rfl h1 h2 h3
  | requestInvalid | requestRefused | confirmed | withdrawDropped | lockReceived | refundReceived | lockExpired
  | unlockReceived => exact .reports rfl rfl rfl rfl
  | closing | settling | settledLocks =>
    exact .ends rfl rfl rfl (forall_mem_singleton.2 (.transaction rfl rfl mem_cons_self rfl)) rfl
  | withdrawing => exact sendWithdrawRequest_does _ _ _ _
  | coopSettling => exact .congr (sendWithdrawRequest_does _ _ _ _) rfl
  | requestAnswers _ _ _ hcoop => exact confirmWithdraw_does (.congr (hcoop.does mem_cons_self) rfl)
  | @requestJoined r hvalid hcoop hown hrefusal =>
    have hclosed (hr : joinsCoopSettle env c (.transition (.receiveWithdrawRequest r)) = false) :
        (getStatus c).priorToClosed = false := by
      simpa [joinsCoopSettle, hvalid, hrefusal, hown, hcoop, Except.isOk, Except.toBool] using hr
    exact .congr (joinCoopSettle_does (c := storeWithdrawRequest c r) r hclosed) rfl
  | requestConfirmed => exact confirmWithdraw_does (.nothing rfl)
  | @coopSettleConfirmed r _ c' _ _ _ hcoop =>
    have hanswer : Does ((ChannelOp.transition (.receiveWithdrawConfirmation r)).manner env c) c
      (some (withPartnerNonce c r.nonce)) [.sendProcessed c'.partnerState.address r.messageIdentifier] :=
        .reports rfl rfl rfl rfl
    exact hanswer.append (.congr (hcoop.does mem_cons_self) rfl)
  | withdrawConfirmed hvalid =>
    have hkey := congrArg (fun ci => some (CanonicalIdentifier.key ci)) (isValidWithdrawConfirmation_channel hvalid)
    exact .sends rfl (forall_mem_cons.2 ⟨.message rfl rfl,
      forall_mem_singleton.2 (.transaction rfl rfl (mem_cons_of_mem _ mem_cons_self) hkey)⟩) rfl
  | expired => exact expireWithdraws_does _ _ _
  | closed | updated => exact .ends rfl rfl rfl (by simp) rfl
  | updating =>
    -- the update is about the channel of the proof
    refine .ends rfl rfl rfl (forall_mem_singleton.2 ⟨rfl, ?_, fun h => absurd rfl h⟩) rfl
    rintro _ ⟨⟩
    exact mem_cons_self
  | settled | unlockedAll => exact .gone rfl
  | deposited =>
    unfold depositFor updateContractBalance
    split_ifs <;> exact .nothing rfl
  | unlocked =>
    unfold unlockedOnchain
    split_ifs <;> exact .nothing rfl
  | lockSent _ _ _ hb | unlockSent _ _ _ hb | lockExpiredSent _ _ _ _ hb =>
    exact .numbers rfl rfl rfl rfl rfl (make_ok hb).1 rfl
  | secretLearned =>
    refine .nothing ?_
    simp only [registerOffchainSecret, registerSecretEndstate]
    split <;> rfl
  | secretRegistered =>
    refine .nothing ?_
    simp only [registerOnchainSecret, registerOnchainSecretEndstate]
    split
    · rfl
    · split_ifs <;> rfl

/-- **What an operation does.** -/
theorem op_does (h : applyOp env c blockNumber blockHash op = .ok (o, events)) : Does (op.manner env c) c o events :=
  (applyOp_move h).does

/-- **The events of a channel and its transactions.** -/
theorem op_transactions (h : applyOp env c blockNumber blockHash op = .ok (o, events)) :
    ∀ e ∈ events, e.Of c.canonicalIdentifier op.transactions := (op_does h).sent

end Moves

end Gatecoin.Client
