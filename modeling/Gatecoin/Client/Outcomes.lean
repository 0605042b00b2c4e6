/-
The outcome of a payment.

The application learns from `EventPaymentSentSuccess` or `EventPaymentSentFailed` how a payment ended, and expects one of them,
once. A payment that is never rerouted has one transfer, and the transfer has one outcome: it is removed when its lock is
unlocked, and its status remembers that the lock has expired. Two things go wrong. A refund reroutes the payment: its task is
copied, and from then on every copy of the refunded transfer, and every new attempt, has an outcome of its own. And a secret
request takes an expired transfer, whose lock is still in a closed channel, back to a status that can expire again.

Results:
- `one_outcome_of_unrefunded_payment`: a payment to which neither happens has at most one outcome in every run.
- `refunded_payment_fails_twice`: a refund without another route, and then the expiration of the lock.
-/
import Gatecoin.Client.NodeTrace
import Gatecoin.Client.Status

namespace Gatecoin.Client

open Gatecoin.Core InitiatorManager Node List Dict Option InitiatorTransferState

/-! ## Outcomes -/

/-- the outcomes of a payment among the events -/
def outcomes (pid : ℕ) (events : List Event) : List Event := events.filter fun e => e.sentPayment? = some pid

/-- the payment that a transfer belongs to -/
def InitiatorTransferState.payment (t : InitiatorTransferState) : ℕ := t.transferDescription.paymentIdentifier

/-- no transfer belongs to the payment -/
def InitiatorPaymentState.Without (pid : ℕ) (p : InitiatorPaymentState) : Prop :=
  ∀ t ∈ p.initiatorTransfers.values, t.payment ≠ pid

instance (pid : ℕ) (p : InitiatorPaymentState) : Decidable (p.Without pid) := by
  unfold InitiatorPaymentState.Without
  infer_instance

/-- the outcomes among the events are those of payments in `P` -/
def Tells (P : ℕ → Prop) (events : List Event) : Prop := ∀ e ∈ events, ∀ i, e.sentPayment? = some i → P i

section Outcomes

variable {pid : ℕ} {events events' : List Event} {P Q : ℕ → Prop} {p p' : InitiatorPaymentState} {t : InitiatorTransferState}
  {k : Bytes}

@[simp] theorem outcomes_append (pid : ℕ) (events events' : List Event) :
    outcomes pid (events ++ events') = outcomes pid events ++ outcomes pid events' := filter_append events events'

theorem Tells.outcomes (h : Tells P events) (hpid : ¬ P pid) : outcomes pid events = [] := by
  refine filter_eq_nil_iff.2 fun e he hsent => hpid (h e he pid ?_)
  exact of_decide_eq_true hsent

theorem Tells.of_unsent (h : ∀ e ∈ events, e.sentPayment? = none) : Tells P events := by
  intro e he i hi
  rw [h e he] at hi
  cases hi

theorem outcomes_of_unsent (h : ∀ e ∈ events, e.sentPayment? = none) : outcomes pid events = [] :=
  Tells.outcomes (P := fun _ => False) (.of_unsent h) id

theorem Tells.append (h : Tells P events) (h' : Tells P events') : Tells P (events ++ events') :=
  forall_mem_append.2 ⟨h, h'⟩

/-- the only outcome among the events, if there is one, is that of the payment -/
structure OneOutcome (i : ℕ) (events : List Event) : Prop where
  tells : Tells (· = i) events
  once : ∀ pid, (outcomes pid events).length ≤ 1

theorem OneOutcome.of_unsent {i : ℕ} (h : ∀ e ∈ events, e.sentPayment? = none) : OneOutcome i events := by
  refine ⟨.of_unsent h, fun pid => ?_⟩
  rw [outcomes_of_unsent h]
  exact Nat.zero_le 1

theorem OneOutcome.of_event {i : ℕ} {e : Event} (h : ∀ e ∈ events, e.sentPayment? = none) (he : e.sentPayment? = some i)
    (h' : ∀ e ∈ events', e.sentPayment? = none) : OneOutcome i (events ++ e :: events') := by
  refine ⟨(Tells.of_unsent h).append (forall_mem_cons.2 ⟨fun j hj => ?_, Tells.of_unsent h'⟩), fun pid => ?_⟩
  · exact (some.inj (he.symm.trans hj)).symm
  · rw [outcomes_append, outcomes_of_unsent h, nil_append]
    calc (outcomes pid (e :: events')).length ≤ (e :: outcomes pid events').length := by
          unfold outcomes
          rw [filter_cons]
          split_ifs
          · exact le_refl _
          · exact Nat.le_succ _
      _ = 1 := by rw [outcomes_of_unsent h']; rfl

theorem InitiatorPaymentState.Without.get? (h : p.Without pid) (ht : p.initiatorTransfers.get? k = some t) :
    t.payment ≠ pid :=
  h t (mem_map.2 ⟨(k, t), get?_eq_some.1 ht, rfl⟩)

theorem InitiatorPaymentState.without_of_get? (h : ∀ k t, p.initiatorTransfers.get? k = some t → t.payment ≠ pid) :
    p.Without pid := by
  intro t ht
  obtain ⟨⟨k, t'⟩, hmem, rfl⟩ := mem_map.1 ht
  exact h k _ (get?_eq_some.2 hmem)

theorem InitiatorPaymentState.Without.kept (h : p.Without pid) (hkept : Kept p p') : p'.Without pid := by
  refine without_of_get? fun k t' ht' => ?_
  obtain ⟨t, ht, hdesc⟩ := hkept.description ht'
  rw [payment, ← hdesc]
  exact h.get? ht

end Outcomes

/-! ## Outcomes of a transfer -/

section Transfers

variable {env : Env} {t : InitiatorTransferState} {c : NettingChannelState} {blockNumber blockNumber' pid : ℕ} {k : Bytes}
  {stateChange : InitiatorStateChange} {x : Initiator.Iteration} {op : ChannelOp} {blockHash : Bytes}
  {c' : NettingChannelState} {lock : HashTimeLock} {events : List Event}

theorem applyOp_unsent {o : Option NettingChannelState}
    (h : applyOp env c blockNumber blockHash op = .ok (o, events)) : ∀ e ∈ events, e.sentPayment? = none :=
  fun e he => sentPayment_of_ofChannel (op_transactions h e he).ofChannel

/-- an unlock is the success of the payment -/
theorem eventsForUnlockLock_outcome {secret secrethash : Bytes}
    (h : Initiator.eventsForUnlockLock env t c secret secrethash blockNumber = .ok (c', events)) :
    OneOutcome t.payment events := by
  simp only [Initiator.eventsForUnlockLock, do_ok, Prod.exists, Prod.mk.injEq] at h
  obtain ⟨c1, unlock, hsend, -, rfl⟩ := h
  show OneOutcome _ ([unlock] ++ _ :: _)
  exact .of_event (applyOp_unsent (applyOp_sendUnlock hsend [])) rfl (by simp [Event.sentPayment?])

/-- an expiration is the failure of the payment -/
theorem expireTransfer_outcome (h : Initiator.expireTransfer env t c lock = .ok x) : OneOutcome t.payment x.events := by
  simp only [Initiator.expireTransfer, do_ok, Prod.exists] at h
  obtain ⟨c1, expired, hsend, rfl⟩ := h
  refine .of_event ?_ rfl (by simp [Event.sentPayment?])
  split_ifs at hsend
  · simp only [sendLockExpired, bind_ok] at hsend
    obtain ⟨-, -, y, -, hsend⟩ := hsend
    split at hsend
    · cases hsend
      simp
    · cases hsend
      simp [Event.sentPayment?]
  · cases hsend
    simp

theorem answerSecretrequest_unsent (t : InitiatorTransferState) (r : ReceiveSecretRequest) (c : NettingChannelState)
    (lock : HashTimeLock) : ∀ e ∈ (Initiator.answerSecretrequest t r c lock).events, e.sentPayment? = none := by
  simp only [Initiator.answerSecretrequest]
  split_ifs <;> simp [Event.sentPayment?]

/-- **One transfer.** Every state change tells at most one outcome, and it is that of the transfer's payment. -/
theorem transfer_oneOutcome (h : Initiator.Acts env t c blockNumber stateChange x) : OneOutcome t.payment x.events := by
  cases h with
  | idle | gone | registered => exact .of_unsent (by simp)
  | expired _ _ _ hexpire => exact expireTransfer_outcome hexpire
  | answered r lock => exact .of_unsent (answerSecretrequest_unsent t r c lock)
  | unlocked _ _ _ _ hunlock => exact eventsForUnlockLock_outcome hunlock

/-- the locks of a secrethash become fewer, and a channel that has ended stays so -/
structure Recedes (k : Bytes) (c c' : NettingChannelState) : Prop where
  locks : FewerLocks k c.ourState c'.ourState
  ended : c.ended = true → c'.ended = true

theorem Recedes.refl (k : Bytes) (c : NettingChannelState) : Recedes k c c := ⟨.refl k _, id⟩

theorem Recedes.trans {c1 c2 : NettingChannelState} (h : Recedes k c c1) (h' : Recedes k c1 c2) : Recedes k c c2 :=
  ⟨h.locks.trans h'.locks, fun hc => h'.ended (h.ended hc)⟩

/-- only a transfer that is sent adds a lock to the own end -/
theorem recedes_apply (hkept : LocksKept c.ourState) (hop : ∀ args, op = .sendLockedtransfer args → args.secrethash ≠ k)
    (h : applyOp env c blockNumber blockHash op = .ok (some c', events)) : Recedes k c c' := by
  refine ⟨fewerLocks_step (op_step h).ours hkept ?_, applyOp_ended h⟩
  cases op with
  | sendLockedtransfer args => exact fun heq => hop args rfl (EndEffect.lockAdded.inj heq)
  | transition stateChange =>
    cases stateChange <;> simp only [ChannelOp.ours] <;> (try split_ifs) <;> simp
  | _ => simp [ChannelOp.ours]

/-- the lock has expired and cannot be claimed any more: it was removed, or the channel has ended -/
structure Expired (k : Bytes) (t : InitiatorTransferState) (blockNumber : ℕ) (o : Option NettingChannelState) : Prop where
  time : t.transfer.lock.expiration ≤ blockNumber
  gone : ∀ c ∈ o, c.ended = true ∨ held c.ourState k = []

/-- what is known of a transfer: it has no outcome yet, or it has expired -/
inductive Progress (pid : ℕ) (k : Bytes) (t : InitiatorTransferState) (blockNumber : ℕ) (o : Option NettingChannelState)
    (sent : List Event) : Prop
  | running (hstate : t.transferState ≠ .transferExpired) (hsent : outcomes pid sent = [])
      (hlock : ∀ c ∈ o, ∀ l, c.ourState.secrethashesToLockedlocks.get? k = some l → l = t.transfer.lock)
  | expired (hstate : t.transferState = .transferExpired) (hsent : (outcomes pid sent).length ≤ 1)
      (hlock : Expired k t blockNumber o)

variable {o o' : Option NettingChannelState} {sent : List Event}

theorem Expired.recedes (h : Expired k t blockNumber o) (hb : blockNumber ≤ blockNumber')
    (ho : ∀ c' ∈ o', held c'.ourState k = [] ∨ ∃ c ∈ o, Recedes k c c') : Expired k t blockNumber' o' := by
  refine ⟨h.time.trans hb, fun c' hc' => ?_⟩
  rcases ho c' hc' with hnone | ⟨c, hc, hrec⟩
  · exact .inr hnone
  · rcases h.gone c hc with hended | hnone
    · exact .inl (hrec.ended hended)
    · refine .inr (eq_nil_iff_forall_not_mem.2 fun l hl => ?_)
      have hl' := hrec.locks.held l hl
      rw [hnone] at hl'
      cases hl'

/-- what happens to the channel meanwhile does not matter -/
theorem Progress.recedes (h : Progress pid k t blockNumber o sent) (hb : blockNumber ≤ blockNumber')
    (ho : ∀ c' ∈ o', held c'.ourState k = [] ∨ ∃ c ∈ o, Recedes k c c') : Progress pid k t blockNumber' o' sent := by
  cases h with
  | running hstate hsent hlock =>
    refine .running hstate hsent fun c' hc' l hl => ?_
    rcases ho c' hc' with hnone | ⟨c, hc, hrec⟩
    · simp [held, unclaimed, hl] at hnone
    · exact hlock c hc l (hrec.locks.locked l hl)
  | expired hstate hsent hlock => exact .expired hstate hsent (hlock.recedes hb ho)

theorem Progress.length_le (h : Progress pid k t blockNumber o sent) : (outcomes pid sent).length ≤ 1 := by
  cases h with
  | running _ hsent _ =>
    rw [hsent]
    exact Nat.zero_le 1
  | expired _ hsent _ => exact hsent

/-- events without an outcome of the payment change nothing -/
theorem Progress.unsent (h : Progress pid k t blockNumber o sent) (hevents : outcomes pid events = []) :
    Progress pid k t blockNumber o (sent ++ events) := by
  have hsame : outcomes pid (sent ++ events) = outcomes pid sent := by rw [outcomes_append, hevents, append_nil]
  cases h with
  | running hstate hsent hlock => exact .running hstate (hsame.trans hsent) hlock
  | expired hstate hsent hlock => exact .expired hstate (hsame ▸ hsent) hlock

/-- a transfer that has expired is not unlocked -/
theorem Expired.not_unlocked (hk : t.transfer.lock.secrethash = k) (h : Expired k t blockNumber (some c))
    (hopen : getStatus c = .opened) :
    (isLockExpired c.ourState t.transfer.lock blockNumber t.transfer.lock.expiration).isOk = true := by
  have hnone : held c.ourState k = [] := by
    refine (h.gone c rfl).resolve_left fun hended => ?_
    rw [opened_iff.1 hopen] at hended
    cases hended
  have honchain : c.ourState.secrethashesToOnchainUnlockedlocks.get? k = none := by
    cases hget : c.ourState.secrethashesToOnchainUnlockedlocks.get? k with
    | none => rfl
    | some u => simp [held, hget] at hnone
  have htime := h.time
  unfold isLockExpired
  rw [hk, Dict.contains, honchain, if_neg (by simp), if_neg (by omega)]
  rfl

/-- what is known after a state change: a transfer that is finished had one outcome at most -/
def Progressed (pid : ℕ) (k : Bytes) (blockNumber : ℕ) (o : Option NettingChannelState) (sent : List Event) :
    Option InitiatorTransferState → Prop
  | none => (outcomes pid sent).length ≤ 1
  | some t => Progress pid k t blockNumber o sent

theorem length_outcomes_append {i : ℕ} (hsent : outcomes pid sent = []) (h : OneOutcome i events) :
    (outcomes pid (sent ++ events)).length ≤ 1 := by
  rw [outcomes_append, hsent]
  exact h.once pid

/-- a lock that expires is gone from all maps -/
theorem sendLockExpired_held
    (hkept : LocksKept c.ourState) (hlock : c.ourState.secrethashesToLockedlocks.get? k = some lock)
    (honchain : c.ourState.secrethashesToOnchainUnlockedlocks.get? k = none)
    (h : sendLockExpired env c lock = .ok (c', events)) : held c'.ourState k = [] := by
  obtain ⟨hk, hmem⟩ := hkept k lock (by simp [held, unclaimed, hlock])
  simp only [sendLockExpired, createSendexpiredlock, bind_ok] at h
  obtain ⟨-, -, y, ⟨own, -, hy⟩, h⟩ := h
  rw [computeLocksWithout, if_pos hmem] at hy
  simp only [do_ok] at hy
  obtain ⟨b, -, rfl⟩ := hy
  cases h
  simp [held, unclaimed, delUnclaimedLock, withProof, hk, honchain]

/-- the lock of a transfer that expires is gone, unless the channel has ended -/
theorem expireTransfer_cases (hkept : LocksKept c.ourState)
    (hlock : c.ourState.secrethashesToLockedlocks.get? k = some lock)
    (honchain : c.ourState.secrethashesToOnchainUnlockedlocks.get? k = none)
    (h : Initiator.expireTransfer env t c lock = .ok x) :
    (x.newState = none ∨ x.newState = some { t with transferState := .transferExpired }) ∧
      (x.channel.ended = true ∨ held x.channel.ourState k = []) := by
  simp only [Initiator.expireTransfer, do_ok, Prod.exists] at h
  obtain ⟨c1, events, hsend, rfl⟩ := h
  refine ⟨?_, ?_⟩
  · dsimp only
    split_ifs <;> simp
  · split_ifs at hsend with hopen
    · exact .inr (sendLockExpired_held hkept hlock honchain hsend)
    · cases hsend
      rw [opened_iff, Bool.not_eq_false] at hopen
      exact .inl hopen

/-- a transfer whose lock is expired by a block -/
theorem expireTransfer_progress (hk : t.transfer.lock.secrethash = k) (hkept : LocksKept c.ourState)
    (hsent : outcomes pid sent = []) (hlock : c.ourState.secrethashesToLockedlocks.get? k = some t.transfer.lock)
    (hexpired : (isLockExpired c.ourState t.transfer.lock blockNumber
      (t.transfer.lock.expiration + defaultWaitBeforeLockRemoval)).isOk = true)
    (h : Initiator.expireTransfer env t c t.transfer.lock = .ok x) :
    Progressed pid k blockNumber (some x.channel) (sent ++ x.events) x.newState := by
  have hlength := length_outcomes_append hsent (expireTransfer_outcome h)
  have honchain := onchain_none_of_isLockExpired hexpired
  rw [hk] at honchain
  have htime : t.transfer.lock.expiration ≤ blockNumber := by
    unfold isLockExpired at hexpired
    split_ifs at hexpired
    · cases hexpired
    · cases hexpired
    · omega
  obtain ⟨hnew | hnew, hgone⟩ := expireTransfer_cases hkept hlock honchain h
  · rw [hnew]
    exact hlength
  · rw [hnew]
    refine .expired rfl hlength ⟨htime, fun c' hc' => ?_⟩
    cases hc'
    exact hgone

/-- **One transfer, one outcome.** A request of the secret must not come after the transfer has expired. -/
theorem transfer_progress (hkeyed : t.Keyed k) (hkept : LocksKept c.ourState)
    (htime : ∀ number, stateChange = .block number → number = blockNumber)
    (hrequest : ∀ r, stateChange = .receiveSecretRequest r → t.transferState ≠ .transferExpired)
    (hp : Progress pid k t blockNumber (some c) sent) (h : Initiator.Acts env t c blockNumber stateChange x) :
    Progressed pid k blockNumber (some x.channel) (sent ++ x.events) x.newState := by
  have hregister : ∀ secret number, Progress pid k t blockNumber (some (registerOnchainSecret c secret k number)) sent := by
    intro secret number
    have happly : applyOp env c blockNumber [] (.registerOnchainSecret secret k number) =
        .ok (some (registerOnchainSecret c secret k number), []) := rfl
    refine hp.recedes le_rfl fun c' hc' => .inr ⟨c, rfl, ?_⟩
    exact mem_some_iff.1 hc' ▸ recedes_apply hkept (by simp) happly
  cases h with
  | idle => exact hp.unsent rfl
  | gone =>
    rw [append_nil]
    exact hp.length_le
  | @expired number lock x hlock hexpired hrunning hexpire =>
    cases htime number rfl
    rw [hkeyed.1] at hlock
    cases hp with
    | running _ hsent hlocks =>
      cases hlocks c rfl lock hlock
      exact expireTransfer_progress hkeyed.1 hkept hsent hlock hexpired hexpire
    | expired hstate _ _ => exact absurd hstate hrunning
  | answered r lock =>
    cases hp with
    | expired hstate _ _ => exact absurd hstate (hrequest r rfl)
    | running hstate hsent hlocks =>
      have hall : outcomes pid (sent ++ (Initiator.answerSecretrequest t r c lock).events) = [] := by
        rw [outcomes_append, hsent, outcomes_of_unsent (answerSecretrequest_unsent t r c lock)]
        rfl
      unfold Initiator.answerSecretrequest at hall ⊢
      dsimp only at hall ⊢
      split_ifs at hall ⊢
      · exact .running hstate hall hlocks
      · exact .running (by simp) hall hlocks
      · exact .running hstate hall hlocks
  | registered r =>
    rw [hkeyed.2]
    exact (hregister _ _).unsent rfl
  | @unlocked _ _ c1 _ _ _ hc1 hopen hearly hunlock =>
    have hp1 : Progress pid k t blockNumber (some c1) sent := by
      rw [hkeyed.2] at hc1
      rcases hc1 with rfl | ⟨number, rfl⟩
      · exact hp
      · exact hregister _ number
    cases hp1 with
    | running _ hsent _ => exact length_outcomes_append hsent (eventsForUnlockLock_outcome hunlock)
    | expired _ _ hlock =>
      have hlate := hlock.not_unlocked hkeyed.1 hopen
      rw [hearly] at hlate
      cases hlate

end Transfers

/-! ## Other payments -/

section OtherPayments

variable {env : Env} {p : InitiatorPaymentState} {nets : Networks} {tn : Address} {blockNumber pid : ℕ} {k : Bytes}
  {t : InitiatorTransferState} {stateChange : InitiatorStateChange} {x : Iteration}

theorem subdispatchToInitiatortransfer_without (ht : t.payment ≠ pid)
    (h : subdispatchToInitiatortransfer env p k t stateChange nets tn blockNumber = .ok x) :
    outcomes pid x.events = [] := by
  unfold subdispatchToInitiatortransfer at h
  split at h
  · cases h
    rfl
  · simp only [bind_ok] at h
    obtain ⟨sub, hsub, h⟩ := h
    have hnone := (transfer_oneOutcome (Initiator.acts_of_stateTransition hsub)).tells.outcomes ht.symm
    split at h
    · simp only [do_ok] at h
      obtain ⟨p1, -, rfl⟩ := h
      exact hnone
    · cases h
      exact hnone

theorem subdispatchToTransfers_without {number : ℕ} (keys : List Bytes) : ∀ {p nets x}, p.Without pid →
      subdispatchToTransfers env (.block number) tn blockNumber p nets keys = .ok x →
      outcomes pid x.events = [] := by
  induction keys with
  | nil =>
    intro p nets x _ h
    cases h
    rfl
  | cons key keys ih =>
    intro p nets x hw h
    unfold subdispatchToTransfers at h
    split at h
    · cases h
    · rename_i t ht
      simp only [do_ok] at h
      obtain ⟨sub, hsub, others, hothers, rfl⟩ := h
      have hkept := (subdispatchToInitiatortransfer_step ht hsub).1
      rw [outcomes_append, subdispatchToInitiatortransfer_without (hw.get? ht) hsub, ih (hw.kept hkept) hothers]
      rfl

/-- an attempt that finds no route is a failure of its payment -/
theorem tryNewRoute_outcome {candidates : List RouteState} {d : TransferDescriptionWithSecret}
    {new : Option InitiatorTransferState} {nets' : Networks} {events : List Event}
    (h : Initiator.tryNewRoute env nets candidates d blockNumber = .ok (new, nets', events)) :
    OneOutcome d.paymentIdentifier events ∧ (new.isSome = true → ∀ e ∈ events, e.sentPayment? = none) := by
  simp only [Initiator.tryNewRoute] at h
  split at h
  · cases h
    refine ⟨?_, by simp⟩
    show OneOutcome _ ([] ++ _ :: [])
    exact .of_event (by simp) rfl (by simp)
  · simp only [do_ok, Prod.exists, Prod.mk.injEq] at h
    obtain ⟨c1, transfer, -, rfl, rfl, rfl⟩ := h
    have hunsent : ∀ e ∈ [Event.sendLockedTransfer c1.partnerState.address c1.canonicalIdentifier transfer],
        e.sentPayment? = none := by simp [Event.sentPayment?]
    exact ⟨.of_unsent hunsent, fun _ => hunsent⟩

theorem lockExpired_outcomes (env : Env) (c : NettingChannelState) (m : ReceiveLockExpired) (paymentIdentifier : ℕ)
    (secrethash : Bytes) (failed : List String) : outcomes pid ((handleReceiveLockExpired env c m blockNumber).2 ++
      failed.map (.eventUnlockClaimFailed paymentIdentifier secrethash)) = [] := by
  refine outcomes_of_unsent (forall_mem_append.2 ⟨fun e he => ?_, by simp [Event.sentPayment?]⟩)
  exact (Event.plain_iff.1 (handleReceiveLockExpired_plain env c m blockNumber e he)).2

/-- **Payments tell their own outcomes.** What a payment says is not about another one, and its transfers stay its own. -/
theorem manager_without (hw : p.Without pid) (hcancel : stateChange ≠ .actionCancelPayment)
    (h : InitiatorManager.Acts env p nets tn blockNumber stateChange x) :
    outcomes pid x.events = [] ∧ x.newState.Without pid := by
  constructor
  · cases h with
    | idle | routeCancelled | refunded => rfl
    | block hblock => exact subdispatchToTransfers_without _ hw hblock
    | cancelled => exact absurd rfl hcancel
    | transfer _ ht hsub => exact subdispatchToInitiatortransfer_without (hw.get? ht) hsub
    | finished _ _ ht _ hsub =>
      have hnone := subdispatchToInitiatortransfer_without (hw.get? ht) hsub
      exact hnone
    | lockExpired => exact lockExpired_outcomes ..
    | @rerouted refund _ _ c _ _ _ _ ht hc hroute =>
      have hreceived : outcomes pid (handleReceiveLockedtransfer env c refund).events = [] :=
        outcomes_of_unsent fun e he => (Event.plain_iff.1 (handleReceiveLockedtransfer_plain env c refund e he)).2
      -- the new attempt is one of the same payment
      rw [outcomes_append, hreceived, (tryNewRoute_outcome hroute).1.tells.outcomes fun heq => hw.get? ht heq.symm]
      rfl
  · rcases manager_transfers h with hkept | ⟨_, _, old, t, -, hold, -, hdesc, hset⟩
    · exact hw.kept hkept
    · rw [hset]
      refine InitiatorPaymentState.without_of_get? fun k t' ht' => ?_
      simp only [setTransfer, get?_set] at ht'
      split_ifs at ht'
      · cases ht'
        rw [payment, hdesc]
        exact hw.get? hold
      · exact hw.get? ht'

end OtherPayments

/-! ## A payment with one transfer -/

/-- the payment has the transfer and no other one -/
def InitiatorPaymentState.Only (p : InitiatorPaymentState) (k : Bytes) (t : InitiatorTransferState) : Prop :=
  ∀ h, p.initiatorTransfers.get? h = if h = k then some t else none

/-- what is known of a payment with one transfer -/
inductive PaymentProgress (pid : ℕ) (k : Bytes) (tn : Address) (blockNumber : ℕ) (nets : Networks) (sent : List Event)
    (p : InitiatorPaymentState) : Prop
  | finished (hnone : ∀ h, p.initiatorTransfers.get? h = none) (hsent : (outcomes pid sent).length ≤ 1)
  | running (t : InitiatorTransferState) (honly : p.Only k t) (hpayment : t.payment = pid)
      (hprogress : Progress pid k t blockNumber (nets.channel tn t.channelIdentifier) sent)

section OnePayment

variable {env : Env} {p : InitiatorPaymentState} {nets nets' : Networks} {tn : Address} {blockNumber blockNumber' pid : ℕ}
  {k : Bytes} {t : InitiatorTransferState} {stateChange : InitiatorStateChange} {x : Iteration}
  {sent : List Event}

theorem InitiatorPaymentState.Only.keys (h : p.Only k t) : p.initiatorTransfers.keys = [k] := by
  refine perm_singleton.1 ((perm_ext_iff_of_nodup p.initiatorTransfers.nodup (nodup_singleton k)).2 fun k' => ?_)
  rw [mem_singleton]
  constructor
  · intro hmem
    obtain ⟨t', ht'⟩ := exists_of_mem_keys hmem
    rw [h k'] at ht'
    by_contra hne
    rw [if_neg hne] at ht'
    cases ht'
  · rintro rfl
    exact mem_keys_of_get? (v := t) ((h k').trans (if_pos rfl))

theorem InitiatorPaymentState.Only.get? (h : p.Only k t) {k' : Bytes} {t' : InitiatorTransferState}
    (ht' : p.initiatorTransfers.get? k' = some t') : k' = k ∧ t' = t := by
  rw [h k'] at ht'
  split_ifs at ht' with heq
  exact ⟨heq, (some.inj ht').symm⟩

/-- what a transfer does is what its payment does -/
theorem subdispatchToInitiatortransfer_progress (honly : p.Only k t) (hkeyed : t.Keyed k) (hpayment : t.payment = pid)
    (hstored : StoredChannels nets) (htime : ∀ number, stateChange = .block number → number = blockNumber)
    (hrequest : ∀ r, stateChange = .receiveSecretRequest r → t.transferState ≠ .transferExpired)
    (hprogress : Progress pid k t blockNumber (nets.channel tn t.channelIdentifier) sent)
    (h : subdispatchToInitiatortransfer env p k t stateChange nets tn blockNumber = .ok x) :
    PaymentProgress pid k tn blockNumber x.networks (sent ++ x.events) x.newState := by
  unfold subdispatchToInitiatortransfer at h
  split at h
  · cases h
    rw [append_nil]
    exact .running t honly hpayment hprogress
  · rename_i c hc
    simp only [bind_ok] at h
    obtain ⟨sub, hsub, h⟩ := h
    rw [hc] at hprogress
    have hnext := transfer_progress hkeyed (hstored _ _ _ hc).ours htime hrequest hprogress
      (Initiator.acts_of_stateTransition hsub)
    have hfixed := (initiator_step hsub).fixed
    split at h
    · rename_i hnew
      simp only [do_ok] at h
      obtain ⟨p1, hdel, rfl⟩ := h
      rw [hnew] at hnext
      unfold delTransfer at hdel
      split_ifs at hdel
      cases hdel
      refine .finished (fun h' => ?_) hnext
      rw [get?_erase, hkeyed.1, honly h']
      split_ifs <;> rfl
    · rename_i t' hnew
      cases h
      rw [hnew] at hnext
      have hsame := hfixed t' hnew
      simp only [fixed, Prod.mk.injEq] at hsame
      refine .running t' (fun h' => ?_) ?_ ?_
      · simp only [setTransfer, get?_set, honly h']
        split_ifs <;> rfl
      · rw [payment, ← hsame.1]
        exact hpayment
      · rw [← hsame.2.2, Networks.channel_setChannel_self hc]
        exact hnext

/-- a payment without transfers has none to cancel -/
theorem cancelOtherTransfers_none (h : ∀ h', p.initiatorTransfers.get? h' = none) :
    cancelOtherTransfers p = p := by
  have hentries : p.initiatorTransfers.entries = [] := by
    refine eq_nil_iff_forall_not_mem.2 fun y hy => ?_
    have hsome := get?_eq_some.2 (show (y.1, y.2) ∈ p.initiatorTransfers.entries from hy)
    rw [h] at hsome
    cases hsome
  rw [cancelOtherTransfers, hentries]
  rfl

/-- operations that send no transfer with the secrethash -/
theorem Trace.recedes {ok : ChannelAct → Prop} {sent : List Event} (h : Trace env ok nets sent nets')
    (hstored : StoredChannels nets)
    (hok : ∀ a, ok a → ∀ args, a.op = .sendLockedtransfer args → args.secrethash ≠ k) (tn : Address) (id : ℕ) :
    ∀ c' ∈ nets'.channel tn id, held c'.ourState k = [] ∨ ∃ c ∈ nets.channel tn id, Recedes k c c' := by
  intro c' hc'
  obtain ⟨c, hc, -, hrec⟩ := hstored.related (R := Recedes k) h (.refl k) .trans
    (fun a c c' events ha hc happly => recedes_apply hc.ours (hok a ha) happly) tn id c' hc'
  exact .inr ⟨c, hc, hrec⟩

/-- **A payment with one transfer.** It is not rerouted, and not asked for its secret after it has expired. -/
theorem manager_progress (honly : p.Only k t) (hkeyed : t.Keyed k) (hpayment : t.payment = pid) (hstored : StoredChannels nets)
    (hcancel : stateChange ≠ .actionCancelPayment)
    (hreroute : ∀ refund secret, stateChange ≠ .actionTransferReroute refund secret)
    (htime : ∀ number, stateChange = .block number → number = blockNumber)
    (hrequest : ∀ r, stateChange = .receiveSecretRequest r → t.transferState ≠ .transferExpired)
    (hprogress : Progress pid k t blockNumber (nets.channel tn t.channelIdentifier) sent)
    (h : InitiatorManager.Acts env p nets tn blockNumber stateChange x) :
    PaymentProgress pid k tn blockNumber x.networks (sent ++ x.events) x.newState := by
  cases h with
  | idle | routeCancelled => exact .running t honly hpayment (hprogress.unsent rfl)
  | block hblock =>
    simp only [honly.keys, subdispatchToTransfers, honly k, if_true, do_ok, Except.ok.injEq] at hblock
    obtain ⟨sub, hsub, others, rfl, rfl⟩ := hblock
    rw [append_nil]
    exact subdispatchToInitiatortransfer_progress honly hkeyed hpayment hstored htime hrequest hprogress hsub
  | cancelled => exact absurd rfl hcancel
  | transfer _ ht hsub =>
    obtain ⟨rfl, rfl⟩ := honly.get? ht
    exact subdispatchToInitiatortransfer_progress honly hkeyed hpayment hstored htime hrequest hprogress hsub
  | @finished _ k' _ _ _ _ ht hgone hsub =>
    obtain ⟨rfl, rfl⟩ := honly.get? ht
    cases subdispatchToInitiatortransfer_progress honly hkeyed hpayment hstored htime hrequest hprogress hsub with
    | finished hnone hsent =>
      rw [cancelOtherTransfers_none hnone]
      exact .finished hnone hsent
    | running t1 honly1 _ _ =>
      rw [Dict.contains, honly1 k', if_pos rfl] at hgone
      cases hgone
  | lockExpired m failed hc =>
    have htrace : Trace env (·.op = .receiveLockExpired m) nets _ _ :=
      .one (.receiveLockExpired m) blockNumber [] hc rfl rfl (forall_mem_nil (Event.committed · = false))
    refine .running t honly hpayment
      ((hprogress.recedes le_rfl (htrace.recedes hstored ?_ _ _)).unsent (lockExpired_outcomes ..))
    rintro a ha args hop
    rw [ha] at hop
    cases hop
  | refunded refund secret => exact absurd rfl (hreroute refund secret)
  | rerouted => exact absurd rfl (hreroute _ _)

end OnePayment

/-! ## Nodes -/

/-- no task has a transfer of the payment -/
def ChainState.Without (pid : ℕ) (s : ChainState) : Prop :=
  ∀ k payment, s.secrethashesToTask.get? k = some (.initiator payment) → payment.managerState.Without pid

/-- what is known of a payment: it does not run, or one task has its only transfer -/
inductive PaymentStatus (pid : ℕ) (started : Prop) (s : ChainState) (sent : List Event) : Prop
  | idle (hwithout : s.Without pid) (hsent : (outcomes pid sent).length ≤ 1) (hfresh : ¬ started → outcomes pid sent = [])
  | running (hstarted : started) (k : Bytes) (payment : InitiatorTask) (t : InitiatorTransferState)
      (htask : s.secrethashesToTask.get? k = some (.initiator payment)) (honly : payment.managerState.Only k t)
      (hpayment : t.payment = pid)
      (hothers : ∀ k' payment', k' ≠ k → s.secrethashesToTask.get? k' = some (.initiator payment') →
        payment'.managerState.Without pid)
      (hprogress : Progress pid k t s.blockNumber (s.networks.channel payment.tokenNetworkAddress t.channelIdentifier) sent)

section Nodes

variable {env : Env} {s s' : ChainState} {stateChange : StateChange} {events sent : List Event} {pid : ℕ} {key : Bytes}
  {started : Prop} {args : TransferArgs} {blockNumber : ℕ} {nets' : Networks} {o : Option TransferTask}
  {routes : List RouteState} {t : InitiatorTransferState} {receives : ChannelAct → Prop}
  {newState : Option InitiatorPaymentState} {nets : Networks} {d : TransferDescriptionWithSecret}

theorem InitiatorPaymentState.Only.not_without {p : InitiatorPaymentState} {k : Bytes}
    (h : p.Only k t) (ht : t.payment = pid) : ¬ p.Without pid :=
  fun hw => hw.get? ((h k).trans (if_pos rfl)) ht

theorem PaymentStatus.length_le (h : PaymentStatus pid started s sent) : (outcomes pid sent).length ≤ 1 := by
  cases h with
  | idle _ hsent _ => exact hsent
  | running _ _ _ _ _ _ _ _ hprogress => exact hprogress.length_le

/-- the locks of every secrethash but `key` become fewer -/
def NetsRecede (key : Option Bytes) (nets nets' : Networks) : Prop :=
  ∀ k tn id, some k ≠ key → ∀ c' ∈ nets'.channel tn id,
    held c'.ourState k = [] ∨ ∃ c ∈ nets.channel tn id, Recedes k c c'

theorem NetsRecede.refl (key : Option Bytes) (nets : Networks) : NetsRecede key nets nets :=
  fun k _ _ _ c hc => .inr ⟨c, hc, .refl k c⟩

theorem Trace.netsRecede {ok : ChannelAct → Prop} {sent : List Event}
    (h : Trace env ok nets sent nets') (hstored : StoredChannels nets)
    (hok : ∀ a, ok a → ∀ args, a.op = .sendLockedtransfer args → args.secrethash = key) :
    NetsRecede (some key) nets nets' := by
  intro k tn id hk
  exact h.recedes hstored (fun a ha args hop heq => hk (by rw [← heq, hok a ha args hop])) tn id

theorem TaskAct.sends {a : ChannelAct} (h : TaskAct env key receives a)
    (hop : a.op = .sendLockedtransfer args) : args.secrethash = key := by
  simp only [TaskAct, hop, ChannelOp.receivesLock, Bool.false_eq_true, if_false, ChannelOp.about, ChannelOp.Expires] at h
  rcases h with h | ⟨_, h⟩
  · exact some.inj h
  · cases h

/-- tasks without a transfer of the payment come and go, and the task of the payment stays or is replaced by such a task -/
theorem PaymentStatus.frame {key : Option Bytes} (hst : PaymentStatus pid started s sent) (hevents : outcomes pid events = [])
    (htasks : ∀ k payment, s'.secrethashesToTask.get? k = some (.initiator payment) → payment.managerState.Without pid ∨
      s.secrethashesToTask.get? k = some (.initiator payment))
    (hkept : ∀ k payment, s.secrethashesToTask.get? k = some (.initiator payment) → ¬ payment.managerState.Without pid →
      (∀ payment', s'.secrethashesToTask.get? k = some (.initiator payment') → payment'.managerState.Without pid) ∨
        some k ≠ key ∧ s'.secrethashesToTask.get? k = some (.initiator payment))
    (htime : s.blockNumber ≤ s'.blockNumber) (hnets : NetsRecede key s.networks s'.networks) :
    PaymentStatus pid started s' (sent ++ events) := by
  have hsame : outcomes pid (sent ++ events) = outcomes pid sent := by rw [outcomes_append, hevents, append_nil]
  cases hst with
  | idle hwithout hsent hfresh =>
    refine .idle (fun k payment hk => ?_) (hsame ▸ hsent) (fun hne => hsame.trans (hfresh hne))
    exact (htasks k payment hk).elim id (hwithout k payment)
  | running hstarted k payment t htask honly hpayment hothers hprogress =>
    have hrest : ∀ k' payment', k' ≠ k → s'.secrethashesToTask.get? k' = some (.initiator payment') →
        payment'.managerState.Without pid :=
      fun k' payment' hk' htask' => (htasks k' payment' htask').elim id (hothers k' payment' hk')
    rcases hkept k payment htask (honly.not_without hpayment) with hgone | ⟨hne, hstays⟩
    · refine .idle (fun k' payment' htask' => ?_) (hsame ▸ hprogress.length_le) (absurd hstarted)
      by_cases hk' : k' = k
      · exact hgone payment' (hk' ▸ htask')
      · exact hrest k' payment' hk' htask'
    · exact .running hstarted k payment t hstays honly hpayment hrest
        ((hprogress.recedes htime (hnets k _ _ hne)).unsent hevents)

/-- the task of `key`, which is not about the payment, does something -/
theorem PaymentStatus.other (hst : PaymentStatus pid started s sent)
    (hforeign : ∀ payment, s.secrethashesToTask.get? key = some (.initiator payment) → payment.managerState.Without pid)
    (hevents : outcomes pid events = [])
    (htasks : ∀ k, s'.secrethashesToTask.get? k = if k = key then o else s.secrethashesToTask.get? k)
    (ho : ∀ payment, o = some (.initiator payment) → payment.managerState.Without pid)
    (htime : s'.blockNumber = s.blockNumber) (hnets : NetsRecede (some key) s.networks s'.networks) :
    PaymentStatus pid started s' (sent ++ events) := by
  refine hst.frame hevents (fun k payment hk => ?_) (fun k payment hk hnot => .inr ?_) htime.ge hnets
  · rw [htasks] at hk
    split_ifs at hk
    · exact .inl (ho payment hk)
    · exact .inr hk
  · have hne : k ≠ key := by
      rintro rfl
      exact hnot (hforeign payment hk)
    exact ⟨fun heq => hne (some.inj heq), by rwa [htasks, if_neg hne]⟩

/-- a task that is set anew without a transfer of the payment -/
theorem PaymentStatus.setTask (hst : PaymentStatus pid started s sent)
    (hforeign : ∀ payment, s.secrethashesToTask.get? key = some (.initiator payment) → payment.managerState.Without pid)
    (hevents : outcomes pid events = []) (ho : ∀ payment, o = some (.initiator payment) → payment.managerState.Without pid)
    (hnets : NetsRecede (some key) s.networks nets) :
    PaymentStatus pid started (setTask { s with networks := nets } key o) (sent ++ events) := by
  refine hst.other hforeign hevents (setTask_get? _ _ · _) ho (setTask_blockNumber _ _ _) ?_
  rwa [setTask_networks]

/-- a task that is no payment does something -/
theorem PaymentStatus.foreign (hst : PaymentStatus pid started s sent) (hstored : StoredChannels s.networks)
    (htask : ∀ payment, s.secrethashesToTask.get? key ≠ some (.initiator payment))
    (ho : ∀ payment, o ≠ some (.initiator payment)) (h : Acts env (TaskAct env key receives) s.networks events nets) :
    PaymentStatus pid started (Node.setTask { s with networks := nets } key o) (sent ++ events) :=
  hst.setTask (fun payment hp => absurd hp (htask payment)) (outcomes_of_unsent h.unsent)
    (fun payment hp => absurd hp (ho payment)) (h.trace.netsRecede hstored fun _ ha _ hop => ha.sends hop)

/-- no task does anything -/
theorem PaymentStatus.still (hst : PaymentStatus pid started s sent) (htasks : s'.secrethashesToTask = s.secrethashesToTask)
    (hevents : outcomes pid events = []) (htime : s.blockNumber ≤ s'.blockNumber)
    (hnets : NetsRecede none s.networks s'.networks) : PaymentStatus pid started s' (sent ++ events) :=
  hst.frame hevents (fun _ _ hk => .inr (htasks ▸ hk)) (fun _ _ hk _ => .inr ⟨by simp, htasks ▸ hk⟩) htime hnets

theorem toInitiator_ne_reroute (h : ∀ refund secret, stateChange ≠ .actionTransferReroute refund secret)
    (refund : LockedTransferSigned) (secret : Bytes) : stateChange.toInitiator ≠ .actionTransferReroute refund secret := by
  cases stateChange <;> simp_all [StateChange.toInitiator]

theorem toInitiator_request {r : ReceiveSecretRequest} (h : stateChange.toInitiator = .receiveSecretRequest r) :
    stateChange = .receiveSecretRequest r := by
  cases stateChange <;> simp_all [StateChange.toInitiator]

theorem toInitiator_block {number : ℕ} (h : stateChange.toInitiator = .block number) :
    ∃ hash, stateChange = .block number hash := by
  cases stateChange <;> simp_all [StateChange.toInitiator]

/-- a payment that is finished is removed -/
theorem PaymentProgress.status {tn : Address} {x : Iteration}
    (h : PaymentProgress pid key tn s.blockNumber x.networks (sent ++ events) x.newState) (hstarted : started)
    (hothers : ∀ k' payment', k' ≠ key → s.secrethashesToTask.get? k' = some (.initiator payment') →
      payment'.managerState.Without pid) : PaymentStatus pid started (setTask { s with networks := x.networks } key
      ((clearIfFinalized (some x.newState)).map fun p => .initiator ⟨tn, p⟩)) (sent ++ events) := by
  cases h with
  | finished hnone hsent =>
    have hkeys : x.newState.initiatorTransfers.keys = [] :=
      eq_nil_iff_forall_not_mem.2 fun k' => get?_eq_none.1 (hnone k')
    rw [clearIfFinalized, if_pos hkeys]
    refine .idle (fun k' payment' htask' => ?_) hsent (absurd hstarted)
    rw [setTask_get?] at htask'
    split_ifs at htask' with heq
    · cases htask'
    · exact hothers k' payment' heq htask'
  | running t honly hpayment hprogress =>
    have hkeys : x.newState.initiatorTransfers.keys ≠ [] := by
      rw [honly.keys]
      exact cons_ne_nil _ _
    rw [clearIfFinalized, if_neg hkeys]
    refine .running hstarted key ⟨tn, x.newState⟩ t ?_ honly hpayment (fun k' payment' hk' htask' => ?_) ?_
    · rw [setTask_get?, if_pos rfl]
      rfl
    · rw [setTask_get?, if_neg hk'] at htask'
      exact hothers k' payment' hk' htask'
    · rw [setTask_blockNumber, setTask_networks]
      exact hprogress

/-- **Tasks.** The payment itself is not rerouted, and not asked for its secret after it has expired. -/
theorem status_task (hok : NodeOk s) (hkey : ∀ k', stateChange.key env = some k' → k' = key)
    (htime : ∀ number hash, stateChange = .block number hash → s.blockNumber = number)
    (hown : ∀ payment, s.secrethashesToTask.get? key = some (.initiator payment) → ¬ payment.managerState.Without pid →
      (∀ refund secret, stateChange ≠ .actionTransferReroute refund secret) ∧
      ∀ r t, stateChange = .receiveSecretRequest r → payment.managerState.initiatorTransfers.get? key = some t →
        t.payment = pid → t.transferState ≠ .transferExpired)
    (hst : PaymentStatus pid started s sent) (h : subdispatchToPaymenttask env s stateChange key = .ok (s', events)) :
    PaymentStatus pid started s' (sent ++ events) := by
  have htrace := (task_trace hok.keyed hkey h).1
  have hnets : NetsRecede (some key) s.networks s'.networks :=
    htrace.netsRecede hok.stored fun a ha args hop => ha.sends hop
  cases htask : s.secrethashesToTask.get? key with
  | none =>
    obtain ⟨rfl, rfl⟩ := subdispatch_none htask h
    rwa [append_nil]
  | some task =>
    cases task with
    | initiator payment =>
      rcases subdispatch_initiator htask h with ⟨rfl, rfl⟩ | ⟨x, hx, rfl, rfl⟩
      · rwa [append_nil]
      by_cases hwithout : payment.managerState.Without pid
      · obtain ⟨hevents, hnew⟩ := manager_without hwithout stateChange.toInitiator_ne_cancel hx
        refine hst.other (fun payment' hp' => ?_) hevents (setTask_get? _ key · _) (fun payment' hp' => ?_)
          (setTask_blockNumber _ _ _) hnets
        · cases htask.symm.trans hp'
          exact hwithout
        · simp only [map_eq_some_iff] at hp'
          obtain ⟨p, hp, heq⟩ := hp'
          cases clearIfFinalized_mem hp
          cases heq
          exact hnew
      · obtain ⟨hreroute, hrequest⟩ := hown payment htask hwithout
        cases hst with
        | idle hidle _ _ => exact absurd (hidle key payment htask) hwithout
        | running hstarted k payment' t htask' honly hpayment hothers hprogress =>
          have hk : k = key := by
            by_contra hne
            exact hwithout (hothers key payment (Ne.symm hne) htask)
          subst hk
          cases htask.symm.trans htask'
          have hsome : payment.managerState.initiatorTransfers.get? k = some t := (honly k).trans (if_pos rfl)
          have hnext := manager_progress honly (hok.keyed k _ htask k t hsome) hpayment hok.stored
            stateChange.toInitiator_ne_cancel (toInitiator_ne_reroute hreroute)
            (fun number heq => (toInitiator_block heq).elim fun hash hblock => (htime number hash hblock).symm)
            (fun r heq => hrequest r t (toInitiator_request heq) hsome hpayment) hprogress hx
          exact hnext.status hstarted hothers
    | mediator task =>
      rcases subdispatch_mediator htask h with ⟨rfl, rfl⟩ | ⟨x, hx, rfl, rfl⟩
      · rwa [append_nil]
      have hacts := (mediator_acts (fun m hm => mem_some_iff.1 hm ▸ hok.keyed _ _ htask)
        (fun k' hk' => hkey k' (StateChange.toMediator_key hk')) hx).1
      exact hst.foreign hok.stored (by simp [htask]) (by simp) hacts
    | target task =>
      rcases subdispatch_target htask h with ⟨rfl, rfl⟩ | ⟨c, x, hc, hx, rfl, rfl⟩
      · rwa [append_nil]
      have hacts := (target_acts (fun t ht => mem_some_iff.1 ht ▸ hok.keyed _ _ htask)
        (fun k' hk' => hkey k' (StateChange.toTarget_key hk')) hc hx).1
      exact hst.foreign hok.stored (by simp [htask]) (by simp) hacts

/-- the first attempt of another payment -/
theorem handleInit_without (hpid : d.paymentIdentifier ≠ pid)
    (h : handleInit env none d routes nets blockNumber = .ok (newState, nets', events)) :
    outcomes pid events = [] ∧ ∀ p ∈ newState, p.Without pid := by
  simp only [handleInit, bind_ok, Prod.exists] at h
  obtain ⟨new, nets1, events1, hroute, h⟩ := h
  have hevents : outcomes pid events1 = [] := (tryNewRoute_outcome hroute).1.tells.outcomes hpid.symm
  cases new with
  | none =>
    cases h
    exact ⟨hevents, by simp⟩
  | some t =>
    cases h
    refine ⟨hevents, fun p hp => ?_⟩
    cases hp
    refine InitiatorPaymentState.without_of_get? fun k t' ht' => ?_
    simp only [get?_set, get?_empty] at ht'
    split_ifs at ht'
    cases ht'
    rw [payment, (tryNewRoute_keyed hroute).2]
    exact hpid

/-- **Moves.** A move that does not start, reroute or ask for the payment. -/
theorem status_move (hok : NodeOk s)
    (hinit : ∀ d routes, stateChange = .actionInitInitiator d routes → s.secrethashesToTask.get? d.secrethash = none →
      d.paymentIdentifier ≠ pid) (hreroute : ∀ refund secret, stateChange ≠ .actionTransferReroute refund secret)
    (hrequest : ∀ r, stateChange ≠ .receiveSecretRequest r)
    (htime : ∀ number hash, stateChange = .block number hash → s.blockNumber ≤ number) (hst : PaymentStatus pid started s sent)
    (h : NodeMove env stateChange s events s') : PaymentStatus pid started s' (sent ++ events) := by
  cases h with
  | queues _ => exact hst.still rfl rfl le_rfl (.refl none _)
  | time number hash heq => exact hst.still rfl rfl (htime number hash heq) (.refl none _)
  | channel change _ hc h =>
    have happly : applyOp env _ s.blockNumber s.blockHash (.transition change) = .ok (_, events) := h
    refine hst.still rfl (outcomes_of_unsent (applyOp_unsent happly)) le_rfl ?_
    intro k tn id _
    refine (channel_trace hc h).recedes hok.stored ?_ tn id
    rintro a ⟨change', hchange'⟩ args hop
    rw [hchange'] at hop
    cases hop
  | network tn h =>
    refine hst.still rfl rfl le_rfl fun k tn' id _ c' hc' => .inr ⟨c', ?_, .refl k c'⟩
    simp only [Networks.channel, get?_set, mem_def] at hc' ⊢
    split_ifs at hc'
    · cases hc'
    · exact hc'
  | channelNew details h =>
    refine hst.still rfl rfl le_rfl fun k tn' id _ c' hc' => ?_
    rcases Networks.channel_setChannel_new hc' with ⟨-, -, rfl⟩ | hsame
    · exact .inl rfl
    · exact .inr ⟨c', hsame, .refl k c'⟩
  | task key hkey hblock h =>
    exact status_task hok hkey hblock (fun _ _ _ => ⟨hreroute, fun r _ heq => absurd heq (hrequest r)⟩) hst h
  | copy transfer secret hchange _ => exact absurd hchange (hreroute transfer secret)
  | initiator d routes hchange htask h =>
    obtain ⟨hevents, hnew⟩ := handleInit_without (hinit d routes hchange htask) h
    refine hst.setTask (fun payment hp => ?_) hevents (fun payment hp => ?_) ?_
    · rw [htask] at hp
      cases hp
    · simp only [map_eq_some_iff] at hp
      obtain ⟨p, hp, heq⟩ := hp
      cases heq
      exact hnew p (clearIfFinalized_mem hp)
    · refine (handleInit_trace h).1.netsRecede hok.stored fun a ha args hop => ?_
      have habout := ha.1
      rw [hop] at habout
      exact some.inj habout
  | mediator fromHop routes transfer hchange htask h =>
    exact hst.foreign hok.stored (by simp [htask]) (by simp) (mediator_acts (by simp) (key_unique rfl) h).1
  | target fromHop transfer valid hchange htask hc h =>
    exact hst.foreign hok.stored (by simp [htask]) (by simp) (target_acts (by simp) (key_unique rfl) hc h).1
  | retarget fromHop transfer valid hchange htask hc hlock =>
    refine PaymentStatus.setTask hst (fun payment hp => ?_) rfl (fun payment hp => ?_) (.refl _ s.networks)
    · cases htask.symm.trans hp
    · cases hp

/-- the queues of messages do not matter -/
theorem PaymentStatus.updateQueues (h : PaymentStatus pid started s sent) (stateChange : StateChange) (events : List Event) :
    PaymentStatus pid started (Node.updateQueues s stateChange events) sent := by
  rw [updateQueues_eq]
  have hsame : PaymentStatus pid started { s with
      pendingTransactions := (Node.updateQueues s stateChange events).pendingTransactions
      queueidsToQueues := (Node.updateQueues s stateChange events).queueidsToQueues } (sent ++ []) :=
    h.still rfl rfl le_rfl (.refl none _)
  rwa [append_nil] at hsame

theorem PaymentStatus.mono {started' : Prop} (himp : started → started') (h : PaymentStatus pid started s sent) :
    PaymentStatus pid started' s sent := by
  cases h with
  | idle hwithout hsent hfresh => exact .idle hwithout hsent fun hne => hfresh fun hstarted => hne (himp hstarted)
  | running hstarted k payment t htask honly hpayment hothers hprogress =>
    exact .running (himp hstarted) k payment t htask honly hpayment hothers hprogress

theorem sendLockedtransfer_locked {c c' : NettingChannelState} {transfer : LockedTransferUnsigned}
    (h : sendLockedtransfer env c args = .ok (c', transfer)) :
    c'.ourState.secrethashesToLockedlocks.get? transfer.lock.secrethash = some transfer.lock ∧
      c'.canonicalIdentifier = c.canonicalIdentifier := by
  simp only [sendLockedtransfer, do_ok, Prod.exists, Prod.mk.injEq] at h
  obtain ⟨t, locks, -, rfl, rfl⟩ := h
  exact ⟨get?_set_self _ _ _, rfl⟩

/-- the lock of a new transfer is in its channel -/
theorem tryNewRoute_progress {candidates : List RouteState} (hstored : StoredChannels nets) (hsent : outcomes pid sent = [])
    (h : Initiator.tryNewRoute env nets candidates d blockNumber = .ok (some t, nets', events)) :
    Progress pid d.secrethash t blockNumber (nets'.channel d.tokenNetworkAddress t.channelIdentifier) (sent ++ events) := by
  have hhash := (tryNewRoute_keyed h).1.1
  have hevents : outcomes pid events = [] := outcomes_of_unsent ((tryNewRoute_outcome h).2 rfl)
  simp only [Initiator.tryNewRoute] at h
  split at h
  · cases h
  · rename_i route id c hchosen
    simp only [do_ok, Prod.exists, Prod.mk.injEq, some.injEq] at h
    obtain ⟨c1, transfer, hsend, rfl, rfl, rfl⟩ := h
    have hc : nets.channel d.tokenNetworkAddress id = some c := by
      split at hchosen
      · cases hchosen
      · exact chooseRoute_channel hchosen
    simp only [Initiator.sendLockedtransfer, bind_ok] at hsend
    obtain ⟨-, -, amount, -, hsend⟩ := hsend
    obtain ⟨hlocked, hsame⟩ := sendLockedtransfer_locked hsend
    have hid : c1.identifier = id := by
      rw [NettingChannelState.identifier, hsame]
      exact (hstored _ _ _ hc).identifier
    refine .running (by simp) (by rw [outcomes_append, hsent, hevents, nil_append]) fun c' hc' l hl => ?_
    dsimp only at hc' hhash ⊢
    rw [hid, Networks.channel_setChannel_self hc] at hc'
    cases hc'
    rw [← hhash, hlocked] at hl
    exact (some.inj hl).symm

/-- a payment that is asked for the first time -/
theorem status_handleInit (hstored : StoredChannels s.networks) (hpid : d.paymentIdentifier = pid)
    (hwithout : s.Without pid) (hsent : outcomes pid sent = [])
    (h : handleInit env none d routes s.networks s.blockNumber = .ok (newState, nets, events)) :
    PaymentStatus pid True (setTask { s with networks := nets } d.secrethash
      ((clearIfFinalized newState).map fun p => .initiator ⟨d.tokenNetworkAddress, p⟩))
      (sent ++ events) := by
  simp only [handleInit, bind_ok, Prod.exists] at h
  obtain ⟨new, nets1, events1, hroute, h⟩ := h
  have hothers : ∀ k' payment', k' ≠ d.secrethash → s.secrethashesToTask.get? k' = some (.initiator payment') →
      payment'.managerState.Without pid := fun k' payment' _ htask' => hwithout k' payment' htask'
  cases new with
  | none =>
    cases h
    refine .idle (fun k payment hk => ?_) (length_outcomes_append hsent (tryNewRoute_outcome hroute).1) (absurd trivial)
    rw [setTask_get?] at hk
    split_ifs at hk with heq
    · cases hk
    · exact hwithout k payment hk
  | some t =>
    cases h
    obtain ⟨hkeyed, hdesc⟩ := tryNewRoute_keyed hroute
    have honly : InitiatorPaymentState.Only ⟨routes, empty.set t.transfer.lock.secrethash t, []⟩ d.secrethash t := by
      intro k
      rw [hkeyed.1, get?_set, get?_empty]
    have hprogress : PaymentProgress pid d.secrethash d.tokenNetworkAddress s.blockNumber nets (sent ++ events)
        ⟨routes, empty.set t.transfer.lock.secrethash t, []⟩ :=
      .running t honly (by rw [payment, hdesc]; exact hpid) (tryNewRoute_progress hstored hsent hroute)
    exact hprogress.status (x := ⟨_, nets, events⟩) trivial hothers

/-- **Starts.** A payment that is asked for a second time must not be this one. -/
theorem status_init (hok : NodeOk s)
    (hinit : d.paymentIdentifier = pid → ¬ started) (hst : PaymentStatus pid started s sent)
    (h : subdispatchInitiatortask env s d routes = .ok (s', events)) :
    PaymentStatus pid (started ∨ d.paymentIdentifier = pid) s' (sent ++ events) := by
  by_cases hstart : d.paymentIdentifier = pid ∧ s.secrethashesToTask.get? d.secrethash = none
  · obtain ⟨hpid, htask⟩ := hstart
    cases hst with
    | running hstarted => exact absurd hstarted (hinit hpid)
    | idle hwithout hsent hfresh =>
      simp only [subdispatchInitiatortask, htask] at h
      split at h
      · simp only [do_ok, Prod.exists, Prod.mk.injEq] at h
        obtain ⟨newState, nets, events', hhandle, rfl, rfl⟩ := h
        exact (status_handleInit hok.stored hpid hwithout (hfresh (hinit hpid)) hhandle).mono fun _ => .inr hpid
      · cases h
        rw [append_nil]
        exact .idle hwithout hsent fun hne => absurd (.inr hpid) hne
  · refine PaymentStatus.mono (fun hstarted => .inl hstarted) ?_
    rcases subdispatchInitiatortask_move h with ⟨rfl, rfl⟩ | hmove
    · rwa [append_nil]
    · refine status_move hok ?_ (by simp) (by simp) (by simp) hst hmove
      rintro _ _ heq htask hpid
      cases heq
      exact hstart ⟨hpid, htask⟩

/-- **Reroutes.** Another payment is rerouted; its copy may replace this one. -/
theorem status_reroute {transfer : LockedTransferSigned} {secret : Bytes} {payment : InitiatorTask} (hok : NodeOk s)
    (htask : s.secrethashesToTask.get? transfer.lock.secrethash = some (.initiator payment))
    (hwithout : payment.managerState.Without pid) (hst : PaymentStatus pid started s sent)
    (h : handleActionTransferReroute env s transfer secret = .ok (s', events)) :
    PaymentStatus pid started s' (sent ++ events) := by
  simp only [handleActionTransferReroute, htask] at h
  have hcopy : PaymentStatus pid started (setTask s (env.sha256 secret) (some (.initiator payment))) (sent ++ []) := by
    have hnets : NetsRecede none s.networks (setTask s (env.sha256 secret) (some (.initiator payment))).networks := by
      rw [setTask_networks]
      exact .refl none _
    refine hst.frame rfl (fun k payment' hk => ?_) (fun k payment' hk _ => ?_) (setTask_blockNumber _ _ _).ge hnets
    · rw [setTask_get?] at hk
      split_ifs at hk
      · cases hk
        exact .inl hwithout
      · exact .inr hk
    · rw [setTask_get?]
      split_ifs
      · refine .inl fun payment'' heq => ?_
        cases heq
        exact hwithout
      · exact .inr ⟨by simp, hk⟩
  rw [append_nil] at hcopy
  have hmove : NodeMove env (.actionTransferReroute transfer secret) s []
      (setTask s (env.sha256 secret) (some (.initiator payment))) := .copy transfer secret rfl htask
  have hok' : NodeOk (setTask s (env.sha256 secret) (some (.initiator payment))) := by
    exact nodeOk_move hmove (fun task' htask' => ⟨payment, some.inj (htask'.symm.trans htask)⟩) hok
  refine status_task hok' (key_unique rfl) (by simp) (fun payment' hp' hnot => ?_) hcopy h
  rw [setTask_get?, if_pos rfl] at hp'
  cases hp'
  exact absurd hwithout hnot

/-- the time of a node changes only with a block -/
theorem move_blockNumber (h : NodeMove env stateChange s events s') :
    s'.blockNumber = s.blockNumber ∨ ∃ hash, stateChange = .block s'.blockNumber hash := by
  cases h with
  | time number hash heq => exact .inr ⟨hash, heq⟩
  | task key _ _ h => exact .inl (subdispatch_blockNumber h)
  | copy | initiator | mediator | target | retarget => exact .inl (setTask_blockNumber _ _ _)
  | _ => exact .inl rfl

end Nodes

/-! ## Runs -/

/-- a node with all it has sent and the payments it was asked for -/
structure NodeLog where
  chain : ChainState
  sent : List Event
  started : List ℕ

/-- the payment that a state change asks for -/
def StateChange.starts : StateChange → List ℕ
  | .actionInitInitiator d _ => [d.paymentIdentifier]
  | _ => []

/-- a state change reaches the node; one that raises has no effect -/
def logStep (env : Env) (s : NodeLog) (stateChange : StateChange) : NodeLog :=
  ⟨advance (Node.stateTransition env) s.chain stateChange, s.sent ++ emitted (Node.stateTransition env) s.chain stateChange,
    s.started ++ stateChange.starts⟩

def NodeLog.initial (ourAddress : Address) (chainId blockNumber : ℕ) (blockHash : Bytes) : NodeLog :=
  ⟨.initial ourAddress chainId blockNumber blockHash, [], []⟩

/-- The payment is asked for once and never rerouted, and its secret is not requested after it has expired. Blocks come in
order, and only payments are rerouted. -/
def PaymentOnce (pid : ℕ) (s : NodeLog) : StateChange → Prop
  | .block number _ => s.chain.blockNumber ≤ number
  | .actionInitInitiator d _ => d.paymentIdentifier = pid → pid ∉ s.started
  | .actionTransferReroute transfer _ =>
    match s.chain.secrethashesToTask.get? transfer.lock.secrethash with
    | none => True
    | some (.initiator payment) => payment.managerState.Without pid
    | some _ => False
  | .receiveSecretRequest r =>
    match s.chain.secrethashesToTask.get? r.secrethash with
    | some (.initiator payment) => ∀ t ∈ payment.managerState.initiatorTransfers.get? r.secrethash,
        t.payment = pid → t.transferState ≠ .transferExpired
    | _ => True
  | _ => True

instance (pid : ℕ) (s : NodeLog) (stateChange : StateChange) : Decidable (PaymentOnce pid s stateChange) := by
  unfold PaymentOnce
  split
  · infer_instance
  · infer_instance
  · split <;> infer_instance
  · split <;> infer_instance
  · infer_instance

/-- the invariant of a run -/
structure PaymentTold (pid : ℕ) (s : NodeLog) : Prop where
  ok : NodeOk s.chain
  status : PaymentStatus pid (pid ∈ s.started) s.chain s.sent

section Runs

variable {env : Env} {s : NodeLog} {stateChange : StateChange} {pid : ℕ}

theorem status_transition {chain chain' : ChainState} {sent events : List Event} {started : Prop} (hok : NodeOk chain)
    (hinit : ∀ d routes, stateChange ≠ .actionInitInitiator d routes)
    (hreroute : ∀ refund secret, stateChange ≠ .actionTransferReroute refund secret)
    (hrequest : ∀ r, stateChange ≠ .receiveSecretRequest r)
    (htime : ∀ number hash, stateChange = .block number hash → chain.blockNumber ≤ number)
    (hst : PaymentStatus pid started chain sent) (h : Node.stateTransition env chain stateChange = .ok (chain', events)) :
    PaymentStatus pid started chain' (sent ++ events) := by
  -- the time is part of the invariant of the moves: the moves after the first one of a block come at the time of the block
  have hstep : ∀ chain sent events chain',
      (NodeOk chain ∧ PaymentStatus pid started chain sent ∧
        ∀ number hash, stateChange = .block number hash → chain.blockNumber ≤ number) →
      NodeMove env stateChange chain events chain' →
      NodeOk chain' ∧ PaymentStatus pid started chain' (sent ++ events) ∧
        ∀ number hash, stateChange = .block number hash → chain'.blockNumber ≤ number := by
    rintro chain sent events chain' ⟨hok, hst, htime⟩ hmove
    refine ⟨nodeOk_move hmove (reroutesPayment_of_other hreroute) hok,
      status_move hok (fun d routes heq => absurd heq (hinit d routes)) hreroute hrequest htime hst hmove,
      fun number hash heq => ?_⟩
    rcases move_blockNumber hmove with hsame | ⟨hash', hblock⟩
    · rw [hsame]
      exact htime number hash heq
    · cases heq.symm.trans hblock
      exact le_rfl
  obtain ⟨chain1, h1, rfl⟩ := stateTransition_ok h
  exact (NodeMoves.invariant (P := fun chain sent => NodeOk chain ∧ PaymentStatus pid started chain sent ∧
    ∀ number hash, stateChange = .block number hash → chain.blockNumber ≤ number) hstep (handleStateChange_moves h1)
    ⟨hok, hst, htime⟩).2.1.updateQueues _ _

theorem PaymentOnce.reroutes (h : PaymentOnce pid s stateChange) : ReroutesPayment s.chain stateChange := by
  unfold ReroutesPayment
  split
  · intro task htask
    simp only [PaymentOnce, htask] at h
    cases task with
    | initiator payment => exact ⟨payment, rfl⟩
    | mediator | target => exact h.elim
  · trivial

/-- **Steps.** A step of the node that meets the condition keeps what is known of the payment. -/
theorem told_step (h : PaymentTold pid s) (hstep : PaymentOnce pid s stateChange) :
    PaymentTold pid (logStep env s stateChange) := by
  obtain ⟨hok, hst⟩ := h
  have hmono : pid ∈ s.started → pid ∈ s.started ++ stateChange.starts := mem_append_left _
  unfold logStep advance emitted
  cases htransition : Node.stateTransition env s.chain stateChange with
  | error f =>
    refine ⟨hok, ?_⟩
    dsimp only
    rw [append_nil]
    exact hst.mono hmono
  | ok x =>
    obtain ⟨chain', events⟩ := x
    refine ⟨nodeOk_transition hok hstep.reroutes htransition, ?_⟩
    dsimp only
    by_cases hspecial : (∃ d routes, stateChange = .actionInitInitiator d routes) ∨
        (∃ transfer secret, stateChange = .actionTransferReroute transfer secret) ∨
        ∃ r, stateChange = .receiveSecretRequest r
    · obtain ⟨chain1, h1, rfl⟩ := stateTransition_ok htransition
      refine PaymentStatus.updateQueues ?_ _ _
      rcases hspecial with ⟨d, routes, rfl⟩ | ⟨transfer, secret, rfl⟩ | ⟨r, rfl⟩
      · refine (status_init hok hstep hst h1).mono ?_
        rintro (hstarted | rfl)
        · exact hmono hstarted
        · exact mem_append_right _ (mem_singleton_self _)
      · refine PaymentStatus.mono hmono ?_
        simp only [PaymentOnce] at hstep
        split at hstep
        · rename_i htask
          simp only [handleStateChange, handleActionTransferReroute, htask] at h1
          cases h1
        · rename_i payment htask
          exact status_reroute hok htask hstep hst h1
        · exact hstep.elim
      · refine PaymentStatus.mono hmono ?_
        refine status_task hok (key_unique rfl) (by simp) (fun payment hp hnot => ⟨by simp, ?_⟩) hst h1
        rintro _ t heq ht hpayment
        cases heq
        simp only [PaymentOnce, hp] at hstep
        exact hstep t ht hpayment
    · refine PaymentStatus.mono hmono (status_transition hok ?_ ?_ ?_ ?_ hst htransition)
      · exact fun d routes heq => hspecial (.inl ⟨d, routes, heq⟩)
      · exact fun transfer secret heq => hspecial (.inr (.inl ⟨transfer, secret, heq⟩))
      · exact fun r heq => hspecial (.inr (.inr ⟨r, heq⟩))
      · rintro number hash rfl
        exact hstep

theorem told_initial (pid : ℕ) (ourAddress : Address) (chainId blockNumber : ℕ) (blockHash : Bytes) :
    PaymentTold pid (NodeLog.initial ourAddress chainId blockNumber blockHash) := by
  refine ⟨⟨fun k task h => ?_, fun tn id c h => ?_⟩, .idle (fun k payment h => ?_) (Nat.zero_le 1) fun _ => rfl⟩
  · cases h
  · cases h
  · cases h

/-- **One outcome.** In every run in which a payment is asked for once, is not rerouted and is not asked for its secret after
it has expired, the node tells the application at most one outcome of it. -/
theorem one_outcome_of_unrefunded_payment (env : Env) (pid : ℕ) (ourAddress : Address) (chainId blockNumber : ℕ)
    (blockHash : Bytes) (stateChanges : List StateChange)
    (h : Along (logStep env) (PaymentOnce pid) (.initial ourAddress chainId blockNumber blockHash) stateChanges) :
    (outcomes pid (runFrom (logStep env) (.initial ourAddress chainId blockNumber blockHash) stateChanges).sent).length ≤ 1 :=
  (run_invariant (logStep env) (P := PaymentTold pid) (fun _ _ => told_step)
    (told_initial pid ourAddress chainId blockNumber blockHash) h).status.length_le

end Runs

/-! ## Runs of a node with one channel -/

/-- a node with one channel, which is asked in block 10 to pay 10 to node 7 over node 2 -/
def paymentRun : List StateChange :=
  let ci := sampleDetails.canonicalIdentifier
  [.contractReceiveNewTokenNetwork ci.tokenNetworkAddress, .contractReceiveChannelNew sampleDetails,
    .contractReceiveChannelDeposit ci 1 100 ⟨0⟩, .contractReceiveChannelDeposit ci 2 100 ⟨0⟩, .block 10 [],
    .actionInitInitiator ⟨1, 10, 3, 1, 7, secretOne, secretOne, none⟩ [⟨[1, 2, 7], empty, 0⟩]]

/-- a run of the sample node -/
def sampleLog (stateChanges : List StateChange) : NodeLog := runFrom (logStep sampleEnv) (.initial 1 1 1 []) stateChanges

/-- a payment whose secret is requested and revealed has one outcome -/
theorem one_outcome_of_paid_payment :
    let stateChanges := paymentRun ++
      [.receiveSecretRequest ⟨1, 10, 109, secretOne, 7⟩, .receiveSecretReveal ⟨secretOne, 2⟩, .block 130 []]
    (outcomes 1 (sampleLog stateChanges).sent).length = 1 ∧
      (outcomes 1 (runFrom (logStep sampleEnv) (.initial 1 1 1 []) stateChanges).sent).length ≤ 1 :=
  ⟨by decide +kernel, one_outcome_of_unrefunded_payment sampleEnv 1 1 1 1 [] _ (by decide +kernel)⟩

/-- **A payment with several outcomes.** In the first run the next hop refunds the payment, there is no other route, and then
the lock expires. In the second one the channel is closed, the payment expires, and after that the target asks for the secret
for the first time. -/
theorem refunded_payment_fails_twice :
    (let sent := (sampleLog (paymentRun ++
      [.receiveTransferCancelRoute sampleRefund, .actionTransferReroute sampleRefund secretTwo, .block 119 []])).sent
    2 ≤ (outcomes 1 sent).length) ∧
    (let sent := (sampleLog (paymentRun ++
      [.contractReceiveChannelClosed sampleDetails.canonicalIdentifier 2 11 [], .block 119 [],
        .receiveSecretRequest ⟨1, 10, 109, secretOne, 7⟩, .block 120 []])).sent
    (outcomes 1 sent).length = 2) := by
  decide +kernel

end Gatecoin.Client
