/-
One secret for one payment.

A payment that is rerouted has several transfers, each with its own secret. The initiator must reveal at most one of them
and must not send a new transfer once it has revealed one.

Every step of a payment keeps the descriptions of the transfers that it has (`Kept`); a new one comes from a reroute, and a
secret is revealed by the answer to a secret request only (`NodeStep`). Messages reach the transfers by their secrethash,
so that the transfers of one payment do not know of each other.

Results:
- `one_secret_of_exclusive_attempts`: when the payment reveals one secret and sends no transfer afterwards.
- `payment_reveals_two_secrets`: a refund after the reveal is rerouted, and a secret request after the reroute is answered.
-/
import Gatecoin.Client.ChannelRun
import Gatecoin.Client.Payment

namespace Gatecoin.Client

open Gatecoin.Core InitiatorManager Event List Dict

/-! ## Transfers of a payment -/

/-- nothing in these events moves the payment on -/
def Silent (events : List Event) : Prop := ∀ e ∈ events, e.isLockedTransfer = false ∧ e.isSecretReveal = false

/-- what a state change leaves of a transfer: everything but its status -/
def InitiatorTransferState.fixed (t : InitiatorTransferState) : TransferDescriptionWithSecret × LockedTransferUnsigned × ℕ :=
  (t.transferDescription, t.transfer, t.channelIdentifier)

/-- the transfers of a payment are kept, with a new status, or finished -/
def Kept (p p' : InitiatorPaymentState) : Prop :=
  ∀ h t', p'.initiatorTransfers.get? h = some t' → ∃ t, p.initiatorTransfers.get? h = some t ∧ t.fixed = t'.fixed

theorem Silent.nil : Silent [] := fun _ h => by cases h

theorem Silent.append {l l' : List Event} (h : Silent l) (h' : Silent l') : Silent (l ++ l') :=
  forall_mem_append.2 ⟨h, h'⟩

theorem silent_of_answer {l : List Event} (h : ∀ e ∈ l, e.movesPayment = false) : Silent l := by
  intro e he
  have hmoves := h e he
  simp only [movesPayment, Bool.or_eq_false_iff] at hmoves
  exact ⟨hmoves.1.1, hmoves.2⟩

section Kept

variable {p p' p'' : InitiatorPaymentState} {secrethash : Bytes} {t t' : InitiatorTransferState}

theorem Kept.refl (p : InitiatorPaymentState) : Kept p p := fun _ t ht => ⟨t, ht, rfl⟩

theorem Kept.description (h : Kept p p') {k : Bytes} (ht' : p'.initiatorTransfers.get? k = some t') :
    ∃ t, p.initiatorTransfers.get? k = some t ∧ t.transferDescription = t'.transferDescription := by
  obtain ⟨t, ht, hfixed⟩ := h k t' ht'
  exact ⟨t, ht, congrArg Prod.fst hfixed⟩

theorem Kept.trans (h : Kept p p') (h' : Kept p' p'') : Kept p p'' := by
  intro k t'' ht''
  obtain ⟨t', ht', hdesc'⟩ := h' k t'' ht''
  obtain ⟨t, ht, hdesc⟩ := h k t' ht'
  exact ⟨t, ht, hdesc.trans hdesc'⟩

/-- a transfer of the payment is written back -/
theorem Kept.set (h : Kept p p') (ht : p.initiatorTransfers.get? secrethash = some t) (hfixed : t.fixed = t'.fixed) :
    Kept p (setTransfer p' secrethash t') := by
  intro k x hx
  simp only [setTransfer, get?_set] at hx
  split_ifs at hx with hk
  · cases hx
    exact ⟨t, hk ▸ ht, hfixed⟩
  · exact h k x hx

theorem Kept.of_eq (h : p'.initiatorTransfers = p.initiatorTransfers) : Kept p p' := by
  intro k t' ht'
  exact ⟨t', h ▸ ht', rfl⟩

theorem kept_delTransfer (h : delTransfer p secrethash = .ok p') : Kept p p' := by
  unfold delTransfer at h
  split_ifs at h
  cases h
  intro k x hx
  simp only [get?_erase] at hx
  split_ifs at hx
  exact ⟨x, hx, rfl⟩

theorem kept_cancelOtherTransfers (p : InitiatorPaymentState) : Kept p (cancelOtherTransfers p) := by
  have hloop : ∀ (l : List (Bytes × InitiatorTransferState)) (p' : InitiatorPaymentState),
      (∀ x ∈ l, p.initiatorTransfers.get? x.1 = some x.2) → Kept p p' →
        Kept p (l.foldl (fun p x => setTransfer p x.1 { x.2 with transferState := .transferCancelled }) p') := by
    intro l
    induction l with
    | nil => exact fun p' _ hp => hp
    | cons x l ih =>
      intro p' hl hp
      exact ih _ (fun y hy => hl y (mem_cons_of_mem x hy)) (hp.set (hl x mem_cons_self) rfl)
  exact hloop _ p (fun x hx => get?_eq_some.2 hx) (Kept.refl p)

end Kept

/-! ## Steps of a transfer -/

/-- what a state change does to a transfer: only the answer to a secret request reveals its secret -/
structure TransferStep (t : InitiatorTransferState) (stateChange : InitiatorStateChange) (x : Initiator.Iteration) :
    Prop where
  fixed : ∀ t', x.newState = some t' → t.fixed = t'.fixed
  noTransfer : ∀ e ∈ x.events, e.isLockedTransfer = false
  reveals : ∀ e ∈ x.events, e.isSecretReveal = true → (∃ r, stateChange = .receiveSecretRequest r) ∧
    e = .sendSecretReveal t.transferDescription.target t.transferDescription.secret

section TransferSteps

variable {env : Env} {t : InitiatorTransferState} {c : NettingChannelState} {blockNumber : ℕ}
  {stateChange : InitiatorStateChange} {x : Initiator.Iteration} {lock : HashTimeLock} {events : List Event}
  {c' : NettingChannelState} {secret secrethash : Bytes}

theorem TransferStep.silent (hfixed : ∀ t', x.newState = some t' → t.fixed = t'.fixed) (h : Silent x.events) :
    TransferStep t stateChange x where
  fixed := hfixed
  noTransfer := fun e he => (h e he).1
  reveals := fun e he hreveal => by
    rw [(h e he).2] at hreveal
    cases hreveal

theorem transferStep_refl (t : InitiatorTransferState) (stateChange : InitiatorStateChange) (c : NettingChannelState) :
    TransferStep t stateChange ⟨some t, c, []⟩ := by
  refine .silent (fun t' ht' => ?_) Silent.nil
  cases ht'
  rfl

theorem sendUnlock_event {paymentIdentifier : ℕ} {event : Event}
    (h : sendUnlock env c paymentIdentifier secret secrethash blockNumber = .ok (c', event)) :
    event.isLockedTransfer = false ∧ event.isSecretReveal = false := by
  simp only [sendUnlock, do_ok, Prod.exists, Prod.mk.injEq] at h
  obtain ⟨lock, -, b, locks, -, e, -, -, rfl⟩ := h
  exact ⟨rfl, rfl⟩

theorem sendLockExpired_silent (h : sendLockExpired env c lock = .ok (c', events)) : Silent events := by
  simp only [sendLockExpired, bind_ok] at h
  obtain ⟨-, -, y, -, h⟩ := h
  split at h
  · cases h
    exact Silent.nil
  · cases h
    simp [Silent, isLockedTransfer, isSecretReveal]

theorem eventsForUnlockLock_silent
    (h : Initiator.eventsForUnlockLock env t c secret secrethash blockNumber = .ok (c', events)) : Silent events := by
  simp only [Initiator.eventsForUnlockLock, do_ok, Prod.exists, Prod.mk.injEq] at h
  obtain ⟨c1, unlock, hunlock, -, rfl⟩ := h
  exact forall_mem_cons.2 ⟨sendUnlock_event hunlock, by simp [isLockedTransfer, isSecretReveal]⟩

theorem expireTransfer_step (h : Initiator.expireTransfer env t c lock = .ok x) : TransferStep t stateChange x := by
  simp only [Initiator.expireTransfer, do_ok, Prod.exists] at h
  obtain ⟨c1, expired, hexpired, rfl⟩ := h
  refine .silent (fun t' ht' => ?_) (Silent.append ?_ ?_)
  · dsimp only at ht'
    split_ifs at ht'
    cases ht'
    rfl
  · split_ifs at hexpired
    · exact sendLockExpired_silent hexpired
    · cases hexpired
      exact Silent.nil
  · simp [Silent, isLockedTransfer, isSecretReveal]

theorem answerSecretrequest_step (t : InitiatorTransferState) (r : ReceiveSecretRequest) (c : NettingChannelState)
    (lock : HashTimeLock) : TransferStep t (.receiveSecretRequest r) (Initiator.answerSecretrequest t r c lock) := by
  simp only [Initiator.answerSecretrequest]
  split_ifs
  · exact transferStep_refl t _ c
  · refine ⟨fun t' ht' => ?_, by simp [isLockedTransfer], ?_⟩
    · cases ht'
      rfl
    · simp only [mem_singleton]
      rintro e rfl -
      exact ⟨⟨r, rfl⟩, rfl⟩
  · refine .silent (fun t' ht' => ?_) (by simp [Silent, isLockedTransfer, isSecretReveal])
    cases ht'
    rfl

theorem initiator_step (h : Initiator.stateTransition env t c blockNumber stateChange = .ok x) :
    TransferStep t stateChange x := by
  cases Initiator.acts_of_stateTransition h with
  | idle => exact transferStep_refl t _ c
  | gone => exact .silent (fun t' ht' => by cases ht') Silent.nil
  | expired _ _ _ hexpire => exact expireTransfer_step hexpire
  | answered r lock => exact answerSecretrequest_step t r c lock
  | registered => exact transferStep_refl t _ _
  | unlocked _ _ _ _ hunlock => exact .silent (fun t' ht' => by cases ht') (eventsForUnlockLock_silent hunlock)

end TransferSteps

/-! ## Steps of a payment -/

/-- what a state change does to the transfers of a payment -/
structure ManagerStep (env : Env) (p : InitiatorPaymentState) (stateChange : InitiatorStateChange)
    (p' : InitiatorPaymentState) (events : List Event) : Prop where
  transfers : ∀ h t', p'.initiatorTransfers.get? h = some t' →
    (∃ t, p.initiatorTransfers.get? h = some t ∧ t.transferDescription = t'.transferDescription) ∨
      ∃ refund secret, stateChange = .actionTransferReroute refund secret ∧ h = env.sha256 secret ∧
        t'.transferDescription.secret = secret ∧ events.any isLockedTransfer = true
  sends : events.any isLockedTransfer = true → ∃ refund secret t,
    stateChange = .actionTransferReroute refund secret ∧ p.initiatorTransfers.get? refund.lock.secrethash = some t
  reveals : ∀ e ∈ events, e.isSecretReveal = true → ∃ r t, stateChange = .receiveSecretRequest r ∧
    p.initiatorTransfers.get? r.secrethash = some t ∧
    e = .sendSecretReveal t.transferDescription.target t.transferDescription.secret

section ManagerSteps

variable {env : Env} {p p' : InitiatorPaymentState} {nets : Networks} {tn : Address} {blockNumber : ℕ}
  {stateChange : InitiatorStateChange} {secrethash : Bytes} {t : InitiatorTransferState} {events : List Event}
  {x : Iteration} {d : TransferDescriptionWithSecret}

theorem Silent.any_isLockedTransfer (h : Silent events) : events.any isLockedTransfer = false := by
  rw [any_eq_false]
  intro e he
  simp [(h e he).1]

theorem ManagerStep.silent (hkept : Kept p p') (h : Silent events) : ManagerStep env p stateChange p' events where
  transfers := fun _ _ ht' => .inl (hkept.description ht')
  sends := fun hsends => by
    rw [h.any_isLockedTransfer] at hsends
    cases hsends
  reveals := fun e he hreveal => by
    rw [(h e he).2] at hreveal
    cases hreveal

theorem managerStep_refl (p : InitiatorPaymentState) (stateChange : InitiatorStateChange) :
    ManagerStep env p stateChange p [] := .silent (Kept.refl p) Silent.nil

/-- a transfer is kept by what happens to it, and tells what it reveals -/
theorem subdispatchToInitiatortransfer_step (ht : p.initiatorTransfers.get? secrethash = some t)
    (h : subdispatchToInitiatortransfer env p secrethash t stateChange nets tn blockNumber = .ok x) :
    Kept p x.newState ∧ (∀ e ∈ x.events, e.isLockedTransfer = false) ∧
      ∀ e ∈ x.events, e.isSecretReveal = true → (∃ r, stateChange = .receiveSecretRequest r) ∧
        e = .sendSecretReveal t.transferDescription.target t.transferDescription.secret := by
  unfold subdispatchToInitiatortransfer at h
  split at h
  · cases h
    exact ⟨Kept.refl p, by simp, by simp⟩
  · simp only [bind_ok] at h
    obtain ⟨sub, hsub, h⟩ := h
    have hstep := initiator_step hsub
    split at h
    · simp only [do_ok] at h
      obtain ⟨p1, hp1, rfl⟩ := h
      exact ⟨kept_delTransfer hp1, hstep.noTransfer, hstep.reveals⟩
    · rename_i t' ht'
      cases h
      exact ⟨(Kept.refl p).set ht (hstep.fixed t' ht'), hstep.noTransfer, hstep.reveals⟩

/-- a state change that is no secret request is silent for every transfer -/
theorem subdispatchToInitiatortransfer_silent (hrequest : ∀ r, stateChange ≠ .receiveSecretRequest r)
    (ht : p.initiatorTransfers.get? secrethash = some t)
    (h : subdispatchToInitiatortransfer env p secrethash t stateChange nets tn blockNumber = .ok x) :
    Kept p x.newState ∧ Silent x.events := by
  obtain ⟨hkept, hsend, hreveal⟩ := subdispatchToInitiatortransfer_step ht h
  refine ⟨hkept, fun e he => ⟨hsend e he, ?_⟩⟩
  by_contra hne
  obtain ⟨⟨r, hr⟩, -⟩ := hreveal e he (by simpa using hne)
  exact hrequest r hr

theorem subdispatchToTransfers_silent (hrequest : ∀ r, stateChange ≠ .receiveSecretRequest r) (keys : List Bytes) :
    ∀ {p nets x}, subdispatchToTransfers env stateChange tn blockNumber p nets keys = .ok x →
      Kept p x.newState ∧ Silent x.events := by
  induction keys with
  | nil =>
    intro p nets x h
    cases h
    exact ⟨Kept.refl p, Silent.nil⟩
  | cons k keys ih =>
    intro p nets x h
    unfold subdispatchToTransfers at h
    split at h
    · cases h
    · rename_i t ht
      simp only [do_ok] at h
      obtain ⟨sub, hsub, others, hothers, rfl⟩ := h
      obtain ⟨hkept, hsilent⟩ := subdispatchToInitiatortransfer_silent hrequest ht hsub
      obtain ⟨hkept', hsilent'⟩ := ih hothers
      exact ⟨hkept.trans hkept', hsilent.append hsilent'⟩

theorem cancelEvents_silent (route : RouteState) (d : TransferDescriptionWithSecret) :
    Silent (eventsForCancelCurrentRoute route d) := by
  simp [Silent, eventsForCancelCurrentRoute, isLockedTransfer, isSecretReveal]

theorem cancelTransfer_silent (hkept : Kept p p') (ht : p.initiatorTransfers.get? secrethash = some t)
    {p'' : InitiatorPaymentState} (h : cancelTransfer nets tn p' secrethash t = .ok (p'', events)) :
    Kept p p'' ∧ Silent events := by
  unfold cancelTransfer at h
  split at h
  · cases h
    exact ⟨hkept, Silent.nil⟩
  · split_ifs at h
    · simp only [cancelCurrentRoute, do_ok, Prod.exists, Prod.mk.injEq] at h
      obtain ⟨p1, cancelEvents, ⟨-, -, rfl, rfl⟩, rfl, rfl⟩ := h
      exact ⟨(hkept.trans (.of_eq rfl)).set ht rfl,
        (cancelEvents_silent _ _).append (by simp [Silent, isLockedTransfer, isSecretReveal])⟩
    · cases h
      exact ⟨hkept, Silent.nil⟩

theorem cancelTransfers_silent (l : List (Bytes × InitiatorTransferState))
    (hl : ∀ x ∈ l, p.initiatorTransfers.get? x.1 = some x.2) :
    ∀ {p' p'' events}, Kept p p' → cancelTransfers nets tn p' l = .ok (p'', events) →
      Kept p p'' ∧ Silent events := by
  induction l with
  | nil =>
    intro p' p'' events hkept h
    cases h
    exact ⟨hkept, Silent.nil⟩
  | cons x l ih =>
    intro p' p'' events hkept h
    simp only [cancelTransfers, do_ok, Prod.exists, Prod.mk.injEq] at h
    obtain ⟨p1, events1, hfirst, p2, events2, hrest, rfl, rfl⟩ := h
    obtain ⟨hkept1, hsilent1⟩ := cancelTransfer_silent hkept (hl x mem_cons_self) hfirst
    obtain ⟨hkept2, hsilent2⟩ := ih (fun y hy => hl y (mem_cons_of_mem x hy)) hkept1 hrest
    exact ⟨hkept2, hsilent1.append hsilent2⟩

theorem sendLockedtransfer_secrethash {c c' : NettingChannelState} {route : RouteState}
    {routes : List RouteState} {transfer : LockedTransferUnsigned}
    (h : Initiator.sendLockedtransfer env d c blockNumber route routes = .ok (c', transfer)) :
    transfer.lock.secrethash = d.secrethash := by
  simp only [Initiator.sendLockedtransfer, sendLockedtransfer, createSendlockedtransfer, do_ok, present_ok, Prod.exists,
    Prod.mk.injEq] at h
  obtain ⟨-, -, amount, -, t, locks, ⟨-, -, -, -, lock, hlock, locks', -, -, -, b, -, -, -, rfl, -⟩, -, rfl⟩ := h
  exact (lock_make_ok hlock).2.2

/-- a new transfer has the description it was tried with, and it is sent; no transfer is sent without it -/
theorem tryNewRoute_step {candidates : List RouteState} {new : Option InitiatorTransferState} {nets' : Networks}
    (h : Initiator.tryNewRoute env nets candidates d blockNumber = .ok (new, nets', events)) :
    (new = none ∧ Silent events) ∨
      ∃ t, new = some t ∧ t.transferDescription = d ∧ t.transfer.lock.secrethash = d.secrethash ∧
        events.any isLockedTransfer = true ∧ ∀ e ∈ events, e.isSecretReveal = false := by
  simp only [Initiator.tryNewRoute] at h
  split at h
  · cases h
    exact .inl ⟨rfl, by simp [Silent, isLockedTransfer, isSecretReveal]⟩
  · simp only [do_ok, Prod.exists, Prod.mk.injEq] at h
    obtain ⟨c, transfer, hsend, rfl, -, rfl⟩ := h
    exact .inr ⟨_, rfl, rfl, sendLockedtransfer_secrethash hsend, by simp [isLockedTransfer],
      by simp [isSecretReveal]⟩

/-- a state change of a running payment -/
theorem manager_step (h : handle env p nets tn blockNumber stateChange = .ok x) :
    ManagerStep env p stateChange x.newState x.events := by
  cases acts_of_handle h with
  | idle | refunded => exact managerStep_refl p _
  | block hblock =>
    obtain ⟨hkept, hsilent⟩ := subdispatchToTransfers_silent (fun r => by simp) _ hblock
    exact .silent hkept hsilent
  | routeCancelled => exact .silent (.of_eq rfl) (cancelEvents_silent _ _)
  | cancelled hcancel =>
    obtain ⟨hkept, hsilent⟩ := cancelTransfers_silent _ (fun y hy => get?_eq_some.2 hy) (Kept.refl p) hcancel
    exact .silent hkept hsilent
  | transfer hkey ht hsub =>
    obtain ⟨hkept, hsend, hreveal⟩ := subdispatchToInitiatortransfer_step ht hsub
    refine ⟨fun _ _ ht' => .inl (hkept.description ht'), fun hsends => ?_, fun e he hr => ?_⟩
    · obtain ⟨e, he, htransfer⟩ := any_eq_true.1 hsends
      rw [hsend e he] at htransfer
      cases htransfer
    · obtain ⟨⟨r, rfl⟩, heq⟩ := hreveal e he hr
      cases hkey
      exact ⟨r, _, rfl, ht, heq⟩
  | finished hrequest _ ht _ hsub =>
    obtain ⟨hkept, hsilent⟩ := subdispatchToInitiatortransfer_silent hrequest ht hsub
    exact .silent (hkept.trans (kept_cancelOtherTransfers _)) hsilent
  | lockExpired m failed hc =>
    refine .silent (Kept.refl p) (Silent.append (silent_of_answer (handleReceiveLockExpired_answer env _ m blockNumber)) ?_)
    simp [Silent, isLockedTransfer, isSecretReveal]
  | @rerouted refund secret t c _ _ _ events ht hc hroute =>
    have hanswer := silent_of_answer (handleReceiveLockedtransfer_answer env c refund)
    rcases tryNewRoute_step hroute with ⟨rfl, hsilent⟩ | ⟨t', rfl, hdesc, hhash, hsent, hreveal⟩
    · exact .silent (Kept.refl p) (hanswer.append hsilent)
    · have hany : ((handleReceiveLockedtransfer env c refund).events ++ events).any isLockedTransfer = true := by
        rw [any_append, hsent, Bool.or_true]
      refine ⟨fun k y hy => ?_, fun _ => ⟨refund, secret, t, rfl, ht⟩, fun e he hr => ?_⟩
      · simp only [Option.elim, setTransfer, get?_set] at hy
        split_ifs at hy with hk
        · cases hy
          exact .inr ⟨refund, secret, rfl, hk.trans hhash, by rw [hdesc]; rfl, hany⟩
        · exact .inl ⟨y, hy, rfl⟩
      · rcases mem_append.1 he with he | he
        · rw [(hanswer e he).2] at hr
          cases hr
        · rw [hreveal e he] at hr
          cases hr

end ManagerSteps

/-! ## Steps of the node -/

/-- a task of the node has the transfer -/
def Held (s : PaymentNode) (secrethash : Bytes) (t : InitiatorTransferState) : Prop :=
  ∃ key task, s.secrethashesToTask.get? key = some task ∧ task.managerState.initiatorTransfers.get? secrethash = some t

def PaymentInput.stateChange : PaymentInput → InitiatorStateChange
  | .channels _ => .other
  | .block blockNumber => .block blockNumber
  | .actionTransferReroute transfer secret => .actionTransferReroute transfer secret
  | .receiveTransferCancelRoute transfer => .receiveTransferCancelRoute transfer
  | .receiveSecretRequest r => .receiveSecretRequest r
  | .receiveSecretReveal r => .receiveSecretReveal r
  | .receiveLockExpired m => .receiveLockExpired m
  | .contractReceiveSecretReveal r => .contractReceiveSecretReveal r

/-- what a state change does to the transfers of all tasks -/
structure NodeStep (env : Env) (s : PaymentNode) (stateChange : InitiatorStateChange) (s' : PaymentNode)
    (events : List Event) : Prop where
  transfers : ∀ h t', Held s' h t' → (∃ t, Held s h t ∧ t.transferDescription = t'.transferDescription) ∨
    ∃ refund secret, stateChange = .actionTransferReroute refund secret ∧ h = env.sha256 secret ∧
      t'.transferDescription.secret = secret ∧ events.any isLockedTransfer = true
  sends : events.any isLockedTransfer = true → ∃ refund secret t,
    stateChange = .actionTransferReroute refund secret ∧ Held s refund.lock.secrethash t
  reveals : ∀ e ∈ events, e.isSecretReveal = true → ∃ r t, stateChange = .receiveSecretRequest r ∧
    Held s r.secrethash t ∧ e = .sendSecretReveal t.transferDescription.target t.transferDescription.secret

section NodeSteps

variable {env : Env} {s s' : PaymentNode} {stateChange : InitiatorStateChange} {events : List Event} {key : Bytes}

theorem NodeStep.of_held (h : ∀ k t, Held s' k t → Held s k t) : NodeStep env s stateChange s' [] where
  transfers := fun k t ht => .inl ⟨t, h k t ht, rfl⟩
  sends := fun hsends => by cases hsends
  reveals := fun e he => by cases he

theorem held_setTask {tn : Address} {new : Option InitiatorPaymentState} {h : Bytes} {t : InitiatorTransferState}
    (ht : Held (s.setTask key tn new) h t) : Held s h t ∨ ∃ p, new = some p ∧ p.initiatorTransfers.get? h = some t := by
  obtain ⟨k, task, htask, ht⟩ := ht
  cases new with
  | none =>
    simp only [PaymentNode.setTask, get?_erase] at htask
    split_ifs at htask
    exact .inl ⟨k, task, htask, ht⟩
  | some p =>
    simp only [PaymentNode.setTask, get?_set] at htask
    split_ifs at htask
    · cases htask
      exact .inr ⟨p, rfl, ht⟩
    · exact .inl ⟨k, task, htask, ht⟩

theorem clearIfFinalized_some {p p' : InitiatorPaymentState} (h : clearIfFinalized (some p) = some p') :
    p = p' := by
  simp only [clearIfFinalized] at h
  split_ifs at h
  cases h
  rfl

theorem subdispatchToPaymenttask_step
    (h : s.subdispatchToPaymenttask env stateChange key = .ok (s', events)) : NodeStep env s stateChange s' events := by
  unfold PaymentNode.subdispatchToPaymenttask at h
  split at h
  · cases h
    exact .of_held fun k t ht => ht
  · rename_i task htask
    split_ifs at h
    · simp only [InitiatorManager.stateTransition, do_ok, Prod.exists, Prod.mk.injEq] at h
      obtain ⟨new, nets, events', ⟨x, hx, rfl, rfl, rfl⟩, rfl, rfl⟩ := h
      have hstep := manager_step hx
      refine ⟨fun k t' ht' => ?_, fun hsends => ?_, fun e he hreveal => ?_⟩
      · rcases held_setTask ht' with ht | ⟨p', hp', ht⟩
        · exact .inl ⟨t', ht, rfl⟩
        · rw [← clearIfFinalized_some hp'] at ht
          rcases hstep.transfers k t' ht with ⟨t, ht, hdesc⟩ | hnew
          · exact .inl ⟨t, ⟨key, task, htask, ht⟩, hdesc⟩
          · exact .inr hnew
      · obtain ⟨refund, secret, t, hreroute, ht⟩ := hstep.sends hsends
        exact ⟨refund, secret, t, hreroute, key, task, htask, ht⟩
      · obtain ⟨r, t, hrequest, ht, he⟩ := hstep.reveals e he hreveal
        exact ⟨r, t, hrequest, ⟨key, task, htask, ht⟩, he⟩
    · cases h
      exact .of_held fun k t ht => ht

/-- a block reaches every task, and moves none of them on -/
theorem subdispatchToTasks_step {blockNumber : ℕ} (keys : List Bytes) :
    ∀ {s s' events}, PaymentNode.subdispatchToTasks env (.block blockNumber) s keys = .ok (s', events) →
      (∀ h t', Held s' h t' → ∃ t, Held s h t ∧ t.transferDescription = t'.transferDescription) ∧ Silent events := by
  induction keys with
  | nil =>
    intro s s' events h
    cases h
    exact ⟨fun k t ht => ⟨t, ht, rfl⟩, Silent.nil⟩
  | cons k keys ih =>
    intro s s' events h
    simp only [PaymentNode.subdispatchToTasks, do_ok, Prod.exists, Prod.mk.injEq] at h
    obtain ⟨s1, events1, hfirst, s2, events2, hrest, rfl, rfl⟩ := h
    obtain ⟨hheld, hsilent⟩ := ih hrest
    have hstep := subdispatchToPaymenttask_step hfirst
    refine ⟨fun h t' ht' => ?_, Silent.append (fun e he => ⟨?_, ?_⟩) hsilent⟩
    · obtain ⟨t1, ht1, hdesc1⟩ := hheld h t' ht'
      rcases hstep.transfers h t1 ht1 with ⟨t, ht, hdesc⟩ | ⟨_, _, hreroute, _⟩
      · exact ⟨t, ht, hdesc.trans hdesc1⟩
      · cases hreroute
    · by_contra hsend
      obtain ⟨_, _, _, hreroute, _⟩ := hstep.sends (any_eq_true.2 ⟨e, he, by simpa using hsend⟩)
      cases hreroute
    · by_contra hreveal
      obtain ⟨_, _, hrequest, _⟩ := hstep.reveals e he (by simpa using hreveal)
      cases hrequest

theorem handleActionTransferReroute_step {refund : LockedTransferSigned} {secret : Bytes}
    (h : s.handleActionTransferReroute env refund secret = .ok (s', events)) :
    NodeStep env s (.actionTransferReroute refund secret) s' events := by
  unfold PaymentNode.handleActionTransferReroute at h
  split at h
  · cases h
  · rename_i task htask
    have hstep := subdispatchToPaymenttask_step h
    -- the copy of the task has no other transfers than the task
    have hcopy : ∀ k t, Held { s with secrethashesToTask := (s.secrethashesToTask.set (env.sha256 secret) task) } k t →
        Held s k t := by
      rintro k t ⟨key, copy, hcopy, ht⟩
      simp only [get?_set] at hcopy
      split_ifs at hcopy
      · cases hcopy
        exact ⟨refund.lock.secrethash, task, htask, ht⟩
      · exact ⟨key, copy, hcopy, ht⟩
    refine ⟨fun k t' ht' => ?_, fun hsends => ?_, fun e he hreveal => ?_⟩
    · rcases hstep.transfers k t' ht' with ⟨t, ht, hdesc⟩ | hnew
      · exact .inl ⟨t, hcopy k t ht, hdesc⟩
      · exact .inr hnew
    · obtain ⟨refund', secret', t, hreroute, ht⟩ := hstep.sends hsends
      exact ⟨refund', secret', t, hreroute, hcopy _ t ht⟩
    · obtain ⟨r, t, hrequest, ht, he⟩ := hstep.reveals e he hreveal
      exact ⟨r, t, hrequest, hcopy _ t ht, he⟩

/-- a step of the node -/
theorem node_step {i : PaymentInput} (h : s.handleStateChange env i = .ok (s', events)) :
    NodeStep env s i.stateChange s' events := by
  cases i with
  | channels networks =>
    cases h
    exact .of_held fun k t ht => ht
  | block blockNumber =>
    obtain ⟨hheld, hsilent⟩ := subdispatchToTasks_step _ h
    refine ⟨fun k t' ht' => .inl (hheld k t' ht'), fun hsends => ?_, fun e he hreveal => ?_⟩
    · rw [hsilent.any_isLockedTransfer] at hsends
      cases hsends
    · rw [(hsilent e he).2] at hreveal
      cases hreveal
  | actionTransferReroute transfer secret => exact handleActionTransferReroute_step h
  | receiveTransferCancelRoute | receiveSecretRequest | receiveSecretReveal | receiveLockExpired
  | contractReceiveSecretReveal => exact subdispatchToPaymenttask_step h

end NodeSteps

/-! ## Runs of a payment -/

def Event.revealedSecret : Event → Option Bytes
  | .sendSecretReveal _ secret => some secret
  | _ => none

/-- the payment reveals one secret at most and sends no transfer after that -/
structure PaysOnce (events : List Event) : Prop where
  oneSecret : ∀ x ∈ events.filterMap revealedSecret, ∀ y ∈ events.filterMap revealedSecret, x = y
  noTransferAfterReveal : events.Pairwise fun e e' => e.isSecretReveal = true → e'.isLockedTransfer = false

/-- no transfer is rerouted after it was revealed or rerouted, and none is revealed after it was rerouted -/
def ExclusiveAttempts (env : Env) (s : PaymentRun) (i : PaymentInput) : Prop :=
  match s.node.handleStateChange env i with
  | .error _ => True
  | .ok (_, events) => (∀ h ∈ reroutedBy events i, h ∉ s.revealed ∧ h ∉ s.rerouted) ∧
      ∀ h ∈ revealedBy events i, h ∉ s.rerouted

instance (env : Env) (s : PaymentRun) (i : PaymentInput) : Decidable (ExclusiveAttempts env s i) :=
  decidable_of_iff (∀ r ∈ (s.node.handleStateChange env i).toOption,
    (∀ h ∈ reroutedBy r.2 i, s.revealed.elem h = false ∧ s.rerouted.elem h = false) ∧
      ∀ h ∈ revealedBy r.2 i, s.rerouted.elem h = false) (by
    unfold ExclusiveAttempts
    split <;> simp_all [Except.toOption])

/-- at most one attempt is live: every other transfer of the payment was rerouted, and only the secret of the live one can
have been revealed -/
structure LiveAttempt (s : PaymentRun) (live secret : Bytes) : Prop where
  others : ∀ h t, Held s.node h t → h ∉ s.rerouted → h = live ∧ t.transferDescription.secret = secret
  revealed : ∀ x ∈ s.sent.filterMap revealedSecret, x = secret ∧ live ∈ s.revealed
  noTransferAfterReveal : s.sent.Pairwise fun e e' => e.isSecretReveal = true → e'.isLockedTransfer = false

section Runs

variable {env : Env} {s : PaymentRun} {i : PaymentInput} {events : List Event} {node : PaymentNode} {live secret : Bytes}
  {blockNumber : ℕ}

theorem isSecretReveal_of_revealedSecret {e : Event} {x : Bytes} (h : e.revealedSecret = some x) :
    e.isSecretReveal = true ∧ ∃ recipient, e = .sendSecretReveal recipient x := by
  cases e with
  | sendSecretReveal recipient y =>
    cases h
    exact ⟨rfl, recipient, rfl⟩
  | _ => cases h

theorem revealedSecret_eq_nil (h : ∀ e ∈ events, e.isSecretReveal = false) :
    events.filterMap revealedSecret = [] := by
  rw [filterMap_eq_nil_iff]
  intro e he
  by_contra hne
  obtain ⟨x, hx⟩ := Option.ne_none_iff_exists'.1 hne
  have hreveal := (isSecretReveal_of_revealedSecret hx).1
  rw [h e he] at hreveal
  cases hreveal

theorem pairwise_of_no_reveal (h : ∀ e ∈ events, e.isSecretReveal = false) :
    events.Pairwise fun e e' => e.isSecretReveal = true → e'.isLockedTransfer = false := by
  refine pairwise_iff_forall_sublist.2 fun {e e'} hsub hreveal => ?_
  rw [h e (hsub.subset mem_cons_self)] at hreveal
  cases hreveal

theorem pairwise_of_no_transfer (h : ∀ e ∈ events, e.isLockedTransfer = false) :
    events.Pairwise fun e e' => e.isSecretReveal = true → e'.isLockedTransfer = false :=
  pairwise_iff_forall_sublist.2 fun {_ e'} hsub _ => h e' (hsub.subset (by simp))

/-- a reroute ends the live attempt, which was not revealed, and starts a new one -/
theorem LiveAttempt.reroute {refund : LockedTransferSigned} {new : Bytes} (hlive : LiveAttempt s live secret)
    (hstep : NodeStep env s.node (.actionTransferReroute refund new) node events)
    (hsends : events.any isLockedTransfer = true)
    (hok : refund.lock.secrethash ∉ s.revealed ∧ refund.lock.secrethash ∉ s.rerouted) :
    LiveAttempt ⟨node, s.sent ++ events, s.revealed, refund.lock.secrethash :: s.rerouted⟩ (env.sha256 new) new := by
  obtain ⟨refund', new', t, hreroute, ht⟩ := hstep.sends hsends
  cases hreroute
  obtain ⟨hrefund, -⟩ := hlive.others _ t ht hok.2
  have hquiet : ∀ e ∈ events, e.isSecretReveal = false := by
    intro e he
    by_contra hreveal
    obtain ⟨_, _, hrequest, _⟩ := hstep.reveals e he (by simpa using hreveal)
    cases hrequest
  have hsent : s.sent.filterMap revealedSecret = [] := by
    refine eq_nil_iff_forall_not_mem.2 fun x hx => hok.1 ?_
    rw [hrefund]
    exact (hlive.revealed x hx).2
  refine ⟨fun h t' ht' hnot => ?_, ?_, ?_⟩
  · rcases hstep.transfers h t' ht' with ⟨t0, ht0, -⟩ | ⟨_, _, hreroute, hh, hsecret, -⟩
    · -- an old transfer that was not rerouted is the refunded one
      rw [mem_cons, not_or] at hnot
      exact absurd ((hlive.others h t0 ht0 hnot.2).1.trans hrefund.symm) hnot.1
    · cases hreroute
      exact ⟨hh, hsecret⟩
  · intro x hx
    rw [filterMap_append, hsent, revealedSecret_eq_nil hquiet] at hx
    cases hx
  · refine pairwise_of_no_reveal (forall_mem_append.2 ⟨fun e he => ?_, hquiet⟩)
    by_contra hreveal
    cases e with
    | sendSecretReveal recipient x =>
      have hx : x ∈ s.sent.filterMap revealedSecret := mem_filterMap.2 ⟨_, he, rfl⟩
      rw [hsent] at hx
      cases hx
    | _ => exact hreveal rfl

/-- any other step keeps the live attempt, and reveals no other secret than its own -/
theorem LiveAttempt.keep {stateChange : InitiatorStateChange} {revealed : List Bytes} (hlive : LiveAttempt s live secret)
    (hstep : NodeStep env s.node stateChange node events) (hsends : events.any isLockedTransfer = false)
    (hrevealed : ∀ r, stateChange = .receiveSecretRequest r → events.any isSecretReveal = true →
      r.secrethash ∉ s.rerouted ∧ r.secrethash ∈ revealed) (hmono : ∀ h ∈ s.revealed, h ∈ revealed) :
    LiveAttempt ⟨node, s.sent ++ events, revealed, s.rerouted⟩ live secret := by
  have hno : ∀ e ∈ events, e.isLockedTransfer = false := fun e he => by simpa using any_eq_false.1 hsends e he
  refine ⟨fun h t' ht' hnot => ?_, fun x hx => ?_, ?_⟩
  · rcases hstep.transfers h t' ht' with ⟨t, ht, hdesc⟩ | ⟨_, _, _, _, _, hany⟩
    · rw [← hdesc]
      exact hlive.others h t ht hnot
    · rw [hsends] at hany
      cases hany
  · rw [filterMap_append, mem_append] at hx
    rcases hx with hx | hx
    · exact ⟨(hlive.revealed x hx).1, hmono _ (hlive.revealed x hx).2⟩
    · obtain ⟨e, he, hex⟩ := mem_filterMap.1 hx
      obtain ⟨hreveal, recipient, rfl⟩ := isSecretReveal_of_revealedSecret hex
      obtain ⟨r, t, hrequest, ht, heq⟩ := hstep.reveals _ he hreveal
      obtain ⟨hnot, hmem⟩ := hrevealed r hrequest (any_eq_true.2 ⟨_, he, hreveal⟩)
      obtain ⟨hh, hsecret⟩ := hlive.others _ t ht hnot
      cases heq
      exact ⟨hsecret, hh ▸ hmem⟩
  · exact pairwise_append.2 ⟨hlive.noTransferAfterReveal, pairwise_of_no_transfer hno, fun _ _ e' he' _ => hno e' he'⟩

theorem liveAttempt_step (h : ∃ live secret, LiveAttempt s live secret) (hok : ExclusiveAttempts env s i) :
    ∃ live secret, LiveAttempt (paymentStep env s i) live secret := by
  obtain ⟨live, secret, hlive⟩ := h
  unfold ExclusiveAttempts at hok
  unfold paymentStep
  cases hnode : s.node.handleStateChange env i with
  | error f => exact ⟨live, secret, hlive⟩
  | ok x =>
    obtain ⟨node, events⟩ := x
    simp only [hnode] at hok ⊢
    have hstep := node_step hnode
    cases hsends : events.any isLockedTransfer with
    | true =>
      obtain ⟨refund, new, t, hreroute, -⟩ := hstep.sends hsends
      cases i with
      | actionTransferReroute transfer secret' =>
        cases hreroute
        simp only [reroutedBy, hsends, if_true, mem_singleton, forall_eq] at hok
        refine ⟨env.sha256 new, new, ?_⟩
        simpa [reroutedBy, revealedBy, hsends] using hlive.reroute hstep hsends hok.1
      | _ => cases hreroute
    | false =>
      have hrerouted : reroutedBy events i = [] := by
        unfold reroutedBy
        split
        · simp [hsends]
        · rfl
      refine ⟨live, secret, ?_⟩
      rw [hrerouted, nil_append]
      refine hlive.keep hstep hsends (fun r hr hany => ?_) (fun h hh => mem_append_right _ hh)
      cases i with
      | receiveSecretRequest r' =>
        cases hr
        have hmem : r.secrethash ∈ revealedBy events (.receiveSecretRequest r) := by simp [revealedBy, hany]
        exact ⟨hok.2 _ hmem, mem_append_left _ hmem⟩
      | _ => cases hr

theorem handleInit_step {nets nets' : Networks} {d : TransferDescriptionWithSecret}
    {routes : List RouteState} {new : Option InitiatorPaymentState}
    (h : handleInit env none d routes nets blockNumber = .ok (new, nets', events)) :
    (∀ e ∈ events, e.isSecretReveal = false) ∧ ∀ p, new = some p → ∀ k t, p.initiatorTransfers.get? k = some t →
      k = d.secrethash ∧ t.transferDescription.secret = d.secret := by
  simp only [handleInit, bind_ok, Prod.exists] at h
  obtain ⟨transfer, nets1, events1, hroute, h⟩ := h
  rcases tryNewRoute_step hroute with ⟨rfl, hsilent⟩ | ⟨t, rfl, hdesc, hhash, -, hreveal⟩
  · cases h
    exact ⟨fun e he => (hsilent e he).2, fun p hp => by cases hp⟩
  · cases h
    refine ⟨hreveal, fun p hp k t' ht' => ?_⟩
    cases hp
    simp only [get?_set, get?_empty] at ht'
    split_ifs at ht' with hk
    cases ht'
    exact ⟨hk.trans hhash, by rw [hdesc]⟩

theorem liveAttempt_of_node {s : PaymentRun} (hheld : ∀ h t, Held s.node h t → h = live ∧ t.transferDescription.secret = secret)
    (hquiet : ∀ e ∈ s.sent, e.isSecretReveal = false) : LiveAttempt s live secret := by
  refine ⟨fun h t ht _ => hheld h t ht, fun x hx => ?_, pairwise_of_no_reveal hquiet⟩
  rw [revealedSecret_eq_nil hquiet] at hx
  cases hx

theorem not_held_of_no_tasks {networks : Networks} {h : Bytes} {t : InitiatorTransferState} :
    ¬ Held ⟨empty, networks, blockNumber⟩ h t := by
  rintro ⟨key, task, htask, -⟩
  cases htask

/-- the first transfer of the payment is the live one -/
theorem liveAttempt_start (env : Env) (networks : Networks) (blockNumber : ℕ) (d : TransferDescriptionWithSecret)
    (routes : List RouteState) : LiveAttempt (startPayment env networks blockNumber d routes) d.secrethash d.secret := by
  simp only [startPayment]
  split
  · exact liveAttempt_of_node (fun h t ht => absurd ht not_held_of_no_tasks) (by simp)
  · rename_i node events hstart
    simp only [PaymentNode.handleActionInitInitiator] at hstart
    split_ifs at hstart
    · simp only [do_ok, Prod.exists, Prod.mk.injEq] at hstart
      obtain ⟨new, nets, events1, hinit, rfl, rfl⟩ := hstart
      obtain ⟨hquiet, hnew⟩ := handleInit_step hinit
      refine liveAttempt_of_node (fun h t ht => ?_) hquiet
      rcases held_setTask ht with ht | ⟨p, hp, hpt⟩
      · exact absurd ht not_held_of_no_tasks
      · cases new with
        | none => cases hp
        | some p' =>
          rw [← clearIfFinalized_some hp] at hpt
          exact hnew p' rfl h t hpt
    · cases hstart
      exact liveAttempt_of_node (fun h t ht => absurd ht not_held_of_no_tasks) (by simp)

/-- **One secret for one payment.** If no transfer of a payment is rerouted after it was revealed or rerouted, and none is
revealed after it was rerouted, then the payment reveals at most one secret and sends no transfer after that. -/
theorem one_secret_of_exclusive_attempts (env : Env) (networks : Networks) (blockNumber : ℕ)
    (d : TransferDescriptionWithSecret) (routes : List RouteState) (is : List PaymentInput)
    (h : Along (paymentStep env) (ExclusiveAttempts env) (startPayment env networks blockNumber d routes) is) :
    PaysOnce (runFrom (paymentStep env) (startPayment env networks blockNumber d routes) is).sent := by
  obtain ⟨live, secret, hlive⟩ := run_invariant (paymentStep env) (P := fun s => ∃ live secret, LiveAttempt s live secret)
    (fun s i hs hok => liveAttempt_step hs hok) ⟨_, _, liveAttempt_start env networks blockNumber d routes⟩ h
  exact ⟨fun x hx y hy => (hlive.revealed x hx).1.trans (hlive.revealed y hy).1.symm, hlive.noTransferAfterReveal⟩

end Runs

/-! ## Two channels -/

/-- an open channel of the sample node with a deposit of 100 on both sides -/
def fundedChannel (channelIdentifier : ℕ) (partner : Address) : NettingChannelState :=
  let c := newChannel sampleEnv
    { sampleDetails with canonicalIdentifier := ⟨1, 3, channelIdentifier⟩, partnerAddress := partner }
  { c with
    ourState := { c.ourState with contractBalance := 100 }
    partnerState := { c.partnerState with contractBalance := 100 } }

def secretOne : Bytes := replicate 32 1

def secretTwo : Bytes := replicate 32 2

/-- a payment of 10 to node 7, over node 2 or node 8, started in block 10 -/
def samplePayment : PaymentRun :=
  startPayment sampleEnv (empty.set 3 ((empty.set 5 (fundedChannel 5 2)).set 6 (fundedChannel 6 8))) 10
    ⟨1, 10, 3, 1, 7, secretOne, secretOne, none⟩ [⟨[1, 2, 7], empty, 0⟩, ⟨[1, 8, 7], empty, 0⟩]

/-- the refund of node 2 -/
def sampleRefund : LockedTransferSigned :=
  let lock : HashTimeLock := ⟨10, 109, secretOne, lockOfTen.amount_le, by decide, rfl⟩
  ⟨1, 4, lock, 1, 7, 1, [], partnerProof 1 0 10 [lock], none⟩

/-- the secret request of the target -/
def targetRequest (secrethash : Bytes) : PaymentInput := .receiveSecretRequest ⟨1, 10, 109, secrethash, 7⟩

/-- a payment that is refunded, rerouted and then revealed -/
theorem one_secret_of_one_reroute :
    PaysOnce (runFrom (paymentStep sampleEnv) samplePayment
      (handleMessageRefundtransfer samplePayment.node sampleRefund secretTwo ++ [targetRequest secretTwo])).sent :=
  one_secret_of_exclusive_attempts sampleEnv _ _ _ _ _ (by decide +kernel)

instance (events : List Event) : Decidable (PaysOnce events) :=
  decidable_of_iff (_ ∧ _) ⟨fun h => ⟨h.1, h.2⟩, fun h => ⟨h.1, h.2⟩⟩

/-- **A payment reveals two secrets.** In the first run the target asks for the secret, then the refund of the next hop is
rerouted and the target asks for the new secret as well. In the second run the target asks for both secrets after the
reroute. -/
theorem payment_reveals_two_secrets :
    (let s := paymentStep sampleEnv samplePayment (targetRequest secretOne)
    ¬ PaysOnce (runFrom (paymentStep sampleEnv) s
      (handleMessageRefundtransfer s.node sampleRefund secretTwo ++ [targetRequest secretTwo])).sent) ∧
    ¬ PaysOnce (runFrom (paymentStep sampleEnv) samplePayment
      (handleMessageRefundtransfer samplePayment.node sampleRefund secretTwo ++
        [targetRequest secretOne, targetRequest secretTwo])).sent := by
  decide +kernel

end Gatecoin.Client
