/-
What a mediator does to the channels of a node, as a sequence of operations.

A mediator receives the transfer that starts it and the refunds of payees, forwards a transfer with the same lock, registers
the secret in the channels of its pairs and unlocks or removes the locks that it sent. The rounds of its loops are inverted
here once (`unlockPayee_cases`, `forwardTransferPair_some`, `mediateTransfer_cases`), and every handler is a sequence of
operations about the secrethash of the task (`mediator_acts`).
-/
import Gatecoin.Client.Trace

namespace Gatecoin.Client

open Gatecoin.Core Mediator Event

/-! ## The mediator -/

/-- the state and the waiting transfer have the secrethash of the task -/
structure MediatorTransferState.Keyed (k : Bytes) (m : MediatorTransferState) : Prop where
  secrethash : m.secrethash = k
  waiting : ∀ w ∈ m.waitingTransfer, w.transfer.lock.secrethash = k

/-- the secrethash whose task a state change is for -/
def MediatorStateChange.key (env : Env) : MediatorStateChange → Option Bytes
  | .actionInitMediator _ _ transfer => some transfer.lock.secrethash
  | .receiveTransferRefund r => some r.transfer.lock.secrethash
  | .receiveSecretReveal r => some (r.secrethash env)
  | .contractReceiveSecretReveal r => some r.secrethash
  | .receiveUnlock u => some (u.secrethash env)
  | .receiveLockExpired m => some m.secrethash
  | _ => none

/-- the transfer that starts a mediator, or a refund, is put into the channel that it names -/
def Mediated (m : Option MediatorTransferState) (tn : Address) (stateChange : MediatorStateChange) (a : ChannelAct) : Prop :=
  a.tokenNetworkAddress = tn ∧
    ((∃ fromHop routes transfer, stateChange = .actionInitMediator fromHop routes transfer ∧ m = none ∧
      a.channelIdentifier = fromHop.channelIdentifier ∧ a.op = .receiveLockedtransfer transfer) ∨
    ∃ r state pair, stateChange = .receiveTransferRefund r ∧ m = some state ∧ state.transfersPair.getLast? = some pair ∧
      a.channelIdentifier = r.transfer.balanceProof.canonicalIdentifier.channelIdentifier ∧
      a.op = .refundtransfer pair.payeeTransfer r)

section Mediators

variable {env : Env} {ok : ChannelAct → Prop} {nets nets' : Networks} {tn : Address} {blockNumber : ℕ} {blockHash : Bytes}
  {k : Bytes} {pairs pairs' : List MediationPairState} {pair pair' : MediationPairState} {events : List Event}
  {state : MediatorTransferState} {receives : ChannelAct → Prop} {secrethash : Bytes} {sent sent' : Bool}
  {u : ReceiveUnlock} {register : NettingChannelState → NettingChannelState} {routes : List RouteState}
  {m : ReceiveLockExpired} {x : Iteration} {secret : Bytes} {transfer : LockedTransferSigned}
  {payer : NettingChannelState} {state' : MediatorTransferState}

theorem keyed_some (h : state.Keyed k) : ∀ m ∈ some state, m.Keyed k := by
  rintro _ ⟨⟩
  exact h

/-- a loop over the pairs does what its rounds do -/
theorem forPairs_acts {f : Networks → MediationPairState → Except Fault (MediationPairState × Networks × List Event)}
    (hf : ∀ nets pair pair' nets' events, f nets pair = .ok (pair', nets', events) → Acts env ok nets events nets')
    (h : forPairs f nets pairs = .ok (pairs', nets', events)) : Acts env ok nets events nets' := by
  induction pairs generalizing nets pairs' events with
  | nil =>
    cases h
    exact .nil _
  | cons pair pairs ih =>
    simp only [forPairs, do_ok, Prod.exists, Prod.mk.injEq] at h
    obtain ⟨pair1, nets1, events1, hfirst, pairs2, nets2, events2, hrest, -, rfl, rfl⟩ := h
    exact (hf _ _ _ _ _ hfirst).append (ih hrest)

/-- a loop over the pairs that reads the channels and says nothing about balance proofs or payments -/
theorem forPairs_plain {σ : Type} {f : σ → MediationPairState → Except Fault (MediationPairState × σ × List Event)} {a b : σ}
    (hf : ∀ a pair pair' b events, f a pair = .ok (pair', b, events) → ∀ e ∈ events, e.plain)
    (h : forPairs f a pairs = .ok (pairs', b, events)) : ∀ e ∈ events, e.plain := by
  induction pairs generalizing a pairs' events with
  | nil =>
    cases h
    simp
  | cons pair pairs ih =>
    simp only [forPairs, do_ok, Prod.exists, Prod.mk.injEq] at h
    obtain ⟨pair1, a1, events1, hfirst, pairs2, a2, events2, hrest, -, rfl, rfl⟩ := h
    exact List.forall_mem_append.2 ⟨hf _ _ _ _ _ hfirst, ih hrest⟩

theorem modifyChannel_acts {f : NettingChannelState → NettingChannelState} (op : ChannelOp)
    (hf : ∀ c, applyOp env c 0 [] op = .ok (some (f c), [])) (hok : ∀ tn id, ok ⟨tn, id, op, 0, []⟩) (nets : Networks)
    (tn : Address) (id : ℕ) : Acts env ok nets [] (nets.modifyChannel tn id f) := by
  unfold Networks.modifyChannel
  split
  · exact .nil nets
  · rename_i c hc
    exact .of_trace (.unproven op 0 [] hc (hf c) (hok tn id) (by simp)) (by simp)

/-- the secret is registered in every channel of the transfer -/
theorem setSecret_acts (op : ChannelOp)
    (hf : ∀ c, applyOp env c 0 [] op = .ok (some (register c), [])) (hok : ∀ tn id, ok ⟨tn, id, op, 0, []⟩)
    (state : MediatorTransferState) (nets : Networks) (tn : Address) (secret secrethash : Bytes) :
    Acts env ok nets (setSecret register state nets tn secret secrethash).2.2
      (setSecret register state nets tn secret secrethash).2.1 := by
  have hpairs : ∀ (pairs : List MediationPairState) (nets : Networks), Acts env ok nets []
      (pairs.foldl (fun nets pair => (nets.modifyChannel tn pair.payerChannel register).modifyChannel tn
        pair.payeeChannel register) nets) := by
    intro pairs
    induction pairs with
    | nil => exact fun nets => .nil nets
    | cons pair pairs ih =>
      intro nets
      exact ((modifyChannel_acts op hf hok nets tn _).append (modifyChannel_acts op hf hok _ tn _)).append (ih _)
  unfold setSecret
  dsimp only
  split
  · exact hpairs _ nets
  · rename_i w hw
    have hall := (hpairs state.transfersPair nets).append (modifyChannel_acts op hf hok _ tn w.payerChannel)
    exact hall.append (Acts.plain (by simp [plain, committed, sentPayment?]))

theorem setSecret_keyed (h : state.Keyed k) : (setSecret register state nets tn secret secrethash).1.Keyed k := by
  unfold setSecret
  dsimp only
  split <;> exact ⟨h.1, h.2⟩

/-- a round of `events_for_balanceproof` does nothing, or pays the payee while it is safe to wait for the payer -/
theorem unlockPayee_cases (h : unlockPayee env tn blockNumber secret k nets pair = .ok (pair', nets', events)) :
    (pair' = pair ∧ nets' = nets ∧ events = []) ∨ ∃ payer c c1 event, nets.channel tn pair.payerChannel = some payer ∧
        isSafeToWait pair.payerTransfer.lock.expiration payer.revealTimeout blockNumber = .ok (.ok ()) ∧
        nets.channel tn pair.payeeChannel = some c ∧ pair.payeeState.secretKnown = true ∧
        pair.payeeState.transferPaid = false ∧
        sendUnlock env c pair.payeeTransfer.paymentIdentifier secret k blockNumber = .ok (c1, event) ∧
        pair' = { pair with payeeState := .payeeBalanceProof } ∧ nets' = nets.setChannel tn pair.payeeChannel c1 ∧
        events = [event, .eventUnlockSuccess pair.payerTransfer.paymentIdentifier pair.payerTransfer.lock.secrethash] := by
  simp only [unlockPayee] at h
  cases hpayer : nets.channel tn pair.payerChannel with
  | none =>
    simp only [hpayer, do_ok, exists_eq_left', Bool.false_eq_true, and_false, if_false] at h
    split at h <;> cases h <;> exact .inl ⟨rfl, rfl, rfl⟩
  | some payer =>
    simp only [hpayer, do_ok, exists_eq_left'] at h
    obtain ⟨safe, hsafe, h⟩ := h
    split at h
    · cases h
      exact .inl ⟨rfl, rfl, rfl⟩
    rename_i c hc
    split_ifs at h with hall
    · simp only [do_ok, Prod.exists, Prod.mk.injEq] at h
      obtain ⟨c1, event, hsend, rfl, rfl, rfl⟩ := h
      have hok : safe = .ok () := by
        cases safe with
        | error => cases hall.2.2.2
        | ok => rfl
      exact .inr ⟨payer, c, c1, event, rfl, hok ▸ hsafe, hc, hall.2.1, hall.2.2.1, hsend, rfl, rfl, rfl⟩
    · cases h
      exact .inl ⟨rfl, rfl, rfl⟩

theorem unlockPayee_acts (h : unlockPayee env tn blockNumber secret k nets pair = .ok (pair', nets', events)) :
    Acts env (TaskAct env k receives) nets events nets' := by
  rcases unlockPayee_cases h with ⟨-, rfl, rfl⟩ | ⟨payer, c, c1, event, -, -, hc, -, -, hsend, -, rfl, rfl⟩
  · exact .nil nets'
  · show Acts _ _ _ ([event] ++ [_]) _
    exact .one _ blockNumber [] hc (applyOp_sendUnlock hsend []) (OwnOp.task ⟨rfl, rfl⟩)
      (by simp [plain, committed, sentPayment?])

theorem removePayeeLock_acts (h : removePayeeLock env tn k blockNumber nets pair = .ok (pair', nets', events)) :
    Acts env (TaskAct env k receives) nets events nets' := by
  unfold removePayeeLock at h
  split at h
  · cases h
    exact .nil nets
  rename_i c hc
  simp only [bind_ok] at h
  obtain ⟨-, -, h⟩ := h
  split at h
  · cases h
    exact .nil nets
  rename_i lock hlock
  split_ifs at h with hexpired
  · simp only [do_ok, Prod.exists, Prod.mk.injEq] at h
    obtain ⟨c1, events1, hsend, -, rfl, rfl⟩ := h
    have happly : applyOp env c blockNumber [] (.removeExpiredLock k) = .ok (some c1, events1) := by
      simp only [applyOp, removeExpiredLock, hlock]
      rw [if_pos hexpired, hsend]
      rfl
    exact .one _ blockNumber [] hc happly (.expires ⟨k, rfl⟩) (by simp [plain, committed, sentPayment?])
  · cases h
    exact .nil nets

theorem eventsForOnchainSecretreveal_plain (c : NettingChannelState) (secret : Bytes) (expiration : ℕ) (blockHash : Bytes) :
    ∀ e ∈ SecretRegistry.eventsForOnchainSecretreveal c secret expiration blockHash, e.plain := by
  unfold SecretRegistry.eventsForOnchainSecretreveal
  split_ifs <;> simp [plain, committed, sentPayment?]

theorem registerInDangerzone_plain
    (h : registerInDangerzone nets tn blockNumber blockHash sent pair = .ok (pair', sent', events)) :
    ∀ e ∈ events, e.plain := by
  unfold registerInDangerzone at h
  split at h
  · split at h
    · cases h
      simp
    simp only [bind_ok] at h
    obtain ⟨safe, -, h⟩ := h
    split at h
    · split at h
      · cases h
        simp
      · simp only [do_ok, Prod.mk.injEq] at h
        obtain ⟨secret, -, -, -, -, -, rfl⟩ := h
        exact eventsForOnchainSecretreveal_plain _ _ _ _
    · cases h
      simp
  · cases h
    simp

theorem registerIfClosed_plain
    (h : registerIfClosed nets tn secret secrethash blockHash sent pair = .ok (pair', sent', events)) :
    ∀ e ∈ events, e.plain := by
  unfold registerIfClosed at h
  split at h
  · split at h
    · cases h
      simp
    dsimp only at h
    split at h
    · split at h
      · cases h
        simp
      · split at h
        · cases h
          simp
        · cases h
          exact eventsForOnchainSecretreveal_plain _ _ _ _
    · cases h
      simp
  · cases h
    simp

theorem eventsForExpiredPairs_plain (state : MediatorTransferState) (nets : Networks) (tn : Address) (blockNumber : ℕ) :
    ∀ e ∈ (eventsForExpiredPairs state nets tn blockNumber).2, e.plain := by
  have hpair : ∀ pair, ∀ e ∈ (expirePayer nets tn blockNumber pair).2, e.plain := by
    intro pair
    unfold expirePayer
    split
    · simp
    · split_ifs <;> simp [plain, committed, sentPayment?]
  have hwaiting : ∀ w, ∀ e ∈ (expireWaiting blockNumber w).2, e.plain := by
    intro w
    unfold expireWaiting
    split_ifs <;> simp [plain, committed, sentPayment?]
  intro e he
  simp only [eventsForExpiredPairs, List.mem_append, List.mem_flatten, List.mem_map] at he
  rcases he with ⟨l, ⟨x, ⟨pair, -, rfl⟩, rfl⟩, he⟩ | he
  · exact hpair pair e he
  · cases hw : state.waitingTransfer with
    | none =>
      rw [hw] at he
      cases he
    | some w =>
      rw [hw] at he
      exact hwaiting w e he

/-- the next pair: a lock like the payer's is sent over the payee's channel -/
theorem forwardTransferPair_some {payee c' : NettingChannelState}
    (h : forwardTransferPair env transfer payer payee blockNumber = .ok (some (pair, c', events))) :
    ∃ amount sent, getAmountWithoutFees transfer.lock.amount payer payee = .ok (some amount) ∧
      sendLockedtransfer env payee ⟨transfer.initiator, transfer.target, amount, transfer.paymentIdentifier,
        transfer.lock.expiration, transfer.secret, transfer.lock.secrethash, transfer.routeStates⟩ = .ok (c', sent) ∧
      pair = ⟨transfer, c'.partnerState.address, sent, .payerPending, .payeePending⟩ ∧
      events = [.sendLockedTransfer c'.partnerState.address c'.canonicalIdentifier sent] := by
  simp only [forwardTransferPair, bind_ok] at h
  obtain ⟨amount, hamount, h⟩ := h
  split at h
  · cases h
  · cases h
  · split_ifs at h
    · simp only [do_ok, Prod.exists, Option.some.injEq, Prod.mk.injEq] at h
      obtain ⟨-, -, c1, sent, hsend, rfl, rfl, rfl⟩ := h
      exact ⟨_, sent, hamount, hsend, rfl, rfl⟩
    · cases h

/-- the route that is used leads over a channel of the node -/
theorem tryRoutes_some
    (h : tryRoutes env transfer payer nets blockNumber routes = .ok (some (pair, nets', events))) :
    ∃ tn id payee c', nets.channel tn id = some payee ∧
      forwardTransferPair env transfer payer payee blockNumber = .ok (some (pair, c', events)) ∧
      nets' = nets.setChannel tn id c' := by
  induction routes with
  | nil => cases h
  | cons route routes ih =>
    simp only [tryRoutes] at h
    split at h
    · exact ih h
    · rename_i id payee hfound
      obtain ⟨nextHop, -, hget⟩ := Option.bind_eq_some_iff.1 hfound
      simp only [bind_ok] at h
      obtain ⟨x, hforward, h⟩ := h
      split at h
      · exact ih h
      · cases h
        exact ⟨_, id, payee, _, (Networks.channel_of_addressesToChannel hget).1, hforward, rfl⟩

/-- a transfer is forwarded as a new pair at the end, or waits -/
theorem mediateTransfer_cases (h : mediateTransfer env state payer nets transfer blockNumber = .ok (state', nets', events)) :
    (∃ tn id payee c' pair, nets.channel tn id = some payee ∧
      forwardTransferPair env transfer payer payee blockNumber = .ok (some (pair, c', events)) ∧
      nets' = nets.setChannel tn id c' ∧ state' = { state with transfersPair := state.transfersPair ++ [pair] }) ∨
    (nets' = nets ∧ events = [] ∧ state' = { state with waitingTransfer := some ⟨transfer, .waiting⟩ }) := by
  simp only [mediateTransfer, bind_ok] at h
  obtain ⟨-, -, x, hroutes, h⟩ := h
  split at h
  · cases h
    obtain ⟨tn, id, payee, c', hc, hforward, hnets⟩ := tryRoutes_some hroutes
    exact .inl ⟨tn, id, payee, c', _, hc, hforward, hnets, rfl⟩
  · cases h
    exact .inr ⟨rfl, rfl, rfl⟩

theorem mediateTransfer_acts (h : mediateTransfer env state payer nets transfer blockNumber = .ok (state', nets', events)) :
    Acts env (TaskAct env transfer.lock.secrethash receives) nets events nets' := by
  rcases mediateTransfer_cases h with ⟨tn, id, payee, c', pair, hc, hforward, rfl, -⟩ | ⟨rfl, rfl, -⟩
  · obtain ⟨amount, sent, -, hsend, -, rfl⟩ := forwardTransferPair_some hforward
    exact .op _ blockNumber [] hc (applyOp_sendLockedtransfer hsend blockNumber []) (OwnOp.task ⟨rfl, rfl⟩)
  · exact .nil _

theorem mediateTransfer_keyed (hstate : state.Keyed k) (hk : transfer.lock.secrethash = k)
    (h : mediateTransfer env state payer nets transfer blockNumber = .ok (state', nets', events)) :
    state'.Keyed k := by
  rcases mediateTransfer_cases h with ⟨tn, id, payee, c', pair, -, -, -, rfl⟩ | ⟨-, -, rfl⟩
  · exact ⟨hstate.1, hstate.2⟩
  · refine ⟨hstate.1, fun w hw => ?_⟩
    cases hw
    exact hk

theorem retryWaiting_acts (hstate : state.Keyed k)
    (h : retryWaiting env state nets tn blockNumber = .ok (state', nets', events)) :
    Acts env (TaskAct env k receives) nets events nets' ∧ state'.Keyed k := by
  unfold retryWaiting at h
  split at h
  · cases h
    exact ⟨.nil _, hstate⟩
  rename_i w hw
  split at h
  · cases h
    exact ⟨.nil _, hstate⟩
  simp only [do_ok, Prod.exists, Prod.mk.injEq] at h
  obtain ⟨state1, nets1, events1, hmediate, rfl, rfl, rfl⟩ := h
  have hk : w.transfer.lock.secrethash = k := hstate.2 w hw
  have hkeyed := mediateTransfer_keyed hstate hk hmediate
  refine ⟨hk ▸ mediateTransfer_acts hmediate, ?_⟩
  split_ifs
  · exact ⟨hkeyed.1, by simp⟩
  · exact hkeyed

theorem eventsForExpiredPairs_keyed (hstate : state.Keyed k) (nets : Networks) (tn : Address) (blockNumber : ℕ) :
    (eventsForExpiredPairs state nets tn blockNumber).1.Keyed k := by
  refine ⟨hstate.1, fun w hw => ?_⟩
  simp only [eventsForExpiredPairs, Option.map_map, Option.mem_def, Option.map_eq_some_iff] at hw
  obtain ⟨w0, hw0, rfl⟩ := hw
  have hk := hstate.2 w0 hw0
  simp only [Function.comp_apply, expireWaiting]
  split_ifs <;> exact hk

theorem mediator_handleBlock_acts (hstate : state.Keyed k)
    (h : Mediator.handleBlock env state nets tn blockNumber blockHash = .ok x) :
    Acts env (TaskAct env k receives) nets x.events x.networks ∧ ∀ m ∈ x.newState, m.Keyed k := by
  simp only [Mediator.handleBlock, Mediator.eventsToRemoveExpiredLocks, Mediator.eventsForOnchainSecretrevealIfDangerzone,
    do_ok, Prod.exists, Prod.mk.injEq] at h
  obtain ⟨state1, nets1, events1, hretry, pairs2, nets2, events2, hremove, pairs3, events3,
    ⟨_, sent, _, hregister, rfl, rfl⟩, rfl⟩ := h
  obtain ⟨hacts1, hkeyed1⟩ := retryWaiting_acts hstate hretry
  rw [hkeyed1.1] at hremove
  have hacts2 : Acts env (TaskAct env k receives) nets1 events2 nets2 :=
    forPairs_acts (fun nets pair pair' nets' events => removePayeeLock_acts) hremove
  have hplain3 := forPairs_plain (fun a pair pair' b events => registerInDangerzone_plain) hregister
  refine ⟨?_, keyed_some (eventsForExpiredPairs_keyed ?_ _ _ _)⟩
  · exact ((hacts1.append (.plain (eventsForExpiredPairs_plain _ _ _ _))).append (.plain hplain3)).append hacts2
  · exact ⟨hkeyed1.1, hkeyed1.2⟩

theorem eventsForBalanceproof_acts
    (h : eventsForBalanceproof env nets tn pairs blockNumber secret k = .ok (pairs', nets', events)) :
    Acts env (TaskAct env k receives) nets events nets' := by
  simp only [eventsForBalanceproof, forPairsReversed, do_ok, Prod.exists, Prod.mk.injEq] at h
  obtain ⟨pairs1, nets1, events1, hloop, -, rfl, rfl⟩ := h
  exact forPairs_acts (fun nets pair pair' nets' events => unlockPayee_acts) hloop

theorem eventsForSecretreveal_plain (pairs : List MediationPairState) (secret : Bytes) :
    ∀ e ∈ (eventsForSecretreveal pairs secret).2, e.plain := by
  intro e he
  simp only [eventsForSecretreveal, List.mem_flatten, List.mem_map, List.mem_reverse] at he
  obtain ⟨l, ⟨x, ⟨pair, -, rfl⟩, rfl⟩, he⟩ := he
  unfold revealToPayer at he
  split_ifs at he
  · cases List.mem_singleton.1 he
    rfl
  · cases he

theorem secretLearned_acts {payee : Address} (hstate : state.Keyed k)
    (h : secretLearned env state nets tn blockNumber blockHash secret k payee = .ok x) :
    Acts env (TaskAct env k receives) nets x.events x.networks ∧ ∀ m ∈ x.newState, m.Keyed k := by
  simp only [secretLearned, eventsForOnchainSecretrevealIfClosed, do_ok, Prod.exists, Prod.mk.injEq] at h
  obtain ⟨pairs1, events1, ⟨_, sent, _, hclosed, rfl, rfl⟩, pairs2, nets2, events2, hbalance, rfl⟩ := h
  have hset : Acts env (TaskAct env k receives) nets _ _ := setSecret_acts (.registerOffchainSecret secret k)
    (fun c => rfl) (fun tn id => OwnOp.task ⟨rfl, rfl⟩) state nets tn secret k
  have hplain := forPairs_plain (fun a pair pair' b events => registerIfClosed_plain) hclosed
  have hkeyed : (setOffchainSecret state nets tn secret k).1.Keyed k := setSecret_keyed hstate
  refine ⟨?_, keyed_some ⟨hkeyed.1, hkeyed.2⟩⟩
  exact ((hset.append (.plain (eventsForSecretreveal_plain _ _))).append (eventsForBalanceproof_acts hbalance)).append
    (.plain hplain)

theorem mediator_handleOffchainSecretreveal_acts {r : ReceiveSecretReveal} (hstate : state.Keyed k)
    (hk : r.secrethash env = k)
    (h : handleOffchainSecretreveal env state r nets tn blockNumber blockHash = .ok x) :
    Acts env (TaskAct env k receives) nets x.events x.networks ∧ ∀ m ∈ x.newState, m.Keyed k := by
  have hidle : Acts env (TaskAct env k receives) nets [] nets ∧ ∀ m ∈ some state, m.Keyed k := ⟨.nil nets, keyed_some hstate⟩
  unfold handleOffchainSecretreveal at h
  split at h
  · cases h
    exact hidle
  split at h
  · cases h
    exact hidle
  split_ifs at h
  · rw [hk] at h
    exact secretLearned_acts hstate h
  · cases h
    exact hidle

theorem mediator_handleOnchainSecretreveal_acts {r : ContractReceiveSecretReveal}
    (hstate : state.Keyed k) (hk : r.secrethash = k) (h : handleOnchainSecretreveal env state r nets tn = .ok x) :
    Acts env (TaskAct env k receives) nets x.events x.networks ∧ ∀ m ∈ x.newState, m.Keyed k := by
  simp only [handleOnchainSecretreveal, hk] at h
  split_ifs at h
  · simp only [do_ok, Prod.exists] at h
    obtain ⟨pairs1, nets1, events1, hbalance, rfl⟩ := h
    have hset : Acts env (TaskAct env k receives) nets _ _ := setSecret_acts
      (.registerOnchainSecret r.secret k r.blockNumber) (fun c => rfl) (fun tn id => OwnOp.task ⟨rfl, rfl⟩) state nets tn
      r.secret k
    have hkeyed : (setOnchainSecret state nets tn r.secret k r.blockNumber).1.Keyed k := setSecret_keyed hstate
    exact ⟨hset.append (eventsForBalanceproof_acts hbalance), keyed_some ⟨hkeyed.1, hkeyed.2⟩⟩
  · cases h
    exact ⟨.nil nets, keyed_some hstate⟩

/-- a round of `handle_unlock` hands the message to the channel it names -/
theorem unlockPayer_acts (hk : u.secrethash env = k)
    (h : unlockPayer env u tn nets pair = .ok (pair', nets', events)) :
    Acts env (TaskAct env k receives) nets events nets' := by
  unfold unlockPayer at h
  dsimp only at h
  split at h
  · split at h
    · cases h
      exact .nil _
    rename_i c hc
    simp only [bind_ok] at h
    obtain ⟨handled, hunlock, h⟩ := h
    have happly : applyOp env c 0 [] (.unlock u) = .ok (some handled.channel, handled.events) := by
      simp only [applyOp, hunlock]
      rfl
    have hact : TaskAct env k receives ⟨tn, u.balanceProof.canonicalIdentifier.channelIdentifier, .unlock u, 0, []⟩ :=
      OwnOp.task ⟨congrArg some hk, rfl⟩
    split at h
    · cases h
      exact .one _ 0 [] hc happly hact (by simp [plain, committed, sentPayment?])
    · cases h
      exact .op _ 0 [] hc happly hact
  · cases h
    exact .nil _

theorem handleUnlock_acts (hstate : state.Keyed k) (hk : u.secrethash env = k)
    (h : Mediator.handleUnlock env state u nets tn = .ok x) :
    Acts env (TaskAct env k receives) nets x.events x.networks ∧ ∀ m ∈ x.newState, m.Keyed k := by
  simp only [Mediator.handleUnlock, do_ok, Prod.exists] at h
  obtain ⟨pairs1, nets1, events1, hloop, rfl⟩ := h
  exact ⟨forPairs_acts (fun nets pair pair' nets' events => unlockPayer_acts hk) hloop, keyed_some ⟨hstate.1, hstate.2⟩⟩

/-- the loop of `handle_lock_expired` answers the message in every payer's channel -/
theorem expirePairs_trace (hk : m.secrethash = k) (secrethash : Bytes) (pairs : List MediationPairState) (nets : Networks) :
    Trace env (TaskAct env k receives) nets [] (expirePairs env m tn secrethash blockNumber nets pairs).2.1 ∧
    ∀ events ∈ (expirePairs env m tn secrethash blockNumber nets pairs).2.2, ∀ e ∈ events, e.plain := by
  induction pairs generalizing nets with
  | nil =>
    refine ⟨.nil nets, fun events he => ?_⟩
    cases he
    simp
  | cons pair pairs ih =>
    unfold expirePairs
    split
    · exact ⟨.nil nets, by simp⟩
    · rename_i c hc
      have hplain := handleReceiveLockExpired_plain env c m blockNumber
      have hact : TaskAct env k receives ⟨tn, pair.payerChannel, .receiveLockExpired m, blockNumber, []⟩ :=
        OwnOp.task ⟨congrArg some hk, rfl⟩
      have hfirst := Trace.unproven _ blockNumber [] hc rfl hact fun e he => (plain_iff.1 (hplain e he)).1
      obtain ⟨hrest, hrestPlain⟩ := ih (nets.setChannel tn pair.payerChannel (handleReceiveLockExpired env c m blockNumber).1)
      have hpair : (if (getLock (handleReceiveLockExpired env c m blockNumber).1.partnerState secrethash).isNone = true
          then { pair with payerState := .payerExpired } else pair).payerChannel = pair.payerChannel := by
        split_ifs <;> rfl
      dsimp only
      rw [hpair]
      refine ⟨hfirst.append hrest, fun events he => ?_⟩
      simp only [Option.mem_def, Option.map_eq_some_iff] at he
      obtain ⟨rest, hsome, rfl⟩ := he
      exact List.forall_mem_append.2 ⟨hplain, hrestPlain rest hsome⟩

theorem mediator_handleLockExpired_acts (hstate : state.Keyed k) (hk : m.secrethash = k) :
    Acts env (TaskAct env k receives) nets (handleLockExpired env state m nets tn blockNumber).events
      (handleLockExpired env state m nets tn blockNumber).networks ∧
    ∀ s ∈ (handleLockExpired env state m nets tn blockNumber).newState, s.Keyed k := by
  have hloop : ∀ nets, Trace env (TaskAct env k receives) nets []
        (expirePairs env m tn state.secrethash blockNumber nets state.transfersPair).2.1 ∧
      ∀ events ∈ (expirePairs env m tn state.secrethash blockNumber nets state.transfersPair).2.2,
        ∀ e ∈ events, e.plain := expirePairs_trace hk state.secrethash state.transfersPair
  obtain ⟨htrace, hplain⟩ := hloop nets
  unfold handleLockExpired
  dsimp only
  generalize expirePairs env m tn state.secrethash blockNumber nets state.transfersPair = loop at htrace hplain ⊢
  obtain ⟨pairs1, nets1, expired⟩ := loop
  have hkeyed : ∀ s ∈ some { state with transfersPair := pairs1 }, s.Keyed k := keyed_some ⟨hstate.1, hstate.2⟩
  cases expired with
  | none => exact ⟨.of_trace htrace (by simp), hkeyed⟩
  | some events =>
    have hpairs := Acts.of_trace htrace (hplain events rfl)
    generalize state.waitingTransfer = waiting at hkeyed ⊢
    cases waiting with
    | none => exact ⟨hpairs, hkeyed⟩
    | some w =>
      dsimp only
      split
      · exact ⟨hpairs, hkeyed⟩
      · rename_i c hc
        have hwaiting : Acts env (TaskAct env k receives) nets1 _ _ :=
          .op (.receiveLockExpired m) blockNumber [] hc rfl (OwnOp.task ⟨congrArg some hk, rfl⟩)
        exact ⟨hpairs.append hwaiting, hkeyed⟩

/-- the transfer is received into the channel of the previous hop -/
theorem mediator_handleInit_acts {fromHop : HopState} (hk : transfer.lock.secrethash = k)
    (h : handleInit env fromHop routes transfer nets tn blockNumber = .ok x) :
    Acts env (TaskAct env k (Mediated none tn (.actionInitMediator fromHop routes transfer))) nets x.events x.networks ∧
      ∀ m ∈ x.newState, m.Keyed k := by
  unfold handleInit at h
  split at h
  · cases h
    exact ⟨.nil nets, by simp⟩
  rename_i c hc
  dsimp only at h
  have hreceive : Acts env (TaskAct env k (Mediated none tn (.actionInitMediator fromHop routes transfer))) nets _ _ :=
    .op (.receiveLockedtransfer transfer) blockNumber [] hc rfl
      (.received rfl ⟨rfl, .inl ⟨fromHop, routes, transfer, rfl, rfl, rfl, rfl⟩⟩)
  split_ifs at h
  · cases h
    exact ⟨hreceive, by simp⟩
  · simp only [do_ok, Prod.exists] at h
    obtain ⟨state, nets1, events1, hmediate, rfl⟩ := h
    exact ⟨hreceive.append (hk ▸ mediateTransfer_acts hmediate), keyed_some (mediateTransfer_keyed ⟨hk, by simp⟩ hk hmediate)⟩

/-- a refund is received into the channel that it names -/
theorem mediator_handleRefundtransfer_acts {r : ReceiveTransferRefund} (hstate : state.Keyed k)
    (hk : r.transfer.lock.secrethash = k) (h : Mediator.handleRefundtransfer env state r nets tn blockNumber = .ok x) :
    Acts env (TaskAct env k (Mediated (some state) tn (.receiveTransferRefund r))) nets x.events x.networks ∧
      ∀ m ∈ x.newState, m.Keyed k := by
  have hidle : ∀ m ∈ some state, m.Keyed k := keyed_some hstate
  unfold Mediator.handleRefundtransfer at h
  split at h
  · cases h
    exact ⟨.nil nets, hidle⟩
  dsimp only at h
  split at h
  · cases h
  · cases h
    exact ⟨.nil nets, hidle⟩
  rename_i pair c hpair hc
  have hreceive : Acts env (TaskAct env k (Mediated (some state) tn (.receiveTransferRefund r))) nets _ _ :=
    .op (.refundtransfer pair.payeeTransfer r) blockNumber [] hc rfl
      (.received rfl ⟨rfl, .inr ⟨r, state, pair, rfl, rfl, hpair, rfl, rfl⟩⟩)
  split_ifs at h
  · cases h
    exact ⟨hreceive, hidle⟩
  · simp only [do_ok, Prod.exists] at h
    obtain ⟨state1, nets1, events1, hmediate, rfl⟩ := h
    refine ⟨hreceive.append (hk ▸ mediateTransfer_acts hmediate), keyed_some (mediateTransfer_keyed ?_ hk hmediate)⟩
    exact ⟨hstate.1, hstate.2⟩

/-- **Mediators.** What a mediator does with the channels of the node, and that it keeps its secrethash. -/
theorem mediator_acts {m : Option MediatorTransferState} {stateChange : MediatorStateChange}
    (hkeyed : ∀ s ∈ m, s.Keyed k) (hkey : ∀ k', stateChange.key env = some k' → k' = k)
    (h : Mediator.stateTransition env m nets tn blockNumber blockHash stateChange = .ok x) :
    Acts env (TaskAct env k (Mediated m tn stateChange)) nets x.events x.networks ∧ ∀ s ∈ x.newState, s.Keyed k := by
  simp only [Mediator.stateTransition, bind_ok] at h
  obtain ⟨y, hy, h⟩ := h
  have hhandled : Acts env (TaskAct env k (Mediated m tn stateChange)) nets y.events y.networks ∧
      ∀ s ∈ y.newState, s.Keyed k := by
    cases stateChange with
    | actionInitMediator fromHop routes transfer =>
      cases m with
      | none => exact mediator_handleInit_acts (hkey _ rfl) hy
      | some state =>
        cases hy
        exact ⟨.nil nets, hkeyed⟩
    | other =>
      cases hy
      exact ⟨.nil nets, hkeyed⟩
    | block number hash =>
      simp only [handle, bind_ok, present_ok] at hy
      obtain ⟨state, rfl, hy⟩ := hy
      exact mediator_handleBlock_acts (hkeyed state rfl) hy
    | receiveTransferRefund r =>
      simp only [handle, bind_ok, present_ok] at hy
      obtain ⟨state, rfl, hy⟩ := hy
      exact mediator_handleRefundtransfer_acts (hkeyed state rfl) (hkey _ rfl) hy
    | receiveSecretReveal r =>
      simp only [handle, bind_ok, present_ok] at hy
      obtain ⟨state, rfl, hy⟩ := hy
      exact mediator_handleOffchainSecretreveal_acts (hkeyed state rfl) (hkey _ rfl) hy
    | contractReceiveSecretReveal r =>
      simp only [handle, bind_ok, present_ok] at hy
      obtain ⟨state, rfl, hy⟩ := hy
      exact mediator_handleOnchainSecretreveal_acts (hkeyed state rfl) (hkey _ rfl) hy
    | receiveUnlock u =>
      simp only [handle, bind_ok, present_ok] at hy
      obtain ⟨state, rfl, hy⟩ := hy
      exact handleUnlock_acts (hkeyed state rfl) (hkey _ rfl) hy
    | receiveLockExpired e =>
      simp only [handle, do_ok, present_ok] at hy
      obtain ⟨state, rfl, rfl⟩ := hy
      exact mediator_handleLockExpired_acts (hkeyed state rfl) (hkey _ rfl)
  split at h
  · cases h
    exact hhandled
  · rename_i state hstate
    simp only [do_ok] at h
    obtain ⟨-, -, rfl⟩ := h
    refine ⟨hhandled.1, fun s hs => hhandled.2 s ?_⟩
    dsimp only [clearIfFinalized] at hs
    split_ifs at hs
    · rw [hstate]
      exact hs
    · cases hs

end Mediators

end Gatecoin.Client
