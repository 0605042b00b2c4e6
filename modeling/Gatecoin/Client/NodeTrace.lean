/-
What a state change does to a node, as a sequence of moves.

A state change changes the time, a channel, the task of a secrethash, or several of them one after the other: a block reaches
all channels and then all tasks, a reroute copies a task before it dispatches to the copy. `NodeMove` lists the single moves
and `handleStateChange_moves` says that nothing else happens, so that an invariant of the node is proved move by move
(`NodeMoves.invariant`).

A task changes the channels by operations about its own secrethash (`task_trace`), as long as mediators and targets are
stored under their secrethash and payments store each transfer under its own (`TasksKeyed`). A payment itself can be found
under several secrethashes, since a reroute copies it. `nodes_in_order`: this is so in every run in which only payments are
rerouted.
-/
import Gatecoin.Client.MediatorTrace

namespace Gatecoin.Client

open Gatecoin.Core InitiatorManager Node Option Event

/-! ## The target -/

/-- the secrethash whose task a state change is for -/
def TargetStateChange.key (env : Env) : TargetStateChange → Option Bytes
  | .actionInitTarget _ transfer _ => some transfer.lock.secrethash
  | .receiveSecretReveal r => some (r.secrethash env)
  | .contractReceiveSecretReveal r => some r.secrethash
  | .receiveUnlock u => some (u.secrethash env)
  | .receiveLockExpired m => some m.secrethash
  | _ => none

/-- the transfer that starts a target is put into the channel -/
def Targeted (t : Option TargetTransferState) (tn : Address) (id : ℕ) (stateChange : TargetStateChange) (a : ChannelAct) :
    Prop :=
  ∃ fromHop transfer valid, stateChange = .actionInitTarget fromHop transfer valid ∧ t = none ∧ a.tokenNetworkAddress = tn ∧
    a.channelIdentifier = id ∧ a.op = .receiveLockedtransfer transfer

section Targets

variable {env : Env} {nets : Networks} {tn : Address} {id : ℕ} {c : NettingChannelState} {blockNumber : ℕ}
  {t : TargetTransferState} {k : Bytes} {receives : ChannelAct → Prop} {x : Target.Iteration}

/-- a channel that is written back as it was -/
theorem Acts.same {ok : ChannelAct → Prop} {events : List Event} (hc : nets.channel tn id = some c)
    (hevents : ∀ e ∈ events, e.plain) : Acts env ok nets events (nets.setChannel tn id c) := by
  rw [Networks.setChannel_self hc]
  exact .plain hevents

/-- **Targets.** What a target does with its channel, and that it keeps its transfer. -/
theorem target_acts {o : Option TargetTransferState} {stateChange : TargetStateChange}
    (hkeyed : ∀ t ∈ o, t.transfer.lock.secrethash = k) (hkey : ∀ k', stateChange.key env = some k' → k' = k)
    (hc : nets.channel tn id = some c) (h : Target.stateTransition env o c blockNumber stateChange = .ok x) :
    Acts env (TaskAct env k (Targeted o tn id stateChange)) nets x.events (nets.setChannel tn id x.channel) ∧
      ∀ t ∈ x.newState, t.transfer.lock.secrethash = k := by
  simp only [Target.stateTransition, do_ok] at h
  obtain ⟨y, hy, -, -, rfl⟩ := h
  have hunlock : ∀ {u handled}, Client.handleUnlock env c u = .ok handled →
      applyOp env c 0 [] (.unlock u) = .ok (some handled.channel, handled.events) := by
    intro u handled hu
    simp only [applyOp, hu]
    rfl
  cases Target.acts_of_handle hy with
  | idle => exact ⟨.same hc (by simp), hkeyed⟩
  | @accepted fromHop transfer valid request hrequest =>
    refine ⟨.one (.receiveLockedtransfer transfer) blockNumber [] hc rfl
      (.received rfl ⟨fromHop, transfer, valid, rfl, rfl, rfl, rfl, rfl⟩) ?_, fun t ht => ?_⟩
    · rcases hrequest with rfl | rfl <;> simp [plain, committed, sentPayment?]
    · cases ht
      exact hkey _ rfl
  | refused fromHop transfer valid msg =>
    exact ⟨.one (.receiveLockedtransfer transfer) blockNumber [] hc rfl
      (.received rfl ⟨fromHop, transfer, valid, rfl, rfl, rfl, rfl, rfl⟩)
      (by simp [plain, committed, sentPayment?]), by simp⟩
  | expired => exact ⟨.same hc (by simp [plain, committed, sentPayment?]), by simpa using hkeyed⟩
  | registered => exact ⟨.same hc (eventsForOnchainSecretreveal_plain _ _ _ _), by simpa using hkeyed⟩
  | revealed t r =>
    exact ⟨.one (.registerOffchainSecret r.secret (r.secrethash env)) blockNumber [] hc rfl
      (OwnOp.task ⟨congrArg some (hkey _ rfl), rfl⟩) (by simp [plain, committed, sentPayment?]),
      by simpa using hkeyed⟩
  | revealedOnchain t r =>
    exact ⟨.op (.registerOnchainSecret r.secret r.secrethash r.blockNumber) blockNumber [] hc rfl
      (OwnOp.task ⟨congrArg some (hkey _ rfl), rfl⟩), by simpa using hkeyed⟩
  | @unlocked t u handled hu =>
    exact ⟨.one (.unlock u) 0 [] hc (hunlock hu) (OwnOp.task ⟨congrArg some (hkey _ rfl), rfl⟩)
      (by simp [plain, committed, sentPayment?]), by simp⟩
  | @unlockRefused t u handled hu =>
    exact ⟨.op (.unlock u) 0 [] hc (hunlock hu) (OwnOp.task ⟨congrArg some (hkey _ rfl), rfl⟩), hkeyed⟩
  | lockExpired t m =>
    exact ⟨.one (.receiveLockExpired m) blockNumber [] hc rfl (OwnOp.task ⟨congrArg some (hkey _ rfl), rfl⟩)
      (by simp [plain, committed, sentPayment?]), by simp⟩
  | lockKept t m =>
    exact ⟨.op (.receiveLockExpired m) blockNumber [] hc rfl (OwnOp.task ⟨congrArg some (hkey _ rfl), rfl⟩), hkeyed⟩

end Targets

/-! ## Tasks -/

/-- the secrethash whose task a state change is for; a block and the state changes of channels are for no single task -/
def StateChange.key (env : Env) : StateChange → Option Bytes
  | .actionInitInitiator transfer _ => some transfer.secrethash
  | .actionInitMediator _ _ transfer => some transfer.lock.secrethash
  | .actionInitTarget _ transfer _ => some transfer.lock.secrethash
  | .actionTransferReroute _ secret => some (env.sha256 secret)
  | .contractReceiveSecretReveal r => some r.secrethash
  | .receiveTransferCancelRoute transfer => some transfer.lock.secrethash
  | .receiveTransferRefund r => some r.transfer.lock.secrethash
  | .receiveSecretRequest r => some r.secrethash
  | .receiveSecretReveal r => some (r.secrethash env)
  | .receiveUnlock u => some (u.secrethash env)
  | .receiveLockExpired m => some m.secrethash
  | _ => none

/-- a mediator or a target belongs to the secrethash; a payment stores each of its transfers under its own secrethash -/
def TransferTask.Keyed (k : Bytes) : TransferTask → Prop
  | .initiator task => task.managerState.Keyed
  | .mediator task => task.mediatorState.Keyed k
  | .target task => task.targetState.transfer.lock.secrethash = k

/-- every task is in order where it is stored -/
def TasksKeyed (tasks : Dict Bytes TransferTask) : Prop := ∀ k task, tasks.get? k = some task → task.Keyed k

/-- the transfers that the task of `key` receives -/
def Received (s : ChainState) (stateChange : StateChange) (key : Bytes) (a : ChannelAct) : Prop :=
  match s.secrethashesToTask.get? key with
  | some (.initiator task) => Rerouted task.managerState task.tokenNetworkAddress stateChange.toInitiator a
  | some (.mediator task) => Mediated (some task.mediatorState) task.tokenNetworkAddress stateChange.toMediator a
  | _ => False

section Tasks

variable {env : Env} {s s' : ChainState} {stateChange : StateChange} {key k : Bytes} {events : List Event}

/-- a state change with a key is for the task of that key only -/
theorem key_unique {o : Option Bytes} (h : o = some k) : ∀ k', o = some k' → k' = k :=
  fun _ hk' => some.inj (hk'.symm.trans h)

theorem StateChange.toInitiator_key (h : stateChange.toInitiator.key env = some k) : stateChange.key env = some k := by
  cases stateChange <;> first | exact h | cases h

theorem StateChange.toMediator_key (h : stateChange.toMediator.key env = some k) : stateChange.key env = some k := by
  cases stateChange <;> first | exact h | cases h

theorem StateChange.toTarget_key (h : stateChange.toTarget.key env = some k) : stateChange.key env = some k := by
  cases stateChange <;> first | exact h | cases h

theorem StateChange.toInitiator_ne_cancel (stateChange : StateChange) : stateChange.toInitiator ≠ .actionCancelPayment := by
  cases stateChange <;> simp [StateChange.toInitiator]

/-- a payment that gets a state change -/
theorem subdispatch_initiator {task : InitiatorTask} (htask : s.secrethashesToTask.get? key = some (.initiator task))
    (h : subdispatchToPaymenttask env s stateChange key = .ok (s', events)) :
    (s' = s ∧ events = []) ∨ ∃ x, InitiatorManager.Acts env task.managerState s.networks task.tokenNetworkAddress
        s.blockNumber stateChange.toInitiator x ∧ events = x.events ∧
      s' = setTask { s with networks := x.networks } key
        ((InitiatorManager.clearIfFinalized (some x.newState)).map fun p => .initiator ⟨task.tokenNetworkAddress, p⟩) := by
  simp only [subdispatchToPaymenttask, htask] at h
  split_ifs at h
  · simp only [InitiatorManager.stateTransition, do_ok, Prod.exists, Prod.mk.injEq] at h
    obtain ⟨p, nets, events', ⟨x, hx, rfl, rfl, rfl⟩, rfl, rfl⟩ := h
    exact .inr ⟨x, acts_of_handle hx, rfl, rfl⟩
  · cases h
    exact .inl ⟨rfl, rfl⟩

/-- a mediator that gets a state change -/
theorem subdispatch_mediator {task : MediatorTask} (htask : s.secrethashesToTask.get? key = some (.mediator task))
    (h : subdispatchToPaymenttask env s stateChange key = .ok (s', events)) :
    (s' = s ∧ events = []) ∨ ∃ x, Mediator.stateTransition env (some task.mediatorState) s.networks
        task.tokenNetworkAddress s.blockNumber s.blockHash stateChange.toMediator = .ok x ∧ events = x.events ∧
      s' = setTask { s with networks := x.networks } key
        (x.newState.map fun m => .mediator ⟨task.tokenNetworkAddress, m⟩) := by
  simp only [subdispatchToPaymenttask, htask] at h
  split_ifs at h
  · simp only [do_ok, Prod.mk.injEq] at h
    obtain ⟨x, hx, rfl, rfl⟩ := h
    exact .inr ⟨x, hx, rfl, rfl⟩
  · cases h
    exact .inl ⟨rfl, rfl⟩

/-- a target that gets a state change -/
theorem subdispatch_target {task : TargetTask} (htask : s.secrethashesToTask.get? key = some (.target task))
    (h : subdispatchToPaymenttask env s stateChange key = .ok (s', events)) :
    (s' = s ∧ events = []) ∨ ∃ c x, s.networks.channel task.canonicalIdentifier.tokenNetworkAddress
        task.canonicalIdentifier.channelIdentifier = some c ∧
      Target.stateTransition env (some task.targetState) c s.blockNumber stateChange.toTarget = .ok x ∧ events = x.events ∧
      s' = setTask { s with networks := (s.networks.setChannel task.canonicalIdentifier.tokenNetworkAddress
          task.canonicalIdentifier.channelIdentifier x.channel) } key
        (x.newState.map fun t => .target ⟨task.canonicalIdentifier, t⟩) := by
  simp only [subdispatchToPaymenttask, htask] at h
  split at h
  · cases h
    exact .inl ⟨rfl, rfl⟩
  · rename_i c hc
    simp only [do_ok, Prod.mk.injEq] at h
    obtain ⟨x, hx, rfl, rfl⟩ := h
    exact .inr ⟨c, x, hc, hx, rfl, rfl⟩

theorem subdispatch_none (htask : s.secrethashesToTask.get? key = none)
    (h : subdispatchToPaymenttask env s stateChange key = .ok (s', events)) : s' = s ∧ events = [] := by
  simp only [subdispatchToPaymenttask, htask] at h
  cases h
  exact ⟨rfl, rfl⟩

@[simp] theorem setTask_networks (s : ChainState) (key : Bytes) (o : Option TransferTask) :
    (setTask s key o).networks = s.networks := by
  cases o <;> rfl

@[simp] theorem setTask_blockNumber (s : ChainState) (key : Bytes) (o : Option TransferTask) :
    (setTask s key o).blockNumber = s.blockNumber := by
  cases o <;> rfl

theorem setTask_get? (s : ChainState) (key k : Bytes) (o : Option TransferTask) :
    (setTask s key o).secrethashesToTask.get? k = if k = key then o else s.secrethashesToTask.get? k := by
  cases o with
  | none => exact Dict.get?_erase _ _ _
  | some task => exact Dict.get?_set _ _ _ _

/-- a task changes the channels and the tasks only -/
theorem subdispatch_state (h : subdispatchToPaymenttask env s stateChange key = .ok (s', events)) :
    ∃ networks tasks, s' = { s with networks := networks, secrethashesToTask := tasks } := by
  have hset (networks : Networks) (o : Option TransferTask) : ∃ networks' tasks,
      setTask { s with networks := networks } key o = { s with networks := networks', secrethashesToTask := tasks } := by
    cases o <;> exact ⟨_, _, rfl⟩
  cases htask : s.secrethashesToTask.get? key with
  | none =>
    obtain ⟨rfl, -⟩ := subdispatch_none htask h
    exact ⟨_, _, rfl⟩
  | some task =>
    cases task with
    | initiator task =>
      rcases subdispatch_initiator htask h with ⟨rfl, -⟩ | ⟨x, -, -, rfl⟩
      · exact ⟨_, _, rfl⟩
      · exact hset _ _
    | mediator task =>
      rcases subdispatch_mediator htask h with ⟨rfl, -⟩ | ⟨x, -, -, rfl⟩
      · exact ⟨_, _, rfl⟩
      · exact hset _ _
    | target task =>
      rcases subdispatch_target htask h with ⟨rfl, -⟩ | ⟨c, x, -, -, -, rfl⟩
      · exact ⟨_, _, rfl⟩
      · exact hset _ _

theorem subdispatch_blockNumber (h : subdispatchToPaymenttask env s stateChange key = .ok (s', events)) :
    s'.blockNumber = s.blockNumber := by
  obtain ⟨networks, tasks, rfl⟩ := subdispatch_state h
  rfl

theorem TasksKeyed.setTask {o : Option TransferTask} (h : TasksKeyed s.secrethashesToTask) (ho : ∀ task ∈ o, task.Keyed key) :
    TasksKeyed (setTask s key o).secrethashesToTask := by
  intro k task htask
  rw [setTask_get?] at htask
  split_ifs at htask with heq
  · exact heq ▸ ho task htask
  · exact h k task htask

theorem clearIfFinalized_mem {o : Option InitiatorPaymentState} {p : InitiatorPaymentState}
    (h : p ∈ clearIfFinalized o) : o = some p := by
  cases o with
  | none => cases h
  | some p' =>
    simp only [clearIfFinalized] at h
    split_ifs at h
    · cases h
    · cases h
      rfl

/-- **Tasks.** What the task of a secrethash does with the channels of the node; it stays a task of its secrethash. -/
theorem task_trace (hkeyed : TasksKeyed s.secrethashesToTask) (hkey : ∀ k', stateChange.key env = some k' → k' = key)
    (h : subdispatchToPaymenttask env s stateChange key = .ok (s', events)) :
    Trace env (TaskAct env key (Received s stateChange key)) s.networks (commitments events) s'.networks ∧
      TasksKeyed s'.secrethashesToTask := by
  cases htask : s.secrethashesToTask.get? key with
  | none =>
    obtain ⟨rfl, rfl⟩ := subdispatch_none htask h
    exact ⟨.nil _, hkeyed⟩
  | some task =>
    have htaskKeyed := hkeyed key task htask
    cases task with
    | initiator task =>
      rcases subdispatch_initiator htask h with ⟨rfl, rfl⟩ | ⟨x, hx, rfl, rfl⟩
      · exact ⟨.nil _, hkeyed⟩
      · have htrace := manager_trace htaskKeyed (fun k' hk' => hkey k' (StateChange.toInitiator_key hk'))
          stateChange.toInitiator_ne_cancel hx
        rw [setTask_networks]
        refine ⟨htrace.mono fun a ha => ?_, TasksKeyed.setTask ?_ ?_⟩
        · simp only [TaskAct, Received, htask] at ha ⊢
          exact ha
        · exact hkeyed
        · simp only [mem_def, map_eq_some_iff]
          rintro task ⟨p, hp, rfl⟩
          cases clearIfFinalized_mem hp
          exact manager_keyed htaskKeyed hx
    | mediator task =>
      rcases subdispatch_mediator htask h with ⟨rfl, rfl⟩ | ⟨x, hx, rfl, rfl⟩
      · exact ⟨.nil _, hkeyed⟩
      · obtain ⟨hacts, hkeyed'⟩ := mediator_acts (fun m hm => mem_some_iff.1 hm ▸ htaskKeyed)
          (fun k' hk' => hkey k' (StateChange.toMediator_key hk')) hx
        rw [setTask_networks]
        refine ⟨hacts.trace.mono fun a ha => ?_, TasksKeyed.setTask ?_ ?_⟩
        · simp only [TaskAct, Received, htask] at ha ⊢
          exact ha
        · exact hkeyed
        · simp only [mem_def, map_eq_some_iff]
          rintro task ⟨m, hm, rfl⟩
          exact hkeyed' m hm
    | target task =>
      rcases subdispatch_target htask h with ⟨rfl, rfl⟩ | ⟨c, x, hc, hx, rfl, rfl⟩
      · exact ⟨.nil _, hkeyed⟩
      · obtain ⟨hacts, hkeyed'⟩ := target_acts (fun t ht => mem_some_iff.1 ht ▸ htaskKeyed)
          (fun k' hk' => hkey k' (StateChange.toTarget_key hk')) hc hx
        rw [setTask_networks]
        refine ⟨hacts.trace.mono fun a ha => ?_, TasksKeyed.setTask ?_ ?_⟩
        · simp only [TaskAct, Received, htask] at ha ⊢
          split_ifs at ha ⊢
          · obtain ⟨_, _, _, -, hnone, -⟩ := ha
            cases hnone
          · exact ha
        · exact hkeyed
        · simp only [mem_def, map_eq_some_iff]
          rintro task ⟨t, ht, rfl⟩
          exact hkeyed' t ht

end Tasks

/-! ## Moves -/

/-- the transitions of channels that a state change asks for: a block reaches all of them, other state changes one -/
def StateChange.Reaches (stateChange : StateChange) (tn : Address) (id : ℕ) (change : ChannelStateChange) : Prop :=
  (∃ number hash, stateChange = .block number hash ∧ change = .block number hash) ∨
    ∃ ci, stateChange.toChannel = some (ci, change) ∧ ci.tokenNetworkAddress = tn ∧ ci.channelIdentifier = id

/-- the single steps of which a state change of a node consists -/
inductive NodeMove (env : Env) (stateChange : StateChange) : ChainState → List Event → ChainState → Prop
  /-- the queues of messages -/
  | queues (s : ChainState) (queues : Dict QueueIdentifier (List SendMessageEvent)) :
      NodeMove env stateChange s [] { s with queueidsToQueues := queues }
  | time (s : ChainState) (number : ℕ) (hash : Bytes) (h : stateChange = .block number hash) :
      NodeMove env stateChange s [] { s with blockNumber := number, blockHash := hash }
  | channel {s : ChainState} {tn : Address} {id : ℕ} {c : NettingChannelState} {newState : Option NettingChannelState}
      {events : List Event} (change : ChannelStateChange) (hreaches : stateChange.Reaches tn id change)
      (hc : s.networks.channel tn id = some c)
      (h : Client.stateTransition env c change s.blockNumber s.blockHash = .ok (newState, events)) :
      NodeMove env stateChange s events { s with networks := replaceChannel s.networks tn id newState }
  | network (s : ChainState) (tn : Address) (h : s.networks.contains tn = false) :
      NodeMove env stateChange s [] { s with networks := (s.networks.set tn Dict.empty) }
  | channelNew (s : ChainState) (details : NewChannelDetails)
      (h : s.networks.channel details.canonicalIdentifier.tokenNetworkAddress details.canonicalIdentifier.channelIdentifier =
        none) :
      NodeMove env stateChange s [] { s with networks := (s.networks.setChannel
        details.canonicalIdentifier.tokenNetworkAddress details.canonicalIdentifier.channelIdentifier
        (newChannel env details)) }
  | task {s s' : ChainState} {events : List Event} (key : Bytes)
      (hkey : ∀ k', stateChange.key env = some k' → k' = key)
      (htime : ∀ number hash, stateChange = .block number hash → s.blockNumber = number)
      (h : subdispatchToPaymenttask env s stateChange key = .ok (s', events)) : NodeMove env stateChange s events s'
  /-- a reroute starts with a copy of the task under the new secrethash -/
  | copy {s : ChainState} {task : TransferTask} (transfer : LockedTransferSigned) (secret : Bytes)
      (hchange : stateChange = .actionTransferReroute transfer secret)
      (h : s.secrethashesToTask.get? transfer.lock.secrethash = some task) :
      NodeMove env stateChange s [] (setTask s (env.sha256 secret) (some task))
  | initiator {s : ChainState} {newState : Option InitiatorPaymentState} {nets : Networks} {events : List Event}
      (d : TransferDescriptionWithSecret) (routes : List RouteState) (hchange : stateChange = .actionInitInitiator d routes)
      (htask : s.secrethashesToTask.get? d.secrethash = none)
      (h : handleInit env none d routes s.networks s.blockNumber = .ok (newState, nets, events)) :
      NodeMove env stateChange s events (setTask { s with networks := nets } d.secrethash
        ((clearIfFinalized newState).map fun p => .initiator ⟨d.tokenNetworkAddress, p⟩))
  | mediator {s : ChainState} {x : Mediator.Iteration} (fromHop : HopState) (routes : List RouteState)
      (transfer : LockedTransferSigned) (hchange : stateChange = .actionInitMediator fromHop routes transfer)
      (htask : s.secrethashesToTask.get? transfer.lock.secrethash = none)
      (h : Mediator.stateTransition env none s.networks transfer.balanceProof.canonicalIdentifier.tokenNetworkAddress
        s.blockNumber s.blockHash (.actionInitMediator fromHop routes transfer) = .ok x) :
      NodeMove env stateChange s x.events (setTask { s with networks := x.networks } transfer.lock.secrethash
        (x.newState.map fun m => .mediator ⟨transfer.balanceProof.canonicalIdentifier.tokenNetworkAddress, m⟩))
  | target {s : ChainState} {c : NettingChannelState} {x : Target.Iteration} (fromHop : HopState)
      (transfer : LockedTransferSigned) (valid : Bool) (hchange : stateChange = .actionInitTarget fromHop transfer valid)
      (htask : s.secrethashesToTask.get? transfer.lock.secrethash = none)
      (hc : s.networks.channel transfer.balanceProof.canonicalIdentifier.tokenNetworkAddress
        transfer.balanceProof.canonicalIdentifier.channelIdentifier = some c)
      (h : Target.stateTransition env none c s.blockNumber (.actionInitTarget fromHop transfer valid) = .ok x) :
      NodeMove env stateChange s x.events (setTask { s with networks := (s.networks.setChannel
          transfer.balanceProof.canonicalIdentifier.tokenNetworkAddress
          transfer.balanceProof.canonicalIdentifier.channelIdentifier x.channel) } transfer.lock.secrethash
        (x.newState.map fun t => .target ⟨c.canonicalIdentifier, t⟩))
  /-- a target that runs ignores a second transfer, but from then on its channel is that of the second one -/
  | retarget {s : ChainState} {c : NettingChannelState} {task : TargetTask} (fromHop : HopState)
      (transfer : LockedTransferSigned) (valid : Bool) (hchange : stateChange = .actionInitTarget fromHop transfer valid)
      (htask : s.secrethashesToTask.get? transfer.lock.secrethash = some (.target task))
      (hc : s.networks.channel transfer.balanceProof.canonicalIdentifier.tokenNetworkAddress
        transfer.balanceProof.canonicalIdentifier.channelIdentifier = some c)
      (hlock : getLock c.partnerState task.targetState.transfer.lock.secrethash ≠ none) :
      NodeMove env stateChange s [] (setTask s transfer.lock.secrethash
        (some (.target ⟨c.canonicalIdentifier, task.targetState⟩)))

inductive NodeMoves (env : Env) (stateChange : StateChange) : ChainState → List Event → ChainState → Prop
  | nil (s : ChainState) : NodeMoves env stateChange s [] s
  | cons {s s1 s' : ChainState} {events events' : List Event} (h : NodeMove env stateChange s events s1)
      (hrest : NodeMoves env stateChange s1 events' s') : NodeMoves env stateChange s (events ++ events') s'

section Moves

variable {env : Env} {s s1 s' : ChainState} {stateChange : StateChange} {events events' : List Event} {fromHop : HopState}
  {number : ℕ} {hash : Bytes} {transfer : LockedTransferSigned} {routes : List RouteState}

/-- a state change with a key reaches the task of that key -/
theorem NodeMove.keyed {key : Bytes} (hkey : stateChange.key env = some key)
    (h : subdispatchToPaymenttask env s stateChange key = .ok (s', events)) : NodeMove env stateChange s events s' := by
  refine .task key (key_unique hkey) (fun number hash heq => ?_) h
  subst heq
  cases hkey

theorem NodeMoves.one (h : NodeMove env stateChange s events s') : NodeMoves env stateChange s events s' := by
  have hone := NodeMoves.cons h (.nil s')
  rwa [List.append_nil] at hone

theorem NodeMoves.append (h : NodeMoves env stateChange s events s1) (h' : NodeMoves env stateChange s1 events' s') :
    NodeMoves env stateChange s (events ++ events') s' := by
  induction h with
  | nil s => exact h'
  | cons hmove _ ih =>
    rw [List.append_assoc]
    exact .cons hmove (ih h')

/-- **Invariants of moves.** What every move keeps, of a node and of all it has sent, is kept by all of them. -/
theorem NodeMoves.invariant {P : ChainState → List Event → Prop}
    (hstep : ∀ s sent events s', P s sent → NodeMove env stateChange s events s' → P s' (sent ++ events))
    (h : NodeMoves env stateChange s events s') {sent : List Event} (hP : P s sent) : P s' (sent ++ events) := by
  induction h generalizing sent with
  | nil s => rwa [List.append_nil]
  | cons hmove _ ih =>
    rw [← List.append_assoc]
    exact ih (hstep _ _ _ _ hP hmove)

/-- the same for what is known of the node alone -/
theorem NodeMoves.preserves {P : ChainState → Prop}
    (hstep : ∀ s events s', P s → NodeMove env stateChange s events s' → P s') (h : NodeMoves env stateChange s events s')
    (hP : P s) : P s' := by
  induction h with
  | nil s => exact hP
  | cons hmove _ ih => exact ih (hstep _ _ _ hP hmove)

theorem subdispatchToChannel_moves {ci : CanonicalIdentifier} {change : ChannelStateChange}
    (hreaches : stateChange.Reaches ci.tokenNetworkAddress ci.channelIdentifier change)
    (h : subdispatchToChannel env s ci change = .ok (s', events)) : NodeMoves env stateChange s events s' := by
  unfold subdispatchToChannel at h
  split at h
  · cases h
    exact .nil s
  · rename_i c hc
    simp only [do_ok, Prod.exists, Prod.mk.injEq] at h
    obtain ⟨newState, events', hx, rfl, rfl⟩ := h
    exact .one (.channel change hreaches hc hx)

theorem handleChannelStateChange_moves (h : handleChannelStateChange env s stateChange = .ok (s', events)) :
    NodeMoves env stateChange s events s' := by
  unfold handleChannelStateChange at h
  split at h
  · cases h
    exact .nil s
  · rename_i ci change hchange
    exact subdispatchToChannel_moves (.inr ⟨ci, hchange, rfl, rfl⟩) h

theorem subdispatchToChannels_moves (keys : List (Address × ℕ)) :
    ∀ {s s' events}, subdispatchToChannels env number hash s keys = .ok (s', events) →
      NodeMoves env (.block number hash) s events s' := by
  induction keys with
  | nil =>
    intro s s' events h
    cases h
    exact .nil s
  | cons key keys ih =>
    intro s s' events h
    simp only [subdispatchToChannels, do_ok, Prod.exists, Prod.mk.injEq] at h
    obtain ⟨s1, events1, hfirst, s2, events2, hrest, rfl, rfl⟩ := h
    exact (subdispatchToChannel_moves (.inl ⟨number, hash, rfl, rfl⟩) hfirst).append (ih hrest)

theorem subdispatchToChannels_blockNumber (keys : List (Address × ℕ)) :
    ∀ {s s' events}, subdispatchToChannels env number hash s keys = .ok (s', events) →
      s'.blockNumber = s.blockNumber := by
  induction keys with
  | nil =>
    intro s s' events h
    cases h
    rfl
  | cons key keys ih =>
    intro s s' events h
    simp only [subdispatchToChannels, do_ok, Prod.exists, Prod.mk.injEq] at h
    obtain ⟨s1, events1, hfirst, s2, events2, hrest, rfl, -⟩ := h
    rw [ih hrest]
    unfold subdispatchToChannel at hfirst
    split at hfirst
    · cases hfirst
      rfl
    · simp only [do_ok, Prod.exists, Prod.mk.injEq] at hfirst
      obtain ⟨newState, events', -, rfl, -⟩ := hfirst
      rfl

theorem subdispatchToTasks_moves (keys : List Bytes) : ∀ {s s' events}, s.blockNumber = number →
      subdispatchToTasks env (.block number hash) s keys = .ok (s', events) →
      NodeMoves env (.block number hash) s events s' := by
  induction keys with
  | nil =>
    intro s s' events _ h
    cases h
    exact .nil s
  | cons key keys ih =>
    intro s s' events htime h
    simp only [subdispatchToTasks, do_ok, Prod.exists, Prod.mk.injEq] at h
    obtain ⟨s1, events1, hfirst, s2, events2, hrest, rfl, rfl⟩ := h
    refine .cons (.task key (fun k' hk' => by cases hk') (fun number' hash' heq => ?_) hfirst)
      (ih ((subdispatch_blockNumber hfirst).trans htime) hrest)
    cases heq
    exact htime

theorem handleBlock_moves (h : Node.handleBlock env s number hash = .ok (s', events)) :
    NodeMoves env (.block number hash) s events s' := by
  simp only [Node.handleBlock, do_ok, Prod.exists, Prod.mk.injEq] at h
  obtain ⟨s1, events1, hchannels, s2, events2, htasks, rfl, rfl⟩ := h
  have hrest := (subdispatchToChannels_moves _ hchannels).append
    (subdispatchToTasks_moves _ (subdispatchToChannels_blockNumber _ hchannels) htasks)
  have hall := NodeMoves.cons (.time s number hash rfl) hrest
  exact hall

/-- a payment is started by a single move, if at all -/
theorem subdispatchInitiatortask_move {d : TransferDescriptionWithSecret}
    (h : subdispatchInitiatortask env s d routes = .ok (s', events)) :
    (s' = s ∧ events = []) ∨ NodeMove env (.actionInitInitiator d routes) s events s' := by
  unfold subdispatchInitiatortask at h
  split at h
  · rename_i hnet
    split at h
    · rename_i htask
      simp only [do_ok, Prod.exists, Prod.mk.injEq] at h
      obtain ⟨newState, nets, events', hinit, rfl, rfl⟩ := h
      exact .inr (.initiator d routes rfl htask hinit)
    · rename_i task htask
      split at h
      · rename_i htn
        -- a payment that runs gets the state change like any other one
        refine .inr (.keyed rfl ?_)
        simp only [subdispatchToPaymenttask, htask, ← htn, hnet, if_true]
        exact h
      · cases h
        exact .inl ⟨rfl, rfl⟩
    · cases h
      exact .inl ⟨rfl, rfl⟩
  · cases h
    exact .inl ⟨rfl, rfl⟩

theorem subdispatchMediatortask_moves (h : subdispatchMediatortask env s fromHop routes transfer = .ok (s', events)) :
    NodeMoves env (.actionInitMediator fromHop routes transfer) s events s' := by
  unfold subdispatchMediatortask at h
  dsimp only at h
  split at h
  · cases h
    exact .nil s
  rename_i state hstate
  split at h
  · rename_i hnet
    simp only [do_ok, Prod.mk.injEq] at h
    obtain ⟨x, hx, rfl, rfl⟩ := h
    unfold mediatorStateFor at hstate
    split at hstate
    · rename_i htask
      cases hstate
      exact .one (.mediator fromHop routes transfer rfl htask hx)
    · rename_i task htask
      split_ifs at hstate with htn
      cases hstate
      refine .one (.keyed rfl ?_)
      simp only [subdispatchToPaymenttask, htask, ← htn, hnet, if_true, bind_ok]
      exact ⟨x, hx, rfl⟩
    · cases hstate
  · cases h
    exact .nil s

theorem subdispatchTargettask_moves {valid : Bool}
    (h : Node.subdispatchTargettask env s fromHop transfer valid = .ok (s', events)) :
    NodeMoves env (.actionInitTarget fromHop transfer valid) s events s' := by
  unfold Node.subdispatchTargettask at h
  dsimp only at h
  split at h
  · rename_i state c hstate hc
    simp only [do_ok, Prod.mk.injEq] at h
    obtain ⟨x, hx, rfl, rfl⟩ := h
    unfold targetStateFor at hstate
    split at hstate
    · rename_i htask
      cases hstate
      exact .one (.target fromHop transfer valid rfl htask hc hx)
    · rename_i task htask
      split_ifs at hstate
      cases hstate
      simp only [Target.stateTransition, Target.handle, do_ok, Except.ok.injEq] at hx
      obtain ⟨_, rfl, _, hlock, rfl⟩ := hx
      simp only [Target.sanityCheck, ensure_ok] at hlock
      have hmove : NodeMove env (.actionInitTarget fromHop transfer valid) s [] _ :=
        .retarget fromHop transfer valid rfl htask hc hlock
      rw [Networks.setChannel_self hc]
      exact .one hmove
    · cases hstate
  · cases h
    exact .nil s

/-- a reroute is the state change of a copy of the task -/
theorem reroute_ok {secret : Bytes}
    (h : handleStateChange env s (.actionTransferReroute transfer secret) = .ok (s', events)) :
    ∃ task, NodeMove env (.actionTransferReroute transfer secret) s [] (setTask s (env.sha256 secret) (some task)) ∧
      subdispatchToPaymenttask env (setTask s (env.sha256 secret) (some task))
        (.actionTransferReroute transfer secret) (env.sha256 secret) = .ok (s', events) := by
  simp only [handleStateChange, handleActionTransferReroute] at h
  split at h
  · cases h
  · rename_i task htask
    exact ⟨task, .copy transfer secret rfl htask, h⟩

/-- **Nodes.** A state change is a sequence of moves. -/
theorem handleStateChange_moves (h : handleStateChange env s stateChange = .ok (s', events)) :
    NodeMoves env stateChange s events s' := by
  have hchannel : handleChannelStateChange env s stateChange = .ok (s', events) → NodeMoves env stateChange s events s' :=
    handleChannelStateChange_moves
  cases stateChange with
  | block number hash => exact handleBlock_moves h
  | actionInitInitiator d routes =>
    rcases subdispatchInitiatortask_move h with ⟨rfl, rfl⟩ | hmove
    · exact .nil _
    · exact .one hmove
  | actionInitMediator fromHop routes transfer => exact subdispatchMediatortask_moves h
  | actionInitTarget fromHop transfer valid => exact subdispatchTargettask_moves h
  | actionTransferReroute transfer secret =>
    obtain ⟨task, hcopy, h⟩ := reroute_ok h
    have hall := NodeMoves.cons hcopy (.one (.keyed rfl h))
    exact hall
  | contractReceiveNewTokenNetwork tn =>
    cases h
    split_ifs with hnet
    · exact .nil s
    · exact .one (.network s tn (Bool.eq_false_iff.2 hnet))
  | contractReceiveChannelNew details =>
    cases h
    unfold handleChannelnew
    dsimp only
    split
    · exact .nil s
    · rename_i hnone
      exact .one (.channelNew s details hnone)
  | contractReceiveSecretReveal | receiveTransferCancelRoute | receiveTransferRefund | receiveSecretRequest
  | receiveSecretReveal | receiveUnlock | receiveLockExpired => exact .one (.keyed rfl h)
  | contractReceiveChannelClosed ci sender number hash =>
    have hdrop : NodeMoves env (.contractReceiveChannelClosed ci sender number hash) s [] (dropChannelQueue s ci) := by
      unfold dropChannelQueue
      split
      · exact .nil s
      · exact .one (.queues s _)
    exact hdrop.append (handleChannelStateChange_moves h)
  | receiveWithdrawConfirmation r identified =>
    simp only [handleStateChange, do_ok, Prod.exists, Prod.mk.injEq] at h
    obtain ⟨s1, events1, h1, rfl, rfl⟩ := h
    have hqueues : NodeMove env (.receiveWithdrawConfirmation r identified) s1 []
        (deleteMessages s1 (deletesMessage true r.sender identified)) := .queues s1 _
    have hall := (handleChannelStateChange_moves h1).append (.one hqueues)
    rwa [List.append_nil] at hall
  | receiveDelivered | receiveProcessed =>
    cases h
    exact .one (.queues s _)
  | _ => exact hchannel h

theorem enqueue_eq (s : ChainState) (e : Event) : enqueue s e = { s with
    pendingTransactions := (enqueue s e).pendingTransactions
    queueidsToQueues := (enqueue s e).queueidsToQueues } := by
  unfold enqueue
  dsimp only
  split_ifs <;> rfl

theorem updateQueues_eq (s : ChainState) (stateChange : StateChange) (events : List Event) :
    updateQueues s stateChange events = { s with
      pendingTransactions := (updateQueues s stateChange events).pendingTransactions
      queueidsToQueues := (updateQueues s stateChange events).queueidsToQueues } := by
  have hloop : ∀ (events : List Event) (s : ChainState), events.foldl enqueue s = { s with
      pendingTransactions := (events.foldl enqueue s).pendingTransactions
      queueidsToQueues := (events.foldl enqueue s).queueidsToQueues } := by
    intro events
    induction events with
    | nil => exact fun s => rfl
    | cons e events ih =>
      intro s
      rw [List.foldl_cons, ih, enqueue_eq]
  unfold updateQueues
  dsimp only
  rw [hloop]
  split_ifs <;> rfl

/-- a transition handles the state change and then updates the queues -/
theorem stateTransition_ok (h : Node.stateTransition env s stateChange = .ok (s', events)) :
    ∃ s1, Node.handleStateChange env s stateChange = .ok (s1, events) ∧ s' = Node.updateQueues s1 stateChange events := by
  simp only [Node.stateTransition, do_ok, Prod.exists, Prod.mk.injEq] at h
  obtain ⟨s1, events1, h1, rfl, rfl⟩ := h
  exact ⟨s1, h1, rfl⟩

end Moves

/-! ## Nodes in order -/

/-- a channel is stored under its identifier, and the locks of its ends are kept -/
structure StoredChannel (id : ℕ) (c : NettingChannelState) : Prop where
  identifier : c.identifier = id
  ours : LocksKept c.ourState
  partner : LocksKept c.partnerState

def StoredChannels (nets : Networks) : Prop := ∀ tn id c, nets.channel tn id = some c → StoredChannel id c

/-- the tasks are in order, and every channel is stored under its identifier -/
structure NodeOk (s : ChainState) : Prop where
  keyed : TasksKeyed s.secrethashesToTask
  stored : StoredChannels s.networks

section NodesInOrder

variable {env : Env} {s s' : ChainState} {stateChange : StateChange} {events : List Event} {nets nets' : Networks}
  {c c' : NettingChannelState} {blockNumber : ℕ} {blockHash : Bytes} {op : ChannelOp} {ok : ChannelAct → Prop}
  {proofs : List Event} {tn : Address} {id : ℕ}

theorem StoredChannel.apply (h : StoredChannel id c) (hop : applyOp env c blockNumber blockHash op = .ok (some c', events)) :
    StoredChannel id c' := by
  have hstep := op_step hop
  refine ⟨?_, locksKept_step hstep.ours h.ours, locksKept_step hstep.partner h.partner⟩
  rw [NettingChannelState.identifier, (applyOp_sameChannel hop).canonicalIdentifier]
  exact h.identifier

theorem storedChannel_new (env : Env) (details : NewChannelDetails) :
    StoredChannel details.canonicalIdentifier.channelIdentifier (newChannel env details) := by
  refine ⟨rfl, fun k l hl => ?_, fun k l hl => ?_⟩ <;>
    simp [newChannel, NettingChannelEndState.fresh, held, unclaimed] at hl

/-- **Channels before and after.** A channel of the node after a trace was there before it. -/
theorem StoredChannels.related {R : NettingChannelState → NettingChannelState → Prop} (hs : StoredChannels nets)
    (h : Trace env ok nets proofs nets') (hrefl : ∀ c, R c c) (htrans : ∀ {c c1 c2}, R c c1 → R c1 c2 → R c c2)
    (hstep : ∀ a c c' events, ok a → StoredChannel c.identifier c →
      applyOp env c a.blockNumber a.blockHash a.op = .ok (some c', events) → R c c') :
    ∀ tn id c', nets'.channel tn id = some c' → ∃ c, nets.channel tn id = some c ∧ StoredChannel id c' ∧ R c c' := by
  intro tn id c' hc'
  have happlied : ∀ a c c' events, ok a → StoredChannel c.identifier c →
      applyOp env c a.blockNumber a.blockHash a.op = .ok (some c', events) →
      StoredChannel c'.identifier c' ∧ c'.identifier = c.identifier ∧ R c c' := by
    intro a c c' events ha hI happly
    have hstored := hI.apply happly
    refine ⟨?_, hstored.identifier, hstep a c c' events ha hI happly⟩
    rw [hstored.identifier]
    exact hstored
  obtain ⟨hI, c, hc, hsame, hR⟩ := h.related (R := fun c c' => c'.identifier = c.identifier ∧ R c c')
    (I := fun c => StoredChannel c.identifier c) (fun c => ⟨rfl, hrefl c⟩)
    (fun h h' => ⟨h'.1.trans h.1, htrans h.2 h'.2⟩) happlied
    (fun tn id c hc => by rw [(hs tn id c hc).identifier]; exact hs tn id c hc) tn id c' hc'
  rw [hsame, (hs tn id c hc).identifier] at hI
  exact ⟨c, hc, hI, hR⟩

theorem StoredChannels.trace (hs : StoredChannels nets) (h : Trace env ok nets proofs nets') : StoredChannels nets' := by
  intro tn id c' hc'
  obtain ⟨c, -, hstored, -⟩ := hs.related (R := fun _ _ => True) h (fun _ => trivial) (fun _ _ => trivial)
    (fun _ _ _ _ _ _ _ => trivial) tn id c' hc'
  exact hstored

/-- a transition of a channel is an operation on it -/
theorem channel_trace {change : ChannelStateChange} {newState : Option NettingChannelState}
    (hc : nets.channel tn id = some c) (h : stateTransition env c change blockNumber blockHash = .ok (newState, events)) :
    Trace env (fun a => ∃ change, a.op = .transition change) nets (commitments events ++ [])
      (replaceChannel nets tn id newState) :=
  .cons ⟨tn, id, .transition change, blockNumber, blockHash⟩ hc h ⟨change, rfl⟩ (.nil _)

theorem handleInit_trace {d : TransferDescriptionWithSecret} {routes : List RouteState}
    {newState : Option InitiatorPaymentState}
    (h : handleInit env none d routes nets blockNumber = .ok (newState, nets', events)) :
    Trace env (fun a => OwnOp env d.secrethash a.op) nets (commitments events) nets' ∧ ∀ p ∈ newState, p.Keyed := by
  simp only [handleInit, bind_ok, Prod.exists] at h
  obtain ⟨new, nets1, events1, hroute, h⟩ := h
  cases new with
  | none =>
    cases h
    exact ⟨tryNewRoute_trace hroute, by simp⟩
  | some t =>
    cases h
    refine ⟨tryNewRoute_trace hroute, fun p hp => ?_⟩
    cases hp
    obtain ⟨hkeyed, -⟩ := tryNewRoute_keyed hroute
    intro h' t' ht'
    simp only [Dict.get?_set, Dict.get?_empty] at ht'
    split_ifs at ht' with heq
    cases ht'
    rw [heq, hkeyed.1]
    exact hkeyed

theorem StoredChannels.network (hs : StoredChannels nets) (tn : Address) : StoredChannels (nets.set tn Dict.empty) := by
  intro tn' id' c hc
  unfold Networks.channel at hc
  rw [Dict.get?_set] at hc
  split_ifs at hc with heq
  · cases hc
  · exact hs tn' id' c hc

theorem StoredChannels.channelNew (hs : StoredChannels nets) (details : NewChannelDetails) :
    StoredChannels (nets.setChannel details.canonicalIdentifier.tokenNetworkAddress
      details.canonicalIdentifier.channelIdentifier (newChannel env details)) := by
  intro tn' id' c hc
  rcases Networks.channel_setChannel_new hc with ⟨rfl, rfl, rfl⟩ | hsame
  · exact storedChannel_new env details
  · exact hs tn' id' c hsame

/-- only payments are rerouted, as in `handle_message_refundtransfer` -/
def ReroutesPayment (s : ChainState) : StateChange → Prop
  | .actionTransferReroute transfer _ =>
    ∀ task, s.secrethashesToTask.get? transfer.lock.secrethash = some task → ∃ payment, task = .initiator payment
  | _ => True

theorem reroutesPayment_of_other (h : ∀ transfer secret, stateChange ≠ .actionTransferReroute transfer secret) :
    ReroutesPayment s stateChange := by
  unfold ReroutesPayment
  split
  · exact absurd rfl (h _ _)
  · trivial

/-- **Moves keep a node in order.** A copied task must be a payment, whose transfers have their own secrethashes. -/
theorem nodeOk_move (h : NodeMove env stateChange s events s')
    (hcopy : ReroutesPayment s stateChange) (hok : NodeOk s) : NodeOk s' := by
  cases h with
  | queues | time => exact ⟨hok.keyed, hok.stored⟩
  | channel change _ hc h => exact ⟨hok.keyed, hok.stored.trace (channel_trace hc h)⟩
  | network tn h => exact ⟨hok.keyed, hok.stored.network tn⟩
  | channelNew details h => exact ⟨hok.keyed, hok.stored.channelNew details⟩
  | task key hkey _ h =>
    obtain ⟨htrace, hkeyed⟩ := task_trace hok.keyed hkey h
    exact ⟨hkeyed, hok.stored.trace htrace⟩
  | copy transfer secret hchange htask =>
    subst hchange
    obtain ⟨payment, rfl⟩ := hcopy _ htask
    have hkeyed := hok.keyed _ _ htask
    refine ⟨TasksKeyed.setTask hok.keyed fun task ht => ?_, hok.stored⟩
    cases ht
    exact hkeyed
  | initiator d routes hchange htask h =>
    obtain ⟨htrace, hkeyed⟩ := handleInit_trace h
    refine ⟨TasksKeyed.setTask hok.keyed ?_, ?_⟩
    · simp only [mem_def, map_eq_some_iff]
      rintro task ⟨p, hp, rfl⟩
      exact hkeyed p (clearIfFinalized_mem hp)
    · rw [setTask_networks]
      exact hok.stored.trace htrace
  | mediator fromHop routes transfer hchange htask h =>
    obtain ⟨hacts, hkeyed⟩ := mediator_acts (by simp) (key_unique rfl) h
    refine ⟨TasksKeyed.setTask hok.keyed ?_, ?_⟩
    · simp only [mem_def, map_eq_some_iff]
      rintro task ⟨m, hm, rfl⟩
      exact hkeyed m hm
    · rw [setTask_networks]
      exact hok.stored.trace hacts.trace
  | target fromHop transfer valid hchange htask hc h =>
    obtain ⟨hacts, hkeyed⟩ := target_acts (by simp) (key_unique rfl) hc h
    refine ⟨TasksKeyed.setTask hok.keyed ?_, ?_⟩
    · simp only [mem_def, map_eq_some_iff]
      rintro task ⟨t, ht, rfl⟩
      exact hkeyed t ht
    · rw [setTask_networks]
      exact hok.stored.trace hacts.trace
  | retarget fromHop transfer valid hchange htask hc hlock =>
    have hkeyed := hok.keyed _ _ htask
    refine ⟨TasksKeyed.setTask hok.keyed fun task ht => ?_, hok.stored⟩
    cases ht
    exact hkeyed

theorem NodeOk.updateQueues {chain : ChainState} (h : NodeOk chain) (stateChange : StateChange) (events : List Event) :
    NodeOk (updateQueues chain stateChange events) := by
  rw [updateQueues_eq]
  exact ⟨h.keyed, h.stored⟩

/-- the node stays in order if only payments are rerouted -/
theorem nodeOk_transition {chain chain' : ChainState} {events : List Event} (hok : NodeOk chain)
    (hcopy : ReroutesPayment chain stateChange)
    (h : Node.stateTransition env chain stateChange = .ok (chain', events)) : NodeOk chain' := by
  by_cases hreroute : ∃ transfer secret, stateChange = .actionTransferReroute transfer secret
  · obtain ⟨transfer, secret, rfl⟩ := hreroute
    obtain ⟨chain1, h1, rfl⟩ := stateTransition_ok h
    refine NodeOk.updateQueues ?_ _ _
    obtain ⟨task, hmove, h1⟩ := reroute_ok h1
    obtain ⟨hkeyed, hstored⟩ := nodeOk_move hmove hcopy hok
    obtain ⟨htrace, hkeyed'⟩ := task_trace hkeyed (key_unique rfl) h1
    exact ⟨hkeyed', hstored.trace htrace⟩
  · obtain ⟨chain1, h1, rfl⟩ := stateTransition_ok h
    refine NodeOk.updateQueues (NodeMoves.preserves (fun chain events chain' hok hmove => ?_)
      (handleStateChange_moves h1) hok) _ _
    exact nodeOk_move hmove (reroutesPayment_of_other fun _ _ heq => hreroute ⟨_, _, heq⟩) hok

end NodesInOrder

/-- **Nodes stay in order.** In every run of a node in which only payments are rerouted, every mediator and target is stored
under its secrethash and every transfer of a payment under its own, every channel is stored under its identifier, and every
lock that an end holds is kept under its secrethash and is one of the pending locks. -/
theorem nodes_in_order (env : Env) (ourAddress : Address) (chainId blockNumber : ℕ) (blockHash : Bytes)
    (stateChanges : List StateChange) (h : Along (advance (Node.stateTransition env)) ReroutesPayment
      (.initial ourAddress chainId blockNumber blockHash) stateChanges) :
    NodeOk (runFrom (advance (Node.stateTransition env)) (.initial ourAddress chainId blockNumber blockHash) stateChanges) := by
  refine run_invariant _ (fun s stateChange hok hreroute => ?_) ⟨fun _ _ h => ?_, fun _ _ _ h => ?_⟩ h
  · unfold advance
    split
    · rename_i ht
      exact nodeOk_transition hok hreroute ht
    · exact hok
  · cases h
  · cases h

theorem nodes_in_order_opened : NodeOk (runFrom (advance (Node.stateTransition sampleEnv)) (.initial 1 1 1 [])
    [.contractReceiveNewTokenNetwork 3, .contractReceiveChannelNew sampleDetails, .block 2 []]) :=
  nodes_in_order sampleEnv 1 1 1 [] _ ⟨trivial, trivial, trivial, trivial⟩

end Gatecoin.Client
