/-
How often the target of a transfer reports.

The label of the task is its only guard: the secret is registered on-chain unless the label says that this has started, and
the expiration of the lock is reported unless the label is `expired`. But each handler writes its own label over the one
before. A block after the expiration finds the label `expired` and registers a known secret again, the next block reports
the expiration again, and the message that removes the lock reports it whatever the label is.

Results:
- `target_reports_once`: if every input comes in turn for the label that it finds, the secret is registered and the failure
  reported once.
- `target_reports_twice`: three runs in which a block or a reveal sets the label back, or the message comes after the block.
- `outcome_consistent_of_prompt`: if blocks and unlocks come in time, only one outcome is reported, and the right one.
- `outcome_inconsistent`: a late block, and an unlock after the failure.
-/
import Mathlib.Algebra.Order.Monoid.Prod
import Gatecoin.Client.Handlers
import Gatecoin.Client.SafeReveal

namespace Gatecoin.Client

open Gatecoin.Core Event

/-! ## Runs of a task -/

def Event.registersSecret : Event → Bool
  | .contractSendSecretReveal .. => true
  | _ => false

def Event.failsClaim : Event → Bool
  | .eventUnlockClaimFailed .. => true
  | _ => false

def Event.receivesPayment : Event → Bool
  | .eventPaymentReceivedSuccess .. => true
  | _ => false

/-- a node with one target task, and what the task has sent -/
structure TargetRun where
  node : TargetNode
  sent : List Event

def startTask (env : Env) (node : ChannelNode) (fromHop : HopState) (transfer : LockedTransferSigned)
    (receivedValidSecret : Bool) : TargetRun :=
  let start : TargetInput := .task (.actionInitTarget fromHop transfer receivedValidSecret)
  ⟨advance (targetStep env) ⟨node, none⟩ start, emitted (targetStep env) ⟨node, none⟩ start⟩

/-- a task that has ended gets no more state changes -/
def taskStep (env : Env) (s : TargetRun) (i : TargetInput) : TargetRun :=
  if s.node.task.isNone then s
  else ⟨advance (targetStep env) s.node i, s.sent ++ emitted (targetStep env) s.node i⟩

def TargetRun.expired (s : TargetRun) : Prop := ∃ t ∈ s.node.task, t.state = .expired

/-- no secret comes from the partner once the registration has started, an expired task finds no secret on-chain and gets no
message that removes the lock, and no block finds a secret that is known from the partner when the label is past it -/
def InTurn (env : Env) (c : NettingChannelState) (t : TargetTransferState) : TargetStateChange → Prop
  | .receiveSecretReveal r => isValidSecretReveal (r.secrethash env) t.transfer.lock.secrethash = true →
    t.state = .secretRequest ∨ t.state = .offchainSecretReveal
  | .contractReceiveSecretReveal r =>
    isValidSecretReveal r.secrethash t.transfer.lock.secrethash = true → t.state ≠ .expired
  | .receiveLockExpired _ => t.state ≠ .expired
  | .block _ _ => t.state = .onchainUnlock ∨ t.state = .expired →
    isSecretKnownOffchain c.partnerState t.transfer.lock.secrethash = false
  | _ => True

def Orderly (env : Env) (s : TargetRun) : TargetInput → Prop
  | .channel _ => True
  | .block number hash => ∀ t ∈ s.node.task, ∀ c ∈ s.node.node.channel, InTurn env c t (.block number hash)
  | .task stateChange => ∀ t ∈ s.node.task, ∀ c ∈ s.node.node.channel, InTurn env c t stateChange

instance (env : Env) (c : NettingChannelState) (t : TargetTransferState) (stateChange : TargetStateChange) :
    Decidable (InTurn env c t stateChange) := by
  unfold InTurn
  split <;> infer_instance

instance (env : Env) (s : TargetRun) (i : TargetInput) : Decidable (Orderly env s i) := by
  unfold Orderly
  split <;> infer_instance

instance (s : TargetRun) : Decidable s.expired := by
  unfold TargetRun.expired
  infer_instance

/-! ## Steps -/

/-- how often the secret was registered and the failure reported -/
def reports (events : List Event) : ℕ × ℕ := (events.countP registersSecret, events.countP failsClaim)

/-- what a task with the label has reported at most -/
def TargetStatus.allowance : TargetStatus → ℕ × ℕ
  | .secretRequest => (0, 0)
  | .offchainSecretReveal => (0, 0)
  | .onchainSecretReveal => (1, 0)
  | .onchainUnlock => (1, 0)
  | .expired => (1, 1)

/-- the reports of a task, running or ended, are within its allowance -/
def Reported (o : Option TargetTransferState) (sent : List Event) : Prop := reports sent ≤ o.elim (1, 1) (·.state.allowance)

section Steps

variable {env : Env} {c : NettingChannelState} {blockNumber : ℕ} {t : TargetTransferState} {o : Option TargetTransferState}
  {sent events : List Event} {stateChange : TargetStateChange}

theorem reports_append (events events' : List Event) : reports (events ++ events') = reports events + reports events' := by
  simp only [reports, List.countP_append, Prod.mk_add_mk]

/-- no event of a channel is a report -/
theorem reports_of_channel (h : ∀ e ∈ events, e.ofChannel = true) : reports events = 0 := by
  refine Prod.ext (List.countP_eq_zero.2 fun e he hreport => ?_) (List.countP_eq_zero.2 fun e he hreport => ?_)
  all_goals
    have hchannel := h e he
    cases e <;> first | cases hchannel; done | cases hreport

theorem handleUnlock_ofChannel {u : ReceiveUnlock} {handled : Handled} (h : handleUnlock env c u = .ok handled) :
    ∀ e ∈ handled.events, e.ofChannel = true := by
  have hop : applyOp env c 0 [] (.unlock u) = .ok (some handled.channel, handled.events) := by
    simp only [applyOp, h]
    rfl
  exact fun e he => (op_transactions hop e he).ofChannel

theorem handleReceiveLockExpired_ofChannel (m : ReceiveLockExpired) :
    ∀ e ∈ (handleReceiveLockExpired env c m blockNumber).2, e.ofChannel = true := by
  have hop : applyOp env c blockNumber [] (.receiveLockExpired m) =
    .ok (some (handleReceiveLockExpired env c m blockNumber).1, (handleReceiveLockExpired env c m blockNumber).2) := rfl
  exact fun e he => (op_transactions hop e he).ofChannel

theorem reports_eventsForOnchainSecretreveal (c : NettingChannelState) (secret : Bytes) (expiration : ℕ) (hash : Bytes) :
    reports (SecretRegistry.eventsForOnchainSecretreveal c secret expiration hash) ≤ (1, 0) := by
  unfold SecretRegistry.eventsForOnchainSecretreveal
  split_ifs
  · exact le_rfl
  · exact ⟨Nat.zero_le 1, le_rfl⟩

theorem Reported.step {n : ℕ × ℕ} (h : Reported (some t) sent) (hevents : reports events ≤ n)
    (hsum : t.state.allowance + n ≤ o.elim (1, 1) (·.state.allowance)) : Reported o (sent ++ events) := by
  rw [Reported, reports_append]
  exact (add_le_add h hevents).trans hsum

theorem allowance_le (l : TargetStatus) : l.allowance ≤ (1, 1) := by
  cases l <;> decide

theorem allowance_of_ne_expired {l : TargetStatus} (h : l ≠ .expired) : l.allowance ≤ (1, 0) := by
  cases l <;> first | decide | exact absurd rfl h

theorem allowance_of_early {l : TargetStatus} (h : l = .secretRequest ∨ l = .offchainSecretReveal) : l.allowance = 0 := by
  rcases h with rfl | rfl <;> rfl

/-- a step that reports nothing -/
theorem Reported.quiet (h : Reported (some t) sent) (hquiet : reports events = 0)
    (hlabel : t.state.allowance ≤ o.elim (1, 1) (·.state.allowance)) : Reported o (sent ++ events) :=
  h.step hquiet.le ((add_zero _).le.trans hlabel)

/-- a block that registers the secret in turn finds a label before the registration -/
theorem early_of_registered {number : ℕ} {hash : Bytes} (hturn : InTurn env c t (.block number hash))
    (hstate : t.state ≠ .onchainSecretReveal)
    (hknown : isSecretKnownOffchain c.partnerState t.transfer.lock.secrethash = true) :
    t.state = .secretRequest ∨ t.state = .offchainSecretReveal := by
  have hpast : ¬ (t.state = .onchainUnlock ∨ t.state = .expired) := fun hpast =>
    Bool.false_ne_true ((hturn hpast).symm.trans hknown)
  cases hs : t.state <;> simp_all

theorem reported_acts {x : Target.Iteration} (h : Reported (some t) sent) (hturn : InTurn env c t stateChange)
    (hacts : Target.Acts env c blockNumber (some t) stateChange x) : Reported x.newState (sent ++ x.events) := by
  cases hacts with
  | idle => exact h.quiet rfl le_rfl
  | revealed _ _ hvalid => exact h.quiet rfl (allowance_of_early (hturn hvalid)).le
  | revealedOnchain _ _ hvalid => exact h.quiet rfl (allowance_of_ne_expired (hturn hvalid))
  | expired number hash hstate =>
    exact h.step (n := (0, 1)) le_rfl (add_le_add_left (allowance_of_ne_expired hstate) (0, 1))
  | registered number hash secret hstate hknown =>
    refine h.step (reports_eventsForOnchainSecretreveal _ _ _ _) ?_
    rw [allowance_of_early (early_of_registered hturn hstate hknown), zero_add]
    exact le_rfl
  | unlocked t hunlock =>
    refine h.quiet ?_ (allowance_le _)
    rw [reports_append, reports_of_channel (handleUnlock_ofChannel hunlock)]
    rfl
  | unlockRefused t hunlock => exact h.quiet (reports_of_channel (handleUnlock_ofChannel hunlock)) le_rfl
  | lockExpired t m =>
    refine h.step (n := (0, 1)) ?_ (add_le_add_left (allowance_of_ne_expired hturn) (0, 1))
    rw [reports_append, reports_of_channel (handleReceiveLockExpired_ofChannel m)]
    exact le_rfl
  | lockKept t m => exact h.quiet (reports_of_channel (handleReceiveLockExpired_ofChannel m)) le_rfl

/-- an expired task stays so, or it ends -/
theorem expired_acts {x : Target.Iteration} (hexpired : t.state = .expired) (hturn : InTurn env c t stateChange)
    (hacts : Target.Acts env c blockNumber (some t) stateChange x) : ∀ t' ∈ x.newState, t'.state = .expired := by
  cases hacts with
  | idle | unlockRefused | lockKept => simpa using hexpired
  | expired | unlocked | lockExpired => simp
  | revealed _ _ hvalid => simpa [hexpired] using hturn hvalid
  | revealedOnchain _ _ hvalid => exact absurd hexpired (hturn hvalid)
  | registered number hash secret hstate hknown =>
    simpa [hexpired] using early_of_registered hturn hstate hknown

/-- a state change of the task does nothing without a channel, and is otherwise one of the ways of a target -/
theorem subdispatch_acts {s s' : TargetNode} (h : subdispatchTargettask env s stateChange = .ok (s', events)) :
    (s' = s ∧ events = [] ∧ s.node.channel = none) ∨ ∃ c x, s.node.channel = some c ∧
      Target.Acts env c s.node.blockNumber s.task stateChange x ∧
      s' = ⟨{ s.node with channel := some x.channel }, x.newState⟩ ∧ events = x.events := by
  unfold subdispatchTargettask at h
  split at h
  next hc =>
    cases h
    exact .inl ⟨rfl, rfl, hc⟩
  next c hc =>
    simp only [Target.stateTransition, do_ok, Prod.mk.injEq] at h
    obtain ⟨x, ⟨y, hy, -, -, rfl⟩, rfl, rfl⟩ := h
    exact .inr ⟨c, y, hc, Target.acts_of_handle hy, rfl, rfl⟩

theorem taskStep_none {s : TargetRun} (ht : s.node.task = none) (i : TargetInput) : taskStep env s i = s := by
  rw [taskStep, ht, Option.isNone_none, if_pos rfl]

/-- a block leaves the records of the partner's end as they are -/
theorem nodeStep_block {s : ChannelNode} {number : ℕ} {hash : Bytes}
    (h : (nodeStep env s (.transition (.block number hash))).channel = some c) :
    ∃ c₀, s.channel = some c₀ ∧ c.partnerState.core = c₀.partnerState.core := by
  rcases nodeStep_channel h with ⟨-, hc⟩ | ⟨c₀, events, hc, happly, -⟩
  · exact ⟨c, hc, rfl⟩
  · have hstep : EndStep env _ _ _ .idle _ := (op_step happly).partner
    cases hstep with
    | same _ _ hcore => exact ⟨c₀, hc, hcore⟩

/-- **The steps of a task.** A step tells nothing and leaves the task alone, or it is one of the ways of a target. -/
theorem taskStep_cases {s : TargetRun} (ht : s.node.task = some t) (i : TargetInput) :
    let s' := taskStep env s i
    (s'.node.task = some t ∧ s'.sent = s.sent ∧
      ∀ c ∈ s'.node.node.channel, s.node.node.channel = some c ∨ ∃ op, i = .channel op) ∨
    ∃ stateChange c c₀ x, s.node.node.channel = some c₀ ∧ c.partnerState.core = c₀.partnerState.core ∧
      Target.Acts env c s'.node.node.blockNumber (some t) stateChange x ∧ s'.node.node.channel = some x.channel ∧
      s'.node.task = x.newState ∧ s'.sent = s.sent ++ x.events ∧
      (i = .task stateChange ∨ ∃ number hash, i = .block number hash ∧ stateChange = .block number hash) := by
  unfold taskStep
  rw [ht, Option.isNone_some, if_neg Bool.false_ne_true]
  unfold advance emitted
  cases hstep : targetStep env s.node i with
  | error f => exact .inl ⟨ht, List.append_nil _, fun c hc => .inl hc⟩
  | ok r =>
    obtain ⟨s', events⟩ := r
    cases i with
    | channel op =>
      cases hstep
      exact .inl ⟨ht, List.append_nil _, fun c hc => .inr ⟨op, rfl⟩⟩
    | block number hash =>
      simp only [targetStep, ht, Option.isSome_some, if_true] at hstep
      rcases subdispatch_acts hstep with ⟨rfl, rfl, hnone⟩ | ⟨c, x, hc, hacts, rfl, rfl⟩
      · exact .inl ⟨rfl, List.append_nil _, fun c hc => (Option.some_ne_none c (hc.symm.trans hnone)).elim⟩
      · obtain ⟨c₀, hc₀, hcore⟩ := nodeStep_block hc
        exact .inr ⟨_, c, c₀, x, hc₀, hcore, hacts, rfl, rfl, rfl, .inr ⟨number, hash, rfl, rfl⟩⟩
    | task stateChange =>
      rcases subdispatch_acts hstep with ⟨rfl, rfl, hnone⟩ | ⟨c, x, hc, hacts, rfl, rfl⟩
      · exact .inl ⟨ht, List.append_nil _, fun c hc => .inl hc⟩
      · rw [ht] at hacts
        exact .inr ⟨stateChange, c, c, x, hc, rfl, hacts, rfl, rfl, rfl, .inl rfl⟩

theorem inTurn_of_orderly {s : TargetRun} {i : TargetInput} {c₀ : NettingChannelState} (hok : Orderly env s i)
    (ht : s.node.task = some t) (hc₀ : s.node.node.channel = some c₀) (hcore : c.partnerState.core = c₀.partnerState.core)
    (hi : i = .task stateChange ∨ ∃ number hash, i = .block number hash ∧ stateChange = .block number hash) :
    InTurn env c t stateChange := by
  have hknown : isSecretKnownOffchain c.partnerState = isSecretKnownOffchain c₀.partnerState :=
    (congrArg isSecretKnownOffchain hcore :)
  have hturn : InTurn env c₀ t stateChange := by
    rcases hi with rfl | ⟨number, hash, rfl, rfl⟩ <;> exact hok t ht c₀ hc₀
  cases stateChange with
  | block number hash => exact fun hpast => hknown ▸ hturn hpast
  | _ => exact hturn

theorem reported_step {s : TargetRun} {i : TargetInput} (h : Reported s.node.task s.sent) (hok : Orderly env s i) :
    Reported (taskStep env s i).node.task (taskStep env s i).sent := by
  cases ht : s.node.task with
  | none =>
    rw [taskStep_none ht]
    exact h
  | some t =>
    rw [ht] at h
    rcases taskStep_cases ht i with ⟨htask, hsent, -⟩ | ⟨stateChange, c, c₀, x, hc₀, hcore, hacts, -, htask, hsent, hi⟩
    · rw [htask, hsent]
      exact h
    · rw [htask, hsent]
      exact reported_acts h (inTurn_of_orderly hok ht hc₀ hcore hi) hacts

end Steps

/-! ## Runs -/

section Runs

/-- a transfer that is accepted reports nothing, one that is refused has failed -/
theorem reported_start (env : Env) (node : ChannelNode) (fromHop : HopState) (transfer : LockedTransferSigned)
    (receivedValidSecret : Bool) : Reported (startTask env node fromHop transfer receivedValidSecret).node.task
      (startTask env node fromHop transfer receivedValidSecret).sent := by
  have hnone : Reported none [] := ⟨Nat.zero_le 1, Nat.zero_le 1⟩
  unfold startTask advance emitted
  dsimp only
  cases hstep : targetStep env ⟨node, none⟩ (.task (.actionInitTarget fromHop transfer receivedValidSecret)) with
  | error f => exact hnone
  | ok r =>
    obtain ⟨s, events⟩ := r
    show Reported s.task events
    rcases subdispatch_acts hstep with ⟨rfl, rfl, -⟩ | ⟨c, x, -, hacts, rfl, rfl⟩
    · exact hnone
    have hop : applyOp env c 0 [] (.receiveLockedtransfer transfer) = .ok (some (handleReceiveLockedtransfer env c
      transfer).channel, (handleReceiveLockedtransfer env c transfer).events) := rfl
    have hreceived := reports_of_channel fun e he => (op_transactions hop e he).ofChannel
    cases hacts with
    | idle => exact hnone
    | accepted _ _ hrequest =>
      rw [Reported, reports_append, hreceived]
      rcases hrequest with rfl | rfl <;> exact le_rfl
    | refused =>
      rw [Reported, reports_append, hreceived]
      exact ⟨Nat.zero_le 1, le_rfl⟩

theorem reported_limit (o : Option TargetTransferState) : o.elim (1, 1) (·.state.allowance) ≤ ((1, 1) : ℕ × ℕ) := by
  cases o with
  | none => exact le_rfl
  | some t => exact allowance_le _

theorem expired_step {env : Env} {s : TargetRun} {i : TargetInput} (h : s.expired ∨ s.node.task = none)
    (hok : Orderly env s i) : (taskStep env s i).expired ∨ (taskStep env s i).node.task = none := by
  rcases h with ⟨t, ht, hexpired⟩ | hnone
  · rcases taskStep_cases ht i with ⟨htask, -⟩ | ⟨stateChange, c, c₀, x, hc₀, hcore, hacts, -, htask, -, hi⟩
    · exact .inl ⟨t, htask, hexpired⟩
    · have hstays := expired_acts hexpired (inTurn_of_orderly hok ht hc₀ hcore hi) hacts
      cases hnext : x.newState with
      | none => exact .inr (htask.trans hnext)
      | some t' => exact .inl ⟨t', htask.trans hnext, hstays t' hnext⟩
  · right
    rw [taskStep_none hnone]
    exact hnone

/-- **The target reports once.** In a run of a target task whose inputs come in turn, the secret is registered at most once,
the failure is reported at most once, and a task that has expired stays so until it ends. -/
theorem target_reports_once (env : Env) (node : ChannelNode) (fromHop : HopState) (transfer : LockedTransferSigned)
    (receivedValidSecret : Bool) (is : List TargetInput)
    (h : Along (taskStep env) (Orderly env) (startTask env node fromHop transfer receivedValidSecret) is) :
    let run := runFrom (taskStep env) (startTask env node fromHop transfer receivedValidSecret)
    (run is).sent.countP registersSecret ≤ 1 ∧ (run is).sent.countP failsClaim ≤ 1 ∧
      ∀ js ks, is = js ++ ks → (run js).expired → (run is).expired ∨ (run is).node.task = none := by
  have hreported := run_invariant (taskStep env) (P := fun s => Reported s.node.task s.sent)
    (fun s i hs hok => reported_step hs hok) (reported_start env node fromHop transfer receivedValidSecret) h
  have hlimit := hreported.trans (reported_limit _)
  refine ⟨hlimit.1, hlimit.2, ?_⟩
  rintro js ks rfl hexpired
  rw [runFrom_append]
  exact run_invariant (taskStep env) (P := fun s => s.expired ∨ s.node.task = none)
    (fun s i hs hok => expired_step hs hok) (.inl hexpired) ((along_append _).1 h).2

end Runs

/-- the transfer of `targetTransfer` in a channel with a deposit, in block 10 -/
def sampleTask : TargetRun :=
  startTask sampleEnv (nodeStep sampleEnv (targetStart 10).node (sampleDeposit 2 100)) ⟨2, 5⟩ targetTransfer false

/-- the secret of `targetTransfer` -/
def targetReveal : TargetInput := .task (.receiveSecretReveal ⟨lockOfTen.secrethash, 2⟩)

/-- the secret comes, is registered and is found on-chain -/
theorem target_reports_once_of_registered :
    let run := runFrom (taskStep sampleEnv) sampleTask [targetReveal, targetReveal, .block 60 [],
      .task (.contractReceiveSecretReveal ⟨lockOfTen.secrethash, lockOfTen.secrethash, 61⟩)]
    run.sent.countP registersSecret ≤ 1 ∧ run.sent.countP failsClaim ≤ 1 := by
  have h := target_reports_once sampleEnv (nodeStep sampleEnv (targetStart 10).node (sampleDeposit 2 100)) ⟨2, 5⟩
    targetTransfer false [targetReveal, targetReveal, .block 60 [],
      .task (.contractReceiveSecretReveal ⟨lockOfTen.secrethash, lockOfTen.secrethash, 61⟩)] (by decide +kernel)
  exact ⟨h.1, h.2.1⟩

/-- **The target reports twice.** The lock expires in block 100. In the first run the secret is known and not registered in
time: the blocks after the expiration register it and report the failure by turns, and the task leaves `expired`. In the
second run the reveal is repeated after the registration has started. In the third run the secret never comes. -/
theorem target_reports_twice :
    (let run := runFrom (taskStep sampleEnv) sampleTask
      [targetReveal, .block 60 [], .block 105 [], .block 106 [], .block 107 []]
    run.sent.countP registersSecret = 2 ∧ run.sent.countP failsClaim = 2) ∧
    (let run := runFrom (taskStep sampleEnv) sampleTask [targetReveal, .block 60 [], .block 105 []]
    run.expired ∧ (taskStep sampleEnv run (.block 106 [])).node.task.map (·.state) = some .onchainSecretReveal) ∧
    (runFrom (taskStep sampleEnv) sampleTask
      [targetReveal, .block 60 [], targetReveal, .block 61 []]).sent.countP registersSecret = 2 ∧
    (runFrom (taskStep sampleEnv) sampleTask [.block 105 [], .task (.receiveLockExpired
      ⟨partnerProof 2 0 0 [], lockOfTen.secrethash, 0⟩)]).sent.countP failsClaim = 2 := by
  decide +kernel

/-! ## Outcomes -/

/-- how often the failure and the success of the transfer were reported -/
def verdicts (events : List Event) : ℕ × ℕ := (events.countP failsClaim, events.countP receivesPayment)

/-- the block in which the lock counts as expired -/
def TargetTransferState.threshold (t : TargetTransferState) : ℕ := getReceiverExpirationThreshold t.transfer.lock.expiration

/-- a lock that the task waits for is recorded as unlocked on-chain -/
def TargetRun.unlockedOnchain (s : TargetRun) : Prop :=
  ∀ t ∈ s.node.task, ∀ c ∈ s.node.node.channel, isSecretKnownOnchain c.partnerState t.transfer.lock.secrethash = true

/-- a lock on record is recorded as unlocked on-chain when its secret is registered in time -/
theorem registerOnchainSecretEndstate_known (secret : Bytes) {e : NettingChannelEndState} {k : Bytes} {number : ℕ}
    (hlock : getLock e k ≠ none) (htime : ∀ lock ∈ lockToRegister e k, number ≤ lock.expiration) :
    isSecretKnownOnchain (registerOnchainSecretEndstate e secret k number) k = true := by
  unfold registerOnchainSecretEndstate
  split
  next hnone =>
    simp only [lockToRegister, Option.or_eq_none_iff, Option.map_eq_none_iff] at hnone
    simpa [getLock, isSecretKnownOnchain, Dict.contains, hnone.1, hnone.2, Option.isSome_iff_ne_none] using hlock
  next lock hregister =>
    rw [if_neg (not_lt.2 (htime lock hregister))]
    simp only [isSecretKnownOnchain, Dict.contains, Dict.get?_set, if_true, Option.isSome_some]

theorem getLock_of_knownOnchain {e : NettingChannelEndState} {k : Bytes} (h : isSecretKnownOnchain e k = true) :
    getLock e k ≠ none := by
  intro hnone
  simp only [getLock, Option.or_eq_none_iff, Option.map_eq_none_iff] at hnone
  simp [isSecretKnownOnchain, Dict.contains, hnone.2.2] at h

/-- the registration of the secret, processed in time, records the lock of the task as unlocked on-chain -/
theorem unlockedOnchain_of_registration {env : Env} {s : TargetRun} {t : TargetTransferState} {c : NettingChannelState}
    {r : ContractReceiveSecretReveal} (ht : s.node.task = some t) (hc : s.node.node.channel = some c)
    (hsecret : r.secrethash = t.transfer.lock.secrethash) (hlock : getLock c.partnerState r.secrethash ≠ none)
    (htime : ∀ lock ∈ lockToRegister c.partnerState r.secrethash, r.blockNumber ≤ lock.expiration) :
    (taskStep env s (.task (.contractReceiveSecretReveal r))).unlockedOnchain := by
  have hknown := registerOnchainSecretEndstate_known r.secret hlock htime
  have hkept : getLock (registerOnchainSecret c r.secret r.secrethash r.blockNumber).partnerState
      t.transfer.lock.secrethash ≠ none := hsecret ▸ getLock_of_knownOnchain hknown
  have hstep : targetStep env s.node (.task (.contractReceiveSecretReveal r)) =
      .ok (⟨{ s.node.node with channel := some (registerOnchainSecret c r.secret r.secrethash r.blockNumber) },
        some { t with state := .onchainUnlock, secret := some r.secret }⟩, []) := by
    simp [targetStep, subdispatchTargettask, hc, ht, Target.stateTransition, Target.handle, present,
      Target.handleOnchainSecretreveal, isValidSecretReveal, hsecret, Target.sanityCheck, ensure, hsecret ▸ hkept]
  simp only [taskStep, ht, Option.isNone_some, advance, hstep]
  intro t' ht' c' hc'
  cases ht'
  cases hc'
  exact hsecret ▸ hknown

/-- blocks come in order, no block after the expiration finds a lock that is unlocked on-chain, no lock is unlocked after its
expiration, and what else happens to the channel leaves such a lock to the task -/
def Prompt (env : Env) (s : TargetRun) (i : TargetInput) : Prop :=
  s.node.node.blockNumber ≤ (taskStep env s i).node.node.blockNumber ∧
    match i with
    | .channel _ => s.unlockedOnchain → (taskStep env s i).unlockedOnchain
    | .block number _ | .task (.block number _) => ∀ t ∈ s.node.task, ∀ c ∈ s.node.node.channel,
      t.threshold ≤ number → isSecretKnownOnchain c.partnerState t.transfer.lock.secrethash = false
    | .task (.receiveUnlock _) => ∀ t ∈ s.node.task, s.node.node.blockNumber < t.threshold
    | .task _ => True

instance (s : TargetRun) : Decidable s.unlockedOnchain := by
  unfold TargetRun.unlockedOnchain
  infer_instance

instance (env : Env) (s : TargetRun) (i : TargetInput) : Decidable (Prompt env s i) := by
  unfold Prompt
  split <;> infer_instance

/-- what a state change tells about the transfer, and why -/
inductive Verdict (c : NettingChannelState) (blockNumber : ℕ) (t : TargetTransferState) (o : Option TargetTransferState) :
    TargetStateChange → ℕ × ℕ → Prop
  | nothing (stateChange : TargetStateChange) : Verdict c blockNumber t o stateChange 0
  | expired (number : ℕ) (hash : Bytes) (hnumber : number = blockNumber) (htime : t.threshold ≤ number) :
      Verdict c blockNumber t o (.block number hash) (1, 0)
  | removed (stateChange : TargetStateChange) (hend : o = none)
      (hunknown : isSecretKnownOnchain c.partnerState t.transfer.lock.secrethash = false) :
      Verdict c blockNumber t o stateChange (1, 0)
  | paid (u : ReceiveUnlock) (hend : o = none) : Verdict c blockNumber t o (.receiveUnlock u) (0, 1)

/-- at most one outcome is reported, and a task that goes on has reported at most the failure of an expired lock -/
def OneVerdict (s : TargetRun) : Prop :=
  ((verdicts s.sent).1 = 0 ∨ (verdicts s.sent).2 = 0) ∧ ∀ t ∈ s.node.task,
    (verdicts s.sent).2 = 0 ∧ ((verdicts s.sent).1 = 0 ∨ t.threshold ≤ s.node.node.blockNumber)

section Outcomes

variable {env : Env} {c : NettingChannelState} {blockNumber : ℕ} {t : TargetTransferState} {events : List Event} {k : Bytes}
  {stateChange : TargetStateChange} {x : Target.Iteration} {s : TargetRun} {i : TargetInput}

theorem verdicts_append (events events' : List Event) : verdicts (events ++ events') = verdicts events + verdicts events' := by
  simp only [verdicts, List.countP_append, Prod.mk_add_mk]

theorem verdicts_of_channel (h : ∀ e ∈ events, e.ofChannel = true) : verdicts events = 0 := by
  refine Prod.ext (List.countP_eq_zero.2 fun e he hverdict => ?_) (List.countP_eq_zero.2 fun e he hverdict => ?_)
  all_goals
    have hchannel := h e he
    cases e <;> first | cases hchannel; done | cases hverdict

theorem handleReceiveLockExpired_knownOnchain (m : ReceiveLockExpired) :
    isSecretKnownOnchain (handleReceiveLockExpired env c m blockNumber).1.partnerState k =
      isSecretKnownOnchain c.partnerState k := by
  unfold handleReceiveLockExpired
  split <;> rfl

theorem acts_transfer (hacts : Target.Acts env c blockNumber (some t) stateChange x) :
    ∀ t' ∈ x.newState, t'.transfer = t.transfer := by
  cases hacts <;> simp

theorem acts_verdict (hacts : Target.Acts env c blockNumber (some t) stateChange x) :
    Verdict c blockNumber t x.newState stateChange (verdicts x.events) := by
  cases hacts with
  | idle | revealed | revealedOnchain => exact .nothing _
  | expired number hash _ hnumber htime => exact .expired number hash hnumber htime
  | registered number hash secret =>
    unfold SecretRegistry.eventsForOnchainSecretreveal
    split_ifs <;> exact .nothing _
  | unlocked _ hunlock =>
    rw [verdicts_append, verdicts_of_channel (handleUnlock_ofChannel hunlock)]
    exact .paid _ rfl
  | unlockRefused _ hunlock =>
    rw [verdicts_of_channel (handleUnlock_ofChannel hunlock)]
    exact .nothing _
  | lockExpired _ m hgone =>
    rw [verdicts_append, verdicts_of_channel (handleReceiveLockExpired_ofChannel m)]
    refine .removed _ rfl ?_
    rw [← handleReceiveLockExpired_knownOnchain m]
    exact Bool.eq_false_iff.2 fun hknown => getLock_of_knownOnchain hknown hgone
  | lockKept _ m =>
    rw [verdicts_of_channel (handleReceiveLockExpired_ofChannel m)]
    exact .nothing _

/-- the record of an on-chain registration is kept as long as the task runs -/
theorem acts_knownOnchain (hacts : Target.Acts env c blockNumber (some t) stateChange x)
    (h : isSecretKnownOnchain c.partnerState k = true) :
    x.newState = none ∨ isSecretKnownOnchain x.channel.partnerState k = true := by
  cases hacts with
  | idle | expired | registered => exact .inr h
  | unlocked | lockExpired => exact .inl rfl
  | revealed =>
    right
    unfold registerOffchainSecret registerSecretEndstate
    dsimp only
    split <;> exact h
  | revealedOnchain =>
    right
    unfold isSecretKnownOnchain Dict.contains at h ⊢
    unfold registerOnchainSecret registerOnchainSecretEndstate
    dsimp only
    split
    · exact h
    · split_ifs
      · exact h
      · simp only [Dict.get?_set, removeLock, Dict.get?_erase]
        split_ifs <;> first | rfl | exact h
  | unlockRefused _ hunlock hinvalid =>
    right
    unfold handleUnlock at hunlock
    split at hunlock
    · cases hunlock
      exact h
    · simp only [do_ok] at hunlock
      obtain ⟨e, -, rfl⟩ := hunlock
      exact absurd rfl hinvalid
  | lockKept _ m => exact .inr ((handleReceiveLockExpired_knownOnchain m).trans h)

theorem unlockedOnchain_step (h : s.unlockedOnchain) (hok : Prompt env s i) :
    (taskStep env s i).unlockedOnchain ∧ (verdicts (taskStep env s i).sent).1 = (verdicts s.sent).1 := by
  cases ht : s.node.task with
  | none =>
    rw [taskStep_none ht]
    exact ⟨h, rfl⟩
  | some t =>
    rcases taskStep_cases ht i with ⟨htask, hsent, hchannel⟩ |
      ⟨stateChange, c, c₀, x, hc₀, hcore, hacts, hchannel, htask, hsent, hi⟩
    · refine ⟨fun t' ht' c hc => ?_, by rw [hsent]⟩
      rcases hchannel c hc with hc | ⟨op, rfl⟩
      · exact h t' (ht.trans (htask.symm.trans ht')) c hc
      · exact hok.2 h t' ht' c hc
    · have hsame : isSecretKnownOnchain c.partnerState = isSecretKnownOnchain c₀.partnerState :=
        (congrArg isSecretKnownOnchain hcore :)
      have hknown := h t ht c₀ hc₀
      rw [← hsame] at hknown
      refine ⟨fun t' ht' c' hc' => ?_, ?_⟩
      · rw [htask] at ht'
        rw [hchannel] at hc'
        cases hc'
        rw [acts_transfer hacts t' ht']
        rcases acts_knownOnchain hacts hknown with hnone | hkept
        · rw [hnone] at ht'
          cases ht'
        · exact hkept
      · rw [hsent, verdicts_append]
        generalize hverdict : verdicts x.events = n
        cases hverdict ▸ acts_verdict hacts with
        | nothing | paid => rfl
        | expired number hash _ htime =>
          have hlate : isSecretKnownOnchain c₀.partnerState t.transfer.lock.secrethash = false := by
            rcases hi with rfl | ⟨_, _, rfl, heq⟩
            · exact hok.2 t ht c₀ hc₀ htime
            · cases heq
              exact hok.2 t ht c₀ hc₀ htime
          rw [hsame, hlate] at hknown
          cases hknown
        | removed _ _ hunknown =>
          rw [hunknown] at hknown
          cases hknown

theorem oneVerdict_step (h : OneVerdict s) (hok : Prompt env s i) : OneVerdict (taskStep env s i) := by
  cases ht : s.node.task with
  | none =>
    rw [taskStep_none ht]
    exact h
  | some t =>
    obtain ⟨hunpaid, hfailed⟩ := h.2 t ht
    have hlater := hfailed.imp_right (·.trans hok.1)
    rcases taskStep_cases ht i with ⟨htask, hsent, -⟩ | ⟨stateChange, c, c₀, x, -, -, hacts, -, htask, hsent, hi⟩
    · rw [OneVerdict, htask, hsent]
      exact ⟨h.1, fun _ ht' => Option.mem_some.1 ht' ▸ ⟨hunpaid, hlater⟩⟩
    · have hthreshold (t' : TargetTransferState) (ht' : t' ∈ x.newState) : t'.threshold = t.threshold := by
        rw [TargetTransferState.threshold, acts_transfer hacts t' ht', TargetTransferState.threshold]
      rw [OneVerdict, htask, hsent, verdicts_append]
      generalize hverdict : verdicts x.events = n
      cases hverdict ▸ acts_verdict hacts with
      | nothing =>
        rw [add_zero]
        exact ⟨h.1, fun t' ht' => ⟨hunpaid, hthreshold t' ht' ▸ hlater⟩⟩
      | expired number hash hnumber htime =>
        exact ⟨.inr hunpaid, fun t' ht' => ⟨hunpaid, .inr (hthreshold t' ht' ▸ hnumber ▸ htime)⟩⟩
      | removed _ hend => exact ⟨.inr hunpaid, fun t' ht' => by simp [hend] at ht'⟩
      | paid u hend =>
        rcases hi with rfl | ⟨_, _, -, heq⟩
        · have hnone := hfailed.resolve_right (not_le.2 (hok.2 t ht))
          exact ⟨.inl hnone, fun t' ht' => by simp [hend] at ht'⟩
        · cases heq

/-- **The outcome is consistent in time.** In a run of a target task whose blocks come in order, in which no block after the
expiration finds the lock unlocked on-chain and no unlock comes after the expiration, from any state of the task: the failure
and the success of the transfer are not both reported, and once the lock is recorded as unlocked on-chain no failure is. -/
theorem outcome_consistent_of_prompt (env : Env) (node : TargetNode) (is : List TargetInput)
    (h : Along (taskStep env) (Prompt env) ⟨node, []⟩ is) :
    let run := runFrom (taskStep env) ⟨node, []⟩
    ((run is).sent.countP failsClaim = 0 ∨ (run is).sent.countP receivesPayment = 0) ∧
      ∀ js ks, is = js ++ ks → (run js).unlockedOnchain →
        (run is).sent.countP failsClaim = (run js).sent.countP failsClaim := by
  have hstart : OneVerdict ⟨node, []⟩ := ⟨.inl rfl, fun t _ => ⟨rfl, .inl rfl⟩⟩
  refine ⟨(run_invariant (taskStep env) (fun s i hs hok => oneVerdict_step hs hok) hstart h).1, ?_⟩
  rintro js ks rfl hknown
  rw [runFrom_append]
  set s := runFrom (taskStep env) ⟨node, []⟩ js
  exact (run_invariant (taskStep env)
    (P := fun s' => s'.unlockedOnchain ∧ (verdicts s'.sent).1 = (verdicts s.sent).1)
    (fun s' i hs hok => (unlockedOnchain_step hs.1 hok).imp_right (·.trans hs.2)) ⟨hknown, rfl⟩ ((along_append _).1 h).2).2

end Outcomes

/-- the secret of `targetTransfer` is registered on-chain in block 61 -/
def targetRegistered : TargetInput := .task (.contractReceiveSecretReveal ⟨lockOfTen.secrethash, lockOfTen.secrethash, 61⟩)

/-- the partner unlocks `targetTransfer` -/
def targetUnlock : TargetInput := .task (.receiveUnlock ⟨partnerProof 2 10 0 [], 0, lockOfTen.secrethash⟩)

/-- the secret is registered on-chain before the partner unlocks the lock -/
theorem outcome_consistent_of_unlock :
    let run := runFrom (taskStep sampleEnv) ⟨sampleTask.node, []⟩ [targetReveal, .block 60 [], targetRegistered, targetUnlock]
    run.sent.countP failsClaim = 0 ∨ run.sent.countP receivesPayment = 0 :=
  (outcome_consistent_of_prompt sampleEnv sampleTask.node [targetReveal, .block 60 [], targetRegistered, targetUnlock]
    (by decide +kernel)).1

/-- **The outcome is inconsistent.** The lock expires in block 100. In the first run the secret is registered on-chain in
block 61 and recorded, and block 105 reports the failure. In the second run block 105 reports the failure, and the unlock
that comes then the success. -/
theorem outcome_inconsistent :
    (let run := runFrom (taskStep sampleEnv) ⟨sampleTask.node, []⟩ [targetReveal, .block 60 [], targetRegistered]
    run.unlockedOnchain ∧ run.sent.countP failsClaim = 0 ∧
      (taskStep sampleEnv run (.block 105 [])).sent.countP failsClaim = 1) ∧
    let run := runFrom (taskStep sampleEnv) ⟨sampleTask.node, []⟩ [targetReveal, .block 105 [], targetUnlock]
    run.sent.countP failsClaim = 1 ∧ run.sent.countP receivesPayment = 1 := by
  decide +kernel

end Gatecoin.Client
