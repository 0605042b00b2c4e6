/-
When the target gives the secret away.

The target asks for the secret only while there is time to register it on-chain (`isSafeToWait`); otherwise it lets the
transfer expire. The secret itself is handed to the previous hop whenever it arrives before the sender's expiration
threshold, ten blocks after the lock has expired.

Results:
- `emits_reveal_iff`: the target sends a secret reveal exactly for a matching reveal of a pending, unexpired transfer.
- `target_reveals_safely_iff`: every secret reveal is sent in time if and only if no such reveal arrives late.
- `target_reveals_too_late`: the secret comes with the transfer itself, or after the lock has expired.
-/
import Gatecoin.Client.ChannelRun
import Gatecoin.Client.Target

namespace Gatecoin.Client

open Gatecoin.Core Target

/-! ## Runs of the target -/

/-- a node that is the target of a transfer over its channel -/
structure TargetNode where
  node : ChannelNode
  task : Option TargetTransferState

inductive TargetInput where
  /-- anything else that happens to the channel -/
  | channel (op : ChannelOp)
  | block (blockNumber : ℕ) (blockHash : Bytes)
  | task (stateChange : TargetStateChange)

/-- `subdispatch_targettask` -/
def subdispatchTargettask (env : Env) (s : TargetNode) (stateChange : TargetStateChange) :
    Except Fault (TargetNode × List Event) :=
  match s.node.channel with
  | none => .ok (s, [])
  | some c => do
    let iteration ← Target.stateTransition env s.task c s.node.blockNumber stateChange
    return (⟨{ s.node with channel := some iteration.channel }, iteration.newState⟩, iteration.events)

/-- a step of the node, with the events of the target's machine; a new block goes to the channel first -/
def targetStep (env : Env) (s : TargetNode) : TargetInput → Except Fault (TargetNode × List Event)
  | .channel op => .ok (⟨nodeStep env s.node op, s.task⟩, [])
  | .block number hash =>
    let s : TargetNode := ⟨nodeStep env s.node (.transition (.block number hash)), s.task⟩
    if s.task.isSome then subdispatchTargettask env s (.block number hash) else .ok (s, [])
  | .task stateChange => subdispatchTargettask env s stateChange

/-! ## Secret reveals -/

section Reveals

variable {env : Env} {t : TargetTransferState} {c : NettingChannelState} {blockNumber : ℕ} {x : Iteration}
  {task : Option TargetTransferState} {stateChange : TargetStateChange}

/-- of the state changes only an off-chain secret reveal makes the target send one -/
theorem handle_no_reveal (h : handle env task c blockNumber stateChange = .ok x)
    (hreveal : ∀ r, stateChange ≠ .receiveSecretReveal r) : ∀ e ∈ x.events, e.isSecretReveal = false := by
  have hreceived := fun transfer e he => not_reveal_of_answer (handleReceiveLockedtransfer_answer env c transfer e he)
  have hexpired := fun m e he => not_reveal_of_answer (handleReceiveLockExpired_answer env c m blockNumber e he)
  cases acts_of_handle h with
  | idle | revealedOnchain => simp
  | accepted _ _ hrequest =>
    refine List.forall_mem_append.2 ⟨hreceived _, ?_⟩
    rcases hrequest with rfl | rfl <;> simp [Event.isSecretReveal]
  | refused => exact List.forall_mem_append.2 ⟨hreceived _, by simp [Event.isSecretReveal]⟩
  | expired => simp [Event.isSecretReveal]
  | registered =>
    unfold SecretRegistry.eventsForOnchainSecretreveal
    split_ifs <;> simp [Event.isSecretReveal]
  | revealed t r => exact absurd rfl (hreveal r)
  | unlocked t hunlock =>
    refine List.forall_mem_append.2 ⟨fun e he => ?_, by simp [Event.isSecretReveal]⟩
    exact not_reveal_of_answer (handleUnlock_answer hunlock e he)
  | unlockRefused t hunlock => exact fun e he => not_reveal_of_answer (handleUnlock_answer hunlock e he)
  | lockExpired t m => exact List.forall_mem_append.2 ⟨hexpired m, by simp [Event.isSecretReveal]⟩
  | lockKept t m => exact hexpired m

/-- a state change that makes the target reveal the secret: a matching reveal of a transfer that has not expired -/
def AnswersReveal (env : Env) (task : Option TargetTransferState) (c : NettingChannelState) (blockNumber : ℕ) :
    TargetStateChange → Prop
  | .receiveSecretReveal r => ∃ t, task = some t ∧ r.secrethash env = t.transfer.lock.secrethash ∧
      isTransferExpired t.transfer.lock c blockNumber = false ∧ getLock c.partnerState t.transfer.lock.secrethash ≠ none
  | _ => False

/-- an off-chain secret reveal is answered or has no effect -/
theorem handleOffchainSecretreveal_reveal (t : TargetTransferState) (r : ReceiveSecretReveal) (c : NettingChannelState)
    (blockNumber : ℕ) : (∃ e ∈ (handleOffchainSecretreveal env t r c blockNumber).events, e.isSecretReveal = true) ↔
      r.secrethash env = t.transfer.lock.secrethash ∧ isTransferExpired t.transfer.lock c blockNumber = false := by
  unfold handleOffchainSecretreveal isValidSecretReveal
  split_ifs with h
  · simp only [decide_eq_true_eq] at h
    simp [Event.isSecretReveal, h]
  · simp only [decide_eq_true_eq] at h
    simp [h]

theorem handle_receiveSecretReveal {r : ReceiveSecretReveal} :
    handle env task c blockNumber (.receiveSecretReveal r) = .ok x ↔
      ∃ t, task = some t ∧ handleOffchainSecretreveal env t r c blockNumber = x := by
  simp only [handle, do_ok, present_ok]

/-- the target keeps running after an off-chain secret reveal, with the lock that it had -/
theorem sanityCheck_offchainSecretreveal (t : TargetTransferState) (r : ReceiveSecretReveal) (c : NettingChannelState)
    (blockNumber : ℕ) : Target.sanityCheck (some t) (Target.handleOffchainSecretreveal env t r c blockNumber).newState
        (Target.handleOffchainSecretreveal env t r c blockNumber).channel = .ok () ↔
      getLock c.partnerState t.transfer.lock.secrethash ≠ none := by
  unfold Target.handleOffchainSecretreveal isValidSecretReveal
  split_ifs with h
  · simp only [decide_eq_true_eq] at h
    simp only [Target.sanityCheck, ensure_ok, registerOffchainSecret, h.1, getLock_registerSecretEndstate]
  · simp only [Target.sanityCheck, ensure_ok]

/-- **When the target reveals.** A state change makes the target send a secret reveal exactly if it is a matching reveal
of a pending transfer that has not expired. -/
theorem emits_reveal_iff :
    (∃ x, Target.stateTransition env task c blockNumber stateChange = .ok x ∧ ∃ e ∈ x.events, e.isSecretReveal = true) ↔
      AnswersReveal env task c blockNumber stateChange := by
  simp only [Target.stateTransition, do_ok]
  constructor
  · rintro ⟨x, ⟨x, hx, u, hsane, rfl⟩, e, he, hreveal⟩
    cases stateChange with
    | receiveSecretReveal r =>
      obtain ⟨t, rfl, rfl⟩ := handle_receiveSecretReveal.1 hx
      obtain ⟨hmatch, hexpired⟩ := (handleOffchainSecretreveal_reveal t r c blockNumber).1 ⟨e, he, hreveal⟩
      exact ⟨t, rfl, hmatch, hexpired, (sanityCheck_offchainSecretreveal t r c blockNumber).1 hsane⟩
    | _ =>
      have hfree := handle_no_reveal hx (fun r => by simp) e he
      rw [hfree] at hreveal
      cases hreveal
  · intro h
    cases stateChange with
    | receiveSecretReveal r =>
      obtain ⟨t, rfl, hmatch, hexpired, hlock⟩ := h
      refine ⟨_, ⟨_, handle_receiveSecretReveal.2 ⟨t, rfl, rfl⟩, (), ?_, rfl⟩, ?_⟩
      · exact (sanityCheck_offchainSecretreveal t r c blockNumber).2 hlock
      · exact (handleOffchainSecretreveal_reveal t r c blockNumber).2 ⟨hmatch, hexpired⟩
    | _ => exact h.elim

end Reveals

/-! ## Reveals in a run -/

/-- there is more time left than the channel's reveal timeout -/
def SafeToReveal (s : TargetNode) : Prop :=
  match s.task, s.node.channel with
  | some t, some c => (c.revealTimeout : ℤ) < t.transfer.lock.expiration - s.node.blockNumber
  | _, _ => False

/-- a secret reveal that the target sends in this step is sent in time -/
def RevealsSafe (env : Env) (s : TargetNode) (i : TargetInput) : Prop :=
  (∃ e ∈ emitted (targetStep env) s i, e.isSecretReveal = true) → SafeToReveal s

/-- the secret of a pending transfer arrives when it is too late to wait, and before the transfer counts as expired -/
def LateReveal (env : Env) (s : TargetNode) (i : TargetInput) : Prop :=
  match i, s.task, s.node.channel with
  | .task (.receiveSecretReveal r), some t, some c =>
    let lock := t.transfer.lock
    r.secrethash env = lock.secrethash ∧ getLock c.partnerState lock.secrethash ≠ none ∧
      lock.expiration ≤ s.node.blockNumber + c.revealTimeout ∧
      (s.node.blockNumber < getSenderExpirationThreshold lock.expiration ∨
        c.ourState.secrethashesToOnchainUnlockedlocks.contains lock.secrethash = true)
  | _, _, _ => False

instance (s : TargetNode) : Decidable (SafeToReveal s) := by
  unfold SafeToReveal
  split <;> infer_instance

instance (env : Env) (s : TargetNode) (i : TargetInput) : Decidable (RevealsSafe env s i) := by
  unfold RevealsSafe
  infer_instance

section Runs

variable {env : Env} {s : TargetNode} {c : NettingChannelState} {stateChange : TargetStateChange}

theorem isTransferExpired_eq_false {lock : HashTimeLock} {blockNumber : ℕ} :
    isTransferExpired lock c blockNumber = false ↔ blockNumber < getSenderExpirationThreshold lock.expiration ∨
      c.ourState.secrethashesToOnchainUnlockedlocks.contains lock.secrethash = true := by
  rw [← Bool.not_eq_true, isTransferExpired_iff, not_and_or, not_le, Bool.not_eq_false, or_comm]

theorem targetStep_block_no_reveal {number : ℕ} {hash : Bytes} :
    ∀ e ∈ emitted (targetStep env) s (.block number hash), e.isSecretReveal = false := by
  intro e he
  obtain ⟨s', events, hstep, he⟩ := (mem_emitted _).1 he
  simp only [targetStep, subdispatchTargettask] at hstep
  split_ifs at hstep
  · split at hstep
    · cases hstep
      cases he
    · simp only [do_ok, Prod.mk.injEq] at hstep
      obtain ⟨x, hx, -, rfl⟩ := hstep
      by_contra hreveal
      exact emits_reveal_iff.1 ⟨x, hx, e, he, by simpa using hreveal⟩
  · cases hstep
    cases he

/-- a state change of the task sends what the target's machine sends -/
theorem emitted_task {p : Event → Prop} (hc : s.node.channel = some c) :
    (∃ e ∈ emitted (targetStep env) s (.task stateChange), p e) ↔
      ∃ x, Target.stateTransition env s.task c s.node.blockNumber stateChange = .ok x ∧ ∃ e ∈ x.events, p e := by
  simp only [mem_emitted, targetStep, subdispatchTargettask, hc, do_ok, Prod.mk.injEq]
  constructor
  · rintro ⟨e, ⟨s', events, ⟨x, hx, -, rfl⟩, he⟩, hp⟩
    exact ⟨x, hx, e, he, hp⟩
  · rintro ⟨x, hx, e, he, hp⟩
    exact ⟨e, ⟨_, _, ⟨x, hx, rfl, rfl⟩, he⟩, hp⟩

theorem emitted_task_of_no_channel (hc : s.node.channel = none) : emitted (targetStep env) s (.task stateChange) = [] := by
  simp [emitted, targetStep, subdispatchTargettask, hc]

/-- a step reveals the secret in time exactly if it is no late reveal -/
theorem revealsSafe_iff (s : TargetNode) (i : TargetInput) : RevealsSafe env s i ↔ ¬ LateReveal env s i := by
  unfold RevealsSafe
  cases i with
  | channel op => simp [emitted, targetStep, LateReveal]
  | block number hash =>
    refine iff_of_true (fun ⟨e, he, hreveal⟩ => ?_) (by simp [LateReveal])
    rw [targetStep_block_no_reveal e he] at hreveal
    cases hreveal
  | task stateChange =>
    cases hc : s.node.channel with
    | none => simp [emitted_task_of_no_channel hc, LateReveal, hc]
    | some c =>
      rw [emitted_task hc, emits_reveal_iff]
      cases stateChange with
      | receiveSecretReveal r =>
        cases ht : s.task with
        | none => simp [AnswersReveal, LateReveal, ht]
        | some t =>
          have hlate : (c.revealTimeout : ℤ) < t.transfer.lock.expiration - s.node.blockNumber ↔
              ¬ t.transfer.lock.expiration ≤ s.node.blockNumber + c.revealTimeout := by omega
          simp only [AnswersReveal, LateReveal, SafeToReveal, ht, hc, Option.some.injEq, exists_eq_left',
            isTransferExpired_eq_false, hlate]
          tauto
      | _ => simp [AnswersReveal, LateReveal]

/-- **The target reveals in time exactly if it learns in time.** In a run, every secret reveal of the target is sent while
more blocks than the reveal timeout remain if and only if no secret of a pending, unexpired transfer arrives later. -/
theorem target_reveals_safely_iff (env : Env) (s : TargetNode) (is : List TargetInput) :
    Along (advance (targetStep env)) (RevealsSafe env) s is ↔
      Along (advance (targetStep env)) (fun s i => ¬ LateReveal env s i) s is :=
  along_congr _ revealsSafe_iff

end Runs

def targetStart (blockNumber : ℕ) : TargetNode := ⟨startNode sampleEnv sampleDetails blockNumber [], none⟩

/-- a transfer of the partner whose lock expires in block 100 -/
def targetTransfer : LockedTransferSigned := partnerTransfer lockOfTen (partnerProof 1 0 10 [lockOfTen])

/-- the transfer comes with its secret -/
def secretWithTransfer : List TargetInput :=
  .channel (sampleDeposit 2 100) ::
    (handleMessageLockedtransfer targetTransfer (some (lockOfTen.secrethash, 10, 1))).map .task

/-- the secret is requested and comes after the lock has expired -/
def secretAfterExpiration : List TargetInput :=
  .channel (sampleDeposit 2 100) :: (handleMessageLockedtransfer targetTransfer none).map .task ++
    [.block 107 [], .task (.receiveSecretReveal ⟨lockOfTen.secrethash, 2⟩)]

/-- **The target reveals too late.** The reveal timeout is 50 blocks and the lock expires in block 100. The secret comes
with the transfer in block 60, or it comes in block 107; both times it is handed to the previous hop. -/
theorem target_reveals_too_late :
    ¬ Along (advance (targetStep sampleEnv)) (RevealsSafe sampleEnv) (targetStart 60) secretWithTransfer ∧
      ¬ Along (advance (targetStep sampleEnv)) (RevealsSafe sampleEnv) (targetStart 10) secretAfterExpiration := by
  decide +kernel

end Gatecoin.Client
