/-
The nonces of the messages of one channel.

A message with a balance proof takes its nonce from the proof, a withdraw message takes it from our end. Every operation
numbers what it sends from the nonce of our end on, and leaves that nonce at the last one (`op_does`). There is one
exception: a node that joins a cooperative settle of its partner sends its withdraw request twice, since the handler
extends its list of events by itself.

Results:
- `nonces_consecutive_iff`: in every run the nonces are 1, 2, 3, ... if and only if no cooperative settle is joined.
- `joined_request_repeats`: a run with a repeated nonce.
-/
import Gatecoin.Client.ChannelRun
import Gatecoin.Client.Handlers

namespace Gatecoin.Client

open Gatecoin.Core

/-! ## Joining a cooperative settle -/

section Joining

variable {env : Env} {c c' : NettingChannelState} {o : Option NettingChannelState} {blockNumber : ℕ} {blockHash : Bytes}
  {events : List Event}

/-- **A joined cooperative settle repeats a nonce.** -/
theorem op_repeats {op : ChannelOp} (h : applyOp env c blockNumber blockHash op = .ok (o, events))
    (hjoin : joinsCoopSettle env c op = true) : ¬ (nonces events).Nodup := by
  cases applyOp_move h with
  | idle hop | reported hop =>
    unfold joinsCoopSettle at hjoin
    split at hjoin
    · cases hop
    · cases hjoin
  | requestInvalid hvalid => simp [joinsCoopSettle, hvalid] at hjoin
  | requestRefused _ _ hrefusal => simp [joinsCoopSettle, hrefusal] at hjoin
  | requestAnswers _ hown => simp [joinsCoopSettle, hown] at hjoin
  | requestConfirmed _ hcoop => simp [joinsCoopSettle, hcoop] at hjoin
  | @requestJoined r =>
    simp only [joinsCoopSettle, Bool.and_eq_true] at hjoin
    have hopen : ∀ s, (getStatus { storeWithdrawRequest c r with
        partnerState := { (storeWithdrawRequest c r).partnerState with initiatedCoopSettle := s } }).priorToClosed =
          true := fun _ => hjoin.1.1.2
    unfold joinCoopSettle sendWithdrawRequest
    dsimp only
    rw [if_neg (by rw [hopen]; decide)]
    simp [nonces, Event.nonce?, confirmWithdraw]
  | _ => cases hjoin

end Joining

/-! ## Runs -/

/-- the operation succeeds and joins a cooperative settle of the partner -/
def JoinsCoopSettle (env : Env) (s : ChannelNode) (op : ChannelOp) : Prop :=
  match s.channel with
  | some c => joinsCoopSettle env c op = true ∧ (applyOp env c (s.blockFor op).1 (s.blockFor op).2 op).isOk = true
  | none => False

/-- the nonces of all messages so far are 1, 2, 3, ..., and our end has the last one -/
def Consecutive (s : ChannelNode) : Prop :=
  ∃ n, nonces s.sent = List.range' 1 n ∧ ∀ c ∈ s.channel, c.ourState.nonce = n

section Runs

variable {env : Env} {s : ChannelNode} {op : ChannelOp} {ops : List ChannelOp}

theorem consecutive_step (hs : Consecutive s) (hjoin : ¬ JoinsCoopSettle env s op) : Consecutive (nodeStep env s op) := by
  obtain ⟨n, hsent, hnonce⟩ := hs
  unfold nodeStep
  cases hc : s.channel with
  | none => exact ⟨n, hsent, fun c hc' => hnonce c (by rw [hc]; exact hc')⟩
  | some c =>
    dsimp only
    cases hop : applyOp env c (s.blockFor op).1 (s.blockFor op).2 op with
    | error f => exact ⟨n, hsent, fun c' hc' => hnonce c' hc'⟩
    | ok x =>
      obtain ⟨o, events⟩ := x
      have hno : joinsCoopSettle env c op = false := by
        simpa [JoinsCoopSettle, hc, hop, Except.isOk, Except.toBool] using hjoin
      obtain ⟨m, hevents, hnext⟩ := (op_does hop).counts hno
      have hn : c.ourState.nonce = n := hnonce c (by rw [hc]; rfl)
      rw [hn] at hevents hnext
      refine ⟨n + m, ?_, hnext⟩
      show nonces (s.sent ++ events) = _
      rw [nonces_append, hsent, hevents, Nat.add_comm n 1]
      exact List.range'_append_1

/-- what was sent stays sent -/
theorem sent_step (env : Env) (s : ChannelNode) (op : ChannelOp) : s.sent <+: (nodeStep env s op).sent := by
  unfold nodeStep
  cases s.channel with
  | none => exact List.prefix_rfl
  | some c =>
    dsimp only
    split
    · exact List.prefix_rfl
    · exact List.prefix_append _ _

theorem sent_run (env : Env) (s : ChannelNode) (ops : List ChannelOp) : s.sent <+: (runFrom (nodeStep env) s ops).sent := by
  induction ops generalizing s with
  | nil => exact List.prefix_rfl
  | cons op ops ih => exact (sent_step env s op).trans (ih (nodeStep env s op))

theorem repeats_step (hjoin : JoinsCoopSettle env s op) : ¬ (nonces (nodeStep env s op).sent).Nodup := by
  unfold JoinsCoopSettle at hjoin
  unfold nodeStep
  cases hc : s.channel with
  | none => simp [hc] at hjoin
  | some c =>
    simp only [hc] at hjoin
    obtain ⟨hj, hok⟩ := hjoin
    dsimp only
    cases hop : applyOp env c (s.blockFor op).1 (s.blockFor op).2 op with
    | error f =>
      rw [hop] at hok
      cases hok
    | ok x =>
      obtain ⟨o, events⟩ := x
      show ¬ (nonces (s.sent ++ events)).Nodup
      rw [nonces_append]
      intro hnodup
      exact op_repeats hop hj hnodup.of_append_right

theorem along_of_nodup (h : (nonces (runFrom (nodeStep env) s ops).sent).Nodup) :
    Along (nodeStep env) (fun s op => ¬ JoinsCoopSettle env s op) s ops := by
  induction ops generalizing s with
  | nil => trivial
  | cons op ops ih =>
    refine ⟨fun hjoin => repeats_step hjoin ?_, ih h⟩
    exact h.sublist ((sent_run env (nodeStep env s op) ops).sublist.filterMap _)

end Runs

/-- **Nonces.** In every run of a channel the messages of this node have, in the order in which they are sent, the nonces
1, 2, 3, ..., the last of which is the nonce of our end, if and only if the node joins no cooperative settle. -/
theorem nonces_consecutive_iff (env : Env) (d : NewChannelDetails) (blockNumber : ℕ) (blockHash : Bytes)
    (ops : List ChannelOp) :
    Consecutive (runFrom (nodeStep env) (startNode env d blockNumber blockHash) ops) ↔
      Along (nodeStep env) (fun s op => ¬ JoinsCoopSettle env s op) (startNode env d blockNumber blockHash) ops := by
  constructor
  · rintro ⟨n, hn, -⟩
    refine along_of_nodup ?_
    rw [hn]
    exact List.nodup_range'
  · intro halong
    refine run_invariant (nodeStep env) (fun s op hs hjoin => consecutive_step hs hjoin) ⟨0, rfl, ?_⟩ halong
    rintro c ⟨⟩
    rfl

/-- Both ends have deposited 10 tokens and the partner initiates a cooperative settle: the request of this node is sent
twice with nonce 1, and the confirmation follows with nonce 2. -/
theorem joined_request_repeats : sampleEnv.PacksWithdraws ∧
    nonces (runFrom (nodeStep sampleEnv) sampleStart [sampleDeposit 1 10, sampleDeposit 2 10,
      .transition (.receiveWithdrawRequest ⟨2, 1, sampleDetails.canonicalIdentifier, 10, 1, 100, [2], 2, true⟩)]).sent =
        [1, 1, 2] :=
  ⟨sampleEnv_packs, by decide +kernel⟩

end Gatecoin.Client
