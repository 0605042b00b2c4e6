/-
The balance proof of the partner, and the update of a channel that the partner has closed.

The partner's end has a balance proof only if a message with it was accepted. The check of the message compares the proof
with the channel and recovers its signature, so that a stored proof is one that the partner signed for this channel, with
the next nonce (`partnerProof_step`). So it is with every stored proof (`stored_proofs_signed`), and the update after a close
carries it (`updates_claim`).
-/
import Gatecoin.Client.Frame

namespace Gatecoin.Client

open Gatecoin.Core

/-! ## Proofs of the partner -/

/-- what is checked when the state of a signed balance proof is built -/
structure SignedBalanceProof.Built (b : SignedBalanceProof) : Prop where
  nonce : b.nonce ≤ uint64Max
  messageHash : b.messageHash.length = 32
  signature : b.signature.length = 65

/-- the balance proof that a message of the partner carries -/
def ChannelOp.receivedProof? : ChannelOp → Option SignedBalanceProof
  | .receiveLockedtransfer t => some t.balanceProof
  | .refundtransfer _ r => some r.transfer.balanceProof
  | .receiveLockExpired m => some m.balanceProof
  | .unlock m => some m.balanceProof
  | _ => none

/-- the proof of a received message is one that could be built -/
def ChannelOp.Built (op : ChannelOp) : Prop := ∀ b, op.receivedProof? = some b → b.Built

/-- a proof that the participant signed for a channel -/
structure Claims (env : Env) (ci : CanonicalIdentifier) (participant : Address) (b : SignedBalanceProof) : Prop where
  identifier : b.canonicalIdentifier = ci
  nonce : 0 < b.nonce
  signed : isValidBalanceproofSignature env b participant = .ok ()
  built : b.Built

/-! ## Operations -/

section Steps

variable {env : Env} {c c' : NettingChannelState} {e e' o : NettingChannelEndState} {blockNumber : ℕ} {blockHash : Bytes}
  {events : List Event} {op : ChannelOp}

/-- **Proofs of the partner.** An operation keeps the partner's proof, or it is a message whose proof was checked. -/
theorem partnerProof_step (h : applyOp env c blockNumber blockHash op = .ok (some c', events)) :
    c'.partnerState.balanceProof = c.partnerState.balanceProof ∨
      ∃ b, op.receivedProof? = some b ∧ c'.partnerState.balanceProof = some (.signed b) ∧
        isBalanceProofUsableOnchain env b c c.partnerState = .ok () := by
  have hkept (hx : ¬ (op.partner env c).changesLocks) : c'.partnerState.balanceProof = c.partnerState.balanceProof :=
    (op_step h).partner.frame.proof hx
  cases applyOp_move h with
  | @lockReceived t _ hvalid => exact .inr ⟨t.balanceProof, rfl, rfl, (validLockedtransferCheck_ok hvalid).1⟩
  | @refundReceived _ r _ hvalid =>
    exact .inr ⟨r.transfer.balanceProof, rfl, rfl, (validLockedtransferCheck_ok (isValidRefund_ok hvalid)).1⟩
  | @lockExpired m _ hvalid => exact .inr ⟨m.balanceProof, rfl, rfl, (isValidLockExpired_ok hvalid).1⟩
  | @unlockReceived m _ hvalid => exact .inr ⟨m.balanceProof, rfl, rfl, (isValidUnlock_ok hvalid).1⟩
  | idle | reported | requestInvalid => exact .inl rfl
  | deposited | withdrawn | partnerWithdrawn | requestRefused | requestAnswers | requestJoined | requestConfirmed =>
    refine .inl (hkept ?_)
    simp only [ChannelOp.partner]
    split_ifs <;> exact not_false
  | _ => exact .inl (hkept not_false)

/-- an update carries the proof of the partner -/
theorem update_proof (h : applyOp env c blockNumber blockHash op = .ok (o', events)) {expiration : ℕ} {b : SignedBalanceProof}
    {hash : Bytes} (he : .contractSendChannelUpdateTransfer expiration b hash ∈ events) :
    c.partnerState.balanceProof = some (.signed b) := by
  have hkind : TransactionKind.update ∈ op.transactions := (op_transactions h _ he).kind _ rfl
  cases applyOp_move h with
  | idle | closed => exact absurd he List.not_mem_nil
  | reported _ hreport => cases List.mem_singleton.1 he ▸ (report_plain hreport).2.1
  | updating _ hb =>
    cases List.mem_singleton.1 he
    exact hb
  | _ => simp [ChannelOp.transactions] at hkind

end Steps

/-! ## Runs -/

section Runs

variable {env : Env} {d : NewChannelDetails} {s : ChannelNode} {ops : List ChannelOp}

/-- the proof of the partner is one that it signed for the channel, and so are those of the updates that were sent -/
structure Claimed (env : Env) (d : NewChannelDetails) (s : ChannelNode) : Prop where
  identifier : ∀ c, s.channel = some c → c.canonicalIdentifier = d.canonicalIdentifier
  partner : ∀ c, s.channel = some c → c.partnerState.address = d.partnerAddress
  stored : ∀ c b, s.channel = some c → c.partnerState.balanceProof = some b →
    ∃ b', b = .signed b' ∧ Claims env d.canonicalIdentifier d.partnerAddress b'
  sent : ∀ expiration b hash, .contractSendChannelUpdateTransfer expiration b hash ∈ s.sent →
    Claims env d.canonicalIdentifier d.partnerAddress b

theorem claimed_start (d : NewChannelDetails) (blockNumber : ℕ) (blockHash : Bytes) :
    Claimed env d (startNode env d blockNumber blockHash) := by
  refine ⟨?_, ?_, ?_, fun _ _ _ h => absurd h List.not_mem_nil⟩
  · rintro _ ⟨⟩
    rfl
  · rintro _ ⟨⟩
    rfl
  · rintro _ _ ⟨⟩ hb
    cases hb

theorem claimed_step {op : ChannelOp} (h : Claimed env d s) (hop : op.Built) : Claimed env d (nodeStep env s op) := by
  unfold nodeStep
  cases hc : s.channel with
  | none => exact ⟨by simp, by simp, by simp, h.sent⟩
  | some c =>
    dsimp only
    cases happly : applyOp env c (s.blockFor op).1 (s.blockFor op).2 op with
    | error f => exact h
    | ok x =>
      obtain ⟨c1, events⟩ := x
      have hsame : ∀ c', c1 = some c' → SameChannel c c' := fun c' hc' => applyOp_sameChannel (hc' ▸ happly)
      refine ⟨fun c' hc' => ?_, fun c' hc' => ?_, fun c' b hc' hb => ?_, fun expiration b hash hsent => ?_⟩
      · exact (hsame c' hc').canonicalIdentifier.trans (h.identifier c hc)
      · exact (hsame c' hc').partnerAddress.trans (h.partner c hc)
      · have hnext : c1 = some c' := hc'
        rcases partnerProof_step (hnext ▸ happly) with hkept | ⟨b', hb', hnew, husable⟩
        · exact h.stored c b hc (hkept.symm.trans hb)
        · obtain ⟨hci, hnonce, hsigned⟩ := usable_ok husable
          refine ⟨b', Option.some.inj (hb.symm.trans hnew), hci.trans (h.identifier c hc), ?_, ?_, hop b' hb'⟩
          · rw [hnonce]
            exact Nat.succ_pos _
          · rw [← h.partner c hc]
            exact hsigned
      · rcases List.mem_append.1 hsent with hold | hnew
        · exact h.sent expiration b hash hold
        · obtain ⟨b', hb', hclaims⟩ := h.stored c _ hc (update_proof happly hnew)
          cases hb'
          exact hclaims

theorem claimed_run (h : Claimed env d s) (hops : ∀ op ∈ ops, op.Built) : Claimed env d (runFrom (nodeStep env) s ops) := by
  induction ops generalizing s with
  | nil => exact h
  | cons op ops ih =>
    obtain ⟨hop, hops⟩ := List.forall_mem_cons.1 hops
    exact ih (claimed_step h hop) hops

/-- **Updates.** Every update that a node sends carries a proof that the partner signed for the channel. -/
theorem updates_claim {blockNumber : ℕ} {blockHash : Bytes}
    (hops : ∀ op ∈ ops, op.Built) {expiration : ℕ} {b : SignedBalanceProof} {hash : Bytes}
    (h : .contractSendChannelUpdateTransfer expiration b hash ∈
      (runFrom (nodeStep env) (startNode env d blockNumber blockHash) ops).sent) :
    Claims env d.canonicalIdentifier d.partnerAddress b :=
  (claimed_run (claimed_start d blockNumber blockHash) hops).sent expiration b hash h

/-- **Stored proofs.** In every run, the balance proof of the partner's end is one that the partner signed for the channel. -/
theorem stored_proofs_signed {blockNumber : ℕ} {blockHash : Bytes} (hops : ∀ op ∈ ops, op.Built)
    {c : NettingChannelState} {b : BalanceProofState}
    (hc : (runFrom (nodeStep env) (startNode env d blockNumber blockHash) ops).channel = some c)
    (hb : c.partnerState.balanceProof = some b) :
    ∃ b', b = .signed b' ∧ Claims env d.canonicalIdentifier d.partnerAddress b' :=
  (claimed_run (claimed_start d blockNumber blockHash) hops).stored c b hc hb

end Runs

/-- the proof of a transfer of the partner -/
theorem stored_proofs_signed_transfer :
    let b := { partnerProof 1 0 10 [lockOfTen] with messageHash := List.replicate 32 0, signature := 2 :: List.replicate 64 0 }
    let ops := [sampleDeposit 2 10, .receiveLockedtransfer (partnerTransfer lockOfTen b)]
    ∃ c, (runFrom (nodeStep sampleEnv) sampleStart ops).channel = some c ∧
      Claims sampleEnv sampleDetails.canonicalIdentifier 2 b := by
  intro b ops
  have hops : ∀ op ∈ ops, op.Built := by
    refine List.forall_mem_cons.2 ⟨fun _ h => (by cases h), List.forall_mem_singleton.2 ?_⟩
    rintro _ ⟨⟩
    exact ⟨by decide, by decide, by decide⟩
  have hrun : (runFrom (nodeStep sampleEnv) sampleStart ops).channel.bind (·.partnerState.balanceProof) = some (.signed b) := by
    decide +kernel
  obtain ⟨c, hc, hb⟩ := Option.bind_eq_some_iff.1 hrun
  obtain ⟨b', hb', hclaims⟩ := stored_proofs_signed hops hc hb
  cases hb'
  exact ⟨c, hc, hclaims⟩

end Gatecoin.Client
