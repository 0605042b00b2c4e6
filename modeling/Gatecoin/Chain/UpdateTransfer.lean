/-
The update of a channel that the partner has closed, from the client to the contract: the event handler and the proxy
(gatcoin_event_handler.py, proxies/token_network.py) call `updateNonClosingBalanceProof` with the partner's balance proof.

The client stands for an empty balance (nothing transferred, nothing locked) with a hash of zeros. After a lock of the
partner has expired its balance can be empty again, and the contract takes no update with a hash of zeros.

- `closed_kept`: only updates and the settlement change a Closed channel.
- `update_accepted_iff`: the contract accepts every update of the client, until the channel is settled, exactly if the balance
  hash of the proof is not zero.
- `empty_update_reverts`: a transfer, the expiration of its lock and a close of the partner.
-/
import Gatecoin.Client.Updates
import Gatecoin.Client.Endpoint
import Gatecoin.Contracts.Authorisation

namespace Gatecoin.Chain

open Gatecoin.Core Client Contracts Contracts List

/-! ## The call -/

def packSignedBalanceProof (messageTypeId nonce : ℕ) (balanceHash additionalHash : Bytes) (ci : CanonicalIdentifier)
    (partnerSignature : Bytes) : Bytes :=
  packHeader ci messageTypeId ++ balanceHash ++ toBytesBE 32 nonce ++ additionalHash ++ partnerSignature

/-- `balance_hash` -/
def balanceHash (env : Env) (b : SignedBalanceProof) : Bytes :=
  hashBalanceData env b.transferredAmount b.lockedAmount b.locksroot

/-- `handle_contract_send_channelupdate` and `update_transfer` -/
def updateTransfer {env : Env} (P : Platform) (key : SigningKey env) (partner : Client.Address) (b : SignedBalanceProof) :
    Call P :=
  let nonClosingData := packSignedBalanceProof 2 b.nonce (balanceHash env b) b.messageHash b.canonicalIdentifier b.signature
  .updateNonClosingBalanceProof (BitVec.ofNat 256 b.canonicalIdentifier.channelIdentifier) partner key.address
    (balanceHash env b) (BitVec.ofNat 256 b.nonce) b.messageHash b.signature (key.sign nonClosingData)

/-- the client and the contract are about the same channel, and recover signatures in the same way -/
structure Linked (env : Env) (P : Platform) (ci : CanonicalIdentifier) (id : Uint256) : Prop where
  network : P.self = ci.tokenNetworkAddress
  chain : P.chainId.toNat = ci.chainIdentifier
  channel : id.toNat = ci.channelIdentifier
  balanceProof : P.messageTypeId .balanceProof = 1
  balanceProofUpdate : P.messageTypeId .balanceProofUpdate = 2
  hashes : ∀ b, (env.keccak256 b).length = 32
  recovers : ∀ data signature a, env.recover data signature = some a →
    P.ecverify (P.keccak256 (signaturePrefix ++ asciiBytes (toString data.length) ++ data)) signature = .ok a

/-! ## Signatures -/

section Signatures

variable {env : Env} {P : Platform} {ci : CanonicalIdentifier} {id : Uint256} {b : SignedBalanceProof} {a : Client.Address}

theorem length_balanceHash (h : Linked env P ci id) (b : SignedBalanceProof) : (balanceHash env b).length = 32 := by
  unfold balanceHash hashBalanceData
  split_ifs
  · exact length_replicate
  · exact h.hashes _

theorem Linked.header (h : Linked env P ci id) {type : MessageTypeId} {n : ℕ} (hn : P.messageTypeId type = BitVec.ofNat 256 n)
    (hlt : n < 2 ^ 256) : packHeader ci n = Contracts.addressBytes P.self ++ uintBytes P.chainId ++
      uintBytes (P.messageTypeId type) ++ uintBytes id := by
  have htype : (BitVec.ofNat 256 n).toNat = n := Nat.mod_eq_of_lt hlt
  simp only [packHeader, uintBytes, h.network, h.chain, h.channel, hn, htype]
  rfl

theorem uintBytes_nonce (hb : b.Built) : uintBytes (BitVec.ofNat 256 b.nonce) = toBytesBE 32 b.nonce := by
  have hlt : b.nonce < 2 ^ 256 := lt_of_le_of_lt hb.nonce (by decide)
  rw [uintBytes, BitVec.toNat_ofNat, Nat.mod_eq_of_lt hlt]

theorem length_header (ci : CanonicalIdentifier) (n : ℕ) : (packHeader ci n).length = 116 := by
  simp [packHeader, Client.addressBytes]

/-- **The closing signature.** The contract recovers the signer of a proof that the client has accepted. -/
theorem recover_closing (h : Linked env P ci id) (hb : Claims env ci a b) :
    recoverAddressFromBalanceProof P id (balanceHash env b) (BitVec.ofNat 256 b.nonce) b.messageHash b.signature =
      .ok a := by
  have hsigned := hb.signed
  unfold isValidBalanceproofSignature isValidSignature at hsigned
  split at hsigned
  · cases hsigned
  rename_i signer hrecover
  split_ifs at hsigned with hsigner
  subst hsigner
  have hverify := h.recovers _ _ _ hrecover
  have hlength : (packBalanceProof b.nonce (hashBalanceData env b.transferredAmount b.lockedAmount b.locksroot)
      b.messageHash b.canonicalIdentifier).length = 212 := by
    have hhash := length_balanceHash h b
    rw [balanceHash] at hhash
    simp only [packBalanceProof, length_append, length_header, hhash, length_toBytesBE, hb.built.messageHash]
  rw [hlength, packBalanceProof, hb.identifier, h.header h.balanceProof (by decide)] at hverify
  rw [recoverAddressFromBalanceProof, uintBytes_nonce hb.built]
  simp only [← append_assoc] at hverify ⊢
  exact hverify

/-- **The signature of the node.** -/
theorem recover_nonClosing (h : Linked env P ci id) (hb : Claims env ci a b) (key : SigningKey env) :
    recoverAddressFromBalanceProofCounterSignature P .balanceProofUpdate id (balanceHash env b) (BitVec.ofNat 256 b.nonce)
      b.messageHash b.signature (key.sign (packSignedBalanceProof 2 b.nonce (balanceHash env b) b.messageHash
        b.canonicalIdentifier b.signature)) = .ok key.address := by
  have hverify := h.recovers _ _ _ (key.recovers (packSignedBalanceProof 2 b.nonce (balanceHash env b) b.messageHash
    b.canonicalIdentifier b.signature))
  have hlength : (packSignedBalanceProof 2 b.nonce (balanceHash env b) b.messageHash b.canonicalIdentifier
      b.signature).length = 277 := by
    simp only [packSignedBalanceProof, length_append, length_header, length_balanceHash h, length_toBytesBE,
      hb.built.messageHash, hb.built.signature]
  have hdata : packSignedBalanceProof 2 b.nonce (balanceHash env b) b.messageHash b.canonicalIdentifier b.signature =
      Contracts.addressBytes P.self ++ uintBytes P.chainId ++ uintBytes (P.messageTypeId .balanceProofUpdate) ++
        uintBytes id ++ balanceHash env b ++ uintBytes (BitVec.ofNat 256 b.nonce) ++ b.messageHash ++ b.signature := by
    rw [packSignedBalanceProof, hb.identifier, h.header h.balanceProofUpdate (by decide), uintBytes_nonce hb.built]
  rw [recoverAddressFromBalanceProofCounterSignature]
  rw [hlength] at hverify
  nth_rewrite 1 [hdata] at hverify
  simp only [← append_assoc] at hverify ⊢
  exact hverify

end Signatures

/-! ## A Closed channel -/

section Closed

variable {P : Platform} {w w' : World P} {c : Ctx P} {id id' : Uint256} {p q : Contracts.Address} {nonce : Uint256}

/-- a call that updates the balance proof of the channel -/
def Call.Updates (id : Uint256) : Call P → Prop
  | .updateNonClosingBalanceProof id' _ _ _ _ _ _ _ => id' = id
  | _ => False

/-- a call that stores no balance proof leaves a Closed channel alone or removes it -/
theorem effects_closed {x : Call P} {k k' : Ledger} (hP : P.PairsDistinct) (hw : Wf P k)
    (h : Relation.ReflTransGen (Effect x) k k') (hclosed : (k.channel id).state = .closed) (hx : ¬ x.Proves id) :
    k'.channel id = k.channel id ∨ ¬ (k'.channel id).state.live := by
  obtain ⟨p1, p2, ho⟩ := hw.live_opened (live_iff.2 (.inr hclosed))
  induction h with
  | refl => exact .inl rfl
  | tail hes he ih =>
    have hmove := he.channel hP (steps_wf hP (steps hes) hw) ((hw.range ho).2.trans (steps_later (steps hes)).counter)
    rcases (Relation.reflGen_iff _ _ _).1 hmove with hsame | hmove
    · rwa [hsame]
    · rcases ih with hsame | hdead
      · exact .inr (removed_move hmove (by rw [hsame]; exact hclosed) hx)
      · exact absurd (live_of_move hmove) hdead

/-- **Only updates and the settlement change a Closed channel.** A close is refused. -/
theorem closed_kept (hP : P.PairsDistinct) (hw : Wf P w.ledger) {x : Call P} (h : call w c x = .ok w')
    (hclosed : (w.net.channel id).state = .closed) (hx : ¬ Call.Updates id x) :
    w'.net.channel id = w.net.channel id ∨ ¬ (w'.net.channel id).state.live := by
  refine effects_closed hP hw (call_effects hP hw h) hclosed fun hproves => ?_
  cases x with
  | closeChannel =>
    obtain ⟨-, -, hopen, -⟩ := closeChannel_ok h
    cases hproves
    cases hclosed.symm.trans hopen
  | updateNonClosingBalanceProof => exact hx hproves
  | _ => exact hproves

/-- the channel is Closed by `p`, whose balance proof is still to be given by `q` -/
structure AwaitsUpdate (w : World P) (id : Uint256) (p q : Contracts.Address) : Prop where
  opened : (id, p, q) ∈ w.ledger.opened ∨ (id, q, p) ∈ w.ledger.opened
  closed : (w.net.channel id).state = .closed
  closer : (w.net.participant id p).isTheCloser = true
  unproved : (w.net.participant id p).nonce = 0

theorem participant_setParticipant_net (n : TokenNetwork) (st : Participant) (x : Contracts.Address) :
    (n.setParticipant id p st).participant id x = if x = p then st else n.participant id x := by
  simp only [TokenNetwork.participant, TokenNetwork.channel, TokenNetwork.setParticipant, Dict.get?_set_self,
    Option.getD_some, Dict.get?_set]
  split_ifs <;> rfl

/-- a close stores a proof of the other participant only -/
theorem awaitsUpdate_of_close (hP : P.PairsDistinct) (hs : Sound P w.ledger) {hash : Bytes}
    {additional sig1 sig2 : Bytes} (h : closeChannel w c id q p hash nonce additional sig1 sig2 = .ok w') :
    AwaitsUpdate w' id p q := by
  have he := closeChannel_effects (x := .closeChannel id q p hash nonce additional sig1 sig2) h rfl rfl
  obtain ⟨settleable, n', hopen, hne, hid, hn, rfl⟩ := closeChannel_ok h
  have hopened := (hs.wf.pair_of_id hP hid (live_iff.2 (.inl hopen))).2
  have hunproved : (w.net.participant id p).nonce = 0 := (hs.unproved id (by rw [ledger_channel, hopen]; decide) p).1
  -- the participant that closes, before and after the proof of the other one is stored
  have hclosed := channel_closedBy w.net id p settleable
  have hcloser : (w.net.closedBy id p settleable).participant id p = { w.net.participant id p with isTheCloser := true } := by
    rw [TokenNetwork.participant, hclosed]
    simp
  have hresult : (n'.channel id).state = .closed ∧ n'.participant id p = (w.net.closedBy id p settleable).participant id p := by
    rcases hn with rfl | hn
    · exact ⟨by rw [hclosed], rfl⟩
    · rw [(updateBalanceProofData_ok hn).2, participant_setParticipant_net, if_neg hne]
      exact ⟨by simp [TokenNetwork.setParticipant, TokenNetwork.channel, channels_closedBy], rfl⟩
  refine ⟨hopened.imp (effects_mem_opened he) (effects_mem_opened he), hresult.1, ?_, ?_⟩
  · exact (congrArg Participant.isTheCloser (hresult.2.trans hcloser)).trans rfl
  · exact (congrArg Participant.nonce (hresult.2.trans hcloser)).trans hunproved

/-- a Closed channel awaits its update until it is updated or settled -/
theorem AwaitsUpdate.exec (hP : P.PairsDistinct) (hw : Wf P w.ledger) (h : AwaitsUpdate w id p q) {tx : Ctx P × Call P}
    (hx : ¬ Call.Updates id tx.2) :
    AwaitsUpdate (exec w tx) id p q ∨ ¬ ((Contracts.exec w tx).net.channel id).state.live := by
  have hmem {o} := effects_mem_opened (exec_effects hP hw tx) (o := o)
  have hkept : (Contracts.exec w tx).net.channel id = w.net.channel id ∨
      ¬ ((Contracts.exec w tx).net.channel id).state.live := by
    unfold Contracts.exec
    split
    · rename_i w' hw'
      exact closed_kept hP hw hw' h.closed hx
    · exact .inl rfl
  refine hkept.imp_left fun hsame => ?_
  have hparticipant : (Contracts.exec w tx).net.participant id p = w.net.participant id p := by
    rw [TokenNetwork.participant, hsame]
    rfl
  exact ⟨h.opened.imp hmem hmem, by rw [hsame]; exact h.closed, by rw [hparticipant]; exact h.closer,
    by rw [hparticipant]; exact h.unproved⟩

theorem AwaitsUpdate.run (hP : P.PairsDistinct) (hw : Wf P w.ledger) (h : AwaitsUpdate w id p q)
    {txs : List (Ctx P × Call P)} (htxs : ∀ tx ∈ txs, ¬ Call.Updates id tx.2)
    (hstill : ((run w txs).net.channel id).state = .closed) : AwaitsUpdate (run w txs) id p q := by
  induction txs generalizing w with
  | nil => exact h
  | cons tx txs ih =>
    obtain ⟨htx, htxs⟩ := forall_mem_cons.1 htxs
    have hsteps := steps (exec_effects hP hw tx)
    have hw' := steps_wf hP hsteps hw
    rcases h.exec hP hw htx with hnext | hgone
    · exact ih hw' hnext htxs hstill
    · -- a channel that is gone does not come back
      obtain ⟨p1, p2, ho⟩ := hw.live_opened (live_iff.2 (.inr h.closed))
      have hid := (hw.range ho).2.trans (steps_later hsteps).counter
      exact absurd ((steps_later (run_steps hP hw' txs)).live id hid (live_iff.2 (.inr hstill))).1 hgone

/-- **Updates of a Closed channel.** With both signatures and a nonce, only a hash of zeros is refused. -/
theorem update_ok_iff (hw : Wf P w.ledger) (h : AwaitsUpdate w id p q) {hash additional sig1 sig2 : Bytes} (hnonce : 0 < nonce)
    (hnonClosing : recoverAddressFromBalanceProofCounterSignature P .balanceProofUpdate id hash nonce additional sig1 sig2 =
      .ok q) (hclosing : recoverAddressFromBalanceProof P id hash nonce additional sig1 = .ok p) :
    (updateNonClosingBalanceProof w id p q hash nonce additional sig1 sig2).isOk = true ↔ hash ≠ zeroHash := by
  have hpair : getChannelIdentifier w p q = .ok id := by
    have hlive : (w.ledger.channel id).state.live := live_iff.2 (.inr h.closed)
    rcases h.opened with ho | ho
    · have hget := (hw.pairs _ _).2 ⟨p, q, ho, rfl, hlive⟩
      rw [ledger_pairs] at hget
      exact getChannelIdentifier_ok.2 ⟨⟨(hw.nonzero ho).1, (hw.nonzero ho).2, hw.distinct ho⟩, by rw [hget]; rfl⟩
    · have hget := (hw.pairs _ _).2 ⟨q, p, ho, pairHash_comm P p q, hlive⟩
      rw [ledger_pairs] at hget
      exact getChannelIdentifier_ok.2 ⟨⟨(hw.nonzero ho).2, (hw.nonzero ho).1, (hw.distinct ho).symm⟩,
        by rw [hget]; rfl⟩
  have hupdate : updateBalanceProofData w.net id p nonce hash = .ok (w.net.setParticipant id p
      { w.net.participant id p with nonce := nonce, balanceHash := hash }) := by
    have hlt : (w.net.participant id p).nonce < nonce := by
      rw [h.unproved]
      exact hnonce
    simp only [updateBalanceProofData, Core.require, if_pos hlt]
    rfl
  by_cases hhash : hash = zeroHash
  · simp [updateNonClosingBalanceProof, Core.require, hpair, hhash, bind, Except.bind, Except.isOk, Except.toBool]
  · have hok : ∃ w', updateNonClosingBalanceProof w id p q hash nonce additional sig1 sig2 = .ok w' := by
      simp only [updateNonClosingBalanceProof, do_ok]
      exact ⟨_, id, hpair, (), rfl, (), hhash, (), hnonce, (), h.closed, q, hnonClosing, (), rfl, p, hclosing, (), rfl, (),
        h.closer, _, hupdate, rfl⟩
    obtain ⟨w', hok⟩ := hok
    rw [hok]
    exact iff_of_true rfl hhash

end Closed

/-! ## Updates of the client -/

/-- **Updates.** A node runs a channel, with any operations in any order, and sends an update; the partner closes the channel
in the contract, and anything but another update happens there before the channel is settled. Then the contract accepts the
update exactly if the balance hash of the proof is not zero. -/
theorem update_accepted_iff (env : Env) (P : Platform) (hP : P.PairsDistinct) (d : NewChannelDetails) (id : Uint256)
    (hlinked : Linked env P d.canonicalIdentifier id) (key : SigningKey env) (hkey : key.address = d.ourAddress)
    (blockNumber : ℕ) (blockHash : Bytes) (ops : List ChannelOp) (hops : ∀ op ∈ ops, op.Built)
    (expiration : ℕ) (b : SignedBalanceProof) (hash : Bytes)
    (hsent : .contractSendChannelUpdateTransfer expiration b hash ∈
      (runFrom (nodeStep env) (startNode env d blockNumber blockHash) ops).sent)
    (start : World P) (hstart : Initial start) (txs : List (Ctx P × Call P)) (c : Ctx P) (closingHash : Bytes)
    (closingNonce : Uint256) (additional sig1 sig2 : Bytes) (w : World P)
    (hclose : closeChannel (run start txs) c id d.ourAddress d.partnerAddress closingHash closingNonce additional sig1 sig2 =
      .ok w)
    (later : List (Ctx P × Call P)) (hlater : ∀ tx ∈ later, ¬ Call.Updates id tx.2)
    (hwindow : ((run w later).net.channel id).state = .closed) (c' : Ctx P) :
    (call (run w later) c' (updateTransfer P key d.partnerAddress b)).isOk = true ↔ balanceHash env b ≠ zeroHash := by
  have hclaims := updates_claim hops hsent
  have hsound := sound_run hP hstart txs
  have hw : Wf P w.ledger := steps_wf hP (steps (closeChannel_effects (x := .closeChannel id d.ourAddress d.partnerAddress
    closingHash closingNonce additional sig1 sig2) hclose rfl rfl)) hsound.wf
  have hawaits := (awaitsUpdate_of_close hP hsound hclose).run hP hw hlater hwindow
  have hid : BitVec.ofNat 256 b.canonicalIdentifier.channelIdentifier = id := by
    rw [hclaims.identifier, ← hlinked.channel, BitVec.ofNat_toNat, BitVec.setWidth_eq]
  have hnonce : 0 < BitVec.ofNat 256 b.nonce := by
    have hpos := hclaims.nonce
    have hlt : b.nonce < 2 ^ 256 := lt_of_le_of_lt hclaims.built.nonce (by decide)
    rw [BitVec.lt_def, BitVec.toNat_ofNat, Nat.mod_eq_of_lt hlt]
    exact hpos
  rw [updateTransfer, hid, hkey]
  exact update_ok_iff (steps_wf hP (run_steps hP hw later) hw) hawaits hnonce (hkey ▸ recover_nonClosing hlinked hclaims key)
    (recover_closing hlinked hclaims)

/-! ## An empty balance -/

section Example

/-- hashes of 32 bytes, and signatures that name their signer -/
def updateEnv : Env := { sampleEnv with
  keccak256 := fun b => (replicate 32 0 ++ b).drop b.length
  recover := fun _ signature => some (BitVec.ofNat 160 (ofBytesBE signature)) }

/-- the channel 1 of the network at address 9, of the node 8 with its partner 7 -/
def updateDetails : NewChannelDetails :=
  { sampleDetails with canonicalIdentifier := ⟨1, 9, 1⟩, ourAddress := 8, partnerAddress := 7 }

theorem updateEnv_linked : Linked updateEnv (standardPlatform 9) updateDetails.canonicalIdentifier 1 where
  network := rfl
  chain := rfl
  channel := rfl
  balanceProof := rfl
  balanceProofUpdate := rfl
  hashes := fun b => by
    simp only [updateEnv, length_drop, length_append, length_replicate]
    omega
  recovers := fun data signature a h => by
    cases h
    rfl

/-- a signature that names its signer -/
def signatureOf (n : UInt8) : Bytes := replicate 64 0 ++ [n]

def updateKey : SigningKey updateEnv := ⟨8, fun _ => signatureOf 8, fun _ => rfl⟩

/-- a lock of 5 tokens that expires in block 100 -/
def lockOfFive : HashTimeLock := ⟨5, 100, replicate 32 7, five_le_uint256Max, lockOfTen.expiration_le, lockOfTen.size⟩

/-- a proof of the partner over a list of locks, with nothing transferred -/
def lockedProof (nonce lockedAmount : ℕ) (locks : List HashTimeLock) : SignedBalanceProof :=
  ⟨⟨nonce, 0, lockedAmount, computeLocksroot updateEnv (locks.map HashTimeLock.encoded), updateDetails.canonicalIdentifier⟩,
    replicate 32 0, signatureOf 7, 7⟩

/-- the partner has deposited 5 tokens and sends them with a lock -/
def lockedOps : List ChannelOp :=
  [sampleDeposit 7 5, .receiveLockedtransfer ⟨1, 4, lockOfFive, 7, 8, 1, [], lockedProof 1 5 [lockOfFive], none⟩]

/-- the lock expires -/
def expiredOps : List ChannelOp :=
  [.transition (.block 120 []), .receiveLockExpired ⟨lockedProof 2 0 [], lockOfFive.secrethash, 2⟩]

def partnerCloses : List ChannelOp := [.transition (.contractReceiveChannelClosed 1 7 121 [])]

/-- the partner opens the channel, deposits and closes without a proof -/
def closeRun : List (Ctx (standardPlatform 9) × Call (standardPlatform 9)) :=
  [(selfCtx 1, .openChannel 7 8), (selfCtx 1, .setTotalDeposit 1 7 5 8)]

def closeTx : Call (standardPlatform 9) := .closeChannel 1 8 7 zeroHash 0 [] [] (signatureOf 7)

theorem lockedProof_built (nonce lockedAmount : ℕ) (locks : List HashTimeLock) (h : nonce ≤ uint64Max) :
    (lockedProof nonce lockedAmount locks).Built := ⟨h, rfl, rfl⟩

theorem lockedOps_built : ∀ op ∈ lockedOps ++ partnerCloses, op.Built := by
  intro op hop
  simp only [lockedOps, partnerCloses, cons_append, nil_append, mem_cons, not_mem_nil, or_false] at hop
  rcases hop with rfl | rfl | rfl
  · rintro b ⟨⟩
  · rintro b ⟨⟩
    exact lockedProof_built 1 5 _ (by decide)
  · rintro b ⟨⟩

/-- the update with a pending lock -/
theorem locked_update_accepted :
    ∃ w, closeChannel (run selfStart closeRun) (selfCtx 2) 1 8 7 zeroHash 0 [] [] (signatureOf 7) = .ok w ∧
      (call w (selfCtx 3) (updateTransfer (standardPlatform 9) updateKey 7 (lockedProof 1 5 [lockOfFive]))).isOk = true := by
  have hok : (closeChannel (run selfStart closeRun) (selfCtx 2) 1 8 7 zeroHash 0 [] [] (signatureOf 7)).isOk = true := by
    decide +kernel
  cases hclose : closeChannel (run selfStart closeRun) (selfCtx 2) 1 8 7 zeroHash 0 [] [] (signatureOf 7) with
  | error r =>
    rw [hclose] at hok
    cases hok
  | ok w =>
    refine ⟨w, rfl, ?_⟩
    have hclosed : ((run selfStart (closeRun ++ [(selfCtx 2, closeTx)])).net.channel 1).state = .closed := by decide +kernel
    have hw : run selfStart (closeRun ++ [(selfCtx 2, closeTx)]) = w := by
      rw [run, foldl_append]
      simp only [foldl_cons, foldl_nil]
      have hexec : exec (run selfStart closeRun) (selfCtx 2, closeTx) = w := by
        simp only [exec, closeTx, call, hclose]
      exact hexec
    rw [hw] at hclosed
    exact (update_accepted_iff updateEnv (standardPlatform 9) (standardPlatform_lawful 9).pairsDistinct updateDetails 1
      updateEnv_linked updateKey rfl 1 [] (lockedOps ++ partnerCloses) lockedOps_built 621 (lockedProof 1 5 [lockOfFive]) []
      (by decide +kernel) selfStart selfStart_initial closeRun (selfCtx 2) zeroHash 0 [] [] (signatureOf 7) w hclose []
      (by simp) hclosed (selfCtx 3)).2 (by decide +kernel)

/-- The partner's transfer expires, which leaves an empty balance; the update that the node sends after the close reverts. -/
theorem empty_update_reverts :
    Event.contractSendChannelUpdateTransfer 621 (lockedProof 2 0 []) [] ∈
      (runFrom (nodeStep updateEnv) (startNode updateEnv updateDetails 1 []) (lockedOps ++ expiredOps ++ partnerCloses)).sent ∧
    ((run selfStart (closeRun ++ [(selfCtx 2, closeTx)])).net.channel 1).state = .closed ∧
    (match call (run selfStart (closeRun ++ [(selfCtx 2, closeTx)])) (selfCtx 3)
        (updateTransfer (standardPlatform 9) updateKey 7 (lockedProof 2 0 [])) with
      | .ok _ => none
      | .error r => some r) = some (.reason "TN/update: balance hash is zero") := by
  decide +kernel

end Example

end Gatecoin.Chain
