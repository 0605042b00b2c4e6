/-
The life of a channel in the TokenNetwork contract.

A channel is opened once, under the next identifier. While it is Opened its amounts grow; it is closed, after which balance
proofs replace each other by their nonces; and it is removed, by a settlement or cooperatively (`ChannelMove`). The pair
index, the identifiers and the amounts are those of the ledger (`Wf`).

Results:
- `Effect.channels`: an effect of a call moves every channel along, or opens one.
- `channels_sound`: the index, the identifiers and the channels of the contract after every run.
- `reentered_withdraw_asserts`: a token that calls back makes an assertion fail.

Premises: different pairs of participants have different hashes, and the token does not call back. It may move what it likes.
-/
import Gatecoin.Contracts.Solvency

namespace Gatecoin.Contracts

open Gatecoin.Core Relation

/-! ## Channels -/

def Channel.participant (ch : Channel) (p : Address) : Participant := (ch.participants.get? p).getD Participant.zero

section Channels

variable {P : Platform} {x : Call P} {id : Uint256} {ch ch' : Channel}

/-- a step in the life of a channel that has been opened, and the call that makes it -/
inductive ChannelMove (x : Call P) (id : Uint256) : Channel → Channel → Prop where
  /-- a deposit or a withdraw -/
  | amounts (ch : Channel) (p : Address) (st : Participant) (hopen : ch.state = .opened)
      (hnonce : st.nonce = (ch.participant p).nonce) (hhash : st.balanceHash = (ch.participant p).balanceHash) :
      ChannelMove x id ch ⟨.opened, ch.participants.set p st⟩
  | closed (ch : Channel) (p : Address) (hopen : ch.state = .opened) (hx : x.Ends id) :
      ChannelMove x id ch ⟨.closed, ch.participants.set p { ch.participant p with isTheCloser := true }⟩
  | proved (ch : Channel) (p : Address) (nonce : Uint256) (hash : Bytes) (hclosed : ch.state = .closed)
      (hnonce : (ch.participant p).nonce < nonce) (hx : x.Proves id) :
      ChannelMove x id ch ⟨.closed, ch.participants.set p { ch.participant p with nonce := nonce, balanceHash := hash }⟩
  | removed (ch : Channel) (p1 p2 : Address) (hlive : ch.state.live) (hx : ch.state = .opened → x.Ends id)
      (hall : ∀ p ∈ ch.participants.keys, p = p1 ∨ p = p2) :
      ChannelMove x id ch ⟨.nonExistent, (ch.participants.erase p1).erase p2⟩

/-- a channel that is not Closed has no balance proofs -/
def Unproved (ch : Channel) : Prop :=
  ch.state ≠ .closed → ∀ p, (ch.participant p).nonce = 0 ∧ (ch.participant p).balanceHash = zeroHash

/-- the states that the contract sets -/
def ChannelState.used : ChannelState → Prop
  | .nonExistent => True
  | .opened => True
  | .closed => True
  | _ => False

theorem participant_set (participants : Dict Address Participant) (state : ChannelState) (p p' : Address) (st : Participant) :
    (Channel.mk state (participants.set p st)).participant p' =
      if p' = p then st else (participants.get? p').getD Participant.zero := by
  simp only [Channel.participant, Dict.get?_set]
  split_ifs <;> rfl

theorem unproved_of_no_participants (h : ch.participants.keys = []) : Unproved ch := by
  intro _ p
  have hnone : ch.participants.get? p = none := by
    rw [Dict.get?_eq_none, h]
    exact List.not_mem_nil
  simp only [Channel.participant, hnone]
  exact ⟨rfl, rfl⟩

theorem unproved_move (h : ChannelMove x id ch ch') (hu : Unproved ch) : Unproved ch' := by
  cases h with
  | amounts p st hopen hnonce hhash =>
    have hzero := hu (by rw [hopen]; decide)
    intro _ p'
    rw [participant_set]
    split_ifs
    · rw [hnonce, hhash]
      exact hzero p
    · exact hzero p'
  | closed | proved => exact fun hne => absurd rfl hne
  | removed p1 p2 hlive hx hall =>
    -- only the two participants have data, so nothing is left
    refine unproved_of_no_participants (List.eq_nil_iff_forall_not_mem.2 fun x hx => ?_)
    obtain ⟨hx2, hx⟩ := Dict.mem_keys_erase.1 hx
    obtain ⟨hx1, hx⟩ := Dict.mem_keys_erase.1 hx
    rcases hall x hx with rfl | rfl <;> contradiction

theorem used_move (h : ChannelMove x id ch ch') : ch'.state.used := by
  cases h <;> trivial

theorem live_of_move (h : ChannelMove x id ch ch') : ch.state.live := by
  cases h with
  | amounts _ _ hopen | closed _ hopen => exact live_iff.2 (.inl hopen)
  | proved p nonce hash hclosed => exact live_iff.2 (.inr hclosed)
  | removed p1 p2 hlive => exact hlive

/-- an Opened channel stays Opened in the calls that do not end it -/
theorem opened_move (h : ChannelMove x id ch ch') (hopen : ch.state = .opened) (hx : ¬ x.Ends id) : ch'.state = .opened := by
  cases h with
  | amounts => rfl
  | closed _ _ hends => exact absurd hends hx
  | proved p nonce hash hclosed => cases hopen.symm.trans hclosed
  | removed p1 p2 hlive hends => exact absurd (hends hopen) hx

/-- a Closed channel is removed by the calls that store no proof -/
theorem removed_move (h : ChannelMove x id ch ch') (hclosed : ch.state = .closed) (hx : ¬ x.Proves id) :
    ¬ ch'.state.live := by
  cases h with
  | amounts _ _ hopen | closed _ hopen => cases hclosed.symm.trans hopen
  | proved _ _ _ _ _ hproves => exact absurd hproves hx
  | removed => exact not_false

/-- a removed channel stays as it is -/
theorem dead_moves (h : ReflTransGen (fun ch ch' => ∃ x : Call P, ChannelMove x id ch ch') ch ch')
    (hdead : ¬ ch.state.live) : ch' = ch := by
  induction h with
  | refl => rfl
  | tail _ hmove ih =>
    subst ih
    exact absurd (live_of_move hmove.choose_spec) hdead

/-- a Closed channel is removed, or stays Closed and its nonces grow -/
theorem closed_moves (h : ReflTransGen (fun ch ch' => ∃ x : Call P, ChannelMove x id ch ch') ch ch')
    (hclosed : ch.state = .closed) :
    ch'.state = .nonExistent ∨ ch'.state = .closed ∧ ∀ p, (ch.participant p).nonce ≤ (ch'.participant p).nonce := by
  induction h with
  | refl => exact .inr ⟨hclosed, fun p => BitVec.le_refl _⟩
  | @tail ch1 ch2 _ hmove ih =>
    obtain ⟨x, hmove⟩ := hmove
    rcases ih with hdead | ⟨hstate, hle⟩
    · exact absurd (live_of_move hmove) (by rw [hdead]; exact not_false)
    cases hmove with
    | amounts _ _ hopen | closed _ hopen => cases hstate.symm.trans hopen
    | proved p nonce hash _ hlt =>
      refine .inr ⟨rfl, fun p' => ?_⟩
      rw [participant_set]
      split_ifs with hp
      · subst hp
        exact BitVec.le_trans (hle p') (BitVec.le_of_lt hlt)
      · exact hle p'
    | removed p1 p2 => exact .inl rfl

end Channels

/-! ## Effects -/

section Effects

variable {P : Platform} {x : Call P} {k k' : Ledger} {id : Uint256} {p1 p2 : Address} {w : World P}

/-- the participants that a removed channel is removed for are its only ones -/
theorem Wf.only_two (hP : P.PairsDistinct) (hw : Wf P k)
    (hid : (k.pairs.get? (pairHash P p1 p2)).getD 0 = id) (hlive : (k.channel id).state.live) :
    ∀ p ∈ (k.channel id).participants.keys, p = p1 ∨ p = p2 := by
  intro p hp
  obtain ⟨-, ho⟩ := hw.pair_of_id hP hid hlive
  have hm := (hw.members hp).2
  rcases ho with ho | ho
  · exact hm _ _ ho
  · exact (hm _ _ ho).symm

/-- one channel is written, and it is a step of its life -/
theorem moved_set {ch : Channel} (hset : k'.channels = k.channels.set id ch) (h : ChannelMove x id (k.channel id) ch)
    (id' : Uint256) : ReflGen (ChannelMove x id') (k.channel id') (k'.channel id') := by
  have hchannel : k'.channel id' = if id' = id then ch else k.channel id' := by rw [← channel_set, ← hset]; rfl
  rw [hchannel]
  split_ifs with hi
  · subst hi
    exact .single h
  · exact .refl

/-- **What an effect does to the channels.** It moves every channel along, or opens one under the next identifier. -/
theorem Effect.channels (he : Effect x k k') (hP : P.PairsDistinct) (hw : Wf P k) :
    (∀ id, ReflGen (ChannelMove x id) (k.channel id) (k'.channel id)) ∧ k'.counter = k.counter ∧ k'.opened = k.opened ∨
      ∃ id p1 p2, id.toNat = k.counter + 1 ∧ k' = k.openFor P id p1 p2 := by
  cases he with
  | opened id p1 p2 hid => exact .inr ⟨id, p1, p2, hid, rfl⟩
  | deposited id p q src d v balance hid hopen | withdrawn id p q d v balance hid hopen =>
    exact .inl ⟨moved_set rfl (.amounts _ p _ hopen rfl rfl), rfl, rfl⟩
  | closed id p q hid hopen hx => exact .inl ⟨moved_set rfl (.closed _ p hopen hx), rfl, rfl⟩
  | proved id p q nonce hash hid hclosed hnonce hx =>
    exact .inl ⟨moved_set rfl (.proved _ p nonce hash hclosed hnonce hx), rfl, rfl⟩
  | settled id p1 p2 u1 u2 ps balance h12 hid hlive hx =>
    exact .inl ⟨moved_set rfl (.removed _ p1 p2 hlive hx (hw.only_two hP hid hlive)), rfl, rfl⟩
  | unlocked => exact .inl ⟨fun _ => .refl, rfl, rfl⟩

/-- a channel that has been opened only moves along -/
theorem Effect.channel (he : Effect x k k') (hP : P.PairsDistinct) (hw : Wf P k) (hid : id.toNat ≤ k.counter) :
    ReflGen (ChannelMove x id) (k.channel id) (k'.channel id) := by
  rcases he.channels hP hw with ⟨hmoves, -⟩ | ⟨new, p1, p2, hnew, rfl⟩
  · exact hmoves id
  · rw [channel_openFor, if_neg (by rintro rfl; omega)]

theorem steps_channel (hP : P.PairsDistinct) (hw : Wf P k) (h : ReflTransGen (Step P) k k') (hid : id.toNat ≤ k.counter) :
    ReflTransGen (fun ch ch' => ∃ x : Call P, ChannelMove x id ch ch') (k.channel id) (k'.channel id) := by
  induction h with
  | refl => exact .refl
  | tail hsteps hstep ih =>
    obtain ⟨x, he⟩ := hstep
    have hmove := he.channel hP (steps_wf hP hsteps hw) (hid.trans (steps_later hsteps).counter)
    rcases (reflGen_iff _ _ _).1 hmove with hsame | hmove
    · rw [hsame]
      exact ih
    · exact ih.tail ⟨x, hmove⟩

theorem Effect.mem_opened (he : Effect x k k') {o : Uint256 × Address × Address} (ho : o ∈ k.opened) : o ∈ k'.opened := by
  cases he with
  | opened => exact List.mem_append_left _ ho
  | _ => exact ho

theorem effects_mem_opened (h : ReflTransGen (Effect x) k k') {o : Uint256 × Address × Address} (ho : o ∈ k.opened) :
    o ∈ k'.opened := by
  induction h with
  | refl => exact ho
  | tail _ he ih => exact he.mem_opened ih

/-- what every call preserves -/
structure Sound (P : Platform) (k : Ledger) : Prop where
  wf : Wf P k
  unproved : ∀ id, Unproved (k.channel id)
  used : ∀ id, (k.channel id).state.used
  numbered : k.opened.map (fun o => o.1.toNat) = List.range' 1 k.counter

theorem sound_effect (hP : P.PairsDistinct) (h : Sound P k) (he : Effect x k k') : Sound P k' := by
  have hwf := effect_wf hP he h.wf
  rcases he.channels hP h.wf with ⟨hmoves, hcounter, hopened⟩ | ⟨new, p1, p2, hnew, rfl⟩
  · have hchannel : ∀ id, Unproved (k'.channel id) ∧ (k'.channel id).state.used := by
      intro id
      rcases (reflGen_iff _ _ _).1 (hmoves id) with hsame | hmove
      · rw [hsame]
        exact ⟨h.unproved id, h.used id⟩
      · exact ⟨unproved_move hmove (h.unproved id), used_move hmove⟩
    exact ⟨hwf, fun id => (hchannel id).1, fun id => (hchannel id).2, by rw [hopened, hcounter]; exact h.numbered⟩
  · -- the opened channel has no data yet
    have hkeys := h.wf.participants_of_dead (h.wf.unused hnew).2
    have hchannel : ∀ id, Unproved ((k.openFor P new p1 p2).channel id) ∧
        ((k.openFor P new p1 p2).channel id).state.used := by
      intro id
      rw [channel_openFor]
      split_ifs
      · exact ⟨unproved_of_no_participants hkeys, trivial⟩
      · exact ⟨h.unproved id, h.used id⟩
    refine ⟨hwf, fun id => (hchannel id).1, fun id => (hchannel id).2, ?_⟩
    rw [openFor_opened, List.map_append, h.numbered]
    show _ = List.range' 1 new.toNat
    rw [hnew, List.range'_concat]
    simp [hnew, add_comm]

theorem sound_steps (hP : P.PairsDistinct) (h : Sound P k) (hsteps : ReflTransGen (Step P) k k') : Sound P k' := by
  induction hsteps with
  | refl => exact h
  | tail _ hstep ih => exact sound_effect hP ih hstep.choose_spec

theorem sound_run (hP : P.PairsDistinct) (h : Initial w) (txs : List (Ctx P × Call P)) : Sound P (run w txs).ledger := by
  refine sound_steps hP ?_ (run_steps hP (initial_wf h) txs)
  rw [initial_ledger h]
  exact ⟨fresh_wf P, fun _ => unproved_of_no_participants rfl, fun _ => trivial, rfl⟩

end Effects

/-! ## Assertions -/

/-- the token and the recovery of signatures fail no assertion of their own -/
structure Platform.Unasserted (P : Platform) : Prop where
  transfer : ∀ t caller dst v, Core.Unasserted (P.transfer t caller dst v)
  transferFrom : ∀ t caller src dst v, Core.Unasserted (P.transferFrom t caller src dst v)
  ecverify : ∀ hash signature, Core.Unasserted (P.ecverify hash signature)

section Assertions

variable {P : Platform} {w : World P} {c : Ctx P} {id nonce : Uint256} {closing nonClosing : Address}
  {hash additional sig1 sig2 : Bytes}

@[simp] theorem getParticipantsHash_unasserted (P : Platform) (a b : Address) : Unasserted (getParticipantsHash P a b) := by
  simp [getParticipantsHash]

@[simp] theorem getChannelIdentifier_unasserted (w : World P) (a b : Address) : Unasserted (getChannelIdentifier w a b) := by
  simp [getChannelIdentifier]

@[simp] theorem removeChannelData_unasserted (w : World P) (id : Uint256) (p1 p2 : Address) :
    Unasserted (removeChannelData w id p1 p2) := by
  simp [removeChannelData]

@[simp] theorem updateBalanceProofData_unasserted (n : TokenNetwork) (id : Uint256) (p : Address) (nonce : Uint256)
    (hash : Bytes) : Unasserted (updateBalanceProofData n id p nonce hash) := by
  simp [updateBalanceProofData]

@[simp] theorem storeUnlockData_unasserted (w : World P) (id : Uint256) (i : SettleInput) (r : Address) :
    Unasserted (storeUnlockData w id i r) := by
  simp [storeUnlockData, getUnlockIdentifier]

theorem pay_unasserted (hP : P.Unasserted) (w : World P) (id : Uint256) (dst : Address) (v : Uint256) (text : String) :
    Unasserted (w.pay id dst v text) := by
  simp [World.pay, hP.transfer]

theorem payPositive_unasserted (hP : P.Unasserted) (w : World P) (id : Uint256) (dst : Address) (v : Uint256)
    (text : String) : Unasserted (w.payPositive id dst v text) := by
  simp [World.payPositive, pay_unasserted hP]

theorem openChannel_unasserted (hs : Sound P w.ledger) (p1 p2 : Address) : Unasserted (openChannel w p1 p2) := by
  -- the next identifier has never been used
  have hunused (new : Uint256) (hnew : w.net.channelCounter.toNat + (1 : Uint256).toNat = new.toNat) :
      (w.net.channel new).state = .nonExistent := by
    have hdead := (hs.wf.unused hnew.symm).2
    have hstate := hs.used new
    rw [ledger_channel] at hdead hstate
    cases hcase : (w.net.channel new).state <;> rw [hcase] at hdead hstate <;> first | rfl | exact absurd trivial hdead |
      exact hstate.elim
  simp only [openChannel, isSafe, unasserted_bind, unasserted_require, unasserted_checkedAdd, unasserted_assertThat,
    getParticipantsHash_unasserted, unasserted_pure, checkedAdd_ok, true_and, implies_true, and_true]
  exact fun _ _ _ _ new hnew _ _ _ _ => hunused new hnew

theorem setTotalDepositFor_unasserted (hP : P.Unasserted) (w : World P) (id : Uint256) (p q src : Address) (d : Uint256) :
    Unasserted (setTotalDepositFor w id p d q src) := by
  have hadded (deposit : Uint256) : deposit + (d - deposit) = d := by bv_omega
  simp [setTotalDepositFor, World.pull, hP.transferFrom, hadded]

/-- the withdraw of an Opened channel without balance proofs -/
theorem setTotalWithdraw2_unasserted (hP : P.Unasserted) (hu : Unproved (w.net.channel id)) (d : WithdrawInput) :
    Unasserted (setTotalWithdraw2 w c id d) := by
  simp only [setTotalWithdraw2, setTotalWithdraw2Calling, isOpen, recoverAddressFromWithdrawMessage, unasserted_bind,
    unasserted_require, require_ok, hP.ecverify, getChannelIdentifier_unasserted, unasserted_checkedAdd, checkedAdd_ok,
    unasserted_checkedSub, checkedSub_ok, unasserted_assertThat, pay_unasserted hP, unasserted_pure, true_and, and_true,
    implies_true]
  intro _ hopen _ _ _ _ _ _ _ _ q _ _ _ _ _ dep hdep _ _ _ _ _ _ v hv _ _ _ _ sum hsum
  refine ⟨BitVec.toNat_inj.1 (by omega), fun _ _ w1 hpay => ?_⟩
  -- after the payment the participants have the deposits and the nonces they had before
  have hsame (p : Address) : (w1.net.participant id p).deposit = (w.net.participant id p).deposit ∧
      (w1.net.participant id p).nonce = (w.net.participant id p).nonce := by
    rw [(pay_ok hpay).1, TokenNetwork.participant, TokenNetwork.setParticipant, TokenNetwork.channel, Dict.get?_set_self]
    simp only [Option.getD_some, Dict.get?_set]
    split_ifs with hp
    · subst hp
      exact ⟨rfl, rfl⟩
    · exact ⟨rfl, rfl⟩
  have hnonces := hu (by rw [hopen]; decide)
  simp only [id_eq, (hsame _).1, (hsame _).2]
  exact ⟨BitVec.le_def.2 (by omega), fun _ _ => ⟨BitVec.le_def.2 (by omega), fun _ _ =>
    ⟨(hnonces d.participant).1, fun _ _ => (hnonces q).1⟩⟩⟩

theorem withdrawPositive_unasserted (hP : P.Unasserted) (hu : Unproved (w.net.channel id)) (d : WithdrawInput) :
    Unasserted (withdrawPositive w c id d) := by
  simp [withdrawPositive, setTotalWithdraw2_unasserted hP hu]

theorem cooperativeSettle_unasserted (hP : P.Unasserted) (hpairs : P.PairsDistinct) (hs : Sound P w.ledger)
    (d1 d2 : WithdrawInput) : Unasserted (cooperativeSettle w c id d1 d2) := by
  have hfirst := withdrawPositive_unasserted (c := c) hP (hs.unproved id) d1
  have hsecond (w1 : World P) (h1 : withdrawPositive w c id d1 = .ok w1) : Unasserted (withdrawPositive w1 c id d2) :=
    withdrawPositive_unasserted hP
      ((sound_steps hpairs hs (steps (withdrawPositive_effects (x := .cooperativeSettle id d1 d2) h1))).unproved id) d2
  simp only [cooperativeSettle, isOpen, unasserted_bind, unasserted_require, getChannelIdentifier_unasserted,
    unasserted_checkedAdd, hfirst, removeChannelData_unasserted, unasserted_pure, true_and, and_true, implies_true]
  exact fun _ _ _ _ _ _ _ _ _ _ _ _ _ _ => hsecond

theorem closeChannel_unasserted (hP : P.Unasserted) :
    Unasserted (closeChannel w c id nonClosing closing hash nonce additional sig1 sig2) := by
  simp [closeChannel, isOpen, closingBalanceProof, recoverAddressFromBalanceProof,
    recoverAddressFromBalanceProofCounterSignature, hP.ecverify]

theorem updateNonClosingBalanceProof_unasserted (hP : P.Unasserted) :
    Unasserted (updateNonClosingBalanceProof w id closing nonClosing hash nonce additional sig1 sig2) := by
  simp [updateNonClosingBalanceProof, recoverAddressFromBalanceProof, recoverAddressFromBalanceProofCounterSignature,
    hP.ecverify]

theorem getSettleTransferAmounts_unasserted {p1 p2 : Participant} (h : Covered p1 p2) (t1 l1 t2 l2 : Uint256) :
    Unasserted (getSettleTransferAmounts p1 t1 l1 p2 t2 l2) := by
  by_cases ho : TransfersOrdered t1 l1 t2 l2
  · obtain ⟨r, hr, -⟩ := getSettleTransferAmounts_ok h t1 l1 t2 l2 ho
    rw [hr]
    exact unasserted_ok r
  · rw [getSettleTransferAmounts_refused h ho]
    exact nofun

theorem settleChannel2_unasserted (hP : P.Unasserted) (hpairs : P.PairsDistinct) (hw : Wf P w.ledger) (i1 i2 : SettleInput) :
    Unasserted (settleChannel2 w c id i1 i2) := by
  have hamounts (hi : getChannelIdentifier w i1.participant i2.participant = .ok id)
      (hclosed : (w.net.channel id).state = .closed) :=
    getSettleTransferAmounts_unasserted (hw.covered_of_pair (hw.pair_of_id hpairs (getChannelIdentifier_ok.1 hi).2
      (live_iff.2 (.inr hclosed))).2) i1.transferredAmount i1.lockedAmount i2.transferredAmount i2.lockedAmount
  simp only [ledger_participant] at hamounts
  simp only [settleChannel2, unasserted_bind, getChannelIdentifier_unasserted, unasserted_require, require_ok,
    removeChannelData_unasserted, storeUnlockData_unasserted, payPositive_unasserted hP, true_and, and_true, implies_true]
  rintro i hi _ rfl _ hclosed _ _ _ _ _ _
  exact hamounts hi hclosed

theorem unlockedLoop_unasserted (registry : Dict Bytes Uint256) (locks : Bytes) (fuel i : ℕ) (total : Uint256) :
    Unasserted (unlockedLoop registry locks fuel i total) := by
  induction fuel generalizing i total with
  | zero => exact unasserted_ok total
  | succ fuel ih => simp [unlockedLoop, ih]

theorem unlock_unasserted (hP : P.Unasserted) (receiver sender : Address) (locks : Bytes) :
    Unasserted (unlock w id receiver sender locks) := by
  simp only [unlock, getHashAndUnlockedAmount, getUnlockIdentifier, unasserted_bind, getChannelIdentifier_unasserted,
    unasserted_require, require_ok, unlockedLoop_unasserted, unasserted_checkedSub, checkedSub_ok, payPositive_unasserted hP,
    unasserted_assertThat, unasserted_pure, true_and, and_true, implies_true]
  intro _ _ _ _ _ _ _ _ _ _ _ _ _ _ returned hreturned _ _ _ _
  exact ⟨BitVec.le_def.2 (by omega), fun _ _ => BitVec.le_def.2 (by omega)⟩

/-- **No assertion fails.** -/
theorem call_unasserted (hP : P.Unasserted) (hpairs : P.PairsDistinct) (hs : Sound P w.ledger) (c : Ctx P) (x : Call P) :
    Unasserted (call w c x) := by
  cases x with
  | openChannel p1 p2 => simp [call, openChannel_unasserted hs]
  | openChannelWithDeposit p1 p2 d =>
    simp [call, openChannelWithDeposit, isSafe, openChannel_unasserted hs, setTotalDepositFor_unasserted hP]
  | setTotalDeposit id p d q => simp [call, setTotalDeposit, isSafe, isOpen, setTotalDepositFor_unasserted hP]
  | setTotalWithdraw id => simp [call, setTotalWithdraw, isOpen, setTotalWithdraw2_unasserted hP (hs.unproved id)]
  | setTotalWithdraw2 id => exact setTotalWithdraw2_unasserted hP (hs.unproved id) _
  | cooperativeSettle => exact cooperativeSettle_unasserted hP hpairs hs _ _
  | closeChannel => exact closeChannel_unasserted hP
  | updateNonClosingBalanceProof => exact updateNonClosingBalanceProof_unasserted hP
  | settleChannel | settleChannel2 => exact settleChannel2_unasserted hP hpairs hs.wf _ _
  | unlock => exact unlock_unasserted hP _ _ _
  | _ => simp [call, deprecateNetwork, removeLimits, changeController, isSafe, onlyController]

end Assertions

/-! ## Runs -/

section Runs

variable {P : Platform} {w : World P} {id : Uint256}

/-- the channels of the contract, as its functions rely on them -/
structure ChannelsSound (w : World P) : Prop where
  /-- the pair of a channel is mapped to it exactly while it is Opened or Closed -/
  indexed : ∀ {id p1 p2}, .channelOpened id p1 p2 ∈ w.logs →
    ((w.net.participantsHashToChannelIdentifier.get? (pairHash P p1 p2)).getD 0 = id ↔
      (w.net.channel id).state = .opened ∨ (w.net.channel id).state = .closed)
  /-- what is mapped is a channel that was opened for the pair -/
  known : ∀ {p1 p2 id}, (w.net.participantsHashToChannelIdentifier.get? (pairHash P p1 p2)).getD 0 = id → id ≠ 0 →
    .channelOpened id p1 p2 ∈ w.logs ∨ .channelOpened id p2 p1 ∈ w.logs
  /-- distinct pairs have distinct identifiers -/
  injective : ∀ {p1 p2 q1 q2 id}, (w.net.participantsHashToChannelIdentifier.get? (pairHash P p1 p2)).getD 0 = id →
    (w.net.participantsHashToChannelIdentifier.get? (pairHash P q1 q2)).getD 0 = id → id ≠ 0 →
    p1 = q1 ∧ p2 = q2 ∨ p1 = q2 ∧ p2 = q1
  /-- a channel that exists has an identifier up to the counter -/
  counted : ∀ {id}, (w.net.channel id).state ≠ .nonExistent →
    ((w.net.channel id).state = .opened ∨ (w.net.channel id).state = .closed) ∧ 0 < id.toNat ∧
      id.toNat ≤ w.net.channelCounter.toNat
  /-- the identifiers are given out in order, each one once -/
  numbered : (w.logs.filterMap Log.opening).map (fun o => o.1.toNat) = List.range' 1 w.net.channelCounter.toNat
  unproved : ∀ {id}, (w.net.channel id).state = .opened → ∀ p,
    (w.net.participant id p).nonce = 0 ∧ (w.net.participant id p).balanceHash = zeroHash
  members : ∀ {id p}, w.net.participant id p ≠ Participant.zero →
    ∃ p1 p2, .channelOpened id p1 p2 ∈ w.logs ∧ (p = p1 ∨ p = p2)
  covered : ∀ {id p1 p2}, .channelOpened id p1 p2 ∈ w.logs →
    Covered (w.net.participant id p1) (w.net.participant id p2)

theorem Sound.live_of_id (h : Sound P w.ledger) {p q : Address}
    (hid : (w.net.participantsHashToChannelIdentifier.get? (pairHash P p q)).getD 0 = id) (hne : id ≠ 0) :
    (w.net.channel id).state.live := by
  cases hg : w.net.participantsHashToChannelIdentifier.get? (pairHash P p q) with
  | none =>
    rw [hg, Option.getD_none] at hid
    exact absurd hid.symm hne
  | some id' =>
    rw [hg, Option.getD_some] at hid
    subst hid
    obtain ⟨p1, p2, -, -, hlive⟩ := (h.wf.pairs _ _).1 hg
    exact hlive

theorem Sound.channels (hP : P.PairsDistinct) (h : Sound P w.ledger) : ChannelsSound w where
  indexed := by
    intro id p1 p2 hopened
    have ho := mem_opened.2 hopened
    rw [← live_iff]
    constructor
    · intro hid
      refine h.live_of_id hid fun hzero => ?_
      have hpos := (h.wf.range ho).1
      rw [hzero] at hpos
      exact absurd hpos (by decide)
    · intro hlive
      have hg := (h.wf.pairs (pairHash P p1 p2) id).2 ⟨p1, p2, ho, rfl, hlive⟩
      rw [ledger_pairs] at hg
      rw [hg]
      rfl
  known := by
    intro p1 p2 id hid hne
    rcases (h.wf.pair_of_id hP hid (h.live_of_id hid hne)).2 with ho | ho
    · exact .inl (mem_opened.1 ho)
    · exact .inr (mem_opened.1 ho)
  injective := by
    intro p1 p2 q1 q2 id hid hid' hne
    have hlive := h.live_of_id hid hne
    have ho := (h.wf.pair_of_id hP hid hlive).2
    have ho' := (h.wf.pair_of_id hP hid' hlive).2
    rcases ho with ho | ho <;> rcases ho' with ho' | ho' <;> have := h.wf.unique ho ho' <;> tauto
  counted := by
    intro id hne
    have hlive : (w.net.channel id).state.live := by
      have hused : (w.net.channel id).state.used := h.used id
      cases hcase : (w.net.channel id).state <;> rw [hcase] at hused hne
      · exact absurd rfl hne
      · trivial
      · trivial
      · exact hused.elim
      · exact hused.elim
    obtain ⟨p1, p2, ho⟩ := h.wf.live_opened hlive
    exact ⟨live_iff.1 hlive, h.wf.range ho⟩
  numbered := h.numbered
  unproved := by
    intro id hopen p
    exact h.unproved id (by rw [ledger_channel, hopen]; decide) p
  members := by
    intro id p hne
    have hmem : p ∈ (w.net.channel id).participants.keys := by
      by_contra hnot
      apply hne
      rw [TokenNetwork.participant, Dict.get?_eq_none.2 hnot]
      rfl
    obtain ⟨hlive, hpair⟩ := h.wf.members hmem
    obtain ⟨p1, p2, ho⟩ := h.wf.live_opened hlive
    exact ⟨p1, p2, mem_opened.1 ho, hpair p1 p2 ho⟩
  covered := fun hopened => h.wf.covered (mem_opened.2 hopened)

end Runs

/-- **The channels of the contract.** After any transactions by any callers, from a fresh deployment: the index, the
identifiers and the channels are in order; a Closed channel's nonces grow for as long as it is Closed; a removed channel is
never there again; and no assertion fails in the next call. -/
theorem channels_sound (P : Platform) (hP : P.PairsDistinct) (w : World P) (h : Initial w) (txs : List (Ctx P × Call P)) :
    ChannelsSound (run w txs) ∧
    (∀ txs' id p, ((run w txs).net.channel id).state = .closed → ((run w (txs ++ txs')).net.channel id).state = .closed →
      ((run w txs).net.participant id p).nonce ≤ ((run w (txs ++ txs')).net.participant id p).nonce) ∧
    (∀ txs' id p1 p2, .channelOpened id p1 p2 ∈ (run w txs).logs → ((run w txs).net.channel id).state = .nonExistent →
      ((run w (txs ++ txs')).net.channel id).state = .nonExistent) ∧
    (P.Unasserted → ∀ c x, call (run w txs) c x ≠ .error .assertion) := by
  have hsound := sound_run hP h txs
  have hchannels := hsound.channels hP
  have happend : ∀ txs', run w (txs ++ txs') = run (run w txs) txs' := fun txs' => List.foldl_append
  refine ⟨hchannels, fun txs' id p hclosed hclosed' => ?_, fun txs' id p1 p2 hopened hdead => ?_, fun hq c x => ?_⟩
  · have hexists : ((run w txs).net.channel id).state ≠ .nonExistent := by
      rw [hclosed]
      decide
    have hid := (hchannels.counted hexists).2.2
    rw [happend] at hclosed' ⊢
    rcases closed_moves (steps_channel hP hsound.wf (run_steps hP hsound.wf txs') hid) hclosed with hdead | ⟨-, hle⟩
    · cases hclosed'.symm.trans hdead
    · exact hle p
  · have hid := (hsound.wf.range (mem_opened.2 hopened)).2
    have hmoves := steps_channel hP hsound.wf (run_steps hP hsound.wf txs') hid
    have hsame := dead_moves hmoves (by rw [ledger_channel, hdead]; exact not_false)
    rw [happend, ← ledger_channel, hsame]
    exact hdead
  · exact call_unasserted hq hP hsound c x

/-- **A token that calls back.** Account 7 has a channel with account 8 and a deposit of 10, and withdraws 5. In the transfer
the token deposits 10 more for account 7, and the assertion that the deposits of the channel are at least that of account 7
fails. -/
theorem reentered_withdraw_asserts :
    let w := run selfStart [(selfCtx 1, .openChannel 7 8), (selfCtx 1, .setTotalDeposit 1 7 10 8)]
    let deposit := fun w => exec w (selfCtx 1, .setTotalDeposit 1 7 20 8)
    Initial selfStart ∧ setTotalWithdraw2Calling deposit w (selfCtx 1) 1 ⟨7, 5, 9, [7], [8]⟩ = .error .assertion :=
  ⟨selfStart_initial, rfl⟩

/-- a channel that is opened, funded and closed -/
theorem channels_sound_closed : ChannelsSound (run selfStart (selfRun.take 3)) ∧
    ((run selfStart (selfRun.take 3)).net.channel 1).state = .closed :=
  ⟨(channels_sound _ (standardPlatform_lawful 9).pairsDistinct _ selfStart_initial (selfRun.take 3)).1, by decide +kernel⟩

end Gatecoin.Contracts
