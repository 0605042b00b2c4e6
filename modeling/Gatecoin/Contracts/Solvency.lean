/-
Solvency of the TokenNetwork contract: the calls of the contract refine the ledger, so its books hold in every run.

`World.ledger` reads the ledger off a world. `call_effects`: a successful transaction is a sequence of ledger effects, so
`Wf` and `Books` hold after every run from a fresh deployment (`run_ledger`).

Main result: `tokens_conserved`, for every run of any transactions by any callers. The contract's own token balance is the
sum over the Opened and Closed channels of D1 + D2 - W1 - W2, plus the stored unlock amounts, plus what the contract has
paid to its own address; every channel pays exactly out of its own deposits; no unlock is paid twice. The last term is
zero unless the contract itself is a participant of a channel, which `openChannel` does not exclude:
`self_channel_keeps_tokens` is a run that settles such a channel.

`totals_never_fall`: no call lowers a total deposit or a total withdraw, and no identifier is used again.
-/
import Gatecoin.Contracts.Books
import Gatecoin.Contracts.StandardToken

namespace Gatecoin.Contracts

open Gatecoin.Core Relation TokenNetwork World ReflTransGen ChannelState

section Refinement

variable {P : Platform} {a b : Address} {p q src : Address} {i1 i2 : SettleInput} {k k' : Ledger} {d1 d2 : WithdrawInput}
  {locks : Bytes} {x : Call P} {v : Uint256} {nonce : Uint256} {hash : Bytes} {dst : Address} {text : String}
  {p1 p2 : Address} {additional sig1 sig2 : Bytes} {nonClosing closing : Address} {receiver sender : Address}
  {w w' : World P} {id : Uint256} {c : Ctx P} {d : WithdrawInput}

/-! ## The ledger of a world -/

def Log.opening : Log → Option (Uint256 × Address × Address)
  | .channelOpened id p1 p2 => some (id, p1, p2)
  | _ => none

def Log.unlocking : Log → Option (Uint256 × Address × Address)
  | .channelUnlocked id receiver sender _ _ _ => some (id, receiver, sender)
  | _ => none

def World.ledger (w : World P) : Ledger where
  counter := w.net.channelCounter.toNat
  channels := w.net.channels
  pairs := w.net.participantsHashToChannelIdentifier
  unlocks := w.net.unlockIdentifierToUnlockData
  balance := (P.balanceOf w.token P.self).toNat
  opened := w.logs.filterMap Log.opening
  unlocked := w.logs.filterMap Log.unlocking
  paid := w.paid
  taken := w.taken

@[simp] theorem ledger_channel (w : World P) (id : Uint256) : w.ledger.channel id = w.net.channel id := rfl

@[simp] theorem ledger_participant (w : World P) (id : Uint256) (p : Address) :
    w.ledger.participant id p = w.net.participant id p := rfl

@[simp] theorem ledger_pairs (w : World P) : w.ledger.pairs = w.net.participantsHashToChannelIdentifier := rfl

/-- an event that is neither an opening nor an unlock does not concern the ledger -/
theorem ledger_emit (w : World P) {l : Log} (ho : l.opening = none) (hu : l.unlocking = none) :
    (w.emit l).ledger = w.ledger := by
  simp [ledger, emit, ho, hu]

/-! ## Taking the functions apart -/

theorem getParticipantsHash_ok {h : Bytes} :
    getParticipantsHash P a b = .ok h ↔ (a ≠ 0 ∧ b ≠ 0 ∧ a ≠ b) ∧ pairHash P a b = h := by
  simp only [getParticipantsHash, do_ok, pairHash]
  split_ifs <;> simp [and_assoc]

theorem getChannelIdentifier_ok : getChannelIdentifier w a b = .ok id ↔
      (a ≠ 0 ∧ b ≠ 0 ∧ a ≠ b) ∧ (w.net.participantsHashToChannelIdentifier.get? (pairHash P a b)).getD 0 = id := by
  simp only [getChannelIdentifier, do_ok, getParticipantsHash_ok]
  constructor
  · rintro ⟨-, -, -, -, -, -, h, ⟨hne, rfl⟩, rfl⟩
    exact ⟨hne, rfl⟩
  · rintro ⟨hne, rfl⟩
    exact ⟨(), hne.1, (), hne.2.1, (), hne.2.2, _, ⟨hne, rfl⟩, rfl⟩

theorem getUnlockIdentifier_ok {s r : Address} {key : Bytes} :
    getUnlockIdentifier P id s r = .ok key ↔ s ≠ r ∧ unlockKey P id s r = key := by
  simp only [getUnlockIdentifier, unlockKey, do_ok, exists_and_left, exists_const]

theorem pay_ok (h : w.pay id dst v text = .ok w') :
    w'.net = w.net ∧ w'.registry = w.registry ∧ w'.logs = w.logs ∧ w'.taken = w.taken ∧
      w'.paid = w.paid ++ [⟨id, dst, v⟩] ∧ P.transfer w.token P.self dst v = .ok (true, w'.token) := by
  simp only [pay, do_ok] at h
  obtain ⟨⟨done, token⟩, ht, -, hd, rfl⟩ := h
  simp only at hd
  subst hd
  exact ⟨rfl, rfl, rfl, rfl, rfl, ht⟩

theorem pull_ok {src : Address} (h : w.pull id src v text = .ok w') :
    w'.net = w.net ∧ w'.registry = w.registry ∧ w'.logs = w.logs ∧ w'.paid = w.paid ∧
      w'.taken = w.taken ++ [⟨id, src, v⟩] ∧ P.transferFrom w.token P.self src P.self v = .ok (true, w'.token) := by
  simp only [pull, do_ok] at h
  obtain ⟨⟨done, token⟩, ht, -, hd, rfl⟩ := h
  simp only at hd
  subst hd
  exact ⟨rfl, rfl, rfl, rfl, rfl, ht⟩

/-- the contract's own balance after a payment: what it pays to itself stays -/
theorem moved_self {t t' : P.TokenState} (h : P.Moved t t' P.self dst v) :
    (P.balanceOf t' P.self).toNat + v.toNat = (P.balanceOf t P.self).toNat + totalTo P.self [⟨id, dst, v⟩] := by
  have := h P.self
  simp only [if_true] at this
  by_cases hd : dst = P.self
  · simpa [totalTo, total, hd] using this
  · simpa [totalTo, total, hd, Ne.symm hd] using this

/-- the payment list of a conditional payment -/
def due (id : Uint256) (dst : Address) (v : Uint256) : List Payment := if 0 < v then [⟨id, dst, v⟩] else []

theorem total_due (id : Uint256) (dst : Address) (v : Uint256) : total (due id dst v) = v.toNat := by
  unfold due
  split_ifs with hv
  · simp [total]
  · have : v.toNat = 0 := by simpa [BitVec.lt_def] using hv
    simp [total, this]

theorem mem_due {x : Payment} (h : x ∈ due id dst v) : x.channel = id ∧ x.account = dst := by
  unfold due at h
  split_ifs at h
  · rw [List.mem_singleton.1 h]
    exact ⟨rfl, rfl⟩
  · exact absurd h List.not_mem_nil

theorem due_paysTo (id : Uint256) (p q : Address) (v u : Uint256) : PaysTo id p q (due id p v ++ due id q u) := by
  intro x hx
  rcases List.mem_append.1 hx with hx | hx
  · exact ⟨(mem_due hx).1, .inl (mem_due hx).2⟩
  · exact ⟨(mem_due hx).1, .inr (mem_due hx).2⟩

/-- a payment that is made when its amount is positive -/
theorem payPositive_ok (h : w.payPositive id dst v text = .ok w') :
    w'.net = w.net ∧ w'.registry = w.registry ∧ w'.logs = w.logs ∧ w'.taken = w.taken ∧
      w'.paid = w.paid ++ due id dst v ∧ (P.Lawful → (P.balanceOf w'.token P.self).toNat + v.toNat =
        (P.balanceOf w.token P.self).toNat + totalTo P.self (due id dst v)) := by
  unfold due
  unfold payPositive at h
  split_ifs at h ⊢ with hv
  · obtain ⟨h1, h2, h3, h4, h5, hm⟩ := pay_ok h
    exact ⟨h1, h2, h3, h4, h5, fun hP => moved_self (hP.transfer_moves _ _ _ _ _ hm)⟩
  · have hz : v.toNat = 0 := by simpa [BitVec.lt_def] using hv
    rw [pure_ok] at h
    subst h
    exact ⟨rfl, rfl, rfl, rfl, by simp, fun _ => by simp [totalTo, total, hz]⟩

/-! ## Every call is a sequence of effects -/

/-- what the opening of a channel does -/
theorem openChannel_ok (h : openChannel w p1 p2 = .ok (id, w')) : id.toNat = w.ledger.counter + 1 ∧
    (p1 ≠ 0 ∧ p2 ≠ 0 ∧ p1 ≠ p2) ∧ (w.net.participantsHashToChannelIdentifier.get? (pairHash P p1 p2)).getD 0 = 0 ∧
      w'.ledger = w.ledger.openFor P id p1 p2 := by
  simp only [openChannel, isSafe, do_ok, assertThat_ok, checkedAdd_ok, getParticipantsHash_ok, Prod.mk.injEq] at h
  obtain ⟨-, -, -, -, id', hid, hh, ⟨hne, rfl⟩, -, hpair, -, -, rfl, rfl⟩ := h
  have hone : (1 : Uint256).toNat = 1 := rfl
  refine ⟨by simp only [ledger]; omega, hne, hpair, ?_⟩
  simp [ledger, emit, Ledger.openFor, Ledger.channel, Log.opening, Log.unlocking, setState, channel]

theorem openChannel_effects (h : openChannel w p1 p2 = .ok (id, w')) :
    Effect x w.ledger w'.ledger ∧ (w'.ledger.channel id).state = .opened := by
  obtain ⟨hid, ⟨h1, h2, h12⟩, hpair, hledger⟩ := openChannel_ok h
  rw [hledger, channel_openFor, if_pos rfl]
  exact ⟨.opened w.ledger id p1 p2 hid h1 h2 h12 hpair, rfl⟩

/-- the unchecked deposit arithmetic does not wrap when its requirements hold -/
theorem deposit_exact {old added new : Uint256} (hle : added ≤ new) (heq : old + added = new) :
    new.toNat = old.toNat + added.toNat := by
  bv_omega

theorem no_wrap_of_le_add {a b : Uint256} (h : a ≤ a + b) : a.toNat + b.toNat < 2 ^ 256 := by
  bv_omega

/-- what a deposit does: the participant's deposit becomes the given total, and the difference is taken -/
theorem setTotalDepositFor_ok {d : Uint256} (h : setTotalDepositFor w id p d q src = .ok w') :
    (w.net.participantsHashToChannelIdentifier.get? (pairHash P p q)).getD 0 = id ∧
      d.toNat = (w.net.participant id p).deposit.toNat + (d - (w.net.participant id p).deposit).toNat ∧
      d.toNat + (w.net.participant id q).deposit.toNat < 2 ^ 256 ∧
      w'.net = w.net.setParticipant id p { w.net.participant id p with deposit := d } ∧
      w'.logs = w.logs ++ [.channelNewDeposit id p d] ∧ w'.paid = w.paid ∧
      w'.taken = w.taken ++ [⟨id, src, d - (w.net.participant id p).deposit⟩] ∧
      P.transferFrom w.token P.self src P.self (d - (w.net.participant id p).deposit) = .ok (true, w'.token) := by
  simp only [setTotalDepositFor, do_ok, assertThat_ok, getChannelIdentifier_ok] at h
  obtain ⟨i, ⟨-, hid⟩, -, hi, -, -, -, -, -, -, -, hle, -, heq, -, -, -, hwrap, h⟩ := h
  rw [← hi] at hid
  obtain ⟨hnet, -, hlogs, hpaid, htaken, hmove⟩ := pull_ok h
  exact ⟨hid, deposit_exact hle heq, no_wrap_of_le_add hwrap, hnet, hlogs, hpaid, htaken, hmove⟩

/-- the ledger after one participant is written -/
theorem ledger_write {st : Participant} {state : ChannelState} {l : Log} (hstate : (w.net.channel id).state = state)
    (hnet : w'.net = w.net.setParticipant id p st) (hlogs : w'.logs = w.logs ++ [l]) (ho : l.opening = none)
    (hu : l.unlocking = none) : w'.ledger = { w.ledger.setParticipant id state p st with
      balance := (P.balanceOf w'.token P.self).toNat
      paid := w'.paid
      taken := w'.taken } := by
  subst hstate
  simp only [ledger, hnet, hlogs]
  simp [ho, hu, Ledger.setParticipant, setParticipant, Ledger.channel, channel]

theorem setTotalDepositFor_effects {d : Uint256} (hsrc : src ≠ P.self) (hopen : (w.net.channel id).state = .opened)
    (h : setTotalDepositFor w id p d q src = .ok w') : Effect x w.ledger w'.ledger := by
  obtain ⟨hid, hdep, hfit, hnet, hlogs, hpaid, htaken, hmove⟩ := setTotalDepositFor_ok h
  rw [ledger_write hopen hnet hlogs rfl rfl, hpaid, htaken]
  refine .deposited w.ledger id p q src d _ _ hid hopen hdep hfit fun hP => ?_
  have hbal := hP.transferFrom_moves _ _ _ _ _ _ hmove P.self
  simp only [if_neg hsrc.symm, if_true, add_zero] at hbal
  exact hbal

/-- what a withdraw does: the participant's withdrawn amount becomes the given total, and the difference is paid -/
theorem setTotalWithdraw2_ok (h : setTotalWithdraw2 w c id d = .ok w') :
    ∃ q v, (w.net.participantsHashToChannelIdentifier.get? (pairHash P d.participant q)).getD 0 = id ∧
      (w.net.channel id).state = .opened ∧
      d.totalWithdraw.toNat = (w.net.participant id d.participant).withdrawnAmount.toNat + v.toNat ∧
      d.totalWithdraw.toNat + (w.net.participant id q).withdrawnAmount.toNat ≤
        (w.net.participant id d.participant).deposit.toNat + (w.net.participant id q).deposit.toNat ∧
      w'.net = w.net.setParticipant id d.participant
        { w.net.participant id d.participant with withdrawnAmount := d.totalWithdraw } ∧
      w'.logs = w.logs ++ [.channelWithdraw id d.participant d.totalWithdraw] ∧ w'.taken = w.taken ∧
      w'.paid = w.paid ++ [⟨id, d.participant, v⟩] ∧
      P.transfer w.token P.self d.participant v = .ok (true, w'.token) := by
  simp only [setTotalWithdraw2, setTotalWithdraw2Calling, isOpen, do_ok, assertThat_ok, getChannelIdentifier_ok,
    checkedAdd_ok, checkedSub_ok] at h
  obtain ⟨-, hopen, -, -, -, -, signer, -, -, -, q, -, i, ⟨-, hid⟩, -, hi, dep, hdep, wit, hwit, -, hcov, -, -, v, hv, -, -,
    -, -, sum, -, -, -, w1, hpay, -, -, -, -, -, -, -, -, rfl⟩ := h
  rw [← hi] at hid
  obtain ⟨hnet, -, hlogs, htaken, hpaid, hmove⟩ := pay_ok hpay
  have hcov' := BitVec.le_def.1 hcov
  exact ⟨q, v, hid, hopen, hv, by omega, hnet, hlogs, htaken, hpaid, hmove⟩

theorem setTotalWithdraw2_effects (h : setTotalWithdraw2 w c id d = .ok w') : Effect x w.ledger w'.ledger := by
  obtain ⟨q, v, hid, hopen, hv, hcov, hnet, hlogs, htaken, hpaid, hmove⟩ := setTotalWithdraw2_ok h
  rw [ledger_write hopen hnet hlogs rfl rfl, hpaid, htaken]
  exact .withdrawn w.ledger id d.participant q d.totalWithdraw v _ hid hopen hv hcov fun hP =>
    moved_self (hP.transfer_moves _ _ _ _ _ hmove)

theorem updateBalanceProofData_ok {n n' : TokenNetwork} {p : Address}
    (h : updateBalanceProofData n id p nonce hash = .ok n') : (n.participant id p).nonce < nonce ∧
    n' = n.setParticipant id p { n.participant id p with nonce := nonce, balanceHash := hash } := by
  simp only [updateBalanceProofData, do_ok] at h
  obtain ⟨-, hlt, rfl⟩ := h
  exact ⟨hlt, rfl⟩

/-- the participant's balance proof is replaced, its amounts are not -/
theorem updateBalanceProofData_effects {n' : TokenNetwork} {p q : Address}
    (hid : (w.net.participantsHashToChannelIdentifier.get? (pairHash P p q)).getD 0 = id)
    (hclosed : (w.net.channel id).state = .closed) (h : updateBalanceProofData w.net id p nonce hash = .ok n')
    (hx : x.Proves id) : Effect x w.ledger (ledger { w with net := n' }) := by
  obtain ⟨hlt, rfl⟩ := updateBalanceProofData_ok h
  have he := Effect.proved w.ledger id p q nonce hash hid hclosed hlt hx
  rw [← hclosed] at he
  exact he

theorem updateNonClosingBalanceProof_effects {closing nonClosing : Address}
    (h : updateNonClosingBalanceProof w id closing nonClosing hash nonce additional sig1 sig2 = .ok w') (hx : x.Proves id) :
    Effect x w.ledger w'.ledger := by
  simp only [updateNonClosingBalanceProof, do_ok, getChannelIdentifier_ok] at h
  obtain ⟨i, ⟨-, hid⟩, -, hi, -, -, -, -, -, hclosed, s1, -, -, -, s2, -, -, -, -, -, n', hn, rfl⟩ := h
  rw [← hi] at hid
  rw [ledger_emit _ rfl rfl]
  exact updateBalanceProofData_effects hid hclosed hn hx

/-- the network after a participant has closed a channel, before the proof of the other one is stored -/
def TokenNetwork.closedBy (n : TokenNetwork) (id : Uint256) (closing : Address) (settleable : Uint256) : TokenNetwork :=
  let net := n.setState id .closed
  { net.setParticipant id closing { net.participant id closing with isTheCloser := true } with
    settleableAfter := n.settleableAfter.set id settleable }

theorem channels_closedBy (n : TokenNetwork) (id : Uint256) (closing : Address) (settleable : Uint256) :
    (n.closedBy id closing settleable).channels = n.channels.set id ⟨.closed, (n.channel id).participants.set closing
      { n.participant id closing with isTheCloser := true }⟩ := by
  simp [closedBy, setParticipant, setState, participant,
    channel]

theorem channel_closedBy (n : TokenNetwork) (id : Uint256) (closing : Address) (settleable : Uint256) :
    (n.closedBy id closing settleable).channel id =
      ⟨.closed, (n.channel id).participants.set closing { n.participant id closing with isTheCloser := true }⟩ := by
  rw [channel, channels_closedBy, Dict.get?_set_self, Option.getD_some]

/-- what a close does: the channel is closed, and a proof of the other participant is stored if there is one -/
theorem closeChannel_ok (h : closeChannel w c id nonClosing closing hash nonce additional sig1 sig2 = .ok w') :
    ∃ settleable n', (w.net.channel id).state = .opened ∧ closing ≠ nonClosing ∧
      (w.net.participantsHashToChannelIdentifier.get? (pairHash P closing nonClosing)).getD 0 = id ∧
      (n' = w.net.closedBy id closing settleable ∨
        updateBalanceProofData (w.net.closedBy id closing settleable) id nonClosing nonce hash = .ok n') ∧
      w' = emit { w with net := n' } (.channelClosed id closing nonce hash) := by
  simp only [closeChannel, isOpen, do_ok, getChannelIdentifier_ok, checkedAdd_ok] at h
  obtain ⟨-, hopen, i, ⟨⟨-, -, hne⟩, hid⟩, -, hi, settleable, -, s1, -, -, -, n', hn, rfl⟩ := h
  refine ⟨settleable, n', hopen, hne, hi ▸ hid, ?_, rfl⟩
  unfold closingBalanceProof at hn
  split_ifs at hn
  · simp only [do_ok] at hn
    obtain ⟨a, -, -, rfl, hn⟩ := hn
    exact .inr hn
  · cases hn
    exact .inl rfl

theorem closeChannel_effects (h : closeChannel w c id nonClosing closing hash nonce additional sig1 sig2 = .ok w')
    (hends : x.Ends id) (hx : x.Proves id) : ReflTransGen (Effect x) w.ledger w'.ledger := by
  obtain ⟨settleable, n', hopen, -, hid, hn, rfl⟩ := closeChannel_ok h
  rw [ledger_emit _ rfl rfl]
  -- the state, and the flag of the closing participant
  have h1 : Effect x w.ledger (ledger { w with net := w.net.closedBy id closing settleable }) := by
    convert Effect.closed w.ledger id closing nonClosing hid hopen hends using 1
    simp only [ledger, channels_closedBy, Ledger.setParticipant]
    rfl
  rcases hn with rfl | hn
  · exact single h1
  · -- the data of the other participant
    refine (single h1).tail ?_
    refine updateBalanceProofData_effects (w := { w with net := w.net.closedBy id closing settleable }) (q := closing) ?_ ?_
      hn hx
    · rw [pairHash_comm]
      exact hid
    · simp [channel_closedBy]

theorem storeUnlockData_ok {i : SettleInput} {r : Address} (h : storeUnlockData w id i r = .ok w') :
    w' = { w with net := { w.net with unlockIdentifierToUnlockData := (Ledger.storeUnlock
      w.net.unlockIdentifierToUnlockData (unlockKey P id i.participant r) ⟨i.locksroot, i.lockedAmount⟩) } } := by
  unfold storeUnlockData at h
  unfold Ledger.storeUnlock
  split_ifs at h ⊢ with hz
  · exact (pure_ok.1 h).symm
  · simp only [do_ok, getUnlockIdentifier_ok] at h
    obtain ⟨key, ⟨-, rfl⟩, rfl⟩ := h
    rfl

theorem removeChannelData_ok (h : removeChannelData w id p1 p2 = .ok w') : w' = { w with net := { w.net with
      channels := w.net.channels.set id ⟨.nonExistent, ((w.net.channel id).participants.erase p1).erase p2⟩
      settleableAfter := w.net.settleableAfter.erase id
      participantsHashToChannelIdentifier :=
        w.net.participantsHashToChannelIdentifier.erase (pairHash P p1 p2) } } := by
  simp only [removeChannelData, do_ok, getParticipantsHash_ok] at h
  obtain ⟨hash, ⟨-, rfl⟩, rfl⟩ := h
  rfl

/-- what a settlement does: the amounts are those of `getSettleTransferAmounts`, paid and locked as such -/
theorem settleChannel2_ok (h : settleChannel2 w c id i1 i2 = .ok w') :
    ∃ a1 a2 l1 l2, getSettleTransferAmounts (w.net.participant id i1.participant) i1.transferredAmount i1.lockedAmount
        (w.net.participant id i2.participant) i2.transferredAmount i2.lockedAmount = .ok (a1, a2, l1, l2) ∧
      i1.participant ≠ i2.participant ∧
      (w.net.participantsHashToChannelIdentifier.get? (pairHash P i1.participant i2.participant)).getD 0 = id ∧
      (w.net.channel id).state = .closed ∧
      w'.ledger = w.ledger.settleFor P id i1.participant i2.participant ⟨i1.locksroot, l1⟩ ⟨i2.locksroot, l2⟩
        (due id i1.participant a1 ++ due id i2.participant a2) (P.balanceOf w'.token P.self).toNat ∧
      (P.Lawful → (P.balanceOf w'.token P.self).toNat + a1.toNat + a2.toNat = (P.balanceOf w.token P.self).toNat +
        totalTo P.self (due id i1.participant a1 ++ due id i2.participant a2)) := by
  simp only [settleChannel2, do_ok, getChannelIdentifier_ok] at h
  obtain ⟨i, ⟨⟨-, -, hne⟩, hid⟩, -, hi, -, hclosed, -, -, -, -, -, -, ⟨a1, a2, l1, l2⟩, hamounts, w1, hremove, w2, hstore1,
    w3, hstore2, w4, hpay1, hpay2⟩ := h
  rw [← hi] at hid
  obtain ⟨hn1, -, hl1, ht1, hp1, hb1⟩ := payPositive_ok hpay1
  obtain ⟨hn2, -, hl2, ht2, hp2, hb2⟩ := payPositive_ok hpay2
  rw [storeUnlockData_ok hstore2, storeUnlockData_ok hstore1, removeChannelData_ok hremove] at hn1 hl1 ht1 hp1 hb1
  refine ⟨a1, a2, l1, l2, hamounts, hne, hid, hclosed, ?_, ?_⟩
  · simp only [ledger, hn2, hn1, hl2, hl1, ht2, ht1, hp2, hp1]
    simp [emit, Log.opening, Log.unlocking, Ledger.settleFor, Ledger.channel, channel]
  · intro hP
    have hb1' : (P.balanceOf w4.token P.self).toNat + a1.toNat =
      (P.balanceOf w.token P.self).toNat + totalTo P.self (due id i1.participant a1) := hb1 hP
    have hb2' : (P.balanceOf w'.token P.self).toNat + a2.toNat =
      (P.balanceOf w4.token P.self).toNat + totalTo P.self (due id i2.participant a2) := hb2 hP
    rw [totalTo_append]
    clear hb1 hb2
    omega

theorem settleChannel2_effects (h : settleChannel2 w c id i1 i2 = .ok w') : Effect x w.ledger w'.ledger := by
  obtain ⟨a1, a2, l1, l2, hamounts, hne, hid, hclosed, hledger, hb⟩ := settleChannel2_ok h
  have hsum := getSettleTransferAmounts_sum hamounts
  rw [hledger]
  refine .settled w.ledger id _ _ _ _ _ _ hne hid (live_iff.2 (.inr hclosed)) (fun hopen => ?_) (due_paysTo _ _ _ _ _) ?_
    fun hP => ?_
  · cases hclosed.symm.trans hopen
  · simp only [total_append, total_due, ledger_participant, Participant.share]
    push_cast
    omega
  · rw [total_append, total_due, total_due, ← add_assoc]
    exact hb hP

theorem withdrawPositive_effects (h : withdrawPositive w c id d = .ok w') :
    ReflTransGen (Effect x) w.ledger w'.ledger := by
  unfold withdrawPositive at h
  split_ifs at h
  · exact single (setTotalWithdraw2_effects h)
  · rw [pure_ok] at h
    rw [h]

/-- after the withdraw of a cooperative settlement the participant has withdrawn at least the given total; deposits
and the other withdrawn amounts are as before -/
theorem withdrawPositive_grows (h : withdrawPositive w c id d = .ok w') :
    w'.net.participantsHashToChannelIdentifier = w.net.participantsHashToChannelIdentifier ∧
      (w'.net.channel id).state = (w.net.channel id).state ∧
      d.totalWithdraw.toNat ≤ (w'.net.participant id d.participant).withdrawnAmount.toNat ∧
      ∀ p, (w'.net.participant id p).deposit = (w.net.participant id p).deposit ∧
        (w.net.participant id p).withdrawnAmount.toNat ≤ (w'.net.participant id p).withdrawnAmount.toNat := by
  unfold withdrawPositive at h
  split_ifs at h with hz
  · obtain ⟨q, v, -, -, hv, -, hnet, -⟩ := setTotalWithdraw2_ok h
    have hpart : ∀ p, w'.net.participant id p = if p = d.participant then
        { w.net.participant id d.participant with withdrawnAmount := d.totalWithdraw } else w.net.participant id p := by
      intro p
      have := participant_setParticipant w.ledger id id (w.net.channel id).state d.participant p
        { w.net.participant id d.participant with withdrawnAmount := d.totalWithdraw }
      simp only [true_and] at this
      rw [hnet]
      exact this
    refine ⟨by rw [hnet]; rfl, by rw [hnet]; simp [channel, setParticipant], ?_, fun p => ?_⟩
    · rw [hpart, if_pos rfl]
    · rw [hpart]
      split_ifs with hp
      · subst hp
        exact ⟨rfl, by simp only; omega⟩
      · exact ⟨rfl, le_refl _⟩
  · rw [pure_ok] at h
    subst h
    have : d.totalWithdraw.toNat = 0 := by simpa [BitVec.lt_def] using hz
    exact ⟨rfl, rfl, by omega, fun p => ⟨rfl, le_refl _⟩⟩

/-- what a cooperative settlement does: two withdraws that reach the deposits, and the removal of the channel -/
theorem cooperativeSettle_ok (h : cooperativeSettle w c id d1 d2 = .ok w') :
    ∃ w1 w2, (w.net.channel id).state = .opened ∧ d1.participant ≠ d2.participant ∧
      (w.net.participantsHashToChannelIdentifier.get? (pairHash P d1.participant d2.participant)).getD 0 = id ∧
      d1.totalWithdraw.toNat + d2.totalWithdraw.toNat =
        (w.net.participant id d1.participant).deposit.toNat + (w.net.participant id d2.participant).deposit.toNat ∧
      withdrawPositive w c id d1 = .ok w1 ∧ withdrawPositive w1 c id d2 = .ok w2 ∧
      w'.ledger = w2.ledger.settleFor P id d1.participant d2.participant ⟨zeroHash, 0⟩ ⟨zeroHash, 0⟩ [] w2.ledger.balance := by
  simp only [cooperativeSettle, isOpen, do_ok, getChannelIdentifier_ok, checkedAdd_ok] at h
  obtain ⟨-, hopen, i, ⟨⟨-, -, hne⟩, hid⟩, -, hi, dep, hdep, wit, hwit, -, heq, -, -, w1, h1, w2, h2, w3, hremove, rfl⟩ := h
  rw [← hi] at hid
  subst heq
  refine ⟨w1, w2, hopen, hne, hid, by omega, h1, h2, ?_⟩
  rw [ledger_emit _ rfl rfl, removeChannelData_ok hremove]
  simp [ledger, Ledger.settleFor, Ledger.storeUnlock, Ledger.channel, channel]

theorem cooperativeSettle_effects (hP : P.PairsDistinct) (hw : Wf P w.ledger) (h : cooperativeSettle w c id d1 d2 = .ok w')
    (hx : x.Ends id) : ReflTransGen (Effect x) w.ledger w'.ledger := by
  obtain ⟨w1, w2, hopen, hne, hid, hsum, h1, h2, hledger⟩ := cooperativeSettle_ok h
  have he := (withdrawPositive_effects (x := x) h1).trans (withdrawPositive_effects h2)
  obtain ⟨hm1, hs1, hg1, hp1⟩ := withdrawPositive_grows h1
  obtain ⟨hm2, hs2, hg2, hp2⟩ := withdrawPositive_grows h2
  have hw2 := steps_wf hP (steps he) hw
  have hid2 : (w2.ledger.pairs.get? (pairHash P d1.participant d2.participant)).getD 0 = id := by
    rw [ledger_pairs, hm2, hm1]; exact hid
  have hlive : (w2.ledger.channel id).state.live := live_iff.2 (.inl (hs2.trans (hs1.trans hopen)))
  have hcov := (hw2.covered_of_pair (hw2.pair_of_id hP hid2 hlive).2).withdraws
  -- the deposits are all withdrawn: the totals reach them, and no more than the deposits can be withdrawn
  have hd1 := hp1 d1.participant
  have hd2 := hp1 d2.participant
  have hd1' := hp2 d1.participant
  have hd2' := hp2 d2.participant
  simp only [ledger_participant] at hcov
  rw [hd1'.1, hd2'.1, hd1.1, hd2.1] at hcov
  refine he.tail ?_
  rw [hledger]
  exact .settled w2.ledger id d1.participant d2.participant ⟨zeroHash, 0⟩ ⟨zeroHash, 0⟩ []
    w2.ledger.balance hne hid2 hlive (fun _ => hx) (by simp [PaysTo])
    (by simp only [ledger_participant, Participant.share, hd1'.1, hd2'.1, hd1.1, hd2.1]; simp [total]; omega)
    fun _ => by simp [total, totalTo]

/-- what an unlock does: the entry is removed, the claimable part paid to the receiver, the rest to the sender -/
theorem unlock_ok (h : unlock w id receiver sender locks = .ok w') :
    ∃ u a v r, w.net.unlockIdentifierToUnlockData.get? (unlockKey P id sender receiver) = some u ∧
      u.locksroot = P.keccak256 locks ∧ getHashAndUnlockedAmount w locks = .ok (P.keccak256 locks, a) ∧
      v.toNat = min a.toNat u.lockedAmount.toNat ∧ v.toNat + r.toNat = u.lockedAmount.toNat ∧
      w'.ledger = w.ledger.unlockFor P id receiver sender (due id receiver v ++ due id sender r)
        (P.balanceOf w'.token P.self).toNat ∧
      (P.Lawful → (P.balanceOf w'.token P.self).toNat + v.toNat + r.toNat = (P.balanceOf w.token P.self).toNat +
        totalTo P.self (due id receiver v ++ due id sender r)) := by
  simp only [unlock, do_ok, getUnlockIdentifier_ok, checkedSub_ok, assertThat_ok] at h
  obtain ⟨i, -, -, -, -, -, ⟨root, a⟩, hlocks, key, ⟨-, rfl⟩, -, hroot, -, hpos, r, hr, w1, hpay1, w2, hpay2, -, -, -, -,
    rfl⟩ := h
  have hrootv : root = P.keccak256 locks := by
    simp only [getHashAndUnlockedAmount, do_ok, Prod.mk.injEq] at hlocks
    obtain ⟨-, -, -, -, hk, -⟩ := hlocks
    exact hk.symm
  subst hrootv
  cases hu : w.net.unlockIdentifierToUnlockData.get? (unlockKey P id sender receiver) with
  | none =>
    simp [unlockData, hu] at hpos
  | some u =>
    have hud : w.net.unlockData (unlockKey P id sender receiver) = u := by simp [unlockData, hu]
    simp only [hud] at hroot hr hpay1 hpay2
    obtain ⟨hn1, -, hl1, ht1, hp1, hb1⟩ := payPositive_ok hpay1
    obtain ⟨hn2, -, hl2, ht2, hp2, hb2⟩ := payPositive_ok hpay2
    refine ⟨u, a, Utils.min a u.lockedAmount, r, rfl, hroot, hlocks, toNat_utilsMin _ _, hr.symm, ?_, ?_⟩
    · simp only [ledger, hn2, hn1, hl2, hl1, ht2, ht1, hp2, hp1]
      simp [emit, Log.opening, Log.unlocking, Ledger.unlockFor]
    · intro hP
      have hb1' : (P.balanceOf w1.token P.self).toNat + (Utils.min a u.lockedAmount).toNat =
        (P.balanceOf w.token P.self).toNat + totalTo P.self (due id receiver (Utils.min a u.lockedAmount)) := hb1 hP
      have hb2' := hb2 hP
      rw [totalTo_append]
      clear hb1 hb2
      omega

theorem unlock_effects (h : unlock w id receiver sender locks = .ok w') : Effect x w.ledger w'.ledger := by
  obtain ⟨u, a, v, r, hu, -, -, -, hvr, hledger, hb⟩ := unlock_ok h
  rw [hledger]
  refine .unlocked w.ledger id receiver sender u _ _ hu (due_paysTo _ _ _ _ _) ?_ fun hP => ?_
  · rw [total_append, total_due, total_due, hvr]
  · rw [total_append, total_due, total_due, ← add_assoc]
    exact hb hP

theorem registerSecret_ledger (w : World P) (c : Ctx P) (secret : Bytes) :
    (registerSecret w c secret).2.ledger = w.ledger := by
  unfold registerSecret
  simp only
  split_ifs
  · rfl
  · exact ledger_emit _ rfl rfl

theorem registerSecretBatch_ledger (w : World P) (c : Ctx P) (secrets : List Bytes) :
    (registerSecretBatch w c secrets).2.ledger = w.ledger := by
  induction secrets generalizing w with
  | nil => rfl
  | cons secret secrets ih =>
    simp only [registerSecretBatch]
    rw [ih, registerSecret_ledger]

/-- the calls that touch neither the channels nor the contract's tokens -/
def Call.apart : Call P → Bool
  | .deprecateNetwork | .removeLimits | .changeController _ => true
  | .registerSecret _ | .registerSecretBatch _ | .tokenActivity _ => true
  | _ => false

theorem apart_ledger (hx : x.apart = true) (h : call w c x = .ok w') : w'.ledger = w.ledger := by
  cases x with
  | deprecateNetwork =>
    simp only [call, deprecateNetwork, do_ok] at h
    obtain ⟨-, -, -, -, rfl⟩ := h
    exact ledger_emit _ rfl rfl
  | removeLimits =>
    simp only [call, removeLimits, do_ok] at h
    obtain ⟨-, -, rfl⟩ := h
    rfl
  | changeController a =>
    simp only [call, changeController, do_ok] at h
    obtain ⟨-, -, rfl⟩ := h
    rfl
  | registerSecret secret =>
    cases h
    exact registerSecret_ledger w c secret
  | registerSecretBatch secrets =>
    cases h
    exact registerSecretBatch_ledger w c secrets
  | tokenActivity t =>
    simp only [call, do_ok] at h
    obtain ⟨-, hb, rfl⟩ := h
    simp only [ledger, hb]
  | _ => cases hx

/-- **Refinement.** A successful transaction is a sequence of effects on the ledger. -/
theorem call_effects (hP : P.PairsDistinct) (hw : Wf P w.ledger)
    (h : call w c x = .ok w') : ReflTransGen (Effect x) w.ledger w'.ledger := by
  cases x with
  | openChannel p1 p2 =>
    simp only [call, do_ok] at h
    obtain ⟨⟨id, w1⟩, h1, rfl⟩ := h
    exact single (openChannel_effects h1).1
  | openChannelWithDeposit p1 p2 d =>
    simp only [call, openChannelWithDeposit, do_ok] at h
    obtain ⟨⟨id, w1⟩, ⟨-, -, ⟨id', w2⟩, h1, w3, h2, heq⟩, rfl⟩ := h
    cases heq
    obtain ⟨he, hopen⟩ := openChannel_effects h1
    exact (single he).tail (setTotalDepositFor_effects c.external hopen h2)
  | setTotalDeposit id p d q =>
    simp only [call, setTotalDeposit, isOpen, do_ok] at h
    obtain ⟨-, -, -, hopen, h1⟩ := h
    exact single (setTotalDepositFor_effects c.external hopen h1)
  | setTotalWithdraw id p t u s1 s2 =>
    simp only [call, setTotalWithdraw, bind_ok] at h
    obtain ⟨-, -, h1⟩ := h
    exact single (setTotalWithdraw2_effects h1)
  | setTotalWithdraw2 id d => exact single (setTotalWithdraw2_effects h)
  | cooperativeSettle id d1 d2 => exact cooperativeSettle_effects hP hw h rfl
  | closeChannel id p q hash nonce additional s1 s2 => exact closeChannel_effects h rfl rfl
  | updateNonClosingBalanceProof id p q hash nonce additional s1 s2 =>
    exact single (updateNonClosingBalanceProof_effects h rfl)
  | settleChannel | settleChannel2 => exact single (settleChannel2_effects h)
  | unlock id r s locks => exact single (unlock_effects h)
  | _ =>
    rw [apart_ledger rfl h]

/-! ## Runs -/

theorem exec_effects (hP : P.PairsDistinct) (hw : Wf P w.ledger) (tx : Ctx P × Call P) :
    ReflTransGen (Effect tx.2) w.ledger (exec w tx).ledger := by
  unfold exec
  split
  · rename_i w' hw'
    exact call_effects hP hw hw'
  · exact refl

theorem run_steps (hP : P.PairsDistinct) (hw : Wf P w.ledger) (txs : List (Ctx P × Call P)) :
    ReflTransGen (Step P) w.ledger (run w txs).ledger := by
  induction txs generalizing w with
  | nil => exact refl
  | cons tx txs ih =>
    have he := steps (exec_effects hP hw tx)
    exact he.trans (ih (steps_wf hP he hw))

theorem initial_ledger (h : Initial w) : w.ledger = Ledger.fresh := by
  obtain ⟨⟨d, hd⟩, hb, hl, hp, ht⟩ := h
  simp only [deploy, do_ok] at hd
  obtain ⟨-, -, -, -, -, -, -, -, -, -, -, -, -, -, -, -, -, -, -, -, hnet⟩ := hd
  simp [ledger, Ledger.fresh, ← hnet, hb, hl, hp, ht]

theorem initial_wf (h : Initial w) : Wf P w.ledger := initial_ledger h ▸ fresh_wf P

/-- **Every run keeps the ledger well formed and its books balanced.** -/
theorem run_ledger (hP : P.Lawful) (h : Initial w) (txs : List (Ctx P × Call P)) :
    Wf P (run w txs).ledger ∧ Books P (run w txs).ledger := by
  have he := run_steps hP.pairsDistinct (initial_wf h) txs
  exact ⟨steps_wf hP.pairsDistinct he (initial_wf h),
    steps_books hP he (initial_wf h) (initial_ledger h ▸ fresh_books P)⟩

/-! ## Conservation -/

/-- the tokens of the contract are accounted for -/
structure Conserved (w : World P) : Prop where
  /-- the balance is what the live channels hold, the unlock entries, and what the contract has paid to itself -/
  balance : ((P.balanceOf w.token P.self).toNat : ℤ) = (w.net.channels.sum fun _ ch => ch.held) +
    ((w.net.unlockIdentifierToUnlockData.sum fun _ u => u.lockedAmount.toNat : ℕ) : ℤ) + totalTo P.self w.paid
  /-- the last term vanishes unless the contract is a participant of a channel -/
  selfPaid : (∀ id p1 p2, Log.channelOpened id p1 p2 ∈ w.logs → p1 ≠ P.self ∧ p2 ≠ P.self) →
    totalTo P.self w.paid = 0
  /-- a live channel has been opened for two participants and holds D1 + D2 - W1 - W2 -/
  live : ∀ id, (w.net.channel id).state.live → ∃ p1 p2, Log.channelOpened id p1 p2 ∈ w.logs ∧
    (w.net.channel id).held = (w.net.participant id p1).deposit.toNat + (w.net.participant id p2).deposit.toNat -
      (w.net.participant id p1).withdrawnAmount.toNat - (w.net.participant id p2).withdrawnAmount.toNat
  /-- a channel's deposits are its payments, what it holds and what it keeps locked -/
  account : ∀ id p1 p2, Log.channelOpened id p1 p2 ∈ w.logs → (totalFor id w.taken : ℤ) =
    totalFor id w.paid + (w.net.channel id).held +
      (w.net.unlockData (unlockKey P id p1 p2)).lockedAmount.toNat +
      (w.net.unlockData (unlockKey P id p2 p1)).lockedAmount.toNat
  /-- every payment for a channel is covered by its own deposits -/
  covered : ∀ id, totalFor id w.paid ≤ totalFor id w.taken
  /-- no unlock is made twice -/
  once : (w.logs.filterMap Log.unlocking).Nodup

theorem mem_opened : (id, p1, p2) ∈ w.ledger.opened ↔ Log.channelOpened id p1 p2 ∈ w.logs := by
  simp only [ledger, List.mem_filterMap]
  constructor
  · rintro ⟨l, hl, ho⟩
    cases l <;> simp only [Log.opening, Option.some.injEq, Prod.mk.injEq, reduceCtorEq] at ho
    obtain ⟨rfl, rfl, rfl⟩ := ho
    exact hl
  · exact fun hl => ⟨_, hl, rfl⟩

theorem ledger_locked (w : World P) (key : Bytes) : w.ledger.locked key = (w.net.unlockData key).lockedAmount.toNat := by
  simp only [Ledger.locked, ledger, unlockData]
  cases w.net.unlockIdentifierToUnlockData.get? key <;> rfl

theorem Wf.held_nonneg {k : Ledger} (h : Wf P k) (id : Uint256) : 0 ≤ (k.channel id).held := by
  by_cases hl : (k.channel id).state.live
  · obtain ⟨p1, p2, ho⟩ := h.live_opened hl
    have hc := (h.covered ho).withdraws
    rw [h.held_eq (.inl ho) hl, Participant.share, Participant.share]
    omega
  · rw [Channel.held, if_neg hl]

theorem conserved_of_ledger (h : Wf P w.ledger) (b : Books P w.ledger) : Conserved w where
  balance := b.balance
  selfPaid := by
    intro hself
    rw [totalTo, List.filter_eq_nil_iff.2]
    · rfl
    · intro x hx hacc
      obtain ⟨p1, p2, ho, ha⟩ := b.payees x hx
      have hne := hself _ _ _ (mem_opened.1 ho)
      rw [decide_eq_true_eq] at hacc
      rcases ha with ha | ha
      · exact hne.1 (ha ▸ hacc)
      · exact hne.2 (ha ▸ hacc)
  live := by
    intro id hl
    obtain ⟨p1, p2, ho⟩ := h.live_opened hl
    refine ⟨p1, p2, mem_opened.1 ho, ?_⟩
    have := h.held_eq (.inl ho) hl
    simp only [ledger_channel, ledger_participant, Participant.share] at this
    rw [this]
    ring
  account := by
    intro id p1 p2 ho
    have := b.account (mem_opened.2 ho)
    simp only [Ledger.lockedFor, ledger_locked, ledger_channel] at this
    push_cast at this
    rw [← add_assoc] at this
    exact this
  covered := by
    intro id
    by_cases hex : ∃ p1 p2, (id, p1, p2) ∈ w.ledger.opened
    · obtain ⟨p1, p2, ho⟩ := hex
      have hacc := b.account ho
      have hnn := h.held_nonneg id
      have : (totalFor id w.paid : ℤ) ≤ totalFor id w.taken := by
        rw [show totalFor id w.taken = totalFor id w.ledger.taken from rfl, hacc]
        show (totalFor id w.ledger.paid : ℤ) ≤ _
        omega
      exact_mod_cast this
    · push Not at hex
      have := b.unused hex
      exact le_of_eq_of_le this.2.1 (Nat.zero_le _)
  once := b.once

end Refinement

/-- **Tokens are conserved.** After any transactions by any callers, from a fresh deployment. -/
theorem tokens_conserved (P : Platform) (hP : P.Lawful) (w : World P) (h : Initial w) (txs : List (Ctx P × Call P)) :
    Conserved (run w txs) :=
  conserved_of_ledger (run_ledger hP h txs).1 (run_ledger hP h txs).2

/-! ## Totals -/

section Totals

variable {P : Platform} {w : World P} {k k' k'' : Ledger}

/-- what a participant has deposited and withdrawn in total -/
def Participant.totals (p : Participant) : ℕ × ℕ := (p.deposit.toNat, p.withdrawnAmount.toNat)

/-- of the identifiers given away, only those of live channels are live later, with no lower totals -/
structure Later (k k' : Ledger) : Prop where
  counter : k.counter ≤ k'.counter
  live : ∀ id, id.toNat ≤ k.counter → (k'.channel id).state.live →
    (k.channel id).state.live ∧ ∀ p, (k.participant id p).totals ≤ (k'.participant id p).totals

theorem Later.refl (k : Ledger) : Later k k := ⟨le_rfl, fun _ _ h => ⟨h, fun _ => le_rfl⟩⟩

theorem Later.trans (h : Later k k') (h' : Later k' k'') : Later k k'' := by
  refine ⟨h.counter.trans h'.counter, fun id hid hlive => ?_⟩
  obtain ⟨hlive', hmore'⟩ := h'.live id (hid.trans h.counter) hlive
  obtain ⟨hlive, hmore⟩ := h.live id hid hlive'
  exact ⟨hlive, fun p => (hmore p).trans (hmore' p)⟩

/-- one channel changes -/
theorem Later.set {id : Uint256} {ch : Channel} (hcounter : k.counter ≤ k'.counter)
    (hset : k'.channels = k.channels.set id ch) (h : id.toNat ≤ k.counter → ch.state.live → (k.channel id).state.live ∧
      ∀ p, (k.participant id p).totals ≤ ((ch.participants.get? p).getD Participant.zero).totals) : Later k k' := by
  refine ⟨hcounter, fun id' hid' hlive => ?_⟩
  simp only [Ledger.participant, Ledger.channel, hset] at hlive ⊢
  rw [channel_set] at hlive ⊢
  split_ifs at hlive ⊢ with heq
  · subst heq
    exact h hid' hlive
  · exact ⟨hlive, fun _ => le_rfl⟩

/-- the record of a participant is replaced by one with no lower totals -/
theorem Later.write {id : Uint256} {state : ChannelState} {p : Address} {st : Participant} (hlive : (k.channel id).state.live)
    (hcounter : k'.counter = k.counter) (hset : k'.channels = k.channels.set id ⟨state, (k.channel id).participants.set p st⟩)
    (htotals : (k.participant id p).totals ≤ st.totals) : Later k k' := by
  refine .set hcounter.ge hset fun _ _ => ⟨hlive, fun p' => ?_⟩
  rw [Dict.get?_set]
  split_ifs with heq
  · exact heq ▸ htotals
  · exact le_rfl

theorem Effect.later {x : Call P} (h : Effect x k k') : Later k k' := by
  cases h with
  | opened id p1 p2 hid => exact .set (Nat.le_of_lt (by simp [Ledger.openFor, hid])) rfl fun h => absurd h (by omega)
  | deposited id p q src d v balance hid hopen hdep =>
    exact .write (live_iff.2 (.inl hopen)) rfl rfl ⟨by simp [Participant.totals, hdep], le_rfl⟩
  | withdrawn id p q d v balance hid hopen hwit =>
    exact .write (live_iff.2 (.inl hopen)) rfl rfl ⟨le_rfl, by simp [Participant.totals, hwit]⟩
  | closed id p q hid hopen => exact .write (live_iff.2 (.inl hopen)) rfl rfl le_rfl
  | proved id p q nonce hash hid hclosed => exact .write (live_iff.2 (.inr hclosed)) rfl rfl le_rfl
  | settled => exact .set le_rfl rfl fun _ h => h.elim
  | unlocked => exact ⟨le_rfl, (Later.refl k).live⟩

theorem steps_later (h : ReflTransGen (Step P) k k') : Later k k' :=
  h.head_induction_on (.refl _) fun h _ ih => h.choose_spec.later.trans ih

/-- **Totals never fall.** After any transactions, and after any further ones: an identifier that had been given away is that
of a live channel only if it was before, and then no total deposit or total withdraw in the channel has become less. -/
theorem totals_never_fall (P : Platform) (hP : P.Lawful) (w : World P) (h : Initial w) (txs more : List (Ctx P × Call P))
    (id : Uint256) (hid : id.toNat ≤ (run w txs).net.channelCounter.toNat)
    (hlive : ((run (run w txs) more).net.channel id).state.live) :
    ((run w txs).net.channel id).state.live ∧ ∀ p,
      ((run w txs).net.participant id p).totals ≤ ((run (run w txs) more).net.participant id p).totals :=
  (steps_later (run_steps hP.pairsDistinct (run_ledger hP h txs).1 more)).live id hid hlive

end Totals

/-! ## A channel with the contract itself -/

section SelfChannel

/-- the contract at address 9, an account 7 that holds and has approved 100 tokens -/
def selfStart : World (standardPlatform 9) where
  net := ⟨1, 1, 1000, 1000, 0, false, Dict.empty, Dict.empty, Dict.empty, Dict.empty⟩
  registry := Dict.empty
  token := ⟨⟨Dict.empty.set 7 100, Dict.empty.set (7, 9) 100⟩, by decide⟩
  logs := []
  paid := []
  taken := []

def selfCtx (timestamp : Uint256) : Ctx (standardPlatform 9) := ⟨7, timestamp, by decide⟩

/-- account 7 opens a channel with the contract, deposits 5 tokens for the contract, closes and settles -/
def selfRun : List (Ctx (standardPlatform 9) × Call (standardPlatform 9)) :=
  [(selfCtx 1, .openChannel 7 9), (selfCtx 1, .setTotalDeposit 1 9 5 7),
   (selfCtx 1, .closeChannel 1 9 7 zeroHash 0 [] [] [7]), (selfCtx 3, .settleChannel 1 7 0 0 [] 9 0 0 [])]

theorem selfStart_initial : Initial selfStart where
  deployed := ⟨⟨5, 6, 1, 1, 1000, 1000, fun _ => true, 1000⟩, rfl⟩
  noTokens := by decide
  noLogs := rfl
  nonePaid := rfl
  noneTaken := rfl

/-- Every call succeeds and nothing is owed any more, but the contract still holds the 5 tokens it paid to itself. -/
theorem self_channel_keeps_tokens :
    Initial selfStart ∧
    ((selfRun.foldlM (fun w tx => call w tx.1 tx.2) selfStart).toOption.map fun w =>
      (((standardPlatform 9).balanceOf w.token (standardPlatform 9).self).toNat,
        w.net.channels.sum fun _ ch => ch.held,
        w.net.unlockIdentifierToUnlockData.sum fun _ u => u.lockedAmount.toNat)) = some (5, 0, 0) :=
  ⟨selfStart_initial, by decide +kernel⟩

/-- the conservation of tokens on that run: the 5 tokens are the payment of the contract to itself -/
theorem tokens_conserved_self : Conserved (run selfStart selfRun) ∧ totalTo 9 (run selfStart selfRun).paid = 5 :=
  ⟨tokens_conserved _ (standardPlatform_lawful 9) _ selfStart_initial _, by decide +kernel⟩

/-- the deposit of the sample run -/
theorem totals_never_fall_deposited :
    let w := run selfStart (selfRun.take 1)
    (w.net.channel 1).state.live ∧ ∀ p,
      (w.net.participant 1 p).totals ≤ ((run w [(selfCtx 1, .setTotalDeposit 1 9 5 7)]).net.participant 1 p).totals :=
  totals_never_fall _ (standardPlatform_lawful 9) _ selfStart_initial (selfRun.take 1) _ 1 (by decide +kernel)
    (by decide +kernel)

end SelfChannel

end Gatecoin.Contracts
