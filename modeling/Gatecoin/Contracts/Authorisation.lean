/-
Who can end an Opened channel of the TokenNetwork contract.

A channel leaves the state Opened by a close, which carries a signature of the closing participant, or by a cooperative
settlement. The latter checks no signatures of its own: it leaves that to the two withdraws it makes, and makes those whose
total is positive. In a channel without deposits both totals are zero, so that nobody has signed anything.

Results:
- `opened_of_other_call`: no other call ends an Opened channel.
- `channel_end_authorised_iff`: every call that ends an Opened channel is authorised by its participants if and only if the
  channel has a deposit.
- `stranger_removes_channel`: an account that is no participant removes a channel.
-/
import Gatecoin.Contracts.Lifecycle

namespace Gatecoin.Contracts

open Gatecoin.Core List

/-! ## Authorisation -/

/-- a call that carries the closing signature of one participant, or a withdraw of this channel with the signatures of both -/
def Authorised (P : Platform) (id : Uint256) (p1 p2 : Address) : Call P → Prop
  | .closeChannel id' _ closing hash nonce additional sig1 sig2 =>
    id' = id ∧ (closing = p1 ∨ closing = p2) ∧
      recoverAddressFromBalanceProofCounterSignature P .balanceProof id hash nonce additional sig1 sig2 = .ok closing
  | .cooperativeSettle id' d1 d2 =>
    id' = id ∧ ∃ d ∈ [d1, d2], ∀ p ∈ [p1, p2], ∃ signature ∈ [d.participantSignature, d.partnerSignature],
      recoverAddressFromWithdrawMessage P id d.participant d.totalWithdraw d.withdrawableUntil signature = .ok p
  | _ => False

/-! ## Calls that keep a channel Opened -/

section Calls

variable {P : Platform} {w w' : World P} {c : Ctx P} {id id' : Uint256} {p1 p2 : Address} {d : WithdrawInput}
  {nonce : Uint256} {hash : Bytes} {nonClosing closing : Address} {additional sig1 sig2 : Bytes}

/-- **Every other call keeps the channel Opened.** -/
theorem opened_of_other_call (hP : P.PairsDistinct) (hw : Wf P w.ledger) {x : Call P} (h : call w c x = .ok w')
    (hopen : (w.net.channel id).state = .opened) (hx : ¬ x.Ends id) : (w'.net.channel id).state = .opened := by
  obtain ⟨p1, p2, ho⟩ := hw.live_opened (live_iff.2 (.inl hopen))
  suffices ∀ k, Relation.ReflTransGen (Effect x) w.ledger k → (k.channel id).state = .opened from this _ (call_effects hP hw h)
  intro k hk
  induction hk with
  | refl => exact hopen
  | tail hes he ih =>
    have hmove := he.channel hP (steps_wf hP (steps hes) hw) ((hw.range ho).2.trans (steps_later (steps hes)).counter)
    rcases (Relation.reflGen_iff _ _ _).1 hmove with hsame | hmove
    · rw [hsame, ih]
    · exact opened_move hmove ih hx

/-! ## Signatures -/

/-- the close of a channel is signed by the participant that closes it -/
theorem closeChannel_signed (h : closeChannel w c id nonClosing closing hash nonce additional sig1 sig2 = .ok w') :
    (w.net.participantsHashToChannelIdentifier.get? (pairHash P closing nonClosing)).getD 0 = id ∧
      recoverAddressFromBalanceProofCounterSignature P .balanceProof id hash nonce additional sig1 sig2 = .ok closing := by
  simp only [closeChannel, do_ok, getChannelIdentifier_ok] at h
  obtain ⟨-, -, i, ⟨-, hid⟩, -, hi, settleable, -, signer, hsig, -, hsigner, n', -, -⟩ := h
  rw [← hi] at hid
  rw [← hsigner] at hsig
  exact ⟨hid, hsig⟩

/-- a withdraw is signed by the participant and by a partner with whom it has the channel -/
theorem setTotalWithdraw2_signed (h : setTotalWithdraw2 w c id d = .ok w') :
    ∃ q, (w.net.participantsHashToChannelIdentifier.get? (pairHash P d.participant q)).getD 0 = id ∧
      recoverAddressFromWithdrawMessage P id d.participant d.totalWithdraw d.withdrawableUntil d.participantSignature =
        .ok d.participant ∧
      recoverAddressFromWithdrawMessage P id d.participant d.totalWithdraw d.withdrawableUntil d.partnerSignature = .ok q := by
  simp only [setTotalWithdraw2, setTotalWithdraw2Calling, do_ok, getChannelIdentifier_ok] at h
  obtain ⟨-, -, -, -, -, -, signer, hsig, -, hsigner, q, hq, i, ⟨-, hid⟩, -, hi, -⟩ := h
  rw [← hi] at hid
  rw [← hsigner] at hsig
  exact ⟨q, hid, hsig, hq⟩

/-- a withdraw of a positive amount has the signatures of both participants -/
theorem withdrawPositive_signed (hP : P.PairsDistinct) (hs : Sound P w.ledger)
    (hopened : .channelOpened id p1 p2 ∈ w.logs) (hpos : 0 < d.totalWithdraw) (h : withdrawPositive w c id d = .ok w') :
    ∀ p ∈ [p1, p2], ∃ signature ∈ [d.participantSignature, d.partnerSignature],
      recoverAddressFromWithdrawMessage P id d.participant d.totalWithdraw d.withdrawableUntil signature = .ok p := by
  rw [withdrawPositive, if_pos hpos] at h
  obtain ⟨-, -, -, hopen, -⟩ := setTotalWithdraw2_ok h
  obtain ⟨q, hid, hsig, hq⟩ := setTotalWithdraw2_signed h
  have ho := mem_opened.2 hopened
  have hlive : (w.net.channel id).state.live := live_iff.2 (.inl hopen)
  intro p hp
  rcases (hs.wf.pair_of_id hP hid hlive).2 with hpair | hpair
  · obtain ⟨rfl, rfl⟩ := hs.wf.unique ho hpair
    rcases mem_pair.1 hp with rfl | rfl
    · exact ⟨_, mem_cons_self, hsig⟩
    · exact ⟨_, mem_cons_of_mem _ mem_cons_self, hq⟩
  · obtain ⟨rfl, rfl⟩ := hs.wf.unique ho hpair
    rcases mem_pair.1 hp with rfl | rfl
    · exact ⟨_, mem_cons_of_mem _ mem_cons_self, hq⟩
    · exact ⟨_, mem_cons_self, hsig⟩

theorem closeChannel_authorised (hP : P.PairsDistinct) (hs : Sound P w.ledger)
    (hopened : .channelOpened id p1 p2 ∈ w.logs) (hopen : (w.net.channel id).state = .opened) {q p : Address}
    {additional s1 s2 : Bytes} (h : closeChannel w c id q p hash nonce additional s1 s2 = .ok w') :
    Authorised P id p1 p2 (.closeChannel id q p hash nonce additional s1 s2) := by
  obtain ⟨hid, hsig⟩ := closeChannel_signed h
  have ho := mem_opened.2 hopened
  refine ⟨rfl, ?_, hsig⟩
  rcases (hs.wf.pair_of_id hP hid (live_iff.2 (.inl hopen))).2 with hpair | hpair
  · exact .inl (hs.wf.unique hpair ho).1
  · exact .inr (hs.wf.unique hpair ho).2

/-- with a deposit one of the two totals is positive -/
theorem cooperativeSettle_authorised (hP : P.PairsDistinct) (hs : Sound P w.ledger) (hopened : .channelOpened id p1 p2 ∈ w.logs)
    (hdeposit : (w.net.participant id p1).deposit ≠ 0 ∨ (w.net.participant id p2).deposit ≠ 0) {d1 d2 : WithdrawInput}
    (h : cooperativeSettle w c id d1 d2 = .ok w') : Authorised P id p1 p2 (.cooperativeSettle id d1 d2) := by
  obtain ⟨w1, w2, hopen, -, hid, hsum, h1, h2, -⟩ := cooperativeSettle_ok h
  have ho := mem_opened.2 hopened
  have hpositive : 0 < d1.totalWithdraw ∨ 0 < d2.totalWithdraw := by
    have hdeposits : 0 < (w.net.participant id p1).deposit.toNat + (w.net.participant id p2).deposit.toNat := by
      rcases hdeposit with hne | hne <;> bv_omega
    have htotals : 0 < d1.totalWithdraw.toNat + d2.totalWithdraw.toNat := by
      rcases (hs.wf.pair_of_id hP hid (live_iff.2 (.inl hopen))).2 with hpair | hpair
      · obtain ⟨rfl, rfl⟩ := hs.wf.unique ho hpair
        omega
      · obtain ⟨rfl, rfl⟩ := hs.wf.unique ho hpair
        omega
    bv_omega
  refine ⟨rfl, ?_⟩
  rcases hpositive with hpos | hpos
  · exact ⟨d1, mem_cons_self, withdrawPositive_signed hP hs hopened hpos h1⟩
  · -- the first withdraw leaves the channel and its pair in place
    have he := withdrawPositive_effects (x := .cooperativeSettle id d1 d2) h1
    have hs1 := sound_steps hP hs (steps he)
    have hopened1 : .channelOpened id p1 p2 ∈ w1.logs := mem_opened.1 (effects_mem_opened he ho)
    exact ⟨d2, mem_cons_of_mem _ mem_cons_self, withdrawPositive_signed hP hs1 hopened1 hpos h2⟩

theorem withdrawPositive_zero (h : d.totalWithdraw = 0) : withdrawPositive w c id d = .ok w := by
  rw [withdrawPositive, h, if_neg (by decide)]
  rfl

/-- the settlement of a channel without deposits, with nothing signed -/
def unsignedSettle (P : Platform) (id : Uint256) (p1 p2 : Address) : Call P :=
  .cooperativeSettle id ⟨p1, 0, 0, [], []⟩ ⟨p2, 0, 0, [], []⟩

theorem unsignedSettle_not_authorised (hne : p1 ≠ p2) : ¬ Authorised P id p1 p2 (unsignedSettle P id p1 p2) := by
  rintro ⟨-, d, hd, hsigned⟩
  -- one signature would have to be that of both
  have hempty : ∀ signature ∈ [d.participantSignature, d.partnerSignature], signature = [] := by
    rcases mem_pair.1 hd with rfl | rfl <;> simp
  obtain ⟨s1, hs1, hp1⟩ := hsigned p1 mem_cons_self
  obtain ⟨s2, hs2, hp2⟩ := hsigned p2 (mem_cons_of_mem _ mem_cons_self)
  rw [hempty s1 hs1] at hp1
  rw [hempty s2 hs2, hp1] at hp2
  exact hne (Except.ok.inj hp2)

theorem unsignedSettle_removes (hs : Sound P w.ledger) (hP : P.PairsDistinct)
    (hopened : .channelOpened id p1 p2 ∈ w.logs) (hopen : (w.net.channel id).state = .opened)
    (h1 : (w.net.participant id p1).deposit = 0) (h2 : (w.net.participant id p2).deposit = 0) (c : Ctx P) :
    ∃ w', call w c (unsignedSettle P id p1 p2) = .ok w' ∧ (w'.net.channel id).state = .nonExistent := by
  have ho := mem_opened.2 hopened
  have hne := hs.wf.distinct ho
  obtain ⟨hp1, hp2⟩ := hs.wf.nonzero ho
  have hindex := ((hs.channels hP).indexed hopened).2 (.inl hopen)
  have hidentifier : getChannelIdentifier w p1 p2 = .ok id := getChannelIdentifier_ok.2 ⟨⟨hp1, hp2, hne⟩, hindex⟩
  have hhash : getParticipantsHash P p1 p2 = .ok (pairHash P p1 p2) := getParticipantsHash_ok.2 ⟨⟨hp1, hp2, hne⟩, rfl⟩
  have hremove : ∃ w1, removeChannelData w id p1 p2 = .ok w1 := by
    rw [removeChannelData, hhash]
    exact ⟨_, rfl⟩
  obtain ⟨w1, hw1⟩ := hremove
  refine ⟨w1.emit (.channelSettled id p1 0 zeroHash p2 0 zeroHash), ?_, ?_⟩
  · show cooperativeSettle w c id _ _ = _
    simp only [cooperativeSettle, isOpen, do_ok, hidentifier, checkedAdd_ok, h1, h2]
    refine ⟨(), hopen, id, rfl, (), rfl, 0, rfl, 0, rfl, (), rfl, (), BitVec.le_refl _, w,
      withdrawPositive_zero rfl, w, withdrawPositive_zero rfl, w1, hw1, rfl⟩
  · rw [removeChannelData_ok hw1]
    simp [World.emit, TokenNetwork.channel]

end Calls

/-- **Who can end a channel.** In every reachable state, for every Opened channel: every call that ends it is authorised by
its participants if and only if one of them has a deposit. -/
theorem channel_end_authorised_iff (P : Platform) (hP : P.PairsDistinct) (w : World P) (h : Initial w)
    (txs : List (Ctx P × Call P)) (id : Uint256) (p1 p2 : Address) (hopened : .channelOpened id p1 p2 ∈ (run w txs).logs)
    (hopen : ((run w txs).net.channel id).state = .opened) (c0 : Ctx P) :
    (∀ c x w', call (run w txs) c x = .ok w' → (w'.net.channel id).state ≠ .opened → Authorised P id p1 p2 x) ↔
      ((run w txs).net.participant id p1).deposit ≠ 0 ∨ ((run w txs).net.participant id p2).deposit ≠ 0 := by
  have hs := sound_run hP h txs
  constructor
  · intro hall
    by_contra hnone
    push Not at hnone
    obtain ⟨w', hcall, hdead⟩ := unsignedSettle_removes hs hP hopened hopen hnone.1 hnone.2 c0
    refine unsignedSettle_not_authorised (hs.wf.distinct (mem_opened.2 hopened)) (hall c0 _ w' hcall ?_)
    rw [hdead]
    decide
  · intro hdeposit c x w' hcall hleft
    have hends : x.Ends id := by
      by_contra hnot
      exact hleft (opened_of_other_call hP hs.wf hcall hopen hnot)
    cases x with
    | closeChannel =>
      subst hends
      exact closeChannel_authorised hP hs hopened hopen hcall
    | cooperativeSettle =>
      subst hends
      exact cooperativeSettle_authorised hP hs hopened hdeposit hcall
    | _ => exact hends.elim

/-- account 7 has opened a channel with account 8, and deposited 5 tokens in it -/
theorem channel_end_authorised_funded :
    ((run selfStart [(selfCtx 1, .openChannel 7 8), (selfCtx 1, .setTotalDeposit 1 7 5 8)]).net.participant 1 7).deposit = 5 ∧
    ∀ c x w', call (run selfStart [(selfCtx 1, .openChannel 7 8), (selfCtx 1, .setTotalDeposit 1 7 5 8)]) c x = .ok w' →
      (w'.net.channel 1).state ≠ .opened → Authorised (standardPlatform 9) 1 7 8 x :=
  ⟨by decide +kernel, (channel_end_authorised_iff _ (standardPlatform_lawful 9).pairsDistinct selfStart selfStart_initial
    [(selfCtx 1, .openChannel 7 8), (selfCtx 1, .setTotalDeposit 1 7 5 8)] 1 7 8 (by decide +kernel) (by decide +kernel)
    (selfCtx 1)).2 (.inl (by decide +kernel))⟩

/-- Account 7 opens a channel between the accounts 2 and 3 and removes it, without a signature of either. -/
theorem stranger_removes_channel :
    ((run selfStart [(selfCtx 1, .openChannel 2 3)]).net.channel 1).state = .opened ∧
    ((run selfStart [(selfCtx 1, .openChannel 2 3), (selfCtx 2, unsignedSettle (standardPlatform 9) 1 2 3)]).net.channel
      1).state = .nonExistent ∧
    ¬ Authorised (standardPlatform 9) 1 2 3 (unsignedSettle (standardPlatform 9) 1 2 3) :=
  ⟨by decide +kernel, by decide +kernel, unsignedSettle_not_authorised (by decide)⟩

end Gatecoin.Contracts
