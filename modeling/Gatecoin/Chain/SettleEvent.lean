/-
The settlement of a channel as the client sees it: the `ChannelSettled` log of the contract, its decoding
(blockchain/state.py, blockchain/decode.py) and what the channel of the client does with it.

The contract compares the data of a settlement with the stored balance hash. Where no balance proof is stored the amounts
have to be zero, and the locksroot is not looked at: whoever settles the channel writes it into the log.

- `settleChannel2_log`: the log of a settlement has the locksroots of the call.
- `settlement_agrees_iff`: when log, contract and client agree about the locksroots of both sides.
- `stranger_names_locksroot`: a stranger settles a channel without balance proofs, with locks that nobody ever sent.
-/
import Gatecoin.Client.ChannelRun
import Gatecoin.Contracts.Payout

namespace Gatecoin.Chain

open Gatecoin.Core Client Contracts

/-! ## Decoding -/

/-- `EMPTY_LOCKSROOT` -/
def emptyLocksroot : Bytes := List.replicate 32 0

/-- the data of a settlement that the log has, from the view of one participant -/
structure ChannelSettleState where
  channelIdentifier : ℕ
  ourTransferredAmount : ℕ
  ourLocksroot : Bytes
  partnerTransferredAmount : ℕ
  partnerLocksroot : Bytes
deriving DecidableEq, Repr

/-- the arguments of a `ChannelSettled` log -/
structure ChannelSettledArgs where
  channelIdentifier : Uint256
  participant1 : Client.Address
  participant1Amount : Uint256
  participant1Locksroot : Bytes
  participant2 : Client.Address
  participant2Amount : Uint256
  participant2Locksroot : Bytes
deriving DecidableEq, Repr

def ChannelSettledArgs.log (a : ChannelSettledArgs) : Log :=
  .channelSettled a.channelIdentifier a.participant1 a.participant1Amount a.participant1Locksroot a.participant2
    a.participant2Amount a.participant2Locksroot

def getContractreceivechannelsettledDataFromEvent (env : Env) (ourAddress : Client.Address) (a : ChannelSettledArgs) :
    Except Fault ChannelSettleState :=
  if a.participant1 = ourAddress then
    .ok ⟨a.channelIdentifier.toNat, a.participant1Amount.toNat, a.participant1Locksroot, a.participant2Amount.toNat,
      a.participant2Locksroot⟩
  else if a.participant2 = ourAddress then
    .ok ⟨a.channelIdentifier.toNat, a.participant2Amount.toNat, a.participant2Locksroot, a.participant1Amount.toNat,
      a.participant1Locksroot⟩
  else .error (.unrecoverable ("Received settle event that we're not a part of. Settlement was between " ++
    toChecksumAddress env a.participant1 ++ " and " ++ toChecksumAddress env a.participant2))

/-- the locksroot of no locks is stored as zero on-chain -/
def decodeLocksroot (env : Env) (locksroot : Bytes) : Bytes :=
  if locksroot = emptyLocksroot then locksrootOfNoLocks env else locksroot

def contractreceivechannelsettledFromEvent (env : Env) (s : ChannelSettleState) (blockNumber : ℕ) (blockHash : Bytes) :
    ChannelStateChange :=
  .contractReceiveChannelSettled s.channelIdentifier (decodeLocksroot env s.ourLocksroot) s.ourTransferredAmount
    (decodeLocksroot env s.partnerLocksroot) s.partnerTransferredAmount blockNumber blockHash

/-- the channel of the client receives the log of a settlement -/
def receiveChannelSettled (env : Env) (c : NettingChannelState) (a : ChannelSettledArgs) (blockNumber : ℕ)
    (blockHash : Bytes) : Transition := do
  let s ← getContractreceivechannelsettledDataFromEvent env c.ourState.address a
  handleStateTransitions env c blockNumber blockHash (contractreceivechannelsettledFromEvent env s blockNumber blockHash)

/-! ## What has to agree -/

/-- a locksroot that stands for no locks -/
def NoLocks (env : Env) (locksroot : Bytes) : Prop := locksroot = emptyLocksroot ∨ locksroot = locksrootOfNoLocks env

theorem decodeLocksroot_eq {env : Env} {locksroot : Bytes} :
    decodeLocksroot env locksroot = locksrootOfNoLocks env ↔ NoLocks env locksroot := by
  unfold decodeLocksroot NoLocks
  split_ifs with h <;> simp [h]

/-- the locksroot is the one that the stored balance hash commits to; without a balance proof it is empty -/
def Committed (env : Env) (P : Platform) (p : Participant) (locksroot : Bytes) : Prop :=
  if p.balanceHash = zeroHash then NoLocks env locksroot
  else ∃ transferred locked : Uint256, p.balanceHash = P.keccak256 (uintBytes transferred ++ uintBytes locked ++ locksroot)

/-- the contract holds tokens for the pending locks of a sender -/
def HoldsUnlockData {P : Platform} (w : World P) (id : Uint256) (sender receiver : Client.Address) : Prop :=
  (w.net.unlockData (unlockKey P id sender receiver)).lockedAmount ≠ 0

/-- the client keeps the channel for an unlock of the locks of an end -/
def AwaitsUnlock (env : Env) (c : Option NettingChannelState) (sender : Client.Address) : Prop :=
  ∃ c', c = some c' ∧ ((sender = c'.ourState.address ∧ c'.ourState.onchainLocksroot ≠ locksrootOfNoLocks env) ∨
    (sender = c'.partnerState.address ∧ c'.partnerState.onchainLocksroot ≠ locksrootOfNoLocks env))

def Event.isBatchUnlock : Event → Bool
  | .contractSendChannelBatchUnlock .. => true
  | _ => false

/-- the client processes the log: it waits for the unlock of a side, keeps the channel and looks for a list of locks
exactly where the contract holds tokens -/
structure Processed {P : Platform} (env : Env) (w : World P) (a : ChannelSettledArgs) (c : Option NettingChannelState)
    (events : List Event) : Prop where
  first : AwaitsUnlock env c a.participant1 ↔ HoldsUnlockData w a.channelIdentifier a.participant1 a.participant2
  second : AwaitsUnlock env c a.participant2 ↔ HoldsUnlockData w a.channelIdentifier a.participant2 a.participant1
  kept : c.isSome ↔ HoldsUnlockData w a.channelIdentifier a.participant1 a.participant2 ∨
    HoldsUnlockData w a.channelIdentifier a.participant2 a.participant1
  searches : (∃ e ∈ events, Event.isBatchUnlock e = true) ↔ c.isSome

/-- log, contract and client agree about a settlement of the world `w` that led to `w'` -/
structure SettlementAgrees {P : Platform} (env : Env) (w w' : World P) (a : ChannelSettledArgs)
    (ch : NettingChannelState) (blockNumber : ℕ) (blockHash : Bytes) : Prop where
  committed1 : Committed env P (w.net.participant a.channelIdentifier a.participant1) a.participant1Locksroot
  committed2 : Committed env P (w.net.participant a.channelIdentifier a.participant2) a.participant2Locksroot
  processed : ∃ c events, receiveChannelSettled env ch a blockNumber blockHash = .ok (c, events) ∧
    Processed env w' a c events

/-- the settlement with the data `i` and `j` of two sides leaves the second participant something to receive -/
def Room (p q : Participant) (i j : SettleInput) : Prop :=
  p.withdrawnAmount.toNat + q.withdrawnAmount.toNat < p.deposit.toNat + q.deposit.toNat ∧
    q.withdrawnAmount.toNat + min (j.transferredAmount.toNat + j.lockedAmount.toNat) (2 ^ 256 - 1) <
      q.deposit.toNat + min (i.transferredAmount.toNat + i.lockedAmount.toNat) (2 ^ 256 - 1)

instance (p q : Participant) (i j : SettleInput) : Decidable (Room p q i j) := inferInstanceAs (Decidable (_ ∧ _))

/-- the data `i` for the side of a participant with the stored state `p`: the locksroot is empty where there is no balance
proof and where nothing is locked; a locked amount has locks exactly if the other participant can receive something -/
structure SettledAsCommitted (env : Env) (p q : Participant) (i j : SettleInput) : Prop where
  unproved : p.balanceHash = zeroHash → NoLocks env i.locksroot
  unlocked : i.lockedAmount = 0 → NoLocks env i.locksroot
  locked : i.lockedAmount ≠ 0 → (¬ NoLocks env i.locksroot ↔ Room p q i j)

theorem settledAsCommitted_iff {env : Env} {p q : Participant} {i j : SettleInput} : SettledAsCommitted env p q i j ↔
    (p.balanceHash = zeroHash → NoLocks env i.locksroot) ∧
      (i.lockedAmount = 0 ∨ ¬ Room p q i j ↔ NoLocks env i.locksroot) := by
  by_cases hzero : i.lockedAmount = 0
  · simp only [hzero, true_or, true_iff]
    exact ⟨fun h => ⟨h.unproved, h.unlocked hzero⟩, fun h => ⟨h.1, fun _ => h.2, fun hne => absurd hzero hne⟩⟩
  · simp only [hzero, false_or]
    exact ⟨fun h => ⟨h.unproved, not_iff_comm.1 (h.locked hzero)⟩,
      fun h => ⟨h.1, fun he => absurd he hzero, fun _ => not_iff_comm.1 h.2⟩⟩

/-! ## The contract -/

section Contract

variable {P : Platform} {w w' : World P} {id : Uint256}

theorem settleChannel2_log {c : Ctx P} {i1 i2 : SettleInput} (h : settleChannel2 w c id i1 i2 = .ok w') :
    ∃ a1 a2 l1 l2, getSettleTransferAmounts (w.net.participant id i1.participant) i1.transferredAmount i1.lockedAmount
        (w.net.participant id i2.participant) i2.transferredAmount i2.lockedAmount = .ok (a1, a2, l1, l2) ∧
      verifyBalanceHashData P (w.net.participant id i1.participant) i1 = true ∧
      verifyBalanceHashData P (w.net.participant id i2.participant) i2 = true ∧ w'.logs = w.logs ++
        [(⟨id, i1.participant, a1, i1.locksroot, i2.participant, a2, i2.locksroot⟩ : ChannelSettledArgs).log] := by
  simp only [settleChannel2, do_ok, getChannelIdentifier_ok] at h
  obtain ⟨i, -, -, -, -, -, -, -, -, hv1, -, hv2, ⟨a1, a2, l1, l2⟩, hamounts, w1, hremove, w2, hstore1, w3, hstore2, w4,
    hpay1, hpay2⟩ := h
  obtain ⟨-, -, hl1, -⟩ := payPositive_ok hpay1
  obtain ⟨-, -, hl2, -⟩ := payPositive_ok hpay2
  rw [storeUnlockData_ok hstore2, storeUnlockData_ok hstore1, removeChannelData_ok hremove] at hl1
  refine ⟨a1, a2, l1, l2, hamounts, hv1, hv2, ?_⟩
  rw [hl2, hl1]
  rfl

/-- what the settlement keeps locked for a side -/
theorem kept_eq_zero_iff {p1 p2 : Participant} {i1 i2 : SettleInput} {a1 a2 l1 l2 : Uint256} (h : Contracts.Covered p1 p2)
    (hr : getSettleTransferAmounts p1 i1.transferredAmount i1.lockedAmount p2 i2.transferredAmount i2.lockedAmount =
      .ok (a1, a2, l1, l2)) :
    (l1 = 0 ↔ i1.lockedAmount = 0 ∨ ¬ Room p1 p2 i1 i2) ∧ (l2 = 0 ↔ i2.lockedAmount = 0 ∨ ¬ Room p2 p1 i2 i1) := by
  have hsettlement := toSettlement_of_ok h hr
  have hcovered := h.withdraws
  simp only [toSettlement, settlementOf, settlement, Settlement.mk.injEq] at hsettlement
  obtain ⟨-, -, h1, h2⟩ := hsettlement
  simp only [← BitVec.toNat_inj, BitVec.ofNat_eq_ofNat, BitVec.toNat_ofNat, Nat.zero_mod, Room]
  constructor <;> omega

/-- what the verified data says about the committed locksroot -/
theorem committed_iff {env : Env} {p : Participant} {i : SettleInput} (hv : verifyBalanceHashData P p i = true) :
    Committed env P p i.locksroot ↔ (p.balanceHash = zeroHash → NoLocks env i.locksroot) := by
  unfold Committed
  split_ifs with hz
  · simp [hz]
  · refine iff_of_true ⟨i.transferredAmount, i.lockedAmount, ?_⟩ fun h => absurd h hz
    simpa [verifyBalanceHashData, hz] using hv

/-- the unlock entry of a side after the settlement is what the settlement keeps locked -/
theorem holdsUnlockData_iff (hP : P.Lawful) {p1 p2 : Client.Address} {u1 u2 : UnlockData}
    {ps : List Payment} {balance : ℕ} (hwf : Wf P w.ledger) (hlive : (w.ledger.channel id).state.live) (h12 : p1 ≠ p2)
    (hledger : w'.ledger = w.ledger.settleFor P id p1 p2 u1 u2 ps balance) :
    (HoldsUnlockData w' id p1 p2 ↔ u1.lockedAmount ≠ 0) ∧ (HoldsUnlockData w' id p2 p1 ↔ u2.lockedAmount ≠ 0) := by
  have hkey : unlockKey P id p2 p1 ≠ unlockKey P id p1 p2 := fun h => h12 ((unlockKey_inj hP h).2.1).symm
  have hn1 := hwf.no_entry hP (.inl hlive) p1 p2
  have hn2 := (storeUnlock_ne (u := u1) hkey).trans (hwf.no_entry hP (.inl hlive) p2 p1)
  have hunlocks : w'.ledger.unlocks = Ledger.storeUnlock (Ledger.storeUnlock w.ledger.unlocks (unlockKey P id p1 p2) u1)
      (unlockKey P id p2 p1) u2 := congrArg Ledger.unlocks hledger
  have hlocked : ∀ key, (w'.net.unlockData key).lockedAmount.toNat =
      if key = unlockKey P id p2 p1 then u2.lockedAmount.toNat
      else if key = unlockKey P id p1 p2 then u1.lockedAmount.toNat else w.ledger.locked key := by
    intro key
    rw [← ledger_locked, Ledger.locked, hunlocks, locked_storeUnlock _ _ _ _ hn2, locked_storeUnlock _ _ _ _ hn1]
    rfl
  have hne : ∀ {a b : Uint256}, a.toNat = b.toNat → (a ≠ 0 ↔ b ≠ 0) := fun h => by rw [BitVec.eq_of_toNat_eq h]
  refine ⟨hne ?_, hne ?_⟩
  · rw [hlocked, if_neg (Ne.symm hkey), if_pos rfl]
  · rw [hlocked, if_pos rfl]

end Contract

/-! ## The client -/

section Client

variable (env : Env) (ch : NettingChannelState)

/-- the channel after the event: removed, or with the two locksroots of the settlement -/
theorem handleChannelSettled_result (id ourAmount partnerAmount blockNumber : ℕ) (ourRoot partnerRoot blockHash : Bytes)
    (hid : id = ch.identifier) :
    ∃ c events, handleStateTransitions env ch blockNumber blockHash (.contractReceiveChannelSettled id ourRoot ourAmount
        partnerRoot partnerAmount blockNumber blockHash) = .ok (c, events) ∧
      ((∃ e ∈ events, Event.isBatchUnlock e = true) ↔ c.isSome) ∧
      (c.isSome ↔ ourRoot ≠ locksrootOfNoLocks env ∨ partnerRoot ≠ locksrootOfNoLocks env) ∧
      ∀ c', c = some c' → c'.ourState.address = ch.ourState.address ∧ c'.partnerState.address = ch.partnerState.address ∧
        c'.ourState.onchainLocksroot = ourRoot ∧ c'.partnerState.onchainLocksroot = partnerRoot := by
  have hmark : ∀ (e : NettingChannelEndState) matched, (markCoopSettled e matched blockNumber).address = e.address := by
    intro e matched
    unfold markCoopSettled
    split_ifs <;> rfl
  by_cases hnone : ourRoot = locksrootOfNoLocks env ∧ partnerRoot = locksrootOfNoLocks env
  · refine ⟨none, [], ?_, by simp, by simp [hnone], fun c' h => by cases h⟩
    simp only [handleStateTransitions, handleChannelSettled, hid, ne_eq, not_true_eq_false, if_false, if_pos hnone]
  · simp only [handleStateTransitions, handleChannelSettled, hid, ne_eq, not_true_eq_false, if_false, if_neg hnone]
    refine ⟨_, _, rfl, by simp [Event.isBatchUnlock], ?_, ?_⟩
    · simp only [Option.isSome_some, true_iff]
      tauto
    · intro c' hc'
      cases hc'
      exact ⟨hmark _ _, hmark _ _, rfl, rfl⟩

variable {env ch} in
/-- which unlocks the client waits for after a settlement with the given locksroots -/
theorem awaitsUnlock_iff {c : Option NettingChannelState} {ourRoot partnerRoot : Bytes}
    (hne : ch.ourState.address ≠ ch.partnerState.address)
    (hsome : c.isSome ↔ ourRoot ≠ locksrootOfNoLocks env ∨ partnerRoot ≠ locksrootOfNoLocks env)
    (hc : ∀ c', c = some c' → c'.ourState.address = ch.ourState.address ∧
      c'.partnerState.address = ch.partnerState.address ∧ c'.ourState.onchainLocksroot = ourRoot ∧
      c'.partnerState.onchainLocksroot = partnerRoot) :
    (AwaitsUnlock env c ch.ourState.address ↔ ourRoot ≠ locksrootOfNoLocks env) ∧
      (AwaitsUnlock env c ch.partnerState.address ↔ partnerRoot ≠ locksrootOfNoLocks env) := by
  constructor
  · constructor
    · rintro ⟨c', rfl, h⟩
      obtain ⟨hours, hpartner, hroot, -⟩ := hc c' rfl
      rcases h with h | h
      · exact hroot ▸ h.2
      · exact absurd (h.1.trans hpartner) hne
    · intro h
      obtain ⟨c', rfl⟩ := Option.isSome_iff_exists.1 (hsome.2 (.inl h))
      obtain ⟨hours, -, hroot, -⟩ := hc c' rfl
      exact ⟨c', rfl, .inl ⟨hours.symm, hroot ▸ h⟩⟩
  · constructor
    · rintro ⟨c', rfl, h⟩
      obtain ⟨hours, hpartner, -, hroot⟩ := hc c' rfl
      rcases h with h | h
      · exact absurd (hours.symm.trans h.1.symm) hne
      · exact hroot ▸ h.2
    · intro h
      obtain ⟨c', rfl⟩ := Option.isSome_iff_exists.1 (hsome.2 (.inr h))
      obtain ⟨-, hpartner, -, hroot⟩ := hc c' rfl
      exact ⟨c', rfl, .inr ⟨hpartner.symm, hroot ▸ h⟩⟩

/-- the client after the log of a settlement between the two ends of its channel, in either order -/
theorem receiveChannelSettled_result (a : ChannelSettledArgs) (blockNumber : ℕ) (blockHash : Bytes)
    (hid : ch.identifier = a.channelIdentifier.toNat) (hne : a.participant1 ≠ a.participant2)
    (hsides : (ch.ourState.address = a.participant1 ∧ ch.partnerState.address = a.participant2) ∨
      (ch.ourState.address = a.participant2 ∧ ch.partnerState.address = a.participant1)) :
    ∃ c events, receiveChannelSettled env ch a blockNumber blockHash = .ok (c, events) ∧
      ((∃ e ∈ events, Event.isBatchUnlock e = true) ↔ c.isSome) ∧
      (c.isSome ↔ ¬ NoLocks env a.participant1Locksroot ∨ ¬ NoLocks env a.participant2Locksroot) ∧
      (AwaitsUnlock env c a.participant1 ↔ ¬ NoLocks env a.participant1Locksroot) ∧
      (AwaitsUnlock env c a.participant2 ↔ ¬ NoLocks env a.participant2Locksroot) := by
  simp only [← decodeLocksroot_eq]
  rcases hsides with ⟨hours, hpartner⟩ | ⟨hours, hpartner⟩
  · obtain ⟨c, events, hok, hevents, hsome, hc⟩ := handleChannelSettled_result env ch
      a.channelIdentifier.toNat a.participant1Amount.toNat a.participant2Amount.toNat blockNumber
      (decodeLocksroot env a.participant1Locksroot) (decodeLocksroot env a.participant2Locksroot) blockHash hid.symm
    have hawaits := awaitsUnlock_iff (by rw [hours, hpartner]; exact hne) hsome hc
    refine ⟨c, events, ?_, hevents, hsome, ?_⟩
    · simp only [receiveChannelSettled, getContractreceivechannelsettledDataFromEvent, hours, if_true]
      exact hok
    · rwa [hours, hpartner] at hawaits
  · obtain ⟨c, events, hok, hevents, hsome, hc⟩ := handleChannelSettled_result env ch
      a.channelIdentifier.toNat a.participant2Amount.toNat a.participant1Amount.toNat blockNumber
      (decodeLocksroot env a.participant2Locksroot) (decodeLocksroot env a.participant1Locksroot) blockHash hid.symm
    have hawaits := awaitsUnlock_iff (by rw [hours, hpartner]; exact Ne.symm hne) hsome hc
    refine ⟨c, events, ?_, hevents, hsome.trans or_comm, ?_⟩
    · simp only [receiveChannelSettled, getContractreceivechannelsettledDataFromEvent, hours, hne, if_false, if_true]
      exact hok
    · rw [hours, hpartner] at hawaits
      exact hawaits.symm

end Client

/-! ## Contract and client -/

/-- the world and the client agree if each side was settled as it was committed; `kept1` and `kept2` say that nothing is kept
for the locks of a side -/
theorem agrees_iff_of_result {P : Platform} {env : Env} {w w' : World P} {a : ChannelSettledArgs}
    {ch : NettingChannelState} {blockNumber : ℕ} {blockHash : Bytes} {kept1 kept2 : Prop} {c : Option NettingChannelState}
    {events : List Event}
    (hcom1 : Committed env P (w.net.participant a.channelIdentifier a.participant1) a.participant1Locksroot ↔
      ((w.net.participant a.channelIdentifier a.participant1).balanceHash = zeroHash → NoLocks env a.participant1Locksroot))
    (hcom2 : Committed env P (w.net.participant a.channelIdentifier a.participant2) a.participant2Locksroot ↔
      ((w.net.participant a.channelIdentifier a.participant2).balanceHash = zeroHash → NoLocks env a.participant2Locksroot))
    (hholds1 : HoldsUnlockData w' a.channelIdentifier a.participant1 a.participant2 ↔ ¬ kept1)
    (hholds2 : HoldsUnlockData w' a.channelIdentifier a.participant2 a.participant1 ↔ ¬ kept2)
    (hok : receiveChannelSettled env ch a blockNumber blockHash = .ok (c, events))
    (hevents : (∃ e ∈ events, Event.isBatchUnlock e = true) ↔ c.isSome)
    (hsome : c.isSome ↔ ¬ NoLocks env a.participant1Locksroot ∨ ¬ NoLocks env a.participant2Locksroot)
    (haw1 : AwaitsUnlock env c a.participant1 ↔ ¬ NoLocks env a.participant1Locksroot)
    (haw2 : AwaitsUnlock env c a.participant2 ↔ ¬ NoLocks env a.participant2Locksroot) :
    SettlementAgrees env w w' a ch blockNumber blockHash ↔
      (((w.net.participant a.channelIdentifier a.participant1).balanceHash = zeroHash →
          NoLocks env a.participant1Locksroot) ∧ (kept1 ↔ NoLocks env a.participant1Locksroot)) ∧
      ((w.net.participant a.channelIdentifier a.participant2).balanceHash = zeroHash →
          NoLocks env a.participant2Locksroot) ∧ (kept2 ↔ NoLocks env a.participant2Locksroot) := by
  constructor
  · rintro ⟨h1, h2, c', events', hok', hp⟩
    rw [hok] at hok'
    cases hok'
    refine ⟨⟨hcom1.1 h1, ?_⟩, hcom2.1 h2, ?_⟩
    · exact not_iff_not.1 ((hholds1.symm.trans hp.first.symm).trans haw1)
    · exact not_iff_not.1 ((hholds2.symm.trans hp.second.symm).trans haw2)
  · rintro ⟨⟨h1, hk1⟩, h2, hk2⟩
    refine ⟨hcom1.2 h1, hcom2.2 h2, c, events, hok, ?_, ?_, ?_, hevents⟩
    · exact haw1.trans ((not_congr hk1).symm.trans hholds1.symm)
    · exact haw2.trans ((not_congr hk2).symm.trans hholds2.symm)
    · rw [hsome, hholds1, hholds2, hk1, hk2]

/-- **Settlement as the client sees it.** For every channel of a deployed contract, every accepted settlement by any caller
and every client of the channel: the log reports what the stored balance hashes commit to, and the client waits for the
unlock of a side exactly where the contract holds tokens for it, if and only if the stored balance hashes and the data of
the call are as `SettledAsCommitted` says for both sides. -/
theorem settlement_agrees_iff (P : Platform) (hP : P.Lawful) (w0 : World P) (h0 : Initial w0) (txs : List (Ctx P × Call P))
    (c : Ctx P) (id : Uint256) (i1 i2 : SettleInput) (w' : World P)
    (h : settleChannel2 (run w0 txs) c id i1 i2 = .ok w') (env : Env) (ch : NettingChannelState)
    (hid : ch.identifier = id.toNat)
    (hsides : (ch.ourState.address = i1.participant ∧ ch.partnerState.address = i2.participant) ∨
      (ch.ourState.address = i2.participant ∧ ch.partnerState.address = i1.participant))
    (blockNumber : ℕ) (blockHash : Bytes) :
    ∃ a1 a2 a, a = ⟨id, i1.participant, a1, i1.locksroot, i2.participant, a2, i2.locksroot⟩ ∧
      w'.logs = (run w0 txs).logs ++ [a.log] ∧
      (SettlementAgrees env (run w0 txs) w' a ch blockNumber blockHash ↔
        SettledAsCommitted env ((run w0 txs).net.participant id i1.participant)
          ((run w0 txs).net.participant id i2.participant) i1 i2 ∧
        SettledAsCommitted env ((run w0 txs).net.participant id i2.participant)
          ((run w0 txs).net.participant id i1.participant) i2 i1) := by
  obtain ⟨a1, a2, l1, l2, hamounts, hv1, hv2, hlogs⟩ := settleChannel2_log h
  obtain ⟨a1', a2', l1', l2', hamounts', h12, hpair, hclosed, hledger, -⟩ := settleChannel2_ok h
  rw [hamounts] at hamounts'
  cases hamounts'
  have hlive : ((run w0 txs).ledger.channel id).state.live := by
    rw [ledger_channel, hclosed]
    trivial
  have hwf := (run_ledger hP h0 txs).1
  have hholds := holdsUnlockData_iff hP hwf hlive h12 hledger
  have hkept := kept_eq_zero_iff (hwf.covered_of_pair (hwf.pair_of_id hP.pairsDistinct hpair hlive).2) hamounts
  obtain ⟨c', events, hok, hevents, hsome, haw1, haw2⟩ := receiveChannelSettled_result env ch
    ⟨id, i1.participant, a1, i1.locksroot, i2.participant, a2, i2.locksroot⟩ blockNumber blockHash hid h12 hsides
  refine ⟨a1, a2, _, rfl, hlogs, ?_⟩
  rw [settledAsCommitted_iff, settledAsCommitted_iff]
  exact agrees_iff_of_result (committed_iff hv1) (committed_iff hv2) (hholds.1.trans (not_congr hkept.1))
    (hholds.2.trans (not_congr hkept.2)) hok hevents hsome haw1 haw2

/-! ## A stranger settles -/

section Example

/-- the channel of the accounts 7 and 8, from the view of 7 -/
def settledChannel : NettingChannelState :=
  newChannel sampleEnv { sampleDetails with canonicalIdentifier := ⟨1, 3, 1⟩, ourAddress := 7, partnerAddress := 8 }

def strangerCtx (timestamp : Uint256) : Ctx (standardPlatform 9) := ⟨5, timestamp, by decide⟩

/-- account 7 opens the channel with its deposit and closes it; nothing was ever transferred -/
def unusedRun : List (Ctx (standardPlatform 9) × Call (standardPlatform 9)) :=
  [(lockCtx 1, .openChannelWithDeposit 7 8 100), (lockCtx 1, .closeChannel 1 8 7 zeroHash 0 [] [] [7])]

def strangeLocksroot : Bytes := List.replicate 32 1

/-- No balance proof is stored and the contract keeps nothing locked, but the log has the locksroot that the stranger
made up: account 7 keeps its channel and looks for a list of locks with that root. -/
theorem stranger_names_locksroot :
    let w := run lockStart unusedRun
    let w' := exec w (strangerCtx 5, .settleChannel 1 7 0 0 strangeLocksroot 8 0 0 [])
    (call w (strangerCtx 5) (.settleChannel 1 7 0 0 strangeLocksroot 8 0 0 [])).isOk = true ∧
      (w.net.participant 1 7).balanceHash = zeroHash ∧ (w.net.participant 1 8).balanceHash = zeroHash ∧
      w'.logs.getLast? = some (.channelSettled 1 7 100 strangeLocksroot 8 0 []) ∧
      w'.net.unlockIdentifierToUnlockData = Dict.empty ∧
      ((receiveChannelSettled sampleEnv settledChannel ⟨1, 7, 100, strangeLocksroot, 8, 0, []⟩ 20 []).toOption.map fun r =>
        (r.1.map fun c => (c.ourState.onchainLocksroot, c.partnerState.onchainLocksroot),
          r.2.map Event.isBatchUnlock)) =
        some (some (strangeLocksroot, locksrootOfNoLocks sampleEnv), [true]) := by
  decide +kernel

/-- the settlement of a channel with a pending lock of account 7, by the stranger and with the committed data -/
theorem settlement_agrees_with_proofs :
    ∃ a, SettlementAgrees sampleEnv (run lockStart lockRun)
      (exec (run lockStart lockRun) (strangerCtx 5, settleCall (standardPlatform 9) 1 lockSide8 lockSide7)) a settledChannel
      20 [] := by
  have hsettle := call_exec_of_isOk (w := run lockStart lockRun) (c := strangerCtx 5)
    (x := settleCall (standardPlatform 9) 1 lockSide8 lockSide7) (by decide +kernel)
  obtain ⟨a1, a2, a, -, -, hiff⟩ := settlement_agrees_iff (standardPlatform 9) (standardPlatform_lawful 9)
    lockStart lockStart_initial lockRun (strangerCtx 5) 1 _ _ _ hsettle sampleEnv settledChannel rfl (.inr ⟨rfl, rfl⟩)
    20 []
  refine ⟨a, hiff.2 ⟨⟨?_, fun _ => .inr rfl, fun h => absurd rfl h⟩, ?_, fun h => absurd h (by decide), fun _ => ?_⟩⟩
  · exact fun hz => absurd hz (by decide +kernel)
  · exact fun hz => absurd hz (by decide +kernel)
  · refine iff_of_true ?_ (by decide +kernel)
    rintro (h | h)
    · exact absurd h (by decide +kernel)
    · exact absurd h (by decide +kernel)

end Example

end Gatecoin.Chain
