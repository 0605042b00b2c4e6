/-
The way out of a micro transfer channel for a sender whose receiver does not cooperate.

After `uncooperativeClose` and the challenge period the sender calls `settle`. The contract always holds enough tokens for
it (`Covered`: the open channels' deposits minus what was withdrawn are held), and nobody can move the closing request while
the channel is not settled (`closing_request_stays`). But `uncooperativeClose` accepts a balance below what the receiver has
already withdrawn, which `settleChannel` refuses, and a channel cannot be closed a second time: such a sender is stuck
(`settle_of_low_closing_balance_reverts`).

`settle_after_challenge_iff`: the settlement goes through exactly when the closing balance covers the withdrawals, and the
token accepts the two recipients. `channels_solvent`: what is left in all open channels is held.
-/
import Gatecoin.Micro.Lifetimes

namespace Gatecoin.Micro

open Gatecoin.Core
open Contracts (Address Uint256)
open BitVec

/-! ## The tokens that the contract holds -/

/-- what is left in the channels after the withdrawals -/
def owed (channels : Dict Bytes Channel) (withdrawn : Bytes → Uint192) : ℕ :=
  channels.sum fun key c => c.deposit.toNat - (withdrawn key).toNat

def Core.owed (x : Core) : ℕ := Micro.owed x.channels x.withdrawnBalance

section Solvency

variable {x y : Core} {taken paid : ℕ}

/-- the share of one key -/
theorem elim_channel (channels : Dict Bytes Channel) (key : Bytes) (v : ℕ) :
    (channels.get? key).elim 0 (fun c => c.deposit.toNat - v) =
      ((channels.get? key).getD ⟨0, 0⟩).deposit.toNat - v := by
  cases channels.get? key with
  | none => simp
  | some c => rfl

theorem owed_set (x : Core) (key : Bytes) (c : Channel) :
    owed (x.channels.set key c) x.withdrawnBalance +
        ((x.channel key).deposit.toNat - (x.withdrawnBalance key).toNat) =
      x.owed + (c.deposit.toNat - (x.withdrawnBalance key).toNat) := by
  rw [Core.channel, ← elim_channel]
  exact Dict.sum_set x.channels (fun key c => c.deposit.toNat - (x.withdrawnBalance key).toNat) key c

theorem owed_erase (x : Core) (key : Bytes) : owed (x.channels.erase key) x.withdrawnBalance +
    ((x.channel key).deposit.toNat - (x.withdrawnBalance key).toNat) = x.owed := by
  rw [Core.channel, ← elim_channel]
  exact Dict.sum_erase x.channels (fun key c => c.deposit.toNat - (x.withdrawnBalance key).toNat) key

theorem Core.withdrawnBalance_update (x : Core) (key : Bytes) (balance : Uint192) {used : List ProofUse} {l : Life} :
    Core.withdrawnBalance (Core.record { x with
      withdrawnBalances := (x.withdrawnBalances.set key balance)
      used := used } key l) = Function.update x.withdrawnBalance key balance := by
  funext k
  rw [withdrawnBalance_record, withdrawnBalance_set, Function.update_apply]

/-- a withdrawal changes the share of its own key only -/
theorem owed_withdrawn (x : Core) (key : Bytes) (balance : Uint192) :
    owed x.channels (Function.update x.withdrawnBalance key balance) +
        ((x.channel key).deposit.toNat - (x.withdrawnBalance key).toNat) =
      x.owed + ((x.channel key).deposit.toNat - balance.toNat) := by
  have hold := owed_erase x key
  have hnew := Dict.sum_erase x.channels
    (fun k c => c.deposit.toNat - (Function.update x.withdrawnBalance key balance k).toNat) key
  have hrest : owed (x.channels.erase key) (Function.update x.withdrawnBalance key balance) =
      owed (x.channels.erase key) x.withdrawnBalance := by
    refine Dict.sum_congr _ _ _ fun k c hget => ?_
    rw [Dict.get?_erase] at hget
    by_cases hk : k = key
    · rw [if_pos hk] at hget
      cases hget
    · rw [Function.update_of_ne hk]
  rw [elim_channel, Function.update_self] at hnew
  change owed (x.channels.erase key) (Function.update x.withdrawnBalance key balance) +
    ((x.channel key).deposit.toNat - balance.toNat) = owed x.channels (Function.update x.withdrawnBalance key balance) at hnew
  omega

/-- what the contract owes changes by what it takes and pays -/
theorem Effect.owed (h : Effect x y taken paid) : y.owed + paid ≤ x.owed + taken := by
  cases h with
  | idle | closed => exact Nat.le_refl _
  | created key deposit n hlimit hchannel hclosing =>
    have hset := owed_set x key ⟨deposit, n⟩
    change Micro.owed (x.channels.set key ⟨deposit, n⟩) x.withdrawnBalance + 0 ≤ _
    dsimp only at hset
    omega
  | toppedUp key added deposit hopen hclosing hdeposit hlimit =>
    have hset := owed_set x key ⟨deposit, (x.channel key).openBlockNumber⟩
    change Micro.owed (x.channels.set key ⟨deposit, (x.channel key).openBlockNumber⟩) x.withdrawnBalance + 0 ≤ _
    dsimp only at hset
    omega
  | withdrawn key balance signature hopen hclosing hbalance hmore =>
    have hset := owed_withdrawn x key balance
    rw [Core.owed, Core.withdrawnBalance_update]
    change Micro.owed x.channels (Function.update x.withdrawnBalance key balance) + _ ≤ _
    omega
  | settled key balance used hopen hbalance hwithdrawn hused =>
    have herase := owed_erase x key
    change Micro.owed (x.channels.erase key) x.withdrawnBalance + _ ≤ _
    omega

end Solvency

/-! ## The closing request -/

/-- the channel of a key waits, in its lifetime `n`, for the settlement of a closing request -/
structure View.Waiting (v : View) (n : ℕ) (request : ClosingRequest) (withdrawn : Uint192) : Prop where
  life : v.life = n
  opened : 0 < v.channel.openBlockNumber
  closing : v.closingRequest = request
  requested : request.settleBlockNumber ≠ 0
  withdrawn : v.withdrawnBalance = withdrawn
  balance : request.closingBalance.toNat ≤ v.channel.deposit.toNat

/-- the lifetime `n` of a key is over -/
def Core.Over (x : Core) (key : Bytes) (n : ℕ) : Prop := n ≤ x.life key ∧ (x.bookAt key n).balance ≠ none

section Closing

variable {x y : Core} {v v' : View} {taken paid n : ℕ} {key : Bytes} {request : ClosingRequest} {withdrawn : Uint192}

/-- while the request waits, nothing but the settlement can happen to the channel -/
theorem KeyStep.waiting (h : KeyStep v v') (hw : v.Waiting n request withdrawn) :
    v'.life = n ∧ v'.book.balance ≠ none := by
  have hrequested : v.closingRequest.settleBlockNumber ≠ 0 := hw.closing ▸ hw.requested
  cases h with
  | created _ _ hclosing | toppedUp _ _ _ hclosing | withdrawn _ _ hclosing | closed _ _ hclosing =>
    exact absurd hclosing hrequested
  | settled balance hopen hbalance hwithdrawn => exact ⟨hw.life, by simp⟩

theorem KeyStep.life_le (h : KeyStep v v') : v.life ≤ v'.life := by
  cases h with
  | created => exact Nat.le_succ _
  | toppedUp | withdrawn | closed | settled => exact Nat.le_refl _

/-- a settled lifetime is changed no more: the next step of its key opens a new one -/
theorem KeyStep.life_of_settled (h : KeyStep v v') (hv : v.Kept) (hs : v.book.balance ≠ none) : v'.life = v.life + 1 := by
  cases h with
  | created channel hchannel hclosing => rfl
  | toppedUp _ _ hopen | withdrawn _ hopen | closed _ hopen | settled _ hopen => exact absurd (hv.running hopen) hs

theorem Effect.over (h : Effect x y taken paid) (hk : x.Kept) (hx : x.Over key n) : y.Over key n := by
  obtain ⟨hle, hover⟩ := hx
  obtain rfl | ⟨k, ht⟩ := h.touches
  · exact ⟨hle, hover⟩
  · by_cases hkey : key = k
    · subst hkey
      have hlife : n ≠ y.life key := by
        rintro rfl
        have hlow : y.life key = x.life key := Nat.le_antisymm hle ht.here.life_le
        rw [hlow] at hover
        have hnext := ht.here.life_of_settled (hk key) hover
        exact absurd (hlow.symm.trans hnext) (Nat.succ_ne_self _).symm
      exact ⟨Nat.le_trans hle ht.here.life_le, by rwa [ht.before key n (.inr hlife)]⟩
    · refine ⟨hle.trans_eq (congrArg View.life (ht.elsewhere key hkey)).symm, ?_⟩
      rwa [ht.before key n (.inl hkey)]

theorem Effect.waiting (h : Effect x y taken paid) (hx : (x.view key).Waiting n request withdrawn) :
    (y.view key).Waiting n request withdrawn ∨ y.Over key n := by
  obtain rfl | ⟨k, ht⟩ := h.touches
  · exact .inl hx
  · by_cases hkey : key = k
    · subst hkey
      obtain ⟨rfl, hsettled⟩ := ht.here.waiting hx
      exact .inr ⟨Nat.le_refl _, hsettled⟩
    · rw [ht.elsewhere key hkey]
      exact .inl hx

end Closing

section Exit

variable {P : Platform} {w : World P} {openBlockNumber : Uint32} {n : ℕ} {request : ClosingRequest} {withdrawn : Uint192}
  {balance : Uint192} {c : Ctx P} {receiver : Address}

/-- what every run keeps: the books of the channels, and the tokens that they need -/
structure World.Covered (w : World P) : Prop where
  kept : w.core.Kept
  owed : w.core.owed ≤ w.holds

theorem exec_covered (hP : P.Standard) (hw : w.Covered) (tx : Ctx P × Call P) : (exec w tx).Covered := by
  obtain ⟨taken, paid, heffect, hholds⟩ := exec_accounted hP w tx
  have howed := heffect.owed
  have hbefore := hw.owed
  exact ⟨heffect.kept hw.kept, by omega⟩

theorem Deployed.covered (h : Deployed w) : w.Covered := by
  refine ⟨h.kept, ?_⟩
  rw [h.core]
  exact Nat.zero_le _

theorem run_covered (hP : P.Standard) (hw : w.Covered) (txs : List (Ctx P × Call P)) : (runFrom exec w txs).Covered := by
  induction txs generalizing w with
  | nil => exact hw
  | cons tx txs ih => exact ih (exec_covered hP hw tx)

/-- a closing request waits until its lifetime is over -/
theorem closing_request_stays (hP : P.Standard) (hw : w.Covered) {key : Bytes}
    (hwaiting : (w.core.view key).Waiting n request withdrawn ∨ w.core.Over key n)
    (txs : List (Ctx P × Call P)) :
    ((runFrom exec w txs).core.view key).Waiting n request withdrawn ∨ (runFrom exec w txs).core.Over key n := by
  induction txs generalizing w with
  | nil => exact hwaiting
  | cons tx txs ih =>
    obtain ⟨taken, paid, heffect, -⟩ := exec_accounted hP w tx
    refine ih (exec_covered hP hw tx) ?_
    rcases hwaiting with hwaiting | hover
    · exact heffect.waiting hwaiting
    · exact .inr (heffect.over hw.kept hover)

variable {accepts : Address → Prop}

theorem payTokens_succeeds (hpays : P.PaysTo accepts) {dst : Address} {amount : Uint192} (hheld : amount.toNat ≤ w.holds) :
    accepts dst ↔ ∃ w', payTokens w dst amount = .ok w' := by
  have hwidth : (amount.setWidth 256).toNat = amount.toNat := toNat_setWidth_of_le (by decide)
  have hle : amount.setWidth 256 ≤ P.balanceOf w.token P.self := le_def.2 (hwidth.trans_le hheld)
  rw [hpays w.token P.self dst _ hle]
  simp only [payTokens, do_ok, Prod.exists]
  constructor
  · rintro ⟨t', ht'⟩
    exact ⟨_, true, t', ht', (), rfl, rfl⟩
  · rintro ⟨-, done, t', ht', -, rfl, -⟩
    exact ⟨t', ht'⟩

/-- the share of an open channel is held -/
theorem World.Covered.share (hw : w.Covered) (key : Bytes) :
    (w.core.channel key).deposit.toNat - (w.core.withdrawnBalance key).toNat ≤ w.holds := by
  have hshare := owed_erase w.core key
  have howed := hw.owed
  omega

/-- a settlement with a balance that the deposit covers -/
theorem settleChannel_iff (hP : P.Standard) (hpays : P.PaysTo accepts) (hw : w.Covered) {sender receiver : Address}
    (hopen : 0 < (w.contract.channel (getKey P sender receiver openBlockNumber)).openBlockNumber)
    (hbalance : balance ≤ (w.contract.channel (getKey P sender receiver openBlockNumber)).deposit) :
    (∃ w', settleChannel w sender receiver openBlockNumber balance = .ok w') ↔
      w.contract.withdrawnBalance (getKey P sender receiver openBlockNumber) ≤ balance ∧ accepts receiver ∧
        accepts sender := by
  have hshare := hw.share (getKey P sender receiver openBlockNumber)
  change (w.contract.channel _).deposit.toNat - (w.contract.withdrawnBalance _).toNat ≤ w.holds at hshare
  have hrefund := toNat_sub_of_le hbalance
  have hle := le_def.1 hbalance
  -- both payments are held, whichever of them is made
  have hfirst : w.contract.withdrawnBalance (getKey P sender receiver openBlockNumber) ≤ balance →
      (balance - w.contract.withdrawnBalance (getKey P sender receiver openBlockNumber)).toNat ≤ w.holds := by
    intro hwithdrawn
    rw [toNat_sub_of_le hwithdrawn]
    omega
  simp only [settleChannel, do_ok]
  generalize getKey P sender receiver openBlockNumber = key at *
  generalize hcleared : ({ w with contract := { w.contract with
    channels := w.contract.channels.erase key
    closingRequests := w.contract.closingRequests.erase key } } : World P) = cleared
  have hheld : cleared.holds = w.holds := by rw [← hcleared]; rfl
  have hsecond : ∀ w1, w.contract.withdrawnBalance key ≤ balance →
      payTokens cleared receiver (balance - w.contract.withdrawnBalance key) = .ok w1 →
      ((w.contract.channel key).deposit - balance).toNat ≤ w1.holds := by
    intro w1 hwithdrawn h1
    have hpaid := (payTokens_ok hP h1).2
    have hless := le_def.1 hwithdrawn
    rw [toNat_sub_of_le hwithdrawn] at hpaid
    omega
  constructor
  · rintro ⟨w', -, -, -, -, -, hwithdrawn, w1, h1, w2, h2, -⟩
    exact ⟨hwithdrawn, (payTokens_succeeds hpays (hheld ▸ hfirst hwithdrawn)).2 ⟨w1, h1⟩,
      (payTokens_succeeds hpays (hsecond w1 hwithdrawn h1)).2 ⟨w2, h2⟩⟩
  · rintro ⟨hwithdrawn, hreceiver, hsender⟩
    obtain ⟨w1, h1⟩ := (payTokens_succeeds hpays (hheld ▸ hfirst hwithdrawn)).1 hreceiver
    obtain ⟨w2, h2⟩ := (payTokens_succeeds hpays (hsecond w1 hwithdrawn h1)).1 hsender
    exact ⟨_, (), hopen, (), hbalance, (), hwithdrawn, w1, h1, w2, h2, rfl⟩

theorem settle_iff (hP : P.Standard) (hpays : P.PaysTo accepts) (hw : w.Covered)
    (hwaiting : (w.core.view (getKey P c.sender receiver openBlockNumber)).Waiting n request withdrawn)
    (hlate : request.settleBlockNumber.toNat < c.blockNumber) :
    (∃ w', settle w c receiver openBlockNumber = .ok w') ↔
      withdrawn ≤ request.closingBalance ∧ accepts receiver ∧ accepts c.sender := by
  obtain ⟨-, hopened, rfl, hrequested, rfl, hbalance⟩ := hwaiting
  change (w.contract.closingRequest (getKey P c.sender receiver openBlockNumber)).settleBlockNumber ≠ 0 at hrequested
  have hpositive : 0 < (w.contract.closingRequest (getKey P c.sender receiver openBlockNumber)).settleBlockNumber := by
    bv_omega
  refine Iff.trans ?_ (settleChannel_iff hP hpays hw hopened (le_def.2 hbalance))
  simp only [settle, do_ok]
  constructor
  · rintro ⟨w', -, -, -, -, h⟩
    exact ⟨w', h⟩
  · rintro ⟨w', h⟩
    exact ⟨w', (), hpositive, (), hlate, h⟩

/-- a close request that goes through waits for its settlement, after the challenge period -/
theorem uncooperativeClose_waiting {w' : World P}
    (h : uncooperativeClose w c receiver openBlockNumber balance = .ok w') : ∃ request : ClosingRequest,
      request.closingBalance = balance ∧
      request.settleBlockNumber.toNat = c.blockNumber + w'.contract.challengePeriod.toNat ∧
      (w'.core.view (getKey P c.sender receiver openBlockNumber)).Waiting
        (w'.life (getKey P c.sender receiver openBlockNumber)) request
        (w'.contract.withdrawnBalance (getKey P c.sender receiver openBlockNumber)) := by
  simp only [uncooperativeClose, do_ok] at h
  obtain ⟨-, hopen, -, hclosing, -, hbalance, -, hlate, rfl⟩ := h
  refine ⟨⟨balance, BitVec.ofNat 32 c.blockNumber + w.contract.challengePeriod⟩, rfl, ?_, rfl, hopen, ?_, ?_, rfl,
    BitVec.le_def.1 hbalance⟩
  · -- the check that the settlement lies ahead excludes that the sum has wrapped around
    change (BitVec.ofNat 32 c.blockNumber + w.contract.challengePeriod).toNat = _
    change c.blockNumber < (BitVec.ofNat 32 c.blockNumber + w.contract.challengePeriod).toNat at hlate
    have hfits := (BitVec.ofNat 32 c.blockNumber + w.contract.challengePeriod).isLt
    rw [BitVec.toNat_add, BitVec.toNat_ofNat] at hlate ⊢
    have hperiod := w.contract.challengePeriod.isLt
    change _ = c.blockNumber + w.contract.challengePeriod.toNat
    omega
  · exact (Core.closingRequest_set w.core _ _ _).trans (if_pos rfl)
  · intro hzero
    have hzero : BitVec.ofNat 32 c.blockNumber + w.contract.challengePeriod = 0 := hzero
    rw [hzero] at hlate
    exact absurd hlate (by simp)

/-- **The sender's exit.** In every run from the deployment, with a standard token: when the sender has requested to close the
channel, its lifetime has not been settled since, and the challenge period is over, the sender's `settle` succeeds exactly
when the closing balance is not below what the receiver had withdrawn and the token accepts both recipients. -/
theorem settle_after_challenge_iff (hP : P.Standard) (hpays : P.PaysTo accepts) (hw : Deployed w)
    (before after : List (Ctx P × Call P)) {closing settling : Ctx P} {receiver : Address} {openBlockNumber : Uint32}
    {balance : Uint192} {w' : World P}
    (hclose : call (runFrom exec w before) closing (.uncooperativeClose receiver openBlockNumber balance) = .ok w')
    (hunsettled : ((runFrom exec w' after).book (getKey P closing.sender receiver openBlockNumber)
      (w'.life (getKey P closing.sender receiver openBlockNumber))).balance = none)
    (hsender : settling.sender = closing.sender)
    (hpassed : closing.blockNumber + w'.contract.challengePeriod.toNat < settling.blockNumber) :
    (∃ w'', call (runFrom exec w' after) settling (.settle receiver openBlockNumber) = .ok w'') ↔
      w'.contract.withdrawnBalance (getKey P closing.sender receiver openBlockNumber) ≤ balance ∧ accepts receiver ∧
        accepts closing.sender := by
  have hcovered := run_covered hP hw.covered before
  have hnext : exec (runFrom exec w before) (closing, .uncooperativeClose receiver openBlockNumber balance) = w' := by
    rw [exec, hclose]
  have hcovered' : w'.Covered := hnext ▸ exec_covered hP hcovered _
  obtain ⟨request, rfl, hblock, hwaiting⟩ := uncooperativeClose_waiting hclose
  obtain hstill | hover := closing_request_stays hP hcovered' (.inl hwaiting) after
  · rw [← hsender] at hstill ⊢
    exact settle_iff hP hpays (run_covered hP hcovered' after) hstill (hblock ▸ hpassed)
  · exact absurd hunsettled hover.2

/-- **Solvency.** In every run from the deployment, with a standard token, the contract holds what is left in all open
channels together. So whatever happens to the other channels, one can be settled at every balance that its deposit covers. -/
theorem channels_solvent (hP : P.Standard) (hpays : P.PaysTo accepts) (hw : Deployed w) (txs : List (Ctx P × Call P)) :
    let w' := runFrom exec w txs
    (w'.contract.channels.sum fun key c => c.deposit.toNat - (w'.contract.withdrawnBalance key).toNat) ≤
        (P.balanceOf w'.token P.self).toNat ∧
      ∀ sender receiver openBlockNumber balance,
        0 < (w'.contract.channel (getKey P sender receiver openBlockNumber)).openBlockNumber →
        balance ≤ (w'.contract.channel (getKey P sender receiver openBlockNumber)).deposit →
        ((∃ w'', settleChannel w' sender receiver openBlockNumber balance = .ok w'') ↔
          w'.contract.withdrawnBalance (getKey P sender receiver openBlockNumber) ≤ balance ∧ accepts receiver ∧
            accepts sender) := by
  have hcovered := run_covered hP hw.covered txs
  exact ⟨hcovered.owed, fun _ _ _ _ hopen hbalance => settleChannel_iff hP hpays hcovered hopen hbalance⟩

end Exit

/-! ## A closing balance below the withdrawals -/

namespace Stuck

open Reopening (platform token sender receiver)

/-- the sender's transaction after the challenge period, which ends in block 507 -/
def late : Ctx platform := ⟨3, 508, sender.external⟩

/-- the sender deposits 10 and the receiver withdraws 4 -/
def before : List (Ctx platform × Call platform) := [(sender, .createChannel 4 10), (receiver, .withdraw 7 4 [3])]

/-- the world after the sender has asked to close at a balance -/
def closedAt (balance : Uint192) : World platform :=
  exec (runFrom exec Reopening.start before) (sender, .uncooperativeClose 4 7 balance)

end Stuck

section Settlements

open Reopening Stuck

/-- at the balance 5 the settlement pays one token to the receiver and 5 to the sender -/
theorem settle_after_challenge_of_five :
    ∃ w'', call (closedAt 5) late (.settle 4 7) = .ok w'' := by
  have hdeployed : Deployed Reopening.start := ⟨token, 9, 500, [], rfl⟩
  have hclose : call (runFrom exec Reopening.start before) Reopening.sender (.uncooperativeClose 4 7 5) =
      .ok (closedAt 5) := rfl
  have hsender : late.sender = Reopening.sender.sender := rfl
  exact (settle_after_challenge_iff (channelPlatform_standard 1 2) (channelPlatform_paysTo 1 2) hdeployed before []
    hclose (by decide +kernel) hsender (by decide +kernel)).2 (by decide +kernel)

/-- the 6 tokens that are left are held, and the channel can be settled at 5 -/
theorem channels_solvent_before : ∃ w'', settleChannel (runFrom exec Reopening.start before) 3 4 7 5 = .ok w'' :=
  ((channels_solvent (channelPlatform_standard 1 2) (channelPlatform_paysTo 1 2) ⟨token, 9, 500, [], rfl⟩ before).2 3 4 7 5
    (by decide +kernel) (by decide +kernel)).2 (by decide +kernel)

/-- **A sender that cannot leave.** The receiver has withdrawn 4 of 10 tokens and the sender asks to close at the balance 0,
which the contract accepts. After the challenge period the settlement reverts, and the sender cannot close again: the 6
tokens that are left come back only with the receiver's signature. -/
theorem settle_of_low_closing_balance_reverts :
    Deployed Reopening.start ∧ platform.Standard ∧ platform.PaysTo (fun dst => dst ≠ 0 ∧ dst ≠ 2) ∧
      call (runFrom exec Reopening.start before) Reopening.sender (.uncooperativeClose 4 7 0) = .ok (closedAt 0) ∧
      ((closedAt 0).contract.channel (getKey platform 3 4 7)).deposit = 10 ∧
      (¬ ∃ w'', call (closedAt 0) late (.settle 4 7) = .ok w'') ∧
      ∀ balance, ¬ ∃ w'', call (closedAt 0) late (.uncooperativeClose 4 7 balance) = .ok w'' := by
  refine ⟨⟨token, 9, 500, [], rfl⟩, channelPlatform_standard 1 2, channelPlatform_paysTo 1 2, rfl, by decide +kernel, ?_, ?_⟩
  · rintro ⟨w'', h⟩
    simp only [call, settle, settleChannel, do_ok] at h
    obtain ⟨-, -, -, -, -, -, -, -, -, hwithdrawn, -⟩ := h
    exact absurd hwithdrawn (by decide +kernel)
  · rintro balance ⟨w'', h⟩
    simp only [call, uncooperativeClose, do_ok] at h
    obtain ⟨-, -, -, hclosing, -⟩ := h
    exact absurd hclosing (by decide +kernel)

end Settlements

end Gatecoin.Micro
