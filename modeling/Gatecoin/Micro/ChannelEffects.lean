/-
What a call of the GetMicroTransferChannels contract can do.

A successful call opens a channel, adds to its deposit, pays the receiver, starts the challenge period or settles the channel,
of one key, or does none of these (`Effect`). `call_effect` says that nothing else happens, behind which checks, and how the
token balance of the contract changes.
-/
import Gatecoin.Micro.TransferChannels

namespace Gatecoin.Micro

open Gatecoin.Core
open Contracts (Address Uint256)
open BitVec

/-- the storage of the channels and the records about them -/
structure Core where
  channels : Dict Bytes Channel
  closingRequests : Dict Bytes ClosingRequest
  withdrawnBalances : Dict Bytes Uint192
  lives : Dict Bytes ℕ
  books : Dict (Bytes × ℕ) Life
  used : List ProofUse

namespace Core

def channel (x : Core) (key : Bytes) : Channel := (x.channels.get? key).getD ⟨0, 0⟩

def closingRequest (x : Core) (key : Bytes) : ClosingRequest := (x.closingRequests.get? key).getD ⟨0, 0⟩

def withdrawnBalance (x : Core) (key : Bytes) : Uint192 := (x.withdrawnBalances.get? key).getD 0

def life (x : Core) (key : Bytes) : ℕ := (x.lives.get? key).getD 0

def bookAt (x : Core) (key : Bytes) (life : ℕ) : Life := (x.books.get? (key, life)).getD ⟨0, 0, 0, none⟩

/-- the record of the present lifetime -/
def book (x : Core) (key : Bytes) : Life := x.bookAt key (x.life key)

/-- the record of the present lifetime is changed -/
def record (x : Core) (key : Bytes) (l : Life) : Core := { x with books := x.books.set (key, x.life key) l }

section Accessors

variable (x : Core) (key k : Bytes) (l : Life) {channels : Dict Bytes Channel} {closingRequests : Dict Bytes ClosingRequest}
  {withdrawnBalances : Dict Bytes Uint192} {lives : Dict Bytes ℕ} {books : Dict (Bytes × ℕ) Life} {used : List ProofUse}

theorem channel_set (c : Channel) :
    channel ⟨x.channels.set key c, closingRequests, withdrawnBalances, lives, books, used⟩ k =
      if k = key then c else x.channel k := by
  simp only [channel, Dict.get?_set]
  split_ifs <;> rfl

theorem channel_erase : channel ⟨x.channels.erase key, closingRequests, withdrawnBalances, lives, books, used⟩ k =
    if k = key then ⟨0, 0⟩ else x.channel k := by
  simp only [channel, Dict.get?_erase]
  split_ifs <;> rfl

theorem closingRequest_set (c : ClosingRequest) :
    closingRequest ⟨channels, x.closingRequests.set key c, withdrawnBalances, lives, books, used⟩ k =
      if k = key then c else x.closingRequest k := by
  simp only [closingRequest, Dict.get?_set]
  split_ifs <;> rfl

theorem closingRequest_erase :
    closingRequest ⟨channels, x.closingRequests.erase key, withdrawnBalances, lives, books, used⟩ k =
      if k = key then ⟨0, 0⟩ else x.closingRequest k := by
  simp only [closingRequest, Dict.get?_erase]
  split_ifs <;> rfl

theorem withdrawnBalance_set (v : Uint192) :
    withdrawnBalance ⟨channels, closingRequests, x.withdrawnBalances.set key v, lives, books, used⟩ k =
      if k = key then v else x.withdrawnBalance k := by
  simp only [withdrawnBalance, Dict.get?_set]
  split_ifs <;> rfl

theorem life_set (n : ℕ) : life ⟨channels, closingRequests, withdrawnBalances, x.lives.set key n, books, used⟩ k =
    if k = key then n else x.life k := by
  simp only [life, Dict.get?_set]
  split_ifs <;> rfl

@[simp] theorem withdrawnBalance_record : (x.record key l).withdrawnBalance k = x.withdrawnBalance k := rfl

@[simp] theorem life_record : (x.record key l).life k = x.life k := rfl

theorem bookAt_record (n : ℕ) : (x.record key l).bookAt k n = if k = key ∧ n = x.life key then l else x.bookAt k n := by
  simp only [bookAt, record, Dict.get?_set, Prod.mk.injEq]
  split_ifs <;> rfl

theorem book_record : (x.record key l).book k = if k = key then l else x.book k := by
  rw [book, life_record, bookAt_record]
  by_cases hk : k = key
  · rw [if_pos ⟨hk, by rw [hk]⟩, if_pos hk]
  · rw [if_neg fun h => hk h.1, if_neg hk]
    rfl

end Accessors

end Core

def World.core {P : Platform} (w : World P) : Core :=
  ⟨w.contract.channels, w.contract.closingRequests, w.contract.withdrawnBalances, w.lives, w.books, w.used⟩

/-- what a call does to the channels, with the tokens that the contract takes and pays -/
inductive Effect (x : Core) : Core → ℕ → ℕ → Prop
  | idle : Effect x x 0 0
  | created (key : Bytes) (deposit : Uint192) (openBlockNumber : Uint32)
      (hlimit : deposit.toNat ≤ channelDepositBugbountyLimit) (hchannel : x.channel key = ⟨0, 0⟩)
      (hclosing : (x.closingRequest key).settleBlockNumber = 0) :
      Effect x (Core.record { x with
          channels := (x.channels.set key ⟨deposit, openBlockNumber⟩)
          lives := (x.lives.set key (x.life key + 1)) } key ⟨deposit.toNat, 0, 0, none⟩) deposit.toNat 0
  | toppedUp (key : Bytes) (added deposit : Uint192) (hopen : 0 < (x.channel key).openBlockNumber)
      (hclosing : (x.closingRequest key).settleBlockNumber = 0)
      (hdeposit : deposit.toNat = (x.channel key).deposit.toNat + added.toNat)
      (hlimit : deposit.toNat ≤ channelDepositBugbountyLimit) :
      Effect x (Core.record { x with
          channels := (x.channels.set key ⟨deposit, (x.channel key).openBlockNumber⟩) } key
        { x.book key with deposited := (x.book key).deposited + added.toNat }) added.toNat 0
  | withdrawn (key : Bytes) (balance : Uint192) (signature : Bytes) (hopen : 0 < (x.channel key).openBlockNumber)
      (hclosing : (x.closingRequest key).settleBlockNumber = 0) (hbalance : balance.toNat ≤ (x.channel key).deposit.toNat)
      (hmore : (x.withdrawnBalance key).toNat < balance.toNat) :
      Effect x (Core.record { x with
          withdrawnBalances := (x.withdrawnBalances.set key balance)
          used := x.used ++ [⟨key, x.life key, balance, signature⟩] } key
        { x.book key with received := (x.book key).received + (balance.toNat - (x.withdrawnBalance key).toNat) }) 0
        (balance.toNat - (x.withdrawnBalance key).toNat)
  | closed (key : Bytes) (balance : Uint192) (settleBlockNumber : Uint32) (hopen : 0 < (x.channel key).openBlockNumber)
      (hclosing : (x.closingRequest key).settleBlockNumber = 0)
      (hbalance : balance.toNat ≤ (x.channel key).deposit.toNat) (hsettle : 0 < settleBlockNumber.toNat) :
      Effect x { x with closingRequests := (x.closingRequests.set key ⟨balance, settleBlockNumber⟩) } 0 0
  | settled (key : Bytes) (balance : Uint192) (used : List ProofUse) (hopen : 0 < (x.channel key).openBlockNumber)
      (hbalance : balance.toNat ≤ (x.channel key).deposit.toNat)
      (hwithdrawn : (x.withdrawnBalance key).toNat ≤ balance.toNat)
      (hused : used = x.used ∨ ∃ signature, used = x.used ++ [⟨key, x.life key, balance, signature⟩]) :
      Effect x (Core.record { x with
          channels := x.channels.erase key
          closingRequests := x.closingRequests.erase key
          used := used } key
        { x.book key with
          received := (x.book key).received + (balance.toNat - (x.withdrawnBalance key).toNat)
          refunded := (x.book key).refunded + ((x.channel key).deposit.toNat - balance.toNat)
          balance := some balance.toNat }) 0
        (balance.toNat - (x.withdrawnBalance key).toNat + ((x.channel key).deposit.toNat - balance.toNat))

section Effects

variable {P : Platform} {w w' : World P} {c : Ctx P} {sender : Address} {amount : Uint192} {blockNumber : ℕ}
  {deposit : Uint192} {added : Uint192} {w1 : World P} {caller : Address} {l : List Address} {receiver : Address}
  {openBlockNumber : Uint32} {balance : Uint192}

/-- the tokens that the contract holds -/
def World.holds (w : World P) : ℕ := (P.balanceOf w.token P.self).toNat

/-- an effect with the change of what the contract holds -/
def Accounted (w w' : World P) : Prop :=
  ∃ taken paid, Effect w.core w'.core taken paid ∧ w.holds + taken ≤ w'.holds + paid

theorem takeTokens_ok (hP : P.Standard) {src : Address} (hsrc : src ≠ P.self)
    (h : takeTokens w src amount = .ok w') : w'.core = w.core ∧ w.holds + amount.toNat = w'.holds := by
  simp only [takeTokens, do_ok, Prod.exists] at h
  obtain ⟨done, token, htransfer, -, rfl, rfl⟩ := h
  refine ⟨rfl, ?_⟩
  have hmoved := hP.transferFrom_moves _ _ _ _ _ _ htransfer P.self
  have hwidth : (amount.setWidth 256).toNat = amount.toNat := toNat_setWidth_of_le (by decide)
  rw [if_neg hsrc.symm, if_pos rfl, hwidth] at hmoved
  exact hmoved.symm

theorem payTokens_ok (hP : P.Standard) {dst : Address} (h : payTokens w dst amount = .ok w') :
    w'.core = w.core ∧ w.holds ≤ w'.holds + amount.toNat := by
  simp only [payTokens, do_ok, Prod.exists] at h
  obtain ⟨done, token, htransfer, -, rfl, rfl⟩ := h
  refine ⟨rfl, ?_⟩
  have hmoved := hP.transfer_moves _ _ _ _ _ htransfer P.self
  have hwidth : (amount.setWidth 256).toNat = amount.toNat := toNat_setWidth_of_le (by decide)
  rw [if_pos rfl, hwidth] at hmoved
  simp only [World.holds]
  omega

@[simp] theorem core_log (w : World P) (l : Log) : (w.log l).core = w.core := rfl

theorem createChannelPrivate_ok (h : createChannelPrivate w blockNumber sender receiver deposit = .ok w') :
    Effect w.core w'.core deposit.toNat 0 ∧ w'.holds = w.holds := by
  simp only [createChannelPrivate, do_ok] at h
  obtain ⟨-, hlimit, -, hdeposit, -, hblock, -, hclosing, rfl⟩ := h
  have hchannel : w.core.channel (getKey P sender receiver (BitVec.ofNat 32 blockNumber)) = ⟨0, 0⟩ := by
    rw [← hdeposit, ← hblock]
    rfl
  exact ⟨.created _ deposit _ hlimit hchannel hclosing, rfl⟩

theorem updateInternalBalanceStructs_ok
    (h : updateInternalBalanceStructs w sender receiver openBlockNumber added = .ok w') :
    Effect w.core w'.core added.toNat 0 ∧ w'.holds = w.holds := by
  simp only [updateInternalBalanceStructs, do_ok, assertThat_ok] at h
  obtain ⟨-, -, -, -, -, hopen, -, hclosing, -, hlimit, -, hassert, rfl⟩ := h
  -- the assertion excludes that the sum has wrapped around
  have hsum : ((w.contract.channel (getKey P sender receiver openBlockNumber)).deposit + added).toNat =
      (w.contract.channel (getKey P sender receiver openBlockNumber)).deposit.toNat + added.toNat := by
    bv_omega
  exact ⟨.toppedUp _ added _ hopen hclosing hsum hlimit, rfl⟩

theorem core_record (w : World P) (key : Bytes) (f : Life → Life) :
    (w.record key f).core = w.core.record key (f (w.core.book key)) := rfl

theorem Accounted.of_eq {taken paid : ℕ} {x : Core} (h : Effect w.core x taken paid) (hx : w'.core = x)
    (hholds : w.holds + taken ≤ w'.holds + paid) : Accounted w w' := ⟨taken, paid, hx ▸ h, hholds⟩

theorem settleChannel_ok (hP : P.Standard) {uses : List ProofUse} (hused : w.used = uses ∨ ∃ signature, w.used =
      uses ++ [⟨getKey P sender receiver openBlockNumber, w.life (getKey P sender receiver openBlockNumber),
        balance, signature⟩])
    (h : settleChannel w sender receiver openBlockNumber balance = .ok w') : Accounted { w with used := uses } w' := by
  simp only [settleChannel, do_ok] at h
  obtain ⟨-, hopen, -, hbalance, -, hwithdrawn, w1, h1, w2, h2, rfl⟩ := h
  obtain ⟨hcore1, hholds1⟩ := payTokens_ok hP h1
  obtain ⟨hcore2, hholds2⟩ := payTokens_ok hP h2
  have hreceiver := toNat_sub_of_le hwithdrawn
  have hsender := toNat_sub_of_le hbalance
  have heffect : Effect (World.core { w with used := uses }) _ 0 _ :=
    .settled (getKey P sender receiver openBlockNumber) balance w.used hopen (le_def.1 hbalance)
      (le_def.1 hwithdrawn) hused
  refine .of_eq heffect ?_ ?_
  · rw [core_log, core_record, hcore2, hcore1, hreceiver, hsender]
    rfl
  · rw [hreceiver] at hholds1
    rw [hsender] at hholds2
    change w.holds ≤ _ at hholds1
    change w.holds + 0 ≤ w2.holds + ((balance.toNat - (w.contract.withdrawnBalance _).toNat) +
      ((w.contract.channel _).deposit.toNat - balance.toNat))
    omega

theorem createChannel_ok (hP : P.Standard) {sender payer : Address}
    (hpayer : payer ≠ P.self) (h : createChannelPrivate w blockNumber sender receiver deposit = .ok w1)
    (htake : takeTokens w1 payer deposit = .ok w') : Accounted w w' := by
  obtain ⟨heffect, hholds⟩ := createChannelPrivate_ok h
  obtain ⟨hcore, htaken⟩ := takeTokens_ok hP hpayer htake
  exact .of_eq heffect hcore (by omega)

theorem topUp_ok (hP : P.Standard) {sender payer : Address} (hpayer : payer ≠ P.self)
    (h : updateInternalBalanceStructs w sender receiver openBlockNumber added = .ok w1)
    (htake : takeTokens w1 payer added = .ok w') : Accounted w w' := by
  obtain ⟨heffect, hholds⟩ := updateInternalBalanceStructs_ok h
  obtain ⟨hcore, htaken⟩ := takeTokens_ok hP hpayer htake
  exact .of_eq heffect hcore (by omega)

theorem withdraw_ok (hP : P.Standard) {signature : Bytes}
    (h : withdraw w c openBlockNumber balance signature = .ok w') : Accounted w w' := by
  simp only [withdraw, do_ok] at h
  obtain ⟨-, -, sender, -, -, hopen, -, hclosing, -, hbalance, -, hmore, w1, hpay, rfl⟩ := h
  obtain ⟨hcore, hholds⟩ := payTokens_ok hP hpay
  have hpaid := BitVec.toNat_sub_of_le (BitVec.le_of_lt hmore)
  have heffect : Effect w.core _ 0 _ := .withdrawn (getKey P sender c.sender openBlockNumber) balance signature hopen
    hclosing (BitVec.le_def.1 hbalance) (BitVec.lt_def.1 hmore)
  refine .of_eq heffect ?_ ?_
  · have huse : (w1.use (getKey P sender c.sender openBlockNumber) balance signature).core =
        { w1.core with used := w1.core.used ++
          [⟨getKey P sender c.sender openBlockNumber, w1.core.life (getKey P sender c.sender openBlockNumber), balance,
            signature⟩] } := rfl
    rw [core_log, core_record, huse, hcore, hpaid]
    rfl
  · rw [hpaid] at hholds
    exact hholds

theorem uncooperativeClose_ok (h : uncooperativeClose w c receiver openBlockNumber balance = .ok w') : Accounted w w' := by
  simp only [uncooperativeClose, do_ok] at h
  obtain ⟨-, hopen, -, hclosing, -, hbalance, -, hlate, rfl⟩ := h
  have heffect : Effect w.core _ 0 0 := .closed (getKey P c.sender receiver openBlockNumber) balance
    (BitVec.ofNat 32 c.blockNumber + w.contract.challengePeriod) hopen hclosing (BitVec.le_def.1 hbalance) (by omega)
  exact .of_eq heffect rfl (Nat.le_refl _)

theorem cooperativeClose_ok (hP : P.Standard) {balanceMsgSig closingSig : Bytes}
    (h : cooperativeClose w receiver openBlockNumber balance balanceMsgSig closingSig = .ok w') : Accounted w w' := by
  simp only [cooperativeClose, do_ok] at h
  obtain ⟨sender, -, recovered, -, -, -, h⟩ := h
  have hsettled : Accounted { w.use (getKey P sender receiver openBlockNumber) balance balanceMsgSig with
      used := w.used } w' := settleChannel_ok hP (Or.inr ⟨balanceMsgSig, rfl⟩) h
  exact hsettled

theorem settle_ok (hP : P.Standard) (h : settle w c receiver openBlockNumber = .ok w') : Accounted w w' := by
  simp only [settle, do_ok] at h
  obtain ⟨-, -, -, -, h⟩ := h
  have hsettled : Accounted { w with used := w.used } w' := settleChannel_ok hP (Or.inl rfl) h
  exact hsettled

/-- a loop over the trusted contracts touches no channel -/
theorem foldl_core {f : World P → Address → World P} (hf : ∀ w a, (f w a).core = w.core ∧ (f w a).holds = w.holds)
    (l : List Address) : ∀ w, (l.foldl f w).core = w.core ∧ (l.foldl f w).holds = w.holds := by
  induction l with
  | nil => exact fun w => ⟨rfl, rfl⟩
  | cons a l ih =>
    intro w
    obtain ⟨hcore, hholds⟩ := ih (f w a)
    exact ⟨hcore.trans (hf w a).1, hholds.trans (hf w a).2⟩

theorem addTrustedContracts_ok (h : addTrustedContracts w caller l = .ok w') : w'.core = w.core ∧ w'.holds = w.holds := by
  simp only [addTrustedContracts, do_ok] at h
  obtain ⟨-, -, rfl⟩ := h
  refine foldl_core (fun w a => ?_) l w
  split_ifs <;> exact ⟨rfl, rfl⟩

theorem removeTrustedContracts_ok (h : removeTrustedContracts w caller l = .ok w') :
    w'.core = w.core ∧ w'.holds = w.holds := by
  simp only [removeTrustedContracts, do_ok] at h
  obtain ⟨-, -, rfl⟩ := h
  refine foldl_core (fun w a => ?_) l w
  split_ifs <;> exact ⟨rfl, rfl⟩

theorem Accounted.idle (hcore : w'.core = w.core) (hholds : w.holds ≤ w'.holds) : Accounted w w' :=
  .of_eq .idle hcore hholds

theorem transferWithData_ok (hP : P.Standard) {value : Uint256} {data : Bytes}
    (h : call w c (.transferWithData value data) = .ok w') : Accounted w w' := by
  simp only [call, do_ok, Prod.exists] at h
  obtain ⟨done, token, htransfer, -, rfl, h⟩ := h
  have hmoved := hP.transfer_moves _ _ _ _ _ htransfer P.self
  rw [if_neg c.external.1.symm, if_pos rfl] at hmoved
  simp only [tokenFallback, do_ok] at h
  obtain ⟨-, -, -, hwidth, -, -, -, -, h⟩ := h
  have hvalue : (value.setWidth 192).toNat = value.toNat := by
    conv_rhs => rw [← hwidth]
    exact (toNat_setWidth_of_le (by decide)).symm
  have hholds : w.holds + (value.setWidth 192).toNat = World.holds { w with token := token } := by
    rw [hvalue]
    exact hmoved.symm
  by_cases hlength : data.length = 40
  · rw [if_pos hlength] at h
    obtain ⟨heffect, hsame⟩ := createChannelPrivate_ok h
    exact .of_eq (w := w) heffect rfl (by omega)
  · rw [if_neg hlength] at h
    obtain ⟨heffect, hsame⟩ := updateInternalBalanceStructs_ok h
    exact .of_eq (w := w) heffect rfl (by omega)

/-- **Effects of calls.** A successful call has one effect on the channels, and the contract's tokens follow it. -/
theorem call_effect (hP : P.Standard) {f : Call P} (h : call w c f = .ok w') : Accounted w w' := by
  cases f with
  | createChannel receiver deposit =>
    simp only [call, createChannel, bind_ok] at h
    obtain ⟨w1, h1, h2⟩ := h
    exact createChannel_ok hP c.external.1 h1 h2
  | createChannelDelegate sender receiver deposit =>
    simp only [call, createChannelDelegate, bind_ok] at h
    obtain ⟨-, -, w1, h1, h2⟩ := h
    exact createChannel_ok hP c.external.1 h1 h2
  | topUp receiver n added =>
    simp only [call, topUp, bind_ok] at h
    obtain ⟨w1, h1, h2⟩ := h
    exact topUp_ok hP c.external.1 h1 h2
  | topUpDelegate sender receiver n added =>
    simp only [call, topUpDelegate, bind_ok] at h
    obtain ⟨-, -, w1, h1, h2⟩ := h
    exact topUp_ok hP c.external.1 h1 h2
  | withdraw n balance sig => exact withdraw_ok hP h
  | cooperativeClose receiver n balance sig closingSig => exact cooperativeClose_ok hP h
  | uncooperativeClose receiver n balance => exact uncooperativeClose_ok h
  | settle receiver n => exact settle_ok hP h
  | addTrustedContracts l =>
    obtain ⟨hcore, hholds⟩ := addTrustedContracts_ok h
    exact .idle hcore hholds.ge
  | removeTrustedContracts l =>
    obtain ⟨hcore, hholds⟩ := removeTrustedContracts_ok h
    exact .idle hcore hholds.ge
  | tokenFallback sender deposit data =>
    simp only [call, tokenFallback, do_ok] at h
    exact absurd h.choose_spec.1 c.external.2
  | transferWithData value data => exact transferWithData_ok hP h
  | tokenActivity token =>
    simp only [call, do_ok] at h
    obtain ⟨-, hmore, rfl⟩ := h
    exact .idle rfl (le_def.1 hmore)

end Effects

end Gatecoin.Micro
