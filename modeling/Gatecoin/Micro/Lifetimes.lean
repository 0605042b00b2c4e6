/-
The lifetimes of a micro transfer channel.

A key has a new lifetime whenever a channel is created under it. `Core.Fair` is what each lifetime owes to its two parties:
once settled it has paid the receiver the settlement balance and the sender the rest of what was deposited; while it runs,
what the contract counts as withdrawn is what was withdrawn in it; and a balance proof takes effect in one lifetime only.

`settleChannel` clears the channel and the closing request of a key, but not its withdrawn balance. A key comes back when a
channel is settled and created again in one block, since the key holds the block only, or after 2^32 blocks. So a later
lifetime starts with the withdrawals of an earlier one (`reopened_channel_keeps_withdrawals`), and the old signatures fit.

`lifetimes_fair`: they are fair throughout a run that opens channels under unused keys only.
-/
import Gatecoin.Core.Run
import Gatecoin.Micro.ChannelEffects
import Gatecoin.Micro.ChannelToken

namespace Gatecoin.Micro

open Gatecoin.Core
open Contracts (Address Uint256)
open Dict

/-- what the contract stores under a key, with the record of its present lifetime -/
structure View where
  channel : Channel
  closingRequest : ClosingRequest
  withdrawnBalance : Uint192
  life : ℕ
  book : Life

def Core.view (x : Core) (key : Bytes) : View :=
  ⟨x.channel key, x.closingRequest key, x.withdrawnBalance key, x.life key, x.book key⟩

/-- a settled lifetime has paid the settlement balance to the receiver and the rest of the deposit to the sender -/
def Life.Paid (l : Life) : Prop := ∀ b, l.balance = some b → l.received = b ∧ l.refunded + b = l.deposited

/-- a lifetime that is not settled owes nothing to an earlier one: its deposit and its withdrawals are its own -/
def View.Independent (v : View) : Prop :=
  v.book.balance = none → v.book.received = v.withdrawnBalance.toNat ∧ v.book.deposited = v.channel.deposit.toNat

/-- two uses of one balance proof -/
def ProofUse.Same (u v : ProofUse) : Prop := u.key = v.key ∧ u.balance = v.balance ∧ u.signature = v.signature

/-- the lifetimes of the channels are paid out correctly and independent of each other -/
structure Core.Fair (x : Core) : Prop where
  paid : ∀ key n, (x.bookAt key n).Paid
  independent : ∀ key, (x.view key).Independent
  proofs : ∀ u ∈ x.used, ∀ v ∈ x.used, u.Same v → u.life = v.life

/-- a transaction opens channels only under keys with nothing withdrawn and no balance proof put through so far -/
structure CleanStep {P : Platform} (w : World P) (tx : Ctx P × Call P) : Prop where
  withdrawn : ∀ key, (exec w tx).life key ≠ w.life key → w.contract.withdrawnBalance key = 0
  unused : ∀ key, (exec w tx).life key ≠ w.life key → ∀ u ∈ w.used, u.key ≠ key

theorem cleanStep_iff {P : Platform} (w : World P) (tx : Ctx P × Call P) : CleanStep w tx ↔
    (∀ key ∈ w.contract.withdrawnBalances.keys, (exec w tx).life key ≠ w.life key → w.contract.withdrawnBalance key = 0) ∧
      ∀ u ∈ w.used, (exec w tx).life u.key = w.life u.key := by
  constructor
  · intro h
    exact ⟨fun key _ => h.withdrawn key, fun u hu => of_not_not fun hlife => h.unused u.key hlife u hu rfl⟩
  · rintro ⟨hwithdrawn, hunused⟩
    refine ⟨fun key hlife => ?_, fun key hlife u hu he => hlife (he ▸ hunused u hu)⟩
    by_cases hkey : key ∈ w.contract.withdrawnBalances.keys
    · exact hwithdrawn key hkey hlife
    · rw [GetMicroTransferChannels.withdrawnBalance, get?_eq_none.2 hkey]
      rfl

instance {P : Platform} (w : World P) (tx : Ctx P × Call P) : Decidable (CleanStep w tx) :=
  decidable_of_iff _ (cleanStep_iff w tx).symm

/-! ## The effects on one key -/

/-- what a call does to the key it touches -/
inductive KeyStep (v : View) : View → Prop
  | created (channel : Channel) (hchannel : v.channel = ⟨0, 0⟩) (hclosing : v.closingRequest.settleBlockNumber = 0) :
      KeyStep v { v with
        channel := channel
        life := v.life + 1
        book := ⟨channel.deposit.toNat, 0, 0, none⟩ }
  | toppedUp (added deposit : Uint192) (hopen : 0 < v.channel.openBlockNumber)
      (hclosing : v.closingRequest.settleBlockNumber = 0)
      (hdeposit : deposit.toNat = v.channel.deposit.toNat + added.toNat) :
      KeyStep v { v with
        channel := ⟨deposit, v.channel.openBlockNumber⟩
        book := { v.book with deposited := v.book.deposited + added.toNat } }
  | withdrawn (balance : Uint192) (hopen : 0 < v.channel.openBlockNumber)
      (hclosing : v.closingRequest.settleBlockNumber = 0) (hmore : v.withdrawnBalance.toNat < balance.toNat) :
      KeyStep v { v with
        withdrawnBalance := balance
        book := { v.book with received := v.book.received + (balance.toNat - v.withdrawnBalance.toNat) } }
  | closed (request : ClosingRequest) (hopen : 0 < v.channel.openBlockNumber)
      (hclosing : v.closingRequest.settleBlockNumber = 0)
      (hbalance : request.closingBalance.toNat ≤ v.channel.deposit.toNat) : KeyStep v { v with closingRequest := request }
  | settled (balance : Uint192) (hopen : 0 < v.channel.openBlockNumber)
      (hbalance : balance.toNat ≤ v.channel.deposit.toNat) (hwithdrawn : v.withdrawnBalance.toNat ≤ balance.toNat) :
      KeyStep v { v with
        channel := ⟨0, 0⟩
        closingRequest := ⟨0, 0⟩
        book := { v.book with
          received := v.book.received + (balance.toNat - v.withdrawnBalance.toNat)
          refunded := v.book.refunded + (v.channel.deposit.toNat - balance.toNat)
          balance := some balance.toNat } }

/-- a step touches one key; the lifetimes before keep their records -/
structure Core.Touches (x y : Core) (key : Bytes) : Prop where
  here : KeyStep (x.view key) (y.view key)
  elsewhere : ∀ k ≠ key, y.view k = x.view k
  before : ∀ k n, k ≠ key ∨ n ≠ y.life key → y.bookAt k n = x.bookAt k n

section Steps

variable {x y : Core} {key : Bytes} {taken paid : ℕ} {k : Bytes}

theorem Core.view_record (k : Bytes) (l : Life) :
    (x.record key l).view k = if k = key then { x.view k with book := l } else x.view k := by
  simp only [view, withdrawnBalance_record, life_record, book_record]
  split_ifs <;> rfl

theorem Core.bookAt_record_of_ne (l : Life) {n : ℕ} (hne : k ≠ key ∨ n ≠ (x.record key l).life key) :
    (x.record key l).bookAt k n = x.bookAt k n := by
  rw [bookAt_record, if_neg]
  rintro ⟨hk, hn⟩
  exact hne.elim (fun h => h hk) fun h => h hn

/-- **Effects on keys.** A call touches one key at most. -/
theorem Effect.touches (h : Effect x y taken paid) : y = x ∨ ∃ key, x.Touches y key := by
  cases h with
  | idle => exact .inl rfl
  | created key deposit n hlimit hchannel hclosing =>
    refine .inr ⟨key, ?_, fun k hk => ?_, fun k m hne => Core.bookAt_record_of_ne _ hne⟩
    · convert KeyStep.created (v := x.view key) ⟨deposit, n⟩ hchannel hclosing using 1
      rw [Core.view_record, if_pos rfl, Core.view, Core.channel_set, if_pos rfl, Core.life_set, if_pos rfl]
      rfl
    · rw [Core.view_record, if_neg hk, Core.view, Core.channel_set, if_neg hk, Core.life_set, if_neg hk, Core.book,
        Core.life_set, if_neg hk]
      rfl
  | toppedUp key added deposit hopen hclosing hdeposit hlimit =>
    refine .inr ⟨key, ?_, fun k hk => ?_, fun k m hne => Core.bookAt_record_of_ne _ hne⟩
    · convert KeyStep.toppedUp (v := x.view key) added deposit hopen hclosing hdeposit using 1
      rw [Core.view_record, if_pos rfl, Core.view, Core.channel_set, if_pos rfl]
      rfl
    · rw [Core.view_record, if_neg hk, Core.view, Core.channel_set, if_neg hk]
      rfl
  | withdrawn key balance signature hopen hclosing hbalance hmore =>
    refine .inr ⟨key, ?_, fun k hk => ?_, fun k m hne => Core.bookAt_record_of_ne _ hne⟩
    · convert KeyStep.withdrawn (v := x.view key) balance hopen hclosing hmore using 1
      rw [Core.view_record, if_pos rfl, Core.view, Core.withdrawnBalance_set, if_pos rfl]
      rfl
    · rw [Core.view_record, if_neg hk, Core.view, Core.withdrawnBalance_set, if_neg hk]
      rfl
  | closed key balance n hopen hclosing hbalance hsettle =>
    refine .inr ⟨key, ?_, fun k hk => ?_, fun k m hne => rfl⟩
    · convert KeyStep.closed (v := x.view key) ⟨balance, n⟩ hopen hclosing hbalance using 1
      rw [Core.view, Core.closingRequest_set, if_pos rfl]
      rfl
    · rw [Core.view, Core.closingRequest_set, if_neg hk]
      rfl
  | settled key balance used hopen hbalance hwithdrawn hused =>
    refine .inr ⟨key, ?_, fun k hk => ?_, fun k m hne => Core.bookAt_record_of_ne _ hne⟩
    · convert KeyStep.settled (v := x.view key) balance hopen hbalance hwithdrawn using 1
      rw [Core.view_record, if_pos rfl, Core.view, Core.channel_erase, if_pos rfl, Core.closingRequest_erase, if_pos rfl]
      rfl
    · rw [Core.view_record, if_neg hk, Core.view, Core.channel_erase, if_neg hk, Core.closingRequest_erase, if_neg hk]
      rfl

/-! ## Steps and runs -/

/-- what holds after every call: an open channel is not settled, and nothing is refunded before the settlement -/
structure View.Kept (v : View) : Prop where
  running : 0 < v.channel.openBlockNumber → v.book.balance = none
  unrefunded : v.book.balance = none → v.book.refunded = 0

variable {v v' : View}

theorem KeyStep.kept (h : KeyStep v v') (hv : v.Kept) : v'.Kept := by
  cases h with
  | created channel hchannel hclosing => exact ⟨fun _ => rfl, fun _ => rfl⟩
  | toppedUp | withdrawn | closed => exact ⟨hv.running, hv.unrefunded⟩
  | settled balance hopen hbalance hwithdrawn => exact ⟨fun h => absurd h (by simp), fun h => absurd h (by simp)⟩

/-- a lifetime that starts with nothing withdrawn stays independent of the earlier ones -/
theorem KeyStep.independent (h : KeyStep v v') (hi : v.Independent)
    (hclean : v'.life ≠ v.life → v.withdrawnBalance = 0) : v'.Independent := by
  cases h with
  | created channel hchannel hclosing =>
    have hzero := hclean (Nat.succ_ne_self _)
    exact fun _ => ⟨by rw [hzero]; rfl, rfl⟩
  | toppedUp added deposit hopen hclosing hdeposit =>
    intro hnone
    obtain ⟨hreceived, hdeposited⟩ := hi hnone
    exact ⟨hreceived, by rw [hdeposited]; exact hdeposit.symm⟩
  | withdrawn balance hopen hclosing hmore =>
    intro hnone
    obtain ⟨hreceived, hdeposited⟩ := hi hnone
    refine ⟨?_, hdeposited⟩
    change v.book.received + (balance.toNat - v.withdrawnBalance.toNat) = balance.toNat
    omega
  | closed request hopen hclosing hbalance => exact hi
  | settled balance hopen hbalance hwithdrawn => exact fun h => absurd h (by simp)

/-- the settlement of an independent lifetime pays out its deposit -/
theorem KeyStep.pays (h : KeyStep v v') (hv : v.Kept) (hi : v.Independent) (hp : v.book.Paid) : v'.book.Paid := by
  cases h with
  | created channel hchannel hclosing => exact fun b hb => absurd hb (by simp)
  | toppedUp _ _ hopen | withdrawn _ hopen =>
    intro b hb
    exact absurd (hb.symm.trans (hv.running hopen)) (by simp)
  | closed request hopen hclosing hbalance => exact hp
  | settled balance hopen hbalance hwithdrawn =>
    intro b hb
    obtain rfl := Option.some.inj hb
    obtain ⟨hreceived, hdeposited⟩ := hi (hv.running hopen)
    have hrefunded := hv.unrefunded (hv.running hopen)
    change v.book.received + (balance.toNat - v.withdrawnBalance.toNat) = balance.toNat ∧
      v.book.refunded + (v.channel.deposit.toNat - balance.toNat) + balance.toNat = v.book.deposited
    omega

/-- a call puts a balance proof through in the present lifetime of its key -/
theorem Effect.used (h : Effect x y taken paid) {u : ProofUse} (hu : u ∈ y.used) :
    u ∈ x.used ∨ u.life = y.life u.key := by
  cases h with
  | idle | created | toppedUp | closed => exact .inl hu
  | withdrawn key balance signature hopen hclosing hbalance hmore =>
    rcases List.mem_append.1 hu with hu | hu
    · exact .inl hu
    · rw [List.mem_singleton.1 hu]
      exact .inr rfl
  | settled key balance used hopen hbalance hwithdrawn hused =>
    obtain rfl | ⟨signature, rfl⟩ := hused
    · exact .inl hu
    · rcases List.mem_append.1 hu with hu | hu
      · exact .inl hu
      · rw [List.mem_singleton.1 hu]
        exact .inr rfl

/-- the state of the channels after every call -/
def Core.Kept (x : Core) : Prop := ∀ key, (x.view key).Kept

theorem Effect.kept (h : Effect x y taken paid) (hx : x.Kept) : y.Kept := by
  obtain rfl | ⟨key, ht⟩ := h.touches
  · exact hx
  · intro k
    by_cases hk : k = key
    · subst hk
      exact ht.here.kept (hx k)
    · rw [ht.elsewhere k hk]
      exact hx k

/-- the balance proofs put through so far belong to the present lifetimes -/
def Core.ProofsPresent (x : Core) : Prop := ∀ u ∈ x.used, u.life = x.life u.key

theorem Effect.proofsPresent (h : Effect x y taken paid) (hx : x.ProofsPresent)
    (hunused : ∀ key, y.life key ≠ x.life key → ∀ u ∈ x.used, u.key ≠ key) : y.ProofsPresent := by
  intro u hu
  rcases h.used hu with hold | hnew
  · have hlife : y.life u.key = x.life u.key := of_not_not fun hlife => hunused u.key hlife u hold rfl
    rw [hlife]
    exact hx u hold
  · exact hnew

/-- a clean step keeps the lifetimes fair -/
theorem Effect.fair (h : Effect x y taken paid) (hk : x.Kept) (hx : x.Fair)
    (hwithdrawn : ∀ key, y.life key ≠ x.life key → x.withdrawnBalance key = 0) (hpresent : y.ProofsPresent) : y.Fair := by
  refine ⟨fun k n => ?_, fun k => ?_, fun u hu v hv huv => ?_⟩
  · obtain rfl | ⟨key, ht⟩ := h.touches
    · exact hx.paid k n
    · by_cases hne : k ≠ key ∨ n ≠ y.life key
      · rw [ht.before k n hne]
        exact hx.paid k n
      · simp only [ne_eq, not_or, not_not] at hne
        obtain ⟨rfl, rfl⟩ := hne
        exact ht.here.pays (hk k) (hx.independent k) (hx.paid k _)
  · obtain rfl | ⟨key, ht⟩ := h.touches
    · exact hx.independent k
    · by_cases hne : k = key
      · subst hne
        exact ht.here.independent (hx.independent k) (hwithdrawn k)
      · rw [ht.elsewhere k hne]
        exact hx.independent k
  · rw [hpresent u hu, hpresent v hv, huv.1]

end Steps

section Runs

variable {P : Platform} {w : World P}

theorem exec_accounted (hP : P.Standard) (w : World P) (tx : Ctx P × Call P) : Accounted w (exec w tx) := by
  unfold exec
  cases h : call w tx.1 tx.2 with
  | ok w' => exact call_effect hP h
  | error e => exact .idle rfl (Nat.le_refl _)

/-- a deployed contract has no channel -/
theorem Deployed.core (h : Deployed w) : w.core = ⟨empty, empty, empty, empty, empty, []⟩ := by
  obtain ⟨token, caller, period, contracts, h⟩ := h
  simp only [deploy, do_ok] at h
  obtain ⟨-, -, -, -, -, -, -, -, h⟩ := h
  exact (addTrustedContracts_ok h).1

theorem Deployed.kept (h : Deployed w) : w.core.Kept := by
  rw [h.core]
  exact fun key => ⟨fun _ => rfl, fun _ => rfl⟩

theorem Deployed.proofsPresent (h : Deployed w) : w.core.ProofsPresent := by
  rw [h.core]
  exact fun u hu => absurd hu (by simp)

theorem Deployed.fair (h : Deployed w) : w.core.Fair := by
  rw [h.core]
  exact ⟨fun key n b hb => absurd hb (by simp [Core.bookAt]), fun key _ => ⟨rfl, rfl⟩, fun u hu => absurd hu (by simp)⟩

/-- **Fairness of lifetimes.** In a run from the deployment, with a standard token, in which every channel is opened under a
key with nothing withdrawn and no balance proof put through so far, every lifetime is paid out correctly and independently
of the earlier ones. -/
theorem lifetimes_fair (hP : P.Standard) (hw : Deployed w) (txs : List (Ctx P × Call P))
    (hclean : Along exec CleanStep w txs) : Along exec (fun w tx => (exec w tx).core.Fair) w txs := by
  refine along_of_invariant (P := fun w : World P => w.core.Kept ∧ w.core.ProofsPresent ∧ w.core.Fair) exec ?_
    ⟨hw.kept, hw.proofsPresent, hw.fair⟩ hclean
  rintro w tx ⟨hkept, hpresent, hfair⟩ hclean
  obtain ⟨taken, paid, heffect, -⟩ := exec_accounted hP w tx
  have hpresent' := heffect.proofsPresent hpresent hclean.unused
  have hfair' := heffect.fair hkept hfair hclean.withdrawn hpresent'
  exact ⟨hfair', heffect.kept hkept, hpresent', hfair'⟩

end Runs

/-! ## A key that comes back -/

namespace Reopening

/-- the contract has the address 1 and the token the address 2; the sender 3 has approved its 100 tokens -/
abbrev platform : Platform := channelPlatform 1 2

def token : ChannelToken := ⟨⟨empty.set 3 100, empty.set (3, 1) 100⟩, by decide⟩

def start : World platform :=
  ⟨⟨9, 500, empty, empty, empty, empty⟩, token, [], empty, empty, []⟩

/-- a transaction of the sender 3 or the receiver 4 in block 7 -/
def sender : Ctx platform := ⟨3, 7, by decide⟩

def receiver : Ctx platform := ⟨4, 7, by decide⟩

/-- the sender deposits 10, the receiver withdraws 4, and they close at 4 -/
def firstLife : List (Ctx platform × Call platform) :=
  [(sender, .createChannel 4 10), (receiver, .withdraw 7 4 [3]), (sender, .cooperativeClose 4 7 4 [3] [4])]

/-- the same sender and receiver once more, in the same block, with the old signatures -/
def secondLife : List (Ctx platform × Call platform) :=
  [(sender, .createChannel 4 10), (sender, .cooperativeClose 4 7 4 [3] [4])]

def key : Bytes := getKey platform 3 4 7

end Reopening

section Reopened

open Reopening

theorem lifetimes_fair_first_life : Deployed Reopening.start ∧ Along exec CleanStep Reopening.start firstLife ∧
    Along exec (fun w tx => (exec w tx).core.Fair) Reopening.start firstLife := by
  have hdeployed : Deployed Reopening.start := ⟨token, 9, 500, [], rfl⟩
  have hclean : Along exec CleanStep Reopening.start firstLife := by decide +kernel
  exact ⟨hdeployed, hclean, lifetimes_fair (channelPlatform_standard 1 2) hdeployed firstLife hclean⟩

/-- **A reopened channel keeps the withdrawals.** The second lifetime takes 10 tokens and settles at 4. Its receiver gets
nothing and its sender 6, both with the signatures of the first lifetime; 4 tokens stay in the contract for good. -/
theorem reopened_channel_keeps_withdrawals :
    Deployed Reopening.start ∧ platform.Standard ∧
      (runFrom exec Reopening.start (firstLife ++ secondLife)).book Reopening.key 1 = ⟨10, 4, 6, some 4⟩ ∧
      (runFrom exec Reopening.start (firstLife ++ secondLife)).book Reopening.key 2 = ⟨10, 0, 6, some 4⟩ ∧
      (runFrom exec Reopening.start (firstLife ++ secondLife)).used =
        [⟨Reopening.key, 1, 4, [3]⟩, ⟨Reopening.key, 1, 4, [3]⟩, ⟨Reopening.key, 2, 4, [3]⟩] ∧
      ¬ (runFrom exec Reopening.start (firstLife ++ secondLife)).core.Fair := by
  have hbook : (runFrom exec Reopening.start (firstLife ++ secondLife)).book Reopening.key 2 = ⟨10, 0, 6, some 4⟩ := by
    decide +kernel
  refine ⟨⟨token, 9, 500, [], rfl⟩, channelPlatform_standard 1 2, by decide +kernel, hbook, by decide +kernel, fun hfair => ?_⟩
  have hpaid := hfair.paid Reopening.key 2
  change ((runFrom exec Reopening.start (firstLife ++ secondLife)).book Reopening.key 2).Paid at hpaid
  rw [hbook] at hpaid
  exact absurd (hpaid 4 rfl).1 (by decide)

end Reopened

end Gatecoin.Micro
