/-
The ledger behind the TokenNetwork contract: what its calls do to the tokens it holds, and the invariants of that.

`Ledger` keeps the parts of the contract that decide who is owed what: the channels with their participants, the pair
index, the unlock entries, the token balance, the payments made and taken, and the openings and unlocks read from the
log. `Effect` lists everything a call can do to it:
- `opened`: a new channel for a pair that has none;
- `deposited`, `withdrawn`: one participant's deposit or withdrawn amount grows, with the token movement;
- `closed`: an Opened channel is closed by one of its participants;
- `proved`: the balance proof of a participant of a Closed channel is replaced by one with a higher nonce;
- `settled`: a live channel is removed, its available deposit split into payments and two unlock entries;
- `unlocked`: an unlock entry is removed and paid out.

Result: `effect_wf`. Every effect preserves `Wf`: a live channel belongs to one registered pair, only the two participants
of a channel have data in it, the deposits cover the withdraws, and unlock entries belong to removed channels.

Premise: different pairs of participants have different hashes.
-/
import Gatecoin.Contracts.TokenNetwork

namespace Gatecoin.Contracts

open Gatecoin.Core List Dict

/-! ## Identifiers -/

/-- the key of a pair of participants, in either order -/
def pairHash (P : Platform) (a b : Address) : Bytes :=
  if a < b then P.keccak256 (addressBytes a ++ addressBytes b) else P.keccak256 (addressBytes b ++ addressBytes a)

/-- the key of the unlock entry for the locks of `sender` -/
def unlockKey (P : Platform) (id : Uint256) (sender receiver : Address) : Bytes :=
  P.keccak256 (uintBytes id ++ addressBytes sender ++ addressBytes receiver)

variable {P : Platform}

theorem addressBytes_inj {a b : Address} (h : addressBytes a = addressBytes b) : a = b := by
  have h256 : (256 : ℕ) ^ 20 = 2 ^ 160 := by norm_num
  exact BitVec.toNat_inj.1 (toBytesBE_inj (h256 ▸ a.isLt) (h256 ▸ b.isLt) h)

theorem uintBytes_inj {a b : Uint256} (h : uintBytes a = uintBytes b) : a = b := by
  have h256 : (256 : ℕ) ^ 32 = 2 ^ 256 := by norm_num
  exact BitVec.toNat_inj.1 (toBytesBE_inj (h256 ▸ a.isLt) (h256 ▸ b.isLt) h)

@[simp] theorem length_addressBytes (a : Address) : (addressBytes a).length = 20 := length_toBytesBE _ _

@[simp] theorem length_uintBytes (a : Uint256) : (uintBytes a).length = 32 := length_toBytesBE _ _

theorem pairHash_comm (P : Platform) (a b : Address) : pairHash P a b = pairHash P b a := by
  unfold pairHash
  simp only [BitVec.lt_def]
  rcases Nat.lt_trichotomy a.toNat b.toNat with h | h | h
  · rw [if_pos h, if_neg (Nat.lt_asymm h)]
  · rw [BitVec.toNat_inj.1 h]
  · rw [if_neg (Nat.lt_asymm h), if_pos h]

/-- a pair's key determines the pair -/
theorem pairHash_inj (hP : P.Lawful) {a b c d : Address} (h : pairHash P a b = pairHash P c d) :
    a = c ∧ b = d ∨ a = d ∧ b = c := by
  have hinj : ∀ {x y z u : Address}, P.keccak256 (addressBytes x ++ addressBytes y) =
      P.keccak256 (addressBytes z ++ addressBytes u) → x = z ∧ y = u := by
    intro x y z u hk
    obtain ⟨h1, h2⟩ := append_inj (hP.keccak256_injOn (by simp) (by simp) hk) (by simp)
    exact ⟨addressBytes_inj h1, addressBytes_inj h2⟩
  unfold pairHash at h
  split_ifs at h with h1 h2 h2 <;> have := hinj h <;> tauto

/-- the pairs of participants have different keys -/
def Platform.PairsDistinct (P : Platform) : Prop :=
  ∀ a b c d, pairHash P a b = pairHash P c d → a = c ∧ b = d ∨ a = d ∧ b = c

theorem Platform.Lawful.pairsDistinct (hP : P.Lawful) : P.PairsDistinct := fun _ _ _ _ => pairHash_inj hP

theorem unlockKey_inj (hP : P.Lawful) {id id' : Uint256} {s r s' r' : Address}
    (h : unlockKey P id s r = unlockKey P id' s' r') : id = id' ∧ s = s' ∧ r = r' := by
  obtain ⟨h1, h2⟩ := append_inj (hP.keccak256_injOn (by simp) (by simp) h) (by simp)
  obtain ⟨h3, h4⟩ := append_inj h1 (by simp)
  exact ⟨uintBytes_inj h3, addressBytes_inj h4, addressBytes_inj h2⟩

/-! ## Payments -/

def total (ps : List Payment) : ℕ := (ps.map fun p => p.amount.toNat).sum

/-- the payments made for a channel -/
def totalFor (id : Uint256) (ps : List Payment) : ℕ := total (ps.filter fun p => p.channel = id)

/-- the payments made to an account -/
def totalTo (a : Address) (ps : List Payment) : ℕ := total (ps.filter fun p => p.account = a)

@[simp] theorem total_append (ps qs : List Payment) : total (ps ++ qs) = total ps + total qs := by simp [total]

@[simp] theorem totalFor_append (id : Uint256) (ps qs : List Payment) :
    totalFor id (ps ++ qs) = totalFor id ps + totalFor id qs := by simp [totalFor]

@[simp] theorem totalTo_append (a : Address) (ps qs : List Payment) :
    totalTo a (ps ++ qs) = totalTo a ps + totalTo a qs := by simp [totalTo]

theorem totalFor_of_all {id : Uint256} {ps : List Payment} (h : ∀ p ∈ ps, p.channel = id) : totalFor id ps = total ps := by
  rw [totalFor, filter_eq_self.2 fun p hp => by simp [h p hp]]

theorem totalFor_of_none {id id' : Uint256} {ps : List Payment} (h : ∀ p ∈ ps, p.channel = id) (hne : id' ≠ id) :
    totalFor id' ps = 0 := by
  rw [totalFor, filter_eq_nil_iff.2 fun p hp => by simp [h p hp, Ne.symm hne]]
  rfl

/-- payments of one channel, to its two participants -/
def PaysTo (id : Uint256) (p1 p2 : Address) (ps : List Payment) : Prop :=
  ∀ x ∈ ps, x.channel = id ∧ (x.account = p1 ∨ x.account = p2)

/-! ## The ledger -/

structure Ledger where
  counter : ℕ
  channels : Dict Uint256 Channel
  pairs : Dict Bytes Uint256
  unlocks : Dict Bytes UnlockData
  balance : ℕ
  /-- the channels ever opened: identifier and participants -/
  opened : List (Uint256 × Address × Address)
  /-- the unlocks ever made: identifier, receiver and sender -/
  unlocked : List (Uint256 × Address × Address)
  paid : List Payment
  taken : List Payment

def ChannelState.live : ChannelState → Prop
  | .opened => True
  | .closed => True
  | _ => False

instance : (s : ChannelState) → Decidable s.live
  | .opened => isTrue trivial
  | .closed => isTrue trivial
  | .nonExistent => isFalse id
  | .settled => isFalse id
  | .removed => isFalse id

theorem live_iff {s : ChannelState} : s.live ↔ s = .opened ∨ s = .closed := by
  cases s <;> simp [ChannelState.live]

/-- deposit minus withdrawn amount -/
def Participant.share (p : Participant) : ℤ := (p.deposit.toNat : ℤ) - p.withdrawnAmount.toNat

/-- what an Opened or Closed channel holds: D1 + D2 - W1 - W2 -/
def Channel.held (ch : Channel) : ℤ := if ch.state.live then ch.participants.sum fun _ p => p.share else 0

namespace Ledger

def channel (k : Ledger) (id : Uint256) : Channel := (k.channels.get? id).getD Channel.zero

def participant (k : Ledger) (id : Uint256) (p : Address) : Participant :=
  ((k.channel id).participants.get? p).getD Participant.zero

def setParticipant (k : Ledger) (id : Uint256) (state : ChannelState) (p : Address) (st : Participant) : Ledger :=
  { k with channels := k.channels.set id ⟨state, (k.channel id).participants.set p st⟩ }

/-- the amount of an unlock entry -/
def locked (k : Ledger) (key : Bytes) : ℕ := ((k.unlocks.get? key).map fun u => u.lockedAmount.toNat).getD 0

/-- what the contract owes: the live channels' holdings and the unlock entries -/
def owed (k : Ledger) : ℤ :=
  (k.channels.sum fun _ ch => ch.held) + ((k.unlocks.sum fun _ u => u.lockedAmount.toNat : ℕ) : ℤ)

/-- store an unlock entry, unless its amount is zero -/
def storeUnlock (unlocks : Dict Bytes UnlockData) (key : Bytes) (u : UnlockData) : Dict Bytes UnlockData :=
  if u.lockedAmount = 0 then unlocks else unlocks.set key u

/-- a new channel for a pair -/
def openFor (k : Ledger) (P : Platform) (id : Uint256) (p1 p2 : Address) : Ledger :=
  { k with
    counter := id.toNat
    pairs := k.pairs.set (pairHash P p1 p2) id
    channels := k.channels.set id ⟨.opened, (k.channel id).participants⟩
    opened := k.opened ++ [(id, p1, p2)] }

/-- remove the channel of a pair, keep `u1` and `u2` locked and make the payments `ps` -/
def settleFor (k : Ledger) (P : Platform) (id : Uint256) (p1 p2 : Address) (u1 u2 : UnlockData) (ps : List Payment)
    (balance : ℕ) : Ledger :=
  { k with
    channels := k.channels.set id ⟨.nonExistent, ((k.channel id).participants.erase p1).erase p2⟩
    pairs := k.pairs.erase (pairHash P p1 p2)
    unlocks := storeUnlock (storeUnlock k.unlocks (unlockKey P id p1 p2) u1) (unlockKey P id p2 p1) u2
    balance := balance
    paid := k.paid ++ ps }

/-- remove an unlock entry and make the payments `ps` -/
def unlockFor (k : Ledger) (P : Platform) (id : Uint256) (receiver sender : Address) (ps : List Payment)
    (balance : ℕ) : Ledger :=
  { k with
    unlocks := k.unlocks.erase (unlockKey P id sender receiver)
    unlocked := k.unlocked ++ [(id, receiver, sender)]
    balance := balance
    paid := k.paid ++ ps }

/-- the ledger of a fresh deployment -/
def fresh : Ledger := ⟨0, empty, empty, empty, 0, [], [], [], []⟩

end Ledger

open Ledger

variable {k : Ledger} {id : Uint256}

/-- the calls that end an Opened channel -/
def Call.Ends (id : Uint256) : Call P → Prop
  | .closeChannel id' _ _ _ _ _ _ _ | .cooperativeSettle id' _ _ => id' = id
  | _ => False

/-- the calls that store a balance proof -/
def Call.Proves (id : Uint256) : Call P → Prop
  | .closeChannel id' _ _ _ _ _ _ _ | .updateNonClosingBalanceProof id' _ _ _ _ _ _ _ => id' = id
  | _ => False

/-- what a call can do to the ledger; the balance is as a lawful token leaves it -/
inductive Effect (x : Call P) : Ledger → Ledger → Prop where
  | opened (k : Ledger) (id : Uint256) (p1 p2 : Address) (hid : id.toNat = k.counter + 1)
      (h1 : p1 ≠ 0) (h2 : p2 ≠ 0) (h12 : p1 ≠ p2) (hpair : (k.pairs.get? (pairHash P p1 p2)).getD 0 = 0) :
      Effect x k (k.openFor P id p1 p2)
  | deposited (k : Ledger) (id : Uint256) (p q src : Address) (d v : Uint256) (balance : ℕ)
      (hid : (k.pairs.get? (pairHash P p q)).getD 0 = id) (hopen : (k.channel id).state = .opened)
      (hdep : d.toNat = (k.participant id p).deposit.toNat + v.toNat)
      (hfit : d.toNat + (k.participant id q).deposit.toNat < 2 ^ 256) (hb : P.Lawful → balance = k.balance + v.toNat) :
      Effect x k { k.setParticipant id .opened p { k.participant id p with deposit := d } with
        balance := balance
        taken := k.taken ++ [⟨id, src, v⟩] }
  | withdrawn (k : Ledger) (id : Uint256) (p q : Address) (d v : Uint256) (balance : ℕ)
      (hid : (k.pairs.get? (pairHash P p q)).getD 0 = id) (hopen : (k.channel id).state = .opened)
      (hwit : d.toNat = (k.participant id p).withdrawnAmount.toNat + v.toNat)
      (hcover : d.toNat + (k.participant id q).withdrawnAmount.toNat ≤
        (k.participant id p).deposit.toNat + (k.participant id q).deposit.toNat)
      (hb : P.Lawful → balance + v.toNat = k.balance + totalTo P.self [⟨id, p, v⟩]) :
      Effect x k { k.setParticipant id .opened p { k.participant id p with withdrawnAmount := d } with
        balance := balance
        paid := k.paid ++ [⟨id, p, v⟩] }
  | closed (k : Ledger) (id : Uint256) (p q : Address) (hid : (k.pairs.get? (pairHash P p q)).getD 0 = id)
      (hopen : (k.channel id).state = .opened) (hx : x.Ends id) :
      Effect x k (k.setParticipant id .closed p { k.participant id p with isTheCloser := true })
  | proved (k : Ledger) (id : Uint256) (p q : Address) (nonce : Uint256) (hash : Bytes)
      (hid : (k.pairs.get? (pairHash P p q)).getD 0 = id) (hclosed : (k.channel id).state = .closed)
      (hnonce : (k.participant id p).nonce < nonce) (hx : x.Proves id) :
      Effect x k (k.setParticipant id .closed p { k.participant id p with nonce := nonce, balanceHash := hash })
  | settled (k : Ledger) (id : Uint256) (p1 p2 : Address) (u1 u2 : UnlockData) (ps : List Payment) (balance : ℕ)
      (h12 : p1 ≠ p2) (hid : (k.pairs.get? (pairHash P p1 p2)).getD 0 = id) (hlive : (k.channel id).state.live)
      (hx : (k.channel id).state = .opened → x.Ends id) (hps : PaysTo id p1 p2 ps)
      (hsum : (total ps : ℤ) + u1.lockedAmount.toNat + u2.lockedAmount.toNat =
        (k.participant id p1).share + (k.participant id p2).share)
      (hb : P.Lawful → balance + total ps = k.balance + totalTo P.self ps) :
      Effect x k (k.settleFor P id p1 p2 u1 u2 ps balance)
  | unlocked (k : Ledger) (id : Uint256) (receiver sender : Address) (u : UnlockData) (ps : List Payment)
      (balance : ℕ) (hu : k.unlocks.get? (unlockKey P id sender receiver) = some u)
      (hps : PaysTo id receiver sender ps) (hsum : total ps = u.lockedAmount.toNat)
      (hb : P.Lawful → balance + total ps = k.balance + totalTo P.self ps) :
      Effect x k (k.unlockFor P id receiver sender ps balance)

/-- an effect of some call -/
def Step (P : Platform) (k k' : Ledger) : Prop := ∃ x : Call P, Effect x k k'

theorem steps {x : Call P} {k' : Ledger} (h : Relation.ReflTransGen (Effect x) k k') : Relation.ReflTransGen (Step P) k k' :=
  h.lift id fun _ _ he => ⟨x, he⟩

/-! ## Well-formed ledgers -/

structure Wf (P : Platform) (k : Ledger) : Prop where
  range : ∀ {id p1 p2}, (id, p1, p2) ∈ k.opened → 0 < id.toNat ∧ id.toNat ≤ k.counter
  distinct : ∀ {id p1 p2}, (id, p1, p2) ∈ k.opened → p1 ≠ p2
  nonzero : ∀ {id p1 p2}, (id, p1, p2) ∈ k.opened → p1 ≠ 0 ∧ p2 ≠ 0
  unique : ∀ {id p1 p2 q1 q2}, (id, p1, p2) ∈ k.opened → (id, q1, q2) ∈ k.opened → p1 = q1 ∧ p2 = q2
  pairs : ∀ h id, k.pairs.get? h = some id ↔
    ∃ p1 p2, (id, p1, p2) ∈ k.opened ∧ h = pairHash P p1 p2 ∧ (k.channel id).state.live
  live_opened : ∀ {id}, (k.channel id).state.live → ∃ p1 p2, (id, p1, p2) ∈ k.opened
  members : ∀ {id p}, p ∈ (k.channel id).participants.keys →
    (k.channel id).state.live ∧ ∀ p1 p2, (id, p1, p2) ∈ k.opened → p = p1 ∨ p = p2
  covered : ∀ {id p1 p2}, (id, p1, p2) ∈ k.opened → Covered (k.participant id p1) (k.participant id p2)
  entries : ∀ {key u}, k.unlocks.get? key = some u → ∃ id s r, ((id, s, r) ∈ k.opened ∨ (id, r, s) ∈ k.opened) ∧
    key = unlockKey P id s r ∧ ¬ (k.channel id).state.live

theorem fresh_wf (P : Platform) : Wf P Ledger.fresh := by
  refine { range := ?_, distinct := ?_, nonzero := ?_, unique := ?_, pairs := ?_, live_opened := ?_, members := ?_,
           covered := ?_, entries := ?_ }
  all_goals simp [Ledger.fresh, Ledger.channel, Channel.zero, ChannelState.live]

/-- a well-formed ledger may have any balance, payments and unlocks made -/
theorem Wf.congr {k' : Ledger} (h : Wf P k) (hcounter : k'.counter = k.counter)
    (hchannels : k'.channels = k.channels) (hpairs : k'.pairs = k.pairs) (hunlocks : k'.unlocks = k.unlocks)
    (hopened : k'.opened = k.opened) : Wf P k' := by
  obtain ⟨counter, channels, pairs, unlocks, balance, opened, unlocked, paid, taken⟩ := k
  obtain ⟨counter', channels', pairs', unlocks', balance', opened', unlocked', paid', taken'⟩ := k'
  subst hcounter hchannels hpairs hunlocks hopened
  exact ⟨h.range, h.distinct, h.nonzero, h.unique, h.pairs, h.live_opened, h.members, h.covered, h.entries⟩

theorem channel_set (k : Ledger) (id id' : Uint256) (ch : Channel) :
    ((k.channels.set id ch).get? id').getD Channel.zero = if id' = id then ch else k.channel id' := by
  rw [get?_set]
  split_ifs <;> rfl

theorem channel_setParticipant (k : Ledger) (id id' : Uint256) (state : ChannelState) (p : Address) (st : Participant) :
    (k.setParticipant id state p st).channel id' =
      if id' = id then ⟨state, (k.channel id).participants.set p st⟩ else k.channel id' := channel_set k id id' _

theorem participant_setParticipant (k : Ledger) (id id' : Uint256) (state : ChannelState) (p p' : Address)
    (st : Participant) : (k.setParticipant id state p st).participant id' p' =
      if id' = id ∧ p' = p then st else k.participant id' p' := by
  unfold Ledger.participant
  rw [channel_setParticipant]
  by_cases hi : id' = id
  · subst hi
    by_cases hp : p' = p
    · simp [hp]
    · simp [hp, get?_set_ne]
  · simp [hi]

/-- the channel that the pair index gives for two addresses, when it is live, is the channel of these two -/
theorem Wf.pair_of_id (hP : P.PairsDistinct) (h : Wf P k) {p q : Address}
    (hid : (k.pairs.get? (pairHash P p q)).getD 0 = id) (hlive : (k.channel id).state.live) :
    k.pairs.get? (pairHash P p q) = some id ∧ ((id, p, q) ∈ k.opened ∨ (id, q, p) ∈ k.opened) := by
  cases hg : k.pairs.get? (pairHash P p q) with
  | none =>
    -- the default identifier zero is never that of a live channel
    rw [hg, Option.getD_none] at hid
    obtain ⟨p1, p2, ho⟩ := h.live_opened hlive
    have := (h.range ho).1
    rw [← hid] at this
    exact absurd this (by decide)
  | some id' =>
    rw [hg, Option.getD_some] at hid
    subst hid
    obtain ⟨p1, p2, ho, hh, -⟩ := (h.pairs _ _).1 hg
    refine ⟨rfl, ?_⟩
    rcases hP _ _ _ _ hh with ⟨rfl, rfl⟩ | ⟨rfl, rfl⟩
    · exact .inl ho
    · exact .inr ho

theorem Wf.ne_of_pair (h : Wf P k) {p q : Address} (ho : (id, p, q) ∈ k.opened ∨ (id, q, p) ∈ k.opened) : p ≠ q := by
  rcases ho with ho | ho
  · exact h.distinct ho
  · exact (h.distinct ho).symm

theorem Wf.pair_cases (h : Wf P k) {p q p1 p2 : Address} (ho : (id, p, q) ∈ k.opened ∨ (id, q, p) ∈ k.opened)
    (ho' : (id, p1, p2) ∈ k.opened) : p = p1 ∧ q = p2 ∨ q = p1 ∧ p = p2 :=
  ho.imp (fun ho => h.unique ho ho') fun ho => h.unique ho ho'

theorem Wf.covered_of_pair (h : Wf P k) {p q : Address}
    (ho : (id, p, q) ∈ k.opened ∨ (id, q, p) ∈ k.opened) : Covered (k.participant id p) (k.participant id q) := by
  rcases ho with ho | ho
  · exact h.covered ho
  · exact (h.covered ho).symm

theorem elim_share (o : Option Participant) :
    o.elim 0 (fun p => p.share) = (o.getD Participant.zero).share := by cases o <;> rfl

/-- what a live channel holds is the sum of its participants' shares -/
theorem Wf.held_eq (h : Wf P k) {p q : Address}
    (ho : (id, p, q) ∈ k.opened ∨ (id, q, p) ∈ k.opened) (hlive : (k.channel id).state.live) :
    (k.channel id).held = (k.participant id p).share + (k.participant id q).share := by
  have hkeys : ∀ x ∈ (k.channel id).participants.keys, x = p ∨ x = q := by
    intro x hx
    have hm := (h.members hx).2
    rcases ho with ho | ho
    · exact hm _ _ ho
    · exact (hm _ _ ho).symm
  rw [Channel.held, if_pos hlive, sum_eq_pair _ _ (h.ne_of_pair ho) hkeys, elim_share, elim_share]
  rfl

/-- a removed channel has no data left -/
theorem Wf.participants_of_dead (h : Wf P k) (hdead : ¬ (k.channel id).state.live) : (k.channel id).participants.keys = [] :=
  eq_nil_iff_forall_not_mem.2 fun _ hp => hdead (h.members hp).1

/-- writing one participant of a live channel keeps the ledger well formed -/
theorem setParticipant_wf (hP : P.PairsDistinct) (h : Wf P k) {p q : Address}
    {state : ChannelState} {st : Participant} (hid : (k.pairs.get? (pairHash P p q)).getD 0 = id)
    (hlive : (k.channel id).state.live) (hstate : state.live) (hcov : Covered st (k.participant id q)) :
    Wf P (k.setParticipant id state p st) := by
  obtain ⟨-, ho⟩ := h.pair_of_id hP hid hlive
  have hpq := h.ne_of_pair ho
  -- the channels that are live stay the same
  have hlive_iff : ∀ id', ((k.setParticipant id state p st).channel id').state.live ↔ (k.channel id').state.live := by
    intro id'
    rw [channel_setParticipant]
    split_ifs with hi
    · subst hi; exact ⟨fun _ => hlive, fun _ => hstate⟩
    · rfl
  refine { range := h.range, distinct := h.distinct, nonzero := h.nonzero, unique := h.unique, pairs := ?_, live_opened := ?_,
           members := ?_, covered := ?_, entries := ?_ }
  · intro hh id'
    simp only [hlive_iff]
    exact h.pairs hh id'
  · intro id' hl
    exact h.live_opened ((hlive_iff id').1 hl)
  · intro id' x hx
    refine ⟨?_, ?_⟩
    · rw [channel_setParticipant] at hx
      rw [hlive_iff]
      split_ifs at hx with hi
      · exact hi ▸ hlive
      · exact (h.members hx).1
    · intro p1 p2 ho'
      rw [channel_setParticipant] at hx
      split_ifs at hx with hi
      · subst hi
        rcases mem_keys_set.1 hx with rfl | hx
        · exact (h.pair_cases ho ho').imp And.left And.right
        · exact (h.members hx).2 p1 p2 ho'
      · exact (h.members hx).2 p1 p2 ho'
  · intro id' p1 p2 ho'
    rw [participant_setParticipant, participant_setParticipant]
    by_cases hi : id' = id
    · subst hi
      rcases h.pair_cases ho ho' with ⟨rfl, rfl⟩ | ⟨rfl, rfl⟩
      · simpa [Ne.symm hpq] using hcov
      · simpa [Ne.symm hpq] using hcov.symm
    · simp only [hi, false_and, if_false]
      exact h.covered ho'
  · intro key u hu
    obtain ⟨id', s, r, hsr, hkey, hdead⟩ := h.entries hu
    exact ⟨id', s, r, hsr, hkey, fun hl => hdead ((hlive_iff id').1 hl)⟩

/-- an identifier above the counter has never been used -/
theorem Wf.unused (h : Wf P k) (hid : id.toNat = k.counter + 1) :
    (∀ p1 p2, (id, p1, p2) ∉ k.opened) ∧ ¬ (k.channel id).state.live := by
  have hno : ∀ p1 p2, (id, p1, p2) ∉ k.opened := by
    intro p1 p2 ho
    have := (h.range ho).2
    omega
  refine ⟨hno, fun hl => ?_⟩
  obtain ⟨p1, p2, ho⟩ := h.live_opened hl
  exact hno p1 p2 ho

theorem channel_openFor (k : Ledger) (id id' : Uint256) (p1 p2 : Address) : (k.openFor P id p1 p2).channel id' =
    if id' = id then ⟨.opened, (k.channel id).participants⟩ else k.channel id' := channel_set k id id' _

theorem channel_settleFor (k : Ledger) (id id' : Uint256) (p1 p2 : Address) (u1 u2 : UnlockData) (ps : List Payment)
    (balance : ℕ) : (k.settleFor P id p1 p2 u1 u2 ps balance).channel id' =
      if id' = id then ⟨.nonExistent, ((k.channel id).participants.erase p1).erase p2⟩ else k.channel id' :=
  channel_set k id id' _

@[simp] theorem openFor_pairs (k : Ledger) (id : Uint256) (p1 p2 : Address) :
    (k.openFor P id p1 p2).pairs = k.pairs.set (pairHash P p1 p2) id := rfl

@[simp] theorem openFor_opened (k : Ledger) (id : Uint256) (p1 p2 : Address) :
    (k.openFor P id p1 p2).opened = k.opened ++ [(id, p1, p2)] := rfl

/-- the channels opened so far and the new one, whose identifier was never used -/
theorem Wf.mem_openFor (h : Wf P k) {id' : Uint256} {p1 p2 q1 q2 : Address} (hid : id.toNat = k.counter + 1)
    (hm : (id', q1, q2) ∈ (k.openFor P id p1 p2).opened) :
    (id', q1, q2) ∈ k.opened ∧ id' ≠ id ∨ id' = id ∧ q1 = p1 ∧ q2 = p2 := by
  rcases mem_append.1 hm with hm | hm
  · exact .inl ⟨hm, fun hi => (h.unused hid).1 q1 q2 (hi ▸ hm)⟩
  · simp only [mem_singleton, Prod.mk.injEq] at hm
    exact .inr hm

theorem opened_wf (h : Wf P k) {p1 p2 : Address} (hid : id.toNat = k.counter + 1)
    (h0 : p1 ≠ 0 ∧ p2 ≠ 0) (h12 : p1 ≠ p2) (hpair : (k.pairs.get? (pairHash P p1 p2)).getD 0 = 0) :
    Wf P (k.openFor P id p1 p2) := by
  obtain ⟨hno, hdead⟩ := h.unused hid
  have hkeys := h.participants_of_dead hdead
  -- the pair has no channel: an indexed identifier is never zero
  have hnone : k.pairs.get? (pairHash P p1 p2) = none := by
    cases hg : k.pairs.get? (pairHash P p1 p2) with
    | none => rfl
    | some id' =>
      obtain ⟨q1, q2, ho, -, -⟩ := (h.pairs _ _).1 hg
      rw [hg, Option.getD_some] at hpair
      have := (h.range ho).1
      rw [hpair] at this
      exact absurd this (by decide)
  have hch : ∀ id', (k.openFor P id p1 p2).channel id' = _ := fun id' => channel_openFor k id id' p1 p2
  have hmem : ∀ {id' q1 q2}, (id', q1, q2) ∈ (k.openFor P id p1 p2).opened → _ := fun hm => h.mem_openFor hid hm
  refine { range := ?_, distinct := ?_, nonzero := ?_, unique := ?_, pairs := ?_, live_opened := ?_, members := ?_,
           covered := ?_, entries := ?_ }
  · intro id' q1 q2 hm
    rcases hmem hm with ⟨ho, -⟩ | ⟨rfl, -, -⟩
    · have := h.range ho
      exact ⟨this.1, by show id'.toNat ≤ id.toNat; omega⟩
    · exact ⟨by omega, le_refl _⟩
  · intro id' q1 q2 hm
    rcases hmem hm with ⟨ho, -⟩ | ⟨-, rfl, rfl⟩
    · exact h.distinct ho
    · exact h12
  · intro id' q1 q2 hm
    rcases hmem hm with ⟨ho, -⟩ | ⟨-, rfl, rfl⟩
    · exact h.nonzero ho
    · exact h0
  · intro id' q1 q2 q1' q2' hm hm'
    rcases hmem hm with ⟨ho, hi⟩ | ⟨rfl, rfl, rfl⟩
    · rcases hmem hm' with ⟨ho', -⟩ | ⟨rfl, -, -⟩
      · exact h.unique ho ho'
      · exact absurd rfl hi
    · rcases hmem hm' with ⟨-, hi⟩ | ⟨-, rfl, rfl⟩
      · exact absurd rfl hi
      · exact ⟨rfl, rfl⟩
  · intro hh id'
    simp only [hch, openFor_pairs, get?_set]
    constructor
    · intro hg
      split_ifs at hg with hhe
      · cases hg
        exact ⟨p1, p2, by simp, hhe, by simp [ChannelState.live]⟩
      · obtain ⟨q1, q2, ho, hq, hl⟩ := (h.pairs hh id').1 hg
        have hi : id' ≠ id := fun hi => hno q1 q2 (hi ▸ ho)
        exact ⟨q1, q2, mem_append_left _ ho, hq, by rw [if_neg hi]; exact hl⟩
    · rintro ⟨q1, q2, hm, hq, hl⟩
      rcases hmem hm with ⟨ho, hi⟩ | ⟨rfl, rfl, rfl⟩
      · rw [if_neg hi] at hl
        have hg := (h.pairs hh id').2 ⟨q1, q2, ho, hq, hl⟩
        rw [if_neg (fun he => by rw [he, hnone] at hg; cases hg)]
        exact hg
      · rw [if_pos hq]
  · intro id' hl
    rw [hch] at hl
    split_ifs at hl with hi
    · exact ⟨p1, p2, by simp [hi]⟩
    · obtain ⟨q1, q2, ho⟩ := h.live_opened hl
      exact ⟨q1, q2, mem_append_left _ ho⟩
  · intro id' x hx
    rw [hch] at hx ⊢
    split_ifs at hx ⊢ with hi
    · rw [hkeys] at hx
      exact absurd hx not_mem_nil
    · refine ⟨(h.members hx).1, fun q1 q2 hm => ?_⟩
      rcases hmem hm with ⟨ho, -⟩ | ⟨hi', -, -⟩
      · exact (h.members hx).2 q1 q2 ho
      · exact absurd hi' hi
  · intro id' q1 q2 hm
    unfold Ledger.participant
    rw [hch]
    rcases hmem hm with ⟨ho, hi⟩ | ⟨rfl, -, -⟩
    · rw [if_neg hi]
      exact h.covered ho
    · have hz : ∀ q, (k.channel id').participants.get? q = none := fun q =>
        get?_eq_none.2 (by rw [hkeys]; exact not_mem_nil)
      simp only [if_true, hz, Option.getD_none]
      exact ⟨by decide, by decide⟩
  · intro key u hu
    obtain ⟨id', s, r, hsr, hkey, hd⟩ := h.entries hu
    have hi : id' ≠ id := by
      rintro rfl
      rcases hsr with hsr | hsr
      · exact hno s r hsr
      · exact hno r s hsr
    refine ⟨id', s, r, ?_, hkey, ?_⟩
    · exact hsr.imp (mem_append_left _) (mem_append_left _)
    · rw [hch, if_neg hi]
      exact hd

theorem get?_storeUnlock {unlocks : Dict Bytes UnlockData} {key key' : Bytes} {u v : UnlockData}
    (hg : (storeUnlock unlocks key u).get? key' = some v) : key' = key ∨ unlocks.get? key' = some v := by
  unfold storeUnlock at hg
  split_ifs at hg
  · exact .inr hg
  · rw [get?_set] at hg
    split_ifs at hg with hk
    · exact .inl hk
    · exact .inr hg

theorem settled_wf (hP : P.PairsDistinct) (h : Wf P k) {p1 p2 : Address} {u1 u2 : UnlockData}
    {ps : List Payment} {balance : ℕ} (hid : (k.pairs.get? (pairHash P p1 p2)).getD 0 = id)
    (hlive : (k.channel id).state.live) : Wf P (k.settleFor P id p1 p2 u1 u2 ps balance) := by
  obtain ⟨hg, ho⟩ := h.pair_of_id hP hid hlive
  have hch : ∀ id', (k.settleFor P id p1 p2 u1 u2 ps balance).channel id' = _ :=
    fun id' => channel_settleFor k id id' p1 p2 u1 u2 ps balance
  -- exactly the settled channel is no longer live
  have hlive_iff : ∀ id', ((k.settleFor P id p1 p2 u1 u2 ps balance).channel id').state.live ↔
      id' ≠ id ∧ (k.channel id').state.live := by
    intro id'
    rw [hch]
    split_ifs with hi
    · simp [hi, ChannelState.live]
    · simp [hi]
  have hkeys : (((k.channel id).participants.erase p1).erase p2).keys = [] := by
    refine eq_nil_iff_forall_not_mem.2 fun x hx => ?_
    obtain ⟨hx2, hx⟩ := mem_keys_erase.1 hx
    obtain ⟨hx1, hx⟩ := mem_keys_erase.1 hx
    have hm := (h.members hx).2
    rcases ho with ho | ho <;> rcases hm _ _ ho with rfl | rfl <;> contradiction
  refine { range := h.range, distinct := h.distinct, nonzero := h.nonzero, unique := h.unique, pairs := ?_, live_opened := ?_,
           members := ?_, covered := ?_, entries := ?_ }
  · intro hh id'
    simp only [hlive_iff]
    show (k.pairs.erase (pairHash P p1 p2)).get? hh = some id' ↔ _
    rw [get?_erase]
    constructor
    · intro hg'
      split_ifs at hg' with hhe
      obtain ⟨q1, q2, ho', hq, hl⟩ := (h.pairs hh id').1 hg'
      refine ⟨q1, q2, ho', hq, fun hi => hhe ?_, hl⟩
      -- the settled channel is indexed under one pair only
      subst hi
      rw [hq]
      rcases h.pair_cases ho ho' with ⟨rfl, rfl⟩ | ⟨rfl, rfl⟩
      · rfl
      · exact pairHash_comm P _ _
    · rintro ⟨q1, q2, ho', hq, hi, hl⟩
      have hg' := (h.pairs hh id').2 ⟨q1, q2, ho', hq, hl⟩
      rw [if_neg (fun he => hi (by rw [he, hg] at hg'; exact (Option.some.inj hg').symm))]
      exact hg'
  · intro id' hl
    exact h.live_opened ((hlive_iff id').1 hl).2
  · intro id' x hx
    rw [hch] at hx
    split_ifs at hx with hi
    · rw [hkeys] at hx
      exact absurd hx not_mem_nil
    · exact ⟨(hlive_iff id').2 ⟨hi, (h.members hx).1⟩, (h.members hx).2⟩
  · intro id' q1 q2 ho'
    unfold Ledger.participant
    rw [hch]
    split_ifs with hi
    · have hz : ∀ q, (((k.channel id).participants.erase p1).erase p2).get? q = none := fun q =>
        get?_eq_none.2 (by rw [hkeys]; exact not_mem_nil)
      simp only [hz, Option.getD_none]
      exact ⟨by decide, by decide⟩
    · exact h.covered ho'
  · intro key u hu
    rcases get?_storeUnlock hu with rfl | hu
    · exact ⟨id, p2, p1, ho.symm, rfl, fun hl => ((hlive_iff id).1 hl).1 rfl⟩
    · rcases get?_storeUnlock hu with rfl | hu
      · exact ⟨id, p1, p2, ho, rfl, fun hl => ((hlive_iff id).1 hl).1 rfl⟩
      · obtain ⟨id', s, r, hsr, hkey, hd⟩ := h.entries hu
        exact ⟨id', s, r, hsr, hkey, fun hl => hd ((hlive_iff id').1 hl).2⟩

theorem unlocked_wf (h : Wf P k) {receiver sender : Address} {ps : List Payment} {balance : ℕ} :
    Wf P (k.unlockFor P id receiver sender ps balance) := by
  refine { range := h.range, distinct := h.distinct, nonzero := h.nonzero, unique := h.unique, pairs := h.pairs,
           live_opened := h.live_opened, members := h.members, covered := h.covered, entries := ?_ }
  intro key u hu
  change (k.unlocks.erase _).get? key = some u at hu
  rw [get?_erase] at hu
  split_ifs at hu
  exact h.entries hu

/-- **Well-formedness is preserved** by everything a call can do. -/
theorem effect_wf (hP : P.PairsDistinct) {x : Call P} {k' : Ledger} (he : Effect x k k') (h : Wf P k) : Wf P k' := by
  have hcovered {id : Uint256} {p q : Address} (hid : (k.pairs.get? (pairHash P p q)).getD 0 = id)
      (hlive : (k.channel id).state.live) :=
    h.covered_of_pair (h.pair_of_id hP hid hlive).2
  have hopened : ChannelState.opened.live := trivial
  cases he with
  | opened id p1 p2 hid h1 h2 h12 hpair => exact opened_wf h hid ⟨h1, h2⟩ h12 hpair
  | deposited id p q src d v balance hid hopen hdep hfit =>
    have hlive := live_iff.2 (.inl hopen)
    have hwithdraws := (hcovered hid hlive).withdraws
    have hnew : Covered { k.participant id p with deposit := d } (k.participant id q) := ⟨hfit, by simp only; omega⟩
    exact (setParticipant_wf hP h hid hlive hopened hnew).congr rfl rfl rfl rfl rfl
  | withdrawn id p q d v balance hid hopen hwit hcover =>
    have hlive := live_iff.2 (.inl hopen)
    have hnew : Covered { k.participant id p with withdrawnAmount := d } (k.participant id q) :=
      ⟨(hcovered hid hlive).deposits, hcover⟩
    exact (setParticipant_wf hP h hid hlive hopened hnew).congr rfl rfl rfl rfl rfl
  | closed id p q hid hopen =>
    have hlive := live_iff.2 (.inl hopen)
    exact setParticipant_wf hP h hid hlive trivial ⟨(hcovered hid hlive).deposits, (hcovered hid hlive).withdraws⟩
  | proved id p q nonce hash hid hclosed =>
    have hlive := live_iff.2 (.inr hclosed)
    exact setParticipant_wf hP h hid hlive trivial ⟨(hcovered hid hlive).deposits, (hcovered hid hlive).withdraws⟩
  | settled id p1 p2 u1 u2 ps balance h12 hid hlive => exact settled_wf hP h hid hlive
  | unlocked => exact unlocked_wf h

theorem steps_wf (hP : P.PairsDistinct) {k' : Ledger} (he : Relation.ReflTransGen (Step P) k k') (h : Wf P k) :
    Wf P k' := by
  induction he with
  | refl => exact h
  | tail _ he ih => exact effect_wf hP he.choose_spec ih

end Gatecoin.Contracts
