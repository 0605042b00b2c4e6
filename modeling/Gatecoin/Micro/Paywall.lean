/-
The accounts of the microcoin paywall.

A request pays for its resource with a balance proof of the sender over the balance before plus the price. `paywall_check`
compares the amount, `register_payment` checks the signature again, that the balance rises and that the deposit covers it, and
stores balance and signature together.

`ChannelAccounts` is what the manager knows about a channel in its lifetime: the stored signature is one of the sender over the
stored balance, which the deposit covers and which is the sum of the prices of the requests that were served; the accepted
proofs have rising balances, so none was accepted twice; and every closing signature is over the highest balance that was
accepted until then.

`paywall_accounts`: in every run of manager calls and requests, the accounts of all channels are right after every call, a
balance does not decrease before the settlement, and a request that is served has raised the balance by its price.
-/
import Gatecoin.Core.Run
import Gatecoin.Micro.Manager

namespace Gatecoin.Micro.Manager

open Gatecoin.Core List Nat

structure ChannelAccounts (env : Env) (key : Key) (c : Channel) (r : Record) : Prop where
  proof : ∀ signature, c.lastSignature = some signature → env.recover key.2 c.balance signature = some key.1
  covered : c.balance ≤ c.deposit
  served : c.balance = r.prices.sum
  increasing : (r.accepted.map Prod.fst).Pairwise (· < ·)
  highest : ∀ p ∈ r.accepted, p.1 ≤ c.balance
  latest : ∀ signature, c.lastSignature = some signature → (c.balance, signature) ∈ r.accepted
  closings : ∀ closing ∈ r.closings, closing.signature = env.signClose key.1 key.2 closing.balance ∧
    (∃ signature, (closing.balance, signature) ∈ closing.accepted) ∧ ∀ p ∈ closing.accepted, p.1 ≤ closing.balance
  unpaid : c.confirmed = false → c.balance = 0

/-- the accounts of all channels -/
def Accounts (env : Env) (s : State) : Prop :=
  ∀ key c, s.channels.get? key = some c → ChannelAccounts env key c (s.record key)

/-- a call keeps a confirmed channel until its settlement: its balance and its deposit do not decrease, and what was served
stays served -/
def Continues (s s' : State) (settled : Key → Prop) : Prop :=
  ∀ key c, s.confirmedChannel key = some c → ¬ settled key → ∃ c', s'.confirmedChannel key = some c' ∧
    c.balance ≤ c'.balance ∧ c.deposit ≤ c'.deposit ∧ (s.record key).prices <+: (s'.record key).prices

/-- a request that is served has raised the balance of the channel that it names by the price -/
def ServedPaid (env : Env) (s : State) (i : Input) : Prop :=
  ∀ price data headers, i = .request price data → (request env s price data).2 = .ok (false, headers) →
    ∃ sender openBlock c c', data.senderAddress = some sender ∧ data.openBlockNumber = some openBlock ∧
      s.confirmedChannel (sender, openBlock) = some c ∧ (step env s i).confirmedChannel (sender, openBlock) = some c' ∧
      c'.balance = c.balance + price

section Records

variable (s : State) (key k : Key)

theorem record_set (r : Record) : State.record { s with records := s.records.set key r } k =
    if k = key then r else s.record k := by
  unfold State.record
  rw [Dict.get?_set]
  split_ifs <;> rfl

theorem record_delete_ne (h : k ≠ key) : (s.delete key).record k = s.record k := by
  unfold State.record State.delete
  rw [Dict.get?_erase_ne _ h]

theorem record_pay (c : Channel) (balance : ℕ) (signature : String) : (s.pay key c balance signature).record k =
    if k = key then { s.record key with accepted := (s.record key).accepted ++ [(balance, signature)] } else s.record k :=
  record_set (s.setChannel key { c with balance := balance, lastSignature := some signature }) key k _

theorem record_served (c : Channel) (balance price : ℕ) (signature : String) :
    ((s.pay key c balance signature).serve key price).record k =
      if k = key then ⟨(s.record key).accepted ++ [(balance, signature)], (s.record key).prices ++ [price],
        (s.record key).closings⟩ else s.record k := by
  rw [State.serve, record_set, record_pay, record_pay, if_pos rfl]
  split_ifs <;> rfl

end Records

section Steps

variable {env : Env} {a : Allowed} {s s' : State} {key : Key} {c c' : Channel} {r : Record} {settled : Key → Prop}

/-- a change of one channel and its record -/
theorem Accounts.write (h : Accounts env s) (hchannels : s'.channels = s.channels.set key c')
    (hrecords : ∀ k, s'.record k = if k = key then r else s.record k) (hnew : ChannelAccounts env key c' r) :
    Accounts env s' := by
  intro k d hd
  rw [hchannels, Dict.get?_set] at hd
  rw [hrecords]
  by_cases hk : k = key
  · subst hk
    rw [if_pos rfl] at hd ⊢
    cases hd
    exact hnew
  · rw [if_neg hk] at hd ⊢
    exact h k d hd

theorem record_self (s : State) (key k : Key) : s.record k = if k = key then s.record key else s.record k := by
  split_ifs with h
  · rw [h]
  · rfl

/-- a write that keeps the money of the channel -/
theorem Accounts.rewrite (h : Accounts env s) (hc : s.channels.get? key = some c) (hdeposit : c.deposit ≤ c'.deposit)
    (hbalance : c'.balance = c.balance) (hsignature : c'.lastSignature = c.lastSignature)
    (hconfirmed : c'.confirmed = c.confirmed) : Accounts env (s.setChannel key c') := by
  have hold := h key c hc
  refine h.write rfl (record_self s key) ⟨?_, ?_, ?_, hold.increasing, ?_, ?_, hold.closings, ?_⟩
  · rw [hsignature, hbalance]
    exact hold.proof
  · rw [hbalance]
    exact hold.covered.trans hdeposit
  · rw [hbalance]
    exact hold.served
  · rw [hbalance]
    exact hold.highest
  · rw [hsignature, hbalance]
    exact hold.latest
  · rw [hconfirmed, hbalance]
    exact hold.unpaid

theorem pairwise_append_singleton {l : List ℕ} {n : ℕ} (hl : l.Pairwise (· < ·)) (hn : ∀ m ∈ l, m < n) :
    (l ++ [n]).Pairwise (· < ·) := by
  rw [pairwise_append]
  exact ⟨hl, pairwise_singleton _ _, fun m hm k hk => mem_singleton.1 hk ▸ hn m hm⟩

/-- a payment of the price keeps the accounts -/
theorem ChannelAccounts.serve {price : ℕ} {signature : String} (h : ChannelAccounts env key c r)
    (hconfirmed : c.confirmed = true) (hprice : 0 < price)
    (hvalid : env.recover key.2 (c.balance + price) signature = some key.1) (hcovered : c.balance + price ≤ c.deposit) :
    ChannelAccounts env key { c with balance := c.balance + price, lastSignature := some signature }
      ⟨r.accepted ++ [(c.balance + price, signature)], r.prices ++ [price], r.closings⟩ where
  proof := by
    intro _ h
    cases h
    exact hvalid
  covered := hcovered
  served := by
    rw [List.sum_append, sum_singleton, ← h.served]
  increasing := by
    rw [map_append]
    refine pairwise_append_singleton h.increasing fun m hm => ?_
    obtain ⟨p, hp, rfl⟩ := mem_map.1 hm
    have hle := h.highest p hp
    change p.1 < c.balance + price
    omega
  highest := by
    intro p hp
    rcases mem_append.1 hp with hp | hp
    · exact (h.highest p hp).trans (le_add_right _ _)
    · rw [mem_singleton.1 hp]
  latest := by
    intro _ hsignature
    cases hsignature
    exact mem_append_right _ (mem_singleton_self _)
  closings := h.closings
  unpaid := fun hfalse => absurd (hfalse.symm.trans hconfirmed) (by simp)

/-- a closing signature over the stored balance keeps the accounts -/
theorem ChannelAccounts.close (h : ChannelAccounts env key c r) (hproof : c.lastSignature.isSome = true) :
    ChannelAccounts env key c { r with closings := r.closings ++
      [⟨c.balance, env.signClose key.1 key.2 c.balance, r.accepted⟩] } where
  proof := h.proof
  covered := h.covered
  served := h.served
  increasing := h.increasing
  highest := h.highest
  latest := h.latest
  closings := by
    intro closing hmem
    rcases mem_append.1 hmem with hmem | hmem
    · exact h.closings closing hmem
    · rw [mem_singleton.1 hmem]
      obtain ⟨signature, hsignature⟩ := Option.isSome_iff_exists.1 hproof
      exact ⟨rfl, ⟨signature, h.latest signature hsignature⟩, h.highest⟩
  unpaid := h.unpaid

/-- **One write.** Every write but a payment without a request keeps the accounts. -/
theorem Change.accounts (h : Change env a s s') (ha : ¬ a.direct) (hs : Accounts env s) : Accounts env s' := by
  cases h with
  | created key deposit confirmed hfunding hnew =>
    refine hs.write (r := ⟨[], [], []⟩) rfl (fun k => record_set s key k _) ?_
    exact ⟨fun _ h => (by cases h), zero_le _, rfl, .nil, fun _ h => (by cases h), fun _ h => (by cases h),
      fun _ h => (by cases h), fun _ => rfl⟩
  | topups _ _ _ hc | restored _ _ _ hc => exact hs.rewrite hc (le_refl _) rfl rfl rfl
  | toppedUp key c added topups hfunding hc hconfirmed hopen => exact hs.rewrite hc (le_add_right _ _) rfl rfl rfl
  | paid key c balance signature hdirect => exact absurd hdirect ha
  | served key c price signature hc hconfirmed hopen hprice hvalid hcovered =>
    exact hs.write rfl (fun k => record_served s key k c _ price signature)
      ((hs key c hc).serve hconfirmed hprice hvalid hcovered)
  | signed key c hc hproof =>
    intro k d hd
    by_cases hk : k = key
    · subst hk
      obtain rfl := Option.some.inj (hc.symm.trans hd)
      have hrecord := record_set s k k { s.record k with closings := (s.record k).closings ++
        [⟨c.balance, env.signClose k.1 k.2 c.balance, (s.record k).accepted⟩] }
      rw [if_pos rfl] at hrecord
      rw [State.addClosing, hrecord]
      exact (hs k c hd).close hproof
    · rw [State.addClosing, record_set, if_neg hk]
      exact hs k d hd
  | closed key c state timeout hc hconfirmed hclosed =>
    have hrewritten : Accounts env (s.setChannel key { c with state := state, settleTimeout := timeout }) :=
      hs.rewrite hc (le_refl _) rfl rfl rfl
    exact hrewritten
  | deleted key hknown =>
    intro k d hd
    have hd : (s.channels.erase key).get? k = some d := hd
    rw [Dict.get?_erase] at hd
    by_cases hk : k = key
    · rw [if_pos hk] at hd
      cases hd
    · rw [if_neg hk] at hd
      rw [record_delete_ne s key k hk]
      exact hs k d hd

theorem Changes.accounts (h : Changes env a s s') (ha : ¬ a.direct) (hs : Accounts env s) : Accounts env s' := by
  induction h with
  | refl => exact hs
  | tail _ hchange ih => exact hchange.accounts ha ih

/-! ### Continuing channels -/

/-- a write of one channel that does not take from it -/
theorem Continues.write (hchannels : s'.channels = s.channels.set key c') (hrecords : ∀ k ≠ key, s'.record k = s.record k)
    (hold : ∀ c, s.channels.get? key = some c → c.confirmed = true → c'.confirmed = true ∧ c.balance ≤ c'.balance ∧
      c.deposit ≤ c'.deposit ∧ (s.record key).prices <+: (s'.record key).prices) : Continues s s' settled := by
  intro k d hd hsettled
  obtain ⟨hget, hdconfirmed⟩ := confirmedChannel_some.1 hd
  by_cases hk : k = key
  · subst hk
    obtain ⟨hconfirmed, hmore⟩ := hold d hget hdconfirmed
    refine ⟨c', confirmedChannel_some.2 ⟨?_, hconfirmed⟩, hmore⟩
    rw [hchannels, Dict.get?_set_self]
  · refine ⟨d, confirmedChannel_some.2 ⟨?_, hdconfirmed⟩, le_refl _, le_refl _, ?_⟩
    · rw [hchannels, Dict.get?_set_ne _ _ hk, hget]
    · rw [hrecords k hk]

/-- a write of a known channel that keeps its record -/
theorem Continues.rewrite (hc : s.channels.get? key = some c)
    (hchannels : s'.channels = s.channels.set key c') (hrecords : s'.records = s.records)
    (hconfirmed : c'.confirmed = c.confirmed) (hbalance : c.balance ≤ c'.balance) (hdeposit : c.deposit ≤ c'.deposit) :
    Continues s s' settled := by
  have hsame : ∀ k, s'.record k = s.record k := fun k => by rw [State.record, hrecords]; rfl
  refine .write hchannels (fun k _ => hsame k) fun d hd hdconfirmed => ?_
  obtain rfl := Option.some.inj (hc.symm.trans hd)
  exact ⟨hconfirmed.trans hdconfirmed, hbalance, hdeposit, by rw [hsame]⟩

theorem Change.continues (h : Change env a s s') : Continues s s' a.settled := by
  cases h with
  | created key deposit confirmed hfunding hnew =>
    refine .write rfl (fun k hk => (record_set s key k _).trans (if_neg hk)) fun d hd hdconfirmed => ?_
    exact absurd (hdconfirmed.symm.trans (hnew d hd)) (by simp)
  | topups _ _ _ hc | closed _ _ _ _ hc | restored _ _ _ hc => exact .rewrite hc rfl rfl rfl (le_refl _) (le_refl _)
  | toppedUp key c added topups hfunding hc hconfirmed hopen => exact .rewrite hc rfl rfl rfl (le_refl _) (le_add_right _ _)
  | paid key c balance signature hdirect hc hconfirmed hopen hvalid hmore hcovered =>
    refine .write rfl (fun k hk => (record_pay s key k c balance signature).trans (if_neg hk)) fun d hd hdconfirmed => ?_
    obtain rfl := Option.some.inj (hc.symm.trans hd)
    refine ⟨hconfirmed, hmore.le, le_refl _, ?_⟩
    rw [record_pay, if_pos rfl]
  | served key c price signature hc hconfirmed hopen hprice hvalid hcovered =>
    refine .write rfl (fun k hk => (record_served s key k c _ price signature).trans (if_neg hk)) fun d hd hdconfirmed => ?_
    obtain rfl := Option.some.inj (hc.symm.trans hd)
    refine ⟨hconfirmed, le_add_right _ _, le_refl _, ?_⟩
    rw [record_served, if_pos rfl]
    exact prefix_append _ _
  | signed key c hc hproof =>
    intro k d hd _
    refine ⟨d, hd, le_refl _, le_refl _, ?_⟩
    rw [State.addClosing, record_set]
    split_ifs with hk
    · rw [hk]
    · exact prefix_rfl
  | deleted key hknown =>
    intro k d hd hsettled
    obtain ⟨hget, hdconfirmed⟩ := confirmedChannel_some.1 hd
    have hk : k ≠ key := by
      rintro rfl
      exact hsettled (hknown d hget hdconfirmed)
    refine ⟨d, confirmedChannel_some.2 ⟨?_, hdconfirmed⟩, le_refl _, le_refl _, ?_⟩
    · exact (Dict.get?_erase_ne _ hk).trans hget
    · rw [record_delete_ne s key k hk]

theorem Changes.continues (h : Changes env a s s') : Continues s s' a.settled := by
  induction h with
  | refl => exact fun key c hc _ => ⟨c, hc, le_refl _, le_refl _, prefix_rfl⟩
  | tail _ hchange ih =>
    intro key c hc hsettled
    obtain ⟨d, hd, hbalance, hdeposit, hprices⟩ := ih key c hc hsettled
    obtain ⟨e, he, hbalance', hdeposit', hprices'⟩ := hchange.continues key d hd hsettled
    exact ⟨e, he, hbalance.trans hbalance', hdeposit.trans hdeposit', hprices.trans hprices'⟩

/-- a request that is served has paid its price -/
theorem servedPaid (env : Env) (s : State) (i : Input) : ServedPaid env s i := by
  rintro price data headers rfl hserved
  obtain ⟨-, hpaywalled⟩ | ⟨key, c, hkey, hc, hconfirmed, -, -, -, -, heq⟩ := request_cases env s price data
  · exact absurd hserved (hpaywalled headers)
  · refine ⟨key.1, key.2, c, { c with balance := c.balance + price, lastSignature := some data.balanceSignature },
      hkey.1, hkey.2.1, confirmedChannel_some.2 ⟨hc, hconfirmed⟩, confirmedChannel_some.2 ⟨?_, hconfirmed⟩, rfl⟩
    rw [step, heq]
    exact Dict.get?_set_self _ _ _

end Steps

/-- **The accounts of the paywall.** In every run of manager calls, blockchain events and requests in which payments come with
requests only: after every call the accounts of every channel are right; no call lowers the balance or the deposit of a
confirmed channel before its settlement; and a request that is served has raised the balance of the channel that it names
by exactly its price. -/
theorem paywall_accounts (env : Env) (is : List Input) (hdirect : ∀ i ∈ is, ¬ Direct i) :
    Along (step env) (fun s i => Accounts env (step env s i) ∧ Continues s (step env s i) (fun key => i = .settled key) ∧
      ServedPaid env s i) State.empty is := by
  have hempty : Accounts env State.empty := fun key c hc => absurd hc (by simp [State.empty])
  refine along_of_invariant (step env) (fun s i hs hi => ?_) hempty (along_of_forall (step env) hdirect)
  have hchanges := step_changes env s i
  have haccounts : Accounts env (step env s i) := hchanges.accounts hi hs
  exact ⟨⟨haccounts, hchanges.continues, servedPaid env s i⟩, haccounts⟩

/-- a channel with a deposit of 10, two requests at the price 4 with the same proof, and the closing -/
def visit : List Input :=
  [.opened (3, 7) 10, .request 4 ⟨some 3, some 7, some 4, "proof"⟩, .request 4 ⟨some 3, some 7, some 4, "proof"⟩,
    .signClose (3, 7) 4]

/-- the second request of the visit is not served -/
theorem paywall_accounts_of_visit :
    (((runFrom (step sampleEnv) State.empty visit).record (3, 7)).prices = [4] ∧ ∀ i ∈ visit, ¬ Direct i) ∧
      Along (step sampleEnv) (fun s i => Accounts sampleEnv (step sampleEnv s i) ∧
        Continues s (step sampleEnv s i) (fun key => i = .settled key) ∧ ServedPaid sampleEnv s i) State.empty visit := by
  have hdirect : ∀ i ∈ visit, ¬ Direct i := by
    simp [visit, Direct]
  exact ⟨⟨by decide +kernel, hdirect⟩, paywall_accounts sampleEnv visit hdirect⟩

end Gatecoin.Micro.Manager
