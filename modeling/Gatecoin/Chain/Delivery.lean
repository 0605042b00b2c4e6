/-
What a node learns from its chain: every relevant log once, after the log that introduced its contract or channel, and the
logs of a channel in the order of the chain.

A log is relevant if it creates a network in a followed registry, opens a channel of the node in a followed network, or
closes, settles, deposits to, withdraws from or unlocks a followed channel. Networks and channels are followed from the
start or since a relevant log has introduced them.

- `batch_delivers`: a batch that is returned has every relevant log of its blocks once.
- `logs_delivered_once`: so it is for every sequence of calls of which only requests of the first round time out, apart from
  calls for blocks without new networks and channels.
- `late_timeout_repeats_logs`: a timeout after a network was found. The batch is fetched again with the network.
-/
import Gatecoin.Chain.Rounds

namespace Gatecoin.Chain

open Gatecoin.Core GatecoinContractFilter List Window

/-! ## Relevant logs -/

/-- the network is followed from the start, or one of the followed registries creates it -/
def FollowedNetwork (chain : LogChain) (f : GatecoinContractFilter) (tn : Address) : Prop :=
  tn ∈ f.tokenNetworkAddresses ∨ ∃ y ∈ chain.logs, Creates f y tn

def FollowedChannel (chain : LogChain) (node : Address) (f : GatecoinContractFilter) (tn : Address) (id : ℕ) : Prop :=
  id ∈ f.channels tn ∨ (FollowedNetwork chain f tn ∧ ∃ y ∈ chain.logs, Opens node y tn id)

def Relevant (chain : LogChain) (node : Address) (f : GatecoinContractFilter) (x : LogEntry) : Prop :=
  (∃ tn, Creates f x tn) ∨ (∃ id, Opens node x x.address id ∧ FollowedNetwork chain f x.address) ∨
    ∃ e id, x.data = .channelEvent e id ∧ e ∈ channelTopics ∧ FollowedChannel chain node f x.address id

/-- `y` introduces the network or the channel that `x` belongs to -/
def Introduces (node : Address) (f : GatecoinContractFilter) (y x : LogEntry) : Prop :=
  (Creates f y x.address ∧ ∃ id, Opens node x x.address id) ∨
    ∃ e id, x.data = .channelEvent e id ∧ Opens node y x.address id

/-- what the node has learned of the blocks after `start`, up to `last` -/
structure Delivered (chain : LogChain) (node : Address) (f : GatecoinContractFilter) (start last : ℕ)
    (out : List LogEntry) : Prop where
  once : ∀ x ∈ chain.logs, Relevant chain node f x → start < x.blockNumber → x.blockNumber ≤ last → out.count x = 1
  introduced : ∀ x ∈ out, ∀ y ∈ chain.logs, Relevant chain node f x → Relevant chain node f y → Introduces node f y x →
    start < y.blockNumber → List.Sublist [y, x] out
  inOrder : ∀ tn id, FollowedChannel chain node f tn id →
    (out.filter (ofChannel tn id)).Pairwise fun a b => a.index < b.index

/-- the filter follows exactly the networks and channels that the chain has before a block -/
structure InSync (chain : LogChain) (node : Address) (f : GatecoinContractFilter) (first : ℕ) (g : GatecoinContractFilter) :
    Prop where
  registries : g.tokenNetworkRegistryAddresses = f.tokenNetworkRegistryAddresses
  networks : ∀ tn, tn ∈ g.tokenNetworkAddresses ↔
    FollowedNetwork chain f tn ∧ ∀ y ∈ chain.logs, Creates f y tn → y.blockNumber < first
  channels : ∀ tn id, id ∈ g.channels tn ↔ FollowedChannel chain node f tn id ∧
    (FollowedNetwork chain f tn → ∀ y ∈ chain.logs, Opens node y tn id → y.blockNumber < first)

/-- the node starts with what the chain has up to its last block -/
structure StartsInSync (chain : LogChain) (node : Address) (start : ℕ) (f : GatecoinContractFilter) : Prop where
  created : ∀ y ∈ chain.logs, ∀ tn, Creates f y tn → (tn ∈ f.tokenNetworkAddresses ↔ y.blockNumber ≤ start)
  opened : ∀ y ∈ chain.logs, ∀ tn id, Opens node y tn id → FollowedNetwork chain f tn →
    (id ∈ f.channels tn ↔ y.blockNumber ≤ start)

theorem StartsInSync.inSync {chain : LogChain} {node : Address} {start : ℕ} {f : GatecoinContractFilter}
    (h : StartsInSync chain node start f) : InSync chain node f (start + 1) f where
  registries := rfl
  networks tn := by
    constructor
    · exact fun ht => ⟨.inl ht, fun y hy hc => Nat.lt_succ_of_le ((h.created y hy tn hc).1 ht)⟩
    · rintro ⟨ht | ⟨y, hy, hc⟩, hb⟩
      · exact ht
      · exact (h.created y hy tn hc).2 (Nat.le_of_lt_succ (hb y hy hc))
  channels tn id := by
    constructor
    · exact fun ht => ⟨.inl ht, fun hf y hy ho => Nat.lt_succ_of_le ((h.opened y hy tn id ho hf).1 ht)⟩
    · rintro ⟨ht | ⟨hf, y, hy, ho⟩, hb⟩
      · exact ht
      · exact (h.opened y hy tn id ho hf).2 (Nat.le_of_lt_succ (hb hf y hy ho))

/-! ## Batches -/

section Batch

variable {w : Window} {f g : GatecoinContractFilter} {i j k id toBlock : ℕ} {x y : LogEntry} {tn node : Address}
  {chain : LogChain}

/-- the network of an opening is created before it -/
theorem created_before (hx : x ∈ chain.logs) (ho : Opens node x tn id) (hxt : x.blockNumber ≤ toBlock) :
    ∀ y ∈ chain.logs, Creates f y tn → y.blockNumber ≤ toBlock := by
  rintro y hy ⟨hc, -⟩
  obtain ⟨rfl, p1, p2, hd, -⟩ := ho
  exact (chain.block_le hy hx (chain.opened_after x hx y hy id p1 p2 hd hc)).trans hxt

/-- the channel of an event is opened before it -/
theorem opened_before {e : ChannelEvent} (hx : x ∈ chain.logs) (hd : x.data = .channelEvent e id)
    (hxt : x.blockNumber ≤ toBlock) : ∀ y ∈ chain.logs, Opens node y x.address id → y.blockNumber ≤ toBlock := by
  rintro y hy ⟨hya, p1, p2, hyd, -⟩
  exact (chain.block_le hy hx (chain.event_after x hx y hy e id p1 p2 hd hyd hya)).trans hxt

theorem Relevant.data_ne (h : Relevant chain node f x) : x.data ≠ .registeredService := by
  rcases h with ⟨tn, hd, -⟩ | ⟨id, ⟨-, p1, p2, hd, -⟩, -⟩ | ⟨e, id, hd, -⟩ <;> simp [hd]

theorem mem_batch (h : x ∈ w.batch fetchRounds g) : w.Has x := by
  obtain ⟨k, -, hk⟩ := mem_flatMap.1 h
  exact (asks_of_mem hk).1

/-- the logs of an earlier round come first -/
theorem pair_sublist_batch (hij : i < j) (hj : j < fetchRounds) (hx : x ∈ w.answers (w.next^[i] g))
    (hy : y ∈ w.answers (w.next^[j] g)) : List.Sublist [x, y] (w.batch fetchRounds g) := by
  have hpair : List.Sublist [i, j] (range fetchRounds) := by
    unfold fetchRounds at hj ⊢
    interval_cases j <;> interval_cases i <;> decide
  refine List.Sublist.trans ?_ (hpair.flatMap _)
  rw [← singleton_append, flatMap_cons, flatMap_cons, flatMap_nil, append_nil]
  exact (singleton_sublist.2 hx).append (singleton_sublist.2 hy)

section InSync

variable (hsync : InSync w.chain w.node f w.fromBlock g)
include hsync

/-- the networks that a round asks for are followed -/
theorem followed_of_round (h : tn ∈ (w.next^[k] g).tokenNetworkAddresses) : FollowedNetwork w.chain f tn := by
  match k, h with
  | 0, h => exact ((hsync.networks tn).1 h).1
  | 1, h =>
    obtain ⟨y, hy, hc⟩ := networks_next.1 h
    exact .inr ⟨y, hy.1, hc.1, hsync.registries ▸ hc.2⟩
  | k + 2, h => exact absurd h (networks_iterate k)

/-- a network is in the filter of one round: the first one, or the second one if the first one finds it -/
theorem network_round (hf : FollowedNetwork w.chain f tn)
    (hblock : ∀ y ∈ w.chain.logs, Creates f y tn → y.blockNumber ≤ w.toBlock) :
    ∃ k < 2, ∀ j, tn ∈ (w.next^[j] g).tokenNetworkAddresses ↔ j = k := by
  have hnext : tn ∈ (w.next g).tokenNetworkAddresses ↔ ∃ y, w.Has y ∧ Creates f y tn := by
    rw [networks_next]
    simp only [Creates, hsync.registries]
  by_cases hb : ∀ y ∈ w.chain.logs, Creates f y tn → y.blockNumber < w.fromBlock
  · refine ⟨0, by decide, fun j => ?_⟩
    match j with
    | 0 => exact iff_of_true ((hsync.networks tn).2 ⟨hf, hb⟩) rfl
    | 1 =>
      refine iff_of_false (fun h => ?_) (by decide)
      obtain ⟨y, hy, hc⟩ := hnext.1 h
      exact absurd hy.2.1 (not_le.2 (hb y hy.1 hc))
    | j + 2 => exact iff_of_false (networks_iterate j) (by omega)
  · push Not at hb
    obtain ⟨y, hy, hc, hlt⟩ := hb
    refine ⟨1, by decide, fun j => ?_⟩
    match j with
    | 0 => exact iff_of_false (fun h => absurd (((hsync.networks tn).1 h).2 y hy hc) (not_lt.2 hlt)) (by decide)
    | 1 => exact iff_of_true (hnext.2 ⟨y, ⟨hy, hlt, hblock y hy hc⟩, hc⟩) rfl
    | j + 2 => exact iff_of_false (networks_iterate j) (by omega)

/-- a channel is in the filter of one round: the first one, or the one after the round that finds it -/
theorem channel_round (hf : FollowedChannel w.chain w.node f tn id)
    (hblock : ∀ y ∈ w.chain.logs, Opens w.node y tn id → y.blockNumber ≤ w.toBlock) :
    ∃ k < 3, ∀ j, id ∈ (w.next^[j] g).channels tn ↔ j = k := by
  have hnext : ∀ j, id ∈ (w.next^[j + 1] g).channels tn ↔
      tn ∈ (w.next^[j] g).tokenNetworkAddresses ∧ ∃ y, w.Has y ∧ Opens w.node y tn id :=
    fun j => by rw [Function.iterate_succ_apply', channels_next]
  by_cases hb : FollowedNetwork w.chain f tn → ∀ y ∈ w.chain.logs, Opens w.node y tn id → y.blockNumber < w.fromBlock
  · refine ⟨0, by decide, fun j => ?_⟩
    cases j with
    | zero => exact iff_of_true ((hsync.channels tn id).2 ⟨hf, hb⟩) rfl
    | succ j =>
      refine iff_of_false (fun h => ?_) (Nat.succ_ne_zero j)
      obtain ⟨hnet, y, hy, ho⟩ := (hnext j).1 h
      exact absurd hy.2.1 (not_le.2 (hb (followed_of_round hsync hnet) y hy.1 ho))
  · push Not at hb
    obtain ⟨hnet, y, hy, ho, hlt⟩ := hb
    have hw : w.Has y := ⟨hy, hlt, hblock y hy ho⟩
    obtain ⟨k, hk, hround⟩ := network_round hsync hnet (created_before hy ho hw.2.2)
    refine ⟨k + 1, by omega, fun j => ?_⟩
    cases j with
    | zero =>
      refine iff_of_false (fun h => ?_) (Nat.succ_ne_zero k).symm
      exact absurd (((hsync.channels tn id).1 h).2 hnet y hy ho) (not_lt.2 hlt)
    | succ j => rw [hnext, hround, and_iff_left ⟨y, hw, ho⟩, Nat.succ_inj]

/-- a relevant log is asked for in one round -/
theorem relevant_round (hx : w.Has x) (hrel : Relevant w.chain w.node f x) :
    ∃ k < 3, ∀ j, Asks w.node (w.next^[j] g) x ↔ j = k := by
  unfold Asks
  rcases hrel with ⟨tn, hd, hreg⟩ | ⟨id, ho, hf⟩ | ⟨e, id, hd, he, hf⟩
  · refine ⟨0, by decide, fun j => ?_⟩
    rw [hd]
    cases j with
    | zero => exact iff_of_true (hsync.registries ▸ hreg) rfl
    | succ j =>
      rw [Function.iterate_succ_apply']
      exact iff_of_false (Finset.notMem_empty _) (Nat.succ_ne_zero j)
  · obtain ⟨k, hk, hround⟩ := network_round hsync hf (created_before hx.1 ho hx.2.2)
    obtain ⟨-, p1, p2, hd, hp⟩ := ho
    rw [hd]
    exact ⟨k, by omega, fun j => (and_iff_left hp).trans (hround j)⟩
  · obtain ⟨k, hk, hround⟩ := channel_round hsync hf (opened_before hx.1 hd hx.2.2)
    rw [hd]
    exact ⟨k, hk, fun j => (and_iff_right he).trans (hround j)⟩

/-- a batch has every relevant log of its blocks once -/
theorem batch_delivers (hx : w.Has x) (hrel : Relevant w.chain w.node f x) : (w.batch fetchRounds g).count x = 1 := by
  obtain ⟨k, hk, hround⟩ := relevant_round hsync hx hrel
  have hcount : ∀ j, (w.answers (w.next^[j] g)).count x = if j = k then 1 else 0 :=
    fun j => (count_answers hx hrel.data_ne).trans (if_congr (hround j) rfl rfl)
  rw [batch, count_flatMap]
  simp only [Function.comp_def, hcount, fetchRounds]
  interval_cases k <;> rfl

/-- what introduces a log of a batch comes before it -/
theorem batch_introduced (hx : x ∈ w.batch fetchRounds g) (hy : y ∈ w.chain.logs) (hry : Relevant w.chain w.node f y)
    (hyl : w.fromBlock ≤ y.blockNumber) (hi : Introduces w.node f y x) :
    List.Sublist [y, x] (w.batch fetchRounds g) := by
  obtain ⟨i, -, hxi⟩ := mem_flatMap.1 hx
  have hxw := (asks_of_mem hxi).1
  rcases hi with ⟨hc, id, ho⟩ | ⟨e, id, hxd, ho⟩
  · -- the first round finds the network, the second one its openings
    have hyw : w.Has y := ⟨hy, hyl, created_before hxw.1 ho hxw.2.2 y hy hc⟩
    have hreg : y.address ∈ g.tokenNetworkRegistryAddresses := hsync.registries ▸ hc.2
    obtain ⟨-, p1, p2, hd, hp⟩ := ho
    exact pair_sublist_batch Nat.zero_lt_one (by decide) ((mem_answers_created hc.1).2 ⟨hyw, hreg⟩)
      ((mem_answers_opened hd).2 ⟨hxw, networks_next.2 ⟨y, hyw, hc.1, hreg⟩, hp⟩)
  · -- the round after that of the opening asks for the channel
    have hyw : w.Has y := ⟨hy, hyl, opened_before hxw.1 hxd hxw.2.2 y hy ho⟩
    obtain ⟨k, hk, hround⟩ := relevant_round hsync hyw hry
    have hyk := (mem_answers hry.data_ne).2 ⟨hyw, (hround k).2 rfl⟩
    obtain ⟨-, he, -⟩ := (mem_answers_event hxd).1 hxi
    obtain ⟨hya, p1, p2, hyd, hp⟩ := ho
    obtain ⟨-, hnet, -⟩ := (mem_answers_opened hyd).1 hyk
    have hchannel : id ∈ (w.next^[k + 1] g).channels x.address := by
      rw [Function.iterate_succ_apply', channels_next]
      exact ⟨hya ▸ hnet, y, hyw, hya, p1, p2, hyd, hp⟩
    exact pair_sublist_batch (Nat.lt_succ_self k) (by unfold fetchRounds; omega) hyk
      ((mem_answers_event hxd).2 ⟨hxw, he, hchannel⟩)

/-- two logs of a channel from different rounds are in the order of the chain -/
theorem rounds_inOrder (hf : FollowedChannel w.chain w.node f tn id) (hij : i < j) (hx : x ∈ w.answers (w.next^[i] g))
    (hy : y ∈ w.answers (w.next^[j] g)) (hxo : ofChannel tn id x = true) (hyo : ofChannel tn id y = true) :
    x.index < y.index := by
  obtain ⟨rfl, hx'⟩ := ofChannel_iff.1 hxo
  obtain ⟨hya, hy'⟩ := ofChannel_iff.1 hyo
  have hxw := (asks_of_mem hx).1
  have hyw := (asks_of_mem hy).1
  rcases hx' with ⟨p1, p2, hxd⟩ | ⟨e, hxd⟩
  · rcases hy' with ⟨q1, q2, hyd⟩ | ⟨e, hyd⟩
    · -- a channel is opened once, and its network is in the filter of one round
      cases w.chain.opened_once x hxw.1 y hyw.1 id p1 p2 q1 q2 hxd hyd hya.symm
      obtain ⟨-, hneti, hp⟩ := (mem_answers_opened hxd).1 hx
      obtain ⟨-, hnetj, -⟩ := (mem_answers_opened hxd).1 hy
      obtain ⟨k, -, hround⟩ := network_round hsync (followed_of_round hsync hneti)
        (created_before hxw.1 ⟨rfl, p1, p2, hxd, hp⟩ hxw.2.2)
      exact absurd (((hround i).1 hneti).trans ((hround j).1 hnetj).symm) hij.ne
    · exact w.chain.event_after y hyw.1 x hxw.1 e id p1 p2 hyd hxd hya.symm
  · -- the other logs are in one round, which is not before that of the opening
    obtain ⟨-, -, hi⟩ := (mem_answers_event hxd).1 hx
    obtain ⟨k, -, hround⟩ := channel_round hsync hf (opened_before hxw.1 hxd hxw.2.2)
    rcases hy' with ⟨q1, q2, hyd⟩ | ⟨e', hyd⟩
    · obtain ⟨-, hnet, hp⟩ := (mem_answers_opened hyd).1 hy
      have hj : id ∈ (w.next^[j + 1] g).channels x.address := by
        rw [Function.iterate_succ_apply', channels_next]
        exact ⟨hya ▸ hnet, y, hyw, hya, q1, q2, hyd, hp⟩
      exact absurd (((hround i).1 hi).trans ((hround (j + 1)).1 hj).symm) (by omega)
    · obtain ⟨-, -, hj⟩ := (mem_answers_event hyd).1 hy
      rw [hya] at hj
      exact absurd (((hround i).1 hi).trans ((hround j).1 hj).symm) hij.ne

theorem batch_inOrder (hf : FollowedChannel w.chain w.node f tn id) :
    ((w.batch fetchRounds g).filter (ofChannel tn id)).Pairwise fun a b => a.index < b.index := by
  rw [batch, filter_flatMap, pairwise_flatMap]
  refine ⟨fun k _ => pairwise_answers w _ tn id, pairwise_lt_range.imp fun {i j} hij x hx y hy => ?_⟩
  obtain ⟨hxm, hxo⟩ := mem_filter.1 hx
  obtain ⟨hym, hyo⟩ := mem_filter.1 hy
  exact rounds_inOrder hsync hf hij hxm hym hxo hyo

end InSync

/-- the filter after a batch -/
theorem batch_inSync {s s' : BlockchainEvents} (hsync : InSync w.chain w.node f w.fromBlock s.eventFilter)
    (hle : w.fromBlock ≤ w.toBlock + 1) (ht : Tracked w fetchRounds s.eventFilter s s') :
    InSync w.chain w.node f (w.toBlock + 1) s'.eventFilter where
  registries := ht.registries.trans hsync.registries
  networks tn := by
    rw [ht.networks]
    constructor
    · rintro (h | ⟨k, -, h⟩)
      · exact ((hsync.networks tn).1 h).imp_right fun hb y hy hc => (hb y hy hc).trans_le hle
      · refine ⟨followed_of_round hsync h, fun y hy hc => ?_⟩
        match k, h with
        | 0, h =>
          obtain ⟨z, hz, hcz⟩ := networks_next.1 h
          cases w.chain.created_once y hy z hz.1 tn hc.1 hcz.1
          exact Nat.lt_succ_of_le hz.2.2
        | k + 1, h => exact absurd h (networks_iterate k)
    · rintro ⟨hf, hb⟩
      obtain ⟨k, hk, hround⟩ := network_round hsync hf fun y hy hc => Nat.le_of_lt_succ (hb y hy hc)
      match k, hk, (hround k).2 rfl with
      | 0, _, h => exact .inl h
      | k + 1, hk, h => exact .inr ⟨k, by unfold fetchRounds; omega, h⟩
  channels tn id := by
    rw [ht.channels]
    constructor
    · rintro (h | ⟨k, -, h⟩)
      · exact ((hsync.channels tn id).1 h).imp_right fun hb hf y hy ho => (hb hf y hy ho).trans_le hle
      · rw [Function.iterate_succ_apply', channels_next] at h
        obtain ⟨hnet, z, hz, hoz⟩ := h
        refine ⟨.inr ⟨followed_of_round hsync hnet, z, hz.1, hoz⟩, fun _ y hy ho => ?_⟩
        obtain ⟨hza, p1, p2, hzd, -⟩ := hoz
        obtain ⟨hya, q1, q2, hyd, -⟩ := ho
        cases w.chain.opened_once y hy z hz.1 id q1 q2 p1 p2 hyd hzd (hya.trans hza.symm)
        exact Nat.lt_succ_of_le hz.2.2
    · rintro ⟨hf, hb⟩
      by_cases hnet : FollowedNetwork w.chain f tn
      · obtain ⟨k, hk, hround⟩ := channel_round hsync hf fun y hy ho => Nat.le_of_lt_succ (hb hnet y hy ho)
        match k, hk, (hround k).2 rfl with
        | 0, _, h => exact .inl h
        | k + 1, hk, h => exact .inr ⟨k, by unfold fetchRounds; omega, h⟩
      · exact .inl ((hsync.channels tn id).2 ⟨hf, fun hnet' => absurd hnet' hnet⟩)

end Batch

/-! ## Runs -/

section Runs

variable {chain : LogChain} {node : Address} {c : FetchCall} {s s' : BlockchainEvents}

variable (chain) in
theorem queryAndTrack_frame (timeout : ℕ → ℕ → Bool) (fromBlock toBlock n : ℕ) (f : GatecoinContractFilter)
    (result : List LogEntry) (s : BlockchainEvents) :
    (queryAndTrack chain timeout fromBlock toBlock n f result s).1.lastFetchedBlock = s.lastFetchedBlock ∧
      (queryAndTrack chain timeout fromBlock toBlock n f result s).1.nodeAddress = s.nodeAddress := by
  induction n generalizing f result s with
  | zero => exact ⟨rfl, rfl⟩
  | succ n ih =>
    simp only [queryAndTrack]
    split_ifs
    · split
      · exact ⟨rfl, rfl⟩
      · exact ⟨rfl, rfl⟩
      · split_ifs
        · split
          · exact ⟨rfl, rfl⟩
          · exact ih _ _ _
        · exact ⟨rfl, rfl⟩
    · exact ⟨rfl, rfl⟩

/-- a call that returns a result has fetched the batch after the last block -/
theorem fetchLogsInBatch_ok {r : PollResult} (h : fetchLogsInBatch chain s c = (s', .ok r)) :
    s.lastFetchedBlock < s'.lastFetchedBlock ∧
      let w : Window := ⟨chain, s.lastFetchedBlock + 1, s'.lastFetchedBlock, s.nodeAddress⟩
      r.events = w.batch fetchRounds s.eventFilter ∧ Tracked w fetchRounds s.eventFilter s s' := by
  unfold fetchLogsInBatch at h
  split_ifs at h with htarget
  · cases h
  · simp only at h
    split at h
    · cases h
    · rename_i t events hq
      obtain ⟨hev, htrack⟩ := queryAndTrack_ok (w := ⟨chain, _, _, s.nodeAddress⟩) rfl hq
      split at h
      · cases h
      · cases h
        refine ⟨?_, hev, htrack.node, htrack.registries, htrack.networks, htrack.channels⟩
        simp only [lt_min_iff]
        omega

/-- a call that fails leaves what the query left, and the query itself failed or something raised after it -/
theorem fetchLogsInBatch_error {e : FetchError} (h : fetchLogsInBatch chain s c = (s', .error e)) : s' = s ∨
    ∃ r, (s', r) = queryAndTrack chain c.timeout (s.lastFetchedBlock + 1)
      (min (s.lastFetchedBlock + 1 + c.batchSize) c.targetBlockNumber) fetchRounds s.eventFilter [] s ∧
      (r.isOk → c.failure ≠ none) := by
  unfold fetchLogsInBatch at h
  split_ifs at h with htarget
  · cases h
    exact .inl rfl
  · simp only at h
    split at h
    · rename_i hq
      cases h
      exact .inr ⟨_, hq.symm, Bool.noConfusion⟩
    · rename_i hq
      split at h
      · rename_i hfailure
        cases h
        exact .inr ⟨_, hq.symm, fun _ hnone => by rw [hnone] at hfailure; cases hfailure⟩
      · cases h

/-- the blocks after `last`, up to `toBlock`, have no new network of a followed registry and no new channel of the node -/
def NothingNew (chain : LogChain) (node : Address) (f : GatecoinContractFilter) (last toBlock : ℕ) : Prop :=
  ∀ y ∈ chain.logs, InRange (last + 1) toBlock y →
    (∀ tn, ¬ Creates f y tn) ∧ ∀ id, Opens node y y.address id → ¬ FollowedNetwork chain f y.address

/-- only requests of the first round of the call time out and nothing raises after the last one, or there is nothing new in
the blocks of the call -/
def InTime (chain : LogChain) (node : Address) (f : GatecoinContractFilter) (p : Poller) (c : FetchCall) : Prop :=
  (c.failure = none ∧ ∀ rounds, rounds + 1 < fetchRounds → ∀ i, c.timeout rounds i = false) ∨
    NothingNew chain node f p.state.lastFetchedBlock
      (min (p.state.lastFetchedBlock + 1 + c.batchSize) c.targetBlockNumber)

/-- the first round finds nothing new if there is nothing -/
theorem NothingNew.answers {f g : GatecoinContractFilter} {last toBlock : ℕ} (h : NothingNew chain node f last toBlock)
    (hsync : InSync chain node f (last + 1) g) : ∀ x ∈ answers ⟨chain, last + 1, toBlock, node⟩ g,
      x.createdNetwork? = none ∧ x.openedChannel? = none := by
  intro x hx
  obtain ⟨hw, hasks⟩ := asks_of_mem hx
  obtain ⟨hcreated, hopened⟩ := h x hw.1 hw.2
  unfold LogEntry.createdNetwork? LogEntry.openedChannel?
  unfold Asks at hasks
  cases hd : x.data with
  | tokenNetworkCreated tn =>
    rw [hd] at hasks
    exact absurd ⟨hd, hsync.registries ▸ hasks⟩ (hcreated tn)
  | channelOpened id p1 p2 =>
    rw [hd] at hasks
    exact absurd ((hsync.networks _).1 hasks.1).1 (hopened id ⟨rfl, p1, p2, hd, hasks.2⟩)
  | channelEvent | secretRevealed | registeredService | other => exact ⟨rfl, rfl⟩

/-- a call in time that fails changes nothing that matters for the next one -/
theorem fetchLogsInBatch_inTime {f : GatecoinContractFilter} {p : Poller} {e : FetchError}
    (hnode : p.state.nodeAddress = node) (hsync : InSync chain node f (p.state.lastFetchedBlock + 1) p.state.eventFilter)
    (hc : InTime chain node f p c) (h : fetchLogsInBatch chain p.state c = (s', .error e)) :
    s'.lastFetchedBlock = p.state.lastFetchedBlock ∧ s'.nodeAddress = p.state.nodeAddress ∧
      s'.eventFilter = p.state.eventFilter := by
  obtain rfl | ⟨r, hq, hraised⟩ := fetchLogsInBatch_error h
  · exact ⟨rfl, rfl, rfl⟩
  · obtain ⟨hlast, hnode'⟩ := queryAndTrack_frame chain c.timeout (p.state.lastFetchedBlock + 1)
      (min (p.state.lastFetchedBlock + 1 + c.batchSize) c.targetBlockNumber) fetchRounds p.state.eventFilter [] p.state
    rw [← hq] at hlast hnode'
    refine ⟨hlast, hnode', ?_⟩
    rcases hc with ⟨hfailure, htimeout⟩ | hnew
    · have hrounds := hq ▸ queryAndTrack_rounds (w := ⟨chain, _, _, node⟩) hnode htimeout
      exact hrounds.elim (fun hok => absurd hfailure (hraised hok)) (congrArg BlockchainEvents.eventFilter)
    · exact (congrArg (·.1.eventFilter) hq).trans
        (queryAndTrack_idle (w := ⟨chain, _, _, node⟩) hnode (hnew.answers hsync))

/-- the poller has delivered what lies behind it and follows what it has found -/
structure UpToDate (chain : LogChain) (node : Address) (f : GatecoinContractFilter) (start : ℕ) (p : Poller) : Prop where
  isNode : p.state.nodeAddress = node
  inSync : InSync chain node f (p.state.lastFetchedBlock + 1) p.state.eventFilter
  past : ∀ x ∈ p.delivered, x ∈ chain.logs ∧ x.blockNumber ≤ p.state.lastFetchedBlock
  delivered : Delivered chain node f start p.state.lastFetchedBlock p.delivered

/-- what was delivered, followed by a batch -/
theorem delivered_batch {f g : GatecoinContractFilter} {start last toBlock : ℕ} {out : List LogEntry}
    (hsync : InSync chain node f (last + 1) g) (hpast : ∀ x ∈ out, x ∈ chain.logs ∧ x.blockNumber ≤ last)
    (h : Delivered chain node f start last out) :
    Delivered chain node f start toBlock (out ++ batch ⟨chain, last + 1, toBlock, node⟩ fetchRounds g) where
  once x hx hrel hs ht := by
    rw [count_append]
    by_cases hl : x.blockNumber ≤ last
    · rw [h.once x hx hrel hs hl, count_eq_zero.2]
      intro hmem
      exact absurd (mem_batch hmem).2.1 (by simpa using hl)
    · have hw : Has ⟨chain, last + 1, toBlock, node⟩ x := ⟨hx, not_le.1 hl, ht⟩
      rw [batch_delivers hsync hw hrel, count_eq_zero.2]
      intro hmem
      exact hl (hpast x hmem).2
  introduced x hx y hy hrx hry hi hs := by
    rcases mem_append.1 hx with hxo | hxb
    · exact (h.introduced x hxo y hy hrx hry hi hs).trans (sublist_append_left _ _)
    · by_cases hyl : y.blockNumber ≤ last
      · have hyo : y ∈ out := count_pos_iff.1 (by rw [h.once y hy hry hs hyl]; exact Nat.one_pos)
        exact (singleton_sublist.2 hyo).append (singleton_sublist.2 hxb)
      · exact (batch_introduced hsync hxb hy hry (not_le.1 hyl) hi).trans (sublist_append_right _ _)
  inOrder tn id hf := by
    rw [filter_append, pairwise_append]
    refine ⟨h.inOrder tn id hf, batch_inOrder hsync hf, fun x hx y hy => ?_⟩
    obtain ⟨hxm, hxl⟩ := hpast x (mem_filter.1 hx).1
    have hyw := mem_batch (mem_filter.1 hy).1
    exact chain.index_lt hxm hyw.1 (Nat.lt_of_le_of_lt hxl hyw.2.1)

theorem UpToDate.step {f : GatecoinContractFilter} {start : ℕ} {p : Poller} (h : UpToDate chain node f start p)
    (hc : InTime chain node f p c) : UpToDate chain node f start (pollStep chain p c) := by
  unfold pollStep
  cases hfetch : fetchLogsInBatch chain p.state c with
  | mk s r =>
    cases r with
    | error e =>
      obtain ⟨hlast, hnode, hfilter⟩ := fetchLogsInBatch_inTime h.isNode h.inSync hc hfetch
      refine ⟨hnode.trans h.isNode, ?_, ?_, ?_⟩ <;> simp only [hlast, hfilter]
      · exact h.inSync
      · exact h.past
      · exact h.delivered
    | ok r =>
      obtain ⟨hlt, hev, htrack⟩ := fetchLogsInBatch_ok hfetch
      rw [h.isNode] at hev htrack
      simp only [hev]
      refine ⟨htrack.node.trans h.isNode, ?_, ?_, delivered_batch h.inSync h.past h.delivered⟩
      · exact batch_inSync (w := ⟨chain, _, _, node⟩) h.inSync (Nat.succ_le_succ hlt.le) htrack
      · intro x hx
        rcases mem_append.1 hx with hx | hx
        · exact ⟨(h.past x hx).1, (h.past x hx).2.trans hlt.le⟩
        · exact ⟨(mem_batch hx).1, (mem_batch hx).2.2⟩

/-- **Every log once.** In every sequence of calls of which only requests of the first round time out, apart from calls for
blocks without new networks and channels, the results together have every relevant log of the fetched blocks exactly once,
after what introduced it, and the logs of a channel in the order of the chain. -/
theorem logs_delivered_once (chain : LogChain) (s : BlockchainEvents)
    (hstart : StartsInSync chain s.nodeAddress s.lastFetchedBlock s.eventFilter) (calls : List FetchCall)
    (h : Along (pollStep chain) (InTime chain s.nodeAddress s.eventFilter) ⟨s, []⟩ calls) :
    Delivered chain s.nodeAddress s.eventFilter s.lastFetchedBlock
      (runFrom (pollStep chain) ⟨s, []⟩ calls).state.lastFetchedBlock
      (runFrom (pollStep chain) ⟨s, []⟩ calls).delivered := by
  have hinit : UpToDate chain s.nodeAddress s.eventFilter s.lastFetchedBlock ⟨s, []⟩ := by
    refine ⟨rfl, hstart.inSync, fun x hx => absurd hx not_mem_nil, fun x _ _ hs ht => ?_, ?_, ?_⟩
    · exact absurd (show x.blockNumber ≤ s.lastFetchedBlock from ht) (by omega)
    · exact fun x hx => absurd hx not_mem_nil
    · exact fun _ _ _ => List.Pairwise.nil
  exact (run_invariant (pollStep chain) (fun _ _ hs hok => hs.step hok) hinit h).delivered

end Runs

/-! ## A network, a channel and a deposit -/

section Example

/-- registry 1 creates network 2, in which nodes 7 and 8 open channel 5 and make a deposit -/
def sampleChain : LogChain where
  logs := [⟨0, 6, 1, .tokenNetworkCreated 2⟩, ⟨1, 8, 2, .channelOpened 5 7 8⟩, ⟨2, 9, 2, .channelEvent .deposit 5⟩]
  ordered := by decide
  created_once x hx y hy tn hxd hyd := by
    simp only [mem_cons, not_mem_nil, or_false] at hx hy
    rcases hx with rfl | rfl | rfl <;> rcases hy with rfl | rfl | rfl <;> simp_all
  opened_once x hx y hy id p1 p2 q1 q2 hxd hyd _ := by
    simp only [mem_cons, not_mem_nil, or_false] at hx hy
    rcases hx with rfl | rfl | rfl <;> rcases hy with rfl | rfl | rfl <;> simp_all
  participants_ne x hx id p1 p2 hd := by
    simp only [mem_cons, not_mem_nil, or_false] at hx
    rcases hx with rfl | rfl | rfl
    · cases hd
    · cases hd
      decide
    · cases hd
  opened_after x hx y hy id p1 p2 hxd hyd := by
    simp only [mem_cons, not_mem_nil, or_false] at hx hy
    rcases hx with rfl | rfl | rfl <;> rcases hy with rfl | rfl | rfl <;> simp_all
  event_after x hx y hy e id p1 p2 hxd hyd _ := by
    simp only [mem_cons, not_mem_nil, or_false] at hx hy
    rcases hx with rfl | rfl | rfl <;> rcases hy with rfl | rfl | rfl <;> simp_all

/-- node 7 follows the registry and has fetched the blocks up to 5 -/
def sampleEvents : BlockchainEvents := ⟨5, ⟨{1}, ∅, Dict.empty, none, true, none⟩, {1}, 7⟩

/-- a call for the blocks up to 10 whose requests of one round time out -/
def callWith (timeout : ℕ → ℕ → Bool) : FetchCall := ⟨10, 10, timeout, none⟩

/-- The network is found, and then the request for its channels times out. The second call finds the network again and
asks twice for its channels: the opening and the deposit are delivered two times. -/
theorem late_timeout_repeats_logs :
    ((runFrom (pollStep sampleChain) ⟨sampleEvents, []⟩
      [callWith fun rounds _ => rounds = 2, callWith fun _ _ => false]).delivered.map LogEntry.index) =
      [0, 1, 1, 2, 2] := by
  decide +kernel

theorem sampleEvents_startsInSync :
    StartsInSync sampleChain sampleEvents.nodeAddress sampleEvents.lastFetchedBlock sampleEvents.eventFilter where
  created y hy tn hc := by
    simp only [sampleChain, mem_cons, not_mem_nil, or_false] at hy
    rcases hy with rfl | rfl | rfl <;> simp [sampleEvents]
  opened y hy tn id ho _ := by
    simp only [sampleChain, mem_cons, not_mem_nil, or_false] at hy
    rcases hy with rfl | rfl | rfl <;> simp [sampleEvents, GatecoinContractFilter.channels, Dict.get?, Dict.lookup, Dict.empty]

/-- the first call times out before it has found anything -/
theorem logs_delivered_after_timeout :
    Delivered sampleChain 7 sampleEvents.eventFilter 5 10
      (runFrom (pollStep sampleChain) ⟨sampleEvents, []⟩
        [callWith fun rounds _ => rounds = 3, callWith fun _ _ => false]).delivered := by
  have h := logs_delivered_once sampleChain sampleEvents sampleEvents_startsInSync
    [callWith fun rounds _ => rounds = 3, callWith fun _ _ => false]
    ⟨.inl ⟨rfl, fun rounds hround _ => decide_eq_false (Nat.ne_of_lt (Nat.lt_of_succ_lt_succ hround))⟩,
      .inl ⟨rfl, fun _ _ _ => rfl⟩, trivial⟩
  exact h

end Example

end Gatecoin.Chain
