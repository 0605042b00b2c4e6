/-
What a round of requests answers with, from its filter alone.

- `count_answers`: how often a round has a log.
- `pairwise_answers`: the logs of a channel are in the order of the chain.
- `networks_next`, `channels_next`: what the next round asks for.
- `queryAndTrack_ok`: a batch that is returned is the sequence of its rounds, and the filter has grown by what they found.
- `queryAndTrack_rounds`: a batch of which only requests of the first round time out is returned or has changed nothing.
- `queryAndTrack_idle`: a batch without new networks and channels leaves the filter as it is.
-/
import Gatecoin.Chain.Events

namespace Gatecoin.Chain

open Gatecoin.Core GatecoinContractFilter List Dict

/-! ## Introductions -/

/-- a creation in a registry that the filter follows -/
def Creates (f : GatecoinContractFilter) (y : LogEntry) (tn : Address) : Prop :=
  y.data = .tokenNetworkCreated tn ∧ y.address ∈ f.tokenNetworkRegistryAddresses

/-- the node opens a channel -/
def Opens (node : Address) (y : LogEntry) (tn : Address) (id : ℕ) : Prop :=
  y.address = tn ∧ ∃ p1 p2, y.data = .channelOpened id p1 p2 ∧ (p1 = node ∨ p2 = node)

/-- the opening of a channel or one of its events -/
def ofChannel (tn : Address) (id : ℕ) (x : LogEntry) : Bool :=
  decide (x.address = tn) && match x.data with
    | .channelOpened id' _ _ => decide (id' = id)
    | .channelEvent _ id' => decide (id' = id)
    | _ => false

def InRange (fromBlock toBlock : ℕ) (x : LogEntry) : Prop := fromBlock ≤ x.blockNumber ∧ x.blockNumber ≤ toBlock

/-! ## The chain -/

section Chain

variable {chain : LogChain} {x y : LogEntry}

theorem LogChain.nodup (chain : LogChain) : chain.logs.Nodup :=
  chain.ordered.imp fun h => by rintro rfl; omega

/-- of two logs the one in the earlier block comes first -/
theorem LogChain.index_lt (hx : x ∈ chain.logs) (hy : y ∈ chain.logs) (h : x.blockNumber < y.blockNumber) :
    x.index < y.index := by
  have hpair : ∀ ⦃a⦄, a ∈ chain.logs → ∀ ⦃b⦄, b ∈ chain.logs → a.blockNumber < b.blockNumber → a.index < b.index := by
    refine List.Pairwise.forall_of_forall_of_flip (fun _ _ hlt => absurd hlt (lt_irrefl _)) ?_ ?_
    · exact chain.ordered.imp fun hab _ => hab.1
    · exact chain.ordered.imp fun {a b} hab hlt => absurd (show b.blockNumber < a.blockNumber from hlt) (by omega)
  exact hpair hx hy h

/-- a log that comes first is in no later block -/
theorem LogChain.block_le (hx : x ∈ chain.logs) (hy : y ∈ chain.logs) (h : x.index < y.index) :
    x.blockNumber ≤ y.blockNumber := by
  by_contra hlt
  have hindex := chain.index_lt hy hx (by omega)
  omega

theorem ofChannel_iff {tn : Address} {id : ℕ} : ofChannel tn id x = true ↔ x.address = tn ∧
      ((∃ p1 p2, x.data = .channelOpened id p1 p2) ∨ ∃ e, x.data = .channelEvent e id) := by
  unfold ofChannel
  cases x.data <;> simp

end Chain

/-! ## Requests -/

/-- what a filter asks for -/
def Asks (node : Address) (f : GatecoinContractFilter) (x : LogEntry) : Prop :=
  match x.data with
  | .tokenNetworkCreated _ => x.address ∈ f.tokenNetworkRegistryAddresses
  | .channelOpened _ p1 p2 => x.address ∈ f.tokenNetworkAddresses ∧ (p1 = node ∨ p2 = node)
  | .channelEvent e id => e ∈ channelTopics ∧ id ∈ f.channels x.address
  | .secretRevealed => f.secretRegistryAddress = some x.address ∧ f.ignoreSecretRegistryUntilChannelFound = false
  | .registeredService => f.serviceRegistry = some x.address
  | .other => False

instance (node : Address) (f : GatecoinContractFilter) (x : LogEntry) : Decidable (Asks node f x) := by
  unfold Asks
  split <;> infer_instance

section Requests

variable {chain : LogChain} {ps : List FilterParams} {p : FilterParams} {x : LogEntry} {f : GatecoinContractFilter}
  {fromBlock toBlock : ℕ} {node : Address}

theorem accept_iff : p.accept x = true ↔
    x.address ∈ p.address ∧ InRange p.fromBlock p.toBlock x ∧ p.topics.accept x.data = true := by
  unfold FilterParams.accept InRange
  rw [decide_eq_true_iff, and_assoc]

theorem requestAll_ok {timeout : ℕ → Bool} {i : ℕ} {logs : List LogEntry}
    (h : requestAll chain timeout i ps = .ok logs) : logs = ps.flatMap (ethGetLogs chain) := by
  induction ps generalizing i logs with
  | nil =>
    cases h
    rfl
  | cons p ps ih =>
    simp only [requestAll] at h
    split_ifs at h
    cases hrest : requestAll chain timeout (i + 1) ps with
    | error e =>
      rw [hrest] at h
      cases h
    | ok later =>
      rw [hrest] at h
      cases h
      rw [flatMap_cons, ih hrest]

theorem count_requests (ps : List FilterParams) (hx : x ∈ chain.logs) :
    (ps.flatMap (ethGetLogs chain)).count x = ps.countP (·.accept x) := by
  induction ps with
  | nil => rfl
  | cons p ps ih =>
    rw [flatMap_cons, count_append, ih, countP_cons, add_comm, ethGetLogs]
    congr 1
    split_ifs with hp
    · rw [count_filter hp, count_eq_one_of_mem chain.nodup hx]
    · exact count_eq_zero.2 fun hmem => hp (mem_filter.1 hmem).2

/-- every request is for the blocks of the batch -/
theorem range_toWeb3Filters (hp : p ∈ f.toWeb3Filters fromBlock toBlock node) :
    p.fromBlock = fromBlock ∧ p.toBlock = toBlock := by
  simp only [toWeb3Filters, registryFilters, secretFilters, networkFilters, channelFilters, serviceFilters, mem_append,
    mem_map] at hp
  grind

theorem countP_registryFilters (hr : InRange fromBlock toBlock x) :
    (f.registryFilters fromBlock toBlock).countP (·.accept x) =
      if x.address ∈ f.tokenNetworkRegistryAddresses ∧ Topics.tokenNetworkCreated.accept x.data then 1 else 0 := by
  unfold registryFilters
  split_ifs <;> simp_all [accept_iff]

theorem countP_secretFilters (hr : InRange fromBlock toBlock x) :
    (f.secretFilters fromBlock toBlock).countP (·.accept x) =
      if (f.secretRegistryAddress = some x.address ∧ f.ignoreSecretRegistryUntilChannelFound = false) ∧
        Topics.secretRevealed.accept x.data then 1 else 0 := by
  unfold secretFilters
  split <;> split_ifs <;> simp_all [accept_iff]

theorem countP_networkFilters (hr : InRange fromBlock toBlock x) :
    (f.networkFilters fromBlock toBlock node).countP (·.accept x) =
      (if x.address ∈ f.tokenNetworkAddresses ∧ (Topics.openedByParticipant1 node).accept x.data then 1 else 0) +
        if x.address ∈ f.tokenNetworkAddresses ∧ (Topics.openedByParticipant2 node).accept x.data then 1 else 0 := by
  unfold networkFilters
  split_ifs <;> simp_all [accept_iff]

theorem countP_entries (d : Dict Address (Finset ℕ)) (a : Address) (q : Finset ℕ → Bool) :
    d.entries.countP (fun e => decide (a = e.1) && q e.2) = if (d.get? a).any q then 1 else 0 := by
  have hall : ∀ l : List (Address × Finset ℕ), (l.map Prod.fst).Nodup →
      l.countP (fun e => decide (a = e.1) && q e.2) = if (Dict.lookup a l).any q then 1 else 0 := by
    intro l hn
    induction l with
    | nil => rfl
    | cons e l ih =>
      rw [map_cons, nodup_cons] at hn
      rw [countP_cons, ih hn.2, Dict.lookup]
      by_cases he : e.1 = a
      · have hnone : Dict.lookup a l = none :=
          Option.not_isSome_iff_eq_none.1 fun h => hn.1 (he ▸ (lookup_isSome a l).1 h)
        simp [he, hnone]
      · simp [he, Ne.symm he]
  exact hall d.entries d.nodup

theorem countP_channelFilters (hr : InRange fromBlock toBlock x) :
    (f.channelFilters fromBlock toBlock).countP (·.accept x) =
      if (Topics.channel channelTopics (f.channels x.address)).accept x.data then 1 else 0 := by
  have hentries := countP_entries f.channelsOfTokenNetwork x.address fun cs => (Topics.channel channelTopics cs).accept x.data
  have hany : (f.channelsOfTokenNetwork.get? x.address).any (fun cs => (Topics.channel channelTopics cs).accept x.data) =
      (Topics.channel channelTopics (f.channels x.address)).accept x.data := by
    unfold channels
    cases f.channelsOfTokenNetwork.get? x.address with
    | none => cases x.data <;> simp [Topics.accept.eq_def]
    | some cs => rfl
  rw [← hany, ← hentries, channelFilters, countP_map]
  refine countP_congr fun e _ => ?_
  simp [accept_iff, hr]

theorem countP_serviceFilters (hr : InRange fromBlock toBlock x) :
    (f.serviceFilters fromBlock toBlock).countP (·.accept x) =
      if f.serviceRegistry = some x.address ∧ Topics.registeredService.accept x.data then 1 else 0 := by
  unfold serviceFilters
  split <;> simp_all [accept_iff, eq_comm (a := x.address)]

/-- a log of the batch is asked for once, or not at all -/
theorem countP_toWeb3Filters (hr : InRange fromBlock toBlock x)
    (hne : ∀ id p1 p2, x.data = .channelOpened id p1 p2 → p1 ≠ p2) :
    (f.toWeb3Filters fromBlock toBlock node).countP (·.accept x) = if Asks node f x then 1 else 0 := by
  simp only [toWeb3Filters, countP_append, countP_registryFilters hr, countP_secretFilters hr, countP_networkFilters hr,
    countP_channelFilters hr, countP_serviceFilters hr, Asks]
  obtain ⟨index, blockNumber, address, data⟩ := x
  cases data with
  | channelOpened id p1 p2 =>
    have hother : p1 = node → p2 ≠ node := fun h1 h2 => hne id p1 p2 rfl (h1.trans h2.symm)
    simp only [Topics.accept.eq_def]
    grind
  | other => simp [Topics.accept.eq_def]
  | _ =>
    simp only [Topics.accept.eq_def, Bool.false_eq_true, and_false, and_true, if_false, zero_add, add_zero, decide_eq_true_eq]
    congr

end Requests

/-! ## Rounds -/

/-- the blocks of a batch and the node that asks for their logs -/
structure Window where
  chain : LogChain
  fromBlock : ℕ
  toBlock : ℕ
  node : Address

namespace Window

/-- the log is one of the blocks -/
def Has (w : Window) (x : LogEntry) : Prop := x ∈ w.chain.logs ∧ InRange w.fromBlock w.toBlock x

/-- the decoded logs of a round -/
def answers (w : Window) (f : GatecoinContractFilter) : List LogEntry :=
  if f.nonempty then sortEvents ((f.toWeb3Filters w.fromBlock w.toBlock w.node).flatMap (ethGetLogs w.chain)) else []

/-- the filter for what a round has found -/
def next (w : Window) (f : GatecoinContractFilter) : GatecoinContractFilter := newFiltersFromEvents (w.answers f)

/-- the logs of the first `n` rounds of a batch without timeouts -/
def batch (w : Window) (n : ℕ) (f : GatecoinContractFilter) : List LogEntry :=
  (range n).flatMap fun k => w.answers (w.next^[k] f)

end Window

open Window

section Rounds

variable {w : Window} {f : GatecoinContractFilter} {x : LogEntry} {tn : Address} {id n : ℕ} {events : List LogEntry}

theorem perm_sortEvents (l : List LogEntry) : (sortEvents l).Perm l := perm_insertionSort _ l

theorem nonempty_of_asks {node : Address} (h : Asks node f x) (hs : x.data ≠ .registeredService) : f.nonempty = true := by
  unfold Asks at h
  simp only [nonempty, decide_eq_true_eq]
  split at h
  · exact .inl (Finset.ne_empty_of_mem h)
  · exact .inr (.inl (Finset.ne_empty_of_mem h.1))
  · obtain ⟨-, hid⟩ := h
    unfold channels at hid
    cases hg : f.channelsOfTokenNetwork.get? x.address with
    | none =>
      rw [hg] at hid
      cases hid
    | some cs =>
      rw [hg] at hid
      exact .inr (.inr (.inl ⟨cs, mem_map_of_mem (get?_eq_some.1 hg), Finset.ne_empty_of_mem hid⟩))
  · exact .inr (.inr (.inr (by rw [h.1]; rfl)))
  · exact absurd (by assumption) hs
  · exact h.elim

theorem count_answers (hx : w.Has x) (hs : x.data ≠ .registeredService) :
    (w.answers f).count x = if Asks w.node f x then 1 else 0 := by
  unfold answers
  split_ifs with hne hasks hasks
  · rw [(perm_sortEvents _).count_eq, count_requests _ hx.1, countP_toWeb3Filters hx.2 (w.chain.participants_ne x hx.1),
      if_pos hasks]
  · rw [(perm_sortEvents _).count_eq, count_requests _ hx.1, countP_toWeb3Filters hx.2 (w.chain.participants_ne x hx.1),
      if_neg hasks]
  · exact absurd (nonempty_of_asks hasks hs) hne
  · rfl

theorem asks_of_mem (h : x ∈ w.answers f) : w.Has x ∧ Asks w.node f x := by
  unfold answers at h
  split_ifs at h
  · rw [(perm_sortEvents _).mem_iff] at h
    obtain ⟨p, hp, hx⟩ := mem_flatMap.1 h
    obtain ⟨hmem, hacc⟩ := mem_filter.1 hx
    obtain ⟨hfrom, hto⟩ := range_toWeb3Filters hp
    have hr := (accept_iff.1 hacc).2.1
    rw [hfrom, hto] at hr
    have hcount : (f.toWeb3Filters w.fromBlock w.toBlock w.node).countP (·.accept x) = _ :=
      countP_toWeb3Filters hr (w.chain.participants_ne x hmem)
    have hpos := countP_pos_iff (p := (FilterParams.accept · x)).2 ⟨p, hp, hacc⟩
    split_ifs at hcount with hasks
    · exact ⟨⟨hmem, hr⟩, hasks⟩
    · omega
  · cases h

theorem mem_answers (hs : x.data ≠ .registeredService) : x ∈ w.answers f ↔ w.Has x ∧ Asks w.node f x := by
  refine ⟨asks_of_mem, fun ⟨hx, hasks⟩ => count_pos_iff.1 ?_⟩
  rw [count_answers hx hs, if_pos hasks]
  exact Nat.one_pos

theorem mem_answers_created (hd : x.data = .tokenNetworkCreated tn) :
    x ∈ w.answers f ↔ w.Has x ∧ x.address ∈ f.tokenNetworkRegistryAddresses := by
  rw [mem_answers (by simp [hd]), Asks, hd]

theorem mem_answers_opened {p1 p2 : Address} (hd : x.data = .channelOpened id p1 p2) :
    x ∈ w.answers f ↔ w.Has x ∧ x.address ∈ f.tokenNetworkAddresses ∧ (p1 = w.node ∨ p2 = w.node) := by
  rw [mem_answers (by simp [hd]), Asks, hd]

theorem mem_answers_event {e : ChannelEvent} (hd : x.data = .channelEvent e id) :
    x ∈ w.answers f ↔ w.Has x ∧ e ∈ channelTopics ∧ id ∈ f.channels x.address := by
  rw [mem_answers (by simp [hd]), Asks, hd]

/-! ## New filters -/

theorem channels_foldl (l : List (Address × Finset ℕ)) (d : Dict Address (Finset ℕ)) (tn : Address) (id : ℕ) :
    id ∈ ((l.foldl addChannels d).get? tn).getD ∅ ↔ id ∈ (d.get? tn).getD ∅ ∨ ∃ e ∈ l, e.1 = tn ∧ id ∈ e.2 := by
  induction l generalizing d with
  | nil => simp
  | cons e l ih =>
    rw [foldl_cons, ih, addChannels, get?_set]
    by_cases he : tn = e.1
    · subst he
      simp [or_assoc]
    · simp [he, Ne.symm he]

theorem mem_networks_new {events : List LogEntry} :
    tn ∈ (newFiltersFromEvents events).tokenNetworkAddresses ↔ ∃ y ∈ events, y.data = .tokenNetworkCreated tn := by
  simp only [newFiltersFromEvents, mem_toFinset, mem_filterMap]
  refine exists_congr fun y => and_congr_right fun _ => ?_
  unfold LogEntry.createdNetwork?
  split <;> simp_all

theorem mem_channels_new {events : List LogEntry} : id ∈ (newFiltersFromEvents events).channels tn ↔
      ∃ y ∈ events, y.address = tn ∧ ∃ p1 p2, y.data = .channelOpened id p1 p2 := by
  rw [channels, newFiltersFromEvents, channels_foldl]
  simp only [get?_empty, Option.getD_none, Finset.notMem_empty, false_or, mem_filterMap]
  constructor
  · rintro ⟨e, ⟨y, hy, he⟩, htn, hid⟩
    refine ⟨y, hy, ?_⟩
    unfold LogEntry.openedChannel? at he
    split at he
    · rename_i id' p1 p2 hd
      cases he
      rw [Finset.mem_singleton.1 hid]
      exact ⟨htn, p1, p2, hd⟩
    · cases he
  · rintro ⟨y, hy, htn, p1, p2, hd⟩
    refine ⟨(y.address, {id}), ⟨y, hy, ?_⟩, htn, Finset.mem_singleton_self id⟩
    simp only [LogEntry.openedChannel?, hd]

/-- only a followed registry introduces networks -/
theorem networks_next : tn ∈ (w.next f).tokenNetworkAddresses ↔ ∃ y, w.Has y ∧ Creates f y tn := by
  rw [Window.next, mem_networks_new]
  constructor
  · rintro ⟨y, hy, hd⟩
    obtain ⟨hw, hreg⟩ := (mem_answers_created hd).1 hy
    exact ⟨y, hw, hd, hreg⟩
  · rintro ⟨y, hw, hd, hreg⟩
    exact ⟨y, (mem_answers_created hd).2 ⟨hw, hreg⟩, hd⟩

/-- only a followed network introduces channels -/
theorem channels_next : id ∈ (w.next f).channels tn ↔
      tn ∈ f.tokenNetworkAddresses ∧ ∃ y, w.Has y ∧ Opens w.node y tn id := by
  rw [Window.next, mem_channels_new]
  constructor
  · rintro ⟨y, hy, rfl, p1, p2, hd⟩
    obtain ⟨hw, hnet, hp⟩ := (mem_answers_opened hd).1 hy
    exact ⟨hnet, y, hw, rfl, p1, p2, hd, hp⟩
  · rintro ⟨hnet, y, hw, rfl, p1, p2, hd, hp⟩
    exact ⟨y, (mem_answers_opened hd).2 ⟨hw, hnet, hp⟩, rfl, p1, p2, hd⟩

/-- no round after the first finds a network -/
theorem networks_iterate (k : ℕ) : tn ∉ (w.next^[k + 2] f).tokenNetworkAddresses := by
  rw [Function.iterate_succ_apply', Function.iterate_succ_apply', networks_next]
  rintro ⟨y, -, -, hreg⟩
  cases hreg

/-- no round after the second finds a channel -/
theorem channels_iterate (k : ℕ) : id ∉ (w.next^[k + 3] f).channels tn := by
  rw [Function.iterate_succ_apply', channels_next]
  exact fun h => networks_iterate k h.1

theorem nonempty_new_nil : ¬ (newFiltersFromEvents []).nonempty = true := by decide

/-- a round without logs is the last one -/
theorem iterate_of_nil (h : w.answers f = []) (k : ℕ) : w.next^[k + 1] f = newFiltersFromEvents [] := by
  have hfixed : w.next (newFiltersFromEvents []) = newFiltersFromEvents [] := by
    rw [Window.next, answers, if_neg nonempty_new_nil]
  rw [Function.iterate_succ_apply, Window.next, h]
  exact Function.iterate_fixed hfixed k

theorem batch_of_nil (h : w.answers f = []) : w.batch n f = [] := by
  refine flatMap_eq_nil_iff.2 fun k _ => ?_
  cases k with
  | zero => exact h
  | succ k => rw [iterate_of_nil h, answers, if_neg nonempty_new_nil]

theorem batch_succ : w.batch (n + 1) f = w.answers f ++ w.batch n (w.next f) := by
  rw [batch, range_succ_eq_map, flatMap_cons, flatMap_map]
  rfl

theorem union_ok {other u : GatecoinContractFilter} (h : f.union other = .ok u) :
    u.tokenNetworkRegistryAddresses = f.tokenNetworkRegistryAddresses ∪ other.tokenNetworkRegistryAddresses ∧
      u.tokenNetworkAddresses = f.tokenNetworkAddresses ∪ other.tokenNetworkAddresses ∧
      ∀ tn id, id ∈ u.channels tn ↔ id ∈ f.channels tn ∨ id ∈ other.channels tn := by
  simp only [union, do_ok, ensure_ok] at h
  obtain ⟨-, -, rfl⟩ := h
  refine ⟨rfl, rfl, fun tn id => ?_⟩
  have hother : (∃ e ∈ other.channelsOfTokenNetwork.entries, e.1 = tn ∧ id ∈ e.2) ↔ id ∈ other.channels tn := by
    unfold channels
    constructor
    · rintro ⟨⟨a, cs⟩, he, rfl, hid⟩
      rw [get?_eq_some.2 he]
      exact hid
    · intro hid
      cases hg : other.channelsOfTokenNetwork.get? tn with
      | none =>
        rw [hg] at hid
        cases hid
      | some cs =>
        rw [hg] at hid
        exact ⟨(tn, cs), get?_eq_some.1 hg, rfl, hid⟩
  rw [← hother]
  exact channels_foldl _ _ _ _

/-- what a batch that is returned has added to the filter -/
structure Tracked (w : Window) (n : ℕ) (f : GatecoinContractFilter) (s s' : BlockchainEvents) : Prop where
  node : s'.nodeAddress = s.nodeAddress
  registries : s'.eventFilter.tokenNetworkRegistryAddresses = s.eventFilter.tokenNetworkRegistryAddresses
  networks : ∀ tn, tn ∈ s'.eventFilter.tokenNetworkAddresses ↔
    tn ∈ s.eventFilter.tokenNetworkAddresses ∨ ∃ k < n, tn ∈ (w.next^[k + 1] f).tokenNetworkAddresses
  channels : ∀ tn id, id ∈ s'.eventFilter.channels tn ↔
    id ∈ s.eventFilter.channels tn ∨ ∃ k < n, id ∈ (w.next^[k + 1] f).channels tn

theorem tracked_of_nil (s : BlockchainEvents) (h : w.answers f = []) : Tracked w n f s s where
  node := rfl
  registries := rfl
  networks tn := by
    simp only [iterate_of_nil h, mem_networks_new]
    simp
  channels tn id := by
    simp only [iterate_of_nil h, mem_channels_new]
    simp

theorem queryAndTrack_ok {timeout : ℕ → ℕ → Bool} {result : List LogEntry} {s s' : BlockchainEvents}
    (hnode : s.nodeAddress = w.node)
    (h : queryAndTrack w.chain timeout w.fromBlock w.toBlock n f result s = (s', .ok events)) :
    events = result ++ w.batch n f ∧ Tracked w n f s s' := by
  induction n generalizing f result s with
  | zero => cases h
  | succ n ih =>
    simp only [queryAndTrack, hnode] at h
    split_ifs at h with hne
    · split at h
      · cases h
      · -- no logs: the loop ends
        rename_i hreq
        have hnone : w.answers f = [] := by
          rw [answers, if_pos hne, ← requestAll_ok hreq]
          rfl
        cases h
        exact ⟨by rw [batch_of_nil hnone, append_nil], tracked_of_nil _ hnone⟩
      · rename_i x xs hreq
        have hanswers : w.answers f = sortEvents (x :: xs) := by rw [answers, if_pos hne, ← requestAll_ok hreq]
        rw [← hanswers] at h
        split_ifs at h
        · split at h
          · cases h
          · rename_i u hu
            obtain ⟨hev, ht⟩ := ih rfl h
            obtain ⟨hur, hun, huc⟩ := union_ok hu
            refine ⟨by rw [hev, batch_succ, append_assoc]; rfl, ht.node.trans hnode.symm, ?_, fun tn => ?_, fun tn id => ?_⟩
            · rw [ht.registries, hur]
              exact Finset.union_empty _
            · rw [ht.networks, hun, Finset.mem_union, or_assoc, Nat.exists_lt_succ_left]
              rfl
            · rw [ht.channels, huc, or_assoc, Nat.exists_lt_succ_left]
              rfl
        · cases h
    · have hnone : w.answers f = [] := by rw [answers, if_neg hne]
      cases h
      exact ⟨by rw [batch_of_nil hnone, append_nil], tracked_of_nil _ hnone⟩

/-! ## The order within a round -/

/-- what the first request has of a channel comes before what the second one has of it -/
def Precedes (chain : LogChain) (tn : Address) (id : ℕ) (p q : FilterParams) : Prop :=
  ∀ x ∈ chain.logs, ∀ y ∈ chain.logs, ofChannel tn id x = true → ofChannel tn id y = true → p.accept x = true →
    q.accept y = true → x.index < y.index

variable {chain : LogChain} {p : FilterParams} {fromBlock toBlock : ℕ} {node : Address}

/-- a request for openings has the opening of a channel -/
theorem opened_of_networkFilters (hp : p ∈ f.networkFilters fromBlock toBlock node) (hx : ofChannel tn id x = true)
    (h : p.accept x = true) : x.address = tn ∧ ∃ p1 p2, x.data = .channelOpened id p1 p2 := by
  have htopics := (accept_iff.1 h).2.2
  obtain ⟨hxa, hxd | ⟨e, hxd⟩⟩ := ofChannel_iff.1 hx
  · exact ⟨hxa, hxd⟩
  · rw [hxd] at htopics
    unfold networkFilters at hp
    split_ifs at hp
    · rcases mem_cons.1 hp with rfl | hp
      · cases htopics
      · rw [mem_singleton.1 hp] at htopics
        cases htopics
    · cases hp

/-- a request for the events of channels has those of one network -/
theorem event_of_channelFilters (hp : p ∈ f.channelFilters fromBlock toBlock) (hx : ofChannel tn id x = true)
    (h : p.accept x = true) : x.address = tn ∧ ∃ e, x.data = .channelEvent e id := by
  have htopics := (accept_iff.1 h).2.2
  obtain ⟨c, -, rfl⟩ := mem_map.1 hp
  obtain ⟨hxa, ⟨p1, p2, hxd⟩ | hxd⟩ := ofChannel_iff.1 hx
  · rw [hxd] at htopics
    cases htopics
  · exact ⟨hxa, hxd⟩

theorem inOrder_networkFilters : (f.networkFilters fromBlock toBlock node).Pairwise (Precedes chain tn id) := by
  have hopened : ∀ p ∈ f.networkFilters fromBlock toBlock node, ∀ x, ofChannel tn id x = true → p.accept x = true → _ :=
    fun p hp x hx h => opened_of_networkFilters hp hx h
  unfold networkFilters at hopened ⊢
  split_ifs at hopened ⊢
  · refine pairwise_pair.2 fun x hxm y hym hx hy hxacc hyacc => ?_
    -- one participant of a channel is not the other
    obtain ⟨hxa, p1, p2, hxd⟩ := hopened _ mem_cons_self x hx hxacc
    obtain ⟨hya, q1, q2, hyd⟩ := hopened _ (mem_cons_of_mem _ mem_cons_self) y hy hyacc
    cases chain.opened_once x hxm y hym id p1 p2 q1 q2 hxd hyd (hxa.trans hya.symm)
    have h1 := (accept_iff.1 hxacc).2.2
    have h2 := (accept_iff.1 hyacc).2.2
    rw [hxd] at h1 h2
    exact absurd ((of_decide_eq_true h1).trans (of_decide_eq_true h2).symm) (chain.participants_ne x hxm id p1 p2 hxd)
  · exact List.Pairwise.nil

theorem inOrder_channelFilters : (f.channelFilters fromBlock toBlock).Pairwise (Precedes chain tn id) := by
  have hnodup : f.channelsOfTokenNetwork.entries.Pairwise fun a b => a.1 ≠ b.1 := pairwise_map.1 f.channelsOfTokenNetwork.nodup
  refine pairwise_map.2 (hnodup.imp fun {a b} hne x _ y _ hx hy hxacc hyacc => absurd ?_ hne)
  -- a channel has one network, and a network has one request
  have hxa : x.address = a.1 := Finset.mem_singleton.1 (accept_iff.1 hxacc).1
  have hya : y.address = b.1 := Finset.mem_singleton.1 (accept_iff.1 hyacc).1
  rw [← hxa, ← hya, (ofChannel_iff.1 hx).1, (ofChannel_iff.1 hy).1]

/-- requests for something else have no logs of a channel -/
theorem not_ofChannel (hp : p ∈ f.registryFilters fromBlock toBlock ++ f.secretFilters fromBlock toBlock ∨
      p ∈ f.serviceFilters fromBlock toBlock) (h : p.accept x = true) : ¬ ofChannel tn id x = true := by
  have htopics : p.topics = .tokenNetworkCreated ∨ p.topics = .secretRevealed ∨ p.topics = .registeredService := by
    simp only [registryFilters, secretFilters, serviceFilters, mem_append] at hp
    grind
  have haccept := (accept_iff.1 h).2.2
  intro hx
  rcases (ofChannel_iff.1 hx).2 with ⟨p1, p2, hd⟩ | ⟨e, hd⟩ <;> rcases htopics with ht | ht | ht <;>
    · rw [ht, hd] at haccept
      cases haccept

/-- the requests of a filter answer with the logs of a channel in the order of the chain -/
theorem inOrder_toWeb3Filters : (f.toWeb3Filters fromBlock toBlock node).Pairwise (Precedes chain tn id) := by
  rw [toWeb3Filters, pairwise_append, pairwise_append, pairwise_append]
  refine ⟨⟨⟨?_, inOrder_networkFilters, ?_⟩, inOrder_channelFilters, fun p hp q hq => ?_⟩, ?_, ?_⟩
  · exact pairwise_of_forall_mem_list fun p hp q _ x _ _ _ hx _ hacc => absurd hx (not_ofChannel (.inl hp) hacc)
  · exact fun p hp q _ x _ _ _ hx _ hacc => absurd hx (not_ofChannel (.inl hp) hacc)
  · rcases mem_append.1 hp with hp | hp
    · exact fun x _ _ _ hx _ hacc => absurd hx (not_ofChannel (.inl hp) hacc)
    · intro x hxm y hym hx hy hxacc hyacc
      obtain ⟨hxa, p1, p2, hxd⟩ := opened_of_networkFilters hp hx hxacc
      obtain ⟨hya, e, hyd⟩ := event_of_channelFilters hq hy hyacc
      exact chain.event_after y hym x hxm e id p1 p2 hyd hxd (hxa.trans hya.symm)
  · exact pairwise_of_forall_mem_list fun p hp q _ x _ _ _ hx _ hacc => absurd hx (not_ofChannel (.inr hp) hacc)
  · exact fun p _ q hq _ _ y _ _ hy _ hacc => absurd hy (not_ofChannel (.inr hq) hacc)

/-- a stable sort does not move what is in order -/
theorem filter_sortEvents {q : LogEntry → Bool} {l : List LogEntry}
    (h : (l.filter q).Pairwise fun a b => a.blockNumber ≤ b.blockNumber) : (sortEvents l).filter q = l.filter q := by
  have hsub : (l.filter q).Sublist (sortEvents l) := sublist_insertionSort h filter_sublist
  have hfilter := hsub.filter q
  simp only [filter_filter, Bool.and_self] at hfilter
  exact (hfilter.eq_of_length_le ((perm_sortEvents l).filter q).length_eq.le).symm

theorem pairwise_answers (w : Window) (f : GatecoinContractFilter) (tn : Address) (id : ℕ) :
    ((w.answers f).filter (ofChannel tn id)).Pairwise fun a b => a.index < b.index := by
  unfold answers
  split_ifs
  · have hpair : (((f.toWeb3Filters w.fromBlock w.toBlock w.node).flatMap (ethGetLogs w.chain)).filter
        (ofChannel tn id)).Pairwise fun a b => a.index < b.index := by
      rw [filter_flatMap, pairwise_flatMap]
      refine ⟨fun p _ => (w.chain.ordered.sublist (filter_sublist.trans filter_sublist)).imp And.left, ?_⟩
      have hinOrder : (f.toWeb3Filters w.fromBlock w.toBlock w.node).Pairwise (Precedes w.chain tn id) :=
        inOrder_toWeb3Filters
      refine hinOrder.imp fun {p q} hpq x hx y hy => ?_
      simp only [ethGetLogs, mem_filter] at hx hy
      exact hpq x hx.1.1 y hy.1.1 hx.2 hy.2 hx.1.2 hy.1.2
    rw [filter_sortEvents]
    · exact hpair
    · refine hpair.imp_of_mem fun ha hb hlt => w.chain.block_le ?_ ?_ hlt
      · obtain ⟨p, -, hp⟩ := mem_flatMap.1 (mem_filter.1 ha).1
        exact (mem_filter.1 hp).1
      · obtain ⟨p, -, hp⟩ := mem_flatMap.1 (mem_filter.1 hb).1
        exact (mem_filter.1 hp).1
  · exact List.Pairwise.nil

/-! ## The number of rounds -/

section Bound

variable {timeout : ℕ → ℕ → Bool} {s : BlockchainEvents} {result : List LogEntry}

theorem requestAll_quiet {timeout : ℕ → Bool} (hquiet : ∀ i, timeout i = false) (i : ℕ) (ps : List FilterParams) :
    requestAll chain timeout i ps = .ok (ps.flatMap (ethGetLogs chain)) := by
  induction ps generalizing i with
  | nil => rfl
  | cons p ps ih =>
    simp only [requestAll, hquiet, ih]
    rfl

/-- the contracts of the logs that a filter asks for are known -/
def Decodes (w : Window) (s : BlockchainEvents) (f : GatecoinContractFilter) : Prop :=
  ∀ x ∈ w.answers f, x.address ∈ s.addressToAbi

variable (w) in
/-- the loop goes on with what was found in known contracts, whose logs can be decoded: the next filter asks for logs of new
networks and of contracts that had logs before -/
theorem found_decodes (hknown : ∀ y ∈ events, y.address ∈ s.addressToAbi) :
    ∃ u, s.eventFilter.union (newFiltersFromEvents events) = .ok u ∧ Decodes w { s with
      eventFilter := u, addressToAbi := s.addressToAbi ∪ (newFiltersFromEvents events).abiOfContractAddress }
      (newFiltersFromEvents events) := by
  refine ⟨_, by rw [union, ensure, if_pos (.inr (.inl rfl))]; rfl, fun x hx => ?_⟩
  have hasks := (asks_of_mem hx).2
  unfold Asks at hasks
  split at hasks
  · cases hasks
  · simp only [abiOfContractAddress, Finset.mem_union]
    exact .inr (.inl (.inl (.inr hasks.1)))
  · obtain ⟨y, hy, haddress, -⟩ := mem_channels_new.1 hasks.2
    exact Finset.mem_union_left _ (haddress ▸ hknown y hy)
  · cases hasks.1
  · cases hasks
  · exact hasks.elim

/-- a round leaves the return of the batch to the next one, or it fails and changes nothing; it does not fail without timeouts
if its logs can be decoded -/
theorem round_returns (hnode : s.nodeAddress = w.node)
    (hnext : ∀ result s', s'.nodeAddress = w.node → Decodes w s' (w.next f) →
      (queryAndTrack w.chain timeout w.fromBlock w.toBlock n (w.next f) result s').2.isOk) :
    (queryAndTrack w.chain timeout w.fromBlock w.toBlock (n + 1) f result s).2.isOk ∨
      (queryAndTrack w.chain timeout w.fromBlock w.toBlock (n + 1) f result s).1 = s ∧
        ¬ ((∀ i, timeout n i = false) ∧ Decodes w s f) := by
  simp only [queryAndTrack, hnode]
  split_ifs with hne
  · split
    · rename_i hreq
      refine .inr ⟨rfl, fun h => ?_⟩
      rw [requestAll_quiet h.1] at hreq
      cases hreq
    · exact .inl rfl
    · rename_i x xs hreq
      have hanswers : w.answers f = sortEvents (x :: xs) := by rw [answers, if_pos hne, ← requestAll_ok hreq]
      split_ifs with hknown
      · obtain ⟨u, hunion, hfound⟩ := found_decodes w (s := s) fun y hy =>
          hknown y ((perm_sortEvents (x :: xs)).mem_iff.1 hy)
        rw [Window.next, hanswers] at hnext
        rw [hunion]
        exact .inl (hnext _ _ rfl hfound)
      · refine .inr ⟨rfl, fun h => hknown fun y hy => h.2 y ?_⟩
        rw [hanswers]
        exact (perm_sortEvents _).mem_iff.2 hy
  · exact .inl rfl

/-- the third round after a filter has nothing left to ask for -/
theorem nonempty_iterate (k : ℕ) : ¬ (w.next^[k + 3] f).nonempty = true := by
  simp only [nonempty, decide_eq_true_eq, not_or, not_not, not_exists, not_and]
  refine ⟨by rw [Function.iterate_succ_apply']; rfl, Finset.eq_empty_of_forall_notMem fun tn => networks_iterate (k + 1),
    fun cs hcs => ?_, by rw [Function.iterate_succ_apply']; exact Bool.noConfusion⟩
  obtain ⟨e, he, rfl⟩ := mem_map.1 hcs
  refine Finset.eq_empty_of_forall_notMem fun id hid => ?_
  have hchannel : id ∈ (w.next^[k + 3] f).channels e.1 := by
    rw [channels, get?_eq_some.2 he]
    exact hid
  exact channels_iterate k hchannel

/-- **Four rounds.** They are enough for every filter: if only requests of the first round time out, the batch is returned or
the state is as it was. -/
theorem queryAndTrack_rounds (hnode : s.nodeAddress = w.node)
    (hquiet : ∀ rounds, rounds + 1 < fetchRounds → ∀ i, timeout rounds i = false) :
    (queryAndTrack w.chain timeout w.fromBlock w.toBlock fetchRounds f result s).2.isOk ∨
      (queryAndTrack w.chain timeout w.fromBlock w.toBlock fetchRounds f result s).1 = s := by
  refine (round_returns hnode fun result s1 hnode1 hdecodes1 => ?_).imp_right And.left
  refine (round_returns hnode1 fun result s2 hnode2 hdecodes2 => ?_).resolve_right fun h =>
    h.2 ⟨hquiet 2 (by decide), hdecodes1⟩
  refine (round_returns hnode2 fun result s3 _ _ => ?_).resolve_right fun h => h.2 ⟨hquiet 1 (by decide), hdecodes2⟩
  simp only [queryAndTrack, if_neg (show ¬ (w.next (w.next (w.next f))).nonempty = true from nonempty_iterate 0)]
  rfl

/-- nothing was found -/
theorem newFiltersFromEvents_idle (h : ∀ x ∈ events, x.createdNetwork? = none ∧ x.openedChannel? = none) :
    newFiltersFromEvents events = newFiltersFromEvents [] := by
  have hnetworks : events.filterMap LogEntry.createdNetwork? = [] := filterMap_eq_nil_iff.2 fun x hx => (h x hx).1
  have hchannels : events.filterMap LogEntry.openedChannel? = [] := filterMap_eq_nil_iff.2 fun x hx => (h x hx).2
  rw [newFiltersFromEvents, hnetworks, hchannels]
  rfl

theorem union_new_nil (f : GatecoinContractFilter) : f.union (newFiltersFromEvents []) = .ok f := by
  rw [union, ensure, if_pos (.inr (.inl rfl))]
  cases f
  simp [newFiltersFromEvents, Dict.empty]

/-- **Idle batches.** A batch whose first round finds no network and no channel leaves the filter as it is. -/
theorem queryAndTrack_idle (hnode : s.nodeAddress = w.node)
    (h : ∀ x ∈ w.answers f, x.createdNetwork? = none ∧ x.openedChannel? = none) :
    (queryAndTrack w.chain timeout w.fromBlock w.toBlock n f result s).1.eventFilter = s.eventFilter := by
  cases n with
  | zero => rfl
  | succ n =>
    simp only [queryAndTrack, hnode]
    split_ifs with hne
    · split
      · rfl
      · rfl
      · rename_i x xs hreq
        split_ifs
        · rw [answers, if_pos hne, ← requestAll_ok hreq] at h
          rw [newFiltersFromEvents_idle h, union_new_nil]
          cases n with
          | zero => rfl
          | succ n => simp only [queryAndTrack, if_neg nonempty_new_nil]
        · rfl
    · rfl

end Bound

end Rounds

end Gatecoin.Chain
