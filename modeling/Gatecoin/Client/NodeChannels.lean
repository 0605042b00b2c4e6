/-
The channels of a node by token network and identifier: what writing and removing one of them does to the others.
-/
import Gatecoin.Client.Frame
import Gatecoin.Client.Node

namespace Gatecoin.Client

open Gatecoin.Core

/-! ## Reading the channels -/

namespace Networks

variable {nets : Networks} {tn tn' : Address} {id id' : ℕ} {c c0 : NettingChannelState}

theorem channel_setChannel (h : nets.channel tn id = some c0) (tn' : Address) (id' : ℕ) :
    (nets.setChannel tn id c).channel tn' id' = if tn' = tn ∧ id' = id then some c else nets.channel tn' id' := by
  unfold channel at h ⊢
  obtain ⟨channels, hnet, -⟩ := Option.bind_eq_some_iff.1 h
  simp only [setChannel, hnet, Dict.get?_set]
  by_cases htn : tn' = tn
  · subst htn
    simp only [if_true, Option.bind_some, Dict.get?_set, true_and, hnet]
  · simp only [htn, if_false, false_and]

theorem channel_setChannel_self (h : nets.channel tn id = some c0) : (nets.setChannel tn id c).channel tn id = some c := by
  rw [channel_setChannel h, if_pos ⟨rfl, rfl⟩]

theorem channel_setChannel_ne (h : nets.channel tn id = some c0) (hne : ¬ (tn' = tn ∧ id' = id)) :
    (nets.setChannel tn id c).channel tn' id' = nets.channel tn' id' := by
  rw [channel_setChannel h, if_neg hne]

/-- a channel after a change is the changed one or another one as it was -/
theorem channel_setChannel_cases (h : nets.channel tn id = some c0) {x : NettingChannelState}
    (hx : (nets.setChannel tn id c).channel tn' id' = some x) :
    (tn' = tn ∧ id' = id ∧ x = c) ∨ (¬ (tn' = tn ∧ id' = id) ∧ nets.channel tn' id' = some x) := by
  rw [channel_setChannel h] at hx
  split_ifs at hx with heq
  · exact .inl ⟨heq.1, heq.2, (Option.some.inj hx).symm⟩
  · exact .inr ⟨heq, hx⟩

/-- writing a channel that was not there, or into a network that was not there -/
theorem channel_setChannel_new (h : (nets.setChannel tn id c).channel tn' id' = some c0) :
    (tn' = tn ∧ id' = id ∧ c0 = c) ∨ nets.channel tn' id' = some c0 := by
  unfold setChannel at h
  cases hnet : nets.get? tn with
  | none =>
    simp only [hnet] at h
    exact .inr h
  | some channels =>
    simp only [hnet, channel, Dict.get?_set] at h
    by_cases htn : tn' = tn
    · subst htn
      simp only [if_true, Option.bind_some, Dict.get?_set] at h
      split_ifs at h with hid
      · exact .inl ⟨rfl, hid, (Option.some.inj h).symm⟩
      · refine .inr ?_
        rw [channel, hnet]
        exact h
    · rw [if_neg htn] at h
      exact .inr h

theorem channel_removeChannel_eq (nets : Networks) (tn tn' : Address) (id id' : ℕ) :
    (nets.removeChannel tn id).channel tn' id' = if tn' = tn ∧ id' = id then none else nets.channel tn' id' := by
  unfold removeChannel channel
  cases hnet : nets.get? tn with
  | none =>
    by_cases htn : tn' = tn
    · subst htn
      simp [hnet]
    · simp [htn]
  | some channels =>
    by_cases htn : tn' = tn
    · subst htn
      simp only [Dict.get?_set_self, Option.bind_some, Dict.get?_erase, true_and, hnet]
    · simp [Dict.get?_set_ne, htn]

theorem channel_removeChannel (h : (nets.removeChannel tn id).channel tn' id' = some c) : nets.channel tn' id' = some c := by
  rw [channel_removeChannel_eq] at h
  split_ifs at h
  exact h

variable {key : Address × Address} {x : ℕ × NettingChannelState}

theorem foldl_channels (tn : Address) (channels : List (ℕ × NettingChannelState))
    (d : Dict (Address × Address) (ℕ × NettingChannelState))
    (h : (channels.foldl (fun d x => d.set (tn, x.2.partnerState.address) x) d).get? key = some x) :
    d.get? key = some x ∨ (key = (tn, x.2.partnerState.address) ∧ x ∈ channels) := by
  induction channels generalizing d with
  | nil => exact .inl h
  | cons y ys ih =>
    rcases ih _ h with hd | ⟨hkey, hmem⟩
    · rw [Dict.get?_set] at hd
      split_ifs at hd with heq
      · cases hd
        exact .inr ⟨heq, List.mem_cons_self⟩
      · exact .inl hd
    · exact .inr ⟨hkey, List.mem_cons_of_mem y hmem⟩

theorem foldl_networks (networks : List (Address × Dict ℕ NettingChannelState))
    (d : Dict (Address × Address) (ℕ × NettingChannelState))
    (h : (networks.foldl (fun d network =>
      network.2.entries.foldl (fun d x => d.set (network.1, x.2.partnerState.address) x) d) d).get? key = some x) :
    d.get? key = some x ∨ ∃ network ∈ networks, key = (network.1, x.2.partnerState.address) ∧ x ∈ network.2.entries := by
  induction networks generalizing d with
  | nil => exact .inl h
  | cons n ns ih =>
    rcases ih _ h with hd | ⟨network, hmem, hx⟩
    · rcases foldl_channels n.1 n.2.entries d hd with hd | hx
      · exact .inl hd
      · exact .inr ⟨n, List.mem_cons_self, hx⟩
    · exact .inr ⟨network, List.mem_cons_of_mem n hmem, hx⟩

/-- the channel that is found for a partner is a channel with that partner -/
theorem channel_of_addressesToChannel {a : Address} (h : nets.addressesToChannel.get? (tn, a) = some (id, c)) :
    nets.channel tn id = some c ∧ c.partnerState.address = a := by
  rcases foldl_networks nets.entries Dict.empty h with hd | ⟨network, hmem, hkey, hx⟩
  · cases hd
  · obtain ⟨htn, ha⟩ := Prod.mk.inj hkey
    refine ⟨?_, ha.symm⟩
    rw [channel, htn, Dict.get?_eq_some.2 hmem, Option.bind_some, Dict.get?_eq_some]
    exact hx

end Networks

end Gatecoin.Client
