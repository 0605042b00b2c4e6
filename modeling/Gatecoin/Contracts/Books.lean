/-
The books of the TokenNetwork ledger.

`Books`: the token balance of the contract is what it owes (the holdings of the live channels and the unlock entries) plus
what it has paid to itself; the deposits taken for a channel are the payments made for it plus what it still holds and
keeps locked; an identifier that was never opened has no movements; an unlock is made once.

Result: `effect_books`. On a well-formed ledger every effect of a call preserves the books.
-/
import Gatecoin.Contracts.Ledger

namespace Gatecoin.Contracts

open Gatecoin.Core Ledger Ledger List

section Preservation

variable {P : Platform} {k : Ledger} {p q : Address} {p1 p2 : Address} {u : UnlockData} {balance : ℕ} {id : Uint256}
  {state : ChannelState} {ps : List Payment}

/-! ## The books -/

/-- the unlock entries of a channel, in both directions -/
def Ledger.lockedFor (k : Ledger) (P : Platform) (id : Uint256) (p1 p2 : Address) : ℕ :=
  k.locked (unlockKey P id p1 p2) + k.locked (unlockKey P id p2 p1)

structure Books (P : Platform) (k : Ledger) : Prop where
  balance : (k.balance : ℤ) = k.owed + totalTo P.self k.paid
  account : ∀ {id p1 p2}, (id, p1, p2) ∈ k.opened →
    (totalFor id k.taken : ℤ) = totalFor id k.paid + (k.channel id).held + k.lockedFor P id p1 p2
  unused : ∀ {id}, (∀ p1 p2, (id, p1, p2) ∉ k.opened) →
    totalFor id k.taken = 0 ∧ totalFor id k.paid = 0 ∧ ∀ r s, (id, r, s) ∉ k.unlocked
  payees : ∀ x ∈ k.paid, ∃ p1 p2, (x.channel, p1, p2) ∈ k.opened ∧ (x.account = p1 ∨ x.account = p2)
  once : k.unlocked.Nodup
  spent : ∀ {id r s}, (id, r, s) ∈ k.unlocked →
    ¬ (k.channel id).state.live ∧ k.unlocks.get? (unlockKey P id s r) = none

theorem fresh_books (P : Platform) : Books P fresh := by
  refine { balance := ?_, account := ?_, unused := ?_, payees := ?_, once := ?_, spent := ?_ }
  all_goals simp [fresh, owed, totalTo, totalFor, total]

theorem total_nil : total [] = 0 := rfl

theorem sum_channels_set (k : Ledger) (id : Uint256) (ch : Channel) :
    ((k.channels.set id ch).sum fun _ c => c.held) + (k.channel id).held = (k.channels.sum fun _ c => c.held) + ch.held := by
  rw [← Dict.sum_set k.channels (fun _ c => c.held) id ch, channel]
  cases k.channels.get? id <;> rfl

theorem held_setParticipant {ch : Channel} (hlive : ch.state.live) (hstate : state.live)
    (p : Address) (st : Participant) :
    (⟨state, ch.participants.set p st⟩ : Channel).held + ((ch.participants.get? p).getD Participant.zero).share =
      ch.held + st.share := by
  rw [Channel.held, Channel.held, if_pos hlive, if_pos hstate, ← elim_share]
  exact Dict.sum_set ch.participants (fun _ p => p.share) p st

/-- writing one participant moves what is owed, and what its channel holds, by the change of the share -/
theorem owed_setParticipant (k : Ledger) (hlive : (k.channel id).state.live)
    (hstate : state.live) (p : Address) (st : Participant) :
    (k.setParticipant id state p st).owed + (k.participant id p).share = k.owed + st.share ∧
    ((k.setParticipant id state p st).channel id).held + (k.participant id p).share = (k.channel id).held + st.share := by
  have hs := sum_channels_set k id ⟨state, (k.channel id).participants.set p st⟩
  have hh := held_setParticipant hlive hstate p st
  refine ⟨?_, ?_⟩
  · simp only [owed, setParticipant, participant]
    linarith
  · rw [channel_setParticipant, if_pos rfl]
    exact hh

/-- **One channel.** A change of an opened channel with payments `ps` out and `ts` in: its participants are paid, what it
holds and keeps locked changes by the difference, and the other channels and their unlock entries stay. -/
theorem Books.change (b : Books P k) {k' : Ledger} (ts : List Payment)
    (ho : (id, p, q) ∈ k.opened ∨ (id, q, p) ∈ k.opened) (hopened : k'.opened = k.opened)
    (hpaid : k'.paid = k.paid ++ ps) (htaken : k'.taken = k.taken ++ ts) (hpq : PaysTo id p q ps)
    (hts : ∀ x ∈ ts, x.channel = id) (hbalance : (k'.balance : ℤ) = k'.owed + totalTo P.self k'.paid)
    (hhere : ∀ {p1 p2}, (id, p1, p2) ∈ k.opened → (total ps : ℤ) + (k'.channel id).held + k'.lockedFor P id p1 p2 =
      (k.channel id).held + k.lockedFor P id p1 p2 + total ts)
    (hothers : ∀ id' ≠ id, k'.channel id' = k.channel id' ∧
      ∀ s r, k'.unlocks.get? (unlockKey P id' s r) = k.unlocks.get? (unlockKey P id' s r))
    (honce : k'.unlocked.Nodup) (hold : ∀ id' ≠ id, ∀ r s, (id', r, s) ∈ k'.unlocked → (id', r, s) ∈ k.unlocked)
    (hspent : ∀ r s, (id, r, s) ∈ k'.unlocked →
      ¬ (k'.channel id).state.live ∧ k'.unlocks.get? (unlockKey P id s r) = none) : Books P k' := by
  have hps : ∀ x ∈ ps, x.channel = id := fun x hx => (hpq x hx).1
  refine { balance := hbalance, account := ?_, unused := ?_, payees := ?_, once := honce, spent := ?_ }
  · intro id' p1 p2 ho'
    rw [hopened] at ho'
    have hacc := b.account ho'
    rw [hpaid, htaken, totalFor_append, totalFor_append]
    push_cast
    by_cases hi : id' = id
    · subst hi
      rw [totalFor_of_all hps, totalFor_of_all hts]
      linarith [hhere ho']
    · obtain ⟨hch, hkeys⟩ := hothers id' hi
      rw [totalFor_of_none hps hi, totalFor_of_none hts hi, hch, lockedFor, locked, locked, hkeys, hkeys]
      simpa [lockedFor, locked] using hacc
  · intro id' hno
    rw [hopened] at hno
    have hi : id' ≠ id := by
      rintro rfl
      exact ho.elim (hno _ _) (hno _ _)
    obtain ⟨h1, h2, h3⟩ := b.unused hno
    refine ⟨?_, ?_, fun r s hm => h3 r s (hold id' hi r s hm)⟩
    · rw [htaken, totalFor_append, h1, totalFor_of_none hts hi]
    · rw [hpaid, totalFor_append, h2, totalFor_of_none hps hi]
  · intro x hx
    rw [hpaid] at hx
    rw [hopened]
    rcases mem_append.1 hx with hx | hx
    · exact b.payees x hx
    · obtain ⟨rfl, ha⟩ := hpq x hx
      exact ho.elim (fun ho => ⟨p, q, ho, ha⟩) fun ho => ⟨q, p, ho, ha.symm⟩
  · intro id' r s hm
    by_cases hi : id' = id
    · subst hi
      exact hspent r s hm
    · obtain ⟨hch, hkeys⟩ := hothers id' hi
      rw [hch, hkeys]
      exact b.spent (hold id' hi r s hm)

/-- the books after one participant of a live channel is written, with payments `ps` out and `ts` in -/
theorem setParticipant_books (hP : P.Lawful) (h : Wf P k) (b : Books P k)
    (hid : (k.pairs.get? (pairHash P p q)).getD 0 = id) (hlive : (k.channel id).state.live)
    (hstate : state.live) (st : Participant) (ps ts : List Payment) (balance : ℕ)
    (hpq : PaysTo id p q ps) (hts : ∀ x ∈ ts, x.channel = id)
    (hb : (balance : ℤ) + total ps = k.balance + total ts + totalTo P.self ps)
    (hshare : st.share + total ps = (k.participant id p).share + total ts) :
    Books P { k.setParticipant id state p st with
      balance := balance
      paid := k.paid ++ ps
      taken := k.taken ++ ts } := by
  obtain ⟨-, ho⟩ := h.pair_of_id hP.pairsDistinct hid hlive
  obtain ⟨howed, hheld⟩ := owed_setParticipant k hlive hstate p st
  refine b.change ts ho rfl rfl rfl hpq hts ?_ (fun _ => ?_)
    (fun id' hi => ⟨(channel_setParticipant ..).trans (if_neg hi), fun _ _ => rfl⟩) b.once (fun _ _ _ _ hm => hm)
    fun r s hm => absurd hlive (b.spent hm).1
  · show (balance : ℤ) = (k.setParticipant id state p st).owed + (totalTo P.self (k.paid ++ ps) : ℕ)
    have := b.balance
    rw [totalTo_append]
    push_cast
    linarith
  · show (total ps : ℤ) + ((k.setParticipant id state p st).channel id).held + k.lockedFor P id _ _ = _
    linarith

/-- a channel that is live or was never opened has no unlock entry -/
theorem Wf.no_entry (hP : P.Lawful) (h : Wf P k)
    (hid : (k.channel id).state.live ∨ ∀ p1 p2, (id, p1, p2) ∉ k.opened) (s r : Address) :
    k.unlocks.get? (unlockKey P id s r) = none := by
  cases hg : k.unlocks.get? (unlockKey P id s r) with
  | none => rfl
  | some u =>
    obtain ⟨id', s', r', hsr, hkey, hdead⟩ := h.entries hg
    obtain ⟨rfl, rfl, rfl⟩ := unlockKey_inj hP hkey
    rcases hid with hl | hno
    · exact absurd hl hdead
    · rcases hsr with hsr | hsr
      · exact absurd hsr (hno _ _)
      · exact absurd hsr (hno _ _)

theorem Wf.lockedFor_eq_zero (hP : P.Lawful) (h : Wf P k)
    (hid : (k.channel id).state.live ∨ ∀ p1 p2, (id, p1, p2) ∉ k.opened) (p1 p2 : Address) :
    k.lockedFor P id p1 p2 = 0 := by
  simp [lockedFor, locked, h.no_entry hP hid]

theorem opened_books (hP : P.Lawful) (h : Wf P k) (b : Books P k)
    (hid : id.toNat = k.counter + 1) : Books P (k.openFor P id p1 p2) := by
  obtain ⟨hno, hdead⟩ := h.unused hid
  have hnew : (⟨.opened, (k.channel id).participants⟩ : Channel).held = 0 := by
    rw [Channel.held, if_pos (by trivial), Dict.sum_of_keys_nil _ _ (h.participants_of_dead hdead)]
  have hold : (k.channel id).held = 0 := if_neg hdead
  have hs := sum_channels_set k id ⟨.opened, (k.channel id).participants⟩
  obtain ⟨ht, hp, hu⟩ := b.unused hno
  refine { balance := ?_, account := ?_, unused := ?_, payees := ?_, once := b.once, spent := ?_ }
  · have := b.balance
    simp only [owed, openFor] at this ⊢
    linarith
  · intro id' q1 q2 hm
    rw [channel_openFor]
    show _ = _ + _ + ((k.lockedFor P id' q1 q2 : ℕ) : ℤ)
    rcases h.mem_openFor hid hm with ⟨ho, hi⟩ | ⟨rfl, rfl, rfl⟩
    · rw [if_neg hi]
      exact b.account ho
    · rw [if_pos rfl, hnew, h.lockedFor_eq_zero hP (.inr hno)]
      simp [openFor, ht, hp]
  · intro id' hno'
    exact b.unused fun q1 q2 ho => hno' q1 q2 (mem_append_left _ ho)
  · intro x hx
    obtain ⟨q1, q2, ho, ha⟩ := b.payees x hx
    exact ⟨q1, q2, mem_append_left _ ho, ha⟩
  · intro id' r s hm
    have hi : id' ≠ id := fun hi => hu r s (hi ▸ hm)
    rw [channel_openFor, if_neg hi]
    exact b.spent hm

theorem locked_storeUnlock (unlocks : Dict Bytes UnlockData) (key key' : Bytes) (u : UnlockData)
    (hnone : unlocks.get? key = none) :
    (((storeUnlock unlocks key u).get? key').map fun x => x.lockedAmount.toNat).getD 0 =
      if key' = key then u.lockedAmount.toNat else ((unlocks.get? key').map fun x => x.lockedAmount.toNat).getD 0 := by
  unfold storeUnlock
  split_ifs with hz hk hk
  · simp [hk, hnone, hz]
  · rfl
  · simp [hk]
  · rw [Dict.get?_set_ne _ _ hk]

theorem sum_storeUnlock (unlocks : Dict Bytes UnlockData) (key : Bytes) (u : UnlockData)
    (hnone : unlocks.get? key = none) :
    ((storeUnlock unlocks key u).sum fun _ x => x.lockedAmount.toNat) =
      (unlocks.sum fun _ x => x.lockedAmount.toNat) + u.lockedAmount.toNat := by
  unfold storeUnlock
  split_ifs with hz
  · simp [hz]
  · exact Dict.sum_set_new unlocks (fun _ x => x.lockedAmount.toNat) key u hnone

theorem storeUnlock_ne {unlocks : Dict Bytes UnlockData} {key key' : Bytes} (hk : key' ≠ key) :
    (storeUnlock unlocks key u).get? key' = unlocks.get? key' := by
  unfold storeUnlock
  split_ifs
  · rfl
  · exact Dict.get?_set_ne _ _ hk

theorem settled_books (hP : P.Lawful) (h : Wf P k) (b : Books P k)
    {u1 u2 : UnlockData} (h12 : p1 ≠ p2)
    (hid : (k.pairs.get? (pairHash P p1 p2)).getD 0 = id) (hlive : (k.channel id).state.live)
    (hpq : PaysTo id p1 p2 ps)
    (hsum : (total ps : ℤ) + u1.lockedAmount.toNat + u2.lockedAmount.toNat =
      (k.participant id p1).share + (k.participant id p2).share)
    (hb : balance + total ps = k.balance + totalTo P.self ps) :
    Books P (k.settleFor P id p1 p2 u1 u2 ps balance) := by
  obtain ⟨-, ho⟩ := h.pair_of_id hP.pairsDistinct hid hlive
  have hheld := h.held_eq ho hlive
  have hs := sum_channels_set k id ⟨.nonExistent, ((k.channel id).participants.erase p1).erase p2⟩
  have hdead : (⟨.nonExistent, ((k.channel id).participants.erase p1).erase p2⟩ : Channel).held = 0 :=
    if_neg fun hf => hf
  have hkey : unlockKey P id p2 p1 ≠ unlockKey P id p1 p2 := fun he => h12 (unlockKey_inj hP he).2.2
  have hn1 := h.no_entry hP (.inl hlive) p1 p2
  have hn2 := (storeUnlock_ne (u := u1) hkey).trans (h.no_entry hP (.inl hlive) p2 p1)
  have hch : ∀ id', (k.settleFor P id p1 p2 u1 u2 ps balance).channel id' = _ :=
    fun id' => channel_settleFor k id id' p1 p2 u1 u2 ps balance
  -- the unlock entries of the settled channel, and of every other
  have hlocked : ∀ key, (k.settleFor P id p1 p2 u1 u2 ps balance).locked key =
      if key = unlockKey P id p2 p1 then u2.lockedAmount.toNat
      else if key = unlockKey P id p1 p2 then u1.lockedAmount.toNat else k.locked key := by
    intro key
    rw [locked, settleFor, locked_storeUnlock _ _ _ _ hn2, locked_storeUnlock _ _ _ _ hn1]
    rfl
  have hne : ∀ id' ≠ id, ∀ s r s' r', unlockKey P id' s r ≠ unlockKey P id s' r' := fun _ hi _ _ _ _ he =>
    hi (unlockKey_inj hP he).1
  refine b.change [] ho rfl rfl (append_nil _).symm hpq (by simp) ?_ (fun ho' => ?_)
    (fun id' hi => ⟨by rw [hch, if_neg hi], fun s r => ?_⟩) b.once (fun _ _ _ _ hm => hm)
    fun r s hm => absurd hlive (b.spent hm).1
  · have hbal := b.balance
    have hu := sum_storeUnlock _ _ u2 hn2
    rw [sum_storeUnlock _ _ u1 hn1] at hu
    simp only [owed, settleFor, totalTo_append] at hbal ⊢
    push_cast [hu]
    have : (balance : ℤ) + total ps = k.balance + totalTo P.self ps := by exact_mod_cast hb
    linarith
  · have hz := h.lockedFor_eq_zero hP (.inl hlive)
    rw [hch, if_pos rfl, hdead, hz, lockedFor, hlocked, hlocked, total_nil]
    rcases h.pair_cases ho ho' with ⟨rfl, rfl⟩ | ⟨rfl, rfl⟩
    · rw [if_neg hkey.symm, if_pos rfl, if_pos rfl]
      push_cast
      linarith
    · rw [if_pos rfl, if_neg hkey.symm, if_pos rfl]
      push_cast
      linarith
  · exact (storeUnlock_ne (hne id' hi _ _ _ _)).trans (storeUnlock_ne (hne id' hi _ _ _ _))

theorem unlocked_books (hP : P.Lawful) (h : Wf P k) (b : Books P k) {receiver sender : Address}
    (hu : k.unlocks.get? (unlockKey P id sender receiver) = some u)
    (hpq : PaysTo id receiver sender ps) (hsum : total ps = u.lockedAmount.toNat)
    (hb : balance + total ps = k.balance + totalTo P.self ps) :
    Books P (k.unlockFor P id receiver sender ps balance) := by
  obtain ⟨id', s, r, ho, hkey, hdead⟩ := h.entries hu
  obtain ⟨rfl, rfl, rfl⟩ := unlockKey_inj hP hkey
  have hnew : (id, receiver, sender) ∉ k.unlocked := by
    intro hm
    rw [(b.spent hm).2] at hu
    cases hu
  have hlocked : ∀ key, (k.unlockFor P id receiver sender ps balance).locked key =
      if key = unlockKey P id sender receiver then 0 else k.locked key := by
    intro key
    rw [locked, unlockFor, Dict.get?_erase]
    split_ifs <;> rfl
  refine b.change [] ho.symm rfl rfl (append_nil _).symm hpq (by simp) ?_ (fun ho' => ?_)
    (fun id' hi => ⟨rfl, fun s r => Dict.get?_erase_ne _ fun he => hi (unlockKey_inj hP he).1⟩) ?_
    (fun id' hi r s hm => ?_) fun r s hm => ⟨hdead, ?_⟩
  · have hbal := b.balance
    have hs := Dict.sum_erase k.unlocks (fun _ x => x.lockedAmount.toNat) (unlockKey P id sender receiver)
    rw [hu, Option.elim_some] at hs
    simp only [owed, unlockFor, totalTo_append] at hbal ⊢
    zify at hs hb hsum
    push_cast
    linarith
  · have hl : k.locked (unlockKey P id sender receiver) = u.lockedAmount.toNat := by rw [locked, hu]; rfl
    have hne : unlockKey P id receiver sender ≠ unlockKey P id sender receiver :=
      fun he => h.ne_of_pair ho (unlockKey_inj hP he).2.2
    show (total ps : ℤ) + (k.channel id).held + _ = _
    rw [lockedFor, hlocked, hlocked, lockedFor, total_nil]
    rcases h.pair_cases ho ho' with ⟨rfl, rfl⟩ | ⟨rfl, rfl⟩
    · rw [if_pos rfl, if_neg hne]
      omega
    · rw [if_neg hne, if_pos rfl]
      omega
  · exact nodup_append.2 ⟨b.once, nodup_singleton _, fun x hx y hy hxy => by
      rw [mem_singleton] at hy
      exact hnew (hy ▸ hxy ▸ hx)⟩
  · rcases mem_append.1 hm with hm | hm
    · exact hm
    · exact absurd (congrArg Prod.fst (mem_singleton.1 hm)) hi
  · show (k.unlocks.erase _).get? _ = none
    rw [Dict.get?_erase]
    split_ifs with hsr
    · rfl
    rcases mem_append.1 hm with hm | hm
    · exact (b.spent hm).2
    · cases mem_singleton.1 hm
      exact absurd rfl hsr

/-- **The books are preserved** by everything a call can do. -/
theorem effect_books (hP : P.Lawful) {x : Call P} {k' : Ledger} (he : Effect x k k') (h : Wf P k) (b : Books P k) :
    Books P k' := by
  cases he with
  | opened id p1 p2 hid => exact opened_books hP h b hid
  | deposited id p q src d v balance hid hopen hdep hfit hb =>
    have hbk := setParticipant_books hP h b hid (live_iff.2 (.inl hopen)) (live_iff.2 (.inl rfl))
      { k.participant id p with deposit := d } [] [⟨id, src, v⟩] balance (by simp [PaysTo]) (by simp)
      (by simp [total, totalTo, hb hP]) (by simp [Participant.share, hdep, total]; ring)
    rw [append_nil] at hbk
    exact hbk
  | withdrawn id p q d v balance hid hopen hwit hcover hb =>
    have hbk := setParticipant_books hP h b hid (live_iff.2 (.inl hopen)) (live_iff.2 (.inl rfl))
      { k.participant id p with withdrawnAmount := d } [⟨id, p, v⟩] [] balance (by simp [PaysTo]) (by simp)
      (by simp [total]; exact_mod_cast hb hP) (by simp [Participant.share, hwit, total]; ring)
    rw [append_nil] at hbk
    exact hbk
  | closed id p q hid hopen =>
    have hbk := setParticipant_books hP h b hid (live_iff.2 (.inl hopen)) (live_iff.2 (.inr rfl))
      { k.participant id p with isTheCloser := true } [] [] k.balance (by simp [PaysTo]) (by simp)
      (by simp [total, totalTo]) rfl
    rw [append_nil, append_nil] at hbk
    exact hbk
  | proved id p q nonce hash hid hclosed =>
    have hbk := setParticipant_books hP h b hid (live_iff.2 (.inr hclosed)) (live_iff.2 (.inr rfl))
      { k.participant id p with nonce := nonce, balanceHash := hash } [] [] k.balance (by simp [PaysTo]) (by simp)
      (by simp [total, totalTo]) rfl
    rw [append_nil, append_nil] at hbk
    exact hbk
  | settled id p1 p2 u1 u2 ps balance h12 hid hlive hx hps hsum hb =>
    exact settled_books hP h b h12 hid hlive hps hsum (hb hP)
  | unlocked id receiver sender u ps balance hu hps hsum hb => exact unlocked_books hP h b hu hps hsum (hb hP)

theorem steps_books (hP : P.Lawful) {k' : Ledger} (he : Relation.ReflTransGen (Step P) k k') (h : Wf P k)
    (b : Books P k) : Books P k' := by
  induction he with
  | refl => exact b
  | tail hes he ih => exact effect_books hP he.choose_spec (steps_wf hP.pairsDistinct hes h) ih

end Preservation

end Gatecoin.Contracts
