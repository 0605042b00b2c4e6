/-
The transactions of a node that are not done yet.

A node appends every transaction it sends to a list, and an event of the chain removes those that it makes superfluous or
impossible (`update_queues`). A restart sends what is left again. The list is current if every transaction of a channel
is about a channel that the node still has, and no withdraw is left whose amount has been withdrawn (`PendingCurrent`).

No event removes a withdraw because of its effect, and none removes a cooperative settle. `NoLeftover` is the condition on
the state changes under which that does not matter; the list stays current in every run of such state changes
(`pending_current`). An unlock breaks it where the two nodes have another channel (`done_transactions_stay_pending`).
-/
import Gatecoin.Client.NodeTrace
import Gatecoin.Client.Status
import Gatecoin.Client.Updates

namespace Gatecoin.Client

open Gatecoin.Core Node Networks ChannelOp List Option

/-! ## Transactions and their channels -/

/-- the amount of a withdraw -/
def Event.withdraw? : Event → Option ℕ
  | .contractSendChannelWithdraw _ total _ _ _ => some total
  | _ => none

/-- every transaction is about a channel of the node, and no withdraw has reached the chain -/
def PendingCurrent (s : ChainState) : Prop :=
  ∀ transaction ∈ s.pendingTransactions, ∀ key ∈ transaction.1.channel?, ∃ c ∈ s.networks.channel key.1 key.2,
    ∀ total ∈ transaction.1.withdraw?, c.ourState.onchainTotalWithdraw < total

instance (s : ChainState) : Decidable (PendingCurrent s) :=
  inferInstanceAs (Decidable (∀ transaction ∈ s.pendingTransactions, ∀ key ∈ transaction.1.channel?,
    ∃ c ∈ s.networks.channel key.1 key.2, ∀ total ∈ transaction.1.withdraw?, c.ourState.onchainTotalWithdraw < total))

/-- updates and settlements, which the settlement of a channel ends -/
def Event.untilSettled (e : Event) : Prop := e.transaction? = some .settle ∨ e.transaction? = some .update

instance (e : Event) : Decidable e.untilSettled := inferInstanceAs (Decidable (_ ∨ _))

/-- the channel still waits for the transaction -/
structure Awaits (c : NettingChannelState) (e : Event) : Prop where
  withdraw : ∀ total ∈ e.withdraw?, c.ourState.onchainTotalWithdraw < total
  status : e.untilSettled → getStatus c ≠ .settled

/-! ## One operation -/

/-- a channel is stored under its identifier, the proof of its partner is about it, and its transactions have not failed -/
structure Filed (tn : Address) (id : ℕ) (c : NettingChannelState) : Prop where
  key : c.canonicalIdentifier.key = (tn, id)
  proof : ∀ b, c.partnerState.balanceProof = some (.signed b) → b.canonicalIdentifier = c.canonicalIdentifier
  close : Sound c.closeTransaction
  settle : Sound c.settleTransaction

/-- nothing happened that a transaction of the channel could wait for -/
structure Undisturbed (c c' : NettingChannelState) : Prop where
  onchain : c'.ourState.onchainTotalWithdraw = c.ourState.onchainTotalWithdraw
  settled : getStatus c' = .settled → getStatus c = .settled

/-- the operations after which the transactions of the channel are as before -/
def ChannelOp.ordinary : ChannelOp → Bool
  | .transition (.receiveWithdrawConfirmation _) => false
  | .transition (.contractReceiveChannelWithdraw _ _ _) => false
  | .transition (.contractReceiveChannelSettled _ _ _ _ _ _ _) => false
  | .transition (.contractReceiveChannelBatchUnlock _) => false
  | _ => true

/-- the operation that settles the channel -/
def ChannelOp.settles : ChannelOp → Bool
  | .transition (.contractReceiveChannelSettled _ _ _ _ _ _ _) => true
  | _ => false

section Operations

variable {env : Env} {c c' c'' : NettingChannelState} {o : Option NettingChannelState} {e e' other : NettingChannelEndState}
  {blockNumber : ℕ} {blockHash : Bytes} {events : List Event} {op : ChannelOp} {tn : Address} {id : ℕ} {ev : Event}
  {total : ℕ} {hash : Bytes}

theorem Undisturbed.refl (c : NettingChannelState) : Undisturbed c c := ⟨rfl, fun h => h⟩

theorem Undisturbed.trans (h : Undisturbed c c') (h' : Undisturbed c' c'') : Undisturbed c c'' :=
  ⟨h'.onchain.trans h.onchain, fun hs => h.settled (h'.settled hs)⟩

theorem Undisturbed.awaits (h : Undisturbed c c') (ha : Awaits c ev) : Awaits c' ev := by
  refine ⟨fun total htotal => ?_, fun hkind hs => ha.status hkind (h.settled hs)⟩
  rw [h.onchain]
  exact ha.withdraw total htotal

theorem Filed.apply (hf : Filed tn id c) (h : applyOp env c blockNumber blockHash op = .ok (some c', events)) :
    Filed tn id c' := by
  have hsame := applyOp_sameChannel h
  obtain ⟨hclose, hsettle⟩ := turn_sound (applyOp_turn h) hf.close hf.settle
  refine ⟨by rw [hsame.canonicalIdentifier, hf.key], fun b hb => ?_, hclose, hsettle⟩
  rw [hsame.canonicalIdentifier]
  rcases partnerProof_step h with hkept | ⟨b', -, hnew, husable⟩
  · exact hf.proof b (hkept.symm.trans hb)
  · cases hnew.symm.trans hb
    exact (usable_ok husable).1

theorem filed_new (env : Env) (d : NewChannelDetails) :
    Filed d.canonicalIdentifier.tokenNetworkAddress d.canonicalIdentifier.channelIdentifier (newChannel env d) :=
  ⟨rfl, fun _ hb => (by cases hb), sound_none, sound_none⟩

/-- only an event of the chain changes the amount that has been withdrawn -/
theorem onchain_op (h : applyOp env c blockNumber blockHash op = .ok (some c', events))
    (hop : ∀ total feeConfig, op ≠ .transition (.contractReceiveChannelWithdraw c.ourState.address total feeConfig)) :
    c'.ourState.onchainTotalWithdraw = c.ourState.onchainTotalWithdraw := by
  refine (op_step h).ours.frame.onchain fun total hx => ?_
  cases op with
  | transition stateChange =>
    cases stateChange with
    | contractReceiveChannelWithdraw participant total' feeConfig =>
      simp only [ours] at hx
      split_ifs at hx with hparticipant
      exact hop total' feeConfig (by rw [hparticipant])
    | actionChannelWithdraw | contractReceiveChannelDeposit =>
      simp only [ours] at hx
      split_ifs at hx
    | _ => cases hx
  | _ => cases hx

/-- the status becomes settled with an event of the chain only -/
theorem settled_op (hf : Filed tn id c) (h : Turn c op (some c') events) (hop : op.settles = false)
    (hs : getStatus c' = .settled) : getStatus c = .settled := by
  have hsame (hending : c'.ending = c.ending) : getStatus c = .settled := (getStatus_congr hending).symm.trans hs
  cases h with
  | idle _ hlife => exact hsame (congrArg Prod.fst hlife)
  | closing _ hprior hlife =>
    obtain ⟨h1, h2, -⟩ := lifecycle_eq.1 hlife
    cases (getStatus_closing h1 (h2.trans (prior_transactions hprior).1)).symm.trans hs
  | closed hprior hlife | updating hprior _ _ hlife =>
    obtain ⟨h1, h2, -⟩ := lifecycle_eq.1 hlife
    cases (closed_after_close hf.close hprior h1 h2).symm.trans hs
  | updated _ hlife =>
    obtain ⟨h1, h2, -⟩ := lifecycle_eq.1 hlife
    exact hsame (Prod.ext h1 h2)
  | settling _ _ _ _ hlife =>
    obtain ⟨-, h2, -⟩ := lifecycle_eq.1 hlife
    rw [getStatus, h2] at hs
    cases hs
  | settled _ _ => cases hop

theorem undisturbed_op (hf : Filed tn id c) (h : applyOp env c blockNumber blockHash op = .ok (some c', events))
    (hsettles : op.settles = false)
    (hop : ∀ total feeConfig, op ≠ .transition (.contractReceiveChannelWithdraw c.ourState.address total feeConfig)) :
    Undisturbed c c' :=
  ⟨onchain_op h hop, settled_op hf (applyOp_turn h) hsettles⟩

/-! The transactions that an operation sends are about its channel. -/

theorem kind_of_withdraw {e : Event} (h : total ∈ e.withdraw?) : e.transaction? = some .withdraw := by
  cases e <;> first | rfl | cases h

/-- the withdraw that a confirmation completes -/
theorem confirmation_withdraws {r : ReceiveWithdrawConfirmation}
    (h : applyOp env c blockNumber blockHash (.transition (.receiveWithdrawConfirmation r)) = .ok (o, events))
    (he : ev ∈ events) (htotal : total ∈ ev.withdraw?) : total = r.totalWithdraw := by
  have hkind := kind_of_withdraw htotal
  cases applyOp_move h with
  | idle => cases he
  | reported _ hreport => cases (report_plain hreport).2.1.symm.trans (mem_singleton.1 he ▸ hkind)
  | confirmed =>
    rw [mem_singleton.1 he] at hkind
    cases hkind
  | coopSettleConfirmed _ _ hsettle =>
    have hcoop := (hsettle.does (m := ⟨[.coopSettle], false, true, false⟩) mem_cons_self).sent
    rcases mem_cons.1 he with rfl | he'
    · cases hkind
    · cases mem_singleton.1 ((hcoop ev he').kind _ hkind)
  | withdrawConfirmed =>
    rcases mem_cons.1 he with rfl | he'
    · cases hkind
    · rw [mem_singleton.1 he'] at htotal
      exact (some.inj htotal).symm

/-- no event of a passive turn is an update or a settlement -/
theorem not_untilSettled_of_passive (h : Passive events) (he : ev ∈ events) : ¬ ev.untilSettled := by
  rintro (hkind | hkind)
  · exact countP_eq_zero.1 h.2 ev he (decide_eq_true hkind)
  · exact countP_eq_zero.1 h.1 ev he (decide_eq_true hkind)

/-- an update and a settlement are about their channel, which waits for them -/
theorem untilSettled_channel (hf : Filed tn id c) (h : applyOp env c blockNumber blockHash op = .ok (o, events))
    (he : ev ∈ events) (huntil : ev.untilSettled) : ev.channel? = some (tn, id) ∧ ∃ c', o = some c' ∧ Awaits c' ev := by
  cases applyOp_turn h with
  | removed hpassive _ | idle hpassive _ | closing hpassive _ _ | updated hpassive _ | settled hpassive _ =>
    exact absurd huntil (not_untilSettled_of_passive hpassive he)
  | closed _ _ => cases he
  | updating hprior _ _ hlife =>
    have hproof := hf.proof _ (update_proof h (mem_singleton_self _))
    cases mem_singleton.1 he
    obtain ⟨h1, h2, -⟩ := lifecycle_eq.1 hlife
    refine ⟨congrArg some (hproof ▸ hf.key), _, rfl, fun _ htotal => (by cases htotal), fun _ => ?_⟩
    rw [closed_after_close hf.close hprior h1 h2]
    exact ChannelStatus.noConfusion
  | settling _ _ _ _ hlife =>
    cases mem_singleton.1 he
    obtain ⟨-, h2, -⟩ := lifecycle_eq.1 hlife
    refine ⟨congrArg some hf.key, _, rfl, fun _ htotal => (by cases htotal), fun _ => ?_⟩
    rw [getStatus, h2]
    exact ChannelStatus.noConfusion

theorem kept_of_removes (h : applyOp env c blockNumber blockHash op = .ok (o, events)) (hop : op.removes = false) :
    ∃ c', o = some c' := by
  cases o with
  | none => exact absurd (hop.symm.trans ((op_does h).removed rfl).1) (by decide)
  | some c' => exact ⟨c', rfl⟩

/-- **The transactions of an operation.** They are about its channel, which waits for them; a confirmed withdraw must be
more than what has been withdrawn. -/
theorem op_channel (hf : Filed tn id c) (h : applyOp env c blockNumber blockHash op = .ok (o, events))
    (hconfirmed : ∀ r c', op = .transition (.receiveWithdrawConfirmation r) → o = some c' →
      c'.ourState.onchainTotalWithdraw < r.totalWithdraw) :
    ∀ e ∈ events, ∀ key ∈ e.channel?, key = (tn, id) ∧ ∃ c', o = some c' ∧ Awaits c' e := by
  intro e he key hkey
  by_cases huntil : e.untilSettled
  · obtain ⟨hchannel, hawaits⟩ := untilSettled_channel hf h he huntil
    exact ⟨some.inj (hkey.symm.trans hchannel), hawaits⟩
  obtain ⟨c', rfl⟩ : ∃ c', o = some c' := ne_none_iff_exists'.1 fun hnone => by
    rw [((op_does h).removed hnone).2] at he
    cases he
  have hof := op_transactions h e he
  refine ⟨(hof.about (fun hu => huntil (.inr hu)) key hkey).trans hf.key, c', rfl, fun total htotal => ?_,
    fun hu => absurd hu huntil⟩
  -- only a confirmation sends a withdraw
  have hmem := hof.kind _ (kind_of_withdraw htotal)
  unfold transactions at hmem
  split at hmem <;> try (exfalso; simp at hmem; done)
  rw [confirmation_withdraws h he htotal]
  exact hconfirmed _ c' rfl rfl

/-- **Ordinary operations.** -/
theorem ordinary_step (hf : Filed tn id c) (h : applyOp env c blockNumber blockHash op = .ok (o, events))
    (hop : op.ordinary = true) : ∃ c', o = some c' ∧ Filed tn id c' ∧ Undisturbed c c' ∧
      ∀ e ∈ events, ∀ key ∈ e.channel?, key = (tn, id) ∧ Awaits c' e := by
  have hremoves : op.removes = false := by
    unfold removes
    split
    · cases hop
    · cases hop
    · rfl
  have hsettles : op.settles = false := by
    unfold settles
    split
    · cases hop
    · rfl
  obtain ⟨c', rfl⟩ := kept_of_removes h hremoves
  refine ⟨c', rfl, hf.apply h, undisturbed_op hf h hsettles ?_, fun e he key hkey => ?_⟩
  · rintro total feeConfig rfl
    cases hop
  · have hconfirmed : ∀ r c1, op = .transition (.receiveWithdrawConfirmation r) → some c' = some c1 →
        c1.ourState.onchainTotalWithdraw < r.totalWithdraw := by
      rintro r c1 rfl
      cases hop
    obtain ⟨hkey', c1, hc1, haw⟩ := op_channel hf h hconfirmed e he key hkey
    cases hc1
    exact ⟨hkey', haw⟩

end Operations

/-! ## Ordinary state changes -/

def FiledChannels (nets : Networks) : Prop := ∀ tn id c, nets.channel tn id = some c → Filed tn id c

/-- the channels are all still there, and undisturbed -/
structure Continues (nets nets' : Networks) : Prop where
  kept : ∀ tn id c, nets.channel tn id = some c → ∃ c', nets'.channel tn id = some c' ∧ Undisturbed c c'
  filed : FiledChannels nets'

/-- the transactions among the events are about channels that wait for them -/
def Awaited (nets : Networks) (events : List Event) : Prop :=
  ∀ e ∈ events, ∀ key ∈ e.channel?, ∃ c, nets.channel key.1 key.2 = some c ∧ Awaits c e

section Continues

variable {env : Env} {nets nets' nets'' : Networks} {c c' : NettingChannelState} {tn : Address} {id : ℕ}
  {events events' : List Event} {s s' : ChainState} {stateChange : StateChange} {k : Bytes} {receives : ChannelAct → Prop}

theorem Continues.refl (hf : FiledChannels nets) : Continues nets nets := ⟨fun _ _ c hc => ⟨c, hc, .refl c⟩, hf⟩

theorem Continues.trans (h : Continues nets nets') (h' : Continues nets' nets'') : Continues nets nets'' := by
  refine ⟨fun tn id c hc => ?_, h'.filed⟩
  obtain ⟨c', hc', hundisturbed⟩ := h.kept tn id c hc
  obtain ⟨c'', hc'', hundisturbed'⟩ := h'.kept tn id c' hc'
  exact ⟨c'', hc'', hundisturbed.trans hundisturbed'⟩

theorem Continues.set (hf : FiledChannels nets) (hc : nets.channel tn id = some c) (hfiled : Filed tn id c')
    (hundisturbed : Undisturbed c c') : Continues nets (nets.setChannel tn id c') := by
  refine ⟨fun tn' id' x hx => ?_, fun tn' id' x hx => ?_⟩
  · rw [channel_setChannel hc]
    split_ifs with heq
    · obtain ⟨rfl, rfl⟩ := heq
      cases hc.symm.trans hx
      exact ⟨c', rfl, hundisturbed⟩
    · exact ⟨x, hx, .refl x⟩
  · rcases channel_setChannel_cases hc hx with ⟨rfl, rfl, rfl⟩ | ⟨-, hx⟩
    · exact hfiled
    · exact hf tn' id' x hx

theorem Awaited.continues (h : Awaited nets events) (hnets : Continues nets nets') : Awaited nets' events := by
  intro e he key hkey
  obtain ⟨c, hc, haw⟩ := h e he key hkey
  obtain ⟨c', hc', hundisturbed⟩ := hnets.kept _ _ c hc
  exact ⟨c', hc', hundisturbed.awaits haw⟩

theorem awaited_of_untransacted (h : ∀ e ∈ events, e.transaction? = none) : Awaited nets events := by
  intro e he key hkey
  rw [channel?_of_transaction (h e he)] at hkey
  cases hkey

theorem awaited_nil (nets : Networks) : Awaited nets [] := awaited_of_untransacted (by simp)

theorem TaskAct.ordinary {a : ChannelAct} (h : TaskAct env k receives a) : a.op.ordinary = true := by
  cases hop : a.op with
  | transition change =>
    rw [TaskAct, hop] at h
    rcases h with habout | ⟨secrethash, hexpires⟩
    · cases habout
    · cases hexpires
  | _ => rfl

/-- ordinary operations leave the channels as they are -/
theorem trace_continues {ok : ChannelAct → Prop} {sent : List Event} (hok : ∀ a, ok a → a.op.ordinary = true)
    (h : Trace env ok nets sent nets') (hf : FiledChannels nets) : Continues nets nets' := by
  refine Trace.invariant (P := Continues nets) (fun nets1 a c o events hP ha hc happly => ?_) h (.refl hf)
  obtain ⟨c', rfl, hfiled, hundisturbed, -⟩ := ordinary_step (hP.filed _ _ c hc) happly (hok a ha)
  exact hP.trans (.set hP.filed hc hfiled hundisturbed)

/-- the operations of a task leave the channels as they are, and it sends no transaction of a channel -/
theorem tasks_continue (h : Trace env (TaskAct env k receives) nets (commitments events) nets') (hf : FiledChannels nets) :
    Continues nets nets' ∧ Awaited nets' events :=
  ⟨trace_continues (fun _ => TaskAct.ordinary) h hf, awaited_of_untransacted (h.untransacted fun _ => TaskAct.transactions)⟩

/-- **A task leaves the channels as they are.** -/
theorem task_continues {key : Bytes} (hkeyed : TasksKeyed s.secrethashesToTask) (hf : FiledChannels s.networks)
    (hkey : ∀ k', stateChange.key env = some k' → k' = key)
    (h : subdispatchToPaymenttask env s stateChange key = .ok (s', events)) :
    s'.pendingTransactions = s.pendingTransactions ∧ Continues s.networks s'.networks ∧ Awaited s'.networks events := by
  refine ⟨?_, tasks_continue (task_trace hkeyed hkey h).1 hf⟩
  obtain ⟨networks, tasks, rfl⟩ := subdispatch_state h
  rfl

theorem setTask_pending (s : ChainState) (key : Bytes) (o : Option TransferTask) :
    (setTask s key o).pendingTransactions = s.pendingTransactions := by
  cases o <;> rfl

theorem network_continues (hf : FiledChannels nets) (hnet : nets.contains tn = false) :
    Continues nets (nets.set tn Dict.empty) := by
  have hnone : nets.get? tn = none := by
    rw [Dict.contains] at hnet
    exact not_isSome_iff_eq_none.1 (by rw [hnet]; exact Bool.false_ne_true)
  refine ⟨fun tn' id' c hc => ⟨c, ?_, .refl c⟩, fun tn' id' c hc => ?_⟩
  · have hne : tn' ≠ tn := by
      rintro rfl
      rw [channel, hnone] at hc
      cases hc
    rw [channel, Dict.get?_set_ne _ _ hne]
    exact hc
  · rw [channel, Dict.get?_set] at hc
    split_ifs at hc
    · cases hc
    · exact hf tn' id' c hc

theorem channelNew_continues (hf : FiledChannels nets) (d : NewChannelDetails)
    (hnone : nets.channel d.canonicalIdentifier.tokenNetworkAddress d.canonicalIdentifier.channelIdentifier = none) :
    Continues nets (nets.setChannel d.canonicalIdentifier.tokenNetworkAddress d.canonicalIdentifier.channelIdentifier
      (newChannel env d)) := by
  refine ⟨fun tn' id' c hc => ⟨c, ?_, .refl c⟩, fun tn' id' c hc => ?_⟩
  · unfold setChannel
    cases hnet : nets.get? d.canonicalIdentifier.tokenNetworkAddress with
    | none => exact hc
    | some channels =>
      dsimp only
      by_cases htn : tn' = d.canonicalIdentifier.tokenNetworkAddress
      · subst htn
        have hne : id' ≠ d.canonicalIdentifier.channelIdentifier := by
          rintro rfl
          cases hnone.symm.trans hc
        rw [channel, hnet] at hc
        rw [channel, Dict.get?_set_self, bind_some, Dict.get?_set_ne _ _ hne]
        exact hc
      · rw [channel, Dict.get?_set_ne _ _ htn]
        exact hc
  · rcases channel_setChannel_new hc with ⟨rfl, rfl, rfl⟩ | hsame
    · exact filed_new env d
    · exact hf tn' id' c hsame

/-- the state changes that ask the channels for ordinary operations only -/
def StateChange.Ordinary (stateChange : StateChange) : Prop :=
  ∀ tn id change, stateChange.Reaches tn id change → (transition change).ordinary = true

theorem move_continues (hok : NodeOk s) (hf : FiledChannels s.networks) (hordinary : stateChange.Ordinary)
    (h : NodeMove env stateChange s events s') :
    s'.pendingTransactions = s.pendingTransactions ∧ Continues s.networks s'.networks ∧ Awaited s'.networks events := by
  have hidle : Continues s.networks s.networks := .refl hf
  cases h with
  | queues | time => exact ⟨rfl, hidle, awaited_nil _⟩
  | channel change hreaches hc htransition =>
    have happly : applyOp env _ s.blockNumber s.blockHash (.transition change) = _ := htransition
    obtain ⟨c', rfl, hfiled, hundisturbed, hevents⟩ :=
      ordinary_step (hf _ _ _ hc) happly (hordinary _ _ change hreaches)
    refine ⟨rfl, .set hf hc hfiled hundisturbed, fun e he key hkey => ?_⟩
    obtain ⟨rfl, haw⟩ := hevents e he key hkey
    exact ⟨c', channel_setChannel_self hc, haw⟩
  | network tn hnet => exact ⟨rfl, network_continues hf hnet, awaited_nil _⟩
  | channelNew details hnone => exact ⟨rfl, channelNew_continues hf details hnone, awaited_nil _⟩
  | task key hkey _ htask => exact task_continues hok.keyed hf hkey htask
  | copy transfer secret _ _ => exact ⟨setTask_pending _ _ _, by rw [setTask_networks]; exact hidle, awaited_nil _⟩
  | initiator d routes _ _ hinit =>
    have htrace : Trace env (TaskAct env d.secrethash fun _ => True) _ _ _ :=
      (handleInit_trace hinit).1.mono fun _ => OwnOp.task
    rw [setTask_networks]
    exact ⟨setTask_pending _ _ _, tasks_continue htrace hf⟩
  | mediator fromHop routes transfer _ _ hinit =>
    obtain ⟨hacts, -⟩ := mediator_acts (by simp) (key_unique rfl) hinit
    rw [setTask_networks]
    exact ⟨setTask_pending _ _ _, tasks_continue hacts.trace hf⟩
  | target fromHop transfer valid _ _ hc hinit =>
    obtain ⟨hacts, -⟩ := target_acts (by simp) (key_unique rfl) hc hinit
    rw [setTask_networks]
    exact ⟨setTask_pending _ _ _, tasks_continue hacts.trace hf⟩
  | retarget fromHop transfer valid _ _ _ _ =>
    exact ⟨setTask_pending _ _ _, by rw [setTask_networks]; exact hidle, awaited_nil _⟩

end Continues

/-! ## The list of transactions -/

/-- the other participant of an unlock, if this node is one of them -/
def unlockPartner (ourAddress receiver sender : Address) : Option Address :=
  if receiver = ourAddress then some sender else if sender = ourAddress then some receiver else none

/-- the node has no other channel with the partner in the network -/
def OnlyChannel (nets : Networks) (ci : CanonicalIdentifier) (partner : Address) : Prop :=
  ∀ channels ∈ nets.get? ci.tokenNetworkAddress, ∀ x ∈ channels.entries,
    x.2.partnerState.address = partner → x.1 = ci.channelIdentifier

instance (nets : Networks) (ci : CanonicalIdentifier) (partner : Address) : Decidable (OnlyChannel nets ci partner) :=
  inferInstanceAs (Decidable (∀ channels ∈ nets.get? ci.tokenNetworkAddress, ∀ x ∈ channels.entries,
    x.2.partnerState.address = partner → x.1 = ci.channelIdentifier))

/-- the transactions of a channel that can be left when it is removed -/
def PendingFor (s : ChainState) (ci : CanonicalIdentifier) (ok : Event → Prop) : Prop :=
  ∀ transaction ∈ s.pendingTransactions, transaction.1.channel? = some ci.key → ok transaction.1

instance (s : ChainState) (ci : CanonicalIdentifier) (ok : Event → Prop) [DecidablePred ok] :
    Decidable (PendingFor s ci ok) :=
  inferInstanceAs (Decidable (∀ transaction ∈ s.pendingTransactions, transaction.1.channel? = some ci.key →
    ok transaction.1))

/-- The state changes after which no transaction is left over:
- a withdraw that is mined leaves no withdraw of the same or a smaller amount, and one that is confirmed is not mined yet;
- when a settlement without locks removes a channel, only its own settlement or an update is pending;
- when an unlock removes a channel, the pending unlock is about the only channel with the partner.
Only payments of this node are rerouted. -/
def NoLeftover (env : Env) (s : ChainState) : StateChange → Prop
  | .actionTransferReroute transfer _ =>
    ∀ task ∈ s.secrethashesToTask.get? transfer.lock.secrethash, ∃ payment, task = .initiator payment
  | .receiveWithdrawConfirmation r _ =>
    ∀ c ∈ s.networks.channel r.canonicalIdentifier.tokenNetworkAddress r.canonicalIdentifier.channelIdentifier,
      c.ourState.onchainTotalWithdraw < r.totalWithdraw
  | .contractReceiveChannelWithdraw ci participant total _ =>
    ∀ c ∈ s.networks.channel ci.tokenNetworkAddress ci.channelIdentifier, participant = c.ourState.address →
      PendingFor s ci fun e => ∀ pending ∈ e.withdraw?, total < pending
  | .contractReceiveChannelSettled ci ourRoot _ partnerRoot _ _ _ =>
    ourRoot = locksrootOfNoLocks env ∧ partnerRoot = locksrootOfNoLocks env →
      PendingFor s ci Event.untilSettled
  | .contractReceiveChannelBatchUnlock ci receiver sender =>
    ∀ c ∈ s.networks.channel ci.tokenNetworkAddress ci.channelIdentifier,
      getStatus c = .settled ∧ (unlockedOnchain env c sender).ourState.onchainLocksroot = locksrootOfNoLocks env ∧
        (unlockedOnchain env c sender).partnerState.onchainLocksroot = locksrootOfNoLocks env →
      PendingFor s ci fun e => e.untilSettled ∨ (e.transaction? = some .batchUnlock ∧
        ∃ partner ∈ unlockPartner s.ourAddress receiver sender, OnlyChannel s.networks ci partner)
  | _ => True

/-- every transaction is about a channel that waits for it -/
structure PendingOk (s : ChainState) : Prop where
  node : NodeOk s
  filed : FiledChannels s.networks
  awaited : Awaited s.networks (s.pendingTransactions.map Subtype.val)

section Queue

variable {env : Env} {s s' s1 : ChainState} {stateChange : StateChange} {events : List Event} {tx : ContractSendEvent}
  {c : NettingChannelState} {o : Option NettingChannelState} {tn : Address} {id : ℕ} {op : ChannelOp} {blockNumber : ℕ}
  {blockHash : Bytes} {ci : CanonicalIdentifier} {change : ChannelStateChange} {nets : Networks}
  {ourRoot partnerRoot hash : Bytes} {ourAmount partnerAmount number : ℕ}

theorem enqueue_pending (s : ChainState) (e : Event) (htx : tx ∈ (enqueue s e).pendingTransactions) :
    tx ∈ s.pendingTransactions ∨ tx.1 = e := by
  unfold enqueue at htx
  dsimp only at htx
  split_ifs at htx
  · rcases mem_append.1 htx with hold | hnew
    · exact .inl hold
    · exact .inr (congrArg Subtype.val (mem_singleton.1 hnew))
  · rcases mem_append.1 htx with hold | hnew
    · exact .inl hold
    · exact .inr (congrArg Subtype.val (mem_singleton.1 hnew))
  · exact .inl htx
  · exact .inl htx

theorem foldl_enqueue_pending (events : List Event) (s : ChainState)
    (htx : tx ∈ (events.foldl enqueue s).pendingTransactions) : tx ∈ s.pendingTransactions ∨ tx.1 ∈ events := by
  induction events generalizing s with
  | nil => exact .inl htx
  | cons e events ih =>
    rcases ih (enqueue s e) htx with hold | hnew
    · rcases enqueue_pending s e hold with hold | rfl
      · exact .inl hold
      · exact .inr mem_cons_self
    · exact .inr (mem_cons_of_mem e hnew)

/-- a transaction of the list was there and the event of the chain has not removed it, or it has been sent -/
theorem updateQueues_pending (htx : tx ∈ (updateQueues s stateChange events).pendingTransactions) :
    (tx ∈ s.pendingTransactions ∧
        (stateChange.isContractReceive = true → isTransactionPending s stateChange tx = true)) ∨ tx.1 ∈ events := by
  unfold updateQueues at htx
  rcases foldl_enqueue_pending events _ htx with hold | hnew
  · refine .inl ?_
    split_ifs at hold with hreceive
    · obtain ⟨hmem, hpending⟩ := mem_filter.1 hold
      exact ⟨hmem, fun _ => hpending⟩
    · exact ⟨hold, fun h => absurd h hreceive⟩
  · exact .inr hnew

theorem updateQueues_networks (s : ChainState) (stateChange : StateChange) (events : List Event) :
    (updateQueues s stateChange events).networks = s.networks := by
  rw [updateQueues_eq]

/-! ### Ordinary state changes -/

theorem handled_continues (hok : NodeOk s) (hf : FiledChannels s.networks) (hordinary : stateChange.Ordinary)
    (hcopy : ReroutesPayment s stateChange)
    (h : handleStateChange env s stateChange = .ok (s1, events)) :
    s1.pendingTransactions = s.pendingTransactions ∧ Continues s.networks s1.networks ∧ Awaited s1.networks events := by
  by_cases hreroute : ∃ transfer secret, stateChange = .actionTransferReroute transfer secret
  · obtain ⟨transfer, secret, rfl⟩ := hreroute
    obtain ⟨task, hmove, h⟩ := reroute_ok h
    have htask := task_continues (nodeOk_move hmove hcopy hok).keyed (by rw [setTask_networks]; exact hf) (key_unique rfl) h
    rwa [setTask_pending, setTask_networks] at htask
  · -- the moves keep the node in order, and each of them leaves the channels as they are
    refine (NodeMoves.invariant (P := fun s' sent => NodeOk s' ∧ s'.pendingTransactions = s.pendingTransactions ∧
      Continues s.networks s'.networks ∧ Awaited s'.networks sent) ?_ (handleStateChange_moves h)
      ⟨hok, rfl, .refl hf, awaited_nil _⟩).2
    rintro s2 sent events2 s3 ⟨hok2, hpending, hnets, hsent⟩ hmove
    obtain ⟨hpending', hnets', hevents⟩ := move_continues hok2 hnets.filed hordinary hmove
    refine ⟨nodeOk_move hmove (reroutesPayment_of_other fun _ _ heq => hreroute ⟨_, _, heq⟩) hok2,
      hpending'.trans hpending, hnets.trans hnets', ?_⟩
    exact forall_mem_append.2 ⟨hsent.continues hnets', hevents⟩

theorem pendingOk_ordinary (h : PendingOk s) (hordinary : stateChange.Ordinary)
    (hcopy : ReroutesPayment s stateChange)
    (ht : Node.stateTransition env s stateChange = .ok (s', events)) : PendingOk s' := by
  have hok := nodeOk_transition h.node hcopy ht
  obtain ⟨s1, h1, rfl⟩ := stateTransition_ok ht
  obtain ⟨hpending, hnets, hevents⟩ := handled_continues h.node h.filed hordinary hcopy h1
  refine ⟨hok, by rw [updateQueues_networks]; exact hnets.filed, ?_⟩
  rw [updateQueues_networks]
  intro e he
  obtain ⟨tx, htx, rfl⟩ := mem_map.1 he
  rcases updateQueues_pending htx with ⟨hold, -⟩ | hnew
  · rw [hpending] at hold
    exact (h.awaited.continues hnets) tx.1 (mem_map_of_mem hold)
  · exact hevents tx.1 hnew

/-! ### State changes of one channel -/

theorem channel_replaceChannel_ne {tn' : Address} {id' : ℕ} (hc : nets.channel tn id = some c)
    (hne : ¬ (tn' = tn ∧ id' = id)) : (replaceChannel nets tn id o).channel tn' id' = nets.channel tn' id' := by
  cases o with
  | none => exact (channel_removeChannel_eq nets tn tn' id id').trans (if_neg hne)
  | some c' => exact channel_setChannel_ne hc hne

theorem FiledChannels.replace (hf : FiledChannels nets) (hc : nets.channel tn id = some c)
    (h : applyOp env c blockNumber blockHash op = .ok (o, events)) : FiledChannels (replaceChannel nets tn id o) := by
  intro tn' id' x hx
  by_cases heq : tn' = tn ∧ id' = id
  · obtain ⟨rfl, rfl⟩ := heq
    cases o with
    | none =>
      rw [replaceChannel, channel_removeChannel_eq, if_pos ⟨rfl, rfl⟩] at hx
      cases hx
    | some c' =>
      rw [replaceChannel, channel_setChannel_self hc] at hx
      cases hx
      exact (hf _ _ c hc).apply h
  · rw [channel_replaceChannel_ne hc heq] at hx
    exact hf tn' id' x hx

/-- **State changes of one channel.** They keep the list current if the channel still waits for what is left of its own
transactions. -/
theorem pendingOk_channel {s2 : ChainState} (h : PendingOk s) (hnode : NodeOk (updateQueues s1 stateChange events))
    (hdispatch : subdispatchToChannel env s ci change = .ok (s2, events)) (hnets : s1.networks = s2.networks)
    (hpending : s1.pendingTransactions = s2.pendingTransactions)
    (hconfirmed : ∀ c o r c', s.networks.channel ci.tokenNetworkAddress ci.channelIdentifier = some c →
      applyOp env c s.blockNumber s.blockHash (.transition change) = .ok (o, events) →
      change = .receiveWithdrawConfirmation r → o = some c' → c'.ourState.onchainTotalWithdraw < r.totalWithdraw)
    (hleft : ∀ c o, s.networks.channel ci.tokenNetworkAddress ci.channelIdentifier = some c →
      applyOp env c s.blockNumber s.blockHash (.transition change) = .ok (o, events) →
      s1.networks = replaceChannel s.networks ci.tokenNetworkAddress ci.channelIdentifier o →
      ∀ tx ∈ s.pendingTransactions, tx.1.channel? = some ci.key → Awaits c tx.1 →
        (stateChange.isContractReceive = true → isTransactionPending s1 stateChange tx = true) →
        ∃ c', o = some c' ∧ Awaits c' tx.1) : PendingOk (updateQueues s1 stateChange events) := by
  unfold subdispatchToChannel at hdispatch
  split at hdispatch
  · cases hdispatch
    refine ⟨hnode, by rw [updateQueues_networks, hnets]; exact h.filed, ?_⟩
    rw [updateQueues_networks, hnets]
    intro e he
    obtain ⟨tx, htx, rfl⟩ := mem_map.1 he
    rcases updateQueues_pending htx with ⟨hold, -⟩ | hnew
    · rw [hpending] at hold
      exact h.awaited tx.1 (mem_map_of_mem hold)
    · cases hnew
  · rename_i c hc
    simp only [do_ok, Prod.exists, Prod.mk.injEq] at hdispatch
    obtain ⟨o, events', happly, rfl, rfl⟩ := hdispatch
    have happly' : applyOp env c s.blockNumber s.blockHash (.transition change) = .ok (o, events') := happly
    refine ⟨hnode, by rw [updateQueues_networks, hnets]; exact h.filed.replace hc happly', ?_⟩
    rw [updateQueues_networks, hnets]
    intro e he key hkey
    obtain ⟨tx, htx, rfl⟩ := mem_map.1 he
    rcases updateQueues_pending htx with ⟨hold, hkept⟩ | hnew
    · rw [hpending] at hold
      obtain ⟨c0, hc0, haw⟩ := h.awaited tx.1 (mem_map_of_mem hold) key hkey
      by_cases heq : key.1 = ci.tokenNetworkAddress ∧ key.2 = ci.channelIdentifier
      · have hown : tx.1.channel? = some ci.key := mem_def.1 hkey ▸ congrArg some (Prod.ext heq.1 heq.2)
        rw [heq.1, heq.2] at hc0 ⊢
        cases hc.symm.trans hc0
        obtain ⟨c', rfl, haw'⟩ := hleft c o hc happly' hnets tx hold hown haw hkept
        exact ⟨c', channel_setChannel_self hc, haw'⟩
      · exact ⟨c0, (channel_replaceChannel_ne hc heq).trans hc0, haw⟩
    · have hconfirmed' : ∀ r c', transition change = .transition (.receiveWithdrawConfirmation r) → o = some c' →
          c'.ourState.onchainTotalWithdraw < r.totalWithdraw := by
        intro r c' heq ho
        exact hconfirmed c o r c' hc happly' (transition.inj heq) ho
      obtain ⟨rfl, c', rfl, haw⟩ := op_channel (h.filed _ _ c hc) happly' hconfirmed' tx.1 hnew key hkey
      exact ⟨c', channel_setChannel_self hc, haw⟩

theorem pendingOk_confirmation {r : ReceiveWithdrawConfirmation} {identified : Event → Bool} (h : PendingOk s)
    (hnode : NodeOk s') (hcond : NoLeftover env s (.receiveWithdrawConfirmation r identified))
    (ht : Node.stateTransition env s (.receiveWithdrawConfirmation r identified) = .ok (s', events)) : PendingOk s' := by
  obtain ⟨s1, h1, rfl⟩ := stateTransition_ok ht
  simp only [Node.handleStateChange, do_ok, Prod.exists, Prod.mk.injEq] at h1
  obtain ⟨s2, events', hdispatch, rfl, rfl⟩ := h1
  have hundisturbed {c c' : NettingChannelState}
      (hc : s.networks.channel r.canonicalIdentifier.tokenNetworkAddress r.canonicalIdentifier.channelIdentifier = some c)
      (happly : applyOp env c s.blockNumber s.blockHash (.transition (.receiveWithdrawConfirmation r)) =
        .ok (some c', events')) : Undisturbed c c' :=
    undisturbed_op (h.filed _ _ c hc) happly rfl fun total feeConfig heq => (by cases heq)
  refine pendingOk_channel h hnode hdispatch rfl rfl ?_ ?_
  · rintro c o r' c' hc happly heq rfl
    cases heq
    rw [(hundisturbed hc happly).onchain]
    exact hcond c hc
  · rintro c o hc happly - tx - - haw -
    obtain ⟨c', rfl⟩ := kept_of_removes happly rfl
    exact ⟨c', rfl, (hundisturbed hc happly).awaits haw⟩

theorem pendingOk_withdraw {participant : Address} {total : ℕ} {feeConfig : FeeConfig} (h : PendingOk s)
    (hnode : NodeOk s') (hcond : NoLeftover env s (.contractReceiveChannelWithdraw ci participant total feeConfig))
    (ht : Node.stateTransition env s (.contractReceiveChannelWithdraw ci participant total feeConfig) = .ok (s', events)) :
    PendingOk s' := by
  obtain ⟨s1, h1, rfl⟩ := stateTransition_ok ht
  have hdispatch : Node.subdispatchToChannel env s ci (.contractReceiveChannelWithdraw participant total feeConfig) =
      .ok (s1, events) := h1
  refine pendingOk_channel h hnode hdispatch rfl rfl (fun _ _ _ _ _ _ heq => (by cases heq)) ?_
  rintro c o hc happly - tx htx hkey haw -
  obtain ⟨c', rfl⟩ := kept_of_removes happly rfl
  refine ⟨c', rfl, ⟨fun pending htotal => ?_, fun hkind hs => ?_⟩⟩
  · by_cases hours : participant = c.ourState.address
    · have hstep := (op_step happly).ours
      have hours' : (transition (.contractReceiveChannelWithdraw participant total feeConfig)).ours c
          s.blockNumber = .withdrawnOnchain total := if_pos hours
      rw [hours'] at hstep
      have hless : (total : ℤ) < pending := by exact_mod_cast hcond c hc hours tx htx hkey pending htotal
      cases hstep with
      | same _ _ hcore =>
        have honchain := congrArg NettingChannelEndState.onchainTotalWithdraw hcore
        exact lt_of_eq_of_lt honchain (haw.withdraw pending htotal)
      | withdrawnOnchain _ _ hcore =>
        have honchain := congrArg NettingChannelEndState.onchainTotalWithdraw hcore
        exact lt_of_eq_of_lt honchain hless
    · have honchain := onchain_op happly fun total feeConfig heq => hours (by cases heq; rfl)
      rw [honchain]
      exact haw.withdraw pending htotal
  · exact haw.status hkind (settled_op (h.filed _ _ c hc) (applyOp_turn happly) rfl hs)

/-- a settlement ends the settlements and the updates of its channel -/
theorem settled_clears (hkey : tx.1.channel? = some ci.key) (hkind : tx.1.untilSettled) : isTransactionPending s
      (.contractReceiveChannelSettled ci ourRoot ourAmount partnerRoot partnerAmount number hash) tx = false := by
  obtain ⟨e, he⟩ := tx
  cases e with
  | contractSendChannelSettle own triggered =>
    obtain ⟨htn, hid⟩ := Prod.mk.inj (some.inj hkey)
    simp [isTransactionPending, isTransactionEffectSatisfied, htn, hid]
  | contractSendChannelUpdateTransfer expiration b triggered =>
    obtain ⟨htn, hid⟩ := Prod.mk.inj (some.inj hkey)
    simp [Node.isTransactionPending, Node.isTransactionInvalidated, htn, hid]
  | _ => rcases hkind with hkind | hkind <;> cases hkind

theorem pendingOk_settled (h : PendingOk s) (hnode : NodeOk s')
    (hcond : NoLeftover env s (.contractReceiveChannelSettled ci ourRoot ourAmount partnerRoot partnerAmount number hash))
    (ht : Node.stateTransition env s
      (.contractReceiveChannelSettled ci ourRoot ourAmount partnerRoot partnerAmount number hash) = .ok (s', events)) :
    PendingOk s' := by
  obtain ⟨s1, h1, rfl⟩ := stateTransition_ok ht
  have hdispatch : Node.subdispatchToChannel env s ci (.contractReceiveChannelSettled ci.channelIdentifier ourRoot ourAmount
      partnerRoot partnerAmount number hash) = .ok (s1, events) := h1
  refine pendingOk_channel h hnode hdispatch rfl rfl (fun _ _ _ _ _ _ heq => (by cases heq)) ?_
  rintro c o hc happly - tx htx hkey haw hpending
  have hkind : ¬ tx.1.untilSettled := by
    intro hkind
    rw [settled_clears hkey hkind] at hpending
    cases hpending rfl
  cases o with
  | none =>
    have hroots : ourRoot = locksrootOfNoLocks env ∧ partnerRoot = locksrootOfNoLocks env := by
      cases applyOp_move happly with
      | settled hroots => exact hroots
    exact absurd (hcond hroots tx htx hkey) hkind
  | some c' =>
    refine ⟨c', rfl, ⟨fun total htotal => ?_, fun huntil => absurd huntil hkind⟩⟩
    rw [onchain_op happly fun total feeConfig heq => (by cases heq)]
    exact haw.withdraw total htotal

/-- the unlock of the only channel with the partner ends the unlocks -/
theorem unlock_clears {receiver sender partner : Address}
    (hnets : s1.networks = s.networks.removeChannel ci.tokenNetworkAddress ci.channelIdentifier)
    (hour : s1.ourAddress = s.ourAddress) (hkind : tx.1.transaction? = some .batchUnlock)
    (hpartner : partner ∈ unlockPartner s.ourAddress receiver sender) (honly : OnlyChannel s.networks ci partner) :
    isTransactionPending s1 (.contractReceiveChannelBatchUnlock ci receiver sender) tx = false := by
  have hnone : channelWithPartner s1 ci.tokenNetworkAddress partner = none := by
    unfold channelWithPartner removeChannel at *
    cases hnet : s.networks.get? ci.tokenNetworkAddress with
    | none => rw [hnets, hnet, hnet, bind_none]
    | some channels =>
      rw [hnets, hnet, Dict.get?_set_self, bind_some, getLast?_eq_none_iff, filter_eq_nil_iff]
      intro x hx
      obtain ⟨⟨id, x⟩, hmem, rfl⟩ := mem_map.1 hx
      have hget := Dict.get?_eq_some.2 hmem
      rw [Dict.get?_erase] at hget
      split_ifs at hget with hid
      have hother := mt (honly channels hnet _ (Dict.get?_eq_some.1 hget)) hid
      simp [hother]
  obtain ⟨e, he⟩ := tx
  cases e with
  | contractSendChannelBatchUnlock own address triggered =>
    have hpartner' : (if receiver = s1.ourAddress then some sender
        else if sender = s1.ourAddress then some receiver else none) = some partner := hour ▸ hpartner
    simp [Node.isTransactionPending, Node.isTransactionEffectSatisfied, hpartner', hnone]
  | _ => cases hkind

theorem pendingOk_unlock {receiver sender : Address} (h : PendingOk s) (hnode : NodeOk s')
    (hcond : NoLeftover env s (.contractReceiveChannelBatchUnlock ci receiver sender))
    (ht : Node.stateTransition env s (.contractReceiveChannelBatchUnlock ci receiver sender) = .ok (s', events)) :
    PendingOk s' := by
  obtain ⟨s1, h1, rfl⟩ := stateTransition_ok ht
  have hdispatch : Node.subdispatchToChannel env s ci (.contractReceiveChannelBatchUnlock sender) = .ok (s1, events) := h1
  have hour : s1.ourAddress = s.ourAddress := by
    unfold Node.subdispatchToChannel at hdispatch
    split at hdispatch
    · cases hdispatch
      rfl
    · simp only [do_ok, Prod.exists, Prod.mk.injEq] at hdispatch
      obtain ⟨o, events', -, rfl, -⟩ := hdispatch
      rfl
  refine pendingOk_channel h hnode hdispatch rfl rfl (fun _ _ _ _ _ _ heq => (by cases heq)) ?_
  intro c o hc happly hnets tx htx hkey haw hpending
  cases o with
  | none =>
    have hremoved : getStatus c = .settled ∧
        (unlockedOnchain env c sender).ourState.onchainLocksroot = locksrootOfNoLocks env ∧
        (unlockedOnchain env c sender).partnerState.onchainLocksroot = locksrootOfNoLocks env := by
      cases applyOp_move happly with
      | unlockedAll hstatus hroots => exact ⟨hstatus, hroots⟩
    rcases hcond c hc hremoved tx htx hkey with hkind | ⟨hkind, partner, hpartner, honly⟩
    · exact absurd hremoved.1 (haw.status hkind)
    · rw [unlock_clears hnets hour hkind hpartner honly] at hpending
      cases hpending rfl
  | some c' =>
    have hundisturbed : Undisturbed c c' :=
      undisturbed_op (h.filed _ _ c hc) happly rfl fun total feeConfig heq => (by cases heq)
    exact ⟨c', rfl, hundisturbed.awaits haw⟩

theorem ordinary_of
    (h : ∀ ci change, stateChange.toChannel = some (ci, change) → (transition change).ordinary = true) :
    stateChange.Ordinary := by
  rintro tn id change (⟨number, hash, -, rfl⟩ | ⟨ci, hchange, -, -⟩)
  · rfl
  · exact h ci change hchange

/-- **One state change.** -/
theorem pendingOk_transition (h : PendingOk s) (hcond : NoLeftover env s stateChange)
    (ht : Node.stateTransition env s stateChange = .ok (s', events)) : PendingOk s' := by
  have hcopy : ReroutesPayment s stateChange := by
    cases stateChange <;> trivial
  have hnode := nodeOk_transition h.node hcopy ht
  cases stateChange with
  | receiveWithdrawConfirmation r identified => exact pendingOk_confirmation h hnode hcond ht
  | contractReceiveChannelWithdraw ci participant total feeConfig => exact pendingOk_withdraw h hnode hcond ht
  | contractReceiveChannelSettled ci ourRoot ourAmount partnerRoot partnerAmount number hash =>
    exact pendingOk_settled h hnode hcond ht
  | contractReceiveChannelBatchUnlock ci receiver sender => exact pendingOk_unlock h hnode hcond ht
  | _ =>
    refine pendingOk_ordinary h (ordinary_of fun ci change hchange => ?_) hcopy ht
    cases hchange <;> rfl

theorem PendingOk.current (h : PendingOk s) : PendingCurrent s := by
  intro tx htx key hkey
  obtain ⟨c, hc, haw⟩ := h.awaited tx.1 (mem_map_of_mem htx) key hkey
  exact ⟨c, hc, haw.withdraw⟩

end Queue

/-! ## Runs -/

instance (task : TransferTask) : Decidable (∃ payment, task = .initiator payment) :=
  match task with
  | .initiator payment => isTrue ⟨payment, rfl⟩
  | .mediator _ => isFalse fun ⟨_, h⟩ => by cases h
  | .target _ => isFalse fun ⟨_, h⟩ => by cases h

instance (env : Env) (s : ChainState) (stateChange : StateChange) : Decidable (NoLeftover env s stateChange) := by
  apply StateChange.casesOn (motive := fun stateChange => Decidable (NoLeftover env s stateChange)) stateChange <;>
    (intros; unfold NoLeftover; infer_instance)

theorem pendingOk_initial (ourAddress : Address) (chainId blockNumber : ℕ) (blockHash : Bytes) :
    PendingOk (.initial ourAddress chainId blockNumber blockHash) := by
  refine ⟨⟨fun k task h => ?_, fun tn id c h => ?_⟩, fun tn id c hc => ?_, fun e he => ?_⟩
  · cases h
  · cases h
  · cases hc
  · cases he

/-- **Current transactions.** In every state that a node reaches with timely state changes, each of its transactions is
about one of its channels, and no withdraw that it wants to send has been made. -/
theorem pending_current (env : Env) (ourAddress : Address) (chainId blockNumber : ℕ) (blockHash : Bytes)
    (stateChanges : List StateChange)
    (h : Along (advance (Node.stateTransition env)) (NoLeftover env) (.initial ourAddress chainId blockNumber blockHash)
      stateChanges) :
    PendingCurrent
      (runFrom (advance (Node.stateTransition env)) (.initial ourAddress chainId blockNumber blockHash) stateChanges) := by
  refine (run_invariant (advance (Node.stateTransition env)) (P := PendingOk) (fun s stateChange hs hcond => ?_)
    (pendingOk_initial ourAddress chainId blockNumber blockHash) h).current
  unfold advance
  split
  · rename_i s' events ht
    exact pendingOk_transition hs hcond ht
  · exact hs

/-- the sample node after state changes -/
def sampleChain (stateChanges : List StateChange) : ChainState :=
  runFrom (advance (Node.stateTransition sampleEnv)) (.initial 1 1 1 []) stateChanges

/-- a channel with deposits of 10 -/
def fundedRun : List StateChange :=
  let ci := sampleDetails.canonicalIdentifier
  [.contractReceiveNewTokenNetwork ci.tokenNetworkAddress, .contractReceiveChannelNew sampleDetails,
    .contractReceiveChannelDeposit ci 1 10 ⟨0⟩, .contractReceiveChannelDeposit ci 2 10 ⟨0⟩]

/-- the partner confirms a withdraw of the node -/
def confirmed (totalWithdraw : ℕ) : StateChange :=
  .receiveWithdrawConfirmation ⟨2, 1, sampleDetails.canonicalIdentifier, totalWithdraw, 1, 100, [2], 1⟩ fun _ => false

/-- a withdraw of 5 that the partner confirms -/
def withdrawRun : List StateChange := fundedRun ++ [.actionChannelWithdraw sampleDetails.canonicalIdentifier 5, confirmed 5]

/-- the close of a channel ends its withdraw, and the node waits for the settlement -/
theorem pending_current_after_close :
    let stateChanges := withdrawRun ++
      [.contractReceiveChannelClosed sampleDetails.canonicalIdentifier 2 20 [], .block 521 []]
    (sampleChain withdrawRun).pendingTransactions.map (fun transaction => transaction.1.withdraw?) = [some 5] ∧
      (sampleChain stateChanges).pendingTransactions.map (fun transaction => transaction.1.transaction?) = [some .settle] ∧
      PendingCurrent (runFrom (advance (Node.stateTransition sampleEnv)) (.initial 1 1 1 []) stateChanges) :=
  ⟨by decide +kernel, by decide +kernel, pending_current sampleEnv 1 1 1 [] _ (by decide +kernel)⟩

/-- the partner closes the channel while a payment of 10 is locked; after the settlement the two nodes open another channel -/
def unlockRun : List StateChange :=
  let ci := sampleDetails.canonicalIdentifier
  fundedRun ++ [.actionInitInitiator ⟨1, 10, 3, 1, 7, replicate 32 7, replicate 32 7, none⟩ [⟨[1, 2, 7], Dict.empty, 0⟩],
    .contractReceiveChannelClosed ci 2 20 [],
    .contractReceiveChannelSettled ci (computeLocksroot shippedEnv [lockOfTen.encoded]) 0
      (locksrootOfNoLocks shippedEnv) 0 600 [],
    .contractReceiveChannelNew { sampleDetails with canonicalIdentifier := ⟨1, 3, 6⟩ }]

/-- **Transactions that are left over.** The lock of a settled channel is unlocked and the channel is gone, but the batch
unlock stays because there is another channel with the partner; a restart sends it again. Where withdraws are packed: a
withdraw of 5 is mined and stays, and so does the transaction of a cooperative settle after the settlement. -/
theorem done_transactions_stay_pending :
    (let s := runFrom (advance (Node.stateTransition shippedEnv)) (.initial 1 1 1 [])
      (unlockRun ++ [.contractReceiveChannelBatchUnlock sampleDetails.canonicalIdentifier 2 1])
    (s.networks.channel 3 5).isNone = true ∧
      s.pendingTransactions.map (fun transaction => (transaction.1.transaction?, transaction.1.channel?)) =
        [(some .batchUnlock, some (3, 5))] ∧ ¬ PendingCurrent s) ∧
    sampleEnv.PacksWithdraws ∧
    (let s := sampleChain (withdrawRun ++ [.contractReceiveChannelWithdraw sampleDetails.canonicalIdentifier 1 5 ⟨0⟩])
    (s.networks.channel 3 5).map (fun c => c.ourState.onchainTotalWithdraw) = some 5 ∧
      s.pendingTransactions.map (fun transaction => transaction.1.withdraw?) = [some 5] ∧ ¬ PendingCurrent s) ∧
    (let s := sampleChain (fundedRun ++ [.actionChannelCoopSettle sampleDetails.canonicalIdentifier, confirmed 10,
      .receiveWithdrawRequest ⟨2, 1, sampleDetails.canonicalIdentifier, 10, 2, 100, [2], 2, false⟩,
      .contractReceiveChannelSettled sampleDetails.canonicalIdentifier (locksrootOfNoLocks sampleEnv) 10
        (locksrootOfNoLocks sampleEnv) 10 20 []])
    (s.networks.channel 3 5).isNone = true ∧
      s.pendingTransactions.map (fun transaction => transaction.1.transaction?) = [some .coopSettle] ∧
      ¬ PendingCurrent s) :=
  ⟨by decide +kernel, sampleEnv_packs, by decide +kernel⟩

end Gatecoin.Client
