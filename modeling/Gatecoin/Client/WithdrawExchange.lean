/-
Two honest nodes that exchange withdraw messages.

Each node runs the state machine of the channel on the withdraws of its user, on blocks and on the messages of the other
node, which arrive in the order in which they were sent. What both nodes keep of a participant is a `WithdrawRecord`. A
request, a confirmation and the expiration of a withdraw all take the next nonce of their sender; a request adds a
pending withdraw to the record of its sender and an expiration removes one.

The receiver of a confirmation compares it with its total withdraw, which is that of its latest request. So it rejects
the confirmation of an earlier request that is answered late, and that of a request that it has expired in the meantime
(there is nothing pending any more). After a rejected message the nonces do not match again.

Results:
- `accepts_iff`: when a message of an honest partner is accepted.
- `withdraws_agree_iff`: when all messages of a run are accepted and the nodes agree.
- `overlapping_withdraws_rejected`: a second request before the confirmation of the first.
-/
import Gatecoin.Core.Duplex
import Gatecoin.Client.Sanity
import Gatecoin.Client.Endpoint

namespace Gatecoin.Client

open Gatecoin.Core List

/-! ## The exchange -/

inductive WithdrawMessage where
  | request (message : ReceiveWithdrawRequest)
  | confirmation (message : ReceiveWithdrawConfirmation)
  | expired (message : ReceiveWithdrawExpired)

def WithdrawMessage.stateChange : WithdrawMessage → ChannelStateChange
  | .request m => .receiveWithdrawRequest m
  | .confirmation m => .receiveWithdrawConfirmation m
  | .expired m => .receiveWithdrawExpired m

/-- the signed message of an event; message identifiers are left out where the event has none -/
def withdrawMessage {env : Env} (key : SigningKey env) : Event → Option WithdrawMessage
  | .sendWithdrawRequest _ ci totalWithdraw participant nonce expiration coopSettle =>
    some (.request ⟨key.address, 0, ci, totalWithdraw.toNat, nonce, expiration,
      key.sign (withdrawData ci participant totalWithdraw.toNat expiration), participant, coopSettle⟩)
  | .sendWithdrawConfirmation _ ci messageIdentifier totalWithdraw participant nonce expiration =>
    some (.confirmation ⟨key.address, messageIdentifier, ci, totalWithdraw, nonce, expiration,
      key.sign (withdrawData ci participant totalWithdraw expiration), participant⟩)
  | .sendWithdrawExpired _ ci totalWithdraw participant nonce expiration =>
    some (.expired ⟨key.address, 0, ci, totalWithdraw.toNat, expiration, nonce, participant⟩)
  | _ => none

inductive WithdrawAction where
  | withdraw (totalWithdraw : ℤ)
  | block (blockNumber : ℕ) (blockHash : Bytes)

section Exchange

variable {env : Env}

/-- what a state change does to a node; one that raises changes nothing -/
def Endpoint.apply (e : Endpoint env) (stateChange : ChannelStateChange) : Endpoint env × List WithdrawMessage :=
  match stateTransition env e.channel stateChange e.blockNumber e.blockHash with
  | .ok (some c, events) => ({ e with channel := c }, events.filterMap (withdrawMessage e.key))
  | _ => (e, [])

def Endpoint.act (e : Endpoint env) : WithdrawAction → Endpoint env × List WithdrawMessage
  | .withdraw totalWithdraw => e.apply (.actionChannelWithdraw totalWithdraw)
  | .block number hash => ({ e with blockNumber := number, blockHash := hash }).apply (.block number hash)

def withdrawExchange (env : Env) : Exchange (Endpoint env) WithdrawAction WithdrawMessage where
  act := Endpoint.act
  receive := fun e m => e.apply m.stateChange

/-- the events that say that a withdraw message was invalid -/
def Event.rejectsWithdraw : Event → Bool
  | eventInvalidReceivedWithdrawRequest _ _ => true
  | eventInvalidReceivedWithdraw _ _ => true
  | eventInvalidReceivedWithdrawExpired _ _ => true
  | _ => false

/-- the message is handled without an exception and not found invalid -/
def Endpoint.accepts (e : Endpoint env) (m : WithdrawMessage) : Bool :=
  match stateTransition env e.channel m.stateChange e.blockNumber e.blockHash with
  | .ok (some _, events) => !events.any Event.rejectsWithdraw
  | _ => false

end Exchange

/-! ## Records -/

/-- what both nodes keep of a participant; `limit` is the most it can withdraw in total -/
@[ext] structure WithdrawRecord where
  canonicalIdentifier : CanonicalIdentifier
  address : Address
  peer : Address
  limit : ℤ
  onchainTotalWithdraw : ℤ
  peerTotalWithdraw : ℤ
  nonce : ℕ
  withdrawsPending : Dict ℤ WithdrawState

namespace WithdrawRecord

/-- the record of the end `e` of a channel, where `o` is the other end -/
def ofEnd (c : NettingChannelState) (e o : NettingChannelEndState) : WithdrawRecord where
  canonicalIdentifier := c.canonicalIdentifier
  address := e.address
  peer := o.address
  limit := getMaxWithdrawAmount e o
  onchainTotalWithdraw := e.onchainTotalWithdraw
  peerTotalWithdraw := o.onchainTotalWithdraw
  nonce := e.nonce
  withdrawsPending := e.withdrawsPending

def totalWithdraw (r : WithdrawRecord) : ℤ := max r.withdrawsPending.maxKey r.onchainTotalWithdraw

/-- what a message changes in the record of its sender -/
def effect (r : WithdrawRecord) : WithdrawMessage → WithdrawRecord
  | .request m => { r with
      nonce := m.nonce
      withdrawsPending := r.withdrawsPending.set m.totalWithdraw ⟨m.totalWithdraw, m.expiration, m.nonce⟩ }
  | .confirmation m => { r with nonce := m.nonce }
  | .expired m => { r with nonce := m.nonce, withdrawsPending := r.withdrawsPending.erase m.totalWithdraw }

/-- what an honest sender with this record sends -/
def Sends (env : Env) (r : WithdrawRecord) : WithdrawMessage → Prop
  | .request m => m.sender = r.address ∧ m.participant = r.address ∧ m.canonicalIdentifier = r.canonicalIdentifier ∧
      m.nonce = r.nonce + 1 ∧ r.totalWithdraw < m.totalWithdraw ∧ (m.totalWithdraw : ℤ) ≤ r.limit ∧
      m.coopSettle = false ∧
      isValidWithdraw env m.canonicalIdentifier m.participant m.totalWithdraw m.expiration m.signature m.sender =
        .ok (.ok ())
  | .confirmation m => m.sender = r.address ∧ m.participant = r.peer ∧ m.canonicalIdentifier = r.canonicalIdentifier ∧
      m.nonce = r.nonce + 1 ∧ r.peerTotalWithdraw < m.totalWithdraw ∧ 0 < m.totalWithdraw ∧
      isValidWithdraw env m.canonicalIdentifier m.participant m.totalWithdraw m.expiration m.signature m.sender =
        .ok (.ok ())
  | .expired m => m.sender = r.address ∧ m.canonicalIdentifier = r.canonicalIdentifier ∧ m.nonce = r.nonce + 1 ∧
      ∃ w, r.withdrawsPending.get? m.totalWithdraw = some w ∧ w.totalWithdraw = m.totalWithdraw ∧
        w.expiration = m.expiration

end WithdrawRecord

def NettingChannelState.ownRecord (c : NettingChannelState) : WithdrawRecord := .ofEnd c c.ourState c.partnerState

def NettingChannelState.partnerRecord (c : NettingChannelState) : WithdrawRecord := .ofEnd c c.partnerState c.ourState

/-- a record is changed by the sender of a message and repeated by its receiver -/
def withdrawBooks (env : Env) : Bookkeeping (Endpoint env) WithdrawMessage WithdrawRecord where
  own := fun e => e.channel.ownRecord
  view := fun e => e.channel.partnerRecord
  effect := WithdrawRecord.effect
  valid := fun _ => WithdrawRecord.Sends env

/-! ## One node -/

/-- the part of a channel that withdraw messages leave alone -/
def NettingChannelState.terms (c : NettingChannelState) : NettingChannelState :=
  { c with
    ourState := { c.ourState with nonce := 0, withdrawsPending := Dict.empty, withdrawsExpired := [] }
    partnerState := { c.partnerState with nonce := 0, withdrawsPending := Dict.empty, withdrawsExpired := [] } }

/-- an open channel outside of a cooperative settle, with deposits that fit the contract -/
structure Ready {env : Env} (e : Endpoint env) : Prop where
  key : e.key.address = e.channel.ourState.address
  opened : getStatus e.channel = .opened
  ourCoopSettle : e.channel.ourState.initiatedCoopSettle = none
  partnerCoopSettle : e.channel.partnerState.initiatedCoopSettle = none
  deposits : e.channel.ourState.contractBalance + e.channel.partnerState.contractBalance ≤ uint256Max
  sane : Sane env e.channel

section Node

variable {env : Env} {e : Endpoint env} {c c' : NettingChannelState} {m : ReceiveWithdrawConfirmation}

theorem view_of_terms (h : c'.terms = c.terms) : c'.partnerRecord =
    { c.partnerRecord with nonce := c'.partnerState.nonce, withdrawsPending := c'.partnerState.withdrawsPending } := by
  have hrecord := congrArg (fun c : NettingChannelState => { c.partnerRecord with
    nonce := c'.partnerState.nonce, withdrawsPending := c'.partnerState.withdrawsPending }) h
  exact hrecord

theorem status_of_terms (h : c'.terms = c.terms) : getStatus c' = getStatus c := by
  have hstatus := congrArg getStatus h
  exact hstatus

/-- a node whose terms stay stays ready, as long as its channel is sane -/
theorem Ready.next (h : Ready e) (ht : c'.terms = e.channel.terms) (hs : Sane env c') (number : ℕ) (hash : Bytes) :
    Ready (⟨e.key, c', number, hash⟩ : Endpoint env) := by
  have haddress := congrArg (fun c : NettingChannelState => c.ourState.address) ht
  have hour := congrArg (fun c : NettingChannelState => c.ourState.initiatedCoopSettle) ht
  have hpartner := congrArg (fun c : NettingChannelState => c.partnerState.initiatedCoopSettle) ht
  have hdeposits := congrArg
    (fun c : NettingChannelState => c.ourState.contractBalance + c.partnerState.contractBalance) ht
  refine ⟨h.key.trans haddress.symm, (status_of_terms ht).trans h.opened, hour.trans h.ourCoopSettle,
    hpartner.trans h.partnerCoopSettle, ?_, hs⟩
  exact hdeposits.trans_le h.deposits

/-- what a step of a node may do: the view of the other node becomes `view`, and its own record follows its messages -/
structure Moves (e : Endpoint env) (view : WithdrawRecord) (r : Endpoint env × List WithdrawMessage) : Prop where
  ready : Ready r.1
  view_eq : r.1.channel.partnerRecord = view
  own : r.1.channel.ownRecord = runFrom WithdrawRecord.effect e.channel.ownRecord r.2
  sends : Along WithdrawRecord.effect (WithdrawRecord.Sends env) e.channel.ownRecord r.2

theorem Moves.refl (h : Ready e) : Moves e e.channel.partnerRecord (e, []) := ⟨h, rfl, rfl, trivial⟩

/-! ## Withdraws and blocks -/

/-- a step of its own leaves a node as it is, or its handler succeeds with a sane channel -/
theorem apply_moves {stateChange : ChannelStateChange} (h : Ready e)
    (hok : ∀ c' events, handleStateTransitions env e.channel e.blockNumber e.blockHash stateChange = .ok (some c', events) →
      Sane env c' → Moves e e.channel.partnerRecord ({ e with channel := c' }, events.filterMap (withdrawMessage e.key))) :
    Moves e e.channel.partnerRecord (e.apply stateChange) := by
  unfold Endpoint.apply
  cases hst : stateTransition env e.channel stateChange e.blockNumber e.blockHash with
  | error f => exact .refl h
  | ok x =>
    obtain ⟨_ | c', events⟩ := x
    · exact .refl h
    · obtain ⟨hhandled, hsane⟩ := stateTransition_ok_iff.1 hst
      exact hok c' events hhandled hsane

theorem withdraw_moves (hpack : env.PacksWithdraws) (h : Ready e) (total : ℤ) :
    Moves e e.channel.partnerRecord (e.act (.withdraw total)) := by
  refine apply_moves h fun c' events hhandled hsane => ?_
  simp only [handleStateTransitions, handleActionWithdraw] at hhandled
  split at hhandled
  · cases hhandled
    exact .refl h
  rename_i hvalid
  obtain ⟨-, -, hlimit, hmore⟩ := isValidTotalWithdraw_spec hvalid
  have hmore := hmore rfl
  have hpositive : ((total.toNat : ℕ) : ℤ) = total :=
    Int.toNat_of_nonneg ((totalWithdraw_nonneg e.channel.ourState).trans hmore.le)
  rw [sendWithdrawRequest_opened h.opened] at hhandled
  cases hhandled
  refine ⟨h.next ?_ hsane _ _, rfl, ?_, ⟨?_, trivial⟩⟩
  · rfl
  · simp only [filterMap_cons, withdrawMessage, filterMap_nil, runFrom, foldl_cons,
      foldl_nil, WithdrawRecord.effect, hpositive]
    rfl
  · refine ⟨h.key, rfl, rfl, rfl, ?_, ?_, rfl, e.key.isValidWithdraw hpack _ _ _ _⟩
    · rw [hpositive]
      exact hmore
    · rw [hpositive]
      exact hlimit

/-- the loop over the expired withdraws: every message removes one pending withdraw. The induction is on the withdraws
that are left; those are still pending, because the ones before them have other amounts. -/
theorem expireWithdraws_messages (key : SigningKey env) (number : ℕ) (ws : List WithdrawState) (c : NettingChannelState)
    (hkey : key.address = c.ourState.address) (hcoop : c.ourState.initiatedCoopSettle = none)
    (hpending : ∀ w ∈ ws, c.ourState.withdrawsPending.get? w.totalWithdraw = some w ∧ 0 ≤ w.totalWithdraw)
    (hnodup : (ws.map WithdrawState.totalWithdraw).Nodup) :
    (expireWithdraws c number ws).1.terms = c.terms ∧ (expireWithdraws c number ws).1.partnerState = c.partnerState ∧
      (expireWithdraws c number ws).1.ownRecord = runFrom WithdrawRecord.effect c.ownRecord
        ((expireWithdraws c number ws).2.filterMap (withdrawMessage key)) ∧
      Along WithdrawRecord.effect (WithdrawRecord.Sends env) c.ownRecord
        ((expireWithdraws c number ws).2.filterMap (withdrawMessage key)) := by
  induction ws generalizing c with
  | nil => exact ⟨rfl, rfl, rfl, trivial⟩
  | cons w ws ih =>
    unfold expireWithdraws
    split_ifs with hlive
    · exact ⟨rfl, rfl, rfl, trivial⟩
    obtain ⟨hw, hpositive⟩ := hpending w mem_cons_self
    rw [map_cons, nodup_cons] at hnodup
    have hrest : ∀ v ∈ ws, (c.ourState.withdrawsPending.erase w.totalWithdraw).get? v.totalWithdraw = some v ∧
        0 ≤ v.totalWithdraw := by
      intro v hv
      obtain ⟨hget, hnonneg⟩ := hpending v (mem_cons_of_mem w hv)
      have hne : v.totalWithdraw ≠ w.totalWithdraw := fun heq => hnodup.1 (heq ▸ mem_map_of_mem hv)
      exact ⟨(Dict.get?_erase_ne _ hne).trans hget, hnonneg⟩
    obtain ⟨hterms, hpartner, hown, hsends⟩ := ih { c with ourState := expireWithdraw c.ourState w } hkey
      (by simp only [expireWithdraw, hcoop]) hrest hnodup.2
    have hnat : ((w.totalWithdraw.toNat : ℕ) : ℤ) = w.totalWithdraw := Int.toNat_of_nonneg hpositive
    have heffect : ({ c with ourState := expireWithdraw c.ourState w } : NettingChannelState).ownRecord =
        c.ownRecord.effect (.expired ⟨key.address, 0, c.canonicalIdentifier, w.totalWithdraw.toNat, w.expiration,
          getNextNonce c.ourState, c.ourState.address⟩) := by
      simp only [WithdrawRecord.effect, hnat]
      rfl
    rw [heffect] at hown hsends
    refine ⟨hterms.trans ?_, hpartner, hown, ⟨hkey, rfl, rfl, w, ?_, hnat.symm, rfl⟩, hsends⟩
    · simp only [NettingChannelState.terms, expireWithdraw, hcoop]
    · rw [hnat]
      exact hw

/-- the pending withdraws of a sane channel outside of a cooperative settle -/
theorem Ready.pending (h : Ready e) : (∀ w ∈ e.channel.ourState.withdrawsPending.values,
      e.channel.ourState.withdrawsPending.get? w.totalWithdraw = some w ∧ 0 ≤ w.totalWithdraw) ∧
      (e.channel.ourState.withdrawsPending.values.map WithdrawState.totalWithdraw).Nodup := by
  have hkeyed := h.sane.keyed
  have hordered := h.sane.ordered h.ourCoopSettle h.partnerCoopSettle
  constructor
  · intro w hw
    obtain ⟨⟨k, w⟩, hx, rfl⟩ := mem_map.1 hw
    have hk : k = w.totalWithdraw := hkeyed _ hx
    subst hk
    refine ⟨Dict.get?_eq_some.2 hx, le_of_lt ?_⟩
    exact (pairwise_cons.1 hordered).1 _ (mem_map_of_mem hx)
  · have hkeys : e.channel.ourState.withdrawsPending.values.map WithdrawState.totalWithdraw =
        e.channel.ourState.withdrawsPending.keys := by
      rw [Dict.values, Dict.keys, map_map]
      exact map_congr_left fun x hx => (hkeyed x hx).symm
    rw [hkeys]
    exact e.channel.ourState.withdrawsPending.nodup

theorem block_moves (h : Ready e) (number : ℕ) (hash : Bytes) :
    Moves e e.channel.partnerRecord (e.act (.block number hash)) := by
  let e1 : Endpoint env := { e with blockNumber := number, blockHash := hash }
  have h1 : Ready e1 := h.next rfl h.sane _ _
  have hmoves : Moves e1 e1.channel.partnerRecord (e1.apply (.block number hash)) := by
    refine apply_moves h1 fun c' events hhandled hsane => ?_
    obtain ⟨hpending, hnodup⟩ := h1.pending
    obtain ⟨hterms, hpartner, hown, hsends⟩ := expireWithdraws_messages e1.key e1.blockNumber
      e1.channel.ourState.withdrawsPending.values e1.channel h1.key h1.ourCoopSettle hpending hnodup
    obtain ⟨heq, rfl⟩ := handleBlock_opened h1.opened hhandled
    cases heq
    refine ⟨h1.next hterms hsane _ _, ?_, hown, hsends⟩
    rw [eventsForExpiredWithdraws, view_of_terms hterms, hpartner]
    rfl
  exact ⟨hmoves.ready, hmoves.view_eq, hmoves.own, hmoves.sends⟩

theorem act_moves (hpack : env.PacksWithdraws) (h : Ready e) (a : WithdrawAction) :
    Moves e e.channel.partnerRecord (e.act a) := by
  cases a with
  | withdraw total => exact withdraw_moves hpack h total
  | block number hash => exact block_moves h number hash

/-! ## Messages -/

/-- totals within the limits do not overflow -/
theorem Ready.no_overflow (h : Ready e) {our partner : ℤ}
    (hour : our ≤ getMaxWithdrawAmount e.channel.ourState e.channel.partnerState)
    (hpartner : partner ≤ getMaxWithdrawAmount e.channel.partnerState e.channel.ourState) :
    isValidChannelTotalWithdraw (partner + our) = true := by
  have hadd := limits_add e.channel.ourState e.channel.partnerState
  have hdeposits := h.deposits
  rw [isValidChannelTotalWithdraw, decide_eq_true_iff]
  omega

theorem Ready.our_le (h : Ready e) :
    e.channel.ourTotalWithdraw ≤ getMaxWithdrawAmount e.channel.ourState e.channel.partnerState := by
  have hbalance := h.sane.ourBalance
  rw [getBalance_eq_limit] at hbalance
  exact sub_nonneg.1 hbalance

theorem Ready.partner_le (h : Ready e) :
    e.channel.partnerTotalWithdraw ≤ getMaxWithdrawAmount e.channel.partnerState e.channel.ourState := by
  have hbalance := h.sane.partnerBalance
  rw [getBalance_eq_limit] at hbalance
  exact sub_nonneg.1 hbalance

/-- what the partner sends, in terms of the partner's end of the channel -/
theorem sends_request_iff {m : ReceiveWithdrawRequest} : c.partnerRecord.Sends env (.request m) ↔
    m.sender = c.partnerState.address ∧ m.participant = c.partnerState.address ∧
      m.canonicalIdentifier = c.canonicalIdentifier ∧ m.nonce = getNextNonce c.partnerState ∧
      c.partnerTotalWithdraw < m.totalWithdraw ∧
      (m.totalWithdraw : ℤ) ≤ getMaxWithdrawAmount c.partnerState c.ourState ∧ m.coopSettle = false ∧
      isValidWithdraw env m.canonicalIdentifier m.participant m.totalWithdraw m.expiration m.signature m.sender =
        .ok (.ok ()) :=
  Iff.rfl

theorem sends_confirmation_iff : c.partnerRecord.Sends env (.confirmation m) ↔
    m.sender = c.partnerState.address ∧ m.participant = c.ourState.address ∧
      m.canonicalIdentifier = c.canonicalIdentifier ∧ m.nonce = getNextNonce c.partnerState ∧
      c.ourState.onchainTotalWithdraw < m.totalWithdraw ∧ 0 < m.totalWithdraw ∧
      isValidWithdraw env m.canonicalIdentifier m.participant m.totalWithdraw m.expiration m.signature m.sender =
        .ok (.ok ()) :=
  Iff.rfl

theorem sends_expired_iff {m : ReceiveWithdrawExpired} : c.partnerRecord.Sends env (.expired m) ↔
    m.sender = c.partnerState.address ∧ m.canonicalIdentifier = c.canonicalIdentifier ∧
      m.nonce = getNextNonce c.partnerState ∧ ∃ w, c.partnerState.withdrawsPending.get? m.totalWithdraw = some w ∧
        w.totalWithdraw = m.totalWithdraw ∧ w.expiration = m.expiration :=
  Iff.rfl

/-- the message is delivered and accepted: the transition succeeds, its events reject nothing, and the view changes as the
message says -/
def Handles (e : Endpoint env) (m : WithdrawMessage) : Prop :=
  ∃ c' events, stateTransition env e.channel m.stateChange e.blockNumber e.blockHash = .ok (some c', events) ∧
    events.any Event.rejectsWithdraw = false ∧
    Moves e (e.channel.partnerRecord.effect m) ({ e with channel := c' }, events.filterMap (withdrawMessage e.key))

theorem Handles.accepts {m : WithdrawMessage} (h : Handles e m) : e.accepts m = true := by
  obtain ⟨c', events, hst, hevents, -⟩ := h
  rw [Endpoint.accepts, hst]
  simp [hevents]

theorem Handles.moves {m : WithdrawMessage} (h : Handles e m) :
    Moves e (e.channel.partnerRecord.effect m) (e.apply m.stateChange) := by
  obtain ⟨c', events, hst, -, hmoves⟩ := h
  rw [Endpoint.apply, hst]
  exact hmoves

theorem isValidWithdrawRequest_of_sends {m : ReceiveWithdrawRequest} (h : Ready e)
    (hs : e.channel.partnerRecord.Sends env (.request m)) : isValidWithdrawRequest env e.channel m = .ok (.ok ()) := by
  obtain ⟨hsender, hparticipant, hci, hnonce, hmore, hlimit, -, hsignature⟩ := sends_request_iff.1 hs
  have hoverflow := h.no_overflow h.our_le hlimit
  have hmore' : ¬ (m.totalWithdraw : ℤ) - e.channel.partnerTotalWithdraw < 0 := by omega
  have hbalance : ¬ getBalance e.channel.partnerState e.channel.ourState <
      (m.totalWithdraw : ℤ) - e.channel.partnerTotalWithdraw := by
    rw [getBalance_eq_limit, not_lt]
    exact sub_le_sub_right hlimit _
  refine isValidWithdrawRequest_ok_iff.2 ⟨?_, hsignature⟩
  simp only [withdrawRequestError]
  rw [if_neg (not_not.2 hci.symm), if_neg (not_not.2 hparticipant), if_neg (not_not.2 hsender), if_neg hmore',
    if_neg hbalance, if_neg (not_not.2 hnonce), if_neg (Bool.not_eq_false _ ▸ hoverflow)]

theorem request_handled {m : ReceiveWithdrawRequest} (hpack : env.PacksWithdraws) (h : Ready e)
    (hs : e.channel.partnerRecord.Sends env (.request m)) : Handles e (.request m) := by
  have hvalid := isValidWithdrawRequest_of_sends h hs
  obtain ⟨-, -, -, -, hmore, hlimit, hcoop, -⟩ := sends_request_iff.1 hs
  rw [NettingChannelState.partnerTotalWithdraw] at hmore
  have hhandled : handleStateTransitions env e.channel e.blockNumber e.blockHash (.receiveWithdrawRequest m) =
      .ok (some (confirmWithdraw (storeWithdrawRequest e.channel m) m []).1,
        (confirmWithdraw (storeWithdrawRequest e.channel m) m []).2) := by
    have hnone : ¬ ((storeWithdrawRequest e.channel m).ourState.initiatedCoopSettle.isSome = true ∨ m.coopSettle = true) := by
      rw [show (storeWithdrawRequest e.channel m).ourState.initiatedCoopSettle = none from h.ourCoopSettle, hcoop]
      decide
    simp only [handleStateTransitions, handleReceiveWithdrawRequest, hvalid]
    rw [if_neg hnone]
    rfl
  have hsane : Sane env (confirmWithdraw (storeWithdrawRequest e.channel m) m []).1 := by
    refine ⟨h.sane.keyed, h.sane.ordered, h.sane.ourBalance, ?_, h.sane.ourLocks.congr rfl, h.sane.partnerLocks.congr rfl⟩
    have hmax := Dict.maxKey_set_le e.channel.partnerState.withdrawsPending m.totalWithdraw
      ⟨m.totalWithdraw, m.expiration, m.nonce⟩
    rw [getBalance_eq_limit]
    change 0 ≤ getMaxWithdrawAmount e.channel.partnerState e.channel.ourState -
      max (e.channel.partnerState.withdrawsPending.set m.totalWithdraw ⟨m.totalWithdraw, m.expiration, m.nonce⟩).maxKey
        e.channel.partnerState.onchainTotalWithdraw
    simp only [NettingChannelEndState.totalWithdraw, NettingChannelEndState.offchainTotalWithdraw] at hmore
    omega
  refine ⟨_, _, stateTransition_ok_iff.2 ⟨hhandled, hsane⟩, rfl, h.next ?_ hsane _ _, rfl, rfl, ⟨?_, trivial⟩⟩
  · rfl
  · have htotal := totalWithdraw_nonneg e.channel.partnerState
    have honchain : e.channel.partnerState.onchainTotalWithdraw ≤ e.channel.partnerState.totalWithdraw := le_max_right _ _
    refine ⟨h.key, rfl, rfl, rfl, honchain.trans_lt hmore, ?_, e.key.isValidWithdraw hpack _ _ _ _⟩
    exact_mod_cast htotal.trans_lt hmore

/-- the confirmation is for the latest request of its receiver, which is still pending -/
def AnswersLatest (e : Endpoint env) (m : ReceiveWithdrawConfirmation) : Prop :=
  (e.channel.ourState.withdrawsPending.get? m.totalWithdraw).map WithdrawState.expiration = some m.expiration ∧
    (m.totalWithdraw : ℤ) = e.channel.ourState.offchainTotalWithdraw

instance (e : Endpoint env) (m : ReceiveWithdrawConfirmation) : Decidable (AnswersLatest e m) :=
  inferInstanceAs (Decidable (_ ∧ _))

/-- whether a message of an honest partner finds its receiver in a state that accepts it -/
def Fits (e : Endpoint env) : WithdrawMessage → Prop
  | .request _ => True
  | .confirmation m => AnswersLatest e m
  | .expired m => getReceiverExpirationThreshold m.expiration ≤ e.blockNumber

instance (e : Endpoint env) (m : WithdrawMessage) : Decidable (Fits e m) := by
  cases m <;> unfold Fits <;> infer_instance

theorem isValidWithdrawConfirmation_of_latest (h : Ready e)
    (hs : e.channel.partnerRecord.Sends env (.confirmation m)) (hlatest : AnswersLatest e m) :
    isValidWithdrawConfirmation env e.channel m = .ok (.ok ()) := by
  obtain ⟨hsender, hparticipant, hci, hnonce, honchain, -, hsignature⟩ := sends_confirmation_iff.1 hs
  obtain ⟨hpending, htotal⟩ := hlatest
  obtain ⟨w, hw, hexpiration⟩ := Option.map_eq_some_iff.1 hpending
  have hour : (m.totalWithdraw : ℤ) = e.channel.ourTotalWithdraw :=
    htotal.trans (max_eq_left (htotal ▸ honchain.le)).symm
  have hoverflow := h.no_overflow (hour.trans_le h.our_le) h.partner_le
  rw [add_comm] at hoverflow
  refine isValidWithdrawConfirmation_ok_iff.2 ⟨?_, hsignature⟩
  simp only [withdrawConfirmationError, findWithdraw, hw, Option.some_or]
  rw [if_neg (not_not.2 hci.symm), if_neg (not_not.2 hour), if_neg (not_not.2 hnonce), if_neg (not_not.2 hexpiration.symm),
    if_neg (not_not.2 hparticipant), if_neg (not_not.2 hsender), if_neg (Bool.not_eq_false _ ▸ hoverflow)]

/-- the total withdraw is an amount that is pending, so that an expired withdraw is not confirmed -/
theorem latest_of_isValidWithdrawConfirmation (hs : e.channel.partnerRecord.Sends env (.confirmation m))
    (hvalid : isValidWithdrawConfirmation env e.channel m = .ok (.ok ())) : AnswersLatest e m := by
  obtain ⟨-, -, -, -, honchain, hpositive, -⟩ := sends_confirmation_iff.1 hs
  have hchecks := (isValidWithdrawConfirmation_ok_iff.1 hvalid).1
  unfold withdrawConfirmationError at hchecks
  dsimp only at hchecks
  split at hchecks
  · cases hchecks
  rename_i w hw
  split_ifs at hchecks with h1 h2 h3 h4
  have htotal : (m.totalWithdraw : ℤ) = e.channel.ourState.offchainTotalWithdraw := by
    have hmax := not_not.1 h2
    rw [NettingChannelState.ourTotalWithdraw, NettingChannelEndState.totalWithdraw] at hmax
    rcases max_choice e.channel.ourState.offchainTotalWithdraw e.channel.ourState.onchainTotalWithdraw with hc | hc
    · exact hmax.trans hc
    · exact absurd (hmax.trans hc) honchain.ne'
  have hkey : (m.totalWithdraw : ℤ) ∈ e.channel.ourState.withdrawsPending.keys := by
    have hmax : 0 < e.channel.ourState.offchainTotalWithdraw := htotal ▸ Int.natCast_pos.2 hpositive
    exact htotal ▸ Dict.maxKey_mem hmax
  obtain ⟨v, hv⟩ := Dict.exists_of_mem_keys hkey
  rw [findWithdraw, hv, Option.some_or] at hw
  cases hw
  refine ⟨?_, htotal⟩
  rw [hv, Option.map_some, not_not.1 h4]

theorem confirmation_handled (h : Ready e)
    (hs : e.channel.partnerRecord.Sends env (.confirmation m)) (hlatest : AnswersLatest e m) :
    Handles e (.confirmation m) := by
  have hvalid := isValidWithdrawConfirmation_of_latest h hs hlatest
  let c' : NettingChannelState := { e.channel with partnerState := { e.channel.partnerState with nonce := m.nonce } }
  have hsane : Sane env c' :=
    ⟨h.sane.keyed, h.sane.ordered, h.sane.ourBalance, h.sane.partnerBalance, h.sane.ourLocks.congr rfl,
      h.sane.partnerLocks.congr rfl⟩
  have hevents : ∃ events, confirmationEvents c' m e.blockNumber e.blockHash = .ok (c', events) ∧
      events.any Event.rejectsWithdraw = false ∧ events.filterMap (withdrawMessage e.key) = [] := by
    simp only [confirmationEvents, show c'.ourState.initiatedCoopSettle = none from h.ourCoopSettle,
      show c'.partnerState.initiatedCoopSettle = none from h.partnerCoopSettle]
    split_ifs
    · exact ⟨_, rfl, rfl, rfl⟩
    · exact ⟨_, rfl, rfl, rfl⟩
  obtain ⟨events, hok, hreject, hsilent⟩ := hevents
  have hhandled : handleStateTransitions env e.channel e.blockNumber e.blockHash (.receiveWithdrawConfirmation m) =
      .ok (some c', .sendProcessed c'.partnerState.address m.messageIdentifier :: events) := by
    simp only [handleStateTransitions, handleReceiveWithdrawConfirmation, hvalid]
    rw [hok]
    rfl
  refine ⟨c', _, stateTransition_ok_iff.2 ⟨hhandled, hsane⟩, hreject, ?_⟩
  rw [filterMap_cons, show withdrawMessage e.key (.sendProcessed _ _) = none from rfl]
  simp only [hsilent]
  refine ⟨h.next ?_ hsane _ _, rfl, rfl, trivial⟩
  rfl

/-- a withdraw of the partner that is known to have expired -/
theorem expired_handled {m : ReceiveWithdrawExpired} (h : Ready e) (hs : e.channel.partnerRecord.Sends env (.expired m))
    (hblock : getReceiverExpirationThreshold m.expiration ≤ e.blockNumber) : Handles e (.expired m) := by
  obtain ⟨hsender, hci, hnonce, w, hw, htotal, hexpiration⟩ := sends_expired_iff.1 hs
  have hvalid : isValidWithdrawExpired e.channel m w e.blockNumber = .ok () := by
    have hexpired : ¬ isWithdrawExpired e.blockNumber (getReceiverExpirationThreshold w.expiration) = false := by
      rw [hexpiration, isWithdrawExpired, decide_eq_false_iff_not, not_not]
      exact hblock
    simp only [isValidWithdrawExpired]
    rw [if_neg hexpired, if_neg (not_not.2 hci.symm), if_neg (not_not.2 hsender), if_neg (not_not.2 htotal.symm),
      if_neg (not_not.2 hnonce)]
  let c' : NettingChannelState := { e.channel with partnerState := dropWithdraw e.channel.partnerState w m.nonce }
  have hterms : c'.terms = e.channel.terms := by
    simp only [NettingChannelState.terms, c', dropWithdraw, h.partnerCoopSettle]
  have hsane : Sane env c' := by
    refine ⟨h.sane.keyed, fun hour _ => h.sane.ordered hour h.partnerCoopSettle, h.sane.ourBalance, ?_,
      h.sane.ourLocks.congr rfl, h.sane.partnerLocks.congr rfl⟩
    have hpartner := h.sane.partnerBalance
    have hmax : (e.channel.partnerState.withdrawsPending.erase w.totalWithdraw).maxKey ≤
        e.channel.partnerState.withdrawsPending.maxKey :=
      Dict.maxKey_le_of_subset fun k hk => (Dict.mem_keys_erase.1 hk).2
    have hless : c'.partnerState.totalWithdraw ≤ e.channel.partnerState.totalWithdraw := max_le_max_right _ hmax
    rw [getBalance_eq_limit] at hpartner ⊢
    exact hpartner.trans (sub_le_sub_left hless _)
  have hhandled : handleStateTransitions env e.channel e.blockNumber e.blockHash (.receiveWithdrawExpired m) =
      .ok (some c', [.sendProcessed e.channel.partnerState.address m.messageIdentifier]) := by
    simp only [handleStateTransitions, handleReceiveWithdrawExpired, hw, hvalid]
    rfl
  refine ⟨c', _, stateTransition_ok_iff.2 ⟨hhandled, hsane⟩, rfl, h.next hterms hsane _ _, ?_, rfl, trivial⟩
  rw [view_of_terms hterms, WithdrawRecord.effect, ← htotal]
  rfl

/-- a withdraw that has not expired for its receiver is kept -/
theorem expired_rejected {m : ReceiveWithdrawExpired} (hs : e.channel.partnerRecord.Sends env (.expired m))
    (hblock : ¬ getReceiverExpirationThreshold m.expiration ≤ e.blockNumber) : e.accepts (.expired m) = false := by
  obtain ⟨-, -, -, w, hw, -, hexpiration⟩ := sends_expired_iff.1 hs
  have hvalid : isValidWithdrawExpired e.channel m w e.blockNumber =
      .error s!"WithdrawExpired for withdraw that has not yet expired {m.totalWithdraw}." := by
    have hlive : isWithdrawExpired e.blockNumber (getReceiverExpirationThreshold w.expiration) = false := by
      rw [hexpiration, isWithdrawExpired, decide_eq_false_iff_not]
      exact hblock
    simp only [isValidWithdrawExpired]
    rw [if_pos hlive]
  unfold Endpoint.accepts
  split
  · rename_i c' events hst
    have hhandled := (stateTransition_ok_iff.1 hst).1
    simp only [WithdrawMessage.stateChange, handleStateTransitions, handleReceiveWithdrawExpired, hw, hvalid] at hhandled
    cases hhandled
    rfl
  · rfl

/-- a confirmation that is not for the latest pending request is refused -/
theorem confirmation_rejected (hs : e.channel.partnerRecord.Sends env (.confirmation m)) (hold : ¬ AnswersLatest e m) :
    e.accepts (.confirmation m) = false := by
  unfold Endpoint.accepts
  split
  · rename_i c' events hst
    have hhandled := (stateTransition_ok_iff.1 hst).1
    simp only [WithdrawMessage.stateChange, handleStateTransitions, handleReceiveWithdrawConfirmation] at hhandled
    split at hhandled
    · cases hhandled
    · cases hhandled
      rfl
    · exact absurd (latest_of_isValidWithdrawConfirmation hs ‹_›) hold
  · rfl

/-- **Messages.** What an honest partner sends is accepted exactly if it fits the state of its receiver. -/
theorem accepts_iff {m : WithdrawMessage} (hpack : env.PacksWithdraws) (h : Ready e)
    (hs : e.channel.partnerRecord.Sends env m) :
    (e.accepts m = true ↔ Fits e m) ∧ (Fits e m → Handles e m) := by
  have hhandles : Fits e m → Handles e m := by
    intro hfits
    cases m with
    | request m => exact request_handled hpack h hs
    | confirmation m => exact confirmation_handled h hs hfits
    | expired m => exact expired_handled h hs hfits
  refine ⟨⟨fun haccepts => ?_, fun hfits => (hhandles hfits).accepts⟩, hhandles⟩
  by_contra hfits
  cases m with
  | request m => exact hfits trivial
  | confirmation m => exact absurd haccepts (by rw [confirmation_rejected hs hfits]; decide)
  | expired m => exact absurd haccepts (by rw [expired_rejected hs hfits]; decide)

end Node

/-! ## Runs -/

section Runs

variable {env : Env} {d : Duplex (Endpoint env) WithdrawMessage}

/-- one step of the two nodes -/
abbrev withdrawStep (env : Env) :
    Duplex (Endpoint env) WithdrawMessage → DuplexOp WithdrawAction → Duplex (Endpoint env) WithdrawMessage :=
  Duplex.step (withdrawExchange env)

/-- a message that is delivered is accepted -/
def AcceptsDelivery (d : Duplex (Endpoint env) WithdrawMessage) : DuplexOp WithdrawAction → Prop
  | .act _ _ => True
  | .deliver x => ∀ m ∈ (d.inbox x).head?, (d.party x).accepts m = true

/-- a message that is delivered fits the state of its receiver -/
def FitsDelivery (d : Duplex (Endpoint env) WithdrawMessage) : DuplexOp WithdrawAction → Prop
  | .act _ _ => True
  | .deliver x => ∀ m ∈ (d.inbox x).head?, Fits (d.party x) m

/-- with no message on its way, each node has the nonce and the pending withdraws that the other one keeps of it -/
def AgreeWhenQuiet (d : Duplex (Endpoint env) WithdrawMessage) : Prop :=
  d.Quiet → ∀ x, (d.party x).channel.partnerState.nonce = (d.party x.other).channel.ourState.nonce ∧
    (d.party x).channel.partnerState.withdrawsPending = (d.party x.other).channel.ourState.withdrawsPending

/-- both ends of an open channel that know the same of each other, with nothing on its way -/
structure OpenChannel (d : Duplex (Endpoint env) WithdrawMessage) : Prop where
  ready : ∀ x, Ready (d.party x)
  quiet : d.Quiet
  agree : ∀ x, (d.party x).channel.partnerRecord = (d.party x.other).channel.ownRecord

/-- what every step keeps -/
structure Exchanging (d : Duplex (Endpoint env) WithdrawMessage) : Prop where
  ready : ∀ x, Ready (d.party x)
  sync : InSync (withdrawBooks env) d

theorem OpenChannel.exchanging (h : OpenChannel d) : Exchanging d := by
  refine ⟨h.ready, fun x => ?_, fun x => ?_⟩
  · rw [h.quiet.inbox x]
    exact h.agree x
  · rw [h.quiet.inbox x]
    trivial

theorem Exchanging.agree (h : Exchanging d) : AgreeWhenQuiet d := by
  intro hquiet x
  have hview := h.sync.view_eq (hquiet.inbox x)
  exact ⟨congrArg WithdrawRecord.nonce hview, congrArg WithdrawRecord.withdrawsPending hview⟩

theorem Exchanging.accepts_iff (hpack : env.PacksWithdraws) (h : Exchanging d) (op : DuplexOp WithdrawAction) :
    AcceptsDelivery d op ↔ FitsDelivery d op := by
  cases op with
  | act x a => exact Iff.rfl
  | deliver x =>
    refine forall₂_congr fun m hm => ?_
    obtain ⟨q, hq⟩ := head?_eq_some_iff.1 hm
    exact (Client.accepts_iff hpack (h.ready x) (h.sync.head hq)).1

/-- **One step.** The nodes stay in sync as long as the delivered messages fit. -/
theorem Exchanging.step (hpack : env.PacksWithdraws) (h : Exchanging d) (op : DuplexOp WithdrawAction)
    (hfits : FitsDelivery d op) : Exchanging (withdrawStep env d op) := by
  cases op with
  | act x a =>
    have hmoves := act_moves hpack (h.ready x) a
    exact ⟨Duplex.forall_move h.ready _ hmoves.ready, h.sync.act hmoves.view_eq (fun _ _ hv => hv) hmoves.own hmoves.sends⟩
  | deliver x =>
    cases hq : d.inbox x with
    | nil =>
      rw [withdrawStep, Duplex.step_deliver_nil hq]
      exact h
    | cons m q =>
      rw [withdrawStep, Duplex.step_deliver_cons hq]
      have hfit : Fits (d.party x) m := hfits m (by rw [hq]; rfl)
      have hmoves := ((Client.accepts_iff hpack (h.ready x) (h.sync.head hq)).2 hfit).moves
      exact ⟨Duplex.forall_move h.ready _ hmoves.ready,
        h.sync.deliver hq hmoves.view_eq (fun _ _ hv => hv) hmoves.own hmoves.sends⟩

/-- **Withdraw messages.** With a contracts package that packs withdraws, from every open channel and for every order of
withdraws, blocks and deliveries: all messages are accepted and the nodes agree whenever no message is on its way, exactly if
every confirmation is delivered while the request that it answers is the latest one of its receiver and still pending, and
every expiration after its receiver has seen enough blocks. -/
theorem withdraws_agree_iff (hpack : env.PacksWithdraws) (h : OpenChannel d) (ops : List (DuplexOp WithdrawAction)) :
    Along (withdrawStep env) (fun d op => AcceptsDelivery d op ∧ AgreeWhenQuiet (withdrawStep env d op)) d ops ↔
      Along (withdrawStep env) FitsDelivery d ops := by
  refine along_iff_of_invariant (withdrawStep env) (P := Exchanging) (fun d op hd => ?_) (fun d op hd hfits => ?_)
    h.exchanging
  · rw [hd.accepts_iff hpack op]
    exact ⟨fun hboth => hboth.1, fun hfits => ⟨hfits, (hd.step hpack op hfits).agree⟩⟩
  · exact hd.step hpack op hfits

end Runs

/-! ## A sample exchange -/

instance {env : Env} (d : Duplex (Endpoint env) WithdrawMessage) (op : DuplexOp WithdrawAction) :
    Decidable (AcceptsDelivery d op) := by
  cases op <;> unfold AcceptsDelivery <;> infer_instance

instance {env : Env} (d : Duplex (Endpoint env) WithdrawMessage) (op : DuplexOp WithdrawAction) :
    Decidable (FitsDelivery d op) := by
  cases op <;> unfold FitsDelivery <;> infer_instance

def sampleNodes : Duplex (Endpoint sampleEnv) WithdrawMessage where
  party := fun x => match x with
    | .left => sampleEndpoint 1 2
    | .right => sampleEndpoint 2 1
  inbox := fun _ => []

theorem sampleNodes_open : OpenChannel sampleNodes where
  ready := by
    intro x
    cases x
    · exact ⟨rfl, rfl, rfl, rfl, by decide, sanityCheck_ok_iff.1 (by decide +kernel)⟩
    · exact ⟨rfl, rfl, rfl, rfl, by decide, sanityCheck_ok_iff.1 (by decide +kernel)⟩
  quiet := ⟨rfl, rfl⟩
  agree := by
    intro x
    cases x <;> rfl

/-- a withdraw that is requested, confirmed and expired on both sides -/
theorem withdraw_exchanged : Along (withdrawStep sampleEnv)
    (fun d op => AcceptsDelivery d op ∧ AgreeWhenQuiet (withdrawStep sampleEnv d op)) sampleNodes
    [.act .left (.withdraw 10), .deliver .right, .deliver .left, .act .left (.block 120 []), .act .right (.block 110 []),
      .deliver .right] :=
  (withdraws_agree_iff sampleEnv_packs sampleNodes_open _).2 (by decide +kernel)

/-- **Late confirmations are rejected.** The left node asks to withdraw 10 and, before the answer is there, to withdraw 20.
The right node accepts both requests, but the left node rejects the confirmation of 10 because its total withdraw is 20,
and then that of 20 because of its nonce. With no message on its way the left node expects nonce 1 of a node that has sent
two messages. The same happens to a single request that has expired when the confirmation arrives. -/
theorem overlapping_withdraws_rejected : sampleEnv.PacksWithdraws ∧
    ¬ AcceptsDelivery (runFrom (withdrawStep sampleEnv) sampleNodes [.act .left (.withdraw 10), .act .left (.withdraw 20),
        .deliver .right, .deliver .right]) (.deliver .left) ∧
      (let d := runFrom (withdrawStep sampleEnv) sampleNodes [.act .left (.withdraw 10), .act .left (.withdraw 20),
        .deliver .right, .deliver .right, .deliver .left, .deliver .left]
      d.Quiet ∧ (d.party .left).channel.partnerState.nonce = 0 ∧ (d.party .right).channel.ourState.nonce = 2) ∧
      ¬ AcceptsDelivery (runFrom (withdrawStep sampleEnv) sampleNodes [.act .left (.withdraw 10), .deliver .right,
        .act .left (.block 120 [])]) (.deliver .left) := by
  refine ⟨sampleEnv_packs, by decide +kernel, ⟨⟨?_, ?_⟩, by decide +kernel, by decide +kernel⟩, by decide +kernel⟩
  · exact isEmpty_iff.1 (by decide +kernel)
  · exact isEmpty_iff.1 (by decide +kernel)

end Gatecoin.Client
