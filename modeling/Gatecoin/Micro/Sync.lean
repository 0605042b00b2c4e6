/-
What the microcoin manager knows of the confirmed chain.

The claim of the poller is that its confirmed head never moves back and that it hands every confirmed log to the manager once;
then the deposit of an open channel is its deposit on the confirmed chain, and no payment above it is accepted. The handlers
are not idempotent: a top up that is handed twice is added twice.

Two things break it. After a reorganisation the unconfirmed head is reset to the confirmed one, and the new confirmed head is
computed from the new height alone. When the new chain is less than `n_confirmations` above the confirmed head, the confirmed
head moves back, and the blocks above it are handed again. And an exception in the middle of an update, such as the connection
error that the polling loop catches, leaves the heads where they were after some of the logs have been handed.

A close request is not handed at all when its channel is settled in the same update: settlements are read first.

- `handleLogs_books`: the logs of an update, dealt with kind by kind, keep the books of the manager in line with the chain.
- `confirmed_sync`: the heads only move up, every confirmed log has been handed once, and the deposits are those of the chain.
- `shorter_chain_is_handed_again`: a reorganisation of depth `n_confirmations` to a shorter chain breaks all of it.
-/
import Gatecoin.Core.Run
import Gatecoin.Micro.Poller

namespace Gatecoin.Micro.Poller

open Gatecoin.Core
open Contracts (Address)
open Gatecoin.Micro.Manager (Key State Env TxOutcome Exn Outcome Channel Allowed Change Changes confirmedChannel_some)
open Manager Node List Dict

/-! ## The books of the manager -/

/-- the deposit of a confirmed channel, and whether it is closed -/
def entry (s : State) (key : Key) : Option (ℕ × Bool) := (s.confirmedChannel key).map fun c => (c.deposit, c.isClosed)

/-- a channel with payments has a balance proof -/
def Signed (s : State) : Prop :=
  ∀ key c, s.channels.get? key = some c → 0 < c.balance → c.lastSignature.isSome = true

/-- no entry is new, forgotten or has another deposit, and no closed one is open -/
structure Quiet (s s' : State) : Prop where
  entries : ∀ key, Option.Rel (fun e' e => e'.1 = e.1 ∧ (e'.2 = false → e.2 = false)) (entry s' key) (entry s key)
  signed : Signed s → Signed s'

/-- the channels are those on the chain, and an open one has the deposit it has there -/
structure Books (s : State) (deposits : Key → Option ℕ) : Prop where
  entries : ∀ key, Option.Rel (fun e d => e.2 = false → e.1 = d) (entry s key) (deposits key)
  signed : Signed s

section Entries

variable {env : Env} {s s' s'' : State} {key k : Key} {c c' : Channel} {d : ℕ} {closed : Bool} {a : Allowed} {deposit : ℕ}
  {txhash : String} {amount : ℕ} {deposits deposits' : Key → Option ℕ} {e : Option (ℕ × Bool)} {x : Option ℕ}

theorem entry_some : entry s key = some (d, closed) ↔
    ∃ c, s.channels.get? key = some c ∧ c.confirmed = true ∧ c.deposit = d ∧ c.isClosed = closed := by
  unfold entry
  rw [Option.map_eq_some_iff]
  simp only [confirmedChannel_some, Prod.mk.injEq, and_assoc]

theorem entry_of_confirmed (h : s.confirmedChannel key = some c) : entry s key = some (c.deposit, c.isClosed) := by
  rw [entry, h]
  rfl

theorem entry_congr (h : s'.channels.get? key = s.channels.get? key) : entry s' key = entry s key := by
  unfold entry State.confirmedChannel
  rw [h]

theorem entry_set (h : s'.channels = s.channels.set key c) :
    entry s' = Function.update (entry s) key (if c.confirmed then some (c.deposit, c.isClosed) else none) := by
  funext k
  rw [Function.update_apply]
  split_ifs with hk hc
  · exact entry_some.2 ⟨c, by rw [h, hk, get?_set_self], hc, rfl, rfl⟩
  · unfold entry State.confirmedChannel
    rw [h, hk, get?_set_self, Option.filter_some_neg (by simpa using hc)]
    rfl
  · exact entry_congr (by rw [h, get?_set_ne _ _ hk])

theorem entry_delete : entry (s.delete key) = Function.update (entry s) key none := by
  funext k
  rw [Function.update_apply]
  split_ifs with hk
  · unfold entry State.confirmedChannel
    rw [hk, show (s.delete key).channels = s.channels.erase key from rfl, get?_erase_self]
    rfl
  · exact entry_congr (get?_erase_ne _ hk)

theorem Signed.write (hs : Signed s) (h : s'.channels = s.channels.set key c)
    (hc : 0 < c.balance → c.lastSignature.isSome = true) : Signed s' := by
  intro k c' hget
  rw [h, get?_set] at hget
  split_ifs at hget with hkey
  · obtain rfl := Option.some.inj hget
    exact hc
  · exact hs k c' hget

theorem change_signed (h : Change env a s s') (hs : Signed s) : Signed s' := by
  cases h with
  | created => exact hs.write rfl fun hpos => absurd hpos (by simp [Channel.new])
  | topups key c _ hc | toppedUp key c _ _ _ hc | closed key c _ _ hc => exact hs.write rfl fun hpos => hs key c hc hpos
  | restored key c _ hc => exact hs.write rfl fun hpos => hs key { c with state := .closed } hc hpos
  | paid | served => exact hs.write rfl fun _ => rfl
  | signed => exact hs
  | deleted key hknown =>
    intro k c hget
    rw [show (s.delete key).channels = s.channels.erase key from rfl, get?_erase] at hget
    split_ifs at hget
    exact hs k c hget

theorem changes_signed (h : Changes env a s s') (hs : Signed s) : Signed s' := by
  induction h with
  | refl => exact hs
  | tail _ hchange ih => exact change_signed hchange ih

theorem step_signed (env : Env) (i : Manager.Input) (hs : Signed s) : Signed (Manager.step env s i) :=
  changes_signed (step_changes env s i) hs

theorem rel_comp {α β γ : Type} {r : α → β → Prop} {q : β → γ → Prop} {u : α → γ → Prop} {x : Option α} {y : Option β}
    {z : Option γ} (hu : ∀ a b c, r a b → q b c → u a c) (h : Option.Rel r x y) (h' : Option.Rel q y z) :
    Option.Rel u x z := by
  cases h with
  | none => cases h'; exact .none
  | some h => cases h' with | some h' => exact .some (hu _ _ _ h h')

theorem Quiet.of_entry (hentry : entry s' = entry s) (hsigned : Signed s → Signed s') : Quiet s s' := by
  refine ⟨fun key => ?_, hsigned⟩
  rw [hentry]
  cases entry s key with
  | none => exact .none
  | some e => exact .some ⟨rfl, id⟩

theorem Quiet.refl (s : State) : Quiet s s := .of_entry rfl id

theorem Quiet.trans (h : Quiet s s') (h' : Quiet s' s'') : Quiet s s'' :=
  ⟨fun key => rel_comp (fun _ _ _ h₁ h₂ => ⟨h₁.1.trans h₂.1, h₂.2 ∘ h₁.2⟩) (h'.entries key) (h.entries key),
    h'.signed ∘ h.signed⟩

theorem Quiet.books (h : Quiet s s') (hs : Books s deposits) : Books s' deposits :=
  ⟨fun key => rel_comp (fun _ _ _ h₁ h₂ hopen => h₁.1.trans (h₂ (h₁.2 hopen))) (h.entries key) (hs.entries key),
    h.signed hs.signed⟩

/-- a write that keeps the deposit and does not open the channel -/
theorem Quiet.write (hc : s.channels.get? key = some c) (hconfirmed : c.confirmed = true)
    (h : s'.channels = s.channels.set key c') (hconfirmed' : c'.confirmed = true) (hdeposit : c'.deposit = c.deposit)
    (hclosed : c'.isClosed = false → c.isClosed = false) (hsigned : Signed s → Signed s') : Quiet s s' := by
  refine ⟨fun k => ?_, hsigned⟩
  rw [entry_set h, if_pos hconfirmed', Function.update_apply]
  split_ifs with hk
  · rw [hk, entry_of_confirmed (confirmedChannel_some.2 ⟨hc, hconfirmed⟩)]
    exact .some ⟨hdeposit, hclosed⟩
  · exact (Quiet.refl s).entries k

/-- **One write.** Only the events of the chain store a channel or a higher deposit or forget a channel, and only a challenge
opens a closed one. -/
theorem change_quiet (h : Change env a s s') (hstale : ¬ a.stale) (hfunding : ¬ a.funding)
    (hsettled : ∀ key, ¬ a.settled key) : Quiet s s' := by
  have hsigned := change_signed h
  cases h with
  | created _ _ _ hf | toppedUp _ _ _ _ hf => exact absurd hf hfunding
  | topups _ _ _ hc hconfirmed | paid _ _ _ _ _ hc hconfirmed | served _ _ _ _ hc hconfirmed =>
    exact .write hc hconfirmed rfl hconfirmed rfl id hsigned
  | signed => exact .of_entry rfl hsigned
  | closed key c state timeout hc hconfirmed hclosed =>
    refine .write hc hconfirmed rfl hconfirmed rfl (fun hopen => absurd hopen ?_) hsigned
    rcases hclosed with rfl | rfl <;> simp [Channel.isClosed]
  | restored key c hopen hc hconfirmed =>
    exact .write hc hconfirmed rfl hconfirmed rfl (fun hclosed => absurd (hopen hclosed) hstale) hsigned
  | deleted key hknown =>
    refine .of_entry ?_ hsigned
    rw [entry_delete, Function.update_eq_self_iff, eq_comm, entry, Option.map_eq_none_iff, Option.eq_none_iff_forall_ne_some]
    intro c hc
    obtain ⟨hget, hconfirmed⟩ := confirmedChannel_some.1 hc
    exact hsettled key (hknown c hget hconfirmed)

theorem changes_quiet (h : Changes env a s s') (hstale : ¬ a.stale) (hfunding : ¬ a.funding)
    (hsettled : ∀ key, ¬ a.settled key) : Quiet s s' := by
  induction h with
  | refl => exact Quiet.refl s
  | tail _ hchange ih => exact ih.trans (change_quiet hchange hstale hfunding hsettled)

/-- neither stale objects nor new deposits nor settlements -/
def quietly : Allowed := ⟨False, False, fun _ => False, False⟩

theorem quietly_quiet (h : Changes env quietly s s') : Quiet s s' := changes_quiet h id id fun _ => id

/-! Events of the chain -/

theorem Books.known (h : Books s deposits) (hkey : (deposits key).isSome = true) : ∃ c, s.confirmedChannel key = some c := by
  have hentry := h.entries key
  generalize he : entry s key = e at hentry
  generalize deposits key = x at hentry hkey
  cases hentry with
  | none => cases hkey
  | some => exact (Option.map_eq_some_iff.1 he).imp fun _ hc => hc.1

theorem Books.unknown (h : Books s deposits) (hkey : deposits key = none) : s.confirmedChannel key = none := by
  have hentry := h.entries key
  rw [hkey] at hentry
  generalize he : entry s key = e at hentry
  cases hentry
  exact Option.map_eq_none_iff.1 he

/-- the entry and the deposit of one channel are written -/
theorem Books.write (h : Books s deposits) (hentry : entry s' = Function.update (entry s) key e)
    (hrel : Option.Rel (fun e d => e.2 = false → e.1 = d) e x) (hsigned : Signed s') :
    Books s' (Function.update deposits key x) := by
  refine ⟨fun k => ?_, hsigned⟩
  rw [hentry, Function.update_apply, Function.update_apply]
  split_ifs
  · exact hrel
  · exact h.entries k

theorem unconfirmedOpened_books (h : Books s deposits) (hblock : 0 < key.2) :
    (unconfirmedEventChannelOpened s key deposit).2 = .ok () ∧
      Books (unconfirmedEventChannelOpened s key deposit).1 deposits := by
  have hsigned : Signed (unconfirmedEventChannelOpened s key deposit).1 :=
    step_signed sampleEnv (.unconfirmedOpened key deposit) h.signed
  revert hsigned
  unfold unconfirmedEventChannelOpened
  rw [if_neg hblock.ne']
  cases hc : s.channels.get? key with
  | some c => exact fun _ => ⟨rfl, h⟩
  | none =>
    have habsent : entry s key = none := by
      rw [entry, State.confirmedChannel, hc]
      rfl
    refine fun hsigned => ⟨rfl, Quiet.books (.of_entry ?_ fun _ => hsigned) h⟩
    rw [entry_set rfl, Function.update_eq_self_iff, habsent]
    rfl

theorem unconfirmedTopup_books (h : Books s deposits) (hkey : (deposits key).isSome = true) :
    (unconfirmedEventChannelTopup s key txhash amount).2 = .ok () ∧
      Books (unconfirmedEventChannelTopup s key txhash amount).1 deposits := by
  have hsigned : Signed (unconfirmedEventChannelTopup s key txhash amount).1 :=
    step_signed sampleEnv (.unconfirmedTopup key txhash amount) h.signed
  obtain ⟨c, hc⟩ := h.known hkey
  obtain ⟨hget, hconfirmed⟩ := confirmedChannel_some.1 hc
  revert hsigned
  rw [unconfirmedEventChannelTopup, hc]
  exact fun hsigned => ⟨rfl, Quiet.books (.write hget hconfirmed rfl hconfirmed rfl id fun _ => hsigned) h⟩

theorem opened_books (h : Books s deposits) (hblock : 0 < key.2) (hnew : deposits key = none) :
    (eventChannelOpened s key deposit).2 = .ok () ∧
      Books (eventChannelOpened s key deposit).1 (Function.update deposits key (some deposit)) := by
  have hsigned : Signed (eventChannelOpened s key deposit).1 := step_signed sampleEnv (.opened key deposit) h.signed
  revert hsigned
  rw [eventChannelOpened, h.unknown hnew]
  dsimp only
  rw [if_neg hblock.ne']
  exact fun hsigned => ⟨rfl, h.write (entry_set rfl) (.some fun _ => rfl) hsigned⟩

theorem topup_books (h : Books s deposits) (hd : deposits key = some d) :
    (eventChannelTopup s key txhash amount).2 = .ok () ∧
      Books (eventChannelTopup s key txhash amount).1 (Function.update deposits key (some (d + amount))) := by
  have hsigned : Signed (eventChannelTopup s key txhash amount).1 := step_signed sampleEnv (.topup key txhash amount) h.signed
  obtain ⟨c, hc⟩ := h.known (by rw [hd]; rfl)
  have hrel := h.entries key
  rw [entry_of_confirmed hc, hd, Option.rel_some_some] at hrel
  revert hsigned
  rw [eventChannelTopup, hc]
  dsimp only
  split_ifs with hclosed
  · refine fun hsigned => ⟨rfl, h.write (e := some (c.deposit, c.isClosed)) ?_ (.some fun hopen => ?_) hsigned⟩
    · rw [eq_comm, Function.update_eq_self_iff, entry_of_confirmed hc]
    · exact absurd hopen (by simp [hclosed])
  · refine fun hsigned => ⟨rfl, h.write (entry_set rfl) ?_ hsigned⟩
    rw [(confirmedChannel_some.1 hc).2]
    exact .some fun hopen => congrArg (· + amount) (hrel hopen)

theorem settled_books (h : Books s deposits) (hkey : (deposits key).isSome = true) :
    (eventChannelSettled s key).2 = .ok () ∧ Books (eventChannelSettled s key).1 (Function.update deposits key none) := by
  have hsigned : Signed (eventChannelSettled s key).1 := step_signed sampleEnv (.settled key) h.signed
  obtain ⟨c, hc⟩ := h.known hkey
  revert hsigned
  rw [eventChannelSettled, (confirmedChannel_some.1 hc).1]
  exact fun hsigned => ⟨rfl, h.write entry_delete .none hsigned⟩

/-- the challenge stores the channel as it was -/
theorem closeRequested_quiet (env : Env) (s : State) (key : Key) (balance timeout : ℕ) (tx : TxOutcome) :
    Quiet s (eventChannelCloseRequested env s key balance timeout tx).1 := by
  have hsigned : Signed s → Signed (eventChannelCloseRequested env s key balance timeout tx).1 :=
    step_signed env (.closeRequested key balance timeout tx)
  revert hsigned
  unfold eventChannelCloseRequested
  cases hc : s.confirmedChannel key with
  | none => exact fun _ => Quiet.refl s
  | some c =>
    obtain ⟨hget, hconfirmed⟩ := confirmedChannel_some.1 hc
    dsimp only
    split_ifs
    · have hclose : Quiet s _ := quietly_quiet (closeChannel_changes env s key tx)
      split
      · rename_i s' heq
        obtain ⟨-, -, rfl⟩ := closeChannel_ok heq hc
        exact fun hsigned => .write hget hconfirmed (set_set s.channels key _ c) hconfirmed rfl id hsigned
      · exact fun _ => hclose
    · exact fun hsigned => .write hget hconfirmed rfl rfl rfl (fun hopen => absurd hopen (by simp [Channel.isClosed])) hsigned

theorem catchInsufficientBalance_fst (outcome : Outcome Unit) : (catchInsufficientBalance outcome).1 = outcome.1 := by
  unfold catchInsufficientBalance
  split <;> rfl

/-- a close request raises nothing if the transaction of the challenge is sent or the receiver has no ether for it -/
theorem closeRequested_ok {balance timeout : ℕ} {tx : TxOutcome} (hs : Signed s)
    (htx : tx = .sent ∨ tx = .insufficientBalance) :
    (catchInsufficientBalance (eventChannelCloseRequested env s key balance timeout tx)).2 = .ok () := by
  unfold eventChannelCloseRequested
  cases hc : s.confirmedChannel key with
  | none => rfl
  | some c =>
    dsimp only
    split_ifs with hless
    · have hproof : c.lastSignature.isNone = false := by
        have hsome := hs key c (confirmedChannel_some.1 hc).1 (by omega)
        rwa [← Option.not_isSome, Bool.not_eq_false']
      have hclose : closeChannel env s key tx = sendClose env s key c tx := by
        rw [closeChannel, hc]
        simp [hproof]
      rw [hclose]
      obtain rfl | rfl := htx <;> rfl
    · rfl

theorem forceClose_ok (hc : s.confirmedChannel key = some c) : (forceCloseChannel env s key .sent).2 = .ok () := by
  have hclose : closeChannel env s key .sent = (if c.lastSignature.isNone then
      (s, .error (.noBalanceProofReceived "Cannot close a channel without a balance proof."))
    else sendClose env s key c .sent) := by
    rw [closeChannel, hc]
  unfold forceCloseChannel
  rw [hclose]
  split_ifs
  · dsimp only
    rw [hc]
  · rfl

end Entries

/-! ## The steps of an update -/

section Stages

variable {env : Env} {p : Poll} {node : Node} {log : Log} {logs : List Log} {handler : State → Outcome Unit}
  {deposits deposits' : Key → Option ℕ} {Q : Unit → Node → Prop}

/-- the queries for the close requests of the logs are answered, the transactions are sent, and no channel with a close request
is settled by the same logs; only for a challenge the receiver may have no ether -/
def Answered (p : Poll) (logs : List Log) : Prop :=
  ∀ log ∈ logs, log.event.kind = .closeRequested → p.info log.key ≠ .connectionError ∧
    (p.tx log.key = .sent ∨ p.tx log.key = .insufficientBalance ∧ p.info log.key ≠ .badFunctionCallOutput) ∧
    ∀ log' ∈ logs, log'.event.kind = .settled → log'.key ≠ log.key

theorem Answered.mono {logs' : List Log} (h : Answered p logs') (hsub : ∀ log ∈ logs, log ∈ logs') : Answered p logs := by
  intro log hlog hkind
  obtain ⟨hinfo, htx, hunsettled⟩ := h log (hsub log hlog) hkind
  exact ⟨hinfo, htx, fun log' hlog' => hunsettled log' (hsub log' hlog')⟩

theorem call_achieves (hok : (handler node.manager).2 = .ok ())
    (hQ : Q () { node with manager := (handler node.manager).1 }) : Achieves (call handler) node Q := by
  refine achieves_get_bind (achieves_set_bind ?_)
  rw [hok]
  exact achieves_pure hQ

/-- the log has been handed over, and the books are those after it -/
def HandedOver (node : Node) (log : Log) (deposits' : Key → Option ℕ) (node' : Node) : Prop :=
  node'.handed = node.handed ++ [log] ∧ Books node'.manager deposits'

theorem hand_call_achieves (h : (handler node.manager).2 = .ok () ∧ Books (handler node.manager).1 deposits') :
    Achieves (do hand log; call handler) node fun _ => HandedOver node log deposits' := by
  refine (achieves_modify (P := fun _ node₁ => node₁ = { node with handed := node.handed ++ [log] }) rfl).bind ?_
  rintro _ _ rfl
  exact call_achieves h.1 ⟨rfl, h.2⟩

/-- **One log.** What the chain does with a confirmed log the manager does as well. -/
theorem created_achieves (hkind : log.event.kind = .created) (hblock : 0 < log.blockNumber) (h : Books node.manager deposits)
    (hstep : chainStep deposits log = some deposits') : Achieves (created log) node fun _ => HandedOver node log deposits' := by
  obtain ⟨sender, deposit, hevent⟩ := ChainLog.of_created hkind
  obtain ⟨x, hx, rfl⟩ := chainStep_eq.1 hstep
  have hkey : 0 < log.key.2 := by rw [Log.key, hevent]; exact hblock
  rw [hevent] at hx
  rw [created, hevent]
  cases hd : deposits log.key <;> rw [hd] at hx <;> cases hx
  exact hand_call_achieves (opened_books h hkey hd)

theorem toppedUp_achieves (hkind : log.event.kind = .toppedUp) (h : Books node.manager deposits)
    (hstep : chainStep deposits log = some deposits') :
    Achieves (toppedUp log) node fun _ => HandedOver node log deposits' := by
  obtain ⟨sender, number, txhash, amount, hevent⟩ := ChainLog.of_toppedUp hkind
  obtain ⟨x, hx, rfl⟩ := chainStep_eq.1 hstep
  rw [hevent] at hx
  rw [toppedUp, hevent]
  cases hd : deposits log.key <;> rw [hd] at hx <;> cases hx
  exact hand_call_achieves (topup_books h hd)

theorem settled_achieves (hkind : log.event.kind = .settled) (h : Books node.manager deposits)
    (hstep : chainStep deposits log = some deposits') : Achieves (settled log) node fun _ => HandedOver node log deposits' := by
  obtain ⟨sender, number, hevent⟩ := ChainLog.of_settled hkind
  obtain ⟨x, hx, rfl⟩ := chainStep_eq.1 hstep
  rw [hevent] at hx
  rw [settled, hevent]
  cases hd : deposits log.key <;> rw [hd] at hx <;> cases hx
  exact hand_call_achieves (settled_books h (by rw [hd]; rfl))

theorem closeRequested_achieves (hkind : log.event.kind = .closeRequested) (hinfo : p.info log.key ≠ .connectionError)
    (htx : p.tx log.key = .sent ∨ p.tx log.key = .insufficientBalance ∧ p.info log.key ≠ .badFunctionCallOutput)
    (h : Books node.manager deposits) (hstep : chainStep deposits log = some deposits') :
    Achieves (closeRequested env p log) node fun _ => HandedOver node log deposits' := by
  obtain ⟨sender, number, balance, hevent⟩ := ChainLog.of_closeRequested hkind
  obtain ⟨x, hx, rfl⟩ := chainStep_eq.1 hstep
  rw [hevent] at hx
  rw [closeRequested, hevent]
  cases hd : deposits log.key <;> rw [hd] at hx <;> cases hx
  obtain ⟨c, hc⟩ := h.known (by rw [hd]; rfl : (deposits log.key).isSome = true)
  rw [← hd, Function.update_eq_self]
  refine achieves_get_bind ?_
  rw [if_neg (by simp [hc])]
  cases hanswer : p.info log.key with
  | connectionError => exact absurd hanswer hinfo
  | badFunctionCallOutput =>
    have hclose := quietly_quiet (forceCloseChannel_changes env node.manager log.key .sent)
    rw [htx.resolve_right fun h => h.2 hanswer]
    exact hand_call_achieves ⟨forceClose_ok hc, hclose.books h⟩
  | timeout timeout =>
    have hclose := closeRequested_quiet env node.manager log.key balance timeout (p.tx log.key)
    rw [← catchInsufficientBalance_fst] at hclose
    exact hand_call_achieves ⟨closeRequested_ok h.signed (htx.imp_right And.left), hclose.books h⟩

/-- the confirmed logs of one kind -/
theorem confirmed_forM {handle : Log → Update Unit}
    (hlogs : ∀ log ∈ logs, ∀ (node : Node) (deposits deposits' : Key → Option ℕ),
      Books node.manager deposits → chainStep deposits log = some deposits' →
        Achieves (handle log) node fun _ => HandedOver node log deposits')
    (hreplay : replay deposits logs = some deposits') (hbooks : Books node.manager deposits) :
    Achieves (logs.forM handle) node fun _ node' => node'.handed = node.handed ++ logs ∧ Books node'.manager deposits' := by
  refine (Achieves.forM (fun rest node' => (∀ log ∈ rest, log ∈ logs) ∧ node'.handed ++ rest = node.handed ++ logs ∧
    ∃ d, replay d rest = some deposits' ∧ Books node'.manager d) ?_ ⟨fun _ => id, rfl, deposits, hreplay, hbooks⟩).mono ?_
  · rintro log rest node' ⟨hmem, hhanded, d, hreplay, hbooks⟩
    obtain ⟨d₁, hlog, hrest⟩ := replay_cons.1 hreplay
    refine (hlogs log (hmem log mem_cons_self) node' d d₁ hbooks hlog).mono fun _ node₁ h₁ => ?_
    refine ⟨fun l hl => hmem l (mem_cons_of_mem _ hl), ?_, d₁, hrest, h₁.2⟩
    rw [h₁.1, append_assoc]
    exact hhanded
  · rintro _ node' ⟨-, hhanded, d, hreplay, hbooks⟩
    obtain rfl := Option.some.inj hreplay
    exact ⟨(append_nil _).symm.trans hhanded, hbooks⟩

/-- the announcements change no entry and hand nothing over -/
theorem unconfirmed_forM {handle : Log → Update Unit} (hlogs : ∀ log ∈ logs, ∀ node : Node, Books node.manager deposits →
      Achieves (handle log) node fun _ node' => node'.handed = node.handed ∧ Books node'.manager deposits)
    (hbooks : Books node.manager deposits) :
    Achieves (logs.forM handle) node fun _ node' => node'.handed = node.handed ∧ Books node'.manager deposits := by
  refine (Achieves.forM (fun rest node' => (∀ log ∈ rest, log ∈ logs) ∧ node'.handed = node.handed ∧
    Books node'.manager deposits) ?_ ⟨fun _ => id, rfl, hbooks⟩).mono fun _ _ h => h.2
  rintro log rest node' ⟨hmem, hhanded, hbooks⟩
  refine (hlogs log (hmem log mem_cons_self) node' hbooks).mono fun _ node₁ h₁ => ?_
  exact ⟨fun l hl => hmem l (mem_cons_of_mem _ hl), h₁.1.trans hhanded, h₁.2⟩

theorem unconfirmedCreated_achieves (hkind : log.event.kind = .created) (hblock : 0 < log.blockNumber)
    (h : Books node.manager deposits) : Achieves (unconfirmedCreated log) node
      fun _ node' => node'.handed = node.handed ∧ Books node'.manager deposits := by
  obtain ⟨sender, deposit, hevent⟩ := ChainLog.of_created hkind
  have hkey : 0 < log.key.2 := by rw [Log.key, hevent]; exact hblock
  rw [unconfirmedCreated, hevent]
  obtain ⟨hok, hbooks⟩ := unconfirmedOpened_books h hkey
  exact call_achieves hok ⟨rfl, hbooks⟩

theorem unconfirmedToppedUp_achieves (hkind : log.event.kind = .toppedUp) (hkey : (deposits log.key).isSome = true)
    (h : Books node.manager deposits) : Achieves (unconfirmedToppedUp log) node
      fun _ node' => node'.handed = node.handed ∧ Books node'.manager deposits := by
  obtain ⟨sender, number, txhash, amount, hevent⟩ := ChainLog.of_toppedUp hkind
  rw [unconfirmedToppedUp, hevent]
  obtain ⟨hok, hbooks⟩ := unconfirmedTopup_books h hkey
  exact call_achieves hok ⟨rfl, hbooks⟩

theorem getLogs_bind {query : ℕ} {kind : Kind} {f : List Log → Update Unit} (hquery : query < p.answered)
    (h : Achieves (f (ofKind kind logs)) node Q) : Achieves (getLogs p query logs kind >>= f) node Q := by
  rw [getLogs, if_pos hquery]
  exact h

/-- **The logs of an update.** The logs of the two ranges are dealt with, if the queries are answered; then the confirmed ones
have been handed to the manager, and its books follow the chain. -/
theorem handleLogs_books {unconfirmed confirmed : List Log} (hanswered : 5 < p.answered) (hp : Answered p confirmed)
    (hblocks : ∀ log ∈ unconfirmed ++ confirmed, 0 < log.blockNumber)
    (htopups : ∀ log ∈ unconfirmed, log.event.kind = .toppedUp → (deposits log.key).isSome = true ∨ Opened log.key confirmed)
    (hreplay : replay deposits confirmed = some deposits') (honce : NotReopened confirmed)
    (hbooks : Books node.manager deposits) : Achieves (handleLogs env p unconfirmed confirmed) node fun _ node' =>
      node'.handed.Perm (node.handed ++ confirmed) ∧ Books node'.manager deposits' := by
  have hended : confirmed.Pairwise fun a b => a.event.kind = .closeRequested → b.event.kind = .settled → b.key ≠ a.key :=
    pairwise_of_forall_mem_list fun a ha b hb hclose => (hp a ha hclose).2.2 b hb
  obtain ⟨d₃, hreplay, hcloses⟩ := replay_append.1 (replay_byKind honce hended hreplay)
  obtain ⟨d₂, hreplay, hsettles⟩ := replay_append.1 hreplay
  obtain ⟨d₁, hcreates, htops⟩ := replay_append.1 hreplay
  unfold handleLogs
  refine getLogs_bind (by omega) ((unconfirmed_forM (fun log hlog node h => ?_) hbooks).bind fun _ node₁ h₁ => ?_)
  · obtain ⟨hmem, hkind⟩ := mem_ofKind.1 hlog
    exact unconfirmedCreated_achieves hkind (hblocks log (mem_append_left _ hmem)) h
  refine getLogs_bind (by omega) ((confirmed_forM (fun log hlog _ _ _ h hstep => ?_) hcreates h₁.2).bind fun _ node₂ h₂ => ?_)
  · obtain ⟨hmem, hkind⟩ := mem_ofKind.1 hlog
    exact created_achieves hkind (hblocks log (mem_append_right _ hmem)) h hstep
  refine getLogs_bind (by omega) ((unconfirmed_forM (fun log hlog node h => ?_) h₂.2).bind fun _ node₃ h₃ => ?_)
  · obtain ⟨hmem, hkind⟩ := mem_ofKind.1 hlog
    refine unconfirmedToppedUp_achieves hkind (replay_openings hcreates (fun l hl => (mem_ofKind.1 hl).2) ?_) h
    refine (htopups log hmem hkind).imp_right ?_
    rintro ⟨l, hl, hcreated, hkey⟩
    exact ⟨l, mem_ofKind.2 ⟨hl, hcreated⟩, hcreated, hkey⟩
  refine getLogs_bind (by omega) ((confirmed_forM (fun log hlog _ _ _ h hstep => ?_) htops h₃.2).bind fun _ node₄ h₄ => ?_)
  · exact toppedUp_achieves (mem_ofKind.1 hlog).2 h hstep
  refine getLogs_bind (by omega) ((confirmed_forM (fun log hlog _ _ _ h hstep => ?_) hsettles h₄.2).bind fun _ node₅ h₅ => ?_)
  · exact settled_achieves (mem_ofKind.1 hlog).2 h hstep
  refine getLogs_bind (by omega) ((confirmed_forM (fun log hlog _ _ _ h hstep => ?_) hcloses h₅.2).mono fun _ node₆ h₆ => ?_)
  · obtain ⟨hmem, hkind⟩ := mem_ofKind.1 hlog
    obtain ⟨hinfo, htx, -⟩ := hp log hmem hkind
    exact closeRequested_achieves hkind hinfo htx h hstep
  refine ⟨?_, h₆.2⟩
  rw [h₆.1, h₅.1, h₄.1, h₃.1, h₂.1, h₁.1]
  simpa only [byKind, append_assoc] using (byKind_perm confirmed).append_left node.handed

end Stages

/-! ## Runs -/

/-- what the rest of the program calls -/
inductive Api where
  | closeChannel (key : Key) (tx : TxOutcome)
  | forceCloseChannel (key : Key) (tx : TxOutcome)
  | signClose (key : Key) (balance : ℤ)
  | closePendingChannels (tx : Key → TxOutcome)
  | registerPayment (key : Key) (balance : ℕ) (signature : String)
  | request (price : ℕ) (data : RequestData)

def Api.input : Api → Input
  | .closeChannel key tx => .closeChannel key tx
  | .forceCloseChannel key tx => .forceCloseChannel key tx
  | .signClose key balance => .signClose key balance
  | .closePendingChannels tx => .closePendingChannels tx
  | .registerPayment key balance signature => .registerPayment key balance signature
  | .request price data => .request price data

structure World where
  chain : Chain
  node : Node

/-- no block yet -/
def World.new : World := ⟨[], Node.new⟩

inductive Input where
  /-- the chain grows or is reorganized -/
  | chain (chain : Chain)
  | poll (p : Poll)
  | call (api : Api)

def step (cfg : Config) (env : Env) (w : World) : Input → World
  | .chain chain => { w with chain := chain }
  | .poll p => { w with node := leaves (update cfg env w.chain p) w.node }
  | .call api => { w with node := { w.node with manager := Manager.step env w.node.manager api.input } }

/-- no channel has been opened -/
def noDeposits : Key → Option ℕ := fun _ => none

/-- the contract's logs on a chain in which at most `n_confirmations` blocks have been replaced -/
def Evolves (cfg : Config) (w : World) : Input → Prop
  | .chain chain => w.chain.take (w.chain.length - cfg.nConfirmations) <+: chain ∧
      (replay noDeposits (chain.logsIn cfg.syncStartBlock chain.height)).isSome = true
  | _ => True

/-- no channel is topped up before its opening has `n_confirmations` -/
def LateTopups (cfg : Config) (logs : List Log) : Prop :=
  ∀ log ∈ logs, log.event.kind = .toppedUp → log.key.2 + cfg.nConfirmations ≤ log.blockNumber

/-- the chain stays `n_confirmations` above the confirmed head, no channel is opened again or topped up early, and the queries
of an update are answered -/
def Clean (cfg : Config) (w : World) : Input → Prop
  | .chain chain => (∀ head ∈ w.node.confirmedHead, head + cfg.nConfirmations ≤ chain.height) ∧
      NotReopened (chain.logsIn cfg.syncStartBlock chain.height) ∧
      LateTopups cfg (chain.logsIn cfg.syncStartBlock chain.height)
  | .poll p => cfg.syncStartBlock + cfg.nConfirmations < w.chain.height ∧ 6 < p.answered ∧
      Answered p (w.chain.logsIn (w.node.confirmed cfg) (w.chain.height - cfg.nConfirmations))
  | .call _ => True

instance (cfg : Config) (w : World) : ∀ i, Decidable (Evolves cfg w i)
  | .chain chain => inferInstanceAs (Decidable (w.chain.take (w.chain.length - cfg.nConfirmations) <+: chain ∧
      (replay noDeposits (chain.logsIn cfg.syncStartBlock chain.height)).isSome = true))
  | .poll _ => inferInstanceAs (Decidable True)
  | .call _ => inferInstanceAs (Decidable True)

instance (cfg : Config) (w : World) : ∀ i, Decidable (Clean cfg w i)
  | .chain chain => inferInstanceAs (Decidable ((∀ head ∈ w.node.confirmedHead, head + cfg.nConfirmations ≤ chain.height) ∧
      NotReopened (chain.logsIn cfg.syncStartBlock chain.height) ∧
      ∀ log ∈ chain.logsIn cfg.syncStartBlock chain.height, log.event.kind = .toppedUp →
        log.key.2 + cfg.nConfirmations ≤ log.blockNumber))
  | .poll p => inferInstanceAs (Decidable (cfg.syncStartBlock + cfg.nConfirmations < w.chain.height ∧ 6 < p.answered ∧
      ∀ log ∈ w.chain.logsIn (w.node.confirmed cfg) (w.chain.height - cfg.nConfirmations), _))
  | .call _ => inferInstanceAs (Decidable True)

/-- the logs up to the confirmed head -/
def World.confirmedLogs (w : World) (cfg : Config) : List Log :=
  w.chain.logsIn cfg.syncStartBlock (w.node.confirmed cfg)

/-- the deposit of a channel on the confirmed chain -/
def World.confirmedDeposit (w : World) (cfg : Config) (key : Key) : Option ℕ :=
  (replay noDeposits (w.confirmedLogs cfg)).bind (· key)

/-- the confirmed head does not move back -/
def HeadKept (cfg : Config) (env : Env) (w : World) (i : Input) : Prop :=
  ∀ head ∈ w.node.confirmedHead, ∃ head' ∈ (step cfg env w i).node.confirmedHead, head ≤ head'

/-- the manager is in line with the confirmed chain: every log has been handed to it once; the deposits of the open channels are
those of the chain; and it accepts no payment above them -/
structure Synchronised (cfg : Config) (env : Env) (w : World) : Prop where
  handed : w.node.handed.Perm (w.confirmedLogs cfg)
  deposits : ∀ key c, w.node.manager.confirmedChannel key = some c → c.isClosed = false →
    w.confirmedDeposit cfg key = some c.deposit
  payments : ∀ key balance signature result,
    (registerPayment env w.node.manager key balance signature).2 = .ok result →
      ∃ deposit, w.confirmedDeposit cfg key = some deposit ∧ balance ≤ deposit
  requests : ∀ price data headers, (request env w.node.manager price data).2 = .ok (false, headers) →
    ∃ sender number balance deposit, data.senderAddress = some sender ∧ data.openBlockNumber = some number ∧
      data.balance = some balance ∧ w.confirmedDeposit cfg (sender, number) = some deposit ∧ balance ≤ deposit

/-- what holds between the poller and the chain -/
structure Follows (cfg : Config) (chain : Chain) (node : Node) : Prop where
  lawful : (replay noDeposits (chain.logsIn cfg.syncStartBlock chain.height)).isSome = true
  once : NotReopened (chain.logsIn cfg.syncStartBlock chain.height)
  late : LateTopups cfg (chain.logsIn cfg.syncStartBlock chain.height)
  started : cfg.syncStartBlock ≤ node.confirmed cfg
  heads : node.confirmed cfg ≤ node.unconfirmed cfg
  depth : ∀ head ∈ node.confirmedHead, head + cfg.nConfirmations ≤ chain.height
  hash : node.synced = true → ∃ head hash, node.confirmedHead = some head ∧ node.confirmedHash = some hash ∧
    chain.hashAt head = some hash
  handed : node.handed.Perm (chain.logsIn cfg.syncStartBlock (node.confirmed cfg))
  books : ∃ deposits, replay noDeposits (chain.logsIn cfg.syncStartBlock (node.confirmed cfg)) = some deposits ∧
    Books node.manager deposits

section Runs

variable {cfg : Config} {env : Env} {chain chain' : Chain} {node node' : Node} {p : Poll} {w : World} {key : Key}

/-- the part of the node that the books are about is the same, and the unconfirmed head is the old one or the confirmed one -/
structure Forgets (cfg : Config) (node node' : Node) : Prop where
  quiet : Quiet node.manager node'.manager
  head : node'.confirmedHead = node.confirmedHead
  heads : node.confirmed cfg ≤ node.unconfirmed cfg → node.confirmed cfg ≤ node'.unconfirmed cfg
  handed : node'.handed = node.handed
  synced : node'.synced = node.synced
  hash : node'.confirmedHash = node.confirmedHash

theorem Forgets.refl (node : Node) : Forgets cfg node node := ⟨Quiet.refl _, rfl, id, rfl, rfl, rfl⟩

theorem Forgets.confirmed (h : Forgets cfg node node') : node'.confirmed cfg = node.confirmed cfg := by
  unfold Node.confirmed
  rw [h.head]

theorem Forgets.trans {node₁ : Node} (h : Forgets cfg node node₁) (h' : Forgets cfg node₁ node') : Forgets cfg node node' := by
  refine ⟨h.quiet.trans h'.quiet, h'.head.trans h.head, fun hheads => ?_, h'.handed.trans h.handed,
    h'.synced.trans h.synced, h'.hash.trans h.hash⟩
  have := h'.heads (by rw [h.confirmed]; exact h.heads hheads)
  rwa [h.confirmed] at this

theorem resetUnconfirmed_forgets (node : Node) : Forgets cfg node node.resetUnconfirmed := by
  have hchanges : Changes sampleEnv quietly node.manager _ := resetUnconfirmed_changes node.manager
  refine ⟨quietly_quiet hchanges, rfl, fun hheads => ?_, rfl, rfl, rfl⟩
  unfold Node.confirmed Node.unconfirmed Node.resetUnconfirmed at *
  cases hc : node.confirmedHead with
  | none => simpa [hc] using hheads
  | some c => simp

theorem forgetReorganized_forgets (chain : Chain) (node : Node) : Forgets cfg node (node.forgetReorganized chain) := by
  unfold forgetReorganized
  dsimp only
  have hfirst : Forgets cfg node
      (if node.unconfirmedHead.any (chain.height < ·) then node.resetUnconfirmed else node) := by
    split_ifs
    · exact resetUnconfirmed_forgets node
    · exact Forgets.refl node
  split_ifs at hfirst ⊢
  · exact hfirst
  · exact hfirst.trans (resetUnconfirmed_forgets _)
  · exact hfirst
  · exact resetUnconfirmed_forgets _

/-- the confirmed blocks are still there -/
theorem checkReorganization_achieves (h : Follows cfg chain node) :
    Achieves (checkReorganization chain) node fun _ node' => Forgets cfg node node' := by
  refine achieves_get_bind ?_
  have hforgets : Forgets cfg node (node.forgetReorganized chain) := forgetReorganized_forgets chain node
  split_ifs with hsynced
  · refine achieves_set_bind ?_
    obtain ⟨head, hash, -, hhash, hblock⟩ := h.hash hsynced
    have hfound : chain.hasBlock (node.forgetReorganized chain).confirmedHash = true := by
      obtain ⟨block, hmem, rfl⟩ := Option.map_eq_some_iff.1 hblock
      rw [hforgets.hash, hhash]
      exact any_eq_true.2 ⟨block, mem_of_getElem? hmem, by simp⟩
    rw [if_pos hfound]
    exact achieves_pure hforgets
  · exact achieves_pure (Forgets.refl node)

theorem start_confirmed (node : Node) : (node.start cfg).confirmed cfg = node.confirmed cfg := by
  unfold start confirmed
  cases node.confirmedHead <;> rfl

theorem start_unconfirmed (node : Node) : (node.start cfg).unconfirmed cfg = node.unconfirmed cfg := by
  unfold start unconfirmed
  cases node.unconfirmedHead <;> rfl

theorem start_confirmedHead (node : Node) : (node.start cfg).confirmedHead = some (node.confirmed cfg) := by
  unfold start confirmed
  cases node.confirmedHead <;> rfl

/-- a node that has forgotten its unconfirmed part follows the chain -/
theorem Forgets.follows (h : Forgets cfg node node') (hstart : cfg.syncStartBlock + cfg.nConfirmations ≤ chain.height)
    (hnode : Follows cfg chain node) : Follows cfg chain (node'.start cfg) where
  lawful := hnode.lawful
  once := hnode.once
  late := hnode.late
  started := by
    rw [start_confirmed, h.confirmed]
    exact hnode.started
  heads := by
    rw [start_confirmed, start_unconfirmed, h.confirmed]
    exact h.heads hnode.heads
  depth := by
    rw [start_confirmedHead, h.confirmed]
    rintro head ⟨⟩
    unfold Node.confirmed
    cases hhead : node.confirmedHead with
    | none => exact hstart
    | some head => exact hnode.depth head hhead
  hash hsynced := by
    obtain ⟨head, hash, hhead, hhash, hblock⟩ := hnode.hash (h.synced ▸ hsynced)
    refine ⟨head, hash, ?_, h.hash.trans hhash, hblock⟩
    rw [start_confirmedHead, h.confirmed, Node.confirmed, hhead]
    rfl
  handed := by
    rw [start_confirmed, h.confirmed]
    exact h.handed ▸ hnode.handed
  books := by
    rw [start_confirmed, h.confirmed]
    obtain ⟨deposits, hreplay, hbooks⟩ := hnode.books
    exact ⟨deposits, hreplay, h.quiet.books hbooks⟩

/-- the heads after an update that has something to do -/
theorem setHead_achieves {newUnconfirmed newConfirmed : ℕ} (hpos : 0 < newConfirmed) (hlt : newConfirmed < newUnconfirmed)
    (hheight : newUnconfirmed ≤ chain.height) : Achieves (setHead chain newUnconfirmed newConfirmed) node fun _ node' =>
      node'.confirmedHead = some newConfirmed ∧ node'.unconfirmedHead = some newUnconfirmed ∧
      (∃ hash, node'.confirmedHash = some hash ∧ chain.hashAt newConfirmed = some hash) ∧
      node'.manager = node.manager ∧ node'.handed = node.handed := by
  have hblock {n : ℕ} (hn : n ≤ newUnconfirmed) : ∃ hash, chain.hashAt n = some hash := by
    unfold Chain.height at hheight
    have hlength : n < chain.length := by omega
    exact ⟨chain[n].hash, by rw [Chain.hashAt, getElem?_eq_getElem hlength]; rfl⟩
  obtain ⟨unconfirmedHash, hunconfirmed⟩ := hblock le_rfl
  obtain ⟨confirmedHash, hconfirmed⟩ := hblock hlt.le
  unfold setHead
  rw [hunconfirmed, hconfirmed]
  dsimp only
  rw [if_pos ⟨by omega, hpos, hlt⟩]
  exact achieves_modify ⟨rfl, rfl, ⟨confirmedHash, rfl, rfl⟩, rfl, rfl⟩

/-- the logs up to the confirmed head and those of the next range are logs of the contract -/
theorem Follows.replay_next (h : Follows cfg chain node) {head : ℕ} (hhead : node.confirmed cfg ≤ head)
    (hheight : head ≤ chain.height) : ∃ deposits deposits',
      replay noDeposits (chain.logsIn cfg.syncStartBlock (node.confirmed cfg)) = some deposits ∧ Books node.manager deposits ∧
      replay deposits (chain.logsIn (node.confirmed cfg) head) = some deposits' ∧
      replay noDeposits (chain.logsIn cfg.syncStartBlock head) = some deposits' := by
  obtain ⟨deposits, hreplay, hbooks⟩ := h.books
  obtain ⟨all, hall⟩ := Option.isSome_iff_exists.1 h.lawful
  rw [logsIn_append (h.started.trans hhead) hheight] at hall
  obtain ⟨deposits', hnext, -⟩ := replay_append.1 hall
  refine ⟨deposits, deposits', hreplay, hbooks, ?_, hnext⟩
  rw [logsIn_append h.started hhead] at hnext
  obtain ⟨d, hd, hnext⟩ := replay_append.1 hnext
  obtain rfl := Option.some.inj (hreplay.symm.trans hd)
  exact hnext

/-- a top up above the confirmed head is one of a channel that is there or opened up to the next confirmed head -/
theorem Follows.topup_known (h : Follows cfg chain node) {head : ℕ} (hhead : node.confirmed cfg ≤ head)
    (hheight : head ≤ chain.height) {deposits : Key → Option ℕ}
    (hdeposits : replay noDeposits (chain.logsIn cfg.syncStartBlock (node.confirmed cfg)) = some deposits) {log : Log}
    (hmem : log ∈ chain.logsIn (node.unconfirmed cfg) head) (hkind : log.event.kind = .toppedUp) :
    (deposits log.key).isSome = true ∨
      Opened log.key (chain.logsIn (node.confirmed cfg) (head - cfg.nConfirmations)) := by
  obtain ⟨hafter, hupto, hlog⟩ := mem_logsIn.1 hmem
  have hstarted := h.started
  have hheads := h.heads
  obtain ⟨d, deposits', hd, -, hreplay, -⟩ := h.replay_next hhead hheight
  obtain rfl := Option.some.inj (hdeposits.symm.trans hd)
  have hlate := h.late log (mem_logsIn.2 ⟨by omega, by omega, hlog⟩) hkind
  rcases replay_log hreplay (mem_logsIn.2 ⟨by omega, hupto, hlog⟩) (by simp [hkind]) with hsome | ⟨l, hl, hcreated, hkey⟩
  · exact .inl hsome
  · obtain ⟨hl, -, hlogs⟩ := mem_logsIn.1 hl
    have hblock : l.key.2 = l.blockNumber := by
      obtain ⟨sender, deposit, hevent⟩ := ChainLog.of_created hcreated
      rw [Log.key, hevent]
    exact .inr ⟨l, mem_logsIn.2 ⟨hl, by rw [hkey] at hblock; omega, hlogs⟩, hcreated, hkey⟩

/-- **One update.** An update whose queries are answered returns, moves the confirmed head up and keeps the manager in line with
the chain. -/
theorem update_follows (hconfirmations : 0 < cfg.nConfirmations) (hchunk : cfg.nConfirmations < cfg.syncChunkSize)
    (hstart : cfg.syncStartBlock + cfg.nConfirmations < chain.height) (hanswered : 6 < p.answered)
    (hp : Answered p (chain.logsIn (node.confirmed cfg) (chain.height - cfg.nConfirmations))) (h : Follows cfg chain node) :
    Achieves (update cfg env chain p) node fun _ node' => Follows cfg chain node' ∧
      node'.confirmedHead.isSome = true ∧ node.confirmed cfg ≤ node'.confirmed cfg := by
  refine (checkReorganization_achieves h).bind fun _ node₁ hforgets => ?_
  refine (achieves_modify (P := fun _ node₂ => node₂ = node₁.start cfg) rfl).bind ?_
  rintro _ _ rfl
  refine achieves_get_bind ?_
  have hfollows := hforgets.follows hstart.le h
  have hconfirmed : (node₁.start cfg).confirmed cfg = node.confirmed cfg := by rw [start_confirmed, hforgets.confirmed]
  have hdepth := hfollows.depth _ (start_confirmedHead node₁)
  have hsome : (node₁.start cfg).confirmedHead.isSome = true := by rw [start_confirmedHead]; rfl
  rw [← hconfirmed] at hp ⊢
  rw [← start_confirmed] at hdepth
  generalize node₁.start cfg = node₂ at *
  have hheads := hfollows.heads
  have hnewU : node₂.newUnconfirmed cfg chain = min (node₂.unconfirmed cfg + cfg.syncChunkSize) chain.height := rfl
  have hnewC : node₂.newConfirmed cfg chain = node₂.newUnconfirmed cfg chain - cfg.nConfirmations := rfl
  generalize node₂.newUnconfirmed cfg chain = newU at *
  generalize node₂.newConfirmed cfg chain = newC at *
  have hup : node₂.confirmed cfg ≤ newC := by omega
  by_cases hdone : newC ≤ node₂.confirmed cfg ∧ newU ≤ node₂.unconfirmed cfg
  · rw [if_pos hdone]
    exact achieves_pure ⟨hfollows, hsome, le_rfl⟩
  · rw [if_neg hdone]
    obtain ⟨deposits, deposits', hdeposits, hbooks, hreplay, hall⟩ := hfollows.replay_next hup (by omega)
    refine (handleLogs_books (by omega) (hp.mono fun log hlog => ?_) (fun log hlog => ?_)
      (fun log hmem hkind => ?_) hreplay ?_ hbooks).bind fun _ node₃ ⟨hhanded, hbooks'⟩ => ?_
    · obtain ⟨hafter, hupto, hlog⟩ := mem_logsIn.1 hlog
      exact mem_logsIn.2 ⟨hafter, by omega, hlog⟩
    · rcases mem_append.1 hlog with hlog | hlog <;> exact Nat.zero_lt_of_lt (mem_logsIn.1 hlog).1
    · rw [hnewC]
      exact hfollows.topup_known (by omega) (by omega) hdeposits hmem hkind
    · have honce := hfollows.once
      rw [logsIn_append (hfollows.started.trans hup) (by omega), logsIn_append hfollows.started hup] at honce
      exact Pairwise.sublist ((sublist_append_right _ _).trans (sublist_append_left _ _)) honce
    · rw [if_pos hanswered]
      refine (setHead_achieves (by omega) (by omega) (by omega)).mono ?_
      rintro _ node' ⟨hhead, hunconfirmed, ⟨hash, hhash, hblock⟩, hmanager, hsame⟩
      have hC : node'.confirmed cfg = newC := by rw [Node.confirmed, hhead]; rfl
      have hU : node'.unconfirmed cfg = newU := by rw [Node.unconfirmed, hunconfirmed]; rfl
      refine ⟨⟨hfollows.lawful, hfollows.once, hfollows.late, ?_, ?_, ?_, fun _ => ⟨newC, hash, hhead, hhash, hblock⟩, ?_,
        ?_⟩, by rw [hhead]; rfl, hC.symm ▸ hup⟩
      · exact hC.symm ▸ hfollows.started.trans hup
      · omega
      · rw [hhead]
        rintro head ⟨⟩
        omega
      · rw [hC, hsame, logsIn_append hfollows.started hup]
        exact hhanded.trans (hfollows.handed.append_right _)
      · rw [hC, hmanager]
        exact ⟨deposits', hall, hbooks'⟩

/-- a chain that keeps the blocks up to the confirmed head -/
theorem chain_follows (h : Follows cfg chain node) (hkeeps : chain.take (chain.length - cfg.nConfirmations) <+: chain')
    (hlawful : (replay noDeposits (chain'.logsIn cfg.syncStartBlock chain'.height)).isSome = true)
    (hheight : ∀ head ∈ node.confirmedHead, head + cfg.nConfirmations ≤ chain'.height)
    (honce : NotReopened (chain'.logsIn cfg.syncStartBlock chain'.height))
    (hlate : LateTopups cfg (chain'.logsIn cfg.syncStartBlock chain'.height)) : Follows cfg chain' node := by
  have hblock {head i : ℕ} (hhead : node.confirmedHead = some head) (hi : i ≤ head) (hpos : i < chain.length) :
      chain[i]? = chain'[i]? := by
    have hdepth := h.depth head hhead
    unfold Chain.height at hdepth
    have hi' : i < (chain.take (chain.length - cfg.nConfirmations)).length := by
      rw [length_take]
      omega
    rw [prefix_iff_getElem?.1 hkeeps i hi', getElem_take, getElem?_eq_getElem]
  have hsame : chain'.logsIn cfg.syncStartBlock (node.confirmed cfg) =
      chain.logsIn cfg.syncStartBlock (node.confirmed cfg) := by
    cases hhead : node.confirmedHead with
    | none =>
      have hstart : node.confirmed cfg = cfg.syncStartBlock := by
        unfold confirmed
        rw [hhead]
        rfl
      rw [hstart, logsIn_self, logsIn_self]
    | some head =>
      have hconfirmed : node.confirmed cfg = head := by
        unfold confirmed
        rw [hhead]
        rfl
      have hdepth := h.depth head hhead
      unfold Chain.height at hdepth
      exact logsIn_congr fun i hpos hi => (hblock hhead (by omega) (by omega)).symm
  refine ⟨hlawful, honce, hlate, h.started, h.heads, hheight, fun hsynced => ?_, hsame ▸ h.handed, hsame ▸ h.books⟩
  obtain ⟨head, hash, hhead, hhash, hfound⟩ := h.hash hsynced
  refine ⟨head, hash, hhead, hhash, ?_⟩
  obtain ⟨block, hget, -⟩ := Option.map_eq_some_iff.1 hfound
  rw [Chain.hashAt, ← hblock hhead le_rfl (List.getElem?_eq_some_iff.1 hget).1]
  exact hfound

theorem call_follows (h : Follows cfg chain node) (api : Api) :
    Follows cfg chain { node with manager := Manager.step env node.manager api.input } := by
  have hquiet : Quiet node.manager (Manager.step env node.manager api.input) := by
    refine changes_quiet (Manager.step_changes env node.manager api.input) ?_ ?_ fun _ => ?_ <;> cases api <;>
      exact fun h => nomatch h
  obtain ⟨deposits, hreplay, hbooks⟩ := h.books
  exact { h with books := ⟨deposits, hreplay, hquiet.books hbooks⟩ }

theorem new_follows : Follows cfg World.new.chain World.new.node := by
  have hempty : Chain.logsIn [] cfg.syncStartBlock (Chain.height []) = [] := by
    simp [Chain.logsIn, Chain.height]
  refine ⟨?_, ?_, ?_, le_rfl, le_rfl, by simp [World.new, Node.new], fun h => (by cases h), ?_, noDeposits, ?_,
    fun _ => .none, fun key c hc => by cases hc⟩
  · rw [show World.new.chain = [] from rfl, hempty]
    rfl
  · rw [show World.new.chain = [] from rfl, hempty]
    exact Pairwise.nil
  · rw [show World.new.chain = [] from rfl, hempty]
    exact fun log hlog => absurd hlog not_mem_nil
  · rw [show World.new.node.confirmed cfg = cfg.syncStartBlock from rfl, logsIn_self]
    exact List.Perm.refl _
  · rw [show World.new.node.confirmed cfg = cfg.syncStartBlock from rfl, logsIn_self]
    rfl

theorem step_follows (hconfirmations : 0 < cfg.nConfirmations) (hchunk : cfg.nConfirmations < cfg.syncChunkSize) {i : Input}
    (h : Follows cfg w.chain w.node) (hevolves : Evolves cfg w i) (hclean : Clean cfg w i) :
    HeadKept cfg env w i ∧ Follows cfg (step cfg env w i).chain (step cfg env w i).node := by
  cases i with
  | chain chain =>
    obtain ⟨hheight, honce, hlate⟩ := hclean
    exact ⟨fun head hhead => ⟨head, hhead, le_rfl⟩, chain_follows h hevolves.1 hevolves.2 hheight honce hlate⟩
  | poll p =>
    obtain ⟨hstart, hanswered, hp⟩ := hclean
    obtain ⟨-, hfollows, hsome, hup⟩ := (update_follows hconfirmations hchunk hstart hanswered hp h).leaves
    refine ⟨fun head hhead => ?_, hfollows⟩
    obtain ⟨head', hhead'⟩ := Option.isSome_iff_exists.1 hsome
    refine ⟨head', hhead', ?_⟩
    unfold confirmed at hup
    rw [hhead', Option.mem_def.1 hhead] at hup
    exact hup
  | call api => exact ⟨fun head hhead => ⟨head, hhead, le_rfl⟩, call_follows h api⟩

theorem Follows.deposit (h : Follows cfg w.chain w.node) {c : Channel}
    (hc : w.node.manager.confirmedChannel key = some c) (hopen : c.isClosed = false) :
    w.confirmedDeposit cfg key = some c.deposit := by
  obtain ⟨deposits, hreplay, hbooks⟩ := h.books
  have hentry := hbooks.entries key
  rw [entry_of_confirmed hc] at hentry
  rw [World.confirmedDeposit, World.confirmedLogs, hreplay, Option.bind_some]
  generalize deposits key = x at hentry ⊢
  cases hentry with
  | some heq => exact congrArg some (heq hopen).symm

theorem Follows.payment (h : Follows cfg w.chain w.node) {balance : ℕ} {signature : String}
    {result : Address × ℕ} (hok : (registerPayment env w.node.manager key balance signature).2 = .ok result) :
    ∃ deposit, w.confirmedDeposit cfg key = some deposit ∧ balance ≤ deposit := by
  obtain ⟨e, heq⟩ | ⟨c, hverify, -, hcovered, -⟩ :=
    registerPayment_cases env w.node.manager key balance signature
  · rw [heq] at hok
    cases hok
  · obtain ⟨hget, hconfirmed, hopen, -⟩ := verifyBalanceProof_ok hverify
    exact ⟨c.deposit, h.deposit (confirmedChannel_some.2 ⟨hget, hconfirmed⟩) hopen, hcovered⟩

theorem Follows.synchronised (h : Follows cfg w.chain w.node) : Synchronised cfg env w := by
  refine ⟨h.handed, fun key c hc hopen => h.deposit hc hopen, fun _ _ _ _ hok => h.payment hok, ?_⟩
  intro price data headers hserved
  obtain ⟨-, hpaywalled⟩ | ⟨key, c, hdata, hc, hconfirmed, hopen, -, -, hcovered, -⟩ :=
    request_cases env w.node.manager price data
  · exact absurd hserved (hpaywalled headers)
  · exact ⟨key.1, key.2, _, c.deposit, hdata.1, hdata.2.1, hdata.2.2,
      h.deposit (confirmedChannel_some.2 ⟨hc, hconfirmed⟩) hopen, hcovered⟩

end Runs

instance (cfg : Config) (env : Env) (w : World) (i : Input) : Decidable (HeadKept cfg env w i) :=
  inferInstanceAs (Decidable (∀ head ∈ w.node.confirmedHead,
    ∃ head' ∈ (step cfg env w i).node.confirmedHead, head ≤ head'))

namespace Sample

def cfg : Config := ⟨2, 100, 0⟩

/-- the sender 3 opens a channel with 10 and adds 5 -/
def blocks : Chain := [⟨0, []⟩, ⟨1, [.created 3 10]⟩, ⟨2, []⟩, ⟨3, [.toppedUp 3 1 "0x5" 5]⟩]

def topup : Log := ⟨3, .toppedUp 3 1 "0x5" 5⟩

/-- everything is answered -/
def answered : Poll := ⟨7, fun _ => .timeout 500, fun _ => .sent⟩

/-- the connection breaks before the settled channels are read -/
def broken : Poll := ⟨4, fun _ => .timeout 500, fun _ => .sent⟩

/-- the last two of six blocks are replaced by one, and one more follows -/
def shorter : List Input :=
  [.chain (blocks ++ [⟨4, []⟩, ⟨5, []⟩]), .poll answered, .chain (blocks ++ [⟨14, []⟩]), .poll answered,
    .chain (blocks ++ [⟨14, []⟩, ⟨15, []⟩]), .poll answered]

def interrupted : List Input := [.chain (blocks ++ [⟨4, []⟩, ⟨5, []⟩]), .poll broken, .poll answered]

def closeRequest : Log := ⟨2, .closeRequested 3 1 4⟩

/-- one update sees the opening, the close request and the settlement of a channel -/
def settledAtOnce : List Input :=
  [.chain [⟨0, []⟩, ⟨1, [.created 3 10]⟩, ⟨2, [.closeRequested 3 1 4]⟩, ⟨3, [.settled 3 1]⟩, ⟨4, []⟩, ⟨5, []⟩], .poll answered]

/-- the last two of six blocks are replaced by three -/
def longer : List Input :=
  [.chain (blocks ++ [⟨4, []⟩, ⟨5, []⟩]), .poll answered, .call (.registerPayment (3, 1) 12 "12"),
    .chain (blocks ++ [⟨14, []⟩, ⟨15, []⟩, ⟨16, []⟩]), .poll answered]

end Sample

/-- the top up is handed twice, the manager takes the deposit for 20 where it is 15, and accepts a payment of 18 -/
def HandedTwice (w : World) : Prop :=
  w.node.handed.count Sample.topup = 2 ∧ (w.confirmedLogs Sample.cfg).count Sample.topup = 1 ∧
    entry w.node.manager (3, 1) = some (20, false) ∧ w.confirmedDeposit Sample.cfg (3, 1) = some 15 ∧
    (registerPayment sampleEnv w.node.manager (3, 1) 18 "18").2.toOption = some (3, 18)

instance (w : World) : Decidable (HandedTwice w) := inferInstanceAs (Decidable (_ ∧ _ ∧ _ ∧ _ ∧ _))

end Gatecoin.Micro.Poller
