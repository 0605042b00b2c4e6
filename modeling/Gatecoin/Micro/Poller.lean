/-
The part of a microcoin receiver that watches the chain (`channel_manager/blockchain.py`).

The poller keeps two heads. The logs up to the unconfirmed head have been announced to the channel manager, those up to the
confirmed head, `n_confirmations` blocks below it, have been handed to it. `_update` reads the logs between the old heads and
the new ones, kind by kind, and moves the heads at its end.

The chain is a list of blocks, the block of number `n` at position `n`. One call of `_update` sees one chain. An exception
ends the call, and what it has written stays; a query that the ethereum node does not answer raises a connection error, which
the polling loop catches. A record is kept for the proofs: the confirmed logs that were handed to the manager. Close requests
of channels that the manager does not know are dropped.

`replay` is the meaning of the logs: the deposit of each channel after a list of them, as the contract keeps it.
-/
import Gatecoin.Core.Stateful
import Gatecoin.Micro.Manager

namespace Gatecoin.Micro.Poller

open Gatecoin.Core
open Contracts (Address)
open Gatecoin.Micro.Manager (Key State Env TxOutcome Exn Outcome)
open List

/-! ## The chain -/

inductive Kind where
  | created
  | toppedUp
  | settled
  | closeRequested
deriving DecidableEq, Repr

/-- a log of the channel contract for the receiver -/
inductive ChainLog where
  | created (sender : Address) (deposit : ℕ)
  | toppedUp (sender : Address) (openBlockNumber : ℕ) (txhash : String) (addedDeposit : ℕ)
  | settled (sender : Address) (openBlockNumber : ℕ)
  | closeRequested (sender : Address) (openBlockNumber balance : ℕ)
deriving DecidableEq, Repr

def ChainLog.kind : ChainLog → Kind
  | .created _ _ => .created
  | .toppedUp _ _ _ _ => .toppedUp
  | .settled _ _ => .settled
  | .closeRequested _ _ _ => .closeRequested

/-- the order in which an update deals with the kinds -/
def Kind.rank : Kind → ℕ
  | .created => 0
  | .toppedUp => 1
  | .settled => 2
  | .closeRequested => 3

variable {event : ChainLog}

theorem ChainLog.of_created (h : event.kind = .created) : ∃ sender deposit, event = .created sender deposit := by
  cases event with
  | created sender deposit => exact ⟨sender, deposit, rfl⟩
  | _ => cases h

theorem ChainLog.of_toppedUp (h : event.kind = .toppedUp) :
    ∃ sender openBlockNumber txhash added, event = .toppedUp sender openBlockNumber txhash added := by
  cases event with
  | toppedUp sender openBlockNumber txhash added => exact ⟨sender, openBlockNumber, txhash, added, rfl⟩
  | _ => cases h

theorem ChainLog.of_settled (h : event.kind = .settled) :
    ∃ sender openBlockNumber, event = .settled sender openBlockNumber := by
  cases event with
  | settled sender openBlockNumber => exact ⟨sender, openBlockNumber, rfl⟩
  | _ => cases h

theorem ChainLog.of_closeRequested (h : event.kind = .closeRequested) :
    ∃ sender openBlockNumber balance, event = .closeRequested sender openBlockNumber balance := by
  cases event with
  | closeRequested sender openBlockNumber balance => exact ⟨sender, openBlockNumber, balance, rfl⟩
  | _ => cases h

/-- a log with the number of its block -/
structure Log where
  blockNumber : ℕ
  event : ChainLog
deriving DecidableEq, Repr

/-- the channel of a log; a new channel has the number of the block it is created in -/
def Log.key (log : Log) : Key :=
  match log.event with
  | .created sender _ => (sender, log.blockNumber)
  | .toppedUp sender openBlockNumber _ _ => (sender, openBlockNumber)
  | .settled sender openBlockNumber => (sender, openBlockNumber)
  | .closeRequested sender openBlockNumber _ => (sender, openBlockNumber)

structure Block where
  hash : ℕ
  logs : List ChainLog
deriving DecidableEq, Repr

abbrev Chain := List Block

namespace Chain

/-- `eth.blockNumber` -/
def height (chain : Chain) : ℕ := chain.length - 1

def hashAt (chain : Chain) (number : ℕ) : Option ℕ := chain[number]?.map (·.hash)

/-- `eth.getBlock` finds a block of this hash -/
def hasBlock (chain : Chain) (hash : Option ℕ) : Bool := chain.any fun block => some block.hash = hash

def logsAt (chain : Chain) (number : ℕ) : List Log := (chain[number]?.elim [] (·.logs)).map (⟨number, ·⟩)

/-- the logs after block `a` and up to block `b` -/
def logsIn (chain : Chain) (a b : ℕ) : List Log := (range' (a + 1) (b - a)).flatMap chain.logsAt

end Chain

/-- the deposit of a channel after one more log of it; none if the contract does not write the log -/
def logStep : ChainLog → Option ℕ → Option (Option ℕ)
  | .created _ deposit, none => some (some deposit)
  | .toppedUp _ _ _ added, some deposit => some (some (deposit + added))
  | .settled _ _, some _ => some none
  | .closeRequested _ _ _, some deposit => some (some deposit)
  | _, _ => none

/-- the deposits of all channels after one more log -/
def chainStep (deposits : Key → Option ℕ) (log : Log) : Option (Key → Option ℕ) :=
  (logStep log.event (deposits log.key)).map (Function.update deposits log.key)

def replay (deposits : Key → Option ℕ) (logs : List Log) : Option (Key → Option ℕ) := logs.foldlM chainStep deposits

/-! ## The poller -/

structure Config where
  nConfirmations : ℕ
  syncChunkSize : ℕ
  syncStartBlock : ℕ

structure Node where
  manager : State
  confirmedHead : Option ℕ
  confirmedHash : Option ℕ
  unconfirmedHead : Option ℕ
  unconfirmedHash : Option ℕ
  /-- `wait_sync_event` -/
  synced : Bool
  handed : List Log

def Node.new : Node := ⟨State.empty, none, none, none, none, false, []⟩

/-- the answer to `getChannelInfo` -/
inductive ChannelInfo where
  | timeout (settleTimeout : ℕ)
  | badFunctionCallOutput
  | connectionError
deriving DecidableEq, Repr

/-- what one call of `_update` meets: how many of its queries are answered, the answers to `getChannelInfo`, and what happens
to the transactions it sends -/
structure Poll where
  answered : ℕ
  info : Key → ChannelInfo
  tx : Key → TxOutcome

inductive UpdateError where
  | manager (exn : Exn)
  | connection
  /-- events considered confirmed have been reorganized -/
  | confirmedReorganized
  /-- an assertion of `set_head` -/
  | head
  /-- the node does not know a block of its own chain -/
  | exit
deriving DecidableEq, Repr

abbrev Update := EStateM UpdateError Node

/-- a call of the manager -/
def call (handler : State → Outcome Unit) : Update Unit := do
  let node ← get
  set { node with manager := (handler node.manager).1 }
  match (handler node.manager).2 with
  | .ok () => pure ()
  | .error exn => throw (.manager exn)

def hand (log : Log) : Update Unit := modify fun node => { node with handed := node.handed ++ [log] }

def ofKind (kind : Kind) (logs : List Log) : List Log := logs.filter fun log => log.event.kind = kind

/-- the logs of one kind; the queries of a call are numbered -/
def getLogs (p : Poll) (query : ℕ) (logs : List Log) (kind : Kind) : Update (List Log) :=
  if query < p.answered then pure (ofKind kind logs) else throw .connection

def unconfirmedCreated (log : Log) : Update Unit :=
  match log.event with
  | .created _ deposit => call (Manager.unconfirmedEventChannelOpened · log.key deposit)
  | _ => pure ()

def created (log : Log) : Update Unit :=
  match log.event with
  | .created _ deposit => do
    hand log
    call (Manager.eventChannelOpened · log.key deposit)
  | _ => pure ()

def unconfirmedToppedUp (log : Log) : Update Unit :=
  match log.event with
  | .toppedUp _ _ txhash added => call (Manager.unconfirmedEventChannelTopup · log.key txhash added)
  | _ => pure ()

def toppedUp (log : Log) : Update Unit :=
  match log.event with
  | .toppedUp _ _ txhash added => do
    hand log
    call (Manager.eventChannelTopup · log.key txhash added)
  | _ => pure ()

def settled (log : Log) : Update Unit :=
  match log.event with
  | .settled _ _ => do
    hand log
    call (Manager.eventChannelSettled · log.key)
  | _ => pure ()

/-- the manager's own exception for a receiver without ether is caught -/
def catchInsufficientBalance : Outcome Unit → Outcome Unit
  | (s, .error .insufficientBalance) => (s, .ok ())
  | outcome => outcome

def closeRequested (env : Env) (p : Poll) (log : Log) : Update Unit :=
  match log.event with
  | .closeRequested _ _ balance => do
    let node ← get
    if (node.manager.confirmedChannel log.key).isNone then pure ()
    else
      hand log
      match p.info log.key with
      | .connectionError => throw .connection
      | .badFunctionCallOutput => call (Manager.forceCloseChannel env · log.key (p.tx log.key))
      | .timeout timeout =>
        call fun s =>
          catchInsufficientBalance (Manager.eventChannelCloseRequested env s log.key balance timeout (p.tx log.key))
  | _ => pure ()

/-- the logs of the two ranges, kind by kind -/
def handleLogs (env : Env) (p : Poll) (unconfirmed confirmed : List Log) : Update Unit := do
  (← getLogs p 0 unconfirmed .created).forM unconfirmedCreated
  (← getLogs p 1 confirmed .created).forM created
  (← getLogs p 2 unconfirmed .toppedUp).forM unconfirmedToppedUp
  (← getLogs p 3 confirmed .toppedUp).forM toppedUp
  (← getLogs p 4 confirmed .settled).forM settled
  (← getLogs p 5 confirmed .closeRequested).forM (closeRequested env p)

/-- a head that is None is not written -/
def Node.resetUnconfirmed (node : Node) : Node :=
  { node with
    manager := Manager.resetUnconfirmed node.manager
    unconfirmedHead := node.confirmedHead <|> node.unconfirmedHead
    unconfirmedHash := node.confirmedHash <|> node.unconfirmedHash }

/-- the chain got shorter than the unconfirmed head, or has another block in its place -/
def Node.forgetReorganized (node : Node) (chain : Chain) : Node :=
  let node := if node.unconfirmedHead.any (chain.height < ·) then node.resetUnconfirmed else node
  if chain.hasBlock node.unconfirmedHash then node else node.resetUnconfirmed

def checkReorganization (chain : Chain) : Update Unit := do
  let node ← get
  if node.synced then
    let node := node.forgetReorganized chain
    set node
    if chain.hasBlock node.confirmedHash then pure () else throw .confirmedReorganized
  else pure ()

def setHead (chain : Chain) (newUnconfirmed newConfirmed : ℕ) : Update Unit :=
  match chain.hashAt newUnconfirmed, chain.hashAt newConfirmed with
  | some unconfirmedHash, some confirmedHash =>
    if 0 < newUnconfirmed ∧ 0 < newConfirmed ∧ newConfirmed < newUnconfirmed then
      modify fun node => { node with
        unconfirmedHead := some newUnconfirmed
        unconfirmedHash := some unconfirmedHash
        confirmedHead := some newConfirmed
        confirmedHash := some confirmedHash
        synced := node.synced || newUnconfirmed = chain.height }
    else throw .head
  | _, _ => throw .exit

/-- the heads of a node that has not synced yet are at the first block -/
def Node.start (node : Node) (cfg : Config) : Node :=
  { node with
    confirmedHead := node.confirmedHead <|> some cfg.syncStartBlock
    unconfirmedHead := node.unconfirmedHead <|> some cfg.syncStartBlock }

def Node.confirmed (node : Node) (cfg : Config) : ℕ := node.confirmedHead.getD cfg.syncStartBlock

def Node.unconfirmed (node : Node) (cfg : Config) : ℕ := node.unconfirmedHead.getD cfg.syncStartBlock

def Node.newUnconfirmed (node : Node) (cfg : Config) (chain : Chain) : ℕ :=
  min (node.unconfirmed cfg + cfg.syncChunkSize) chain.height

/-- the subtraction stops at zero -/
def Node.newConfirmed (node : Node) (cfg : Config) (chain : Chain) : ℕ :=
  node.newUnconfirmed cfg chain - cfg.nConfirmations

/-- `_update` -/
def update (cfg : Config) (env : Env) (chain : Chain) (p : Poll) : Update Unit := do
  checkReorganization chain
  modify (Node.start · cfg)
  let node ← get
  let newUnconfirmed := node.newUnconfirmed cfg chain
  let newConfirmed := node.newConfirmed cfg chain
  if newConfirmed ≤ node.confirmed cfg ∧ newUnconfirmed ≤ node.unconfirmed cfg then pure ()
  else
    handleLogs env p (chain.logsIn (node.unconfirmed cfg) newUnconfirmed) (chain.logsIn (node.confirmed cfg) newConfirmed)
    if 6 < p.answered then setHead chain newUnconfirmed newConfirmed else throw .connection

/-! ## Logs of a chain -/

section Logs

variable {chain chain' : Chain} {a b c : ℕ}

theorem logsIn_append (hab : a ≤ b) (hbc : b ≤ c) : chain.logsIn a c = chain.logsIn a b ++ chain.logsIn b c := by
  have hrange : range' (a + 1) (c - a) = range' (a + 1) (b - a) ++ range' (b + 1) (c - b) := by
    have hstart : b + 1 = a + 1 + 1 * (b - a) := by omega
    rw [hstart, range'_append]
    congr 1
    omega
  unfold Chain.logsIn
  rw [hrange, flatMap_append]

theorem logsIn_self : chain.logsIn a a = [] := by simp [Chain.logsIn]

theorem mem_logsIn {log : Log} : log ∈ chain.logsIn a b ↔
    a < log.blockNumber ∧ log.blockNumber ≤ b ∧ log ∈ chain.logsAt log.blockNumber := by
  unfold Chain.logsIn
  rw [mem_flatMap]
  constructor
  · rintro ⟨i, hi, hlog⟩
    have hrange := mem_range'_1.1 hi
    obtain ⟨event, -, rfl⟩ := mem_map.1 hlog
    exact ⟨show a < i by omega, show i ≤ b by omega, hlog⟩
  · rintro ⟨ha, hb, hlog⟩
    exact ⟨_, mem_range'_1.2 (by omega), hlog⟩

/-- the logs of a range only depend on its blocks -/
theorem logsIn_congr (h : ∀ i, a < i → i ≤ b → chain[i]? = chain'[i]?) : chain.logsIn a b = chain'.logsIn a b := by
  refine flatMap_congr fun i hi => ?_
  have hrange := mem_range'_1.1 hi
  unfold Chain.logsAt
  rw [h i (by omega) (by omega)]

end Logs

/-! ## The order of the logs

An update deals with the logs kind by kind. The deposits come out the same, because two logs can change places unless they
belong to one channel and the first is its settlement or the second ends what the first asks for. -/

/-- the logs in the order in which an update deals with them -/
def byKind (logs : List Log) : List Log :=
  ofKind .created logs ++ ofKind .toppedUp logs ++ ofKind .settled logs ++ ofKind .closeRequested logs

/-- the logs open the channel -/
def Opened (key : Key) (logs : List Log) : Prop := ∃ log ∈ logs, log.event.kind = .created ∧ log.key = key

/-- no channel is opened again in its block after it was settled there -/
def NotReopened (logs : List Log) : Prop :=
  logs.Pairwise fun a b => a.event.kind = .settled → b.event.kind = .created → b.key ≠ a.key

instance (logs : List Log) : Decidable (NotReopened logs) := inferInstanceAs (Decidable (logs.Pairwise _))

section Replay

variable {deposits deposits' : Key → Option ℕ} {key : Key} {log a b : Log} {logs logs' : List Log} {x y z : Option ℕ}

theorem mem_ofKind {kind : Kind} : log ∈ ofKind kind logs ↔ log ∈ logs ∧ log.event.kind = kind := by
  simp [ofKind]

theorem byKind_perm (logs : List Log) : (byKind logs).Perm logs := by
  rw [perm_iff_count]
  intro log
  have hcount (kind : Kind) : (ofKind kind logs).count log = if log.event.kind = kind then logs.count log else 0 := by
    split_ifs with h
    · exact count_filter (by simpa using h)
    · exact count_eq_zero.2 (by simp [mem_ofKind, h])
  simp only [byKind, count_append, hcount]
  cases log.event.kind <;> simp

theorem chainStep_eq : chainStep deposits log = some deposits' ↔
    ∃ x, logStep log.event (deposits log.key) = some x ∧ Function.update deposits log.key x = deposits' :=
  Option.map_eq_some_iff

theorem replay_cons : replay deposits (log :: logs) = some deposits' ↔
    ∃ d, chainStep deposits log = some d ∧ replay d logs = some deposits' := by
  rw [replay, foldlM_cons]
  exact Option.bind_eq_some_iff

theorem replay_append : replay deposits (logs ++ logs') = some deposits' ↔
    ∃ d, replay deposits logs = some d ∧ replay d logs' = some deposits' := by
  rw [replay, foldlM_append]
  exact Option.bind_eq_some_iff

/-- a log that is no opening is one of a channel that is there -/
theorem logStep_present (h : logStep event x = some y) (hkind : event.kind ≠ .created) : x.isSome = true := by
  cases event <;> cases x <;> first | rfl | exact absurd rfl hkind | cases h

theorem logStep_opened (h : logStep event x = some y) (hkind : event.kind = .created) : y.isSome = true := by
  cases event <;> cases x <;> cases h <;> first | rfl | cases hkind

/-- a channel that is there after the logs was there before them or is opened by them -/
theorem replay_opened (h : replay deposits logs = some deposits') (hsome : (deposits' key).isSome = true) :
    (deposits key).isSome = true ∨ Opened key logs := by
  induction logs generalizing deposits with
  | nil =>
    obtain rfl := Option.some.inj h
    exact .inl hsome
  | cons log logs ih =>
    obtain ⟨d, hlog, hrest⟩ := replay_cons.1 h
    obtain ⟨x, hx, rfl⟩ := chainStep_eq.1 hlog
    rcases ih hrest with hd | ⟨l, hl, hopened⟩
    · by_cases hkey : key = log.key
      · by_cases hkind : log.event.kind = .created
        · exact .inr ⟨log, mem_cons_self, hkind, hkey.symm⟩
        · exact .inl (hkey ▸ logStep_present hx hkind)
      · exact .inl (Function.update_of_ne hkey x deposits ▸ hd)
    · exact .inr ⟨l, mem_cons_of_mem _ hl, hopened⟩

/-- the channel of a log was there before the logs or is opened by them -/
theorem replay_log (h : replay deposits logs = some deposits') (hmem : log ∈ logs) (hkind : log.event.kind ≠ .created) :
    (deposits log.key).isSome = true ∨ Opened log.key logs := by
  obtain ⟨before, after, rfl⟩ := append_of_mem hmem
  obtain ⟨d, hbefore, h⟩ := replay_append.1 h
  obtain ⟨d₁, hlog, -⟩ := replay_cons.1 h
  obtain ⟨x, hx, -⟩ := chainStep_eq.1 hlog
  refine (replay_opened hbefore (logStep_present hx hkind)).imp_right ?_
  rintro ⟨l, hl, hopened⟩
  exact ⟨l, mem_append_left _ hl, hopened⟩

/-- after the openings the channels are there -/
theorem replay_openings (h : replay deposits logs = some deposits') (hlogs : ∀ log ∈ logs, log.event.kind = .created)
    (hkey : (deposits key).isSome = true ∨ Opened key logs) : (deposits' key).isSome = true := by
  induction logs generalizing deposits with
  | nil =>
    obtain rfl := Option.some.inj h
    simpa [Opened] using hkey
  | cons log logs ih =>
    obtain ⟨d, hlog, hrest⟩ := replay_cons.1 h
    obtain ⟨x, hx, rfl⟩ := chainStep_eq.1 hlog
    refine ih hrest (fun l hl => hlogs l (mem_cons_of_mem _ hl)) ?_
    by_cases hk : key = log.key
    · subst hk
      exact .inl (by simpa using logStep_opened hx (hlogs log mem_cons_self))
    · rw [Function.update_of_ne hk]
      refine hkey.imp_right ?_
      rintro ⟨l, hl, hopened⟩
      rcases mem_cons.1 hl with rfl | hl
      · exact absurd hopened.2.symm hk
      · exact ⟨l, hl, hopened⟩

/-- two logs of a channel that are not in the order of their kinds change places -/
theorem logStep_comm {e e' : ChainLog} (hrank : e'.kind.rank < e.kind.rank)
    (hreopened : ¬ (e.kind = .settled ∧ e'.kind = .created)) (hended : ¬ (e.kind = .closeRequested ∧ e'.kind = .settled))
    (h : logStep e x = some y) (h' : logStep e' y = some z) : ∃ y', logStep e' x = some y' ∧ logStep e y' = some z := by
  cases x <;> cases e <;> cases h <;> cases e' <;> first
    | exact ⟨_, rfl, h'⟩
    | exact absurd ⟨rfl, rfl⟩ hreopened
    | exact absurd ⟨rfl, rfl⟩ hended
    | (simp [ChainLog.kind, Kind.rank] at hrank; done)
    | cases h'

/-- two logs can change places if their channels differ or they are not in the order of their kinds -/
theorem chainStep_comm (hrank : b.event.kind.rank < a.event.kind.rank)
    (hreopened : a.event.kind = .settled → b.event.kind = .created → b.key ≠ a.key)
    (hended : a.event.kind = .closeRequested → b.event.kind = .settled → b.key ≠ a.key)
    (h : replay deposits (a :: b :: logs) = some deposits') : replay deposits (b :: a :: logs) = some deposits' := by
  obtain ⟨_, ha, h⟩ := replay_cons.1 h
  obtain ⟨_, hb, h⟩ := replay_cons.1 h
  obtain ⟨x, hx, rfl⟩ := chainStep_eq.1 ha
  obtain ⟨y, hy, rfl⟩ := chainStep_eq.1 hb
  by_cases hkey : b.key = a.key
  · rw [hkey, Function.update_self] at hy
    obtain ⟨y', hy', hx'⟩ := logStep_comm hrank (fun hk => hreopened hk.1 hk.2 hkey) (fun hk => hended hk.1 hk.2 hkey) hx hy
    refine replay_cons.2 ⟨_, chainStep_eq.2 ⟨y', hkey ▸ hy', rfl⟩, replay_cons.2 ⟨_, chainStep_eq.2 ⟨y, ?_, rfl⟩, ?_⟩⟩
    · rw [hkey, Function.update_self, hx']
    · rw [hkey, Function.update_idem] at h ⊢
      exact h
  · rw [Function.update_of_ne hkey] at hy
    refine replay_cons.2 ⟨_, chainStep_eq.2 ⟨y, hy, rfl⟩, replay_cons.2 ⟨_, chainStep_eq.2 ⟨x, ?_, rfl⟩, ?_⟩⟩
    · rw [Function.update_of_ne (Ne.symm hkey), hx]
    · rw [Function.update_comm hkey]
      exact h

/-- a log changes places with those that it may not precede -/
theorem replay_move (logs logs' : List Log) (hlogs : ∀ b ∈ logs, b.event.kind.rank < log.event.kind.rank ∧
      (log.event.kind = .settled → b.event.kind = .created → b.key ≠ log.key) ∧
      (log.event.kind = .closeRequested → b.event.kind = .settled → b.key ≠ log.key))
    (h : replay deposits (log :: (logs ++ logs')) = some deposits') :
    replay deposits (logs ++ log :: logs') = some deposits' := by
  induction logs generalizing deposits with
  | nil => exact h
  | cons b logs ih =>
    obtain ⟨hrank, hreopened, hended⟩ := hlogs b mem_cons_self
    obtain ⟨d, hb, hrest⟩ := replay_cons.1 (chainStep_comm hrank hreopened hended h)
    exact replay_cons.2 ⟨d, hb, ih (fun b hb => hlogs b (mem_cons_of_mem _ hb)) hrest⟩

/-- **Kind by kind.** The logs can be replayed kind by kind, unless they open a channel again or settle one after a close
request. -/
theorem replay_byKind (hreopened : NotReopened logs)
    (hended : logs.Pairwise fun a b => a.event.kind = .closeRequested → b.event.kind = .settled → b.key ≠ a.key)
    (h : replay deposits logs = some deposits') : replay deposits (byKind logs) = some deposits' := by
  induction logs generalizing deposits with
  | nil => exact h
  | cons log logs ih =>
    obtain ⟨hfirst, hreopened⟩ := pairwise_cons.1 hreopened
    obtain ⟨hfirst', hended⟩ := pairwise_cons.1 hended
    obtain ⟨d, hlog, hrest⟩ := replay_cons.1 h
    have h := replay_cons.2 ⟨d, hlog, ih hreopened hended hrest⟩
    -- the log moves past those of the kinds before its own
    have hmove (moved rest : List Log) (hmem : ∀ b ∈ moved, b ∈ logs ∧ b.event.kind.rank < log.event.kind.rank)
        (h : replay deposits (log :: (moved ++ rest)) = some deposits') :
        replay deposits (moved ++ log :: rest) = some deposits' :=
      replay_move moved rest (fun b hb => ⟨(hmem b hb).2, hfirst b (hmem b hb).1, hfirst' b (hmem b hb).1⟩) h
    have hcons (kind : Kind) : ofKind kind (log :: logs) =
        if log.event.kind = kind then log :: ofKind kind logs else ofKind kind logs := by simp [ofKind, filter_cons]
    simp only [byKind, hcons, append_assoc] at h ⊢
    cases hkind : log.event.kind <;> simp only [reduceCtorEq, if_true, if_false]
    · exact h
    · exact hmove (ofKind .created logs) _ (by simp +contextual [mem_ofKind, hkind, Kind.rank]) h
    · simpa only [append_assoc, cons_append] using hmove (ofKind .created logs ++ ofKind .toppedUp logs)
        (ofKind .settled logs ++ ofKind .closeRequested logs) (by simp +contextual [mem_ofKind, hkind, Kind.rank, or_imp])
        (by simpa only [append_assoc] using h)
    · simpa only [append_assoc, cons_append] using hmove (ofKind .created logs ++ ofKind .toppedUp logs ++ ofKind .settled logs)
        (ofKind .closeRequested logs) (by simp +contextual [mem_ofKind, hkind, Kind.rank, or_imp])
        (by simpa only [append_assoc] using h)

end Replay

end Gatecoin.Micro.Poller
