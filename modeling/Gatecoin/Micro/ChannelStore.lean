/-
The database of the microcoin manager (`channel_manager/state.py`).

A channel is stored as a row of the table `channels`, and each of its unconfirmed top ups as a row of `topups` under the row
id of the channel. The columns for amounts are declared `DECIMAL(78,0)`, which gives them numeric affinity: the text of an
integer is stored as an integer if it fits into 64 bits and as a floating point number otherwise. Deposit and balance are
converted back with `int`; the amounts of the top ups are not.

`INSERT OR REPLACE` gives a channel a new row id. The top ups under the old one stay in the table, since foreign keys are not
enforced, but no channel refers to them, and a row id that comes back is cleared first. Times are left out.

- `setChannel_eq`, `getUnconfirmedTopups_set`: what is in the tables after a channel has been stored.
- `reload_iff`: when the stored channel is read back as it was.
- `large_balance_is_not_reloaded`: amounts that the contract allows and the database changes.
-/
import Gatecoin.Core.Binary64
import Gatecoin.Micro.Manager

namespace Gatecoin.Micro.ChannelStore

open Gatecoin.Core
open Contracts (Address)
open Gatecoin.Micro.Manager (Key Channel ChannelState)
open List

/-! ## Values -/

/-- a value in a column with numeric affinity; a float is given by the number it stands for -/
inductive Stored where
  | integer (n : ℕ)
  | real (n : ℕ)
deriving DecidableEq, Repr

/-- the text of a number is inserted into a column with numeric affinity -/
def numeric (n : ℕ) : Stored := if n < 2 ^ 63 then .integer n else .real (Binary64.round n)

/-- what is read back -/
inductive PyNumber where
  | int (n : ℕ)
  | float (n : ℕ)
deriving DecidableEq, Repr

def Stored.read : Stored → PyNumber
  | .integer n => .int n
  | .real n => .float n

/-- `int(x)` -/
def PyNumber.toInt : PyNumber → ℕ
  | .int n => n
  | .float n => n

/-- `ChannelState.value` -/
def stateValue : ChannelState → ℕ
  | .opened => 0
  | .closed => 1
  | .closePending => 2
  | .undefined => 100

/-- `ChannelState(value)` -/
def stateOfValue : ℕ → Option ChannelState
  | 0 => some .opened
  | 1 => some .closed
  | 2 => some .closePending
  | 100 => some .undefined
  | _ => none

theorem stateOfValue_stateValue (state : ChannelState) : stateOfValue (stateValue state) = some state := by
  cases state <;> rfl

/-! ## Tables -/

structure ChannelRow where
  rowid : ℕ
  key : Key
  deposit : Stored
  balance : Stored
  lastSignature : Option String
  settleTimeout : ℤ
  state : ℕ
  confirmed : Bool

structure TopupRow where
  channelRowid : ℕ
  txhash : String
  deposit : Stored

/-- the tables with their keys -/
structure Database where
  channels : List ChannelRow
  topups : List TopupRow
  rowids : (channels.map (·.rowid)).Nodup
  channelKeys : (channels.map (·.key)).Nodup
  topupKeys : (topups.map fun row => (row.channelRowid, row.txhash)).Nodup
  states : ∀ row ∈ channels, (stateOfValue row.state).isSome = true

namespace Database

def empty : Database := ⟨[], [], nodup_nil, nodup_nil, nodup_nil, by simp⟩

/-- one more than the largest row id -/
def newRowid (db : Database) : ℕ := (db.channels.map (·.rowid)).foldr max 0 + 1

theorem lt_newRowid (db : Database) {row : ChannelRow} (h : row ∈ db.channels) : row.rowid < db.newRowid := by
  unfold newRowid
  generalize db.channels = rows at h
  induction rows with
  | nil => cases h
  | cons first rows ih =>
    rw [map_cons, foldr_cons]
    rcases mem_cons.1 h with rfl | h
    · omega
    · have := ih h
      omega

/-- `ADD_CHANNEL_SQL`: a row with the same key is deleted -/
def insertChannel (db : Database) (key : Key) (c : Channel) : Database where
  channels := db.channels.filter (fun row => row.key ≠ key) ++
    [⟨db.newRowid, key, numeric c.deposit, numeric c.balance, c.lastSignature, c.settleTimeout, stateValue c.state,
      c.confirmed⟩]
  topups := db.topups
  rowids := by
    rw [map_append, nodup_append]
    refine ⟨db.rowids.sublist (filter_sublist.map _), by simp, ?_⟩
    rintro a ha b hb rfl
    obtain ⟨row, hrow, rfl⟩ := mem_map.1 ha
    rw [map_singleton, mem_singleton] at hb
    exact absurd hb (db.lt_newRowid (mem_of_mem_filter hrow)).ne
  channelKeys := by
    rw [map_append, nodup_append]
    refine ⟨db.channelKeys.sublist (filter_sublist.map _), by simp, ?_⟩
    rintro a ha b hb rfl
    obtain ⟨row, hrow, rfl⟩ := mem_map.1 ha
    rw [map_singleton, mem_singleton] at hb
    exact of_decide_eq_true (mem_filter.1 hrow).2 hb
  topupKeys := db.topupKeys
  states := by
    intro row hrow
    rcases mem_append.1 hrow with hrow | hrow
    · exact db.states row (mem_of_mem_filter hrow)
    · rw [mem_singleton.1 hrow, stateOfValue_stateValue]
      rfl

def deleteTopups (db : Database) (rowid : ℕ) : Database :=
  { db with
    topups := db.topups.filter fun row => row.channelRowid ≠ rowid
    topupKeys := db.topupKeys.sublist (filter_sublist.map _) }

def insertTopup (db : Database) (rowid : ℕ) (txhash : String) (amount : ℕ) : Database :=
  { db with
    topups := db.topups.filter (fun row => (row.channelRowid, row.txhash) ≠ (rowid, txhash)) ++
      [⟨rowid, txhash, numeric amount⟩]
    topupKeys := by
      rw [map_append, nodup_append]
      refine ⟨db.topupKeys.sublist (filter_sublist.map _), by simp, ?_⟩
      rintro a ha b hb rfl
      obtain ⟨row, hrow, rfl⟩ := mem_map.1 ha
      rw [map_singleton, mem_singleton] at hb
      exact of_decide_eq_true (mem_filter.1 hrow).2 hb }

def setUnconfirmedTopups (db : Database) (rowid : ℕ) (topups : Dict String ℕ) : Database :=
  topups.entries.foldl (fun db topup => db.insertTopup rowid topup.1 topup.2) (db.deleteTopups rowid)

def channelRow (db : Database) (key : Key) : Option ChannelRow := db.channels.find? fun row => row.key = key

/-- `set_channel`, which is `add_channel` -/
def setChannel (db : Database) (key : Key) (c : Channel) : Option Database :=
  if key.2 = 0 ∨ c.state = .undefined then none
  else
    let db := db.insertChannel key c
    (db.channelRow key).map fun row => db.setUnconfirmedTopups row.rowid c.unconfirmedTopups

/-- a channel object that was built from a row -/
structure Loaded where
  deposit : ℕ
  balance : ℕ
  state : ChannelState
  lastSignature : Option String
  settleTimeout : ℤ
  confirmed : Bool
  unconfirmedTopups : Dict String PyNumber

def getUnconfirmedTopups (db : Database) (rowid : ℕ) : Dict String PyNumber :=
  Dict.ofList ((db.topups.filter fun row => row.channelRowid = rowid).map fun row => (row.txhash, row.deposit.read))

def resultToChannel (db : Database) (row : ChannelRow) : Option Loaded := do
  let state ← stateOfValue row.state
  return ⟨row.deposit.read.toInt, row.balance.read.toInt, state, row.lastSignature, row.settleTimeout, row.confirmed,
    db.getUnconfirmedTopups row.rowid⟩

def getChannel (db : Database) (key : Key) : Option Loaded :=
  if key.2 = 0 then none else (db.channelRow key).bind db.resultToChannel

/-- `get_channels`: the confirmed channels, or the unconfirmed ones -/
def getChannels (db : Database) (confirmed : Bool) : Option (Dict Key Loaded) := do
  let entries ← (db.channels.filter fun row => row.confirmed = confirmed).mapM fun row => do
    return (row.key, ← db.resultToChannel row)
  return Dict.ofList entries

/-! ## What is in the tables -/

variable {db db' : Database} {key : Key} {c : Channel} {rowid : ℕ} {row : TopupRow}

theorem mem_insertTopup {txhash : String} {amount : ℕ} : row ∈ (db.insertTopup rowid txhash amount).topups ↔
      row = ⟨rowid, txhash, numeric amount⟩ ∨ row ∈ db.topups ∧ (row.channelRowid, row.txhash) ≠ (rowid, txhash) := by
  simp only [insertTopup, mem_append, mem_filter, mem_singleton, decide_eq_true_eq]
  exact or_comm

/-- the top ups that are written, and those of other keys -/
theorem mem_insertTopups {topups : List (String × ℕ)} (hn : (topups.map Prod.fst).Nodup) (db : Database) :
    row ∈ (topups.foldl (fun db topup => db.insertTopup rowid topup.1 topup.2) db).topups ↔
      (∃ topup ∈ topups, row = ⟨rowid, topup.1, numeric topup.2⟩) ∨
        row ∈ db.topups ∧ ∀ topup ∈ topups, (row.channelRowid, row.txhash) ≠ (rowid, topup.1) := by
  induction topups generalizing db with
  | nil => simp
  | cons topup topups ih =>
    rw [map_cons, nodup_cons] at hn
    rw [foldl_cons, ih hn.2, mem_insertTopup]
    constructor
    · rintro (⟨t, ht, rfl⟩ | ⟨rfl | ⟨hrow, hne⟩, hothers⟩)
      · exact .inl ⟨t, mem_cons_of_mem _ ht, rfl⟩
      · exact .inl ⟨topup, mem_cons_self, rfl⟩
      · refine .inr ⟨hrow, fun t ht => ?_⟩
        rcases mem_cons.1 ht with rfl | ht
        · exact hne
        · exact hothers t ht
    · rintro (⟨t, ht, rfl⟩ | ⟨hrow, hothers⟩)
      · rcases mem_cons.1 ht with rfl | ht
        · refine .inr ⟨.inl rfl, fun t' ht' heq => hn.1 ?_⟩
          have hsame : t.1 = t'.1 := (Prod.mk.inj heq).2
          rw [hsame]
          exact mem_map_of_mem ht'
        · exact .inl ⟨t, ht, rfl⟩
      · exact .inr ⟨.inr ⟨hrow, hothers topup mem_cons_self⟩,
          fun t ht => hothers t (mem_cons_of_mem _ ht)⟩

theorem mem_setUnconfirmedTopups {topups : Dict String ℕ} (hrow : row.channelRowid = rowid) :
    row ∈ (db.setUnconfirmedTopups rowid topups).topups ↔
      ∃ topup ∈ topups.entries, row = ⟨rowid, topup.1, numeric topup.2⟩ := by
  rw [setUnconfirmedTopups, mem_insertTopups topups.nodup]
  refine or_iff_left fun hold => ?_
  exact of_decide_eq_true (mem_filter.1 hold.1).2 hrow

theorem txhashes_nodup (db : Database) (rowid : ℕ) :
    (((db.topups.filter fun row => row.channelRowid = rowid).map fun row => (row.txhash, row.deposit.read)).map
      Prod.fst).Nodup := by
  rw [map_map]
  refine List.Nodup.of_map (fun txhash => (rowid, txhash)) ?_
  rw [map_map]
  have hsame : (db.topups.filter fun row => row.channelRowid = rowid).map
      ((fun txhash => (rowid, txhash)) ∘ Prod.fst ∘ fun row => (row.txhash, row.deposit.read)) =
      (db.topups.filter fun row => row.channelRowid = rowid).map fun row => (row.channelRowid, row.txhash) := by
    refine map_congr_left fun row hrow => ?_
    rw [of_decide_eq_true (mem_filter.1 hrow).2]
    rfl
  rw [hsame]
  exact db.topupKeys.sublist (filter_sublist.map _)

/-- the top ups of a channel are read as they were converted when they were written -/
theorem getUnconfirmedTopups_set (db : Database) (rowid : ℕ) (topups : Dict String ℕ) (txhash : String) :
    ((db.setUnconfirmedTopups rowid topups).getUnconfirmedTopups rowid).get? txhash =
      (topups.get? txhash).map fun amount => (numeric amount).read := by
  refine Option.ext fun value => ?_
  rw [getUnconfirmedTopups, Dict.get?_ofList (txhashes_nodup _ rowid), Option.map_eq_some_iff]
  simp only [mem_map, mem_filter, decide_eq_true_eq, Prod.mk.injEq, Dict.get?_eq_some]
  constructor
  · rintro ⟨row, ⟨hmem, hrow⟩, rfl, rfl⟩
    obtain ⟨topup, htopup, rfl⟩ := (mem_setUnconfirmedTopups hrow).1 hmem
    exact ⟨topup.2, htopup, rfl⟩
  · rintro ⟨amount, hmem, rfl⟩
    exact ⟨⟨rowid, txhash, numeric amount⟩, ⟨(mem_setUnconfirmedTopups rfl).2 ⟨_, hmem, rfl⟩, rfl⟩, rfl, rfl⟩

theorem setUnconfirmedTopups_channels (db : Database) (rowid : ℕ) (topups : Dict String ℕ) :
    (db.setUnconfirmedTopups rowid topups).channels = db.channels := by
  unfold setUnconfirmedTopups
  generalize topups.entries = entries
  have hinsert : ∀ db : Database, (entries.foldl (fun db topup => db.insertTopup rowid topup.1 topup.2) db).channels =
      db.channels := by
    induction entries with
    | nil => exact fun db => rfl
    | cons topup entries ih => exact fun db => ih (db.insertTopup rowid topup.1 topup.2)
  exact hinsert (db.deleteTopups rowid)

/-- the row of a channel that was just stored -/
def storedRow (db : Database) (key : Key) (c : Channel) : ChannelRow :=
  ⟨db.newRowid, key, numeric c.deposit, numeric c.balance, c.lastSignature, c.settleTimeout, stateValue c.state, c.confirmed⟩

theorem channelRow_insert (db : Database) (key : Key) (c : Channel) :
    (db.insertChannel key c).channelRow key = some (db.storedRow key c) := by
  have hothers : (db.channels.filter fun row => row.key ≠ key).find? (fun row => row.key = key) = none := by
    rw [find?_eq_none]
    intro row hrow
    simpa using (mem_filter.1 hrow).2
  unfold channelRow insertChannel
  rw [find?_append, hothers, Option.none_or]
  simp [storedRow]

/-- a channel that can be stored is stored -/
theorem setChannel_eq (db : Database) (hkey : 0 < key.2) (hstate : c.state ≠ .undefined) : db.setChannel key c =
      some ((db.insertChannel key c).setUnconfirmedTopups db.newRowid c.unconfirmedTopups) := by
  unfold setChannel
  rw [if_neg (by simp [hstate, hkey.ne'])]
  dsimp only
  rw [channelRow_insert]
  rfl

/-- what is read back of a channel -/
def reloaded (db : Database) (c : Channel) (rowid : ℕ) : Loaded :=
  ⟨(numeric c.deposit).read.toInt, (numeric c.balance).read.toInt, c.state, c.lastSignature, c.settleTimeout, c.confirmed,
    db.getUnconfirmedTopups rowid⟩

theorem resultToChannel_stored (db₀ db : Database) (key : Key) (c : Channel) :
    db.resultToChannel (db₀.storedRow key c) = some (db.reloaded c db₀.newRowid) := by
  unfold resultToChannel storedRow
  rw [stateOfValue_stateValue]
  rfl

theorem getChannel_stored (hkey : 0 < key.2) (hrow : db.channelRow key = some (db'.storedRow key c)) :
    db.getChannel key = some (db.reloaded c db'.newRowid) := by
  rw [getChannel, if_neg hkey.ne', hrow, Option.bind_some, resultToChannel_stored]

theorem storedRow_mem (db : Database) (key : Key) (c : Channel) :
    db.storedRow key c ∈ (db.insertChannel key c).channels := mem_append_right _ mem_cons_self

/-- every row can be read -/
theorem resultToChannel_isSome (db : Database) {row : ChannelRow} (h : row ∈ db.channels) :
    ∃ l, db.resultToChannel row = some l := by
  obtain ⟨state, hstate⟩ := Option.isSome_iff_exists.1 (db.states row h)
  unfold resultToChannel
  rw [hstate]
  exact ⟨_, rfl⟩

theorem mapM_resultToChannel (db : Database) (rows : List ChannelRow) (hrows : ∀ row ∈ rows, row ∈ db.channels) :
    ∃ entries, rows.mapM (fun row => do return (row.key, ← db.resultToChannel row)) = some entries ∧
      entries.map Prod.fst = rows.map (·.key) ∧
      ∀ row ∈ rows, ∀ l, db.resultToChannel row = some l → (row.key, l) ∈ entries := by
  induction rows with
  | nil => exact ⟨[], rfl, rfl, by simp⟩
  | cons first rows ih =>
    obtain ⟨entries, hentries, hkeys, hmem⟩ := ih fun row hrow => hrows row (mem_cons_of_mem _ hrow)
    obtain ⟨l', hl'⟩ := db.resultToChannel_isSome (hrows first mem_cons_self)
    refine ⟨(first.key, l') :: entries, ?_, by simp [hkeys], fun row hrow l hl => ?_⟩
    · rw [mapM_cons, hentries, hl']
      rfl
    · rcases mem_cons.1 hrow with rfl | hrow
      · obtain rfl := Option.some.inj (hl'.symm.trans hl)
        exact mem_cons_self
      · exact mem_cons_of_mem _ (hmem row hrow l hl)

/-- the channels of the table are under their keys -/
theorem getChannels_get? (db : Database) {row : ChannelRow} {l : Loaded} (hrow : row ∈ db.channels)
    (hl : db.resultToChannel row = some l) :
    ∃ table, db.getChannels row.confirmed = some table ∧ table.get? row.key = some l := by
  obtain ⟨entries, hentries, hkeys, hmem⟩ :=
    db.mapM_resultToChannel (db.channels.filter fun r => r.confirmed = row.confirmed) fun r hr => mem_of_mem_filter hr
  have hn : (entries.map Prod.fst).Nodup := hkeys ▸ db.channelKeys.sublist (filter_sublist.map _)
  refine ⟨Dict.ofList entries, ?_, ?_⟩
  · unfold getChannels
    rw [hentries]
    rfl
  · exact (Dict.get?_ofList hn).2 (hmem row (mem_filter.2 ⟨hrow, by simp⟩) l hl)

end Database

/-! ## Reading back -/

/-- the object has the values of the channel, with integer amounts -/
structure Database.Loaded.Same (l : Database.Loaded) (c : Channel) : Prop where
  deposit : l.deposit = c.deposit
  balance : l.balance = c.balance
  state : l.state = c.state
  lastSignature : l.lastSignature = c.lastSignature
  settleTimeout : l.settleTimeout = c.settleTimeout
  confirmed : l.confirmed = c.confirmed
  topups : ∀ txhash, l.unconfirmedTopups.get? txhash = (c.unconfirmedTopups.get? txhash).map .int

/-- `get_channel` and the table of channels give the channel back -/
def Reloads (db : Database) (key : Key) (c : Channel) : Prop :=
  ∃ l, l.Same c ∧ db.getChannel key = some l ∧
    ∃ table, db.getChannels c.confirmed = some table ∧ table.get? key = some l

/-- the amounts that `int` gets back -/
def Kept (n : ℕ) : Prop := n < 2 ^ 63 ∨ Binary64.Exact n

instance (n : ℕ) : Decidable (Kept n) := inferInstanceAs (Decidable (_ ∨ _))

structure Storable (c : Channel) : Prop where
  deposit : Kept c.deposit
  balance : Kept c.balance
  topups : ∀ txhash amount, c.unconfirmedTopups.get? txhash = some amount → amount < 2 ^ 63

theorem numeric_toInt (n : ℕ) : (numeric n).read.toInt = n ↔ Kept n := by
  unfold numeric Kept
  split_ifs with h
  · exact ⟨fun _ => .inl h, fun _ => rfl⟩
  · rw [or_iff_right h]
    exact Binary64.round_eq_self_iff n

theorem numeric_read (n : ℕ) : (numeric n).read = .int n ↔ n < 2 ^ 63 := by
  unfold numeric
  split_ifs with h
  · exact ⟨fun _ => h, fun _ => rfl⟩
  · exact ⟨fun heq => (by cases heq), fun hlt => absurd hlt h⟩

theorem map_numeric_read (topup : Option ℕ) :
    (topup.map fun amount => (numeric amount).read) = topup.map .int ↔ ∀ amount, topup = some amount → amount < 2 ^ 63 := by
  cases topup with
  | none => simp
  | some amount =>
    rw [Option.map_some, Option.map_some, Option.some.injEq, numeric_read]
    exact ⟨fun h a ha => Option.some.inj ha ▸ h, fun h => h amount rfl⟩

theorem reloaded_same_iff (db : Database) (c : Channel) (rowid : ℕ) :
    ((db.setUnconfirmedTopups rowid c.unconfirmedTopups).reloaded c rowid).Same c ↔ Storable c := by
  constructor
  · intro h
    refine ⟨(numeric_toInt _).1 h.deposit, (numeric_toInt _).1 h.balance, fun txhash => ?_⟩
    have htopup := h.topups txhash
    rw [Database.reloaded, Database.getUnconfirmedTopups_set] at htopup
    exact (map_numeric_read _).1 htopup
  · intro h
    refine ⟨(numeric_toInt _).2 h.deposit, (numeric_toInt _).2 h.balance, rfl, rfl, rfl, rfl, fun txhash => ?_⟩
    rw [Database.reloaded, Database.getUnconfirmedTopups_set]
    exact (map_numeric_read _).2 (h.topups txhash)

/-- **Reading back a channel.** A channel that is stored in any database is read back as it was, by `get_channel` and in the
table of channels, exactly when its deposit and balance are below 2 ^ 63 or values of floats and its top ups are below 2 ^ 63.
A signature over such a balance is then one over the balance that is read. -/
theorem reload_iff (db : Database) {key : Key} {c : Channel} (hkey : 0 < key.2) (hstate : c.state ≠ .undefined) :
    ∃ db', db.setChannel key c = some db' ∧ (Reloads db' key c ↔ Storable c) ∧
      (Storable c → ∀ (env : Manager.Env) signature, c.lastSignature = some signature →
        env.recover key.2 c.balance signature = some key.1 → ∃ l, db'.getChannel key = some l ∧
          l.lastSignature = some signature ∧ env.recover key.2 l.balance signature = some key.1) := by
  refine ⟨_, db.setChannel_eq hkey hstate, ?_⟩
  have hchannels := (db.insertChannel key c).setUnconfirmedTopups_channels db.newRowid c.unconfirmedTopups
  have hsame := reloaded_same_iff (db.insertChannel key c) c db.newRowid
  generalize (db.insertChannel key c).setUnconfirmedTopups db.newRowid c.unconfirmedTopups = db' at hchannels hsame ⊢
  have hrow : db'.channelRow key = some (db.storedRow key c) := by
    rw [Database.channelRow, hchannels]
    exact db.channelRow_insert key c
  have hget : db'.getChannel key = some (db'.reloaded c db.newRowid) := Database.getChannel_stored hkey hrow
  have htable := db'.getChannels_get? (hchannels ▸ db.storedRow_mem key c) (Database.resultToChannel_stored db db' key c)
  refine ⟨⟨?_, fun h => ⟨_, hsame.2 h, hget, htable⟩⟩, fun h env signature hsignature hvalid => ?_⟩
  · rintro ⟨l, hl, hgetl, -⟩
    obtain rfl := Option.some.inj (hget.symm.trans hgetl)
    exact hsame.1 hl
  · have hl := hsame.2 h
    exact ⟨_, hget, hl.lastSignature.trans hsignature, by rw [hl.balance]; exact hvalid⟩

/-- a channel of the sender 3 with the highest deposit that the contract allows -/
def full (balance topup : ℕ) : Channel :=
  ⟨10 ^ 20, balance, .opened, some "signature", -1, true, Dict.empty.set "0x1" topup⟩

theorem reload_of_round_amounts : ∃ db', Database.empty.setChannel (3, 7) (full (10 ^ 19) (10 ^ 18)) = some db' ∧
    Reloads db' (3, 7) (full (10 ^ 19) (10 ^ 18)) := by
  have hkey : 0 < ((3, 7) : Key).2 := by decide
  have hstate : (full (10 ^ 19) (10 ^ 18)).state ≠ .undefined := by decide
  obtain ⟨db', hset, hreloads, -⟩ := reload_iff Database.empty hkey hstate
  refine ⟨db', hset, hreloads.2 ⟨by decide +kernel, by decide +kernel, fun txhash amount hamount => ?_⟩⟩
  obtain ⟨-, rfl⟩ : txhash = "0x1" ∧ amount = 10 ^ 18 := by
    have hentry : txhash = "0x1" ∧ some (10 ^ 18) = some amount := by
      simpa [full, Dict.get?_set] using hamount
    exact ⟨hentry.1, (Option.some.inj hentry.2).symm⟩
  decide

/-- a signature of the sender 3 over this balance and no other -/
def signedBalance (balance : ℕ) : Manager.Env :=
  ⟨fun _ b _ => if b = balance then some 3 else none, fun _ _ _ => "", fun _ => ""⟩

/-- A balance of 10 ^ 19 + 1 is read back as 10 ^ 19, for which the stored signature is not valid, and a top up of 10 ^ 19 as
a floating point number. -/
theorem large_balance_is_not_reloaded : ∃ db' l,
    Database.empty.setChannel (3, 7) (full (10 ^ 19 + 1) (10 ^ 19)) = some db' ∧ db'.getChannel (3, 7) = some l ∧
      ¬ Reloads db' (3, 7) (full (10 ^ 19 + 1) (10 ^ 19)) ∧ l.balance = 10 ^ 19 ∧
      l.unconfirmedTopups.get? "0x1" = some (.float (10 ^ 19)) ∧ l.lastSignature = some "signature" ∧
      (signedBalance (10 ^ 19 + 1)).recover 7 (10 ^ 19 + 1) "signature" = some 3 ∧
      (signedBalance (10 ^ 19 + 1)).recover 7 l.balance "signature" = none := by
  refine ⟨_, _, rfl, rfl, ?_, by decide +kernel, by decide +kernel, rfl, by decide +kernel, by decide +kernel⟩
  rintro ⟨l, hsame, hget, -⟩
  have hbalance := hsame.balance
  rw [← Option.some.inj hget] at hbalance
  exact absurd hbalance (by decide +kernel)

end Gatecoin.Micro.ChannelStore
