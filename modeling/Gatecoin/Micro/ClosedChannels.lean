/-
A channel of the microcoin manager that has been marked as closed.

`close_channel`, `sign_close`, `force_close_channel` and a close request store a channel as closed. From then on the manager
should take no payment and sign no closing balance for it. `event_channel_close_requested` breaks this: when the sender asks
to close below the balance, it closes the channel with `close_channel`, which stores its own object, and then stores the
object that it had read before, which is open.

- `marked_kept`: no other call stores a marked channel as open.
- `closed_channels_iff`: in a run the marked channels stay closed exactly when no challenge goes out for an open channel.
- `challenged_channel_takes_payments`: after the challenge the channel is open and the next payment is accepted.
-/
import Gatecoin.Core.Run
import Gatecoin.Micro.Manager

namespace Gatecoin.Micro.Manager

open Gatecoin.Core

/-- the channels that were marked as closed are stored as closed -/
def MarkedClosed (s : State) : Prop :=
  ∀ key ∈ s.marked, ∃ c, s.channels.get? key = some c ∧ c.confirmed = true ∧ c.isClosed = true

/-- the channels that were marked as closed are stored as closed, take no payment and are not signed for -/
def StaysClosed (env : Env) (s : State) : Prop :=
  ∀ key ∈ s.marked, (∃ c, s.confirmedChannel key = some c ∧ c.isClosed = true) ∧
    (∀ balance signature, registerPayment env s key balance signature =
      (s, .error (.noOpenChannel "Channel closing has been requested already."))) ∧
    ∀ balance, signClose env s key balance =
      (s, .error (.noOpenChannel "Channel closing has been requested already."))

section Steps

variable {env : Env} {a : Allowed} {s s' : State} {key : Key} {c : Channel}

theorem verifyBalanceProof_closed (hc : s.confirmedChannel key = some c) (hclosed : c.isClosed = true)
    (balance : Option ℕ) (signature : String) : verifyBalanceProof env s key balance signature =
      .error (.noOpenChannel "Channel closing has been requested already.") := by
  obtain ⟨hget, hconfirmed⟩ := confirmedChannel_some.1 hc
  have hunconfirmed : (s.unconfirmedChannel key).isSome = false := by
    simp [State.unconfirmedChannel, hget, hconfirmed]
  simp [verifyBalanceProof, hunconfirmed, hc, hclosed]

/-- a channel that is stored as closed is rejected -/
theorem staysClosed_iff : StaysClosed env s ↔ MarkedClosed s := by
  constructor
  · intro h key hkey
    obtain ⟨⟨c, hc, hclosed⟩, -⟩ := h key hkey
    obtain ⟨hget, hconfirmed⟩ := confirmedChannel_some.1 hc
    exact ⟨c, hget, hconfirmed, hclosed⟩
  · intro h key hkey
    obtain ⟨c, hget, hconfirmed, hclosed⟩ := h key hkey
    have hc := confirmedChannel_some.2 ⟨hget, hconfirmed⟩
    refine ⟨⟨c, hc, hclosed⟩, fun balance signature => ?_, fun balance => ?_⟩
    · rw [registerPayment, verifyBalanceProof_closed hc hclosed]
    · simp [signClose, hc, hclosed]

/-- a write that keeps whether the channel is closed -/
theorem MarkedClosed.write (h : MarkedClosed s) {c' : Channel} (hc : s.channels.get? key = some c)
    (hconfirmed : c'.confirmed = c.confirmed) (hclosed : c'.isClosed = c.isClosed) :
    MarkedClosed (s.setChannel key c') := by
  intro k hk
  obtain ⟨d, hd, hdc, hdclosed⟩ := h k hk
  by_cases hkey : k = key
  · subst hkey
    obtain rfl := Option.some.inj (hc.symm.trans hd)
    exact ⟨c', Dict.get?_set_self _ _ _, hconfirmed.trans hdc, hclosed.trans hdclosed⟩
  · exact ⟨d, (Dict.get?_set_ne _ _ hkey).trans hd, hdc, hdclosed⟩

/-- **One write.** A write of no stale open object keeps the marked channels closed. -/
theorem Change.marked_kept (h : Change env a s s') (ha : ¬ a.stale) (hs : MarkedClosed s) : MarkedClosed s' := by
  cases h with
  | created key deposit confirmed hfunding hnew =>
    intro k hk
    obtain ⟨d, hd, hdc, hdclosed⟩ := hs k hk
    have hkey : k ≠ key := by
      rintro rfl
      exact absurd (hdc.symm.trans (hnew d hd)) (by simp)
    exact ⟨d, (Dict.get?_set_ne _ _ hkey).trans hd, hdc, hdclosed⟩
  | topups _ _ _ hc | toppedUp _ _ _ _ _ hc | paid _ _ _ _ _ hc | served _ _ _ _ hc => exact hs.write hc rfl rfl
  | signed key c hc hproof => exact hs
  | closed key c state timeout hc hconfirmed hclosed =>
    intro k hk
    by_cases hkey : k = key
    · subst hkey
      exact ⟨_, Dict.get?_set_self _ _ _, hconfirmed, by simpa [Channel.isClosed] using hclosed⟩
    · obtain ⟨d, hd, hdc, hdclosed⟩ := hs k ((List.mem_cons.1 hk).resolve_left hkey)
      exact ⟨d, (Dict.get?_set_ne _ _ hkey).trans hd, hdc, hdclosed⟩
  | restored key c hstale hc hconfirmed =>
    have hclosed : c.isClosed = true := by
      cases h : c.isClosed with
      | false => exact absurd (hstale h) ha
      | true => rfl
    exact hs.write hc rfl (hclosed.trans (by simp [Channel.isClosed]))
  | deleted key hknown =>
    intro k hk
    obtain ⟨hmem, hkey⟩ := List.mem_filter.1 hk
    obtain ⟨d, hd, hdc, hdclosed⟩ := hs k hmem
    exact ⟨d, (Dict.get?_erase_ne _ (by simpa using hkey)).trans hd, hdc, hdclosed⟩

theorem Changes.marked_kept (h : Changes env a s s') (ha : ¬ a.stale) (hs : MarkedClosed s) : MarkedClosed s' := by
  induction h with
  | refl => exact hs
  | tail _ hchange ih => exact hchange.marked_kept ha ih

end Steps

/-- every call but a challenge keeps the marked channels closed -/
theorem marked_kept {env : Env} {s : State} {i : Input} (hs : MarkedClosed s) (hi : ¬ Challenge s i) :
    MarkedClosed (step env s i) := (step_changes env s i).marked_kept hi hs

/-- a challenge for an open channel stores it as open, after it has been marked -/
theorem not_marked_of_challenge {env : Env} {s : State} {i : Input} (hi : Challenge s i) :
    ¬ MarkedClosed (step env s i) := by
  cases i with
  | closeRequested key balance timeout tx =>
    obtain ⟨c, hc, hopen, hcheat, hproof, rfl⟩ := hi
    have hclose : closeChannel env s key .sent = ((s.addClosing key c.balance
        (env.signClose key.1 key.2 c.balance)).storeClosed key { c with state := .closed }, .ok ()) := by
      have hsome : c.lastSignature.isNone = false := by
        rw [Option.isNone_eq_false_iff]
        exact hproof
      simp [closeChannel, hc, hsome, sendClose]
    have hstep : step env s (.closeRequested key balance timeout .sent) = ((s.addClosing key c.balance
        (env.signClose key.1 key.2 c.balance)).storeClosed key { c with state := .closed }).setChannel key c := by
      simp only [step, eventChannelCloseRequested, hc, if_pos hcheat, hclose]
    rw [hstep]
    intro hmarked
    obtain ⟨d, hd, -, hclosed⟩ := hmarked key List.mem_cons_self
    obtain rfl := Option.some.inj ((Dict.get?_set_self _ _ _).symm.trans hd)
    rw [hopen] at hclosed
    cases hclosed
  | _ => exact hi.elim

/-- **Closed channels.** In a run of the manager from the empty table, every channel that was marked as closed stays stored as
closed and is rejected, after every call, exactly when no call of the run sends a challenge for an open channel. -/
theorem closed_channels_iff (env : Env) (is : List Input) :
    Along (step env) (fun s i => StaysClosed env (step env s i)) State.empty is ↔
      Along (step env) (fun s i => ¬ Challenge s i) State.empty is := by
  have hempty : MarkedClosed State.empty := fun key hkey => absurd hkey (by simp [State.empty])
  refine along_iff_of_invariant (step env) (fun s i hs => ?_) (fun s i hs hi => marked_kept hs hi) hempty
  rw [staysClosed_iff]
  exact ⟨fun hmarked hi => not_marked_of_challenge hi hmarked, fun hi => marked_kept hs hi⟩

/-! ## A challenge -/

/-- a channel with a deposit of 10, a payment of 5, and the request of its sender to close at 0 -/
def challengeRun : List Input :=
  [.opened (3, 7) 10, .registerPayment (3, 7) 5 "proof", .closeRequested (3, 7) 0 100 .sent]

/-- **A challenged channel takes payments.** The challenge is sent, with the channel marked as closed; the channel is stored as
open and a payment of one more token is accepted. -/
theorem challenged_channel_takes_payments :
    ((runFrom (step sampleEnv) State.empty challengeRun).marked = [(3, 7)] ∧
      ((runFrom (step sampleEnv) State.empty challengeRun).channels.get? (3, 7)).map (·.state) = some .opened) ∧
      (registerPayment sampleEnv (runFrom (step sampleEnv) State.empty challengeRun) (3, 7) 6 "proof").2 = .ok (3, 1) := by
  refine ⟨⟨by decide +kernel, by decide +kernel⟩, rfl⟩

end Gatecoin.Micro.Manager
