/-
The bytes that a signature of a protocol message covers (`messages/transfers.py`, `messages/withdraw.py`), and what the
receiving node reads from the message (`messages/decode.py`, `message_handler.py`).

An envelope message shares its signature with the balance proof for the contract: what is signed is the packed balance
proof, with the hash of the rest of the message in it. A withdraw request and its confirmation share their signature with
the withdraw for the contract, which has neither a nonce nor the flag of a cooperative settle and is the same for both. A
refund has metadata that its hash leaves out.

Results:
- `eq_of_dataToSign`: two messages with the same signed bytes and the same uncovered fields are equal.
- `signed_data_determines_iff`: for equal signed bytes the receiver reads the same iff the uncovered fields are equal.
- `withdraw_signature_reused`: a signed withdraw request is accepted with the flag of a cooperative settle.
-/
import Gatecoin.Client.ChannelRun

namespace Gatecoin.Client

open Gatecoin.Core List

variable (env : Env)

/-! ## Messages -/

/-- `EnvelopeMessage`: what is built passes `assert_envelope_values` and can be packed -/
structure EnvelopeMessage extends BalanceProof where
  messageIdentifier : ℕ
  messageIdentifier_le : messageIdentifier ≤ uint64Max
  chain_le : canonicalIdentifier.chainIdentifier ≤ uint256Max
  channel_pos : 0 < canonicalIdentifier.channelIdentifier
  channel_le : canonicalIdentifier.channelIdentifier ≤ uint256Max
  nonce_pos : 0 < nonce
  nonce_le : nonce ≤ uint64Max
  transferred_le : transferredAmount ≤ uint256Max
  locked_le : lockedAmount ≤ uint256Max
  locksroot_size : locksroot.length = 32

/-- `LockedTransferBase`, without the metadata -/
structure LockedTransferMessage extends EnvelopeMessage where
  paymentIdentifier : ℕ
  token : Address
  recipient : Address
  lock : HashTimeLock
  target : Address
  initiator : Address
  paymentIdentifier_le : paymentIdentifier ≤ uint64Max

/-- `Unlock` -/
structure UnlockMessage extends EnvelopeMessage where
  paymentIdentifier : ℕ
  secret : Bytes
  paymentIdentifier_le : paymentIdentifier ≤ uint64Max
  secret_size : secret.length = 32

/-- `LockExpired` -/
structure LockExpiredMessage extends EnvelopeMessage where
  recipient : Address
  secrethash : Bytes

/-- the common fields of the withdraw messages -/
structure WithdrawFields where
  messageIdentifier : ℕ
  canonicalIdentifier : CanonicalIdentifier
  participant : Address
  totalWithdraw : ℕ
  nonce : ℕ
  expiration : ℕ
  chain_le : canonicalIdentifier.chainIdentifier ≤ uint256Max
  channel_le : canonicalIdentifier.channelIdentifier ≤ uint256Max
  total_le : totalWithdraw ≤ uint256Max
  expiration_le : expiration ≤ uint256Max

/-- `WithdrawExpired`: the identifier and the nonce are packed as well -/
structure WithdrawExpiredFields extends WithdrawFields where
  messageIdentifier_le : messageIdentifier ≤ uint64Max
  nonce_le : nonce ≤ uint256Max

/-- the messages with a channel nonce; metadata are given by their canonical encoding -/
inductive SignedMessage where
  | lockedTransfer (message : LockedTransferMessage) (metadata : Option Bytes)
  | refundTransfer (message : LockedTransferMessage) (metadata : Option Bytes)
  | unlock (message : UnlockMessage)
  | lockExpired (message : LockExpiredMessage)
  | withdrawRequest (message : WithdrawFields) (coopSettle : Bool)
  | withdrawConfirmation (message : WithdrawFields)
  | withdrawExpired (message : WithdrawExpiredFields)

namespace SignedMessage

/-! ## What is signed -/

def cmdid : SignedMessage → UInt8
  | .lockedTransfer _ _ => 7
  | .refundTransfer _ _ => 8
  | .unlock _ => 4
  | .lockExpired _ => 13
  | .withdrawRequest _ _ => 15
  | .withdrawConfirmation _ => 16
  | .withdrawExpired _ => 17

/-- `_pack_locked_transfer_data` -/
def packLockedTransferData (cmdid : UInt8) (m : LockedTransferMessage) : Bytes :=
  [cmdid] ++ toBytesBE 8 m.messageIdentifier ++ toBytesBE 8 m.paymentIdentifier ++ toBytesBE 32 m.lock.expiration ++
    addressBytes m.token ++ addressBytes m.recipient ++ addressBytes m.target ++ addressBytes m.initiator ++
    m.lock.secrethash ++ toBytesBE 32 m.lock.amount

def metadataHash : Option Bytes → Bytes
  | none => []
  | some metadata => env.keccak256 metadata

/-- the bytes whose hash is `message_hash` -/
def messageBytes (m : SignedMessage) : Bytes :=
  match m with
  | .lockedTransfer t metadata => packLockedTransferData m.cmdid t ++ metadataHash env metadata
  | .refundTransfer t _ => packLockedTransferData m.cmdid t
  | .unlock u => [m.cmdid] ++ toBytesBE 8 u.messageIdentifier ++ toBytesBE 8 u.paymentIdentifier ++ u.secret
  | .lockExpired e => [m.cmdid] ++ toBytesBE 8 e.messageIdentifier ++ addressBytes e.recipient ++ e.secrethash
  | _ => []

def messageHash (m : SignedMessage) : Bytes := env.keccak256 (m.messageBytes env)

/-- `_data_to_sign` of an envelope message -/
def packEnvelope (b : BalanceProof) (messageHash : Bytes) : Bytes :=
  packBalanceProof b.nonce (hashBalanceData env b.transferredAmount b.lockedAmount b.locksroot) messageHash
    b.canonicalIdentifier

/-- `_data_to_sign` of a request or a confirmation -/
def packWithdrawMessage (m : WithdrawFields) : Bytes :=
  withdrawData m.canonicalIdentifier m.participant m.totalWithdraw m.expiration

def dataToSign (m : SignedMessage) : Bytes :=
  match m with
  | .lockedTransfer t _ => packEnvelope env t.toBalanceProof (m.messageHash env)
  | .refundTransfer t _ => packEnvelope env t.toBalanceProof (m.messageHash env)
  | .unlock u => packEnvelope env u.toBalanceProof (m.messageHash env)
  | .lockExpired e => packEnvelope env e.toBalanceProof (m.messageHash env)
  | .withdrawRequest w _ => packWithdrawMessage w
  | .withdrawConfirmation w => packWithdrawMessage w
  | .withdrawExpired w => [m.cmdid, 0, 0, 0] ++ toBytesBE 32 w.nonce ++ toBytesBE 8 w.messageIdentifier ++
      packWithdrawMessage w.toWithdrawFields

/-! ## What is read -/

end SignedMessage

/-- the state changes that the messages become; those of a transfer keep the metadata -/
inductive ReceivedMessage where
  | lockedTransfer (transfer : LockedTransferSigned) (metadata : Option Bytes)
  | refundTransfer (transfer : LockedTransferSigned) (metadata : Option Bytes)
  | unlock (stateChange : ReceiveUnlock)
  | lockExpired (stateChange : ReceiveLockExpired)
  | withdrawRequest (stateChange : ReceiveWithdrawRequest)
  | withdrawConfirmation (stateChange : ReceiveWithdrawConfirmation)
  | withdrawExpired (stateChange : ReceiveWithdrawExpired)

namespace SignedMessage

/-- `lockedtransfersigned_from_message` -/
def lockedTransferSigned (routes : Option Bytes → List RouteState) (m : LockedTransferMessage) (metadata : Option Bytes)
    (messageHash signature : Bytes) (sender : Address) : LockedTransferSigned :=
  ⟨m.paymentIdentifier, m.token, m.lock, m.initiator, m.target, m.messageIdentifier, routes metadata,
    ⟨m.toBalanceProof, messageHash, signature, sender⟩, none⟩

/-- what the message handler makes of a message with its signature and the sender that was recovered from it; `routes` are
the routes in the metadata -/
def received (routes : Option Bytes → List RouteState) (signature : Bytes) (sender : Address)
    (m : SignedMessage) : ReceivedMessage :=
  match m with
  | .lockedTransfer t metadata =>
    .lockedTransfer (lockedTransferSigned routes t metadata (m.messageHash env) signature sender) metadata
  | .refundTransfer t metadata =>
    .refundTransfer (lockedTransferSigned routes t metadata (m.messageHash env) signature sender) metadata
  | .unlock u => .unlock ⟨⟨u.toBalanceProof, m.messageHash env, signature, sender⟩, u.messageIdentifier, u.secret⟩
  | .lockExpired e =>
    .lockExpired ⟨⟨e.toBalanceProof, m.messageHash env, signature, sender⟩, e.secrethash, e.messageIdentifier⟩
  | .withdrawRequest w coopSettle => .withdrawRequest ⟨sender, w.messageIdentifier, w.canonicalIdentifier, w.totalWithdraw,
      w.nonce, w.expiration, signature, w.participant, coopSettle⟩
  | .withdrawConfirmation w => .withdrawConfirmation ⟨sender, w.messageIdentifier, w.canonicalIdentifier, w.totalWithdraw,
      w.nonce, w.expiration, signature, w.participant⟩
  | .withdrawExpired w => .withdrawExpired ⟨sender, w.messageIdentifier, w.canonicalIdentifier, w.totalWithdraw,
      w.expiration, w.nonce, w.participant⟩

/-! ## What is not covered -/

/-- the balance data that `hash_balance_data` does not hash -/
def emptyBalance (b : BalanceProof) : Bool :=
  b.transferredAmount = 0 ∧ b.lockedAmount = 0 ∧ b.locksroot = locksrootOfNoLocks env

/-- the part of a message that its signature does not cover: of a withdraw request or a confirmation which of the two it is,
its nonce, its identifier and its flag; of a refund its metadata. Empty balance data are signed as the hash zero. -/
structure Uncovered where
  confirmation : Bool
  nonce : ℕ
  messageIdentifier : ℕ
  coopSettle : Bool
  metadata : Option Bytes
  emptyBalance : Bool

def uncovered : SignedMessage → Uncovered
  | .lockedTransfer m _ => ⟨false, 0, 0, false, none, emptyBalance env m.toBalanceProof⟩
  | .refundTransfer m metadata => ⟨false, 0, 0, false, metadata, emptyBalance env m.toBalanceProof⟩
  | .unlock m => ⟨false, 0, 0, false, none, emptyBalance env m.toBalanceProof⟩
  | .lockExpired m => ⟨false, 0, 0, false, none, emptyBalance env m.toBalanceProof⟩
  | .withdrawRequest m coopSettle => ⟨false, m.nonce, m.messageIdentifier, coopSettle, none, false⟩
  | .withdrawConfirmation m => ⟨true, m.nonce, m.messageIdentifier, false, none, false⟩
  | .withdrawExpired _ => ⟨false, 0, 0, false, none, false⟩

def balanceBytes (b : BalanceProof) : Bytes :=
  toBytesBE 32 b.transferredAmount ++ toBytesBE 32 b.lockedAmount ++ b.locksroot

/-- the envelope of a message -/
def envelope : SignedMessage → Option EnvelopeMessage
  | .lockedTransfer m _ => some m.toEnvelopeMessage
  | .refundTransfer m _ => some m.toEnvelopeMessage
  | .unlock m => some m.toEnvelopeMessage
  | .lockExpired m => some m.toEnvelopeMessage
  | _ => none

/-- the metadata that the hash of a message has in it -/
def hashedMetadata : SignedMessage → Option Bytes
  | .lockedTransfer _ metadata => metadata
  | _ => none

/-- the byte strings that are hashed for a message -/
def hashed (m : SignedMessage) : List Bytes :=
  match m.envelope with
  | some e => balanceBytes e.toBalanceProof :: m.messageBytes env :: m.hashedMetadata.toList
  | none => []

/-! ## Reading the signed bytes -/

section Reading

variable {env : Env} {xs ys : Bytes} {e' : EnvelopeMessage} {s : Set Bytes} {cmdid : UInt8} {e : EnvelopeMessage}
  {m : SignedMessage}

theorem lt_256_8 {n : ℕ} (h : n ≤ uint64Max) : n < 256 ^ 8 := by
  unfold uint64Max at h
  omega

theorem lt_256_32 {n : ℕ} (h : n ≤ uint256Max) : n < 256 ^ 32 := by
  unfold uint256Max at h
  omega

theorem addressBytes_append_inj {a b : Address} (h : addressBytes a ++ xs = addressBytes b ++ ys) : a = b ∧ xs = ys := by
  have h256 : (256 : ℕ) ^ 20 = 2 ^ 160 := by norm_num
  obtain ⟨ha, htail⟩ := toBytesBE_append_inj (h256 ▸ a.isLt) (h256 ▸ b.isLt) h
  exact ⟨BitVec.toNat_inj.1 ha, htail⟩

/-- the parts of a canonical identifier fit into the signed bytes -/
def Packable (ci : CanonicalIdentifier) : Prop := ci.chainIdentifier ≤ uint256Max ∧ ci.channelIdentifier ≤ uint256Max

theorem packHeader_append_inj {ci ci' : CanonicalIdentifier} {messageTypeId : ℕ} (hci : Packable ci) (hci' : Packable ci')
    (h : packHeader ci messageTypeId ++ xs = packHeader ci' messageTypeId ++ ys) : ci = ci' ∧ xs = ys := by
  simp only [packHeader, append_assoc] at h
  obtain ⟨hnetwork, h⟩ := addressBytes_append_inj h
  obtain ⟨hchain, h⟩ := toBytesBE_append_inj (lt_256_32 hci.1) (lt_256_32 hci'.1) h
  have h := append_cancel_left h
  obtain ⟨hchannel, h⟩ := toBytesBE_append_inj (lt_256_32 hci.2) (lt_256_32 hci'.2) h
  refine ⟨?_, h⟩
  clear h hci hci'
  cases ci
  cases ci'
  cases hnetwork
  cases hchain
  cases hchannel
  rfl

theorem length_packHeader (ci : CanonicalIdentifier) (messageTypeId : ℕ) : (packHeader ci messageTypeId).length = 116 := by
  simp [packHeader, addressBytes]

theorem length_packWithdrawMessage (m : WithdrawFields) : (packWithdrawMessage m).length = 200 := by
  simp [packWithdrawMessage, withdrawData, length_packHeader, addressBytes]

theorem length_hashBalanceData (hsize : ∀ b, (env.keccak256 b).length = 32) (b : BalanceProof) :
    (hashBalanceData env b.transferredAmount b.lockedAmount b.locksroot).length = 32 := by
  unfold hashBalanceData
  split_ifs
  · simp
  · exact hsize _

theorem length_packEnvelope (hsize : ∀ b, (env.keccak256 b).length = 32) (b : BalanceProof) (bytes : Bytes) :
    (packEnvelope env b (env.keccak256 bytes)).length = 212 := by
  simp [packEnvelope, packBalanceProof, length_packHeader, length_hashBalanceData hsize, hsize]

theorem balanceBytes_inj (h : balanceBytes e.toBalanceProof = balanceBytes e'.toBalanceProof) :
    e.transferredAmount = e'.transferredAmount ∧ e.lockedAmount = e'.lockedAmount ∧ e.locksroot = e'.locksroot := by
  simp only [balanceBytes, append_assoc] at h
  obtain ⟨htransferred, h⟩ := toBytesBE_append_inj (lt_256_32 e.transferred_le) (lt_256_32 e'.transferred_le) h
  obtain ⟨hlocked, h⟩ := toBytesBE_append_inj (lt_256_32 e.locked_le) (lt_256_32 e'.locked_le) h
  exact ⟨htransferred, hlocked, h⟩

/-- balance data with the same hash are equal, if both or none are empty -/
theorem balance_of_hash (hcollisions : Set.InjOn env.keccak256 s)
    (hs : balanceBytes e.toBalanceProof ∈ s) (hs' : balanceBytes e'.toBalanceProof ∈ s)
    (hempty : emptyBalance env e.toBalanceProof = emptyBalance env e'.toBalanceProof)
    (h : hashBalanceData env e.transferredAmount e.lockedAmount e.locksroot =
      hashBalanceData env e'.transferredAmount e'.lockedAmount e'.locksroot) :
    e.transferredAmount = e'.transferredAmount ∧ e.lockedAmount = e'.lockedAmount ∧ e.locksroot = e'.locksroot := by
  have hiff : (e.transferredAmount = 0 ∧ e.lockedAmount = 0 ∧ e.locksroot = locksrootOfNoLocks env) ↔
      (e'.transferredAmount = 0 ∧ e'.lockedAmount = 0 ∧ e'.locksroot = locksrootOfNoLocks env) :=
    decide_eq_decide.1 hempty
  by_cases hzero : e.transferredAmount = 0 ∧ e.lockedAmount = 0 ∧ e.locksroot = locksrootOfNoLocks env
  · have hzero' := hiff.1 hzero
    exact ⟨hzero.1.trans hzero'.1.symm, hzero.2.1.trans hzero'.2.1.symm, hzero.2.2.trans hzero'.2.2.symm⟩
  · rw [hashBalanceData, hashBalanceData, if_neg hzero, if_neg (mt hiff.2 hzero)] at h
    exact balanceBytes_inj (hcollisions hs hs' h)

/-- the balance proof and the message hash of an envelope -/
theorem packEnvelope_inj (hsize : ∀ b, (env.keccak256 b).length = 32)
    (hcollisions : Set.InjOn env.keccak256 s) (hs : balanceBytes e.toBalanceProof ∈ s)
    (hs' : balanceBytes e'.toBalanceProof ∈ s)
    (hempty : emptyBalance env e.toBalanceProof = emptyBalance env e'.toBalanceProof)
    (h : packEnvelope env e.toBalanceProof xs = packEnvelope env e'.toBalanceProof ys) :
    e.toBalanceProof = e'.toBalanceProof ∧ xs = ys := by
  simp only [packEnvelope, packBalanceProof, append_assoc] at h
  obtain ⟨hci, h⟩ := packHeader_append_inj ⟨e.chain_le, e.channel_le⟩ ⟨e'.chain_le, e'.channel_le⟩ h
  obtain ⟨hhash, h⟩ := append_inj h (by rw [length_hashBalanceData hsize, length_hashBalanceData hsize])
  have hnonce : ∀ e : EnvelopeMessage, e.nonce < 256 ^ 32 := fun e =>
    lt_256_32 (e.nonce_le.trans (by decide))
  obtain ⟨hn, h⟩ := toBytesBE_append_inj (hnonce e) (hnonce e') h
  obtain ⟨ht, hl, hr⟩ := balance_of_hash hcollisions hs hs' hempty hhash
  refine ⟨?_, h⟩
  have hext : ∀ b b' : BalanceProof, b.nonce = b'.nonce → b.transferredAmount = b'.transferredAmount →
      b.lockedAmount = b'.lockedAmount → b.locksroot = b'.locksroot → b.canonicalIdentifier = b'.canonicalIdentifier →
      b = b' := by
    rintro ⟨⟩ ⟨⟩ rfl rfl rfl rfl rfl
    rfl
  exact hext _ _ hn ht hl hr hci

theorem packWithdraw_inj {w w' : WithdrawFields} (h : packWithdrawMessage w = packWithdrawMessage w')
    (hnonce : w.nonce = w'.nonce) (hidentifier : w.messageIdentifier = w'.messageIdentifier) : w = w' := by
  have htail : packWithdrawMessage w ++ [] = packWithdrawMessage w' ++ [] := by rw [h]
  simp only [packWithdrawMessage, withdrawData, append_assoc] at htail
  obtain ⟨hci, h⟩ := packHeader_append_inj ⟨w.chain_le, w.channel_le⟩ ⟨w'.chain_le, w'.channel_le⟩ htail
  obtain ⟨hparticipant, h⟩ := addressBytes_append_inj h
  obtain ⟨htotal, h⟩ := toBytesBE_append_inj (lt_256_32 w.total_le) (lt_256_32 w'.total_le) h
  obtain ⟨hexpiration, -⟩ := toBytesBE_append_inj (lt_256_32 w.expiration_le) (lt_256_32 w'.expiration_le) h
  cases w
  cases w'
  cases hci
  cases hparticipant
  cases htotal
  cases hexpiration
  cases hnonce
  cases hidentifier
  rfl

/-- the fields of a transfer that are packed into its message hash -/
theorem packLockedTransferData_inj {m m' : LockedTransferMessage} (hproof : m.toBalanceProof = m'.toBalanceProof)
    (h : packLockedTransferData cmdid m ++ xs = packLockedTransferData cmdid m' ++ ys) : m = m' ∧ xs = ys := by
  simp only [packLockedTransferData, append_assoc] at h
  have h := append_cancel_left h
  obtain ⟨hidentifier, h⟩ := toBytesBE_append_inj (lt_256_8 m.messageIdentifier_le) (lt_256_8 m'.messageIdentifier_le) h
  obtain ⟨hpayment, h⟩ := toBytesBE_append_inj (lt_256_8 m.paymentIdentifier_le) (lt_256_8 m'.paymentIdentifier_le) h
  obtain ⟨hexpiration, h⟩ := toBytesBE_append_inj (lt_256_32 m.lock.expiration_le) (lt_256_32 m'.lock.expiration_le) h
  obtain ⟨htoken, h⟩ := addressBytes_append_inj h
  obtain ⟨hrecipient, h⟩ := addressBytes_append_inj h
  obtain ⟨htarget, h⟩ := addressBytes_append_inj h
  obtain ⟨hinitiator, h⟩ := addressBytes_append_inj h
  obtain ⟨hsecrethash, h⟩ := append_inj h (m.lock.size.trans m'.lock.size.symm)
  obtain ⟨hamount, h⟩ := toBytesBE_append_inj (lt_256_32 m.lock.amount_le) (lt_256_32 m'.lock.amount_le) h
  refine ⟨?_, h⟩
  obtain ⟨⟨b, _⟩, _, _, _, ⟨_, _, _, _, _, _⟩, _, _⟩ := m
  obtain ⟨⟨b', _⟩, _, _, _, ⟨_, _, _, _, _, _⟩, _, _⟩ := m'
  dsimp only at *
  subst hproof hidentifier hpayment hexpiration htoken hrecipient htarget hinitiator hsecrethash hamount
  rfl

theorem head_messageBytes (he : m.envelope = some e) : (m.messageBytes env).head? = some m.cmdid := by
  cases m <;> first | rfl | cases he

theorem metadataHash_inj {metadata metadata' : Option Bytes} (hcollisions : Set.InjOn env.keccak256 s)
    (hsize : ∀ b, (env.keccak256 b).length = 32) (hs : ∀ b ∈ metadata, b ∈ s) (hs' : ∀ b ∈ metadata', b ∈ s)
    (h : metadataHash env metadata = metadataHash env metadata') : metadata = metadata' := by
  have hne : ∀ b, env.keccak256 b ≠ [] := by
    intro b hnil
    have hlength := hsize b
    rw [hnil] at hlength
    cases hlength
  cases metadata with
  | none =>
    cases metadata' with
    | none => rfl
    | some b => exact absurd h.symm (hne b)
  | some b =>
    cases metadata' with
    | none => exact absurd h (hne b)
    | some b' => rw [hcollisions (hs b rfl) (hs' b' rfl) h]

theorem unlockBytes_inj {u u' : UnlockMessage} (hproof : u.toBalanceProof = u'.toBalanceProof)
    (h : [cmdid] ++ toBytesBE 8 u.messageIdentifier ++ toBytesBE 8 u.paymentIdentifier ++ u.secret =
      [cmdid] ++ toBytesBE 8 u'.messageIdentifier ++ toBytesBE 8 u'.paymentIdentifier ++ u'.secret) : u = u' := by
  simp only [append_assoc] at h
  have h := append_cancel_left h
  obtain ⟨hidentifier, h⟩ := toBytesBE_append_inj (lt_256_8 u.messageIdentifier_le) (lt_256_8 u'.messageIdentifier_le) h
  obtain ⟨hpayment, hsecret⟩ := toBytesBE_append_inj (lt_256_8 u.paymentIdentifier_le) (lt_256_8 u'.paymentIdentifier_le) h
  obtain ⟨⟨b, _⟩, _, _⟩ := u
  obtain ⟨⟨b', _⟩, _, _⟩ := u'
  dsimp only at *
  subst hproof hidentifier hpayment hsecret
  rfl

theorem lockExpiredBytes_inj {x x' : LockExpiredMessage} (hproof : x.toBalanceProof = x'.toBalanceProof)
    (h : [cmdid] ++ toBytesBE 8 x.messageIdentifier ++ addressBytes x.recipient ++ x.secrethash =
      [cmdid] ++ toBytesBE 8 x'.messageIdentifier ++ addressBytes x'.recipient ++ x'.secrethash) : x = x' := by
  simp only [append_assoc] at h
  have h := append_cancel_left h
  obtain ⟨hidentifier, h⟩ := toBytesBE_append_inj (lt_256_8 x.messageIdentifier_le) (lt_256_8 x'.messageIdentifier_le) h
  obtain ⟨hrecipient, hsecrethash⟩ := addressBytes_append_inj h
  obtain ⟨⟨b, _⟩, _, _⟩ := x
  obtain ⟨⟨b', _⟩, _, _⟩ := x'
  dsimp only at *
  subst hproof hidentifier hrecipient hsecrethash
  rfl

/-- the message bytes of two envelopes with the same balance proof determine the message, the metadata of a refund apart -/
theorem messageBytes_inj {m' : SignedMessage}
    (hcollisions : Set.InjOn env.keccak256 s) (hsize : ∀ b, (env.keccak256 b).length = 32)
    (hs : ∀ b ∈ m.hashedMetadata, b ∈ s) (hs' : ∀ b ∈ m'.hashedMetadata, b ∈ s)
    (he : m.envelope = some e) (he' : m'.envelope = some e') (hproof : e.toBalanceProof = e'.toBalanceProof)
    (hmetadata : (m.uncovered env).metadata = (m'.uncovered env).metadata)
    (h : m.messageBytes env = m'.messageBytes env) : m = m' := by
  have hcmdid : m.cmdid = m'.cmdid := by
    have hhead : (m.messageBytes env).head? = some m.cmdid := head_messageBytes he
    rw [h, head_messageBytes he'] at hhead
    exact (Option.some.inj hhead).symm
  cases m with
  | lockedTransfer t metadata =>
    cases m' with
    | lockedTransfer t' metadata' =>
      cases he
      cases he'
      obtain ⟨rfl, hhash⟩ := packLockedTransferData_inj hproof h
      have hsame : metadata = metadata' := metadataHash_inj hcollisions hsize hs hs' hhash
      rw [hsame]
    | _ => simp [cmdid] at hcmdid
  | refundTransfer t metadata =>
    cases m' with
    | refundTransfer t' metadata' =>
      cases he
      cases he'
      have happend : packLockedTransferData 8 t ++ [] = packLockedTransferData 8 t' ++ [] := congrArg (· ++ []) h
      obtain ⟨rfl, -⟩ := packLockedTransferData_inj hproof happend
      rw [show metadata = metadata' from hmetadata]
    | _ => simp [cmdid] at hcmdid
  | unlock u =>
    cases m' with
    | unlock u' =>
      cases he
      cases he'
      rw [unlockBytes_inj hproof h]
    | _ => simp [cmdid] at hcmdid
  | lockExpired x =>
    cases m' with
    | lockExpired x' =>
      cases he
      cases he'
      rw [lockExpiredBytes_inj hproof h]
    | _ => simp [cmdid] at hcmdid
  | withdrawRequest w coopSettle => cases he
  | withdrawConfirmation w => cases he
  | withdrawExpired w => cases he

theorem dataToSign_envelope (he : m.envelope = some e) :
    m.dataToSign env = packEnvelope env e.toBalanceProof (m.messageHash env) := by
  cases m <;> cases he <;> rfl

theorem emptyBalance_envelope (he : m.envelope = some e) :
    (m.uncovered env).emptyBalance = emptyBalance env e.toBalanceProof := by
  cases m <;> cases he <;> rfl

theorem mem_hashed (env : Env) (he : m.envelope = some e) :
    balanceBytes e.toBalanceProof ∈ m.hashed env ∧ m.messageBytes env ∈ m.hashed env ∧
      ∀ b ∈ m.hashedMetadata, b ∈ m.hashed env := by
  simp only [hashed, he]
  exact ⟨mem_cons_self, mem_cons_of_mem _ mem_cons_self, fun b hb =>
    mem_cons_of_mem _ (mem_cons_of_mem _ (Option.mem_toList.2 hb))⟩

/-- the size of the signed data of each kind of message -/
def signedSize : SignedMessage → ℕ
  | .withdrawRequest _ _ => 200
  | .withdrawConfirmation _ => 200
  | .withdrawExpired _ => 244
  | _ => 212

theorem signedSize_eq_iff : m.signedSize = 212 ↔ m.envelope.isSome = true := by
  cases m <;> simp [signedSize, envelope]

theorem length_dataToSign (hsize : ∀ b, (env.keccak256 b).length = 32) (m : SignedMessage) :
    (m.dataToSign env).length = m.signedSize := by
  cases m with
  | withdrawRequest w | withdrawConfirmation w => exact length_packWithdrawMessage w
  | withdrawExpired w => simp [dataToSign, signedSize, length_packWithdrawMessage]
  | lockedTransfer | refundTransfer | unlock | lockExpired => exact length_packEnvelope hsize _ _

theorem withdrawExpired_inj {w w' : WithdrawExpiredFields}
    (h : dataToSign env (.withdrawExpired w) = dataToSign env (.withdrawExpired w')) : w = w' := by
  simp only [dataToSign, cmdid, append_assoc] at h
  have h := append_cancel_left h
  obtain ⟨hnonce, h⟩ := toBytesBE_append_inj (lt_256_32 w.nonce_le) (lt_256_32 w'.nonce_le) h
  obtain ⟨hidentifier, h⟩ := toBytesBE_append_inj (lt_256_8 w.messageIdentifier_le) (lt_256_8 w'.messageIdentifier_le) h
  have hmessage := packWithdraw_inj h hnonce hidentifier
  cases w
  cases w'
  cases hmessage
  rfl

end Reading

/-- **What the signature determines.** Two messages with the same signed bytes and the same uncovered fields are equal. -/
theorem eq_of_dataToSign {env : Env} (hsize : ∀ b, (env.keccak256 b).length = 32) {m m' : SignedMessage}
    (hcollisions : Set.InjOn env.keccak256 {b | b ∈ m.hashed env ++ m'.hashed env})
    (h : m.dataToSign env = m'.dataToSign env) (huncovered : m.uncovered env = m'.uncovered env) : m = m' := by
  have hlength := congrArg length h
  rw [length_dataToSign hsize, length_dataToSign hsize] at hlength
  cases he : m.envelope with
  | some e =>
    cases he' : m'.envelope with
    | some e' =>
      obtain ⟨hbalance, hmessage, hmetadata⟩ := mem_hashed env he
      obtain ⟨hbalance', hmessage', hmetadata'⟩ := mem_hashed env he'
      have hleft : ∀ b ∈ m.hashed env, b ∈ {b | b ∈ m.hashed env ++ m'.hashed env} := fun b hb =>
        mem_append_left _ hb
      have hright : ∀ b ∈ m'.hashed env, b ∈ {b | b ∈ m.hashed env ++ m'.hashed env} := fun b hb =>
        mem_append_right _ hb
      have hempty : emptyBalance env e.toBalanceProof = emptyBalance env e'.toBalanceProof := by
        rw [← emptyBalance_envelope he, ← emptyBalance_envelope he', huncovered]
      rw [dataToSign_envelope he, dataToSign_envelope he'] at h
      obtain ⟨hproof, hhash⟩ := packEnvelope_inj hsize hcollisions (hleft _ hbalance) (hright _ hbalance') hempty h
      have hbytes := hcollisions (hleft _ hmessage) (hright _ hmessage') hhash
      exact messageBytes_inj hcollisions hsize (fun b hb => hleft b (hmetadata b hb))
        (fun b hb => hright b (hmetadata' b hb)) he he' hproof (by rw [huncovered]) hbytes
    | none =>
      have hsome := signedSize_eq_iff.1 (hlength.symm.trans (signedSize_eq_iff.2 (by rw [he]; rfl)))
      rw [he'] at hsome
      cases hsome
  | none =>
    cases m with
    | withdrawRequest w coopSettle =>
      cases m' with
      | withdrawRequest w' coopSettle' =>
        simp only [uncovered, Uncovered.mk.injEq] at huncovered
        obtain ⟨-, hnonce, hidentifier, rfl, -, -⟩ := huncovered
        rw [packWithdraw_inj h hnonce hidentifier]
      | withdrawConfirmation w' => cases congrArg Uncovered.confirmation huncovered
      | _ => simp [signedSize] at hlength
    | withdrawConfirmation w =>
      cases m' with
      | withdrawConfirmation w' =>
        simp only [uncovered, Uncovered.mk.injEq] at huncovered
        rw [packWithdraw_inj h huncovered.2.1 huncovered.2.2.1]
      | withdrawRequest w' coopSettle' => cases congrArg Uncovered.confirmation huncovered
      | _ => simp [signedSize] at hlength
    | withdrawExpired w =>
      cases m' with
      | withdrawExpired w' => rw [withdrawExpired_inj h]
      | _ => simp [signedSize] at hlength
    | _ => cases he

/-- what the receiver reads has the uncovered fields in it -/
theorem uncovered_of_received {env : Env} {routes : Option Bytes → List RouteState} {signature : Bytes} {sender : Address}
    {m m' : SignedMessage} (h : m.received env routes signature sender = m'.received env routes signature sender) :
    m.uncovered env = m'.uncovered env := by
  cases m <;> cases m' <;> simp only [received, reduceCtorEq] at h
  · simp only [ReceivedMessage.lockedTransfer.injEq, lockedTransferSigned, LockedTransferSigned.mk.injEq,
      SignedBalanceProof.mk.injEq] at h
    simp only [uncovered, h]
  · simp only [ReceivedMessage.refundTransfer.injEq, lockedTransferSigned, LockedTransferSigned.mk.injEq,
      SignedBalanceProof.mk.injEq] at h
    simp only [uncovered, h]
  · simp only [ReceivedMessage.unlock.injEq, ReceiveUnlock.mk.injEq, SignedBalanceProof.mk.injEq] at h
    simp only [uncovered, h]
  · simp only [ReceivedMessage.lockExpired.injEq, ReceiveLockExpired.mk.injEq, SignedBalanceProof.mk.injEq] at h
    simp only [uncovered, h]
  · simp only [ReceivedMessage.withdrawRequest.injEq, ReceiveWithdrawRequest.mk.injEq] at h
    simp only [uncovered, h]
  · simp only [ReceivedMessage.withdrawConfirmation.injEq, ReceiveWithdrawConfirmation.mk.injEq] at h
    simp only [uncovered, h]
  · rfl

end SignedMessage

/-! ## What the receiver can rely on -/

/-- **Signed messages.** For every two messages with the same signed bytes, where no two different byte strings that are
hashed for them have the same hash: with the same signature they become the same state change of the receiver if and only
if they have the same uncovered fields. -/
theorem signed_data_determines_iff (env : Env) (hsize : ∀ b, (env.keccak256 b).length = 32) (m m' : SignedMessage)
    (hcollisions : Set.InjOn env.keccak256 {b | b ∈ m.hashed env ++ m'.hashed env})
    (h : m.dataToSign env = m'.dataToSign env) (routes : Option Bytes → List RouteState) (signature : Bytes)
    (sender : Address) :
    m.received env routes signature sender = m'.received env routes signature sender ↔ m.uncovered env = m'.uncovered env :=
  ⟨SignedMessage.uncovered_of_received, fun huncovered => by
    rw [SignedMessage.eq_of_dataToSign hsize hcollisions h huncovered]⟩

section Example

/-- a hash of 32 bytes: the end of the data -/
def tailEnv : Env := { sampleEnv with keccak256 := fun b => (replicate 32 0 ++ b).drop b.length }

/-- a refund of 10 tokens -/
def sampleRefundMessage : LockedTransferMessage where
  nonce := 1
  transferredAmount := 0
  lockedAmount := 10
  locksroot := replicate 32 9
  canonicalIdentifier := ⟨1, 3, 5⟩
  messageIdentifier := 1
  messageIdentifier_le := by decide
  chain_le := by decide
  channel_pos := by decide
  channel_le := by decide
  nonce_pos := by decide
  nonce_le := by decide
  transferred_le := by decide
  locked_le := lockOfTen.amount_le
  locksroot_size := rfl
  paymentIdentifier := 1
  token := 4
  recipient := 1
  lock := lockOfTen
  target := 7
  initiator := 1
  paymentIdentifier_le := by decide

/-- the metadata of a refund can be exchanged -/
theorem refund_metadata_uncovered :
    (SignedMessage.refundTransfer sampleRefundMessage none).received tailEnv (fun _ => []) [2] 2 ≠
      (SignedMessage.refundTransfer sampleRefundMessage (some [1])).received tailEnv (fun _ => []) [2] 2 := by
  have hcollisions : ∀ b ∈ (SignedMessage.refundTransfer sampleRefundMessage none).hashed tailEnv ++
      (SignedMessage.refundTransfer sampleRefundMessage (some [1])).hashed tailEnv,
      ∀ b' ∈ (SignedMessage.refundTransfer sampleRefundMessage none).hashed tailEnv ++
        (SignedMessage.refundTransfer sampleRefundMessage (some [1])).hashed tailEnv,
      tailEnv.keccak256 b = tailEnv.keccak256 b' → b = b' := by decide +kernel
  have hsize : ∀ b, (tailEnv.keccak256 b).length = 32 := by
    intro b
    show ((replicate 32 0 ++ b).drop b.length).length = 32
    rw [length_drop, length_append, length_replicate]
    omega
  intro heq
  have huncovered := (signed_data_determines_iff tailEnv hsize _ _ (fun b hb b' hb' h => hcollisions b hb b' hb' h) rfl _ _
    _).1 heq
  cases congrArg SignedMessage.Uncovered.metadata huncovered

/-- a withdraw of 10 tokens by the partner -/
def sampleWithdrawMessage : WithdrawFields :=
  ⟨1, sampleDetails.canonicalIdentifier, 2, 10, 1, 100, by decide, by decide, lockOfTen.amount_le, lockOfTen.expiration_le⟩

/-- the request that the node with the deposits of both participants receives -/
def receiveRequest (coopSettle : Bool) : ChannelNode :=
  runFrom (nodeStep sampleEnv) sampleStart [sampleDeposit 1 10, sampleDeposit 2 10,
    .transition (.receiveWithdrawRequest ⟨2, 1, sampleDetails.canonicalIdentifier, 10, 1, 100, [2], 2, coopSettle⟩)]

/-- The signature of a withdraw request is also the signature of the request with the flag of a cooperative settle, and of a
confirmation with any nonce. Where withdraws are packed the channel accepts the request with either flag: with the flag it
requests its own withdraw as well. -/
theorem withdraw_signature_reused :
    (SignedMessage.withdrawRequest sampleWithdrawMessage false).dataToSign sampleEnv =
      (SignedMessage.withdrawRequest sampleWithdrawMessage true).dataToSign sampleEnv ∧
    (SignedMessage.withdrawRequest sampleWithdrawMessage false).dataToSign sampleEnv =
      (SignedMessage.withdrawConfirmation { sampleWithdrawMessage with nonce := 7 }).dataToSign sampleEnv ∧
    (∀ coopSettle, (SignedMessage.withdrawRequest sampleWithdrawMessage coopSettle).received sampleEnv (fun _ => []) [2] 2 =
      .withdrawRequest ⟨2, 1, sampleDetails.canonicalIdentifier, 10, 1, 100, [2], 2, coopSettle⟩) ∧
    sampleEnv.PacksWithdraws ∧ (∀ coopSettle, confirmations (receiveRequest coopSettle).sent = [(10, 100)]) ∧
    (receiveRequest false).sent.length = 1 ∧ (receiveRequest true).sent.length = 3 :=
  ⟨rfl, rfl, fun _ => rfl, sampleEnv_packs, by decide +kernel, by decide +kernel, by decide +kernel⟩

end Example

end Gatecoin.Client
