/-
The bytes that the client signs for the TokenNetwork contract (`utils/packing.py`, the `_data_to_sign` of the withdraw
messages, `eth_sign_sha3` of `utils/signer.py`) and the bytes that the contract hashes.

The client packs in two ways: the message classes concatenate the fields themselves, and the helpers of `packing.py` call
those of the contracts package (`gatecoin_contracts/utils/proofs.py`) with keyword arguments. A keyword that the called
function has no parameter for is a TypeError. `pack_withdraw` passes `expiration_block`, and the parameter of
`pack_withdraw_message` is called `withdrawable_until`: that helper never returns (`packWithdraw_fails`).

`eth_sign_sha3` puts the prefix of signed messages and the decimal length before the data, unless the data start with that
prefix already. The data start with the address of the token network and the chain identifier, so this is about one address.

`signed_bytes_match_iff`: when the client hashes the bytes that the contract hashes.
-/
import Gatecoin.Contracts.Ledger
import Gatecoin.Contracts.StandardToken
import Gatecoin.Client.SignedData

namespace Gatecoin.Chain

open Gatecoin.Core
open Gatecoin.Client (CanonicalIdentifier uint256Max)
open Contracts (Uint256 Platform MessageTypeId signaturePrefix addressBytes uintBytes
  recoverAddressFromBalanceProof recoverAddressFromBalanceProofCounterSignature recoverAddressFromWithdrawMessage)

inductive PackError where
  /-- `f() got an unexpected keyword argument` -/
  | unexpectedKeyword (function argument : String)
  /-- `f() missing required positional arguments` -/
  | missingArguments (function : String) (arguments : List String)
  /-- `encode_single` of a number that is no uint256 -/
  | valueOutOfBounds
  /-- `int.to_bytes` of a number that does not fit -/
  | intTooBig
deriving DecidableEq, Repr

/-- the exception that Python raises -/
def PackError.fault : PackError → Fault
  | .unexpectedKeyword function argument => .type s!"{function}() got an unexpected keyword argument '{argument}'"
  | .missingArguments function arguments =>
    .type s!"{function}() missing {arguments.length} required positional arguments: {arguments}"
  | .valueOutOfBounds => .value "ValueOutOfBounds"
  | .intTooBig => .overflow

/-- the binding of keyword arguments to the parameters of a function -/
def callKeywords (function : String) (parameters arguments : List String) : Except PackError Unit :=
  match arguments.find? (· ∉ parameters) with
  | some argument => .error (.unexpectedKeyword function argument)
  | none =>
    match parameters.filter (· ∉ arguments) with
    | [] => .ok ()
    | missing => .error (.missingArguments function missing)

/-- `encode_single("uint256", n)` -/
def encodeSingle (n : ℕ) : Except PackError Bytes :=
  if n ≤ uint256Max then .ok (toBytesBE 32 n) else .error .valueOutOfBounds

/-- `n.to_bytes(32, byteorder="big")` -/
def toBytes32 (n : ℕ) : Except PackError Bytes :=
  if n ≤ uint256Max then .ok (toBytesBE 32 n) else .error .intTooBig

def typeId : MessageTypeId → ℕ
  | .balanceProof => 1
  | .balanceProofUpdate => 2
  | .withdraw => 3

/-! ## The helpers of the contracts package -/

namespace Proofs

def packBalanceProof (tokenNetworkAddress : Contracts.Address) (chainIdentifier channelIdentifier : ℕ)
    (balanceHash : Bytes) (nonce : ℕ) (additionalHash : Bytes) (msgType : MessageTypeId) : Except PackError Bytes := do
  let chain ← encodeSingle chainIdentifier
  let type ← encodeSingle (typeId msgType)
  let channel ← encodeSingle channelIdentifier
  let nonce ← encodeSingle nonce
  return addressBytes tokenNetworkAddress ++ chain ++ type ++ channel ++ balanceHash ++ nonce ++ additionalHash

def packBalanceProofParameters : List String :=
  ["token_network_address", "chain_identifier", "channel_identifier", "balance_hash", "nonce", "additional_hash", "msg_type"]

def packBalanceProofMessage (tokenNetworkAddress : Contracts.Address) (chainIdentifier channelIdentifier : ℕ)
    (msgType : MessageTypeId) (balanceHash : Bytes) (nonce : ℕ)
    (additionalHash closingSignature : Bytes) : Except PackError Bytes := do
  callKeywords "pack_balance_proof" packBalanceProofParameters
    ["token_network_address", "chain_identifier", "channel_identifier", "balance_hash", "nonce", "additional_hash", "msg_type"]
  let data ← packBalanceProof tokenNetworkAddress chainIdentifier channelIdentifier balanceHash nonce additionalHash msgType
  return data ++ closingSignature

def packBalanceProofMessageParameters : List String :=
  ["token_network_address", "chain_identifier", "channel_identifier", "msg_type", "balance_hash", "nonce", "additional_hash",
    "closing_signature"]

def packWithdrawMessage (tokenNetworkAddress : Contracts.Address) (chainIdentifier channelIdentifier : ℕ)
    (participant : Contracts.Address) (amountToWithdraw withdrawableUntil : ℕ) : Except PackError Bytes := do
  let chain ← encodeSingle chainIdentifier
  let type ← encodeSingle (typeId .withdraw)
  let channel ← encodeSingle channelIdentifier
  let amount ← encodeSingle amountToWithdraw
  let expiration ← encodeSingle withdrawableUntil
  return addressBytes tokenNetworkAddress ++ chain ++ type ++ channel ++ addressBytes participant ++ amount ++ expiration

def packWithdrawMessageParameters : List String :=
  ["token_network_address", "chain_identifier", "channel_identifier", "participant", "amount_to_withdraw",
    "withdrawable_until"]

end Proofs

/-! ## What the client packs -/

namespace Packing

def packBalanceProof (nonce : ℕ) (balanceHash additionalHash : Bytes) (ci : CanonicalIdentifier) : Except PackError Bytes := do
  callKeywords "pack_balance_proof" Proofs.packBalanceProofParameters
    ["token_network_address", "chain_identifier", "channel_identifier", "msg_type", "nonce", "balance_hash", "additional_hash"]
  Proofs.packBalanceProof ci.tokenNetworkAddress ci.chainIdentifier ci.channelIdentifier balanceHash nonce additionalHash
    .balanceProof

def packSignedBalanceProof (msgType : MessageTypeId) (nonce : ℕ) (balanceHash additionalHash : Bytes)
    (ci : CanonicalIdentifier) (partnerSignature : Bytes) : Except PackError Bytes := do
  callKeywords "pack_balance_proof_message" Proofs.packBalanceProofMessageParameters
    ["token_network_address", "chain_identifier", "channel_identifier", "msg_type", "nonce", "balance_hash", "additional_hash",
      "closing_signature"]
  Proofs.packBalanceProofMessage ci.tokenNetworkAddress ci.chainIdentifier ci.channelIdentifier msgType balanceHash nonce
    additionalHash partnerSignature

def packWithdraw (ci : CanonicalIdentifier) (participant : Contracts.Address) (totalWithdraw expirationBlock : ℕ) :
    Except PackError Bytes := do
  callKeywords "pack_withdraw_message" Proofs.packWithdrawMessageParameters
    ["token_network_address", "chain_identifier", "channel_identifier", "participant", "amount_to_withdraw",
      "expiration_block"]
  Proofs.packWithdrawMessage ci.tokenNetworkAddress ci.chainIdentifier ci.channelIdentifier participant totalWithdraw
    expirationBlock

end Packing

/-- `_data_to_sign` of a withdraw request and of a withdraw confirmation -/
def withdrawDataToSign (ci : CanonicalIdentifier) (participant : Contracts.Address) (totalWithdraw expiration : ℕ) :
    Except PackError Bytes := do
  let chain ← toBytes32 ci.chainIdentifier
  let type ← toBytes32 (typeId .withdraw)
  let channel ← toBytes32 ci.channelIdentifier
  let total ← toBytes32 totalWithdraw
  let expiration ← toBytes32 expiration
  return addressBytes ci.tokenNetworkAddress ++ chain ++ type ++ channel ++ addressBytes participant ++ total ++ expiration

/-- what `eth_sign_sha3` hashes -/
def ethSignBytes (data : Bytes) : Bytes :=
  if signaturePrefix <+: data then data else signaturePrefix ++ asciiBytes (toString data.length) ++ data

theorem typeId_le (type : MessageTypeId) : typeId type ≤ uint256Max := by
  cases type <;> decide

/-! ## What is signed for the contract -/

/-- the fields of a balance proof, in range -/
structure ProofFields where
  nonce : ℕ
  balanceHash : Bytes
  additionalHash : Bytes
  channelIdentifier : ℕ
  nonce_le : nonce ≤ uint256Max
  balanceHash_size : balanceHash.length = 32
  additionalHash_size : additionalHash.length = 32
  channel_le : channelIdentifier ≤ uint256Max

/-- the fields of a withdraw, in range -/
structure WithdrawData where
  participant : Contracts.Address
  totalWithdraw : ℕ
  expiration : ℕ
  channelIdentifier : ℕ
  total_le : totalWithdraw ≤ uint256Max
  expiration_le : expiration ≤ uint256Max
  channel_le : channelIdentifier ≤ uint256Max

/-- what the client signs and the contract recovers a signer from -/
inductive OnchainData where
  | balanceProof (proof : ProofFields)
  /-- the proof of the partner with the signature on it, for a close or an update -/
  | counterSigned (msgType : MessageTypeId) (proof : ProofFields) (partnerSignature : Bytes)
      (signature_size : partnerSignature.length = 65)
  /-- a withdraw request or a withdraw confirmation -/
  | withdrawMessage (withdraw : WithdrawData)
  /-- the withdraw that `pack_withdraw` packs for the call of the contract -/
  | withdrawCall (withdraw : WithdrawData)

namespace OnchainData

/-- the channel of the token network that is deployed on the platform -/
def channelOf (P : Platform) (channelIdentifier : ℕ) : CanonicalIdentifier :=
  ⟨P.chainId.toNat, P.self, channelIdentifier⟩

def build (P : Platform) : OnchainData → Except PackError Bytes
  | .balanceProof p => Packing.packBalanceProof p.nonce p.balanceHash p.additionalHash (channelOf P p.channelIdentifier)
  | .counterSigned msgType p partnerSignature _ => Packing.packSignedBalanceProof msgType p.nonce p.balanceHash
      p.additionalHash (channelOf P p.channelIdentifier) partnerSignature
  | .withdrawMessage w => withdrawDataToSign (channelOf P w.channelIdentifier) w.participant w.totalWithdraw w.expiration
  | .withdrawCall w => Packing.packWithdraw (channelOf P w.channelIdentifier) w.participant w.totalWithdraw w.expiration

/-- the recovery of the contract, called with the same fields -/
def recover (P : Platform) (d : OnchainData) (signature : Bytes) : Except Revert Contracts.Address :=
  match d with
  | .balanceProof p => recoverAddressFromBalanceProof P (BitVec.ofNat 256 p.channelIdentifier) p.balanceHash
      (BitVec.ofNat 256 p.nonce) p.additionalHash signature
  | .counterSigned msgType p partnerSignature _ => recoverAddressFromBalanceProofCounterSignature P msgType
      (BitVec.ofNat 256 p.channelIdentifier) p.balanceHash (BitVec.ofNat 256 p.nonce) p.additionalHash partnerSignature
      signature
  | .withdrawMessage w | .withdrawCall w => recoverAddressFromWithdrawMessage P (BitVec.ofNat 256 w.channelIdentifier)
      w.participant (BitVec.ofNat 256 w.totalWithdraw) (BitVec.ofNat 256 w.expiration) signature

/-- the payload that the contract hashes behind the prefix and the length -/
def payload (P : Platform) : OnchainData → Bytes
  | .balanceProof p => addressBytes P.self ++ uintBytes P.chainId ++ uintBytes (P.messageTypeId .balanceProof) ++
      uintBytes (BitVec.ofNat 256 p.channelIdentifier) ++ p.balanceHash ++ uintBytes (BitVec.ofNat 256 p.nonce) ++
      p.additionalHash
  | .counterSigned msgType p partnerSignature _ => addressBytes P.self ++ uintBytes P.chainId ++
      uintBytes (P.messageTypeId msgType) ++ uintBytes (BitVec.ofNat 256 p.channelIdentifier) ++ p.balanceHash ++
      uintBytes (BitVec.ofNat 256 p.nonce) ++ p.additionalHash ++ partnerSignature
  | .withdrawMessage w | .withdrawCall w => addressBytes P.self ++ uintBytes P.chainId ++
      uintBytes (P.messageTypeId .withdraw) ++ uintBytes (BitVec.ofNat 256 w.channelIdentifier) ++
      addressBytes w.participant ++ uintBytes (BitVec.ofNat 256 w.totalWithdraw) ++ uintBytes (BitVec.ofNat 256 w.expiration)

/-- the length that the contract writes -/
def lengthText : OnchainData → String
  | .balanceProof _ => "212"
  | .counterSigned _ _ _ _ => "277"
  | .withdrawMessage _ | .withdrawCall _ => "200"

def hashed (P : Platform) (d : OnchainData) : Bytes := signaturePrefix ++ asciiBytes d.lengthText ++ d.payload P

def isWithdrawCall : OnchainData → Bool
  | .withdrawCall _ => true
  | _ => false

/-! ## Comparison -/

section Comparison

variable {P : Platform} {n : ℕ}

theorem recover_eq (d : OnchainData) (signature : Bytes) :
    d.recover P signature = P.ecverify (P.keccak256 (d.hashed P)) signature := by
  cases d <;>
    simp only [recover, hashed, payload, lengthText, recoverAddressFromBalanceProof,
      recoverAddressFromBalanceProofCounterSignature, recoverAddressFromWithdrawMessage, List.append_assoc]

/-- the length that the contract writes is the length of the payload -/
theorem toString_length_payload (d : OnchainData) : toString (d.payload P).length = d.lengthText := by
  cases d with
  | balanceProof p =>
    have hlength : (payload P (.balanceProof p)).length = 212 := by
      simp [payload, addressBytes, p.balanceHash_size, p.additionalHash_size]
    rw [hlength]
    rfl
  | counterSigned msgType p signature hsize =>
    have hlength : (payload P (.counterSigned msgType p signature hsize)).length = 277 := by
      simp [payload, addressBytes, p.balanceHash_size, p.additionalHash_size, hsize]
    rw [hlength]
    rfl
  | withdrawMessage w | withdrawCall w =>
    have hlength : (payload P (.withdrawMessage w)).length = 200 := by simp [payload, addressBytes]
    exact (congrArg toString hlength).trans rfl

theorem encodeSingle_chain (P : Platform) : encodeSingle P.chainId.toNat = .ok (uintBytes P.chainId) :=
  if_pos (Nat.le_sub_one_of_lt P.chainId.isLt)

theorem uintBytes_ofNat (h : n ≤ uint256Max) : uintBytes (BitVec.ofNat 256 n) = toBytesBE 32 n := by
  unfold uint256Max at h
  rw [uintBytes, BitVec.toNat_ofNat, Nat.mod_eq_of_lt (by omega)]

theorem encodeSingle_ofNat (h : n ≤ uint256Max) : encodeSingle n = .ok (uintBytes (BitVec.ofNat 256 n)) := by
  rw [encodeSingle, if_pos h, uintBytes_ofNat h]

theorem toBytes32_chain (P : Platform) : toBytes32 P.chainId.toNat = .ok (uintBytes P.chainId) :=
  if_pos (Nat.le_sub_one_of_lt P.chainId.isLt)

theorem toBytes32_ofNat (h : n ≤ uint256Max) : toBytes32 n = .ok (uintBytes (BitVec.ofNat 256 n)) := by
  rw [toBytes32, if_pos h, uintBytes_ofNat h]

/-- `pack_withdraw` raises, whatever is packed -/
theorem packWithdraw_fails (ci : CanonicalIdentifier) (participant : Contracts.Address) (totalWithdraw expirationBlock : ℕ) :
    Packing.packWithdraw ci participant totalWithdraw expirationBlock =
      .error (.unexpectedKeyword "pack_withdraw_message" "expiration_block") := rfl

/-- with the contracts package of this repository the channel gets that exception whenever it checks a withdraw message -/
theorem packWithdraw_shipped (ci : CanonicalIdentifier) (participant : Contracts.Address) (totalWithdraw expirationBlock : ℕ) :
    Client.shippedEnv.packWithdraw ci participant totalWithdraw expirationBlock =
      (Packing.packWithdraw ci participant totalWithdraw expirationBlock).mapError PackError.fault := by
  rw [packWithdraw_fails]
  exact congrArg Except.error (by decide)

/-- the other encoders build the payload of the contract -/
theorem build_eq_payload (hids : ∀ type, P.messageTypeId type = BitVec.ofNat 256 (typeId type)) {d : OnchainData}
    (hd : d.isWithdrawCall = false) : d.build P = .ok (d.payload P) := by
  have htype : ∀ type, encodeSingle (typeId type) = .ok (uintBytes (P.messageTypeId type)) := by
    intro type
    rw [hids, encodeSingle_ofNat (typeId_le type)]
  cases d with
  | balanceProof p =>
    have hkeywords : callKeywords "pack_balance_proof" Proofs.packBalanceProofParameters
      ["token_network_address", "chain_identifier", "channel_identifier", "msg_type", "nonce", "balance_hash",
        "additional_hash"] = .ok () := by decide
    simp only [build, Packing.packBalanceProof, hkeywords, Proofs.packBalanceProof, channelOf, encodeSingle_chain, htype,
      encodeSingle_ofNat p.channel_le, encodeSingle_ofNat p.nonce_le]
    rfl
  | counterSigned msgType p signature hsize =>
    have hkeywords : callKeywords "pack_balance_proof_message" Proofs.packBalanceProofMessageParameters
      ["token_network_address", "chain_identifier", "channel_identifier", "msg_type", "nonce", "balance_hash",
        "additional_hash", "closing_signature"] = .ok () := by decide
    have hinner : callKeywords "pack_balance_proof" Proofs.packBalanceProofParameters
      ["token_network_address", "chain_identifier", "channel_identifier", "balance_hash", "nonce", "additional_hash",
        "msg_type"] = .ok () := by decide
    simp only [build, Packing.packSignedBalanceProof, hkeywords, Proofs.packBalanceProofMessage, hinner,
      Proofs.packBalanceProof, channelOf, encodeSingle_chain, htype, encodeSingle_ofNat p.channel_le,
      encodeSingle_ofNat p.nonce_le]
    rfl
  | withdrawMessage w =>
    have hwithdraw : toBytes32 (typeId .withdraw) = .ok (uintBytes (P.messageTypeId .withdraw)) := by
      rw [hids, toBytes32_ofNat (typeId_le .withdraw)]
    simp only [build, withdrawDataToSign, channelOf, toBytes32_chain, hwithdraw, toBytes32_ofNat w.channel_le,
      toBytes32_ofNat w.total_le, toBytes32_ofNat w.expiration_le]
    rfl
  | withdrawCall w => cases hd

/-- the payload starts with the address and the chain identifier, which are longer than the prefix -/
theorem payload_spells_iff (d : OnchainData) :
    signaturePrefix <+: d.payload P ↔ signaturePrefix <+: addressBytes P.self ++ uintBytes P.chainId := by
  have hstart : addressBytes P.self ++ uintBytes P.chainId <+: d.payload P := by
    cases d <;> simp only [payload, List.append_assoc] <;> exact ⟨_, by rw [List.append_assoc]⟩
  have hlength : signaturePrefix.length ≤ (addressBytes P.self ++ uintBytes P.chainId).length := by
    rw [List.length_append, Contracts.length_uintBytes, addressBytes, length_toBytesBE]
    decide
  exact ⟨fun h => List.prefix_of_prefix_length_le h hstart hlength, fun h => h.trans hstart⟩

/-- **What is hashed.** For every kind of data in range, the client hashes the bytes that the contract hashes, and the contract
recovers the signer from these, exactly when the data are not built by `pack_withdraw` and the address of the token network
with the chain identifier does not spell the prefix of signed messages. -/
theorem signed_bytes_match_iff (hids : ∀ type, P.messageTypeId type = BitVec.ofNat 256 (typeId type)) (d : OnchainData) :
    (∃ data, d.build P = .ok data ∧ data = d.payload P ∧ ethSignBytes data = d.hashed P ∧
        ∀ signature, d.recover P signature = P.ecverify (P.keccak256 (ethSignBytes data)) signature) ↔
      d.isWithdrawCall = false ∧ ¬ signaturePrefix <+: addressBytes P.self ++ uintBytes P.chainId := by
  rw [← payload_spells_iff d]
  constructor
  · rintro ⟨data, hbuild, rfl, hsigned, -⟩
    constructor
    · cases d with
      | withdrawCall w => cases hbuild
      | balanceProof | counterSigned | withdrawMessage => rfl
    · intro hspelled
      rw [ethSignBytes, if_pos hspelled] at hsigned
      have hlength := congrArg List.length hsigned
      simp only [hashed, List.length_append] at hlength
      have hlong : 0 < signaturePrefix.length := by decide
      omega
  · rintro ⟨hd, hspelled⟩
    have hsigned : ethSignBytes (d.payload P) = d.hashed P := by
      rw [ethSignBytes, if_neg hspelled, toString_length_payload]
      rfl
    refine ⟨d.payload P, build_eq_payload hids hd, rfl, hsigned, fun signature => ?_⟩
    rw [hsigned]
    exact recover_eq d signature

end Comparison

/-! ## Examples of both -/

/-- a withdraw of 5 tokens by the participant 3 over the channel 1, up to block 100 -/
def sampleWithdraw : WithdrawData := ⟨3, 5, 100, 1, Client.five_le_uint256Max, Client.lockOfTen.expiration_le, by decide⟩

/-- the request for the withdraw is signed as the contract expects -/
theorem signed_bytes_match_withdraw_message :
    ∃ data, (OnchainData.withdrawMessage sampleWithdraw).build (Contracts.standardPlatform 7) = .ok data ∧
      data = (OnchainData.withdrawMessage sampleWithdraw).payload (Contracts.standardPlatform 7) ∧
      ethSignBytes data = (OnchainData.withdrawMessage sampleWithdraw).hashed (Contracts.standardPlatform 7) ∧
      ∀ signature, (OnchainData.withdrawMessage sampleWithdraw).recover (Contracts.standardPlatform 7) signature =
        (Contracts.standardPlatform 7).ecverify ((Contracts.standardPlatform 7).keccak256 (ethSignBytes data)) signature :=
  (signed_bytes_match_iff (fun type => by cases type <;> rfl) _).2 ⟨rfl, by decide +kernel⟩

/-- the token network whose address is the first 20 bytes of the prefix, on the chain whose identifier goes on with it -/
def spelledPlatform : Platform :=
  { Contracts.standardPlatform (BitVec.ofNat 160 (ofBytesBE (signaturePrefix.take 20))) with
    chainId := BitVec.ofNat 256 (ofBytesBE (signaturePrefix.drop 20) * 256 ^ 26) }

/-- **Two ways to fail.** `pack_withdraw` raises a TypeError for the withdraw whose request was signed; and a request for a
token network whose address and chain spell the prefix is hashed without it. -/
theorem withdraw_call_is_not_built :
    (OnchainData.withdrawCall sampleWithdraw).build (Contracts.standardPlatform 7) =
        .error (.unexpectedKeyword "pack_withdraw_message" "expiration_block") ∧
      ∃ data, (OnchainData.withdrawMessage sampleWithdraw).build spelledPlatform = .ok data ∧
        ethSignBytes data = data ∧
        ethSignBytes data ≠ (OnchainData.withdrawMessage sampleWithdraw).hashed spelledPlatform :=
  ⟨rfl, (OnchainData.withdrawMessage sampleWithdraw).payload spelledPlatform, by decide +kernel, by decide +kernel,
    by decide +kernel⟩

end OnchainData

end Gatecoin.Chain
