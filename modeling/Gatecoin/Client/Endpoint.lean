/-
One end of a channel whose two nodes are both modelled: the node signs what it sends with its own key, and a signature is
recovered to the address of the key.
-/
import Gatecoin.Client.ChannelRun

namespace Gatecoin.Client

open Gatecoin.Core

/-- the key of a node -/
structure SigningKey (env : Env) where
  address : Address
  sign : Bytes → Bytes
  recovers : ∀ data, env.recover data (sign data) = some address

theorem SigningKey.isValidSignature {env : Env} (key : SigningKey env) (data : Bytes) :
    isValidSignature env data (key.sign data) key.address = .ok () := by
  simp [Client.isValidSignature, key.recovers]

theorem SigningKey.isValidWithdraw {env : Env} (hpack : env.PacksWithdraws) (key : SigningKey env)
    (ci : CanonicalIdentifier) (participant : Address) (total expiration : ℕ) :
    isValidWithdraw env ci participant total expiration (key.sign (withdrawData ci participant total expiration))
      key.address = .ok (.ok ()) := by
  rw [Client.isValidWithdraw, hpack]
  exact congrArg Except.ok (key.isValidSignature _)

structure Endpoint (env : Env) where
  key : SigningKey env
  channel : NettingChannelState
  blockNumber : ℕ
  blockHash : Bytes

/-- a key whose signatures are the low byte of its address -/
def sampleKey (n : UInt8) : SigningKey sampleEnv := ⟨BitVec.ofNat 160 n.toNat, fun _ => [n], fun _ => rfl⟩

/-- the node `our` of a new channel with a deposit of 100 on each side -/
def sampleEndpoint (our partner : UInt8) : Endpoint sampleEnv where
  key := sampleKey our
  channel :=
    let c := newChannel sampleEnv { sampleDetails with
      ourAddress := BitVec.ofNat 160 our.toNat, partnerAddress := BitVec.ofNat 160 partner.toNat }
    { c with
      ourState := { c.ourState with contractBalance := 100 }
      partnerState := { c.partnerState with contractBalance := 100 } }
  blockNumber := 1
  blockHash := []

end Gatecoin.Client
