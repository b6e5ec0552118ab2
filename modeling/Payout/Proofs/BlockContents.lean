import Payout.Proofs.Submission

/-!
# What is in a block

A block is found to contain an extrinsic exactly when some of the byte strings that the node serves for the block
has the hash as it stands, so that the extrinsic of a submission is found wherever it is served.
-/
namespace Payout
open Scale (IsByteVector)

/-- A block of which every extrinsic is served in the only form that it has contains a transaction exactly when the
hash of it is that of some of these byte strings, and the extrinsic of a submission wherever it is served. The
byte strings with such a form are those that are read to their end. -/
theorem Client.blockContains_by_served_bytes {c : Client} {block : BlockHash} {extrinsics : List Bytes}
    (hserves : c.node.Serves block extrinsics)
    (hvector : ∀ bytes ∈ extrinsics, ∃ body, IsByteVector body bytes) :
    (∀ tx, (c.blockContains block tx = .ok true ↔ ∃ bytes ∈ extrinsics, Crypto.blake2b256 bytes = tx) ∧
      (c.blockContains block tx = .ok false ↔ ∀ bytes ∈ extrinsics, Crypto.blake2b256 bytes ≠ tx)) ∧
    (∀ (sender : Client) (signer : Signer) (p : Payload) (v : Validation) (reception : Reception) (x : Extrinsic)
      (stream : StatusStream), sender.submitPayload signer p v reception = .ok (x, stream) →
        x.encode ∈ extrinsics → c.blockContains block stream.txHash = .ok true) ∧
    ∀ bytes body, IsByteVector body bytes ↔ Scale.decodeBytes bytes = some (body, []) := by
  obtain ⟨bodies, hbodies⟩ := Scale.exists_bodies hvector
  have hanswer := blockContains_of_serves hserves hbodies
  refine ⟨fun tx => ⟨?_, ?_⟩, ?_, ?_⟩
  · simp [hanswer tx]
  · simp [hanswer tx]
  · intro sender signer p v reception x stream hsent hmem
    obtain ⟨-, rfl⟩ := submitPayload_eq_ok hsent
    have htx : x.hash ∈ extrinsics.map Crypto.blake2b256 := List.mem_map.mpr ⟨_, hmem, rfl⟩
    rw [hanswer]
    exact congrArg Except.ok (decide_eq_true htx)
  · intro bytes body
    simp [Scale.decodeBytes_eq_some_iff]

/-- An extrinsic of another signer, so long that its length takes two bytes. -/
def otherBytes : Bytes :=
  Scale.encodeBytes (List.replicate 64 0)

/-- A block with the extrinsic of the pair of transfers after another, which is served without `0x`. -/
def crowdedBlock : Block :=
  { Batch.pairBlock with served := .ok (some [Hex.text otherBytes, Batch.pairExtrinsic.served]) }

def crowdedClient : Client :=
  { Batch.pairClient with
    node := { Batch.pairClient.node with blocks := [(.repeated 7, crowdedBlock)] } }

theorem Client.blockContains_by_served_bytes_crowded :
    crowdedClient.node.Serves (.repeated 7) [otherBytes, Batch.pairExtrinsic.encode] ∧
      crowdedClient.blockContains (.repeated 7) Batch.pairStream.txHash = .ok true := by
  have hserves : crowdedClient.node.Serves (.repeated 7) [otherBytes, Batch.pairExtrinsic.encode] :=
    ⟨by decide, crowdedBlock, _, rfl, rfl, .cons (Hex.writes_text _) (.cons (Hex.writes_marked_text _) .nil)⟩
  have hvector : ∀ bytes ∈ [otherBytes, Batch.pairExtrinsic.encode], ∃ body, IsByteVector body bytes := by
    simp only [List.forall_mem_cons, List.not_mem_nil, false_implies, implies_true, and_true]
    exact ⟨⟨_, Scale.isByteVector_encodeBytes (by decide)⟩,
      ⟨_, Scale.isByteVector_encodeBytes (by decide +kernel)⟩⟩
  have hspec := blockContains_by_served_bytes hserves hvector
  exact ⟨hserves, hspec.2.1 _ _ _ _ _ _ _ Batch.pair_submit (by simp)⟩

end Payout
