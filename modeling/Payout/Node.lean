import Payout.Extrinsic
import Payout.Failure
import Payout.Metadata.Profile

/-!
# Nodes

What a node of the chain answers. A node that is asked the same twice gives the same answer. It may refuse
some kinds of requests altogether, or only for some blocks, and what it serves may be malformed.
-/
namespace Payout

inductive Request where
  | blockHash
  | runtimeVersion
  | runtimeCall
  | storage
  | header
  | block
  | nonce
  | submit
deriving DecidableEq, Repr

/-- The name of a request in the protocol of nodes. -/
def Request.name : Request → String
  | blockHash => "chain_getBlockHash"
  | runtimeVersion => "state_getRuntimeVersion"
  | runtimeCall => "state_call"
  | storage => "state_getStorage"
  | header => "chain_getHeader"
  | block => "chain_getBlock"
  | nonce => "system_accountNextIndex"
  | submit => "author_submitAndWatchExtrinsic"

/-- Where something is stored: an entry of a pallet, and the encoded keys if the entry is a map. -/
structure StorageKey where
  pallet : String
  entry : String
  keys : List Bytes
deriving DecidableEq

/-- What is stored after a block. -/
structure State where
  /-- The event records, after their count. -/
  events : Bytes
  storage : List (StorageKey × Bytes)

structure Block where
  /-- The parent that the header of the block names, if there is a header. -/
  parent : Except ClientError (Option BlockHash)
  /-- The extrinsics as the node serves them, if it knows the block. -/
  served : Except ClientError (Option (List String))
  /-- The state, as long as the node keeps it. -/
  state : Except ClientError State

structure Node where
  refused : List Request
  genesis : Except ClientError BlockHash
  metadata : Except ClientError Metadata
  /-- The block that the node takes for the best. -/
  best : BlockHash
  /-- How often the signer has signed before. -/
  nonce : Nat
  blocks : List (BlockHash × Block)
  /-- What the node takes for the state after any other block. -/
  elsewhere : Except ClientError State

namespace Node

/-- An answer of a node that may refuse to give it. -/
def answer {α : Type} (n : Node) (r : Request) (value : Except ClientError α) :
    Except ClientError α :=
  if r ∈ n.refused then .error .rpc else value

def block? (n : Node) (hash : BlockHash) : Option Block :=
  n.blocks.lookup hash

def parent (n : Node) (hash : BlockHash) : Except ClientError (Option BlockHash) :=
  n.answer .header <|
    match n.block? hash with
    | some b => b.parent
    | none => .ok none

/-- Extrinsics as they are served, without their lengths; one that is malformed spoils them all. -/
def bodiesOfServed (served : List String) : Except ClientError (List Bytes) :=
  match served.mapM Extrinsic.bodyOfServed? with
  | some bodies => .ok bodies
  | none => .error .serialization

/-- The extrinsics of a block, if the node knows the block. -/
def bodies (n : Node) (hash : BlockHash) : Except ClientError (Option (List Bytes)) :=
  n.answer .block <|
    match n.block? hash with
    | none => .ok none
    | some b =>
      match b.served with
      | .error e => .error e
      | .ok none => .ok none
      | .ok (some served) => (bodiesOfServed served).map some

/-- The state after a block. -/
def state (n : Node) (hash : BlockHash) : Except ClientError State :=
  n.answer .storage <| ((n.block? hash).map Block.state).getD n.elsewhere

/-- What is stored under a key after a block. -/
def stored (n : Node) (hash : BlockHash) (key : StorageKey) : Except ClientError (Option Bytes) :=
  (n.state hash).map fun s => s.storage.lookup key

def events (n : Node) (hash : BlockHash) : Except ClientError Bytes :=
  (n.state hash).map State.events

def nextNonce (n : Node) : Except ClientError Nat :=
  n.answer .nonce <| if n.nonce < Bytes.bound 4 then .ok n.nonce else .error .serialization

end Node

/-- A connection to a node, with what is asked for when connecting. -/
structure Client where
  node : Node
  genesis : BlockHash
  metadata : Metadata

/-- Connects to a node that accepts the connection. -/
def Node.connect (n : Node) : Except ClientError Client := do
  let genesis ← n.answer .blockHash n.genesis
  n.answer .runtimeVersion (.ok ())
  let metadata ← n.answer .runtimeCall n.metadata
  return ⟨n, genesis, metadata⟩

end Payout
