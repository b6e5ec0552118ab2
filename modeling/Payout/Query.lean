import Payout.Node

/-!
# Queries

What can be asked about the chain: stored values, balances, and what is in a block.
-/
namespace Payout.Client

/-- The key of an entry, and the type of what is stored there. There have to be as many keys as the entry
asks for, each of its type. -/
def storageKey (c : Client) (pallet entry : String) (keys : List Scale.Value) :
    Except ClientError (StorageKey × Scale.Ty) := do
  let p ← (c.metadata.pallet pallet).mapError .metadata
  let e ← (p.entry entry).mapError .metadata
  if keys.length = e.keys.length then
    let encoded ← (e.keys.zip keys).mapM fun k => (k.1.encode k.2).mapError .encode
    return (⟨pallet, entry, encoded⟩, e.value)
  else throw (.storageAddress e.keys.length keys.length)

/-- The block to query: the one that is given, or the best one. -/
def blockToQuery (c : Client) (block : Option BlockHash) : Except ClientError BlockHash :=
  match block with
  | some hash => .ok hash
  | none => c.node.answer .blockHash (.ok c.node.best)

/-- A stored value. Bytes that follow it are ignored. -/
def storedValue (c : Client) (pallet entry : String) (keys : List Scale.Value)
    (block : Option BlockHash) : Except ClientError (Option Scale.Value) := do
  let hash ← c.blockToQuery block
  let (key, ty) ← c.storageKey pallet entry keys
  match ← c.node.stored hash key with
  | none => return none
  | some bytes =>
    match ty.decode bytes with
    | some (value, _) => return some value
    | none => throw .decode

/-- The free balance in what is stored about an account; zero if there is none, or none that fits a balance. -/
def freeOf (info : Option Scale.Value) : Balance :=
  ((info.bind (·.field? "data")).bind (·.field? "free") |>.bind Scale.Value.unsigned?).getD 0

def freeBalance (c : Client) (account : AccountId) (block : Option BlockHash) :
    Except ClientError Balance := do
  let info ← c.storedValue "System" "Account" [.bytes account.toList] block
  return freeOf info

def blockContains (c : Client) (block : BlockHash) (tx : TxHash) : Except Failure Bool :=
  match c.node.bodies block with
  | .error e => .error (.client e)
  | .ok none => .error (.noBlock block)
  | .ok (some bodies) => .ok (bodies.any fun body => Extrinsic.hashOfBody body = tx)

def parentOf (c : Client) (block : BlockHash) : Except Failure BlockHash :=
  match c.node.parent block with
  | .error e => .error (.client e)
  | .ok none => .error (.noHeader block)
  | .ok (some parent) => .ok parent

end Payout.Client
