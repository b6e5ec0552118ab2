import Payout.Inclusion
import Payout.StatusStream

/-!
# Submission

A call is signed and sent to a node, which then reports on its progress. Every report becomes one status;
reports of inclusion are confirmed first.
-/
namespace Payout

inductive Notification where
  | future
  | ready
  | broadcast (peers : List String)
  | inBlock (block : BlockHash)
  | retracted (block : BlockHash)
  | finalityTimeout (block : BlockHash)
  | finalized (block : BlockHash)
  | usurped (tx : TxHash)
  | dropped
  | invalid
  /-- A report that cannot be understood. -/
  | unreadable
deriving DecidableEq

namespace Notification

/-- Nothing is reported after it. -/
def isLast : Notification → Bool
  | finalityTimeout _ | finalized _ | usurped _ | dropped | invalid => true
  | _ => false

/-- The reports up to the first that ends them. -/
def upToLast : List Notification → List Notification
  | [] => []
  | n :: rest => if n.isLast then [n] else n :: upToLast rest

/-- What a report becomes for the extrinsic of a hash. -/
def item (c : Client) (tx : TxHash) : Notification → Item
  | future => .ok .future
  | ready => .ok .ready
  | broadcast peers => .ok (.broadcast peers.length)
  | inBlock block => (Inclusion.confirm c block tx).map .inBlock
  | retracted block => .ok (.retracted block)
  | finalityTimeout block => .ok (.finalityTimeout block)
  | finalized block => (Inclusion.confirm c block tx).map .finalized
  | usurped other => .ok (.usurped other)
  | dropped => .ok .dropped
  | invalid => .ok .invalid
  | unreadable => .error (.client .serialization)

end Notification

/-- The statuses of the extrinsic of a hash, one for each report. -/
def StatusStream.watch (c : Client) (tx : TxHash) (reports : List Notification) : StatusStream :=
  .new tx ((Notification.upToLast reports).map (Notification.item c tx))

/-- Who signs, and the signatures that result. -/
structure Signer where
  account : AccountId
  sign : (nonce : Nat) → (call : Bytes) → Signature

/-- What is known about the call that a payload names: nothing, or a description of it that is that of the
runtime or is not. -/
inductive Validation where
  | none
  | right
  | wrong
deriving DecidableEq, Repr

/-- A description of a call has to be that of the runtime. -/
def Payload.validate (m : Metadata) (p : Payload) : Validation → Except ClientError Unit
  | .none => .ok ()
  | .right => (((m.pallet p.pallet).bind (·.call p.call)).map fun _ => ()).mapError .metadata
  | .wrong =>
    (((m.pallet p.pallet).bind (·.call p.call)).bind fun _ => .error .sameCall).mapError .metadata

def Client.extrinsic (c : Client) (signer : Signer) (p : Payload) (v : Validation) :
    Except ClientError Extrinsic := do
  let nonce ← c.node.nextNonce
  p.validate c.metadata v
  let call ← (p.encode c.metadata).mapError .ofCall
  return ⟨signer.account, signer.sign nonce call, nonce, call⟩

/-- Whether a node accepts the next extrinsic, and what it reports about it. -/
structure Reception where
  rejected : Bool
  reports : List Notification

/-- The extrinsics that were sent to a node, in order, and what that led to: the extrinsic that the node accepted and
the stream of its statuses. -/
structure Submission where
  sent : List Extrinsic
  result : Except Failure (Extrinsic × StatusStream)

/-- Signs a payload and sends it. The node may still refuse what was sent. -/
def Client.submission (c : Client) (signer : Signer) (p : Payload) (v : Validation)
    (reception : Reception) : Submission :=
  match c.extrinsic signer p v with
  | .error e => ⟨[], .error (.submit e)⟩
  | .ok x =>
    match c.node.answer .submit (if reception.rejected then .error .rpc else .ok ()) with
    | .error e => ⟨[x], .error (.submit e)⟩
    | .ok () => ⟨[x], .ok (x, .watch c x.hash reception.reports)⟩

/-- What the submission of a payload leads to. -/
def Client.submitPayload (c : Client) (signer : Signer) (p : Payload) (v : Validation)
    (reception : Reception) : Except Failure (Extrinsic × StatusStream) :=
  (c.submission signer p v reception).result

def Client.submit (c : Client) (signer : Signer) (b : Batch) (reception : Reception) :
    Except Failure (Extrinsic × StatusStream) :=
  c.submitPayload signer b.payload .none reception

end Payout
