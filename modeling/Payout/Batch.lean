import Payout.Metadata.Pallet
import Payout.Transfer

/-!
# Batches

Transfers that are submitted together, wrapped in one call of the utility pallet. The mode of a batch
says which call that is: one that stops at the first failure, one that undoes everything on a failure, or
one that skips failures. A batch has two forms that hold the same: one value of the runtime's call type,
and a payload that names pallet and call and gives the arguments.
-/
namespace Payout

inductive BatchMode where
  /-- Calls are carried out up to the first failure. -/
  | batch
  /-- All calls are carried out, or none. -/
  | batchAll
  /-- Every call is carried out, whatever becomes of the others. -/
  | forceBatch
deriving DecidableEq, Repr, Inhabited

namespace BatchMode

/-- The call of the utility pallet. -/
def callName : BatchMode → String
  | batch => "batch"
  | batchAll => "batch_all"
  | forceBatch => "force_batch"

def name : BatchMode → String
  | batch => "Batch"
  | batchAll => "BatchAll"
  | forceBatch => "ForceBatch"

/-- Reads a mode; its words may be joined by a hyphen or by an underscore. -/
def ofText? (text : String) : Option BatchMode :=
  if text = "batch" then some batch
  else if text = "batch-all" ∨ text = "batch_all" then some batchAll
  else if text = "force-batch" ∨ text = "force_batch" then some forceBatch
  else none

def complaint (text : String) : String :=
  "unknown batch mode `" ++ text ++ "`, expected one of: batch, batch-all, force-batch"

end BatchMode

structure Payload where
  pallet : String
  call : String
  arguments : List Scale.Value

/-- Why there is no call data. -/
inductive CallError where
  | missing (what : Metadata.Missing)
  | encode (e : Scale.EncodeError)
deriving DecidableEq

/-- Call data: the bytes of the pallet and of the call, then the arguments. A list of one item that
cannot be written is an error like any other. An encoder that looks through such lists at their only item may go on
without end there: it has no answer for a batch of exactly one call that cannot be written. -/
def Payload.encode (m : Metadata) (p : Payload) : Except CallError Bytes := do
  let pallet ← (m.pallet p.pallet).mapError .missing
  let (index, types) ← (pallet.call p.call).mapError .missing
  let bytes ← (types.encodeAll p.arguments).mapError .encode
  return pallet.index :: index :: bytes

/-- Transfers in order of execution, and how they are wrapped. -/
structure Batch where
  transfers : List Transfer
  mode : BatchMode
deriving DecidableEq

namespace Batch

/-- The same transfer a number of times. -/
def repeated (t : Transfer) (count : Nat) (mode : BatchMode) : Batch :=
  ⟨List.replicate count t, mode⟩

def length (b : Batch) : Nat :=
  b.transfers.length

def isEmpty (b : Batch) : Bool :=
  b.transfers.isEmpty

def calls (b : Batch) : List Scale.Value :=
  b.transfers.map Transfer.callValue

/-- The batch as one runtime call. -/
def callValue (b : Batch) : Scale.Value :=
  .call "Utility" [.call b.mode.callName [.tuple b.calls]]

/-- The batch as a payload. -/
def payload (b : Batch) : Payload :=
  ⟨"Utility", b.mode.callName, [.tuple b.calls]⟩

end Batch
end Payout
