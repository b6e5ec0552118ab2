import Payout.Hex

/-!
# The progress of a submission

What the node reports about an extrinsic after it was submitted, and the ways in which that can end
without the status that was waited for.
-/
namespace Payout

structure TxInfo where
  blockHash : BlockHash
  txHash : TxHash
deriving DecidableEq

/-- How far a transaction is to be followed. -/
inductive Target where
  | inBlock
  | finalized
  | submitted
deriving DecidableEq, Repr

def Target.name : Target → String
  | inBlock => "InBlock"
  | finalized => "Finalized"
  | submitted => "Submitted"

inductive Status where
  /-- Another transaction has to be included first. -/
  | future
  /-- It may be included in a block. -/
  | ready
  /-- It was sent to this many peers. -/
  | broadcast (peers : Nat)
  /-- It is in a block of the best chain. -/
  | inBlock (info : TxInfo)
  /-- The block that contains it left the best chain. -/
  | retracted (block : BlockHash)
  /-- The block that contains it was not finalized in time. -/
  | finalityTimeout (block : BlockHash)
  | finalized (info : TxInfo)
  /-- Another extrinsic took its place. -/
  | usurped (tx : TxHash)
  /-- It fell out of the pool. -/
  | dropped
  /-- The node takes it for invalid. -/
  | invalid
deriving DecidableEq

/-- How a submission ends without the status that was waited for. -/
inductive SubmissionError where
  | dropped
  | invalid
  | usurped (tx : TxHash)
  | finalityTimeout (block : BlockHash)
  /-- The batch is in the block, but one of its calls failed and the rest were skipped. -/
  | batchInterrupted (block : BlockHash)
  | streamEnded (target : Target)
deriving DecidableEq

/-- The error a status ends the submission with, for the statuses that end it. -/
def Status.rejection : Status → Option SubmissionError
  | dropped => some .dropped
  | invalid => some .invalid
  | usurped tx => some (.usurped tx)
  | finalityTimeout block => some (.finalityTimeout block)
  | _ => none

namespace SubmissionError

def name : SubmissionError → String
  | dropped => "Dropped"
  | invalid => "Invalid"
  | usurped _ => "Usurped"
  | finalityTimeout _ => "FinalityTimeout"
  | batchInterrupted _ => "BatchInterrupted"
  | streamEnded _ => "StreamEnded"

def message : SubmissionError → String
  | dropped => "transaction was dropped from the pool"
  | invalid => "transaction is invalid"
  | usurped tx => "transaction was usurped by " ++ tx.hex
  | finalityTimeout block => "finality timed out for block " ++ block.hex
  | batchInterrupted block => "batch included in block " ++ block.hex ++ " was interrupted"
  | streamEnded target =>
    "status stream ended before the transaction reached " ++ target.name

/-- The error with what it carries, fields in braces after their names. -/
def describe : SubmissionError → String
  | dropped => "Dropped"
  | invalid => "Invalid"
  | usurped tx => "Usurped(" ++ tx.hex ++ ")"
  | finalityTimeout block => "FinalityTimeout(" ++ block.hex ++ ")"
  | batchInterrupted block => "BatchInterrupted \x7b block_hash: " ++ block.hex ++ " \x7d"
  | streamEnded target => "StreamEnded(" ++ target.name ++ ")"

end SubmissionError

def TxInfo.describe (info : TxInfo) : String :=
  "TxInfo \x7b block_hash: " ++ info.blockHash.hex ++ ", tx_hash: " ++ info.txHash.hex ++ " \x7d"

def Status.describe : Status → String
  | future => "Future"
  | ready => "Ready"
  | broadcast peers => "Broadcast(" ++ toString peers ++ ")"
  | inBlock info => "InBlock(" ++ info.describe ++ ")"
  | retracted block => "Retracted(" ++ block.hex ++ ")"
  | finalityTimeout block => "FinalityTimeout(" ++ block.hex ++ ")"
  | finalized info => "Finalized(" ++ info.describe ++ ")"
  | usurped tx => "Usurped(" ++ tx.hex ++ ")"
  | dropped => "Dropped"
  | invalid => "Invalid"

end Payout
