import Payout.Query

/-!
# Inclusion

A node that reports an extrinsic to be in a block is not taken at its word: the extrinsic has to be found in
the block, and the events of the block have to tell of no failure of it.
-/
namespace Payout.Inclusion

open Metadata (EventError EventRecord Phase)

/-- The place of the first extrinsic with a hash. -/
def position (bodies : List Bytes) (tx : TxHash) : Option Nat :=
  bodies.findIdx? fun body => Extrinsic.hashOfBody body = tx

/-- The record tells that an extrinsic failed. -/
def isFailure (phase : Phase) (r : EventRecord) : Bool :=
  r.isOf "System" "ExtrinsicFailed" phase

/-- The record tells that not all of a batch was carried out. -/
def isInterruption (phase : Phase) (r : EventRecord) : Bool :=
  r.isOf "Utility" "BatchInterrupted" phase

/-- What a failed extrinsic leads to. -/
def failureOf (m : Metadata) (r : EventRecord) : ClientError :=
  match r.dispatchError? with
  | some e => .runtime e.name (e.message m.palletError)
  | none => .decode

/-- Reads records up to the first that cannot be read or tells of the failure of an extrinsic. -/
def checkEvents (m : Metadata) (phase : Phase) :
    List (Except EventError EventRecord) → Except ClientError (List EventRecord)
  | [] => .ok []
  | .error e :: _ => .error (.ofEvent e)
  | .ok r :: rest =>
    if isFailure phase r then .error (failureOf m r)
    else (checkEvents m phase rest).map (r :: ·)

/-- What the events of a block say about one of its extrinsics. -/
def outcome (m : Metadata) (block : BlockHash) (tx : TxHash) (phase : Phase)
    (events : List (Except EventError EventRecord)) : Except Failure TxInfo :=
  match checkEvents m phase events with
  | .error e => .error (.client e)
  | .ok records =>
    if records.any (isInterruption phase) then .error (.submission (.batchInterrupted block))
    else .ok ⟨block, tx⟩

/-- Confirms that an extrinsic is in a block and was carried out. -/
def confirm (c : Client) (block : BlockHash) (tx : TxHash) : Except Failure TxInfo :=
  match c.node.bodies block with
  | .error e => .error (.client e)
  | .ok bodies =>
    match bodies.bind (position · tx) with
    | none => .error (.client .blockNotFound)
    | some i =>
      match c.node.events block with
      | .error e => .error (.client e)
      | .ok bytes => outcome c.metadata block tx (.applying i) (EventRecord.readAll c.metadata bytes)

end Payout.Inclusion
