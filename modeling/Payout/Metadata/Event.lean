import Payout.Metadata.Pallet

/-!
# Event records

What happened in a block, in order: each record names the phase it belongs to, the pallet and the event.
A record of an unknown pallet or event, or with bytes that cannot be read, is an error in its place, and
nothing after it can be read.
-/
namespace Payout.Metadata

/-- When an event happened. -/
inductive Phase where
  | applying (extrinsic : Nat)
  | finalization
  | initialization
deriving DecidableEq, Repr

structure EventRecord where
  phase : Phase
  pallet : String
  event : String
  items : List Scale.Value

/-- Why a record cannot be read. -/
inductive EventError where
  | codec
  | missing (what : Missing)
  | decode
deriving DecidableEq

namespace EventRecord

/-- The record is of an event of a pallet, and of the given phase. -/
def isOf (r : EventRecord) (pallet event : String) (phase : Phase) : Bool :=
  r.phase = phase && r.pallet = pallet && r.event = event

/-- The dispatch error that a record tells of. -/
def dispatchError? (r : EventRecord) : Option DispatchError :=
  r.items.findSome? DispatchError.ofValue?

def readPhase : Bytes → Except EventError (Phase × Bytes)
  | 0 :: rest =>
    match Bytes.split? 4 rest with
    | some (n, rest) => .ok (.applying (Bytes.toNat n), rest)
    | none => .error .codec
  | 1 :: rest => .ok (.finalization, rest)
  | 2 :: rest => .ok (.initialization, rest)
  | _ => .error .codec

/-- Steps over the topics of a record, 32 bytes each. -/
def skipTopics (bytes : Bytes) : Except EventError Bytes :=
  match Scale.Compact.decodeBelow (Bytes.bound 4) bytes with
  | some (count, rest) =>
    match Bytes.split? (32 * count) rest with
    | some (_, rest) => .ok rest
    | none => .error .codec
  | none => .error .codec

/-- Reads one record, and what follows it. -/
def read (m : Metadata) (bytes : Bytes) : Except EventError (EventRecord × Bytes) := do
  let (phase, bytes) ← readPhase bytes
  match bytes with
  | palletIndex :: eventIndex :: rest =>
    let pallet ← (m.palletAt palletIndex).mapError .missing
    if pallet.events.hasIndex eventIndex then
      match pallet.events.decode eventIndex rest with
      | some (.variant name _ items, rest) =>
        let rest ← skipTopics rest
        return (⟨phase, pallet.name, name, items⟩, rest)
      | _ => throw .decode
    else throw (.missing (.variantIndex eventIndex.toNat))
  | _ => throw .codec

/-- Reads up to `count` records. The bytes may end before there are as many. -/
def readMany (m : Metadata) : (count : Nat) → Bytes → List (Except EventError EventRecord)
  | 0, _ => []
  | _, [] => []
  | count + 1, bytes =>
    match read m bytes with
    | .ok (record, rest) => .ok record :: readMany m count rest
    | .error e => [.error e]

/-- Reads the records of a block after their compact count. An unreadable count is no records. -/
def readAll (m : Metadata) (bytes : Bytes) : List (Except EventError EventRecord) :=
  match Scale.Compact.decodeBelow (Bytes.bound 4) bytes with
  | some (count, rest) => readMany m count rest
  | none => []

end EventRecord
end Payout.Metadata
