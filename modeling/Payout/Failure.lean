import Payout.Batch
import Payout.Key.KeyPair
import Payout.Metadata.Event
import Payout.Status

/-!
# Failures

Everything that can go wrong between a request and its answer. Failures of the chain's client carry the
kind of failure; all others are told by their text alone.
-/
namespace Payout

/-- What goes wrong in talking to a node. -/
inductive ClientError where
  /-- A request failed. -/
  | rpc
  /-- Bytes of the protocol cannot be read. -/
  | codec
  /-- An answer is not of the form it should have. -/
  | serialization
  /-- A stored value cannot be read as its type. -/
  | decode
  /-- Something else. -/
  | other
  | metadata (missing : Metadata.Missing)
  | encode (e : Scale.EncodeError)
  | storageAddress (expected actual : Nat)
  /-- The block of a transaction cannot be found. -/
  | blockNotFound
  /-- The runtime refused the call, for a reason that is told by its kind and a text. -/
  | runtime (kind text : String)
deriving DecidableEq

namespace ClientError

def name : ClientError → String
  | rpc => "Rpc"
  | codec => "Codec"
  | serialization => "Serialization"
  | decode => "Decode"
  | other => "Other"
  | metadata _ => "Metadata"
  | encode _ => "Encode"
  | storageAddress _ _ => "StorageAddress"
  | blockNotFound => "Transaction"
  | runtime _ _ => "Runtime"

def message : ClientError → String
  | rpc => "Rpc error"
  | codec => "Scale codec error"
  | serialization => "Serde json error"
  | decode => "Error decoding into dynamic value"
  | other => "Other error"
  | metadata missing => "Metadata: " ++ missing.message
  | encode e => "Error encoding from dynamic value: " ++ e.message
  | storageAddress expected actual =>
    "Error encoding storage address: Storage lookup requires " ++ toString expected ++
      " keys but got " ++ toString actual ++ " keys"
  | blockNotFound =>
    "Transaction error: The block containing the transaction can no longer be found (perhaps it was " ++
      "on a non-finalized fork?)"
  | runtime _ text => text

def ofCall : CallError → ClientError
  | .missing what => metadata what
  | .encode e => encode e

def ofEvent : Metadata.EventError → ClientError
  | .codec => codec
  | .missing what => metadata what
  | .decode => decode

end ClientError

/-- What a caller is told. -/
inductive Failure where
  | submission (e : SubmissionError)
  | client (e : ClientError)
  | connect (address : String) (e : ClientError)
  | submit (e : ClientError)
  | noBlock (block : BlockHash)
  | noHeader (block : BlockHash)
  | seed (e : Key.SeedError)
  | text (s : String)
deriving DecidableEq

namespace Failure

/-- The kind of a failure; those without one of their own are other failures. -/
def kind : Failure → String
  | submission e => e.name
  | client e => e.name
  | _ => "Other"

def message : Failure → String
  | submission e => e.message
  | client e => e.message
  | connect address e => "Failed to connect to " ++ address ++ ": " ++ e.name
  | submit e => "Failed to submit transaction: " ++ e.name
  | noBlock block => "Failed to fetch block " ++ block.hex ++ "."
  | noHeader block => "Failed to fetch header of block " ++ block.hex ++ "."
  | seed e => e.message
  | text s => s

/-- The text with which the program ends on a failure. A refusal of the runtime is told by its kind. -/
def report : Failure → String
  | client (.runtime kind _) => "Runtime error: " ++ kind
  | e => e.message

end Failure
end Payout
