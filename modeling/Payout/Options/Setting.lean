import Payout.Batch
import Payout.Numeral
import Payout.Status

/-!
# Settings

What can be set on the command line. Each setting has a name, a default, and a line of explanation; all
defaults are texts that the setting itself would accept.
-/
namespace Payout

/-- The status up to which the program follows the batch. -/
inductive WaitFor where
  | inBlock
  | finalized
deriving DecidableEq, Repr

namespace WaitFor

/-- Reads a status; its words may be joined by a hyphen or by an underscore. -/
def ofText? (text : String) : Option WaitFor :=
  if text = "in-block" ∨ text = "in_block" then some inBlock
  else if text = "finalized" then some finalized
  else none

/-- The complaint about a text that is no status to wait for. -/
def complaint (text : String) : String :=
  "unknown status `" ++ text ++ "`, expected `in-block` or `finalized`"

def target : WaitFor → Target
  | inBlock => .inBlock
  | finalized => .finalized

def name (w : WaitFor) : String :=
  w.target.name

end WaitFor

namespace Options

inductive Setting where
  | node
  | senderSeed
  | recipient
  | amount
  | batchSize
  | batchMode
  | transferCall
  | waitFor
  | connectionRetries
deriving DecidableEq, Repr

namespace Setting

def all : List Setting :=
  [node, senderSeed, recipient, amount, batchSize, batchMode, transferCall, waitFor, connectionRetries]

def name : Setting → String
  | node => "node"
  | senderSeed => "sender-seed"
  | recipient => "recipient"
  | amount => "amount"
  | batchSize => "batch-size"
  | batchMode => "batch-mode"
  | transferCall => "transfer-call"
  | waitFor => "wait-for"
  | connectionRetries => "connection-retries"

/-- What stands for the value of a setting in texts. -/
def valueName : Setting → String
  | node => "NODE"
  | senderSeed => "SENDER_SEED"
  | recipient => "RECIPIENT"
  | amount => "AMOUNT"
  | batchSize => "BATCH_SIZE"
  | batchMode => "BATCH_MODE"
  | transferCall => "TRANSFER_CALL"
  | waitFor => "WAIT_FOR"
  | connectionRetries => "CONNECTION_RETRIES"

/-- How a setting is given. -/
def usage (s : Setting) : String :=
  "--" ++ s.name ++ " <" ++ s.valueName ++ ">"

/-- The setting of a name. -/
def ofName? (name : String) : Option Setting :=
  all.find? fun s => s.name = name

theorem ofName?_name (s : Setting) : ofName? s.name = some s := by
  cases s <;> decide

/-- The text that counts as given when none is. -/
def default : Setting → String
  | node => "ws://127.0.0.1:9944"
  | senderSeed => "//Alice"
  | recipient => "//Bob"
  | amount => "12345"
  | batchSize => "100"
  | batchMode => "batch"
  | transferCall => Transfer.defaultCall
  | waitFor => "in-block"
  | connectionRetries => "10"

def about : Setting → String
  | node => "WS endpoint address of the node to connect to"
  | senderSeed => "Seed of the account which signs and pays for the batch"
  | recipient => "Receiver of every transfer: either a seed (e.g. `//Bob`) or an SS58 address"
  | amount => "Amount sent by each of the transfers"
  | batchSize => "How many identical transfers to put into the batch"
  | batchMode => "Utility call wrapping the transfers: `batch`, `batch-all` or `force-batch`"
  | transferCall => "Balances call used for each transfer, e.g. `transfer_keep_alive`"
  | waitFor => "Status of the batch to wait for before exiting: `in-block` or `finalized`"
  | connectionRetries =>
    "How many more times to try connecting to the node, a second apart, before giving up"

end Setting

/-- Why a text is no value of a setting. -/
inductive ValueError where
  | numeral (e : NumeralError)
  | emptyBatch
  | unknownMode (text : String)
  | unknownStatus (text : String)
deriving DecidableEq

def ValueError.message : ValueError → String
  | numeral e => e.message
  | emptyBatch => "batch has to contain at least one transfer"
  | unknownMode text => BatchMode.complaint text
  | unknownStatus text => WaitFor.complaint text

end Options
end Payout
