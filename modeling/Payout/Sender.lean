import Payout.Account
import Payout.Connection
import Payout.Options.Help
import Payout.Submission

/-!
# The program

A run reads the options, then the two accounts, then connects, submits the batch and waits for it. What the
run meets is given: the outcomes of attempts to connect, the signatures, and what the node reports.
-/
namespace Payout.Sender

structure World where
  /-- What each attempt to connect leads to. -/
  outcome : Nat → Except ClientError Client
  /-- The signature of a key for a call. -/
  sign : Key.KeyPair → (nonce : Nat) → (call : Bytes) → Signature
  /-- What becomes of the extrinsic that is submitted. -/
  reception : Reception

structure Run where
  exitCode : UInt32
  /-- What was printed as output. -/
  output : String
  /-- The line of complaint, if there is one. -/
  complaint : Option String
  steps : List Step
  /-- The warnings about the extrinsic. -/
  statusWarnings : List Warning
  /-- The extrinsics that were sent to a node, also those that it refused. -/
  submitted : List Extrinsic

namespace Run

def warnings (r : Run) : List Warning :=
  (r.steps.filterMap fun
    | .warning w => some w
    | _ => none) ++ r.statusWarnings

/-- A run that ends with the options. -/
def ofOptionError (e : Options.Error) : Run :=
  match e with
  | .asked r => ⟨0, r.text, none, [], [], []⟩
  | e => ⟨2, "", some e.message, [], [], []⟩

/-- A run that fails, with what it did until then. -/
def failed (steps : List Step) (submitted : List Extrinsic) (e : Failure) : Run :=
  ⟨1, "", some (Options.firstLine ("Error: " ++ e.report)), steps, [], submitted⟩

end Run

/-- The line that says where the batch was included. -/
def includedLine (info : TxInfo) : String :=
  "included in " ++ info.blockHash.hex ++ "\n"

def warningsOf (items : List Item) : List Warning :=
  items.filterMap Item.warning?

/-- Follows a submitted batch: first into a block, and then until that is final if so asked. -/
def follow (steps : List Step) (submitted : List Extrinsic) (stream : StatusStream)
    (config : Options.Config) : Run :=
  let first := stream.wait .inBlock
  match first.answer with
  | .error e => { Run.failed steps submitted e with statusWarnings := warningsOf first.taken }
  | .ok info =>
    let run : Run := ⟨0, includedLine info, none, steps, warningsOf first.taken, submitted⟩
    match config.waitFor with
    | .inBlock => run
    | .finalized =>
      let second := (stream.waitFor .inBlock).2.wait .finalized
      let run := { run with statusWarnings := run.statusWarnings ++ warningsOf second.taken }
      match second.answer with
      | .ok _ => run
      | .error e =>
        { run with exitCode := 1, complaint := (Run.failed steps submitted e).complaint }

def batchOf (c : Options.Config) (recipient : AccountId) : Batch :=
  .repeated ⟨recipient, c.amount, c.transferCall⟩ c.batchSize c.batchMode

def send (w : World) (c : Options.Config) (sender : Key.KeyPair) (recipient : AccountId) : Run :=
  let connecting := Connection.connect c.node c.connectionRetries w.outcome
  match connecting.result with
  | .error e => .failed connecting.steps [] e
  | .ok client =>
    let submission := client.submission ⟨sender.account, w.sign sender⟩ (batchOf c recipient).payload
      .none w.reception
    match submission.result with
    | .error e => .failed connecting.steps submission.sent e
    | .ok (_, stream) => follow connecting.steps submission.sent stream c

/-- Runs the program with a configuration. Nobody is called before both accounts are known. -/
def runWith (w : World) (c : Options.Config) : Run :=
  match Key.KeyPair.ofSeed c.senderSeed with
  | .error e => .failed [] [] (.seed e)
  | .ok sender =>
    match accountOfText c.recipient with
    | .error e => .failed [] [] (.seed e)
    | .ok recipient => send w c sender recipient

def run (w : World) (arguments : List String) : Run :=
  match Options.parse arguments with
  | .error e => .ofOptionError e
  | .ok c => runWith w c

/-- A world without any node: no attempt to connect succeeds, so nothing is ever signed. -/
def offline : World where
  outcome := fun _ => .error .rpc
  sign := fun _ _ _ => ⟨List.replicate 64 0, by simp⟩
  reception := ⟨true, []⟩

end Payout.Sender
