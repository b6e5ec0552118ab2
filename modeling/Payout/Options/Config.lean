import Payout.Options.Arguments

/-!
# Configurations

What the program is to do, as the command line says. Settings are read in the order in which they are first
given, and whatever is wrong with the first of them is reported.
-/
namespace Payout.Options

structure Config where
  node : String
  senderSeed : String
  recipient : String
  amount : Balance
  batchSize : Nat
  batchMode : BatchMode
  transferCall : String
  waitFor : WaitFor
  connectionRetries : Nat
deriving DecidableEq

/-- Reads the number of transfers in a batch. -/
def readBatchSize (text : String) : Except ValueError Nat :=
  match Numeral.read (Bytes.bound 8 - 1) text.toList with
  | .ok 0 => .error .emptyBatch
  | .ok n => .ok n
  | .error e => .error (.numeral e)

/-- Reads a number that fits so many bytes. -/
def readNumber (width : Nat) (text : String) : Except ValueError Nat :=
  (Numeral.read (Bytes.bound width - 1) text.toList).mapError .numeral

def readMode (text : String) : Except ValueError BatchMode :=
  match BatchMode.ofText? text with
  | some mode => .ok mode
  | none => .error (.unknownMode text)

def readStatus (text : String) : Except ValueError WaitFor :=
  match WaitFor.ofText? text with
  | some status => .ok status
  | none => .error (.unknownStatus text)

namespace Config

/-- The configuration when nothing is given. -/
def default : Config where
  node := Setting.node.default
  senderSeed := Setting.senderSeed.default
  recipient := Setting.recipient.default
  amount := 12345
  batchSize := 100
  batchMode := .batch
  transferCall := Setting.transferCall.default
  waitFor := .inBlock
  connectionRetries := 10

/-- Gives a setting a value. -/
def set (c : Config) : Setting → String → Except ValueError Config
  | .node, v => .ok { c with node := v }
  | .senderSeed, v => .ok { c with senderSeed := v }
  | .recipient, v => .ok { c with recipient := v }
  | .amount, v => (readNumber 16 v).map fun n => { c with amount := .ofNat 128 n }
  | .batchSize, v => (readBatchSize v).map fun n => { c with batchSize := n }
  | .batchMode, v => (readMode v).map fun m => { c with batchMode := m }
  | .transferCall, v => .ok { c with transferCall := v }
  | .waitFor, v => (readStatus v).map fun w => { c with waitFor := w }
  | .connectionRetries, v => (readNumber 4 v).map fun n => { c with connectionRetries := n }

/-- The defaults are what their texts say. -/
theorem set_default (s : Setting) : default.set s s.default = .ok default := by
  cases s <;> rfl

end Config

/-- The values that were given for a setting, in order. -/
def valuesOf (s : Setting) (given : List Given) : List String :=
  (given.filter (·.setting = s)).filterMap Given.value

def timesGiven (s : Setting) (given : List Given) : Nat :=
  given.countP (·.setting = s)

/-- The settings in the order in which they were first given. -/
def settingsOf : List Given → List Setting
  | [] => []
  | g :: rest => g.setting :: (settingsOf rest).filter (· ≠ g.setting)

/-- Takes over one setting. All its values are read before it is found to be given too often. -/
def apply (given : List Given) (c : Config) (s : Setting) : Except Error Config :=
  match valuesOf s given with
  | [] => .error (.missingValue s)
  | values => do
    let c ← values.foldlM (fun c v => (c.set s v).mapError (.invalid s v)) c
    if 1 < timesGiven s given then throw (.repeated s) else return c

/-- A setting that was given last, and is still without a value. -/
def unfinished (given : List Given) : Option Setting :=
  match given.getLast? with
  | some ⟨s, none⟩ => if valuesOf s given = [] then some s else none
  | _ => none

def ofGiven (given : List Given) : Except Error Config :=
  match unfinished given with
  | some s => .error (.missingValue s)
  | none => (settingsOf given).foldlM (apply given) Config.default

def parse (arguments : List String) : Except Error Config := do
  let given ← readArguments arguments
  ofGiven given

end Payout.Options
