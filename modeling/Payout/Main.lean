import Payout.Sender

/-!
# Command line

Runs the program with the arguments it is given. It has no transport to nodes, so that every attempt to
connect fails; the pauses between attempts are real.
-/
namespace Payout

/-- Does what a step says. -/
def Step.perform : Step → IO Unit
  | .attempt _ => pure ()
  | .warning w => IO.eprintln w.message
  | .pause seconds => IO.sleep (1000 * seconds).toUInt32

end Payout

open Payout

def main (arguments : List String) : IO UInt32 := do
  let run := Sender.run Sender.offline arguments
  run.steps.forM Step.perform
  IO.print run.output
  for w in run.statusWarnings do IO.eprintln w.message
  if let some line := run.complaint then IO.eprintln line
  return run.exitCode
