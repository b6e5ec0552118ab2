import Payout.Options.Config

/-!
# What the command line tells about itself

The explanation of all flags in the order of their names, and the complaints about arguments.
-/
namespace Payout.Options

def program : String := "batch-sender"

/-- The program and its version. -/
def versionText : String :=
  program ++ " 1.0\n"

/-- Puts words into lines of at most `width` characters; a word that is longer has a line of its own. -/
def fill (width : Nat) (line : String) : List String → List String
  | [] => [line]
  | word :: rest =>
    if line.length + 1 + word.length ≤ width then fill width (line ++ " " ++ word) rest
    else line :: fill width word rest

/-- A text in lines of at most `width` characters. -/
def wrap (width : Nat) (text : String) : List String :=
  match text.splitOn " " with
  | [] => []
  | word :: rest => fill width word rest

/-- A flag, and what is said about it. -/
structure Entry where
  flag : String
  about : String

def Setting.entry (s : Setting) : Entry :=
  ⟨"        " ++ s.usage, s.about ++ " [default: " ++ s.default ++ "]"⟩

/-- All flags in the order of their names. -/
def entries : List Entry :=
  [Setting.amount.entry, Setting.batchMode.entry, Setting.batchSize.entry,
    Setting.connectionRetries.entry, ⟨"    -h, --help", "Print help information"⟩,
    Setting.node.entry, Setting.recipient.entry, Setting.senderSeed.entry,
    Setting.transferCall.entry, ⟨"    -V, --version", "Print version information"⟩,
    Setting.waitFor.entry]

/-- The lines about a flag. Explanations are indented, and end before column 100. -/
def Entry.lines (e : Entry) : List String :=
  e.flag :: (wrap 88 e.about).map ("            " ++ ·)

def helpText : String :=
  versionText ++ "\nUSAGE:\n    " ++ program ++ " [OPTIONS]\n\nOPTIONS:\n" ++
    String.intercalate "\n\n" (entries.map fun e => String.intercalate "\n" e.lines) ++ "\n"

def Request.text : Request → String
  | help => helpText
  | version => versionText

def firstLine (text : String) : String :=
  match Text.splitOn '\n' text.toList with
  | line :: _ :: _ => String.ofList (if line.getLast? = some '\r' then line.dropLast else line)
  | _ => text

namespace Error

/-- A text that is asked for, or the line that says what is wrong. -/
def message : Error → String
  | asked r => r.text
  | unknown argument =>
    firstLine ("error: Found argument '" ++ argument ++
      "' which wasn't expected, or isn't valid in this context")
  | needlessValue r value =>
    firstLine ("error: The value '" ++ value ++ "' was provided to '--" ++ r.name ++
      "' but it wasn't expecting any more values")
  | missingValue s =>
    "error: The argument '" ++ s.usage ++ "' requires a value but none was supplied"
  | invalid s value why =>
    firstLine ("error: Invalid value " ++ Text.quote value.toList ++ " for '" ++ s.usage ++ "': " ++
      why.message)
  | repeated s =>
    "error: The argument '" ++ s.usage ++
      "' was provided more than once, but cannot be used multiple times"

end Error
end Payout.Options
