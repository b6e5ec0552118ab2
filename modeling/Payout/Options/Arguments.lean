import Payout.Options.Setting
import Payout.Text.Fields
import Payout.Text.Quoted

/-!
# Arguments of the command line

Every argument is a flag that asks for something to be shown, or gives a setting: `--name=value`, or
`--name` with the value as the next argument, if that does not itself look like a flag. After the argument
`--` nothing may follow.
-/
namespace Payout.Options

/-- What can be asked for instead of a run. -/
inductive Request where
  | help
  | version
deriving DecidableEq, Repr

def Request.name : Request → String
  | help => "help"
  | version => "version"

/-- Why there is nothing to run. -/
inductive Error where
  /-- Something else was asked for. -/
  | asked (r : Request)
  | unknown (argument : String)
  /-- A value for a flag that takes none. -/
  | needlessValue (r : Request) (value : String)
  | missingValue (s : Setting)
  | invalid (s : Setting) (value : String) (why : ValueError)
  | repeated (s : Setting)
deriving DecidableEq

/-- A setting as it was given, with its value if there was one. -/
structure Given where
  setting : Setting
  value : Option String
deriving DecidableEq

/-- What an argument looks like. -/
inductive Argument where
  /-- Two hyphens. -/
  | escape
  /-- A name after two hyphens, and a value after `=`. -/
  | long (name : List Char) (value : Option (List Char))
  /-- A letter after one hyphen, and more. -/
  | short (letter : Char)
  | plain
deriving DecidableEq

/-- Cuts at the first `=`. -/
def cutValue : List Char → List Char × Option (List Char)
  | [] => ([], none)
  | c :: rest =>
    if c = '=' then ([], some rest)
    else
      let (name, value) := cutValue rest
      (c :: name, value)

def Argument.ofText : List Char → Argument
  | ['-', '-'] => .escape
  | '-' :: '-' :: rest =>
    let (name, value) := cutValue rest
    .long name value
  | '-' :: c :: _ => .short c
  | _ => .plain

/-- What the flag of a letter asks for. -/
def Request.ofLetter? (c : Char) : Option Request :=
  if c = 'h' then some .help else if c = 'V' then some .version else none

/-- What the flag of a name asks for. -/
def Request.ofName? (name : List Char) : Option Request :=
  if name = "help".toList then some .help
  else if name = "version".toList then some .version
  else none

/-- An argument is the value of the setting before it, unless it looks like a flag. -/
def isValue (argument : String) : Bool :=
  Argument.ofText argument.toList = .plain

/-- Puts a setting before those that follow, unless something is wrong with them. -/
def Given.andThen (g : Given) (rest : Except Error (List Given)) : Except Error (List Given) :=
  rest.map (g :: ·)

/-- Reads arguments from left to right. -/
def readArguments : List String → Except Error (List Given)
  | [] => .ok []
  | argument :: rest =>
    match Argument.ofText argument.toList with
    | .escape =>
      match rest with
      | [] => .ok []
      | extra :: _ => .error (.unknown extra)
    | .plain => .error (.unknown argument)
    | .short c =>
      match Request.ofLetter? c with
      | some r => .error (.asked r)
      | none => .error (.unknown (String.ofList ['-', c]))
    | .long name value =>
      match Request.ofName? name, value with
      | some r, none => .error (.asked r)
      | some r, some value => .error (.needlessValue r (String.ofList value))
      | none, value =>
        match Setting.ofName? (String.ofList name), value with
        | none, _ => .error (.unknown ("--" ++ String.ofList name))
        | some s, some value => (Given.mk s (some (String.ofList value))).andThen (readArguments rest)
        | some s, none =>
          match rest with
          | [] => .ok [⟨s, none⟩]
          | next :: others =>
            if isValue next then (Given.mk s (some next)).andThen (readArguments others)
            else (Given.mk s none).andThen (readArguments (next :: others))

end Payout.Options
