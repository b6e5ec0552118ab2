import Payout.Text.Fields
import Payout.Text.WordChar

/-!
# Secret URIs

The text that names a key: an optional phrase of word characters and blanks, any number of junctions,
and an optional password. A junction is a name after one slash (soft) or two (hard), a password is
whatever follows three slashes on the same line. Names are not empty and hold no slash; they may hold
anything else, line ends included. Every text is written from at most one such triple.
-/
namespace Payout.Key

/-- One step from a key to a child of it. -/
structure Junction where
  hard : Bool
  name : List Char
deriving DecidableEq

/-- The text of a junction. -/
def Junction.written (j : Junction) : List Char :=
  if j.hard then '/' :: '/' :: j.name else '/' :: j.name

/-- A phrase, junctions and a password; an absent phrase has no characters. -/
structure SecretUri where
  phrase : List Char
  junctions : List Junction
  password : Option (List Char)
deriving DecidableEq

namespace SecretUri

/-- What a phrase may be made of. -/
def isPhraseChar (c : Char) : Bool :=
  c = ' ' || Text.isWordChar c

/-- The text of a secret URI. -/
def render (uri : SecretUri) : List Char :=
  uri.phrase ++ uri.junctions.flatMap Junction.written ++
    match uri.password with
    | none => []
    | some password => '/' :: '/' :: '/' :: password

/-- What the grammar asks of the parts. -/
structure Valid (uri : SecretUri) : Prop where
  phrase : ∀ c ∈ uri.phrase, isPhraseChar c
  names : ∀ j ∈ uri.junctions, j.name ≠ [] ∧ '/' ∉ j.name
  password : ∀ password ∈ uri.password, '\n' ∉ password

/-- Junctions and password out of what stands between the slashes after the phrase. An empty field
followed by a name makes a hard junction; two empty fields start the password. -/
def parsePath : List (List Char) → Option (List Junction × Option (List Char))
  | [] => some ([], none)
  | [] :: [] :: [] => none
  | [] :: [] :: field :: fields =>
    let password := Text.join '/' (field :: fields)
    if '\n' ∈ password then none else some ([], some password)
  | [] :: [] => none
  | [] :: name :: fields => do
    let (junctions, password) ← parsePath fields
    return (⟨true, name⟩ :: junctions, password)
  | name :: fields => do
    let (junctions, password) ← parsePath fields
    return (⟨false, name⟩ :: junctions, password)

/-- Reads a secret URI, if the text is one. -/
def parse (text : List Char) : Option SecretUri :=
  match Text.splitOn '/' text with
  | [] => none
  | phrase :: fields =>
    if phrase.all isPhraseChar then do
      let (junctions, password) ← parsePath fields
      return ⟨phrase, junctions, password⟩
    else none

end SecretUri
end Payout.Key
