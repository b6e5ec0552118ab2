import Payout.Crypto.Keccak

/-!
# Transcripts

A transcript is a running hash of labelled messages from which labelled challenges are drawn, so that
every challenge depends on all that was said before it. It runs over a duplex state of 200 bytes, of
which 166 take part in each round of input and output.
-/
namespace Payout.Crypto

/-- The duplex state: its bytes, the place where the next byte goes, the place after which the
operation under way began, and the kind of that operation. -/
structure Transcript where
  state : Vector UInt8 200
  place : Nat
  began : Nat
  flags : UInt8

namespace Transcript

/-- The number of bytes of the state that take part in input and output. -/
def rate : Nat := 166

def flagInput : UInt8 := 1
def flagData : UInt8 := 2
def flagCipher : UInt8 := 4
def flagMeta : UInt8 := 16
def flagKey : UInt8 := 32

/-- Adds a byte to the state at a place. -/
def addAt (state : Vector UInt8 200) (place : Nat) (b : UInt8) : Vector UInt8 200 :=
  state.setIfInBounds place (state.getD place 0 ^^^ b)

/-- Marks where the operation began and where the input ended, and permutes the state. -/
def turn (t : Transcript) : Transcript :=
  let state := addAt t.state t.place t.began.toUInt8
  let state := addAt state (t.place + 1) 0x04
  let state := addAt state (rate + 1) 0x80
  { t with state := Keccak.permuteBytes state, place := 0, began := 0 }

/-- Steps over a byte that has been taken care of. -/
def advance (t : Transcript) : Transcript :=
  if t.place + 1 = rate then turn { t with place := t.place + 1 } else { t with place := t.place + 1 }

/-- Adds bytes to the state, one place after another. -/
def absorb : Transcript → Bytes → Transcript
  | t, [] => t
  | t, b :: rest => absorb { t with state := addAt t.state t.place b }.advance rest

/-- Takes bytes out of the state, leaving zeros. -/
def squeeze : (count : Nat) → Transcript → Bytes × Transcript
  | 0, t => ([], t)
  | count + 1, t =>
    let b := t.state.getD t.place 0
    let r := squeeze count { t with state := t.state.setIfInBounds t.place 0 }.advance
    (b :: r.1, r.2)

/-- Starts an operation. One that draws output starts on a fresh permutation. -/
def start (t : Transcript) (flags : UInt8) : Transcript :=
  let before := t.began
  let t := absorb { t with began := t.place + 1, flags := flags } [before.toUInt8, flags]
  if flags &&& (flagCipher ||| flagKey) ≠ 0 ∧ t.place ≠ 0 then t.turn else t

/-- A label and the length of what it labels. -/
def label (t : Transcript) (name : String) (length : Nat) : Transcript :=
  ((t.start (flagMeta ||| flagData)).absorb (Bytes.ofString name)).absorb (Bytes.ofNat 4 length)

/-- Says a message under a label. -/
def say (t : Transcript) (name : String) (message : Bytes) : Transcript :=
  ((t.label name message.length).start flagData).absorb message

/-- Draws a challenge under a label. -/
def challenge (t : Transcript) (name : String) (size : Nat) : Bytes × Transcript :=
  ((t.label name size).start (flagInput ||| flagData ||| flagCipher)).squeeze size

/-- The state before anything is said. -/
def blank : Transcript :=
  let first : Bytes := [1, rate.toUInt8 + 2, 1, 0, 1, 96] ++ Bytes.ofString "STROBEv1.0.2"
  let state : Vector UInt8 200 := Vector.ofFn fun i : Fin 200 => first.getD i.val 0
  ⟨Keccak.permuteBytes state, 0, 0, 0⟩

/-- A transcript of a named protocol. -/
def new (protocol : String) : Transcript :=
  let t := (blank.start (flagMeta ||| flagData)).absorb (Bytes.ofString "Merlin v1.0")
  t.say "dom-sep" (Bytes.ofString protocol)

end Transcript
end Payout.Crypto
