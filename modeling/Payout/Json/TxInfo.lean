import Payout.Json.HexText
import Payout.Json.Number
import Payout.Json.Skip
import Payout.Status

/-!
# Transactions in JSON

A transaction is written as an object with the members `block_hash` and `tx_hash`. It is read from such an
object, whose members may stand in any order and among others, or from a list of the two hashes. A hash is a
hexadecimal string of 64 characters, not counting `0x` before them.
-/
namespace Payout.Json

/-- The complaint about a value that stands where another kind of value should. -/
def complaint (expected : String) (s : List Char) : Error :=
  let found : Except Error Found :=
    match s with
    | [] => .error .endInValue
    | '"' :: rest => (readString rest).map fun r => .string r.1
    | '[' :: _ => .ok .list
    | '{' :: _ => .ok .object
    | 'n' :: rest => (readWord ['u', 'l', 'l'] rest).map fun _ => .null
    | 't' :: rest => (readWord ['r', 'u', 'e'] rest).map fun _ => .bool true
    | 'f' :: rest => (readWord ['a', 'l', 's', 'e'] rest).map fun _ => .bool false
    | '-' :: rest => (readNumber true rest).map fun r => .number r.1
    | c :: rest =>
      if c.isDigit then (readNumber false (c :: rest)).map fun r => .number r.1
      else .error .expectedValue
  match found with
  | .ok found => .wrongType found expected
  | .error e => e

/-- What is said to be expected of a hash. -/
def hashExpected : String :=
  "a (both 0x-prefixed or not) hex string or byte array containing 32 bytes"

/-- The hash that a string holds. Where blanks take the place of digits, the last bytes are zero. -/
def hashOfText (text : List Char) : Except Error Bytes32 :=
  let (position, digits) := afterMark text
  let bytes := Bytes.ofString (String.ofList digits)
  if bytes.length = 64 then
    (hexDigits position bytes).map fun ds => Bytes32.fit (pairUp ds)
  else .error (.wrongLength bytes.length hashExpected)

/-- Reads a hash. -/
def readHash (s : List Char) : Read Bytes32 :=
  match skipBlanks s with
  | '"' :: rest =>
    match readString rest with
    | .ok (text, rest) => (hashOfText text).map fun h => (h, rest)
    | .error e => .error e
  | s => .error (complaint hashExpected s)

theorem readHash_length {s rest : List Char} {h : Bytes32} (hr : readHash s = .ok (h, rest)) :
    rest.length < s.length := by
  unfold readHash at hr
  have hs := length_skipBlanks_le s
  split at hr
  · rename_i heq
    rw [heq] at hs
    split at hr
    · rename_i text _ hstr
      have := readString_length hstr
      cases ht : hashOfText text with
      | error e => rw [ht] at hr; cases hr
      | ok v =>
        rw [ht] at hr
        cases hr
        simp only [List.length_cons] at hs
        omega
    · cases hr
  · cases hr

/-- The hashes that were read of a transaction. -/
structure Members where
  blockHash : Option Bytes32 := none
  txHash : Option Bytes32 := none

namespace Members

/-- The member that a key stands for. -/
inductive Member where
  | blockHash
  | txHash
deriving DecidableEq, Repr

def Member.name : Member → String
  | blockHash => "block_hash"
  | txHash => "tx_hash"

def Member.ofKey? (key : List Char) : Option Member :=
  if key = "block_hash".toList then some .blockHash
  else if key = "tx_hash".toList then some .txHash
  else none

def get? (p : Members) : Member → Option Bytes32
  | .blockHash => p.blockHash
  | .txHash => p.txHash

def set (p : Members) (m : Member) (h : Bytes32) : Members :=
  match m with
  | .blockHash => { p with blockHash := some h }
  | .txHash => { p with txHash := some h }

/-- The transaction, when both hashes were read. -/
def finish (p : Members) : Except Error TxInfo :=
  match p.blockHash, p.txHash with
  | some b, some t => .ok ⟨b, t⟩
  | none, _ => .error (.missingField Member.blockHash.name)
  | _, none => .error (.missingField Member.txHash.name)

end Members

/-- Reads the value of a member after its key, and the colon before it. -/
def readMember (p : Members) (key : List Char) (s : List Char) : Read Members :=
  match Members.Member.ofKey? key with
  | none => (readColon s).bind fun s => (skip s).map fun rest => (p, rest)
  | some m =>
    if (p.get? m).isSome then .error (.duplicateField m.name)
    else (readColon s).bind fun s => (readHash s).map fun r => (p.set m r.1, r.2)

theorem readMember_length {p q : Members} {key s rest : List Char}
    (h : readMember p key s = .ok (q, rest)) : rest.length ≤ s.length := by
  unfold readMember at h
  split at h
  · cases hc : readColon s with
    | error e => rw [hc] at h; cases h
    | ok t =>
      rw [hc] at h
      have hcolon := readColon_length hc
      cases hk : skip t with
      | error e => simp only [Except.bind, hk, Except.map] at h; cases h
      | ok u =>
        simp only [Except.bind, hk, Except.map] at h
        cases h
        exact Nat.le_trans (skipFrom_length hk) (Nat.le_of_lt hcolon)
  · split at h
    · cases h
    · cases hc : readColon s with
      | error e => rw [hc] at h; cases h
      | ok t =>
        rw [hc] at h
        have hcolon := readColon_length hc
        cases hr : readHash t with
        | error e => simp only [Except.bind, hr, Except.map] at h; cases h
        | ok r =>
          simp only [Except.bind, hr, Except.map] at h
          cases h
          exact Nat.le_of_lt (Nat.lt_trans (readHash_length hr) hcolon)

/-- Reads a key. -/
def readKey : List Char → Read (Option (List Char))
  | '"' :: rest => (readString rest).map fun r => (some r.1, r.2)
  | _ => .error .keyNotString

/-- Reads the next key of an object, or finds its end. All keys but the first follow a comma. -/
def nextKey (first : Bool) (s : List Char) : Read (Option (List Char)) :=
  match skipBlanks s with
  | [] => .error .endInObject
  | '}' :: rest => .ok (none, rest)
  | c :: rest =>
    if first then readKey (c :: rest)
    else if c = ',' then
      match skipBlanks rest with
      | [] => .error .endInValue
      | '}' :: _ => .error .trailingComma
      | s => readKey s
    else .error .expectedObjectEnd

theorem readKey_length {s rest : List Char} {key : Option (List Char)}
    (h : readKey s = .ok (key, rest)) : rest.length < s.length := by
  unfold readKey at h
  split at h
  · rename_i t
    cases hs : readString t with
    | error e => rw [hs] at h; cases h
    | ok r =>
      rw [hs] at h
      cases h
      exact Nat.lt_succ_of_lt (readString_length hs)
  · cases h

theorem nextKey_length {first : Bool} {s rest : List Char} {key : Option (List Char)}
    (h : nextKey first s = .ok (key, rest)) : rest.length < s.length := by
  unfold nextKey at h
  have hs := length_skipBlanks_le s
  split at h
  · cases h
  · rename_i heq
    cases h
    rw [heq] at hs
    exact hs
  · rename_i t _ heq
    rw [heq] at hs
    split at h
    · exact Nat.lt_of_lt_of_le (readKey_length h) hs
    · split at h
      · have ht := length_skipBlanks_le t
        split at h
        · cases h
        · cases h
        · have := readKey_length h
          simp only [List.length_cons] at hs
          omega
      · cases h

/-- Reads the members of an object up to its end. -/
def readMembers (p : Members) (first : Bool) (s : List Char) : Read TxInfo :=
  match _h : nextKey first s with
  | .error e => .error e
  | .ok (none, rest) => p.finish.map fun info => (info, rest)
  | .ok (some key, rest) =>
    match _h' : readMember p key rest with
    | .error e => .error e
    | .ok (p, more) => readMembers p false more
termination_by s.length
decreasing_by exact Nat.lt_of_le_of_lt (readMember_length ‹_›) (nextKey_length ‹_›)

/-- The complaint about a list of another length. -/
def wrongCount (count : Nat) : Error :=
  .wrongLength count "struct TxInfo with 2 elements"

/-- Reads the first element of a list. -/
def readFirst (s : List Char) : Read Bytes32 :=
  match skipBlanks s with
  | [] => .error .endInList
  | ']' :: _ => .error (wrongCount 0)
  | s => readHash s

/-- Reads the second element of a list. -/
def readSecond (s : List Char) : Read Bytes32 :=
  match skipBlanks s with
  | [] => .error .endInList
  | ']' :: _ => .error (wrongCount 1)
  | ',' :: rest =>
    match skipBlanks rest with
    | [] => .error .endInValue
    | ']' :: _ => .error .trailingComma
    | s => readHash s
  | _ => .error .expectedListEnd

/-- Steps over the end of a list that has all its elements. -/
def readListEnd (s : List Char) : Except Error (List Char) :=
  match skipBlanks s with
  | [] => .error .endInList
  | ']' :: rest => .ok rest
  | ',' :: rest =>
    match skipBlanks rest with
    | ']' :: _ => .error .trailingComma
    | _ => .error .trailingCharacters
  | _ => .error .trailingCharacters

/-- Reads the two hashes of a list, and its end. -/
def readPair (s : List Char) : Except Error (TxInfo × List Char) := do
  let (block, s) ← readFirst s
  let (tx, s) ← readSecond s
  let rest ← readListEnd s
  return (⟨block, tx⟩, rest)

/-- Reads a transaction. -/
def readTxInfo (s : List Char) : Except Error (TxInfo × List Char) :=
  match skipBlanks s with
  | '{' :: rest => readMembers {} true rest
  | '[' :: rest => readPair rest
  | s => .error (complaint "struct TxInfo" s)

end Payout.Json

namespace Payout.TxInfo

/-- The transaction that a JSON text holds, and nothing after it. -/
def ofJson (text : String) : Except Json.Error TxInfo := do
  let (info, rest) ← Json.readTxInfo text.toList
  if (Json.skipBlanks rest).isEmpty then return info else throw .trailingCharacters

/-- The text of a transaction, without blanks. -/
def toJson (info : TxInfo) : String :=
  "\x7b\"block_hash\":\"" ++ info.blockHash.hex ++ "\",\"tx_hash\":\"" ++ info.txHash.hex ++ "\"\x7d"

end Payout.TxInfo
