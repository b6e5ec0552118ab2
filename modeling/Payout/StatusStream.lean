import Payout.Failure

/-!
# Status streams

The statuses of one extrinsic in the order in which they are reported, some of them failures to learn
more. They can be taken one by one, or waited on until the extrinsic gets as far as a target. A block that
was found to be finalized while waiting is remembered, and satisfies every later wait.
-/
namespace Payout

/-- What a stream yields: a status, or the failure to learn of one. -/
abbrev Item := Except Failure Status

structure StatusStream where
  txHash : TxHash
  finalized : Option TxInfo
  items : List Item

namespace StatusStream

/-- A stream of which nothing was taken. -/
def new (txHash : TxHash) (items : List Item) : StatusStream :=
  ⟨txHash, none, items⟩

def next (s : StatusStream) : Option Item × StatusStream :=
  match s.items with
  | [] => (none, s)
  | item :: rest => (some item, { s with items := rest })

def drain (s : StatusStream) : List Item × StatusStream :=
  (s.items, { s with items := [] })

/-- What an item means to someone who waits for a target: that the wait is over, with an answer, or that
it goes on. -/
def verdict (target : Target) : Item → Option (Except Failure TxInfo)
  | .error e => some (.error e)
  | .ok (.inBlock info) => if target = .inBlock then some (.ok info) else none
  | .ok (.finalized info) => some (.ok info)
  | .ok status => status.rejection.map fun e => .error (.submission e)

/-- The finalized block that an item tells of. -/
def finalizedBy : Item → Option TxInfo
  | .ok (.finalized info) => some info
  | _ => none

/-- How a wait ends: its answer, the items it took, those it left, and the finalized block it found. -/
structure Wait where
  answer : Except Failure TxInfo
  taken : List Item
  left : List Item
  found : Option TxInfo

/-- Takes items up to the first that ends the wait. -/
def await (target : Target) : List Item → Wait
  | [] => ⟨.error (.submission (.streamEnded target)), [], [], none⟩
  | item :: rest =>
    match verdict target item with
    | some answer => ⟨answer, [item], rest, finalizedBy item⟩
    | none =>
      let w := await target rest
      { w with taken := item :: w.taken }

/-- The wait for a target. A submitted transaction is in no block yet, so that its block hash is zero; a
finalized block that is remembered is the answer to every other wait. -/
def wait (s : StatusStream) (target : Target) : Wait :=
  match target with
  | .submitted => ⟨.ok ⟨Bytes32.zero, s.txHash⟩, [], s.items, none⟩
  | target =>
    match s.finalized with
    | some info => ⟨.ok info, [], s.items, none⟩
    | none => await target s.items

def waitFor (s : StatusStream) (target : Target) : Except Failure TxInfo × StatusStream :=
  let w := s.wait target
  (w.answer, { s with finalized := s.finalized <|> w.found, items := w.left })

/-- Nothing is lost: what a wait took and what it left are all there was. -/
theorem await_items (target : Target) (items : List Item) :
    (await target items).taken ++ (await target items).left = items := by
  induction items with
  | nil => rfl
  | cons item rest ih =>
    unfold await
    split
    · rfl
    · simpa using ih

theorem wait_items (s : StatusStream) (target : Target) :
    (s.wait target).taken ++ (s.wait target).left = s.items := by
  unfold wait
  split
  · rfl
  · split
    · rfl
    · exact await_items _ _

@[simp] theorem waitFor_txHash (s : StatusStream) (target : Target) :
    (s.waitFor target).2.txHash = s.txHash := rfl

end StatusStream

/-- What is logged as a warning. -/
inductive Warning where
  | retracted (block : BlockHash)
  | interrupted (block : BlockHash)
  | willRetry (address : String) (e : ClientError)
deriving DecidableEq

def Warning.message : Warning → String
  | retracted block => "the transaction was retracted from block " ++ block.hex
  | interrupted block => "the batch included in block " ++ block.hex ++ " was interrupted"
  | willRetry address e =>
    "can't connect to " ++ address ++ " because of " ++ e.name ++ ", will try again in 1s"

/-- The warning that goes with an item that a wait takes. -/
def Item.warning? : Item → Option Warning
  | .ok (.retracted block) => some (.retracted block)
  | .error (.submission (.batchInterrupted block)) => some (.interrupted block)
  | _ => none

end Payout
