import Payout.StatusStream

/-!
# Connecting

An address without a protocol gets one, and a failed attempt to connect is followed by another, a second
later, as long as there are retries left. What an attempt leads to is given as a sequence of outcomes; what
was done is kept as a list of steps.
-/
namespace Payout

namespace Address

/-- The address starts with a protocol of web sockets. -/
def hasProtocol (address : String) : Bool :=
  "ws://".toList.isPrefixOf address.toList || "wss://".toList.isPrefixOf address.toList

/-- The address with a protocol before it, if it has none. -/
def withProtocol (address : String) : String :=
  if hasProtocol address then address else "ws://" ++ address

theorem hasProtocol_withProtocol (address : String) : hasProtocol (withProtocol address) = true := by
  unfold withProtocol
  split
  · assumption
  · have h : ("ws://" ++ address).toList = 'w' :: 's' :: ':' :: '/' :: '/' :: address.toList := by
      rw [String.toList_append]; rfl
    have hw : "ws://".toList = ['w', 's', ':', '/', '/'] := rfl
    simp [hasProtocol, h, hw]

/-- A protocol is added at most once. -/
@[simp] theorem withProtocol_withProtocol (address : String) :
    withProtocol (withProtocol address) = withProtocol address := by
  rw [withProtocol, if_pos (hasProtocol_withProtocol address)]

end Address

inductive Step where
  | attempt (address : String)
  | warning (w : Warning)
  | pause (seconds : Nat)
deriving DecidableEq

/-- The seconds that a step takes. -/
def Step.seconds : Step → Nat
  | pause n => n
  | _ => 0

/-- The steps that were taken, and what they led to. -/
structure Connecting (α : Type) where
  steps : List Step
  result : Except Failure α

namespace Connecting

def after {α : Type} (earlier : List Step) (c : Connecting α) : Connecting α :=
  { c with steps := earlier ++ c.steps }

/-- The same steps to another result. -/
def map {α β : Type} (f : α → β) (c : Connecting α) : Connecting β :=
  ⟨c.steps, c.result.map f⟩

def attempts {α : Type} (c : Connecting α) : List String :=
  c.steps.filterMap fun
    | .attempt address => some address
    | _ => none

/-- The seconds between attempts, taken together. -/
def seconds {α : Type} (c : Connecting α) : Nat :=
  c.steps.foldl (fun n s => n + s.seconds) 0

def warnings {α : Type} (c : Connecting α) : List Warning :=
  c.steps.filterMap fun
    | .warning w => some w
    | _ => none

/-- The result, or the text with which a caller who insists on one gives up. -/
def insist {α : Type} (c : Connecting α) : Except String α :=
  c.result.mapError fun e => "Connection should be created: " ++ e.message

end Connecting

namespace Connection

/-- The seconds between two attempts. -/
def retryWait : Nat := 1

/-- The retries of a caller who does not say how many. -/
def defaultRetries : Nat := 10

/-- Attempts from a given number on, with so many retries left. -/
def attemptFrom {α : Type} (address : String) (outcome : Nat → Except ClientError α) :
    (retries : Nat) → (number : Nat) → Connecting α
  | 0, number => ⟨[.attempt address], (outcome number).mapError (.connect address)⟩
  | retries + 1, number =>
    match outcome number with
    | .ok client => ⟨[.attempt address], .ok client⟩
    | .error e =>
      (attemptFrom address outcome retries (number + 1)).after
        [.attempt address, .warning (.willRetry address e), .pause retryWait]

def connect {α : Type} (address : String) (retries : Nat) (outcome : Nat → Except ClientError α) :
    Connecting α :=
  attemptFrom (Address.withProtocol address) outcome retries 0

def connectDefault {α : Type} (address : String) (outcome : Nat → Except ClientError α) :
    Connecting α :=
  connect address defaultRetries outcome

/-- A connection that signs is a connection and a signer. -/
def connectSigned {α σ : Type} (address : String) (signer : σ) (outcome : Nat → Except ClientError α) :
    Connecting (α × σ) :=
  (connectDefault address outcome).map (·, signer)

end Connection
end Payout
