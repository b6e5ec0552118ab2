import Payout.Scale.Ty

/-!
# Dispatch errors

Why the runtime did not carry out a call. An error of a pallet is told by the index of the pallet and
the index of the error in it; what these stand for is the runtime's to say.
-/
namespace Payout.Metadata

inductive TokenError where
  | fundsUnavailable
  | onlyProvider
  | belowMinimum
  | cannotCreate
  | unknownAsset
  | frozen
  | unsupported
  | cannotCreateHold
  | notExpendable
deriving DecidableEq, Repr

inductive ArithmeticError where
  | underflow
  | overflow
  | divisionByZero
deriving DecidableEq, Repr

inductive TransactionalError where
  | limitReached
  | noLayer
deriving DecidableEq, Repr

inductive DispatchError where
  | other
  | cannotLookup
  | badOrigin
  | module (pallet error : Nat)
  | consumerRemaining
  | noProviders
  | tooManyConsumers
  | token (e : TokenError)
  | arithmetic (e : ArithmeticError)
  | transactional (e : TransactionalError)
  | exhausted
  | corruption
  | unavailable
deriving DecidableEq, Repr

namespace TokenError

/-- The errors in the order of their indices. -/
def all : List TokenError :=
  [fundsUnavailable, onlyProvider, belowMinimum, cannotCreate, unknownAsset, frozen, unsupported,
    cannotCreateHold, notExpendable]

def name : TokenError → String
  | fundsUnavailable => "FundsUnavailable"
  | onlyProvider => "OnlyProvider"
  | belowMinimum => "BelowMinimum"
  | cannotCreate => "CannotCreate"
  | unknownAsset => "UnknownAsset"
  | frozen => "Frozen"
  | unsupported => "Unsupported"
  | cannotCreateHold => "CannotCreateHold"
  | notExpendable => "NotExpendable"

def message : TokenError → String
  | fundsUnavailable => "Funds are unavailable."
  | onlyProvider =>
    "Some part of the balance gives the only provider reference to the account and thus cannot " ++
      "be (re)moved."
  | belowMinimum => "Account cannot exist with the funds that would be given."
  | cannotCreate => "Account cannot be created."
  | unknownAsset => "The asset in question is unknown."
  | frozen => "Funds exist but are frozen."
  | unsupported => "Operation is not supported by the asset."
  | cannotCreateHold => "Account cannot be created for a held balance."
  | notExpendable => "Withdrawal would cause unwanted loss of account."

end TokenError

namespace ArithmeticError

/-- The errors in the order of their indices. -/
def all : List ArithmeticError :=
  [underflow, overflow, divisionByZero]

def name : ArithmeticError → String
  | underflow => "Underflow"
  | overflow => "Overflow"
  | divisionByZero => "DivisionByZero"

def message : ArithmeticError → String
  | underflow => "Underflow."
  | overflow => "Overflow."
  | divisionByZero => "Division by zero."

end ArithmeticError

namespace TransactionalError

/-- The errors in the order of their indices. -/
def all : List TransactionalError :=
  [limitReached, noLayer]

def name : TransactionalError → String
  | limitReached => "LimitReached"
  | noLayer => "NoLayer"

def message : TransactionalError → String
  | limitReached => "Too many transactional layers have been spawned."
  | noLayer => "A transactional layer was expected, but does not exist."

end TransactionalError

namespace DispatchError

/-- The errors that carry nothing. -/
def plain : List DispatchError :=
  [other, cannotLookup, badOrigin, consumerRemaining, noProviders, tooManyConsumers, exhausted,
    corruption, unavailable]

/-- The name of the kind of error. -/
def name : DispatchError → String
  | other => "Other"
  | cannotLookup => "CannotLookup"
  | badOrigin => "BadOrigin"
  | module _ _ => "Module"
  | consumerRemaining => "ConsumerRemaining"
  | noProviders => "NoProviders"
  | tooManyConsumers => "TooManyConsumers"
  | token _ => "Token"
  | arithmetic _ => "Arithmetic"
  | transactional _ => "Transactional"
  | exhausted => "Exhausted"
  | corruption => "Corruption"
  | unavailable => "Unavailable"

/-- An enumeration of names that carry nothing, numbered from zero. -/
def namesTy (names : List String) : Scale.Ty :=
  .enumeration (.ofList (names.zipIdx.map fun n => ⟨n.1, n.2.toUInt8, []⟩))

/-- The type of a dispatch error. The error of a pallet has four bytes, of which the first counts. -/
def ty : Scale.Ty :=
  .enumeration (.ofList
    [⟨"Other", 0, []⟩, ⟨"CannotLookup", 1, []⟩, ⟨"BadOrigin", 2, []⟩,
      ⟨"Module", 3, [.unsigned 1, .array 4 (.unsigned 1)]⟩, ⟨"ConsumerRemaining", 4, []⟩,
      ⟨"NoProviders", 5, []⟩, ⟨"TooManyConsumers", 6, []⟩,
      ⟨"Token", 7, [namesTy (TokenError.all.map TokenError.name)]⟩,
      ⟨"Arithmetic", 8, [namesTy (ArithmeticError.all.map ArithmeticError.name)]⟩,
      ⟨"Transactional", 9, [namesTy (TransactionalError.all.map TransactionalError.name)]⟩,
      ⟨"Exhausted", 10, []⟩, ⟨"Corruption", 11, []⟩, ⟨"Unavailable", 12, []⟩])

/-- Reads a dispatch error out of a value of its type. -/
def ofValue? : Scale.Value → Option DispatchError
  | .variant "Module" _ [.unsigned pallet, .composite _ (.unsigned error :: _)] =>
    some (module pallet.toNat error.toNat)
  | .variant "Token" _ [.variant n _ _] =>
    (TokenError.all.find? (·.name = n)).map token
  | .variant "Arithmetic" _ [.variant n _ _] =>
    (ArithmeticError.all.find? (·.name = n)).map arithmetic
  | .variant "Transactional" _ [.variant n _ _] =>
    (TransactionalError.all.find? (·.name = n)).map transactional
  | .variant n _ [] => plain.find? (·.name = n)
  | _ => none

/-- The text of an error, given the names of the errors of pallets. -/
def message (palletError : (pallet error : Nat) → Option (String × String)) :
    DispatchError → String
  | other => "Some unknown error occurred."
  | cannotLookup => "Failed to lookup some data."
  | badOrigin => "Bad origin."
  | module pallet error =>
    match palletError pallet error with
    | some names => "Pallet error: Pallet error " ++ names.1 ++ "::" ++ names.2
    | none =>
      "Pallet error: Unknown pallet error (pallet and error details cannot be retrieved)"
  | consumerRemaining =>
    "At least one consumer is remaining so the account cannot be destroyed."
  | noProviders => "There are no providers so the account cannot be created."
  | tooManyConsumers => "There are too many consumers so the account cannot be created."
  | token e => "Token error: " ++ e.message
  | arithmetic e => "Arithmetic error: " ++ e.message
  | transactional e => "Transactional error: " ++ e.message
  | exhausted => "Resources exhausted, e.g. attempt to read/write data which is too large to manipulate."
  | corruption => "The state is corrupt; this is generally not going to fix itself."
  | unavailable =>
    "Some resource (e.g. a preimage) is unavailable right now. This might fix itself later."

end DispatchError
end Payout.Metadata
