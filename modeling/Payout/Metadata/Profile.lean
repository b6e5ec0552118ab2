import Payout.Metadata.Pallet

/-!
# Profiles of runtimes

Three runtimes: the standard one, an older one with other indices and numbers that are not compact,
and one without a utility pallet. The calls of the utility pallet take a sequence of calls of the same
runtime; they are unrolled to a fixed depth, so that every type is a finite tree.
-/
namespace Payout.Metadata

inductive Profile where
  | standard
  | legacy
  | bare
deriving DecidableEq, Repr

/-- What is stored about an account. All but the first differ from what `free_balance` looks for, or
hold it in another type. -/
inductive AccountShape where
  | standard
  | noFree
  | u64
  | compact
  | signed
  | bool
  | string
  | wrapped
  | option
  | tuple
  | noData
  | enum
deriving DecidableEq, Repr

section
open Scale

def accountTy : Ty := .array 32 (.unsigned 1)

/-- The address of a receiver. -/
def addressTy : Ty :=
  .enumeration (.ofList
    [⟨"Id", 0, [accountTy]⟩, ⟨"Index", 1, [.unit]⟩, ⟨"Raw", 2, [.bytes]⟩,
      ⟨"Address32", 3, [.array 32 (.unsigned 1)]⟩, ⟨"Address20", 4, [.array 20 (.unsigned 1)]⟩])

/-- The address of a receiver in the older runtime. -/
def legacyAddressTy : Ty :=
  .enumeration (.ofList [⟨"Index", 1, [.unsigned 4]⟩, ⟨"Id", 255, [accountTy]⟩])

def balanceTy : Ty := .unsigned 16

def systemCalls : Cases :=
  .ofList [⟨"remark", 0, [.bytes]⟩]

def balancesCalls : Cases :=
  .ofList
    [⟨"transfer_allow_death", 0, [addressTy, .compact 16]⟩,
      ⟨"force_transfer", 2, [addressTy, addressTy, .compact 16]⟩,
      ⟨"transfer_keep_alive", 3, [addressTy, .compact 16]⟩,
      ⟨"transfer_all", 4, [addressTy, .bool]⟩,
      ⟨"transfer_u64", 6, [addressTy, .unsigned 8]⟩,
      ⟨"transfer_raw", 7, [accountTy, balanceTy]⟩,
      ⟨"transfer_u8", 9, [addressTy, .compact 1]⟩,
      ⟨"transfer_note", 200, [addressTy, .bytes]⟩,
      ⟨"upgrade_accounts", 201, []⟩]

def legacyBalancesCalls : Cases :=
  .ofList
    [⟨"transfer", 0, [legacyAddressTy, balanceTy]⟩,
      ⟨"transfer_keep_alive", 3, [legacyAddressTy, balanceTy]⟩]

/-- The calls that wrap calls of type `inner`. -/
def utilityCalls (inner : Ty) : Cases :=
  .ofList
    [⟨"batch", 0, [.sequence inner]⟩, ⟨"batch_all", 2, [.sequence inner]⟩,
      ⟨"force_batch", 4, [.sequence inner]⟩]

def legacyUtilityCalls (inner : Ty) : Cases :=
  .ofList [⟨"batch", 0, [.sequence inner]⟩, ⟨"batch_all", 1, [.sequence inner]⟩]

/-- What is stored under `data` of an account, for the shapes that have it there. -/
def accountDataTy : AccountShape → Ty
  | .noFree => .record [("reserved", balanceTy), ("frozen", balanceTy)]
  | .u64 => .record [("free", .unsigned 8)]
  | .compact => .record [("free", .compact 16)]
  | .signed => .record [("free", .signed 16)]
  | .bool => .record [("free", .bool)]
  | .string => .record [("free", .text)]
  | .wrapped => .record [("free", .tuple [balanceTy])]
  | .option => .record [("free", .option balanceTy)]
  | .tuple => .tuple [balanceTy, balanceTy]
  | _ =>
    .record [("free", balanceTy), ("reserved", balanceTy), ("frozen", balanceTy),
      ("flags", balanceTy)]

/-- What is stored about an account. -/
def accountInfoTy : AccountShape → Ty
  | .noData => .record [("nonce", .unsigned 4), ("free", balanceTy)]
  | .enum =>
    .enumeration (.cons "Empty" 0 [] .nil
      (.cons "Live" 1 ["nonce", "data"] (.ofList [.unsigned 4, accountDataTy .standard]) .nil))
  | shape => .record [("nonce", .unsigned 4), ("data", accountDataTy shape)]

def systemStorage (shape : AccountShape) : List StorageEntry :=
  [⟨"Account", [accountTy], accountInfoTy shape⟩, ⟨"Number", [], .unsigned 4⟩]

def demoStorage : List StorageEntry :=
  [⟨"Flags", [], .sequence .bool⟩,
    ⟨"Name", [], .text⟩,
    ⟨"Delta", [], .signed 8⟩,
    ⟨"Choice", [], .enumeration
      (.cons "Nothing" 0 [] .nil
        (.cons "Number" 1 [] (.ofList [.unsigned 8])
          (.cons "Named" 2 ["left", "right"] (.ofList [.signed 4, .option .text]) .nil)))⟩,
    ⟨"Unit", [], .unit⟩,
    ⟨"Blob", [.unsigned 4], .bytes⟩,
    ⟨"Pair", [.unsigned 4, .text], .tuple [.unsigned 2, .bool]⟩]

def systemEvents : Cases :=
  .ofList
    [⟨"ExtrinsicSuccess", 0, []⟩, ⟨"ExtrinsicFailed", 1, [DispatchError.ty]⟩,
      ⟨"Remarked", 5, [accountTy]⟩]

def utilityEvents : Cases :=
  .ofList
    [⟨"BatchInterrupted", 0, [.unsigned 4, DispatchError.ty]⟩, ⟨"BatchCompleted", 1, []⟩,
      ⟨"BatchCompletedWithErrors", 2, []⟩, ⟨"ItemCompleted", 3, []⟩,
      ⟨"ItemFailed", 4, [DispatchError.ty]⟩]

def balancesEvents : Cases :=
  .ofList
    [⟨"Transfer", 2, [accountTy, accountTy, balanceTy]⟩,
      ⟨"ExtrinsicFailed", 3, [DispatchError.ty]⟩,
      ⟨"BatchInterrupted", 4, [.unsigned 4, DispatchError.ty]⟩]

end

def systemErrors : List (Nat × String) := [(1, "CallFiltered")]

def balancesErrors : List (Nat × String) :=
  [(0, "VestingBalance"), (2, "InsufficientBalance"), (3, "ExistentialDeposit")]

def utilityErrors : List (Nat × String) := [(0, "TooManyCalls")]

def systemPallet (calls : Option Scale.Cases) (shape : AccountShape) : Pallet :=
  ⟨"System", 0, calls, some (systemStorage shape), systemEvents, systemErrors⟩

def balancesPallet (index : UInt8) (calls : Scale.Cases) : Pallet :=
  ⟨"Balances", index, some calls, none, balancesEvents, balancesErrors⟩

def demoPallet : Pallet :=
  ⟨"Demo", 99, none, some demoStorage, .nil, []⟩

def utilityPallet (index : UInt8) (calls : Scale.Cases) : Pallet :=
  ⟨"Utility", index, some calls, none, utilityEvents, utilityErrors⟩

namespace Profile

/-- The runtime of a profile, given the type of the calls that its utility calls wrap. -/
def wrapping (profile : Profile) (shape : AccountShape) (inner : Scale.Ty) : Metadata :=
  match profile with
  | standard =>
    ⟨[systemPallet (some systemCalls) shape, balancesPallet 5 balancesCalls, demoPallet,
      utilityPallet 26 (utilityCalls inner)]⟩
  | legacy =>
    ⟨[systemPallet none shape, balancesPallet 4 legacyBalancesCalls, demoPallet,
      utilityPallet 40 (legacyUtilityCalls inner)]⟩
  | bare =>
    ⟨[systemPallet (some systemCalls) shape, balancesPallet 5 balancesCalls, demoPallet]⟩

/-- The type of calls that wrap one another at most `depth` deep. -/
def callTy (profile : Profile) : (depth : Nat) → Scale.Ty
  | 0 => .enumeration .nil
  | depth + 1 => (profile.wrapping .standard (profile.callTy depth)).callTy

/-- How deep the calls that a utility call wraps may be nested. -/
def nesting : Nat := 3

def runtime (profile : Profile) (shape : AccountShape := .standard) : Metadata :=
  profile.wrapping shape (profile.callTy nesting)

end Profile
end Payout.Metadata
