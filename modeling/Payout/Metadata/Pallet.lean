import Payout.Metadata.DispatchError

/-!
# Pallets

A runtime is made of pallets. Each has a name and an index, and may have calls, storage entries, events
and errors. Looking something up by a name or an index that is not there fails with what was missing.
-/
namespace Payout.Metadata

/-- A storage entry: the types of its keys and of what is stored under them. -/
structure StorageEntry where
  name : String
  keys : List Scale.Ty
  value : Scale.Ty

structure Pallet where
  name : String
  index : UInt8
  calls : Option Scale.Cases := none
  storage : Option (List StorageEntry) := none
  events : Scale.Cases := .nil
  errors : List (Nat × String) := []

/-- What a runtime does not have. -/
inductive Missing where
  | pallet (name : String)
  | palletIndex (index : Nat)
  | call (name : String)
  | variantIndex (index : Nat)
  | storage (pallet : String)
  | entry (name : String)
  | sameCall
deriving DecidableEq

def Missing.message : Missing → String
  | pallet name => "Pallet with name " ++ name ++ " not found"
  | palletIndex index => "Pallet with index " ++ toString index ++ " not found"
  | call name => "Call with name " ++ name ++ " not found"
  | variantIndex index => "Variant with index " ++ toString index ++ " not found"
  | storage owner => "Storage details not found in pallet with name " ++ owner
  | entry name => "Storage entry " ++ name ++ " not found"
  | sameCall => "The generated code is not compatible with the node"

end Metadata

/-- The pallets of a runtime. -/
structure Metadata where
  pallets : List Metadata.Pallet

namespace Metadata

def pallet (m : Metadata) (name : String) : Except Missing Pallet :=
  match m.pallets.find? (·.name = name) with
  | some p => .ok p
  | none => .error (.pallet name)

def palletAt (m : Metadata) (index : UInt8) : Except Missing Pallet :=
  match m.pallets.find? (·.index = index) with
  | some p => .ok p
  | none => .error (.palletIndex index.toNat)

/-- The byte and the argument types of a call of a pallet. -/
def Pallet.call (p : Pallet) (name : String) : Except Missing (UInt8 × Scale.Types) :=
  match p.calls.bind (·.find? name) with
  | some c => .ok c
  | none => .error (.call name)

def Pallet.entry (p : Pallet) (name : String) : Except Missing StorageEntry :=
  match p.storage with
  | none => .error (.storage p.name)
  | some entries =>
    match entries.find? (·.name = name) with
    | some e => .ok e
    | none => .error (.entry name)

/-- The names of the pallet and of the error behind two indices. -/
def palletError (m : Metadata) (pallet error : Nat) : Option (String × String) := do
  let p ← m.pallets.find? (·.index.toNat = pallet)
  let name ← p.errors.lookup error
  return (p.name, name)

/-- The cases of the calls of pallets: each pallet that has calls is a case with one item. -/
def callCases : List Pallet → Scale.Cases
  | [] => .nil
  | p :: rest =>
    match p.calls with
    | some calls => .cons p.name p.index [] (.ofList [.enumeration calls]) (callCases rest)
    | none => callCases rest

/-- The type of the calls of a runtime. -/
def callTy (m : Metadata) : Scale.Ty :=
  .enumeration (callCases m.pallets)

end Metadata
end Payout
