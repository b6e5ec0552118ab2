import Payout.Scale.Value

/-!
# Transfers

One transfer of an amount to an account, made with some call of the balances pallet. As a runtime call it
is a variant of that pallet with two items: the receiver's address and the amount.
-/
namespace Payout

structure Transfer where
  dest : AccountId
  value : Balance
  call : String
deriving DecidableEq

namespace Transfer

/-- The call used unless another is asked for. It may take the sender below the existential deposit. -/
def defaultCall : String := "transfer_allow_death"

def new (dest : AccountId) (value : Balance) : Transfer :=
  ⟨dest, value, defaultCall⟩

/-- An account as the address of a receiver. -/
def destValue (dest : AccountId) : Scale.Value :=
  .call "Id" [.bytes dest.toList]

def arguments (t : Transfer) : List Scale.Value :=
  [destValue t.dest, .unsigned t.value]

/-- The transfer as a call that other calls can wrap. -/
def callValue (t : Transfer) : Scale.Value :=
  .call "Balances" [.call t.call t.arguments]

end Transfer
end Payout
