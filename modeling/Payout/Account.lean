import Payout.Address.Ss58
import Payout.Key.KeyPair

/-!
# Accounts in text

An account is given by its address, or by the seed of its key.
-/
namespace Payout

/-- The account of an address, or of a seed when the text is no address. -/
def accountOfText (text : String) : Except Key.SeedError AccountId :=
  match Address.Ss58.decode text.toList with
  | some account => .ok account
  | none => (Key.KeyPair.ofSeed text).map Key.KeyPair.account

end Payout
