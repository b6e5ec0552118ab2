import Payout.Account
import Payout.Address.Base58
import Payout.Address.Ss58
import Payout.Batch
import Payout.Bytes
import Payout.Connection
import Payout.Crypto.Blake2b
import Payout.Crypto.Keccak
import Payout.Crypto.Ristretto
import Payout.Crypto.Schnorr
import Payout.Crypto.Sha256
import Payout.Crypto.Sha512
import Payout.Crypto.Transcript
import Payout.Decimal.Shortest
import Payout.Extrinsic
import Payout.Failure
import Payout.Hex
import Payout.Inclusion
import Payout.Json.Error
import Payout.Json.HexText
import Payout.Json.Number
import Payout.Json.Skip
import Payout.Json.Token
import Payout.Json.TxInfo
import Payout.Key.English
import Payout.Key.KeyPair
import Payout.Key.Mnemonic
import Payout.Key.SecretUri
import Payout.Main
import Payout.Metadata.DispatchError
import Payout.Metadata.Event
import Payout.Metadata.Pallet
import Payout.Metadata.Profile
import Payout.Node
import Payout.Numeral
import Payout.Options.Arguments
import Payout.Options.Config
import Payout.Options.Help
import Payout.Options.Setting
import Payout.Proofs.Account
import Payout.Proofs.Address.Base58
import Payout.Proofs.Address.Ss58
import Payout.Proofs.Balance
import Payout.Proofs.BlockContents
import Payout.Proofs.Bytes
import Payout.Proofs.CallData
import Payout.Proofs.CallValue
import Payout.Proofs.Confirmation
import Payout.Proofs.Connection
import Payout.Proofs.DefaultConnection
import Payout.Proofs.Encodable
import Payout.Proofs.Inclusion
import Payout.Proofs.Json.Hash
import Payout.Proofs.Json.HexText
import Payout.Proofs.Json.Token
import Payout.Proofs.Json.TxInfo
import Payout.Proofs.Json.Value
import Payout.Proofs.Key.SecretUri
import Payout.Proofs.Metadata.Calls
import Payout.Proofs.Numeral
import Payout.Proofs.Options.CommandLine
import Payout.Proofs.Options.Value
import Payout.Proofs.Outcome
import Payout.Proofs.Scale.Compact
import Payout.Proofs.Scale.Plain
import Payout.Proofs.Scale.Typing
import Payout.Proofs.Sender
import Payout.Proofs.StatusStream.Decision
import Payout.Proofs.StatusStream.History
import Payout.Proofs.StatusStream.Progress
import Payout.Proofs.StatusStream.Repetition
import Payout.Proofs.StatusStream.Waiting
import Payout.Proofs.Submission
import Payout.Proofs.Watching
import Payout.Query
import Payout.Scale.Compact
import Payout.Scale.Ty
import Payout.Scale.Value
import Payout.Sender
import Payout.Status
import Payout.StatusStream
import Payout.Submission
import Payout.Text.Fields
import Payout.Text.Hidden
import Payout.Text.PlainLetter
import Payout.Text.Quoted
import Payout.Text.WordChar
import Payout.Transfer
