import Keyring.Hex
import Keyring.Text.Blank
import Keyring.Text.Utf8
import Keyring.Text.Raw
import Keyring.Text.DecimalDigit
import Keyring.Text.Printable
import Keyring.Text.Quoted
import Keyring.Hash.Hmac
import Keyring.Curve.Doubling
import Keyring.Curve.PointEncoding
import Keyring.Ecdsa.Nonce
import Keyring.Ecdsa.Signature
import Keyring.Ecdsa.Signing
import Keyring.Disk
import Keyring.Disk.Tree
import Keyring.Key
import Keyring.Failure
import Keyring.Log
import Keyring.Host
import Keyring.Identity
import Keyring.KeyStore
import Keyring.EnvFile
import Keyring.EnvFile.Expansion
import Keyring.Settings
import Keyring.CommandLine.Arguments
import Keyring.CommandLine.Screen
import Keyring.CommandLine.Run
import Keyring.Session
import Keyring.Host.Tables
import Keyring.Main
import Keyring.Session.Lemmas
import Keyring.Bytes.Lemmas
import Keyring.Proofs.Doubling
import Keyring.Proofs.Residues
import Keyring.Proofs.Primes
import Keyring.Proofs.CurveGroup
import Keyring.Proofs.Jacobian
import Keyring.Proofs.GroupOrder
import Keyring.Proofs.HexText
import Keyring.Proofs.SignatureCheck
import Keyring.Proofs.Verification
import Keyring.Proofs.NonceStream
import Keyring.Proofs.Signing
import Keyring.Proofs.SignVerify
import Keyring.Proofs.RawText
import Keyring.Proofs.Loading
import Keyring.Proofs.PointForms
import Keyring.Proofs.Utf8
import Keyring.Proofs.KeyFile
import Keyring.Proofs.KeySecrecy
import Keyring.Proofs.RunSecrecy
import Keyring.Proofs.KeyText
import Keyring.Proofs.RunResult
import Keyring.Proofs.Configuration
import Keyring.Proofs.SettingsCache
import Keyring.Proofs.SignersAndStores
import Keyring.Proofs.PublicKeys
import Keyring.Proofs.SignatureTwin
import Keyring.Proofs.NamesAndHomes
import Keyring.Proofs.SignerStages
import Keyring.Proofs.PrivateKeys
import Keyring.Proofs.HashResidues
import Keyring.Proofs.KeyPaths
import Keyring.Proofs.FixedIdentity
import Keyring.Proofs.LeadingFlags
import Keyring.Proofs.Verbosity
import Keyring.Proofs.SettingsPrecedence
