import Keyring.Disk
import Keyring.Key
import Keyring.Text.Utf8

/-!
Everything that can go wrong, by cause, and its wording.

Two families are told apart. A *signing failure* (`Failure.isSigning`) says that key
material cannot be read or a key cannot be loaded, and a program reports it. The others
pass through whoever asked.
-/

namespace Keyring

/-! ## Loading a key -/

inductive LineFault where
  | encoding (fault : Utf8.Fault)
  | key (fault : KeyFault)
  deriving DecidableEq, Repr

namespace LineFault

def message : LineFault → String
  | encoding fault => fault.message
  | key fault => fault.message

end LineFault

/-- Why a signing key is not loaded. -/
inductive LoadFault where
  /-- No name was given and none could be found. -/
  | noName
  /-- There is no home directory in which to look. -/
  | noHome
  | notFound (path : Path)
  /-- The first line holds nothing. -/
  | blank (path : Path)
  | unreadable (path : Path) (cause : ReadFault)
  | unparsable (path : Path) (cause : LineFault)
  deriving DecidableEq, Repr

namespace LoadFault

/-- What the fault calls itself in the log. -/
def name : LoadFault → String
  | noName => "IdentityUnresolvedError"
  | noHome => "HomeDirectoryUnresolvedError"
  | notFound _ => "KeyFileNotFoundError"
  | blank _ => "EmptyKeyFileError"
  | unreadable _ _ => "KeyFileReadError"
  | unparsable _ _ => "KeyParseError"

def message : LoadFault → RawText
  | noName => "Could not load signing key: unable to determine username"
  | noHome => "Could not load signing key: unable to determine home directory"
  | notFound path => "No such key file: " ++ path.text
  | blank path => "Empty key file: " ++ path.text
  | unreadable path cause => "Unable to read key file " ++ path.text ++ ": " ++ cause.message path
  | unparsable path cause =>
    "Unable to parse private key file " ++ path.text ++ ": " ++ cause.message

def path? : LoadFault → Option Path
  | noName | noHome => none
  | notFound path | blank path | unreadable path _ | unparsable path _ => some path

end LoadFault

/-! ## Reading settings -/

inductive SettingsFault where
  /-- The settings file cannot be looked up or cannot be read. -/
  | unreadable (path : Path) (cause : ReadFault)
  | encoding (fault : Utf8.Fault)
  /-- A text that stands for neither truth value was given for the debug flag. -/
  | flag (text : String)
  deriving DecidableEq, Repr

/-! ## All failures -/

/-- Why an operation has no result. -/
inductive Failure where
  | key (fault : KeyFault)
  | load (fault : LoadFault)
  | settings (fault : SettingsFault)
  /-- The system refuses to say whether something is at a path. -/
  | refused (path : Path) (fault : ReadFault)
  /-- A text has no bytes where bytes are asked for. -/
  | unencodable (fault : EncodeFault)
  /-- A path with a null character cannot be opened. -/
  | nullCharacter
  | foreignPrivate (algorithm : String)
  | foreignPublic (algorithm : String)
  /-- The point to compare a signature with is the neutral element. -/
  | degenerate
  /-- No nonce makes a signature, and the search for one does not end. -/
  | noNonce
  deriving DecidableEq, Repr

namespace Failure

/-- Whether a failure is about a key that cannot be read or loaded. -/
def isSigning : Failure → Bool
  | key _ | load _ => true
  | _ => false

/-- What a truth value that cannot be read is told. -/
def flagMessage : String := "Input should be a valid boolean, unable to interpret input"

/-- What a failure calls itself in the log. -/
def name : Failure → String
  | key _ => "ParseError"
  | load fault => fault.name
  | settings (.unreadable _ cause) => cause.name
  | settings (.encoding _) => "UnicodeDecodeError"
  | settings (.flag _) => "ValidationError"
  | refused _ fault => fault.name
  | unencodable _ => "UnicodeEncodeError"
  | nullCharacter => "ValueError"
  | foreignPrivate _ | foreignPublic _ | degenerate => "TypeError"
  | noNonce => "NonceError"

def message : Failure → RawText
  | key fault => fault.message
  | load fault => fault.message
  | settings (.unreadable path cause) => cause.message path
  | settings (.encoding fault) => fault.message
  | settings (.flag _) => flagMessage
  | refused path fault => fault.message path
  | unencodable fault => fault.message
  | nullCharacter => "embedded null byte"
  | foreignPrivate algorithm => s!"Expected a {algorithmName} private key, got {algorithm}"
  | foreignPublic algorithm => s!"Expected a {algorithmName} public key, got {algorithm}"
  | degenerate => "unsupported operand type(s) for %: 'NoneType' and 'int'"
  | noNonce => "no usable nonce found"

end Failure

end Keyring
