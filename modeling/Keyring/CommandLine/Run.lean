import Keyring.CommandLine.Screen
import Keyring.KeyStore
import Keyring.Settings

/-!
Runs of the command line: the words are read, then the settings, then the key is loaded,
and last the command is carried out.

A run shows its result on the output channel. On the error channel it shows warnings
about the settings file, the records of the log that pass its threshold, and failures to
load settings or key; any other failure leaves the run. The settings that a run reads
are kept for the next one in the process. The threshold of the log is not: every run has its own,
as the first run in a process has, and what a process makes of the threshold of an earlier run is
left out.
-/

namespace Keyring.CommandLine

/-- One thing shown on the error channel. -/
inductive Shown where
  | text (text : RawText)
  /-- A record of the log, shown with the time at which it was made. -/
  | record (record : Record)
  deriving DecidableEq, Repr

inductive Ending where
  /-- It comes to its end with an exit code. -/
  | returned (code : Nat)
  /-- Reading the words ends it with an exit code. -/
  | stopped (code : Nat)
  | escaped (failure : Failure)
  deriving DecidableEq, Repr

/-- What a run shows on both channels, and its end. -/
structure Outcome where
  output : String
  errors : List Shown
  ending : Ending

/-! ## Failures on the error channel -/

/-- The longest beginning of whole characters within a number of bytes. -/
def takeBytes : (limit : Nat) → List Char → List Char
  | _, [] => []
  | limit, c :: rest => if c.utf8Size ≤ limit then c :: takeBytes (limit - c.utf8Size) rest else []

/-- A text of at most fifty bytes as it is, a longer one without its middle. -/
def shorten (text : String) : String :=
  if text.utf8ByteSize ≤ 50 then text
  else
    let front := takeBytes 25 text.toList
    let back := (takeBytes 24 text.toList.reverse).reverse
    String.ofList front ++ "..." ++ String.ofList back

/-- What is shown when a text that stands for neither truth value is given for the debug
flag. -/
def flagText (text : String) : String :=
  "Error: invalid configuration: 1 validation error for Settings\ndebug\n  " ++
  s!"{Failure.flagMessage} [type=bool_parsing, input_value={shorten (Text.quoted text)}, " ++
  "input_type=str]\n" ++
  "    For further information visit https://errors.pydantic.dev/2.14/v/bool_parsing\n"

def lineWarning (line : Nat) : Shown :=
  .text s!"python-dotenv could not parse statement starting at line {line}\n"

/-- The records that pass a threshold. -/
def recordsShown (threshold : Level) (records : List Record) : List Shown :=
  (records.filter fun record => threshold.passes record.level).map .record

def loadFailed (failure : Failure) : Record :=
  ⟨.commandLine, .debug, s!"Key load failed: {failure.name}({Text.quoted failure.message})"⟩

/-! ## Carrying out a command -/

/-- The bytes to sign: those on the input channel when the message is a single dash,
else those of the message, if it has any. -/
def messageBytes (message : RawText) (input : Bytes) : Except Failure Bytes :=
  if message = "-" then .ok input else message.encode.mapError .unencodable

def answer (signer : Signer) (command : Command) (input : Bytes) : Except Failure String :=
  match command with
  | .publicKey => do
    let (key, _) ← signer.publicKey 0
    return key.value.hex
  | .sign message => do
    let bytes ← messageBytes message input
    signer.sign bytes

/-- The threshold of the log: everything for a verbose run or with the debug flag set,
else warnings. -/
def threshold (arguments : Arguments) (settings : Settings) : Level :=
  if arguments.verbose || settings.debug then .debug else .warning

/-- The name of the key: that on the command line, even when empty, else the one in the
settings. -/
def chosenName (arguments : Arguments) (settings : Settings) : Option RawText :=
  arguments.key <|> settings.keyName.map .ofString

def perform (host : Host) (context : Context) (arguments : Arguments) (settings : Settings)
    (input : Bytes) : Outcome :=
  let store : KeyStore := ⟨context, .process none⟩
  let loaded := store.signer host (chosenName arguments settings)
  let shown := recordsShown (threshold arguments settings)
  match loaded.result with
  | .error failure =>
    if failure.isSigning then
      { output := ""
        errors := shown (loaded.records ++ [loadFailed failure]) ++
          [.text ("Error: " ++ failure.message ++ "\n")]
        ending := .returned 1 }
    else ⟨"", shown loaded.records, .escaped failure⟩
  | .ok signer =>
    match answer signer arguments.command input with
    | .ok line => ⟨line ++ "\n", shown loaded.records, .returned 0⟩
    | .error failure => ⟨"", shown loaded.records, .escaped failure⟩

/-- The run that goes on with the settings it asked for, or without. -/
def runSettled (host : Host) (mark : Nat) (arguments : Arguments) (input : Bytes)
    (settings : Except SettingsFault (Marked Settings)) : Outcome :=
  match settings with
  | .error (.flag text) => ⟨"", [.text (flagText text)], .returned 1⟩
  | .error fault => ⟨"", [], .escaped (.settings fault)⟩
  | .ok settings => perform host ⟨mark, ()⟩ arguments settings.value input

/-- A run with arguments that could be read, and the settings that are kept after it.
Settings that it has to read itself get the given mark. -/
def runWith (host : Host) (cache : Settings.Cache) (mark : Nat) (arguments : Arguments)
    (input : Bytes) : Outcome × Settings.Cache :=
  let access := Settings.get cache mark host
  let outcome := runSettled host mark arguments input access.result
  ({ outcome with errors := access.unreadable.map lineWarning ++ outcome.errors }, access.cache)

/-- A run of the command line, and the settings that are kept after it. -/
def run (host : Host) (cache : Settings.Cache) (mark : Nat) (words : List RawText)
    (input : Bytes) : Outcome × Settings.Cache :=
  match parse words with
  | .error (.help part) => (⟨part.help, [], .stopped 0⟩, cache)
  | .error (.misuse part misuse) => (⟨"", [.text (misuseText part misuse)], .stopped 2⟩, cache)
  | .ok arguments => runWith host cache mark arguments input

/-! ## What a run will ask for -/

/-- The key file that a run looks at, if it gets that far. Of the disk this depends on
the settings file alone. -/
def fileWanted (host : Host) (words : List RawText) : Option Path := do
  let arguments ← (parse words).toOption
  let settings ← (Settings.read host).result.toOption
  let store : KeyStore := ⟨⟨0, ()⟩, .process none⟩
  let path : Logged Path := do
    let name ← store.chooseName host (chosenName arguments settings)
    store.keyPath host name
  path.result.toOption

/-- Whether a run signs what is on the input channel. -/
def readsInput (words : List RawText) : Bool :=
  match parse words with
  | .ok arguments => arguments.command == .sign "-"
  | .error _ => false

end Keyring.CommandLine
