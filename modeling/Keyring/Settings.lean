import Keyring.EnvFile.Expansion
import Keyring.Failure
import Keyring.Marked

/-!
Settings: the default key name and the debug flag, taken from the environment variables
`SAWTOOTH_KEY_NAME` and `SAWTOOTH_DEBUG`, else from the file `.env` in the working
directory. Names are compared without regard to case; an empty value is a value.

Settings that have been read once are kept until the cache is cleared; a failure to read
them is not.
-/

namespace Keyring

structure Settings where
  keyName : Option String
  debug : Bool
  deriving DecidableEq, Repr

namespace Settings

/-! ## Which text counts -/

/-- The lower-case letter of an ASCII capital. `U+212A`, the sign for the unit kelvin, is
the only other character of which the lower case is ASCII. -/
def lowerChar (c : Char) : Char :=
  if c = '\u212A' then 'k' else c.toLower

/-- Whether a name is the given one, which is in lower case, up to case. -/
def named (lowerName name : String) : Bool :=
  name.toList.map lowerChar == lowerName.toList

/-- The value of the last entry of a name, up to case. -/
def lastNamed {α : Type} (lowerName : String) (entries : List (String × α)) : Option α :=
  (entries.reverse.find? fun entry => named lowerName entry.1).map (·.2)

/-- The text given for a setting: by the environment, else by the file. A name without a
value in the file gives none. -/
def givenText (environment : Environment) (file : EnvFile.Values) (lowerName : String) :
    Option String :=
  match lastNamed lowerName environment with
  | some text => some text
  | none => ((lastNamed lowerName file).bind id).map String.ofList

/-! ## Truth values -/

def trueTexts : List String := ["1", "true", "t", "yes", "y", "on"]

def falseTexts : List String := ["0", "false", "f", "no", "n", "off"]

/-- The truth value that a text stands for, without regard to the case of ASCII letters. -/
def truthValue? (text : String) : Option Bool :=
  let lower := String.ofList (text.toList.map Char.toLower)
  if trueTexts.contains lower then some true
  else if falseTexts.contains lower then some false
  else none

/-! ## Reading -/

/-- The settings that an environment and the values of a file give. -/
def ofValues (environment : Environment) (file : EnvFile.Values) : Except SettingsFault Settings :=
  let keyName := givenText environment file "sawtooth_key_name"
  match givenText environment file "sawtooth_debug" with
  | none => .ok ⟨keyName, false⟩
  | some text =>
    match truthValue? text with
    | some debug => .ok ⟨keyName, debug⟩
    | none => .error (.flag text)

/-- The file in which settings are looked for. -/
def file : Path := ⟨.relative, [".env"]⟩

/-- The statements of the settings file; there are none when it is no file. -/
def fileStatements (disk : Disk) : Except SettingsFault (List (Nat × EnvFile.Statement)) :=
  match disk.entry file with
  | .ok (.file content) => (EnvFile.statements content).mapError .encoding
  | .ok .directory => .ok []
  | .ok (.withheld cause) => .error (.unreadable file cause.fault)
  | .error obstacle => obstacle.refusal?.elim (.ok []) fun cause => .error (.unreadable file cause)

/-- What reading the settings comes to: the settings, and the lines of the file that
could not be read. -/
structure Reading where
  unreadable : List Nat
  result : Except SettingsFault Settings

def read (host : Host) : Reading :=
  match fileStatements host.disk with
  | .error fault => ⟨[], .error fault⟩
  | .ok statements =>
    let values := EnvFile.evaluate host.environment (EnvFile.entries statements)
    ⟨EnvFile.unreadableLines statements, ofValues host.environment values⟩

/-! ## Keeping -/

abbrev Cache := Option (Marked Settings)

structure Access where
  unreadable : List Nat
  result : Except SettingsFault (Marked Settings)
  cache : Cache

/-- The settings that are kept, or else those read now, which get the given mark and are
kept from now on. -/
def get (cache : Cache) (mark : Nat) (host : Host) : Access :=
  match cache with
  | some kept => ⟨[], .ok kept, cache⟩
  | none =>
    let reading := read host
    match reading.result with
    | .ok settings => ⟨reading.unreadable, .ok ⟨mark, settings⟩, some ⟨mark, settings⟩⟩
    | .error fault => ⟨reading.unreadable, .error fault, none⟩

end Settings

end Keyring
