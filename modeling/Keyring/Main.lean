import Keyring.CommandLine.Run
import Keyring.Host.Tables
import Std.Time

/-!
The program: asks the system for what a run needs, runs, and shows the outcome.

Files can be asked for by names that are UTF-8 only, and a directory that may not be opened looks
like a file that may not be. The log is set up anew by each run, and this program makes one run:
what a second one in a process makes of the threshold of the first is not to be seen here.
-/

namespace Keyring.Program

def fileBytes (name : String) : IO Bytes := do
  return (← IO.FS.readBinFile name).toList

/-- The number of a system fault, which may be given negated. -/
def faultNumber (code : UInt32) : UInt32 :=
  if code > 0x80000000 then 0 - code else code

/-- The name by which the system is asked for a file. -/
def fileName (path : Path) : IO String :=
  match Utf8.decode path.text.systemBytes with
  | .ok name => return String.ofList name
  | .error _ => throw (.userError s!"{path.text.shown}: no name in UTF-8")

/-- What stands where a process is refused to read: nothing that it can look up, or a file that it
may not open. -/
def lookUpDenied (name : String) : IO (Except Obstacle Entry) := do
  try
    let _ ← IO.FS.realPath name
    return .ok (.withheld .denied)
  catch _ => return .error .denied

/-- Looks up a path by reading it. Faults that are no answer about the path are passed on. -/
def lookUp (path : Path) : IO (Except Obstacle Entry) := do
  if !Disk.speakable path then return .error .missing
  let name ← fileName path
  try
    return .ok (.file (← fileBytes name))
  catch fault =>
    match fault with
    | .noFileOrDirectory _ _ _ => return .error .missing
    | .permissionDenied _ _ _ => lookUpDenied name
    | .hardwareFault _ _ => return .ok (.withheld .device)
    | .inappropriateType _ code _ =>
      if faultNumber code = 21 then return .ok .directory else return .error .notDirectory
    | .invalidArgument _ code _ =>
      if faultNumber code = 36 then return .error .tooLong else throw fault
    | _ => throw fault

partial def allInput (stream : IO.FS.Stream) (seen : ByteArray) : IO ByteArray := do
  let part ← stream.read 65536
  if part.isEmpty then return seen else allInput stream (seen ++ part)

/-- What is shown on the error channel, with records at the given time. -/
def shownText (time : String) (shown : CommandLine.Shown) : String :=
  match shown with
  | .text text => text.shown
  | .record record =>
    s!"{time} - {record.source.name} - {record.level.name} - {record.message.shown}\n"

/-- Runs with the surroundings of this process, and so many words. -/
def run (wordCount : Nat) : IO CommandLine.Outcome := do
  let words := wordsOfBlock wordCount (← fileBytes "/proc/self/cmdline")
  let environment := Environment.ofBlock (← fileBytes "/proc/self/environ")
  let userId := (userIdOfStatus (← fileBytes "/proc/self/status")).getD 0
  let accounts := accountsOfTable (← fileBytes "/etc/passwd")
  let settings := (Settings.file, ← lookUp Settings.file)
  let host : Host := ⟨environment, some accounts, userId, Disk.ofAnswers [settings]⟩
  let answers ← match CommandLine.fileWanted host words with
    | some path => pure [settings, (path, ← lookUp path)]
    | none => pure [settings]
  let input ← if CommandLine.readsInput words then allInput (← IO.getStdin) .empty else pure .empty
  let there := { host with disk := Disk.ofAnswers answers }
  return (CommandLine.run there none 0 words input.toList).1

end Keyring.Program

/-- Shows the outcome of a run and ends with its exit code. -/
def main (words : List String) : IO UInt32 := do
  let outcome ← Keyring.Program.run words.length
  let time := (← Std.Time.PlainDateTime.now).format "uuuu-MM-dd HH:mm:ss,SSS"
  for shown in outcome.errors do
    (← IO.getStderr).putStr (Keyring.Program.shownText time shown)
  (← IO.getStdout).putStr outcome.output
  match outcome.ending with
  | .returned code | .stopped code => return code.toUInt32
  | .escaped failure =>
    (← IO.getStderr).putStrLn s!"{failure.name}: {failure.message.shown}"
    return 1
