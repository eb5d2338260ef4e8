import Keyring.CommandLine.Arguments

/-!
What the command line shows instead of a run: help, and what is wrong with the words.
-/

namespace Keyring.CommandLine

def program : String := "sawtooth-keys"

def Part.program : Part → String
  | common => CommandLine.program
  | publicKey => s!"{CommandLine.program} public-key"
  | sign => s!"{CommandLine.program} sign"

def Part.usage (part : Part) : String :=
  match part with
  | common => s!"usage: {part.program} [-h] [-k KEY] [-v] \x7bpublic-key,sign\x7d ...\n"
  | publicKey => s!"usage: {part.program} [-h]\n"
  | sign => s!"usage: {part.program} [-h] message\n"

def Part.help (part : Part) : String :=
  match part with
  | common =>
    part.usage ++ "\n" ++
    "Load a signing key from ~/.sawtooth/keys and use it\n\n" ++
    "positional arguments:\n" ++
    "  \x7bpublic-key,sign\x7d\n" ++
    "    public-key       Print the public key for the signing key\n" ++
    "    sign             Sign a message and print the signature\n\n" ++
    "options:\n" ++
    "  -h, --help         show this help message and exit\n" ++
    "  -k KEY, --key KEY  Name of the signing key (defaults to the current user)\n" ++
    "  -v, --verbose      Enable debug logging\n"
  | publicKey =>
    part.usage ++ "\n" ++
    "options:\n" ++
    "  -h, --help  show this help message and exit\n"
  | sign =>
    part.usage ++ "\n" ++
    "positional arguments:\n" ++
    "  message     Message to sign, or '-' to read bytes from stdin\n\n" ++
    "options:\n" ++
    "  -h, --help  show this help message and exit\n"

def Flag.shown : Flag → String
  | help => "-h/--help"
  | key => "-k/--key"
  | verbose => "-v/--verbose"

def Misuse.message : Misuse → RawText
  | ambiguous ambiguity =>
    "ambiguous option: " ++ ambiguity.word ++ " could match " ++
      List.intercalate ", " ambiguity.spellings
  | attached flag value =>
    s!"argument {flag.shown}: ignored explicit argument {Text.quoted value}"
  | noValue flag => s!"argument {flag.shown}: expected one argument"
  | unknownCommand word =>
    s!"argument command: invalid choice: {Text.quoted word} (choose from 'public-key', 'sign')"
  | missing operand => s!"the following arguments are required: {operand}"
  | leftOver words => "unrecognized arguments: " ++ List.intercalate " " words

def misuseText (part : Part) (misuse : Misuse) : RawText :=
  s!"{part.usage}{part.program}: error: " ++ misuse.message ++ "\n"

end Keyring.CommandLine
