import PacketLink.CommandLine.Parse
import PacketLink.Files.Store
import PacketLink.Host.ConfigFile
import PacketLink.Host.Error
import PacketLink.Monitor.Printer

namespace PacketLink

/-! Why a run of the host program ends without success, and what it says of that. -/

namespace CommandLine.Stop

def versionText (command : Option HostCommand.Kind) : String :=
  let name := match command with
    | none => "hidlink"
    | some kind => "hidlink-" ++ kind.name
  name ++ " 0.1.0"

def usage : String :=
  "Usage: hidlink [OPTIONS] <devices|ping|status|bench|save-config>"

def message : CommandLine.Stop → String
  | .help | .nothingGiven => usage
  | .version command => versionText command
  | .missingCommand => "error: a command is required"
  | .unknownCommand => "error: there is no such command"
  | .unknownArgument => "error: there is no such argument"
  | .missingValue => "error: an option needs a value"
  | .invalidValue => "error: the value of an option is invalid"
  | .givenTwice => "error: an option is given twice"
  | .unneededValue => "error: an option takes no value"

/-- Help and version are what was asked for; everything else is a mistake. -/
def exitCode : CommandLine.Stop → Nat
  | .help | .version _ => 0
  | _ => 2

end CommandLine.Stop

namespace HostConfig

def ReadError.message : ReadError → String
  | .notText => "stream did not contain valid UTF-8"
  | .malformed => "TOML parse error"

def RenderError.message : RenderError → String
  | .timeoutOutOfRange => "out-of-range value for u64 type"

end HostConfig

namespace Program

inductive Failure where
  /-- The command line yields no command. -/
  | usage (stop : CommandLine.Stop)
  /-- The settings could not be read from their file, or not be written to it. -/
  | file (reason : FileError)
  | settings (reason : HostConfig.ReadError)
  | unstorable (reason : HostConfig.RenderError)
  /-- No monitor filter has this name. -/
  | filter (name : String)
  | command (reason : HostError)
  /-- The command did not end within its bound. -/
  | unfinished

namespace Failure

/-- The texts of the failure and of its causes, the outermost first. -/
def chain : Failure → List String
  | .usage stop => [stop.message]
  | .file reason => [reason.message]
  | .settings reason => [reason.message]
  | .unstorable reason => [reason.message]
  | .filter name => [Monitor.Filter.unknown name]
  | .command reason => reason.chain
  | .unfinished => ["no end in sight"]

def exitCode : Failure → Nat
  | .usage stop => stop.exitCode
  | _ => 1

def numbered (number : Nat) : List String → String
  | [] => ""
  | cause :: rest => s!"    {number}: {cause}\n" ++ numbered (number + 1) rest

/-- A failure with its causes; a single cause has no number. -/
def report : List String → String
  | [] => ""
  | [text] => s!"Error: {text}\n"
  | [text, cause] => s!"Error: {text}\n\nCaused by:\n    {cause}\n"
  | text :: causes => s!"Error: {text}\n\nCaused by:\n" ++ numbered 0 causes

end Failure

end Program

end PacketLink
