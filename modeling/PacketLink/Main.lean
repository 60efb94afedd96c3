import PacketLink.Files.Path
import PacketLink.Files.Standard
import PacketLink.Files.Store
import PacketLink.Hid.Deviceless
import PacketLink.Program.Run

/-! The host program on this machine's files. There is no HID layer to talk to, so no interface is
ever found. -/

namespace PacketLink

/-- The number of a failure; some calls report it with the sign changed. -/
def hasCode (code number : UInt32) : Bool := code = number ∨ 0 - code = number

def FileError.ofIO : IO.Error → FileError
  | .noFileOrDirectory .. => .missing
  | .alreadyExists .. => .exists
  | .inappropriateType _ code _ => if hasCode code 21 then .isFolder else .notFolder
  | .invalidArgument _ code reason => if hasCode code 36 then .nameTooLong else .other reason
  | reason => .other (toString reason)

/-- An operation on files, its failure as a value. -/
def attemptIO {α : Type} (action : IO α) : IO (Except FileError α) := do
  try return .ok (← action) catch reason => return .error (.ofIO reason)

def FileStore.machine : FileStore IO where
  load path := do
    match ← attemptIO (IO.FS.readBinFile path) with
    | .ok content => return .ok (some content)
    | .error .missing | .error .notFolder | .error .nameTooLong => return .ok none
    | .error reason => return .error reason
  makeFolders path :=
    let folder := Path.ofPieces (Path.folder path)
    if folder.isEmpty then return .ok () else attemptIO (IO.FS.createDirAll folder)
  write path content := attemptIO (IO.FS.writeBinFile path content)

def settingsPath : IO String := do
  match ← IO.getEnv "XDG_CONFIG_HOME", ← IO.getEnv "HOME" with
  | some folder, _ => return folder ++ "/hidlink/config.toml"
  | none, some home => return home ++ "/.config/hidlink/config.toml"
  | none, none => return "./hidlink/config.toml"

/-- Prints what a run said, in order: output, and the monitor and log beside it. -/
def printNote (verbose : Bool) : Note → IO Unit
  | .output line => IO.println line
  | .monitor line => IO.eprintln line
  | .log entry => if verbose ∨ entry.level ≠ .debug then IO.eprintln entry.line else return
  | .debugText _ | .rate _ => return

end PacketLink

open PacketLink in
def main (arguments : List String) : IO UInt32 := do
  let probe ← IO.getRandomBytes 4
  let outcome ← Program.run FileStore.machine
    { system := .deviceless, state := .standard, settingsPath := ← settingsPath,
      probe := probe.toList, rounds := Nat.pow 2 62 } arguments
  let verbose := arguments.contains "--verbose" || arguments.contains "-v"
  outcome.notes.forM (printNote verbose)
  match outcome.failure with
  | none => return 0
  | some (.usage stop) =>
      if stop.exitCode = 0 then IO.println stop.message else IO.eprintln stop.message
  | some failure => IO.eprint (Program.Failure.report failure.chain)
  return UInt32.ofNat outcome.exitCode
