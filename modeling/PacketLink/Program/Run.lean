import PacketLink.Host.Run
import PacketLink.Link.Trace
import PacketLink.Program.Failure

namespace PacketLink.Program

/-! One run of the host program: the command line, the stored settings, and the command. -/

structure Surroundings (σ : Type) where
  system : Hid.System σ
  state : σ
  /-- Where the settings are kept, unless the command line says otherwise. -/
  settingsPath : String
  /-- Any four bytes, for probes that nobody asked for. -/
  probe : Bytes
  /-- The bound on each of the command's loops. -/
  rounds : Nat

structure Outcome where
  /-- What was printed and logged, in order. -/
  notes : List Note
  failure : Option Failure

namespace Outcome

def failed (failure : Failure) : Outcome := ⟨[], some failure⟩

def output (outcome : Outcome) : List String := outcome.notes.filterMap Note.outputLine?

def exitCode (outcome : Outcome) : Nat := outcome.failure.elim 0 Failure.exitCode

end Outcome

def overrides (settings : CommandLine.Settings) : HostConfig.Overrides where
  vid := settings.vid
  pid := settings.pid
  readTimeoutMillis := settings.timeoutMillis
  ack := settings.ack

variable {m : Type → Type} [Monad m] {σ : Type}

/-- The stored settings; without a file they are the standard ones. -/
def loadSettings (files : FileStore m) (path : String) : m (Except Failure HostConfig) := do
  match ← files.load path with
  | .error reason => return .error (.file reason)
  | .ok none => return .ok {}
  | .ok (some content) => return (HostConfig.read content).mapError .settings

/-- Stores settings. The folders are made first; the file is written only if there is a text for
it. -/
def saveSettings (files : FileStore m) (path : String) (config : HostConfig) :
    m (Except Failure Unit) := do
  match ← files.makeFolders path with
  | .error reason => return .error (.file reason)
  | .ok () =>
      match config.render with
      | .error reason => return .error (.unstorable reason)
      | .ok text => return (← files.write path text.toUTF8).mapError .file

/-- Runs a command that talks to a device. -/
def runCommand (surroundings : Surroundings σ) (config : HostConfig)
    (monitor : Option Monitor.Config) (command : HostCommand) : Outcome :=
  let context : Host.Context := { config := config, monitor := monitor, probe := surroundings.probe }
  let outcome := Host.run surroundings.system context command surroundings.rounds
    { device := surroundings.state }
  let failure := match outcome.result with
    | none => some .unfinished
    | some (.error reason) => some (.command reason)
    | some (.ok ()) => none
  ⟨Trace.notes outcome.world.trace, failure⟩

def run (files : FileStore m) (surroundings : Surroundings σ) (arguments : List String) :
    m Outcome := do
  match CommandLine.parse arguments with
  | .error stop => return .failed (.usage stop)
  | .ok ⟨command, settings⟩ =>
      let path := settings.config.getD surroundings.settingsPath
      match ← loadSettings files path with
      | .error failure => return .failed failure
      | .ok stored =>
          let config := stored.apply (overrides settings)
          match Monitor.Config.choose settings.monitor settings.hex settings.json settings.filter with
          | .error name => return .failed (.filter name)
          | .ok monitor =>
              if command = .saveConfig then
                match ← saveSettings files path config with
                | .error failure => return .failed failure
                | .ok () => return ⟨[.output s!"Saved configuration to {path}"], none⟩
              else return runCommand surroundings config monitor command

end PacketLink.Program
