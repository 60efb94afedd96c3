import PacketLink.CommandLine.Token

namespace PacketLink.CommandLine

/-! From the arguments to a command and its options.

The arguments ahead of the command's name and those behind it are read in the same way, one after
another. A value that stands apart from its option is checked only when the next option comes or the
arguments end, so that a mistake further on may be found first. -/

/-- An option whose value has not been checked: the value, if it was there. -/
structure Pending where
  option : ValueOption
  value : Option String := none

/-- One side of the command's name while it is read. -/
structure Side where
  settings : Settings := {}
  pending : Option Pending := none

namespace Side

/-- Checks the value that is still to be checked. -/
def settle (side : Side) : Except Stop Settings :=
  match side.pending with
  | none => .ok side.settings
  | some ⟨_, none⟩ => .error .missingValue
  | some ⟨option, some value⟩ => side.settings.set option value

def take (side : Side) (command : Option HostCommand.Kind) (named : Named) : Except Stop Side := do
  let settings ← side.settle
  match named with
  | .value option => return ⟨settings, some ⟨option, none⟩⟩
  | .switch switch => return ⟨← settings.switchOn switch, none⟩
  | .help => throw .help
  | .version => throw (.version command)

def takeLong (side : Side) (command : Option HostCommand.Kind) (name : String)
    (value : Option String) : Except Stop Side :=
  match longOption? command name, value with
  | none, _ => .error .unknownArgument
  | some named, none => side.take command named
  | some (.value option), some value => do
      return ⟨← (← side.settle).set option value, none⟩
  | some _, some _ => .error .unneededValue

def takeLetters (command : Option HostCommand.Kind) : List Char → Side → Except Stop Side
  | [], side => .ok side
  | letter :: rest, side =>
      match shortOption? letter with
      | none => .error .unknownArgument
      | some named => do takeLetters command rest (← side.take command named)

end Side

/-- Help on a command, which is to be named by at most one word. -/
def helpOn : List String → Stop
  | [] => .help
  | [name] => if name = "help" ∨ (HostCommand.Kind.ofName? name).isSome then .help else .unknownCommand
  | _ => .unknownCommand

/-- What stands after two dashes: nothing may. -/
def afterSeparator (command : Option HostCommand.Kind) : List String → Option Stop
  | [] => none
  | word :: _ =>
      if command.isSome ∨ word = "help" ∨ (HostCommand.Kind.ofName? word).isSome then
        some .unknownArgument
      else some .unknownCommand

/-- One side of the command's name; the name and the arguments behind it, if this side ends there. -/
structure Split where
  side : Side
  next : Option (HostCommand.Kind × List String)

/-- Reads the arguments of one side. After a command there is no other. -/
def readSide (command : Option HostCommand.Kind) : List String → Side → Except Stop Split
  | [], side => .ok ⟨side, none⟩
  | argument :: rest, side =>
      match Token.ofArgument argument with
      | .separator =>
          match afterSeparator command rest with
          | none => .ok ⟨side, none⟩
          | some stop => .error stop
      | .long name value => do readSide command rest (← side.takeLong command name value)
      | .short letters => do readSide command rest (← side.takeLetters command letters)
      | .word text =>
          match side.pending with
          | some ⟨option, none⟩ =>
              readSide command rest { side with pending := some ⟨option, some text⟩ }
          | _ =>
              if command.isSome then .error .unknownArgument
              else match HostCommand.Kind.ofName? text with
                | some kind => .ok ⟨side, some (kind, rest)⟩
                | none => .error (if text = "help" then helpOn rest else .unknownCommand)

structure Request where
  command : HostCommand
  settings : Settings

def commandOf (kind : HostCommand.Kind) (settings : Settings) : HostCommand :=
  match kind with
  | .devices => .devices
  | .ping => .ping settings.payload
  | .status => .status
  | .bench => .bench (settings.seconds.getD 10)
  | .saveConfig => .saveConfig

/-- Reads the arguments after the program's name. A mistake behind the command's name comes ahead of
an unchecked value before it. -/
def parse (arguments : List String) : Except Stop Request := do
  let before ← readSide none arguments {}
  match before.next with
  | none =>
      let settings ← before.side.settle
      throw (if settings = {} then .nothingGiven else .missingCommand)
  | some (kind, rest) =>
      let after ← (← readSide (some kind) rest {}).side.settle
      let settings := Settings.merge (← before.side.settle) after
      return ⟨commandOf kind settings, settings⟩

end PacketLink.CommandLine
