import PacketLink.Host.Command
import PacketLink.Host.HexPayload
import PacketLink.Host.UsbId
import PacketLink.Text.Decimal

namespace PacketLink.CommandLine

/-! The options of the command line, what they hold, and what can be wrong with them.

Most options are known to the program and to each of its commands. An option is given once at most
on either side of the command's name. -/

inductive Stop where
  /-- Help is asked for. -/
  | help
  /-- The version is asked for, of the program or of one command. -/
  | version (command : Option HostCommand.Kind)
  /-- There is nothing on the command line, so that help is in place. -/
  | nothingGiven
  | missingCommand
  | unknownCommand
  | unknownArgument
  /-- An option that needs a value has none, or an empty one where that is no value. -/
  | missingValue
  /-- A value that the option cannot have. -/
  | invalidValue
  /-- An option is given twice. -/
  | givenTwice
  /-- A value for an option that takes none. -/
  | unneededValue
deriving DecidableEq

inductive ValueOption where
  | vid
  | pid
  | timeout
  | filter
  | config
  | payload
  | seconds
deriving DecidableEq

inductive Switch where
  | ack
  | monitor
  | hex
  | json
  | verbose
deriving DecidableEq

structure Settings where
  vid : Option UInt16 := none
  pid : Option UInt16 := none
  timeoutMillis : Option UInt64 := none
  filter : Option String := none
  config : Option String := none
  payload : Option Bytes := none
  seconds : Option UInt64 := none
  ack : Bool := false
  monitor : Bool := false
  hex : Bool := false
  json : Bool := false
  verbose : Bool := false
deriving DecidableEq

/-- A decimal number of 64 bits; a plus sign may stand ahead of it. -/
def number? (text : String) : Option UInt64 :=
  let digits := match text.toList with
    | '+' :: digits => digits
    | digits => digits
  if !digits.isEmpty ∧ digits.all Decimal.isDigit ∧ Decimal.value digits < Nat.pow 2 64 then
    some (UInt64.ofNat (Decimal.value digits))
  else none

namespace Settings

/-- The value of an option in a slot that is still free. -/
def once {α : Type} (slot : Option α) (value : Except Stop α) : Except Stop (Option α) :=
  match slot with
  | some _ => .error .givenTwice
  | none => value.map some

/-- A value, or the fault of a text that is none. -/
def valid {α : Type} : Option α → Except Stop α
  | some value => .ok value
  | none => .error .invalidValue

def set (settings : Settings) (option : ValueOption) (text : String) : Except Stop Settings :=
  match option with
  | .vid => do
      let vid ← once settings.vid (valid (UsbId.ofText text).toOption)
      return { settings with vid := vid }
  | .pid => do
      let pid ← once settings.pid (valid (UsbId.ofText text).toOption)
      return { settings with pid := pid }
  | .timeout => do
      let timeout ← once settings.timeoutMillis (valid (number? text))
      return { settings with timeoutMillis := timeout }
  | .filter => do
      let filter ← once settings.filter (.ok text)
      return { settings with filter := filter }
  | .config => do
      let path := if text.isEmpty then .error .missingValue else .ok text
      let config ← once settings.config path
      return { settings with config := config }
  | .payload => do
      let payload ← once settings.payload (valid (HexPayload.ofText text).toOption)
      return { settings with payload := payload }
  | .seconds => do
      let seconds ← once settings.seconds (valid (number? text))
      return { settings with seconds := seconds }

def switchOn (settings : Settings) (switch : Switch) : Except Stop Settings :=
  let once (isOn : Bool) (following : Settings) : Except Stop Settings :=
    if isOn then .error .givenTwice else .ok following
  match switch with
  | .ack => once settings.ack { settings with ack := true }
  | .monitor => once settings.monitor { settings with monitor := true }
  | .hex => once settings.hex { settings with hex := true }
  | .json => once settings.json { settings with json := true }
  | .verbose => once settings.verbose { settings with verbose := true }

/-- Options before and after the command's name together: the later value wins, and what is switched
on stays on. -/
def merge (before after : Settings) : Settings where
  vid := after.vid.or before.vid
  pid := after.pid.or before.pid
  timeoutMillis := after.timeoutMillis.or before.timeoutMillis
  filter := after.filter.or before.filter
  config := after.config.or before.config
  payload := after.payload.or before.payload
  seconds := after.seconds.or before.seconds
  ack := before.ack || after.ack
  monitor := before.monitor || after.monitor
  hex := before.hex || after.hex
  json := before.json || after.json
  verbose := before.verbose || after.verbose

end Settings

end PacketLink.CommandLine
