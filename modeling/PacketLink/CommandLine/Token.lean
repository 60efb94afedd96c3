import PacketLink.CommandLine.Option

namespace PacketLink.CommandLine

/-! The arguments of the command line by their form, and the options by their names. -/

inductive Token where
  /-- Two dashes: what follows is no option. -/
  | separator
  /-- A long option, with the value after its equals sign. -/
  | long (name : String) (value : Option String)
  /-- Letters after a single dash, an option each. -/
  | short (letters : List Char)
  /-- A value or a command's name; a single dash is one, too. -/
  | word (text : String)
deriving DecidableEq

namespace Token

/-- The name ahead of the first equals sign, and the value behind it. -/
def ofLong (chars : List Char) : Token :=
  let name := String.ofList (chars.takeWhile (· ≠ '='))
  match chars.dropWhile (· ≠ '=') with
  | [] => .long name none
  | _ :: value => .long name (some (String.ofList value))

def ofArgument (argument : String) : Token :=
  match argument.toList with
  | ['-', '-'] => .separator
  | '-' :: '-' :: name => ofLong name
  | ['-'] => .word argument
  | '-' :: letters => .short letters
  | _ => .word argument

end Token

inductive Named where
  | value (option : ValueOption)
  | switch (switch : Switch)
  | help
  | version
deriving DecidableEq

/-- The option of a long name. The ping payload and the duration of a benchmark belong to their
commands; all other options are known everywhere. -/
def longOption? (command : Option HostCommand.Kind) (name : String) : Option Named :=
  match name with
  | "vid" => some (.value .vid)
  | "pid" => some (.value .pid)
  | "timeout-ms" => some (.value .timeout)
  | "filter" => some (.value .filter)
  | "config" => some (.value .config)
  | "payload" => if command = some .ping then some (.value .payload) else none
  | "seconds" => if command = some .bench then some (.value .seconds) else none
  | "ack" => some (.switch .ack)
  | "monitor" => some (.switch .monitor)
  | "hex" => some (.switch .hex)
  | "json" => some (.switch .json)
  | "verbose" => some (.switch .verbose)
  | "help" => some .help
  | "version" => some .version
  | _ => none

def shortOption? : Char → Option Named
  | 'v' => some (.switch .verbose)
  | 'h' => some .help
  | 'V' => some .version
  | _ => none

end PacketLink.CommandLine
