import PacketLink.Monitor.Decoded
import PacketLink.Text.Ansi

namespace PacketLink.Monitor

/-! The lines that a monitor prints for one packet, and the choice of packets that it shows. -/

inductive Format where
  | text
  | json
deriving DecidableEq

inductive Filter where
  | all
  | outgoing
  | incoming
deriving DecidableEq

namespace Filter

/-- The filter of a name. Letter case does not matter: the names are ASCII, and no other letter has
one of theirs as its lower case. -/
def ofName? (name : String) : Option Filter :=
  let lower := name.toLower
  if lower = "all" ∨ lower = "" then some .all
  else if lower = "tx" ∨ lower = "out" ∨ lower = "outgoing" then some .outgoing
  else if lower = "rx" ∨ lower = "in" ∨ lower = "incoming" then some .incoming
  else none

def unknown (name : String) : String := "Unknown filter: " ++ name

def shows (filter : Filter) (direction : Direction) : Bool :=
  match filter with
  | .all => true
  | .outgoing => direction = .tx
  | .incoming => direction = .rx

def text : Filter → String
  | .all => "All"
  | .outgoing => "Outgoing"
  | .incoming => "Incoming"

end Filter

structure Config where
  /-- Adds a dump of header and payload to each packet. -/
  showHex : Bool := false
  filter : Filter := .all
  format : Format := .text
deriving DecidableEq

namespace Config

def text (config : Config) : String :=
  let format := match config.format with
    | .text => "Text"
    | .json => "Json"
  s!"PrinterConfig \x7b show_hex: {config.showHex}, filter: {config.filter.text}, " ++
    s!"format: {format} \x7d"

/-- The parameters of a monitor, if there is to be one; or the name that no filter has. -/
def choose (isOn showHex asJson : Bool) (filter : Option String) :
    Except String (Option Config) :=
  if isOn then
    let name := filter.getD "all"
    match Filter.ofName? name with
    | none => .error name
    | some filter => .ok (some ⟨showHex, filter, if asJson then .json else .text⟩)
  else .ok none

end Config

def arrow : Direction → String
  | .tx => Ansi.cyan ">>>"
  | .rx => Ansi.green "<<<"

def summary (decoded : Decoded) : String :=
  if decoded.resetMarker then
    arrow decoded.direction ++ " " ++ Ansi.boldMagenta "FLIP-BIT RESET"
  else match decoded.error with
    | some reason => arrow decoded.direction ++ " " ++ Ansi.boldRed "BAD" ++ "  " ++ reason.message
    | none =>
        let flags := (if decoded.flip then "F" else "-") ++ (if decoded.ack then "A" else "-")
        let message := match decoded.subHeader with
          | none => ""
          | some header =>
              s!"  0x{Hex.upperWord header.command} " ++ Ansi.bold header.command.name ++
                s!" ({header.length.toNat} bytes)"
        arrow decoded.direction ++ " " ++ Ansi.yellow flags ++
          s!" {decoded.index + 1}/{decoded.total} len={decoded.payloadLength}" ++ message

/-- The dump of header and payload, or of the marker. -/
def dump (decoded : Decoded) (bytes : Bytes) : String :=
  let shown := if decoded.resetMarker then bytes.take 2 else bytes.take (2 + decoded.payloadLength)
  "    " ++ Ansi.dim "HEX" ++ "  " ++ Hex.lowerList shown

def lines (config : Config) (direction : Direction) (bytes : Bytes) : List String :=
  if config.filter.shows direction then
    let decoded := Decoded.ofBytes direction bytes
    match config.format with
    | .json => [decoded.json]
    | .text => summary decoded :: (if config.showHex then [dump decoded bytes] else [])
  else []

end PacketLink.Monitor
