import PacketLink.Host.Config
import PacketLink.Toml.Document

namespace PacketLink

/-! The text in which settings are stored: a TOML document. `HostConfig.read` reads what
`HostConfig.render` writes. Every key may be left out, and other keys do not count.

That settings are loaded as they were saved rests on what version 0.8 of the TOML library does:

* A record is written as one line `key = value` for each field, in their order. A field without a value
  has no line, and a field that is a record itself comes last, behind a blank line and the header
  `[key]`.
* Numbers are written in decimal and truth values as `true` and `false`.
* Integers of a document have 64 bits with their sign. A larger number is not written at all, and makes a
  document that holds it malformed.
* A document is read as a table of its keys, and a header opens the table of its key.
* A field is read from an integer that its type holds, or from a truth value, and from nothing else. A
  key that is missing leaves the field as the standard settings have it. -/

namespace Toml

namespace Value

def natural? (most : Nat) : Value → Option Nat
  | .integer value => if 0 ≤ value ∧ value ≤ most then some value.toNat else none
  | _ => none

def word? (value : Value) : Option UInt16 := (value.natural? 0xFFFF).map UInt16.ofNat

def doubleWord? (value : Value) : Option UInt32 := (value.natural? 0xFFFFFFFF).map UInt32.ofNat

/-- An integer of a document has 63 bits beside its sign. -/
def quadWord? (value : Value) : Option UInt64 :=
  (value.natural? 0xFFFFFFFFFFFFFFFF).map UInt64.ofNat

def boolean? : Value → Option Bool
  | .boolean value => some value
  | _ => none

end Value

namespace Table

/-- What a key holds, or `default` if the key is missing. -/
def field? {α : Type} (table : Table) (key : String) (default : α) (read : Value → Option α) :
    Option α :=
  match table.get? key with
  | none => some default
  | some value => read value

end Table

end Toml

namespace ReservedCommands

def ofTable? (table : Toml.Table) : Option ReservedCommands := do
  let standard : ReservedCommands := {}
  return {
    debugMessage := ← table.field? "debug_message" standard.debugMessage Toml.Value.word?
    retry := ← table.field? "retry" standard.retry Toml.Value.word?
    deviceStatus := ← table.field? "device_status" standard.deviceStatus Toml.Value.word? }

/-- Reserved commands in the order of the structure; elements beyond the third do not count. -/
def ofArray? (elements : List Toml.Value) : Option ReservedCommands := do
  let standard : ReservedCommands := {}
  let element (place : Nat) (default : Command) :=
    match elements[place]? with
    | none => some default
    | some value => value.word?
  return {
    debugMessage := ← element 0 standard.debugMessage
    retry := ← element 1 standard.retry
    deviceStatus := ← element 2 standard.deviceStatus }

/-- Reserved commands as a table or as an array. A date has none of the names, so it sets nothing. -/
def ofValue? : Toml.Value → Option ReservedCommands
  | .table entries => ofTable? entries
  | .array elements => ofArray? elements
  | .datetime _ => some {}
  | _ => none

end ReservedCommands

namespace HostConfig

inductive ReadError where
  /-- The bytes are no UTF-8 text. -/
  | notText
  /-- The text is no TOML document, or a value is none of its key. -/
  | malformed
deriving DecidableEq

def ofTable? (table : Toml.Table) : Option HostConfig := do
  let standard : HostConfig := {}
  return {
    vid := ← table.field? "vid" standard.vid Toml.Value.word?
    pid := ← table.field? "pid" standard.pid Toml.Value.word?
    readTimeoutMillis :=
      ← table.field? "read_timeout_ms" standard.readTimeoutMillis Toml.Value.quadWord?
    ack := ← table.field? "ack" standard.ack Toml.Value.boolean?
    busyRetryLimit :=
      ← table.field? "busy_retry_limit" none fun value => value.doubleWord?.map some
    reserved := ← table.field? "reserved" standard.reserved ReservedCommands.ofValue? }

def ofText? (text : String) : Option HostConfig := do ofTable? (← Toml.read text)

def read (bytes : ByteArray) : Except ReadError HostConfig :=
  match String.fromUTF8? bytes with
  | none => .error .notText
  | some text =>
      match ofText? text with
      | none => .error .malformed
      | some config => .ok config

/-- The timeout is beyond the integers of a TOML document. -/
inductive RenderError where
  | timeoutOutOfRange
deriving DecidableEq

def line (key value : String) : String := key ++ " = " ++ value ++ "\n"

def render (config : HostConfig) : Except RenderError String :=
  if config.readTimeoutMillis.toNat < Nat.pow 2 63 then
    .ok (line "vid" (toString config.vid.toNat) ++
      line "pid" (toString config.pid.toNat) ++
      line "read_timeout_ms" (toString config.readTimeoutMillis.toNat) ++
      line "ack" (toString config.ack) ++
      (match config.busyRetryLimit with
        | none => ""
        | some limit => line "busy_retry_limit" (toString limit.toNat)) ++
      "\n[reserved]\n" ++
      line "debug_message" (toString config.reserved.debugMessage.toNat) ++
      line "retry" (toString config.reserved.retry.toNat) ++
      line "device_status" (toString config.reserved.deviceStatus.toNat))
  else .error .timeoutOutOfRange

end HostConfig

end PacketLink
