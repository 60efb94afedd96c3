import PacketLink.Host.ConfigFile
import PacketLink.Proofs.Toml.Leaves
import PacketLink.Proofs.Toml.Settings

namespace PacketLink

/-! The text of stored settings is read as the settings that were stored, and no text is read as settings
that could not be stored. -/

namespace Toml.Setting

def number (key : String) (value : Nat) (bare : Bare key) (small : value < Nat.pow 2 63) : Setting :=
  ⟨key, toString value, .integer value, bare, spelled_number small⟩

def boolean (key : String) (value : Bool) (bare : Bare key) : Setting :=
  ⟨key, toString value, .boolean value, bare, spelled_boolean value⟩

end Toml.Setting

namespace HostConfig

open Toml

theorem toList_line (key value : String) :
    (line key value).toList = key.toList ++ ' ' :: '=' :: ' ' :: (value.toList ++ ['\n']) := by
  have equals : " = ".toList = [' ', '=', ' '] := rfl
  have feed : "\n".toList = ['\n'] := rfl
  simp [line, equals, feed]

def word (key : String) (value : UInt16) (bare : Bare key) : Setting :=
  .number key value.toNat bare (Nat.lt_trans value.toNat_lt (by decide))

variable (config : HostConfig)

/-- The settings of the document. -/
def outer (small : config.readTimeoutMillis.toNat < Nat.pow 2 63) : List Setting :=
  word "vid" config.vid ⟨by decide, by decide⟩ ::
    word "pid" config.pid ⟨by decide, by decide⟩ ::
      .number "read_timeout_ms" config.readTimeoutMillis.toNat ⟨by decide, by decide⟩ small ::
        .boolean "ack" config.ack ⟨by decide, by decide⟩ ::
          match config.busyRetryLimit with
          | none => []
          | some limit =>
              [.number "busy_retry_limit" limit.toNat ⟨by decide, by decide⟩
                (Nat.lt_trans limit.toNat_lt (by decide))]

/-- The settings of the table of reserved commands. -/
def inner : List Setting :=
  [word "debug_message" config.reserved.debugMessage ⟨by decide, by decide⟩,
    word "retry" config.reserved.retry ⟨by decide, by decide⟩,
    word "device_status" config.reserved.deviceStatus ⟨by decide, by decide⟩]

theorem lines_of_render {config : HostConfig} {text : String} (rendered : config.render = .ok text) :
    ∃ small, text.toList = (config.outer small).flatMap Setting.line ++
      '\n' :: '[' :: ("reserved".toList ++ ']' :: '\n' :: config.inner.flatMap Setting.line) := by
  unfold render at rendered
  split at rendered
  · rename_i small
    cases rendered
    refine ⟨small, ?_⟩
    have header : "\n[reserved]\n".toList = '\n' :: '[' :: ("reserved".toList ++ [']', '\n']) := rfl
    cases limit : config.busyRetryLimit <;>
      simp [toList_line, header, outer, inner, limit, word, Setting.number, Setting.boolean, Setting.line]
  · cases rendered

/-- What the lines of settings are read as. -/
def table (config : HostConfig) : Table :=
  ("vid", .integer config.vid.toNat) :: ("pid", .integer config.pid.toNat) ::
    ("read_timeout_ms", .integer config.readTimeoutMillis.toNat) :: ("ack", .boolean config.ack) ::
      ((config.busyRetryLimit.map fun limit => ("busy_retry_limit", Value.integer limit.toNat)).toList ++
        [("reserved", .table [("debug_message", .integer config.reserved.debugMessage.toNat),
          ("retry", .integer config.reserved.retry.toNat),
          ("device_status", .integer config.reserved.deviceStatus.toNat)])])

theorem word?_toNat (word : UInt16) : (Value.integer word.toNat).word? = some word := by
  have small := word.toNat_lt
  simp [Value.word?, Value.natural?]
  omega

theorem doubleWord?_toNat (word : UInt32) : (Value.integer word.toNat).doubleWord? = some word := by
  have small := word.toNat_lt
  simp [Value.doubleWord?, Value.natural?]
  omega

theorem quadWord?_toNat (word : UInt64) : (Value.integer word.toNat).quadWord? = some word := by
  have small := word.toNat_lt
  simp [Value.quadWord?, Value.natural?]
  omega

theorem ofTable?_table (config : HostConfig) : ofTable? config.table = some config := by
  have reserved : ReservedCommands.ofValue? (.table [
      ("debug_message", .integer config.reserved.debugMessage.toNat),
      ("retry", .integer config.reserved.retry.toNat),
      ("device_status", .integer config.reserved.deviceStatus.toNat)]) = some config.reserved := by
    simp [ReservedCommands.ofValue?, ReservedCommands.ofTable?, Table.field?, Table.get?, List.find?,
      word?_toNat]
  obtain ⟨vid, pid, millis, ack, limit, codes⟩ := config
  cases limit <;>
    simp [table, ofTable?, Table.field?, Table.get?, List.find?, word?_toNat, quadWord?_toNat,
      doubleWord?_toNat, Value.boolean?, reserved]

theorem read_of_render {config : HostConfig} {text : String} (rendered : config.render = .ok text) :
    Toml.read text = some config.table := by
  obtain ⟨small, lines⟩ := lines_of_render rendered
  have inside : (config.inner.map Setting.key).Nodup := by
    simp [inner, word, Setting.number]
  have outside : ((config.outer small).map Setting.key ++ ["reserved"]).Nodup := by
    cases limit : config.busyRetryLimit <;>
      simp [outer, limit, word, Setting.number, Setting.boolean]
  rw [read_settings ⟨by decide, by decide⟩ outside inside lines]
  cases limit : config.busyRetryLimit <;>
    simp [table, outer, inner, limit, word, Setting.number, Setting.boolean]

/-- Settings that were rendered are read back. -/
theorem read_render {config : HostConfig} {text : String} (rendered : config.render = .ok text) :
    HostConfig.read text.toUTF8 = .ok config := by
  have decoded : String.fromUTF8? text.toUTF8 = some text := by
    simp [String.fromUTF8?, String.fromUTF8, text.isValidUTF8]
  have described : ofText? text = some config := by
    simp [ofText?, read_of_render rendered, ofTable?_table]
  rw [HostConfig.read, decoded]
  simp [described]

/-! ## Settings that can be stored -/

theorem quadWord?_small {value : Value} {number : UInt64} (bounded : value.Bounded)
    (read : value.quadWord? = some number) : number.toNat < Nat.pow 2 63 := by
  obtain ⟨natural, found, rfl⟩ := Option.map_eq_some_iff.mp read
  cases bounded with
  | @integer value least most =>
      simp only [Value.natural?, Option.ite_none_right_eq_some, Option.some.injEq] at found
      obtain ⟨⟨positive, -⟩, rfl⟩ := found
      rw [UInt64.toNat_ofNat']
      omega
  | string | float | boolean | datetime | array | table => cases found

theorem ofTable?_small {table : Table} {config : HostConfig} (bounded : ∀ entry ∈ table, entry.2.Bounded)
    (read : ofTable? table = some config) : config.readTimeoutMillis.toNat < Nat.pow 2 63 := by
  simp only [ofTable?, Option.bind_eq_bind, Option.bind_eq_some_iff, Option.pure_def, Option.some.injEq] at read
  obtain ⟨vid, -, pid, -, millis, found, ack, -, limit, -, reserved, -, rfl⟩ := read
  unfold Table.field? at found
  split at found
  · cases found
    exact (by decide : (5000 : UInt64).toNat < Nat.pow 2 63)
  · rename_i value held
    obtain ⟨entry, present, rfl⟩ := Option.map_eq_some_iff.mp held
    exact quadWord?_small (bounded entry (List.mem_of_find?_eq_some present)) found

/-- The timeout of settings that were read is within the integers of a document. -/
theorem read_small {bytes : ByteArray} {config : HostConfig} (loaded : HostConfig.read bytes = .ok config) :
    config.readTimeoutMillis.toNat < Nat.pow 2 63 := by
  unfold HostConfig.read at loaded
  split at loaded
  · cases loaded
  · split at loaded
    · cases loaded
    · rename_i text _ other described
      cases loaded
      obtain ⟨table, parsed, read⟩ := Option.bind_eq_some_iff.mp described
      exact ofTable?_small (bounded_of_read parsed) read

theorem render_of_small {config : HostConfig} (small : config.readTimeoutMillis.toNat < Nat.pow 2 63) :
    ∃ text, config.render = .ok text := ⟨_, if_pos small⟩

theorem render_of_large {config : HostConfig} (large : Nat.pow 2 63 ≤ config.readTimeoutMillis.toNat) :
    config.render = .error .timeoutOutOfRange := if_neg (Nat.not_lt.mpr large)

theorem apply_small {config : HostConfig} {overrides : Overrides}
    (stored : config.readTimeoutMillis.toNat < Nat.pow 2 63)
    (given : ∀ millis, overrides.readTimeoutMillis = some millis → millis.toNat < Nat.pow 2 63) :
    (config.apply overrides).readTimeoutMillis.toNat < Nat.pow 2 63 := by
  cases asked : overrides.readTimeoutMillis with
  | none => simpa [apply, asked] using stored
  | some millis => simpa [apply, asked] using given millis asked

/-- Asking for the same settings again changes nothing. -/
theorem apply_again (config : HostConfig) (overrides : Overrides) :
    (config.apply overrides).apply overrides = config.apply overrides := by
  obtain ⟨vid, pid, millis, ack⟩ := overrides
  cases vid <;> cases pid <;> cases millis <;> cases ack <;> simp [apply]

end HostConfig

end PacketLink
