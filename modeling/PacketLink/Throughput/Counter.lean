import PacketLink.Duration
import PacketLink.Message

namespace PacketLink

/-! Throughput of ping-pong round trips: bytes counted in windows of at least a second. A round trip
is one packet each way, and one more packet back when acknowledgments are on. -/

namespace Throughput

/-- The shortest window for which a rate is reported. -/
def interval : Duration := .ofSeconds 1

/-- A 64-bit count as a number. -/
instance countToNat : Coe UInt64 Nat := ⟨UInt64.toNat⟩

/-- Bytes of one window. -/
structure Rate where
  /-- From the host to the device. -/
  unidirectional : UInt64
  /-- In all directions, acknowledgments included. -/
  cumulated : UInt64
deriving DecidableEq

-- The counts are machine words: past their largest value they start again at zero.
structure Counter where
  ackEnabled : Bool
  windowStart : Duration
  windowBytes : UInt64
  roundTrips : UInt64
deriving DecidableEq

namespace Counter

def new (ackEnabled : Bool) (now : Duration) : Counter := ⟨ackEnabled, now, 0, 0⟩

def recordRoundTrip (counter : Counter) : Counter :=
  { counter with
    windowBytes := counter.windowBytes + UInt64.ofNat Limits.packet
    roundTrips := counter.roundTrips + 1 }

def recordRoundTrips (counter : Counter) (count : Nat) : Counter :=
  { counter with
    windowBytes := counter.windowBytes + UInt64.ofNat (count * Limits.packet)
    roundTrips := counter.roundTrips + UInt64.ofNat count }

theorem recordRoundTrips_zero (counter : Counter) : counter.recordRoundTrips 0 = counter := by
  simp [recordRoundTrips]

theorem recordRoundTrip_recordRoundTrips (counter : Counter) (count : Nat) :
    counter.recordRoundTrip.recordRoundTrips count = counter.recordRoundTrips (count + 1) := by
  simp only [recordRoundTrips, recordRoundTrip, Nat.add_comm count, Nat.add_mul, Nat.one_mul,
    UInt64.ofNat_add, UInt64.add_assoc]
  rfl

/-- Packets that cross the link in one round trip. -/
def packetsPerRoundTrip (counter : Counter) : Nat := if counter.ackEnabled then 3 else 2

def rate (counter : Counter) : Rate :=
  ⟨counter.windowBytes, counter.windowBytes * UInt64.ofNat counter.packetsPerRoundTrip⟩

/-- Closes the window, and reports it, once a full interval has passed since it began. A moment
before its beginning counts as no time passed. -/
def tick (counter : Counter) (now : Duration) : Option Rate × Counter :=
  if now - counter.windowStart < interval then (none, counter)
  else (some counter.rate, { counter with windowStart := now, windowBytes := 0 })

end Counter

end Throughput

end PacketLink
