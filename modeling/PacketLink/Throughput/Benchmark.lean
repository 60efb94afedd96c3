import PacketLink.Session.Exchange

namespace PacketLink.Benchmark

/-! The ping-pong benchmark: one probe, encoded once, sent over and over until the time is up or the
session's token is raised. -/

open Throughput

structure Summary where
  roundTrips : UInt64
  elapsed : Duration
deriving DecidableEq

def tick (onRate : Rate → Action Unit) (counter : Counter) : Action Counter := do
  match counter.tick (← Action.now) with
  | (some rate, next) =>
      onRate rate
      return next
  | (none, next) => return next

/-- Round trips until `duration` has passed since `start` or the token is raised, `rounds` at
most. -/
def roundTrips (session : Session) (stream : PacketStream) (onRate : Rate → Action Unit)
    (start duration : Duration) : (rounds : Nat) → Counter → Attempt ExchangeError Counter
  | 0, _ => Attempt.unfinished
  | rounds + 1, counter => do
      let elapsed := (← Action.now) - start
      if elapsed < duration ∧ !(← Action.isCancelled session.token) then
        let (outcome, _) ← session.pingPong stream
        let _ ← Attempt.ofExcept outcome
        let counter ← tick onRate counter.recordRoundTrip
        roundTrips session stream onRate start duration rounds counter
      else return counter

/-- Runs the benchmark; `onRate` is called once for each window. -/
def run (session : Session) (probe : Message) (duration : Duration) (onRate : Rate → Action Unit)
    (rounds : Nat) : Action (Except ExchangeError Summary × Session) :=
  match session.prepare probe with
  | (.error reason, following) => return (.error reason, following)
  | (.ok stream, following) => do
      let start ← Action.now
      Action.log (.benchmarking probe.length duration)
      match ← (roundTrips following stream onRate start duration rounds
          (Counter.new session.config.ackEnabled start)).run with
      | .error reason => return (.error reason, following)
      | .ok counter =>
          return (.ok ⟨counter.roundTrips, (← Action.now) - start⟩, following)

end PacketLink.Benchmark
