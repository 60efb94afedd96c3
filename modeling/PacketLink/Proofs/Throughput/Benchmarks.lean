import PacketLink.Proofs.Link.Courses
import PacketLink.Proofs.Session.Requests
import PacketLink.Proofs.Throughput.Accounting
import PacketLink.Throughput.Benchmark

namespace PacketLink

/-! Benchmarks on a link, a clock and a token of any kind. Each completed round trip is recorded once and
has as many packets cross the link as the counter takes it for, so the windows hold exactly the bytes of
the completed round trips. -/

open Throughput

namespace Exchange

variable {config : SessionConfig} {token : CancelToken}

theorem sendPackets_moves (packets : List Packet) :
    (sendPackets config token packets).Moves packets.length := by
  induction packets with
  | nil => exact .pure ()
  | cons packet rest ih =>
      have all := Attempt.Moves.bind (.stop token .cancelled) fun _ =>
        .bind (.send .link packet.bytes) fun _ =>
          .bind (.note (.log (.sent packet))) fun _ => .bind (.wait config.packetSettle) fun _ => ih
      have sum : 0 + (1 + (0 + (0 + rest.length))) = (packet :: rest).length := by
        simp only [List.length_cons]
        omega
      exact sum ▸ all

/-- Packets that are read in one round trip. -/
def answersPerRoundTrip (config : SessionConfig) : Nat := if config.ackEnabled then 2 else 1

theorem roundTrip_moves (stream : PacketStream) :
    (roundTrip config token stream).Moves (stream.packets.length + answersPerRoundTrip config) := by
  have sent : (transmit config token stream).Moves (0 + stream.packets.length) :=
    .bind (.note _) fun _ => sendPackets_moves stream.packets
  rw [Nat.zero_add] at sent
  apply Attempt.Moves.bind sent
  intro _
  unfold answersPerRoundTrip
  split
  · exact .bind (.read _ _) fun _ => .bind (.read _ _) fun _ => .pure 2
  · exact .bind (.read _ _) fun _ => .pure 1

end Exchange

/-- A round trip comes to an end, and if it succeeds, all packets of the stream and their answers have
crossed the link. -/
theorem Session.pingPong_moves {session : Session} {stream : PacketStream} {history : List Answered}
    {result : Option (Except ExchangeError Nat × Session)}
    (course : (session.pingPong stream).Course history result) :
    ∃ outcome following, result = some (outcome, following) ∧ ∀ read, outcome = .ok read →
      crossings history = stream.packets.length + Exchange.answersPerRoundTrip session.config := by
  unfold pingPong at course
  split at course
  · rcases course.of_bind with ⟨stuck, -⟩ | ⟨outcome, front, rest, rfl, first, later⟩
    · obtain ⟨_, ended, -⟩ := Exchange.roundTrip_moves stream _ _ stuck
      cases ended
    · obtain ⟨_, ended, moved⟩ := Exchange.roundTrip_moves stream _ _ first
      obtain rfl := Option.some.inj ended
      obtain ⟨rfl, rfl⟩ := later.of_done
      refine ⟨outcome, session, rfl, fun read succeeded => ?_⟩
      rw [List.append_nil, moved read succeeded]
  · obtain ⟨rfl, rfl⟩ := course.of_done
    exact ⟨_, _, rfl, nofun⟩

namespace Benchmark

/-- One completed round trip of a benchmark. -/
structure Lap where
  /-- What the clock showed ahead of it. -/
  before : Duration
  /-- The course of the call. -/
  exchange : List Answered
  /-- The moment at which the counter looked at the clock. -/
  moment : Duration
  /-- The rate that was reported then, and the course of the report. -/
  rate : Option Rate
  report : List Answered

namespace Lap

def history (token : CancelToken) (lap : Lap) : List Answered :=
  ⟨.now, lap.before⟩ :: ⟨.isCancelled token, false⟩ ::
    (lap.exchange ++ ⟨.now, lap.moment⟩ :: lap.report)

/-- What a lap does to the counter. -/
def uses (lap : Lap) : List Use := [.record, .tick lap.moment]

/-- The call succeeded, and the rate, if there was one, was handed on. -/
structure Completed (session : Session) (stream : PacketStream) (onRate : Rate → Action Unit)
    (lap : Lap) : Prop where
  succeeded : ∃ read following, (session.pingPong stream).Course lap.exchange (some (.ok read, following))
  reported : ∀ rate, lap.rate = some rate → (onRate rate).Course lap.report (some ())
  silent : lap.rate = none → lap.report = []

end Lap

/-- How a benchmark ends behind its completed round trips: it is over, or one more call fails, or its
rounds are used up. -/
inductive Ending (session : Session) (stream : PacketStream) :
    Option (Except ExchangeError Unit) → List Answered → Prop
  | finished {steps : List Answered} (still : crossings steps = 0) : Ending session stream (some (.ok ())) steps
  | failed {looks exchange : List Answered} {reason : ExchangeError} {following : Session}
      (still : crossings looks = 0)
      (failing : (session.pingPong stream).Course exchange (some (.error reason, following))) :
      Ending session stream (some (.error reason)) (looks ++ exchange)
  | cut : Ending session stream none []

variable {session : Session} {stream : PacketStream} {onRate : Rate → Action Unit}
  {start duration : Duration} {history : List Answered}

/-- A tick looks at the clock and hands on the rate of a window that it closes. -/
theorem tick_course (returns : ∀ rate steps, ¬ (onRate rate).Course steps none) {counter : Counter}
    {result : Option Counter} (course : (tick onRate counter).Course history result) :
    ∃ moment report, history = ⟨.now, moment⟩ :: report ∧ result = some (counter.tick moment).2 ∧
      (∀ rate, (counter.tick moment).1 = some rate → (onRate rate).Course report (some ())) ∧
      ((counter.tick moment).1 = none → report = []) := by
  obtain ⟨moment, rest, rfl, later⟩ := course.of_step_bind
  refine ⟨moment, rest, rfl, ?_⟩
  cases ticked : counter.tick moment with
  | mk rate next =>
      rw [ticked] at later
      cases rate with
      | none =>
          obtain ⟨rfl, rfl⟩ := later.of_done
          exact ⟨rfl, nofun, fun _ => rfl⟩
      | some rate =>
          rcases later.of_bind with ⟨stuck, -⟩ | ⟨_, front, steps, rfl, first, last⟩
          · exact absurd stuck (returns rate _)
          · obtain ⟨rfl, rfl⟩ := last.of_done
            rw [List.append_nil]
            refine ⟨rfl, fun other same => ?_, nofun⟩
            obtain rfl := Option.some.inj same
            exact first

/-- The rates that laps reported are those of the run of the counter that they make up. -/
structure Drives (session : Session) (stream : PacketStream) (onRate : Rate → Action Unit)
    (counter : Counter) (laps : List Lap) : Prop where
  completed : ∀ lap ∈ laps, lap.Completed session stream onRate
  rates : laps.filterMap Lap.rate =
    (counter.play (laps.flatMap Lap.uses)).1.map Report.rate

theorem Drives.nil (counter : Counter) : Drives session stream onRate counter [] := ⟨nofun, rfl⟩

theorem Counter.play_lap (counter : Counter) (moment : Duration) (uses : List Use) :
    counter.play (.record :: .tick moment :: uses) =
      let next := (counter.recordRoundTrip.tick moment).2
      ((counter.recordRoundTrip.tick moment).1.toList.map (⟨moment, ·⟩) ++ (next.play uses).1,
        (next.play uses).2) := by
  rw [Counter.play, Counter.play]
  cases counter.recordRoundTrip.tick moment with
  | mk rate next => cases rate <;> rfl

theorem Drives.cons {counter : Counter} {lap : Lap} {laps : List Lap}
    (completed : lap.Completed session stream onRate)
    (rate : lap.rate = (counter.recordRoundTrip.tick lap.moment).1)
    (drives : Drives session stream onRate (counter.recordRoundTrip.tick lap.moment).2 laps) :
    Drives session stream onRate counter (lap :: laps) where
  completed := List.forall_mem_cons.mpr ⟨completed, drives.completed⟩
  rates := by
    rw [List.flatMap_cons, Lap.uses, List.cons_append, List.cons_append, List.nil_append,
      Counter.play_lap, List.filterMap_cons, rate, List.map_append, ← drives.rates]
    cases (counter.recordRoundTrip.tick lap.moment).1 <;> rfl

/-- What follows the looks at the clock and the token: the call fails, which ends the benchmark, or a
lap is completed. -/
theorem lap_course (returns : ∀ rate steps, ¬ (onRate rate).Course steps none) (before : Duration)
    {counter : Counter} {next : Counter → Attempt ExchangeError Counter}
    {result : Option (Except ExchangeError Counter)}
    (course : Attempt.Course (do
        let (outcome, _) ← session.pingPong stream
        let _ ← Attempt.ofExcept outcome
        let counter ← tick onRate counter.recordRoundTrip
        next counter) history result) :
    (∃ reason following, (session.pingPong stream).Course history (some (.error reason, following)) ∧
      result = some (.error reason)) ∨
    ∃ (lap : Lap) (rest : List Answered), ⟨.now, before⟩ :: ⟨.isCancelled session.token, false⟩ :: history =
        lap.history session.token ++ rest ∧
      lap.Completed session stream onRate ∧
      lap.rate = (counter.recordRoundTrip.tick lap.moment).1 ∧
      (next (counter.recordRoundTrip.tick lap.moment).2).Course rest result := by
  rcases course.of_lift_bind with ⟨stuck, -⟩ | ⟨⟨outcome, following⟩, exchange, steps, rfl, called, rest⟩
  · obtain ⟨_, _, ended, -⟩ := Session.pingPong_moves stuck
    cases ended
  cases outcome with
  | error reason =>
      obtain ⟨rfl, rfl⟩ := Action.Course.of_done rest
      rw [List.append_nil]
      exact .inl ⟨reason, following, called, rfl⟩
  | ok read =>
      have ticks : Attempt.Course (liftM (tick onRate counter.recordRoundTrip) >>= next) steps result := rest
      rcases ticks.of_lift_bind with ⟨stuck, -⟩ | ⟨ticked, front, later, rfl, first, last⟩
      · obtain ⟨_, _, -, ended, -⟩ := tick_course returns stuck
        cases ended
      · obtain ⟨moment, report, rfl, same, reported, silent⟩ := tick_course returns first
        obtain rfl := Option.some.inj same
        refine .inr ⟨⟨before, exchange, moment, _, report⟩, later, ?_,
          ⟨⟨read, following, called⟩, reported, silent⟩, rfl, last⟩
        simp only [Lap.history, List.cons_append, List.append_assoc]

theorem roundTrips_course (returns : ∀ rate steps, ¬ (onRate rate).Course steps none) {rounds : Nat}
    {counter : Counter} {result : Option (Except ExchangeError Counter)}
    (course : (roundTrips session stream onRate start duration rounds counter).Course history result) :
    ∃ laps ending, history = laps.flatMap (Lap.history session.token) ++ ending ∧
      laps.length ≤ rounds ∧ Drives session stream onRate counter laps ∧
      Ending session stream (result.map (·.map fun _ => ())) ending ∧
      ∀ last, result = some (.ok last) → last = (counter.play (laps.flatMap Lap.uses)).2 := by
  induction rounds generalizing counter history with
  | zero =>
      cases course
      exact ⟨[], [], rfl, Nat.zero_le _, .nil counter, .cut, nofun⟩
  | succ rounds ih =>
      obtain ⟨before, _, rfl, looked⟩ := Attempt.Course.of_ask course
      obtain ⟨cancelled, _, rfl, decided⟩ := Attempt.Course.of_ask looked
      split at decided
      · rename_i goesOn
        have unraised : cancelled = false := by simpa using goesOn.2
        subst unraised
        rcases lap_course returns before decided with
          ⟨reason, following, failing, rfl⟩ | ⟨lap, rest, same, completed, rate, later⟩
        · have unmoved : crossings [⟨.now, before⟩, ⟨.isCancelled session.token, false⟩] = 0 := rfl
          exact ⟨[], _, rfl, Nat.zero_le _, .nil counter, .failed unmoved failing, nofun⟩
        · obtain ⟨laps, ending, rfl, few, drives, ends, last⟩ := ih later
          refine ⟨lap :: laps, ending, ?_, Nat.succ_le_succ few, .cons completed rate drives, ends,
            fun final finished => ?_⟩
          · rw [same, List.flatMap_cons, List.append_assoc]
          · rw [last final finished, List.flatMap_cons, Lap.uses, List.cons_append, List.cons_append,
              List.nil_append, Counter.play_lap]
      · obtain ⟨rfl, rfl⟩ := Action.Course.of_done decided
        refine ⟨[], _, rfl, Nat.zero_le _, .nil counter, .finished rfl, fun last finished => ?_⟩
        exact (Except.ok.inj (Option.some.inj finished)).symm

/-- A benchmark of a prepared stream: the clock is read, the log told, and then come the laps. -/
theorem run_course {following : Session} {probe : Message} {rounds : Nat}
    {result : Option (Except ExchangeError Summary × Session)}
    (prepared : session.prepare probe = (.ok stream, following))
    (returns : ∀ rate steps, ¬ (onRate rate).Course steps none)
    (course : (run session probe duration onRate rounds).Course history result) :
    ∃ start laps ending,
      history = ⟨.now, start⟩ :: ⟨.note (.log (.benchmarking probe.length duration)), ()⟩ ::
        (laps.flatMap (Lap.history following.token) ++ ending) ∧
      laps.length ≤ rounds ∧
      Drives following stream onRate (Counter.new session.config.ackEnabled start) laps ∧
      Ending following stream (result.map (·.1.map fun _ => ())) ending ∧
      ∀ summary after, result = some (.ok summary, after) → summary.roundTrips =
        ((Counter.new session.config.ackEnabled start).play (laps.flatMap Lap.uses)).2.roundTrips := by
  unfold run at course
  rw [prepared] at course
  obtain ⟨start, _, rfl, noted⟩ := course.of_step_bind
  obtain ⟨_, _, rfl, tripped⟩ := noted.of_step_bind
  rcases tripped.of_bind with ⟨stuck, rfl⟩ | ⟨outcome, front, rest, rfl, trips, last⟩
  · obtain ⟨laps, ending, rfl, few, drives, ends, -⟩ := roundTrips_course returns stuck
    exact ⟨start, laps, ending, rfl, few, drives, ends, nofun⟩
  obtain ⟨laps, ending, rfl, few, drives, ends, final⟩ := roundTrips_course returns trips
  cases outcome with
  | error reason =>
      obtain ⟨rfl, rfl⟩ := last.of_done
      rw [List.append_nil]
      exact ⟨start, laps, ending, rfl, few, drives, ends, nofun⟩
  | ok counter =>
      obtain ⟨finish, _, rfl, returned⟩ := last.of_step_bind
      obtain ⟨rfl, rfl⟩ := returned.of_done
      refine ⟨start, laps, ending ++ [⟨.now, finish⟩], ?_, few, drives, .finished ?_, ?_⟩
      · rw [List.append_assoc]
      · cases ends with
        | finished still =>
            rw [crossings_append, still]
            rfl
      · intro summary after same
        cases same
        rw [← final counter rfl]

theorem countP_uses (laps : List Lap) :
    (laps.flatMap Lap.uses).countP Use.isRecord = laps.length := by
  induction laps with
  | nil => rfl
  | cons lap laps ih => simp [Lap.uses, ih]

/-- As many packets cross the link in a lap as the counter takes it for. -/
theorem Lap.Completed.crossings_eq {lap : Lap} (completed : lap.Completed session stream onRate)
    (single : stream.packets.length = 1) (start : Duration) :
    crossings lap.exchange = (Counter.new session.config.ackEnabled start).packetsPerRoundTrip := by
  obtain ⟨read, following, course⟩ := completed.succeeded
  obtain ⟨outcome, _, ended, moved⟩ := Session.pingPong_moves course
  cases ended
  rw [moved read rfl, single, Exchange.answersPerRoundTrip, Counter.packetsPerRoundTrip, Counter.new]
  cases session.config.ackEnabled <;> rfl

theorem sumOf_crossings {laps : List Lap} (completed : ∀ lap ∈ laps, lap.Completed session stream onRate)
    (single : stream.packets.length = 1) (start : Duration) :
    sumOf (fun lap => crossings lap.exchange) laps =
      laps.length * (Counter.new session.config.ackEnabled start).packetsPerRoundTrip := by
  induction laps with
  | nil => simp [sumOf]
  | cons lap laps ih =>
      rw [List.forall_mem_cons] at completed
      rw [sumOf, completed.1.crossings_eq single start, ih completed.2, List.length_cons, Nat.succ_mul,
        Nat.add_comm]

/-- Whatever is recorded and whenever the clock is looked at, the rates that were reported and the open
window make up 64 bytes for each round trip, and reports are at least a second apart. In a benchmark
with a probe of one packet, whatever the link, the clock and the token do, the windows hold 64 bytes for
each packet that crossed the link in the completed round trips, and those are what the summary counts.
All counts are 64-bit words: the sums are those of words, and of numbers as long as the bytes that they
count are fewer than `2 ^ 64`. -/
theorem bytes_conserved :
    (∀ (ackEnabled : Bool) (start : Duration) (uses : List Use),
      let played := (Counter.new ackEnabled start).play uses
      let recorded := uses.countP Use.isRecord
      (played.2.roundTrips = UInt64.ofNat recorded ∧
        sumOf (·.rate.unidirectional) played.1 + played.2.windowBytes = 64 * played.2.roundTrips ∧
        ∀ report ∈ played.1, report.rate.cumulated =
          report.rate.unidirectional * (if ackEnabled then 3 else 2)) ∧
      List.IsChain (fun earlier later => earlier + .ofSeconds 1 ≤ later)
        (start :: played.1.map Report.moment) ∧
      (64 * recorded < 2 ^ 64 → (played.2.roundTrips : Nat) = recorded ∧
        sumOf (fun report => (report.rate.unidirectional : Nat)) played.1 + played.2.windowBytes =
          64 * (played.2.roundTrips : Nat)) ∧
      (64 * recorded * (if ackEnabled then 3 else 2) < 2 ^ 64 →
        ∀ report ∈ played.1, (report.rate.cumulated : Nat) =
          report.rate.unidirectional * (if ackEnabled then 3 else 2))) ∧
    ∀ (session : Session) (probe : Message) (duration : Duration) (onRate : Rate → Action Unit)
      (rounds : Nat), session.connected = true → 4 + probe.length ≤ 62 →
      (∀ rate steps, ¬ (onRate rate).Course steps none) → ∀ history result,
      (run session probe duration onRate rounds).Course history result →
      ∃ stream following start laps ending,
        session.prepare probe = (.ok stream, following) ∧
        history = ⟨.now, start⟩ :: ⟨.note (.log (.benchmarking probe.length duration)), ()⟩ ::
          (laps.flatMap (Lap.history following.token) ++ ending) ∧
        laps.length ≤ rounds ∧ (∀ lap ∈ laps, lap.Completed following stream onRate) ∧
        Ending following stream (result.map (·.1.map fun _ => ())) ending ∧
        (let played := (Counter.new session.config.ackEnabled start).play (laps.flatMap Lap.uses)
        let crossed := 64 * sumOf (fun lap => crossings lap.exchange) laps
        laps.filterMap Lap.rate = played.1.map Report.rate ∧
        UInt64.ofNat crossed = sumOf (·.rate.cumulated) played.1 + played.2.rate.cumulated ∧
        (crossed < 2 ^ 64 → crossed =
          sumOf (fun report => (report.rate.cumulated : Nat)) played.1 + played.2.rate.cumulated)) ∧
        ∀ summary after, result = some (.ok summary, after) →
          summary.roundTrips = UInt64.ofNat laps.length ∧
          (laps.length < 2 ^ 64 → (summary.roundTrips : Nat) = laps.length) := by
  constructor
  · intro ackEnabled start uses played recorded
    have trips : played.2.roundTrips = UInt64.ofNat recorded :=
      (Counter.play_roundTrips _ uses).trans (UInt64.zero_add _)
    refine ⟨⟨trips, ?_, fun report member => ?_⟩, Counter.play_moments (.new ackEnabled start) uses,
      fun fits => ?_, fun fits => ?_⟩
    · rw [trips]
      exact (Counter.play_bytes _ uses).trans (UInt64.zero_add _)
    · rw [Counter.play_cumulated _ uses report member]
      cases ackEnabled <;> rfl
    · have number : (played.2.roundTrips : Nat) = recorded := by
        rw [trips, UInt64.toNat_ofNat_of_lt' (Nat.lt_of_le_of_lt (Nat.le_mul_of_pos_left _ (by decide)) fits)]
      rw [number]
      refine ⟨rfl, (Counter.play_toNat_bytes (.new ackEnabled start) uses ?_).trans (Nat.zero_add _)⟩
      rwa [Counter.new, UInt64.toNat_zero, Nat.zero_add]
    · apply Counter.play_toNat_cumulated
      rwa [Counter.new, UInt64.toNat_zero, Nat.zero_add]
  · intro session probe duration onRate rounds connected short returns history result course
    have single := probe.encode_single session.nextFlip session.config.ackEnabled short
    have prepared : session.prepare probe =
        (.ok ⟨session.nextFlip, [probe.single session.nextFlip session.config.ackEnabled]⟩,
          session.advanced) := by
      simp only [Session.prepare, connected, single, Session.advanced, if_pos]
    obtain ⟨start, laps, ending, same, few, drives, ends, summed⟩ := run_course prepared returns course
    have crossed : 64 * sumOf (fun lap => crossings lap.exchange) laps =
        64 * laps.length * (Counter.new session.config.ackEnabled start).packetsPerRoundTrip := by
      rw [sumOf_crossings drives.completed rfl start, Nat.mul_assoc]
      rfl
    refine ⟨_, session.advanced, start, laps, ending, prepared, same, few, drives.completed, ends,
      ⟨drives.rates, ?_, fun fits => ?_⟩, fun summary after finished => ?_⟩
    · rw [crossed, Counter.play_total, countP_uses, UInt64.ofNat_mul, UInt64.ofNat_mul]
      simp only [Counter.new, UInt64.zero_add]
      rfl
    · rw [crossed] at fits ⊢
      have total := Counter.play_toNat_total (.new session.config.ackEnabled start)
        (laps.flatMap Lap.uses)
      simp only [countP_uses, Counter.new, UInt64.toNat_zero, Nat.zero_add] at total fits ⊢
      exact (total fits).symm
    · have counted : summary.roundTrips = UInt64.ofNat laps.length := by
        rw [summed summary after finished, Counter.play_roundTrips, countP_uses]
        exact UInt64.zero_add _
      exact ⟨counted, fun fits => by rw [counted, UInt64.toNat_ofNat_of_lt' fits]⟩

/-- With acknowledgments, three packets cross the link in each of two round trips, each of which takes
the second that is waited behind the packet. -/
theorem bytes_conserved_in_two_laps :
    let session := Session.resume { ackEnabled := true, packetSettle := .ofSeconds 1 } ⟨0⟩ .clear
    let onRate : Rate → Action Unit := fun rate => Action.note (.rate rate)
    session.connected = true ∧ 4 + (Message.mk .ping [1, 2, 3, 4]).length ≤ 62 ∧
      (∀ rate steps, ¬ (onRate rate).Course steps none) ∧
      ∃ history summary after,
        (run session ⟨.ping, [1, 2, 3, 4]⟩ (.ofSeconds 2) onRate 3).Course history
          (some (.ok summary, after)) ∧
        ∃ (start : Duration) (laps : List Lap),
          laps.length = 2 ∧ sumOf (fun lap => crossings lap.exchange) laps = 6 ∧
          let played := (Counter.new true start).play (laps.flatMap Lap.uses)
          laps.filterMap Lap.rate = played.1.map Report.rate ∧
          sumOf (fun report => (report.rate.cumulated : Nat)) played.1 + played.2.rate.cumulated =
            384 := by
  intro session onRate
  have returns : ∀ rate steps, ¬ (onRate rate).Course steps none := by
    intro rate steps course
    cases course.of_note
  have ran : ((run session ⟨.ping, [1, 2, 3, 4]⟩ (.ofSeconds 2) onRate 3).run Link.scripted
      ⟨{ reads := List.replicate 4 (.packet []) }, .zero, [], #[]⟩).1 =
        some (.ok ⟨2, .ofSeconds 2⟩, session.advanced) := by
    decide +kernel
  obtain ⟨history, _, course, -⟩ := Action.run_course Link.scripted
    (run session ⟨.ping, [1, 2, 3, 4]⟩ (.ofSeconds 2) onRate 3)
    ⟨{ reads := List.replicate 4 (.packet []) }, .zero, [], #[]⟩
  rw [ran] at course
  obtain ⟨_, _, start, laps, _, prepared, _, few, completed, _, ⟨rates, _, conserved⟩, trips⟩ :=
    bytes_conserved.2 session ⟨.ping, [1, 2, 3, 4]⟩ (.ofSeconds 2) onRate 3 rfl (by decide) returns
      history _ course
  have two : laps.length = 2 := ((trips _ _ rfl).2 (by omega)).symm
  cases prepared
  have six : sumOf (fun lap => crossings lap.exchange) laps = 6 := by
    rw [sumOf_crossings completed rfl start, two]
    rfl
  rw [six] at conserved
  exact ⟨rfl, by decide, returns, history, _, _, course, start, laps, two, six, rates,
    (conserved (by decide)).symm⟩

end Benchmark

end PacketLink
