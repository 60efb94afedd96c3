import PacketLink.Proofs.Throughput.Benchmarks

namespace PacketLink.Throughput

/-! The windows of a throughput counter.

A window is closed by the first look at the clock that comes an interval or more after it was opened,
however late that is. The rate that is reported then is the bytes of the window, as 64-bit words and not
divided by its length: bytes a second for a window of one second, and more than that for a longer one. -/

/-- The moment at which a use looks at the clock. -/
def Use.moment? : Use → Option Duration
  | .record => none
  | .tick now => some now

/-- Whether a figure in bytes a second comes, over a span, to more than `bytes`. -/
def Overstates (figure : Nat) (span : Duration) (bytes : Nat) : Prop :=
  bytes * 1000000000 < figure * span.nanos

instance (figure : Nat) (span : Duration) (bytes : Nat) : Decidable (Overstates figure span bytes) :=
  inferInstanceAs (Decidable (bytes * 1000000000 < figure * span.nanos))

/-- A window that was closed. -/
structure Window where
  opening : Duration
  /-- What was done while it was open. -/
  uses : List Use
  closing : Duration
deriving DecidableEq

namespace Window

def span (window : Window) : Duration := window.closing - window.opening

def roundTrips (window : Window) : Nat := window.uses.countP Use.isRecord

/-- Bytes that crossed the link from the host to the device. -/
def sent (window : Window) : Nat := 64 * window.roundTrips

/-- Bytes that crossed the link in any direction. -/
def crossed (ackEnabled : Bool) (window : Window) : Nat :=
  (if ackEnabled then 192 else 128) * window.roundTrips

/-- The report of its bytes, whatever its span. -/
def report (ackEnabled : Bool) (window : Window) : Report :=
  ⟨window.closing, UInt64.ofNat window.sent, UInt64.ofNat (window.crossed ackEnabled)⟩

theorem sent_le_crossed (ackEnabled : Bool) (window : Window) :
    window.sent ≤ window.crossed ackEnabled := by
  unfold sent crossed
  split <;> omega

end Window

/-- Uses without a look at the clock an interval or more after the opening. -/
def Early (opening : Duration) (uses : List Use) : Prop :=
  ∀ now, .tick now ∈ uses → now < opening + interval

/-- A run, from the opening of its first window: the windows that it closed, and what was done in the
one that it left open. -/
inductive Windows : Duration → List Use → List Window → List Use → Prop
  | left {opening : Duration} {rest : List Use} (early : Early opening rest) :
      Windows opening rest [] rest
  | closed {opening closing : Duration} {uses later : List Use} {windows : List Window}
      {rest : List Use} (early : Early opening uses) (due : opening + interval ≤ closing)
      (following : Windows closing later windows rest) :
      Windows opening (uses ++ .tick closing :: later) (⟨opening, uses, closing⟩ :: windows) rest

theorem interval_nanos (moment : Duration) : (moment + interval).nanos = moment.nanos + 1000000000 :=
  rfl

variable {opening : Duration} {uses rest : List Use} {windows : List Window}

theorem Early.concat {use : Use} (early : Early opening uses)
    (last : ∀ now, use.moment? = some now → now < opening + interval) :
    Early opening (uses ++ [use]) := by
  intro now member
  rcases List.mem_append.mp member with earlier | same
  · exact early now earlier
  · obtain rfl := List.mem_singleton.mp same
    exact last now rfl

theorem early_record (opening : Duration) : Early opening [.record] :=
  fun _ member => nomatch List.mem_singleton.mp member

/-- Every run has its windows. -/
theorem exists_windows (opening : Duration) (uses : List Use) :
    ∃ windows rest, Windows opening uses windows rest := by
  -- `held` is what was done so far in the window that is open.
  suffices all : ∀ held, Early opening held →
      ∃ windows rest, Windows opening (held ++ uses) windows rest from all [] nofun
  induction uses generalizing opening with
  | nil =>
      intro held early
      rw [List.append_nil]
      exact ⟨[], held, .left early⟩
  | cons use uses ih =>
      intro held early
      by_cases closes : ∃ closing, use = .tick closing ∧ opening + interval ≤ closing
      · obtain ⟨closing, rfl, due⟩ := closes
        obtain ⟨windows, rest, following⟩ := ih closing [] nofun
        exact ⟨_, rest, .closed early due following⟩
      · have still : Early opening (held ++ [use]) := by
          apply early.concat
          intro now looked
          cases use with
          | record => cases looked
          | tick moment =>
              obtain rfl := Option.some.inj looked
              exact Nat.lt_of_not_le fun due => closes ⟨moment, rfl, due⟩
        obtain ⟨windows, rest, divided⟩ := ih opening (held ++ [use]) still
        rw [List.append_assoc] at divided
        exact ⟨windows, rest, divided⟩

namespace Counter

theorem tick_of_early {counter : Counter} {now : Duration}
    (early : now < counter.windowStart + interval) : counter.tick now = (none, counter) := by
  have within : now - counter.windowStart < interval := by
    change now.nanos < (counter.windowStart + interval).nanos at early
    rw [interval_nanos] at early
    change now.nanos - counter.windowStart.nanos < 1000000000
    omega
  rw [tick, if_pos within]

theorem tick_of_due {counter : Counter} {now : Duration}
    (due : counter.windowStart + interval ≤ now) :
    counter.tick now = (some counter.rate, { counter with windowStart := now, windowBytes := 0 }) := by
  have passed : ¬ now - counter.windowStart < interval := by
    change (counter.windowStart + interval).nanos ≤ now.nanos at due
    rw [interval_nanos] at due
    change ¬ now.nanos - counter.windowStart.nanos < 1000000000
    omega
  rw [tick, if_neg passed]

/-- The rate of a counter that was just opened, when it has recorded a window's round trips. -/
theorem rate_recordRoundTrips {counter : Counter} (empty : counter.windowBytes = 0) (window : Window) :
    (counter.recordRoundTrips window.roundTrips).rate = (window.report counter.ackEnabled).rate := by
  have sent : (counter.recordRoundTrips window.roundTrips).windowBytes = UInt64.ofNat window.sent := by
    rw [recordRoundTrips, empty, UInt64.zero_add, Window.sent, Nat.mul_comm]
    rfl
  have packets : window.crossed counter.ackEnabled =
      window.sent * (counter.recordRoundTrips window.roundTrips).packetsPerRoundTrip := by
    unfold Window.crossed Window.sent packetsPerRoundTrip recordRoundTrips
    split <;> omega
  rw [rate, sent, Window.report, packets, UInt64.ofNat_mul]

/-- While a window stays open, its round trips are recorded and nothing is reported. -/
theorem play_early {counter : Counter} (early : Early counter.windowStart uses) (later : List Use) :
    counter.play (uses ++ later) =
      (counter.recordRoundTrips (uses.countP Use.isRecord)).play later := by
  induction uses generalizing counter with
  | nil => rw [List.nil_append, List.countP_nil, recordRoundTrips_zero]
  | cons use uses ih =>
      have following : Early counter.windowStart uses :=
        fun now member => early now (List.mem_cons_of_mem _ member)
      cases use with
      | record =>
          have recorded : Early counter.recordRoundTrip.windowStart uses := following
          rw [List.cons_append, play, ih recorded, Use.countP_record, recordRoundTrip_recordRoundTrips]
      | tick now =>
          rw [List.cons_append, play, tick_of_early (early now List.mem_cons_self), Use.countP_tick]
          exact ih following

/-- A counter that was just opened reports each window at its end, with the bytes of that window. -/
theorem play_windows (divided : Windows opening uses windows rest) {counter : Counter}
    (opened : counter.windowStart = opening) (empty : counter.windowBytes = 0) :
    (counter.play uses).1 = windows.map (Window.report counter.ackEnabled) := by
  induction divided generalizing counter with
  | @left opening rest early =>
      subst opened
      have silent := congrArg Prod.fst (play_early early [])
      rwa [List.append_nil] at silent
  | @closed opening closing uses later windows rest early due following ih =>
      subst opened
      have opened : (counter.recordRoundTrips (uses.countP Use.isRecord)).windowStart + interval ≤
          closing := due
      rw [play_early early, play, tick_of_due opened,
        ← Window.roundTrips.eq_1 ⟨counter.windowStart, uses, closing⟩, rate_recordRoundTrips empty]
      exact congrArg _ (ih rfl rfl)

end Counter

/-- Bytes that are taken for bytes a second are too many exactly if there are any and they took more
than a second. -/
theorem overstates_iff (bytes : Nat) (span : Duration) :
    Overstates bytes span bytes ↔ interval < span ∧ 0 < bytes := by
  change bytes * 1000000000 < bytes * span.nanos ↔ 1000000000 < span.nanos ∧ 0 < bytes
  rcases Nat.eq_zero_or_pos bytes with rfl | positive
  · simp
  · rw [Nat.mul_lt_mul_left positive]
    exact (and_iff_left positive).symm

theorem Windows.interval_le (divided : Windows opening uses windows rest) :
    ∀ window ∈ windows, interval ≤ window.span := by
  induction divided with
  | left early => exact nofun
  | @closed opening closing uses later windows rest early due following ih =>
      refine List.forall_mem_cons.mpr ⟨?_, ih⟩
      change opening.nanos + 1000000000 ≤ closing.nanos at due
      change 1000000000 ≤ closing.nanos - opening.nanos
      omega

theorem Early.of_moment (early : Early opening uses) {now : Duration}
    (looked : now ∈ uses.filterMap Use.moment?) : now < opening + interval := by
  obtain ⟨use, member, same⟩ := List.mem_filterMap.mp looked
  cases use with
  | record => cases same
  | tick moment =>
      obtain rfl := Option.some.inj same
      exact early moment member

/-- If the clock is looked at again within `gap` each time, no window lasts for an interval and the
gap. -/
theorem Windows.span_lt (divided : Windows opening uses windows rest) {gap : Duration}
    (often : List.IsChain (fun earlier later => later ≤ earlier + gap)
      (opening :: uses.filterMap Use.moment?)) :
    ∀ window ∈ windows, window.span < interval + gap := by
  induction divided with
  | left early => exact nofun
  | @closed opening closing uses later windows rest early due following ih =>
      rw [List.filterMap_append, ← List.cons_append, List.isChain_append] at often
      obtain ⟨-, chained, next⟩ := often
      refine List.forall_mem_cons.mpr ⟨?_, ih chained⟩
      -- The last look at the clock ahead of the one that closes the window was early.
      obtain ⟨last, isLast⟩ : ∃ last, (opening :: uses.filterMap Use.moment?).getLast? = some last :=
        Option.isSome_iff_exists.mp (by simp)
      have before : last < opening + interval := by
        rcases List.mem_cons.mp (List.mem_of_getLast? isLast) with rfl | looked
        · exact Nat.lt_add_of_pos_right (by decide)
        · exact early.of_moment looked
      have soon : closing ≤ last + gap := next last isLast closing rfl
      change last.nanos < opening.nanos + 1000000000 at before
      change closing.nanos ≤ last.nanos + gap.nanos at soon
      change closing.nanos - opening.nanos < 1000000000 + gap.nanos
      omega

open Benchmark

/-- A counter reports, for each window that it closes, the bytes of that window. Taken for bytes a
second they are too many exactly if the window lasted for more than a second and a round trip fell into
it; how much longer it lasts is bounded by the time between two looks at the clock. The rates of a
benchmark are those of the windows into which its round trips fall. -/
theorem rate_of_window (ackEnabled : Bool) (session : Session) :
    (∀ (start : Duration) (uses : List Use),
      (∃ windows rest, Windows start uses windows rest) ∧
      ∀ windows rest, Windows start uses windows rest →
        ((Counter.new ackEnabled start).play uses).1 = windows.map (Window.report ackEnabled) ∧
        (∀ window ∈ windows, .ofSeconds 1 ≤ window.span ∧
          (window.crossed ackEnabled < 2 ^ 64 →
            let rate := (window.report ackEnabled).rate
            ((rate.unidirectional : Nat) = window.sent ∧
              (rate.cumulated : Nat) = window.crossed ackEnabled) ∧
            (Overstates rate.unidirectional window.span window.sent ↔
              .ofSeconds 1 < window.span ∧ 0 < window.roundTrips) ∧
            (Overstates rate.cumulated window.span (window.crossed ackEnabled) ↔
              .ofSeconds 1 < window.span ∧ 0 < window.roundTrips))) ∧
        ∀ gap, List.IsChain (fun earlier later => later ≤ earlier + gap)
            (start :: uses.filterMap Use.moment?) →
          ∀ window ∈ windows, window.span < .ofSeconds 1 + gap) ∧
    ∀ (probe : Message) (duration : Duration) (onRate : Rate → Action Unit) (rounds : Nat)
      (stream : PacketStream) (following : Session),
      session.prepare probe = (.ok stream, following) →
      (∀ rate steps, ¬ (onRate rate).Course steps none) → ∀ history result,
      (run session probe duration onRate rounds).Course history result →
      ∃ (start : Duration) (laps : List Lap) (ending : List Answered),
        history = ⟨.now, start⟩ :: ⟨.note (.log (.benchmarking probe.length duration)), ()⟩ ::
          (laps.flatMap (Lap.history following.token) ++ ending) ∧
        (∀ lap ∈ laps, lap.Completed following stream onRate) ∧
        ∀ windows rest, Windows start (laps.flatMap Lap.uses) windows rest →
          laps.filterMap Lap.rate =
            windows.map fun window => (window.report session.config.ackEnabled).rate := by
  constructor
  · intro start uses
    refine ⟨exists_windows start uses, fun windows rest divided => ?_⟩
    refine ⟨Counter.play_windows divided rfl rfl, fun window member => ?_, fun gap often => ?_⟩
    · refine ⟨divided.interval_le window member, fun fits => ?_⟩
      have sent : (UInt64.ofNat window.sent).toNat = window.sent :=
        UInt64.toNat_ofNat_of_lt' (Nat.lt_of_le_of_lt (window.sent_le_crossed ackEnabled) fits)
      have crossed : (UInt64.ofNat (window.crossed ackEnabled)).toNat = window.crossed ackEnabled :=
        UInt64.toNat_ofNat_of_lt' fits
      refine ⟨⟨sent, crossed⟩, ?_, ?_⟩
      · rw [Window.report, sent]
        refine (overstates_iff window.sent window.span).trans (and_congr_right fun _ => ?_)
        unfold Window.sent
        omega
      · rw [Window.report, crossed]
        refine (overstates_iff (window.crossed ackEnabled) window.span).trans
          (and_congr_right fun _ => ?_)
        unfold Window.crossed
        split <;> omega
    · exact divided.span_lt often
  · intro probe duration onRate rounds stream following prepared returns history result course
    obtain ⟨start, laps, ending, same, -, drives, -, -⟩ := run_course prepared returns course
    refine ⟨start, laps, ending, same, drives.completed, fun windows rest divided => ?_⟩
    rw [drives.rates, Counter.play_windows divided rfl rfl, List.map_map]
    rfl

theorem rate_of_window_of_late_looks :
    (let uses : List Use := [.record, .tick (.ofMillis 1500), .record, .tick (.ofSeconds 3)]
    let windows : List Window := [⟨.zero, [.record], .ofMillis 1500⟩,
      ⟨.ofMillis 1500, [.record], .ofSeconds 3⟩]
    Windows .zero uses windows [] ∧
      ((Counter.new true .zero).play uses).1 =
        [⟨.ofMillis 1500, 64, 192⟩, ⟨.ofSeconds 3, 64, 192⟩] ∧
      List.IsChain (fun earlier later => later ≤ earlier + .ofMillis 1500)
        (.zero :: uses.filterMap Use.moment?) ∧
      ∀ window ∈ windows, Overstates 64 window.span window.sent ∧
        Overstates 192 window.span (window.crossed true) ∧ window.span < .ofMillis 2500) ∧
    let session := Session.resume { ackEnabled := true, packetSettle := .ofMillis 1500 } ⟨0⟩ .clear
    let onRate : Rate → Action Unit := fun rate => Action.note (.rate rate)
    (∀ rate steps, ¬ (onRate rate).Course steps none) ∧
      ∃ stream history summary after,
        session.prepare ⟨.ping, [1, 2, 3, 4]⟩ = (.ok stream, session.advanced) ∧
        (run session ⟨.ping, [1, 2, 3, 4]⟩ (.ofSeconds 3) onRate 3).Course history
          (some (.ok summary, after)) ∧
        ∃ (start : Duration) (laps : List Lap), ∀ windows rest,
          Windows start (laps.flatMap Lap.uses) windows rest →
            laps.filterMap Lap.rate = windows.map fun window => (window.report true).rate := by
  constructor
  · intro uses windows
    have divided : Windows .zero uses windows [] :=
      .closed (early_record _) (by decide) (.closed (early_record _) (by decide) (.left nofun))
    have often : List.IsChain (fun earlier later => later ≤ earlier + Duration.ofMillis 1500)
        (.zero :: uses.filterMap Use.moment?) := by
      decide
    obtain ⟨-, played⟩ := (rate_of_window true (.resume {} ⟨0⟩ .clear)).1 .zero uses
    obtain ⟨reported, rates, soon⟩ := played windows [] divided
    refine ⟨divided, reported, often, fun window member => ?_⟩
    have bytes : window.sent = 64 ∧ window.crossed true = 192 ∧
        .ofSeconds 1 < window.span ∧ 0 < window.roundTrips := by
      revert window
      decide
    obtain ⟨sent, crossed, long, any⟩ := bytes
    obtain ⟨-, within⟩ := rates window member
    obtain ⟨-, oneWay, allWays⟩ := within (crossed ▸ by decide)
    have toDevice := oneWay.mpr ⟨long, any⟩
    have altogether := allWays.mpr ⟨long, any⟩
    simp only [Window.report, sent, crossed] at toDevice altogether ⊢
    exact ⟨toDevice, altogether, soon (.ofMillis 1500) often window member⟩
  · intro session onRate
    have returns : ∀ rate steps, ¬ (onRate rate).Course steps none := by
      intro rate steps course
      cases course.of_note
    have ran : ((run session ⟨.ping, [1, 2, 3, 4]⟩ (.ofSeconds 3) onRate 3).run Link.scripted
        ⟨{ reads := List.replicate 4 (.packet []) }, .zero, [], #[]⟩).1 =
          some (.ok ⟨2, .ofSeconds 3⟩, session.advanced) := by
      decide +kernel
    obtain ⟨history, _, course, -⟩ := Action.run_course Link.scripted
      (run session ⟨.ping, [1, 2, 3, 4]⟩ (.ofSeconds 3) onRate 3)
      ⟨{ reads := List.replicate 4 (.packet []) }, .zero, [], #[]⟩
    rw [ran] at course
    have prepared : session.prepare ⟨.ping, [1, 2, 3, 4]⟩ = (.ok _, session.advanced) := rfl
    obtain ⟨start, laps, _, -, -, rates⟩ := (rate_of_window true session).2 ⟨.ping, [1, 2, 3, 4]⟩
      (.ofSeconds 3) onRate 3 _ _ prepared returns history _ course
    exact ⟨returns, _, history, _, _, prepared, course, start, laps, rates⟩

/-- A round trip and a look at the clock two seconds after the start: 64 bytes crossed the link in that
time, and 64 bytes a second are reported. -/
theorem rate_overstates_late_window :
    let uses : List Use := [.record, .tick (.ofSeconds 2)]
    let window : Window := ⟨.zero, [.record], .ofSeconds 2⟩
    List.IsChain (· ≤ ·) (.zero :: uses.filterMap Use.moment?) ∧ Windows .zero uses [window] [] ∧
      ((Counter.new false .zero).play uses).1 = [⟨.ofSeconds 2, 64, 128⟩] ∧
      Overstates 64 window.span window.sent ∧ Overstates 128 window.span (window.crossed false) := by
  intro uses window
  have divided : Windows .zero uses [window] [] :=
    .closed (early_record _) (by decide) (.left nofun)
  exact ⟨by decide, divided, by decide, by decide, by decide⟩

end PacketLink.Throughput
