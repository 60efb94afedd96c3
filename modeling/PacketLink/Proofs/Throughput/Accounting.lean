import Mathlib.Algebra.Group.Nat.Defs
import Mathlib.Data.List.Chain
import PacketLink.Throughput.Counter

namespace PacketLink.Throughput

/-! Runs of a throughput counter: round trips are recorded and the clock is looked at, in any order and
at any moments. What was reported and what the open window holds make up all that was recorded, in the
arithmetic of 64-bit words, and as numbers while these are below `2 ^ 64`. -/

/-- One use of a counter. -/
inductive Use where
  | record
  | tick (now : Duration)
deriving DecidableEq

namespace Use

def isRecord : Use → Bool
  | .record => true
  | .tick _ => false

@[simp] theorem countP_record (uses : List Use) :
    (record :: uses).countP isRecord = uses.countP isRecord + 1 :=
  List.countP_cons_of_pos rfl

@[simp] theorem countP_tick (now : Duration) (uses : List Use) :
    (tick now :: uses).countP isRecord = uses.countP isRecord :=
  List.countP_cons_of_neg Bool.false_ne_true

end Use

/-- A rate, and when it was reported. -/
structure Report where
  moment : Duration
  rate : Rate
deriving DecidableEq

/-- The sum of an amount over a list. -/
def sumOf {α β : Type} [OfNat β 0] [Add β] (amount : α → β) : List α → β
  | [] => 0
  | first :: rest => amount first + sumOf amount rest

theorem sumOf_of_eq {α : Type} {factor : Nat} {amount other : α → Nat} {list : List α}
    (each : ∀ item ∈ list, amount item = other item * factor) :
    sumOf amount list = sumOf other list * factor := by
  induction list with
  | nil => simp [sumOf]
  | cons first rest ih =>
      rw [List.forall_mem_cons] at each
      simp [sumOf, each.1, ih each.2, Nat.add_mul]

theorem le_sumOf {α : Type} {amount : α → Nat} {list : List α} {item : α} (member : item ∈ list) :
    amount item ≤ sumOf amount list := by
  induction list with
  | nil => cases member
  | cons first rest ih =>
      rw [sumOf]
      rcases List.mem_cons.mp member with rfl | later
      · omega
      · exact Nat.le_add_left_of_le (ih later)

namespace Counter

/-- The reports of a run, and the counter after it. -/
def play (counter : Counter) : List Use → List Report × Counter
  | [] => ([], counter)
  | .record :: uses => counter.recordRoundTrip.play uses
  | .tick now :: uses =>
      match counter.tick now with
      | (none, next) => next.play uses
      | (some rate, next) => (⟨now, rate⟩ :: (next.play uses).1, (next.play uses).2)

variable {counter next : Counter} {now : Duration} {reported : Rate} {uses : List Use}

theorem tick_eq_none (ticked : counter.tick now = (none, next)) : next = counter := by
  unfold tick at ticked
  split at ticked
  · exact (Prod.mk.inj ticked).2.symm
  · cases ticked

/-- A tick that reports closes the window, and a full interval has passed since it was opened. -/
theorem tick_eq_some (ticked : counter.tick now = (some reported, next)) :
    reported = counter.rate ∧ next = { counter with windowStart := now, windowBytes := 0 } ∧
      counter.windowStart + interval ≤ now := by
  unfold tick at ticked
  split at ticked
  · cases ticked
  · rename_i late
    cases ticked
    change ¬ now.nanos - counter.windowStart.nanos < 1000000000 at late
    refine ⟨rfl, rfl, ?_⟩
    change counter.windowStart.nanos + 1000000000 ≤ now.nanos
    omega

theorem play_ackEnabled (counter : Counter) (uses : List Use) :
    (counter.play uses).2.ackEnabled = counter.ackEnabled := by
  fun_induction play counter uses with
  | case1 counter => rfl
  | case2 counter uses ih => exact ih
  | case3 counter now uses next ticked ih =>
      obtain rfl := tick_eq_none ticked
      exact ih
  | case4 counter now uses reported next ticked ih =>
      obtain ⟨-, rfl, -⟩ := tick_eq_some ticked
      exact ih

theorem play_packetsPerRoundTrip (counter : Counter) (uses : List Use) :
    (counter.play uses).2.packetsPerRoundTrip = counter.packetsPerRoundTrip := by
  rw [packetsPerRoundTrip, play_ackEnabled, packetsPerRoundTrip]

theorem play_roundTrips (counter : Counter) (uses : List Use) :
    (counter.play uses).2.roundTrips =
      counter.roundTrips + UInt64.ofNat (uses.countP Use.isRecord) := by
  fun_induction play counter uses with
  | case1 counter => simp
  | case2 counter uses ih =>
      rw [ih, Use.countP_record, Nat.add_comm, UInt64.ofNat_add, ← UInt64.add_assoc]
      rfl
  | case3 counter now uses next ticked ih =>
      obtain rfl := tick_eq_none ticked
      simp [ih]
  | case4 counter now uses reported next ticked ih =>
      obtain ⟨-, rfl, -⟩ := tick_eq_some ticked
      simp [ih]

/-- What a run adds to the reports and the open window is 64 bytes for each round trip. -/
theorem play_bytes (counter : Counter) (uses : List Use) :
    sumOf (·.rate.unidirectional) (counter.play uses).1 + (counter.play uses).2.windowBytes =
      counter.windowBytes + 64 * UInt64.ofNat (uses.countP Use.isRecord) := by
  fun_induction play counter uses with
  | case1 counter => simp [sumOf]
  | case2 counter uses ih =>
      have recorded : counter.recordRoundTrip.windowBytes = counter.windowBytes + 64 := rfl
      rw [ih, recorded, Use.countP_record, UInt64.ofNat_add]
      grind
  | case3 counter now uses next ticked ih =>
      obtain rfl := tick_eq_none ticked
      simp [ih]
  | case4 counter now uses reported next ticked ih =>
      obtain ⟨rfl, rfl, -⟩ := tick_eq_some ticked
      simp only [sumOf, rate, Use.countP_tick] at ih ⊢
      rw [UInt64.add_assoc, ih, UInt64.zero_add]

theorem play_cumulated (counter : Counter) (uses : List Use) :
    ∀ report ∈ (counter.play uses).1, report.rate.cumulated =
      report.rate.unidirectional * UInt64.ofNat counter.packetsPerRoundTrip := by
  fun_induction play counter uses with
  | case1 counter => exact nofun
  | case2 counter uses ih => exact ih
  | case3 counter now uses next ticked ih =>
      obtain rfl := tick_eq_none ticked
      exact ih
  | case4 counter now uses reported next ticked ih =>
      obtain ⟨rfl, rfl, -⟩ := tick_eq_some ticked
      exact List.forall_mem_cons.mpr ⟨rfl, ih⟩

/-- Each report comes at least an interval after the one before it, and the first at least an interval
after the window was opened. -/
theorem play_moments (counter : Counter) (uses : List Use) :
    List.IsChain (fun earlier later => earlier + interval ≤ later)
      (counter.windowStart :: (counter.play uses).1.map Report.moment) := by
  fun_induction play counter uses with
  | case1 counter => exact .singleton _
  | case2 counter uses ih => exact ih
  | case3 counter now uses next ticked ih =>
      obtain rfl := tick_eq_none ticked
      exact ih
  | case4 counter now uses reported next ticked ih =>
      obtain ⟨-, rfl, passed⟩ := tick_eq_some ticked
      exact .cons_cons passed ih

theorem sumOf_cumulated {factor : UInt64} {reports : List Report}
    (each : ∀ report ∈ reports, report.rate.cumulated = report.rate.unidirectional * factor) :
    sumOf (·.rate.cumulated) reports = sumOf (·.rate.unidirectional) reports * factor := by
  induction reports with
  | nil => simp [sumOf]
  | cons report reports ih =>
      rw [List.forall_mem_cons] at each
      rw [sumOf, sumOf, each.1, ih each.2, UInt64.add_mul]

/-- All windows together, the open one included, hold the cumulated bytes of all round trips. -/
theorem play_total (counter : Counter) (uses : List Use) :
    sumOf (·.rate.cumulated) (counter.play uses).1 + (counter.play uses).2.rate.cumulated =
      (counter.windowBytes + 64 * UInt64.ofNat (uses.countP Use.isRecord)) *
        UInt64.ofNat counter.packetsPerRoundTrip := by
  rw [sumOf_cumulated (play_cumulated counter uses), rate, play_packetsPerRoundTrip,
    ← UInt64.add_mul, play_bytes]

/-! ### Without overflow -/

theorem toNat_recordRoundTrip (fits : counter.windowBytes.toNat + 64 < 2 ^ 64) :
    counter.recordRoundTrip.windowBytes.toNat = counter.windowBytes.toNat + 64 :=
  (UInt64.toNat_add _ _).trans (Nat.mod_eq_of_lt fits)

theorem toNat_mul_packetsPerRoundTrip (counter : Counter) {bytes : UInt64}
    (fits : bytes.toNat * counter.packetsPerRoundTrip < 2 ^ 64) :
    (bytes * UInt64.ofNat counter.packetsPerRoundTrip).toNat =
      bytes.toNat * counter.packetsPerRoundTrip := by
  have few : counter.packetsPerRoundTrip < 2 ^ 64 := by
    unfold packetsPerRoundTrip
    split <;> decide
  rw [UInt64.toNat_mul, UInt64.toNat_ofNat_of_lt' few, Nat.mod_eq_of_lt fits]

/-- While fewer than `2 ^ 64` bytes go to the device, the sums are those of the numbers. -/
theorem play_toNat_bytes (counter : Counter) (uses : List Use)
    (fits : counter.windowBytes.toNat + 64 * uses.countP Use.isRecord < 2 ^ 64) :
    sumOf (·.rate.unidirectional.toNat) (counter.play uses).1 +
        (counter.play uses).2.windowBytes.toNat =
      counter.windowBytes.toNat + 64 * uses.countP Use.isRecord := by
  fun_induction play counter uses with
  | case1 counter => simp [sumOf]
  | case2 counter uses ih =>
      rw [Use.countP_record] at fits ⊢
      rw [toNat_recordRoundTrip (by omega)] at ih
      rw [ih (by omega)]
      omega
  | case3 counter now uses next ticked ih =>
      obtain rfl := tick_eq_none ticked
      rw [Use.countP_tick] at fits ⊢
      exact ih fits
  | case4 counter now uses reported next ticked ih =>
      obtain ⟨rfl, rfl, -⟩ := tick_eq_some ticked
      rw [Use.countP_tick] at fits ⊢
      simp only [UInt64.toNat_zero, Nat.zero_add] at ih
      rw [sumOf, Nat.add_assoc, ih (by omega)]
      rfl

section

-- Fewer than `2 ^ 64` bytes cross the link.
variable (counter : Counter) (uses : List Use)
  (fits : (counter.windowBytes.toNat + 64 * uses.countP Use.isRecord) *
    counter.packetsPerRoundTrip < 2 ^ 64)

include fits

theorem play_toNat_bytes_of_total :
    sumOf (·.rate.unidirectional.toNat) (counter.play uses).1 +
        (counter.play uses).2.windowBytes.toNat =
      counter.windowBytes.toNat + 64 * uses.countP Use.isRecord := by
  have positive : 0 < counter.packetsPerRoundTrip := by
    unfold packetsPerRoundTrip
    split <;> decide
  exact play_toNat_bytes counter uses
    (Nat.lt_of_le_of_lt (Nat.le_mul_of_pos_right _ positive) fits)

theorem play_toNat_cumulated :
    ∀ report ∈ (counter.play uses).1, report.rate.cumulated.toNat =
      report.rate.unidirectional.toNat * counter.packetsPerRoundTrip := by
  intro report member
  have within : report.rate.unidirectional.toNat ≤
      counter.windowBytes.toNat + 64 * uses.countP Use.isRecord := by
    have part : _ ≤ sumOf (·.rate.unidirectional.toNat) (counter.play uses).1 := le_sumOf member
    have bytes := play_toNat_bytes_of_total counter uses fits
    omega
  rw [play_cumulated counter uses report member]
  exact toNat_mul_packetsPerRoundTrip counter
    (Nat.lt_of_le_of_lt (Nat.mul_le_mul_right _ within) fits)

theorem play_toNat_total :
    sumOf (·.rate.cumulated.toNat) (counter.play uses).1 +
        (counter.play uses).2.rate.cumulated.toNat =
      (counter.windowBytes.toNat + 64 * uses.countP Use.isRecord) *
        counter.packetsPerRoundTrip := by
  have bytes := play_toNat_bytes_of_total counter uses fits
  have within : (counter.play uses).2.windowBytes.toNat ≤
      counter.windowBytes.toNat + 64 * uses.countP Use.isRecord := by
    omega
  have last := toNat_mul_packetsPerRoundTrip counter
    (Nat.lt_of_le_of_lt (Nat.mul_le_mul_right _ within) fits)
  rw [sumOf_of_eq (play_toNat_cumulated counter uses fits), rate, play_packetsPerRoundTrip, last, ← Nat.add_mul,
    bytes]

end

end Counter

end PacketLink.Throughput
