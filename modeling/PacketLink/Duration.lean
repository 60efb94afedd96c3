namespace PacketLink

/-! Spans of time in nanoseconds, and how they are written: in the largest unit of which the span
holds at least one, with as many decimals as it needs or with a given number of them. -/

/-- A span of time. -/
structure Duration where
  nanos : Nat
deriving DecidableEq

namespace Duration

def zero : Duration := ⟨0⟩

def ofMicros (micros : Nat) : Duration := ⟨micros * 1000⟩

def ofMillis (millis : Nat) : Duration := ⟨millis * 1000000⟩

def ofSeconds (seconds : Nat) : Duration := ⟨seconds * 1000000000⟩

/-- Whole microseconds; what is left over is dropped. -/
def toMicros (span : Duration) : Nat := span.nanos / 1000

/-- Whole milliseconds; what is left over is dropped. -/
def toMillis (span : Duration) : Nat := span.nanos / 1000000

def isZero (span : Duration) : Bool := span.nanos == 0

instance : Add Duration := ⟨fun a b => ⟨a.nanos + b.nanos⟩⟩

/-- The time from `earlier` to a later moment; nothing if the moment is not later. -/
instance : Sub Duration := ⟨fun a b => ⟨a.nanos - b.nanos⟩⟩

instance : LT Duration := ⟨fun a b => a.nanos < b.nanos⟩

instance : LE Duration := ⟨fun a b => a.nanos ≤ b.nanos⟩

instance (a b : Duration) : Decidable (a < b) := inferInstanceAs (Decidable (a.nanos < b.nanos))

instance (a b : Duration) : Decidable (a ≤ b) := inferInstanceAs (Decidable (a.nanos ≤ b.nanos))

instance : Min Duration := minOfLe

theorem min_of_le {span other : Duration} (shorter : span ≤ other) : min span other = span :=
  if_pos shorter

theorem min_of_ge {span other : Duration} (longer : other ≤ span) : min span other = other := by
  by_cases same : span ≤ other
  · exact (min_of_le same).trans (congrArg Duration.mk (Nat.le_antisymm same longer))
  · exact if_neg same

/-- A unit in which a span is written: nanoseconds in it, decimals that a nanosecond needs, symbol. -/
structure Scale where
  nanos : Nat
  decimals : Nat
  symbol : String

/-- The largest unit of which the span holds at least one; nanoseconds below a microsecond. -/
def scale (span : Duration) : Scale :=
  if span.nanos ≥ 1000000000 then ⟨1000000000, 9, "s"⟩
  else if span.nanos ≥ 1000000 then ⟨1000000, 6, "ms"⟩
  else if span.nanos ≥ 1000 then ⟨1000, 3, "µs"⟩
  else ⟨1, 0, "ns"⟩

/-- The quotient rounded to the nearest natural number; a half goes to the even neighbour. -/
def roundedQuotient (dividend divisor : Nat) : Nat :=
  let quotient := dividend / divisor
  let twice := 2 * (dividend % divisor)
  if twice < divisor then quotient
  else if twice > divisor then quotient + 1
  else quotient + quotient % 2

/-- Exactly `width` digits of a number below `10 ^ width`. -/
def paddedDigits (width value : Nat) : List Char :=
  let digits := Nat.toDigits 10 value
  List.replicate (width - digits.length) '0' ++ digits

/-- The span with as many decimals as it needs, as in `5s`, `1.5s`, `700µs`. -/
def text (span : Duration) : String :=
  let scale := span.scale
  let decimals := (paddedDigits scale.decimals (span.nanos % scale.nanos)).reverse.dropWhile (· == '0')
  let fraction := if span.nanos % scale.nanos = 0 then [] else '.' :: decimals.reverse
  String.ofList (Nat.toDigits 10 (span.nanos / scale.nanos) ++ fraction) ++ scale.symbol

/-- The span rounded to exactly `places` decimals, as in `3.0s`. -/
def rounded (places : Nat) (span : Duration) : String :=
  let scale := span.scale
  let value := roundedQuotient (span.nanos * Nat.pow 10 places) scale.nanos
  let fraction := if places = 0 then [] else '.' :: paddedDigits places (value % Nat.pow 10 places)
  String.ofList (Nat.toDigits 10 (value / Nat.pow 10 places) ++ fraction) ++ scale.symbol

end Duration

end PacketLink
