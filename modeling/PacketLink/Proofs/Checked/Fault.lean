import Mathlib.Algebra.Group.Nat.Defs
import PacketLink.Action

namespace PacketLink

/-! Data operations that stop a program where they do not apply.

`Checked` spells them out: an index and the bounds of a slice have to lie within the data, a copy has
to fill its target, and sums and differences have to fit. -/

inductive Fault where
  | indexOutOfRange (place length : Nat)
  | sliceOutOfRange (start stop length : Nat)
  | lengthsDiffer (target source : Nat)
  | underflow (minuend subtrahend : Nat)
  | overflow (sum bound : Nat)
  | assertionFailed
deriving DecidableEq

abbrev Checked (α : Type) := Except Fault α

namespace Checked

/-- Values of one byte are below it. -/
def byteBound : Nat := 2 ^ 8

/-- Sizes in memory are below it. -/
def sizeBound : Nat := 2 ^ 64

variable {α : Type}

def index (items : List α) (place : Nat) : Checked α :=
  match items[place]? with
  | some item => .ok item
  | none => .error (.indexOutOfRange place items.length)

def slice (items : List α) (start stop : Nat) : Checked (List α) :=
  if start ≤ stop ∧ stop ≤ items.length then .ok ((items.take stop).drop start)
  else .error (.sliceOutOfRange start stop items.length)

/-- Copies `source` over the slice from `start` to `stop`. -/
def overwrite (items : List α) (start stop : Nat) (source : List α) : Checked (List α) :=
  if start ≤ stop ∧ stop ≤ items.length then
    if source.length = stop - start then .ok (items.take start ++ source ++ items.drop stop)
    else .error (.lengthsDiffer (stop - start) source.length)
  else .error (.sliceOutOfRange start stop items.length)

def sub (minuend subtrahend : Nat) : Checked Nat :=
  if subtrahend ≤ minuend then .ok (minuend - subtrahend) else .error (.underflow minuend subtrahend)

def add (bound left right : Nat) : Checked Nat :=
  if left + right < bound then .ok (left + right) else .error (.overflow (left + right) bound)

def assert (holds : Bool) : Checked Unit :=
  if holds then .ok () else .error .assertionFailed

@[simp] theorem ok_bind {β : Type} (value : α) (next : α → Checked β) :
    ((.ok value : Checked α) >>= next) = next value := rfl

@[simp] theorem pure_eq_ok (value : α) : (pure value : Checked α) = .ok value := rfl

theorem slice_of_le {items : List α} {start stop : Nat} (ordered : start ≤ stop)
    (within : stop ≤ items.length) : slice items start stop = .ok ((items.take stop).drop start) :=
  if_pos ⟨ordered, within⟩

/-- A slice from the front, however short the data. -/
theorem slice_min (items : List α) (most : Nat) :
    slice items 0 (min items.length most) = .ok (items.take most) := by
  rw [slice_of_le (Nat.zero_le _) (Nat.min_le_left _ _), List.drop_zero, List.take_eq_take_iff.mpr]
  omega

theorem overwrite_of_le {items source : List α} {start stop : Nat} (ordered : start ≤ stop)
    (within : stop ≤ items.length) (fills : source.length = stop - start) :
    overwrite items start stop source = .ok (items.take start ++ source ++ items.drop stop) := by
  rw [overwrite, if_pos ⟨ordered, within⟩, if_pos fills]

theorem sub_of_le {minuend subtrahend : Nat} (ordered : subtrahend ≤ minuend) :
    sub minuend subtrahend = .ok (minuend - subtrahend) :=
  if_pos ordered

theorem add_of_lt {bound left right : Nat} (fits : left + right < bound) :
    add bound left right = .ok (left + right) :=
  if_pos fits

end Checked

end PacketLink
