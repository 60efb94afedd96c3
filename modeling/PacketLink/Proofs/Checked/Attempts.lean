import PacketLink.Proofs.Checked.Fault

namespace PacketLink

/-! Attempts with checked operations in them.

A fault is no error of the attempt, and nothing in the program catches it. An attempt without checked
operations is a guarded one that comes to no fault, and this respects sequencing. -/

/-- An attempt that a fault can end at any step. -/
abbrev Guarded (ε α : Type) := ExceptT ε (ExceptT Fault Action) α

namespace Guarded

variable {ε ε' α β : Type}

def of (attempt : Attempt ε α) : Guarded ε α := ExceptT.mk (ExceptT.lift attempt.run)

def check (value : Checked α) : Guarded ε α := ExceptT.lift (ExceptT.mk (.done value))

/-- The outcome of a guarded attempt as a value; a fault is not caught. -/
def outcome (guarded : Guarded ε α) : Guarded ε' (Except ε α) := ExceptT.lift guarded.run

@[simp] theorem check_ok (value : α) : (check (.ok value) : Guarded ε α) = pure value := rfl

theorem of_pure (value : α) : of (pure value : Attempt ε α) = pure value := rfl

theorem of_throw (reason : ε) : of (throw reason : Attempt ε α) = throw reason := rfl

theorem throw_bind (reason : ε) (next : α → Guarded ε β) :
    (throw reason >>= next : Guarded ε β) = throw reason := rfl

theorem of_bind (attempt : Attempt ε α) (next : α → Attempt ε β) :
    of (attempt >>= next) = of attempt >>= fun value => of (next value) := by
  apply ExceptT.ext
  apply ExceptT.ext
  simp only [of, ExceptT.run_bind, ExceptT.run_mk, ExceptT.run_lift, bind_map_left, map_bind]
  refine bind_congr fun outcome => ?_
  cases outcome with
  | error reason => rfl
  | ok value => simp

theorem outcome_of (attempt : Attempt ε α) :
    (of attempt).outcome = (of attempt.outcome : Guarded ε' (Except ε α)) := by
  apply ExceptT.ext
  apply ExceptT.ext
  simp only [of, outcome, Attempt.outcome, ExceptT.run_mk, ExceptT.run_lift, ExceptT.run_map,
    Functor.map_map, map_bind]
  exact map_eq_pure_bind _ _

end Guarded

end PacketLink
