set_option autoImplicit false

/-!
Sets and mappings of characters given by ranges of code points, ascending and apart.
-/
namespace RestDispatch.Text

def inRanges (ranges : List (Nat × Nat)) (code : Nat) : Bool :=
  ranges.any fun range => range.1 ≤ code && code ≤ range.2

structure Shift where
  first : Nat
  last : Nat
  step : Nat
  amount : Int

def Shift.covers (run : Shift) (code : Nat) : Bool :=
  run.first ≤ code && code ≤ run.last && (code - run.first) % run.step == 0

def shifted? (runs : List Shift) (code : Nat) : Option Nat :=
  (runs.find? (·.covers code)).map fun run => ((code : Int) + run.amount).toNat

end RestDispatch.Text
