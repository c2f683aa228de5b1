import RestDispatch.Value.Basic
import RestDispatch.Decimal.Numeral

set_option autoImplicit false

/-!
How much JSON text may ask of who reads or writes it: the digits of integers may be bounded, and how deep brackets and
braces lie inside each other.
-/
namespace RestDispatch.Json

-- The most digits that an integer may have, and how many nests may still lie inside each other.
structure Bounds where
  digits : Option Nat := none
  depth : Option Nat := none
deriving DecidableEq, Repr

namespace Bounds

def unbounded : Bounds := {}

def ofBody : Bounds := { digits := some Decimal.digitLimit, depth := some Value.nestLimit }

def inside (bounds : Bounds) : Bounds := { bounds with depth := bounds.depth.map (· - 1) }

def exhausted (bounds : Bounds) : Bool := bounds.depth = some 0

end Bounds
end RestDispatch.Json
