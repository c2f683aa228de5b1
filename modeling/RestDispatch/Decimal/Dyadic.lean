set_option autoImplicit false

/-!
The exact value of a finite float, `mantissa * 2 ^ exponent`, and comparisons of such values with
integers and with decimals, all in integer arithmetic.
-/
namespace RestDispatch.Decimal

-- The size of a finite float. `narrow` says that the gap to the next smaller float is half the gap to the next
-- larger one.
structure Dyadic where
  mantissa : Nat
  exponent : Int
  narrow : Bool

def weight (base place : Nat) : Nat := Nat.pow base place

def Dyadic.ofBits (bits : UInt64) : Dyadic :=
  let field := ((bits >>> 52) &&& 0x7FF).toNat
  let fraction := (bits &&& 0xFFFFFFFFFFFFF).toNat
  if field = 0 then ⟨fraction, -1074, false⟩
  else ⟨weight 2 52 + fraction, (field : Int) - 1075, fraction = 0 && field > 1⟩

def compareScaled (digits : Nat) (tens : Int) (units : Nat) (twos : Int) : Ordering :=
  compare (digits * weight 10 tens.toNat * weight 2 (-twos).toNat)
    (units * weight 2 twos.toNat * weight 10 (-tens).toNat)

def isNegative (x : Float) : Bool := x.toBits >>> 63 = 1

def isFinite (x : Float) : Bool := (x.toBits >>> 52) &&& 0x7FF ≠ 0x7FF

def truncate (x : Float) : Int :=
  let size := Dyadic.ofBits x.toBits
  let whole : Int := (size.mantissa * weight 2 size.exponent.toNat / weight 2 (-size.exponent).toNat : Nat)
  if isNegative x then -whole else whole

def isWhole (x : Float) : Bool :=
  let size := Dyadic.ofBits x.toBits
  size.mantissa % weight 2 (-size.exponent).toNat = 0

def equalsInt (x : Float) (i : Int) : Bool := isFinite x && isWhole x && truncate x = i

def wordBound : Int := weight 2 63

def fitsWord (i : Int) : Bool := -wordBound ≤ i && i < wordBound

-- Whether a float is an integer whose size fits into a signed word.
def isWordFloat (x : Float) : Bool := isFinite x && isWhole x && (truncate x).natAbs < wordBound

-- The float nearest to `digits * 10 ^ tens`. Exponents that lie beyond every float are decided by the number of
-- digits alone.
def toFloat (negative : Bool) (digits : Nat) (tens : Int) : Float :=
  let places := (Nat.toDigits 10 digits).length
  let size :=
    if digits = 0 || tens + places < -400 then 0.0
    else if tens + places > 400 then 1.0 / 0.0
    else Float.ofScientific digits (tens < 0) tens.natAbs
  if negative then -size else size

end RestDispatch.Decimal
