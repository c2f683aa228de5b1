import RestDispatch.Decimal.Dyadic
import RestDispatch.Fault

set_option autoImplicit false

/-!
Arithmetic with integers, floats and complex numbers. Of two numbers of different kinds the narrower one is
widened first. Integers are exact.
-/
namespace RestDispatch

inductive Number where
  | int (n : Int)
  | float (x : Float)
  | complex (re im : Float)
deriving Inhabited

namespace Number

def zeroDivision (text : String) : Fault := .of "ZeroDivisionError" text

def noRoom : Fault := .of "MemoryError" ""

def outOfRange : Fault := .of "OverflowError" "(34, 'Numerical result out of range')"

def bitLimit : Nat := 10000000

def ofInt (n : Int) : Except Fault Float :=
  let x := Decimal.toFloat (n < 0) n.natAbs 0
  if Decimal.isFinite x then .ok x else .error (.of "OverflowError" "int too large to convert to float")

/-! Floats. -/

def ofUnits (units : Nat) (exponent : Int) : Float :=
  let lost := units.log2 - 63
  (UInt64.ofNat (units / Decimal.weight 2 lost)).toFloat.scaleB (exponent + (lost : Int))

-- The float nearest to a number of units of a power of two, an even one being taken of two that are as near. There
-- is none if it would be too large.
def nearest? (units : Nat) (exponent : Int) : Option Float :=
  let top := (units.log2 : Int) + exponent
  if units = 0 || top < -1100 then some 0.0
  else if 1024 < top then none
  else
    let low := max (top - 52) (-1074)
    let shift := low - exponent
    let kept :=
      if shift ≤ 0 then units * Decimal.weight 2 (-shift).toNat
      else
        let unit := Decimal.weight 2 shift.toNat
        let down := units / unit
        match Ord.compare (2 * (units % unit)) unit with
        | .lt => down
        | .gt => down + 1
        | .eq => if down % 2 = 0 then down else down + 1
    let x := ofUnits kept low
    if Decimal.isFinite x then some x else none

-- The largest number whose square is not above another one. Every step finds one bit.
def rootBelow (n : Nat) : Nat → Nat → Nat
  | 0, found => found
  | bits + 1, found =>
    let tried := found + Decimal.weight 2 bits
    rootBelow n bits (if tried * tried ≤ n then tried else found)

def length? (x y : Float) : Option Float :=
  let a := Decimal.Dyadic.ofBits x.toBits
  let b := Decimal.Dyadic.ofBits y.toBits
  let exponent := min a.exponent b.exponent - 64
  let scaled := fun (size : Decimal.Dyadic) => size.mantissa * Decimal.weight 2 (size.exponent - exponent).toNat
  let square := scaled a * scaled a + scaled b * scaled b
  let root := rootBelow square (square.log2 / 2 + 1) 0
  nearest? (2 * root + (if root * root = square then 0 else 1)) (exponent - 1)

def withSignOf (size sign : Float) : Float :=
  let size := size.abs
  if Decimal.isNegative sign then -size else size

def floatRest (x y : Float) : Float :=
  if x.isNaN || y.isNaN || !Decimal.isFinite x || y == 0.0 then 0.0 / 0.0
  else if !Decimal.isFinite y then x
  else
    let a := Decimal.Dyadic.ofBits x.toBits
    let b := Decimal.Dyadic.ofBits y.toBits
    let exponent := min a.exponent b.exponent
    let scaled := fun (size : Decimal.Dyadic) => size.mantissa * Decimal.weight 2 (size.exponent - exponent).toNat
    withSignOf (ofUnits (scaled a % scaled b) exponent) x

def floatDivMod (x y : Float) : Float × Float :=
  let rest := floatRest x y
  let quotient := (x - rest) / y
  let (rest, quotient) :=
    if rest == 0.0 then (withSignOf 0.0 y, quotient)
    else if (y < 0.0) ≠ (rest < 0.0) then (rest + y, quotient - 1.0)
    else (rest, quotient)
  let floor :=
    if quotient == 0.0 then withSignOf 0.0 (x / y)
    else
      let down := quotient.floor
      if quotient - down > 0.5 then down + 1.0 else down
  (floor, rest)

def floatPower (x y : Float) : Except Fault Float :=
  if x == 0.0 && y < 0.0 then .error (zeroDivision "0.0 cannot be raised to a negative power")
  else
    let power := x.pow y
    if !Decimal.isFinite power && Decimal.isFinite x && Decimal.isFinite y then .error outOfRange else .ok power

/-! Quotients of integers. -/

-- The float nearest to the quotient of two integers, of which the second one is not zero.
def intQuotient (a b : Int) : Except Fault Float :=
  if a = 0 then .ok (if b < 0 then -0.0 else 0.0)
  else
    let places : Int := 62 - ((a.natAbs.log2 : Int) - (b.natAbs.log2 : Int))
    let dividend := a.natAbs * Decimal.weight 2 places.toNat
    let divisor := b.natAbs * Decimal.weight 2 (-places).toNat
    let digits := 2 * (dividend / divisor) + (if dividend % divisor = 0 then 0 else 1)
    let size := ofUnits digits (-(places + 1))
    if Decimal.isFinite size then .ok (if (a < 0) ≠ (b < 0) then -size else size)
    else .error (.of "OverflowError" "integer division result too large for a float")

def intPower (base : Int) (exponent : Nat) : Except Fault Int :=
  if 2 ≤ base.natAbs && bitLimit < (base.natAbs.log2 + 1) * exponent then .error noRoom
  else
    let size : Int := if base.natAbs < 2 then (if base = 0 && exponent ≠ 0 then 0 else 1) else (Decimal.weight base.natAbs exponent : Nat)
    .ok (if base < 0 && exponent % 2 = 1 then -size else size)

/-! Complex numbers, as pairs of their parts. -/

def product (a b : Float × Float) : Float × Float :=
  (a.1 * b.1 - a.2 * b.2, a.1 * b.2 + a.2 * b.1)

def quotient (a b : Float × Float) : Except Fault (Float × Float) :=
  if b.1.abs >= b.2.abs then
    if b.1 == 0.0 && b.2 == 0.0 then .error (zeroDivision "complex division by zero")
    else
      let ratio := b.2 / b.1
      let size := b.1 + b.2 * ratio
      .ok ((a.1 + a.2 * ratio) / size, (a.2 - a.1 * ratio) / size)
  else
    let ratio := b.1 / b.2
    let size := b.1 * ratio + b.2
    .ok ((a.1 * ratio + a.2) / size, (a.2 * ratio - a.1) / size)

def naturalPower (a : Float × Float) (n : Nat) : Float × Float :=
  let bits := (List.range 7).takeWhile fun place => Decimal.weight 2 place ≤ n
  (bits.foldl
    (fun (power, square) place =>
      (if n / Decimal.weight 2 place % 2 = 1 then product power square else power, product square square))
    ((1.0, 0.0), a)).1

def polarPower (a b : Float × Float) : Except Fault (Float × Float) :=
  if b.1 == 0.0 && b.2 == 0.0 then .ok (1.0, 0.0)
  else if a.1 == 0.0 && a.2 == 0.0 then
    if b.2 != 0.0 || b.1 < 0.0 then .error (zeroDivision "0.0 to a negative or complex power") else .ok (0.0, 0.0)
  else
    let size := if a.2 == 0.0 then a.1.abs else if a.1 == 0.0 then a.2.abs else (a.1 * a.1 + a.2 * a.2).sqrt
    let angle := Float.atan2 a.2 a.1
    let (length, phase) := (size.pow b.1, angle * b.1)
    let (length, phase) :=
      if b.2 != 0.0 then (length / (angle * b.2).exp, phase + b.2 * size.log) else (length, phase)
    .ok (length * phase.cos, length * phase.sin)

def complexPower (a b : Float × Float) : Except Fault (Float × Float) :=
  if b.2 == 0.0 && b.1 == b.1.floor && b.1.abs <= 100.0 then
    let n := Decimal.truncate b.1
    if 0 ≤ n then .ok (naturalPower a n.toNat)
    else
      match quotient (1.0, 0.0) (naturalPower a n.natAbs) with
      | .ok power => .ok power
      | .error _ => .error (zeroDivision "0.0 to a negative or complex power")
  else polarPower a b

/-! Numbers of any kind. -/

def parts : Number → Except Fault (Float × Float)
  | .int n => (ofInt n).map (·, 0.0)
  | .float x => .ok (x, 0.0)
  | .complex re im => .ok (re, im)

def isComplex : Number → Bool
  | .complex _ _ => true
  | _ => false

def toFloat : Number → Except Fault Float
  | .int n => ofInt n
  | .float x => .ok x
  | .complex re _ => .ok re

structure Operation where
  ints : Int → Int → Except Fault Number
  floats : Float → Float → Except Fault Number
  complexes : Option (Float × Float → Float × Float → Except Fault Number)

def ofParts (parts : Float × Float) : Number := .complex parts.1 parts.2

namespace Operation

def add : Operation :=
  ⟨fun a b => .ok (.int (a + b)), fun x y => .ok (.float (x + y)),
   some fun a b => .ok (ofParts (a.1 + b.1, a.2 + b.2))⟩

def subtract : Operation :=
  ⟨fun a b => .ok (.int (a - b)), fun x y => .ok (.float (x - y)),
   some fun a b => .ok (ofParts (a.1 - b.1, a.2 - b.2))⟩

def multiply : Operation :=
  ⟨fun a b => .ok (.int (a * b)), fun x y => .ok (.float (x * y)), some fun a b => .ok (ofParts (product a b))⟩

def divide : Operation :=
  ⟨fun a b => if b = 0 then .error (zeroDivision "division by zero") else (intQuotient a b).map .float,
   fun x y => if y == 0.0 then .error (zeroDivision "float division by zero") else .ok (.float (x / y)),
   some fun a b => (quotient a b).map ofParts⟩

def floorDivide : Operation :=
  ⟨fun a b =>
    if b = 0 then .error (zeroDivision "integer division or modulo by zero") else .ok (.int (Int.fdiv a b)),
   fun x y =>
    if y == 0.0 then .error (zeroDivision "float floor division by zero") else .ok (.float (floatDivMod x y).1),
   none⟩

def remainder : Operation :=
  ⟨fun a b => if b = 0 then .error (zeroDivision "integer modulo by zero") else .ok (.int (Int.fmod a b)),
   fun x y => if y == 0.0 then .error (zeroDivision "float modulo") else .ok (.float (floatDivMod x y).2),
   none⟩

def power : Operation :=
  ⟨fun a b =>
    if 0 ≤ b then (intPower a b.toNat).map .int
    else do
      let x ← ofInt a
      let y ← ofInt b
      (floatPower x y).map .float,
   fun x y =>
    if x < 0.0 && Decimal.isFinite x && Decimal.isFinite y && !Decimal.isWhole y then
      (complexPower (x, 0.0) (y, 0.0)).map ofParts
    else (floatPower x y).map .float,
   some fun a b => (complexPower a b).map ofParts⟩

def run? (operation : Operation) (a b : Number) : Option (Except Fault Number) :=
  match a, b with
  | .int n, .int m => some (operation.ints n m)
  | a, b =>
    if a.isComplex || b.isComplex then
      operation.complexes.map fun run => do
        let x ← a.parts
        let y ← b.parts
        run x y
    else
      some do
        let x ← a.toFloat
        let y ← b.toFloat
        operation.floats x y

end Operation

/-! Bits. -/

-- The integer whose bits are those of two integers put together place by place. A negative integer has all the bits
-- that its complement has not.
def bitwise (natural : Nat → Nat → Nat) (onSigns : Bool → Bool → Bool) (a b : Int) : Int :=
  let width := max a.natAbs.log2 b.natAbs.log2 + 2
  let full := Decimal.weight 2 width
  let folded := fun (n : Int) => (n % (full : Int)).toNat
  let low := natural (folded a) (folded b) % full
  if onSigns (a < 0) (b < 0) then (low : Int) - full else low

def bitOr (a b : Int) : Int := bitwise Nat.lor or a b

def bitAnd (a b : Int) : Int := bitwise Nat.land and a b

def bitXor (a b : Int) : Int := bitwise Nat.xor xor a b

def shiftLeft (a b : Int) : Except Fault Int :=
  if b < 0 then .error (.valueError "negative shift count")
  else if a = 0 then .ok 0
  else if (bitLimit : Int) < b then .error noRoom
  else .ok (a * (Decimal.weight 2 b.toNat : Nat))

def shiftRight (a b : Int) : Except Fault Int :=
  if b < 0 then .error (.valueError "negative shift count")
  else if (a.natAbs.log2 : Int) + 1 < b then .ok (if a < 0 then -1 else 0)
  else .ok (Int.fdiv a (Decimal.weight 2 b.toNat : Nat))

end Number
end RestDispatch
