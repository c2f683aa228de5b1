import RestDispatch.Decimal.Dyadic

set_option autoImplicit false

/-!
The text of a float: the fewest digits that read back to it, of those the nearest, a tie going to the
even one. Numbers from 0.0001 up to below 10 ^ 16 are written positionally with a point, all others
with one digit before the point and a signed exponent of two digits or more.
-/
namespace RestDispatch.Decimal

def Dyadic.readsBack (size : Dyadic) (digits : Nat) (tens : Int) : Bool :=
  let closed := size.mantissa % 2 = 0
  let below := compareScaled digits tens (4 * size.mantissa - (if size.narrow then 1 else 2)) (size.exponent - 2)
  let above := compareScaled digits tens (4 * size.mantissa + 2) (size.exponent - 2)
  (below = .gt || (closed && below = .eq)) && (above = .lt || (closed && above = .eq))

-- The least number of places before the point: `10 ^ places` is above the value.
def Dyadic.places (size : Dyadic) : Int :=
  let estimate := ((size.mantissa.log2 : Int) + size.exponent) * 30103 / 100000 - 1
  let candidates := (List.range 6).map fun (step : Nat) => estimate + (step : Int)
  (candidates.find? fun places => compareScaled 1 places size.mantissa size.exponent = .gt).getD (estimate + 6)

def Dyadic.inUnits (size : Dyadic) (tens : Int) : Nat :=
  size.mantissa * weight 2 size.exponent.toNat * weight 10 (-tens).toNat /
    (weight 2 (-size.exponent).toNat * weight 10 tens.toNat)

def Dyadic.onGrid? (size : Dyadic) (tens : Int) : Option Nat :=
  let down := size.inUnits tens
  match size.readsBack down tens, size.readsBack (down + 1) tens with
  | true, true =>
    match compareScaled (2 * down + 1) tens (2 * size.mantissa) size.exponent with
    | .gt => some down
    | .lt => some (down + 1)
    | .eq => some (if down % 2 = 0 then down else down + 1)
  | true, false => some down
  | false, true => some (down + 1)
  | false, false => none

def Dyadic.shortest (size : Dyadic) : Nat × Int :=
  let places := size.places
  let found := (List.range 17).findSome? fun (count : Nat) =>
    let tens := places - (count + 1 : Int)
    (size.onGrid? tens).map fun digits => (digits, tens)
  found.getD (size.inUnits (places - 17), places - 17)

def dropZeros : Nat → Nat → Int → Nat × Int
  | 0, digits, tens => (digits, tens)
  | fuel + 1, digits, tens =>
    if digits ≠ 0 && digits % 10 = 0 then dropZeros fuel (digits / 10) (tens + 1) else (digits, tens)

-- How digits are laid out: the point lies among them, or among zeros next to them, if it comes after more than
-- `lowest` of them and after sixteen at most. Otherwise there is an exponent.
structure Layout where
  lowest : Int
  exponent : Int → List Char

def Layout.usual : Layout where
  lowest := -4
  exponent := fun n =>
    let size := Nat.toDigits 10 n.natAbs
    (if n < 0 then '-' else '+') :: (List.replicate (2 - size.length) '0' ++ size)

def Layout.brief : Layout where
  lowest := -5
  exponent := fun n => (if n < 0 then ['-'] else []) ++ Nat.toDigits 10 n.natAbs

def Layout.place (layout : Layout) (digits : List Char) (point : Int) : List Char :=
  let count : Int := digits.length
  if layout.lowest < point && point ≤ 16 then
    if point ≤ 0 then '0' :: '.' :: List.replicate (-point).toNat '0' ++ digits
    else if point < count then digits.take point.toNat ++ '.' :: digits.drop point.toNat
    else digits ++ List.replicate (point - count).toNat '0' ++ ['.', '0']
  else
    let tail := if digits.length = 1 then [] else '.' :: digits.drop 1
    digits.take 1 ++ tail ++ 'e' :: layout.exponent (point - 1)

def textIn (layout : Layout) (x : Float) : List Char :=
  let size := Dyadic.ofBits x.toBits
  let unsigned :=
    if size.mantissa = 0 then ['0', '.', '0']
    else
      let (digits, tens) := size.shortest
      let (digits, tens) := dropZeros 20 digits tens
      let written := Nat.toDigits 10 digits
      layout.place written (tens + written.length)
  if isNegative x then '-' :: unsigned else unsigned

def finiteText (x : Float) : List Char := textIn .usual x

end RestDispatch.Decimal
