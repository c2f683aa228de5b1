import RestDispatch.Decimal.Shortest

set_option autoImplicit false

/-!
Decimals of a float with a given number of digits: the nearest ones, a tie going to the even digit.
-/
namespace RestDispatch.Decimal

-- The value in units of `10 ^ tens`, rounded to the nearest, a tie going to the even number.
def Dyadic.roundedUnits (size : Dyadic) (tens : Int) : Nat :=
  let dividend := size.mantissa * weight 2 size.exponent.toNat * weight 10 (-tens).toNat
  let divisor := weight 2 (-size.exponent).toNat * weight 10 tens.toNat
  let down := dividend / divisor
  match compare (2 * (dividend % divisor)) divisor with
  | .lt => down
  | .gt => down + 1
  | .eq => if down % 2 = 0 then down else down + 1

def Dyadic.significant (size : Dyadic) (count : Nat) : Nat × Int :=
  if size.mantissa = 0 then (0, 0)
  else
    let first := size.places - 1
    let digits := size.roundedUnits (first - (count : Int) + 1)
    if digits = weight 10 count then (weight 10 (count - 1), first + 1) else (digits, first)

def digitsOf (count n : Nat) : List Char :=
  let digits := Nat.toDigits 10 n
  List.replicate (count - digits.length) '0' ++ digits

def pointed (keepPoint : Bool) (digits : List Char) (whole : Nat) : List Char :=
  let fraction := digits.drop whole
  digits.take whole ++ (if fraction.isEmpty && !keepPoint then [] else '.' :: fraction)

def fixedText (keepPoint : Bool) (count : Nat) (x : Float) : List Char :=
  let digits := digitsOf (count + 1) ((Dyadic.ofBits x.toBits).roundedUnits (-(count : Int)))
  pointed keepPoint digits (digits.length - count)

def exponentText (exponent : Int) : List Char :=
  'e' :: (if exponent < 0 then '-' else '+') :: digitsOf 2 exponent.natAbs

def exponentialText (keepPoint : Bool) (count : Nat) (x : Float) : List Char :=
  let (digits, first) := (Dyadic.ofBits x.toBits).significant (count + 1)
  pointed keepPoint (digitsOf (count + 1) digits) 1 ++ exponentText first

def withoutTrailingZeros (cs : List Char) : List Char :=
  if cs.contains '.' then
    match (cs.reverse.dropWhile (· = '0')) with
    | '.' :: rest => rest.reverse
    | rest => rest.reverse
  else cs

-- The size of a float with so many digits in all, positionally unless it is too small for it or its digits end
-- before the point. Zeros at the end are left out unless all digits are kept. `shift` says how many places earlier
-- the positional form ends.
def generalText (keepAll : Bool) (shift : Int) (count : Nat) (x : Float) : List Char :=
  let count := max count 1
  let (digits, first) := (Dyadic.ofBits x.toBits).significant count
  let digits := digitsOf count digits
  let trim := if keepAll then id else withoutTrailingZeros
  if -4 ≤ first && first < (count : Int) - shift then
    if first < 0 then trim (pointed keepAll (List.replicate (-first).toNat '0' ++ digits) 1)
    else trim (pointed keepAll digits (first.toNat + 1))
  else trim (pointed keepAll digits 1) ++ exponentText first

end RestDispatch.Decimal
