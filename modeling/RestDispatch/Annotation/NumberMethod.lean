import RestDispatch.Annotation.ByteMethod
import RestDispatch.Annotation.Reckoning

set_option autoImplicit false

/-!
Methods of numbers: their bytes, their bits, the ratios that they are, and floats in base sixteen.
-/
namespace RestDispatch.Meaning

def ratioOf (x : Float) : Int × Int :=
  let size := Decimal.Dyadic.ofBits x.toBits
  let above := size.mantissa * Decimal.weight 2 size.exponent.toNat
  let below := Decimal.weight 2 (-size.exponent).toNat
  let common := max (Nat.gcd above below) 1
  ((if Decimal.isNegative x then -1 else 1) * (above / common : Nat), (below / common : Nat))

def bytesFrom : Nat → Nat → Bytes
  | 0, _ => []
  | count + 1, n => UInt8.ofNat (n % 256) :: bytesFrom count (n / 256)

def isLittle (call : String) (m : Option Meaning) : Except Fault Bool :=
  match m with
  | none => .ok false
  | some (.text t) =>
    if t = Text.lettersOf "little" then .ok true
    else if t = Text.lettersOf "big" then .ok false
    else .error (.valueError "byteorder must be either 'little' or 'big'")
  | some m => .error (badArgument call "argument 'byteorder'" "str" m)

def intBytes (n : Int) (arguments : CallArguments) : Except Fault Meaning := do
  let call := "to_bytes"
  Places.check { call, names := ["length", "byteorder"], nameOnly := ["signed"] } arguments
  let length ← ((arguments.at? 0 "length").getD (.int 1)).sizeIndex
  let little ← isLittle call (arguments.at? 1 "byteorder")
  let signed := ((arguments.byName.lookup "signed").map truthy).getD false
  if length < 0 then .error (.valueError "length argument must be non-negative")
  if (elementLimit : Int) < length then .error noRoom
  let size := Decimal.weight 2 (8 * length.toNat)
  if n < 0 && !signed then .error (.of "OverflowError" "can't convert negative int to unsigned")
  else if (size : Int) ≤ (if signed then (if n < 0 then -2 * n - 1 else 2 * n) else n) then
    .error (.of "OverflowError" "int too big to convert")
  else
    let content := bytesFrom length.toNat (n % (size : Int)).toNat
    .ok (.bytes true (if little then content else content.reverse))

def intMethod? (n : Int) (name : String) (arguments : CallArguments) : Option (Except Fault Meaning) :=
  match name with
  | "bit_length" => some (.ok (.int (if n = 0 then 0 else n.natAbs.log2 + 1)))
  | "bit_count" => some (.ok (.int ((Nat.toDigits 2 n.natAbs).filter (· = '1')).length))
  | "conjugate" => some (.ok (.int n))
  | "as_integer_ratio" => some (.ok (.tuple [.int n, .int 1]))
  | "to_bytes" => some (intBytes n arguments)
  | _ => none

-- A float in base sixteen: the digit in front of the point says whether it has full precision, and the exponent is
-- one of two.
def hexFloat (x : Float) : String :=
  let field := ((x.toBits >>> 52) &&& 0x7FF).toNat
  let fraction := (x.toBits &&& 0xFFFFFFFFFFFFF).toNat
  let size :=
    if x.isNaN then "nan"
    else if !Decimal.isFinite x then "inf"
    else if field = 0 && fraction = 0 then "0x0.0p+0"
    else
      let (lead, exponent) : String × Int := if field = 0 then ("0", -1022) else ("1", (field : Int) - 1023)
      let sign := if exponent < 0 then "" else "+"
      s!"0x{lead}.{String.ofList (Text.hex 13 fraction)}p{sign}{exponent}"
  if Decimal.isNegative x && !x.isNaN then "-" ++ size else size

def hexDigits (cs : List Char) : List Char × List Char :=
  (cs.takeWhile (Literal.isDigitOf 16), cs.dropWhile (Literal.isDigitOf 16))

def hexExponent? (cs : List Char) : Option Int :=
  match cs with
  | [] => some 0
  | mark :: rest =>
    if mark.toLower ≠ 'p' then none
    else
      let (negative, digits) := match rest with
        | '-' :: digits => (true, digits)
        | '+' :: digits => (false, digits)
        | digits => (false, digits)
      if digits.isEmpty || !digits.all Char.isDigit then none
      else
        let size : Int := Literal.valueIn 10 digits
        some (if negative then -size else size)

def floatWords : List (String × Float) :=
  [("inf", 1.0 / 0.0), ("infinity", 1.0 / 0.0), ("nan", 0.0 / 0.0)]

def floatOfHex (cs : List Char) : Except Fault Float := do
  let invalid : Fault := .valueError "invalid hexadecimal floating-point string"
  let (negative, rest) := match cs with
    | '-' :: rest => (true, rest)
    | '+' :: rest => (false, rest)
    | rest => (false, rest)
  let size ← match floatWords.lookup (String.ofList (rest.map Char.toLower)) with
    | some x => .ok x
    | none => do
      let rest := match rest with
        | '0' :: mark :: after => if mark.toLower = 'x' then after else rest
        | rest => rest
      let (whole, rest) := hexDigits rest
      let (fraction, rest) := match rest with
        | '.' :: after => hexDigits after
        | rest => ([], rest)
      match hexExponent? rest with
      | none => .error invalid
      | some exponent =>
        if whole.isEmpty && fraction.isEmpty then .error invalid
        else
          match Number.nearest? (Literal.valueIn 16 (whole ++ fraction)) (exponent - 4 * (fraction.length : Int)) with
          | some x => .ok x
          | none => .error (.of "OverflowError" "hexadecimal value too large to represent as a float")
  .ok (if negative then -size else size)

def floatMethod? (x : Float) (name : String) : Option (Except Fault Meaning) :=
  match name with
  | "is_integer" => some (.ok (.truth (Decimal.isFinite x && Decimal.isWhole x)))
  | "conjugate" => some (.ok (.float x))
  | "hex" => some (.ok (ofString (hexFloat x)))
  | "as_integer_ratio" =>
    some (
      if x.isNaN then .error (.valueError "cannot convert NaN to integer ratio")
      else if !Decimal.isFinite x then .error (.of "OverflowError" "cannot convert Infinity to integer ratio")
      else .ok (.tuple [.int (ratioOf x).1, .int (ratioOf x).2]))
  | _ => none

/-! Functions that belong to classes of numbers. -/

def asBytes (m : Meaning) : Except Fault Bytes :=
  let refuse := Except.error (Fault.typeError s!"cannot convert '{m.kindName}' object to bytes")
  match m, m.bytesIn? with
  | _, some content => .ok content
  | .text _, none => refuse
  | m, none =>
    match m.elements with
    | .ok items => items.mapM (byteOf "bytes")
    | .error failure => if m matches .stream _ _ _ then .error failure else refuse

def intFromBytes (arguments : CallArguments) : Except Fault Meaning := do
  let call := "from_bytes"
  Places.check { call, names := ["bytes", "byteorder"], nameOnly := ["signed"], required := 1 } arguments
  let little ← isLittle call (arguments.at? 1 "byteorder")
  let content ← ((arguments.at? 0 "bytes").getD .nothing).asBytes
  let value := (if little then content.reverse else content).foldl (fun n byte => n * 256 + byte.toNat) 0
  let signed := ((arguments.byName.lookup "signed").map truthy).getD false
  let size := Decimal.weight 2 (8 * content.length)
  .ok (.int (if signed && size ≤ 2 * value then (value : Int) - size else value))

def floatFromHex (m : Meaning) : Except Fault Meaning :=
  match m with
  | .text t =>
    match Text.chars? t with
    | some cs => (floatOfHex (Text.trimBy Text.isBasicBlank cs)).map .float
    | none => .error (.valueError "invalid hexadecimal floating-point string")
  | _ => .error (.typeError "bad argument type for built-in operation")

end RestDispatch.Meaning
