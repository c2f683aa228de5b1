import RestDispatch.Annotation.Construct

set_option autoImplicit false

/-!
Functions of numbers: rounding, powers, quotients and sizes.
-/
namespace RestDispatch.Meaning

def basedText (code : Char) (m : Meaning) : Except Fault Meaning := do
  let n ← m.index
  let (mark, digits) ← FormatSpec.intDigits code n.natAbs
  .ok (.text (Text.letters ((if n < 0 then ['-'] else []) ++ mark ++ digits)))

-- An integer rounded to a power of ten, a half going to the even side.
def roundedInt (n : Int) (places : Nat) : Int :=
  let unit := Decimal.weight 10 places
  let down := n.natAbs / unit
  let up := match Ord.compare (2 * (n.natAbs % unit)) unit with
    | .lt => down
    | .gt => down + 1
    | .eq => if down % 2 = 0 then down else down + 1
  let size : Int := (up * unit : Nat)
  if n < 0 then -size else size

def nearestInt (x : Float) : Except Fault Meaning :=
  if x.isNaN then .error (.valueError "cannot convert float NaN to integer")
  else if !Decimal.isFinite x then .error (.of "OverflowError" "cannot convert float infinity to integer")
  else
    let size : Int := (Decimal.Dyadic.ofBits x.toBits).roundedUnits 0
    .ok (.int (if Decimal.isNegative x then -size else size))

def roundedFloat (x : Float) (places : Int) : Float :=
  if !Decimal.isFinite x || 330 < places then x
  else if places < -330 then Number.withSignOf 0.0 x
  else Decimal.toFloat (Decimal.isNegative x) ((Decimal.Dyadic.ofBits x.toBits).roundedUnits (-places)) (-places)

def notRoundable (m : Meaning) : Fault := .typeError s!"type {m.kindName} doesn't define __round__ method"

def roundedWhole (m : Meaning) : Except Fault Meaning :=
  match m.integer?, m with
  | some n, _ => .ok (.int n)
  | none, .float x => nearestInt x
  | none, m => .error (notRoundable m)

def roundedTo (places m : Meaning) : Except Fault Meaning :=
  match m.integer?, m with
  | some n, _ => do
    let places ← places.index
    .ok (.int (if places < 0 then roundedInt n (-places).toNat else n))
  | none, .float x => do .ok (.float (roundedFloat x (← places.index)))
  | none, m => .error (notRoundable m)

def roundOf (arguments : CallArguments) : Except Fault Meaning := do
  Places.check { call := "round", names := ["number", "ndigits"], required := 1 } arguments
  let m := (arguments.at? 0 "number").getD .nothing
  match (arguments.at? 1 "ndigits").getD .nothing with
  | .nothing => roundedWhole m
  | places => roundedTo places m

def powerModulo (modulus : Nat) : Nat → Nat → Nat → Nat
  | 0, _, _ => 1 % modulus
  | fuel + 1, base, exponent =>
    if exponent = 0 then 1 % modulus
    else
      let half := powerModulo modulus fuel (base * base % modulus) (exponent / 2)
      if exponent % 2 = 1 then half * base % modulus else half

-- The number that times another one leaves one, if there is one. Remainders get smaller, so as much fuel as the
-- modulus has bits, twice, suffices.
def inverse? (modulus : Nat) : Nat → Int → Int → Int → Int → Option Int
  | 0, _, _, _, _ => none
  | fuel + 1, rest, next, factor, nextFactor =>
    if next = 0 then if rest = 1 then some (factor % modulus) else none
    else inverse? modulus fuel next (rest % next) nextFactor (factor - rest / next * nextFactor)

def isFloat : Meaning → Bool
  | .float _ => true
  | _ => false

def powerModuloOf (base exponent modulus : Meaning) : Except Fault Meaning :=
  match base.integer?, exponent.integer?, modulus.integer? with
  | some b, some e, some m =>
    if m = 0 then .error (.valueError "pow() 3rd argument cannot be 0")
    else do
      let size := m.natAbs
      let b ← if 0 ≤ e then .ok (b % m).toNat
        else
          match inverse? size (2 * size.log2 + 4) size (b % m) 0 1 with
          | some found => .ok (found % m).toNat
          | none => .error (.valueError "base is not invertible for the given modulus")
      let power := powerModulo size (e.natAbs.log2 + 2) b e.natAbs
      .ok (.int (Int.fmod power m))
  | _, _, _ =>
    let operands := [base, exponent, modulus]
    let isComplex := fun (m : Meaning) => (m.asNumber?).any Number.isComplex
    if operands.any isFloat then
      .error (.typeError "pow() 3rd argument not allowed unless all arguments are integers")
    else if [base, exponent].all (·.asNumber?.isSome) && operands.any isComplex then
      .error (.valueError "complex modulo")
    else
      let kinds := String.intercalate ", " (operands.map fun m => "'" ++ m.kindName ++ "'")
      .error (.typeError ("unsupported operand type(s) for ** or pow(): " ++ kinds))

def powOf (arguments : CallArguments) : Except Fault Meaning := do
  Places.check { call := "pow", names := ["base", "exp", "mod"], required := 2 } arguments
  let base := (arguments.at? 0 "base").getD .nothing
  let exponent := (arguments.at? 1 "exp").getD .nothing
  match (arguments.at? 2 "mod").getD .nothing with
  | .nothing => binary .power base exponent
  | modulus => powerModuloOf base exponent modulus

def quotientAndRest (a b : Meaning) : Except Fault Meaning :=
  match a.asNumber?, b.asNumber? with
  | some (.int _), some (.int _) => do .ok (.tuple [← binary .floorDivide a b, ← binary .remainder a b])
  | some x, some y =>
    if x.isComplex || y.isComplex then refuse
    else do
      let divisor ← y.toFloat
      if divisor == 0.0 then .error (Number.zeroDivision "float divmod()")
      let (quotient, rest) := Number.floatDivMod (← x.toFloat) divisor
      .ok (.tuple [.float quotient, .float rest])
  | _, _ => refuse
where
  refuse : Except Fault Meaning :=
    .error (.typeError s!"unsupported operand type(s) for divmod(): '{a.kindName}' and '{b.kindName}'")

def divmodOf (arguments : CallArguments) : Except Fault Meaning := do
  match ← arguments.between "divmod" 2 2 with
  | [a, b] => quotientAndRest a b
  | _ => .ok .nothing

def absOf (m : Meaning) : Except Fault Meaning :=
  match m.asNumber? with
  | some (.int n) => .ok (.int n.natAbs)
  | some (.float x) => .ok (.float x.abs)
  | some (.complex re im) =>
    let endless := fun (x : Float) => !x.isNaN && !Decimal.isFinite x
    if endless re || endless im then .ok (.float (1.0 / 0.0))
    else if re.isNaN || im.isNaN then .ok (.float (0.0 / 0.0))
    else
      match Number.length? re im with
      | some x => .ok (.float x)
      | none => .error (.of "OverflowError" "absolute value too large")
  | none => .error (.typeError s!"bad operand type for abs(): '{m.kindName}'")

end RestDispatch.Meaning
