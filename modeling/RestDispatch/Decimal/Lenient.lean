import RestDispatch.Decimal.Numeral

set_option autoImplicit false

/-!
Integers in the lenient reading of data: blanks around the number, zeros in front of it, single underscores
inside and a fraction of zeros after it do not matter. Only basic digits count.
-/
namespace RestDispatch.Decimal

open RestDispatch.Text

def withoutZeroFraction (cs : List Char) : List Char :=
  match cut? '.' cs with
  | some (whole, fraction) => if !fraction.isEmpty && fraction.all (· = '0') then whole else cs
  | none => cs

def startsNumber (c : Char) : Bool := (c.isDigit && c ≠ '0') || c = '-' || c = '.'

def isZeroOrUnderscore (c : Char) : Bool := c = '0' || c = '_'

-- The text without the zeros at its start, among which underscores may stand. Of a text that holds nothing else the
-- last character is left.
def withoutLeadingZeros? (cs : List Char) : Option (List Char) :=
  match cs with
  | [] => none
  | first :: rest =>
    if first = '0' then
      match rest.dropWhile isZeroOrUnderscore with
      | [] => some [rest.getLastD first]
      | next :: others => if startsNumber next then some (next :: others) else none
    else if startsNumber first && first ≠ '.' then some cs
    else none

-- The text without underscores, if they stand singly and inside; else the text as it is.
def withoutUnderscores (cs : List Char) : List Char :=
  if (split '_' cs).any (·.isEmpty) then cs else cs.filter (· ≠ '_')

def plainInteger? (cs : List Char) : Option (List Char) :=
  match withoutZeroFraction cs with
  | '+' :: '-' :: _ => none
  | '+' :: rest => withoutLeadingZeros? rest
  | '-' :: rest => (withoutLeadingZeros? rest).map ('-' :: ·)
  | rest => withoutLeadingZeros? rest

-- The integer that a text without anything superfluous stands for. The number of digits is looked at before what
-- follows them.
def readPlainInteger (cs : List Char) : Except NumeralError Int :=
  let (negative, unsigned) :=
    match cs with
    | '-' :: rest => (true, rest)
    | rest => (false, rest)
  let (digits, after) := wholeDigits unsigned
  if digits.isEmpty then .error .malformed
  else if digits.length > digitLimit then .error (.overlong digits.length)
  else if !after.isEmpty then .error .malformed
  else
    let size : Int := digitsValue digits
    .ok (if negative then -size else size)

-- The integer that a text stands for once everything superfluous is removed; one of too many digits is none.
def readCleanedInteger (cs : List Char) : Except NumeralError Int :=
  match plainInteger? (trimBy isWhiteSpace cs) with
  | some plain => (readPlainInteger (withoutUnderscores plain)).mapError fun _ => .malformed
  | none => .error .malformed

-- The integer that a text stands for in the lenient reading. The text is read as it is first.
def readLenientInt (cs : List Char) : Except NumeralError Int :=
  match readPlainInteger cs with
  | .error .malformed => readCleanedInteger cs
  | result => result

end RestDispatch.Decimal
