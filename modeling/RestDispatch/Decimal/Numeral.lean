import RestDispatch.Decimal.Dyadic
import RestDispatch.Text.Blank
import RestDispatch.Text.LetterClass
import RestDispatch.Text.Case
import RestDispatch.Text.Split

set_option autoImplicit false

/-!
Reading numbers from text. Digits of every script count as decimal digits, blanks around the number
are skipped, and one underscore may stand between two digits. An integer has at most 4300 digits.
-/
namespace RestDispatch.Decimal

open RestDispatch.Text

def digitLimit : Nat := 4300

inductive NumeralError where
  | malformed
  | overlong (digits : Nat)
deriving DecidableEq, Repr

-- A basic character for every digit and blank; whatever else is not basic becomes a question mark.
def basicForm : Letter → Char
  | .half _ => '?'
  | .char c =>
    if c.toNat < 127 then c
    else if isBlank c then ' '
    else match digitValue? c with
      | some value => Char.ofNat (48 + value)
      | none => '?'

def numeralText (text : List Letter) : List Char := trimBy isBasicBlank (text.map basicForm)

def readSign : List Char → Bool × List Char
  | '-' :: rest => (true, rest)
  | '+' :: rest => (false, rest)
  | rest => (false, rest)

def digitsValue (digits : List Char) : Nat :=
  digits.foldl (fun value digit => 10 * value + (digit.toNat - 48)) 0

def takeDigits (cs : List Char) : List Char × List Char := (cs.takeWhile Char.isDigit, cs.dropWhile Char.isDigit)

def wholeDigits : List Char → List Char × List Char
  | '0' :: rest => (['0'], rest)
  | cs => takeDigits cs

def dropUnderscores : Bool → List Char → Option (List Char)
  | _, [] => some []
  | afterDigit, c :: cs =>
    if c = '_' then
      match cs with
      | d :: _ => if afterDigit && d.isDigit then dropUnderscores false cs else none
      | [] => none
    else (dropUnderscores c.isDigit cs).map (c :: ·)

def isRunChar (c : Char) : Bool := c.isDigit || c = '_'

-- The integer that a text stands for. A digit stands on both sides of every underscore; the number of digits is
-- looked at before what follows them.
def readInt (text : List Letter) : Except NumeralError Int :=
  let (negative, rest) := readSign (numeralText text)
  let groups := split '_' (rest.takeWhile isRunChar)
  let digits := groups.flatten
  if groups.any (·.isEmpty) then .error .malformed
  else if digits.length > digitLimit then .error (.overlong digits.length)
  else if (rest.dropWhile isRunChar).isEmpty then
    let size : Int := digitsValue digits
    .ok (if negative then -size else size)
  else .error .malformed

def readExponent : List Char → Option (Int × List Char)
  | [] => some (0, [])
  | c :: cs =>
    if c = 'e' || c = 'E' then
      let (negative, rest) := readSign cs
      let (digits, after) := takeDigits rest
      if digits.isEmpty then none
      else
        let size : Int := digitsValue digits
        some (if negative then -size else size, after)
    else some (0, c :: cs)

def readDecimal? (negative : Bool) (cs : List Char) : Option Float :=
  let (whole, rest) := takeDigits cs
  let (fraction, rest) :=
    match rest with
    | '.' :: rest => takeDigits rest
    | rest => ([], rest)
  if whole.isEmpty && fraction.isEmpty then none
  else match readExponent rest with
    | some (exponent, []) =>
      some (toFloat negative (digitsValue (whole ++ fraction)) (exponent - (fraction.length : Int)))
    | _ => none

def readSpecial? (negative : Bool) (cs : List Char) : Option Float :=
  let word := String.ofList (cs.map Char.toLower)
  if word = "inf" || word = "infinity" then some (if negative then -1.0 / 0.0 else 1.0 / 0.0)
  else if word = "nan" then some (0.0 / 0.0)
  else none

def readFloatText? (cs : List Char) : Option Float :=
  let (negative, rest) := readSign cs
  match readSpecial? negative rest with
  | some x => some x
  | none => readDecimal? negative rest

def readFloat? (text : List Letter) : Option Float :=
  (dropUnderscores false (numeralText text)).bind readFloatText?

end RestDispatch.Decimal
