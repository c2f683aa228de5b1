import RestDispatch.Annotation.Number
import RestDispatch.Decimal.Rounded
import RestDispatch.Text.Unicode
import RestDispatch.Value.Printed

set_option autoImplicit false

/-!
Format specifications: how texts and numbers are laid out in a given width.
-/
namespace RestDispatch

structure FormatSpec where
  fill : Letter := .char ' '
  align : Option Char := none
  sign : Option Char := none
  positiveZero : Bool := false
  alternate : Bool := false
  width : Nat := 0
  grouping : Option Char := none
  precision : Option Nat := none
  code : Option Letter := none

namespace FormatSpec

def alignments : List Letter := Text.letters ['<', '>', '=', '^']

def signMarks : List Letter := Text.letters [' ', '+', '-']

def charOf : Letter → Char
  | .char c => c
  | .half _ => '\ufffd'

def readAlignment (t : List Letter) : FormatSpec × Bool × List Letter :=
  match t with
  | fill :: align :: rest =>
    if align ∈ alignments then ({ fill, align := some (charOf align) }, true, rest)
    else if fill ∈ alignments then ({ align := some (charOf fill) }, false, align :: rest)
    else ({}, false, t)
  | [align] => if align ∈ alignments then ({ align := some (charOf align) }, false, []) else ({}, false, t)
  | [] => ({}, false, [])

def takeMark (marks : List Letter) : List Letter → Option Char × List Letter
  | letter :: rest => if letter ∈ marks then (some (charOf letter), rest) else (none, letter :: rest)
  | [] => (none, [])

def digit? : Letter → Option Nat
  | .char c => Text.digitValue? c
  | .half _ => none

def numberLimit : Nat := 9223372036854775807

def roomLimit : Nat := 10000000

def readNumber (t : List Letter) : Except Fault (Option Nat × List Letter) :=
  let digits := (t.takeWhile fun letter => (digit? letter).isSome).filterMap digit?
  let number := digits.foldl (fun n digit => 10 * n + digit) 0
  if digits.isEmpty then .ok (none, t)
  else if numberLimit < number then .error (.valueError "Too many decimal digits in format string")
  else .ok (some number, t.drop digits.length)

def readGrouping (t : List Letter) : Except Fault (Option Char × List Letter) :=
  let both : Fault := .valueError "Cannot specify both ',' and '_'."
  let (comma, rest) := takeMark [.char ','] t
  let (underscore, rest) := takeMark [.char '_'] rest
  if comma.isSome && underscore.isSome then .error both
  else if underscore.isSome && rest.head? = some (.char ',') then .error both
  else .ok (comma.or underscore, rest)

def codeText (letter : Letter) : String :=
  match letter with
  | .char c => if 32 < c.toNat && c.toNat < 128 then String.ofList [c] else "\\x" ++ String.ofList (Nat.toDigits 16 c.toNat)
  | .half unit => "\\x" ++ String.ofList (Nat.toDigits 16 unit)

def checkGrouping (spec : FormatSpec) (code : Option Letter) : Except Fault Unit :=
  match spec.grouping, code with
  | some mark, some letter =>
    if letter ∈ Text.letters "defgEG%F".toList || (mark = '_' && letter ∈ Text.letters "boxX".toList) then .ok ()
    else .error (.valueError s!"Cannot specify '{String.ofList [mark]}' with '{codeText letter}'.")
  | _, _ => .ok ()

-- Reads the specification of a thing of some kind. Texts stand at the left if nothing is said, and `default` is the
-- code of their form.
def read (kind : String) (isText : Bool) (default : Option Letter) (t : List Letter) : Except Fault FormatSpec := do
  let (spec, filled, rest) := readAlignment t
  let (sign, rest) := takeMark signMarks rest
  let (coercion, rest) := takeMark [.char 'z'] rest
  let (alternate, rest) := takeMark [.char '#'] rest
  let (zero, rest) := if filled then (none, rest) else takeMark [.char '0'] rest
  let fill := if zero.isSome then .char '0' else spec.fill
  let align := if zero.isSome && !isText then spec.align.or (some '=') else spec.align
  let (width, rest) ← readNumber rest
  let (grouping, rest) ← readGrouping rest
  let (precision, rest) ← match rest with
    | .char '.' :: rest => do
      let (precision, rest) ← readNumber rest
      if precision.isNone then .error (.valueError "Format specifier missing precision")
      .ok (precision, rest)
    | rest => .ok (none, rest)
  if 1 < rest.length then
    .error (.valueError s!"Invalid format specifier '{Text.held t}' for object of type '{kind}'")
  if width.any (roomLimit < ·) then .error Number.noRoom
  let code := rest.head?.or default
  let spec :=
    { fill, align, sign, positiveZero := coercion.isSome, alternate := alternate.isSome, width := width.getD 0, grouping,
      precision, code : FormatSpec }
  spec.checkGrouping code
  .ok spec

def unknownCode (kind : String) (code : Letter) : Fault :=
  .valueError s!"Unknown format code '{codeText code}' for object of type '{kind}'"

-- Fills a text up to the width. What is aligned inside has the filling after its head.
def padded (spec : FormatSpec) (default : Char) (head content : List Letter) : List Letter :=
  let missing := spec.width - (head.length + content.length)
  let fill := fun count => List.replicate count spec.fill
  match spec.align.getD default with
  | '<' => head ++ content ++ fill missing
  | '^' => fill (missing / 2) ++ head ++ content ++ fill (missing - missing / 2)
  | '=' => head ++ fill missing ++ content
  | _ => fill missing ++ head ++ content

/-! Texts. -/

def textRefusal? (spec : FormatSpec) : Option String :=
  if spec.sign = some ' ' then some "Space not allowed in string format specifier"
  else if spec.sign.isSome then some "Sign not allowed in string format specifier"
  else if spec.positiveZero then some "Negative zero coercion (z) not allowed in string format specifier"
  else if spec.alternate then some "Alternate form (#) not allowed in string format specifier"
  else if spec.align = some '=' then some "'=' alignment not allowed in string format specifier"
  else none

def ofText (specification t : List Letter) : Except Fault (List Letter) := do
  let spec ← read "str" true (some (.char 's')) specification
  match spec.code with
  | some (.char 's') =>
    match spec.textRefusal? with
    | some refusal => .error (.valueError refusal)
    | none => .ok (spec.padded '<' [] (t.take (spec.precision.getD t.length)))
  | code => .error (unknownCode "str" (code.getD (.char 's')))

/-! Numbers. -/

def signText (sign : Option Char) (negative : Bool) : List Char :=
  if negative then ['-']
  else
    match sign with
    | some '+' => ['+']
    | some ' ' => [' ']
    | _ => []

-- Digits, the last one first, with a mark after every so many.
def groupedFrom (mark : Char) (size : Nat) : Nat → List Char → List Char
  | _, [] => []
  | 0, c :: cs => mark :: c :: groupedFrom mark size (size - 1) cs
  | left + 1, c :: cs => c :: groupedFrom mark size left cs

def grouped (mark : Option Char) (size : Nat) (digits : List Char) : List Char :=
  match mark with
  | none => digits
  | some mark => (groupedFrom mark size size digits.reverse).reverse

def groupedToWidth (mark : Option Char) (size width : Nat) (digits : List Char) : List Char :=
  let counts := (List.range (width + 1)).map fun more => List.replicate more '0' ++ digits
  ((counts.map (grouped mark size)).find? fun cs => width ≤ cs.length).getD (grouped mark size digits)

def number (spec : FormatSpec) (size : Nat) (sign base digits rest : List Char) : List Letter :=
  let head := sign ++ base
  let width :=
    if spec.fill = .char '0' && spec.align = some '=' && spec.grouping.isSome then spec.width - (head.length + rest.length)
    else 0
  spec.padded '>' (Text.letters head) (Text.letters (groupedToWidth spec.grouping size width digits ++ rest))

def lowerCode (code : Option Letter) : Option Char := code.map fun letter => (charOf letter).toLower

def isUpperCode (code : Option Letter) : Bool := code.any fun letter => letter ∈ Text.letters "EFGX".toList

def floatSize (spec : FormatSpec) (x : Float) : List Char :=
  let size := x.abs
  let count := spec.precision.getD 6
  let text :=
    if x.isNaN then "nan".toList
    else if !Decimal.isFinite x then "inf".toList
    else
      match lowerCode spec.code with
      | some 'f' => Decimal.fixedText spec.alternate count size
      | some '%' => Decimal.fixedText spec.alternate count size ++ ['%']
      | some 'e' => Decimal.exponentialText spec.alternate count size
      | some _ => Decimal.generalText spec.alternate 0 count size
      | none =>
        match spec.precision with
        | none => Decimal.finiteText size
        | some count =>
          let text := Decimal.generalText spec.alternate 1 count size
          if text.all Char.isDigit then text ++ ['.', '0'] else text
  if isUpperCode spec.code then text.map Char.toUpper else text

def isZeroText (cs : List Char) : Bool := (cs.takeWhile (· ≠ 'e')).all fun c => !c.isDigit || c = '0'

def float (spec : FormatSpec) (x : Float) : List Letter :=
  let percent := lowerCode spec.code = some '%'
  let text := floatSize spec (if percent then x * 100.0 else x)
  let text := if percent && !Decimal.isFinite x then text ++ ['%'] else text
  let negative := Decimal.isNegative x && !x.isNaN && !(spec.positiveZero && isZeroText text)
  spec.number 3 (signText spec.sign negative) [] (text.takeWhile Char.isDigit) (text.dropWhile Char.isDigit)

def floatCodes : List Letter := Text.letters "eEfFgGn%".toList

def ofFloat (specification : List Letter) (x : Float) : Except Fault (List Letter) := do
  let spec ← read "float" false none specification
  match spec.code with
  | none => .ok (spec.float x)
  | some code => if code ∈ floatCodes then .ok (spec.float x) else .error (unknownCode "float" code)

-- A part of a complex number. Without a code it has no fraction that says nothing.
def complexPart (spec : FormatSpec) (x : Float) : List Char :=
  match spec.code, spec.precision with
  | none, none =>
    let text := spec.floatSize x
    if ['.', '0'].isSuffixOf text then text.take (text.length - 2) else text
  | none, some _ => { spec with code := some (.char 'g') }.floatSize x
  | _, _ => spec.floatSize x

-- A complex number as a specification says. Without a code the real part is left out if it is a zero without a
-- sign, and brackets stand around both parts if it is there.
def ofComplex (specification : List Letter) (re im : Float) : Except Fault (List Letter) := do
  let spec ← read "complex" false none specification
  if spec.code.any fun code => code ∉ floatCodes || code = .char '%' then
    .error (unknownCode "complex" (spec.code.getD (.char ' ')))
  else if spec.fill = .char '0' && spec.align = some '=' then
    .error (.valueError "Zero padding is not allowed in complex format specifier")
  else if spec.align = some '=' then
    .error (.valueError "'=' alignment flag is not allowed in complex format specifier")
  else
    let plain := spec.code.isNone
    let alone := plain && re == 0.0 && !Decimal.isNegative re
    let own := fun (sign : Option Char) (x : Float) =>
      signText sign (Decimal.isNegative x && !x.isNaN) ++ spec.complexPart x
    let text :=
      if alone then own spec.sign im ++ ['j']
      else own spec.sign re ++ own (some '+') im ++ ['j']
    .ok (spec.padded '>' [] (Text.letters (if plain && !alone then '(' :: text ++ [')'] else text)))

def bases : List (Char × Nat × List Char) :=
  [('b', 2, ['0', 'b']), ('o', 8, ['0', 'o']), ('x', 16, ['0', 'x']), ('X', 16, ['0', 'X'])]

-- The digits of a size in a base, or in decimal if the code names no base.
def intDigits (code : Char) (size : Nat) : Except Fault (List Char × List Char) :=
  match bases.lookup code with
  | some (base, mark) =>
    let digits := Nat.toDigits base size
    .ok (mark, if code = 'X' then digits.map Char.toUpper else digits)
  | none =>
    match Value.intText? size with
    | some digits => .ok ([], digits)
    | none => .error .overlongOutput

def character (n : Int) : Except Fault Letter :=
  if n < 0 || 0x10FFFF < n then .error (.of "OverflowError" "%c arg not in range(0x110000)")
  else .ok (Text.letterOf n.toNat)

def characterRefusal? (spec : FormatSpec) : Option String :=
  if spec.sign.isSome then some "Sign not allowed with integer format specifier 'c'"
  else if spec.alternate then some "Alternate form (#) not allowed with integer format specifier 'c'"
  else none

def ofInt (kind : String) (specification : List Letter) (n : Int) : Except Fault (List Letter) := do
  let spec ← read kind false (some (.char 'd')) specification
  match spec.code with
  | some (.char code) =>
    if Letter.char code ∈ floatCodes && code ≠ 'n' then .ok (spec.float (← Number.ofInt n))
    else if code ∉ "bcdoxXn".toList then .error (unknownCode kind (.char code))
    else if spec.precision.isSome then .error (.valueError "Precision not allowed in integer format specifier")
    else if spec.positiveZero then
      .error (.valueError "Negative zero coercion (z) not allowed in integer format specifier")
    else if code = 'c' then
      match spec.characterRefusal? with
      | some refusal => .error (.valueError refusal)
      | none => .ok (spec.padded '>' [] [← character n])
    else do
      let (mark, digits) ← intDigits code n.natAbs
      let size := if mark.isEmpty then 3 else 4
      .ok (spec.number size (signText spec.sign (n < 0)) (if spec.alternate then mark else []) digits [])
  | code => .error (unknownCode kind (code.getD (.char 'd')))

end FormatSpec
end RestDispatch
