import RestDispatch.Decimal.Numeral
import RestDispatch.Text.CharacterName
import RestDispatch.Text.Latin
import RestDispatch.Text.Unicode

set_option autoImplicit false

/-!
Constants in expressions: numbers in several bases, and texts and bytes in quotes. The readers take what they
read off the start of a text and give back the rest.
-/
namespace RestDispatch

-- A constant as it is written. A number with a unit is imaginary.
inductive Literal where
  | int (n : Nat)
  | float (x : Float)
  | imaginary (x : Float)
  | text (t : List Letter)
  | bytes (content : Bytes)
deriving Inhabited

namespace Literal

/-! Numbers. -/

-- Whether a character may be part of a word. Whatever is not basic may.
def isWordChar (c : Char) : Bool := c.isAlphanum || c = '_' || 0x80 ≤ c.toNat

-- Words that may follow a number at once.
def joiningWords : List (List Char) := ["and", "else", "for", "if", "in", "is", "or", "not"].map String.toList

def endsBefore (rest : List Char) : Bool :=
  joiningWords.any (·.isPrefixOf rest) || !rest.head?.any isWordChar

-- Digits, the last one first, in front of which some have been read. An underscore needs a digit after it.
def digitRun? (isDigit : Char → Bool) (read : List Char) : List Char → Option (List Char × List Char)
  | [] => some (read, [])
  | '_' :: c :: cs => if isDigit c then digitRun? isDigit (c :: read) cs else none
  | c :: cs => if isDigit c then digitRun? isDigit (c :: read) cs else if c = '_' then none else some (read, c :: cs)

def digitValue (c : Char) : Nat :=
  if c.isDigit then c.toNat - 48 else c.toLower.toNat - 87

def isDigitOf (base : Nat) (c : Char) : Bool := c.isAlphanum && digitValue c < base

def valueIn (base : Nat) (digits : List Char) : Nat := digits.foldl (fun value c => base * value + digitValue c) 0

def baseOf? (c : Char) : Option Nat := [('x', 16), ('o', 8), ('b', 2)].lookup c.toLower

def basedNumber? (base : Nat) (cs : List Char) : Option (Literal × List Char) := do
  let (read, rest) ← digitRun? (isDigitOf base) [] cs
  if read.isEmpty || !endsBefore rest then none
  some (.int (valueIn base read.reverse), rest)

def decimalRun? (cs : List Char) : Option (List Char × List Char) :=
  if cs.head?.any Char.isDigit then (digitRun? Char.isDigit [] cs).map fun (read, rest) => (read.reverse, rest)
  else some ([], cs)

def fraction? : List Char → Option (List Char × List Char)
  | '.' :: rest => (decimalRun? rest).map fun (digits, rest) => ('.' :: digits, rest)
  | rest => some ([], rest)

-- The exponent at the start of a text. A sign needs digits after it; without a sign and digits there is no
-- exponent.
def exponent? : List Char → Option (List Char × List Char)
  | mark :: sign :: rest =>
    if mark.toLower ≠ 'e' then some ([], mark :: sign :: rest)
    else if sign = '+' || sign = '-' then do
      let (digits, rest) ← decimalRun? rest
      if digits.isEmpty then none
      some ('e' :: sign :: digits, rest)
    else do
      let (digits, after) ← decimalRun? (sign :: rest)
      if digits.isEmpty then some ([], mark :: sign :: rest) else some ('e' :: digits, after)
  | rest => some ([], rest)

-- An integer in decimal digits. One that is not zero starts with no zero.
def decimalInt? (digits : List Char) : Option Literal :=
  if digits.all (· = '0') then some (.int 0)
  else if digits.head? = some '0' || digits.length > Decimal.digitLimit then none
  else some (.int (valueIn 10 digits))

def decimalNumber? (cs : List Char) : Option (Literal × List Char) := do
  let (whole, rest) ← decimalRun? cs
  let (fraction, rest) ← fraction? rest
  let (exponent, rest) ← exponent? rest
  let float := Decimal.readFloatText? (whole ++ fraction ++ exponent)
  let (literal, rest) ←
    if rest.head?.any fun c => c.toLower = 'j' then float.map fun x => (.imaginary x, rest.drop 1)
    else if fraction.isEmpty && exponent.isEmpty then (decimalInt? whole).map (·, rest)
    else float.map fun x => (.float x, rest)
  if endsBefore rest then some (literal, rest) else none

def number? : List Char → Option (Literal × List Char)
  | '0' :: mark :: rest =>
    match baseOf? mark with
    | some base => basedNumber? base rest
    | none => decimalNumber? ('0' :: mark :: rest)
  | cs => decimalNumber? cs

/-! Texts. -/

-- How a text in quotes is meant: whether backslashes stand for themselves, whether it is bytes, and whether it
-- holds expressions in braces.
structure Style where
  raw : Bool := false
  bytes : Bool := false
  filled : Bool := false

def styles : List (List Char × Style) :=
  [([], {}), (['u'], {}), (['r'], { raw := true }), (['b'], { bytes := true }), (['f'], { filled := true }),
   (['b', 'r'], { raw := true, bytes := true }), (['r', 'b'], { raw := true, bytes := true }),
   (['f', 'r'], { raw := true, filled := true }), (['r', 'f'], { raw := true, filled := true })]

def isQuote (c : Char) : Bool := c = '\'' || c = '"'

-- What stands between quotes as it is written, with the rest after the closing quote. Only a quote that is written
-- three times lets lines end inside.
def body? (quote : Char) (triple : Bool) (read : List Char) : List Char → Option (List Char × List Char)
  | [] => none
  | '\\' :: c :: cs => body? quote triple (c :: '\\' :: read) cs
  | c :: cs =>
    if c = quote then
      if !triple then some (read.reverse, cs)
      else if [quote, quote].isPrefixOf cs then some (read.reverse, cs.drop 2)
      else body? quote triple (c :: read) cs
    else if c = '\n' && !triple then none
    else body? quote triple (c :: read) cs

def quotedBody? : List Char → Option (List Char × List Char)
  | [] => none
  | quote :: cs =>
    if !isQuote quote then none
    else if [quote, quote].isPrefixOf cs then body? quote true [] (cs.drop 2)
    else body? quote false [] cs

def styleOf? (cs : List Char) : Option (Style × List Char) :=
  [0, 1, 2].findSome? fun count =>
    if (cs[count]?).any isQuote then
      (styles.lookup ((cs.take count).map Char.toLower)).map fun style => (style, cs.drop count)
    else none

-- What has been read of an escape: nothing, the backslash, up to three digits of base eight, digits of base sixteen
-- of which some are left to come, the mark of a name, or letters of a name, the last one first.
inductive Escape where
  | none
  | opened
  | octal (value count : Nat)
  | code (value left : Nat)
  | marked
  | name (read : List Char)

-- Characters that stand for others after a backslash. A backslash at the end of a line hides both.
def simpleEscapes : List (Char × List Nat) :=
  [('\n', []), ('\\', [92]), ('\'', [39]), ('"', [34]), ('a', [7]), ('b', [8]), ('f', [12]), ('n', [10]), ('r', [13]),
   ('t', [9]), ('v', [11])]

-- The code points that are complete after a backslash and another character, and what is held. Bytes have no codes
-- of four and eight digits.
def opened? (bytes : Bool) (c : Char) : Option (List Nat × Escape) :=
  match simpleEscapes.lookup c with
  | some codes => some (codes, .none)
  | none =>
    if isDigitOf 8 c then some ([], .octal (digitValue c) 1)
    else if c = 'x' then some ([], .code 0 2)
    else if bytes then some ([92, c.toNat], .none)
    else if c = 'u' then some ([], .code 0 4)
    else if c = 'U' then some ([], .code 0 8)
    else if c = 'N' then some ([], .marked)
    else some ([92, c.toNat], .none)

def escapeStep? (bytes : Bool) (held : Escape) (c : Char) : Option (List Nat × Escape) :=
  let plain : List Nat × Escape := if c = '\\' then ([], .opened) else ([c.toNat], .none)
  match held with
  | .none => some plain
  | .opened => opened? bytes c
  | .octal value count =>
    if isDigitOf 8 c && count < 3 then some ([], .octal (8 * value + digitValue c) (count + 1))
    else some (value :: plain.1, plain.2)
  | .code value left =>
    if !isDigitOf 16 c then none
    else if left = 1 then some ([16 * value + digitValue c], .none)
    else some ([], .code (16 * value + digitValue c) (left - 1))
  | .marked => if c = '\x7b' then some ([], .name []) else none
  | .name read =>
    if c ≠ '\x7d' then some ([], .name (c :: read))
    else (Text.codeNamed? read.reverse).map fun code => ([code], .none)

def codesFrom? (bytes : Bool) (held : Escape) : List Char → Option (List Nat)
  | [] =>
    match held with
    | .none => some []
    | .octal value _ => some [value]
    | _ => none
  | c :: cs => do
    let (codes, held) ← escapeStep? bytes held c
    let rest ← codesFrom? bytes held cs
    some (codes ++ rest)

def codes? (style : Style) (body : List Char) : Option (List Nat) :=
  if style.raw then some (body.map Char.toNat) else codesFrom? style.bytes .none body

def text? (style : Style) (body : List Char) : Option (List Letter) := do
  let codes ← codes? style body
  if codes.any (0x10FFFF < ·) then none
  some (codes.map Text.letterOf)

def bytes? (style : Style) (body : List Char) : Option Bytes := do
  if body.any (0x80 ≤ ·.toNat) then none
  let codes ← codes? style body
  some (codes.map UInt8.ofNat)

end Literal
end RestDispatch
