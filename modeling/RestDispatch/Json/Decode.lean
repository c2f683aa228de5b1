import RestDispatch.Json.Bounds
import RestDispatch.Text.Unicode
import RestDispatch.Fault

set_option autoImplicit false

/-!
Reading JSON text. Besides the standard grammar the words NaN, Infinity and -Infinity are numbers. A
number with a fraction or an exponent is a float, any other an integer. Where a key is given twice,
its first place and its last value count. A reader may bound the digits of integers and the depth of
brackets and braces inside each other.
-/
namespace RestDispatch.Json

inductive Problem where
  | expectedValue
  | expectedName
  | expectedColon
  | expectedComma
  | extraData
  | unterminatedString
  | controlCharacter
  | badEscape
  | badUnicodeEscape
deriving DecidableEq, Repr

inductive Nest where
  | array
  | object
deriving DecidableEq, Repr

inductive Stop where
  | problem (what : Problem) (left : Nat)
  | overlong (digits : Nat)
  | tooDeep (nest : Nest)
deriving DecidableEq, Repr

abbrev Read (α : Type) := Except Stop (α × List Letter)

def isBlank (c : Char) : Bool := c = ' ' || c = '\t' || c = '\n' || c = '\r'

def isBlankLetter : Letter → Bool
  | .char c => isBlank c
  | .half _ => false

def skip (text : List Letter) : List Letter := text.dropWhile isBlankLetter

def after? : List Char → List Char → Option (List Char)
  | [], cs => some cs
  | _ :: _, [] => none
  | w :: word, c :: cs => if w = c then after? word cs else none

def unescape? (letter : Char) : Option Char :=
  if letter = '"' || letter = '\\' || letter = '/' then some letter
  else if letter = 'n' then some '\n'
  else if letter = 'r' then some '\r'
  else if letter = 't' then some '\t'
  else if letter = 'b' then some '\x08'
  else if letter = 'f' then some '\x0c'
  else none

def hexDigit? (c : Char) : Option Nat :=
  if c.isDigit then some (c.toNat - 48)
  else if 'a' ≤ c && c ≤ 'f' then some (c.toNat - 87)
  else if 'A' ≤ c && c ≤ 'F' then some (c.toNat - 55)
  else none

def hexUnit? (a b c d : Char) : Option Nat := do
  let a ← hexDigit? a
  let b ← hexDigit? b
  let c ← hexDigit? c
  let d ← hexDigit? d
  some (((a * 16 + b) * 16 + c) * 16 + d)

def hexLetters? : Letter → Letter → Letter → Letter → Option Nat
  | .char a, .char b, .char c, .char d => hexUnit? a b c d
  | _, _, _, _ => none

def unescapeLetter? : Letter → Option Letter
  | .char c => (unescape? c).map .char
  | .half _ => none

def isControl : Letter → Bool
  | .char c => c.toNat < 0x20
  | .half _ => false

inductive StringPart where
  | letter (l : Letter)
  | escaped (unit : Nat)
deriving DecidableEq, Repr

def prepend (part : StringPart) (rest : Read (List StringPart)) : Read (List StringPart) :=
  rest.map fun (parts, left) => (part :: parts, left)

def stringParts (opening : List Letter) : List Letter → Read (List StringPart)
  | [] => .error (.problem .unterminatedString opening.length)
  | .char '"' :: rest => .ok ([], rest)
  | [.char '\\'] => .error (.problem .unterminatedString opening.length)
  | .char '\\' :: .char 'u' :: a :: b :: c :: d :: next :: rest =>
    match hexLetters? a b c d with
    | some unit => prepend (.escaped unit) (stringParts opening (next :: rest))
    | none => .error (.problem .badUnicodeEscape (rest.length + 6))
  | .char '\\' :: letter :: rest =>
    if letter = .char 'u' then .error (.problem .badUnicodeEscape (rest.length + 1))
    else match unescapeLetter? letter with
      | some l => prepend (.letter l) (stringParts opening rest)
      | none => .error (.problem .badEscape (rest.length + 2))
  | letter :: rest =>
    if isControl letter then .error (.problem .controlCharacter (rest.length + 1))
    else prepend (.letter letter) (stringParts opening rest)

-- The letters of the parts of a string. Two escapes next to each other that are surrogates of each other are one
-- character.
def joinParts : List StringPart → List Letter
  | [] => []
  | .letter l :: rest => l :: joinParts rest
  | .escaped high :: .escaped low :: rest =>
    if Text.isHighSurrogate high && Text.isLowSurrogate low then
      .char (Text.surrogatePair high low) :: joinParts rest
    else Text.letterOf high :: joinParts (.escaped low :: rest)
  | .escaped unit :: rest => Text.letterOf unit :: joinParts rest

def stringTail (opening text : List Letter) : Read (List Letter) :=
  (stringParts opening text).map fun (parts, left) => (joinParts parts, left)

def fractionDigits : List Char → List Char × List Char
  | '.' :: d :: rest => if d.isDigit then Decimal.takeDigits (d :: rest) else ([], '.' :: d :: rest)
  | cs => ([], cs)

def exponentPart (cs : List Char) : Option Int × List Char :=
  match cs with
  | c :: _ =>
    if c = 'e' || c = 'E' then
      match Decimal.readExponent cs with
      | some (exponent, rest) => (some exponent, rest)
      | none => (none, cs)
    else (none, cs)
  | [] => (none, cs)

def number (bounds : Bounds) (cs : List Char) : Except Stop (Value × List Char) :=
  let (negative, unsigned) :=
    match cs with
    | '-' :: rest => (true, rest)
    | rest => (false, rest)
  let (whole, rest) := Decimal.wholeDigits unsigned
  if whole.isEmpty then .error (.problem .expectedValue cs.length)
  else
    let (fraction, rest) := fractionDigits rest
    let (exponent, rest) := exponentPart rest
    if fraction.isEmpty && exponent.isNone then
      if bounds.digits.any (· < whole.length) then .error (.overlong whole.length)
      else
        let size : Int := Decimal.digitsValue whole
        .ok (.int (if negative then -size else size), rest)
    else
      let digits := Decimal.digitsValue (whole ++ fraction)
      .ok (.float (Decimal.toFloat negative digits (exponent.getD 0 - (fraction.length : Int))), rest)

def words : List (List Char × Value) :=
  [("null".toList, .null), ("true".toList, .bool true), ("false".toList, .bool false),
   ("NaN".toList, .float (0.0 / 0.0)), ("Infinity".toList, .float (1.0 / 0.0)),
   ("-Infinity".toList, .float (-1.0 / 0.0))]

def scalarChars (bounds : Bounds) (cs : List Char) : Except Stop (Value × List Char) :=
  match words.findSome? fun (word, value) => (after? word cs).map fun rest => (value, rest) with
  | some result => .ok result
  | none => number bounds cs

def isScalarChar (c : Char) : Bool := c.isAlphanum || c = '-' || c = '+' || c = '.'

def scalarRun : List Letter → List Char
  | .char c :: rest => if isScalarChar c then c :: scalarRun rest else []
  | _ => []

def scalar (bounds : Bounds) (text : List Letter) : Read Value :=
  let cs := scalarRun text
  match scalarChars bounds cs with
  | .ok (value, rest) => .ok (value, text.drop (cs.length - rest.length))
  | .error (.problem what _) => .error (.problem what text.length)
  | .error stop => .error stop

mutual

def value : Nat → Bounds → List Letter → Read Value
  | 0, _, text => .error (.problem .expectedValue text.length)
  | fuel + 1, bounds, text =>
    match text with
    | .char '"' :: rest => (stringTail text rest).map fun (t, left) => (.text t, left)
    | .char '[' :: rest =>
      if bounds.exhausted then .error (.tooDeep .array)
      else match skip rest with
        | .char ']' :: left => .ok (.list [], left)
        | first => (items fuel bounds.inside first).map fun (vs, left) => (.list vs, left)
    | .char '\x7b' :: rest =>
      if bounds.exhausted then .error (.tooDeep .object)
      else match skip rest with
        | .char '\x7d' :: left => .ok (.object [], left)
        | first => (members fuel bounds.inside first).map fun (fs, left) => (.object (putAll [] fs), left)
    | _ => scalar bounds text

def items : Nat → Bounds → List Letter → Except Stop (List Value × List Letter)
  | 0, _, text => .error (.problem .expectedValue text.length)
  | fuel + 1, bounds, text => do
    let (first, rest) ← value fuel bounds text
    match skip rest with
    | .char ']' :: left => .ok ([first], left)
    | .char ',' :: more => (items fuel bounds (skip more)).map fun (vs, left) => (first :: vs, left)
    | other => .error (.problem .expectedComma other.length)

def members : Nat → Bounds → List Letter → Except Stop (Fields × List Letter)
  | 0, _, text => .error (.problem .expectedName text.length)
  | fuel + 1, bounds, text =>
    match text with
    | .char '"' :: rest => do
      let (name, rest) ← stringTail text rest
      match skip rest with
      | .char ':' :: rest => do
        let (first, rest) ← value fuel bounds (skip rest)
        let entry := (name, first)
        match skip rest with
        | .char '\x7d' :: left => .ok ([entry], left)
        | .char ',' :: more => (members fuel bounds (skip more)).map fun (fs, left) => (entry :: fs, left)
        | other => .error (.problem .expectedComma other.length)
      | other => .error (.problem .expectedColon other.length)
    | other => .error (.problem .expectedName other.length)

end

inductive ReadError where
  | wording (what : Problem) (line column position : Nat)
  | overlong (digits : Nat)
  | tooDeep (nest : Nest)
  | decoding (e : Text.DecodingError)
deriving DecidableEq, Repr

-- A problem with the line and the column, both counted from one, at which it lies.
def locate (text : List Letter) (what : Problem) (left : Nat) : ReadError :=
  let position := text.length - left
  let before := text.take position
  let column := (before.reverse.takeWhile (· ≠ .char '\n')).length + 1
  .wording what (before.count (.char '\n') + 1) column position

def decode (bounds : Bounds) (text : List Letter) : Except ReadError Value :=
  match value (2 * text.length + 1) bounds (skip text) with
  | .error (.problem what left) => .error (locate text what left)
  | .error (.overlong digits) => .error (.overlong digits)
  | .error (.tooDeep nest) => .error (.tooDeep nest)
  | .ok (result, rest) =>
    match skip rest with
    | [] => .ok result
    | other => .error (locate text .extraData other.length)

def decodeBytes (bounds : Bounds) (bytes : Bytes) : Except ReadError Value :=
  match Text.decodeDetected bytes with
  | .error e => .error (.decoding e)
  | .ok text => decode bounds text

def Problem.message : Problem → String
  | .expectedValue => "Expecting value"
  | .expectedName => "Expecting property name enclosed in double quotes"
  | .expectedColon => "Expecting ':' delimiter"
  | .expectedComma => "Expecting ',' delimiter"
  | .extraData => "Extra data"
  | .unterminatedString => "Unterminated string starting at"
  | .controlCharacter => "Invalid control character at"
  | .badEscape => "Invalid \\escape"
  | .badUnicodeEscape => "Invalid \\uXXXX escape"

def Nest.word : Nest → String
  | .array => "array"
  | .object => "object"

def ReadError.fault : ReadError → Fault
  | .wording what line column position =>
    { kind := "JSONDecodeError"
      text := s!"{what.message}: line {line} column {column} (char {position})"
      origin := "json.decoder." }
  | .overlong digits => .overlongInput digits
  | .tooDeep nest =>
    .of "RecursionError"
      s!"maximum recursion depth exceeded while decoding a JSON {nest.word} from a unicode string"
  | .decoding e => .of "UnicodeDecodeError" e.message

def ReadError.valueKinds : List String := ["JSONDecodeError", "ValueError", "UnicodeDecodeError"]

end RestDispatch.Json
