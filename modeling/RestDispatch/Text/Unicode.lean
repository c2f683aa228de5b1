import RestDispatch.Text.Utf8

set_option autoImplicit false

/-!
Text in bytes whose encoding is not announced: it is told from the mark at the start or from the
places of the zero bytes among the first four. Units of two and of four bytes come in both orders. A
surrogate that has no partner is a half.
-/
namespace RestDispatch.Text

inductive ByteOrder where
  | little
  | big
deriving DecidableEq, Repr

inductive Encoding where
  | utf8
  | utf16 (order : ByteOrder)
  | utf32 (order : ByteOrder)
deriving DecidableEq, Repr

structure DecodingError where
  encoding : Encoding
  position : Nat
  stretch : Bytes
  reason : String
deriving DecidableEq, Repr

def marks : List (Bytes × Encoding) :=
  [([0x00, 0x00, 0xFE, 0xFF], .utf32 .big), ([0xFF, 0xFE, 0x00, 0x00], .utf32 .little), ([0xFE, 0xFF], .utf16 .big),
   ([0xFF, 0xFE], .utf16 .little), ([0xEF, 0xBB, 0xBF], .utf8)]

def unmarked : Bytes → Encoding
  | a :: b :: c :: d :: _ =>
    if a = 0 then (if b ≠ 0 then .utf16 .big else .utf32 .big)
    else if b = 0 then (if c ≠ 0 || d ≠ 0 then .utf16 .little else .utf32 .little)
    else .utf8
  | [a, b] => if a = 0 then .utf16 .big else if b = 0 then .utf16 .little else .utf8
  | _ => .utf8

-- The encoding of some bytes, and how many of them are a mark.
def detect (bytes : Bytes) : Encoding × Nat :=
  match marks.find? (·.1.isPrefixOf bytes) with
  | some (mark, encoding) => (encoding, mark.length)
  | none => (unmarked bytes, 0)

def unitValue (order : ByteOrder) (unit : Bytes) : Nat :=
  let ordered := match order with
    | .big => unit
    | .little => unit.reverse
  ordered.foldl (fun value byte => value * 256 + byte.toNat) 0

def pairs (order : ByteOrder) : Bytes → List Nat × Bytes
  | a :: b :: rest =>
    let (units, left) := pairs order rest
    (unitValue order [a, b] :: units, left)
  | left => ([], left)

def quads (order : ByteOrder) : Bytes → List Nat × Bytes
  | a :: b :: c :: d :: rest =>
    let (units, left) := quads order rest
    (unitValue order [a, b, c, d] :: units, left)
  | left => ([], left)

def isHighSurrogate (unit : Nat) : Bool := 0xD800 ≤ unit && unit ≤ 0xDBFF

def isLowSurrogate (unit : Nat) : Bool := 0xDC00 ≤ unit && unit ≤ 0xDFFF

def surrogatePair (high low : Nat) : Char := Char.ofNat (0x10000 + (high - 0xD800) * 0x400 + (low - 0xDC00))

def letterOf (code : Nat) : Letter :=
  if isHighSurrogate code || isLowSurrogate code then .half code else .char (Char.ofNat code)

def joinSurrogates : List Nat → List Letter
  | [] => []
  | high :: low :: rest =>
    if isHighSurrogate high && isLowSurrogate low then .char (surrogatePair high low) :: joinSurrogates rest
    else letterOf high :: joinSurrogates (low :: rest)
  | [unit] => [letterOf unit]

def overflow? (units : List Nat) : Option Nat := units.findIdx? (0x10FFFF < ·)

def decodeAs (encoding : Encoding) (mark : Nat) (bytes : Bytes) : Except DecodingError (List Letter) :=
  let rest := bytes.drop mark
  match encoding with
  | .utf8 =>
    match Utf8.decode rest with
    | .ok cs => .ok cs
    | .error e => .error ⟨.utf8, e.position, (rest.drop e.position).take e.count, e.flaw.message⟩
  | .utf16 order =>
    let (units, left) := pairs order rest
    if left.isEmpty then .ok (joinSurrogates units)
    else .error ⟨encoding, bytes.length - left.length, left, "truncated data"⟩
  | .utf32 order =>
    let (units, left) := quads order rest
    match overflow? units with
    | some index =>
      let position := mark + 4 * index
      .error ⟨encoding, position, (bytes.drop position).take 4, "code point not in range(0x110000)"⟩
    | none =>
      if left.isEmpty then .ok (units.map letterOf)
      else .error ⟨encoding, bytes.length - left.length, left, "truncated data"⟩

def decodeDetected (bytes : Bytes) : Except DecodingError (List Letter) :=
  let (encoding, mark) := detect bytes
  decodeAs encoding mark bytes

def Encoding.name : Encoding → String
  | .utf8 => "utf-8"
  | .utf16 .little => "utf-16-le"
  | .utf16 .big => "utf-16-be"
  | .utf32 .little => "utf-32-le"
  | .utf32 .big => "utf-32-be"

def DecodingError.message (e : DecodingError) : String :=
  let what := match e.stretch with
    | [byte] => s!"byte 0x{String.ofList (hex 2 byte.toNat)} in position {e.position}"
    | stretch => s!"bytes in position {e.position}-{e.position + stretch.length - 1}"
  s!"'{e.encoding.name}' codec can't decode {what}: {e.reason}"

end RestDispatch.Text
