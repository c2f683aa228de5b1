import RestDispatch.Text.Latin

set_option autoImplicit false

/-!
The encoding of text in one to four bytes a character. Reading goes byte by byte and stops a character
at the first byte that cannot continue it, so malformed bytes are cut off as early as they can be told.
Halves of surrogate pairs are never written; whether they are read is up to the reader.
-/
namespace RestDispatch.Text.Utf8

def encodeChar (c : Char) : Bytes :=
  let code := c.toNat
  if code < 0x80 then [UInt8.ofNat code]
  else if code < 0x800 then [UInt8.ofNat (0xC0 + code / 64), UInt8.ofNat (0x80 + code % 64)]
  else if code < 0x10000 then
    [UInt8.ofNat (0xE0 + code / 4096), UInt8.ofNat (0x80 + code / 64 % 64), UInt8.ofNat (0x80 + code % 64)]
  else
    [UInt8.ofNat (0xF0 + code / 262144), UInt8.ofNat (0x80 + code / 4096 % 64),
     UInt8.ofNat (0x80 + code / 64 % 64), UInt8.ofNat (0x80 + code % 64)]

def encode (cs : List Char) : Bytes := cs.flatMap encodeChar

def bytes (text : String) : Bytes := encode text.toList

structure HalfError where
  position : Nat
  count : Nat
  first : Nat
deriving DecidableEq, Repr

def isHalf : Letter → Bool
  | .char _ => false
  | .half _ => true

def encodeLetters (text : List Letter) : Except HalfError Bytes :=
  match text.dropWhile (!isHalf ·) with
  | .half unit :: rest =>
    .error ⟨(text.takeWhile (!isHalf ·)).length, (rest.takeWhile isHalf).length + 1, unit⟩
  | _ => .ok (encode (leadingChars text))

def HalfError.message (e : HalfError) : String :=
  let what :=
    if e.count = 1 then s!"character '\\u{String.ofList (hex 4 e.first)}' in position {e.position}"
    else s!"characters in position {e.position}-{e.position + e.count - 1}"
  s!"'utf-8' codec can't encode {what}: surrogates not allowed"

-- A character that is not complete: its bytes so far, how many are owed, and the least and the greatest that the
-- next one may be.
structure Partial where
  code : Nat
  seen : Nat
  owed : Nat
  low : Nat
  high : Nat

inductive Flaw where
  | start
  | continuation
  | ending
deriving DecidableEq, Repr

inductive Piece where
  | char (c : Char)
  | half (unit : Nat)
  | bad (count : Nat) (flaw : Flaw)
deriving DecidableEq, Repr

def lead? (halves : Bool) (byte : Nat) : Option Partial :=
  if 0xC2 ≤ byte && byte ≤ 0xDF then some ⟨byte - 0xC0, 1, 1, 0x80, 0xBF⟩
  else if byte = 0xE0 then some ⟨0, 1, 2, 0xA0, 0xBF⟩
  else if byte = 0xED then some ⟨0x0D, 1, 2, 0x80, if halves then 0xBF else 0x9F⟩
  else if 0xE1 ≤ byte && byte ≤ 0xEF then some ⟨byte - 0xE0, 1, 2, 0x80, 0xBF⟩
  else if byte = 0xF0 then some ⟨0, 1, 3, 0x90, 0xBF⟩
  else if 0xF1 ≤ byte && byte ≤ 0xF3 then some ⟨byte - 0xF0, 1, 3, 0x80, 0xBF⟩
  else if byte = 0xF4 then some ⟨4, 1, 3, 0x80, 0x8F⟩
  else none

def begin (halves : Bool) (byte : Nat) : List Piece × Option Partial :=
  if byte < 0x80 then ([.char (Char.ofNat byte)], none)
  else match lead? halves byte with
    | some next => ([], some next)
    | none => ([.bad 1 .start], none)

def Partial.inHalf (current : Partial) : Bool :=
  current.seen = 2 && current.owed = 1 && 0x360 ≤ current.code && current.code ≤ 0x37F

def complete (code : Nat) : Piece :=
  if 0xD800 ≤ code && code ≤ 0xDFFF then .half code else .char (Char.ofNat code)

-- The malformed stretch that an incomplete character leaves. Bytes of a half are told to be wrong at the first of
-- them.
def Partial.broken (current : Partial) (flaw : Flaw) : Piece :=
  if current.inHalf then .bad 1 .continuation else .bad current.seen flaw

def extend (halves : Bool) (current : Partial) (byte : Nat) : List Piece × Option Partial :=
  if current.low ≤ byte && byte ≤ current.high then
    let code := current.code * 64 + (byte - 0x80)
    if current.owed = 1 then ([complete code], none)
    else ([], some ⟨code, current.seen + 1, current.owed - 1, 0x80, 0xBF⟩)
  else
    let (pieces, next) := begin halves byte
    (current.broken .continuation :: pieces, next)

def piecesFrom (halves : Bool) : Option Partial → Bytes → List Piece
  | none, [] => []
  | some current, [] => [current.broken .ending]
  | state, byte :: rest =>
    let (pieces, next) :=
      match state with
      | none => begin halves byte.toNat
      | some current => extend halves current byte.toNat
    pieces ++ piecesFrom halves next rest

-- The characters and malformed stretches of some bytes, among them halves if they are to be read.
def pieces (halves : Bool) (bytes : Bytes) : List Piece := piecesFrom halves none bytes

structure Error where
  position : Nat
  count : Nat
  flaw : Flaw
deriving DecidableEq, Repr

def collect (position : Nat) : List Piece → Except Error (List Letter)
  | [] => .ok []
  | .bad count flaw :: _ => .error ⟨position, count, flaw⟩
  | .half unit :: rest => (collect (position + 3) rest).map (.half unit :: ·)
  | .char c :: rest => (collect (position + (encodeChar c).length) rest).map (.char c :: ·)

def decode (bytes : Bytes) : Except Error (List Letter) := collect 0 (pieces true bytes)

def decodeReplacing (bytes : Bytes) : List Char :=
  (pieces false bytes).map fun
    | .char c => c
    | _ => '\ufffd'

def decodeStrict? (bytes : Bytes) : Option (List Char) :=
  (pieces false bytes).mapM fun
    | .char c => some c
    | _ => none

def Flaw.message : Flaw → String
  | .start => "invalid start byte"
  | .continuation => "invalid continuation byte"
  | .ending => "unexpected end of data"

end RestDispatch.Text.Utf8
