import RestDispatch.Text.CharacterName
import RestDispatch.Text.Charset

set_option autoImplicit false

/-!
Writing texts as bytes and reading them back in an encoding. What cannot be written or read is left to a handler, which
refuses it or puts something else in its place.
-/
namespace RestDispatch.Text

inductive Handler where
  | refuse
  | ignore
  | replace
  | escape
  | reference
  | byName
  | keepBytes
  | keepHalves
deriving DecidableEq, Repr

def Handler.named? : String → Option Handler
  | "strict" => some .refuse
  | "ignore" => some .ignore
  | "replace" => some .replace
  | "backslashreplace" => some .escape
  | "xmlcharrefreplace" => some .reference
  | "namereplace" => some .byName
  | "surrogateescape" => some .keepBytes
  | "surrogatepass" => some .keepHalves
  | _ => none

inductive TranscodingError where
  | unknownHandler (name : String)
  | notForReading
  | unwritable (codec : String) (place count first : Nat) (reason : String)
  | unreadable (codec : String) (place : Nat) (stretch : Bytes) (reason : String)
deriving DecidableEq, Repr

def letterCode : Letter → Nat
  | .char c => c.toNat
  | .half unit => unit

def escapedCode (code : Nat) : List Char :=
  if code < 0x100 then '\\' :: 'x' :: hex 2 code
  else if code < 0x10000 then '\\' :: 'u' :: hex 4 code
  else '\\' :: 'U' :: hex 8 code

def TranscodingError.message : TranscodingError → String
  | .unknownHandler name => s!"unknown error handler name '{name}'"
  | .notForReading => "don't know how to handle UnicodeDecodeError in error callback"
  | .unwritable codec place count first reason =>
    let what :=
      if count = 1 then s!"character '{String.ofList (escapedCode first)}' in position {place}"
      else s!"characters in position {place}-{place + count - 1}"
    s!"'{codec}' codec can't encode {what}: {reason}"
  | .unreadable codec place stretch reason =>
    let what := match stretch with
      | [byte] => s!"byte 0x{String.ofList (hex 2 byte.toNat)} in position {place}"
      | stretch => s!"bytes in position {place}-{place + stretch.length - 1}"
    s!"'{codec}' codec can't decode {what}: {reason}"

/-! Writing. -/

def unitBytes (order : ByteOrder) (width unit : Nat) : Bytes :=
  let low := (List.range width).map fun place => UInt8.ofNat (unit >>> (8 * place))
  match order with
  | .little => low
  | .big => low.reverse

def pairUnits (code : Nat) : List Nat :=
  if code < 0x10000 then [code] else [0xD800 + (code - 0x10000) / 0x400, 0xDC00 + (code - 0x10000) % 0x400]

def universalBytes (charset : Charset) (code : Nat) : Bytes :=
  match charset with
  | .utf16 order => (pairUnits code).flatMap (unitBytes (order.getD .little) 2)
  | .utf32 order => unitBytes (order.getD .little) 4 code
  | _ =>
    if isHalfCode code then
      [UInt8.ofNat (0xE0 + code / 4096), UInt8.ofNat (0x80 + code / 64 % 64), UInt8.ofNat (0x80 + code % 64)]
    else Utf8.encodeChar (Char.ofNat code)

def ownEscapes : List (Nat × Char) := [(9, 't'), (10, 'n'), (13, 'r'), (92, '\\')]

def escapedLetters (raw : Bool) (code : Nat) : List Char :=
  if raw && code < 0x100 then [Char.ofNat code]
  else if raw then escapedCode code
  else
    match ownEscapes.lookup code with
    | some mark => ['\\', mark]
    | none => if 0x20 ≤ code && code < 0x7F then [Char.ofNat code] else escapedCode code

def Charset.writer (charset : Charset) : Nat → Option Bytes :=
  match charset with
  | .ascii => fun code => if code < 0x80 then some [UInt8.ofNat code] else none
  | .eastern _ => fun code => if code < 0x80 then some [UInt8.ofNat code] else none
  | .latin => fun code => if code < 0x100 then some [UInt8.ofNat code] else none
  | .page name =>
    let page := (codePage? name).getD []
    fun code => (pageByte? page code).map fun byte => [UInt8.ofNat byte]
  | .escaped raw => fun code => some ((escapedLetters raw code).map fun c => UInt8.ofNat c.toNat)
  | charset => fun code => if isHalfCode code then none else some (universalBytes charset code)

def Charset.writeReason : Charset → String
  | .ascii => "ordinal not in range(128)"
  | .latin => "ordinal not in range(256)"
  | .page _ => "character maps to <undefined>"
  | .eastern _ => "illegal multibyte sequence"
  | _ => "surrogates not allowed"

def Charset.mark : Charset → Bytes
  | .utf8 true => [0xEF, 0xBB, 0xBF]
  | .utf16 none => [0xFF, 0xFE]
  | .utf32 none => [0xFF, 0xFE, 0, 0]
  | _ => []

def namedEscape (code : Nat) : List Char :=
  match nameOf? code with
  | some name => "\\N\x7b".toList ++ name.toList ++ ['\x7d']
  | none => escapedCode code

def substituted (charset : Charset) (write : Nat → Option Bytes) (handler : Handler) (place : Nat) (run : List Nat) :
    Except TranscodingError (Bytes × Nat) :=
  let refused : TranscodingError :=
    .unwritable charset.label place run.length (run.headD 0) charset.writeReason
  let written := fun (cs : List Char) =>
    match cs.mapM fun c => write c.toNat with
    | some parts => .ok (parts.flatten, run.length)
    | none => .error refused
  match handler with
  | .refuse => .error refused
  | .ignore => .ok ([], run.length)
  | .replace => written (run.map fun _ => '?')
  | .escape => written (run.flatMap escapedCode)
  | .reference => written (run.flatMap fun code => s!"&#{code};".toList)
  | .byName => written (run.flatMap namedEscape)
  | .keepBytes =>
    match run with
    | code :: _ =>
      if 0xDC80 ≤ code && code ≤ 0xDCFF && !charset.hasUnits then .ok ([UInt8.ofNat (code - 0xDC00)], 1)
      else .error refused
    | [] => .error refused
  | .keepHalves =>
    if charset.isUniversal then .ok (run.flatMap (universalBytes charset), run.length) else .error refused

-- How many of the codes at the start of a text are left to a handler at once.
def refusedRun (charset : Charset) (write : Nat → Option Bytes) (codes : List Nat) : List Nat :=
  let run := codes.takeWhile fun code => (write code).isNone
  match charset with
  | .utf16 _ => run.take 1
  | .utf32 _ => run.take 1
  | .eastern _ => run.take 1
  | _ => run

def writeFrom (charset : Charset) (write : Nat → Option Bytes) (handler : String) :
    Nat → Nat → List Nat → Except TranscodingError Bytes
  | _, _, [] => .ok []
  | 0, _, _ => .ok []
  | fuel + 1, place, code :: rest =>
    match write code with
    | some own => (writeFrom charset write handler fuel (place + 1) rest).map (own ++ ·)
    | none =>
      match Handler.named? handler with
      | none => .error (.unknownHandler handler)
      | some known => do
        let (own, count) ← substituted charset write known place (refusedRun charset write (code :: rest))
        let others ← writeFrom charset write handler fuel (place + max count 1) ((code :: rest).drop (max count 1))
        .ok (own ++ others)

def Charset.encode (charset : Charset) (handler : String) (t : List Letter) : Except TranscodingError Bytes :=
  (writeFrom charset charset.writer handler t.length 0 (t.map letterCode)).map (charset.mark ++ ·)

/-! Reading. -/

inductive Reading where
  | letter (l : Letter) (count : Nat)
  | flaw (count : Nat) (reason : String)
deriving DecidableEq, Repr

-- Units of two bytes. Halves without a partner are read only if they may be.
def pairReadings (order : ByteOrder) (halves : Bool) : Bytes → List Reading
  | [] => []
  | [_] => [.flaw 1 "truncated data"]
  | a :: b :: rest =>
    let unit := unitValue order [a, b]
    if isHighSurrogate unit then
      match rest with
      | c :: d :: after =>
        let low := unitValue order [c, d]
        if isLowSurrogate low then .letter (.char (surrogatePair unit low)) 4 :: pairReadings order halves after
        else
          (if halves then .letter (.half unit) 2 else .flaw 2 "illegal UTF-16 surrogate") ::
            pairReadings order halves (c :: d :: after)
      | rest =>
        if halves then .letter (.half unit) 2 :: pairReadings order halves rest
        else [.flaw (2 + rest.length) "unexpected end of data"]
    else if isLowSurrogate unit then
      (if halves then .letter (.half unit) 2 else .flaw 2 "illegal encoding") :: pairReadings order halves rest
    else .letter (.char (Char.ofNat unit)) 2 :: pairReadings order halves rest

def quadReadings (order : ByteOrder) (halves : Bool) : Bytes → List Reading
  | [] => []
  | a :: b :: c :: d :: rest =>
    let code := unitValue order [a, b, c, d]
    let own : Reading :=
      if 0x10FFFF < code then .flaw 4 "code point not in range(0x110000)"
      else if isHalfCode code && !halves then .flaw 4 "code point in surrogate code point range(0xd800, 0xe000)"
      else .letter (letterOf code) 4
    own :: quadReadings order halves rest
  | left => [.flaw left.length "truncated data"]

def byteReadings (character? : Nat → Option Nat) (reason : String) (bytes : Bytes) : List Reading :=
  bytes.map fun byte =>
    match character? byte.toNat with
    | some code => .letter (letterOf code) 1
    | none => .flaw 1 reason

def pieceReadings (halves : Bool) (bytes : Bytes) : List Reading :=
  (Utf8.pieces halves bytes).map fun
    | .char c => .letter (.char c) (Utf8.encodeChar c).length
    | .half unit => .letter (.half unit) 3
    | .bad count flaw => .flaw count flaw.message

-- The encoding whose order is known from the mark at the start of bytes, and the length of the mark.
def Charset.settled (charset : Charset) (bytes : Bytes) : Charset × Nat :=
  let starts := fun (mark : Bytes) => mark.isPrefixOf bytes
  match charset with
  | .utf8 true => (charset, if starts [0xEF, 0xBB, 0xBF] then 3 else 0)
  | .utf16 none =>
    if starts [0xFF, 0xFE] then (.utf16 (some .little), 2)
    else if starts [0xFE, 0xFF] then (.utf16 (some .big), 2)
    else (.utf16 (some .little), 0)
  | .utf32 none =>
    if starts [0xFF, 0xFE, 0, 0] then (.utf32 (some .little), 4)
    else if starts [0, 0, 0xFE, 0xFF] then (.utf32 (some .big), 4)
    else (.utf32 (some .little), 0)
  | charset => (charset, 0)

def Charset.readings (charset : Charset) (halves : Bool) (bytes : Bytes) : List Reading :=
  match charset with
  | .utf8 _ => pieceReadings halves bytes
  | .utf16 order => pairReadings (order.getD .little) halves bytes
  | .utf32 order => quadReadings (order.getD .little) halves bytes
  | .latin => byteReadings some "" bytes
  | .escaped _ => byteReadings some "" bytes
  | .page name =>
    let page := (codePage? name).getD []
    byteReadings (pageCharacter? page) "character maps to <undefined>" bytes
  | .ascii => byteReadings (fun byte => if byte < 0x80 then some byte else none) "ordinal not in range(128)" bytes
  | .eastern _ =>
    byteReadings (fun byte => if byte < 0x80 then some byte else none) "incomplete multibyte sequence" bytes

def restored (charset : Charset) (handler : String) (place : Nat) (stretch : Bytes) (reason : String) :
    Except TranscodingError (List Letter) :=
  let refused : TranscodingError := .unreadable charset.label place stretch reason
  match Handler.named? handler with
  | none => .error (.unknownHandler handler)
  | some .ignore => .ok []
  | some .replace => .ok [.char '\ufffd']
  | some .escape => .ok (letters (stretch.flatMap fun byte => escapedCode byte.toNat))
  | some .reference => .error .notForReading
  | some .byName => .error .notForReading
  | some .keepBytes =>
    if stretch.all (0x80 ≤ ·) then .ok (stretch.map fun byte => .half (0xDC00 + byte.toNat)) else .error refused
  | some _ => .error refused

def readFrom (charset : Charset) (handler : String) (place : Nat) (bytes : Bytes) :
    List Reading → Except TranscodingError (List Letter)
  | [] => .ok []
  | .letter l count :: rest => (readFrom charset handler (place + count) (bytes.drop count) rest).map (l :: ·)
  | .flaw count reason :: rest => do
    let own ← restored charset handler place (bytes.take count) reason
    .ok (own ++ (← readFrom charset handler (place + count) (bytes.drop count) rest))

-- The text that bytes are in an encoding. The mark of an encoding by single bytes does not count as a place.
def Charset.decode (charset : Charset) (handler : String) (bytes : Bytes) : Except TranscodingError (List Letter) :=
  let (settled, mark) := charset.settled bytes
  let rest := bytes.drop mark
  let start := if charset.hasUnits then mark else 0
  readFrom settled handler start rest (settled.readings (Handler.named? handler = some .keepHalves) rest)

end RestDispatch.Text
