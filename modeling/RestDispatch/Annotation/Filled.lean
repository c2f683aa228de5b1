import RestDispatch.Annotation.Format
import RestDispatch.Annotation.Item

set_option autoImplicit false

/-!
Texts of things, and texts with places that things are put into: in braces, or behind percent signs. Letters stand for
bytes there, so that bytes are cut, searched and filled as texts are. Bytes that are not basic letters, digits, marks or
blanks have no case and belong to no class.
-/
namespace RestDispatch.Meaning

def plainByteStart : Nat := 0xE000

def byteLetter (byte : UInt8) : Letter :=
  let n := byte.toNat
  let isBasic := n < 0x1C || (0x20 ≤ n && n < 0x80)
  .char (Char.ofNat (if isBasic then n else plainByteStart + n))

def letterByte (letter : Letter) : UInt8 :=
  let n := codeOf letter
  UInt8.ofNat (if plainByteStart ≤ n then n - plainByteStart else n)

def unlettered (fixed : Bool) : Meaning → Meaning
  | .text t => .bytes fixed (t.map letterByte)
  | .list items => .list (unletteredAll fixed items)
  | .tuple items => .tuple (unletteredAll fixed items)
  | m => m
where
  unletteredAll (fixed : Bool) : List Meaning → List Meaning
    | [] => []
    | m :: ms => unlettered fixed m :: unletteredAll fixed ms

def basicLetter : Letter → List Char
  | .char c => if c.toNat < 128 then [c] else Text.codeEscape c
  | .half unit => '\\' :: 'u' :: Text.hex 4 unit

def basicLabel (m : Meaning) : Except Fault (List Letter) :=
  m.printed.map fun label => Text.letters ((Text.lettersOf label).flatMap basicLetter)

def converted (conversion : Option Char) (m : Meaning) : Except Fault Meaning :=
  match conversion with
  | some 'r' => m.printed.map ofString
  | some 's' => m.plain.map .text
  | some 'a' => m.basicLabel.map .text
  | _ => .ok m

def formatted (specification : List Letter) (m : Meaning) : Except Fault (List Letter) :=
  match specification, m with
  | [], m => m.plain
  | specification, .text t => FormatSpec.ofText specification t
  | specification, .truth b => FormatSpec.ofInt "bool" specification (if b then 1 else 0)
  | specification, .int n => FormatSpec.ofInt "int" specification n
  | specification, .float x => FormatSpec.ofFloat specification x
  | specification, .complex re im => FormatSpec.ofComplex specification re im
  | _, m => .error (.typeError s!"unsupported format string passed to {m.kindName}.__format__")

/-! Places behind percent signs. -/

structure Place where
  key : Option (List Letter) := none
  flags : List Char := []
  width : Nat := 0
  precision : Option Nat := none

namespace Place

def has (place : Place) (flag : Char) : Bool := flag ∈ place.flags

-- The width is filled at the right if the place says so, else at the left; numbers may be filled with zeros after
-- their head.
def pad (place : Place) (numeric : Bool) (head content : List Char) : List Char :=
  let missing := place.width - (head.length + content.length)
  if place.has '-' then head ++ content ++ List.replicate missing ' '
  else if numeric && place.has '0' then head ++ List.replicate missing '0' ++ content
  else List.replicate missing ' ' ++ head ++ content

def text (place : Place) (t : List Letter) : List Letter :=
  let t := t.take (place.precision.getD t.length)
  let missing := List.replicate (place.width - t.length) (Letter.char ' ')
  if place.has '-' then t ++ missing else missing ++ t

def sign (place : Place) (negative : Bool) : List Char :=
  FormatSpec.signText (if place.has '+' then some '+' else if place.has ' ' then some ' ' else none) negative

def int (place : Place) (code : Char) (n : Int) : Except Fault (List Letter) := do
  let (mark, digits) ← FormatSpec.intDigits (if code ∈ ['o', 'x', 'X'] then code else 'd') n.natAbs
  let digits := List.replicate (place.precision.getD 0 - digits.length) '0' ++ digits
  .ok (Text.letters (place.pad true (place.sign (n < 0) ++ (if place.has '#' then mark else [])) digits))

def float (place : Place) (code : Char) (x : Float) : List Letter :=
  let spec : FormatSpec := { precision := place.precision, alternate := place.has '#', code := some (.char code) }
  Text.letters (place.pad true (place.sign (Decimal.isNegative x && !x.isNaN)) (spec.floatSize x))

end Place

def placeKey? (depth : Nat) (read : List Letter) : List Letter → Option (List Letter × List Letter)
  | [] => none
  | .char ')' :: rest => if depth = 0 then some (read.reverse, rest) else placeKey? (depth - 1) (.char ')' :: read) rest
  | .char '(' :: rest => placeKey? (depth + 1) (.char '(' :: read) rest
  | letter :: rest => placeKey? depth (letter :: read) rest

-- Whether a thing has items that are asked for in square brackets. Texts and tuples are not looked into by key when
-- places are filled.
def hasKeyedItems : Meaning → Bool
  | .dict _ => true
  | .list _ => true
  | .bytes _ _ => true
  | .range _ _ _ => true
  | .container _ _ => true
  | .unpacked _ _ => true
  | .choice _ _ => true
  | .form _ => true
  | _ => false

-- What is put into places: things one after the other, or the items of one thing.
structure Supply where
  next : List Meaning
  table : Option Meaning := none

def tooFew : Fault := .typeError "not enough arguments for format string"

def Supply.take : Supply → Except Fault (Meaning × Supply)
  | ⟨m :: rest, table⟩ => .ok (m, ⟨rest, table⟩)
  | ⟨[], _⟩ => .error tooFew

structure PlaceNumber where
  label : String
  limit : Nat
  kind : String

def PlaceNumber.width : PlaceNumber := ⟨"width", 9223372036854775807, "ssize_t"⟩

def PlaceNumber.precision : PlaceNumber := ⟨"precision", 2147483647, "int"⟩

def PlaceNumber.read (own : PlaceNumber) (supply : Supply) (t : List Letter) :
    Except Fault (Option Int × Supply × List Letter) :=
  match t with
  | .char '*' :: rest => do
    let (m, supply) ← supply.take
    match m.integer? with
    | some n =>
      if n < -(own.limit : Int) - 1 || (own.limit : Int) < n then
        .error (.of "OverflowError" s!"Python int too large to convert to C {own.kind}")
      else .ok (some n, supply, rest)
    | none => .error (.typeError "* wants int")
  | t =>
    let digits := t.takeWhile fun letter => (FormatSpec.charOf letter).isDigit
    let number := Literal.valueIn 10 (digits.map FormatSpec.charOf)
    if digits.isEmpty then .ok (none, supply, t)
    else if own.limit < number then .error (.valueError s!"{own.label} too big")
    else .ok (some (number : Int), supply, t.drop digits.length)

def placeInt (code : Char) (m : Meaning) : Except Fault Int :=
  match m.integer?, m with
  | some n, _ => .ok n
  | none, .float x =>
    if code ∈ ['x', 'X', 'o'] then .error (.typeError s!"%{String.ofList [code]} format: an integer is required, not float")
    else if x.isNaN then .error (.valueError "cannot convert float NaN to integer")
    else if !Decimal.isFinite x then .error (.of "OverflowError" "cannot convert float infinity to integer")
    else .ok (Decimal.truncate x)
  | none, m =>
    let wanted := if code ∈ ['x', 'X', 'o'] then "an integer" else "a real number"
    .error (.typeError s!"%{String.ofList [code]} format: {wanted} is required, not {m.kindName}")

def placeFloat (m : Meaning) : Except Fault Float :=
  match m.integer?, m with
  | some n, _ => Number.ofInt n
  | none, .float x => .ok x
  | none, m => .error (.typeError s!"must be real number, not {m.kindName}")

def placeCharacter (m : Meaning) : Except Fault (List Letter) :=
  match m with
  | .text [letter] => .ok [letter]
  | m =>
    match m.integer? with
    | some n => (FormatSpec.character n).map ([·])
    | none => .error (.typeError "%c requires int or char")

def placeBytes (m : Meaning) : Except Fault (List Letter) :=
  match m.bytesIn? with
  | some content => .ok (content.map byteLetter)
  | none =>
    .error (.typeError
      s!"%b requires a bytes-like object, or an object that implements __bytes__, not '{m.kindName}'")

def placeByte (m : Meaning) : Except Fault (List Letter) :=
  match m, m.integer? with
  | .bytes _ [byte], _ => .ok [byteLetter byte]
  | _, some n =>
    if 0 ≤ n && n < 256 then .ok [byteLetter (UInt8.ofNat n.toNat)]
    else .error (.of "OverflowError" "%c arg not in range(256)")
  | _, none => .error (.typeError "%c requires an integer in range(256) or a single byte")

def putIntoBytes? (place : Place) (code : Letter) (m : Meaning) : Option (Except Fault (List Letter)) :=
  match FormatSpec.charOf code with
  | 's' => some ((placeBytes m).map place.text)
  | 'b' => some ((placeBytes m).map place.text)
  | 'r' => some (m.basicLabel.map place.text)
  | 'c' => some ((placeByte m).map { place with precision := none }.text)
  | _ => none

def putInto (place : Place) (code : Letter) (index : Nat) (m : Meaning) : Except Fault (List Letter) := do
  match FormatSpec.charOf code with
  | 's' => .ok (place.text (← m.plain))
  | 'r' => .ok (place.text (Text.lettersOf (← m.printed)))
  | 'a' => .ok (place.text (← m.basicLabel))
  | 'c' => .ok ({ place with precision := none }.text (← placeCharacter m))
  | c =>
    if c ∈ "diuoxX".toList then place.int c (← placeInt (if c = 'i' || c = 'u' then 'd' else c) m)
    else if c ∈ "eEfFgG".toList then .ok (place.float c (← placeFloat m))
    else
      let shown := if 32 ≤ c.toNat && c.toNat < 128 then String.ofList [c] else "?"
      .error (.valueError
        s!"unsupported format character '{shown}' (0x{String.ofList (Nat.toDigits 16 c.toNat)}) at index {index}")

-- Fills places behind percent signs. Every place takes a letter, so as much fuel as there are letters suffices.
def fillWithin (inBytes : Bool) (length : Nat) : Nat → Supply → List Letter → Except Fault (List Letter × Supply)
  | _, supply, [] => .ok ([], supply)
  | 0, supply, _ => .ok ([], supply)
  | fuel + 1, supply, .char '%' :: .char '%' :: rest => do
    let (others, supply) ← fillWithin inBytes length fuel supply rest
    .ok (.char '%' :: others, supply)
  | fuel + 1, supply, .char '%' :: rest => do
    let (place, supply, rest) ← match rest, supply.table with
      | .char '(' :: _, none => .error (.typeError "format requires a mapping")
      | .char '(' :: rest, some table =>
        match placeKey? 0 [] rest with
        | none => .error (.valueError "incomplete format key")
        | some (key, rest) => do
          let asked := if inBytes then unlettered true (.text key) else .text key
          .ok ({ key := some key : Place }, { supply with next := [← table.item asked] }, rest)
      | rest, _ => .ok ({}, supply, rest)
    let flags := (rest.map FormatSpec.charOf).takeWhile (· ∈ ['-', '+', ' ', '#', '0'])
    let (width, supply, rest) ← PlaceNumber.width.read supply (rest.drop flags.length)
    let (precision, supply, rest) ← match rest with
      | .char '.' :: rest => do
        let (precision, supply, rest) ← PlaceNumber.precision.read supply rest
        .ok (some (precision.getD 0).toNat, supply, rest)
      | rest => .ok (none, supply, rest)
    let flags := if width.any (· < 0) then '-' :: flags else flags
    if FormatSpec.roomLimit < max (width.getD 0).natAbs (precision.getD 0) then .error Number.noRoom
    let place := { place with flags, width := (width.getD 0).natAbs, precision }
    let rest := match rest with
      | .char c :: after => if c ∈ ['l', 'h', 'L'] then after else rest
      | rest => rest
    match rest with
    | [] => .error (.valueError "incomplete format")
    | code :: rest =>
      let (m, supply) ← supply.take
      let index := length - rest.length - 1
      let own ← ((if inBytes then putIntoBytes? place code m else none).getD (putInto place code index m))
      let (others, supply) ← fillWithin inBytes length fuel supply rest
      .ok (own ++ others, supply)
  | fuel + 1, supply, letter :: rest => do
    let (others, supply) ← fillWithin inBytes length fuel supply rest
    .ok (letter :: others, supply)

def filledLetters (inBytes : Bool) (t : List Letter) (m : Meaning) : Except Fault (List Letter) := do
  let supply : Supply := match m with
    | .tuple items => { next := items }
    | m =>
      let isKeyed := m.hasKeyedItems && !(inBytes && m matches .bytes _ _)
      { next := [m], table := if isKeyed then some m else none }
  let (written, left) ← fillWithin inBytes t.length t.length supply t
  if left.next.isEmpty || left.table.isSome then .ok written
  else
    let kind := if inBytes then "bytes" else "string"
    .error (.typeError s!"not all arguments converted during {kind} formatting")

def filled (t : List Letter) (m : Meaning) : Except Fault Meaning := (filledLetters false t m).map .text

def filledBytes (fixed : Bool) (content : Bytes) (m : Meaning) : Except Fault Meaning := do
  .ok (unlettered fixed (.text (← filledLetters true (content.map byteLetter) m)))

end RestDispatch.Meaning
