import RestDispatch.Annotation.TextMethod

set_option autoImplicit false

/-!
Methods of bytes. Bytes are cut, searched and changed as texts are, each byte being a letter.
-/
namespace RestDispatch.Meaning

def notBytes (m : Meaning) : Fault := .typeError s!"a bytes-like object is required, not '{m.kindName}'"

def bytesArgument (m : Meaning) : Except Fault Bytes :=
  match m.bytesIn? with
  | some content => .ok content
  | none => .error m.notBytes

def letteredBytes (m : Meaning) : Except Fault Meaning := do .ok (.text ((← bytesArgument m).map byteLetter))

def letteredIfAny (m : Meaning) : Except Fault Meaning :=
  match m with
  | .nothing => .ok .nothing
  | m => letteredBytes m

def byteRun (m : Meaning) : Except Fault Letters :=
  match m.bytesIn?, m.integer? with
  | some content, _ => .ok (content.map byteLetter)
  | none, some n =>
    if 0 ≤ n && n < 256 then .ok [byteLetter (UInt8.ofNat n.toNat)]
    else .error (.valueError "byte must be in range(0, 256)")
  | none, none => .error (.typeError s!"argument should be integer or bytes-like object, not '{m.kindName}'")

def joinedBytes (m : Meaning) : Except Fault Meaning := do
  let items ← match m.elements with
    | .ok items => .ok items
    | .error failure => .error (if m matches .stream _ _ _ then failure else .typeError "can only join an iterable")
  let parts ← items.zipIdx.mapM fun (item, place) =>
    match item.bytesIn? with
    | some content => .ok (Meaning.text (content.map byteLetter))
    | none =>
      .error (Fault.typeError s!"sequence item {place}: expected a bytes-like object, {item.kindName} found")
  .ok (.list parts)

def fillByte (call : String) (m : Meaning) : Except Fault Meaning :=
  match m with
  | .bytes _ [byte] => .ok (.text [byteLetter byte])
  | m => .error (.typeError s!"{call}() argument 2 must be a byte string of length 1, not {m.kindName}")

def textOnly : List String :=
  ["encode", "format", "isidentifier", "isprintable", "casefold", "isdecimal", "isnumeric", "format_map"]

def letteredArguments (name : String) (arguments : CallArguments) : Except Fault CallArguments := do
  let given := arguments.byPosition
  let first := (given.head?).getD .nothing
  let with_ := fun (items : List Meaning) => { arguments with byPosition := items }
  if name = "join" then .ok (with_ [← joinedBytes first])
  else if name ∈ ["strip", "lstrip", "rstrip"] then .ok (with_ [← letteredIfAny first])
  else if name ∈ ["partition", "rpartition", "removeprefix", "removesuffix"] then
    .ok (with_ [← letteredBytes first])
  else if name = "replace" then
    let old ← letteredBytes first
    let new ← letteredBytes ((given[1]?).getD .nothing)
    .ok (with_ ([old, new] ++ given.drop 2))
  else if name ∈ ["center", "ljust", "rjust"] then
    let _ ← first.roomFor
    .ok (with_ (first :: (← (given.drop 1).mapM (fillByte name))))
  else if name ∈ ["split", "rsplit"] then
    Places.check { call := name, names := ["sep", "maxsplit"] } arguments
    let limit := (arguments.at? 1 "maxsplit").getD (.int (-1))
    let _ ← limit.sizeIndex
    .ok { byPosition := [← letteredIfAny ((arguments.at? 0 "sep").getD .nothing), limit] }
  else .ok arguments

def sharedMethod? (fixed : Bool) (content : Bytes) (name : String) (arguments : CallArguments) :
    Option (Except Fault Meaning) :=
  let t := content.map byteLetter
  if name ∈ textOnly then none
  else if name ∈ searches then
    some do
      let part ← searched (arguments.byPosition.drop 1) t
      found name "subsection not found" (← byteRun ((arguments.byPosition.head?).getD .nothing)) part
  else
    (textMethod? t name {}).map fun _ => do
      match textMethod? t name (← letteredArguments name arguments) with
      | some made => made.map (unlettered fixed)
      | none => .ok .nothing

def byteTailTest (call : String) (holds : Letters → Letters → Bool) (given : List Meaning) (content : Bytes) :
    Except Fault Meaning := do
  let part ← searched (given.drop 1) (content.map byteLetter)
  let tests := fun (run : Letters) => part.any fun (_, part) => holds run part
  let read := fun (m : Meaning) => do .ok ((← bytesArgument m).map byteLetter)
  match (given.head?).getD .nothing with
  | .tuple items => (holdsOfOne read tests items).map .truth
  | m =>
    match m.bytesIn? with
    | some run => .ok (.truth (tests (run.map byteLetter)))
    | none => .error (.typeError s!"{call} first arg must be bytes or a tuple of bytes, not {m.kindName}")

-- Digits of bytes in groups, counted from the end, or from the start if the number is negative.
def groupedHex (separator : Char) (size : Int) (content : Bytes) : List Char :=
  content.zipIdx.flatMap fun (byte, place) =>
    let before : Nat := if 0 < size then content.length - place else place
    let isCut := place ≠ 0 && size ≠ 0 && before % size.natAbs = 0
    (if isCut then [separator] else []) ++ Text.hex 2 byte.toNat

def hexOf (arguments : CallArguments) (content : Bytes) : Except Fault Meaning := do
  Places.check { call := "hex", names := ["sep", "bytes_per_sep"] } arguments
  let size ← ((arguments.at? 1 "bytes_per_sep").getD (.int 1)).smallIndex
  let separator ← match arguments.at? 0 "sep" with
    | none => .ok none
    | some (.text [.char c]) => if c.toNat < 0x80 then .ok (some c) else .error (.valueError "sep must be ASCII.")
    | some (.bytes true [byte]) =>
      if byte < 0x80 then .ok (some (Char.ofNat byte.toNat)) else .error (.valueError "sep must be ASCII.")
    | some (.text [.half _]) => .error (.valueError "sep must be ASCII.")
    | some m =>
      match m.elements with
      | .ok [_] => .error (.typeError "sep must be str or bytes.")
      | .ok _ => .error (.valueError "sep must be length 1.")
      | .error _ => .error (.typeError s!"object of type '{m.kindName}' has no len()")
  let digits := match separator with
    | none => content.flatMap fun byte => Text.hex 2 byte.toNat
    | some c => groupedHex c size content
  .ok (.text (Text.letters digits))

def mappedBytes (fixed : Bool) (arguments : CallArguments) (content : Bytes) : Except Fault Meaning := do
  Places.check { call := "translate", unnamed := 1, names := ["delete"], required := 1 } arguments
  let table ← match arguments.byPosition.head? with
    | none => .ok none
    | some .nothing => .ok none
    | some m => do
      let table ← bytesArgument m
      if table.length ≠ 256 then .error (.valueError "translation table must be 256 characters long")
      .ok (some table)
  let left ← bytesArgument ((arguments.at? 1 "delete").getD (.bytes true []))
  let kept := content.filter fun byte => byte ∉ left
  .ok (.bytes fixed (match table with
    | none => kept
    | some table => kept.map fun byte => (table[byte.toNat]?).getD byte))

def byteTable (given : List Meaning) : Except Fault Meaning := do
  match given with
  | [first, second] => do
    let old ← bytesArgument first
    let new ← bytesArgument second
    if old.length ≠ new.length then .error (.valueError "maketrans arguments must have same length")
    let pairs := (old.zip new).reverse
    .ok (.bytes true ((List.range 256).map fun n => (pairs.lookup (UInt8.ofNat n)).getD (UInt8.ofNat n)))
  | _ => .ok .nothing

def extension (m : Meaning) : Except Fault Bytes :=
  match m.bytesIn?, m.elements with
  | some content, _ => .ok content
  | none, .ok items => items.mapM (byteOf "byte")
  | none, .error failure =>
    .error (if m matches .stream _ _ _ then failure else .typeError s!"can't extend bytearray with {m.kindName}")

def byteChange? (content : Bytes) (name : String) (given : List Meaning) : Option (Except Fault Meaning) :=
  match name, given with
  | "append", m :: _ => some ((byteOf "byte" m).map fun _ => .nothing)
  | "extend", m :: _ => some ((extension m).map fun _ => .nothing)
  | "insert", place :: m :: _ => some do
    let _ ← place.sizeIndex
    let _ ← byteOf "byte" m
    .ok .nothing
  | "remove", m :: _ => some do
    let byte ← byteOf "byte" m
    if byte ∈ content then .ok .nothing else .error (.valueError "value not found in bytearray")
  | "pop", given => some do
    let place ← ((given.head?).getD (.int (-1))).sizeIndex
    if content.isEmpty then .error (.of "IndexError" "pop from empty bytearray")
    match atPlace? content place with
    | some byte => .ok (.int byte.toNat)
    | none => .error (.of "IndexError" "pop index out of range")
  | "copy", _ => some (.ok (.bytes false content))
  | "clear", _ => some (.ok .nothing)
  | "reverse", _ => some (.ok .nothing)
  | _, _ => none

def bytesMethod? (fixed : Bool) (content : Bytes) (name : String) (arguments : CallArguments) :
    Option (Except Fault Meaning) :=
  let given := arguments.byPosition
  match name with
  | "decode" => some do
    Places.check { call := name, names := ["encoding", "errors"] } arguments
    let (encoding, handler) ← codecArguments name 0 arguments
    decoded content encoding handler
  | "hex" => some (hexOf arguments content)
  | "startswith" => some (byteTailTest name List.isPrefixOf given content)
  | "endswith" => some (byteTailTest name List.isSuffixOf given content)
  | "translate" => some (mappedBytes fixed arguments content)
  | "maketrans" => some (byteTable given)
  | name => (byteChange? content name given).or (sharedMethod? fixed content name arguments)

def bytesOfHex (place : Nat) : Letters → Except Fault Bytes
  | [] => .ok []
  | .char high :: .char low :: rest =>
    if Text.isBlank high then bytesOfHex (place + 1) (.char low :: rest)
    else
      match Literal.isDigitOf 16 high, Literal.isDigitOf 16 low with
      | true, true => do .ok (UInt8.ofNat (Literal.valueIn 16 [high, low]) :: (← bytesOfHex (place + 2) rest))
      | true, false => notHex (place + 1)
      | false, _ => notHex place
  | letter :: rest =>
    if Text.isBlankLetter letter then bytesOfHex (place + 1) rest
    else notHex (if isHexLetter letter then place + 1 else place)
where
  isHexLetter : Letter → Bool
    | .char c => Literal.isDigitOf 16 c
    | .half _ => false
  notHex (place : Nat) : Except Fault Bytes :=
    .error (.valueError s!"non-hexadecimal number found in fromhex() arg at position {place}")

end RestDispatch.Meaning
