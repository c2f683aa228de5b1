import RestDispatch.Annotation.Arguments
import RestDispatch.Annotation.Attribute
import RestDispatch.Annotation.Item
import RestDispatch.Annotation.Operator
import RestDispatch.Model.Instance
import RestDispatch.Param.Function
import RestDispatch.Text.Transcoding

set_option autoImplicit false

/-!
Calling classes: what they make of arguments.
-/
namespace RestDispatch

namespace Meaning

def index (m : Meaning) : Except Fault Int :=
  match m.integer? with
  | some n => .ok n
  | none => .error (.typeError s!"'{m.kindName}' object cannot be interpreted as an integer")

def indexWithin (bits : Nat) (kind : String) (m : Meaning) : Except Fault Int := do
  let n ← m.index
  let bound : Int := Decimal.weight 2 (bits - 1)
  if -bound ≤ n && n < bound then .ok n
  else .error (.of "OverflowError" s!"Python int too large to convert to C {kind}")

def sizeIndex (m : Meaning) : Except Fault Int := m.indexWithin 64 "ssize_t"

def smallIndex (m : Meaning) : Except Fault Int := m.indexWithin 32 "int"

def roomFor (m : Meaning) : Except Fault Nat := do
  let n ← m.sizeIndex
  if (elementLimit : Int) < n then .error noRoom else .ok n.toNat

/-! Numbers. -/

def basedDigits? (base : Nat) (cs : List Char) : Option Nat :=
  match Literal.digitRun? (Literal.isDigitOf base) [] cs with
  | some (read, []) => if read.isEmpty then none else some (Literal.valueIn base read.reverse)
  | _ => none

def withoutMark (base : Nat) (cs : List Char) : Nat × List Char :=
  match cs with
  | '0' :: mark :: rest =>
    match Literal.baseOf? mark with
    | some found =>
      if base = 0 || base = found then
        (found, if rest.head? = some '_' then rest.drop 1 else rest)
      else (base, cs)
    | none => (base, cs)
  | cs => (base, cs)

def basedInt? (base : Nat) (t : List Letter) : Option Int :=
  let (negative, rest) := Decimal.readSign (Decimal.numeralText t)
  let (found, digits) := withoutMark base rest
  let number := if found = 0 then
      (basedDigits? 10 digits).bind fun n => if digits.head? = some '0' && n ≠ 0 then none else some n
    else basedDigits? found digits
  number.map fun n => if negative then -(n : Int) else n

def byteText (content : Bytes) : List Letter := Text.lettersOf (Text.latinText content)

def intInBase (m base : Meaning) : Except Fault Meaning := do
  let base ← base.index
  if base ≠ 0 && (base < 2 || 36 < base) then .error (.valueError "int() base must be >= 2 and <= 36, or 0")
  let found ← match m with
    | .text t => .ok (basedInt? base.toNat t)
    | .bytes _ content => .ok (basedInt? base.toNat (byteText content))
    | _ => .error (.typeError "int() can't convert non-string with explicit base")
  match found with
  | some n => .ok (.int n)
  | none => .error (.valueError s!"invalid literal for int() with base {base}: {← m.printed}")

def toInt (m : Meaning) : Except Fault Meaning :=
  match m with
  | .bytes _ content =>
    match Decimal.readInt (byteText content) with
    | .ok n => .ok (.int n)
    | .error .malformed => do .error (.valueError s!"invalid literal for int() with base 10: {← m.printed}")
    | .error (.overlong digits) => .error (.overlongInput digits)
  | m =>
    match m.toValue? with
    | some (.list _) => .error (wrongNumber m)
    | some (.object _) => .error (wrongNumber m)
    | some v => (Function.toInt v).map (ofValue modelBase)
    | none => .error (wrongNumber m)
where
  wrongNumber (m : Meaning) : Fault :=
    .typeError s!"int() argument must be a string, a bytes-like object or a real number, not '{m.kindName}'"

def toFloat (m : Meaning) : Except Fault Meaning :=
  match m with
  | .bytes _ content =>
    match Decimal.readFloat? (byteText content) with
    | some x => .ok (.float x)
    | none => do .error (.valueError s!"could not convert string to float: {← m.printed}")
  | m =>
    match m.toValue? with
    | some (.list _) => .error (wrongNumber m)
    | some (.object _) => .error (wrongNumber m)
    | some v => (Function.toFloat v).map (ofValue modelBase)
    | none => .error (wrongNumber m)
where
  wrongNumber (m : Meaning) : Fault :=
    .typeError s!"float() argument must be a string or a real number, not '{m.kindName}'"

def intOf (arguments : CallArguments) : Except Fault Meaning := do
  Places.check { call := "int", unnamed := 1, names := ["base"] } arguments
  match arguments.at? 0 "", arguments.at? 1 "base" with
  | none, none => .ok (.int 0)
  | none, some _ => .error (.typeError "int() missing string argument")
  | some m, some base => intInBase m base
  | some m, none => m.toInt

def floatOf (arguments : CallArguments) : Except Fault Meaning := do
  match ← arguments.optional "float" with
  | none => .ok (.float 0.0)
  | some m => m.toFloat

def complexText? (cs : List Char) : Option Meaning :=
  let cs := match cs with
    | '(' :: rest => if rest.getLast? = some ')' then rest.dropLast else cs
    | cs => cs
  let imaginary := fun (cs : List Char) => Decimal.readFloatText? (if cs.all (· ∈ ['+', '-']) then cs ++ ['1'] else cs)
  match cs.reverse with
  | unit :: body =>
    if unit.toLower ≠ 'j' then (Decimal.readFloatText? cs).map (Meaning.complex · 0.0)
    else
      let body := body.reverse
      let places := (List.range body.length).filter fun i =>
        i ≠ 0 && (body[i]?).any (· ∈ ['+', '-']) && !(body[i - 1]?).any fun c => c.toLower = 'e'
      match places.getLast? with
      | some i => do some (.complex (← Decimal.readFloatText? (body.take i)) (← imaginary (body.drop i)))
      | none => (imaginary body).map (Meaning.complex 0.0)
  | [] => none

def complexParts (refusal : String) (m : Meaning) : Except Fault (Float × Option Float) :=
  match m.asNumber? with
  | some (.complex re im) => .ok (re, some im)
  | some n => do .ok (← n.toFloat, none)
  | none => .error (.typeError s!"complex() {refusal} '{m.kindName}'")

def complexOf (arguments : CallArguments) : Except Fault Meaning := do
  Places.check { call := "complex", names := ["real", "imag"] } arguments
  match arguments.at? 0 "real", arguments.at? 1 "imag" with
  | none, none => .ok (.complex 0.0 0.0)
  | some (.text _), some _ => .error (.typeError "complex() can't take second arg if first is a string")
  | _, some (.text _) => .error (.typeError "complex() second arg can't be a string")
  | some (.text t), none =>
    match complexText? (Decimal.numeralText t) with
    | some m => .ok m
    | none => .error (.valueError "complex() arg is a malformed string")
  | re, im => do
    let (real, own) ← complexParts "first argument must be a string or a number, not" (re.getD (.int 0))
    match im with
    | none => .ok (.complex real (own.getD 0.0))
    | some im => do
      let (imaginary, other) ← complexParts "second argument must be a number, not" im
      .ok (.complex (other.elim real (real - ·)) (own.elim imaginary (imaginary + ·)))

/-! Texts and bytes. -/

def transcodingFault (error : Text.TranscodingError) : Fault :=
  let kind := match error with
    | .unknownHandler _ => "LookupError"
    | .notForReading => "TypeError"
    | .unwritable _ _ _ _ _ => "UnicodeEncodeError"
    | .unreadable _ _ _ _ => "UnicodeDecodeError"
  .of kind error.message

def codecName (call what : String) (m : Option Meaning) (default : String) : Except Fault String :=
  match m with
  | none => .ok default
  | some (.text t) =>
    if t.contains (.char (Char.ofNat 0)) then .error (.valueError "embedded null character")
    else (Text.Utf8.encodeLetters t).map (fun _ => Text.held t) |>.mapError fun e => .of "UnicodeEncodeError" e.message
  | some m => .error (badArgument call s!"argument '{what}'" "str" m)

def charsetOf (verb name : String) : Except Fault Text.Charset :=
  match Text.Charset.named? name with
  | some charset => .ok charset
  | none =>
    .error (.of "LookupError" (
      if Text.isByteTransform name then
        s!"'{name}' is not a text encoding; use codecs.{verb}() to handle arbitrary codecs"
      else s!"unknown encoding: {name}"))

def inCodec (charset : Text.Charset) (gerund name : String) (failure : Fault) : Fault :=
  let atOnce := charset ∈ [.utf8 false, .utf16 none, .utf32 none, .ascii, .latin]
  if atOnce || failure.kind ∈ ["UnicodeEncodeError", "UnicodeDecodeError"] then failure
  else { failure with text := s!"{gerund} with '{name}' codec failed ({failure.kind}: {failure.text})" }

def encoded (t : List Letter) (name handler : String) : Except Fault Bytes := do
  let charset ← charsetOf "encode" name
  (charset.encode handler t).mapError fun error => inCodec charset "encoding" name (transcodingFault error)

def unescaped (t : List Letter) : Except Fault (List Letter) :=
  match (Text.chars? t).bind (Literal.text? {}) with
  | some t => .ok t
  | none =>
    .error (.of "UnicodeDecodeError"
      s!"'unicodeescape' codec can't decode byte 0x5c in position {t.length - 1}: \\ at end of string")

-- The text that bytes are in an encoding. No bytes are no text in any.
def decoded (content : Bytes) (name handler : String) : Except Fault Meaning := do
  if content.isEmpty then .ok (.text [])
  else
    let charset ← charsetOf "decode" name
    let t ← (charset.decode handler content).mapError fun error =>
      inCodec charset "decoding" name (transcodingFault error)
    if charset = .escaped false then (unescaped t).map .text else .ok (.text t)

def codecArguments (call : String) (place : Nat) (arguments : CallArguments) : Except Fault (String × String) := do
  let encoding ← codecName call "encoding" (arguments.at? place "encoding") "utf-8"
  .ok (encoding, ← codecName call "errors" (arguments.at? (place + 1) "errors") "strict")

def textOf (arguments : CallArguments) : Except Fault Meaning := do
  Places.check { call := "str", names := ["object", "encoding", "errors"] } arguments
  let (encoding, handler) ← codecArguments "str" 1 arguments
  let isPlain := (arguments.at? 1 "encoding").isNone && (arguments.at? 2 "errors").isNone
  match arguments.at? 0 "object", isPlain with
  | none, _ => .ok (.text [])
  | some m, true => m.plain.map .text
  | some (.bytes _ content), false => decoded content encoding handler
  | some (.view _ content), false => decoded content encoding handler
  | some (.text _), false => .error (.typeError "decoding str is not supported")
  | some m, false => .error (.typeError s!"decoding to str: need a bytes-like object, {m.kindName} found")

def byteOf (kind : String) (m : Meaning) : Except Fault UInt8 := do
  let n ← m.index
  if n < 0 || 255 < n then .error (.valueError s!"{kind} must be in range(0, 256)") else .ok (UInt8.ofNat n.toNat)

def bytesOf (fixed : Bool) (arguments : CallArguments) : Except Fault Meaning := do
  let kind := if fixed then "bytes" else "bytearray"
  Places.check { call := kind, names := ["source", "encoding", "errors"] } arguments
  let (encoding, handler) ← codecArguments kind 1 arguments
  match arguments.at? 0 "source", arguments.at? 1 "encoding", arguments.at? 2 "errors" with
  | none, none, none => .ok (.bytes fixed [])
  | some (.text t), some _, _ => (encoded t encoding handler).map (.bytes fixed)
  | some (.text _), none, _ => .error (.typeError "string argument without an encoding")
  | _, some _, _ => .error (.typeError "encoding without a string argument")
  | _, none, some _ => .error (.typeError "errors without a string argument")
  | some (.bytes _ content), none, none => .ok (.bytes fixed content)
  | some (.view _ content), none, none => .ok (.bytes fixed content)
  | some m, none, none =>
    match m.integer? with
    | some n =>
      if n < -Decimal.weight 2 63 || (Decimal.weight 2 63 : Int) ≤ n then .error notIndexSized
      else if n < 0 then .error (.valueError "negative count")
      else if (elementLimit : Int) < n then .error noRoom
      else .ok (.bytes fixed (List.replicate n.toNat 0))
    | none =>
      match m.elements with
      | .ok items => (items.mapM (byteOf (if fixed then "bytes" else "byte"))).map (.bytes fixed)
      | .error _ => .error (.typeError s!"cannot convert '{m.kindName}' object to {kind}")

/-! Collections. -/

def elementsGiven (call : String) (arguments : CallArguments) : Except Fault (List Meaning) := do
  match ← arguments.optional call with
  | none => .ok []
  | some m => m.elements

def pairOf (place : Nat) (m : Meaning) : Except Fault (Meaning × Meaning) :=
  match m.elements with
  | .ok [key, value] => .ok (key, value)
  | .ok items =>
    .error (.valueError s!"dictionary update sequence element #{place} has length {items.length}; 2 is required")
  | .error _ => .error (.typeError s!"cannot convert dictionary update sequence element #{place} to a sequence")

def entriesOf (m : Meaning) : Except Fault (List (Meaning × Meaning)) :=
  match m with
  | .dict entries => .ok entries
  | m => do
    let items ← m.elements
    items.zipIdx.mapM fun (item, place) => pairOf place item

def dictGiven (call : String) (arguments : CallArguments) : Except Fault Meaning := do
  let own ← { arguments with byName := [] }.optional call
  let entries ← match own with
    | none => .ok []
    | some m => m.entriesOf
  dictOf (entries ++ arguments.byName.map fun (name, value) => (ofString name, value))

def rangeOf (arguments : CallArguments) : Except Fault Meaning := do
  let limits ← (← arguments.between "range" 1 3).mapM index
  match limits with
  | [stop] => .ok (.range 0 stop 1)
  | [start, stop] => .ok (.range start stop 1)
  | [start, stop, step] =>
    if step = 0 then .error (.valueError "range() arg 3 must not be zero") else .ok (.range start stop step)
  | _ => .ok .nothing

def sliceOf (arguments : CallArguments) : Except Fault Meaning := do
  match ← arguments.between "slice" 1 3 with
  | [stop] => .ok (.slice .nothing stop .nothing)
  | [start, stop] => .ok (.slice start stop .nothing)
  | [start, stop, step] => .ok (.slice start stop step)
  | _ => .ok .nothing

def transposed (lists : List (List Meaning)) : List (List Meaning) :=
  let length := ((lists.map List.length).min?).getD 0
  (List.range length).map fun place => lists.filterMap (·[place]?)

def unevenEnd? (lists : List (List Meaning)) : Option Fault :=
  let length := ((lists.map List.length).min?).getD 0
  let first := (lists.head?.map List.length).getD 0
  let others := fun (n : Nat) => if n = 1 then "argument 1" else s!"arguments 1-{n}"
  if first = length then
    (lists.findIdx? (length < ·.length)).map fun place =>
      .valueError s!"zip() argument {place + 1} is longer than {others place}"
  else
    (lists.findIdx? (·.length = length)).map fun place =>
      .valueError s!"zip() argument {place + 1} is shorter than {others place}"

def zipOf (arguments : CallArguments) : Except Fault Meaning := do
  Places.check { call := "zip", nameOnly := ["strict"] } { arguments with byPosition := [] }
  let lists ← arguments.byPosition.mapM elements
  let isStrict := ((arguments.byName.lookup "strict").map truthy).getD false
  .ok (.stream "zip" ((transposed lists).map .tuple) (if isStrict then unevenEnd? lists else none))

-- The elements with their numbers. Of two arguments only the second has the name that says where to start.
def enumerateOf (arguments : CallArguments) : Except Fault Meaning := do
  let call := "enumerate"
  let given := arguments.count + arguments.byName.length
  match arguments.byPosition, given with
  | _, 1 => arguments.allowNames call ["iterable"]
  | [], 2 => arguments.allowNames call ["iterable", "start"]
  | _, 2 => arguments.allowNames call ["start"]
  | [], _ => .error (.typeError s!"{call}() missing required argument 'iterable'")
  | _, _ => .error (.typeError s!"{call}() takes at most 2 arguments ({given} given)")
  let start ← ((arguments.at? 1 "start").getD (.int 0)).index
  let items ← ((arguments.at? 0 "iterable").getD .nothing).elements
  .ok (.stream call (items.zipIdx.map fun (item, place) => .tuple [.int (start + place), item]) none)

def backwardKinds : List (String × String) :=
  [("list", "list_reverseiterator"), ("range", "range_iterator"), ("dict", "dict_reversekeyiterator"),
   ("dict_keys", "dict_reversekeyiterator"), ("dict_values", "dict_reversevalueiterator"),
   ("dict_items", "dict_reverseitemiterator")]

def isReversible : Meaning → Bool
  | .set _ _ => false
  | .stream kind _ _ => isDictView kind
  | .container _ _ => false
  | .record _ _ _ => false
  | m => m.elements matches .ok _

def reversedFrom (m : Meaning) : Except Fault Meaning :=
  if m.isReversible then do
    .ok (.stream ((backwardKinds.lookup m.kindName).getD "reversed") (← m.elements).reverse none)
  else .error (.typeError s!"'{m.kindName}' object is not reversible")

def reversedOf (arguments : CallArguments) : Except Fault Meaning := do
  match ← arguments.between "reversed" 1 1 with
  | [m] => m.reversedFrom
  | _ => .ok .nothing

def viewOf (arguments : CallArguments) : Except Fault Meaning := do
  Places.check { call := "memoryview", names := ["object"], required := 1 } arguments
  match (arguments.at? 0 "object").getD .nothing with
  | .bytes fixed content => .ok (.view fixed content)
  | .view fixed content => .ok (.view fixed content)
  | m => .error (.typeError s!"memoryview: a bytes-like object is required, not '{m.kindName}'")

/-! Classes. -/

-- A class that is made anew: it is a model if it is made from one.
def classNamed (name : List Letter) (bases : List Meaning) : Meaning :=
  let found := bases.findSome? fun
    | .model m => some { m with name := Text.held name }
    | _ => none
  found.elim (.cls (Text.held name)) .model

def finalClasses : List String :=
  ["bool", "range", "slice", "memoryview", "NoneType", "ellipsis", "NotImplementedType", "function", "generator", "method",
   "builtin_function_or_method", "dict_keys", "dict_values", "dict_items", "code"]

def typeOf (arguments : CallArguments) : Except Fault Meaning :=
  match arguments.byPosition, arguments.byName with
  | [m], [] => .ok m.classOf
  | [_], _ => arguments.refuseNames "type" *> .ok .nothing
  | [.text name, .tuple bases, .dict _], _ =>
    match bases.filterMap fun | .cls path => if path ∈ finalClasses then some path else none | _ => none with
    | path :: _ => .error (.typeError s!"type '{path}' is not an acceptable base type")
    | [] => .ok (classNamed name bases)
  | [.text _, .tuple _, m], _ => .error (.typeError s!"type.__new__() argument 3 must be dict, not {m.refusedKind}")
  | [.text _, m, _], _ => .error (.typeError s!"type.__new__() argument 2 must be tuple, not {m.refusedKind}")
  | [m, _, _], _ => .error (.typeError s!"type.__new__() argument 1 must be str, not {m.refusedKind}")
  | _, _ => .error (.typeError "type() takes 1 or 3 arguments")

def systemFaults : List (Int × String) :=
  [(1, "PermissionError"), (2, "FileNotFoundError"), (3, "ProcessLookupError"), (4, "InterruptedError"),
   (10, "ChildProcessError"), (11, "BlockingIOError"), (13, "PermissionError"), (17, "FileExistsError"),
   (20, "NotADirectoryError"), (21, "IsADirectoryError"), (32, "BrokenPipeError"), (103, "ConnectionAbortedError"),
   (104, "ConnectionResetError"), (110, "TimeoutError"), (111, "ConnectionRefusedError")]

def faultNames : List (String × List String) :=
  [("ImportError", ["name", "path"]), ("ModuleNotFoundError", ["name", "path"]), ("AttributeError", ["name", "obj"]),
   ("NameError", ["name"]), ("UnboundLocalError", ["name"])]

def faultOf (kind : String) (arguments : CallArguments) : Except Fault Meaning := do
  match faultNames.lookup kind with
  | some names => arguments.allowNames kind names
  | none => arguments.refuseNames kind
  if kind = "UnicodeDecodeError" || kind = "UnicodeEncodeError" then
    if arguments.count ≠ 5 then .error (.typeError s!"function takes exactly 5 arguments ({arguments.count} given)")
  if kind = "UnicodeTranslateError" then
    if arguments.count ≠ 4 then .error (.typeError s!"function takes exactly 4 arguments ({arguments.count} given)")
  if "BaseExceptionGroup" ∈ WellKnown.lineage kind then
    match arguments.byPosition with
    | [.text _, group] =>
      match group.elements with
      | .ok (_ :: _) => pure ()
      | .ok [] => .error (.valueError "second argument (exceptions) must be a non-empty sequence")
      | .error _ => .error (.typeError "second argument (exceptions) must be a sequence")
    | [m, _] => .error (.typeError s!"argument 1 must be str, not {m.kindName}")
    | ms => .error (.typeError s!"BaseExceptionGroup.__new__() takes exactly 2 arguments ({ms.length} given)")
  match kind, arguments.byPosition with
  | "OSError", number :: _ :: rest =>
    let own := if rest.length ≤ 3 then number.integer?.bind fun n => systemFaults.lookup n else none
    .ok (.fault (own.getD kind) arguments.byPosition)
  | kind, ms => .ok (.fault kind ms)

def singleton (path : String) (m : Meaning) (arguments : CallArguments) : Except Fault Meaning :=
  if arguments.count = 0 && arguments.byName.isEmpty then .ok m else .error (.typeError s!"{path} takes no arguments")

def wrapped (path : String) (arguments : CallArguments) : Except Fault Meaning := do
  match ← arguments.between path 1 1 with
  | [m] => .ok (.thing s!"<{path}({← m.printed})>" path [("__func__", m), ("__wrapped__", m)])
  | _ => .ok .nothing

def propertyOf (arguments : CallArguments) : Except Fault Meaning := do
  let names := ["fget", "fset", "fdel", "doc"]
  Places.check { call := "property", names } arguments
  let parts := names.zipIdx.map fun (name, place) =>
    (if name = "doc" then "__doc__" else name, (arguments.at? place name).getD .nothing)
  .ok (.thing (placeLabel "property") "property" parts)

def instanceOf (path : String) : Meaning := .thing (placeLabel path) path []

-- The parts of a request: it reads its method and its path from its scope, and the url variables that it holds are
-- a dictionary.
def requestParts (own : Bindings) : Except Fault Bindings := do
  let named := fun (name : String) => (own.lookup name).getD .nothing
  let scope := named "scope"
  let method ← match ← scope.item (ofString "method") with
    | .text t => .ok (ofString (Text.upper (Text.held t)))
    | m => .error (noAttribute m "upper")
  let path ← scope.item (ofString "path")
  let captured := named "path_params"
  let captured ← dictOf (← if captured.truthy then captured.entriesOf else .ok [])
  .ok [("_scope", scope), ("_receive", named "receive"), ("_body", .nothing), ("_headers", .nothing), ("method", method),
    ("path", path), ("path_params", captured)]

def responseParts (own : Bindings) : Bindings :=
  ["body", "status_code", "headers", "media_type"].map fun name =>
    let m := (own.lookup name).getD .nothing
    (name, if name = "headers" && !m.truthy then .dict [] else m)

def exchangeOf (cls : ExchangeClass) (arguments : CallArguments) : Except Fault Meaning := do
  match (instanceOf cls.path).prototype? "__init__" with
  | none => .ok (instanceOf cls.path)
  | some (owner, maker) => do
    let given := { arguments with byPosition := instanceOf cls.path :: arguments.byPosition }
    let own ← bindPrototype owner maker given
    let parts ← if cls.path = ExchangeClass.request.path then requestParts own else .ok (responseParts own)
    .ok (.thing (placeLabel cls.path) cls.path parts)

def isNeverMade (path : String) : Bool :=
  "iterator".toList.isSuffixOf path.toList || isDictView path ||
    path ∈ ["builtin_function_or_method", "generator", "method_descriptor", "method-wrapper", "wrapper_descriptor",
      "getset_descriptor", "member_descriptor", "coroutine", "frame", "types.UnionType"]

def functionRefused (arguments : CallArguments) : Fault :=
  match arguments.byPosition with
  | [] => .typeError "function() missing required argument 'code' (pos 1)"
  | [_] => .typeError "function() missing required argument 'globals' (pos 2)"
  | m :: _ => badArgument "function" "argument 'code'" "code" m

def construct (path : String) (arguments : CallArguments) : Except Fault Meaning :=
  match path with
  | "int" => intOf arguments
  | "float" => floatOf arguments
  | "complex" => complexOf arguments
  | "bool" => (arguments.optional "bool").map fun m => .truth (m.elim false truthy)
  | "str" => textOf arguments
  | "bytes" => bytesOf true arguments
  | "bytearray" => bytesOf false arguments
  | "list" => (elementsGiven "list" arguments).map .list
  | "tuple" => (elementsGiven "tuple" arguments).map .tuple
  | "set" => do setOf false (← elementsGiven "set" arguments)
  | "frozenset" => do setOf true (← elementsGiven "frozenset" arguments)
  | "dict" => dictGiven path arguments
  | "range" => rangeOf arguments
  | "slice" => sliceOf arguments
  | "zip" => zipOf arguments
  | "enumerate" => enumerateOf arguments
  | "reversed" => reversedOf arguments
  | "memoryview" => viewOf arguments
  | "type" => typeOf arguments
  | "object" => singleton "object()" (instanceOf "object") arguments
  | "NoneType" => singleton path .nothing arguments
  | "ellipsis" => singleton "EllipsisType" .ellipsis arguments
  | "NotImplementedType" => singleton path .notImplemented arguments
  | "classmethod" => wrapped path arguments
  | "staticmethod" => wrapped path arguments
  | "property" => propertyOf arguments
  | "super" => .error (.of "RuntimeError" "super(): no arguments")
  | path =>
    if path = anyPath then .error (.typeError "Any cannot be instantiated")
    else if "BaseException" ∈ WellKnown.lineage path then faultOf path arguments
    else if path = "function" then .error (functionRefused arguments)
    else if path = "types.GenericAlias" then do
      match ← arguments.between "GenericAlias" 2 2 with
      | .cls name :: inner :: _ => .ok (.container name inner.arguments)
      | _ => .ok (instanceOf path)
    else if isNeverMade path then .error (.typeError s!"cannot create '{path}' instances")
    else
      match ExchangeClass.named? path with
      | some found => exchangeOf found arguments
      | none => .ok (instanceOf path)

end Meaning
end RestDispatch
