import RestDispatch.Annotation.Attribute
import RestDispatch.Annotation.Change
import RestDispatch.Annotation.Collection
import RestDispatch.Annotation.NumberMethod
import RestDispatch.Annotation.Stream

set_option autoImplicit false

/-!
Methods behind operators and functions. Unlike operators they are asked on one side only: where a thing can do nothing
with what stands on the other side it says so, and raises no fault.
-/
namespace RestDispatch

-- Where the thing stands whose method is asked: on a side of the operator, or on the left to be changed.
inductive OperandSide where
  | left
  | right
  | changed
deriving DecidableEq, Repr

namespace Meaning

def operatorMethods : List (String × BinaryOperator) :=
  [("add", .add), ("sub", .subtract), ("mul", .multiply), ("truediv", .divide), ("floordiv", .floorDivide),
   ("mod", .remainder), ("pow", .power), ("and", .and), ("or", .or), ("xor", .xor), ("lshift", .shiftLeft),
   ("rshift", .shiftRight)]

def comparisonMethods : List (String × Comparison) :=
  [("eq", .equal), ("ne", .unequal), ("lt", .less), ("le", .lessOrEqual), ("gt", .greater), ("ge", .greaterOrEqual)]

def specialWord? (name : String) : Option String :=
  let cs := name.toList
  if "__".toList.isPrefixOf cs && "__".toList.isSuffixOf cs && 4 < cs.length then
    some (String.ofList ((cs.drop 2).take (cs.length - 4)))
  else none

def operatorBehind? (word : String) : Option (BinaryOperator × OperandSide) :=
  let rest := String.ofList (word.toList.drop 1)
  match operatorMethods.lookup word, word.toList.head? with
  | some operator, _ => some (operator, .left)
  | none, some 'r' => (operatorMethods.lookup rest).map (·, .right)
  | none, some 'i' => (operatorMethods.lookup rest).map (·, .changed)
  | none, _ => none

-- Whether a number reckons with another thing: integers only with integers, floats with all but complex numbers.
def reckonsWith (self other : Meaning) : Bool :=
  match self, other.asNumber? with
  | _, none => false
  | .float _, some n => !n.isComplex
  | .complex _ _, some _ => true
  | self, some _ => self.integer?.isSome && other.integer?.isSome

def operated (operator : BinaryOperator) (side : OperandSide) (self other : Meaning) : Except Fault Meaning :=
  let run := if side = .right then binary operator other self else binary operator self other
  let provided := fun (goTogether : Bool) => if goTogether then run else .ok .notImplemented
  let isSet := fun | Meaning.set _ _ => true | _ => false
  if self.asNumber?.isSome then provided (self.reckonsWith other)
  else
    match self, operator, side with
    | .set _ _, _, _ => provided (isSet other)
    | .dict entries, _, .changed => do dictOf (entries ++ (← other.entriesOf))
    | .dict _, _, _ => provided (other matches .dict _)
    | .stream kind _ _, _, _ => provided (isSetView kind)
    | .list items, .add, .changed => do .ok (.list (items ++ (← other.elements)))
    | self, .multiply, _ => do (repeated? self (← other.index)).getD (.ok .notImplemented)
    | self, .remainder, .right => provided (other.kindName = self.kindName)
    | self, .or, .right => (stroke? other self).getD (.ok .notImplemented)
    | self, .or, _ => (stroke? self other).getD (.ok .notImplemented)
    | _, _, _ => run

def powered (side : OperandSide) (self other : Meaning) (modulus : Option Meaning) : Except Fault Meaning :=
  let (base, exponent) := if side = .right then (other, self) else (self, other)
  match modulus, self with
  | none, _ => operated .power side self other
  | some .nothing, _ => operated .power side self other
  | some _, .float _ => .error (.typeError "pow() 3rd argument not allowed unless all arguments are integers")
  | some _, .complex _ _ =>
    if self.reckonsWith other then .error (.valueError "complex modulo") else .ok .notImplemented
  | some modulus, _ =>
    if other.integer?.isSome && modulus.integer?.isSome then powerModuloOf base exponent modulus
    else .ok .notImplemented

def comparesWith (isEquality : Bool) (self other : Meaning) : Bool :=
  let isShown := fun | Meaning.set _ _ => true | m => m.isShownSet
  match self, other with
  | .text _, .text _ => true
  | .bytes true _, .bytes true _ => true
  | .bytes false _, other => other.bytesIn?.isSome
  | .view _ _, other => isEquality && other.bytesIn?.isSome
  | .tuple _, .tuple _ => true
  | .list _, .list _ => true
  | .set _ _, .set _ _ => true
  | .slice _ _ _, .slice _ _ _ => true
  | .dict _, .dict _ => isEquality
  | .range _ _ _, .range _ _ _ => isEquality
  | .choice true _, .choice true _ => isEquality
  | .record _ _ _, .record _ _ _ => isEquality
  | .stream _ _ _, other => self.isShownSet && isShown other
  | .complex _ _, other => isEquality && other.asNumber?.isSome
  | self, other => self.reckonsWith other

def compared (comparison : Comparison) (self other : Meaning) : Except Fault Meaning :=
  let isEquality := comparison = .equal || comparison = .unequal
  if comparesWith isEquality self other then (compare comparison self other).map .truth
  else if isEquality && self.isIdentical other then .ok (.truth (comparison = .equal))
  else .ok .notImplemented

def wholeAt (up : Bool) (m : Meaning) : Except Fault Meaning :=
  match m with
  | .float x => (Meaning.float (if up then x.ceil else x.floor)).toInt
  | m => m.toInt

def makingArguments (m : Meaning) : List Meaning :=
  match m with
  | .complex re im => [.float re, .float im]
  | m => [(m.integer?.map Meaning.int).getD m]

-- What a thing is made from, as far as it says so: a class with arguments, or a name.
def reduced (m : Meaning) : Except Fault Meaning :=
  match m with
  | .fault kind arguments => .ok (.tuple [.cls kind, .tuple arguments])
  | .range start stop step => .ok (.tuple [m.classOf, .tuple [.int start, .int stop, .int step]])
  | .slice start stop step => .ok (.tuple [m.classOf, .tuple [start, stop, step]])
  | .set _ items => .ok (.tuple [m.classOf, .tuple [.list items], .nothing])
  | .function name => .ok (ofString name)
  | .member _ owner name => .ok (.tuple [.function "getattr", .tuple [.cls owner, ofString name]])
  | .method self name => .ok (.tuple [.function "getattr", .tuple [self, ofString name]])
  | .ellipsis => .ok (ofString "Ellipsis")
  | .notImplemented => .ok (ofString "NotImplemented")
  | m => .error (.typeError s!"cannot pickle '{m.kindName}' object")

def textSize (t : List Letter) : Nat :=
  let largest := (t.map codeOf).foldl max 0
  if largest < 128 then 49 + t.length
  else if largest < 256 then 73 + t.length
  else if largest < 0x10000 then 74 + 2 * t.length
  else 76 + 4 * t.length

def sizeOf (m : Meaning) : Except Fault Meaning :=
  let size := match m, m.integer? with
    | _, some n => 24 + 4 * (n.natAbs.log2 / 30 + 1)
    | .text t, _ => textSize t
    | .bytes true content, _ => 33 + content.length
    | .float _, _ => 24
    | .complex _ _, _ => 32
    | .tuple items, _ => 24 + 8 * items.length
    | .range _ _ _, _ => 48
    | .slice _ _ _, _ => 40
    | .dict [], _ => 48
    | .list [], _ => 40
    | .set _ _, _ => 200
    | _, _ => 16
  .ok (.int size)

def lengthHint (m : Meaning) : Except Fault Meaning := do .ok (.int (← m.elements).length)

def plainSpecials : List (String × (Meaning → Except Fault Meaning)) :=
  [("len", lengthOf), ("repr", fun m => m.printed.map ofString), ("str", fun m => m.plain.map .text),
   ("bool", fun m => .ok (.truth m.truthy)), ("neg", unary .minus), ("pos", unary .plus), ("invert", unary .invert),
   ("abs", absOf), ("int", toInt), ("trunc", toInt), ("index", toInt), ("float", toFloat), ("complex", .ok),
   ("ceil", wholeAt true), ("floor", wholeAt false), ("hash", hashOf), ("iter", streamFrom),
   ("reversed", reversedFrom), ("next", fun m => nextOf { byPosition := [m] }), ("length_hint", lengthHint),
   ("getnewargs", fun m => .ok (.tuple m.makingArguments)), ("reduce", reduced), ("getstate", fun _ => .ok .nothing),
   ("bytes", .ok), ("enter", .ok), ("sizeof", sizeOf)]

def formatText (m : Meaning) : Except Fault (List Letter) :=
  match m with
  | .text t => .ok t
  | m => .error (.typeError s!"__format__() argument must be str, not {m.refusedKind}")

def bound (m thing : Meaning) : Except Fault Meaning :=
  match m, thing with
  | .member _ _ _, .nothing => .ok m
  | .member kind owner name, thing =>
    if owner ∈ WellKnown.lineage ((thing.classOf.label?).getD thing.kindName) then
      if kind = .attribute || kind = .stored then thing.attributeOf name else .ok (.method thing name)
    else .error (.typeError s!"descriptor '{name}' for '{owner}' objects doesn't apply to a '{thing.kindName}' object")
  | .closure _ _ _ _, .nothing => .ok m
  | .closure _ _ _ _, thing => do .ok (.constant s!"<bound method <lambda> of {← thing.printed}>" "method")
  | m, _ => .ok m

def boundTo (m thing : Meaning) : Except Fault Meaning :=
  if thing matches .nothing then .error (.typeError "__get__(None, None) is invalid") else bound m thing

def singleSpecials : List (String × (Meaning → Meaning → Except Fault Meaning)) :=
  [("getitem", item), ("class_getitem", item), ("contains", fun m other => (isIn other m).map .truth),
   ("format", fun m other => do .ok (.text (← m.formatted (← formatText other)))),
   ("getattribute", fun m other => do m.attributeOf (← attributeName other)),
   ("delattr", fun m other => do changeAttribute true m (← attributeName other)),
   ("get", boundTo), ("delitem", removeItem), ("divmod", fun m other => if m.reckonsWith other then quotientAndRest m other
      else .ok .notImplemented),
   ("rdivmod", fun m other => if m.reckonsWith other then quotientAndRest other m else .ok .notImplemented),
   ("round", fun m other => if m matches .float _ && other matches .nothing then roundedWhole m
      else roundedTo other m),
   ("setstate", fun _ _ => .ok .nothing), ("exit", fun _ _ => .ok .nothing),
   ("mro_entries", fun m _ => .ok (match m with
      | .container name _ => .tuple [.cls name]
      | m => .tuple [m])),
   ("instancecheck", fun m other => (isMeant instanceTest other.classNames m).map .truth),
   ("subclasscheck", fun m other =>
      if other.isClass then (isMeant subclassTest other.ownNames m).map .truth
      else .error (.typeError "issubclass() arg 1 must be a class")),
   ("subclasshook", fun _ _ => .ok .notImplemented)]

def special? (m : Meaning) (word : String) (given : List Meaning) : Option (Except Fault Meaning) :=
  match operatorBehind? word, comparisonMethods.lookup word, given with
  | some (.power, side), _, other :: modulus => some (powered side m other modulus.head?)
  | some (operator, side), _, [other] => some (operated operator side m other)
  | none, some comparison, [other] => some (compared comparison m other)
  | none, none, [] =>
    if word = "round" then some (roundedWhole m)
    else if word = "init_subclass" then some (.ok .nothing)
    else (plainSpecials.lookup word).map fun run => run m
  | none, none, [other] => (singleSpecials.lookup word).map fun run => run m other
  | none, none, [key, value] =>
    match word with
    | "setitem" => some (setItem m key value)
    | "get" => some (bound m key)
    | "setattr" => some do changeAttribute false m (← attributeName key)
    | _ => none
  | _, _, _ => none

end Meaning
end RestDispatch
