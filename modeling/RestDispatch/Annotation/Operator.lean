import RestDispatch.Annotation.Choice
import RestDispatch.Annotation.Filled
import RestDispatch.Annotation.Hash

set_option autoImplicit false

/-!
What operators make of things: numbers are added and multiplied, texts and lists joined and repeated, sets and
dictionaries put together, and types offered as alternatives.
-/
namespace RestDispatch.Meaning

def operatorSign : BinaryOperator → String
  | .or => "|"
  | .xor => "^"
  | .and => "&"
  | .shiftLeft => "<<"
  | .shiftRight => ">>"
  | .add => "+"
  | .subtract => "-"
  | .multiply => "*"
  | .matrix => "@"
  | .divide => "/"
  | .floorDivide => "//"
  | .remainder => "%"
  | .power => "** or pow()"

def unsupported (operator : BinaryOperator) (left right : Meaning) : Fault :=
  let hint := match operator, left with
    | .shiftRight, .function "print" => ". Did you mean \"print(<message>, file=<output_stream>)\"?"
    | _, _ => ""
  .typeError
    s!"unsupported operand type(s) for {operatorSign operator}: '{left.kindName}' and '{right.kindName}'{hint}"

def asNumber? : Meaning → Option Number
  | .truth b => some (.int (if b then 1 else 0))
  | .int n => some (.int n)
  | .float x => some (.float x)
  | .complex re im => some (.complex re im)
  | _ => none

def ofNumber : Number → Meaning
  | .int n => .int n
  | .float x => .float x
  | .complex re im => .complex re im

def operation? : BinaryOperator → Option Number.Operation
  | .add => some .add
  | .subtract => some .subtract
  | .multiply => some .multiply
  | .divide => some .divide
  | .floorDivide => some .floorDivide
  | .remainder => some .remainder
  | .power => some .power
  | _ => none

def numeric? (operator : BinaryOperator) (left right : Meaning) : Option (Except Fault Meaning) := do
  let operation ← operation? operator
  let a ← left.asNumber?
  let b ← right.asNumber?
  let result ← operation.run? a b
  some (result.map ofNumber)

def bits? (operator : BinaryOperator) (left right : Meaning) : Option (Except Fault Meaning) := do
  let a ← left.integer?
  let b ← right.integer?
  let logical := fun (n : Int) =>
    if left matches .truth _ && right matches .truth _ then Meaning.truth (n ≠ 0) else .int n
  match operator with
  | .or => some (.ok (logical (Number.bitOr a b)))
  | .and => some (.ok (logical (Number.bitAnd a b)))
  | .xor => some (.ok (logical (Number.bitXor a b)))
  | .shiftLeft => some ((Number.shiftLeft a b).map .int)
  | .shiftRight => some ((Number.shiftRight a b).map .int)
  | _ => none

def setElements? (operator : BinaryOperator) (xs ys : List Meaning) : Option (List Meaning) :=
  let outside := fun (items : List Meaning) (others : List Meaning) => items.filter fun m => !m.isAmong others
  match operator with
  | .or => some (xs ++ outside ys xs)
  | .and => some (xs.filter (isAmong · ys))
  | .subtract => some (outside xs ys)
  | .xor => some (outside xs ys ++ outside ys xs)
  | _ => none

def isShownSet : Meaning → Bool
  | .stream kind _ _ => isSetView kind
  | _ => false

def sets? (operator : BinaryOperator) (left right : Meaning) : Option (Except Fault Meaning) :=
  match left, right with
  | .set fixed xs, .set _ ys => (setElements? operator xs ys).map fun items => setOf fixed items
  | left, right =>
    if left.isShownSet || right.isShownSet then
      (setElements? operator [] []).map fun _ => do
        let xs ← left.elements
        let ys ← right.elements
        setOf false ((setElements? operator (distinct xs) (distinct ys)).getD [])
    else none

def merged? (left right : Meaning) : Option (Except Fault Meaning) :=
  match left, right with
  | .dict xs, .dict ys => some (.ok (.dict (ys.foldl (fun table entry => putEntry table entry.1 entry.2) xs)))
  | _, _ => none

-- The thing that two things make one after the other, if the first is something that others can be joined to.
def joined? (left right : Meaning) : Option (Except Fault Meaning) :=
  let refuse := fun kind => some (.error (Fault.typeError s!"can only concatenate {kind} (not \"{right.kindName}\") to {kind}"))
  match left, right with
  | .text s, .text t => some (.ok (.text (s ++ t)))
  | .list xs, .list ys => some (.ok (.list (xs ++ ys)))
  | .tuple xs, .tuple ys => some (.ok (.tuple (xs ++ ys)))
  | .bytes fixed s, .bytes _ t => some (.ok (.bytes fixed (s ++ t)))
  | .bytes fixed s, .view _ t => some (.ok (.bytes fixed (s ++ t)))
  | .text _, _ => refuse "str"
  | .list _, _ => refuse "list"
  | .tuple _, _ => refuse "tuple"
  | .bytes _ _, _ => some (.error (.typeError s!"can't concat {right.kindName} to {left.kindName}"))
  | _, _ => none

def times {α : Type} (count : Int) (items : List α) : Except Fault (List α) :=
  if count < -Decimal.weight 2 63 || (Decimal.weight 2 63 : Int) ≤ count then .error notIndexSized
  else if items.isEmpty then .ok []
  else if elementLimit < count.toNat * items.length then .error noRoom
  else .ok (List.replicate count.toNat items).flatten

def repeated? (m : Meaning) (count : Int) : Option (Except Fault Meaning) :=
  match m with
  | .text t => some ((times count t).map .text)
  | .list items => some ((times count items).map .list)
  | .tuple items => some ((times count items).map .tuple)
  | .bytes fixed content => some ((times count content).map (.bytes fixed))
  | _ => none

def isRepeatable (m : Meaning) : Bool := (repeated? m 0).isSome

def product? (left right : Meaning) : Option (Except Fault Meaning) :=
  let refuse := fun (m : Meaning) => some (.error (Fault.typeError s!"can't multiply sequence by non-int of type '{m.kindName}'"))
  if left.isRepeatable then
    match right.integer? with
    | some count => repeated? left count
    | none => refuse right
  else if right.isRepeatable then
    match left.integer? with
    | some count => repeated? right count
    | none => refuse left
  else none

def composed? (operator : BinaryOperator) (left right : Meaning) : Option (Except Fault Meaning) :=
  match operator with
  | .or => (merged? left right).or (stroke? left right)
  | .add => joined? left right
  | .multiply => product? left right
  | .remainder =>
    match left with
    | .text t => some (filled t right)
    | .bytes fixed content => some (filledBytes fixed content right)
    | _ => none
  | _ => none

def binary (operator : BinaryOperator) (left right : Meaning) : Except Fault Meaning :=
  ((((numeric? operator left right).or (bits? operator left right)).or (sets? operator left right)).or
    (composed? operator left right)).getD (.error (unsupported operator left right))

def unary (operator : UnaryOperator) (m : Meaning) : Except Fault Meaning :=
  let refuse := fun sign => .error (Fault.typeError s!"bad operand type for unary {sign}: '{m.kindName}'")
  match operator, m.asNumber? with
  | .negate, _ => .ok (.truth !m.truthy)
  | .plus, some n => .ok (ofNumber n)
  | .plus, none => refuse "+"
  | .minus, some (.int n) => .ok (.int (-n))
  | .minus, some (.float x) => .ok (.float (-x))
  | .minus, some (.complex re im) => .ok (.complex (-re) (-im))
  | .minus, none => refuse "-"
  | .invert, some (.int n) => .ok (.int (-n - 1))
  | .invert, _ => refuse "~"

def hasRun {α : Type} [DecidableEq α] (run : List α) : List α → Bool
  | [] => run.isEmpty
  | c :: cs => run.isPrefixOf (c :: cs) || hasRun run cs

def isIn (m container : Meaning) : Except Fault Bool :=
  match container, m with
  | .text t, .text s => .ok (hasRun s t)
  | .text _, m => .error (.typeError s!"'in <string>' requires string as left operand, not {m.kindName}")
  | .bytes _ t, .bytes _ s => .ok (hasRun s t)
  | .bytes _ t, .view _ s => .ok (hasRun s t)
  | .bytes _ t, m =>
    match m.integer? with
    | some n =>
      if 0 ≤ n && n < 256 then .ok (t.any fun byte => (byte.toNat : Int) = n)
      else .error (.valueError "byte must be in range(0, 256)")
    | none => .error (.typeError s!"a bytes-like object is required, not '{m.kindName}'")
  | .set _ items, m => do
    checkMember m
    .ok (m.isAmong items)
  | .dict entries, m => do
    checkKey m
    .ok (lookUp? entries m).isSome
  | .range start stop step, m =>
    match m.integer? with
    | some n =>
      let count := rangeLength start stop step
      .ok (count ≠ 0 && Int.fmod (n - start) step = 0 && 0 ≤ (n - start) / step && (n - start) / step < count)
    | none => do .ok (m.isAmong (← container.elements))
  | container, m =>
    match container.elements with
    | .ok items => .ok (m.isAmong items)
    | .error failure =>
      match container with
      | .stream _ items _ => if m.isAmong items then .ok true else .error failure
      | container => .error (.typeError s!"argument of type '{container.kindName}' is not iterable")

def compare (comparison : Comparison) (left right : Meaning) : Except Fault Bool :=
  match comparison with
  | .equal => .ok (left.same right)
  | .unequal => .ok (!left.same right)
  | .less => ordered .less left right
  | .lessOrEqual => ordered .lessOrEqual left right
  | .greater => ordered .greater left right
  | .greaterOrEqual => ordered .greaterOrEqual left right
  | .isIn => isIn left right
  | .isNotIn => (isIn left right).map (!·)
  | .isSame => .ok (left.isIdentical right)
  | .isNotSame => .ok (!left.isIdentical right)

end RestDispatch.Meaning
