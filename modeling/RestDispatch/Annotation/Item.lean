import RestDispatch.Annotation.Choice

set_option autoImplicit false

/-!
Items in square brackets: elements and slices of things that have places, values under keys, and classes with
arguments.
-/
namespace RestDispatch.Meaning

def notSubscriptable (m : Meaning) : Fault :=
  match m with
  | .model data =>
    .typeError s!"<class '{modelPath data}'> cannot be parametrized because it does not inherit from typing.Generic"
  | .cls path => .typeError s!"type '{shortName path}' is not subscriptable"
  | m => .typeError s!"'{m.kindName}' object is not subscriptable"

def notGeneric (m : Meaning) : Except Fault Meaning := do
  .error (.typeError s!"{← m.printed} is not a generic class")

/-! Slices. -/

def limit? (m : Meaning) : Except Fault (Option Int) :=
  match m with
  | .nothing => .ok none
  | m =>
    match m.integer? with
    | some n => .ok (some n)
    | none => .error (.typeError "slice indices must be integers or None or have an __index__ method")

-- A limit of a slice of so many things, counted from the end if it is negative, and kept within bounds.
def bounded (length low high : Int) (n : Int) : Int :=
  let n := if n < 0 then n + length else n
  max low (min high n)

def sliceLimits (length : Int) (start stop step : Meaning) : Except Fault (Int × Int × Int) := do
  let step := (← limit? step).getD 1
  if step = 0 then .error (.valueError "slice step cannot be zero")
  let (low, high) : Int × Int := if step < 0 then (-1, length - 1) else (0, length)
  let start := ((← limit? start).map (bounded length low high)).getD (if step < 0 then high else low)
  let stop := ((← limit? stop).map (bounded length low high)).getD (if step < 0 then low else high)
  .ok (start, stop, step)

def sliced {α : Type} (items : List α) (start stop step : Meaning) : Except Fault (List α) := do
  let (start, stop, step) ← sliceLimits items.length start stop step
  let places := (List.range (rangeLength start stop step)).map fun (i : Nat) => (start + step * i).toNat
  .ok (places.filterMap (items[·]?))

/-! Places. -/

def atPlace? {α : Type} (items : List α) (place : Int) : Option α :=
  let place := if place < 0 then place + items.length else place
  if place < 0 then none else items[place.toNat]?

def notIndexSized : Fault := .of "OverflowError" "cannot fit 'int' into an index-sized integer"

def fitsIndex (place : Int) : Bool := -Decimal.weight 2 63 ≤ place && place < Decimal.weight 2 63

def placed {α : Type} (items : List α) (index : Meaning) (one : α → Meaning) (many : List α → Meaning)
    (kind wrongKind : String) : Except Fault Meaning :=
  match index, index.integer? with
  | .slice start stop step, _ => (sliced items start stop step).map many
  | _, some place =>
    match atPlace? items place with
    | some found => .ok (one found)
    | none =>
      .error (if fitsIndex place then .of "IndexError" s!"{kind} out of range" else { notIndexSized with kind := "IndexError" })
  | _, none => .error (.typeError wrongKind)

def wrongIndex (kind : String) (index : Meaning) : String :=
  s!"{kind} indices must be integers or slices, not {index.kindName}"

def rangeItem (start stop step : Int) (index : Meaning) : Except Fault Meaning :=
  let count := rangeLength start stop step
  match index, index.integer? with
  | .slice first last by_, _ => do
    let (first, last, by_) ← sliceLimits count first last by_
    .ok (.range (start + step * first) (start + step * last) (step * by_))
  | _, some place =>
    let at_ := if place < 0 then place + count else place
    if 0 ≤ at_ && at_ < count then .ok (.int (start + step * at_))
    else .error (.of "IndexError" "range object index out of range")
  | _, none => .error (.typeError (wrongIndex "range" index))

def viewItem (fixed : Bool) (content : Bytes) (index : Meaning) : Except Fault Meaning :=
  match index, index.integer? with
  | .slice start stop step, _ => (sliced content start stop step).map (.view fixed)
  | .tuple [inner], _ =>
    match inner.integer? with
    | some place => at_ place
    | none =>
      .error (if inner matches .slice _ _ _ then .of "NotImplementedError" "multi-dimensional slicing is not implemented"
        else invalidKey)
  | .tuple items, _ =>
    if items.all (·.integer?.isSome) then
      .error (if items.isEmpty then .of "NotImplementedError" "sub-views are not implemented"
        else .typeError s!"cannot index 1-dimension view with {items.length}-element tuple")
    else if items.all (· matches .slice _ _ _) then
      .error (.of "NotImplementedError" "multi-dimensional slicing is not implemented")
    else .error invalidKey
  | _, some place => at_ place
  | _, none => .error invalidKey
where
  invalidKey : Fault := .typeError "memoryview: invalid slice key"
  at_ (place : Int) : Except Fault Meaning :=
    match atPlace? content place with
    | some byte => .ok (.int byte.toNat)
    | none =>
      .error (if fitsIndex place then .of "IndexError" "index out of bounds on dimension 1" else { notIndexSized with kind := "IndexError" })

def arguments : Meaning → List Meaning
  | .tuple items => items
  | m => [m]

def item (owner index : Meaning) : Except Fault Meaning :=
  match owner with
  | .text t =>
    placed t index (fun letter => .text [letter]) .text "string index"
      s!"string indices must be integers, not '{index.kindName}'"
  | .bytes fixed content =>
    placed content index (fun byte => .int byte.toNat) (.bytes fixed)
      (if fixed then "index" else "bytearray index") (wrongIndex (if fixed then "byte" else "bytearray") index)
  | .view fixed content => viewItem fixed content index
  | .tuple items => placed items index id .tuple "tuple index" (wrongIndex "tuple" index)
  | .list items => placed items index id .list "list index" (wrongIndex "list" index)
  | .range start stop step => rangeItem start stop step index
  | .dict entries => do
    checkKey index
    match lookUp? entries index with
    | some value => .ok value
    | none => .error (.of "KeyError" (← index.printed))
  | .form name =>
    if name = optionalForm then optionalOf index
    else if name = choiceForm then namedChoiceOf index.arguments
    else .error owner.notSubscriptable
  | .cls path =>
    if path ∈ WellKnown.containers then .ok (.container path index.arguments) else .error owner.notSubscriptable
  | .container _ _ => owner.notGeneric
  | .unpacked _ _ => owner.notGeneric
  | .choice _ _ => owner.notGeneric
  | owner => .error owner.notSubscriptable

end RestDispatch.Meaning
