import RestDispatch.Annotation.Changed

set_option autoImplicit false

/-!
Looking into things that may be shared. What looks at a whole thing sees it as it is then; what only takes it apart
hands out the shared parts that are in it, so that a change of a part is seen in the whole. A shared stream does not
give out an element twice.
-/
namespace RestDispatch.Meaning

/-! Elements. -/

def isSharedStream (scope : Names) (m : Meaning) : Bool :=
  m matches .shared _ && scope.content m matches .stream _ _ _

def useUp (count : Nat) (m : Meaning) : Evaluation Unit := do
  match m, (← get).content m with
  | .shared place, .stream kind items failure => modify (·.put place (after count (.stream kind items failure)))
  | _, _ => pure ()

-- The elements of a thing as they are, some of them shared. A stream does not give them out again.
def taken (m : Meaning) : Evaluation (List Meaning) := do
  let found ← (← m.contentOf).elements
  useUp found.length m
  return found

-- Shares a part of a shared thing, so that changes of the part are seen in it.
def sharedPart (owner part : Meaning) (change : Meaning → Meaning → Meaning) : Evaluation Meaning := do
  match owner with
  | .shared place =>
    let part ← part.kept
    modify fun scope => scope.put place (change (scope.content owner) part)
    return part
  | _ => return part

def withItem (index owner part : Meaning) : Meaning :=
  match owner with
  | .list items => (counted? items.length index).elim owner fun place => .list (items.set place part)
  | .dict entries => .dict (putEntry entries index part)
  | owner => owner

def withField (name : String) (owner part : Meaning) : Meaning :=
  match owner with
  | .record m given fields => .record m given (fields.map fun (own, old) => (own, if own = name then part else old))
  | owner => owner

def itemOf (owner index : Meaning) : Evaluation Meaning := do
  let index ← index.seen
  let found ← (← owner.contentOf).item index
  if found.canChange && !(index matches .slice _ _ _) then sharedPart owner found (withItem index) else return found

-- The attribute of a thing, some of whose parts may be shared. The methods of a shared thing change it.
def attributeFound (owner : Meaning) (name : String) : Evaluation Meaning := do
  let field? := match ← owner.contentOf with
    | .record _ _ fields => if name = "__class__" then none else fields.lookup name
    | _ => none
  match field? with
  | some part => if part.canChange then sharedPart owner part (withField name) else return part
  | none =>
    match ← (← owner.seen).attributeOf name with
    | .method self own => return .method (← if self.canChange then owner.kept else pure self) own
    | found => return found

def pairsSeen (m : Meaning) : Evaluation Meaning := do
  let scope ← get
  let pairSeen := fun (m : Meaning) =>
    match scope.content m with
    | .tuple [key, value] => Meaning.tuple [scope.whole key, value]
    | .list [key, value] => Meaning.tuple [scope.whole key, value]
    | _ => scope.whole m
  match scope.content m with
  | .dict entries => return .dict entries
  | .list items => return .list (items.map pairSeen)
  | .tuple items => return .tuple (items.map pairSeen)
  | .stream kind items failure => return .stream kind (items.map pairSeen) failure
  | m => return scope.whole m

def seenArguments (callee : Meaning) (arguments : CallArguments) : Evaluation CallArguments := do
  let callsBack : Bool := match callee with
    | .cls path => path = "map" || path = "filter"
    | .function name => name ∈ ["sorted", "min", "max", "iter"]
    | .method _ name => name = "sort"
    | _ => false
  let handles : Bool := match callee with
    | .cls path => path ∈ ["list", "tuple", "enumerate", "reversed", "zip"]
    | .function name => name ∈ ["iter", "sorted", "min", "max", "eval", "exec"]
    | _ => false
  let isDict := callee matches .cls "dict"
  let see := fun (m : Meaning) =>
    match m with
    | .method (.shared place) name => if callsBack then pure (.method (.shared place) name) else m.seen
    | m => if handles then m.contentOf else if isDict then m.pairsSeen else m.seen
  return { byPosition := ← arguments.byPosition.mapM see
           byName := ← arguments.byName.mapM fun (name, m) => do return (name, ← see m) }

def keptArguments (arguments : CallArguments) : Evaluation CallArguments := do
  return { byPosition := ← arguments.byPosition.mapM kept
           byName := ← arguments.byName.mapM fun (name, m) => do return (name, ← m.kept) }

def sharedRounds (arguments : List Meaning) : Evaluation (List (List Meaning)) := do
  let scope ← get
  let keyOf := fun (m : Meaning) (place : Nat) =>
    match m with
    | .shared kept => if isSharedStream scope m then kept else scope.things.size + place
    | _ => scope.things.size + place
  let keys := arguments.zipIdx.map fun (m, place) => keyOf m place
  let queues := keys.zip (arguments.map scope.elementsOf)
  let total := queues.foldl (fun count entry => count + entry.2.length) 0
  let (rounds, left) := drawRounds (total + 1) keys queues
  (arguments.zip keys).forM fun (m, key) => do
    let rest := ((left.lookup key).getD []).length
    useUp ((scope.elementsOf m).length - rest) m
  return rounds

/-! Comprehensions and operators. -/

-- What a comprehension goes through: a thing, with the elements that it has at the start, and what fails after them
-- if it is a stream that fails.
structure Walk where
  source : Meaning
  items : Array Meaning
  failure : Option Fault

def growthLimit : Nat := 10000

def walkThrough (m : Meaning) : Evaluation Walk := do
  match ← m.contentOf with
  | .stream _ items failure => return ⟨m, items.toArray, failure⟩
  | found => return ⟨m, (← found.elements).toArray, none⟩

def Walk.bound (walk : Walk) (scope : Names) : Nat :=
  if walk.source matches .shared _ && scope.content walk.source matches .list _ then growthLimit else walk.items.size

def Walk.checkSize (walk : Walk) (kind : String) (size : Nat) : Except Fault Unit :=
  if size = walk.items.size then .ok () else .error (.of "RuntimeError" s!"{kind} changed size during iteration")

-- The next element of a walk, if there is one. A list is looked into as it is now, and a shared stream loses what
-- it gives out.
def Walk.next? (walk : Walk) (place : Nat) : Evaluation (Option Meaning) := do
  match walk.source, (← get).content walk.source with
  | .shared _, .stream _ items _ =>
    useUp 1 walk.source
    return items.head?
  | .shared _, .list items => return items[place]?
  | .shared _, .dict entries =>
    walk.checkSize "dictionary" entries.length
    return walk.items[place]?
  | .shared _, .set _ items =>
    walk.checkSize "Set" items.length
    return walk.items[place]?
  | _, _ => return walk.items[place]?

-- Whether a comparison holds of things as they are now. Shared things are identical at the same place only.
def comparedNow (comparison : Comparison) (left right : Meaning) : Evaluation Bool := do
  match comparison, left, right with
  | .isSame, .shared a, .shared b => return a = b
  | .isNotSame, .shared a, .shared b => return a ≠ b
  | comparison, left, right =>
    let found ← compare comparison (← left.seen) (← right.seen)
    if comparison = .isIn || comparison = .isNotIn then
      let scope ← get
      let items := scope.elementsOf right
      useUp (((scope.placeOf? items left).map (· + 1)).getD items.length) right
    return found

def joinsParts (operator : BinaryOperator) (left right : Meaning) : Bool :=
  let isRow := fun (m : Meaning) =>
    match m with
    | .list _ => true
    | .tuple _ => true
    | _ => false
  (operator = .add && isRow left && isRow right) || (operator = .multiply && (isRow left || isRow right))

end RestDispatch.Meaning
