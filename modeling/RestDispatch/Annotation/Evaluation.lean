import RestDispatch.Annotation.Call

set_option autoImplicit false

/-!
What expressions stand for. Names stand for what has been bound to them, or for what is known everywhere. Parts
are evaluated from left to right, and the first that stands for nothing is the reason if the whole does. Functions
may call each other up to a depth. Things that can change are shared as soon as a name or another thing holds them;
what looks into them sees them as they are then.
-/
namespace RestDispatch.Meaning

def unknownName (name : String) : Fault := .of "NameError" s!"name '{name}' is not defined"

def tooDeep : Fault := .of "RecursionError" "maximum recursion depth exceeded"

-- The name under which everything is that is known everywhere. Where something is bound to it, nothing else is
-- known that is not bound.
def everywhere : String := "__builtins__"

def resolveName (scope : Names) (name : String) : Except Fault Meaning :=
  let found := match scope.find? name, scope.find? everywhere with
    | some m, _ => some m
    | none, none => known? name
    | none, some (.dict entries) => lookUp? entries (ofString name)
    | none, some _ => knownEverywhere? name
  match found with
  | some m => .ok m
  | none => .error (unknownName name)

-- Names beside which only those are known that are known everywhere.
def sealed (names : Bindings) : Bindings :=
  if (names.lookup everywhere).isSome then names
  else names ++ [(everywhere, .constant "<module 'builtins' (built-in)>" "module")]

/-! Targets. -/

-- What several targets take of the elements of a thing, `after` targets following one that takes the rest.
def unpack (m : Meaning) (before : Nat) (rest : Option Nat) : Evaluation (List Meaning) := do
  let found ← m.contentOf
  if let .error failure := found.elements then
    throw (if found matches .stream _ _ _ then failure
      else .typeError s!"cannot unpack non-iterable {found.kindName} object")
  let items ← taken m
  match rest with
  | none =>
    if items.length < before then
      throw (.valueError s!"not enough values to unpack (expected {before}, got {items.length})")
    else if before < items.length then throw (.valueError s!"too many values to unpack (expected {before})")
    else return items
  | some rest =>
    if items.length < before + rest then
      throw (.valueError s!"not enough values to unpack (expected at least {before + rest}, got {items.length})")
    else
      let middle := (items.drop before).take (items.length - before - rest)
      return items.take before ++ .list middle :: items.drop (items.length - rest)

def isSpread : Expression → Bool
  | .spread _ => true
  | _ => false

mutual

def bindTarget : Expression → Meaning → Evaluation Bindings
  | .name name, m => do return [(name, ← m.kept)]
  | .spread inner, m => bindTarget inner m
  | .display _ targets, m => do
    let before := (targets.takeWhile (!isSpread ·)).length
    let rest := if before < targets.length then some (targets.length - before - 1) else none
    bindTargets targets (← unpack m before rest)
  | _, m => do throw (.typeError s!"'{(← m.contentOf).kindName}' object does not support item assignment")

def bindTargets : List Expression → List Meaning → Evaluation Bindings
  | target :: targets, m :: ms => do return (← bindTarget target m) ++ (← bindTargets targets ms)
  | _, _ => return []

end

/-! Elements of displays and arguments of calls. -/

def isDirectCall (named : Expression) (arguments : List Argument) : Bool :=
  named matches .attribute _ _ && arguments.all fun
    | .positional _ => true
    | .keyword _ _ => true
    | _ => false

def spreadElements (m : Meaning) (refusal : String) : Evaluation (List Meaning) := do
  let found ← m.contentOf
  if let .error failure := found.elements then
    throw (if found matches .stream _ _ _ then failure else .typeError (refusal ++ found.kindName))
  taken m

def calleeLabel (callee : Meaning) : String :=
  match callee with
  | .model m => modelPath m ++ "()"
  | .cls path => path ++ "()"
  | .function name => name ++ "()"
  | .closure _ _ _ _ => "<lambda>()"
  | .method self name => self.kindName ++ "." ++ name ++ "()"
  | m => (m.printed?.getD "") ++ " object"

-- What is said of something that has no elements and has a star in front of it, before the word for its kind.
def plainRefusal : String := "Value after * must be an iterable, not "

-- What is said of it among arguments: it is named by the call if it is all that is given by position.
def spreadRefusal (callee : Meaning) (arguments : List Argument) : String :=
  let positional := arguments.filter fun
    | .positional _ => true
    | .spread _ => true
    | _ => false
  if positional.length = 1 then calleeLabel callee ++ " argument after * must be an iterable, not " else plainRefusal

def addNames (callee : Meaning) (arguments : CallArguments) (entries : List (Meaning × Meaning)) :
    Except Fault CallArguments :=
  entries.foldlM (fun arguments entry =>
    match entry.1 with
    | .text t =>
      let name := Text.held t
      if (arguments.byName.lookup name).isSome then
        .error (.typeError s!"{calleeLabel callee} got multiple values for keyword argument '{name}'")
      else .ok { arguments with byName := arguments.byName ++ [(name, entry.2)] }
    | _ => .error (.typeError "keywords must be strings")) arguments

def dictionaryOf (entries : List (Meaning × Meaning)) : Evaluation Meaning := do
  dictOf (← entries.mapM fun (key, m) => do return (← key.seen, ← m.kept))

def collect (kind : CollectionKind) (entries : List (Meaning × Meaning)) : Evaluation Meaning := do
  match kind with
  | .list => return .list (← entries.mapM fun (_, m) => m.kept)
  | .set => setOf false (← entries.mapM fun (_, m) => m.seen)
  | .dict => dictionaryOf entries
  | .stream => return .stream "generator" (← entries.mapM fun (_, m) => m.kept) none

def notAwaitable (m : Meaning) : Fault :=
  .typeError s!"'async for' requires an object with __aiter__ method, got {m.kindName}"

-- The elements that decide what a function makes of a stream, so that it asks for no others.
def decides? (callee : Meaning) : Meaning → Bool :=
  match callee with
  | .function "any" => truthy
  | .function "all" => (!truthy ·)
  | .function "next" => fun _ => true
  | _ => fun _ => false

-- What the passes through a comprehension have made so far, and whether no others are asked for.
structure Passes where
  found : List (List (Meaning × Meaning)) := []
  failure : Option Fault := none
  isOver : Bool := false

mutual

def evaluate : Nat → Expression → Evaluation Meaning
  | 0, _ => throw tooDeep
  | fuel + 1, e => do
    match e with
    | .name name => resolveName (← get) name
    | .literal value => return ofLiteral value
    | .truth b => return .truth b
    | .nothing => return .nothing
    | .ellipsis => return .ellipsis
    | .filled pieces => return .text (← pieces.mapM (evaluatePiece fuel)).flatten
    | .attribute owner name => attributeFound (← evaluate fuel owner) name
    | .item owner index =>
      let owner ← evaluate fuel owner
      itemOf owner (← evaluate fuel index)
    | .slice start stop step =>
      let start ← evaluateLimit fuel start
      let stop ← evaluateLimit fuel stop
      return .slice start stop (← evaluateLimit fuel step)
    | .call named arguments =>
      let callee ← evaluate fuel named
      let seen ← callee.seen
      let refusal := spreadRefusal seen arguments
      let given ← arguments.foldlM (evaluateArgument fuel seen refusal) {}
      if isDirectCall named arguments then checkDirect (← callee.seen) given
      call fuel callee given
    | .unary operator operand => unary operator (← (← evaluate fuel operand).seen)
    | .binary operator left right =>
      let left ← evaluate fuel left
      let right ← evaluate fuel right
      let a ← left.contentOf
      let b ← right.contentOf
      if joinsParts operator a b then binary operator a b else binary operator (← left.seen) (← right.seen)
    | .compare first rest => evaluateComparisons fuel (← evaluate fuel first) rest
    | .both left right =>
      let left ← evaluate fuel left
      if (← left.contentOf).truthy then evaluate fuel right else return left
    | .either left right =>
      let left ← evaluate fuel left
      if (← left.contentOf).truthy then return left else evaluate fuel right
    | .choose condition yes no =>
      if (← (← evaluate fuel condition).contentOf).truthy then evaluate fuel yes else evaluate fuel no
    | .function shape defaults body =>
      let defaults ← defaults.mapM fun (name, e) => do return (name, ← (← evaluate fuel e).kept)
      return .closure shape defaults body (← get).frames
    | .display kind items =>
      let items := (← items.mapM (evaluateItem fuel kind)).flatten
      match kind with
      | .tuple => return .tuple (← items.mapM kept)
      | .list => return .list (← items.mapM kept)
      | .set => setOf false (← items.mapM seen)
    | .dictionary entries => dictionaryOf (← entries.mapM (evaluateEntry fuel)).flatten
    | .comprehension kind key value clauses => evaluateComprehension fuel (fun _ => false) kind key value clauses
    | .spread inner => evaluate fuel inner
    | .assign name value =>
      let m ← (← evaluate fuel value).kept
      modify (·.assign name m)
      return m

def evaluateLimit : Nat → Option Expression → Evaluation Meaning
  | 0, _ => throw tooDeep
  | _ + 1, none => return .nothing
  | fuel + 1, some e => evaluate fuel e

def evaluatePiece : Nat → Piece → Evaluation (List Letter)
  | 0, _ => throw tooDeep
  | _ + 1, .text t => return t
  | fuel + 1, .value e conversion format => do
    let m ← converted conversion (← (← evaluate fuel e).seen)
    let specification := (← format.mapM (evaluatePiece fuel)).flatten
    m.formatted specification

def evaluateComparisons : Nat → Meaning → List (Comparison × Expression) → Evaluation Meaning
  | 0, _, _ => throw tooDeep
  | _ + 1, _, [] => return .truth true
  | fuel + 1, left, (comparison, e) :: rest => do
    let right ← evaluate fuel e
    if ← comparedNow comparison left right then evaluateComparisons fuel right rest else return .truth false

def evaluateItem : Nat → DisplayKind → Expression → Evaluation (List Meaning)
  | 0, _, _ => throw tooDeep
  | fuel + 1, kind, .spread inner => do
    let m ← evaluate fuel inner
    if kind = .set then taken m else spreadElements m plainRefusal
  | fuel + 1, _, e => do return [← evaluate fuel e]

def evaluateEntry : Nat → Option Expression × Expression → Evaluation (List (Meaning × Meaning))
  | 0, _ => throw tooDeep
  | fuel + 1, (none, e) => do
    match ← (← evaluate fuel e).contentOf with
    | .dict entries => return entries
    | m => throw (.typeError s!"'{m.kindName}' object is not a mapping")
  | fuel + 1, (some key, e) => do
    let key ← evaluate fuel key
    return [(key, ← evaluate fuel e)]

-- The arguments of a call with one more behind them. A stream that is made for a call is asked for no more than it
-- takes.
def evaluateArgument : Nat → Meaning → String → CallArguments → Argument → Evaluation CallArguments
  | 0, _, _, _, _ => throw tooDeep
  | fuel + 1, callee, refusal, before, argument => do
    match argument with
    | .positional (.comprehension .stream key value clauses) =>
      let m ← evaluateComprehension fuel (decides? callee) .stream key value clauses
      return { before with byPosition := before.byPosition ++ [m] }
    | .positional e =>
      let m ← evaluate fuel e
      return { before with byPosition := before.byPosition ++ [m] }
    | .spread e =>
      let m ← evaluate fuel e
      let own ← spreadElements m refusal
      return { before with byPosition := before.byPosition ++ own }
    | .keyword name e =>
      let m ← evaluate fuel e
      addNames callee before [(ofString name, m)]
    | .spreadKeywords e =>
      match ← (← evaluate fuel e).contentOf with
      | .dict entries => addNames callee before entries
      | m => throw (.typeError s!"{calleeLabel callee} argument after ** must be a mapping, not {m.kindName}")

-- The collection that a comprehension makes. The first source is evaluated at once even if the elements are not
-- asked for yet; what fails after that fails when they are.
def evaluateComprehension : Nat → (Meaning → Bool) → CollectionKind → Expression → Expression → List Clause →
    Evaluation Meaning
  | 0, _, _, _, _, _ => throw tooDeep
  | _ + 1, _, _, _, _, [] => throw tooDeep
  | fuel + 1, decides, kind, key, value, .each waiting target source conditions :: rest => do
    let m ← evaluate fuel source
    if waiting then throw (notAwaitable (← m.contentOf))
    let walk ← walkThrough m
    modify (·.opened false [])
    let (entries, failure) ← evaluateLoop fuel decides key value (.each waiting target source conditions) rest walk
    let last := (← get).frames.head?
    modify (·.closed)
    match kind, failure with
    | .stream, failure => return .stream "generator" (← entries.mapM fun (_, m) => m.kept) failure
    | _, some failure => throw failure
    | kind, none =>
      let see := fun (m : Meaning) => last.elim m (seeing · m)
      collect kind (entries.map fun (key, m) => (see key, see m))

def evaluateLoop : Nat → (Meaning → Bool) → Expression → Expression → Clause → List Clause → Walk →
    Evaluation (List (Meaning × Meaning) × Option Fault)
  | 0, _, _, _, _, _, _ => throw tooDeep
  | fuel + 1, decides, key, value, .each _ target _ conditions, rest, walk => do
    let passes ← (List.range (walk.bound (← get) + 1)).foldlM (fun (passes : Passes) place => do
      if passes.isOver then return passes
      let pass : Evaluation (Option (List (Meaning × Meaning) × Option Fault)) := do
        let some m ← walk.next? place | return none
        let own ← bindTarget target m
        modify (·.bind own)
        if ← evaluateConditions fuel conditions then return some (← evaluateInner fuel decides key value rest)
        else return some ([], none)
      match pass.run (← get) with
      | .error failure => return { passes with failure := some failure, isOver := true }
      | .ok (none, _) => return { passes with failure := walk.failure, isOver := true }
      | .ok (some (own, failure), scope) =>
        modify fun _ => scope
        let isOver := failure.isSome || own.any fun entry => decides (scope.content entry.2)
        return { found := own :: passes.found, failure, isOver }) {}
    return (passes.found.reverse.flatten, passes.failure)

def evaluateConditions : Nat → List Expression → Evaluation Bool
  | 0, _ => throw tooDeep
  | _ + 1, [] => return true
  | fuel + 1, e :: rest => do
    if (← (← evaluate fuel e).contentOf).truthy then evaluateConditions fuel rest else return false

def evaluateInner : Nat → (Meaning → Bool) → Expression → Expression → List Clause →
    Evaluation (List (Meaning × Meaning) × Option Fault)
  | 0, _, _, _, _ => throw tooDeep
  | fuel + 1, _, key, value, [] => do
    let key ← evaluate fuel key
    return ([(key, ← evaluate fuel value)], none)
  | fuel + 1, decides, key, value, .each waiting target source conditions :: rest => do
    let m ← evaluate fuel source
    if waiting then throw (notAwaitable (← m.contentOf))
    evaluateLoop fuel decides key value (.each waiting target source conditions) rest (← walkThrough m)

def call : Nat → Meaning → CallArguments → Evaluation Meaning
  | 0, _, _ => throw tooDeep
  | fuel + 1, callee, arguments => do
    let surroundings : Surroundings :=
      { call := fun callee items => call fuel callee { byPosition := items }
        evaluate := fun own e => do
          let before ← get
          if let some own := own then modify fun scope => { scope with frames := [], general := sealed own }
          let m ← evaluate fuel e
          if own.isSome then modify fun scope => { scope with frames := before.frames, general := before.general }
          return m }
    match callee with
    | .closure shape defaults body around =>
      let own ← bindArguments "<lambda>" shape defaults (← keptArguments arguments)
      let own ← own.mapM fun (name, m) => do return (name, ← m.kept)
      let before ← get
      modify fun scope => scope.ofCall around own
      let m ← evaluate fuel body
      let inner := (← get).frames.head?
      modify before.afterCall
      return inner.elim m (seeing · m)
    | .method self "__call__" => call fuel self arguments
    | .thing _ "staticmethod" parts => call fuel ((parts.lookup "__func__").getD .nothing) arguments
    | .member .slot owner "__call__" =>
      match arguments.byPosition with
      | m :: rest =>
        if m.isCallable && owner = m.kindName then call fuel m { arguments with byPosition := rest }
        else callMember .slot owner "__call__" arguments
      | [] => callMember .slot owner "__call__" arguments
    | callee => callShared surroundings callee arguments

end

def depthLimit : Nat := 6000

def ofExpression (e : Expression) : Evaluation Meaning := do (← evaluate depthLimit e).seen

end RestDispatch.Meaning
