import RestDispatch.Annotation.Expression
import RestDispatch.Annotation.Token

set_option autoImplicit false

/-!
Reading expressions. The operators bind as usual: alternatives weakest, then the words between truth values,
comparisons, bits, shifts, sums, products, signs, powers, and what follows an operand.
-/
namespace RestDispatch.Grammar

abbrev Reader := StateT (List Token) Option

def refuse {α : Type} : Reader α := fun _ => none

def take {α : Type} (found : Option α) : Reader α := fun tokens => found.map (·, tokens)

def skipBy (rest? : List Token → Option (List Token)) : Reader Bool := fun tokens =>
  match rest? tokens with
  | some rest => some (true, rest)
  | none => some (false, tokens)

def skip (text : String) : Reader Bool :=
  skipBy fun
    | .sign found :: rest => if found = text then some rest else none
    | _ => none

def skipWord (word : String) : Reader Bool :=
  skipBy fun
    | .keyword found :: rest => if found = word then some rest else none
    | _ => none

def expect (text : String) : Reader Unit := do
  if !(← skip text) then refuse

def expectWord (word : String) : Reader Unit := do
  if !(← skipWord word) then refuse

def sees (text : String) : Reader Bool := fun tokens =>
  let next := match tokens with
    | .sign found :: _ => found = text
    | _ => false
  some (next, tokens)

def seesWord (word : String) : Reader Bool := fun tokens =>
  let next := match tokens with
    | .keyword found :: _ => found = word
    | _ => false
  some (next, tokens)

def listed? {α : Type} (table : List (String × α)) : Reader (Option α) := fun tokens =>
  match tokens with
  | .sign text :: rest =>
    match table.lookup text with
    | some found => some (some found, rest)
    | none => some (none, tokens)
  | _ => some (none, tokens)

def levels : List (List (String × BinaryOperator)) :=
  [[("|", .or)], [("^", .xor)], [("&", .and)], [("<<", .shiftLeft), (">>", .shiftRight)],
   [("+", .add), ("-", .subtract)],
   [("*", .multiply), ("/", .divide), ("//", .floorDivide), ("%", .remainder), ("@", .matrix)]]

def signOperators : List (String × UnaryOperator) := [("+", .plus), ("-", .minus), ("~", .invert)]

def signComparisons : List (String × Comparison) :=
  [("==", .equal), ("!=", .unequal), ("<", .less), ("<=", .lessOrEqual), (">", .greater), (">=", .greaterOrEqual)]

def comparison? : Reader (Option Comparison) := fun tokens =>
  match tokens with
  | .keyword "is" :: .keyword "not" :: rest => some (some .isNotSame, rest)
  | .keyword "is" :: rest => some (some .isSame, rest)
  | .keyword "not" :: .keyword "in" :: rest => some (some .isNotIn, rest)
  | .keyword "in" :: rest => some (some .isIn, rest)
  | tokens => listed? signComparisons tokens

def fixedName : String := "__debug__"

def assigned : List Token → List String
  | .name name :: .sign ":=" :: rest => name :: assigned rest
  | _ :: rest => assigned rest
  | [] => []

def assignedSince (before : List Token) : Reader (List String) := fun tokens =>
  some (assigned (before.take (before.length - tokens.length)), tokens)

def seesClause : Reader Bool := do
  if ← seesWord "for" then return true
  seesWord "async"

def namesOf (clauses : List Clause) : List String :=
  clauses.flatMap fun
    | .each _ target _ _ => target.boundNames

def waits (clauses : List Clause) : Bool :=
  clauses.any fun
    | .each waiting _ _ _ => waiting

def next : Reader Token := fun
  | token :: rest => some (token, rest)
  | [] => none

def name? : Reader (Option String) := fun
  | .name name :: rest => some (some name, rest)
  | tokens => some (none, tokens)

-- The name that comes next with a sign after it, both of which are taken away.
def nameBefore? (text : String) : Reader (Option String) := fun tokens =>
  match tokens with
  | .name name :: .sign found :: rest => if found = text then some (some name, rest) else some (none, tokens)
  | _ => some (none, tokens)

def seesAssignment : Reader Bool := fun tokens =>
  let next := match tokens with
    | .name _ :: .sign ":=" :: _ => true
    | _ => false
  some (next, tokens)

def isLineEnd : Token → Bool
  | .lineEnd => true
  | _ => false

inductive ItemKind where
  | element
  | index
deriving DecidableEq, Repr

def joined (pieces : List Piece) : Expression :=
  let texts := pieces.map fun
    | .text t => some t
    | .value _ _ _ => none
  match texts.mapM id with
  | some texts => .literal (.text texts.flatten)
  | none => .filled pieces

-- Bytes with the bytes that follow them at once. No text may follow them.
def bytesRun (content : Bytes) : Reader Expression := fun tokens => run content tokens
where
  run (content : Bytes) : List Token → Option (Expression × List Token)
    | .literal (.bytes more) :: rest => run (content ++ more) rest
    | .literal (.text _) :: _ => none
    | .filled _ _ :: _ => none
    | rest => some (.literal (.bytes content), rest)

-- The text with one backslash more if it ends with one that nothing follows.
def closedEscape (cs : List Char) : List Char :=
  if (cs.reverse.takeWhile (· = '\\')).length % 2 = 1 then cs ++ ['\\'] else cs

/-! Arguments and parameters. -/

-- The arguments in front of another one: all of them, the names that some are given by, and whether some are given
-- by name all at once.
structure ArgumentList where
  read : List Argument := []
  named : List String := []
  allNamed : Bool := false

def ArgumentList.add? (arguments : ArgumentList) (argument : Argument) : Option ArgumentList :=
  let read := arguments.read ++ [argument]
  match argument with
  | .positional _ =>
    if arguments.allNamed || !arguments.named.isEmpty then none else some { arguments with read }
  | .spread _ => if arguments.allNamed then none else some { arguments with read }
  | .keyword name _ =>
    if name ∈ arguments.named || name = fixedName then none
    else some { arguments with read, named := name :: arguments.named }
  | .spreadKeywords _ => some { arguments with read, allNamed := true }

-- What has been read of the parameters of a function: their names, their defaults, whether the rest and the
-- keywords have been reached, and whether a parameter by name has to follow.
structure Parameters where
  form : FunctionForm := {}
  defaults : List (String × Expression) := []
  names : List String := []
  byName : Bool := false
  wanting : Bool := false
  closed : Bool := false

namespace Parameters

def bind? (parameters : Parameters) (name : String) : Option Parameters :=
  if name ∈ parameters.names || name = fixedName then none
  else some { parameters with names := name :: parameters.names }

-- Adds a parameter with its default. Without one it may not follow parameters that have one, except by name.
def add? (parameters : Parameters) (name : String) (default : Option Expression) : Option Parameters := do
  if parameters.closed then none
  let bound ← parameters.bind? name
  let defaults := match default with
    | some e => bound.defaults ++ [(name, e)]
    | none => bound.defaults
  if bound.byName then
    some { bound with form := { bound.form with byName := bound.form.byName ++ [name] }, defaults, wanting := false }
  else if default.isNone && !bound.defaults.isEmpty then none
  else some { bound with form := { bound.form with normal := bound.form.normal ++ [name] }, defaults }

-- Makes the parameters so far ones that are given by position only.
def slash? (parameters : Parameters) : Option Parameters :=
  if parameters.byName || parameters.closed || parameters.form.normal.isEmpty || !parameters.form.byPosition.isEmpty
  then none
  else some { parameters with form := { parameters.form with byPosition := parameters.form.normal, normal := [] } }

-- Starts the parameters that are given by name only, of which one has to follow.
def star? (parameters : Parameters) : Option Parameters :=
  if parameters.byName || parameters.closed then none else some { parameters with byName := true, wanting := true }

def rest? (parameters : Parameters) (name : String) : Option Parameters := do
  if parameters.byName || parameters.closed then none
  let bound ← parameters.bind? name
  some { bound with form := { bound.form with rest := some name }, byName := true }

def keywords? (parameters : Parameters) (name : String) : Option Parameters := do
  if parameters.closed || parameters.wanting then none
  let bound ← parameters.bind? name
  some { bound with form := { bound.form with keywords := some name }, closed := true }

end Parameters

/-! Filled texts. -/

structure Nesting where
  brackets : List Char := []
  quote : Option (Char × Bool) := none

def closing (c : Char) : Char := if c = '(' then ')' else if c = '[' then ']' else '\x7d'

def fieldText? (nesting : Nesting) (read : List Char) : List Char → Option (List Char × List Char)
  | [] => none
  | c :: cs =>
    if c = '\\' then none
    else
      match nesting.quote with
      | some (quote, triple) =>
        if c = quote && triple && [quote, quote].isPrefixOf cs then
          match cs with
          | a :: b :: rest => fieldText? { nesting with quote := none } (b :: a :: c :: read) rest
          | _ => none
        else if c = quote && !triple then fieldText? { nesting with quote := none } (c :: read) cs
        else fieldText? nesting (c :: read) cs
      | none =>
        if Literal.isQuote c then
          match cs with
          | a :: b :: rest =>
            if a = c && b = c then fieldText? { nesting with quote := some (c, true) } (b :: a :: c :: read) rest
            else fieldText? { nesting with quote := some (c, false) } (c :: read) (a :: b :: rest)
          | rest => fieldText? { nesting with quote := some (c, false) } (c :: read) rest
        else if c = '(' || c = '[' || c = '\x7b' then
          fieldText? { nesting with brackets := c :: nesting.brackets } (c :: read) cs
        else if c = '#' then none
        else
          match nesting.brackets with
          | [] =>
            if c = '!' || c = '=' || c = '<' || c = '>' then
              match cs with
              | '=' :: rest => fieldText? nesting ('=' :: c :: read) rest
              | rest =>
                if c = '<' || c = '>' then fieldText? nesting (c :: read) rest else some (read.reverse, c :: rest)
            else if c = ':' || c = '\x7d' then some (read.reverse, c :: cs)
            else if c = ')' || c = ']' then none
            else fieldText? nesting (c :: read) cs
          | inner :: outer =>
            if c = ')' || c = ']' || c = '\x7d' then
              if c = closing inner then fieldText? { nesting with brackets := outer } (c :: read) cs else none
            else fieldText? nesting (c :: read) cs

inductive PlainPlace where
  | outside
  | escaped
  | marked
  | inName
deriving DecidableEq

-- What is written up to a single brace, braces that are written twice standing for one. In a format every brace is
-- single. The braces of a name behind a backslash do not count unless backslashes stand for themselves.
def plainPart (format raw : Bool) : PlainPlace → List Char → List Char → List Char × List Char
  | _, read, [] => (read.reverse, [])
  | .inName, read, c :: cs => plainPart format raw (if c = '\x7d' then .outside else .inName) (c :: read) cs
  | .marked, read, c :: cs => plainPart format raw (if c = '\x7b' then .inName else .outside) (c :: read) cs
  | place, read, c :: cs =>
    if place = .escaped && c = 'N' then plainPart format raw .marked (c :: read) cs
    else if c = '\x7b' || c = '\x7d' then
      match cs with
      | next :: rest =>
        if next = c && !format then plainPart format raw .outside (c :: read) rest else (read.reverse, c :: cs)
      | [] => (read.reverse, [c])
    else
      plainPart format raw (if c = '\\' && place = .outside && !raw then .escaped else .outside) (c :: read) cs

def formatText? (depth : Nat) (read : List Char) : List Char → Option (List Char × List Char)
  | [] => none
  | c :: cs =>
    if c = '\x7b' then formatText? (depth + 1) (c :: read) cs
    else if c ≠ '\x7d' then formatText? depth (c :: read) cs
    else if depth = 0 then some (read.reverse, c :: cs)
    else formatText? (depth - 1) (c :: read) cs

-- The conversion at the start of a text: a letter after an exclamation mark.
def conversion? : List Char → Option (Option Char × List Char)
  | '!' :: c :: cs => if c = 's' || c = 'r' || c = 'a' then some (some c, cs) else none
  | '!' :: [] => none
  | cs => some (none, cs)

def isBlankText (cs : List Char) : Bool := cs.all fun c => Text.isBasicBlank c

-- The equals sign and the blanks after it, if an expression shows itself, and the rest.
def selfSign (cs : List Char) : List Char × List Char :=
  match cs with
  | '=' :: rest => ('=' :: rest.takeWhile Text.isBasicBlank, rest.dropWhile Text.isBasicBlank)
  | rest => ([], rest)

mutual

def expression : Nat → Reader Expression
  | 0 => refuse
  | fuel + 1 => do
    if ← skipWord "lambda" then function fuel {}
    else
      let yes ← disjunction fuel
      if !(← skipWord "if") then return yes
      let condition ← disjunction fuel
      expectWord "else"
      return .choose condition yes (← expression fuel)

def function : Nat → Parameters → Reader Expression
  | 0, _ => refuse
  | fuel + 1, parameters => do
    if ← skip ":" then
      if parameters.wanting then refuse
      return .function parameters.form parameters.defaults (← expression fuel)
    let parameters ← parameter fuel parameters
    if (← skip ",") || (← sees ":") then function fuel parameters else refuse

def parameter : Nat → Parameters → Reader Parameters
  | 0, _ => refuse
  | fuel + 1, parameters => do
    if ← skip "/" then take parameters.slash?
    else if ← skip "*" then
      match ← name? with
      | some name => take (parameters.rest? name)
      | none => take parameters.star?
    else if ← skip "**" then
      match ← name? with
      | some name => take (parameters.keywords? name)
      | none => refuse
    else
      match ← name? with
      | some name =>
        let default ← if ← skip "=" then some <$> expression fuel else pure none
        take (parameters.add? name default)
      | none => refuse

def named : Nat → Reader Expression
  | 0 => refuse
  | fuel + 1 => do
    match ← nameBefore? ":=" with
    | some name => if name = fixedName then refuse else return .assign name (← expression fuel)
    | none => expression fuel

def disjunction : Nat → Reader Expression
  | 0 => refuse
  | fuel + 1 => do
    let left ← conjunction fuel
    if ← skipWord "or" then return .either left (← disjunction fuel)
    return left

def conjunction : Nat → Reader Expression
  | 0 => refuse
  | fuel + 1 => do
    let left ← inversion fuel
    if ← skipWord "and" then return .both left (← conjunction fuel)
    return left

def inversion : Nat → Reader Expression
  | 0 => refuse
  | fuel + 1 => do
    if ← skipWord "not" then return .unary .negate (← inversion fuel)
    let first ← binary fuel 0
    let others ← comparisons fuel
    return if others.isEmpty then first else .compare first others

def comparisons : Nat → Reader (List (Comparison × Expression))
  | 0 => refuse
  | fuel + 1 => do
    match ← comparison? with
    | none => return []
    | some comparison =>
      let operand ← binary fuel 0
      return (comparison, operand) :: (← comparisons fuel)

def binary : Nat → Nat → Reader Expression
  | 0, _ => refuse
  | fuel + 1, level => do
    if levels.length ≤ level then factor fuel
    else chain fuel level (← binary fuel (level + 1))

def chain : Nat → Nat → Expression → Reader Expression
  | 0, _, _ => refuse
  | fuel + 1, level, left => do
    match ← listed? ((levels[level]?).getD []) with
    | none => return left
    | some operator => chain fuel level (.binary operator left (← binary fuel (level + 1)))

def factor : Nat → Reader Expression
  | 0 => refuse
  | fuel + 1 => do
    match ← listed? signOperators with
    | some operator => return .unary operator (← factor fuel)
    | none =>
      let base ← trailer fuel (← atom fuel)
      if ← skip "**" then return .binary .power base (← factor fuel)
      return base

def trailer : Nat → Expression → Reader Expression
  | 0, _ => refuse
  | fuel + 1, owner => do
    if ← skip "." then
      match ← name? with
      | some name => trailer fuel (.attribute owner name)
      | none => refuse
    else if ← skip "(" then trailer fuel (.call owner (← arguments fuel {}))
    else if ← skip "[" then
      let (items, comma) ← items fuel .index "]"
      match items with
      | [] => refuse
      | [.spread inner] => trailer fuel (.item owner (.display .tuple [.spread inner]))
      | [item] => trailer fuel (.item owner (if comma then .display .tuple [item] else item))
      | items => trailer fuel (.item owner (.display .tuple items))
    else return owner

def arguments : Nat → ArgumentList → Reader (List Argument)
  | 0, _ => refuse
  | fuel + 1, before => do
    if ← skip ")" then return before.read
    let all ← take (before.add? (← argument fuel before.read.isEmpty))
    if ← skip "," then arguments fuel all
    else
      expect ")"
      return all.read

def argument : Nat → Bool → Reader Argument
  | 0, _ => refuse
  | fuel + 1, first => do
    if ← skip "*" then return .spread (← expression fuel)
    if ← skip "**" then return .spreadKeywords (← expression fuel)
    match ← nameBefore? "=" with
    | some name => return .keyword name (← expression fuel)
    | none =>
      let before ← get
      let value ← named fuel
      if !(← seesClause) then return .positional value
      if !first then refuse
      let whole ← comprehension fuel .stream .nothing value before
      if ← sees ")" then return .positional whole else refuse

def items : Nat → ItemKind → String → Reader (List Expression × Bool)
  | 0, _, _ => refuse
  | fuel + 1, kind, close => do
    if ← skip close then return ([], true)
    moreItems fuel kind close (← item fuel kind)

def moreItems : Nat → ItemKind → String → Expression → Reader (List Expression × Bool)
  | 0, _, _, _ => refuse
  | fuel + 1, kind, close, first => do
    if ← skip "," then
      let (others, comma) ← items fuel kind close
      return (first :: others, comma)
    expect close
    return ([first], false)

def item : Nat → ItemKind → Reader Expression
  | 0, _ => refuse
  | fuel + 1, kind => do
    if kind = .element then
      if ← skip "*" then return .spread (← binary fuel 0)
      named fuel
    else if ← skip "*" then return .spread (← expression fuel)
    else if ← skip ":" then slice fuel none
    else
      let assigns ← seesAssignment
      let start ← named fuel
      if !(← skip ":") then return start
      if assigns then refuse
      slice fuel (some start)

def slice : Nat → Option Expression → Reader Expression
  | 0, _ => refuse
  | fuel + 1, start => do
    let stop ← limit fuel
    let step ← if ← skip ":" then limit fuel else pure none
    return .slice start stop step

def limit : Nat → Reader (Option Expression)
  | 0 => refuse
  | fuel + 1 => do
    if (← sees ":") || (← sees ",") || (← sees "]") then return none
    return some (← expression fuel)

def clauses : Nat → Reader (List Clause)
  | 0 => refuse
  | fuel + 1 => do
    if !(← seesClause) then return []
    let waiting ← skipWord "async"
    expectWord "for"
    let target ← targets fuel
    if !target.isTarget then refuse
    expectWord "in"
    let before ← get
    let source ← disjunction fuel
    if !(← assignedSince before).isEmpty then refuse
    let conditions ← conditions fuel
    return .each waiting target source conditions :: (← clauses fuel)

def targets : Nat → Reader Expression
  | 0 => refuse
  | fuel + 1 => do
    let first ← target fuel
    if ← skip "," then return .display .tuple (first :: (← moreTargets fuel))
    if first matches .spread _ then refuse
    return first

def moreTargets : Nat → Reader (List Expression)
  | 0 => refuse
  | fuel + 1 => do
    if ← seesWord "in" then return []
    let first ← target fuel
    if ← skip "," then return first :: (← moreTargets fuel)
    return [first]

def target : Nat → Reader Expression
  | 0 => refuse
  | fuel + 1 => do
    if ← skip "*" then return .spread (← binary fuel 0)
    binary fuel 0

def conditions : Nat → Reader (List Expression)
  | 0 => refuse
  | fuel + 1 => do
    if !(← skipWord "if") then return []
    let condition ← disjunction fuel
    return condition :: (← conditions fuel)

def atom : Nat → Reader Expression
  | 0 => refuse
  | fuel + 1 => do
    match ← next with
    | .name name => return .name name
    | .keyword "None" => return .nothing
    | .keyword "True" => return .truth true
    | .keyword "False" => return .truth false
    | .sign "..." => return .ellipsis
    | .literal (.text t) => return joined (.text t :: (← pieces fuel))
    | .literal (.bytes content) => bytesRun content
    | .literal value => return .literal value
    | .filled raw body =>
      let own ← take (filled fuel 0 raw body)
      return .filled (own ++ (← pieces fuel))
    | .sign "(" => group fuel
    | .sign "[" =>
      let (elements, _) ← elements fuel "]" .list
      return elements.elim id (.display .list)
    | .sign "\x7b" => braces fuel
    | _ => refuse

def group : Nat → Reader Expression
  | 0 => refuse
  | fuel + 1 => do
    let (elements, comma) ← elements fuel ")" .stream
    match elements with
    | .inl whole => return whole
    | .inr [.spread inner] => if comma then return .display .tuple [.spread inner] else refuse
    | .inr [item] => return if comma then .display .tuple [item] else item
    | .inr items => return .display .tuple items

def elements : Nat → String → CollectionKind → Reader ((Expression ⊕ List Expression) × Bool)
  | 0, _, _ => refuse
  | fuel + 1, close, kind => do
    if ← skip close then return (.inr [], true)
    let before ← get
    let first ← item fuel .element
    if ← seesClause then
      let whole ← comprehension fuel kind .nothing first before
      expect close
      return (.inl whole, false)
    let (items, comma) ← moreItems fuel .element close first
    return (.inr items, comma)

-- A comprehension, what it makes having been read since there were some tokens. Only streams wait for their
-- elements.
def comprehension : Nat → CollectionKind → Expression → Expression → List Token → Reader Expression
  | 0, _, _, _, _ => refuse
  | fuel + 1, kind, key, value, before => do
    let clauses ← clauses fuel
    let bound := namesOf clauses
    if value matches .spread _ then refuse
    if (← assignedSince before).any (· ∈ bound) then refuse
    if kind ≠ .stream && waits clauses then refuse
    return .comprehension kind key value clauses

def braces : Nat → Reader Expression
  | 0 => refuse
  | fuel + 1 => do
    if (← sees "\x7d") || (← sees "**") then return .dictionary (← entries fuel)
    let before ← get
    let assigns ← seesAssignment
    let first ← item fuel .element
    if ← skip ":" then
      if assigns || first matches .spread _ then refuse
      let value ← expression fuel
      if !(← seesClause) then return .dictionary (← moreEntries fuel (some first, value))
      let whole ← comprehension fuel .dict first value before
      expect "\x7d"
      return whole
    else if ← seesClause then
      let whole ← comprehension fuel .set .nothing first before
      expect "\x7d"
      return whole
    else
      let (items, _) ← moreItems fuel .element "\x7d" first
      return .display .set items

def entries : Nat → Reader (List (Option Expression × Expression))
  | 0 => refuse
  | fuel + 1 => do
    if ← skip "\x7d" then return []
    moreEntries fuel (← entry fuel)

def moreEntries : Nat → Option Expression × Expression → Reader (List (Option Expression × Expression))
  | 0, _ => refuse
  | fuel + 1, entry => do
    if ← skip "," then return entry :: (← entries fuel)
    expect "\x7d"
    return [entry]

def entry : Nat → Reader (Option Expression × Expression)
  | 0 => refuse
  | fuel + 1 => do
    if ← skip "**" then return (none, ← binary fuel 0)
    let key ← expression fuel
    expect ":"
    return (some key, ← expression fuel)

-- The texts that follow a text at once, which are part of it.
def pieces : Nat → Reader (List Piece)
  | 0 => refuse
  | fuel + 1 => do
    match (← get).head? with
    | some (.literal (.text t)) =>
      let _ ← next
      return .text t :: (← pieces fuel)
    | some (.literal (.bytes _)) => refuse
    | some (.filled raw body) =>
      let _ ← next
      let own ← take (filled fuel 0 raw body)
      return own ++ (← pieces fuel)
    | _ => return []

def filled : Nat → Nat → Bool → List Char → Option (List Piece)
  | 0, _, _, _ => none
  | fuel + 1, depth, raw, cs => do
    let (plain, rest) := plainPart (depth ≠ 0) raw .outside [] cs
    let text ← Literal.text? { raw } (if raw || rest.isEmpty then plain else closedEscape plain)
    let own := if text.isEmpty then [] else [.text text]
    match rest with
    | [] => some own
    | '\x7b' :: rest =>
      if 2 ≤ depth then none
      let (field, rest) ← field fuel depth raw rest
      let others ← filled fuel depth raw rest
      some (own ++ field ++ others)
    | _ => none

-- What stands in braces in a filled text, with the rest after the closing brace. An expression that shows itself is
-- converted if nothing else is said.
def field : Nat → Nat → Bool → List Char → Option (List Piece × List Char)
  | 0, _, _, _ => none
  | fuel + 1, depth, raw, cs => do
    let (source, rest) ← fieldText? {} [] cs
    if isBlankText source then none
    let tokens ← Token.scan? ('(' :: source ++ [')'])
    let (value, left) ← (do expect "("; group fuel : Reader Expression) tokens
    if !left.isEmpty then none
    let (self, rest) := selfSign rest
    let (conversion, rest) ← conversion? rest
    let (format, rest) ← match rest with
      | ':' :: rest => (formatText? 0 [] rest).bind fun (format, rest) =>
          (filled fuel (depth + 1) raw format).map fun pieces => (some pieces, rest)
      | rest => some (none, rest)
    let shown := if self.isEmpty then [] else [Piece.text (Text.letters (source ++ self))]
    let conversion := if !self.isEmpty && conversion.isNone && format.isNone then some 'r' else conversion
    match rest with
    | '\x7d' :: rest => some (shown ++ [.value value conversion (format.getD [])], rest)
    | _ => none

end

def several : Nat → Reader (List Expression × Bool)
  | 0 => refuse
  | fuel + 1 => do
    let first ← expression (fuel + 1)
    if !(← skip ",") then return ([first], false)
    if (← get).head?.all isLineEnd then return ([first], true)
    let (others, _) ← several fuel
    return (first :: others, true)

-- As much fuel as reading so many characters may take: every one of them may start something that takes the reader
-- through all kinds of operators.
def fuelFor (characters : Nat) : Nat := 32 * (characters + 2)

def read? (text : List Char) : Option Expression := do
  let tokens ← Token.scan? text
  let ((expressions, comma), rest) ← several (fuelFor text.length) tokens
  if !rest.all isLineEnd then none
  match expressions, comma with
  | [expression], false => some expression
  | expressions, _ => some (.display .tuple expressions)

end RestDispatch.Grammar
