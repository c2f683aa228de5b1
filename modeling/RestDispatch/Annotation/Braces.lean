import RestDispatch.Annotation.Arguments
import RestDispatch.Annotation.Attribute
import RestDispatch.Annotation.Filled

set_option autoImplicit false

/-!
Texts with places in braces. A place says what is put there by a path, how it is converted and how it is written. The
pieces of a text are read up to the first mistake, which counts only when all pieces before it are filled.
-/
namespace RestDispatch.Meaning

structure BracePlace where
  path : List Letter
  conversion : Option Letter
  specification : List Letter

inductive BracePiece where
  | plain (t : List Letter)
  | place (p : BracePlace)

def openBrace : Letter := .char '\x7b'

def closeBrace : Letter := .char '\x7d'

def readPath (inBrackets : Bool) (read : List Letter) : List Letter → Except Fault (List Letter × List Letter)
  | [] => .error (.valueError "expected '\x7d' before end of string")
  | letter :: rest =>
    if inBrackets then readPath (letter ≠ .char ']') (letter :: read) rest
    else if letter = openBrace then .error (.valueError "unexpected '\x7b' in field name")
    else if letter = closeBrace || letter = .char ':' || letter = .char '!' then .ok (read.reverse, letter :: rest)
    else readPath (letter = .char '[') (letter :: read) rest

def readSpecification (depth : Nat) (read : List Letter) : List Letter → Except Fault (List Letter × List Letter)
  | [] => .error (.valueError "unmatched '\x7b' in format spec")
  | letter :: rest =>
    if letter = openBrace then readSpecification (depth + 1) (letter :: read) rest
    else if letter = closeBrace then
      match depth with
      | 0 => .ok (read.reverse, rest)
      | depth + 1 => readSpecification depth (letter :: read) rest
    else readSpecification depth (letter :: read) rest

def readPlace (t : List Letter) : Except Fault (BracePlace × List Letter) := do
  let (path, rest) ← readPath false [] t
  match rest with
  | .char '!' :: [] => .error (.valueError "end of string while looking for conversion specifier")
  | .char '!' :: mark :: rest =>
    match rest with
    | [] => .error (.valueError "unmatched '\x7b' in format spec")
    | letter :: rest =>
      if letter = closeBrace then .ok (⟨path, some mark, []⟩, rest)
      else if letter = .char ':' then do
        let (specification, rest) ← readSpecification 0 [] rest
        .ok (⟨path, some mark, specification⟩, rest)
      else .error (.valueError "expected ':' after conversion specifier")
  | .char ':' :: rest => do
    let (specification, rest) ← readSpecification 0 [] rest
    .ok (⟨path, none, specification⟩, rest)
  | rest => .ok (⟨path, none, []⟩, rest.drop 1)

-- The pieces of a text up to the first mistake. Every piece takes a letter, so as much fuel as there are letters
-- suffices.
def bracePieces : Nat → List Letter → List BracePiece × Option Fault
  | 0, _ => ([], none)
  | fuel + 1, t =>
    let plain := t.takeWhile fun letter => letter ≠ openBrace && letter ≠ closeBrace
    match t.drop plain.length with
    | [] => ([.plain plain], none)
    | brace :: rest =>
      if rest.head? = some brace then
        let (others, mistake) := bracePieces fuel (rest.drop 1)
        (.plain (plain ++ [brace]) :: others, mistake)
      else if brace = closeBrace then ([], some (.valueError "Single '\x7d' encountered in format string"))
      else if rest.isEmpty then ([], some (.valueError "Single '\x7b' encountered in format string"))
      else
        match readPlace rest with
        | .error mistake => ([], some mistake)
        | .ok (place, rest) =>
          let (others, mistake) := bracePieces fuel rest
          (.plain plain :: .place place :: others, mistake)

/-! Filling places. -/

structure BraceSupply where
  byPosition : Option (List Meaning)
  byName : List Letter → Except Fault Meaning

inductive Numbering where
  | undecided
  | automatic (next : Nat)
  | manual

def numberOf? (t : List Letter) : Except Fault (Option Nat) := do
  match ← FormatSpec.readNumber t with
  | (some n, []) => .ok (some n)
  | _ => .ok none

def Numbering.after (numbering : Numbering) (own : Option Nat) : Except Fault (Nat × Numbering) :=
  match numbering, own with
  | .manual, none =>
    .error (.valueError "cannot switch from manual field specification to automatic field numbering")
  | .automatic _, some _ =>
    .error (.valueError "cannot switch from automatic field numbering to manual field specification")
  | .automatic n, none => .ok (n, .automatic (n + 1))
  | .undecided, none => .ok (0, .automatic 1)
  | _, some n => .ok (n, .manual)

def placeThing (supply : BraceSupply) (numbering : Numbering) (name : List Letter) :
    Except Fault (Meaning × Numbering) := do
  let number ← numberOf? name
  if !name.isEmpty && number.isNone then
    .ok (← supply.byName name, numbering)
  else
    let (n, numbering) ← numbering.after number
    match supply.byPosition with
    | none => .error (.valueError "Format string contains positional fields")
    | some things =>
      match things[n]? with
      | some m => .ok (m, numbering)
      | none => .error (.of "IndexError" s!"Replacement index {n} out of range for positional args tuple")

-- The thing that is reached from another one by the rest of a path. Every step takes a letter, so as much fuel as
-- there are letters suffices.
def followPath : Nat → Meaning → List Letter → Except Fault Meaning
  | 0, m, _ => .ok m
  | _, m, [] => .ok m
  | fuel + 1, m, .char '.' :: rest => do
    let name := rest.takeWhile fun letter => letter ≠ .char '.' && letter ≠ .char '['
    if name.isEmpty then .error (.valueError "Empty attribute in format string")
    followPath fuel (← m.attributeOf (Text.held name)) (rest.drop name.length)
  | fuel + 1, m, .char '[' :: rest => do
    let key := rest.takeWhile (· ≠ .char ']')
    if key.length = rest.length then .error (.valueError "Missing ']' in format string")
    let number ← numberOf? key
    if key.isEmpty then .error (.valueError "Empty attribute in format string")
    followPath fuel (← m.item (number.elim (.text key) fun (n : Nat) => .int n)) (rest.drop (key.length + 1))
  | _, _, _ => .error (.valueError "Only '.' or '[' may follow ']' in format field specifier")

def convertedAs (conversion : Option Letter) (m : Meaning) : Except Fault Meaning :=
  match conversion with
  | none => .ok m
  | some letter =>
    let c := FormatSpec.charOf letter
    if c ∈ ['r', 's', 'a'] then converted (some c) m
    else .error (.valueError ("Unknown conversion specifier " ++ FormatSpec.codeText letter))

-- A text whose places in braces are filled. Places in specifications are filled too, up to a depth.
def filledBraces (supply : BraceSupply) : Nat → Numbering → List Letter → Except Fault (List Letter × Numbering)
  | 0, _, _ => .error (.valueError "Max string recursion exceeded")
  | depth + 1, numbering, t => do
    let (pieces, mistake) := bracePieces (t.length + 1) t
    let filled ← pieces.foldlM
      (fun (state : List Letter × Numbering) piece =>
        match piece with
        | .plain t => .ok (state.1 ++ t, state.2)
        | .place p => do
          let first := p.path.takeWhile fun letter => letter ≠ .char '.' && letter ≠ .char '['
          let (m, numbering) ← placeThing supply state.2 first
          let m ← followPath p.path.length m (p.path.drop first.length)
          let m ← convertedAs p.conversion m
          let (specification, numbering) ←
            if openBrace ∈ p.specification then filledBraces supply depth numbering p.specification
            else .ok (p.specification, numbering)
          .ok (state.1 ++ (← m.formatted specification), numbering))
      ([], numbering)
    match mistake with
    | some mistake => .error mistake
    | none => .ok filled

def braceDepth : Nat := 2

def formattedWith (t : List Letter) (arguments : CallArguments) : Except Fault Meaning := do
  let named := fun (name : List Letter) =>
    match arguments.byName.lookup (Text.held name) with
    | some m => Except.ok m
    | none => .error (Fault.of "KeyError" (Text.quotedLetters name))
  let (written, _) ← filledBraces ⟨some arguments.byPosition, named⟩ braceDepth .undecided t
  .ok (.text written)

def formattedFrom (t : List Letter) (m : Meaning) : Except Fault Meaning := do
  let (written, _) ← filledBraces ⟨none, fun name => m.item (.text name)⟩ braceDepth .undecided t
  .ok (.text written)

end RestDispatch.Meaning
