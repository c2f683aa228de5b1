import RestDispatch.Annotation.Grammar
import RestDispatch.Annotation.Same
import RestDispatch.Annotation.Shown

set_option autoImplicit false

/-!
Choices between things, and which things may be arguments of forms. A text among them is an expression that is
looked into later.
-/
namespace RestDispatch.Meaning

-- The expression that a text is when it refers to something. One that starts with a star stands for what the star
-- makes of the rest.
def readReference? (cs : List Char) : Option Expression :=
  if cs.head? = some '*' then Grammar.read? ('(' :: cs ++ ",)[0]".toList) else Grammar.read? cs

def notExpression (t : List Letter) : Fault :=
  .of "SyntaxError" ("Forward reference must be an expression -- got " ++ Text.quotedLetters t)

-- The characters of a text that is to be read as an expression: it has to consist of characters, and none of them
-- is zero.
def sourceOf (t : List Letter) : Except Fault (List Char) :=
  match Text.Utf8.encodeLetters t, Text.chars? t with
  | .error e, _ => .error (.of "UnicodeEncodeError" e.message)
  | .ok _, none => .error (notExpression t)
  | .ok _, some cs =>
    if cs.contains (Char.ofNat 0) then .error (.of "ValueError" "source code string cannot contain null bytes")
    else .ok cs

def expressionOf (t : List Letter) : Except Fault Expression :=
  if t.isEmpty then .error (.of "IndexError" "string index out of range")
  else do
    match readReference? (← sourceOf t) with
    | some e => .ok e
    | none => .error (notExpression t)

def referenceTo (t : List Letter) : Except Fault Meaning := (expressionOf t).map fun _ => .reference t

def referred (m : Meaning) : Except Fault Meaning :=
  match m with
  | .text t => referenceTo t
  | m => .ok m

def plainForm (name : String) : Fault := .typeError s!"Plain typing.{name} is not valid as type argument"

def emptyClass : Meaning := .cls emptyLabel

-- Checks that a thing may be the argument of a form, `demand` being what is said of those that may not. A text has
-- to be an expression, and nothing stands for its class.
def checkArgument (demand : String) (m : Meaning) : Except Fault Meaning :=
  match m with
  | .nothing => .ok emptyClass
  | .form name => .error (plainForm name)
  | .tuple items => do
    let shown ← (Meaning.tuple items).printed
    .error (.typeError (demand ++ " Got " ++ String.ofList (shown.toList.take 100) ++ "."))
  | m => referred m

def flattened (members : List Meaning) : List Meaning :=
  members.flatMap fun
    | .choice _ inner => inner
    | m => [m]

def choiceAmong (strokes : Bool) (members : List Meaning) : Meaning :=
  match members with
  | [m] => m
  | members => .choice strokes members

def namedChoiceOf (members : List Meaning) : Except Fault Meaning := do
  if members.isEmpty then .error (.typeError "Cannot take a Union of no types.")
  let members ← members.mapM (checkArgument "Union[arg, ...]: each arg must be a type.")
  let members := flattened members
  members.forM checkKey
  .ok (choiceAmong false (distinct members))

def optionalOf (m : Meaning) : Except Fault Meaning := do
  let m ← checkArgument "typing.Optional requires a single type." m
  namedChoiceOf [m, emptyClass]

def strokeChoice (left right : Meaning) : Meaning :=
  let members := (flattened [left, right]).map fun
    | .nothing => emptyClass
    | m => m
  choiceAmong true (distinct members)

def isPlainSide : Meaning → Bool
  | .model _ => true
  | .cls _ => true
  | .nothing => true
  | .container _ _ => true
  | .unpacked _ _ => true
  | .choice strokes _ => strokes
  | _ => false

def isNamedSide : Meaning → Bool
  | .form _ => true
  | .reference _ => true
  | .choice strokes _ => !strokes
  | _ => false

def stroke? (left right : Meaning) : Option (Except Fault Meaning) :=
  if left.isNamedSide || right.isNamedSide then some (namedChoiceOf [left, right])
  else if left.isPlainSide && right.isPlainSide && !(left matches .nothing && right matches .nothing) then
    some (.ok (strokeChoice left right))
  else none

end RestDispatch.Meaning
