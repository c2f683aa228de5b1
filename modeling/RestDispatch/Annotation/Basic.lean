import RestDispatch.Text.Blank
import RestDispatch.Annotation.Evaluation

set_option autoImplicit false

/-!
Annotations of parameters and results. References are texts that stand in the place of things, and are looked into when
the things are asked for; what a reference stands for may hold references again. So is an annotation that is written in
quotes, which may name what there is not or what is no type.
-/
namespace RestDispatch.Meaning

-- How many things may be looked into inside of each other. Each takes two calls.
def referenceLimit : Nat := 490

-- The thing with what references stand for in place of the references. A reference inside of what it stands for
-- itself is left as it is; `open_` lists the references that are being looked into.
def settleWithin : Nat → List (List Letter) → Meaning → Evaluation Meaning
  | 0, _, _ => throw tooDeep
  | fuel + 1, open_, m => do
    match m with
    | .reference target =>
      if target ∈ open_ then return m
      let found ← ofExpression (← expressionOf target)
      settleWithin fuel (target :: open_) (← checkArgument "Forward references must evaluate to types." found)
    | .container name items =>
      let items ← items.mapM fun item => (referred item : Except Fault Meaning)
      return .container name (← items.mapM (settleWithin fuel open_))
    | .unpacked name items =>
      let items ← items.mapM fun item => (referred item : Except Fault Meaning)
      return .unpacked name (← items.mapM (settleWithin fuel open_))
    | .choice strokes members =>
      let settled ← members.mapM (settleWithin fuel open_)
      if sameAll settled members then return m
      match strokes, settled with
      | true, first :: rest => rest.foldlM (fun left right => (binary .or left right : Except Fault Meaning)) first
      | _, settled => namedChoiceOf settled
    | m => return m

-- What a thing stands for that is written as an annotation: a text refers to something, and nothing stands for its
-- class.
def settle (m : Meaning) : Evaluation Meaning := do
  match m with
  | .nothing => return emptyClass
  | m => settleWithin referenceLimit [] (← (referred m : Except Fault Meaning))

end RestDispatch.Meaning

namespace RestDispatch

-- What an annotation stands for: a model, or something else that is known by its label, or by what keeps that from being
-- written.
inductive Hint where
  | model (m : Model)
  | other (label : Except Fault String)

inductive Annotation where
  | direct (m : Meaning)
  | quoted (t : List Letter)

namespace Hint

def label : Hint → Except Fault String
  | .model m => .ok m.name
  | .other label => label

def model? : Hint → Option Model
  | .model m => some m
  | .other _ => none

def ofMeaning : Meaning → Hint
  | .model m => .model m
  | m => .other m.label

end Hint

namespace Annotation

def betweenQuotes? (t : List Letter) : Option (List Letter) :=
  let quote := Letter.char '\''
  if 2 ≤ t.length && t.head? = some quote && t.getLast? = some quote then some ((t.drop 1).dropLast) else none

def written? (t : List Letter) : Option (Except Fault Meaning) :=
  ((Text.chars? t).bind fun cs => Grammar.read? (Text.trimBy Text.isBlank cs)).map fun e =>
    (Meaning.ofExpression e {}).map (·.1)

-- The annotation that a text stands for. A text that is neither in quotes nor an expression is known by itself.
def ofText (t : List Letter) : Annotation :=
  match betweenQuotes? t with
  | some inner => .quoted inner
  | none =>
    match written? t with
    | some (.ok m) => .direct m
    | _ => .direct (.constant (Text.held t) "")

-- The fault that writing a text as an annotation raises: only what is in quotes may stand for nothing.
def writingFault? (t : List Letter) : Option Fault :=
  match betweenQuotes? t, written? t with
  | none, some (.error failure) => some failure
  | _, _ => none

def resolve : Annotation → Meaning.Evaluation Hint
  | .direct m => do return .ofMeaning (← m.settle)
  | .quoted t => do return .ofMeaning (← (Meaning.text t).settle)

-- What can be said without resolving anything: only a model that is not in quotes.
def unresolvedModel? : Annotation → Option Model
  | .direct (.model m) => some m
  | _ => none

end Annotation

def Fault.isUnknownName (fault : Fault) : Bool := fault.kind = "NameError" || fault.kind = "UnboundLocalError"

end RestDispatch
