import RestDispatch.Annotation.Literal

set_option autoImplicit false

/-!
Expressions: what the texts of annotations are made of.
-/
namespace RestDispatch

inductive UnaryOperator where
  | plus
  | minus
  | invert
  | negate
deriving DecidableEq, Repr

inductive BinaryOperator where
  | or
  | xor
  | and
  | shiftLeft
  | shiftRight
  | add
  | subtract
  | multiply
  | matrix
  | divide
  | floorDivide
  | remainder
  | power
deriving DecidableEq, Repr

inductive Comparison where
  | equal
  | unequal
  | less
  | lessOrEqual
  | greater
  | greaterOrEqual
  | isIn
  | isNotIn
  | isSame
  | isNotSame
deriving DecidableEq, Repr

inductive DisplayKind where
  | tuple
  | list
  | set
deriving DecidableEq, Repr

inductive CollectionKind where
  | list
  | set
  | dict
  | stream
deriving DecidableEq, Repr

structure FunctionForm where
  byPosition : List String := []
  normal : List String := []
  rest : Option String := none
  byName : List String := []
  keywords : Option String := none

mutual

inductive Expression where
  | name (name : String)
  | literal (value : Literal)
  | truth (b : Bool)
  | nothing
  | ellipsis
  | filled (pieces : List Piece)
  | attribute (owner : Expression) (name : String)
  | item (owner index : Expression)
  | slice (start stop step : Option Expression)
  | call (callee : Expression) (arguments : List Argument)
  | unary (operator : UnaryOperator) (operand : Expression)
  | binary (operator : BinaryOperator) (left right : Expression)
  | compare (first : Expression) (rest : List (Comparison × Expression))
  | both (left right : Expression)
  | either (left right : Expression)
  | choose (condition yes no : Expression)
  | function (form : FunctionForm) (defaults : List (String × Expression)) (body : Expression)
  | display (kind : DisplayKind) (items : List Expression)
  | dictionary (entries : List (Option Expression × Expression))
  | comprehension (kind : CollectionKind) (key value : Expression) (clauses : List Clause)
  | spread (inner : Expression)
  | assign (name : String) (value : Expression)

inductive Piece where
  | text (t : List Letter)
  | value (expression : Expression) (conversion : Option Char) (format : List Piece)

inductive Argument where
  | positional (value : Expression)
  | spread (value : Expression)
  | keyword (name : String) (value : Expression)
  | spreadKeywords (value : Expression)

-- A part of a comprehension: what takes the elements of a source one by one, and what they have to satisfy.
inductive Clause where
  | each (waiting : Bool) (target source : Expression) (conditions : List Expression)

end

instance : Inhabited Expression := ⟨.nothing⟩

namespace Expression

mutual

def isTarget : Expression → Bool
  | .name word => word ≠ "__debug__"
  | .attribute _ word => word ≠ "__debug__"
  | .item _ _ => true
  | .display kind items => kind ≠ .set && areTargets items
  | .spread inner => isTarget inner
  | _ => false

def areTargets : List Expression → Bool
  | [] => true
  | e :: es => isTarget e && areTargets es

end

mutual

def boundNames : Expression → List String
  | .name word => [word]
  | .display _ items => boundNamesOfAll items
  | .spread inner => boundNames inner
  | _ => []

def boundNamesOfAll : List Expression → List String
  | [] => []
  | e :: es => boundNames e ++ boundNamesOfAll es

end

end Expression
end RestDispatch
