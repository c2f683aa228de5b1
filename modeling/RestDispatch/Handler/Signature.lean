import RestDispatch.Annotation.Basic
import RestDispatch.Content

set_option autoImplicit false

/-!
Signatures of handlers: their parameters, what they say about a call, and how keyword arguments bind
to them.
-/
namespace RestDispatch

inductive ParameterKind where
  | positional
  | normal
  | keyword
  | rest
  | keywords
deriving DecidableEq, Repr

-- A parameter. Arguments bind to it by its name; `spelling` is the name as the handler writes it, which may be
-- another spelling of the same.
structure Parameter where
  name : String
  kind : ParameterKind := .normal
  annotation : Option Annotation := none
  default : Option Value := none
  spelling : String := name

structure Signature where
  parameters : List Parameter
  returns : Option Annotation := none

def requestName : String := "request"

namespace Parameter

-- The kinds that parameters have by where they stand: what stands before one that is given by position only is
-- given so too, and what stands after the rest or after one that is given by name is given by name.
def placed (byName : Bool) : List Parameter → List Parameter
  | [] => []
  | p :: ps =>
    let kind :=
      if p.kind ≠ .normal then p.kind
      else if byName then .keyword
      else if ps.any (·.kind = .positional) then .positional
      else .normal
    { p with kind } :: placed (byName || p.kind = .rest || p.kind = .keyword) ps

end Parameter

namespace Signature

def wantsRequest (signature : Signature) : Bool := signature.parameters.any (·.name = requestName)

def takesKeywords (signature : Signature) : Bool := signature.parameters.any (·.kind = .keywords)

def argumentNames (signature : Signature) : List String :=
  (signature.parameters.filter fun p =>
    (p.kind = .normal || p.kind = .keyword) && p.name ≠ requestName).map (·.name)

def annotationOrder : List ParameterKind := [.normal, .positional, .rest, .keyword, .keywords]

def annotated (signature : Signature) : List (String × Annotation) :=
  annotationOrder.flatMap fun kind =>
    (signature.parameters.filter (·.kind = kind)).filterMap fun p => p.annotation.map fun a => (p.name, a)

-- What annotations stand for, one after the other; fails at the first that stands for nothing. A name that one of
-- them binds is known to those after it.
def resolveAll (annotations : List (String × Annotation)) : Meaning.Evaluation (List (String × Hint)) :=
  annotations.mapM fun (name, annotation) => do return (name, ← annotation.resolve)

def hints (signature : Signature) : Except Fault (List (String × Hint)) := do
  let (found, scope) ← resolveAll signature.annotated {}
  match signature.returns with
  | none => .ok found
  | some annotation =>
    let _ ← annotation.resolve scope
    .ok found

-- The fault that inspecting the handler raises. Names that are not found are put up with.
def refusal? (signature : Signature) : Option Fault :=
  match signature.hints with
  | .error fault => if fault.isUnknownName then none else some fault
  | .ok _ => none

def directModels (signature : Signature) : List (String × Model) :=
  signature.annotated.filterMap fun (name, annotation) => annotation.unresolvedModel?.map fun m => (name, m)

def allModels (signature : Signature) : List (String × Model) :=
  match signature.hints with
  | .ok found => found.filterMap fun (name, hint) => hint.model?.map fun m => (name, m)
  | .error _ => signature.directModels

def models (signature : Signature) : List (String × Model) :=
  signature.allModels.filter fun (name, _) => name ∈ signature.argumentNames

end Signature

inductive BindError where
  | multipleValues (name : String)
  | positionalByName (names : List String)
  | unexpected (name : String)
  | missingPositional (names : List String)
  | missingKeyword (names : List String)
deriving DecidableEq, Repr

namespace BindError

def inQuotes (name : String) : String := "'" ++ name ++ "'"

def listed : List String → String
  | [] => ""
  | [name] => inQuotes name
  | [name, last] => inQuotes name ++ " and " ++ inQuotes last
  | names =>
    ", ".intercalate (names.dropLast.map inQuotes) ++ ", and " ++ inQuotes (names.getLast?.getD "")

def plural (names : List String) : String := if names.length = 1 then "argument" else "arguments"

def message (handler : String) : BindError → String
  | .multipleValues name => s!"{handler}() got multiple values for argument '{name}'"
  | .positionalByName names =>
    let joined := ", ".intercalate names
    s!"{handler}() got some positional-only arguments passed as keyword arguments: '{joined}'"
  | .unexpected name => s!"{handler}() got an unexpected keyword argument '{name}'"
  | .missingPositional names =>
    s!"{handler}() missing {names.length} required positional {plural names}: {listed names}"
  | .missingKeyword names =>
    s!"{handler}() missing {names.length} required keyword-only {plural names}: {listed names}"

end BindError

-- Arguments bound to a signature: the named ones in its order, by the names as the handler writes them, and those
-- that only `keywords` takes.
structure Arguments where
  named : List (String × Content) := []
  extra : List (String × Content) := []

-- All arguments by their names. A collected argument takes the place of one that is given by position only and has
-- the same name.
def Arguments.all (arguments : Arguments) : List (String × Content) := putAll arguments.named arguments.extra

namespace Signature

def selfName : String := "self"

-- Whether the object itself is given by position only, as it is when any parameter is.
def selfByPosition (signature : Signature) : Bool := signature.parameters.any (·.kind = .positional)

def withSelf (signature : Signature) : Signature :=
  let kind := if signature.selfByPosition then ParameterKind.positional else .normal
  { signature with parameters := { name := selfName, kind } :: signature.parameters }

def keywordNames (signature : Signature) : List String :=
  (if signature.selfByPosition then [] else [selfName]) ++
    (signature.parameters.filter fun p => p.kind = .normal || p.kind = .keyword).map (·.name)

def positionalNames (signature : Signature) : List String :=
  (if signature.selfByPosition then [selfName] else []) ++
    (signature.parameters.filter (·.kind = .positional)).map (·.name)

def checkKeywords (signature : Signature) (all : List String) : List String → Except BindError Unit
  | [] => .ok ()
  | name :: rest =>
    if name ∈ signature.keywordNames then
      if name = selfName && !signature.selfByPosition then .error (.multipleValues name)
      else checkKeywords signature all rest
    else if signature.takesKeywords then checkKeywords signature all rest
    else
      match signature.positionalNames.filter (· ∈ all) with
      | [] => .error (.unexpected name)
      | names => .error (.positionalByName names)

-- The value of a parameter: the argument of its name unless it is taken by position only, else its default.
def supplied? (arguments : List (String × Content)) (p : Parameter) : Option Content :=
  let given := if p.kind = .positional then none else arguments.lookup p.name
  match given with
  | some content => some content
  | none => p.default.map Content.data

-- Binds keyword arguments. Names are checked first, then positional parameters without a value, then keyword ones.
def bind (signature : Signature) (arguments : List (String × Content)) : Except BindError Arguments := do
  signature.checkKeywords (arguments.map (·.1)) (arguments.map (·.1))
  let absent := signature.parameters.filter fun p => (supplied? arguments p).isNone
  let positional := absent.filter fun p => p.kind = .positional || p.kind = .normal
  let keyword := absent.filter (·.kind = .keyword)
  if !positional.isEmpty then .error (.missingPositional (positional.map (·.name)))
  else if !keyword.isEmpty then .error (.missingKeyword (keyword.map (·.name)))
  else
    let named := signature.parameters.filterMap fun p =>
      if p.kind = .rest || p.kind = .keywords then none
      else (supplied? arguments p).map fun content => (p.spelling, content)
    let extra := arguments.filter fun (name, _) => name ∉ signature.keywordNames
    .ok ⟨named, extra⟩

end Signature
end RestDispatch
