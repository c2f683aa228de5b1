import RestDispatch.Text.Quoted
import RestDispatch.Fault
import RestDispatch.Text.Split

set_option autoImplicit false

/-!
Rules such as `/books/<int:id>/<name>`. The slashes of a rule part it into tokens, empty ones being
left out. A token is a literal or, in angle brackets, a placeholder `<name>` or `<type:name>`. Names
differ, and a `path` placeholder stands last. The type is a converter: it says which texts the placeholder may
capture. Letters and digits are those of the basic block; no text is both an `int` or a `str` and a `float`.
-/
namespace RestDispatch

inductive Converter where
  | part
  | str
  | int
  | float
  | path
deriving DecidableEq, Repr, Inhabited

namespace Converter

def name : Converter → String
  | .part => ""
  | .str => "str"
  | .int => "int"
  | .float => "float"
  | .path => "path"

def all : List Converter := [.part, .str, .int, .float, .path]

def named? (text : String) : Option Converter := all.find? (·.name = text)

def multiSegment (converter : Converter) : Bool := converter = .path

def isPart (cs : List Char) : Bool := !cs.isEmpty && cs.all (· ≠ '/')

def isWordChar (c : Char) : Bool := c.isAlphanum || c = '_'

def isNumber (cs : List Char) : Bool := !cs.isEmpty && cs.all Char.isDigit

def accepts (converter : Converter) (text : String) : Bool :=
  match converter with
  | .part => isPart text.toList
  | .str => !text.toList.isEmpty && text.toList.all isWordChar
  | .int => isNumber text.toList
  | .float =>
    match Text.cut? '.' text.toList with
    | some (whole, fraction) => isNumber whole && isNumber fraction
    | none => false
  | .path => (Text.split '/' text.toList).all isPart

theorem named_name (converter : Converter) : named? converter.name = some converter := by
  cases converter <;> decide

end Converter

inductive RouteError where
  | malformedRule (rule : String)
  | unknownConverter (name : String)
  | duplicateVariable (name : String)
  | duplicatePath (rule : String)
  | construction (resource : String) (fault : Fault)
  | stopped (fault : Fault)
deriving DecidableEq, Repr

def RouteError.message : RouteError → String
  | .malformedRule rule => s!"Malformed url rule: {Text.quoted rule}."
  | .unknownConverter name => s!"Converter type: {Text.quoted name} is undefined."
  | .duplicateVariable name => s!"Url variable name: {Text.quoted name} used twice."
  | .duplicatePath rule => s!"Source path: {Text.quoted rule} used twice."
  | .construction resource fault =>
    s!"Instance Resource: {Text.quoted resource} throws an error: {Text.quoted fault.text}."
  | .stopped fault => fault.text

inductive Segment where
  | literal (text : String)
  | placeholder (name : String) (converter : Converter)
deriving DecidableEq, Repr

namespace Segment

def variableName? : Segment → Option String
  | .literal _ => none
  | .placeholder name _ => some name

def takesRest : Segment → Bool
  | .literal _ => false
  | .placeholder _ converter => converter.multiSegment

def render : Segment → String
  | .literal text => text
  | .placeholder name .part => "<" ++ name ++ ">"
  | .placeholder name converter => "<" ++ converter.name ++ ":" ++ name ++ ">"

end Segment

structure Rule where
  text : String
  segments : List Segment
deriving DecidableEq, Repr

namespace Rule

def variableNames (rule : Rule) : List String := rule.segments.filterMap Segment.variableName?

def catchAll (rule : Rule) : Bool := rule.segments.getLast?.any Segment.takesRest

def isBracket (c : Char) : Bool := c = '<' || c = '>'

def inside? : List Char → Option (List Char)
  | '<' :: rest =>
    match rest.reverse with
    | '>' :: inner => if inner.any isBracket then none else some inner.reverse
    | _ => none
  | _ => none

-- The converter name and the variable name of a placeholder; neither a written type nor the variable may be empty.
def typeAndName? (inner : List Char) : Option (List Char × List Char) :=
  match Text.cut? ':' inner with
  | some (type, name) => if type.isEmpty || name.isEmpty then none else some (type, name)
  | none => if inner.isEmpty then none else some ([], inner)

def readToken (rule : String) (token : List Char) : Except RouteError Segment :=
  if token.any isBracket then
    match (inside? token).bind typeAndName? with
    | none => .error (.malformedRule rule)
    | some (type, name) =>
      match Converter.named? (String.ofList type) with
      | none => .error (.unknownConverter (String.ofList type))
      | some converter => .ok (.placeholder (String.ofList name) converter)
  else .ok (.literal (String.ofList token))

def readTokens (rule : String) (seen : List String) : List (List Char) → Except RouteError (List Segment)
  | [] => .ok []
  | token :: tokens =>
    match readToken rule token with
    | .error e => .error e
    | .ok (.literal text) => (readTokens rule seen tokens).map (.literal text :: ·)
    | .ok (.placeholder name converter) =>
      if name ∈ seen then .error (.duplicateVariable name)
      else (readTokens rule (name :: seen) tokens).map (.placeholder name converter :: ·)

def tokens (rule : String) : List (List Char) := (Text.split '/' rule.toList).filter (!·.isEmpty)

def compile (text : String) : Except RouteError Rule :=
  match readTokens text [] (tokens text) with
  | .error e => .error e
  | .ok segments =>
    if segments.dropLast.any Segment.takesRest then .error (.malformedRule text)
    else .ok ⟨text, segments⟩

end Rule
end RestDispatch
