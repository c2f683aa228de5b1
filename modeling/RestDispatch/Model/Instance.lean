import RestDispatch.Model.Basic
import RestDispatch.Model.Scalar

set_option autoImplicit false

/-!
Instances of models: what data and other content stand for. Keys that are no fields are passed over, and
all problems are reported, field by field. Instances lie at most 255 deep inside each other.
-/
namespace RestDispatch.Model

open Reading

def depthLimit : Nat := 255

structure Given where
  key : List Letter
  content : Content
  instances : Reading Value

def readGiven (found : Given) : FieldType → Reading Value
  | .text => text found.content
  | .number => number found.content
  | .integer => integer found.content
  | .flag => flag found.content
  | .instances => found.instances

def readField (given : List Given) (field : ModelField) : Reading Value :=
  match given.find? (·.key = Text.lettersOf field.name), field.absent with
  | none, some value => .ok value
  | none, none => within field.name (refuse .missing)
  | some found, _ => within field.name (readGiven found field.type)

def prepend {α : Type} (first : Reading α) (rest : Reading (List α)) : Reading (List α) :=
  match first, rest with
  | .ok value, .ok others => .ok (value :: others)
  | .ok _, .error errors => .error errors
  | .error errors, .ok _ => .error errors
  | .error errors, .error more => .error (errors ++ more)

def readFields (given : List Given) : List ModelField → Reading Fields
  | [] => .ok []
  | field :: rest =>
    prepend ((readField given field).map fun value => (Text.lettersOf field.name, value))
      (readFields given rest)

mutual

-- The instance that a value stands for, its fields in the order of the model. `depth` is how many instances may lie
-- inside each other from here on.
def readValue (model : Model) (depth : Nat) (v : Value) : Reading Value :=
  if depth = 0 then refuse .tooDeep
  else match v with
    | .object fields => (readFields (givenFields model (depth - 1) fields) model.fields).map .object
    | _ => refuse (.notInstance model.name)

def givenFields (model : Model) (depth : Nat) : Fields → List Given
  | [] => []
  | (key, v) :: rest => ⟨key, .data v, readList model depth v⟩ :: givenFields model depth rest

def readList (model : Model) (depth : Nat) : Value → Reading Value
  | .list items => (readItems model depth 0 items).map .list
  | _ => refuse .notList

def readItems (model : Model) (depth place : Nat) : List Value → Reading (List Value)
  | [] => .ok []
  | item :: rest =>
    prepend (within (toString place) (readValue model depth item)) (readItems model depth (place + 1) rest)

end

mutual

def readContent (model : Model) (depth : Nat) (content : Content) : Reading Value :=
  if depth = 0 then refuse .tooDeep
  else match content with
    | .data v => readValue model depth v
    | .dict entries => (readFields (givenEntries model (depth - 1) entries) model.fields).map .object
    | .model name fields => if name = model.name then .ok fields else refuse (.notInstance model.name)
    | _ => refuse (.notInstance model.name)

def givenEntries (model : Model) (depth : Nat) : List (Content × Content) → List Given
  | [] => []
  | (.data (.text key), content) :: rest =>
    ⟨key, content, readSequence model depth content⟩ :: givenEntries model depth rest
  | _ :: rest => givenEntries model depth rest

-- Whatever holds elements one after the other counts as a list.
def readSequence (model : Model) (depth : Nat) : Content → Reading Value
  | .data v => readList model depth v
  | .list items => (readElements model depth 0 items).map .list
  | .tuple items => (readElements model depth 0 items).map .list
  | .set items => (readElements model depth 0 items).map .list
  | _ => refuse .notList

def readElements (model : Model) (depth place : Nat) : List Content → Reading (List Value)
  | [] => .ok []
  | item :: rest =>
    prepend (within (toString place) (readContent model depth item))
      (readElements model depth (place + 1) rest)

end

def validate (model : Model) (data : Fields) : Reading Value := readValue model depthLimit (.object data)

def construct (model : Model) (content : Content) : Reading Value := readContent model depthLimit content

def invalid (model : Model) (errors : List FieldError) : Fault :=
  { kind := "ValidationError"
    text := model.name
    shown := errors.getLast?.map fun e =>
      "\n    For further information visit https://errors.pydantic.dev/2.14/v/" ++ e.problem.kind
    details := errors.map fun e => (e.location, e.problem.kind) }

def instanceOf (model : Model) (content : Content) : Except Fault Value :=
  (model.construct content).mapError (invalid model)

def report (model : Model) (errors : List FieldError) : String :=
  let noun := if errors.length = 1 then "error" else "errors"
  s!"{errors.length} validation {noun} for {model.name}" ++ String.join (errors.map (·.report))

end RestDispatch.Model
