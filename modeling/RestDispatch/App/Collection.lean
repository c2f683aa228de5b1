import RestDispatch.Handler.Basic
import RestDispatch.Param.Parser
import RestDispatch.Resource.Basic
import RestDispatch.Model.Instance

set_option autoImplicit false

/-!
Collecting the arguments of a handler. What the path captured is overlaid by what the parser delivers,
and that by the models; parser and models see the same request data. The body is read only if one of
them is there and the verb carries a body.
-/
namespace RestDispatch

inductive Refusal where
  | unsupportedBody
  | badParameter (rejection : Rejection) (message : String)
  | badModel (model : Model) (errors : List FieldError)
  | fault (fault : Fault)

namespace Request

def carriesBody (request : Request) : Bool :=
  (Verb.named? (Text.upper request.method)).any Verb.carriesBody

def queryData (request : Request) : Fields :=
  request.query.map fun (name, value) => (Text.lettersOf name, .text value)

-- The object that the body is; another body is not supported. A body that cannot be read is a fault only where it
-- is not the text that is wrong.
def bodyData (request : Request) : Except Refusal Fields × Request :=
  if request.contentType ≠ "application/json" then (.error .unsupportedBody, request)
  else
    match request.json with
    | (.ok (.object fields), request) => (.ok fields, request)
    | (.ok _, request) => (.error .unsupportedBody, request)
    | (.error fault, request) =>
      (.error (if fault.kind ∈ Json.ReadError.valueKinds then .unsupportedBody else .fault fault), request)

-- The request data: the query, overlaid by the body if there is one.
def data (request : Request) : Except Refusal Fields × Request :=
  if !request.carriesBody then (.ok request.queryData, request)
  else
    match request.body with
    | (.error fault, request) => (.error (.fault fault), request)
    | (.ok bytes, request) =>
      if bytes.isEmpty then (.ok request.queryData, request)
      else
        match request.bodyData with
        | (.error refusal, request) => (.error refusal, request)
        | (.ok fields, request) => (.ok (putAll request.queryData fields), request)

end Request

def parsedArguments (parser : Option Parser) (data : Fields) : Except Refusal Entries :=
  match parser with
  | none => .ok []
  | some parser =>
    match parser.parse data with
    | .ok delivered => .ok delivered
    | .error (.rejected rejection message) => .error (.badParameter rejection message)
    | .error (.raised fault) => .error (.fault fault)

def modelArguments (data : Fields) : List (String × Model) → Except Refusal (List (String × Content))
  | [] => .ok []
  | (name, model) :: rest =>
    match model.validate data with
    | .error errors => .error (.badModel model errors)
    | .ok instance? => do
      let others ← modelArguments data rest
      .ok ((name, .model model.name instance?) :: others)

def suppliedArguments (models : List (String × Model)) (parser : Option Parser) (request : Request) :
    Except Refusal (List (String × Content)) × Request :=
  let captured := request.captures.map fun (name, v) => (name, Content.data v)
  if parser.isNone && models.isEmpty then (.ok captured, request)
  else
    match request.data with
    | (.error refusal, request) => (.error refusal, request)
    | (.ok data, request) =>
      let supplied := do
        let parsed ← parsedArguments parser data
        let built ← modelArguments data models
        .ok (putAll (putAll captured (parsed.map fun (name, v) => (name, .data v))) built)
      (supplied, request)

namespace Signature

-- The arguments among the supplied ones that a handler takes, the request itself being one if it has a parameter of
-- that name.
def select (signature : Signature) (supplied : List (String × Content)) : List (String × Content) :=
  let taken :=
    if signature.takesKeywords then supplied
    else signature.argumentNames.filterMap fun name => (supplied.lookup name).map fun c => (name, c)
  if signature.wantsRequest then put requestName .request taken else taken

-- Collects the arguments of a handler. The order of the models decides only which refusal is found.
def collect (signature : Signature) (models : List (String × Model)) (parser : Option Parser)
    (request : Request) : Except Refusal (List (String × Content)) × Request :=
  match suppliedArguments models parser request with
  | (.error refusal, request) => (.error refusal, request)
  | (.ok supplied, request) => (.ok (signature.select supplied), request)

end Signature
end RestDispatch
