import RestDispatch.Annotation.Same
import RestDispatch.Http.Request

set_option autoImplicit false

/-!
The classes of requests and responses and their things: what annotations may ask them for.
-/
namespace RestDispatch

structure ExchangeClass where
  path : String
  stored : List String
  functions : List String
  computed : List String := []
  summary : String

namespace ExchangeClass

def request : ExchangeClass where
  path := "restly.request.Request"
  stored := ["_body", "_headers", "_receive", "_scope", "method", "path", "path_params"]
  functions := ["__init__", "body", "json"]
  computed := ["query_params", "query", "headers", "content_type"]
  summary :=
    "One HTTP request, as seen by a resource.\n\n    ``path_params`` holds the url variables captured by the " ++
    "router.  The\n    body is read lazily from the ASGI channel and kept after the first read.\n    "

def response : ExchangeClass where
  path := "restly.response.Response"
  stored := ["body", "headers", "media_type", "status_code"]
  functions := ["__init__", "send"]
  summary := "A raw HTTP response."

def named? (path : String) : Option ExchangeClass := [request, response].find? (·.path = path)

def remark? (cls : ExchangeClass) (name : String) : Option Meaning :=
  match name with
  | "__doc__" => some (Meaning.ofString cls.summary)
  | "__slots__" => some (.tuple (cls.stored.map Meaning.ofString))
  | "__annotations__" => some (.dict [])
  | "__module__" => some (Meaning.ofString (Meaning.homeOf cls.path))
  | _ => none

def attribute? (cls : ExchangeClass) (name : String) : Option Meaning :=
  if name ∈ cls.stored then some (.member .stored cls.path name)
  else if name ∈ cls.functions then
    some (.member .named (Meaning.lastName cls.path) name)
  else if name ∈ cls.computed then some (.constant s!"<property object {Meaning.somewhere}>" "property")
  else cls.remark? name

def scopeEntry? (parts : Bindings) (key : String) : Except Fault (Option Meaning) :=
  match parts.lookup "_scope" with
  | some (.dict entries) => .ok (Meaning.lookUp? entries (Meaning.ofString key))
  | some m => .error (.of "AttributeError" s!"'{m.kindName}' object has no attribute 'get'")
  | none => .ok none

def encodedText (m : Meaning) : Except Fault Bytes :=
  match m with
  | .bytes _ content => .ok content
  | m => .error (.of "AttributeError" s!"'{m.kindName}' object has no attribute 'decode'")

def headerOf (m : Meaning) : Except Fault (Bytes × Bytes) := do
  match ← m.elements with
  | [name, value] => .ok (← encodedText name, ← encodedText value)
  | items =>
    .error (.valueError (
      if items.length < 2 then s!"not enough values to unpack (expected 2, got {items.length})"
      else "too many values to unpack (expected 2)"))

def requestOf (parts : Bindings) (name : String) : Except Fault Request := do
  if name ∈ ["query_params", "query"] then
    let raw ← (← scopeEntry? parts "query_string").elim (.ok []) encodedText
    .ok { method := "", path := "", rawQuery := raw }
  else
    let items ← (← scopeEntry? parts "headers").elim (.ok []) Meaning.elements
    .ok { method := "", path := "", rawHeaders := ← items.mapM headerOf }

def textTable (entries : List (String × String)) : Meaning :=
  .dict (entries.map fun (name, value) => (Meaning.ofString name, Meaning.ofString value))

def computedOf (parts : Bindings) (name : String) : Except Fault Meaning := do
  let request ← requestOf parts name
  match name with
  | "query_params" =>
    .ok (.dict (request.queryValues.map fun (name, values) =>
      (Meaning.ofString name, .list (values.map Meaning.ofString))))
  | "query" => .ok (textTable request.query)
  | "headers" => .ok (textTable request.headers)
  | _ => .ok (Meaning.ofString request.contentType)

end ExchangeClass
end RestDispatch
