import RestDispatch.Description.Raised
import RestDispatch.Handler.Action
import RestDispatch.Resource.Basic
import RestDispatch.Param.Parser
import RestDispatch.Text.Compatibility

set_option autoImplicit false

/-!
Descriptions of handlers and of classes of resources.
-/
namespace RestDispatch

namespace Template

def letterTexts (t : List Letter) : List Value := t.map fun letter => .text [letter]

def keyTexts (fields : Fields) : List Value := fields.map fun (key, _) => .text key

def notIterable (v : Value) : Fault := .typeError s!"'{v.kindName}' object is not iterable"

def asPair : Value × Template → Template × Template
  | (_, .list [a, b]) => (a, b)
  | (.list items, _) =>
    let text :=
      if items.length < 2 then s!"not enough values to unpack (expected 2, got {items.length})"
      else "too many values to unpack (expected 2)"
    (.failing (.valueError text), .data .null)
  | (v, _) => (.failing (.typeError s!"cannot unpack non-iterable {v.kindName} object"), .data .null)

def ofArgument : Value → Template
  | .text t => .given (Text.held t)
  | v =>
    match (Content.data v).mutableKind? with
    | some kind => .failing (.typeError s!"unhashable type: '{kind}'")
    | none => .failing (.of "KeyError" (v.printed?.getD ""))

def ofAttribute : Value → Template
  | .text t => .held (Text.held t)
  | v => .failing (.typeError s!"attribute name must be string, not '{v.kindName}'")

def ofDate : Value → Template
  | .text t => .date t
  | _ => .failing (.typeError "fromisoformat: argument must be str")

def ofBytes : Value → Template
  | .text t => .bytes (Text.held t)
  | v => .failing (.of "AttributeError" s!"'{v.kindName}' object has no attribute 'encode'")

def ofTuple : Value → Template → Template
  | .text t, _ => .tuple ((letterTexts t).map .data)
  | .object fields, _ => .tuple ((keyTexts fields).map .data)
  | _, .list items => .tuple items
  | v, _ => .failing (notIterable v)

def ofSet : Value → Template
  | .list items => .set items
  | .text t => .set (letterTexts t)
  | .object fields => .set (keyTexts fields)
  | v => .failing (notIterable v)

def recipe? (name : String) (v : Value) (body : Template) : Option Template :=
  match name, v, body with
  | "$arg", _, _ => some (ofArgument v)
  | "$state", _, _ => some (ofAttribute v)
  | "$date", _, _ => some (ofDate v)
  | "$float", _, _ => some (.number v)
  | "$bytes", _, _ => some (ofBytes v)
  | "$tuple", _, _ => some (ofTuple v body)
  | "$set", _, _ => some (ofSet v)
  | "$model", .list [.text kind, _], .list [_, fields] => some (.model (Text.held kind) fields)
  | "$pairs", .list values, .list entries => some (.pairs ((values.zip entries).map asPair))
  | _, _, _ => none

def ofObject : Fields → List (String × Template) → Template
  | [(_, v)], [(name, body)] => (recipe? name v body).getD (.object [(name, body)])
  | _, fields => .object fields

mutual

-- The template that a value describes: objects with one key that starts with a dollar sign are recipes, all else
-- stands for itself.
def ofValue : Value → Template
  | .list items => .list (ofItems items)
  | .object fields => ofObject fields (ofFields fields)
  | v => .data v

def ofItems : List Value → List Template
  | [] => []
  | v :: vs => ofValue v :: ofItems vs

def ofFields : Fields → List (String × Template)
  | [] => []
  | (name, v) :: fields => (Text.held name, ofValue v) :: ofFields fields

end

end Template

def headersOf (v : Value) (name : String) : List (String × String) :=
  putAll [] ((v.entriesField name).map fun (key, value) => (key, value.asText))

def statusOf (v : Value) : Int :=
  match v.field? "status_code" with
  | some (.int status) => status
  | _ => 200

def ResponseTemplate.ofValue (v : Value) : ResponseTemplate :=
  { json := (v.field? "json").map Template.ofValue
    body := v.textField "body"
    status := statusOf v
    headers := headersOf v "headers"
    mediaType := (v.textField? "media_type").getD "text/plain; charset=utf-8" }

def Action.ofValue (v : Value) : Action :=
  match v.textField "do" with
  | "echo" => .echo
  | "raise" => .raise (.ofValue ((v.field? "exc").getD .null))
  | "append" => .keep (v.textField "arg")
  | "request" => .tell ((v.listField "fields").map Value.asText)
  | "response" => .respond (.ofValue v)
  | _ => .answer (((v.field? "value").map Template.ofValue).getD (.data .null))

def ParameterKind.ofText : String → ParameterKind
  | "pos" => .positional
  | "kw" => .keyword
  | "var" => .rest
  | "varkw" => .keywords
  | _ => .normal

def annotationText? (v : Value) (key : String) : Option (List Letter) :=
  match v.field? key with
  | some (.text t) => some t
  | _ => none

def Parameter.ofValue (v : Value) : Parameter :=
  { name := Text.compatible (v.textField "name")
    kind := .ofText (v.textField "kind")
    annotation := (annotationText? v "ann").map Annotation.ofText
    default := v.field? "default"
    spelling := v.textField "name" }

def Signature.ofValue (v : Value) : Signature :=
  { parameters := Parameter.placed false ((v.listField "params").map Parameter.ofValue)
    returns := (annotationText? v "returns").map Annotation.ofText }

def Handler.ofValue (label : String) (v : Value) : Handler :=
  Handler.doing label (v.flagField "async") (.ofValue v) (.ofValue ((v.field? "does").getD .null))

def ResourceClass.ofValue (name : String) (v : Value) : ResourceClass :=
  { name
    refusal := (v.field? "raise").map Fault.ofValue
    attributes := v.entriesOf "attrs"
    methods := (v.entriesOf "verbs").map fun (method, handler) =>
      (method, .ofValue (name ++ "." ++ method) handler) }

def annotationFault? (handler : Value) : Option Fault :=
  ((handler.listField "params").filterMap (annotationText? · "ann") ++
    (annotationText? handler "returns").toList).findSome? Annotation.writingFault?

def classesFault? (v : Value) : Option Fault :=
  (v.entriesOf "classes").findSome? fun (_, cls) =>
    (cls.entriesOf "verbs").findSome? fun (_, handler) => annotationFault? handler

def classesOf (v : Value) : List ResourceClass :=
  (v.entriesOf "classes").map fun (name, cls) => .ofValue name cls

def Setting.ofValue (v : Value) : Setting :=
  match v.single? with
  | some ("$fn", .text name) =>
    match Function.named? (Text.held name) with
    | some f => .function f
    | none => .data v
  | _ => .data v

def Settings.ofEntries (entries : Entries) : Settings := entries.map fun (name, v) => (name, .ofValue v)

end RestDispatch
