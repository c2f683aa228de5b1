import RestDispatch.Handler.Template

set_option autoImplicit false

/-!
Handlers given by what they do: return something, tell their arguments or the request back, raise a
fault, or keep an argument.
-/
namespace RestDispatch

structure ResponseTemplate where
  json : Option Template := none
  body : String := ""
  status : Int := 200
  headers : List (String × String) := []
  mediaType : String := "text/plain; charset=utf-8"

def ResponseTemplate.build (template : ResponseTemplate) (sources : Sources) : Except Fault Response :=
  match template.json with
  | some json => do Response.json (← json.build sources) template.status template.headers
  | none => do
    .ok
      { body := ← latinBytes template.body
        status := template.status
        headers := template.headers
        mediaType := template.mediaType }

inductive Action where
  | answer (template : Template)
  | echo
  | raise (fault : Fault)
  | keep (argument : String)
  | tell (fields : List String)
  | respond (template : ResponseTemplate)

namespace RequestView

def textTable (table : List (String × String)) : Value := .ofEntries (table.map fun (k, v) => (k, .text v))

def plainField? (view : RequestView) (name : String) : Option Value :=
  match name with
  | "method" => some (.text view.method)
  | "path" => some (.text view.path)
  | "path_params" => some (.ofEntries view.captures)
  | "query_params" =>
    some (.ofEntries (view.queryValues.map fun (k, values) => (k, .list (values.map fun (s : String) => .text s))))
  | "query" => some (textTable view.query)
  | "headers" => some (textTable view.headers)
  | "content_type" => some (.text view.contentType)
  | _ => none

def awaitedField? (view : RequestView) (name : String) : Option (Except Fault Value) :=
  match name with
  | "body" => some (view.body.map fun bytes => .text (Text.latinText bytes))
  | "json" => some view.json
  | _ => none

def field (view : RequestView) (async : Bool) (name : String) : Except Fault Content :=
  match view.plainField? name, view.awaitedField? name with
  | some v, _ => .ok (.data v)
  | none, some awaited => if async then awaited.map .data else .ok (.method name)
  | none, none => .error (.of "AttributeError" s!"'Request' object has no attribute '{name}'")

def fields (view : RequestView) (async : Bool) (told : List (String × Content)) :
    List String → Except Fault (List (String × Content))
  | [] => .ok told
  | name :: rest => do
    let content ← view.field async name
    view.fields async (put name content told) rest

end RequestView

namespace Action

def isRequest : Content → Bool
  | .request => true
  | _ => false

def echoed (arguments : Arguments) : Content :=
  .named (arguments.all.filter fun (_, c) => !isRequest c)

def told (async : Bool) (situation : Situation) (sources : Sources) (names : List String) : Except Fault Reply := do
  let argument ← sources.given requestName
  match argument, situation.request with
  | .request, some view =>
    let fields ← view.fields async [] names
    .ok (.content (.named fields))
  | other, _ =>
    match names with
    | [] => .ok (.content (.dict []))
    | name :: _ => .error (.of "AttributeError" s!"'{other.kindName}' object has no attribute '{name}'")

def reply (async : Bool) (situation : Situation) (sources : Sources) : Action → Except Fault (Reply × List Content)
  | .answer template => do .ok (.content (← template.build sources), situation.items)
  | .echo => .ok (.content (echoed situation.arguments), situation.items)
  | .raise fault => .error fault
  | .keep argument => do
    let items := situation.items ++ [← sources.given argument]
    .ok (.content (.list items), items)
  | .tell names => do .ok (← told async situation sources names, situation.items)
  | .respond template => do .ok (.response (← template.build sources), situation.items)

def run (async : Bool) (action : Action) (situation : Situation) : Outcome :=
  match action.reply async situation situation.sources with
  | .ok (reply, items) => ⟨.ok reply, items⟩
  | .error fault => ⟨.error (.raised fault), situation.items⟩

end Action

def Handler.doing (label : String) (async : Bool) (signature : Signature) (action : Action) : Handler :=
  { label, async, signature, run := action.run async }

end RestDispatch
