import RestDispatch.Json.Encode
import RestDispatch.Fault
import RestDispatch.CalendarDate
import RestDispatch.Text.Utf8

set_option autoImplicit false

/-!
What a handler is given and may return: request data, model instances, and things that have no JSON
form. Lists and tuples are written alike; a dictionary may have keys of several kinds. An instance is written in the place
of what it is dumped to, which is a nest of its own.
-/
namespace RestDispatch

inductive Content where
  | data (v : Value)
  | model (name : String) (fields : Value)
  | request
  | method (name : String)
  | date (day : CalendarDate)
  | bytes (content : Bytes)
  | set (items : List Content)
  | list (items : List Content)
  | tuple (items : List Content)
  | dict (entries : List (Content × Content))
deriving Inhabited

namespace Content

def named (entries : List (String × Content)) : Content :=
  .dict (entries.map fun (name, content) => (.data (.text name), content))

def kindName : Content → String
  | .data v => v.kindName
  | .model name _ => name
  | .request => "Request"
  | .method _ => "method"
  | .date _ => "date"
  | .bytes _ => "bytes"
  | .set _ => "set"
  | .list _ => "list"
  | .tuple _ => "tuple"
  | .dict _ => "dict"

def keyKindName : Content → String
  | .date _ => "datetime.date"
  | content => content.kindName

def badKey (content : Content) : Fault :=
  .typeError s!"keys must be str, int, float, bool or None, not {content.keyKindName}"

def keyText (bounds : Json.Bounds) : Content → Except Fault (List Letter)
  | .data (.text t) => .ok (Json.stringText t)
  | .data .null => (Json.encode bounds .null).map Json.stringText
  | .data (.bool b) => (Json.encode bounds (.bool b)).map Json.stringText
  | .data (.int i) => (Json.encode bounds (.int i)).map Json.stringText
  | .data (.float x) => (Json.encode bounds (.float x)).map Json.stringText
  | other => .error other.badKey

mutual

def encode (bounds : Json.Bounds) : Content → Except Fault (List Letter)
  | .data v => Json.encode bounds v
  | .model _ fields => if bounds.exhausted then .error .deepEncoding else Json.encode bounds.inside fields
  | .list items => Json.nested bounds '[' ']' (encodeItems bounds.inside items)
  | .tuple items => Json.nested bounds '[' ']' (encodeItems bounds.inside items)
  | .dict entries => Json.nested bounds '\x7b' '\x7d' (encodeEntries bounds.inside entries)
  | other => .error (Json.notSerializable other.kindName)

def encodeItems (bounds : Json.Bounds) : List Content → Except Fault (List (List Letter))
  | [] => .ok []
  | c :: cs => do
    let first ← encode bounds c
    let rest ← encodeItems bounds cs
    .ok (first :: rest)

def encodeEntries (bounds : Json.Bounds) : List (Content × Content) → Except Fault (List (List Letter))
  | [] => .ok []
  | (k, v) :: entries => do
    let key ← keyText bounds k
    let first ← encode bounds v
    let rest ← encodeEntries bounds entries
    .ok ((key ++ .char ':' :: first) :: rest)

end

-- The bytes of the JSON text of a thing. Whatever else makes writing fail comes before halves of surrogate pairs,
-- which have no bytes.
def jsonBytes (content : Content) : Except Fault Bytes := do
  let text ← content.encode .ofBody
  match Text.Utf8.encodeLetters text with
  | .ok encoded => .ok encoded
  | .error e => .error (.of "UnicodeEncodeError" e.message)

end Content
end RestDispatch
