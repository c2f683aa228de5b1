import RestDispatch.Param.Parser

set_option autoImplicit false

/-!
Defaults are delivered as shallow copies: the list or object itself is new each time, what lies inside
it is shared with the default. An item appended to an inner list of a delivered value is therefore
found in later deliveries of that default.
-/
namespace RestDispatch

namespace Value

-- The place that an index means among some things: from the end if it is negative.
def placeOf? (count : Nat) (index : Int) : Option Nat :=
  let place := if index < 0 then index + count else index
  if 0 ≤ place && place < count then some place.toNat else none

def notAppendable (v : Value) : Fault := .of "AttributeError" s!"'{v.kindName}' object has no attribute 'append'"

def textStep (step : Value) (letters : List Letter) : Fault :=
  match step.integer? with
  | none => .typeError s!"string indices must be integers, not '{step.kindName}'"
  | some index =>
    if (placeOf? letters.length index).isSome then notAppendable (.text letters)
    else .of "IndexError" "string index out of range"

def changeField (key : List Letter) (change : Value → Except Fault Value) : Fields → Except Fault Fields
  | [] => .error (.of "KeyError" (Text.quotedLetters key))
  | (k, v) :: fields =>
    if k = key then (change v).map fun v => (k, v) :: fields
    else (changeField key change fields).map ((k, v) :: ·)

def appendAt (item : Value) : List Value → Value → Except Fault Value
  | [], .list items => .ok (.list (items ++ [item]))
  | [], v => .error (notAppendable v)
  | step :: path, .list items =>
    match step.integer? with
    | none => .error (.typeError s!"list indices must be integers or slices, not {step.kindName}")
    | some index =>
      match (placeOf? items.length index).bind fun place => items[place]?.map fun inner => (place, inner) with
      | none => .error (.of "IndexError" "list index out of range")
      | some (place, inner) => (appendAt item path inner).map fun inner => .list (items.set place inner)
  | .text key :: path, .object fields => (changeField key (appendAt item path) fields).map .object
  | step :: _, .object _ => .error (.of "KeyError" (step.printed?.getD ""))
  | step :: _, .text letters => .error (textStep step letters)
  | _ :: _, v => .error (.typeError s!"'{v.kindName}' object is not subscriptable")

end Value

namespace Parser

-- The declaration whose default is delivered under a key as it is: the last one for that key, if the data does not
-- give it and no conversion makes a new value.
def defaultSource? (parser : Parser) (data : Fields) (key : String) : Option Declaration :=
  (parser.declarations.reverse.find? (·.key = key)).filter fun declaration =>
    (data.named? declaration.name).isNone && declaration.options.convert.all (·.keeps)

def amendOptions (change : Value → Value) (options : Options) : Options :=
  { options with default := change options.default }

def amendSettings (change : Value → Value) (settings : Settings) : Settings :=
  settings.map fun (name, setting) =>
    match name, setting with
    | "default", .data v => (name, .data (change v))
    | _, setting => (name, setting)

def amendDefault (parser : Parser) (change : Value → Value) (source : Declaration) : Parser :=
  if source.inherits then
    { base := amendSettings change parser.base
      declarations := parser.declarations.map fun declaration =>
        if declaration.inherits then { declaration with options := amendOptions change declaration.options }
        else declaration }
  else
    { parser with
      declarations := parser.declarations.map fun declaration =>
        if declaration.name = source.name then
          { declaration with options := amendOptions change declaration.options }
        else declaration }

-- The parser after an item has been appended to the list at a path of what was delivered for some data. A path of
-- one step leads to a copy of its own.
def appendDelivered (parser : Parser) (data : Fields) (delivered : Entries) (path : List Value) (item : Value) :
    Except Fault Parser := do
  let _ ← Value.appendAt item path (.ofEntries delivered)
  match path with
  | .text key :: step :: rest =>
    match parser.defaultSource? data (Text.held key) with
    | some source => .ok (parser.amendDefault (fun v => (Value.appendAt item (step :: rest) v).toOption.getD v) source)
    | none => .ok parser
  | _ => .ok parser

end Parser
end RestDispatch
