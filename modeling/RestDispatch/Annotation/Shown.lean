import RestDispatch.Annotation.Meaning
import RestDispatch.Value.Printed

set_option autoImplicit false

/-!
What things look like in messages. An integer of too many digits cannot be shown, nor can a thing that holds one or that
is nested too deep.
-/
namespace RestDispatch.Meaning

def shortFloat (x : Float) : String :=
  let text := (Value.floatText x).toList
  String.ofList (if ".0".toList.isSuffixOf text then text.take (text.length - 2) else text)

-- A complex number: its real part is left out if it is a zero without a sign.
def complexText (re im : Float) : String :=
  if re == 0.0 && !Decimal.isNegative re then shortFloat im ++ "j"
  else "(" ++ shortFloat re ++ (if Decimal.isNegative im && !im.isNaN then "" else "+") ++ shortFloat im ++ "j)"

def quotedByte (quote : Char) (byte : UInt8) : List Char :=
  let c := Char.ofNat byte.toNat
  if c = quote || c = '\\' then ['\\', c]
  else if c = '\n' then ['\\', 'n']
  else if c = '\r' then ['\\', 'r']
  else if c = '\t' then ['\\', 't']
  else if 0x20 ≤ byte && byte < 0x7F then [c]
  else '\\' :: 'x' :: Text.hex 2 byte.toNat

def quotedBytes (content : Bytes) : String :=
  let quote := Text.quoteFor (content.map fun byte => Char.ofNat byte.toNat)
  String.ofList ('b' :: quote :: content.flatMap (quotedByte quote) ++ [quote])

def shownInt (n : Int) : Except Fault String :=
  match Value.intText? n with
  | some digits => .ok (String.ofList digits)
  | none => .error .overlongOutput

def classText (path : String) : String := if path = anyPath then path else s!"<class '{path}'>"

def memberText (kind : MemberKind) (owner name : String) : String :=
  let owner := if owner ∈ ["GenericAlias", "UnionType"] then "types." ++ owner else shortName owner
  match kind with
  | .method => s!"<method '{name}' of '{owner}' objects>"
  | .slot => s!"<slot wrapper '{name}' of '{owner}' objects>"
  | .attribute => s!"<attribute '{name}' of '{owner}' objects>"
  | .stored => s!"<member '{name}' of '{owner}' objects>"
  | .function => s!"<built-in method {name} of type object {somewhere}>"
  | .named => s!"<function {owner}.{name} {somewhere}>"

def methodText (self : Meaning) (name label : String) : String :=
  let kind := self.kindName
  match self.prototype? name with
  | some (home, _) => s!"<bound method {home}.{name} of {label}>"
  | none =>
    if methodKindName self kind name = "method-wrapper" then s!"<method-wrapper '{name}' of {kind} object {somewhere}>"
    else s!"<built-in method {name} of {kind} object {somewhere}>"

def namedChoice : List String → String
  | [first, second] =>
    if first = emptyLabel then s!"typing.Optional[{second}]"
    else if second = emptyLabel then s!"typing.Optional[{first}]"
    else s!"typing.Union[{first}, {second}]"
  | labels => "typing.Union[" ++ ", ".intercalate labels ++ "]"

def faultArguments {α : Type} (kind : String) (arguments : List α) : List α :=
  if "OSError" ∈ WellKnown.lineage kind && arguments.length ≤ 5 then arguments.take 2 else arguments

def enclosed (opening closing : String) (labels : List String) : String :=
  opening ++ ", ".intercalate labels ++ closing

def tupleText : List String → String
  | [label] => "(" ++ label ++ ",)"
  | labels => enclosed "(" ")" labels

def setText (fixed : Bool) (labels : List String) : String :=
  match fixed, labels with
  | true, [] => "frozenset()"
  | false, [] => "set()"
  | true, labels => enclosed "frozenset(\x7b" "\x7d)" labels
  | false, labels => enclosed "\x7b" "\x7d" labels

-- The label of a class among the arguments of another one: its full name if it is not known everywhere.
def argumentClass? : Meaning → Option String
  | .model m => some (modelPath m)
  | .cls path => some path
  | _ => none

def containerText (name : String) (labels : List String) : String :=
  name ++ enclosed "[" "]" (if labels.isEmpty then ["()"] else labels)

def containedAs (shown : Except Fault String) (m : Meaning) : Except Fault String :=
  match m with
  | .ellipsis => .ok "..."
  | .function name => .ok name
  | m => (argumentClass? m).elim shown .ok

def strokeAs (shown : Except Fault String) (m : Meaning) : Except Fault String :=
  match m with
  | .cls path => .ok (if path = emptyLabel then "None" else path)
  | .function name => .ok name
  | m => (argumentClass? m).elim shown .ok

def memberAs (shown : Except Fault String) (m : Meaning) : Except Fault String :=
  match m with
  | .ellipsis => .ok "..."
  | .closure _ _ _ _ => .ok "<lambda>"
  | m => (argumentClass? m).elim shown .ok

-- How many calls it takes, besides that for the thing itself, until the parts of a record or of a choice that is
-- written with names are shown.
def recordCalls : Nat := 3

def choiceCalls (members : List Meaning) : Nat := if members.length = 2 && members.any isEmptyClass then 2 else 4

def streamLabel (kind : String) : String :=
  if kind = "generator" then "generator object <genexpr>" else kind ++ " object"

mutual

-- The text of a thing, or what keeps it from being shown, if `room` calls may still lie inside each other, that for
-- the thing itself being the first.
def printedWithin : Nat → Meaning → Except Fault String
  | 0, _ => .error .deepOutput
  | _ + 1, .nothing => .ok "None"
  | _ + 1, .ellipsis => .ok "Ellipsis"
  | _ + 1, .notImplemented => .ok "NotImplemented"
  | _ + 1, .truth b => .ok (if b then "True" else "False")
  | _ + 1, .int n => shownInt n
  | _ + 1, .float x => .ok (Value.floatText x)
  | _ + 1, .complex re im => .ok (complexText re im)
  | _ + 1, .text t => .ok (Text.quotedLetters t)
  | _ + 1, .bytes fixed content =>
    .ok (if fixed then quotedBytes content else enclosed "bytearray(" ")" [quotedBytes content])
  | _ + 1, .view _ _ => .ok s!"<memory {somewhere}>"
  | room + 1, .tuple items => (printedAll room items).map tupleText
  | room + 1, .list items => (printedAll room items).map (enclosed "[" "]")
  | room + 1, .set fixed items => (printedAll room items).map (setText fixed)
  | room + 1, .dict entries => (printedEntries room entries).map (enclosed "\x7b" "\x7d")
  | _ + 1, .range start stop step => do
    let start ← shownInt start
    let stop ← shownInt stop
    let step ← shownInt step
    .ok (enclosed "range(" ")" (if step = "1" then [start, stop] else [start, stop, step]))
  | room + 1, .slice start stop step => do
    let start ← printedWithin room start
    let stop ← printedWithin room stop
    let step ← printedWithin room step
    .ok (enclosed "slice(" ")" [start, stop, step])
  | _ + 1, .model m => .ok (classText (modelPath m))
  | _ + 1, .cls path => .ok (classText path)
  | room + 1, .record m _ fields => (printedFields (room - recordCalls) m fields).map (enclosed (m.name ++ "(") ")")
  | _ + 1, .thing label _ _ => .ok label
  | room + 1, .fault kind arguments =>
    (printedAll room arguments).map fun labels => enclosed (kind ++ "(") ")" (faultArguments kind labels)
  | _ + 1, .function name => .ok s!"<built-in function {name}>"
  | _ + 1, .member kind owner name => .ok (memberText kind owner name)
  | room + 1, .method self name => (printedWithin room self).map (methodText self name)
  | _ + 1, .closure _ _ _ _ => .ok s!"<function <lambda> {somewhere}>"
  | room + 1, .stream kind items _ =>
    if isDictView kind then (printedAll room items).map (enclosed (kind ++ "([") "])")
    else .ok s!"<{streamLabel kind} {somewhere}>"
  | _ + 1, .constant label _ => .ok label
  | _ + 1, .form name => .ok ("typing." ++ name)
  | room + 1, .container name items => (containedAll room items).map (containerText name)
  | room + 1, .unpacked name items => (containedAll room items).map fun labels => "*" ++ containerText name labels
  | room + 1, .choice true members => (alternatives room members).map (" | ".intercalate ·)
  | room + 1, .choice false members => (membersOf (room - choiceCalls members) members).map namedChoice
  | _ + 1, .reference target => .ok (enclosed "ForwardRef(" ")" [Text.quotedLetters target])
  | _ + 1, .shared _ => .ok "..."

def printedAll (room : Nat) : List Meaning → Except Fault (List String)
  | [] => .ok []
  | m :: ms => do
    let label ← printedWithin room m
    let labels ← printedAll room ms
    .ok (label :: labels)

def printedEntries (room : Nat) : List (Meaning × Meaning) → Except Fault (List String)
  | [] => .ok []
  | (key, value) :: rest => do
    let name ← printedWithin room key
    let label ← printedWithin room value
    let labels ← printedEntries room rest
    .ok ((name ++ ": " ++ label) :: labels)

-- The labels of the fields of a model. Records may hold more than those, which is not shown.
def printedFields (room : Nat) (m : Model) : List (String × Meaning) → Except Fault (List String)
  | [] => .ok []
  | (name, value) :: rest => do
    let label ← printedWithin room value
    let labels ← printedFields room m rest
    .ok (if m.hasField name then (name ++ "=" ++ label) :: labels else labels)

def containedAll (room : Nat) : List Meaning → Except Fault (List String)
  | [] => .ok []
  | m :: ms => do
    let label ← containedAs (printedWithin room m) m
    let labels ← containedAll room ms
    .ok (label :: labels)

def alternatives (room : Nat) : List Meaning → Except Fault (List String)
  | [] => .ok []
  | m :: ms => do
    let label ← strokeAs (printedWithin room m) m
    let labels ← alternatives room ms
    .ok (label :: labels)

def membersOf (room : Nat) : List Meaning → Except Fault (List String)
  | [] => .ok []
  | m :: ms => do
    let label ← memberAs (printedWithin room m) m
    let labels ← membersOf room ms
    .ok (label :: labels)

end

def printed (m : Meaning) : Except Fault String := printedWithin Value.nestLimit m

def printed? (m : Meaning) : Option String := m.printed.toOption

def argumentText (m : Meaning) : String :=
  match m with
  | .text t => Text.held t
  | m => m.printed?.getD ""

def escapedCode (code : Nat) : String :=
  let escaped := if code < 256 then 'x' :: Text.hex 2 code
    else if code < 0x10000 then 'u' :: Text.hex 4 code
    else 'U' :: Text.hex 8 code
  String.ofList ('\\' :: escaped)

def placesText (one many : String) (start stop : Int) (found : Option String) : String :=
  match found with
  | some label => if stop = start + 1 then s!"{one} {label} in position {start}"
    else s!"{many} in position {start}-{stop - 1}"
  | none => s!"{many} in position {start}-{stop - 1}"

def codecText? (kind : String) (arguments : List Meaning) : Option String :=
  match kind, arguments with
  | "UnicodeDecodeError", [.text name, .bytes _ content, .int start, .int stop, .text reason] =>
    let found := (content[start.toNat]?).map fun byte => "0x" ++ String.ofList (Text.hex 2 byte.toNat)
    let place := placesText "byte" "bytes" start stop found
    some s!"'{Text.held name}' codec can't decode {place}: {Text.held reason}"
  | "UnicodeEncodeError", [.text name, .text t, .int start, .int stop, .text reason] =>
    let place := placesText "character" "characters" start stop (labelAt t start)
    some s!"'{Text.held name}' codec can't encode {place}: {Text.held reason}"
  | "UnicodeTranslateError", [.text t, .int start, .int stop, .text reason] =>
    let place := placesText "character" "characters" start stop (labelAt t start)
    some s!"can't translate {place}: {Text.held reason}"
  | _, _ => none
where
  labelAt (t : List Letter) (place : Int) : Option String :=
    (t[place.toNat]?).map fun letter => "'" ++ escapedCode (letterNumber letter) ++ "'"
  letterNumber : Letter → Nat
    | .char c => c.toNat
    | .half unit => unit

def systemText? (kind : String) (arguments : List Meaning) : Option String :=
  if "OSError" ∉ WellKnown.lineage kind || 5 < arguments.length then none
  else
    match arguments with
    | number :: reason :: rest =>
      let base := s!"[Errno {argumentText number}] {argumentText reason}"
      let names := ([rest[0]?, rest[2]?].filterMap id).filter (! · matches .nothing)
      let shown := names.map fun m => m.printed?.getD ""
      some (if shown.isEmpty then base else base ++ ": " ++ " -> ".intercalate shown)
    | _ => none

def faultText? (kind : String) (arguments : List Meaning) : Option String :=
  match kind, arguments with
  | "KeyError", [argument] => argument.printed?
  | "SyntaxError", [] => some "None"
  | "SyntaxError", m :: _ => some (argumentText m)
  | kind, [.text t, group] =>
    if "BaseExceptionGroup" ∈ WellKnown.lineage kind then
      let count := ((group.elements.toOption).getD []).length
      let plural := if count = 1 then "" else "s"
      some s!"{Text.held t} ({count} sub-exception{plural})"
    else systemText? kind arguments
  | kind, arguments => (codecText? kind arguments).or (systemText? kind arguments)

def plain (m : Meaning) : Except Fault (List Letter) :=
  match m with
  | .text t => .ok t
  | .fault kind arguments =>
    match faultText? kind arguments, arguments with
    | some shown, _ => .ok (Text.lettersOf shown)
    | none, [] => .ok []
    | none, [argument] => plain argument
    | none, arguments => (Meaning.tuple arguments).printed.map Text.lettersOf
  | .record m _ fields => (printedFields Value.nestLimit m fields).map fun labels => Text.lettersOf (" ".intercalate labels)
  | m => m.printed.map Text.lettersOf

def label : Meaning → Except Fault String
  | .model m => .ok m.name
  | .cls path => .ok (lastName path)
  | m => m.printed

def label? (m : Meaning) : Option String := m.label.toOption

def labelText (m : Meaning) : String := m.printed?.getD ""

end RestDispatch.Meaning
