import RestDispatch.Annotation.Record

set_option autoImplicit false

/-!
The entries of records as plain data and as JSON text. Entries may be left out by name, or because they say nothing
that is not known without them.
-/
namespace RestDispatch

-- Which entries of a record are told, and for whom: data for JSON holds only what JSON text may hold, and JSON text
-- writes all numbers of number fields as floats.
structure Dumping where
  isJson : Bool := false
  isWritten : Bool := false
  skipsUnset : Bool := false
  skipsDefaults : Bool := false
  skipsNothing : Bool := false

-- Which entries are chosen: those that are included, if that is said, and not excluded.
structure Selection where
  included : Meaning := .nothing
  excluded : Meaning := .nothing

namespace Selection

def all : Meaning := Meaning.ofString "__all__"

def isWhole : Meaning → Bool
  | .ellipsis => true
  | .truth true => true
  | _ => false

-- What is said of a key in a table, or of all keys; both hold if both are said.
def saidOf? (entries : List (Meaning × Meaning)) (key : Meaning) : Option Meaning :=
  match Meaning.lookUp? entries key, Meaning.lookUp? entries all with
  | some (.dict own), some (.dict general) =>
    some (.dict (general.foldl (fun table (key, m) =>
      if (Meaning.lookUp? table key).isSome then table else table ++ [(key, m)]) own))
  | some own, _ => some own
  | none, general => general

def holds (call : String) (m key : Meaning) : Except Fault Bool :=
  match Meaning.isIn key m, Meaning.isIn all m with
  | .ok true, _ => .ok true
  | .ok false, .ok found => .ok found
  | .ok false, .error _ => .ok false
  | .error _, _ => .error (.typeError s!"`{call}` argument must be a set or dict.")

def at? (selection : Selection) (key : Meaning) : Except Fault (Option Selection) := do
  let excluded ← match selection.excluded with
    | .nothing => .ok (some Meaning.nothing)
    | .dict entries =>
      match saidOf? entries key with
      | some m => .ok (if isWhole m then none else some m)
      | none => .ok (some .nothing)
    | m => .ok (if ← holds "exclude" m key then none else some .nothing)
  match excluded with
  | none => .ok none
  | some excluded =>
    match selection.included with
    | .nothing => .ok (some { excluded })
    | .dict entries =>
      .ok ((saidOf? entries key).map fun m => { included := if isWhole m then .nothing else m, excluded })
    | m => .ok (if ← holds "include" m key then some { excluded } else none)

def placedFromStart (length : Nat) (m : Meaning) : Meaning :=
  let fix : Meaning → Meaning := fun
    | .int n => .int (if n < 0 then n + length else n)
    | m => m
  match m with
  | .dict entries => .dict (entries.map fun (key, m) => (fix key, m))
  | .set fixed items => .set fixed (items.map fix)
  | m => m

def forItems (selection : Selection) (length : Nat) : Selection :=
  ⟨placedFromStart length selection.included, placedFromStart length selection.excluded⟩

end Selection

namespace Meaning

def notDumped (m : Meaning) : Fault :=
  .of "PydanticSerializationError" ("Unable to serialize unknown type: " ++ m.classOf.printed?.getD "")

def jsonKey (m : Meaning) : Except Fault Meaning :=
  match m with
  | .text t => .ok (.text t)
  | .truth b => .ok (ofString (if b then "true" else "false"))
  | .nothing => .ok (ofString "None")
  | m =>
    if m.integer?.isSome || m matches .float _ then m.printed.map ofString
    else .error m.notDumped

def dumpedScalar (dumping : Dumping) (m : Meaning) : Except Fault Meaning :=
  if !dumping.isJson then .ok m
  else
    match m with
    | .nothing => .ok m
    | .truth _ => .ok m
    | .int _ => .ok m
    | .float _ => .ok m
    | .text _ => .ok m
    | .bytes _ content =>
      match Text.Utf8.decodeStrict? content with
      | some cs => .ok (.text (Text.letters cs))
      | none =>
        .error (.of "PydanticSerializationError" "Error serializing to JSON: invalid utf-8 sequence of 1 bytes from index 0")
    | .complex _ _ => m.printed.map ofString
    | m => .error m.notDumped

def isTold (dumping : Dumping) (m : Model) (given : List String) (name : String) (value : Meaning) : Bool :=
  let default := (m.fields.find? (·.name = name)).bind fun field => field.absent.map (ofValue m)
  m.hasField name && !(dumping.skipsUnset && name ∉ given) && !(dumping.skipsNothing && value matches .nothing) &&
    !(dumping.skipsDefaults && default.any value.same)

def asWrittenNumber (dumping : Dumping) (m : Model) (name : String) (value : Meaning) : Meaning :=
  let isNumber := m.fields.any fun field => field.name = name && field.type = .number
  match value.integer? with
  | some n => if dumping.isWritten && isNumber then .float (Decimal.toFloat (n < 0) n.natAbs 0) else value
  | none => value

mutual

def dumped (dumping : Dumping) (selection : Selection) : Meaning → Except Fault Meaning
  | .record m given fields => (dumpedFields dumping selection m given fields).map .dict
  | .list items => (dumpedItems dumping (selection.forItems items.length) 0 items).map .list
  | .tuple items => do
    let items ← dumpedItems dumping (selection.forItems items.length) 0 items
    .ok (if dumping.isJson then .list items else .tuple items)
  | .set fixed items => do
    let items ← dumpedItems dumping {} 0 items
    .ok (if dumping.isJson then .list items else .set fixed items)
  | .dict entries => (dumpedEntries dumping selection entries).map .dict
  | m => dumpedScalar dumping m

def dumpedFields (dumping : Dumping) (selection : Selection) (m : Model) (given : List String) :
    List (String × Meaning) → Except Fault (List (Meaning × Meaning))
  | [] => .ok []
  | (name, value) :: rest => do
    let chosen ← if isTold dumping m given name value then selection.at? (ofString name) else .ok none
    let own ← match chosen with
      | some inner => do .ok [(ofString name, asWrittenNumber dumping m name (← dumped dumping inner value))]
      | none => .ok []
    .ok (own ++ (← dumpedFields dumping selection m given rest))

def dumpedItems (dumping : Dumping) (selection : Selection) (place : Nat) :
    List Meaning → Except Fault (List Meaning)
  | [] => .ok []
  | item :: rest => do
    let own ← match ← selection.at? (.int place) with
      | some inner => do .ok [← dumped dumping inner item]
      | none => .ok []
    .ok (own ++ (← dumpedItems dumping selection (place + 1) rest))

def dumpedEntries (dumping : Dumping) (selection : Selection) :
    List (Meaning × Meaning) → Except Fault (List (Meaning × Meaning))
  | [] => .ok []
  | (key, value) :: rest => do
    let own ← match ← selection.at? key with
      | some inner => do
        let key ← if dumping.isJson then jsonKey key else .ok key
        .ok [(key, ← dumped dumping inner value)]
      | none => .ok []
    .ok (own ++ (← dumpedEntries dumping selection rest))

end

/-! JSON text. -/

-- How JSON text is laid out: on lines of its own for every element if a number of blanks is given for every nest,
-- with what stands between elements and behind keys, and whether it holds basic characters only.
structure JsonLayout where
  indent : Option Nat := none
  comma : String := ","
  colon : String := ":"
  isBasic : Bool := false

-- A letter by its code if it is not basic; one that holds two halves is written as both.
def basicLetters (letter : Letter) : List Letter :=
  let code := codeOf letter
  let escaped := fun (unit : Nat) => Text.letters ('\\' :: 'u' :: Text.hex 4 unit)
  if code < 128 then [letter]
  else if code < 0x10000 then escaped code
  else escaped (0xD800 + (code - 0x10000) / 1024) ++ escaped (0xDC00 + (code - 0x10000) % 1024)

def jsonString (layout : JsonLayout) (t : List Letter) : List Letter :=
  let quoted := Json.stringText t
  if layout.isBasic then quoted.flatMap basicLetters else quoted

def jsonNest (layout : JsonLayout) (depth : Nat) (opening closing : String) (parts : List (List Letter)) :
    List Letter :=
  let line := fun (depth : Nat) =>
    (layout.indent.map fun n => Text.lettersOf (String.ofList ('\n' :: List.replicate (n * depth) ' '))).getD []
  match parts with
  | [] => Text.lettersOf (opening ++ closing)
  | parts =>
    Text.lettersOf opening ++ line (depth + 1) ++
      (parts.intersperse (Text.lettersOf layout.comma ++ line (depth + 1))).flatten ++
      line depth ++ Text.lettersOf closing

-- A float in JSON: what is no number says nothing.
def jsonFloat (x : Float) : String :=
  if Decimal.isFinite x then String.ofList (Decimal.textIn .brief x) else "null"

mutual

def jsonText (layout : JsonLayout) (depth : Nat) : Meaning → List Letter
  | .truth b => Text.lettersOf (if b then "true" else "false")
  | .int n => Text.lettersOf (toString n)
  | .float x => Text.lettersOf (jsonFloat x)
  | .text t => jsonString layout t
  | .list items => jsonNest layout depth "[" "]" (jsonItems layout (depth + 1) items)
  | .dict entries => jsonNest layout depth "\x7b" "\x7d" (jsonEntries layout (depth + 1) entries)
  | _ => Text.lettersOf "null"

def jsonItems (layout : JsonLayout) (depth : Nat) : List Meaning → List (List Letter)
  | [] => []
  | m :: ms => jsonText layout depth m :: jsonItems layout depth ms

def jsonEntries (layout : JsonLayout) (depth : Nat) : List (Meaning × Meaning) → List (List Letter)
  | [] => []
  | (key, m) :: rest =>
    (jsonText layout depth key ++ Text.lettersOf layout.colon ++ jsonText layout depth m) ::
      jsonEntries layout depth rest

end

def writtenRecord (layout : JsonLayout) (dumping : Dumping) (selection : Selection) (m : Meaning) :
    Except Fault Meaning := do
  let data ← dumped { dumping with isJson := true, isWritten := true } selection m
  let t := jsonText layout 0 data
  if (Text.chars? t).isSome then .ok (.text t)
  else
    .error (.of "PydanticSerializationError"
      "Error serializing to JSON: UnicodeEncodeError: 'utf-8' codec can't encode characters: surrogates not allowed")

/-! Schemes. -/

def textEntries (entries : List (String × Meaning)) : Meaning :=
  .dict (entries.map fun (name, m) => (ofString name, m))

def schemeReference (form : String) (m : Model) : Meaning :=
  textEntries [("$ref", ofString (m.name.intercalate (form.splitOn "\x7bmodel\x7d")))]

def fieldScheme (form : String) (m : Model) (field : ModelField) : Meaning :=
  let default := field.absent.toList.map fun v => ("default", ofValue m v)
  let title := ("title", ofString (Text.title field.name))
  match field.type with
  | .instances => textEntries (default ++ [("items", schemeReference form m), title, ("type", ofString "array")])
  | type =>
    let word := match type with
      | .number => "number"
      | .integer => "integer"
      | .flag => "boolean"
      | _ => "string"
    textEntries (default ++ [title, ("type", ofString word)])

def bareScheme (form : String) (m : Model) : Meaning :=
  let required := (m.fields.filter (·.absent.isNone)).map fun field => ofString field.name
  textEntries
    ([("properties", textEntries (m.fields.map fun field => (field.name, fieldScheme form m field)))] ++
      (if required.isEmpty then [] else [("required", .list required)]) ++
      [("title", ofString m.name), ("type", ofString "object")])

def schemeOf (form : String) (m : Model) : Meaning :=
  if m.fields.any (·.type = .instances) then
    textEntries [("$defs", textEntries [(m.name, bareScheme form m)]), ("$ref", ofString s!"#/$defs/{m.name}")]
  else bareScheme form m

end Meaning
end RestDispatch
