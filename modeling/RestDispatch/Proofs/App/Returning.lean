import RestDispatch.Proofs.App.Deciding
import RestDispatch.Proofs.Http.Receiving
import RestDispatch.Proofs.Json.Reading

set_option autoImplicit false

/-!
What handlers return, read back. Main statement: a value that JSON texts carry whole is written into the body of a response,
and a request with that body reads it as it was; an envelope around it says the code and the message as well. How deep a value
lies matters to the limits of the writer and of the reader, and to nothing else.
-/
namespace RestDispatch

namespace Content

def textKey? : Content → Option (List Letter)
  | .data (.text key) => some key
  | _ => none

-- The value that a thing amounts to, if it is one: lists and dictionaries with texts as keys are, tuples and models are not.
mutual

def value? : Content → Option Value
  | .data v => some v
  | .list items => (itemValues? items).map .list
  | .dict entries => (entryValues? entries).map .object
  | _ => none

def itemValues? : List Content → Option (List Value)
  | [] => some []
  | c :: cs => do
    let first ← value? c
    let rest ← itemValues? cs
    some (first :: rest)

def entryValues? : List (Content × Content) → Option Fields
  | [] => some []
  | (k, c) :: entries => do
    let key ← textKey? k
    let first ← value? c
    let rest ← entryValues? entries
    some ((key, first) :: rest)

end

theorem key_text_of (bounds : Json.Bounds) (k : Content) (key : List Letter) (named : textKey? k = some key) :
    keyText bounds k = .ok (Json.stringText key) := by
  unfold textKey? at named
  split at named
  · obtain rfl := Option.some.inj named
    rfl
  · cases named

mutual

theorem encode_value (bounds : Json.Bounds) (c : Content) (v : Value) (plain : c.value? = some v) : c.encode bounds = Json.encode bounds v := by
  cases c with
  | data w =>
    obtain rfl : w = v := Option.some.inj plain
    rfl
  | list items =>
    obtain ⟨values, each, rfl⟩ := Option.map_eq_some_iff.mp plain
    rw [encode, Json.encode, encode_item_values bounds.inside items values each]
  | dict entries =>
    obtain ⟨fields, each, rfl⟩ := Option.map_eq_some_iff.mp plain
    rw [encode, Json.encode, encode_entry_values bounds.inside entries fields each]
  | _ => cases plain

theorem encode_item_values (bounds : Json.Bounds) (items : List Content) (values : List Value) (plain : itemValues? items = some values) :
    encodeItems bounds items = Json.encodeItems bounds values := by
  cases items with
  | nil =>
    obtain rfl : [] = values := Option.some.inj plain
    rfl
  | cons c cs =>
    obtain ⟨v, first, rest⟩ := Option.bind_eq_some_iff.mp plain
    obtain ⟨vs, others, same⟩ := Option.bind_eq_some_iff.mp rest
    obtain rfl : v :: vs = values := Option.some.inj same
    rw [encodeItems, Json.encodeItems, encode_value bounds c v first, encode_item_values bounds cs vs others]

theorem encode_entry_values (bounds : Json.Bounds) (entries : List (Content × Content)) (fields : Fields)
    (plain : entryValues? entries = some fields) : encodeEntries bounds entries = Json.encodeFields bounds fields := by
  cases entries with
  | nil =>
    obtain rfl : [] = fields := Option.some.inj plain
    rfl
  | cons entry more =>
    obtain ⟨k, c⟩ := entry
    obtain ⟨key, named, rest⟩ := Option.bind_eq_some_iff.mp plain
    obtain ⟨v, first, rest⟩ := Option.bind_eq_some_iff.mp rest
    obtain ⟨fs, others, same⟩ := Option.bind_eq_some_iff.mp rest
    obtain rfl : (key, v) :: fs = fields := Option.some.inj same
    rw [encodeEntries, Json.encodeFields, key_text_of bounds k key named, encode_value bounds c v first,
      encode_entry_values bounds more fs others]
    rfl

end

theorem encode_plain (bounds : Json.Bounds) (roomy : bounds.Roomy) (content : Content) (v : Value) (plain : content.value? = some v)
    (portable : v.portable = true) : Json.Within (· = .deepEncoding) (content.encode bounds) bounds v.depth (Json.written v) := by
  rw [content.encode_value bounds v plain]
  exact Json.encode_written bounds roomy v portable

theorem json_bytes_value (content : Content) (v : Value) (plain : content.value? = some v) (portable : v.portable = true) :
    Json.Within (· = .deepEncoding) content.jsonBytes .ofBody v.depth (Json.writtenBytes v) := by
  have encoded := content.encode_plain .ofBody Json.Bounds.roomy_body v plain portable
  rw [jsonBytes]
  constructor
  · intro admits
    rw [encoded.admitted admits]
    simp only [bind, Except.bind, Json.encode_written_letters v portable]
  · intro deep
    obtain ⟨fault, stopped, reason⟩ := encoded.tooDeep deep
    exact ⟨fault, by rw [stopped]; rfl, reason⟩

end Content

-- A request whose body is these bytes, whether they have been received or are still to come.
def Request.Holds (request : Request) (bytes : Bytes) : Prop :=
  request.kept = some bytes ∨ (request.kept = none ∧ request.channel.Whole bytes)

theorem Request.holds_body (request : Request) (bytes : Bytes) (holds : request.Holds bytes) : request.body.1 = .ok bytes := by
  rcases holds with kept | ⟨unread, whole⟩
  · rw [body, kept]
  · exact request.body_whole bytes unread whole

-- A body from which every request reads a value, however it is cut into messages, unless lists and objects lie too deep inside
-- each other for the reader.
structure ReadBack (body : Bytes) (v : Value) : Prop where
  unbounded : Json.decodeBytes Json.Bounds.ofBody.bottomless body = .ok v
  read : v.depth ≤ Value.nestLimit → ∀ request : Request, request.Holds body → request.json.1 = .ok v
  tooDeep : Value.nestLimit < v.depth → ∀ request : Request, request.Holds body →
    ∃ nest, request.json.1 = .error (Json.ReadError.tooDeep nest).fault

theorem written_read_back (v : Value) (portable : v.portable = true) : ReadBack (Json.writtenBytes v) v := by
  have recovers := fun bounds roomy => Json.decode_bytes_written bounds roomy v portable
  have body := recovers .ofBody Json.Bounds.roomy_body
  have read : ∀ request : Request, request.Holds (Json.writtenBytes v) →
      request.json.1 = (Json.decodeBytes .ofBody (Json.writtenBytes v)).mapError Json.ReadError.fault := by
    intro request holds
    have received := request.holds_body _ holds
    cases body : request.body with
    | mk result next =>
      rw [body] at received
      obtain rfl : result = .ok (Json.writtenBytes v) := received
      rw [request.json_body next _ body]
  constructor
  case unbounded =>
    have bottomless := recovers Json.Bounds.ofBody.bottomless (Json.Bounds.roomy_bottomless _ Json.Bounds.roomy_body)
    exact bottomless.admitted (Json.Bounds.admits_bottomless _ _)
  case read =>
    intro shallow request holds
    rw [read request holds, body.admitted ((Json.Bounds.admits_body_iff v.depth).mpr shallow)]
    rfl
  case tooDeep =>
    intro deep request holds
    obtain ⟨_, stopped, nest, rfl⟩ := body.tooDeep fun admits => by
      exact absurd ((Json.Bounds.admits_body_iff v.depth).mp admits) (Nat.not_le_of_lt deep)
    exact ⟨nest, by rw [read request holds, stopped]; rfl⟩

namespace Answer

-- The envelope that is sent around a value.
def sent (v : Value) : Value := .ofEntries [("code", .int 200), ("message", .text "success"), ("data", v)]

theorem sent_portable (v : Value) (portable : v.portable = true) : (sent v).portable = true := by
  have keys : [Text.lettersOf "code", Text.lettersOf "message", Text.lettersOf "data"].Nodup := by decide
  have named : ∀ name ∈ ["code", "message", "data"], (Text.lettersOf name).any Text.Utf8.isHalf = false := by decide
  have code : (Value.int 200).portable = true := by decide
  have message : (Value.text "success").portable = true := by decide
  rw [sent, Value.ofEntries, Value.portable, Bool.and_eq_true]
  refine ⟨decide_eq_true keys, ?_⟩
  simp only [List.map_cons, List.map_nil, Value.fieldsPortable, named "code" (by simp), named "message" (by simp), named "data" (by simp),
    code, message, portable, Bool.not_false, Bool.and_self]

theorem success_body_value (content : Content) (v : Value) (plain : content.value? = some v) (portable : v.portable = true) :
    Json.Within (· = .deepEncoding) (successBody content) .ofBody (sent v).depth (Json.writtenBytes (sent v)) := by
  have envelope : (Content.dict
      [(.data (.text "code"), .data (.int 200)), (.data (.text "message"), .data (.text "success")), (.data (.text "data"), content)]).value? =
        some (sent v) := by
    simp [Content.value?, Content.entryValues?, Content.textKey?, plain, sent, Value.ofEntries]
  exact Content.json_bytes_value _ _ envelope (sent_portable v portable)

-- The envelope is a nest of its own.
theorem sent_depth (v : Value) : (sent v).depth = v.depth + 1 := by
  simp [sent, Value.ofEntries, Value.depth, Value.fieldsDepth]

end Answer

namespace Registry

-- The content that the handler returns which a request is dispatched to.
def Returns (registry : Registry) (scope : Scope) (channel : Channel) (content : Content) : Prop :=
  ∃ resource handler parser request arguments later, registry.Reaches scope channel resource handler parser request ∧
    handler.signature.collect handler.signature.models parser request = (.ok arguments, later) ∧
    (registry.outcome resource handler arguments later).result = .ok (.content content)

-- Whatever settles a request before a handler is called is no success.
theorem success_reached (registry : Registry) (scope : Scope) (channel : Channel) (body : Bytes)
    (success : (registry.answer scope channel).1 = .ok (.success body)) :
    ∃ resource handler parser request, registry.Reaches scope channel resource handler parser request := by
  rw [answer] at success
  cases routed : scope.path with
  | none => simp [routed] at success
  | some path =>
    cases found : registry.find? path with
    | none => simp [routed, found] at success
    | some hit =>
      obtain ⟨captures, resource⟩ := hit
      simp only [routed, found, serve] at success
      cases served : registry.endpoint? resource with
      | none => simp [served] at success
      | some endpoint =>
        simp only [served] at success
        generalize made : Request.ofScope scope channel _ = built at success
        cases built with
        | error fault => simp at success
        | ok request =>
          cases named : Verb.named? request.method with
          | none => simp [named] at success
          | some verb =>
            cases handled : endpoint.methods.lookup verb with
            | none => simp [named, handled] at success
            | some handler =>
              exact ⟨resource, handler, _, request, path, captures, endpoint, verb, routed, found, served, made, named, handled, rfl⟩

theorem answer_success_iff (registry : Registry) (scope : Scope) (channel : Channel) (body : Bytes) :
    (registry.answer scope channel).1 = .ok (.success body) ↔
      ∃ content, registry.Returns scope channel content ∧ Answer.successBody content = .ok body := by
  constructor
  · intro success
    obtain ⟨resource, handler, parser, request, reached⟩ := registry.success_reached scope channel body success
    rw [registry.answer_reached _ _ _ _ _ _ reached] at success
    cases collected : handler.signature.collect handler.signature.models parser request with
    | mk result later =>
      cases result with
      | error refusal =>
        rw [registry.perform_refused _ _ _ _ refusal (by rw [collected])] at success
        cases refusal <;> cases success
      | ok arguments =>
        rw [registry.perform_called _ _ _ _ _ _ collected] at success
        have concluded := (concludes_iff _ _).mpr success
        generalize returned : (registry.outcome resource handler arguments later).result = result at concluded
        cases concluded with
        | written content body written =>
          exact ⟨content, ⟨resource, handler, parser, request, arguments, later, reached, collected, returned⟩, written⟩
  · rintro ⟨content, ⟨resource, handler, parser, request, arguments, later, reached, collected, returned⟩, written⟩
    rw [registry.answer_reached _ _ _ _ _ _ reached, registry.perform_called _ _ _ _ _ _ collected, returned]
    exact (concludes_iff _ _).mp (.written content body written)

end Registry

-- How content that stands for a value is carried: a response with it is read back, a handler that returns it is answered with
-- an envelope from which the code, the message and the value are read, and no envelope of a success stems from anything else.
-- What lies too deep for the writer fails there, and a handler that returns it is answered with that.
structure Content.Carried (content : Content) (v : Value) : Prop where
  unbounded : ∃ text body, content.encode Json.Bounds.ofBody.bottomless = .ok text ∧ Text.Utf8.encodeLetters text = .ok body ∧
    ReadBack body v
  response : v.depth ≤ Value.nestLimit → ∀ status headers, ∃ made, Response.json content status headers = .ok made ∧ ReadBack made.body v
  tooDeep : Value.nestLimit < v.depth → ∀ status headers, Response.json content status headers = .error .deepEncoding
  returned : v.depth < Value.nestLimit → ∀ (registry : Registry) scope channel, registry.Returns scope channel content → ∀ debug,
    ∃ headers body, Dispatcher.send debug (registry.answer scope channel).1 = .ok [.start 200 headers, .body body] ∧
      ReadBack body (Answer.sent v)
  failed : Value.nestLimit ≤ v.depth → ∀ (registry : Registry) scope channel, registry.Returns scope channel content →
    (registry.answer scope channel).1 = .ok (.failed .deepEncoding)
  every : ∀ (registry : Registry) scope channel body, (registry.answer scope channel).1 = .ok (.success body) →
    ∃ other, registry.Returns scope channel other ∧ (other.value? = some v → ReadBack body (Answer.sent v))

theorem Dispatcher.send_success (debug : Bool) (body : Bytes) :
    ∃ headers, send debug (.ok (.success body)) = .ok [.start 200 headers, .body body] := by
  obtain ⟨mediaType, latin⟩ : ∃ bytes, latinBytes "application/json" = .ok bytes := ⟨_, rfl⟩
  have written : (Answer.jsonResponse 200 body).messages =
      .ok [.start 200 [(Response.contentTypeName, mediaType), (Response.contentLengthName, Response.decimalBytes body.length)],
        .body body] := by
    simp only [Response.messages, Answer.jsonResponse, latin]
    rfl
  have sent : send debug (.ok (.success body)) = (Answer.jsonResponse 200 body).messages.mapError .raised := rfl
  exact ⟨_, by rw [sent, written]; rfl⟩

theorem Registry.answer_returns (registry : Registry) (scope : Scope) (channel : Channel) (content : Content)
    (returns : registry.Returns scope channel content) :
    (registry.answer scope channel).1 = Answer.ofResult (.ok (.content content)) := by
  obtain ⟨resource, handler, parser, request, arguments, later, reached, collected, returned⟩ := returns
  rw [registry.answer_reached _ _ _ _ _ _ reached, registry.perform_called _ _ _ _ _ _ collected, returned]

theorem Content.carried_whole (content : Content) (v : Value) (plain : content.value? = some v) (portable : v.portable = true) :
    content.Carried v := by
  have enveloped := written_read_back (Answer.sent v) (Answer.sent_portable v portable)
  have alone := content.json_bytes_value v plain portable
  have around := Answer.success_body_value content v plain portable
  rw [Answer.sent_depth] at around
  constructor
  case unbounded =>
    have encoded := content.encode_plain _ (Json.Bounds.roomy_bottomless _ Json.Bounds.roomy_body) v plain portable
    exact ⟨_, _, encoded.admitted (Json.Bounds.admits_bottomless _ _), Json.encode_written_letters v portable, written_read_back v portable⟩
  case response =>
    intro shallow status headers
    refine ⟨{ body := Json.writtenBytes v, status, headers, mediaType := "application/json" }, ?_, written_read_back v portable⟩
    rw [Response.json, alone.admitted ((Json.Bounds.admits_body_iff v.depth).mpr shallow)]
    rfl
  case tooDeep =>
    intro deep status headers
    obtain ⟨_, stopped, rfl⟩ := alone.tooDeep fun admits => Nat.not_le_of_lt deep ((Json.Bounds.admits_body_iff v.depth).mp admits)
    rw [Response.json, stopped]
    rfl
  case returned =>
    intro shallow registry scope channel returns debug
    have written := around.admitted ((Json.Bounds.admits_body_iff _).mpr shallow)
    have success := (registry.answer_success_iff scope channel _).mpr ⟨content, returns, written⟩
    obtain ⟨headers, sent⟩ := Dispatcher.send_success debug (Json.writtenBytes (Answer.sent v))
    exact ⟨headers, _, by rw [success, sent], enveloped⟩
  case failed =>
    intro deep registry scope channel returns
    obtain ⟨_, stopped, rfl⟩ := around.tooDeep fun admits => Nat.not_lt_of_le deep ((Json.Bounds.admits_body_iff _).mp admits)
    rw [registry.answer_returns scope channel content returns]
    exact (concludes_iff _ _).mp (.unwritten content .deepEncoding stopped)
  case every =>
    intro registry scope channel body success
    obtain ⟨other, returns, written⟩ := (registry.answer_success_iff scope channel body).mp success
    refine ⟨other, returns, fun same => ?_⟩
    obtain rfl := (Answer.success_body_value other v same portable).eq_of_ok written
    exact enveloped

namespace AppState

-- A page that returns a memo: a text with characters of all kinds, numbers, and things in each other.
def memoText : List Letter := Text.letters ['"', '\\', '\n', '\x01', '/', 'a', Char.ofNat 0xE9, Char.ofNat 0x1F600]

def memo : Content :=
  .dict
    [(.data (.text memoText), .list [.data (.int (-120)), .list [], .data (.object [])]), (.data (.text "done"), .data (.bool false)),
     (.data (.text ""), .data .null)]

def memoValue : Value :=
  .object [(memoText, .list [.int (-120), .list [], .object []]), (Text.lettersOf "done", .bool false), (Text.lettersOf "", .null)]

def memoPage : ResourceClass :=
  { name := "Memo"
    methods := [("get",
      { label := "Memo.get"
        signature := { parameters := [] }
        run := fun situation => ⟨.ok (.content memo), situation.items⟩ })] }

def memoSteps : List AppStep := [.setup (.add "/memo" (.fresh memoPage) [])]

def memoScope : Scope := { method := some "GET", path := some "/memo" }

theorem memo_read_back :
    let state := ((new false false []).run memoSteps).2
    memo.value? = some memoValue ∧ memoValue.portable = true ∧ state.registry.Returns memoScope {} memo ∧
      (∃ made, Response.json memo 200 [] = .ok made ∧ ReadBack made.body memoValue) ∧
      ∃ headers body, Dispatcher.send false (state.registry.answer memoScope {}).1 = .ok [.start 200 headers, .body body] ∧
        ReadBack body (Answer.sent memoValue) := by
  intro state
  have plain : memo.value? = some memoValue := rfl
  have portable : memoValue.portable = true := by decide
  have carried := Content.carried_whole memo memoValue plain portable
  have shallow : memoValue.depth < Value.nestLimit := by decide
  have found : state.registry.find? "/memo" = some ([], .object memoPage 0) := rfl
  have reached := (⟨"/memo", [], _, .get, rfl, found, rfl, rfl, rfl, rfl, rfl⟩ :
    state.registry.Reaches memoScope {} (.object memoPage 0) _ none _)
  have returns : state.registry.Returns memoScope {} memo := ⟨_, _, _, _, [], _, reached, rfl, rfl⟩
  exact ⟨plain, portable, returns, carried.response (Nat.le_of_lt shallow) 200 [],
    carried.returned shallow state.registry memoScope {} returns false⟩

end AppState
end RestDispatch
