import RestDispatch.Proofs.App.Returning
import RestDispatch.Proofs.Http.Sending
import RestDispatch.Proofs.Json.Validity

set_option autoImplicit false

/-!
Bodies that are announced as JSON. Main statement: the body of a response with a content, and of the envelope around one, is a
text of the standard grammar if and only if every float in the content, those among keys aside, is finite.
-/
namespace RestDispatch

open Text.Utf8 (isHalf)

namespace Content

mutual

def finite : Content → Bool
  | .data v => v.finite
  | .model _ fields => fields.finite
  | .list items => itemsFinite items
  | .tuple items => itemsFinite items
  | .dict entries => entriesFinite entries
  | _ => true

def itemsFinite : List Content → Bool
  | [] => true
  | c :: cs => finite c && itemsFinite cs

-- A number among the keys is written as a string.
def entriesFinite : List (Content × Content) → Bool
  | [] => true
  | (_, c) :: entries => finite c && entriesFinite entries

end

theorem key_text_string (bounds : Json.Bounds) (k : Content) (key : List Letter) (written : keyText bounds k = .ok key) :
    ∃ name, key = Json.stringText name := by
  unfold keyText at written
  split at written
  case h_1 => exact ⟨_, (Except.ok.inj written).symm⟩
  case h_6 => cases written
  all_goals
    obtain ⟨name, scalar, rfl⟩ := (map_eq_ok _ _ _).mp written
    exact ⟨name, rfl⟩

mutual

theorem encode_writes (bounds : Json.Bounds) (c : Content) (text : List Letter) (written : c.encode bounds = .ok text)
    (whole : text.any isHalf = false) : Json.Writes .value c.finite text := by
  cases c with
  | data v => exact Json.encode_writes bounds v text written whole
  | model name fields =>
    rw [encode] at written
    split at written
    case isTrue => cases written
    case isFalse => exact Json.encode_writes bounds.inside fields text written whole
  | list items =>
    obtain ⟨_, texts, parts, rfl⟩ := (Json.nested_ok_iff bounds _ _ _ text).mp written
    exact Json.array_writes _ texts (encode_items_write bounds.inside items texts parts (Json.parts_whole texts _ _ whole))
  | tuple items =>
    obtain ⟨_, texts, parts, rfl⟩ := (Json.nested_ok_iff bounds _ _ _ text).mp written
    exact Json.array_writes _ texts (encode_items_write bounds.inside items texts parts (Json.parts_whole texts _ _ whole))
  | dict entries =>
    obtain ⟨_, texts, parts, rfl⟩ := (Json.nested_ok_iff bounds _ _ _ text).mp written
    exact Json.object_writes _ texts (encode_entries_write bounds.inside entries texts parts (Json.parts_whole texts _ _ whole))
  | _ => cases written

theorem encode_items_write (bounds : Json.Bounds) (items : List Content) (texts : List (List Letter))
    (written : encodeItems bounds items = .ok texts) (whole : ∀ text ∈ texts, text.any isHalf = false) :
    Json.EachWrites .element (itemsFinite items) texts := by
  cases items with
  | nil =>
    obtain rfl := Except.ok.inj written
    exact Json.none_writes .element
  | cons c cs =>
    obtain ⟨text, first, more⟩ := (bind_eq_ok _ _ _).mp written
    obtain ⟨others, rest, same⟩ := (bind_eq_ok _ _ _).mp more
    obtain rfl := Except.ok.inj same
    obtain ⟨wholeFirst, wholeRest⟩ := List.forall_mem_cons.mp whole
    have element := Json.element_writes _ text (encode_writes bounds c text first wholeFirst)
    exact Json.more_writes .element _ _ text others element (encode_items_write bounds cs others rest wholeRest)

theorem encode_entries_write (bounds : Json.Bounds) (entries : List (Content × Content)) (texts : List (List Letter))
    (written : encodeEntries bounds entries = .ok texts) (whole : ∀ text ∈ texts, text.any isHalf = false) :
    Json.EachWrites .member (entriesFinite entries) texts := by
  cases entries with
  | nil =>
    obtain rfl := Except.ok.inj written
    exact Json.none_writes .member
  | cons entry rest =>
    obtain ⟨k, c⟩ := entry
    obtain ⟨key, named, more⟩ := (bind_eq_ok _ _ _).mp written
    obtain ⟨text, first, more⟩ := (bind_eq_ok _ _ _).mp more
    obtain ⟨others, later, same⟩ := (bind_eq_ok _ _ _).mp more
    obtain rfl := Except.ok.inj same
    obtain ⟨name, rfl⟩ := key_text_string bounds k key named
    obtain ⟨wholeFirst, wholeRest⟩ := List.forall_mem_cons.mp whole
    rw [List.any_append, Bool.or_eq_false_iff, Json.string_text_half, List.any_cons, Bool.or_eq_false_iff] at wholeFirst
    have member := Json.member_writes _ name text wholeFirst.1 (encode_writes bounds c text first wholeFirst.2.2)
    exact Json.more_writes .member _ _ _ others member (encode_entries_write bounds rest others later wholeRest)

end

theorem json_bytes_valid_iff (content : Content) (bytes : Bytes) (made : content.jsonBytes = .ok bytes) :
    Json.IsJson bytes ↔ content.finite = true := by
  obtain ⟨text, encoded, written⟩ := (bind_eq_ok _ _ _).mp made
  cases carried : Text.Utf8.encodeLetters text with
  | error e => simp [carried] at written
  | ok carriedBytes =>
    simp only [carried, Except.ok.injEq] at written
    subst written
    obtain ⟨cs, rfl, rfl⟩ := Json.encoded_chars text carriedBytes carried
    obtain ⟨ds, same, shaped⟩ := content.encode_writes .ofBody _ encoded (Text.letters_any_half cs)
    have chars : cs = ds := by rw [← Text.leadingChars_letters cs, same, Text.leadingChars_letters]
    subst chars
    exact Json.shaped_bytes _ cs shaped

end Content

namespace Answer

theorem envelope_valid (code : Int) (entries : Entries) (response : Response) (made : envelope code entries = .ok response)
    (finite : (Value.ofEntries (("code", .int code) :: entries)).finite = true) :
    response.mediaType = "application/json" ∧ Json.IsJson response.body := by
  obtain ⟨written, _, _, mediaType⟩ := Response.json_made _ _ _ response made
  exact ⟨mediaType, (Content.json_bytes_valid_iff _ _ written).mpr finite⟩

-- Whatever is not a handler's doing is answered with codes and texts.
theorem unsuccessful_valid (debug : Bool) (answer : Answer) (response : Response) (made : answer.response debug = .ok response)
    (own : ∀ custom, answer ≠ .custom custom) (failed : ∀ body, answer ≠ .success body) :
    response.mediaType = "application/json" ∧ Json.IsJson response.body := by
  cases answer with
  | notFound => exact envelope_valid 404 _ response made rfl
  | undefinedMethod method => exact envelope_valid 400 _ response made rfl
  | unsupportedBody => exact envelope_valid 403 _ response made rfl
  | badParameter code message => exact envelope_valid 400 _ response made rfl
  | badModel report => exact envelope_valid 400 _ response made rfl
  | failed fault =>
    cases debug with
    | true => exact envelope_valid 500 _ response made rfl
    | false => exact envelope_valid 500 _ response made rfl
  | success body => exact absurd rfl (failed body)
  | custom response => exact absurd rfl (own response)

theorem success_valid_iff (content : Content) (body : Bytes) (written : successBody content = .ok body) :
    Json.IsJson body ↔ content.finite = true := by
  rw [Content.json_bytes_valid_iff _ _ written]
  simp [Content.finite, Content.entriesFinite, Value.finite]

end Answer

theorem Registry.returned_written (registry : Registry) (scope : Scope) (channel : Channel) (content : Content) (body : Bytes)
    (returns : registry.Returns scope channel content) (success : (registry.answer scope channel).1 = .ok (.success body)) :
    Answer.successBody content = .ok body := by
  rw [registry.answer_returns scope channel content returns] at success
  have concluded : Concludes (.ok (.content content)) (.ok (.success body)) := (concludes_iff _ _).mpr success
  cases concluded with
  | written content body written => exact written

-- A body that is sent as JSON.
def Announced (messages : List Message) (body : Bytes) : Prop :=
  ∃ status headers, messages = [.start status headers, .body body] ∧
    (Response.contentTypeName, Text.Utf8.bytes "application/json") ∈ headers

theorem Response.messages_announce (response : Response) (messages : List Message) (sent : response.messages = .ok messages)
    (typed : response.mediaType = "application/json") : Announced messages response.body := by
  have latin : latinBytes "application/json" = .ok (Text.Utf8.bytes "application/json") := rfl
  obtain ⟨mediaType, encoded, more⟩ := (bind_eq_ok _ _ _).mp sent
  obtain ⟨own, written, same⟩ := (bind_eq_ok _ _ _).mp more
  rw [typed, latin, Except.ok.injEq] at encoded
  subst encoded
  obtain rfl := Except.ok.inj same
  exact ⟨_, _, rfl, by simp⟩

-- Floats that are not finite are the only contents that spoil a body, wherever they lie in what a response is made of or a
-- handler returns.
theorem json_valid_iff_finite (content : Content) (status : Int) (headers : List (String × String)) (registry : Registry)
    (scope : Scope) (channel : Channel) (debug : Bool) :
    (∀ response, Response.json content status headers = .ok response →
      response.mediaType = "application/json" ∧ (Json.IsJson response.body ↔ content.finite = true)) ∧
    ∀ answer messages, (registry.answer scope channel).1 = .ok answer → (∀ own, answer ≠ .custom own) →
      Dispatcher.send debug (.ok answer) = .ok messages →
      ∃ body, Announced messages body ∧
        (Json.IsJson body ↔ ∀ returned, answer = .success body → registry.Returns scope channel returned → returned.finite = true) := by
  constructor
  · intro response made
    obtain ⟨written, _, _, mediaType⟩ := Response.json_made content status headers response made
    exact ⟨mediaType, content.json_bytes_valid_iff _ written⟩
  · intro answer messages answered own sent
    obtain ⟨response, made, written⟩ := (Answer.send_eq_ok debug answer messages).mp sent
    by_cases failed : ∀ body, answer ≠ .success body
    · obtain ⟨mediaType, valid⟩ := answer.unsuccessful_valid debug response made own failed
      refine ⟨response.body, response.messages_announce messages written mediaType, fun _ returned success => ?_, fun _ => valid⟩
      exact absurd success (failed response.body)
    · obtain ⟨body, success⟩ : ∃ body, answer = .success body := by simpa using failed
      subst success
      obtain rfl := Except.ok.inj made
      refine ⟨body, Response.messages_announce _ messages written rfl, ?_⟩
      constructor
      · intro valid returned _ returns
        have encoded := registry.returned_written scope channel returned body returns answered
        exact (Answer.success_valid_iff returned body encoded).mp valid
      · intro finite
        obtain ⟨returned, returns, encoded⟩ := (registry.answer_success_iff scope channel body).mp answered
        exact (Answer.success_valid_iff returned body encoded).mpr (finite returned rfl returns)

namespace AppState

-- A page that returns a gauge without a measurement. The key that is no number does no harm.
def unmeasured : Content := .dict [(.data (.float (0.0 / 0.0)), .data .null)]

def gauge : Content := .list [unmeasured, .model "Gauge" (.object [(Text.lettersOf "level", .float (1.0 / 0.0))])]

def gaugePage : ResourceClass :=
  { name := "Gauge"
    methods := [("get",
      { label := "Gauge.get"
        signature := { parameters := [] }
        run := fun situation => ⟨.ok (.content gauge), situation.items⟩ })] }

def gaugeSteps : List AppStep := [.setup (.add "/gauge" (.fresh gaugePage) [])]

def gaugeScope : Scope := { method := some "GET", path := some "/gauge" }

theorem gauge_announced_no_json :
    let state := ((new false false []).run gaugeSteps).2
    (∃ response, Response.json unmeasured 200 [] = .ok response ∧ Json.IsJson response.body) ∧
    (∃ response, Response.json gauge 200 [] = .ok response ∧ ¬ Json.IsJson response.body) ∧
    ∃ answer messages body, (state.registry.answer gaugeScope {}).1 = .ok answer ∧ (∀ own, answer ≠ .custom own) ∧
      Dispatcher.send false (.ok answer) = .ok messages ∧ Announced messages body ∧ ¬ Json.IsJson body := by
  intro state
  have infinite : ¬ gauge.finite = true := by decide
  have found : state.registry.find? "/gauge" = some ([], .object gaugePage 0) := rfl
  have reached := (⟨"/gauge", [], _, .get, rfl, found, rfl, rfl, rfl, rfl, rfl⟩ :
    state.registry.Reaches gaugeScope {} (.object gaugePage 0) _ none _)
  have returns : state.registry.Returns gaugeScope {} gauge := ⟨_, _, _, _, [], _, reached, rfl, rfl⟩
  have key := json_valid_iff_finite unmeasured 200 [] state.registry gaugeScope {} false
  have both := json_valid_iff_finite gauge 200 [] state.registry gaugeScope {} false
  refine ⟨?key, ?response, ?envelope⟩
  case key =>
    obtain ⟨response, made⟩ : ∃ response, Response.json unmeasured 200 [] = .ok response := ⟨_, rfl⟩
    exact ⟨response, made, (key.1 response made).2.mpr rfl⟩
  case response =>
    obtain ⟨response, made⟩ : ∃ response, Response.json gauge 200 [] = .ok response := ⟨_, rfl⟩
    exact ⟨response, made, fun valid => infinite ((both.1 response made).2.mp valid)⟩
  case envelope =>
    obtain ⟨written, encoded⟩ : ∃ body, Answer.successBody gauge = .ok body := ⟨_, rfl⟩
    have success := (state.registry.answer_success_iff gaugeScope {} written).mpr ⟨gauge, returns, encoded⟩
    have own : ∀ response, Answer.success written ≠ .custom response := by simp
    obtain ⟨headers, sent⟩ := Dispatcher.send_success false written
    obtain ⟨body, announced, valid⟩ := both.2 _ _ success own sent
    have same : written = body := by
      obtain ⟨status, framing, same, _⟩ := announced
      cases same
      rfl
    subst same
    exact ⟨_, _, written, success, own, sent, announced, fun spoiled => infinite (valid.mp spoiled gauge rfl returns)⟩

end AppState
end RestDispatch
